import PjProject.ByteOrder
import PjProject.PjString
import PjProject.Transition

/-!
# H.264 depacketizing

`pjmedia_h264_unpacketize`: the payloads of a picture are put together to a bitstream
of NAL units with start codes. The bitstream is the list of the bytes in front of
`*bits_pos`; what is behind them in the buffer is never read. A payload that was lost
is no payload.
-/
namespace PjProject.H264

open Transition

def nalTypeStapA : UInt8 := 24

def nalTypeFuA : UInt8 := 28

inductive Status
  | success
  | einval
  | etoosmall
  | eignored
  | enotsup
  deriving DecidableEq

structure UnpackCfg where
  unpackNalStart : ℕ
  bitsLen : ℕ
  nalStart_le : unpackNalStart ≤ 4

def UnpackCfg.nalStartCode (cfg : UnpackCfg) : Bytes := [0, 0, 0, 1].drop (4 - cfg.unpackNalStart)

structure Unpack where
  lastSyncPos : ℕ
  prevLost : Bool
  bits : Bytes
  deriving DecidableEq

def stapLoop (cfg : UnpackCfg) : ℕ → Unpack → Bytes → Unpack × Bool
  | 0, s, _ => (s, true)
  | n + 1, s, q =>
    if q.length = 0 ∨ cfg.bitsLen ≤ s.bits.length then (s, true)
    else if cfg.bitsLen < s.bits.length + cfg.unpackNalStart ∨ q.length < 2 then (s, false)
    else
      let nalSize := (ByteOrder.get16 q 0).toNat
      let q := q.drop 2
      if cfg.bitsLen < s.bits.length + cfg.unpackNalStart + nalSize ∨ q.length < nalSize then (s, false)
      else
        let bits := s.bits ++ cfg.nalStartCode ++ q.take nalSize
        stapLoop cfg n { s with bits := bits, lastSyncPos := bits.length } (q.drop nalSize)

def nalType (payload : Bytes) : UInt8 := payload.getD 0 0 &&& 0x1F

def unpackSingle (cfg : UnpackCfg) (s : Unpack) (payload : Bytes) : Unpack × Status :=
  if cfg.bitsLen - s.bits.length < payload.length + cfg.unpackNalStart then (s, .etoosmall)
  else
    let bits := s.bits ++ cfg.nalStartCode ++ payload
    ({ bits := bits, lastSyncPos := bits.length, prevLost := false }, .success)

def unpackStapA (cfg : UnpackCfg) (s : Unpack) (payload : Bytes) : Unpack × Status :=
  if cfg.bitsLen - s.bits.length < payload.length + 32 then (s, .etoosmall)
  else
    let (s, ok) := stapLoop cfg payload.length s (payload.drop 1)
    if ok then ({ s with prevLost := false }, .success) else (s, .einval)

def unpackFuA (cfg : UnpackCfg) (s : Unpack) (payload : Bytes) : Unpack × Status :=
  if cfg.bitsLen - s.bits.length < payload.length + cfg.unpackNalStart then
    ({ s with prevLost := true }, .etoosmall)
  else
    let header := payload.getD 1 0
    let start : Bool := header &&& 0x80 ≠ 0
    let nri := (payload.getD 0 0 &&& 0x60) >>> 5
    if ¬ start ∧ s.prevLost then ({ s with bits := s.bits.take s.lastSyncPos }, .eignored)
    else
      let octet := if start then cfg.nalStartCode ++ [(nri <<< 5) ||| (header &&& 0x1F)] else []
      let bits := s.bits ++ octet ++ payload.drop 2
      ({ bits := bits, prevLost := false
         lastSyncPos := if header &&& 0x40 ≠ 0 then bits.length else s.lastSyncPos }, .success)

def Unpack.resetSync (s : Unpack) : Unpack := if s.bits.length = 0 then { s with lastSyncPos := 0 } else s

def unpacketize (cfg : UnpackCfg) (s : Unpack) : Option Bytes → Unpack × Status
  | none => ({ s with prevLost := true }, .success)
  | some payload =>
    if payload.length < 2 then ({ s with prevLost := true }, .einval)
    else
      let s := s.resetSync
      if 1 ≤ nalType payload ∧ nalType payload ≤ 23 then unpackSingle cfg s payload
      else if nalType payload = nalTypeStapA then unpackStapA cfg s payload
      else if nalType payload = nalTypeFuA then unpackFuA cfg s payload
      else ({ s with bits := [] }, .enotsup)

def receive (cfg : UnpackCfg) (s : Unpack) (payload : Option Bytes) : Unpack := (unpacketize cfg s payload).1

/-- The packets of one or several NAL units: a unit as it is, an aggregation, or the fragments of a
unit. -/
inductive Sent
  | single (nal : Bytes)
  | stapA (header : UInt8) (nals : List Bytes)
  | fuA (octet : UInt8) (chunks : List Bytes)

def fragment (octet start stop : UInt8) (chunk : Bytes) : Bytes :=
  ((octet &&& 0x60) ||| nalTypeFuA) :: (start ||| stop ||| (octet &&& 0x1F)) :: chunk

def fragments (octet start : UInt8) : List Bytes → List Bytes
  | [] => []
  | chunk :: rest => fragment octet start (if rest = [] then 0x40 else 0) chunk :: fragments octet 0 rest

def Sent.packets : Sent → List Bytes
  | .single nal => [nal]
  | .stapA header nals =>
    [header :: nals.flatMap fun nal => ByteOrder.put16 (UInt16.ofNat nal.length) ++ nal]
  | .fuA octet chunks => fragments octet 0x80 chunks

def Sent.nals : Sent → List Bytes
  | .single nal => [nal]
  | .stapA _ nals => nals
  | .fuA octet chunks => [octet :: chunks.flatten]

/-- The types are as the payload formats have them, sizes fit their fields, and a unit that is
fragmented has two fragments at least and its forbidden bit clear. -/
def Sent.WellFormed : Sent → Prop
  | .single nal => 1 ≤ nalType nal ∧ nalType nal ≤ 23
  | .stapA header nals => header &&& 0x1F = nalTypeStapA ∧ ∀ nal ∈ nals, nal.length ≤ 0xFFFF
  | .fuA octet chunks => octet &&& 0x80 = 0 ∧ 2 ≤ chunks.length

/-- Packets of which those marked `false` are lost. -/
def deliver (packets : List Bytes) (got : List Bool) : List (Option Bytes) :=
  List.zipWith (fun p b => if b then some p else none) packets got

abbrev Picture := List (Sent × List Bool)

def Picture.events (pic : Picture) : List (Option Bytes) := pic.flatMap fun x => deliver x.1.packets x.2

def Picture.whole (pic : Picture) : List Bytes :=
  pic.flatMap fun x => if x.2.all id then x.1.nals else []

def Picture.WellFormed (pic : Picture) : Prop :=
  ∀ x ∈ pic, x.1.WellFormed ∧ x.2.length = x.1.packets.length

instance : ∀ sent : Sent, Decidable sent.WellFormed
  | .single _ => inferInstanceAs (Decidable (_ ∧ _))
  | .stapA _ _ => inferInstanceAs (Decidable (_ ∧ _))
  | .fuA _ _ => inferInstanceAs (Decidable (_ ∧ _))

instance (pic : Picture) : Decidable pic.WellFormed := inferInstanceAs (Decidable (∀ x ∈ pic, _))

def UnpackCfg.assemble (cfg : UnpackCfg) (nals : List Bytes) : Bytes :=
  nals.flatMap fun nal => cfg.nalStartCode ++ nal

def Unpack.Unfinished (s : Unpack) : Prop := s.bits ≠ [] ∧ s.bits.length ≠ s.lastSyncPos

instance (s : Unpack) : Decidable s.Unfinished := inferInstanceAs (Decidable (_ ∧ _))

def isContinuation (payload : Bytes) : Bool := nalType payload = nalTypeFuA && payload.getD 1 0 &&& 0x80 = 0

def Admitted (cfg : UnpackCfg) (s : Unpack) (payload : Option Bytes) : Prop :=
  s.Unfinished → ∀ p ∈ payload, p.length < 2 ∨ isContinuation p ∨
    cfg.bitsLen - s.bits.length < p.length + cfg.unpackNalStart

instance (cfg : UnpackCfg) (s : Unpack) (payload : Option Bytes) : Decidable (Admitted cfg s payload) :=
  inferInstanceAs (Decidable (_ → _))

end PjProject.H264
