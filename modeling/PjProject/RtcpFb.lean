import PjProject.RtcpParse

/-!
# RTCP feedback packets

The builders and parsers of generic NACK, SLI and RPSI packets. `big` says that the host
is big-endian: the header is read in place, so that its length field is in network
order for the host.
-/
namespace PjProject.RtcpFb

open Rtcp

inductive Status
  | einval | etoosmall | etoobig | enotfound
deriving DecidableEq

/-- `pjmedia_rtcp_fb_nack` -/
structure Nack where
  pid : ℤ
  blp : UInt16
deriving DecidableEq

/-- `pjmedia_rtcp_fb_sli` -/
structure Sli where
  first : UInt16
  number : UInt16
  pictId : UInt8
deriving DecidableEq

/-- `pjmedia_rtcp_fb_rpsi` -/
structure Rpsi where
  pt : UInt8
  rpsi : Bytes
  rpsiBitLen : ℕ
deriving DecidableEq

/-- The header: `rtcp_fb_com` with the peer's SSRC, the packet type, the format and the length. -/
def buildHeader (com : Common) (peerSsrc : UInt32) (pt fmt : UInt8) (len : ℕ) : Bytes :=
  (com.flags &&& 0xE0 ||| fmt) :: pt :: (netBytes 2 (len / 4 - 1) ++ netBytes 4 com.ssrc.toNat ++
    netBytes 4 peerSsrc.toNat)

def buildItems {α : Type} (enc : α → Bytes) (pt fmt : UInt8) (com : Common) (peerSsrc : UInt32) (cap : ℕ)
    (items : List α) : Except Status Bytes :=
  if items.length = 0 then .error .einval
  else
    let len := (3 + items.length) * 4 % 2 ^ 32
    if len > cap then .error .etoosmall
    else .ok (buildHeader com peerSsrc pt fmt len ++ items.flatMap enc)

def nackBytes (n : Nack) : Bytes := netBytes 2 (n.pid % 65536).toNat ++ netBytes 2 n.blp.toNat

def sliBytes (s : Sli) : Bytes :=
  let first := s.first.toNat
  let number := s.number.toNat
  [.ofNat ((first >>> 5) &&& 0xFF),
    .ofNat ((first &&& 31) <<< 3) ||| .ofNat ((number >>> 10) &&& 7),
    .ofNat ((number >>> 2) &&& 0xFF),
    .ofNat ((number &&& 3) <<< 6) ||| (s.pictId &&& 63)]

def buildNack := buildItems nackBytes 205 1

def buildSli := buildItems sliBytes 206 2

def padLen (bitlen : ℕ) : ℕ := (32 - bitlen % 32) % 32

/-- `pjmedia_rtcp_fb_build_rpsi`; a fault is a read behind the bit string. -/
def buildRpsi (com : Common) (peerSsrc : UInt32) (cap : ℕ) (r : Rpsi) : Except Fault (Except Status Bytes) :=
  let bitlen := (r.rpsiBitLen + 16) % 2 ^ 32
  let padlen := padLen bitlen
  let len := (3 + (bitlen + padlen) % 2 ^ 32 / 32) * 4 % 2 ^ 32
  if len > cap then .ok (.error .etoosmall)
  else do
    let whole ← bytesAt r.rpsi 0 (r.rpsiBitLen / 8)
    let part ← if r.rpsiBitLen % 8 ≠ 0 then bytesAt r.rpsi (r.rpsiBitLen / 8) 1 else .ok []
    .ok (.ok (buildHeader com peerSsrc 206 3 len ++ [.ofNat padlen, r.pt &&& 0x7F] ++ whole ++ part ++
      List.replicate (padlen / 8) 0))

/-- `hdr->rtcp_common.length` as the host reads it. -/
def hostLength (big : Bool) (pkt : Bytes) : Except Fault ℕ :=
  if big then ntohsAt pkt 2
  else do
    let b2 ← byteAt pkt 2
    let b3 ← byteAt pkt 3
    .ok (b2.toNat + b3.toNat * 256)

def readItems {α : Type} (dec : ℕ → Except Fault α) : ℕ → ℕ → Except Fault (List α)
  | 0, _ => .ok []
  | n + 1, p => do
    let x ← dec p
    let xs ← readItems dec n (p + 4)
    .ok (x :: xs)

def fciWords (length : ℕ) : ℕ := if length > 2 then length - 2 else 0

def parseItems {α : Type} (dec : Bytes → ℕ → Except Fault α) (pkt : Bytes) (room : ℕ) :
    Except Fault (Except Status (List α)) := do
  let length ← ntohsAt pkt 2
  let cnt := fciWords length
  if pkt.length < (cnt + 3) * 4 then .ok (.error .etoosmall)
  else do
    let items ← readItems (dec pkt) (min room cnt) 12
    .ok (.ok items)

def nackAt (pkt : Bytes) (p : ℕ) : Except Fault Nack := do
  let pid ← ntohsAt pkt p
  let blp ← ntohsAt pkt (p + 2)
  .ok ⟨pid, .ofNat blp⟩

def sliAt (pkt : Bytes) (p : ℕ) : Except Fault Sli := do
  let b0 ← byteAt pkt p
  let b1 ← byteAt pkt (p + 1)
  let b2 ← byteAt pkt (p + 2)
  let b3 ← byteAt pkt (p + 3)
  .ok ⟨.ofNat ((b0.toNat <<< 5) + ((b1.toNat &&& 0xF8) >>> 3)),
    .ofNat (((b1.toNat &&& 7) <<< 10) + (b2.toNat <<< 2) + ((b3.toNat &&& 0xC0) >>> 6)), b3 &&& 0x3F⟩

def parseNack (pkt : Bytes) (room : ℕ) : Except Fault (Except Status (List Nack)) :=
  if pkt.length < 12 then .ok (.error .etoosmall)
  else do
    let flags ← byteAt pkt 0
    let pt ← byteAt pkt 1
    if pt ≠ 205 ∨ flags &&& 31 ≠ 1 then .ok (.error .enotfound)
    else parseItems nackAt pkt room

def parseSli (big : Bool) (pkt : Bytes) (room : ℕ) : Except Fault (Except Status (List Sli)) :=
  if pkt.length < 12 then .ok (.error .etoosmall)
  else do
    let flags ← byteAt pkt 0
    let pt ← byteAt pkt 1
    if pt ≠ 206 ∨ flags &&& 31 ≠ 2 then .ok (.error .enotfound)
    else do
      -- the field is compared before it is swapped
      let raw ← hostLength big pkt
      if raw < 3 then .ok (.error .etoosmall) else parseItems sliAt pkt room

def parseRpsi (big : Bool) (pkt : Bytes) : Except Fault (Except Status Rpsi) :=
  if pkt.length < 12 then .ok (.error .etoosmall)
  else do
    let flags ← byteAt pkt 0
    let pt ← byteAt pkt 1
    if pt ≠ 206 ∨ flags &&& 31 ≠ 3 then .ok (.error .enotfound)
    else do
      let raw ← hostLength big pkt
      if raw < 3 then .ok (.error .etoosmall)
      else do
        let length ← ntohsAt pkt 2
        let rpsiLen := fciWords length * 4
        if pkt.length < rpsiLen + 12 then .ok (.error .etoosmall)
        else do
          let padlen ← byteAt pkt 12
          if padlen ≥ 32 then .ok (.error .etoobig)
          else if rpsiLen * 8 < 16 + padlen.toNat then .ok (.error .etoosmall)
          else do
            let pt ← byteAt pkt 13
            let bitLen := rpsiLen * 8 - 16 - padlen.toNat
            .ok (.ok ⟨pt &&& 0x7F, (pkt.drop 14).take ((bitLen + 7) / 8), bitLen⟩)

end PjProject.RtcpFb
