import PjProject.PjString
import PjProject.Rtcp

/-!
# Received RTCP packets

The parser of compound packets and the builder of SDES packets. A read outside the packet, a copy
outside `peer_sdes_buf_` and a loop that does not end are faults of the model.
-/
namespace PjProject.Rtcp

inductive Fault
  | read | copy | hang
deriving DecidableEq

def byteAt (pkt : Bytes) (i : ℕ) : Except Fault UInt8 :=
  match pkt[i]? with
  | some b => .ok b
  | none => .error .read

def bytesAt (pkt : Bytes) (i n : ℕ) : Except Fault Bytes :=
  if i + n ≤ pkt.length then .ok ((pkt.drop i).take n) else .error .read

def netValue (bytes : Bytes) : ℕ := bytes.foldl (fun v b => v * 256 + b.toNat) 0

/-- `pj_ntohs` of a field. -/
def ntohsAt (pkt : Bytes) (i : ℕ) : Except Fault ℕ := netValue <$> bytesAt pkt i 2

/-- `pj_ntohl` of a field. -/
def ntohlAt (pkt : Bytes) (i : ℕ) : Except Fault UInt32 := (UInt32.ofNat ∘ netValue) <$> bytesAt pkt i 4

def sdesBufLen : ℕ := 64

structure SdesBuf where
  bytes : Bytes
  length_eq : bytes.length = sdesBufLen

lemma splice_length {buf data : Bytes} {off : ℕ} (hlen : buf.length = sdesBufLen)
    (h : off + data.length ≤ sdesBufLen) :
    (buf.take off ++ data ++ buf.drop (off + data.length)).length = sdesBufLen := by
  simp only [List.length_append, List.length_take, List.length_drop, hlen]
  omega

def SdesBuf.copy (buf : SdesBuf) (off : ℕ) (data : Bytes) : Except Fault SdesBuf :=
  if h : off + data.length ≤ sdesBufLen then
    .ok ⟨buf.bytes.take off ++ data ++ buf.bytes.drop (off + data.length), splice_length buf.length_eq h⟩
  else .error .copy

/-- `pjmedia_rtcp_sdes` -/
structure Sdes (α : Type) where
  cname : α
  name : α
  email : α
  phone : α
  loc : α
  tool : α
  note : α
deriving DecidableEq

/-- A string in `peer_sdes_buf_`. -/
structure SdesStr where
  off : ℕ
  slen : ℕ
deriving DecidableEq

def SdesBuf.str (buf : SdesBuf) (s : SdesStr) : Bytes := (buf.bytes.drop s.off).take s.slen

namespace Sdes

variable {α β : Type}

def const (v : α) : Sdes α := ⟨v, v, v, v, v, v, v⟩

def map (f : α → β) (sdes : Sdes α) : Sdes β :=
  ⟨f sdes.cname, f sdes.name, f sdes.email, f sdes.phone, f sdes.loc, f sdes.tool, f sdes.note⟩

def set (sdes : Sdes α) (type : UInt8) (v : α) : Sdes α :=
  if type = 1 then { sdes with cname := v }
  else if type = 2 then { sdes with name := v }
  else if type = 3 then { sdes with email := v }
  else if type = 4 then { sdes with phone := v }
  else if type = 5 then { sdes with loc := v }
  else if type = 6 then { sdes with tool := v }
  else if type = 7 then { sdes with note := v }
  else sdes

def fields (sdes : Sdes α) : List (UInt8 × α) :=
  [(1, sdes.cname), (2, sdes.name), (3, sdes.email), (4, sdes.phone), (5, sdes.loc), (6, sdes.tool),
    (7, sdes.note)]

end Sdes

/-- The loop of `parse_rtcp_sdes`; `p` and `b` are offsets in the packet and in the buffer. -/
def parseSdesItems (pkt : Bytes) (pEnd : ℕ) :
    ℕ → ℕ → ℕ → Sdes SdesStr → SdesBuf → Except Fault (Sdes SdesStr × SdesBuf)
  | 0, _, _, _, _ => .error .hang
  | fuel + 1, p, b, sdes, buf =>
    if p < pEnd then do
      let type ← byteAt pkt p
      if type = 0 ∨ p + 1 = pEnd then .ok (sdes, buf)
      else do
        let len ← byteAt pkt (p + 1)
        let slen := len.toNat
        if p + 2 + slen > pEnd then .ok (sdes, buf)
        else if b + slen < sdesBufLen then do
          let value ← bytesAt pkt (p + 2) slen
          let buf ← buf.copy b value
          parseSdesItems pkt pEnd fuel (p + 2 + slen) (b + slen) (sdes.set type ⟨b, slen⟩) buf
        else parseSdesItems pkt pEnd fuel (p + 2 + slen) b sdes buf
    else .ok (sdes, buf)

/-- `parse_rtcp_sdes` of the `size` bytes at `p`. -/
def parseRtcpSdes (pkt : Bytes) (p size : ℕ) (buf : SdesBuf) : Except Fault (Sdes SdesStr × SdesBuf) :=
  parseSdesItems pkt (p + size) (size + 1) (p + 8) 0 (Sdes.const ⟨0, 0⟩) buf

/-- `parse_rtcp_bye`, which keeps the reason in the buffer of the items. -/
def parseRtcpBye (pkt : Bytes) (p size : ℕ) (buf : SdesBuf) : Except Fault SdesBuf :=
  if size > 8 then do
    let len ← byteAt pkt (p + 8)
    let slen := min (min sdesBufLen len.toNat) (size - 9)
    let reason ← bytesAt pkt (p + 9) slen
    buf.copy 0 reason
  else .ok buf

/-- The sender part of `parse_rtcp_report`. -/
def parseSenderInfo (pkt : Bytes) (p : ℕ) (tsNow : UInt64) (sess : Session) : Except Fault Session := do
  let ntpSec ← ntohlAt pkt (p + 8)
  let ntpFrac ← ntohlAt pkt (p + 12)
  let rtpTs ← ntohlAt pkt (p + 16)
  .ok { sess with
    rxLsr := ((ntpSec &&& 0x0000FFFF) <<< 16) ||| ((ntpFrac >>> 16) &&& 0xFFFF)
    rxLsrTs := rtpTs
    rxLsrNtp := (ntpSec, ntpFrac)
    rxLsrTime := tsNow }

def txLoss (bytes : Bytes) : UInt32 :=
  let loss := netValue bytes
  if loss &&& 0x800000 ≠ 0 then 0 else UInt32.ofNat loss

/-- The report block of `parse_rtcp_report`. -/
def parseReportBlock (pkt : Bytes) (rr : ℕ) (sess : Session) : Except Fault Session := do
  let block ← bytesAt pkt rr 24
  .ok { sess with tx := { sess.tx with
    loss := txLoss ((block.drop 5).take 3), updateCnt := sess.tx.updateCnt + 1 } }

/-- `parse_rtcp_report` of the `size` bytes at `p`, without XR. -/
def parseRtcpReport (pkt : Bytes) (p size : ℕ) (tsNow : UInt64) (sess : Session) : Except Fault Session := do
  let flags ← byteAt pkt p
  let pt ← byteAt pkt (p + 1)
  let count := flags &&& 31
  if pt = 200 then
    if 8 + 20 > size then .ok sess
    else do
      let sess ← parseSenderInfo pkt p tsNow sess
      if count > 0 ∧ size ≥ 8 + 20 + 24 then parseReportBlock pkt (p + 28) sess else .ok sess
  else if pt = 201 ∧ count > 0 then
    if 8 + 24 > size then .ok sess else parseReportBlock pkt (p + 8) sess
  else .ok sess

inductive FbEvent
  | nack (pidBlp : Option (ℕ × ℕ))
  | pli
deriving DecidableEq

/-- `pjmedia_rtcp_fb_parse_nack` with room for one; `none` stands for a failure. -/
def parseNack (pkt : Bytes) (p size : ℕ) : Except Fault (Option FbEvent) := do
  let flags ← byteAt pkt p
  let pt ← byteAt pkt (p + 1)
  if pt ≠ 205 ∨ flags &&& 31 ≠ 1 then .ok none
  else do
    let cnt ← ntohsAt pkt (p + 2)
    let cnt := if cnt > 2 then cnt - 2 else 0
    if size < (cnt + 3) * 4 then .ok none
    else if min 1 cnt = 0 then .ok (some (.nack none))
    else do
      let pid ← ntohsAt pkt (p + 12)
      let blp ← ntohsAt pkt (p + 14)
      .ok (some (.nack (some (pid, blp))))

def parsePli (pkt : Bytes) (p : ℕ) : Except Fault (Option FbEvent) := do
  let flags ← byteAt pkt p
  let pt ← byteAt pkt (p + 1)
  .ok (if pt ≠ 206 ∨ flags &&& 31 ≠ 1 then none else some .pli)

/-- `parse_rtcp_fb`: the event that is published. -/
def parseRtcpFb (pkt : Bytes) (p size : ℕ) : Except Fault (Option FbEvent) :=
  if size < 12 then .ok none
  else do
    match ← parseNack pkt p size with
    | some ev => .ok (some ev)
    | none => parsePli pkt p

structure Receiver where
  sess : Session
  peerSdes : Sdes SdesStr
  sdesBuf : SdesBuf
  events : List FbEvent

/-- The items of `peer_sdes`. -/
def Receiver.peer (rcv : Receiver) : Sdes Bytes := rcv.peerSdes.map rcv.sdesBuf.str

def parsePacket (pkt : Bytes) (p len : ℕ) (tsNow : UInt64) (pt : UInt8) (rcv : Receiver) :
    Except Fault Receiver :=
  if pt = 200 ∨ pt = 201 ∨ pt = 207 then do
    let sess ← parseRtcpReport pkt p len tsNow rcv.sess
    .ok { rcv with sess := sess }
  else if pt = 202 then do
    let (sdes, buf) ← parseRtcpSdes pkt p len rcv.sdesBuf
    .ok { rcv with peerSdes := sdes, sdesBuf := buf }
  else if pt = 203 then do
    let buf ← parseRtcpBye pkt p len rcv.sdesBuf
    .ok { rcv with sdesBuf := buf }
  else if pt = 205 ∨ pt = 206 then do
    let ev ← parseRtcpFb pkt p len
    .ok { rcv with events := rcv.events ++ ev.toList }
  else .ok rcv

/-- The loop of `pjmedia_rtcp_rx_rtcp`. -/
def rxPackets (pkt : Bytes) (tsNow : UInt64) : ℕ → ℕ → Receiver → Except Fault Receiver
  | 0, _, _ => .error .hang
  | fuel + 1, p, rcv =>
    if p < pkt.length then
      if p + 8 > pkt.length then .ok rcv
      else do
        let length ← ntohsAt pkt (p + 2)
        let len := (length + 1) * 4
        if p + len > pkt.length then .ok rcv
        else do
          let pt ← byteAt pkt (p + 1)
          let rcv ← parsePacket pkt p len tsNow pt rcv
          rxPackets pkt tsNow fuel (p + len) rcv
    else .ok rcv

def rxRtcp (rcv : Receiver) (pkt : Bytes) (tsNow : UInt64) : Except Fault Receiver :=
  rxPackets pkt tsNow (pkt.length + 1) 0 rcv

structure Common where
  flags : UInt8
  ssrc : UInt32
deriving DecidableEq

/-- `pj_htons` and `pj_htonl`. -/
def netBytes : ℕ → ℕ → Bytes
  | 0, _ => []
  | n + 1, v => netBytes n (v / 256) ++ [UInt8.ofNat v]

def buildSdesItem (item : UInt8 × Bytes) : Bytes :=
  if item.2.length = 0 then [] else item.1 :: UInt8.ofNat item.2.length :: item.2

def sdesItemLen (value : Bytes) : ℕ := if value.length = 0 then 0 else value.length + 2

def sdesPacketLen (sdes : Sdes Bytes) : ℕ :=
  let len := 8 + sdesItemLen sdes.cname + sdesItemLen sdes.name + sdesItemLen sdes.email +
    sdesItemLen sdes.phone + sdesItemLen sdes.loc + sdesItemLen sdes.tool + sdesItemLen sdes.note
  let len := len + 1
  ((len + 3) / 4) * 4

def padWord : ℕ → Bytes → Bytes
  | 0, out => out
  | k + 1, out => if out.length % 4 ≠ 0 then padWord k (out ++ [0]) else out

inductive BuildStatus
  | einval | etoosmall
deriving DecidableEq

/-- `pjmedia_rtcp_build_rtcp_sdes`, with the length of the buffer. -/
def buildRtcpSdes (common : Common) (length : ℕ) (sdes : Sdes Bytes) : Except BuildStatus Bytes :=
  if sdes.cname.length > 255 ∨ sdes.name.length > 255 ∨ sdes.email.length > 255 ∨ sdes.phone.length > 255 ∨
      sdes.loc.length > 255 ∨ sdes.tool.length > 255 ∨ sdes.note.length > 255 then .error .einval
  else
    let len := sdesPacketLen sdes
    if len > length then .error .etoosmall
    else
      let hdr := [common.flags, 202] ++ netBytes 2 (len / 4 - 1) ++ netBytes 4 common.ssrc.toNat
      .ok (padWord 3 (hdr ++ sdes.fields.flatMap buildSdesItem ++ [0]))

end PjProject.Rtcp
