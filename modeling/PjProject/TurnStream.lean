import PjProject.ByteOrder
import PjProject.Transition

/-!
# TURN over a stream transport

`has_packet` and `on_data_read` of the TURN socket with `pj_turn_session_on_rx_pkt2` of the
TURN session, for TCP and TLS. The STUN session behind it and the application are a
parameter: what they do with a message and whether they accept it.
-/
namespace PjProject.TurnStream

open ByteOrder

abbrev Bytes := List UInt8

def isStun (buf : Bytes) : Bool := byteAt buf 0 &&& 0xC0 = 0

def lengthField (buf : Bytes) : ℕ := (get16 buf 2).toNat

structure Session (σ : Type) where
  /-- `turn_sock->sess` is set and the socket is not being destroyed -/
  alive : σ → Bool
  /-- `pj_stun_session_on_rx_pkt`: the parsed length if it succeeds -/
  stun : σ → Bytes → σ × Option ℕ
  /-- `lookup_ch_by_chnum` finds a channel that is bound -/
  bound : σ → UInt16 → Bool
  /-- the callback `on_rx_data` -/
  onRxData : σ → UInt16 → Bytes → σ
  /-- `pj_stun_msg_decode` reports the length of the message -/
  stun_parsed : ∀ s pkt n, (stun s pkt).2 = some n → n = lengthField pkt + 20
  /-- the STUN session does not look beyond the message -/
  stun_append : ∀ s pkt rest, pkt.length = lengthField pkt + 20 →
    stun s (pkt ++ rest) = stun s pkt

variable {σ : Type} (S : Session σ)

/-- `has_packet` for a stream: the length of the packet in the buffer, or zero. -/
def hasPacket (buf : Bytes) : ℕ :=
  if buf.length < 4 then 0
  else if isStun buf && lengthField buf % 4 = 0 then
    if lengthField buf + 20 ≤ buf.length then lengthField buf + 20 else 0
  else if lengthField buf + 4 ≤ buf.length then align4 (lengthField buf + 4) else 0

def contentLength (buf : Bytes) : ℕ :=
  if isStun buf && lengthField buf % 4 = 0 then lengthField buf + 20 else lengthField buf + 4

/-- `pj_turn_session_on_rx_pkt2` for a stream: the parsed length if it returns success. -/
def onRxPkt (s : σ) (pkt : Bytes) : σ × Option ℕ :=
  if isStun pkt then S.stun s pkt
  else if pkt.length < 4 then (s, none)
  else if pkt.length < lengthField pkt + 4 then (s, none)
  else if S.bound s (get16 pkt 0) then
    (S.onRxData s (get16 pkt 0) (slice pkt 4 (lengthField pkt)), some (align4 (lengthField pkt) + 4))
  else (s, none)

/-- The socket: the session, the bytes kept in the buffer by `remainder`, the number of
bytes received so far, and the packets given to the session, each with its offset in the
stream. -/
structure Sock (σ : Type) where
  sess : σ
  buf : Bytes
  received : ℕ
  handed : List (ℕ × Bytes)

/-- `parsed_len` as `on_data_read` uses it: it stays at the buffer size on an error. -/
def parsedLength (data : Bytes) (result : Option ℕ) : ℕ :=
  if result.getD data.length = 0 then hasPacket data else result.getD data.length

/-- The loop of `on_data_read` over the buffer `data`; every round takes at least one byte. -/
def readLoop : ℕ → Bytes → Sock σ → Sock σ
  | 0, _, k => k
  | n + 1, data, k =>
    if S.alive k.sess && hasPacket data ≠ 0 then
      let r := onRxPkt S k.sess data
      let rest := data.drop (parsedLength data r.2)
      readLoop n rest
        { k with
          sess := r.1
          buf := rest
          handed := k.handed ++ [(k.received - data.length, data.take (contentLength data))] }
    else k

/-- `on_data_read`; the active socket has set `remainder` to zero. -/
def onDataRead (data : Bytes) (k : Sock σ) : Sock σ :=
  let k := readLoop S data.length data { k with buf := [] }
  if S.alive k.sess then k else { k with buf := [] }

def read (k : Sock σ) (chunk : Bytes) : Sock σ :=
  onDataRead S (k.buf ++ chunk) { k with received := k.received + chunk.length }

def start (s : σ) : Sock σ := ⟨s, [], 0, []⟩

structure Msg where
  content : Bytes
  pad : Bytes
  header : 4 ≤ content.length
  framed :
    if isStun content then
      lengthField content % 4 = 0 ∧ content.length = lengthField content + 20 ∧ pad = []
    else
      content.length = lengthField content + 4 ∧
        content.length + pad.length = align4 content.length

def Msg.bytes (m : Msg) : Bytes := m.content ++ m.pad

def stream (ms : List Msg) : Bytes := ms.flatMap Msg.bytes

/-- Each message given to the session on its own, from offset `off` of the stream on, as
long as the session is there. -/
def oneByOne (s : σ) (off : ℕ) : List Msg → σ × List (ℕ × Bytes)
  | [] => (s, [])
  | m :: ms =>
    if S.alive s then
      let r := oneByOne (onRxPkt S s m.bytes).1 (off + m.bytes.length) ms
      (r.1, (off, m.content) :: r.2)
    else (s, [])

end PjProject.TurnStream
