import PjProject.Framing

/-!
# The WebSocket client's receive path

`process_rx_frame` takes frames off the read buffer: a frame that is there as a whole goes
to `handle_frame` at once, a frame whose payload is cut is collected in `rx_partial_buf`,
and a cut header is left in the buffer for the next read. `handle_frame` puts the fragments
of a message together in `frag_buf`. The application sees `on_rx_msg` and `on_close`, and
may close or destroy the socket from inside them.
-/
namespace PjProject.WebSocket

abbrev Bytes := List UInt8

/-- `pj_websock_opcode`, with the codes that have no name. -/
inductive Opcode
  | cont | text | bin | close | ping | pong
  | reserved (code : UInt8)
  deriving DecidableEq

def Opcode.ofByte (b : UInt8) : Opcode :=
  if b = 0x0 then cont else if b = 0x1 then text else if b = 0x2 then bin
  else if b = 0x8 then close else if b = 0x9 then ping else if b = 0xA then pong
  else reserved b

inductive ReadyState
  | connecting | opened | closing | closed
  deriving DecidableEq

inductive Callback
  | rxMsg (opcode : Opcode) (data : Bytes)
  | close (statusCode : ℕ) (reason : Bytes)
  deriving DecidableEq

/-- A control frame given to `send_raw_ctl`. -/
structure CtlFrame where
  opcode : Opcode
  payload : Bytes
  deriving DecidableEq

inductive Reaction
  | proceed
  | close (statusCode : ℕ) (reason : Bytes)
  | destroy

abbrev App := List Callback → Reaction

/-- The part of `pj_websock` that frames as a whole act on. `fragBuf` is the first `frag_len`
bytes of `frag_buf`. -/
structure Endpoint where
  state : ReadyState
  fragBufSize : ℕ
  fragBuf : Bytes
  fragOpcode : Opcode
  destroying : Bool
  callbacks : List Callback
  sent : List CtlFrame
  deriving DecidableEq

/-- `pj_websock`. `rxPartialBuf` is the first `rx_partial_got` bytes of `rx_partial_buf`,
and `none` where that is `NULL`. -/
structure Websock extends Endpoint where
  rxPartial : Bool
  rxPartialOp : Opcode
  rxPartialFin : Bool
  rxPartialTotal : ℕ
  rxPartialGot : ℕ
  rxPartialBuf : Option Bytes
  deriving DecidableEq

def Endpoint.fresh (maxRxMsgSize : ℕ) : Endpoint where
  state := .opened
  fragBufSize := maxRxMsgSize
  fragBuf := []
  fragOpcode := .cont
  destroying := false
  callbacks := []
  sent := []

def Websock.fresh (maxRxMsgSize : ℕ) : Websock where
  toEndpoint := .fresh maxRxMsgSize
  rxPartial := false
  rxPartialOp := .cont
  rxPartialFin := false
  rxPartialTotal := 0
  rxPartialGot := 0
  rxPartialBuf := none

structure FrameHeader where
  hdrLen : ℕ
  fin : Bool
  opcode : Opcode
  hasMask : Bool
  maskKey : Bytes
  payloadLen : ℕ
  deriving DecidableEq

def bigEndian (bs : Bytes) : ℕ := bs.foldl (fun n b => n * 256 + b.toNat) 0

def hasMaskBit (b1 : UInt8) : Bool := b1 &&& 0x80 != 0

/-- The position after the length and the length itself. A length of 2^32 or more is
answered like a header that is not there. -/
def extendedLen (b1 : UInt8) (rest : Bytes) : Option (ℕ × ℕ) :=
  let plen := (b1 &&& 0x7F).toNat
  if plen = 126 then
    if rest.length < 2 then none else some (4, bigEndian (rest.take 2))
  else if plen = 127 then
    if rest.length < 8 then none
    else if bigEndian (rest.take 4) ≠ 0 then none
    else some (10, bigEndian ((rest.drop 4).take 4))
  else some (2, plen)

def parseFrameHeader : Bytes → Option FrameHeader
  | b0 :: b1 :: rest =>
    match extendedLen b1 rest with
    | none => none
    | some (pos, plen) =>
      if hasMaskBit b1 then
        if (b0 :: b1 :: rest).length < pos + 4 then none
        else some ⟨pos + 4, b0 &&& 0x80 != 0, .ofByte (b0 &&& 0x0F), true,
          ((b0 :: b1 :: rest).drop pos).take 4, plen⟩
      else some ⟨pos, b0 &&& 0x80 != 0, .ofByte (b0 &&& 0x0F), false, [], plen⟩
  | _ => none

def unmask (key payload : Bytes) : Bytes :=
  payload.mapIdx fun i b => b ^^^ key.getD (i % 4) 0

/-- `decode_frame_header`: the header, the payload and the bytes consumed, when the whole
frame is there. -/
def decodeFrameHeader (data : Bytes) : Option (FrameHeader × Bytes × ℕ) :=
  match parseFrameHeader data with
  | none => none
  | some h =>
    if data.length < h.hdrLen + h.payloadLen then none
    else
      let payload := (data.drop h.hdrLen).take h.payloadLen
      some (h, if h.hasMask then unmask h.maskKey payload else payload, h.hdrLen + h.payloadLen)

def sendCloseFrame (ep : Endpoint) (statusCode : ℕ) (reason : Bytes) : Endpoint :=
  { ep with sent := ⟨.close, [UInt8.ofNat (statusCode / 256), UInt8.ofNat statusCode] ++
      reason.take 123⟩ :: ep.sent }

def sendPong (ep : Endpoint) (data : Bytes) : Endpoint :=
  { ep with sent := ⟨.pong, data.take 125⟩ :: ep.sent }

def websockClose (ep : Endpoint) (statusCode : ℕ) (reason : Bytes) : Endpoint :=
  if ep.state ≠ .opened then ep
  else sendCloseFrame { ep with state := .closing } statusCode reason

def websockDestroy (ep : Endpoint) : Endpoint := { ep with destroying := true, state := .closed }

def notify (app : App) (ep : Endpoint) (cb : Callback) : Endpoint :=
  let ep := { ep with callbacks := cb :: ep.callbacks }
  match app ep.callbacks with
  | .proceed => ep
  | .close statusCode reason => websockClose ep statusCode reason
  | .destroy => websockDestroy ep

/-- Take a fragment into `frag_buf`, and hand the message over at its last one. -/
def addFragment (app : App) (ep : Endpoint) (fin : Bool) (payload : Bytes) : Endpoint :=
  if ep.fragBufSize < ep.fragBuf.length + payload.length then { ep with fragBuf := [] }
  else if fin then
    notify app { ep with fragBuf := [] } (.rxMsg ep.fragOpcode (ep.fragBuf ++ payload))
  else { ep with fragBuf := ep.fragBuf ++ payload }

def closeCode : Bytes → ℕ
  | b0 :: b1 :: _ => b0.toNat * 256 + b1.toNat
  | _ => 0

def handleClose (app : App) (ep : Endpoint) (payload : Bytes) : Endpoint :=
  let code := closeCode payload
  let reason := payload.drop 2
  let ep := if ep.state = .opened then sendCloseFrame ep code reason else ep
  let ep := { ep with state := .closed }
  if ep.destroying then ep else notify app ep (.close code reason)

/-- A `TEXT` or `BIN` frame. -/
def handleData (app : App) (ep : Endpoint) (fin : Bool) (opcode : Opcode) (payload : Bytes) :
    Endpoint :=
  if fin ∧ ep.fragBuf = [] then notify app ep (.rxMsg opcode payload)
  else
    addFragment app (if ep.fragBuf = [] then { ep with fragOpcode := opcode } else ep) fin payload

/-- `handle_frame`: the endpoint afterwards, and whether to go on with the buffer. -/
def handleFrame (app : App) (ep : Endpoint) (fin : Bool) (opcode : Opcode) (payload : Bytes) :
    Endpoint × Bool :=
  match opcode with
  | .ping => (if ep.destroying then ep else sendPong ep payload, true)
  | .pong => (ep, true)
  | .close => (handleClose app ep payload, false)
  | .text => (handleData app ep fin .text payload, true)
  | .bin => (handleData app ep fin .bin payload, true)
  | .cont => (if ep.fragBuf = [] then ep else addFragment app ep fin payload, true)
  | .reserved _ => (ep, true)

def isMasked : Bytes → Bool
  | _ :: b1 :: _ => hasMaskBit b1
  | _ => false

def maskedFrame : Bytes := [109, 97, 115, 107, 101, 100, 32, 102, 114, 97, 109, 101]

def failMasked (app : App) (ep : Endpoint) : Endpoint :=
  let ep := if ep.state = .opened then sendCloseFrame ep 1002 maskedFrame else ep
  let ep := { ep with state := .closed }
  if ep.destroying then ep else notify app ep (.close 1002 maskedFrame)

/-- The header is complete and the payload is cut: collect the payload, or skip it when it
is larger than a message may be. -/
def startPartial (ws : Websock) (h : FrameHeader) (data : Bytes) : Websock :=
  { ws with
    rxPartial := true
    rxPartialOp := h.opcode
    rxPartialFin := h.fin
    rxPartialTotal := h.payloadLen
    rxPartialGot := data.length - h.hdrLen
    rxPartialBuf :=
      if ws.fragBufSize < h.payloadLen then none
      else some (if h.hasMask then unmask h.maskKey (data.drop h.hdrLen) else data.drop h.hdrLen) }

/-- The second loop: frames at the front of the buffer. The answer's number is `*remainder`.
Every round that goes on takes a frame off, so `len` rounds are enough. -/
def processFrames (app : App) : ℕ → Websock → Bytes → Websock × ℕ
  | 0, ws, _ => (ws, 0)
  | k + 1, ws, data =>
    if data = [] then (ws, 0)
    else if isMasked data then ({ ws with toEndpoint := failMasked app ws.toEndpoint }, 0)
    else
      match decodeFrameHeader data with
      | some (h, payload, consumed) =>
        let r := handleFrame app ws.toEndpoint h.fin h.opcode payload
        if r.2 then processFrames app k { ws with toEndpoint := r.1 } (data.drop consumed)
        else ({ ws with toEndpoint := r.1 }, 0)
      | none =>
        match parseFrameHeader data with
        | none => (ws, data.length)
        | some h =>
          if data.length ≤ h.hdrLen then (ws, data.length)
          else (startPartial ws h data, 0)

/-- `process_rx_frame`. The first loop runs at most once, since the round that ends a partial
frame clears `rx_partial`. -/
def processRxFrame (app : App) (ws : Websock) (data : Bytes) : Websock × ℕ :=
  if ws.destroying then (ws, 0)
  else if ws.rxPartial ∧ data ≠ [] then
    let copy := min data.length (ws.rxPartialTotal - ws.rxPartialGot)
    let buf := ws.rxPartialBuf.map (· ++ data.take copy)
    let ws := { ws with rxPartialBuf := buf, rxPartialGot := ws.rxPartialGot + copy }
    if ws.rxPartialGot < ws.rxPartialTotal then (ws, 0)
    else
      let ws := { ws with rxPartial := false }
      match buf with
      | none => processFrames app data.length ws (data.drop copy)
      | some payload =>
        let r := handleFrame app ws.toEndpoint ws.rxPartialFin ws.rxPartialOp payload
        if r.2 then processFrames app data.length { ws with toEndpoint := r.1 } (data.drop copy)
        else ({ ws with toEndpoint := r.1 }, 0)
  else processFrames app data.length ws data

/-- One socket read: the active socket appends the bytes to what it kept, and afterwards
keeps the first `*remainder` bytes of its buffer. -/
def onDataRead (app : App) : Websock × Bytes → Bytes → Websock × Bytes
  | (ws, kept), chunk =>
    let r := processRxFrame app ws (kept ++ chunk)
    (r.1, (kept ++ chunk).take r.2)

end PjProject.WebSocket
