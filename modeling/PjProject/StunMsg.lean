import PjProject.StunAttr

/-!
# STUN messages

`pj_stun_msg_encode`, `pj_stun_msg_check` and `pj_stun_msg_decode`, the latter as called
without a place for an error response.
-/
namespace PjProject.Stun

open ByteOrder

@[ext]
structure Msg where
  hdr : MsgHdr
  attrs : List Attr
  attrs_le : attrs.length ≤ maxAttr
deriving DecidableEq

def headerBytes (hdr : MsgHdr) (length : UInt16) : Bytes :=
  put16 hdr.type ++ put16 length ++ put32 hdr.magic ++ hdr.tsxId.1

@[simp] lemma headerBytes_length (hdr : MsgHdr) (length : UInt16) : (headerBytes hdr length).length = 20 := by
  simp [headerBytes, hdr.tsxId.2]

def Attr.closes (a : Attr) : Bool := a.type = attrMessageIntegrity ∨ a.type = attrFingerprint

section Encode

variable (env : Env)

/-- The first loop of the encoder: the bytes printed, the room left, and the attributes from
the one it stopped at. -/
def encodeAttrs (hdr : MsgHdr) : List Attr → ℕ → Except Status (Bytes × ℕ × List Attr)
  | [], room => .ok ([], room, [])
  | a :: rest, room =>
    if a.closes then .ok ([], room, a :: rest)
    else do
      let printed ← encodeAttr env hdr room a
      let (body, left, stop) ← encodeAttrs hdr rest (room - printed.length)
      pure (printed ++ body, left, stop)

structure Closing where
  amsgint : Option Attr
  afingerprint : Option Attr

def stoppedAt : List Attr → Closing
  | [] => ⟨none, none⟩
  | a :: _ => if a.type = attrMessageIntegrity then ⟨some a, none⟩ else ⟨none, some a⟩

def scanRest : List Attr → Closing → Except Status Closing
  | [], c => .ok c
  | a :: rest, c =>
    if c.afingerprint.isSome then .error .fingerPos
    else if a.type = attrMessageIntegrity then
      if c.amsgint.isSome then .error .msgIntPos
      else scanRest rest { c with amsgint := some a }
    else if a.type = attrFingerprint then scanRest rest { c with afingerprint := some a }
    else scanRest rest c

def checkMsgIntPos (attrs : List Attr) (i : ℕ) (c : Closing) : Except Status Closing :=
  if 1 < attrs.length ∧ i < attrs.length - 2 then .error .msgIntPos
  else if i = (attrs.length + 2 ^ 32 - 2) % 2 ^ 32 then
    match attrs[i + 1]? with
    | some a => if a.type ≠ attrFingerprint then .error .msgIntPos
      else .ok { c with afingerprint := some a }
    | none => .ok c
  else .ok c

def Attr.setHmac (hmac : Fixed 20) (a : Attr) : Attr :=
  if h : a.type = attrMessageIntegrity then ⟨a.type, a.length, .msgint hmac, by rw [h]; rfl⟩ else a

def Attr.setFingerprint (value : UInt32) (a : Attr) : Attr :=
  if h : a.type = attrFingerprint then ⟨a.type, a.length, .uint value, by rw [h]; rfl⟩ else a

def Msg.mapAttrs (f : Attr → Attr) (msg : Msg) : Msg :=
  ⟨msg.hdr, msg.attrs.map f, by simpa using msg.attrs_le⟩

/-- A message under construction: its length field, the bytes after the header, the room
behind them, and the structure with what has been filled in. -/
structure Draft where
  length : UInt16
  body : Bytes
  room : ℕ
  msg : Msg

def Draft.bytes (d : Draft) : Bytes := headerBytes d.msg.hdr d.length ++ d.body

def putMsgInt (key : Option Bytes) (i : ℕ) (c : Closing) (d : Draft) :
    Except Status (Closing × Draft) :=
  match c.amsgint with
  | none => .ok (c, d)
  | some a =>
    match key with
    | none => .error .invalidOp
    | some key => do
      let c ← checkMsgIntPos d.msg.attrs i c
      let hmac := env.hmacSha1 key d.bytes
      let printed ← encodeMsgintAttr d.room a.type a.length hmac
      pure (c, { d with
        body := d.body ++ printed
        room := d.room - printed.length
        msg := d.msg.mapAttrs (Attr.setHmac hmac) })

def xorFingerprint : UInt32 := 0x5354554e

def putFingerprint (c : Closing) (d : Draft) : Except Status Draft :=
  match c.afingerprint with
  | none => .ok d
  | some a => do
    let d := { d with length := UInt16.ofNat (d.length.toNat + 8) }
    let value := env.crc32 d.bytes ^^^ xorFingerprint
    let printed ← encodeUintAttr d.room a.type value
    pure { d with
      body := d.body ++ printed
      room := d.room - printed.length
      msg := d.msg.mapAttrs (Attr.setFingerprint value) }

def Draft.finish (d : Draft) : Bytes × Msg :=
  (d.bytes, { d.msg with hdr := { d.msg.hdr with length := UInt16.ofNat d.body.length } })

def draft (msg : Msg) (c : Closing) (body : Bytes) (room : ℕ) : Draft where
  length := UInt16.ofNat (if c.amsgint.isSome then body.length + 24 else body.length)
  body := body
  room := room
  msg := msg

def encode (msg : Msg) (bufSize options : ℕ) (key : Option Bytes) : Except Status (Bytes × Msg) :=
  if bufSize = 0 ∨ options ≠ 0 then .error .inval
  else if bufSize < 20 then .error .tooSmall
  else do
    let (body, room, stop) ← encodeAttrs env msg.hdr msg.attrs (bufSize - 20)
    let c ← scanRest stop.tail (stoppedAt stop)
    -- the index is one past the end when nothing stopped the first loop
    let i := if stop = [] then msg.attrs.length + 1 else msg.attrs.length
    let (c, d) ← putMsgInt env key i c (draft msg c body room)
    let d ← putFingerprint env c d
    pure d.finish

end Encode

structure DecodeOptions where
  isDatagram : Bool
  checkPacket : Bool
  noFingerprintCheck : Bool
deriving DecidableEq

def msgCheck (env : Env) (options : DecodeOptions) (pdu : Bytes) : Except Status Unit :=
  let msgLen := (get16 pdu 2).toNat
  if pdu.length < 20 then .error .inStunMsgLen
  else if byteAt pdu 0 ≠ 0 ∧ byteAt pdu 0 ≠ 1 then .error .inStunMsgType
  else if pdu.length < msgLen + 20 ∨ (options.isDatagram ∧ msgLen + 20 ≠ pdu.length) then
    .error .inStunMsgLen
  else if msgLen % 4 ≠ 0 then .error .inStunMsgLen
  else if get32 pdu 4 = stunMagic ∧ options.noFingerprintCheck = false ∧
      get16 pdu (msgLen + 12) = attrFingerprint then
    if get16 pdu (msgLen + 14) ≠ 4 then .error .inAttrLen
    else if env.crc32 (pdu.take (msgLen + 12)) ^^^ xorFingerprint ≠ get32 pdu (msgLen + 16) then
      .error .fingerprint
    else .ok ()
  else .ok ()

structure Parse where
  msg : Msg
  hasMsgInt : Bool
  hasFingerprint : Bool

def Parse.add (p : Parse) (a : Attr) : Except Status Parse :=
  if h : p.msg.attrs.length < maxAttr then
    .ok { p with msg := ⟨p.msg.hdr, p.msg.attrs ++ [a], by simpa using h⟩ }
  else .error .tooManyAttr

def Parse.note (p : Parse) (attrType : UInt16) : Except Status Parse :=
  if attrType = attrMessageIntegrity ∧ p.hasFingerprint = false then
    if p.hasMsgInt then .error .dupAttr else .ok { p with hasMsgInt := true }
  else if attrType = attrFingerprint then
    if p.hasFingerprint then .error .dupAttr else .ok { p with hasFingerprint := true }
  else if p.hasFingerprint then .error .fingerPos
  else .ok p

def readAttr (p : Parse) (pdu : Bytes) : Except Status Parse :=
  if pdu.length < align4 (attrLength pdu) + 4 then .error .inAttrLen
  else
    match h : findAttrDesc (get16 pdu 0) with
    | none =>
      if get16 pdu 0 ≤ 0x7FFF then .error (.stunCode 420)
      else p.add ⟨get16 pdu 0, get16 pdu 2, .binary stunMagic (slice pdu 4 (attrLength pdu)),
        by rw [h]; rfl⟩
    | some c => do
      let v ← decodeAttr pdu p.msg.hdr c
      let p ← p.note (get16 pdu 0)
      p.add ⟨get16 pdu 0, get16 pdu 2, v.1, by rw [h]; exact v.2⟩

/-- The decoder's loop and the check for trailing bytes after it, at offset `pos`. Every round
consumes at least four bytes, so the length of the rest is enough fuel. -/
def readAttrs : ℕ → Parse → Bytes → ℕ → Except Status (Msg × ℕ)
  | 0, p, pdu, pos => if 0 < pdu.length then .error .inStunMsgLen else .ok (p.msg, pos)
  | fuel + 1, p, pdu, pos =>
    if pdu.length < 4 then if 0 < pdu.length then .error .inStunMsgLen else .ok (p.msg, pos)
    else do
      let p ← readAttr p pdu
      let n := align4 (attrLength pdu) + 4
      if pdu.length ≤ n then readAttrs fuel p [] (pos + pdu.length)
      else readAttrs fuel p (pdu.drop n) (pos + n)

def readHeader (pdu : Bytes) : MsgHdr where
  type := get16 pdu 0
  length := get16 pdu 2
  magic := get32 pdu 4
  tsxId := ⟨slice pdu 8 12, slice_length _ _ _⟩

def checkLength (options : DecodeOptions) (pdu : Bytes) : Except Status Unit :=
  let msgLen := (get16 pdu 2).toNat + 20
  if pdu.length < msgLen ∨ (options.isDatagram ∧ msgLen ≠ pdu.length) then .error .inStunMsgLen
  else .ok ()

def precheck (env : Env) (options : DecodeOptions) (pdu : Bytes) : Except Status Unit :=
  if options.checkPacket then msgCheck env options pdu else checkLength options pdu

/-- `pj_stun_msg_decode`: the message and the parsed length. -/
def decode (env : Env) (options : DecodeOptions) (pdu : Bytes) : Except Status (Msg × ℕ) :=
  if pdu = [] then .error .inval
  else do
    precheck env options pdu
    let hdr := readHeader pdu
    readAttrs hdr.length.toNat ⟨⟨hdr, [], by simp⟩, false, false⟩
      ((pdu.drop 20).take hdr.length.toNat) 20

end PjProject.Stun
