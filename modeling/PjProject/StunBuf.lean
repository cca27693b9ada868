import PjProject.BoundedWrite
import PjProject.StunLaw

/-!
# STUN encoding into a buffer

`pj_stun_msg_encode` and the attribute encoders with the writes that they make, in their
order, and with the 32-bit arithmetic of their size checks.
-/
namespace PjProject.Stun

open ByteOrder BoundedWrite

/-- The value of an `unsigned`. -/
def u32 (n : ℕ) : ℕ := n % 2 ^ 32

abbrev Written (β : Type) := Except (Stop Status) β

section Attributes

variable (env : Env) (hdr : MsgHdr) (buf : Bytes) (pos len : ℕ)

/-- The padding behind `n` bytes of content. -/
def storePadding (n : ℕ) : Written Bytes :=
  if n % 4 = 0 then .ok buf else put buf pos (List.replicate (4 - n % 4) env.paddingChar)

/-- `encode_sockaddr_attr`: the type is written before the size is checked. -/
def storeSockaddrAttr (type : UInt16) (xorEd : Bool) (addr : SockAddr) : Written (Bytes × ℕ) := do
  let buf ← put buf pos (put16 type)
  match if xorEd then addr.mask hdr.tsxId else addr with
  | .inet port ip =>
    if len < 12 then .error (.error .tooSmall)
    else do
      let buf ← put buf (pos + 2) (put16 8)
      let buf ← put buf (pos + 4) [0]
      let buf ← put buf (pos + 5) [1]
      let buf ← put buf (pos + 6) (put16 port)
      let buf ← put buf (pos + 8) ip.1
      pure (buf, 12)
  | .inet6 port ip =>
    if len < 24 then .error (.error .tooSmall)
    else do
      let buf ← put buf (pos + 2) (put16 20)
      let buf ← put buf (pos + 4) [0]
      let buf ← put buf (pos + 5) [2]
      let buf ← put buf (pos + 6) (put16 port)
      let buf ← put buf (pos + 8) ip.1
      pure (buf, 24)
  | .other _ => .error (.error .invAf)

/-- `encode_string_attr` -/
def storeStringAttr (type : UInt16) (value : Bytes) : Written (Bytes × ℕ) :=
  let printed := u32 (align4 (u32 value.length + 4))
  if len < printed then .error (.error .tooSmall)
  else
    let n := if hdr.magic ≠ stunMagic ∨ type = attrSoftware then align4 value.length
      else value.length
    do
      let buf ← put buf pos (put16 type)
      let buf ← put buf (pos + 2) (put16 (UInt16.ofNat n))
      let buf ← put buf (pos + 4) value
      let buf ← storePadding env buf (pos + 4 + value.length) value.length
      pure (buf, printed)

/-- `encode_empty_attr` -/
def storeEmptyAttr (type : UInt16) : Written (Bytes × ℕ) :=
  if len < 4 then .error (.error .tooSmall)
  else do
    let buf ← put buf pos (put16 type)
    let buf ← put buf (pos + 2) (put16 0)
    pure (buf, 4)

/-- `encode_uint_attr` -/
def storeUintAttr (type : UInt16) (value : UInt32) : Written (Bytes × ℕ) :=
  if len < 8 then .error (.error .tooSmall)
  else do
    let buf ← put buf pos (put16 type)
    let buf ← put buf (pos + 2) (put16 4)
    let buf ← put buf (pos + 4) (put32 value)
    pure (buf, 8)

/-- `encode_uint64_attr` -/
def storeUint64Attr (type : UInt16) (hi lo : UInt32) : Written (Bytes × ℕ) :=
  if len < 12 then .error (.error .tooSmall)
  else do
    let buf ← put buf pos (put16 type)
    let buf ← put buf (pos + 2) (put16 8)
    let buf ← put buf (pos + 4) (put32 hi)
    let buf ← put buf (pos + 8) (put32 lo)
    pure (buf, 12)

/-- `encode_msgint_attr` -/
def storeMsgintAttr (type length : UInt16) (hmac : Fixed 20) : Written (Bytes × ℕ) :=
  if len < 24 then .error (.error .tooSmall)
  else do
    let buf ← put buf pos (put16 type)
    let buf ← put buf (pos + 2) (put16 length)
    let buf ← put buf (pos + 4) hmac.1
    pure (buf, 24)

/-- `encode_errcode_attr` -/
def storeErrcodeAttr (type : UInt16) (errCode : ℤ) (reason : Bytes) : Written (Bytes × ℕ) :=
  let printed := u32 (align4 (4 + 4 + u32 reason.length))
  if len < printed then .error (.error .tooSmall)
  else do
    let buf ← put buf pos (put16 type)
    let buf ← put buf (pos + 2) (put16 (UInt16.ofNat (4 + reason.length)))
    let buf ← put buf (pos + 4) (put16 0)
    let buf ← put buf (pos + 6) [UInt8.ofInt (errCode.tdiv 100)]
    let buf ← put buf (pos + 7) [UInt8.ofInt (errCode.tmod 100)]
    let buf ← put buf (pos + 8) reason
    let buf ← storePadding env buf (pos + 8 + reason.length) reason.length
    pure (buf, printed)

/-- The loop of `encode_unknown_attr`. -/
def storeUnknowns : Bytes → ℕ → List UInt16 → Written Bytes
  | buf, _, [] => .ok buf
  | buf, pos, a :: rest => do
    let buf ← put buf pos (put16 a)
    storeUnknowns buf (pos + 2) rest

/-- `encode_unknown_attr` -/
def storeUnknownAttr (type : UInt16) (attrs : List UInt16) : Written (Bytes × ℕ) :=
  let printed := u32 (align4 (4 + attrs.length * 2))
  if len < printed then .error (.error .tooSmall)
  else do
    let buf ← put buf pos (put16 type)
    let buf ← put buf (pos + 2) (put16 (UInt16.ofNat (attrs.length * 2)))
    let buf ← storeUnknowns buf (pos + 4) attrs
    let buf ← storePadding env buf (pos + 4 + attrs.length * 2) (attrs.length * 2)
    pure (buf, printed)

/-- `encode_binary_attr` -/
def storeBinaryAttr (type : UInt16) (data : Bytes) : Written (Bytes × ℕ) :=
  let printed := u32 (align4 (u32 data.length + 4))
  if len < printed then .error (.error .tooSmall)
  else do
    let buf ← put buf pos (put16 type)
    let buf ← put buf (pos + 2) (put16 (UInt16.ofNat data.length))
    let buf ← put buf (pos + 4) data
    let buf ← storePadding env buf (pos + 4 + data.length) data.length
    pure (buf, printed)

def storeAttr (a : Attr) : Written (Bytes × ℕ) :=
  match a.val with
  | .sockaddr xorEd addr => storeSockaddrAttr hdr buf pos len a.type xorEd addr
  | .string value => storeStringAttr env hdr buf pos len a.type value
  | .empty => storeEmptyAttr buf pos len a.type
  | .uint value => storeUintAttr buf pos len a.type value
  | .uint64 hi lo => storeUint64Attr buf pos len a.type hi lo
  | .msgint hmac => storeMsgintAttr buf pos len a.type a.length hmac
  | .errcode errCode reason => storeErrcodeAttr env buf pos len a.type errCode reason
  | .unknown attrs => storeUnknownAttr env buf pos len a.type attrs.1
  | .binary magic data =>
    if findAttrDesc a.type = none ∧ magic ≠ stunMagic then .error (.error .bug)
    else storeBinaryAttr env buf pos len a.type data

end Attributes

section Message

variable (env : Env)

def storeHeader (hdr : MsgHdr) (buf : Bytes) : Written Bytes := do
  let buf ← put buf 0 (put16 hdr.type)
  let buf ← put buf 2 (put16 0)
  let buf ← put buf 4 (put32 hdr.magic)
  put buf 8 hdr.tsxId.1

/-- The first loop: the buffer, the offset behind what was printed, and the attributes from the
one it stopped at. The size that is left is handed on as an `unsigned`. -/
def storeAttrs (hdr : MsgHdr) : List Attr → Bytes → ℕ → Written (Bytes × ℕ × List Attr)
  | [], buf, pos => .ok (buf, pos, [])
  | a :: rest, buf, pos =>
    if a.closes then .ok (buf, pos, a :: rest)
    else do
      let (buf, printed) ← storeAttr env hdr buf pos (u32 (buf.length - pos)) a
      storeAttrs hdr rest buf (pos + printed)

structure Output where
  buf : Bytes
  pos : ℕ
  msg : Msg

def Output.room (o : Output) : ℕ := o.buf.length - o.pos

def storeMsgInt (key : Option Bytes) (i : ℕ) (c : Closing) (o : Output) :
    Written (Closing × Output) :=
  match c.amsgint with
  | none => .ok (c, o)
  | some a =>
    match key with
    | none => .error (.error .invalidOp)
    | some key => do
      let c ← lift (checkMsgIntPos o.msg.attrs i c)
      let hmac := env.hmacSha1 (key.take (u32 key.length)) (o.buf.take (u32 o.pos))
      let (buf, printed) ← storeMsgintAttr o.buf o.pos (u32 o.room) a.type a.length hmac
      pure (c, ⟨buf, o.pos + printed, o.msg.mapAttrs (Attr.setHmac hmac)⟩)

def storeFingerprint (c : Closing) (o : Output) : Written Output :=
  match c.afingerprint with
  | none => .ok o
  | some a => do
    let buf ← put o.buf 2 (put16 (UInt16.ofNat ((get16 o.buf 2).toNat + 8)))
    let value := env.crc32 (buf.take o.pos) ^^^ xorFingerprint
    let (buf, printed) ← storeUintAttr buf o.pos (u32 o.room) a.type value
    pure ⟨buf, o.pos + printed, o.msg.mapAttrs (Attr.setFingerprint value)⟩

def storeLength (c : Closing) (buf : Bytes) (pos : ℕ) : Written Bytes :=
  put buf 2 (put16 (UInt16.ofNat (if c.amsgint.isSome then pos - 20 + 24 else pos - 20)))

/-- `pj_stun_msg_encode`: the buffer, the reported length, and the message as it is left. -/
def encodeTo (msg : Msg) (buf : Bytes) (options : ℕ) (key : Option Bytes) :
    Written (Bytes × ℕ × Msg) :=
  if buf.length = 0 ∨ options ≠ 0 then .error (.error .inval)
  else if buf.length < 20 then .error (.error .tooSmall)
  else do
    let buf ← storeHeader msg.hdr buf
    let (buf, pos, stop) ← storeAttrs env msg.hdr msg.attrs buf 20
    let c ← lift (scanRest stop.tail (stoppedAt stop))
    -- the index is one past the end when nothing stopped the first loop
    let i := if stop = [] then msg.attrs.length + 1 else msg.attrs.length
    let buf ← storeLength c buf pos
    let (c, o) ← storeMsgInt env key i c ⟨buf, pos, msg⟩
    let o ← storeFingerprint env c o
    pure (o.buf, o.pos, { o.msg with hdr := { o.msg.hdr with length := UInt16.ofNat (o.pos - 20) } })

end Message

end PjProject.Stun
