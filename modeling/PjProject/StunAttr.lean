import PjProject.PjString
import PjProject.ByteOrder

/-!
# STUN attributes

The attribute table of `stun_msg.c`, the attribute structures, and the encoder and
the decoder of each attribute kind.
-/
namespace PjProject.Stun

open ByteOrder

inductive Status
  | inval
  | invalidOp
  | bug
  | tooSmall
  | tooMany
  | invAf
  | inStunMsgLen
  | inStunMsgType
  | inAttrLen
  | fingerprint
  | fingerPos
  | msgIntPos
  | dupAttr
  | tooManyAttr
  | stunCode (code : ℕ)
  | callback (status : ℕ)
deriving DecidableEq

abbrev Fixed (n : ℕ) := {s : Bytes // s.length = n}

/-- What one call of the codec depends on besides its arguments: the padding character, and
the two digests. -/
structure Env where
  paddingChar : UInt8
  hmacSha1 : Bytes → Bytes → Fixed 20
  crc32 : Bytes → UInt32

def stunMagic : UInt32 := 0x2112A442

def maxAttr : ℕ := 16

def attrUsername : UInt16 := 0x0006
def attrMessageIntegrity : UInt16 := 0x0008
def attrRealm : UInt16 := 0x0014
def attrNonce : UInt16 := 0x0015
def attrSoftware : UInt16 := 0x8022
def attrFingerprint : UInt16 := 0x8028

/-- The pairs of functions that occur in the attribute tables. All address attributes are
encoded by one function and decoded by two. -/
inductive Codec
  | sockaddr
  | xoredSockaddr
  | string
  | empty
  | uint
  | uint64
  | msgint
  | errcode
  | unknown
  | binary
deriving DecidableEq

/-- `mandatory_attr_desc`, from type zero on. -/
def mandatoryAttrDesc : List (Option Codec) :=
  [ none, some .sockaddr, some .sockaddr, some .uint,
    some .sockaddr, some .sockaddr, some .string, some .string,
    some .msgint, some .errcode, some .unknown, some .sockaddr,
    some .uint, some .uint, none, some .uint,
    some .uint, none, some .xoredSockaddr, some .binary,
    some .string, some .string, some .xoredSockaddr, some .uint,
    some .uint, some .uint, some .empty, none,
    none, none, none, none,
    some .xoredSockaddr, some .uint, some .uint64, some .xoredSockaddr,
    some .uint, some .empty, none, none,
    none, none, some .uint, none,
    none, none, none, none,
    some .uint, none ]

/-- `extended_attr_desc`, from type 0x8021 on. -/
def extendedAttrDesc : List (Option Codec) :=
  [ none, some .string, some .sockaddr, some .uint, none,
    none, none, some .uint, some .uint64, some .uint64 ]

def findAttrDesc (attrType : UInt16) : Option Codec :=
  if attrType < 0x31 then mandatoryAttrDesc.getD attrType.toNat none
  else if 0x8021 ≤ attrType ∧ attrType < 0x802B then
    extendedAttrDesc.getD (attrType.toNat - 0x8021) none
  else none

inductive SockAddr
  | inet (port : UInt16) (addr : Fixed 4)
  | inet6 (port : UInt16) (addr : Fixed 16)
  | other (family : UInt16)
deriving DecidableEq

inductive AttrVal
  | sockaddr (xorEd : Bool) (addr : SockAddr)
  | string (value : Bytes)
  | empty
  | uint (value : UInt32)
  | uint64 (hi lo : UInt32)
  | msgint (hmac : Fixed 20)
  | errcode (errCode : ℤ) (reason : Bytes)
  | unknown (attrs : {l : List UInt16 // l.length ≤ maxAttr})
  | binary (magic : UInt32) (data : Bytes)
deriving DecidableEq

/-- Whether these fields are the ones the functions of a table entry cast to. An attribute
without an entry is a binary one. -/
def AttrVal.fits : AttrVal → Option Codec → Bool
  | .sockaddr _ _, some .sockaddr => true
  | .sockaddr _ _, some .xoredSockaddr => true
  | .string _, some .string => true
  | .empty, some .empty => true
  | .uint _, some .uint => true
  | .uint64 _ _, some .uint64 => true
  | .msgint _, some .msgint => true
  | .errcode _ _, some .errcode => true
  | .unknown _, some .unknown => true
  | .binary _ _, some .binary => true
  | .binary _ _, none => true
  | _, _ => false

@[ext]
structure Attr where
  type : UInt16
  length : UInt16
  val : AttrVal
  fits : val.fits (findAttrDesc type) = true
deriving DecidableEq

structure MsgHdr where
  type : UInt16
  length : UInt16
  magic : UInt32
  tsxId : Fixed 12
deriving DecidableEq

def magicBytes : Bytes := [0x21, 0x12, 0xA4, 0x42]

/-- The exclusive or of port and address with the cookie, and for the longer addresses with
the transaction id. -/
def SockAddr.mask (tsxId : Fixed 12) : SockAddr → SockAddr
  | .inet port addr =>
    .inet (port ^^^ 0x2112) ⟨xorMask magicBytes addr.1, by
      rw [xorMask_length _ _ (by simp [addr.2, magicBytes]), addr.2]⟩
  | .inet6 port addr =>
    .inet6 (port ^^^ 0x2112) ⟨xorMask (magicBytes ++ tsxId.1) addr.1, by
      rw [xorMask_length _ _ (by simp [addr.2, magicBytes, tsxId.2]), addr.2]⟩
  | .other family => .other family

@[simp] lemma SockAddr.mask_mask (tsxId : Fixed 12) (a : SockAddr) : (a.mask tsxId).mask tsxId = a := by
  have hport : ∀ p : UInt16, p ^^^ 0x2112 ^^^ 0x2112 = p := by
    intro p
    rw [UInt16.xor_assoc, UInt16.xor_self, UInt16.xor_zero]
  cases a with
  | inet port addr =>
    simp only [SockAddr.mask, hport, SockAddr.inet.injEq, true_and]
    exact Subtype.ext (xorMask_xorMask _ _ (by simp [addr.2, magicBytes]))
  | inet6 port addr =>
    simp only [SockAddr.mask, hport, SockAddr.inet6.injEq, true_and]
    exact Subtype.ext (xorMask_xorMask _ _ (by simp [addr.2, magicBytes, tsxId.2]))
  | other family => rfl

section Encode

variable (env : Env) (hdr : MsgHdr) (len : ℕ)

def encodeSockaddrAttr (type : UInt16) (xorEd : Bool) (addr : SockAddr) : Except Status Bytes :=
  match if xorEd then addr.mask hdr.tsxId else addr with
  | .inet port ip =>
    if len < 12 then .error .tooSmall
    else .ok (put16 type ++ put16 8 ++ [0, 1] ++ put16 port ++ ip.1)
  | .inet6 port ip =>
    if len < 24 then .error .tooSmall
    else .ok (put16 type ++ put16 20 ++ [0, 2] ++ put16 port ++ ip.1)
  | .other _ => .error .invAf

/-- `encode_string_attr`. The length of SOFTWARE counts the padding, for RFC 3489 peers. -/
def encodeStringAttr (type : UInt16) (value : Bytes) : Except Status Bytes :=
  if len < align4 (value.length + 4) then .error .tooSmall
  else
    let n := if hdr.magic ≠ stunMagic ∨ type = attrSoftware then align4 value.length
      else value.length
    .ok (put16 type ++ put16 (UInt16.ofNat n) ++ value ++ padding env.paddingChar value.length)

def encodeEmptyAttr (type : UInt16) : Except Status Bytes :=
  if len < 4 then .error .tooSmall else .ok (put16 type ++ put16 0)

def encodeUintAttr (type : UInt16) (value : UInt32) : Except Status Bytes :=
  if len < 8 then .error .tooSmall else .ok (put16 type ++ put16 4 ++ put32 value)

def encodeUint64Attr (type : UInt16) (hi lo : UInt32) : Except Status Bytes :=
  if len < 12 then .error .tooSmall else .ok (put16 type ++ put16 8 ++ put32 hi ++ put32 lo)

/-- `encode_msgint_attr`: the length is the one of the structure. -/
def encodeMsgintAttr (type length : UInt16) (hmac : Fixed 20) : Except Status Bytes :=
  if len < 24 then .error .tooSmall else .ok (put16 type ++ put16 length ++ hmac.1)

/-- `encode_errcode_attr`; the division of C rounds toward zero. -/
def encodeErrcodeAttr (type : UInt16) (errCode : ℤ) (reason : Bytes) : Except Status Bytes :=
  if len < align4 (4 + 4 + reason.length) then .error .tooSmall
  else .ok (put16 type ++ put16 (UInt16.ofNat (4 + reason.length)) ++ put16 0 ++
    [UInt8.ofInt (errCode.tdiv 100), UInt8.ofInt (errCode.tmod 100)] ++ reason ++
    padding env.paddingChar reason.length)

def encodeUnknownAttr (type : UInt16) (attrs : List UInt16) : Except Status Bytes :=
  if len < align4 (4 + attrs.length * 2) then .error .tooSmall
  else .ok (put16 type ++ put16 (UInt16.ofNat (attrs.length * 2)) ++ attrs.flatMap put16 ++
    padding env.paddingChar (attrs.length * 2))

def encodeBinaryAttr (type : UInt16) (data : Bytes) : Except Status Bytes :=
  if len < align4 (data.length + 4) then .error .tooSmall
  else .ok (put16 type ++ put16 (UInt16.ofNat data.length) ++ data ++
    padding env.paddingChar data.length)

/-- The call through the table, or of the binary encoder where there is no entry; the latter
asserts that the structure is a binary one. -/
def encodeAttr (a : Attr) : Except Status Bytes :=
  match a.val with
  | .sockaddr xorEd addr => encodeSockaddrAttr hdr len a.type xorEd addr
  | .string value => encodeStringAttr env hdr len a.type value
  | .empty => encodeEmptyAttr len a.type
  | .uint value => encodeUintAttr len a.type value
  | .uint64 hi lo => encodeUint64Attr len a.type hi lo
  | .msgint hmac => encodeMsgintAttr len a.type a.length hmac
  | .errcode errCode reason => encodeErrcodeAttr env len a.type errCode reason
  | .unknown attrs => encodeUnknownAttr env len a.type attrs.1
  | .binary magic data =>
    if findAttrDesc a.type = none ∧ magic ≠ stunMagic then .error .bug
    else encodeBinaryAttr env len a.type data

end Encode

section Decode

variable (buf : Bytes)

def attrLength : ℕ := (get16 buf 2).toNat

def decodeSockaddrAttr : Except Status SockAddr :=
  if attrLength buf ≠ 8 ∧ attrLength buf ≠ 20 then .error .inAttrLen
  else if byteAt buf 5 = 1 then
    if attrLength buf ≠ 8 then .error .inAttrLen
    else .ok (.inet (get16 buf 6) ⟨slice buf 8 4, slice_length _ _ _⟩)
  else if byteAt buf 5 = 2 then
    if attrLength buf ≠ 20 then .error .inAttrLen
    else .ok (.inet6 (get16 buf 6) ⟨slice buf 8 16, slice_length _ _ _⟩)
  else .error .invAf

def decodeXoredSockaddrAttr (hdr : MsgHdr) : Except Status SockAddr :=
  (decodeSockaddrAttr buf).map (SockAddr.mask hdr.tsxId)

def decodeStringAttr : Bytes := slice buf 4 (attrLength buf)

def decodeEmptyAttr : Except Status Unit :=
  if attrLength buf ≠ 0 then .error .inAttrLen else .ok ()

def decodeUintAttr : Except Status UInt32 :=
  if attrLength buf ≠ 4 then .error .inAttrLen else .ok (get32 buf 4)

def decodeUint64Attr : Except Status (UInt32 × UInt32) :=
  if attrLength buf ≠ 8 then .error .inAttrLen else .ok (get32 buf 4, get32 buf 8)

def decodeMsgintAttr : Except Status (Fixed 20) :=
  if attrLength buf ≠ 20 then .error .inAttrLen else .ok ⟨slice buf 4 20, slice_length _ _ _⟩

def decodeErrcodeAttr : Except Status (ℤ × Bytes) :=
  if attrLength buf < 4 then .error .inAttrLen
  else .ok ((byteAt buf 6).toNat * 100 + (byteAt buf 7).toNat, slice buf 8 (attrLength buf - 4))

def decodeUnknownAttr : Except Status {l : List UInt16 // l.length ≤ maxAttr} :=
  if h : attrLength buf / 2 ≤ maxAttr then
    .ok ⟨(List.range (attrLength buf / 2)).map fun i => get16 buf (4 + 2 * i), by simpa using h⟩
  else .error .tooMany

/-- `decode_binary_attr`; it leaves the marker of the structure at zero. -/
def decodeBinaryAttr : Bytes := slice buf 4 (attrLength buf)

def decodeAttr (hdr : MsgHdr) (c : Codec) :
    Except Status {v : AttrVal // v.fits (some c) = true} :=
  match c with
  | .sockaddr => (decodeSockaddrAttr buf).map fun a => ⟨.sockaddr false a, rfl⟩
  | .xoredSockaddr => (decodeXoredSockaddrAttr buf hdr).map fun a => ⟨.sockaddr true a, rfl⟩
  | .string => .ok ⟨.string (decodeStringAttr buf), rfl⟩
  | .empty => (decodeEmptyAttr buf).map fun _ => ⟨.empty, rfl⟩
  | .uint => (decodeUintAttr buf).map fun v => ⟨.uint v, rfl⟩
  | .uint64 => (decodeUint64Attr buf).map fun v => ⟨.uint64 v.1 v.2, rfl⟩
  | .msgint => (decodeMsgintAttr buf).map fun h => ⟨.msgint h, rfl⟩
  | .errcode => (decodeErrcodeAttr buf).map fun e => ⟨.errcode e.1 e.2, rfl⟩
  | .unknown => (decodeUnknownAttr buf).map fun l => ⟨.unknown l, rfl⟩
  | .binary => .ok ⟨.binary 0 (decodeBinaryAttr buf), rfl⟩

end Decode

end PjProject.Stun
