import PjProject.BoundedRead
import PjProject.StunLaw

/-!
# What the STUN decoder reads and accepts

The attribute decoders on the bytes of one attribute only, where a read outside of them is a fault, and
the order of the attributes that `pj_stun_msg_decode` lets through.
-/
namespace PjProject.Stun
open ByteOrder BoundedRead

inductive DecodeFault
  | outside
  | status (s : Status)
  deriving DecidableEq

/-- A value that is made of `n` bytes at a position. -/
def within {α : Type} (own : Bytes) (pos n : ℕ) (v : α) : Except DecodeFault α :=
  if pos + n ≤ own.length then .ok v else .error .outside

section Decoders

variable (own : Bytes)

/-- `GETATTRHDR`, as far as the length. -/
def lengthIn : Except DecodeFault ℕ := within own 0 4 (attrLength own)

def fixedIn (pos n : ℕ) : Fixed n := ⟨slice own pos n, slice_length own pos n⟩

/-- `decode_sockaddr_attr` -/
def decodeSockaddrIn : Except DecodeFault SockAddr := do
  let length ← lengthIn own
  if length ≠ 8 ∧ length ≠ 20 then .error (.status .inAttrLen)
  else do
    let family ← within own 5 1 (byteAt own 5)
    if family = 1 then
      if length ≠ 8 then .error (.status .inAttrLen)
      else do
        let port ← within own 6 2 (get16 own 6)
        let addr ← within own 8 4 (fixedIn own 8 4)
        .ok (.inet port addr)
    else if family = 2 then
      if length ≠ 20 then .error (.status .inAttrLen)
      else do
        let port ← within own 6 2 (get16 own 6)
        let addr ← within own 8 16 (fixedIn own 8 16)
        .ok (.inet6 port addr)
    else .error (.status .invAf)

/-- `decode_xored_sockaddr_attr` -/
def decodeXoredSockaddrIn (hdr : MsgHdr) : Except DecodeFault SockAddr := do
  let addr ← decodeSockaddrIn own
  .ok (SockAddr.mask hdr.tsxId addr)

/-- `decode_string_attr` and `decode_binary_attr` -/
def decodeBytesIn : Except DecodeFault Bytes := do
  let length ← lengthIn own
  within own 4 length (slice own 4 length)

/-- `decode_empty_attr` -/
def decodeEmptyIn : Except DecodeFault Unit := do
  let length ← lengthIn own
  if length ≠ 0 then .error (.status .inAttrLen) else .ok ()

/-- `decode_uint_attr` -/
def decodeUintIn : Except DecodeFault UInt32 := do
  let length ← lengthIn own
  if length ≠ 4 then .error (.status .inAttrLen) else within own 4 4 (get32 own 4)

/-- `decode_uint64_attr` -/
def decodeUint64In : Except DecodeFault (UInt32 × UInt32) := do
  let length ← lengthIn own
  if length ≠ 8 then .error (.status .inAttrLen) else within own 4 8 (get32 own 4, get32 own 8)

/-- `decode_msgint_attr` -/
def decodeMsgintIn : Except DecodeFault (Fixed 20) := do
  let length ← lengthIn own
  if length ≠ 20 then .error (.status .inAttrLen)
  else within own 4 20 (fixedIn own 4 20)

/-- `decode_errcode_attr` -/
def decodeErrcodeIn : Except DecodeFault (ℤ × Bytes) := do
  let length ← lengthIn own
  if length < 4 then .error (.status .inAttrLen)
  else do
    let hundreds ← within own 6 1 (byteAt own 6)
    let rest ← within own 7 1 (byteAt own 7)
    let reason ← within own 8 (length - 4) (slice own 8 (length - 4))
    .ok (hundreds.toNat * 100 + rest.toNat, reason)

/-- `decode_unknown_attr` -/
def decodeUnknownIn : Except DecodeFault {l : List UInt16 // l.length ≤ maxAttr} := do
  let length ← lengthIn own
  if h : length / 2 ≤ maxAttr then
    within own 4 (2 * (length / 2))
      ⟨(List.range (length / 2)).map fun i => get16 own (4 + 2 * i), by simpa using h⟩
  else .error (.status .tooMany)

def decodeAttrIn (hdr : MsgHdr) (c : Codec) :
    Except DecodeFault {v : AttrVal // v.fits (some c) = true} :=
  match c with
  | .sockaddr => (decodeSockaddrIn own).map fun a => ⟨.sockaddr false a, Eq.refl true⟩
  | .xoredSockaddr => (decodeXoredSockaddrIn own hdr).map fun a => ⟨.sockaddr true a, Eq.refl true⟩
  | .string => (decodeBytesIn own).map fun s => ⟨.string s, Eq.refl true⟩
  | .empty => (decodeEmptyIn own).map fun _ => ⟨.empty, Eq.refl true⟩
  | .uint => (decodeUintIn own).map fun v => ⟨.uint v, Eq.refl true⟩
  | .uint64 => (decodeUint64In own).map fun v => ⟨.uint64 v.1 v.2, Eq.refl true⟩
  | .msgint => (decodeMsgintIn own).map fun h => ⟨.msgint h, Eq.refl true⟩
  | .errcode => (decodeErrcodeIn own).map fun e => ⟨.errcode e.1 e.2, Eq.refl true⟩
  | .unknown => (decodeUnknownIn own).map fun l => ⟨.unknown l, Eq.refl true⟩
  | .binary => (decodeBytesIn own).map fun s => ⟨.binary 0 s, Eq.refl true⟩

end Decoders

def ownBytes (pdu : Bytes) : Bytes := pdu.take (attrLength pdu + 4)

def attrOf (type length : UInt16) {d : Option Codec} (hd : findAttrDesc type = d)
    (v : {v : AttrVal // v.fits d = true}) : Attr :=
  ⟨type, length, v.1, hd ▸ v.2⟩

/-- `readAttr`, with the decoders on the bytes of the attribute only. -/
def readAttrIn (p : Parse) (pdu : Bytes) : Except DecodeFault Parse :=
  if pdu.length < align4 (attrLength pdu) + 4 then .error (.status .inAttrLen)
  else
    match h : findAttrDesc (get16 pdu 0) with
    | none =>
      if get16 pdu 0 ≤ 0x7FFF then .error (.status (.stunCode 420))
      else do
        let data ← decodeBytesIn (ownBytes pdu)
        (p.add (attrOf (get16 pdu 0) (get16 pdu 2) h ⟨.binary stunMagic data, Eq.refl true⟩)).mapError .status
    | some c => do
      let v ← decodeAttrIn (ownBytes pdu) p.msg.hdr c
      let p ← (p.note (get16 pdu 0)).mapError .status
      (p.add (attrOf (get16 pdu 0) (get16 pdu 2) h v)).mapError .status

def readAttrsIn : ℕ → Parse → Bytes → ℕ → Except DecodeFault (Msg × ℕ)
  | 0, p, pdu, pos => if 0 < pdu.length then .error (.status .inStunMsgLen) else .ok (p.msg, pos)
  | fuel + 1, p, pdu, pos =>
    if pdu.length < 4 then if 0 < pdu.length then .error (.status .inStunMsgLen) else .ok (p.msg, pos)
    else do
      let p ← readAttrIn p pdu
      let n := align4 (attrLength pdu) + 4
      if pdu.length ≤ n then readAttrsIn fuel p [] (pos + pdu.length)
      else readAttrsIn fuel p (pdu.drop n) (pos + n)

def bodyOf (pdu : Bytes) : Bytes := (pdu.drop 20).take (get16 pdu 2).toNat

def decodeIn (env : Env) (options : DecodeOptions) (pdu : Bytes) : Except DecodeFault (Msg × ℕ) :=
  if pdu = [] then .error (.status .inval)
  else do
    (precheck env options pdu).mapError .status
    readAttrsIn (get16 pdu 2).toNat ⟨emptyMsg (readHeader pdu), false, false⟩ (bodyOf pdu) 20

section Inside

variable {own tail : Bytes} {hdr : MsgHdr} {α : Type}

lemma within_ok {pos n : ℕ} {v : α} (h : pos + n ≤ own.length) : within own pos n v = .ok v := if_pos h

lemma mapError_bind {β ε ε' : Type} (g : ε → ε') (x : Except ε α) (f : α → Except ε β) :
    (x >>= f).mapError g = x.mapError g >>= fun a => (f a).mapError g := by
  cases x <;> rfl

lemma map_mapError {β ε ε' : Type} (g : ε → ε') (f : α → β) (x : Except ε α) :
    (x.mapError g).map f = (x.map f).mapError g := by
  cases x <;> rfl

lemma attrLength_front (h : 4 ≤ own.length) (tail : Bytes) : attrLength (own ++ tail) = attrLength own := by
  rw [attrLength, get16_append_left _ _ _ (by omega), attrLength]

section Own

variable (h : own.length = attrLength own + 4)
include h

lemma lengthIn_ok : lengthIn own = .ok (attrLength own) := within_ok (by omega)

lemma decodeSockaddrIn_eq : decodeSockaddrIn own = (decodeSockaddrAttr own).mapError .status := by
  rw [decodeSockaddrIn, lengthIn_ok h, ok_bind, decodeSockaddrAttr]
  by_cases hlen : attrLength own ≠ 8 ∧ attrLength own ≠ 20
  · rw [if_pos hlen, if_pos hlen]
    rfl
  · rw [if_neg hlen, if_neg hlen, within_ok (by omega), ok_bind]
    by_cases h1 : byteAt own 5 = 1
    · rw [if_pos h1, if_pos h1]
      by_cases h8 : attrLength own ≠ 8
      · rw [if_pos h8, if_pos h8]
        rfl
      · rw [if_neg h8, if_neg h8, within_ok (by omega), ok_bind, within_ok (by omega), ok_bind]
        rfl
    · rw [if_neg h1, if_neg h1]
      by_cases h2 : byteAt own 5 = 2
      · rw [if_pos h2, if_pos h2]
        by_cases h20 : attrLength own ≠ 20
        · rw [if_pos h20, if_pos h20]
          rfl
        · rw [if_neg h20, if_neg h20, within_ok (by omega), ok_bind, within_ok (by omega), ok_bind]
          rfl
      · rw [if_neg h2, if_neg h2]
        rfl

lemma decodeXoredSockaddrIn_eq : decodeXoredSockaddrIn own hdr = (decodeXoredSockaddrAttr own hdr).mapError .status := by
  rw [decodeXoredSockaddrIn, decodeSockaddrIn_eq h, decodeXoredSockaddrAttr]
  cases decodeSockaddrAttr own <;> rfl

lemma decodeBytesIn_eq : decodeBytesIn own = .ok (slice own 4 (attrLength own)) := by
  rw [decodeBytesIn, lengthIn_ok h, ok_bind, within_ok (by omega)]

lemma decodeEmptyIn_eq : decodeEmptyIn own = (decodeEmptyAttr own).mapError .status := by
  rw [decodeEmptyIn, lengthIn_ok h, ok_bind, decodeEmptyAttr]
  split_ifs <;> rfl

lemma decodeUintIn_eq : decodeUintIn own = (decodeUintAttr own).mapError .status := by
  rw [decodeUintIn, lengthIn_ok h, ok_bind, decodeUintAttr]
  split_ifs with hlen
  · rfl
  · exact within_ok (by omega)

lemma decodeUint64In_eq : decodeUint64In own = (decodeUint64Attr own).mapError .status := by
  rw [decodeUint64In, lengthIn_ok h, ok_bind, decodeUint64Attr]
  split_ifs with hlen
  · rfl
  · exact within_ok (by omega)

lemma decodeMsgintIn_eq : decodeMsgintIn own = (decodeMsgintAttr own).mapError .status := by
  rw [decodeMsgintIn, lengthIn_ok h, ok_bind, decodeMsgintAttr]
  split_ifs with hlen
  · rfl
  · exact within_ok (by omega)

lemma decodeErrcodeIn_eq : decodeErrcodeIn own = (decodeErrcodeAttr own).mapError .status := by
  rw [decodeErrcodeIn, lengthIn_ok h, ok_bind, decodeErrcodeAttr]
  split_ifs with hlen
  · rfl
  · rw [within_ok (by omega), ok_bind, within_ok (by omega), ok_bind, within_ok (by omega), ok_bind]
    rfl

lemma decodeUnknownIn_eq : decodeUnknownIn own = (decodeUnknownAttr own).mapError .status := by
  rw [decodeUnknownIn, lengthIn_ok h, ok_bind, decodeUnknownAttr]
  split_ifs with hlen
  · exact within_ok (by omega)
  · rfl

lemma decodeAttrIn_eq (c : Codec) : decodeAttrIn own hdr c = (decodeAttr own hdr c).mapError .status := by
  cases c with
  | sockaddr => rw [decodeAttrIn, decodeSockaddrIn_eq h, map_mapError]; rfl
  | xoredSockaddr => rw [decodeAttrIn, decodeXoredSockaddrIn_eq h, map_mapError]; rfl
  | string => rw [decodeAttrIn, decodeBytesIn_eq h]; rfl
  | empty => rw [decodeAttrIn, decodeEmptyIn_eq h, map_mapError]; rfl
  | uint => rw [decodeAttrIn, decodeUintIn_eq h, map_mapError]; rfl
  | uint64 => rw [decodeAttrIn, decodeUint64In_eq h, map_mapError]; rfl
  | msgint => rw [decodeAttrIn, decodeMsgintIn_eq h, map_mapError]; rfl
  | errcode => rw [decodeAttrIn, decodeErrcodeIn_eq h, map_mapError]; rfl
  | unknown => rw [decodeAttrIn, decodeUnknownIn_eq h, map_mapError]; rfl
  | binary => rw [decodeAttrIn, decodeBytesIn_eq h]; rfl

/-! Bytes behind the attribute change nothing. -/

lemma attrLength_append (tail : Bytes) : attrLength (own ++ tail) = attrLength own :=
  attrLength_front (by omega) tail

lemma decodeSockaddrAttr_append : decodeSockaddrAttr (own ++ tail) = decodeSockaddrAttr own := by
  unfold decodeSockaddrAttr
  rw [attrLength_append h]
  by_cases hlen : attrLength own ≠ 8 ∧ attrLength own ≠ 20
  · rw [if_pos hlen, if_pos hlen]
  · rw [if_neg hlen, if_neg hlen, byteAt_append_left _ _ _ (by omega), get16_append_left _ _ _ (by omega)]
    simp only [slice_append_left own tail 8 4 (by omega)]
    by_cases h20 : attrLength own ≠ 20
    · simp only [if_pos h20]
    · simp only [slice_append_left own tail 8 16 (by omega)]

lemma decodeUintAttr_append : decodeUintAttr (own ++ tail) = decodeUintAttr own := by
  unfold decodeUintAttr
  rw [attrLength_append h]
  split_ifs with hlen
  · rfl
  · rw [get32_append_left _ _ _ (by omega)]

lemma decodeUint64Attr_append : decodeUint64Attr (own ++ tail) = decodeUint64Attr own := by
  unfold decodeUint64Attr
  rw [attrLength_append h]
  split_ifs with hlen
  · rfl
  · rw [get32_append_left _ _ _ (by omega), get32_append_left _ _ _ (by omega)]

lemma decodeMsgintAttr_append : decodeMsgintAttr (own ++ tail) = decodeMsgintAttr own := by
  unfold decodeMsgintAttr
  rw [attrLength_append h]
  split_ifs with hlen
  · rfl
  · simp only [slice_append_left own tail 4 20 (by omega)]

lemma decodeErrcodeAttr_append : decodeErrcodeAttr (own ++ tail) = decodeErrcodeAttr own := by
  unfold decodeErrcodeAttr
  rw [attrLength_append h]
  split_ifs with hlen
  · rfl
  · rw [byteAt_append_left _ _ _ (by omega), byteAt_append_left _ _ _ (by omega),
      slice_append_left _ _ _ _ (by omega)]

lemma decodeUnknownAttr_append : decodeUnknownAttr (own ++ tail) = decodeUnknownAttr own := by
  unfold decodeUnknownAttr
  have hmap : (List.range (attrLength own / 2)).map (fun i => get16 (own ++ tail) (4 + 2 * i)) =
      (List.range (attrLength own / 2)).map fun i => get16 own (4 + 2 * i) := by
    apply List.map_congr_left
    intro i hi
    have := List.mem_range.1 hi
    exact get16_append_left _ _ _ (by omega)
  simp only [attrLength_append h, hmap]

lemma decodeBytes_append : slice (own ++ tail) 4 (attrLength (own ++ tail)) = slice own 4 (attrLength own) := by
  rw [attrLength_append h, slice_append_left _ _ _ _ (by omega)]

lemma decodeAttr_append (c : Codec) : decodeAttr (own ++ tail) hdr c = decodeAttr own hdr c := by
  cases c with
  | sockaddr => simp only [decodeAttr, decodeSockaddrAttr_append h]
  | xoredSockaddr => simp only [decodeAttr, decodeXoredSockaddrAttr, decodeSockaddrAttr_append h]
  | string => simp only [decodeAttr, decodeStringAttr, decodeBytes_append h]
  | empty => simp only [decodeAttr, decodeEmptyAttr, attrLength_append h]
  | uint => simp only [decodeAttr, decodeUintAttr_append h]
  | uint64 => simp only [decodeAttr, decodeUint64Attr_append h]
  | msgint => simp only [decodeAttr, decodeMsgintAttr_append h]
  | errcode => simp only [decodeAttr, decodeErrcodeAttr_append h]
  | unknown => simp only [decodeAttr, decodeUnknownAttr_append h]
  | binary => simp only [decodeAttr, decodeBinaryAttr, decodeBytes_append h]

end Own

end Inside

section Loop

variable {pdu : Bytes}

lemma ownBytes_split (h : ¬ pdu.length < align4 (attrLength pdu) + 4) :
    (ownBytes pdu).length = attrLength (ownBytes pdu) + 4 ∧ attrLength (ownBytes pdu) = attrLength pdu ∧
      ownBytes pdu ++ pdu.drop (attrLength pdu + 4) = pdu := by
  have hle := le_align4 (attrLength pdu)
  have hlen : (ownBytes pdu).length = attrLength pdu + 4 := by
    rw [ownBytes, List.length_take]
    omega
  have hsplit : ownBytes pdu ++ pdu.drop (attrLength pdu + 4) = pdu := List.take_append_drop _ _
  have hsame : attrLength (ownBytes pdu) = attrLength pdu := by
    conv_rhs => rw [← hsplit]
    exact (attrLength_front (by omega) _).symm
  exact ⟨by rw [hlen, hsame], hsame, hsplit⟩

lemma readAttr_unknown {p : Parse} {pdu : Bytes} (hroom : ¬ pdu.length < align4 (attrLength pdu) + 4)
    (hdesc : findAttrDesc (get16 pdu 0) = none) :
    readAttr p pdu = if get16 pdu 0 ≤ 0x7FFF then .error (.stunCode 420)
      else p.add ⟨get16 pdu 0, get16 pdu 2, .binary stunMagic (slice pdu 4 (attrLength pdu)), by rw [hdesc]; rfl⟩ := by
  rw [readAttr, if_neg hroom]
  split
  · rfl
  · next c hsome => exact absurd (hdesc.symm.trans hsome) (by simp)

lemma readAttr_known {p : Parse} {pdu : Bytes} {c : Codec} (hroom : ¬ pdu.length < align4 (attrLength pdu) + 4)
    (hdesc : findAttrDesc (get16 pdu 0) = some c) :
    readAttr p pdu = (do
      let v ← decodeAttr pdu p.msg.hdr c
      let p ← p.note (get16 pdu 0)
      p.add ⟨get16 pdu 0, get16 pdu 2, v.1, by rw [hdesc]; exact v.2⟩) := by
  rw [readAttr, if_neg hroom]
  split
  · next hnone => exact absurd (hdesc.symm.trans hnone) (by simp)
  · next c' hsome =>
    obtain rfl : c = c' := Option.some.inj (hdesc.symm.trans hsome)
    rfl

lemma readAttrIn_eq (p : Parse) (pdu : Bytes) : readAttrIn p pdu = (readAttr p pdu).mapError .status := by
  by_cases hroom : pdu.length < align4 (attrLength pdu) + 4
  · rw [readAttrIn, readAttr, if_pos hroom, if_pos hroom]
    rfl
  · obtain ⟨hown, hsame, hsplit⟩ := ownBytes_split hroom
    have hbytes : slice (ownBytes pdu) 4 (attrLength (ownBytes pdu)) = slice pdu 4 (attrLength pdu) := by
      have := @decodeBytes_append (ownBytes pdu) (pdu.drop (attrLength pdu + 4)) hown
      rw [hsplit] at this
      exact this.symm
    have hattr : ∀ c, decodeAttr (ownBytes pdu) p.msg.hdr c = decodeAttr pdu p.msg.hdr c := by
      intro c
      have := @decodeAttr_append (ownBytes pdu) (pdu.drop (attrLength pdu + 4)) p.msg.hdr hown c
      rw [hsplit] at this
      exact this.symm
    rw [readAttrIn, if_neg hroom]
    split
    · next hnone =>
      rw [readAttr_unknown hroom hnone, decodeBytesIn_eq hown, ok_bind, hbytes]
      split_ifs <;> rfl
    · next c hsome =>
      rw [readAttr_known hroom hsome, decodeAttrIn_eq hown, hattr, mapError_bind]
      refine congrArg _ (funext fun v => ?_)
      rw [mapError_bind]
      rfl

lemma readAttrsIn_eq (fuel : ℕ) (p : Parse) (pdu : Bytes) (pos : ℕ) :
    readAttrsIn fuel p pdu pos = (readAttrs fuel p pdu pos).mapError .status := by
  induction fuel generalizing p pdu pos with
  | zero =>
    rw [readAttrsIn, readAttrs]
    split_ifs <;> rfl
  | succ fuel ih =>
    rw [readAttrsIn, readAttrs]
    by_cases h4 : pdu.length < 4
    · rw [if_pos h4, if_pos h4]
      split_ifs <;> rfl
    · rw [if_neg h4, if_neg h4, readAttrIn_eq, mapError_bind]
      refine congrArg _ (funext fun p' => ?_)
      dsimp only
      split_ifs
      · exact ih _ _ _
      · exact ih _ _ _

lemma decodeIn_eq (env : Env) (options : DecodeOptions) (pdu : Bytes) :
    decodeIn env options pdu = (decode env options pdu).mapError .status := by
  unfold decodeIn decode
  split_ifs
  · rfl
  · rw [mapError_bind]
    refine congrArg _ (funext fun _ => ?_)
    exact readAttrsIn_eq _ _ _ _

end Loop

def attrTypes (body : Bytes) : List UInt16 :=
  if body.length < 4 then []
  else get16 body 0 :: attrTypes (body.drop (align4 (attrLength body) + 4))
termination_by body.length
decreasing_by
  rw [List.length_drop]
  omega

inductive Tiles : Bytes → List Attr → Prop
  | nil : Tiles [] []
  | cons {own rest : Bytes} {a : Attr} {attrs : List Attr} (hlen : own.length = align4 (attrLength own) + 4)
      (htype : a.type = get16 own 0) (hlength : a.length = get16 own 2) (h : Tiles rest attrs) :
      Tiles (own ++ rest) (a :: attrs)

inductive Ordered : Bool → Bool → List Attr → Prop
  | nil {mi fp : Bool} : Ordered mi fp []
  | unknown {mi fp : Bool} {a : Attr} {attrs : List Attr} (ha : findAttrDesc a.type = none)
      (h : Ordered mi fp attrs) : Ordered mi fp (a :: attrs)
  | msgInt {a : Attr} {attrs : List Attr} (ha : a.type = attrMessageIntegrity) (h : Ordered true false attrs) :
      Ordered false false (a :: attrs)
  | fingerprint {mi : Bool} {a : Attr} {attrs : List Attr} (ha : a.type = attrFingerprint)
      (h : Ordered mi true attrs) : Ordered mi false (a :: attrs)
  | plain {mi : Bool} {a : Attr} {attrs : List Attr} (ha : findAttrDesc a.type ≠ none)
      (hc : a.closes = false) (h : Ordered mi false attrs) : Ordered mi false (a :: attrs)

section Accepted

variable {p p' : Parse} {pdu : Bytes}

lemma note_ok {type : UInt16} (h : p.note type = .ok p') : p'.msg = p.msg ∧
    (type = attrMessageIntegrity ∧ p.hasFingerprint = false ∧ p.hasMsgInt = false ∧
        p'.hasMsgInt = true ∧ p'.hasFingerprint = false ∨
      type = attrFingerprint ∧ p.hasFingerprint = false ∧ p'.hasMsgInt = p.hasMsgInt ∧ p'.hasFingerprint = true ∨
      type ≠ attrMessageIntegrity ∧ type ≠ attrFingerprint ∧ p.hasFingerprint = false ∧ p' = p) := by
  unfold Parse.note at h
  split_ifs at h with hmi hdup hfp hdup hlast
  · cases h
    exact ⟨rfl, .inl ⟨hmi.1, hmi.2, by simpa using hdup, rfl, hmi.2⟩⟩
  · cases h
    exact ⟨rfl, .inr (.inl ⟨hfp, by simpa using hdup, rfl, rfl⟩)⟩
  · cases h
    have hno : p.hasFingerprint = false := by simpa using hlast
    exact ⟨rfl, .inr (.inr ⟨fun ht => hmi ⟨ht, hno⟩, hfp, hno, rfl⟩)⟩

lemma add_ok {a : Attr} (h : p.add a = .ok p') : p'.msg.attrs = p.msg.attrs ++ [a] ∧ p'.msg.hdr = p.msg.hdr ∧
    p'.hasMsgInt = p.hasMsgInt ∧ p'.hasFingerprint = p.hasFingerprint := by
  unfold Parse.add at h
  split_ifs at h
  cases h
  exact ⟨rfl, rfl, rfl, rfl⟩

lemma readAttr_ok (h : readAttr p pdu = .ok p') :
    align4 (attrLength pdu) + 4 ≤ pdu.length ∧ ∃ a : Attr, p'.msg.attrs = p.msg.attrs ++ [a] ∧
      p'.msg.hdr = p.msg.hdr ∧ a.type = get16 pdu 0 ∧ a.length = get16 pdu 2 ∧
      ∀ attrs, Ordered p'.hasMsgInt p'.hasFingerprint attrs → Ordered p.hasMsgInt p.hasFingerprint (a :: attrs) := by
  unfold readAttr at h
  by_cases hroom : pdu.length < align4 (attrLength pdu) + 4
  · rw [if_pos hroom] at h
    cases h
  · rw [if_neg hroom] at h
    refine ⟨Nat.not_lt.1 hroom, ?_⟩
    split at h
    · next hnone =>
      split_ifs at h
      obtain ⟨hattrs, hhdr, hmi, hfp⟩ := add_ok h
      refine ⟨_, hattrs, hhdr, rfl, rfl, fun attrs hord => ?_⟩
      rw [hmi, hfp] at hord
      exact .unknown hnone hord
    · next c hsome =>
      obtain ⟨v, -, h⟩ := of_bind h
      obtain ⟨q, hnote, h⟩ := of_bind h
      obtain ⟨hattrs, hhdr, hmi, hfp⟩ := add_ok h
      obtain ⟨hmsg, hflags⟩ := note_ok hnote
      rw [hmsg] at hattrs hhdr
      refine ⟨_, hattrs, hhdr, rfl, rfl, fun attrs hord => ?_⟩
      rw [hmi, hfp] at hord
      rcases hflags with ⟨ht, hf, hm, hm', hf'⟩ | ⟨ht, hf, hm', hf'⟩ | ⟨hnmi, hnfp, hf, rfl⟩
      · rw [hm', hf'] at hord
        rw [hm, hf]
        exact .msgInt ht hord
      · rw [hm', hf'] at hord
        rw [hf]
        exact .fingerprint ht hord
      · rw [hf] at hord ⊢
        exact .plain (by simp [hsome]) (by simp [Attr.closes, hnmi, hnfp]) hord

lemma readAll_ok {pos n : ℕ} {msg : Msg} (h : readAll p pdu pos = .ok (msg, n)) :
    ∃ attrs, msg.attrs = p.msg.attrs ++ attrs ∧ msg.hdr = p.msg.hdr ∧ Tiles pdu attrs ∧
      Ordered p.hasMsgInt p.hasFingerprint attrs ∧ n = pos + pdu.length := by
  induction hm : pdu.length using Nat.strong_induction_on generalizing p pdu pos with
  | _ m ih =>
    cases hk : pdu.length with
    | zero =>
      have hnil : pdu = [] := List.eq_nil_of_length_eq_zero hk
      subst hnil
      rw [readAll_nil] at h
      cases h
      exact ⟨[], by simp, rfl, .nil, .nil, by omega⟩
    | succ k =>
      rw [readAll, hk, readAttrs] at h
      split_ifs at h with h4 hpos
      · omega
      · obtain ⟨q, hq, h⟩ := of_bind h
        obtain ⟨hroom, a, hattrs, hhdr, htype, hlength, hord⟩ := readAttr_ok hq
        obtain ⟨own, rest, rfl, hown⟩ : ∃ own rest, pdu = own ++ rest ∧
            own.length = align4 (attrLength pdu) + 4 :=
          ⟨pdu.take (align4 (attrLength pdu) + 4), pdu.drop (align4 (attrLength pdu) + 4),
            (List.take_append_drop _ _).symm, by rw [List.length_take]; omega⟩
        have hsame := @attrLength_front own (by omega) rest
        rw [List.length_append] at hk hm
        have hrun : readAll q rest (pos + own.length) = .ok (msg, n) := by
          dsimp only at h
          rw [← hown, List.length_append, List.drop_left] at h
          split_ifs at h with hle
          · obtain rfl : rest = [] := List.eq_nil_of_length_eq_zero (by omega)
            rw [List.length_nil, Nat.add_zero, readAttrs_fuel _ _ _ _ (by simp)] at h
            exact h
          · rwa [readAttrs_fuel _ _ _ _ (by omega)] at h
        obtain ⟨attrs, hmsg, hhdr', htiles, hordered, rfl⟩ := ih _ (by omega) hrun rfl
        refine ⟨a :: attrs, by rw [hmsg, hattrs, List.append_assoc]; rfl, hhdr'.trans hhdr,
          .cons (hsame ▸ hown) ?_ ?_ htiles, hord attrs hordered, by omega⟩
        · rw [htype, get16_append_left _ _ _ (by omega)]
        · rw [hlength, get16_append_left _ _ _ (by omega)]

lemma Tiles.types {body : Bytes} {attrs : List Attr} (h : Tiles body attrs) : attrTypes body = attrs.map Attr.type := by
  induction h with
  | nil => simp [attrTypes]
  | @cons own rest a attrs hlen htype hlength h ih =>
    have hsame := @attrLength_front own (by omega) rest
    rw [attrTypes, if_neg (by rw [List.length_append]; omega), hsame, ← hlen, List.drop_left, ih,
      get16_append_left _ _ _ (by omega), List.map_cons, htype]

end Accepted

def isType (type : UInt16) (a : Attr) : Bool := a.type = type

section Order

variable {mi fp : Bool} {attrs : List Attr} {a : Attr}

lemma isType_of_unknown (h : findAttrDesc a.type = none) :
    isType attrMessageIntegrity a = false ∧ isType attrFingerprint a = false := by
  constructor
  · rw [isType, decide_eq_false_iff_not]
    intro ht
    rw [ht] at h
    exact absurd h (by decide)
  · rw [isType, decide_eq_false_iff_not]
    intro ht
    rw [ht] at h
    exact absurd h (by decide)

lemma isType_of_open (h : a.closes = false) :
    isType attrMessageIntegrity a = false ∧ isType attrFingerprint a = false := by
  simpa [Attr.closes, isType] using h

lemma Ordered.behind (h : Ordered mi true attrs) : ∀ a ∈ attrs, findAttrDesc a.type = none := by
  generalize hf : true = f at h
  induction h with
  | nil => simp
  | unknown ha h ih =>
    rw [List.forall_mem_cons]
    exact ⟨ha, ih hf⟩
  | msgInt ha h ih => cases hf
  | fingerprint ha h ih => cases hf
  | plain ha hc h ih => cases hf

lemma Ordered.once (h : Ordered mi fp attrs) :
    attrs.countP (isType attrMessageIntegrity) ≤ 1 - mi.toNat ∧ attrs.countP (isType attrFingerprint) ≤ 1 - fp.toNat := by
  induction h with
  | nil => simp
  | unknown ha h ih =>
    obtain ⟨hmi, hfp⟩ := isType_of_unknown ha
    rwa [List.countP_cons_of_neg (by simp [hmi]), List.countP_cons_of_neg (by simp [hfp])]
  | msgInt ha h ih =>
    rw [List.countP_cons_of_pos (by simp [isType, ha]), List.countP_cons_of_neg (by rw [isType, ha]; decide)]
    exact ⟨Nat.succ_le_succ ih.1, ih.2⟩
  | fingerprint ha h ih =>
    rw [List.countP_cons_of_neg (by rw [isType, ha]; decide), List.countP_cons_of_pos (by simp [isType, ha])]
    exact ⟨ih.1, Nat.succ_le_succ ih.2⟩
  | plain ha hc h ih =>
    obtain ⟨hmi, hfp⟩ := isType_of_open hc
    rwa [List.countP_cons_of_neg (by simp [hmi]), List.countP_cons_of_neg (by simp [hfp])]

lemma Ordered.unknown_behind (h : Ordered mi fp attrs) {pre post : List Attr}
    (hattrs : attrs = pre ++ a :: post) (ha : a.type = attrFingerprint) : ∀ b ∈ post, findAttrDesc b.type = none := by
  have hfp : isType attrFingerprint a = true := by simp [isType, ha]
  induction h generalizing pre with
  | nil => simp at hattrs
  | unknown hno h ih =>
    cases pre with
    | nil =>
      cases hattrs
      simp [(isType_of_unknown hno).2] at hfp
    | cons x pre => exact ih (List.cons.inj hattrs).2
  | msgInt hmi h ih =>
    cases pre with
    | nil =>
      cases hattrs
      exact absurd (hmi.symm.trans ha) (by decide)
    | cons x pre => exact ih (List.cons.inj hattrs).2
  | fingerprint _ h ih =>
    cases pre with
    | nil =>
      cases hattrs
      exact h.behind
    | cons x pre => exact ih (List.cons.inj hattrs).2
  | plain _ hc h ih =>
    cases pre with
    | nil =>
      cases hattrs
      simp [(isType_of_open hc).2] at hfp
    | cons x pre => exact ih (List.cons.inj hattrs).2

lemma Ordered.last_iff (h : Ordered mi fp attrs) :
    (∀ pre a post, attrs = pre ++ a :: post → a.type = attrFingerprint → post = []) ↔
      ∀ pre post, attrs.map Attr.type = pre ++ attrFingerprint :: post → ∀ t ∈ post, findAttrDesc t ≠ none := by
  constructor
  · intro hlast pre post hmap t ht
    obtain ⟨pre', rest, rfl, -, hrest⟩ := List.map_eq_append_iff.1 hmap
    obtain ⟨a, post', rfl, ha, hpost⟩ := List.map_eq_cons_iff.1 hrest
    obtain rfl := hlast pre' a post' rfl ha
    rw [← hpost] at ht
    cases ht
  · intro hknown pre a post hattrs ha
    by_contra hne
    obtain ⟨b, post', rfl⟩ := List.exists_cons_of_ne_nil hne
    have hb := h.unknown_behind hattrs ha b List.mem_cons_self
    refine hknown (pre.map Attr.type) ((b :: post').map Attr.type) ?_ b.type (by simp) hb
    rw [hattrs, List.map_append, List.map_cons, ha]

end Order

structure Disciplined (pdu : Bytes) (msg : Msg) (parsed : ℕ) : Prop where
  parsed_eq : parsed = 20 + (get16 pdu 2).toNat
  inside : parsed ≤ pdu.length
  tiles : Tiles (bodyOf pdu) msg.attrs
  msgInt_once : msg.attrs.countP (isType attrMessageIntegrity) ≤ 1
  fingerprint_once : msg.attrs.countP (isType attrFingerprint) ≤ 1
  fingerprint_last : ∀ pre a post, msg.attrs = pre ++ a :: post → a.type = attrFingerprint → post = []

def NoneBehind (pdu : Bytes) : Prop :=
  ∀ pre post, attrTypes (bodyOf pdu) = pre ++ attrFingerprint :: post → ∀ t ∈ post, findAttrDesc t ≠ none

lemma precheck_length {env : Env} {options : DecodeOptions} {pdu : Bytes} (h : precheck env options pdu = .ok ()) :
    20 + (get16 pdu 2).toNat ≤ pdu.length := by
  unfold precheck at h
  split_ifs at h with hc
  · unfold msgCheck at h
    dsimp only at h
    split_ifs at h with h1 h2 h3 <;> omega
  · unfold checkLength at h
    dsimp only at h
    split_ifs at h with h1
    omega

/-- The decoder reads every attribute from its own bytes, its loop ends by itself, and what it accepts is
disciplined if and only if nothing unknown stands behind a FINGERPRINT. -/
theorem decode_discipline_iff (env : Env) (options : DecodeOptions) (pdu : Bytes) :
    decodeIn env options pdu = (decode env options pdu).mapError .status ∧
    (∀ extra, readAttrs ((get16 pdu 2).toNat + extra) ⟨emptyMsg (readHeader pdu), false, false⟩ (bodyOf pdu) 20 =
      readAttrs (get16 pdu 2).toNat ⟨emptyMsg (readHeader pdu), false, false⟩ (bodyOf pdu) 20) ∧
    ∀ msg parsed, decode env options pdu = .ok (msg, parsed) → (Disciplined pdu msg parsed ↔ NoneBehind pdu) := by
  have hbody : (bodyOf pdu).length ≤ (get16 pdu 2).toNat := by
    rw [bodyOf, List.length_take]
    exact Nat.min_le_left _ _
  refine ⟨decodeIn_eq env options pdu, fun extra => ?_, fun msg parsed h => ?_⟩
  · rw [readAttrs_fuel _ _ _ _ (by omega), readAttrs_fuel _ _ _ _ hbody]
  · unfold decode at h
    split_ifs at h
    obtain ⟨⟨⟩, hpre, h⟩ := of_bind h
    have hrun : readAll ⟨emptyMsg (readHeader pdu), false, false⟩ (bodyOf pdu) 20 = .ok (msg, parsed) := by
      rw [← readAttrs_fuel _ _ _ _ hbody]
      exact h
    obtain ⟨attrs, hattrs, -, htiles, hord, hparsed⟩ := readAll_ok hrun
    have hin := precheck_length hpre
    have hlen : (bodyOf pdu).length = (get16 pdu 2).toNat := by
      rw [bodyOf, List.length_take, List.length_drop]
      omega
    have hmsg : msg.attrs = attrs := by simpa [emptyMsg] using hattrs
    rw [NoneBehind, htiles.types, ← hord.last_iff, ← hmsg]
    constructor
    · exact fun hd => hd.fingerprint_last
    · intro hlast
      rw [← hmsg] at htiles hord
      exact ⟨by rw [hparsed, hlen], by omega, htiles, hord.once.1, hord.once.2, hlast⟩

def trailedPdu : Bytes :=
  headerBytes (sampleHdr stunMagic) 12 ++ (put16 attrFingerprint ++ put16 4 ++ put32 1) ++ (put16 0x8FFF ++ put16 0)

theorem attribute_behind_fingerprint : ∃ msg parsed,
    decode constantEnv ⟨true, true, false⟩ trailedPdu = .ok (msg, parsed) ∧
      msg.attrs.map Attr.type = [attrFingerprint, 0x8FFF] ∧ ¬ Disciplined trailedPdu msg parsed := by
  have hrun : (decode constantEnv ⟨true, true, false⟩ trailedPdu).map (fun r => r.1.attrs.map Attr.type) =
      .ok [attrFingerprint, 0x8FFF] := by
    decide
  cases hdec : decode constantEnv ⟨true, true, false⟩ trailedPdu with
  | error e =>
    rw [hdec] at hrun
    cases hrun
  | ok r =>
    rw [hdec] at hrun
    have htypes : r.1.attrs.map Attr.type = [attrFingerprint, 0x8FFF] := Except.ok.inj hrun
    refine ⟨r.1, r.2, rfl, htypes, fun hd => ?_⟩
    obtain ⟨a, rest, hattrs, ha, hrest⟩ := List.map_eq_cons_iff.1 htypes
    obtain rfl := hd.fingerprint_last [] a rest hattrs ha
    cases hrest

end PjProject.Stun
