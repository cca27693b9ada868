import PjProject.StunMsg

/-!
# Decoding a printed attribute

What each encoder prints, and what the decoder's loop makes of it.
-/
namespace PjProject.Stun

open ByteOrder

def attrBytes (type length : UInt16) (content : Bytes) : Bytes := put16 type ++ (put16 length ++ content)

section AttrBytes

variable (type length : UInt16) (content : Bytes)

@[simp] lemma attrBytes_length : (attrBytes type length content).length = content.length + 4 := by
  simp only [attrBytes, List.length_append, put16_length]
  omega

@[simp] lemma attrBytes_append (tail : Bytes) :
    attrBytes type length content ++ tail = attrBytes type length (content ++ tail) := by
  simp [attrBytes]

@[simp] lemma get16_type : get16 (attrBytes type length content) 0 = type := by
  simp [attrBytes]

@[simp] lemma get16_length : get16 (attrBytes type length content) 2 = length := by
  rw [attrBytes, get16_append_right _ _ _ (by simp)]
  simp

@[simp] lemma attrLength_attrBytes : attrLength (attrBytes type length content) = length.toNat := by
  simp [attrLength]

lemma attrBytes_assoc : attrBytes type length content = (put16 type ++ put16 length) ++ content := by
  simp [attrBytes]

lemma byteAt_content (k : ℕ) : byteAt (attrBytes type length content) (k + 4) = byteAt content k := by
  rw [attrBytes_assoc, byteAt_append_right _ _ _ (by simp)]
  simp

lemma get16_content (k : ℕ) : get16 (attrBytes type length content) (k + 4) = get16 content k := by
  rw [attrBytes_assoc, get16_append_right _ _ _ (by simp)]
  simp

lemma get32_content (k : ℕ) : get32 (attrBytes type length content) (k + 4) = get32 content k := by
  rw [attrBytes_assoc, get32_append_right _ _ _ (by simp)]
  simp

lemma slice_content (k n : ℕ) : slice (attrBytes type length content) (k + 4) n = slice content k n := by
  rw [attrBytes_assoc, slice_append_right _ _ _ _ (by simp)]
  simp

end AttrBytes

def isXored (type : UInt16) : Bool := findAttrDesc type = some .xoredSockaddr

def sentString (pad : UInt8) (magic : UInt32) (type : UInt16) (value : Bytes) : Bytes :=
  if magic ≠ stunMagic ∨ type = attrSoftware then value ++ padding pad value.length else value

def AttrVal.received (env : Env) (hdr : MsgHdr) (type : UInt16) : AttrVal → AttrVal
  | .sockaddr xorEd addr =>
    .sockaddr (isXored type) (if xorEd = isXored type then addr else addr.mask hdr.tsxId)
  | .string value => .string (sentString env.paddingChar hdr.magic type value)
  | .errcode code reason =>
    .errcode ((UInt8.ofInt (code.tdiv 100)).toNat * 100 + (UInt8.ofInt (code.tmod 100)).toNat) reason
  | .binary _ data => .binary (if findAttrDesc type = none then stunMagic else 0) data
  | v => v

def AttrVal.sentLength (env : Env) (hdr : MsgHdr) (type length : UInt16) : AttrVal → ℕ
  | .sockaddr _ (.inet _ _) => 8
  | .sockaddr _ (.inet6 _ _) => 20
  | .sockaddr _ (.other _) => 0
  | .string value => (sentString env.paddingChar hdr.magic type value).length
  | .empty => 0
  | .uint _ => 4
  | .uint64 _ _ => 8
  | .msgint _ => length.toNat
  | .errcode _ reason => 4 + reason.length
  | .unknown attrs => attrs.1.length * 2
  | .binary _ data => data.length

lemma fits_received (env : Env) (hdr : MsgHdr) (a : Attr) :
    (a.val.received env hdr a.type).fits (findAttrDesc a.type) = true := by
  have h := a.fits
  cases hv : a.val <;> rw [hv] at h <;> cases hd : findAttrDesc a.type with
  | none => simp [hd, AttrVal.fits, AttrVal.received] at h ⊢
  | some c => cases c <;> simp [hd, AttrVal.fits, AttrVal.received] at h ⊢

def Attr.received (env : Env) (hdr : MsgHdr) (a : Attr) : Attr where
  type := a.type
  length := UInt16.ofNat (a.val.sentLength env hdr a.type a.length)
  val := a.val.received env hdr a.type
  fits := fits_received env hdr a

def Attr.Known (a : Attr) : Prop := findAttrDesc a.type ≠ none ∨ 0x7FFF < a.type

instance (a : Attr) : Decidable a.Known := inferInstanceAs (Decidable (_ ∨ _))

lemma type_of_msgint {t : UInt16} (h : findAttrDesc t = some .msgint) : t = attrMessageIntegrity := by
  have hm : ∀ i < 49, mandatoryAttrDesc.getD i none = some .msgint → i = 8 := by decide
  have he : ∀ i < 10, extendedAttrDesc.getD i none ≠ some .msgint := by decide
  unfold findAttrDesc at h
  split_ifs at h with h1 h2
  · apply UInt16.toNat_inj.1
    exact hm t.toNat (UInt16.lt_iff_toNat_lt.1 h1) h
  · have hlo := UInt16.le_iff_toNat_le.1 h2.1
    have hhi := UInt16.lt_iff_toNat_lt.1 h2.2
    simp only [UInt16.reduceToNat] at hlo hhi
    exact absurd h (he (t.toNat - 32801) (by omega))

lemma Attr.desc_cases (a : Attr) :
    match a.val with
    | .sockaddr _ _ => findAttrDesc a.type = some .sockaddr ∨ findAttrDesc a.type = some .xoredSockaddr
    | .string _ => findAttrDesc a.type = some .string
    | .empty => findAttrDesc a.type = some .empty
    | .uint _ => findAttrDesc a.type = some .uint
    | .uint64 _ _ => findAttrDesc a.type = some .uint64
    | .msgint _ => findAttrDesc a.type = some .msgint
    | .errcode _ _ => findAttrDesc a.type = some .errcode
    | .unknown _ => findAttrDesc a.type = some .unknown
    | .binary _ _ => findAttrDesc a.type = none ∨ findAttrDesc a.type = some .binary := by
  have h := a.fits
  cases hv : a.val <;> rw [hv] at h <;> cases hd : findAttrDesc a.type with
  | none => simp [hd, AttrVal.fits] at h ⊢
  | some c => cases c <;> simp [hd, AttrVal.fits] at h ⊢

structure Printed (env : Env) (hdr : MsgHdr) (a : Attr) (printed : Bytes) : Prop where
  /-- the bytes after the length field -/
  shape : ∃ content : Bytes,
    printed = attrBytes a.type (UInt16.ofNat (a.val.sentLength env hdr a.type a.length)) content ∧
    content.length = align4 (a.val.sentLength env hdr a.type a.length)
  decodes : ∀ (hdr' : MsgHdr) (tail : Bytes) (c : Codec), hdr'.tsxId = hdr.tsxId →
    findAttrDesc a.type = some c →
    (decodeAttr (printed ++ tail) hdr' c).map Subtype.val = .ok (a.val.received env hdr a.type)
  generic : ∀ (tail : Bytes), findAttrDesc a.type = none →
    .binary stunMagic (slice (printed ++ tail) 4 (attrLength (printed ++ tail))) =
      a.val.received env hdr a.type

section Attributes

variable {env : Env} {hdr : MsgHdr} {room : ℕ} {a : Attr} {printed : Bytes}

lemma toNat_ofNat16 {n : ℕ} (h : n < 65536) : (UInt16.ofNat n).toNat = n := by
  rw [UInt16.toNat_ofNat']
  omega

lemma sentString_length (pad : UInt8) (magic : UInt32) (type : UInt16) (value : Bytes) :
    (sentString pad magic type value).length =
      if magic ≠ stunMagic ∨ type = attrSoftware then align4 value.length else value.length := by
  unfold sentString
  split_ifs with h
  · rw [List.length_append, padding_length]
  · rfl

lemma sockaddr_fields (type length port : UInt16) (family : UInt8) (ip tail : Bytes) :
    byteAt (attrBytes type length ([0, family] ++ (put16 port ++ (ip ++ tail)))) 5 = family ∧
    get16 (attrBytes type length ([0, family] ++ (put16 port ++ (ip ++ tail)))) 6 = port ∧
    slice (attrBytes type length ([0, family] ++ (put16 port ++ (ip ++ tail)))) 8 ip.length = ip := by
  refine ⟨?_, ?_, ?_⟩
  · rw [byteAt_content _ _ _ 1]
    rfl
  · rw [get16_content _ _ _ 2, get16_append_right _ _ _ (by simp)]
    simp
  · rw [slice_content _ _ _ 4, slice_append_right _ _ _ _ (by simp),
      slice_append_right _ _ _ _ (by simp)]
    exact slice_append ip tail

lemma decodeSockaddrAttr_inet (type port : UInt16) (ip : Fixed 4) (tail : Bytes) :
    decodeSockaddrAttr (attrBytes type 8 ([0, 1] ++ (put16 port ++ (ip.1 ++ tail)))) =
      .ok (.inet port ip) := by
  obtain ⟨hfam, hport, hip⟩ := sockaddr_fields type 8 port 1 ip.1 tail
  rw [ip.2] at hip
  simp only [decodeSockaddrAttr, attrLength_attrBytes, hfam, hport, hip]
  rfl

lemma decodeSockaddrAttr_inet6 (type port : UInt16) (ip : Fixed 16) (tail : Bytes) :
    decodeSockaddrAttr (attrBytes type 20 ([0, 2] ++ (put16 port ++ (ip.1 ++ tail)))) =
      .ok (.inet6 port ip) := by
  obtain ⟨hfam, hport, hip⟩ := sockaddr_fields type 20 port 2 ip.1 tail
  rw [ip.2] at hip
  simp only [decodeSockaddrAttr, attrLength_attrBytes, hfam, hport, hip]
  rfl

lemma encodeSockaddrAttr_ok (env : Env) (length : UInt16) {type : UInt16} {xorEd : Bool} {addr : SockAddr}
    (h : encodeSockaddrAttr hdr room type xorEd addr = .ok printed) :
    (∃ content : Bytes, printed = attrBytes type
        (UInt16.ofNat ((AttrVal.sockaddr xorEd addr).sentLength env hdr type length)) content ∧
      content.length = align4 ((AttrVal.sockaddr xorEd addr).sentLength env hdr type length)) ∧
    ∀ tail, decodeSockaddrAttr (printed ++ tail) = .ok (if xorEd then addr.mask hdr.tsxId else addr) := by
  unfold encodeSockaddrAttr at h
  cases hm : (if xorEd then addr.mask hdr.tsxId else addr) with
  | inet port ip =>
    rw [hm] at h
    have hlen : (AttrVal.sockaddr xorEd addr).sentLength env hdr type length = 8 := by
      cases xorEd <;> cases addr <;> simp [SockAddr.mask] at hm <;> rfl
    simp only at h
    split_ifs at h with hr
    cases h
    rw [hlen]
    refine ⟨⟨[0, 1] ++ (put16 port ++ ip.1), ?_, ?_⟩, ?_⟩
    · simp [attrBytes]
    · simp [ip.2, align4]
    · intro tail
      have := decodeSockaddrAttr_inet type port ip tail
      simpa [attrBytes] using this
  | inet6 port ip =>
    rw [hm] at h
    have hlen : (AttrVal.sockaddr xorEd addr).sentLength env hdr type length = 20 := by
      cases xorEd <;> cases addr <;> simp [SockAddr.mask] at hm <;> rfl
    simp only at h
    split_ifs at h with hr
    cases h
    rw [hlen]
    refine ⟨⟨[0, 2] ++ (put16 port ++ ip.1), ?_, ?_⟩, ?_⟩
    · simp [attrBytes]
    · simp [ip.2, align4]
    · intro tail
      have := decodeSockaddrAttr_inet6 type port ip tail
      simpa [attrBytes] using this
  | other family =>
    rw [hm] at h
    cases h

lemma printed_sockaddr {xorEd : Bool} {addr : SockAddr} (hv : a.val = .sockaddr xorEd addr)
    (h : encodeAttr env hdr room a = .ok printed) : Printed env hdr a printed := by
  simp only [encodeAttr, hv] at h
  obtain ⟨hshape, hdec⟩ := encodeSockaddrAttr_ok env a.length h
  have hdesc := a.desc_cases
  rw [hv] at hdesc
  refine ⟨?_, ?_, ?_⟩
  · rw [hv]
    exact hshape
  · intro hdr' tail c ht hc
    rcases hdesc with hd | hd
    · -- the type is decoded without a mask
      obtain rfl : Codec.sockaddr = c := Option.some.inj (hd.symm.trans hc)
      simp only [decodeAttr, hdec tail, hv, AttrVal.received, isXored, hd]
      cases xorEd <;> rfl
    · obtain rfl : Codec.xoredSockaddr = c := Option.some.inj (hd.symm.trans hc)
      simp only [decodeAttr, decodeXoredSockaddrAttr, hdec tail, hv, AttrVal.received, isXored, hd, ht]
      cases xorEd
      · rfl
      · simp [Except.map]
  · intro tail hn
    rcases hdesc with hd | hd <;> rw [hd] at hn <;> cases hn

lemma slice_text (type : UInt16) (text tail : Bytes) (h : text.length < 65536) :
    slice (attrBytes type (UInt16.ofNat text.length) (text ++ tail)) 4
      (attrLength (attrBytes type (UInt16.ofNat text.length) (text ++ tail))) = text := by
  rw [attrLength_attrBytes, toNat_ofNat16 h, slice_content _ _ _ 0, slice_append]

lemma printed_string {value : Bytes} (hv : a.val = .string value)
    (h : encodeAttr env hdr room a = .ok printed) (hfit : printed.length < 65536) :
    Printed env hdr a printed := by
  have hdesc := a.desc_cases
  rw [hv] at hdesc
  have hroom : ¬ room < align4 (value.length + 4) := by
    intro hr
    simp [encodeAttr, hv, encodeStringAttr, hr] at h
  simp only [encodeAttr, hv, encodeStringAttr, if_neg hroom] at h
  rw [← sentString_length env.paddingChar] at h
  cases h
  have hpad := padding_length env.paddingChar value.length
  have hlen : align4 (sentString env.paddingChar hdr.magic a.type value).length =
      align4 value.length := by
    rw [sentString_length]
    split_ifs
    · rw [align4_align4]
    · rfl
  have hsmall : (sentString env.paddingChar hdr.magic a.type value).length < 65536 := by
    have := le_align4 (sentString env.paddingChar hdr.magic a.type value).length
    simp only [List.length_append, put16_length] at hfit
    omega
  -- the padding is either part of the text or follows it
  have htext : ∃ rest, value ++ padding env.paddingChar value.length =
      sentString env.paddingChar hdr.magic a.type value ++ rest := by
    unfold sentString
    split_ifs
    · exact ⟨[], by simp⟩
    · exact ⟨_, rfl⟩
  obtain ⟨rest, hrest⟩ := htext
  have hbytes : put16 a.type ++
      put16 (UInt16.ofNat (sentString env.paddingChar hdr.magic a.type value).length) ++ value ++
      padding env.paddingChar value.length =
      attrBytes a.type (UInt16.ofNat (sentString env.paddingChar hdr.magic a.type value).length)
        (sentString env.paddingChar hdr.magic a.type value ++ rest) := by
    rw [← hrest]
    simp [attrBytes]
  rw [hbytes]
  refine ⟨?_, ?_, ?_⟩
  · rw [hv]
    refine ⟨_, rfl, ?_⟩
    rw [← hrest, List.length_append, hpad]
    exact hlen.symm
  · intro hdr' tail c _ hc
    obtain rfl : Codec.string = c := Option.some.inj (hdesc.symm.trans hc)
    simp only [decodeAttr, decodeStringAttr, attrBytes_append, List.append_assoc,
      slice_text _ _ _ hsmall, hv, AttrVal.received]
    rfl
  · intro tail hn
    rw [hdesc] at hn
    cases hn

lemma printed_empty (hv : a.val = .empty) (h : encodeAttr env hdr room a = .ok printed) :
    Printed env hdr a printed := by
  have hdesc := a.desc_cases
  rw [hv] at hdesc
  simp only [encodeAttr, hv, encodeEmptyAttr] at h
  split_ifs at h with hr
  cases h
  have hbytes : put16 a.type ++ put16 0 = attrBytes a.type 0 [] := by simp [attrBytes]
  rw [hbytes]
  refine ⟨?_, ?_, ?_⟩
  · rw [hv]
    exact ⟨[], rfl, by simp [AttrVal.sentLength, align4]⟩
  · intro hdr' tail c _ hc
    obtain rfl : Codec.empty = c := Option.some.inj (hdesc.symm.trans hc)
    simp only [decodeAttr, decodeEmptyAttr, attrBytes_append, attrLength_attrBytes, hv,
      AttrVal.received]
    rfl
  · intro tail hn
    rw [hdesc] at hn
    cases hn

lemma printed_uint {value : UInt32} (hv : a.val = .uint value)
    (h : encodeAttr env hdr room a = .ok printed) : Printed env hdr a printed := by
  have hdesc := a.desc_cases
  rw [hv] at hdesc
  simp only [encodeAttr, hv, encodeUintAttr] at h
  split_ifs at h with hr
  cases h
  have hbytes : put16 a.type ++ put16 4 ++ put32 value = attrBytes a.type 4 (put32 value) := by
    simp [attrBytes]
  rw [hbytes]
  refine ⟨?_, ?_, ?_⟩
  · rw [hv]
    exact ⟨put32 value, rfl, by simp [AttrVal.sentLength, align4]⟩
  · intro hdr' tail c _ hc
    obtain rfl : Codec.uint = c := Option.some.inj (hdesc.symm.trans hc)
    simp only [decodeAttr, decodeUintAttr, attrBytes_append, attrLength_attrBytes,
      get32_content _ _ _ 0, get32_put32, hv, AttrVal.received]
    rfl
  · intro tail hn
    rw [hdesc] at hn
    cases hn

lemma printed_uint64 {hi lo : UInt32} (hv : a.val = .uint64 hi lo)
    (h : encodeAttr env hdr room a = .ok printed) : Printed env hdr a printed := by
  have hdesc := a.desc_cases
  rw [hv] at hdesc
  simp only [encodeAttr, hv, encodeUint64Attr] at h
  split_ifs at h with hr
  cases h
  have hbytes : put16 a.type ++ put16 8 ++ put32 hi ++ put32 lo =
      attrBytes a.type 8 (put32 hi ++ put32 lo) := by
    simp [attrBytes]
  rw [hbytes]
  refine ⟨?_, ?_, ?_⟩
  · rw [hv]
    exact ⟨put32 hi ++ put32 lo, rfl, by simp [AttrVal.sentLength, align4]⟩
  · intro hdr' tail c _ hc
    obtain rfl : Codec.uint64 = c := Option.some.inj (hdesc.symm.trans hc)
    have hlo : get32 (attrBytes a.type 8 (put32 hi ++ (put32 lo ++ tail))) 8 = lo := by
      rw [get32_content _ _ _ 4, get32_append_right _ _ _ (by simp)]
      simp
    simp only [decodeAttr, decodeUint64Attr, attrBytes_append, attrLength_attrBytes, List.append_assoc,
      hlo, get32_content _ _ _ 0, get32_put32, hv, AttrVal.received]
    rfl
  · intro tail hn
    rw [hdesc] at hn
    cases hn

lemma printed_msgint {hmac : Fixed 20} (hv : a.val = .msgint hmac) (hl : a.length = 20)
    (h : encodeAttr env hdr room a = .ok printed) : Printed env hdr a printed := by
  have hdesc := a.desc_cases
  rw [hv] at hdesc
  simp only [encodeAttr, hv, encodeMsgintAttr] at h
  split_ifs at h with hr
  cases h
  have hbytes : put16 a.type ++ put16 a.length ++ hmac.1 = attrBytes a.type 20 hmac.1 := by
    simp [attrBytes, hl]
  rw [hbytes]
  refine ⟨?_, ?_, ?_⟩
  · rw [hv, hl]
    refine ⟨hmac.1, rfl, ?_⟩
    rw [hmac.2]
    simp [AttrVal.sentLength, align4]
  · intro hdr' tail c _ hc
    obtain rfl : Codec.msgint = c := Option.some.inj (hdesc.symm.trans hc)
    have hs : slice (attrBytes a.type 20 (hmac.1 ++ tail)) 4 20 = hmac.1 := by
      have := slice_append hmac.1 tail
      rw [hmac.2] at this
      rw [slice_content _ _ _ 0, this]
    simp only [decodeAttr, decodeMsgintAttr, attrBytes_append, attrLength_attrBytes, hs, hv,
      AttrVal.received]
    rfl
  · intro tail hn
    rw [hdesc] at hn
    cases hn

lemma printed_errcode {code : ℤ} {reason : Bytes} (hv : a.val = .errcode code reason)
    (h : encodeAttr env hdr room a = .ok printed) (hfit : printed.length < 65536) :
    Printed env hdr a printed := by
  have hdesc := a.desc_cases
  rw [hv] at hdesc
  simp only [encodeAttr, hv, encodeErrcodeAttr] at h
  split_ifs at h with hr
  cases h
  have hpad := padding_length env.paddingChar reason.length
  have hbytes : put16 a.type ++ put16 (UInt16.ofNat (4 + reason.length)) ++ put16 0 ++
      [UInt8.ofInt (code.tdiv 100), UInt8.ofInt (code.tmod 100)] ++ reason ++
      padding env.paddingChar reason.length =
      attrBytes a.type (UInt16.ofNat (4 + reason.length))
        ([0, 0, UInt8.ofInt (code.tdiv 100), UInt8.ofInt (code.tmod 100)] ++
          (reason ++ padding env.paddingChar reason.length)) := by
    simp [attrBytes, put16]
  rw [hbytes, attrBytes_length, List.length_append, List.length_append, hpad] at hfit
  have hle := le_align4 reason.length
  rw [hbytes]
  refine ⟨?_, ?_, ?_⟩
  · rw [hv]
    refine ⟨_, rfl, ?_⟩
    rw [List.length_append, List.length_append, hpad, AttrVal.sentLength, Nat.add_comm 4 reason.length,
      align4_add_four]
    simp only [List.length_cons, List.length_nil]
    omega
  · intro hdr' tail c _ hc
    obtain rfl : Codec.errcode = c := Option.some.inj (hdesc.symm.trans hc)
    have hn : (UInt16.ofNat (4 + reason.length)).toNat = 4 + reason.length := by
      apply toNat_ofNat16
      simp only [List.length_cons, List.length_nil] at hfit
      omega
    have htext (x y : UInt8) (tail : Bytes) : slice (attrBytes a.type (UInt16.ofNat (4 + reason.length))
        ([0, 0, x, y] ++ (reason ++ tail))) 8 reason.length = reason := by
      rw [slice_content _ _ _ 4, slice_append_right _ _ _ _ (by simp)]
      exact slice_append reason tail
    simp only [decodeAttr, decodeErrcodeAttr, attrBytes_append, attrLength_attrBytes, hn,
      List.append_assoc, Nat.add_sub_cancel_left, htext, byteAt_content _ _ _ 2, byteAt_content _ _ _ 3,
      hv, AttrVal.received]
    rw [if_neg (by omega)]
    rfl
  · intro tail hn
    rw [hdesc] at hn
    cases hn

lemma get16_flatMap (l : List UInt16) (tail : Bytes) (i : ℕ) (h : i < l.length) :
    get16 (l.flatMap put16 ++ tail) (2 * i) = l[i] := by
  induction l generalizing i with
  | nil => simp at h
  | cons t l ih =>
    cases i with
    | zero => simp
    | succ i =>
      have hi : i < l.length := by simpa using h
      rw [List.flatMap_cons, List.append_assoc, get16_append_right _ _ _ (by simp),
        List.getElem_cons_succ, ← ih i hi]
      congr 1

lemma printed_unknown {attrs : {l : List UInt16 // l.length ≤ maxAttr}} (hv : a.val = .unknown attrs)
    (h : encodeAttr env hdr room a = .ok printed) : Printed env hdr a printed := by
  have hdesc := a.desc_cases
  rw [hv] at hdesc
  simp only [encodeAttr, hv, encodeUnknownAttr] at h
  split_ifs at h with hr
  cases h
  have hpad := padding_length env.paddingChar (attrs.1.length * 2)
  have hmax : attrs.1.length ≤ 16 := attrs.2
  have hflat : (attrs.1.flatMap put16).length = attrs.1.length * 2 := by
    simp [List.length_flatMap]
  have hbytes : put16 a.type ++ put16 (UInt16.ofNat (attrs.1.length * 2)) ++ attrs.1.flatMap put16 ++
      padding env.paddingChar (attrs.1.length * 2) =
      attrBytes a.type (UInt16.ofNat (attrs.1.length * 2))
        (attrs.1.flatMap put16 ++ padding env.paddingChar (attrs.1.length * 2)) := by
    simp [attrBytes]
  rw [hbytes]
  refine ⟨?_, ?_, ?_⟩
  · rw [hv]
    refine ⟨_, rfl, ?_⟩
    rw [List.length_append, hflat, hpad, AttrVal.sentLength]
  · intro hdr' tail c _ hc
    obtain rfl : Codec.unknown = c := Option.some.inj (hdesc.symm.trans hc)
    have hn : attrLength (attrBytes a.type (UInt16.ofNat (attrs.1.length * 2))
        (attrs.1.flatMap put16 ++ (padding env.paddingChar (attrs.1.length * 2) ++ tail))) / 2 =
        attrs.1.length := by
      rw [attrLength_attrBytes, toNat_ofNat16 (by omega)]
      omega
    have hread : (List.range attrs.1.length).map (fun i => get16 (attrBytes a.type
        (UInt16.ofNat (attrs.1.length * 2)) (attrs.1.flatMap put16 ++
          (padding env.paddingChar (attrs.1.length * 2) ++ tail))) (4 + 2 * i)) = attrs.1 := by
      apply List.ext_getElem
      · simp
      · intro i h1 h2
        rw [List.getElem_map, List.getElem_range, Nat.add_comm 4, get16_content, get16_flatMap _ _ _ h2]
    simp only [decodeAttr, decodeUnknownAttr, attrBytes_append, List.append_assoc, hv, AttrVal.received]
    rw [dif_pos (by rw [hn]; exact attrs.2)]
    simp only [Except.map]
    congr 2
    apply Subtype.ext
    simp only [hn]
    exact hread
  · intro tail hn
    rw [hdesc] at hn
    cases hn

lemma printed_binary {magic : UInt32} {data : Bytes} (hv : a.val = .binary magic data)
    (h : encodeAttr env hdr room a = .ok printed) (hfit : printed.length < 65536) :
    Printed env hdr a printed := by
  have hdesc := a.desc_cases
  rw [hv] at hdesc
  simp only [encodeAttr, hv, encodeBinaryAttr] at h
  split_ifs at h with hm hr
  cases h
  have hpad := padding_length env.paddingChar data.length
  have hbytes : put16 a.type ++ put16 (UInt16.ofNat data.length) ++ data ++
      padding env.paddingChar data.length =
      attrBytes a.type (UInt16.ofNat data.length) (data ++ padding env.paddingChar data.length) := by
    simp [attrBytes]
  rw [hbytes, attrBytes_length, List.length_append, hpad] at hfit
  have hle := le_align4 data.length
  rw [hbytes]
  refine ⟨?_, ?_, ?_⟩
  · rw [hv]
    refine ⟨_, rfl, ?_⟩
    rw [List.length_append, hpad, AttrVal.sentLength]
  · intro hdr' tail c _ hc
    rcases hdesc with hd | hd
    · rw [hd] at hc
      cases hc
    · obtain rfl : Codec.binary = c := Option.some.inj (hd.symm.trans hc)
      simp only [decodeAttr, decodeBinaryAttr, attrBytes_append, List.append_assoc,
        slice_text a.type data _ (by omega), hv, AttrVal.received, hd]
      rfl
  · intro tail hn
    rw [attrBytes_append, List.append_assoc, slice_text a.type data _ (by omega), hv,
      AttrVal.received, if_pos hn]

lemma encodeAttr_printed (h : encodeAttr env hdr room a = .ok printed)
    (hfit : printed.length < 65536) (hmi : a.type = attrMessageIntegrity → a.length = 20) :
    Printed env hdr a printed := by
  cases hv : a.val with
  | sockaddr xorEd addr => exact printed_sockaddr hv h
  | string value => exact printed_string hv h hfit
  | empty => exact printed_empty hv h
  | uint value => exact printed_uint hv h
  | uint64 hi lo => exact printed_uint64 hv h
  | msgint hmac =>
    have hdesc := a.desc_cases
    rw [hv] at hdesc
    exact printed_msgint hv (hmi (type_of_msgint hdesc)) h
  | errcode code reason => exact printed_errcode hv h hfit
  | unknown attrs => exact printed_unknown hv h
  | binary magic data => exact printed_binary hv h hfit

lemma Printed.length (h : Printed env hdr a printed) (tail : Bytes) (hfit : printed.length < 65536) :
    get16 (printed ++ tail) 0 = a.type ∧ get16 (printed ++ tail) 2 = (a.received env hdr).length ∧
    align4 (attrLength (printed ++ tail)) + 4 = printed.length := by
  obtain ⟨content, rfl, hlen⟩ := h.shape
  have hle := le_align4 (a.val.sentLength env hdr a.type a.length)
  rw [attrBytes_length] at hfit
  rw [attrBytes_append, get16_type, get16_length, attrLength_attrBytes, toNat_ofNat16 (by omega),
    attrBytes_length, hlen]
  exact ⟨rfl, rfl, rfl⟩

lemma Printed.readAttr (h : Printed env hdr a printed) (hfit : printed.length < 65536)
    (hknown : a.Known) (p : Parse) (hp : p.msg.hdr.tsxId = hdr.tsxId) (tail : Bytes) :
    readAttr p (printed ++ tail) = if findAttrDesc a.type = none then p.add (a.received env hdr)
      else p.note a.type >>= fun p => p.add (a.received env hdr) := by
  obtain ⟨ht, hl, hn⟩ := h.length tail hfit
  have hroom : ¬ (printed ++ tail).length < align4 (attrLength (printed ++ tail)) + 4 := by
    rw [hn, List.length_append]
    omega
  unfold Stun.readAttr
  rw [if_neg hroom]
  split
  case h_1 hd =>
    rw [ht] at hd
    have hbig : ¬ get16 (printed ++ tail) 0 ≤ 0x7FFF := by
      rw [ht]
      rcases hknown with hk | hk
      · exact absurd hd hk
      · exact UInt16.not_le.2 hk
    rw [if_neg hbig, if_pos hd]
    congr 1
    exact Attr.ext ht hl (h.generic tail hd)
  case h_2 c hd =>
    have hc : findAttrDesc a.type = some c := by rwa [ht] at hd
    have hdec := h.decodes p.msg.hdr tail c hp hc
    rw [if_neg (by rw [hc]; simp)]
    cases hv : decodeAttr (printed ++ tail) p.msg.hdr c with
    | error e =>
      rw [hv] at hdec
      cases hdec
    | ok v =>
      rw [hv] at hdec
      have hval : v.1 = (a.received env hdr).val := Except.ok.inj hdec
      simp only [bind, Except.bind, ht]
      cases p.note a.type with
      | error e => rfl
      | ok p' =>
        simp only
        congr 1
        exact Attr.ext rfl hl hval

end Attributes

end PjProject.Stun
