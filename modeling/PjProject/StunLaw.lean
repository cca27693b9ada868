import PjProject.StunRound

/-!
# The round trip of STUN messages

A message built by the attribute constructors is encoded whenever it fits, and decoding the
packet gives it back.
-/
namespace PjProject.Stun

open ByteOrder

def AttrVal.initLength : AttrVal → ℕ
  | .sockaddr _ (.inet _ _) => 8
  | .sockaddr _ (.inet6 _ _) => 20
  | .sockaddr _ (.other _) => 0
  | .string value => value.length
  | .empty => 0
  | .uint _ => 4
  | .uint64 _ _ => 8
  | .msgint _ => 20
  | .errcode _ reason => 4 + reason.length
  | .unknown attrs => attrs.1.length * 2
  | .binary _ data => data.length

def Attr.size (a : Attr) : ℕ := align4 a.val.initLength + 4

/-- The attribute comes from its constructor; the mask of an address goes with the type, an
error code fits its two bytes, and a binary attribute is one the decoder accepts. -/
structure Attr.Supported (a : Attr) : Prop where
  built : a.length = UInt16.ofNat a.val.initLength
  value : match a.val with
    | .sockaddr _ (.other _) => False
    | .sockaddr xorEd _ => xorEd = isXored a.type
    | .errcode code _ => 0 ≤ code ∧ code < 25600
    | .binary magic _ => magic = stunMagic ∧ a.Known
    | _ => True

/-- The fields as they are on the other side: SOFTWARE is sent with its padding, and the
decoder sets the marker of a binary attribute only where the type has no table entry. -/
def AttrVal.onWire (pad : UInt8) (type : UInt16) : AttrVal → AttrVal
  | .string value => .string (if type = attrSoftware then value ++ padding pad value.length else value)
  | .binary magic data => .binary (if findAttrDesc type = none then magic else 0) data
  | v => v

lemma fits_onWire (pad : UInt8) (type : UInt16) (v : AttrVal) (d : Option Codec) :
    (v.onWire pad type).fits d = v.fits d := by
  cases v <;> rcases d with _ | c <;> first | rfl | (cases c <;> rfl)

def Attr.onWire (pad : UInt8) (a : Attr) : Attr where
  type := a.type
  length := UInt16.ofNat (a.val.onWire pad a.type).initLength
  val := a.val.onWire pad a.type
  fits := by rw [fits_onWire]; exact a.fits

inductive ClosingAttrs : List Attr → Prop
  | nil : ClosingAttrs []
  | msgint {mi : Attr} (h : mi.type = attrMessageIntegrity) : ClosingAttrs [mi]
  | fingerprint {fp : Attr} (h : fp.type = attrFingerprint) : ClosingAttrs [fp]
  | both {mi fp : Attr} (h : mi.type = attrMessageIntegrity) (h' : fp.type = attrFingerprint) :
      ClosingAttrs [mi, fp]

section Received

variable {env : Env} {hdr : MsgHdr} {a : Attr}

lemma errcode_received {code : ℤ} (h0 : 0 ≤ code) (h1 : code < 25600) :
    ((UInt8.ofInt (code.tdiv 100)).toNat * 100 + (UInt8.ofInt (code.tmod 100)).toNat : ℤ) = code := by
  have hd : code.tdiv 100 = code / 100 := Int.tdiv_eq_ediv_of_nonneg h0
  have hm : code.tmod 100 = code % 100 := Int.tmod_eq_emod_of_nonneg h0
  have hbyte : ∀ x : ℤ, 0 ≤ x → x < 256 → ((UInt8.ofInt x).toNat : ℤ) = x := by
    intro x hx hx'
    rw [UInt8.ofInt, UInt8.toNat_ofNat']
    omega
  rw [hd, hm, hbyte _ (by omega) (by omega), hbyte _ (by omega) (by omega)]
  omega

lemma length_of_msgint (h : a.Supported) {hmac : Fixed 20} (hv : a.val = .msgint hmac) :
    a.length.toNat = 20 := by
  rw [h.built, hv]
  rfl

lemma Attr.Supported.received (h : a.Supported) (hmagic : hdr.magic = stunMagic) :
    a.received env hdr = a.onWire env.paddingChar := by
  have hval : a.val.received env hdr a.type = a.val.onWire env.paddingChar a.type := by
    have hv := h.value
    cases hc : a.val with
    | sockaddr xorEd addr =>
      rw [hc] at hv
      cases addr <;> simp_all [AttrVal.received, AttrVal.onWire]
    | string value => simp [AttrVal.received, AttrVal.onWire, sentString, hmagic]
    | errcode code reason =>
      rw [hc] at hv
      simp only [AttrVal.received, AttrVal.onWire, errcode_received hv.1 hv.2]
    | binary magic data =>
      rw [hc] at hv
      simp only [AttrVal.received, AttrVal.onWire, hv.1]
    | _ => rfl
  have hlen : a.val.sentLength env hdr a.type a.length =
      (a.val.onWire env.paddingChar a.type).initLength := by
    cases hc : a.val with
    | sockaddr xorEd addr => cases addr <;> rfl
    | string value => simp [AttrVal.sentLength, AttrVal.onWire, AttrVal.initLength, sentString, hmagic]
    | msgint hmac => exact length_of_msgint h hc
    | _ => rfl
  exact Attr.ext rfl (congrArg UInt16.ofNat hlen) hval

end Received

section Success

variable {env : Env} {hdr : MsgHdr}

/-- The encoder knows the address family, and a binary attribute without a table entry carries
the marker of its constructor. -/
def Attr.encodable (a : Attr) : Bool :=
  match a.val with
  | .sockaddr _ (.other _) => false
  | .binary magic _ => findAttrDesc a.type ≠ none ∨ magic = stunMagic
  | _ => true

lemma Attr.Supported.encodable {a : Attr} (h : a.Supported) : a.encodable = true := by
  have hv := h.value
  unfold Attr.encodable
  cases hc : a.val with
  | sockaddr xorEd addr =>
    rw [hc] at hv
    cases addr with
    | other family => exact absurd hv id
    | _ => rfl
  | binary magic data =>
    rw [hc] at hv
    simp [hv.1]
  | _ => rfl

lemma encodeAttr_size (env : Env) (hdr : MsgHdr) {a : Attr} (h : a.encodable = true) :
    ∃ printed : Bytes, printed.length = a.size ∧
      ∀ room, encodeAttr env hdr room a = if room < a.size then .error .tooSmall else .ok printed := by
  have hadd := align4_add_four
  unfold Attr.encodable at h
  unfold Attr.size
  cases hc : a.val with
  | sockaddr xorEd addr =>
    rw [hc] at h
    cases addr with
    | inet port ip =>
      obtain ⟨port', ip', hm⟩ : ∃ port' ip', (if xorEd then (SockAddr.inet port ip).mask hdr.tsxId
          else .inet port ip) = .inet port' ip' := by
        cases xorEd
        · exact ⟨_, _, rfl⟩
        · exact ⟨_, _, rfl⟩
      have hsize : align4 (AttrVal.sockaddr xorEd (.inet port ip)).initLength + 4 = 12 := by
        simp [AttrVal.initLength, align4]
      rw [hsize]
      refine ⟨_, ?_, fun room => by simp only [encodeAttr, hc, encodeSockaddrAttr, hm]; rfl⟩
      simp [ip'.2]
    | inet6 port ip =>
      obtain ⟨port', ip', hm⟩ : ∃ port' ip', (if xorEd then (SockAddr.inet6 port ip).mask hdr.tsxId
          else .inet6 port ip) = .inet6 port' ip' := by
        cases xorEd
        · exact ⟨_, _, rfl⟩
        · exact ⟨_, _, rfl⟩
      have hsize : align4 (AttrVal.sockaddr xorEd (.inet6 port ip)).initLength + 4 = 24 := by
        simp [AttrVal.initLength, align4]
      rw [hsize]
      refine ⟨_, ?_, fun room => by simp only [encodeAttr, hc, encodeSockaddrAttr, hm]; rfl⟩
      simp [ip'.2]
    | other family => cases h
  | string value =>
    refine ⟨_, ?_, fun room => by simp only [encodeAttr, hc, encodeStringAttr, hadd]; rfl⟩
    simp only [List.length_append, put16_length, AttrVal.initLength]
    have := padding_length env.paddingChar value.length
    omega
  | empty =>
    have hsize : align4 AttrVal.empty.initLength + 4 = 4 := by simp [AttrVal.initLength, align4]
    rw [hsize]
    refine ⟨_, ?_, fun room => by simp only [encodeAttr, hc, encodeEmptyAttr]; rfl⟩
    simp
  | uint value =>
    have hsize : align4 (AttrVal.uint value).initLength + 4 = 8 := by simp [AttrVal.initLength, align4]
    rw [hsize]
    refine ⟨_, ?_, fun room => by simp only [encodeAttr, hc, encodeUintAttr]; rfl⟩
    simp
  | uint64 hi lo =>
    have hsize : align4 (AttrVal.uint64 hi lo).initLength + 4 = 12 := by simp [AttrVal.initLength, align4]
    rw [hsize]
    refine ⟨_, ?_, fun room => by simp only [encodeAttr, hc, encodeUint64Attr]; rfl⟩
    simp
  | msgint hmac =>
    have hsize : align4 (AttrVal.msgint hmac).initLength + 4 = 24 := by simp [AttrVal.initLength, align4]
    rw [hsize]
    refine ⟨_, ?_, fun room => by simp only [encodeAttr, hc, encodeMsgintAttr]; rfl⟩
    simp [hmac.2]
  | errcode code reason =>
    have hsize : align4 (4 + 4 + reason.length) = align4 (4 + reason.length) + 4 := by
      rw [← hadd]
      congr 1
      omega
    refine ⟨_, ?_, fun room => by simp only [encodeAttr, hc, encodeErrcodeAttr, hsize]; rfl⟩
    simp only [List.length_append, put16_length, AttrVal.initLength, List.length_cons, List.length_nil,
      Nat.add_comm 4 reason.length, hadd]
    have := padding_length env.paddingChar reason.length
    omega
  | unknown attrs =>
    have hsize : align4 (4 + attrs.1.length * 2) = align4 (attrs.1.length * 2) + 4 := by
      rw [Nat.add_comm, hadd]
    refine ⟨_, ?_, fun room => by simp only [encodeAttr, hc, encodeUnknownAttr, hsize]; rfl⟩
    have hflat : (attrs.1.flatMap put16).length = attrs.1.length * 2 := by
      simp [List.length_flatMap]
    simp only [List.length_append, put16_length, AttrVal.initLength, hflat]
    have := padding_length env.paddingChar (attrs.1.length * 2)
    omega
  | binary magic data =>
    rw [hc] at h
    have hno : ¬ (findAttrDesc a.type = none ∧ magic ≠ stunMagic) := by
      rintro ⟨hd, hm⟩
      simp [hd, hm] at h
    refine ⟨_, ?_, fun room => by
      simp only [encodeAttr, hc, encodeBinaryAttr, if_neg hno, hadd]; rfl⟩
    simp only [List.length_append, put16_length, AttrVal.initLength]
    have := padding_length env.paddingChar data.length
    omega

lemma encodable_of_encodeAttr {env : Env} {hdr : MsgHdr} {a : Attr} {room : ℕ} {printed : Bytes}
    (h : encodeAttr env hdr room a = .ok printed) : a.encodable = true := by
  unfold encodeAttr at h
  unfold Attr.encodable
  cases hc : a.val with
  | sockaddr xorEd addr =>
    rw [hc] at h
    cases addr with
    | other family => cases xorEd <;> cases h
    | _ => rfl
  | binary magic data =>
    rw [hc] at h
    simp only at h
    split_ifs at h with hno
    by_cases hd : findAttrDesc a.type = none
    · simpa [hd] using hno
    · simp [hd]
  | _ => rfl

lemma encodeAttr_length {env : Env} {hdr : MsgHdr} {a : Attr} {room : ℕ} {printed : Bytes}
    (h : encodeAttr env hdr room a = .ok printed) : printed.length = a.size := by
  obtain ⟨printed', hlen, hp⟩ := encodeAttr_size env hdr (encodable_of_encodeAttr h)
  rw [hp] at h
  split_ifs at h
  rw [← Except.ok.inj h, hlen]

lemma encodeAttrs_room {plain stop : List Attr} (hopen : ∀ a ∈ plain, a.closes = false)
    (henc : ∀ a ∈ plain, a.encodable = true) (hstop : ∀ a ∈ stop.head?, a.closes = true) (room : ℕ)
    (hroom : (plain.map Attr.size).sum ≤ room) : ∃ body, encodeAttrs env hdr (plain ++ stop) room =
        .ok (body, room - (plain.map Attr.size).sum, stop) ∧ body.length = (plain.map Attr.size).sum := by
  induction plain generalizing room with
  | nil =>
    refine ⟨[], ?_, rfl⟩
    cases stop with
    | nil => rfl
    | cons a rest =>
      rw [List.nil_append, encodeAttrs, if_pos (hstop a (by simp))]
      rfl
  | cons a plain ih =>
    rw [List.map_cons, List.sum_cons] at hroom
    have ha := hopen a (List.mem_cons_self ..)
    obtain ⟨printed, hlen, hp⟩ := encodeAttr_size env hdr (henc a (List.mem_cons_self ..))
    obtain ⟨body, hb, hbl⟩ := ih (fun b hb => hopen b (List.mem_cons_of_mem _ hb))
      (fun b hb => henc b (List.mem_cons_of_mem _ hb)) (room - a.size) (by omega)
    refine ⟨printed ++ body, ?_, ?_⟩
    · rw [List.cons_append, encodeAttrs, ha, if_neg (by simp), hp, if_neg (by omega)]
      simp only [bind, Except.bind, hlen, hb, pure, Except.pure, List.map_cons, List.sum_cons,
        Nat.sub_sub]
    · rw [List.length_append, hlen, hbl, List.map_cons, List.sum_cons]

variable {closing : List Attr}

lemma ClosingAttrs.head (h : ClosingAttrs closing) : ∀ a ∈ closing.head?, a.closes = true := by
  cases h with
  | nil => simp
  | msgint h => simp [Attr.closes, h]
  | fingerprint h => simp [Attr.closes, h]
  | both h h' => simp [Attr.closes, h]

lemma ClosingAttrs.scan (h : ClosingAttrs closing) :
    ∃ c : Closing, scanRest closing.tail (stoppedAt closing) = .ok c ∧
      closing = c.amsgint.toList ++ c.afingerprint.toList := by
  cases h with
  | nil => exact ⟨⟨none, none⟩, rfl, rfl⟩
  | @msgint mi h => exact ⟨⟨some mi, none⟩, by simp [stoppedAt, h, scanRest], rfl⟩
  | @fingerprint fp h =>
    have hne : fp.type ≠ attrMessageIntegrity := by
      rw [h]
      decide
    exact ⟨⟨none, some fp⟩, by simp [stoppedAt, hne, scanRest], rfl⟩
  | @both mi fp h h' =>
    have hne : fp.type ≠ attrMessageIntegrity := by
      rw [h']
      decide
    have hscan : scanRest [fp] ⟨some mi, none⟩ = .ok ⟨some mi, some fp⟩ := by
      rw [scanRest, if_neg (by simp), if_neg hne, if_pos h', scanRest]
    exact ⟨⟨some mi, some fp⟩, by simpa [stoppedAt, h] using hscan, rfl⟩

lemma closing_size {a : Attr} (h : a.closes = true) :
    a.size = if a.type = attrMessageIntegrity then 24 else 8 := by
  have hdesc := a.desc_cases
  simp only [Attr.closes, decide_eq_true_eq] at h
  rcases h with h | h
  · have hd : findAttrDesc a.type = some .msgint := by
      rw [h]
      decide
    rw [if_pos h, Attr.size]
    cases hv : a.val <;> simp_all [AttrVal.initLength, align4]
  · have hd : findAttrDesc a.type = some .uint := by
      rw [h]
      decide
    rw [if_neg (by rw [h]; decide), Attr.size]
    cases hv : a.val <;> simp_all [AttrVal.initLength, align4]

lemma putMsgInt_room (env : Env) {key : Option Bytes} {i : ℕ} {c : Closing} {d : Draft}
    (hi : d.msg.attrs.length ≤ i) (hi' : i ≤ d.msg.attrs.length + 1)
    (hkey : c.amsgint.isSome → key.isSome) (hroom : c.amsgint.isSome → 24 ≤ d.room) :
    ∃ d', putMsgInt env key i c d = .ok (c, d') ∧
      d'.body.length = d.body.length + (if c.amsgint.isSome then 24 else 0) ∧
      d'.room = d.room - (if c.amsgint.isSome then 24 else 0) := by
  cases hm : c.amsgint with
  | none => exact ⟨d, by simp only [putMsgInt, hm], by simp, by simp⟩
  | some a =>
    rw [hm] at hkey hroom
    obtain ⟨k, rfl⟩ := Option.isSome_iff_exists.1 (hkey rfl)
    have hr : ¬ d.room < 24 := Nat.not_lt.2 (hroom rfl)
    simp only [putMsgInt, hm, checkMsgIntPos_ok d.msg.attrs_le hi hi', encodeMsgintAttr, if_neg hr]
    refine ⟨_, rfl, ?_, ?_⟩
    · simp [(env.hmacSha1 k d.bytes).2]
    · simp [(env.hmacSha1 k d.bytes).2]

lemma putFingerprint_room (env : Env) {c : Closing} {d : Draft} (hroom : c.afingerprint.isSome → 8 ≤ d.room) :
    ∃ d', putFingerprint env c d = .ok d' ∧
      d'.body.length = d.body.length + (if c.afingerprint.isSome then 8 else 0) := by
  cases hf : c.afingerprint with
  | none => exact ⟨d, by simp only [putFingerprint, hf], by simp⟩
  | some a =>
    rw [hf] at hroom
    have hr : ¬ d.room < 8 := Nat.not_lt.2 (hroom rfl)
    simp only [putFingerprint, hf, encodeUintAttr, if_neg hr]
    exact ⟨_, rfl, by simp⟩

lemma ClosingAttrs.sizes (h : ClosingAttrs closing) {c : Closing}
    (hc : closing = c.amsgint.toList ++ c.afingerprint.toList)
    (hscan : scanRest closing.tail (stoppedAt closing) = .ok c) : (closing.map Attr.size).sum =
      (if c.amsgint.isSome then 24 else 0) + if c.afingerprint.isSome then 8 else 0 := by
  obtain ⟨hmi, hfp, -, -⟩ := scan_stop h.head hscan
  have hsmi : ∀ a, c.amsgint = some a → a.size = 24 := by
    intro a ha
    obtain ⟨-, ht⟩ := hmi a ha
    rw [closing_size (by simp [Attr.closes, ht]), if_pos ht]
  have hsfp : ∀ a, c.afingerprint = some a → a.size = 8 := by
    intro a ha
    obtain ⟨-, ht⟩ := hfp a ha
    rw [closing_size (by simp [Attr.closes, ht]), if_neg (by rw [ht]; decide)]
  rw [hc]
  cases hm : c.amsgint with
  | none => cases hf : c.afingerprint <;> simp_all
  | some a => cases hf : c.afingerprint <;> simp_all

def Closing.size (c : Closing) : ℕ :=
  (if c.amsgint.isSome then 24 else 0) + if c.afingerprint.isSome then 8 else 0

lemma encode_scanned (env : Env) {msg : Msg} {plain stop : List Attr} {c : Closing}
    (hattrs : msg.attrs = plain ++ stop) (hopen : ∀ a ∈ plain, a.closes = false)
    (henc : ∀ a ∈ plain, a.encodable = true) (hstop : ∀ a ∈ stop.head?, a.closes = true)
    (hscan : scanRest stop.tail (stoppedAt stop) = .ok c) {key : Option Bytes}
    (hkey : c.amsgint.isSome → key.isSome) {bufSize : ℕ}
    (hbuf : 20 + (plain.map Attr.size).sum + c.size ≤ bufSize) :
    ∃ pkt msg', encode env msg bufSize 0 key = .ok (pkt, msg') ∧
      pkt.length = 20 + (plain.map Attr.size).sum + c.size := by
  obtain ⟨body, hloop, hblen⟩ := @encodeAttrs_room env msg.hdr _ _ hopen henc hstop
    (bufSize - 20) (by omega)
  rw [← hattrs] at hloop
  have hi : msg.attrs.length ≤ (if stop = [] then msg.attrs.length + 1 else msg.attrs.length) ∧
      (if stop = [] then msg.attrs.length + 1 else msg.attrs.length) ≤ msg.attrs.length + 1 := by
    split_ifs <;> omega
  unfold Closing.size at hbuf ⊢
  obtain ⟨d, hput, hdlen, hdroom⟩ := @putMsgInt_room env key _ c
    (draft msg c body (bufSize - 20 - (plain.map Attr.size).sum)) hi.1 hi.2 hkey (by
      intro hs
      rw [if_pos hs] at hbuf
      simp only [draft]
      omega)
  obtain ⟨d', hfin, hdlen'⟩ := @putFingerprint_room env c d (by
    intro hs
    rw [if_pos hs] at hbuf
    rw [hdroom]
    simp only [draft]
    omega)
  refine ⟨d'.finish.1, d'.finish.2, ?_, ?_⟩
  · rw [encode, if_neg (by omega), if_neg (by omega), hloop]
    simp only [bind, Except.bind, hscan, hput, hfin]
    rfl
  · simp only [Draft.finish, Draft.bytes, List.length_append, headerBytes_length, hdlen', hdlen]
    simp only [draft, hblen]
    omega

lemma encode_room (env : Env) {msg : Msg} {plain closing : List Attr}
    (hattrs : msg.attrs = plain ++ closing) (hopen : ∀ a ∈ plain, a.closes = false)
    (hclosing : ClosingAttrs closing) (hsup : ∀ a ∈ plain, a.Supported) {key : Option Bytes}
    (hkey : (∃ a ∈ msg.attrs, a.type = attrMessageIntegrity) → key.isSome) {bufSize : ℕ}
    (hbuf : 20 + (msg.attrs.map Attr.size).sum ≤ bufSize) :
    ∃ pkt msg', encode env msg bufSize 0 key = .ok (pkt, msg') ∧
      pkt.length = 20 + (msg.attrs.map Attr.size).sum := by
  obtain ⟨c, hscan, hc⟩ := hclosing.scan
  have hsizes : (closing.map Attr.size).sum = c.size := hclosing.sizes hc hscan
  have hmi := (scan_stop hclosing.head hscan).1
  have hkey' : c.amsgint.isSome → key.isSome := by
    intro hs
    obtain ⟨a, ha⟩ := Option.isSome_iff_exists.1 hs
    apply hkey
    refine ⟨a, ?_, (hmi a ha).2⟩
    rw [hattrs]
    exact List.mem_append_right _ (hmi a ha).1
  rw [hattrs, List.map_append, List.sum_append, hsizes, ← Nat.add_assoc] at hbuf ⊢
  exact encode_scanned env hattrs hopen (fun a ha => (hsup a ha).encodable) hclosing.head hscan hkey' hbuf

end Success

lemma split_closing {plain stop plain' stop' : List Attr} (h : plain ++ stop = plain' ++ stop')
    (hopen : ∀ a ∈ plain, a.closes = false) (hopen' : ∀ a ∈ plain', a.closes = false)
    (hstop : ∀ a ∈ stop.head?, a.closes = true) (hstop' : ∀ a ∈ stop'.head?, a.closes = true) :
    plain = plain' ∧ stop = stop' := by
  have hnil : ∀ {l : List Attr}, (∀ a ∈ l.head?, a.closes = true) →
      l.takeWhile (fun a => !a.closes) = [] := by
    intro l hl
    cases l with
    | nil => rfl
    | cons a l => simp [hl a (by simp)]
  have htake := congrArg (List.takeWhile fun a => !a.closes) h
  rw [List.takeWhile_append_of_pos (by simpa using hopen),
    List.takeWhile_append_of_pos (by simpa using hopen'), hnil hstop, hnil hstop', List.append_nil,
    List.append_nil] at htake
  subst htake
  exact ⟨rfl, List.append_cancel_left h⟩

lemma Sent.filled_eq {env : Env} {msg msg' : Msg} {key : Option Bytes} {pkt : Bytes}
    (s : Sent env msg key pkt msg') {plain closing : List Attr} (hattrs : msg.attrs = plain ++ closing)
    (hopen : ∀ a ∈ plain, a.closes = false) (hclosing : ClosingAttrs closing) :
    s.plain = plain ∧ msg'.attrs = s.plain ++ (s.mi ++ s.fp) := by
  obtain ⟨hplain, hstop⟩ := split_closing (s.attrs_eq.symm.trans hattrs) s.plain_open hopen
    s.stop_closes hclosing.head
  refine ⟨hplain, ?_⟩
  have hfill : s.plain.map (Attr.fill s.hmac s.value) = s.plain := by
    have : ∀ a ∈ s.plain, a.fill s.hmac s.value = a := by
      intro a ha
      have hc := s.plain_open a ha
      simp only [Attr.closes, decide_eq_false_iff_not, not_or] at hc
      rw [Attr.fill, setHmac_of_ne _ hc.1, setFingerprint_of_ne _ hc.2]
    rw [List.map_congr_left this, List.map_id']
  rw [s.filled, s.attrs_eq, List.map_append, hfill]
  congr 1
  have hmi := s.mi_cases
  have hfp := s.fp_cases
  rw [hattrs, hstop] at hmi hfp
  rw [hstop]
  cases hclosing with
  | nil =>
    rcases hmi with ⟨hmi, -⟩ | ⟨a, k, -, ha, -⟩
    · rcases hfp with ⟨hfp, -⟩ | ⟨a, ha, -⟩
      · rw [hmi, hfp]
        rfl
      · simp at ha
    · simp at ha
  | @msgint b h =>
    have hne : b.type ≠ attrFingerprint := by
      rw [h]
      decide
    rcases hmi with ⟨-, hno⟩ | ⟨a, k, -, ha, -, hmi, -⟩
    · exact absurd h (hno b (by simp))
    · rw [List.mem_singleton] at ha
      rcases hfp with ⟨hfp, -⟩ | ⟨a', ha', ht', -⟩
      · have hset : (b.setHmac s.hmac).type ≠ attrFingerprint := by rwa [setHmac_type]
        rw [hmi, hfp, ha]
        simp [Attr.fill, setFingerprint_of_ne _ hset]
      · rw [List.mem_singleton] at ha'
        rw [ha'] at ht'
        exact absurd ht' hne
  | @fingerprint b h =>
    have hne : b.type ≠ attrMessageIntegrity := by
      rw [h]
      decide
    rcases hfp with ⟨-, hno⟩ | ⟨a, ha, -, hfp⟩
    · exact absurd h (hno b (by simp))
    · rw [List.mem_singleton] at ha
      rcases hmi with ⟨hmi, -⟩ | ⟨a', k, -, ha', ht', -⟩
      · rw [hmi, hfp, ha]
        simp [Attr.fill, setHmac_of_ne _ hne]
      · rw [List.mem_singleton] at ha'
        rw [ha'] at ht'
        exact absurd ht' hne
  | @both b f h h' =>
    have hne : f.type ≠ attrMessageIntegrity := by
      rw [h']
      decide
    have hne' : b.type ≠ attrFingerprint := by
      rw [h]
      decide
    rcases hmi with ⟨-, hno⟩ | ⟨a, k, -, ha, ht, hmi, -⟩
    · exact absurd h (hno b (by simp))
    · rcases hfp with ⟨-, hno⟩ | ⟨a', ha', ht', hfp⟩
      · exact absurd h' (hno f (by simp))
      · have hab : a = b := by
          simp only [List.mem_cons, List.not_mem_nil, or_false] at ha
          rcases ha with ha | ha
          · exact ha
          · rw [ha] at ht
            exact absurd ht hne
        have haf : a' = f := by
          simp only [List.mem_cons, List.not_mem_nil, or_false] at ha'
          rcases ha' with ha' | ha'
          · rw [ha'] at ht'
            exact absurd ht' hne'
          · exact ha'
        have hset : (b.setHmac s.hmac).type ≠ attrFingerprint := by rwa [setHmac_type]
        rw [hmi, hfp, hab, haf]
        simp [Attr.fill, setFingerprint_of_ne _ hset, setHmac_of_ne _ hne]

lemma Attr.Supported.fill {a : Attr} (h : a.Supported) (hmac : Fixed 20) (value : UInt32) :
    (a.fill hmac value).Supported := by
  have hdesc := a.desc_cases
  by_cases hm : a.type = attrMessageIntegrity
  · have hd : findAttrDesc a.type = some .msgint := by
      rw [hm]
      decide
    have hset : (a.setHmac hmac).type ≠ attrFingerprint := by
      rw [setHmac_type, hm]
      decide
    have hlen : a.length = 20 := by
      cases hv : a.val <;> simp_all [h.built, AttrVal.initLength]
    rw [Attr.fill, setFingerprint_of_ne _ hset, Attr.setHmac, dif_pos hm]
    exact ⟨hlen, trivial⟩
  · rw [Attr.fill, setHmac_of_ne _ hm]
    by_cases hf : a.type = attrFingerprint
    · have hd : findAttrDesc a.type = some .uint := by
        rw [hf]
        decide
      have hlen : a.length = 4 := by
        cases hv : a.val <;> simp_all [h.built, AttrVal.initLength]
      rw [Attr.setFingerprint, dif_pos hf]
      exact ⟨hlen, trivial⟩
    · rwa [setFingerprint_of_ne _ hf]

/-- A message of supported attributes that fits in the buffer and in the length field is
encoded, and every decoder call whose packet check, if asked for, passes gives it back: the
same header, all bytes parsed, and the attributes with their values, the digests as the
encoder filled them in and SOFTWARE with its padding. -/
theorem stun_round_trip (env : Env) (msg : Msg) (plain closing : List Attr)
    (hattrs : msg.attrs = plain ++ closing) (hopen : ∀ a ∈ plain, a.closes = false)
    (hclosing : ClosingAttrs closing) (hsup : ∀ a ∈ msg.attrs, a.Supported)
    (hmagic : msg.hdr.magic = stunMagic) (key : Option Bytes)
    (hkey : (∃ a ∈ msg.attrs, a.type = attrMessageIntegrity) → key.isSome) (bufSize : ℕ)
    (hbuf : 20 + (msg.attrs.map Attr.size).sum ≤ bufSize) (hfit : (msg.attrs.map Attr.size).sum < 65536) :
    ∃ pkt msg', encode env msg bufSize 0 key = .ok (pkt, msg') ∧
      pkt.length = 20 + (msg.attrs.map Attr.size).sum ∧
      msg'.hdr = { msg.hdr with length := UInt16.ofNat (pkt.length - 20) } ∧
      (∃ hmac value, msg'.attrs = msg.attrs.map (Attr.fill hmac value)) ∧
      ∀ options : DecodeOptions,
        (options.checkPacket = true → msgCheck env options pkt = .ok ()) →
        ∃ d : Msg, decode env options pkt = .ok (d, pkt.length) ∧ d.hdr = msg'.hdr ∧
          d.attrs = msg'.attrs.map (Attr.onWire env.paddingChar) := by
  have hsup' : ∀ a ∈ plain, a.Supported := by
    intro a ha
    apply hsup
    rw [hattrs]
    exact List.mem_append_left _ ha
  obtain ⟨pkt, msg', henc, hlen⟩ := encode_room env hattrs hopen hclosing hsup' hkey hbuf
  obtain ⟨s⟩ := encode_sent henc
  obtain ⟨hplain, hfilled⟩ := s.filled_eq hattrs hopen hclosing
  have hhdr : msg'.hdr = { msg.hdr with length := UInt16.ofNat (pkt.length - 20) } := by
    have hb : (s.body ++ (s.miBytes ++ s.fpBytes)).length = pkt.length - 20 := by
      have := congrArg List.length s.pkt_eq
      rw [List.length_append, headerBytes_length] at this
      omega
    rw [s.hdr_eq, hb]
  refine ⟨pkt, msg', henc, hlen, hhdr, ⟨_, _, s.filled⟩, ?_⟩
  intro options hcheck
  have hknown : ∀ a ∈ s.plain, a.Known := by
    intro a ha
    rw [hplain] at ha
    have hv := (hsup' a ha).value
    have hdesc := a.desc_cases
    cases hc : a.val with
    | binary magic data =>
      rw [hc] at hv
      exact hv.2
    | sockaddr xorEd addr =>
      rw [hc] at hdesc
      rcases hdesc with hd | hd <;> exact Or.inl (by rw [hd]; simp)
    | _ =>
      rw [hc] at hdesc
      exact Or.inl (by rw [hdesc]; simp)
  have hmi : ∀ a ∈ msg.attrs, a.type = attrMessageIntegrity → a.length = 20 := by
    intro a ha ht
    have hdesc := a.desc_cases
    have hd : findAttrDesc a.type = some .msgint := by
      rw [ht]
      decide
    have hb := (hsup a ha).built
    cases hv : a.val <;> simp_all [AttrVal.initLength]
  obtain ⟨d, hdec, hd, hda⟩ := s.decode (by omega) hknown hmi options hcheck
  refine ⟨d, hdec, hd.trans hhdr.symm, ?_⟩
  rw [hda, hfilled]
  apply List.map_congr_left
  intro a ha
  rw [← hfilled, s.filled, List.mem_map] at ha
  obtain ⟨b, hb, rfl⟩ := ha
  exact ((hsup b hb).fill _ _).received hmagic

def constantEnv : Env := ⟨0, fun _ _ => ⟨List.replicate 20 7, rfl⟩, fun _ => 5⟩

def sampleHdr (magic : UInt32) : MsgHdr := ⟨0x0001, 0, magic, ⟨List.replicate 12 9, rfl⟩⟩

def blankMi : Attr := ⟨attrMessageIntegrity, 20, .msgint ⟨List.replicate 20 0, rfl⟩, rfl⟩

def sampleMsg : Msg :=
  ⟨sampleHdr stunMagic,
    [⟨0x0020, 8, .sockaddr true (.inet 3478 ⟨[10, 0, 0, 1], rfl⟩), rfl⟩,
      ⟨attrUsername, 5, .string (lit "alice"), rfl⟩,
      blankMi, ⟨attrFingerprint, 4, .uint 0, rfl⟩], by decide⟩

theorem stun_round_trip_sample :
    ∃ pkt msg', encode constantEnv sampleMsg 100 0 (some (lit "key")) = .ok (pkt, msg') ∧
      pkt.length = 76 ∧ ∃ d : Msg, decode constantEnv ⟨true, false, false⟩ pkt = .ok (d, 76) ∧
        d.attrs = msg'.attrs.map (Attr.onWire 0) := by
  obtain ⟨pkt, msg', henc, hlen, -, -, hdec⟩ := stun_round_trip constantEnv sampleMsg
    (sampleMsg.attrs.take 2) (sampleMsg.attrs.drop 2) rfl (by decide) (.both rfl rfl)
    (by
      intro a ha
      fin_cases ha
      · exact ⟨rfl, rfl⟩
      · exact ⟨rfl, trivial⟩
      · exact ⟨rfl, trivial⟩
      · exact ⟨rfl, trivial⟩)
    rfl (some (lit "key")) (by simp) 100 (by decide) (by decide)
  have hlen : pkt.length = 76 := hlen.trans (by decide)
  obtain ⟨d, hd, -, hda⟩ := hdec ⟨true, false, false⟩ (by simp)
  rw [hlen] at hd
  exact ⟨pkt, msg', henc, hlen, d, hd, hda⟩

def reread (env : Env) (options : DecodeOptions) (msg : Msg) (bufSize : ℕ) (key : Option Bytes) :
    Except Status (List AttrVal) := do
  let (pkt, _) ← encode env msg bufSize 0 key
  let (d, _) ← decode env options pkt
  pure (d.attrs.map Attr.val)

def singleMsg (a : Attr) : Msg := ⟨sampleHdr stunMagic, [a], by simp [maxAttr]⟩

/-- SOFTWARE comes back with its padding, an error code of more than two bytes comes back
changed, a binary attribute of an unknown type that must be understood is refused, and so is, by the
packet check, a last value that looks like a fingerprint. -/
theorem round_trip_changes_attributes : reread constantEnv ⟨true, false, false⟩
        (singleMsg ⟨attrSoftware, 3, .string (lit "abc"), rfl⟩) 100 none = .ok [.string (lit "abc" ++ [0])] ∧
    reread constantEnv ⟨true, false, false⟩ (singleMsg ⟨0x0009, 4, .errcode 25600 [], rfl⟩) 100 none =
      .ok [.errcode 0 []] ∧ reread constantEnv ⟨true, false, false⟩
        (singleMsg ⟨0x0031, 1, .binary stunMagic [1], rfl⟩) 100 none = .error (.stunCode 420) ∧
    reread constantEnv ⟨true, true, false⟩
        (singleMsg ⟨0x8029, 8, .uint64 0x80280000 0, rfl⟩) 100 none = .error .inAttrLen := by
  decide +kernel

end PjProject.Stun
