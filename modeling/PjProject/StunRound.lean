import PjProject.BoundedRead
import PjProject.StunAttrRound

/-!
# Decoding a printed message

The packets that `pj_stun_msg_encode` makes, what `pj_stun_msg_decode` gives for them,
and the round trip of a message.
-/
namespace PjProject.Stun

open ByteOrder

def readAll (p : Parse) (pdu : Bytes) (pos : ℕ) : Except Status (Msg × ℕ) :=
  readAttrs pdu.length p pdu pos

lemma readAttrs_fuel (fuel : ℕ) (p : Parse) (pdu : Bytes) (pos : ℕ) (h : pdu.length ≤ fuel) :
    readAttrs fuel p pdu pos = readAll p pdu pos := by
  unfold readAll
  induction fuel using Nat.strong_induction_on generalizing p pdu pos with
  | _ fuel ih =>
    by_cases h4 : pdu.length < 4
    · cases fuel with
      | zero =>
        rw [Nat.le_zero.1 h]
      | succ fuel =>
        cases hk : pdu.length with
        | zero => simp [readAttrs, hk]
        | succ k => simp [readAttrs, hk, show k + 1 < 4 by omega]
    · obtain ⟨fuel, rfl⟩ : ∃ k, fuel = k + 1 := ⟨fuel - 1, by omega⟩
      obtain ⟨k, hk⟩ : ∃ k, pdu.length = k + 1 := ⟨pdu.length - 1, by omega⟩
      rw [hk, readAttrs, readAttrs, if_neg h4, if_neg h4]
      cases hr : readAttr p pdu with
      | error e => rfl
      | ok p' =>
        simp only [bind, Except.bind]
        split_ifs with hle
        · rw [ih fuel (by omega) p' [] _ (by simp), ih k (by omega) p' [] _ (by simp)]
        · have hd : (pdu.drop (align4 (attrLength pdu) + 4)).length ≤ k := by
            rw [List.length_drop]
            omega
          rw [ih fuel (by omega) p' _ _ (by omega), ih k (by omega) p' _ _ hd]

lemma readAll_nil (p : Parse) (pos : ℕ) : readAll p [] pos = .ok (p.msg, pos) := rfl

lemma readAll_step {p p' : Parse} {printed tail : Bytes} {pos : ℕ}
    (hr : readAttr p (printed ++ tail) = .ok p')
    (hn : align4 (attrLength (printed ++ tail)) + 4 = printed.length) :
    readAll p (printed ++ tail) pos = readAll p' tail (pos + printed.length) := by
  obtain ⟨k, hk⟩ : ∃ k, (printed ++ tail).length = k + 1 := by
    refine ⟨(printed ++ tail).length - 1, ?_⟩
    rw [List.length_append]
    omega
  have hlen : (printed ++ tail).length = printed.length + tail.length := List.length_append
  rw [readAll, hk, readAttrs, if_neg (by omega), hr]
  simp only [bind, Except.bind, hn, List.drop_left]
  split_ifs with hle
  · have htail : tail = [] := List.eq_nil_of_length_eq_zero (by omega)
    subst htail
    rw [readAttrs_fuel _ _ _ _ (by simp), List.append_nil]
  · rw [readAttrs_fuel _ _ _ _ (by omega)]

inductive Prints (env : Env) (hdr : MsgHdr) : List Attr → Bytes → Prop
  | nil : Prints env hdr [] []
  | cons {a : Attr} {attrs : List Attr} {room : ℕ} {printed bytes : Bytes}
      (head : encodeAttr env hdr room a = .ok printed) (tail : Prints env hdr attrs bytes) :
      Prints env hdr (a :: attrs) (printed ++ bytes)

lemma Prints.append {env : Env} {hdr : MsgHdr} {s t : List Attr} {b d : Bytes}
    (hs : Prints env hdr s b) (ht : Prints env hdr t d) : Prints env hdr (s ++ t) (b ++ d) := by
  induction hs with
  | nil => exact ht
  | cons head _ ih =>
    rw [List.cons_append, List.append_assoc]
    exact .cons head ih

lemma Prints.single {env : Env} {hdr : MsgHdr} {a : Attr} {room : ℕ} {printed : Bytes}
    (h : encodeAttr env hdr room a = .ok printed) : Prints env hdr [a] printed := by
  have := Prints.cons h Prints.nil
  rwa [List.append_nil] at this

section Reading

variable {env : Env} {hdr : MsgHdr}

lemma readAll_attr {a : Attr} {room : ℕ} {printed : Bytes}
    (henc : encodeAttr env hdr room a = .ok printed) (hfit : printed.length < 65536)
    (hmi : a.type = attrMessageIntegrity → a.length = 20) (hknown : a.Known) {p p' : Parse}
    (hp : p.msg.hdr.tsxId = hdr.tsxId)
    (hnote : (if findAttrDesc a.type = none then .ok p else p.note a.type) = .ok p')
    (hmsg : p'.msg = p.msg) (hroom : p.msg.attrs.length < maxAttr) (tail : Bytes) (pos : ℕ) :
    ∃ q : Parse, readAll p (printed ++ tail) pos = readAll q tail (pos + printed.length) ∧
      q.msg.hdr = p.msg.hdr ∧ q.msg.attrs = p.msg.attrs ++ [a.received env hdr] ∧
      q.hasMsgInt = p'.hasMsgInt ∧ q.hasFingerprint = p'.hasFingerprint := by
  have hpr := encodeAttr_printed henc hfit hmi
  have hread := hpr.readAttr hfit hknown p hp tail
  have hroom' : p'.msg.attrs.length < maxAttr := by rwa [hmsg]
  have hadd : readAttr p (printed ++ tail) = p'.add (a.received env hdr) := by
    rw [hread]
    split_ifs at hnote ⊢
    · rw [Except.ok.inj hnote]
    · rw [hnote]
      rfl
  rw [Parse.add, dif_pos hroom'] at hadd
  obtain ⟨-, -, hn⟩ := hpr.length tail hfit
  have hh : p'.msg.hdr = p.msg.hdr := by rw [hmsg]
  have ha : p'.msg.attrs ++ [a.received env hdr] = p.msg.attrs ++ [a.received env hdr] := by rw [hmsg]
  exact ⟨_, readAll_step hadd hn, hh, ha, rfl, rfl⟩

lemma note_plain {a : Attr} (hc : a.closes = false) {p : Parse} (hf : p.hasFingerprint = false) :
    p.note a.type = .ok p := by
  simp only [Attr.closes, decide_eq_false_iff_not, not_or] at hc
  simp [Parse.note, hc.1, hc.2, hf]

lemma readAll_plain {attrs : List Attr} {bytes : Bytes} (h : Prints env hdr attrs bytes)
    (hplain : ∀ a ∈ attrs, a.closes = false) (hknown : ∀ a ∈ attrs, a.Known)
    (hfit : bytes.length < 65536) (p : Parse) (hp : p.msg.hdr.tsxId = hdr.tsxId)
    (hf : p.hasFingerprint = false) (hroom : p.msg.attrs.length + attrs.length ≤ maxAttr)
    (tail : Bytes) (pos : ℕ) :
    ∃ q : Parse, readAll p (bytes ++ tail) pos = readAll q tail (pos + bytes.length) ∧
      q.msg.hdr = p.msg.hdr ∧ q.msg.attrs = p.msg.attrs ++ attrs.map (Attr.received env hdr) ∧
      q.hasMsgInt = p.hasMsgInt ∧ q.hasFingerprint = false := by
  induction h generalizing p pos with
  | nil => exact ⟨p, rfl, rfl, by simp, rfl, hf⟩
  | @cons a attrs room printed bytes head _ ih =>
    have hac := hplain a (List.mem_cons_self ..)
    rw [List.length_append] at hfit
    rw [List.length_cons] at hroom
    have hmi : a.type = attrMessageIntegrity → a.length = 20 := by
      intro ht
      simp [Attr.closes, ht] at hac
    have hnote : (if findAttrDesc a.type = none then .ok p else p.note a.type) = Except.ok p := by
      rw [note_plain hac hf, ite_self]
    obtain ⟨q, hq, hh, ha, hm, hfq⟩ := readAll_attr head (by omega) hmi
      (hknown a (List.mem_cons_self ..)) hp hnote rfl (by omega) (bytes ++ tail) pos
    obtain ⟨r, hr, hh', ha', hm', hf'⟩ := ih
      (fun b hb => hplain b (List.mem_cons_of_mem _ hb))
      (fun b hb => hknown b (List.mem_cons_of_mem _ hb)) (by omega) q (by rw [hh, hp])
      (by rw [hfq, hf]) (by rw [ha, List.length_append, List.length_singleton]; omega) (pos + printed.length)
    refine ⟨r, ?_, hh'.trans hh, ?_, hm'.trans hm, hf'⟩
    · rw [List.append_assoc, hq, hr, List.length_append, Nat.add_assoc]
    · rw [ha', ha]
      simp

end Reading

def Attr.fill (hmac : Fixed 20) (value : UInt32) (a : Attr) : Attr :=
  (a.setHmac hmac).setFingerprint value

structure Sent (env : Env) (msg : Msg) (key : Option Bytes) (pkt : Bytes) (msg' : Msg) where
  plain : List Attr
  stop : List Attr
  body : Bytes
  /-- MESSAGE-INTEGRITY with its digest, if the message has one -/
  mi : List Attr
  miBytes : Bytes
  fp : List Attr
  fpBytes : Bytes
  hmac : Fixed 20
  value : UInt32
  loop : ∃ room left, encodeAttrs env msg.hdr msg.attrs room = .ok (body, left, stop)
  attrs_eq : msg.attrs = plain ++ stop
  plain_open : ∀ a ∈ plain, a.closes = false
  stop_closes : ∀ a ∈ stop.head?, a.closes = true
  prints_plain : Prints env msg.hdr plain body
  mi_cases : (mi = [] ∧ ∀ a ∈ msg.attrs, a.type ≠ attrMessageIntegrity) ∨
    ∃ a k, key = some k ∧ a ∈ stop ∧ a.type = attrMessageIntegrity ∧ mi = [a.setHmac hmac] ∧
      hmac = env.hmacSha1 k (headerBytes msg.hdr (UInt16.ofNat (body.length + 24)) ++ body)
  prints_mi : Prints env msg.hdr mi miBytes
  fp_cases : (fp = [] ∧ ∀ a ∈ msg.attrs, a.type ≠ attrFingerprint) ∨
    ∃ a ∈ stop, a.type = attrFingerprint ∧ fp = [a.setFingerprint value]
  prints_fp : Prints env msg.hdr fp fpBytes
  few : (plain ++ (mi ++ fp)).length ≤ maxAttr
  pkt_eq : pkt = headerBytes msg.hdr (UInt16.ofNat (body ++ (miBytes ++ fpBytes)).length) ++
    (body ++ (miBytes ++ fpBytes))
  hdr_eq : msg'.hdr =
    { msg.hdr with length := UInt16.ofNat (body ++ (miBytes ++ fpBytes)).length }
  filled : msg'.attrs = msg.attrs.map (Attr.fill hmac value)

section Encoding

variable {env : Env} {hdr : MsgHdr} {msg : Msg} {key : Option Bytes}
  {room : ℕ} {body : Bytes} {stop : List Attr}

lemma encodeAttrs_prints {attrs : List Attr} {left : ℕ}
    (h : encodeAttrs env hdr attrs room = .ok (body, left, stop)) :
    ∃ plain, attrs = plain ++ stop ∧ (∀ a ∈ plain, a.closes = false) ∧
      Prints env hdr plain body ∧ ∀ a ∈ stop.head?, a.closes = true := by
  induction attrs generalizing room body left stop with
  | nil =>
    cases h
    exact ⟨[], rfl, by simp, .nil, by simp⟩
  | cons a attrs ih =>
    rw [encodeAttrs] at h
    by_cases hc : a.closes = true
    · rw [if_pos hc] at h
      cases h
      exact ⟨[], rfl, by simp, .nil, by simpa using hc⟩
    · rw [if_neg hc] at h
      obtain ⟨printed, hp, h⟩ := BoundedRead.of_bind h
      obtain ⟨⟨body', left', stop'⟩, hb, h⟩ := BoundedRead.of_bind h
      cases h
      obtain ⟨plain, rfl, hopen, hprints, hstop⟩ := ih hb
      refine ⟨a :: plain, rfl, ?_, .cons hp hprints, hstop⟩
      intro b hb
      rw [List.mem_cons] at hb
      rcases hb with rfl | hb
      · simpa using hc
      · exact hopen b hb

variable {c c' : Closing}

lemma scanRest_ok {rest : List Attr} (h : scanRest rest c = .ok c') :
    (c.afingerprint.isSome → rest = [] ∧ c' = c) ∧ (c.amsgint.isSome → c'.amsgint = c.amsgint) ∧
    (c'.amsgint = c.amsgint ∧ (c.amsgint = none → ∀ a ∈ rest, a.type ≠ attrMessageIntegrity) ∨
      ∃ a ∈ rest, a.type = attrMessageIntegrity ∧ c'.amsgint = some a) ∧
    (c'.afingerprint = c.afingerprint ∧ (∀ a ∈ rest, a.type ≠ attrFingerprint) ∨
      ∃ a ∈ rest, a.type = attrFingerprint ∧ c'.afingerprint = some a) := by
  induction rest generalizing c with
  | nil =>
    cases h
    simp
  | cons a rest ih =>
    rw [scanRest] at h
    split_ifs at h with hf hm hs hfp
    · -- a second integrity attribute is refused, so this is the first
      obtain ⟨-, hkeep, -, hfp⟩ := ih h
      have hsome := hkeep rfl
      refine ⟨fun hc => absurd hc hf, fun hc => absurd hc hs, Or.inr ?_, ?_⟩
      · exact ⟨a, List.mem_cons_self .., hm, hsome⟩
      · rcases hfp with ⟨hfp, hno⟩ | ⟨b, hb, hbt, hbe⟩
        · refine Or.inl ⟨hfp, ?_⟩
          rw [List.forall_mem_cons]
          exact ⟨by rw [hm]; decide, hno⟩
        · exact Or.inr ⟨b, List.mem_cons_of_mem _ hb, hbt, hbe⟩
    · obtain ⟨hlast, hkeep, hmi, -⟩ := ih h
      obtain ⟨rfl, rfl⟩ := hlast rfl
      refine ⟨fun hc => absurd hc hf, fun _ => rfl, Or.inl ⟨rfl, ?_⟩, Or.inr ?_⟩
      · intro _ b hb
        rw [List.mem_singleton] at hb
        rwa [hb]
      · exact ⟨a, List.mem_cons_self .., hfp, rfl⟩
    · obtain ⟨-, hkeep, hmi, hfp'⟩ := ih h
      refine ⟨fun hc => absurd hc hf, hkeep, ?_, ?_⟩
      · rcases hmi with ⟨hmi, hno⟩ | ⟨b, hb, hbt, hbe⟩
        · refine Or.inl ⟨hmi, fun hc => ?_⟩
          rw [List.forall_mem_cons]
          exact ⟨hm, hno hc⟩
        · exact Or.inr ⟨b, List.mem_cons_of_mem _ hb, hbt, hbe⟩
      · rcases hfp' with ⟨hfp', hno⟩ | ⟨b, hb, hbt, hbe⟩
        · refine Or.inl ⟨hfp', ?_⟩
          rw [List.forall_mem_cons]
          exact ⟨hfp, hno⟩
        · exact Or.inr ⟨b, List.mem_cons_of_mem _ hb, hbt, hbe⟩

variable {i : ℕ}

lemma checkMsgIntPos_ok {attrs : List Attr} (h : attrs.length ≤ maxAttr)
    (hi : attrs.length ≤ i) (hi' : i ≤ attrs.length + 1) (c : Closing) :
    checkMsgIntPos attrs i c = .ok c := by
  have hn : attrs.length ≤ 16 := h
  rw [checkMsgIntPos, if_neg (by omega), if_neg (by omega)]

lemma scan_stop (hstop : ∀ a ∈ stop.head?, a.closes = true)
    (h : scanRest stop.tail (stoppedAt stop) = .ok c) :
    (∀ a, c.amsgint = some a → a ∈ stop ∧ a.type = attrMessageIntegrity) ∧
    (∀ a, c.afingerprint = some a → a ∈ stop ∧ a.type = attrFingerprint) ∧
    (c.amsgint = none → ∀ a ∈ stop, a.type ≠ attrMessageIntegrity) ∧
    (c.afingerprint = none → ∀ a ∈ stop, a.type ≠ attrFingerprint) := by
  cases stop with
  | nil =>
    cases h
    simp [stoppedAt]
  | cons b rest =>
    have hb : b.closes = true := hstop b (by simp)
    obtain ⟨hlast, hkeep, hmi, hfp⟩ := scanRest_ok h
    by_cases ht : b.type = attrMessageIntegrity
    · simp only [stoppedAt, if_pos ht] at hlast hkeep hmi hfp
      have hsome := hkeep rfl
      refine ⟨?_, ?_, ?_, ?_⟩
      · intro a ha
        rw [hsome] at ha
        cases ha
        exact ⟨List.mem_cons_self .., ht⟩
      · intro a ha
        rcases hfp with ⟨hfp, -⟩ | ⟨f, hf, hft, hfe⟩
        · rw [hfp] at ha
          cases ha
        · rw [hfe] at ha
          cases ha
          exact ⟨List.mem_cons_of_mem _ hf, hft⟩
      · intro hnone
        rw [hsome] at hnone
        cases hnone
      · intro hnone
        rcases hfp with ⟨-, hno⟩ | ⟨f, -, -, hfe⟩
        · rw [List.forall_mem_cons]
          exact ⟨by rw [ht]; decide, hno⟩
        · rw [hfe] at hnone
          cases hnone
    · -- a fingerprint is the last attribute of all
      have hfpt : b.type = attrFingerprint := by
        simp only [Attr.closes, decide_eq_true_eq] at hb
        exact hb.resolve_left ht
      simp only [stoppedAt, if_neg ht] at hlast
      obtain ⟨hnil, rfl⟩ := hlast rfl
      have hrest : rest = [] := hnil
      subst hrest
      refine ⟨by simp, ?_, ?_, by simp⟩
      · intro a ha
        cases ha
        exact ⟨List.mem_cons_self .., hfpt⟩
      · intro _ a ha
        rw [List.mem_singleton] at ha
        rwa [ha]

variable {a : Attr}

lemma encodeAttr_setHmac (ht : a.type = attrMessageIntegrity) (hmac : Fixed 20) (room : ℕ) :
    encodeAttr env hdr room (a.setHmac hmac) = encodeMsgintAttr room a.type a.length hmac := by
  simp [encodeAttr, Attr.setHmac, ht]

lemma encodeAttr_setFingerprint (ht : a.type = attrFingerprint) (value : UInt32) (room : ℕ) :
    encodeAttr env hdr room (a.setFingerprint value) = encodeUintAttr room a.type value := by
  simp [encodeAttr, Attr.setFingerprint, ht]

variable {d d' : Draft}

lemma putMsgInt_ok (hi : d.msg.attrs.length ≤ i)
    (hi' : i ≤ d.msg.attrs.length + 1) (h : putMsgInt env key i c d = .ok (c', d')) :
    c' = c ∧ d'.length = d.length ∧ d'.msg.hdr = d.msg.hdr ∧ (c.amsgint = none ∧ d' = d ∨
      ∃ a k printed, c.amsgint = some a ∧ key = some k ∧
        encodeMsgintAttr d.room a.type a.length (env.hmacSha1 k d.bytes) = .ok printed ∧
        d'.body = d.body ++ printed ∧ d'.msg = d.msg.mapAttrs (Attr.setHmac (env.hmacSha1 k d.bytes))) := by
  cases hm : c.amsgint with
  | none =>
    simp only [putMsgInt, hm] at h
    cases h
    exact ⟨rfl, rfl, rfl, Or.inl ⟨rfl, rfl⟩⟩
  | some a =>
    cases key with
    | none => simp [putMsgInt, hm] at h
    | some k =>
      simp only [putMsgInt, hm, checkMsgIntPos_ok d.msg.attrs_le hi hi'] at h
      obtain ⟨_, hc, h⟩ := BoundedRead.of_bind h
      cases hc
      obtain ⟨printed, hp, h⟩ := BoundedRead.of_bind h
      cases h
      exact ⟨rfl, rfl, rfl, Or.inr ⟨a, k, printed, rfl, rfl, hp, rfl, rfl⟩⟩

lemma putFingerprint_ok (h : putFingerprint env c d = .ok d') : d'.msg.hdr = d.msg.hdr ∧
    (c.afingerprint = none ∧ d' = d ∨ ∃ a printed value, c.afingerprint = some a ∧
        encodeUintAttr d.room a.type value = .ok printed ∧
        d'.length = UInt16.ofNat (d.length.toNat + 8) ∧ d'.body = d.body ++ printed ∧
        d'.msg = d.msg.mapAttrs (Attr.setFingerprint value)) := by
  cases hf : c.afingerprint with
  | none =>
    simp only [putFingerprint, hf] at h
    cases h
    exact ⟨rfl, Or.inl ⟨rfl, rfl⟩⟩
  | some a =>
    simp only [putFingerprint, hf] at h
    obtain ⟨printed, hp, h⟩ := BoundedRead.of_bind h
    cases h
    exact ⟨rfl, Or.inr ⟨a, printed, _, rfl, hp, rfl, rfl, rfl⟩⟩

variable {type : UInt16}

lemma encodeMsgintAttr_length {length : UInt16} {hmac : Fixed 20} {printed : Bytes}
    (h : encodeMsgintAttr room type length hmac = .ok printed) : printed.length = 24 := by
  unfold encodeMsgintAttr at h
  split_ifs at h
  cases h
  simp [hmac.2]

lemma encodeUintAttr_length {value : UInt32} {printed : Bytes}
    (h : encodeUintAttr room type value = .ok printed) : printed.length = 8 := by
  unfold encodeUintAttr at h
  split_ifs at h
  cases h
  simp

lemma closing_length {mi fp : List Attr}
    (hmi : mi = [] ∨ ∃ a b, a ∈ stop ∧ a.type = attrMessageIntegrity ∧ mi = [b])
    (hfp : fp = [] ∨ ∃ a b, a ∈ stop ∧ a.type = attrFingerprint ∧ fp = [b]) :
    (mi ++ fp).length ≤ stop.length := by
  have hpos : ∀ {a : Attr}, a ∈ stop → 1 ≤ stop.length := fun ha => List.length_pos_of_mem ha
  rcases hmi with rfl | ⟨a, b, ha, hat, rfl⟩
  · rcases hfp with rfl | ⟨f, g, hf, -, rfl⟩
    · simp
    · simpa using hpos hf
  · rcases hfp with rfl | ⟨f, g, hf, hft, rfl⟩
    · simpa using hpos ha
    · have hne : a ≠ f := by
        rintro rfl
        rw [hat] at hft
        cases hft
      show 2 ≤ stop.length
      obtain ⟨s, t, rfl⟩ := List.append_of_mem ha
      rw [List.mem_append, List.mem_cons] at hf
      have : 1 ≤ s.length + t.length := by
        rcases hf with hf | hf | hf
        · have := List.length_pos_of_mem hf
          omega
        · exact absurd hf.symm hne
        · have := List.length_pos_of_mem hf
          omega
      rw [List.length_append, List.length_cons]
      omega

lemma mapAttrs_of_type {f : Attr → Attr} (hf : ∀ a, a.type ≠ type → f a = a)
    {m : Msg} (h : ∀ a ∈ m.attrs, a.type ≠ type) : m.attrs.map f = m.attrs := by
  rw [List.map_congr_left fun a ha => hf a (h a ha), List.map_id']

lemma setHmac_of_ne (hmac : Fixed 20) (h : a.type ≠ attrMessageIntegrity) : a.setHmac hmac = a := by
  simp [Attr.setHmac, h]

lemma setFingerprint_of_ne (value : UInt32) (h : a.type ≠ attrFingerprint) : a.setFingerprint value = a := by
  simp [Attr.setFingerprint, h]

@[simp] lemma setHmac_type (hmac : Fixed 20) (a : Attr) : (a.setHmac hmac).type = a.type := by
  unfold Attr.setHmac
  split_ifs <;> rfl

@[simp] lemma setFingerprint_type (value : UInt32) (a : Attr) : (a.setFingerprint value).type = a.type := by
  unfold Attr.setFingerprint
  split_ifs <;> rfl

lemma putMsgInt_sent {plain : List Attr}
    (hattrs : msg.attrs = plain ++ stop) (hopen : ∀ a ∈ plain, a.closes = false)
    (hi : msg.attrs.length ≤ i) (hi' : i ≤ msg.attrs.length + 1)
    (hmi : ∀ a, c.amsgint = some a → a ∈ stop ∧ a.type = attrMessageIntegrity)
    (hnone : c.amsgint = none → ∀ a ∈ stop, a.type ≠ attrMessageIntegrity)
    (h : putMsgInt env key i c (draft msg c body room) = .ok (c', d)) :
    c' = c ∧ d.msg.hdr = msg.hdr ∧ ∃ (hmac : Fixed 20) (mi : List Attr) (miBytes : Bytes),
      ((mi = [] ∧ ∀ a ∈ msg.attrs, a.type ≠ attrMessageIntegrity) ∨
        ∃ a k, key = some k ∧ a ∈ stop ∧ a.type = attrMessageIntegrity ∧ mi = [a.setHmac hmac] ∧
          hmac = env.hmacSha1 k (headerBytes msg.hdr (UInt16.ofNat (body.length + 24)) ++ body)) ∧
      Prints env msg.hdr mi miBytes ∧ d.body = body ++ miBytes ∧
      d.length = UInt16.ofNat (body ++ miBytes).length ∧ d.msg.attrs = msg.attrs.map (Attr.setHmac hmac) := by
  obtain ⟨rfl, hlen, hhdr, hcase⟩ := putMsgInt_ok hi hi' h
  refine ⟨rfl, hhdr, ?_⟩
  rcases hcase with ⟨hn, rfl⟩ | ⟨a, k, printed, ha, hk, hp, hb, hm⟩
  · have hno : ∀ a ∈ msg.attrs, a.type ≠ attrMessageIntegrity := by
      intro a ha
      rw [hattrs, List.mem_append] at ha
      rcases ha with ha | ha
      · intro ht
        have := hopen a ha
        simp [Attr.closes, ht] at this
      · exact hnone hn a ha
    refine ⟨env.hmacSha1 [] [], [], [], Or.inl ⟨rfl, hno⟩, .nil, by simp [draft], by simp [draft, hn], ?_⟩
    exact (mapAttrs_of_type (fun a => setHmac_of_ne _) hno).symm
  · obtain ⟨hmem, ht⟩ := hmi a ha
    have hbytes : (draft msg c' body room).bytes =
        headerBytes msg.hdr (UInt16.ofNat (body.length + 24)) ++ body := by
      simp [Draft.bytes, draft, ha]
    rw [hbytes] at hp hm
    refine ⟨_, _, printed, Or.inr ⟨a, k, hk, hmem, ht, rfl, rfl⟩, ?_, hb, ?_, ?_⟩
    · exact .single ((encodeAttr_setHmac ht _ _).trans hp)
    · rw [hlen, List.length_append, encodeMsgintAttr_length hp]
      simp [draft, ha]
    · rw [hm]
      rfl

lemma putFingerprint_sent {plain : List Attr} {miBytes : Bytes}
    (hattrs : msg.attrs = plain ++ stop) (hopen : ∀ a ∈ plain, a.closes = false)
    (hfp : ∀ a, c.afingerprint = some a → a ∈ stop ∧ a.type = attrFingerprint)
    (hnone : c.afingerprint = none → ∀ a ∈ stop, a.type ≠ attrFingerprint)
    (hbody : d.body = body ++ miBytes) (hlen : d.length = UInt16.ofNat (body ++ miBytes).length)
    (htypes : d.msg.attrs.map Attr.type = msg.attrs.map Attr.type) (h : putFingerprint env c d = .ok d') :
    d'.msg.hdr = d.msg.hdr ∧ ∃ (value : UInt32) (fp : List Attr) (fpBytes : Bytes),
      ((fp = [] ∧ ∀ a ∈ msg.attrs, a.type ≠ attrFingerprint) ∨
        ∃ a ∈ stop, a.type = attrFingerprint ∧ fp = [a.setFingerprint value]) ∧
      Prints env msg.hdr fp fpBytes ∧ d'.body = body ++ (miBytes ++ fpBytes) ∧
      d'.length = UInt16.ofNat (body ++ (miBytes ++ fpBytes)).length ∧
      d'.msg.attrs = d.msg.attrs.map (Attr.setFingerprint value) := by
  obtain ⟨hhdr, hcase⟩ := putFingerprint_ok h
  refine ⟨hhdr, ?_⟩
  rcases hcase with ⟨hn, rfl⟩ | ⟨a, printed, value, ha, hp, hl, hb, hm⟩
  · have hno : ∀ a ∈ msg.attrs, a.type ≠ attrFingerprint := by
      intro a ha
      rw [hattrs, List.mem_append] at ha
      rcases ha with ha | ha
      · intro ht
        have := hopen a ha
        simp [Attr.closes, ht] at this
      · exact hnone hn a ha
    have hno' : ∀ a ∈ d'.msg.attrs, a.type ≠ attrFingerprint := by
      intro a ha
      have := List.mem_map_of_mem (f := Attr.type) ha
      rw [htypes, List.mem_map] at this
      obtain ⟨b, hb, hbt⟩ := this
      rw [← hbt]
      exact hno b hb
    refine ⟨0, [], [], Or.inl ⟨rfl, hno⟩, .nil, by simpa using hbody, by simpa using hlen, ?_⟩
    exact (mapAttrs_of_type (fun a => setFingerprint_of_ne _) hno').symm
  · obtain ⟨hmem, ht⟩ := hfp a ha
    have hsum : (body ++ (miBytes ++ printed)).length = (body ++ miBytes).length + 8 := by
      rw [← List.append_assoc, List.length_append, encodeUintAttr_length hp]
    refine ⟨value, _, printed, Or.inr ⟨a, hmem, ht, rfl⟩, ?_, ?_, ?_, ?_⟩
    · exact .single ((encodeAttr_setFingerprint ht _ _).trans hp)
    · rw [hb, hbody, List.append_assoc]
    · rw [hl, hlen, hsum]
      apply UInt16.toNat_inj.1
      rw [UInt16.toNat_ofNat', UInt16.toNat_ofNat', UInt16.toNat_ofNat']
      omega
    · rw [hm]
      rfl

lemma encode_sent {bufSize options : ℕ} {pkt : Bytes} {msg' : Msg}
    (h : encode env msg bufSize options key = .ok (pkt, msg')) : Nonempty (Sent env msg key pkt msg') := by
  unfold encode at h
  split_ifs at h with h1 h2
  obtain ⟨⟨body, room, stop⟩, hloop, h⟩ := BoundedRead.of_bind h
  obtain ⟨c, hscan, h⟩ := BoundedRead.of_bind h
  obtain ⟨⟨c', d⟩, hput, h⟩ := BoundedRead.of_bind h
  obtain ⟨d', hfin, h⟩ := BoundedRead.of_bind h
  cases h
  obtain ⟨plain, hattrs, hopen, hprints, hhead⟩ := encodeAttrs_prints hloop
  obtain ⟨hmi, hfp, hnomi, hnofp⟩ := scan_stop hhead hscan
  have hi : msg.attrs.length ≤ (if stop = [] then msg.attrs.length + 1 else msg.attrs.length) ∧
      (if stop = [] then msg.attrs.length + 1 else msg.attrs.length) ≤ msg.attrs.length + 1 := by
    split_ifs <;> omega
  obtain ⟨rfl, hhdr, hmac, mi, miBytes, hmi_cases, hmi_prints, hbody, hlen, hset⟩ :=
    putMsgInt_sent hattrs hopen hi.1 hi.2 hmi hnomi hput
  obtain ⟨hhdr', value, fp, fpBytes, hfp_cases, hfp_prints, hbody', hlen', hset'⟩ :=
    putFingerprint_sent hattrs hopen hfp hnofp hbody hlen (by simp [hset]) hfin
  have hfew : (plain ++ (mi ++ fp)).length ≤ maxAttr := by
    have hle : (mi ++ fp).length ≤ stop.length := by
      apply closing_length
      · rcases hmi_cases with ⟨hm, -⟩ | ⟨a, k, -, hmem, ht, hm, -⟩
        · exact Or.inl hm
        · exact Or.inr ⟨a, _, hmem, ht, hm⟩
      · rcases hfp_cases with ⟨hf, -⟩ | ⟨a, hmem, ht, hf⟩
        · exact Or.inl hf
        · exact Or.inr ⟨a, _, hmem, ht, hf⟩
    have := msg.attrs_le
    rw [hattrs, List.length_append] at this
    rw [List.length_append]
    omega
  have hh : d'.msg.hdr = msg.hdr := hhdr'.trans hhdr
  refine ⟨⟨plain, stop, body, mi, miBytes, fp, fpBytes, hmac, value, ⟨_, _, hloop⟩, hattrs, hopen,
    hhead, hprints, hmi_cases, hmi_prints, hfp_cases, hfp_prints, hfew, ?_, ?_, ?_⟩⟩
  · simp only [Draft.bytes, hh, hbody', hlen']
  · simp only [hh, hbody']
  · rw [hset', hset, List.map_map]
    rfl

end Encoding

section Packet

variable {env : Env} {msg msg' : Msg} {key : Option Bytes} {pkt : Bytes}

lemma readHeader_headerBytes (hdr : MsgHdr) (length : UInt16) (rest : Bytes) :
    readHeader (headerBytes hdr length ++ rest) = { hdr with length := length } := by
  have hb : headerBytes hdr length ++ rest =
      attrBytes hdr.type length (put32 hdr.magic ++ (hdr.tsxId.1 ++ rest)) := by
    simp [headerBytes, attrBytes]
  have htsx : slice (put32 hdr.magic ++ (hdr.tsxId.1 ++ rest)) 4 12 = hdr.tsxId.1 := by
    rw [slice_append_right _ _ _ _ (by simp)]
    have := slice_append hdr.tsxId.1 rest
    rwa [hdr.tsxId.2] at this
  simp only [readHeader, hb, get16_type, get16_length, get32_content _ _ _ 0, get32_put32,
    slice_content _ _ _ 4, htsx]

def emptyMsg (hdr : MsgHdr) : Msg := ⟨hdr, [], Nat.zero_le _⟩

lemma decode_packet (hdr : MsgHdr) (bytes : Bytes) (hfit : bytes.length < 65536) (options : DecodeOptions)
    (hcheck : options.checkPacket = true →
      msgCheck env options (headerBytes hdr (UInt16.ofNat bytes.length) ++ bytes) = .ok ()) :
    decode env options (headerBytes hdr (UInt16.ofNat bytes.length) ++ bytes) =
      readAll ⟨emptyMsg { hdr with length := UInt16.ofNat bytes.length }, false, false⟩ bytes 20 := by
  have hh := readHeader_headerBytes hdr (UInt16.ofNat bytes.length) bytes
  have hl : get16 (headerBytes hdr (UInt16.ofNat bytes.length) ++ bytes) 2 = UInt16.ofNat bytes.length :=
    congrArg MsgHdr.length hh
  have hne : headerBytes hdr (UInt16.ofNat bytes.length) ++ bytes ≠ [] := by
    intro he
    have := congrArg List.length he
    simp at this
  have hpre : precheck env options (headerBytes hdr (UInt16.ofNat bytes.length) ++ bytes) = .ok () := by
    unfold precheck
    by_cases hc : options.checkPacket = true
    · rw [if_pos hc, hcheck hc]
    · rw [if_neg hc, checkLength, if_neg]
      rw [hl, toNat_ofNat16 hfit, List.length_append, headerBytes_length]
      omega
  have hbody : ((headerBytes hdr (UInt16.ofNat bytes.length) ++ bytes).drop 20).take
      (UInt16.ofNat bytes.length).toNat = bytes := by
    rw [List.drop_left' (headerBytes_length _ _), toNat_ofNat16 hfit, List.take_length]
  rw [decode, if_neg hne, hpre]
  simp only [bind, Except.bind, hh, hbody]
  exact readAttrs_fuel _ _ _ _ (le_of_eq (toNat_ofNat16 hfit).symm)

lemma readAll_mi {a : Attr} (hdr : MsgHdr) {room : ℕ} {printed : Bytes}
    (ht : a.type = attrMessageIntegrity) (hl : a.length = 20)
    (henc : encodeAttr env hdr room a = .ok printed) (hfit : printed.length < 65536) {p : Parse}
    (hp : p.msg.hdr.tsxId = hdr.tsxId) (hm : p.hasMsgInt = false) (hf : p.hasFingerprint = false)
    (hroom : p.msg.attrs.length < maxAttr) (tail : Bytes) (pos : ℕ) :
    ∃ q : Parse, readAll p (printed ++ tail) pos = readAll q tail (pos + printed.length) ∧
      q.msg.hdr = p.msg.hdr ∧ q.msg.attrs = p.msg.attrs ++ [a.received env hdr] ∧
      q.hasFingerprint = false := by
  have hd : findAttrDesc a.type ≠ none := by
    rw [ht]
    decide
  have hnote : p.note a.type = .ok { p with hasMsgInt := true } := by
    simp [Parse.note, ht, hm, hf]
  obtain ⟨q, hq, hh, ha, -, hqf⟩ := readAll_attr henc hfit (fun _ => hl) (Or.inl hd) hp
    ((if_neg hd).trans hnote) rfl hroom tail pos
  exact ⟨q, hq, hh, ha, hqf.trans hf⟩

lemma readAll_fp {a : Attr} (hdr : MsgHdr) {room : ℕ} {printed : Bytes}
    (ht : a.type = attrFingerprint) (henc : encodeAttr env hdr room a = .ok printed)
    (hfit : printed.length < 65536) {p : Parse} (hp : p.msg.hdr.tsxId = hdr.tsxId)
    (hf : p.hasFingerprint = false) (hroom : p.msg.attrs.length < maxAttr) (tail : Bytes) (pos : ℕ) :
    ∃ q : Parse, readAll p (printed ++ tail) pos = readAll q tail (pos + printed.length) ∧
      q.msg.hdr = p.msg.hdr ∧ q.msg.attrs = p.msg.attrs ++ [a.received env hdr] := by
  have hd : findAttrDesc a.type ≠ none := by
    rw [ht]
    decide
  have hnmi : a.type ≠ attrMessageIntegrity := by
    rw [ht]
    decide
  have hnote : p.note a.type = .ok { p with hasFingerprint := true } := by
    rw [Parse.note, if_neg (fun h => hnmi h.1), if_pos ht, if_neg (by simp [hf])]
  obtain ⟨q, hq, hh, ha, -, -⟩ := readAll_attr henc hfit (fun h => absurd h hnmi) (Or.inl hd) hp
    ((if_neg hd).trans hnote) rfl hroom tail pos
  exact ⟨q, hq, hh, ha⟩

lemma Sent.decode (s : Sent env msg key pkt msg') (hfit : pkt.length < 65556)
    (hknown : ∀ a ∈ s.plain, a.Known)
    (hmi : ∀ a ∈ msg.attrs, a.type = attrMessageIntegrity → a.length = 20) (options : DecodeOptions)
    (hcheck : options.checkPacket = true → msgCheck env options pkt = .ok ()) :
    ∃ d : Msg, decode env options pkt = .ok (d, pkt.length) ∧
      d.hdr = { msg.hdr with length := UInt16.ofNat (pkt.length - 20) } ∧
      d.attrs = (s.plain ++ (s.mi ++ s.fp)).map (Attr.received env msg.hdr) := by
  obtain ⟨plain, stop, body, mi, miBytes, fp, fpBytes, hmac, value, _, hattrs, hopen, _, hplain,
    hmi_cases, hmi_prints, hfp_cases, hfp_prints, hfew, hpkt, _, _⟩ := s
  simp only at hknown ⊢
  have hbytes : pkt.length = 20 + (body ++ (miBytes ++ fpBytes)).length := by
    rw [hpkt, List.length_append, headerBytes_length]
  have hsum : (body ++ (miBytes ++ fpBytes)).length =
      body.length + (miBytes.length + fpBytes.length) := by
    simp only [List.length_append]
  simp only [List.length_append] at hfew
  have hdec := decode_packet msg.hdr (body ++ (miBytes ++ fpBytes)) (by omega) options
    (by rwa [← hpkt])
  rw [← hpkt] at hdec
  obtain ⟨q, hq, hh, ha, hm, hf⟩ := readAll_plain hplain hopen hknown (by omega)
    ⟨emptyMsg { msg.hdr with length := UInt16.ofNat (body ++ (miBytes ++ fpBytes)).length },
      false, false⟩ rfl rfl (by simp only [emptyMsg, List.length_nil]; omega)
    (miBytes ++ fpBytes) 20
  replace ha : q.msg.attrs = plain.map (Attr.received env msg.hdr) := ha
  -- the integrity attribute
  obtain ⟨r, hr, hrh, hra, hrf⟩ : ∃ r : Parse,
      readAll q (miBytes ++ fpBytes) (20 + body.length) =
        readAll r fpBytes (20 + body.length + miBytes.length) ∧ r.msg.hdr = q.msg.hdr ∧
      r.msg.attrs = q.msg.attrs ++ mi.map (Attr.received env msg.hdr) ∧
      r.hasFingerprint = false := by
    rcases hmi_cases with ⟨rfl, -⟩ | ⟨a, k, -, hmem, ht, rfl, -⟩
    · cases hmi_prints
      exact ⟨q, by simp, rfl, by simp, hf⟩
    · cases hmi_prints with
      | @cons _ _ room printed bytes head tail =>
        cases tail
        rw [List.append_nil] at *
        have hset : ∀ x, (a.setHmac x).type = a.type ∧ (a.setHmac x).length = a.length := by
          intro x
          simp [Attr.setHmac, ht]
        have hlen := hmi a (by rw [hattrs]; exact List.mem_append_right _ hmem) ht
        rw [List.length_singleton] at hfew
        exact readAll_mi msg.hdr ((hset _).1.trans ht) ((hset _).2.trans hlen) head (by omega)
          (by rw [hh]; rfl) hm hf (by rw [ha, List.length_map]; omega) fpBytes (20 + body.length)
  -- the fingerprint
  obtain ⟨t, htail, hth, hta⟩ : ∃ t : Parse,
      readAll r fpBytes (20 + body.length + miBytes.length) =
        readAll t [] (20 + body.length + miBytes.length + fpBytes.length) ∧ t.msg.hdr = r.msg.hdr ∧
      t.msg.attrs = r.msg.attrs ++ fp.map (Attr.received env msg.hdr) := by
    rcases hfp_cases with ⟨rfl, -⟩ | ⟨a, hmem, ht, rfl⟩
    · cases hfp_prints
      exact ⟨r, by simp, rfl, by simp⟩
    · cases hfp_prints with
      | @cons _ _ room printed bytes head tail =>
        cases tail
        rw [List.append_nil] at *
        have hset : (a.setFingerprint value).type = attrFingerprint := by
          simp [Attr.setFingerprint, ht]
        rw [List.length_singleton] at hfew
        have hlen : r.msg.attrs.length < maxAttr := by
          rw [hra, ha, List.length_append, List.length_map, List.length_map]
          omega
        have := readAll_fp msg.hdr hset head (by omega) (by rw [hrh, hh]; rfl) hrf hlen []
          (20 + body.length + miBytes.length)
        rwa [List.append_nil] at this
  refine ⟨t.msg, ?_, ?_, ?_⟩
  · rw [hdec, hq, hr, htail, readAll_nil]
    congr 2
    omega
  · rw [hth, hrh, hh, hbytes, Nat.add_sub_cancel_left]
    rfl
  · rw [hta, hra, ha]
    simp

end Packet

end PjProject.Stun
