import PjProject.StunLaw

/-!
# Checking one's own packets

The packet of `pj_stun_msg_encode` in closed form, and when `pj_stun_msg_check` accepts it. The check
looks for a fingerprint at a fixed distance from the end, also where the message has none.
-/
namespace PjProject.Stun
open ByteOrder

section Packet

variable (env : Env) (msg : Msg) (key : Option Bytes)

def printedAttr (hdr : MsgHdr) (a : Attr) : Bytes := (encodeAttr env hdr a.size a).toOption.getD []

def plainBytes : Bytes := (msg.attrs.takeWhile fun a => !a.closes).flatMap (printedAttr env msg.hdr)

def Msg.msgInt : Option Attr := msg.attrs.find? fun a => a.type = attrMessageIntegrity

def Msg.hasFingerprint : Bool := msg.attrs.any fun a => a.type = attrFingerprint

def msgIntBytes : Bytes :=
  match msg.msgInt with
  | none => []
  | some a =>
    put16 a.type ++ put16 a.length ++ (env.hmacSha1 (key.getD [])
      (headerBytes msg.hdr (UInt16.ofNat ((plainBytes env msg).length + 24)) ++ plainBytes env msg)).1

def bodyBytes : Bytes := plainBytes env msg ++ msgIntBytes env msg key

def bodyLength : ℕ := (bodyBytes env msg key).length + if msg.hasFingerprint then 8 else 0

def frontBytes : Bytes := headerBytes msg.hdr (UInt16.ofNat (bodyLength env msg key)) ++ bodyBytes env msg key

def fingerprintOf (front : Bytes) : Bytes :=
  put16 attrFingerprint ++ put16 4 ++ put32 (env.crc32 front ^^^ xorFingerprint)

end Packet

section Encoded

variable {env : Env} {hdr : MsgHdr} {msg msg' : Msg} {key : Option Bytes} {room : ℕ}

lemma printedAttr_of {a : Attr} {printed : Bytes} (h : encodeAttr env hdr room a = .ok printed) :
    printed = printedAttr env hdr a := by
  obtain ⟨printed', hlen, hp⟩ := encodeAttr_size env hdr (encodable_of_encodeAttr h)
  have hroom := hp a.size
  rw [if_neg (lt_irrefl _)] at hroom
  rw [hp] at h
  split_ifs at h
  rw [printedAttr, hroom, ← Except.ok.inj h]
  rfl

lemma size_mod (a : Attr) : a.size % 4 = 0 := by
  have := align4_mod a.val.initLength
  unfold Attr.size
  omega

lemma encodeAttrs_bytes {attrs stop : List Attr} {left : ℕ} {body : Bytes}
    (h : encodeAttrs env hdr attrs room = .ok (body, left, stop)) :
    body = (attrs.takeWhile fun a => !a.closes).flatMap (printedAttr env hdr) ∧
      stop = attrs.dropWhile (fun a => !a.closes) ∧ body.length % 4 = 0 := by
  induction attrs generalizing room body left stop with
  | nil =>
    cases h
    exact ⟨rfl, rfl, rfl⟩
  | cons a attrs ih =>
    rw [encodeAttrs] at h
    split_ifs at h with hc
    · cases h
      simp [hc]
    · obtain ⟨printed, hp, h⟩ := BoundedRead.of_bind h
      obtain ⟨⟨body', left', stop'⟩, hrest, h⟩ := BoundedRead.of_bind h
      cases h
      obtain ⟨rfl, rfl, hmod⟩ := ih hrest
      have hlen := encodeAttr_length hp
      have hsize := size_mod a
      refine ⟨?_, ?_, ?_⟩
      · simp [hc, printedAttr_of hp]
      · simp [hc]
      · rw [List.length_append]
        omega

lemma closes_of_type {a : Attr} (h : a.type = attrMessageIntegrity ∨ a.type = attrFingerprint) : a.closes = true := by
  simpa [Attr.closes] using h

lemma find_msgInt (attrs : List Attr) : attrs.find? (fun a => a.type = attrMessageIntegrity) =
      (attrs.dropWhile fun a => !a.closes).find? (fun a => a.type = attrMessageIntegrity) := by
  induction attrs with
  | nil => rfl
  | cons a attrs ih =>
    by_cases hc : a.closes = true
    · simp [hc]
    · have ht : ¬ a.type = attrMessageIntegrity := fun h => hc (closes_of_type (.inl h))
      simp [hc, ht, ih]

lemma any_fingerprint (attrs : List Attr) : attrs.any (fun a => a.type = attrFingerprint) =
      (attrs.dropWhile fun a => !a.closes).any (fun a => a.type = attrFingerprint) := by
  induction attrs with
  | nil => rfl
  | cons a attrs ih =>
    by_cases hc : a.closes = true
    · simp [hc]
    · have ht : ¬ a.type = attrFingerprint := fun h => hc (closes_of_type (.inr h))
      simp [hc, ht, ih]

variable {c : Closing}

lemma scan_finds {stop : List Attr} (hhead : ∀ a ∈ stop.head?, a.closes = true)
    (h : scanRest stop.tail (stoppedAt stop) = .ok c) :
    c.amsgint = stop.find? (fun a => a.type = attrMessageIntegrity) ∧
      c.afingerprint.isSome = stop.any (fun a => a.type = attrFingerprint) := by
  obtain ⟨-, hfp, hnomi, hnofp⟩ := scan_stop hhead h
  constructor
  · cases stop with
    | nil =>
      cases h
      rfl
    | cons b rest =>
      by_cases ht : b.type = attrMessageIntegrity
      · obtain ⟨-, hkeep, -, -⟩ := scanRest_ok h
        simp only [stoppedAt, if_pos ht] at hkeep
        rw [hkeep rfl]
        simp [ht]
      · obtain ⟨hlast, -, -, -⟩ := scanRest_ok h
        simp only [stoppedAt, if_neg ht] at hlast
        obtain ⟨hnil, rfl⟩ := hlast rfl
        obtain rfl : rest = [] := hnil
        simp [ht]
  · cases hc : c.afingerprint with
    | none => simpa using hnofp hc
    | some f =>
      obtain ⟨hmem, ht⟩ := hfp f hc
      simpa using ⟨f, hmem, ht⟩

lemma putMsgInt_bytes {i : ℕ} {c' : Closing} {d : Draft} (hi : msg.attrs.length ≤ i)
    (hi' : i ≤ msg.attrs.length + 1) (hmi : c.amsgint = msg.msgInt)
    (h : putMsgInt env key i c (draft msg c (plainBytes env msg) room) = .ok (c', d)) :
    c' = c ∧ d.body = bodyBytes env msg key ∧ d.length = UInt16.ofNat (bodyBytes env msg key).length ∧
      d.msg.hdr = msg.hdr := by
  obtain ⟨rfl, hlen, hhdr, hcase⟩ := putMsgInt_ok hi hi' h
  rw [hmi] at hcase
  refine ⟨rfl, ?_, ?_, hhdr⟩ <;> rcases hcase with ⟨hno, rfl⟩ | ⟨a, k, printed, ha, rfl, hp, hbody, -⟩
  · simp [bodyBytes, msgIntBytes, hno, draft]
  · have hbytes : (draft msg c' (plainBytes env msg) room).bytes =
        headerBytes msg.hdr (UInt16.ofNat ((plainBytes env msg).length + 24)) ++ plainBytes env msg := by
      simp [Draft.bytes, draft, hmi, ha]
    unfold encodeMsgintAttr at hp
    split_ifs at hp
    rw [hbody, ← Except.ok.inj hp, hbytes]
    simp [bodyBytes, msgIntBytes, ha, draft]
  · simp [bodyBytes, msgIntBytes, hno, draft, hmi]
  · have hprinted := encodeMsgintAttr_length hp
    rw [hlen, bodyBytes, List.length_append]
    simp [draft, hmi, ha, msgIntBytes, (env.hmacSha1 _ _).2]

lemma putFingerprint_bytes {d d' : Draft} (hfp : c.afingerprint.isSome = msg.hasFingerprint)
    (htype : ∀ a, c.afingerprint = some a → a.type = attrFingerprint) (hbody : d.body = bodyBytes env msg key)
    (hlen : d.length = UInt16.ofNat (bodyBytes env msg key).length) (hhdr : d.msg.hdr = msg.hdr)
    (h : putFingerprint env c d = .ok d') : d'.bytes = frontBytes env msg key ++
      (if msg.hasFingerprint then fingerprintOf env (frontBytes env msg key) else []) := by
  cases hc : c.afingerprint with
  | none =>
    rw [hc, Option.isSome_none] at hfp
    simp only [putFingerprint, hc] at h
    cases h
    simp [Draft.bytes, frontBytes, bodyLength, hbody, hlen, hhdr, ← hfp]
  | some a =>
    rw [hc, Option.isSome_some] at hfp
    simp only [putFingerprint, hc] at h
    obtain ⟨printed, hp, h⟩ := BoundedRead.of_bind h
    cases h
    unfold encodeUintAttr at hp
    split_ifs at hp
    have hcount : UInt16.ofNat (d.length.toNat + 8) = UInt16.ofNat (bodyLength env msg key) := by
      apply UInt16.toNat_inj.1
      rw [hlen, bodyLength, ← hfp, UInt16.toNat_ofNat', UInt16.toNat_ofNat', UInt16.toNat_ofNat', if_pos rfl]
      omega
    simp only [← Except.ok.inj hp, Draft.bytes, Msg.mapAttrs, htype a hc, hcount, hbody, hhdr, ← hfp, if_pos,
      frontBytes, fingerprintOf, List.append_assoc]

lemma encode_bytes {bufSize options : ℕ} {pkt : Bytes} (h : encode env msg bufSize options key = .ok (pkt, msg')) :
    pkt = frontBytes env msg key ++
      (if msg.hasFingerprint then fingerprintOf env (frontBytes env msg key) else []) ∧
    (bodyBytes env msg key).length % 4 = 0 := by
  unfold encode at h
  split_ifs at h with h1 h2
  obtain ⟨⟨body, room, stop⟩, hloop, h⟩ := BoundedRead.of_bind h
  obtain ⟨c, hscan, h⟩ := BoundedRead.of_bind h
  obtain ⟨⟨c', d⟩, hput, h⟩ := BoundedRead.of_bind h
  obtain ⟨d', hfin, h⟩ := BoundedRead.of_bind h
  cases h
  obtain ⟨rfl, hstop, hmod⟩ := encodeAttrs_bytes hloop
  obtain ⟨plain, -, -, -, hhead⟩ := encodeAttrs_prints hloop
  obtain ⟨hmi, hfp⟩ := scan_finds hhead hscan
  obtain ⟨-, htype, -, -⟩ := scan_stop hhead hscan
  have hi : msg.attrs.length ≤ (if stop = [] then msg.attrs.length + 1 else msg.attrs.length) ∧
      (if stop = [] then msg.attrs.length + 1 else msg.attrs.length) ≤ msg.attrs.length + 1 := by
    split_ifs <;> omega
  rw [hstop, ← find_msgInt] at hmi
  rw [hstop, ← any_fingerprint] at hfp
  obtain ⟨rfl, hbody, hlen, hhdr⟩ := putMsgInt_bytes hi.1 hi.2 hmi hput
  refine ⟨putFingerprint_bytes hfp (fun a ha => (htype a ha).2) hbody hlen hhdr hfin, ?_⟩
  have hmsgint : (msgIntBytes env msg key).length % 4 = 0 := by
    unfold msgIntBytes
    cases msg.msgInt <;> simp [(env.hmacSha1 _ _).2]
  rw [bodyBytes, List.length_append]
  change (plainBytes env msg).length % 4 = 0 at hmod
  omega

end Encoded

section Check

variable {env : Env}

def FalseFingerprint (env : Env) (pkt : Bytes) : Prop :=
  get16 pkt (pkt.length - 8) = attrFingerprint ∧
    (get16 pkt (pkt.length - 6) ≠ 4 ∨
      env.crc32 (pkt.take (pkt.length - 8)) ^^^ xorFingerprint ≠ get32 pkt (pkt.length - 4))

instance (env : Env) (pkt : Bytes) : Decidable (FalseFingerprint env pkt) :=
  inferInstanceAs (Decidable (_ ∧ (_ ∨ _)))

lemma firstByte_iff (type : UInt16) (rest : Bytes) :
    (byteAt (put16 type ++ rest) 0 = 0 ∨ byteAt (put16 type ++ rest) 0 = 1) ↔ type.toNat < 512 := by
  have hlt := type.toNat_lt
  have hb : byteAt (put16 type ++ rest) 0 = UInt8.ofNat (type.toNat / 256) := rfl
  rw [hb, ← UInt8.toNat_inj, ← UInt8.toNat_inj, UInt8.toNat_ofNat', UInt8.toNat_zero, UInt8.toNat_one]
  omega

lemma msgCheck_packet (hdr : MsgHdr) (body : Bytes) (checkPacket : Bool) (hmod : body.length % 4 = 0) :
    msgCheck env ⟨true, checkPacket, false⟩ (headerBytes hdr (UInt16.ofNat body.length) ++ body) = .ok () ↔
      hdr.type.toNat < 512 ∧ body.length < 65536 ∧
      (hdr.magic = stunMagic → ¬ FalseFingerprint env (headerBytes hdr (UInt16.ofNat body.length) ++ body)) := by
  have hh := readHeader_headerBytes hdr (UInt16.ofNat body.length) body
  have hlen : get16 (headerBytes hdr (UInt16.ofNat body.length) ++ body) 2 = UInt16.ofNat body.length :=
    congrArg MsgHdr.length hh
  have hmagic : get32 (headerBytes hdr (UInt16.ofNat body.length) ++ body) 4 = hdr.magic := congrArg MsgHdr.magic hh
  have htype := firstByte_iff hdr.type
    (put16 (UInt16.ofNat body.length) ++ (put32 hdr.magic ++ (hdr.tsxId.1 ++ body)))
  have hsplit : put16 hdr.type ++ (put16 (UInt16.ofNat body.length) ++ (put32 hdr.magic ++ (hdr.tsxId.1 ++ body))) =
      headerBytes hdr (UInt16.ofNat body.length) ++ body := by
    simp [headerBytes]
  have hall : (headerBytes hdr (UInt16.ofNat body.length) ++ body).length = 20 + body.length := by
    rw [List.length_append, headerBytes_length]
  rw [hsplit] at htype
  generalize headerBytes hdr (UInt16.ofNat body.length) ++ body = pkt at *
  unfold msgCheck
  simp only [hlen, hmagic, hall]
  rw [if_neg (by omega)]
  by_cases ht : hdr.type.toNat < 512
  · rw [if_neg (by rw [← not_or, not_not]; exact htype.2 ht)]
    by_cases hfit : body.length < 65536
    · rw [toNat_ofNat16 hfit, if_neg (by omega), if_neg (by omega)]
      have h12 : body.length + 12 = pkt.length - 8 := by omega
      have h14 : body.length + 14 = pkt.length - 6 := by omega
      have h16 : body.length + 16 = pkt.length - 4 := by omega
      rw [h12, h14, h16]
      by_cases hlook : hdr.magic = stunMagic ∧ get16 pkt (pkt.length - 8) = attrFingerprint
      · rw [if_pos ⟨hlook.1, trivial, hlook.2⟩]
        split_ifs with hl hcrc
        · exact iff_of_false (by simp) fun h => h.2.2 hlook.1 ⟨hlook.2, .inl hl⟩
        · exact iff_of_false (by simp) fun h => h.2.2 hlook.1 ⟨hlook.2, .inr hcrc⟩
        · exact iff_of_true rfl ⟨ht, hfit, fun _ h => h.2.elim hl hcrc⟩
      · rw [if_neg fun h => hlook ⟨h.1, h.2.2⟩]
        exact iff_of_true rfl ⟨ht, hfit, fun hm h => hlook ⟨hm, h.1⟩⟩
    · rw [if_pos]
      · exact iff_of_false (by simp) fun h => hfit h.2.1
      · refine .inr ⟨trivial, ?_⟩
        rw [UInt16.toNat_ofNat']
        omega
  · rw [if_pos (by rw [← not_or, htype]; exact ht)]
    exact iff_of_false (by simp) fun h => ht h.1

lemma not_falseFingerprint (env : Env) (front : Bytes) : ¬ FalseFingerprint env (front ++ fingerprintOf env front) := by
  have hlen : (front ++ fingerprintOf env front).length = front.length + 8 := by
    simp [fingerprintOf]
  have hbehind : ∀ i, get16 (front ++ fingerprintOf env front) (front.length + i) = get16 (fingerprintOf env front) i := by
    intro i
    rw [get16_append_right _ _ _ (by omega), Nat.add_sub_cancel_left]
  have hlength : get16 (front ++ fingerprintOf env front) (front.length + 2) = 4 := by
    rw [hbehind, fingerprintOf, List.append_assoc, get16_append_right _ _ _ (by simp)]
    exact get16_put16 4 _
  have hvalue : get32 (front ++ fingerprintOf env front) (front.length + 4) = env.crc32 front ^^^ xorFingerprint := by
    rw [get32_append_right _ _ _ (by omega), Nat.add_sub_cancel_left, fingerprintOf,
      get32_append_right _ _ _ (by simp)]
    have := get32_put32 (env.crc32 front ^^^ xorFingerprint) []
    rwa [List.append_nil] at this
  rintro ⟨-, hwrong⟩
  rw [hlen, show front.length + 8 - 8 = front.length by omega, show front.length + 8 - 6 = front.length + 2 by omega,
    show front.length + 8 - 4 = front.length + 4 by omega, List.take_left, hlength, hvalue] at hwrong
  simp at hwrong

end Check

/-- Whether a message's packet passes the check: the type is one of STUN, the length is not cut, and without
a fingerprint the last eight bytes of the packet do not start like one that is wrong. -/
def PassesCheck (env : Env) (msg : Msg) (key : Option Bytes) : Prop :=
  msg.hdr.type.toNat < 512 ∧ bodyLength env msg key < 65536 ∧
    (msg.hasFingerprint = false → msg.hdr.magic = stunMagic → ¬ FalseFingerprint env (frontBytes env msg key))

/-- The check accepts exactly these packets of the encoder. -/
theorem own_packet_iff (env : Env) {msg msg' : Msg} {key : Option Bytes} {bufSize options : ℕ} {pkt : Bytes}
    (h : encode env msg bufSize options key = .ok (pkt, msg')) (checkPacket : Bool) :
    msgCheck env ⟨true, checkPacket, false⟩ pkt = .ok () ↔ PassesCheck env msg key := by
  obtain ⟨rfl, hmod⟩ := encode_bytes h
  unfold PassesCheck
  cases hfp : msg.hasFingerprint with
  | false =>
    have hlen : bodyLength env msg key = (bodyBytes env msg key).length := by simp [bodyLength, hfp]
    rw [if_neg (by simp), List.append_nil, frontBytes, hlen, msgCheck_packet _ _ _ hmod]
    simp
  | true =>
    have hlen : bodyLength env msg key = (bodyBytes env msg key ++ fingerprintOf env (frontBytes env msg key)).length := by
      simp [bodyLength, hfp, fingerprintOf]
    have hpkt : frontBytes env msg key ++ fingerprintOf env (frontBytes env msg key) =
        headerBytes msg.hdr (UInt16.ofNat (bodyBytes env msg key ++ fingerprintOf env (frontBytes env msg key)).length) ++
          (bodyBytes env msg key ++ fingerprintOf env (frontBytes env msg key)) := by
      rw [← hlen, ← List.append_assoc]
      rfl
    have hno := not_falseFingerprint env (frontBytes env msg key)
    rw [if_pos rfl, hpkt, msgCheck_packet, ← hpkt, ← hlen]
    · simp [hno]
    · rw [← hlen, bodyLength, hfp, if_pos rfl]
      omega

/-- A message of no attributes is accepted. -/
theorem plain_packet_accepted : ∃ pkt msg', encode constantEnv (emptyMsg (sampleHdr stunMagic)) 100 0 none = .ok (pkt, msg') ∧
    msgCheck constantEnv ⟨true, true, false⟩ pkt = .ok () :=
  ⟨_, _, rfl, (own_packet_iff constantEnv (rfl : encode constantEnv (emptyMsg (sampleHdr stunMagic)) 100 0 none = _)
    true).2 ⟨by decide, by decide, fun _ _ => by decide⟩⟩

def unluckyHdr : MsgHdr := ⟨0x0001, 0, stunMagic, ⟨[1, 2, 3, 4, 0x80, 0x28, 5, 6, 7, 8, 9, 10], rfl⟩⟩

theorem unlucky_packet_refused : ∃ pkt msg', encode constantEnv (emptyMsg unluckyHdr) 100 0 none = .ok (pkt, msg') ∧
    msgCheck constantEnv ⟨true, true, false⟩ pkt = .error .inAttrLen :=
  ⟨_, _, rfl, by decide⟩

end PjProject.Stun
