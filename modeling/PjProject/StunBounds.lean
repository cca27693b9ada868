import PjProject.StunBufRefine
import PjProject.StunOrder

/-!
# The bounds of STUN encoding

How a run of `pj_stun_msg_encode` on a buffer ends, told from the sizes of the attributes and
the room alone: with a write past the end, with an error, or with a packet.
-/
namespace PjProject.Stun

open ByteOrder BoundedWrite

/-- The room behind the attributes before the closing ones, and the list from there on, if every
size check passes. -/
def roomLeft : List Attr → ℕ → Option (ℕ × List Attr)
  | [], room => some (room, [])
  | a :: rest, room =>
    if a.closes then some (room, a :: rest)
    else if a.passes room then roomLeft rest (room - u32 a.size)
    else none

def LoopInRoom : List Attr → ℕ → Prop
  | [], _ => True
  | a :: rest, room =>
    a.closes = true ∨
      a.InRoom room ∧ (a.passes room = true → LoopInRoom rest (room - u32 a.size))

section Loop

variable {env : Env} {hdr : MsgHdr}

inductive LoopEnds (attrs : List Attr) (size pos : ℕ) : Written (Bytes × ℕ × List Attr) → Prop
  | overrun (h : ¬ LoopInRoom attrs (size - pos)) : LoopEnds attrs size pos (.error .overrun)
  | refused (e : Status) (h : LoopInRoom attrs (size - pos)) (hleft : roomLeft attrs (size - pos) = none) :
      LoopEnds attrs size pos (.error (.error e))
  | printed (buf : Bytes) (pos' : ℕ) (stop : List Attr) (h : LoopInRoom attrs (size - pos))
      (hlen : buf.length = size) (hlo : pos ≤ pos') (hhi : pos' ≤ size)
      (hleft : roomLeft attrs (size - pos) = some (size - pos', stop)) :
      LoopEnds attrs size pos (.ok (buf, pos', stop))

lemma storeAttrs_ends {attrs : List Attr} {buf : Bytes} {pos : ℕ} (hpos : pos ≤ buf.length) :
    LoopEnds attrs buf.length pos (storeAttrs env hdr attrs buf pos) := by
  induction attrs generalizing buf pos with
  | nil => exact .printed _ _ _ trivial rfl le_rfl hpos rfl
  | cons a rest ih =>
    rw [storeAttrs]
    by_cases hc : a.closes = true
    · rw [if_pos hc]
      exact .printed _ _ _ (Or.inl hc) rfl le_rfl hpos (by rw [roomLeft, if_pos hc])
    · rw [if_neg hc]
      have hends := @storeAttr_ends env hdr a buf pos hpos
      generalize storeAttr env hdr buf pos (u32 (buf.length - pos)) a = r at hends
      cases hends with
      | overrun h => exact .overrun fun hl => h (hl.resolve_left hc).1
      | refused e h hpass =>
        refine .refused e (Or.inr ⟨h, fun hp => ?_⟩) (by rw [roomLeft, if_neg hc, hpass]; rfl)
        rw [hpass] at hp
        cases hp
      | printed bytes h hpass hsize henc =>
        have hfit : a.size ≤ buf.length - pos := h.2 hpass
        have hwrap := u32_le a.size
        have hlen : (splice buf pos bytes).length = buf.length := splice_length (by omega)
        have hroom : buf.length - (pos + u32 a.size) = buf.length - pos - u32 a.size := by omega
        have hleft : roomLeft (a :: rest) (buf.length - pos) =
            roomLeft rest (buf.length - pos - u32 a.size) := by
          rw [roomLeft, if_neg hc, if_pos hpass]
        simp only [ok_bind]
        have hrest := @ih (splice buf pos bytes) (pos + u32 a.size) (by omega)
        rw [hlen] at hrest
        generalize storeAttrs env hdr rest (splice buf pos bytes) (pos + u32 a.size) = r at hrest
        cases hrest with
        | overrun hl =>
          rw [hroom] at hl
          exact .overrun fun h' => hl ((h'.resolve_left hc).2 hpass)
        | refused e hl hnone =>
          rw [hroom] at hl hnone
          exact .refused e (Or.inr ⟨h, fun _ => hl⟩) (by rw [hleft, hnone])
        | printed buf' pos' stop hl hlen' hlo hhi hsome =>
          rw [hroom] at hl hsome
          exact .printed _ _ _ (Or.inr ⟨h, fun _ => hl⟩) hlen' (by omega) hhi (by rw [hleft, hsome])

end Loop

lemma size_of_msgint {a : Attr} (h : a.type = attrMessageIntegrity) : a.size = 24 := by
  rw [closing_size (by simp [Attr.closes, h]), if_pos h]

lemma size_of_fingerprint {a : Attr} (h : a.type = attrFingerprint) : a.size = 8 := by
  rw [closing_size (by simp [Attr.closes, h]), if_neg (by rw [h]; decide)]

lemma closing_sum {stop : List Attr} {m f : ℕ}
    (hm : m = 0 ∨ m = 24 ∧ ∃ a ∈ stop, a.type = attrMessageIntegrity)
    (hf : f = 0 ∨ f = 8 ∧ ∃ a ∈ stop, a.type = attrFingerprint) : m + f ≤ (stop.map Attr.size).sum := by
  rcases hm with rfl | ⟨rfl, a, ha, hat⟩
  · rcases hf with rfl | ⟨rfl, b, hb, hbt⟩
    · exact Nat.zero_le _
    · have := size_le_sum hb
      rw [size_of_fingerprint hbt] at this
      omega
  · rcases hf with rfl | ⟨rfl, b, hb, hbt⟩
    · have := size_le_sum ha
      rw [size_of_msgint hat] at this
      omega
    · have hne : b ≠ a := by
        rintro rfl
        rw [hat] at hbt
        exact absurd hbt (by decide)
      have herase := List.sum_map_erase Attr.size ha
      have := size_le_sum ((List.mem_erase_of_ne hne).2 hb)
      rw [size_of_fingerprint hbt] at this
      rw [size_of_msgint hat] at herase
      omega

variable {msg' : Msg} {pkt : Bytes}

lemma Sent.length_le {env : Env} {msg : Msg} {key : Option Bytes}
    (s : Sent env msg key pkt msg') : pkt.length ≤ 20 + (msg.attrs.map Attr.size).sum := by
  have hmi : s.miBytes.length = 0 ∨
      s.miBytes.length = 24 ∧ ∃ a ∈ s.stop, a.type = attrMessageIntegrity := by
    rw [s.prints_mi.length]
    rcases s.mi_cases with ⟨hnil, -⟩ | ⟨a, k, -, ha, ht, hset, -⟩
    · exact Or.inl (by rw [hnil]; rfl)
    · refine Or.inr ⟨?_, a, ha, ht⟩
      rw [hset, List.map_singleton, List.sum_singleton, size_of_msgint ((setHmac_type ..).trans ht)]
  have hfp : s.fpBytes.length = 0 ∨
      s.fpBytes.length = 8 ∧ ∃ a ∈ s.stop, a.type = attrFingerprint := by
    rw [s.prints_fp.length]
    rcases s.fp_cases with ⟨hnil, -⟩ | ⟨a, ha, ht, hset⟩
    · exact Or.inl (by rw [hnil]; rfl)
    · refine Or.inr ⟨?_, a, ha, ht⟩
      rw [hset, List.map_singleton, List.sum_singleton,
        size_of_fingerprint ((setFingerprint_type ..).trans ht)]
  have hstop := closing_sum hmi hfp
  have hbody := s.prints_plain.length
  have hlen := congrArg List.length s.pkt_eq
  rw [List.length_append, headerBytes_length, List.length_append, List.length_append] at hlen
  rw [s.attrs_eq, List.map_append, List.sum_append]
  omega

section Ends

variable {env : Env} {msg : Msg} {buf : Bytes} {options : ℕ} {key : Option Bytes}

structure Accepted (msg : Msg) (bufSize options : ℕ) (key : Option Bytes) : Prop where
  args : options = 0 ∧ 20 ≤ bufSize
  checks : ∃ left stop c, roomLeft msg.attrs (bufSize - 20) = some (left, stop) ∧
    scanRest stop.tail (stoppedAt stop) = .ok c ∧
    (c.amsgint.isSome → key.isSome ∧ 24 ≤ u32 left) ∧
    (c.afingerprint.isSome → 8 ≤ u32 (left - if c.amsgint.isSome then 24 else 0))

lemma accepted_iff {bufSize left : ℕ} {stop : List Attr} {c : Closing}
    (hargs : options = 0 ∧ 20 ≤ bufSize) (hleft : roomLeft msg.attrs (bufSize - 20) = some (left, stop))
    (hscan : scanRest stop.tail (stoppedAt stop) = .ok c) :
    Accepted msg bufSize options key ↔ (c.amsgint.isSome → key.isSome ∧ 24 ≤ u32 left) ∧
      (c.afingerprint.isSome → 8 ≤ u32 (left - if c.amsgint.isSome then 24 else 0)) := by
  constructor
  · rintro ⟨-, left', stop', c', hleft', hscan', hmi, hfp⟩
    rw [hleft] at hleft'
    cases hleft'
    rw [hscan] at hscan'
    cases hscan'
    exact ⟨hmi, hfp⟩
  · rintro ⟨hmi, hfp⟩
    exact ⟨hargs, left, stop, c, hleft, hscan, hmi, hfp⟩

inductive EncodeEnds (msg : Msg) (bufSize options : ℕ) (key : Option Bytes) :
    Written (Bytes × ℕ × Msg) → Prop
  | overrun (hargs : options = 0 ∧ 20 ≤ bufSize) (h : ¬ LoopInRoom msg.attrs (bufSize - 20)) :
      EncodeEnds msg bufSize options key (.error .overrun)
  | refused (e : Status) (h : options = 0 ∧ 20 ≤ bufSize → LoopInRoom msg.attrs (bufSize - 20))
      (hno : ¬ Accepted msg bufSize options key) : EncodeEnds msg bufSize options key (.error (.error e))
  | printed (out : Bytes) (n : ℕ) (msg' : Msg) (h : LoopInRoom msg.attrs (bufSize - 20))
      (hacc : Accepted msg bufSize options key) (hn : n ≤ bufSize) :
      EncodeEnds msg bufSize options key (.ok (out, n, msg'))

lemma storeMsgInt_ends (env : Env) (key : Option Bytes) {i : ℕ} (c : Closing) {o : Output}
    (hpos : o.pos ≤ o.buf.length) (hi : o.msg.attrs.length ≤ i) (hi' : i ≤ o.msg.attrs.length + 1) :
    (∃ o', storeMsgInt env key i c o = .ok (c, o') ∧ o'.buf.length = o.buf.length ∧
      o'.pos = o.pos + (if c.amsgint.isSome then 24 else 0) ∧ o'.pos ≤ o.buf.length ∧
      (c.amsgint.isSome → key.isSome ∧ 24 ≤ u32 o.room)) ∨
    ∃ e, storeMsgInt env key i c o = .error (.error e) ∧
      ¬ (c.amsgint.isSome → key.isSome ∧ 24 ≤ u32 o.room) := by
  cases hc : c.amsgint with
  | none => exact Or.inl ⟨o, by simp only [storeMsgInt, hc], rfl, by simp, hpos, by simp⟩
  | some a =>
    cases hk : key with
    | none => exact Or.inr ⟨.invalidOp, by simp only [storeMsgInt, hc], by simp⟩
    | some k =>
      have hcheck : lift (checkMsgIntPos o.msg.attrs i c) = .ok c := by
        rw [checkMsgIntPos_ok o.msg.attrs_le hi hi']
        rfl
      simp only [storeMsgInt, hc, hcheck, ok_bind, storeMsgintAttr_eq]
      by_cases hlen : u32 o.room < 24
      · rw [if_pos hlen]
        refine Or.inr ⟨.tooSmall, rfl, ?_⟩
        intro h
        have := (h rfl).2
        omega
      · have hroom := u32_le o.room
        have hfit : o.pos + 24 ≤ o.buf.length := by
          unfold Output.room at hlen hroom
          omega
        have hbytes : ∀ hmac : Fixed 20,
            o.pos + (put16 a.type ++ put16 a.length ++ hmac.1).length ≤ o.buf.length := by
          intro hmac
          simpa [hmac.2] using hfit
        rw [if_neg hlen, put_ok (hbytes _)]
        refine Or.inl ⟨_, rfl, splice_length (hbytes _), by simp, hfit, ?_⟩
        intro _
        exact ⟨rfl, Nat.not_lt.1 hlen⟩

lemma storeFingerprint_ends (env : Env) (c : Closing) {o : Output} (hpos : o.pos ≤ o.buf.length)
    (hhdr : 20 ≤ o.pos) : (∃ o', storeFingerprint env c o = .ok o' ∧ o'.pos ≤ o.buf.length ∧
      (c.afingerprint.isSome → 8 ≤ u32 o.room)) ∨
    ∃ e, storeFingerprint env c o = .error (.error e) ∧ ¬ (c.afingerprint.isSome → 8 ≤ u32 o.room) := by
  cases hc : c.afingerprint with
  | none => exact Or.inl ⟨o, by simp only [storeFingerprint, hc], hpos, by simp⟩
  | some a =>
    have hfield : ∀ l : UInt16, 2 + (put16 l).length ≤ o.buf.length := by
      intro l
      rw [put16_length]
      omega
    simp only [storeFingerprint, hc, put_ok (hfield _), ok_bind, storeUintAttr_eq]
    by_cases hlen : u32 o.room < 8
    · rw [if_pos hlen]
      refine Or.inr ⟨.tooSmall, rfl, ?_⟩
      intro h
      have := h rfl
      omega
    · have hroom := u32_le o.room
      have hfit : o.pos + 8 ≤ o.buf.length := by
        unfold Output.room at hlen hroom
        omega
      rw [if_neg hlen, put_ok (by rw [splice_length (hfield _)]; simpa using hfit)]
      exact Or.inl ⟨_, rfl, hfit, fun _ => Nat.not_lt.1 hlen⟩

lemma encodeTo_ends (env : Env) (msg : Msg) (buf : Bytes) (options : ℕ) (key : Option Bytes) :
    EncodeEnds msg buf.length options key (encodeTo env msg buf options key) := by
  unfold encodeTo
  by_cases hargs : buf.length = 0 ∨ options ≠ 0
  · rw [if_pos hargs]
    exact .refused .inval (fun h => by omega) fun h => by
      have := h.args
      omega
  rw [if_neg hargs]
  by_cases hsmall : buf.length < 20
  · rw [if_pos hsmall]
    exact .refused .tooSmall (fun h => by omega) fun h => by
      have := h.args
      omega
  rw [if_neg hsmall, storeHeader_eq (by omega), ok_bind]
  have hok : options = 0 ∧ 20 ≤ buf.length := by omega
  have hlen : (headerBytes msg.hdr 0 ++ buf.drop 20).length = buf.length := by
    rw [List.length_append, headerBytes_length, List.length_drop]
    omega
  have hloop := @storeAttrs_ends env msg.hdr msg.attrs (headerBytes msg.hdr 0 ++ buf.drop 20) 20
    (by omega)
  rw [hlen] at hloop
  generalize storeAttrs env msg.hdr msg.attrs (headerBytes msg.hdr 0 ++ buf.drop 20) 20 = r at hloop
  cases hloop with
  | overrun h => exact .overrun hok h
  | refused e h hleft =>
    refine .refused e (fun _ => h) ?_
    rintro ⟨-, left, stop, c, hsome, -⟩
    rw [hleft] at hsome
    cases hsome
  | printed buf₁ pos stop h hlen₁ hlo hhi hleft =>
    simp only [ok_bind]
    cases hscan : scanRest stop.tail (stoppedAt stop) with
    | error e =>
      refine .refused e (fun _ => h) ?_
      rintro ⟨-, left, stop', c, hsome, hc, -⟩
      rw [hleft] at hsome
      cases hsome
      rw [hscan] at hc
      cases hc
    | ok c =>
      have hacc := @accepted_iff msg options key _ _ _ _ hok hleft hscan
      have hfield : ∀ l : UInt16, 2 + (put16 l).length ≤ buf₁.length := by
        intro l
        rw [put16_length]
        omega
      have hi : msg.attrs.length ≤ (if stop = [] then msg.attrs.length + 1 else msg.attrs.length) ∧
          (if stop = [] then msg.attrs.length + 1 else msg.attrs.length) ≤ msg.attrs.length + 1 := by
        split_ifs <;> omega
      simp only [lift_ok, ok_bind, storeLength, put_ok (hfield _)]
      obtain ⟨buf₂, hbuf⟩ : ∃ b, splice buf₁ 2 (put16 (UInt16.ofNat (if c.amsgint.isSome then
        pos - 20 + 24 else pos - 20))) = b := ⟨_, rfl⟩
      have hlen₂ : buf₂.length = buf.length := by rw [← hbuf, splice_length (hfield _), hlen₁]
      have hroom : Output.room ⟨buf₂, pos, msg⟩ = buf.length - pos := by rw [Output.room, hlen₂]
      rw [hbuf]
      have hmsg := @storeMsgInt_ends env key _ c ⟨buf₂, pos, msg⟩ (by rw [hlen₂]; exact hhi) hi.1 hi.2
      rw [hroom] at hmsg
      rcases hmsg with ⟨o, ho, holen, hopos, hole, hmi⟩ | ⟨e, he, hno⟩
      · have hroom' : o.room = buf.length - pos - if c.amsgint.isSome then 24 else 0 := by
          rw [Output.room, holen, hopos, hlen₂, Nat.sub_sub]
        have hhdr : 20 ≤ o.pos := by
          rw [hopos]
          exact le_trans hlo (Nat.le_add_right ..)
        rw [ho, ok_bind]
        have hfin := storeFingerprint_ends env c (o := o) (by rw [holen]; exact hole) hhdr
        rw [hroom'] at hfin
        rcases hfin with ⟨o', ho', hole', hfp⟩ | ⟨e, he, hno⟩
        · rw [ho', ok_bind]
          rw [holen, hlen₂] at hole'
          exact .printed _ _ _ h (hacc.2 ⟨hmi, hfp⟩) hole'
        · rw [he, error_bind]
          exact .refused e (fun _ => h) fun h' => hno (hacc.1 h').2
      · rw [he, error_bind]
        exact .refused e (fun _ => h) fun h' => hno (hacc.1 h').1

end Ends

/-- No write past the end; a packet is given only for a message that fits, in the buffer and in
the length field, and that field counts it. -/
structure Bounded (msg : Msg) (bufSize : ℕ) (r : Written (Bytes × ℕ × Msg)) : Prop where
  inside : r ≠ .error .overrun
  whole : ∀ out n msg', r = .ok (out, n, msg') →
    20 + (msg.attrs.map Attr.size).sum ≤ bufSize ∧ (msg.attrs.map Attr.size).sum ≤ 65535
  counted : ∀ out n msg', r = .ok (out, n, msg') → (get16 out 2).toNat + 20 = n

/-- The condition on a call: no attribute is written past the room, and where every check passes, the
body fits in the length field and the attributes that are dropped fit in the buffer. -/
structure Sized (msg : Msg) (bufSize options : ℕ) (key : Option Bytes) : Prop where
  reached : options = 0 → 20 ≤ bufSize → LoopInRoom msg.attrs (bufSize - 20)
  body : Accepted msg bufSize options key → (msg.attrs.map Attr.size).sum ≤ 65535
  dropped : Accepted msg bufSize options key → Drops msg.attrs →
    20 + (msg.attrs.map Attr.size).sum ≤ bufSize

lemma fill_size (hmac : Fixed 20) (value : UInt32) (a : Attr) : (a.fill hmac value).size = a.size := by
  have hmi : (a.setHmac hmac).size = a.size := by
    by_cases h : a.type = attrMessageIntegrity
    · rw [size_of_msgint h, size_of_msgint ((setHmac_type ..).trans h)]
    · rw [setHmac_of_ne _ h]
  by_cases h : (a.setHmac hmac).type = attrFingerprint
  · rw [Attr.fill, size_of_fingerprint ((setFingerprint_type ..).trans h), ← hmi, size_of_fingerprint h]
  · rw [Attr.fill, setFingerprint_of_ne _ h, hmi]

lemma Complete.length {env : Env} {msg : Msg} (h : Complete env msg pkt msg') :
    pkt.length = 20 + (msg.attrs.map Attr.size).sum := by
  obtain ⟨hmac, value, hfill⟩ := h.filled
  obtain ⟨length, bytes, hpkt, hprints⟩ := h.printed
  have hsizes : msg'.attrs.map Attr.size = msg.attrs.map Attr.size := by
    rw [hfill, List.map_map]
    exact List.map_congr_left fun a _ => fill_size hmac value a
  rw [hpkt, List.length_append, headerBytes_length, hprints.length, hsizes]

lemma Sent.length_field {env : Env} {msg : Msg} {key : Option Bytes}
    (s : Sent env msg key pkt msg') (hsum : (msg.attrs.map Attr.size).sum ≤ 65535) (rest : Bytes) :
    (get16 (pkt ++ rest) 2).toNat + 20 = pkt.length := by
  have hle := s.length_le
  have hlen := congrArg List.length s.pkt_eq
  rw [List.length_append, headerBytes_length] at hlen
  have hfield : get16 (pkt ++ rest) 2 =
      UInt16.ofNat (s.body ++ (s.miBytes ++ s.fpBytes)).length := by
    have := congrArg MsgHdr.length (readHeader_headerBytes msg.hdr
      (UInt16.ofNat (s.body ++ (s.miBytes ++ s.fpBytes)).length)
      ((s.body ++ (s.miBytes ++ s.fpBytes)) ++ rest))
    rw [← List.append_assoc, ← s.pkt_eq] at this
    exact this
  rw [hfield, toNat_ofNat16 (by omega)]
  omega

/-- A call is within its bounds exactly if its sizes meet the condition. -/
theorem encodeTo_bounded_iff (env : Env) (msg : Msg) (buf : Bytes) (options : ℕ) (key : Option Bytes) :
    Bounded msg buf.length (encodeTo env msg buf options key) ↔ Sized msg buf.length options key := by
  have hends := encodeTo_ends env msg buf options key
  constructor
  · intro h
    generalize encodeTo env msg buf options key = r at hends h
    cases hends with
    | overrun => exact absurd rfl h.inside
    | refused e hin hno =>
      exact ⟨fun ho hb => hin ⟨ho, hb⟩, fun hacc => absurd hacc hno, fun hacc => absurd hacc hno⟩
    | printed out n msg' hin _ _ =>
      obtain ⟨hbuf, hbody⟩ := h.whole _ _ _ rfl
      exact ⟨fun _ _ => hin, fun _ => hbody, fun _ _ => hbuf⟩
  · rintro ⟨hin, hbody, hdropped⟩
    refine ⟨?_, ?_, ?_⟩
    · intro h
      rw [h] at hends
      cases hends with
      | overrun hargs hno => exact hno (hin hargs.1 hargs.2)
    · intro out n msg' h
      rw [h] at hends
      cases hends with
      | printed _ _ _ _ hacc hn =>
        have hsum := hbody hacc
        refine ⟨?_, hsum⟩
        obtain ⟨pkt, henc, rfl, rfl⟩ := encodeTo_encodes (by omega) h
        rcases closed_or_drops henc with ⟨plain, closing, hattrs, hopen, hclosing⟩ | hdrops
        · rw [(complete_of_closed henc hattrs hopen hclosing).length] at hn
          exact hn
        · exact hdropped hacc hdrops
    · intro out n msg' h
      rw [h] at hends
      cases hends with
      | printed _ _ _ _ hacc _ =>
        have hsum := hbody hacc
        obtain ⟨pkt, henc, rfl, rfl⟩ := encodeTo_encodes (by omega) h
        obtain ⟨s⟩ := encode_sent henc
        exact s.length_field hsum _

def mappedMsg : Msg :=
  singleMsg ⟨0x0001, 8, .sockaddr false (.inet 3478 ⟨[10, 0, 0, 2], rfl⟩), rfl⟩

/-- The type of the attribute is written behind the buffer. -/
theorem mapped_overruns : encodeTo constantEnv mappedMsg (List.replicate 20 0) 0 none = .error .overrun ∧
    ¬ Bounded mappedMsg 20 (encodeTo constantEnv mappedMsg (List.replicate 20 0) 0 none) := by
  have hrun : encodeTo constantEnv mappedMsg (List.replicate 20 0) 0 none = .error .overrun := by
    decide
  exact ⟨hrun, fun h => h.inside hrun⟩

end PjProject.Stun
