import PjProject.StunLaw

/-!
# The order of STUN attributes

The lists that the two loops of `pj_stun_msg_encode` let through, and which of them have
attributes that do not reach the packet.
-/
namespace PjProject.Stun

/-- Every attribute of the message is in the packet, once and in the order of the message,
and nothing but the fingerprint follows MESSAGE-INTEGRITY. -/
structure Complete (env : Env) (msg : Msg) (pkt : Bytes) (msg' : Msg) : Prop where
  filled : ∃ hmac value, msg'.attrs = msg.attrs.map (Attr.fill hmac value)
  printed : ∃ length bytes, pkt = headerBytes msg.hdr length ++ bytes ∧
    Prints env msg.hdr msg'.attrs bytes
  closed : ∃ plain closing, msg.attrs = plain ++ closing ∧ (∀ a ∈ plain, a.closes = false) ∧
    ClosingAttrs closing

/-- Attributes between MESSAGE-INTEGRITY and the end, or the fingerprint at the end, which
neither loop writes and no check refuses. -/
def Drops (attrs : List Attr) : Prop :=
  ∃ plain mi mid fp, attrs = plain ++ mi :: (mid ++ fp) ∧
    (∀ a ∈ plain, a.closes = false ∧ a.encodable = true) ∧ mi.type = attrMessageIntegrity ∧
    mid ≠ [] ∧ (∀ a ∈ mid, a.closes = false) ∧ (fp = [] ∨ ∃ f, fp = [f] ∧ f.type = attrFingerprint)

section Scan

variable {mi : Attr} {c : Closing}

lemma scanRest_skip {mid : List Attr} (h : ∀ a ∈ mid, a.closes = false) (fp : List Attr) :
    scanRest (mid ++ fp) ⟨some mi, none⟩ = scanRest fp ⟨some mi, none⟩ := by
  induction mid with
  | nil => rfl
  | cons a mid ih =>
    have ha := h a (List.mem_cons_self ..)
    simp only [Attr.closes, decide_eq_false_iff_not, not_or] at ha
    rw [List.cons_append, scanRest, if_neg (by simp), if_neg ha.1, if_neg ha.2]
    exact ih fun b hb => h b (List.mem_cons_of_mem _ hb)

lemma scanRest_tail {rest : List Attr} (h : scanRest rest ⟨some mi, none⟩ = .ok c) :
    ∃ mid fp, rest = mid ++ fp ∧ (∀ a ∈ mid, a.closes = false) ∧
      (fp = [] ∨ ∃ f, fp = [f] ∧ f.type = attrFingerprint) := by
  induction rest with
  | nil => exact ⟨[], [], rfl, by simp, Or.inl rfl⟩
  | cons a rest ih =>
    rw [scanRest, if_neg (by simp)] at h
    split_ifs at h with hm hs hf
    · exact absurd rfl hs
    · obtain ⟨hlast, -⟩ := scanRest_ok h
      obtain ⟨hnil, -⟩ := hlast rfl
      rw [hnil]
      exact ⟨[], [a], rfl, by simp, Or.inr ⟨a, rfl, hf⟩⟩
    · obtain ⟨mid, fp, hrest, hmid, hfp⟩ := ih h
      refine ⟨a :: mid, fp, by rw [hrest, List.cons_append], ?_, hfp⟩
      rw [List.forall_mem_cons]
      refine ⟨?_, hmid⟩
      simp [Attr.closes, hm, hf]

end Scan

lemma Prints.encodable {env : Env} {hdr : MsgHdr} {attrs : List Attr} {bytes : Bytes}
    (h : Prints env hdr attrs bytes) : ∀ a ∈ attrs, a.encodable = true := by
  induction h with
  | nil => simp
  | cons head _ ih =>
    rw [List.forall_mem_cons]
    exact ⟨encodable_of_encodeAttr head, ih⟩

section Packet

variable {env : Env} {msg msg' : Msg} {key : Option Bytes} {pkt : Bytes}

lemma closed_or_drops {bufSize options : ℕ} (h : encode env msg bufSize options key = .ok (pkt, msg')) :
    (∃ plain closing, msg.attrs = plain ++ closing ∧ (∀ a ∈ plain, a.closes = false) ∧
      ClosingAttrs closing) ∨ Drops msg.attrs := by
  unfold encode at h
  split_ifs at h with h1 h2
  obtain ⟨⟨body, room, stop⟩, hloop, h⟩ := BoundedRead.of_bind h
  obtain ⟨c, hscan, -⟩ := BoundedRead.of_bind h
  obtain ⟨plain, hattrs, hopen, hprints, hhead⟩ := encodeAttrs_prints hloop
  cases stop with
  | nil => exact Or.inl ⟨plain, [], hattrs, hopen, .nil⟩
  | cons b rest =>
    have hb : b.closes = true := hhead b (by simp)
    by_cases ht : b.type = attrMessageIntegrity
    · simp only [stoppedAt, if_pos ht, List.tail_cons] at hscan
      obtain ⟨mid, fp, rfl, hmid, hfp⟩ := scanRest_tail hscan
      by_cases hnil : mid = []
      · subst hnil
        refine Or.inl ⟨plain, b :: fp, hattrs, hopen, ?_⟩
        rcases hfp with rfl | ⟨f, rfl, hft⟩
        · exact .msgint ht
        · exact .both ht hft
      · refine Or.inr ⟨plain, b, mid, fp, hattrs, ?_, ht, hnil, hmid, hfp⟩
        intro a ha
        exact ⟨hopen a ha, hprints.encodable a ha⟩
    · -- nothing may follow the fingerprint that stopped the first loop
      simp only [stoppedAt, if_neg ht] at hscan
      obtain ⟨hlast, -⟩ := scanRest_ok hscan
      obtain ⟨hnil, -⟩ := hlast rfl
      have hrest : rest = [] := hnil
      subst hrest
      simp only [Attr.closes, decide_eq_true_eq] at hb
      exact Or.inl ⟨plain, [b], hattrs, hopen, .fingerprint (hb.resolve_left ht)⟩

lemma complete_of_closed {bufSize options : ℕ}
    (h : encode env msg bufSize options key = .ok (pkt, msg')) {plain closing : List Attr}
    (hattrs : msg.attrs = plain ++ closing) (hopen : ∀ a ∈ plain, a.closes = false)
    (hclosing : ClosingAttrs closing) : Complete env msg pkt msg' := by
  obtain ⟨s⟩ := encode_sent h
  obtain ⟨-, hfilled⟩ := s.filled_eq hattrs hopen hclosing
  refine ⟨⟨_, _, s.filled⟩, ⟨_, _, s.pkt_eq, ?_⟩, plain, closing, hattrs, hopen, hclosing⟩
  rw [hfilled]
  exact s.prints_plain.append (s.prints_mi.append s.prints_fp)

lemma Drops.encoded (env : Env) (h : Drops msg.attrs) :
    ∃ bufSize key pkt msg', encode env msg bufSize 0 key = .ok (pkt, msg') := by
  obtain ⟨plain, mi, mid, fp, hattrs, hplain, hmi, -, hmid, hfp⟩ := h
  have hhead : ∀ a ∈ (mi :: (mid ++ fp)).head?, a.closes = true := by simp [Attr.closes, hmi]
  obtain ⟨c, hscan⟩ : ∃ c, scanRest (mi :: (mid ++ fp)).tail (stoppedAt (mi :: (mid ++ fp))) = .ok c := by
    simp only [stoppedAt, if_pos hmi, List.tail_cons, scanRest_skip hmid]
    rcases hfp with rfl | ⟨f, rfl, hf⟩
    · exact ⟨_, rfl⟩
    · have hne : f.type ≠ attrMessageIntegrity := by
        rw [hf]
        decide
      exact ⟨⟨some mi, some f⟩, by rw [scanRest, if_neg (by simp), if_neg hne, if_pos hf, scanRest]⟩
  have hkey : c.amsgint.isSome → (some ([] : Bytes)).isSome := fun _ => rfl
  obtain ⟨pkt, msg', henc, -⟩ := encode_scanned env hattrs (fun a ha => (hplain a ha).1)
    (fun a ha => (hplain a ha).2) hhead hscan hkey (le_refl _)
  exact ⟨_, _, pkt, msg', henc⟩

lemma Drops.not_closed {attrs plain closing : List Attr} (h : Drops attrs)
    (hattrs : attrs = plain ++ closing) (hopen : ∀ a ∈ plain, a.closes = false)
    (hclosing : ClosingAttrs closing) : False := by
  obtain ⟨plain', mi, mid, fp, hattrs', hplain, hmi, hne, hmid, -⟩ := h
  obtain ⟨-, hstop⟩ := split_closing (hattrs'.symm.trans hattrs) (fun a ha => (hplain a ha).1) hopen
    (by simp [Attr.closes, hmi]) hclosing.head
  obtain ⟨a, mid', rfl⟩ := List.exists_cons_of_ne_nil hne
  have ha := hmid a (List.mem_cons_self ..)
  rw [List.cons_append] at hstop
  cases hclosing with
  | nil => cases hstop
  | msgint _ => cases hstop
  | fingerprint _ => cases hstop
  | both _ hf =>
    obtain ⟨-, hrest⟩ := List.cons.inj hstop
    obtain ⟨rfl, -⟩ := List.cons.inj hrest
    simp [Attr.closes, hf] at ha

end Packet

/-- All calls that succeed write the whole message in order, except for the messages with
attributes behind MESSAGE-INTEGRITY that are dropped. -/
theorem encode_complete_iff (env : Env) (msg : Msg) : (∀ bufSize options key pkt msg',
      encode env msg bufSize options key = .ok (pkt, msg') → Complete env msg pkt msg') ↔
    ¬ Drops msg.attrs := by
  constructor
  · intro hall hdrops
    obtain ⟨bufSize, key, pkt, msg', henc⟩ := hdrops.encoded env
    obtain ⟨plain, closing, hattrs, hopen, hclosing⟩ := (hall _ _ _ _ _ henc).closed
    exact hdrops.not_closed hattrs hopen hclosing
  · intro hno bufSize options key pkt msg' henc
    obtain ⟨plain, closing, hattrs, hopen, hclosing⟩ := (closed_or_drops henc).resolve_right hno
    exact complete_of_closed henc hattrs hopen hclosing

def lateUsername : Msg :=
  ⟨sampleHdr stunMagic, [blankMi, ⟨attrUsername, 3, .string (lit "bob"), rfl⟩], by decide⟩

/-- The message is encoded to the header and MESSAGE-INTEGRITY only. -/
theorem late_username_dropped :
    ∃ pkt msg', encode constantEnv lateUsername 100 0 (some (lit "key")) = .ok (pkt, msg') ∧
      pkt.length = 44 ∧ ¬ Complete constantEnv lateUsername pkt msg' := by
  have hrun : (encode constantEnv lateUsername 100 0 (some (lit "key"))).map (fun r => r.1.length) =
      .ok 44 := by decide
  have hdrops : Drops lateUsername.attrs :=
    ⟨[], blankMi, [⟨attrUsername, 3, .string (lit "bob"), rfl⟩], [], rfl, by simp, rfl, by simp,
      by decide, Or.inl rfl⟩
  cases henc : encode constantEnv lateUsername 100 0 (some (lit "key")) with
  | error e =>
    rw [henc] at hrun
    cases hrun
  | ok r =>
    rw [henc] at hrun
    refine ⟨r.1, r.2, rfl, Except.ok.inj hrun, ?_⟩
    intro hcomplete
    obtain ⟨plain, closing, hattrs, hopen, hclosing⟩ := hcomplete.closed
    exact hdrops.not_closed hattrs hopen hclosing

end PjProject.Stun
