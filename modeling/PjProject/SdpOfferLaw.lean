import PjProject.SdpOfferPairs
import PjProject.SdpOfferRtpmap

/-!
# The law of answers

When the formats that are paired are told apart, and the rtpmaps of the local media line
are in order where payload types change, the answer is what an offerer expects: every
answered format is one of the offered ones and stands for the same codec there.
-/
namespace PjProject.SdpOffer

open Sdp

/-- A local payload type can be replaced by that of the offer: its rtpmap is spelled as
the format is, and the new payload type is not taken by anything that stays. -/
structure Renumbers (m : Media) (p : Bytes × Bytes) : Prop where
  token : IsToken p.1 ∧ IsToken p.2
  spelled : ∀ a ∈ rtpmaps m.attrs, isFor p.2 a = true → ∃ t, a.value = p.2 ++ 32 :: t
  few : ((rtpmaps m.attrs).filter (isFor p.1)).length ≤ 1
  owned : ∀ a ∈ rtpmaps m.attrs, isFor p.1 a = true → ∃ g ∈ m.fmts, fmtPt g = fmtPt p.1

structure Tidy (m : Media) (pairs : List (Bytes × Bytes)) : Prop where
  nonempty : pairs ≠ []
  found : ([], []) ∉ pairs
  offered : Apart (pairs.map (·.1))
  locals : (pairs.map (·.2)).Nodup
  unique : ∀ p ∈ pairs, dynamic p.1 = true → (m.fmts.filter fun g => fmtPt g = fmtPt p.2).length ≤ 1
  renumbers : ∀ p ∈ pairs, p.2 ≠ p.1 → Renumbers m p

section Answer

variable {offer m : Media} {pairs : List (Bytes × Bytes)} {unwanted : List Bytes}
  {p q : Bytes × Bytes}

lemma eq_of_fst_eq (h : (pairs.map (·.1)).Nodup) (hp : p ∈ pairs) (hq : q ∈ pairs) (he : p.1 = q.1) : p = q :=
  List.inj_on_of_nodup_map h hp hq he

lemma Tidy.fmtPt_ne (h : Tidy m pairs) (hperm : m.fmts.Perm (pairs.map (·.2) ++ unwanted))
    (hp : p ∈ pairs) (hd : dynamic p.1 = true) {g : Bytes}
    (hg : g ∈ unwanted ∨ ∃ q ∈ pairs, q ≠ p ∧ q.2 = g) : fmtPt g ≠ fmtPt p.2 := by
  intro heq
  obtain ⟨pre, post, hsplit⟩ := List.append_of_mem hp
  have hlen := h.unique p hp hd
  rw [(hperm.filter _).length_eq, hsplit] at hlen
  have hrest : g ∈ pre.map (·.2) ++ (post.map (·.2) ++ unwanted) := by
    rcases hg with hg | ⟨q, hq, hne, rfl⟩
    · simp [hg]
    · rw [hsplit, List.mem_append, List.mem_cons] at hq
      rcases hq with hq | hq | hq
      · exact List.mem_append_left _ (List.mem_map_of_mem hq)
      · exact absurd hq hne
      · exact List.mem_append_right _ (List.mem_append_left _ (List.mem_map_of_mem hq))
  have hpos : 0 < ((pre.map (·.2) ++ (post.map (·.2) ++ unwanted)).filter
      fun g => fmtPt g = fmtPt p.2).length :=
    List.length_pos_of_mem (List.mem_filter.2 ⟨hrest, by simpa using heq⟩)
  simp only [List.map_append, List.map_cons, List.filter_append, List.filter_cons, decide_true,
    if_true, List.length_append, List.length_cons] at hlen hpos
  omega

lemma Tidy.misses (h : Tidy m pairs) (hnum : ∀ p ∈ pairs, numeric p.1 = true → (fmtPt p.1).isSome)
    (hp : p ∈ pairs) (hq : q ∈ pairs) (hne : q ≠ p) (hs : (fmtPt p.1).isSome) :
    Misses (rtpmaps m.attrs) p.1 q := by
  intro hmoved a ha hfor
  obtain ⟨t, ht⟩ := (h.renumbers q hq hmoved).spelled a ha hfor
  have hpt : fmtPt q.1 ≠ fmtPt p.1 := by
    intro heq
    have hfst := h.offered.eq_of_fmtPt (List.mem_map_of_mem hq) (List.mem_map_of_mem hp)
      (heq ▸ hs) heq
    exact hne (eq_of_fst_eq h.offered.nodup hq hp hfst)
  have hvalue : rewritePt a.value q.2 q.1 = q.1 ++ 32 :: t := by simp [rewritePt, ht]
  rw [isFor, hvalue, valuePt_spelled]
  by_cases hn : numeric q.1 = true
  · rw [if_pos hn, ← fmtPt_eq_of_numeric hn (hnum q hq hn)]
    simp [hpt]
  · rw [if_neg hn]
    cases hf : fmtPt p.1 with
    | none => simp [hf] at hs
    | some v => simp

lemma Tidy.eraseFor_find? (h : Tidy m pairs)
    (hperm : m.fmts.Perm (pairs.map (·.2) ++ unwanted)) (hp : p ∈ pairs) (hd : dynamic p.1 = true) :
    (eraseFor unwanted (rtpmaps m.attrs)).find? (isFor p.2) = (rtpmaps m.attrs).find? (isFor p.2) :=
  find?_eraseFor fun _ hg => h.fmtPt_ne hperm hp hd (.inl hg)

lemma Tidy.gone (h : Tidy m pairs) (hperm : m.fmts.Perm (pairs.map (·.2) ++ unwanted))
    (hp : p ∈ pairs) (hs : (fmtPt p.1).isSome) (hmoved : p.2 ≠ p.1) :
    (pairs.foldl move (eraseFor unwanted (rtpmaps m.attrs), [])).1.find? (isFor p.1) = none := by
  have hren := h.renumbers p hp hmoved
  have hsub : (eraseFor unwanted (rtpmaps m.attrs)).Sublist (rtpmaps m.attrs) := eraseFor_sublist
  have hsub' : (pairs.foldl move (eraseFor unwanted (rtpmaps m.attrs), [])).1.Sublist
      (eraseFor unwanted (rtpmaps m.attrs)) := foldl_move_sublist
  cases hfind : (rtpmaps m.attrs).find? (isFor p.1) with
  | none => exact find?_none_sublist (hsub'.trans hsub) hfind
  | some a =>
    obtain ⟨g, hg, hpt⟩ := hren.owned a (List.mem_of_find?_eq_some hfind) (List.find?_some hfind)
    rcases List.mem_append.1 (hperm.subset hg) with hg | hg
    · obtain ⟨q, hq, rfl⟩ := List.mem_map.1 hg
      have hmovedq : q.2 ≠ q.1 := by
        intro heq
        have hfst : q.1 = p.1 := h.offered.eq_of_fmtPt (List.mem_map_of_mem hq)
          (List.mem_map_of_mem hp) (by rw [← heq, hpt]; exact hs) (by rw [← heq, hpt])
        rw [eq_of_fst_eq h.offered.nodup hq hp hfst] at heq
        exact hmoved heq
      exact foldl_move_gone (((hsub.filter _).length_le).trans hren.few) hq hmovedq hpt
    · exact find?_none_sublist hsub' (eraseFor_gone hren.few hg hpt)

lemma Tidy.moved (h : Tidy m pairs) (hnum : ∀ p ∈ pairs, numeric p.1 = true → (fmtPt p.1).isSome)
    (hperm : m.fmts.Perm (pairs.map (·.2) ++ unwanted)) (hp : p ∈ pairs)
    (hd : dynamic p.1 = true) (hmoved : p.2 ≠ p.1) {a : Attr}
    (ha : (rtpmaps m.attrs).find? (isFor p.2) = some a) :
    (pairs.foldl move (eraseFor unwanted (rtpmaps m.attrs), [])).2.find? (isFor p.1) =
      some { a with value := rewritePt a.value p.2 p.1 } := by
  have hn : numeric p.1 = true := by
    simp only [dynamic, Bool.and_eq_true] at hd
    exact hd.1
  have hs := hnum p hp hn
  have hsub : (eraseFor unwanted (rtpmaps m.attrs)).Sublist (rtpmaps m.attrs) := eraseFor_sublist
  obtain ⟨pre, post, hsplit⟩ := List.append_of_mem hp
  have hother : ∀ q, q ∈ pre ∨ q ∈ post → q ∈ pairs ∧ q ≠ p := by
    intro q hq
    have hnd := h.offered.nodup
    rw [hsplit, List.map_append, List.map_cons, List.nodup_append, List.nodup_cons] at hnd
    obtain ⟨-, ⟨hpost, -⟩, hpre⟩ := hnd
    constructor
    · rw [hsplit]
      rcases hq with hq | hq <;> simp [hq]
    · rintro rfl
      rcases hq with hq | hq
      · exact hpre _ (List.mem_map_of_mem hq) _ (by simp) rfl
      · exact hpost (List.mem_map_of_mem hq)
  generalize hmaps : eraseFor unwanted (rtpmaps m.attrs) = maps at hsub
  have hfirst : (pre.foldl move (maps, [])).1.find? (isFor p.2) = some a := by
    rw [foldl_move_fst_find? fun q hq _ => h.fmtPt_ne hperm hp hd
      (.inr ⟨q, (hother q (.inl hq)).1, (hother q (.inl hq)).2, rfl⟩), ← hmaps,
      h.eraseFor_find? hperm hp hd, ha]
  have hnone : (pre.foldl move (maps, [])).2.find? (isFor p.1) = none := by
    exact @foldl_move_snd_find? _ (maps, []) _ _ hsub fun q hq =>
      h.misses hnum hp (hother q (.inl hq)).1 (hother q (.inl hq)).2 hs
  have hfor : isFor p.1 { a with value := rewritePt a.value p.2 p.1 } = true := by
    obtain ⟨t, ht⟩ := (h.renumbers p hp hmoved).spelled a (List.mem_of_find?_eq_some ha)
      (List.find?_some ha)
    have hvalue : rewritePt a.value p.2 p.1 = p.1 ++ 32 :: t := by simp [rewritePt, ht]
    rw [isFor, hvalue, valuePt_spelled, if_pos hn, ← fmtPt_eq_of_numeric hn hs]
    simp [hs]
  have hsub' : (move (pre.foldl move (maps, [])) p).1.Sublist (rtpmaps m.attrs) :=
    (move_sublist.trans foldl_move_sublist).trans hsub
  rw [hsplit, List.foldl_append, List.foldl_cons, foldl_move_snd_find? hsub' fun q hq =>
    h.misses hnum hp (hother q (.inr hq)).1 (hother q (.inr hq)).2 hs]
  rw [move, if_neg hmoved, hfirst]
  simp [List.find?_append, hnone, hfor]

lemma fmtPt_of_rtpmapOf {attrs : List Attr} {f : Bytes} {r : Rtpmap}
    (h : rtpmapOf attrs f = some r) : (fmtPt f).isSome := by
  rw [rtpmapOf_eq_find, Option.map_eq_some_iff] at h
  obtain ⟨a, ha, -⟩ := h
  have := List.find?_some ha
  simp only [isFor, Bool.and_eq_true] at this
  exact this.1

lemma Tidy.rtpmap (h : Tidy m pairs) (hok : ∀ p ∈ pairs, PairOk offer m p)
    (hnum : ∀ f ∈ offer.fmts, numeric f = true → (fmtPt f).isSome)
    (hperm : m.fmts.Perm (pairs.map (·.2) ++ unwanted)) (hp : p ∈ pairs) (hd : dynamic p.1 = true) :
    (((pairs.foldl move (eraseFor unwanted (rtpmaps m.attrs), [])).1 ++
      (pairs.foldl move (eraseFor unwanted (rtpmaps m.attrs), [])).2).find? (isFor p.1)).map
        (fun a => getRtpmap a.value) = rtpmapOf m.attrs p.2 := by
  obtain ⟨o, l, ho, hl, -⟩ := (hok p hp).codec hd
  have hnum' : ∀ p ∈ pairs, numeric p.1 = true → (fmtPt p.1).isSome :=
    fun q hq => hnum q.1 (hok q hq).offered
  rw [rtpmapOf_eq_find, Option.map_eq_some_iff] at hl
  obtain ⟨a, ha, -⟩ := hl
  rw [rtpmapOf_eq_find, ha, List.find?_append]
  by_cases hmoved : p.2 = p.1
  · have hkept : (pairs.foldl move (eraseFor unwanted (rtpmaps m.attrs), [])).1.find?
        (isFor p.1) = some a := by
      rw [← hmoved, foldl_move_fst_find?, h.eraseFor_find? hperm hp hd, ha]
      intro q hq hmovedq
      refine h.fmtPt_ne hperm hp hd (.inr ⟨q, hq, ?_, rfl⟩)
      rintro rfl
      exact hmovedq hmoved
    rw [hkept]
    rfl
  · rw [h.gone hperm hp (fmtPt_of_rtpmapOf ho) hmoved, h.moved hnum' hperm hp hd hmoved ha]
    obtain ⟨t, ht⟩ := (h.renumbers p hp hmoved).spelled a (List.mem_of_find?_eq_some ha)
      (List.find?_some ha)
    obtain ⟨ht1, ht2⟩ := (h.renumbers p hp hmoved).token
    have hvalue : rewritePt a.value p.2 p.1 = p.1 ++ 32 :: t := by simp [rewritePt, ht]
    simp only [Option.none_or, Option.map_some, hvalue]
    rw [ht, getRtpmap_token ht1 ht2]

end Answer

lemma length_removeFmtAttrs_le (attrs : List Attr) (fmts : List Bytes) :
    (fmts.foldl removeFmtAttrs attrs).length ≤ attrs.length := by
  induction fmts generalizing attrs with
  | nil => exact le_refl _
  | cons f fmts ih =>
    have hstep : (removeFmtAttrs attrs f).length ≤ attrs.length :=
      List.eraseP_sublist.length_le.trans List.eraseP_sublist.length_le
    exact (ih _).trans hstep

def SameCodec (m m' : Media) (f : Bytes) : Prop :=
  dynamic f = true → ∃ r r', rtpmapOf m.attrs f = some r ∧ rtpmapOf m'.attrs f = some r' ∧
    rtpmapMatch r r' = true

structure ActiveLaw (offer answer : Media) : Prop where
  nonempty : answer.fmts ≠ []
  distinct : answer.fmts.Nodup
  offered : ∀ f ∈ answer.fmts, f ∈ offer.fmts
  codec : ∀ f ∈ answer.fmts, SameCodec offer answer f

lemma buildAnswer_law {junk : Bytes} {offer m : Media} {pairs : List (Bytes × Bytes)}
    (h : Tidy m pairs) (hok : ∀ p ∈ pairs, PairOk offer m p)
    (hnum : ∀ f ∈ offer.fmts, numeric f = true → (fmtPt f).isSome) (hroom : m.attrs.length ≤ maxSdpAttr) :
    (buildAnswer junk offer m pairs).media = m.media ∧ ActiveLaw offer (buildAnswer junk offer m pairs) := by
  obtain ⟨hfront, hperm⟩ := reorder_formats h.locals
    (fun f hf => by obtain ⟨p, hp, rfl⟩ := List.mem_map.1 hf; exact (hok p hp).known) junk
  rw [List.length_map] at hfront hperm
  unfold buildAnswer
  dsimp only
  generalize reorder m.fmts.length 0 (pairs.map (·.2)) (fun k => m.fmts.getD k junk) = arr
    at hfront hperm ⊢
  generalize (List.range' pairs.length (m.fmts.length - pairs.length)).map arr = unwanted
    at hperm ⊢
  generalize hans : applyAnswerSymmetricPt { m with
    fmts := (List.range pairs.length).map arr
    attrs := unwanted.foldl removeFmtAttrs m.attrs } pairs = answer
  obtain ⟨hmedia, -, hfmts, hrtpmap⟩ := updateMediaDirection_frame offer answer
  have hanswer : answer.fmts = pairs.map (·.1) := by
    rw [← hans, applyAnswerSymmetricPt]
    dsimp only
    rw [hfront, List.zipWith_map_left, List.zipWith_self]
    refine List.map_congr_left fun p _ => ?_
    split_ifs with heq
    · exact heq
    · rfl
  have hmaps : rtpmaps answer.attrs =
      (pairs.foldl move (eraseFor unwanted (rtpmaps m.attrs), [])).1 ++
      (pairs.foldl move (eraseFor unwanted (rtpmaps m.attrs), [])).2 := by
    rw [← hans, applyAnswerSymmetricPt_rtpmaps, rtpmaps_removeUnwanted]
    exact (length_removeFmtAttrs_le _ _).trans hroom
  have hmedia' : answer.media = m.media := by rw [← hans]; rfl
  refine ⟨hmedia.trans hmedia', ?_, ?_, ?_, ?_⟩
  · rw [hfmts, hanswer]
    simpa using h.nonempty
  · rw [hfmts, hanswer]
    exact h.offered.nodup
  · intro f hf
    rw [hfmts, hanswer] at hf
    obtain ⟨p, hp, rfl⟩ := List.mem_map.1 hf
    exact (hok p hp).offered
  · intro f hf hd
    rw [hfmts, hanswer] at hf
    obtain ⟨p, hp, rfl⟩ := List.mem_map.1 hf
    obtain ⟨o, l, ho, hl, hmatch⟩ := (hok p hp).codec hd
    refine ⟨o, l, ho, ?_, hmatch⟩
    rw [hrtpmap, rtpmapOf_eq_find, hmaps, h.rtpmap hok hnum hperm hp hd, hl]

/-- The formats of an offered and a local media line that `match_offer` pairs. -/
def matched (cfg : Config) (offer preanswer : Media) : Except Err (List (Bytes × Bytes)) := do
  let st ← matchFmts cfg offer preanswer
  if st.masterHasCodec ∧ st.foundCodec = false then throw .noanscodec
  if st.masterHasOther ∧ st.foundOther = false then throw .noansunknown
  return filterTel preanswer st

lemma SameLine.tidy {m m' : Media} {pairs : List (Bytes × Bytes)} (hsame : SameLine m m')
    (h : Tidy m pairs) : Tidy m' pairs where
  nonempty := h.nonempty
  found := h.found
  offered := h.offered
  locals := h.locals
  unique := hsame.fmts ▸ h.unique
  renumbers p hp hmoved := by
    obtain ⟨htoken, hspelled, hfew, howned⟩ := h.renumbers p hp hmoved
    exact ⟨htoken, hsame.rtpmaps ▸ hspelled, hsame.rtpmaps ▸ hfew,
      hsame.rtpmaps ▸ hsame.fmts ▸ howned⟩

lemma SameLine.pairOk {offer m m' : Media} {p : Bytes × Bytes} (hsame : SameLine m m')
    (h : PairOk offer m p) : PairOk offer m' p where
  offered := h.offered
  known := hsame.fmts ▸ h.known
  codec hd := by
    obtain ⟨o, l, ho, hl, hmatch⟩ := h.codec hd
    rw [rtpmapOf_eq_find] at hl
    exact ⟨o, l, ho, by rw [rtpmapOf_eq_find, hsame.rtpmaps, hl], hmatch⟩

structure LineLaw (bundleOnly : Bool) (offer answer : Media) : Prop where
  media : answer.media = offer.media
  rejected : offer.port = 0 → bundleOnly = false → answer.port = 0
  active : answer.port ≠ 0 → ActiveLaw offer answer

lemma cloneDeactivate_law (bundleOnly : Bool) (offer m : Media) (conn : Option Conn) :
    LineLaw bundleOnly offer (cloneDeactivate offer m conn) := by
  have hport : (cloneDeactivate offer m conn).port = 0 := by
    unfold cloneDeactivate
    dsimp only
    split_ifs <;> rfl
  refine ⟨?_, fun _ _ => hport, fun h => absurd hport h⟩
  unfold cloneDeactivate
  dsimp only
  split_ifs <;> rfl

lemma matchOffer_law {junk : Bytes} {cfg : Config} {bundleOnly : Bool} {offer m am : Media}
    {conn : Option Conn} (hmedia : offer.media = m.media)
    (htidy : (offer.port ≠ 0 ∨ bundleOnly = true) → m.port ≠ 0 →
      ∀ pairs, matched cfg offer m = .ok pairs → Tidy m pairs)
    (hnum : ∀ f ∈ offer.fmts, numeric f = true → (fmtPt f).isSome) (hroom : m.attrs.length ≤ maxSdpAttr)
    (h : matchOffer junk cfg bundleOnly offer m conn = .ok am) : LineLaw bundleOnly offer am := by
  unfold matchOffer at h
  by_cases hoff : offer.port = 0 ∧ bundleOnly = false
  · rw [if_pos hoff] at h
    obtain rfl := Except.ok.inj h
    exact cloneDeactivate_law bundleOnly offer m conn
  have hon : offer.port ≠ 0 ∨ bundleOnly = true := by
    by_contra hc
    push Not at hc
    exact hoff ⟨hc.1, by simpa using hc.2⟩
  have hrej : offer.port = 0 → bundleOnly = false → am.port = 0 :=
    fun h1 h2 => absurd ⟨h1, h2⟩ hoff
  rw [if_neg hoff] at h
  by_cases hport : m.port = 0
  · rw [if_pos hport] at h
    obtain rfl := Except.ok.inj h
    exact ⟨hmedia.symm, hrej, fun hp => absurd hport hp⟩
  rw [if_neg hport] at h
  cases hst : matchFmts cfg offer m with
  | error e => simp [hst, bind, Except.bind] at h
  | ok st =>
    by_cases hcodec : st.masterHasCodec = true ∧ st.foundCodec = false
    · simp [hst, bind, Except.bind, hcodec, throw, throwThe, MonadExceptOf.throw] at h
    by_cases hother : st.masterHasOther = true ∧ st.foundOther = false
    · simp [hst, bind, Except.bind, hcodec, hother, throw, throwThe, MonadExceptOf.throw] at h
    have hmatched : matched cfg offer m = .ok (filterTel m st) := by
      simp [matched, hst, bind, Except.bind, hcodec, hother, pure, Except.pure]
    have ht := htidy hon hport _ hmatched
    have hok : ∀ p ∈ filterTel m st, PairOk offer m p := by
      intro p hp
      have hne : p ≠ ([], []) := by
        rintro rfl
        exact ht.found hp
      exact matchFmts_pairs hst p (mem_filterTel hp hne)
    have hsame : SameLine m (if st.foundRed then reduceRed st m else m) := by
      split_ifs
      · exact reduceRed_sameLine st m
      · exact ⟨rfl, rfl, rfl, rfl, rfl⟩
    have ham : buildAnswer junk offer (if st.foundRed then reduceRed st m else m)
        (filterTel (if st.foundRed then reduceRed st m else m) st) = am := by
      simpa [hst, bind, Except.bind, hcodec, hother, pure, Except.pure] using h
    rw [hsame.filterTel] at ham
    obtain ⟨hm, hlaw⟩ := @buildAnswer_law junk offer _ _ (hsame.tidy ht)
      (fun p hp => hsame.pairOk (hok p hp)) hnum (hsame.length ▸ hroom)
    rw [ham] at hm hlaw
    exact ⟨hm.trans (hsame.media.trans hmedia.symm), hrej, fun _ => hlaw⟩

structure AnswerLaw (offer : Session) (answer : List (Media × Option ℕ)) : Prop where
  lines : List.Forall₂ (fun om am => LineLaw (isBundleOnly offer om) om am.1) offer.media answer
  once : (answer.filterMap (·.2)).Nodup

/-- Whenever an offered media line meets a local one of its kind, the formats that are
paired tell themselves apart. -/
def Tidied (cfg : Config) (initial offer : Session) : Prop :=
  ∀ om ∈ offer.media, ∀ im ∈ initial.media, om.media = im.media →
    transportProto om.transport = transportProto im.transport →
    (om.port ≠ 0 ∨ isBundleOnly offer om = true) → im.port ≠ 0 →
    ∀ pairs, matched cfg om im = .ok pairs → Tidy im pairs

section Lines

variable {junk : Bytes} {cfg : Config} {initial offer : Session}

lemma findLocal_some {bundleOnly : Bool} {om am : Media} {used : List ℕ} {j k : ℕ}
    {ims : List Media} {status status' : Option Err}
    (h : findLocal junk cfg initial bundleOnly om used j ims status = (some (am, k), status')) :
    k ∉ used ∧ ∃ im ∈ ims, om.media = im.media ∧ transportProto om.transport = transportProto im.transport ∧
      matchOffer junk cfg bundleOnly om im initial.conn = .ok am := by
  induction ims generalizing j status with
  | nil => simp [findLocal] at h
  | cons im ims ih =>
    unfold findLocal at h
    split_ifs at h with hc
    · cases hm : matchOffer junk cfg bundleOnly om im initial.conn with
      | ok am' =>
        simp only [hm, Prod.mk.injEq, Option.some.injEq] at h
        obtain ⟨⟨rfl, rfl⟩, -⟩ := h
        exact ⟨hc.2.2, im, by simp, hc.1, hc.2.1, hm⟩
      | error e =>
        simp only [hm] at h
        obtain ⟨hk, im', hmem, hrest⟩ := ih h
        exact ⟨hk, im', by simp [hmem], hrest⟩
    · obtain ⟨hk, im', hmem, hrest⟩ := ih h
      exact ⟨hk, im', by simp [hmem], hrest⟩

lemma answerMedia_law {used : List ℕ} {oms : List Media} {status : Option Err}
    (hsub : ∀ om ∈ oms, om ∈ offer.media) (htidy : Tidied cfg initial offer)
    (hnum : ∀ om ∈ offer.media, ∀ f ∈ om.fmts, numeric f = true → (fmtPt f).isSome)
    (hroom : ∀ im ∈ initial.media, im.attrs.length ≤ maxSdpAttr) :
    let answer := (answerMedia junk cfg initial offer used oms status).1
    List.Forall₂ (fun om am => LineLaw (isBundleOnly offer om) om am.1) oms answer ∧
    (answer.filterMap (·.2)).Nodup ∧ ∀ j ∈ answer.filterMap (·.2), j ∉ used := by
  induction oms generalizing used status with
  | nil => exact ⟨.nil, List.nodup_nil, by simp [answerMedia]⟩
  | cons om oms ih =>
    have hsub' : ∀ om ∈ oms, om ∈ offer.media := fun x hx => hsub x (by simp [hx])
    intro answer
    cases hf : findLocal junk cfg initial (isBundleOnly offer om) om used 0 initial.media status with
    | mk found status1 =>
      cases found with
      | none =>
        obtain ⟨h1, h2, h3⟩ := @ih used status1 hsub'
        have ha : answer = (cloneDeactivate om om initial.conn, none) ::
            (answerMedia junk cfg initial offer used oms status1).1 := by
          simp only [answer, answerMedia, hf]
        rw [ha]
        exact ⟨.cons (cloneDeactivate_law _ om om _) h1, by simpa using h2, by simpa using h3⟩
      | some r =>
        obtain ⟨am, k⟩ := r
        obtain ⟨hk, im, him, hmedia, hproto, hm⟩ := findLocal_some hf
        obtain ⟨h1, h2, h3⟩ := @ih (k :: used) status1 hsub'
        have ha : answer = (am, some k) ::
            (answerMedia junk cfg initial offer (k :: used) oms status1).1 := by
          simp only [answer, answerMedia, hf]
        have hline := matchOffer_law hmedia
          (htidy om (hsub om (by simp)) im him hmedia hproto) (hnum om (hsub om (by simp)))
          (hroom im him) hm
        generalize (answerMedia junk cfg initial offer (k :: used) oms status1).1 = rest
          at h1 h2 h3 ha
        have hcons : ((am, some k) :: rest).filterMap (·.2) = k :: rest.filterMap (·.2) := rfl
        rw [ha]
        refine ⟨.cons hline h1, ?_, ?_⟩
        · rw [hcons, List.nodup_cons]
          exact ⟨fun hmem => h3 k hmem (by simp), h2⟩
        · intro j hj
          rw [hcons, List.mem_cons] at hj
          rcases hj with rfl | hj
          · exact hk
          · intro hused
            exact h3 j hj (by simp [hused])

end Lines

lemma check_ok {ε α : Type} {c : Prop} [Decidable c] {e : ε} {k : Unit → Except ε α} {r : α}
    (h : (if c then throw e >>= k else k ()) = .ok r) : k () = .ok r := by
  split_ifs at h
  · cases h
  · exact h

lemma forM_ok {α ε : Type} {f : α → Except ε Unit} {l : List α} (h : l.forM f = .ok ()) :
    ∀ a ∈ l, f a = .ok () := by
  induction l with
  | nil => simp
  | cons x l ih =>
    change (f x >>= fun _ => l.forM f) = .ok () at h
    cases hx : f x with
    | error e => simp [hx, bind, Except.bind] at h
    | ok u =>
      rw [hx] at h
      intro a ha
      rcases List.mem_cons.1 ha with rfl | ha
      · exact hx
      · exact ih h a ha

lemma validate2_numeric {sdp : Session} {strict : Bool} (h : validate2 sdp strict = .ok ()) :
    ∀ m ∈ sdp.media, ∀ f ∈ m.fmts, numeric f = true → (fmtPt f).isSome := by
  intro m hm f hf hn
  have hmedia : validMedia sdp strict m = .ok () := by
    unfold validate2 at h
    exact forM_ok (check_ok (check_ok (check_ok h))) m hm
  have hfmt : validFmt (m.port ≠ 0 || isBundleOnly sdp m) m f = .ok () := by
    unfold validMedia at hmedia
    exact forM_ok (check_ok (check_ok (check_ok (check_ok hmedia)))) f hf
  unfold validFmt at hfmt
  rw [if_pos hn] at hfmt
  unfold fmtPt
  cases hs : strtoul3 f with
  | error e => simp [hs] at hfmt
  | ok v => rfl

def audioLine (port : ℕ) (fmts : List Bytes) (attrs : List Attr) : Media :=
  ⟨lit "audio", port, lit "RTP/AVP", fmts, none, attrs⟩

def session (m : Media) : Session where
  origin := ⟨lit "alice", lit "IN", lit "IP4", lit "10.0.0.1"⟩
  name := lit "call"
  conn := some ⟨lit "IN", lit "IP4", lit "10.0.0.1"⟩
  attrs := []
  media := [m]

def speexOffer : Media :=
  audioLine 4000 [lit "97", lit "8"] [⟨lit "rtpmap", lit "97 speex/16000"⟩]

def speexLocal : Media :=
  audioLine 5000 [lit "0", lit "98"] [⟨lit "rtpmap", lit "98 speex/16000"⟩]

def speexAnswer : List (Media × Option ℕ) :=
  [(audioLine 5000 [lit "97"] [⟨lit "rtpmap", lit "97 speex/16000"⟩], some 0)]

def eventOffer : Session :=
  session (audioLine 4000 [lit "101"] [⟨lit "rtpmap", lit "101 telephone-event/8000"⟩])

def eventLocal : Session := session (audioLine 5000 [lit "0", lit "8"] [])

def eventAnswer : List (Media × Option ℕ) :=
  [(audioLine 5000 [] [], some 0)]

end PjProject.SdpOffer
