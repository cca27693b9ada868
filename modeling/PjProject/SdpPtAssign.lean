import PjProject.SdpPtMap

/-!
# Assigning payload types

The loop of `assign_pt_and_update_map` over the rtpmaps of a media line. Each codec gets a payload
type that is not used yet, so that the renaming is injective, and one that was recorded for another
codec is only given away when every payload type has been mapped.
-/
namespace PjProject.SdpNeg

open Sdp (Attr)
open SdpText (Media)

def PtMap.Full (map : PtMap) : Prop := ∀ p, isDynamicPt p = true → map.ptToCodec p ≠ none

/-- The payload type of a codec is dynamic and recorded for that codec, as long as not every payload
type has been mapped. -/
structure PtMap.Consistent (map : PtMap) : Prop where
  dynamic : ∀ c, map.codecToPt c ≠ 0 → isDynamicPt (map.codecToPt c) = true
  recorded : ∀ c, map.codecToPt c ≠ 0 → map.ptToCodec (map.codecToPt c) = some c ∨ map.Full

lemma PtMap.consistent_init : PtMap.init.Consistent where
  dynamic _ h := absurd rfl h
  recorded _ h := absurd rfl h

variable {p : ℕ}

lemma isDynamicPt_iff : isDynamicPt p = true ↔ 96 ≤ p ∧ p ≤ 127 := by
  simp [isDynamicPt]

/-- A payload type that may be given to the codec: it is not used, and if it is recorded for another
codec then no unused one of the list is unmapped. -/
def Suits (map : PtMap) (used : ℕ → Bool) (idx : ℕ) (pts : List ℕ) (p : ℕ) : Prop :=
  used p = false ∧ (map.ptToCodec p = none ∨ map.ptToCodec p = some idx ∨
    ∀ q ∈ pts, used q = false → map.ptToCodec q ≠ none)

/-- The result so far of the loop in `find_new_pt`, of the payload types `seen`. -/
def Best (map : PtMap) (used : ℕ → Bool) (seen : List ℕ) : Option ℕ → Prop
  | none => ∀ q ∈ seen, used q = true
  | some r => r ∈ seen ∧ used r = false ∧
      (map.ptToCodec r = none ∨ ∀ q ∈ seen, used q = false → map.ptToCodec q ≠ none)

lemma considerPt_best {map : PtMap} {used : ℕ → Bool} (idx : ℕ) {pts seen : List ℕ}
    {result : Option ℕ} (h : Best map used seen result) (hfree : ∃ q ∈ seen ++ pts, used q = false) :
    ∃ p ∈ seen ++ pts, considerPt map used idx pts result = some p ∧ Suits map used idx (seen ++ pts) p := by
  induction pts generalizing seen result with
  | nil =>
    rw [List.append_nil] at hfree ⊢
    cases result with
    | none =>
      obtain ⟨q, hq, hu⟩ := hfree
      simp [h q hq] at hu
    | some r =>
      obtain ⟨hr, hu, hbest⟩ := h
      exact ⟨r, hr, rfl, hu, hbest.imp_right .inr⟩
  | cons pt pts ih =>
    have happ : seen ++ pt :: pts = (seen ++ [pt]) ++ pts := by simp
    unfold considerPt
    rw [happ] at hfree ⊢
    by_cases hu : used pt = true
    · rw [if_pos hu]
      refine ih ?_ hfree
      cases result with
      | none =>
        intro q hq
        rcases List.mem_append.1 hq with hq | hq
        · exact h q hq
        · rw [List.mem_singleton.1 hq, hu]
      | some r =>
        obtain ⟨hr, hur, hbest⟩ := h
        refine ⟨by simp [hr], hur, hbest.imp_right fun hb q hq hq' => ?_⟩
        rcases List.mem_append.1 hq with hq | hq
        · exact hb q hq hq'
        · rw [List.mem_singleton.1 hq, hu] at hq'
          cases hq'
    · have hu' : used pt = false := by simpa using hu
      rw [if_neg hu]
      by_cases hidx : map.ptToCodec pt = some idx
      · rw [if_pos hidx]
        exact ⟨pt, by simp, rfl, hu', .inr (.inl hidx)⟩
      rw [if_neg hidx]
      by_cases hnone : map.ptToCodec pt = none ∧ result.all (fun r => map.ptToCodec r ≠ none) = true
      · rw [if_pos hnone]
        exact ih ⟨by simp, hu', .inl hnone.1⟩ hfree
      · rw [if_neg hnone]
        refine ih ?_ hfree
        cases result with
        | none =>
          refine ⟨by simp, hu', .inr fun q hq hq' => ?_⟩
          rcases List.mem_append.1 hq with hq | hq
          · simp [h q hq] at hq'
          · rw [List.mem_singleton.1 hq]
            simpa using hnone
        | some r =>
          obtain ⟨hr, hur, hbest⟩ := h
          refine ⟨by simp [hr], hur, ?_⟩
          rcases hbest with hr' | hb
          · exact .inl hr'
          by_cases hpt : map.ptToCodec pt = none
          · left
            simpa [hpt] using hnone
          · refine .inr fun q hq hq' => ?_
            rcases List.mem_append.1 hq with hq | hq
            · exact hb q hq hq'
            · rw [List.mem_singleton.1 hq]
              exact hpt

lemma mem_search {start : ℕ} (h : 96 ≤ start) (h' : start ≤ 128) :
    p ∈ List.range' start (128 - start) ++ List.range' 96 (start - 96) ↔ 96 ≤ p ∧ p ≤ 127 := by
  simp only [List.mem_append, List.mem_range'_1]
  omega

lemma findNewPt_suits {map : PtMap} {used : ℕ → Bool} {codec : Bytes} {idx : ℕ}
    (hfree : ∃ q, isDynamicPt q = true ∧ used q = false)
    (hmapped : ∀ q, used q = true → map.ptToCodec q ≠ none) :
    let p := findNewPt map used codec idx
    isDynamicPt p = true ∧ used p = false ∧
      (map.ptToCodec p = none ∨ map.ptToCodec p = some idx ∨ map.Full) := by
  unfold findNewPt
  extract_lets start p
  have hstart : 96 ≤ start ∧ start ≤ 128 := by
    show 96 ≤ (if _ then rtpPtTelephoneEvents else 96) ∧
      (if _ then rtpPtTelephoneEvents else 96) ≤ 128
    split_ifs <;> decide
  have hmem := fun q => mem_search (p := q) hstart.1 hstart.2
  obtain ⟨q, hq, hu⟩ := hfree
  have hstarted : Best map used [] none := by simp [Best]
  have hfree : ∃ q ∈ [] ++ (List.range' start (128 - start) ++ List.range' 96 (start - 96)),
      used q = false := ⟨q, by simpa using (hmem q).2 (isDynamicPt_iff.1 hq), hu⟩
  obtain ⟨r, hr, heq, hur, hbest⟩ := considerPt_best idx hstarted hfree
  have hp : p = r := by
    show (considerPt _ _ _ _ _).getD 95 = r
    rw [heq]
    rfl
  rw [hp]
  rw [List.nil_append] at hr hbest
  refine ⟨isDynamicPt_iff.2 ((hmem r).1 hr), hur, hbest.imp_right (Or.imp_right ?_)⟩
  intro hb p hp
  cases hup : used p with
  | true => exact hmapped p hup
  | false => exact hb p ((hmem p).2 (isDynamicPt_iff.1 hp)) hup

/-- The state of the loop after the payload types `given` were given to codecs. -/
structure Assign.Good (given : List ℕ) (st : Assign) : Prop where
  consistent : st.map.Consistent
  used_iff : ∀ p, st.used p = true ↔ p ∈ given
  mapped : ∀ p, st.used p = true → st.map.ptToCodec p ≠ none

lemma Assign.good_init {map : PtMap} (h : map.Consistent) :
    Assign.Good [] ⟨map, fun _ => false, fun _ => 0⟩ where
  consistent := h
  used_iff p := by simp
  mapped p hp := by cases hp

variable {given : List ℕ} {st : Assign}

lemma Assign.Good.free (h : st.Good given)
    (hlen : given.length < 32) : ∃ q, isDynamicPt q = true ∧ st.used q = false := by
  have hcard : given.toFinset.card < (Finset.Icc 96 127).card :=
    lt_of_le_of_lt (List.toFinset_card_le _) hlen
  obtain ⟨q, hq, hnot⟩ := Finset.exists_mem_notMem_of_card_lt_card hcard
  refine ⟨q, isDynamicPt_iff.2 (Finset.mem_Icc.1 hq), ?_⟩
  by_contra hu
  exact hnot (List.mem_toFinset.2 ((h.used_iff q).1 (by simpa using hu)))

/-- A payload type that may be given to the codec: it is dynamic and not used, and if it is recorded
for another codec then every payload type has been mapped. -/
structure Assign.Fits (st : Assign) (idx p : ℕ) : Prop where
  dynamic : isDynamicPt p = true
  unused : st.used p = false
  fits : st.map.ptToCodec p = none ∨ st.map.ptToCodec p = some idx ∨ st.map.Full

lemma Assign.Good.choosePt_fits (h : st.Good given)
    (hlen : given.length < 32) (cfg : Config) (isOffer : Bool) (codec : Bytes) (idx : ℕ) {pt : ℕ}
    (hpt : isDynamicPt pt = true) : st.Fits idx (choosePt cfg isOffer st codec idx pt) := by
  unfold choosePt
  extract_lets codecToPt needNewPt
  by_cases hold : codecToPt ≠ 0 ∧ st.used codecToPt = false ∧
      (needNewPt = true ∨ isOffer = true ∨ cfg.answerSymmetricPt = false)
  · rw [if_pos hold]
    have hidx : codecToPt = st.map.codecToPt idx := by
      refine if_neg fun hunk => hold.1 ?_
      exact if_pos hunk
    rw [hidx] at hold ⊢
    exact ⟨h.consistent.dynamic idx hold.1, hold.2.1, .inr (h.consistent.recorded idx hold.1)⟩
  rw [if_neg hold]
  by_cases hneed : needNewPt = true
  · rw [if_pos hneed]
    obtain ⟨h1, h2, h3⟩ := @findNewPt_suits st.map st.used codec idx (h.free hlen) h.mapped
    exact ⟨h1, h2, h3⟩
  · rw [if_neg hneed]
    have hneed' : (st.map.ptToCodec pt = none ∨ st.map.ptToCodec pt = some idx) ∧
        st.used pt = false := by
      simpa [needNewPt, not_or, imp_iff_not_or] using hneed
    exact ⟨hpt, hneed'.2, hneed'.1.imp_right .inl⟩

lemma Assign.record_change (st : Assign) (idx pt p : ℕ) : (st.record idx pt p).change pt = p :=
  Function.update_self ..

lemma PtMap.Full.record (h : st.map.Full) (idx pt p : ℕ) : (st.record idx pt p).map.Full := by
  intro q hq
  show Function.update st.map.ptToCodec p (some idx) q ≠ none
  by_cases hqp : q = p
  · simp [hqp]
  · rw [Function.update_of_ne hqp]
    exact h q hq

variable {idx : ℕ}

lemma PtMap.Consistent.record (h : st.map.Consistent) (pt : ℕ)
    (hfit : st.Fits idx p) : (st.record idx pt p).map.Consistent := by
  have hmap : (st.record idx pt p).map.ptToCodec =
      Function.update st.map.ptToCodec p (some idx) := rfl
  -- the codec itself, and the others
  have hcases : ∀ c, c = idx ∧ (st.record idx pt p).map.codecToPt c = p ∨
      (st.record idx pt p).map.codecToPt c = st.map.codecToPt c := by
    intro c
    simp only [Assign.record]
    split_ifs with hidx
    · exact .inr rfl
    · by_cases hc : c = idx
      · exact .inl ⟨hc, by rw [hc, Function.update_self]⟩
      · exact .inr (Function.update_of_ne hc _ _)
  constructor
  · intro c hc
    rcases hcases c with ⟨-, heq⟩ | heq
    · rw [heq]
      exact hfit.dynamic
    · rw [heq] at hc ⊢
      exact h.dynamic c hc
  · intro c hc
    rcases hcases c with ⟨hidx, heq⟩ | heq
    · left
      rw [heq, hmap, hidx, Function.update_self]
    rw [heq] at hc ⊢
    rw [hmap]
    rcases h.recorded c hc with hrec | hfull
    · by_cases hp : st.map.codecToPt c = p
      · rw [hp] at hrec ⊢
        rcases hfit.fits with hn | hi | hfull
        · simp [hn] at hrec
        · left
          rw [Function.update_self, ← hi, hrec]
        · exact .inr (hfull.record idx pt p)
      · left
        rw [Function.update_of_ne hp, hrec]
    · exact .inr (hfull.record idx pt p)

lemma Assign.Good.record (h : st.Good given) (pt : ℕ)
    (hfit : st.Fits idx p) : (st.record idx pt p).Good (p :: given) where
  consistent := h.consistent.record pt hfit
  used_iff q := by
    show Function.update st.used p true q = true ↔ _
    by_cases hq : q = p
    · simp [hq]
    · rw [Function.update_of_ne hq, h.used_iff]
      simp [hq]
  mapped q hq := by
    show Function.update st.map.ptToCodec p (some idx) q ≠ none
    by_cases hqp : q = p
    · simp [hqp]
    · have hq : Function.update st.used p true q = true := hq
      rw [Function.update_of_ne hqp] at hq ⊢
      exact h.mapped q hq

def dynPts (attrs : List Attr) : List ℕ :=
  attrs.filterMap fun a => (dynRtpmap a).map fun r => toPt r.pt

lemma dynPts_cons (a : Attr) (attrs : List Attr) :
    dynPts (a :: attrs) = ((dynRtpmap a).map fun r => toPt r.pt).toList ++ dynPts attrs := by
  unfold dynPts
  cases h : dynRtpmap a <;> simp [h]

lemma dynRtpmap_dynamic {a : Attr} {r : Rtpmap} (h : dynRtpmap a = some r) :
    isDynamicPt (toPt r.pt) = true := by
  unfold dynRtpmap at h
  split_ifs at h
  exact (Option.filter_eq_some_iff.1 h).2

lemma dynPts_dynamic {attrs : List Attr} (h : p ∈ dynPts attrs) : isDynamicPt p = true := by
  obtain ⟨a, -, ha⟩ := List.mem_filterMap.1 h
  obtain ⟨r, hr, rfl⟩ := Option.map_eq_some_iff.1 ha
  exact dynRtpmap_dynamic hr

/-- The codecs of the rtpmaps with the payload types they get, each with the state of the loop at
that point. -/
def grants (cfg : Config) (isOffer audio : Bool) (codecs : List Bytes) :
    Assign → List Attr → List (Assign × ℕ × ℕ)
  | _, [] => []
  | st, a :: attrs =>
    match dynRtpmap a with
    | none => grants cfg isOffer audio codecs st attrs
    | some r =>
      let codec := codecName audio r
      let idx := codecIdx codecs codec
      let newPt := choosePt cfg isOffer st codec idx (toPt r.pt)
      (st, idx, newPt) ::
        grants cfg isOffer audio codecs (st.record idx (toPt r.pt) newPt) attrs

def PtMap.Keeps (map : PtMap) (p c : ℕ) : Prop := map.ptToCodec p = some c ∨ map.Full

lemma PtMap.Keeps.record {c newPt : ℕ} (h : st.map.Keeps p c) (pt : ℕ)
    (hfit : st.Fits idx newPt) : (st.record idx pt newPt).map.Keeps p c := by
  rcases h with h | h
  · by_cases hp : p = newPt
    · subst hp
      rcases hfit.fits with hn | hi | hfull
      · simp [hn] at h
      · left
        show Function.update st.map.ptToCodec p (some idx) p = some c
        rw [Function.update_self, ← hi, h]
      · exact .inr (hfull.record idx pt p)
    · left
      show Function.update st.map.ptToCodec newPt (some idx) p = some c
      rw [Function.update_of_ne hp, h]
  · exact .inr (h.record idx pt newPt)

section Loop

variable (cfg : Config) (isOffer audio : Bool) (codecs : List Bytes)

lemma assignRtpmaps_good {given : List ℕ} {st : Assign} {attrs : List Attr}
    (h : st.Good given) (hlen : given.length + (dynPts attrs).length ≤ 32) :
    (assignRtpmaps cfg isOffer audio codecs st attrs).1.map.Consistent ∧ ∀ p c, st.map.Keeps p c →
      (assignRtpmaps cfg isOffer audio codecs st attrs).1.map.Keeps p c ∧
      ∀ g ∈ grants cfg isOffer audio codecs st attrs, g.1.Fits g.2.1 g.2.2 ∧ g.1.map.Keeps p c := by
  induction attrs generalizing st given with
  | nil => exact ⟨h.consistent, fun p c hk => ⟨hk, fun g hg => by cases hg⟩⟩
  | cons a attrs ih =>
    unfold assignRtpmaps grants
    rw [dynPts_cons] at hlen
    cases ha : dynRtpmap a with
    | none =>
      simp only [ha, Option.map_none, Option.toList_none, List.nil_append] at hlen
      exact ih h hlen
    | some r =>
      simp only [ha, Option.map_some, Option.toList_some, List.length_append, List.length_cons,
        List.length_nil] at hlen
      have hfit := h.choosePt_fits (by omega) cfg isOffer (codecName audio r)
        (codecIdx codecs (codecName audio r)) (dynRtpmap_dynamic ha)
      have hrec := ih (h.record (toPt r.pt) hfit) (by simp only [List.length_cons]; omega)
      refine ⟨hrec.1, fun p c hk => ?_⟩
      obtain ⟨hk', hg⟩ := hrec.2 p c (hk.record (toPt r.pt) hfit)
      refine ⟨hk', fun g hmem => ?_⟩
      rcases List.mem_cons.1 hmem with rfl | hmem
      · exact ⟨hfit, hk⟩
      · exact hg g hmem

/-- The renaming after the codecs that had the payload types `seen`. -/
structure Assign.Renames (seen : List ℕ) (st : Assign) : Prop where
  used : ∀ q ∈ seen, st.used (st.change q) = true
  dynamic : ∀ q ∈ seen, isDynamicPt (st.change q) = true
  injective : ∀ q ∈ seen, ∀ q' ∈ seen, st.change q = st.change q' → q = q'
  untouched : ∀ q, q ∉ seen → st.change q = 0

lemma Assign.renames_init (map : PtMap) :
    Assign.Renames [] ⟨map, fun _ => false, fun _ => 0⟩ where
  used q hq := by cases hq
  dynamic q hq := by cases hq
  injective q hq := by cases hq
  untouched _ _ := rfl

lemma Assign.Renames.record {seen : List ℕ} {st : Assign} (h : st.Renames seen) {idx pt p : ℕ}
    (hseen : pt ∉ seen) (hfit : st.Fits idx p) : (st.record idx pt p).Renames (pt :: seen) := by
  have hnew : ∀ q ∈ seen, st.change q ≠ p := by
    intro q hq heq
    have := h.used q hq
    rw [heq, hfit.unused] at this
    cases this
  have hchange : ∀ q ∈ seen, (st.record idx pt p).change q = st.change q := by
    intro q hq
    exact Function.update_of_ne (ne_of_mem_of_not_mem hq hseen) _ _
  have hchange' := st.record_change idx pt p
  constructor
  · intro q hq
    show Function.update st.used p true _ = true
    rcases List.mem_cons.1 hq with rfl | hq
    · rw [hchange', Function.update_self]
    · rw [hchange q hq, Function.update_of_ne (hnew q hq)]
      exact h.used q hq
  · intro q hq
    rcases List.mem_cons.1 hq with rfl | hq
    · rw [hchange']
      exact hfit.dynamic
    · rw [hchange q hq]
      exact h.dynamic q hq
  · intro q hq q' hq' heq
    rw [List.mem_cons] at hq hq'
    rcases hq with hq | hq <;> rcases hq' with hq' | hq'
    · rw [hq, hq']
    · rw [hq, hchange', hchange q' hq'] at heq
      exact absurd heq.symm (hnew q' hq')
    · rw [hq', hchange', hchange q hq] at heq
      exact absurd heq (hnew q hq)
    · rw [hchange q hq, hchange q' hq'] at heq
      exact h.injective q hq q' hq' heq
  · intro q hq
    rw [List.mem_cons, not_or] at hq
    show Function.update st.change pt p q = 0
    rw [Function.update_of_ne hq.1]
    exact h.untouched q hq.2

/-- The rtpmap attribute with the payload type that `pt_change` has for it. -/
def renameRtpmap (change : ℕ → ℕ) (a : Attr) : Attr :=
  match dynRtpmap a with
  | none => a
  | some r =>
    let pt := toPt r.pt
    { a with
      value := if change pt = pt then a.value else rewritePt2 a.value pt (change pt) }

lemma assignRtpmaps_renames {given seen : List ℕ} {st : Assign} {attrs : List Attr}
    (h : st.Good given) (hr : st.Renames seen)
    (hlen : given.length + (dynPts attrs).length ≤ 32) (hnodup : (seen ++ dynPts attrs).Nodup) :
    let res := assignRtpmaps cfg isOffer audio codecs st attrs
    res.1.Renames ((dynPts attrs).reverse ++ seen) ∧ (∀ q ∈ seen, res.1.change q = st.change q) ∧
      res.2 = attrs.map (renameRtpmap res.1.change) := by
  induction attrs generalizing st given seen with
  | nil => exact ⟨hr, fun _ _ => rfl, rfl⟩
  | cons a attrs ih =>
    unfold assignRtpmaps
    rw [dynPts_cons] at hlen hnodup ⊢
    cases ha : dynRtpmap a with
    | none =>
      simp only [ha, Option.map_none, Option.toList_none, List.nil_append] at hlen hnodup ⊢
      obtain ⟨h1, h2, h3⟩ := ih h hr hlen hnodup
      refine ⟨h1, h2, ?_⟩
      simp only [List.map_cons, renameRtpmap, ha]
      rw [← h3]
    | some r =>
      simp only [ha, Option.map_some, Option.toList_some, List.length_append, List.length_cons,
        List.length_nil] at hlen hnodup ⊢
      have hfit := h.choosePt_fits (by omega) cfg isOffer (codecName audio r)
        (codecIdx codecs (codecName audio r)) (dynRtpmap_dynamic ha)
      have hseen : toPt r.pt ∉ seen := by
        intro hmem
        exact (List.nodup_append.1 hnodup).2.2 _ hmem _ (by simp) rfl
      have hnodup' : ((toPt r.pt :: seen) ++ dynPts attrs).Nodup := by
        refine (List.Perm.nodup_iff ?_).1 hnodup
        simp
      obtain ⟨h1, h2, h3⟩ := ih (h.record (toPt r.pt) hfit) (hr.record hseen hfit)
        (by simp only [List.length_cons]; omega) hnodup'
      have hpt := h2 (toPt r.pt) (by simp)
      rw [Assign.record_change] at hpt
      refine ⟨by simpa using h1, fun q hq => ?_, ?_⟩
      · rw [h2 q (by simp [hq])]
        exact Function.update_of_ne (ne_of_mem_of_not_mem hq hseen) _ _
      · simp only [List.map_cons, renameRtpmap, ha, hpt]
        rw [← h3]

end Loop

end PjProject.SdpNeg
