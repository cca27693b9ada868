import Mathlib.Data.List.Forall2
import PjProject.SdpNegVersion
import PjProject.SdpPtRename

/-!
# The payload types of a negotiator's sessions

What `assign_pt_and_update_map` does to a media line whose text spells its payload types plainly:
the rtpmaps, the fmtp attributes and the formats are renamed by one injective map. Over the calls of
a run, a payload type stays with the codec it was recorded for until every one has been mapped.
-/
namespace PjProject.SdpNeg

open Scanner
open Sdp (Attr csToken findAttr fmtPt valuePt)
open SdpText (Media Session)
open Transition

def IsRedPt (attrs : List Attr) (pt : ℕ) : Prop :=
  ∃ a ∈ attrs, ∃ r ∈ dynRtpmap a, toPt r.pt = pt ∧ stricmpEq r.encName (lit "red") = true

def RedFits (refs : List ℕ) : Prop :=
  (redBody (refs.map fun r => if isDynamicPt r then 127 else r)).length + 4 < maxFmtpStrLen

/-- The fmtp attribute is readable, begins with a payload type that has an rtpmap, and its
parameters fit where they are those of a redundancy codec. -/
def FmtpOk (attrs : List Attr) (a : Attr) : Prop :=
  ∃ f ∈ getFmtp a.value, Spells (toPt f.1) a.value ∧ toPt f.1 ∈ dynPts attrs ∧
    (IsRedPt attrs (toPt f.1) →
      RedFits (redRefs f.2) ∧ ∀ r ∈ redRefs f.2, isDynamicPt r = true → r ∈ dynPts attrs)

/-- The text of a media line from which the payload types can be renamed: every rtpmap is readable,
every dynamic payload type is spelled without leading zeros or spaces and has an rtpmap, and the
redundancy parameters fit. -/
structure Renamable (m : Media) : Prop where
  readable : ∀ a ∈ m.attrs, a.name = lit "rtpmap" → (getRtpmap a.value).isSome
  spelled : ∀ a ∈ m.attrs, ∀ r ∈ dynRtpmap a, Spells (toPt r.pt) a.value
  fmtps : ∀ a ∈ m.attrs, a.name = lit "fmtp" → isDynamicPt (toPt a.value) = true → FmtpOk m.attrs a
  fmts : ∀ f ∈ m.fmts, isDynamicPt (toPt f) = true → Spells (toPt f) f ∧ toPt f ∈ dynPts m.attrs

instance (attrs : List Attr) (pt : ℕ) : Decidable (IsRedPt attrs pt) :=
  inferInstanceAs (Decidable (∃ a ∈ attrs, ∃ r ∈ dynRtpmap a, _ ∧ _))

instance (refs : List ℕ) : Decidable (RedFits refs) := inferInstanceAs (Decidable (_ < _))

instance (attrs : List Attr) (a : Attr) : Decidable (FmtpOk attrs a) :=
  inferInstanceAs (Decidable (∃ f ∈ getFmtp a.value, _ ∧ _ ∧ (_ → _ ∧ _)))

instance (m : Media) : Decidable (Renamable m) :=
  decidable_of_iff
    ((∀ a ∈ m.attrs, a.name = lit "rtpmap" → (getRtpmap a.value).isSome) ∧
      (∀ a ∈ m.attrs, ∀ r ∈ dynRtpmap a, Spells (toPt r.pt) a.value) ∧
      (∀ a ∈ m.attrs, a.name = lit "fmtp" → isDynamicPt (toPt a.value) = true →
        FmtpOk m.attrs a) ∧
      ∀ f ∈ m.fmts, isDynamicPt (toPt f) = true → Spells (toPt f) f ∧ toPt f ∈ dynPts m.attrs)
    ⟨fun h => ⟨h.1, h.2.1, h.2.2.1, h.2.2.2⟩, fun h => ⟨h.readable, h.spelled, h.fmtps, h.fmts⟩⟩

/-- An attribute and what renaming by `ρ` makes of it; `red` are the payload types of redundancy
codecs. -/
structure AttrRenamed (ρ : ℕ → ℕ) (red : ℕ → Prop) (a a' : Attr) : Prop where
  name : a'.name = a.name
  rtpmap : ∀ r ∈ dynRtpmap a, ∃ r' ∈ dynRtpmap a', toPt r'.pt = ρ (toPt r.pt) ∧
    r'.encName = r.encName ∧ r'.clockRate = r.clockRate ∧ r'.param = r.param
  fmtp : a.name = lit "fmtp" → ∀ f ∈ getFmtp a.value, isDynamicPt (toPt f.1) = true →
    ∃ f' ∈ getFmtp a'.value, toPt f'.1 = ρ (toPt f.1) ∧
      (red (toPt f.1) → redRefs f'.2 = (redRefs f.2).map ρ) ∧ (¬ red (toPt f.1) → f'.2 = f.2)
  other : dynRtpmap a = none → ¬ (a.name = lit "fmtp" ∧ isDynamicPt (toPt a.value) = true) → a' = a

def FmtRenamed (ρ : ℕ → ℕ) (f f' : Bytes) : Prop :=
  if isDynamicPt (toPt f) then toPt f' = ρ (toPt f) else f' = f

/-- Formats, rtpmaps and fmtp attributes of a media line are renamed by one injective map, and
nothing else changes. -/
structure Renaming (ρ : ℕ → ℕ) (m m' : Media) : Prop where
  injective : Set.InjOn ρ {p | p ∈ dynPts m.attrs}
  attrs : List.Forall₂ (AttrRenamed ρ (IsRedPt m.attrs)) m.attrs m'.attrs
  fmts : List.Forall₂ (FmtRenamed ρ) m.fmts m'.fmts
  frame : m' = { m with attrs := m'.attrs, fmts := m'.fmts }

variable {r : Rtpmap}

lemma getRtpmap_pt {value : Bytes} (h : getRtpmap value = some r)
    (hs : ∀ c ∈ value.head?, isSpace c = false) : r.pt = value.takeWhile csToken := by
  have hinit : init value .ws = ⟨value, .ws⟩ := by
    cases value with
    | nil => rfl
    | cons c s =>
      have hc := hs c rfl
      simp [init, skipWhitespace, hc]
  unfold getRtpmap at h
  rw [hinit] at h
  by_cases hne : value.takeWhile csToken = []
  · have hget : (Scanner.get csToken).run ⟨value, .ws⟩ = .error .syntaxErr := by
      show Scanner.get csToken _ = _
      simp only [Scanner.get, if_pos hne]
    simp only [scanRtpmap, StateT.run_bind, hget] at h
    cases h
  · have hget : (Scanner.get csToken).run ⟨value, .ws⟩ =
        .ok (value.takeWhile csToken, ⟨settle .ws (value.dropWhile csToken), .ws⟩) := by
      show Scanner.get csToken _ = _
      simp only [Scanner.get, if_neg hne]
    have hrun : scanRtpmap.run ⟨value, .ws⟩ =
        (scanEncoding.run ⟨settle .ws (value.dropWhile csToken), .ws⟩).map
          fun e => (⟨value.takeWhile csToken, e.1.1, e.1.2.1, e.1.2.2⟩, e.2) := by
      simp only [scanRtpmap, StateT.run_bind, hget]
      rfl
    rw [hrun] at h
    cases he : scanEncoding.run ⟨settle .ws (value.dropWhile csToken), .ws⟩ with
    | error e =>
      rw [he] at h
      cases h
    | ok e =>
      rw [he] at h
      obtain rfl := Option.some.inj h
      rfl

lemma getRtpmap_valuePt {value : Bytes} {q : ℕ} (h : getRtpmap value = some r)
    (hv : valuePt value = some q) : toPt r.pt = q := by
  unfold valuePt at hv
  split_ifs at hv with hd
  have hs : ∀ c ∈ value.head?, isSpace c = false := by
    intro c hc
    have hc' : isDigit c = true := by
      rw [Option.mem_def.1 hc] at hd
      simpa using hd
    exact SdpOffer.isSpace_of_csToken (csToken_of_isDigit hc')
  have htake : (value.takeWhile csToken).takeWhile isDigit = value.takeWhile isDigit := by
    rw [List.takeWhile_takeWhile]
    congr 1
    funext c
    have := @csToken_of_isDigit c
    cases hc : isDigit c <;> simp_all
  rw [getRtpmap_pt h hs, toPt, ← strtoul_takeWhile, htake, strtoul_takeWhile]
  exact Option.some.inj hv

variable {attrs : List Attr} {p : ℕ}

lemma mem_dynPts :
    p ∈ dynPts attrs ↔ ∃ a ∈ attrs, ∃ r ∈ dynRtpmap a, toPt r.pt = p := by
  simp [dynPts]

lemma dynRtpmap_unique (h : (dynPts attrs).Nodup) {a b : Attr} {s : Rtpmap}
    (ha : a ∈ attrs) (hb : b ∈ attrs) (hr : dynRtpmap a = some r) (hs : dynRtpmap b = some s)
    (heq : toPt r.pt = toPt s.pt) : a = b := by
  induction attrs with
  | nil => cases ha
  | cons c attrs ih =>
    rw [dynPts_cons] at h
    have hout : ∀ {d : Attr} {t : Rtpmap}, d ∈ attrs → dynRtpmap d = some t →
        ∀ {u : Rtpmap}, dynRtpmap c = some u → toPt u.pt ≠ toPt t.pt := by
      intro d t hd ht u hu he
      refine (List.nodup_append.1 h).2.2 (toPt u.pt) (by simp [hu]) _ ?_ he
      exact mem_dynPts.2 ⟨d, hd, t, ht, rfl⟩
    rw [List.mem_cons] at ha hb
    rcases ha with ha | ha <;> rcases hb with hb | hb
    · rw [ha, hb]
    · exact absurd heq (hout hb hs (ha ▸ hr))
    · exact absurd heq.symm (hout ha hr (hb ▸ hs))
    · exact ih (List.nodup_append.1 h).2.1 ha hb

section Line

variable {m : Media} {st : Assign} (hm : Renamable m) (hnodup : (dynPts m.attrs).Nodup)
  (hr : st.Renames (dynPts m.attrs))

include hr in
lemma Assign.Renames.changed_mem {p : ℕ} (hp : p ∈ dynPts m.attrs) :
    changed st.change p = st.change p ∧ changedDyn st.change p = st.change p := by
  have hdyn := hr.dynamic p hp
  have hne : st.change p ≠ 0 := by
    have := isDynamicPt_iff.1 hdyn
    omega
  have hchanged : changed st.change p = st.change p := if_neg hne
  exact ⟨hchanged, by rw [changedDyn, if_pos (dynPts_dynamic hp), hchanged]⟩

include hr in
lemma Assign.Renames.changedDyn_dynamic {p : ℕ} (hp : isDynamicPt p = true) :
    isDynamicPt (changedDyn st.change p) = true := by
  by_cases hmem : p ∈ dynPts m.attrs
  · rw [(hr.changed_mem hmem).2]
    exact hr.dynamic p hmem
  · rw [changedDyn, if_pos hp, changed, if_pos (hr.untouched p hmem)]
    exact hp

variable {value : Bytes} {pt : ℕ}

lemma Spells.renamed {newPt : ℕ} (h : Spells pt value) (hpt : isDynamicPt pt = true) :
    (if newPt = pt then value else rewritePt2 value pt newPt) =
      utoa newPt ++ value.drop (utoa pt).length := by
  split_ifs with heq
  · rw [heq]
    exact h.eq
  · exact rewritePt2_eq hpt value newPt

variable {a : Attr}

include hm hr in
lemma renameRtpmap_spec {r : Rtpmap} (ha : a ∈ m.attrs) (har : dynRtpmap a = some r) :
    (renameRtpmap st.change a).name = lit "rtpmap" ∧
    valuePt (renameRtpmap st.change a).value = some (st.change (toPt r.pt)) ∧
    ∃ r', getRtpmap (renameRtpmap st.change a).value = some r' ∧
      toPt r'.pt = st.change (toPt r.pt) ∧ r'.encName = r.encName ∧ r'.clockRate = r.clockRate ∧
      r'.param = r.param := by
  have hmem : toPt r.pt ∈ dynPts m.attrs := mem_dynPts.2 ⟨a, ha, r, har, rfl⟩
  have hdyn := hr.dynamic _ hmem
  have hspell := hm.spelled a ha r har
  have hvalue : (renameRtpmap st.change a).value =
      utoa (st.change (toPt r.pt)) ++ a.value.drop (utoa (toPt r.pt)).length := by
    simp only [renameRtpmap, har]
    exact hspell.renamed (dynPts_dynamic hmem)
  have hname : a.name = lit "rtpmap" ∧ getRtpmap a.value = some r := by
    unfold dynRtpmap at har
    split_ifs at har with hn
    exact ⟨hn, (Option.filter_eq_some_iff.1 har).1⟩
  refine ⟨?_, ?_, ?_⟩
  · simp only [renameRtpmap, har]
    exact hname.1
  · rw [hvalue]
    exact valuePt_utoa_append (lt_of_isDynamicPt hdyn) hspell.2
  · rw [hvalue]
    refine @getRtpmap_rename (toPt r.pt) _ hdyn _ hspell.2 r ?_
    rw [← hspell.eq]
    exact hname.2

variable {change : ℕ → ℕ}

lemma renameRtpmap_of_none (h : dynRtpmap a = none) :
    renameRtpmap change a = a := by
  simp only [renameRtpmap, h]

lemma renameRtpmap_name (change : ℕ → ℕ) (a : Attr) : (renameRtpmap change a).name = a.name := by
  unfold renameRtpmap
  split <;> rfl

include hm hr in
lemma findAttr_renamed (hpt : pt ∈ dynPts m.attrs) {b : Attr}
    (hfind : findAttr (m.attrs.map (renameRtpmap st.change)) (lit "rtpmap")
      (some (utoa (st.change pt))) = some b) :
    ∃ a ∈ m.attrs, ∃ r, dynRtpmap a = some r ∧ toPt r.pt = pt ∧ b = renameRtpmap st.change a := by
  have hdyn := hr.dynamic pt hpt
  obtain ⟨hmem, hname, hval⟩ := findAttr_some hfind
  obtain ⟨-, hval⟩ := hval _ rfl
  rw [fmtPt_utoa (lt_of_isDynamicPt hdyn)] at hval
  obtain ⟨a, ha, rfl⟩ := List.mem_map.1 hmem
  rw [renameRtpmap_name] at hname
  refine ⟨a, ha, ?_⟩
  cases har : dynRtpmap a with
  | some r =>
    refine ⟨r, rfl, ?_, rfl⟩
    rw [(renameRtpmap_spec hm hr ha har).2.1] at hval
    exact hr.injective _ (mem_dynPts.2 ⟨a, ha, r, har, rfl⟩) _ hpt (Option.some.inj hval)
  | none =>
    rw [renameRtpmap_of_none har] at hval
    obtain ⟨r, hget⟩ := Option.isSome_iff_exists.1 (hm.readable a ha hname)
    have hpt' := getRtpmap_valuePt hget hval
    simp [dynRtpmap, hname, hget, Option.filter, hpt', hdyn] at har

include hm hr hnodup in
lemma isRed_renamed (hpt : pt ∈ dynPts m.attrs) :
    isRed (m.attrs.map (renameRtpmap st.change)) (st.change pt) = true ↔ IsRedPt m.attrs pt := by
  have hdyn := hr.dynamic pt hpt
  constructor
  · intro h
    unfold isRed at h
    split at h
    · cases h
    · rename_i b hfind
      obtain ⟨a, ha, r, har, hrpt, rfl⟩ := findAttr_renamed hm hr hpt hfind
      obtain ⟨r', hget, -, henc, -⟩ := (renameRtpmap_spec hm hr ha har).2.2
      rw [hget, Option.any_some, henc] at h
      exact ⟨a, ha, r, har, hrpt, h⟩
  · rintro ⟨a, ha, r, har, hrpt, hred⟩
    obtain ⟨hname, hval, -⟩ := renameRtpmap_spec hm hr ha har
    unfold isRed
    split
    · rename_i hnone
      have hmatch := List.find?_eq_none.1 hnone _ (List.mem_map_of_mem ha)
      simp [Sdp.attrMatches, hname, hval, hrpt, fmtPt_utoa (lt_of_isDynamicPt hdyn)] at hmatch
    · rename_i b hfind
      obtain ⟨a', ha', s, has, hspt, rfl⟩ := findAttr_renamed hm hr hpt hfind
      obtain rfl := dynRtpmap_unique hnodup ha ha' har has (hrpt.trans hspt.symm)
      obtain ⟨r', hget, -, henc, -⟩ := (renameRtpmap_spec hm hr ha har).2.2
      rw [hget, Option.any_some, henc]
      exact hred

variable {f : Bytes × Bytes}

lemma getFmtp_spelled (h : Spells pt value)
    (hf : getFmtp value = some f) : value.drop (utoa pt).length = 32 :: f.2 := by
  rw [h.eq] at hf
  simp only [getFmtp, (takeWhile_utoa pt h.2).1, (takeWhile_utoa pt h.2).2] at hf
  split at hf
  · cases hf
  · rename_i c param ht
    split_ifs at hf with hc
    obtain rfl := Option.some.inj hf
    rw [ht, hc.2]

lemma length_redBody_le {l : List ℕ} {f g : ℕ → ℕ} (h : ∀ x ∈ l, (utoa (f x)).length ≤ (utoa (g x)).length) :
    (redBody (l.map f)).length ≤ (redBody (l.map g)).length := by
  induction l with
  | nil => exact le_rfl
  | cons x l ih =>
    have hx := h x (by simp)
    have hl := ih fun y hy => h y (by simp [hy])
    cases l with
    | nil => simpa [redBody, List.intercalate] using hx
    | cons y l =>
      simp only [List.map_cons, redBody_cons_cons, List.length_append, List.length_cons] at hl ⊢
      omega

lemma length_utoa_le {p : ℕ} (h : isDynamicPt p = true) : (utoa p).length ≤ 3 := by
  rw [length_utoa h]
  split_ifs <;> omega

include hr in
lemma RedFits.renamed {refs : List ℕ} (h : RedFits refs) {newPt : ℕ} (hnew : isDynamicPt newPt = true) :
    (utoa newPt ++ 32 :: redBody (refs.map (changedDyn st.change))).length < maxFmtpStrLen := by
  have hbody : (redBody (refs.map (changedDyn st.change))).length ≤
      (redBody (refs.map fun r => if isDynamicPt r then 127 else r)).length := by
    refine length_redBody_le fun r _ => ?_
    by_cases hd : isDynamicPt r = true
    · rw [if_pos hd]
      exact length_utoa_le (hr.changedDyn_dynamic hd)
    · rw [if_neg hd, changedDyn, if_neg hd]
  have hnew := length_utoa_le hnew
  unfold RedFits at h
  rw [List.length_append, List.length_cons]
  omega

include hr in
lemma redRefs_renamed (param : Bytes) : redRefs (redBody ((redRefs param).map (changedDyn st.change))) =
      (redRefs param).map (changedDyn st.change) := by
  refine redRefs_redBody ?_ ?_
  · have := @length_parseFmtpData param.length 0 param (Nat.zero_le _)
    rw [List.length_map, redRefs, List.length_map]
    omega
  · intro x hx
    obtain ⟨r, hrmem, rfl⟩ := List.mem_map.1 hx
    by_cases hd : isDynamicPt r = true
    · exact lt_of_isDynamicPt (hr.changedDyn_dynamic hd)
    · rw [changedDyn, if_neg hd]
      obtain ⟨s, -, rfl⟩ := List.mem_map.1 hrmem
      exact toPt_lt s

lemma getFmtp_toPt (h : getFmtp value = some f) :
    toPt f.1 = toPt value := by
  rw [(getFmtp_fmt h).1, toPt, toPt, strtoul_takeWhile]

include hm hr hnodup in
lemma renameFmtp_spec (ha : a ∈ m.attrs) (hname : a.name = lit "fmtp") (hf : getFmtp a.value = some f) (hdyn : isDynamicPt (toPt f.1) = true) :
    ∃ f', getFmtp (renameFmtp st.change (m.attrs.map (renameRtpmap st.change)) a).value = some f' ∧
      toPt f'.1 = changedDyn st.change (toPt f.1) ∧
      (IsRedPt m.attrs (toPt f.1) → redRefs f'.2 = (redRefs f.2).map (changedDyn st.change)) ∧
      (¬ IsRedPt m.attrs (toPt f.1) → f'.2 = f.2) := by
  obtain ⟨f₀, hf₀, hspell, hmem, hred⟩ := hm.fmtps a ha hname (getFmtp_toPt hf ▸ hdyn)
  obtain rfl : f₀ = f := Option.some.inj (hf₀.symm.trans hf)
  obtain ⟨hch, hch'⟩ := hr.changed_mem hmem
  have hnew := hr.dynamic _ hmem
  have hisRed := isRed_renamed hm hnodup hr hmem
  rw [hch']
  simp only [renameFmtp, if_pos hname, hf, if_pos hdyn, hch]
  by_cases hbody : isRed (m.attrs.map (renameRtpmap st.change)) (st.change (toPt f₀.1)) = true ∧
      redRefs f₀.2 ≠ []
  · rw [if_pos hbody]
    rw [hisRed] at hbody
    simp only [renameRed]
    split_ifs with hmod
    · refine ⟨_, getFmtp_utoa _ _, toPt_utoa (lt_of_isDynamicPt hnew), fun _ => ?_,
        fun hnot => absurd hbody.1 hnot⟩
      exact redRefs_renamed hr f₀.2
    · -- nothing changes, since the new value fits
      have hsame : ¬ (st.change (toPt f₀.1) ≠ toPt f₀.1 ∨
          (redRefs f₀.2).any (fun r => changedDyn st.change r ≠ r) = true) := fun hc =>
        hmod ⟨(hred hbody.1).1.renamed hr hnew, hc⟩
      rw [not_or, not_not] at hsame
      refine ⟨f₀, hf, hsame.1.symm, fun _ => ?_, fun hnot => absurd hbody.1 hnot⟩
      conv_lhs => rw [← List.map_id (redRefs f₀.2)]
      refine List.map_congr_left fun r hrmem => ?_
      have hall := hsame.2
      simp only [List.any_eq_true, not_exists, not_and, decide_eq_true_eq, not_not] at hall
      exact (hall r hrmem).symm
  · rw [if_neg hbody]
    rw [hisRed] at hbody
    have hvalue : (if st.change (toPt f₀.1) = toPt f₀.1 then a
        else { a with value := rewritePt2 a.value (toPt f₀.1) (st.change (toPt f₀.1)) }).value =
        utoa (st.change (toPt f₀.1)) ++ 32 :: f₀.2 := by
      rw [← getFmtp_spelled hspell hf, ← hspell.renamed hdyn]
      split_ifs <;> rfl
    rw [hvalue]
    refine ⟨_, getFmtp_utoa _ _, toPt_utoa (lt_of_isDynamicPt hnew), fun hredPt => ?_, fun _ => rfl⟩
    have hnil : redRefs f₀.2 = [] := by
      by_contra hne
      exact hbody ⟨hredPt, hne⟩
    rw [hnil]
    rfl

lemma renameFmtp_name (change : ℕ → ℕ) (attrs : List Attr) (a : Attr) :
    (renameFmtp change attrs a).name = a.name := by
  unfold renameFmtp
  split_ifs
  · split
    · rfl
    · dsimp only
      split_ifs <;> rfl
  · rfl

lemma renameFmtp_of_not {attrs : List Attr}
    (h : ¬ (a.name = lit "fmtp" ∧ isDynamicPt (toPt a.value) = true)) : renameFmtp change attrs a = a := by
  unfold renameFmtp
  split_ifs with hname
  · split
    · rfl
    · rename_i fmt param hf
      have hpt := getFmtp_toPt hf
      rw [if_neg fun hd => h ⟨hname, hpt ▸ hd⟩]
  · rfl

lemma dynRtpmap_of_name (h : a.name ≠ lit "rtpmap") : dynRtpmap a = none := by
  simp [dynRtpmap, h]

lemma renameFmtp_of_name {attrs : List Attr} (h : a.name ≠ lit "fmtp") : renameFmtp change attrs a = a :=
  renameFmtp_of_not fun hc => h hc.1

include hm hr hnodup in
lemma attr_renamed (ha : a ∈ m.attrs) : AttrRenamed (changedDyn st.change) (IsRedPt m.attrs) a
      (renameFmtp st.change (m.attrs.map (renameRtpmap st.change)) (renameRtpmap st.change a)) := by
  constructor
  · rw [renameFmtp_name, renameRtpmap_name]
  · intro r har
    obtain ⟨hname, -, r', hget, hpt, h1, h2, h3⟩ := renameRtpmap_spec hm hr ha har
    have hmem : toPt r.pt ∈ dynPts m.attrs := mem_dynPts.2 ⟨a, ha, r, har, rfl⟩
    rw [renameFmtp_of_name (by rw [hname]; decide)]
    refine ⟨r', ?_, by rw [hpt, (hr.changed_mem hmem).2], h1, h2, h3⟩
    simp [dynRtpmap, hname, hget, Option.filter, hpt, hr.dynamic _ hmem]
  · intro hname f hf hdyn
    rw [renameRtpmap_of_none (dynRtpmap_of_name (by rw [hname]; decide))]
    exact renameFmtp_spec hm hnodup hr ha hname hf hdyn
  · intro hnone hnot
    rw [renameRtpmap_of_none hnone]
    exact renameFmtp_of_not hnot

include hm hr in
lemma fmt_renamed {f : Bytes} (hf : f ∈ m.fmts) :
    FmtRenamed (changedDyn st.change) f (renameFmt st.change f) := by
  unfold FmtRenamed
  split_ifs with hdyn
  · obtain ⟨hspell, hmem⟩ := hm.fmts f hf hdyn
    obtain ⟨hch, hch'⟩ := hr.changed_mem hmem
    have hvalue : renameFmt st.change f =
        utoa (st.change (toPt f)) ++ f.drop (utoa (toPt f)).length := by
      rw [← hspell.renamed hdyn]
      by_cases hsame : st.change (toPt f) = toPt f
      · simp [renameFmt, hch, hsame]
      · simp [renameFmt, hch, hdyn, hsame]
    rw [hvalue, hch']
    exact toPt_utoa_append (lt_of_isDynamicPt (hr.dynamic _ hmem)) hspell.2
  · simp [renameFmt, hdyn]

end Line

lemma Renaming.refl (m : Media) : Renaming id m m where
  injective := Set.injOn_id _
  attrs := by
    refine List.forall₂_same.2 fun a _ => ⟨rfl, fun r hr => ⟨r, hr, rfl, rfl, rfl, rfl⟩, ?_,
      fun _ _ => rfl⟩
    exact fun _ f hf _ => ⟨f, hf, rfl, fun _ => (List.map_id _).symm, fun _ => rfl⟩
  fmts := List.forall₂_same.2 fun f _ => by
    unfold FmtRenamed
    split_ifs <;> rfl
  frame := rfl

lemma Renaming.dynPts_eq {ρ : ℕ → ℕ} {m m' : Media} (h : Renaming ρ m m') :
    dynPts m'.attrs = (dynPts m.attrs).map ρ := by
  have hattrs := h.attrs
  generalize IsRedPt m.attrs = red at hattrs
  generalize m.attrs = l, m'.attrs = l' at hattrs ⊢
  induction hattrs with
  | nil => rfl
  | @cons a a' l l' ha hl ih =>
    rw [dynPts_cons, dynPts_cons, List.map_append, ih]
    congr 1
    cases hr : dynRtpmap a with
    | some r =>
      obtain ⟨r', hr', hpt, -⟩ := ha.rtpmap r hr
      simp [Option.mem_def.1 hr', hpt]
    | none =>
      by_cases hfmtp : a.name = lit "fmtp" ∧ isDynamicPt (toPt a.value) = true
      · have hname : a'.name ≠ lit "rtpmap" := by
          rw [ha.name, hfmtp.1]
          decide
        rw [dynRtpmap_of_name hname]
        rfl
      · rw [ha.other hr hfmtp, hr]
        rfl

lemma length_dynPts_le (h : (dynPts attrs).Nodup) : (dynPts attrs).length ≤ 32 := by
  have hsub : (dynPts attrs).toFinset ⊆ Finset.Icc 96 127 := by
    intro q hq
    rw [Finset.mem_Icc]
    exact isDynamicPt_iff.1 (dynPts_dynamic (List.mem_toFinset.1 hq))
  have := Finset.card_le_card hsub
  rw [List.toFinset_card_of_nodup h] at this
  exact this

variable (cfg : Config) {map : PtMap}

lemma assignMedia_renaming (isOffer : Bool) {m : Media}
    (hmap : map.Consistent) (hport : m.port ≠ 0) (hnodup : (dynPts m.attrs).Nodup)
    (hm : Renamable m) : ∃ ρ, Renaming ρ m (assignMedia cfg isOffer map m).2 := by
  unfold assignMedia
  rw [if_neg hport]
  cases cfg.lineCodecs m.media with
  | none => exact ⟨id, Renaming.refl m⟩
  | some line =>
    obtain ⟨audio, codecs⟩ := line
    obtain ⟨hr, -, hattrs⟩ := assignRtpmaps_renames cfg isOffer audio codecs
      (Assign.good_init hmap) (Assign.renames_init map) (by simpa using length_dynPts_le hnodup)
      (by simpa using hnodup)
    dsimp only
    generalize assignRtpmaps cfg isOffer audio codecs ⟨map, fun _ => false, fun _ => 0⟩ m.attrs =
      res at hr hattrs
    obtain ⟨st, attrs⟩ := res
    dsimp only at hr hattrs
    have hr : st.Renames (dynPts m.attrs) := by
      rw [List.append_nil] at hr
      exact ⟨fun q hq => hr.used q (by simpa using hq), fun q hq => hr.dynamic q (by simpa using hq),
        fun q hq q' hq' => hr.injective q (by simpa using hq) q' (by simpa using hq'),
        fun q hq => hr.untouched q (by simpa using hq)⟩
    rw [hattrs]
    refine ⟨changedDyn st.change, ?_, ?_, ?_, rfl⟩
    · intro p hp q hq heq
      rw [(hr.changed_mem hp).2, (hr.changed_mem hq).2] at heq
      exact hr.injective p hp q hq heq
    · rw [List.map_map, List.forall₂_map_right_iff, List.forall₂_same]
      exact fun a ha => attr_renamed hm hnodup hr ha
    · rw [List.forall₂_map_right_iff, List.forall₂_same]
      exact fun f hf => fmt_renamed hm hr hf

def lineGrants (cfg : Config) (isOffer : Bool) (map : PtMap) (m : Media) :
    List (Assign × ℕ × ℕ) :=
  match cfg.lineCodecs m.media with
  | none => []
  | some (audio, codecs) =>
    grants cfg isOffer audio codecs ⟨map, fun _ => false, fun _ => 0⟩ m.attrs

lemma PtMap.Consistent.assignMedia (isOffer : Bool) {m : Media}
    (h : map.Consistent) (hlen : (dynPts m.attrs).length ≤ 32) :
    (assignMedia cfg isOffer map m).1.Consistent := by
  unfold SdpNeg.assignMedia
  split_ifs
  · exact consistent_init
  · split
    · exact h
    · rename_i audio codecs _
      exact (assignRtpmaps_good cfg isOffer audio codecs (Assign.good_init h)
        (by simpa using hlen)).1

lemma PtMap.Keeps.assignMedia (isOffer : Bool) {m : Media} {c : ℕ}
    (h : map.Keeps p c) (hmap : map.Consistent) (hport : m.port ≠ 0) (hlen : (dynPts m.attrs).length ≤ 32) :
    (assignMedia cfg isOffer map m).1.Keeps p c ∧
      ∀ g ∈ lineGrants cfg isOffer map m, g.1.Fits g.2.1 g.2.2 ∧ g.1.map.Keeps p c := by
  unfold SdpNeg.assignMedia lineGrants
  rw [if_neg hport]
  cases cfg.lineCodecs m.media with
  | none => exact ⟨h, fun g hg => by cases hg⟩
  | some line =>
    obtain ⟨audio, codecs⟩ := line
    exact (assignRtpmaps_good cfg isOffer audio codecs (Assign.good_init hmap)
      (by simpa using hlen)).2 p c h

def mapsAfter (cfg : Config) (calls : List AssignCall) : ℕ → PtMap :=
  calls.foldl (fun maps c => (assignPtAndUpdateMap cfg c.isOffer maps c.media).1) fun _ => .init

lemma mapsAfter_append (calls : List AssignCall) (c : AssignCall) : mapsAfter cfg (calls ++ [c]) =
      (assignPtAndUpdateMap cfg c.isOffer (mapsAfter cfg calls) c.media).1 := by
  simp [mapsAfter]

def Chained (cfg : Config) (n : Neg) : Prop :=
  n.maps = mapsAfter cfg n.assigned ∧ ∀ before c after, n.assigned = before ++ c :: after →
    c.result = (assignPtAndUpdateMap cfg c.isOffer (mapsAfter cfg before) c.media).2

variable {n : Neg}

lemma chained_assignPt (h : Chained cfg n) (isOffer : Bool)
    (s : Session) : Chained cfg (n.assignPt cfg isOffer s).1 := by
  constructor
  · show _ = mapsAfter cfg (n.assigned ++ [_])
    rw [mapsAfter_append, ← h.1]
    rfl
  · intro before c after heq
    have heq : n.assigned ++ [_] = before ++ c :: after := heq
    cases after using List.reverseRecOn with
    | nil =>
      obtain ⟨rfl, hc⟩ := List.append_inj' heq rfl
      obtain rfl := (List.singleton_inj.1 hc).symm
      rw [← h.1]
    | append_singleton after d =>
      rw [← List.cons_append, ← List.append_assoc] at heq
      obtain ⟨heq, -⟩ := List.append_inj' heq rfl
      exact h.2 before c after heq

lemma step_chained (op : Op) (h : Chained cfg n) : Chained cfg (step cfg n op) := by
  have hmove := step_move cfg n op
  generalize step cfg n op = n' at hmove
  cases hmove with
  | offerAnew flag loc => exact chained_assignPt cfg h true loc
  | offerAfter flag loc old media => exact chained_assignPt cfg h true (offerFrom old loc media)
  | makeAnswer loc remote locals remotes =>
    exact chained_assignPt cfg h false { loc with media := locals }
  | localAnswer loc hst =>
    unfold answerWith
    split <;> exact h
  | _ => exact h

lemma created_chained (h : Created n) : Chained cfg n := by
  have hempty : n.assigned = [] ∧ n.maps = fun _ => .init := by
    rcases h with ⟨loc, h⟩ | ⟨initial, remote, h⟩
    · unfold createWLocalOffer at h
      split_ifs at h
      cases h
      exact ⟨rfl, rfl⟩
    · unfold createWRemoteOffer at h
      split_ifs at h
      cases initial with
      | none =>
        cases h
        exact ⟨rfl, rfl⟩
      | some i =>
        dsimp only at h
        split_ifs at h
        cases h
        exact ⟨rfl, rfl⟩
  refine ⟨by rw [hempty.1, hempty.2]; rfl, fun before c after heq => ?_⟩
  simp [hempty.1] at heq

def SmallLine (i : ℕ) (calls : List AssignCall) : Prop :=
  ∀ c ∈ calls, ∀ m ∈ c.media[i]?, (dynPts m.attrs).length ≤ 32

def EnabledLine (i : ℕ) (calls : List AssignCall) : Prop :=
  ∀ c ∈ calls, ∀ m ∈ c.media[i]?, m.port ≠ 0

lemma mapsAfter_consistent {i : ℕ} {calls : List AssignCall}
    (h : SmallLine i calls) : (mapsAfter cfg calls i).Consistent := by
  induction calls using List.reverseRecOn with
  | nil => exact PtMap.consistent_init
  | append_singleton calls c ih =>
    have hcalls := ih fun d hd => h d (by simp [hd])
    rw [mapsAfter_append]
    unfold assignPtAndUpdateMap
    dsimp only
    cases hm : c.media[i]? with
    | none => exact hcalls
    | some m => exact hcalls.assignMedia cfg c.isOffer (h c (by simp) m hm)

lemma mapsAfter_keeps {i c : ℕ} {early later : List AssignCall}
    (h : (mapsAfter cfg early i).Keeps p c) (hsmall : SmallLine i (early ++ later))
    (hen : EnabledLine i later) : (mapsAfter cfg (early ++ later) i).Keeps p c := by
  induction later using List.reverseRecOn with
  | nil => simpa using h
  | append_singleton later d ih =>
    rw [← List.append_assoc] at hsmall ⊢
    have hsmall' : SmallLine i (early ++ later) := fun e he =>
      hsmall e (List.mem_append_left _ he)
    have hlater := ih hsmall' fun e he => hen e (by simp [he])
    rw [mapsAfter_append]
    unfold assignPtAndUpdateMap
    dsimp only
    cases hm : d.media[i]? with
    | none => exact hlater
    | some m =>
      exact (hlater.assignMedia cfg d.isOffer (mapsAfter_consistent cfg hsmall')
        (hen d (by simp) m hm) (hsmall d (by simp) m hm)).1

/-- In every run: an active media line that goes through `assign_pt_and_update_map` and whose text
spells its distinct payload types plainly comes out with distinct ones, renamed by one injective
map, and a payload type that was recorded for a codec before, in a call since which the line was
not disabled, is given to another one only when every payload type has been mapped. -/
theorem pt_mapping_law (cfg : Config) {n : Neg} (ops : List Op) (hc : Created n)
    {before after : List AssignCall} {call : AssignCall}
    (hcall : (run (step cfg) n ops).assigned = before ++ call :: after) {i : ℕ} {m : Media}
    (hm : call.media[i]? = some m) (hport : m.port ≠ 0) (hsmall : SmallLine i before)
    (hnodup : (dynPts m.attrs).Nodup) (htext : Renamable m) :
    (∃ m' ρ, call.result[i]? = some m' ∧ Renaming ρ m m' ∧ (dynPts m'.attrs).Nodup) ∧
    ∀ early later, before = early ++ later → EnabledLine i later →
      ∀ p c, (mapsAfter cfg early i).ptToCodec p = some c →
      ∀ g ∈ lineGrants cfg call.isOffer (mapsAfter cfg before i) m, g.2.2 = p → g.2.1 ≠ c → g.1.map.Full := by
  have hchained : Chained cfg (run (step cfg) n ops) :=
    run_invariant (fun _ op h => step_chained cfg op h) (created_chained cfg hc) ops
  have hmap := mapsAfter_consistent cfg hsmall
  constructor
  · obtain ⟨ρ, hren⟩ := assignMedia_renaming cfg call.isOffer hmap hport hnodup htext
    refine ⟨_, ρ, ?_, hren, ?_⟩
    · rw [hchained.2 before call after hcall]
      simp [assignPtAndUpdateMap, hm]
    · rw [hren.dynPts_eq]
      exact hnodup.map_on fun p hp q hq heq => hren.injective hp hq heq
  · rintro early later rfl hen p c hrec g hg hp hne
    have hkeeps := mapsAfter_keeps cfg (.inl hrec) hsmall hen
    obtain ⟨hfit, hk⟩ := (hkeeps.assignMedia cfg call.isOffer hmap hport
      (length_dynPts_le hnodup)).2 g hg
    rcases hk with hk | hfull
    · rw [← hp] at hk
      rcases hfit.fits with hn | hi | hfull
      · simp [hn] at hk
      · exact absurd (Option.some.inj (hi.symm.trans hk)) hne
      · exact hfull
    · exact hfull

/-- A text line with the codec `t140` at 98 and the redundancy codec at `red`. -/
def textLine (red : String) (refs : String) : Media where
  media := lit "text"
  port := 5004
  portCount := 0
  transport := lit "RTP/AVP"
  fmts := [lit red, lit "98"]
  conn := none
  bandw := []
  attrs := [⟨lit "rtpmap", lit "98 t140/1000"⟩, ⟨lit "rtpmap", lit (red ++ " red/1000")⟩,
    ⟨lit "fmtp", lit (red ++ " " ++ refs)⟩]

def textSession (red : String) (refs : String) : Session :=
  { audioSession "a" 1 4000 with media := [textLine red refs] }

/-- The first offer is answered with port zero. The second one has the redundancy codec at 101 and
is cancelled, and the third one has it at 100. -/
def movedRed (refs : String) : List Op :=
  [.setRemoteAnswer (audioSession "b" 1 0), .negotiate none,
    .modifyLocalOffer2 false (textSession "101" "98/98"), .cancelOffer,
    .modifyLocalOffer2 false (textSession "100" refs)]

def firstCall : AssignCall := ⟨true, [textLine "101" "98/98"], [textLine "101" "98/98"]⟩

def secondCall : AssignCall := ⟨true, [textLine "100" "98/98/98"], [textLine "101" "98/98/98"]⟩

theorem pt_mapping_law_red :
    ∃ m' ρ, secondCall.result[0]? = some m' ∧ Renaming ρ (textLine "100" "98/98/98") m' ∧
      (dynPts m'.attrs).Nodup := by
  have hcall : (run (step noCodecs) (offered (audioSession "a" 1 4000))
      (movedRed "98/98/98")).assigned = [firstCall] ++ secondCall :: [] := by decide +kernel
  have hsmall : SmallLine 0 [firstCall] := by
    unfold SmallLine
    decide +kernel
  have hline : secondCall.media[0]? = some (textLine "100" "98/98/98") := rfl
  exact (pt_mapping_law noCodecs (movedRed "98/98/98") created_offered hcall hline (by decide) hsmall
    (by decide +kernel) (by decide +kernel)).1

def longRefs : String := "98/98/98/98/98/98/98/98/98/98"

/-- The third offer has ten references. Its rtpmap and its format are renamed to 101, and its fmtp
attribute keeps the payload type 100. -/
theorem long_red_fmtp_not_renamed : ¬ ∀ (cfg : Config) (n : Neg) (ops : List Op), Created n →
      ∀ before call after, (run (step cfg) n ops).assigned = before ++ call :: after →
      ∀ (i : ℕ) (m : Media), call.media[i]? = some m → m.port ≠ 0 → (dynPts m.attrs).length ≤ 32 →
      (dynPts m.attrs).Nodup →
      ∃ m' ρ, call.result[i]? = some m' ∧ Renaming ρ m m' ∧ (dynPts m'.attrs).Nodup := by
  intro h
  let line := textLine "101" longRefs
  let result : Media := { line with
    attrs := [⟨lit "rtpmap", lit "98 t140/1000"⟩, ⟨lit "rtpmap", lit "101 red/1000"⟩,
      ⟨lit "fmtp", lit ("100 " ++ longRefs)⟩] }
  have hcall : (run (step noCodecs) (offered (audioSession "a" 1 4000)) (movedRed longRefs)).assigned =
      [firstCall] ++ ⟨true, [textLine "100" longRefs], [result]⟩ :: [] := by decide +kernel
  obtain ⟨m', ρ, hm', hren, -⟩ := h noCodecs _ _ created_offered _ _ _ hcall 0
    (textLine "100" longRefs) rfl (by decide) (by decide +kernel) (by decide +kernel)
  obtain rfl : result = m' := Option.some.inj hm'
  obtain ⟨-, hattrs⟩ := List.forall₂_cons.1 hren.attrs
  obtain ⟨hrtpmap, hattrs⟩ := List.forall₂_cons.1 hattrs
  obtain ⟨hfmtp, -⟩ := List.forall₂_cons.1 hattrs
  obtain ⟨r', hr', hpt, -⟩ := hrtpmap.rtpmap ⟨lit "100", lit "red", 1000, []⟩ (by decide +kernel)
  obtain ⟨f', hf', hpt', -⟩ := hfmtp.fmtp rfl (lit "100", lit longRefs) (by decide +kernel)
    (by decide +kernel)
  have hr : dynRtpmap ⟨lit "rtpmap", lit "101 red/1000"⟩ = some ⟨lit "101", lit "red", 1000, []⟩ := by
    decide +kernel
  have hf : getFmtp (lit ("100 " ++ longRefs)) = some (lit "100", lit longRefs) := by decide +kernel
  obtain rfl := Option.some.inj (hr.symm.trans hr')
  obtain rfl := Option.some.inj (hf.symm.trans hf')
  have hne : toPt (lit "101") ≠ toPt (lit "100") := by decide +kernel
  exact hne (hpt.trans hpt'.symm)

end PjProject.SdpNeg
