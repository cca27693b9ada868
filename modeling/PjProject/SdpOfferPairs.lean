import PjProject.SdpOffer

/-!
# The pairs of formats

Which formats `match_offer` pairs, and how the formats of the answer are reordered to
those of the pairs.
-/
namespace PjProject.SdpOffer

open Sdp

def Apart (fmts : List Bytes) : Prop :=
  fmts.Pairwise fun f g => f ≠ g ∧ ((fmtPt f).isSome → fmtPt f ≠ fmtPt g)

instance (fmts : List Bytes) : Decidable (Apart fmts) :=
  inferInstanceAs (Decidable (List.Pairwise _ _))

variable {fmts : List Bytes}

lemma Apart.eq_of_fmtPt (h : Apart fmts) {f g : Bytes} (hf : f ∈ fmts)
    (hg : g ∈ fmts) (hs : (fmtPt f).isSome) (he : fmtPt f = fmtPt g) : f = g := by
  induction fmts with
  | nil => simp at hf
  | cons x xs ih =>
    obtain ⟨hx, hxs⟩ := List.pairwise_cons.1 h
    rcases List.mem_cons.1 hf with rfl | hf'
    · rcases List.mem_cons.1 hg with rfl | hg'
      · rfl
      · exact absurd he ((hx g hg').2 hs)
    · rcases List.mem_cons.1 hg with rfl | hg'
      · exact absurd he.symm ((hx f hf').2 (he ▸ hs))
      · exact ih hxs hf' hg'

lemma Apart.nodup (h : Apart fmts) : fmts.Nodup := h.imp fun h => h.1

lemma swap_left (arr : Slots) (i j : ℕ) : swap arr i j i = arr j := by simp [swap]

lemma swap_right (arr : Slots) (i j : ℕ) : swap arr i j j = arr i := by
  by_cases h : j = i
  · simp [swap, h]
  · simp [swap, h]

variable {i : ℕ}

lemma swap_other {j k : ℕ} (arr : Slots) (hi : k ≠ i) (hj : k ≠ j) : swap arr i j k = arr k := by
  simp [swap, hi, hj]

lemma swap_perm {count j : ℕ} (arr : Slots) (hi : i < count) (hj : j < count) :
    ((List.range count).map (swap arr i j)).Perm ((List.range count).map arr) := by
  have hcomp : swap arr i j = arr ∘ Equiv.swap i j := by
    funext k
    by_cases hki : k = i
    · rw [hki, swap_left, Function.comp_apply, Equiv.swap_apply_left]
    · by_cases hkj : k = j
      · rw [hkj, swap_right, Function.comp_apply, Equiv.swap_apply_right]
      · rw [swap_other arr hki hkj, Function.comp_apply, Equiv.swap_apply_of_ne_of_ne hki hkj]
  rw [hcomp, ← List.map_map]
  refine List.Perm.map arr ?_
  rw [List.perm_ext_iff_of_nodup (List.nodup_range.map (Equiv.injective _)) List.nodup_range]
  intro k
  simp only [List.mem_map, List.mem_range]
  constructor
  · rintro ⟨l, hl, rfl⟩
    rw [Equiv.swap_apply_def]
    split_ifs <;> assumption
  · intro hk
    refine ⟨Equiv.swap i j k, ?_, Equiv.swap_apply_self i j k⟩
    rw [Equiv.swap_apply_def]
    split_ifs <;> assumption

lemma findSlot_spec {arr : Slots} {count : ℕ} {fmt : Bytes} (h : ∃ j, i ≤ j ∧ j < count ∧ arr j = fmt) :
    i ≤ findSlot arr count i fmt ∧ findSlot arr count i fmt < count ∧
    arr (findSlot arr count i fmt) = fmt := by
  obtain ⟨j, hij, hj, ha⟩ := h
  unfold findSlot
  cases hf : (List.range' i (count - i)).find? fun j => arr j = fmt with
  | none =>
    rw [List.find?_eq_none] at hf
    have := hf j (by rw [List.mem_range'_1]; omega)
    simp [ha] at this
  | some k =>
    have hk := List.mem_range'_1.1 (List.mem_of_find?_eq_some hf)
    have hak := List.find?_some hf
    refine ⟨hk.1, ?_, by simpa using hak⟩
    simp only [Option.getD_some]
    omega

lemma reorder_spec {count i : ℕ} {fmts : List Bytes} {arr : Slots} (hnd : fmts.Nodup)
    (hmem : ∀ f ∈ fmts, ∃ j, i ≤ j ∧ j < count ∧ arr j = f) : (∀ k < i, reorder count i fmts arr k = arr k) ∧
    (∀ (t : ℕ) f, fmts[t]? = some f → reorder count i fmts arr (i + t) = f) ∧
    ((List.range count).map (reorder count i fmts arr)).Perm ((List.range count).map arr) := by
  induction fmts generalizing i arr with
  | nil => exact ⟨fun _ _ => rfl, by simp, List.Perm.refl _⟩
  | cons fmt rest ih =>
    obtain ⟨hnot, hnd'⟩ := List.nodup_cons.1 hnd
    obtain ⟨hij, hj, hfound⟩ := findSlot_spec (hmem fmt (by simp))
    simp only [reorder]
    generalize findSlot arr count i fmt = j at *
    obtain ⟨h1, h2, h3⟩ := @ih (i + 1) (swap arr i j) hnd' fun f hf => by
      obtain ⟨l, hil, hl, hal⟩ := hmem f (by simp [hf])
      have hlj : l ≠ j := by
        rintro rfl
        exact hnot (hfound ▸ hal ▸ hf)
      by_cases hli : l = i
      · exact ⟨j, by omega, hj, by rw [swap_right, ← hli, hal]⟩
      · exact ⟨l, by omega, hl, by rw [swap_other arr hli hlj, hal]⟩
    refine ⟨fun k hk => ?_, fun t f hf => ?_, h3.trans (swap_perm arr (by omega) hj)⟩
    · rw [h1 k (by omega), swap_other arr (by omega) (by omega)]
    · cases t with
      | zero =>
        simp only [List.getElem?_cons_zero, Option.some.injEq] at hf
        simp only [Nat.add_zero]
        rw [h1 i (by omega), swap_left, hfound, hf]
      | succ t =>
        rw [← h2 t f hf]
        congr 1
        omega

lemma reorder_formats {pas : List Bytes} (hnd : pas.Nodup) (hsub : ∀ f ∈ pas, f ∈ fmts) (junk : Bytes) :
    let arr := reorder fmts.length 0 pas fun k => fmts.getD k junk
    (List.range pas.length).map arr = pas ∧
    fmts.Perm (pas ++ (List.range' pas.length (fmts.length - pas.length)).map arr) := by
  intro arr
  have hle : pas.length ≤ fmts.length := (hnd.subperm hsub).length_le
  obtain ⟨-, h2, h3⟩ := @reorder_spec fmts.length 0 pas (fun k => fmts.getD k junk) hnd
    fun f hf => by
      obtain ⟨j, hj, rfl⟩ := List.mem_iff_getElem.1 (hsub f hf)
      exact ⟨j, Nat.zero_le _, hj, by simp [hj]⟩
  have hfront : (List.range pas.length).map arr = pas := by
    apply List.ext_getElem
    · simp
    · intro t ht ht'
      simp only [List.getElem_map, List.getElem_range]
      have := h2 t (pas[t]) (List.getElem?_eq_getElem ht')
      rwa [Nat.zero_add] at this
  refine ⟨hfront, ?_⟩
  have hback : (List.range fmts.length).map (fun k => fmts.getD k junk) = fmts := by
    apply List.ext_getElem
    · simp
    · intro t ht ht'
      simp at ht
      simp [ht]
  have hsplit : List.range fmts.length =
      List.range pas.length ++ List.range' pas.length (fmts.length - pas.length) := by
    have hlen : fmts.length = pas.length + (fmts.length - pas.length) := by omega
    conv_lhs => rw [hlen, List.range_eq_range', ← List.range'_append_1, Nat.zero_add]
    rw [List.range_eq_range']
  rw [hback, hsplit, List.map_append] at h3
  have hperm : fmts.Perm ((List.range pas.length).map arr ++
      (List.range' pas.length (fmts.length - pas.length)).map arr) := h3.symm
  rwa [hfront] at hperm

/-- A dynamic payload type, as `match_offer` tells them. -/
def dynamic (fmt : Bytes) : Bool := numeric fmt && 96 ≤ strtoul fmt % 2 ^ 32

lemma rtpmapMatch_comm {o l : Rtpmap} (h : rtpmapMatch o l = true) : rtpmapMatch l o = true := by
  simp only [rtpmapMatch, Bool.and_eq_true, Bool.or_eq_true, decide_eq_true_eq] at h ⊢
  obtain ⟨⟨hname, hclock⟩, hparam⟩ := h
  refine ⟨⟨stricmpEq_symm hname, hclock.symm⟩, ?_⟩
  rcases hparam with (hp | hp) | hp
  · exact .inl (.inl (stricmpEq_symm hp))
  · exact .inr hp
  · exact .inl (.inr hp)

structure PairOk (offer preanswer : Media) (p : Bytes × Bytes) : Prop where
  offered : p.1 ∈ offer.fmts
  known : p.2 ∈ preanswer.fmts
  codec : dynamic p.1 = true → ∃ o l, rtpmapOf offer.attrs p.1 = some o ∧
    rtpmapOf preanswer.attrs p.2 = some l ∧ rtpmapMatch o l = true

inductive Paired (master slave : Media) (fmt g : Bytes) : Prop
  | static (h : strtoul fmt % 2 ^ 32 < 96) (heq : strtoul g % 2 ^ 32 = strtoul fmt % 2 ^ 32)
  | dynamic {o l : Rtpmap} (ho : rtpmapOf master.attrs fmt = some o)
      (hl : rtpmapOf slave.attrs g = some l) (h : rtpmapMatch o l = true)
  | other (h : numeric fmt = false) (heq : g = fmt)

section Matching

variable {cfg : Config} {offer master slave : Media} {st st' : MatchState} {fmt : Bytes}

def Extends (cfg : Config) (master slave : Media) (fmt : Bytes) (old new : List (Bytes × Bytes)) :
    Prop :=
  new = old ∨ ∃ g ∈ slave.fmts, Paired master slave fmt g ∧ new = old ++ [pairOf cfg fmt g]

lemma matchStatic_extends (h : strtoul fmt % 2 ^ 32 < 96) :
    Extends cfg master slave fmt st.pairs (matchStatic cfg slave st fmt).pairs := by
  unfold matchStatic
  dsimp only
  split_ifs
  · exact .inl rfl
  · cases hg : slave.fmts.find? fun g =>
      strtoul g % 2 ^ 32 = strtoul fmt % 2 ^ 32 && numeric g with
    | none => exact .inl rfl
    | some g =>
      have hgs := List.find?_some hg
      simp only [Bool.and_eq_true, decide_eq_true_eq] at hgs
      exact .inr ⟨g, List.mem_of_find?_eq_some hg, .static h hgs.1, rfl⟩

lemma matchDynamic_extends {o : Rtpmap} (ho : rtpmapOf master.attrs fmt = some o) :
    Extends cfg master slave fmt st.pairs (matchDynamic cfg offer slave st fmt o).pairs := by
  unfold matchDynamic
  dsimp only
  generalize hst0 : (if kindOf o = .codec then { st with masterHasCodec := true } else st) = st0
  have hpairs : st0.pairs = st.pairs := by
    rw [← hst0]
    split_ifs <;> rfl
  rw [← hpairs]
  split_ifs
  · exact .inl rfl
  · split
    · exact .inl rfl
    · rename_i g hg
      have hgs := List.find?_some hg
      have hmem := List.mem_of_find?_eq_some hg
      cases hl : rtpmapOf slave.attrs g with
      | none => simp [hl] at hgs
      | some l =>
        simp only [hl, Bool.and_eq_true] at hgs
        refine .inr ⟨g, hmem, .dynamic ho hl hgs.1, ?_⟩
        cases kindOf o <;> rfl

lemma matchOther_extends (h : numeric fmt = false) :
    Extends cfg master slave fmt st.pairs (matchOther cfg slave st fmt).pairs := by
  unfold matchOther
  dsimp only
  split_ifs with hfound hmem
  · exact .inl rfl
  · exact .inr ⟨fmt, by simpa using hmem, .other h rfl, rfl⟩
  · exact .inl rfl

lemma matchFmt_extends (h : matchFmt cfg offer master slave st fmt = .ok st') :
    Extends cfg master slave fmt st.pairs st'.pairs := by
  unfold matchFmt at h
  split_ifs at h with hnum hstatic
  · obtain rfl := Except.ok.inj h
    exact matchStatic_extends hstatic
  · cases ho : rtpmapOf master.attrs fmt with
    | none => simp [ho] at h
    | some o =>
      simp only [ho] at h
      obtain rfl := Except.ok.inj h
      exact matchDynamic_extends ho
  · obtain rfl := Except.ok.inj h
    exact matchOther_extends (by simpa using hnum)

lemma foldlM_matchFmt_pairs {fmts : List Bytes}
    (h : fmts.foldlM (matchFmt cfg offer master slave) st = .ok st') : ∀ p ∈ st'.pairs, p ∈ st.pairs ∨
      ∃ fmt ∈ fmts, ∃ g ∈ slave.fmts, Paired master slave fmt g ∧ p = pairOf cfg fmt g := by
  induction fmts generalizing st with
  | nil =>
    obtain rfl := Except.ok.inj h
    exact fun p hp => .inl hp
  | cons fmt fmts ih =>
    rw [List.foldlM_cons] at h
    cases h1 : matchFmt cfg offer master slave st fmt with
    | error e => simp [h1, bind, Except.bind] at h
    | ok st1 =>
      rw [h1] at h
      intro p hp
      rcases ih h p hp with hp1 | ⟨fmt', hmem, hrest⟩
      · rcases matchFmt_extends h1 with heq | ⟨g, hg, hpaired, heq⟩
        · exact .inl (heq ▸ hp1)
        · rw [heq, List.mem_append, List.mem_singleton] at hp1
          rcases hp1 with hp1 | hp1
          · exact .inl hp1
          · exact .inr ⟨fmt, by simp, g, hg, hpaired, hp1⟩
      · exact .inr ⟨fmt', by simp [hmem], hrest⟩

end Matching

variable {preanswer : Media}

lemma pairOk_of_paired {cfg : Config} {offer : Media} {fmt g : Bytes}
    (hfmt : fmt ∈ (if cfg.preferRemoteCodecOrder then offer else preanswer).fmts)
    (hg : g ∈ (if cfg.preferRemoteCodecOrder then preanswer else offer).fmts)
    (h : Paired (if cfg.preferRemoteCodecOrder then offer else preanswer)
      (if cfg.preferRemoteCodecOrder then preanswer else offer) fmt g) :
    PairOk offer preanswer (pairOf cfg fmt g) := by
  cases hp : cfg.preferRemoteCodecOrder with
  | true =>
    simp only [hp, if_true, pairOf] at *
    refine ⟨hfmt, hg, fun hd => ?_⟩
    simp only [dynamic, Bool.and_eq_true, decide_eq_true_eq] at hd
    cases h with
    | static hs heq => omega
    | dynamic ho hl hm => exact ⟨_, _, ho, hl, hm⟩
    | other hn heq => simp [hn] at hd
  | false =>
    simp only [hp, Bool.false_eq_true, if_false, pairOf] at *
    refine ⟨hg, hfmt, fun hd => ?_⟩
    simp only [dynamic, Bool.and_eq_true, decide_eq_true_eq] at hd
    cases h with
    | static hs heq => omega
    | dynamic ho hl hm => exact ⟨_, _, hl, ho, rtpmapMatch_comm hm⟩
    | other hn heq => simp [heq, hn] at hd

lemma matchFmts_pairs {cfg : Config} {offer : Media} {st : MatchState}
    (h : matchFmts cfg offer preanswer = .ok st) : ∀ p ∈ st.pairs, PairOk offer preanswer p := by
  intro p hp
  rcases foldlM_matchFmt_pairs h p hp with hnil | ⟨fmt, hfmt, g, hg, hpaired, rfl⟩
  · simp [MatchState.init] at hnil
  · exact pairOk_of_paired hfmt hg hpaired

lemma mem_filterTel {st : MatchState} {p : Bytes × Bytes}
    (h : p ∈ filterTel preanswer st) (hne : p ≠ ([], [])) : p ∈ st.pairs := by
  unfold filterTel at h
  dsimp only at h
  split_ifs at h
  · exact List.mem_of_mem_filter h
  · rcases List.mem_append.1 h with hk | hk
    · exact List.mem_of_mem_filter hk
    · cases htels : st.pairs.filter fun p => (telRate preanswer p).isSome with
      | nil => simp [htels, hne] at hk
      | cons t ts =>
        rw [htels, List.headD_cons, List.mem_singleton] at hk
        have ht : t ∈ st.pairs.filter fun p => (telRate preanswer p).isSome := by simp [htels]
        exact hk ▸ List.mem_of_mem_filter ht
  · exact h

end PjProject.SdpOffer
