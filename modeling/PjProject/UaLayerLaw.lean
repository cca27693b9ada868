import PjProject.UaLayer

/-!
# The dialog table is consistent

`Indexed` is the invariant of registering and unregistering dialogs: the members of a set point back
to it and share its tag, the key of a set in use belongs to a member, and the entries of the table are
the sets in use, each with its own key string.
-/
namespace PjProject.UaLayer
open Transition

lemma hashCalcTolower_congr {s t : Bytes} (h : lowerAll s = lowerAll t) : hashCalcTolower s = hashCalcTolower t := by
  have hfold : ∀ (u : Bytes) (n : ℕ), u.foldl (fun h c => (h * 33 + (toLower c).toNat) % 2 ^ 32) n =
      (lowerAll u).foldl (fun h c => (h * 33 + c.toNat) % 2 ^ 32) n := by
    intro u
    induction u with
    | nil => intro n; rfl
    | cons c u ih =>
      intro n
      exact ih _
  unfold hashCalcTolower
  rw [hfold, hfold, h]

structure CaseFolding (H : HashTable.Hashing TagRef) : Prop where
  same : ∀ a b, lowerAll a.text = lowerAll b.text → H.same a b = true
  lower : ∀ a b, 0 ∉ a.text → H.same a b = true → lowerAll a.text = lowerAll b.text

lemma tagHashing_caseFolding (k0 k1 : UInt64) : CaseFolding (tagHashing k0 k1) where
  same := by
    intro a b h
    simp [HashTable.Hashing.same, tagHashing, PjHash.calcTableHash, h, stricmpEq_of_lower h]
  lower := by
    intro a b h0 h
    simp only [HashTable.Hashing.same, tagHashing, stricmpEq, Bool.and_eq_true, decide_eq_true_eq] at h
    exact lowerAll_eq_of_strnicmpEq h0 h.2.1 h.2.2

variable {H : HashTable.Hashing TagRef}

namespace UserAgent

def InUse (ua : UserAgent H) (s : ℕ) : Prop := s < ua.setCnt ∧ s ∉ ua.freeDlgsetNodes

structure Tagged (dlg : Dialog) : Prop where
  ne_nil : dlg.localTag ≠ []
  nonzero : 0 ∉ dlg.localTag
  hval : dlg.tagHval = hashCalcTolower dlg.localTag

structure Indexed (ua : UserAgent H) : Prop where
  member : ∀ s, ∀ d ∈ (ua.set s).dlgList, ua.InUse s ∧ d < ua.dlgCnt ∧ (ua.dlg d).dlgSet = some s ∧ Tagged (ua.dlg d) ∧
    lowerAll (ua.dlg d).localTag = lowerAll (ua.set s).htKey.text
  nodup : ∀ s, (ua.set s).dlgList.Nodup
  key : ∀ s, ua.InUse s → ∃ d ∈ (ua.set s).dlgList, (ua.set s).htKey = ua.tagRef d
  get : ∀ s, ua.InUse s → ua.dlgTable.get (ua.set s).htKey = some s
  entry : ∀ i, ∀ e ∈ ua.dlgTable.chain i, ua.InUse e.value ∧ e.key = (ua.set e.value).htKey
  free : ua.freeDlgsetNodes.Nodup ∧ ∀ s ∈ ua.freeDlgsetNodes, s < ua.setCnt
  asserts : ∀ ok ∈ ua.asserts, ok = true

variable {ua : UserAgent H} {s : ℕ}

lemma Indexed.found (h : ua.Indexed) {k : TagRef} (hk : ua.dlgTable.get k = some s) :
    ua.InUse s ∧ H.same (ua.set s).htKey k = true := by
  obtain ⟨i, e, he, hsame, rfl⟩ := HashTable.Table.entry_of_get hk
  obtain ⟨huse, hkey⟩ := h.entry i e he
  rw [hkey] at hsame
  exact ⟨huse, hsame⟩

lemma Indexed.key_nonzero (h : ua.Indexed) (hs : ua.InUse s) : 0 ∉ (ua.set s).htKey.text := by
  obtain ⟨d, hd, hkey⟩ := h.key s hs
  rw [hkey]
  exact (h.member s d hd).2.2.2.1.nonzero

lemma Indexed.eq_of_lower (hH : CaseFolding H) (h : ua.Indexed) {t : ℕ} (hs : ua.InUse s) (ht : ua.InUse t)
    (hl : lowerAll (ua.set s).htKey.text = lowerAll (ua.set t).htKey.text) : s = t := by
  have hget := ua.dlgTable.get_congr (hH.same _ _ hl)
  rw [h.get s hs, h.get t ht] at hget
  exact Option.some.inj hget

variable {d : ℕ}

lemma Indexed.setDlg (h : ua.Indexed) {dlg : Dialog} (h1 : dlg.localTag = (ua.dlg d).localTag)
    (h2 : dlg.tagHval = (ua.dlg d).tagHval) (h3 : dlg.dlgSet = (ua.dlg d).dlgSet) : (ua.setDlg d dlg).Indexed := by
  have hfields : ∀ b, ((ua.setDlg d dlg).dlg b).localTag = (ua.dlg b).localTag ∧
      ((ua.setDlg d dlg).dlg b).tagHval = (ua.dlg b).tagHval ∧ ((ua.setDlg d dlg).dlg b).dlgSet = (ua.dlg b).dlgSet := by
    intro b
    by_cases hb : b = d
    · subst hb
      simpa [UserAgent.setDlg] using ⟨h1, h2, h3⟩
    · simp [UserAgent.setDlg, hb]
  refine ⟨?_, h.nodup, ?_, h.get, h.entry, h.free, h.asserts⟩
  · intro s b hb
    obtain ⟨huse, hlt, hset, htag, hlow⟩ := h.member s b hb
    obtain ⟨f1, f2, f3⟩ := hfields b
    exact ⟨huse, hlt, f3.trans hset, ⟨by rw [f1]; exact htag.ne_nil, by rw [f1]; exact htag.nonzero, by rw [f1, f2]; exact htag.hval⟩,
      by rw [f1]; exact hlow⟩
  · intro s hs
    obtain ⟨b, hb, hkey⟩ := h.key s hs
    refine ⟨b, hb, hkey.trans ?_⟩
    unfold tagRef
    rw [(hfields b).1]

lemma fillHval_eq {key : TagRef} (htag : Tagged (ua.dlg d))
    (hkey : lowerAll key.text = lowerAll (ua.dlg d).localTag) : ua.fillHval d key = ua := by
  have hval : hashCalcTolower key.text = (ua.dlg d).tagHval := by rw [htag.hval, hashCalcTolower_congr hkey]
  unfold UserAgent.fillHval UserAgent.setDlg
  simp only [hval, Function.update_eq_self, ite_self]

lemma allocDlgsetNode_spec (h : ua.Indexed) : ∃ s, ¬ ua.InUse s ∧ (ua.allocDlgsetNode).2 = s ∧
      (∀ t, (ua.allocDlgsetNode).1.InUse t ↔ ua.InUse t ∨ t = s) ∧
      (ua.allocDlgsetNode).1.dlg = ua.dlg ∧ (ua.allocDlgsetNode).1.dlgCnt = ua.dlgCnt ∧
      (ua.allocDlgsetNode).1.set = ua.set ∧ (ua.allocDlgsetNode).1.dlgTable = ua.dlgTable ∧
      (ua.allocDlgsetNode).1.asserts = ua.asserts ∧ (ua.allocDlgsetNode).1.freeDlgsetNodes.Nodup ∧
      ∀ t ∈ (ua.allocDlgsetNode).1.freeDlgsetNodes, t < (ua.allocDlgsetNode).1.setCnt := by
  unfold UserAgent.allocDlgsetNode
  obtain ⟨hnd, hlt⟩ := h.free
  cases hf : ua.freeDlgsetNodes with
  | nil =>
    refine ⟨ua.setCnt, fun hu => absurd hu.1 (lt_irrefl _), rfl, ?_, rfl, rfl, rfl, rfl, rfl, by simp, by simp⟩
    intro t
    simp only [InUse, hf, List.not_mem_nil, not_false_eq_true, and_true]
    omega
  | cons s rest =>
    rw [hf] at hnd hlt
    obtain ⟨hs, hrest⟩ := List.nodup_cons.mp hnd
    refine ⟨s, fun hu => hu.2 (by rw [hf]; exact List.mem_cons_self), rfl, ?_, rfl, rfl, rfl, rfl, rfl, hrest,
      fun t ht => hlt t (List.mem_cons_of_mem _ ht)⟩
    intro t
    simp only [InUse, hf, List.mem_cons, not_or]
    constructor
    · rintro ⟨h1, h2⟩
      by_cases hts : t = s
      · exact .inr hts
      · exact .inl ⟨h1, hts, h2⟩
    · rintro (⟨h1, -, h2⟩ | rfl)
      · exact ⟨h1, h2⟩
      · exact ⟨hlt t List.mem_cons_self, hs⟩

lemma Indexed.newSet (h : ua.Indexed) (hd : d < ua.dlgCnt) (hout : ∀ s, d ∉ (ua.set s).dlgList)
    (htag : Tagged (ua.dlg d)) (hget : ua.dlgTable.get (ua.tagRef d) = none) : (ua.newSet d).Indexed := by
  obtain ⟨s, hfree, hs, huse, hdlg, hcnt, hset, htab, hass, hnd, hlt⟩ := allocDlgsetNode_spec h
  unfold UserAgent.newSet
  simp only [hs]
  set ua₁ := ua.allocDlgsetNode.1
  have htag₁ : ua₁.tagRef d = ua.tagRef d := by unfold UserAgent.tagRef; rw [hdlg]
  have hempty : (ua.set s).dlgList = [] := by
    by_contra hne
    obtain ⟨b, hb⟩ := List.exists_mem_of_ne_nil _ hne
    exact hfree (h.member s b hb).1
  set ua₂ : UserAgent H := { (ua₁.setSet s ⟨ua₁.tagRef d, [d]⟩).setDlg d { ua₁.dlg d with dlgSet := some s } with
    dlgTable := ua₁.dlgTable.set (ua₁.tagRef d) (some s) }
  change ua₂.Indexed
  have huse₂ : ∀ t, ua₂.InUse t ↔ ua.InUse t ∨ t = s := huse
  have hset_s : ua₂.set s = ⟨ua.tagRef d, [d]⟩ := by rw [← htag₁]; exact Function.update_self _ _ _
  have hset_ne : ∀ t, t ≠ s → ua₂.set t = ua.set t := by
    intro t ht
    rw [← hset]
    exact Function.update_of_ne ht _ _
  have hdlg_d : ua₂.dlg d = { ua.dlg d with dlgSet := some s } := by rw [← hdlg]; exact Function.update_self _ _ _
  have hdlg_ne : ∀ b, b ≠ d → ua₂.dlg b = ua.dlg b := by
    intro b hb
    rw [← hdlg]
    exact Function.update_of_ne hb _ _
  have htable : ua₂.dlgTable = ua.dlgTable.set (ua.tagRef d) (some s) := by rw [← htab, ← htag₁]
  have hmem : ∀ t, ∀ b ∈ (ua₂.set t).dlgList, t = s ∧ b = d ∨ t ≠ s ∧ b ≠ d ∧ b ∈ (ua.set t).dlgList := by
    intro t b hb
    by_cases hts : t = s
    · rw [hts, hset_s] at hb
      exact .inl ⟨hts, by simpa using hb⟩
    · rw [hset_ne t hts] at hb
      exact .inr ⟨hts, by rintro rfl; exact hout t hb, hb⟩
  have hne_s : ∀ t, ua.InUse t → t ≠ s := by
    rintro t ht rfl
    exact hfree ht
  refine ⟨?_, ?_, ?_, ?_, ?_, ⟨hnd, hlt⟩, fun ok hok => h.asserts ok (by rw [← hass]; exact hok)⟩
  · intro t b hb
    rcases hmem t b hb with ⟨rfl, rfl⟩ | ⟨hts, hbd, hb'⟩
    · rw [hdlg_d, hset_s]
      refine ⟨(huse₂ t).mpr (.inr rfl), ?_, rfl, ⟨htag.ne_nil, htag.nonzero, htag.hval⟩, rfl⟩
      change b < ua₁.dlgCnt
      rw [hcnt]
      exact hd
    · rw [hdlg_ne b hbd, hset_ne t hts]
      obtain ⟨h1, h2, h3⟩ := h.member t b hb'
      refine ⟨(huse₂ t).mpr (.inl h1), ?_, h3⟩
      change b < ua₁.dlgCnt
      rw [hcnt]
      exact h2
  · intro t
    by_cases hts : t = s
    · rw [hts, hset_s]
      simp
    · rw [hset_ne t hts]
      exact h.nodup t
  · intro t ht
    rcases (huse₂ t).mp ht with ht | rfl
    · obtain ⟨b, hb, hkey⟩ := h.key t ht
      rw [hset_ne t (hne_s t ht)]
      refine ⟨b, hb, hkey.trans ?_⟩
      unfold tagRef
      rw [hdlg_ne b (by rintro rfl; exact hout t hb)]
    · rw [hset_s]
      refine ⟨d, by simp, ?_⟩
      unfold tagRef
      rw [hdlg_d]
  · intro t ht
    rw [htable, HashTable.Table.get_set]
    rcases (huse₂ t).mp ht with ht | rfl
    · rw [hset_ne t (hne_s t ht)]
      have hno : ¬ H.same (ua.tagRef d) (ua.set t).htKey = true := by
        intro hc
        have := ua.dlgTable.get_congr hc
        rw [hget, h.get t ht] at this
        cases this
      rw [if_neg hno]
      exact h.get t ht
    · rw [hset_s, if_pos (H.same_refl _)]
  · intro i e he
    rw [htable] at he
    rcases HashTable.Table.mem_set_some hget he with ⟨he, -⟩ | rfl
    · obtain ⟨h1, h2⟩ := h.entry i e he
      rw [hset_ne _ (hne_s _ h1)]
      exact ⟨(huse₂ _).mpr (.inl h1), h2⟩
    · rw [hset_s]
      exact ⟨(huse₂ _).mpr (.inr rfl), rfl⟩

lemma Indexed.join (hH : CaseFolding H) (h : ua.Indexed) (hd : d < ua.dlgCnt)
    (hout : ∀ t, d ∉ (ua.set t).dlgList) (htag : Tagged (ua.dlg d)) (hget : ua.dlgTable.get (ua.tagRef d) = some s) :
    (((ua.assert (decide ((ua.set s).dlgList ≠ []))).setSet s { ua.set s with dlgList := (ua.set s).dlgList ++ [d] }).setDlg d
      { ua.dlg d with dlgSet := some s }).Indexed := by
  obtain ⟨huse, hsame⟩ := h.found hget
  have hlow : lowerAll (ua.set s).htKey.text = lowerAll (ua.dlg d).localTag := hH.lower _ _ (h.key_nonzero huse) hsame
  set ua₂ := ((ua.assert (decide ((ua.set s).dlgList ≠ []))).setSet s { ua.set s with dlgList := (ua.set s).dlgList ++ [d] }).setDlg d
      { ua.dlg d with dlgSet := some s }
  have hset_s : ua₂.set s = { ua.set s with dlgList := (ua.set s).dlgList ++ [d] } := Function.update_self _ _ _
  have hset_ne : ∀ t, t ≠ s → ua₂.set t = ua.set t := fun t ht => Function.update_of_ne ht _ _
  have hdlg_d : ua₂.dlg d = { ua.dlg d with dlgSet := some s } := Function.update_self _ _ _
  have hdlg_ne : ∀ b, b ≠ d → ua₂.dlg b = ua.dlg b := fun b hb => Function.update_of_ne hb _ _
  have hkey : ∀ t, (ua₂.set t).htKey = (ua.set t).htKey := by
    intro t
    by_cases hts : t = s
    · rw [hts, hset_s]
    · rw [hset_ne t hts]
  have hold : ∀ t, ∀ b ∈ (ua.set t).dlgList, b ∈ (ua₂.set t).dlgList := by
    intro t b hb
    by_cases hts : t = s
    · rw [hts] at hb ⊢
      rw [hset_s]
      exact List.mem_append_left _ hb
    · rw [hset_ne t hts]
      exact hb
  obtain ⟨b₀, hb₀, -⟩ := h.key s huse
  refine ⟨?_, ?_, ?_, ?_, ?_, h.free, ?_⟩
  · intro t b hb
    rw [hkey t]
    by_cases hbd : b = d
    · have hts : t = s := by
        by_contra hts
        rw [hset_ne t hts, hbd] at hb
        exact hout t hb
      rw [hbd, hts, hdlg_d]
      exact ⟨huse, hd, rfl, ⟨htag.ne_nil, htag.nonzero, htag.hval⟩, hlow.symm⟩
    · rw [hdlg_ne b hbd]
      refine h.member t b ?_
      by_cases hts : t = s
      · rw [hts, hset_s] at hb
        rw [hts]
        exact (List.mem_append.mp hb).resolve_right (by simpa using hbd)
      · rw [hset_ne t hts] at hb
        exact hb
  · intro t
    by_cases hts : t = s
    · rw [hts, hset_s]
      refine List.nodup_append.mpr ⟨h.nodup s, by simp, ?_⟩
      intro a ha b hb hab
      obtain rfl : b = d := by simpa using hb
      exact hout s (hab ▸ ha)
    · rw [hset_ne t hts]
      exact h.nodup t
  · intro t ht
    obtain ⟨b, hb, hk⟩ := h.key t ht
    refine ⟨b, hold t b hb, (hkey t).trans (hk.trans ?_)⟩
    unfold tagRef
    rw [hdlg_ne b (by rintro rfl; exact hout t hb)]
  · intro t ht
    rw [hkey t]
    exact h.get t ht
  · intro i e he
    rw [hkey]
    exact h.entry i e he
  · intro ok hok
    rcases List.mem_append.mp hok with hok | hok
    · exact h.asserts ok hok
    · have hne : (ua.set s).dlgList ≠ [] := List.ne_nil_of_mem hb₀
      simpa [hne] using hok

lemma Indexed.createDlg (hH : CaseFolding H) (h : ua.Indexed) {dlg : Dialog} (htag : dlg.localTag ≠ [] → Tagged dlg)
    (hfresh : dlg.role = .uas → ua.dlgTable.get ⟨ua.dlgCnt, dlg.localTag⟩ = none) : (ua.createDlg dlg).Indexed := by
  set ua₁ : UserAgent H := { ua.setDlg ua.dlgCnt dlg with dlgCnt := ua.dlgCnt + 1 } with hua₁
  have hdlg : ua₁.dlg ua.dlgCnt = dlg := Function.update_self _ _ _
  have hother : ∀ b, b < ua.dlgCnt → ua₁.dlg b = ua.dlg b := fun b hb => Function.update_of_ne hb.ne _ _
  have hout : ∀ t, ua.dlgCnt ∉ (ua₁.set t).dlgList := fun t hm => absurd (h.member t _ hm).2.1 (lt_irrefl _)
  have h₁ : ua₁.Indexed := by
    refine ⟨?_, h.nodup, ?_, h.get, h.entry, h.free, h.asserts⟩
    · intro s b hb
      obtain ⟨h1, h2, h3⟩ := h.member s b hb
      rw [hother b h2]
      exact ⟨h1, Nat.lt_succ_of_lt h2, h3⟩
    · intro s hs
      obtain ⟨b, hb, hk⟩ := h.key s hs
      refine ⟨b, hb, hk.trans ?_⟩
      unfold tagRef
      rw [hother b (h.member s b hb).2.1]
  have hlt : ua.dlgCnt < ua₁.dlgCnt := Nat.lt_succ_self _
  change (ua₁.registerDlg ua.dlgCnt).Indexed
  unfold UserAgent.registerDlg
  rw [hdlg]
  by_cases hnil : dlg.localTag = []
  · rw [if_pos hnil]
    exact h₁
  rw [if_neg hnil]
  have ht : Tagged (ua₁.dlg ua.dlgCnt) := by rw [hdlg]; exact htag hnil
  cases hr : dlg.role with
  | uas =>
    refine h₁.newSet hlt hout ht ?_
    have := hfresh hr
    unfold tagRef
    rw [hdlg]
    exact this
  | uac =>
    simp only [fillHval_eq ht (show lowerAll (ua₁.tagRef ua.dlgCnt).text = _ from rfl)]
    cases hg : ua₁.dlgTable.get (ua₁.tagRef ua.dlgCnt) with
    | none => exact h₁.newSet hlt hout ht hg
    | some s => exact h₁.join hH hlt hout ht hg

lemma Indexed.removeSet (hH : CaseFolding H) (h : ua.Indexed) (hd : d ∈ (ua.set s).dlgList)
    (hlast : (ua.set s).dlgList.erase d = []) {ua₂ : UserAgent H} (hdlg : ua₂.dlg = ua.dlg) (hcnt : ua₂.dlgCnt = ua.dlgCnt)
    (hset : ua₂.set = Function.update ua.set s { ua.set s with dlgList := [] }) (hscnt : ua₂.setCnt = ua.setCnt)
    (hfree : ua₂.freeDlgsetNodes = ua.freeDlgsetNodes ++ [s]) (htab : ua₂.dlgTable = ua.dlgTable.set (ua.set s).htKey none)
    (hass : ∀ ok ∈ ua₂.asserts, ok = true) : ua₂.Indexed := by
  have huse := (h.member s d hd).1
  have hset_s : (ua₂.set s).dlgList = [] := by rw [hset, Function.update_self]
  have hset_ne : ∀ t, t ≠ s → ua₂.set t = ua.set t := by
    intro t ht
    rw [hset]
    exact Function.update_of_ne ht _ _
  have huse₂ : ∀ t, ua₂.InUse t ↔ ua.InUse t ∧ t ≠ s := by
    intro t
    simp only [InUse, hscnt, hfree, List.mem_append, List.mem_singleton, not_or]
    tauto
  refine ⟨?_, ?_, ?_, ?_, ?_, ?_, hass⟩
  · intro t b hb
    have hts : t ≠ s := by
      rintro rfl
      rw [hset_s] at hb
      cases hb
    rw [hset_ne t hts] at hb ⊢
    obtain ⟨h1, h2, h3⟩ := h.member t b hb
    rw [hdlg, hcnt]
    exact ⟨(huse₂ t).mpr ⟨h1, hts⟩, h2, h3⟩
  · intro t
    by_cases hts : t = s
    · rw [hts, hset_s]
      exact List.nodup_nil
    · rw [hset_ne t hts]
      exact h.nodup t
  · intro t ht
    obtain ⟨ht', hts⟩ := (huse₂ t).mp ht
    rw [hset_ne t hts]
    unfold tagRef
    rw [hdlg]
    exact h.key t ht'
  · intro t ht
    obtain ⟨ht', hts⟩ := (huse₂ t).mp ht
    rw [hset_ne t hts, htab, HashTable.Table.get_set, if_neg]
    · exact h.get t ht'
    · intro hc
      exact hts (h.eq_of_lower hH ht' huse (hH.lower _ _ (h.key_nonzero huse) hc).symm)
  · intro i e he
    rw [htab] at he
    obtain ⟨he', hno⟩ := HashTable.Table.mem_set_none he
    obtain ⟨h1, h2⟩ := h.entry i e he'
    have hts : e.value ≠ s := by
      intro hc
      rw [h2, hc, H.same_refl] at hno
      cases hno
    rw [hset_ne _ hts]
    exact ⟨(huse₂ _).mpr ⟨h1, hts⟩, h2⟩
  · rw [hfree, hscnt]
    refine ⟨List.nodup_append.mpr ⟨h.free.1, by simp, ?_⟩, ?_⟩
    · intro a ha b hb hab
      obtain rfl : b = s := by simpa using hb
      exact huse.2 (hab ▸ ha)
    · intro t ht
      rcases List.mem_append.mp ht with ht | ht
      · exact h.free.2 t ht
      · obtain rfl : t = s := by simpa using ht
        exact huse.1

lemma Indexed.removeMember (hH : CaseFolding H) (h : ua.Indexed) (hd : d ∈ (ua.set s).dlgList)
    {key : TagRef} (hkey : ∃ b ∈ (ua.set s).dlgList.erase d, key = ua.tagRef b) {ua₂ : UserAgent H} (hdlg : ua₂.dlg = ua.dlg)
    (hcnt : ua₂.dlgCnt = ua.dlgCnt) (hset : ua₂.set = Function.update ua.set s ⟨key, (ua.set s).dlgList.erase d⟩)
    (hscnt : ua₂.setCnt = ua.setCnt) (hfree : ua₂.freeDlgsetNodes = ua.freeDlgsetNodes)
    (htab : ua₂.dlgTable = if key = (ua.set s).htKey then ua.dlgTable else
      (ua.dlgTable.set (ua.set s).htKey none).set key (some s))
    (hass : ∀ ok ∈ ua₂.asserts, ok = true) : ua₂.Indexed := by
  obtain ⟨huse, -⟩ := h.member s d hd
  have hset_s : ua₂.set s = ⟨key, (ua.set s).dlgList.erase d⟩ := by rw [hset, Function.update_self]
  have hset_ne : ∀ t, t ≠ s → ua₂.set t = ua.set t := by
    intro t ht
    rw [hset]
    exact Function.update_of_ne ht _ _
  have huse₂ : ∀ t, ua₂.InUse t ↔ ua.InUse t := by
    intro t
    simp only [InUse, hscnt, hfree]
  have hlow : lowerAll key.text = lowerAll (ua.set s).htKey.text := by
    obtain ⟨b, hb, rfl⟩ := hkey
    exact (h.member s b (List.mem_of_mem_erase hb)).2.2.2.2
  have hsame : H.same (ua.set s).htKey key = true := hH.same _ _ hlow.symm
  have hdel : (ua.dlgTable.set (ua.set s).htKey none).get key = none := by
    rw [HashTable.Table.get_set, if_pos hsame]
  refine ⟨?_, ?_, ?_, ?_, ?_, by rw [hfree, hscnt]; exact h.free, hass⟩
  · intro t b hb
    rw [hdlg, hcnt, huse₂]
    by_cases hts : t = s
    · rw [hts] at hb ⊢
      rw [hset_s] at hb ⊢
      obtain ⟨h1, h2, h3, h4, h5⟩ := h.member s b (List.mem_of_mem_erase hb)
      exact ⟨h1, h2, h3, h4, h5.trans hlow.symm⟩
    · rw [hset_ne t hts] at hb ⊢
      exact h.member t b hb
  · intro t
    by_cases hts : t = s
    · rw [hts, hset_s]
      exact (h.nodup s).erase d
    · rw [hset_ne t hts]
      exact h.nodup t
  · intro t ht
    unfold tagRef
    rw [hdlg]
    by_cases hts : t = s
    · rw [hts, hset_s]
      exact hkey
    · rw [hset_ne t hts]
      exact h.key t ((huse₂ t).mp ht)
  · intro t ht
    have ht' := (huse₂ t).mp ht
    by_cases hts : t = s
    · rw [hts, hset_s, htab]
      split_ifs with hk
      · rw [hk]
        exact h.get s huse
      · rw [HashTable.Table.get_set, if_pos (H.same_refl _)]
    · rw [hset_ne t hts, htab]
      have hno : ∀ k, lowerAll k.text = lowerAll (ua.set s).htKey.text → ¬ H.same k (ua.set t).htKey = true := by
        intro k hk hc
        have hc' := hH.lower _ _ (h.key_nonzero ht') (H.same_symm hc)
        exact hts (h.eq_of_lower hH ht' huse (hc'.trans hk))
      split_ifs with hk
      · exact h.get t ht'
      · rw [HashTable.Table.get_set, if_neg (hno key hlow), HashTable.Table.get_set, if_neg (hno _ rfl)]
        exact h.get t ht'
  · intro i e he
    rw [htab] at he
    split_ifs at he with hk
    · obtain ⟨h1, h2⟩ := h.entry i e he
      refine ⟨(huse₂ _).mpr h1, ?_⟩
      by_cases hts : e.value = s
      · rw [hts, hset_s, hk, h2, hts]
      · rw [hset_ne _ hts]
        exact h2
    · rcases HashTable.Table.mem_set_some hdel he with ⟨he, hno⟩ | rfl
      · obtain ⟨he', hno'⟩ := HashTable.Table.mem_set_none he
        obtain ⟨h1, h2⟩ := h.entry i e he'
        have hts : e.value ≠ s := by
          intro hc
          rw [h2, hc, H.same_refl] at hno'
          cases hno'
        rw [hset_ne _ hts]
        exact ⟨(huse₂ _).mpr h1, h2⟩
      · exact ⟨(huse₂ _).mpr huse, by rw [hset_s]⟩

lemma Indexed.unregisterDlg (hH : CaseFolding H) (h : ua.Indexed) (hd : ua.Registered d) :
    (ua.unregisterDlg d).Indexed := by
  obtain ⟨s, hs, hmem⟩ := hd
  obtain ⟨huse, -, -, htag, hlow⟩ := h.member s d hmem
  unfold UserAgent.unregisterDlg
  simp only [hs, if_neg (not_not.mpr hmem)]
  cases hl : (ua.set s).dlgList.erase d with
  | nil =>
    have hfill : ∀ ok, ((ua.setSet s ⟨(ua.set s).htKey, []⟩).assert ok).fillHval d (ua.set s).htKey =
        (ua.setSet s ⟨(ua.set s).htKey, []⟩).assert ok := fun ok => fillHval_eq htag hlow.symm
    simp only [hfill]
    refine h.removeSet hH hmem hl rfl rfl rfl rfl rfl rfl ?_
    intro ok hok
    rcases List.mem_append.mp hok with hok | hok
    · exact h.asserts ok hok
    · have hget : (ua.setSet s ⟨(ua.set s).htKey, []⟩).dlgTable.get (ua.set s).htKey = some s := h.get s huse
      simpa [hget] using hok
  | cons keyDlg rest =>
    obtain ⟨b, hb, hkey⟩ := h.key s huse
    have hkd : keyDlg ∈ (ua.set s).dlgList.erase d := by rw [hl]; exact List.mem_cons_self
    simp only
    split_ifs with hown
    · obtain ⟨-, -, -, htag', hlow'⟩ := h.member s keyDlg (List.mem_of_mem_erase hkd)
      have hne : ua.tagRef keyDlg ≠ (ua.set s).htKey := by
        intro hc
        have : keyDlg = d := (congrArg TagRef.owner hc).trans hown.1
        rw [this] at hkd
        exact (h.nodup s).not_mem_erase hkd
      have hkey' : ∃ b ∈ (ua.set s).dlgList.erase d, ua.tagRef keyDlg = ua.tagRef b :=
        ⟨keyDlg, hkd, rfl⟩
      refine h.removeMember hH hmem hkey' rfl rfl ?_ rfl rfl (by rw [if_neg hne]; rfl) ?_
      · change Function.update (Function.update ua.set s _) s _ = _
        rw [Function.update_idem, hl]
        rfl
      · intro ok hok
        rcases List.mem_append.mp hok with hok | hok
        · exact h.asserts ok hok
        · have heq : (ua.dlg keyDlg).tagHval = (ua.dlg d).tagHval := by
            rw [htag'.hval, htag.hval, hashCalcTolower_congr (hlow'.trans hlow.symm)]
          simpa [UserAgent.setSet, heq] using hok
    · -- the key belongs to another dialog of the set
      have hbd : b ≠ d := by
        rintro rfl
        refine hown ⟨by rw [hkey]; rfl, ?_⟩
        rw [hkey]
        rfl
      have hkey' : ∃ b ∈ (ua.set s).dlgList.erase d, (ua.set s).htKey = ua.tagRef b :=
        ⟨b, (List.mem_erase_of_ne hbd).mpr hb, hkey⟩
      refine h.removeMember hH hmem hkey' rfl rfl ?_ rfl rfl (by rw [if_pos rfl]; rfl) h.asserts
      rw [hl]
      rfl

end UserAgent
open UserAgent

def Fresh (ua : UserAgent H) : Input → Prop
  | .createUac _ localTag => 0 ∉ localTag
  | .createUas _ localTag _ => 0 ∉ localTag ∧ ∀ d, ua.Registered d → lowerAll (ua.dlg d).localTag ≠ lowerAll localTag
  | _ => True

lemma UserAgent.Indexed.get_none (hH : CaseFolding H) {ua : UserAgent H} (h : ua.Indexed) {k : TagRef}
    (hk : ∀ d, ua.Registered d → lowerAll (ua.dlg d).localTag ≠ lowerAll k.text) : ua.dlgTable.get k = none := by
  by_contra hne
  obtain ⟨s, hs⟩ := Option.ne_none_iff_exists'.mp hne
  obtain ⟨huse, hsame⟩ := h.found hs
  obtain ⟨d, hd, hkey⟩ := h.key s huse
  obtain ⟨-, -, hset, -, hlow⟩ := h.member s d hd
  exact hk d ⟨s, hset, hd⟩ (hlow.trans (hH.lower _ _ (h.key_nonzero huse) hsame))

lemma step_indexed (hH : CaseFolding H) (ua : UserAgent H) (i : Input) (h : ua.Indexed) (hf : Fresh ua i) : (step ua i).Indexed := by
  cases i with
  | createUac callId localTag =>
    exact h.createDlg hH (fun hne => ⟨hne, hf, rfl⟩) fun hr => by cases hr
  | fork first remoteTag =>
    simp only [step]
    split_ifs with hfirst
    · obtain ⟨⟨s, hs, hmem⟩, -⟩ := hfirst
      obtain ⟨-, -, -, htag, -⟩ := h.member s first hmem
      exact h.createDlg hH (fun _ => ⟨htag.ne_nil, htag.nonzero, htag.hval⟩) fun hr => by cases hr
    · exact h
  | createUas callId localTag remoteTag =>
    exact h.createDlg hH (fun hne => ⟨hne, hf.1, rfl⟩) fun _ => h.get_none hH hf.2
  | unregister d =>
    simp only [step]
    split_ifs with hd
    · exact h.unregisterDlg hH hd
    · exact h
  | setRemoteTag d remoteTag => exact h.setDlg rfl rfl rfl

lemma initModule_indexed (H : HashTable.Hashing TagRef) (size : ℕ) : (initModule H size).Indexed := by
  have hno : ∀ s, ¬ (initModule H size).InUse s := fun s hs => absurd hs.1 (Nat.not_lt_zero s)
  refine ⟨by simp [initModule], by simp [initModule], fun s hs => absurd hs (hno s), fun s hs => absurd hs (hno s), ?_,
    by simp [initModule], by simp [initModule]⟩
  intro i e he
  cases he

/-- The dialog table and the sets agree: each registered dialog is found by its tag, in any case, in
the set that lists it; a set in the table has a member whose tag string is its key, which is also the
string that the table points to, and is not on the free list; and no assertion has failed. -/
structure Consistent (ua : UserAgent H) : Prop where
  mapped : ∀ d s, (ua.dlg d).dlgSet = some s → d ∈ (ua.set s).dlgList →
    ∀ tag, lowerAll tag = lowerAll (ua.dlg d).localTag → ua.lookup tag = some s
  nonempty : ∀ tag s, ua.lookup tag = some s → ∃ d ∈ (ua.set s).dlgList, (ua.dlg d).dlgSet = some s ∧ (ua.set s).htKey = ua.tagRef d
  entry : ∀ i, ∀ e ∈ ua.dlgTable.chain i, e.key = (ua.set e.value).htKey
  free : ∀ tag s, ua.lookup tag = some s → s ∉ ua.freeDlgsetNodes
  asserts : ∀ ok ∈ ua.asserts, ok = true

lemma UserAgent.Indexed.consistent (hH : CaseFolding H) {ua : UserAgent H} (h : ua.Indexed) : Consistent ua where
  mapped := by
    intro d s hs hd tag htag
    obtain ⟨huse, -, -, -, hlow⟩ := h.member s d hd
    have hsame : H.same (ua.set s).htKey ⟨0, tag⟩ = true := hH.same _ _ (hlow.symm.trans htag.symm)
    unfold UserAgent.lookup
    rw [← ua.dlgTable.get_congr hsame]
    exact h.get s huse
  nonempty := by
    intro tag s hs
    obtain ⟨huse, -⟩ := h.found hs
    obtain ⟨d, hd, hkey⟩ := h.key s huse
    exact ⟨d, hd, (h.member s d hd).2.2.1, hkey⟩
  entry := fun i e he => (h.entry i e he).2
  free := fun tag s hs => (h.found hs).1.2
  asserts := h.asserts

/-- The dialog table stays consistent, in every run in which the tags of new UAS dialogs are new. -/
theorem dialog_table_consistent (k0 k1 : UInt64) (size : ℕ) (is : List Input)
    (h : Guarded step Fresh (initModule (tagHashing k0 k1) size) is) :
    Consistent (run step (initModule (tagHashing k0 k1) size) is) :=
  (h.invariant (step_indexed (tagHashing_caseFolding k0 k1)) (initModule_indexed _ size)).consistent (tagHashing_caseFolding k0 k1)

/-- A UAS dialog, then a UAC dialog that forks; the first of the two goes, and the set has the key of
the other. -/
theorem dialog_table_consistent_fork :
    let is : List Input := [.createUas (lit "c2") (lit "a2") (lit "b3"), .createUac (lit "c1") (lit "a1"), .fork 1 (lit "b2"),
      .unregister 1, .unregister 0]
    let ua := run step (initModule (tagHashing 1 2) 31) is
    Guarded step Fresh (initModule (tagHashing 1 2) 31) is ∧ Consistent ua ∧ ua.lookup (lit "A1") = some 1 ∧
      (ua.set 1).htKey = ⟨2, lit "a1"⟩ := by
  intro is ua
  have hsafe : Guarded step Fresh (initModule (tagHashing 1 2) 31) is := by
    refine ⟨⟨by decide, ?_⟩, ?_, trivial, trivial, trivial, trivial⟩
    · rintro d ⟨s, -, hd⟩
      cases hd
    · show 0 ∉ lit "a1"
      decide
  exact ⟨hsafe, dialog_table_consistent 1 2 31 _ hsafe, by decide +kernel, by decide +kernel⟩

end PjProject.UaLayer
