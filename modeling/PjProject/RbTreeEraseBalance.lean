import PjProject.RbTreeBalance

/-!
# Balance after an erase

`pj_rbtree_erase` decides on the fixup by the colour of the node that it erases, where that of the
node that it unlinks counts, and it skips the fixup where the unlinked node had no child. So an
erase keeps the red-black invariants only where neither matters.
-/
namespace PjProject.RedBlack

open LinkedTree

variable {K : Type*}

lemma bal_single {col : ℕ → Color} {d : Side} {b : Shape} {y n : ℕ} (h : Bal col (.join d .leaf y b) n) :
    n = (col y).weight ∧ Bal col b 0 ∧ (col y = .red → col b.ptr = .black) := by
  obtain ⟨hred, m, hleaf, hb, rfl⟩ := (bal_join d).1 h
  obtain rfl : m = 0 := hleaf
  exact ⟨Nat.zero_add _, hb, fun hy => (hred hy).2⟩

lemma Bal.zero {col : ℕ → Color} {s : Shape} (h : Bal col s 0) (hs : s ≠ .leaf) : col s.ptr = .red := by
  cases s with
  | leaf => exact absurd rfl hs
  | node l p r =>
    obtain ⟨-, m, -, -, hm⟩ := h
    rw [← Color.ne_black]
    intro hp
    have hp' : col p = .black := hp
    rw [hp', Color.weight] at hm
    omega

namespace RbTree

/-- The unlinked node is red, or it is the only node, or it has a child and the erased node is black
like it. -/
def EraseKeeps (fuel : ℕ) (t : RbTree K) (node : ℕ) : Prop :=
  ∃ succ, t.successor fuel node = some succ ∧ (t.color succ = .red ∨
    if t.child .left succ = 0 ∧ t.child .right succ = 0 then succ = t.root else t.color node = .black)

variable {t : RbTree K}

lemma EraseKeeps.iff {fuel : ℕ} {node succ : ℕ} (h : t.successor fuel node = some succ) :
    t.EraseKeeps fuel node ↔ t.color succ = .red ∨
      if t.child .left succ = 0 ∧ t.child .right succ = 0 then succ = t.root else t.color node = .black := by
  constructor
  · rintro ⟨succ', h', hkeep⟩
    obtain rfl : succ = succ' := Option.some.inj (h.symm.trans h')
    exact hkeep
  · exact fun hkeep => ⟨succ, h, hkeep⟩

variable {y : ℕ} {c : List Frame}

lemma Focus.childless {d : Side} {b : Shape}
    (h : t.Focus d .leaf y b c) : t.child .left y = 0 ∧ t.child .right y = 0 ↔ b = .leaf := by
  have h1 : t.child d y = 0 := h.child
  have hboth : t.child .left y = 0 ∧ t.child .right y = 0 ↔ t.child d.other y = 0 := by
    cases d with
    | left => exact and_iff_right h1
    | right => exact and_iff_left h1
  rw [hboth, h.other]
  constructor
  · intro h0
    by_contra hl
    exact h.nonzero _ (.inr (Shape.ptr_mem hl)) h0
  · rintro rfl
    rfl

lemma setColor_eq_self {node : ℕ} {c : Color} (h : t.color node = c) : t.setColor node c = t := by
  rw [setColor, ← h, Function.update_eq_self]

variable {x : ℕ}

lemma erase_end {t₁ : RbTree K} {b : Shape} {k : ℕ}
    (hsucc : t.successor k x = some y) (hchild : (t.unlink y).2 = b.ptr)
    (hlinks : (if y ≠ x then (t.unlink y).1.transplant x y else (t.unlink y).1) = t₁) (h : t₁.Shaped (plug b c))
    (hcol : t₁.color y = t.color x) (h0 : t₁.color 0 = .black) (hred : b.ptr ≠ 0 → t₁.color b.ptr = .red)
    (hk : 0 < k) : ∃ t', t.erase k x = some t' ∧ t'.Shaped (plug b c) ∧
      t'.color = if b.ptr ≠ 0 ∧ t.color x = .black then Function.update t₁.color b.ptr .black else t₁.color := by
  unfold erase
  simp only [hsucc, Option.bind_some, hchild, hlinks, hcol]
  by_cases hx : t.color x = .black
  · by_cases hb : b.ptr = 0
    · refine ⟨{ t₁ with size := (t₁.size + (2 ^ 32 - 1)) % 2 ^ 32 }, ?_, ⟨h.tree, h.null⟩, by simp [hb]⟩
      simp [hx, hb, setColor_eq_self h0]
    · have hz : (t₁.setColor b.ptr .black).color 0 = .black := by simp [Ne.symm hb, h0]
      refine ⟨{ t₁.setColor b.ptr .black with size := (t₁.size + (2 ^ 32 - 1)) % 2 ^ 32 }, ?_, ⟨h.tree, h.null⟩, ?_⟩
      · rw [if_pos hx, if_pos hb, deleteFixup, deleteLoop_stop (.inr (hred hb)) hk]
        simp only [Option.map_some, setColor_eq_self hz, setColor_size]
      · rw [if_pos ⟨hb, hx⟩]
        rfl
  · refine ⟨{ t₁ with size := (t₁.size + (2 ^ 32 - 1)) % 2 ^ 32 }, ?_, ⟨h.tree, h.null⟩, by simp [hx]⟩
    rw [if_neg hx]
    rfl

lemma erase_sameColors {col col₁ : ℕ → Color} {d : Side} {c' : List Frame}
    (hcol : ∀ z, col₁ z = if z = y then col x else col z) (hy : y ∉ frameNodes c)
    (hcase : y = x ∧ c' = c ∨ y ≠ x ∧ d = .left ∧ ∃ c₁ a c₂, before .left c₁ = [] ∧
      c = c₁ ++ ⟨.right, x, a⟩ :: c₂ ∧ c' = c₁ ++ ⟨.right, y, a⟩ :: c₂) :
    List.Forall₂ (@SameColors col col₁) c c' := by
  have hkeep : ∀ z, z ≠ y → col₁ z = col z := fun z hz => by rw [hcol, if_neg hz]
  rcases hcase with ⟨rfl, rfl⟩ | ⟨-, -, c₁, a, c₂, -, rfl, rfl⟩
  · exact sameColors_refl fun z hz => hkeep z fun he => hy (he ▸ hz)
  · have hmem : ∀ z, z ∈ frameNodes c₁ ∨ z ∈ a ∨ z ∈ frameNodes c₂ → z ∈ frameNodes (c₁ ++ ⟨.right, x, a⟩ :: c₂) := by
      intro z hz
      rw [frameNodes_append, frameNodes, List.mem_append, List.mem_cons, List.mem_append]
      exact hz.imp_right .inr
    refine List.rel_append (sameColors_refl fun z hz => ?_) (.cons ⟨rfl, ?_, fun z hz => ?_⟩ (sameColors_refl fun z hz => ?_))
    · exact hkeep z fun he => hy (he ▸ hmem z (.inl hz))
    · rw [hcol, if_pos rfl]
    · exact hkeep z fun he => hy (he ▸ hmem z (.inr (.inl hz)))
    · exact hkeep z fun he => hy (he ▸ hmem z (.inr (.inr hz)))

lemma erase_balanced_iff {C : Comparator K} {l : List ℕ} (h : t.Holds C l) (hb : t.Balanced) (hx : x ∈ l) {k : ℕ} (hk : l.length < k) :
    ∃ t', t.erase k x = some t' ∧ (t'.Balanced ↔ t.EraseKeeps k x) := by
  obtain ⟨t', l₁, l₂, hres, -, hholds, -⟩ := erase_spec h hx hk
  have hnull := hholds.null
  have hroot := hholds.root
  obtain ⟨s, hs, rfl⟩ := h.shaped
  obtain ⟨y, t₁, d, b, c, c', h1, rfl, h3, h4, h5, h6, -, -, hcase⟩ := erase_links hs hx hk
  have hf := hs.focus
  obtain ⟨n, hn, hc, -⟩ := (bal_plug h.null).1 ((hs.balanced_iff h.null h.root).1 hb)
  obtain ⟨rfl, hb0, hyb⟩ := bal_single hn
  have hzero : t₁.color 0 = t.color 0 := by rw [h6, if_neg hf.ne_zero.symm]
  have hframes := erase_sameColors h6 (hf.outside y (.inl rfl)) hcase
  have hc' := SameColors.balFrames hzero hframes hc
  have hempty : c' = [] ↔ c = [] := by
    rw [← List.length_eq_zero_iff, ← hframes.length_eq, List.length_eq_zero_iff]
  have hbal : Bal t₁.color b 0 := by
    refine hb0.congr hzero fun z hz => ?_
    rw [h6, if_neg]
    rintro rfl
    exact hf.right hz
  have hne : b.ptr ≠ 0 → b ≠ .leaf := fun h0 he => h0 (by rw [he]; rfl)
  obtain ⟨t'', g1, g2, g3⟩ := erase_end h1 h3 h4 h5 (by rw [h6, if_pos rfl]) (hzero.trans h.null)
    (fun h0 => hbal.zero (hne h0)) (by omega)
  obtain rfl : t' = t'' := Option.some.inj (hres.symm.trans g1)
  refine ⟨t', hres, ?_⟩
  rw [g2.balanced_iff hnull hroot, bal_plug hnull, EraseKeeps.iff h1]
  by_cases hl : b = .leaf
  · -- nothing takes the place of the node, and no fixup follows
    subst hl
    rw [if_pos (hf.childless.2 rfl)]
    rw [if_neg (by simp)] at g3
    rw [g3, hf.eq_root_iff, ← hempty]
    constructor
    · rintro ⟨m, hm, hm', -⟩
      obtain rfl : m = 0 := hm
      by_contra hcon
      obtain ⟨hy, hne'⟩ := not_or.1 hcon
      have := hc'.unique hne' hm'
      rw [Color.ne_red.1 hy] at this
      simp [Color.weight] at this
    · intro hkeep
      refine ⟨0, rfl, ?_, fun hr => absurd (hr.symm.trans (hzero.trans h.null)) (by simp)⟩
      rcases hkeep with hy | rfl
      · rw [hy] at hc'
        exact hc'
      · trivial
  · -- the child is red
    have hred := hbal.zero hl
    have hptr := hf.nonzero _ (.inr (Shape.ptr_mem hl))
    have hkept : t₁.color b.ptr = t.color b.ptr := by
      rw [h6, if_neg]
      rintro he
      exact hf.right (he ▸ Shape.ptr_mem hl)
    have hy : t.color y = .black := by
      rw [← Color.ne_red]
      intro hy
      rw [hkept, hyb hy] at hred
      cases hred
    rw [hy] at hc' ⊢
    rw [if_neg fun hno => hl (hf.childless.1 hno), or_iff_right (by simp)]
    constructor
    · rintro ⟨m, hm, hm', -⟩
      by_contra hx
      rw [if_neg fun hc => hx hc.2] at g3
      rw [g3] at hm hm'
      have hne' : c' ≠ [] := by
        rcases hcase with ⟨rfl, -⟩ | ⟨-, -, c₁, a, c₂, -, -, rfl⟩
        · exact absurd hy hx
        · simp
      rw [hm.unique hbal] at hm'
      have := hc'.unique hne' hm'
      simp [Color.weight] at this
    · intro hx
      rw [if_pos ⟨hptr, hx⟩] at g3
      obtain ⟨hd, -, hdis⟩ := distinct_plug.1 g2.tree.distinct
      obtain ⟨m, hm, hm'⟩ := hbal.blacken hd (hzero.trans h.null)
      rw [hm' hl, hred] at hm
      rw [g3]
      refine ⟨1, hm, ?_, fun hr => ?_⟩
      · refine SameColors.balFrames (Function.update_of_ne hptr.symm ..) (sameColors_refl fun z hz => ?_) hc'
        refine Function.update_of_ne ?_ ..
        rintro rfl
        exact hdis _ (Shape.ptr_mem hl) hz
      · rw [Function.update_self] at hr
        cases hr

lemma BalancedShape.of_holds {C : Comparator K} {l : List ℕ} (h : t.Holds C l) (hb : t.Balanced) :
    t.BalancedShape := by
  obtain ⟨s, hs, -⟩ := h.shaped
  exact ⟨s, hs, (hs.balanced_iff h.null h.root).1 hb⟩

def Keeps (fuel : ℕ) (t : RbTree K) : Call K → Prop
  | .erase node => t.EraseKeeps fuel node
  | _ => True

/-- The state after the calls `pre` has the property. -/
def After (comp : K → K → ℤ) (fuel : ℕ) (t : RbTree K) (pre : List (Call K)) (P : RbTree K → Prop) : Prop :=
  ∃ t' rs, t.run comp fuel pre = some (t', rs) ∧ P t'

lemma after_cons {comp : K → K → ℤ} {fuel : ℕ} {t₁ : RbTree K} {c : Call K} {r : Result}
    (h : t.call comp fuel c = some (t₁, r)) (pre : List (Call K)) (P : RbTree K → Prop) :
    After comp fuel t (c :: pre) P ↔ After comp fuel t₁ pre P := by
  unfold After
  simp only [run, h, Option.bind_some, Option.map_eq_some_iff, Prod.mk.injEq]
  constructor
  · rintro ⟨t', rs, ⟨q, hq, rfl, rfl⟩, hP⟩
    exact ⟨q.1, q.2, hq, hP⟩
  · rintro ⟨t', rs, hrun, hP⟩
    exact ⟨t', r :: rs, ⟨_, hrun, rfl, rfl⟩, hP⟩

section Calls

variable [DecidableEq K]

lemma call_balanced_iff {C : Comparator K} {t : RbTree K} {m : Entries K} (h : t.Implements C m)
    (hb : t.Balanced) {c : Call K} (hc : m.Allows c) {k : ℕ} (hk : m.length < k) :
    ∃ t', t.call C.comp k c = some (t', (m.call c).2) ∧ t'.Implements C (m.call c).1 ∧
      (t'.Balanced ↔ t.Keeps k c) := by
  obtain ⟨t', hcall, himp⟩ := call_spec h hc hk
  refine ⟨t', hcall, himp, ?_⟩
  obtain ⟨l, hl, hm⟩ := h.nodes
  obtain ⟨l', hl', -⟩ := himp.nodes
  have hlen : l.length < k := by
    rw [← List.length_map, hm.length_eq]
    exact hk
  cases c with
  | insert element key =>
    obtain ⟨hset, -⟩ := hl.setKey (fun hx => hc.2 _ (hm.mem_iff.1 (List.mem_map.2 ⟨element, hx, rfl⟩)) rfl)
    obtain ⟨s, hs, hn⟩ := BalancedShape.of_holds hl hb
    obtain ⟨r, hr, hbal⟩ := insert_bal hset ⟨s, hs.of_links rfl, hn⟩ hc.1 hlen
    rw [call, hr, Option.map_some, Option.some.injEq, Prod.mk.injEq] at hcall
    obtain ⟨rfl, -⟩ := hcall
    exact iff_of_true (hbal.balanced hl'.null hl'.root) trivial
  | erase node =>
    obtain ⟨e, he, rfl⟩ := hc
    obtain ⟨x, hx, rfl⟩ := List.mem_map.1 (hm.mem_iff.2 he)
    obtain ⟨t'', herase, hiff⟩ := erase_balanced_iff hl hb hx hlen
    rw [call, herase, Option.map_some, Option.some.injEq, Prod.mk.injEq] at hcall
    obtain ⟨rfl, -⟩ := hcall
    exact hiff
  | find key =>
    rw [call, hl.find hm key hlen, Option.map_some, Option.some.injEq, Prod.mk.injEq] at hcall
    obtain ⟨rfl, -⟩ := hcall
    exact iff_of_true hb trivial

lemma run_balanced_iff {C : Comparator K} {k : ℕ} (cs : List (Call K)) : ∀ {t : RbTree K} {m : Entries K},
    t.Implements C m → t.Balanced → m.AllowsAll cs → m.length + cs.length < k →
    ((∀ pre, pre <+: cs → After C.comp k t pre Balanced) ↔
      ∀ pre c, pre ++ [c] <+: cs → After C.comp k t pre fun t' => t'.Keeps k c) := by
  induction cs with
  | nil =>
    intro t m h hb _ _
    refine iff_of_true (fun pre hpre => ?_) fun pre c hpre => ?_
    · obtain rfl := List.prefix_nil.1 hpre
      exact ⟨t, [], rfl, hb⟩
    · simp at hpre
  | cons c cs ih =>
    intro t m h hb hc hk
    obtain ⟨hc1, hc2⟩ := hc
    have hle := length_call_le m c
    rw [List.length_cons] at hk
    obtain ⟨t₁, h1, h2, h3⟩ := call_balanced_iff h hb hc1 (by omega : m.length < k)
    constructor
    · intro hall pre c' hpre
      have hb₁ : t₁.Balanced := by
        obtain ⟨t', rs, hrun, hP⟩ := (after_cons h1 [] Balanced).1 (hall [c] (by simp))
        obtain ⟨rfl, -⟩ : t₁ = t' ∧ [] = rs := by simpa [run] using hrun
        exact hP
      cases pre with
      | nil =>
        obtain rfl : c' = c := by simpa using hpre
        exact ⟨t, [], rfl, h3.1 hb₁⟩
      | cons d pre =>
        obtain ⟨rfl, hpre'⟩ := List.cons_prefix_cons.1 hpre
        refine (after_cons h1 pre _).2 ((ih h2 hb₁ hc2 (by omega)).1 (fun pre' hpre'' => ?_) pre c' hpre')
        exact (after_cons h1 pre' _).1 (hall _ (List.cons_prefix_cons.2 ⟨rfl, hpre''⟩))
    · intro hall pre hpre
      have hb₁ : t₁.Balanced := by
        obtain ⟨t', rs, hrun, hP⟩ := hall [] c (by simp)
        obtain ⟨rfl, -⟩ : t = t' ∧ [] = rs := by simpa [run] using hrun
        exact h3.2 hP
      cases pre with
      | nil => exact ⟨t, [], rfl, hb⟩
      | cons d pre =>
        obtain ⟨rfl, hpre'⟩ := List.cons_prefix_cons.1 hpre
        refine (after_cons h1 pre _).2 ((ih h2 hb₁ hc2 (by omega)).2 (fun pre' c' hpre'' => ?_) pre hpre')
        exact (after_cons h1 pre' _).1 (hall (d :: pre') c' (List.cons_prefix_cons.2 ⟨rfl, hpre''⟩))

end Calls

end RbTree

lemma init_balanced (memory : RbTree K) : (init memory).Balanced := by
  have hshape : (init memory).Shaped .leaf :=
    ⟨⟨rfl, trivial, by simp [Shape.Distinct]⟩, fun e => by simp [init]⟩
  exact RbTree.BalancedShape.balanced ⟨_, hshape, 0, rfl⟩ (by simp [init]) (by simp [init])

/-- The red-black invariants hold after each operation if and only if every erase meets the condition
in the state that it is done in. -/
theorem rbtree_balanced_iff [DecidableEq K] (C : Comparator K) (memory : RbTree K) (cs : List (Call K))
    (hcs : Entries.AllowsAll [] cs) (fuel : ℕ) (hfuel : cs.length < fuel) :
    (∀ pre, pre <+: cs → ∃ t rs, (init memory).run C.comp fuel pre = some (t, rs) ∧ t.Balanced) ↔
      ∀ pre c, pre ++ [c] <+: cs → ∃ t rs, (init memory).run C.comp fuel pre = some (t, rs) ∧ t.Keeps fuel c :=
  RbTree.run_balanced_iff cs (init_implements C memory) (init_balanced memory) hcs (by simpa using hfuel)

def blank : RbTree ℤ := ⟨⟨fun _ => 0, fun _ _ => 0, 0⟩, fun _ => .black, fun _ => 0, 0⟩

theorem rbtree_balanced_iff_red :
    let cs : List (Call ℤ) := [.insert 1 1, .insert 2 2, .insert 3 3, .insert 4 4, .erase 4]
    (∀ pre, pre <+: cs → ∃ t rs, (init blank).run intComparator.comp 8 pre = some (t, rs) ∧ t.Balanced) ↔
      ∀ pre c, pre ++ [c] <+: cs →
        ∃ t rs, (init blank).run intComparator.comp 8 pre = some (t, rs) ∧ t.Keeps 8 c :=
  rbtree_balanced_iff intComparator blank _ (by simp [Entries.AllowsAll, Entries.Allows, Entries.call, Entries.lookup])
    8 (by decide)

/-- After the first erase one way down has one black node and another has two; after the second the red
node 7 has the red child 8. -/
theorem erase_unbalanced :
    (∃ t rs, Entries.AllowsAll [] [.insert 1 1, .insert 2 2, .insert 3 3, .insert 4 4, .erase 1] ∧
      (init blank).run intComparator.comp 8
        [.insert 1 1, .insert 2 2, .insert 3 3, .insert 4 4, .erase 1] = some (t, rs) ∧ ¬ t.Balanced) ∧
    ∃ t rs, Entries.AllowsAll [] [.insert 1 1, .insert 2 2, .insert 3 3, .insert 4 4, .insert 5 5, .insert 6 6,
        .insert 7 7, .insert 8 8, .erase 6] ∧ (init blank).run intComparator.comp 16
        [.insert 1 1, .insert 2 2, .insert 3 3, .insert 4 4, .insert 5 5, .insert 6 6, .insert 7 7, .insert 8 8,
          .erase 6] = some (t, rs) ∧ ¬ t.Balanced := by
  constructor
  · have hrun : ((init blank).run intComparator.comp 8
        [.insert 1 1, .insert 2 2, .insert 3 3, .insert 4 4, .erase 1]).map (fun r => (r.1.root, r.1.child .left 2,
          r.1.child .right 2, r.1.child .left 3, r.1.color 2, r.1.color 3)) =
        some (2, 0, 3, 0, .black, .black) := by decide +kernel
    obtain ⟨⟨t, rs⟩, hrun, hv⟩ := Option.map_eq_some_iff.1 hrun
    simp only [Prod.mk.injEq] at hv
    obtain ⟨hroot, hl, hr, hl', hc, hc'⟩ := hv
    refine ⟨t, rs, by simp [Entries.AllowsAll, Entries.Allows, Entries.call, Entries.lookup], hrun, fun hb => ?_⟩
    have hshort : t.Path t.root [2] := by
      rw [hroot]
      exact .step 2 .left [] (by decide) (by rw [hl]; exact .null)
    have hlong : t.Path t.root [2, 3] := by
      rw [hroot]
      refine .step 2 .right [3] (by decide) ?_
      rw [hr]
      exact .step 3 .left [] (by decide) (by rw [hl']; exact .null)
    have := hb.black _ _ hshort hlong
    simp [hc, hc'] at this
  · have hrun : ((init blank).run intComparator.comp 16 [.insert 1 1, .insert 2 2, .insert 3 3, .insert 4 4, .insert 5 5,
          .insert 6 6, .insert 7 7, .insert 8 8, .erase 6]).map (fun r => (r.1.root, r.1.child .right 4,
          r.1.child .right 7, r.1.child .left 8, r.1.color 7, r.1.color 8)) =
        some (4, 7, 8, 0, .red, .red) := by decide +kernel
    obtain ⟨⟨t, rs⟩, hrun, hv⟩ := Option.map_eq_some_iff.1 hrun
    simp only [Prod.mk.injEq] at hv
    obtain ⟨hroot, h4, h7, h8, hc, hc'⟩ := hv
    refine ⟨t, rs, by simp [Entries.AllowsAll, Entries.Allows, Entries.call, Entries.lookup], hrun, fun hb => ?_⟩
    have hway : t.Path t.root [4, 7, 8] := by
      rw [hroot]
      refine .step 4 .right [7, 8] (by decide) ?_
      rw [h4]
      refine .step 7 .right [8] (by decide) ?_
      rw [h7]
      exact .step 8 .left [] (by decide) (by rw [h8]; exact .null)
    have hchain := hb.red _ hway
    simp [hc, hc'] at hchain

end PjProject.RedBlack
