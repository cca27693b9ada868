import PjProject.RbTreeLinks

/-!
# Fixups of the red-black tree

`insert_fixup` and `delete_fixup` walk up from a node. They end, keep the order of the nodes
and leave the root black. That is all that the rest of the tree relies on: `pj_rbtree_erase`
skips the fixup where the unlinked node had no child, and reads the colour it decides by too
late, so that the heights of black nodes can differ, and `delete_fixup` can come to the
children of `null_node`.
-/
namespace PjProject.RedBlack

open LinkedTree

variable {K : Type*}

namespace RbTree

def Reshaped (t t' : RbTree K) (s : Shape) : Prop :=
  ∃ s', t'.Shaped s' ∧ s'.nodes .left = s.nodes .left ∧ t'.key = t.key ∧ t'.size = t.size

lemma Reshaped.trans {t t' t'' : RbTree K} {s s' : Shape} (h : Reshaped t' t'' s')
    (hn : s'.nodes .left = s.nodes .left) (hk : t'.key = t.key) (hz : t'.size = t.size) :
    Reshaped t t'' s := by
  obtain ⟨s'', h1, h2, h3, h4⟩ := h
  exact ⟨s'', h1, h2.trans hn, h3.trans hk, h4.trans hz⟩

variable {t : RbTree K} {s : Shape}

lemma Shaped.of_links {t' : RbTree K} (h : t.Shaped s) (hl : t'.toLinks = t.toLinks) : t'.Shaped s := by
  refine ⟨by rw [hl]; exact h.tree, fun e => ?_⟩
  rw [hl]
  exact h.null e

structure Focus (t : RbTree K) (d : Side) (a : Shape) (x : ℕ) (b : Shape) (c : List Frame) : Prop where
  ne_zero : x ≠ 0
  parent : t.parent x = top c
  child : t.child d x = a.ptr
  other : t.child d.other x = b.ptr
  frames : RepFrames t.toLinks c x
  outside : ∀ y, y = x ∨ y ∈ a ∨ y ∈ b → y ∉ frameNodes c
  left : x ∉ a
  right : x ∉ b
  apart : ∀ y ∈ a, y ∉ b
  nonzero : ∀ y, y ∈ a ∨ y ∈ b → y ≠ 0
  up : a ≠ .leaf → t.parent a.ptr = x

lemma Shaped.focus {t : RbTree K} {d : Side} {a b : Shape} {x : ℕ} {c : List Frame}
    (h : t.Shaped (plug (.join d a x b) c)) : t.Focus d a x b c := by
  obtain ⟨hfr, hrep⟩ := h.tree.plug
  obtain ⟨h1, h2, h3, h4, h5, h6⟩ := (rep_join d).1 hrep
  obtain ⟨hd1, -, hd3⟩ := distinct_plug.1 h.tree.distinct
  obtain ⟨g1, g2, -, -, g5⟩ := (Shape.distinct_join d).1 hd1
  rw [Shape.ptr_join] at hfr
  exact ⟨h1, h2, h3, h4, hfr, fun y hy => hd3 y ((Shape.mem_join d).2 hy), g1, g2, g5,
    fun y hy => hy.elim h5.ne_zero h6.ne_zero, h5.parent_ptr⟩

variable {d : Side} {a b : Shape} {x : ℕ} {c : List Frame}

lemma Focus.eq_root_iff (h : t.Focus d a x b c) : x = t.root ↔ c = [] :=
  h.frames.eq_root_iff (h.outside x (.inl rfl))

variable {p : ℕ}

lemma Focus.left_iff (h : t.Focus d a p b c) (ha : a ≠ .leaf) : t.child .left p = a.ptr ↔ d = .left := by
  constructor
  · intro heq
    cases d with
    | left => rfl
    | right =>
      -- the node would be on both sides
      have hb : b.ptr = a.ptr := h.other.symm.trans heq
      have hin := Shape.ptr_mem ha
      have hne : b ≠ .leaf := by
        rintro rfl
        exact h.nonzero _ (.inl hin) hb.symm
      exact absurd (hb ▸ Shape.ptr_mem hne) (h.apart _ hin)
  · rintro rfl
    exact h.child

lemma Shaped.root_ne_zero (h : t.Shaped s) (hs : s ≠ .leaf) : t.root ≠ 0 := by
  rw [h.tree.root]
  exact h.tree.rep.ne_zero (Shape.ptr_mem hs)

lemma Shaped.root_ne_child {t : RbTree K} {d : Side} {a b : Shape} {p : ℕ} {c : List Frame}
    (h : t.Shaped (plug (.join d a p b) c)) : t.root ≠ b.ptr := by
  have hp := h.focus
  by_cases hl : b = .leaf
  · rw [hl]
    exact h.root_ne_zero (plug_ne_leaf (by simp) c)
  intro he
  by_cases hc : c = []
  · have := hp.eq_root_iff.2 hc
    exact hp.right (by rw [this, he]; exact Shape.ptr_mem hl)
  · exact hp.outside _ (.inr (.inr (Shape.ptr_mem hl))) (he ▸ hp.frames.root_mem hc)

variable {k : ℕ}

lemma insertLoop_stop (h : x = t.root ∨ t.color (t.parent x) = .black)
    (hk : 0 < k) : t.insertLoop k x = some t := by
  cases k with
  | zero => omega
  | succ k =>
    rw [insertLoop, if_neg]
    rintro ⟨h1, h2⟩
    rcases h with h | h
    · exact h1 h
    · rw [h] at h2
      cases h2

lemma rotate_grandparent {u : Shape} {q g : ℕ}
    (h : t.Shaped (plug (.join d (.join d s q b) g u) c)) (hs : s ≠ .leaf) (h0 : t.color 0 = .black) :
    let t' := ((t.setColor q .black).setColor g .red).rotate d.other g
    Reshaped t t' (plug (.join d (.join d s q b) g u) c) ∧ t'.color 0 = .black ∧
      t'.color (t'.parent s.ptr) = .black := by
  have hg := h.focus
  have hq := @Shaped.focus _ t d s b q (⟨d, g, u⟩ :: c) h
  have heq : (Shape.join d (.join d s q b) g u) = .join d.other u g (.join d.other b q s) := by
    rw [Shape.join_other, Shape.join_other]
  have hcol : ((t.setColor q .black).setColor g .red).Shaped (plug (.join d.other u g (.join d.other b q s)) c) := by
    rw [← heq]
    exact h.of_links rfl
  obtain ⟨h1, h2, h3, h4⟩ := rotate_shaped hcol
  have hpar := (@Shaped.focus _ _ d.other (.join d.other u g b) s q c h1)
  have hqg : q ≠ g := by
    intro he
    exact hg.left (by rw [he]; simp)
  intro t'
  refine ⟨⟨_, h1, ?_, h3, h4⟩, ?_, ?_⟩
  · rw [heq]
    exact nodes_plug_congr (Shape.nodes_rotate ..) c
  · show (RbTree.rotate _ _ _).color 0 = _
    rw [h2]
    simp [hq.ne_zero.symm, hg.ne_zero.symm, h0]
  · show (RbTree.rotate _ _ _).color _ = _
    rw [h2]
    have : t'.parent s.ptr = q := by
      have := (h1.tree.plug).2
      obtain ⟨-, -, -, -, -, hrep⟩ := (rep_join d.other).1 this
      exact hrep.parent_ptr hs
    rw [this]
    simp [hqg]

lemma insertLoop_cases (h : t.Shaped (plug (.join d a x b) c)) (hroot : c ≠ [] → t.color t.root = .black) :
    ((c = [] ∨ t.color (top c) = .black) ∧ ∀ k, 0 < k → t.insertLoop k x = some t) ∨
      ∃ f g c', c = f :: g :: c' ∧ t.color f.ptr = .red ∧
        ∀ k, t.insertLoop (k + 1) x = insertLoop k (t.insertCase g.side x).1 (t.insertCase g.side x).2 := by
  have hx := h.focus
  by_cases hstop : x = t.root ∨ t.color (t.parent x) = .black
  · exact .inl ⟨by rwa [hx.eq_root_iff, hx.parent] at hstop, fun k hk => insertLoop_stop hstop hk⟩
  right
  have hxroot : x ≠ t.root := fun he => hstop (.inl he)
  have hred : t.color (t.parent x) = .red := by
    cases hc : t.color (t.parent x) with
    | red => rfl
    | black => exact absurd (.inr hc) hstop
  cases c with
  | nil => exact absurd (hx.eq_root_iff.2 rfl) hxroot
  | cons f c =>
  have hp := @Shaped.focus _ t f.side (.join d a x b) f.sibling f.ptr c h
  rw [show t.parent x = f.ptr from hx.parent] at hred
  cases c with
  | nil =>
    have := hroot (by simp)
    rw [← hp.eq_root_iff.2 rfl, hred] at this
    cases this
  | cons g c =>
  have hg := @Shaped.focus _ t g.side (.join f.side (.join d a x b) f.ptr f.sibling) g.sibling g.ptr c h
  have hgp : t.parent f.ptr = g.ptr := hp.parent
  have hside : t.child .left g.ptr = f.ptr ↔ g.side = .left := by
    have := hg.left_iff (by simp)
    simpa using this
  refine ⟨f, g, c, rfl, hred, fun k => ?_⟩
  rw [insertLoop, if_pos ⟨hxroot, by rw [hx.parent]; exact hred⟩]
  simp only [hx.parent, top_cons, hgp]
  cases hs : g.side with
  | left => rw [if_pos (hside.2 hs).symm]
  | right => rw [if_neg fun he => by rw [hside.1 he.symm] at hs; cases hs]

/-- The rotation that brings a node on the inner side of its parent to the outer side: `s` is the
subtree of the lower of the two, `q` the upper one. -/
def Turned (side : Side) (f : Frame) (sub s : Shape) (q : ℕ) (b : Shape) : Prop :=
  f.side = side ∧ s = sub ∧ q = f.ptr ∧ b = f.sibling ∨
    f.side = side.other ∧ ∃ a, sub = .join side a q b ∧ s = .join side f.sibling f.ptr a

lemma insertCase_spec {f g : Frame}
    (h : t.Shaped (plug (.join d a x b) (f :: g :: c))) (h0 : t.color 0 = .black) :
    (t.color g.sibling.ptr = .red ∧ g.sibling ≠ .leaf ∧ t.insertCase g.side x =
        (((t.setColor g.sibling.ptr .black).setColor f.ptr .black).setColor g.ptr .red, g.ptr)) ∨
      t.color g.sibling.ptr = .black ∧ ∃ (u : RbTree K) (s b' : Shape) (q : ℕ),
        u.Shaped (plug (.join g.side (.join g.side s q b') g.ptr g.sibling) c) ∧
        u.color = t.color ∧ u.key = t.key ∧ u.size = t.size ∧ s ≠ .leaf ∧
        Turned g.side f (.join d a x b) s q b' ∧
        t.insertCase g.side x = (((u.setColor q .black).setColor g.ptr .red).rotate g.side.other g.ptr, s.ptr) := by
  have hx := h.focus
  have hp := @Shaped.focus _ t f.side (.join d a x b) f.sibling f.ptr (g :: c) h
  have hg := @Shaped.focus _ t g.side (.join f.side (.join d a x b) f.ptr f.sibling) g.sibling g.ptr c h
  have hgp : t.parent f.ptr = g.ptr := hp.parent
  by_cases hu : t.color g.sibling.ptr = .red
  · left
    refine ⟨hu, ?_, by simp only [insertCase, hx.parent, top_cons, hgp, hg.other, if_pos hu, setColor_toLinks]⟩
    intro hl
    rw [hl, Shape.ptr_leaf, h0] at hu
    cases hu
  right
  refine ⟨by cases hc : t.color g.sibling.ptr with | black => rfl | red => exact absurd hc hu, ?_⟩
  obtain ⟨a', b', hjoin⟩ := Shape.exists_join_eq d g.side a x b
  rcases g.side.eq_or_eq_other f.side with hf | hf
  · -- the node is on the outer side
    have hnot : x ≠ t.child g.side.other f.ptr := by
      rw [← hf, hp.other]
      intro he
      have hsib : f.sibling ≠ .leaf := by
        intro hl
        rw [hl] at he
        exact hx.ne_zero he
      exact hp.apart x (by simp) (he ▸ Shape.ptr_mem hsib)
    have hshape : t.Shaped (plug (.join g.side (.join g.side (.join d a x b) f.ptr f.sibling) g.ptr g.sibling) c) := by
      have := h
      simp only [plug_cons, hf] at this
      exact this
    refine ⟨t, .join d a x b, f.sibling, f.ptr, hshape, rfl, rfl, rfl, by simp, .inl ⟨hf, rfl, rfl, rfl⟩, ?_⟩
    simp only [insertCase, hx.parent, top_cons, hgp, hg.other, if_neg hu, if_neg hnot, setColor_toLinks,
      Shape.ptr_join]
  · -- on the inner side the parent is rotated first
    have hyes : x = t.child g.side.other f.ptr := by
      rw [← hf, hp.child, Shape.ptr_join]
    have hshape : t.Shaped (plug (.join g.side f.sibling f.ptr (.join g.side a' x b')) (g :: c)) := by
      have := h
      rw [plug_cons, hf, Shape.join_other, hjoin] at this
      exact this
    obtain ⟨r1, r2, r3, r4⟩ := rotate_shaped hshape
    have hfx := @Shaped.focus _ _ g.side f.sibling a' f.ptr (⟨g.side, x, b'⟩ :: g :: c) r1
    have hfx' := @Shaped.focus _ _ g.side (.join g.side f.sibling f.ptr a') b' x (g :: c) r1
    refine ⟨t.rotate g.side f.ptr, .join g.side f.sibling f.ptr a', b', x, r1, r2, r3, r4, by simp,
      .inr ⟨hf, a', hjoin, rfl⟩, ?_⟩
    simp only [insertCase, hx.parent, top_cons, hgp, hg.other, if_neg hu, if_pos hyes, setColor_toLinks,
      hfx.parent, hfx'.parent, Shape.ptr_join]

lemma Turned.nodes {side e : Side} {f : Frame} {sub : Shape} {q : ℕ} (h : Turned side f sub s q b) :
    (Shape.join side s q b).nodes e = (Shape.join f.side sub f.ptr f.sibling).nodes e := by
  rcases h with ⟨hf, rfl, rfl, rfl⟩ | ⟨hf, a, rfl, rfl⟩
  · rw [hf]
  · rw [hf, Shape.join_other]
    exact Shape.nodes_rotate ..

lemma insertLoop_spec (k : ℕ) : ∀ {t : RbTree K} {d : Side} {a b : Shape} {x : ℕ} {c : List Frame},
    t.Shaped (plug (.join d a x b) c) → t.color 0 = .black → (c ≠ [] → t.color t.root = .black) →
    c.length < k → ∃ t', t.insertLoop k x = some t' ∧ Reshaped t t' (plug (.join d a x b) c) ∧
      t'.color 0 = .black := by
  induction k with
  | zero => intro t d a b x c _ _ _ hk; omega
  | succ k ih =>
    intro t d a b x c h h0 hroot hk
    rcases insertLoop_cases h hroot with ⟨-, hstop⟩ | ⟨f, g, c, rfl, hred, hstep⟩
    · exact ⟨t, hstop _ (by omega), ⟨_, h, rfl, rfl, rfl⟩, h0⟩
    simp only [List.length_cons] at hk
    rw [hstep]
    rcases insertCase_spec h h0 with ⟨hu, hul, heq⟩ | ⟨-, u, s, b', q, r1, r2, r3, r4, hs, hturn, heq⟩
    · -- a red uncle: the colours move up
      have hp := @Shaped.focus _ t f.side (.join d a x b) f.sibling f.ptr (g :: c) h
      have hg := @Shaped.focus _ t g.side (.join f.side (.join d a x b) f.ptr f.sibling) g.sibling g.ptr c h
      have hu0 := hg.nonzero _ (.inr (Shape.ptr_mem hul))
      rw [heq]
      obtain ⟨t', h1, h2, h3⟩ := @ih (((t.setColor g.sibling.ptr .black).setColor f.ptr .black).setColor g.ptr .red)
        g.side _ _ g.ptr c (h.of_links rfl) (by simp [hu0.symm, hp.ne_zero.symm, hg.ne_zero.symm, h0]) (by
          intro hne
          have hin := hg.frames.root_mem hne
          have hne3 : t.root ≠ g.ptr := fun he => hg.outside g.ptr (.inl rfl) (he ▸ hin)
          simp [hne3, hroot]) (by omega)
      exact ⟨t', h1, h2.trans rfl rfl rfl, h3⟩
    · rw [heq]
      obtain ⟨h1, h2, h3⟩ := rotate_grandparent r1 hs (by rw [r2]; exact h0)
      refine ⟨_, insertLoop_stop (.inr h3) (by omega), h1.trans ?_ r3 r4, h2⟩
      exact nodes_plug_congr hturn.nodes (g :: c)

lemma insertFixup_spec (h : t.Shaped (plug (.join d a x b) c)) (h0 : t.color 0 = .black)
    (hroot : c ≠ [] → t.color t.root = .black) (hk : c.length < k) :
    ∃ t', t.insertFixup k x = some t' ∧ Reshaped t t' (plug (.join d a x b) c) ∧
      t'.color 0 = .black ∧ t'.color t'.root = .black := by
  obtain ⟨t', h1, ⟨s, h2, h3, h4, h5⟩, h6⟩ := insertLoop_spec k h h0 hroot hk
  refine ⟨t'.setColor t'.root .black, by rw [insertFixup, h1]; rfl, ⟨s, h2.of_links rfl, h3, h4, h5⟩, ?_, ?_⟩
  · by_cases hr : 0 = t'.root
    · simp [← hr]
    · simp [hr, h6]
  · simp

/-- The same nodes in the same order, where the node `s.ptr` still is a child of `p`. -/
structure Moved (t t' : RbTree K) (d : Side) (s : Shape) (p : ℕ) (whole : Shape) (b' : Shape)
    (c' : List Frame) : Prop where
  shaped : t'.Shaped (plug (.join d s p b') c')
  nodes : (plug (.join d s p b') c').nodes .left = whole.nodes .left
  key : t'.key = t.key
  size : t'.size = t.size

lemma deleteSibling_spec
    (h : t.Shaped (plug (.join d s p b) c)) (hs : s ≠ .leaf) (hroot : t.color t.root = .black) :
    t.deleteSibling d s.ptr = (t, b.ptr) ∨
      ∃ b' c', Moved t (t.deleteSibling d s.ptr).1 d s p (plug (.join d s p b) c) b' c' ∧
        (t.deleteSibling d s.ptr).2 = b'.ptr ∧ (t.deleteSibling d s.ptr).1.color p = .red ∧
        (p = (t.deleteSibling d s.ptr).1.root ∨
          (t.deleteSibling d s.ptr).1.color (t.deleteSibling d s.ptr).1.root = .black) := by
  have hp := h.focus
  unfold deleteSibling
  simp only [hp.up hs, hp.other]
  by_cases hred : t.color b.ptr = .red
  · right
    simp only [if_pos hred, setColor_toLinks, hp.up hs]
    have hcol : ((t.setColor b.ptr .black).setColor p .red).Shaped (plug (.join d s p b) c) := h.of_links rfl
    obtain rfl | ⟨b1, q, e, rfl⟩ := b.eq_leaf_or_join d
    · -- `null_node` is the sibling, and red: nothing is rotated
      have hnull : ((t.setColor Shape.leaf.ptr .black).setColor p .red).rotate d p =
          (t.setColor Shape.leaf.ptr .black).setColor p .red := rotate_null hp.other
      rw [hnull]
      refine ⟨.leaf, c, ⟨hcol, rfl, rfl, rfl⟩, ?_, by simp, ?_⟩
      · simp only [setColor_toLinks, hp.up hs, hp.other]
      · by_cases hr : p = t.root
        · exact .inl hr
        · right
          simp [Ne.symm hr, hroot]
    · obtain ⟨h1, h2, h3, h4⟩ := rotate_shaped hcol
      have hq := h1.focus
      have hp' := @Shaped.focus _ _ d s b1 p (⟨d, q, e⟩ :: c) h1
      have hqp : q ≠ p := fun he => hp.right (by simp [he])
      refine ⟨b1, ⟨d, q, e⟩ :: c, ⟨h1, ?_, h3, h4⟩, ?_, ?_, ?_⟩
      · exact nodes_plug_congr (Shape.nodes_rotate ..) c
      · rw [hp'.up hs, hp'.other]
      · rw [h2]
        simp
      · right
        rw [h2]
        by_cases hc : c = []
        · have hroot' : q = (((t.setColor (Shape.join d b1 q e).ptr .black).setColor p .red).rotate d p).root :=
            hq.eq_root_iff.2 hc
          rw [← hroot']
          simp [hqp]
        · -- the root is above, and is not touched
          have hin := hp.frames.root_mem hc
          have hne1 : t.root ≠ p := fun he => hp.outside p (.inl rfl) (he ▸ hin)
          have hne2 : t.root ≠ q := fun he => hp.outside q (.inr (.inr (by simp))) (he ▸ hin)
          rw [hq.frames.root_eq hp.frames hc]
          simp [hne1, hne2, hroot]
  · left
    simp only [if_neg hred]

lemma deleteNephew_spec (h : t.Shaped (plug (.join d s p b) c)) (hs : s ≠ .leaf) :
    ∃ b', Moved t (t.deleteNephew d s.ptr b.ptr).1 d s p (plug (.join d s p b) c) b' c ∧
      (t.deleteNephew d s.ptr b.ptr).2 = b'.ptr := by
  have hp := h.focus
  unfold deleteNephew
  by_cases hblack : t.color (t.child d.other b.ptr) = .black
  · simp only [if_pos hblack]
    have hsame : ((t.setColor (t.child d b.ptr) .black).setColor b.ptr .red).Shaped (plug (.join d s p b) c) :=
      h.of_links rfl
    -- without a child on the side of the node, nothing is rotated
    have hstay : t.child d b.ptr = 0 →
        ∃ b', Moved t (((t.setColor (t.child d b.ptr) .black).setColor b.ptr .red).rotate d.other b.ptr) d s p
          (plug (.join d s p b) c) b' c ∧
          (((t.setColor (t.child d b.ptr) .black).setColor b.ptr .red).rotate d.other b.ptr).child d.other
            ((((t.setColor (t.child d b.ptr) .black).setColor b.ptr .red).rotate d.other b.ptr).parent s.ptr) =
            b'.ptr := by
      intro hz
      rw [rotate_null (by rw [Side.other_other]; exact hz)]
      exact ⟨b, ⟨hsame, rfl, rfl, rfl⟩, by simp only [setColor_toLinks, hp.up hs, hp.other]⟩
    obtain rfl | ⟨b1, q, e, rfl⟩ := b.eq_leaf_or_join d
    · exact hstay (h.null d)
    have hq := @Shaped.focus _ t d b1 e q (⟨d.other, p, s⟩ :: c) (by
      rw [plug_cons, Shape.join_other]
      exact h)
    rw [Shape.ptr_join] at hstay hsame ⊢
    obtain rfl | ⟨b2, z, e2, rfl⟩ := b1.eq_leaf_or_join d
    · exact hstay hq.child
    have hturn : Shape.join d (.join d b2 z e2) q e = .join d.other e q (.join d.other e2 z b2) := by
      rw [Shape.join_other, Shape.join_other]
    have hwhole : plug (.join d s p (.join d (.join d b2 z e2) q e)) c =
        plug (.join d.other e q (.join d.other e2 z b2)) (⟨d.other, p, s⟩ :: c) := by
      rw [plug_cons, Shape.join_other d _ p s, hturn]
    rw [hwhole] at hsame
    obtain ⟨h1, h2, h3, h4⟩ := rotate_shaped hsame
    have hback : plug (.join d.other (.join d.other e q e2) z b2) (⟨d.other, p, s⟩ :: c) =
        plug (.join d s p (.join d.other (.join d.other e q e2) z b2)) c := by
      rw [plug_cons, Shape.join_other d _ p s]
    have hnodes := nodes_plug_congr (Shape.nodes_rotate d.other .left e q e2 z b2) (⟨d.other, p, s⟩ :: c)
    rw [hback] at h1 hnodes
    have hp' := h1.focus
    refine ⟨.join d.other (.join d.other e q e2) z b2, ⟨h1, ?_, h3, h4⟩, ?_⟩
    · rw [hnodes, hwhole]
    · rw [hp'.up hs, hp'.other]
  · simp only [if_neg hblack]
    exact ⟨b, ⟨h, rfl, rfl, rfl⟩, rfl⟩

lemma deleteLast_spec (h : t.Shaped (plug (.join d s p b) c)) (hs : s ≠ .leaf) (temp : ℕ) :
    Reshaped t (t.deleteLast d s.ptr temp) (plug (.join d s p b) c) := by
  have hp := h.focus
  unfold deleteLast
  simp only [setColor_toLinks, hp.up hs]
  have hsame : (((t.setColor temp (t.color p)).setColor (t.child d.other temp) .black).setColor p .black).Shaped
      (plug (.join d s p b) c) := h.of_links rfl
  obtain rfl | ⟨b1, q, e, rfl⟩ := b.eq_leaf_or_join d
  · rw [rotate_null (by exact hp.other)]
    exact ⟨_, hsame, rfl, rfl, rfl⟩
  · obtain ⟨h1, h2, h3, h4⟩ := rotate_shaped hsame
    exact ⟨_, h1, nodes_plug_congr (Shape.nodes_rotate ..) c, h3, h4⟩

lemma deleteLoop_stop (h : x = t.root ∨ t.color x = .red) (hk : 0 < k) : t.deleteLoop k x = some (t, x) := by
  cases k with
  | zero => omega
  | succ k =>
    rw [deleteLoop, if_neg]
    rintro ⟨h1, h2⟩
    rcases h with h | h
    · exact h1 h
    · rw [h] at h2
      cases h2

lemma deleteLoop_spec (k : ℕ) : ∀ {t : RbTree K} {s : Shape} {c : List Frame}, t.Shaped (plug s c) →
    s ≠ .leaf → (s.ptr = t.root ∨ t.color t.root = .black) → c.length < k →
    ∃ t' x, t.deleteLoop k s.ptr = some (t', x) ∧ Reshaped t t' (plug s c) ∧
      (x = t'.root ∨ t'.color t'.root = .black) := by
  induction k with
  | zero => intro t s c _ _ _ hk; omega
  | succ k ih =>
    intro t s c h hs hroot hk
    by_cases hstop : s.ptr = t.root ∨ t.color s.ptr = .red
    · exact ⟨t, s.ptr, deleteLoop_stop hstop (by omega), ⟨_, h, rfl, rfl, rfl⟩, hroot⟩
    have hxroot : s.ptr ≠ t.root := fun he => hstop (.inl he)
    have hblack : t.color s.ptr = .black := by
      cases hc : t.color s.ptr with
      | black => rfl
      | red => exact absurd (.inr hc) hstop
    have hrb := hroot.resolve_left hxroot
    cases c with
    | nil => exact absurd h.tree.root.symm hxroot
    | cons f c =>
    have hp := @Shaped.focus _ t f.side s f.sibling f.ptr c h
    have hk0 : 0 < k := by simp at hk; omega
    have hcase : t.deleteLoop (k + 1) s.ptr =
        deleteLoop k (t.deleteCase f.side s.ptr).1 (t.deleteCase f.side s.ptr).2 := by
      rw [deleteLoop, if_pos ⟨hxroot, hblack⟩]
      simp only [hp.up hs]
      cases hd : f.side with
      | left => rw [if_pos ((hp.left_iff hs).2 hd)]
      | right => rw [if_neg fun he => by rw [(hp.left_iff hs).1 he] at hd; cases hd]
    rw [hcase]
    -- the last two parts end the loop at the root
    have hlast : ∀ {t1 : RbTree K} {b : Shape} {c' : List Frame},
        Moved t t1 f.side s f.ptr (plug s (f :: c)) b c' →
        ∃ t' x, deleteLoop k ((t1.deleteNephew f.side s.ptr b.ptr).1.deleteLast f.side s.ptr
            (t1.deleteNephew f.side s.ptr b.ptr).2)
          ((t1.deleteNephew f.side s.ptr b.ptr).1.deleteLast f.side s.ptr
            (t1.deleteNephew f.side s.ptr b.ptr).2).root = some (t', x) ∧
          Reshaped t t' (plug s (f :: c)) ∧ (x = t'.root ∨ t'.color t'.root = .black) := by
      intro t1 b c' hm
      obtain ⟨b', hm', -⟩ := deleteNephew_spec hm.shaped hs
      have hl := deleteLast_spec hm'.shaped hs (t1.deleteNephew f.side s.ptr b.ptr).2
      refine ⟨_, _, deleteLoop_stop (.inl rfl) hk0, ?_, .inl rfl⟩
      exact hl.trans (hm'.nodes.trans hm.nodes) (hm'.key.trans hm.key) (hm'.size.trans hm.size)
    rcases deleteSibling_spec h hs hrb with heq | ⟨b', c', hm, htemp, hred, hroot'⟩
    · have hm : Moved t t f.side s f.ptr (plug s (f :: c)) f.sibling c := ⟨h, rfl, rfl, rfl⟩
      simp only [deleteCase, heq]
      split_ifs with hboth
      · -- the sibling becomes red, and the loop goes on at the parent
        rw [hp.up hs]
        have hne := @Shaped.root_ne_child _ t f.side s f.sibling f.ptr c h
        have := @ih (t.setColor f.sibling.ptr .red) (.join f.side s f.ptr f.sibling) c (h.of_links rfl) (by simp)
          (.inr (by simp [hne, hrb])) (by simp at hk; omega)
        rw [Shape.ptr_join] at this
        obtain ⟨t', x, h1, h2, h3⟩ := this
        exact ⟨t', x, h1, h2.trans rfl rfl rfl, h3⟩
      · exact hlast hm
    · have hfoc := hm.shaped.focus
      simp only [deleteCase, htemp]
      split_ifs with hboth
      · -- the parent is red, so the loop ends there
        rw [hfoc.up hs]
        have hpb : f.ptr ≠ b'.ptr := by
          intro he
          by_cases hl : b' = .leaf
          · rw [hl] at he
            exact hfoc.ne_zero he
          · exact hfoc.right (he ▸ Shape.ptr_mem hl)
        have hrb' := hm.shaped.root_ne_child
        refine ⟨_, _, deleteLoop_stop (.inr (by simp [hpb, hred])) hk0,
          ⟨_, hm.shaped.of_links rfl, hm.nodes, hm.key, hm.size⟩, ?_⟩
        rcases hroot' with hr | hr
        · exact .inl hr
        · exact .inr (by simp [hrb', hr])
      · exact hlast hm

lemma deleteFixup_spec (h : t.Shaped (plug s c))
    (hs : s ≠ .leaf) (hroot : s.ptr = t.root ∨ t.color t.root = .black) (hk : c.length < k) :
    ∃ t', t.deleteFixup k s.ptr = some t' ∧ Reshaped t t' (plug s c) ∧ t'.color t'.root = .black := by
  obtain ⟨t', x, h1, ⟨s', h2, h3, h4, h5⟩, h6⟩ := deleteLoop_spec k h hs hroot hk
  refine ⟨t'.setColor x .black, by rw [deleteFixup, h1]; rfl, ⟨s', h2.of_links rfl, h3, h4, h5⟩, ?_⟩
  rcases h6 with rfl | h6
  · simp
  · by_cases hr : t'.root = x
    · simp [hr]
    · simp [hr, h6]

end RbTree

end PjProject.RedBlack
