import Mathlib.Data.List.Nodup
import Mathlib.Tactic.Tauto

/-!
# Binary trees with parent links

The shape of a binary tree that nodes form by their links to children and parents. A node is
an address, and 0 is the address of no node. A tree is taken apart at a node into the subtree
there and the frames above it, innermost first; the two sides of a tree are alike, so that
each statement is made for one `Side` and holds for both.
-/
namespace PjProject.LinkedTree

inductive Side
  | left | right
  deriving DecidableEq

def Side.other : Side → Side
  | .left => .right
  | .right => .left

@[simp] lemma Side.other_other (d : Side) : d.other.other = d := by cases d <;> rfl

@[simp] lemma Side.other_ne (d : Side) : d.other ≠ d := by cases d <;> decide

@[simp] lemma Side.ne_other (d : Side) : d ≠ d.other := by cases d <;> decide

lemma Side.eq_or_eq_other (d e : Side) : e = d ∨ e = d.other := by cases d <;> cases e <;> decide

structure Links where
  parent : ℕ → ℕ
  child : Side → ℕ → ℕ
  root : ℕ

inductive Shape
  | leaf
  | node (l : Shape) (p : ℕ) (r : Shape)

namespace Shape

def ptr : Shape → ℕ
  | leaf => 0
  | node _ p _ => p

/-- The tree with `a` on the one side of `p` and `b` on the other. -/
def join : Side → Shape → ℕ → Shape → Shape
  | .left, a, p, b => node a p b
  | .right, a, p, b => node b p a

def nodes : Side → Shape → List ℕ
  | _, leaf => []
  | .left, node l p r => nodes .left l ++ p :: nodes .left r
  | .right, node l p r => nodes .right r ++ p :: nodes .right l

@[simp] lemma ptr_leaf : leaf.ptr = 0 := rfl

variable (d : Side)

@[simp] lemma ptr_join (a : Shape) (p : ℕ) (b : Shape) : (join d a p b).ptr = p := by
  cases d <;> rfl

lemma join_other (a : Shape) (p : ℕ) (b : Shape) : join d.other a p b = join d b p a := by
  cases d <;> rfl

@[simp] lemma nodes_leaf : leaf.nodes d = [] := by cases d <;> rfl

@[simp] lemma nodes_join (a : Shape) (p : ℕ) (b : Shape) :
    (join d a p b).nodes d = a.nodes d ++ p :: b.nodes d := by
  cases d <;> rfl

/-- A rotation keeps the order of the nodes. -/
lemma nodes_rotate (e : Side) (a : Shape) (x : ℕ) (b : Shape) (r : ℕ) (c : Shape) :
    (join d (join d a x b) r c).nodes e = (join d a x (join d b r c)).nodes e := by
  cases d <;> cases e <;> simp [join, nodes]

lemma nodes_right (s : Shape) : s.nodes .right = (s.nodes .left).reverse := by
  induction s with
  | leaf => rfl
  | node l p r ihl ihr => simp [nodes, ihl, ihr]

instance : Membership ℕ Shape := ⟨fun s x => x ∈ s.nodes .left⟩

def Distinct (s : Shape) : Prop := (s.nodes .left).Nodup

lemma mem_nodes (s : Shape) {x : ℕ} : x ∈ s.nodes d ↔ x ∈ s := by
  cases d with
  | left => exact Iff.rfl
  | right => rw [nodes_right, List.mem_reverse]; rfl

@[simp] lemma not_mem_leaf (x : ℕ) : x ∉ leaf := by
  rw [← mem_nodes .left]
  simp

lemma perm_join (a : Shape) (p : ℕ) (b : Shape) :
    ((join d a p b).nodes .left).Perm (p :: (a.nodes .left ++ b.nodes .left)) := by
  cases d with
  | left => exact List.perm_middle
  | right =>
    refine List.perm_middle.trans ?_
    exact List.Perm.cons p List.perm_append_comm

@[simp] lemma mem_join {a : Shape} {p : ℕ} {b : Shape} {x : ℕ} :
    x ∈ join d a p b ↔ x = p ∨ x ∈ a ∨ x ∈ b := by
  rw [← mem_nodes .left, (perm_join d a p b).mem_iff, List.mem_cons, List.mem_append]
  rfl

lemma distinct_join {a : Shape} {p : ℕ} {b : Shape} :
    (join d a p b).Distinct ↔ p ∉ a ∧ p ∉ b ∧ a.Distinct ∧ b.Distinct ∧ ∀ x ∈ a, x ∉ b := by
  rw [Distinct, (perm_join d a p b).nodup_iff, List.nodup_cons, List.mem_append, List.nodup_append, not_or]
  constructor
  · rintro ⟨⟨h1, h2⟩, h3, h4, h5⟩
    exact ⟨h1, h2, h3, h4, fun x hx hx' => h5 x hx x hx' rfl⟩
  · rintro ⟨h1, h2, h3, h4, h5⟩
    refine ⟨⟨h1, h2⟩, h3, h4, ?_⟩
    rintro x hx y hy rfl
    exact h5 x hx hy

@[simp] lemma join_ne_leaf (a : Shape) (p : ℕ) (b : Shape) : join d a p b ≠ leaf := by
  cases d <;> simp [join]

lemma eq_leaf_or_join (s : Shape) : s = leaf ∨ ∃ a p b, s = join d a p b := by
  cases s with
  | leaf => exact .inl rfl
  | node l p r =>
    right
    cases d
    · exact ⟨l, p, r, rfl⟩
    · exact ⟨r, p, l, rfl⟩

lemma exists_join_eq (e : Side) (a : Shape) (x : ℕ) (b : Shape) : ∃ a' b', join d a x b = join e a' x b' := by
  rcases e.eq_or_eq_other d with rfl | rfl
  · exact ⟨a, b, rfl⟩
  · exact ⟨b, a, join_other e a x b⟩

lemma ptr_mem {s : Shape} (h : s ≠ leaf) : s.ptr ∈ s := by
  obtain h' | ⟨a, p, b, rfl⟩ := s.eq_leaf_or_join .left
  · exact absurd h' h
  · simp

end Shape

/-- A node above a subtree, which is on its side `side`. -/
structure Frame where
  side : Side
  ptr : ℕ
  sibling : Shape

def plug : Shape → List Frame → Shape
  | s, [] => s
  | s, f :: c => plug (.join f.side s f.ptr f.sibling) c

def top : List Frame → ℕ
  | [] => 0
  | f :: _ => f.ptr

@[simp] lemma top_nil : top [] = 0 := rfl

@[simp] lemma top_cons (f : Frame) (c : List Frame) : top (f :: c) = f.ptr := rfl

@[simp] lemma plug_nil (s : Shape) : plug s [] = s := rfl

@[simp] lemma plug_cons (s : Shape) (f : Frame) (c : List Frame) :
    plug s (f :: c) = plug (.join f.side s f.ptr f.sibling) c := rfl

lemma plug_append (s : Shape) (c c' : List Frame) : plug s (c ++ c') = plug (plug s c) c' := by
  induction c generalizing s with
  | nil => rfl
  | cons f c ih => exact ih _

variable {s : Shape}

lemma plug_ne_leaf (h : s ≠ .leaf) (c : List Frame) : plug s c ≠ .leaf := by
  induction c generalizing s with
  | nil => exact h
  | cons f c ih => exact ih (by simp)

def before (d : Side) : List Frame → List ℕ
  | [] => []
  | f :: c => before d c ++ if f.side = d then [] else f.sibling.nodes d ++ [f.ptr]

def after (d : Side) : List Frame → List ℕ
  | [] => []
  | f :: c => (if f.side = d then f.ptr :: f.sibling.nodes d else []) ++ after d c

lemma before_append (d : Side) (c c' : List Frame) : before d (c ++ c') = before d c' ++ before d c := by
  induction c with
  | nil => simp [before]
  | cons f c ih => simp [before, ih]

lemma nodes_plug (d : Side) (s : Shape) (c : List Frame) :
    (plug s c).nodes d = before d c ++ s.nodes d ++ after d c := by
  induction c generalizing s with
  | nil => simp [before, after]
  | cons f c ih =>
    rw [plug_cons, ih, before, after]
    rcases d.eq_or_eq_other f.side with h | h
    · simp [h]
    · rw [if_neg (by rw [h]; simp), if_neg (by rw [h]; simp), h, Shape.join_other, Shape.nodes_join]
      simp

lemma nodes_plug_congr {d : Side} {s' : Shape} (h : s.nodes d = s'.nodes d) (c : List Frame) :
    (plug s c).nodes d = (plug s' c).nodes d := by
  rw [nodes_plug, nodes_plug, h]

variable {x : ℕ}

lemma exists_plug (d : Side) (s : Shape) : x ∈ s → ∀ c : List Frame,
    ∃ c' a b, plug s c = plug (.join d a x b) (c' ++ c) := by
  induction s with
  | leaf => simp
  | node l p r ihl ihr =>
    intro hx c
    have hcases : x = p ∨ x ∈ l ∨ x ∈ r := (Shape.mem_join .left).1 hx
    rcases hcases with rfl | h | h
    · cases d
      · exact ⟨[], l, r, rfl⟩
      · exact ⟨[], r, l, rfl⟩
    · obtain ⟨c', a, b, heq⟩ := ihl h (⟨.left, p, r⟩ :: c)
      refine ⟨c' ++ [⟨.left, p, r⟩], a, b, ?_⟩
      rw [List.append_assoc]
      exact heq
    · obtain ⟨c', a, b, heq⟩ := ihr h (⟨.right, p, l⟩ :: c)
      refine ⟨c' ++ [⟨.right, p, l⟩], a, b, ?_⟩
      rw [List.append_assoc]
      exact heq

lemma exists_join (d : Side) (h : x ∈ s) : ∃ c a b, s = plug (.join d a x b) c := by
  obtain ⟨c, a, b, heq⟩ := exists_plug d s h []
  exact ⟨c, a, b, by simpa using heq⟩

def frameNodes : List Frame → List ℕ
  | [] => []
  | f :: c => f.ptr :: (f.sibling.nodes .left ++ frameNodes c)

lemma frameNodes_append (c c' : List Frame) : frameNodes (c ++ c') = frameNodes c ++ frameNodes c' := by
  induction c with
  | nil => rfl
  | cons f c ih => simp [frameNodes, ih]

lemma perm_plug (s : Shape) (c : List Frame) :
    ((plug s c).nodes .left).Perm (s.nodes .left ++ frameNodes c) := by
  induction c generalizing s with
  | nil => simp [frameNodes]
  | cons f c ih =>
    refine (ih _).trans (((Shape.perm_join ..).append_right _).trans ?_)
    rw [frameNodes]
    simpa using (@List.perm_middle _ f.ptr (s.nodes .left) (f.sibling.nodes .left ++ frameNodes c)).symm

variable {c : List Frame}

lemma mem_plug : x ∈ plug s c ↔ x ∈ s ∨ x ∈ frameNodes c := by
  rw [← Shape.mem_nodes .left, (perm_plug s c).mem_iff, List.mem_append]
  rfl

lemma distinct_plug :
    (plug s c).Distinct ↔ s.Distinct ∧ (frameNodes c).Nodup ∧ ∀ x ∈ s, x ∉ frameNodes c := by
  rw [Shape.Distinct, (perm_plug s c).nodup_iff, List.nodup_append]
  constructor
  · rintro ⟨h1, h2, h3⟩
    exact ⟨h1, h2, fun x hx hx' => h3 x hx x hx' rfl⟩
  · rintro ⟨h1, h2, h3⟩
    refine ⟨h1, h2, ?_⟩
    rintro x hx y hy rfl
    exact h3 x hx hy

lemma length_frames_le (c : List Frame) : c.length ≤ (frameNodes c).length := by
  induction c with
  | nil => simp [frameNodes]
  | cons f c ih =>
    simp only [frameNodes, List.length_cons, List.length_append]
    omega

lemma length_frames_nodes_le (s : Shape) (c : List Frame) : c.length ≤ ((plug s c).nodes .left).length := by
  have h := length_frames_le c
  rw [(perm_plug s c).length_eq, List.length_append]
  omega

lemma length_frames_lt (hs : s ≠ .leaf) (c : List Frame) : c.length < ((plug s c).nodes .left).length := by
  have h := length_frames_le c
  have hpos := List.length_pos_of_mem (Shape.ptr_mem hs)
  rw [(perm_plug s c).length_eq, List.length_append]
  omega

/-- The links of the nodes are those of the shape, below `par`. -/
def Rep (m : Links) : ℕ → Shape → Prop
  | _, .leaf => True
  | par, .node l p r => p ≠ 0 ∧ m.parent p = par ∧ m.child .left p = l.ptr ∧ m.child .right p = r.ptr ∧
      Rep m p l ∧ Rep m p r

/-- The links of the frames, around a subtree at `hole`. -/
def RepFrames (m : Links) : List Frame → ℕ → Prop
  | [], hole => m.root = hole
  | f :: c, hole => f.ptr ≠ 0 ∧ m.parent f.ptr = top c ∧ m.child f.side f.ptr = hole ∧
      m.child f.side.other f.ptr = f.sibling.ptr ∧ Rep m f.ptr f.sibling ∧ RepFrames m c f.ptr

variable {m : Links}

lemma rep_join {par : ℕ} (d : Side) {a : Shape} {p : ℕ} {b : Shape} :
    Rep m par (.join d a p b) ↔ p ≠ 0 ∧ m.parent p = par ∧ m.child d p = a.ptr ∧
      m.child d.other p = b.ptr ∧ Rep m p a ∧ Rep m p b := by
  cases d
  · exact Iff.rfl
  · simp only [Shape.join, Rep, Side.other]
    tauto

lemma rep_plug : m.root = (plug s c).ptr ∧ Rep m 0 (plug s c) ↔ RepFrames m c s.ptr ∧ Rep m (top c) s := by
  induction c generalizing s with
  | nil => exact Iff.rfl
  | cons f c ih =>
    rw [plug_cons, ih, rep_join, RepFrames, Shape.ptr_join, top_cons]
    tauto

structure Tree (m : Links) (s : Shape) : Prop where
  root : m.root = s.ptr
  rep : Rep m 0 s
  distinct : s.Distinct

lemma Tree.plug (h : Tree m (plug s c)) : RepFrames m c s.ptr ∧ Rep m (top c) s :=
  rep_plug.1 ⟨h.root, h.rep⟩

lemma Tree.of_plug (h1 : RepFrames m c s.ptr)
    (h2 : Rep m (top c) s) (h3 : (LinkedTree.plug s c).Distinct) : Tree m (LinkedTree.plug s c) :=
  ⟨(rep_plug.2 ⟨h1, h2⟩).1, (rep_plug.2 ⟨h1, h2⟩).2, h3⟩

lemma Rep.ne_zero : ∀ {par : ℕ}, Rep m par s → ∀ {x : ℕ}, x ∈ s → x ≠ 0 := by
  induction s with
  | leaf => simp
  | node l p r ihl ihr =>
    intro par h x hx
    obtain ⟨h1, -, -, -, h5, h6⟩ := h
    rcases (Shape.mem_join .left).1 hx with rfl | hx | hx
    · exact h1
    · exact ihl h5 hx
    · exact ihr h6 hx

lemma Rep.parent_ptr {par : ℕ} (h : Rep m par s) (hs : s ≠ .leaf) : m.parent s.ptr = par := by
  cases s with
  | leaf => exact absurd rfl hs
  | node l p r => exact h.2.1

variable {m' : Links}

/-- Memory that agrees on the nodes, but for the parent of the topmost. -/
lemma Rep.congr : ∀ {par par' : ℕ}, Rep m par s → s.Distinct →
    (∀ x ∈ s, ∀ e, m'.child e x = m.child e x) → (∀ x ∈ s, x ≠ s.ptr → m'.parent x = m.parent x) →
    (s ≠ .leaf → m'.parent s.ptr = par') → Rep m' par' s := by
  induction s with
  | leaf => exact fun _ _ _ _ _ => trivial
  | node l p r ihl ihr =>
    intro par par' h hnd hchild hparent htop
    obtain ⟨h1, h2, h3, h4, h5, h6⟩ := h
    obtain ⟨hpl, hpr, hl, hr, -⟩ := (Shape.distinct_join .left).1 hnd
    have hp : p ∈ Shape.node l p r := (Shape.mem_join .left).2 (.inl rfl)
    have hinl : ∀ x ∈ l, x ∈ Shape.node l p r ∧ x ≠ p :=
      fun x hx => ⟨(Shape.mem_join .left).2 (.inr (.inl hx)), fun he => hpl (he ▸ hx)⟩
    have hinr : ∀ x ∈ r, x ∈ Shape.node l p r ∧ x ≠ p :=
      fun x hx => ⟨(Shape.mem_join .left).2 (.inr (.inr hx)), fun he => hpr (he ▸ hx)⟩
    have hsubl : ∀ x ∈ l, m'.parent x = m.parent x := fun x hx => hparent x (hinl x hx).1 (hinl x hx).2
    have hsubr : ∀ x ∈ r, m'.parent x = m.parent x := fun x hx => hparent x (hinr x hx).1 (hinr x hx).2
    refine ⟨h1, htop (by simp), (hchild p hp _).trans h3, (hchild p hp _).trans h4, ?_, ?_⟩
    · refine ihl h5 hl (fun x hx => hchild x (hinl x hx).1) (fun x hx _ => hsubl x hx) fun hne => ?_
      exact (hsubl _ (Shape.ptr_mem hne)).trans (h5.parent_ptr hne)
    · refine ihr h6 hr (fun x hx => hchild x (hinr x hx).1) (fun x hx _ => hsubr x hx) fun hne => ?_
      exact (hsubr _ (Shape.ptr_mem hne)).trans (h6.parent_ptr hne)

lemma top_eq_zero_or_mem (c : List Frame) : top c = 0 ∨ top c ∈ frameNodes c := by
  cases c with
  | nil => exact .inl rfl
  | cons f c => exact .inr (by simp [frameNodes])

lemma top_ne (h0 : x ≠ 0) (hx : x ∉ frameNodes c) : top c ≠ x := by
  rintro rfl
  exact (top_eq_zero_or_mem c).elim h0 hx

def holeLink (m : Links) : List Frame → ℕ
  | [] => m.root
  | f :: _ => m.child f.side f.ptr

/-- Memory that agrees on the nodes of the frames, but for the link to the subtree. -/
lemma RepFrames.congr : ∀ {hole hole' : ℕ}, RepFrames m c hole →
    (frameNodes c).Nodup → (∀ x ∈ frameNodes c, m'.parent x = m.parent x) →
    (∀ x ∈ frameNodes c, ∀ e, (∀ f ∈ c.head?, e = f.side → x ≠ f.ptr) → m'.child e x = m.child e x) →
    (c ≠ [] → m'.root = m.root) → holeLink m' c = hole' → RepFrames m' c hole' := by
  induction c with
  | nil => exact fun _ _ _ _ _ h => h
  | cons f c ih =>
    intro hole hole' h hnd hparent hchild hroot hlink
    obtain ⟨h1, h2, h3, h4, h5, h6⟩ := h
    obtain ⟨hp, hsib⟩ := List.nodup_cons.1 hnd
    obtain ⟨hs, hc, hdisj⟩ := List.nodup_append.1 hsib
    have hps : f.ptr ∉ f.sibling := fun hin => hp (List.mem_append_left _ hin)
    have hpc : f.ptr ∉ frameNodes c := fun hin => hp (List.mem_append_right _ hin)
    have hinp : f.ptr ∈ frameNodes (f :: c) := by simp [frameNodes]
    have hins : ∀ x ∈ f.sibling, x ∈ frameNodes (f :: c) :=
      fun x hx => List.mem_cons_of_mem _ (List.mem_append_left _ hx)
    have hinc : ∀ x ∈ frameNodes c, x ∈ frameNodes (f :: c) :=
      fun x hx => List.mem_cons_of_mem _ (List.mem_append_right _ hx)
    have hkeep : ∀ x ∈ frameNodes (f :: c), x ≠ f.ptr → ∀ e, m'.child e x = m.child e x := by
      intro x hx hne e
      refine hchild x hx e ?_
      intro g hg _
      obtain rfl : f = g := by simpa using hg
      exact hne
    refine ⟨h1, (hparent _ hinp).trans h2, hlink, ?_, ?_, ?_⟩
    · rw [hchild _ hinp, h4]
      intro g hg he
      obtain rfl : f = g := by simpa using hg
      exact absurd he (Side.other_ne _)
    · refine h5.congr hs (fun x hx => hkeep x (hins x hx) fun he => hps (he ▸ hx))
        (fun x hx _ => hparent x (hins x hx)) fun hne => ?_
      exact (hparent _ (hins _ (Shape.ptr_mem hne))).trans (h5.parent_ptr hne)
    · refine ih h6 hc (fun x hx => hparent x (hinc x hx)) (fun x hx e _ =>
        hkeep x (hinc x hx) (fun he => hpc (he ▸ hx)) e) (fun _ => hroot (by simp)) ?_
      cases c with
      | nil => exact (hroot (by simp)).trans h6
      | cons g c =>
        have hg : g.ptr ∈ frameNodes (g :: c) := by simp [frameNodes]
        exact (hkeep _ (hinc _ hg) (fun he => hpc (he ▸ hg)) _).trans h6.2.2.1

lemma RepFrames.root_mem : ∀ {hole : ℕ}, RepFrames m c hole → c ≠ [] → m.root ∈ frameNodes c := by
  induction c with
  | nil => exact fun _ hne => absurd rfl hne
  | cons f c ih =>
    intro hole h _
    obtain ⟨-, -, -, -, -, h6⟩ := h
    cases c with
    | nil =>
      rw [show m.root = f.ptr from h6]
      simp [frameNodes]
    | cons g c => exact List.mem_cons_of_mem _ (List.mem_append_right _ (ih h6 (by simp)))

lemma RepFrames.root_eq : ∀ {hole hole' : ℕ}, RepFrames m c hole →
    RepFrames m' c hole' → c ≠ [] → m.root = m'.root := by
  induction c with
  | nil => exact fun _ _ hne => absurd rfl hne
  | cons f c ih =>
    intro hole hole' h h' _
    cases c with
    | nil => exact h.2.2.2.2.2.trans h'.2.2.2.2.2.symm
    | cons g c => exact ih h.2.2.2.2.2 h'.2.2.2.2.2 (by simp)

/-- A node is the root if there are no frames above it. -/
lemma RepFrames.eq_root_iff (h : RepFrames m c x) (hx : x ∉ frameNodes c) : x = m.root ↔ c = [] := by
  constructor
  · intro heq
    by_contra hne
    exact hx (heq ▸ h.root_mem hne)
  · rintro rfl
    exact h.symm

/-- Children and parents of the nodes `l` point to each other. -/
structure Linked (m : Links) (l : List ℕ) : Prop where
  down : ∀ x ∈ l, ∀ e, m.child e x ≠ 0 → m.child e x ∈ l ∧ m.parent (m.child e x) = x
  up : ∀ x ∈ l, x = m.root ∧ m.parent x = 0 ∨ m.parent x ∈ l ∧ ∃ e, m.child e (m.parent x) = x

lemma Tree.linked (h : Tree m s) : Linked m (s.nodes .left) := by
  refine ⟨fun x hx e hne => ?_, fun x hx => ?_⟩
  · obtain ⟨c, a, b, rfl⟩ := exists_join e hx
    obtain ⟨-, -, h3, -, h5, -⟩ := (rep_join e).1 h.plug.2
    rw [h3] at hne ⊢
    have ha : a ≠ .leaf := by
      rintro rfl
      exact hne rfl
    refine ⟨?_, h5.parent_ptr ha⟩
    exact mem_plug.2 (.inl ((Shape.mem_join e).2 (.inr (.inl (Shape.ptr_mem ha)))))
  · obtain ⟨c, a, b, rfl⟩ := exists_join .left hx
    obtain ⟨hfr, hrep⟩ := h.plug
    obtain ⟨-, h2, -⟩ := (rep_join .left).1 hrep
    rw [Shape.ptr_join] at hfr
    cases c with
    | nil => exact .inl ⟨hfr.symm, h2⟩
    | cons f c =>
      obtain ⟨-, -, h3, -⟩ := hfr
      rw [top_cons] at h2
      right
      rw [h2]
      exact ⟨mem_plug.2 (.inr (by simp [frameNodes])), f.side, h3⟩

end PjProject.LinkedTree
