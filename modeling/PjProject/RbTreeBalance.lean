import PjProject.RbTreeRefine
import Mathlib.Data.List.Chain

/-!
# Balance of the red-black tree

The red-black invariants, over the paths of the links and over the shape of the tree. An insert
keeps them: while its loop goes on, the node that it is at is the only one that can have a red
parent.
-/
namespace PjProject.RedBlack

open LinkedTree

variable {K : Type*}

lemma Color.ne_red {c : Color} : c ≠ .red ↔ c = .black := by cases c <;> simp

lemma Color.ne_black {c : Color} : c ≠ .black ↔ c = .red := by cases c <;> simp

def Color.weight : Color → ℕ
  | .black => 1
  | .red => 0

section Shape

variable (col : ℕ → Color)

/-- No red node has a red child, and `n` nodes are black on every way down. -/
def Bal : Shape → ℕ → Prop
  | .leaf, n => n = 0
  | .node l p r, n => (col p = .red → col l.ptr = .black ∧ col r.ptr = .black) ∧
      ∃ m, Bal l m ∧ Bal r m ∧ n = m + (col p).weight

/-- The frames around a subtree with `n` black nodes on every way down. -/
def BalFrames : List Frame → ℕ → Prop
  | [], _ => True
  | f :: c, n => Bal col f.sibling n ∧
      (col f.ptr = .red → col f.sibling.ptr = .black ∧ col (top c) = .black) ∧
      BalFrames c (n + (col f.ptr).weight)

variable {col}

lemma bal_join (d : Side) {a b : Shape} {p n : ℕ} : Bal col (.join d a p b) n ↔
    (col p = .red → col a.ptr = .black ∧ col b.ptr = .black) ∧
      ∃ m, Bal col a m ∧ Bal col b m ∧ n = m + (col p).weight := by
  cases d with
  | left => exact Iff.rfl
  | right =>
    refine and_congr (imp_congr_right fun _ => and_comm) (exists_congr fun m => ?_)
    rw [and_left_comm]

lemma Bal.unique {s : Shape} : ∀ {n m : ℕ}, Bal col s n → Bal col s m → n = m := by
  induction s with
  | leaf => exact fun hn hm => hn.trans hm.symm
  | node l p r ihl _ =>
    intro n m hn hm
    obtain ⟨-, n', hl, -, rfl⟩ := hn
    obtain ⟨-, m', hl', -, rfl⟩ := hm
    rw [ihl hl hl']

variable {c : List Frame}

lemma BalFrames.unique (hc : c ≠ []) {n m : ℕ} (hn : BalFrames col c n) (hm : BalFrames col c m) : n = m := by
  cases c with
  | nil => exact absurd rfl hc
  | cons f c => exact hn.1.unique hm.1

variable {col' : ℕ → Color}

lemma Bal.congr (h0 : col' 0 = col 0) {s : Shape} :
    ∀ {n : ℕ}, (∀ x ∈ s, col' x = col x) → Bal col s n → Bal col' s n := by
  induction s with
  | leaf => exact fun _ hn => hn
  | node l p r ihl ihr =>
    intro n heq hn
    obtain ⟨hred, m, hl, hr, rfl⟩ := hn
    have hmem : ∀ y, y ∈ Shape.node l p r ↔ y = p ∨ y ∈ l ∨ y ∈ r := fun y => Shape.mem_join .left
    have hptr : ∀ s' : Shape, (∀ x ∈ s', col' x = col x) → col' s'.ptr = col s'.ptr := by
      intro s' hs'
      by_cases hl : s' = .leaf
      · rw [hl]
        exact h0
      · exact hs' _ (Shape.ptr_mem hl)
    have hl' : ∀ x ∈ l, col' x = col x := fun x hx => heq x ((hmem x).2 (.inr (.inl hx)))
    have hr' : ∀ x ∈ r, col' x = col x := fun x hx => heq x ((hmem x).2 (.inr (.inr hx)))
    have hp : col' p = col p := heq p ((hmem p).2 (.inl rfl))
    refine ⟨?_, m, ihl hl' hl, ihr hr' hr, by rw [hp]⟩
    rw [hp, hptr l hl', hptr r hr']
    exact hred

lemma bal_plug (h0 : col 0 = .black) : ∀ {s : Shape}, (∃ n, Bal col (plug s c) n) ↔
    ∃ n, Bal col s n ∧ BalFrames col c n ∧ (col s.ptr = .red → col (top c) = .black) := by
  induction c with
  | nil => simp [BalFrames, h0]
  | cons f c ih =>
    intro s
    rw [plug_cons, ih]
    simp only [bal_join, Shape.ptr_join, top_cons, BalFrames]
    constructor
    · rintro ⟨-, ⟨hred, m, hs, hb, rfl⟩, hc, htop⟩
      refine ⟨m, hs, ⟨hb, fun hr => ⟨(hred hr).2, htop hr⟩, hc⟩, fun hr => ?_⟩
      rw [← Color.ne_red]
      intro hp
      rw [(hred hp).1] at hr
      cases hr
    · rintro ⟨m, hs, ⟨hb, hred, hc⟩, htop⟩
      refine ⟨_, ⟨fun hr => ⟨?_, (hred hr).1⟩, m, hs, hb, rfl⟩, hc, fun hr => (hred hr).2⟩
      rw [← Color.ne_red]
      intro hs'
      rw [htop hs'] at hr
      cases hr

def SameColors (col' : ℕ → Color) (f f' : Frame) : Prop :=
  f'.sibling = f.sibling ∧ col' f'.ptr = col f.ptr ∧ ∀ x ∈ f.sibling, col' x = col x

lemma SameColors.top (h0 : col' 0 = col 0) {c' : List Frame}
    (h : List.Forall₂ (@SameColors col col') c c') : col' (top c') = col (top c) := by
  cases h with
  | nil => exact h0
  | cons hf _ => exact hf.2.1

lemma SameColors.balFrames (h0 : col' 0 = col 0) {c' : List Frame}
    (h : List.Forall₂ (@SameColors col col') c c') : ∀ {n : ℕ}, BalFrames col c n → BalFrames col' c' n := by
  induction h with
  | nil => exact fun _ => trivial
  | @cons f f' c c' hf htail ih =>
    intro n hb
    obtain ⟨hsib, hred, hc⟩ := hb
    obtain ⟨h1, h2, h3⟩ := hf
    refine ⟨?_, ?_, ?_⟩
    · rw [h1]
      exact hsib.congr h0 h3
    · rw [h2, h1, SameColors.top h0 htail]
      intro hr
      refine ⟨?_, (hred hr).2⟩
      by_cases hl : f.sibling = .leaf
      · rw [hl, Shape.ptr_leaf, h0]
        simpa [hl] using (hred hr).1
      · rw [h3 _ (Shape.ptr_mem hl)]
        exact (hred hr).1
    · rw [h2]
      exact ih hc

lemma sameColors_refl (h : ∀ x ∈ frameNodes c, col' x = col x) : List.Forall₂ (@SameColors col col') c c := by
  induction c with
  | nil => exact .nil
  | cons f c ih =>
    refine .cons ⟨rfl, h _ (by simp [frameNodes]), fun x hx => h x ?_⟩ (ih fun x hx => h x ?_)
    · exact List.mem_cons_of_mem _ (List.mem_append_left _ hx)
    · exact List.mem_cons_of_mem _ (List.mem_append_right _ hx)

lemma Bal.blacken {s : Shape} (hs : s.Distinct) (h0 : col 0 = .black) {n : ℕ} (h : Bal col s n) :
    ∃ m, Bal (Function.update col s.ptr .black) s m ∧ (s ≠ .leaf → m = n + (1 - (col s.ptr).weight)) := by
  have hzero : Function.update col s.ptr .black 0 = col 0 := by
    by_cases hz : 0 = s.ptr
    · rw [← hz, Function.update_self, h0]
    · exact Function.update_of_ne hz ..
  cases s with
  | leaf => exact ⟨0, rfl, fun hne => absurd rfl hne⟩
  | node l p r =>
    obtain ⟨hpl, hpr, -, -, -⟩ := (Shape.distinct_join .left).1 hs
    obtain ⟨-, m, hl, hr, rfl⟩ := h
    have hkeep : ∀ s' : Shape, p ∉ s' → ∀ x ∈ s', Function.update col p .black x = col x := by
      intro s' hp x hx
      refine Function.update_of_ne ?_ ..
      rintro rfl
      exact hp hx
    refine ⟨m + 1, ⟨fun hred => ?_, m, hl.congr hzero (hkeep l hpl), hr.congr hzero (hkeep r hpr), ?_⟩, fun _ => ?_⟩
    · simp [Shape.ptr] at hred
    · simp [Shape.ptr, Color.weight]
    · cases hc : col p <;> simp [Shape.ptr, Color.weight, hc]

end Shape

namespace RbTree

/-- The nodes on a way down from `x` to `null_node`. -/
inductive Path (t : RbTree K) : ℕ → List ℕ → Prop
  | null : Path t 0 []
  | step (x : ℕ) (d : Side) (l : List ℕ) (hx : x ≠ 0) (h : Path t (t.child d x) l) : Path t x (x :: l)

structure Balanced (t : RbTree K) : Prop where
  root : t.color t.root = .black
  red : ∀ l, t.Path t.root l → l.IsChain fun x y => t.color x = .red → t.color y = .black
  black : ∀ l l', t.Path t.root l → t.Path t.root l' →
    l.countP (t.color · = .black) = l'.countP (t.color · = .black)

variable {t : RbTree K} {x : ℕ}

lemma Path.head {l : List ℕ} (h : t.Path x l) : x = 0 ∧ l = [] ∨ l.head? = some x := by
  cases h with
  | null => exact .inl ⟨rfl, rfl⟩
  | step => exact .inr rfl

variable {s : Shape}

lemma exists_path : ∀ {par : ℕ}, Rep t.toLinks par s → ∃ l, t.Path s.ptr l := by
  induction s with
  | leaf => exact fun _ => ⟨[], .null⟩
  | node l p r ihl _ =>
    intro par h
    obtain ⟨h1, -, h3, -, h5, -⟩ := h
    obtain ⟨way, hway⟩ := ihl h5
    exact ⟨p :: way, .step p .left way h1 (by rw [h3]; exact hway)⟩

lemma countP_cons_weight (t : RbTree K) (x : ℕ) (l : List ℕ) :
    (x :: l).countP (t.color · = .black) = l.countP (t.color · = .black) + (t.color x).weight := by
  rw [List.countP_cons]
  cases t.color x <;> rfl

lemma path_of_bal : ∀ {par n : ℕ} {l : List ℕ}, Rep t.toLinks par s → Bal t.color s n → t.Path s.ptr l →
    l.IsChain (fun x y => t.color x = .red → t.color y = .black) ∧ l.countP (t.color · = .black) = n := by
  induction s with
  | leaf =>
    intro par n l _ hb hl
    cases hl with
    | null => exact ⟨.nil, hb.symm⟩
    | step _ _ _ hx => exact absurd rfl hx
  | node a p b iha ihb =>
    intro par n l h hb hl
    obtain ⟨h1, -, h3, h4, h5, h6⟩ := h
    obtain ⟨hred, m, ha, hb, rfl⟩ := hb
    cases hl with
    | null => exact absurd rfl h1
    | step _ d way _ hway =>
      have hsub : ∃ s, (s = a ∨ s = b) ∧ t.child d p = s.ptr := by
        cases d with
        | left => exact ⟨a, .inl rfl, h3⟩
        | right => exact ⟨b, .inr rfl, h4⟩
      obtain ⟨s, hs, hchild⟩ := hsub
      have hsub : way.IsChain (fun x y => t.color x = .red → t.color y = .black) ∧
          way.countP (t.color · = .black) = m := by
        have hway' : t.Path s.ptr way := by
          rw [← hchild]
          exact hway
        rcases hs with rfl | rfl
        · exact iha h5 ha hway'
        · exact ihb h6 hb hway'
      refine ⟨List.isChain_cons.2 ⟨fun y hy hp => ?_, hsub.1⟩, ?_⟩
      · rcases hway.head with ⟨-, rfl⟩ | hhead
        · simp at hy
        · have hy' : y = s.ptr := by
            rw [hhead] at hy
            exact (Option.some.inj hy).symm.trans hchild
          rw [hy']
          rcases hs with rfl | rfl
          · exact (hred hp).1
          · exact (hred hp).2
      · exact (t.countP_cons_weight p way).trans (by rw [hsub.2])

lemma bal_of_paths (h0 : t.color 0 = .black) : ∀ {par n : ℕ}, Rep t.toLinks par s →
    (∀ l, t.Path s.ptr l → l.IsChain (fun x y => t.color x = .red → t.color y = .black) ∧
      l.countP (t.color · = .black) = n) → Bal t.color s n := by
  induction s with
  | leaf =>
    intro par n _ h
    exact (h [] .null).2.symm
  | node a p b iha ihb =>
    intro par n hrep h
    obtain ⟨h1, -, h3, h4, h5, h6⟩ := hrep
    have hdown : ∀ d way, t.Path (t.child d p) way →
        way.IsChain (fun x y => t.color x = .red → t.color y = .black) ∧
          way.countP (t.color · = .black) + (t.color p).weight = n ∧
          (t.color p = .red → ∀ y ∈ way.head?, t.color y = .black) := by
      intro d way hway
      obtain ⟨g1, g2⟩ := h _ (.step p d way h1 hway)
      obtain ⟨g3, g4⟩ := List.isChain_cons.1 g1
      exact ⟨g4, (t.countP_cons_weight p way).symm.trans g2, fun hp y hy => g3 y hy hp⟩
    have htop : ∀ d (s : Shape), t.child d p = s.ptr → Rep t.toLinks p s → t.color p = .red →
        t.color s.ptr = .black := by
      intro d s hs hrep hp
      obtain ⟨way, hway⟩ := exists_path hrep
      rcases hway.head with ⟨hz, -⟩ | hhead
      · rw [hz, h0]
      · exact (hdown d way (by rw [hs]; exact hway)).2.2 hp _ hhead
    obtain ⟨way, hway⟩ := exists_path h5
    have hn := (hdown .left way (by rw [h3]; exact hway)).2.1
    refine ⟨fun hp => ⟨htop .left a h3 h5 hp, htop .right b h4 h6 hp⟩, n - (t.color p).weight, ?_, ?_, by omega⟩
    · refine iha h5 fun l hl => ?_
      obtain ⟨g1, g2, -⟩ := hdown .left l (by rw [h3]; exact hl)
      exact ⟨g1, by omega⟩
    · refine ihb h6 fun l hl => ?_
      obtain ⟨g1, g2, -⟩ := hdown .right l (by rw [h4]; exact hl)
      exact ⟨g1, by omega⟩

lemma Shaped.balanced_iff (h : t.Shaped s) (h0 : t.color 0 = .black)
    (hroot : t.color t.root = .black) : t.Balanced ↔ ∃ n, Bal t.color s n := by
  have hrep := h.tree.rep
  constructor
  · intro hb
    obtain ⟨way, hway⟩ := exists_path hrep
    refine ⟨way.countP (t.color · = .black), bal_of_paths h0 hrep fun l hl => ?_⟩
    rw [← h.tree.root] at hl hway
    exact ⟨hb.red l hl, hb.black l way hl hway⟩
  · rintro ⟨n, hn⟩
    refine ⟨hroot, fun l hl => ?_, fun l l' hl hl' => ?_⟩
    · rw [h.tree.root] at hl
      exact (path_of_bal hrep hn hl).1
    · rw [h.tree.root] at hl hl'
      rw [(path_of_bal hrep hn hl).2, (path_of_bal hrep hn hl').2]

def BalancedShape (t : RbTree K) : Prop := ∃ s, t.Shaped s ∧ ∃ n, Bal t.color s n

variable {n : ℕ} {d : Side} {b : Shape}

lemma rotate_grandparent_bal {u : Shape} {q g : ℕ} {c : List Frame}
    (h : t.Shaped (plug (.join d (.join d s q b) g u) c)) (h0 : t.color 0 = .black) (hs : Bal t.color s n)
    (hb : Bal t.color b n) (hu : Bal t.color u n) (hb' : t.color b.ptr = .black) (hu' : t.color u.ptr = .black)
    (hc : BalFrames t.color c (n + 1)) :
    (((t.setColor q .black).setColor g .red).rotate d.other g).BalancedShape := by
  have hg := h.focus
  have hq := @Shaped.focus _ t d s b q (⟨d, g, u⟩ :: c) h
  have heq : (Shape.join d (.join d s q b) g u) = .join d.other u g (.join d.other b q s) := by
    rw [Shape.join_other, Shape.join_other]
  have hcol : ((t.setColor q .black).setColor g .red).Shaped (plug (.join d.other u g (.join d.other b q s)) c) := by
    rw [← heq]
    exact h.of_links rfl
  obtain ⟨h1, h2, -⟩ := rotate_shaped hcol
  have hqg : q ≠ g := by
    intro he
    exact hg.left (by rw [he]; simp)
  have hkeep : ∀ x, x ≠ q → x ≠ g →
      (((t.setColor q .black).setColor g .red).rotate d.other g).color x = t.color x := by
    intro x hxq hxg
    rw [h2]
    simp [hxq, hxg]
  have hq' : (((t.setColor q .black).setColor g .red).rotate d.other g).color q = .black := by
    rw [h2]
    simp [hqg]
  have hg' : (((t.setColor q .black).setColor g .red).rotate d.other g).color g = .red := by
    rw [h2]
    simp
  have hzero := (hkeep 0 hq.ne_zero.symm hg.ne_zero.symm)
  have hsub : ∀ s' : Shape, q ∉ s' → g ∉ s' → ∀ x ∈ s', 
      (((t.setColor q .black).setColor g .red).rotate d.other g).color x = t.color x := by
    intro s' hq hg x hx
    exact hkeep x (fun he => hq (he ▸ hx)) fun he => hg (he ▸ hx)
  have hptr : ∀ s' : Shape, q ∉ s' → g ∉ s' → t.color s'.ptr = .black →
      (((t.setColor q .black).setColor g .red).rotate d.other g).color s'.ptr = .black := by
    intro s' hq hg hs'
    by_cases hl : s' = .leaf
    · rw [hl, Shape.ptr_leaf, hzero, h0]
    · rw [hsub s' hq hg _ (Shape.ptr_mem hl), hs']
  have hgsq : g ∉ s ∧ g ∉ b := by
    have := hg.left
    simp only [Shape.mem_join, not_or] at this
    exact this.2
  have hqu : q ∉ u := hg.apart q (by simp)
  refine ⟨_, h1, (bal_plug (hzero.trans h0)).2 ⟨n + 1, ?_, ?_, ?_⟩⟩
  · refine (bal_join d.other).2 ⟨fun hr => absurd (hq'.symm.trans hr) (by simp), n, ?_, ?_, by rw [hq']; rfl⟩
    · refine (bal_join d.other).2 ⟨fun _ => ⟨hptr u hqu hg.right hu', hptr b hq.right hgsq.2 hb'⟩, n, ?_, ?_, by
        rw [hg']; rfl⟩
      · exact hu.congr hzero (hsub u hqu hg.right)
      · exact hb.congr hzero (hsub b hq.right hgsq.2)
    · exact hs.congr hzero (hsub s hq.left hgsq.1)
  · refine SameColors.balFrames hzero (sameColors_refl fun x hx => ?_) hc
    refine hkeep x ?_ ?_
    · rintro rfl
      exact hg.outside x (.inr (.inl (by simp))) hx
    · rintro rfl
      exact hg.outside x (.inl rfl) hx
  · rw [Shape.ptr_join, hq']
    exact fun hr => absurd hr (by simp)

lemma Turned.bal {col : ℕ → Color} {side : Side} {f : Frame} {a b' : Shape} {q : ℕ}
    (h : Turned side f (.join d a x b) s q b') (hx : col x = .red) (hf : col f.ptr = .red)
    (hsib : col f.sibling.ptr = .black) (hsub : Bal col (.join d a x b) n) (hb : Bal col f.sibling n) :
    Bal col s n ∧ Bal col b' n ∧ col b'.ptr = .black := by
  rcases h with ⟨-, rfl, rfl, rfl⟩ | ⟨-, a', hjoin, rfl⟩
  · exact ⟨hsub, hb, hsib⟩
  · have hptr : x = q := by
      have := congrArg Shape.ptr hjoin
      simpa using this
    subst hptr
    rw [hjoin, bal_join] at hsub
    obtain ⟨hred, m, ha, hb', rfl⟩ := hsub
    simp only [hx, Color.weight, Nat.add_zero] at hb ⊢
    refine ⟨(bal_join side).2 ⟨fun _ => ⟨hsib, (hred hx).1⟩, m, hb, ha, ?_⟩, hb', (hred hx).2⟩
    rw [hf]
    rfl

lemma recolour_bal {f g : Frame} {c : List Frame}
    (h : t.Shaped (plug s (f :: g :: c))) (h0 : t.color 0 = .black) (hs : Bal t.color s n)
    (hf : Bal t.color f.sibling n) (hg : Bal t.color g.sibling n) (hu : t.color g.sibling.ptr = .red)
    (hul : g.sibling ≠ .leaf) (hc : BalFrames t.color c (n + 1)) :
    let t' := ((t.setColor g.sibling.ptr .black).setColor f.ptr .black).setColor g.ptr .red
    t'.color 0 = .black ∧ t'.color g.ptr = .red ∧
      Bal t'.color (.join g.side (.join f.side s f.ptr f.sibling) g.ptr g.sibling) (n + 1) ∧
      BalFrames t'.color c (n + 1) := by
  intro t'
  have hfx := @Shaped.focus _ t f.side s f.sibling f.ptr (g :: c) h
  have hgx := @Shaped.focus _ t g.side (.join f.side s f.ptr f.sibling) g.sibling g.ptr c h
  have hu0 := hgx.nonzero _ (.inr (Shape.ptr_mem hul))
  have hkeep : ∀ x, x ≠ g.sibling.ptr → x ≠ f.ptr → x ≠ g.ptr → t'.color x = t.color x := by
    intro x h1 h2 h3
    simp [t', h1, h2, h3]
  have hfg : f.ptr ≠ g.ptr := by
    intro he
    exact hgx.left (by simp [he])
  have hblack : t'.color f.ptr = .black := by simp [t', hfg]
  have hred : t'.color g.ptr = .red := by simp [t']
  have hug : g.sibling.ptr ≠ g.ptr := fun he => hgx.right (he ▸ Shape.ptr_mem hul)
  have huncle : t'.color g.sibling.ptr = .black := by simp [t', hug]
  have hzero := hkeep 0 hu0.symm hfx.ne_zero.symm hgx.ne_zero.symm
  have hin : ∀ x, x ∈ s ∨ x ∈ f.sibling → t'.color x = t.color x := by
    intro x hx
    have hx' : x ∈ Shape.join f.side s f.ptr f.sibling := (Shape.mem_join f.side).2 (.inr hx)
    refine hkeep x ?_ ?_ ?_
    · rintro rfl
      exact hgx.apart _ hx' (Shape.ptr_mem hul)
    · rintro rfl
      exact hx.elim hfx.left hfx.right
    · rintro rfl
      exact hgx.left hx'
  have hsib : Bal t'.color g.sibling (n + 1) := by
    obtain ⟨hd, -⟩ := distinct_plug.1 (show (plug (.join g.side (.join f.side s f.ptr f.sibling) g.ptr g.sibling) c).Distinct
      from h.tree.distinct)
    obtain ⟨m, hm, heq⟩ := hg.blacken ((Shape.distinct_join g.side).1 hd).2.2.2.1 h0
    rw [heq hul, hu] at hm
    have hzero' : t'.color 0 = Function.update t.color g.sibling.ptr .black 0 := by
      rw [hzero, Function.update_of_ne hu0.symm]
    refine hm.congr hzero' fun x hx => ?_
    have hxf : x ≠ f.ptr := by
      rintro rfl
      exact hgx.apart f.ptr (by simp) hx
    have hxg : x ≠ g.ptr := by
      rintro rfl
      exact hgx.right hx
    simp [t', hxf, hxg, Function.update_apply]
  refine ⟨hzero.trans h0, hred, ?_, ?_⟩
  · refine (bal_join g.side).2 ⟨fun _ => ⟨by rw [Shape.ptr_join, hblack], huncle⟩, n + 1, ?_, hsib, by rw [hred]; rfl⟩
    refine (bal_join f.side).2 ⟨fun hr => absurd (hblack.symm.trans hr) (by simp), n, ?_, ?_, by rw [hblack]; rfl⟩
    · exact hs.congr hzero fun x hx => hin x (.inl hx)
    · exact hf.congr hzero fun x hx => hin x (.inr hx)
  · refine SameColors.balFrames hzero (sameColors_refl fun x hx => ?_) hc
    refine hkeep x ?_ ?_ ?_
    · rintro rfl
      exact hgx.outside _ (.inr (.inr (Shape.ptr_mem hul))) hx
    · rintro rfl
      exact hgx.outside f.ptr (.inr (.inl (by simp))) hx
    · rintro rfl
      exact hgx.outside g.ptr (.inl rfl) hx

lemma insertLoop_bal (k : ℕ) : ∀ {t : RbTree K} {d : Side} {a b : Shape} {x : ℕ} {c : List Frame} {n : ℕ},
    t.Shaped (plug (.join d a x b) c) → t.color 0 = .black → (c ≠ [] → t.color t.root = .black) →
    t.color x = .red → Bal t.color (.join d a x b) n → BalFrames t.color c n → c.length < k →
    ∃ t', t.insertLoop k x = some t' ∧ t'.BalancedShape := by
  induction k with
  | zero => intro t d a b x c n _ _ _ _ _ _ hk; omega
  | succ k ih =>
    intro t d a b x c n h h0 hroot hx hn hc hk
    rcases insertLoop_cases h hroot with ⟨htop, hstop⟩ | ⟨f, g, c, rfl, hred, hstep⟩
    · refine ⟨t, hstop _ (by omega), _, h, (bal_plug h0).2 ⟨n, hn, hc, fun _ => ?_⟩⟩
      rcases htop with rfl | htop
      · exact h0
      · exact htop
    simp only [List.length_cons] at hk
    -- below a red node, so that the grandparent is black
    obtain ⟨hsib, hf, hg, hgred, hc⟩ := hc
    obtain ⟨hsib', hgp⟩ := hf hred
    rw [top_cons] at hgp
    simp only [hred, hgp, Color.weight, Nat.add_zero] at hg hc
    rw [hstep]
    rcases insertCase_spec h h0 with ⟨hu, hul, heq⟩ | ⟨hu, u, s, b', q, r1, r2, r3, r4, hs, hturn, heq⟩
    · obtain ⟨r1, r2, r3, r4⟩ := recolour_bal h h0 hn hsib hg hu hul hc
      have hgx := @Shaped.focus _ t g.side (.join f.side (.join d a x b) f.ptr f.sibling) g.sibling g.ptr c h
      rw [heq]
      refine ih (h.of_links rfl) r1 (fun hne => ?_) r2 r3 r4 (by omega)
      have hne' : t.root ≠ g.ptr := fun he => hgx.outside g.ptr (.inl rfl) (he ▸ hgx.frames.root_mem hne)
      simp [hne', hroot]
    · obtain ⟨hs', hb, hb'⟩ := hturn.bal hx hred hsib' hn hsib
      rw [← r2] at h0 hs' hb hb' hu hg hc
      obtain ⟨-, -, hblack⟩ := rotate_grandparent r1 hs h0
      rw [heq]
      exact ⟨_, insertLoop_stop (.inr hblack) (by omega), rotate_grandparent_bal r1 h0 hs' hb hg hb' hu hc⟩

lemma BalancedShape.balanced (h : t.BalancedShape) (h0 : t.color 0 = .black)
    (hroot : t.color t.root = .black) : t.Balanced := by
  obtain ⟨s, hs, hn⟩ := h
  exact (hs.balanced_iff h0 hroot).2 hn

lemma BalancedShape.blacken (h : t.BalancedShape) (h0 : t.color 0 = .black) :
    (t.setColor t.root .black).BalancedShape := by
  obtain ⟨s, hs, n, hn⟩ := h
  obtain ⟨m, hm, -⟩ := hn.blacken hs.tree.distinct h0
  refine ⟨s, hs.of_links rfl, m, ?_⟩
  rw [hs.tree.root]
  exact hm

variable {k : ℕ}

lemma insertFixup_bal {a : Shape} {c : List Frame}
    (h : t.Shaped (plug (.join d a x b) c)) (h0 : t.color 0 = .black)
    (hroot : c ≠ [] → t.color t.root = .black) (hx : t.color x = .red) (hn : Bal t.color (.join d a x b) n)
    (hc : BalFrames t.color c n) (hk : c.length < k) :
    ∃ t', t.insertFixup k x = some t' ∧ t'.BalancedShape := by
  obtain ⟨t', h1, h2⟩ := insertLoop_bal k h h0 hroot hx hn hc hk
  obtain ⟨t'', h3, -, h4⟩ := insertLoop_spec k h h0 hroot hk
  obtain rfl : t' = t'' := Option.some.inj (h1.symm.trans h3)
  exact ⟨t'.setColor t'.root .black, by rw [insertFixup, h1]; rfl, h2.blacken h4⟩

lemma link_bal {c : List Frame} {rv : ℤ} (h : t.Shaped (plug .leaf c)) (hx0 : x ≠ 0)
    (hx : x ∉ plug .leaf c) (hrv : ∀ f ∈ c.head?, rv < 0 ↔ f.side = .left) (h0 : t.color 0 = .black)
    (hroot : t.color t.root = .black) (hc : BalFrames t.color c 0) (hk : c.length < k) :
    ∃ t', t.link k x (top c) rv = some t' ∧ t'.BalancedShape := by
  have hleaf : ∀ col : ℕ → Color, Bal col (.join .left .leaf x .leaf) (col x).weight ↔
      (col x = .red → col 0 = .black) := by
    intro col
    simp [bal_join, Bal]
  rcases link_cases h hx0 hx hrv with ⟨rfl, t', h1, h2, h3, -⟩ | ⟨u, h1, h2, h3, h4, h5, -⟩
  · refine ⟨t', h1 k, _, h2, _, (hleaf t'.color).2 fun _ => ?_⟩
    rw [h3, if_neg hx0.symm, h0]
  · have hux : u.color x = .red := by rw [h3, if_pos rfl]
    have hu0 : u.color 0 = t.color 0 := by rw [h3, if_neg hx0.symm]
    have hn : Bal u.color (.join .left .leaf x .leaf) 0 := by
      have := (hleaf u.color).2 fun _ => hu0.trans h0
      rwa [hux] at this
    have hsame : BalFrames u.color c 0 := by
      refine SameColors.balFrames hu0 (sameColors_refl fun y hy => ?_) hc
      rw [h3, if_neg]
      rintro rfl
      exact hx (mem_plug.2 (.inr hy))
    obtain ⟨t', g1, g2⟩ := insertFixup_bal h2 (hu0.trans h0) (fun _ => by rw [h4, h3, if_neg h5, hroot]) hux hn
      hsame hk
    exact ⟨t', (h1 k).trans g1, g2⟩

lemma insert_bal {C : Comparator K} {l : List ℕ} (h : t.Holds C l) (hb : t.BalancedShape) (hx0 : x ≠ 0) (hk : l.length < k) :
    ∃ r, t.insert C.comp k x = some r ∧ r.1.BalancedShape := by
  rcases h.search (t.key x) hk with ⟨h1, -⟩ | ⟨c, rv, h1, h2, h3, h4, h5⟩
  · exact ⟨(t, -1), by rw [insert, h1]; rfl, hb⟩
  have hlen : c.length < k := by
    have := length_frames_nodes_le .leaf c
    rw [h3] at this
    omega
  obtain ⟨n, hn, hc, -⟩ := (bal_plug h.null).1 ((h2.balanced_iff h.null h.root).1 (hb.balanced h.null h.root))
  rw [show n = 0 from hn] at hc
  obtain ⟨t', g1, s, g2, g3⟩ := link_bal h2 hx0 (fun hin => h4.ne hin rfl) h5 h.null h.root hc hlen
  refine ⟨({ t' with size := (t'.size + 1) % 2 ^ 32 }, 0), ?_, s, ⟨g2.tree, g2.null⟩, g3⟩
  rw [insert, h1]
  simp only [Option.bind_some, g1]
  rfl

end RbTree

end PjProject.RedBlack
