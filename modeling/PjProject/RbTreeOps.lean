import PjProject.RbTreeFixup

/-!
# Operations of the red-black tree

What each operation does to the nodes in order: an insert adds one in its place or finds its key
there, an erase takes one out, and the walks follow the order.
-/
namespace PjProject.RedBlack

open LinkedTree

variable {K : Type*}

structure Comparator (K : Type*) where
  comp : K → K → ℤ
  eq_zero : ∀ a b, comp a b = 0 ↔ a = b
  swap : ∀ a b, comp a b < 0 ↔ 0 < comp b a
  trans : ∀ a b c, comp a b < 0 → comp b c < 0 → comp a c < 0

namespace RbTree

lemma findLoop_spec (C : Comparator K) (t : RbTree K) (key : K) (s : Shape) : ∀ {par : ℕ} {k : ℕ},
    Rep t.toLinks par s → (s.nodes .left).Pairwise (fun x y => C.comp (t.key x) (t.key y) < 0) →
    (s.nodes .left).length < k → (∃ y ∈ s, t.key y = key ∧ t.findLoop C.comp k key s.ptr = some y) ∨
      ((∀ y ∈ s, t.key y ≠ key) ∧ t.findLoop C.comp k key s.ptr = some 0) := by
  induction s with
  | leaf =>
    intro par k _ _ hk
    right
    refine ⟨by simp, ?_⟩
    cases k with
    | zero => omega
    | succ k => simp [findLoop]
  | node l p r ihl ihr =>
    intro par k hrep hord hk
    obtain ⟨h1, -, h3, h4, h5, h6⟩ := hrep
    obtain ⟨hl, hpr, hcross⟩ := List.pairwise_append.1 hord
    obtain ⟨hp, hr⟩ := List.pairwise_cons.1 hpr
    have hmem : ∀ y, y ∈ Shape.node l p r ↔ y = p ∨ y ∈ l ∨ y ∈ r := fun y => Shape.mem_join .left
    simp only [Shape.nodes, List.length_append, List.length_cons] at hk
    cases k with
    | zero => omega
    | succ k =>
      have hptr : (Shape.node l p r).ptr = p := rfl
      simp only [hptr, findLoop, ne_eq, h1, not_false_eq_true, if_true]
      by_cases h0 : C.comp key (t.key p) = 0
      · left
        exact ⟨p, (hmem p).2 (.inl rfl), ((C.eq_zero ..).1 h0).symm, by rw [if_pos h0]⟩
      have hpne : t.key p ≠ key := fun he => h0 ((C.eq_zero ..).2 he.symm)
      rw [if_neg h0]
      by_cases hneg : C.comp key (t.key p) < 0
      · rw [if_pos hneg, h3]
        rcases @ihl p k h5 hl (by omega) with ⟨y, hy, hkey, heq⟩ | ⟨hno, heq⟩
        · exact .inl ⟨y, (hmem y).2 (.inr (.inl hy)), hkey, heq⟩
        · refine .inr ⟨fun y hy => ?_, heq⟩
          rcases (hmem y).1 hy with rfl | hy | hy
          · exact hpne
          · exact hno y hy
          · -- behind `p`, which is behind the key
            rintro rfl
            have := hp y hy
            rw [C.swap] at hneg
            omega
      · rw [if_neg hneg, h4]
        rcases @ihr p k h6 hr (by omega) with ⟨y, hy, hkey, heq⟩ | ⟨hno, heq⟩
        · exact .inl ⟨y, (hmem y).2 (.inr (.inr hy)), hkey, heq⟩
        · refine .inr ⟨fun y hy => ?_, heq⟩
          rcases (hmem y).1 hy with rfl | hy | hy
          · exact hpne
          · rintro rfl
            exact hneg (hcross y hy p (by simp))
          · exact hno y hy

/-- The keys of the frames are on the two sides of `key`. -/
structure Between (C : Comparator K) (t : RbTree K) (key : K) (c : List Frame) : Prop where
  before : ∀ y ∈ before .left c, C.comp (t.key y) key < 0
  after : ∀ y ∈ after .left c, C.comp key (t.key y) < 0

lemma search_spec (C : Comparator K) (t : RbTree K) (key : K) (s : Shape) : ∀ {c : List Frame} {rv : ℤ} {k : ℕ},
    Rep t.toLinks (top c) s → (s.nodes .left).Pairwise (fun x y => C.comp (t.key x) (t.key y) < 0) →
    Between C t key c → (∀ f ∈ c.head?, rv < 0 ↔ f.side = .left) → (s.nodes .left).length < k →
    (t.search C.comp k key s.ptr (top c) rv = some .found ∧ ∃ y ∈ s, t.key y = key) ∨
      ∃ c' rv', t.search C.comp k key s.ptr (top c) rv = some (.below (top c') rv') ∧
        plug s c = plug .leaf c' ∧ Between C t key c' ∧ ∀ f ∈ c'.head?, rv' < 0 ↔ f.side = .left := by
  induction s with
  | leaf =>
    intro c rv k _ _ hb hrv hk
    right
    refine ⟨c, rv, ?_, rfl, hb, hrv⟩
    cases k with
    | zero => omega
    | succ k => simp [search]
  | node l p r ihl ihr =>
    intro c rv k hrep hord hb hrv hk
    obtain ⟨h1, -, h3, h4, h5, h6⟩ := hrep
    obtain ⟨hl, hpr, hcross⟩ := List.pairwise_append.1 hord
    obtain ⟨hp, hr⟩ := List.pairwise_cons.1 hpr
    have hmem : ∀ y, y ∈ Shape.node l p r ↔ y = p ∨ y ∈ l ∨ y ∈ r := fun y => Shape.mem_join .left
    simp only [Shape.nodes, List.length_append, List.length_cons] at hk
    cases k with
    | zero => omega
    | succ k =>
      have hptr : (Shape.node l p r).ptr = p := rfl
      simp only [hptr, search, ne_eq, h1, not_false_eq_true, if_true]
      by_cases h0 : C.comp key (t.key p) = 0
      · left
        exact ⟨by rw [if_pos h0], p, (hmem p).2 (.inl rfl), ((C.eq_zero ..).1 h0).symm⟩
      rw [if_neg h0]
      by_cases hneg : C.comp key (t.key p) < 0
      · rw [if_pos hneg, h3]
        have hb' : Between C t key (⟨.left, p, r⟩ :: c) := by
          refine ⟨by simpa [LinkedTree.before] using hb.before, ?_⟩
          intro y hy
          simp only [LinkedTree.after, if_true, List.mem_append, List.mem_cons] at hy
          rcases hy with (rfl | hy) | hy
          · exact hneg
          · exact C.trans _ _ _ hneg (hp y hy)
          · exact hb.after y hy
        rcases @ihl (⟨.left, p, r⟩ :: c) (C.comp key (t.key p)) k h5 hl hb' (by simp [hneg]) (by omega) with
          ⟨heq, y, hy, hkey⟩ | ⟨c', rv', heq, hrest⟩
        · exact .inl ⟨heq, y, (hmem y).2 (.inr (.inl hy)), hkey⟩
        · exact .inr ⟨c', rv', heq, hrest⟩
      · rw [if_neg hneg, h4]
        have hpos : C.comp (t.key p) key < 0 := by
          rw [C.swap]
          omega
        have hb' : Between C t key (⟨.right, p, l⟩ :: c) := by
          refine ⟨?_, by simpa [LinkedTree.after] using hb.after⟩
          intro y hy
          simp only [LinkedTree.before, reduceCtorEq, if_false, List.mem_append, List.mem_singleton] at hy
          rcases hy with hy | hy | rfl
          · exact hb.before y hy
          · exact C.trans _ _ _ (hcross y hy p (by simp)) hpos
          · exact hpos
        rcases @ihr (⟨.right, p, l⟩ :: c) (C.comp key (t.key p)) k h6 hr hb' (by simp [hneg]) (by omega) with
          ⟨heq, y, hy, hkey⟩ | ⟨c', rv', heq, hrest⟩
        · exact .inl ⟨heq, y, (hmem y).2 (.inr (.inr hy)), hkey⟩
        · exact .inr ⟨c', rv', heq, hrest⟩

lemma extreme_spec (d : Side) (t : RbTree K) (s : Shape) (hs : s ≠ .leaf) : ∀ {par k : ℕ},
    Rep t.toLinks par s → (s.nodes .left).length ≤ k →
    ∃ c y b, s = plug (.join d .leaf y b) c ∧ before d c = [] ∧ t.extreme d k s.ptr = some y := by
  induction s with
  | leaf => exact absurd rfl hs
  | node l p r ihl ihr =>
    intro par k hrep hk
    obtain ⟨a, b, hjoin⟩ := Shape.exists_join_eq .left d l p r
    have hjoin' : Shape.node l p r = .join d a p b := hjoin
    have hpa : a = l ∨ a = r := by
      cases d
      · exact .inl (Shape.node.inj hjoin').1.symm
      · exact .inr (Shape.node.inj hjoin').2.2.symm
    have hlen : (a.nodes .left).length < k := by
      rw [hjoin', (Shape.perm_join d a p b).length_eq, List.length_cons, List.length_append] at hk
      omega
    rw [hjoin'] at hrep ⊢
    obtain ⟨h1, -, h3, -, h5, -⟩ := (rep_join d).1 hrep
    cases k with
    | zero => omega
    | succ k =>
      rw [Shape.ptr_join, extreme, h3]
      by_cases ha : a = .leaf
      · subst ha
        exact ⟨[], p, b, rfl, rfl, by simp⟩
      · have hne : a.ptr ≠ 0 := h5.ne_zero (Shape.ptr_mem ha)
        have ih : ∃ c y b, a = plug (.join d .leaf y b) c ∧ before d c = [] ∧
            t.extreme d k a.ptr = some y := by
          rcases hpa with rfl | rfl
          · exact ihl ha h5 (by omega)
          · exact ihr ha h5 (by omega)
        obtain ⟨c, y, b', heq, hb, hex⟩ := ih
        refine ⟨c ++ [⟨d, p, b⟩], y, b', ?_, ?_, by rw [if_pos hne, hex]⟩
        · rw [plug_append, ← heq]
          rfl
        · rw [before_append, hb]
          simp [LinkedTree.before]

variable {l : List ℕ}

lemma toNull_head (h : ∀ x ∈ l, x ≠ 0) : toNull (l.head?.getD 0) = l.head? := by
  cases l with
  | nil => rfl
  | cons x l => simp [toNull, h x (by simp)]

variable {d : Side} {s : Shape} {k : ℕ}

lemma extreme_head {t : RbTree K} {par : ℕ} (h : Rep t.toLinks par s)
    (hnull : ∀ e, t.child e 0 = 0) (hk : (s.nodes .left).length < k) :
    (t.extreme d k s.ptr).map toNull = some (s.nodes d).head? := by
  by_cases hs : s = .leaf
  · subst hs
    cases k with
    | zero => omega
    | succ k => simp [extreme, hnull, toNull]
  · obtain ⟨c, y, b, heq, hb, hex⟩ := @extreme_spec _ d t s hs par k h (by omega)
    have hy : y ≠ 0 := h.ne_zero (by rw [heq, mem_plug]; simp)
    rw [hex, heq, nodes_plug, hb]
    simp [toNull, hy]

lemma climb_spec (d : Side) (t : RbTree K) (c : List Frame) : ∀ {x k : ℕ}, RepFrames t.toLinks c x → x ≠ 0 →
    x ∉ frameNodes c → (frameNodes c).Nodup → c.length < k →
    t.climb d k x (top c) = some ((after d c).head?.getD 0) := by
  induction c with
  | nil =>
    intro x k _ _ _ _ hk
    cases k with
    | zero => omega
    | succ k => simp [climb, LinkedTree.after]
  | cons f c ih =>
    intro x k h hx0 hx hnd hk
    obtain ⟨h1, h2, h3, h4, h5, h6⟩ := h
    obtain ⟨hp, hrest⟩ := List.nodup_cons.1 hnd
    have hsib : x ∉ f.sibling := fun hin => hx (List.mem_cons_of_mem _ (List.mem_append_left _ hin))
    cases k with
    | zero => omega
    | succ k =>
      rw [top_cons, climb]
      rcases d.eq_or_eq_other f.side with hd | hd
      · rw [if_neg]
        · simp [LinkedTree.after, hd]
        · rintro ⟨-, hc⟩
          rw [← hd, h4] at hc
          exact hsib (hc ▸ Shape.ptr_mem fun hl => hx0 (by rw [← hc, hl]; rfl))
      · rw [if_pos ⟨h1, by rw [← hd]; exact h3⟩, h2]
        have := @ih f.ptr k h6 h1 (fun hin => hp (List.mem_append_right _ hin))
          (List.nodup_append.1 hrest).2.1 (by simp at hk; omega)
        rw [this]
        simp [LinkedTree.after, hd]

variable {b : Shape} {x : ℕ} {c : List Frame}

lemma next_spec {t : RbTree K} {a : Shape}
    (h : t.Shaped (plug (.join d a x b) c)) (hk : ((plug (.join d a x b) c).nodes .left).length < k) :
    t.next d k x = some (b.nodes d ++ after d c).head? := by
  have hx := h.focus
  obtain ⟨-, hrep⟩ := h.tree.plug
  obtain ⟨-, -, -, -, -, hb⟩ := (rep_join d).1 hrep
  have hlen : (b.nodes .left).length + (frameNodes c).length < k := by
    rw [(perm_plug _ c).length_eq, List.length_append, (Shape.perm_join d a x b).length_eq, List.length_cons,
      List.length_append] at hk
    omega
  unfold next
  rw [hx.other]
  by_cases hl : b = .leaf
  · subst hl
    rw [if_neg (by simp), hx.parent]
    have hlt := length_frames_le c
    rw [climb_spec d t c hx.frames hx.ne_zero (hx.outside x (.inl rfl))
      (distinct_plug.1 h.tree.distinct).2.1 (by omega)]
    have hne : ∀ y ∈ after d c, y ≠ 0 := by
      intro y hy
      refine h.tree.rep.ne_zero ((Shape.mem_nodes d _).1 ?_)
      rw [nodes_plug]
      exact List.mem_append_right _ hy
    simp [toNull_head hne]
  · rw [if_pos (hb.ne_zero (Shape.ptr_mem hl)), extreme_head hb h.null (by omega)]
    have hne : b.nodes d ≠ [] := List.ne_nil_of_mem ((Shape.mem_nodes d b).2 (Shape.ptr_mem hl))
    rw [List.head?_append_of_ne_nil _ hne]

lemma walk_spec {t : RbTree K} (h : t.Shaped s)
    (hk : (s.nodes .left).length < k) : t.walk d k = some (s.nodes d) := by
  have hlen : (s.nodes d).length = (s.nodes .left).length := by
    cases d
    · rfl
    · rw [Shape.nodes_right, List.length_reverse]
  have hnd : (s.nodes d).Nodup := by
    cases d
    · exact h.tree.distinct
    · rw [Shape.nodes_right, List.nodup_reverse]
      exact h.tree.distinct
  have hfrom : ∀ (suf pre : List ℕ) (n : ℕ), s.nodes d = pre ++ suf → suf.length < n →
      t.walkFrom d k n suf.head? = some suf := by
    intro suf
    induction suf with
    | nil =>
      intro pre n _ hn
      cases n with
      | zero => omega
      | succ n => rfl
    | cons x suf ih =>
      intro pre n hs hn
      cases n with
      | zero => omega
      | succ n =>
        have hx : x ∈ s := by
          rw [← Shape.mem_nodes d, hs]
          simp
        obtain ⟨c, a, b, rfl⟩ := exists_join d hx
        -- the nodes behind `x`, read off from the links
        have hsuf : suf = b.nodes d ++ after d c := by
          have heq := hs
          rw [nodes_plug, Shape.nodes_join, List.append_assoc, List.append_assoc, List.cons_append,
            ← List.append_assoc] at heq
          obtain ⟨hpre, hnx⟩ := List.nodup_middle.1 (hs ▸ hnd) |> List.nodup_cons.1
          have := (List.append_cons_inj_of_notMem (fun hin => hpre (List.mem_append_left _ hin))
            (fun hin => hpre (List.mem_append_right _ hin))).1 heq.symm
          exact this.2.2
        rw [List.head?_cons, walkFrom, next_spec h hk, ← hsuf]
        simp only [Option.bind_some]
        rw [ih (pre ++ [x]) n (by rw [hs]; simp) (by simpa using hn)]
        rfl
  unfold walk first
  rw [h.tree.root, extreme_head h.tree.rep h.null hk]
  exact hfrom (s.nodes d) [] k rfl (by omega)

lemma attach_shaped {t t' : RbTree K} (h : t.Shaped (plug .leaf c)) (hx0 : x ≠ 0)
    (hx : x ∉ plug .leaf c) (hparent : ∀ y, t'.parent y = if y = x then top c else t.parent y)
    (hown : ∀ e, t'.child e x = 0)
    (hchild : ∀ e y, y ≠ x → (∀ f ∈ c.head?, e = f.side → y ≠ f.ptr) → t'.child e y = t.child e y)
    (hroot : c ≠ [] → t'.root = t.root) (hlink : holeLink t'.toLinks c = x) :
    t'.Shaped (plug (.join .left .leaf x .leaf) c) := by
  obtain ⟨hfr, -⟩ := h.tree.plug
  obtain ⟨-, hd, -⟩ := distinct_plug.1 h.tree.distinct
  have hxc : x ∉ frameNodes c := fun hin => hx (mem_plug.2 (.inr hin))
  have hne : ∀ y ∈ frameNodes c, y ≠ x := by
    rintro y hy rfl
    exact hxc hy
  refine ⟨Tree.of_plug ?_ ?_ ?_, fun e => ?_⟩
  · rw [Shape.ptr_join]
    refine hfr.congr hd (fun y hy => ?_) (fun y hy e hf => hchild e y (hne y hy) hf) hroot hlink
    rw [hparent, if_neg (hne y hy)]
  · refine (rep_join .left).2 ⟨hx0, ?_, hown _, hown _, trivial, trivial⟩
    rw [hparent, if_pos rfl]
  · rw [distinct_plug, Shape.distinct_join]
    refine ⟨⟨by simp, by simp, ?_, ?_, by simp⟩, hd, ?_⟩
    · simp [Shape.Distinct]
    · simp [Shape.Distinct]
    · intro y hy
      obtain rfl : y = x := by simpa using hy
      exact hxc
  · rw [hchild e 0 (Ne.symm hx0), h.null]
    intro f hf _
    cases c with
    | nil => simp at hf
    | cons g c =>
      obtain rfl : g = f := by simpa using hf
      exact Ne.symm hfr.1

/-- The tree holds the nodes `l`, in the order of their keys. -/
structure Holds (C : Comparator K) (t : RbTree K) (l : List ℕ) : Prop where
  shaped : ∃ s, t.Shaped s ∧ s.nodes .left = l
  ordered : l.Pairwise fun x y => C.comp (t.key x) (t.key y) < 0
  null : t.color 0 = .black
  root : t.color t.root = .black

variable {C : Comparator K}

lemma Holds.search {t : RbTree K} (h : t.Holds C l) (key : K) (hk : l.length < k) :
    (t.search C.comp k key t.root 0 0 = some .found ∧ ∃ y ∈ l, t.key y = key) ∨
      ∃ c rv, t.search C.comp k key t.root 0 0 = some (.below (top c) rv) ∧ t.Shaped (plug .leaf c) ∧
        (plug .leaf c).nodes .left = l ∧ Between C t key c ∧ ∀ f ∈ c.head?, rv < 0 ↔ f.side = .left := by
  obtain ⟨s, hs, rfl⟩ := h.shaped
  rw [hs.tree.root]
  rcases @search_spec _ C t key s [] 0 k hs.tree.rep h.ordered ⟨by simp [LinkedTree.before], by simp [LinkedTree.after]⟩
    (by simp) hk with ⟨h1, y, hy, h2⟩ | ⟨c, rv, h1, h2, h3, h4⟩
  · exact .inl ⟨h1, y, hy, h2⟩
  · rw [plug_nil] at h2
    exact .inr ⟨c, rv, h1, h2 ▸ hs, by rw [h2], h3, h4⟩

lemma Between.ordered {t : RbTree K} (h : Between C t (t.key x) c)
    (hord : ((plug .leaf c).nodes .left).Pairwise fun x y => C.comp (t.key x) (t.key y) < 0) :
    ((plug (.join .left .leaf x .leaf) c).nodes .left).Pairwise fun x y => C.comp (t.key x) (t.key y) < 0 := by
  rw [nodes_plug] at hord ⊢
  simp only [Shape.nodes_leaf, Shape.nodes_join, List.append_nil, List.nil_append, List.append_assoc,
    List.cons_append] at hord ⊢
  obtain ⟨h1, h2, h3⟩ := List.pairwise_append.1 hord
  refine List.pairwise_append.2 ⟨h1, List.pairwise_cons.2 ⟨h.after, h2⟩, ?_⟩
  intro a ha b hb
  rcases List.mem_cons.1 hb with rfl | hb
  · exact h.before a ha
  · exact h3 a ha b hb

lemma Between.ne {t : RbTree K} {key : K} (h : Between C t key c) {y : ℕ}
    (hy : y ∈ plug .leaf c) : t.key y ≠ key := by
  intro he
  have hself := (C.eq_zero key key).2 rfl
  rw [← Shape.mem_nodes .left, nodes_plug, Shape.nodes_leaf, List.append_nil, List.mem_append] at hy
  rcases hy with hy | hy
  · have := h.before y hy
    rw [he] at this
    omega
  · have := h.after y hy
    rw [he] at this
    omega

lemma link_cases {t : RbTree K} {rv : ℤ} (h : t.Shaped (plug .leaf c)) (hx0 : x ≠ 0)
    (hx : x ∉ plug .leaf c) (hrv : ∀ f ∈ c.head?, rv < 0 ↔ f.side = .left) :
    (c = [] ∧ ∃ t' : RbTree K, (∀ k, t.link k x (top c) rv = some t') ∧ t'.Shaped (.join .left .leaf x .leaf) ∧
      (∀ z, t'.color z = if z = x then .black else t.color z) ∧ t'.key = t.key ∧ t'.size = t.size) ∨
      ∃ u : RbTree K, (∀ k, t.link k x (top c) rv = u.insertFixup k x) ∧ u.Shaped (plug (.join .left .leaf x .leaf) c) ∧
        (∀ z, u.color z = if z = x then .red else t.color z) ∧ u.root = t.root ∧ t.root ≠ x ∧
        u.key = t.key ∧ u.size = t.size := by
  cases c with
  | nil =>
    refine .inl ⟨rfl, ({ ((t.setColor x .red).setChild .left x 0).setChild .right x 0 with root := x }.setParent
        x 0).setColor x .black, fun k => by rw [link, if_neg (by simp)], ?_, ?_, rfl, rfl⟩
    · refine attach_shaped h hx0 hx ?_ ?_ ?_ (fun hne => absurd rfl hne) rfl
      · intro y
        simp
      · intro e
        cases e <;> simp
      · intro e y hy _
        simp [hy]
    · intro z
      by_cases hz : z = x <;> simp [hz]
  | cons f c =>
    have hf := h.tree.plug.1
    have hxf : x ≠ f.ptr := by
      rintro rfl
      exact hx (mem_plug.2 (.inr (by simp [frameNodes])))
    -- the child that the source writes is on the side of the frame
    have hside : ∀ u : RbTree K, (if rv < 0 then u.setChild .left f.ptr x else u.setChild .right f.ptr x) =
        u.setChild f.side f.ptr x := by
      intro u
      cases hd : f.side with
      | left => rw [if_pos ((hrv f (by simp)).2 hd)]
      | right => rw [if_neg fun hc => by rw [(hrv f (by simp)).1 hc] at hd; cases hd]
    refine .inr ⟨((((t.setColor x .red).setChild .left x 0).setChild .right x 0).setParent x f.ptr).setChild
        f.side f.ptr x, fun k => ?_, ?_, fun z => by simp, rfl, ?_, rfl, rfl⟩
    · rw [link, top_cons, if_pos hf.1]
      simp only [hside]
    · refine attach_shaped h hx0 hx ?_ ?_ ?_ (fun _ => rfl) ?_
      · intro y
        simp
      · intro e
        cases e <;> simp [hxf]
      · intro e y hy hne
        simp only [setChild_child, setParent_child, hy, and_false, if_false]
        exact if_neg fun hc => hne f (by simp) hc.1 hc.2
      · simp [holeLink]
    · intro he
      exact hx (mem_plug.2 (.inr (he ▸ hf.root_mem (by simp))))

lemma link_spec {t : RbTree K} {rv : ℤ} (h : t.Shaped (plug .leaf c)) (hx0 : x ≠ 0)
    (hx : x ∉ plug .leaf c) (hrv : ∀ f ∈ c.head?, rv < 0 ↔ f.side = .left) (h0 : t.color 0 = .black)
    (hroot : t.color t.root = .black) (hk : c.length < k) :
    ∃ t', t.link k x (top c) rv = some t' ∧ Reshaped t t' (plug (.join .left .leaf x .leaf) c) ∧
      t'.color 0 = .black ∧ t'.color t'.root = .black := by
  rcases link_cases h hx0 hx hrv with ⟨rfl, t', h1, h2, h3, h4, h5⟩ | ⟨u, h1, h2, h3, h4, h5, h6, h7⟩
  · refine ⟨t', h1 k, ⟨_, h2, rfl, h4, h5⟩, ?_, ?_⟩
    · rw [h3, if_neg hx0.symm, h0]
    · rw [h2.tree.root, Shape.ptr_join, h3, if_pos rfl]
  · obtain ⟨t', g1, g2, g3, g4⟩ := insertFixup_spec h2 (by rw [h3, if_neg hx0.symm, h0])
      (fun _ => by rw [h4, h3, if_neg h5, hroot]) hk
    exact ⟨t', (h1 k).trans g1, g2.trans rfl h6 h7, g3, g4⟩

lemma insert_spec {t : RbTree K} (h : t.Holds C l) (hx0 : x ≠ 0) (hk : l.length < k) :
    ((∃ y ∈ l, t.key y = t.key x) ∧ t.insert C.comp k x = some (t, -1)) ∨
      ((∀ y ∈ l, t.key y ≠ t.key x) ∧ ∃ t' l₁ l₂, t.insert C.comp k x = some (t', 0) ∧ l = l₁ ++ l₂ ∧
        t'.Holds C (l₁ ++ x :: l₂) ∧ t'.key = t.key ∧ t'.size = (t.size + 1) % 2 ^ 32) := by
  rcases h.search (t.key x) hk with ⟨h1, y, hy, h2⟩ | ⟨c, rv, h1, h2, h3, h4, h5⟩
  · exact .inl ⟨⟨y, hy, h2⟩, by rw [insert, h1]; rfl⟩
  right
  have hl : l = before .left c ++ after .left c := by
    rw [← h3, nodes_plug]
    simp
  have hnew : ∀ y ∈ l, t.key y ≠ t.key x := fun y hy => h4.ne (by rw [← Shape.mem_nodes .left, h3]; exact hy)
  refine ⟨hnew, ?_⟩
  have hx : x ∉ plug .leaf c := fun hin => h4.ne hin rfl
  have hlen : c.length < k := by
    have := length_frames_nodes_le .leaf c
    rw [h3] at this
    omega
  have hord := h4.ordered (by rw [h3]; exact h.ordered)
  have hnodes : (plug (.join .left .leaf x .leaf) c).nodes .left = before .left c ++ x :: after .left c := by
    rw [nodes_plug]
    simp
  obtain ⟨t', g1, ⟨s, g2, g3, g4, g5⟩, g6, g7⟩ := link_spec h2 hx0 hx h5 h.null h.root hlen
  refine ⟨{ t' with size := (t'.size + 1) % 2 ^ 32 }, _, _, ?_, hl, ⟨⟨s, ⟨g2.tree, g2.null⟩, g3.trans hnodes⟩, ?_, g6, g7⟩,
    g4, by rw [← g5]⟩
  · rw [insert, h1]
    simp only [Option.bind_some, g1]
    rfl
  · rw [hnodes] at hord
    simpa [g4] using hord

lemma unlink_spec {t : RbTree K} {y : ℕ} (h : t.Shaped (plug (.join d .leaf y b) c)) :
    (t.unlink y).2 = b.ptr ∧ (t.unlink y).1.Shaped (plug b c) ∧ (t.unlink y).1.color = t.color ∧
      (t.unlink y).1.key = t.key ∧ (t.unlink y).1.size = t.size := by
  have hy := h.focus
  obtain ⟨-, hrep⟩ := h.tree.plug
  obtain ⟨-, -, -, -, -, hb⟩ := (rep_join d).1 hrep
  obtain ⟨hd1, hd2, hd3⟩ := distinct_plug.1 h.tree.distinct
  obtain ⟨-, -, -, hdb, -⟩ := (Shape.distinct_join d).1 hd1
  have hbc : ∀ z ∈ b, z ∉ frameNodes c := fun z hz => hd3 z ((Shape.mem_join d).2 (.inr (.inr hz)))
  have hchild : (if t.child .left y ≠ 0 then t.child .left y else t.child .right y) = b.ptr := by
    have h1 := hy.child
    have h2 := hy.other
    rw [Shape.ptr_leaf] at h1
    cases d with
    | left => rw [if_neg (by simp [h1]), ← h2]; rfl
    | right =>
      rw [Side.other] at h2
      by_cases hz : t.child .left y = 0
      · rw [if_neg (by simp [hz]), h1, ← h2, hz]
      · rw [if_pos hz, h2]
  have hunlink : t.unlink y = ((t.setParent b.ptr (top c)).replaceChild (top c) y b.ptr, b.ptr) := by
    unfold unlink
    simp only [hchild, hy.parent]
  obtain ⟨f1, f2, f3, f4, f5, f6⟩ := replaceChild_fields (t.setParent b.ptr (top c)) (top c) y b.ptr
  rw [hunlink]
  refine ⟨rfl, ⟨Tree.of_plug ?_ ?_ ?_, fun e => ?_⟩, f4, f5, f6⟩
  · refine relink_frames hy.frames hy.ne_zero (hy.outside y (.inl rfl)) hd2 ?_ (fun z _ e => f2 e z) f3
    intro z hz
    have hz0 : z ≠ 0 := h.tree.rep.ne_zero (mem_plug.2 (.inr hz))
    have hne : z ≠ b.ptr := by
      rintro rfl
      by_cases hl : b = .leaf
      · exact hz0 (by rw [hl]; rfl)
      · exact hbc _ (Shape.ptr_mem hl) hz
    rw [f1, setParent_parent, if_neg hne]
  · refine hb.congr hdb (fun z hz e => ?_) (fun z _ hne => ?_) fun _ => ?_
    · rw [f2, if_neg, setParent_child]
      rintro ⟨h1, -, rfl⟩
      exact (top_eq_zero_or_mem c).elim h1 (hbc _ hz)
    · rw [f1, setParent_parent, if_neg hne]
    · rw [f1, setParent_parent, if_pos rfl]
  · exact distinct_plug.2 ⟨hdb, hd2, hbc⟩
  · rw [f2, if_neg, setParent_child, h.null]
    rintro ⟨h1, -, h2⟩
    exact h1 h2.symm

lemma takeLinks_fields (t : RbTree K) {y : ℕ} (hxy : x ≠ y) :
    (∀ z, (t.takeLinks x y).parent z = if z = y then t.parent x else t.parent z) ∧
      (∀ e z, (t.takeLinks x y).child e z = if z = y then t.child e x else t.child e z) ∧
      (t.takeLinks x y).root = t.root ∧
      (∀ z, (t.takeLinks x y).color z = if z = y then t.color x else t.color z) ∧
      (t.takeLinks x y).key = t.key ∧ (t.takeLinks x y).size = t.size := by
  refine ⟨?_, ?_, rfl, ?_, rfl, rfl⟩
  · intro z
    simp [takeLinks]
  · intro e z
    cases e <;> simp [takeLinks, hxy]
  · intro z
    simp [takeLinks]

section Adopt

variable (t : RbTree K) (w y : ℕ)

lemma adopt_parent (z : ℕ) : (t.adopt w y).parent z = if z ≠ 0 ∧ z = w then y else t.parent z := by
  unfold adopt
  by_cases hw : w = 0
  · rw [if_neg (by simp [hw]), if_neg]
    rintro ⟨h1, h2⟩
    exact h1 (h2.trans hw)
  · rw [if_pos hw, setParent_parent]
    by_cases hz : z = w
    · rw [if_pos hz, if_pos ⟨hz ▸ hw, hz⟩]
    · rw [if_neg hz, if_neg (by intro hc; exact hz hc.2)]

lemma adopt_child : (t.adopt w y).child = t.child := by
  unfold adopt
  split_ifs <;> rfl

lemma adopt_root : (t.adopt w y).root = t.root := by
  unfold adopt
  split_ifs <;> rfl

lemma adopt_color : (t.adopt w y).color = t.color := by
  unfold adopt
  split_ifs <;> rfl

lemma adopt_key : (t.adopt w y).key = t.key := by
  unfold adopt
  split_ifs <;> rfl

lemma adopt_size : (t.adopt w y).size = t.size := by
  unfold adopt
  split_ifs <;> rfl

end Adopt

lemma transplant_fields (t : RbTree K) {y : ℕ} (hxy : x ≠ y) (hpy : t.parent x ≠ y) (hpx : t.parent x ≠ x) :
    (∀ z, (t.transplant x y).parent z = if z ≠ 0 ∧ (z = t.child .left x ∨ z = t.child .right x) then y
      else if z = y then t.parent x else t.parent z) ∧ (∀ e z, (t.transplant x y).child e z =
        if t.parent x ≠ 0 ∧ e = t.sideOf (t.parent x) x ∧ z = t.parent x then y
        else if z = y then t.child e x else t.child e z) ∧
      (t.transplant x y).root = (if t.root = x then y else t.root) ∧
      (∀ z, (t.transplant x y).color z = if z = y then t.color x else t.color z) ∧
      (t.transplant x y).key = t.key ∧ (t.transplant x y).size = t.size := by
  obtain ⟨g1, g2, g3, g4, g5, g6⟩ := t.takeLinks_fields hxy
  -- the links before those of the children of `x` are changed
  obtain ⟨u, hu, hup, huc, hur, hcol, hkey, hsize⟩ : ∃ u : RbTree K,
      u = (if t.parent x ≠ 0 then (t.takeLinks x y).replaceChild (t.parent x) x y else t.takeLinks x y) ∧
      (∀ z, u.parent z = if z = y then t.parent x else t.parent z) ∧
      (∀ e z, u.child e z = if t.parent x ≠ 0 ∧ e = t.sideOf (t.parent x) x ∧ z = t.parent x then y
        else if z = y then t.child e x else t.child e z) ∧
      u.root = t.root ∧ (∀ z, u.color z = if z = y then t.color x else t.color z) ∧ u.key = t.key ∧
      u.size = t.size := by
    refine ⟨_, rfl, ?_⟩
    by_cases h0 : t.parent x = 0
    · simp only [h0, ne_eq, not_true_eq_false, if_false, false_and]
      rw [h0] at g1
      exact ⟨g1, g2, g3, g4, g5, g6⟩
    · obtain ⟨f1, f2, f3, f4, f5, f6⟩ := replaceChild_fields (t.takeLinks x y) (t.parent x) x y
      have hside : (t.takeLinks x y).sideOf (t.parent x) x = t.sideOf (t.parent x) x := by
        simp only [sideOf, g2, hpy, if_false]
      rw [if_pos h0]
      refine ⟨fun z => ?_, fun e z => ?_, ?_, fun z => ?_, f5.trans g5, f6.trans g6⟩
      · rw [f1, g1]
      · rw [f2, g2, hside]
      · rw [f3, if_neg h0, g3]
      · rw [f4, g4]
  have hown : ∀ e, u.child e x = t.child e x := by
    intro e
    rw [huc, if_neg (by intro hc; exact hpx hc.2.2.symm), if_neg hxy]
  have hpar : (t.takeLinks x y).parent x = t.parent x := by rw [g1, if_neg hxy]
  unfold transplant
  simp only [hpar, ← hu, adopt_child, hown, adopt_root, hur]
  have hadopt : ∀ z, ((u.adopt (t.child .left x) y).adopt (t.child .right x) y).parent z =
      if z ≠ 0 ∧ (z = t.child .left x ∨ z = t.child .right x) then y
      else if z = y then t.parent x else t.parent z := by
    intro z
    rw [adopt_parent, adopt_parent, hup]
    by_cases h1 : z ≠ 0 ∧ z = t.child .right x
    · rw [if_pos h1, if_pos ⟨h1.1, .inr h1.2⟩]
    · rw [if_neg h1]
      refine if_congr ⟨fun h => ⟨h.1, .inl h.2⟩, fun h => ⟨h.1, h.2.resolve_right ?_⟩⟩ rfl rfl
      exact fun h2 => h1 ⟨h.1, h2⟩
  by_cases hx : t.root = x
  · simp only [if_pos hx, adopt_color, adopt_key, adopt_size]
    exact ⟨hadopt, huc, trivial, hcol, hkey, hsize⟩
  · simp only [if_neg hx, adopt_child, adopt_root, adopt_color, adopt_key, adopt_size]
    exact ⟨hadopt, huc, hur, hcol, hkey, hsize⟩

lemma transplant_spec {t : RbTree K} {a : Shape} {y : ℕ}
    (h : t.Shaped (plug (.join .left a x b) c)) (hy0 : y ≠ 0) (hy : y ∉ plug (.join .left a x b) c) :
    (t.transplant x y).Shaped (plug (.join .left a y b) c) ∧
      (∀ z, (t.transplant x y).color z = if z = y then t.color x else t.color z) ∧
      (t.transplant x y).key = t.key ∧ (t.transplant x y).size = t.size := by
  have hx := h.focus
  obtain ⟨-, hrep⟩ := h.tree.plug
  obtain ⟨-, -, -, -, ha, hb⟩ := (rep_join .left).1 hrep
  obtain ⟨hd1, hd2, hd3⟩ := distinct_plug.1 h.tree.distinct
  obtain ⟨-, -, hda, hdb, hab⟩ := (Shape.distinct_join .left).1 hd1
  simp only [mem_plug, Shape.mem_join, not_or] at hy
  obtain ⟨⟨hyx, hya, hyb⟩, hyc⟩ := hy
  have hxc := hx.outside x (.inl rfl)
  obtain ⟨f1, f2, f3, f4, f5, f6⟩ := t.transplant_fields (Ne.symm hyx) (by rw [hx.parent]; exact top_ne hy0 hyc)
    (by rw [hx.parent]; exact top_ne hx.ne_zero hxc)
  rw [hx.parent] at f2
  simp only [hx.parent, hx.child, show t.child .right x = b.ptr from hx.other] at f1
  have hchild : ∀ z, z ≠ y → z ∉ frameNodes c → ∀ e, (t.transplant x y).child e z = t.child e z := by
    intro z hz hzc e
    rw [f2, if_neg, if_neg hz]
    rintro ⟨h1, -, rfl⟩
    exact (top_eq_zero_or_mem c).elim h1 hzc
  have hparent : ∀ z, z ≠ y → (z = a.ptr → a = .leaf) → (z = b.ptr → b = .leaf) →
      (t.transplant x y).parent z = t.parent z := by
    intro z hz h1 h2
    rw [f1, if_neg, if_neg hz]
    rintro ⟨h0, h3 | h3⟩
    · exact h0 (by rw [h3, h1 h3]; rfl)
    · exact h0 (by rw [h3, h2 h3]; rfl)
  refine ⟨⟨Tree.of_plug ?_ ?_ ?_, fun e => ?_⟩, f4, f5, f6⟩
  · rw [Shape.ptr_join]
    refine relink_frames hx.frames hx.ne_zero hxc hd2 (fun z hz => ?_) (fun z hz e => ?_) ?_
    · refine hparent z (fun he => hyc (he ▸ hz)) (fun he => ?_) fun he => ?_
      · by_contra hl
        exact hx.outside _ (.inr (.inl (Shape.ptr_mem hl))) (he ▸ hz)
      · by_contra hl
        exact hx.outside _ (.inr (.inr (Shape.ptr_mem hl))) (he ▸ hz)
    · rw [f2]
      congr 1
      rw [if_neg]
      rintro rfl
      exact hyc hz
    · rw [f3]
      refine if_congr ?_ rfl rfl
      rw [eq_comm, hx.eq_root_iff]
      constructor
      · rintro rfl
        rfl
      · intro h0
        cases c with
        | nil => rfl
        | cons f c => exact absurd h0 hx.frames.1
  · have htop : ¬ (top c ≠ 0 ∧ y = top c) := by
      rintro ⟨h1, rfl⟩
      exact (top_eq_zero_or_mem c).elim h1 hyc
    have hown : ∀ e, (t.transplant x y).child e y = t.child e x := by
      intro e
      rw [f2, if_neg (by intro hc; exact htop ⟨hc.1, hc.2.2⟩), if_pos rfl]
    refine (rep_join .left).2 ⟨hy0, ?_, (hown _).trans hx.child, (hown _).trans hx.other, ?_, ?_⟩
    · rw [f1, if_neg, if_pos rfl]
      rintro ⟨-, h1 | h1⟩
      · exact hya (h1 ▸ Shape.ptr_mem fun hl => hy0 (by rw [h1, hl]; rfl))
      · exact hyb (h1 ▸ Shape.ptr_mem fun hl => hy0 (by rw [h1, hl]; rfl))
    · refine ha.congr hda (fun z hz => ?_) (fun z hz hne => ?_) fun hl => ?_
      · exact hchild z (fun he => hya (he ▸ hz)) (hx.outside z (.inr (.inl hz)))
      · refine hparent z (fun he => hya (he ▸ hz)) (fun he => absurd he hne) fun he => ?_
        by_contra hl
        exact hab z hz (he ▸ Shape.ptr_mem hl)
      · rw [f1, if_pos ⟨ha.ne_zero (Shape.ptr_mem hl), .inl rfl⟩]
    · refine hb.congr hdb (fun z hz => ?_) (fun z hz hne => ?_) fun hl => ?_
      · exact hchild z (fun he => hyb (he ▸ hz)) (hx.outside z (.inr (.inr hz)))
      · refine hparent z (fun he => hyb (he ▸ hz)) (fun he => ?_) fun he => absurd he hne
        by_contra hl
        exact hab _ (Shape.ptr_mem hl) (he ▸ hz)
      · rw [f1, if_pos ⟨hb.ne_zero (Shape.ptr_mem hl), .inr rfl⟩]
  · refine distinct_plug.2 ⟨(Shape.distinct_join .left).2 ⟨hya, hyb, hda, hdb, hab⟩, hd2, ?_⟩
    intro z hz
    rcases (Shape.mem_join .left).1 hz with rfl | hz
    · exact hyc
    · exact hx.outside z (.inr hz)
  · rw [f2, if_neg (by intro hc; exact hc.1 hc.2.2.symm), if_neg (Ne.symm hy0), h.null]

lemma finishErase_spec {t : RbTree K} {succ : ℕ} (h : t.Shaped (plug b c))
    (h0 : t.color 0 = .black) (hroot : t.color t.root = .black ∨ b.ptr = t.root ∧ t.color succ = .black) (hk : c.length < k) :
    ∃ t', (if t.color succ = .black then
        (if b.ptr ≠ 0 then t.deleteFixup k b.ptr else some t).map fun t => t.setColor 0 .black
      else some t) = some t' ∧ Reshaped t t' (plug b c) ∧ t'.color 0 = .black ∧ t'.color t'.root = .black := by
  by_cases hs : t.color succ = .black
  · rw [if_pos hs]
    by_cases hl : b.ptr = 0
    · rw [if_neg (by simp [hl])]
      refine ⟨_, rfl, ⟨_, h.of_links rfl, rfl, rfl, rfl⟩, by simp, ?_⟩
      rcases hroot with hr | ⟨hr, -⟩
      · simp [hr]
      · simp [← hr, hl]
    · have hb : b ≠ .leaf := by
        rintro rfl
        exact hl rfl
      obtain ⟨t', h1, ⟨s, h2, h3, h4, h5⟩, h6⟩ := deleteFixup_spec h hb (hroot.symm.imp_left And.left) hk
      rw [if_pos hl, h1]
      exact ⟨_, rfl, ⟨s, h2.of_links rfl, h3, h4, h5⟩, by simp, by simp [h6]⟩
  · rw [if_neg hs]
    refine ⟨t, rfl, ⟨_, h, rfl, rfl, rfl⟩, h0, ?_⟩
    rcases hroot with hr | ⟨-, hr⟩
    · exact hr
    · exact absurd hr hs

lemma erase_links {t : RbTree K} (h : t.Shaped s) (hx : x ∈ s) (hk : (s.nodes .left).length < k) :
    ∃ y t₁ d b c c', t.successor k x = some y ∧ s = plug (.join d .leaf y b) c ∧ (t.unlink y).2 = b.ptr ∧
      (if y ≠ x then (t.unlink y).1.transplant x y else (t.unlink y).1) = t₁ ∧ t₁.Shaped (plug b c') ∧
      (∀ z, t₁.color z = if z = y then t.color x else t.color z) ∧ t₁.key = t.key ∧ t₁.size = t.size ∧
      (y = x ∧ c' = c ∨ y ≠ x ∧ d = .left ∧ ∃ c₁ a c₂, before .left c₁ = [] ∧
        c = c₁ ++ ⟨.right, x, a⟩ :: c₂ ∧ c' = c₁ ++ ⟨.right, y, a⟩ :: c₂) := by
  obtain ⟨c, a, b, rfl⟩ := exists_join .left hx
  have hf := h.focus
  by_cases hone : a = .leaf ∨ b = .leaf
  · -- `x` itself is unlinked
    obtain ⟨d, b', hj⟩ : ∃ d b', Shape.join .left a x b = .join d .leaf x b' := by
      rcases hone with rfl | rfl
      · exact ⟨.left, b, rfl⟩
      · exact ⟨.right, a, rfl⟩
    have hsucc : t.successor k x = some x := by
      refine if_pos (hone.imp ?_ ?_)
      · rintro rfl
        exact hf.child
      · rintro rfl
        exact hf.other
    rw [hj] at h
    obtain ⟨h1, h2, h3, h4, h5⟩ := unlink_spec h
    refine ⟨x, _, d, b', c, c, hsucc, by rw [hj], h1, if_neg (by simp), h2, fun z => ?_, h4, h5, .inl ⟨rfl, rfl⟩⟩
    rw [h3]
    by_cases hz : z = x <;> simp [hz]
  · -- the first node behind `x` takes its place
    obtain ⟨ha, hb⟩ := not_or.1 hone
    obtain ⟨-, hrep⟩ := h.tree.plug
    obtain ⟨-, -, -, -, harep, hbrep⟩ := (rep_join .left).1 hrep
    have hbl : (b.nodes .left).length ≤ k := by
      rw [(perm_plug _ c).length_eq, List.length_append, Shape.nodes_join, List.length_append, List.length_cons] at hk
      omega
    obtain ⟨c', y, b', hbeq, hbefore, hex⟩ := @extreme_spec _ .left t b hb x k hbrep hbl
    have hy : y ∈ b := by
      rw [hbeq, mem_plug]
      simp
    have hyx : y ≠ x := by
      rintro rfl
      exact hf.right hy
    have hsucc : t.successor k x = some y := by
      have hother : t.child .right x = b.ptr := hf.other
      rw [successor, if_neg, hother]
      · exact hex
      · rw [hf.child, hother]
        rintro (he | he)
        · exact harep.ne_zero (Shape.ptr_mem ha) he
        · exact hbrep.ne_zero (Shape.ptr_mem hb) he
    have hwhole : plug (.join .left a x b) c = plug (.join .left .leaf y b') (c' ++ ⟨.right, x, a⟩ :: c) := by
      rw [plug_append, plug_cons, ← hbeq]
      rfl
    have hplug : ∀ z, plug b' (c' ++ ⟨.right, z, a⟩ :: c) = plug (.join .left a z (plug b' c')) c := by
      intro z
      rw [plug_append, plug_cons]
      rfl
    rw [hwhole] at h
    obtain ⟨h1, h2, h3, h4, h5⟩ := unlink_spec h
    have hyout : y ∉ plug b' (c' ++ ⟨.right, x, a⟩ :: c) := by
      have := distinct_plug.1 h.tree.distinct
      rw [mem_plug, not_or]
      exact ⟨((Shape.distinct_join .left).1 this.1).2.1, this.2.2 y (by simp)⟩
    rw [hplug] at h2 hyout
    obtain ⟨g1, g2, g3, g4⟩ := transplant_spec h2 (hbrep.ne_zero hy) hyout
    refine ⟨y, _, .left, b', _, c' ++ ⟨.right, y, a⟩ :: c, hsucc, hwhole, h1, if_pos hyx, by rw [hplug]; exact g1,
      fun z => ?_, g3.trans h4, g4.trans h5, .inr ⟨hyx, rfl, c', a, c, hbefore, rfl, rfl⟩⟩
    rw [g2, h3]

lemma successor_spec {t : RbTree K} (h : t.Shaped s) (hx : x ∈ s)
    (hk : (s.nodes .left).length < k) (h0 : t.color 0 = .black) (hroot : t.color t.root = .black) :
    ∃ succ t₁ b c l₁ l₂, t.successor k x = some succ ∧ (t.unlink succ).2 = b.ptr ∧
      (if succ ≠ x then (t.unlink succ).1.transplant x succ else (t.unlink succ).1) = t₁ ∧ t₁.Shaped (plug b c) ∧
      s.nodes .left = l₁ ++ x :: l₂ ∧ (plug b c).nodes .left = l₁ ++ l₂ ∧ c.length < k ∧ t₁.color 0 = .black ∧
      (t₁.color t₁.root = .black ∨ b.ptr = t₁.root ∧ t₁.color succ = .black) ∧ t₁.key = t.key ∧
      t₁.size = t.size := by
  obtain ⟨y, t₁, d, b, c, c', h1, rfl, h3, h4, h5, h6, h7, h8, hcase⟩ := erase_links h hx hk
  have hf := h.focus
  have hlen := length_frames_lt (Shape.join_ne_leaf d .leaf y b) c
  have hzero : t₁.color 0 = .black := by rw [h6, if_neg hf.ne_zero.symm, h0]
  rcases hcase with ⟨rfl, rfl⟩ | ⟨hyx, rfl, c₁, a, c₂, hbefore, rfl, rfl⟩
  · obtain ⟨l₁, l₂, hl, hl'⟩ : ∃ l₁ l₂, (Shape.join d .leaf y b).nodes .left = l₁ ++ y :: l₂ ∧
        b.nodes .left = l₁ ++ l₂ := by
      cases d
      · exact ⟨[], b.nodes .left, by simp [Shape.join, Shape.nodes], rfl⟩
      · exact ⟨b.nodes .left, [], by simp [Shape.join, Shape.nodes], by simp⟩
    have hcol : ∀ z, t₁.color z = t.color z := by
      intro z
      rw [h6]
      by_cases hz : z = y <;> simp [hz]
    refine ⟨y, t₁, b, c', before .left c' ++ l₁, l₂ ++ after .left c', h1, h3, h4, h5, ?_, ?_, by omega, hzero, ?_,
      h7, h8⟩
    · rw [nodes_plug, hl]
      simp
    · rw [nodes_plug, hl']
      simp
    · rw [hcol, hcol]
      by_cases hc : c' = []
      · subst hc
        refine .inr ⟨h5.tree.root.symm, ?_⟩
        rw [hf.eq_root_iff.2 rfl]
        exact hroot
      · left
        rw [← hf.frames.root_eq h5.tree.plug.1 hc]
        exact hroot
  · have hwhole : ∀ u z, plug u (c₁ ++ ⟨.right, z, a⟩ :: c₂) = plug (.join .left a z (plug u c₁)) c₂ := by
      intro u z
      rw [plug_append, plug_cons]
      rfl
    have hnodes : ∀ u : Shape, (plug u c₁).nodes .left = u.nodes .left ++ after .left c₁ := by
      intro u
      rw [nodes_plug, hbefore]
      rfl
    have hfx := @Shaped.focus _ t .left a (plug (.join .left .leaf y b) c₁) x c₂ (by rw [← hwhole]; exact h)
    have hg := @Shaped.focus _ t₁ .left a (plug b c₁) y c₂ (by rw [← hwhole]; exact h5)
    have hin : y ∈ plug (.join .left .leaf y b) c₁ := mem_plug.2 (.inl (by simp))
    refine ⟨y, t₁, b, c₁ ++ ⟨.right, y, a⟩ :: c₂, before .left c₂ ++ a.nodes .left,
      y :: (b.nodes .left ++ after .left c₁) ++ after .left c₂, h1, h3, h4, h5, ?_, ?_, ?_, hzero, .inl ?_, h7, h8⟩
    · rw [hwhole, nodes_plug, Shape.nodes_join, hnodes]
      simp
    · rw [hwhole, nodes_plug, Shape.nodes_join, hnodes]
      simp
    · simp only [List.length_append, List.length_cons] at hlen ⊢
      omega
    · rw [h6]
      by_cases hc : c₂ = []
      · rw [if_pos (hg.eq_root_iff.2 hc).symm, hfx.eq_root_iff.2 hc]
        exact hroot
      · have hr := hfx.frames.root_eq hg.frames hc
        have hne : t.root ≠ y := by
          rintro rfl
          exact hfx.outside _ (.inr (.inr hin)) (hfx.frames.root_mem hc)
        rw [← hr, if_neg hne]
        exact hroot

lemma erase_spec {t : RbTree K} (h : t.Holds C l) (hx : x ∈ l)
    (hk : l.length < k) : ∃ t' l₁ l₂, t.erase k x = some t' ∧ l = l₁ ++ x :: l₂ ∧ t'.Holds C (l₁ ++ l₂) ∧
      t'.key = t.key ∧ t'.size = (t.size + (2 ^ 32 - 1)) % 2 ^ 32 := by
  obtain ⟨s, hs, rfl⟩ := h.shaped
  obtain ⟨succ, t₁, b, c, l₁, l₂, h1, h2, h3, h4, h5, h6, h7, h8, h9, h10, h11⟩ :=
    successor_spec hs hx hk h.null h.root
  obtain ⟨t', g1, ⟨s', g2, g3, g4, g5⟩, g6, g7⟩ := finishErase_spec h4 h8 h9 h7
  refine ⟨{ t' with size := (t'.size + (2 ^ 32 - 1)) % 2 ^ 32 }, l₁, l₂, ?_, h5, ?_, g4.trans h10, by rw [g5, h11]⟩
  · unfold erase
    rw [h1]
    simp only [Option.bind_some, h2, h3, g1]
    rfl
  · refine ⟨⟨s', ⟨g2.tree, g2.null⟩, g3.trans h6⟩, ?_, g6, g7⟩
    have hord := h.ordered
    rw [h5] at hord
    rw [g4, h10]
    exact hord.sublist ((List.Sublist.refl l₁).append (List.sublist_cons_self x l₂))

end RbTree

end PjProject.RedBlack
