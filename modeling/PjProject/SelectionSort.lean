import Mathlib.Tactic

/-!
# Selection sort of an array

For each position in turn the highest of the elements from there on is exchanged into it. Ties go
to the earlier position, so an element only moves when a higher one stands behind it. Whatever
refers to positions of the array is told of every exchange.
-/
namespace PjProject.SelectionSort

variable {α β σ : Type*} [LinearOrder β]

def exchange (a : ℕ → α) (i h : ℕ) : ℕ → α := fun p => a (Equiv.swap i h p)

/-- The position of the highest element, starting from `h` and looking at `k` positions from `j`
on. -/
def highest (above : α → α → Bool) (a : ℕ → α) : ℕ → ℕ → ℕ → ℕ
  | 0, _, h => h
  | k + 1, j, h => highest above a k (j + 1) (if above (a j) (a h) then j else h)

/-- The round of the sort of the first `n` positions that settles position `i`. -/
def round (above : α → α → Bool) (tell : ℕ → ℕ → σ → σ) (n i : ℕ) (s : (ℕ → α) × σ) : (ℕ → α) × σ :=
  let h := highest above s.1 (n - (i + 1)) (i + 1) i
  if h ≠ i then (exchange s.1 i h, tell i h s.2) else s

/-- `k` rounds from position `i` on. -/
def rounds (above : α → α → Bool) (tell : ℕ → ℕ → σ → σ) (n : ℕ) : ℕ → ℕ → (ℕ → α) × σ → (ℕ → α) × σ
  | 0, _, s => s
  | k + 1, i, s => rounds above tell n k (i + 1) (round above tell n i s)

def sort (above : α → α → Bool) (tell : ℕ → ℕ → σ → σ) (n : ℕ) (s : (ℕ → α) × σ) : (ℕ → α) × σ :=
  rounds above tell n (n - 1) 0 s

def OrderedBy (above : α → α → Bool) (key : α → β) : Prop := ∀ x y, above x y = true ↔ key y < key x

/-- The elements have moved as `τ` says, within the first `n` positions, and so has what is told of
the exchanges. -/
structure Moved (act : Equiv.Perm ℕ → σ → σ) (n : ℕ) (s s' : (ℕ → α) × σ) (τ : Equiv.Perm ℕ) : Prop where
  fixes : ∀ p, n ≤ p → τ p = p
  elements : ∀ p, s'.1 (τ p) = s.1 p
  told : s'.2 = act τ s.2

variable {above : α → α → Bool} {key : α → β} {n i : ℕ}

lemma highest_spec (ho : OrderedBy above key) {a : ℕ → α} (k : ℕ) : ∀ {j h : ℕ}, h < j →
    h ≤ highest above a k j h ∧ highest above a k j h < j + k ∧ key (a h) ≤ key (a (highest above a k j h)) ∧
      ∀ p, j ≤ p → p < j + k → key (a p) ≤ key (a (highest above a k j h)) := by
  induction k with
  | zero =>
    intro j h hj
    exact ⟨le_rfl, hj, le_rfl, fun p h1 h2 => absurd h2 (not_lt.2 h1)⟩
  | succ k ih =>
    intro j h hj
    rw [highest]
    by_cases hab : above (a j) (a h) = true
    · rw [if_pos hab]
      obtain ⟨h1, h2, h3, h4⟩ := ih (j := j + 1) (h := j) (Nat.lt_succ_self j)
      have hlt := (ho _ _).1 hab
      refine ⟨by omega, by omega, hlt.le.trans h3, fun p hp1 hp2 => ?_⟩
      rcases Nat.eq_or_lt_of_le hp1 with rfl | hp
      · exact h3
      · exact h4 p hp (by omega)
    · rw [if_neg hab]
      obtain ⟨h1, h2, h3, h4⟩ := ih (j := j + 1) (h := h) (by omega)
      have hle : key (a j) ≤ key (a h) := not_lt.1 fun hlt => hab ((ho _ _).2 hlt)
      refine ⟨h1, by omega, h3, fun p hp1 hp2 => ?_⟩
      rcases Nat.eq_or_lt_of_le hp1 with rfl | hp
      · exact hle.trans h3
      · exact h4 p hp (by omega)

variable {tell : ℕ → ℕ → σ → σ} {act : Equiv.Perm ℕ → σ → σ}

lemma Moved.refl (hone : ∀ t, act 1 t = t) (n : ℕ) (s : (ℕ → α) × σ) : Moved act n s s 1 :=
  ⟨fun _ _ => rfl, fun _ => rfl, (hone _).symm⟩

lemma Moved.trans (hmul : ∀ τ π t, act τ (act π t) = act (τ * π) t) {s s' s'' : (ℕ → α) × σ}
    {τ π : Equiv.Perm ℕ} (h : Moved act n s s' π) (h' : Moved act n s' s'' τ) : Moved act n s s'' (τ * π) where
  fixes := fun p hp => by rw [Equiv.Perm.mul_apply, h.fixes p hp, h'.fixes p hp]
  elements := fun p => by rw [Equiv.Perm.mul_apply, h'.elements, h.elements]
  told := by rw [h'.told, h.told, hmul]

/-- What is moved within the first `n` positions stays there. -/
lemma Moved.lt_iff {s s' : (ℕ → α) × σ} {τ : Equiv.Perm ℕ} (h : Moved act n s s' τ) (p : ℕ) : τ p < n ↔ p < n := by
  constructor
  · intro hlt
    by_contra hge
    rw [h.fixes p (by omega)] at hlt
    exact hge hlt
  · intro hlt
    by_contra hge
    have hself := τ.injective (h.fixes (τ p) (by omega))
    omega

lemma Moved.perm {s s' : (ℕ → α) × σ} {τ : Equiv.Perm ℕ} (h : Moved act n s s' τ) :
    ((List.range n).map s'.1).Perm ((List.range n).map s.1) := by
  have hmap : (List.range n).map s.1 = ((List.range n).map τ).map s'.1 := by
    rw [List.map_map]
    exact List.map_congr_left fun p _ => (h.elements p).symm
  have hrange : ((List.range n).map τ).Perm (List.range n) := by
    refine (List.perm_ext_iff_of_nodup (List.nodup_range.map τ.injective) List.nodup_range).2 fun p => ?_
    rw [List.mem_map, List.mem_range]
    constructor
    · rintro ⟨q, hq, rfl⟩
      exact (h.lt_iff q).2 (List.mem_range.1 hq)
    · intro hp
      obtain ⟨q, rfl⟩ := τ.surjective p
      exact ⟨q, List.mem_range.2 ((h.lt_iff q).1 hp), rfl⟩
  rw [hmap]
  exact (hrange.map s'.1).symm

lemma round_spec (ho : OrderedBy above key) (hone : ∀ t, act 1 t = t)
    (htell : ∀ i h t, tell i h t = act (Equiv.swap i h) t) (hi : i < n) (s : (ℕ → α) × σ) :
    ∃ τ, Moved act n s (round above tell n i s) τ ∧ (∀ p < i, τ p = p) ∧
      ∀ p, i ≤ p → p < n → key ((round above tell n i s).1 p) ≤ key ((round above tell n i s).1 i) := by
  obtain ⟨h1, h2, h3, h4⟩ := @highest_spec _ _ _ above key ho s.1 (n - (i + 1)) (i + 1) i (Nat.lt_succ_self i)
  unfold round
  dsimp only
  generalize highest above s.1 (n - (i + 1)) (i + 1) i = h at *
  have hmax : ∀ p, i ≤ p → p < n → key (s.1 p) ≤ key (s.1 h) := by
    intro p hp1 hp2
    rcases Nat.eq_or_lt_of_le hp1 with rfl | hp
    · exact h3
    · exact h4 p hp (by omega)
  by_cases hne : h ≠ i
  · rw [if_pos hne]
    refine ⟨Equiv.swap i h, ⟨?_, ?_, htell i h s.2⟩, ?_, ?_⟩
    · exact fun p hp => Equiv.swap_apply_of_ne_of_ne (by omega) (by omega)
    · intro p
      simp only [exchange, Equiv.swap_apply_self]
    · exact fun p hp => Equiv.swap_apply_of_ne_of_ne (by omega) (by omega)
    · intro p hp1 hp2
      simp only [exchange, Equiv.swap_apply_left]
      refine hmax _ ?_ ?_ <;> rw [Equiv.swap_apply_def] <;> split_ifs <;> omega
  · rw [if_neg hne]
    obtain rfl := not_not.1 hne
    exact ⟨1, Moved.refl hone n s, fun _ _ => rfl, hmax⟩

lemma rounds_spec (ho : OrderedBy above key) (hone : ∀ t, act 1 t = t)
    (hmul : ∀ τ π t, act τ (act π t) = act (τ * π) t) (htell : ∀ i h t, tell i h t = act (Equiv.swap i h) t)
    (k : ℕ) : ∀ {i : ℕ} (s : (ℕ → α) × σ), i + k ≤ n →
      ∃ τ, Moved act n s (rounds above tell n k i s) τ ∧ (∀ p < i, τ p = p) ∧
        ∀ p q, i ≤ p → p < i + k → p ≤ q → q < n →
          key ((rounds above tell n k i s).1 q) ≤ key ((rounds above tell n k i s).1 p) := by
  induction k with
  | zero =>
    intro i s _
    exact ⟨1, Moved.refl hone n s, fun _ _ => rfl, fun p q h1 h2 => absurd h2 (not_lt.2 h1)⟩
  | succ k ih =>
    intro i s hk
    obtain ⟨π, hπ, hfix, hmax⟩ := round_spec ho hone htell (show i < n by omega) s
    rw [rounds]
    generalize round above tell n i s = s' at *
    obtain ⟨τ, hτ, hfix', hsorted⟩ := ih (i := i + 1) s' (by omega)
    refine ⟨τ * π, hπ.trans hmul hτ, ?_, ?_⟩
    · intro p hp
      rw [Equiv.Perm.mul_apply, hfix p hp, hfix' p (by omega)]
    · intro p q h1 h2 h3 h4
      rcases Nat.eq_or_lt_of_le h1 with rfl | hp
      · -- what stands at `q` stood somewhere from `i` on after the first round
        have hi' := hτ.elements i
        rw [hfix' i (Nat.lt_succ_self i)] at hi'
        obtain ⟨r, rfl⟩ := τ.surjective q
        rw [hi', hτ.elements r]
        have hr : i ≤ r ∧ r < n := by
          constructor
          · by_contra hlt
            rw [hfix' r (by omega)] at h3
            omega
          · by_contra hge
            rw [hτ.fixes r (by omega)] at h4
            omega
        exact hmax r hr.1 hr.2
      · exact hsorted p q hp (by omega) h3 h4

/-- The sort moves the elements into descending order, and what is told of the exchanges with
them. -/
lemma sort_spec (ho : OrderedBy above key) (hone : ∀ t, act 1 t = t)
    (hmul : ∀ τ π t, act τ (act π t) = act (τ * π) t) (htell : ∀ i h t, tell i h t = act (Equiv.swap i h) t)
    (n : ℕ) (s : (ℕ → α) × σ) : ∃ τ, Moved act n s (sort above tell n s) τ ∧
      ∀ p q, p ≤ q → q < n → key ((sort above tell n s).1 q) ≤ key ((sort above tell n s).1 p) := by
  obtain ⟨τ, hτ, -, hsorted⟩ := rounds_spec ho hone hmul htell (n := n) (n - 1) (i := 0) s (by omega)
  refine ⟨τ, hτ, fun p q h1 h2 => ?_⟩
  rcases Nat.eq_or_lt_of_le h1 with rfl | hlt
  · exact le_rfl
  · exact hsorted p q (Nat.zero_le p) (by omega) h1 h2

end PjProject.SelectionSort
