import Mathlib.Tactic

/-!
# Exchange sort

The double loop that swaps an element with every smaller one behind it.
-/
namespace PjProject.ExchangeSort

variable {α : Type*} (key : α → ℕ)

/-- The inner loop: carry the front element through the rest, leaving the larger of the
two at each position. -/
def exchange : α → List α → α × List α
  | x, [] => (x, [])
  | x, y :: ys =>
    if key x > key y then
      let (m, zs) := exchange y ys
      (m, x :: zs)
    else
      let (m, zs) := exchange x ys
      (m, y :: zs)

def sort : ℕ → List α → List α
  | 0, xs => xs
  | _ + 1, [] => []
  | n + 1, x :: xs =>
    let (m, ys) := exchange key x xs
    m :: sort n ys

lemma exchange_perm (x : α) (xs : List α) :
    List.Perm ((exchange key x xs).1 :: (exchange key x xs).2) (x :: xs) := by
  induction xs generalizing x with
  | nil => exact List.Perm.refl _
  | cons y ys ih =>
    unfold exchange
    split_ifs
    · exact (List.Perm.swap _ _ _).trans ((ih y).cons x)
    · calc (exchange key x ys).1 :: y :: (exchange key x ys).2
        _ |>.Perm (y :: (exchange key x ys).1 :: (exchange key x ys).2) := List.Perm.swap _ _ _
        _ |>.Perm (y :: x :: ys) := (ih x).cons y
        _ |>.Perm (x :: y :: ys) := List.Perm.swap _ _ _

lemma exchange_le (x : α) (xs : List α) :
    key (exchange key x xs).1 ≤ key x ∧ ∀ z ∈ (exchange key x xs).2, key (exchange key x xs).1 ≤ key z := by
  induction xs generalizing x with
  | nil => simp [exchange]
  | cons y ys ih =>
    unfold exchange
    split_ifs with h
    · obtain ⟨h1, h2⟩ := ih y
      refine ⟨by dsimp only; omega, ?_⟩
      intro z hz
      rcases List.mem_cons.1 hz with rfl | hz
      · dsimp only
        omega
      · exact h2 z hz
    · obtain ⟨h1, h2⟩ := ih x
      refine ⟨h1, ?_⟩
      intro z hz
      rcases List.mem_cons.1 hz with rfl | hz
      · dsimp only
        omega
      · exact h2 z hz

lemma exchange_length (x : α) (xs : List α) : (exchange key x xs).2.length = xs.length := by
  have := (exchange_perm key x xs).length_eq
  simpa using this

lemma sort_perm (n : ℕ) (xs : List α) : (sort key n xs).Perm xs := by
  induction n generalizing xs with
  | zero => exact List.Perm.refl _
  | succ n ih =>
    cases xs with
    | nil => exact List.Perm.refl _
    | cons x xs => exact ((ih _).cons _).trans (exchange_perm key x xs)

/-- With a round for every position the result is in order of the keys. -/
lemma sort_sorted {n : ℕ} {xs : List α} (h : xs.length ≤ n) :
    (sort key n xs).Pairwise fun a b => key a ≤ key b := by
  induction n generalizing xs with
  | zero =>
    obtain rfl := List.length_eq_zero_iff.1 (Nat.le_zero.1 h)
    exact List.Pairwise.nil
  | succ n ih =>
    cases xs with
    | nil => exact List.Pairwise.nil
    | cons x xs =>
      have hlen : (exchange key x xs).2.length ≤ n := by
        rw [exchange_length]
        simpa using h
      refine List.pairwise_cons.2 ⟨fun z hz => ?_, ih hlen⟩
      exact (exchange_le key x xs).2 z ((sort_perm key n _).mem_iff.1 hz)

end PjProject.ExchangeSort
