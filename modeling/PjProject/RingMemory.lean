import Mathlib.Tactic

/-!
# Cells in a ring

Memory as a function from cell numbers, runs of cells in it, and the run that goes
round in a ring of the first `cap` cells. A ring is read and written in two regions
at most.
-/
namespace RingMemory

variable {α : Type*} {buf : ℕ → α} {cap p q n k : ℕ}

/-- The `n` cells from `p` on. -/
def slice (buf : ℕ → α) (p n : ℕ) : List α := (List.range n).map fun i => buf (p + i)

/-- Cells written from `p` on. -/
def write (buf : ℕ → α) (p : ℕ) (l : List α) : ℕ → α := fun i => if p ≤ i then l.getD (i - p) (buf i) else buf i

def move (buf : ℕ → α) (dst src n : ℕ) : ℕ → α := write buf dst (slice buf src n)

/-- The `n` cells from `p` on, going round. -/
def ring (buf : ℕ → α) (cap p n : ℕ) : List α := (List.range n).map fun i => buf ((p + i) % cap)

@[simp] lemma slice_length : (slice buf p n).length = n := by simp [slice]

@[simp] lemma ring_length : (ring buf cap p n).length = n := by simp [ring]

@[simp] lemma slice_zero : slice buf p 0 = [] := rfl

@[simp] lemma ring_zero : ring buf cap p 0 = [] := rfl

lemma slice_add (m : ℕ) : slice buf p (m + n) = slice buf p m ++ slice buf (p + m) n := by
  simp [slice, List.range_add, List.map_append, Nat.add_assoc]

lemma slice_take : (slice buf p n).take k = slice buf p (min k n) := by
  rw [slice, ← List.map_take, List.take_range]
  rfl

lemma slice_drop : (slice buf p n).drop k = slice buf (p + k) (n - k) := by
  rcases Nat.le_total k n with hk | hk
  · obtain ⟨m, rfl⟩ := Nat.exists_eq_add_of_le hk
    rw [slice_add, List.drop_left' slice_length, Nat.add_sub_cancel_left]
  · rw [List.drop_eq_nil_of_le (by rwa [slice_length]), Nat.sub_eq_zero_of_le hk, slice_zero]

lemma slice_congr {buf' : ℕ → α} (h : ∀ i, p ≤ i → i < p + n → buf' i = buf i) :
    slice buf' p n = slice buf p n := by
  refine List.map_congr_left fun i hi => h (p + i) (Nat.le_add_right p i) ?_
  have := List.mem_range.mp hi
  omega

/-- What is written is read. -/
lemma slice_write (l : List α) : slice (write buf p l) p l.length = l := by
  refine List.ext_getElem (by simp) fun i h1 h2 => ?_
  simp [slice, write, h2]

lemma write_outside {l : List α} {i : ℕ} (h : i < p ∨ p + l.length ≤ i) : write buf p l i = buf i := by
  unfold write
  split_ifs with hp
  · rw [List.getD_eq_getElem?_getD, List.getElem?_eq_none (by omega), Option.getD_none]
  · rfl

lemma slice_write_outside {l : List α} (h : p + n ≤ q ∨ q + l.length ≤ p) :
    slice (write buf q l) p n = slice buf p n :=
  slice_congr fun i h1 h2 => write_outside (by omega)

lemma slice_move : slice (move buf p q n) p n = slice buf q n := by
  have h : slice (write buf p (slice buf q n)) p (slice buf q n).length = slice buf q n := slice_write _
  rwa [slice_length] at h

lemma slice_move_outside {m : ℕ} (h : p + n ≤ q ∨ q + m ≤ p) : slice (move buf q k m) p n = slice buf p n :=
  slice_write_outside (by rwa [slice_length])

lemma ring_add (m : ℕ) : ring buf cap p (m + n) = ring buf cap p m ++ ring buf cap ((p + m) % cap) n := by
  simp [ring, List.range_add, List.map_append, Nat.add_assoc]

/-- The cell of a ring that is less than one round on. -/
lemma ring_cell (hp : p < cap) (hk : k ≤ cap) :
    (p + k) % cap = if p + k < cap then p + k else p + k - cap := by
  split_ifs with h
  · exact Nat.mod_eq_of_lt h
  · rcases Nat.lt_or_ge (p + k - cap) cap with hlt | hge
    · rw [Nat.mod_eq_sub_mod (by omega), Nat.mod_eq_of_lt hlt]
    · omega

lemma ring_congr {buf' : ℕ → α} (h : ∀ i < n, buf' ((p + i) % cap) = buf ((p + i) % cap)) :
    ring buf' cap p n = ring buf cap p n :=
  List.map_congr_left fun i hi => h i (List.mem_range.mp hi)

lemma ring_drop (h : k ≤ n) : (ring buf cap p n).drop k = ring buf cap ((p + k) % cap) (n - k) := by
  obtain ⟨m, rfl⟩ := Nat.exists_eq_add_of_le h
  rw [ring_add, List.drop_left' ring_length, Nat.add_sub_cancel_left]

/-- A run that does not go round. -/
lemma ring_eq_slice (h : p + n ≤ cap) : ring buf cap p n = slice buf p n := by
  refine List.map_congr_left fun i hi => ?_
  have := List.mem_range.mp hi
  rw [Nat.mod_eq_of_lt (by omega)]

/-- A run that goes round once. -/
lemma ring_eq_append (hp : p < cap) (h : cap ≤ p + n) (hn : n ≤ cap) :
    ring buf cap p n = slice buf p (cap - p) ++ slice buf 0 (n - (cap - p)) := by
  obtain ⟨m, rfl⟩ := Nat.exists_eq_add_of_le (show cap - p ≤ n by omega)
  rw [ring_add, ring_eq_slice (by omega), Nat.add_sub_cancel_left, Nat.add_sub_cancel' hp.le, Nat.mod_self,
    ring_eq_slice (by omega)]

end RingMemory
