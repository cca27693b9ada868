import Mathlib.Tactic

/-!
# Windows on a circular array

An array of `cap` slots is read from a head on: offset `j` is slot `(head + j) % cap`.
Offsets below `cap` name each slot once. A stretch of offsets that passes the end of the
array is two stretches of slots.
-/
namespace PjProject.RingWindow

variable {α : Type*} {head cap : ℕ}

def ringAt (head cap : ℕ) (slots : ℕ → α) (j : ℕ) : α := slots ((head + j) % cap)

/-- The offsets below `n` whose slot has a property, counted. -/
def ringCount (p : α → Bool) (head cap : ℕ) (slots : ℕ → α) (n : ℕ) : ℕ :=
  (List.range n).countP fun j => p (ringAt head cap slots j)

variable {j : ℕ}

lemma mod_ring (hh : head < cap) (hj : j < cap) :
    (head + j) % cap = if head + j < cap then head + j else head + j - cap := by
  split_ifs with h
  · exact Nat.mod_eq_of_lt h
  · rw [Nat.mod_eq_sub_mod (not_lt.1 h), Nat.mod_eq_of_lt (by omega)]

lemma ring_inj (hh : head < cap) {k : ℕ} (hj : j < cap) (hk : k < cap)
    (h : (head + j) % cap = (head + k) % cap) : j = k := by
  rw [mod_ring hh hj, mod_ring hh hk] at h
  split_ifs at h <;> omega

/-- Every slot is at some offset. -/
lemma exists_offset (hh : head < cap) {i : ℕ} (hi : i < cap) : ∃ j < cap, (head + j) % cap = i := by
  by_cases h : head ≤ i
  · refine ⟨i - head, by omega, ?_⟩
    rw [mod_ring hh (by omega), if_pos (by omega)]
    omega
  · refine ⟨i + cap - head, by omega, ?_⟩
    rw [mod_ring hh (by omega), if_neg (by omega)]
    omega

lemma ringAt_update (hh : head < cap) (slots : ℕ → α) (v : α) {k : ℕ} (hj : j < cap)
    (hk : k < cap) : ringAt head cap (Function.update slots ((head + k) % cap) v) j =
      if j = k then v else ringAt head cap slots j := by
  unfold ringAt
  by_cases h : j = k
  · rw [if_pos h, h, Function.update_self]
  · rw [if_neg h, Function.update_of_ne fun he => h (ring_inj hh hj hk he)]

lemma ringAt_advance (n j : ℕ) (slots : ℕ → α) :
    ringAt ((head + n) % cap) cap slots j = ringAt head cap slots (n + j) := by
  unfold ringAt
  rw [Nat.mod_add_mod, Nat.add_assoc]

lemma ringAt_add_cap (j : ℕ) (slots : ℕ → α) : ringAt head cap slots (j + cap) = ringAt head cap slots j := by
  unfold ringAt
  rw [← Nat.add_assoc, Nat.add_mod_right]

variable {n : ℕ}

lemma ringCount_congr {p : α → Bool} {slots slots' : ℕ → α} {head' : ℕ}
    (h : ∀ j < n, p (ringAt head cap slots j) = p (ringAt head' cap slots' j)) :
    ringCount p head cap slots n = ringCount p head' cap slots' n := by
  apply List.countP_congr
  intro j hj
  rw [h j (List.mem_range.1 hj)]

lemma ringCount_succ (p : α → Bool) (slots : ℕ → α) (n : ℕ) : ringCount p head cap slots (n + 1) =
      ringCount p head cap slots n + if p (ringAt head cap slots n) then 1 else 0 := by
  simp [ringCount, List.range_succ, List.countP_append, List.countP_singleton]

lemma ringCount_le (p : α → Bool) (slots : ℕ → α) (n : ℕ) : ringCount p head cap slots n ≤ n := by
  have := List.countP_le_length (p := fun j => p (ringAt head cap slots j)) (l := List.range n)
  simpa [ringCount] using this

lemma ringCount_add (p : α → Bool) (slots : ℕ → α) (m n : ℕ) : ringCount p head cap slots (m + n) =
      ringCount p head cap slots m + ringCount p ((head + m) % cap) cap slots n := by
  induction n with
  | zero => simp [ringCount]
  | succ n ih =>
    rw [← Nat.add_assoc, ringCount_succ, ringCount_succ, ih, ringAt_advance]
    omega

variable {m : ℕ}

/-- Offsets that have the property nowhere add nothing. -/
lemma ringCount_extend {p : α → Bool} {slots : ℕ → α} (hmn : m ≤ n)
    (h : ∀ j, m ≤ j → j < n → p (ringAt head cap slots j) = false) :
    ringCount p head cap slots n = ringCount p head cap slots m := by
  induction n, hmn using Nat.le_induction with
  | base => rfl
  | succ n hmn ih =>
    rw [ringCount_succ, ih fun j h1 h2 => h j h1 (by omega), h n hmn (Nat.lt_succ_self n)]
    simp

/-- One slot changes the count by what it was and what it is. -/
lemma ringCount_update (hh : head < cap) {p : α → Bool} {slots : ℕ → α} {v : α} {k n : ℕ}
    (hk : k < n) (hn : n ≤ cap) : ringCount p head cap (Function.update slots ((head + k) % cap) v) n +
      (if p (ringAt head cap slots k) then 1 else 0) =
    ringCount p head cap slots n + if p v then 1 else 0 := by
  induction n with
  | zero => omega
  | succ n ih =>
    rw [ringCount_succ, ringCount_succ]
    by_cases h : k = n
    · subst h
      have hsame : ringCount p head cap (Function.update slots ((head + k) % cap) v) k =
          ringCount p head cap slots k := by
        apply ringCount_congr
        intro j hj
        rw [ringAt_update hh slots v (by omega) (by omega), if_neg (by omega)]
      rw [hsame, ringAt_update hh slots v (by omega) (by omega), if_pos rfl]
      omega
    · have := ih (by omega) (by omega)
      rw [ringAt_update hh slots v (by omega) (by omega), if_neg (Ne.symm h)]
      omega

def mapRange (f : α → α) (start n : ℕ) (slots : ℕ → α) (i : ℕ) : α :=
  if start ≤ i ∧ i < start + n then f (slots i) else slots i

def countRange (p : α → Bool) (start n : ℕ) (slots : ℕ → α) : ℕ :=
  (List.range' start n).countP fun i => p (slots i)

lemma countRange_eq (p : α → Bool) (slots : ℕ → α) (hn : m + n ≤ cap) :
    countRange p m n slots = ringCount p m cap slots n := by
  unfold countRange ringCount
  rw [List.range'_eq_map_range, List.countP_map]
  apply List.countP_congr
  intro j hj
  have := List.mem_range.1 hj
  simp only [Function.comp, ringAt, Nat.mod_eq_of_lt (show m + j < cap by omega)]

/-- The slots of the offsets below `n`, in two stretches when they pass the end. -/
lemma ringAt_mapRange (f : α → α) (slots : ℕ → α) (hh : head < cap) {s : ℕ} (hn : n ≤ cap)
    (hs : s = if cap < head + n then cap - head else n) (hj : j < cap) :
    ringAt head cap (mapRange f 0 (n - s) (mapRange f head s slots)) j =
      if j < n then f (ringAt head cap slots j) else ringAt head cap slots j := by
  have hi := mod_ring hh hj
  unfold ringAt mapRange
  generalize (head + j) % cap = i at *
  split_ifs at hs hi ⊢ <;> first | rfl | omega

lemma countRange_mapRange (p : α → Bool) (f : α → α) (slots : ℕ → α) (h : n ≤ head) :
    countRange p 0 n (mapRange f head m slots) = countRange p 0 n slots := by
  unfold countRange
  apply List.countP_congr
  intro i hi
  have := List.mem_range'_1.1 hi
  rw [mapRange, if_neg (by omega)]

lemma countRange_two (p : α → Bool) (slots : ℕ → α) (hh : head < cap) {s : ℕ} (hn : n ≤ cap)
    (hs : s = if cap < head + n then cap - head else n) :
    countRange p head s slots + countRange p 0 (n - s) slots = ringCount p head cap slots n := by
  have hle : s ≤ n ∧ head + s ≤ cap := by split_ifs at hs <;> omega
  rw [countRange_eq p slots hle.2]
  obtain ⟨m, rfl⟩ : ∃ m, n = s + m := ⟨n - s, by omega⟩
  rw [ringCount_add, Nat.add_sub_cancel_left]
  cases m with
  | zero => simp [countRange, ringCount]
  | succ m =>
    have hwrap : head + s = cap := by split_ifs at hs <;> omega
    have hsecond : countRange p 0 (m + 1) slots = ringCount p 0 cap slots (m + 1) :=
      countRange_eq p slots (by omega)
    rw [hwrap, Nat.mod_self, hsecond]

end PjProject.RingWindow
