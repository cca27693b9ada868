import Mathlib.Tactic

/-!
# Directed graphs by the lists of their targets

A graph on the numbers below `n` is given by the list of targets of each of them. Its arcs and the arcs
into a vertex are counted over these lists, and follow the change of one list.
-/
namespace PjProject.ArcLists

variable {n : ℕ} {out : ℕ → List ℕ} {i k : ℕ}

def inDegree (n : ℕ) (out : ℕ → List ℕ) (j : ℕ) : ℕ := ∑ i ∈ Finset.range n, (out i).count j

def arcs (n : ℕ) (out : ℕ → List ℕ) : ℕ := ∑ i ∈ Finset.range n, (out i).length

lemma sum_update {α : Type*} {v : ℕ → α} (hi : i < n) (f : α → ℕ) (a : α) :
    (∑ x ∈ Finset.range n, f (Function.update v i a x)) + f (v i) = (∑ x ∈ Finset.range n, f (v x)) + f a := by
  have hmem := Finset.mem_range.mpr hi
  have hrest : ∑ x ∈ (Finset.range n).erase i, f (Function.update v i a x) =
      ∑ x ∈ (Finset.range n).erase i, f (v x) := by
    refine Finset.sum_congr rfl fun x hx => ?_
    rw [Function.update_of_ne (Finset.ne_of_mem_erase hx)]
  rw [← Finset.add_sum_erase _ _ hmem, ← Finset.add_sum_erase _ (fun x => f (v x)) hmem, hrest,
    Function.update_self]
  omega

/-- Those that meet a condition, when one of them changes. -/
lemma card_update {α : Type*} {v : ℕ → α} (hi : i < n) (f : α → Bool) (a : α) :
    ((Finset.range n).filter fun x => f (Function.update v i a x) = true).card + (f (v i)).toNat =
      ((Finset.range n).filter fun x => f (v x) = true).card + (f a).toNat := by
  have h := sum_update (v := v) hi (fun b => if f b = true then 1 else 0) a
  rw [← Finset.card_filter, ← Finset.card_filter] at h
  cases hv : f (v i) <;> cases ha : f a <;> simp only [hv, ha] at h ⊢ <;> exact h

/-- A new arc. -/
lemma inDegree_append (hi : i < n) (j : ℕ) :
    inDegree n (Function.update out i (out i ++ [k])) j = inDegree n out j + if k = j then 1 else 0 := by
  have h := sum_update (v := out) hi (List.count j) (out i ++ [k])
  rw [List.count_append, List.count_singleton] at h
  unfold inDegree
  simp only [beq_iff_eq] at h
  omega

lemma arcs_append (hi : i < n) : arcs n (Function.update out i (out i ++ [k])) = arcs n out + 1 := by
  have h := sum_update (v := out) hi List.length (out i ++ [k])
  rw [List.length_append, List.length_singleton] at h
  unfold arcs
  omega

/-- An arc less. -/
lemma inDegree_erase (hi : i < n) (hk : k ∈ out i) (j : ℕ) :
    inDegree n (Function.update out i ((out i).erase k)) j + (if k = j then 1 else 0) = inDegree n out j := by
  have h := sum_update (v := out) hi (List.count j) ((out i).erase k)
  rw [List.count_erase] at h
  unfold inDegree
  by_cases hkj : k = j
  · subst hkj
    have := List.count_pos_iff.mpr hk
    simp only [beq_self_eq_true, if_true] at h ⊢
    omega
  · simp only [beq_iff_eq, hkj, if_false] at h ⊢
    omega

lemma arcs_erase (hi : i < n) (hk : k ∈ out i) :
    arcs n (Function.update out i ((out i).erase k)) + 1 = arcs n out := by
  have h := sum_update (v := out) hi List.length ((out i).erase k)
  have hpos := List.length_pos_of_mem hk
  rw [List.length_erase_of_mem hk] at h
  unfold arcs
  omega

lemma inDegree_eq_zero {j : ℕ} (h : ∀ i, j ∉ out i) : inDegree n out j = 0 :=
  Finset.sum_eq_zero fun i _ => List.count_eq_zero.mpr (h i)

end PjProject.ArcLists
