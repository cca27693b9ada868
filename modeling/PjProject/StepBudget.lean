import Mathlib.Tactic

/-!
# Steps that spend a budget

A system that takes one event after the other without end. Where a measure of its states
never grows, and falls at the steps that count, only so many steps count.
-/
namespace PjProject.StepBudget

variable {σ ε : Type*} (step : σ → ε → σ)

def stateAt (s : σ) (es : ℕ → ε) : ℕ → σ
  | 0 => s
  | n + 1 => step (stateAt s es n) (es n)

lemma card_add_le {s : σ} {es : ℕ → ε} {counted : Set ℕ} [DecidablePred (· ∈ counted)] {budget : σ → ℕ}
    (hstep : ∀ n, budget (step (stateAt step s es n) (es n)) + (if n ∈ counted then 1 else 0) ≤
      budget (stateAt step s es n)) (n : ℕ) :
    ((Finset.range n).filter (· ∈ counted)).card + budget (stateAt step s es n) ≤ budget s := by
  induction n with
  | zero => simp [stateAt]
  | succ n ih =>
    have hn := hstep n
    rw [Finset.range_add_one, Finset.filter_insert, stateAt]
    split
    · rename_i hmem
      rw [if_pos hmem] at hn
      rw [Finset.card_insert_of_notMem (by simp)]
      omega
    · rename_i hmem
      rw [if_neg hmem] at hn
      omega

lemma finite_of_budget {s : σ} {es : ℕ → ε} {counted : Set ℕ} [DecidablePred (· ∈ counted)] {budget : σ → ℕ}
    (hstep : ∀ n, budget (step (stateAt step s es n) (es n)) + (if n ∈ counted then 1 else 0) ≤
      budget (stateAt step s es n)) : counted.Finite ∧ counted.ncard ≤ budget s := by
  have hcard (t : Finset ℕ) (ht : (t : Set ℕ) ⊆ counted) : t.card ≤ budget s := by
    have hsub : t ⊆ (Finset.range (t.sup id + 1)).filter (· ∈ counted) := by
      intro n hn
      have hle : n ≤ t.sup id := Finset.le_sup (f := id) hn
      exact Finset.mem_filter.mpr ⟨Finset.mem_range.mpr (by omega), ht hn⟩
    have := Finset.card_le_card hsub
    have := card_add_le step hstep (t.sup id + 1)
    omega
  have hfin : counted.Finite := by
    by_contra hinf
    obtain ⟨t, ht, hn⟩ := Set.Infinite.exists_subset_card_eq hinf (budget s + 1)
    have := hcard t ht
    omega
  refine ⟨hfin, ?_⟩
  rw [Set.ncard_eq_toFinset_card _ hfin]
  exact hcard _ (by simp)

end PjProject.StepBudget
