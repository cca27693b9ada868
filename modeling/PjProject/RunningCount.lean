import Mathlib.Tactic

/-!
# Counts that start again with each new key

A sequence of keys with numbers: a number is one more than the one before it where the
key is the same, and one where the key is new. A key is not taken up again once it has
been left, so no pair occurs twice.
-/
namespace PjProject.RunningCount

variable {κ : Type*}

def Follows (l : List (κ × ℕ)) (x : κ × ℕ) : Prop :=
  (∃ n, l.getLast? = some (x.1, n) ∧ x.2 = n + 1) ∨ (x.1 ∉ l.map Prod.fst ∧ x.2 = 1)

inductive Counts : List (κ × ℕ) → Prop
  | nil : Counts []
  | next {l : List (κ × ℕ)} {x : κ × ℕ} (hl : Counts l) (hx : Follows l x) : Counts (l ++ [x])

namespace Counts

variable {l : List (κ × ℕ)} {x : κ × ℕ}

lemma of_concat (h : Counts (l ++ [x])) : Counts l ∧ Follows l x := by
  generalize heq : l ++ [x] = m at h
  cases h with
  | nil => simp at heq
  | next hl hx =>
    obtain ⟨rfl, hlast⟩ := List.append_inj' heq rfl
    obtain rfl := List.singleton_injective hlast
    exact ⟨hl, hx⟩

lemma le_last (h : Counts l) {k : κ} {n : ℕ} (hlast : l.getLast? = some (k, n)) {m : ℕ} (hm : (k, m) ∈ l) :
    m ≤ n := by
  induction h generalizing n with
  | nil => simp at hm
  | @next l x hl hx ih =>
    obtain rfl : x = (k, n) := by simpa using hlast
    obtain hold | hnew := List.mem_append.mp hm
    · rcases hx with ⟨n', hprev, hn⟩ | ⟨hfresh, -⟩
      · have := ih hprev hold
        simp only at hn
        omega
      · exact absurd (List.mem_map_of_mem (f := Prod.fst) hold) hfresh
    · simp only [List.mem_singleton, Prod.mk.injEq] at hnew
      exact hnew.2.le

lemma nodup (h : Counts l) : l.Nodup := by
  induction h with
  | nil => exact List.nodup_nil
  | @next l x hl hx ih =>
    refine List.nodup_append.mpr ⟨ih, List.nodup_singleton x, ?_⟩
    rintro a ha b hb rfl
    obtain rfl : a = x := by simpa using hb
    rcases hx with ⟨n, hprev, hn⟩ | ⟨hfresh, -⟩
    · -- The number before it is the greatest one of its key.
      have := hl.le_last hprev (m := a.2) ha
      omega
    · exact hfresh (List.mem_map_of_mem ha)

/-- Each pair of a count follows those before it. -/
lemma follows {post : List (κ × ℕ)} (h : Counts (l ++ x :: post)) : Follows l x := by
  induction post using List.reverseRecOn with
  | nil => exact h.of_concat.2
  | append_singleton post y ih =>
    have h' : Counts ((l ++ x :: post) ++ [y]) := by simpa using h
    exact ih h'.of_concat.1

end Counts

lemma Follows.succ_of_last {l : List (κ × ℕ)} {x : κ × ℕ} (h : Follows l x) {n : ℕ}
    (hlast : l.getLast? = some (x.1, n)) : x.2 = n + 1 := by
  rcases h with ⟨n', hprev, hn⟩ | ⟨hfresh, -⟩
  · obtain rfl : n' = n := by simpa [hprev] using hlast
    exact hn
  · exact absurd (List.mem_map_of_mem (f := Prod.fst) (List.mem_of_getLast? hlast)) hfresh

lemma Follows.one_of_new {l : List (κ × ℕ)} {x : κ × ℕ} (h : Follows l x) (hnew : x.1 ∉ l.map Prod.fst) :
    x.2 = 1 := by
  rcases h with ⟨n, hprev, -⟩ | ⟨-, hone⟩
  · exact absurd (List.mem_map_of_mem (f := Prod.fst) (List.mem_of_getLast? hprev)) hnew
  · exact hone

end PjProject.RunningCount
