import Mathlib.Tactic

/-!
# Sieves

Going through a list from the front, every element that is still there removes some of those
behind it.
-/
namespace PjProject.Sieve

variable {α : Type*}

def sieve (kills : α → α → Bool) : ℕ → List α → List α
  | 0, _ => []
  | _ + 1, [] => []
  | n + 1, x :: xs => x :: sieve kills n (xs.filter fun y => !kills x y)

lemma sieve_sublist (kills : α → α → Bool) (n : ℕ) : ∀ xs : List α, (sieve kills n xs).Sublist xs := by
  induction n with
  | zero => exact fun xs => List.nil_sublist xs
  | succ n ih =>
    intro xs
    cases xs with
    | nil => exact List.Sublist.refl _
    | cons x xs => exact ((ih _).trans List.filter_sublist).cons_cons x

/-- In an increasing list an element is gone exactly when a remaining one before it removes it. -/
lemma notMem_sieve_iff (kills : ℕ → ℕ → Bool) (n : ℕ) : ∀ {xs : List ℕ}, xs.length ≤ n → xs.Pairwise (· < ·) →
    ∀ {x : ℕ}, x ∈ xs → (x ∉ sieve kills n xs ↔ ∃ y ∈ sieve kills n xs, y < x ∧ kills y x = true) := by
  induction n with
  | zero =>
    intro xs hlen _ x hx
    rw [List.length_eq_zero_iff.1 (Nat.le_zero.1 hlen)] at hx
    cases hx
  | succ n ih =>
    intro xs hlen hs x hx
    cases xs with
    | nil => cases hx
    | cons c xs =>
      rw [sieve]
      obtain ⟨hc, hrest⟩ := List.pairwise_cons.1 hs
      have hfilter := List.length_filter_le (fun y => !kills c y) xs
      rw [List.length_cons] at hlen
      have hsub := sieve_sublist kills n (xs.filter fun y => !kills c y)
      by_cases hne : x = c
      · rw [hne]
        constructor
        · exact fun hno => absurd List.mem_cons_self hno
        · intro ⟨y, hy, hlt, _⟩
          rcases List.mem_cons.1 hy with rfl | hy
          · omega
          · have := hc y (List.mem_of_mem_filter (hsub.subset hy))
            omega
      have hx : x ∈ xs := (List.mem_cons.1 hx).resolve_left hne
      by_cases hk : kills c x = true
      · constructor
        · exact fun _ => ⟨c, List.mem_cons_self, hc x hx, hk⟩
        · intro _ hmem
          have hin := hsub.subset ((List.mem_cons.1 hmem).resolve_left hne)
          have := List.of_mem_filter hin
          rw [hk] at this
          cases this
      · have hin : x ∈ xs.filter fun y => !kills c y := by
          rw [List.mem_filter]
          exact ⟨hx, by simpa using hk⟩
        have hiff := ih (hfilter.trans (by omega)) (hrest.sublist List.filter_sublist) hin
        rw [List.mem_cons, not_or]
        constructor
        · intro ⟨_, hno⟩
          obtain ⟨y, hy, hlt, hkill⟩ := hiff.1 hno
          exact ⟨y, List.mem_cons_of_mem c hy, hlt, hkill⟩
        · intro ⟨y, hy, hlt, hkill⟩
          refine ⟨hne, hiff.2 ?_⟩
          rcases List.mem_cons.1 hy with rfl | hy
          · exact absurd hkill hk
          · exact ⟨y, hy, hlt, hkill⟩

/-- What any element before it removes is gone, when removing is transitive. -/
lemma notMem_sieve_of_kills {kills : ℕ → ℕ → Bool}
    (htrans : ∀ x y z, kills x y = true → kills y z = true → kills x z = true) {n : ℕ} {xs : List ℕ}
    (hlen : xs.length ≤ n) (hs : xs.Pairwise (· < ·)) {x y : ℕ} (hx : x ∈ xs) (hy : y ∈ xs) (hlt : y < x)
    (hkill : kills y x = true) : x ∉ sieve kills n xs := by
  rw [notMem_sieve_iff kills n hlen hs hx]
  by_cases hmem : y ∈ sieve kills n xs
  · exact ⟨y, hmem, hlt, hkill⟩
  · obtain ⟨z, hz, hzy, hzkill⟩ := (notMem_sieve_iff kills n hlen hs hy).1 hmem
    exact ⟨z, hz, hzy.trans hlt, htrans z y x hzkill hkill⟩

end PjProject.Sieve
