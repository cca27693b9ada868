import Mathlib.Tactic

/-!
# What a system puts out

A state carries the log of what has been put out, and every operation appends to it. `Adds` says of
two states that the log of the second extends that of the first by messages of one kind, and
`Precedes` says of a log that a message of one kind comes before all messages of another.
-/
namespace PjProject.OutputLog

variable {σ μ κ : Type*}

/-- From `s` to `s'` messages are added to the log, all of the kind `p`. -/
def Adds (log : σ → List μ) (p : μ → Prop) (s s' : σ) : Prop := ∃ l, log s' = log s ++ l ∧ ∀ m ∈ l, p m

section Adds

variable {log : σ → List μ} {p q : μ → Prop} {s s' s'' : σ}

lemma Adds.of_eq (h : log s' = log s) : Adds log p s s' := ⟨[], by rw [h, List.append_nil], by simp⟩

lemma Adds.refl (s : σ) : Adds log p s s := .of_eq rfl

lemma Adds.one {m : μ} (h : log s' = log s ++ [m]) (hm : p m) : Adds log p s s' :=
  ⟨[m], h, by simpa using hm⟩

lemma Adds.trans (h : Adds log p s s') (h' : Adds log p s' s'') : Adds log p s s'' := by
  obtain ⟨l, hl, hp⟩ := h
  obtain ⟨l', hl', hp'⟩ := h'
  refine ⟨l ++ l', by rw [hl', hl, List.append_assoc], ?_⟩
  exact fun m hm => (List.mem_append.mp hm).elim (hp m) (hp' m)

lemma Adds.mono (hpq : ∀ m, p m → q m) (h : Adds log p s s') : Adds log q s s' := by
  obtain ⟨l, hl, hp⟩ := h
  exact ⟨l, hl, fun m hm => hpq m (hp m hm)⟩

/-- What each step adds, a run adds. -/
lemma Adds.foldl {step : σ → κ → σ} (hstep : ∀ s c, Adds log p s (step s c)) (cs : List κ) (s : σ) :
    Adds log p s (cs.foldl step s) := by
  induction cs generalizing s with
  | nil => exact .refl s
  | cons c cs ih => exact (hstep s c).trans (ih (step s c))

end Adds

/-- A message of the kind `good` is in the log, and none of the kind `bad` before it. -/
def Precedes (good bad : μ → Prop) (l : List μ) : Prop :=
  ∃ pre m post, l = pre ++ m :: post ∧ good m ∧ ∀ x ∈ pre, ¬ bad x

section Precedes

variable {log : σ → List μ} {good bad p : μ → Prop} {l : List μ} {s s' : σ}

lemma Precedes.append (h : Precedes good bad l) (l' : List μ) : Precedes good bad (l ++ l') := by
  obtain ⟨pre, m, post, rfl, hm, hpre⟩ := h
  exact ⟨pre, m, post ++ l', by simp, hm, hpre⟩

lemma Precedes.adds (h : Precedes good bad (log s)) (ha : Adds log p s s') : Precedes good bad (log s') := by
  obtain ⟨l, hl, -⟩ := ha
  rw [hl]
  exact h.append l

/-- What is added to a log without bad messages may end in the good one. -/
lemma Precedes.of_adds (h0 : ∀ x ∈ log s, ¬ bad x) (ha : Adds log (fun m => ¬ bad m) s s') {m : μ}
    (hm : good m) : Precedes good bad (log s' ++ [m]) := by
  obtain ⟨l, hl, hp⟩ := ha
  refine ⟨log s', m, [], rfl, hm, ?_⟩
  rw [hl]
  exact fun x hx => (List.mem_append.mp hx).elim (h0 x) (hp x)

lemma not_precedes (h : ∀ m ∈ l, ¬ good m) : ¬ Precedes good bad l := by
  rintro ⟨pre, m, post, rfl, hm, -⟩
  exact h m (by simp) hm

end Precedes

end PjProject.OutputLog
