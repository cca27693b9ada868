import Mathlib.Tactic

/-!
# Runs of a deterministic step function under a step condition

A system is a step function `σ → ε → σ`. A run is a list of events, `run` is the
state it ends in, and `Guarded` says that each step of the run met a condition on
the state before it and its event. Invariants are proved one step at a time.
-/
namespace PjProject.Transition

variable {σ ε : Type*}

/-- The state reached from `s` after the listed events. -/
def run (step : σ → ε → σ) (s : σ) (es : List ε) : σ := es.foldl step s

@[simp] lemma run_nil (step : σ → ε → σ) (s : σ) : run step s [] = s := rfl

@[simp] lemma run_cons (step : σ → ε → σ) (s : σ) (e : ε) (es : List ε) :
    run step s (e :: es) = run step (step s e) es := rfl

lemma run_append (step : σ → ε → σ) (s : σ) (es fs : List ε) :
    run step s (es ++ fs) = run step (run step s es) fs := by
  simp [run, List.foldl_append]

/-- Every step of the run is taken in a state, and with an event, that `ok` admits. -/
def Guarded (step : σ → ε → σ) (ok : σ → ε → Prop) : σ → List ε → Prop
  | _, [] => True
  | s, e :: es => ok s e ∧ Guarded step ok (step s e) es

variable {step : σ → ε → σ} {es : List ε} {s : σ}

lemma Guarded.append {ok : σ → ε → Prop} {fs : List ε} (h : Guarded step ok s (es ++ fs)) :
    Guarded step ok s es ∧ Guarded step ok (run step s es) fs := by
  induction es generalizing s with
  | nil => exact ⟨trivial, h⟩
  | cons e es ih =>
    obtain ⟨he, hrest⟩ := h
    obtain ⟨h1, h2⟩ := ih hrest
    exact ⟨⟨he, h1⟩, h2⟩

instance Guarded.decidable (step : σ → ε → σ) (ok : σ → ε → Prop) [∀ s e, Decidable (ok s e)] :
    ∀ (s : σ) (es : List ε), Decidable (Guarded step ok s es)
  | _, [] => .isTrue trivial
  | s, e :: es =>
    have := Guarded.decidable step ok (step s e) es
    inferInstanceAs (Decidable (ok s e ∧ Guarded step ok (step s e) es))

lemma guarded_iff {ok : σ → ε → Prop} :
    Guarded step ok s es ↔ ∀ pre e post, es = pre ++ e :: post → ok (run step s pre) e := by
  induction es generalizing s with
  | nil => simp [Guarded]
  | cons a es ih =>
    constructor
    · rintro ⟨ha, hes⟩ pre e post heq
      cases pre with
      | nil =>
        obtain ⟨rfl, -⟩ := List.cons_eq_cons.mp heq
        exact ha
      | cons b pre =>
        obtain ⟨rfl, htail⟩ := List.cons_eq_cons.mp heq
        exact ih.mp hes pre e post htail
    · intro h
      refine ⟨h [] a es rfl, ih.mpr ?_⟩
      intro pre e post heq
      exact h (a :: pre) e post (by rw [heq, List.cons_append])

lemma Guarded.and {P Q : σ → ε → Prop} (h : Guarded step (fun s e => P s e ∧ Q s e) s es) :
    Guarded step P s es ∧ Guarded step Q s es := by
  induction es generalizing s with
  | nil => exact ⟨trivial, trivial⟩
  | cons e es ih => exact ⟨⟨h.1.1, (ih h.2).1⟩, ⟨h.1.2, (ih h.2).2⟩⟩

/-- What one admitted step preserves, an admitted run preserves. -/
lemma Guarded.invariant {step : σ → ε → σ} {ok : σ → ε → Prop} {Inv : σ → Prop}
    (hstep : ∀ s e, Inv s → ok s e → Inv (step s e)) {es : List ε} {s : σ}
    (h0 : Inv s) (h : Guarded step ok s es) : Inv (run step s es) := by
  induction es generalizing s with
  | nil => exact h0
  | cons e es ih => exact ih (hstep s e h0 h.1) h.2

/-- Two conditions on steps that agree under an invariant agree on runs. -/
lemma guarded_congr {step : σ → ε → σ} {ok P : σ → ε → Prop} {Inv : σ → Prop}
    (hstep : ∀ s e, Inv s → ok s e → Inv (step s e)) (hiff : ∀ s e, Inv s → (P s e ↔ ok s e))
    {es : List ε} {s : σ} (h0 : Inv s) : Guarded step P s es ↔ Guarded step ok s es := by
  induction es generalizing s with
  | nil => exact Iff.rfl
  | cons e es ih =>
    constructor
    · rintro ⟨he, hes⟩
      have hok := (hiff s e h0).mp he
      exact ⟨hok, (ih (hstep s e h0 hok)).mp hes⟩
    · rintro ⟨hok, hes⟩
      exact ⟨(hiff s e h0).mpr hok, (ih (hstep s e h0 hok)).mpr hes⟩

/-- What holds of every step under an invariant holds of every step of a run. -/
lemma guarded_of_invariant {step : σ → ε → σ} {P : σ → ε → Prop} {Inv : σ → Prop}
    (hstep : ∀ s e, Inv s → P s e ∧ Inv (step s e)) {s : σ} (h0 : Inv s) (es : List ε) :
    Guarded step P s es := by
  induction es generalizing s with
  | nil => trivial
  | cons e es ih => exact ⟨(hstep s e h0).1, ih (hstep s e h0).2⟩

/-- The unconditional case: an invariant of every step is an invariant of every run. -/
lemma run_invariant {step : σ → ε → σ} {Inv : σ → Prop}
    (hstep : ∀ s e, Inv s → Inv (step s e)) {s : σ} (h0 : Inv s) (es : List ε) : Inv (run step s es) := by
  induction es generalizing s with
  | nil => exact h0
  | cons e es ih => exact ih (hstep s e h0)

end PjProject.Transition
