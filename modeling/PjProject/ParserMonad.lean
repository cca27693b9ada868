import Mathlib.Tactic

/-!
# Parsers with exceptions that keep their position

A parser is a function on states that ends with a value, with an exception or not at all.
Unlike in a stack of `StateT` over `Except`, the state is there after an exception, so that
a handler can go on where the exception was thrown. A loop that makes progress in each round
ends: this is said once, and parsers are then composed.
-/
namespace PjProject

inductive Outcome (ε α : Type)
  | ok (a : α)
  | throw (e : ε)
  | hang
  deriving DecidableEq

/-- A parser over states of type `σ` with exceptions of type `ε`. -/
structure Parser (σ ε α : Type) where
  run : σ → Outcome ε α × σ

namespace Parser

variable {σ ε α β : Type}

protected def bind (p : Parser σ ε α) (f : α → Parser σ ε β) : Parser σ ε β where
  run s :=
    match p.run s with
    | (.ok a, s) => (f a).run s
    | (.throw e, s) => (.throw e, s)
    | (.hang, s) => (.hang, s)

instance : Monad (Parser σ ε) where
  pure a := ⟨fun s => (.ok a, s)⟩
  bind := Parser.bind

def raise (e : ε) : Parser σ ε α := ⟨fun s => (.throw e, s)⟩

def look (f : σ → α) : Parser σ ε α := ⟨fun s => (.ok (f s), s)⟩

def result (o : Outcome ε α) : Parser σ ε α := ⟨fun s => (o, s)⟩

def change (f : σ → σ) : Parser σ ε Unit := ⟨fun s => (.ok (), f s)⟩

@[simp] lemma pure_run (a : α) (s : σ) : (pure a : Parser σ ε α).run s = (.ok a, s) := rfl

@[simp] lemma raise_run (e : ε) (s : σ) : (raise e : Parser σ ε α).run s = (.throw e, s) := rfl

@[simp] lemma look_run (f : σ → α) (s : σ) : (look f : Parser σ ε α).run s = (.ok (f s), s) := rfl

@[simp] lemma change_run (f : σ → σ) (s : σ) : (change f : Parser σ ε Unit).run s = (.ok (), f s) :=rfl

variable {s' : σ}

lemma bind_ok {p : Parser σ ε α} {f : α → Parser σ ε β} {s : σ} {a : α}
    (h : p.run s = (.ok a, s')) : (p >>= f).run s = (f a).run s' := by
  show (Parser.bind p f).run s = _
  simp only [Parser.bind, h]

lemma bind_throw {p : Parser σ ε α} {f : α → Parser σ ε β} {s : σ} {e : ε}
    (h : p.run s = (.throw e, s')) : (p >>= f).run s = (.throw e, s') := by
  show (Parser.bind p f).run s = _
  simp only [Parser.bind, h]

lemma bind_hang {p : Parser σ ε α} {f : α → Parser σ ε β} {s : σ}
    (h : p.run s = (.hang, s')) : (p >>= f).run s = (.hang, s') := by
  show (Parser.bind p f).run s = _
  simp only [Parser.bind, h]

/-- A sequence depends on what its first part does only. -/
lemma bind_congr_run {p q : Parser σ ε α} {f : α → Parser σ ε β} {s t : σ}
    (h : p.run s = q.run t) : (p >>= f).run s = (q >>= f).run t := by
  show (Parser.bind p f).run s = (Parser.bind q f).run t
  simp only [Parser.bind, h]

@[simp] lemma look_bind (f : σ → α) (g : α → Parser σ ε β) (s : σ) :
    (look f >>= g).run s = (g (f s)).run s := rfl

@[simp] lemma change_bind (f : σ → σ) (g : Unit → Parser σ ε β) (s : σ) :
    (change f >>= g).run s = (g ()).run (f s) := rfl

@[simp] lemma pure_bind (a : α) (g : α → Parser σ ε β) : ((pure a : Parser σ ε α) >>= g) = g a :=
  rfl

@[simp] lemma raise_bind (e : ε) (g : α → Parser σ ε β) (s : σ) :
    ((raise e : Parser σ ε α) >>= g).run s = (.throw e, s) := rfl

/-- A value of a sequence comes from values of its parts. -/
lemma bind_eq_ok {p : Parser σ ε α} {f : α → Parser σ ε β} {s : σ} {b : β}
    (h : (p >>= f).run s = (.ok b, s')) : ∃ a t, p.run s = (.ok a, t) ∧ (f a).run t = (.ok b, s') := by
  cases hp : p.run s with
  | mk o t =>
    cases o with
    | ok a => exact ⟨a, t, rfl, (bind_ok hp).symm.trans h⟩
    | throw e =>
      rw [bind_throw hp] at h
      cases h
    | hang =>
      rw [bind_hang hp] at h
      cases h

lemma bind_bind_run {γ : Type} {p : Parser σ ε α} {f : α → Parser σ ε β} {g : β → Parser σ ε γ} (s : σ) :
    ((p >>= f) >>= g).run s = (p >>= fun a => f a >>= g).run s := by
  cases h : p.run s with
  | mk o t =>
    cases o with
    | ok a =>
      rw [bind_ok h]
      exact bind_congr_run (bind_ok h)
    | throw e => rw [bind_throw h, bind_throw (bind_throw h)]
    | hang => rw [bind_hang h, bind_hang (bind_hang h)]

/-- `while (cond) body`, for at most the given number of rounds. -/
def rounds (cond : α → σ → Bool) (body : α → Parser σ ε α) : ℕ → α → Parser σ ε α
  | 0, _ => ⟨fun s => (.hang, s)⟩
  | n + 1, a => ⟨fun s =>
      if cond a s then (body a >>= rounds cond body n).run s else (.ok a, s)⟩

/-- `for (;;) body`, for at most the given number of rounds: the body gives the value to go on with, or
the one to leave with. -/
def repeatRounds (body : α → Parser σ ε (α ⊕ β)) : ℕ → α → Parser σ ε β
  | 0, _ => ⟨fun s => (.hang, s)⟩
  | n + 1, a => body a >>= fun
    | .inl a => repeatRounds body n a
    | .inr b => pure b

def handle (p : Parser σ ε α) (catcher : ε → Parser σ ε α) : Parser σ ε α where
  run s :=
    match p.run s with
    | (.ok a, s) => (.ok a, s)
    | (.throw e, s) => (catcher e).run s
    | (.hang, s) => (.hang, s)

def zoom {τ : Type} (get : τ → σ) (set : σ → τ → τ) (p : Parser σ ε α) : Parser τ ε α where
  run t := ((p.run (get t)).1, set (p.run (get t)).2 t)

def withLocal {τ : Type} (init : τ) (p : Parser (σ × τ) ε α) : Parser σ ε (α × τ) where
  run s :=
    match p.run (s, init) with
    | (.ok a, s, t) => (.ok (a, t), s)
    | (.throw e, s, _) => (.throw e, s)
    | (.hang, s, _) => (.hang, s)

lemma zoom_ok {τ : Type} {p : Parser σ ε α} {g : τ → σ} {f : σ → τ → τ} {s : σ} {t : τ} {a : α}
    (h : p.run (g t) = (.ok a, s)) : (zoom g f p).run t = (.ok a, f s t) := by
  simp only [zoom, h]

section Progress

variable (size : σ → ℕ)

structure Safe (p : Parser σ ε α) : Prop where
  ends : ∀ s, (p.run s).1 ≠ .hang
  le : ∀ s, size (p.run s).2 ≤ size s

structure Strict (p : Parser σ ε α) : Prop extends Safe size p where
  lt : ∀ s a, (p.run s).1 = .ok a → size (p.run s).2 < size s

/-- `while (cond) body`: each round is to read something, so that there are no more rounds
than symbols left. -/
def loop (cond : α → σ → Bool) (body : α → Parser σ ε α) (a : α) : Parser σ ε α :=
  ⟨fun s => (rounds cond body (size s + 1) a).run s⟩

structure Advances (p : Parser σ ε (α ⊕ β)) : Prop extends Safe size p where
  lt : ∀ s a, (p.run s).1 = .ok (.inl a) → size (p.run s).2 < size s

/-- `for (;;) body`: each round that is not the last is to read something. -/
def forever (body : α → Parser σ ε (α ⊕ β)) (a : α) : Parser σ ε β :=
  ⟨fun s => (repeatRounds body (size s + 1) a).run s⟩

variable {size} {p : Parser σ ε α} {f : α → Parser σ ε β}

lemma Safe.pure (a : α) : Safe size (pure a : Parser σ ε α) :=
  ⟨fun _ => nofun, fun _ => le_refl _⟩

lemma Safe.raise (e : ε) : Safe size (raise e : Parser σ ε α) :=
  ⟨fun _ => nofun, fun _ => le_refl _⟩

lemma Strict.raise (e : ε) : Strict size (raise e : Parser σ ε α) :=
  ⟨.raise e, fun _ _ h => by cases h⟩

lemma Safe.look (g : σ → α) : Safe size (look g : Parser σ ε α) :=
  ⟨fun _ => nofun, fun _ => le_refl _⟩

lemma Safe.result {o : Outcome ε α} (h : o ≠ .hang) : Safe size (result o : Parser σ ε α) :=
  ⟨fun _ => h, fun _ => le_refl _⟩

lemma Safe.change {g : σ → σ} (hg : ∀ s, size (g s) ≤ size s) : Safe size (change g : Parser σ ε Unit) :=
  ⟨fun _ => nofun, hg⟩

lemma Safe.bind (hp : Safe size p) (hf : ∀ a, Safe size (f a)) : Safe size (p >>= f) := by
  constructor
  · intro s
    have hend := hp.ends s
    cases h : p.run s with
    | mk o t =>
      rw [h] at hend
      cases o with
      | ok a =>
        rw [bind_ok h]
        exact (hf a).ends t
      | throw e =>
        rw [bind_throw h]
        nofun
      | hang => exact absurd rfl hend
  · intro s
    have hle := hp.le s
    cases h : p.run s with
    | mk o t =>
      rw [h] at hle
      cases o with
      | ok a =>
        rw [bind_ok h]
        exact ((hf a).le t).trans hle
      | throw e =>
        rw [bind_throw h]
        exact hle
      | hang =>
        rw [bind_hang h]
        exact hle

variable {s : σ}

/-- What the first part has read stays read. -/
lemma bind_lt (hp : size (p.run s).2 < size s) (hf : ∀ a, Safe size (f a)) :
    size ((p >>= f).run s).2 < size s := by
  cases h : p.run s with
  | mk o t =>
    rw [h] at hp
    cases o with
    | ok a =>
      rw [bind_ok h]
      exact ((hf a).le t).trans_lt hp
    | throw e =>
      rw [bind_throw h]
      exact hp
    | hang =>
      rw [bind_hang h]
      exact hp

/-- The first part reads something. -/
lemma Strict.bind (hp : Strict size p) (hf : ∀ a, Safe size (f a)) : Strict size (p >>= f) := by
  refine ⟨hp.toSafe.bind hf, fun s b hb => bind_lt ?_ hf⟩
  obtain ⟨a, t, hpt, -⟩ := bind_eq_ok (Prod.ext hb rfl)
  exact hp.lt s a (by rw [hpt])

/-- The second part reads something. -/
lemma Safe.bindStrict (hp : Safe size p) (hf : ∀ a, Strict size (f a)) : Strict size (p >>= f) := by
  refine ⟨hp.bind fun a => (hf a).toSafe, fun s b hb => ?_⟩
  obtain ⟨a, t, hpt, hft⟩ := bind_eq_ok (Prod.ext hb rfl)
  rw [bind_ok hpt]
  have hle := hp.le s
  rw [hpt] at hle
  exact ((hf a).lt t b (by rw [hft])).trans_le hle

variable {c : Prop}

lemma Safe.ite [Decidable c] {q : Parser σ ε α} (hp : Safe size p) (hq : Safe size q) :
    Safe size (if c then p else q) := by
  split
  · exact hp
  · exact hq

lemma Strict.ite [Decidable c] {q : Parser σ ε α} (hp : Strict size p)
    (hq : Strict size q) : Strict size (if c then p else q) := by
  split
  · exact hp
  · exact hq

variable {cond : α → σ → Bool} {body : α → Parser σ ε α} {n : ℕ}

lemma rounds_eq (hbody : ∀ a, Strict size (body a)) {m : ℕ} (a : α) (s : σ) (hn : size s < n)
    (hm : size s < m) : (rounds cond body n a).run s = (rounds cond body m a).run s := by
  induction n generalizing m a s with
  | zero => omega
  | succ n ih =>
    cases m with
    | zero => omega
    | succ m =>
      simp only [rounds]
      split
      · have hlt := (hbody a).lt s
        cases h : (body a).run s with
        | mk o t =>
          rw [h] at hlt
          cases o with
          | ok b =>
            have hlt : size t < size s := hlt b rfl
            rw [bind_ok h, bind_ok h]
            exact ih b t (by omega) (by omega)
          | throw e => rw [bind_throw h, bind_throw h]
          | hang => rw [bind_hang h, bind_hang h]
      · rfl

variable {a : α}

lemma loop_stop (h : cond a s = false) : (loop size cond body a).run s = (.ok a, s) := by
  simp [loop, rounds, h]

variable {b : α} {t : σ}

/-- One round of a loop. -/
lemma loop_step (hbody : ∀ a, Strict size (body a)) (h : cond a s = true)
    (hb : (body a).run s = (.ok b, t)) : (loop size cond body a).run s = (loop size cond body b).run t := by
  have hlt := (hbody a).lt s b (by rw [hb])
  rw [hb] at hlt
  show (rounds cond body (size s + 1) a).run s = (rounds cond body (size t + 1) b).run t
  simp only [rounds, if_pos h]
  rw [bind_ok hb]
  exact rounds_eq hbody b t hlt (Nat.lt_succ_self _)

lemma loop_throw {e : ε} (h : cond a s = true) (hb : (body a).run s = (.throw e, t)) :
    (loop size cond body a).run s = (.throw e, t) := by
  show (rounds cond body (size s + 1) a).run s = _
  simp only [rounds, if_pos h]
  rw [bind_throw hb]

/-- What no round of a loop changes is the same at its end. -/
lemma loop_keeps {γ : Type} (g : α → γ) (hbody : ∀ a s b t, (body a).run s = (.ok b, t) → g b = g a)
    (h : (loop size cond body a).run s = (.ok b, t)) : g b = g a := by
  have key : ∀ n a s, (rounds cond body n a).run s = (.ok b, t) → g b = g a := by
    intro n
    induction n with
    | zero =>
      intro a s h
      cases h
    | succ n ih =>
      intro a s h
      simp only [rounds] at h
      split at h
      · obtain ⟨c, u, hc, hu⟩ := bind_eq_ok h
        exact (ih c u hu).trans (hbody a s c u hc)
      · cases h
        rfl
  exact key (size s + 1) a s h

/-- A loop whose body reads something in each round comes to an end. -/
lemma Safe.loop (hbody : ∀ a, Strict size (body a)) (a : α) : Safe size (loop size cond body a) := by
  have key : ∀ n a s, size s < n → ((rounds cond body n a).run s).1 ≠ .hang ∧
      size ((rounds cond body n a).run s).2 ≤ size s := by
    intro n
    induction n with
    | zero => exact fun _ _ h => absurd h (by omega)
    | succ n ih =>
      intro a s hn
      simp only [rounds]
      split
      · have hlt := (hbody a).lt s
        have hle := (hbody a).le s
        have hend := (hbody a).ends s
        cases h : (body a).run s with
        | mk o t =>
          rw [h] at hlt hle hend
          cases o with
          | ok b =>
            have hlt : size t < size s := hlt b rfl
            obtain ⟨hends, hless⟩ := ih b t (by omega)
            rw [bind_ok h]
            exact ⟨hends, by omega⟩
          | throw e =>
            rw [bind_throw h]
            exact ⟨nofun, hle⟩
          | hang => exact absurd rfl hend
      · exact ⟨nofun, le_refl _⟩
  exact ⟨fun s => (key _ a s (Nat.lt_succ_self _)).1, fun s => (key _ a s (Nat.lt_succ_self _)).2⟩

lemma Strict.advances {p : Parser σ ε (α ⊕ β)} (hp : Strict size p) : Advances size p :=
  ⟨hp.toSafe, fun s _ h => hp.lt s _ h⟩

lemma Advances.leave (b : β) : Advances size (Pure.pure (.inr b) : Parser σ ε (α ⊕ β)) :=
  ⟨Safe.pure _, fun _ _ h => by cases h⟩

lemma Advances.ite [Decidable c] {p q : Parser σ ε (α ⊕ β)} (hp : Advances size p)
    (hq : Advances size q) : Advances size (if c then p else q) := by
  split
  · exact hp
  · exact hq

/-- The second part reads something where the loop is to go on. -/
lemma Safe.bindAdvances {γ : Type} {f : α → Parser σ ε (β ⊕ γ)} (hp : Safe size p)
    (hf : ∀ a, Advances size (f a)) : Advances size (p >>= f) := by
  refine ⟨hp.bind fun a => (hf a).toSafe, fun s b hb => ?_⟩
  obtain ⟨a, t, hpt, hft⟩ := bind_eq_ok (Prod.ext hb rfl)
  rw [bind_ok hpt]
  have hle := hp.le s
  rw [hpt] at hle
  exact ((hf a).lt t b (by rw [hft])).trans_le hle

/-- A loop in which every round but the last reads something comes to an end. -/
lemma Safe.forever {body : α → Parser σ ε (α ⊕ β)} (hbody : ∀ a, Advances size (body a)) (a : α) :
    Safe size (forever size body a) := by
  have key : ∀ n a s, size s < n → ((repeatRounds body n a).run s).1 ≠ .hang ∧
      size ((repeatRounds body n a).run s).2 ≤ size s := by
    intro n
    induction n with
    | zero => exact fun _ _ h => absurd h (by omega)
    | succ n ih =>
      intro a s hn
      have hlt := (hbody a).lt s
      have hle := (hbody a).le s
      have hend := (hbody a).ends s
      rw [repeatRounds]
      cases h : (body a).run s with
      | mk o t =>
        rw [h] at hlt hle hend
        cases o with
        | ok r =>
          rw [bind_ok h]
          cases r with
          | inl b =>
            have hlt : size t < size s := hlt b rfl
            obtain ⟨hends, hless⟩ := ih b t (by omega)
            exact ⟨hends, hless.trans hlt.le⟩
          | inr b => exact ⟨nofun, hle⟩
        | throw e =>
          rw [bind_throw h]
          exact ⟨nofun, hle⟩
        | hang => exact absurd rfl hend
  exact ⟨fun s => (key _ a s (Nat.lt_succ_self _)).1, fun s => (key _ a s (Nat.lt_succ_self _)).2⟩

lemma repeatRounds_leave {body : α → Parser σ ε (α ⊕ β)} {b : β}
    (h : (body a).run s = (.ok (.inr b), t)) : (repeatRounds body (n + 1) a).run s = (.ok b, t) := by
  rw [repeatRounds, bind_ok h]
  rfl

lemma repeatRounds_step {body : α → Parser σ ε (α ⊕ β)} (h : (body a).run s = (.ok (.inl b), t)) :
    (repeatRounds body (n + 1) a).run s = (repeatRounds body n b).run t := by
  rw [repeatRounds, bind_ok h]

lemma repeatRounds_eq {body : α → Parser σ ε (α ⊕ β)} (hbody : ∀ a, Advances size (body a)) {m : ℕ} (a : α)
    (s : σ) (hn : size s < n) (hm : size s < m) :
    (repeatRounds body n a).run s = (repeatRounds body m a).run s := by
  induction n generalizing m a s with
  | zero => omega
  | succ n ih =>
    cases m with
    | zero => omega
    | succ m =>
      have hlt := (hbody a).lt s
      cases h : (body a).run s with
      | mk o t =>
        rw [h] at hlt
        cases o with
        | ok r =>
          cases r with
          | inl b =>
            have hlt : size t < size s := hlt b rfl
            rw [repeatRounds_step h, repeatRounds_step h]
            exact ih b t (by omega) (by omega)
          | inr b => rw [repeatRounds_leave h, repeatRounds_leave h]
        | throw e => rw [repeatRounds, repeatRounds, bind_throw h, bind_throw h]
        | hang => rw [repeatRounds, repeatRounds, bind_hang h, bind_hang h]

lemma forever_leave {body : α → Parser σ ε (α ⊕ β)} {b : β}
    (h : (body a).run s = (.ok (.inr b), t)) : (forever size body a).run s = (.ok b, t) :=
  repeatRounds_leave h

/-- A loop that is left from within is its first round and what that says. -/
lemma forever_unfold {body : α → Parser σ ε (α ⊕ β)} (hbody : ∀ a, Advances size (body a)) (a : α) (s : σ) :
    (forever size body a).run s = (body a >>= Sum.elim (forever size body) Pure.pure).run s := by
  have hlt := (hbody a).lt s
  show (repeatRounds body (size s + 1) a).run s = _
  cases h : (body a).run s with
  | mk o t =>
    rw [h] at hlt
    cases o with
    | ok r =>
      rw [bind_ok h]
      cases r with
      | inl b =>
        rw [repeatRounds_step h]
        exact repeatRounds_eq hbody b t (hlt b rfl) (Nat.lt_succ_self _)
      | inr b => exact repeatRounds_leave h
    | throw e => rw [repeatRounds, bind_throw h, bind_throw h]
    | hang => rw [repeatRounds, bind_hang h, bind_hang h]

/-- What every round keeps holds of the result of a loop. -/
lemma forever_keeps {body : α → Parser σ ε (α ⊕ β)} {I : α → Prop} {Q : β → Prop}
    (hround : ∀ a s b t, I a → (body a).run s = (.ok (.inl b), t) → I b)
    (hlast : ∀ a s b t, I a → (body a).run s = (.ok (.inr b), t) → Q b) {b : β} (ha : I a)
    (h : (forever size body a).run s = (.ok b, t)) : Q b := by
  have key : ∀ n a s, I a → (repeatRounds body n a).run s = (.ok b, t) → Q b := by
    intro n
    induction n with
    | zero =>
      intro a s _ h
      cases h
    | succ n ih =>
      intro a s ha h
      obtain ⟨r, u, hr, hu⟩ := bind_eq_ok h
      cases r with
      | inl c => exact ih c u (hround a s c u ha hr) hu
      | inr c =>
        cases hu
        exact hlast a s _ _ ha hr
  exact key (size s + 1) a s ha h

/-- Later rounds of a loop do not go back behind the first. -/
lemma forever_le {body : α → Parser σ ε (α ⊕ β)} (hbody : ∀ a, Safe size (body a)) (a : α) (s : σ) :
    size ((forever size body a).run s).2 ≤ size ((body a).run s).2 := by
  have hrest : ∀ n a s, size ((repeatRounds body n a).run s).2 ≤ size s := by
    intro n
    induction n with
    | zero => exact fun _ _ => le_refl _
    | succ n ih =>
      intro a s
      have hle := (hbody a).le s
      rw [repeatRounds]
      cases h : (body a).run s with
      | mk o t =>
        rw [h] at hle
        cases o with
        | ok r =>
          rw [bind_ok h]
          cases r with
          | inl b => exact (ih b t).trans hle
          | inr b => exact hle
        | throw e =>
          rw [bind_throw h]
          exact hle
        | hang =>
          rw [bind_hang h]
          exact hle
  show size ((repeatRounds body (size s + 1) a).run s).2 ≤ _
  rw [repeatRounds]
  cases h : (body a).run s with
  | mk o t =>
    cases o with
    | ok r =>
      rw [bind_ok h]
      cases r with
      | inl b => exact hrest _ b t
      | inr b => exact le_refl _
    | throw e => rw [bind_throw h]
    | hang => rw [bind_hang h]

lemma Safe.handle {catcher : ε → Parser σ ε α} (hp : Safe size p) (hc : ∀ e, Safe size (catcher e)) :
    Safe size (handle p catcher) := by
  constructor
  · intro s
    have hend := hp.ends s
    simp only [Parser.handle]
    cases h : p.run s with
    | mk o t =>
      rw [h] at hend
      cases o with
      | ok a => exact nofun
      | throw e => exact (hc e).ends t
      | hang => exact absurd rfl hend
  · intro s
    have hle := hp.le s
    simp only [Parser.handle]
    cases h : p.run s with
    | mk o t =>
      rw [h] at hle
      cases o with
      | ok a => exact hle
      | throw e => exact ((hc e).le t).trans hle
      | hang => exact hle

/-- A round that fails where it throws, and that a handler goes on from. -/
lemma Advances.handle {p : Parser σ ε (α ⊕ β)} {catcher : ε → Parser σ ε (α ⊕ β)} (hp : Advances size p)
    (hc : ∀ e, Advances size (catcher e)) : Advances size (Parser.handle p catcher) := by
  refine ⟨hp.toSafe.handle fun e => (hc e).toSafe, fun s a ha => ?_⟩
  have hlt := hp.lt s
  have hle := hp.le s
  simp only [Parser.handle] at ha ⊢
  cases h : p.run s with
  | mk o t =>
    rw [h] at ha hlt hle
    cases o with
    | ok r => exact hlt a ha
    | throw e => exact ((hc e).lt t a ha).trans_le hle
    | hang => cases ha

section Zoom

variable {τ : Type} {get : τ → σ} {set : σ → τ → τ} {size' : τ → ℕ}

/-- The part of the state that a parser works on decides on the size. -/
lemma Safe.zoom (hp : Safe size p) (hsize : ∀ t, size' t = size (get t))
    (hset : ∀ s t, size' (set s t) = size s) : Safe size' (Parser.zoom get set p) := by
  refine ⟨fun t => hp.ends (get t), fun t => ?_⟩
  rw [hsize t]
  exact (hset _ t).trans_le (hp.le (get t))

lemma Strict.zoom (hp : Strict size p) (hsize : ∀ t, size' t = size (get t))
    (hset : ∀ s t, size' (set s t) = size s) : Strict size' (Parser.zoom get set p) := by
  refine ⟨hp.toSafe.zoom hsize hset, fun t a h => ?_⟩
  rw [hsize t]
  exact (hset _ t).trans_lt (hp.lt (get t) a h)

end Zoom

lemma Safe.withLocal {τ : Type} {init : τ} {p : Parser (σ × τ) ε α} (hp : Safe (fun r => size r.1) p) :
    Safe size (withLocal init p) := by
  constructor
  · intro s
    have hend := hp.ends (s, init)
    simp only [Parser.withLocal]
    cases h : p.run (s, init) with
    | mk o r =>
      rw [h] at hend
      cases o with
      | ok a => exact nofun
      | throw e => exact nofun
      | hang => exact absurd rfl hend
  · intro s
    have hle := hp.le (s, init)
    simp only [Parser.withLocal]
    cases h : p.run (s, init) with
    | mk o r =>
      rw [h] at hle
      cases o <;> exact hle

end Progress

end Parser

end PjProject
