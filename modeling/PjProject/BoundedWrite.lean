import Mathlib.Tactic

/-!
# Writes to a buffer of fixed size

A buffer is a list that never changes its length. A write that is not inside it ends the run,
which is kept apart from an error that the run reports. The lemmas put consecutive writes
together and say what a write leaves as it was.
-/
namespace BoundedWrite

inductive Stop (E : Type*)
  | error (e : E)
  | overrun
deriving DecidableEq

universe u

variable {α β : Type u} {E : Type*}

def splice (buf : List α) (pos : ℕ) (new : List α) : List α :=
  buf.take pos ++ (new ++ buf.drop (pos + new.length))

def put (buf : List α) (pos : ℕ) (new : List α) : Except (Stop E) (List α) :=
  if pos + new.length ≤ buf.length then .ok (splice buf pos new) else .error .overrun

def lift (x : Except E β) : Except (Stop E) β := x.mapError .error

@[simp] lemma ok_bind (b : α) (f : α → Except (Stop E) β) : (Except.ok b >>= f) = f b := rfl

@[simp] lemma error_bind (s : Stop E) (f : α → Except (Stop E) β) :
    (Except.error s >>= f) = Except.error s := rfl

@[simp] lemma lift_ok (b : β) : lift (E := E) (.ok b) = .ok b := rfl

lemma of_lift {x : Except E β} {b : β} (h : lift x = .ok b) : x = .ok b := by
  cases x with
  | error e => cases h
  | ok a => exact congrArg Except.ok (Except.ok.inj h)

section Splice

variable {buf new : List α} {pos : ℕ}

lemma splice_length (h : pos + new.length ≤ buf.length) : (splice buf pos new).length = buf.length := by
  simp only [splice, List.length_append, List.length_take, List.length_drop]
  omega

/-- A write behind a prefix goes to the start of the rest. -/
lemma splice_append (s t : List α) (h : pos = s.length) :
    splice (s ++ t) pos new = s ++ (new ++ t.drop new.length) := by
  simp [splice, h, List.drop_append]

/-- A write of as many elements as there are between two parts. -/
lemma splice_between (s m t : List α) (hpos : pos = s.length) (h : new.length = m.length) :
    splice (s ++ (m ++ t)) pos new = s ++ (new ++ t) := by
  rw [splice_append _ _ hpos, h, List.drop_left]

end Splice

section Put

variable {buf new : List α} {pos : ℕ}

lemma put_ok (h : pos + new.length ≤ buf.length) :
    put (E := E) buf pos new = .ok (splice buf pos new) := if_pos h

lemma put_overrun (h : buf.length < pos + new.length) :
    put (E := E) buf pos new = .error .overrun := if_neg (Nat.not_le.2 h)

lemma of_put {b : List α} (h : put (E := E) buf pos new = .ok b) :
    pos + new.length ≤ buf.length ∧ b = splice buf pos new := by
  unfold put at h
  split_ifs at h with hfit
  exact ⟨hfit, (Except.ok.inj h).symm⟩

/-- Two writes, one behind the other, are one. -/
lemma put_put (buf s t : List α) {pos pos' : ℕ} (h : pos' = pos + s.length) (f : List α → Except (Stop E) β) :
    (put buf pos s >>= fun b => put b pos' t >>= f) = put buf pos (s ++ t) >>= f := by
  subst h
  by_cases hs : pos + s.length ≤ buf.length
  · rw [put_ok hs, ok_bind]
    by_cases ht : pos + (s ++ t).length ≤ buf.length
    · have ht' : pos + s.length + t.length ≤ buf.length := by
        rwa [List.length_append, ← Nat.add_assoc] at ht
      have hsplit : splice buf pos s = (buf.take pos ++ s) ++ buf.drop (pos + s.length) := by
        rw [splice, List.append_assoc]
      have hmerge : splice (splice buf pos s) (pos + s.length) t = splice buf pos (s ++ t) := by
        rw [hsplit, splice_append _ _ (by
          rw [List.length_append, List.length_take, Nat.min_eq_left (by omega)])]
        simp [splice, List.drop_drop, Nat.add_assoc]
      rw [put_ok ht, put_ok (by rwa [splice_length hs]), hmerge]
    · have ht' : ¬ pos + s.length + t.length ≤ buf.length := by
        rwa [List.length_append, ← Nat.add_assoc] at ht
      rw [put_overrun (by rw [splice_length hs]; omega), put_overrun (Nat.not_le.1 ht)]
  · rw [put_overrun (Nat.not_le.1 hs), put_overrun (by rw [List.length_append]; omega), error_bind,
      error_bind]

/-- The same at the end of a chain. -/
lemma put_put_last (buf s t : List α) {pos pos' : ℕ} (h : pos' = pos + s.length) :
    (put buf pos s >>= fun b => put b pos' t) = put (E := E) buf pos (s ++ t) := by
  have := put_put buf s t h (pure (f := Except (Stop E)))
  simpa only [bind_pure] using this

end Put

end BoundedWrite
