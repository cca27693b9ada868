import Mathlib.Tactic

/-!
# Reads and writes that stay inside

A read of a buffer, and an append to a buffer of limited room, each with the error that it ends in
when it goes outside. `Avoids` says that a run does not end in a given error; its lemmas follow the
steps of the run.
-/
namespace BoundedRead

universe u

variable {α β : Type u} {ε : Type*} {e : ε}

def get (e : ε) (buf : List α) (pos : ℕ) : Except ε α :=
  if h : pos < buf.length then .ok buf[pos] else .error e

def read (e : ε) (buf : List α) (pos n : ℕ) : Except ε (List α) :=
  if pos + n ≤ buf.length then .ok ((buf.drop pos).take n) else .error e

def append (e : ε) (cap : ℕ) (out new : List α) : Except ε (List α) :=
  if out.length + new.length ≤ cap then .ok (out ++ new) else .error e

def Avoids (e : ε) (x : Except ε β) : Prop := x ≠ .error e

@[simp] lemma ok_bind (a : α) (f : α → Except ε β) : (Except.ok a >>= f) = f a := rfl

@[simp] lemma error_bind (s : ε) (f : α → Except ε β) : (Except.error s >>= f) = .error s := rfl

/-- A run of two parts that succeeds has a first part that does. -/
lemma of_bind {x : Except ε α} {f : α → Except ε β} {b : β} (h : x >>= f = .ok b) :
    ∃ a, x = .ok a ∧ f a = .ok b := by
  cases x with
  | error s => cases h
  | ok a => exact ⟨a, rfl, h⟩

section Access

variable {buf out new : List α} {pos n cap : ℕ}

lemma get_ok (h : pos < buf.length) : get e buf pos = .ok buf[pos] := dif_pos h

lemma of_get {a : α} (h : get e buf pos = .ok a) : buf.drop pos = a :: buf.drop (pos + 1) := by
  unfold get at h
  split_ifs at h with hin
  rw [List.drop_eq_getElem_cons hin, Except.ok.inj h]

/-- The element in front of what is left. -/
lemma get_of_drop {a : α} {rest : List α} (h : buf.drop pos = a :: rest) : get e buf pos = .ok a := by
  have hlen := congrArg List.length h
  rw [List.length_drop, List.length_cons] at hlen
  have hin : pos < buf.length := by omega
  rw [List.drop_eq_getElem_cons hin] at h
  rw [get_ok hin, (List.cons.inj h).1]

lemma read_ok (h : pos + n ≤ buf.length) : read e buf pos n = .ok ((buf.drop pos).take n) := if_pos h

lemma of_read {s : List α} (h : read e buf pos n = .ok s) :
    s.length = n ∧ buf.drop pos = s ++ buf.drop (pos + n) := by
  unfold read at h
  split_ifs at h with hin
  rw [← Except.ok.inj h, List.length_take, List.length_drop]
  exact ⟨by omega, by rw [← List.drop_drop, List.take_append_drop]⟩

/-- The elements in front of what is left. -/
lemma read_of_drop {s rest : List α} (h : buf.drop pos = s ++ rest) (hpos : pos ≤ buf.length)
    (hn : n = s.length) : read e buf pos n = .ok s := by
  have hlen := congrArg List.length h
  rw [List.length_drop, List.length_append] at hlen
  rw [read_ok (by omega), h, hn, List.take_left]

lemma append_ok (h : out.length + new.length ≤ cap) : append e cap out new = .ok (out ++ new) := if_pos h

end Access

namespace Avoids

lemma ok (b : β) : Avoids e (.ok b : Except ε β) := by
  intro h
  cases h

lemma error {s : ε} (h : s ≠ e) : Avoids e (.error s : Except ε β) := fun h' => h (Except.error.inj h')

lemma bind {x : Except ε α} {f : α → Except ε β} (hx : Avoids e x)
    (hf : ∀ a, x = .ok a → Avoids e (f a)) : Avoids e (x >>= f) := by
  cases x with
  | error s => exact error fun hs => hx (congrArg _ hs)
  | ok a => exact hf a rfl

lemma get {buf : List α} {pos : ℕ} (s : ε) (h : pos < buf.length) : Avoids e (get s buf pos) := by
  rw [get_ok h]
  exact ok _

lemma read {buf : List α} {pos n : ℕ} (s : ε) (h : pos + n ≤ buf.length) : Avoids e (read s buf pos n) := by
  rw [read_ok h]
  exact ok _

/-- An append of another error. -/
lemma append {cap : ℕ} {out new : List α} {s : ε} (h : s ≠ e) : Avoids e (append s cap out new) := by
  unfold BoundedRead.append
  split_ifs
  · exact ok _
  · exact error h

end Avoids

def Ends (x : Except ε β) (P : β → Prop) : Prop := ∃ b, x = .ok b ∧ P b

namespace Ends

variable {P : α → Prop} {Q : β → Prop}

lemma ok {b : β} (h : Q b) : Ends (.ok b : Except ε β) Q := ⟨b, rfl, h⟩

lemma bind {x : Except ε α} {f : α → Except ε β} (hx : Ends x P) (hf : ∀ a, P a → Ends (f a) Q) :
    Ends (x >>= f) Q := by
  obtain ⟨a, rfl, ha⟩ := hx
  exact hf a ha

lemma mono {P' : α → Prop} {x : Except ε α} (hx : Ends x P) (h : ∀ a, P a → P' a) : Ends x P' := by
  obtain ⟨a, rfl, ha⟩ := hx
  exact ⟨a, rfl, h a ha⟩

end Ends

end BoundedRead
