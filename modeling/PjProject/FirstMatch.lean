import Mathlib.Tactic

/-!
# Comparing lists of named values by their first match

Two lists of entries are compared by walking over one of them and looking up the first entry
of the same name in the other. Names and values are compared by equivalence relations. The
comparison is an equivalence only where entries of one name agree within each list.
-/
namespace PjProject.FirstMatch

variable {α : Type} (name value : Setoid α) [DecidableRel name.r] {l m : List α}

def lookup (m : List α) (p : α) : Option α := m.find? fun q => name.r q p

def Agrees (l m : List α) : Prop := ∀ p ∈ l, ∀ q ∈ lookup name m p, value.r p q

def Covers (l m : List α) : Prop := ∀ p ∈ l, ∃ q ∈ lookup name m p, value.r p q

def Consistent (l : List α) : Prop := ∀ p ∈ l, ∀ q ∈ l, name.r p q → value.r p q

def Misses (l m : List α) : Prop := ∃ p ∈ l, ∀ q ∈ m, ¬ name.r q p

variable {name value}

lemma lookup_some {p q : α} (h : lookup name m p = some q) : q ∈ m ∧ name.r q p :=
  ⟨List.mem_of_find?_eq_some h, by simpa using List.find?_some h⟩

lemma lookup_of_mem {p q : α} (hq : q ∈ m) (hname : name.r q p) : ∃ r, lookup name m p = some r := by
  refine Option.isSome_iff_exists.mp ?_
  exact List.find?_isSome.mpr ⟨q, hq, by simpa using hname⟩

/-- A list agrees with itself if and only if it is consistent. -/
lemma agrees_self_iff : Agrees name value l l ↔ Consistent name value l := by
  constructor
  · intro h p hp q hq hpq
    obtain ⟨r, hr⟩ := lookup_of_mem hp (name.refl p)
    have hrp := (lookup_some hr).2
    -- Both entries have the same first match, which is found by the same names.
    have hsame : lookup name l q = some r := by
      rw [← hr]
      unfold lookup
      congr 1
      funext x
      exact decide_eq_decide.mpr
        ⟨fun hxq => name.trans hxq (name.symm hpq), fun hxp => name.trans hxp hpq⟩
    exact value.trans (h p hp r hr) (value.symm (h q hq r hsame))
  · intro h p hp q hq
    obtain ⟨hmem, hname⟩ := lookup_some hq
    exact h p hp q hmem (name.symm hname)

lemma covers_iff : Covers name value l m ↔ Agrees name value l m ∧ ¬ Misses name l m := by
  constructor
  · intro h
    refine ⟨fun p hp q hq => ?_, ?_⟩
    · obtain ⟨r, hr, hval⟩ := h p hp
      rw [Option.mem_def.mp hq] at hr
      rw [Option.some.inj hr]
      exact hval
    · rintro ⟨p, hp, hno⟩
      obtain ⟨r, hr, -⟩ := h p hp
      exact hno r (lookup_some hr).1 (lookup_some hr).2
  · rintro ⟨hag, hmiss⟩ p hp
    have hex : ∃ q ∈ m, name.r q p := by
      by_contra hno
      exact hmiss ⟨p, hp, fun q hq hname => hno ⟨q, hq, hname⟩⟩
    obtain ⟨q, hq, hname⟩ := hex
    obtain ⟨r, hr⟩ := lookup_of_mem hq hname
    exact ⟨r, hr, hag p hp r hr⟩

lemma covers_self_iff : Covers name value l l ↔ Consistent name value l := by
  rw [covers_iff, agrees_self_iff, and_iff_left_iff_imp]
  rintro - ⟨p, hp, hno⟩
  exact hno p hp (name.refl p)

/-- Between consistent lists it does not matter which side is walked over. -/
lemma Agrees.symm (hm : Consistent name value m) (h : Agrees name value l m) : Agrees name value m l := by
  intro q hq p hp
  obtain ⟨hpl, hpq⟩ := lookup_some hp
  obtain ⟨r, hr⟩ := lookup_of_mem hq (name.symm hpq)
  obtain ⟨hrm, hrp⟩ := lookup_some hr
  have hqr : value.r q r := hm q hq r hrm (name.trans (name.symm hpq) (name.symm hrp))
  exact value.trans hqr (value.symm (h p hpl r hr))

end PjProject.FirstMatch
