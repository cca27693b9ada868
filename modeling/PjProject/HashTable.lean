import Mathlib.Tactic

/-!
# Chained hash tables

A table of chains indexed by a masked hash value. Keys are compared by hash and
then by an equivalence that may be coarser than equality. `get_set` says that such
a table is a finite map from the classes of keys to values.
-/
namespace PjProject.HashTable

structure Hashing (K : Type*) where
  hash : K → ℕ
  eqv : K → K → Bool
  refl : ∀ k, eqv k k = true
  symm : ∀ a b, eqv a b = true → eqv b a = true
  trans : ∀ a b c, eqv a b = true → eqv b c = true → eqv a c = true

variable {K V : Type*} (H : Hashing K)

def Hashing.same (a b : K) : Bool := H.hash a = H.hash b && H.eqv a b

lemma Hashing.same_refl (a : K) : H.same a a = true := by
  simp [Hashing.same, H.refl]

variable {a b : K}

lemma Hashing.same_symm (h : H.same a b = true) : H.same b a = true := by
  simp only [Hashing.same, Bool.and_eq_true, decide_eq_true_eq] at h ⊢
  exact ⟨h.1.symm, H.symm a b h.2⟩

lemma Hashing.same_trans {c : K} (h : H.same a b = true) (h' : H.same b c = true) : H.same a c = true := by
  simp only [Hashing.same, Bool.and_eq_true, decide_eq_true_eq] at h h' ⊢
  exact ⟨h.1.trans h'.1, H.trans a b c h.2 h'.2⟩

lemma Hashing.same_hash (h : H.same a b = true) : H.hash a = H.hash b := by
  simp only [Hashing.same, Bool.and_eq_true, decide_eq_true_eq] at h
  exact h.1

structure Entry (K V : Type*) where
  key : K
  value : V

/-- Replace or, with no value, delete the first entry of a chain that matches; append
a new entry if none does. -/
def setChain (k : K) (v : Option V) : List (Entry K V) → List (Entry K V)
  | [] => (v.map (Entry.mk k)).toList
  | e :: es =>
    if H.same e.key k then
      match v with
      | none => es
      | some x => { e with value := x } :: es
    else e :: setChain k v es

def getChain (k : K) (es : List (Entry K V)) : Option V :=
  (es.find? fun e => H.same e.key k).map (·.value)

def Distinct (es : List (Entry K V)) : Prop :=
  es.Pairwise fun a b => H.same a.key b.key = false

variable {k : K} {v : Option V} {es : List (Entry K V)} {e : Entry K V}

lemma setChain_mem (h : e ∈ setChain H k v es) : (∃ e' ∈ es, e'.key = e.key) ∨ e.key = k := by
  induction es with
  | nil =>
    cases v with
    | none => simp [setChain] at h
    | some x =>
      simp only [setChain, Option.map_some, Option.toList_some, List.mem_singleton] at h
      exact .inr (by rw [h])
  | cons a es ih =>
    unfold setChain at h
    split_ifs at h with ha
    · cases v with
      | none => exact .inl ⟨e, by simp [h], rfl⟩
      | some x =>
        rcases List.mem_cons.1 h with rfl | h
        · exact .inl ⟨a, by simp, rfl⟩
        · exact .inl ⟨e, by simp [h], rfl⟩
    · rcases List.mem_cons.1 h with rfl | h
      · exact .inl ⟨e, by simp, rfl⟩
      · rcases ih h with ⟨e', he', hk⟩ | hk
        · exact .inl ⟨e', by simp [he'], hk⟩
        · exact .inr hk

lemma setChain_distinct (k : K) (v : Option V) (h : Distinct H es) : Distinct H (setChain H k v es) := by
  induction es with
  | nil => cases v <;> simp [setChain, Distinct]
  | cons a es ih =>
    obtain ⟨ha, hes⟩ := List.pairwise_cons.1 h
    unfold setChain
    split_ifs with hk
    · cases v with
      | none => exact hes
      | some x => exact List.pairwise_cons.2 ⟨ha, hes⟩
    · refine List.pairwise_cons.2 ⟨fun e he => ?_, ih hes⟩
      rcases setChain_mem H he with ⟨e', he', hke⟩ | hke
      · rw [← hke]
        exact ha e' he'
      · rw [hke]
        simpa using hk

lemma getChain_setChain (k k' : K) (v : Option V) (h : Distinct H es) :
    getChain H k' (setChain H k v es) = if H.same k k' then v else getChain H k' es := by
  induction es with
  | nil => cases v <;> simp [setChain, getChain, List.find?_cons]; split_ifs <;> simp_all
  | cons a es ih =>
    obtain ⟨ha, hes⟩ := List.pairwise_cons.1 h
    have hnone : H.same a.key k' = true → getChain H k' es = none := by
      intro hk
      simp only [getChain, Option.map_eq_none_iff, List.find?_eq_none]
      intro e he hek
      have := ha e he
      rw [H.same_trans hk (H.same_symm hek)] at this
      simp at this
    unfold setChain
    by_cases hak : H.same a.key k = true
    · rw [if_pos hak]
      by_cases hkk : H.same k k' = true
      · have hak' := H.same_trans hak hkk
        rw [if_pos hkk]
        cases v with
        | none => exact hnone hak'
        | some x => simp [getChain, hak']
      · have hak' : H.same a.key k' = false := by
          by_contra hc
          exact hkk (H.same_trans (H.same_symm hak) (by simpa using hc))
        rw [if_neg hkk]
        cases v <;> simp [getChain, hak']
    · rw [if_neg hak]
      by_cases hak' : H.same a.key k' = true
      · have hkk : ¬ H.same k k' = true := fun hc => hak (H.same_trans hak' (H.same_symm hc))
        rw [if_neg hkk]
        simp [getChain, hak']
      · have hf : H.same a.key k' = false := by simpa using hak'
        have := ih hes
        simp only [getChain, List.find?_cons, hf] at this ⊢
        exact this

/-- A table: every entry is in the chain of its hash, and no chain has two entries
that match each other. -/
structure Table (V : Type*) where
  rows : ℕ
  chain : ℕ → List (Entry K V)
  placed : ∀ i, ∀ e ∈ chain i, H.hash e.key &&& rows = i
  distinct : ∀ i, Distinct H (chain i)

variable {H}

def Table.empty (rows : ℕ) : Table H V :=
  ⟨rows, fun _ => [], by simp, fun _ => List.Pairwise.nil⟩

def Table.get (t : Table H V) (k : K) : Option V :=
  getChain H k (t.chain (H.hash k &&& t.rows))

def Table.set (t : Table H V) (k : K) (v : Option V) : Table H V where
  rows := t.rows
  chain := fun i => if i = H.hash k &&& t.rows then setChain H k v (t.chain i) else t.chain i
  placed := by
    intro i e he
    split_ifs at he with hi
    · rcases setChain_mem H he with ⟨e', he', hk⟩ | hk
      · rw [← hk]
        exact t.placed i e' he'
      · rw [hk, hi]
    · exact t.placed i e he
  distinct := by
    intro i
    split_ifs
    · exact setChain_distinct H k v (t.distinct i)
    · exact t.distinct i

@[simp] lemma Table.get_empty (rows : ℕ) (k : K) : (Table.empty rows : Table H V).get k = none :=rfl

lemma Table.get_set (t : Table H V) (k k' : K) (v : Option V) :
    (t.set k v).get k' = if H.same k k' then v else t.get k' := by
  unfold Table.get Table.set
  dsimp only
  by_cases hi : H.hash k' &&& t.rows = H.hash k &&& t.rows
  · rw [if_pos hi]
    exact getChain_setChain H k k' v (t.distinct _)
  · rw [if_neg hi, if_neg]
    intro hc
    exact hi (by rw [H.same_hash hc])

lemma Table.get_congr (t : Table H V) {k' : K} (h : H.same k k' = true) : t.get k = t.get k' := by
  unfold Table.get getChain
  rw [H.same_hash h]
  congr 2
  funext e
  rw [Bool.eq_iff_iff]
  exact ⟨fun he => H.same_trans he h, fun he => H.same_trans he (H.same_symm h)⟩

variable {i : ℕ}

lemma Table.get_entry (t : Table H V) (he : e ∈ t.chain i) : t.get e.key = some e.value := by
  have hmem : e ∈ t.chain (H.hash e.key &&& t.rows) := by
    rw [t.placed i e he]
    exact he
  have key : ∀ es : List (Entry K V), Distinct H es → e ∈ es →
      getChain H e.key es = some e.value := by
    intro es
    induction es with
    | nil => simp
    | cons a es ih =>
      intro hd hm
      obtain ⟨ha, hes⟩ := List.pairwise_cons.1 hd
      rcases List.mem_cons.1 hm with rfl | hm
      · simp [getChain, H.same_refl]
      · have hf := ha e hm
        have := ih hes hm
        simp only [getChain, List.find?_cons, hf] at this ⊢
        exact this
  exact key _ (t.distinct _) hmem

lemma mem_setChain (hd : Distinct H es) (h : e ∈ setChain H k v es) :
    (e ∈ es ∧ H.same e.key k = false) ∨ v = some e.value ∧ (e.key = k ∨ ∃ e' ∈ es, e'.key = e.key ∧ H.same e'.key k = true) := by
  induction es with
  | nil =>
    cases v with
    | none => simp [setChain] at h
    | some x =>
      obtain rfl : e = ⟨k, x⟩ := by simpa [setChain] using h
      exact .inr ⟨rfl, .inl rfl⟩
  | cons a es ih =>
    obtain ⟨ha, hes⟩ := List.pairwise_cons.1 hd
    unfold setChain at h
    split_ifs at h with hak
    · have hrest : e ∈ es → H.same e.key k = false := by
        intro he
        have hf := ha e he
        by_contra hc
        rw [H.same_trans hak (H.same_symm (Bool.eq_true_of_not_eq_false hc))] at hf
        cases hf
      cases v with
      | none => exact .inl ⟨List.mem_cons_of_mem _ h, hrest h⟩
      | some x =>
        rcases List.mem_cons.1 h with rfl | h
        · exact .inr ⟨rfl, .inr ⟨a, List.mem_cons_self, rfl, hak⟩⟩
        · exact .inl ⟨List.mem_cons_of_mem _ h, hrest h⟩
    · rcases List.mem_cons.1 h with rfl | h
      · exact .inl ⟨List.mem_cons_self, by simpa using hak⟩
      · rcases ih hes h with ⟨he, hf⟩ | ⟨hv, hk | ⟨e', he', hke, hs⟩⟩
        · exact .inl ⟨List.mem_cons_of_mem _ he, hf⟩
        · exact .inr ⟨hv, .inl hk⟩
        · exact .inr ⟨hv, .inr ⟨e', List.mem_cons_of_mem _ he', hke, hs⟩⟩

variable {t : Table H V}

lemma Table.entry_of_get {v : V} (h : t.get k = some v) :
    ∃ i, ∃ e ∈ t.chain i, H.same e.key k = true ∧ e.value = v := by
  obtain ⟨e, he, hv⟩ := Option.map_eq_some_iff.mp h
  exact ⟨_, e, List.mem_of_find?_eq_some he, by simpa using List.find?_some he, hv⟩

lemma Table.mem_set_none (h : e ∈ (t.set k none).chain i) : e ∈ t.chain i ∧ H.same e.key k = false := by
  simp only [Table.set] at h
  split_ifs at h with hi
  · rcases mem_setChain (t.distinct i) h with h' | ⟨hv, -⟩
    · exact h'
    · cases hv
  · refine ⟨h, ?_⟩
    by_contra hc
    have hs := Bool.eq_true_of_not_eq_false hc
    exact hi ((t.placed i e h).symm.trans (by rw [H.same_hash hs]))

lemma Table.mem_set_some {v : V} (hk : t.get k = none)
    (h : e ∈ (t.set k (some v)).chain i) : (e ∈ t.chain i ∧ H.same e.key k = false) ∨ e = ⟨k, v⟩ := by
  have hnone : ∀ e' ∈ t.chain i, H.same e'.key k = false := by
    intro e' he'
    by_contra hc
    have hget := t.get_congr (Bool.eq_true_of_not_eq_false hc)
    rw [t.get_entry he', hk] at hget
    cases hget
  simp only [Table.set] at h
  split_ifs at h with hi
  · rcases mem_setChain (t.distinct i) h with h' | ⟨hv, hkey | ⟨e', he', -, hs⟩⟩
    · exact .inl h'
    · refine .inr ?_
      obtain ⟨key, value⟩ := e
      cases hv
      cases hkey
      rfl
    · rw [hnone e' he'] at hs
      cases hs
  · exact .inl ⟨h, hnone e h⟩

lemma mem_setChain_of_ne (he : e ∈ es) (hk : H.same e.key k = false) : e ∈ setChain H k v es := by
  induction es with
  | nil => cases he
  | cons a es ih =>
    unfold setChain
    split_ifs with hak
    · rcases List.mem_cons.1 he with rfl | he
      · rw [hak] at hk
        cases hk
      · cases v with
        | none => exact he
        | some x => exact List.mem_cons_of_mem _ he
    · rcases List.mem_cons.1 he with rfl | he
      · exact List.mem_cons_self
      · exact List.mem_cons_of_mem _ (ih he)

lemma setChain_length (k : K) (v : Option V) (es : List (Entry K V)) :
    (setChain H k v es).length + (getChain H k es).isSome.toNat = es.length + v.isSome.toNat := by
  induction es with
  | nil => cases v <;> rfl
  | cons a es ih =>
    unfold setChain
    by_cases hak : H.same a.key k = true
    · rw [if_pos hak]
      have hget : getChain H k (a :: es) = some a.value := by simp [getChain, hak]
      rw [hget]
      cases v <;> simp
    · rw [if_neg hak]
      have hget : getChain H k (a :: es) = getChain H k es := by simp [getChain, hak]
      rw [hget, List.length_cons, List.length_cons]
      omega

def Table.entries (t : Table H V) : List (Entry K V) := (List.range (t.rows + 1)).flatMap t.chain

lemma Table.mem_entries : e ∈ t.entries ↔ ∃ i, e ∈ t.chain i := by
  rw [Table.entries, List.mem_flatMap]
  constructor
  · rintro ⟨i, -, he⟩
    exact ⟨i, he⟩
  · rintro ⟨i, he⟩
    have hi : i ≤ t.rows := t.placed i e he ▸ Nat.and_le_right
    exact ⟨i, List.mem_range.mpr (by omega), he⟩

lemma Table.entries_distinct (t : Table H V) : Distinct H t.entries := by
  refine List.pairwise_flatMap.mpr ⟨fun i _ => t.distinct i, ?_⟩
  refine List.nodup_range.imp fun {i j} hij a ha b hb => ?_
  by_contra hc
  have hs := H.same_hash (Bool.eq_true_of_not_eq_false hc)
  exact hij (by rw [← t.placed i a ha, ← t.placed j b hb, hs])

lemma Table.mem_entries_set_of_ne (he : e ∈ t.entries)
    (hk : H.same e.key k = false) : e ∈ (t.set k v).entries := by
  obtain ⟨i, hi⟩ := Table.mem_entries.mp he
  refine Table.mem_entries.mpr ⟨i, ?_⟩
  simp only [Table.set]
  split_ifs
  · exact mem_setChain_of_ne hi hk
  · exact hi

lemma Table.of_mem_entries_set (he : e ∈ (t.set k v).entries) : (e ∈ t.entries ∧ H.same e.key k = false) ∨
      v = some e.value ∧ (e.key = k ∨ ∃ e' ∈ t.entries, e'.key = e.key ∧ H.same e'.key k = true) := by
  obtain ⟨i, hi⟩ := Table.mem_entries.mp he
  simp only [Table.set] at hi
  split_ifs at hi with hrow
  · rcases mem_setChain (t.distinct i) hi with ⟨hmem, hk⟩ | ⟨hv, hk | ⟨e', he', hkey, hs⟩⟩
    · exact .inl ⟨Table.mem_entries.mpr ⟨i, hmem⟩, hk⟩
    · exact .inr ⟨hv, .inl hk⟩
    · exact .inr ⟨hv, .inr ⟨e', Table.mem_entries.mpr ⟨i, he'⟩, hkey, hs⟩⟩
  · refine .inl ⟨Table.mem_entries.mpr ⟨i, hi⟩, ?_⟩
    by_contra hc
    have hs := H.same_hash (Bool.eq_true_of_not_eq_false hc)
    exact hrow ((t.placed i e hi).symm.trans (by rw [hs]))

lemma Table.entries_length (t : Table H V) :
    t.entries.length = ∑ i ∈ Finset.range (t.rows + 1), (t.chain i).length := by
  rw [Table.entries, List.length_flatMap]
  rfl

lemma Table.set_entries_length (t : Table H V) (k : K) (v : Option V) :
    (t.set k v).entries.length + (t.get k).isSome.toNat = t.entries.length + v.isSome.toNat := by
  have hrow : H.hash k &&& t.rows ∈ Finset.range (t.rows + 1) :=
    Finset.mem_range.mpr (Nat.lt_succ_of_le Nat.and_le_right)
  have hchain := setChain_length (H := H) k v (t.chain (H.hash k &&& t.rows))
  have hrest : ∀ i ∈ (Finset.range (t.rows + 1)).erase (H.hash k &&& t.rows),
      ((t.set k v).chain i).length = (t.chain i).length := by
    intro i hi
    simp [Table.set, (Finset.mem_erase.mp hi).1]
  rw [Table.entries_length, Table.entries_length]
  change ∑ i ∈ Finset.range (t.rows + 1), _ + _ = _
  rw [← Finset.add_sum_erase _ _ hrow, ← Finset.add_sum_erase _ _ hrow, Finset.sum_congr rfl hrest]
  simp only [Table.set, if_true, Table.get] at hchain ⊢
  omega

end PjProject.HashTable
