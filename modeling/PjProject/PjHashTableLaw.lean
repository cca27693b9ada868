import PjProject.PjHashTable

/-!
# The hash table is a finite map

A table of the code is the image of a chained table of the library (`Shows`), with
the hash of each key written into its entry; a lookup that is given no hash, or the
one that was reported for its key, and a set then do what the chained table does.
-/
namespace PjProject.PjHash
open Transition

variable {V : Type*} {sip : SipKey} {lower : Bool}

/-- How `find_entry` tells keys apart. -/
def hashing (sip : SipKey) (lower : Bool) : HashTable.Hashing Bytes where
  hash := fun key => (tableHash sip lower key).toNat
  eqv := fun a b => if lower then stricmpEq a b else a = b
  refl := by
    intro k
    cases lower
    · simp
    · simp [stricmpEq_refl]
  symm := by
    intro a b h
    cases lower
    · simpa [eq_comm] using h
    · exact stricmpEq_symm h
  trans := by
    intro a b c h h'
    cases lower
    · simp only [Bool.false_eq_true, if_false, decide_eq_true_eq] at h h' ⊢
      exact h.trans h'
    · exact stricmpEq_trans h h'

def canon (lower : Bool) (key : Bytes) : Bytes := if lower then lowerAll key else key

lemma tableHash_canon {a b : Bytes} (h : canon lower a = canon lower b) :
    tableHash sip lower a = tableHash sip lower b := by
  unfold tableHash
  rw [show (if lower then lowerAll a else a) = if lower then lowerAll b else b from h]

lemma same_of_canon {a b : Bytes} (h : canon lower a = canon lower b) :
    (hashing sip lower).same a b = true := by
  simp only [HashTable.Hashing.same, Bool.and_eq_true, decide_eq_true_eq]
  refine ⟨congrArg UInt32.toNat (tableHash_canon h), ?_⟩
  cases lower with
  | false => exact decide_eq_true h
  | true => exact stricmpEq_of_lower h

lemma stored_eq {key : KeyArg} (h : key.text.length < 2 ^ 32) : key.stored = key.text := by
  rw [KeyArg.stored, Nat.mod_eq_of_lt h, List.take_length]

def ofEntry (sip : SipKey) (lower : Bool) (e : HashTable.Entry Bytes V) : HashEntry V :=
  ⟨tableHash sip lower e.key, e.key, e.value⟩

lemma entryIs_ofEntry (key : Bytes) (e : HashTable.Entry Bytes V) :
    entryIs lower (tableHash sip lower key) key (ofEntry sip lower e) =
      (hashing sip lower).same e.key key := by
  simp only [entryIs, ofEntry, HashTable.Hashing.same, hashing, UInt32.toNat_inj, Bool.and_assoc]
  congr 1
  cases lower with
  | false =>
    by_cases hkey : e.key = key <;> simp [hkey]
  | true =>
    by_cases hlen : e.key.length = key.length <;> simp [stricmpEq, hlen]

section Chain

variable (sip lower) (key : Bytes)

lemma scan_cons (e : HashTable.Entry Bytes V) (es : List (HashTable.Entry Bytes V)) :
    scan lower (tableHash sip lower key) key ((e :: es).map (ofEntry sip lower)) =
      if (hashing sip lower).same e.key key then 0
      else scan lower (tableHash sip lower key) key (es.map (ofEntry sip lower)) + 1 := by
  simp only [scan, List.map_cons, List.findIdx_cons, entryIs_ofEntry]
  cases (hashing sip lower).same e.key key <;> rfl

lemma scan_get (es : List (HashTable.Entry Bytes V)) :
    ((es.map (ofEntry sip lower))[scan lower (tableHash sip lower key) key
      (es.map (ofEntry sip lower))]?).map (·.value) = HashTable.getChain (hashing sip lower) key es := by
  induction es with
  | nil => rfl
  | cons e es ih =>
    rw [scan_cons]
    by_cases h : (hashing sip lower).same e.key key = true
    · simp [h, HashTable.getChain, ofEntry]
    · rw [if_neg h, List.map_cons, List.getElem?_cons_succ, ih]
      simp [HashTable.getChain, h]

lemma scan_erase (es : List (HashTable.Entry Bytes V)) :
    (es.map (ofEntry sip lower)).eraseIdx (scan lower (tableHash sip lower key) key
      (es.map (ofEntry sip lower))) =
      (HashTable.setChain (hashing sip lower) key none es).map (ofEntry sip lower) := by
  induction es with
  | nil => rfl
  | cons e es ih =>
    rw [scan_cons]
    unfold HashTable.setChain
    by_cases h : (hashing sip lower).same e.key key = true
    · simp [h]
    · rw [if_neg h, if_neg h, List.map_cons, List.eraseIdx_cons_succ, ih, List.map_cons]

lemma scan_write (es : List (HashTable.Entry Bytes V)) (v : V) :
    (if scan lower (tableHash sip lower key) key (es.map (ofEntry sip lower)) < es.length
      then es.map (ofEntry sip lower)
      else es.map (ofEntry sip lower) ++ [⟨tableHash sip lower key, key, v⟩]).modify
        (scan lower (tableHash sip lower key) key (es.map (ofEntry sip lower)))
        (fun e => { e with value := v }) =
      (HashTable.setChain (hashing sip lower) key (some v) es).map (ofEntry sip lower) := by
  induction es with
  | nil => rfl
  | cons e es ih =>
    rw [scan_cons]
    unfold HashTable.setChain
    by_cases h : (hashing sip lower).same e.key key = true
    · simp [h, ofEntry]
    · simp only [if_neg h, List.length_cons, Nat.add_lt_add_iff_right, List.map_cons] at ih ⊢
      rw [← ih]
      split_ifs <;> simp

lemma scan_le (es : List (HashTable.Entry Bytes V)) :
    scan lower (tableHash sip lower key) key (es.map (ofEntry sip lower)) ≤ es.length := by
  have h : scan lower (tableHash sip lower key) key (es.map (ofEntry sip lower)) ≤
      (es.map (ofEntry sip lower)).length := List.findIdx_le_length
  rwa [List.length_map] at h

end Chain

structure Shows (sip : SipKey) (lower : Bool) (t : HashTab V) (T : HashTable.Table (hashing sip lower) V) :
    Prop where
  rows : t.rows = T.rows
  table : t.table = (List.range (T.rows + 1)).map fun i => (T.chain i).map (ofEntry sip lower)
  count : t.count = UInt32.ofNat T.entries.length

variable {t : HashTab V} {T : HashTable.Table (hashing sip lower) V}

lemma Shows.chain (h : Shows sip lower t T) {i : ℕ} (hi : i ≤ T.rows) :
    t.chain i = (T.chain i).map (ofEntry sip lower) := by
  simp [HashTab.chain, h.table, List.getElem?_range (Nat.lt_succ_of_le hi)]

lemma Shows.modify (h : Shows sip lower t T) {i : ℕ} {f : List (HashEntry V) → List (HashEntry V)}
    {count : UInt32} {T' : HashTable.Table (hashing sip lower) V} (hrows : T'.rows = T.rows)
    (hrow : f (t.chain i) = (T'.chain i).map (ofEntry sip lower))
    (hrest : ∀ j, j ≠ i → T'.chain j = T.chain j) (hcount : count = UInt32.ofNat T'.entries.length) :
    Shows sip lower (t.modify i f count) T' where
  rows := h.rows.trans hrows.symm
  table := by
    refine List.ext_getElem? fun j => ?_
    by_cases hj : j < T.rows + 1
    · have hchain := h.chain (Nat.le_of_lt_succ hj)
      simp only [HashTab.modify, List.getElem?_modify, List.getElem?_map, hrows, List.getElem?_range hj, h.table,
        Option.map_some, Option.map_eq_map]
      by_cases hij : i = j
      · subst hij
        rw [if_pos rfl, ← hrow, hchain]
      · rw [if_neg hij, hrest j (Ne.symm hij)]
    · have hout : (List.range (T.rows + 1))[j]? = none := by simp; omega
      simp [HashTab.modify, List.getElem?_modify, h.table, hrows, hout]
  count := hcount

variable {hval : Option UInt32}

lemma hashGet_shows (h : Shows sip lower t T) {key : KeyArg}
    (hlen : key.text.length < 2 ^ 32) (hhash : (lookupHash sip lower key hval).1 = tableHash sip lower key.text) :
    (hashGet sip lower t key hval).1 = T.get key.text := by
  have hchain := h.chain (i := (tableHash sip lower key.text).toNat &&& T.rows) Nat.and_le_right
  simp only [hashGet, findEntry, Found.entry, hhash, stored_eq hlen, h.rows, hchain]
  exact scan_get sip lower key.text _

lemma HashTab.modify_id (t : HashTab V) (i : ℕ) : t.modify i id t.count = t := by
  simp only [HashTab.modify, List.modify_id]

lemma modify_append (es : List (HashEntry V)) (e : HashEntry V) :
    (es ++ [e]).modify es.length (fun a => { a with value := e.value }) = es ++ [e] := by
  induction es with
  | nil => rfl
  | cons a es ih => rw [List.cons_append, List.length_cons, List.modify_succ_cons, ih]

lemma count_pred {n m : ℕ} (h : n + 1 = m) : UInt32.ofNat m - 1 = UInt32.ofNat n := by
  subst h
  rw [UInt32.ofNat_add]
  simp

lemma hashSet_shows (h : Shows sip lower t T) {key : KeyArg} {hval : UInt32} (v : Option V)
    (hlen : key.text.length < 2 ^ 32)
    (hhash : (lookupHash sip lower key (some hval)).1 = tableHash sip lower key.text) :
    Shows sip lower (hashSet sip lower t key hval v) (T.set key.text v) := by
  have hlength := T.set_entries_length key.text v
  have hrow : (tableHash sip lower key.text).toNat &&& T.rows ≤ T.rows := Nat.and_le_right
  have hset : (T.set key.text v).chain ((tableHash sip lower key.text).toNat &&& T.rows) =
      HashTable.setChain (hashing sip lower) key.text v
        (T.chain ((tableHash sip lower key.text).toNat &&& T.rows)) := if_pos rfl
  have hrest : ∀ j, j ≠ (tableHash sip lower key.text).toNat &&& T.rows →
      (T.set key.text v).chain j = T.chain j := fun j hj => if_neg hj
  have hget := scan_get sip lower key.text (T.chain ((tableHash sip lower key.text).toNat &&& T.rows))
  change _ = T.get key.text at hget
  rw [← hget, Option.isSome_map] at hlength
  have hchain := h.chain hrow
  simp only [hashSet, findEntry, Found.entry, hhash, stored_eq hlen, h.rows, hchain]
  clear hget
  generalize (tableHash sip lower key.text).toNat &&& T.rows = row at *
  generalize T.chain row = es at *
  have hle := scan_le sip lower key.text es
  cases v with
  | none =>
    have herase := scan_erase sip lower key.text es
    generalize scan lower (tableHash sip lower key.text) key.text (es.map (ofEntry sip lower)) = place at *
    simp only [hchain]
    by_cases hp : place < es.length
    · have hsome : ((es.map (ofEntry sip lower))[place]?).isSome = true := by simp [hp]
      rw [hsome] at hlength
      rw [if_pos hsome]
      refine h.modify rfl (by rw [hchain, hset, herase]) hrest ?_
      rw [h.count]
      exact count_pred hlength
    · have hnone : (es.map (ofEntry sip lower))[place]? = none := by simpa using hp
      rw [hnone] at hlength ⊢
      rw [if_neg (by simp), ← t.modify_id row]
      refine h.modify rfl ?_ hrest (by rw [h.count]; exact congrArg _ hlength.symm)
      rw [hset, ← herase, List.eraseIdx_of_length_le (by simpa using hp), hchain, id]
  | some v =>
    have hwrite := scan_write sip lower key.text es v
    generalize scan lower (tableHash sip lower key.text) key.text (es.map (ofEntry sip lower)) = place at *
    by_cases hp : place < es.length
    · have hsome : ((es.map (ofEntry sip lower))[place]?).isSome = true := by simp [hp]
      rw [hsome] at hlength
      rw [if_pos hp] at hwrite
      simp only [List.length_map, if_pos hp, hchain, if_pos hsome]
      refine h.modify rfl (by rw [hchain, hset, hwrite]) hrest ?_
      rw [h.count]
      exact congrArg _ (Nat.add_right_cancel hlength).symm
    · obtain rfl : place = es.length := by omega
      rw [if_neg hp] at hwrite
      have hnone : (es.map (ofEntry sip lower))[es.length]? = none := by simp
      rw [hnone] at hlength
      have happend := modify_append (es.map (ofEntry sip lower)) ⟨tableHash sip lower key.text, key.text, v⟩
      rw [List.length_map] at happend
      simp only [List.length_map, if_neg hp]
      -- the entry is added with its value, so writing the value changes nothing
      have hadd : Shows sip lower (t.modify row (fun es => es ++ [⟨tableHash sip lower key.text, key.text, v⟩])
          (t.count + 1)) (T.set key.text (some v)) := by
        refine h.modify rfl (by rw [hchain, hset, ← hwrite, happend]) hrest ?_
        rw [h.count, ← UInt32.ofNat_one, ← UInt32.ofNat_add]
        exact congrArg _ hlength.symm
      have hnew := hadd.chain (i := row) hrow
      rw [hset, ← hwrite, happend] at hnew
      rw [hnew, if_pos (by simp)]
      refine hadd.modify rfl ?_ (fun j _ => rfl) hadd.count
      rw [hnew, hset, ← hwrite]

section Iterate

variable (t : HashTab V)

def Iterator.rest (it : Iterator) : List (HashEntry V) :=
  (t.chain it.index).drop it.entry ++ (t.table.drop (it.index + 1)).flatten

def left : Option Iterator → List (HashEntry V)
  | none => []
  | some it => it.rest t

def Iterator.Stands (it : Iterator) : Prop := it.index ≤ t.rows ∧ it.entry < (t.chain it.index).length

variable {t}

lemma drop_flatten {i : ℕ} (hi : i ≤ t.rows) :
    (t.table.drop i).flatten = t.chain i ++ (t.table.drop (i + 1)).flatten := by
  have hlt : i < t.table.length := by rw [t.sized]; omega
  rw [List.drop_eq_getElem_cons hlt, List.flatten_cons]
  simp [HashTab.chain, hlt]

lemma seekRow_spec {n : ℕ} : ∀ {i : ℕ}, n + i = t.rows + 1 →
    left t (seekRow t n i) = (t.table.drop i).flatten ∧ ∀ it ∈ seekRow t n i, it.Stands t := by
  induction n with
  | zero =>
    intro i hi
    have hdrop : t.table.drop i = [] := List.drop_eq_nil_of_le (by rw [t.sized]; omega)
    exact ⟨by rw [hdrop]; rfl, fun it h => by cases h⟩
  | succ n ih =>
    intro i hi
    rw [drop_flatten (by omega)]
    unfold seekRow
    by_cases hempty : t.chain i = []
    · rw [if_pos hempty, hempty]
      exact ih (by omega)
    · have hrow : i ≤ t.rows := by omega
      rw [if_neg hempty]
      refine ⟨rfl, fun it h => ?_⟩
      obtain rfl := Option.some_inj.mp h
      exact ⟨hrow, List.length_pos_of_ne_nil hempty⟩

lemma hashNext_spec {it : Iterator} (h : it.Stands t) :
    left t (hashNext t it) = (it.rest t).tail ∧ ∀ it' ∈ hashNext t it, it'.Stands t := by
  obtain ⟨hindex, hentry⟩ := h
  have htail : (it.rest t).tail =
      (t.chain it.index).drop (it.entry + 1) ++ (t.table.drop (it.index + 1)).flatten := by
    rw [Iterator.rest, List.drop_eq_getElem_cons hentry, List.cons_append, List.tail_cons]
  rw [htail]
  unfold hashNext
  by_cases hmore : it.entry + 1 < (t.chain it.index).length
  · rw [if_pos hmore]
    refine ⟨rfl, fun it' h => ?_⟩
    obtain rfl := Option.some_inj.mp h
    exact ⟨hindex, hmore⟩
  · rw [if_neg hmore, List.drop_eq_nil_of_le (by omega), List.nil_append]
    exact seekRow_spec (by omega)

lemma visit_left (t : HashTab V) (n : ℕ) :
    left t (visit t n) = t.table.flatten.drop n ∧ ∀ it ∈ visit t n, it.Stands t := by
  induction n with
  | zero => exact seekRow_spec rfl
  | succ n ih =>
    obtain ⟨hleft, hstands⟩ := ih
    unfold visit
    cases hv : visit t n with
    | none =>
      rw [hv] at hleft
      refine ⟨?_, fun it h => by cases h⟩
      rw [← List.tail_drop, ← hleft]
      rfl
    | some it =>
      rw [hv] at hleft
      rw [← List.tail_drop, ← hleft]
      exact hashNext_spec (hstands it hv)

lemma visit_this (t : HashTab V) (n : ℕ) :
    (visit t n).map (fun it => it.this t) = (t.table.flatten[n]?).map some := by
  obtain ⟨hleft, hstands⟩ := visit_left t n
  have hhead : t.table.flatten[n]? = (left t (visit t n)).head? := by rw [hleft, List.head?_drop]
  rw [hhead]
  cases hv : visit t n with
  | none => rfl
  | some it =>
    have hentry := (hstands it hv).2
    simp only [left, Iterator.rest, Iterator.this, Option.map_some]
    rw [List.drop_eq_getElem_cons hentry, List.getElem?_eq_getElem hentry]
    rfl

end Iterate

inductive HashOp (V : Type*)
  | get (key : KeyArg) (hval : Option UInt32)
  | set (key : KeyArg) (hval : UInt32) (value : Option V)
  | setNp (key : KeyArg) (hval : UInt32) (value : Option V)

structure Session (V : Type*) where
  tab : HashTab V
  reported : List (Bytes × UInt32)

def Session.start (size : ℕ) : Session V := ⟨hashCreate size, []⟩

def step (sip : SipKey) (lower : Bool) (s : Session V) : HashOp V → Session V
  | .get key hval =>
    { s with reported := s.reported ++ (hashGet sip lower s.tab key hval).2.toList.map (key.text, ·) }
  | .set key hval value => { s with tab := hashSet sip lower s.tab key hval value }
  | .setNp key hval value => { s with tab := hashSet sip lower s.tab key hval value }

def Reported (lower : Bool) (s : Session V) (key : KeyArg) (hval : UInt32) : Prop :=
  hval = 0 ∨ ∃ r ∈ s.reported, canon lower r.1 = canon lower key.text ∧ r.2 = hval

def Used (lower : Bool) (s : Session V) : HashOp V → Prop
  | .get key hval => ∀ h ∈ hval, Reported lower s key h
  | .set key hval _ => Reported lower s key hval
  | .setNp key hval _ => Reported lower s key hval

/-- The key is shorter than the table counts, and no entry that the scan takes for the key's has
another key. -/
def Clear (sip : SipKey) (lower : Bool) (t : HashTab V) (key : KeyArg) : Prop :=
  key.text.length < 2 ^ 32 ∧ ∀ es ∈ t.table, ∀ e ∈ es,
    entryIs lower (tableHash sip lower key.text) key.text e = true → canon lower e.key = canon lower key.text

def Admitted (sip : SipKey) (lower : Bool) (s : Session V) : HashOp V → Prop
  | .get key _ => Clear sip lower s.tab key
  | .set key _ value => Clear sip lower s.tab key ∧ (value.isSome → s.tab.count ≠ 0xFFFFFFFF)
  | .setNp key _ value => Clear sip lower s.tab key ∧ (value.isSome → s.tab.count ≠ 0xFFFFFFFF)

instance (s : Session V) (key : KeyArg) (hval : UInt32) : Decidable (Reported lower s key hval) :=
  inferInstanceAs (Decidable (_ ∨ _))

instance (s : Session V) : ∀ op, Decidable (Used lower s op)
  | .get _ hval => Option.decidableForallMem hval
  | .set _ _ _ => inferInstanceAs (Decidable (Reported _ _ _ _))
  | .setNp _ _ _ => inferInstanceAs (Decidable (Reported _ _ _ _))

instance (t : HashTab V) (key : KeyArg) : Decidable (Clear sip lower t key) := inferInstanceAs (Decidable (_ ∧ _))

instance (s : Session V) : ∀ op, Decidable (Admitted sip lower s op)
  | .get _ _ => inferInstanceAs (Decidable (Clear _ _ _ _))
  | .set _ _ _ => inferInstanceAs (Decidable (_ ∧ _))
  | .setNp _ _ _ => inferInstanceAs (Decidable (_ ∧ _))

def record (lower : Bool) (m : Bytes → Option V) : HashOp V → Bytes → Option V
  | .get _ _ => m
  | .set key _ value => Function.update m (canon lower key.text) value
  | .setNp key _ value => Function.update m (canon lower key.text) value

def lastSet (lower : Bool) (ops : List (HashOp V)) : Bytes → Option V := ops.foldl (record lower) fun _ => none

structure IsMap (sip : SipKey) (lower : Bool) (m : Bytes → Option V) (s : Session V) : Prop where
  get : ∀ key hval, (∀ h ∈ hval, Reported lower s key h) → Clear sip lower s.tab key →
    (hashGet sip lower s.tab key hval).1 = m (canon lower key.text)
  count : s.tab.count.toNat = Set.ncard {k | m k ≠ none}
  visits : ∃ seen : List (HashEntry V),
    (∀ n, (visit s.tab n).map (fun it => it.this s.tab) = (seen[n]?).map some) ∧
    (seen.map fun e => canon lower e.key).Nodup ∧
    ∀ k v, m k = some v ↔ ∃ e ∈ seen, canon lower e.key = k ∧ e.value = v

/-- The invariant of a run: the table shows a chained table whose entries are the map's, and what was
reported is what a lookup would compute. -/
structure Tracks (sip : SipKey) (lower : Bool) (m : Bytes → Option V) (s : Session V)
    (T : HashTable.Table (hashing sip lower) V) : Prop where
  shows : Shows sip lower s.tab T
  few : T.entries.length < 2 ^ 32
  graph : ∀ k v, m k = some v ↔ ∃ e ∈ T.entries, canon lower e.key = k ∧ e.value = v
  reported : sip = none → ∀ r ∈ s.reported, r.2 = tableHash sip lower r.1

variable {m : Bytes → Option V} {s : Session V}

lemma Tracks.lookup (h : Tracks sip lower m s T) {key : KeyArg} (hlen : key.text.length < 2 ^ 32) (hused : ∀ h ∈ hval, Reported lower s key h) :
    (lookupHash sip lower key hval).1 = tableHash sip lower key.text ∧
      (sip = none → ∀ r ∈ (lookupHash sip lower key hval).2, r = tableHash sip lower key.text) := by
  cases hsip : sip with
  | some k => exact ⟨by simp only [lookupHash, stored_eq hlen], fun h => by cases h⟩
  | none =>
    subst hsip
    cases hval with
    | none => exact ⟨rfl, fun _ r hr => by cases hr⟩
    | some v =>
      by_cases hv : v = 0
      · simp [lookupHash, hv]
      · rcases hused v rfl with h0 | ⟨r, hr, hkey, rfl⟩
        · exact absurd h0 hv
        · have hval : r.2 = tableHash none lower key.text := by
            rw [h.reported rfl r hr, tableHash_canon hkey]
          simp [lookupHash, hval]

lemma Shows.clear (h : Shows sip lower t T) {key : KeyArg} (hclear : Clear sip lower t key)
    {e : HashTable.Entry Bytes V} (he : e ∈ T.entries) (hs : (hashing sip lower).same e.key key.text = true) :
    canon lower e.key = canon lower key.text := by
  obtain ⟨i, hi⟩ := HashTable.Table.mem_entries.mp he
  have hrow : i ≤ T.rows := T.placed i e hi ▸ Nat.and_le_right
  refine hclear.2 (t.chain i) ?_ (ofEntry sip lower e) ?_ ((entryIs_ofEntry _ e).trans hs)
  · have hlt : i < t.table.length := by rw [t.sized, h.rows]; omega
    simp [HashTab.chain, hlt]
  · rw [h.chain hrow]
    exact List.mem_map_of_mem hi

lemma Shows.flatten (h : Shows sip lower t T) : t.table.flatten = T.entries.map (ofEntry sip lower) := by
  rw [h.table, HashTable.Table.entries, List.map_flatMap, List.flatMap]

lemma Tracks.nodup (h : Tracks sip lower m s T) :
    (s.tab.table.flatten.map fun e => canon lower e.key).Nodup := by
  rw [h.shows.flatten, List.map_map]
  refine List.pairwise_map.mpr (T.entries_distinct.imp fun {a b} hab hc => ?_)
  have hs : (hashing sip lower).same a.key b.key = true := same_of_canon hc
  rw [hs] at hab
  cases hab

lemma Tracks.isMap (h : Tracks sip lower m s T) : IsMap sip lower m s where
  get := by
    intro key hval hused hclear
    rw [hashGet_shows h.shows hclear.1 (h.lookup hclear.1 hused).1]
    cases hget : T.get key.text with
    | some v =>
      obtain ⟨i, e, he, hs, hv⟩ := HashTable.Table.entry_of_get hget
      have hmem := HashTable.Table.mem_entries.mpr ⟨i, he⟩
      exact ((h.graph _ v).mpr ⟨e, hmem, h.shows.clear hclear hmem hs, hv⟩).symm
    | none =>
      cases hm : m (canon lower key.text) with
      | none => rfl
      | some v =>
        obtain ⟨e, he, hkey, -⟩ := (h.graph _ v).mp hm
        obtain ⟨i, hi⟩ := HashTable.Table.mem_entries.mp he
        rw [← T.get_congr (same_of_canon hkey), T.get_entry hi] at hget
        cases hget
  count := by
    have hset : {k | m k ≠ none} =
        ((s.tab.table.flatten.map fun e => canon lower e.key).toFinset : Set Bytes) := by
      ext k
      rw [h.shows.flatten]
      simp [Option.ne_none_iff_exists', h.graph, ofEntry]
    rw [hset, Set.ncard_coe_finset, List.toFinset_card_of_nodup h.nodup, List.length_map, h.shows.flatten,
      List.length_map, h.shows.count]
    exact UInt32.toNat_ofNat_of_lt h.few
  visits := by
    refine ⟨s.tab.table.flatten, visit_this s.tab, h.nodup, fun k v => ?_⟩
    rw [h.graph, h.shows.flatten]
    simp [ofEntry]

lemma Tracks.set (h : Tracks sip lower m s T) {key : KeyArg} {hval : UInt32} {v : Option V}
    (hused : Reported lower s key hval) (hclear : Clear sip lower s.tab key)
    (hcount : v.isSome → s.tab.count ≠ 0xFFFFFFFF) :
    Tracks sip lower (Function.update m (canon lower key.text) v)
      { s with tab := hashSet sip lower s.tab key hval v } (T.set key.text v) where
  shows := by
    refine hashSet_shows h.shows v hclear.1 (h.lookup hclear.1 fun r hr => ?_).1
    obtain rfl := Option.some_inj.mp hr
    exact hused
  few := by
    have hlength := T.set_entries_length key.text v
    cases v with
    | none => exact lt_of_le_of_lt (Nat.le.intro hlength) h.few
    | some x =>
      have hfew := h.few
      have hne : T.entries.length ≠ 0xFFFFFFFF := by
        intro hc
        apply hcount rfl
        rw [h.shows.count, hc]
        rfl
      simp only [Option.isSome_some, Bool.toNat_true] at hlength
      omega
  graph := by
    have hfresh : ∀ e ∈ T.entries, (hashing sip lower).same e.key key.text = false ↔
        canon lower e.key ≠ canon lower key.text := by
      intro e he
      constructor
      · intro hs hc
        rw [same_of_canon hc] at hs
        cases hs
      · intro hc
        by_contra hs
        exact hc (h.shows.clear hclear he (Bool.eq_true_of_not_eq_false hs))
    -- an entry that the call wrote has the canonical key that was given
    have hown : ∀ e ∈ (T.set key.text v).entries, (e ∈ T.entries ∧ canon lower e.key ≠ canon lower key.text) ∨
        canon lower e.key = canon lower key.text ∧ v = some e.value := by
      intro e he
      rcases HashTable.Table.of_mem_entries_set he with ⟨hold, hs⟩ | ⟨hv, hkey | ⟨e', he', hkey, hs⟩⟩
      · exact .inl ⟨hold, (hfresh e hold).mp hs⟩
      · exact .inr ⟨by rw [hkey], hv⟩
      · exact .inr ⟨hkey ▸ h.shows.clear hclear he' hs, hv⟩
    intro k x
    constructor
    · intro hk
      by_cases hkey : k = canon lower key.text
      · subst hkey
        rw [Function.update_self] at hk
        have hget : (T.set key.text v).get key.text = some x := by
          rw [T.get_set, if_pos (HashTable.Hashing.same_refl _ _), hk]
        obtain ⟨i, e, he, hs, hv⟩ := HashTable.Table.entry_of_get hget
        have hmem := HashTable.Table.mem_entries.mpr ⟨i, he⟩
        rcases hown e hmem with ⟨hold, hne⟩ | ⟨hc, -⟩
        · rw [(hfresh e hold).mpr hne] at hs
          cases hs
        · exact ⟨e, hmem, hc, hv⟩
      · rw [Function.update_of_ne hkey] at hk
        obtain ⟨e, he, rfl, hv⟩ := (h.graph k x).mp hk
        exact ⟨e, HashTable.Table.mem_entries_set_of_ne he ((hfresh e he).mpr hkey), rfl, hv⟩
    · rintro ⟨e, he, rfl, rfl⟩
      rcases hown e he with ⟨hold, hne⟩ | ⟨hc, hv⟩
      · rw [Function.update_of_ne hne]
        exact (h.graph _ _).mpr ⟨e, hold, rfl, rfl⟩
      · rw [hc, Function.update_self, hv]
  reported := h.reported

lemma Tracks.get (h : Tracks sip lower m s T) {key : KeyArg}
    (hused : ∀ h ∈ hval, Reported lower s key h) (hclear : Clear sip lower s.tab key) :
    Tracks sip lower m (step sip lower s (.get key hval)) T where
  shows := h.shows
  few := h.few
  graph := h.graph
  reported := by
    intro hsip r hr
    rcases List.mem_append.mp hr with hr | hr
    · exact h.reported hsip r hr
    · obtain ⟨v, hv, rfl⟩ := List.mem_map.mp hr
      exact (h.lookup hclear.1 hused).2 hsip v (Option.mem_toList.mp hv)

lemma Tracks.step (h : Tracks sip lower m s T) {op : HashOp V} (hused : Used lower s op)
    (hok : Admitted sip lower s op) :
    ∃ T', Tracks sip lower (record lower m op) (PjHash.step sip lower s op) T' := by
  cases op with
  | get key hval => exact ⟨T, h.get hused hok⟩
  | set key hval v => exact ⟨_, h.set hused hok.1 hok.2⟩
  | setNp key hval v => exact ⟨_, h.set hused hok.1 hok.2⟩

lemma Tracks.run {ops : List (HashOp V)} : ∀ {m : Bytes → Option V} {s : Session V}
    {T : HashTable.Table (hashing sip lower) V}, Tracks sip lower m s T →
    Guarded (PjHash.step sip lower) (fun s op => Used lower s op ∧ Admitted sip lower s op) s ops →
    ∃ T', Tracks sip lower (ops.foldl (record lower) m) (run (PjHash.step sip lower) s ops) T' := by
  induction ops with
  | nil => exact fun h _ => ⟨_, h⟩
  | cons op ops ih =>
    intro m s T h hok
    obtain ⟨T', h'⟩ := h.step hok.1.1 hok.1.2
    exact ih h' hok.2

lemma tracks_start (sip : SipKey) (lower : Bool) (size : ℕ) :
    Tracks sip lower (fun _ => none) (Session.start size : Session V) (create (hashing sip lower) size) := by
  have hpos : growTable 32 8 size - 1 + 1 = growTable 32 8 size :=
    Nat.succ_pred_eq_of_pos (growTable_pos (by decide))
  have hnone : (create (hashing sip lower) size : HashTable.Table _ V).entries = [] := by
    simp [HashTable.Table.entries, create, HashTable.Table.empty]
  refine ⟨⟨rfl, ?_, ?_⟩, ?_, ?_, ?_⟩
  · simp only [Session.start, hashCreate, create, HashTable.Table.empty, hpos, List.map_nil]
    rw [List.map_const', List.length_range]
  · rw [hnone]
    rfl
  · rw [hnone]
    exact Nat.two_pow_pos 32
  · simp [hnone]
  · intro _ r hr
    cases hr

end PjProject.PjHash
