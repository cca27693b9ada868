import PjProject.PjHash
import PjProject.Transition

/-!
# The hash table of the library

`pj_hash_get`, `pj_hash_set` and their variants share one walk over a chain,
`find_entry`. Values are what the table's pointers point to, with no value for
`NULL`; a place in a chain stands for the pointer to the pointer. A new entry is
kept in the pool or in the caller's buffer, which the model does not tell apart.
-/
namespace PjProject.PjHash

variable {V : Type*}

def keyString : UInt32 := 0xFFFFFFFF

structure KeyArg where
  mem : Bytes
  keylen : UInt32

def KeyArg.text (k : KeyArg) : Bytes :=
  if k.keylen = keyString then k.mem.takeWhile (· ≠ 0) else k.mem.take k.keylen.toNat

/-- The bytes that are compared and copied: the length of a string is cut to `unsigned`. -/
def KeyArg.stored (k : KeyArg) : Bytes := k.text.take (k.text.length % 2 ^ 32)

def hashCalc (hval : UInt32) (key : Bytes) : UInt32 :=
  key.foldl (fun hash c => hash * 33 + c.toUInt32) hval

/-- `pj_hash_calc_tolower`: here the bytes are of the signed type `char`. -/
def hashCalcTolower (hval : UInt32) (key : Bytes) : UInt32 :=
  key.foldl (fun hval c => hval * 33 + (toLower c).toInt8.toInt32.toUInt32) hval

/-- `HASH_USE_SIPHASH`: the process key, or nothing where the tables are not keyed. -/
abbrev SipKey := Option (UInt64 × UInt64)

def tableHash (sip : SipKey) (lower : Bool) (key : Bytes) : UInt32 :=
  let key := if lower then lowerAll key else key
  match sip with
  | some (k0, k1) =>
    let b := siphash24 k0 k1 key
    b.toUInt32 ^^^ (b >>> 32).toUInt32
  | none => hashCalc 0 key

/-- The first half of `find_entry`: the hash to search for, and what is left in `*hval`. -/
def lookupHash (sip : SipKey) (lower : Bool) (key : KeyArg) (hval : Option UInt32) :
    UInt32 × Option UInt32 :=
  match sip with
  | some _ =>
    (tableHash sip lower key.stored, hval.map fun h =>
      if h = 0 then if lower then hashCalcTolower 0 key.stored else hashCalc 0 key.stored else h)
  | none =>
    let hash := tableHash sip lower key.text
    match hval with
    | none => (hash, none)
    | some h => if h = 0 then (hash, some hash) else (h, some h)

structure HashEntry (V : Type*) where
  hash : UInt32
  key : Bytes
  value : V

structure HashTab (V : Type*) where
  rows : ℕ
  table : List (List (HashEntry V))
  count : UInt32
  sized : table.length = rows + 1

def HashTab.chain (t : HashTab V) (i : ℕ) : List (HashEntry V) := t.table.getD i []

def HashTab.modify (t : HashTab V) (i : ℕ) (f : List (HashEntry V) → List (HashEntry V))
    (count : UInt32) : HashTab V :=
  { t with table := t.table.modify i f, count := count, sized := by rw [List.length_modify, t.sized] }

def entryIs (lower : Bool) (hash : UInt32) (key : Bytes) (e : HashEntry V) : Bool :=
  e.hash = hash && e.key.length = key.length &&
    (if lower then strnicmpEq key.length e.key key else e.key = key)

def scan (lower : Bool) (hash : UInt32) (key : Bytes) (es : List (HashEntry V)) : ℕ :=
  es.findIdx (entryIs lower hash key)

/-- What `find_entry` leaves: the table, the row and the place that `p_entry` points to, and
`*hval`. -/
structure Found (V : Type*) where
  ht : HashTab V
  row : ℕ
  place : ℕ
  hval : Option UInt32

def Found.entry (f : Found V) : Option (HashEntry V) := (f.ht.chain f.row)[f.place]?

def findEntry (sip : SipKey) (lower : Bool) (t : HashTab V) (key : KeyArg) (val : Option V)
    (hval : Option UInt32) : Found V :=
  let hash := (lookupHash sip lower key hval).1
  let row := hash.toNat &&& t.rows
  let place := scan lower hash key.stored (t.chain row)
  let ht := match val with
    | none => t
    | some v =>
      if place < (t.chain row).length then t
      else t.modify row (fun es => es ++ [⟨hash, key.stored, v⟩]) (t.count + 1)
  ⟨ht, row, place, (lookupHash sip lower key hval).2⟩

/-- `pj_hash_get` and `pj_hash_get_lower`: the value, and what is left in `*hval`. -/
def hashGet (sip : SipKey) (lower : Bool) (t : HashTab V) (key : KeyArg) (hval : Option UInt32) :
    Option V × Option UInt32 :=
  let found := findEntry sip lower t key none hval
  (found.entry.map (·.value), found.hval)

/-- `hash_set`, behind `pj_hash_set`, `pj_hash_set_np` and their variants. -/
def hashSet (sip : SipKey) (lower : Bool) (t : HashTab V) (key : KeyArg) (hval : UInt32)
    (value : Option V) : HashTab V :=
  let found := findEntry sip lower t key value (some hval)
  if found.entry.isSome then
    match value with
    | none => found.ht.modify found.row (fun es => es.eraseIdx found.place) (found.ht.count - 1)
    | some v =>
      found.ht.modify found.row (fun es => es.modify found.place fun e => { e with value := v })
        found.ht.count
  else found.ht

/-- `pj_hash_iterator_t`: a row and a place in its chain. -/
structure Iterator where
  index : ℕ
  entry : ℕ

/-- The loop over the rows that `pj_hash_first` and `pj_hash_next` share, with the rows left. -/
def seekRow (t : HashTab V) : ℕ → ℕ → Option Iterator
  | 0, _ => none
  | left + 1, index => if t.chain index = [] then seekRow t left (index + 1) else some ⟨index, 0⟩

def hashFirst (t : HashTab V) : Option Iterator := seekRow t (t.rows + 1) 0

def hashNext (t : HashTab V) (it : Iterator) : Option Iterator :=
  if it.entry + 1 < (t.chain it.index).length then some { it with entry := it.entry + 1 }
  else seekRow t (t.rows - it.index) (it.index + 1)

/-- The entry an iterator stands on; `pj_hash_this` gives its value. -/
def Iterator.this (t : HashTab V) (it : Iterator) : Option (HashEntry V) :=
  (t.chain it.index)[it.entry]?

/-- The iterator after `n` calls of `pj_hash_next`. -/
def visit (t : HashTab V) : ℕ → Option Iterator
  | 0 => hashFirst t
  | n + 1 => (visit t n).bind (hashNext t)

lemma growTable_pos {n size : ℕ} : ∀ {tableSize : ℕ}, 0 < tableSize → 0 < growTable n tableSize size := by
  induction n with
  | zero => exact id
  | succ n ih =>
    intro tableSize h
    unfold growTable
    split_ifs
    · exact ih (by omega)
    · omega

def hashCreate (size : ℕ) : HashTab V where
  rows := growTable 32 8 size - 1
  table := List.replicate (growTable 32 8 size) []
  count := 0
  sized := by
    rw [List.length_replicate]
    exact (Nat.succ_pred_eq_of_pos (growTable_pos (by decide))).symm

end PjProject.PjHash
