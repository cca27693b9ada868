import PjProject.HashTable
import PjProject.PjString

/-!
# Hash tables with case-insensitive keys

`pj_hash_get_lower` and `pj_hash_set_lower`: entries are placed by SipHash-2-4 of
the lowercased key under the process key and compared by hash, length and
`strncasecmp`.
-/
namespace PjProject.PjHash

structure SipState where
  v0 : UInt64
  v1 : UInt64
  v2 : UInt64
  v3 : UInt64

def sipRotl (x : UInt64) (b : UInt64) : UInt64 := (x <<< b) ||| (x >>> (64 - b))

def sipRound (s : SipState) : SipState :=
  let v0 := s.v0 + s.v1
  let v1 := sipRotl s.v1 13 ^^^ v0
  let v0 := sipRotl v0 32
  let v2 := s.v2 + s.v3
  let v3 := sipRotl s.v3 16 ^^^ v2
  let v0 := v0 + v3
  let v3 := sipRotl v3 21 ^^^ v0
  let v2 := v2 + v1
  let v1 := sipRotl v1 17 ^^^ v2
  let v2 := sipRotl v2 32
  ⟨v0, v1, v2, v3⟩

def sipWord : Bytes → UInt64
  | [] => 0
  | c :: cs => c.toUInt64 ||| (sipWord cs <<< 8)

def sipAbsorb (s : SipState) (m : UInt64) : SipState :=
  let s := sipRound (sipRound { s with v3 := s.v3 ^^^ m })
  { s with v0 := s.v0 ^^^ m }

/-- `siphash24` of bytes that are already lowercased where that is asked for. -/
def siphash24 (k0 k1 : UInt64) (data : Bytes) : UInt64 :=
  let start : SipState := ⟨0x736f6d6570736575 ^^^ k0, 0x646f72616e646f6d ^^^ k1,
    0x6c7967656e657261 ^^^ k0, 0x7465646279746573 ^^^ k1⟩
  let blocks := data.length / 8
  let s := (List.range blocks).foldl
    (fun s i => sipAbsorb s (sipWord ((data.drop (8 * i)).take 8))) start
  let b := (UInt64.ofNat data.length <<< 56) ||| sipWord (data.drop (8 * blocks))
  let s := sipAbsorb s b
  let s := { s with v2 := s.v2 ^^^ 0xff }
  let s := sipRound (sipRound (sipRound (sipRound s)))
  s.v0 ^^^ s.v1 ^^^ s.v2 ^^^ s.v3

/-- `calc_table_hash(key, len, PJ_TRUE)` -/
def calcTableHash (k0 k1 : UInt64) (key : Bytes) : ℕ :=
  let b := siphash24 k0 k1 (lowerAll key)
  (b.toUInt32 ^^^ (b >>> 32).toUInt32).toNat

/-- How `find_entry` with `lower` set tells keys apart. -/
def lowerHashing (k0 k1 : UInt64) : HashTable.Hashing Bytes where
  hash := calcTableHash k0 k1
  eqv := stricmpEq
  refl := stricmpEq_refl
  symm := fun _ _ => stricmpEq_symm
  trans := fun _ _ _ => stricmpEq_trans

lemma lowerHashing_same {k0 k1 : UInt64} {a b : Bytes} (h : lowerAll a = lowerAll b) :
    (lowerHashing k0 k1).same a b = true := by
  simp [HashTable.Hashing.same, lowerHashing, calcTableHash, h, stricmpEq_of_lower h]

lemma length_eq_of_same {k0 k1 : UInt64} {a b : Bytes}
    (h : (lowerHashing k0 k1).same a b = true) : a.length = b.length := by
  simp only [HashTable.Hashing.same, lowerHashing, stricmpEq, Bool.and_eq_true,
    decide_eq_true_eq] at h
  exact h.2.1

/-- The doubling loop of `pj_hash_create`. -/
def growTable : ℕ → ℕ → ℕ → ℕ
  | 0, tableSize, _ => tableSize
  | n + 1, tableSize, size =>
    if 2 * tableSize < size ∧ 2 * tableSize ≤ (2 ^ 32 - 1) / 2 then growTable n (2 * tableSize) size
    else 2 * tableSize

/-- `pj_hash_create`: the mask is one less than a power of two. -/
def create {V : Type*} (H : HashTable.Hashing Bytes) (size : ℕ) : HashTable.Table H V :=
  HashTable.Table.empty (growTable 32 8 size - 1)

end PjProject.PjHash
