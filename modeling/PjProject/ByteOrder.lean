import Mathlib.Tactic

/-!
# Big-endian fields and padding

Fixed-width unsigned fields in network byte order, read at an offset of a byte
list, and lengths rounded up to a multiple of four.
-/
namespace ByteOrder

def put16 (v : UInt16) : List UInt8 := [UInt8.ofNat (v.toNat / 256), UInt8.ofNat v.toNat]

def put32 (v : UInt32) : List UInt8 :=
  [UInt8.ofNat (v.toNat / 2 ^ 24), UInt8.ofNat (v.toNat / 2 ^ 16),
    UInt8.ofNat (v.toNat / 2 ^ 8), UInt8.ofNat v.toNat]

def byteAt (buf : List UInt8) (pos : ℕ) : UInt8 := buf.getD pos 0

def get16 (buf : List UInt8) (pos : ℕ) : UInt16 :=
  UInt16.ofNat ((byteAt buf pos).toNat * 256 + (byteAt buf (pos + 1)).toNat)

def get32 (buf : List UInt8) (pos : ℕ) : UInt32 :=
  UInt32.ofNat ((byteAt buf pos).toNat * 2 ^ 24 + (byteAt buf (pos + 1)).toNat * 2 ^ 16 +
    (byteAt buf (pos + 2)).toNat * 2 ^ 8 + (byteAt buf (pos + 3)).toNat)

@[simp] lemma put16_length (v : UInt16) : (put16 v).length = 2 := rfl

@[simp] lemma put32_length (v : UInt32) : (put32 v).length = 4 := rfl

variable (s : List UInt8)

/-- A byte past the first list is a byte of the second one. -/
lemma byteAt_append_right (t : List UInt8) (pos : ℕ) (h : s.length ≤ pos) :
    byteAt (s ++ t) pos = byteAt t (pos - s.length) := by
  simp [byteAt, List.getD_eq_getElem?_getD, List.getElem?_append_right h]

/-- A byte of the first list is not affected by what follows. -/
lemma byteAt_append_left (t : List UInt8) (pos : ℕ) (h : pos < s.length) :
    byteAt (s ++ t) pos = byteAt s pos := by
  simp [byteAt, List.getD_eq_getElem?_getD, List.getElem?_append_left h]

lemma get16_append_left (t : List UInt8) (pos : ℕ) (h : pos + 1 < s.length) :
    get16 (s ++ t) pos = get16 s pos := by
  rw [get16, byteAt_append_left s t pos (by omega), byteAt_append_left s t (pos + 1) h, get16]

lemma get16_append_right (t : List UInt8) (pos : ℕ) (h : s.length ≤ pos) :
    get16 (s ++ t) pos = get16 t (pos - s.length) := by
  have h1 : pos + 1 - s.length = pos - s.length + 1 := by omega
  rw [get16, byteAt_append_right s t pos h, byteAt_append_right s t (pos + 1) (by omega), h1, get16]

lemma get32_append_left (t : List UInt8) (pos : ℕ) (h : pos + 3 < s.length) :
    get32 (s ++ t) pos = get32 s pos := by
  rw [get32, byteAt_append_left s t pos (by omega), byteAt_append_left s t (pos + 1) (by omega),
    byteAt_append_left s t (pos + 2) (by omega), byteAt_append_left s t (pos + 3) h, get32]

lemma get32_append_right (t : List UInt8) (pos : ℕ) (h : s.length ≤ pos) :
    get32 (s ++ t) pos = get32 t (pos - s.length) := by
  have h1 : pos + 1 - s.length = pos - s.length + 1 := by omega
  have h2 : pos + 2 - s.length = pos - s.length + 2 := by omega
  have h3 : pos + 3 - s.length = pos - s.length + 3 := by omega
  rw [get32, byteAt_append_right s t pos h, byteAt_append_right s t (pos + 1) (by omega),
    byteAt_append_right s t (pos + 2) (by omega), byteAt_append_right s t (pos + 3) (by omega),
    h1, h2, h3, get32]

@[simp] lemma get16_put16 (v : UInt16) (tail : List UInt8) : get16 (put16 v ++ tail) 0 = v := by
  apply UInt16.toNat_inj.1
  have h := v.toNat_lt
  simp only [get16, put16, byteAt, List.cons_append, List.nil_append, List.getD_cons_zero,
    List.getD_cons_succ, UInt16.toNat_ofNat', UInt8.toNat_ofNat']
  omega

@[simp] lemma get32_put32 (v : UInt32) (tail : List UInt8) : get32 (put32 v ++ tail) 0 = v := by
  apply UInt32.toNat_inj.1
  have h := v.toNat_lt
  simp only [get32, put32, byteAt, List.cons_append, List.nil_append, List.getD_cons_zero,
    List.getD_cons_succ, UInt32.toNat_ofNat', UInt8.toNat_ofNat']
  omega

/-- The `n` bytes from offset `pos` on. -/
def slice (buf : List UInt8) (pos n : ℕ) : List UInt8 :=
  (List.range n).map fun i => byteAt buf (pos + i)

@[simp] lemma slice_length (buf : List UInt8) (pos n : ℕ) : (slice buf pos n).length = n := by
  simp [slice]

lemma slice_append_right (t : List UInt8) (pos n : ℕ) (h : s.length ≤ pos) :
    slice (s ++ t) pos n = slice t (pos - s.length) n := by
  apply List.map_congr_left
  intro i _
  rw [byteAt_append_right s t (pos + i) (by omega), show pos + i - s.length = pos - s.length + i by omega]

lemma slice_append_left (t : List UInt8) (pos n : ℕ) (h : pos + n ≤ s.length) :
    slice (s ++ t) pos n = slice s pos n := by
  apply List.map_congr_left
  intro i hi
  exact byteAt_append_left s t (pos + i) (by have := List.mem_range.mp hi; omega)

@[simp] lemma slice_append (t : List UInt8) : slice (s ++ t) 0 s.length = s := by
  apply List.ext_getElem
  · simp
  · intro i h1 h2
    simp [slice, byteAt, List.getElem?_append_left h2, List.getElem?_eq_getElem h2]

/-- `n` rounded up to a multiple of four. -/
def align4 (n : ℕ) : ℕ := (n + 3) / 4 * 4

variable (n : ℕ)

lemma align4_mod : align4 n % 4 = 0 := by
  unfold align4
  omega

lemma le_align4 : n ≤ align4 n := by
  unfold align4
  omega

lemma align4_of_dvd {n : ℕ} (h : n % 4 = 0) : align4 n = n := by
  unfold align4
  omega

lemma align4_add_four : align4 (n + 4) = align4 n + 4 := by
  unfold align4
  omega

@[simp] lemma align4_align4 : align4 (align4 n) = align4 n :=
  align4_of_dvd (align4_mod n)

/-- The filling after `n` bytes that reaches the next multiple of four. -/
def padding (fill : UInt8) (n : ℕ) : List UInt8 :=
  if n % 4 = 0 then [] else List.replicate (4 - n % 4) fill

lemma padding_length (fill : UInt8) (n : ℕ) : n + (padding fill n).length = align4 n := by
  unfold padding align4
  split_ifs with h
  · simp only [List.length_nil]
    omega
  · simp only [List.length_replicate]
    omega

def xorMask (mask s : List UInt8) : List UInt8 := List.zipWith (· ^^^ ·) s mask

lemma xorMask_length (mask s : List UInt8) (h : s.length ≤ mask.length) :
    (xorMask mask s).length = s.length := by
  simp [xorMask, h]

lemma xorMask_xorMask (mask s : List UInt8) (h : s.length ≤ mask.length) :
    xorMask mask (xorMask mask s) = s := by
  induction s generalizing mask with
  | nil => simp [xorMask]
  | cons a s ih =>
    cases mask with
    | nil => simp at h
    | cons m mask =>
      have hs : s.length ≤ mask.length := by simpa using h
      have ha : a ^^^ m ^^^ m = a := by rw [UInt8.xor_assoc, UInt8.xor_self, UInt8.xor_zero]
      have := ih mask hs
      simp only [xorMask, List.zipWith_cons_cons] at this ⊢
      rw [this, ha]

end ByteOrder
