import PjProject.ScannerUnescape

/-!
# Percent escaping

`pj_strncpy2_escape` and the two functions that take its escapes away again. A buffer of
`max` bytes is the room that is left in it.
-/
namespace PjProject.StrEscape

open SipParser

def hexDigit (v : UInt8) : UInt8 := if v < 10 then 48 + v else 87 + v

/-- The loop of `pj_strncpy2_escape`: what it writes, and whether it comes to the end of the source. -/
def escapeLoop (unres : UInt8 → Bool) : ℕ → Bytes → Bytes × Bool
  | _, [] => ([], true)
  | 0, _ :: _ => ([], false)
  | room + 1, c :: s =>
    if unres c then
      let r := escapeLoop unres room s
      (c :: r.1, r.2)
    else if 2 ≤ room then
      let r := escapeLoop unres (room - 2) s
      (37 :: hexDigit ((c &&& 0xF0) >>> 4) :: hexDigit (c &&& 0x0F) :: r.1, r.2)
    else ([], false)

/-- `pj_strncpy2_escape`: the bytes written and the result. -/
def strncpy2Escape (src : Bytes) (max : ℤ) (unres : UInt8 → Bool) : Bytes × ℤ :=
  if max < src.length then ([], -1)
  else
    let r := escapeLoop unres max.toNat src
    (r.1, if r.2 then r.1.length else -1)

def strcpyUnescape : Bytes → Bytes
  | [] => []
  | c :: s =>
    if c = 37 ∧ 2 ≤ s.length ∧ isXdigit (s.getD 0 0) ∧ isXdigit (s.getD 1 0) then
      (hexDigitToVal (s.getD 0 0) * 16 + hexDigitToVal (s.getD 1 0)) :: strcpyUnescape (s.drop 2)
    else c :: strcpyUnescape s
termination_by s => s.length
decreasing_by
  · simp only [List.length_drop, List.length_cons]
    omega
  · simp

/-- `pj_str_unescape`: a text without a '%' is not copied. -/
def unescapeCopy (s : Bytes) : Bytes := if 37 ∈ s then strUnescape s else s

def escapedLength (unres : UInt8 → Bool) (s : Bytes) : ℕ := (s.map fun c => if unres c then 1 else 3).sum

section Escape

variable {unres : UInt8 → Bool}

lemma escapeLoop_length (s : Bytes) : ∀ room, (escapeLoop unres room s).1.length ≤ room := by
  induction s with
  | nil => exact fun room => Nat.zero_le _
  | cons c s ih =>
    intro room
    cases room with
    | zero => exact le_rfl
    | succ room =>
      unfold escapeLoop
      split_ifs with hc hroom
      · exact Nat.succ_le_succ (ih room)
      · have h := ih (room - 2)
        simp only [List.length_cons]
        omega
      · exact Nat.zero_le _

lemma escapeLoop_done (s : Bytes) :
    ∀ room, (escapeLoop unres room s).2 = true ↔ escapedLength unres s ≤ room := by
  induction s with
  | nil => exact fun room => ⟨fun _ => Nat.zero_le _, fun _ => rfl⟩
  | cons c s ih =>
    intro room
    have hlen : escapedLength unres (c :: s) = (if unres c then 1 else 3) + escapedLength unres s := rfl
    rw [hlen]
    cases room with
    | zero =>
      have hpos : 0 < if unres c then 1 else 3 := by split_ifs <;> decide
      constructor
      · intro h
        cases h
      · intro h
        omega
    | succ room =>
      unfold escapeLoop
      by_cases hc : unres c = true
      · rw [if_pos hc, if_pos hc, ih room]
        omega
      · rw [if_neg hc, if_neg hc]
        by_cases hroom : 2 ≤ room
        · rw [if_pos hroom, ih (room - 2)]
          omega
        · rw [if_neg hroom]
          constructor
          · intro h
            cases h
          · intro h
            omega

lemma hexDigit_spec {v : UInt8} (h : v.toNat < 16) :
    isXdigit (hexDigit v) = true ∧ hexDigitToVal (hexDigit v) = v := by
  have hall : ∀ n < 16, isXdigit (hexDigit (UInt8.ofNat n)) = true ∧
      hexDigitToVal (hexDigit (UInt8.ofNat n)) = UInt8.ofNat n := by decide
  simpa using hall v.toNat h

lemma high_toNat (c : UInt8) : ((c &&& 0xF0) >>> 4).toNat = c.toNat / 16 := by
  have hbits : (c &&& 0xF0) >>> 4 = c >>> 4 := eq_of_bits fun i hi => by interval_cases i <;> simp
  rw [hbits, UInt8.toNat_shiftRight]
  exact Nat.shiftRight_eq_div_pow _ 4

lemma low_toNat (c : UInt8) : (c &&& 0x0F).toNat = c.toNat % 16 := by
  rw [UInt8.toNat_and]
  exact Nat.and_two_pow_sub_one_eq_mod _ 4

lemma hexDigit_byte (c : UInt8) : (c &&& 0xF0) >>> 4 * 16 + (c &&& 0x0F) = c := by
  have hc := c.toNat_lt
  apply UInt8.toNat_inj.mp
  rw [UInt8.toNat_add, UInt8.toNat_mul, high_toNat, low_toNat]
  change (c.toNat / 16 * 16 % 2 ^ 8 + c.toNat % 16) % 2 ^ 8 = c.toNat
  omega

lemma strUnescape_escapeLoop (hpercent : unres 37 = false) (s : Bytes) :
    ∀ room, (escapeLoop unres room s).2 = true → strUnescape (escapeLoop unres room s).1 = s := by
  induction s with
  | nil => exact fun room _ => by simp [escapeLoop, strUnescape]
  | cons c s ih =>
    intro room h
    cases room with
    | zero => cases h
    | succ room =>
      unfold escapeLoop at h ⊢
      by_cases hc : unres c = true
      · rw [if_pos hc] at h ⊢
        have hne : c ≠ 37 := by
          rintro rfl
          rw [hpercent] at hc
          cases hc
        rw [strUnescape_cons hne, ih room h]
      · rw [if_neg hc] at h ⊢
        by_cases hroom : 2 ≤ room
        · rw [if_pos hroom] at h ⊢
          have hhigh := hexDigit_spec (v := (c &&& 0xF0) >>> 4) (by rw [high_toNat]; have := c.toNat_lt; omega)
          have hlow := hexDigit_spec (v := c &&& 0x0F) (by rw [low_toNat]; omega)
          rw [strUnescape_escape (by rw [hhigh.1, hlow.1]; rfl), hexByte, hhigh.2, hlow.2, hexDigit_byte,
            ih (room - 2) h]
        · rw [if_neg hroom] at h
          cases h

end Escape

lemma strUnescape_of_not_mem {s : Bytes} (h : 37 ∉ s) : strUnescape s = s := by
  induction s with
  | nil => simp [strUnescape]
  | cons c s ih =>
    rw [strUnescape_cons (fun hc => h (hc ▸ List.mem_cons_self)), ih fun hs => h (List.mem_cons_of_mem c hs)]

lemma strcpyUnescape_eq (s : Bytes) : strcpyUnescape s = unescapeCopy s := by
  have hloop : ∀ s : Bytes, strcpyUnescape s = strUnescape s := by
    intro s
    induction s using strUnescape.induct with
    | case1 a b s hhex ih =>
      have hd := Bool.and_eq_true_iff.mp hhex
      rw [strcpyUnescape, if_pos ⟨rfl, by simp, hd.1, hd.2⟩, strUnescape_escape hhex]
      exact congrArg _ ih
    | case2 a b s hhex ih =>
      have hno : ¬ ((37 : UInt8) = 37 ∧ 2 ≤ (a :: b :: s).length ∧ isXdigit ((a :: b :: s).getD 0 0) ∧
          isXdigit ((a :: b :: s).getD 1 0)) := fun h => hhex (Bool.and_eq_true_iff.mpr h.2.2)
      rw [strcpyUnescape, if_neg hno, ih, strUnescape_percent]
      rintro c t ⟨⟩
      simpa using hhex
    | case3 c s hesc ih =>
      have hno : ¬ (c = 37 ∧ 2 ≤ s.length ∧ isXdigit (s.getD 0 0) ∧ isXdigit (s.getD 1 0)) := by
        rintro ⟨rfl, hlen, -, -⟩
        obtain ⟨a, t, rfl⟩ := List.exists_cons_of_length_pos (show 0 < s.length by omega)
        obtain ⟨b, t, rfl⟩ := List.exists_cons_of_length_pos (show 0 < t.length by
          simp only [List.length_cons] at hlen
          omega)
        exact hesc a b t rfl rfl
      rw [strcpyUnescape, if_neg hno, ih, strUnescape]
      exact hesc
    | case4 => simp [strcpyUnescape, strUnescape]
  rw [hloop, unescapeCopy]
  split_ifs with h
  · rfl
  · exact strUnescape_of_not_mem h

/-- Escaping stays inside the buffer, fails if and only if the escaped form does not fit, and is undone by
either function that unescapes; the two agree on every text. -/
theorem escape_unescape (unres : UInt8 → Bool) (hpercent : unres 37 = false) (s : Bytes) (max : ℤ) :
    (strncpy2Escape s max unres).1.length ≤ max.toNat ∧
      ((strncpy2Escape s max unres).2 = -1 ↔ max < escapedLength unres s) ∧
      ((strncpy2Escape s max unres).2 ≠ -1 →
        (strncpy2Escape s max unres).2 = (strncpy2Escape s max unres).1.length ∧
          unescapeCopy (strncpy2Escape s max unres).1 = s ∧
          strcpyUnescape (strncpy2Escape s max unres).1 = s) ∧ ∀ t, unescapeCopy t = strcpyUnescape t := by
  have hlength : s.length ≤ escapedLength unres s := by
    induction s with
    | nil => exact le_rfl
    | cons c s ih =>
      have hlen : escapedLength unres (c :: s) = (if unres c then 1 else 3) + escapedLength unres s := rfl
      have hpos : 1 ≤ if unres c then 1 else 3 := by split_ifs <;> decide
      rw [hlen, List.length_cons]
      omega
  unfold strncpy2Escape
  by_cases hmax : max < s.length
  · rw [if_pos hmax]
    exact ⟨Nat.zero_le _, ⟨fun _ => by omega, fun _ => rfl⟩, fun h => absurd rfl h,
      fun t => (strcpyUnescape_eq t).symm⟩
  · rw [if_neg hmax]
    have hdone := @escapeLoop_done unres s max.toNat
    dsimp only
    by_cases hend : (escapeLoop unres max.toNat s).2 = true
    · have hback := strUnescape_escapeLoop hpercent s max.toNat hend
      have hcopy : unescapeCopy (escapeLoop unres max.toNat s).1 = s := by
        rw [unescapeCopy]
        split_ifs with hmem
        · exact hback
        · rwa [strUnescape_of_not_mem hmem] at hback
      have hfit := hdone.mp hend
      rw [if_pos hend]
      exact ⟨escapeLoop_length s _, ⟨fun h => by omega, fun h => by omega⟩,
        fun _ => ⟨rfl, hcopy, by rw [strcpyUnescape_eq, hcopy]⟩, fun t => (strcpyUnescape_eq t).symm⟩
    · have hfit := mt hdone.mpr hend
      rw [if_neg hend]
      exact ⟨escapeLoop_length s _, ⟨fun _ => by omega, fun _ => rfl⟩, fun h => absurd rfl h,
        fun t => (strcpyUnescape_eq t).symm⟩

/-- A byte with the sign bit set, in a buffer that is just large enough. -/
theorem escape_unescape_high : (strncpy2Escape [97, 0xE9] 4 isAlnum).1.length ≤ 4 ∧
      ((strncpy2Escape [97, 0xE9] 4 isAlnum).2 = -1 ↔ (4 : ℤ) < escapedLength isAlnum [97, 0xE9]) ∧
      ((strncpy2Escape [97, 0xE9] 4 isAlnum).2 ≠ -1 →
        (strncpy2Escape [97, 0xE9] 4 isAlnum).2 = (strncpy2Escape [97, 0xE9] 4 isAlnum).1.length ∧
          unescapeCopy (strncpy2Escape [97, 0xE9] 4 isAlnum).1 = [97, 0xE9] ∧
          strcpyUnescape (strncpy2Escape [97, 0xE9] 4 isAlnum).1 = [97, 0xE9]) ∧
      ∀ t, unescapeCopy t = strcpyUnescape t :=
  escape_unescape isAlnum (by decide) [97, 0xE9] 4

end PjProject.StrEscape
