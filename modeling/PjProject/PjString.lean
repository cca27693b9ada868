import Mathlib.Tactic

/-!
# Strings of the base library

`pj_str_t` as a list of bytes, with the comparisons and conversions that the SIP
code calls.
-/
namespace PjProject

abbrev Bytes := List UInt8

def lit (s : String) : Bytes := s.toList.map fun c => UInt8.ofNat c.toNat

lemma lit_ofList (cs : List Char) : lit (String.ofList cs) = cs.map fun c => UInt8.ofNat c.toNat := by
  rw [lit, String.toList_ofList]

lemma forall_mem_of_all {p : UInt8 → Prop} [DecidablePred p] {s : Bytes}
    (h : (s.all fun c => decide (p c)) = true) : ∀ c ∈ s, p c :=
  fun c hc => of_decide_eq_true (List.all_eq_true.1 h c hc)

lemma eq_of_bits {x y : UInt8} (h : ∀ i < 8, x.toBitVec.getLsbD i = y.toBitVec.getLsbD i) : x = y :=
  UInt8.toBitVec_inj.1 (BitVec.eq_of_getLsbD_eq h)

/-- `pj_tolower` in the C locale. -/
def toLower (c : UInt8) : UInt8 := if 65 ≤ c ∧ c ≤ 90 then c + 32 else c

def lowerAll (s : Bytes) : Bytes := s.map toLower

@[simp] lemma lowerAll_nil : lowerAll [] = [] := rfl

@[simp] lemma lowerAll_cons (c : UInt8) (s : Bytes) : lowerAll (c :: s) = toLower c :: lowerAll s :=rfl

lemma lowerAll_append (s t : Bytes) : lowerAll (s ++ t) = lowerAll s ++ lowerAll t := by
  simp [lowerAll]

lemma toLower_eq_zero {c : UInt8} : toLower c = 0 ↔ c = 0 := by
  unfold toLower
  split_ifs with h
  · obtain ⟨h1, h2⟩ := h
    rw [UInt8.le_iff_toNat_le] at h1 h2
    constructor
    · intro hc
      have := congrArg UInt8.toNat hc
      simp only [UInt8.toNat_add, UInt8.reduceToNat] at this h1 h2
      omega
    · rintro rfl
      simp at h1
  · exact Iff.rfl

/-- Whether `strncasecmp` of the first `n` bytes is zero; it stops at a NUL. -/
def strnicmpEq : ℕ → Bytes → Bytes → Bool
  | 0, _, _ => true
  | _ + 1, [], [] => true
  | _ + 1, [], _ :: _ => false
  | _ + 1, _ :: _, [] => false
  | n + 1, a :: s, b :: t => toLower a = toLower b && (a = 0 || strnicmpEq n s t)

/-- `pj_stricmp(s, t) == 0` -/
def stricmpEq (s t : Bytes) : Bool := s.length = t.length && strnicmpEq s.length s t

/-- `pj_strnicmp(s, t, n) == 0` -/
def strnicmpEqLen (s t : Bytes) (n : ℕ) : Bool := stricmpEq (s.take n) (t.take n)

section Compare

attribute [local simp] strnicmpEq

lemma stricmpEq_refl (s : Bytes) : stricmpEq s s = true := by
  have h : ∀ n, strnicmpEq n s s = true := by
    induction s with
    | nil => intro n; cases n <;> rfl
    | cons a s ih =>
      intro n
      cases n with
      | zero => rfl
      | succ n => simp [ih n]
  simp [stricmpEq, h]

variable {s t : Bytes}

lemma strnicmpEq_symm {n : ℕ} (h : strnicmpEq n s t = true) : strnicmpEq n t s = true := by
  induction n generalizing s t with
  | zero => rfl
  | succ n ih =>
    cases s with
    | nil => cases t <;> simp at h ⊢
    | cons a s =>
      cases t with
      | nil => simp at h
      | cons b t =>
        simp only [strnicmpEq, Bool.and_eq_true, Bool.or_eq_true, decide_eq_true_eq] at h ⊢
        obtain ⟨hab, hrest⟩ := h
        refine ⟨hab.symm, hrest.imp (fun ha => ?_) ih⟩
        rw [ha] at hab
        exact toLower_eq_zero.1 hab.symm

lemma stricmpEq_symm (h : stricmpEq s t = true) : stricmpEq t s = true := by
  simp only [stricmpEq, Bool.and_eq_true, decide_eq_true_eq] at h ⊢
  exact ⟨h.1.symm, h.1 ▸ strnicmpEq_symm h.2⟩

lemma strnicmpEq_trans {n : ℕ} {u : Bytes} (h : strnicmpEq n s t = true)
    (h' : strnicmpEq n t u = true) : strnicmpEq n s u = true := by
  induction n generalizing s t u with
  | zero => rfl
  | succ n ih =>
    cases s with
    | nil =>
      cases t with
      | nil => exact h'
      | cons b t => simp at h
    | cons a s =>
      cases t with
      | nil => simp at h
      | cons b t =>
        cases u with
        | nil => simp at h'
        | cons c u =>
          simp only [strnicmpEq, Bool.and_eq_true, Bool.or_eq_true, decide_eq_true_eq] at h h' ⊢
          obtain ⟨hab, hst⟩ := h
          obtain ⟨hbc, htu⟩ := h'
          refine ⟨hab.trans hbc, ?_⟩
          rcases hst with ha | hst
          · exact .inl ha
          · rcases htu with hb | htu
            · rw [hb] at hab
              exact .inl (toLower_eq_zero.1 hab)
            · exact .inr (ih hst htu)

lemma stricmpEq_trans {u : Bytes} (h : stricmpEq s t = true) (h' : stricmpEq t u = true) :
    stricmpEq s u = true := by
  simp only [stricmpEq, Bool.and_eq_true, decide_eq_true_eq] at h h' ⊢
  exact ⟨h.1.trans h'.1, strnicmpEq_trans h.2 (h.1 ▸ h'.2)⟩

lemma stricmpEq_of_lower (h : lowerAll s = lowerAll t) : stricmpEq s t = true := by
  induction s generalizing t with
  | nil =>
    cases t with
    | nil => rfl
    | cons b t => simp at h
  | cons a s ih =>
    cases t with
    | nil => simp at h
    | cons b t =>
      simp only [lowerAll_cons, List.cons.injEq] at h
      have hst := ih h.2
      simp only [stricmpEq, Bool.and_eq_true, decide_eq_true_eq] at hst
      simp only [stricmpEq, strnicmpEq, List.length_cons, hst.1, h.1, decide_true, Bool.true_and]
      rw [← hst.1, hst.2, Bool.or_true]

lemma lowerAll_eq_of_strnicmpEq (h0 : 0 ∉ s) (hlen : s.length = t.length)
    (h : strnicmpEq s.length s t = true) : lowerAll s = lowerAll t := by
  induction s generalizing t with
  | nil =>
    cases t with
    | nil => rfl
    | cons b t => cases hlen
  | cons a s ih =>
    cases t with
    | nil => cases hlen
    | cons b t =>
      simp only [List.mem_cons, not_or] at h0
      simp only [List.length_cons, strnicmpEq, Bool.and_eq_true, Bool.or_eq_true, decide_eq_true_eq] at h
      have hrest := ih h0.2 (Nat.succ.inj hlen) (h.2.resolve_left fun ha => h0.1 ha.symm)
      simp [h.1, hrest]

lemma stricmpEq_iff (ht : (0 : UInt8) ∉ t) : stricmpEq s t = true ↔ lowerAll s = lowerAll t := by
  refine ⟨fun h => ?_, stricmpEq_of_lower⟩
  have h' := stricmpEq_symm h
  simp only [stricmpEq, Bool.and_eq_true, decide_eq_true_eq] at h'
  exact (lowerAll_eq_of_strnicmpEq ht h'.1 h'.2).symm

end Compare

def utoa (n : ℕ) : Bytes :=
  if n = 0 then [48] else (Nat.digits 10 n).reverse.map fun d => UInt8.ofNat (48 + d)

inductive NumErr
  | einval | etoosmall | etoobig
  deriving DecidableEq

/-- `PJ_MAXULONG` and `PJ_MAXLONG` of a 64-bit platform. -/
def maxUlong : ℕ := 2 ^ 64 - 1

def maxLong : ℕ := 2 ^ 63 - 1

def isDigit (c : UInt8) : Bool := 48 ≤ c && c ≤ 57

def isSpaceChar (c : UInt8) : Bool := c = 32 || (9 ≤ c && c ≤ 13)

def strltrim (s : Bytes) : Bytes := s.dropWhile isSpaceChar

/-- The digit loop of `pj_strtoul3` with base 10. -/
def strtoulLoop (value : ℕ) : Bytes → Except NumErr ℕ
  | [] => .ok value
  | c :: s =>
    if isDigit c = false then .ok value
    else if value > maxUlong / 10 then .error .etoobig
    else if maxUlong - value * 10 < c.toNat - 48 then .error .etoobig
    else strtoulLoop (value * 10 + (c.toNat - 48)) s

/-- `pj_strtoul3(str, value, 10)` -/
def strtoul3 (str : Bytes) : Except NumErr ℕ :=
  match strltrim str with
  | [] => .error .einval
  | c :: s => if isDigit c = false then .error .einval else strtoulLoop 0 (c :: s)

def strtol2 (str : Bytes) : Except NumErr ℤ :=
  let s := strltrim str
  if s = [] then .error .einval
  else
    let negative := s.head? = some 45
    let s := if s.head? = some 43 ∨ s.head? = some 45 then s.tail else s
    match strtoul3 s with
    | .error .einval => .error .einval
    | .error _ => if negative then .error .etoosmall else .error .etoobig
    | .ok value =>
      if value > maxLong ∧ ¬ negative then .error .etoobig
      else if value > maxLong + 1 ∧ negative then .error .etoosmall
      else .ok (if negative then -(value : ℤ) else value)

/-- The value of a string of digits, started from `v`. -/
def digitsFrom (v : ℕ) (s : Bytes) : ℕ :=
  (s.takeWhile isDigit).foldl (fun v c => v * 10 + (c.toNat - 48)) v

lemma strtoulLoop_ok {s : Bytes} {v w : ℕ} (hv : v ≤ maxUlong) (h : strtoulLoop v s = .ok w) :
    w = digitsFrom v s ∧ w ≤ maxUlong := by
  induction s generalizing v with
  | nil =>
    obtain rfl := Except.ok.inj h
    exact ⟨rfl, hv⟩
  | cons c s ih =>
    unfold strtoulLoop at h
    split_ifs at h with hd hbig hbig'
    · obtain rfl := Except.ok.inj h
      exact ⟨by simp [digitsFrom, hd], hv⟩
    · have hnext : v * 10 + (c.toNat - 48) ≤ maxUlong := by
        have hmul : v * 10 ≤ maxUlong := by
          have := Nat.div_mul_le_self maxUlong 10
          omega
        omega
      obtain ⟨h1, h2⟩ := ih hnext h
      refine ⟨?_, h2⟩
      have hd' : isDigit c = true := by simpa using hd
      simpa [digitsFrom, hd'] using h1

lemma isSpaceChar_of_isDigit {c : UInt8} (h : isDigit c = true) : isSpaceChar c = false := by
  simp only [isDigit, Bool.and_eq_true, decide_eq_true_eq, UInt8.le_iff_toNat_le] at h
  simp only [isSpaceChar, Bool.or_eq_false_iff, Bool.and_eq_false_iff, decide_eq_false_iff_not,
    UInt8.le_iff_toNat_le, ← UInt8.toNat_inj]
  simp only [UInt8.reduceToNat] at h ⊢
  omega

lemma strtoul3_lt {s : Bytes} {w : ℕ} (h : strtoul3 s = .ok w) : w < 2 ^ 64 := by
  unfold strtoul3 at h
  split at h
  · cases h
  · split_ifs at h
    have hle := (strtoulLoop_ok (Nat.zero_le _) h).2
    unfold maxUlong at hle
    omega

lemma isDigit_digit {d : ℕ} (h : d < 10) : isDigit (UInt8.ofNat (48 + d)) = true ∧
    (UInt8.ofNat (48 + d)).toNat - 48 = d := by
  interval_cases d <;> decide

lemma utoa_digits (n : ℕ) : ∀ c ∈ utoa n, isDigit c = true := by
  intro c hc
  unfold utoa at hc
  split_ifs at hc
  · obtain rfl : c = 48 := by simpa using hc
    decide
  · obtain ⟨d, hd, rfl⟩ := List.mem_map.1 hc
    exact (isDigit_digit (Nat.digits_lt_base (by norm_num) (List.mem_reverse.1 hd))).1

lemma utoa_ne_nil (n : ℕ) : utoa n ≠ [] := by
  unfold utoa
  split_ifs with h
  · simp
  · simp [Nat.digits_ne_nil_iff_ne_zero.2 h]

lemma utoa_length_le {n k : ℕ} (h : n < 10 ^ k) (hk : 0 < k) : (utoa n).length ≤ k := by
  unfold utoa
  split_ifs with hn
  · exact hk
  · rw [List.length_map, List.length_reverse]
    exact (Nat.digits_length_le_iff (by norm_num) n).2 h

lemma strtoulLoop_digits (l : List ℕ) : ∀ {v w : ℕ}, (∀ d ∈ l, d < 10) →
    w = l.foldl (fun v d => v * 10 + d) v → w ≤ maxUlong →
    strtoulLoop v (l.map fun d => UInt8.ofNat (48 + d)) = .ok w := by
  induction l with
  | nil =>
    rintro v w _ rfl _
    rfl
  | cons d l ih =>
    intro v w hd hw hle
    obtain ⟨h1, h2⟩ := isDigit_digit (hd d (by simp))
    -- the value only grows
    have hgrow : ∀ (l : List ℕ) (v : ℕ), v ≤ l.foldl (fun v d => v * 10 + d) v := by
      intro l
      induction l with
      | nil => exact fun v => le_rfl
      | cons e l ih =>
        intro v
        exact le_trans (by omega) (ih (v * 10 + e))
    have hmid : v * 10 + d ≤ maxUlong := (hgrow l _).trans (hw ▸ hle)
    rw [List.map_cons, strtoulLoop, h1, h2, if_neg (by simp), if_neg (by omega), if_neg (by omega)]
    exact ih (fun e he => hd e (by simp [he])) hw hle

lemma foldl_digits (n : ℕ) : (Nat.digits 10 n).reverse.foldl (fun v d => v * 10 + d) 0 = n := by
  rw [List.foldl_reverse]
  conv_rhs => rw [← Nat.ofDigits_digits 10 n]
  induction Nat.digits 10 n with
  | nil => rfl
  | cons d l ih =>
    rw [List.foldr_cons, ih, Nat.ofDigits_cons]
    omega

lemma strtoul3_utoa {n : ℕ} (h : n ≤ maxUlong) : strtoul3 (utoa n) = .ok n := by
  have hloop : strtoulLoop 0 (utoa n) = .ok n := by
    unfold utoa
    split_ifs with h0
    · rw [h0]
      rfl
    · refine strtoulLoop_digits _ ?_ (foldl_digits n).symm h
      intro d hd
      exact Nat.digits_lt_base (by norm_num) (List.mem_reverse.1 hd)
  have hdig := utoa_digits n
  have hne := utoa_ne_nil n
  cases hu : utoa n with
  | nil => exact absurd hu hne
  | cons c s =>
    rw [hu] at hloop hdig
    have hc := hdig c (by simp)
    simp only [strtoul3, strltrim, List.dropWhile_cons, isSpaceChar_of_isDigit hc,
      Bool.false_eq_true, if_false, hc]
    exact hloop

end PjProject
