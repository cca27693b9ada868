import PjProject.SipParserNum

/-!
# The q parameter of a Contact header

`int_parse_contact_param` validates the integer part of a q value up to its first other
character, and the fraction not at all. A text is converted as it should be if and only if
it is a decimal number or is rejected.
-/
namespace PjProject.SipParser

open Scanner FindMsg PjProject.Parser

def qWhole (text : Bytes) : Bytes := text.takeWhile (· ≠ 46)

def qFrac (text : Bytes) : Option Bytes := (text.dropWhile (· ≠ 46)).tail?

def IsDecimal (text : Bytes) : Prop :=
  qWhole text ≠ [] ∧ (∀ c ∈ qWhole text, isDigit c = true) ∧
    ∀ f ∈ qFrac text, ∀ c ∈ f, isDigit c = true

def thousandths (text : Bytes) : ℕ :=
  digitsFrom 0 (qWhole text ++ (qFrac text).getD []) * 1000 / 10 ^ ((qFrac text).getD []).length

def fracSum (frac : Bytes) : ℤ :=
  (frac.take 3).foldl (fun v c => v * 10 + (signedChar c - 48)) 0 * 10 ^ (3 - (frac.take 3).length)

/-- The integer part starts with no number from 0 to `PJSIP_MAX_Q1000`, or the sum with the
fraction is too large. -/
def QRejected (text : Bytes) : Prop :=
  ∀ v, strtol2 (qWhole text) = .ok v → 0 ≤ v → v ≤ maxQ1000 →
    ∃ f ∈ qFrac text, 2 ^ 31 - 1 < v * 1000 + fracSum f

/-- Every q value that is accepted is a decimal number, and `q1000` is a thousand times it. -/
def QLaw (text : Bytes) : Prop :=
  ∀ s q s', (contactQ text).run s = (.ok q, s') → IsDecimal text ∧ 0 ≤ q ∧ q = thousandths text

section Decimals

lemma digitsFrom_cons {c : UInt8} (h : isDigit c = true) (v : ℕ) (l : Bytes) :
    digitsFrom v (c :: l) = digitsFrom (v * 10 + (c.toNat - 48)) l := by
  simp [digitsFrom, h]

variable {l : Bytes}

lemma digitsFrom_eq (h : ∀ c ∈ l, isDigit c = true) (v : ℕ) :
    digitsFrom v l = v * 10 ^ l.length + digitsFrom 0 l := by
  induction l generalizing v with
  | nil => simp [digitsFrom]
  | cons c l ih =>
    have hc := h c List.mem_cons_self
    have hl : ∀ c ∈ l, isDigit c = true := fun d hd => h d (List.mem_cons_of_mem c hd)
    rw [digitsFrom_cons hc, digitsFrom_cons hc, ih hl, ih hl (0 * 10 + _), List.length_cons]
    ring

lemma digitsFrom_append {r : Bytes} (hl : ∀ c ∈ l, isDigit c = true) (hr : ∀ c ∈ r, isDigit c = true) :
    digitsFrom 0 (l ++ r) = digitsFrom 0 l * 10 ^ r.length + digitsFrom 0 r := by
  have hall : l.takeWhile isDigit = l := by
    have happ : (l ++ []).takeWhile isDigit = l ++ [].takeWhile isDigit := List.takeWhile_append_of_pos hl
    simpa using happ
  rw [← digitsFrom_eq hr]
  simp only [digitsFrom, List.takeWhile_append_of_pos hl, List.foldl_append, hall]

lemma digitsFrom_lt (h : ∀ c ∈ l, isDigit c = true) : digitsFrom 0 l < 10 ^ l.length := by
  induction l with
  | nil => simp [digitsFrom]
  | cons c l ih =>
    have hc := h c List.mem_cons_self
    have hl : ∀ c ∈ l, isDigit c = true := fun d hd => h d (List.mem_cons_of_mem c hd)
    have hd : c.toNat - 48 ≤ 9 := by
      simp only [isDigit, Bool.and_eq_true, decide_eq_true_eq, UInt8.le_iff_toNat_le,
        UInt8.reduceToNat] at hc
      omega
    have hlt := ih hl
    rw [digitsFrom_cons hc, digitsFrom_eq hl, List.length_cons, pow_succ]
    calc (0 * 10 + (c.toNat - 48)) * 10 ^ l.length + digitsFrom 0 l
        < (0 * 10 + (c.toNat - 48)) * 10 ^ l.length + 10 ^ l.length := by omega
      _ = (c.toNat - 48 + 1) * 10 ^ l.length := by ring
      _ ≤ 10 * 10 ^ l.length := Nat.mul_le_mul_right _ (by omega)
      _ = 10 ^ l.length * 10 := Nat.mul_comm _ _

end Decimals

section Fraction

lemma signedChar_range (c : UInt8) : -128 ≤ signedChar c ∧ signedChar c ≤ 127 := by
  have hlt := c.toNat_lt
  unfold signedChar
  split
  · rename_i h
    have h : c.toNat < 128 := UInt8.lt_iff_toNat_lt.mp h
    omega
  · rename_i h
    have h : ¬ c.toNat < 128 := fun hc => h (UInt8.lt_iff_toNat_lt.mpr hc)
    omega

lemma signedChar_digit {c : UInt8} (h : isDigit c = true) :
    signedChar c - 48 = ((c.toNat - 48 : ℕ) : ℤ) ∧ c.toNat - 48 ≤ 9 := by
  simp only [isDigit, Bool.and_eq_true, decide_eq_true_eq, UInt8.le_iff_toNat_le,
    UInt8.reduceToNat] at h
  have hlt : c < 128 := UInt8.lt_iff_toNat_lt.mpr (by simp only [UInt8.reduceToNat]; omega)
  unfold signedChar
  rw [if_pos hlt]
  omega

lemma strtoulMindigit_eq (frac : Bytes) : strtoulMindigit (frac.take 3) 3 = fracSum frac % 2 ^ 64 := by
  match frac with
  | [] => rfl
  | [a] => simp [strtoulMindigit, fracSum]; omega
  | [a, b] => simp [strtoulMindigit, fracSum]; omega
  | a :: b :: c :: _ => simp [strtoulMindigit, fracSum]; omega

lemma fracSum_range (frac : Bytes) : -20000 ≤ fracSum frac ∧ fracSum frac ≤ 10000 := by
  match frac with
  | [] => simp [fracSum]
  | [a] =>
    have ha := signedChar_range a
    simp [fracSum]
    omega
  | [a, b] =>
    have ha := signedChar_range a
    have hb := signedChar_range b
    simp [fracSum]
    omega
  | a :: b :: c :: _ =>
    have ha := signedChar_range a
    have hb := signedChar_range b
    have hc := signedChar_range c
    simp [fracSum]
    omega

lemma fracSum_digits {frac : Bytes} (h : ∀ c ∈ frac, isDigit c = true) :
    fracSum frac = ((digitsFrom 0 frac * 1000 / 10 ^ frac.length : ℕ) : ℤ) := by
  have hdig : ∀ c ∈ frac, signedChar c - 48 = ((c.toNat - 48 : ℕ) : ℤ) :=
    fun c hc => (signedChar_digit (h c hc)).1
  match frac, h, hdig with
  | [], _, _ => simp [fracSum, digitsFrom]
  | [a], h, hdig =>
    have ha := h a (by simp)
    simp only [fracSum, digitsFrom, hdig a (by simp), List.take, List.takeWhile, ha, List.foldl,
      List.length]
    push_cast
    omega
  | [a, b], h, hdig =>
    have ha := h a (by simp)
    have hb := h b (by simp)
    simp only [fracSum, digitsFrom, hdig a (by simp), hdig b (by simp), List.take, List.takeWhile,
      ha, hb, List.foldl, List.length]
    push_cast
    omega
  | a :: b :: c :: rest, h, hdig =>
    have h3 : ∀ d ∈ [a, b, c], isDigit d = true := by
      intro d hd
      refine h d ?_
      simp only [List.mem_cons, List.not_mem_nil, or_false] at hd ⊢
      tauto
    have hrest : ∀ d ∈ rest, isDigit d = true := fun d hd => h d (by simp [hd])
    have hsplit := digitsFrom_append h3 hrest
    have hlt := digitsFrom_lt hrest
    have hdiv : digitsFrom 0 (a :: b :: c :: rest) * 1000 / 10 ^ (a :: b :: c :: rest).length
        = digitsFrom 0 [a, b, c] := by
      have hlen : 10 ^ (a :: b :: c :: rest).length = 10 ^ rest.length * 1000 := by
        simp only [List.length_cons]
        ring
      rw [hlen, Nat.mul_div_mul_right _ _ (by norm_num)]
      have happ : a :: b :: c :: rest = [a, b, c] ++ rest := rfl
      rw [happ, hsplit, Nat.mul_comm, Nat.mul_add_div (by positivity), Nat.div_eq_of_lt hlt, Nat.add_zero]
    rw [hdiv]
    simp only [fracSum, digitsFrom, hdig a (by simp), hdig b (by simp), hdig c (by simp), List.take,
      List.takeWhile, h3 a (by simp), h3 b (by simp), h3 c (by simp), List.foldl, List.length]
    push_cast
    omega

end Fraction

section Whole

variable {text : Bytes} {s : State} {v : ℤ}

lemma strtoiValidate_ok (h : strtol2 text = .ok v) (h0 : 0 ≤ v) (hv : v ≤ maxQ1000) :
    (scan (strtoiValidate text 0 maxQ1000)).run s = (.ok v.toNat, s) := by
  refine scan_ok ?_
  unfold strtoiValidate
  simp only [h]
  rw [if_neg (by push_cast; omega)]
  rfl

lemma strtoiValidate_some {n : ℕ} {s' : State}
    (h : (scan (strtoiValidate text 0 maxQ1000)).run s = (.ok n, s')) :
    ∃ v, strtol2 text = .ok v ∧ 0 ≤ v ∧ v ≤ maxQ1000 ∧ n = v.toNat ∧ s' = s := by
  unfold strtoiValidate at h
  cases hv : strtol2 text with
  | error e =>
    simp only [hv] at h
    cases h
  | ok v =>
    simp only [hv] at h
    by_cases hr : v < ((0 : ℕ) : ℤ) ∨ v > (maxQ1000 : ℤ)
    · rw [if_pos hr] at h
      cases h
    · rw [if_neg hr] at h
      cases h
      exact ⟨v, rfl, by omega, by omega, rfl, rfl⟩

lemma strtol2_digits (hne : text ≠ []) (h : ∀ c ∈ text, isDigit c = true)
    (hv : strtol2 text = .ok v) : v = digitsFrom 0 text := by
  cases text with
  | nil => exact absurd rfl hne
  | cons c s =>
    have hc := h c List.mem_cons_self
    have hspace := isSpaceChar_of_isDigit hc
    have hsign : c ≠ 43 ∧ c ≠ 45 := by
      constructor
      · rintro rfl
        cases hc
      · rintro rfl
        cases hc
    have htrim : strltrim (c :: s) = c :: s := by simp [strltrim, hspace]
    simp only [strtol2, htrim, List.head?_cons, Option.some.injEq, hsign, or_self, if_false,
      reduceCtorEq, strtoul3, hc, Bool.true_eq_false] at hv
    cases hl : strtoulLoop 0 (c :: s) with
    | error e =>
      rw [hl] at hv
      cases e <;> cases hv
    | ok w =>
      rw [hl] at hv
      simp only [not_false_eq_true, and_true, and_false, if_false] at hv
      split at hv
      · cases hv
      · cases hv
        rw [(strtoulLoop_ok (Nat.zero_le _) hl).1]

end Whole

section Law

variable {text : Bytes} {s : State}

lemma qFrac_cases (text : Bytes) : (qFrac text = none ∧ text.dropWhile (· ≠ 46) = [] ∧ qWhole text = text) ∨
      ∃ f, qFrac text = some f ∧ ∃ c, text.dropWhile (· ≠ 46) = c :: f := by
  unfold qFrac qWhole
  cases hd : text.dropWhile (· ≠ 46) with
  | nil =>
    refine .inl ⟨rfl, rfl, ?_⟩
    have happ := List.takeWhile_append_dropWhile (p := fun c : UInt8 => decide (c ≠ 46)) (l := text)
    rw [hd, List.append_nil] at happ
    exact happ
  | cons c f => exact .inr ⟨f, rfl, c, rfl⟩

lemma guard_iff (v : ℤ) (f : Bytes) : ((2 ^ 31 - 1) - strtoulMindigit (f.take 3) 3) % 2 ^ 64 < v * 1000 ↔
      2 ^ 31 - 1 < v * 1000 + fracSum f := by
  have hrange := fracSum_range f
  rw [strtoulMindigit_eq]
  omega

lemma bmod_sum {v : ℤ} (h0 : 0 ≤ v) (f : Bytes) (hle : v * 1000 + fracSum f ≤ 2 ^ 31 - 1) :
    Int.bmod (v * 1000 + strtoulMindigit (f.take 3) 3) (2 ^ 32) = v * 1000 + fracSum f := by
  have hrange := fracSum_range f
  rw [strtoulMindigit_eq, Int.bmod_def]
  push_cast
  split <;> omega

lemma contactQ_ok {v : ℤ} (hv : strtol2 (qWhole text) = .ok v) (h0 : 0 ≤ v) (hmax : v ≤ maxQ1000)
    (hsum : ∀ f ∈ qFrac text, v * 1000 + fracSum f ≤ 2 ^ 31 - 1) :
    (contactQ text).run s = (.ok (v * 1000 + ((qFrac text).map fracSum).getD 0), s) := by
  have hnat : ((v.toNat : ℕ) : ℤ) = v := Int.toNat_of_nonneg h0
  unfold contactQ
  dsimp only
  rcases qFrac_cases text with ⟨hnone, hdrop, hwhole⟩ | ⟨f, hsome, c, hdrop⟩
  · rw [hdrop]
    dsimp only
    rw [hwhole] at hv
    rw [bind_ok (strtoiValidate_ok hv h0 hmax), hnone]
    simp [hnat]
  · rw [hdrop]
    dsimp only
    have hle := hsum f hsome
    have hv : strtol2 (text.takeWhile (· ≠ 46)) = .ok v := hv
    rw [bind_ok (strtoiValidate_ok hv h0 hmax), hsome, hnat]
    rw [if_neg (fun hlt => absurd ((guard_iff v f).mp hlt) (by omega)), bmod_sum h0 f hle]
    rfl

lemma contactQ_some {q : ℤ} {s' : State} (h : (contactQ text).run s = (.ok q, s')) :
    ∃ v, strtol2 (qWhole text) = .ok v ∧ 0 ≤ v ∧ v ≤ maxQ1000 ∧
      ∀ f ∈ qFrac text, v * 1000 + fracSum f ≤ 2 ^ 31 - 1 := by
  unfold contactQ at h
  dsimp only at h
  rcases qFrac_cases text with ⟨hnone, hdrop, hwhole⟩ | ⟨f, hsome, c, hdrop⟩
  · rw [hdrop] at h
    dsimp only at h
    obtain ⟨n, t, hn, -⟩ := bind_eq_ok h
    obtain ⟨v, hv, h0, hmax, -, -⟩ := strtoiValidate_some hn
    refine ⟨v, by rw [hwhole]; exact hv, h0, hmax, fun f hf => ?_⟩
    rw [hnone] at hf
    cases hf
  · rw [hdrop] at h
    dsimp only at h
    obtain ⟨n, t, hn, hrest⟩ := bind_eq_ok h
    obtain ⟨v, hv, h0, hmax, rfl, -⟩ := strtoiValidate_some hn
    have hnat : ((v.toNat : ℕ) : ℤ) = v := Int.toNat_of_nonneg h0
    refine ⟨v, hv, h0, hmax, fun g hg => ?_⟩
    rw [hsome] at hg
    obtain rfl := Option.some.inj hg
    rw [hnat] at hrest
    by_contra hlt
    rw [if_pos ((guard_iff v _).mpr (by omega))] at hrest
    cases hrest

lemma thousandths_eq (h : IsDecimal text) : (thousandths text : ℤ) =
      (digitsFrom 0 (qWhole text) : ℤ) * 1000 + ((qFrac text).map fracSum).getD 0 := by
  obtain ⟨-, hw, hf⟩ := h
  cases hfrac : qFrac text with
  | none => simp [thousandths, hfrac]
  | some f =>
    have hf := hf f hfrac
    have hsum := fracSum_digits hf
    have hdiv : thousandths text = digitsFrom 0 (qWhole text) * 1000
        + digitsFrom 0 f * 1000 / 10 ^ f.length := by
      simp only [thousandths, hfrac, Option.getD_some]
      rw [digitsFrom_append hw hf, Nat.add_mul, Nat.mul_right_comm, Nat.mul_comm _ (10 ^ f.length),
        Nat.mul_add_div (by positivity)]
    rw [hdiv]
    simp only [Option.map_some, Option.getD_some, hsum]
    push_cast
    ring

/-- The q value of every accepted text is right if and only if the text is a decimal number or
is rejected. -/
theorem qLaw_iff (text : Bytes) : QLaw text ↔ IsDecimal text ∨ QRejected text := by
  constructor
  · intro hlaw
    by_contra hno
    rw [not_or] at hno
    obtain ⟨hdec, hrej⟩ := hno
    simp only [QRejected, not_forall, not_exists, not_and, not_lt] at hrej
    obtain ⟨v, hv, h0, hmax, hsum⟩ := hrej
    exact hdec (hlaw ⟨[], .off⟩ _ _ (contactQ_ok hv h0 hmax hsum)).1
  · intro hcond s q s' hrun
    obtain ⟨v, hv, h0, hmax, hsum⟩ := contactQ_some hrun
    rcases hcond with hdec | hrej
    · have hval := strtol2_digits hdec.1 hdec.2.1 hv
      rw [contactQ_ok hv h0 hmax hsum] at hrun
      obtain ⟨hq, -⟩ := Prod.mk.inj hrun
      have hq : q = thousandths text := by
        rw [thousandths_eq hdec, ← hval]
        exact (Outcome.ok.inj hq).symm
      exact ⟨hdec, by omega, hq⟩
    · obtain ⟨f, hf, hlt⟩ := hrej v hv h0 hmax
      exact absurd hlt (not_lt.mpr (hsum f hf))

end Law

/-- Texts that are no decimal numbers are accepted, and the value may even be negative. -/
theorem q_not_validated :
    ¬ QLaw (lit "0.-") ∧ (contactQ (lit "0.-")).run ⟨[], .off⟩ = (.ok (-300), ⟨[], .off⟩) ∧
      ¬ QLaw (lit "1x") ∧ (contactQ (lit "1x")).run ⟨[], .off⟩ = (.ok 1000, ⟨[], .off⟩) := by
  have hminus : (contactQ (lit "0.-")).run ⟨[], .off⟩ = (.ok (-300), ⟨[], .off⟩) := by decide
  have hletter : (contactQ (lit "1x")).run ⟨[], .off⟩ = (.ok 1000, ⟨[], .off⟩) := by decide
  refine ⟨fun h => ?_, hminus, fun h => ?_, hletter⟩
  · exact absurd (h _ _ _ hminus).2.1 (by decide)
  · exact absurd ((h _ _ _ hletter).1.2.1 120 (by decide)) (by decide)

end PjProject.SipParser
