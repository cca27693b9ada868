import PjProject.SipParserProgress

/-!
# Numbers in SIP headers

The integer headers and the expires parameter go through `pj_strtoul`, which wraps, and the
fraction of a q parameter through `pj_strtoul_mindigit`, which takes every character for a
digit. For each of them the texts are given on which the stored value is the one that the
text means.
-/
namespace PjProject.SipParser

open Scanner FindMsg PjProject.Parser

structure Digits where
  text : Bytes
  nonempty : text ≠ []
  digits : ∀ c ∈ text, isDigit c = true

def Digits.value (d : Digits) : ℕ := digitsFrom 0 d.text

section Strtoul

lemma foldl_mod (l : Bytes) (v : ℕ) : l.foldl (fun v c => (v * 10 + (c.toNat - 48)) % 2 ^ 64) (v % 2 ^ 64) =
      l.foldl (fun v c => v * 10 + (c.toNat - 48)) v % 2 ^ 64 := by
  induction l generalizing v with
  | nil => rfl
  | cons c l ih =>
    simp only [List.foldl_cons]
    rw [← ih]
    congr 1
    omega

lemma strtoul_eq (s : Bytes) : strtoul s = digitsFrom 0 s % 2 ^ 64 :=
  foldl_mod (s.takeWhile isDigit) 0

lemma toUint32_strtoul (s : Bytes) : toUint32 (strtoul s) = digitsFrom 0 s % 2 ^ 32 := by
  rw [strtoul_eq, toUint32]
  omega

end Strtoul

def KeepsValue (d : Digits) (x : ℕ) : Prop :=
  if d.value < 2 ^ 32 then x = d.value else x = 2 ^ 32 - 1

/-- The same for an expires parameter, whose greatest value is the one below
`PJSIP_EXPIRES_NOT_SPECIFIED`. -/
def KeepsExpires (d : Digits) (x : ℕ) : Prop :=
  if d.value < 2 ^ 32 then x = min d.value (expiresNotSpecified - 1) else x = expiresNotSpecified - 1

def Fits (d : Digits) : Prop := d.value < 2 ^ 32 ∨ d.value % 2 ^ 32 = 2 ^ 32 - 1

def FitsExpires (d : Digits) : Prop := d.value < 2 ^ 32 ∨ 2 ^ 32 - 2 ≤ d.value % 2 ^ 32

lemma keepsValue_iff (d : Digits) : KeepsValue d (d.value % 2 ^ 32) ↔ Fits d := by
  unfold KeepsValue Fits
  split
  · omega
  · omega

lemma keepsExpires_iff (d : Digits) : KeepsExpires d (contactExpires d.text) ↔ FitsExpires d := by
  have hval : digitsFrom 0 d.text = d.value := rfl
  unfold KeepsExpires FitsExpires contactExpires
  rw [toUint32_strtoul, hval]
  dsimp only
  have hspec : expiresNotSpecified = 2 ^ 32 - 1 := rfl
  by_cases hmax : d.value % 2 ^ 32 = expiresNotSpecified
  · rw [if_pos hmax]
    split <;> omega
  · rw [if_neg hmax]
    split <;> omega

section Headers

variable (d : Digits) {tail : Bytes} {opt : SkipWs}

lemma get_digits (htail : tail.head?.any isDigit = false) :
    (scan (get isDigit)).run ⟨d.text ++ tail, opt⟩ = (.ok d.text, ⟨settle opt tail, opt⟩) := by
  have hstop : tail.takeWhile isDigit = [] ∧ tail.dropWhile isDigit = tail := by
    cases tail with
    | nil => exact ⟨rfl, rfl⟩
    | cons c tail =>
      have hc : isDigit c = false := by simpa using htail
      simp [hc]
  refine scan_ok ?_
  simp [Scanner.get, List.takeWhile_append_of_pos d.digits, List.dropWhile_append_of_pos d.digits,
    hstop, d.nonempty]

variable {s' : State}

lemma parseGenericIntHdr_value (htail : tail.head?.any isDigit = false) {v : ℕ}
    (h : parseGenericIntHdr.run ⟨d.text ++ tail, opt⟩ = (.ok v, s')) : v = d.value % 2 ^ 32 := by
  unfold parseGenericIntHdr at h
  rw [bind_ok (get_digits d htail)] at h
  obtain ⟨_, t, -, ht⟩ := bind_eq_ok h
  obtain ⟨hv, -⟩ := Prod.mk.inj ht
  rw [← Outcome.ok.inj hv]
  exact toUint32_strtoul _

lemma parseHdrSe_value (htail : tail.head?.any isDigit = false) {h : SessExpires}
    (hrun : parseHdrSe.run ⟨d.text ++ tail, opt⟩ = (.ok h, s')) : h.sessExpires = d.value % 2 ^ 32 := by
  unfold parseHdrSe at hrun
  rw [bind_ok (get_digits d htail)] at hrun
  obtain ⟨hdr, t, hloop, hrest⟩ := bind_eq_ok hrun
  obtain ⟨_, u, -, hu⟩ := bind_eq_ok hrest
  obtain ⟨hv, -⟩ := Prod.mk.inj hu
  obtain rfl := Outcome.ok.inj hv
  refine (loop_keeps SessExpires.sessExpires ?_ hloop).trans (toUint32_strtoul _)
  intro a s b t hb
  obtain ⟨⟨pname, pvalue⟩, u, -, hu⟩ := bind_eq_ok hb
  dsimp only at hu
  split at hu
  · cases hu
    rfl
  · cases hu
    rfl

lemma parseHdrMinSe_value (htail : tail.head?.any isDigit = false) {h : MinSe}
    (hrun : parseHdrMinSe.run ⟨d.text ++ tail, opt⟩ = (.ok h, s')) : h.minSe = d.value % 2 ^ 32 := by
  unfold parseHdrMinSe at hrun
  rw [bind_ok (get_digits d htail)] at hrun
  obtain ⟨hdr, t, hloop, hrest⟩ := bind_eq_ok hrun
  obtain ⟨_, u, -, hu⟩ := bind_eq_ok hrest
  obtain ⟨hv, -⟩ := Prod.mk.inj hu
  obtain rfl := Outcome.ok.inj hv
  refine (loop_keeps MinSe.minSe ?_ hloop).trans (toUint32_strtoul _)
  intro a s b t hb
  obtain ⟨param, u, -, hu⟩ := bind_eq_ok hb
  cases hu
  rfl

lemma contactParam_expires {hdr hdr' : ContactParams} {pname : Bytes} {s : State}
    (hname : stricmpEq pname (lit "expires") = true)
    (hrun : (contactParam hdr pname d.text).run s = (.ok hdr', s')) :
    hdr'.expires = contactExpires d.text := by
  have hq : stricmpEq pname (lit "q") = false := by
    have hlen : pname.length = 7 := by
      simp only [stricmpEq, Bool.and_eq_true, decide_eq_true_eq] at hname
      exact hname.1
    simp [stricmpEq, hlen, show (lit "q").length = 1 from rfl]
  simp only [contactParam, hq, hname, d.nonempty, Bool.false_eq_true, false_and, if_false, ne_eq,
    not_false_eq_true, and_self, if_true] at hrun
  cases hrun
  rfl

end Headers

/-- The headers and the parameter with an integer keep the value of the digits, or saturate,
if and only if the digits fit into 32 bits. -/
theorem int_values_iff (d : Digits) (tail : Bytes) (opt : SkipWs) (htail : tail.head?.any isDigit = false) :
    (∀ p ∈ [parseHdrExpires, parseHdrMinExpires, parseHdrMaxForwards], ∀ v s',
      p.run ⟨d.text ++ tail, opt⟩ = (.ok v, s') → (KeepsValue d v ↔ Fits d)) ∧
    (∀ h s', parseHdrSe.run ⟨d.text ++ tail, opt⟩ = (.ok h, s') → (KeepsValue d h.sessExpires ↔ Fits d)) ∧
    (∀ h s', parseHdrMinSe.run ⟨d.text ++ tail, opt⟩ = (.ok h, s') → (KeepsValue d h.minSe ↔ Fits d)) ∧
    ∀ hdr hdr' pname s s', stricmpEq pname (lit "expires") = true →
      (contactParam hdr pname d.text).run s = (.ok hdr', s') →
      (KeepsExpires d hdr'.expires ↔ FitsExpires d) := by
  refine ⟨fun p hp v s' hrun => ?_, fun h s' hrun => ?_, fun h s' hrun => ?_, ?_⟩
  · have hgen : p = parseGenericIntHdr := by
      simpa [parseHdrExpires, parseHdrMinExpires, parseHdrMaxForwards] using hp
    rw [hgen] at hrun
    rw [parseGenericIntHdr_value d htail hrun]
    exact keepsValue_iff d
  · rw [parseHdrSe_value d htail hrun]
    exact keepsValue_iff d
  · rw [parseHdrMinSe_value d htail hrun]
    exact keepsValue_iff d
  · intro hdr hdr' pname s s' hname hrun
    rw [contactParam_expires d hname hrun]
    exact keepsExpires_iff d

def oneHour : Digits := ⟨lit "3600", by decide, forall_mem_of_all (by decide)⟩

theorem int_values_iff_oneHour :
    (KeepsValue oneHour 3600 ↔ Fits oneHour) ∧ (KeepsExpires oneHour 3600 ↔ FitsExpires oneHour) := by
  have h := int_values_iff oneHour (lit "\r\nTo: x") .wsHeader (by decide)
  exact ⟨h.1 parseHdrExpires (by simp) 3600 ⟨lit "To: x", .wsHeader⟩ (by decide),
    h.2.2.2 .init ⟨0, 3600, []⟩ (lit "Expires") ⟨[], .wsHeader⟩ ⟨[], .wsHeader⟩ (by decide) (by decide)⟩

def justTooLarge : Digits := ⟨lit "4294967297", by decide, forall_mem_of_all (by decide)⟩

/-- A value above 2^32 is stored as 1. -/
theorem int_value_wraps :
    parseHdrExpires.run ⟨justTooLarge.text ++ lit "\r\n", .wsHeader⟩ = (.ok 1, ⟨[], .wsHeader⟩) ∧
      ¬ KeepsValue justTooLarge 1 := by
  refine ⟨by decide, ?_⟩
  unfold KeepsValue
  decide

end PjProject.SipParser
