import PjProject.SipUriParser

/-!
# Unescaping in place

`pj_scan_get_unescape`, which the parser calls where `PJSIP_UNESCAPE_IN_PLACE` is set, beside
`pj_scan_get` followed by `pj_str_unescape`.
-/
namespace PjProject.SipParser
open Scanner

/-- A character class that may be given to `pj_scan_get_unescape`. -/
structure UnescSpec where
  has : UInt8 → Bool
  noNul : has 0 = false
  noPercent : has 37 = false

def UnescSpec.withPercent (u : UnescSpec) (c : UInt8) : Bool := u.has c || c = 37

def hexByte (a b : UInt8) : UInt8 := hexDigitToVal a * 16 + hexDigitToVal b

/-- The loop of `pj_scan_get_unescape`: the bytes at `dst`, and what is left at `s`. The byte behind the
buffer is a NUL, which is in no class. -/
def getUnescapeLoop (spec : UInt8 → Bool) : Bytes → Bytes × Bytes
  | [] => ([], [])
  | 37 :: a :: b :: s =>
    if isXdigit a && isXdigit b then
      let r := if (s.dropWhile spec).head? = some 37 then getUnescapeLoop spec (s.dropWhile spec)
        else ([], s.dropWhile spec)
      (hexByte a b :: (s.takeWhile spec ++ r.1), r.2)
    else ([37, a], b :: s)
  | c :: s =>
    if c = 37 then (37 :: s, [])
    else if spec c then
      let r := if (s.dropWhile spec).head? = some 37 then getUnescapeLoop spec (s.dropWhile spec)
        else ([], s.dropWhile spec)
      (c :: (s.takeWhile spec ++ r.1), r.2)
    else ([], c :: s)
termination_by s => s.length
decreasing_by
  all_goals
    have := (List.dropWhile_suffix (l := s) spec).length_le
    simp only [List.length_cons]
    omega

def getUnescape (spec : UInt8 → Bool) : Scan Bytes := fun sc =>
  if sc.rest.head?.any (fun c => spec c || c = 37) then
    let r := getUnescapeLoop spec sc.rest
    .ok (r.1, { sc with rest := settle sc.skipWs r.2 })
  else .error .syntaxErr

/-- `pj_scan_get` and then `pj_str_unescape` -/
def getCopy (spec : UInt8 → Bool) : Scan Bytes := do
  let token ← Scanner.get spec
  pure (strUnescape token)

/-- Where both go the same way: the digits of every escape are in the class, and the first '%' that starts
none is the last byte, or is followed by one byte of the class or a '%' and then by none. -/
def EscapesFit (u : UnescSpec) : Bytes → Bool
  | 37 :: a :: b :: s =>
    if isXdigit a && isXdigit b then u.has a && u.has b && EscapesFit u s
    else u.withPercent a && !u.withPercent b
  | [37, a] => u.withPercent a
  | c :: s => if c = 37 then true else if u.has c then EscapesFit u s else true
  | [] => true

section Walks

variable {u : UnescSpec} {a b c : UInt8} {s : Bytes}

attribute [local simp] strUnescape getUnescapeLoop

lemma withPercent_of_has (h : u.has c = true) : u.withPercent c = true := by simp [UnescSpec.withPercent, h]

lemma ne_percent_of_has (h : u.has c = true) : c ≠ 37 := by
  rintro rfl
  rw [u.noPercent] at h
  cases h

lemma strUnescape_cons (h : c ≠ 37) : strUnescape (c :: s) = c :: strUnescape s := by
  rw [strUnescape]
  rintro a b t rfl
  exact absurd rfl h

lemma strUnescape_escape (h : (isXdigit a && isXdigit b) = true) :
    strUnescape (37 :: a :: b :: s) = hexByte a b :: strUnescape s := by
  rw [strUnescape, if_pos h]
  rfl

lemma strUnescape_percent (h : ∀ b t, s = b :: t → (isXdigit a && isXdigit b) = false) :
    strUnescape (37 :: a :: s) = 37 :: strUnescape (a :: s) := by
  cases s with
  | nil => rfl
  | cons b t => rw [strUnescape, if_neg (by simp [h b t rfl])]

lemma strUnescape_ne_nil (h : s ≠ []) : strUnescape s ≠ [] := by
  induction s using strUnescape.induct with
  | case1 a b s hhex ih => simp [strUnescape_escape hhex]
  | case2 a b s hhex ih => simp [strUnescape_percent (s := b :: s) (by rintro b t ⟨⟩; simpa using hhex)]
  | case3 c s hesc ih => simp
  | case4 => exact absurd rfl h

lemma strUnescape_visible (a : UInt8) (h : ¬ isXdigit b = true) :
    strUnescape (a :: b :: s) = a :: strUnescape (b :: s) := by
  by_cases ha : a = 37
  · rw [ha, strUnescape_percent fun c t _ => by simp [h]]
  · exact strUnescape_cons ha

/-- `getCopy` as far as the whitespace. -/
def copied (u : UnescSpec) (s : Bytes) : Bytes × Bytes :=
  (strUnescape (s.takeWhile u.withPercent), s.dropWhile u.withPercent)

lemma copied_cons (h : u.has c = true) : copied u (c :: s) = (c :: (copied u s).1, (copied u s).2) := by
  have hc := withPercent_of_has h
  rw [copied, List.takeWhile_cons_of_pos hc, List.dropWhile_cons_of_pos hc, strUnescape_cons (ne_percent_of_has h)]
  rfl

lemma copied_stop (h : u.withPercent c = false) : copied u (c :: s) = ([], c :: s) := by
  rw [copied, List.takeWhile_cons_of_neg (by simp [h]), List.dropWhile_cons_of_neg (by simp [h])]
  rfl

lemma copied_percent (u : UnescSpec) (s : Bytes) : copied u (37 :: s) =
    (strUnescape (37 :: s.takeWhile u.withPercent), s.dropWhile u.withPercent) := by
  have hc : u.withPercent 37 = true := by simp [UnescSpec.withPercent]
  rw [copied, List.takeWhile_cons_of_pos hc, List.dropWhile_cons_of_pos hc]

lemma copied_escape (h : (isXdigit a && isXdigit b) = true) (ha : u.has a = true) (hb : u.has b = true) :
    copied u (37 :: a :: b :: s) = (hexByte a b :: (copied u s).1, (copied u s).2) := by
  rw [copied_percent, List.takeWhile_cons_of_pos (withPercent_of_has ha),
    List.takeWhile_cons_of_pos (withPercent_of_has hb), List.dropWhile_cons_of_pos (withPercent_of_has ha),
    List.dropWhile_cons_of_pos (withPercent_of_has hb), strUnescape_escape h]
  rfl

lemma getUnescapeLoop_run (u : UnescSpec) (s : Bytes) : getUnescapeLoop u.has s =
      (s.takeWhile u.has ++ (if (s.dropWhile u.has).head? = some 37 then getUnescapeLoop u.has (s.dropWhile u.has)
        else ([], s.dropWhile u.has)).1,
      (if (s.dropWhile u.has).head? = some 37 then getUnescapeLoop u.has (s.dropWhile u.has)
        else ([], s.dropWhile u.has)).2) := by
  cases s with
  | nil => simp
  | cons c s =>
    by_cases hp : c = 37
    · subst hp
      simp [u.noPercent]
    · by_cases hc : u.has c = true
      · rw [getUnescapeLoop, if_neg hp, if_pos hc, List.takeWhile_cons_of_pos hc, List.dropWhile_cons_of_pos hc]
        · rfl
        · rintro a b t rfl
          exact absurd rfl hp
      · rw [getUnescapeLoop, if_neg hp, if_neg hc, List.takeWhile_cons_of_neg hc, List.dropWhile_cons_of_neg hc,
          if_neg (by simpa using hp)]
        · rfl
        · rintro a b t rfl
          exact absurd rfl hp

lemma getUnescapeLoop_cons (h : u.has c = true) :
    getUnescapeLoop u.has (c :: s) = (c :: (getUnescapeLoop u.has s).1, (getUnescapeLoop u.has s).2) := by
  rw [getUnescapeLoop, if_neg (ne_percent_of_has h), if_pos h, getUnescapeLoop_run u s]
  rintro a b t rfl
  exact absurd rfl (ne_percent_of_has h)

lemma getUnescapeLoop_stop (hp : c ≠ 37) (h : u.has c = false) :
    getUnescapeLoop u.has (c :: s) = ([], c :: s) := by
  rw [getUnescapeLoop, if_neg hp, if_neg (by simp [h])]
  rintro a b t rfl
  exact absurd rfl hp

lemma getUnescapeLoop_escape (h : (isXdigit a && isXdigit b) = true) :
    getUnescapeLoop u.has (37 :: a :: b :: s) =
      (hexByte a b :: (getUnescapeLoop u.has s).1, (getUnescapeLoop u.has s).2) := by
  rw [getUnescapeLoop, if_pos h, getUnescapeLoop_run u s]

lemma getUnescapeLoop_malformed (h : ¬ (isXdigit a && isXdigit b) = true) :
    getUnescapeLoop u.has (37 :: a :: b :: s) = ([37, a], b :: s) := by
  rw [getUnescapeLoop, if_neg h]

lemma getUnescapeLoop_last (h : s.length ≤ 1) : getUnescapeLoop u.has (37 :: s) = (37 :: s, []) := by
  rw [getUnescapeLoop, if_pos rfl]
  rintro a b t - rfl
  simp at h

lemma eq_nil_of_short (htwo : ∀ a b t, s = a :: b :: t → False) (hone : ∀ a, s = [a] → False) : s = [] := by
  cases s with
  | nil => rfl
  | cons a s =>
    cases s with
    | nil => exact (hone a rfl).elim
    | cons b s => exact (htwo a b s rfl).elim

lemma getUnescapeLoop_le (u : UnescSpec) (s : Bytes) : (getUnescapeLoop u.has s).2.length ≤ s.length := by
  induction s using EscapesFit.induct u with
  | case1 a b s hhex ih =>
    rw [getUnescapeLoop_escape hhex]
    exact ih.trans (by simp only [List.length_cons]; omega)
  | case2 a b s hhex =>
    rw [getUnescapeLoop_malformed hhex]
    simp only [List.length_cons]
    omega
  | case3 a => simp
  | case4 s htwo hone =>
    obtain rfl := eq_nil_of_short (fun a b t => htwo a b t rfl) fun a => hone a rfl
    simp
  | case5 c s _ _ hp hc ih =>
    rw [getUnescapeLoop_cons hc]
    exact ih.trans (Nat.le_succ _)
  | case6 c s _ _ hp hc => rw [getUnescapeLoop_stop hp (by simpa using hc)]
  | case7 => simp

def Agree (u : UnescSpec) (opt : SkipWs) (s : Bytes) : Prop :=
  (getUnescapeLoop u.has s).1 = (copied u s).1 ∧ settle opt (getUnescapeLoop u.has s).2 = settle opt (copied u s).2

lemma settle_ne {opt : SkipWs} {r : Bytes} (hc : isProbablySpace c = false) (h : r.length ≤ s.length) :
    settle opt r ≠ settle opt (c :: s) := by
  intro heq
  have hle := settle_le opt r
  rw [heq, settle_plain (by simpa using hc), List.length_cons] at hle
  omega

lemma not_space_of_isXdigit (h : isXdigit c = true) : isProbablySpace c = false := by
  simp only [isXdigit, isDigit, isProbablySpace, Bool.or_eq_true, Bool.and_eq_true, decide_eq_true_eq,
    Bool.or_eq_false_iff, decide_eq_false_iff_not, UInt8.le_iff_toNat_le, UInt8.reduceToNat] at h ⊢
  omega

lemma agree_cons {opt : SkipWs} {x : UInt8} {t : Bytes}
    (hloop : getUnescapeLoop u.has t = (x :: (getUnescapeLoop u.has s).1, (getUnescapeLoop u.has s).2))
    (hcopy : copied u t = (x :: (copied u s).1, (copied u s).2)) : Agree u opt t ↔ Agree u opt s := by
  rw [Agree, hloop, hcopy, List.cons_inj_right]
  rfl

lemma not_agree_escape {opt : SkipWs} (hhex : (isXdigit a && isXdigit b) = true)
    (h : (u.has a && u.has b) = false) : ¬ Agree u opt (37 :: a :: b :: s) := by
  obtain ⟨ha, hb⟩ : isXdigit a = true ∧ isXdigit b = true := by simpa using hhex
  have hpercent : ∀ c, isXdigit c = true → c ≠ 37 := by
    rintro c hc rfl
    exact absurd hc (by decide)
  have hle := getUnescapeLoop_le u s
  rintro ⟨-, hrest⟩
  rw [getUnescapeLoop_escape hhex, copied_percent] at hrest
  by_cases hua : u.has a = true
  · have hub : u.withPercent b = false := by
      simpa [hua, UnescSpec.withPercent, hpercent b hb] using h
    rw [List.dropWhile_cons_of_pos (withPercent_of_has hua), List.dropWhile_cons_of_neg (by simp [hub])] at hrest
    exact settle_ne (not_space_of_isXdigit hb) hle hrest
  · have hna : u.withPercent a = false := by
      simpa [UnescSpec.withPercent, hpercent a ha] using hua
    rw [List.dropWhile_cons_of_neg (by simp [hna])] at hrest
    exact settle_ne (not_space_of_isXdigit ha) (hle.trans (Nat.le_succ _)) hrest

lemma agree_malformed {opt : SkipWs} (hhex : ¬ (isXdigit a && isXdigit b) = true) :
    Agree u opt (37 :: a :: b :: s) ↔ (u.withPercent a && !u.withPercent b) = true := by
  rw [Agree, getUnescapeLoop_malformed hhex, copied_percent]
  by_cases ha : u.withPercent a = true
  · rw [List.takeWhile_cons_of_pos ha, List.dropWhile_cons_of_pos ha]
    by_cases hb : u.withPercent b = true
    · rw [List.takeWhile_cons_of_pos hb, List.dropWhile_cons_of_pos hb]
      refine iff_of_false ?_ (by simp [hb])
      rintro ⟨htext, hrest⟩
      by_cases hspace : isProbablySpace b = true
      · have hb' : ¬ isXdigit b = true := fun hx => by simp [not_space_of_isXdigit hx] at hspace
        have hlen := congrArg List.length htext
        rw [strUnescape_percent (by rintro b t ⟨⟩; simpa using hhex), List.length_cons,
          strUnescape_visible a hb', List.length_cons, List.length_cons] at hlen
        exact strUnescape_ne_nil (List.cons_ne_nil _ _) (List.eq_nil_of_length_eq_zero (by simpa using hlen.symm))
      · exact settle_ne (by simpa using hspace) (List.dropWhile_suffix _).length_le hrest.symm
    · rw [List.takeWhile_cons_of_neg hb, List.dropWhile_cons_of_neg hb]
      exact iff_of_true ⟨by simp, rfl⟩ (by simp [ha, hb])
  · rw [List.takeWhile_cons_of_neg ha]
    refine iff_of_false ?_ (by simp [ha])
    rintro ⟨htext, -⟩
    exact absurd (congrArg List.length htext) (by simp)

lemma agree_iff (u : UnescSpec) (opt : SkipWs) (s : Bytes) : Agree u opt s ↔ EscapesFit u s = true := by
  induction s using EscapesFit.induct u with
  | case1 a b s hhex ih =>
    rw [EscapesFit, if_pos hhex]
    by_cases hfit : (u.has a && u.has b) = true
    · obtain ⟨ha, hb⟩ : u.has a = true ∧ u.has b = true := by simpa using hfit
      rw [agree_cons (getUnescapeLoop_escape hhex) (copied_escape hhex ha hb), ih, ha, hb]
      simp
    · rw [Bool.not_eq_true] at hfit
      exact iff_of_false (not_agree_escape hhex hfit) (by simp [hfit])
  | case2 a b s hhex => rw [agree_malformed hhex, EscapesFit, if_neg hhex]
  | case3 a =>
    rw [EscapesFit, Agree, getUnescapeLoop_last (by simp), copied_percent]
    by_cases ha : u.withPercent a = true
    · rw [List.takeWhile_cons_of_pos ha, List.dropWhile_cons_of_pos ha]
      exact iff_of_true ⟨by simp, rfl⟩ ha
    · rw [List.takeWhile_cons_of_neg ha]
      refine iff_of_false ?_ ha
      rintro ⟨htext, -⟩
      exact absurd (congrArg List.length htext) (by simp)
  | case4 s htwo hone =>
    obtain rfl := eq_nil_of_short (fun a b t => htwo a b t rfl) fun a => hone a rfl
    rw [Agree, getUnescapeLoop_last (by simp), copied_percent]
    exact iff_of_true ⟨rfl, rfl⟩ rfl
  | case5 c s htwo hone hp hc ih =>
    rw [EscapesFit, if_neg hp, if_pos hc, agree_cons (getUnescapeLoop_cons hc) (copied_cons hc), ih]
    · exact htwo
    · exact hone
  | case6 c s htwo hone hp hc =>
    rw [Bool.not_eq_true] at hc
    rw [Agree, getUnescapeLoop_stop hp hc, copied_stop (by simp [UnescSpec.withPercent, hc, hp]), EscapesFit,
      if_neg hp, if_neg (by simp [hc])]
    · exact iff_of_true ⟨rfl, rfl⟩ rfl
    · exact htwo
    · exact hone
  | case7 => exact iff_of_true ⟨by simp [copied], by simp [copied]⟩ rfl

end Walks

section Calls

variable {u : UnescSpec} {opt : SkipWs} {c : UInt8} {s : Bytes}

lemma getUnescape_ok (h : u.withPercent c = true) : getUnescape u.has ⟨c :: s, opt⟩ =
    .ok ((getUnescapeLoop u.has (c :: s)).1, ⟨settle opt (getUnescapeLoop u.has (c :: s)).2, opt⟩) := if_pos h

lemma getCopy_ok (h : u.withPercent c = true) : getCopy u.withPercent ⟨c :: s, opt⟩ =
    .ok ((copied u (c :: s)).1, ⟨settle opt (copied u (c :: s)).2, opt⟩) := by
  have hget : Scanner.get u.withPercent ⟨c :: s, opt⟩ = .ok ((c :: s).takeWhile u.withPercent,
      ⟨settle opt ((c :: s).dropWhile u.withPercent), opt⟩) :=
    if_neg (by rw [List.takeWhile_cons_of_pos h]; simp)
  change (Scanner.get u.withPercent ⟨c :: s, opt⟩ >>= fun r => (pure (strUnescape r.1) : Scan Bytes) r.2) = _
  rw [hget]
  rfl

lemma getUnescape_error (h : u.withPercent c = false) : getUnescape u.has ⟨c :: s, opt⟩ = .error .syntaxErr :=
  if_neg (by simpa [UnescSpec.withPercent] using h)

lemma getCopy_error (h : u.withPercent c = false) : getCopy u.withPercent ⟨c :: s, opt⟩ = .error .syntaxErr := by
  have hget : Scanner.get u.withPercent ⟨c :: s, opt⟩ = .error .syntaxErr :=
    if_pos (List.takeWhile_cons_of_neg (by simp [h]))
  change (Scanner.get u.withPercent ⟨c :: s, opt⟩ >>= fun r => (pure (strUnescape r.1) : Scan Bytes) r.2) = _
  rw [hget]
  rfl

end Calls

/-- Unescaping in place gives the text, the place and the errors of copying if and only if the escapes on
the way fit. -/
theorem unescape_in_place_iff (u : UnescSpec) (sc : Scanner.State) :
    getUnescape u.has sc = getCopy u.withPercent sc ↔ EscapesFit u sc.rest = true := by
  obtain ⟨rest, opt⟩ := sc
  cases rest with
  | nil => exact iff_of_true rfl rfl
  | cons c s =>
    by_cases hc : u.withPercent c = true
    · rw [← agree_iff u opt, getUnescape_ok hc, getCopy_ok hc, Agree]
      simp
    · rw [Bool.not_eq_true] at hc
      rw [getUnescape_error hc, getCopy_error hc]
      obtain ⟨hno, hp⟩ : u.has c = false ∧ c ≠ 37 := by simpa [UnescSpec.withPercent] using hc
      refine iff_of_true rfl ((agree_iff u opt _).1 ?_)
      rw [Agree, getUnescapeLoop_stop hp hno, copied_stop hc]
      exact ⟨rfl, rfl⟩

def alnumSpec : UnescSpec := ⟨isAlnum, by decide, by decide⟩

/-- A '%' in front of two letters that are no digits: in place only the first one is taken. -/
theorem malformed_escape_differs :
    getUnescape alnumSpec.has ⟨lit "%zzabc", .ws⟩ = .ok (lit "%z", ⟨lit "zabc", .ws⟩) ∧
    getCopy alnumSpec.withPercent ⟨lit "%zzabc", .ws⟩ = .ok (lit "%zzabc", ⟨[], .ws⟩) ∧
    getUnescape alnumSpec.has ⟨lit "%zzabc", .ws⟩ ≠ getCopy alnumSpec.withPercent ⟨lit "%zzabc", .ws⟩ := by
  decide +kernel

end PjProject.SipParser
