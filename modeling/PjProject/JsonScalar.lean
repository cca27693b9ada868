import PjProject.SipParserNum
import PjProject.JsonText

/-!
# Values in JSON documents

The numbers, the constants and the texts with a name are read as they were written. A constant of four
letters is compared with "false" first, for which the last four bytes of a document are not enough.
-/
namespace PjProject.Json

open Scanner SipParser PjProject.Parser

lemma roundEven_int (n : ℤ) : roundEven n = n := by simp [roundEven]

variable {n : ℤ}

lemma toFloat_int (h : n.natAbs < 2 ^ 24) : toFloat n = n := by
  have hlog : Int.log 2 |(n : ℚ)| ≤ 23 := by
    by_cases hn : n = 0
    · simp [hn]
    · have hpos : (0 : ℚ) < |(n : ℚ)| := by simpa using hn
      have hlt : |(n : ℚ)| < (2 : ℕ) ^ (24 : ℤ) := by
        rw [← Int.cast_abs, Int.abs_eq_natAbs]
        exact_mod_cast h
      have := (Int.lt_zpow_iff_log_lt (by norm_num) hpos).1 hlt
      omega
  obtain ⟨k, hk⟩ : ∃ k : ℕ, max (Int.log 2 |(n : ℚ)| - 23) (-149) = -(k : ℤ) :=
    ⟨(-max (Int.log 2 |(n : ℚ)| - 23) (-149)).toNat, by omega⟩
  have hdiv : (n : ℚ) / 2 ^ (-(k : ℤ)) = ((n * 2 ^ k : ℤ) : ℚ) := by
    push_cast
    rw [zpow_neg, zpow_natCast]
    field_simp
  rw [toFloat, hk, hdiv, roundEven_int]
  push_cast
  rw [zpow_neg, zpow_natCast]
  field_simp

lemma digitsFrom_utoa (n : ℕ) : digitsFrom 0 (utoa n) = n := by
  rw [digitsFrom, List.takeWhile_eq_self_iff.2 (utoa_digits n), utoa]
  split_ifs with h
  · rw [h]
    rfl
  · rw [List.foldl_map]
    calc _ = (Nat.digits 10 n).reverse.foldl (fun v d => v * 10 + d) 0 := by
          refine List.foldl_ext _ _ _ fun v d hd => ?_
          rw [(isDigit_digit (Nat.digits_lt_base (by norm_num) (List.mem_reverse.1 hd))).2]
      _ = n := foldl_digits n

lemma strtof_utoa {n : ℕ} (h : n < 2 ^ 24) : strtof (utoa n) = n := by
  have hdigits := utoa_digits n
  have hpoint : ∀ c ∈ utoa n, decide (c ≠ 46) = true := by
    intro c hc
    have hd := hdigits c hc
    refine decide_eq_true fun h46 => ?_
    rw [h46] at hd
    cases hd
  have hhead : (utoa n).head? ≠ some 45 ∧ (utoa n).head? ≠ some 43 := by
    constructor <;>
    · intro hc
      exact absurd (hdigits _ (List.mem_of_head? hc)) (by decide)
  have hval : strtol (utoa n) = n := by
    rw [strtol, if_neg hhead.1, if_neg hhead.2, strtoul_eq, digitsFrom_utoa, maxLong]
    omega
  rw [strtof, List.takeWhile_eq_self_iff.2 hpoint, List.dropWhile_eq_nil_iff.2 hpoint]
  dsimp only
  rw [if_neg (utoa_ne_nil n), hval]
  exact toFloat_int h

section Reads

variable {α β : Type} {p : Parse α} {f : α → Parse β} {s t u : Bytes} {a : α} {b : β} {good rest : Prop}

/-- The parser gives the value, and leaves `t`, where the condition holds. Elsewhere it does not give this
value. -/
structure Reads (p : Parse α) (s : Bytes) (a : α) (t : Bytes) (good : Prop) : Prop where
  run : good → p.run ⟨s, .off⟩ = (.ok a, ⟨t, .off⟩)
  of_ok : ∀ u, p.run ⟨s, .off⟩ = (.ok a, u) → good

lemma Reads.of_run (h : p.run ⟨s, .off⟩ = (.ok a, ⟨t, .off⟩)) : Reads p s a t True :=
  ⟨fun _ => h, fun _ _ => trivial⟩

lemma Reads.congr (h : Reads p s a t good) (hiff : good ↔ rest) : Reads p s a t rest :=
  ⟨fun hr => h.run (hiff.2 hr), fun v hv => hiff.1 (h.of_ok v hv)⟩

lemma Reads.of_eq {q : Parse α} (h : Reads p s a t good) (heq : q.run ⟨u, .off⟩ = p.run ⟨s, .off⟩) :
    Reads q u a t good :=
  ⟨fun hg => heq.trans (h.run hg), fun v hv => h.of_ok v (heq.symm.trans hv)⟩

lemma Reads.bind (hp : Reads p s a t good) (hf : good → Reads (f a) t b u rest)
    (hinj : ∀ c v w, p.run ⟨s, .off⟩ = (.ok c, v) → (f c).run v = (.ok b, w) → c = a) :
    Reads (p >>= f) s b u (good ∧ rest) := by
  constructor
  · rintro ⟨hgood, hrest⟩
    rw [bind_ok (hp.run hgood)]
    exact (hf hgood).run hrest
  · intro w h
    obtain ⟨c, v, hc, hv⟩ := bind_eq_ok h
    obtain rfl := hinj c v w hc hv
    have hgood := hp.of_ok v hc
    rw [hp.run hgood] at hc
    obtain ⟨-, rfl⟩ := Prod.mk.inj hc
    exact ⟨hgood, (hf hgood).of_ok w hv⟩

lemma Reads.map {g : α → β} (hg : Function.Injective g) (hp : Reads p s a t good) :
    Reads (p >>= fun a => pure (g a)) s (g a) t good := by
  refine Reads.congr (Reads.bind hp (fun _ => Reads.of_run rfl) fun c v w _ hw => ?_) (and_iff_left trivial)
  rw [pure_run] at hw
  exact hg (Outcome.ok.inj (Prod.mk.inj hw).1)

end Reads

@[simp] lemma settle_off (s : Bytes) : settle .off s = s := by simp [settle]

lemma token_ok {α : Type} {m : Scan α} {s t : Bytes} {a : α}
    (h : (scan m).run ⟨s, .off⟩ = (.ok a, ⟨t, .off⟩)) :
    (token m).run ⟨s, .off⟩ = (.ok a, ⟨skipBlank t, .off⟩) := by
  rw [token, bind_ok h]
  rfl

variable {c : UInt8}

lemma token_getChar (s : Bytes) (hc : c ≠ 0) :
    (token getChar).run ⟨c :: s, .off⟩ = (.ok c, ⟨skipBlank s, .off⟩) :=
  token_ok (by rw [getChar_cons hc, settle_off])

lemma token_get {spec : UInt8 → Bool} {text s : Bytes} (hne : text ≠ []) (htext : ∀ c ∈ text, spec c = true)
    (hs : ∀ c ∈ s.head?, spec c = false) :
    (token (get spec)).run ⟨text ++ s, .off⟩ = (.ok text, ⟨skipBlank s, .off⟩) :=
  token_ok (by rw [get_token .off hne htext hs, settle_off])

lemma token_getQuote (str s : Bytes) : (token (getQuote 34 34)).run ⟨34 :: (escaped str ++ 34 :: s), .off⟩ =
      (.ok (34 :: (escaped str ++ [34])), ⟨skipBlank s, .off⟩) := by
  refine token_ok (scan_ok ?_)
  simp [getQuote, closeQuote_escaped]

lemma skipBlank_cons (s : Bytes) (h : isBlank c = false) : skipBlank (c :: s) = c :: s := by
  simp [skipBlank, h]

lemma digit_cases {p : UInt8 → Prop} (h : ∀ i < 10, p (UInt8.ofNat (48 + i))) (hc : isDigit c = true) :
    p c := by
  simp only [isDigit, Bool.and_eq_true, decide_eq_true_eq, UInt8.le_iff_toNat_le] at hc
  have hlow : 48 ≤ c.toNat := hc.1
  have hhigh : c.toNat ≤ 57 := hc.2
  have := h (c.toNat - 48) (by omega)
  rwa [Nat.add_sub_cancel' hlow, UInt8.ofNat_toNat] at this

lemma digit_facts (h : isDigit c = true) : floatSpec c = true ∧ isBlank c = false ∧ c ≠ 45 :=
  digit_cases (p := fun c => floatSpec c = true ∧ isBlank c = false ∧ c ≠ 45) (by decide) h

lemma parseNumber_run {tail : Bytes} (hn : n.natAbs < 2 ^ 24)
    (htail : ∀ c ∈ tail.head?, floatSpec c = false) :
    parseNumber.run ⟨printInt n ++ tail, .off⟩ = (.ok (n : ℚ), ⟨skipBlank tail, .off⟩) := by
  have hdigits := utoa_digits n.natAbs
  have hget := token_get (utoa_ne_nil n.natAbs) (fun c hc => (digit_facts (hdigits c hc)).1) htail
  obtain ⟨d, s, hd⟩ := List.exists_cons_of_ne_nil (utoa_ne_nil n.natAbs)
  obtain ⟨-, hblank, hminus⟩ := digit_facts (hdigits d (by simp [hd]))
  have hskip : skipBlank (utoa n.natAbs ++ tail) = utoa n.natAbs ++ tail := by
    rw [hd]
    exact skipBlank_cons (s ++ tail) hblank
  rw [parseNumber, look_bind, printInt]
  by_cases hneg : n < 0
  · have habs : -((n.natAbs : ℕ) : ℚ) = n := by
      rw [← Int.cast_natCast, ← Int.cast_neg]
      congr 1
      omega
    have hfirst : curptr ⟨45 :: utoa n.natAbs ++ tail, .off⟩ = 45 := rfl
    rw [if_pos hneg, if_pos hfirst, List.cons_append, bind_ok (token_getChar _ (by decide)), hskip, bind_ok hget,
      strtof_utoa hn, habs]
    rfl
  · have habs : ((n.natAbs : ℕ) : ℚ) = n := by
      rw [← Int.cast_natCast]
      congr 1
      omega
    have hfirst : ¬ curptr ⟨utoa n.natAbs ++ tail, .off⟩ = 45 := by
      rw [hd]
      exact hminus
    rw [if_neg hneg, if_neg hfirst, bind_ok hget, strtof_utoa hn, habs]
    rfl

lemma parseQuotedString_run (str tail : Bytes) :
    parseQuotedString.run ⟨34 :: (escaped str ++ 34 :: tail), .off⟩ = (.ok str, ⟨skipBlank tail, .off⟩) := by
  rw [parseQuotedString, look_bind, bind_ok (token_getQuote str tail)]
  have hunquote : unquote (34 :: (escaped str ++ [34])) = escaped str := by simp [unquote]
  rw [hunquote, quotedText, unescape_escaped]
  by_cases hslash : 92 ∈ escaped str
  · rw [if_neg (by simpa using hslash)]
    rfl
  · rw [if_pos (by simpa using hslash), escaped_of_no_backslash hslash]
    rfl

lemma strcmp_same (text s : Bytes) :
    (scan (strcmp text)).run ⟨text ++ s, .off⟩ = (.ok true, ⟨text ++ s, .off⟩) :=
  scan_ok (by simp [strcmp])

lemma strcmp_other {text s : Bytes} {d : UInt8} (hc : text.head? = some c) (hd : s.head? = some d) (hne : c ≠ d)
    (h : text.length ≤ s.length) : (scan (strcmp text)).run ⟨s, .off⟩ = (.ok false, ⟨s, .off⟩) := by
  refine scan_ok ?_
  have htake : s.take text.length ≠ text := by
    intro heq
    rw [← heq, List.head?_take, hd] at hc
    split_ifs at hc
    exact hne (Option.some.inj hc).symm
  simp [strcmp, h, htake]

lemma token_advance (text s : Bytes) :
    (token (advance text.length)).run ⟨text ++ s, .off⟩ = (.ok (), ⟨skipBlank s, .off⟩) := by
  refine token_ok (scan_ok ?_)
  simp [advance]

lemma parseConstant_reads {value : Scalar} (text tail : Bytes)
    (h : (text, value) ∈ [(lit "null", .null), (lit "true", .bool true), (lit "false", Scalar.bool false)]) :
    Reads parseConstant (text ++ tail) value (skipBlank tail) (5 ≤ (text ++ tail).length) := by
  constructor
  · intro hlen
    simp only [List.mem_cons, Prod.mk.injEq, List.not_mem_nil, or_false] at h
    rcases h with ⟨rfl, rfl⟩ | ⟨rfl, rfl⟩ | ⟨rfl, rfl⟩
    · have hhead : (lit "null" ++ tail).head? = some 110 := rfl
      have hfalse := strcmp_other (show (lit "false").head? = some 102 from rfl) hhead (by decide) hlen
      have htrue := strcmp_other (show (lit "true").head? = some 116 from rfl) hhead (by decide)
        (Nat.le_of_succ_le hlen)
      have hadvance : (token (advance 4)).run ⟨lit "null" ++ tail, .off⟩ = _ := token_advance (lit "null") tail
      rw [parseConstant, bind_ok hfalse, if_neg (by decide), bind_ok htrue, if_neg (by decide),
        bind_ok (strcmp_same (lit "null") tail), if_pos rfl, bind_ok hadvance]
      rfl
    · have hhead : (lit "true" ++ tail).head? = some 116 := rfl
      have hfalse := strcmp_other (show (lit "false").head? = some 102 from rfl) hhead (by decide) hlen
      have hadvance : (token (advance 4)).run ⟨lit "true" ++ tail, .off⟩ = _ := token_advance (lit "true") tail
      rw [parseConstant, bind_ok hfalse, if_neg (by decide), bind_ok (strcmp_same (lit "true") tail), if_pos rfl,
        bind_ok hadvance]
      rfl
    · have hadvance : (token (advance 5)).run ⟨lit "false" ++ tail, .off⟩ = _ := token_advance (lit "false") tail
      rw [parseConstant, bind_ok (strcmp_same (lit "false") tail), if_pos rfl, bind_ok hadvance]
      rfl
  · intro u hu
    obtain ⟨same, v, hsame, -⟩ := bind_eq_ok hu
    by_contra hlen
    rw [scan_error (if_pos (not_le.1 hlen))] at hsame
    cases hsame

def Scalar.Short (value : Scalar) : Prop := value = .null ∨ value = .bool true

/-- The numbers are integers that a `float` keeps. -/
def Scalar.Exact (value : Scalar) : Prop :=
  ∀ num, value = .number num → ∃ n : ℤ, n.natAbs < 2 ^ 24 ∧ num = n

lemma writeScalar_number (h : n.natAbs < 2 ^ 24) : (writeScalar (.number n)).flatten = printInt n := by
  have hlow : (-2 ^ 31 : ℚ) ≤ n := by
    have : (-2 ^ 31 : ℤ) ≤ n := by omega
    exact_mod_cast this
  have hhigh : (n : ℚ) < 2 ^ 31 := by
    have : n < (2 ^ 31 : ℤ) := by omega
    exact_mod_cast this
  rw [writeScalar, if_pos ⟨Rat.den_intCast n, hlow, hhigh⟩]
  simp

lemma parseValue_scalar {children : Kind → Parse (List Elem)} {value : Scalar} (name tail : Bytes)
    (hvalue : value.Exact) (htail : ∀ c ∈ tail.head?, floatSpec c = false) :
    Reads (parseValue children name) ((writeScalar value).flatten ++ tail) (.scalar name value) (skipBlank tail)
      (tail = [] → ¬ value.Short) := by
  have hinj : Function.Injective (Elem.scalar name) := fun v w h => (Elem.scalar.inj h).2
  have hconst : ∀ text : Bytes, (text, value) ∈
      [(lit "null", .null), (lit "true", .bool true), (lit "false", Scalar.bool false)] →
      Reads (parseValue children name) (text ++ tail) (.scalar name value) (skipBlank tail)
        (5 ≤ (text ++ tail).length) := by
    intro text h
    refine Reads.of_eq (Reads.map hinj (parseConstant_reads text tail h)) ?_
    have hc : curptr ⟨text ++ tail, .off⟩ ∈ [110, 116, (102 : UInt8)] := by
      simp only [List.mem_cons, Prod.mk.injEq, List.not_mem_nil, or_false] at h ⊢
      rcases h with ⟨rfl, -⟩ | ⟨rfl, -⟩ | ⟨rfl, -⟩
      · exact .inl rfl
      · exact .inr (.inl rfl)
      · exact .inr (.inr rfl)
    have hkind : ∀ c ∈ [110, 116, (102 : UInt8)], ¬ (floatSpec c ∨ c = 45) ∧ c ≠ 34 ∧ isAlpha c = true :=
      forall_mem_of_all (by decide)
    obtain ⟨hnum, hquote, halpha⟩ := hkind _ hc
    rw [parseValue, look_bind, if_neg hnum, if_neg hquote, if_pos halpha]
  cases value with
  | null =>
    refine (hconst (lit "null") (by simp)).congr ?_
    cases tail <;> simp [Scalar.Short, lit]
  | bool isTrue =>
    cases isTrue with
    | true =>
      refine (hconst (lit "true") (by simp)).congr ?_
      cases tail <;> simp [Scalar.Short, lit]
    | false =>
      refine (hconst (lit "false") (by simp)).congr ?_
      cases tail <;> simp [Scalar.Short, lit]
  | number num =>
    obtain ⟨n, hn, rfl⟩ := hvalue num rfl
    rw [writeScalar_number hn]
    have hread := Reads.of_run (parseNumber_run hn htail)
    refine (Reads.of_eq (Reads.map (g := fun num => Elem.scalar name (.number num)) ?_ hread) ?_).congr ?_
    · intro x y h
      exact Scalar.number.inj (hinj h)
    · have hhead : floatSpec (curptr ⟨printInt n ++ tail, .off⟩) ∨
          curptr ⟨printInt n ++ tail, .off⟩ = 45 := by
        rw [printInt]
        split_ifs
        · exact .inr rfl
        · obtain ⟨d, s, hd⟩ := List.exists_cons_of_ne_nil (utoa_ne_nil n.natAbs)
          rw [hd]
          exact .inl (digit_facts (utoa_digits n.natAbs d (by simp [hd]))).1
      rw [parseValue, look_bind, if_pos hhead]
    · simp [Scalar.Short]
  | string str =>
    have htext : (writeScalar (.string str)).flatten ++ tail = 34 :: (escaped str ++ 34 :: tail) := by
      simp [writeScalar, writeStringEscaped_flatten]
    rw [htext]
    have hread := Reads.of_run (parseQuotedString_run str tail)
    refine (Reads.of_eq (Reads.map (g := fun str => Elem.scalar name (.string str)) ?_ hread) ?_).congr ?_
    · intro x y h
      exact Scalar.string.inj (hinj h)
    · have hquote : curptr ⟨34 :: (escaped str ++ 34 :: tail), .off⟩ = 34 := rfl
      rw [parseValue, look_bind, if_neg (by rw [hquote]; decide), if_pos hquote]
    · simp [Scalar.Short]

end PjProject.Json
