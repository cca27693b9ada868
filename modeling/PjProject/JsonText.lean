import Mathlib.Data.List.TakeWhile
import PjProject.Json

/-!
# Texts in JSON documents

A text is written with escapes. The value of a member of an object is read with them, but a name, and a text
without one, is taken as it stands in the document.
-/
namespace PjProject.Json

open Scanner SipParser

def escaped (s : Bytes) : Bytes := s.flatMap escape

@[simp] lemma escaped_nil : escaped [] = [] := rfl

@[simp] lemma escaped_cons (c : UInt8) (s : Bytes) : escaped (c :: s) = escape c ++ escaped s := rfl

lemma writeStringEscaped_flatten (buf value : Bytes) :
    (writeStringEscaped buf value).flatten = buf ++ escaped value := by
  induction value generalizing buf with
  | nil =>
    rw [writeStringEscaped]
    split_ifs with h
    · simp [h]
    · simp
  | cons c value ih =>
    rw [writeStringEscaped]
    split_ifs <;> simp [ih]

def shortEscapes : List (UInt8 × UInt8) :=
  [(34, 34), (92, 92), (47, 47), (8, 98), (12, 102), (10, 110), (13, 114), (9, 116)]

lemma escape_cases (c : UInt8) : (∃ d, escape c = [92, d] ∧ (c, d) ∈ shortEscapes) ∨
    (escape c = [c] ∧ c ≠ 34 ∧ c ≠ 92 ∧ 32 ≤ c) ∨ escape c = 92 :: 117 :: 48 :: 48 :: valToHexDigit c := by
  unfold escape
  by_cases h34 : c = 34
  · exact .inl ⟨34, if_pos h34, by simp [shortEscapes, h34]⟩
  rw [if_neg h34]
  by_cases h92 : c = 92
  · exact .inl ⟨92, if_pos h92, by simp [shortEscapes, h92]⟩
  rw [if_neg h92]
  by_cases h47 : c = 47
  · exact .inl ⟨47, if_pos h47, by simp [shortEscapes, h47]⟩
  rw [if_neg h47]
  by_cases h8 : c = 8
  · exact .inl ⟨98, if_pos h8, by simp [shortEscapes, h8]⟩
  rw [if_neg h8]
  by_cases h12 : c = 12
  · exact .inl ⟨102, if_pos h12, by simp [shortEscapes, h12]⟩
  rw [if_neg h12]
  by_cases h10 : c = 10
  · exact .inl ⟨110, if_pos h10, by simp [shortEscapes, h10]⟩
  rw [if_neg h10]
  by_cases h13 : c = 13
  · exact .inl ⟨114, if_pos h13, by simp [shortEscapes, h13]⟩
  rw [if_neg h13]
  by_cases h9 : c = 9
  · exact .inl ⟨116, if_pos h9, by simp [shortEscapes, h9]⟩
  rw [if_neg h9]
  by_cases hplain : 32 ≤ c ∧ c < 127
  · exact .inr (.inl ⟨if_pos hplain, h34, h92, hplain.1⟩)
  · exact .inr (.inr (if_neg hplain))

lemma length_escape (c : UInt8) : 1 ≤ (escape c).length := by
  rcases escape_cases c with ⟨d, h, -⟩ | ⟨h, -⟩ | h <;> simp [h]

lemma escape_head (c : UInt8) : escape c = [c] ∨ (escape c).head? = some 92 := by
  rcases escape_cases c with ⟨d, h, -⟩ | ⟨h, -⟩ | h
  · exact .inr (by rw [h]; rfl)
  · exact .inl h
  · exact .inr (by rw [h]; rfl)

variable {c : UInt8}

lemma escape_length_one (hlen : (escape c).length = 1) : escape c = [c] := by
  rcases escape_cases c with ⟨d, h, -⟩ | ⟨h, -⟩ | h
  · simp [h] at hlen
  · exact h
  · simp [h] at hlen

lemma valToHexDigit_forall {p : UInt8 → Prop} (h : ∀ i < 16, p ((lit "0123456789abcdef").getD i 0)) (c : UInt8) :
    ∀ d ∈ valToHexDigit c, p d := by
  have hlt := c.toNat_lt
  simp only [valToHexDigit, List.forall_mem_cons, List.not_mem_nil, false_implies, implies_true, and_true]
  exact ⟨h _ (by omega), h _ (by omega)⟩

lemma valToHexDigit_plain (c : UInt8) : ∀ d ∈ valToHexDigit c, d ≠ 34 ∧ d ≠ 92 ∧ d ≠ 10 :=
  valToHexDigit_forall (by decide) c

lemma quote_mem_escape (hmem : 34 ∈ escape c) : c = 34 := by
  have hdigit : (34 : UInt8) ∉ valToHexDigit c := fun hmem => (valToHexDigit_plain c 34 hmem).1 rfl
  rcases escape_cases c with ⟨d, h, hd⟩ | ⟨h, -⟩ | h
  · obtain rfl : 34 = d := by simpa [h] using hmem
    simpa [shortEscapes] using hd
  · exact (List.mem_singleton.1 (h ▸ hmem)).symm
  · simp [h, hdigit] at hmem

lemma escape_head_ne (c : UInt8) : (escape c).head? ≠ some 34 := by
  rcases escape_cases c with ⟨d, h, -⟩ | ⟨h, h34, -⟩ | h
  · simp [h]
  · simpa [h] using h34
  · simp [h]

variable {d : UInt8}

lemma escape_blank (hd : (escape c).head? = some d) (hblank : isBlank d = true) : c = 32 ∧ d = 32 := by
  have hslash : isBlank 92 = false := rfl
  rcases escape_cases c with ⟨e, h, -⟩ | ⟨h, -, -, hlow⟩ | h
  · obtain rfl : 92 = d := by simpa [h] using hd
    exact absurd hblank (by simp [hslash])
  · obtain rfl : c = d := by simpa [h] using hd
    unfold isBlank isSpace isNewline at hblank
    simp only [Bool.or_eq_true, decide_eq_true_eq] at hblank
    rcases hblank with (rfl | rfl) | rfl | rfl
    · exact ⟨rfl, rfl⟩
    all_goals exact absurd hlow (by decide)
  · obtain rfl : 92 = d := by simpa [h] using hd
    exact absurd hblank (by simp [hslash])

lemma hexDigitToVal_digit : ∀ i < 16, hexDigitToVal ((lit "0123456789abcdef").getD i 0) = UInt8.ofNat i := by
  decide

lemma hexByte_valToHexDigit (c : UInt8) :
    hexByte ((valToHexDigit c).getD 0 0) ((valToHexDigit c).getD 1 0) = c := by
  have hlt := c.toNat_lt
  simp only [valToHexDigit, List.getD_cons_zero, List.getD_cons_succ, hexByte]
  rw [hexDigitToVal_digit _ (by omega), hexDigitToVal_digit _ (by omega)]
  apply UInt8.toNat_inj.1
  simp only [UInt8.toNat_add, UInt8.toNat_mul, UInt8.toNat_ofNat', UInt8.reduceToNat]
  omega

lemma unescape_escape (i : ℕ) (c : UInt8) (s : Bytes) :
    unescape i (escape c ++ s) = (c :: ·) <$> unescape (i + (escape c).length) s := by
  rcases escape_cases c with ⟨d, h, hd⟩ | ⟨h, -, h92, -⟩ | h
  · rw [h]
    simp only [shortEscapes, List.mem_cons, Prod.mk.injEq, List.not_mem_nil, or_false] at hd
    rcases hd with ⟨rfl, rfl⟩ | ⟨rfl, rfl⟩ | ⟨rfl, rfl⟩ | ⟨rfl, rfl⟩ | ⟨rfl, rfl⟩ | ⟨rfl, rfl⟩ |
      ⟨rfl, rfl⟩ | ⟨rfl, rfl⟩ <;> simp [unescape]
  · rw [h, List.singleton_append, unescape]
    · rfl
    all_goals
      intros
      exact h92 ‹_›
  · have hhex := hexByte_valToHexDigit c
    rw [h]
    simp only [valToHexDigit, List.getD_cons_zero, List.getD_cons_succ] at hhex
    simp only [valToHexDigit, List.cons_append, List.nil_append, unescape, hhex]
    rfl

lemma closeQuote_plain (s : Bytes) (hquote : d ≠ 34) (hslash : d ≠ 92) (hnewline : d ≠ 10) :
    closeQuote 34 false (d :: s) = (closeQuote 34 false s).map fun x => (d :: x.1, x.2) := by
  simp [closeQuote, hquote, hslash, hnewline]

lemma closeQuote_backslash (s : Bytes) (hnewline : d ≠ 10) :
    closeQuote 34 false (92 :: d :: s) = (closeQuote 34 false s).map fun x => (92 :: d :: x.1, x.2) := by
  simp [closeQuote, hnewline, Option.map_map, Function.comp_def]

lemma closeQuote_escape (c : UInt8) (s : Bytes) :
    closeQuote 34 false (escape c ++ s) = (closeQuote 34 false s).map fun x => (escape c ++ x.1, x.2) := by
  rcases escape_cases c with ⟨d, h, hd⟩ | ⟨h, h34, h92, hlow⟩ | h
  · have hnewline : ∀ e ∈ shortEscapes, e.2 ≠ 10 := by simp [shortEscapes]
    rw [h]
    exact closeQuote_backslash s (hnewline _ hd)
  · have hnewline : c ≠ 10 := by
      rintro rfl
      exact absurd hlow (by decide)
    rw [h]
    exact closeQuote_plain s h34 h92 hnewline
  · -- six characters
    obtain ⟨hquote, hslash, hnewline⟩ :=
      valToHexDigit_plain c ((valToHexDigit c).getD 0 0) (by simp [valToHexDigit])
    obtain ⟨hquote', hslash', hnewline'⟩ :=
      valToHexDigit_plain c ((valToHexDigit c).getD 1 0) (by simp [valToHexDigit])
    simp only [valToHexDigit, List.getD_cons_zero] at hquote hslash hnewline
    simp only [valToHexDigit, List.getD_cons_zero, List.getD_cons_succ] at hquote' hslash' hnewline'
    rw [h]
    simp only [valToHexDigit, List.cons_append, List.nil_append]
    rw [closeQuote_backslash _ (by decide), closeQuote_plain _ (by decide) (by decide) (by decide),
      closeQuote_plain _ (by decide) (by decide) (by decide), closeQuote_plain _ hquote hslash hnewline,
      closeQuote_plain _ hquote' hslash' hnewline']
    simp [Option.map_map, Function.comp_def]

lemma unescape_escaped (i : ℕ) (s : Bytes) : unescape i (escaped s) = .ok s := by
  induction s generalizing i with
  | nil => rfl
  | cons c s ih =>
    rw [escaped_cons, unescape_escape, ih]
    rfl

lemma closeQuote_escaped (s t : Bytes) :
    closeQuote 34 false (escaped s ++ 34 :: t) = some (escaped s ++ [34], t) := by
  induction s with
  | nil => simp [closeQuote]
  | cons c s ih => simp [closeQuote_escape, ih]

variable {s : Bytes}

lemma escaped_of_no_backslash (h : 92 ∉ escaped s) : escaped s = s := by
  induction s with
  | nil => rfl
  | cons c s ih =>
    rw [escaped_cons, List.mem_append, not_or] at h
    rcases escape_head c with hc | hc
    · rw [escaped_cons, hc, ih h.2]
      rfl
    · exact absurd (List.mem_of_head? hc) h.1

structure Verbatim (s : Bytes) : Prop where
  plain : ∀ c ∈ s, escape c = [c]
  noSpace : s.head? ≠ some 32

instance (s : Bytes) : Decidable (Verbatim s) :=
  decidable_of_iff ((s.all fun c => escape c = [c]) = true ∧ s.head? ≠ some 32)
    ⟨fun h => ⟨forall_mem_of_all h.1, h.2⟩, fun h => ⟨by simpa using h.plain, h.noSpace⟩⟩

lemma verbatim_nil : Verbatim [] := ⟨by simp, by simp⟩

def rawText (s : Bytes) : Bytes := (escaped (s.dropWhile (· = 32))).takeWhile (· ≠ 34)

lemma skipBlank_escaped (s t : Bytes) :
    skipBlank (escaped s ++ 34 :: t) = escaped (s.dropWhile (· = 32)) ++ 34 :: t := by
  induction s with
  | nil => rfl
  | cons c s ih =>
    by_cases hc : c = 32
    · subst hc
      simpa [skipBlank, isBlank, isSpace, escape] using ih
    · rw [List.dropWhile_cons_of_neg (by simpa using hc)]
      have hlen := length_escape c
      cases hesc : escape c with
      | nil => simp [hesc] at hlen
      | cons d e =>
        have hd : isBlank d = false := by
          by_contra hblank
          exact hc (escape_blank (c := c) (d := d) (by simp [hesc]) (by simpa using hblank)).1
        simp [skipBlank, hesc, hd]

lemma takeWhile_quote (s t : Bytes) :
    (s ++ 34 :: t).takeWhile (fun c => decide (c ≠ 34)) = s.takeWhile (fun c => decide (c ≠ 34)) := by
  induction s with
  | nil => rfl
  | cons c s ih =>
    by_cases hc : c = 34
    · simp [hc]
    · simpa [hc] using ih

lemma quote_mem_escaped (h : 34 ∈ escaped s) : 34 ∈ s := by
  obtain ⟨c, hc, hq⟩ := List.mem_flatMap.1 h
  rwa [← quote_mem_escape hq]

lemma length_escaped_le (s : Bytes) : s.length ≤ (escaped s).length := by
  induction s with
  | nil => exact le_rfl
  | cons c s ih =>
    have hc := length_escape c
    simp only [escaped_cons, List.length_append, List.length_cons]
    omega

lemma plain_of_length (h : (escaped s).length = s.length) : ∀ c ∈ s, escape c = [c] := by
  induction s with
  | nil => simp
  | cons c s ih =>
    have hc := length_escape c
    have hs := length_escaped_le s
    simp only [escaped_cons, List.length_append, List.length_cons] at h
    intro d hd
    rcases List.mem_cons.1 hd with rfl | hd
    · exact escape_length_one (by omega)
    · exact ih (by omega) d hd

lemma Verbatim.escaped (h : Verbatim s) : escaped s = s := by
  have hplain := h.plain
  clear h
  induction s with
  | nil => rfl
  | cons c s ih =>
    rw [escaped_cons, hplain c (by simp), ih fun d hd => hplain d (by simp [hd])]
    rfl

lemma Verbatim.no_quote (h : Verbatim s) : 34 ∉ s := by
  intro hq
  exact absurd (h.plain 34 hq) (by decide)

lemma Verbatim.dropWhile (h : Verbatim s) : s.dropWhile (· = 32) = s := by
  cases s with
  | nil => rfl
  | cons c s => exact List.dropWhile_cons_of_neg (by simpa using h.noSpace)

lemma rawText_eq_iff (s : Bytes) : rawText s = s ↔ Verbatim s := by
  constructor
  · intro h
    have hquote : 34 ∉ s := by
      intro hq
      rw [← h] at hq
      simpa using List.mem_takeWhile_imp hq
    have hquote' : 34 ∉ Json.escaped (s.dropWhile (· = 32)) :=
      fun hq => hquote ((List.dropWhile_suffix _).subset (quote_mem_escaped hq))
    have hall : Json.escaped (s.dropWhile (· = 32)) = s := by
      refine Eq.trans (List.takeWhile_eq_self_iff.2 fun c hc => ?_).symm h
      simpa using fun hq : c = 34 => hquote' (hq ▸ hc)
    have hspace : s.head? ≠ some 32 := by
      intro hhead
      cases hu : s.dropWhile (· = 32) with
      | nil =>
        rw [hu] at hall
        rw [← hall] at hhead
        cases hhead
      | cons c u =>
        -- the first character that is not skipped is no space, and its escape does not begin with one
        have hc : c ≠ 32 := by
          have hneg := List.head?_dropWhile_not (fun c : UInt8 => decide (c = 32)) s
          rw [hu] at hneg
          simpa using hneg
        have hlen := length_escape c
        rw [hu, escaped_cons] at hall
        cases hesc : escape c with
        | nil => simp [hesc] at hlen
        | cons d e =>
          rw [← hall, hesc] at hhead
          exact hc (escape_blank (c := c) (d := 32) (by rw [hesc]; exact hhead) (by decide)).1
    have hdrop : s.dropWhile (· = 32) = s := by
      cases s with
      | nil => rfl
      | cons c s => exact List.dropWhile_cons_of_neg (by simpa using hspace)
    exact ⟨plain_of_length (by rw [hdrop] at hall; rw [hall]), hspace⟩
  · intro h
    rw [rawText, h.dropWhile, h.escaped, List.takeWhile_eq_self_iff.2]
    intro c hc
    simpa using fun hq : c = 34 => h.no_quote (hq ▸ hc)

lemma rawText_eq_nil_iff (s : Bytes) : rawText s = [] ↔ s.dropWhile (· = 32) = [] := by
  constructor
  · intro h
    cases hs : s.dropWhile (· = 32) with
    | nil => rfl
    | cons c u =>
      rw [rawText, hs, escaped_cons] at h
      have hlen := length_escape c
      have hne := escape_head_ne c
      cases hesc : escape c with
      | nil => simp [hesc] at hlen
      | cons d e => simp [hesc, List.takeWhile_cons] at h hne; exact absurd h hne
  · intro h
    rw [rawText, h]
    rfl

end PjProject.Json
