import PjProject.MultipartBoundsLaw
import PjProject.SipParserFold
import PjProject.SipMsgParser

/-!
# The headers of a part are read back

A line of a header is read whatever comes behind it, as long as that does not continue the line. The
Content-Type and the Content-Length that `multipart_print_body` adds are such lines, and so is a
header without a parser of its own.
-/
namespace PjProject.Multipart

open Scanner FindMsg SipParser PjProject.Parser

variable {s : Bytes}

lemma settle_blanks {blanks : Bytes} (hblanks : ∀ c ∈ blanks, c = 32)
    (h : ∀ c ∈ s.head?, isProbablySpace c = false) : settle .wsHeader (blanks ++ s) = s := by
  cases blanks with
  | nil => exact settle_plain h
  | cons b blanks =>
    obtain rfl := hblanks b (by simp)
    have hspaces : ∀ c ∈ 32 :: blanks, isSpace c = true := by
      intro c hc
      rw [hblanks c hc]
      rfl
    have hdrop : ((32 :: blanks) ++ s).dropWhile isSpace = s := by
      rw [List.dropWhile_append_of_pos hspaces]
      cases s with
      | nil => rfl
      | cons c s =>
        have hc := h c rfl
        have hsp : isSpace c = false := by
          by_contra hsp
          simp only [isSpace, Bool.not_eq_false, Bool.or_eq_true, decide_eq_true_eq] at hsp
          rcases hsp with rfl | rfl <;> exact absurd hc (by decide)
        simp [hsp]
    have hnl : s.head?.any isNewline = false := by
      cases s with
      | nil => rfl
      | cons c s =>
        have hc := h c rfl
        by_contra hnl
        simp only [List.head?_cons, Option.any_some, isNewline, Bool.not_eq_false, Bool.or_eq_true,
          decide_eq_true_eq] at hnl
        rcases hnl with rfl | rfl <;> exact absurd hc (by decide)
    rw [settle, if_pos ⟨rfl, by simp⟩, skipWhitespace, hdrop]
    simp [hnl]

variable {rest : Bytes}

lemma settle_crlf (h : rest.head?.any isSpace = false) : settle .wsHeader (crlf ++ rest) = crlf ++ rest := by
  simp [crlf, settle, skipWhitespace, isProbablySpace, isSpace, isNewline, eat, h]

variable {c : UInt8}

lemma token_range (h : tokenSpec c = true) : 32 < c.toNat ∧ c.toNat < 128 := by
  simp only [tokenSpec, isAlnum, isAlpha, isDigit, Bool.or_eq_true, Bool.and_eq_true, decide_eq_true_eq,
    UInt8.le_iff_toNat_le, List.contains_iff_mem] at h
  rcases h with ((⟨h1, h2⟩ | ⟨h1, h2⟩) | ⟨h1, h2⟩) | h
  · exact ⟨Nat.lt_of_lt_of_le (by decide) h1, Nat.lt_of_le_of_lt h2 (by decide)⟩
  · exact ⟨Nat.lt_of_lt_of_le (by decide) h1, Nat.lt_of_le_of_lt h2 (by decide)⟩
  · exact ⟨Nat.lt_of_lt_of_le (by decide) h1, Nat.lt_of_le_of_lt h2 (by decide)⟩
  · exact forall_mem_of_all (p := fun c => 32 < c.toNat ∧ c.toNat < 128) (by decide) c h

lemma token_not_space (h : tokenSpec c = true) : isProbablySpace c = false := by
  have hrange := token_range h
  simp only [isProbablySpace, Bool.or_eq_false_iff, decide_eq_false_iff_not, UInt8.le_iff_toNat_le,
    UInt8.reduceToNat]
  omega

lemma token_not_blank (h : tokenSpec c = true) : isSpace c = false ∧ isNewline c = false := by
  have hne : ∀ d : UInt8, d.toNat ≤ 32 → c ≠ d := by
    rintro d hd rfl
    exact absurd (token_range h).1 (by omega)
  simp [isSpace, isNewline, hne 32 (by decide), hne 9 (by decide), hne 13 (by decide), hne 10 (by decide)]

def IsToken (s : Bytes) : Prop := s ≠ [] ∧ ∀ c ∈ s, tokenSpec c = true

def ValidValue (value : Bytes) : Prop :=
  (∀ c ∈ value, tokenSpec c = true) ∨ ∃ text, value = 34 :: text ∧ closeQuote 34 false text = some (text, [])

structure ValidMedia (media : MediaType) : Prop where
  type : IsToken media.type
  subtype : IsToken media.subtype
  param : ∀ param ∈ media.param, IsToken param.name ∧ ValidValue param.value

def EndsParam (s : Bytes) : Prop :=
  s.head? = some 59 ∨ ∃ rest : Bytes, s = crlf ++ rest ∧ rest.head?.any isSpace = false

lemma EndsParam.head (h : EndsParam s) : ∃ c, s.head? = some c ∧ tokenSpec c = false ∧ c ≠ 61 := by
  rcases h with h | ⟨rest, rfl, -⟩
  · exact ⟨59, h, by decide, by decide⟩
  · exact ⟨13, rfl, by decide, by decide⟩

lemma EndsParam.stops (h : EndsParam s) : ∀ c ∈ s.head?, tokenSpec c = false := by
  obtain ⟨c, hc, hstop, -⟩ := h.head
  intro d hd
  obtain rfl := Option.some.inj (hc.symm.trans hd)
  exact hstop

lemma EndsParam.settle (h : EndsParam s) : settle .wsHeader s = s := by
  rcases h with h | ⟨rest, rfl, hrest⟩
  · apply settle_plain
    intro c hc
    obtain rfl := Option.some.inj (h.symm.trans hc)
    rfl
  · exact settle_crlf hrest

lemma escapeText_token (h : ∀ c ∈ s, tokenSpec c = true) : escapeText s = s := by
  induction s with
  | nil => rfl
  | cons c s ih =>
    rw [escapeText, List.flatMap_cons, if_pos (h c (by simp))]
    exact congrArg (c :: ·) (ih fun d hd => h d (by simp [hd]))

lemma closeQuote_append {endQuote : UInt8} {escaped : Bool} {text : Bytes} {t : Bytes}
    (h : closeQuote endQuote escaped text = some (t, rest)) :
    closeQuote endQuote escaped (text ++ s) = some (t, rest ++ s) := by
  induction text generalizing escaped t with
  | nil => simp [closeQuote] at h
  | cons c text ih =>
    rw [closeQuote] at h
    rw [List.cons_append, closeQuote]
    split at h
    case isTrue hend =>
      simp only [Option.some.injEq, Prod.mk.injEq] at h
      obtain ⟨rfl, rfl⟩ := h
      rw [if_pos hend]
    case isFalse hend =>
      rw [if_neg hend]
      split at h
      case isTrue => simp at h
      case isFalse hline =>
        rw [if_neg hline]
        obtain ⟨⟨t', rest'⟩, hrest, heq⟩ := Option.map_eq_some_iff.1 h
        simp only [Prod.mk.injEq] at heq
        obtain ⟨rfl, rfl⟩ := heq
        rw [ih hrest]
        rfl

lemma head_token {token s : Bytes} (h : IsToken token) : ∃ c t, token ++ s = c :: t ∧ tokenSpec c = true := by
  obtain ⟨hne, htoken⟩ := h
  cases token with
  | nil => exact absurd rfl hne
  | cons c token => exact ⟨c, token ++ s, rfl, htoken c (by simp)⟩

lemma settle_token {token : Bytes} {opt : SkipWs} (h : IsToken token) :
    Scanner.settle opt (token ++ s) = token ++ s := by
  obtain ⟨c, t, heq, hc⟩ := @head_token token s h
  rw [heq]
  apply settle_plain
  intro d hd
  obtain rfl := Option.some.inj hd
  exact token_not_space hc

variable {value : Bytes}

lemma parse_value {pname : Bytes} (hne : value ≠ []) (hvalue : ValidValue value) (hs : EndsParam s) :
    (do
      let s ← look id
      if isEof s then pure (pname, [])
      else if curptr s = 34 then
        let pvalue ← scan (getQuote 34 34)
        pure (pname, pvalue)
      else if tokenSpec (curptr s) then
        let pvalue ← scan (get tokenSpec)
        pure (pname, pvalue)
      else pure (pname, []) : Parse (Bytes × Bytes)).run ⟨value ++ s, .wsHeader⟩ =
        (.ok (pname, value), ⟨s, .wsHeader⟩) := by
  rw [look_bind]
  rcases hvalue with htoken | ⟨text, rfl, hclose⟩
  · obtain ⟨c, t, heq, hc⟩ := @head_token value s ⟨hne, htoken⟩
    have hget := get_token .wsHeader hne htoken hs.stops
    rw [hs.settle, heq] at hget
    have hquote : c ≠ 34 := by
      rintro rfl
      exact absurd hc (by decide)
    dsimp only [id]
    rw [heq, if_neg (by simp [isEof]), if_neg (by simpa [curptr] using hquote), if_pos (by simpa [curptr] using hc),
      bind_ok hget]
    rfl
  · have hquote : (scan (getQuote 34 34)).run ⟨34 :: text ++ s, .wsHeader⟩ =
        (.ok (34 :: text), ⟨s, .wsHeader⟩) := by
      apply scan_ok
      simp only [getQuote, List.cons_append, closeQuote_append hclose, List.nil_append, hs.settle]
      rfl
    dsimp only [id]
    rw [if_neg (by simp [isEof]), if_pos (by simp [curptr]), bind_ok hquote]
    rfl

lemma parse_param {param : SipUri.Param} (hname : IsToken param.name)
    (hvalue : ValidValue param.value) (hs : EndsParam s) :
    intParseParam.run ⟨paramText param ++ s, .wsHeader⟩ = (.ok (param.name, param.value), ⟨s, .wsHeader⟩) := by
  have hsep : (scan getChar).run ⟨paramText param ++ s, .wsHeader⟩ =
      (.ok 59, ⟨param.name ++ (valueText param.value ++ s), .wsHeader⟩) := by
    rw [paramText, escapeText_token hname.2, List.cons_append, List.append_assoc, getChar_cons (by decide),
      settle_token hname]
  rw [intParseParam, bind_ok hsep, parseParam, parseParamImp]
  by_cases hne : param.value = []
  · have hget := get_token .wsHeader hname.1 hname.2 hs.stops
    obtain ⟨c, hc, -, hsign⟩ := hs.head
    have hcur : curptr ⟨s, .wsHeader⟩ = c := by
      rw [curptr, List.headD_eq_head?_getD, hc]
      rfl
    rw [hs.settle] at hget
    rw [hne, valueText, if_pos List.length_nil, List.nil_append, bind_ok hget, look_bind, hcur, if_neg hsign]
    rfl
  · have hlen : param.value.length ≠ 0 := fun h => hne (List.length_eq_zero_iff.1 h)
    have htext : valueText param.value = 61 :: param.value := by
      rw [valueText, if_neg hlen]
      rcases hvalue with htoken | ⟨text, htext, -⟩
      · split
        · rfl
        · rw [escapeText_token htoken]
      · rw [htext]
        rfl
    have hstop : ∀ c ∈ (61 :: param.value ++ s).head?, tokenSpec c = false := by
      intro c hc
      obtain rfl := Option.some.inj hc
      decide
    have hget := get_token .wsHeader hname.1 hname.2 hstop
    have hplain : Scanner.settle .wsHeader (61 :: param.value ++ s) = 61 :: (param.value ++ s) := by
      apply settle_plain
      intro c hc
      obtain rfl := Option.some.inj hc
      rfl
    rw [hplain] at hget
    have hsign : (scan getChar).run ⟨61 :: (param.value ++ s), .wsHeader⟩ =
        (.ok 61, ⟨param.value ++ s, .wsHeader⟩) := by
      rw [getChar_cons (by decide), settle_plain]
      intro c hc
      rcases hvalue with htoken | ⟨text, htext, -⟩
      · obtain ⟨d, t, heq, hd⟩ := @head_token param.value s ⟨hne, htoken⟩
        rw [heq] at hc
        obtain rfl := Option.some.inj hc
        exact token_not_space hd
      · rw [htext] at hc
        obtain rfl := Option.some.inj hc
        rfl
    rw [htext, bind_ok hget, look_bind, if_pos (by rfl), bind_ok hsign]
    exact parse_value hne hvalue hs

lemma endsParam_params (params : List SipUri.Param) (hrest : rest.head?.any isSpace = false) :
    EndsParam (params.flatMap paramText ++ (crlf ++ rest)) := by
  cases params with
  | nil => exact .inr ⟨rest, rfl, hrest⟩
  | cons param params => exact .inl rfl

lemma parse_params {params : List SipUri.Param} (media : MediaType)
    (hparams : ∀ param ∈ params, IsToken param.name ∧ ValidValue param.value)
    (hrest : rest.head?.any isSpace = false) :
    (paramLoop intParseParam (fun (media : MediaType) pname pvalue =>
      pure { media with param := media.param ++ [⟨pname, pvalue⟩] }) media).run
        ⟨params.flatMap paramText ++ (crlf ++ rest), .wsHeader⟩ =
      (.ok { media with param := media.param ++ params }, ⟨crlf ++ rest, .wsHeader⟩) := by
  induction params generalizing media with
  | nil =>
    rw [List.append_nil]
    exact loop_stop rfl
  | cons param params ih =>
    obtain ⟨hname, hvalue⟩ := hparams param (by simp)
    have hparam := parse_param hname hvalue (endsParam_params params hrest)
    rw [← List.append_assoc, ← List.flatMap_cons] at hparam
    have hstep := ih { media with param := media.param ++ [param] }
      fun other hmem => hparams other (by simp [hmem])
    rw [List.append_assoc, List.singleton_append] at hstep
    rw [← hstep]
    apply loop_step (fun _ => Strict.intParseParam.bind fun _ => Safe.pure _) rfl
    rw [bind_ok hparam]
    rfl

lemma parseHdrEnd_crlf {opt : SkipWs} : parseHdrEnd.run ⟨crlf ++ rest, opt⟩ = (.ok (), ⟨rest, opt⟩) := by
  simp [parseHdrEnd, crlf, isEof, curptr, scan, getNewline, isNewline, eat]

lemma parse_media {media : MediaType} (h : ValidMedia media) (hrest : rest.head?.any isSpace = false) :
    parseHdrContentType.run ⟨mediaText media ++ (crlf ++ rest), .wsHeader⟩ =
      (.ok media, ⟨rest, .wsHeader⟩) := by
  have hends := endsParam_params media.param hrest
  have hslash : ∀ s : Bytes, ∀ c ∈ (47 :: s).head?, tokenSpec c = false ∧ isProbablySpace c = false := by
    intro s c hc
    obtain rfl := Option.some.inj hc
    decide
  have htype : (scan (get tokenSpec)).run ⟨mediaText media ++ (crlf ++ rest), .wsHeader⟩ =
      (.ok media.type,
        ⟨47 :: (media.subtype ++ (media.param.flatMap paramText ++ (crlf ++ rest))), .wsHeader⟩) := by
    rw [mediaText, List.append_assoc, List.cons_append, List.append_assoc,
      get_token _ h.type.1 h.type.2 fun c hc => (hslash _ c hc).1, settle_plain fun c hc => (hslash _ c hc).2]
  have hsign : (scan getChar).run
      ⟨47 :: (media.subtype ++ (media.param.flatMap paramText ++ (crlf ++ rest))), .wsHeader⟩ =
      (.ok 47, ⟨media.subtype ++ (media.param.flatMap paramText ++ (crlf ++ rest)), .wsHeader⟩) := by
    rw [getChar_cons (by decide), settle_token h.subtype]
  have hsubtype := get_token .wsHeader h.subtype.1 h.subtype.2 hends.stops
  rw [hends.settle] at hsubtype
  have hparams := parse_params ⟨media.type, media.subtype, []⟩ h.param hrest
  rw [parseHdrContentType, bind_ok htype, bind_ok hsign, bind_ok hsubtype, bind_ok hparams,
    bind_ok parseHdrEnd_crlf]
  rfl

def ReadAs (handlers : List (Bytes × HdrFunc)) (text : Bytes) (hdr : Hdr) : Prop :=
  ∀ rest : Bytes, rest.head?.any isSpace = false →
    (do
      let hname ← inScanner (scan (get tokenSpec))
      parseHdrValue handlers hname : CtxParse (Option Hdr)).run ⟨⟨text ++ (crlf ++ rest), .wsHeader⟩, none⟩ =
        (.ok (some hdr), ⟨⟨rest, .wsHeader⟩, none⟩)

variable {handlers : List (Bytes × HdrFunc)}

lemma inScanner_run {α : Type} {p : Parse α} {s t : State} {a : α} {rdata : Option MsgInfo}
    (h : p.run s = (.ok a, t)) : (inScanner p).run ⟨s, rdata⟩ = (.ok a, ⟨t, rdata⟩) := by
  simp only [inScanner, zoom, h]

variable {name : Bytes}

lemma readAs_plain {α : Type} {blanks : Bytes} {p : Parse α} {hdr : α → Hdr} {a : α} (hname : IsToken name)
    (hfind : (findHandler handlers name).getD (plain parseGenericStringHdr (.generic name)) = plain p hdr)
    (hblanks : ∀ c ∈ blanks, c = 32) (hvalue : ∃ c t, value = c :: t ∧ isProbablySpace c = false)
    (hp : ∀ rest : Bytes, rest.head?.any isSpace = false →
      p.run ⟨value ++ (crlf ++ rest), .wsHeader⟩ = (.ok a, ⟨rest, .wsHeader⟩)) :
    ReadAs handlers (name ++ 58 :: (blanks ++ value)) (hdr a) := by
  intro rest hrest
  have hcolon : ∀ s : Bytes, ∀ c ∈ (58 :: s).head?, tokenSpec c = false ∧ isProbablySpace c = false := by
    intro s c hc
    obtain rfl := Option.some.inj hc
    decide
  have hget : (scan (get tokenSpec)).run ⟨name ++ 58 :: (blanks ++ value) ++ (crlf ++ rest), .wsHeader⟩ =
      (.ok name, ⟨58 :: (blanks ++ (value ++ (crlf ++ rest))), .wsHeader⟩) := by
    rw [List.append_assoc, List.cons_append, List.append_assoc,
      get_token _ hname.1 hname.2 fun c hc => (hcolon _ c hc).1, settle_plain fun c hc => (hcolon _ c hc).2]
  have hsign : (scan getChar).run ⟨58 :: (blanks ++ (value ++ (crlf ++ rest))), .wsHeader⟩ =
      (.ok 58, ⟨value ++ (crlf ++ rest), .wsHeader⟩) := by
    rw [getChar_cons (by decide), settle_blanks hblanks]
    obtain ⟨d, t, rfl, hd⟩ := hvalue
    intro c hc
    obtain rfl := Option.some.inj hc
    exact hd
  have hfunc : (plain p hdr).run ⟨⟨value ++ (crlf ++ rest), .wsHeader⟩, none⟩ =
      (.ok (some (hdr a)), ⟨⟨rest, .wsHeader⟩, none⟩) := by
    rw [plain, bind_ok (inScanner_run (hp rest hrest))]
    rfl
  rw [bind_ok (inScanner_run hget), parseHdrValue, bind_ok (inScanner_run hsign), if_neg (by simp)]
  cases hf : findHandler handlers name with
  | none =>
    rw [hf, Option.getD_none] at hfind
    exact hfind ▸ hfunc
  | some func =>
    rw [hf, Option.getD_some] at hfind
    exact hfind ▸ hfunc

lemma findHandler_none (h : (handlers.all fun r => decide (r.1 ≠ name ∧ r.1 ≠ lowerAll name)) = true) :
    findHandler handlers name = none := by
  have hne : ∀ r ∈ handlers, r.1 ≠ name ∧ r.1 ≠ lowerAll name := fun r hr =>
    of_decide_eq_true (List.all_eq_true.1 h r hr)
  have hlong : findHandlerImp handlers name = none := by
    rw [findHandlerImp, List.find?_eq_none.2 fun r hr => by simpa using (hne r hr).1]
    rfl
  have hlower : findHandlerImp handlers (lowerAll name) = none := by
    rw [findHandlerImp, List.find?_eq_none.2 fun r hr => by simpa using (hne r hr).2]
    rfl
  rw [findHandler, hlong, hlower, Option.none_or, ite_self]

lemma readAs_generic (hname : IsToken name) (hfind : findHandler handlers name = none)
    (hvalue : ∃ c t, value = c :: t ∧ isProbablySpace c = false)
    (hline : ∀ c ∈ value, isNewline c = false ∧ c ≠ 0) :
    ReadAs handlers (name ++ 58 :: ([32] ++ value)) (.generic name value) := by
  apply readAs_plain hname (by rw [hfind, Option.getD_none]) (by simp) hvalue
  intro rest hrest
  obtain ⟨d, t, rfl, hd⟩ := hvalue
  let line : Line :=
    { text := d :: t
      nonempty := List.cons_ne_nil d t
      noNewline := fun c hc => (hline c hc).1
      start := fun c hc => by
        obtain rfl := Option.some.inj hc
        refine ⟨?_, (hline d (by simp)).2⟩
        by_contra hsp
        simp only [isSpace, Bool.not_eq_false, Bool.or_eq_true, decide_eq_true_eq] at hsp
        rcases hsp with rfl | rfl <;> exact absurd hd (by decide) }
  have hrun := (unfolding_iff ⟨line, [], rest, hrest⟩).2 ⟨by simp [Folded.lines], by
    intro l hl
    obtain rfl : l = line := by simpa [Folded.lines] using hl
    exact fun h0 => (hline 0 h0).2 rfl⟩
  simpa [Folded.input, Folded.joined, Folded.lines, tailBytes, List.intercalate, crlf, line] using hrun

lemma isToken_lit (hne : name ≠ []) (h : (name.all fun c => decide (tokenSpec c = true)) = true) :
    IsToken name := ⟨hne, forall_mem_of_all h⟩

lemma strtol2_utoa {n : ℕ} (h : n ≤ maxLong) : strtol2 (utoa n) = .ok n := by
  have hdigits := utoa_digits n
  have hstrtoul := strtoul3_utoa (h.trans (by decide : maxLong ≤ maxUlong))
  cases hu : utoa n with
  | nil => exact absurd hu (utoa_ne_nil n)
  | cons c s =>
    have hc : isDigit c = true := hdigits c (by rw [hu]; simp)
    have htrim : strltrim (c :: s) = c :: s := by
      simp [strltrim, isSpaceChar_of_isDigit hc]
    have hplus : c ≠ 43 := by
      rintro rfl
      exact absurd hc (by decide)
    have hminus : c ≠ 45 := by
      rintro rfl
      exact absurd hc (by decide)
    rw [hu] at hstrtoul
    simp [strtol2, htrim, hplus, hminus, hstrtoul, Nat.not_lt.2 h]

lemma parse_length {n : ℕ} (h : n ≤ maxContentLength) (hrest : rest.head?.any isSpace = false) :
    parseHdrContentLen.run ⟨utoa n ++ (crlf ++ rest), .wsHeader⟩ = (.ok n, ⟨rest, .wsHeader⟩) := by
  have hstop : ∀ c ∈ (crlf ++ rest).head?, isDigit c = false := by
    intro c hc
    obtain rfl := Option.some.inj hc
    decide
  have hget := get_token .wsHeader (utoa_ne_nil n) (utoa_digits n) hstop
  rw [settle_crlf hrest] at hget
  have hvalid : (scan (strtoiValidate (utoa n) minContentLength maxContentLength)).run
      ⟨crlf ++ rest, .wsHeader⟩ = (.ok n, ⟨crlf ++ rest, .wsHeader⟩) := by
    apply scan_ok
    have hlong : n ≤ maxLong := h.trans (by decide)
    have hrange : ¬((n : ℤ) < minContentLength ∨ (n : ℤ) > maxContentLength) := by
      simp only [minContentLength]
      omega
    simp only [strtoiValidate, strtol2_utoa hlong, if_neg hrange]
    rfl
  rw [parseHdrContentLen, bind_ok hget, bind_ok hvalid, bind_ok parseHdrEnd_crlf]
  rfl

lemma findHandlerImp_append {a b : List (Bytes × HdrFunc)} :
    findHandlerImp (a ++ b) name = (findHandlerImp a name).or (findHandlerImp b name) := by
  simp only [findHandlerImp, List.find?_append]
  cases a.find? (fun h => h.1 = name) <;> rfl

lemma findHandlerImp_register {hname : String} {short : Option String} {func : HdrFunc} :
    findHandlerImp (registerHdrParser hname short func) name =
      if lit hname = name ∨ lowerAll (lit hname) = name ∨ short.map lit = some name then some func else none := by
  by_cases h1 : lit hname = name
  · simp [findHandlerImp, registerHdrParser, h1]
  · by_cases h2 : lowerAll (lit hname) = name
    · simp [findHandlerImp, registerHdrParser, h1, h2]
    · cases short with
      | none => simp [findHandlerImp, registerHdrParser, h1, h2]
      | some short => by_cases h3 : lit short = name <;> simp [findHandlerImp, registerHdrParser, h1, h2, h3]

lemma findHandler_added {table : List (Bytes × UriFunc)} {hdrs : List (Bytes × HdrFunc)} :
    findHandler (hdrHandlers table ++ hdrs) (lit "Content-Type") = some (plain parseHdrContentType .contentType) ∧
    findHandler (hdrHandlers table ++ hdrs) (lit "c") = some (plain parseHdrContentType .contentType) ∧
    findHandler (hdrHandlers table ++ hdrs) (lit "Content-Length") =
      some (plain parseHdrContentLen .contentLength) := by
  have hskip {func : HdrFunc} {hname : String} {short : Option String} {name : Bytes} {found : Option HdrFunc}
      (hne : ¬(lit hname = name ∨ lowerAll (lit hname) = name ∨ short.map lit = some name)) :
      (findHandlerImp (registerHdrParser hname short func) name).or found = found := by
    rw [findHandlerImp_register, if_neg hne, Option.none_or]
  have hfound {func : HdrFunc} {hname : String} {short : Option String} {name : Bytes} {found : Option HdrFunc}
      (heq : lit hname = name ∨ lowerAll (lit hname) = name ∨ short.map lit = some name) :
      (findHandlerImp (registerHdrParser hname short func) name).or found = some func := by
    rw [findHandlerImp_register, if_pos heq, Option.some_or]
  refine ⟨?_, ?_, ?_⟩
  · rw [findHandler, if_neg (by decide)]
    unfold hdrHandlers
    simp only [findHandlerImp_append, Option.or_assoc]
    rw [hskip (by decide), hskip (by decide), hskip (by decide), hskip (by decide), hskip (by decide),
      hfound (by decide)]
  · rw [findHandler, if_neg (by decide)]
    unfold hdrHandlers
    simp only [findHandlerImp_append, Option.or_assoc]
    rw [hskip (by decide), hskip (by decide), hskip (by decide), hskip (by decide), hskip (by decide),
      hfound (by decide)]
  · rw [findHandler, if_neg (by decide)]
    unfold hdrHandlers
    simp only [findHandlerImp_append, Option.or_assoc]
    rw [hskip (by decide), hskip (by decide), hskip (by decide), hskip (by decide), hfound (by decide)]

lemma IsToken.head (h : IsToken s) : ∃ c t, s = c :: t ∧ isProbablySpace c = false := by
  obtain ⟨hne, htoken⟩ := h
  cases s with
  | nil => exact absurd rfl hne
  | cons c s => exact ⟨c, s, rfl, token_not_space (htoken c (by simp))⟩

section Added

variable {table : List (Bytes × UriFunc)} {hdrs : List (Bytes × HdrFunc)}

lemma readAs_type {compact : Bool} {media : MediaType} (h : ValidMedia media) :
    ReadAs (hdrHandlers table ++ hdrs) (ctypeName compact ++ mediaText media) (.contentType media) := by
  have hhead : ∃ c t, mediaText media = c :: t ∧ isProbablySpace c = false := by
    obtain ⟨c, t, heq, hc⟩ := h.type.head
    exact ⟨c, t ++ 47 :: (media.subtype ++ media.param.flatMap paramText), by simp [mediaText, heq], hc⟩
  have hparse (rest : Bytes) (hrest : rest.head?.any isSpace = false) := parse_media h hrest
  cases compact with
  | false =>
    have htext : ctypeName false ++ mediaText media = lit "Content-Type" ++ 58 :: ([32] ++ mediaText media) := by
      rw [← List.singleton_append, ← List.append_assoc, ← List.append_assoc]
      rfl
    rw [htext]
    exact readAs_plain (isToken_lit (by decide) (by decide)) (by rw [findHandler_added.1, Option.getD_some])
      (by simp) hhead hparse
  | true =>
    have htext : ctypeName true ++ mediaText media = lit "c" ++ 58 :: ([32] ++ mediaText media) := by
      rw [← List.singleton_append, ← List.append_assoc, ← List.append_assoc]
      rfl
    rw [htext]
    exact readAs_plain (isToken_lit (by decide) (by decide)) (by rw [findHandler_added.2.1, Option.getD_some])
      (by simp) hhead hparse

lemma readAs_length {n : ℕ} (h : n ≤ maxContentLength) :
    ReadAs (hdrHandlers table ++ hdrs) (lit "Content-Length: " ++ clenField n) (.contentLength n) := by
  have hhead : ∃ c t, utoa n = c :: t ∧ isProbablySpace c = false := by
    have htoken : IsToken (utoa n) := by
      refine ⟨utoa_ne_nil n, fun c hc => ?_⟩
      simp [tokenSpec, isAlnum, utoa_digits n c hc]
    exact htoken.head
  have htext : lit "Content-Length: " ++ clenField n =
      lit "Content-Length" ++ 58 :: ((32 :: List.replicate (clenSpace - (utoa n).length) 32) ++ utoa n) := by
    rw [clenField]
    rfl
  rw [htext]
  refine readAs_plain (isToken_lit (by decide) (by decide)) (by rw [findHandler_added.2.2, Option.getD_some])
    ?_ hhead fun rest hrest => parse_length h hrest
  intro c hc
  rcases List.mem_cons.1 hc with rfl | hc
  · rfl
  · exact List.eq_of_mem_replicate hc

end Added

end PjProject.Multipart
