import PjProject.MultipartLines

/-!
# The round trip of multipart bodies

What `multipart_print_body` prints is taken apart again by `pjsip_multipart_parse`: the delimiters are
where no part has one, the newline in front of a delimiter is the only one that is cut off, and the
first empty line of a part ends its headers.
-/
namespace PjProject.Multipart

open Scanner FindMsg SipParser PjProject.Parser

variable {handlers : List (Bytes × HdrFunc)}

lemma ReadAs.head {text : Bytes} {hdr : Hdr} (h : ReadAs handlers text hdr) :
    ∃ c t, text = c :: t ∧ tokenSpec c = true := by
  obtain ⟨hname, ctx, hget, -⟩ := bind_eq_ok (h [] rfl)
  have hne : (text ++ crlf).takeWhile tokenSpec ≠ [] := by
    intro hnil
    -- no byte of a token: `pj_scan_get` raises a syntax error
    have hstop : Scanner.get tokenSpec ⟨text ++ crlf, .wsHeader⟩ = .error .syntaxErr := if_pos hnil
    simp only [List.append_nil, inScanner, zoom, scan, hstop] at hget
    cases hget
  cases text with
  | nil => exact absurd rfl hne
  | cons c t =>
    refine ⟨c, t, rfl, ?_⟩
    by_contra hc
    simp [hc] at hne

def linesText (lines : List (Bytes × Hdr)) : Bytes := lines.flatMap fun line => line.1 ++ crlf

lemma linesText_cons (line : Bytes × Hdr) (lines : List (Bytes × Hdr)) (rest : Bytes) :
    linesText (line :: lines) ++ rest = line.1 ++ (crlf ++ (linesText lines ++ rest)) := by
  simp [linesText]

lemma linesText_head {lines : List (Bytes × Hdr)} {rest : Bytes}
    (hlines : ∀ line ∈ lines, ReadAs handlers line.1 line.2) (hrest : rest = [] ∨ rest = crlf) :
    (linesText lines ++ rest).head?.any isSpace = false := by
  cases lines with
  | nil => rcases hrest with rfl | rfl <;> rfl
  | cons line lines =>
    obtain ⟨c, t, heq, hc⟩ := (hlines line (by simp)).head
    rw [linesText_cons, heq]
    exact (token_not_blank hc).1

def hdrRound (handlers : List (Bytes × HdrFunc)) : Parser HdrsState Exc (Unit ⊕ Unit) := do
  let hname ← HdrsState.onCtx (inScanner (scan (get tokenSpec)))
  let hdr ← HdrsState.onCtx (parseHdrValue handlers hname)
  change fun s => { s with hlist := s.hlist ++ hdr.toList }
  let s ← look id
  if !atEmptyLine s.ctx then pure (.inl ()) else pure (.inr ())

lemma hdrRound_line {text rest : Bytes} {hdr : Hdr} (hlist : List Hdr) (h : ReadAs handlers text hdr)
    (hrest : rest.head?.any isSpace = false) :
    (hdrRound handlers).run ⟨⟨⟨text ++ (crlf ++ rest), .wsHeader⟩, none⟩, hlist⟩ =
      (.ok (if atEmptyLine ⟨⟨rest, .wsHeader⟩, none⟩ then .inr () else .inl ()),
        ⟨⟨⟨rest, .wsHeader⟩, none⟩, hlist ++ [hdr]⟩) := by
  obtain ⟨hname, ctx, hget, hvalue⟩ := bind_eq_ok (h rest hrest)
  have hget' : (HdrsState.onCtx (inScanner (scan (get tokenSpec)))).run
      ⟨⟨⟨text ++ (crlf ++ rest), .wsHeader⟩, none⟩, hlist⟩ = (.ok hname, ⟨ctx, hlist⟩) := zoom_ok hget
  have hvalue' : (HdrsState.onCtx (parseHdrValue handlers hname)).run ⟨ctx, hlist⟩ =
      (.ok (some hdr), ⟨⟨⟨rest, .wsHeader⟩, none⟩, hlist⟩) := zoom_ok hvalue
  rw [hdrRound, bind_ok hget', bind_ok hvalue', change_bind, look_bind]
  cases hempty : atEmptyLine ⟨⟨rest, .wsHeader⟩, none⟩ <;> simp [hempty]

lemma hdrRounds_lines {lines : List (Bytes × Hdr)} {rest : Bytes} {n : ℕ} (hlist : List Hdr) (hne : lines ≠ [])
    (hlines : ∀ line ∈ lines, ReadAs handlers line.1 line.2) (hrest : rest = [] ∨ rest = crlf)
    (hn : lines.length ≤ n) :
    (repeatRounds (fun _ => hdrRound handlers) n ()).run ⟨⟨⟨linesText lines ++ rest, .wsHeader⟩, none⟩, hlist⟩ =
      (.ok (), ⟨⟨⟨rest, .wsHeader⟩, none⟩, hlist ++ lines.map Prod.snd⟩) := by
  induction lines generalizing n hlist with
  | nil => exact absurd rfl hne
  | cons line lines ih =>
    obtain ⟨n, rfl⟩ : ∃ k, n = k + 1 := ⟨n - 1, by simp at hn; omega⟩
    have htail : ∀ line ∈ lines, ReadAs handlers line.1 line.2 := fun other hmem => hlines other (by simp [hmem])
    have hround := hdrRound_line hlist (hlines line (by simp)) (linesText_head htail hrest)
    rw [linesText_cons]
    cases lines with
    | nil =>
      have hempty : atEmptyLine ⟨⟨rest, .wsHeader⟩, none⟩ = true := by rcases hrest with rfl | rfl <;> rfl
      simp only [linesText, List.flatMap_nil, List.nil_append, if_pos hempty] at hround ⊢
      rw [repeatRounds_leave hround]
      rfl
    | cons next lines =>
      have hgoon : atEmptyLine ⟨⟨linesText (next :: lines) ++ rest, .wsHeader⟩, none⟩ = false := by
        obtain ⟨c, t, heq, hc⟩ := (htail next (by simp)).head
        rw [linesText_cons, heq]
        exact (token_not_blank hc).2
      rw [hgoon, if_neg Bool.false_ne_true] at hround
      rw [repeatRounds_step hround, ih (hlist ++ [line.2]) (by simp) htail (by simp at hn ⊢; omega)]
      simp

lemma parseHeaders_lines {lines : List (Bytes × Hdr)} {rest : Bytes} (hne : lines ≠ [])
    (hlines : ∀ line ∈ lines, ReadAs handlers line.1 line.2) (hrest : rest = [] ∨ rest = crlf) :
    ∃ s, pjsipParseHeaders handlers false (linesText lines ++ rest) [] = (.ok true, s) ∧
      s.hlist = lines.map Prod.snd := by
  have hinit : init (linesText lines ++ rest) .wsHeader = ⟨linesText lines ++ rest, .wsHeader⟩ := by
    cases lines with
    | nil => exact absurd rfl hne
    | cons line lines =>
      obtain ⟨c, t, heq, hc⟩ := (hlines line (by simp)).head
      obtain ⟨hsp, hnl⟩ := token_not_blank hc
      rw [linesText_cons, heq]
      simp [init, skipWhitespace, hsp, hnl]
  have hlen : lines.length ≤ hdrsLeft ⟨⟨⟨linesText lines ++ rest, .wsHeader⟩, none⟩, []⟩ + 1 := by
    have hle : lines.length ≤ (linesText lines).length := by
      clear hne hlines hinit
      induction lines with
      | nil => exact Nat.zero_le _
      | cons line lines ih =>
        simp only [linesText, List.flatMap_cons, List.length_append, List.length_cons, crlf_length] at ih ⊢
        omega
    simp only [hdrsLeft, ctxLeft, left, List.length_append]
    omega
  have hloop : (headersLoop handlers).run ⟨⟨⟨linesText lines ++ rest, .wsHeader⟩, none⟩, []⟩ =
      (.ok (), ⟨⟨⟨rest, .wsHeader⟩, none⟩, lines.map Prod.snd⟩) := by
    have hrounds := hdrRounds_lines [] hne hlines hrest hlen
    rw [List.nil_append] at hrounds
    exact hrounds
  have hpass : ∃ s, (headersPass handlers false).run ⟨⟨⟨linesText lines ++ rest, .wsHeader⟩, none⟩, []⟩ =
      (.ok (.inr true), s) ∧ s.hlist = lines.map Prod.snd := by
    rcases hrest with rfl | rfl
    · exact ⟨_, by rw [headersPass, handle]; simp only [bind_ok hloop]; rfl, rfl⟩
    · exact ⟨_, by rw [headersPass, handle]; simp only [bind_ok hloop]; rfl, rfl⟩
  obtain ⟨s, hrun, hlist⟩ := hpass
  refine ⟨s, ?_, hlist⟩
  have hround (n : ℕ) : (repeatRounds (fun _ : Unit => headersPass handlers false) (n + 1) ()).run
      ⟨⟨⟨linesText lines ++ rest, .wsHeader⟩, none⟩, []⟩ = (.ok true, s) := repeatRounds_leave hrun
  rw [pjsipParseHeaders, hinit]
  exact hround _

lemma splitPart_line {line pre s : Bytes} (hne : line ≠ []) (hline : (10 : UInt8) ∉ line) (hs : s ≠ []) :
    splitPart pre (line ++ (crlf ++ s)) = splitPart (10 :: 13 :: (line.reverse ++ pre)) s := by
  have hpass : ∀ (line pre s : Bytes), (10 : UInt8) ∉ line → splitPart pre (line ++ s) =
      splitPart (line.reverse ++ pre) s := by
    intro line
    induction line with
    | nil => exact fun _ _ _ => rfl
    | cons c line ih =>
      intro pre s hline
      simp only [List.mem_cons, not_or] at hline
      rw [List.cons_append, splitPart, if_pos (Ne.symm hline.1), ih _ _ hline.2]
      simp
  obtain ⟨t, c, rfl⟩ : ∃ t c, line = t ++ [c] := ⟨line.dropLast, line.getLast hne, (List.dropLast_append_getLast hne).symm⟩
  have hc : c ≠ 10 := by
    rintro rfl
    exact hline (by simp)
  rw [hpass _ _ _ hline]
  simp [crlf, splitPart, hs, hc]

lemma splitPart_lines {lines : List (Bytes × Hdr)} {body : Bytes} (hne : lines ≠ [])
    (hlines : ∀ line ∈ lines, line.1 ≠ [] ∧ (10 : UInt8) ∉ line.1) :
    splitPart [] (linesText lines ++ (crlf ++ body)) =
      (linesText lines ++ (if body = [] then crlf else []), body) := by
  have hpass : ∀ (lines : List (Bytes × Hdr)) (pre : Bytes), (∀ line ∈ lines, line.1 ≠ [] ∧ (10 : UInt8) ∉ line.1) →
      splitPart pre (linesText lines ++ (crlf ++ body)) =
        splitPart ((linesText lines).reverse ++ pre) (crlf ++ body) := by
    intro lines
    induction lines with
    | nil => exact fun _ _ => rfl
    | cons line lines ih =>
      intro pre hlines
      obtain ⟨hline, hone⟩ := hlines line (by simp)
      rw [linesText_cons, splitPart_line hline hone (by simp [crlf]), ih _ fun other hmem => hlines other (by simp [hmem])]
      simp [linesText, crlf]
  have hend : ∃ t, linesText lines = t ++ crlf ∧ t ≠ [] := by
    refine ⟨linesText lines.dropLast ++ (lines.getLast hne).1, ?_, ?_⟩
    · conv_lhs => rw [← List.dropLast_append_getLast hne]
      simp [linesText]
    · simp [(hlines _ (List.getLast_mem hne)).1]
  obtain ⟨t, ht, htne⟩ := hend
  rw [hpass lines [] hlines, ht]
  by_cases hbody : body = []
  · simp [crlf, splitPart, hbody]
  · simp [crlf, splitPart, hbody]

lemma parsePart_lines {lines : List (Bytes × Hdr)} {body : Bytes} {pct media : MediaType}
    (hlines : ∀ line ∈ lines, ReadAs handlers line.1 line.2 ∧ (10 : UInt8) ∉ line.1)
    (hmedia : lastContentType (lines.map Prod.snd) = some media) :
    parseMultipartPart handlers pct (linesText lines ++ (crlf ++ body)) =
      .ok ⟨lines.map Prod.snd, media, body⟩ := by
  have hne : lines ≠ [] := by
    rintro rfl
    simp [lastContentType] at hmedia
  have hline : ∀ line ∈ lines, line.1 ≠ [] ∧ (10 : UInt8) ∉ line.1 := by
    intro line hmem
    obtain ⟨c, t, heq, -⟩ := (hlines line hmem).1.head
    exact ⟨by simp [heq], (hlines line hmem).2⟩
  have hempty : linesText lines ≠ [] := by
    cases lines with
    | nil => exact absurd rfl hne
    | cons line lines => simp [linesText, crlf]
  have hrest : (if body = [] then crlf else []) = [] ∨ (if body = [] then crlf else []) = crlf := by
    split
    · exact .inr rfl
    · exact .inl rfl
  obtain ⟨s, hparse, hlist⟩ := parseHeaders_lines hne (fun line hmem => (hlines line hmem).1) hrest
  rw [parseMultipartPart, splitPart_lines hne hline]
  simp [hempty, hparse, hlist, hmedia]

lemma trimNewline_crlf (part : Bytes) : trimNewline (part ++ crlf) = part := by
  have hsplit : part ++ crlf = (part ++ [13]) ++ [10] := by simp [crlf]
  rw [trimNewline, hsplit]
  simp

lemma strstr_delim {delim part s : Bytes} (hne : delim ≠ []) (hpart : ¬delim <:+: part) (hcr : (13 : UInt8) ∉ delim)
    (hlf : (10 : UInt8) ∉ delim) :
    strstr delim (part ++ (crlf ++ (delim ++ s))) = some (part.length + 2) := by
  induction part with
  | nil =>
    obtain ⟨c, d, rfl⟩ := List.exists_cons_of_ne_nil hne
    simp only [List.mem_cons, not_or] at hcr hlf
    have h13 : ¬(c :: d).isPrefixOf (13 :: 10 :: (c :: d ++ s)) = true := by
      simp [Ne.symm hcr.1]
    have h10 : ¬(c :: d).isPrefixOf (10 :: (c :: d ++ s)) = true := by
      simp [Ne.symm hlf.1]
    have hfound : (c :: d).isPrefixOf (c :: (d ++ s)) = true := by
      rw [← List.cons_append]
      simp
    simp only [crlf, List.nil_append, List.cons_append] at h13 h10 ⊢
    rw [strstr, if_neg h13, strstr, if_neg h10, strstr, if_pos hfound]
    rfl
  | cons c part ih =>
    have hno : ¬delim.isPrefixOf (c :: part ++ (crlf ++ (delim ++ s))) = true := by
      rw [List.isPrefixOf_iff_prefix]
      intro hprefix
      rcases List.prefix_or_prefix_of_prefix hprefix (List.prefix_append (c :: part) _) with h | h
      · exact hpart h.isInfix
      · obtain ⟨t, rfl⟩ := h
        rw [List.prefix_append_right_inj] at hprefix
        cases t with
        | nil => exact hpart (by simp)
        | cons d t =>
          have hd : d = 13 := by simpa [crlf] using (List.cons_prefix_cons.1 hprefix).1
          exact hcr (by simp [hd])
    have hrest : ¬delim <:+: part := fun h => hpart (h.trans (List.infix_cons_iff.2 (.inr (List.infix_refl _))))
    rw [List.cons_append] at hno ⊢
    rw [strstr, if_neg hno, ih hrest]
    rfl

def delimited (delim : Bytes) : List (Bytes × Part) → Bytes
  | [] => delim ++ [45, 45, 13, 10]
  | part :: parts => delim ++ (crlf ++ (part.1 ++ (crlf ++ delimited delim parts)))

lemma delimited_eq (delim : Bytes) (parts : List (Bytes × Part)) : ∃ s, delimited delim parts = delim ++ s := by
  cases parts with
  | nil => exact ⟨_, rfl⟩
  | cons part parts => exact ⟨_, rfl⟩

lemma endDelimiterLine_crlf (s : Bytes) : endDelimiterLine.run (crlf ++ s) = (.ok (), s) := by
  simp [endDelimiterLine, crlf, isSpace, eat]

lemma multipartRounds {ctype : MediaType} {delim : Bytes} {texts : List (Bytes × Part)} {n : ℕ}
    (parts : List Part) (hne : delim ≠ []) (hcr : (13 : UInt8) ∉ delim) (hlf : (10 : UInt8) ∉ delim)
    (htexts : ∀ part ∈ texts, ¬delim <:+: part.1 ∧ parseMultipartPart handlers ctype part.1 = .ok part.2)
    (hn : texts.length < n) :
    ((repeatRounds (multipartRound handlers ctype delim) n parts).run (delimited delim texts)).1 =
      .ok (parts ++ texts.map Prod.snd) := by
  induction texts generalizing n parts with
  | nil =>
    obtain ⟨n, rfl⟩ : ∃ k, n = k + 1 := ⟨n - 1, by simp at hn; omega⟩
    have hround : (multipartRound handlers ctype delim parts).run (delimited delim []) =
        (.ok (.inr parts), [45, 45, 13, 10]) := by
      rw [multipartRound, change_bind, look_bind]
      simp [delimited]
    rw [repeatRounds_leave hround]
    simp
  | cons part texts ih =>
    obtain ⟨n, rfl⟩ : ∃ k, n = k + 1 := ⟨n - 1, by simp at hn; omega⟩
    obtain ⟨hpart, hparse⟩ := htexts part (by simp)
    have hround : (multipartRound handlers ctype delim parts).run (delimited delim (part :: texts)) =
        (.ok (.inl (parts ++ [part.2])), delimited delim texts) := by
      obtain ⟨s, hs⟩ := delimited_eq delim texts
      have hfound : strstr delim (part.1 ++ (crlf ++ delimited delim texts)) = some (part.1.length + 2) := by
        rw [hs]
        exact strstr_delim hne hpart hcr hlf
      have htake : (part.1 ++ (crlf ++ delimited delim texts)).take (part.1.length + 2) = part.1 ++ crlf := by
        rw [← List.append_assoc]
        exact List.take_left' (by simp [crlf])
      have hdrop : (part.1 ++ (crlf ++ delimited delim texts)).drop (part.1.length + 2) = delimited delim texts := by
        rw [← List.append_assoc]
        exact List.drop_left' (by simp [crlf])
      have hopen : ¬(crlf ++ (part.1 ++ (crlf ++ delimited delim texts))).take 2 = [45, 45] := by
        simp [crlf]
      rw [multipartRound, change_bind, look_bind, delimited, List.drop_left]
      dsimp only [id]
      rw [if_neg hopen, bind_ok (endDelimiterLine_crlf _), look_bind]
      dsimp only [id]
      rw [hfound]
      dsimp only
      rw [change_bind, hdrop, htake, trimNewline_crlf, hparse]
      rfl
    rw [repeatRounds_step hround, ih (parts ++ [part.2]) (fun other hmem => htexts other (by simp [hmem]))
      (by simp at hn; omega)]
    simp

def NamesBoundary (ctype : MediaType) (boundary : Bytes) : Prop :=
  match SipUri.paramFind ctype.param (lit "boundary") with
  | none => True
  | some param => param.value = boundary ∨ boundary ≠ [] ∧ param.value = 34 :: (boundary ++ [34])

lemma findDashes_text (boundary s : Bytes) : findDashes true (crlf ++ (lit "--" ++ boundary ++ s)) = boundary ++ s := by
  simp [crlf, findDashes, lit]

lemma findBoundary_text {ctype : MediaType} {boundary s : Bytes} (h : NamesBoundary ctype boundary)
    (hspace : ∀ c ∈ boundary, isSpaceChar c = false ∧ c ≠ 34) :
    findBoundary ctype (crlf ++ (lit "--" ++ boundary ++ (crlf ++ s))) = boundary := by
  have hfound : (findDashes true (crlf ++ (lit "--" ++ boundary ++ (crlf ++ s)))).takeWhile (!isSpaceChar ·) =
      boundary := by
    rw [findDashes_text, List.takeWhile_append_of_pos (fun c hc => by simp [(hspace c hc).1])]
    simp [crlf, isSpaceChar]
  rw [findBoundary]
  rw [NamesBoundary] at h
  cases hparam : SipUri.paramFind ctype.param (lit "boundary") with
  | none => simpa using hfound
  | some param =>
    rw [hparam] at h
    rcases h with hvalue | ⟨hne, hvalue⟩
    · have hquote : boundary.head? ≠ some 34 := by
        intro hhead
        exact (hspace 34 (List.mem_of_mem_head? hhead)).2 rfl
      by_cases hne : boundary = []
      · subst hne
        simpa [hvalue] using hfound
      · simp [hvalue, hquote, hne]
    · have hlen : 0 < boundary.length := List.length_pos_iff.2 hne
      simp [hvalue, unquote, hne, hlen]

/-- A header that is printed on one line, which is read back as `hdr`. -/
structure PartLine (handlers : List (Bytes × HdrFunc)) where
  printer : Printer
  hdr : Hdr
  reads : ReadAs handlers printer.text hdr
  oneLine : (10 : UInt8) ∉ printer.text

def PartLine.isCtype (line : PartLine handlers) : Bool :=
  match line.hdr with
  | .contentType _ => true
  | _ => false

structure TextPart (handlers : List (Bytes × HdrFunc)) where
  hdrs : List (PartLine handlers)
  type : MediaType
  valid : ValidMedia type
  text : Bytes
  isInt : text.length < 2 ^ 31

def TextPart.hasCtype (part : TextPart handlers) : Bool := part.hdrs.any PartLine.isCtype

def TextPart.contentType (part : TextPart handlers) : MediaType :=
  (lastContentType (part.hdrs.map PartLine.hdr)).getD part.type

def TextPart.toPart (part : TextPart handlers) : PrintPart where
  hdrs := part.hdrs.map fun line => ⟨line.printer, line.isCtype⟩
  body := some ⟨part.type, textPrinter part.text part.isInt⟩

def TextPart.lines (compact : Bool) (part : TextPart handlers) : List (Bytes × Hdr) :=
  part.hdrs.map (fun line => (line.printer.text, line.hdr)) ++
    if part.hasCtype then []
    else [(ctypeName compact ++ mediaText part.type, .contentType part.type),
      (lit "Content-Length: " ++ clenField part.text.length, .contentLength part.text.length)]

def TextPart.shown (compact : Bool) (part : TextPart handlers) : Bytes :=
  linesText (part.lines compact) ++ (crlf ++ part.text)

def TextPart.read (compact : Bool) (part : TextPart handlers) : Part :=
  ⟨(part.lines compact).map Prod.snd, part.contentType, part.text⟩

def multipart (boundary : Bytes) (parts : List (TextPart handlers)) : MultipartData :=
  ⟨boundary, parts.map TextPart.toPart⟩

variable {compact : Bool} {boundary : Bytes} (part : TextPart handlers)

lemma toPart_isCtype : part.toPart.hdrs.any PartHdr.isCtype = part.hasCtype := by
  rw [TextPart.toPart, List.any_map]
  rfl

lemma toPart_auto : part.toPart.auto = if part.hasCtype then none else some part.type := by
  have hne := part.valid.type.1
  rw [PrintPart.auto, toPart_isCtype]
  cases part.hasCtype <;> simp [autoType, TextPart.toPart, hne]

lemma toPart_hdrLines :
    hdrLines part.toPart.hdrs = linesText (part.hdrs.map fun line => (line.printer.text, line.hdr)) := by
  simp [hdrLines, linesText, TextPart.toPart, List.flatMap_map]

lemma partText_toPart : partText compact boundary part.toPart =
      if part.hasCtype = true ∨ (utoa part.text.length).length ≤ clenSpace then
        some (delimiter boundary ++ part.shown compact) else none := by
  have hbody : bodyText part.toPart.body = part.text := rfl
  rw [partText, toPart_auto, hbody, toPart_hdrLines, TextPart.shown, TextPart.lines]
  cases part.hasCtype with
  | true => simp [restText, linesText]
  | false =>
    by_cases hdigits : (utoa part.text.length).length ≤ clenSpace
    · simp [restText, hdigits, autoLines, linesText]
    · simp [restText, hdigits]

lemma closeQuote_line {endQuote : UInt8} {escaped : Bool} {text t rest : Bytes} (hend : endQuote ≠ 10)
    (h : closeQuote endQuote escaped text = some (t, rest)) : (10 : UInt8) ∉ t := by
  induction text generalizing escaped t rest with
  | nil => simp [closeQuote] at h
  | cons c text ih =>
    rw [closeQuote] at h
    split at h
    case isTrue hc =>
      simp only [Option.some.injEq, Prod.mk.injEq] at h
      obtain ⟨rfl, -⟩ := h
      simpa [hc.1] using Ne.symm hend
    case isFalse =>
      split at h
      case isTrue => simp at h
      case isFalse hc =>
        obtain ⟨⟨t', rest'⟩, hrest, heq⟩ := Option.map_eq_some_iff.1 h
        simp only [Prod.mk.injEq] at heq
        obtain ⟨rfl, -⟩ := heq
        simp only [List.mem_cons, not_or]
        refine ⟨fun h10 => hc ⟨h10.symm, ?_⟩, ih hrest⟩
        rw [← h10]
        exact Ne.symm hend

lemma token_line {s : Bytes} (h : ∀ c ∈ s, tokenSpec c = true) : (10 : UInt8) ∉ s := fun hmem =>
  absurd (token_range (h 10 hmem)).1 (by decide)

lemma mediaText_line {media : MediaType} (h : ValidMedia media) : (10 : UInt8) ∉ mediaText media := by
  have hparam : ∀ param ∈ media.param, (10 : UInt8) ∉ paramText param := by
    intro param hmem
    obtain ⟨hname, hvalue⟩ := h.param param hmem
    have htext : (10 : UInt8) ∉ valueText param.value := by
      rw [valueText]
      split
      · simp
      · rcases hvalue with htoken | ⟨text, hquote, hclose⟩
        · rw [escapeText_token htoken, ite_self]
          simp [token_line htoken]
        · have := closeQuote_line (by decide) hclose
          simp [hquote, this]
    simp [paramText, escapeText_token hname.2, token_line hname.2, htext]
  simp only [mediaText, List.mem_append, List.mem_cons, List.mem_flatMap, not_or, not_exists, not_and]
  exact ⟨token_line h.type.2, by decide, token_line h.subtype.2, hparam⟩

lemma clenField_line (n : ℕ) : (10 : UInt8) ∉ clenField n := by
  have hdigits : (10 : UInt8) ∉ utoa n := fun hmem => absurd (utoa_digits n 10 hmem) (by decide)
  simp [clenField, hdigits]

section Read

variable {table : List (Bytes × UriFunc)} {hdrs : List (Bytes × HdrFunc)}

lemma lines_read (part : TextPart (hdrHandlers table ++ hdrs)) : ∀ line ∈ part.lines compact,
      ReadAs (hdrHandlers table ++ hdrs) line.1 line.2 ∧ (10 : UInt8) ∉ line.1 := by
  intro line hmem
  rw [TextPart.lines, List.mem_append] at hmem
  rcases hmem with hmem | hmem
  · obtain ⟨hdr, -, rfl⟩ := List.mem_map.1 hmem
    exact ⟨hdr.reads, hdr.oneLine⟩
  · split at hmem
    · simp at hmem
    · simp only [List.mem_cons, List.not_mem_nil, or_false] at hmem
      rcases hmem with rfl | rfl
      · refine ⟨readAs_type part.valid, ?_⟩
        have hname : (10 : UInt8) ∉ ctypeName compact := by cases compact <;> decide
        simp [hname, mediaText_line part.valid]
      · have hlen : part.text.length ≤ maxContentLength := by
          have := part.isInt
          rw [maxContentLength]
          omega
        refine ⟨readAs_length hlen, ?_⟩
        have hname : (10 : UInt8) ∉ lit "Content-Length: " := by decide
        simp [hname, clenField_line]

end Read

lemma lastContentType_append (a b : List Hdr) :
    lastContentType (a ++ b) = (lastContentType b).or (lastContentType a) := by
  rw [lastContentType, List.filterMap_append, List.getLast?_append]
  rfl

lemma hasCtype_iff : part.hasCtype = (lastContentType (part.hdrs.map PartLine.hdr)).isSome := by
  rw [TextPart.hasCtype, lastContentType]
  induction part.hdrs with
  | nil => rfl
  | cons line lines ih =>
    rw [List.any_cons, ih]
    cases hhdr : line.hdr <;> simp [PartLine.isCtype, hhdr, List.getLast?_cons]

lemma lines_contentType : lastContentType ((part.lines compact).map Prod.snd) = some part.contentType := by
  have hmap : (part.hdrs.map fun line => (line.printer.text, line.hdr)).map Prod.snd =
      part.hdrs.map PartLine.hdr := by
    simp
  have hctype := hasCtype_iff part
  rw [TextPart.lines, List.map_append, hmap, lastContentType_append, TextPart.contentType]
  cases hlast : lastContentType (part.hdrs.map PartLine.hdr) with
  | some media =>
    rw [hlast, Option.isSome_some] at hctype
    rw [if_pos hctype]
    rfl
  | none =>
    rw [hlast, Option.isSome_none] at hctype
    rw [if_neg (by simp [hctype])]
    rfl

lemma partsText_delimited {parts : List (TextPart handlers)} {t : Bytes}
    (ht : t ∈ partsText compact boundary (parts.map TextPart.toPart)) :
    t = crlf ++ delimited (lit "--" ++ boundary)
      (parts.map fun part => (part.shown compact, part.read compact)) := by
  have hdashes : lit "--" = [45, 45] := rfl
  induction parts generalizing t with
  | nil =>
    obtain rfl := Option.some.inj ht
    simp [closing, delimited, crlf, hdashes]
  | cons part parts ih =>
    rw [List.map_cons, partsText, partText_toPart] at ht
    obtain ⟨text, htext, hrest⟩ := Option.bind_eq_some_iff.1 ht
    obtain ⟨rest, hmem, rfl⟩ := Option.map_eq_some_iff.1 hrest
    split at htext
    · obtain rfl := Option.some.inj htext
      rw [ih hmem, List.map_cons, delimited]
      simp [delimiter, crlf, hdashes]
    · simp at htext

lemma completeText_multipart {parts : List (TextPart handlers)} (hne : parts ≠ [])
    (hlength : ∀ part ∈ parts, part.hasCtype = true ∨ part.text.length < 10000) :
    ∃ t, t ∈ completeText compact (multipart boundary parts) := by
  have hparts : ∃ t, t ∈ partsText compact boundary (parts.map TextPart.toPart) := by
    clear hne
    induction parts with
    | nil => exact ⟨_, rfl⟩
    | cons part parts ih =>
      obtain ⟨rest, hrest⟩ := ih fun other hmem => hlength other (by simp [hmem])
      have hpart : part.hasCtype = true ∨ (utoa part.text.length).length ≤ clenSpace :=
        (hlength part (by simp)).imp_right fun h => utoa_length_le h (by decide)
      refine ⟨delimiter boundary ++ part.shown compact ++ rest, ?_⟩
      rw [List.map_cons, partsText, partText_toPart, if_pos hpart, Option.bind_some, hrest]
      rfl
  have hempty : ¬(multipart boundary parts).parts.isEmpty = true := by
    simpa [multipart] using hne
  rw [completeText, if_neg hempty]
  exact hparts

lemma parse_text {table : List (Bytes × UriFunc)} {hdrs : List (Bytes × HdrFunc)} {t : Bytes} {ctype : MediaType}
    {parts : List (TextPart (hdrHandlers table ++ hdrs))} (hne : parts ≠ [])
    (hboundary : ∀ c ∈ boundary, isSpaceChar c = false ∧ c ≠ 34)
    (hshown : ∀ part ∈ parts, ¬lit "--" ++ boundary <:+: part.shown compact)
    (ht : t ∈ completeText compact (multipart boundary parts)) (hctype : NamesBoundary ctype boundary) :
    pjsipMultipartParse (hdrHandlers table ++ hdrs) ctype t = .ok (parts.map (TextPart.read compact)) := by
  have hempty : ¬(multipart boundary parts).parts.isEmpty = true := by
    simpa [multipart] using hne
  rw [completeText, if_neg hempty] at ht
  have htext := partsText_delimited ht
  generalize htexts : parts.map (fun part => (part.shown compact, part.read compact)) = texts at htext
  have hdelim : lit "--" ++ boundary ≠ [] := by simp [lit]
  have hno : ∀ c : UInt8, isSpaceChar c = true → c ∉ lit "--" ++ boundary := by
    intro c hc hmem
    rcases List.mem_append.1 hmem with hmem | hmem
    · exact absurd hc (by rw [forall_mem_of_all (p := fun c => isSpaceChar c = false) (by decide) c hmem]; simp)
    · exact absurd hc (by simp [(hboundary c hmem).1])
  have hparts : ∀ part ∈ texts, ¬lit "--" ++ boundary <:+: part.1 ∧
      parseMultipartPart (hdrHandlers table ++ hdrs) ctype part.1 = .ok part.2 := by
    intro text hmem
    rw [← htexts] at hmem
    obtain ⟨part, hpart, rfl⟩ := List.mem_map.1 hmem
    exact ⟨hshown part hpart, parsePart_lines (lines_read part) (lines_contentType part)⟩
  -- behind the first boundary there is the end of its line
  obtain ⟨s, hs⟩ : ∃ s, t = crlf ++ (lit "--" ++ boundary ++ (crlf ++ s)) := by
    cases texts with
    | nil => simp at htexts; exact absurd htexts hne
    | cons part texts => exact ⟨_, htext⟩
  have hdashes : findDashes true t ≠ [] := by
    rw [hs, findDashes_text]
    simp [crlf]
  have hfound : findBoundary ctype t = boundary := by
    rw [hs]
    exact findBoundary_text hctype hboundary
  have hfirst : strstr (lit "--" ++ boundary) t = some 2 := by
    rw [hs]
    exact strstr_delim hdelim (fun h => hdelim (List.infix_nil.1 h)) (hno 13 (by decide)) (hno 10 (by decide))
  have hlen : texts.length < (delimited (lit "--" ++ boundary) texts).length + 1 := by
    clear htexts htext hparts
    induction texts with
    | nil => simp
    | cons part texts ih =>
      simp only [delimited, List.length_cons, List.length_append, crlf_length]
      omega
  have hrounds := multipartRounds [] hdelim (hno 13 (by decide)) (hno 10 (by decide)) hparts hlen
  have hread : texts.map Prod.snd = parts.map (TextPart.read compact) := by
    rw [← htexts]
    simp
  rw [pjsipMultipartParse]
  simp only [hdashes, and_false, if_false, hfound, hfirst]
  rw [htext, ← hread]
  exact hrounds

/-- What a multipart body with text parts prints into a large buffer is parsed to the same parts, with
their content types and texts; and it is printed if every length that is added has at most four
digits. -/
theorem multipart_round {table : List (Bytes × UriFunc)} {hdrs : List (Bytes × HdrFunc)} (compact : Bool)
    (boundary : Bytes) (parts : List (TextPart (hdrHandlers table ++ hdrs))) (hne : parts ≠ [])
    (hboundary : ∀ c ∈ boundary, isSpaceChar c = false ∧ c ≠ 34)
    (hshown : ∀ part ∈ parts, ¬lit "--" ++ boundary <:+: part.shown compact) :
    (∀ size out, size < 2 ^ 31 →
      (∀ t ∈ completeText compact (multipart boundary parts), t.length + 2 ≤ size) →
      multipartPrintBody compact (multipart boundary parts) size = .ok out →
      ∀ ctype, NamesBoundary ctype boundary →
        pjsipMultipartParse (hdrHandlers table ++ hdrs) ctype out = .ok (parts.map (TextPart.read compact))) ∧
    ((∀ part ∈ parts, part.hasCtype = true ∨ part.text.length < 10000) →
      ∃ t ∈ completeText compact (multipart boundary parts), ∀ reserve size, (∀ part ∈ parts, ∀ line ∈ part.hdrs, line.printer.Prints (reserve + 2)) →
        t.length + reserve + 2 ≤ size → size < 2 ^ 31 →
          multipartPrintBody compact (multipart boundary parts) size = .ok t) := by
  constructor
  · intro size out hint hsize hout ctype hctype
    exact parse_text hne hboundary hshown (print_text hout hsize hint) hctype
  · intro hlength
    obtain ⟨t, ht⟩ := completeText_multipart hne hlength
    refine ⟨t, ht, fun reserve size hprints hsize hint => print_large ht ?_ hsize hint⟩
    intro shown hmem
    obtain ⟨part, hpart, rfl⟩ := List.mem_map.1 hmem
    constructor
    · intro hdr hhdr
      obtain ⟨line, hline, rfl⟩ := List.mem_map.1 hhdr
      exact hprints part hpart line hline
    · intro body hbody
      obtain rfl := Option.some.inj hbody
      exact fun n hn => decide_eq_true (by simp only [textPrinter] at hn ⊢; omega)

lemma readAs_xId : ReadAs (hdrHandlers [] ++ []) (lit "X-Id: 7") (.generic (lit "X-Id") (lit "7")) := by
  have htext : lit "X-Id: 7" = lit "X-Id" ++ 58 :: ([32] ++ lit "7") := by decide
  have hnone : findHandler (hdrHandlers [] ++ []) (lit "X-Id") = none := findHandler_none (by decide)
  rw [htext]
  exact readAs_generic (isToken_lit (by decide) (by decide)) hnone ⟨55, [], rfl, rfl⟩ (forall_mem_of_all (by decide))

def xId : PartLine (hdrHandlers [] ++ []) :=
  ⟨textPrinter (lit "X-Id: 7") (by decide), .generic (lit "X-Id") (lit "7"), readAs_xId, by decide⟩

lemma validMedia_plain : ValidMedia ⟨lit "a", lit "b", [⟨lit "c", lit "d"⟩]⟩ where
  type := isToken_lit (by decide) (by decide)
  subtype := isToken_lit (by decide) (by decide)
  param := by
    intro param hmem
    obtain rfl := List.mem_singleton.1 hmem
    exact ⟨isToken_lit (by decide) (by decide), .inl (forall_mem_of_all (by decide))⟩

def twoTexts : List (TextPart (hdrHandlers [] ++ [])) :=
  [⟨[xId], _, validMedia_plain, lit "\r\n", by decide⟩, ⟨[], _, validMedia_plain, [], by decide⟩]

set_option maxRecDepth 4000 in
theorem multipart_round_two : ∃ out, multipartPrintBody true (multipart (lit "b1") twoTexts) 300 = .ok out ∧
    pjsipMultipartParse (hdrHandlers [] ++ []) ⟨lit "multipart", lit "mixed", [⟨lit "boundary", lit "b1"⟩]⟩ out =
      .ok (twoTexts.map (TextPart.read true)) := by
  have hprint : multipartPrintBody true (multipart (lit "b1") twoTexts) 300 =
      .ok (lit "\r\n--b1\r\nX-Id: 7\r\nc: a/b;c=d\r\nContent-Length:    2\r\n\r\n\r\n" ++
        lit "\r\n--b1\r\nc: a/b;c=d\r\nContent-Length:    0\r\n\r\n\r\n--b1--\r\n") := by
    rw [show lit "\r\n--b1\r\nX-Id: 7\r\nc: a/b;c=d\r\nContent-Length:    2\r\n\r\n\r\n" = _ from lit_ofList _,
      show lit "\r\n--b1\r\nc: a/b;c=d\r\nContent-Length:    0\r\n\r\n\r\n--b1--\r\n" = _ from lit_ofList _]
    decide
  have hshown : ∀ part ∈ twoTexts, ¬lit "--" ++ lit "b1" <:+: part.shown true := by
    intro part hmem
    rcases List.mem_cons.1 hmem with rfl | hmem
    · decide
    · obtain rfl := List.mem_singleton.1 hmem
      decide
  have hround := (multipart_round true (lit "b1") twoTexts (by simp [twoTexts])
    (forall_mem_of_all (by decide)) hshown).1 300 _ (by decide) (by decide) hprint
  exact ⟨_, hprint, hround _ (.inl rfl)⟩

def pathType : MediaType := ⟨lit "a", lit "b", [⟨lit "path", lit "c/d"⟩]⟩

lemma validMedia_path : ValidMedia ⟨lit "a", lit "b", [⟨lit "path", lit "c%2fd"⟩]⟩ where
  type := isToken_lit (by decide) (by decide)
  subtype := isToken_lit (by decide) (by decide)
  param := by
    intro param hmem
    obtain rfl := List.mem_singleton.1 hmem
    exact ⟨isToken_lit (by decide) (by decide), .inl (forall_mem_of_all (by decide))⟩

lemma isInt_hi : (lit "Hi").length < 2 ^ 31 := by decide

def pathBody : MultipartData := ⟨lit "b1", [⟨[], some ⟨pathType, textPrinter (lit "Hi") isInt_hi⟩⟩]⟩

/-- What is read back of `pathBody`. -/
def pathRead : List (TextPart (hdrHandlers [] ++ [])) := [⟨[], _, validMedia_path, lit "Hi", isInt_hi⟩]

/-- The value is escaped when it is printed, and stays so: the parser of headers leaves tokens as
they are. -/
theorem multipart_round_escaped : ∃ out part, multipartPrintBody false pathBody 300 = .ok out ∧
    pjsipMultipartParse (hdrHandlers [] ++ []) ⟨lit "multipart", lit "mixed", [⟨lit "boundary", lit "b1"⟩]⟩ out =
      .ok [part] ∧ part.contentType ≠ pathType := by
  have hprint : multipartPrintBody false pathBody 300 = .ok (lit
      "\r\n--b1\r\nContent-Type: a/b;path=c%2fd\r\nContent-Length:    2\r\n\r\nHi\r\n--b1--\r\n") := by
    rw [lit_ofList]
    decide
  have hshown : ∀ part ∈ pathRead, ¬lit "--" ++ lit "b1" <:+: part.shown false := by
    intro part hmem
    obtain rfl := List.mem_singleton.1 hmem
    decide
  have htext : lit "\r\n--b1\r\nContent-Type: a/b;path=c%2fd\r\nContent-Length:    2\r\n\r\nHi\r\n--b1--\r\n" ∈
      completeText false (multipart (lit "b1") pathRead) := by
    decide
  have hparse := parse_text (List.cons_ne_nil _ _) (forall_mem_of_all (by decide)) hshown htext
    (show NamesBoundary ⟨lit "multipart", lit "mixed", [⟨lit "boundary", lit "b1"⟩]⟩ (lit "b1") from .inl rfl)
  exact ⟨_, _, hprint, hparse, by decide⟩

end PjProject.Multipart
