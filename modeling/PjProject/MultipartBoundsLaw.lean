import PjProject.MultipartBounds

/-!
# The printing of multipart bodies is bounded

Every stage of the printing adds the text that it stands for, or fails. A stage is taken with all
that is printed behind it, so that a failure can be held against the whole text.
-/
namespace PjProject.Multipart

open SipParser

variable {compact : Bool} {boundary out : Bytes} {size slack : ℕ} {must : Prop} {text : Option Bytes}

/-- What is left to print behind `out` comes out as `text`, or the printing fails; where it `must`
succeed, it does so with `slack` bytes to spare. -/
structure Stage (size slack : ℕ) (must : Prop) (out : Bytes) (text : Option Bytes)
    (r : Except Stop Bytes) : Prop where
  printed : r = .error .failed ∨ ∃ t ∈ text, r = .ok (out ++ t) ∧ out.length + t.length ≤ size
  whole : must → ∀ t ∈ text, out.length + t.length + slack ≤ size → r ≠ .error .failed

lemma Stage.failed (h : must → ∀ t ∈ text, size < out.length + t.length + slack) :
    Stage size slack must out text (.error .failed) :=
  ⟨.inl rfl, fun hm t ht hfit => absurd (h hm t ht) (by omega)⟩

variable {t : Bytes}

lemma Stage.append {r : Except Stop Bytes} (h : Stage size slack must (out ++ t) text r) :
    Stage size slack must out (text.map (t ++ ·)) r := by
  constructor
  · rcases h.printed with hr | ⟨s, hs, hr, hlen⟩
    · exact .inl hr
    · refine .inr ⟨t ++ s, by simpa using hs, by rw [hr, List.append_assoc], ?_⟩
      simp only [List.length_append] at hlen ⊢
      omega
  · intro hm _ hmem hlen
    obtain ⟨s, hs, rfl⟩ := Option.map_eq_some_iff.1 hmem
    apply h.whole hm s hs
    simp only [List.length_append] at hlen ⊢
    omega

lemma ok_bind {x : α} {k : α → Except Stop β} : Except.ok x >>= k = k x := rfl

lemma put_bind {k : Bytes → Except Stop α} (hfit : out.length + t.length ≤ size) :
    put size out t >>= k = k (out ++ t) := by
  simp only [put, if_pos hfit]
  rfl

variable {k : Bytes → Except Stop Bytes}

lemma Stage.put (hfit : out.length + t.length ≤ size)
    (h : Stage size slack must (out ++ t) text (k (out ++ t))) :
    Stage size slack must out (text.map (t ++ ·)) (put size out t >>= k) := by
  rw [put_bind hfit]
  exact h.append

variable {left : ℕ}

lemma Stage.print {printer : Printer}
    (hleft : out.length + left ≤ size) (hprints : must → printer.Prints slack)
    (hroom : ∀ t ∈ text, size < out.length + printer.text.length + t.length + slack ∨
      printer.text.length + slack ≤ left) (h : printer.accepts left = true →
      Stage size slack must (out ++ printer.text) text (k (out ++ printer.text))) :
    Stage size slack must out (text.map (printer.text ++ ·)) (printText printer size out left >>= k) := by
  by_cases ha : printer.accepts left = true
  · have hfit := printer.fits left ha
    simp only [printText, Printer.print, if_pos ha]
    exact Stage.put (by omega) (h ha)
  · simp only [printText, Printer.print, if_neg ha]
    apply Stage.failed
    intro hm _ hmem
    obtain ⟨t, ht, rfl⟩ := Option.map_eq_some_iff.1 hmem
    have hlong := mt (hprints hm left) ha
    have := hroom t ht
    simp only [List.length_append]
    omega

lemma crlf_length : crlf.length = 2 := rfl

variable {hdrs : List PartHdr} {next : ℕ → Prop}

lemma printHdrs_stage {k : Bytes × Bool → Except Stop Bytes}
    {ctypePrinted : Bool} (hprints : must → ∀ hdr ∈ hdrs, hdr.printer.Prints slack) (hout : out.length ≤ size)
    (hclear : HdrsClear next hdrs (size - out.length))
    (hk : ∀ out : Bytes, out.length ≤ size → next (size - out.length) →
      Stage size slack must out text (k (out, ctypePrinted || hdrs.any PartHdr.isCtype))) :
    Stage size slack must out (text.map (hdrLines hdrs ++ ·))
      (printHdrs size hdrs out ctypePrinted >>= k) := by
  induction hdrs generalizing out ctypePrinted with
  | nil =>
    have hrun : printHdrs size [] out ctypePrinted >>= k = k (out, ctypePrinted) := rfl
    simpa [hrun, hdrLines] using hk out hout hclear
  | cons hdr hdrs ih =>
    obtain ⟨htwo, hnext⟩ := hclear
    have hpass : passSize size out 2 = .ok (size - out.length - 2) := if_pos (by omega)
    have htext : text.map (hdrLines (hdr :: hdrs) ++ ·) =
        ((text.map (hdrLines hdrs ++ ·)).map (crlf ++ ·)).map (hdr.printer.text ++ ·) := by
      cases text <;> simp [hdrLines]
    have hrun : printHdrs size (hdr :: hdrs) out ctypePrinted >>= k =
        printText hdr.printer size out (size - out.length - 2) >>= fun out => put size out crlf >>=
          fun out => printHdrs size hdrs out (ctypePrinted || hdr.isCtype) >>= k := by
      simp only [printHdrs, hpass, bind_assoc]
      rfl
    rw [htext, hrun]
    apply Stage.print (by omega) (fun hm => hprints hm hdr (by simp))
    · intro t ht
      obtain ⟨t, -, rfl⟩ := Option.map_eq_some_iff.1 ht
      simp only [List.length_append, crlf_length]
      omega
    · intro ha
      have hfit := hdr.printer.fits _ ha
      apply Stage.put (by simp only [List.length_append, crlf_length]; omega)
      apply ih (fun hm hdr hmem => hprints hm hdr (by simp [hmem]))
      · simp only [List.length_append, crlf_length]
        omega
      · have hspace : size - (out ++ hdr.printer.text ++ crlf).length =
            size - out.length - (hdr.printer.text.length + 2) := by
          simp only [List.length_append, crlf_length]
          omega
        rw [hspace]
        exact hnext ha
      · simpa only [List.any_cons, Bool.or_assoc] using hk

variable {src : Bytes}

lemma escapeLoop_text (h : escapeLoop left src = some t) : t = escapeText src := by
  induction left, src using escapeLoop.induct generalizing t with
  | case1 => simpa [escapeLoop, escapeText] using h.symm
  | case2 => simp [escapeLoop] at h
  | case3 left c src hc ih =>
    simp only [escapeLoop, if_pos hc, Option.map_eq_map, Option.map_eq_some_iff] at h
    obtain ⟨rest, hrest, rfl⟩ := h
    simp [escapeText, hc, ih hrest]
  | case4 left c src hc hshort => simp [escapeLoop, hc, hshort] at h
  | case5 left c src hc hlong ih =>
    simp only [escapeLoop, if_neg hc, if_neg hlong, Option.map_eq_map, Option.map_eq_some_iff] at h
    obtain ⟨rest, hrest, rfl⟩ := h
    simp [escapeText, hc, ih hrest]

lemma strncpy2Escape_text {max : ℕ} (h : strncpy2Escape max src = some t) : t = escapeText src := by
  rw [strncpy2Escape] at h
  split at h
  · simp at h
  · exact escapeLoop_text h

lemma printValue_text {value : Bytes} (h : printValue left value = some t) : t = valueText value := by
  rw [printValue] at h
  rw [valueText]
  split at h
  case isTrue hempty => rw [if_pos hempty, ← Option.some.inj h]
  case isFalse hvalue =>
    rw [if_neg hvalue]
    split at h
    · simp at h
    · obtain ⟨shown, hshown, rfl⟩ := Option.map_eq_some_iff.1 h
      split at hshown
      case isTrue hquote =>
        rw [copyAdvance] at hshown
        split at hshown
        · simp at hshown
        · rw [if_pos hquote, Option.some.inj hshown]
      case isFalse hquote => rw [if_neg hquote, strncpy2Escape_text hshown]

lemma printParams_text {params : List SipUri.Param}
    (h : printParams left params = some t) : t = params.flatMap paramText := by
  induction params generalizing left t with
  | nil => simpa [printParams] using h.symm
  | cons param params ih =>
    rw [printParams] at h
    split at h
    · simp at h
    · simp only [Option.bind_eq_bind, Option.bind_eq_some_iff] at h
      obtain ⟨name, hname, value, hvalue, rest, hrest, ht⟩ := h
      rw [← Option.some.inj ht, List.flatMap_cons, paramText, strncpy2Escape_text hname,
        printValue_text hvalue, ih hrest]
      simp

variable {media : MediaType}

lemma mediaTypePrint_text {len : ℕ} (h : mediaTypePrint len media = some t) : t = mediaText media := by
  rw [mediaTypePrint] at h
  split at h
  · simp at h
  · split at h
    · simp at h
    · simp only [Option.bind_eq_bind, Option.bind_eq_some_iff] at h
      obtain ⟨params, hparams, ht⟩ := h
      rw [← Option.some.inj ht, mediaText, printParams_text hparams]

lemma bmod_length (h : t.length < 2 ^ 31) : Int.bmod t.length (2 ^ 32) = t.length := by
  rw [Int.bmod_def]
  push_cast
  split_ifs <;> omega

lemma advanceMedia_clear (hout : out.length ≤ size) (hclear : MediaClear compact media (size - out.length)) :
    advanceMedia size (out ++ ctypeName compact) media =
      .ok (out ++ ctypeName compact ++ mediaText media) := by
  obtain ⟨t, ht, hint, hfit⟩ := hclear
  obtain rfl := mediaTypePrint_text ht
  have hpass : passSize size (out ++ ctypeName compact) 0 =
      .ok (size - out.length - (ctypeName compact).length) := by
    rw [passSize, if_pos (by simp only [List.length_append]; omega)]
    simp only [List.length_append, Nat.sub_zero, Nat.sub_sub]
  have hput : put size (out ++ ctypeName compact) (mediaText media) =
      .ok (out ++ ctypeName compact ++ mediaText media) :=
    if_pos (by simp only [List.length_append]; omega)
  have hprinted : (0 : ℤ) ≤ Int.bmod (mediaText media).length (2 ^ 32) :=
    (bmod_length hint).symm ▸ Int.natCast_nonneg _
  rw [advanceMedia, hpass, ok_bind]
  dsimp only
  rw [ht, Option.map_some, Option.getD_some, if_pos hprinted, Option.getD_some, hput]

variable {rest : Bytes}

lemma patchLength_blanks {n : ℕ} (hdigits : (utoa n).length ≤ clenSpace) :
    patchLength (out ++ (List.replicate clenSpace 32 ++ rest)) out.length n =
      .ok (out ++ (clenField n ++ rest)) := by
  have htake : (out ++ (List.replicate clenSpace 32 ++ rest)).take
      (out.length + clenSpace - (utoa n).length) =
      out ++ List.replicate (clenSpace - (utoa n).length) 32 := by
    rw [Nat.add_sub_assoc hdigits, List.take_length_add_append,
      List.take_append_of_le_length (by simp), List.take_replicate]
    congr 2
    omega
  have hdrop : (out ++ (List.replicate clenSpace 32 ++ rest)).drop
      (out.length + clenSpace - (utoa n).length + (utoa n).length) = rest := by
    rw [Nat.sub_add_cancel (by omega), List.drop_length_add_append, List.drop_left' (by simp)]
  simp only [patchLength, if_neg (Nat.not_lt.2 hdigits), htake, hdrop, clenField, List.append_assoc]

lemma clenField_length {n : ℕ} (hdigits : (utoa n).length ≤ clenSpace) : (clenField n).length = clenSpace := by
  simp only [clenField, List.length_append, List.length_replicate]
  omega

lemma printBody_stage {body : Option PartBody}
    (hprints : must → ∀ b ∈ body, b.printer.Prints slack) (htwo : out.length + 2 ≤ size)
    (hclear : BodyClear next body (size - out.length - 2))
    (hk : ∀ out : Bytes, out.length ≤ size → next (size - out.length) →
      Stage size slack must out text (k out)) :
    Stage size slack must out (text.map fun t => crlf ++ (bodyText body ++ t))
      (printBody size body none out >>= k) := by
  have htext : (text.map fun t => crlf ++ (bodyText body ++ t)) = (text.map (bodyText body ++ ·)).map (crlf ++ ·) := by
    cases text <;> rfl
  have hspace : size - (out ++ crlf).length = size - out.length - 2 := by
    simp only [List.length_append, crlf_length]
    omega
  have hfit : (out ++ crlf).length ≤ size := by
    simpa only [List.length_append, crlf_length] using htwo
  rw [htext, printBody, bind_assoc]
  apply Stage.put (by rwa [crlf_length])
  cases body with
  | none =>
    have hstage := hk (out ++ crlf) hfit (by rw [hspace]; exact hclear)
    simpa [bodyText, bind, Except.bind] using hstage
  | some body =>
    have hpass : passSize size (out ++ crlf) 0 = .ok (size - (out ++ crlf).length) := if_pos hfit
    simp only [hpass, ok_bind, bodyText, Option.map_some, Option.getD_some, bind_assoc]
    apply Stage.print (by omega) (fun hm => hprints hm body rfl)
    · intro t ht
      omega
    · intro ha
      have hle := body.printer.fits _ ha
      apply hk
      · rw [List.length_append]
        omega
      · rw [List.length_append, ← Nat.sub_sub, hspace]
        exact hclear (hspace ▸ ha)

lemma lengthBody_stage {body : PartBody}
    (hprints : must → body.printer.Prints slack) (hfit : out.length + (clenSpace + 4) ≤ size)
    (hclear : (utoa body.printer.text.length).length ≤ clenSpace →
      BodyClear next (some body) (size - out.length - (clenSpace + 4)))
    (hk : ∀ out : Bytes, out.length ≤ size → next (size - out.length) →
      Stage size slack must out text (k out)) : Stage size slack must out
      (if (utoa body.printer.text.length).length ≤ clenSpace then
        text.map fun t => clenField body.printer.text.length ++ (crlf ++ (crlf ++ (body.printer.text ++ t)))
        else none)
      (put size out (List.replicate clenSpace 32) >>= fun blanks => put size blanks crlf >>= fun line =>
        printBody size (some body) (some out.length) line >>= k) := by
  have hlen : (out ++ List.replicate clenSpace 32 ++ crlf ++ crlf).length = out.length + (clenSpace + 4) := by
    simp only [List.length_append, List.length_replicate, crlf_length]
    omega
  have hpass : passSize size (out ++ List.replicate clenSpace 32 ++ crlf ++ crlf) 0 =
      .ok (size - (out.length + (clenSpace + 4))) := by
    rw [passSize, hlen, if_pos (by omega), Nat.sub_zero]
  have hrun : (put size out (List.replicate clenSpace 32) >>= fun blanks => put size blanks crlf >>=
        fun line => printBody size (some body) (some out.length) line >>= k) =
      printText body.printer size (out ++ List.replicate clenSpace 32 ++ crlf ++ crlf)
        (size - (out.length + (clenSpace + 4))) >>= fun shown =>
          patchLength shown out.length body.printer.text.length >>= k := by
    simp only [List.length_append, List.length_replicate, crlf_length] at hlen
    rw [put_bind (by rw [List.length_replicate]; omega),
      put_bind (by simp only [List.length_append, List.length_replicate, crlf_length]; omega),
      printBody, bind_assoc,
      put_bind (by simp only [List.length_append, List.length_replicate, crlf_length]; omega)]
    simp only [hpass, ok_bind, bind_assoc]
  rw [hrun]
  by_cases ha : body.printer.accepts (size - (out.length + (clenSpace + 4))) = true
  · have hle := body.printer.fits _ ha
    have hshown : printText body.printer size (out ++ List.replicate clenSpace 32 ++ crlf ++ crlf)
        (size - (out.length + (clenSpace + 4))) =
        .ok (out ++ (List.replicate clenSpace 32 ++ (crlf ++ (crlf ++ body.printer.text)))) := by
      simp only [printText, Printer.print, if_pos ha, put]
      rw [if_pos (by rw [hlen]; omega)]
      simp only [List.append_assoc]
    rw [hshown, ok_bind]
    split
    case isTrue hdigits =>
      have htext : (text.map fun t =>
          clenField body.printer.text.length ++ (crlf ++ (crlf ++ (body.printer.text ++ t)))) =
          text.map ((clenField body.printer.text.length ++ (crlf ++ (crlf ++ body.printer.text))) ++ ·) := by
        simp only [List.append_assoc]
      have hdone : (out ++ (clenField body.printer.text.length ++ (crlf ++ (crlf ++ body.printer.text)))).length =
          out.length + (clenSpace + 4) + body.printer.text.length := by
        simp only [List.length_append, clenField_length hdigits, crlf_length]
        omega
      rw [patchLength_blanks hdigits, ok_bind, htext]
      apply Stage.append
      apply hk
      · rw [hdone]
        omega
      · rw [hdone, ← Nat.sub_sub, ← Nat.sub_sub]
        exact hclear hdigits (by rwa [Nat.sub_sub])
    case isFalse hdigits =>
      have hpatch (shown : Bytes) : patchLength shown out.length body.printer.text.length = .error .failed :=
        if_pos (by omega)
      rw [hpatch]
      exact Stage.failed (by simp)
  · have hshown : printText body.printer size (out ++ List.replicate clenSpace 32 ++ crlf ++ crlf)
        (size - (out.length + (clenSpace + 4))) = .error .failed := by
      simp only [printText, Printer.print, if_neg ha]
    rw [hshown]
    apply Stage.failed
    intro hm t ht
    have hlong := mt (hprints hm _) ha
    split at ht
    case isTrue hdigits =>
      obtain ⟨rest, -, rfl⟩ := Option.map_eq_some_iff.1 ht
      simp only [List.length_append, clenField_length hdigits, crlf_length]
      omega
    case isFalse => simp at ht

lemma printAuto_stage {body : PartBody}
    (hprints : must → body.printer.Prints slack) (hout : out.length ≤ size)
    (hclear : 24 + media.type.length + media.subtype.length ≤ size - out.length →
      MediaClear compact media (size - out.length) ∧ (autoSpace compact media ≤ size - out.length →
        (utoa body.printer.text.length).length ≤ clenSpace →
          BodyClear next (some body) (size - out.length - autoSpace compact media)))
    (hk : ∀ out : Bytes, out.length ≤ size → next (size - out.length) →
      Stage size slack must out text (k out)) : Stage size slack must out
      ((restText compact (some media) body.printer.text).bind fun rest => text.map (rest ++ ·))
      (printAuto compact size media out >>= fun r => printBody size (some body) (some r.2) r.1 >>= k) := by
  have hname : 3 ≤ (ctypeName compact).length := by
    cases compact <;> simp [ctypeName, lit]
  have hmedia : media.type.length + media.subtype.length + 1 ≤ (mediaText media).length := by
    simp only [mediaText, List.length_append, List.length_cons]
    omega
  have htext : ((restText compact (some media) body.printer.text).bind fun rest => text.map (rest ++ ·)) =
      (((if (utoa body.printer.text.length).length ≤ clenSpace then
        text.map fun t => clenField body.printer.text.length ++ (crlf ++ (crlf ++ (body.printer.text ++ t)))
        else none).map (lit "Content-Length: " ++ ·)).map
          ((ctypeName compact ++ mediaText media ++ crlf) ++ ·)) := by
    rw [restText]
    split <;> cases text <;> simp [autoLines]
  have hlong : ∀ t ∈ ((restText compact (some media) body.printer.text).bind fun rest => text.map (rest ++ ·)),
      autoSpace compact media ≤ t.length := by
    intro t ht
    rw [htext] at ht
    obtain ⟨lines, hlines, rfl⟩ := Option.map_eq_some_iff.1 ht
    obtain ⟨field, hfield, rfl⟩ := Option.map_eq_some_iff.1 hlines
    split at hfield
    case isTrue hdigits =>
      obtain ⟨rest, -, rfl⟩ := Option.map_eq_some_iff.1 hfield
      have hclen : (lit "Content-Length: ").length = 16 := rfl
      simp only [List.length_append, clenField_length hdigits, crlf_length, autoSpace, hclen]
      omega
    case isFalse => simp at hfield
  rw [printAuto]
  by_cases hroom : size - out.length < 24 + media.type.length + media.subtype.length
  · rw [if_pos hroom]
    apply Stage.failed
    intro hm t ht
    have := hlong t ht
    simp only [autoSpace] at this
    omega
  · obtain ⟨hclear, hnext⟩ := hclear (by omega)
    have hspace : (ctypeName compact).length + (mediaText media).length + 2 ≤ size - out.length := by
      obtain ⟨t, ht, -, hfit⟩ := hclear
      rwa [← mediaTypePrint_text ht]
    have hline : (out ++ ctypeName compact ++ mediaText media ++ crlf).length =
        out.length + ((ctypeName compact).length + (mediaText media).length + 2) := by
      simp only [List.length_append, crlf_length]
      omega
    rw [if_neg hroom, bind_assoc, put_bind (by omega), bind_assoc, advanceMedia_clear hout hclear, ok_bind,
      bind_assoc, put_bind (by simp only [List.length_append, crlf_length]; omega)]
    by_cases hfield : size - (out ++ ctypeName compact ++ mediaText media ++ crlf).length < 16 + clenSpace + 4
    · rw [if_pos hfield]
      apply Stage.failed
      intro hm t ht
      have := hlong t ht
      simp only [autoSpace] at this
      omega
    · have hclen : (lit "Content-Length: ").length = 16 := rfl
      rw [hline] at hfield
      rw [if_neg (hline ▸ hfield), htext]
      have hhead : out ++ (ctypeName compact ++ mediaText media ++ crlf) =
          out ++ ctypeName compact ++ mediaText media ++ crlf := by
        simp only [← List.append_assoc]
      apply Stage.append
      rw [hhead]
      simp only [bind_assoc, ok_bind]
      apply Stage.put (by rw [hline, hclen]; omega)
      have hplace : size - (out ++ ctypeName compact ++ mediaText media ++ crlf ++ lit "Content-Length: ").length -
          (clenSpace + 4) = size - out.length - autoSpace compact media := by
        rw [List.length_append, hline, hclen, autoSpace]
        omega
      apply lengthBody_stage hprints (by rw [List.length_append, hline, hclen]; omega) _ hk
      intro hdigits
      rw [hplace]
      exact hnext (by rw [autoSpace]; omega) hdigits

variable {part : PrintPart}

lemma printRest_stage (hprints : must → part.Prints slack) (hout : out.length ≤ size)
    (hclear : RestClear compact part next (size - out.length))
    (hk : ∀ out : Bytes, out.length ≤ size → next (size - out.length) →
      Stage size slack must out text (k out)) : Stage size slack must out
      ((restText compact part.auto (bodyText part.body)).bind fun rest => text.map (rest ++ ·))
      (printRest compact size part.body (part.hdrs.any PartHdr.isCtype) out >>= k) := by
  rw [printRest, ← PrintPart.auto]
  rw [RestClear] at hclear
  cases hauto : part.auto with
  | none =>
    rw [hauto] at hclear
    have htext : ((restText compact none (bodyText part.body)).bind fun rest => text.map (rest ++ ·)) =
        text.map fun t => crlf ++ (bodyText part.body ++ t) := by
      simp only [restText, Option.bind_some, List.append_assoc]
    rw [htext]
    exact printBody_stage (fun hm => (hprints hm).2) (by omega) hclear.2 hk
  | some media =>
    rw [hauto] at hclear
    obtain ⟨body, hbody⟩ : ∃ body, part.body = some body := by
      cases hb : part.body with
      | none => simp [PrintPart.auto, autoType, hb] at hauto
      | some body => exact ⟨body, rfl⟩
    rw [hbody] at hclear ⊢
    simp only [bind_assoc]
    exact printAuto_stage (fun hm => (hprints hm).2 body hbody) hout hclear hk

lemma delimiter_length : (delimiter boundary).length = boundary.length + 6 := by
  simp only [delimiter, List.length_append, List.length_cons, List.length_nil]
  omega

lemma closing_length : (closing boundary).length = boundary.length + 8 := by
  simp only [closing, List.length_append, List.length_cons, List.length_nil]
  omega

lemma rest_long (hbare : ¬part.Bare) (hrest : rest ∈ restText compact part.auto (bodyText part.body)) :
    2 < (hdrLines part.hdrs ++ rest).length := by
  by_contra hshort
  apply hbare
  cases hauto : part.auto with
  | none =>
    rw [hauto, restText] at hrest
    obtain rfl := Option.some.inj hrest
    simp only [List.length_append, crlf_length] at hshort
    refine ⟨?_, hauto, List.length_eq_zero_iff.1 (by omega)⟩
    cases hhdrs : part.hdrs with
    | nil => rfl
    | cons hdr hdrs =>
      simp only [hhdrs, hdrLines, List.flatMap_cons, List.length_append, crlf_length] at hshort
      omega
  | some media =>
    rw [hauto, restText] at hrest
    split at hrest
    · obtain rfl := Option.some.inj hrest
      simp only [autoLines, List.length_append, crlf_length] at hshort
      omega
    · simp at hrest

lemma restText_long {auto : Option MediaType} {body : Bytes} (h : rest ∈ restText compact auto body) :
    2 ≤ rest.length := by
  cases auto with
  | none =>
    obtain rfl := Option.some.inj h
    simp only [List.length_append, crlf_length]
    omega
  | some media =>
    rw [restText] at h
    split at h
    · obtain rfl := Option.some.inj h
      simp only [autoLines, List.length_append, crlf_length]
      omega
    · simp at h

variable {parts : List PrintPart}

lemma partsText_cons : partsText compact boundary (part :: parts) =
      (((restText compact part.auto (bodyText part.body)).bind fun rest =>
        (partsText compact boundary parts).map (rest ++ ·)).map (hdrLines part.hdrs ++ ·)).map
          (delimiter boundary ++ ·) := by
  rw [partsText, partText]
  cases restText compact part.auto (bodyText part.body) <;> cases partsText compact boundary parts <;> simp

lemma partsText_cons_mem (h : t ∈ partsText compact boundary (part :: parts)) :
    ∃ rest ∈ restText compact part.auto (bodyText part.body), ∃ after ∈ partsText compact boundary parts,
      t = delimiter boundary ++ (hdrLines part.hdrs ++ (rest ++ after)) := by
  rw [partsText_cons] at h
  obtain ⟨lines, hlines, rfl⟩ := Option.map_eq_some_iff.1 h
  obtain ⟨tail, htail, rfl⟩ := Option.map_eq_some_iff.1 hlines
  obtain ⟨rest, hrest, hafter⟩ := Option.bind_eq_some_iff.1 htail
  obtain ⟨after, hmem, rfl⟩ := Option.map_eq_some_iff.1 hafter
  exact ⟨rest, hrest, after, hmem, rfl⟩

lemma partsText_long (h : t ∈ partsText compact boundary parts) :
    (parts.length + 1) * (boundary.length + 8) ≤ t.length := by
  induction parts generalizing t with
  | nil =>
    obtain rfl := Option.some.inj h
    simp [closing_length]
  | cons part parts ih =>
    obtain ⟨rest, hrest, after, hafter, rfl⟩ := partsText_cons_mem h
    have hlong := restText_long hrest
    have htail := ih hafter
    simp only [List.length_cons, List.length_append, delimiter_length]
    rw [Nat.succ_mul]
    omega

lemma printParts_stage (hprints : must → ∀ part ∈ parts, part.Prints slack)
    (hslack : slack = 0 → ∀ part ∈ parts.getLast?, ¬part.Bare) (hout : out.length ≤ size)
    (hclear : PartsClear compact boundary parts (size - out.length)) :
    Stage size slack must out (partsText compact boundary parts)
      (printParts compact boundary size parts out) := by
  induction parts generalizing out with
  | nil =>
    rw [printParts, partsText]
    split
    case isTrue hshort =>
      apply Stage.failed
      intro hm t ht
      obtain rfl := Option.some.inj ht
      rw [closing_length]
      omega
    case isFalse hroom =>
      have hput : put size out (closing boundary) = .ok (out ++ closing boundary) :=
        if_pos (by rw [closing_length]; omega)
      rw [hput]
      exact ⟨.inr ⟨_, rfl, rfl, by rw [closing_length]; omega⟩, by simp⟩
  | cons part parts ih =>
    rw [printParts, printPart]
    by_cases hcheck : size - out.length ≤ (boundary.length + 8) * 2
    · rw [if_pos hcheck]
      apply Stage.failed
      intro hm t ht
      have hlong := partsText_long ht
      obtain ⟨rest, hrest, after, hafter, rfl⟩ := partsText_cons_mem ht
      by_cases hzero : slack = 0
      · cases parts with
        | nil =>
          have hbare := rest_long (hslack hzero part rfl) hrest
          have htail := partsText_long hafter
          simp only [List.length_append, delimiter_length, List.length_nil] at hbare htail ⊢
          omega
        | cons other parts =>
          simp only [List.length_cons, Nat.add_mul] at hlong
          omega
      · simp only [List.length_cons, Nat.add_mul] at hlong
        omega
    · have hspace : size - (out ++ delimiter boundary).length = size - out.length - (boundary.length + 6) := by
        rw [List.length_append, delimiter_length, Nat.sub_sub]
      have hfit : out.length + (delimiter boundary).length ≤ size := by
        rw [delimiter_length]
        omega
      have hnext := hclear (by omega)
      rw [if_neg hcheck, partsText_cons, bind_assoc]
      apply Stage.put hfit
      simp only [bind_assoc]
      apply printHdrs_stage (fun hm => (hprints hm part (by simp)).1) (by rwa [List.length_append])
        (hspace ▸ hnext)
      intro out hout hrest
      rw [Bool.false_or]
      apply printRest_stage (fun hm => hprints hm part (by simp)) hout hrest
      intro out hout hparts
      apply ih (fun hm other hmem => hprints hm other (by simp [hmem])) _ hout hparts
      intro hzero last hlast
      cases parts with
      | nil => simp at hlast
      | cons other parts => exact hslack hzero last (by rwa [List.getLast?_cons_cons])

lemma returned_ok {out : Bytes} (h : out.length < 2 ^ 31) : returned (.ok out) = some (out.length : ℤ) := by
  rw [returned, bmod_length h]

lemma Printer.Prints.mono {printer : Printer} (h : printer.Prints 0) : printer.Prints slack :=
  fun n hn => h n (by omega)

lemma PrintPart.Prints.mono (h : part.Prints 0) : part.Prints slack :=
  ⟨fun hdr hmem => (h.1 hdr hmem).mono, fun body hmem => (h.2 body hmem).mono⟩

variable {data : MultipartData}

lemma body_stage (slack : ℕ) (hslack : slack = 0 → ∀ part ∈ data.parts.getLast?, ¬part.Bare)
    (hclear : PartsClear compact data.boundary data.parts size) :
    Stage size slack (∀ part ∈ data.parts, part.Prints slack) [] (completeText compact data)
      (multipartPrintBody compact data size) := by
  rw [completeText, multipartPrintBody]
  split
  · exact Stage.failed (by simp)
  · exact printParts_stage id hslack (Nat.zero_le size) hclear

lemma escapeLoop_room (h : (escapeText src).length ≤ left) : escapeLoop left src = some (escapeText src) := by
  induction left, src using escapeLoop.induct with
  | case1 => simp [escapeLoop, escapeText]
  | case2 c src => by_cases hc : tokenSpec c <;> simp [escapeText, hc] at h
  | case3 left c src hc ih =>
    have htext : escapeText (c :: src) = c :: escapeText src := by simp [escapeText, hc]
    rw [htext, List.length_cons] at h
    rw [escapeLoop, if_pos hc, ih (by omega), htext]
    rfl
  | case4 left c src hc hshort =>
    simp only [escapeText, List.flatMap_cons, if_neg hc, List.length_append, List.length_cons] at h
    omega
  | case5 left c src hc hlong ih =>
    have htext : escapeText (c :: src) =
        [37, hexDigit (c.toNat / 16), hexDigit (c.toNat % 16)] ++ escapeText src := by simp [escapeText, hc]
    rw [htext, List.length_append] at h
    simp only [List.length_cons, List.length_nil] at h
    rw [escapeLoop, if_neg hc, if_neg hlong, ih (by omega), htext]
    rfl

lemma escapeText_length (src : Bytes) : src.length ≤ (escapeText src).length := by
  induction src with
  | nil => exact Nat.zero_le _
  | cons c src ih =>
    simp only [escapeText, List.flatMap_cons, List.length_append, List.length_cons] at ih ⊢
    split <;> simp only [List.length_cons, List.length_nil] <;> omega

lemma strncpy2Escape_room {max : ℕ} (h : (escapeText src).length ≤ max) :
    strncpy2Escape max src = some (escapeText src) := by
  have := escapeText_length src
  rw [strncpy2Escape, if_neg (by omega), escapeLoop_room h]

lemma printValue_room {value : Bytes} (h : (valueText value).length < left) :
    printValue left value = some (valueText value) := by
  rw [valueText] at h
  rw [printValue, valueText]
  split
  · rfl
  case isFalse hne =>
    rw [if_neg hne, List.length_cons] at h
    rw [if_neg (by omega)]
    split
    case isTrue hquote =>
      rw [if_pos hquote] at h
      rw [copyAdvance, if_neg (by omega)]
      rfl
    case isFalse hquote =>
      rw [if_neg hquote] at h
      rw [strncpy2Escape_room (by omega)]
      rfl

lemma printParams_room {params : List SipUri.Param}
    (h : (params.flatMap paramText).length < left) : printParams left params = some (params.flatMap paramText) := by
  induction params generalizing left with
  | nil => rfl
  | cons param params ih =>
    simp only [List.flatMap_cons, paramText, List.length_append, List.length_cons] at h
    simp only [printParams, if_neg (show ¬1 ≥ left by omega)]
    rw [strncpy2Escape_room (by omega), Option.bind_eq_bind, Option.bind_some,
      printValue_room (by omega), Option.bind_some, ih (by omega)]
    simp [paramText]

lemma mediaTypePrint_room {len : ℕ} (h : (mediaText media).length < len) :
    mediaTypePrint len media = some (mediaText media) := by
  simp only [mediaText, List.length_append, List.length_cons] at h
  rw [mediaTypePrint, if_neg (by omega), if_neg (by omega), printParams_room (by omega)]
  rfl

variable {room : ℕ}

lemma hdrsClear_large (space : ℕ) (hroom : (hdrLines hdrs).length + space + 2 ≤ room)
    (hnext : ∀ left, space + 2 ≤ left → left ≤ room → next left) : HdrsClear next hdrs room := by
  induction hdrs generalizing room with
  | nil => exact hnext room (by simpa [hdrLines] using hroom) le_rfl
  | cons hdr hdrs ih =>
    simp only [hdrLines, List.flatMap_cons, List.length_append, crlf_length] at hroom ih
    refine ⟨by omega, fun _ => ih (by omega) fun left hleft hle => hnext left hleft (by omega)⟩

lemma bodyClear_large {body : Option PartBody} (space : ℕ) (hroom : (bodyText body).length + space + 2 ≤ room)
    (hnext : ∀ left, space + 2 ≤ left → left ≤ room → next left) : BodyClear next body room := by
  cases body with
  | none => exact hnext room (by omega) le_rfl
  | some body =>
    simp only [bodyText, Option.map_some, Option.getD_some] at hroom
    intro _
    apply hnext <;> omega

lemma partsClear_large
    (ht : t ∈ partsText compact boundary parts) (hroom : t.length + 2 ≤ room) (hint : room < 2 ^ 31) :
    PartsClear compact boundary parts room := by
  induction parts generalizing t room with
  | nil => trivial
  | cons part parts ih =>
    obtain ⟨rest, hrest, after, hafter, rfl⟩ := partsText_cons_mem ht
    simp only [List.length_append, delimiter_length] at hroom
    intro hcheck
    apply hdrsClear_large (rest.length + after.length) (by omega)
    intro left hleft hle
    have hnext : ∀ left', after.length + 2 ≤ left' → left' ≤ left → PartsClear compact boundary parts left' :=
      fun left' hafter' hle' => ih hafter hafter' (by omega)
    rw [RestClear]
    cases hauto : part.auto with
    | none =>
      rw [hauto] at hrest
      obtain rfl := Option.some.inj hrest
      rw [List.length_append, crlf_length] at hleft
      exact ⟨by omega, bodyClear_large after.length (by omega) fun left' h1 h2 =>
        hnext left' h1 (by omega)⟩
    | some media =>
      rw [hauto, restText] at hrest
      split at hrest
      case isTrue hdigits =>
        obtain rfl := Option.some.inj hrest
        have hclen : (lit "Content-Length: ").length = 16 := rfl
        simp only [autoLines, List.length_append, clenField_length hdigits, crlf_length, hclen] at hleft
        intro _
        refine ⟨⟨mediaText media, mediaTypePrint_room ?_, by omega, by omega⟩, fun _ _ => ?_⟩
        · rw [Nat.mod_eq_of_lt (by omega)]
          omega
        · refine bodyClear_large after.length ?_ fun left' h1 h2 => hnext left' h1 (by omega)
          simp only [autoSpace]
          omega
      case isFalse => simp at hrest

lemma print_large {reserve : ℕ} (ht : t ∈ completeText compact data)
    (hprints : ∀ part ∈ data.parts, part.Prints (reserve + 2)) (hsize : t.length + reserve + 2 ≤ size)
    (hint : size < 2 ^ 31) : multipartPrintBody compact data size = .ok t := by
  have hclear : PartsClear compact data.boundary data.parts size := by
    have htext := ht
    rw [completeText] at htext
    split at htext
    · simp at htext
    · exact partsClear_large htext (by omega) hint
  have hstage := body_stage (reserve + 2) (by omega) hclear
  rcases hstage.printed with hr | ⟨s, hs, hr, -⟩
  · exact absurd hr (hstage.whole hprints t ht (by simp only [List.length_nil]; omega))
  · obtain rfl := Option.some.inj (ht.symm.trans hs)
    exact hr

lemma ok_of_bind {α β : Type} {x : Except Stop α} {k : α → Except Stop β} {b : β} (h : x >>= k = .ok b) :
    ∃ a, x = .ok a ∧ k a = .ok b := by
  cases x with
  | error stop => simp [bind, Except.bind] at h
  | ok a => exact ⟨a, rfl, h⟩

lemma printHdrs_flag {ctypePrinted : Bool} {r : Bytes × Bool}
    (h : printHdrs size hdrs out ctypePrinted = .ok r) : r.2 = (ctypePrinted || hdrs.any PartHdr.isCtype) := by
  induction hdrs generalizing out ctypePrinted with
  | nil =>
    obtain rfl := Except.ok.inj h
    simp
  | cons hdr hdrs ih =>
    rw [printHdrs] at h
    obtain ⟨left, -, h⟩ := ok_of_bind h
    obtain ⟨shown, -, h⟩ := ok_of_bind h
    obtain ⟨line, -, h⟩ := ok_of_bind h
    rw [ih h, List.any_cons, Bool.or_assoc]

lemma partText_of_ok {r : Bytes} (h : printPart compact boundary size part out = .ok r) :
    ∃ t, partText compact boundary part = some t := by
  rw [printPart] at h
  split at h
  · simp at h
  obtain ⟨start, -, h⟩ := ok_of_bind h
  obtain ⟨hdrs, hhdrs, h⟩ := ok_of_bind h
  have hflag := printHdrs_flag hhdrs
  rw [Bool.false_or] at hflag
  simp only [hflag, printRest] at h
  rw [← PrintPart.auto] at h
  rw [partText]
  cases hauto : part.auto with
  | none => exact ⟨_, rfl⟩
  | some media =>
    rw [hauto] at h
    obtain ⟨⟨line, pos⟩, -, h⟩ := ok_of_bind h
    simp only [printBody] at h
    obtain ⟨empty, -, h⟩ := ok_of_bind h
    cases hbody : part.body with
    | none => simp [PrintPart.auto, autoType, hbody] at hauto
    | some body =>
      rw [hbody] at h
      obtain ⟨left, -, h⟩ := ok_of_bind h
      obtain ⟨shown, -, h⟩ := ok_of_bind h
      have hdigits : (utoa body.printer.text.length).length ≤ clenSpace := by
        by_contra hlong
        simp only [patchLength, if_pos (Nat.lt_of_not_le hlong)] at h
        simp at h
      have htext : restText compact (some media) (bodyText (some body)) =
          some (autoLines compact media body.printer.text.length ++ (crlf ++ body.printer.text)) := if_pos hdigits
      rw [htext]
      exact ⟨_, rfl⟩

lemma partsText_of_ok {r : Bytes} (h : printParts compact boundary size parts out = .ok r) :
    ∃ t, partsText compact boundary parts = some t := by
  induction parts generalizing out with
  | nil => exact ⟨_, rfl⟩
  | cons part parts ih =>
    rw [printParts] at h
    obtain ⟨next, hpart, hparts⟩ := ok_of_bind h
    obtain ⟨t, ht⟩ := partText_of_ok hpart
    obtain ⟨rest, hrest⟩ := ih hparts
    exact ⟨t ++ rest, by rw [partsText, ht, hrest]; rfl⟩

lemma print_text (h : multipartPrintBody compact data size = .ok out)
    (hsize : ∀ t ∈ completeText compact data, t.length + 2 ≤ size) (hint : size < 2 ^ 31) :
    out ∈ completeText compact data := by
  have hclear : PartsClear compact data.boundary data.parts size := by
    rw [completeText] at hsize
    rw [multipartPrintBody] at h
    split at h
    · simp at h
    case isFalse hne =>
      obtain ⟨t, ht⟩ := partsText_of_ok h
      rw [if_neg hne] at hsize
      exact partsClear_large ht (hsize t ht) hint
  rcases (body_stage 1 (by simp) hclear).printed with hr | ⟨t, ht, hr, -⟩
  · simp [h] at hr
  · rw [List.nil_append] at hr
    obtain rfl := Except.ok.inj (h.symm.trans hr)
    exact ht

/-- `pjsip_print_text_body`: it prints into a buffer of the length of the text. -/
def textPrinter (text : Bytes) (h : text.length < 2 ^ 31) : Printer :=
  ⟨text, fun n => decide (text.length ≤ n), fun _ hn => of_decide_eq_true hn, h⟩

/-- `pjsip_generic_array_hdr_print`: it leaves a byte of the buffer free. -/
def arrayPrinter (text : Bytes) (h : text.length < 2 ^ 31) : Printer :=
  ⟨text, fun n => decide (text.length < n), fun _ hn => (of_decide_eq_true hn).le, h⟩

def flowed : MultipartData :=
  { boundary := lit "b"
    parts := [{
      hdrs := []
      body := some {
        contentType := {
          type := lit "text", subtype := lit "plain"
          param := [⟨lit "charset", lit "utf-8"⟩, ⟨lit "format", lit "flowed"⟩] }
        printer := textPrinter (lit "Hi") (by decide) } }] }

def accepting : MultipartData :=
  { boundary := lit "b"
    parts := [{
      hdrs := [⟨arrayPrinter (lit "Accept: text/plain") (by decide), false⟩]
      body := some { contentType := ⟨[], [], []⟩, printer := textPrinter (lit "Hi") (by decide) } }] }

end PjProject.Multipart
