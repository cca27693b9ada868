import PjProject.SdpTextForm

/-!
# Parsing what was printed

A printed session is read back but for what the printer leaves out: the multicast part of the
connection lines and a port count of 1, and what follows a NUL in a connection line. A second
direction attribute of the session is moved into the media lines by the second parse.
-/
namespace PjProject.SdpText

open Scanner
open Sdp (Attr IsToken csToken maxSdpAttr addAttr)

section Scans

variable {x y : Bytes} {d : UInt8}

lemma takeWhile_stop {p : UInt8 → Bool} (hx : ∀ c ∈ x, p c = true) (hd : p d = false) :
    (x ++ d :: y).takeWhile p = x ∧ (x ++ d :: y).dropWhile p = d :: y := by
  rw [List.takeWhile_append_of_pos hx, List.dropWhile_append_of_pos hx]
  simp [hd]

lemma getUntil_run {stop : UInt8 → Bool} (hx : Free stop x) (hd : stop d = true) :
    (getUntil stop).run ⟨x ++ d :: y, .off⟩ = .ok (x, ⟨d :: y, .off⟩) := by
  have hx' : ∀ c ∈ x, (!stop c) = true := fun c hc => by rw [hx c hc]; rfl
  obtain ⟨h1, h2⟩ := @takeWhile_stop x y d (!stop ·) hx' (by simp [hd])
  simp only [getUntil, StateT.run, h1, h2, settle_off]
  simp

lemma get_run {spec : UInt8 → Bool} (hx : x ≠ [] ∧ ∀ c ∈ x, spec c = true) (hd : spec d = false) :
    (Scanner.get spec).run ⟨x ++ d :: y, .off⟩ = .ok (x, ⟨d :: y, .off⟩) := by
  obtain ⟨h1, h2⟩ := @takeWhile_stop x y d spec hx.2 hd
  simp only [Scanner.get, StateT.run, h1, h2, settle_off, if_neg hx.1]

lemma getChar_run (hd : d ≠ 0) : getChar.run ⟨d :: y, .off⟩ = .ok (d, ⟨y, .off⟩) := by
  simp [getChar, StateT.run, hd]

lemma blank_run : blank.run ⟨32 :: y, .off⟩ = .ok ((), ⟨y, .off⟩) := by
  unfold blank
  rw [bind_ok (getChar_run (by decide))]
  rfl

lemma advance_run (a b : UInt8) : (advance 2).run ⟨a :: b :: y, .off⟩ = .ok ((), ⟨y, .off⟩) := by
  simp [advance, StateT.run]

lemma checkEqual_run (a : UInt8) : checkEqual.run ⟨a :: 61 :: y, .off⟩ = .ok ((), ⟨a :: 61 :: y, .off⟩) := by
  simp [checkEqual, StateT.run]

lemma skipLine_run : skipLine.run ⟨13 :: 10 :: y, .off⟩ = .ok ((), ⟨y, .off⟩) := by
  simp [skipLine, StateT.run]

lemma atByte_run (p : UInt8 → Bool) : (atByte p).run ⟨d :: y, .off⟩ = .ok (p d, ⟨d :: y, .off⟩) := rfl

lemma number_run {n : ℕ} (h : n < 2 ^ 64) (sc : State) : (number (utoa n)).run sc = .ok (n, sc) := by
  simp only [number, StateT.run, strtoul3_utoa (show n ≤ maxUlong by unfold maxUlong; omega)]

lemma numberUpTo_run {n max : ℕ} (h : n < 2 ^ 64) (hm : n ≤ max) (sc : State) :
    (numberUpTo max (utoa n)).run sc = .ok (n, sc) := by
  unfold numberUpTo
  rw [bind_ok (number_run h sc), if_neg (by omega)]
  rfl

end Scans

lemma digit_stops {c : UInt8} (h : isDigit c = true) :
    isBlank c = false ∧ isLineSpace c = false ∧ csToken c = true := by
  have hd : csToken c = true := by simp [csToken, h]
  simp only [isDigit, Bool.and_eq_true, decide_eq_true_eq, UInt8.le_iff_toNat_le] at h
  simp only [isBlank, isLineSpace, isSpace, isNewline, Bool.or_eq_false_iff, decide_eq_false_iff_not,
    ← UInt8.toNat_inj]
  simp only [UInt8.reduceToNat] at h ⊢
  refine ⟨by omega, ⟨⟨by omega, by omega⟩, by omega, by omega⟩, hd⟩

lemma utoa_blank (n : ℕ) : Free isBlank (utoa n) := fun c hc => (digit_stops (utoa_digits n c hc)).1

lemma utoa_lineSpace (n : ℕ) : Free isLineSpace (utoa n) :=
  fun c hc => (digit_stops (utoa_digits n c hc)).2.1

lemma utoa_token (n : ℕ) : IsToken (utoa n) :=
  ⟨utoa_ne_nil n, fun c hc => (digit_stops (utoa_digits n c hc)).2.2⟩

lemma isNewline_of_token {c : UInt8} (h : csToken c = true) : isNewline c = false := by
  by_contra hn
  have hc : c = 13 ∨ c = 10 := by
    simp only [isNewline, Bool.not_eq_false, Bool.or_eq_true, decide_eq_true_eq] at hn
    exact hn
  rcases hc with rfl | rfl <;> revert h <;> decide

section Lines

variable {rest : Bytes}

lemma parseOrigin_run {o : Origin} (h : o.Ok) :
    parseOrigin.run ⟨originLine o ++ rest, .off⟩ = .ok (o, ⟨rest, .off⟩) := by
  have htext : originLine o ++ rest = 111 :: 61 :: (o.user ++ 32 :: (utoa o.id ++ 32 ::
      (utoa o.version ++ 32 :: (o.netType ++ 32 :: (o.addrType ++ 32 ::
        (o.addr ++ 13 :: 10 :: rest)))))) := by
    simp [originLine, crlf, lit]
  rw [htext, parseOrigin, bind_ok (checkEqual_run _), bind_ok (advance_run _ _),
    bind_ok (getUntil_run h.user rfl), bind_ok (getChar_run (by decide)),
    bind_ok (getUntil_run (utoa_blank _) rfl), bind_ok (number_run h.id _),
    bind_ok (getChar_run (by decide)),
    bind_ok (getUntil_run (utoa_blank _) rfl), bind_ok (number_run h.version _),
    bind_ok (getChar_run (by decide)),
    bind_ok (getUntil_run h.netType rfl), bind_ok (getChar_run (by decide)),
    bind_ok (getUntil_run h.addrType rfl), bind_ok (getChar_run (by decide)),
    bind_ok (getUntil_run h.addr rfl), bind_ok skipLine_run]
  rfl

lemma parseTime_run {start stop : ℕ} (h1 : start < 2 ^ 64) (h2 : stop < 2 ^ 64) :
    parseTime.run ⟨timeLine start stop ++ rest, .off⟩ = .ok ((start, stop), ⟨rest, .off⟩) := by
  have htext : timeLine start stop ++ rest = 116 :: 61 :: (utoa start ++ 32 ::
      (utoa stop ++ 13 :: 10 :: rest)) := by
    simp [timeLine, crlf, lit]
  rw [htext, parseTime, bind_ok (checkEqual_run _), bind_ok (advance_run _ _),
    bind_ok (getUntil_run (utoa_blank _) rfl), bind_ok (number_run h1 _),
    bind_ok (getChar_run (by decide)),
    bind_ok (getUntil_run (utoa_lineSpace _) rfl), bind_ok (number_run h2 _), bind_ok skipLine_run]
  rfl

lemma parseName_run {name : Bytes} (h : Free isNewline name) :
    parseGenericLine.run ⟨nameLine name ++ rest, .off⟩ = .ok (name, ⟨rest, .off⟩) := by
  have htext : nameLine name ++ rest = 115 :: 61 :: (name ++ 13 :: 10 :: rest) := by
    simp [nameLine, crlf, lit]
  have hnl : getNewline.run ⟨13 :: 10 :: rest, .off⟩ = .ok ((), ⟨rest, .off⟩) := by
    simp [getNewline, StateT.run, isNewline, eat]
  rw [htext, parseGenericLine, bind_ok (checkEqual_run _), bind_ok (advance_run _ _),
    bind_ok (getUntil_run h rfl), bind_ok hnl]
  rfl

lemma parseVersion_run : parseVersion.run ⟨lit "v=0" ++ (crlf ++ rest), .off⟩ = .ok ((), ⟨rest, .off⟩) := by
  have htext : lit "v=0" ++ (crlf ++ rest) = 118 :: 61 :: 48 :: 13 :: 10 :: rest := by
    simp [crlf, lit]
  have hzero : checkZero.run ⟨118 :: 61 :: 48 :: 13 :: 10 :: rest, .off⟩ =
      .ok ((), ⟨118 :: 61 :: 48 :: 13 :: 10 :: rest, .off⟩) := by
    simp [checkZero, StateT.run]
  rw [htext, parseVersion, bind_ok (checkEqual_run _), bind_ok hzero]
  simp [skipLine, StateT.run]

def Conn.printed (c : Conn) : Conn := ⟨cstr c.netType, cstr c.addrType, cstr c.addr, 0, 0⟩

lemma Free.cstr {stop : UInt8 → Bool} {x : Bytes} (h : Free stop x) : Free stop (cstr x) :=
  fun c hc => h c ((List.takeWhile_sublist _).mem hc)

lemma parseConnectionInfo_run {c : Conn} (h : c.Ok) :
    parseConnectionInfo.run ⟨connLine c ++ rest, .off⟩ = .ok (c.printed, ⟨rest, .off⟩) := by
  have htext : connLine c ++ rest = 99 :: 61 :: (cstr c.netType ++ 32 :: (cstr c.addrType ++ 32 ::
      (cstr c.addr ++ 13 :: 10 :: rest))) := by
    simp [connLine, crlf, lit]
  have hmc : parseMulticast.run ⟨13 :: 10 :: rest, .off⟩ = .ok ((0, 0), ⟨13 :: 10 :: rest, .off⟩) := rfl
  rw [htext, parseConnectionInfo, bind_ok (advance_run _ _),
    bind_ok (getUntil_run h.netType.cstr rfl), bind_ok (getChar_run (by decide)),
    bind_ok (getUntil_run h.addrType.cstr rfl), bind_ok (getChar_run (by decide)),
    bind_ok (getUntil_run h.addr.cstr rfl), bind_ok hmc, bind_ok skipLine_run]
  rfl

lemma parseBandwidthInfo_run {b : Bandw} (h : b.Ok) :
    parseBandwidthInfo.run ⟨bandwLine b ++ rest, .off⟩ = .ok (b, ⟨rest, .off⟩) := by
  have htext : bandwLine b ++ rest = 98 :: 61 :: (b.modifier ++ 58 :: (utoa b.value ++
      13 :: 10 :: rest)) := by
    simp [bandwLine, crlf, lit]
  have hv := h.value
  rw [htext, parseBandwidthInfo, bind_ok (advance_run _ _),
    bind_ok (getUntil_run h.modifier rfl), bind_ok (getChar_run (by decide)),
    bind_ok (getUntil_run (utoa_lineSpace _) rfl), bind_ok (number_run (by omega) _),
    bind_ok skipLine_run, Nat.mod_eq_of_lt hv]
  rfl

lemma parseAttr_run {a : Attr} (h : AttrOk a) :
    parseAttr.run ⟨attrLine a ++ rest, .off⟩ = .ok (a, ⟨rest, .off⟩) := by
  obtain ⟨name, value⟩ := a
  cases value with
  | nil =>
    have htext : attrLine ⟨name, []⟩ ++ rest = 97 :: 61 :: (name ++ 13 :: 10 :: rest) := by
      simp [attrLine, crlf, lit]
    rw [htext, parseAttr, bind_ok (checkEqual_run _), bind_ok (advance_run _ _),
      bind_ok (get_run h.name (by decide))]
    rfl
  | cons v value =>
    have hv : isNewline v = false := h.value v (by simp)
    have htext : attrLine ⟨name, v :: value⟩ ++ rest = 97 :: 61 :: (name ++ 58 :: (v :: value ++
        13 :: 10 :: rest)) := by
      simp [attrLine, crlf, lit]
    have hcolon : skipColon.run ⟨58 :: (v :: value ++ 13 :: 10 :: rest), .off⟩ =
        .ok ((), ⟨v :: value ++ 13 :: 10 :: rest, .off⟩) := by
      unfold skipColon
      rw [bind_ok (atByte_run _), if_pos (by decide), bind_ok (getChar_run (by decide))]
      rfl
    have hval : parseAttrValue.run ⟨v :: value ++ 13 :: 10 :: rest, .off⟩ =
        .ok (v :: value, ⟨13 :: 10 :: rest, .off⟩) := by
      unfold parseAttrValue
      have hget : (get : Scan State).run ⟨v :: value ++ 13 :: 10 :: rest, .off⟩ =
        .ok (⟨v :: value ++ 13 :: 10 :: rest, .off⟩, ⟨v :: value ++ 13 :: 10 :: rest, .off⟩) := rfl
      rw [bind_ok hget, List.cons_append, bind_ok (atByte_run _), if_neg (by simp [hv]),
        ← List.cons_append]
      exact getUntil_run h.value rfl
    rw [htext, parseAttr, bind_ok (checkEqual_run _), bind_ok (advance_run _ _),
      bind_ok (get_run h.name (by decide)), bind_ok hcolon, bind_ok hval, bind_ok skipLine_run]
    rfl

lemma parseFmts_run (fs : List Bytes) : ∀ {k : ℕ} {acc : List Bytes}, (∀ f ∈ fs, IsToken f) →
    fs.length ≤ k → acc.length + fs.length ≤ maxSdpFmt →
    (parseFmts k acc).run ⟨fs.flatMap (32 :: ·) ++ 13 :: 10 :: rest, .off⟩ =
      .ok (acc ++ fs, ⟨13 :: 10 :: rest, .off⟩) := by
  induction fs with
  | nil =>
    intro k acc _ _ _
    cases k with
    | zero =>
      rw [List.append_nil]
      rfl
    | succ k =>
      rw [parseFmts, List.flatMap_nil, List.nil_append, bind_ok (atByte_run _), if_neg (by decide),
        List.append_nil]
      rfl
  | cons f fs ih =>
    intro k acc ht hk hl
    obtain ⟨k, rfl⟩ : ∃ j, k = j + 1 := ⟨k - 1, by simp at hk; omega⟩
    have hf := ht f (by simp)
    -- a blank or the end of the line follows
    obtain ⟨d, tail, htail, hd⟩ : ∃ d tail, fs.flatMap (32 :: ·) ++ 13 :: 10 :: rest = d :: tail ∧
        csToken d = false := by
      cases fs with
      | nil => exact ⟨13, 10 :: rest, rfl, by decide⟩
      | cons g gs => exact ⟨32, _, by rw [List.flatMap_cons]; rfl, by decide⟩
    have htext : (f :: fs).flatMap (32 :: ·) ++ 13 :: 10 :: rest = 32 :: (f ++ d :: tail) := by
      rw [List.flatMap_cons, List.append_assoc, htail]
      rfl
    obtain ⟨c, f', rfl⟩ : ∃ c f', f = c :: f' := List.exists_cons_of_ne_nil hf.1
    have hc : isNewline c = false := isNewline_of_token (hf.2 c (by simp))
    have hget : (get : Scan State).run ⟨c :: f' ++ d :: tail, .off⟩ =
      .ok (⟨c :: f' ++ d :: tail, .off⟩, ⟨c :: f' ++ d :: tail, .off⟩) := rfl
    have hroom : acc.length < maxSdpFmt := by
      rw [List.length_cons] at hl
      omega
    rw [htext, parseFmts, bind_ok (atByte_run _), if_pos (by decide), bind_ok (getChar_run (by decide)),
      bind_ok hget, List.cons_append, bind_ok (atByte_run _), if_neg (by simp [hc]), ← List.cons_append,
      bind_ok (get_run hf hd), if_pos hroom, ← htail]
    rw [ih (fun g hg => ht g (by simp [hg])) (by simpa using hk) (by simp at hl ⊢; omega),
      List.append_assoc, List.singleton_append]

lemma parsePortCount_run {m : Media} (h : m.portCount < 2 ^ 32) {y : Bytes} :
    parsePortCount.run ⟨(if m.portCount > 1 then 47 :: utoa m.portCount else []) ++ 32 :: y, .off⟩ =
      .ok (if m.portCount > 1 then m.portCount else 0, ⟨32 :: y, .off⟩) := by
  unfold parsePortCount
  by_cases hp : m.portCount > 1
  · rw [if_pos hp, if_pos hp, List.cons_append, bind_ok (atByte_run _), if_pos (by decide),
      bind_ok (getChar_run (by decide)), bind_ok (get_run (utoa_token _) (by decide)),
      bind_ok (number_run (by omega) _), Nat.mod_eq_of_lt h]
    rfl
  · rw [if_neg hp, if_neg hp, List.nil_append, bind_ok (atByte_run _), if_neg (by decide)]
    rfl

def Media.bare (m : Media) : Media :=
  ⟨m.media, m.port, if m.portCount > 1 then m.portCount else 0, m.transport, m.fmts, none, [], []⟩

lemma parseMedia_run {m : Media} (h : m.Ok) :
    parseMedia.run ⟨mediaHead m ++ (m.fmts.flatMap (32 :: ·) ++ (crlf ++ rest)), .off⟩ =
      .ok (m.bare, ⟨rest, .off⟩) := by
  -- a blank or the end of the line follows the transport
  obtain ⟨d, tail, htail, hd⟩ : ∃ d tail, m.fmts.flatMap (32 :: ·) ++ 13 :: 10 :: rest = d :: tail ∧
      isLineSpace d = true := by
    cases m.fmts with
    | nil => exact ⟨13, 10 :: rest, rfl, by decide⟩
    | cons g gs => exact ⟨32, _, by rw [List.flatMap_cons]; rfl, by decide⟩
  have htext : mediaHead m ++ (m.fmts.flatMap (32 :: ·) ++ (crlf ++ rest)) =
      109 :: 61 :: (m.media ++ 32 :: (utoa m.port ++ ((if m.portCount > 1 then 47 :: utoa m.portCount
        else []) ++ 32 :: (m.transport ++ d :: tail)))) := by
    rw [← htail]
    simp [mediaHead, crlf, lit]
  -- a slash or a blank follows the port
  obtain ⟨e, more, hmore, he⟩ : ∃ e more, (if m.portCount > 1 then 47 :: utoa m.portCount else []) ++
      32 :: (m.transport ++ d :: tail) = e :: more ∧ csToken e = false := by
    split_ifs
    · exact ⟨47, _, rfl, by decide⟩
    · exact ⟨32, _, rfl, by decide⟩
  have heof : notEof.run ⟨e :: more, .off⟩ = .ok ((), ⟨e :: more, .off⟩) := rfl
  have hget : (get : Scan State).run ⟨d :: tail, .off⟩ = .ok (⟨d :: tail, .off⟩, ⟨d :: tail, .off⟩) := rfl
  have hlen : ∀ fs : List Bytes, fs.length ≤ (fs.flatMap (32 :: ·)).length := by
    intro fs
    induction fs with
    | nil => simp
    | cons f fs ih =>
      rw [List.flatMap_cons]
      simp only [List.length_cons, List.length_append]
      omega
  have hfuel : m.fmts.length ≤ (d :: tail).length := by
    have := hlen m.fmts
    rw [← htail, List.length_append]
    omega
  have hport := h.port
  rw [htext, parseMedia, bind_ok (checkEqual_run _), bind_ok (advance_run _ _),
    bind_ok (get_run h.media (by decide)), bind_ok blank_run, hmore, bind_ok (get_run (utoa_token _) he),
    bind_ok (numberUpTo_run (by omega) hport _), bind_ok heof, ← hmore,
    bind_ok (parsePortCount_run h.portCount), bind_ok blank_run, bind_ok (getUntil_run h.transport hd),
    bind_ok hget, ← htail,
    bind_ok (parseFmts_run m.fmts h.fmts (by rwa [htail]) (by simpa using h.fmtCount)),
    bind_ok skipLine_run, List.nil_append]
  rfl

end Lines

/-- Reading `text` takes the parser from one state to another, whatever follows. -/
def Consumes (p : Parsing) (text : Bytes) (p' : Parsing) : Prop :=
  ∀ rest, parseLines (text ++ rest).length p (text ++ rest) = parseLines rest.length p' rest

lemma Consumes.nil (p : Parsing) : Consumes p [] p := fun _ => rfl

variable {p : Parsing}

lemma Consumes.append {p' p'' : Parsing} {a b : Bytes} (h : Consumes p a p')
    (h' : Consumes p' b p'') : Consumes p (a ++ b) p'' := by
  intro rest
  rw [List.append_assoc, h, h']

lemma Consumes.of_parseLine {p' : Parsing} {text : Bytes}
    (h : ∀ rest, parseLine p (text ++ rest) = .ok (p', rest)) (hne : text ≠ []) : Consumes p text p' := by
  intro rest
  have hne' : text ++ rest ≠ [] := by simp [hne]
  have hreads := parseLine_reads hne' (h rest)
  obtain ⟨k, hk⟩ : ∃ k, (text ++ rest).length = k + 1 := ⟨(text ++ rest).length - 1, by omega⟩
  rw [hk, parseLines, if_neg hne', h rest]
  exact parseLines_fuel k le_rfl (by omega)

lemma Consumes.line {α : Type} (e : SdpErr) (parser : Scan α) (use : α → Parsing)
    {a : α} {text : Bytes} (hrun : ∀ rest, parser.run ⟨text ++ rest, .off⟩ = .ok (a, ⟨rest, .off⟩))
    (hk : ∀ rest, parseLine p (text ++ rest) = SdpText.line e parser use (text ++ rest))
    (hne : text ≠ []) : Consumes p text (use a) := by
  refine .of_parseLine (fun rest => ?_) hne
  rw [hk, SdpText.line, hrun]

lemma modifyLast_modifyLast {α : Type*} (f g : α → α) (l : List α) :
    modifyLast g (modifyLast f l) = modifyLast (g ∘ f) l := by
  rcases List.eq_nil_or_concat l with rfl | ⟨l', a, rfl⟩
  · rfl
  · simp only [List.concat_eq_append, modifyLast_append, Function.comp_apply]

lemma modifyLast_id {α : Type*} (l : List α) : modifyLast id l = l := by
  rcases List.eq_nil_or_concat l with rfl | ⟨l', a, rfl⟩
  · rfl
  · simp only [List.concat_eq_append, modifyLast_append, id_eq]

lemma apply_apply (p : Parsing) (f f' : Session → Session) (g g' : Media → Media) :
    (p.apply f g).apply f' g' = p.apply (f' ∘ f) (g' ∘ g) := by
  obtain ⟨s, target⟩ := p
  cases target with
  | session => rfl
  | media => simp only [Parsing.apply, modifyLast_modifyLast]
  | ignored => rfl

lemma apply_id (p : Parsing) : p.apply id id = p := by
  obtain ⟨s, target⟩ := p
  cases target with
  | session => rfl
  | media => simp only [Parsing.apply, modifyLast_id]
  | ignored => rfl

lemma consumes_bandw (l : List Bandw) : (∀ b ∈ l, b.Ok) → ∀ p : Parsing, Consumes p (l.flatMap bandwLine)
      (p.apply (fun s => { s with bandw := l.foldl addBandw s.bandw })
        fun m => { m with bandw := l.foldl addBandw m.bandw }) := by
  induction l with
  | nil =>
    intro _ p
    have : Consumes p [] (p.apply id id) := by rw [apply_id]; exact .nil p
    exact this
  | cons b l ih =>
    intro h p
    rw [List.flatMap_cons]
    have hb : Consumes p (bandwLine b) (p.addBandw b) :=
      .line .einbandw parseBandwidthInfo p.addBandw (fun _ => parseBandwidthInfo_run (h b (by simp)))
        (fun _ => rfl) (by simp [bandwLine, lit])
    have := hb.append (ih (fun c hc => h c (by simp [hc])) _)
    rwa [Parsing.addBandw, apply_apply] at this

lemma consumes_attrs (l : List Attr) : (∀ a ∈ l, AttrOk a) → ∀ p : Parsing, Consumes p (l.flatMap attrLine)
      (p.apply (fun s => { s with attrs := l.foldl addAttr s.attrs })
        fun m => { m with attrs := l.foldl addAttr m.attrs }) := by
  induction l with
  | nil =>
    intro _ p
    have : Consumes p [] (p.apply id id) := by rw [apply_id]; exact .nil p
    exact this
  | cons a l ih =>
    intro h p
    rw [List.flatMap_cons]
    have ha : Consumes p (attrLine a) (p.addAttr a) :=
      .line .einattr parseAttr p.addAttr (fun _ => parseAttr_run (h a (by simp)))
        (fun _ => rfl) (by simp [attrLine, lit])
    have := ha.append (ih (fun c hc => h c (by simp [hc])) _)
    rwa [Parsing.addAttr, apply_apply] at this

def connText : Option Conn → Bytes
  | none => []
  | some c => connLine c

lemma consumes_conn {c : Option Conn} (h : ∀ d ∈ c, d.Ok) (p : Parsing) : Consumes p (connText c)
      (p.apply (fun s => { s with conn := (c.map Conn.printed).or s.conn })
        fun m => { m with conn := (c.map Conn.printed).or m.conn }) := by
  cases c with
  | none =>
    have : Consumes p [] (p.apply id id) := by rw [apply_id]; exact .nil p
    exact this
  | some c =>
    exact .line .einconn parseConnectionInfo p.setConn (fun _ => parseConnectionInfo_run (h c rfl))
      (fun _ => rfl) (by simp [connText, connLine, lit])

lemma foldl_addBandw (l : List Bandw) : ∀ {acc : List Bandw}, acc.length + l.length ≤ maxSdpBandw →
    l.foldl addBandw acc = acc ++ l := by
  induction l with
  | nil => intro acc _; simp
  | cons b l ih =>
    intro acc h
    rw [List.length_cons] at h
    rw [List.foldl_cons, addBandw, if_pos (by omega), ih (by simp; omega)]
    simp

lemma foldl_addAttr (l : List Attr) : ∀ {acc : List Attr}, acc.length + l.length ≤ maxSdpAttr →
    l.foldl addAttr acc = acc ++ l := by
  induction l with
  | nil => intro acc _; simp
  | cons a l ih =>
    intro acc h
    rw [List.length_cons] at h
    rw [List.foldl_cons, addAttr, if_neg (by omega), ih (by simp; omega)]
    simp

def mediaText (m : Media) : Bytes :=
  mediaHead m ++ (m.fmts.flatMap (32 :: ·) ++ (crlf ++ (connText m.conn ++
    (m.bandw.flatMap bandwLine ++ m.attrs.flatMap attrLine))))

def Media.printed (m : Media) : Media :=
  { m with portCount := if m.portCount > 1 then m.portCount else 0, conn := m.conn.map Conn.printed }

lemma consumes_media {m : Media} (h : m.Ok) (p : Parsing) (hroom : p.session.media.length < maxSdpMedia) :
    Consumes p (mediaText m) ⟨{ p.session with media :=p.session.media ++ [m.printed] }, .media⟩ := by
  have hhead : Consumes p (mediaHead m ++ (m.fmts.flatMap (32 :: ·) ++ crlf)) (p.addMedia m.bare) := by
    refine .line .einmedia parseMedia p.addMedia (fun rest => ?_) (fun _ => rfl) (by simp [crlf])
    have := @parseMedia_run rest m h
    simpa only [List.append_assoc] using this
  have hrest := ((consumes_conn h.conn _).append (consumes_bandw m.bandw h.bandw _)).append
    (consumes_attrs m.attrs h.attrs (((p.addMedia m.bare).apply _ _).apply _ _))
  have hall := hhead.append hrest
  have htext : mediaHead m ++ (m.fmts.flatMap (32 :: ·) ++ crlf) ++ (connText m.conn ++
      m.bandw.flatMap bandwLine ++ m.attrs.flatMap attrLine) = mediaText m := by
    simp only [mediaText, List.append_assoc]
  have hp : p.addMedia m.bare =
      ⟨{ p.session with media := p.session.media ++ [m.bare] }, .media⟩ := if_pos hroom
  rw [htext, hp, apply_apply, apply_apply] at hall
  simp only [Parsing.apply, modifyLast_append, Function.comp_apply, Media.bare] at hall
  rw [foldl_addBandw m.bandw (by simpa using h.bandwCount),
    foldl_addAttr m.attrs (by simpa using h.attrCount), Option.or_none] at hall
  exact hall

lemma consumes_medias (l : List Media) : (∀ m ∈ l, m.Ok) → ∀ p : Parsing,
    p.session.media.length + l.length ≤ maxSdpMedia → ∃ t, Consumes p (l.flatMap mediaText)
      ⟨{ p.session with media := p.session.media ++ l.map Media.printed }, t⟩ := by
  induction l with
  | nil =>
    intro _ p _
    refine ⟨p.target, ?_⟩
    rw [List.map_nil, List.append_nil]
    exact .nil p
  | cons m l ih =>
    intro h p hl
    rw [List.length_cons] at hl
    obtain ⟨t, ht⟩ := ih (fun n hn => h n (by simp [hn]))
      ⟨{ p.session with media := p.session.media ++ [m.printed] }, .media⟩ (by simp; omega)
    refine ⟨t, ?_⟩
    have := (consumes_media (h m (by simp)) p (by omega)).append ht
    rw [List.flatMap_cons]
    simpa using this

def sessionText (s : Session) : Bytes :=
  lit "v=0" ++ (crlf ++ originLine s.origin) ++ (nameLine s.name ++ (connText s.conn ++
    (s.bandw.flatMap bandwLine ++ (timeLine s.start s.stop ++ (s.attrs.flatMap attrLine ++
      s.media.flatMap mediaText)))))

def Session.printed (s : Session) : Session :=
  { s with conn := s.conn.map Conn.printed, media := s.media.map Media.printed }

lemma parse_sessionText {s : Session} (h : s.Ok) :
    parse (sessionText s) = .ok (applyMediaDirection s.printed) := by
  have hver : ∀ p : Parsing, Consumes p (lit "v=0" ++ crlf) p := by
    intro p
    refine Consumes.line (a := ()) .einver parseVersion (fun _ => p) (fun rest => ?_) (fun _ => rfl)
      (by simp [crlf])
    have := @parseVersion_run rest
    simpa only [List.append_assoc] using this
  have horigin : ∀ p : Parsing, Consumes p (originLine s.origin) (p.setOrigin s.origin) := fun p =>
    .line .einorigin parseOrigin p.setOrigin (fun _ => parseOrigin_run h.origin) (fun _ => rfl)
      (by simp [originLine, lit])
  have hname : ∀ p : Parsing, Consumes p (nameLine s.name) (p.setName s.name) := fun p =>
    .line .einsdp parseGenericLine p.setName (fun _ => parseName_run h.name) (fun _ => rfl)
      (by simp [nameLine, lit])
  have htime : ∀ p : Parsing, Consumes p (timeLine s.start s.stop) (p.setTime (s.start, s.stop)) :=
    fun p => .line .eintime parseTime p.setTime (fun _ => parseTime_run h.start h.stop) (fun _ => rfl)
      (by simp [timeLine, lit])
  have hhead := ((((((hver ⟨Session.empty, .session⟩).append (horigin _)).append (hname _)).append
    (consumes_conn h.conn _)).append (consumes_bandw s.bandw h.bandw _)).append (htime _)).append
    (consumes_attrs s.attrs h.attrs _)
  simp only [Parsing.apply, Parsing.setOrigin, Parsing.setName, Parsing.setTime, Session.empty] at hhead
  rw [foldl_addBandw s.bandw (by simpa using h.bandwCount),
    foldl_addAttr s.attrs (by simpa using h.attrCount), Option.or_none] at hhead
  obtain ⟨t, hmedia⟩ := consumes_medias s.media h.media
    ⟨{ s with conn := s.conn.map Conn.printed, media := [] }, .session⟩ (by simpa using h.mediaCount)
  have hall := (hhead.append hmedia) []
  have htext : sessionText s = lit "v=0" ++ crlf ++ originLine s.origin ++ nameLine s.name ++
      connText s.conn ++ s.bandw.flatMap bandwLine ++ timeLine s.start s.stop ++
        s.attrs.flatMap attrLine ++ s.media.flatMap mediaText := by
    simp only [sessionText, List.append_assoc]
  have hstart : (sessionText s).dropWhile isNewline = sessionText s := by
    simp [sessionText, lit, isNewline]
  rw [List.append_nil, ← htext] at hall
  rw [parse, hstart, Session.empty, hall]
  rfl

lemma printEach_eq {α : Type} {print : α → ℕ → Option Bytes} {text : α → Bytes} (l : List α) :
    (∀ a ∈ l, ∀ len out, print a len = some out → out = text a ∧ out.length ≤ len) →
    ∀ {len : ℕ} {out : Bytes}, printEach print l len = some out →
      out = l.flatMap text ∧ out.length ≤ len := by
  induction l with
  | nil =>
    intro _ len out h
    obtain rfl : [] = out := Option.some.inj h
    exact ⟨rfl, Nat.zero_le _⟩
  | cons a l ih =>
    intro hp len out h
    simp only [printEach, Option.bind_eq_bind, Option.bind_eq_some_iff] at h
    obtain ⟨o, ho, r, hr, he⟩ := h
    obtain ⟨rfl, hlen⟩ := hp a (by simp) len o ho
    obtain ⟨rfl, hrest⟩ := ih (fun b hb => hp b (by simp [hb])) hr
    obtain rfl := Option.some.inj he
    refine ⟨rfl, ?_⟩
    rw [List.length_append]
    omega

lemma printBandw_eq {b : Bandw} (h : b.Ok) {len : ℕ} {out : Bytes} (hp : printBandw b len = some out) :
    out = bandwLine b ∧ out.length ≤ len := by
  unfold printBandw at hp
  split_ifs at hp with hlen
  obtain rfl := Option.some.inj hp
  refine ⟨rfl, ?_⟩
  have hv := utoa_length_le (n := b.value) (k := 10) (by have := h.value; omega) (by norm_num)
  simp [bandwLine, crlf, lit]
  omega

lemma printAttr_eq {a : Attr} {len : ℕ} {out : Bytes} (hp : printAttr a len = some out) :
    out = attrLine a ∧ out.length ≤ len := by
  unfold printAttr at hp
  split_ifs at hp with hlen
  obtain rfl := Option.some.inj hp
  refine ⟨rfl, ?_⟩
  simp only [attrLine, crlf, lit]
  split_ifs <;> simp <;> omega

lemma printConn_eq {c : Option Conn} {len : ℕ} {out : Bytes} (hp : printConn c len = some out) :
    out = connText c ∧ out.length ≤ len := by
  cases c with
  | none =>
    obtain rfl : [] = out := Option.some.inj hp
    exact ⟨rfl, Nat.zero_le _⟩
  | some c =>
    simp only [printConn, printConnectionInfo] at hp
    split_ifs at hp with hlen
    obtain rfl := Option.some.inj hp
    exact ⟨rfl, by omega⟩

lemma printFmt_eq {f : Bytes} {len : ℕ} {out : Bytes} (hp : printFmt f len = some out) :
    out = 32 :: f ∧ out.length ≤ len := by
  unfold printFmt at hp
  split_ifs at hp with hlen
  obtain rfl := Option.some.inj hp
  exact ⟨rfl, hlen⟩

lemma need_eq {n len : ℕ} {u : Unit} (h : need n len = some u) : n ≤ len := by
  unfold need at h
  split_ifs at h with hlt
  exact not_lt.1 hlt

lemma mediaHead_length {m : Media} (h : m.Ok) :
    (mediaHead m).length ≤ m.media.length + m.transport.length + 20 := by
  have hport := utoa_length_le (n := m.port) (k := 5) (by have := h.port; omega) (by norm_num)
  have hcount := utoa_length_le (n := m.portCount) (k := 10) (by have := h.portCount; omega)
    (by norm_num)
  simp only [mediaHead, lit]
  split_ifs <;> simp <;> omega

lemma printMediaDesc_eq {m : Media} (h : m.Ok) {len : ℕ} {out : Bytes}
    (hp : printMediaDesc m len = some out) : out = mediaText m ∧ out.length ≤ len := by
  simp only [printMediaDesc, Option.bind_eq_bind, Option.bind_eq_some_iff] at hp
  obtain ⟨_, hhead, fmts, hfmts, _, hline, conn, hconn, bandw, hbandw, attrs, hattrs, he⟩ := hp
  have hlen := mediaHead_length h
  have hroom := need_eq hhead
  have hcr := need_eq hline
  obtain ⟨rfl, h1⟩ := printEach_eq m.fmts (fun f _ => @printFmt_eq f) hfmts
  obtain ⟨rfl, h2⟩ := printConn_eq hconn
  obtain ⟨rfl, h3⟩ := printEach_eq m.bandw (fun b hb => @printBandw_eq b (h.bandw b hb)) hbandw
  obtain ⟨rfl, h4⟩ := printEach_eq m.attrs (fun a _ => @printAttr_eq a) hattrs
  obtain rfl := Option.some.inj he
  refine ⟨rfl, ?_⟩
  simp only [List.length_append, crlf, List.length_cons, List.length_nil]
  omega

lemma originLine_length {o : Origin} (h : o.Ok) : (originLine o).length ≤
    o.user.length + o.netType.length + o.addrType.length + o.addr.length + 49 := by
  have hid := utoa_length_le (n := o.id) (k := 20) (by have := h.id; omega) (by norm_num)
  have hver := utoa_length_le (n := o.version) (k := 20) (by have := h.version; omega) (by norm_num)
  simp [originLine, crlf, lit]
  omega

lemma timeLine_length {start stop : ℕ} (h1 : start < 2 ^ 64) (h2 : stop < 2 ^ 64) :
    (timeLine start stop).length ≤ 45 := by
  have hstart := utoa_length_le (n := start) (k := 20) (by omega) (by norm_num)
  have hstop := utoa_length_le (n := stop) (k := 20) (by omega) (by norm_num)
  simp [timeLine, crlf, lit]
  omega

lemma print_eq {s : Session} (h : s.Ok) {size : ℕ} {out : Bytes} (hp : print s size = some out) :
    out = sessionText s ∧ out.length ≤ size := by
  simp only [print, Option.bind_eq_bind, Option.bind_eq_some_iff] at hp
  obtain ⟨_, hsize, _, hname, conn, hconn, bandw, hbandw, _, htime, attrs, hattrs, media, hmedia, he⟩ := hp
  have horigin := originLine_length h.origin
  have htl := timeLine_length h.start h.stop
  have h0 := need_eq hsize
  have h1 := need_eq hname
  have h2 := need_eq htime
  obtain ⟨rfl, h3⟩ := printConn_eq hconn
  obtain ⟨rfl, h4⟩ := printEach_eq s.bandw (fun b hb => @printBandw_eq b (h.bandw b hb)) hbandw
  obtain ⟨rfl, h5⟩ := printEach_eq s.attrs (fun a _ => @printAttr_eq a) hattrs
  obtain ⟨rfl, h6⟩ := printEach_eq s.media (fun m hm => @printMediaDesc_eq m (h.media m hm)) hmedia
  obtain rfl := Option.some.inj he
  refine ⟨rfl, ?_⟩
  have hv : (lit "v=0").length = 3 := by simp [lit]
  have hn : (nameLine s.name).length = s.name.length + 4 := by simp [nameLine, crlf, lit]
  have hc : crlf.length = 2 := rfl
  simp only [List.length_append, hv, hc, hn] at h1 h2 h3 h4 h5 h6 ⊢
  omega

def Conn.Plain (c : Conn) : Prop :=
  c.ttl = 0 ∧ c.noAddr = 0 ∧ 0 ∉ c.netType ∧ 0 ∉ c.addrType ∧ 0 ∉ c.addr

structure Stable (s : Session) : Prop where
  conn : ∀ c ∈ s.conn, c.Plain
  mediaConn : ∀ m ∈ s.media, ∀ c ∈ m.conn, c.Plain
  portCount : ∀ m ∈ s.media, m.portCount ≠ 1
  direction : ∀ a ∈ s.attrs, isDirAttr a = false

lemma cstr_eq_iff (x : Bytes) : cstr x = x ↔ 0 ∉ x := by
  unfold cstr
  rw [List.takeWhile_eq_self_iff]
  constructor
  · intro h h0
    simpa using h 0 h0
  · intro h c hc
    have : c ≠ 0 := fun he => h (he ▸ hc)
    simpa using this

lemma Conn.printed_eq_iff (c : Conn) : c.printed = c ↔ c.Plain := by
  obtain ⟨netType, addrType, addr, ttl, noAddr⟩ := c
  simp only [Conn.printed, Conn.mk.injEq, cstr_eq_iff, Conn.Plain]
  constructor
  · rintro ⟨h1, h2, h3, h4, h5⟩
    exact ⟨h4.symm, h5.symm, h1, h2, h3⟩
  · rintro ⟨h1, h2, h3, h4, h5⟩
    exact ⟨h3, h4, h5, h1.symm, h2.symm⟩

lemma map_printed_eq_iff (c : Option Conn) : c.map Conn.printed = c ↔ ∀ d ∈ c, d.Plain := by
  cases c with
  | none => simp
  | some c => simp [Conn.printed_eq_iff]

lemma Media.printed_eq_iff (m : Media) : m.printed = m ↔ m.portCount ≠ 1 ∧ ∀ c ∈ m.conn, c.Plain := by
  obtain ⟨media, port, portCount, transport, fmts, conn, bandw, attrs⟩ := m
  simp only [Media.printed, Media.mk.injEq, true_and, and_true, map_printed_eq_iff]
  refine and_congr_left fun _ => ?_
  split_ifs <;> omega

lemma printed_eq_iff (s : Session) : s.printed = s ↔ (∀ c ∈ s.conn, c.Plain) ∧
    ∀ m ∈ s.media, m.portCount ≠ 1 ∧ ∀ c ∈ m.conn, c.Plain := by
  obtain ⟨origin, name, conn, bandw, start, stop, attrs, media⟩ := s
  simp only [Session.printed, Session.mk.injEq, true_and, map_printed_eq_iff]
  refine and_congr_right fun _ => ?_
  induction media with
  | nil => simp
  | cons m media ih => simp [ih, m.printed_eq_iff]

lemma applyMediaDirection_attrs {s : Session} {a : Attr} (ha : a ∈ s.attrs) (hd : isDirAttr a = true) :
    (applyMediaDirection s).attrs ≠ s.attrs := by
  intro he
  unfold applyMediaDirection at he
  split at he
  · rename_i hn
    rw [List.find?_eq_none] at hn
    exact hn a ha hd
  · have hlen := congrArg List.length he
    rw [List.length_eraseP_of_mem ha hd] at hlen
    have := List.length_pos_of_mem ha
    omega

lemma applyMediaDirection_of_none {s : Session} (h : ∀ a ∈ s.attrs, isDirAttr a = false) :
    applyMediaDirection s = s := by
  have : s.attrs.find? isDirAttr = none := by
    rw [List.find?_eq_none]
    intro a ha
    simp [h a ha]
  simp [applyMediaDirection, this]

lemma reparsed_eq_iff (s : Session) : applyMediaDirection s.printed = s ↔ Stable s := by
  constructor
  · intro h
    have hdir : ∀ a ∈ s.attrs, isDirAttr a = false := by
      intro a ha
      by_contra hd
      exact @applyMediaDirection_attrs s.printed a ha (by simpa using hd) (by rw [h]; rfl)
    rw [@applyMediaDirection_of_none s.printed hdir, printed_eq_iff] at h
    exact ⟨h.1, fun m hm => (h.2 m hm).2, fun m hm => (h.2 m hm).1, hdir⟩
  · intro h
    have hp := (printed_eq_iff s).2 ⟨h.conn, fun m hm => ⟨h.portCount m hm, h.mediaConn m hm⟩⟩
    rw [hp]
    exact applyMediaDirection_of_none h.direction

/-- For every accepted text and every buffer that the session fits into, the printed text fits
too, and it is read back as the same session exactly if the session is stable. -/
theorem sdp_print_parse (text : Bytes) (s : Session) (size : ℕ) (out : Bytes)
    (hparse : parse text = .ok s) (hprint : print s size = some out) :
    (out.length ≤ size ∧ parse out = .ok s) ↔ Stable s := by
  have hok := parse_ok hparse
  obtain ⟨rfl, hlen⟩ := print_eq hok hprint
  rw [parse_sessionText hok]
  constructor
  · rintro ⟨-, he⟩
    exact (reparsed_eq_iff s).1 (Except.ok.inj he)
  · intro h
    exact ⟨hlen, congrArg _ ((reparsed_eq_iff s).2 h)⟩

def audioSession : Session where
  origin := ⟨lit "-", 7, 8, lit "IN", lit "IP4", lit "host"⟩
  name := lit "-"
  conn := some ⟨lit "IN", lit "IP4", lit "host", 0, 0⟩
  bandw := [⟨lit "AS", 84⟩]
  start := 0
  stop := 0
  attrs := []
  media := [⟨lit "audio", 4000, 0, lit "RTP/AVP", [lit "0"], none, [],
    [⟨lit "rtpmap", lit "0 PCMU/8000"⟩, ⟨lit "inactive", []⟩]⟩]

theorem sdp_print_parse_audio : ∃ out, print audioSession 300 = some out ∧ parse out = .ok audioSession := by
  refine ⟨sessionText audioSession, by decide +kernel, ?_⟩
  refine ((sdp_print_parse
    (lit "v=0\r\no=- 7 8 IN IP4 host\r\ns=-\r\nc=IN IP4 host\r\nb=AS:84\r\nt=0 0\r\na=inactive\r\n" ++
      lit "m=audio 4000 RTP/AVP 0\r\na=rtpmap:0 PCMU/8000\r\n")
    audioSession 300 (sessionText audioSession) (by rw [lit_ofList, lit_ofList]; decide +kernel)
    (by decide +kernel)).2 ?_).2
  refine ⟨?_, ?_, ?_, ?_⟩
  · rintro c ⟨⟩
    unfold Conn.Plain
    decide
  · simp [audioSession]
  · simp [audioSession]
  · simp [audioSession]

/-- An accepted session is well formed. What is printed of it is accepted again, without its TTLs, NULs and
port counts of 1, and with its direction in its media. -/
theorem printed_accepted (text : Bytes) (s : Session) (size : ℕ) (out : Bytes) (hparse : parse text = .ok s)
    (hprint : print s size = some out) : s.Ok ∧ out.length ≤ size ∧
      parse out = .ok (applyMediaDirection s.printed) ∧ (applyMediaDirection s.printed).Ok := by
  have hok := parse_ok hparse
  obtain ⟨rfl, hlen⟩ := print_eq hok hprint
  have hagain := parse_sessionText hok
  exact ⟨hok, hlen, hagain, parse_ok hagain⟩

theorem printed_accepted_audio : (sessionText audioSession).length ≤ 300 :=
  (printed_accepted (sessionText audioSession) audioSession 300 (sessionText audioSession)
    (by decide +kernel) (by decide +kernel)).2.1

/-- A multicast address: its TTL and the number of addresses are not printed. -/
theorem multicast_not_printed :
    ¬ ∀ (text : Bytes) (s : Session) (size : ℕ) (out : Bytes), parse text = .ok s →
      print s size = some out → out.length ≤ size ∧ parse out = .ok s := by
  intro h
  have hcontra := (h (lit "v=0\r\no=- 1 1 IN IP4 host\r\ns=-\r\nc=IN IP4 224.2.1.1/127/3\r\nt=0 0\r\n")
    ⟨⟨lit "-", 1, 1, lit "IN", lit "IP4", lit "host"⟩, lit "-",
      some ⟨lit "IN", lit "IP4", lit "224.2.1.1", 127, 3⟩, [], 0, 0, [], []⟩ 200
    (lit "v=0\r\no=- 1 1 IN IP4 host\r\ns=-\r\nc=IN IP4 224.2.1.1\r\nt=0 0\r\n")
    (by rw [lit_ofList]; decide +kernel) (by decide +kernel)).2
  revert hcontra
  rw [lit_ofList]
  decide +kernel

end PjProject.SdpText
