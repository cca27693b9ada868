import PjProject.SipMsgParser

/-!
# Termination of the message parser

A pass that fails in a header leaves at least one line behind it before the next one, so that the
retry loops of `int_parse_msg` and `pjsip_parse_headers` end on every buffer.
-/
namespace PjProject.SipParser

open Scanner FindMsg PjProject.Parser

lemma skipLine_le (s : State) : left ((scan skipLine).run s).2 ≤ left s := by
  show ((s.rest.dropWhile (· ≠ 10)).drop 1).length ≤ s.rest.length
  exact (List.drop_suffix 1 _).length_le.trans (List.dropWhile_suffix _).length_le

variable {s : State}

lemma skipLine_lt (h : s.rest ≠ []) : left ((scan skipLine).run s).2 < left s := by
  have hle := (List.dropWhile_suffix (p := fun c : UInt8 => c ≠ 10) (l := s.rest)).length_le
  have hpos := List.length_pos_of_ne_nil h
  show ((s.rest.dropWhile (· ≠ 10)).drop 1).length < s.rest.length
  rw [List.length_drop]
  omega

lemma Safe.skipLine : Safe left (SipParser.scan Scanner.skipLine) := ⟨fun _ => nofun, skipLine_le⟩

lemma Safe.nextLine : Safe left (do
    let c ← look curptr
    if isSpace c then pure (.inl ()) else pure (.inr ()) : Parse (Unit ⊕ Unit)) :=
  (Safe.look _).bind fun _ => Safe.ite (Safe.pure _) (Safe.pure _)

lemma Advances.skipRound : Advances left (do
    SipParser.scan Scanner.skipLine
    let c ← look curptr
    if isSpace c then pure (.inl ()) else pure (.inr ()) : Parse (Unit ⊕ Unit)) := by
  refine ⟨Safe.skipLine.bind fun _ => Safe.nextLine, fun s a ha => bind_lt (skipLine_lt ?_) fun _ => Safe.nextLine⟩
  intro hnil
  have hrun : (SipParser.scan Scanner.skipLine).run s = (.ok (), ⟨[], s.skipWs⟩) := by
    simp [SipParser.scan, Scanner.skipLine, hnil]
  rw [bind_ok hrun] at ha
  cases ha

lemma Safe.skipLines : Safe left skipLines := Safe.forever (fun _ => Advances.skipRound) ()

lemma skipLines_lt (h : s.rest ≠ []) : left (skipLines.run s).2 < left s :=
  (forever_le (fun _ => Advances.skipRound.toSafe) () s).trans_lt (bind_lt (skipLine_lt h) fun _ => Safe.nextLine)

lemma Safe.nextHdr : Safe left (do
    SipParser.setSkipWs .wsHeader
    let s ← look id
    pure (!isEof s && !isNewline (curptr s))) :=
  (Safe.setSkipWs _).bind fun _ => (Safe.look _).bind fun _ => Safe.pure _

lemma Safe.recover : Safe left recover :=
  (Safe.look _).bind fun _ => (Safe.ite Safe.skipLines (Safe.pure _)).bind fun _ => Safe.nextHdr

lemma recover_lt (h : (recover.run s).1 = .ok true) : left (recover.run s).2 < left s := by
  have hne : s.rest ≠ [] := by
    intro hnil
    simp [recover, hnil, isEof, setSkipWs] at h
  have heof : isEof s = false := by simpa [isEof] using hne
  simp only [recover, look_bind, id, heof, Bool.not_false, if_true]
  exact bind_lt (skipLines_lt hne) fun _ => Safe.nextHdr

lemma Advances.recover {σ β : Type} {size : σ → ℕ} {p : Parser σ Exc Bool} (hp : Safe size p)
    (hlt : ∀ s, (p.run s).1 = .ok true → size (p.run s).2 < size s) (b : β) : Advances size (do
      let retry ← p
      if retry then pure (.inl ()) else pure (.inr b) : Parser σ Exc (Unit ⊕ β)) := by
  refine ⟨hp.bind fun _ => Safe.ite (Safe.pure _) (Safe.pure _), fun s a ha => ?_⟩
  obtain ⟨retry, t, hr, ht⟩ := bind_eq_ok (Prod.ext ha rfl)
  rw [bind_ok hr]
  cases retry with
  | false => cases ht
  | true =>
    have := hlt s (by rw [hr])
    rwa [hr] at this

variable {α : Type}

lemma Safe.onHdrs {p : CtxParse α} (hp : Safe ctxLeft p) : Safe hdrsLeft (HdrsState.onCtx p) :=
  hp.zoom (fun _ => rfl) fun _ _ => rfl

lemma Strict.onHdrs {p : CtxParse α} (hp : Strict ctxLeft p) : Strict hdrsLeft (HdrsState.onCtx p) :=
  hp.zoom (fun _ => rfl) fun _ _ => rfl

lemma Strict.endDelimiterLine : Strict List.length endDelimiterLine := by
  have hspaces : ∀ s : Bytes, (eat 13 (s.dropWhile isSpace)).length ≤ s.length :=
    fun s => (eat_le _ _).trans (List.dropWhile_suffix _).length_le
  refine (Safe.change hspaces).bindStrict fun _ => ⟨(Safe.look _).bind fun s => ?_, fun s a ha => ?_⟩
  · exact Safe.ite (Safe.raise _) (Safe.change fun s => (List.drop_suffix 1 s).length_le)
  · rw [look_bind] at ha ⊢
    cases s with
    | nil => cases ha
    | cons c s =>
      split at ha
      · cases ha
      · rename_i hc
        rw [if_neg hc]
        exact Nat.lt_succ_self _

section Handlers

variable {handlers : List (Bytes × HdrFunc)} (hhandlers : HdrTable handlers)

include hhandlers

lemma Safe.parseHdrValue (hname : Bytes) : Safe ctxLeft (parseHdrValue handlers hname) := by
  refine (Safe.inScanner Strict.getChar.toSafe).bind fun colon => Safe.ite (Safe.raise _) ?_
  cases h : findHandler handlers hname with
  | some func => exact hhandlers.findHandler h
  | none => exact Safe.plain Safe.parseGenericStringHdr _

lemma Safe.headersLoop : Safe hdrsLeft (headersLoop handlers) := by
  refine Safe.forever (fun _ => Strict.advances ?_) ()
  refine (Strict.onHdrs (Strict.inScanner (Strict.get _))).bind fun hname => ?_
  refine (Safe.onHdrs (Safe.parseHdrValue hhandlers hname)).bind fun hdr => Safe.bind ?_ fun _ => ?_
  · exact Safe.change fun _ => le_refl _
  · exact (Safe.look _).bind fun s => Safe.ite (Safe.pure _) (Safe.pure _)

lemma Advances.headersPass (stopOnError : Bool) : Advances hdrsLeft (headersPass handlers stopOnError) := by
  refine Advances.handle ?_ fun _ => Advances.ite (Advances.leave _) ?_
  · refine (Safe.headersLoop hhandlers).bindAdvances fun _ => (Safe.look _).bindAdvances fun s => ?_
    refine Safe.bindAdvances ?_ fun _ => Advances.leave _
    exact Safe.ite (Safe.onHdrs (Safe.inScanner Strict.getNewline.toSafe)) (Safe.pure _)
  · exact Advances.recover (Safe.onHdrs (Safe.inScanner Safe.recover)) (fun _ h => recover_lt h) true

lemma pjsipParseHeaders_ends (stopOnError : Bool) (input : Bytes) (hlist : List Hdr) :
    (pjsipParseHeaders handlers stopOnError input hlist).1 ≠ .hang :=
  (Safe.forever (fun _ => Advances.headersPass hhandlers stopOnError) ()).ends _

lemma parseMultipartPart_ends (pct : MediaType) (part : Bytes) :
    parseMultipartPart handlers pct part ≠ .hang := by
  have hends := pjsipParseHeaders_ends hhandlers false (splitPart [] part).1 []
  unfold parseMultipartPart
  dsimp only
  by_cases hnil : (splitPart [] part).1 = []
  · rw [if_pos hnil]
    nofun
  · rw [if_neg hnil]
    split
    · rename_i heq
      split at heq
      · rename_i h
        rw [h] at hends
        exact absurd rfl hends
      · cases heq
    · nofun

lemma Advances.multipartRound (ctype : MediaType) (delim : Bytes) (parts : List Part) :
    Advances List.length (multipartRound handlers ctype delim parts) := by
  have hdrop : ∀ n, Safe List.length (change (·.drop n) : Parser Bytes Unit Unit) :=
    fun n => Safe.change fun s => (List.drop_suffix n s).length_le
  refine (hdrop _).bindAdvances fun _ => (Safe.look _).bindAdvances fun s => Advances.ite (Advances.leave _) ?_
  refine (Strict.endDelimiterLine.bind fun _ => (Safe.look _).bind fun s => ?_).advances
  cases strstr delim s with
  | none => exact Safe.raise _
  | some n =>
    refine (hdrop n).bind fun _ => (Safe.result ?_).bind fun part => Safe.pure _
    exact parseMultipartPart_ends hhandlers ctype _

lemma pjsipMultipartParse_ends (ctype : MediaType) (buf : Bytes) :
    pjsipMultipartParse handlers ctype buf ≠ .hang := by
  unfold pjsipMultipartParse
  dsimp only
  split
  · nofun
  · split
    · nofun
    · exact (Safe.forever (Advances.multipartRound hhandlers ctype _) []).ends _

end Handlers

lemma Safe.isNextSipVersion : Safe left isNextSipVersion :=
  (Safe.peek _).bind fun _ => Safe.pure _

lemma Safe.intParseReqLine {table : List (Bytes × UriFunc)} (htable : UriTable table) :
    Safe left (intParseReqLine table) := by
  refine (Strict.get _).toSafe.bind fun method => (Safe.intParseUri htable _).bind fun uri => ?_
  exact Safe.parseSipVersion.bind fun _ => Strict.getNewline.toSafe.bind fun _ => Safe.pure _

lemma Safe.intParseStatusLine : Safe left intParseStatusLine := by
  refine Safe.parseSipVersion.bind fun _ => (Strict.get _).toSafe.bind fun token => ?_
  refine (Safe.strtoiValidate _ _ _).bind fun code => (Safe.look _).bind fun s => ?_
  refine (Safe.ite (Strict.get _).toSafe (Safe.pure _)).bind fun reason => ?_
  exact Strict.getNewline.toSafe.bind fun _ => Safe.pure _

lemma Safe.onMsg {p : CtxParse α} (hp : Safe ctxLeft p) : Safe msgLeft (MsgState.onCtx p) :=
  hp.zoom (fun _ => rfl) fun _ _ => rfl

lemma Strict.onMsg {p : CtxParse α} (hp : Strict ctxLeft p) : Strict msgLeft (MsgState.onCtx p) :=
  hp.zoom (fun _ => rfl) fun _ _ => rfl

lemma Safe.setMsg {f : MsgState → MsgState} (hf : ∀ s, (f s).ctx = s.ctx) :
    Safe msgLeft (change f : MsgParse Unit) :=
  Safe.change fun s => (congrArg ctxLeft (hf s)).le

lemma Safe.startLine {table : List (Bytes × UriFunc)} (htable : UriTable table) :
    Safe msgLeft (startLine table) := by
  have hnewlines : Safe left (loop left (fun _ s => isNewline (curptr s)) (fun _ => SipParser.scan Scanner.getNewline) ()) :=
    Safe.loop (fun _ => Strict.getNewline) ()
  refine (Safe.onMsg (Safe.inScanner hnewlines)).bind fun _ => (Safe.look _).bind fun s => ?_
  refine Safe.ite (Safe.pure _) ?_
  refine (Safe.onMsg (Safe.inScanner Safe.isNextSipVersion)).bind fun response => ?_
  refine (Safe.setMsg (by exact fun _ => rfl)).bind fun _ => Safe.bind (Safe.onMsg (Safe.inScanner ?_)) fun line => ?_
  · exact Safe.ite Safe.intParseStatusLine (Safe.intParseReqLine htable)
  · exact (Safe.setMsg (by exact fun _ => rfl)).bind fun _ => Safe.pure _

section Messages

variable {handlers : List (Bytes × HdrFunc)} (hhandlers : HdrTable handlers)

include hhandlers

lemma Strict.msgHeader : Strict msgLeft (msgHeader handlers) := by
  refine (Safe.setMsg (by exact fun _ => rfl)).bindStrict fun _ => ?_
  refine (Strict.onMsg (Strict.inScanner (Strict.get _))).bind fun hname => ?_
  refine (Safe.setMsg (by exact fun _ => rfl)).bind fun _ => ?_
  refine (Safe.onMsg (Safe.parseHdrValue hhandlers hname)).bind fun hdr => ?_
  refine (Safe.setMsg (by exact fun _ => rfl)).bind fun _ => ?_
  exact (Safe.look _).bind fun s => Safe.ite (Safe.pure _) (Safe.pure _)

lemma Safe.msgBody : Safe msgLeft (msgBody handlers) := by
  refine (Safe.look _).bind fun s => ?_
  cases s.ctypeHdr with
  | none => exact Safe.pure _
  | some media =>
    refine Safe.ite (Safe.pure _) (Safe.ite ?_ (Safe.setMsg (by exact fun _ => rfl)))
    refine (Safe.result ?_).bind fun body => Safe.setMsg (by exact fun _ => rfl)
    have hends := pjsipMultipartParse_ends hhandlers media s.ctx.scanner.rest
    cases h : pjsipMultipartParse handlers media s.ctx.scanner.rest with
    | ok parts => nofun
    | throw e => nofun
    | hang => exact absurd h hends

variable {table : List (Bytes × UriFunc)} (htable : UriTable table)

include htable

lemma Safe.msgTry : Safe msgLeft (msgTry handlers table) := by
  refine (Safe.look _).bind fun s => (Safe.ite (Safe.pure _) (Safe.startLine htable)).bind fun found => ?_
  refine Safe.ite (Safe.pure _) ?_
  refine (Safe.forever (fun _ => (Strict.msgHeader hhandlers).advances) ()).bind fun _ => ?_
  refine (Safe.setMsg (by exact fun _ => rfl)).bind fun _ => (Safe.look _).bind fun s => ?_
  refine (Safe.ite (Safe.onMsg (Safe.inScanner Strict.getNewline.toSafe)) (Safe.pure _)).bind fun _ => ?_
  exact (Safe.msgBody hhandlers).bind fun _ => Safe.look _

lemma Advances.msgPass : Advances msgLeft (msgPass handlers table) := by
  refine Advances.handle ((Safe.msgTry hhandlers htable).bindAdvances fun _ => Advances.leave _) fun e => ?_
  refine (Safe.setMsg (by exact fun _ => rfl)).bindAdvances fun _ => (Safe.look _).bindAdvances fun s => ?_
  refine Advances.ite ?_ (Advances.leave _)
  exact Advances.recover (Safe.onMsg (Safe.inScanner Safe.recover)) (fun _ h => recover_lt h) none

lemma Safe.intParseMsg : Safe msgLeft (intParseMsg handlers table) :=
  Safe.forever (fun _ => Advances.msgPass hhandlers htable) ()

end Messages

/-- On every buffer `int_parse_msg` and `pjsip_parse_headers` come to an end, and a pass that is to be followed
by another one leaves the scanner behind the position where it began. The functions that an application
registers next to those of the library are not to go back or on for ever. -/
theorem parse_terminates (uris : List (Bytes × UriFunc)) (hdrs : List (Bytes × HdrFunc)) (huris : UriTable uris)
    (hhdrs : HdrTable hdrs) :
    let table := uriHandlers ++ uris
    let handlers := hdrHandlers table ++ hdrs
    (∀ buf rdata errList, (pjsipParseMsg handlers table buf rdata errList).1 ≠ .hang) ∧
    (∀ stopOnError input hlist, (pjsipParseHeaders handlers stopOnError input hlist).1 ≠ .hang) ∧
    (∀ s, ((msgPass handlers table).run s).1 = .ok (.inl ()) →
      msgLeft ((msgPass handlers table).run s).2 < msgLeft s) ∧
    ∀ stopOnError s, ((headersPass handlers stopOnError).run s).1 = .ok (.inl ()) →
      hdrsLeft ((headersPass handlers stopOnError).run s).2 < hdrsLeft s := by
  intro table handlers
  have htable : UriTable table := uriTable_handlers.append huris
  have hhandlers : HdrTable handlers := (hdrTable_handlers htable).append hhdrs
  refine ⟨fun buf rdata errList => (Safe.intParseMsg hhandlers htable).ends _,
    fun stopOnError input hlist => pjsipParseHeaders_ends hhandlers stopOnError input hlist,
    fun s h => (Advances.msgPass hhandlers htable).lt s () h,
    fun stopOnError s h => (Advances.headersPass hhandlers stopOnError).lt s () h⟩

/-- A request with a header that cannot be parsed, and with one of the application's. -/
theorem parse_terminates_options :
    (pjsipParseMsg (hdrHandlers (uriHandlers ++ []) ++ registerHdrParser "X-Id" none (plain parseHdrCallId .callId))
      (uriHandlers ++ []) (lit "OPTIONS sip:a SIP/2.0\r\nVia: (\r\nX-Id: b\r\n\r\n") none (some [])).1 ≠ .hang :=
  (parse_terminates [] (registerHdrParser "X-Id" none (plain parseHdrCallId .callId)) nofun
    (HdrTable.register (Safe.plain Safe.parseHdrCallId _) _ _)).1 _ _ _

end PjProject.SipParser
