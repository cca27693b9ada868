import PjProject.SipHdrParser

/-!
# Progress of the header parsers

No registered function goes back or goes on for ever, wherever it stops with an exception.
-/
namespace PjProject.SipParser

open Scanner FindMsg PjProject.Parser

variable {α : Type}

lemma Safe.paramLoop {param : Parse (Bytes × Bytes)} {add : α → Bytes → Bytes → Parse α}
    (hparam : Strict left param) (hadd : ∀ hdr pname pvalue, Safe left (add hdr pname pvalue)) (hdr : α) :
    Safe left (paramLoop param add hdr) :=
  Safe.loop (fun _ => hparam.bind fun _ => hadd _ _ _) hdr

lemma Safe.commaLoop {elem : Parse α} (helem : Safe left elem) : Safe left (commaLoop elem) := by
  refine Safe.forever (fun hdrs => ?_) []
  refine helem.bindAdvances fun hdr => (Safe.look _).bindAdvances fun c => Advances.ite (Advances.leave _) ?_
  exact (Strict.getChar.bind fun _ => Safe.pure _).advances

lemma Safe.parseSipVersion : Safe left parseSipVersion := by
  refine (Strict.get _).toSafe.bind fun sip => Strict.getChar.toSafe.bind fun slash => ?_
  exact Safe.ite (Safe.raise _) ((Safe.getN 3).bind fun version => Safe.ite (Safe.raise _) (Safe.pure _))

section Array

def arrayLeft (t : State × List Bytes) : ℕ := left t.1

lemma Safe.onScanner {α : Type} {p : Parse α} (hp : Safe left p) : Safe arrayLeft (onScanner p) :=
  hp.zoom (fun _ => rfl) fun _ _ => rfl

lemma Strict.onScanner {α : Type} {p : Parse α} (hp : Strict left p) : Strict arrayLeft (onScanner p) :=
  hp.zoom (fun _ => rfl) fun _ _ => rfl

lemma Advances.arrayElem : Advances arrayLeft arrayElem := by
  refine (Safe.look _).bindAdvances fun t => Advances.ite ?_ (Advances.leave _)
  have hcommas : Safe left (loop left (fun _ s => curptr s = 44) (fun _ => do
      let _ ← scan Scanner.getChar
      pure ()) ()) := Safe.loop (fun _ => Strict.getChar.bind fun _ => Safe.pure _) ()
  refine (Safe.onScanner hcommas).bindAdvances fun _ => (Safe.look _).bindAdvances fun t => ?_
  refine Advances.ite (Advances.leave _) (Strict.advances ?_)
  refine (Strict.onScanner (Strict.get _)).bind fun elem => Safe.bind ?_ fun _ => ?_
  · exact Safe.change fun _ => le_refl _
  · exact (Safe.look _).bind fun t => Safe.ite (Safe.pure _) (Safe.pure _)

lemma Safe.parseGenericArrayHdr : Safe arrayLeft parseGenericArrayHdr := by
  refine (Safe.look _).bind fun t => Safe.ite (Safe.onScanner Safe.parseHdrEnd) (Safe.ite (Safe.raise _) ?_)
  exact (Safe.forever (fun _ => Advances.arrayElem) ()).bind fun _ => Safe.onScanner Safe.parseHdrEnd

lemma Safe.parseArray : Safe left parseArray :=
  (Safe.withLocal Safe.parseGenericArrayHdr).bind fun _ => Safe.pure _

end Array

lemma Safe.untilEnd {β : Type} {p : Parse α} (hp : Safe left p) (f : α → β) : Safe left (do
    let a ← p
    SipParser.parseHdrEnd
    pure (f a)) :=
  hp.bind fun _ => Safe.parseHdrEnd.bind fun _ => Safe.pure _

lemma Safe.parseGenericIntHdr : Safe left parseGenericIntHdr := Safe.untilEnd (Strict.get _).toSafe _

lemma Safe.parseHdrCallId : Safe left parseHdrCallId := Safe.untilEnd (Strict.get _).toSafe id

lemma Safe.parseHdrContentLen : Safe left parseHdrContentLen :=
  (Strict.get _).toSafe.bind fun _ => Safe.untilEnd (Safe.strtoiValidate _ _ _) id

lemma Safe.parseHdrContentType : Safe left parseHdrContentType := by
  refine (Strict.get _).toSafe.bind fun type => Strict.getChar.toSafe.bind fun _ => ?_
  refine (Strict.get _).toSafe.bind fun subtype => Safe.untilEnd ?_ id
  exact Safe.paramLoop Strict.intParseParam (fun _ _ _ => Safe.pure _) _

lemma Safe.parseHdrCseq : Safe left parseHdrCseq :=
  (Strict.get _).toSafe.bind fun _ => (Safe.strtoiValidate _ _ _).bind fun cseq =>
    Safe.untilEnd (Strict.get _).toSafe fun method => (cseq, method)

lemma Strict.retryAfterPart (hdr : RetryAfter) : Strict left (retryAfterPart hdr) := by
  refine (Safe.look _).bindStrict fun c => Strict.ite ?_ (Strict.ite ?_ (Strict.raise _))
  · exact (Strict.getQuote _ _).bind fun _ => Safe.pure _
  · exact Strict.intParseParam.bind fun _ => Safe.pure _

lemma Safe.parseHdrRetryAfter : Safe left parseHdrRetryAfter :=
  (Strict.get _).toSafe.bind fun _ => (Safe.strtoiValidate _ _ _).bind fun _ =>
    Safe.untilEnd (Safe.loop Strict.retryAfterPart _) id

lemma Safe.viaParam (hdr : Via) (pname pvalue : Bytes) : Safe left (viaParam hdr pname pvalue) := by
  unfold SipParser.viaParam
  repeat' first | exact Safe.pure _ | refine Safe.ite ?_ ?_
  · exact (Safe.strtoiValidate _ _ _).bind fun _ => Safe.pure _
  · exact (Safe.strtoiValidate _ _ _).bind fun _ => Safe.pure _

lemma Safe.parseVia : Safe left parseVia := by
  refine Safe.parseSipVersion.bind fun _ => Strict.getChar.toSafe.bind fun slash => Safe.ite (Safe.raise _) ?_
  refine (Strict.get _).toSafe.bind fun transport => Safe.intParseHost.bind fun host => (Safe.look _).bind fun c => ?_
  have hport : Safe left (do
      let _ ← SipParser.scan Scanner.getChar
      let digit ← SipParser.scan (Scanner.get isDigit)
      SipParser.scan (FindMsg.strtoiValidate digit 0 maxPort)) :=
    Strict.getChar.toSafe.bind fun _ => (Strict.get _).toSafe.bind fun _ => Safe.strtoiValidate _ _ _
  refine (Safe.ite hport (Safe.pure _)).bind fun port => ?_
  have hparam : Strict left (do
      let _ ← SipParser.scan Scanner.getChar
      SipParser.parseParamImp viaParamSpec id) := Strict.getChar.bind fun _ => (Strict.parseParamImp _ _).toSafe
  refine (Safe.paramLoop hparam Safe.viaParam _).bind fun hdr => (Safe.look _).bind fun c => ?_
  refine Safe.ite ?_ (Safe.pure _)
  refine Strict.getChar.toSafe.bind fun _ => (Safe.getUntil _).bind fun comment => ?_
  exact Strict.getChar.toSafe.bind fun _ => Safe.pure _

lemma Safe.parseHdrVia : Safe left parseHdrVia := Safe.untilEnd (Safe.commaLoop Safe.parseVia) id

lemma Safe.contactQ (pvalue : Bytes) : Safe left (contactQ pvalue) := by
  unfold SipParser.contactQ
  dsimp only
  split
  · exact (Safe.strtoiValidate _ _ _).bind fun _ => Safe.pure _
  · exact (Safe.strtoiValidate _ _ _).bind fun _ => Safe.ite (Safe.raise _) (Safe.pure _)

lemma Safe.intParseContactParam (hdr : ContactParams) : Safe left (intParseContactParam hdr) := by
  refine Safe.loop (fun hdr => Strict.intParseParam.bind fun r => ?_) hdr
  unfold contactParam
  refine Safe.ite ((Safe.contactQ _).bind fun _ => Safe.pure _) (Safe.ite (Safe.pure _) (Safe.pure _))

section Table

variable {table : List (Bytes × UriFunc)} (htable : UriTable table)

include htable

lemma Safe.parseContact : Safe left (parseContact table) := by
  refine (Safe.look _).bind fun c => Safe.ite (Strict.getChar.toSafe.bind fun _ => Safe.pure _) ?_
  exact (Safe.intParseUriOrNameAddr htable _).bind fun _ => (Safe.intParseContactParam _).bind fun _ => Safe.pure _

lemma Safe.parseHdrContact : Safe left (parseHdrContact table) :=
  Safe.untilEnd (Safe.commaLoop (Safe.parseContact htable)) id

lemma Safe.parseHdrFromto : Safe left (parseHdrFromto table) := by
  refine (Safe.intParseUriOrNameAddr htable _).bind fun addr => Safe.untilEnd ?_ id
  exact Safe.paramLoop Strict.intParseParam (fun _ _ _ => Safe.ite (Safe.pure _) (Safe.pure _)) _

lemma Safe.parseHdrRoute : Safe left (parseHdrRoute table) := by
  refine Safe.untilEnd (Safe.commaLoop ?_) id
  refine (Safe.intParseNameAddr htable).bind fun addr => ?_
  exact Safe.paramLoop Strict.intParseParam (fun _ _ _ => Safe.pure _) _

end Table

lemma Safe.authLoop (add : α → Bytes → Bytes → α) (hdr : α) : Safe left (authLoop add hdr) := by
  refine Safe.forever (fun hdr => Strict.advances ((Strict.parseParamImp _ _).bind fun _ => ?_)) hdr
  refine (Safe.look _).bind fun s => Safe.ite ?_ (Safe.pure _)
  exact Strict.getChar.toSafe.bind fun _ => Safe.pure _

lemma Safe.parseAuth {digest : Parse α} (hdigest : Safe left digest) : Safe left (parseAuth digest) := by
  have hscheme : Safe left parseScheme := by
    refine (Safe.look _).bind fun c => Safe.ite ?_ (Strict.get _).toSafe
    exact (Strict.getQuote _ _).toSafe.bind fun _ => Safe.pure _
  exact hscheme.bind fun _ => Safe.ite (Safe.untilEnd hdigest _) (Safe.raise _)

lemma Safe.parseHdrEvent : Safe left parseHdrEvent := by
  refine (Strict.get _).toSafe.bind fun eventType => Safe.untilEnd ?_ id
  exact Safe.paramLoop Strict.intParseParam (fun _ _ _ => Safe.ite (Safe.pure _) (Safe.pure _)) _

lemma Safe.parseHdrSubState : Safe left parseHdrSubState := by
  refine (Strict.get _).toSafe.bind fun subState => Safe.untilEnd ?_ id
  refine Safe.paramLoop Strict.intParseParam (fun _ _ _ => ?_) _
  repeat' first | exact Safe.pure _ | refine Safe.ite ?_ ?_

lemma Safe.parseHdrReplaces : Safe left parseHdrReplaces := by
  refine (Safe.getUntil _).bind fun callId => Safe.untilEnd ?_ id
  refine Safe.paramLoop Strict.intParseParam (fun _ _ _ => ?_) _
  repeat' first | exact Safe.pure _ | refine Safe.ite ?_ ?_

lemma Safe.parseHdrSe : Safe left parseHdrSe := by
  refine (Strict.get _).toSafe.bind fun token => Safe.untilEnd (Safe.loop (fun hdr => ?_) _) id
  exact Strict.intParseParam.bind fun _ => Safe.ite (Safe.pure _) (Safe.pure _)

lemma Safe.parseHdrMinSe : Safe left parseHdrMinSe := by
  refine (Strict.get _).toSafe.bind fun token => Safe.untilEnd (Safe.loop (fun hdr => ?_) _) id
  exact Strict.intParseParam.bind fun _ => Safe.pure _

lemma Safe.parseGenericStringHdr : Safe left parseGenericStringHdr := by
  refine (Safe.loop (fun x => ?_) _).bind fun _ => Safe.parseHdrEnd.bind fun _ => Safe.pure _
  refine (Strict.get _).bind fun hvalue => (Safe.look _).bind fun s => Safe.ite (Safe.pure _) ?_
  exact (Strict.get _).toSafe.bind fun _ => Safe.pure _

lemma Safe.inScanner {p : Parse α} (hp : Safe left p) : Safe ctxLeft (inScanner p) :=
  hp.zoom (fun _ => rfl) fun _ _ => rfl

lemma Strict.inScanner {p : Parse α} (hp : Strict left p) : Strict ctxLeft (inScanner p) :=
  hp.zoom (fun _ => rfl) fun _ _ => rfl

lemma Safe.plain {p : Parse α} (hp : Safe left p) (hdr : α → Hdr) : Safe ctxLeft (plain p hdr) :=
  (Safe.inScanner hp).bind fun _ => Safe.pure _

lemma Safe.parseHdrShared (get : MsgInfo → Option (List Bytes)) (set : List Bytes → MsgInfo → MsgInfo)
    (hdr : Values → Hdr) : Safe ctxLeft (parseHdrShared get set hdr) := by
  refine (Safe.look _).bind fun ctx => ?_
  cases ctx.rdata with
  | none => exact Safe.plain Safe.parseArray _
  | some info =>
    refine Safe.bind ?_ fun _ => Safe.bind ?_ fun _ => Safe.pure _
    · exact Safe.change fun _ => le_refl _
    · exact Safe.parseGenericArrayHdr.zoom (fun _ => rfl) fun _ _ => rfl

def HdrTable (handlers : List (Bytes × HdrFunc)) : Prop := ∀ h ∈ handlers, Safe ctxLeft h.2

lemma HdrTable.append {l l' : List (Bytes × HdrFunc)} (h : HdrTable l) (h' : HdrTable l') : HdrTable (l ++ l') := by
  intro f hf
  rcases List.mem_append.1 hf with hf | hf
  · exact h f hf
  · exact h' f hf

lemma HdrTable.register {func : HdrFunc} (h : Safe ctxLeft func) (hname : String) (hshortname : Option String) :
    HdrTable (registerHdrParser hname hshortname func) := by
  intro f hf
  cases hshortname <;> simp only [registerHdrParser, Option.map_none, Option.map_some, Option.toList_none,
    Option.toList_some, List.append_nil, List.mem_append, List.mem_cons, List.not_mem_nil, or_false] at hf
  · rcases hf with rfl | rfl <;> exact h
  · rcases hf with (rfl | rfl) | rfl <;> exact h

lemma hdrTable_handlers {table : List (Bytes × UriFunc)} (htable : UriTable table) :
    HdrTable (hdrHandlers table) := by
  have hint := Safe.parseGenericIntHdr
  have hadd := fun (l : List (Bytes × HdrFunc)) (h : HdrTable l) (func : HdrFunc) (hf : Safe ctxLeft func) n s =>
    h.append (HdrTable.register hf n s)
  refine hadd _ ?_ _ (Safe.plain Safe.parseHdrReplaces _) _ _
  refine hadd _ ?_ _ (Safe.plain Safe.parseHdrMinSe _) _ _
  refine hadd _ ?_ _ (Safe.plain Safe.parseHdrSe _) _ _
  refine hadd _ ?_ _ (Safe.plain Safe.parseHdrSubState _) _ _
  refine hadd _ ?_ _ (Safe.plain Safe.parseHdrEvent _) _ _
  refine hadd _ ?_ _ (Safe.plain (Safe.parseAuth (Safe.authLoop _ _)) _) _ _
  refine hadd _ ?_ _ (Safe.plain (Safe.parseAuth (Safe.authLoop _ _)) _) _ _
  refine hadd _ ?_ _ (Safe.plain (Safe.parseAuth (Safe.authLoop _ _)) _) _ _
  refine hadd _ ?_ _ (Safe.plain (Safe.parseAuth (Safe.authLoop _ _)) _) _ _
  refine hadd _ ?_ _ (Safe.plain Safe.parseHdrVia _) _ _
  refine hadd _ ?_ _ (Safe.plain Safe.parseArray _) _ _
  refine hadd _ ?_ _ (Safe.plain (Safe.parseHdrFromto htable) _) _ _
  refine hadd _ ?_ _ (Safe.parseHdrShared _ _ _) _ _
  refine hadd _ ?_ _ (Safe.plain Safe.parseHdrRetryAfter _) _ _
  refine hadd _ ?_ _ (Safe.parseHdrShared _ _ _) _ _
  refine hadd _ ?_ _ (Safe.plain (Safe.parseHdrRoute htable) _) _ _
  refine hadd _ ?_ _ (Safe.plain (Safe.parseHdrRoute htable) _) _ _
  refine hadd _ ?_ _ (Safe.plain hint _) _ _
  refine hadd _ ?_ _ (Safe.plain hint _) _ _
  refine hadd _ ?_ _ (Safe.plain (Safe.parseHdrFromto htable) _) _ _
  refine hadd _ ?_ _ (Safe.plain hint _) _ _
  refine hadd _ ?_ _ (Safe.plain Safe.parseHdrCseq _) _ _
  refine hadd _ ?_ _ (Safe.plain Safe.parseHdrContentType _) _ _
  refine hadd _ ?_ _ (Safe.plain Safe.parseHdrContentLen _) _ _
  refine hadd _ ?_ _ (Safe.plain (Safe.parseHdrContact htable) _) _ _
  refine hadd _ ?_ _ (Safe.plain Safe.parseHdrCallId _) _ _
  refine hadd _ ?_ _ (Safe.plain Safe.parseArray _) _ _
  exact HdrTable.register (Safe.plain Safe.parseArray _) _ _

lemma HdrTable.findHandler {handlers : List (Bytes × HdrFunc)} (h : HdrTable handlers) {hname : Bytes}
    {func : HdrFunc} (hf : findHandler handlers hname = some func) : Safe ctxLeft func := by
  have himp : ∀ name, findHandlerImp handlers name = some func → Safe ctxLeft func := by
    intro name hn
    obtain ⟨r, hr, rfl⟩ := Option.map_eq_some_iff.1 hn
    exact h r (List.mem_of_find?_eq_some hr)
  unfold SipParser.findHandler at hf
  split_ifs at hf
  rcases Option.or_eq_some_iff.1 hf with hf | ⟨-, hf⟩
  · exact himp _ hf
  · exact himp _ hf

end PjProject.SipParser
