import PjProject.SipHdrProgress

/-!
# The parser of messages

`int_parse_msg` and `pjsip_parse_headers`. After an exception in a header both go on with the next
line, whichever header was read and wherever it stopped. The bodies of a multipart message are
read as they are in the source; a part is followed by a newline, which no parser tells from the
NUL that ends a buffer.
-/
namespace PjProject.SipParser

open Scanner FindMsg PjProject.Parser

inductive StartLine
  | request (method : Bytes) (uri : Uri)
  | status (code : ℕ) (reason : Bytes)
  deriving DecidableEq

def isNextSipVersion : Parse Bool := do
  let (sip, c) ← scan (peek isAlpha)
  pure ((c = 47 || c = 32 || c = 9) && stricmpEq sip (lit "SIP"))

def intParseReqLine (table : List (Bytes × UriFunc)) : Parse StartLine := do
  let method ← scan (get tokenSpec)
  let uri ← intParseUri table true
  parseSipVersion
  scan getNewline
  pure (.request method uri)

def intParseStatusLine : Parse StartLine := do
  parseSipVersion
  let token ← scan (get isDigit)
  let code ← scan (strtoiValidate token 100 999)
  let s ← look id
  let reason ← (if !isNewline (curptr s) then scan (get notNewline) else pure [])
  scan getNewline
  pure (.status code reason)

section Handlers

variable (handlers : List (Bytes × HdrFunc))

def parseHdrValue (hname : Bytes) : HdrFunc := do
  let colon ← inScanner (scan getChar)
  if colon ≠ 58 then raise .syntaxErr
  else
    match findHandler handlers hname with
    | some func => func
    | none => plain parseGenericStringHdr (.generic hname)

def skipLines : Parse Unit :=
  forever left (fun _ => do
    scan skipLine
    let c ← look curptr
    if isSpace c then pure (.inl ()) else pure (.inr ())) ()

/-- The end of `PJ_CATCH_ANY`: whether the next header is to be parsed. -/
def recover : Parse Bool := do
  let s ← look id
  (if !isEof s then skipLines else pure ())
  setSkipWs .wsHeader
  let s ← look id
  pure (!isEof s && !isNewline (curptr s))

/-- `scanner` is at the end or at an empty line. -/
def atEmptyLine (ctx : Ctx) : Bool := isEof ctx.scanner || isNewline (curptr ctx.scanner)

/-- The local state of `pjsip_parse_headers`. -/
structure HdrsState where
  ctx : Ctx
  hlist : List Hdr
  deriving DecidableEq

def HdrsState.onCtx {α : Type} (p : CtxParse α) : Parser HdrsState Exc α :=
  zoom HdrsState.ctx (fun ctx s => { s with ctx := ctx }) p

def hdrsLeft (s : HdrsState) : ℕ := ctxLeft s.ctx

def headersLoop : Parser HdrsState Exc Unit :=
  forever hdrsLeft (fun _ => do
    let hname ← HdrsState.onCtx (inScanner (scan (get tokenSpec)))
    let hdr ← HdrsState.onCtx (parseHdrValue handlers hname)
    change fun s => { s with hlist := s.hlist ++ hdr.toList }
    let s ← look id
    if !atEmptyLine s.ctx then pure (.inl ()) else pure (.inr ())) ()

/-- One pass from `retry_parse` on: whether the parser is to retry, or its result. -/
def headersPass (stopOnError : Bool) : Parser HdrsState Exc (Unit ⊕ Bool) :=
  handle (do
    headersLoop handlers
    let s ← look id
    (if !isEof s.ctx.scanner && isNewline (curptr s.ctx.scanner) then HdrsState.onCtx (inScanner (scan getNewline))
      else pure ())
    pure (.inr true)) fun _ => do
    if stopOnError then pure (.inr false)
    else
      let retry ← HdrsState.onCtx (inScanner recover)
      if retry then pure (.inl ()) else pure (.inr true)

/-- `pjsip_parse_headers`: whether it succeeds, and the list. -/
def pjsipParseHeaders (stopOnError : Bool) (input : Bytes) (hlist : List Hdr) : Outcome Exc Bool × HdrsState :=
  (forever hdrsLeft (fun _ => headersPass handlers stopOnError) ()).run ⟨⟨init input .wsHeader, none⟩, hlist⟩

/-- A part of `pjsip_msg_body`. -/
structure Part where
  hdrs : List Hdr
  contentType : MediaType
  data : Bytes
  deriving DecidableEq

/-- The search of `parse_multipart_part` for the empty line: the headers and the body. The bytes that
were passed are there in reverse. -/
def splitPart : Bytes → Bytes → Bytes × Bytes
  | _, [] => ([], [])
  | pre, c :: s =>
    if c ≠ 10 then splitPart (c :: pre) s
    else if pre = [] ∨ pre = [13] then ([], s)
    else if s = [] then ((c :: pre).reverse, [])
    else if pre.head? = some 10 then (pre.reverse, s)
    else if pre.head? = some 13 ∧ pre.tail.head? = some 10 then (pre.tail.reverse, s)
    else splitPart (c :: pre) s

def lastContentType (hdrs : List Hdr) : Option MediaType :=
  (hdrs.filterMap fun
    | .contentType media => some media
    | _ => none).getLast?

def parseMultipartPart (pct : MediaType) (part : Bytes) : Outcome Unit Part :=
  let (hdrs, body) := splitPart [] part
  let list : Option (List Hdr) :=
    if hdrs = [] then some []
    else
      match pjsipParseHeaders handlers false hdrs [] with
      | (.hang, _) => none
      | (_, s) => some s.hlist
  match list with
  | none => .hang
  | some hdrs =>
    .ok ⟨hdrs, (lastContentType hdrs).getD (if stricmpEq pct.subtype (lit "digest")
      then ⟨lit "message", lit "rfc822", []⟩ else ⟨lit "text", lit "plain", []⟩), body⟩

def findDashes : Bool → Bytes → Bytes
  | _, [] => []
  | lineStart, c :: s =>
    if c = 45 ∧ s.head? = some 45 ∧ lineStart then s.drop 1 else findDashes (c = 10) s

/-- The boundary of `pjsip_multipart_parse`, which is empty where there is none. -/
def findBoundary (ctype : MediaType) (buf : Bytes) : Bytes :=
  let value := ((SipUri.paramFind ctype.param (lit "boundary")).map SipUri.Param.value).getD []
  let boundary := if 2 < value.length ∧ value.head? = some 34 then unquote value else value
  if boundary ≠ [] then boundary else (findDashes true buf).takeWhile (!isSpaceChar ·)

def trimNewline (body : Bytes) : Bytes :=
  let body := if body.getLast? = some 10 then body.dropLast else body
  if body.getLast? = some 13 then body.dropLast else body

def endDelimiterLine : Parser Bytes Unit Unit := do
  change fun s => eat 13 (s.dropWhile isSpace)
  let s ← look id
  if s.head? ≠ some 10 then raise () else change (·.drop 1)

/-- One round of the loop of `pjsip_multipart_parse`, at a delimiter. -/
def multipartRound (ctype : MediaType) (delim : Bytes) (parts : List Part) :
    Parser Bytes Unit (List Part ⊕ List Part) := do
  change (·.drop delim.length)
  let s ← look id
  if s.take 2 = [45, 45] then pure (.inr parts)
  else
    endDelimiterLine
    let s ← look id
    match strstr delim s with
    | none => raise ()
    | some n =>
      change (·.drop n)
      let part ← result (parseMultipartPart handlers ctype (trimNewline (s.take n)))
      pure (.inl (parts ++ [part]))

/-- `pjsip_multipart_parse`; an exception stands for a result of `NULL`. -/
def pjsipMultipartParse (ctype : MediaType) (buf : Bytes) : Outcome Unit (List Part) :=
  let value := ((SipUri.paramFind ctype.param (lit "boundary")).map SipUri.Param.value).getD []
  if value = [] ∧ findDashes true buf = [] then .throw ()
  else
    let delim := lit "--" ++ findBoundary ctype buf
    match strstr delim buf with
    | none => .throw ()
    | some n => ((forever List.length (multipartRound handlers ctype delim) []).run (buf.drop n)).1

/-- `pjsip_msg_type_e` -/
inductive MsgType
  | request | response
  deriving DecidableEq

/-- `pjsip_msg_body` -/
inductive Body
  | text (contentType : MediaType) (data : Bytes)
  | multipart (contentType : MediaType) (parts : List Part)
  deriving DecidableEq

structure Msg where
  type : MsgType
  line : Option StartLine
  hdr : List Hdr
  body : Option Body
  deriving DecidableEq

structure ErrReport where
  exceptCode : Exc
  hname : Bytes
  deriving DecidableEq

/-- The local state of `int_parse_msg`. -/
structure MsgState where
  ctx : Ctx
  parsingHeaders : Bool
  msg : Option Msg
  ctypeHdr : Option MediaType
  hnameSave : Option Bytes
  errList : Option (List ErrReport)
  deriving DecidableEq

abbrev MsgParse := Parser MsgState Exc

def MsgState.onCtx {α : Type} (p : CtxParse α) : MsgParse α :=
  zoom MsgState.ctx (fun ctx s => { s with ctx := ctx }) p

def MsgState.onScanner {α : Type} (p : Parse α) : MsgParse α := MsgState.onCtx (inScanner p)

def msgLeft (s : MsgState) : ℕ := ctxLeft s.ctx

def startLine (table : List (Bytes × UriFunc)) : MsgParse Bool := do
  MsgState.onScanner (loop left (fun _ s => isNewline (curptr s)) (fun _ => scan getNewline) ())
  let s ← look id
  if isEof s.ctx.scanner then pure false
  else
    let response ← MsgState.onScanner isNextSipVersion
    change fun s => { s with msg := some ⟨if response then .response else .request, none, [], none⟩ }
    let line ← MsgState.onScanner (if response then intParseStatusLine else intParseReqLine table)
    change fun s => { s with msg := s.msg.map ({ · with line := some line }), parsingHeaders := true }
    pure true

def MsgState.addHdr (hdr : Option Hdr) (s : MsgState) : MsgState :=
  { s with
    ctypeHdr :=
      match hdr with
      | some (.contentType media) => some media
      | _ => s.ctypeHdr
    msg := s.msg.map fun m => { m with hdr := m.hdr ++ hdr.toList } }

def msgHeader : MsgParse (Unit ⊕ Unit) := do
  change fun s => { s with hnameSave := none }
  let hname ← MsgState.onScanner (scan (get tokenSpec))
  change fun s => { s with hnameSave := some hname }
  let hdr ← MsgState.onCtx (parseHdrValue handlers hname)
  change (MsgState.addHdr hdr)
  let s ← look id
  if !atEmptyLine s.ctx then pure (.inl ()) else pure (.inr ())

def msgBody : MsgParse Unit := do
  let s ← look id
  match s.ctypeHdr with
  | none => pure ()
  | some media =>
    if isEof s.ctx.scanner then pure ()
    else if stricmpEq media.type (lit "multipart") then
      let body ← result (match pjsipMultipartParse handlers media s.ctx.scanner.rest with
        | .ok parts => .ok (some (Body.multipart media parts))
        | .throw _ => .ok none
        | .hang => .hang)
      change fun s => { s with msg := s.msg.map ({ · with body := body }) }
    else
      change fun s => { s with msg := s.msg.map ({ · with body := some (.text media s.ctx.scanner.rest) }) }

/-- The error that `PJ_CATCH_ANY` reports. -/
def MsgState.report (e : Exc) (s : MsgState) : MsgState :=
  let hname :=
    if s.parsingHeaders then s.hnameSave.getD []
    else
      match s.msg.map Msg.type with
      | some .request => lit "Request Line"
      | some .response => lit "Status Line"
      | none => []
  { s with errList := s.errList.map (· ++ [⟨e, hname⟩]) }

/-- The block of `PJ_TRY`. -/
def msgTry (table : List (Bytes × UriFunc)) : MsgParse (Option Msg) := do
  let s ← look id
  let found ← (if s.parsingHeaders then pure true else startLine table)
  if !found then pure none
  else
    forever msgLeft (fun _ => msgHeader handlers) ()
    change fun s => { s with parsingHeaders := false }
    let s ← look id
    (if !isEof s.ctx.scanner && isNewline (curptr s.ctx.scanner) then MsgState.onScanner (scan getNewline)
      else pure ())
    msgBody handlers
    look MsgState.msg

/-- One pass from `retry_parse` on: whether the parser is to retry, or its result. -/
def msgPass (table : List (Bytes × UriFunc)) : MsgParse (Unit ⊕ Option Msg) :=
  handle (do
    let msg ← msgTry handlers table
    pure (.inr msg)) fun e => do
    change (MsgState.report e)
    let s ← look id
    if s.parsingHeaders then
      let retry ← MsgState.onScanner recover
      if retry then pure (.inl ()) else pure (.inr none)
    else pure (.inr none)

def intParseMsg (table : List (Bytes × UriFunc)) : MsgParse (Option Msg) :=
  forever msgLeft (fun _ => msgPass handlers table) ()

/-- `pjsip_parse_msg`, and with a received packet `pjsip_parse_rdata`. -/
def pjsipParseMsg (table : List (Bytes × UriFunc)) (buf : Bytes) (rdata : Option MsgInfo)
    (errList : Option (List ErrReport)) : Outcome Exc (Option Msg) × MsgState :=
  (intParseMsg handlers table).run ⟨⟨init buf .wsHeader, rdata⟩, false, none, none, none, errList⟩

end Handlers

end PjProject.SipParser
