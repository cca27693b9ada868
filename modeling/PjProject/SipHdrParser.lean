import PjProject.SipUriParser

/-!
# The parsers of headers

The functions that the library registers for headers: those of the core, of authentication, of
event subscriptions, of session timers and of Replaces. A Require or Supported header adds to the
one that the received packet already has, so that the packet is part of the state.
-/
namespace PjProject.SipParser

open Scanner FindMsg PjProject.Parser

def paramLoop {α : Type} (param : Parse (Bytes × Bytes)) (add : α → Bytes → Bytes → Parse α) : α → Parse α :=
  loop left (fun _ s => curptr s = 59) fun hdr => do
    let (pname, pvalue) ← param
    add hdr pname pvalue

def commaLoop {α : Type} (elem : Parse α) : Parse (List α) :=
  forever left (fun hdrs => do
    let hdr ← elem
    let c ← look curptr
    if c ≠ 44 then pure (.inr (hdrs ++ [hdr]))
    else
      let _ ← scan getChar
      pure (.inl (hdrs ++ [hdr]))) []

abbrev Param := SipUri.Param

def parseSipVersion : Parse Unit := do
  let sip ← scan (get isAlpha)
  let slash ← scan getChar
  if slash ≠ 47 then raise .syntaxErr
  else
    let version ← scan (getN 3)
    if !stricmpEq sip (lit "SIP") || !stricmpEq version (lit "2.0") then raise .syntaxErr else pure ()

def viaParamSpec (c : UInt8) : Bool := tokenSpec c || (lit "[:]").contains c

def notCommaOrNewline : UInt8 → Bool := invertSpec ",\r\n"

def arrayMaxCount : ℕ := 32

section Array

def onScanner {α : Type} (p : Parse α) : Parser (State × List Bytes) Exc α := zoom Prod.fst (fun s t => (s, t.2)) p

/-- One round of the loop of `parse_generic_array_hdr`. -/
def arrayElem : Parser (State × List Bytes) Exc (Unit ⊕ Unit) := do
  let t ← look id
  if t.2.length < arrayMaxCount then
    onScanner (loop left (fun _ s => curptr s = 44) (fun _ => do
      let _ ← scan getChar
      pure ()) ())
    let t ← look id
    if isEof t.1 || isNewline (curptr t.1) then pure (.inr ())
    else
      let elem ← onScanner (scan (get notCommaOrNewline))
      change fun t => (t.1, if elem ≠ [] then t.2 ++ [elem] else t.2)
      let t ← look id
      if curptr t.1 ≠ 44 then pure (.inr ()) else pure (.inl ())
  else pure (.inr ())

def parseGenericArrayHdr : Parser (State × List Bytes) Exc Unit := do
  let t ← look id
  if isEof t.1 || isNewline (curptr t.1) then onScanner parseHdrEnd
  else if arrayMaxCount ≤ t.2.length then raise .syntaxErr
  else
    forever (fun t => left t.1) (fun _ => arrayElem) ()
    onScanner parseHdrEnd

def parseArray : Parse (List Bytes) := do
  let (_, values) ← withLocal [] parseGenericArrayHdr
  pure values

end Array

/-- `pjsip_contact_hdr`; without an address it is the star. -/
structure Contact where
  addr : Option NameAddr
  params : ContactParams
  deriving DecidableEq

/-- `pjsip_fromto_hdr` -/
structure FromTo where
  addr : NameAddr
  tag : Bytes
  otherParam : List Param
  deriving DecidableEq

/-- `pjsip_routing_hdr` -/
structure Routing where
  addr : NameAddr
  otherParam : List Param
  deriving DecidableEq

structure MediaType where
  type : Bytes
  subtype : Bytes
  param : List Param
  deriving DecidableEq

/-- `pjsip_retry_after_hdr` -/
structure RetryAfter where
  ivalue : ℕ
  comment : Bytes
  param : List Param
  deriving DecidableEq

/-- `pjsip_via_hdr` -/
structure Via where
  transport : Bytes
  host : Bytes
  port : ℕ
  ttlParam : ℤ
  rportParam : ℤ
  maddrParam : Bytes
  recvdParam : Bytes
  branchParam : Bytes
  otherParam : List Param
  comment : Bytes
  deriving DecidableEq

structure Credential where
  username : Bytes
  realm : Bytes
  nonce : Bytes
  uri : Bytes
  response : Bytes
  algorithm : Bytes
  cnonce : Bytes
  opaqueStr : Bytes
  qop : Bytes
  nc : Bytes
  otherParam : List Param
  deriving DecidableEq

structure Challenge where
  realm : Bytes
  domain : Bytes
  nonce : Bytes
  opaqueStr : Bytes
  stale : Bool
  algorithm : Bytes
  qop : Bytes
  otherParam : List Param
  deriving DecidableEq

/-- `pjsip_event_hdr` -/
structure Event where
  eventType : Bytes
  idParam : Bytes
  otherParam : List Param
  deriving DecidableEq

/-- `pjsip_sub_state_hdr` -/
structure SubState where
  subState : Bytes
  reasonParam : Bytes
  expiresParam : ℕ
  retryAfter : ℤ
  otherParam : List Param
  deriving DecidableEq

/-- `pjsip_replaces_hdr` -/
structure Replaces where
  callId : Bytes
  toTag : Bytes
  fromTag : Bytes
  earlyOnly : Bool
  otherParam : List Param
  deriving DecidableEq

/-- The values of a header, or that they are those of the one that `msg_info` points to. -/
inductive Values
  | own (values : List Bytes)
  | msgInfo
  deriving DecidableEq

inductive Hdr
  | accept (values : List Bytes)
  | allow (values : List Bytes)
  | callId (id : Bytes)
  | contact (list : List Contact)
  | contentLength (len : ℕ)
  | contentType (media : MediaType)
  | cseq (cseq : ℕ) (method : Bytes)
  | expires (ivalue : ℕ)
  | from (hdr : FromTo)
  | maxForwards (ivalue : ℕ)
  | minExpires (ivalue : ℕ)
  | recordRoute (list : List Routing)
  | route (list : List Routing)
  | require (values : Values)
  | retryAfter (hdr : RetryAfter)
  | supported (values : Values)
  | to (hdr : FromTo)
  | unsupported (values : List Bytes)
  | via (list : List Via)
  | authorization (proxy : Bool) (scheme : Bytes) (credential : Credential)
  | authenticate (proxy : Bool) (scheme : Bytes) (challenge : Challenge)
  | event (hdr : Event)
  | subState (hdr : SubState)
  | sessionExpires (hdr : SessExpires)
  | minSe (hdr : MinSe)
  | replaces (hdr : Replaces)
  | generic (name hvalue : Bytes)
  deriving DecidableEq

section Table

variable (table : List (Bytes × UriFunc))

/-- One element of `parse_hdr_contact`. -/
def parseContact : Parse Contact := do
  let c ← look curptr
  if c = 42 then
    let _ ← scan getChar
    pure ⟨none, .init⟩
  else
    let addr ← intParseUriOrNameAddr table true
    let params ← intParseContactParam .init
    pure ⟨some addr, params⟩

def parseHdrContact : Parse (List Contact) := do
  let hdrs ← commaLoop (parseContact table)
  parseHdrEnd
  pure hdrs

def parseHdrFromto : Parse FromTo := do
  let addr ← intParseUriOrNameAddr table true
  let hdr ← paramLoop intParseParam (fun (hdr : FromTo) pname pvalue =>
    if stricmpEq pname (lit "tag") then pure { hdr with tag := pvalue }
    else pure { hdr with otherParam := hdr.otherParam ++ [⟨pname, pvalue⟩] }) ⟨addr, [], []⟩
  parseHdrEnd
  pure hdr

def parseHdrRrRoute : Parse Routing := do
  let addr ← intParseNameAddr table
  paramLoop intParseParam (fun (hdr : Routing) pname pvalue =>
    pure { hdr with otherParam := hdr.otherParam ++ [⟨pname, pvalue⟩] }) ⟨addr, []⟩

/-- `parse_hdr_rr` and `parse_hdr_route` -/
def parseHdrRoute : Parse (List Routing) := do
  let hdrs ← commaLoop (parseHdrRrRoute table)
  parseHdrEnd
  pure hdrs

end Table

def parseHdrCallId : Parse Bytes := do
  let id ← scan (get notNewline)
  parseHdrEnd
  pure id

def parseHdrContentLen : Parse ℕ := do
  let digit ← scan (get isDigit)
  let len ← scan (strtoiValidate digit minContentLength maxContentLength)
  parseHdrEnd
  pure len

/-- `parse_hdr_content_type`; the character between the types is not looked at. -/
def parseHdrContentType : Parse MediaType := do
  let type ← scan (get tokenSpec)
  let _ ← scan getChar
  let subtype ← scan (get tokenSpec)
  let media ← paramLoop intParseParam (fun (media : MediaType) pname pvalue =>
    pure { media with param := media.param ++ [⟨pname, pvalue⟩] }) ⟨type, subtype, []⟩
  parseHdrEnd
  pure media

/-- `PJSIP_MAX_CSEQ`, `PJSIP_MAX_RETRY_AFTER` -/
def maxInt32 : ℕ := 2 ^ 31 - 1

def parseHdrCseq : Parse (ℕ × Bytes) := do
  let cseq ← scan (get isDigit)
  let cseq ← scan (strtoiValidate cseq 0 maxInt32)
  let method ← scan (get tokenSpec)
  parseHdrEnd
  pure (cseq, method)

/-- One round of the loop of `parse_hdr_retry_after`. -/
def retryAfterPart (hdr : RetryAfter) : Parse RetryAfter := do
  let c ← look curptr
  if c = 40 then
    let comment ← scan (getQuote 40 41)
    pure { hdr with comment := unquote comment }
  else if c = 59 then
    let (pname, pvalue) ← intParseParam
    pure { hdr with param := hdr.param ++ [⟨pname, pvalue⟩] }
  else raise .syntaxErr

def parseHdrRetryAfter : Parse RetryAfter := do
  let tmp ← scan (get isDigit)
  let ivalue ← scan (strtoiValidate tmp 0 maxInt32)
  let hdr ← loop left (fun _ s => !isEof s && !isNewline (curptr s)) retryAfterPart ⟨ivalue, [], []⟩
  parseHdrEnd
  pure hdr

/-- One round of `int_parse_via_param`. -/
def viaParam (hdr : Via) (pname pvalue : Bytes) : Parse Via :=
  if stricmpEq pname (lit "branch") ∧ pvalue ≠ [] then pure { hdr with branchParam := pvalue }
  else if stricmpEq pname (lit "ttl") ∧ pvalue ≠ [] then do
    let ttl ← scan (strtoiValidate pvalue 0 maxTtl)
    pure { hdr with ttlParam := ttl }
  else if stricmpEq pname (lit "maddr") ∧ pvalue ≠ [] then pure { hdr with maddrParam := pvalue }
  else if stricmpEq pname (lit "received") ∧ pvalue ≠ [] then pure { hdr with recvdParam := pvalue }
  else if stricmpEq pname (lit "rport") then
    if pvalue ≠ [] then do
      let rport ← scan (strtoiValidate pvalue 0 maxPort)
      pure { hdr with rportParam := rport }
    else pure { hdr with rportParam := 0 }
  else pure { hdr with otherParam := hdr.otherParam ++ [⟨pname, pvalue⟩] }

def intParseViaParam : Via → Parse Via :=
  paramLoop (do
    let _ ← scan getChar
    parseParamImp viaParamSpec id) viaParam

/-- One element of `parse_hdr_via`. -/
def parseVia : Parse Via := do
  parseSipVersion
  let slash ← scan getChar
  if slash ≠ 47 then raise .syntaxErr
  else
    let transport ← scan (get tokenSpec)
    let host ← intParseHost
    let c ← look curptr
    let port ← (if c = 58 then do
        let _ ← scan getChar
        let digit ← scan (get isDigit)
        scan (strtoiValidate digit 0 maxPort)
      else pure 0)
    let hdr ← intParseViaParam ⟨transport, host, port, -1, -1, [], [], [], [], []⟩
    let c ← look curptr
    if c = 40 then
      let _ ← scan getChar
      let comment ← scan (getUntil (· = 41))
      let _ ← scan getChar
      pure { hdr with comment := comment }
    else pure hdr

def parseHdrVia : Parse (List Via) := do
  let hdrs ← commaLoop parseVia
  parseHdrEnd
  pure hdrs

def unquoteValue (pvalue : Bytes) : Bytes := if pvalue.head? = some 34 then unquote pvalue else pvalue

def authLoop {α : Type} (add : α → Bytes → Bytes → α) : α → Parse α :=
  forever left fun hdr => do
    let (name, value) ← parseParam
    let hdr := add hdr name value
    let s ← look id
    if !isEof s && curptr s = 44 then
      let _ ← scan getChar
      pure (.inl hdr)
    else pure (.inr hdr)

def parseScheme : Parse Bytes := do
  let c ← look curptr
  if c = 34 then
    let scheme ← scan (getQuote 34 34)
    pure (unquote scheme)
  else scan (get tokenSpec)

def parseDigestCredential : Parse Credential :=
  authLoop (fun cred name value =>
    let value := unquoteValue value
    if stricmpEq name (lit "username") then { cred with username := value }
    else if stricmpEq name (lit "realm") then { cred with realm := value }
    else if stricmpEq name (lit "nonce") then { cred with nonce := value }
    else if stricmpEq name (lit "uri") then { cred with uri := value }
    else if stricmpEq name (lit "response") then { cred with response := value }
    else if stricmpEq name (lit "algorithm") then { cred with algorithm := value }
    else if stricmpEq name (lit "cnonce") then { cred with cnonce := value }
    else if stricmpEq name (lit "opaque") then { cred with opaqueStr := value }
    else if stricmpEq name (lit "qop") then { cred with qop := value }
    else if stricmpEq name (lit "nc") then { cred with nc := value }
    else { cred with otherParam := cred.otherParam ++ [⟨name, value⟩] })
    ⟨[], [], [], [], [], [], [], [], [], [], []⟩

def parseDigestChallenge : Parse Challenge :=
  authLoop (fun chal name value =>
    let unquoted := unquoteValue value
    if stricmpEq name (lit "realm") then { chal with realm := unquoted }
    else if stricmpEq name (lit "domain") then { chal with domain := unquoted }
    else if stricmpEq name (lit "nonce") then { chal with nonce := unquoted }
    else if stricmpEq name (lit "opaque") then { chal with opaqueStr := unquoted }
    else if stricmpEq name (lit "stale") then
      if stricmpEq value (lit "true") || stricmpEq value (lit "\"true\"") then { chal with stale := true } else chal
    else if stricmpEq name (lit "algorithm") then { chal with algorithm := unquoted }
    else if stricmpEq name (lit "qop") then { chal with qop := unquoted }
    else { chal with otherParam := chal.otherParam ++ [⟨name, value⟩] })
    ⟨[], [], [], [], false, [], [], []⟩

/-- `int_parse_hdr_authorization` and `int_parse_hdr_authenticate`, which read digests only. -/
def parseAuth {α : Type} (digest : Parse α) : Parse (Bytes × α) := do
  let scheme ← parseScheme
  if stricmpEq scheme (lit "Digest") then
    let value ← digest
    parseHdrEnd
    pure (scheme, value)
  else raise .syntaxErr

def parseHdrEvent : Parse Event := do
  let eventType ← scan (get tokenSpec)
  let hdr ← paramLoop intParseParam (fun (hdr : Event) pname pvalue =>
    if stricmpEq pname (lit "id") then pure { hdr with idParam := pvalue }
    else pure { hdr with otherParam := hdr.otherParam ++ [⟨pname, pvalue⟩] }) ⟨eventType, [], []⟩
  parseHdrEnd
  pure hdr

def parseHdrSubState : Parse SubState := do
  let subState ← scan (get tokenSpec)
  let hdr ← paramLoop intParseParam (fun (hdr : SubState) pname pvalue =>
    if stricmpEq pname (lit "reason") then pure { hdr with reasonParam := pvalue }
    else if stricmpEq pname (lit "expires") then pure { hdr with expiresParam := contactExpires pvalue }
    else if stricmpEq pname (lit "retry-after") then
      pure { hdr with retryAfter := Int.bmod (strtoul pvalue) (2 ^ 32) }
    else pure { hdr with otherParam := hdr.otherParam ++ [⟨pname, pvalue⟩] })
    ⟨subState, [], expiresNotSpecified, -1, []⟩
  parseHdrEnd
  pure hdr

/-- `parse_hdr_replaces`; the Call-ID goes on to the next semicolon, past the end of the line too. -/
def parseHdrReplaces : Parse Replaces := do
  let callId ← scan (getUntil (· = 59))
  let hdr ← paramLoop intParseParam (fun (hdr : Replaces) pname pvalue =>
    if stricmpEq pname (lit "to-tag") then pure { hdr with toTag := pvalue }
    else if stricmpEq pname (lit "from-tag") then pure { hdr with fromTag := pvalue }
    else if stricmpEq pname (lit "early-only") then pure { hdr with earlyOnly := true }
    else pure { hdr with otherParam := hdr.otherParam ++ [⟨pname, pvalue⟩] }) ⟨callId, [], [], false, []⟩
  parseHdrEnd
  pure hdr

/-- The headers of `rdata->msg_info` that a later header of the packet adds to. -/
structure MsgInfo where
  require : Option (List Bytes)
  supported : Option (List Bytes)
  deriving DecidableEq

/-- `pjsip_parse_ctx`; without a received packet there is no `rdata`. -/
structure Ctx where
  scanner : State
  rdata : Option MsgInfo
  deriving DecidableEq

abbrev CtxParse := Parser Ctx Exc

def ctxLeft (ctx : Ctx) : ℕ := left ctx.scanner

abbrev HdrFunc := CtxParse (Option Hdr)

def inScanner {α : Type} (p : Parse α) : CtxParse α := zoom Ctx.scanner (fun s ctx => { ctx with scanner := s }) p

def plain {α : Type} (p : Parse α) (hdr : α → Hdr) : HdrFunc := do
  let a ← inScanner p
  pure (some (hdr a))

/-- `parse_hdr_require` and `parse_hdr_supported`, for the field `get` of `msg_info`. -/
def parseHdrShared (get : MsgInfo → Option (List Bytes)) (set : List Bytes → MsgInfo → MsgInfo)
    (hdr : Values → Hdr) : HdrFunc := do
  let ctx ← look id
  match ctx.rdata with
  | none => plain parseArray fun values => hdr (.own values)
  | some info =>
    let newHdr := (get info).isNone
    change fun ctx => { ctx with rdata := ctx.rdata.map fun i => set ((get i).getD []) i }
    zoom (fun ctx => (ctx.scanner, ((ctx.rdata.bind get).getD [])))
      (fun t ctx => { ctx with scanner := t.1, rdata := ctx.rdata.map fun i => set t.2 i }) parseGenericArrayHdr
    pure (if newHdr then some (hdr .msgInfo) else none)

def parseHdrRequire : HdrFunc :=
  parseHdrShared MsgInfo.require (fun values i => { i with require := some values }) .require

def parseHdrSupported : HdrFunc :=
  parseHdrShared MsgInfo.supported (fun values i => { i with supported := some values }) .supported

/-- `pjsip_register_hdr_parser`: the records of a header. -/
def registerHdrParser (hname : String) (hshortname : Option String) (func : HdrFunc) : List (Bytes × HdrFunc) :=
  [(lit hname, func), (lowerAll (lit hname), func)] ++ (hshortname.map fun n => (lit n, func)).toList

def hdrHandlers (table : List (Bytes × UriFunc)) : List (Bytes × HdrFunc) :=
  registerHdrParser "Accept" none (plain parseArray .accept) ++
  registerHdrParser "Allow" none (plain parseArray .allow) ++
  registerHdrParser "Call-ID" (some "i") (plain parseHdrCallId .callId) ++
  registerHdrParser "Contact" (some "m") (plain (parseHdrContact table) .contact) ++
  registerHdrParser "Content-Length" (some "l") (plain parseHdrContentLen .contentLength) ++
  registerHdrParser "Content-Type" (some "c") (plain parseHdrContentType .contentType) ++
  registerHdrParser "CSeq" none (plain parseHdrCseq fun r => .cseq r.1 r.2) ++
  registerHdrParser "Expires" none (plain parseHdrExpires .expires) ++
  registerHdrParser "From" (some "f") (plain (parseHdrFromto table) .from) ++
  registerHdrParser "Max-Forwards" none (plain parseHdrMaxForwards .maxForwards) ++
  registerHdrParser "Min-Expires" none (plain parseHdrMinExpires .minExpires) ++
  registerHdrParser "Record-Route" none (plain (parseHdrRoute table) .recordRoute) ++
  registerHdrParser "Route" none (plain (parseHdrRoute table) .route) ++
  registerHdrParser "Require" none parseHdrRequire ++
  registerHdrParser "Retry-After" none (plain parseHdrRetryAfter .retryAfter) ++
  registerHdrParser "Supported" (some "k") parseHdrSupported ++
  registerHdrParser "To" (some "t") (plain (parseHdrFromto table) .to) ++
  registerHdrParser "Unsupported" none (plain parseArray .unsupported) ++
  registerHdrParser "Via" (some "v") (plain parseHdrVia .via) ++
  registerHdrParser "Authorization" none
    (plain (parseAuth parseDigestCredential) fun r => .authorization false r.1 r.2) ++
  registerHdrParser "Proxy-Authorization" none
    (plain (parseAuth parseDigestCredential) fun r => .authorization true r.1 r.2) ++
  registerHdrParser "WWW-Authenticate" none
    (plain (parseAuth parseDigestChallenge) fun r => .authenticate false r.1 r.2) ++
  registerHdrParser "Proxy-Authenticate" none
    (plain (parseAuth parseDigestChallenge) fun r => .authenticate true r.1 r.2) ++
  registerHdrParser "Event" (some "o") (plain parseHdrEvent .event) ++
  registerHdrParser "Subscription-State" none (plain parseHdrSubState .subState) ++
  registerHdrParser "Session-Expires" (some "x") (plain parseHdrSe .sessionExpires) ++
  registerHdrParser "Min-SE" none (plain parseHdrMinSe .minSe) ++
  registerHdrParser "Replaces" none (plain parseHdrReplaces .replaces)

def maxHnameLen : ℕ := 64

def findHandlerImp (handlers : List (Bytes × HdrFunc)) (hname : Bytes) : Option HdrFunc :=
  (handlers.find? fun h => h.1 = hname).map Prod.snd

/-- `find_handler`: the name as it is, and in lower case. -/
def findHandler (handlers : List (Bytes × HdrFunc)) (hname : Bytes) : Option HdrFunc :=
  if maxHnameLen ≤ hname.length then none
  else (findHandlerImp handlers hname).or (findHandlerImp handlers (lowerAll hname))

end PjProject.SipParser
