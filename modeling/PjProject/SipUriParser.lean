import PjProject.SipParserProgress
import PjProject.SipUri

/-!
# The parsers of URIs

"sip:" and "sips:" URIs, "tel:" URIs, other URIs and name addresses, as the registered functions
for a scheme and `int_parse_uri_or_name_addr` read them. While a URI is read the scanner does not
skip spaces; an exception leaves it so.
-/
namespace PjProject.SipParser

open Scanner FindMsg PjProject.Parser

def charSpec (more : String) (c : UInt8) : Bool := isAlnum c || (lit more).contains c

def invertSpec (str : String) (c : UInt8) : Bool := c ≠ 0 && !(lit str).contains c

def hostSpec : UInt8 → Bool := charSpec "_-."

def paramCharSpec : UInt8 → Bool := charSpec "[]/:&+$-_.!~*'()%"

def hdrCharSpec : UInt8 → Bool := charSpec "[]/?:+$-_.!~*'()%"

def userSpecLenient : UInt8 → Bool := charSpec "-_.!~*'()%&=+$,;?/#"

def passwdSpec : UInt8 → Bool := charSpec "-_.!~*'()%&=+$,"

def probeUserHostSpec : UInt8 → Bool := invertSpec "@ \n>"

def displaySpec : UInt8 → Bool := invertSpec ":\r\n<"

def otherUriContent : UInt8 → Bool := charSpec "#?;:@&=+-_.!~*'()%$,/"

def telNumberSpec (c : UInt8) : Bool := (lit "0123456789aAbBcCdDeEfF*#-.()+").contains c

def telParsingPvalueSpec : UInt8 → Bool := charSpec "/:@&$,+-_.!~*'()%[]="

def isXdigit (c : UInt8) : Bool := isDigit c || (97 ≤ c && c ≤ 102) || (65 ≤ c && c ≤ 70)

def hexDigitToVal (c : UInt8) : UInt8 :=
  if c ≤ 57 then (c - 48) &&& 15 else if c ≤ 70 then (c - 65 + 10) &&& 15 else (c - 97 + 10) &&& 15

def strUnescape : Bytes → Bytes
  | 37 :: a :: b :: s =>
    if isXdigit a && isXdigit b then (hexDigitToVal a * 16 + hexDigitToVal b) :: strUnescape s
    else 37 :: strUnescape (a :: b :: s)
  | c :: s => c :: strUnescape s
  | [] => []

def strtrim (s : Bytes) : Bytes := ((strltrim s).reverse.dropWhile isSpaceChar).reverse

def unquote (s : Bytes) : Bytes := (s.drop 1).dropLast

def parserGetAndUnescape (spec : UInt8 → Bool) : Parse Bytes := do
  let token ← scan (get spec)
  pure (strUnescape token)

/-- `scanner->skip_ws = opt` -/
def setSkipWs (opt : SkipWs) : Parse Unit := change fun s => { s with skipWs := opt }

def scanSkipWhitespace : Parse Unit := change fun s => { s with rest := skipWhitespace s.skipWs s.rest }

def intParseUriParam : Parse (Bytes × Bytes) := do
  let _ ← scan getChar
  parseParamImp paramCharSpec strUnescape

def intParseHparam : Parse (Bytes × Bytes) := do
  let _ ← scan getChar
  let hname ← parserGetAndUnescape hdrCharSpec
  let c ← look curptr
  if c = 61 then
    let _ ← scan getChar
    let s ← look id
    if !isEof s && hdrCharSpec (curptr s) then
      let hvalue ← parserGetAndUnescape hdrCharSpec
      pure (hname, hvalue)
    else pure (hname, [])
  else pure (hname, [])

def intParseHost : Parse Bytes := do
  let c ← look curptr
  if c = 91 then
    let _ ← scan getChar
    let host ← scan (getUntil (· = 93))
    let _ ← scan getChar
    if host = [] then raise .syntaxErr else pure host
  else scan (get hostSpec)

def maxPort : ℕ := 2 ^ 16 - 1

def maxTtl : ℕ := 2 ^ 8 - 1

def intParseUriHostPort : Parse (Bytes × ℕ) := do
  let host ← intParseHost
  let c ← look curptr
  if c = 58 then
    let _ ← scan getChar
    let port ← scan (get isDigit)
    let port ← scan (strtoiValidate port 0 maxPort)
    pure (host, port)
  else pure (host, 0)

def intIsNextUser : Parse Bool := do
  let (_, c) ← scan (peek probeUserHostSpec)
  pure (c = 64)

def intParseUserPass : Parse (Bytes × Bytes) := do
  let user ← parserGetAndUnescape userSpecLenient
  let c ← look curptr
  let pass ← (if c = 58 then do
      let _ ← scan getChar
      parserGetAndUnescape passwdSpec
    else pure [])
  let _ ← scan getChar
  pure (user, pass)

/-- `pjsip_sip_uri` with its lr parameter. -/
structure SipUrl extends SipUri.Uri where
  lrParam : Bool
  deriving DecidableEq

structure TelUri where
  number : Bytes
  isubParam : Bytes
  extParam : Bytes
  context : Bytes
  otherParam : List SipUri.Param
  deriving DecidableEq

inductive Uri
  | sip (uri : SipUrl)
  | tel (uri : TelUri)
  | other (scheme content : Bytes)
  deriving DecidableEq

/-- A function that is registered for a scheme, with `parse_params`. -/
abbrev UriFunc := Bool → Parse Uri

/-- `pjsip_sip_uri_init` -/
def SipUrl.init (secure : Bool) : SipUrl :=
  ⟨⟨secure, [], [], [], 0, [], [], [], -1, [], [], []⟩, false⟩

def sipUrlParam (url : SipUrl) (pname pvalue : Bytes) : Parse SipUrl :=
  if stricmpEq pname (lit "user") ∧ pvalue ≠ [] then pure { url with userParam := pvalue }
  else if stricmpEq pname (lit "method") ∧ pvalue ≠ [] then pure { url with methodParam := pvalue }
  else if stricmpEq pname (lit "transport") ∧ pvalue ≠ [] then pure { url with transportParam := pvalue }
  else if stricmpEq pname (lit "ttl") ∧ pvalue ≠ [] then do
    let ttl ← scan (strtoiValidate pvalue 0 maxTtl)
    pure { url with ttlParam := ttl }
  else if stricmpEq pname (lit "maddr") ∧ pvalue ≠ [] then pure { url with maddrParam := pvalue }
  else if stricmpEq pname (lit "lr") then pure { url with lrParam := true }
  else pure { url with otherParam := url.otherParam ++ [⟨pname, pvalue⟩] }

def sipUrlParams : SipUrl → Parse SipUrl :=
  loop left (fun _ s => curptr s = 59) fun url => do
    let (pname, pvalue) ← intParseUriParam
    sipUrlParam url pname pvalue

def sipUrlHeaders : SipUrl → Parse SipUrl :=
  forever left fun url => do
    let (hname, hvalue) ← intParseHparam
    let url := { url with headerParam := url.headerParam ++ [⟨hname, hvalue⟩] }
    let c ← look curptr
    if c = 38 then pure (.inl url) else pure (.inr url)

def intParseSipUrl : UriFunc := fun parseParams => do
  let s ← look id
  let skipWs := s.skipWs
  setSkipWs .off
  let scheme ← scan (get tokenSpec)
  let colon ← scan getChar
  if colon ≠ 58 then raise .syntaxErr
  else
    let url ← (if stricmpEq scheme (lit "sip") then pure (SipUrl.init false)
      else if stricmpEq scheme (lit "sips") then pure (SipUrl.init true)
      else raise .syntaxErr)
    let isUser ← intIsNextUser
    let (user, passwd) ← (if isUser then intParseUserPass else pure ([], []))
    let (host, port) ← intParseUriHostPort
    let url := { url with user := user, passwd := passwd, host := host, port := port }
    let url ← (if parseParams then sipUrlParams url else pure url)
    let c ← look curptr
    let url ← (if parseParams ∧ c = 63 then sipUrlHeaders url else pure url)
    setSkipWs skipWs
    scanSkipWhitespace
    pure (.sip url)

def telUriParam (uri : TelUri) : Parse TelUri := do
  let _ ← scan getChar
  let pname ← scan (get paramCharSpec)
  let c ← look curptr
  let pvalue ← (if c = 61 then do
      let _ ← scan getChar
      let pvalue ← scan (get telParsingPvalueSpec)
      pure (strUnescape pvalue)
    else pure [])
  if stricmpEq pname (lit "isub") then pure { uri with isubParam := pvalue }
  else if stricmpEq pname (lit "ext") then pure { uri with extParam := pvalue }
  else if stricmpEq pname (lit "phone-context") then pure { uri with context := pvalue }
  else pure { uri with otherParam := uri.otherParam ++ [⟨pname, pvalue⟩] }

def telUriParse : UriFunc := fun parseParams => do
  let s ← look id
  let skipWs := s.skipWs
  setSkipWs .off
  let token ← scan (get tokenSpec)
  let colon ← scan getChar
  if colon ≠ 58 then raise .syntaxErr
  else if !stricmpEq token (lit "tel") then raise .syntaxErr
  else
    let number ← scan (get telNumberSpec)
    let uri : TelUri := ⟨strUnescape number, [], [], [], []⟩
    let uri ← (if parseParams then loop left (fun _ s => curptr s = 59) telUriParam uri else pure uri)
    setSkipWs skipWs
    scanSkipWhitespace
    pure (.tel uri)

def intParseOtherUri : UriFunc := fun _ => do
  let s ← look id
  let skipWs := s.skipWs
  setSkipWs .off
  let scheme ← scan (get tokenSpec)
  let colon ← scan getChar
  if colon ≠ 58 then raise .syntaxErr
  else
    let content ← scan (get otherUriContent)
    setSkipWs skipWs
    pure (.other scheme content)

def uriHandlers : List (Bytes × UriFunc) :=
  [(lit "sip", intParseSipUrl), (lit "sips", intParseSipUrl), (lit "tel", telUriParse)]

section Table

variable (table : List (Bytes × UriFunc))

def findUriHandler (scheme : Bytes) : UriFunc :=
  ((table.find? fun h => stricmpEq h.1 scheme).map Prod.snd).getD intParseOtherUri

def intParseUri (parseParams : Bool) : Parse Uri := do
  let (scheme, colon) ← scan (peek tokenSpec)
  if colon ≠ 58 then raise .syntaxErr else findUriHandler table scheme parseParams

structure NameAddr where
  display : Bytes
  uri : Uri
  deriving DecidableEq

/-- The display name of `int_parse_name_addr`. -/
def intParseDisplay : Parse Bytes := do
  let c ← look curptr
  if c = 34 then
    let display ← scan (getQuote 34 34)
    pure (unquote display)
  else if c ≠ 60 then
    let (_, next) ← scan (peek displaySpec)
    if next = 60 then
      let display ← scan (getUntil (· = 60))
      pure (strtrim display)
    else pure []
  else pure []

def intParseNameAddr : Parse NameAddr := do
  let display ← intParseDisplay
  scanSkipWhitespace
  let c ← look curptr
  let hasBracket := c = 60
  if hasBracket then
    let _ ← scan getChar
    let uri ← intParseUri table true
    let close ← scan getChar
    if close ≠ 62 then raise .syntaxErr else pure ⟨display, uri⟩
  else if display ≠ [] then raise .syntaxErr
  else
    let uri ← intParseUri table true
    pure ⟨display, uri⟩

def intParseUriOrNameAddr (inFromToHdr : Bool) : Parse NameAddr := do
  scanSkipWhitespace
  let c ← look curptr
  if c = 34 ∨ c = 60 then intParseNameAddr table
  else
    let (scheme, next) ← scan (peek displaySpec)
    if next = 58 then
      let uri ← findUriHandler table scheme (!inFromToHdr)
      pure ⟨[], uri⟩
    else intParseNameAddr table

end Table

lemma Safe.setSkipWs (opt : SkipWs) : Safe left (setSkipWs opt) := Safe.change fun _ => le_refl _

lemma Safe.scanSkipWhitespace : Safe left scanSkipWhitespace :=
  Safe.change fun s => skipWhitespace_le s.skipWs s.rest

lemma Strict.parserGetAndUnescape (spec : UInt8 → Bool) : Strict left (parserGetAndUnescape spec) :=
  (Strict.get spec).bind fun _ => Safe.pure _

lemma Strict.intParseUriParam : Strict left intParseUriParam :=
  Strict.getChar.bind fun _ => (Strict.parseParamImp _ _).toSafe

lemma Strict.intParseHparam : Strict left intParseHparam := by
  refine Strict.getChar.bind fun _ => ?_
  refine (Strict.parserGetAndUnescape _).toSafe.bind fun hname => (Safe.look _).bind fun c => ?_
  refine Safe.ite ?_ (Safe.pure _)
  refine Strict.getChar.toSafe.bind fun _ => (Safe.look _).bind fun s => Safe.ite ?_ (Safe.pure _)
  exact (Strict.parserGetAndUnescape _).toSafe.bind fun _ => Safe.pure _

lemma Safe.intParseHost : Safe left intParseHost := by
  refine (Safe.look _).bind fun c => Safe.ite ?_ (Strict.get _).toSafe
  refine Strict.getChar.toSafe.bind fun _ => (Safe.getUntil _).bind fun host => ?_
  exact Strict.getChar.toSafe.bind fun _ => Safe.ite (Safe.raise _) (Safe.pure _)

lemma Safe.intParseUriHostPort : Safe left intParseUriHostPort := by
  refine Safe.intParseHost.bind fun host => (Safe.look _).bind fun c => Safe.ite ?_ (Safe.pure _)
  refine Strict.getChar.toSafe.bind fun _ => (Strict.get _).toSafe.bind fun port => ?_
  exact (Safe.strtoiValidate _ _ _).bind fun _ => Safe.pure _

lemma Safe.intIsNextUser : Safe left intIsNextUser := (Safe.peek _).bind fun _ => Safe.pure _

lemma Safe.intParseUserPass : Safe left intParseUserPass := by
  refine (Strict.parserGetAndUnescape _).toSafe.bind fun user => (Safe.look _).bind fun c => ?_
  refine (Safe.ite ?_ (Safe.pure _)).bind fun pass => Strict.getChar.toSafe.bind fun _ => Safe.pure _
  exact Strict.getChar.toSafe.bind fun _ => (Strict.parserGetAndUnescape _).toSafe

lemma Safe.sipUrlParam (url : SipUrl) (pname pvalue : Bytes) : Safe left (sipUrlParam url pname pvalue) := by
  unfold SipParser.sipUrlParam
  repeat' first | exact Safe.pure _ | refine Safe.ite ?_ ?_
  exact (Safe.strtoiValidate _ _ _).bind fun _ => Safe.pure _

lemma Safe.sipUrlParams (url : SipUrl) : Safe left (sipUrlParams url) :=
  Safe.loop (fun _ => Strict.intParseUriParam.bind fun _ => Safe.sipUrlParam _ _ _) url

lemma Safe.sipUrlHeaders (url : SipUrl) : Safe left (sipUrlHeaders url) := by
  refine Safe.forever (fun url => Strict.advances (Strict.intParseHparam.bind fun _ => ?_)) url
  exact (Safe.look _).bind fun _ => Safe.ite (Safe.pure _) (Safe.pure _)

lemma Safe.intParseSipUrl (parseParams : Bool) : Safe left (intParseSipUrl parseParams) := by
  refine (Safe.look _).bind fun s => (Safe.setSkipWs _).bind fun _ => ?_
  refine (Strict.get _).toSafe.bind fun scheme => Strict.getChar.toSafe.bind fun colon => ?_
  refine Safe.ite (Safe.raise _) ?_
  refine (Safe.ite (Safe.pure _) (Safe.ite (Safe.pure _) (Safe.raise _))).bind fun url => ?_
  refine Safe.intIsNextUser.bind fun isUser => ?_
  refine (Safe.ite Safe.intParseUserPass (Safe.pure _)).bind fun user => Safe.intParseUriHostPort.bind fun host => ?_
  refine (Safe.ite (Safe.sipUrlParams _) (Safe.pure _)).bind fun url => (Safe.look _).bind fun c => ?_
  refine (Safe.ite (Safe.sipUrlHeaders _) (Safe.pure _)).bind fun url => ?_
  exact (Safe.setSkipWs _).bind fun _ => Safe.scanSkipWhitespace.bind fun _ => Safe.pure _

lemma Strict.telUriParam (uri : TelUri) : Strict left (telUriParam uri) := by
  refine Strict.getChar.bind fun _ => (Strict.get _).toSafe.bind fun pname => (Safe.look _).bind fun c => ?_
  refine (Safe.ite ?_ (Safe.pure _)).bind fun pvalue => ?_
  · exact Strict.getChar.toSafe.bind fun _ => (Strict.get _).toSafe.bind fun _ => Safe.pure _
  · repeat' first | exact Safe.pure _ | refine Safe.ite ?_ ?_

lemma Safe.telUriParse (parseParams : Bool) : Safe left (telUriParse parseParams) := by
  refine (Safe.look _).bind fun s => (Safe.setSkipWs _).bind fun _ => ?_
  refine (Strict.get _).toSafe.bind fun token => Strict.getChar.toSafe.bind fun colon => ?_
  refine Safe.ite (Safe.raise _) (Safe.ite (Safe.raise _) ?_)
  refine (Strict.get _).toSafe.bind fun number => ?_
  refine (Safe.ite (Safe.loop Strict.telUriParam _) (Safe.pure _)).bind fun uri => ?_
  exact (Safe.setSkipWs _).bind fun _ => Safe.scanSkipWhitespace.bind fun _ => Safe.pure _

lemma Safe.intParseOtherUri (parseParams : Bool) : Safe left (intParseOtherUri parseParams) := by
  refine (Safe.look _).bind fun s => (Safe.setSkipWs _).bind fun _ => ?_
  refine (Strict.get _).toSafe.bind fun scheme => Strict.getChar.toSafe.bind fun colon => ?_
  refine Safe.ite (Safe.raise _) ((Strict.get _).toSafe.bind fun content => ?_)
  exact (Safe.setSkipWs _).bind fun _ => Safe.pure _

def UriTable (table : List (Bytes × UriFunc)) : Prop := ∀ h ∈ table, ∀ parseParams, Safe left (h.2 parseParams)

lemma UriTable.append {l l' : List (Bytes × UriFunc)} (h : UriTable l) (h' : UriTable l') : UriTable (l ++ l') := by
  intro f hf
  rcases List.mem_append.1 hf with hf | hf
  · exact h f hf
  · exact h' f hf

lemma uriTable_handlers : UriTable uriHandlers := by
  intro h hin parseParams
  simp only [uriHandlers, List.mem_cons, List.not_mem_nil, or_false] at hin
  rcases hin with rfl | rfl | rfl
  · exact Safe.intParseSipUrl parseParams
  · exact Safe.intParseSipUrl parseParams
  · exact Safe.telUriParse parseParams

section Table

variable {table : List (Bytes × UriFunc)} (htable : UriTable table)

include htable

lemma Safe.findUriHandler (scheme : Bytes) (parseParams : Bool) :
    Safe left (findUriHandler table scheme parseParams) := by
  unfold SipParser.findUriHandler
  cases hfind : table.find? fun h => stricmpEq h.1 scheme with
  | none => exact Safe.intParseOtherUri parseParams
  | some h => exact htable h (List.mem_of_find?_eq_some hfind) parseParams

lemma Safe.intParseUri (parseParams : Bool) : Safe left (intParseUri table parseParams) :=
  (Safe.peek _).bind fun _ => Safe.ite (Safe.raise _) (Safe.findUriHandler htable _ _)

omit htable in
lemma Safe.intParseDisplay : Safe left intParseDisplay := by
  refine (Safe.look _).bind fun c => Safe.ite ?_ (Safe.ite ?_ (Safe.pure _))
  · exact (Strict.getQuote _ _).toSafe.bind fun _ => Safe.pure _
  · refine (Safe.peek _).bind fun r => Safe.ite ?_ (Safe.pure _)
    exact (Safe.getUntil _).bind fun _ => Safe.pure _

lemma Safe.intParseNameAddr : Safe left (intParseNameAddr table) := by
  refine Safe.intParseDisplay.bind fun display => Safe.scanSkipWhitespace.bind fun _ => (Safe.look _).bind fun c => ?_
  refine Safe.ite ?_ (Safe.ite (Safe.raise _) ?_)
  · refine Strict.getChar.toSafe.bind fun _ => (Safe.intParseUri htable _).bind fun uri => ?_
    exact Strict.getChar.toSafe.bind fun _ => Safe.ite (Safe.raise _) (Safe.pure _)
  · exact (Safe.intParseUri htable _).bind fun _ => Safe.pure _

lemma Safe.intParseUriOrNameAddr (inFromToHdr : Bool) : Safe left (intParseUriOrNameAddr table inFromToHdr) := by
  refine Safe.scanSkipWhitespace.bind fun _ => (Safe.look _).bind fun c => ?_
  refine Safe.ite (Safe.intParseNameAddr htable) ((Safe.peek _).bind fun r => ?_)
  exact Safe.ite ((Safe.findUriHandler htable _ _).bind fun _ => Safe.pure _) (Safe.intParseNameAddr htable)

end Table

end PjProject.SipParser
