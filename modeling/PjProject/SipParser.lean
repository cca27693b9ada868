import PjProject.ParserMonad
import PjProject.FindMsg

/-!
# Parameters and values of SIP headers

The parts of `sip_parser.c` that several headers share: the character classes, parameters,
the end of a header, the generic string and integer headers, and the parameters of a Contact
header. The parsers throw as in the source, and the scanner stays where the exception was
thrown.
-/
namespace PjProject.SipParser

open Scanner FindMsg PjProject.Parser

abbrev Parse := Parser Scanner.State Exc

def left (s : State) : ℕ := s.rest.length

def scan {α : Type} (m : Scan α) : Parse α where
  run s :=
    match m s with
    | .ok (a, s) => (.ok a, s)
    | .error e => (.throw e, s)

/-- `*scanner->curptr`; the buffer ends with a NUL. -/
def curptr (s : State) : UInt8 := s.rest.headD 0

/-- `pj_scan_is_eof` -/
def isEof (s : State) : Bool := s.rest.isEmpty

def isAlpha (c : UInt8) : Bool := (65 ≤ c && c ≤ 90) || (97 ≤ c && c ≤ 122)

def isAlnum (c : UInt8) : Bool := isAlpha c || isDigit c

def tokenSpec (c : UInt8) : Bool := isAlnum c || (lit "-.!%*_`'~+").contains c

/-- `pjsip_NOT_NEWLINE`; a class that is inverted does not get the NUL. -/
def notNewline (c : UInt8) : Bool := c ≠ 0 && c ≠ 13 && c ≠ 10

/-- `parse_param_imp`; `unescape` is what becomes of the name and of a value that is not quoted. -/
def parseParamImp (spec : UInt8 → Bool) (unescape : Bytes → Bytes) : Parse (Bytes × Bytes) := do
  let pname ← scan (get spec)
  let c ← look curptr
  if c = 61 then
    let _ ← scan getChar
    let s ← look id
    if isEof s then pure (unescape pname, [])
    else if curptr s = 34 then
      let pvalue ← scan (getQuote 34 34)
      pure (unescape pname, pvalue)
    else if spec (curptr s) then
      let pvalue ← scan (get spec)
      pure (unescape pname, unescape pvalue)
    else pure (unescape pname, [])
  else pure (unescape pname, [])

/-- `pjsip_parse_param_imp` -/
def parseParam : Parse (Bytes × Bytes) := parseParamImp tokenSpec id

def intParseParam : Parse (Bytes × Bytes) := do
  let _ ← scan getChar
  parseParam

def parseHdrEnd : Parse Unit := do
  let s ← look id
  if isEof s then pure ()
  else if curptr s = 38 then
    let _ ← scan getChar
    pure ()
  else scan getNewline

/-- `pj_strtoul`; the value is an unsigned long. -/
def strtoul (str : Bytes) : ℕ :=
  (str.takeWhile isDigit).foldl (fun v c => (v * 10 + (c.toNat - 48)) % 2 ^ 64) 0

def toUint32 (v : ℕ) : ℕ := v % 2 ^ 32

def parseGenericIntHdr : Parse ℕ := do
  let tmp ← scan (get isDigit)
  parseHdrEnd
  pure (toUint32 (strtoul tmp))

def parseHdrExpires : Parse ℕ := parseGenericIntHdr

def parseHdrMinExpires : Parse ℕ := parseGenericIntHdr

def parseHdrMaxForwards : Parse ℕ := parseGenericIntHdr

/-- `pjsip_sess_expires_hdr` -/
structure SessExpires where
  sessExpires : ℕ
  refresher : Bytes
  otherParam : List (Bytes × Bytes)
  deriving DecidableEq

/-- `parse_hdr_se` of the session timers. -/
def parseHdrSe : Parse SessExpires := do
  let token ← scan (get isDigit)
  let hdr ← loop left (fun _ s => curptr s = 59) (fun hdr => do
    let (pname, pvalue) ← intParseParam
    if stricmpEq pname (lit "refresher") then pure { hdr with refresher := pvalue }
    else pure { hdr with otherParam := hdr.otherParam ++ [(pname, pvalue)] })
    ⟨toUint32 (strtoul token), [], []⟩
  parseHdrEnd
  pure hdr

/-- `pjsip_min_se_hdr` -/
structure MinSe where
  minSe : ℕ
  otherParam : List (Bytes × Bytes)
  deriving DecidableEq

def parseHdrMinSe : Parse MinSe := do
  let token ← scan (get isDigit)
  let hdr ← loop left (fun _ s => curptr s = 59) (fun hdr => do
    let param ← intParseParam
    pure { hdr with otherParam := hdr.otherParam ++ [param] })
    ⟨toUint32 (strtoul token), []⟩
  parseHdrEnd
  pure hdr

def signedChar (c : UInt8) : ℤ := if c < 128 then c.toNat else (c.toNat : ℤ) - 256

/-- `pj_strtoul_mindigit`, which takes every character for a digit. -/
def strtoulMindigit (str : Bytes) (mindig : ℕ) : ℤ :=
  let value := str.foldl (fun v c => (v * 10 + (signedChar c - 48)) % 2 ^ 64) 0
  (List.replicate (mindig - str.length) ()).foldl (fun v _ => (v * 10) % 2 ^ 64) value

def maxQ1000 : ℕ := (2 ^ 31 - 1) / 1000

def contactQ (pvalue : Bytes) : Parse ℤ := do
  let whole := pvalue.takeWhile (· ≠ 46)
  match pvalue.dropWhile (· ≠ 46) with
  | [] =>
    let q ← scan (strtoiValidate pvalue 0 maxQ1000)
    pure (q * 1000)
  | _ :: frac =>
    let q ← scan (strtoiValidate whole 0 maxQ1000)
    let qvalFrac := strtoulMindigit (frac.take 3) 3
    -- Both sides of the comparison are unsigned.
    if ((2 ^ 31 - 1) - qvalFrac) % 2 ^ 64 < (q * 1000 : ℤ) then raise .syntaxErr
    else pure (Int.bmod (q * 1000 + qvalFrac) (2 ^ 32))

def expiresNotSpecified : ℕ := 2 ^ 32 - 1

def contactExpires (pvalue : Bytes) : ℕ :=
  let expires := toUint32 (strtoul pvalue)
  if expires = expiresNotSpecified then expires - 1 else expires

/-- The parameters of `pjsip_contact_hdr`. -/
structure ContactParams where
  q1000 : ℤ
  expires : ℕ
  otherParam : List (Bytes × Bytes)
  deriving DecidableEq

def ContactParams.init : ContactParams := ⟨0, expiresNotSpecified, []⟩

/-- One round of `int_parse_contact_param`. -/
def contactParam (hdr : ContactParams) (pname pvalue : Bytes) : Parse ContactParams :=
  if stricmpEq pname (lit "q") ∧ pvalue ≠ [] then do
    let q1000 ← contactQ pvalue
    pure { hdr with q1000 := q1000 }
  else if stricmpEq pname (lit "expires") ∧ pvalue ≠ [] then
    pure { hdr with expires := contactExpires pvalue }
  else pure { hdr with otherParam := hdr.otherParam ++ [(pname, pvalue)] }

def intParseContactParam (hdr : ContactParams) : Parse ContactParams :=
  loop left (fun _ s => curptr s = 59) (fun hdr => do
    let (pname, pvalue) ← intParseParam
    contactParam hdr pname pvalue) hdr

/-- `parse_generic_string_hdr`: the value of the header. -/
def parseGenericStringHdr : Parse Bytes := do
  -- The flag is false once the loop was left by its `break`.
  let (hvalue, _) ← loop left (fun (_, go) s => go && notNewline (curptr s)) (fun _ => do
    let hvalue ← scan (get notNewline)
    let s ← look id
    if isEof s ∨ isNewline (curptr s) then pure (hvalue, false)
    else
      let next ← scan (get notNewline)
      pure (hvalue ++ 32 :: next, true))
    ([], true)
  parseHdrEnd
  pure hvalue

end PjProject.SipParser
