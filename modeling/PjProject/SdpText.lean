import PjProject.Sdp

/-!
# Printing and parsing session descriptions

`pjmedia_sdp_session` with all its fields, `pjmedia_sdp_parse` and `pjmedia_sdp_print`. The
scanner does not skip whitespace here. A printed line is the bytes it puts into the buffer;
lengths are taken to be below 2^31.
-/
namespace PjProject.SdpText

open Scanner
open Sdp (Attr csToken maxSdpAttr addAttr)

def maxSdpFmt : ℕ := 32

def maxSdpBandw : ℕ := 4

def maxSdpMedia : ℕ := 16

structure Origin where
  user : Bytes
  id : ℕ
  version : ℕ
  netType : Bytes
  addrType : Bytes
  addr : Bytes
  deriving DecidableEq

structure Conn where
  netType : Bytes
  addrType : Bytes
  addr : Bytes
  ttl : ℕ
  noAddr : ℕ
  deriving DecidableEq

structure Bandw where
  modifier : Bytes
  value : ℕ
  deriving DecidableEq

structure Media where
  media : Bytes
  port : ℕ
  portCount : ℕ
  transport : Bytes
  fmts : List Bytes
  conn : Option Conn
  bandw : List Bandw
  attrs : List Attr
  deriving DecidableEq

structure Session where
  origin : Origin
  name : Bytes
  conn : Option Conn
  bandw : List Bandw
  start : ℕ
  stop : ℕ
  attrs : List Attr
  media : List Media
  deriving DecidableEq

/-- A session as `PJ_POOL_ZALLOC_T` makes it. -/
def Session.empty : Session :=
  ⟨⟨[], 0, 0, [], [], []⟩, [], none, [], 0, 0, [], []⟩

/-- The error that a line parser leaves in `ctx->last_error`. -/
inductive SdpErr
  | einver | einorigin | eintime | einsdp | einconn | einbandw | einmedia | einattr
  deriving DecidableEq

/-- The scanner is at a byte that `p` holds of. -/
def atByte (p : UInt8 → Bool) : Scan Bool := fun sc => .ok (sc.rest.head?.any p, sc)

def checkEqual : Scan Unit := fun sc =>
  if sc.rest.drop 1 |>.head?.any (· = 61) then .ok ((), sc) else .error .syntaxErr

/-- A number that `pj_strtoul3` or `pj_strtoul4` accepts. -/
def number (str : Bytes) : Scan ℕ := fun sc =>
  match strtoul3 str with
  | .ok v => .ok (v, sc)
  | .error _ => .error .syntaxErr

def numberUpTo (max : ℕ) (str : Bytes) : Scan ℕ := do
  let v ← number str
  if v > max then throw .syntaxErr else pure v

def isBlank (c : UInt8) : Bool := c = 32

/-- `" \t\r\n"` -/
def isLineSpace (c : UInt8) : Bool := isSpace c || isNewline c

/-- `"/ \t\r\n"` -/
def isAddrEnd (c : UInt8) : Bool := c = 47 || isLineSpace c

def checkZero : Scan Unit := fun sc =>
  if sc.rest.drop 2 |>.head?.any (· = 48) then .ok ((), sc) else .error .syntaxErr

def parseVersion : Scan Unit := do
  checkEqual
  checkZero
  skipLine

def parseOrigin : Scan Origin := do
  checkEqual
  advance 2
  let user ← getUntil isBlank
  let _ ← getChar
  let id ← number (← getUntil isBlank)
  let _ ← getChar
  let version ← number (← getUntil isBlank)
  let _ ← getChar
  let netType ← getUntil isBlank
  let _ ← getChar
  let addrType ← getUntil isBlank
  let _ ← getChar
  let addr ← getUntil isLineSpace
  skipLine
  pure ⟨user, id, version, netType, addrType, addr⟩

def parseTime : Scan (ℕ × ℕ) := do
  checkEqual
  advance 2
  let start ← number (← getUntil isBlank)
  let _ ← getChar
  let stop ← number (← getUntil isLineSpace)
  skipLine
  pure (start, stop)

def parseGenericLine : Scan Bytes := do
  checkEqual
  advance 2
  let str ← getUntil isNewline
  getNewline
  pure str

/-- The multicast part of a connection line: the TTL, if two numbers are given, and the number
of addresses. -/
def parseMulticast : Scan (ℕ × ℕ) := do
  if ← atByte (· = 47) then
    let _ ← getChar
    let str ← getUntil isAddrEnd
    if ← atByte (· = 47) then
      let ttl ← numberUpTo 255 str
      let _ ← getChar
      let noAddr ← numberUpTo 255 (← getUntil isLineSpace)
      pure (ttl, noAddr)
    else
      let noAddr ← numberUpTo 255 str
      pure (0, noAddr)
  else pure (0, 0)

def parseConnectionInfo : Scan Conn := do
  advance 2
  let netType ← getUntil isBlank
  let _ ← getChar
  let addrType ← getUntil isBlank
  let _ ← getChar
  let addr ← getUntil isAddrEnd
  let (ttl, noAddr) ← parseMulticast
  skipLine
  pure ⟨netType, addrType, addr, ttl, noAddr⟩

def parseBandwidthInfo : Scan Bandw := do
  advance 2
  let modifier ← getUntil (· = 58)
  let _ ← getChar
  let value ← number (← getUntil isLineSpace)
  skipLine
  pure ⟨modifier, value % 2 ^ 32⟩

def blank : Scan Unit := do
  if (← getChar) ≠ 32 then throw .syntaxErr

def parseFmts : ℕ → List Bytes → Scan (List Bytes)
  | 0, fmts => pure fmts
  | k + 1, fmts => do
    if ← atByte isBlank then
      let _ ← getChar
      if (← get).rest = [] ∨ (← atByte isNewline) then pure fmts
      else
        let fmt ← Scanner.get csToken
        parseFmts k (if fmts.length < maxSdpFmt then fmts ++ [fmt] else fmts)
    else pure fmts

def parsePortCount : Scan ℕ := do
  if ← atByte (· = 47) then
    let _ ← getChar
    let n ← number (← Scanner.get csToken)
    pure (n % 2 ^ 32)
  else pure 0

def notEof : Scan Unit := do
  if (← get).rest = [] then throw .syntaxErr

def parseMedia : Scan Media := do
  checkEqual
  advance 2
  let media ← Scanner.get csToken
  blank
  let port ← numberUpTo 0xFFFF (← Scanner.get csToken)
  notEof
  let portCount ← parsePortCount
  blank
  let transport ← getUntil isLineSpace
  let fmts ← parseFmts (← get).rest.length []
  skipLine
  pure ⟨media, port, portCount, transport, fmts, none, [], []⟩

def skipColon : Scan Unit := do
  if ← atByte (· = 58) then
    let _ ← getChar
    pure ()
  else pure ()

def parseAttrValue : Scan Bytes := do
  if (← get).rest = [] ∨ (← atByte isNewline) then pure []
  else getUntil isNewline

def parseAttr : Scan Attr := do
  checkEqual
  advance 2
  let name ← Scanner.get csToken
  skipColon
  let value ← parseAttrValue
  skipLine
  pure ⟨name, value⟩

/-- Where the lines go that a session and a media description both have; a media description
that does not fit into the session still takes the lines that follow it. -/
inductive Target
  | session | media | ignored
  deriving DecidableEq

structure Parsing where
  session : Session
  target : Target
  deriving DecidableEq

def modifyLast {α : Type*} (f : α → α) : List α → List α
  | [] => []
  | [a] => [f a]
  | a :: b :: l => a :: modifyLast f (b :: l)

def addBandw (bandw : List Bandw) (b : Bandw) : List Bandw :=
  if bandw.length < maxSdpBandw then bandw ++ [b] else bandw

def Parsing.apply (p : Parsing) (onSession : Session → Session) (onMedia : Media → Media) : Parsing :=
  match p.target with
  | .session => { p with session := onSession p.session }
  | .media => { p with session := { p.session with media := modifyLast onMedia p.session.media } }
  | .ignored => p

def Parsing.addAttr (p : Parsing) (a : Attr) : Parsing :=
  p.apply (fun s => { s with attrs := Sdp.addAttr s.attrs a })
    fun m => { m with attrs := Sdp.addAttr m.attrs a }

def Parsing.addBandw (p : Parsing) (b : Bandw) : Parsing :=
  p.apply (fun s => { s with bandw := SdpText.addBandw s.bandw b })
    fun m => { m with bandw := SdpText.addBandw m.bandw b }

def Parsing.setConn (p : Parsing) (c : Conn) : Parsing :=
  p.apply (fun s => { s with conn := some c }) fun m => { m with conn := some c }

def Parsing.setOrigin (p : Parsing) (o : Origin) : Parsing :=
  { p with session := { p.session with origin := o } }

def Parsing.setName (p : Parsing) (name : Bytes) : Parsing :=
  { p with session := { p.session with name := name } }

def Parsing.setTime (p : Parsing) (time : ℕ × ℕ) : Parsing :=
  { p with session := { p.session with start := time.1, stop := time.2 } }

def Parsing.addMedia (p : Parsing) (m : Media) : Parsing :=
  if p.session.media.length < maxSdpMedia then
    ⟨{ p.session with media := p.session.media ++ [m] }, .media⟩
  else ⟨p.session, .ignored⟩

def line {α : Type} (e : SdpErr) (parser : Scan α) (use : α → Parsing) (text : Bytes) :
    Except SdpErr (Parsing × Bytes) :=
  match parser.run ⟨text, .off⟩ with
  | .ok (a, sc) => .ok (use a, sc.rest)
  | .error _ => .error e

/-- The cases of the switch in `pjmedia_sdp_parse`. -/
inductive LineKind
  | attr | origin | name | conn | time | media | version | empty | bandw | other | invalid
  deriving DecidableEq

def lineKind (c : UInt8) : LineKind :=
  if c = 97 then .attr
  else if c = 111 then .origin
  else if c = 115 then .name
  else if c = 99 then .conn
  else if c = 116 then .time
  else if c = 109 then .media
  else if c = 118 then .version
  else if isNewline c then .empty
  else if c = 98 then .bandw
  else if 97 ≤ c ∧ c ≤ 122 then .other
  else .invalid

/-- One round of the loop of `pjmedia_sdp_parse`. -/
def parseLine (p : Parsing) (text : Bytes) : Except SdpErr (Parsing × Bytes) :=
  match text with
  | [] => .ok (p, [])
  | c :: rest =>
    match lineKind c with
    | .attr => line .einattr parseAttr p.addAttr text
    | .origin => line .einorigin parseOrigin p.setOrigin text
    | .name => line .einsdp parseGenericLine p.setName text
    | .conn => line .einconn parseConnectionInfo p.setConn text
    | .time => line .eintime parseTime p.setTime text
    | .media => line .einmedia parseMedia p.addMedia text
    | .version => line .einver parseVersion (fun _ => p) text
    -- only newlines may follow an empty line
    | .empty => if rest.all isNewline then .ok (p, []) else .error .einsdp
    | .bandw => line .einbandw parseBandwidthInfo p.addBandw text
    | .other => line .einsdp parseGenericLine (fun _ => p) text
    | .invalid => .error .einsdp

/-- The loop of `pjmedia_sdp_parse`; every round reads a byte. -/
def parseLines : ℕ → Parsing → Bytes → Except SdpErr Session
  | 0, p, _ => .ok p.session
  | k + 1, p, text =>
    if text = [] then .ok p.session
    else
      match parseLine p text with
      | .ok (p', rest) => parseLines k p' rest
      | .error e => .error e

/-- A direction other than `sendrecv`. -/
def isDirAttr (a : Attr) : Bool :=
  a.name = lit "sendonly" || a.name = lit "recvonly" || a.name = lit "inactive"

/-- `apply_media_direction`: the direction of the session becomes that of the media that have
none. -/
def applyMediaDirection (s : Session) : Session :=
  match s.attrs.find? isDirAttr with
  | none => s
  | some dir =>
    { s with
      attrs := s.attrs.eraseP isDirAttr
      media := s.media.map fun m =>
        if m.attrs.any (fun a => a.name = lit "sendrecv" || isDirAttr a) then m
        else { m with attrs := addAttr m.attrs dir } }

/-- `pjmedia_sdp_parse` -/
def parse (buf : Bytes) : Except SdpErr Session :=
  let text := buf.dropWhile isNewline
  (parseLines text.length ⟨Session.empty, .session⟩ text).map applyMediaDirection

def crlf : Bytes := [13, 10]

/-- What `%.*s` prints of a string: it stops at a NUL. -/
def cstr (s : Bytes) : Bytes := s.takeWhile (· ≠ 0)

def connLine (c : Conn) : Bytes :=
  lit "c=" ++ (cstr c.netType ++ 32 :: (cstr c.addrType ++ 32 :: (cstr c.addr ++ crlf)))

/-- `print_connection_info` with `len` bytes of room. -/
def printConnectionInfo (c : Conn) (len : ℕ) : Option Bytes :=
  if (connLine c).length ≥ len then none else some (connLine c)

def bandwLine (b : Bandw) : Bytes := lit "b=" ++ (b.modifier ++ 58 :: (utoa b.value ++ crlf))

def printBandw (b : Bandw) (len : ℕ) : Option Bytes :=
  if len < b.modifier.length + 10 + 5 then none else some (bandwLine b)

def attrLine (a : Attr) : Bytes :=
  lit "a=" ++ (a.name ++ ((if a.value = [] then [] else 58 :: a.value) ++ crlf))

def printAttr (a : Attr) (len : ℕ) : Option Bytes :=
  if len < a.name.length + a.value.length + 10 then none else some (attrLine a)

def printEach {α : Type} (print : α → ℕ → Option Bytes) : List α → ℕ → Option Bytes
  | [], _ => some []
  | a :: l, len => do
    let out ← print a len
    let rest ← printEach print l (len - out.length)
    some (out ++ rest)

def printConn (c : Option Conn) (len : ℕ) : Option Bytes :=
  match c with
  | none => some []
  | some c => printConnectionInfo c len

def printFmt (fmt : Bytes) (len : ℕ) : Option Bytes :=
  if len > fmt.length then some (32 :: fmt) else none

def mediaHead (m : Media) : Bytes :=
  lit "m=" ++ (m.media ++ 32 :: (utoa m.port ++
    ((if m.portCount > 1 then 47 :: utoa m.portCount else []) ++ 32 :: m.transport)))

def need (n len : ℕ) : Option Unit := if len < n then none else some ()

def printMediaDesc (m : Media) (len : ℕ) : Option Bytes := do
  need (m.media.length + m.transport.length + 12 + 24) len
  let head := mediaHead m
  let len := len - head.length
  let fmts ← printEach printFmt m.fmts len
  let len := len - fmts.length
  need 2 len
  let len := len - 2
  let conn ← printConn m.conn len
  let len := len - conn.length
  let bandw ← printEach printBandw m.bandw len
  let len := len - bandw.length
  let attrs ← printEach printAttr m.attrs len
  some (head ++ (fmts ++ (crlf ++ (conn ++ (bandw ++ attrs)))))

def originLine (o : Origin) : Bytes :=
  lit "o=" ++ (o.user ++ 32 :: (utoa o.id ++ 32 :: (utoa o.version ++ 32 :: (o.netType ++
    32 :: (o.addrType ++ 32 :: (o.addr ++ crlf))))))

def timeLine (start stop : ℕ) : Bytes := lit "t=" ++ (utoa start ++ 32 :: (utoa stop ++ crlf))

def nameLine (name : Bytes) : Bytes := lit "s=" ++ (name ++ crlf)

/-- `pjmedia_sdp_print` into a buffer of `size` bytes. -/
def print (s : Session) (size : ℕ) : Option Bytes := do
  let o := s.origin
  need (5 + 2 + o.user.length + 20 + 20 + 3 + o.netType.length + o.addrType.length +
    o.addr.length + 2 + 2) size
  let head := lit "v=0" ++ (crlf ++ originLine o)
  let len := size - head.length
  need (8 + s.name.length) len
  let len := len - (nameLine s.name).length
  let conn ← printConn s.conn len
  let len := len - conn.length
  let bandw ← printEach printBandw s.bandw len
  let len := len - bandw.length
  need (2 + 20 + 1 + 20 + 2) len
  let len := len - (timeLine s.start s.stop).length
  let attrs ← printEach printAttr s.attrs len
  let len := len - attrs.length
  let media ← printEach printMediaDesc s.media len
  some (head ++ (nameLine s.name ++ (conn ++ (bandw ++
    (timeLine s.start s.stop ++ (attrs ++ media))))))

end PjProject.SdpText
