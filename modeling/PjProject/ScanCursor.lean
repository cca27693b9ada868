import PjProject.ScannerUnescape
import PjProject.Transition

/-!
# The scanner's cursor

`pj_scanner` with its pointers, as addresses. The loops of the code go on until they
come to `end` exactly, so a cursor behind it would run away: a read behind the NUL
that stands at `end`, a write outside the buffer and a loop that does not end are
faults of the model.
-/
namespace PjProject.ScanCursor

open PjProject.Scanner (isSpace isNewline isProbablySpace)
open SipParser (isXdigit hexByte)

inductive Fault
  | outside | endless
deriving DecidableEq

/-- `pj_scanner`: the bytes from `begin` up to `end`, and what is read of them. -/
structure Scanner where
  begin : ℕ
  text : Bytes
  curptr : ℕ
  line : ℕ
  startLine : ℕ
  skipWs : UInt32

namespace Scanner

/-- `scanner->end` -/
def fin (sc : Scanner) : ℕ := sc.begin + sc.text.length

/-- `*s`; the buffer is NUL-terminated. -/
def byteAt (sc : Scanner) (s : ℕ) : Except Fault UInt8 :=
  if sc.begin ≤ s ∧ s ≤ sc.fin then .ok (sc.text.getD (s - sc.begin) 0) else .error .outside

/-- `*dst = c` -/
def put (sc : Scanner) (dst : ℕ) (c : UInt8) : Except Fault Scanner :=
  if sc.begin ≤ dst ∧ dst < sc.fin then .ok { sc with text := sc.text.set (dst - sc.begin) c }
  else .error .outside

/-- `pj_memmove` -/
def move (sc : Scanner) (dst src n : ℕ) : Except Fault Scanner :=
  if sc.begin ≤ dst ∧ dst + n ≤ sc.fin ∧ sc.begin ≤ src ∧ src + n ≤ sc.fin then
    .ok { sc with
      text := sc.text.take (dst - sc.begin) ++ (sc.text.drop (src - sc.begin)).take n ++
        sc.text.drop (dst + n - sc.begin) }
  else .error .outside

/-- `while (PJ_SCAN_CHECK_EOF(s) && ..) ++s` -/
def whileLoop (sc : Scanner) (p : UInt8 → Bool) : ℕ → ℕ → Except Fault ℕ
  | 0, _ => .error .endless
  | n + 1, s =>
    if s = sc.fin then .ok s
    else do
      let c ← sc.byteAt s
      if p c then whileLoop sc p n (s + 1) else .ok s

/-- The loop, with enough rounds to come to `end`. -/
def skipWhile (sc : Scanner) (p : UInt8 → Bool) (s : ℕ) : Except Fault ℕ := sc.whileLoop p (sc.fin + 1 - s) s

/-- `PJ_SCAN_CHECK_EOF(s) && ..` -/
def holdsAt (sc : Scanner) (p : UInt8 → Bool) (s : ℕ) : Except Fault Bool :=
  if s = sc.fin then .ok false
  else do
    let c ← sc.byteAt s
    .ok (p c)

/-- A new line begins at `s`, and it is where the scanner is. -/
def newLine (sc : Scanner) (s : ℕ) : Scanner := { sc with line := sc.line + 1, curptr := s, startLine := s }

def newlineLoop : ℕ → Scanner → ℕ → Except Fault (Scanner × ℕ)
  | 0, _, _ => .error .endless
  | n + 1, sc, s =>
    if s = sc.fin then .ok (sc, s)
    else do
      let c ← sc.byteAt s
      if c = 13 then
        if s + 1 = sc.fin then .ok (sc, s + 1)
        else do
          let d ← sc.byteAt (s + 1)
          let s := if d = 10 then s + 2 else s + 1
          newlineLoop n (sc.newLine s) s
      else if c = 10 then newlineLoop n (sc.newLine (s + 1)) (s + 1)
      else if isSpace c then do
        let s ← sc.skipWhile isSpace (s + 1)
        newlineLoop n sc s
      else .ok (sc, s)

/-- The newlines at `s` are skipped where the option says so. -/
def skipNewlines (sc : Scanner) (s : ℕ) (newline : Bool) : Except Fault (Scanner × ℕ) :=
  if newline ∧ sc.skipWs &&& 4 ≠ 0 then newlineLoop (sc.fin + 1 - s) sc s else .ok (sc, s)

def foldHeader (sc : Scanner) (s : ℕ) : Except Fault Scanner := do
  let c ← sc.byteAt s
  let t := if c = 13 then s + 1 else s
  let feed ← sc.holdsAt (· = 10) t
  let t := if feed then t + 1 else t
  let sc := { sc with curptr := s, startLine := t }
  if ← sc.holdsAt isSpace t then do
    let u ← sc.skipWhile isSpace (t + 1)
    .ok { sc with line := sc.line + 1, curptr := u }
  else .ok sc

def skipWhitespace (sc : Scanner) : Except Fault Scanner := do
  let s ← sc.skipWhile isSpace sc.curptr
  let newline ← sc.holdsAt isNewline s
  let (sc, s) ← sc.skipNewlines s newline
  let newline ← sc.holdsAt isNewline s
  if newline ∧ sc.skipWs &&& 3 = 3 then sc.foldHeader s else .ok { sc with curptr := s }

def skipIf (sc : Scanner) (skip : Bool) : Except Fault Scanner :=
  if skip then sc.skipWhitespace else .ok sc

def settle (sc : Scanner) (skip : Bool) : Except Fault Scanner :=
  if sc.curptr ≥ sc.fin then .ok sc
  else do
    let c ← sc.byteAt sc.curptr
    sc.skipIf (isProbablySpace c && skip)

/-- `pj_scan_init`; `line` starts at 1. -/
def init (bufstart : ℕ) (buf : Bytes) (options : UInt32) : Except Fault Scanner :=
  let sc : Scanner := ⟨bufstart, buf, bufstart, 1, bufstart, options⟩
  if options ≠ 0 then sc.skipWhitespace else .ok sc

end Scanner

/-- `pj_str_t` in the buffer. -/
structure Token where
  ptr : ℕ
  slen : ℕ
deriving DecidableEq

/-- How an operation ends: it returns, with a token if it gives one, or it calls the syntax error callback
with the scanner where it was; the callback throws, or it returns and the operation returns at once. -/
inductive Ending
  | returned (out : Option Token)
  | syntaxErr
deriving DecidableEq

structure Cis where
  has : UInt8 → Bool
  noNul : has 0 = false

namespace Scanner

abbrev Result := Except Fault (Scanner × Ending)

/-- The token from the cursor up to `s`, which becomes the cursor. -/
def take (sc : Scanner) (s : ℕ) : Result := do
  let out : Token := ⟨sc.curptr, s - sc.curptr⟩
  let sc ← settle { sc with curptr := s } (sc.skipWs ≠ 0)
  .ok (sc, .returned (some out))

def skipLine (sc : Scanner) : Result :=
  if sc.curptr ≥ sc.fin then .ok (sc, .returned none)
  else do
    let s ← sc.skipWhile (· ≠ 10) sc.curptr
    if s = sc.fin then .ok ({ sc with curptr := sc.fin }, .returned none)
    else .ok (sc.newLine (s + 1), .returned none)

/-- `pj_scan_peek`, and `pj_scan_peek_until` with the complement of its class. -/
def peek (sc : Scanner) (p : UInt8 → Bool) : Result :=
  if sc.curptr ≥ sc.fin then .ok (sc, .syntaxErr)
  else do
    let s ← sc.skipWhile p sc.curptr
    let _ ← sc.byteAt s
    .ok (sc, .returned (some ⟨sc.curptr, s - sc.curptr⟩))

/-- `pj_scan_peek_n` -/
def peekN (sc : Scanner) (len : ℕ) : Result :=
  if sc.curptr + len > sc.fin then .ok (sc, .syntaxErr)
  else do
    let _ ← sc.byteAt (sc.curptr + len)
    .ok (sc, .returned (some ⟨sc.curptr, len⟩))

/-- `pj_scan_get` -/
def get (sc : Scanner) (spec : Cis) : Result :=
  if sc.curptr ≥ sc.fin then .ok (sc, .syntaxErr)
  else do
    let c ← sc.byteAt sc.curptr
    if !spec.has c then .ok (sc, .syntaxErr)
    else do
      let s ← sc.skipWhile spec.has (sc.curptr + 1)
      sc.take s

/-- The character of an escape at `s`, if two hex digits stand behind the '%'. -/
def hexAt (sc : Scanner) (s : ℕ) : Except Fault (Option UInt8) :=
  if s + 3 ≤ sc.fin then do
    let a ← sc.byteAt (s + 1)
    let b ← sc.byteAt (s + 2)
    .ok (if isXdigit a && isXdigit b then some (hexByte a b) else none)
  else .ok none

def copyPercent (sc : Scanner) (s dst : ℕ) : Except Fault (Scanner × ℕ × ℕ) := do
  let c ← sc.byteAt s
  let sc ← sc.put dst c
  if s + 1 = sc.fin then .ok (sc, s + 1, dst + 1)
  else do
    let d ← sc.byteAt (s + 1)
    let sc ← sc.put (dst + 1) d
    .ok (sc, s + 2, dst + 2)

def moveIf (sc : Scanner) (dst src n : ℕ) : Except Fault Scanner :=
  if dst ≠ src then sc.move dst src n else .ok sc

/-- A run of the class at `s` is moved to `dst`. -/
def copyRun (spec : UInt8 → Bool) (sc : Scanner) (s dst : ℕ) : Except Fault (Scanner × ℕ × ℕ) := do
  let c ← sc.byteAt s
  if spec c then do
    let t ← sc.skipWhile spec (s + 1)
    let sc ← sc.moveIf dst s (t - s)
    .ok (sc, t, dst + (t - s))
  else .ok (sc, s, dst)

/-- The loop of `pj_scan_get_unescape`, with `s` and `dst`. -/
def unescapeLoop (spec : UInt8 → Bool) : ℕ → Scanner → ℕ → ℕ → Except Fault (Scanner × ℕ × ℕ)
  | 0, _, _, _ => .error .endless
  | n + 1, sc, s, dst => do
    let c ← sc.byteAt s
    if c = 37 then do
      match ← sc.hexAt s with
      | none => sc.copyPercent s dst
      | some b => do
        let sc ← sc.put dst b
        let (sc, s, dst) ← copyRun spec sc (s + 3) (dst + 1)
        if ← sc.holdsAt (· = 37) s then unescapeLoop spec n sc s dst else .ok (sc, s, dst)
    else do
      let (sc, s, dst) ← copyRun spec sc s dst
      if ← sc.holdsAt (· = 37) s then unescapeLoop spec n sc s dst else .ok (sc, s, dst)

def getUnescape (sc : Scanner) (spec : Cis) : Result :=
  if sc.curptr ≥ sc.fin then .ok (sc, .syntaxErr)
  else do
    let c ← sc.byteAt sc.curptr
    if !spec.has c ∧ c ≠ 37 then .ok (sc, .syntaxErr)
    else do
      let ptr := sc.curptr
      let (sc, s, dst) ← unescapeLoop spec.has (sc.fin + 1 - ptr) sc ptr ptr
      let sc ← settle { sc with curptr := s } (sc.skipWs ≠ 0)
      .ok (sc, .returned (some ⟨ptr, dst - ptr⟩))

/-- How many backslashes stand in front of `r`, not going over the opening quote. -/
def backslashes (sc : Scanner) : ℕ → Except Fault ℕ
  | 0 => .ok 0
  | r + 1 =>
    if r + 1 > sc.curptr + 1 then do
      let c ← sc.byteAt r
      if c = 92 then do
        let n ← backslashes sc r
        .ok (n + 1)
      else .ok 0
    else .ok 0

def quoteLoop (sc : Scanner) (endQuote : UInt8) : ℕ → ℕ → Except Fault ℕ
  | 0, _ => .error .endless
  | n + 1, s => do
    let s ← sc.skipWhile (fun c => c ≠ 10 && c ≠ endQuote) s
    if ← sc.holdsAt (· = endQuote) s then do
      let nbackslash ← sc.backslashes s
      if nbackslash &&& 1 = 0 then .ok s else quoteLoop sc endQuote n (s + 1)
    else .ok s

/-- `pj_scan_get_quotes`, and `pj_scan_get_quote` with one pair of quotes. -/
def getQuotes (sc : Scanner) (quotes : List (UInt8 × UInt8)) : Result :=
  if sc.curptr ≥ sc.fin then .ok (sc, .syntaxErr)
  else do
    let c ← sc.byteAt sc.curptr
    match quotes.find? (·.1 = c) with
    | none => .ok (sc, .syntaxErr)
    | some (_, endQuote) => do
      let s ← sc.quoteLoop endQuote (sc.fin + 1 - sc.curptr) (sc.curptr + 1)
      if ← sc.holdsAt (· = endQuote) s then sc.take (s + 1) else .ok (sc, .syntaxErr)

/-- `pj_scan_get_n` -/
def getN (sc : Scanner) (n : ℕ) : Result :=
  if sc.curptr + n > sc.fin then .ok (sc, .syntaxErr) else sc.take (sc.curptr + n)

def getChar (sc : Scanner) : Result :=
  if sc.curptr ≥ sc.fin then .ok (sc, .syntaxErr)
  else do
    let c ← sc.byteAt sc.curptr
    if c = 0 then .ok (sc, .syntaxErr)
    else do
      let moved : Scanner := { sc with curptr := sc.curptr + 1 }
      let space ← sc.holdsAt isProbablySpace moved.curptr
      let sc ← moved.skipIf (space && sc.skipWs ≠ 0)
      .ok (sc, .returned none)

/-- A line feed at `s` is passed. -/
def eatFeed (sc : Scanner) (s : ℕ) : Except Fault ℕ :=
  if s ≥ sc.fin then .ok s
  else do
    let c ← sc.byteAt s
    .ok (if c = 10 then s + 1 else s)

def getNewline (sc : Scanner) : Result :=
  if sc.curptr ≥ sc.fin then .ok (sc, .syntaxErr)
  else do
    let c ← sc.byteAt sc.curptr
    if !isNewline c then .ok (sc, .syntaxErr)
    else do
      let s ← sc.eatFeed (if c = 13 then sc.curptr + 1 else sc.curptr)
      .ok (sc.newLine s, .returned none)

/-- `pj_scan_get_until`, `pj_scan_get_until_ch` and `pj_scan_get_until_chr`, which differ in how the bytes to
stop at are given. -/
def getUntil (sc : Scanner) (stop : UInt8 → Bool) : Result :=
  if sc.curptr ≥ sc.fin then .ok (sc, .syntaxErr)
  else do
    let s ← sc.skipWhile (!stop ·) sc.curptr
    sc.take s

def advanceN (sc : Scanner) (n : ℕ) (skipWs : Bool) : Result :=
  if sc.curptr + n > sc.fin then .ok (sc, .syntaxErr)
  else do
    let sc ← settle { sc with curptr := sc.curptr + n } skipWs
    .ok (sc, .returned none)

/-- `pj_scan_strcmp`, `pj_scan_stricmp` and `pj_scan_stricmp_alnum`, without the outcome of the comparison;
`len` is an `int`. -/
def strcmp (sc : Scanner) (len : ℤ) : Result :=
  if sc.curptr + len > sc.fin then .ok (sc, .syntaxErr) else .ok (sc, .returned none)

end Scanner

inductive Op
  | skipWhitespace
  | skipLine
  | peek (p : UInt8 → Bool)
  | peekN (len : ℕ)
  | get (spec : Cis)
  | getUnescape (spec : Cis)
  | getQuotes (quotes : List (UInt8 × UInt8))
  | getN (n : ℕ)
  | getChar
  | getNewline
  | getUntil (stop : UInt8 → Bool)
  | advanceN (n : ℕ) (skipWs : Bool)
  | strcmp (len : ℤ)

namespace Scanner

def perform (sc : Scanner) : Op → Result
  | .skipWhitespace => do
    let sc ← sc.skipWhitespace
    .ok (sc, .returned none)
  | .skipLine => sc.skipLine
  | .peek p => sc.peek p
  | .peekN len => sc.peekN len
  | .get spec => sc.get spec
  | .getUnescape spec => sc.getUnescape spec
  | .getQuotes quotes => sc.getQuotes quotes
  | .getN n => sc.getN n
  | .getChar => sc.getChar
  | .getNewline => sc.getNewline
  | .getUntil stop => sc.getUntil stop
  | .advanceN n skipWs => sc.advanceN n skipWs
  | .strcmp len => sc.strcmp len

def next (sc : Scanner) (op : Op) : Scanner :=
  match sc.perform op with
  | .ok (sc, _) => sc
  | .error _ => sc

end Scanner

end PjProject.ScanCursor
