import PjProject.PjString

/-!
# The text scanner

`pj_scanner` as the bytes that are left and the whitespace option. Line and column
numbers are left out; they only appear in error reports. A syntax error is an exception.
-/
namespace PjProject.Scanner

/-- The options of `pj_scan_init` that SIP parsing uses. -/
inductive SkipWs
  | off | ws | wsHeader
  deriving DecidableEq

inductive Exc
  | syntaxErr | einval
  deriving DecidableEq

structure State where
  rest : Bytes
  skipWs : SkipWs
  deriving DecidableEq

abbrev Scan := StateT State (Except Exc)

def isSpace (c : UInt8) : Bool := c = 32 || c = 9

def isNewline (c : UInt8) : Bool := c = 13 || c = 10

/-- `PJ_SCAN_IS_PROBABLY_SPACE`; the bytes are signed characters. -/
def isProbablySpace (c : UInt8) : Bool := c ≤ 32 || 128 ≤ c

/-- Drop the first byte if it is `c`. -/
def eat (c : UInt8) : Bytes → Bytes
  | [] => []
  | a :: s => if a = c then s else a :: s

/-- `pj_scan_skip_whitespace`; a line that begins with a space continues a header. -/
def skipWhitespace (opt : SkipWs) (rest : Bytes) : Bytes :=
  let s := rest.dropWhile isSpace
  if opt = .wsHeader ∧ s.head?.any isNewline then
    let t := eat 10 (eat 13 s)
    if t.head?.any isSpace then t.dropWhile isSpace else s
  else s

def settle (opt : SkipWs) (rest : Bytes) : Bytes :=
  if rest.head?.any isProbablySpace ∧ opt ≠ .off then skipWhitespace opt rest else rest

lemma settle_plain {opt : SkipWs} {s : Bytes} (h : ∀ c ∈ s.head?, isProbablySpace c = false) :
    settle opt s = s := by
  cases s with
  | nil => rfl
  | cons c s => simp [settle, h c rfl]

/-- `pj_scan_init` -/
def init (buf : Bytes) (opt : SkipWs) : State :=
  ⟨if opt = .off then buf else skipWhitespace opt buf, opt⟩

/-- `pj_scan_get` -/
def get (spec : UInt8 → Bool) : Scan Bytes := fun sc =>
  let out := sc.rest.takeWhile spec
  if out = [] then .error .syntaxErr
  else .ok (out, { sc with rest := settle sc.skipWs (sc.rest.dropWhile spec) })

def getChar : Scan UInt8 := fun sc =>
  match sc.rest with
  | [] => .error .syntaxErr
  | c :: s => if c = 0 then .error .syntaxErr
    else .ok (c, { sc with rest := settle sc.skipWs s })

def getNewline : Scan Unit := fun sc =>
  if sc.rest.head?.any isNewline then .ok ((), { sc with rest := eat 10 (eat 13 sc.rest) })
  else .error .syntaxErr

/-- `pj_scan_advance_n(scanner, n, PJ_TRUE)` -/
def advanceN (n : ℕ) : Scan Unit := fun sc =>
  if sc.rest.length < n then .error .syntaxErr
  else
    let s := sc.rest.drop n
    .ok ((), { sc with
      rest := if s.head?.any isProbablySpace then skipWhitespace sc.skipWs s else s })

/-- `pj_scan_advance_n(scanner, n, PJ_FALSE)` -/
def advance (n : ℕ) : Scan Unit := fun sc =>
  if sc.rest.length < n then .error .syntaxErr else .ok ((), { sc with rest := sc.rest.drop n })

/-- `pj_scan_get_until`, `pj_scan_get_until_ch` and `pj_scan_get_until_chr`, which differ in how
the bytes to stop at are given. -/
def getUntil (stop : UInt8 → Bool) : Scan Bytes := fun sc =>
  if sc.rest = [] then .error .syntaxErr
  else
    .ok (sc.rest.takeWhile (!stop ·),
      { sc with rest := settle sc.skipWs (sc.rest.dropWhile (!stop ·)) })

def skipLine : Scan Unit := fun sc =>
  .ok ((), { sc with rest := (sc.rest.dropWhile (· ≠ 10)).drop 1 })

/-- `pj_scan_peek`: the bytes and the byte behind them, which is NUL at the end. -/
def peek (spec : UInt8 → Bool) : Scan (Bytes × UInt8) := fun sc =>
  if sc.rest = [] then .error .syntaxErr
  else .ok ((sc.rest.takeWhile spec, (sc.rest.dropWhile spec).headD 0), sc)

/-- `pj_scan_get_n` -/
def getN (n : ℕ) : Scan Bytes := fun sc =>
  if sc.rest.length < n then .error .syntaxErr
  else .ok (sc.rest.take n, { sc with rest := settle sc.skipWs (sc.rest.drop n) })

/-- The end of a quoted text: the text with its end quote, and what follows. A quote behind an
odd number of backslashes does not count. -/
def closeQuote (endQuote : UInt8) : Bool → Bytes → Option (Bytes × Bytes)
  | _, [] => none
  | escaped, c :: s =>
    if c = endQuote ∧ escaped = false then some ([c], s)
    else if c = 10 ∧ c ≠ endQuote then none
    else (closeQuote endQuote (c = 92 ∧ escaped = false) s).map fun x => (c :: x.1, x.2)

def getQuote (beginQuote endQuote : UInt8) : Scan Bytes := fun sc =>
  match sc.rest with
  | [] => .error .syntaxErr
  | c :: s =>
    if c ≠ beginQuote then .error .syntaxErr
    else match closeQuote endQuote false s with
      | none => .error .syntaxErr
      | some (text, s) => .ok (c :: text, { sc with rest := settle sc.skipWs s })

end PjProject.Scanner
