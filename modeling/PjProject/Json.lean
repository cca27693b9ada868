import Mathlib.Data.Int.Log
import PjProject.ScannerUnescape

/-!
# JSON documents

The tree of elements, the writer and the parser of `json.c`. The writer hands its output on in pieces. The
parser works with the scanner of the SIP parser; that a document is invalid is an exception here, which
every caller of the source hands on as well.
-/
namespace PjProject.Json

open Scanner FindMsg SipParser PjProject.Parser

/-- The value of an element that has no children. The numbers are of type `float`. -/
inductive Scalar
  | null
  | bool (isTrue : Bool)
  | number (num : ℚ)
  | string (str : Bytes)
  deriving DecidableEq

/-- `PJ_JSON_VAL_ARRAY` and `PJ_JSON_VAL_OBJ` -/
inductive Kind
  | array | obj
  deriving DecidableEq

/-- `pj_json_elem` -/
inductive Elem
  | scalar (name : Bytes) (value : Scalar)
  | compound (name : Bytes) (type : Kind) (children : List Elem)

def Elem.name : Elem → Bytes
  | .scalar name _ => name
  | .compound name _ _ => name

/-- The first of the two quotes of `write_children`. -/
def Kind.open : Kind → UInt8
  | .array => 91
  | .obj => 123

def Kind.close : Kind → UInt8
  | .array => 93
  | .obj => 125

def maxNesting : ℕ := 256

def roundEven (x : ℚ) : ℤ :=
  let n := ⌊x⌋
  if x - n < 1 / 2 ∨ (x - n = 1 / 2 ∧ n % 2 = 0) then n else n + 1

/-- The `float` nearest to a number, which has 24 bits and no bit below 2^-149. -/
def toFloat (x : ℚ) : ℚ :=
  let ulp : ℚ := 2 ^ max (Int.log 2 |x| - 23) (-149)
  roundEven (x / ulp) * ulp

def strtol (str : Bytes) : ℤ :=
  if str.head? = some 45 then -((min (strtoul str.tail) (maxLong + 1) : ℕ) : ℤ)
  else if str.head? = some 43 then (min (strtoul str.tail) maxLong : ℕ)
  else (min (strtoul str) maxLong : ℕ)

/-- `fdiv` after so many digits; there is none once it is infinite. -/
def fdiv : ℕ → Option ℚ
  | 0 => some 1
  | n + 1 => (fdiv n).bind fun x =>
    let y := toFloat (x * 10)
    if y < 2 ^ 128 then some y else none

def strtof (str : Bytes) : ℚ :=
  let part := str.takeWhile (· ≠ 46)
  let val := if part = [] then 0 else toFloat (strtol part)
  match str.dropWhile (· ≠ 46) with
  | [] | [_] => val
  | _ :: frac =>
    let fpart := toFloat (strtoul frac)
    let quot := (fdiv (frac.takeWhile isDigit).length).elim 0 fun div => toFloat (fpart / div)
    if 0 ≤ val then toFloat (val + quot) else toFloat (val - quot)

/-- `printf` with "%d" -/
def printInt (n : ℤ) : Bytes := if n < 0 then 45 :: utoa n.natAbs else utoa n.natAbs

/-- `printf` with "%f" -/
def printFixed (x : ℚ) : Bytes :=
  let n := (roundEven (|x| * 10 ^ 6)).toNat
  let frac := utoa (n % 10 ^ 6)
  (if x < 0 then [45] else []) ++ utoa (n / 10 ^ 6) ++ 46 :: (List.replicate (6 - frac.length) 48 ++ frac)

def valToHexDigit (value : UInt8) : Bytes :=
  let digits := lit "0123456789abcdef"
  [digits.getD (value.toNat / 16) 0, digits.getD (value.toNat % 16) 0]

/-- What `write_string_escaped` makes of a character. -/
def escape (c : UInt8) : Bytes :=
  if c = 34 then [92, 34]
  else if c = 92 then [92, 92]
  else if c = 47 then [92, 47]
  else if c = 8 then [92, 98]
  else if c = 12 then [92, 102]
  else if c = 10 then [92, 110]
  else if c = 13 then [92, 114]
  else if c = 9 then [92, 116]
  else if 32 ≤ c ∧ c < 127 then [c]
  else 92 :: 117 :: 48 :: 48 :: valToHexDigit c

def escBufLen : ℕ := 64

/-- `write_string_escaped`, from what the buffer holds. The buffer is written out where it has no room for two
characters, or for the escaped one, and at the end. -/
def writeStringEscaped (buf : Bytes) : Bytes → List Bytes
  | [] => if buf = [] then [] else [buf]
  | c :: value =>
    if escBufLen < buf.length + max 2 (escape c).length then buf :: writeStringEscaped (escape c) value
    else writeStringEscaped (buf ++ escape c) value

def nameMinLen : ℕ := 20

def indentSize : ℕ := 3

def maxIndent : ℕ := 100

def spaces (n : ℕ) : Bytes := List.replicate n 32

/-- The name of an element, as `elem_write` begins. -/
def writeName (indent : ℕ) (noName : Bool) (name : Bytes) : List Bytes :=
  if name = [] then []
  else spaces indent :: if noName then []
    else [34] :: (writeStringEscaped [] name ++ [34, 58, 32] ::
      if name.length < nameMinLen then [spaces (nameMinLen - name.length)] else [])

def writeScalar : Scalar → List Bytes
  | .null => [lit "null"]
  | .bool true => [lit "true"]
  | .bool false => [lit "false"]
  | .number num =>
    -- the number is compared with what it is as an `int`
    [if num.den = 1 ∧ -2 ^ 31 ≤ num ∧ num < 2 ^ 31 then printInt num.num else printFixed num]
  | .string str => [34] :: (writeStringEscaped [] str ++ [[34]])

/-- `st->indent` for the children, which is not to exceed the buffer. -/
def deepen (indent : ℕ) : ℕ := if indent + indentSize ≤ maxIndent then indent + indentSize else indent

mutual

def elemWrite (indent : ℕ) (noName : Bool) : Elem → List Bytes
  | .scalar name value => writeName indent noName name ++ writeScalar value
  | .compound name type children =>
    writeName indent noName name ++ [type.open] :: [32] :: (writeChildren indent type children ++ [[type.close]])

/-- `write_children` between the quotes. -/
def writeChildren (indent : ℕ) (type : Kind) : List Elem → List Bytes
  | [] => []
  | child :: children =>
    if child.name = [] then
      elemWrite indent (type = .array) child ++ writeRest indent (type = .array) [44, 32] [] children
    else
      [10] :: (elemWrite (deepen indent) (type = .array) child ++
        writeRest (deepen indent) (type = .array) [44, 10] [[10]] children ++ [spaces indent])

/-- The loops of `write_children` after a child: the separator before the next one, or the end. -/
def writeRest (indent : ℕ) (noName : Bool) (sep : Bytes) (last : List Bytes) : List Elem → List Bytes
  | [] => last
  | child :: children =>
    sep :: (elemWrite indent noName child ++ writeRest indent noName sep last children)

end

/-- `pj_json_writef`; `writer` may fail. -/
def jsonWritef {σ ε : Type} (writer : σ → Bytes → Except ε σ) (elem : Elem) (userData : σ) : Except ε σ :=
  (elemWrite 0 false elem).foldlM writer userData

/-- `buf_writer_data`, with what has been written before `pos` -/
structure BufWriterData where
  written : Bytes
  size : ℕ

/-- `PJ_ETOOBIG` -/
inductive WriteErr
  | etoobig
  deriving DecidableEq

def bufWriter (data : BufWriterData) (s : Bytes) : Except WriteErr BufWriterData :=
  if data.size ≤ s.length + 1 then .error .etoobig else .ok ⟨data.written ++ s, data.size - s.length⟩

/-- `pj_json_write`: what is in the buffer in front of the NUL. -/
def jsonWrite (elem : Elem) (size : ℕ) : Except WriteErr Bytes :=
  (jsonWritef bufWriter elem ⟨[], size⟩).map BufWriterData.written

/-- What `PJ_SCAN_AUTOSKIP_WS | PJ_SCAN_AUTOSKIP_NEWLINE` skips. -/
def isBlank (c : UInt8) : Bool := isSpace c || isNewline c

/-- `pj_scan_skip_whitespace` with these options. -/
def skipBlank (rest : Bytes) : Bytes := rest.dropWhile isBlank

/-- An operation of the scanner of `json.c`: the blanks behind what is read are skipped, which is left to this
rather than to the options of the scanner. -/
def token {α : Type} (m : Scan α) : Parse α := do
  let a ← scan m
  change fun s => { s with rest := skipBlank s.rest }
  pure a

/-- NULL or `PJLIB_UTIL_EINJSON`, which go up to `pj_json_parse`. -/
def invalid {α : Type} : Parse α := raise .einval

/-- The loop of `parse_quoted_string`: the text, or the index of the invalid character. -/
def unescape (i : ℕ) : Bytes → Except ℕ Bytes
  | [] => .ok []
  | 92 :: 117 :: s =>
    match s with
    | _ :: _ :: a :: b :: s => (hexByte a b :: ·) <$> unescape (i + 6) s
    | _ => .error (i + 1 + s.length)
  | [92] => .error (i + 1)
  | 92 :: c :: s =>
    if c = 34 ∨ c = 92 ∨ c = 47 then (c :: ·) <$> unescape (i + 2) s
    else if c = 98 then (8 :: ·) <$> unescape (i + 2) s
    else if c = 102 then (12 :: ·) <$> unescape (i + 2) s
    else if c = 110 then (10 :: ·) <$> unescape (i + 2) s
    else if c = 114 then (13 :: ·) <$> unescape (i + 2) s
    else if c = 116 then (9 :: ·) <$> unescape (i + 2) s
    else .error (i + 1)
  | c :: s => (c :: ·) <$> unescape (i + 1) s

/-- The text between the quotes; `start` is where the first one is. -/
def quotedText (start : State) (text : Bytes) : Parse Bytes :=
  if !text.contains 92 then pure text
  else
    match unescape 0 text with
    | .ok output => pure output
    | .error err => do
      change fun s => { s with rest := start.rest.drop err }
      invalid

/-- `parse_quoted_string`, with what its caller does on an error. -/
def parseQuotedString : Parse Bytes := do
  let start ← look id
  let text ← token (getQuote 34 34)
  quotedText start (unquote text)

/-- `st->float_spec` -/
def floatSpec (c : UInt8) : Bool := (lit ".0123456789").contains c

/-- `pj_scan_strcmp(scanner, s, len) == 0` for a text of that length. -/
def strcmp (s : Bytes) : Scan Bool := fun sc =>
  if sc.rest.length < s.length then .error .syntaxErr else .ok (sc.rest.take s.length = s, sc)

def nameOrValue (text : Bytes) : Parse (Bytes × Bytes) := do
  let c ← look curptr
  if c = 58 then
    let _ ← token getChar
    pure (text, [])
  else pure ([], text)

/-- The name of `parse_elem_throw`, or the value that has none. -/
def parseName : Parse (Bytes × Bytes) := do
  let c ← look curptr
  if c = 34 then
    let _ ← token getChar
    let text ← token (getUntil (· = 34))
    let _ ← token getChar
    nameOrValue text
  else pure ([], [])

def parseNumber : Parse ℚ := do
  let c ← look curptr
  if c = 45 then
    let _ ← token getChar
    let text ← token (get floatSpec)
    pure (-strtof text)
  else
    let text ← token (get floatSpec)
    pure (strtof text)

def parseConstant : Parse Scalar := do
  let same ← scan (strcmp (lit "false"))
  if same then
    token (advance 5)
    pure (.bool false)
  else
    let same ← scan (strcmp (lit "true"))
    if same then
      token (advance 4)
      pure (.bool true)
    else
      let same ← scan (strcmp (lit "null"))
      if same then
        token (advance 4)
        pure .null
      else invalid

/-- The value of `parse_elem_throw` behind the name. -/
def parseValue (children : Kind → Parse (List Elem)) (name : Bytes) : Parse Elem := do
  let c ← look curptr
  if floatSpec c ∨ c = 45 then
    let num ← parseNumber
    pure (.scalar name (.number num))
  else if c = 34 then
    let str ← parseQuotedString
    pure (.scalar name (.string str))
  else if isAlpha c then
    let value ← parseConstant
    pure (.scalar name value)
  else if c = 91 then
    let list ← children .array
    pure (.compound name .array list)
  else if c = 123 then
    let list ← children .obj
    pure (.compound name .obj list)
  else invalid

def parseBehind (children : Kind → Parse (List Elem)) (x : Bytes × Bytes) : Parse Elem :=
  if x.2 ≠ [] then pure (.scalar x.1 (.string x.2)) else parseValue children x.1

/-- `parse_elem_throw`, with the parser of the children -/
def parseElemWith (children : Kind → Parse (List Elem)) : Parse Elem := do
  let x ← parseName
  parseBehind children x

def skipCommas : Parse Unit :=
  loop left (fun _ s => curptr s = 44) (fun _ => do
    let _ ← token getChar
    pure ()) ()

/-- A round of the loop of `parse_children`: the children with the next one, or the children at the end. -/
def childRound (child : Parse Elem) (endQuote : UInt8) (list : List Elem) : Parse (List Elem ⊕ List Elem) := do
  let c ← look curptr
  if c = endQuote then pure (.inr list)
  else
    skipCommas
    let c ← look curptr
    if c = endQuote then pure (.inr list)
    else
      let elem ← child
      pure (.inl (list ++ [elem]))

def parseChildren (child : Parse Elem) (type : Kind) : Parse (List Elem) := do
  let _ ← token getChar
  let list ← forever left (childRound child type.close) []
  let _ ← token getChar
  pure list

/-- `parse_elem_throw`, with so many levels left of `PJ_JSON_MAX_NESTING` -/
def parseElem : ℕ → Parse Elem
  | 0 => parseElemWith fun _ => invalid
  | levels + 1 => parseElemWith (parseChildren (parseElem levels))

/-- `pj_json_parse`: the root, or none for NULL, and the number of bytes that are left. -/
def jsonParse (buffer : Bytes) : Option Elem × ℕ :=
  if buffer = [] then (none, 0)
  else
    match (parseElem maxNesting).run ⟨skipBlank buffer, .off⟩ with
    | (.ok root, s) => (some root, left s)
    | (_, s) => (none, left s)

lemma skipBlank_le (rest : Bytes) : (skipBlank rest).length ≤ rest.length := (List.dropWhile_suffix _).length_le

lemma Safe.skip : Safe left (change fun s => { s with rest := skipBlank s.rest } : Parse Unit) :=
  Safe.change fun s => skipBlank_le s.rest

lemma Strict.token {α : Type} {m : Scan α} (h : Strict left (scan m)) : Strict left (token m) :=
  h.bind fun _ => Safe.skip.bind fun _ => Safe.pure _

lemma Safe.token {α : Type} {m : Scan α} (h : Safe left (scan m)) : Safe left (token m) :=
  h.bind fun _ => Safe.skip.bind fun _ => Safe.pure _

lemma Strict.tokenChar : Strict left (Json.token getChar) := Strict.token Strict.getChar

lemma Strict.advance {n : ℕ} (hn : 0 < n) : Strict left (scan (Scanner.advance n)) := by
  refine Strict.scan fun s a s' h => ?_
  unfold Scanner.advance at h
  split_ifs at h with hlen
  obtain ⟨-, rfl⟩ := Prod.mk.inj (Except.ok.inj h)
  simp only [left, List.length_drop]
  omega

lemma Safe.strcmp (s : Bytes) : Safe left (scan (strcmp s)) := by
  refine Safe.scan fun sc a sc' h => ?_
  unfold Json.strcmp at h
  split_ifs at h
  obtain ⟨-, rfl⟩ := Prod.mk.inj (Except.ok.inj h)
  exact le_rfl

lemma Safe.nameOrValue (text : Bytes) : Safe left (nameOrValue text) :=
  (Safe.look _).bind fun _ => Safe.ite (Strict.tokenChar.toSafe.bind fun _ => Safe.pure _) (Safe.pure _)

lemma Safe.parseName : Safe left parseName := by
  refine (Safe.look _).bind fun c => Safe.ite ?_ (Safe.pure _)
  refine Strict.tokenChar.toSafe.bind fun _ => (Safe.token (Safe.getUntil _)).bind fun text => ?_
  exact Strict.tokenChar.toSafe.bind fun _ => Safe.nameOrValue text

lemma parseName_lt {s t : State} {name value : Bytes} (h : parseName.run s = (.ok (name, value), t))
    (hvalue : value ≠ []) : left t < left s := by
  rw [parseName, look_bind] at h
  split_ifs at h
  · have hstrict : Strict left (do
        let _ ← token getChar
        let text ← token (getUntil (· = 34))
        let _ ← token getChar
        nameOrValue text : Parse (Bytes × Bytes)) := by
      refine Strict.tokenChar.bind fun _ => (Safe.token (Safe.getUntil _)).bind fun text => ?_
      exact Strict.tokenChar.toSafe.bind fun _ => Safe.nameOrValue text
    have hlt := hstrict.lt s (name, value) (by rw [h])
    rwa [h] at hlt
  · cases h
    exact absurd rfl hvalue

lemma Strict.parseNumber : Strict left parseNumber := by
  refine (Safe.look _).bindStrict fun c => Strict.ite ?_ ?_
  · exact Strict.tokenChar.bind fun _ => (Strict.token (Strict.get _)).toSafe.bind fun _ => Safe.pure _
  · exact (Strict.token (Strict.get _)).bind fun _ => Safe.pure _

lemma Strict.parseConstant : Strict left parseConstant := by
  refine (Safe.strcmp _).bindStrict fun same => Strict.ite ?_ ?_
  · exact (Strict.token (Strict.advance (by decide))).bind fun _ => Safe.pure _
  refine (Safe.strcmp _).bindStrict fun same => Strict.ite ?_ ?_
  · exact (Strict.token (Strict.advance (by decide))).bind fun _ => Safe.pure _
  refine (Safe.strcmp _).bindStrict fun same => Strict.ite ?_ (Strict.raise _)
  exact (Strict.token (Strict.advance (by decide))).bind fun _ => Safe.pure _

lemma quotedText_run (start s : State) (text : Bytes) :
    (∃ str, (quotedText start text).run s = (.ok str, s)) ∨
      ∃ i, (quotedText start text).run s = (.throw .einval, { s with rest := start.rest.drop i }) := by
  unfold quotedText
  split_ifs
  · exact .inl ⟨text, rfl⟩
  · cases unescape 0 text with
    | ok output => exact .inl ⟨output, rfl⟩
    | error i => exact .inr ⟨i, rfl⟩

lemma Strict.parseQuotedString : Strict left parseQuotedString := by
  have hquote : Strict left (Json.token (getQuote 34 34)) := Strict.token (Strict.getQuote 34 34)
  -- what the text is taken for reads nothing more
  have hrun : ∀ s, (∃ e t, Json.parseQuotedString.run s = (.throw e, t) ∧ left t ≤ left s) ∨
      ∃ str t, Json.parseQuotedString.run s = (.ok str, t) ∧ left t < left s := by
    intro s
    rw [Json.parseQuotedString, look_bind]
    have hend := hquote.ends s
    have hle := hquote.le s
    have hlt := hquote.lt s
    cases h : (Json.token (getQuote 34 34)).run s with
    | mk o t =>
      rw [h] at hend hle hlt
      cases o with
      | ok text =>
        rw [bind_ok h]
        rcases quotedText_run s t (unquote text) with ⟨str, hstr⟩ | ⟨i, hi⟩
        · exact .inr ⟨str, t, hstr, hlt text rfl⟩
        · exact .inl ⟨_, _, hi, (List.drop_suffix i s.rest).length_le⟩
      | throw e => exact .inl ⟨e, t, bind_throw h, hle⟩
      | hang => exact absurd rfl hend
  refine ⟨⟨fun s => ?_, fun s => ?_⟩, fun s str hok => ?_⟩
  · rcases hrun s with ⟨e, t, h, -⟩ | ⟨str, t, h, -⟩
    · rw [h]
      simp
    · rw [h]
      simp
  · rcases hrun s with ⟨e, t, h, hle⟩ | ⟨str, t, h, hlt⟩
    · rw [h]
      exact hle
    · rw [h]
      exact hlt.le
  · rcases hrun s with ⟨e, t, h, -⟩ | ⟨str, t, h, hlt⟩
    · rw [h] at hok
      cases hok
    · rw [h]
      exact hlt

section Children

variable {children : Kind → Parse (List Elem)} {child : Parse Elem}

lemma Strict.parseValue (hchildren : ∀ type, Strict left (children type)) (name : Bytes) :
    Strict left (parseValue children name) := by
  refine (Safe.look _).bindStrict fun c => ?_
  refine Strict.ite (Strict.parseNumber.bind fun _ => Safe.pure _) ?_
  refine Strict.ite (Strict.parseQuotedString.bind fun _ => Safe.pure _) ?_
  refine Strict.ite (Strict.parseConstant.bind fun _ => Safe.pure _) ?_
  refine Strict.ite ((hchildren _).bind fun _ => Safe.pure _) ?_
  exact Strict.ite ((hchildren _).bind fun _ => Safe.pure _) (Strict.raise _)

lemma Strict.parseElemWith (hchildren : ∀ type, Strict left (children type)) :
    Strict left (parseElemWith children) := by
  have hrest : ∀ x, Safe left (parseBehind children x) :=
    fun x => Safe.ite (Safe.pure _) (Strict.parseValue hchildren _).toSafe
  refine ⟨Safe.parseName.bind hrest, fun s elem hok => ?_⟩
  obtain ⟨⟨name, value⟩, t, hname, hvalue⟩ := bind_eq_ok (Prod.ext hok rfl)
  have hle := Safe.parseName.le s
  rw [hname] at hle
  rw [Json.parseElemWith, bind_ok hname]
  have hle' := (hrest (name, value)).le t
  by_cases hv : value = []
  · subst hv
    have hvalue : (Json.parseValue children name).run t = (.ok elem, _) := hvalue
    have hlt := (Strict.parseValue hchildren name).lt t elem (by rw [hvalue])
    exact hlt.trans_le hle
  · exact hle'.trans_lt (parseName_lt hname hv)

lemma Safe.skipCommas : Safe left skipCommas :=
  Safe.loop (fun _ => Strict.tokenChar.bind fun _ => Safe.pure _) _

lemma Advances.childRound (hchild : Strict left child) (endQuote : UInt8) (list : List Elem) :
    Advances left (childRound child endQuote list) := by
  refine (Safe.look _).bindAdvances fun c => Advances.ite (Advances.leave _) ?_
  refine Safe.skipCommas.bindAdvances fun _ => ?_
  refine (Safe.look _).bindAdvances fun c => Advances.ite (Advances.leave _) ?_
  exact (hchild.bind fun _ => Safe.pure _).advances

lemma Strict.parseChildren (hchild : Strict left child) (type : Kind) :
    Strict left (parseChildren child type) := by
  refine Strict.tokenChar.bind fun _ => ?_
  refine (Safe.forever (Advances.childRound hchild _) _).bind fun list => ?_
  exact Strict.tokenChar.toSafe.bind fun _ => Safe.pure _

end Children

lemma Strict.parseElem (levels : ℕ) : Strict left (parseElem levels) := by
  induction levels with
  | zero => exact Strict.parseElemWith fun _ => Strict.raise _
  | succ levels ih => exact Strict.parseElemWith (Strict.parseChildren ih)

end PjProject.Json
