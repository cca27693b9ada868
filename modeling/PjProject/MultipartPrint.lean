import PjProject.SipHdrParser

/-!
# Printing multipart bodies

`multipart_print_body` with the sizes that it passes on. What is in the buffer so far is a list of
bytes, `p` is its length. A write behind the buffer, a size above the space left and a pointer in
front of the buffer are faults of the model; `failed` is a result of -1.
-/
namespace PjProject.Multipart

open SipParser

inductive Stop
  | overrun | oversize | underrun | failed
deriving DecidableEq

structure Printer where
  text : Bytes
  accepts : ℕ → Bool
  fits : ∀ n, accepts n = true → text.length ≤ n
  isInt : text.length < 2 ^ 31

def Printer.print (printer : Printer) (size : ℕ) : Option Bytes :=
  if printer.accepts size then some printer.text else none

def hexDigit (n : ℕ) : UInt8 := ((lit "0123456789abcdef")[n]?).getD 48

/-- The loop of `pj_strncpy2_escape` for `pjsip_TOKEN_SPEC`. -/
def escapeLoop : ℕ → Bytes → Option Bytes
  | _, [] => some []
  | 0, _ :: _ => none
  | left + 1, c :: src =>
    if tokenSpec c then (c :: ·) <$> escapeLoop left src
    else if left < 2 then none
    else ([37, hexDigit (c.toNat / 16), hexDigit (c.toNat % 16)] ++ ·) <$> escapeLoop (left - 2) src

def strncpy2Escape (max : ℕ) (src : Bytes) : Option Bytes :=
  if max < src.length then none else escapeLoop max src

/-- `copy_advance_check` -/
def copyAdvance (left : ℕ) (str : Bytes) : Option Bytes := if str.length ≥ left then none else some str

def printValue (left : ℕ) (value : Bytes) : Option Bytes :=
  if value.length = 0 then some []
  else if 1 ≥ left then none
  else (61 :: ·) <$> (if value.head? = some 34 then copyAdvance (left - 1) value
    else strncpy2Escape (left - 1) value)

/-- The loop of `pjsip_param_print_on` with the separator of a media type. -/
def printParams : ℕ → List SipUri.Param → Option Bytes
  | _, [] => some []
  | left, param :: params =>
    if 1 ≥ left then none
    else do
      let name ← strncpy2Escape (left - 1) param.name
      let left := left - 1 - name.length
      let value ← printValue left param.value
      let rest ← printParams (left - value.length) params
      some (59 :: (name ++ (value ++ rest)))

def mediaTypePrint (len : ℕ) (media : MediaType) : Option Bytes :=
  if len ≤ media.type.length then none
  else if len - media.type.length - 1 < media.subtype.length then none
  else do
    let params ← printParams (len - media.type.length - 1 - media.subtype.length) media.param
    some (media.type ++ 47 :: (media.subtype ++ params))

structure PartHdr where
  printer : Printer
  isCtype : Bool

structure PartBody where
  contentType : MediaType
  printer : Printer

/-- `pjsip_multipart_part` -/
structure PrintPart where
  hdrs : List PartHdr
  body : Option PartBody

structure MultipartData where
  boundary : Bytes
  parts : List PrintPart

def crlf : Bytes := [13, 10]

/-- `CLEN_SPACE`, the digits of `PJSIP_MAX_PKT_LEN` -/
def clenSpace : ℕ := 4

/-- A copy to `p`. -/
def put (size : ℕ) (out text : Bytes) : Except Stop Bytes :=
  if out.length + text.length ≤ size then .ok (out ++ text) else .error .overrun

/-- `SIZE_LEFT()` less a reserve, as the unsigned size of a print function. -/
def passSize (size : ℕ) (out : Bytes) (reserve : ℕ) : Except Stop ℕ :=
  if out.length + reserve ≤ size then .ok (size - out.length - reserve) else .error .oversize

def printText (printer : Printer) (size : ℕ) (out : Bytes) (left : ℕ) : Except Stop Bytes :=
  match printer.print left with
  | none => .error .failed
  | some text => put size out text

def printHdrs (size : ℕ) : List PartHdr → Bytes → Bool → Except Stop (Bytes × Bool)
  | [], out, ctypePrinted => .ok (out, ctypePrinted)
  | hdr :: hdrs, out, ctypePrinted => do
    let left ← passSize size out 2
    let out ← printText hdr.printer size out left
    let out ← put size out crlf
    printHdrs size hdrs out (ctypePrinted || hdr.isCtype)

def ctypeName (compact : Bool) : Bytes := if compact then lit "c: " else lit "Content-Type: "

/-- `p += pjsip_media_type_print(p, (unsigned)(end-p), media)`, with its result as an `int`. -/
def advanceMedia (size : ℕ) (out : Bytes) (media : MediaType) : Except Stop Bytes := do
  let left ← passSize size out 0
  let text := mediaTypePrint (left % 2 ^ 32) media
  let printed : ℤ := (text.map fun t => Int.bmod t.length (2 ^ 32)).getD (-1)
  if 0 ≤ printed then put size out (text.getD [])
  else if out.length < printed.natAbs then .error .underrun
  else .ok (out.take (out.length - printed.natAbs))

def printAuto (compact : Bool) (size : ℕ) (media : MediaType) (out : Bytes) : Except Stop (Bytes × ℕ) :=
  if size - out.length < 24 + media.type.length + media.subtype.length then .error .failed
  else do
    let out ← put size out (ctypeName compact)
    let out ← advanceMedia size out media
    let out ← put size out crlf
    if size - out.length < 16 + clenSpace + 4 then .error .failed
    else do
      let out ← put size out (lit "Content-Length: ")
      let clenPos := out.length
      let out ← put size out (List.replicate clenSpace 32)
      let out ← put size out crlf
      .ok (out, clenPos)

def patchLength (out : Bytes) (clenPos printed : ℕ) : Except Stop Bytes :=
  let digits := utoa printed
  if digits.length > clenSpace then .error .failed
  else
    let pos := clenPos + clenSpace - digits.length
    .ok (out.take pos ++ digits ++ out.drop (pos + digits.length))

def printBody (size : ℕ) (body : Option PartBody) (clenPos : Option ℕ) (out : Bytes) : Except Stop Bytes := do
  let out ← put size out crlf
  match body with
  | none => .ok out
  | some body =>
    let left ← passSize size out 0
    let out ← printText body.printer size out left
    match clenPos with
    | none => .ok out
    | some pos => patchLength out pos body.printer.text.length

def autoType (body : Option PartBody) (ctypePrinted : Bool) : Option MediaType :=
  body.bind fun body =>
    if body.contentType.type.length ≠ 0 ∧ ctypePrinted = false then some body.contentType else none

def printRest (compact : Bool) (size : ℕ) (body : Option PartBody) (ctypePrinted : Bool) (out : Bytes) :
    Except Stop Bytes :=
  match autoType body ctypePrinted with
  | none => printBody size body none out
  | some media => do
    let (out, clenPos) ← printAuto compact size media out
    printBody size body (some clenPos) out

def delimiter (boundary : Bytes) : Bytes := [13, 10, 45, 45] ++ boundary ++ [13, 10]

def closing (boundary : Bytes) : Bytes := [13, 10, 45, 45] ++ boundary ++ [45, 45, 13, 10]

def printPart (compact : Bool) (boundary : Bytes) (size : ℕ) (part : PrintPart) (out : Bytes) :
    Except Stop Bytes :=
  if size - out.length ≤ (boundary.length + 8) * 2 then .error .failed
  else do
    let out ← put size out (delimiter boundary)
    let (out, ctypePrinted) ← printHdrs size part.hdrs out false
    printRest compact size part.body ctypePrinted out

def printParts (compact : Bool) (boundary : Bytes) (size : ℕ) : List PrintPart → Bytes → Except Stop Bytes
  | [], out =>
    if size - out.length < boundary.length + 8 then .error .failed else put size out (closing boundary)
  | part :: parts, out => do
    let out ← printPart compact boundary size part out
    printParts compact boundary size parts out

/-- `multipart_print_body`: what is in the buffer at the end. -/
def multipartPrintBody (compact : Bool) (data : MultipartData) (size : ℕ) : Except Stop Bytes :=
  if data.parts.isEmpty then .error .failed else printParts compact data.boundary size data.parts []

/-- The `int` that is returned, when no fault comes before. -/
def returned : Except Stop Bytes → Option ℤ
  | .ok out => some (Int.bmod out.length (2 ^ 32))
  | .error .failed => some (-1)
  | .error _ => none

end PjProject.Multipart
