import PjProject.MultipartPrint

/-!
# What a multipart body prints

The text of a multipart body, and where `multipart_print_body` prints it without a fault: before a
line of a header or an empty line there have to be two bytes, and behind an added Content-Type.
-/
namespace PjProject.Multipart

open SipParser

variable {compact : Bool} {boundary out : Bytes} {size : ℕ}

def escapeText (src : Bytes) : Bytes :=
  src.flatMap fun c => if tokenSpec c then [c] else [37, hexDigit (c.toNat / 16), hexDigit (c.toNat % 16)]

def valueText (value : Bytes) : Bytes :=
  if value.length = 0 then [] else 61 :: if value.head? = some 34 then value else escapeText value

def paramText (param : SipUri.Param) : Bytes := 59 :: (escapeText param.name ++ valueText param.value)

def mediaText (media : MediaType) : Bytes :=
  media.type ++ 47 :: (media.subtype ++ media.param.flatMap paramText)

def hdrLines (hdrs : List PartHdr) : Bytes := hdrs.flatMap fun hdr => hdr.printer.text ++ crlf

def clenField (n : ℕ) : Bytes := List.replicate (clenSpace - (utoa n).length) 32 ++ utoa n

def autoLines (compact : Bool) (media : MediaType) (n : ℕ) : Bytes :=
  ctypeName compact ++ (mediaText media ++ (crlf ++ (lit "Content-Length: " ++ (clenField n ++ crlf))))

def bodyText (body : Option PartBody) : Bytes := (body.map fun body => body.printer.text).getD []

def PrintPart.auto (part : PrintPart) : Option MediaType := autoType part.body (part.hdrs.any PartHdr.isCtype)

def restText (compact : Bool) (auto : Option MediaType) (body : Bytes) : Option Bytes :=
  match auto with
  | none => some (crlf ++ body)
  | some media =>
    if (utoa body.length).length ≤ clenSpace then
      some (autoLines compact media body.length ++ (crlf ++ body)) else none

def partText (compact : Bool) (boundary : Bytes) (part : PrintPart) : Option Bytes :=
  (restText compact part.auto (bodyText part.body)).map fun rest =>
    delimiter boundary ++ (hdrLines part.hdrs ++ rest)

def partsText (compact : Bool) (boundary : Bytes) : List PrintPart → Option Bytes
  | [] => some (closing boundary)
  | part :: parts => (partText compact boundary part).bind fun text =>
    (partsText compact boundary parts).map fun rest => text ++ rest

def completeText (compact : Bool) (data : MultipartData) : Option Bytes :=
  if data.parts.isEmpty then none else partsText compact data.boundary data.parts

/-- There are two bytes before every header; `next` is about the space behind them. -/
def HdrsClear (next : ℕ → Prop) : List PartHdr → ℕ → Prop
  | [], room => next room
  | hdr :: hdrs, room => 2 ≤ room ∧
    (hdr.printer.accepts (room - 2) = true → HdrsClear next hdrs (room - (hdr.printer.text.length + 2)))

def MediaClear (compact : Bool) (media : MediaType) (room : ℕ) : Prop :=
  ∃ text, mediaTypePrint ((room - (ctypeName compact).length) % 2 ^ 32) media = some text ∧
    text.length < 2 ^ 31 ∧ (ctypeName compact).length + text.length + 2 ≤ room

def BodyClear (next : ℕ → Prop) (body : Option PartBody) (room : ℕ) : Prop :=
  match body with
  | none => next room
  | some body => body.printer.accepts room = true → next (room - body.printer.text.length)

def autoSpace (compact : Bool) (media : MediaType) : ℕ :=
  (ctypeName compact).length + (mediaText media).length + 2 + (16 + clenSpace + 4)

def RestClear (compact : Bool) (part : PrintPart) (next : ℕ → Prop) (room : ℕ) : Prop :=
  match part.auto with
  | none => 2 ≤ room ∧ BodyClear next part.body (room - 2)
  | some media => 24 + media.type.length + media.subtype.length ≤ room →
    MediaClear compact media room ∧
      (autoSpace compact media ≤ room → (utoa (bodyText part.body).length).length ≤ clenSpace →
        BodyClear next part.body (room - autoSpace compact media))

def PartsClear (compact : Bool) (boundary : Bytes) : List PrintPart → ℕ → Prop
  | [] => fun _ => True
  | part :: parts => fun room => (boundary.length + 8) * 2 < room →
    HdrsClear (RestClear compact part (PartsClear compact boundary parts)) part.hdrs
      (room - (boundary.length + 6))

/-- It prints whenever its text fits, with `reserve` bytes to spare. -/
def Printer.Prints (reserve : ℕ) (printer : Printer) : Prop :=
  ∀ n, printer.text.length + reserve ≤ n → printer.accepts n = true

def PrintPart.Prints (reserve : ℕ) (part : PrintPart) : Prop :=
  (∀ hdr ∈ part.hdrs, hdr.printer.Prints reserve) ∧ ∀ body ∈ part.body, body.printer.Prints reserve

def PrintPart.Bare (part : PrintPart) : Prop := part.hdrs = [] ∧ part.auto = none ∧ bodyText part.body = []

structure Bounded (compact : Bool) (data : MultipartData) (size : ℕ) : Prop where
  /-- No write is behind the buffer, and no size is above the space left. -/
  safe : ∀ stop, multipartPrintBody compact data size = .error stop → stop = .failed
  short : (∀ text ∈ completeText compact data, size < text.length) →
    returned (multipartPrintBody compact data size) = some (-1)
  exact : ∀ out, multipartPrintBody compact data size = .ok out →
    out.length ≤ size ∧ completeText compact data = some out ∧
      returned (multipartPrintBody compact data size) = some (out.length : ℤ)
  /-- Nothing else fails, when the headers and bodies print their text wherever it fits. -/
  whole : (∀ part ∈ data.parts, part.Prints 0) → ∀ text ∈ completeText compact data, text.length ≤ size →
    multipartPrintBody compact data size = .ok text

def Snug (compact : Bool) (data : MultipartData) (size : ℕ) : Prop :=
  (∃ text ∈ completeText compact data, text.length = size) ∧ ∃ part ∈ data.parts.getLast?, part.Bare

structure Clear (compact : Bool) (data : MultipartData) (size : ℕ) : Prop where
  parts : PartsClear compact data.boundary data.parts size
  isInt : ∀ text ∈ completeText compact data, text.length < 2 ^ 31
  notSnug : ¬Snug compact data size

end PjProject.Multipart
