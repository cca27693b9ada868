import PjProject.SdpOffer
import PjProject.SdpText

/-!
# The dynamic payload type map

A negotiator remembers for each media line which dynamic payload type it has used for which
codec. `assign_pt_and_update_map` gives the codecs of a local session payload types that agree
with this map, renames the rtpmap and fmtp attributes and the formats, and updates the map.
The map is not updated from the remote session (`PJMEDIA_SDP_NEG_MAINTAIN_REMOTE_PT_MAP` is 0).
-/
namespace PjProject.SdpNeg

open Scanner
open Sdp (Attr csToken)
open SdpText (Media atByte)

structure Rtpmap where
  pt : Bytes
  encName : Bytes
  clockRate : ℕ
  param : Bytes
  deriving DecidableEq

def scanEncoding : Scan (Bytes × ℕ × Bytes) := do
  let encName ← get csToken
  if (← getChar) ≠ 47 then throw .syntaxErr
  let token ← get isDigit
  match Sdp.parseUint32 token with
  | none => throw .syntaxErr
  | some clockRate =>
    if ← atByte (· = 47) then
      let _ ← getChar
      let param ← get csToken
      pure (encName, clockRate, param)
    else pure (encName, clockRate, [])

def scanRtpmap : Scan Rtpmap := do
  let pt ← get csToken
  let (encName, clockRate, param) ← scanEncoding
  pure ⟨pt, encName, clockRate, param⟩

/-- `pjmedia_sdp_attr_get_rtpmap`, where its status is looked at. -/
def getRtpmap (value : Bytes) : Option Rtpmap :=
  match scanRtpmap.run (init value .ws) with
  | .ok (r, _) => some r
  | .error _ => none

/-- `pjmedia_sdp_attr_get_fmtp`: the format and its parameters. -/
def getFmtp (value : Bytes) : Option (Bytes × Bytes) :=
  let fmt := value.takeWhile isDigit
  match value.dropWhile isDigit with
  | [] => none
  | c :: param => if fmt ≠ [] ∧ c = 32 then some (fmt, param) else none

/-- `pj_strtoul` into an `unsigned`. -/
def toPt (s : Bytes) : ℕ := Sdp.strtoul s % 2 ^ 32

def isDynamicPt (pt : ℕ) : Bool := 96 ≤ pt && pt ≤ 127

/-- `strncasecmp` of the first `n` bytes. -/
def strnicmp : ℕ → Bytes → Bytes → Ordering
  | 0, _, _ => .eq
  | _ + 1, [], [] => .eq
  | _ + 1, [], _ :: _ => .lt
  | _ + 1, _ :: _, [] => .gt
  | n + 1, a :: s, b :: t =>
    if toLower a < toLower b then .lt
    else if toLower b < toLower a then .gt
    else if a = 0 then .eq else strnicmp n s t

def stricmp (s t : Bytes) : Ordering :=
  match strnicmp (min s.length t.length) s t with
  | .eq => compare s.length t.length
  | o => o

/-- `pjmedia_codec_mgr_find_codec`: a binary search between `start` and `stop`. -/
def findCodec (codecs : List Bytes) (codec : Bytes) : ℕ → ℕ → ℕ → Option ℕ
  | 0, _, _ => none
  | k + 1, start, stop =>
    if stop ≤ start then none
    else
      let mid := start + (stop - 1 - start) / 2
      match stricmp (codecs.getD mid []) codec with
      | .eq => some mid
      | .lt => findCodec codecs codec k (mid + 1) stop
      | .gt => findCodec codecs codec k start mid

def maxCodecs : ℕ := 32

def unknownCodec : ℕ := 99

/-- What the negotiator takes from the codec managers when it is created, and
`PJMEDIA_SDP_NEG_ANSWER_SYMMETRIC_PT`. There are no video codecs in a build without video. -/
structure Config where
  audDynCodecs : List Bytes
  vidDynCodecs : Option (List Bytes)
  answerSymmetricPt : Bool
  aud_le : audDynCodecs.length ≤ maxCodecs
  vid_le : ∀ l, vidDynCodecs = some l → l.length ≤ maxCodecs

def txtDynCodecs : List Bytes := [lit "red", lit "t140"]

/-- The codec list of a media line, and whether it is audio; `none` for a line that is left as it
is. -/
def Config.lineCodecs (cfg : Config) (media : Bytes) : Option (Bool × List Bytes) :=
  if stricmpEq media (lit "audio") then some (true, cfg.audDynCodecs)
  else if stricmpEq media (lit "video") then cfg.vidDynCodecs.map fun l => (false, l)
  else if stricmpEq media (lit "text") then some (false, txtDynCodecs)
  else none

def codecInfoToId (encName : Bytes) (clockRate channelCnt : ℕ) : Bytes :=
  let id := encName ++ 47 :: (utoa clockRate ++ 47 :: utoa channelCnt)
  if id.length ≥ 32 then [] else id

def codecName (audio : Bool) (r : Rtpmap) : Bytes :=
  if audio then
    codecInfoToId r.encName r.clockRate (if r.param = [] then 1 else toPt r.param)
  else r.encName

def codecIdx (codecs : List Bytes) (codec : Bytes) : ℕ :=
  (findCodec codecs codec codecs.length 0 codecs.length).getD unknownCodec

/-- `pt_to_codec` and `codec_to_pt` of a media line, by payload type and by codec. A payload type
that was never mapped has no codec, a codec that was never mapped has payload type 0. -/
structure PtMap where
  ptToCodec : ℕ → Option ℕ
  codecToPt : ℕ → ℕ

def PtMap.init : PtMap := ⟨fun _ => none, fun _ => 0⟩

/-- One payload type in the loop of `find_new_pt`; `result` is the best one so far. -/
def considerPt (map : PtMap) (used : ℕ → Bool) (idx : ℕ) :
    List ℕ → Option ℕ → Option ℕ
  | [], result => result
  | pt :: pts, result =>
    if used pt then considerPt map used idx pts result
    else if map.ptToCodec pt = some idx then some pt
    else if map.ptToCodec pt = none ∧ result.all (fun r => map.ptToCodec r ≠ none) then
      considerPt map used idx pts (some pt)
    else considerPt map used idx pts (result.or (some pt))

def rtpPtTelephoneEvents : ℕ := 120

/-- `find_new_pt`. With every payload type used the assertion fails, and 95 is returned where
assertions are off. -/
def findNewPt (map : PtMap) (used : ℕ → Bool) (codec : Bytes) (idx : ℕ) : ℕ :=
  let start :=
    if strnicmpEqLen codec (lit "telephone-event") 15 then rtpPtTelephoneEvents else 96
  (considerPt map used idx (List.range' start (128 - start) ++ List.range' 96 (start - 96))
    none).getD 95

/-- The map and the variables `pt_used` and `pt_change`. -/
structure Assign where
  map : PtMap
  used : ℕ → Bool
  change : ℕ → ℕ

/-- The payload type for a codec that has `pt` in the session. -/
def choosePt (cfg : Config) (isOffer : Bool) (st : Assign) (codec : Bytes) (idx pt : ℕ) : ℕ :=
  let codecToPt := if idx = unknownCodec then 0 else st.map.codecToPt idx
  let needNewPt := (st.map.ptToCodec pt ≠ none && st.map.ptToCodec pt ≠ some idx) || st.used pt
  if codecToPt ≠ 0 ∧ st.used codecToPt = false ∧
      (needNewPt ∨ isOffer ∨ cfg.answerSymmetricPt = false) then codecToPt
  else if needNewPt then findNewPt st.map st.used codec idx
  else pt

/-- Record that the codec that has `pt` in the session gets `newPt`. -/
def Assign.record (st : Assign) (idx pt newPt : ℕ) : Assign where
  map :=
    { ptToCodec := Function.update st.map.ptToCodec newPt (some idx)
      codecToPt :=
        if idx = unknownCodec then st.map.codecToPt
        else Function.update st.map.codecToPt idx newPt }
  used := Function.update st.used newPt true
  change := Function.update st.change pt newPt

/-- `rewrite_pt2`: the first two or three bytes give way to the new payload type. -/
def rewritePt2 (value : Bytes) (pt newPt : ℕ) : Bytes :=
  utoa newPt ++ value.drop (if pt ≥ 100 then 3 else 2)

def dynRtpmap (a : Attr) : Option Rtpmap :=
  if a.name = lit "rtpmap" then
    (getRtpmap a.value).filter fun r => isDynamicPt (toPt r.pt)
  else none

def assignRtpmaps (cfg : Config) (isOffer audio : Bool) (codecs : List Bytes) :
    Assign → List Attr → Assign × List Attr
  | st, [] => (st, [])
  | st, a :: attrs =>
    match dynRtpmap a with
    | none =>
      let (st', attrs') := assignRtpmaps cfg isOffer audio codecs st attrs
      (st', a :: attrs')
    | some r =>
      let codec := codecName audio r
      let idx := codecIdx codecs codec
      let pt := toPt r.pt
      let newPt := choosePt cfg isOffer st codec idx pt
      let value := if newPt = pt then a.value else rewritePt2 a.value pt newPt
      let (st', attrs') := assignRtpmaps cfg isOffer audio codecs (st.record idx pt newPt) attrs
      (st', { a with value := value } :: attrs')

/-- `pt_change`, where 0 stands for no change. -/
def changed (change : ℕ → ℕ) (pt : ℕ) : ℕ := if change pt = 0 then pt else change pt

/-- `pt_change` on any number. -/
def changedDyn (change : ℕ → ℕ) (pt : ℕ) : ℕ := if isDynamicPt pt then changed change pt else pt

def isRed (attrs : List Attr) (pt : ℕ) : Bool :=
  match Sdp.findAttr attrs (lit "rtpmap") (some (utoa pt)) with
  | none => false
  | some a => (getRtpmap a.value).any fun r => stricmpEq r.encName (lit "red")

def maxFmtpStrLen : ℕ := 32

def redRefs (param : Bytes) : List ℕ := (SdpOffer.parseFmtpData param.length 0 param).map toPt

def redBody (refs : List ℕ) : Bytes := List.intercalate [47] (refs.map utoa)

def renameRed (change : ℕ → ℕ) (value : Bytes) (pt newPt : ℕ) (refs : List ℕ) : Bytes :=
  let new := utoa newPt ++ 32 :: redBody (refs.map (changedDyn change))
  if new.length < maxFmtpStrLen ∧ (newPt ≠ pt ∨ refs.any fun r => changedDyn change r ≠ r) then new
  else value

/-- The loop over the fmtp attributes, for one of them; `attrs` are the attributes with their
rtpmaps renamed. -/
def renameFmtp (change : ℕ → ℕ) (attrs : List Attr) (a : Attr) : Attr :=
  if a.name = lit "fmtp" then
    match getFmtp a.value with
    | none => a
    | some (fmt, param) =>
      let pt := toPt fmt
      if isDynamicPt pt then
        let newPt := changed change pt
        if isRed attrs newPt ∧ redRefs param ≠ [] then
          { a with value := renameRed change a.value pt newPt (redRefs param) }
        else if newPt = pt then a
        else { a with value := rewritePt2 a.value pt newPt }
      else a
  else a

def renameFmt (change : ℕ → ℕ) (fmt : Bytes) : Bytes :=
  let pt := toPt fmt
  if isDynamicPt pt ∧ changed change pt ≠ pt then rewritePt2 fmt pt (changed change pt) else fmt

/-- `assign_pt_and_update_map` for one media line. -/
def assignMedia (cfg : Config) (isOffer : Bool) (map : PtMap) (m : Media) : PtMap × Media :=
  if m.port = 0 then (.init, m)
  else
    match cfg.lineCodecs m.media with
    | none => (map, m)
    | some (audio, codecs) =>
      let (st, attrs) :=
        assignRtpmaps cfg isOffer audio codecs ⟨map, fun _ => false, fun _ => 0⟩ m.attrs
      (st.map, { m with
        attrs := attrs.map (renameFmtp st.change attrs)
        fmts := m.fmts.map (renameFmt st.change) })

/-- `assign_pt_and_update_map`: the maps of the media lines and the lines. -/
def assignPtAndUpdateMap (cfg : Config) (isOffer : Bool) (maps : ℕ → PtMap) (media : List Media) :
    (ℕ → PtMap) × List Media :=
  (fun i => match media[i]? with
    | none => maps i
    | some m => (assignMedia cfg isOffer (maps i) m).1,
   media.mapIdx fun i m => (assignMedia cfg isOffer (maps i) m).2)

end PjProject.SdpNeg
