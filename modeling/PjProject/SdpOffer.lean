import PjProject.Sdp

/-!
# Answering a remote offer

`create_answer` makes an answer to a remote offer from the local capability. For each
offered media line `match_offer` pairs its formats with those of an unused local media
line, drops the rest and, with symmetric payload types, gives the formats that are left
the payload types of the offer.
-/
namespace PjProject.SdpOffer

open Sdp

inductive Err
  | emissingrtpmap | noanscodec | noansunknown | enomedia
  | einorigin | einname | einconn | einmedia | enofmt | emissingconn | einpt
  deriving DecidableEq

/-- `bundle_group_contains_mid` for the tokens of one group attribute. -/
def groupTokens : ℕ → Bytes → List Bytes
  | 0, _ => []
  | k + 1, value =>
    let s := value.dropWhile Scanner.isSpace
    if s = [] then []
    else s.takeWhile (fun c => !Scanner.isSpace c) ::
      groupTokens k (s.dropWhile fun c => !Scanner.isSpace c)

def bundleGroupContainsMid (sdp : Session) (mid : Bytes) : Bool :=
  sdp.attrs.any fun a => stricmpEq a.name (lit "group") &&
    match groupTokens a.value.length a.value with
    | [] => false
    | t :: ts => stricmpEq t (lit "BUNDLE") && ts.contains mid

def isBundleOnly (sdp : Session) (m : Media) : Bool :=
  m.port = 0 && hasAttr m "bundle-only" &&
    match findAttr m.attrs (lit "mid") none with
    | none => false
    | some mid => bundleGroupContainsMid sdp mid.value

def numeric (fmt : Bytes) : Bool := fmt.head?.any isDigit

def validConn (c : Conn) : Bool :=
  c.netType = lit "IN" && (c.addrType = lit "IP4" || c.addrType = lit "IP6") && c.addr ≠ []

/-- The checks of `pjmedia_sdp_validate2` on one format. -/
def validFmt (active : Bool) (m : Media) (fmt : Bytes) : Except Err Unit :=
  if numeric fmt then
    match strtoul3 fmt with
    | .error _ => .error .einpt
    | .ok pt =>
      if pt > 127 then .error .einpt
      else if active ∧ pt ≥ 96 ∧ findAttr m.attrs (lit "rtpmap") (some fmt) = none then
        .error .emissingrtpmap
      else .ok ()
  else .ok ()

def validMedia (sdp : Session) (strict : Bool) (m : Media) : Except Err Unit := do
  let active := m.port ≠ 0 || isBundleOnly sdp m
  if m.media = [] ∨ m.transport = [] then throw .einmedia
  if m.fmts = [] ∧ active then throw .enofmt
  if m.conn.any (fun c => !validConn c) then throw .einconn
  if m.conn = none ∧ sdp.conn = none ∧ (strict ∨ active) then throw .emissingconn
  m.fmts.forM (validFmt active m)

def validate2 (sdp : Session) (strict : Bool) : Except Err Unit := do
  let o := sdp.origin
  if o.user = [] ∨ o.netType ≠ lit "IN" ∨ (o.addrType ≠ lit "IP4" ∧ o.addrType ≠ lit "IP6") ∨
      o.addr = [] then throw .einorigin
  if sdp.name = [] then throw .einname
  if sdp.conn.any (fun c => !validConn c) then throw .einconn
  sdp.media.forM (validMedia sdp strict)

def fmtpValue (token : Bytes) : Bytes :=
  match token.dropWhile (· ≠ 61) with
  | [] => token
  | _ :: v => v.dropWhile Scanner.isSpace

def maxFmtpCnt : ℕ := 16

/-- `pjmedia_stream_info_parse_fmtp_data`: the parameter values. -/
def parseFmtpData : ℕ → ℕ → Bytes → List Bytes
  | 0, _, _ => []
  | k + 1, cnt, s =>
    if s = [] ∨ cnt ≥ maxFmtpCnt then []
    else
      let s := s.dropWhile Scanner.isSpace
      let raw := s.takeWhile fun c => c ≠ 59 && c ≠ 47
      let token := (raw.reverse.dropWhile fun c => c = 32 || c = 9 || c = 13 || c = 10).reverse
      let rest := s.drop (raw.length + 1)
      if token = [] then parseFmtpData k cnt rest
      else fmtpValue token :: parseFmtpData k (cnt + 1) rest

/-- `pjmedia_stream_info_parse_fmtp`: the parameter values, or failure. -/
def parseFmtp (m : Media) (pt : ℕ) : Option (List Bytes) :=
  match findAttr m.attrs (lit "fmtp") (some (utoa pt)) with
  | none => some []
  | some a =>
    let rest := a.value.dropWhile isDigit
    if a.value.head?.any isDigit ∧ rest.head? = some 32 then
      some (parseFmtpData a.value.length 0 (rest.drop 1))
    else none

def rtpmapMatch (o l : Rtpmap) : Bool :=
  stricmpEq o.encName l.encName && o.clockRate = l.clockRate &&
    (stricmpEq o.param l.param || (l.param = [] && o.param = lit "1") ||
      (o.param = [] && l.param = lit "1"))

/-- The variables of `match_offer`. `pairs` are `pt_offer` and `pt_answer`. -/
structure MatchState where
  pairs : List (Bytes × Bytes)
  masterHasCodec : Bool
  masterHasOther : Bool
  foundCodec : Bool
  foundRed : Bool
  foundTel : Bool
  foundOther : Bool
  redLevel : ℤ
  clockRates : List ℕ
  telClockRates : List ℕ

def MatchState.init : MatchState := ⟨[], false, false, false, false, false, false, 0, [], []⟩

def addRate (rate : ℕ) (rates : List ℕ) : List ℕ :=
  if rates.contains rate then rates else rates ++ [rate]

structure Config where
  preferRemoteCodecOrder : Bool
  answerWithMultipleCodecs : Bool

def pairOf (cfg : Config) (master slave : Bytes) : Bytes × Bytes :=
  if cfg.preferRemoteCodecOrder then (master, slave) else (slave, master)

inductive Kind
  | codec | tel | red
  deriving DecidableEq

def kindOf (r : Rtpmap) : Kind :=
  if stricmpEq r.encName (lit "telephone-event") then .tel
  else if stricmpEq r.encName (lit "red") then .red
  else .codec

def matchStatic (cfg : Config) (slave : Media) (st : MatchState) (fmt : Bytes) : MatchState :=
  let st := { st with masterHasCodec := true }
  if cfg.answerWithMultipleCodecs = false ∧ st.foundCodec then st
  else
    match slave.fmts.find? fun g => strtoul g % 2 ^ 32 = strtoul fmt % 2 ^ 32 && numeric g with
    | none => st
    | some g => { st with
        foundCodec := true
        pairs := st.pairs ++ [pairOf cfg fmt g]
        clockRates := addRate 8000 st.clockRates }

def accepts (cfg : Config) (offer : Media) (st : MatchState) (kind : Kind) (rate : ℕ)
    (fmt g : Bytes) : Bool :=
  match kind with
  | .codec => true
  | .tel => !st.telClockRates.contains rate
  | .red => (parseFmtp offer (strtoul (pairOf cfg fmt g).1 % 2 ^ 32)).isSome

/-- A dynamic payload type of the master whose rtpmap is `o`. -/
def matchDynamic (cfg : Config) (offer slave : Media) (st : MatchState) (fmt : Bytes)
    (o : Rtpmap) : MatchState :=
  let kind := kindOf o
  let st := if kind = .codec then { st with masterHasCodec := true } else st
  if kind = .codec ∧ cfg.answerWithMultipleCodecs = false ∧ st.foundCodec then st
  else
    match slave.fmts.find? fun g =>
      match rtpmapOf slave.attrs g with
      | none => false
      | some l => rtpmapMatch o l && accepts cfg offer st kind o.clockRate fmt g with
    | none => st
    | some g =>
      let st := { st with pairs := st.pairs ++ [pairOf cfg fmt g] }
      match kind with
      | .codec => { st with foundCodec := true, clockRates := addRate o.clockRate st.clockRates }
      | .tel => { st with foundTel := true, telClockRates := st.telClockRates ++ [o.clockRate] }
      | .red =>
        let pt := strtoul (pairOf cfg fmt g).1 % 2 ^ 32
        { st with foundRed := true, redLevel := ((parseFmtp offer pt).getD []).length - 1 }

def matchOther (cfg : Config) (slave : Media) (st : MatchState) (fmt : Bytes) : MatchState :=
  let st := { st with masterHasOther := true }
  if st.foundOther then st
  else if slave.fmts.contains fmt then
    { st with foundOther := true, pairs := st.pairs ++ [pairOf cfg fmt fmt] }
  else st

def matchFmt (cfg : Config) (offer master slave : Media) (st : MatchState) (fmt : Bytes) :
    Except Err MatchState :=
  if numeric fmt then
    if strtoul fmt % 2 ^ 32 < 96 then .ok (matchStatic cfg slave st fmt)
    else
      match rtpmapOf master.attrs fmt with
      | none => .error .emissingrtpmap
      | some o => .ok (matchDynamic cfg offer slave st fmt o)
  else .ok (matchOther cfg slave st fmt)

def matchFmts (cfg : Config) (offer preanswer : Media) : Except Err MatchState :=
  let master := if cfg.preferRemoteCodecOrder then offer else preanswer
  let slave := if cfg.preferRemoteCodecOrder then preanswer else offer
  master.fmts.foldlM (matchFmt cfg offer master slave) MatchState.init

/-- Cut an fmtp value at its slash number `level`, counted from 0. -/
def cutLevel (level : ℤ) : ℤ → Bytes → Bytes
  | _, [] => []
  | lvl, c :: s =>
    if c = 47 then if lvl ≥ level then [] else c :: cutLevel level (lvl + 1) s
    else c :: cutLevel level lvl s

def modifyFirst (p : Attr → Bool) (f : Attr → Attr) : List Attr → List Attr
  | [] => []
  | a :: as => if p a then f a :: as else a :: modifyFirst p f as

def reduceRed (st : MatchState) (preanswer : Media) : Media :=
  let isRed := fun fmt => (rtpmapOf preanswer.attrs fmt).any fun r => stricmpEq r.encName (lit "red")
  match (preanswer.fmts.take st.pairs.length).find? isRed with
  | none => preanswer
  | some fmt =>
    match parseFmtp preanswer (strtoul fmt % 2 ^ 32) with
    | none => preanswer
    | some values =>
      if (values.length : ℤ) - 1 > st.redLevel then
        let cut := fun a : Attr => { a with value := cutLevel st.redLevel 0 a.value }
        { preanswer with
          attrs := modifyFirst (attrMatches (lit "fmtp") (some fmt)) cut preanswer.attrs }
      else preanswer

def telRate (preanswer : Media) (p : Bytes × Bytes) : Option ℕ :=
  if numeric p.2 = false ∨ strtoul p.2 < 96 then none
  else
    match rtpmapOf preanswer.attrs p.2 with
    | none => none
    | some r => if stricmpEq r.encName (lit "telephone-event") then some r.clockRate else none

def filterTel (preanswer : Media) (st : MatchState) : List (Bytes × Bytes) :=
  if st.foundTel then
    let tels := st.pairs.filter fun p => (telRate preanswer p).isSome
    let kept := st.pairs.filter fun p =>
      (telRate preanswer p).all fun rate => st.clockRates.contains rate
    if tels.any fun p => (telRate preanswer p).any fun rate => st.clockRates.contains rate then kept
    else kept ++ [tels.headD ([], [])]
  else st.pairs

abbrev Slots := ℕ → Bytes

def swap (arr : Slots) (i j : ℕ) : Slots :=
  fun k => if k = i then arr j else if k = j then arr i else arr k

/-- The position of a format in the array from `i` on, or else the number of formats (or
`i`, behind it). -/
def findSlot (arr : Slots) (count i : ℕ) (fmt : Bytes) : ℕ :=
  ((List.range' i (count - i)).find? fun j => arr j = fmt).getD (max i count)

def reorder (count : ℕ) : ℕ → List Bytes → Slots → Slots
  | _, [], arr => arr
  | i, fmt :: rest, arr => reorder count (i + 1) rest (swap arr i (findSlot arr count i fmt))

def rewritePt (value oldPt newPt : Bytes) : Bytes := newPt ++ value.drop oldPt.length

def redBuf (pairs : List (Bytes × Bytes)) : Bool → Bytes → List Bytes → Bytes
  | _, buf, [] => buf
  | first, buf, v :: vs =>
    let pt := match pairs.find? fun p => stricmpEq v p.2 with
      | none => strtoul v
      | some p => strtoul p.1
    let s := (if first then [] else lit "/") ++ utoa (pt % 2 ^ 32)
    if s.length ≥ 32 - buf.length then buf ++ s.take (31 - buf.length) ++ [0]
    else redBuf pairs false (buf ++ s) vs

/-- One round of `apply_answer_symmetric_pt`: the attributes and those set aside. -/
def symmetricPt (pairs : List (Bytes × Bytes)) (answer : Media) (acc : List Attr × List Attr)
    (p : Bytes × Bytes) : List Attr × List Attr :=
  if p.2 = p.1 then acc
  else
    let rtpmap := findAttr acc.1 (lit "rtpmap") (some p.2)
    let acc := match rtpmap with
      | none => acc
      | some a => (removeFound acc.1 (lit "rtpmap") p.2,
          acc.2 ++ [{ a with value := rewritePt a.value p.2 p.1 }])
    let isRed := rtpmap.any fun a =>
      stricmpEq (getRtpmap (rewritePt a.value p.2 p.1)).encName (lit "red")
    match findAttr acc.1 (lit "fmtp") (some p.2) with
    | none => acc
    | some a =>
      let value :=
        if isRed then
          match parseFmtp { answer with attrs := acc.1 } (strtoul p.2 % 2 ^ 32) with
          | none => a.value
          | some values => redBuf pairs true (utoa (strtoul p.1 % 2 ^ 32) ++ lit " ") values
        else rewritePt a.value p.2 p.1
      (removeFound acc.1 (lit "fmtp") p.2, acc.2 ++ [{ a with value := value }])

/-- `apply_answer_symmetric_pt`: the formats take the payload types of the offer. -/
def applyAnswerSymmetricPt (answer : Media) (pairs : List (Bytes × Bytes)) : Media :=
  let acc := pairs.foldl (symmetricPt pairs answer) (answer.attrs, [])
  { answer with
    fmts := List.zipWith (fun fmt p => if p.2 = p.1 then fmt else p.1) answer.fmts pairs
    attrs := acc.2.foldl addAttr acc.1 }

/-- The answer made of the matched pairs. `junk` is what stands behind the formats. -/
def buildAnswer (junk : Bytes) (offer preanswer : Media) (pairs : List (Bytes × Bytes)) : Media :=
  let count := preanswer.fmts.length
  let n := pairs.length
  let arr := reorder count 0 (pairs.map (·.2)) fun k => preanswer.fmts.getD k junk
  let unwanted := (List.range' n (count - n)).map arr
  let answer := { preanswer with
    fmts := (List.range n).map arr
    attrs := unwanted.foldl removeFmtAttrs preanswer.attrs }
  updateMediaDirection offer (applyAnswerSymmetricPt answer pairs)

def matchOffer (junk : Bytes) (cfg : Config) (bundleOnly : Bool) (offer preanswer : Media)
    (preanswerConn : Option Conn) : Except Err Media := do
  if offer.port = 0 ∧ bundleOnly = false then
    return cloneDeactivate offer preanswer preanswerConn
  if preanswer.port = 0 then return preanswer
  let st ← matchFmts cfg offer preanswer
  if st.masterHasCodec ∧ st.foundCodec = false then throw .noanscodec
  if st.masterHasOther ∧ st.foundOther = false then throw .noansunknown
  let preanswer := if st.foundRed then reduceRed st preanswer else preanswer
  return buildAnswer junk offer preanswer (filterTel preanswer st)

/-- `pjmedia_sdp_transport_get_proto` without the RTCP feedback flag. -/
def transportProto (tp : Bytes) : ℕ :=
  let proto := transportGetProto tp
  if proto &&& tpRtcpFb = tpRtcpFb then proto - tpRtcpFb else proto

/-- The search for a local media line that can answer an offered one: the answer and the
index of the line, and the last error. -/
def findLocal (junk : Bytes) (cfg : Config) (initial : Session) (bundleOnly : Bool) (om : Media)
    (used : List ℕ) : ℕ → List Media → Option Err → Option (Media × ℕ) × Option Err
  | _, [], status => (none, status)
  | j, im :: ims, status =>
    if om.media = im.media ∧ transportProto om.transport = transportProto im.transport ∧
        j ∉ used then
      match matchOffer junk cfg bundleOnly om im initial.conn with
      | .ok am => (some (am, j), status)
      | .error e => findLocal junk cfg initial bundleOnly om used (j + 1) ims (some e)
    else findLocal junk cfg initial bundleOnly om used (j + 1) ims status

/-- The loop of `create_answer`: the answered media lines, each with the index of the local
line it is made from, and the status if none is active. -/
def answerMedia (junk : Bytes) (cfg : Config) (initial offer : Session) :
    List ℕ → List Media → Option Err → List (Media × Option ℕ) × Option Err
  | _, [], status => ([], status)
  | used, om :: oms, status =>
    match findLocal junk cfg initial (isBundleOnly offer om) om used 0 initial.media status with
    | (some (am, j), status) =>
      let (rest, status) := answerMedia junk cfg initial offer (j :: used) oms status
      ((am, some j) :: rest, status)
    | (none, status) =>
      let (rest, status) := answerMedia junk cfg initial offer used oms status
      ((cloneDeactivate om om initial.conn, none) :: rest, status)

def createAnswer (junk : Bytes) (cfg : Config) (initial offer : Session) :
    Except Err (List (Media × Option ℕ)) :=
  match validate2 offer false with
  | .error e => .error e
  | .ok _ =>
    match answerMedia junk cfg initial offer [] offer.media none with
    | (answer, some e) => if answer.any fun a => a.1.port ≠ 0 then .ok answer else .error e
    | (answer, none) => .ok answer

end PjProject.SdpOffer
