import PjProject.Scanner

/-!
# Session descriptions

The parts of `pjmedia_sdp_session` that offer/answer negotiation reads: media lines
with their formats, and the attributes looked up by name and payload type. Bandwidth
lines and the numbers of the origin line are left out; negotiation only copies them.
-/
namespace PjProject.Sdp

open Scanner

structure Attr where
  name : Bytes
  value : Bytes
  deriving DecidableEq

/-- `pjmedia_sdp_conn` -/
structure Conn where
  netType : Bytes
  addrType : Bytes
  addr : Bytes
  deriving DecidableEq

/-- `pjmedia_sdp_media` -/
structure Media where
  media : Bytes
  port : ℕ
  transport : Bytes
  fmts : List Bytes
  conn : Option Conn
  attrs : List Attr
  deriving DecidableEq

/-- `pjmedia_sdp_origin`, without its numbers. -/
structure Origin where
  user : Bytes
  netType : Bytes
  addrType : Bytes
  addr : Bytes
  deriving DecidableEq

structure Session where
  origin : Origin
  name : Bytes
  conn : Option Conn
  attrs : List Attr
  media : List Media
  deriving DecidableEq

def maxSdpAttr : ℕ := 68

/-- `pj_strtoul`: the value of the leading digits, in 64 bits. -/
def strtoul (s : Bytes) : ℕ :=
  ((s.takeWhile isDigit).foldl (fun v c => v * 10 + (c.toNat - 48)) 0) % 2 ^ 64

/-- The payload type of a format as `pjmedia_sdp_attr_find` reads it. -/
def fmtPt (fmt : Bytes) : Option ℕ :=
  match strtoul3 fmt with
  | .ok v => some (v % 2 ^ 32)
  | .error _ => none

def valuePt (value : Bytes) : Option ℕ :=
  if value.head?.any isDigit then some (strtoul value % 2 ^ 32) else none

/-- Whether `pjmedia_sdp_attr_find` stops at the attribute. -/
def attrMatches (name : Bytes) (fmt : Option Bytes) (a : Attr) : Bool :=
  a.name = name &&
    match fmt with
    | none => true
    | some f => (fmtPt f).isSome && valuePt a.value = fmtPt f

/-- `pjmedia_sdp_attr_find` -/
def findAttr (attrs : List Attr) (name : Bytes) (fmt : Option Bytes) : Option Attr :=
  attrs.find? (attrMatches name fmt)

/-- Remove the attribute that `pjmedia_sdp_attr_find` finds, if any. -/
def removeFound (attrs : List Attr) (name : Bytes) (fmt : Bytes) : List Attr :=
  attrs.eraseP (attrMatches name (some fmt))

def removeAll (attrs : List Attr) (name : Bytes) : List Attr :=
  attrs.filter fun a => a.name ≠ name

/-- `pjmedia_sdp_attr_add`; an attribute that does not fit is ignored. -/
def addAttr (attrs : List Attr) (a : Attr) : List Attr :=
  if attrs.length ≥ maxSdpAttr then attrs else attrs ++ [a]

def removeFmtAttrs (attrs : List Attr) (fmt : Bytes) : List Attr :=
  removeFound (removeFound attrs (lit "rtpmap") fmt) (lit "fmtp") fmt

structure Rtpmap where
  encName : Bytes
  clockRate : ℕ
  param : Bytes
  deriving DecidableEq

def csToken (c : UInt8) : Bool :=
  (97 ≤ c && c ≤ 122) || (65 ≤ c && c ≤ 90) || isDigit c ||
    (lit "!#$%&'*+-.^_`\x7b|\x7d~").contains c

def IsToken (f : Bytes) : Prop := f ≠ [] ∧ ∀ c ∈ f, csToken c = true

instance (f : Bytes) : Decidable (IsToken f) :=
  decidable_of_iff (f ≠ [] ∧ f.all csToken = true) (and_congr_right' List.all_eq_true)

def parseUint32 (s : Bytes) : Option ℕ :=
  match strtoul3 s with
  | .ok v => if v < 2 ^ 32 then some v else none
  | .error _ => none

/-- `pjmedia_sdp_attr_get_rtpmap`. The callers ignore its status, so that the fields read
before an error count. -/
def getRtpmap (value : Bytes) : Rtpmap :=
  let name : Scan Bytes := do
    let _ ← get csToken
    get csToken
  let clock : Scan Bytes := do
    let c ← getChar
    if c ≠ 47 then throw .syntaxErr
    get isDigit
  let param : Scan Bytes := do
    let _ ← getChar
    get csToken
  match name.run (init value .ws) with
  | .error _ => ⟨[], 0, []⟩
  | .ok (encName, sc) =>
    match clock.run sc with
    | .error _ => ⟨encName, 0, []⟩
    | .ok (token, sc) =>
      match parseUint32 token with
      | none => ⟨encName, 0, []⟩
      | some clockRate =>
        if sc.rest.head? = some 47 then
          match param.run sc with
          | .error _ => ⟨encName, clockRate, []⟩
          | .ok (p, _) => ⟨encName, clockRate, p⟩
        else ⟨encName, clockRate, []⟩

def rtpmapOf (attrs : List Attr) (fmt : Bytes) : Option Rtpmap :=
  (findAttr attrs (lit "rtpmap") (some fmt)).map fun a => getRtpmap a.value

def deactivate (m : Media) : Media := { m with port := 0, attrs := [] }

/-- `sdp_media_clone_deactivate`. The connection of a media line that has none is taken
from the local one, or made up, unless the local session has one. -/
def cloneDeactivate (rem loc : Media) (sessConn : Option Conn) : Media :=
  let res := deactivate rem
  if res.conn = none ∧ sessConn = none then
    { res with conn := some (loc.conn.getD ⟨lit "IN", lit "IP4", lit "127.0.0.1"⟩) }
  else res

/-- The flags of `pjmedia_tp_proto`. -/
def tpUnknown : ℕ := 2 ^ 0
def tpUdp : ℕ := 2 ^ 1
def tpRtp : ℕ := 2 ^ 2
def tpDtls : ℕ := 2 ^ 3
def tpRtcpFb : ℕ := 2 ^ 13
def tpSrtp : ℕ := 2 ^ 14
def tpAvp : ℕ := 2 ^ 15

def transportGetProto (tp : Bytes) : ℕ :=
  let body := tp.dropWhile (· = 47)
  -- `pj_strtok2`: a string of delimiters alone is one token
  let token := if body = [] then tp else body.takeWhile (· ≠ 47)
  let rest := if body ≠ [] ∧ tp.length ≠ token.length then tp.drop (token.length + 1) else []
  if stricmpEq token (lit "RTP") then
    if stricmpEq rest (lit "AVP") then tpRtp + tpAvp
    else if stricmpEq rest (lit "SAVP") then tpRtp + tpAvp + tpSrtp
    else if stricmpEq rest (lit "AVPF") then tpRtp + tpAvp + tpRtcpFb
    else if stricmpEq rest (lit "SAVPF") then tpRtp + tpAvp + tpSrtp + tpRtcpFb
    else tpUnknown
  else if stricmpEq token (lit "UDP") then
    if rest = [] then tpUdp
    else if stricmpEq rest (lit "TLS/RTP/SAVP") then tpDtls + tpRtp + tpAvp + tpSrtp
    else if stricmpEq rest (lit "TLS/RTP/SAVPF") then tpDtls + tpRtp + tpAvp + tpSrtp + tpRtcpFb
    else tpUnknown
  else tpUnknown

/-- `pjmedia_sdp_transport_cmp(t1, t2) == PJ_SUCCESS` -/
def transportCmpEq (t1 t2 : Bytes) : Bool :=
  stricmpEq t1 t2 ||
    (transportGetProto t1 &&& (tpRtp + tpAvp) = tpRtp + tpAvp &&
      transportGetProto t2 &&& (tpRtp + tpAvp) = tpRtp + tpAvp)

/-- The direction of a media line, as `update_media_direction` distinguishes it. -/
inductive Dir
  | sendrecv | sendonly | recvonly | inactive
  deriving DecidableEq

def hasAttr (m : Media) (name : String) : Bool := (findAttr m.attrs (lit name) none).isSome

def localDir (m : Media) : Dir :=
  if hasAttr m "sendonly" then .sendonly
  else if hasAttr m "recvonly" then .recvonly
  else if hasAttr m "inactive" then .inactive
  else .sendrecv

def remoteDir (m : Media) : Dir :=
  if hasAttr m "inactive" then .inactive
  else if hasAttr m "sendonly" then .sendonly
  else if hasAttr m "recvonly" then .recvonly
  else .sendrecv

def adjustDir (remote old : Dir) : Dir :=
  match remote, old with
  | .inactive, _ => .inactive
  | .sendonly, .sendrecv => .recvonly
  | .sendonly, .recvonly => .recvonly
  | .sendonly, _ => .inactive
  | .recvonly, .sendrecv => .sendonly
  | .recvonly, .sendonly => .sendonly
  | .recvonly, _ => .inactive
  | .sendrecv, old => old

def removeAllMediaDirections (attrs : List Attr) : List Attr :=
  removeAll (removeAll (removeAll (removeAll attrs (lit "inactive")) (lit "sendrecv"))
    (lit "sendonly")) (lit "recvonly")

def updateMediaDirection (remote loc : Media) : Media :=
  let old := localDir loc
  let new := adjustDir (remoteDir remote) old
  if new = old then loc
  else
    let attrs := removeAllMediaDirections loc.attrs
    match new with
    | .inactive => { loc with attrs := addAttr attrs ⟨lit "inactive", []⟩ }
    | .sendonly => { loc with attrs := addAttr attrs ⟨lit "sendonly", []⟩ }
    | .recvonly => { loc with attrs := addAttr attrs ⟨lit "recvonly", []⟩ }
    | .sendrecv => { loc with attrs := attrs }

lemma find?_eraseP_of_imp {α : Type*} {p q : α → Bool} (h : ∀ a, p a = true → q a = false)
    (l : List α) : (l.eraseP q).find? p = l.find? p := by
  induction l with
  | nil => rfl
  | cons a l ih =>
    by_cases hq : q a = true
    · have hp : p a = false := by
        by_contra hc
        have := h a (by simpa using hc)
        simp [hq] at this
      simp [hq, hp]
    · simp only [List.eraseP_cons, hq, cond_false, List.find?_cons, ih]

lemma find?_filter_of_imp {α : Type*} {p q : α → Bool} (h : ∀ a, p a = true → q a = true)
    (l : List α) : (l.filter q).find? p = l.find? p := by
  induction l with
  | nil => rfl
  | cons a l ih =>
    by_cases hq : q a = true
    · simp only [List.filter_cons_of_pos hq, List.find?_cons, ih]
    · have hp : p a = false := by
        by_contra hc
        exact hq (h a (by simpa using hc))
      simp only [List.filter_cons_of_neg hq, List.find?_cons, hp, ih]

variable {name : Bytes}

lemma attrMatches_name {fmt : Option Bytes} {a : Attr}
    (h : attrMatches name fmt a = true) : a.name = name := by
  simp only [attrMatches, Bool.and_eq_true, decide_eq_true_eq] at h
  exact h.1

variable {attrs : List Attr}

lemma findAttr_removeAll {name' : Bytes} (hne : name' ≠ name)
    (fmt : Option Bytes) : findAttr (removeAll attrs name') name fmt = findAttr attrs name fmt := by
  refine find?_filter_of_imp (fun a ha => ?_) attrs
  simpa [attrMatches_name ha] using hne.symm

lemma findAttr_addAttr {a : Attr} (hne : a.name ≠ name)
    (fmt : Option Bytes) : findAttr (addAttr attrs a) name fmt = findAttr attrs name fmt := by
  unfold addAttr
  split_ifs
  · rfl
  · have ha : attrMatches name fmt a = false := by simp [attrMatches, hne]
    simp [findAttr, ha]

lemma findAttr_removeFound_name {name' : Bytes} (hne : name' ≠ name) (fmt : Option Bytes) (f : Bytes) :
    findAttr (removeFound attrs name' f) name fmt = findAttr attrs name fmt := by
  refine find?_eraseP_of_imp (fun a ha => ?_) attrs
  simp [attrMatches, attrMatches_name ha, hne.symm]

variable {g : Bytes}

lemma findAttr_removeFound_fmt {f : Bytes} (hne : fmtPt f ≠ fmtPt g) :
    findAttr (removeFound attrs name f) name (some g) = findAttr attrs name (some g) := by
  refine find?_eraseP_of_imp (fun a ha => ?_) attrs
  simp only [attrMatches, Bool.and_eq_true, decide_eq_true_eq] at ha
  simp [attrMatches, ha.1, ha.2.2, hne.symm]

lemma rtpmapOf_removeFmtAttrs {f : Bytes} (hne : fmtPt f ≠ fmtPt g) :
    rtpmapOf (removeFmtAttrs attrs f) g = rtpmapOf attrs g := by
  unfold rtpmapOf removeFmtAttrs
  rw [findAttr_removeFound_name (by decide), findAttr_removeFound_fmt hne]

lemma rtpmapOf_foldl_removeFmtAttrs {fs : List Bytes}
    (hne : ∀ f ∈ fs, fmtPt f ≠ fmtPt g) (attrs : List Attr) :
    rtpmapOf (fs.foldl removeFmtAttrs attrs) g = rtpmapOf attrs g := by
  induction fs generalizing attrs with
  | nil => rfl
  | cons f fs ih =>
    rw [List.foldl_cons, ih (fun f' hf' => hne f' (by simp [hf'])),
      rtpmapOf_removeFmtAttrs (hne f (by simp))]

lemma rtpmapOf_removeAllMediaDirections (attrs : List Attr) (f : Bytes) :
    rtpmapOf (removeAllMediaDirections attrs) f = rtpmapOf attrs f := by
  unfold rtpmapOf removeAllMediaDirections
  rw [findAttr_removeAll (by decide), findAttr_removeAll (by decide),
    findAttr_removeAll (by decide), findAttr_removeAll (by decide)]

lemma updateMediaDirection_frame (remote loc : Media) : (updateMediaDirection remote loc).media = loc.media ∧
    (updateMediaDirection remote loc).port = loc.port ∧ (updateMediaDirection remote loc).fmts = loc.fmts ∧
    ∀ f, rtpmapOf (updateMediaDirection remote loc).attrs f = rtpmapOf loc.attrs f := by
  have hadd : ∀ (a : Attr) (f : Bytes), a.name ≠ lit "rtpmap" →
      rtpmapOf (addAttr (removeAllMediaDirections loc.attrs) a) f = rtpmapOf loc.attrs f := by
    intro a f ha
    rw [← rtpmapOf_removeAllMediaDirections loc.attrs f]
    unfold rtpmapOf
    rw [findAttr_addAttr ha]
  unfold updateMediaDirection
  dsimp only
  split_ifs
  · exact ⟨rfl, rfl, rfl, fun _ => rfl⟩
  · split
    · exact ⟨rfl, rfl, rfl, fun f => hadd _ f (by decide)⟩
    · exact ⟨rfl, rfl, rfl, fun f => hadd _ f (by decide)⟩
    · exact ⟨rfl, rfl, rfl, fun f => hadd _ f (by decide)⟩
    · exact ⟨rfl, rfl, rfl, rtpmapOf_removeAllMediaDirections _⟩

end PjProject.Sdp
