import PjProject.SdpCmp
import PjProject.Transition

/-!
# The session negotiator

`pjmedia_sdp_neg` and its operations. A session that is replaced or copied is a value here; the
pools are left out. What `process_answer` and `create_answer` make of the media lines is an
argument of the operation, so that every outcome of theirs is covered.
-/
namespace PjProject.SdpNeg

open SdpText (Media Session Conn Origin maxSdpMedia)

inductive NegState
  | localOffer | remoteOffer | waitNego | done
  deriving DecidableEq

/-- The statuses of the operations; `failed` is one of those of `process_answer` and
`create_answer`. -/
inductive Status
  | success | einstate | enoactive | einvalid | etoomany | ebug | failed
  deriving DecidableEq

structure Contents where
  activeLocal : Option Session
  activeRemote : Option Session
  initial : Option Session
  deriving DecidableEq

/-- A call of `assign_pt_and_update_map`, with the media lines as it found and as it left them. -/
structure AssignCall where
  isOffer : Bool
  media : List Media
  result : List Media
  deriving DecidableEq

/-- `pjmedia_sdp_neg`. The last four fields are not in the source: `begun` is what the negotiator
held when the present exchange began, if it began in `STATE_DONE`; `nullUsed` says that a null
session was compared or read; `sent` lists the values that `last_sent` has had as they were handed
out, and `assigned` the calls of `assign_pt_and_update_map`. -/
structure Neg where
  state : NegState
  hasRemoteAnswer : Bool
  answerWasRemote : Bool
  maps : ℕ → PtMap
  initial : Option Session
  initialTmp : Option Session
  activeLocal : Option Session
  activeRemote : Option Session
  negLocal : Option Session
  negRemote : Option Session
  lastSent : Option Session
  begun : Option Contents
  nullUsed : Bool
  sent : List Session
  assigned : List AssignCall

def Neg.contents (n : Neg) : Contents := ⟨n.activeLocal, n.activeRemote, n.initial⟩

def forgetConn (c : Conn) : Sdp.Conn := ⟨c.netType, c.addrType, c.addr⟩

def forgetMedia (m : Media) : Sdp.Media :=
  ⟨m.media, m.port, m.transport, m.fmts, m.conn.map forgetConn, m.attrs⟩

def forget (s : Session) : Sdp.Session where
  origin := ⟨s.origin.user, s.origin.netType, s.origin.addrType, s.origin.addr⟩
  name := s.name
  conn := s.conn.map forgetConn
  attrs := s.attrs
  media := s.media.map forgetMedia

/-- `pjmedia_sdp_validate2` -/
def valid (s : Session) (strict : Bool) : Bool :=
  match SdpOffer.validate2 (forget s) strict with
  | .ok _ => true
  | .error _ => false

def Neg.init : Neg where
  state := .done
  hasRemoteAnswer := false
  answerWasRemote := false
  maps := fun _ => .init
  initial := none
  initialTmp := none
  activeLocal := none
  activeRemote := none
  negLocal := none
  negRemote := none
  lastSent := none
  begun := none
  nullUsed := false
  sent := []
  assigned := []

def createWLocalOffer (loc : Session) : Option Neg :=
  if valid loc true then
    some { Neg.init with
      state := .localOffer
      initial := some loc
      negLocal := some loc
      lastSent := some loc
      sent := [loc] }
  else none

def createWRemoteOffer (initial : Option Session) (remote : Session) : Option Neg :=
  if valid remote false then
    match initial with
    | none => some { Neg.init with state := .remoteOffer, negRemote := some remote }
    | some i =>
      if valid i true then
        some { Neg.init with
          state := .waitNego
          negRemote := some remote
          initial := some i
          negLocal := some i }
      else none
  else none

/-- `sdp_media_clone_deactivate` of an old media line that the new offer lacks. -/
def cloneDeactivate (om : Media) (sessConn : Option Conn) : Media :=
  let res := { om with port := 0, attrs := [] }
  if res.conn = none ∧ sessConn = none then
    { res with conn := some ⟨lit "IN", lit "IP4", lit "127.0.0.1", 0, 0⟩ }
  else res

/-- The line of `media` at or after `oi` that has the media type of `om`. -/
def findMedia (om : Media) (oi : ℕ) (media : List Media) : Option ℕ :=
  ((media.drop oi).findIdx? fun nm => nm.media = om.media).map (oi + ·)

/-- Put the media lines of the new offer into the order of the old one, line `oi` on. A missing
line is added with port zero. -/
def reorderMedia (sessConn : Option Conn) : ℕ → List Media → List Media → Option (List Media)
  | _, [], media => some media
  | oi, om :: old, media =>
    match findMedia om oi media with
    | some ni =>
      match media[ni]? with
      | some nm => reorderMedia sessConn (oi + 1) old ((media.eraseIdx ni).insertIdx oi nm)
      | none => none
    | none =>
      if media.length ≥ maxSdpMedia then none
      else reorderMedia sessConn (oi + 1) old (media.insertIdx oi (cloneDeactivate om sessConn))

def addMissing (sessConn : Option Conn) : List Media → List Media → Option (List Media)
  | [], media => some media
  | om :: old, media =>
    if media.length ≥ maxSdpMedia then none
    else addMissing sessConn old (media ++ [cloneDeactivate om sessConn])

def fitMedia (allowMediaChange : Bool) (sessConn : Option Conn) (old media : List Media) :
    Option (List Media) :=
  if allowMediaChange then addMissing sessConn (old.drop media.length) media
  else reorderMedia sessConn 0 old media

def bumpVersion (last : Option Session) (s : Session) : Session :=
  if last.any (sessionCmp · s) then s
  else { s with origin := { s.origin with version := (s.origin.version + 1) % 2 ^ 64 } }

/-- `assign_pt_and_update_map` on a session. -/
def Neg.assignPt (cfg : Config) (n : Neg) (isOffer : Bool) (s : Session) : Neg × Session :=
  let r := assignPtAndUpdateMap cfg isOffer n.maps s.media
  ({ n with maps := r.1, assigned := n.assigned ++ [⟨isOffer, s.media, r.2⟩] },
   { s with media := r.2 })

/-- A session becomes `last_sent`. -/
def Neg.handOut (n : Neg) (s : Session) : Neg :=
  { n with lastSent := some s, sent := n.sent ++ [s] }

def offerFrom (old loc : Session) (media : List Media) : Session :=
  { loc with origin := old.origin, media := media }

def offerAnew (cfg : Config) (loc : Session) (n : Neg) : Neg :=
  let (n', s) := n.assignPt cfg true loc
  let offer := bumpVersion n.lastSent s
  { n'.handOut offer with
    state := .localOffer
    begun := some n.contents
    initialTmp := none
    initial := some s
    negLocal := some offer
    nullUsed := n.nullUsed || n.lastSent.isNone }

/-- The new offer after the active session `old`. -/
def offerAfter (cfg : Config) (old loc : Session) (media : List Media) (n : Neg) : Neg :=
  let (n', s) := n.assignPt cfg true (offerFrom old loc media)
  let offer := bumpVersion n.lastSent s
  { n'.handOut offer with
    state := .localOffer
    begun := some n.contents
    initialTmp := n.initial
    initial := some offer
    negLocal := some offer
    nullUsed := n.nullUsed || n.lastSent.isNone }

def modifyLocalOffer2 (cfg : Config) (allowMediaChange : Bool) (loc : Session) (n : Neg) :
    Status × Neg :=
  if n.state ≠ .done then (.einstate, n)
  else if valid loc true = false then (.einvalid, n)
  else
    match n.activeLocal with
    | none => (.success, offerAnew cfg loc n)
    | some old =>
      match fitMedia allowMediaChange loc.conn old.media loc.media with
      | none => (.etoomany, n)
      | some media => (.success, offerAfter cfg old loc media n)

def offerActive (active : Session) (n : Neg) : Neg :=
  let offer := bumpVersion n.lastSent active
  { n.handOut offer with
    state := .localOffer
    begun := some n.contents
    initialTmp := if n.initial.isSome then n.initial else n.initialTmp
    negLocal := some offer }

def sendLocalOffer (n : Neg) : Status × Neg :=
  match n.state with
  | .done =>
    match n.activeLocal, n.lastSent with
    | some active, some _ => (.success, offerActive active n)
    | _, _ => (.enoactive, n)
  | .localOffer => (.success, n)
  | _ => (.einstate, n)

def setRemoteAnswer (remote : Session) (n : Neg) : Status × Neg :=
  if n.state ≠ .localOffer then (.einstate, n)
  else (.success, { n with
    state := .waitNego
    hasRemoteAnswer := true
    negRemote := some remote })

def setRemoteOffer (remote : Session) (n : Neg) : Status × Neg :=
  if n.state ≠ .done then (.einstate, n)
  else (.success, { n with
    state := .remoteOffer
    begun := some n.contents
    negRemote := some remote })

def answerWith (loc : Session) (n : Neg) : Neg :=
  match n.initial with
  | some i =>
    { n with
      state := .waitNego
      negLocal := some { loc with origin := { loc.origin with id := i.origin.id } }
      initialTmp := some i }
  | none =>
    { n with
      state := .waitNego
      negLocal := some loc
      initial := some loc }

def setLocalAnswer (loc : Session) (n : Neg) : Status × Neg :=
  if n.state ≠ .remoteOffer ∧ n.state ≠ .waitNego then (.einstate, n)
  else (.success, answerWith loc n)

def Neg.close (n : Neg) : Neg :=
  { n with
    state := .done
    initialTmp := none
    negLocal := none
    negRemote := none
    hasRemoteAnswer := false
    begun := none }

/-- A local offer is cancelled: `last_sent` goes back to the active session. -/
def Neg.withdraw (n : Neg) : Neg :=
  { n with
    lastSent := n.activeLocal.or n.lastSent
    initial := n.initialTmp : Neg }.close

def cancelOffer (n : Neg) : Status × Neg :=
  if n.state = .localOffer then (.success, n.withdraw)
  else if n.state = .remoteOffer then (.success, n.close)
  else (.einstate, n)

/-- The end of `pjmedia_sdp_neg_negotiate` when the negotiation failed. -/
def Neg.fail (n : Neg) : Neg :=
  { n with
    answerWasRemote := n.hasRemoteAnswer
    initial := n.initialTmp : Neg }.close

/-- The end of `pjmedia_sdp_neg_negotiate` when it succeeded. -/
def Neg.succeed (n : Neg) (activeLocal activeRemote : Session) : Neg :=
  { n with
    answerWasRemote := n.hasRemoteAnswer
    activeLocal := some activeLocal
    activeRemote := some activeRemote : Neg }.close

/-- The answer to the offer of the remote, with the media lines of `create_answer`. -/
def makeAnswer (cfg : Config) (loc remote : Session) (media : List Media) (n : Neg) : Neg :=
  let (n', s) := n.assignPt cfg false { loc with media := media }
  let version := (n.lastSent.map fun l => l.origin.version).getD s.origin.version
  let answer := bumpVersion n.lastSent { s with origin := { s.origin with version := version } }
  (n'.handOut answer).succeed answer remote

/-- `pjmedia_sdp_neg_negotiate`. The outcome is the media lines of the active local session and
those of the remote one after `process_answer`, or the media lines of the answer that
`create_answer` makes; there is none where they fail. A failure with a remote answer also copies
`last_sent`. -/
def negotiate (cfg : Config) (outcome : Option (List Media × List Media)) (n : Neg) :
    Status × Neg :=
  if n.state ≠ .waitNego then (.einstate, n)
  else
    match n.negRemote, n.negLocal with
    | none, _ => (.ebug, n)
    | some _, none => (.failed, { n with nullUsed := true : Neg }.fail)
    | some remote, some loc =>
      match outcome with
      | none =>
        (.failed, { n with
          nullUsed := n.nullUsed || (n.hasRemoteAnswer && n.lastSent.isNone) : Neg }.fail)
      | some (locals, remotes) =>
        if n.hasRemoteAnswer then
          (.success, n.succeed { loc with media := locals } { remote with media := remotes })
        else (.success, makeAnswer cfg loc remote locals n)

inductive Op
  | modifyLocalOffer2 (allowMediaChange : Bool) (loc : Session)
  | sendLocalOffer
  | setRemoteAnswer (remote : Session)
  | setRemoteOffer (remote : Session)
  | setLocalAnswer (loc : Session)
  | negotiate (outcome : Option (List Media × List Media))
  | cancelOffer
  deriving DecidableEq

def apply (cfg : Config) (n : Neg) : Op → Status × Neg
  | .modifyLocalOffer2 flag loc => modifyLocalOffer2 cfg flag loc n
  | .sendLocalOffer => sendLocalOffer n
  | .setRemoteAnswer remote => setRemoteAnswer remote n
  | .setRemoteOffer remote => setRemoteOffer remote n
  | .setLocalAnswer loc => setLocalAnswer loc n
  | .negotiate outcome => negotiate cfg outcome n
  | .cancelOffer => cancelOffer n

def step (cfg : Config) (n : Neg) (op : Op) : Neg := (apply cfg n op).2

inductive Move (cfg : Config) (n : Neg) : Op → Neg → Prop
  | refused (op : Op) : Move cfg n op n
  | offerAnew (flag : Bool) (loc : Session) : n.state = .done → valid loc true = true →
      n.activeLocal = none → Move cfg n (.modifyLocalOffer2 flag loc) (offerAnew cfg loc n)
  | offerAfter (flag : Bool) (loc old : Session) (media : List Media) : n.state = .done →
      valid loc true = true → n.activeLocal = some old →
      fitMedia flag loc.conn old.media loc.media = some media →
      Move cfg n (.modifyLocalOffer2 flag loc) (offerAfter cfg old loc media n)
  | offerActive (active last : Session) : n.state = .done → n.activeLocal = some active →
      n.lastSent = some last → Move cfg n .sendLocalOffer (offerActive active n)
  | remoteAnswer (remote : Session) : n.state = .localOffer →
      Move cfg n (.setRemoteAnswer remote)
        { n with state := .waitNego, hasRemoteAnswer := true, negRemote := some remote }
  | remoteOffer (remote : Session) : n.state = .done →
      Move cfg n (.setRemoteOffer remote)
        { n with state := .remoteOffer, begun := some n.contents, negRemote := some remote }
  | localAnswer (loc : Session) : n.state = .remoteOffer ∨ n.state = .waitNego →
      Move cfg n (.setLocalAnswer loc) (answerWith loc n)
  | failNull (outcome : Option (List Media × List Media)) : n.state = .waitNego →
      n.negLocal = none →
      Move cfg n (.negotiate outcome) (Neg.fail { n with nullUsed := true })
  | fail : n.state = .waitNego →
      Move cfg n (.negotiate none) (Neg.fail { n with
        nullUsed := n.nullUsed || (n.hasRemoteAnswer && n.lastSent.isNone) })
  | useAnswer (loc remote : Session) (locals remotes : List Media) : n.state = .waitNego →
      n.hasRemoteAnswer = true → n.negLocal = some loc → n.negRemote = some remote →
      Move cfg n (.negotiate (some (locals, remotes)))
        (n.succeed { loc with media := locals } { remote with media := remotes })
  | makeAnswer (loc remote : Session) (locals remotes : List Media) : n.state = .waitNego →
      n.hasRemoteAnswer = false → n.negLocal = some loc → n.negRemote = some remote →
      Move cfg n (.negotiate (some (locals, remotes))) (makeAnswer cfg loc remote locals n)
  | cancelLocal : n.state = .localOffer → Move cfg n .cancelOffer n.withdraw
  | cancelRemote : n.state = .remoteOffer → Move cfg n .cancelOffer n.close

lemma step_move (cfg : Config) (n : Neg) (op : Op) : Move cfg n op (step cfg n op) := by
  cases op with
  | modifyLocalOffer2 flag loc =>
    simp only [step, apply, modifyLocalOffer2]
    split_ifs with hst hv
    · exact .refused _
    · exact .refused _
    · rw [not_not] at hst
      have hv : valid loc true = true := by simpa using hv
      split
      · exact .offerAnew flag loc hst hv ‹_›
      · split
        · exact .refused _
        · exact .offerAfter flag loc _ _ hst hv ‹_› ‹_›
  | sendLocalOffer =>
    simp only [step, apply, sendLocalOffer]
    split
    · split
      · exact .offerActive _ _ ‹_› ‹_› ‹_›
      · exact .refused _
    · exact .refused _
    · exact .refused _
  | setRemoteAnswer remote =>
    simp only [step, apply, setRemoteAnswer]
    split_ifs with hst
    · exact .refused _
    · exact .remoteAnswer remote (not_not.1 hst)
  | setRemoteOffer remote =>
    simp only [step, apply, setRemoteOffer]
    split_ifs with hst
    · exact .refused _
    · exact .remoteOffer remote (not_not.1 hst)
  | setLocalAnswer loc =>
    simp only [step, apply, setLocalAnswer]
    split_ifs with hst
    · exact .refused _
    · exact .localAnswer loc (by tauto)
  | negotiate outcome =>
    simp only [step, apply, negotiate]
    by_cases hst : n.state = .waitNego
    swap
    · rw [if_pos hst]
      exact .refused _
    rw [if_neg (not_not_intro hst)]
    split
    · exact .refused _
    · exact .failNull outcome hst ‹_›
    · cases outcome with
      | none => exact .fail hst
      | some r =>
        obtain ⟨locals, remotes⟩ := r
        dsimp only
        split_ifs with ha
        · exact .useAnswer _ _ _ _ hst ha ‹_› ‹_›
        · exact .makeAnswer _ _ _ _ hst (by simpa using ha) ‹_› ‹_›
  | cancelOffer =>
    simp only [step, apply, cancelOffer]
    split_ifs with hloc hrem
    · exact .cancelLocal hloc
    · exact .cancelRemote hrem
    · exact .refused _

def Created (n : Neg) : Prop :=
  (∃ loc, createWLocalOffer loc = some n) ∨
    ∃ initial remote, createWRemoteOffer initial remote = some n

end PjProject.SdpNeg
