import PjProject.IceChecklist

/-!
# The ICE session

The state machine of `ice_session.c` over its checklist: candidates, connectivity checks and their
STUN transactions, incoming checks, nomination and completion. What the network, the timers and the
STUN session decide comes with the events.
-/
namespace PjProject.IceSession

open IceRole (Role RoleAttr repairRole)

/-- `enum timer_type`, what the timer of the session is running for. -/
inductive TimerId
  | none | completionCallback | controlledWaitNom | waitValidPair | startNominatedCheck | keepAlive
  deriving DecidableEq

/-- `pj_ice_rx_check`. The source address is the one that was put into the response; `foundation` is
what a new candidate gets. -/
structure RxCheck where
  compId : ℕ
  transportId : ℕ
  srcAddr : SockAddr
  useCandidate : Bool
  priority : UInt32
  foundation : List UInt8
  deriving DecidableEq

/-- The request data of a `pj_ice_msg_data`, with the transmit data it goes with and the role
attribute of the request. -/
structure Tsx where
  tdata : ℕ
  transportId : ℕ
  ckid : ℕ
  lcand : ℕ
  rcand : ℕ
  controlling : Bool
  deriving DecidableEq

/-- How `perform_check` gets its request away. -/
inductive Sent
  | ok
  | createFailed (status : ℕ)
  | sendFailed (status : ℕ)
  deriving DecidableEq

inductive Response
  | roleConflict
  | error (status : ℕ)
  | success (srcAddr : SockAddr) (mapped : Option SockAddr)
  deriving DecidableEq

inductive Report
  /-- The callback of `on_ice_complete`. -/
  | iceComplete (status : ℕ)
  /-- A check as it was appended for an incoming request, with the USE-CANDIDATE of that. -/
  | triggered (chk : Check) (useCandidate : Bool)
  /-- A check as it was appended for a pair. -/
  | paired (chk : Check)
  deriving DecidableEq

/-- `pj_ice_sess`. Its components are the first `comp_cnt` of the array. -/
structure Ice extends Pairing where
  lcandCnt : ℕ
  rcandCnt : ℕ
  lcandPaired : ℕ
  rcandPaired : ℕ
  validList : Checklist
  /-- `opt.trickle` is not `PJ_ICE_SESS_TRICKLE_DISABLED`. -/
  trickle : Bool
  aggressive : Bool
  /-- Whether the two timeouts of the options are enabled. -/
  waitValidPair : Bool
  controlledWantNom : Bool
  isNominating : Bool
  isComplete : Bool
  iceStatus : ℕ
  timer : TimerId
  timerEndOfCand : Bool
  /-- `tx_ufrag` is set: the checklist was created. -/
  txUfrag : Bool
  earlyCheck : List RxCheck
  tieBreaker : UInt64
  /-- The transactions that are under way. -/
  pending : List Tsx
  nextTdata : ℕ
  prefs : CandType → UInt32
  calcFoundation : CandType → SockAddr → List UInt8
  /-- `pj_sockaddr_synthesize` to an IPv6 address. -/
  synthesize : SockAddr → Option SockAddr
  log : List Report

/-- `PJNATH_EICEFAILED`, `PJNATH_EICENOMTIMEOUT`, `PJNATH_EICEINSRCADDR` and
`PJNATH_ESTUNNOMAPPEDADDR`. -/
def eIceFailed : ℕ := 370106

def eIceNomTimeout : ℕ := 370105

def eIceInSrcAddr : ℕ := 370093

def eStunNoMappedAddr : ℕ := 370064

/-- `PJ_EINVAL` and `PJ_ETOOMANY` -/
def eInval : ℕ := 70004

def eTooMany : ℕ := 70010

def afInet : ℕ := 2

def afInet6 : ℕ := 10

def Ice.setCheck (ice : Ice) (i : ℕ) (c : Check) : Ice :=
  { ice with clist := { ice.clist with checks := Function.update ice.clist.checks i c } }

/-- `on_ice_complete`, with a callback set. -/
def onIceComplete (ice : Ice) (status : ℕ) : Ice :=
  if ice.isComplete then ice
  else { ice with isComplete := true, iceStatus := status, timer := .completionCallback }

def waitValidPairOrFail (ice : Ice) : Ice × Bool :=
  if ice.timer = .waitValidPair then (ice, false)
  else if ice.timer = .none ∧ ice.waitValidPair then ({ ice with timer := .waitValidPair }, false)
  else (onIceComplete ice eIceFailed, true)

def matchesValid (ice : Ice) (vc c : Check) : Bool :=
  (ice.lcand c.lcand).transportId = (ice.lcand vc.lcand).transportId ∧ c.rcand = vc.rcand

def Ice.deref (ice : Ice) (p : CheckPtr) : Check :=
  match p.list with
  | .clist => ice.clist.checks p.idx
  | .valid => ice.validList.checks p.idx

/-- The part of `start_nominated_check` for one component. -/
def renominate (ice : Ice) (comp : Comp) : Ice :=
  match comp.validCheck with
  | none => ice
  | some p =>
    match findFrom (fun j => matchesValid ice (ice.deref p) (ice.clist.checks j)) ice.clist.count 0 with
    | none => ice
    | some j => ice.setCheck j ((ice.clist.checks j).setState .waiting pjSuccess)

def startNominatedCheck (ice : Ice) : Ice :=
  let ice := { ice with
    isTrickling := false
    timer := if ice.timer = TimerId.startNominatedCheck then .none else ice.timer }
  let ice := ice.comps.foldl renominate ice
  { ice with clist := { ice.clist with timerRunning := true }, isNominating := true }

def Ice.allNominated (ice : Ice) : Bool := ice.comps.all fun c => c.nominatedCheck.isSome

def Ice.allValid (ice : Ice) : Bool := ice.comps.all fun c => c.validCheck.isSome

def Ice.noPendingCheck (ice : Ice) : Bool :=
  (List.range ice.clist.count).all fun i => CheckState.succeeded.value ≤ (ice.clist.checks i).state.value

/-- The part of `check_ice_complete` when all checks have completed. -/
def allChecksCompleted (ice : Ice) : Ice × Bool :=
  let stopWaiting : Ice := { ice with timer := if ice.timer = TimerId.waitValidPair then .none else ice.timer }
  if ice.role = .controlled then
    if ¬ ice.allValid then waitValidPairOrFail ice
    else if stopWaiting.timer = .none ∧ ice.controlledWantNom then
      ({ stopWaiting with timer := .controlledWaitNom }, false)
    else (stopWaiting, false)
  else if ice.isNominating then (onIceComplete ice eIceFailed, true)
  else if ¬ ice.allValid then waitValidPairOrFail ice
  else (startNominatedCheck stopWaiting, false)

def checkIceComplete (ice : Ice) : Ice × Bool :=
  if ice.allNominated then (onIceComplete ice pjSuccess, true)
  else if ¬ ice.isTrickling ∧ ice.noPendingCheck then allChecksCompleted ice
  else if ice.role = .controlling ∧ ¬ ice.isNominating ∧ ice.timer = .none then
    if ¬ ice.allValid then (ice, false) else ({ ice with timer := .startNominatedCheck }, false)
  else (ice, false)

def unfreeze (done c : Check) : Check :=
  if c.foundationIdx = done.foundationIdx ∧ c.state = .frozen then c.setState .waiting pjSuccess else c

/-- What a nominated success does to the checks of its component, with `PJ_ICE_CANCEL_ALL` set. -/
def cancel (lcand : ℕ → Cand) (done c : Check) : Check :=
  if (lcand c.lcand).compId = (lcand done.lcand).compId then
    if c.state.value < CheckState.inProgress.value then c.setState .failed pjECancelled
    else if c.state = .inProgress ∧ c.tdata.isSome then { c with tdata := none }.setState .failed pjECancelled
    else c
  else c

/-- The requests that `cancel` takes back. -/
def cancelled (lcand : ℕ → Cand) (done c : Check) : Option ℕ :=
  if (lcand c.lcand).compId = (lcand done.lcand).compId ∧ c.state = .inProgress then c.tdata else none

def Checklist.mapChecks (cl : Checklist) (f : Check → Check) : Checklist :=
  { cl with checks := fun p => if p < cl.count then f (cl.checks p) else cl.checks p }

/-- The first loop of `on_check_complete`, after a success. -/
def unfreezeAll (ice : Ice) (done : Check) : Ice := { ice with clist := ice.clist.mapChecks (unfreeze done) }

/-- The second loop of `on_check_complete`, after a nominated success. -/
def cancelAll (ice : Ice) (done : Check) : Ice :=
  let gone := (List.range ice.clist.count).filterMap fun i => cancelled ice.lcand done (ice.clist.checks i)
  { ice with
    clist := ice.clist.mapChecks (cancel ice.lcand done)
    pending := ice.pending.filter fun t => ¬ gone.contains t.tdata }

def onCheckComplete (ice : Ice) (ckid : ℕ) : Ice × Bool :=
  let done := ice.clist.checks ckid
  let ice := if done.errCode = pjSuccess then unfreezeAll ice done else ice
  let ice := if done.errCode = pjSuccess ∧ done.nominated then cancelAll ice done else ice
  checkIceComplete ice

/-- `update_comp_check` -/
def updateComp (ice : Ice) (p : CheckPtr) (comp : Comp) : Comp :=
  let chk := ice.deref p
  let valid :=
    match comp.validCheck with
    | none => some p
    | some v =>
      if comp.nominatedCheck.isNone ∧ chk.nominated then some p
      else if cmpCheckPrio (ice.deref v) chk < 0 ∧ (comp.nominatedCheck.isNone ∨ chk.nominated) then some p
      else some v
  let nominated :=
    if chk.nominated then
      match comp.nominatedCheck with
      | none => some p
      | some n => if cmpCheckPrio (ice.deref n) chk < 0 then some p else some n
    else comp.nominatedCheck
  ⟨valid, nominated⟩

def updateCompCheck (ice : Ice) (compId : ℕ) (p : CheckPtr) : Ice :=
  { ice with comps := ice.comps.modify (compId - 1) (updateComp ice p) }

def calcCandPrio (ice : Ice) (type : CandType) (localPref compId : UInt32) : UInt32 :=
  ((ice.prefs type &&& 0xFF) <<< 24) + ((localPref &&& 0xFFFF) <<< 8) + ((256 - compId) &&& 0xFF)

/-- `pj_ice_sess_add_cand`: the session, and the index of the candidate or the error. -/
def addCand (ice : Ice) (compId transportId : ℕ) (type : CandType) (localPref : UInt32) (foundation : List UInt8)
    (addr baseAddr : SockAddr) : Ice × Except ℕ ℕ :=
  if compId = 0 ∨ ice.comps.length < compId then (ice, .error eInval)
  else if maxCand ≤ ice.lcandCnt then (ice, .error eTooMany)
  else
    let same := fun i => (ice.lcand i).compId = compId ∧ (ice.lcand i).type = type ∧ (ice.lcand i).addr = addr ∧
      (ice.lcand i).baseAddr = baseAddr
    match if ice.trickle then findFrom (fun i => decide (same i)) ice.lcandCnt 0 else none with
    | some i => (ice, .ok i)
    | none =>
      let cand : Cand := ⟨type, compId, transportId, foundation,
        calcCandPrio ice type localPref (UInt32.ofNat compId), addr, baseAddr⟩
      ({ ice with lcand := Function.update ice.lcand ice.lcandCnt cand, lcandCnt := ice.lcandCnt + 1 }, .ok ice.lcandCnt)

/-- The first loop of `add_rcand_and_update_checklist`. -/
def saveRcand (ice : Ice) (cand : Cand) : Ice :=
  if cand.compId = 0 ∨ ice.comps.length < cand.compId then ice
  else if ice.trickle ∧ (findFrom (fun j => cand.compId = (ice.rcand j).compId ∧ cand.type = (ice.rcand j).type ∧
      cand.addr = (ice.rcand j).addr) ice.rcandCnt 0).isSome then ice
  else if maxCand ≤ ice.rcandCnt then ice
  else { ice with rcand := Function.update ice.rcand ice.rcandCnt cand, rcandCnt := ice.rcandCnt + 1 }

def Ice.indices (ice : Ice) : List (ℕ × ℕ) := pairIndices ice.lcandPaired ice.lcandCnt ice.rcandPaired ice.rcandCnt

def pairCandidates (ice : Ice) : Ice × Bool :=
  let r := pairAll ice.toPairing ice.indices
  let added := r.2.filterMap PairResult.added
  let ice := { ice with
    toPairing := r.1
    log := ice.log ++ added.map .paired }
  (ice, !added.isEmpty)

def sortChecks (ice : Ice) : Ice :=
  let s := sortChecklist .clist ice.clist ice.comps
  { ice with clist := s.1, comps := s.2 }

def pruneChecks (ice : Ice) : Ice × Bool :=
  let r := pruneChecklist ice.lcand ice.lcandCnt ice.clist
  ({ ice with clist := r.1 }, r.2)

/-- The end of `add_rcand_and_update_checklist`: components without a remote candidate are disabled, and
the periodic check goes on. -/
def finishUpdate (ice : Ice) (trickleDone : Bool) : Ice :=
  let highest := (List.range ice.rcandCnt).foldl (fun h i => max h (ice.rcand i).compId) 0
  let ice :=
    if trickleDone then
      let ice := { ice with comps := ice.comps.take highest }
      if ice.trickle then (checkIceComplete ice).1 else ice
    else ice
  let ice :=
    if ice.trickle ∧ 0 < ice.clist.count ∧ ¬ ice.isComplete ∧ ice.clist.state = .running then
      { ice with clist := { ice.clist with timerRunning := true } }
    else ice
  { ice with timerEndOfCand := ice.timerEndOfCand && !trickleDone }

def markPaired (ice : Ice) : Ice := { ice with lcandPaired := ice.lcandCnt, rcandPaired := ice.rcandCnt }

/-- `add_rcand_and_update_checklist`, and whether it succeeds. -/
def addRcandAndUpdateChecklist (ice : Ice) (rem : List Cand) (trickleDone : Bool) : Ice × Bool :=
  let r := pairCandidates (rem.foldl saveRcand ice)
  if r.1.clist.count = 0 ∧ trickleDone then (r.1, false)
  else
    if r.2 then
      let s := pruneChecks (sortChecks (markPaired r.1))
      if s.2 then (finishUpdate s.1 trickleDone, true) else (s.1, false)
    else (finishUpdate (markPaired r.1) trickleDone, true)

/-- The state in which `pj_ice_sess_create_check_list` starts to pair. -/
def startChecklist (ice : Ice) : Ice :=
  { ice with
    txUfrag := true
    clist := { ice.clist with timerRunning := false, count := 0 }
    lcandPaired := 0
    rcandPaired := 0 }

/-- `pj_ice_sess_create_check_list`. Credentials of other lengths are refused. -/
def createCheckList (ice : Ice) (rem : List Cand) (credsOk : Bool) : Ice :=
  if ice.txUfrag ∨ ¬ credsOk then ice
  else if 0 < ice.lcandCnt ∧ rem ≠ [] then
    (addRcandAndUpdateChecklist (startChecklist ice) rem (!ice.isTrickling)).1
  else startChecklist ice

/-- `pj_ice_sess_update_check_list`. Candidates that come with other credentials are ignored. -/
def updateCheckList (ice : Ice) (rem : List Cand) (trickleDone credsMatch : Bool) : Ice :=
  if ¬ ice.txUfrag then ice
  else if ¬ ice.isTrickling ∧ rem ≠ [] then ice
  else
    let ice := (addRcandAndUpdateChecklist ice (if credsMatch then rem else []) trickleDone).1
    { ice with isTrickling := ice.isTrickling && !trickleDone }

/-- `perform_check`: the session, and the status if it is not `PJ_SUCCESS`. -/
def performCheck (ice : Ice) (ckid : ℕ) (nominate : Bool) (sent : Sent) : Ice × Option ℕ :=
  let check := ice.clist.checks ckid
  let controlling := ice.role = .controlling
  let marked := { check with nominated := check.nominated || (controlling && nominate) }
  match sent with
  | .createFailed status => (ice, some status)
  | .sendFailed status => (ice.setCheck ckid { marked with tdata := none }, some status)
  | .ok =>
    let ice := ice.setCheck ckid ({ marked with tdata := some ice.nextTdata }.setState .inProgress pjSuccess)
    ({ ice with
      pending := ⟨ice.nextTdata, (ice.lcand check.lcand).transportId, ckid, check.lcand, check.rcand, controlling⟩ ::
        ice.pending
      nextTdata := ice.nextTdata + 1 }, none)

/-- The check that `start_periodic_check` picks. -/
def nextCheck (ice : Ice) : Option ℕ :=
  let inState := fun st j => decide ((ice.clist.checks j).state = st)
  if ice.isNominating ∧ ¬ ice.aggressive then
    ice.comps.findSome? fun comp =>
      comp.validCheck.bind fun p =>
        findFrom (fun j => inState .waiting j && matchesValid ice (ice.deref p) (ice.clist.checks j)) ice.clist.count 0
  else
    (findFrom (inState .waiting) ice.clist.count 0).or (findFrom (inState .frozen) ice.clist.count 0)

def runTimer (ice : Ice) : Ice := { ice with clist := { ice.clist with timerRunning := true } }

def performNext (ice : Ice) (i : ℕ) (sent : Sent) : Ice :=
  match performCheck ice i ice.isNominating sent with
  | (ice, none) => ice
  | (ice, some status) => (onCheckComplete (ice.setCheck i ((ice.clist.checks i).setState .failed status)) i).1

def startPeriodicCheck (ice : Ice) (sent : Sent) : Ice :=
  let ice := { ice with clist := { ice.clist with timerRunning := false, state := .running } }
  match nextCheck ice with
  | none => ice
  | some i => runTimer (performNext ice i sent)

def findRcand (ice : Ice) (rcheck : RxCheck) : Option (Ice × ℕ) :=
  match findFrom (fun i => rcheck.srcAddr = (ice.rcand i).addr) ice.rcandCnt 0 with
  | some i => some (ice, i)
  | none =>
    if maxCand ≤ ice.rcandCnt then none
    else
      -- the other fields are those that the slot had
      let old := ice.rcand ice.rcandCnt
      let cand : Cand := { old with
        compId := rcheck.compId, type := .prflx, prio := rcheck.priority, addr := rcheck.srcAddr,
        foundation := rcheck.foundation }
      some ({ ice with rcand := Function.update ice.rcand ice.rcandCnt cand, rcandCnt := ice.rcandCnt + 1 }, ice.rcandCnt)

def betterLcand (ice : Ice) (rcheck : RxCheck) (best : Option ℕ) (i : ℕ) : Option ℕ :=
  if (ice.lcand i).compId = rcheck.compId ∧ (ice.lcand i).transportId = rcheck.transportId then
    match best with
    | none => some i
    | some b => if (ice.lcand b).prio < (ice.lcand i).prio then some i else some b
  else best

def findLcand (ice : Ice) (rcheck : RxCheck) : Option ℕ :=
  (List.range ice.lcandCnt).foldl (betterLcand ice rcheck) none

/-- The loop that marks the valid checks of a check as nominated, with `k` slots left from `j` on. -/
def nominateValid (c : Check) : ℕ → ℕ → Ice → Ice
  | 0, _, ice => ice
  | k + 1, j, ice =>
    let vc := ice.validList.checks j
    if (ice.lcand vc.lcand).transportId = (ice.lcand c.lcand).transportId ∧ vc.rcand = c.rcand then
      let ice := { ice with validList := { ice.validList with
        checks := Function.update ice.validList.checks j { vc with nominated := true } } }
      nominateValid c k (j + 1) (updateCompCheck ice (ice.lcand vc.lcand).compId ⟨.valid, j⟩)
    else nominateValid c k (j + 1) ice

/-- The part of `handle_incoming_check` for a check of the list. -/
def triggerOld (ice : Ice) (i : ℕ) (useCandidate : Bool) (sent : Sent) : Ice :=
  let old := ice.clist.checks i
  let c := { old with nominated := useCandidate || old.nominated }
  let ice := ice.setCheck i c
  if c.state = .frozen ∨ c.state = .waiting then
    if ice.isNominating ∧ ¬ ice.aggressive then ice
    else (performCheck ice i (c.nominated || ice.isNominating) sent).1
  else if c.state = .succeeded then
    let ice := if useCandidate then nominateValid c ice.validList.count 0 ice else ice
    (onCheckComplete ice i).1
  else ice

def triggeredCheck (ice : Ice) (l r : ℕ) (useCandidate : Bool) : Check :=
  let slot := ice.clist.checks ice.clist.count
  { slot with
    lcand := l, rcand := r, prio := calcCheckPrio ice.role (ice.lcand l).prio (ice.rcand r).prio, state := .waiting,
    nominated := useCandidate, errCode := pjSuccess }

def placeTriggered (ice : Ice) (l r : ℕ) (useCandidate : Bool) : Ice :=
  let c := triggeredCheck ice l r useCandidate
  { ice with
    clist := { ice.clist with
      checks := Function.update ice.clist.checks ice.clist.count c
      count := ice.clist.count + 1 }
    log := ice.log ++ [.triggered c useCandidate] }

/-- The part of `handle_incoming_check` for a pair that is not in the list. -/
def triggerNew (ice : Ice) (l r : ℕ) (useCandidate : Bool) (sent : Sent) : Ice :=
  let i := ice.clist.count
  let ice := placeTriggered ice l r useCandidate
  let ice :=
    if ice.isNominating ∧ ¬ ice.aggressive then { ice with clist := { ice.clist with timerRunning := true } }
    else (performCheck ice i (useCandidate || ice.isNominating) sent).1
  sortChecks ice

/-- What `handle_incoming_check` finds: nothing to do, a check of the list, or a new pair. -/
inductive Incoming
  | ignored (ice : Ice)
  | old (ice : Ice) (i : ℕ)
  | new (ice : Ice) (l r : ℕ)

def incoming (ice : Ice) (rcheck : RxCheck) : Incoming :=
  if ice.isComplete then .ignored ice
  else
    match findRcand ice rcheck with
    | none => .ignored ice
    | some (ice, r) =>
      match findLcand ice rcheck with
      | none => .ignored ice
      | some l =>
        match findFrom (fun i => (ice.clist.checks i).lcand = l ∧ (ice.clist.checks i).rcand = r)
            ice.clist.count 0 with
        | some i => .old ice i
        | none => if ice.clist.count < maxChecks then .new ice l r else .ignored ice

def handleIncomingCheck (ice : Ice) (rcheck : RxCheck) (sent : Sent) : Ice :=
  match incoming ice rcheck with
  | .ignored ice => ice
  | .old ice i => triggerOld ice i rcheck.useCandidate sent
  | .new ice l r => triggerNew ice l r rcheck.useCandidate sent

/-- The request part of `on_stun_rx_request`: a request that comes before the remote credentials is
kept for later. -/
def onStunRxRequest (ice : Ice) (attr : Option (RoleAttr × UInt64)) (rcheck : RxCheck) (sent : Sent) : Ice :=
  let r := repairRole ⟨ice.role, ice.tieBreaker, ice.isComplete, false, [], 0⟩ attr
  let ice := { ice with role := r.1.role }
  if r.2 = .roleConflict then ice
  else if ¬ ice.txUfrag then { ice with earlyCheck := ice.earlyCheck ++ [rcheck] }
  else handleIncomingCheck ice rcheck sent

/-- The check of a foundation that `pj_ice_sess_start_check` unfreezes. -/
def pickFrozen (ice : Ice) (foundationIdx : ℕ) : Option ℕ :=
  (List.range ice.clist.count).foldl (fun best k =>
    let c := ice.clist.checks k
    if c.foundationIdx ≠ foundationIdx ∨ c.state ≠ .frozen then best
    else
      match best with
      | none => some k
      | some b =>
        let chk := ice.clist.checks b
        if (ice.lcand c.lcand).compId < (ice.lcand chk.lcand).compId then some k
        else if (ice.lcand c.lcand).compId = (ice.lcand chk.lcand).compId ∧ 0 < cmpTimestamp c.prio chk.prio then some k
        else some b) none

def unfreezeFoundation (ice : Ice) (foundationIdx : ℕ) : Ice :=
  match pickFrozen ice foundationIdx with
  | none => ice
  | some k => ice.setCheck k ((ice.clist.checks k).setState .waiting pjSuccess)

def unfreezeFoundations (ice : Ice) : Ice :=
  let ice := { ice with isNominating := ice.isNominating || ice.aggressive }
  (List.range ice.clist.foundation.length).foldl unfreezeFoundation ice

def performEarly (ice : Ice) (sents : ℕ → Sent) : ℕ → List RxCheck → Ice
  | _, [] => ice
  | n, rcheck :: rest => performEarly (handleIncomingCheck ice rcheck (sents n)) sents (n + 1) rest

/-- `pj_ice_sess_start_check`. Without a checklist its timer has no callback and cannot be started. -/
def startCheck (ice : Ice) (sents : ℕ → Sent) : Ice :=
  if ice.clist.count = 0 ∧ ¬ ice.isTrickling then ice
  else
    let ice := unfreezeFoundations ice
    let ice := performEarly ice sents 0 ice.earlyCheck
    { ice with
      earlyCheck := []
      clist := { ice.clist with timerRunning := ice.clist.timerRunning || ice.txUfrag }
      timerEndOfCand := ice.timerEndOfCand || ice.isTrickling }

/-- The check that `on_stun_request_complete` takes a transaction to be of: the one in the slot that
the transaction remembers if it has the transmit data, or else that of the pair in the list. -/
def completedCheck (ice : Ice) (t : Tsx) : Option ℕ :=
  if (ice.clist.checks t.ckid).tdata = some t.tdata then some t.ckid
  else findFrom (fun i => (ice.clist.checks i).lcand = t.lcand ∧ (ice.clist.checks i).rcand = t.rcand) ice.clist.count 0

def sourceMatches (ice : Ice) (rcand srcAddr : SockAddr) : Bool :=
  rcand = srcAddr ∨ (rcand.family = afInet ∧ srcAddr.family = afInet6 ∧ ice.synthesize rcand = some srcAddr)

def failCheck (ice : Ice) (i status : ℕ) : Ice :=
  (onCheckComplete (ice.setCheck i ((ice.clist.checks i).setState .failed status)) i).1

def mappedCand (ice : Ice) (t : Tsx) (lcand : Cand) (mapped : SockAddr) : Ice × Except ℕ ℕ :=
  match findFrom (fun i => mapped = (ice.lcand i).addr ∧ lcand.baseAddr = (ice.lcand i).baseAddr) ice.lcandCnt 0 with
  | some i => (ice, .ok i)
  | none =>
    addCand ice lcand.compId t.transportId .prflx (65535 - UInt32.ofNat ice.lcandCnt)
      (ice.calcFoundation .prflx lcand.baseAddr) mapped lcand.baseAddr

def validPair (ice : Ice) (l : ℕ) (check : Check) : Checklist × ℕ :=
  let vl := ice.validList
  match findFrom (fun i => (vl.checks i).lcand = l ∧ (vl.checks i).rcand = check.rcand) vl.count 0 with
  | some i => ({ vl with checks := Function.update vl.checks i { vl.checks i with nominated := check.nominated } }, i)
  | none =>
    let slot := vl.checks vl.count
    let c : Check := { slot with
      lcand := l, rcand := check.rcand, prio := calcCheckPrio ice.role (ice.lcand l).prio (ice.rcand check.rcand).prio,
      state := .succeeded, nominated := check.nominated, errCode := pjSuccess }
    ({ vl with checks := Function.update vl.checks vl.count c, count := vl.count + 1 }, vl.count)

/-- The end of `on_stun_request_complete` for the check in slot `i`, with the local candidate of the
valid pair. -/
def addValid (ice : Ice) (i l : ℕ) : Ice :=
  let r := validPair ice l (ice.clist.checks i)
  let ice := { ice with validList := r.1 }
  let ice := updateCompCheck ice (ice.lcand l).compId ⟨.valid, r.2⟩
  let s := sortChecklist .valid ice.validList ice.comps
  let ice := { ice with validList := s.1, comps := s.2 }
  (onCheckComplete (ice.setCheck i ((ice.clist.checks i).setState .succeeded pjSuccess)) i).1

/-- The success case of `on_stun_request_complete`. -/
def succeedCheck (ice : Ice) (t : Tsx) (i : ℕ) (srcAddr : SockAddr) (mapped : Option SockAddr) : Ice :=
  let check := ice.clist.checks i
  if ¬ sourceMatches ice (ice.rcand check.rcand).addr srcAddr then failCheck ice i eIceInSrcAddr
  else
    match mapped with
    | none => failCheck ice i eStunNoMappedAddr
    | some mapped =>
      match mappedCand ice t (ice.lcand check.lcand) mapped with
      | (ice, .error status) => failCheck ice i status
      | (ice, .ok l) => addValid ice i l

/-- A transaction has ended for the check in slot `i`. -/
def completeCheck (ice : Ice) (t : Tsx) (i : ℕ) (response : Response) (sent : Sent) : Ice :=
  let ice := ice.setCheck i { ice.clist.checks i with tdata := none }
  match response with
  | .roleConflict =>
    let ice := { ice with role := if t.controlling then .controlled else .controlling }
    let ice := ice.setCheck i ((ice.clist.checks i).setState .waiting pjSuccess)
    (performCheck ice i ((ice.clist.checks i).nominated || ice.isNominating) sent).1
  | .error status => failCheck ice i status
  | .success srcAddr mapped => succeedCheck ice t i srcAddr mapped

def onStunRequestComplete (ice : Ice) (t : Tsx) (response : Response) (sent : Sent) : Ice :=
  if ice.isComplete then ice
  else
    match completedCheck ice t with
    | some i => completeCheck ice t i response sent
    | none => ice.setCheck t.ckid { ice.clist.checks t.ckid with tdata := none }

/-- `pj_ice_sess_options`, with the delays that can be disabled as whether they are not. -/
structure Options where
  trickle : Bool
  aggressive : Bool
  waitValidPair : Bool
  controlledWantNom : Bool
  deriving DecidableEq

def Cand.zero : Cand := ⟨.host, 0, 0, [], 0, ⟨0, [], 0⟩, ⟨0, [], 0⟩⟩

def Checklist.zero : Checklist := ⟨.idle, 0, fun _ => .zero, [], false⟩

/-- `pj_ice_sess_create` and `pj_ice_sess_set_options`: trickling turns aggressive nomination off. -/
def create (role : Role) (compCnt : ℕ) (opt : Options) (tieBreaker : UInt64) (prefs : CandType → UInt32)
    (calcFoundation : CandType → SockAddr → List UInt8) (synthesize : SockAddr → Option SockAddr) : Ice where
  role := role
  isTrickling := opt.trickle
  lcand := fun _ => .zero
  rcand := fun _ => .zero
  clist := .zero
  comps := List.replicate compCnt ⟨none, none⟩
  lcandCnt := 0
  rcandCnt := 0
  lcandPaired := 0
  rcandPaired := 0
  validList := .zero
  trickle := opt.trickle
  aggressive := opt.aggressive && !opt.trickle
  waitValidPair := opt.waitValidPair
  controlledWantNom := opt.controlledWantNom
  isNominating := false
  isComplete := false
  iceStatus := pjSuccess
  timer := .none
  timerEndOfCand := false
  txUfrag := false
  earlyCheck := []
  tieBreaker := tieBreaker
  pending := []
  nextTdata := 0
  prefs := prefs
  calcFoundation := calcFoundation
  synthesize := synthesize
  log := []

def onTimer (ice : Ice) : Ice :=
  let type := ice.timer
  let ice := { ice with timer := .none }
  match type with
  | .none => ice
  | .controlledWaitNom => onIceComplete ice eIceNomTimeout
  | .waitValidPair =>
    if ice.noPendingCheck ∧ ¬ ice.allValid then onIceComplete ice eIceFailed else (checkIceComplete ice).1
  | .completionCallback =>
    { ice with
      timer := if ice.iceStatus = pjSuccess then .keepAlive else .none
      log := ice.log ++ [.iceComplete ice.iceStatus] }
  | .startNominatedCheck => startNominatedCheck ice
  | .keepAlive => { ice with timer := .keepAlive }

def endOfCandIndTimer (ice : Ice) : Ice :=
  let ice := { ice with timerEndOfCand := false }
  if ice.isTrickling ∧ ¬ ice.isComplete then (checkIceComplete { ice with isTrickling := false }).1 else ice

inductive Event
  | addCand (compId transportId : ℕ) (type : CandType) (localPref : UInt32) (foundation : List UInt8)
      (addr baseAddr : SockAddr)
  | createCheckList (rem : List Cand) (credsOk : Bool)
  | updateCheckList (rem : List Cand) (trickleDone credsMatch : Bool)
  | startCheck (sents : ℕ → Sent)
  | periodicTimer (sent : Sent)
  | rxRequest (attr : Option (RoleAttr × UInt64)) (rcheck : RxCheck) (sent : Sent)
  | stunComplete (tdata : ℕ) (response : Response) (sent : Sent)
  | timer
  | endOfCandTimer
  | changeRole (role : Role)

def dropTsx (ice : Ice) (tdata : ℕ) : Ice := { ice with pending := ice.pending.filter fun t => t.tdata ≠ tdata }

def stunComplete (ice : Ice) (tdata : ℕ) (response : Response) (sent : Sent) : Ice :=
  match ice.pending.find? fun t => t.tdata = tdata with
  | none => ice
  | some t => onStunRequestComplete (dropTsx ice tdata) t response sent

def step (ice : Ice) : Event → Ice
  | .addCand compId transportId type localPref foundation addr baseAddr =>
    (addCand ice compId transportId type localPref foundation addr baseAddr).1
  | .createCheckList rem credsOk => createCheckList ice rem credsOk
  | .updateCheckList rem trickleDone credsMatch => updateCheckList ice rem trickleDone credsMatch
  | .startCheck sents => startCheck ice sents
  | .periodicTimer sent => if ice.clist.timerRunning then startPeriodicCheck ice sent else ice
  | .rxRequest attr rcheck sent => onStunRxRequest ice attr rcheck sent
  | .stunComplete tdata response sent => stunComplete ice tdata response sent
  | .timer => if ice.timer = .none then ice else onTimer ice
  | .endOfCandTimer => if ice.timerEndOfCand then endOfCandIndTimer ice else ice
  | .changeRole role => { ice with role := role }

end PjProject.IceSession
