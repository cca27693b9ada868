import PjProject.Transition

/-!
# Event subscriptions

The subscription of `evsub.c` for both roles: its state, its timer, the transactions
attached to it and the callbacks of the application. A function that calls the
application, or sends a message, is interrupted there: the application may use the
subscription, and the transaction of the message may report its state, before the call
returns. What is left of the interrupted functions is kept on a stack of frames, and the
event `ret` is the return of the innermost call.
-/
namespace PjProject.Evsub
open Transition

inductive EvsubState
  | null | sent | accepted | pending | active | terminated | unknown
  deriving DecidableEq

inductive Role
  | uac | uas
  deriving DecidableEq

inductive TimerType
  | none | uacRefresh | uasTimeout | uacTerminate | uacWaitNotify
  deriving DecidableEq

inductive Method
  | invite | subscribe | notify | other (id : ℕ)
  deriving DecidableEq

inductive TsxState
  | null | calling | trying | proceeding | completed | confirmed | terminated
  deriving DecidableEq

def TsxState.rank : TsxState → ℕ
  | .null => 0 | .calling => 1 | .trying => 2 | .proceeding => 3
  | .completed => 4 | .confirmed => 5 | .terminated => 6

/-- A transaction of the dialog; `attached` when its `mod_data` points to the
subscription. -/
structure Tsx where
  role : Role
  method : Method
  state : TsxState
  statusCode : ℕ
  attached : Bool
  deriving DecidableEq

/-- A `Subscription-State` header: the state that `get_hdr_state` reads in it, and its
`expires` parameter. -/
structure SubStateHdr where
  state : EvsubState
  expiresParam : Option ℕ
  deriving DecidableEq

inductive Source
  | rxMsg | txMsg | timer | other
  deriving DecidableEq

/-- What the event of a transaction carries: its kind, and what is found in its message.
`found` when the Event header leads to this subscription, `knownPkg` when the header's
package is registered, and `rand` is the value of `pj_rand`. -/
structure Info where
  src : Source
  found : Bool
  knownPkg : Bool
  expires : Option ℕ
  subState : Option SubStateHdr
  retryAfter : Bool
  authRetry : Bool
  rand : ℕ
  deriving DecidableEq

/-- What the caller of `set_state` still has to do. -/
inductive Next
  | done
  /-- The end of `mod_evsub_on_tsx_state`. -/
  | finish (id : ℕ)
  /-- A refresh with Expires zero goes on to `on_rx_refresh`. -/
  | enterRefresh (id : ℕ) (old : EvsubState)
  /-- An accepted refresh goes on to the timer. -/
  | uasTimer (id : ℕ)
  /-- The end of `pjsip_evsub_send_request` for a NOTIFY. -/
  | notified (refresh : Option ℕ)
  deriving DecidableEq

/-- A call that has not returned yet. The number is the transaction that
`mod_evsub_on_tsx_state` is handling. -/
inductive Frame
  /-- `on_tsx_state` of the application. -/
  | tsxCb (id : ℕ) (info : Info)
  /-- `on_evsub_state`, called by `set_state`. -/
  | state (st prev : EvsubState) (next : Next)
  | rxNotify (id : ℕ) (hdr : SubStateHdr)
  /-- Sending a failure response to a NOTIFY. -/
  | notifyReject (id : ℕ)
  /-- Sending a 2xx response to a NOTIFY. -/
  | notifyAnswer (id : ℕ) (st : EvsubState)
  | rxRefresh (id : ℕ) (old : EvsubState)
  /-- `on_evsub_state`, called after `on_rx_refresh` has returned. -/
  | deferredCb (id : ℕ) (old : EvsubState) (code : ℤ)
  /-- Sending the response to a refresh. -/
  | refreshAnswer (id : ℕ) (old : EvsubState) (code : ℤ)
  /-- `pjsip_dlg_send_request` in `pjsip_evsub_send_request`; `refresh` is the refresh that
  had put off this NOTIFY. -/
  | request (notify : Bool) (refresh : Option ℕ)
  /-- The authentication of a challenged request. -/
  | auth (id : ℕ)
  /-- Sending the response in `pjsip_evsub_accept`. -/
  | accept
  deriving DecidableEq

structure User where
  onEvsubState : Bool
  onTsxState : Bool
  onRxRefresh : Bool
  onRxNotify : Bool
  onClientRefresh : Bool
  onServerTimeout : Bool
  deriving DecidableEq

/-- A subscription. `inList` while the dialog's list of subscriptions has it. The last two
fields are kept for the statements only: `lateTimer` when a timer was started in state
TERMINATED, and `destroys` the state and `pending_tsx` at each run of `evsub_destroy`. -/
structure Sub where
  role : Role
  user : User
  callCb : Bool
  noEventId : Bool
  pkgExpires : ℕ
  method : Method
  state : EvsubState
  dstState : EvsubState
  expires : ℕ
  timer : TimerType
  pendingTsx : ℤ
  pendingSub : Option ℕ
  pendingNotify : Bool
  callingOnRxRefresh : Bool
  deferredStateNotify : Bool
  inList : Bool
  tsxs : List Tsx
  stack : List Frame
  lateTimer : Bool
  destroys : List (EvsubState × ℤ)
  deriving DecidableEq

def evsubCreate (role : Role) (user : User) (noEventId : Bool) (pkgExpires : ℕ) : Sub where
  role := role
  user := user
  callCb := true
  noEventId := noEventId
  pkgExpires := pkgExpires
  method := .invite
  state := .null
  dstState := .null
  expires := pkgExpires
  timer := .none
  pendingTsx := 0
  pendingSub := none
  pendingNotify := false
  callingOnRxRefresh := false
  deferredStateNotify := false
  inList := true
  tsxs := []
  stack := []
  lateTimer := false
  destroys := []

def pjsipEvsubCreateUac (user : User) (noEventId : Bool) (pkgExpires : ℕ) : Sub :=
  evsubCreate .uac user noEventId pkgExpires

/-- `pjsip_evsub_create_uas` from a request with the given method and Expires header. -/
def pjsipEvsubCreateUas (user : User) (noEventId : Bool) (pkgExpires : ℕ) (method : Method)
    (expires : Option ℕ) : Sub :=
  { evsubCreate .uas user noEventId pkgExpires with
    method := method
    expires := min (expires.getD pkgExpires) pkgExpires
    pendingTsx := 1
    tsxs := [⟨.uas, method, .trying, 0, true⟩] }

def expiresNotSpecified : ℕ := 0xFFFFFFFF

def timeUacRefresh : ℕ := 5

def timeUacTerminate : ℕ := 5

def timeUacWaitNotify : ℕ := 5

/-- The call `f` waits to return. -/
def Sub.push (s : Sub) (f : Frame) : Sub := { s with stack := f :: s.stack }

def setTimer (id : TimerType) (seconds : ℕ) (s : Sub) : Sub :=
  if id = .none ∨ seconds = expiresNotSpecified then { s with timer := .none }
  else { s with timer := id, lateTimer := s.lateTimer || s.state = .terminated }

def evsubDestroy (s : Sub) : Sub :=
  let s := setTimer .none 0 s
  { s with inList := false, destroys := s.destroys ++ [(s.state, s.pendingTsx)] }

/-- `evsub_destroy` where it is subject to the state and to `pending_tsx`. -/
def destroyIfDone (s : Sub) : Sub :=
  if s.state = .terminated ∧ s.pendingTsx = 0 then evsubDestroy s else s

def Sub.tsxState (s : Sub) (id : ℕ) : Option TsxState := (s.tsxs[id]?).map Tsx.state

/-- The end of `mod_evsub_on_tsx_state`. -/
def finish (id : ℕ) (s : Sub) : Sub :=
  if s.tsxState id = some .terminated then
    destroyIfDone { s with pendingTsx := s.pendingTsx - 1 }
  else s

/-- The end of `pjsip_evsub_send_request`, and of the refresh that had put it off. -/
def endSend (refresh : Option ℕ) (s : Sub) : Sub :=
  match refresh with
  | none => s
  | some id => finish id { s with pendingNotify := false }

def pjsipEvsubSendRequest (notify : Bool) (refresh : Option ℕ) (s : Sub) : Sub :=
  if s.callingOnRxRefresh ∧ notify then endSend refresh { s with pendingNotify := true }
  else s.push (.request notify refresh)

/-- The end of a refresh: the NOTIFY that the application sent from `on_rx_refresh`. -/
def refreshEnd (id : ℕ) (s : Sub) : Sub :=
  if s.pendingNotify then pjsipEvsubSendRequest true (some id) s else finish id s

def uasTimer (id : ℕ) (s : Sub) : Sub :=
  refreshEnd id (if s.state ≠ .terminated then setTimer .uasTimeout s.expires s else s)

def finalCode (code : ℤ) : ℤ := if code < 200 then 200 else if 699 < code then 500 else code

/-- A refresh after `on_rx_refresh` and the deferred `on_evsub_state`. -/
def respondRefresh (id : ℕ) (old : EvsubState) (code : ℤ) (s : Sub) : Sub :=
  s.push (.refreshAnswer id old (finalCode code))

/-- A refresh after `on_rx_refresh` has returned. -/
def afterRefresh (id : ℕ) (old : EvsubState) (code : ℤ) (s : Sub) : Sub :=
  let s := { s with callingOnRxRefresh := false }
  if s.deferredStateNotify then
    let s := { s with deferredStateNotify := false }
    if s.user.onEvsubState ∧ s.callCb then s.push (.deferredCb id old code)
    else respondRefresh id old code (destroyIfDone s)
  else respondRefresh id old code s

/-- A refresh at the call of `on_rx_refresh`. -/
def enterRefresh (id : ℕ) (old : EvsubState) (s : Sub) : Sub :=
  if s.user.onRxRefresh ∧ s.callCb then s.push (.rxRefresh id old)
  else afterRefresh id old 200 s

def runNext (next : Next) (s : Sub) : Sub :=
  match next with
  | .done => s
  | .finish id => finish id s
  | .enterRefresh id old => enterRefresh id old s
  | .uasTimer id => uasTimer id s
  | .notified refresh => endSend refresh { s with dstState := .null }

/-- `set_state` once `on_evsub_state` has returned, and its caller from there on. -/
def setStateEnd (st prev : EvsubState) (next : Next) (s : Sub) : Sub :=
  if st = .terminated ∧ prev ≠ .terminated then
    let s := setTimer .none 0 s
    runNext next
      (if s.pendingTsx = 0 ∧ s.callingOnRxRefresh = false then evsubDestroy s else s)
  else runNext next s

/-- `set_state` and what its caller does next. -/
def setState (st : EvsubState) (next : Next) (s : Sub) : Sub :=
  let prev := s.state
  let s := { s with state := st }
  if s.user.onEvsubState ∧ s.callCb then
    if st = .terminated ∧ s.callingOnRxRefresh then
      setStateEnd st prev next { s with deferredStateNotify := true }
    else s.push (.state st prev next)
  else setStateEnd st prev next s

def pjsipEvsubTerminate (notify : Bool) (s : Sub) : Sub :=
  setState .terminated .done { s with callCb := notify }

/-- `pjsip_evsub_initiate`, when the request can be created. -/
def pjsipEvsubInitiate (method : Method) (expires : ℕ) (s : Sub) : Sub :=
  { s with
    method := if s.state = .null then method else s.method
    expires := if expires ≠ expiresNotSpecified then expires else s.expires }

/-- `pjsip_evsub_notify`, when the request can be created. -/
def pjsipEvsubNotify (st : EvsubState) (s : Sub) : Sub := { s with dstState := st }

def Sub.subscribes (s : Sub) (t : Tsx) : Bool := t.method = s.method ∨ t.method = .subscribe

def refreshDelay (expires rand : ℕ) : ℕ :=
  let timeout := if timeUacRefresh < expires then expires - timeUacRefresh else expires
  if 10 < timeout then timeout - 10 + rand % 10 else timeout

def Sub.renewedExpires (s : Sub) (info : Info) : ℕ :=
  if s.expires ≠ 0 then info.expires.getD s.expires else s.expires

def updateRefresh (info : Info) (s : Sub) : Sub :=
  let e := s.renewedExpires info
  if e ≠ 0 then setTimer .uacRefresh (refreshDelay e info.rand) { s with expires := e }
  else setTimer .uacTerminate timeUacTerminate { s with expires := e }

def subscribed (id : ℕ) (info : Info) (s : Sub) : Sub :=
  let s := updateRefresh info s
  if s.state = .sent then setState .accepted (.finish id) s else finish id s

/-- `on_tsx_state_uac` for the final response to a SUBSCRIBE that was not renewed. -/
def subscribeDone (id : ℕ) (t : Tsx) (info : Info) (s : Sub) : Sub :=
  if t.statusCode = 401 ∨ t.statusCode = 407 then
    if t.state = .terminated then finish id s else s.push (.auth id)
  else if t.statusCode / 100 = 2 then
    if t.state = .terminated then finish id s else subscribed id info s
  else if s.state = .terminated ∨ t.statusCode = 490 then finish id s
  else setState .terminated (.finish id) s

/-- `on_tsx_state_uac` for SUBSCRIBE. -/
def uacSubscribe (id : ℕ) (t : Tsx) (info : Info) (s : Sub) : Sub :=
  if s.state = .null ∧ t.state = .calling then setState .sent (.finish id) s
  else if t.state ≠ .completed ∧ t.state ≠ .terminated then finish id s
  else if s.pendingSub = some id then subscribeDone id t info { s with pendingSub := none }
  else if s.pendingSub ≠ none then finish id s
  else subscribeDone id t info s

def Sub.refreshes (s : Sub) (hdr : SubStateHdr) : Bool :=
  s.expires ≠ 0 ∧ hdr.expiresParam.isSome ∧ (hdr.state = .active ∨ hdr.state = .pending)

def acceptNotify (id : ℕ) (hdr : SubStateHdr) (s : Sub) : Sub :=
  let e := hdr.expiresParam.getD 0
  let s :=
    if s.refreshes hdr then
      setTimer .uacRefresh (if timeUacRefresh < e then e - timeUacRefresh else e) s
    else s
  s.push (.notifyAnswer id hdr.state)

/-- `on_tsx_state_uac` for NOTIFY. -/
def uacNotify (id : ℕ) (t : Tsx) (info : Info) (s : Sub) : Sub :=
  if t.state ≠ .trying then finish id s
  else match info.subState with
    | none => s.push (.notifyReject id)
    | some hdr =>
      if s.user.onRxNotify ∧ s.callCb then s.push (.rxNotify id hdr)
      else acceptNotify id hdr s

def onTsxStateUac (id : ℕ) (t : Tsx) (info : Info) (s : Sub) : Sub :=
  if s.subscribes t then uacSubscribe id t info s
  else if t.method = .notify then uacNotify id t info s
  else finish id s

def Sub.grantedExpires (s : Sub) (info : Info) : ℕ :=
  match info.knownPkg, info.expires with
  | true, some e => min e s.pkgExpires
  | _, _ => s.expires

/-- `on_tsx_state_uas` for SUBSCRIBE, up to `on_rx_refresh`. -/
def uasRefresh (id : ℕ) (t : Tsx) (info : Info) (s : Sub) : Sub :=
  if t.state ≠ .trying then finish id s
  else
    let old := s.state
    let s := { s with expires := s.grantedExpires info, callingOnRxRefresh := true }
    if s.expires = 0 then setState .terminated (.enterRefresh id old) s
    else if s.state = .null then enterRefresh id old { s with state := .accepted }
    else enterRefresh id old s

def shouldTerminate (t : Tsx) (info : Info) : Bool :=
  match info.src with
  | .rxMsg => t.statusCode = 481 ∨ info.retryAfter = false
  | .timer => t.statusCode = 408
  | _ => false

/-- `on_tsx_state_uas` for NOTIFY. -/
def uasNotify (id : ℕ) (t : Tsx) (info : Info) (s : Sub) : Sub :=
  if t.state = .completed ∧ (t.statusCode = 401 ∨ t.statusCode = 407) then
    if info.authRetry then finish id s else s.push (.auth id)
  else if s.state = .terminated then finish id s
  else if t.statusCode / 100 ≠ 2 ∧ shouldTerminate t info then
    setState .terminated (.finish id) s
  else finish id s

def onTsxStateUas (id : ℕ) (t : Tsx) (info : Info) (s : Sub) : Sub :=
  if s.subscribes t then uasRefresh id t info s
  else if t.method = .notify then uasNotify id t info s
  else finish id s

/-- `mod_evsub_on_tsx_state` after `on_tsx_state` of the application. -/
def handleTsx (id : ℕ) (info : Info) (s : Sub) : Sub :=
  match s.tsxs[id]? with
  | none => s
  | some t =>
    match s.role with
    | .uac => onTsxStateUac id t info s
    | .uas => onTsxStateUas id t info s

/-- Whether `on_new_transaction` attaches the subscription. -/
def Sub.attaches (s : Sub) (t : Tsx) (info : Info) : Bool :=
  info.found ∧ s.inList ∧ ¬ (s.noEventId ∧ s.state = .terminated) ∧
    ¬ (t.role = .uas ∧ s.state = .terminated)

/-- `on_new_transaction` for a transaction that it attaches. -/
def onNewTransaction (id : ℕ) (t : Tsx) (s : Sub) : Sub :=
  { s with
    tsxs := s.tsxs.set id { t with attached := true }
    pendingTsx := s.pendingTsx + 1
    pendingSub :=
      if t.role = .uac ∧ t.state = .calling ∧ s.subscribes t then some id else s.pendingSub }

def modEvsubOnTsxState (id : ℕ) (t : Tsx) (info : Info) (s : Sub) : Sub :=
  if t.attached ∨ s.attaches t info then
    let s := if t.attached then s else onNewTransaction id t s
    if s.user.onTsxState ∧ s.callCb then s.push (.tsxCb id info) else handleTsx id info s
  else s

def TsxState.follows (st st' : TsxState) : Bool :=
  st.rank < st'.rank ∨ (st = .proceeding ∧ st' = .proceeding)

def tsxEvent (id : ℕ) (st : TsxState) (code : ℕ) (info : Info) (s : Sub) : Sub :=
  match s.tsxs[id]? with
  | none => s
  | some t =>
    if t.state.follows st then
      let t := { t with state := st, statusCode := code }
      modEvsubOnTsxState id t info { s with tsxs := s.tsxs.set id t }
    else s

/-- `on_timer`; `created` when the request could be created. -/
def onTimer (created : Bool) (s : Sub) : Sub :=
  let id := s.timer
  let s := { s with timer := .none }
  match id with
  | .none => s
  | .uacRefresh =>
    if s.user.onClientRefresh ∧ s.callCb then s
    else if created then
      pjsipEvsubSendRequest false none (pjsipEvsubInitiate .subscribe s.expires s)
    else s
  | .uasTimeout =>
    if s.user.onServerTimeout ∧ s.callCb then s
    else if created then pjsipEvsubSendRequest true none (pjsipEvsubNotify .terminated s)
    else s
  | .uacTerminate => setState .terminated .done s
  | .uacWaitNotify =>
    if created then pjsipEvsubSendRequest false none (pjsipEvsubInitiate .subscribe 0 s) else s

/-- `pjsip_evsub_accept` for a transaction that has a subscription attached. -/
def pjsipEvsubAccept (id : ℕ) (code : ℕ) (s : Sub) : Sub :=
  if s.role = .uas ∧ code / 100 = 2 ∧ (s.tsxs[id]?).any Tsx.attached then s.push .accept else s

/-- The innermost call returns: `ok` when it succeeded, `code` the status code that
`on_rx_notify` or `on_rx_refresh` chose. -/
def resume (ok : Bool) (code : ℤ) (s : Sub) : Sub :=
  match s.stack with
  | [] => s
  | f :: rest =>
    let s := { s with stack := rest }
    match f with
    | .tsxCb id info => handleTsx id info s
    | .state st prev next => setStateEnd st prev next s
    | .rxNotify id hdr =>
      if 300 ≤ finalCode code then s.push (.notifyReject id) else acceptNotify id hdr s
    | .notifyReject id =>
      if ok then finish id (setTimer .uacWaitNotify timeUacWaitNotify s)
      else setState .terminated (.finish id) s
    | .notifyAnswer id st => setState (if ok then st else .terminated) (.finish id) s
    | .rxRefresh id old => afterRefresh id old (if s.expires = 0 then 200 else code) s
    | .deferredCb id old code => respondRefresh id old code (destroyIfDone s)
    | .refreshAnswer id old code =>
      if code / 100 = 2 then
        if s.state = .null then setState .null (.uasTimer id) s else uasTimer id s
      else refreshEnd id { s with state := old }
    | .request notify refresh =>
      if ok ∧ notify ∧ s.dstState ≠ .null then setState s.dstState (.notified refresh) s
      else endSend refresh s
    | .auth id => if ok then finish id s else setState .terminated (.finish id) s
    | .accept =>
      if ok ∧ s.state ≠ .terminated then setTimer .uasTimeout s.expires s else s

inductive Event
  /-- A transaction is created in the dialog. -/
  | create (role : Role) (method : Method)
  /-- A transaction changes its state. -/
  | tsx (id : ℕ) (st : TsxState) (code : ℕ) (info : Info)
  /-- The innermost call returns. -/
  | ret (ok : Bool) (code : ℤ)
  | terminate (notify : Bool)
  | initiate (method : Method) (expires : ℕ)
  | notify (st : EvsubState)
  /-- `pjsip_evsub_send_request` by the application. -/
  | send (notify : Bool)
  | uasSetTimeout (seconds : ℕ)
  | accept (id code : ℕ)
  | timer (created : Bool)
  /-- `evsub_async_auth_abandon_impl`. -/
  | abandon
  deriving DecidableEq

def step (s : Sub) : Event → Sub
  | .create role method => { s with tsxs := s.tsxs ++ [⟨role, method, .null, 0, false⟩] }
  | .tsx id st code info => tsxEvent id st code info s
  | .ret ok code => resume ok code s
  | .terminate notify => pjsipEvsubTerminate notify s
  | .initiate method expires => pjsipEvsubInitiate method expires s
  | .notify st => pjsipEvsubNotify st s
  | .send notify => pjsipEvsubSendRequest notify none s
  | .uasSetTimeout seconds => setTimer .uasTimeout seconds s
  | .accept id code => pjsipEvsubAccept id code s
  | .timer created => onTimer created s
  | .abandon => setState .terminated .done s

end PjProject.Evsub
