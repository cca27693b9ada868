import PjProject.Transition

/-!
# The life of a TURN client session

The states of `turn_session.c`, the calls that move a session between them and the
answers of the name resolver and of the STUN session. `set_state` tells the application
of the new state before the function that called it goes on, and the application may use
the session from there. So what is left of an interrupted function is kept on a stack of
frames: an event `ret` is the return of the innermost `on_state` callback.
-/
namespace PjProject.TurnSession
open Transition

inductive TurnState
  | null | resolving | resolved | allocating | ready | deallocating | deallocated | destroying
  deriving DecidableEq

def TurnState.rank : TurnState → ℕ
  | .null => 0 | .resolving => 1 | .resolved => 2 | .allocating => 3
  | .ready => 4 | .deallocating => 5 | .deallocated => 6 | .destroying => 7

inductive TimerId
  | none | keepAlive | destroy
  deriving DecidableEq

inductive Method
  | allocate | refresh | channelBind | createPerm
  deriving DecidableEq

/-- A socket address; `has_addr` asks for an IP other than the unspecified one. -/
structure Addr where
  af : ℕ
  ip : ℕ
  port : ℕ
  deriving DecidableEq

def Addr.hasAddr (a : Addr) : Bool := a.ip ≠ 0

/-- What a function interrupted by `on_state` still has to do. -/
inductive Frame
  /-- `pj_turn_session_set_server` after RESOLVING, with a DNS resolver. -/
  | srvResolve
  /-- `pj_turn_session_set_server` after RESOLVING, with `getaddrinfo`. -/
  | getAddrInfo
  /-- `pj_turn_session_alloc` after ALLOCATING; `nested` when `dns_srv_resolver_cb`
  called it. -/
  | allocSend (nested : Bool)
  /-- `send_refresh` with lifetime zero, after DEALLOCATING. -/
  | refreshSend
  /-- The call of `sess_shutdown` that follows DEALLOCATED or DESTROYING. -/
  | sessShutdown
  /-- `sess_shutdown` after DESTROYING: the destroy timer. -/
  | schedule
  /-- `dns_srv_resolver_cb` after RESOLVED: the pending allocation. -/
  | runPending
  deriving DecidableEq

/-- A session. `sent` are the requests of which no completion was reported, `jobs` the
running name resolutions, `told` the states reported to the application, `closing` that
`pj_turn_session_shutdown` was called, and `timerAssert` that the assertion on the timer
in `on_allocate_success` has held so far. -/
structure Sess where
  af : ℕ
  allocAf : ℕ
  state : TurnState
  timer : TimerId
  pendingDestroy : Bool
  pendingAlloc : Bool
  isDestroying : Bool
  srvAddrCnt : ℕ
  srvAddr : Option ℕ
  relayAddr : Option Addr
  jobs : ℕ
  sent : List Method
  stack : List Frame
  told : List TurnState
  closing : Bool
  timerAssert : Bool
  deriving DecidableEq

/-- The session that `pj_turn_session_create` returns. -/
def pjTurnSessionCreate (af : ℕ) : Sess where
  af := af
  allocAf := 0
  state := .null
  timer := .none
  pendingDestroy := false
  pendingAlloc := false
  isDestroying := false
  srvAddrCnt := 0
  srvAddr := none
  relayAddr := none
  jobs := 0
  sent := []
  stack := []
  told := []
  closing := false
  timerAssert := true

/-- What the calls made by one step return: creating a STUN request, sending it, starting
the SRV resolution, and the addresses found by `getaddrinfo`. -/
structure Env where
  create : Bool
  send : Bool
  resolve : Bool
  addrs : Option ℕ
  deriving DecidableEq

/-- `pj_stun_session_create_req`, which a destroyed STUN session refuses. -/
def Sess.canCreate (s : Sess) (env : Env) : Bool := env.create && !s.isDestroying

/-- `pj_stun_session_send_msg`, which a destroyed STUN session refuses. -/
def Sess.canSend (s : Sess) (env : Env) : Bool := env.send && !s.isDestroying

def Sess.request (s : Sess) (m : Method) : Sess := { s with sent := m :: s.sent }

/-- The part of `set_state` for a state other than the current one. -/
def Sess.enter (s : Sess) (st : TurnState) : Sess :=
  { s with state := st, told := s.told ++ [st] }

/-- `set_state` as the last action of its caller. -/
def Sess.setState (s : Sess) (st : TurnState) : Sess :=
  if st = s.state then s else s.enter st

/-- The caller goes on with `f` when `on_state` returns. -/
def Sess.suspend (s : Sess) (f : Frame) : Sess := { s with stack := f :: s.stack }

def scheduleDestroy (s : Sess) : Sess := { s with timer := .destroy }

/-- `send_refresh` with lifetime zero. -/
def sendRefreshZero (env : Env) (s : Sess) : Sess :=
  if s.state ≠ .ready then s
  else if s.canCreate env then (s.enter .deallocating).suspend .refreshSend
  else (s.enter .deallocated).suspend .sessShutdown

def sessShutdown (env : Env) (s : Sess) : Sess :=
  match s.state with
  | .null | .resolved | .deallocated => (s.enter .destroying).suspend .schedule
  | .destroying => scheduleDestroy s
  | .resolving | .allocating => { s with pendingDestroy := true }
  | .ready => sendRefreshZero env s
  | .deallocating => s

/-- `set_state` followed by `sess_shutdown`. -/
def setStateShutdown (env : Env) (st : TurnState) (s : Sess) : Sess :=
  if st = s.state then sessShutdown env s else (s.enter st).suspend .sessShutdown

def pjTurnSessionShutdown (env : Env) (s : Sess) : Sess :=
  sessShutdown env { s with closing := true }

def pjTurnSessionDestroy (env : Env) (s : Sess) : Sess := setStateShutdown env .deallocated s

/-- `pj_turn_session_set_server`; `resolver` when a resolver is given and the name is no
IP address. -/
def pjTurnSessionSetServer (resolver : Bool) (defaultPort : ℤ) (s : Sess) : Sess :=
  if s.state ≠ .null then s
  else if resolver then (s.enter .resolving).suspend .srvResolve
  else if 0 < defaultPort ∧ defaultPort < 65536 then (s.enter .resolving).suspend .getAddrInfo
  else s

/-- `pj_turn_session_set_server` from the start of the SRV resolution on. -/
def startResolve (env : Env) (s : Sess) : Sess :=
  if s.state ≠ .resolving then s
  else if env.resolve then { s with jobs := s.jobs + 1 }
  else s.setState .null

/-- `pj_turn_session_set_server` from the call of `getaddrinfo` on. -/
def lookupServer (env : Env) (s : Sess) : Sess :=
  if s.state ≠ .resolving then s
  else match env.addrs with
    | none => s
    | some cnt => { s with srvAddrCnt := cnt, srvAddr := some 0 }.setState .resolved

/-- Whether `srv_addr` is the last of the server addresses. -/
def Sess.atLastServer (s : Sess) : Bool := s.srvAddr.any fun i => i + 1 = s.srvAddrCnt

def onSessionFail (env : Env) (m : Method) (s : Sess) : Sess :=
  if m ≠ .allocate ∨ s.atLastServer then setStateShutdown env .deallocated s
  else { s with srvAddr := s.srvAddr.map (· + 1) }.setState .resolved

/-- `pj_turn_session_alloc` up to the sending of the request, and whether it failed.
`param` is the address family of the allocation parameters, when these are given. -/
def pjTurnSessionAlloc (nested : Bool) (param : Option ℕ) (env : Env) (s : Sess) : Sess × Bool :=
  match s.state with
  | .resolving => ({ s with allocAf := param.getD s.allocAf, pendingAlloc := true }, false)
  | .resolved =>
    let s := { s with allocAf := param.getD s.allocAf }
    if s.canCreate env then ((s.enter .allocating).suspend (.allocSend nested), false)
    else (s, true)
  | _ => (s, true)

/-- `pj_turn_session_alloc` from the sending on, and what `dns_srv_resolver_cb` makes of a
failure. -/
def allocSend (nested : Bool) (env : Env) (s : Sess) : Sess :=
  if s.canSend env then s.request .allocate
  else if nested then onSessionFail env .allocate s
  else s

/-- The end of `dns_srv_resolver_cb`. -/
def runPending (env : Env) (s : Sess) : Sess :=
  if s.pendingAlloc then
    match pjTurnSessionAlloc true none env s with
    | (s, false) => s
    | (s, true) => onSessionFail env .allocate s
  else s

/-- The end of `send_refresh` with lifetime zero. -/
def refreshSend (env : Env) (s : Sess) : Sess :=
  if s.canSend env then s.request .refresh else setStateShutdown env .deallocated s

/-- `dns_srv_resolver_cb` with the number of usable addresses, or a failure. -/
def dnsSrvResolverCb (env : Env) (r : Option ℕ) (s : Sess) : Sess :=
  match r with
  | none => setStateShutdown env .destroying s
  | some cnt =>
    if s.pendingDestroy then setStateShutdown env .destroying s
    else
      let s := { s with srvAddrCnt := cnt, srvAddr := some 0 }
      if s.state = .resolved then runPending env s
      else (s.enter .resolved).suspend .runPending

/-- How the STUN session reports the end of a request: a success response with its
LIFETIME and XOR-RELAYED-ADDRESS, an error response with its ERROR-CODE, or an error
status without a response. -/
inductive Result
  | success (lifetime : Option ℕ) (relay : Option Addr)
  | refused (code : Option ℕ)
  | failed (status : ℕ)
  deriving DecidableEq

def Result.isSuccess : Result → Bool
  | .success _ _ => true
  | _ => false

def Result.errCode : Result → Option ℕ
  | .success _ _ => none
  | .refused code => code
  | .failed status => some status

def allocationMismatch : ℕ := 437

/-- The checks of `on_allocate_success` on the relayed address. -/
def Sess.relayOk (s : Sess) (m : Method) : Option Addr → Bool
  | none => m ≠ .allocate
  | some a =>
    a.af = (if s.allocAf ≠ 0 then s.allocAf else s.af) ∧ a.hasAddr ∧ s.relayAddr.all (· = a)

/-- All checks of `on_allocate_success` on a response with a LIFETIME other than zero. -/
def Sess.accepts (s : Sess) (m : Method) (lifetime : ℕ) (relay : Option Addr) : Bool :=
  2 < lifetime ∧ s.relayOk m relay

/-- The end of `on_allocate_success`, once the response was accepted. -/
def startKeepAlive (s : Sess) : Sess :=
  let s := { s with timerAssert := s.timerAssert && s.timer ≠ .destroy }
  let s := if s.timer = .keepAlive then { s with timer := .none } else s
  if s.state.rank < TurnState.deallocating.rank then
    { s with timer := .keepAlive }.setState .ready
  else s

def onAllocateSuccess (env : Env) (m : Method) (lifetime : Option ℕ) (relay : Option Addr)
    (s : Sess) : Sess :=
  match lifetime with
  | none => onSessionFail env m s
  | some 0 => setStateShutdown env .deallocated s
  | some lf =>
    if s.accepts m lf relay then startKeepAlive { s with relayAddr := s.relayAddr <|> relay }
    else onSessionFail env m s

def stunOnRequestComplete (env : Env) (m : Method) (r : Result) (s : Sess) : Sess :=
  match m with
  | .allocate =>
    if s.pendingDestroy then
      sessShutdown env { s with state := if r.isSuccess then .ready else .deallocated }
    else match r with
      | .success lf relay => onAllocateSuccess env m lf relay s
      | _ => onSessionFail env m s
  | .refresh =>
    match r with
    | .success lf relay => onAllocateSuccess env m lf relay s
    | _ => onSessionFail env m s
  | .channelBind | .createPerm =>
    if r.errCode = some allocationMismatch then onSessionFail env m s else s

def doDestroy (s : Sess) : Sess :=
  if s.isDestroying then s else { s with isDestroying := true, timer := .none, sent := [] }

/-- What the keep-alive timer finds to do: whether the allocation is due for a refresh,
the number of ChannelBind requests that it sends, and whether it sends CreatePermission. -/
structure Due where
  refresh : Bool
  binds : ℕ
  perms : Bool
  deriving DecidableEq

/-- `send_refresh` with the lifetime of the allocation. -/
def sendRefresh (env : Env) (s : Sess) : Sess :=
  if s.state = .ready ∧ s.canCreate env ∧ s.canSend env then s.request .refresh else s

def refreshBindings (due : Due) (s : Sess) : Sess :=
  if s.isDestroying then s else
    { s with sent := (if due.perms then [.createPerm] else []) ++
        (if s.state = .ready then List.replicate due.binds .channelBind else []) ++ s.sent }

def onTimerEvent (env : Env) (due : Due) (s : Sess) : Sess :=
  match s.timer with
  | .none => s
  | .destroy => doDestroy { s with timer := .none }
  | .keepAlive =>
    let s := { s with timer := .none }
    if TurnState.deallocating.rank ≤ s.state.rank then s
    else
      let s := if due.refresh then sendRefresh env s else s
      let s := refreshBindings due s
      if due.refresh then s else { s with timer := .keepAlive }

/-- Goes on with the function that the innermost `on_state` callback interrupted. -/
def resume (env : Env) (s : Sess) : Sess :=
  match s.stack with
  | [] => s
  | f :: rest =>
    let s := { s with stack := rest }
    match f with
    | .srvResolve => startResolve env s
    | .getAddrInfo => lookupServer env s
    | .allocSend nested => allocSend nested env s
    | .refreshSend => refreshSend env s
    | .sessShutdown => sessShutdown env s
    | .schedule => scheduleDestroy s
    | .runPending => runPending env s

inductive Event
  | setServer (resolver : Bool) (defaultPort : ℤ)
  | alloc (param : Option ℕ)
  | shutdown
  | destroy
  /-- `pj_turn_session_set_perm`. -/
  | setPerm
  /-- `pj_turn_session_bind_channel`. -/
  | bindChannel
  /-- The resolver reports the result of a job. -/
  | resolved (r : Option ℕ)
  /-- The STUN session reports the end of a request. -/
  | complete (m : Method) (r : Result)
  | timer (due : Due)
  /-- The innermost `on_state` callback returns. -/
  | ret
  deriving DecidableEq

def sendOther (env : Env) (m : Method) (s : Sess) : Sess :=
  if s.srvAddr.isSome ∧ s.canCreate env ∧ s.canSend env then s.request m else s

def step (s : Sess) : Event × Env → Sess
  | (.setServer resolver port, _) => pjTurnSessionSetServer resolver port s
  | (.alloc param, env) => (pjTurnSessionAlloc false param env s).1
  | (.shutdown, env) => pjTurnSessionShutdown env s
  | (.destroy, env) => pjTurnSessionDestroy env s
  | (.setPerm, env) => sendOther env .createPerm s
  | (.bindChannel, env) => if s.state = .ready then sendOther env .channelBind s else s
  | (.resolved r, env) =>
    if s.jobs = 0 then s else dnsSrvResolverCb env r { s with jobs := s.jobs - 1 }
  | (.complete m r, env) =>
    if m ∈ s.sent then stunOnRequestComplete env m r { s with sent := s.sent.erase m } else s
  | (.timer due, env) => onTimerEvent env due s
  | (.ret, env) => resume env s

end PjProject.TurnSession
