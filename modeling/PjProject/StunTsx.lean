import PjProject.Transition

/-!
# STUN client transaction

`pj_stun_client_tsx`: one timer entry carries both the retransmission and the timeout.
Each event brings the answers of the outside: whether the timer heap accepts an entry and
what the application's `on_send_msg` returns. `transmit_count` is a natural number here;
delays are `unsigned` milliseconds. The expiry of the destroy timer ends the run, since
the transaction is freed there.
-/
namespace PjProject.StunTsx

def maxTransmitCount : ℕ := 7

def timeoutValue : ℕ := 1600

/-- `pj_timer_entry`: its `id` field and whether it is in the timer heap. -/
structure TimerEntry where
  id : Bool
  running : Bool
  deriving DecidableEq

/-- `pj_timer_heap_cancel_if_active` with `TIMER_INACTIVE` -/
def TimerEntry.cancelIfActive (t : TimerEntry) : TimerEntry :=
  if t.running then ⟨false, false⟩ else t

/-- `pj_timer_heap_schedule_w_grp_lock` with `TIMER_ACTIVE`, and whether it succeeds. -/
def TimerEntry.schedule (t : TimerEntry) (accepts : Bool) : TimerEntry × Bool :=
  if !t.running && accepts then (⟨true, true⟩, true) else (t, false)

inductive Obs
  /-- an accepted `pj_stun_client_tsx_send_msg` begins -/
  | begun (retransmit : Bool)
  /-- `retransmit_time` is computed for transmission number `count` -/
  | delay (count msec : ℕ)
  /-- the timeout for a reliable transport is computed -/
  | timeout (msec : ℕ)
  /-- `on_send_msg` is called -/
  | sent
  /-- `pj_stun_client_tsx_send_msg` returns success -/
  | started
  /-- `pj_stun_client_tsx_stop` -/
  | stopped
  /-- `on_complete` is called -/
  | completed
  deriving DecidableEq

/-- `pj_stun_client_tsx`; `onComplete` says that `cb.on_complete` is set. -/
structure Tsx where
  onComplete : Bool
  complete : Bool
  requireRetransmit : Bool
  rtoMsec : ℕ
  retransmitTimer : TimerEntry
  transmitCount : ℕ
  retransmitTime : ℕ
  destroyTimer : TimerEntry
  isDestroying : Bool
  trace : List Obs
  deriving DecidableEq

def create (rtoMsec : ℕ) : Tsx :=
  ⟨true, false, false, rtoMsec, ⟨false, false⟩, 0, 0, ⟨false, false⟩, false, []⟩

def Tsx.observe (o : Obs) (s : Tsx) : Tsx := { s with trace := o :: s.trace }

/-- The answer of `on_send_msg`: success (also `PJ_EPENDING` and `PJ_EBUSY`), `PJ_EINVALIDOP`,
another error, or `PJNATH_ESTUNDESTROYED` after the application stopped the transaction. -/
inductive SendOutcome
  | ok | invalidOp | error | destroyed
  deriving DecidableEq

inductive Status
  | success | destroyed | failure
  deriving DecidableEq

def cancelRetransmit (s : Tsx) : Tsx :=
  { s with retransmitTimer := s.retransmitTimer.cancelIfActive }

def pjStunClientTsxStop (s : Tsx) : Tsx :=
  { s.observe .stopped with
    retransmitTimer := s.retransmitTimer.cancelIfActive
    destroyTimer := s.destroyTimer.cancelIfActive }

def pjStunClientTsxScheduleDestroy (accepts : Bool) (s : Tsx) : Tsx :=
  if s.isDestroying then s
  else
    let s := cancelRetransmit
      { s with isDestroying := true, destroyTimer := s.destroyTimer.cancelIfActive }
    let (entry, success) := s.destroyTimer.schedule accepts
    if success then { s with destroyTimer := entry, onComplete := false } else s

def nextDelay (s : Tsx) : ℕ :=
  if s.transmitCount = 0 then s.rtoMsec
  else if s.transmitCount < maxTransmitCount - 1 then s.retransmitTime * 2 % 2 ^ 32
  else timeoutValue

/-- The timer part of `tsx_transmit_msg`. -/
def scheduleRetransmit (accepts : Bool) (s : Tsx) : Tsx × Bool :=
  let s := { s with retransmitTime := nextDelay s }.observe (.delay s.transmitCount (nextDelay s))
  let (entry, success) := s.retransmitTimer.schedule accepts
  if success then ({ s with retransmitTimer := entry }, true)
  else ({ s with retransmitTimer := { s.retransmitTimer with id := false } }, false)

/-- The sending part of `tsx_transmit_msg`. -/
def sendPacket (modCount : Bool) (out : SendOutcome) (s : Tsx) : Tsx × Status :=
  let s := { s with transmitCount := s.transmitCount + modCount.toNat }.observe .sent
  match out with
  | .ok => (s, .success)
  | .destroyed => (pjStunClientTsxStop s, .destroyed)
  | .invalidOp => (cancelRetransmit s, .failure)
  | .error => (if modCount then cancelRetransmit s else s, .failure)

def tsxTransmitMsg (modCount accepts : Bool) (out : SendOutcome) (s : Tsx) : Tsx × Status :=
  if s.retransmitTimer.id && s.requireRetransmit && modCount then (s, .failure)
  else if s.requireRetransmit && modCount then
    let (s, success) := scheduleRetransmit accepts s
    if success then sendPacket modCount out s else (s, .failure)
  else sendPacket modCount out s

/-- The timeout timer of `pj_stun_client_tsx_send_msg` on a reliable transport. -/
def scheduleTimeout (accepts : Bool) (s : Tsx) : Tsx × Bool :=
  let timeout := s.rtoMsec * 16 % 2 ^ 32
  let s := { s with transmitCount := maxTransmitCount, retransmitTime := timeout }.observe
    (.timeout timeout)
  let (entry, success) := s.retransmitTimer.schedule accepts
  if success then ({ s with retransmitTimer := entry }, true)
  else ({ s with retransmitTimer := { s.retransmitTimer with id := false } }, false)

/-- The end of `pj_stun_client_tsx_send_msg`: the first transmission. -/
def startTransmit (accepts : Bool) (out : SendOutcome) (s : Tsx) : Tsx :=
  let (s, status) := tsxTransmitMsg true accepts out s
  if status = .success then s.observe .started else cancelRetransmit s

/-- The flag update of `pj_stun_client_tsx_send_msg`. -/
def beginSend (retransmit : Bool) (s : Tsx) : Tsx :=
  { s with requireRetransmit := retransmit }.observe (.begun retransmit)

def pjStunClientTsxSendMsg (retransmit accepts : Bool) (out : SendOutcome) (s : Tsx) : Tsx :=
  if s.retransmitTimer.id then s
  else if s.isDestroying then s.observe .started
  else
    let s := beginSend retransmit s
    if retransmit then startTransmit accepts out s
    else
      let (s, success) := scheduleTimeout accepts s
      if success then startTransmit accepts out s else s

/-- Marking the transaction complete, with the call of `on_complete`. -/
def completeTsx (s : Tsx) : Tsx :=
  if s.complete then s
  else
    let s := { s with complete := true }
    if s.onComplete then s.observe .completed else s

def clearTimerId (s : Tsx) : Tsx :=
  { s with retransmitTimer := { s.retransmitTimer with id := false } }

def removeTimer (s : Tsx) : Tsx :=
  { s with retransmitTimer := { s.retransmitTimer with running := false } }

/-- `retransmit_timer_callback`; the timer heap has taken the entry out. -/
def retransmitTimerCallback (accepts : Bool) (out : SendOutcome) (s : Tsx) : Tsx :=
  if s.isDestroying then s
  else if maxTransmitCount ≤ s.transmitCount then completeTsx (clearTimerId s)
  else
    let (s, status) := tsxTransmitMsg true accepts out (clearTimerId s)
    match status with
    | .success | .destroyed => s
    | .failure => completeTsx (clearTimerId s)

def pjStunClientTsxRetransmit (modCount accepts : Bool) (out : SendOutcome) (s : Tsx) : Tsx :=
  if s.destroyTimer.id || s.isDestroying then s
  else if modCount then (tsxTransmitMsg modCount accepts out (cancelRetransmit s)).1
  else (tsxTransmitMsg modCount accepts out s).1

/-- `pj_stun_client_tsx_on_rx_msg` for a message that is or is not a response, with the
value of its ERROR-CODE attribute. -/
def pjStunClientTsxOnRxMsg (isResponse : Bool) (errCode : Option ℕ) (s : Tsx) : Tsx :=
  if isResponse then
    let s := cancelRetransmit s
    if errCode.any (· ≤ 200) then s else completeTsx s
  else s

inductive Event
  | sendMsg (retransmit accepts : Bool) (out : SendOutcome)
  | timerExpiry (accepts : Bool) (out : SendOutcome)
  | retransmit (modCount accepts : Bool) (out : SendOutcome)
  | rxMsg (isResponse : Bool) (errCode : Option ℕ)
  | scheduleDestroy (accepts : Bool)
  | stop

def step (s : Tsx) : Event → Tsx
  | .sendMsg retransmit accepts out => pjStunClientTsxSendMsg retransmit accepts out s
  | .timerExpiry accepts out =>
    if s.retransmitTimer.running then retransmitTimerCallback accepts out (removeTimer s) else s
  | .retransmit modCount accepts out => pjStunClientTsxRetransmit modCount accepts out s
  | .rxMsg isResponse errCode => pjStunClientTsxOnRxMsg isResponse errCode s
  | .scheduleDestroy accepts => pjStunClientTsxScheduleDestroy accepts s
  | .stop => pjStunClientTsxStop s

end PjProject.StunTsx
