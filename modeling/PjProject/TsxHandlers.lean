import PjProject.TsxTransport

/-!
# SIP transaction: state handlers and events

One function for each state handler, the entry points of the TU, the timer
callbacks and the completion callbacks, and `step`, which runs one event to its
end. An event carries the environment's answers for everything it causes.
-/
namespace PjProject.Transaction

/-- `pjsip_event`, with a timer event split by its entry. -/
inductive Event
  | txMsg (tx : TxData)
  | rxMsg (m : RxMsg)
  | retransmitTimer
  | timeoutTimer
  deriving DecidableEq

def Event.isTimer : Event → Bool
  | .retransmitTimer => true
  | .timeoutTimer => true
  | _ => false

def startRetransmit (w : World) : World :=
  let w := setRetransmitCount 0 w
  if w.tsx.flag.pendingTransport then setPendingResched true w else scheduleRetransmit w

def tsxOnStateNull (cb : World → World) (e : Event) (w : World) : World × Status :=
  match w.tsx.role with
  | .uas =>
    let m := match e with
      | .rxMsg m => m
      | _ => .request w.tsx.method
    (tsxSetState cb .trying (.rxMsg m) .zero w, .success)
  | .uac =>
    match e with
    | .txMsg tx =>
      let r := tsxSendMsg cb tx (setLastTx (some tx) w)
      if r.2 = .success then
        let w := restartTimeout .timeout r.1
        let w := if w.tsx.isReliable then w else startRetransmit w
        (tsxSetState cb .calling .txMsg .zero w, .success)
      else r
    | _ => (w, .ebug)

/-- The ACK part of `tsx_on_state_proceeding_uac`: create and send it. -/
def sendAck (cb : World → World) (w : World) : World × Except Status TxData :=
  match w.popAck with
  | (none, w) => (w, .error .createAck)
  | (some ack, w) =>
    let r := tsxSendMsg cb ack w
    (r.1, if r.2 = .success then .ok ack else .error r.2)

/-- `tsx_on_state_proceeding_uac` after a response with a code from 300 to 699. -/
def proceedingUacFailure (cb : World → World) (src : EventSrc) (w : World) : World × Status :=
  let w := cancelTimeout (cancelRetransmit w)
  if w.tsx.method = .invite then
    match sendAck cb w with
    | (w, .error status) => (w, status)
    | (w, .ok ack) =>
      let w := tsxSetState cb .completed src .zero w
      (restartTimeout .timeout (setLastTx (some ack) w), .success)
  else if w.tsx.method = .bye ∧ (w.tsx.statusCode = 408 ∨ w.tsx.statusCode = 481) then
    (tsxSetState cb .terminated src .zero w, .success)
  else (restartTimeout .timeout (tsxSetState cb .completed src .zero w), .success)

def tsxOnStateProceedingUac (cb : World → World) (e : Event) (w : World) : World × Status :=
  match e with
  | .txMsg _ => (w, .einvalidop)
  | .retransmitTimer => tsxRetransmit cb true w
  | .timeoutTimer =>
    (tsxSetState cb .terminated .timer .zero (tsxSetStatusCode 408 w), .success)
  | .rxMsg (.request _) => (w, .enotresponsemsg)
  | .rxMsg (.response code) =>
    let src := EventSrc.rxMsg (.response code)
    let w := tsxSetStatusCode code.val w
    if code.val < 200 then (tsxSetState cb .proceeding src .zero w, .success)
    else if code.val < 300 then
      let w := cancelTimeout w
      if w.tsx.method = .invite then (tsxSetState cb .terminated src .zero w, .success)
      else
        let w := cancelRetransmit (scheduleTimeout .timeout w)
        (tsxSetState cb .completed src .zero w, .success)
    else proceedingUacFailure cb src w

/-- What `tsx_on_state_calling` does to the timers when a response arrives. -/
def callingRxTimers (code : StatusCode) (w : World) : World :=
  let w := cancelRetransmit w
  let w :=
    if 200 ≤ code.val then cancelTimeout w
    else if w.tsx.method = .invite then cancelTimeout w
    else if w.tsx.isReliable then w else scheduleRetransmit w
  setPendingResched false w

/-- `tsx_on_state_calling`. The result of the Proceeding handler is dropped. -/
def tsxOnStateCalling (cb : World → World) (e : Event) (w : World) : World × Status :=
  match e with
  | .retransmitTimer => tsxRetransmit cb true w
  | .timeoutTimer =>
    let w := setPendingResched false (cancelRetransmit w)
    (tsxSetState cb .terminated .timer .zero (tsxSetStatusCode 408 w), .success)
  | .rxMsg (.request _) => (w, .enotresponsemsg)
  | .rxMsg (.response code) =>
    ((tsxOnStateProceedingUac cb (.rxMsg (.response code)) (callingRxTimers code w)).1, .success)
  | .txMsg _ => (w, .ebug)

/-- `tsx_on_state_proceeding_uas` after a provisional response was sent. The code
looks at `tsx->status_code` again after it has notified the TU. -/
def proceedingUas1xx (cb : World → World) (tx : TxData) (w : World) : World :=
  let w := tsxSetState cb .proceeding .txMsg .zero (setLastTx (some tx) w)
  if w.tsx.method = .invite ∧ 100 < w.tsx.statusCode then startRetransmit (cancelRetransmit w)
  else w

/-- `tsx_on_state_proceeding_uas` after a 2xx response was sent. -/
def proceedingUas2xx (cb : World → World) (tx : TxData) (w : World) : World :=
  let w := cancelRetransmit w
  if w.tsx.method = .invite ∧ w.tsx.handle200resp = false then
    tsxSetState cb .terminated .txMsg .zero w
  else
    let w := if w.tsx.method = .invite then startRetransmit w else w
    tsxSetState cb .completed .txMsg .zero (restartTimeout .timeout (setLastTx (some tx) w))

/-- `tsx_on_state_proceeding_uas` after a 3xx to 6xx response was sent. -/
def proceedingUasFailure (cb : World → World) (tx : TxData) (cseqMethod : Method) (w : World) :
    World :=
  let w := restartTimeout .timeout (setLastTx (some tx) (cancelRetransmit w))
  let w :=
    if w.tsx.isReliable = false ∧ cseqMethod = .invite then startRetransmit w else w
  tsxSetState cb .completed .txMsg .zero w

def proceedingUasPrepare (tx : TxData) (code : StatusCode) (w : World) : World :=
  let w := tsxSetStatusCode code.val w
  if w.tsx.lastTx = some tx then w else setLastTx none w

/-- The TX_MSG branch of `tsx_on_state_proceeding_uas`. -/
def proceedingUasTx (cb : World → World) (tx : TxData) (w : World) : World × Status :=
  match tx.msg with
  | .request _ => (w, .enotresponsemsg)
  | .response code cseqMethod =>
    let r := tsxSendMsg cb tx (proceedingUasPrepare tx code w)
    if r.2 = .success then
      -- `status_code` is read back from the transaction
      if r.1.tsx.statusCode < 200 then (proceedingUas1xx cb tx r.1, .success)
      else if r.1.tsx.statusCode < 300 then (proceedingUas2xx cb tx r.1, .success)
      else (proceedingUasFailure cb tx cseqMethod r.1, .success)
    else r

def tsxOnStateProceedingUas (cb : World → World) (e : Event) (w : World) : World × Status :=
  match e with
  | .rxMsg _ =>
    match w.tsx.lastTx with
    | none => (w, .ebug)
    | some tx =>
      if w.tsx.flag.pendingTransport then (setPendingSend true w, .success)
      else tsxSendMsg cb tx w
  | .txMsg tx => proceedingUasTx cb tx w
  | .retransmitTimer =>
    tsxRetransmit cb true (w.log (.retransExpiry w.tsx.flag.pendingTransport))
  | .timeoutTimer =>
    (tsxSetState cb .terminated .timer .zero (tsxSetStatusCode 408 w), .ebug)

def tsxOnStateTrying (cb : World → World) (e : Event) (w : World) : World × Status :=
  match e with
  | .txMsg tx =>
    let r := proceedingUasTx cb tx w
    if r.2 = .success ∧ r.1.tsx.state = .trying then
      (tsxSetState cb .proceeding .txMsg .zero r.1, .success)
    else r
  | _ => (w, .success)

def tsxOnStateCompletedUas (cb : World → World) (e : Event) (w : World) : World × Status :=
  match e with
  | .rxMsg (.response _) => (w, .enotrequestmsg)
  | .rxMsg (.request m) =>
    if m ≠ .ack then tsxRetransmit cb false w
    else if w.tsx.method ≠ .invite then (w, .einvalidmethod)
    else
      let w := restartTimeout .timeout (setPendingResched false (cancelRetransmit w))
      (tsxSetState cb .confirmed (.rxMsg (.request m)) .zero w, .success)
  | .retransmitTimer => tsxRetransmit cb true w
  | .timeoutTimer =>
    let w := if w.tsx.method = .invite then tsxSetStatusCode 408 w else w
    (tsxSetState cb .terminated .timer .zero w, .success)
  | .txMsg tx => (w, if some tx = w.tsx.lastTx then .success else .einvalidop)

def tsxOnStateCompletedUac (cb : World → World) (e : Event) (w : World) : World × Status :=
  match e with
  | .retransmitTimer => (w, .success)
  | .timeoutTimer => (tsxSetState cb .terminated .timer .zero w, .success)
  | .rxMsg (.response code) =>
    if w.tsx.method = .invite ∧ 200 ≤ code.val then tsxRetransmit cb false w else (w, .success)
  | .rxMsg (.request _) => (w, .success)
  | .txMsg _ => (w, .einvalidop)

def tsxOnStateConfirmed (cb : World → World) (e : Event) (w : World) : World × Status :=
  match e with
  | .rxMsg (.response _) => (w, .enotrequestmsg)
  | .rxMsg (.request _) => (w, .success)
  | .retransmitTimer => (w, .success)
  | .timeoutTimer => (tsxSetState cb .terminated .timer .zero w, .success)
  | .txMsg _ => (w, .ebug)

def tsxOnStateTerminated (cb : World → World) (e : Event) (w : World) : World × Status :=
  if e.isTimer then (tsxSetState cb .destroyed .timer .zero w, .success) else (w, .eignored)

def stateHandler (cb : World → World) (e : Event) (w : World) : World × Status :=
  match w.tsx.stateHandler with
  | none => (w.log .nullHandler, .ebug)
  | some .null => tsxOnStateNull cb e w
  | some .calling => tsxOnStateCalling cb e w
  | some .trying => tsxOnStateTrying cb e w
  | some .proceedingUas => tsxOnStateProceedingUas cb e w
  | some .proceedingUac => tsxOnStateProceedingUac cb e w
  | some .completedUas => tsxOnStateCompletedUas cb e w
  | some .completedUac => tsxOnStateCompletedUac cb e w
  | some .confirmed => tsxOnStateConfirmed cb e w
  | some .terminated => tsxOnStateTerminated cb e w
  | some .destroyed => (w, .eignored)

/-! ## Entry points -/

def tsxSendMsgApi (cb : World → World) (tdata : Option TxData) (w : World) : World × Status :=
  match tdata.or w.tsx.lastTx with
  | none => (w, .einvalidop)
  | some tx =>
    let r := stateHandler cb (.txMsg tx) w
    (r.1.log (.tuSend w.trace.length tx w.tsx.flag.pendingTransport r.2), r.2)

def tsxTerminate (cb : World → World) (code : ℕ) (w : World) : World × Status :=
  if code < 200 then (w, .einval)
  else if w.tsx.state.rank < State.terminated.rank then
    (tsxSetState cb .terminated .user .zero (tsxSetStatusCode code w), .success)
  else (w, .success)

def tuCall (cb : World → World) (w : World) (c : TuCall) : World :=
  let w := w.log (.call c w.tsx w.env)
  match c with
  | .sendMsg tx => (tsxSendMsgApi cb tx w).1
  | .terminate code => (tsxTerminate cb code w).1

/-- A callback of the TU: it makes the calls the environment lists for it, each of
which can lead to callbacks again. Every callback takes one entry of `env.tu`, so a
depth of `env.tu.length` is enough. -/
def tuCallback : ℕ → World → World
  | 0, w => w
  | n + 1, w =>
    match w.popTu with
    | (calls, w) => calls.foldl (tuCall (tuCallback n)) w

/-- `tsx_timer_callback` for the retransmit timer. -/
def retransmitExpiry (cb : World → World) (w : World) : World :=
  if w.tsx.retransmitTimer then
    let w := cancelRetransmit w
    if State.destroyed.rank ≤ w.tsx.state.rank then w
    else (stateHandler cb .retransmitTimer w).1
  else w

/-- `tsx_timer_callback` for a posted transport error or disconnection. -/
def transportExpiry (cb : World → World) (tpDisc : Bool) (w : World) : World :=
  if w.tsx.state.rank < State.terminated.rank then
    let w := tsxUpdateTransport none w
    if tpDisc ∧ w.tsx.method = .invite ∧ w.tsx.role = .uas ∧ w.tsx.statusCode < 200 ∧
        w.tsx.flag.pendingTransport = false ∧ w.tsx.flag.pendingDestroy = false then
      { w with tsx := { w.tsx with flag := .none } }
    else
      let w := if w.tsx.statusCode < 200 then tsxSetStatusCode 503 w else w
      let w := tsxSetState cb .terminated .transportError ⟨true, true⟩ w
      scheduleTimeout .timeout (notifyUser cb (.notify w.tsx.state) w)
  else w

/-- `tsx_timer_callback` for the timeout timer. -/
def timeoutExpiry (cb : World → World) (w : World) : World :=
  match w.tsx.timeoutTimer with
  | none => w
  | some id =>
    let w := cancelTimeout w
    if State.destroyed.rank ≤ w.tsx.state.rank then w
    else
      match id with
      | .timeout => (stateHandler cb .timeoutTimer w).1
      | .transportErr => transportExpiry cb false w
      | .transportDisc => transportExpiry cb true w

/-- The transport layer ends the `k`-th unfinished transmission, a direct one. -/
def directDone (cb : World → World) (k : ℕ) (res : Option SendErr) (w : World) : World :=
  match w.outstanding[k]? with
  | some ⟨.direct, tx⟩ =>
    let w := w.log .completion
    transportCallbackImpl cb res
      { w with outstanding := w.outstanding.eraseIdx k, busy := w.busy.filter (· ≠ tx) }
  | _ => w

def endptDone (cb : World → World) (k : ℕ) (ours : Bool)
    (attempts : List (SendErr × Option Transport)) (last : EndptLast) (w : World) : World :=
  match w.outstanding[k]? with
  | some ⟨.endpt, tx⟩ =>
    let w := w.log .completion
    runEndpt cb (sendLastTx (tsxSendMsg cb)) tx ours (if tx.isRequest then attempts else []) last
      { w with outstanding := w.outstanding.eraseIdx k, busy := w.busy.filter (· ≠ tx) }
  | _ => w

def disconnect (e : Option SendErr) (w : World) : World :=
  if w.tsx.transport.isSome then tpStateDisconnected e w else w

/-! ## Runs -/

inductive Input
  | tu (call : TuCall)
  | recv (m : RxMsg)
  | retransmitExpiry
  | timeoutExpiry
  | directDone (k : ℕ) (res : Option SendErr)
  | endptDone (k : ℕ) (ours : Bool) (attempts : List (SendErr × Option Transport))
      (last : EndptLast)
  | disconnect (e : Option SendErr)

def handleInput (cb : World → World) (i : Input) (w : World) : World :=
  match i with
  | .tu call => tuCall cb w call
  | .recv m => (stateHandler cb (.rxMsg m) w).1
  | .retransmitExpiry => retransmitExpiry cb w
  | .timeoutExpiry => timeoutExpiry cb w
  | .directDone k res => directDone cb k res w
  | .endptDone k ours attempts last => endptDone cb k ours attempts last w
  | .disconnect e => disconnect e w

def step (w : World) (i : Input × Env) : World :=
  handleInput (tuCallback i.2.tu.length) i.1 { w with env := i.2 }

def newTsx (role : Role) (method : Method) (handle200resp reliable : Bool) : Tsx where
  role := role
  method := method
  handle200resp := handle200resp
  state := .null
  stateHandler := some .null
  statusCode := 0
  isReliable := reliable
  transport := none
  flag := .none
  lastTx := none
  pendingTx := none
  retransmitCount := 0
  retransmitTimer := false
  timeoutTimer := none
  transportErr := none
  tsxUser := true
  terminating := false

def newWorld (cfg : Config) (tsx : Tsx) : World := ⟨tsx, cfg, .empty, [], [], [], []⟩

def createUac (cfg : Config) (method : Method) (tx : TxData) (reliable : Bool) : World :=
  setLastTx (some tx) (newWorld cfg (newTsx .uac method true reliable))

/-- `pjsip_tsx_create_uas`, and the choice of `handle_200resp` the TU makes for it. -/
def createUas (cfg : Config) (method : Method) (handle200resp reliable : Bool)
    (tp : Option Transport) : World :=
  let w := newWorld cfg (newTsx .uas method handle200resp reliable)
  match tp with
  | none => w
  | some t =>
    let w := tsxUpdateTransport (some t) w
    { w with tsx := { w.tsx with isReliable := t.reliable } }

inductive Created : World → Prop
  | uac (cfg : Config) (method : Method) (tx : TxData) (reliable : Bool) (hm : method ≠ .ack)
      (htx : tx.msg = .request method) : Created (createUac cfg method tx reliable)
  | uas (cfg : Config) (method : Method) (handle200resp reliable : Bool) (tp : Option Transport)
      (hm : method ≠ .ack) : Created (createUas cfg method handle200resp reliable tp)

end PjProject.Transaction
