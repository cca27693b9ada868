import PjProject.TsxTypes

/-!
# SIP transaction: timers, state changes and transmission

`tsx_set_state`, `tsx_send_msg`, the two completion callbacks of the transport
layer and the retransmission functions. Every function that can notify the TU
takes the callback `cb` as an argument: what the TU does before it returns, as a
function on worlds.
-/
namespace PjProject.Transaction

/-! ## Timers -/

/-- `tsx_schedule_timer` on the timeout timer; an outstanding entry is left as it is. -/
@[simp] def scheduleTimeout (id : TimerId) (w : World) : World :=
  { w with tsx := { w.tsx with timeoutTimer := w.tsx.timeoutTimer.or (some id) } }

@[simp] def cancelTimeout (w : World) : World :=
  { w with tsx := { w.tsx with timeoutTimer := none } }

@[simp] def restartTimeout (id : TimerId) (w : World) : World := scheduleTimeout id (cancelTimeout w)

@[simp] def scheduleRetransmit (w : World) : World :=
  { w with tsx := { w.tsx with retransmitTimer := true } }

@[simp] def cancelRetransmit (w : World) : World :=
  { w with tsx := { w.tsx with retransmitTimer := false } }

/-! ## Fields -/

@[simp] def modifyFlag (f : TransportFlag → TransportFlag) (w : World) : World :=
  { w with tsx := { w.tsx with flag := f w.tsx.flag } }

@[simp] def setPendingTransport (b : Bool) : World → World :=
  modifyFlag fun f => { f with pendingTransport := b }

@[simp] def setPendingResched (b : Bool) : World → World :=
  modifyFlag fun f => { f with pendingResched := b }

@[simp] def setPendingSend (b : Bool) : World → World :=
  modifyFlag fun f => { f with pendingSend := b }

@[simp] def setResolvedServer : World → World :=
  modifyFlag fun f => { f with resolvedServer := true }

@[simp] def tsxSetStatusCode (code : ℕ) (w : World) : World :=
  { w with tsx := { w.tsx with statusCode := code } }

@[simp] def setLastTx (tx : Option TxData) (w : World) : World :=
  { w with tsx := { w.tsx with lastTx := tx } }

@[simp] def setRetransmitCount (n : ℕ) (w : World) : World :=
  { w with tsx := { w.tsx with retransmitCount := n } }

@[simp] def setTransportErr (e : Option SendErr) (w : World) : World :=
  { w with tsx := { w.tsx with transportErr := e } }

/-- `tdata->mod_data = tsx; tsx->pending_tx = tdata` -/
@[simp] def attach (tx : TxData) (w : World) : World :=
  { w with attached := tx :: w.attached, tsx := { w.tsx with pendingTx := some tx } }

/-- `tdata->mod_data = NULL` -/
@[simp] def detach (tx : TxData) (w : World) : World :=
  { w with attached := w.attached.filter (· ≠ tx) }

@[simp] def clearPendingTx (w : World) : World :=
  { w with tsx := { w.tsx with pendingTx := none } }

/-! ## Transport -/

/-- `tsx_tp_state_callback` for `PJSIP_TP_STATE_DISCONNECTED`: the event is posted
on the timeout timer unless the transaction already has a final response. -/
def tpStateDisconnected (e : Option SendErr) (w : World) : World :=
  let w := setTransportErr e (setPendingTransport false w)
  if w.tsx.state.rank < State.completed.rank then restartTimeout .transportDisc w else w

def tsxUpdateTransport (tp : Option Transport) (w : World) : World :=
  let w := { w with tsx := { w.tsx with transport := tp } }
  match tp with
  | none => w
  | some t => if t.shutdown then tpStateDisconnected (some .other) w else w

def tsxShutdown (w : World) : World :=
  let w := setLastTx none (tsxUpdateTransport none w)
  let w := cancelRetransmit (cancelTimeout w)
  let w := setPendingSend false (setPendingResched false w)
  let w :=
    if w.tsx.flag.pendingTransport then
      { w with tsx := { w.tsx with
          flag := { w.tsx.flag with pendingDestroy := true }, tsxUser := false } }
    else w
  { w with tsx := { w.tsx with terminating := true } }

/-! ## State changes -/

/-- `event_src_type` of `tsx_set_state`, with the received message where there is one. -/
inductive EventSrc
  | rxMsg (m : RxMsg)
  | txMsg | timer | transportError | user | unknown

def EventSrc.isRxResponse : EventSrc → Bool
  | .rxMsg (.response _) => true
  | _ => false

/-- The two bits of `flag` that matter without locks: `NO_NOTIFY`, `NO_SCHEDULE_HANDLER`. -/
structure SetStateFlag where
  noNotify : Bool
  noSchedule : Bool

def SetStateFlag.zero : SetStateFlag := ⟨false, false⟩

@[simp] def enterState (st : State) (w : World) : World :=
  { w with tsx := { w.tsx with
      state := st, stateHandler := tsxStateHandler w.tsx.role st } }

def notifyUser (cb : World → World) (o : Obs) (w : World) : World :=
  if w.tsx.tsxUser then cb (w.log o) else w

/-- The notifications of `tsx_set_state`: `on_rx_response` for a received response,
then `on_tsx_state`. -/
def notifyTu (cb : World → World) (src : EventSrc) (w : World) : World :=
  let w := if src.isRxResponse then notifyUser cb .rxResponse w else w
  notifyUser cb (.notify w.tsx.state) w

/-- What `tsx_set_state` does last when the new state is TERMINATED. -/
def onTerminated (noSchedule : Bool) (w : World) : World :=
  let w :=
    if w.tsx.flag.pendingTransport then
      let w := match w.tsx.pendingTx with
        | some tx => clearPendingTx (detach tx w)
        | none => w
      setPendingTransport false w
    else w
  let w := cancelTimeout w
  if noSchedule then w else scheduleTimeout .timeout w

def tsxSetState (cb : World → World) (st : State) (src : EventSrc) (flag : SetStateFlag)
    (w : World) : World :=
  let w := enterState st (w.log (.setState w.tsx.state st))
  let w := if flag.noNotify then w else notifyTu cb src w
  match st with
  | .terminated => onTerminated flag.noSchedule w
  | .destroyed => tsxShutdown w
  | _ => w

/-! ## Retransmission timer -/

/-- The interval `tsx_resched_retransmission` computes, in 32-bit arithmetic; the
shift count is taken modulo the width of an `int`. 60000 is
`PJSIP_TSX_1XX_RETRANS_DELAY * 1000`. -/
def reschedMsec (cfg : Config) (tsx : Tsx) : ℕ :=
  let base :=
    if tsx.role = .uac ∧ 100 ≤ tsx.statusCode then cfg.t2
    else 2 ^ (tsx.retransmitCount % 32) * cfg.t1 % 2 ^ 32
  match tsx.role with
  | .uac => if cfg.t2 < base ∧ tsx.method ≠ .invite then cfg.t2 else base
  | .uas =>
    if tsx.statusCode < 200 then 60000
    else if cfg.t2 < base then cfg.t2 else base

def tsxReschedRetransmission (w : World) : World :=
  let w := w.log (.resched w.tsx.role w.tsx.statusCode w.tsx.flag.pendingTransport)
  if reschedMsec w.cfg w.tsx ≠ 0 then scheduleRetransmit w else w

def reschedIfPending (w : World) : World :=
  if w.tsx.flag.pendingResched && !w.tsx.flag.pendingTransport then
    let w := setPendingResched false w
    if w.tsx.isReliable then w else tsxReschedRetransmission w
  else w

/-! ## Completion of a stateless transmission -/

/-- `sent` and `cur_transport` of `send_msg_callback`. -/
inductive CbResult
  | sent (tp : Transport)
  | failed (e : SendErr) (tp : Option Transport)

def SendErr.statusCode : SendErr → ℕ
  | .resolve => 502
  | .nxdomain => 502
  | .cancelled => 502
  | .other => 503

def adoptTransport (tp : Transport) (w : World) : World :=
  let w := tsxUpdateTransport (some tp) w
  { w with tsx := { w.tsx with isReliable := tp.reliable } }

/-- The first half of the success branch of `send_msg_callback`. -/
def sendMsgAdopt (ours : Bool) (tp : Transport) (w : World) : World :=
  let w := if ours && w.tsx.transport.map (·.id) ≠ some tp.id then adoptTransport tp w else w
  let w := setPendingTransport false w
  if ours then setResolvedServer w else w

/-- What both completion callbacks do after a success: destroy the transaction if
that was put off, else send and reschedule what was put off. -/
def afterSent (cb resend : World → World) (w : World) : World :=
  if w.tsx.flag.pendingDestroy then tsxSetState cb .destroyed .unknown .zero w
  else
    let w := if w.tsx.flag.pendingSend then resend (setPendingSend false w) else w
    reschedIfPending w

/-- The success branch of `send_msg_callback`. -/
def sendMsgSent (cb resend : World → World) (ours : Bool) (tp : Transport) (w : World) :
    World :=
  afterSent cb resend (sendMsgAdopt ours tp w)

/-- The fields `send_msg_callback` sets on a permanent failure. -/
def sendMsgMark (ours : Bool) (e : SendErr) (w : World) : World :=
  let w := setPendingTransport false (setTransportErr (some e) w)
  if ours then setResolvedServer w else w

/-- The permanent-failure part of `send_msg_callback`. -/
def sendMsgFailed (cb : World → World) (ours : Bool) (e : SendErr) (w : World) : World :=
  let w := sendMsgMark ours e w
  let final := w.tsx.state = .terminated ∨ w.tsx.state = .destroyed
  if (w.tsx.role = .uac ∨ e.statusCode = 502) ∧ ¬ final then
    tsxSetState cb .terminated .transportError .zero (tsxSetStatusCode e.statusCode w)
  else if w.tsx.flag.pendingDestroy then
    tsxSetState cb .destroyed .transportError .zero (tsxSetStatusCode e.statusCode w)
  else if w.tsx.role = .uas ∧ w.tsx.flag.pendingResched ∧ ¬ final then
    tsxReschedRetransmission (setPendingResched false w)
  else w

/-- The "will try next server" part of `send_msg_callback`. -/
def sendMsgRetry (tx : TxData) (w : World) : World :=
  let w := setRetransmitCount 0 w
  let w := if w.tsx.timeoutTimer.isSome then restartTimeout .timeout w else w
  attach tx w

def releaseTx (tx : TxData) (ours : Bool) (w : World) : World :=
  clearPendingTx (if ours then detach tx w else w)

def dropTransport (tp : Option Transport) (w : World) : World :=
  if w.tsx.transport.map (·.id) = tp.map (·.id) then tsxUpdateTransport none w else w

/-- `send_msg_callback`. `ours` is false when another transaction has taken the
message over; the result is the new world and the value of `*cont`. -/
def sendMsgCallback (cb resend : World → World) (tx : TxData) (ours : Bool) (res : CbResult)
    (cont : Bool) (w : World) : World × Bool :=
  if ours && !(tx ∈ w.attached) then (w, false)
  else
    let cont := cont && ours
    match res with
    | .sent tp => (sendMsgSent cb resend ours tp (releaseTx tx ours w), cont)
    | .failed e tp =>
      let w := dropTransport tp (releaseTx tx ours w)
      if !cont || w.tsx.flag.pendingDestroy || e = .cancelled then
        (sendMsgFailed cb ours e w, cont)
      else (sendMsgRetry tx w, cont)

/-- The loop of the stateless sending functions over the server addresses: each
failed attempt is reported with `*cont` set, and the last one decides. -/
def runEndpt (cb resend : World → World) (tx : TxData) (ours : Bool) :
    List (SendErr × Option Transport) → EndptLast → World → World
  | (e, tp) :: rest, last, w =>
    let r := sendMsgCallback cb resend tx ours (.failed e tp) true w
    if r.2 then runEndpt cb resend tx ours rest last r.1 else r.1
  | [], .pending inTransport, w =>
    { w with
      outstanding := w.outstanding ++ [⟨.endpt, tx⟩]
      busy := if inTransport then tx :: w.busy else w.busy }
  | [], .sent tp, w => (sendMsgCallback cb resend tx ours (.sent tp) false w).1
  | [], .failed e tp, w => (sendMsgCallback cb resend tx ours (.failed e tp) false w).1

/-! ## Transmission -/

/-- The part of `tsx_send_msg` that uses the transport at hand. `none` means the
message is with the transport, `some s` that the code goes on with status `s`. -/
def sendDirect (tx : TxData) (w : World) : World × Option Status :=
  match w.tsx.transport with
  | none => (w, some .success)
  | some _ =>
    let w := (setPendingTransport true w).log (.handed tx)
    match w.popDirect with
    | (.pending, w) =>
      ({ w with
          outstanding := w.outstanding ++ [⟨.direct, tx⟩]
          busy := tx :: w.busy }, none)
    | (.sent, w) => (setPendingTransport false w, none)
    | (.failed e, w) => (tsxUpdateTransport none (setPendingTransport false w), some (.send e))

/-- `tsx->transport_err` as a status. -/
def transportErrStatus (w : World) : Status :=
  match w.tsx.transportErr with
  | none => .success
  | some e => .send e

def sendBegin (tx : TxData) (w : World) : World :=
  (setPendingTransport true (attach tx w)).log (.handed tx)

def sendRefused (tx : TxData) (w : World) : World :=
  let w := if tx.isRequest then tsxSetStatusCode 503 w else w
  clearPendingTx (detach tx (setPendingTransport false w))

/-- The part of `tsx_send_msg` that resolves the destination. -/
def sendStateless (cb resend : World → World) (tx : TxData) (w : World) : World × Status :=
  match (sendBegin tx w).popEndpt with
  | (.refused e, w) => (sendRefused tx w, .send e)
  | (.run attempts last, w) =>
    -- a response goes to the first resolved address only
    let w := runEndpt cb resend tx true (if tx.isRequest then attempts else []) last w
    (w, if w.tsx.state = .terminated then transportErrStatus w else .success)

def permanentStatus (status : Status) : Status :=
  if status = .success then .eunknown else status

/-- `tsx_send_msg`. `resend` is what the completion callback calls for a message
that was put off; it is this function again. -/
def tsxSendMsgWith (cb resend : World → World) (tx : TxData) (w : World) : World × Status :=
  if w.tsx.flag.pendingTransport then (setPendingSend true w, .success)
  else if tx ∈ w.busy then (w, .success)
  else
    match sendDirect tx w with
    | (w, none) => (w, .success)
    | (w, some status) =>
      if w.tsx.role = .uac ∧ w.tsx.flag.resolvedServer then
        (tsxSetState cb .terminated .transportError .zero (tsxSetStatusCode 503 w),
          permanentStatus status)
      else sendStateless cb resend tx w

/-- Send `tsx->last_tx`, which must not be NULL. -/
def sendLastTx (send : TxData → World → World × Status) (w : World) : World :=
  match w.tsx.lastTx with
  | none => w
  | some tx => (send tx w).1

/-- `tsx_send_msg` down to the given depth of the recursion through its own
callback. The callback clears `TSX_HAS_PENDING_SEND` before it calls
`tsx_send_msg`, so the inner call cannot come back a second time. -/
def tsxSendMsgDepth (cb : World → World) : ℕ → TxData → World → World × Status
  | 0, tx, w => tsxSendMsgWith cb id tx w
  | n + 1, tx, w => tsxSendMsgWith cb (sendLastTx (tsxSendMsgDepth cb n)) tx w

def tsxSendMsg (cb : World → World) (tx : TxData) (w : World) : World × Status :=
  tsxSendMsgDepth cb 1 tx w

def retransmitBegin (resched : Bool) (w : World) : World :=
  let w := setRetransmitCount (w.tsx.retransmitCount + 1) w
  if resched then
    if w.tsx.flag.pendingTransport then setPendingResched true w else tsxReschedRetransmission w
  else w

def tsxRetransmit (cb : World → World) (resched : Bool) (w : World) : World × Status :=
  if resched && w.tsx.retransmitTimer then (w, .success)
  else
    match w.tsx.lastTx with
    | none => (w, .ebug)
    | some tx =>
      if (w.cfg.maxRetrans.any fun m => m ≤ w.tsx.retransmitCount) && tx.isRequest then
        (restartTimeout .timeout w, .success)
      else
        let r := tsxSendMsg cb tx (retransmitBegin resched w)
        if r.2 = .success ∧ resched ∧ r.1.tsx.flag.pendingTransport then
          (setPendingResched true (cancelRetransmit r.1), .success)
        else r

/-- `transport_callback_impl`; `res` is `none` when the message was sent. -/
def transportCallbackImpl (cb : World → World) (res : Option SendErr) (w : World) : World :=
  let w := setPendingTransport false w
  if res = none ∨ w.tsx.role = .uas then afterSent cb (sendLastTx (tsxSendMsg cb)) w
  else
    let w := setTransportErr res w
    if w.tsx.state.rank < State.completed.rank then restartTimeout .transportErr w else w

end PjProject.Transaction
