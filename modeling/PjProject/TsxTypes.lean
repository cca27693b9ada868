import PjProject.Transition

/-!
# SIP transaction: data model

The fields of `pjsip_transaction` that its state machine reads or writes, the
messages it handles, and the world around it: the transport layer's unfinished
transmissions, the answers the environment gives to the calls the transaction
makes, and a record of what the outside can observe. Reference counts, locks,
addresses and log texts are left out; no branch of the state machine reads them.
-/
namespace PjProject.Transaction

/-- `pjsip_role_e` -/
inductive Role
  | uac | uas
  deriving DecidableEq

/-- `pjsip_tsx_state_e`, in its declared order. -/
inductive State
  | null | calling | trying | proceeding | completed | confirmed | terminated | destroyed
  deriving DecidableEq

/-- The numeric value of the enumerator; `tsx_set_state` compares these. -/
def State.rank : State → ℕ
  | null => 0
  | calling => 1
  | trying => 2
  | proceeding => 3
  | completed => 4
  | confirmed => 5
  | terminated => 6
  | destroyed => 7

@[simp] lemma State.rank_null : State.null.rank = 0 := rfl
@[simp] lemma State.rank_calling : State.calling.rank = 1 := rfl
@[simp] lemma State.rank_trying : State.trying.rank = 2 := rfl
@[simp] lemma State.rank_proceeding : State.proceeding.rank = 3 := rfl
@[simp] lemma State.rank_completed : State.completed.rank = 4 := rfl
@[simp] lemma State.rank_confirmed : State.confirmed.rank = 5 := rfl
@[simp] lemma State.rank_terminated : State.terminated.rank = 6 := rfl
@[simp] lemma State.rank_destroyed : State.destroyed.rank = 7 := rfl

lemma State.rank_eq_six {st : State} : st.rank = 6 ↔ st = .terminated := by
  cases st <;> simp

lemma State.rank_lt_seven {st : State} : st.rank < 7 ↔ st ≠ .destroyed := by
  cases st <;> simp

/-- `pjsip_method_e` -/
inductive Method
  | invite | cancel | ack | bye | register | options | other
  deriving DecidableEq

/-- The status codes that reach a transaction: the transport manager drops every
other response, and the TU builds its responses with the same range. -/
structure StatusCode where
  val : ℕ
  lo : 100 ≤ val
  hi : val ≤ 699
  deriving DecidableEq

/-- A message of the transport layer to be sent (`pjsip_tx_data`). `id` is its identity. -/
inductive TxMsg
  | request (method : Method)
  | response (code : StatusCode) (cseqMethod : Method)
  deriving DecidableEq

structure TxData where
  id : ℕ
  msg : TxMsg
  deriving DecidableEq

def TxData.isRequest (tx : TxData) : Bool :=
  match tx.msg with
  | .request _ => true
  | .response _ _ => false

/-- A received message (`pjsip_rx_data`). -/
inductive RxMsg
  | request (method : Method)
  | response (code : StatusCode)
  deriving DecidableEq

/-- `shutdown` is `is_shutdown || is_destroying` at the time the transport is adopted. -/
structure Transport where
  id : ℕ
  reliable : Bool
  shutdown : Bool
  deriving DecidableEq

inductive SendErr
  | resolve | nxdomain | cancelled | other
  deriving DecidableEq

/-- The result of `pj_status_t` functions of the transaction. -/
inductive Status
  | success
  | send (e : SendErr)
  | createAck
  | ebug | einval | einvalidop | eunknown | eignored
  | enotrequestmsg | enotresponsemsg | einvalidmethod
  deriving DecidableEq

/-- The active ids of `timeout_timer`. -/
inductive TimerId
  | timeout | transportErr | transportDisc
  deriving DecidableEq

inductive Handler
  | null | calling | trying | proceedingUas | proceedingUac
  | completedUas | completedUac | confirmed | terminated | destroyed
  deriving DecidableEq

/-- The table `tsx_state_handler_uac`. -/
def tsxStateHandlerUac : State → Option Handler
  | .null => some .null
  | .calling => some .calling
  | .trying => none
  | .proceeding => some .proceedingUac
  | .completed => some .completedUac
  | .confirmed => some .confirmed
  | .terminated => some .terminated
  | .destroyed => some .destroyed

/-- The table `tsx_state_handler_uas`. -/
def tsxStateHandlerUas : State → Option Handler
  | .null => some .null
  | .calling => none
  | .trying => some .trying
  | .proceeding => some .proceedingUas
  | .completed => some .completedUas
  | .confirmed => some .confirmed
  | .terminated => some .terminated
  | .destroyed => some .destroyed

def tsxStateHandler : Role → State → Option Handler
  | .uac => tsxStateHandlerUac
  | .uas => tsxStateHandlerUas

structure TransportFlag where
  pendingTransport : Bool
  pendingResched : Bool
  pendingSend : Bool
  pendingDestroy : Bool
  resolvedServer : Bool
  deriving DecidableEq

@[simp] def TransportFlag.none : TransportFlag := ⟨false, false, false, false, false⟩

/-- `pjsip_transaction`. A timer is pending exactly when its id is not
`TIMER_INACTIVE`: expiry, cancellation and scheduling keep the two together. -/
structure Tsx where
  role : Role
  method : Method
  handle200resp : Bool
  state : State
  stateHandler : Option Handler
  statusCode : ℕ
  isReliable : Bool
  transport : Option Transport
  flag : TransportFlag
  lastTx : Option TxData
  pendingTx : Option TxData
  retransmitCount : ℕ
  retransmitTimer : Bool
  timeoutTimer : Option TimerId
  transportErr : Option SendErr
  tsxUser : Bool
  terminating : Bool
  deriving DecidableEq

/-- `pjsip_cfg()->tsx` and `max_retrans_count` (`none` when negative). -/
structure Config where
  t1 : ℕ
  t2 : ℕ
  maxRetrans : Option ℕ

/-- What `pjsip_transport_send` answers. -/
inductive DirectResult
  | sent | pending
  | failed (e : SendErr)
  deriving DecidableEq

/-- How the stateless sending functions end their work on a message: still in
progress (in the resolver, or accepted by a transport), sent, or failed for good. -/
inductive EndptLast
  | pending (inTransport : Bool)
  | sent (tp : Transport)
  | failed (e : SendErr) (tp : Option Transport)
  deriving DecidableEq

/-- What the stateless sending functions answer: an error at once, or some
failed attempts with a further server address left and then an end. -/
inductive EndptResult
  | refused (e : SendErr)
  | run (attempts : List (SendErr × Option Transport)) (last : EndptLast)
  deriving DecidableEq

/-- A call the TU makes: `pjsip_tsx_send_msg` (`none` is the NULL tdata) or
`pjsip_tsx_terminate`. -/
inductive TuCall
  | sendMsg (tx : Option TxData)
  | terminate (code : ℕ)
  deriving DecidableEq

/-- The answers of the environment, each list consumed from its head: results of
direct and stateless transmissions, whether `pjsip_endpt_create_ack` succeeds (and
the ACK it creates), and the calls the TU makes inside each of its callbacks. -/
structure Env where
  direct : List DirectResult
  endpt : List EndptResult
  ack : List (Option TxData)
  tu : List (List TuCall)
  deriving DecidableEq

def Env.empty : Env := ⟨[], [], [], []⟩

inductive SendKind
  | direct | endpt
  deriving DecidableEq

structure Outstanding where
  kind : SendKind
  tx : TxData
  deriving DecidableEq

/-- What the outside sees, newest first in `World.trace`. -/
inductive Obs
  /-- a call of `tsx_set_state` with the state before it and the one asked for -/
  | setState (prev next : State)
  /-- `on_tsx_state`, with the state the TU reads -/
  | notify (st : State)
  | rxResponse
  /-- a message given to the transport layer -/
  | handed (tx : TxData)
  /-- `tsx_resched_retransmission` is entered -/
  | resched (role : Role) (statusCode : ℕ) (pendingTransport : Bool)
  /-- the retransmit timer expires in UAS PROCEEDING -/
  | retransExpiry (pendingTransport : Bool)
  /-- the TU makes a call, with the transaction and the environment before it -/
  | call (c : TuCall) (tsx : Tsx) (env : Env)
  /-- `pjsip_tsx_send_msg` returns: when it was called (the length of the trace
  then), whether a transmission was pending then, and the result -/
  | tuSend (stamp : ℕ) (tx : TxData) (pending : Bool) (status : Status)
  /-- the transport layer reports the end of a transmission -/
  | completion
  /-- a NULL state handler is called -/
  | nullHandler
  deriving DecidableEq

/-- The transaction and everything its functions can touch. `attached` lists the
messages whose `mod_data` points to this transaction, `busy` those whose
`is_pending` flag is set. -/
structure World where
  tsx : Tsx
  cfg : Config
  env : Env
  outstanding : List Outstanding
  attached : List TxData
  busy : List TxData
  trace : List Obs

@[simp] def World.log (w : World) (o : Obs) : World := { w with trace := o :: w.trace }

/-- The answer of `pjsip_transport_send`; an exhausted list means it is sent. -/
def World.popDirect (w : World) : DirectResult × World :=
  match w.env.direct with
  | [] => (.sent, w)
  | r :: rs => (r, { w with env := { w.env with direct := rs } })

def World.popEndpt (w : World) : EndptResult × World :=
  match w.env.endpt with
  | [] => (.run [] (.pending false), w)
  | r :: rs => (r, { w with env := { w.env with endpt := rs } })

def World.popAck (w : World) : Option TxData × World :=
  match w.env.ack with
  | [] => (none, w)
  | r :: rs => (r, { w with env := { w.env with ack := rs } })

def World.popTu (w : World) : List TuCall × World :=
  match w.env.tu with
  | [] => ([], w)
  | r :: rs => (r, { w with env := { w.env with tu := rs } })

end PjProject.Transaction
