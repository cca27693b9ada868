import PjProject.SessionTimer

/-!
# A 2xx response to an INVITE

What `sip_inv.c` does with a 2xx response to an INVITE of its own, from `mod_inv_on_rx_response` to the
end of `mod_inv_on_tsx_state`: the handlers of the states of a session, the checks they make, the ACK
and the end of the session. The application may end the session in each of its callbacks. Messages can
be created and sent. What is passed to the dialog, or asked of the application, is kept in `sent`.
-/
namespace PjProject.InvAck
open SessionTimer (SessExpires Timer)

inductive InvState
  | null | calling | incoming | early | connecting | confirmed | disconnected
  deriving DecidableEq

def InvState.rank : InvState → ℕ
  | .null => 0 | .calling => 1 | .incoming => 2 | .early => 3
  | .connecting => 4 | .confirmed => 5 | .disconnected => 6

inductive Role
  | uac | uas
  deriving DecidableEq

def isTransportCause (cause : ℤ) : Bool := cause = 408 ∨ cause = 503

inductive Scheme
  | sip | sips | other
  deriving DecidableEq

inductive Body
  | none
  /-- Not an SDP, or not a valid one. -/
  | bad
  | sdp
  deriving DecidableEq

/-- A 2xx response. `tsx` is its client transaction, which a retransmission does not have; `contact`
the scheme of the Contact URI, and `recordRoute` that of the top Record-Route, with whether it says
`transport=tls`. To tags are told apart by numbers. -/
structure Response where
  cseq : ℕ
  tsx : Option ℕ
  toTag : ℕ
  contact : Option Scheme
  recordRoute : Option (Scheme × Bool)
  sessExpires : Option SessExpires
  body : Body

/-- The states of `pjmedia_sdp_neg` with an offer; `localAnswer` says whose answer is waiting. -/
inductive NegState
  | localOffer | remoteOffer | waitNego (localAnswer : Bool) | done
  deriving DecidableEq

/-- `struct tsx_inv_data` -/
structure TsxData where
  sdpDone : Bool
  doneTag : ℕ
  doneEarly : Bool
  doneEarlyRel : Bool
  deriving DecidableEq

/-- `last_ack` with `last_ack_cseq`: whether it has a transport, and whether it is still pending there. -/
structure LastAck where
  cseq : ℕ
  transport : Bool
  pending : Bool
  deriving DecidableEq

/-- What the session does not change: the callbacks of the application, the settings of the endpoint,
the options of the session and the role and the security of its dialog. -/
structure Cfg where
  onStateChanged : Bool
  onRxOffer : Bool
  onMediaUpdate : Bool
  onSendAck : Bool
  onTsxStateChanged : Bool
  disableSecureDlgCheck : Bool
  acceptMultipleSdpAnswers : Bool
  supportTimer : Bool
  requireTimer : Bool
  alwaysUseTimer : Bool
  role : Role
  dlgRole : Role
  secure : Bool

inductive Msg
  | ack (cseq : ℕ)
  /-- `on_send_ack` -/
  | askAck (cseq : ℕ)
  | bye
  /-- A CANCEL, or a final response. -/
  | other
  /-- What the application sends from a callback: a BYE or another message. -/
  | app (bye : Bool)
  deriving DecidableEq

structure Sess where
  cfg : Cfg
  state : InvState
  cause : ℤ
  notify : Bool
  inviteTsx : Option ℕ
  cancelling : Bool
  pendingCancel : Bool
  pendingBye : Bool
  lastAck : Option LastAck
  neg : Option NegState
  data : ℕ → Option TsxData
  timer : Timer
  sent : List Msg

/-- What the application may do in a callback: `pjsip_inv_end_session` with the sending of its message,
or `pjsip_inv_terminate`. -/
inductive Call
  | endSession (code : ℤ)
  | terminate (code : ℤ) (notify : Bool)

inductive Callback
  | stateChanged (state : InvState)
  | rxOffer | mediaUpdate | sendAck | tsxStateChanged

structure Env where
  app : Callback → List Call
  /-- `on_rx_offer` sets an answer. -/
  answers : Bool
  /-- The SDP is taken by the negotiator as an offer, as an answer, and the negotiation succeeds. -/
  offerOk : Bool
  answerOk : Bool
  negOk : Bool
  /-- `pjmedia_sdp_neg_modify_local_offer2` succeeds. -/
  modifyOk : Bool
  /-- The SDP is the active remote one. -/
  sameSdp : Bool
  /-- `invite_tsx->status_code` is at least 100. -/
  inviteProvisional : Bool
  /-- The ACK is still being sent when the dialog returns. -/
  pending : Bool

def Sess.put (m : Msg) (s : Sess) : Sess := { s with sent := s.sent ++ [m] }

def invSetCause (code : ℤ) (s : Sess) : Sess :=
  if s.cause < code ∨ s.pendingBye then { s with cause := code } else s

inductive Tdata
  | bye | other

def pjsipInvEndSession (code : ℤ) (env : Env) (s : Sess) : Sess × Option Tdata :=
  let s := invSetCause code s
  match s.state with
  | .null | .calling | .incoming | .early =>
    match s.cfg.role with
    | .uac =>
      if s.inviteTsx.isNone then (s, none)
      else if env.inviteProvisional = false then ({ s with cancelling := true, pendingCancel := true }, none)
      else ({ s with cancelling := true }, some .other)
    | .uas => ({ s with cancelling := true }, some .other)
  | .connecting | .confirmed => ({ s with cancelling := true, timer.active := false }, some .bye)
  | .disconnected => (s, none)

/-- `pjsip_inv_send_msg`; `own` when the session calls it itself. -/
def pjsipInvSendMsg (own : Bool) (tdata : Tdata) (s : Sess) : Sess :=
  match tdata with
  | .bye =>
    if s.cfg.role = .uas ∧ s.state = .connecting ∧ ¬ isTransportCause s.cause then { s with pendingBye := true }
    else s.put (if own then .bye else .app true)
  | .other => s.put (if own then .other else .app false)

def endAndSend (own : Bool) (code : ℤ) (env : Env) (s : Sess) : Sess :=
  match pjsipInvEndSession code env s with
  | (s, some tdata) => pjsipInvSendMsg own tdata s
  | (s, none) => s

def Sess.call (env : Env) (s : Sess) : Call → Sess
  | .endSession code => endAndSend false code env s
  | .terminate code notify => { invSetCause code { s with notify := notify } with state := .disconnected }

def Sess.callback (env : Env) (cb : Callback) (s : Sess) : Sess := (env.app cb).foldl (Sess.call env) s

def Sess.notifies (env : Env) (installed : Bool) (cb : Callback) (s : Sess) : Sess :=
  if installed ∧ s.notify then s.callback env cb else s

def Sess.incomplete (s : Sess) : Bool :=
  (s.inviteTsx.bind s.data).any (fun d => d.sdpDone = false) ∧ s.neg ≠ some .done

def invSetState (state : InvState) (env : Env) (s : Sess) : Sess :=
  if state = .confirmed ∧ s.incomplete then endAndSend true 406 env s
  else Sess.notifies env s.cfg.onStateChanged (.stateChanged state) { s with state := state }

/-- `inv_negotiate_sdp`, and whether it succeeds. -/
def invNegotiateSdp (env : Env) (s : Sess) : Sess × Bool :=
  let s := Sess.notifies env s.cfg.onMediaUpdate .mediaUpdate { s with neg := some .done }
  (s, env.negOk ∧ s.state ≠ .disconnected)

/-- The end of `inv_check_sdp_in_incoming_msg` for a failure. -/
def sdpFailed (env : Env) (s : Sess) : Sess :=
  if s.neg = some .localOffer then s.notifies env s.cfg.onMediaUpdate .mediaUpdate else s

/-- The part of `inv_check_sdp_in_incoming_msg` that uses the SDP as an offer or an answer. -/
def useSdp (env : Env) (r : Response) (t : ℕ) (s : Sess) : Sess :=
  match s.neg with
  | none | some .done =>
    if env.offerOk then
      let asked := s.cfg.onRxOffer ∧ s.notify
      let s := Sess.notifies env s.cfg.onRxOffer .rxOffer { s with neg := some .remoteOffer }
      if asked ∧ env.answers then { s with neg := some (.waitNego true) } else s
    else s
  | some .localOffer =>
    if env.answerOk then
      let s := (invNegotiateSdp env { s with neg := some (.waitNego false) }).1
      { s with data := Function.update s.data t (some ⟨true, r.toTag, false, false⟩) }
    else sdpFailed env s
  | some _ => s

def TsxData.takesAnother (d : TsxData) (multiple : Bool) (tag : ℕ) : Bool :=
  d.doneEarly ∧ ((d.doneEarlyRel = false ∧ multiple ∧ d.doneTag = tag) ∨ d.doneTag ≠ tag)

/-- `inv_check_sdp_in_incoming_msg` for a 2xx response. -/
def invCheckSdpInIncomingMsg (env : Env) (r : Response) (t : ℕ) (s : Sess) : Sess :=
  match r.body with
  | .none => s
  | .bad => sdpFailed env s
  | .sdp =>
    let d := (s.data t).getD ⟨false, 0, false, false⟩
    let s := { s with data := Function.update s.data t (some d) }
    if d.sdpDone = false then useSdp env r t s
    else if d.takesAnother s.cfg.acceptMultipleSdpAnswers r.toTag then
      if s.neg ≠ some .done ∨ (d.doneTag = r.toTag ∧ env.sameSdp) ∨ env.modifyOk = false then s
      else useSdp env r t { s with neg := some .localOffer }
    else s

def invHasPendingAnswer (env : Env) (s : Sess) : Sess :=
  if s.neg = some (.waitNego true) then
    match invNegotiateSdp env s with
    | (s, true) =>
      match s.inviteTsx with
      | some t => { s with data := Function.update s.data t ((s.data t).map fun d => { d with sdpDone := true }) }
      | none => s
    | (s, false) => s
  else s

/-- `pjmedia_sdp_neg_cancel_offer`, when the own offer has got no answer. -/
def cancelOffer (s : Sess) : Sess := if s.neg = some .localOffer then { s with neg := some .done } else s

def pjsipInvCreateAck (env : Env) (cseq : ℕ) (s : Sess) : Sess :=
  { invHasPendingAnswer env { s with lastAck := none } with lastAck := some ⟨cseq, false, false⟩ }

/-- Whether `last_ack` can be sent again for this CSeq. -/
def Sess.cachedAck (s : Sess) (cseq : ℕ) : Bool :=
  s.lastAck.any fun a => a.cseq = cseq ∧ a.transport ∧ a.pending = false

/-- `inv_send_ack` once `last_ack` is the ACK for this CSeq. -/
def sendLastAck (env : Env) (cseq : ℕ) (s : Sess) : Sess :=
  let s := Sess.put (.ack cseq) { s with lastAck := some ⟨cseq, true, env.pending⟩ }
  if s.state.rank < InvState.confirmed.rank then invSetState .confirmed env s
  else if s.state = .disconnected then { s with lastAck := none }
  else s

def invSendAck (env : Env) (cseq : ℕ) (s : Sess) : Sess :=
  if s.cachedAck cseq then sendLastAck env cseq s
  else if s.cfg.onSendAck then (s.put (.askAck cseq)).callback env .sendAck
  else sendLastAck env cseq (pjsipInvCreateAck env cseq s)

def Scheme.secureRoute (tls : Bool) : Scheme → Bool
  | .sips => true
  | .sip => tls
  | .other => false

/-- The Contact and the top Record-Route of a 2xx response do not meet `inv_check_secure_dlg`. -/
def Cfg.insecure (c : Cfg) (r : Response) : Bool :=
  c.disableSecureDlgCheck = false ∧ c.secure ∧
    (r.contact ≠ some .sips ∨ r.recordRoute.any (fun x => x.1.secureRoute x.2 = false))

/-- `inv_check_secure_dlg`, and whether the session goes on. -/
def invCheckSecureDlg (env : Env) (r : Response) (s : Sess) : Sess × Bool :=
  if s.cfg.insecure r then (endAndSend true 480 env s, false) else (s, true)

/-- `pjsip_timer_process_resp` for a 2xx response, and whether it succeeds. -/
def pjsipTimerProcessResp (se : Option SessExpires) (s : Sess) : Sess × Bool :=
  if s.cfg.supportTimer = false then (s, true)
  else if se = none ∧ s.cfg.requireTimer then ({ s with timer.active := false }, false)
  else if se = none ∧ s.cfg.alwaysUseTimer = false then ({ s with timer.active := false }, true)
  else ({ s with timer := s.timer.process2xx se }, true)

/-- `handle_timer_response`, where a failure ends the session. -/
def handleTimerResponse (env : Env) (r : Response) (s : Sess) : Sess × Bool :=
  match pjsipTimerProcessResp r.sessExpires s with
  | (s, true) => (s, true)
  | (s, false) => (endAndSend true 421 env s, false)

def checkResponse (env : Env) (r : Response) (s : Sess) : Sess × Bool :=
  match invCheckSecureDlg env r s with
  | (s, true) => handleTimerResponse env r s
  | (s, false) => (s, false)

def checked (env : Env) (r : Response) (accept : Sess → Sess) (s : Sess) : Sess :=
  match checkResponse env r s with
  | (s, true) => accept s
  | (s, false) => s

def acceptInitial (env : Env) (r : Response) (t : ℕ) (s : Sess) : Sess :=
  checked env r (fun s => invSendAck env r.cseq (invCheckSdpInIncomingMsg env r t s)) (invSetState .connecting env s)

def invOnStateCalling (env : Env) (r : Response) (t : ℕ) (s : Sess) : Sess :=
  if s.inviteTsx = some t then acceptInitial env r t s else s

def invOnStateEarly (env : Env) (r : Response) (t : ℕ) (s : Sess) : Sess :=
  if s.inviteTsx = some t then acceptInitial env r t s else s

def invOnStateNull (env : Env) (r : Response) (t : ℕ) (s : Sess) : Sess :=
  let s := if s.inviteTsx = none then { s with inviteTsx := some t } else s
  match s.cfg.dlgRole with
  | .uac => invOnStateCalling env r t s
  | .uas => invSetState .disconnected env (invSetCause 200 s)

def invOnStateIncoming (env : Env) (t : ℕ) (s : Sess) : Sess :=
  if s.inviteTsx = some t then invSetState .disconnected env (invSetCause 200 s) else s

def invOnStateConfirmed (env : Env) (r : Response) (t : ℕ) (s : Sess) : Sess :=
  checked env r (fun s => invSendAck env r.cseq (cancelOffer (invCheckSdpInIncomingMsg env r t s))) s

def invStateHandler (env : Env) (r : Response) (t : ℕ) (s : Sess) : Sess :=
  match s.state with
  | .null => invOnStateNull env r t s
  | .calling => invOnStateCalling env r t s
  | .incoming => invOnStateIncoming env t s
  | .early => invOnStateEarly env r t s
  | .confirmed => invOnStateConfirmed env r t s
  -- Neither `inv_on_state_connecting` nor `inv_on_state_disconnected` looks for a 2xx.
  | .connecting | .disconnected => s

def modInvOnTsxState (env : Env) (r : Response) (t : ℕ) (s : Sess) : Sess :=
  let s := invStateHandler env r t s
  let s := if s.inviteTsx = some t then { s with inviteTsx := none } else s
  s.notifies env s.cfg.onTsxStateChanged .tsxStateChanged

/-- The responses that `mod_inv_on_rx_response` takes for retransmissions. -/
def Sess.expects (s : Sess) (cseq : ℕ) : Bool :=
  s.inviteTsx = none ∨ s.state = .disconnected ∨ s.lastAck.any (fun a => a.cseq = cseq)

def modInvOnRxResponse (env : Env) (r : Response) (s : Sess) : Sess :=
  if s.expects r.cseq then invSendAck env r.cseq s else s

def rx2xx (env : Env) (r : Response) (s : Sess) : Sess :=
  match r.tsx with
  | none => modInvOnRxResponse env r s
  | some t => modInvOnTsxState env r t (modInvOnRxResponse env r s)

end PjProject.InvAck
