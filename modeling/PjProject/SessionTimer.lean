import PjProject.Transition

/-!
# Session timers of the two ends of a call

`sip_timer.c` on both sides of a dialog, with the parts of `sip_inv.c` that call it. The caller sends
the first INVITE; each end may then start INVITE and UPDATE transactions. Messages in flight arrive in
any order. An end that gets a request may refuse it before the session timer sees it, or reject it
after that; an INVITE is answered later, by the application. The ACK is left out: an end is confirmed
when it has sent or received the 2xx. A refresh by the timer is one more transaction that is started.
-/
namespace PjProject.SessionTimer

inductive Side
  | caller | callee
  deriving DecidableEq

def Side.other : Side → Side
  | .caller => .callee
  | .callee => .caller

/-- `enum timer_refresher` -/
inductive Refresher
  | unknown | uac | uas
  deriving DecidableEq

/-- `pjsip_role_e` -/
inductive Role
  | uac | uas
  deriving DecidableEq

inductive Method
  | invite | update
  deriving DecidableEq

/-- `pjsip_inv_state`; an end without a session is disconnected. -/
inductive InvState
  | null | calling | incoming | early | confirmed | disconnected
  deriving DecidableEq

def absMinSe : ℕ := 90

structure Timer where
  active : Bool
  sessExpires : ℕ
  minSe : ℕ
  refresher : Refresher
  role : Role
  last422Cseq : ℕ
  deriving DecidableEq

structure SessExpires where
  sessExpires : ℕ
  refresher : Refresher
  deriving DecidableEq

inductive Kind
  | request | response (code : ℕ)
  deriving DecidableEq

/-- A message of the transaction that `uac` started. `toTag` says that a request is inside the
dialog. -/
structure Message where
  uac : Side
  method : Method
  cseq : ℕ
  kind : Kind
  toTag : Bool
  se : Option SessExpires
  minSe : Option ℕ
  deriving DecidableEq

/-- `pjsip_inv_session`: the options `PJSIP_INV_REQUIRE_TIMER` and `PJSIP_INV_ALWAYS_USE_TIMER`,
`invite_tsx` with its role and CSeq, whether the dialog is established, and its next CSeq. -/
structure Endpoint where
  timer : Timer
  requireTimer : Bool
  alwaysUse : Bool
  state : InvState
  inviteTsx : Option (Role × ℕ)
  established : Bool
  cseq : ℕ
  deriving DecidableEq

/-- `pjsip_timer_setting`, with what `pjsip_timer_init_session` checks. -/
structure Setting where
  sessExpires : ℕ
  minSe : ℕ
  absMinSe_le : absMinSe ≤ minSe
  minSe_le : minSe ≤ sessExpires

namespace Timer

def initSession (s : Setting) : Timer :=
  { active := false, sessExpires := s.sessExpires, minSe := s.minSe, refresher := .unknown, role := .uac, last422Cseq := 0 }

def asRefresher (t : Timer) : Bool :=
  (t.refresher = .uac ∧ t.role = .uac) ∨ (t.refresher = .uas ∧ t.role = .uas)

/-- The Session-Expires header of `add_timer_headers` -/
def seHdr (t : Timer) : SessExpires := ⟨t.sessExpires, t.refresher⟩

/-- `pjsip_timer_update_req`, before the headers are added. -/
def updateReq (t : Timer) : Timer :=
  if t.refresher ≠ .unknown then { t with role := .uac, refresher := if t.asRefresher then .uac else .uas } else t

/-- `pjsip_timer_process_req`; `none` is 422. `force` says that `PJSIP_INV_REQUIRE_TIMER` or
`PJSIP_INV_ALWAYS_USE_TIMER` is set, and the request says `Supported: timer`. -/
def processReq (t : Timer) (force : Bool) (se : Option SessExpires) (minSeHdr : Option ℕ) : Option Timer :=
  let minSe := match minSeHdr with
    | some m => max m t.minSe
    | none => t.minSe
  match se with
  | some hdr =>
    if hdr.sessExpires < minSe then none
    else
      let refresher := match hdr.refresher with
        | .uac => .uac
        | .uas => .uas
        | .unknown => if t.refresher ≠ .unknown then (if t.asRefresher then .uas else .uac) else .uac
      some { t with sessExpires := hdr.sessExpires, refresher := refresher, role := .uas, active := true }
  | none =>
    let t := if t.sessExpires < minSe then { t with sessExpires := minSe } else t
    if force = false then some { t with active := false }
    else
      let refresher := if t.refresher ≠ .unknown then (if t.asRefresher then .uas else .uac) else .uas
      some { t with refresher := refresher, role := .uas, active := true }

/-- What `pjsip_timer_process_resp` does with a 2xx response. -/
def process2xx (t : Timer) (se : Option SessExpires) : Timer :=
  let t := match se with
    | some hdr =>
      let t := if hdr.sessExpires < t.minSe ∧ absMinSe ≤ hdr.sessExpires then
          { t with sessExpires := hdr.sessExpires, minSe := hdr.sessExpires } else t
      if hdr.sessExpires ≤ t.sessExpires ∧ t.minSe ≤ hdr.sessExpires then { t with sessExpires := hdr.sessExpires } else t
    | none => t
  let refresher := match se with
    | some hdr => if hdr.refresher = .uas then .uas else .uac
    | none => .uac
  { t with refresher := refresher, role := .uac, active := true }

end Timer

inductive Outcome
  | done | resend | fail
  deriving DecidableEq

namespace Endpoint

/-- `pjsip_timer_process_resp` for a final response. -/
def processResp (e : Endpoint) (m : Message) (code : ℕ) : Endpoint × Outcome :=
  if code = 422 then
    match m.minSe with
    | none => ({ e with timer.active := false }, .fail)
    | some minSe =>
      if m.cseq = e.timer.last422Cseq + 1 then
        if e.state = .confirmed then ({ e with inviteTsx := none }, .done) else (e, .fail)
      else
        let minSe := max minSe e.timer.minSe
        let sessExpires := if e.timer.sessExpires < minSe then minSe else e.timer.sessExpires
        ({ e with timer := { e.timer with last422Cseq := m.cseq, minSe := minSe, sessExpires := sessExpires } }, .resend)
  else if code / 100 = 2 then
    if m.se = none ∧ e.requireTimer then ({ e with timer.active := false }, .fail)
    else if m.se = none ∧ e.alwaysUse = false then ({ e with timer.active := false }, .done)
    else ({ e with timer := e.timer.process2xx m.se }, .done)
  else (e, .done)

/-- `pjsip_timer_update_resp`: the headers of a response to the request. -/
def respond (e : Endpoint) (m : Message) (code : ℕ) : Message :=
  { m with
    kind := .response code
    se := if code / 100 = 2 ∧ e.timer.active then some e.timer.seHdr else none
    minSe := if code = 422 then some e.timer.minSe else none }

/-- A request with the headers of `add_timer_headers`, and the next CSeq. -/
def request (e : Endpoint) (uac : Side) (method : Method) : Message :=
  { uac := uac, method := method, cseq := e.cseq, kind := .request, toTag := e.established,
    se := some e.timer.seHdr, minSe := some e.timer.minSe }

def sent (e : Endpoint) (method : Method) : Endpoint :=
  match method with
  | .invite =>
    { e with
      inviteTsx := some (.uac, e.cseq)
      state := if e.state = .null then .calling else e.state
      cseq := e.cseq + 1 }
  | .update => { e with cseq := e.cseq + 1 }

/-- `pjsip_inv_invite` and `pjsip_inv_update` make a request in these states. -/
def canStart (e : Endpoint) : Method → Bool
  | .invite => (e.state = .null ∨ e.state = .confirmed) ∧ e.inviteTsx = none
  | .update => e.established ∧ e.state ≠ .disconnected

/-- `pjsip_inv_uac_restart`, or the end of the pending INVITE, before the request is sent again. -/
def restart (e : Endpoint) (method : Method) : Endpoint :=
  if e.state ≠ .confirmed then { e with state := .null, inviteTsx := none }
  else if method = .invite then { e with inviteTsx := none }
  else e

end Endpoint

/-- Both ends, what is in flight, and whether the last transaction that finished was answered with a
2xx. -/
structure Call where
  ends : Side → Endpoint
  flight : List Message
  lastAnswer : Option Bool

namespace Call

def setEnd (c : Call) (x : Side) (e : Endpoint) : Call := { c with ends := Function.update c.ends x e }

def send (c : Call) (m : Message) : Call := { c with flight := c.flight ++ [m] }

def start (c : Call) (x : Side) (method : Method) : Call :=
  let e := c.ends x
  if e.canStart method then
    let e := { e with timer := e.timer.updateReq }
    (c.setEnd x (e.sent method)).send (e.request x method)
  else c

def refused : ℕ := 491

/-- An INVITE that makes a session at the callee: `pjsip_inv_initial_answer`. -/
def createSession (c : Call) (x : Side) (m : Message) (setting : Setting) : Call :=
  let e := { c.ends x with
    timer := .initSession setting, state := .incoming, inviteTsx := some (.uas, m.cseq), established := false }
  match e.timer.processReq (e.requireTimer || e.alwaysUse) m.se m.minSe with
  | some timer => c.setEnd x { e with timer := timer }
  | none =>
    let e := { e with state := .disconnected, inviteTsx := none }
    (c.setEnd x e).send (e.respond m 422)

/-- A request inside the dialog; `accept` is what becomes of an UPDATE. -/
def onRequest (c : Call) (x : Side) (m : Message) (accept : Bool) : Call :=
  let e := c.ends x
  match e.timer.processReq (e.requireTimer || e.alwaysUse) m.se m.minSe with
  | none => c.send (e.respond m 422)
  | some timer =>
    let e := { e with timer := timer }
    match m.method with
    | .invite => c.setEnd x { e with inviteTsx := some (.uas, m.cseq) }
    | .update => (c.setEnd x e).send (e.respond m (if accept then 200 else 488))

def onResponse (c : Call) (x : Side) (m : Message) (code : ℕ) : Call :=
  let e := c.ends x
  if code < 200 then
    c.setEnd x { e with established := true, state := if e.state = .calling then .early else e.state }
  else
    let (e, outcome) := e.processResp m code
    let c := { c with lastAnswer := some (decide (code / 100 = 2)) }
    match outcome with
    | .resend =>
      let e := e.restart m.method
      (c.setEnd x (e.sent m.method)).send (e.request x m.method)
    | .fail =>
      let ends := m.method = .invite ∧ (e.state ≠ .confirmed ∨ code / 100 = 2)
      c.setEnd x { e with state := if ends then .disconnected else e.state }
    | .done =>
      match m.method with
      | .update => c.setEnd x e
      | .invite =>
        if code / 100 = 2 then c.setEnd x { e with inviteTsx := none, established := true, state := .confirmed }
        else c.setEnd x { e with inviteTsx := none, state := if e.state = .confirmed then .confirmed else .disconnected }

end Call

/-- `setting` is for a session that the message makes. -/
inductive Input
  | start (x : Side) (method : Method)
  | deliver (i : ℕ) (refuse accept : Bool) (setting : Setting)
  | provisional (x : Side)
  | answer (x : Side) (code : ℕ)

namespace Call

def arrive (c : Call) (m : Message) (refuse accept : Bool) (setting : Setting) : Call :=
  match m.kind with
  | .response code => c.onResponse m.uac m code
  | .request =>
    let x := m.uac.other
    let e := c.ends x
    if refuse then c.send (e.respond m refused)
    else if m.toTag = false then
      if m.method = .invite ∧ x = .callee ∧ e.state = .disconnected then c.createSession x m setting
      else c.send (e.respond m refused)
    else if e.state = .disconnected then c.send (e.respond m refused)
    else if m.method = .invite ∧ (e.inviteTsx ≠ none ∨ e.state ≠ .confirmed) then c.send (e.respond m refused)
    else c.onRequest x m accept

def pendingInvite (c : Call) (x : Side) : Option Message :=
  match (c.ends x).inviteTsx with
  | some (.uas, cseq) =>
    some { uac := x.other, method := .invite, cseq := cseq, kind := .request, toTag := true, se := none, minSe := none }
  | _ => none

def step (c : Call) : Input → Call
  | .start x method => c.start x method
  | .deliver i refuse accept setting =>
    match c.flight[i]? with
    | some m => { c with flight := c.flight.eraseIdx i }.arrive m refuse accept setting
    | none => c
  | .provisional x =>
    match c.pendingInvite x with
    | some m =>
      let e := c.ends x
      let e := { e with established := true, state := if e.state = .incoming then .early else e.state }
      (c.setEnd x e).send (e.respond m 180)
    | none => c
  | .answer x code =>
    match c.pendingInvite x with
    | some m =>
      if 200 ≤ code ∧ code < 700 ∧ code ≠ 422 then
        let e := c.ends x
        let msg := e.respond m code
        let e := { e with inviteTsx := none }
        if code / 100 = 2 then (c.setEnd x { e with established := true, state := .confirmed }).send msg
        else (c.setEnd x { e with state := if e.state = .confirmed then .confirmed else .disconnected }).send msg
      else c
    | none => c

end Call

def create (setting : Setting) (callerCseq calleeCseq : ℕ) (requireTimer alwaysUse : Side → Bool) : Call :=
  let ends x : Endpoint := match x with
    | .caller => ⟨.initSession setting, requireTimer x, alwaysUse x, .null, none, false, callerCseq⟩
    | .callee => ⟨.initSession setting, requireTimer x, alwaysUse x, .disconnected, none, false, calleeCseq⟩
  { ends := ends, flight := [], lastAnswer := none }

end PjProject.SessionTimer
