import PjProject.TsxTypes

/-!
# SIP dialog: CSeq numbers and the transactions of a dialog

`pjsip_dlg_send_request`, `pjsip_dlg_on_rx_request`, `pjsip_dlg_on_tsx_state` and the
creation of a dialog, as far as they number requests and count transactions. A
transaction is kept with the fields the dialog reads; the transaction layer's part is
`tsx_set_state`, `pjsip_tsx_terminate` and the outcomes of `pjsip_tsx_send_msg`.
The usages of the dialog are called back in the middle of these functions and may call
them again, so each function takes what the usages do as an argument.
-/
namespace PjProject.Dialog

open PjProject.Transaction (Role State Method)

/-- A transaction: `modData` says that its `mod_data` of the user agent is this dialog. -/
structure Tsx where
  role : Role
  state : State
  statusCode : ℕ
  modData : Bool
  deriving DecidableEq

inductive Obs
  /-- the usages are called back, or one of their calls returns: `tsx_count`, and the
  number of transactions whose `mod_data` is this dialog -/
  | point (count : ℤ) (attached : ℕ)
  /-- `--dlg->tsx_count` at this value -/
  | dec (count : ℤ)
  /-- transaction `i` is set to TERMINATED -/
  | terminated (i : ℕ)
  /-- `pjsip_dlg_send_request` returns; the transaction it created -/
  | returned (success : Bool) (created : Option ℕ)
  /-- the CSeq number put on an outgoing request that is not ACK or CANCEL -/
  | numbered (cseq : ℤ)
  /-- a received request is passed to the usages -/
  | passed (method : Method) (cseq : ℤ)
  deriving DecidableEq

/-- `pjsip_dialog`. The transactions stand in the order of their creation; `trace` has
the latest observation first. -/
structure Dlg where
  localCseq : ℤ
  remoteCseq : ℤ
  ackSent : Bool
  tsxCount : ℤ
  tsxs : List Tsx
  trace : List Obs
  deriving DecidableEq

/-- The value of a `pj_int32_t` after the addition wrapped around. -/
def int32 (n : ℤ) : ℤ := Int.bmod n (2 ^ 32)

namespace Dlg

def attached (d : Dlg) : ℕ := d.tsxs.countP (·.modData)

def observe (o : Obs) (d : Dlg) : Dlg := { d with trace := o :: d.trace }

def point (d : Dlg) : Dlg := d.observe (.point d.tsxCount d.attached)

def usages (cb : Dlg → Dlg) (d : Dlg) : Dlg := cb d.point

def modifyTsx (i : ℕ) (f : Tsx → Tsx) (d : Dlg) : Dlg := { d with tsxs := d.tsxs.modify i f }

def tsxHas (i : ℕ) (p : Tsx → Bool) (d : Dlg) : Bool := (d.tsxs[i]?).any p

/-- `--dlg->tsx_count` -/
def decTsxCount (d : Dlg) : Dlg :=
  { d.observe (.dec d.tsxCount) with tsxCount := d.tsxCount - 1 }

/-- `tsx->mod_data[dlg->ua->id] = dlg` on a new transaction, and `++dlg->tsx_count`. -/
def attachTsx (role : Role) (d : Dlg) : Dlg :=
  { d with tsxs := d.tsxs ++ [⟨role, .null, 0, true⟩], tsxCount := d.tsxCount + 1 }

end Dlg

open Dlg

def pjsipDlgOnTsxState (cb : Dlg → Dlg) (i : ℕ) (d : Dlg) : Dlg :=
  let d := d.usages cb
  if d.tsxHas i fun t => t.state = .terminated ∧ t.modData then
    d.decTsxCount.modifyTsx i fun t => { t with modData := false }
  else d

def modUaOnTsxState (cb : Dlg → Dlg) (i : ℕ) (d : Dlg) : Dlg :=
  if d.tsxHas i (·.modData) then pjsipDlgOnTsxState cb i d else d

def tsxStateEntered (i : ℕ) : State → Dlg → Dlg
  | .terminated => observe (.terminated i)
  | _ => id

/-- `tsx_set_state`: the usages see a received response (`rx`) before the state change. -/
def tsxSetState (rx cb : Dlg → Dlg) (i : ℕ) (next : State) (d : Dlg) : Dlg :=
  let d := tsxStateEntered i next (d.modifyTsx i fun t => { t with state := next })
  modUaOnTsxState cb i (d.usages rx)

def tsxSetStatusCode (i code : ℕ) (d : Dlg) : Dlg :=
  d.modifyTsx i fun t => { t with statusCode := code }

def pjsipTsxTerminate (cb : Dlg → Dlg) (i code : ℕ) (d : Dlg) : Dlg :=
  if 200 ≤ code ∧ d.tsxHas i fun t => t.state.rank < State.terminated.rank then
    tsxSetState id cb i .terminated (tsxSetStatusCode i code d)
  else d

/-- What the transaction layer answers to a new request: no transaction can be created,
the send is refused at once, it fails and terminates the transaction (`code` is 502 or
503), or it is under way. -/
inductive SendOutcome
  | noTsx | refused | failed (code : ℕ) | sent
  deriving DecidableEq

/-- `pjsip_tsx_send_msg` on a new client transaction, with whether it returns `PJ_SUCCESS`. -/
def pjsipTsxSendMsg (cb : Dlg → Dlg) (i : ℕ) (d : Dlg) : SendOutcome → Dlg × Bool
  | .sent => (tsxSetState id cb i .calling d, true)
  | .failed code => (tsxSetState id cb i .terminated (tsxSetStatusCode i code d), false)
  | _ => (tsxSetStatusCode i 503 d, false)

/-- The CSeq update of `pjsip_dlg_send_request`. -/
def numberRequest (m : Method) (d : Dlg) : Dlg :=
  if m ≠ .cancel ∧ m ≠ .ack then
    { d.observe (.numbered d.localCseq) with localCseq := int32 (d.localCseq + 1) }
  else d

/-- The send has failed: `pjsip_dlg_send_request` terminates the transaction unless the
counter says that this has happened. `again` is what the usages do then. -/
def finishFailed (again : Dlg → Dlg) (i : ℕ) (tsxCount : ℤ) (d : Dlg) : Dlg :=
  if d.tsxCount = tsxCount then
    pjsipTsxTerminate again i ((d.tsxs[i]?).elim 0 (·.statusCode)) d
  else d

/-- The stateful part of `pjsip_dlg_send_request`. -/
def sendStatefully (cb again : Dlg → Dlg) (out : SendOutcome) (d : Dlg) : Dlg :=
  let i := d.tsxs.length
  let d := d.attachTsx .uac
  let tsxCount := d.tsxCount
  let (d, success) := pjsipTsxSendMsg cb i d out
  if success then d.observe (.returned true (some i))
  else (finishFailed again i tsxCount d).observe (.returned false (some i))

lemma sendStatefully_eq (cb again : Dlg → Dlg) (out : SendOutcome) (d : Dlg) :
    sendStatefully cb again out d =
      let r := pjsipTsxSendMsg cb d.tsxs.length (d.attachTsx .uac) out
      if r.2 then r.1.observe (.returned true (some d.tsxs.length))
      else (finishFailed again d.tsxs.length (d.tsxCount + 1) r.1).observe
        (.returned false (some d.tsxs.length)) := rfl

def pjsipDlgSendRequest (cb again : Dlg → Dlg) (m : Method) (out : SendOutcome)
    (d : Dlg) : Dlg :=
  let d := numberRequest m d
  if m ≠ .ack then
    if out = .noTsx then d.observe (.returned false none) else sendStatefully cb again out d
  else
    { d with ackSent := true }.observe (.returned (out = SendOutcome.sent) none)

/-- A call of a usage, with the calls the usages make from inside it: `rx` when they see a
response, `cbs` when they see the new state of the transaction, `again` when the dialog
terminates the transaction of a failed send. `advance` stands for every other way the
transaction layer sets a state: a response sent by the usages, a message, a timer. -/
inductive Call
  | send (m : Method) (out : SendOutcome) (cbs again : List Call)
  | terminate (i code : ℕ) (cbs : List Call)
  | advance (i code : ℕ) (next : State) (rx cbs : List Call)

mutual

def exec : Call → Dlg → Dlg
  | .send m out cbs again, d =>
    (pjsipDlgSendRequest (execAll cbs) (execAll again) m out d).point
  | .terminate i code cbs, d => (pjsipTsxTerminate (execAll cbs) i code d).point
  | .advance i code next rx cbs, d =>
    (tsxSetState (execAll rx) (execAll cbs) i next (tsxSetStatusCode i code d)).point

def execAll : List Call → Dlg → Dlg
  | [], d => d
  | c :: cs, d => execAll cs (exec c d)

end

lemma execAll_rule {P : (Dlg → Dlg) → Prop} (hid : P id)
    (hcomp : ∀ f g, P f → P g → P fun d => g (f d))
    (hsend : ∀ {cb again} m out, P cb → P again →
      P fun d => (pjsipDlgSendRequest cb again m out d).point)
    (hterminate : ∀ {cb} i code, P cb → P fun d => (pjsipTsxTerminate cb i code d).point)
    (hadvance : ∀ {rx cb} i code next, P rx → P cb →
      P fun d => (tsxSetState rx cb i next (tsxSetStatusCode i code d)).point) :
    ∀ cs, P (execAll cs)
  | [] => hid
  | .send m out cbs again :: cs =>
    hcomp _ (execAll cs)
      (hsend m out (execAll_rule hid hcomp hsend hterminate hadvance cbs)
        (execAll_rule hid hcomp hsend hterminate hadvance again))
      (execAll_rule hid hcomp hsend hterminate hadvance cs)
  | .terminate i code cbs :: cs =>
    hcomp _ (execAll cs)
      (hterminate i code (execAll_rule hid hcomp hsend hterminate hadvance cbs))
      (execAll_rule hid hcomp hsend hterminate hadvance cs)
  | .advance i code next rx cbs :: cs =>
    hcomp _ (execAll cs)
      (hadvance i code next (execAll_rule hid hcomp hsend hterminate hadvance rx)
        (execAll_rule hid hcomp hsend hterminate hadvance cbs))
      (execAll_rule hid hcomp hsend hterminate hadvance cs)

/-- A request given to `pjsip_dlg_on_rx_request`, with what happens on the way: whether
it has a transaction already or one can be created, what the usages do and whether they
claim it, and where the transaction goes when the request is fed to it and when a 500
response is sent for an unclaimed request. -/
structure RxRequest where
  method : Method
  cseq : ℤ
  hasTsx : Bool
  created : Bool
  usage : List Call
  processed : Bool
  trying : List Call
  refed : Option State
  unhandled : Option State
  respond : List Call

/-- `pjsip_tsx_recv_msg` with the first request; a transaction that a usage has already
moved treats it as a retransmission. -/
def pjsipTsxRecvMsg (r : RxRequest) (i : ℕ) (d : Dlg) : Dlg :=
  if d.tsxHas i (·.state = .null) then tsxSetState id (execAll r.trying) i .trying d
  else r.refed.elim d fun next => tsxSetState id (execAll r.trying) i next d

def respondUnhandled (r : RxRequest) (i : ℕ) (d : Dlg) : Dlg :=
  if !r.processed && d.tsxHas i (fun t => t.statusCode < 200 ∧ t.modData) then
    r.unhandled.elim d fun next =>
      tsxSetState id (execAll r.respond) i next (tsxSetStatusCode i 500 d)
  else d

/-- The part of `pjsip_dlg_on_rx_request` after the CSeq check. -/
def acceptRequest (r : RxRequest) (d : Dlg) : Dlg :=
  let d := { d with remoteCseq := r.cseq }
  if !r.hasTsx && r.method ≠ .ack then
    if r.created then
      let i := d.tsxs.length
      let d := ((d.attachTsx .uas).observe (.passed r.method r.cseq)).usages (execAll r.usage)
      respondUnhandled r i (pjsipTsxRecvMsg r i d)
    else d
  else (d.observe (.passed r.method r.cseq)).usages (execAll r.usage)

def pjsipDlgOnRxRequest (r : RxRequest) (d : Dlg) : Dlg :=
  if r.cseq ≤ d.remoteCseq ∧ r.method ≠ .ack ∧ r.method ≠ .cancel then d
  else (acceptRequest r d).point

/-- What `pj_create_unique_string` returns: a string of `PJ_GUID_STRING_LENGTH` characters,
which no platform defines as zero. -/
structure Guid where
  chars : List UInt8
  pos : 0 < chars.length

/-- `pjsip_ua_register_dlg` succeeds: it asserts that the dialog has a local tag. -/
def registers (tag : Guid) : Bool := tag.chars.length ≠ 0

/-- How a dialog comes about. `rand` is the value of `pj_rand`; a forked dialog takes the
first dialog's CSeq. -/
inductive Creation
  | uac (rand : ℕ)
  | fork (cseq : ℤ)
  | uas (rand : ℕ) (cseq : ℤ) (tag : Guid)

/-- `create_uas_dialog` from the creation of the transaction on, with its error path. -/
def createUasDialog (tag : Guid) (d : Dlg) : Dlg :=
  let d := d.attachTsx .uas
  if registers tag then (tsxSetState id id 0 .trying d).point
  else (pjsipTsxTerminate id 0 500 d).decTsxCount

def Creation.localCseq : Creation → ℤ
  | .uac rand | .uas rand _ _ => (rand % 0x8000 : ℕ)
  | .fork cseq => cseq

/-- `pjsip_dlg_create_uac`, `pjsip_dlg_fork` and `create_uas_dialog` -/
def create : Creation → Dlg
  | .uac rand => ⟨(rand % 0x8000 : ℕ), -1, false, 0, [], []⟩
  | .fork cseq => ⟨cseq, -1, false, 0, [], []⟩
  | .uas rand cseq tag => createUasDialog tag ⟨(rand % 0x8000 : ℕ), cseq, false, 0, [], []⟩

inductive Input
  | call (c : Call)
  | rxRequest (r : RxRequest)

def step (d : Dlg) : Input → Dlg
  | .call c => exec c d
  | .rxRequest r => pjsipDlgOnRxRequest r d

end PjProject.Dialog
