import PjProject.PjString

/-!
# Reliable provisional responses

The UAS side of `sip_100rel` for one INVITE. The INVITE transaction is there as far as the module
sees it: `pjsip_tsx_send_msg` succeeds while no final response has been sent and the transport
takes the message, `completed` transactions ignore new messages, and `invite_tsx` is `NULL` once
the transaction is confirmed or terminated. A call to `pjsip_100rel_tx_response` has a number, so
that its response can be told from others on the wire.
-/
namespace PjProject.Reliable

structure Response where
  code : ℕ
  body : Bool
  deriving DecidableEq

/-- `tx_data_list_t`, with the number of the call. -/
structure TxDataList where
  rseq : ℕ
  tdata : Response
  id : ℕ
  deriving DecidableEq

/-- `uas_state_t`; `timer` is the id of `retransmit_timer`, set while it is scheduled. -/
structure UasState where
  cseq : ℤ
  rseq : ℕ
  txDataList : List TxDataList
  retransmitCount : ℕ
  timer : Bool
  deriving DecidableEq

/-- `inv->invite_tsx` -/
inductive InviteTsx
  | proceeding | completed | null
  deriving DecidableEq

/-- What happens, in order: first transmissions and retransmissions of reliable responses, final
responses on the wire, final responses put in the list behind others, and matching PRACKs. -/
inductive Event
  | sent (id rseq : ℕ)
  | resent (id : ℕ)
  | final (id : Option ℕ)
  | queued (id : ℕ) (ahead : List ℕ)
  | acked (id : ℕ)
  deriving DecidableEq

structure Session where
  inviteTsx : InviteTsx
  cseq : ℤ
  uas : Option UasState
  calls : ℕ
  log : List Event
  deriving DecidableEq

namespace UasState

def clearAllResponses (u : UasState) : UasState := { u with txDataList := [] }

def cancelTimer (u : UasState) : UasState := { u with timer := false }

def hasSdp (u : UasState) : Bool := u.txDataList.any fun tl => tl.tdata.body

end UasState

def strtoul (str : Bytes) : ℕ := digitsFrom 0 str % 2 ^ 64

/-- `parse_rack`: the RSeq, the CSeq and the method. -/
def parseRack (rack : Bytes) : ℕ × ℤ × Bytes :=
  let p := rack.dropWhile isDigit
  let p := p.drop 1
  let q := p.dropWhile isDigit
  (strtoul (rack.takeWhile isDigit) % 2 ^ 32, (strtoul (p.takeWhile isDigit) : ℤ).bmod (2 ^ 32), q.drop 1)

namespace Session

def put (s : Session) (u : UasState) : Session := { s with uas := some u }

def emit (s : Session) (e : Event) : Session := { s with log := s.log ++ [e] }

/-- `pjsip_tsx_send_msg`, also through `pjsip_dlg_send_response`; `ok` says that the transport
takes the message. -/
def sendMsg (s : Session) (ok : Bool) (tdata : Response) : Option Session :=
  if s.inviteTsx = .proceeding ∧ ok then
    some { s with inviteTsx := if tdata.code < 200 then .proceeding else .completed }
  else none

def sendFinal (s : Session) (ok : Bool) (tdata : Response) (id : Option ℕ) : Session :=
  match s.sendMsg ok tdata with
  | some s => s.emit (.final id)
  | none => s

def transmitted (tl : TxDataList) : Event :=
  if 200 ≤ tl.tdata.code then .final (some tl.id) else .sent tl.id tl.rseq

def onRetransmit (ok : Bool) (s : Session) (u : UasState) : Session :=
  let u := u.cancelTimer
  if s.inviteTsx = .null then s.put u.clearAllResponses
  else
    let u := { u with retransmitCount := u.retransmitCount + 1 }
    if 7 ≤ u.retransmitCount then (s.put u.clearAllResponses).sendFinal ok ⟨504, false⟩ none
    else
      match u.txDataList with
      | [] => s.put u
      | tl :: _ =>
        let sent :=
          if u.retransmitCount = 1 then (s.sendMsg ok tl.tdata).map fun s => s.emit (transmitted tl)
          else some (s.emit (if 200 ≤ tl.tdata.code then .final (some tl.id) else .resent tl.id))
        match sent with
        | none => s.put u
        | some s => if 200 ≤ tl.tdata.code then s.put u.clearAllResponses else s.put { u with timer := true }

/-- A `uas_state_t` for the first reliable response. -/
def newState (s : Session) (rand : ℕ) : UasState :=
  { cseq := s.cseq, rseq := rand % 0x7FFF + 1, txDataList := [], retransmitCount := 0, timer := false }

/-- `pjsip_100rel_tx_response`, with the number that `pj_rand` gives. -/
def txResponse (s : Session) (tdata : Response) (rand : ℕ) (ok : Bool) : Session :=
  let id := s.calls
  let s := { s with calls := s.calls + 1 }
  if tdata.code = 100 then (s.sendMsg ok tdata).getD s
  else if tdata.code / 100 = 2 then
    match s.uas with
    | some u =>
      if u.hasSdp then
        let ahead := (u.txDataList.filter fun tl => tl.tdata.code < 200).map TxDataList.id
        (s.put { u with txDataList := u.txDataList ++ [⟨2 ^ 32 - 1, tdata, id⟩] }).emit (.queued id ahead)
      else (s.put u.cancelTimer.clearAllResponses).sendFinal ok tdata (some id)
    | none => s.sendFinal ok tdata (some id)
  else if 300 ≤ tdata.code then
    let s :=
      match s.uas with
      | some u => if u.timer then s.put u.cancelTimer.clearAllResponses else s
      | none => s
    s.sendFinal ok tdata (some id)
  else
    let u := s.uas.getD (s.newState rand)
    if s.cseq ≠ u.cseq then s.put u
    else
      let tl := ⟨u.rseq, tdata, id⟩
      let u := { u with rseq := (u.rseq + 1) % 2 ^ 32 }
      if u.txDataList ≠ [] then s.put { u with txDataList := u.txDataList ++ [tl] }
      else onRetransmit ok s { u with txDataList := [tl], retransmitCount := 0 }

/-- `pjsip_100rel_on_rx_prack`, with the value of the RAck header if there is one. -/
def onRxPrack (s : Session) (rack : Option Bytes) (ok : Bool) : Session :=
  match s.uas, rack with
  | some u, some rack =>
    match u.txDataList with
    | [] => s
    | tl :: rest =>
      let (rseq, cseq, _) := parseRack rack
      if rseq = tl.rseq ∧ cseq = u.cseq then
        let s := s.emit (.acked tl.id)
        let u := { u.cancelTimer with txDataList := rest, retransmitCount := 0 }
        if rest ≠ [] then onRetransmit ok s u else s.put u
      else s
  | _, _ => s

def endSession (s : Session) : Session :=
  match s.uas with
  | some u => s.put u.cancelTimer.clearAllResponses
  | none => s

end Session

/-- `tsxGone` sets `invite_tsx` to `NULL`. The session ends when nothing refers to it any more. -/
inductive Input
  | txResponse (tdata : Response) (rand : ℕ) (ok : Bool)
  | rxPrack (rack : Option Bytes) (ok : Bool)
  | timerExpiry (ok : Bool)
  | tsxGone
  | endSession

def step (s : Session) : Input → Session
  | .txResponse tdata rand ok => s.txResponse tdata rand ok
  | .rxPrack rack ok => s.onRxPrack rack ok
  | .timerExpiry ok =>
    match s.uas with
    | some u => if u.timer then s.onRetransmit ok u else s
    | none => s
  | .tsxGone => { s with inviteTsx := .null }
  | .endSession => { s.endSession with inviteTsx := .null }

def Session.Accepts (s : Session) (ok : Bool) : Prop := s.inviteTsx = .null ∨ s.inviteTsx = .proceeding ∧ ok = true

def Session.pending (s : Session) : List TxDataList := (s.uas.map UasState.txDataList).getD []

def Session.Matches (s : Session) (rack : Option Bytes) : Prop :=
  ∃ u ∈ s.uas, ∃ tl ∈ u.txDataList.head?, ∃ r ∈ rack, (parseRack r).1 = tl.rseq ∧ (parseRack r).2.1 = u.cseq

/-- No first transmission from the list is refused, and no final response that takes the place of
the list. -/
def Safe (s : Session) : Input → Prop
  | .txResponse tdata _ ok =>
    (tdata.code ≠ 100 → tdata.code < 200 → s.pending = [] → s.Accepts ok) ∧
      (200 ≤ tdata.code → s.pending ≠ [] → (tdata.code < 300 → ∀ tl ∈ s.pending, tl.tdata.body = false) → s.Accepts ok)
  | .rxPrack rack ok => s.Matches rack → s.pending.tail ≠ [] → s.Accepts ok
  | .timerExpiry ok => ∀ u ∈ s.uas, u.timer = true → 6 ≤ u.retransmitCount → s.Accepts ok
  | .tsxGone | .endSession => True

def start (cseq : ℤ) : Session :=
  { inviteTsx := .proceeding, cseq := cseq, uas := none, calls := 0, log := [] }

def Event.sentId : Event → Option ℕ
  | .sent id _ => some id
  | _ => none

def Event.sentRseq : Event → Option ℕ
  | .sent _ rseq => some rseq
  | _ => none

def Event.isReliable : Event → Bool
  | .sent _ _ | .resent _ => true
  | _ => false

def Event.isFinal : Event → Bool
  | .final _ => true
  | _ => false

def unacked (log : List Event) : List ℕ := (log.filterMap Event.sentId).filter fun id => .acked id ∉ log

structure Ordered (s : Session) : Prop where
  one : (unacked s.log).length ≤ 1
  consecutive : (s.log.filterMap Event.sentRseq).IsChain fun a b => b = (a + 1) % 2 ^ 32
  after_prack : ∀ l₁ l₂ id ahead, s.log = l₁ ++ .final (some id) :: l₂ → .queued id ahead ∈ s.log →
    ∀ a ∈ ahead, .acked a ∈ l₁
  final_last : s.log.Pairwise fun a b => a.isFinal → b.isReliable = false
  timer : ∀ u ∈ s.uas, u.txDataList ≠ [] → u.timer = true

end PjProject.Reliable
