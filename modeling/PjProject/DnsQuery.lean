import PjProject.PjString

/-!
# Pending queries of the DNS resolver

`pj_dns_resolver` without its response cache: query nodes in memory, the two tables of pending
queries, the free list and the timers. Callers pass a callback; a call to
`pj_dns_resolver_start_query` has a number, which is also its user data. What the network, the
timer heap and the generator of transaction ids answer comes with each input. Callbacks do not
call back into the resolver.
-/
namespace PjProject.Dns

def maxHostname : ℕ := 254

/-- `struct res_key`; the name is padded with zeros. -/
structure ResKey where
  qtype : ℕ
  name : Bytes
  deriving DecidableEq

def initResKey (type : ℕ) (name : Bytes) : ResKey :=
  let src := name.take (maxHostname - 1)
  { qtype := type % 2 ^ 16, name := lowerAll src ++ List.replicate (maxHostname - src.length) 0 }

/-- `pj_dns_async_query`. `timerId` and `timerPending` are the id of `timer_entry` and whether it is
in the timer heap; `cb` says that the callback is not `NULL`. -/
structure Query where
  id : ℕ
  transmitCnt : ℕ
  key : ResKey
  timerId : ℕ
  timerPending : Bool
  userData : ℕ
  cb : Bool
  childHead : List ℕ

inductive Status
  | success | rcode (value : ℕ) | timedOut | cancelled
  deriving DecidableEq

/-- What happens to the callers: a query that is pending, of its own or below a parent, cancelled
queries, callbacks, and the end of a parent. An assertion has its outcome. -/
inductive Event
  | attached (caller parent : ℕ)
  | cancelled (caller : ℕ)
  | called (caller : ℕ) (status : Status)
  | completed (parent : ℕ)
  | asserted (ok : Bool)
  deriving DecidableEq

/-- `pj_dns_resolver`. Nodes are addresses, and those from `brk` on are not allocated yet. -/
structure Resolver where
  query : ℕ → Query
  brk : ℕ
  queryFreeNodes : List ℕ
  hquerybyid : ℕ → Option ℕ
  hquerybyres : ResKey → Option ℕ
  qretrCount : ℕ
  calls : ℕ
  log : List Event

/-- What `transmit_query` meets: no name server, a timer heap that is full, a socket that is busy,
a name that makes no packet, sends that all fail, or a packet that is sent. -/
inductive Net
  | noServer | timerFull | busy | noPacket | unsent | sent
  deriving DecidableEq

namespace Resolver

def setQuery (r : Resolver) (q : ℕ) (query : Query) : Resolver :=
  { r with query := Function.update r.query q query }

def emit (r : Resolver) (events : List Event) : Resolver := { r with log := r.log ++ events }

def allocQnode (r : Resolver) (userData : ℕ) : Resolver × ℕ :=
  let query : Query :=
    { id := 0, transmitCnt := 0, key := ⟨0, []⟩, timerId := 0, timerPending := false, userData := userData,
      cb := true, childHead := [] }
  match r.queryFreeNodes with
  | q :: rest => ({ r with queryFreeNodes := rest }.setQuery q query, q)
  | [] => ({ r with brk := r.brk + 1 }.setQuery r.brk query, r.brk)

/-- `get_query_id`, with the ids that the digests give. -/
def getQueryId (r : Resolver) (digests : List ℕ) : ℕ :=
  ((digests.take 1000).find? fun id => id ≠ 0 ∧ r.hquerybyid id = none).getD 0

def freeNode (r : Resolver) (q : ℕ) : Resolver := { r with queryFreeNodes := r.queryFreeNodes ++ [q] }

/-- `transmit_query`; the second value says that it succeeded. -/
def transmitQuery (r : Resolver) (q : ℕ) (net : Net) : Resolver × Bool :=
  let query := r.query q
  match net with
  | .noServer => (r, false)
  | .timerFull | .noPacket | .unsent => (r.setQuery q { query with timerId := 1, timerPending := false }, false)
  | .busy | .sent =>
    (r.setQuery q { query with timerId := 1, timerPending := true, transmitCnt := query.transmitCnt + 1 }, true)

/-- `pj_dns_resolver_start_query`; `hit` says that the cache has the answer. -/
def startQuery (r : Resolver) (name : Bytes) (type : ℕ) (hit : Bool) (digests : List ℕ) (net : Net) : Resolver :=
  let caller := r.calls
  let r := { r with calls := r.calls + 1 }
  if name.length = 0 ∨ maxHostname ≤ name.length ∨ type = 0 ∨ 0xFFFF ≤ type then r
  else
    let key := initResKey type name
    if hit then r.emit [.called caller .success]
    else
      match r.hquerybyres key with
      | some q =>
        let (r, nq) := r.allocQnode caller
        let query := r.query q
        (r.setQuery q { query with childHead := query.childHead ++ [nq] }).emit [.attached caller query.userData]
      | none =>
        let (r, q) := r.allocQnode caller
        let id := r.getQueryId digests
        if id = 0 then r.freeNode q
        else
          let r := r.setQuery q { r.query q with id := id, key := key }
          let (r, ok) := r.transmitQuery q net
          if ok then
            { r with
              hquerybyid := Function.update r.hquerybyid id (some q)
              hquerybyres := Function.update r.hquerybyres key (some q) }.emit [.attached caller caller]
          else r.freeNode q

def cancelQuery (r : Resolver) (q : ℕ) (notify : Bool) : Resolver :=
  let query := r.query q
  let query :=
    if query.timerId = 1 ∧ query.timerPending then { query with timerPending := false, timerId := 0 } else query
  let r := (r.setQuery q { query with cb := false }).emit [.cancelled query.userData]
  if notify ∧ query.cb then r.emit [.called query.userData .cancelled] else r

def callbacks (r : Resolver) (q : ℕ) (status : Status) : List Event :=
  ((q :: (r.query q).childHead).filter fun b => (r.query b).cb).map fun b => .called (r.query b).userData status

/-- The end of a query: it leaves the tables, its callbacks and those of its children are called,
and the nodes are recycled. -/
def finish (r : Resolver) (q : ℕ) (status : Status) : Resolver :=
  let query := r.query q
  let events := .completed query.userData :: r.callbacks q status
  let nodes := query.childHead ++ [q]
  { r with
    hquerybyid := Function.update r.hquerybyid query.id none
    hquerybyres := Function.update r.hquerybyres query.key none
    query := fun b => if b ∈ nodes then { r.query b with cb := false } else r.query b
    queryFreeNodes := r.queryFreeNodes ++ nodes }.emit events

/-- `on_timeout`, for an entry that the timer heap has taken out. -/
def onTimeout (r : Resolver) (q : ℕ) (net : Net) : Resolver :=
  let r := r.setQuery q { r.query q with timerPending := false }
  if r.hquerybyid (r.query q).id = none then r
  else
    let r := r.setQuery q { r.query q with timerId := 0 }
    let (r, ok) := if (r.query q).transmitCnt < r.qretrCount then r.transmitQuery q net else (r, false)
    if ok then r
    else
      let r := r.finish q .timedOut
      r.setQuery q { r.query q with timerId := 0, userData := 0 }

end Resolver

structure Question where
  dnsclass : ℕ
  type : ℕ
  name : Bytes

structure Packet where
  qr : Bool
  id : ℕ
  rcode : ℕ
  question : Option Question

def ResKey.cstr (key : ResKey) : Bytes := key.name.takeWhile (· ≠ 0)

def Packet.answers (pkt : Packet) (key : ResKey) : Bool :=
  match pkt.question with
  | some q => q.dnsclass = 1 && q.type = key.qtype && stricmpEq q.name key.cstr
  | none => pkt.rcode ≠ 0

/-- `on_read_complete`. The source is a name server, or is not checked, if `fromNs`; there is no
packet if the read or the parser fails. -/
def Resolver.onReadComplete (r : Resolver) (fromNs : Bool) (pkt : Option Packet) : Resolver :=
  match pkt with
  | none => r
  | some pkt =>
    if fromNs = false ∨ pkt.qr = false then r
    else
      match r.hquerybyid pkt.id with
      | none => r
      | some q =>
        if pkt.answers (r.query q).key = false then r
        else
          let r := r.emit [.asserted ((r.query q).timerId ≠ 0)]
          let r := r.setQuery q { r.query q with timerPending := false, timerId := 0 }
          r.finish q (if pkt.rcode = 0 then .success else .rcode pkt.rcode)

inductive Input
  | startQuery (name : Bytes) (type : ℕ) (hit : Bool) (digests : List ℕ) (net : Net)
  | cancelQuery (q : ℕ) (notify : Bool)
  | response (fromNs : Bool) (pkt : Option Packet)
  | timeout (q : ℕ) (net : Net)

def step (r : Resolver) : Input → Resolver
  | .startQuery name type hit digests net => r.startQuery name type hit digests net
  | .cancelQuery q notify => r.cancelQuery q notify
  | .response fromNs pkt => r.onReadComplete fromNs pkt
  | .timeout q net => if (r.query q).timerPending then r.onTimeout q net else r

def create (qretrCount : ℕ) : Resolver where
  query := fun _ => ⟨0, 0, ⟨0, []⟩, 0, false, 0, false, []⟩
  brk := 0
  queryFreeNodes := []
  hquerybyid := fun _ => none
  hquerybyres := fun _ => none
  qretrCount := qretrCount
  calls := 0
  log := []

def Event.isCall (caller : ℕ) : Event → Bool
  | .called c _ => c = caller
  | _ => false

/-- The pending queries are in both tables with a running timer, and every caller that has not
cancelled is called once, when its query ends. -/
structure Sound (r : Resolver) : Prop where
  pending : ∀ id q, r.hquerybyid id = some q → r.hquerybyres (r.query q).key = some q ∧
    (r.query q).timerId = 1 ∧ (r.query q).timerPending = true
  asserted : ∀ ok, .asserted ok ∈ r.log → ok = true
  called : ∀ caller parent, .attached caller parent ∈ r.log → .cancelled caller ∉ r.log →
    r.log.countP (Event.isCall caller) = if .completed parent ∈ r.log then 1 else 0

def Safe (r : Resolver) : Input → Prop
  | .cancelQuery q _ => ∃ id parent, r.hquerybyid id = some parent ∧ q ∈ (r.query parent).childHead
  | _ => True

end PjProject.Dns
