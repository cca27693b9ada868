import PjProject.PjString
import PjProject.Transition

/-!
# DNS SRV resolution

The job of `srv_resolver.c`: one SRV query, then an A and/or AAAA query for every target of
the answer that came without an address, and one call of the application. A query is
answered at once from the cache of the resolver, later, or it does not start. The calls of
`pj_dns_resolver_start_query` take their outcome from a parameter, and `out` lists the
queries of which the resolver still has to report the end.
-/
namespace PjProject.SrvResolver
open Transition

abbrev Err := ℕ+

def pjEIgnored : Err := 70020

def eDnsNoAnswerRec : Err := 320047

def maxSrv : ℕ := 8

def maxAddr : ℕ := 8

def maxHostname : ℕ := 254

structure Addr where
  v6 : Bool
  ip : ℕ
  deriving DecidableEq

/-- A `pj_dns_async_query` pointer of a target. -/
inductive Ptr
  | null | dummy | query
  deriving DecidableEq

structure Target where
  name : Bytes
  port : ℕ
  priority : ℕ
  weight : ℕ
  cname : Bytes
  addrs : List Addr
  qA : Ptr
  qAaaa : Ptr
  deriving DecidableEq

def Target.ptr (t : Target) (v6 : Bool) : Ptr := if v6 then t.qAaaa else t.qA

def Target.setPtr (t : Target) (v6 : Bool) (p : Ptr) : Target :=
  if v6 then { t with qAaaa := p } else { t with qA := p }

structure Opt where
  fallbackA : Bool
  fallbackAaaa : Bool
  resolveAaaa : Bool
  resolveAaaaOnly : Bool
  deriving DecidableEq

inductive Query
  | srv
  | addr (i : ℕ) (v6 : Bool)
  deriving DecidableEq

/-- An entry of `pj_dns_srv_record`. -/
structure Entry where
  priority : ℕ
  weight : ℕ
  port : ℕ
  name : Bytes
  hostAlias : Bytes
  addrs : List Addr
  deriving DecidableEq

structure Report where
  status : ℕ
  record : Option (List Entry)
  pending : List Query
  deriving DecidableEq

structure Job where
  option : Opt
  domainPart : Bytes
  defPort : ℕ
  qSrv : Bool
  srv : List Target
  hostResolved : ℕ
  lastError : ℕ
  busy : ℕ
  deferred : Option ℕ
  out : List Query
  calls : List Report
  deriving DecidableEq

/-- What `complete_query` reports of a target. -/
def Target.entry (t : Target) : Entry :=
  ⟨t.priority, t.weight, t.port, t.name, t.cname, t.addrs⟩

/-- The server entries that `complete_query` builds. -/
def Job.entries (j : Job) : List Entry :=
  ((j.srv.filter fun t => t.addrs ≠ []).take maxSrv).map Target.entry

def Job.tell (j : Job) (status : ℕ) (record : Option (List Entry)) : Job :=
  { j with calls := ⟨status, record, j.out⟩ :: j.calls }

def Job.holds (j : Job) : Query → Bool
  | .srv => j.qSrv
  | .addr i v6 => j.srv[i]?.any fun t => t.ptr v6 = .query

/-- `pj_dns_srv_cancel_query` without notification. -/
def pjDnsSrvCancelQuery (j : Job) : Job :=
  { j with
    out := j.out.filter fun q => !j.holds q
    qSrv := false
    srv := j.srv.map fun t => { t with qA := .null, qAaaa := .null } }

def completeQuery (status : ℕ) (j : Job) : Job :=
  if 0 < j.busy then { j with deferred := some status }
  else if status ≠ 0 then (pjDnsSrvCancelQuery j).tell status none
  else
    let status :=
      if j.entries = [] then (if j.lastError = 0 then (eDnsNoAnswerRec : ℕ) else j.lastError)
      else 0
    j.tell status (some j.entries)

def setBusy (j : Job) : Job := { j with busy := j.busy + 1 }

def unsetBusy (j : Job) : Job :=
  let j := { j with busy := j.busy - 1 }
  if j.busy = 0 then
    match j.deferred with
    | none => j
    | some status => completeQuery status { j with deferred := none }
  else j

inductive Answer
  | srv (prio weight port : ℕ) (target : Bytes)
  | other
  deriving DecidableEq

inductive Extra
  | addr (name : Bytes) (a : Addr)
  | other
  deriving DecidableEq

structure Packet where
  tc : Bool
  ans : List Answer
  arr : List Extra
  deriving DecidableEq

/-- The loop over the answer section, at most `n` targets. -/
def saveTargets : ℕ → List Answer → List Target
  | 0, _ => []
  | _, [] => []
  | n + 1, .other :: rs => saveTargets (n + 1) rs
  | n + 1, .srv prio weight port target :: rs =>
    if maxHostname ≤ target.length ∨ target = [] then saveTargets (n + 1) rs
    else ⟨target, port, prio, weight, [], [], .null, .null⟩ :: saveTargets n rs

/-- `SWAP` of the first element with the one at `k`. -/
def swapFront (k : ℕ) : List Target → List Target
  | [] => []
  | t :: ts =>
    match k with
    | 0 => t :: ts
    | k + 1 =>
      match ts[k]? with
      | none => t :: ts
      | some u => u :: ts.set k t

/-- A loop that puts an element of choice in front at every position; `choose` sees the
position and what stands from there on. -/
def placeEach (choose : ℕ → List Target → ℕ) : ℕ → ℕ → List Target → List Target
  | 0, _, ts => ts
  | n + 1, i, ts =>
    match swapFront (choose i ts) ts with
    | [] => []
    | u :: us => u :: placeEach choose n (i + 1) us

def minPriority : ℕ → ℕ → ℕ → List Target → ℕ
  | min, _, _, [] => min
  | min, p, j, t :: ts =>
    if t.priority < p then minPriority j t.priority (j + 1) ts else minPriority min p (j + 1) ts

def choosePriority : List Target → ℕ
  | [] => 0
  | t :: ts => minPriority 0 t.priority 1 ts

/-- The first index at which the running sum of the weights reaches `r`. -/
def reach (r : ℕ) : ℕ → ℕ → List Target → ℕ
  | _, j, [] => j
  | sum, j, t :: ts => if r ≤ sum + t.weight then j else reach r (sum + t.weight) (j + 1) ts

def elect (rand : ℕ) : List Target → ℕ
  | [] => 0
  | t :: ts =>
    let group := t :: ts.takeWhile fun u => u.priority = t.priority
    if group.length ≤ 1 then 0
    else reach (rand % ((group.map Target.weight).sum + 1)) 0 0 group

/-- The two passes that order the targets, with `pj_rand()` for each position. -/
def orderTargets (rand : ℕ → ℕ) (ts : List Target) : List Target :=
  placeEach (fun i us => elect (rand i) us) ts.length 0
    (placeEach (fun _ us => choosePriority us) ts.length 0 ts)

def Opt.wants (o : Opt) (a : Addr) : Bool := if a.v6 then o.resolveAaaa else !o.resolveAaaaOnly

/-- One additional record: the targets with their new addresses, and how many of them got
their first one. -/
def addExtra (name : Bytes) (a : Addr) : List Target → List Target × ℕ
  | [] => ([], 0)
  | t :: ts =>
    let (us, n) := addExtra name a ts
    if stricmpEq name t.name ∧ t.addrs.length < maxAddr then
      ({ t with addrs := t.addrs ++ [a] } :: us, if t.addrs = [] then n + 1 else n)
    else (t :: us, n)

def addExtras (o : Opt) : List Extra → List Target × ℕ → List Target × ℕ
  | [], s => s
  | .addr name a :: rs, (ts, n) =>
    if o.wants a then
      let (us, m) := addExtra name a ts
      addExtras o rs (us, n + m)
    else addExtras o rs (ts, n)
  | .other :: rs, s => addExtras o rs s

/-- `pj_inet_pton` for the two families. -/
structure Lib where
  inetPton : Bool → Bytes → Option ℕ

def literal (lib : Lib) (o : Opt) (name : Bytes) : Option Addr :=
  match (if o.resolveAaaaOnly then none else lib.inetPton false name) with
  | some ip => some ⟨false, ip⟩
  | none =>
    match (if o.resolveAaaa then lib.inetPton true name else none) with
    | some ip => some ⟨true, ip⟩
    | none => none

def addLiterals (lib : Lib) (o : Opt) : List Target → List Target × ℕ
  | [] => ([], 0)
  | t :: ts =>
    let (us, n) := addLiterals lib o ts
    if t.addrs ≠ [] then (t :: us, n)
    else match literal lib o t.name with
      | none => (t :: us, n)
      | some a => ({ t with addrs := [a] } :: us, n + 1)

def buildServerEntries (lib : Lib) (rand : ℕ → ℕ) (pkt : Packet) (j : Job) : Job :=
  let ts := saveTargets maxSrv pkt.ans
  if ts = [] then { j with srv := [] }
  else
    let (ts, n) := addExtras j.option pkt.arr (orderTargets rand ts, 0)
    let (ts, m) := addLiterals lib j.option ts
    { j with srv := ts, hostResolved := j.hostResolved + n + m }

/-- What `pj_dns_parse_addr_response` finds in an answer. -/
structure AddrRecord where
  hostAlias : Bytes
  addrs : List Addr
  deriving DecidableEq

inductive AddrAnswer
  | failed (status : Err)
  | empty
  | parseError (status : Err)
  | parsed (r : AddrRecord)
  deriving DecidableEq

def addAddrs (v6 : Bool) : List Addr → List Addr → List Addr
  | [], addrs => addrs
  | a :: as, addrs =>
    if addrs.length < maxAddr then
      addAddrs v6 as (if a.v6 = v6 then addrs ++ [a] else addrs)
    else addrs

def Target.answered (t : Target) (v6 : Bool) : AddrAnswer → Target
  | .parsed r =>
    { t with
      cname := if t.cname = [] ∧ r.hostAlias ≠ [] then r.hostAlias else t.cname
      addrs := addAddrs v6 r.addrs t.addrs }
  | _ => t

def AddrAnswer.lastError (old : ℕ) : AddrAnswer → ℕ
  | .failed status | .parseError status => status
  | _ => old

/-- `dns_callback` for the A or AAAA query of target `i`. -/
def dnsCallbackAddr (i : ℕ) (v6 : Bool) (ans : AddrAnswer) (j : Job) : Job :=
  match j.srv[i]? with
  | none => j
  | some t =>
    let completed := t.ptr (!v6) = .null
    let j := { j with
      srv := j.srv.set i ((t.setPtr v6 .null).answered v6 ans)
      lastError := ans.lastError j.lastError
      hostResolved := if completed then j.hostResolved + 1 else j.hostResolved }
    if j.hostResolved = j.srv.length then completeQuery 0 j else j

/-- The outcome of `pj_dns_resolver_start_query`. -/
inductive Start (α : Type)
  | failed (status : Err)
  | pending
  | cached (ans : α)
  deriving DecidableEq

abbrev Starts := ℕ → Bool → Start AddrAnswer

def Job.setPtr (j : Job) (i : ℕ) (v6 : Bool) (p : Ptr) : Job :=
  { j with srv := j.srv.modify i fun t => t.setPtr v6 p }

/-- `pj_dns_resolver_start_query` for an address of target `i`: the pointer is cleared before
a cached answer is reported, and also when the query does not start. -/
def startAddr (env : Starts) (i : ℕ) (v6 : Bool) (j : Job) : Job × ℕ :=
  match env i v6 with
  | .failed status => (j.setPtr i v6 .null, status)
  | .pending => ({ j.setPtr i v6 .query with out := .addr i v6 :: j.out }, 0)
  | .cached ans => (dnsCallbackAddr i v6 ans (j.setPtr i v6 .null), 0)

def startA (env : Starts) (i : ℕ) (j : Job) : Job × ℕ :=
  if j.option.resolveAaaaOnly then (j, 0)
  else startAddr env i false (if j.option.resolveAaaa then j.setPtr i true .dummy else j)

def startAaaa (env : Starts) (i : ℕ) (s : Job × ℕ) : Job × ℕ :=
  if s.2 = 0 ∧ s.1.option.resolveAaaa then startAddr env i true s.1 else s

/-- What a failure to start makes of the target: it is counted, and taken for an error, when
nothing of it is outstanding. -/
def countFailed (i : ℕ) (status : ℕ) (errCnt err : ℕ) (j : Job) : Job × ℕ × ℕ :=
  match j.srv[i]? with
  | none => (j, errCnt, err)
  | some t =>
    if t.qA = .null ∧ (t.qAaaa = .null ∨ t.qAaaa = .dummy) then
      let j := { j.setPtr i true .null with hostResolved := j.hostResolved + 1 }
      if t.addrs = [] then (j, errCnt + 1, status) else (j, errCnt, err)
    else (j, errCnt, err)

/-- The body of the loop of `resolve_hostnames`. -/
def resolveTarget (env : Starts) (i : ℕ) (s : Job × ℕ × ℕ) : Job × ℕ × ℕ :=
  let (j, errCnt, err) := s
  match j.srv[i]? with
  | none => s
  | some t =>
    if t.addrs ≠ [] then s
    else
      let j := (j.setPtr i false .null).setPtr i true .null
      let (j, status) := startAaaa env i (startA env i j)
      if status = 0 then (j, errCnt, err) else countFailed i status errCnt err j

def resolveTargets (env : Starts) : ℕ → ℕ → Job × ℕ × ℕ → Job × ℕ × ℕ
  | 0, _, s => s
  | n + 1, i, s => resolveTargets env n (i + 1) (resolveTarget env i s)

def resolveHostnames (env : Starts) (j : Job) : Job × ℕ :=
  let (j, errCnt, err) := resolveTargets env j.srv.length 0 (setBusy j, 0, 0)
  if errCnt = j.srv.length then ({ j with busy := j.busy - 1 }, err)
  else
    let j := if j.deferred = none ∧ j.hostResolved = j.srv.length then
      { j with deferred := some 0 } else j
    (unsetBusy j, 0)

inductive SrvAnswer
  | failed (status : Err)
  | packet (pkt : Packet)
  deriving DecidableEq

def fallback (j : Job) : Job :=
  if j.srv = [] ∧ j.domainPart ≠ [] then
    { j with
      srv := [⟨j.domainPart, j.defPort, 0, 0, [], [], .null, .null⟩]
      option := ⟨false, false, j.option.fallbackAaaa,
        j.option.fallbackAaaa && !j.option.fallbackA⟩ }
  else j

/-- The rest of `dns_callback` once the SRV records are in the job. -/
def resolveServers (env : Starts) (j : Job) : Job :=
  let j := fallback j
  if j.hostResolved ≠ j.srv.length then
    let (j, status) := resolveHostnames env j
    if status ≠ 0 then completeQuery status j else j
  else completeQuery 0 j

/-- `dns_callback` for the SRV query. -/
def dnsCallbackSrv (lib : Lib) (rand : ℕ → ℕ) (env : Starts) (ans : SrvAnswer) (j : Job) : Job :=
  let j := { j with qSrv := false }
  match ans with
  | .failed status =>
    let j := { j with lastError := status }
    if j.option.fallbackA ∨ j.option.fallbackAaaa then resolveServers env j
    else completeQuery status j
  | .packet pkt =>
    if pkt.tc then completeQuery pjEIgnored { j with lastError := pjEIgnored }
    else resolveServers env (if pkt.ans = [] then j else buildServerEntries lib rand pkt j)

/-- The job that `pj_dns_srv_resolve` builds. -/
def newJob (option : Opt) (domain : Bytes) (defPort : ℕ) : Job where
  option := { option with resolveAaaa := option.resolveAaaa || option.resolveAaaaOnly }
  domainPart := domain
  defPort := defPort % 2 ^ 16
  qSrv := false
  srv := []
  hostResolved := 0
  lastError := 0
  busy := 0
  deferred := none
  out := []
  calls := []

/-- What happens while one DNS answer is handled: the random numbers and the outcomes of the
queries that are started. -/
structure Env where
  rand : ℕ → ℕ
  starts : Starts

/-- `pj_dns_srv_resolve` on a job, with the outcome of the SRV query, and its status. -/
def pjDnsSrvResolve (lib : Lib) (env : Env) (start : Start SrvAnswer) (j : Job) : Job × ℕ :=
  let j := setBusy j
  match start with
  | .failed status => ({ j with busy := j.busy - 1 }, status)
  | .pending => (unsetBusy { j with qSrv := true, out := .srv :: j.out }, 0)
  | .cached ans => (unsetBusy (dnsCallbackSrv lib env.rand env.starts ans j), 0)

inductive Event
  | srv (env : Env) (ans : SrvAnswer)
  | addr (i : ℕ) (v6 : Bool) (ans : AddrAnswer)

def step (lib : Lib) (j : Job) : Event → Job
  | .srv env ans =>
    if .srv ∈ j.out then
      dnsCallbackSrv lib env.rand env.starts ans { j with out := j.out.erase .srv }
    else j
  | .addr i v6 ans =>
    if .addr i v6 ∈ j.out then
      dnsCallbackAddr i v6 ans { j with out := j.out.erase (.addr i v6) }
    else j

end PjProject.SrvResolver
