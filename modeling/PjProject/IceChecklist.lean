import PjProject.IceRole
import PjProject.SelectionSort

/-!
# The checklist of an ICE session

Candidates, candidate pairs and the checklist operations of `ice_session.c`: priorities, sorting,
pruning, discarding and pairing. A pointer to a candidate is its index, a pointer to a check the
index of its slot. Slots at and behind the count keep what was in them.
-/
namespace PjProject.IceSession

open IceRole (Role)

def maxCand : ℕ := 16

def maxChecks : ℕ := 32

/-- What `pj_sockaddr_cmp` compares of a `pj_sockaddr`. -/
structure SockAddr where
  family : ℕ
  addr : List UInt8
  port : ℕ
  deriving DecidableEq

inductive CandType
  | host | srflx | prflx | relayed
  deriving DecidableEq

/-- `pj_ice_sess_cand` -/
structure Cand where
  type : CandType
  compId : ℕ
  transportId : ℕ
  foundation : List UInt8
  prio : UInt32
  addr : SockAddr
  baseAddr : SockAddr
  deriving DecidableEq

inductive CheckState
  | frozen | waiting | inProgress | succeeded | failed
  deriving DecidableEq

def CheckState.value : CheckState → ℤ
  | .frozen => 0
  | .waiting => 1
  | .inProgress => 2
  | .succeeded => 3
  | .failed => 4

structure Timestamp where
  hi : UInt32
  lo : UInt32
  deriving DecidableEq

def Timestamp.u64 (t : Timestamp) : ℕ := t.hi.toNat * 2 ^ 32 + t.lo.toNat

def cmpTimestamp (t1 t2 : Timestamp) : ℤ :=
  if t1.u64 < t2.u64 then -1 else if t2.u64 < t1.u64 then 1 else 0

/-- `PJ_SUCCESS` and `PJ_ECANCELLED` -/
def pjSuccess : ℕ := 0

def pjECancelled : ℕ := 70014

/-- `pj_ice_sess_check`. The transmit data of a STUN request is known by a number. -/
structure Check where
  lcand : ℕ
  rcand : ℕ
  foundationIdx : ℤ
  prio : Timestamp
  state : CheckState
  tdata : Option ℕ
  nominated : Bool
  errCode : ℕ
  deriving DecidableEq

def Check.zero : Check := ⟨0, 0, 0, ⟨0, 0⟩, .frozen, none, false, pjSuccess⟩

def Check.setState (c : Check) (st : CheckState) (errCode : ℕ) : Check := { c with state := st, errCode := errCode }

/-- `pj_ice_sess_checklist_state` -/
inductive ClistState
  | idle | running | completed
  deriving DecidableEq

/-- `pj_ice_sess_checklist`, and whether its timer is running. -/
structure Checklist where
  state : ClistState
  count : ℕ
  checks : ℕ → Check
  foundation : List (List UInt8)
  timerRunning : Bool

inductive Which
  | clist | valid
  deriving DecidableEq

structure CheckPtr where
  list : Which
  idx : ℕ
  deriving DecidableEq

/-- `pj_ice_sess_comp` -/
structure Comp where
  validCheck : Option CheckPtr
  nominatedCheck : Option CheckPtr
  deriving DecidableEq

/-- The macros `MIN` and `MAX`. -/
def minPrio (a b : UInt32) : UInt32 := if a < b then a else b

def maxPrio (a b : UInt32) : UInt32 := if b < a then a else b

/-- `CALC_CHECK_PRIO`: the shift drops the upper bit of the larger priority. -/
def calcCheckPrio (role : Role) (lcand rcand : UInt32) : Timestamp :=
  let O := if role = .controlling then lcand else rcand
  let A := if role = .controlling then rcand else lcand
  ⟨minPrio O A, maxPrio O A <<< 1 + if A < O then 1 else 0⟩

def cmpCheckState (c1 c2 : Check) : ℤ :=
  if c1.state = .succeeded ∧ c2.state = .failed then 1
  else if c2.state = .succeeded ∧ c1.state = .failed then -1
  else c1.state.value - c2.state.value

def cmpCheckPrio (c1 c2 : Check) : ℤ := cmpTimestamp c1.prio c2.prio

/-- Whether `sort_checklist` takes the first check for a higher one than the second. -/
def sortsAbove (c1 c2 : Check) : Bool :=
  0 < cmpCheckState c1 c2 ∨ (cmpCheckState c1 c2 = 0 ∧ 0 < cmpCheckPrio c1 c2)

def CheckPtr.repoint (w : Which) (i highest : ℕ) (p : CheckPtr) : CheckPtr :=
  if p = ⟨w, highest⟩ then ⟨w, i⟩ else if p = ⟨w, i⟩ then ⟨w, highest⟩ else p

def Comp.repoint (w : Which) (i highest : ℕ) (c : Comp) : Comp :=
  ⟨c.validCheck.map (CheckPtr.repoint w i highest), c.nominatedCheck.map (CheckPtr.repoint w i highest)⟩

/-- `sort_checklist`: the list, and the components with the pointers that follow its records. -/
def sortChecklist (w : Which) (cl : Checklist) (comps : List Comp) : Checklist × List Comp :=
  let s := SelectionSort.sort sortsAbove (fun i highest comps => comps.map (Comp.repoint w i highest)) cl.count
    (cl.checks, comps)
  ({ cl with checks := s.1 }, s.2)

/-- `remove_check`: the last record stays behind the new count. -/
def removeCheck (cl : Checklist) (idx : ℕ) : Checklist :=
  { cl with
    checks := fun p => if idx ≤ p ∧ p + 1 < cl.count then cl.checks (p + 1) else cl.checks p
    count := cl.count - 1 }

/-- The first of the slots from `i` on, `k` of them, with a property. -/
def findFrom (p : ℕ → Bool) : ℕ → ℕ → Option ℕ
  | 0, _ => none
  | k + 1, i => if p i then some i else findFrom p k (i + 1)

def baseCand (lcand : ℕ → Cand) (lcandCnt i : ℕ) : Option ℕ :=
  if (lcand i).type = .srflx ∨ (lcand i).type = .prflx then
    findFrom (fun j => (lcand j).type = .host ∧ (lcand i).baseAddr = (lcand j).addr) lcandCnt 0
  else some i

/-- The first loop of `prune_checklist`, which stops where no base is found. -/
def replaceBases (lcand : ℕ → Cand) (lcandCnt : ℕ) : ℕ → ℕ → (ℕ → Check) → (ℕ → Check) × Bool
  | 0, _, checks => (checks, true)
  | k + 1, i, checks =>
    match baseCand lcand lcandCnt (checks i).lcand with
    | some host => replaceBases lcand lcandCnt k (i + 1) (Function.update checks i { checks i with lcand := host })
    | none => (checks, false)

def isPruned (lcand : ℕ → Cand) (ci cj : Check) : Bool :=
  (cj.state = .frozen ∨ cj.state = .waiting) ∧
    ((ci.lcand = cj.lcand ∧ ci.rcand = cj.rcand) ∨
      (cj.rcand = ci.rcand ∧ (lcand cj.lcand).baseAddr = (lcand ci.lcand).baseAddr))

/-- The inner loop of `prune_checklist` for the check in slot `i`, with `k` slots left from `j` on. -/
def pruneBehind (lcand : ℕ → Cand) (i : ℕ) : ℕ → ℕ → Checklist → Checklist
  | 0, _, cl => cl
  | k + 1, j, cl =>
    if isPruned lcand (cl.checks i) (cl.checks j) then pruneBehind lcand i k j (removeCheck cl j)
    else pruneBehind lcand i k (j + 1) cl

/-- The second loop of `prune_checklist`. Each round leaves one check more in its place. -/
def pruneFrom (lcand : ℕ → Cand) : ℕ → ℕ → Checklist → Checklist
  | 0, _, cl => cl
  | k + 1, i, cl =>
    if i < cl.count then pruneFrom lcand k (i + 1) (pruneBehind lcand i (cl.count - (i + 1)) (i + 1) cl) else cl

/-- `prune_checklist`: the list, and whether every base was found. -/
def pruneChecklist (lcand : ℕ → Cand) (lcandCnt : ℕ) (cl : Checklist) : Checklist × Bool :=
  let r := replaceBases lcand lcandCnt cl.count 0 cl.checks
  let cl := { cl with checks := r.1 }
  if r.2 then (pruneFrom lcand cl.count 0 cl, true) else (cl, false)

/-- The text of a foundation as `%.*s` prints it. -/
def cstr (s : List UInt8) : List UInt8 := s.takeWhile (· ≠ 0)

def foundationText (lcand rcand : Cand) : List UInt8 :=
  (cstr lcand.foundation ++ 0x7c :: cstr rcand.foundation).take 64

/-- `get_check_foundation_idx` that adds what it does not find: the foundations and the index. -/
def getCheckFoundationIdx (foundation : List (List UInt8)) (lcand rcand : Cand) : List (List UInt8) × ℤ :=
  match foundation.findIdx? (· = foundationText lcand rcand) with
  | some i => (foundation, i)
  | none =>
    if foundation.length < maxChecks then (foundation ++ [foundationText lcand rcand], foundation.length)
    else (foundation, -1)

structure Pairing where
  role : Role
  isTrickling : Bool
  lcand : ℕ → Cand
  rcand : ℕ → Cand
  clist : Checklist
  comps : List Comp

/-- `discard_check`: the list and the components, and the check that was discarded. -/
def discardCheck (s : Pairing) (prioLowerThan : Timestamp) : Pairing × Option Check :=
  match findFrom (fun k => (s.clist.checks k).state = .failed) s.clist.count 0 with
  | some k => ({ s with clist := removeCheck s.clist k }, some (s.clist.checks k))
  | none =>
    let r := sortChecklist .clist s.clist s.comps
    let last := r.1.checks (r.1.count - 1)
    if cmpTimestamp last.prio prioLowerThan < 0 then
      ({ s with clist := removeCheck r.1 (r.1.count - 1), comps := r.2 }, some last)
    else ({ s with clist := r.1, comps := r.2 }, none)

/-- Whether a pair can be unfrozen at once, by the checks of the list from slot `k` on. -/
def canUnfreeze (s : Pairing) (chk : Check) : ℕ → ℕ → Bool
  | 0, _ => true
  | n + 1, k =>
    let c := s.clist.checks k
    if c.foundationIdx ≠ chk.foundationIdx then canUnfreeze s chk n (k + 1)
    else if c.state = .succeeded then true
    else if c.state = .waiting ∨ c.state = .inProgress then false
    else if (s.lcand c.lcand).compId < (s.lcand chk.lcand).compId then false
    else if (s.lcand c.lcand).compId = (s.lcand chk.lcand).compId ∧ 0 < cmpTimestamp c.prio chk.prio then false
    else canUnfreeze s chk n (k + 1)

def Compatible (lcand rcand : Cand) : Prop :=
  lcand.compId = rcand.compId ∧ lcand.addr.family = rcand.addr.family

instance (lcand rcand : Cand) : Decidable (Compatible lcand rcand) := inferInstanceAs (Decidable (_ ∧ _))

/-- The record of a new pair. The transmit data, the nomination and the error code of the slot are left as
they are. -/
def pairCheck (s : Pairing) (i j : ℕ) : Check :=
  { s.clist.checks s.clist.count with
    lcand := i
    rcand := j
    prio := calcCheckPrio s.role (s.lcand i).prio (s.rcand j).prio
    state := .frozen
    foundationIdx := (getCheckFoundationIdx s.clist.foundation (s.lcand i) (s.rcand j)).2 }

def unfreezesPair (s : Pairing) (i j : ℕ) : Bool :=
  s.isTrickling && canUnfreeze s (pairCheck s i j) s.clist.count 0

/-- The part of the pairing loop that adds a pair. It writes the slot even when the foundation cannot be
recorded. -/
def addPair (s : Pairing) (i j : ℕ) : Pairing × Option Check :=
  if ¬ Compatible (s.lcand i) (s.rcand j) then (s, none)
  else
    let f := getCheckFoundationIdx s.clist.foundation (s.lcand i) (s.rcand j)
    if f.2 < 0 then
      ({ s with clist := { s.clist with
          foundation := f.1
          checks := Function.update s.clist.checks s.clist.count (pairCheck s i j) } }, none)
    else
      let chk := if unfreezesPair s i j then (pairCheck s i j).setState .waiting pjSuccess else pairCheck s i j
      ({ s with clist := { s.clist with
          foundation := f.1
          checks := Function.update s.clist.checks s.clist.count chk
          count := s.clist.count + 1 } }, some chk)

structure PairResult where
  evicted : Option Check
  added : Option Check
  deriving DecidableEq

/-- One round of the pairing loop of `add_rcand_and_update_checklist`. -/
def pairCands (s : Pairing) (i j : ℕ) : Pairing × PairResult :=
  if maxChecks ≤ s.clist.count then
    match discardCheck s (calcCheckPrio s.role (s.lcand i).prio (s.rcand j).prio) with
    | (s, none) => (s, ⟨none, none⟩)
    | (s, some victim) =>
      let r := addPair s i j
      (r.1, ⟨some victim, r.2⟩)
  else
    let r := addPair s i j
    (r.1, ⟨none, r.2⟩)

def pairIndices (lcandPaired lcandCnt rcandPaired rcandCnt : ℕ) : List (ℕ × ℕ) :=
  (List.range lcandCnt).flatMap fun i =>
    let rstart := if lcandPaired ≤ i then 0 else rcandPaired
    (List.range' rstart (rcandCnt - rstart)).map fun j => (i, j)

def pairAll : Pairing → List (ℕ × ℕ) → Pairing × List PairResult
  | s, [] => (s, [])
  | s, (i, j) :: rest =>
    let r := pairCands s i j
    let r' := pairAll r.1 rest
    (r'.1, r.2 :: r'.2)

end PjProject.IceSession
