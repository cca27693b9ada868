import PjProject.Rel100
import PjProject.Transition

/-!
# Acknowledging reliable provisional responses

The UAC side of `sip_100rel`. A state is kept for each To tag, so that every leg of a forked
INVITE has its own sequence. It is advanced before the PRACK is made, and it forgets an INVITE
transaction when a response of another one arrives.
-/
namespace PjProject.Reliable

open Transition

/-- `uac_state_t`; `cseq` has the bits of the signed CSeq. -/
structure UacState where
  tag : Bytes
  cseq : UInt32
  rseq : UInt32
deriving DecidableEq

structure Provisional where
  toTag : Bytes
  cseq : UInt32
  rseqHdr : Option Bytes
  contact : Option Bytes
deriving DecidableEq

/-- The remote tag of the dialog, and whether `pjsip_dlg_create_request` succeeds. -/
structure UacEnv where
  remoteTag : Bytes
  creates : Bool
deriving DecidableEq

structure Prack where
  rack : Bytes
  uri : Option Bytes
deriving DecidableEq

inductive Refusal
  | missingHdr | ignored | notCreated | tooSmall
deriving DecidableEq

/-- `sizeof(rack_buf)` -/
def rackBuf : ℕ := 80

def rackText (rseq cseq : UInt32) : Bytes :=
  utoa rseq.toNat ++ 32 :: (utoa cseq.toNat ++ 32 :: lit "INVITE")

def findUacState (tag : Bytes) (states : List UacState) : Option UacState :=
  states.find? fun s => stricmpEq s.tag tag

def setUacState (tag : Bytes) (new : UacState) : List UacState → List UacState
  | [] => []
  | s :: states => if stricmpEq s.tag tag then new :: states else s :: setUacState tag new states

/-- The last part of `pjsip_100rel_create_prack`. -/
def makePrack (state : UacState) (r : Provisional) (rseq : UInt32) (env : UacEnv) : Except Refusal Prack :=
  if env.creates = false then .error .notCreated
  else
    let forked := stricmpEq state.tag env.remoteTag = false
    if forked ∧ r.contact = none then .error .ignored
    else
      let rack := rackText rseq r.cseq
      if rack.length ≥ rackBuf then .error .tooSmall
      else .ok ⟨rack, if forked then r.contact else none⟩

def ensureLeg (states : List UacState) (r : Provisional) (rseq : UInt32) : List UacState :=
  match findUacState r.toTag states with
  | some _ => states
  | none => ⟨r.toTag, r.cseq, rseq - 1⟩ :: states

def UacState.reset (state : UacState) (r : Provisional) (rseq : UInt32) : UacState :=
  if r.cseq ≠ state.cseq then { state with cseq := r.cseq, rseq := rseq - 1 } else state

/-- `pjsip_100rel_create_prack` after the RSeq header has been read. -/
def acceptRseq (states : List UacState) (r : Provisional) (rseq : UInt32) (env : UacEnv) :
    List UacState × Except Refusal Prack :=
  let states := ensureLeg states r rseq
  match findUacState r.toTag states with
  | none => (states, .error .ignored)
  | some found =>
    let state := found.reset r rseq
    if rseq ≤ state.rseq then (setUacState r.toTag state states, .error .ignored)
    else if rseq ≠ state.rseq + 1 then (setUacState r.toTag state states, .error .ignored)
    else
      let state := { state with rseq := rseq }
      (setUacState r.toTag state states, makePrack state r rseq env)

def Provisional.rseq (r : Provisional) : Except Refusal UInt32 :=
  match r.rseqHdr with
  | none => .error .missingHdr
  | some value =>
    let rseq := UInt32.ofNat (strtoul value)
    if rseq < 1 then .error .ignored else .ok rseq

def createPrack (states : List UacState) (r : Provisional) (env : UacEnv) :
    List UacState × Except Refusal Prack :=
  match r.rseq with
  | .error e => (states, .error e)
  | .ok rseq => acceptRseq states r rseq env

structure Seen where
  tag : Bytes
  cseq : UInt32
  rseq : UInt32
  acked : Bool
deriving DecidableEq

structure UacRun where
  states : List UacState
  seen : List Seen
deriving DecidableEq

def uacStep (run : UacRun) (input : Provisional × UacEnv) : UacRun :=
  let result := createPrack run.states input.1 input.2
  match input.1.rseq with
  | .error _ => { run with states := result.1 }
  | .ok rseq => ⟨result.1, ⟨input.1.toTag, input.1.cseq, rseq, result.2.isOk⟩ :: run.seen⟩

def Seen.of (x : Seen) (tag : Bytes) (cseq : UInt32) : Bool := stricmpEq x.tag tag && x.cseq = cseq

def firstSeen (tag : Bytes) (cseq : UInt32) : List Seen → Option ℕ
  | [] => none
  | x :: seen => (firstSeen tag cseq seen).or (if x.of tag cseq then some x.rseq.toNat else none)

def ackedRseqs (tag : Bytes) (cseq : UInt32) : List Seen → List ℕ
  | [] => []
  | x :: seen => ackedRseqs tag cseq seen ++ if x.of tag cseq && x.acked then [x.rseq.toNat] else []

def nextRseq (tag : Bytes) (cseq : UInt32) (seen : List Seen) : Option ℕ :=
  (firstSeen tag cseq seen).map (· + (ackedRseqs tag cseq seen).length)

/-- The response comes next: it is the first of its leg and INVITE transaction, or it follows
those that were answered. -/
def InOrder (seen : List Seen) (tag : Bytes) (cseq rseq : UInt32) : Prop :=
  ∀ n ∈ nextRseq tag cseq seen, rseq.toNat = n

instance (seen : List Seen) (tag : Bytes) (cseq rseq : UInt32) : Decidable (InOrder seen tag cseq rseq) :=
  inferInstanceAs (Decidable (∀ n ∈ nextRseq tag cseq seen, _))

def CanAck (r : Provisional) (env : UacEnv) : Prop :=
  env.creates = true ∧ (stricmpEq r.toTag env.remoteTag = true ∨ r.contact ≠ none)

instance (r : Provisional) (env : UacEnv) : Decidable (CanAck r env) :=
  inferInstanceAs (Decidable (_ ∧ _))

/-- A response that comes next can be answered, and a response of another INVITE transaction
than the last one of its leg comes next. -/
def UacSafe (run : UacRun) (input : Provisional × UacEnv) : Prop :=
  ∀ rseq, input.1.rseq = .ok rseq →
    (InOrder run.seen input.1.toTag input.1.cseq rseq → CanAck input.1 input.2) ∧
    ∀ state, findUacState input.1.toTag run.states = some state → state.cseq ≠ input.1.cseq →
      InOrder run.seen input.1.toTag input.1.cseq rseq

end PjProject.Reliable
