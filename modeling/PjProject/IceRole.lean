import PjProject.Transition

/-!
# Role conflicts of two ICE sessions

The role part of `perform_check`, `on_stun_rx_request` and `on_stun_request_complete` in
`ice_session.c`, for two sessions over a network that loses, duplicates and reorders.
-/
namespace PjProject.IceRole

open Transition

/-- `pj_ice_sess_role` -/
inductive Role
  | unknown
  | controlled
  | controlling
deriving DecidableEq

inductive RoleAttr
  | controlling
  | controlled
deriving DecidableEq

/-- A connectivity check as its receiver reads it: PRIORITY is present, and the role attribute with
the tie-breaker of the sender. -/
structure Request where
  hasPriority : Bool
  roleAttr : Option (RoleAttr × UInt64)
deriving DecidableEq

/-- The fields of a session that the handlers below use, its checks that wait for a response, and
the number of times the role changed. -/
structure Session where
  role : Role
  tieBreaker : UInt64
  isComplete : Bool
  isDestroying : Bool
  pending : List Request
  changes : ℕ

def changeRole (s : Session) (newRole : Role) : Session :=
  if newRole ≠ s.role then { s with role := newRole, changes := s.changes + 1 } else s

/-- The request that `perform_check` builds. -/
def checkRequest (s : Session) : Request where
  hasPriority := true
  roleAttr := some (if s.role = .controlling then .controlling else .controlled, s.tieBreaker)

inductive Answer
  | none
  | success
  | roleConflict
deriving DecidableEq

def repairRole (s : Session) : Option (RoleAttr × UInt64) → Session × Answer
  | some (.controlling, tie) =>
    if s.role = .controlling then
      if s.tieBreaker < tie then (changeRole s .controlled, .success) else (s, .roleConflict)
    else (s, .success)
  | some (.controlled, tie) =>
    if s.role = .controlled then
      if s.tieBreaker < tie then (s, .roleConflict) else (changeRole s .controlling, .success)
    else (s, .success)
  | none => (s, .success)

/-- `on_stun_rx_request` up to the response. -/
def onStunRxRequest (s : Session) (req : Request) : Session × Answer :=
  if s.isDestroying then (s, .none)
  else if req.hasPriority = false then (s, .none)
  else repairRole s req.roleAttr

/-- `on_stun_request_complete` with a 487: the session, and whether the check is sent again. The
check of the request may be gone from the checklist. -/
def onRoleConflict (s : Session) (req : Request) (found : Bool) : Session × Bool :=
  if s.isDestroying ∨ s.isComplete ∨ found = false then (s, false)
  else
    match req.roleAttr with
    | some (.controlling, _) => (changeRole s .controlled, true)
    | some (.controlled, _) => (changeRole s .controlling, true)
    | none => (changeRole s .controlled, true)

inductive Side
  | left
  | right
deriving DecidableEq

def Side.other : Side → Side
  | .left => .right
  | .right => .left

@[simp] lemma Side.other_other (x : Side) : x.other.other = x := by cases x <;> rfl

@[simp] lemma Side.other_ne (x : Side) : x.other ≠ x := by cases x <;> decide

inductive Packet
  | request (sender : Side) (req : Request)
  | roleConflict (receiver : Side) (req : Request)
deriving DecidableEq

structure World where
  session : Side → Session
  net : List Packet

/-- What can happen next: a session starts a check, sends a pending one again or gives it up,
completes or is destroyed; a packet in flight arrives, is duplicated or lost. -/
inductive Event
  | check (x : Side)
  | retransmit (x : Side) (i : ℕ)
  | forget (x : Side) (i : ℕ)
  | complete (x : Side)
  | destroy (x : Side)
  | deliver (i : ℕ) (found : Bool)
  | duplicate (i : ℕ)
  | lose (i : ℕ)

def World.set (w : World) (x : Side) (s : Session) : World :=
  { w with session := Function.update w.session x s }

def World.send (w : World) (p : Packet) : World := { w with net := p :: w.net }

def performCheck (w : World) (x : Side) : World :=
  let req := checkRequest (w.session x)
  (w.set x { w.session x with pending := req :: (w.session x).pending }).send (.request x req)

def receive (w : World) (found : Bool) : Packet → World
  | .request sender req =>
    let (s, answer) := onStunRxRequest (w.session sender.other) req
    let w := w.set sender.other s
    if answer = .roleConflict then w.send (.roleConflict sender req) else w
  | .roleConflict receiver req =>
    let (s, again) := onRoleConflict (w.session receiver) req found
    let w := w.set receiver s
    if again then performCheck w receiver else w

def step (w : World) : Event → World
  | .check x => performCheck w x
  | .retransmit x i =>
    match (w.session x).pending[i]? with
    | some req => w.send (.request x req)
    | none => w
  | .forget x i =>
    w.set x { w.session x with pending := (w.session x).pending.eraseIdx i }
  | .complete x => w.set x { w.session x with isComplete := true }
  | .destroy x => w.set x { w.session x with isDestroying := true }
  | .deliver i found =>
    match w.net[i]? with
    | some p => receive { w with net := w.net.eraseIdx i } found p
    | none => w
  | .duplicate i =>
    match w.net[i]? with
    | some p => w.send p
    | none => w
  | .lose i => { w with net := w.net.eraseIdx i }

def Fresh (w : World) : Prop :=
  w.net = [] ∧ ∀ x, (w.session x).pending = [] ∧ (w.session x).changes = 0

def Complementary (w : World) : Prop :=
  ∃ x, (w.session x).role = .controlling ∧ (w.session x.other).role = .controlled

section Invariant

/-- A request in use was built by its session: a controlling one of the session with the greater
tie-breaker means that it controls now, and a controlled one of the other session that it does not. -/
def ReqOk (v : Side) (r₀ : Side → Role) (w : World) (x : Side) (req : Request) : Prop :=
  ∃ a, req.roleAttr = some (a, (w.session x).tieBreaker) ∧
    (x = v → a = .controlling → (w.session v).role = .controlling) ∧
    (x = v.other → a = .controlled → (w.session v.other).role ≠ .controlling) ∧
    (x = v.other → a = .controlling → r₀ v.other = .controlling)

/-- A 487 to the session with the greater tie-breaker is to a controlled request, one to the other
session to a controlling request. -/
def PacketOk (v : Side) (r₀ : Side → Role) (w : World) : Packet → Prop
  | .request x req => ReqOk v r₀ w x req
  | .roleConflict x req =>
    (x = v → (∃ tie, req.roleAttr = some (.controlled, tie)) ∧ (w.session v.other).role = .controlled) ∧
    (x = v.other → (∃ tie, req.roleAttr = some (.controlling, tie)) ∧
      (w.session v).role = .controlling ∧ r₀ v.other = .controlling)

/-- The session `v` with the greater tie-breaker only ever takes control, and the other one only
ever gives it up. -/
structure Inv (v : Side) (r₀ : Side → Role) (w : World) : Prop where
  tie : (w.session v.other).tieBreaker < (w.session v).tieBreaker
  winner : (w.session v).changes = 0 ∧ (w.session v).role = r₀ v ∨
    (w.session v).changes = 1 ∧ (w.session v).role = .controlling
  loser : (w.session v.other).changes = 0 ∧ (w.session v.other).role = r₀ v.other ∨
    (w.session v.other).changes = 1 ∧ (w.session v.other).role = .controlled
  net : ∀ p ∈ w.net, PacketOk v r₀ w p
  pending : ∀ x, ∀ req ∈ (w.session x).pending, ReqOk v r₀ w x req

variable {v : Side} {r₀ : Side → Role} {w w' : World}

lemma Side.eq_or (v x : Side) : x = v ∨ x = v.other := by
  cases v <;> cases x <;> simp [Side.other]

inductive Moved (v : Side) (w w' : World) : Prop
  | keep (role : ∀ x, (w'.session x).role = (w.session x).role)
      (changes : ∀ x, (w'.session x).changes = (w.session x).changes)
  | takes (before : (w.session v).role ≠ .controlling) (after : (w'.session v).role = .controlling)
      (count : (w'.session v).changes = (w.session v).changes + 1)
      (other : (w'.session v.other).role = (w.session v.other).role)
      (changes : (w'.session v.other).changes = (w.session v.other).changes)
      (free : (w.session v.other).role ≠ .controlling)
  | gives (before : (w.session v.other).role = .controlling)
      (after : (w'.session v.other).role = .controlled)
      (count : (w'.session v.other).changes = (w.session v.other).changes + 1)
      (other : (w'.session v).role = (w.session v).role)
      (changes : (w'.session v).changes = (w.session v).changes)
      (ruled : (w.session v).role = .controlling)

lemma Moved.refl (v : Side) (w : World) : Moved v w w :=
  .keep (fun _ => rfl) (fun _ => rfl)

lemma Moved.of_net {net : List Packet} (h : Moved v { w with net := net } w') : Moved v w w' := by
  cases h with
  | keep role changes => exact .keep role changes
  | takes before after count other changes free => exact .takes before after count other changes free
  | gives before after count other changes ruled => exact .gives before after count other changes ruled

lemma Moved.winner_role (h : Moved v w w') (hc : (w.session v).role = .controlling) :
    (w'.session v).role = .controlling := by
  cases h with
  | keep role _ => rw [role, hc]
  | takes _ after => exact after
  | gives _ _ _ other => rw [other, hc]

lemma Moved.loser_role (h : Moved v w w') (hc : (w.session v.other).role ≠ .controlling) :
    (w'.session v.other).role ≠ .controlling := by
  cases h with
  | keep role _ => rwa [role]
  | takes _ _ _ other => rwa [other]
  | gives before => exact absurd before hc

lemma Moved.loser_controlled (h : Moved v w w') (hc : (w.session v.other).role = .controlled) :
    (w'.session v.other).role = .controlled := by
  cases h with
  | keep role _ => rw [role, hc]
  | takes _ _ _ other => rw [other, hc]
  | gives _ after => exact after

lemma Moved.complementary (h : Moved v w w') (hc : Complementary w) : Complementary w' := by
  obtain ⟨x, hx, hx'⟩ := hc
  cases h with
  | keep role _ => exact ⟨x, by rw [role, hx], by rw [role, hx']⟩
  | takes before _ _ _ _ free =>
    rcases Side.eq_or v x with rfl | rfl
    · exact absurd hx before
    · exact absurd hx free
  | gives before _ _ _ _ ruled =>
    rcases Side.eq_or v x with rfl | rfl
    · rw [before] at hx'
      cases hx'
    · rw [Side.other_other, ruled] at hx'
      cases hx'

lemma Inv.counts (h : Inv v r₀ w) (hm : Moved v w w') :
    ((w'.session v).changes = 0 ∧ (w'.session v).role = r₀ v ∨
      (w'.session v).changes = 1 ∧ (w'.session v).role = .controlling) ∧
    ((w'.session v.other).changes = 0 ∧ (w'.session v.other).role = r₀ v.other ∨
      (w'.session v.other).changes = 1 ∧ (w'.session v.other).role = .controlled) := by
  have hw := h.winner
  have hl := h.loser
  cases hm with
  | keep role changes => simpa only [role, changes] using And.intro hw hl
  | takes before after count other changes _ =>
    rw [after, count, other, changes]
    rcases hw with ⟨h0, -⟩ | ⟨-, hr⟩
    · exact ⟨Or.inr ⟨by rw [h0], rfl⟩, hl⟩
    · exact absurd hr before
  | gives before after count other changes _ =>
    rw [after, count, other, changes]
    rcases hl with ⟨h0, -⟩ | ⟨-, hr⟩
    · exact ⟨hw, Or.inr ⟨by rw [h0], rfl⟩⟩
    · rw [hr] at before
      cases before

variable {x : Side} {req : Request}

lemma ReqOk.moved (h : ReqOk v r₀ w x req) (hm : Moved v w w')
    (ht : ∀ x, (w'.session x).tieBreaker = (w.session x).tieBreaker) : ReqOk v r₀ w' x req := by
  obtain ⟨a, ha, h1, h2, h3⟩ := h
  exact ⟨a, by rw [ht, ha], fun hx hc => hm.winner_role (h1 hx hc),
    fun hx hc => hm.loser_role (h2 hx hc), h3⟩

lemma PacketOk.moved {p : Packet} (h : PacketOk v r₀ w p) (hm : Moved v w w')
    (ht : ∀ x, (w'.session x).tieBreaker = (w.session x).tieBreaker) : PacketOk v r₀ w' p := by
  cases p with
  | request x req => exact ReqOk.moved h hm ht
  | roleConflict x req =>
    refine ⟨fun hx => ⟨(h.1 hx).1, hm.loser_controlled (h.1 hx).2⟩, fun hx => ?_⟩
    obtain ⟨ha, hw, hr⟩ := h.2 hx
    exact ⟨ha, hm.winner_role hw, hr⟩

lemma Inv.step_of (h : Inv v r₀ w) (hm : Moved v w w')
    (ht : ∀ x, (w'.session x).tieBreaker = (w.session x).tieBreaker)
    (hnet : ∀ p ∈ w'.net, p ∈ w.net ∨ PacketOk v r₀ w' p)
    (hpend : ∀ x, ∀ req ∈ (w'.session x).pending, req ∈ (w.session x).pending ∨ ReqOk v r₀ w' x req) :
    Inv v r₀ w' where
  tie := by rw [ht, ht]; exact h.tie
  winner := (h.counts hm).1
  loser := (h.counts hm).2
  net := by
    intro p hp
    rcases hnet p hp with hp | hp
    · exact (h.net p hp).moved hm ht
    · exact hp
  pending := by
    intro x req hr
    rcases hpend x req hr with hr | hr
    · exact (h.pending x req hr).moved hm ht
    · exact hr

@[simp] lemma set_self (w : World) (x : Side) (s : Session) : (w.set x s).session x = s := by
  simp [World.set]

@[simp] lemma set_other (w : World) (x : Side) (s : Session) :
    (w.set x s).session x.other = w.session x.other := by
  simp [World.set]

lemma set_session (w : World) (x y : Side) (s : Session) :
    (w.set x s).session y = if y = x then s else w.session y := by
  simp [World.set, Function.update_apply]

structure Turned (s s' : Session) : Prop where
  tie : s'.tieBreaker = s.tieBreaker
  pending : s'.pending = s.pending

lemma changeRole_turned (s : Session) (r : Role) : Turned s (changeRole s r) := by
  unfold changeRole
  split_ifs <;> exact ⟨rfl, rfl⟩

variable {s : Session}

lemma changeRole_of_ne {r : Role} (h : s.role ≠ r) :
    changeRole s r = { s with role := r, changes := s.changes + 1 } := by
  rw [changeRole, if_pos h.symm]

lemma changeRole_of_eq {r : Role} (h : s.role = r) : changeRole s r = s := by
  rw [changeRole, if_neg (by simp [h])]

lemma moved_takes (w : World) (hl : (w.session v.other).role ≠ .controlling) :
    Moved v w (w.set v (changeRole (w.session v) .controlling)) := by
  by_cases hr : (w.session v).role = .controlling
  · rw [changeRole_of_eq hr, World.set, Function.update_eq_self]
    exact Moved.refl v w
  · refine .takes hr ?_ ?_ ?_ ?_ hl
    · rw [set_self, changeRole_of_ne hr]
    · rw [set_self, changeRole_of_ne hr]
    · rw [set_other]
    · rw [set_other]

lemma moved_gives (w : World) (hw : (w.session v).role = .controlling)
    (hl : (w.session v.other).role ≠ .controlled → (w.session v.other).role = .controlling) :
    Moved v w (w.set v.other (changeRole (w.session v.other) .controlled)) := by
  have hv : v ≠ v.other := v.other_ne.symm
  by_cases hr : (w.session v.other).role = .controlled
  · rw [changeRole_of_eq hr, World.set, Function.update_eq_self]
    exact Moved.refl v w
  · refine .gives (hl hr) ?_ ?_ ?_ ?_ hw
    · rw [set_self, changeRole_of_ne hr]
    · rw [set_self, changeRole_of_ne hr]
    · rw [set_session, if_neg hv]
    · rw [set_session, if_neg hv]

lemma Inv.loser_controlling (h : Inv v r₀ w) (h0 : r₀ v.other = .controlling)
    (hr : (w.session v.other).role ≠ .controlled) : (w.session v.other).role = .controlling := by
  rcases h.loser with ⟨-, hl⟩ | ⟨-, hl⟩
  · rw [hl, h0]
  · exact absurd hl hr

lemma Inv.checkRequest_ok (h : Inv v r₀ w) (x : Side) : ReqOk v r₀ w x (checkRequest (w.session x)) := by
  refine ⟨_, rfl, ?_, ?_, ?_⟩
  · rintro rfl ha
    by_contra hr
    rw [if_neg hr] at ha
    cases ha
  · rintro rfl ha hr
    rw [if_pos hr] at ha
    cases ha
  · rintro rfl ha
    have hr : (w.session v.other).role = .controlling := by
      by_contra hr
      rw [if_neg hr] at ha
      cases ha
    rcases h.loser with ⟨-, hl⟩ | ⟨-, hl⟩
    · rw [← hl, hr]
    · rw [hl] at hr
      cases hr

lemma onStunRxRequest_cases (s : Session) (req : Request) :
    onStunRxRequest s req = (s, .none) ∨ onStunRxRequest s req = repairRole s req.roleAttr := by
  unfold onStunRxRequest
  split_ifs
  · exact Or.inl rfl
  · exact Or.inl rfl
  · exact Or.inr rfl

lemma Inv.rx_winner (h : Inv v r₀ w) (hreq : ReqOk v r₀ w v.other req) :
    Turned (w.session v) (onStunRxRequest (w.session v) req).1 ∧
    Moved v w (w.set v (onStunRxRequest (w.session v) req).1) ∧
    ((onStunRxRequest (w.session v) req).2 = .roleConflict →
      (onStunRxRequest (w.session v) req).1 = w.session v ∧ PacketOk v r₀ w (.roleConflict v.other req)) := by
  obtain ⟨a, ha, -, hfree, hruled⟩ := hreq
  have hkeep : Moved v w (w.set v (w.session v)) := by
    rw [World.set, Function.update_eq_self]
    exact Moved.refl v w
  have hnlt : ¬ (w.session v).tieBreaker < (w.session v.other).tieBreaker :=
    UInt64.not_lt.2 (UInt64.le_of_lt h.tie)
  rcases onStunRxRequest_cases (w.session v) req with hrx | hrx
  · rw [hrx]
    exact ⟨⟨rfl, rfl⟩, hkeep, by simp⟩
  · rw [hrx, ha]
    cases a with
    | controlling =>
      simp only [repairRole, if_neg hnlt]
      split_ifs with hr
      · refine ⟨⟨rfl, rfl⟩, hkeep, fun _ => ⟨rfl, ?_, ?_⟩⟩
        · intro hx
          exact absurd hx v.other_ne
        · intro _
          exact ⟨⟨_, ha⟩, hr, hruled rfl rfl⟩
      · exact ⟨⟨rfl, rfl⟩, hkeep, by simp⟩
    | controlled =>
      simp only [repairRole, if_neg hnlt]
      split_ifs with hr
      · exact ⟨changeRole_turned _ _, moved_takes w (hfree rfl rfl), by simp⟩
      · exact ⟨⟨rfl, rfl⟩, hkeep, by simp⟩

lemma Inv.rx_loser (h : Inv v r₀ w) (hreq : ReqOk v r₀ w v req) :
    Turned (w.session v.other) (onStunRxRequest (w.session v.other) req).1 ∧
    Moved v w (w.set v.other (onStunRxRequest (w.session v.other) req).1) ∧
    ((onStunRxRequest (w.session v.other) req).2 = .roleConflict →
      (onStunRxRequest (w.session v.other) req).1 = w.session v.other ∧
      PacketOk v r₀ w (.roleConflict v req)) := by
  obtain ⟨a, ha, hruled, -, -⟩ := hreq
  have hkeep : Moved v w (w.set v.other (w.session v.other)) := by
    rw [World.set, Function.update_eq_self]
    exact Moved.refl v w
  rcases onStunRxRequest_cases (w.session v.other) req with hrx | hrx
  · rw [hrx]
    exact ⟨⟨rfl, rfl⟩, hkeep, by simp⟩
  · rw [hrx, ha]
    cases a with
    | controlling =>
      simp only [repairRole, if_pos h.tie]
      split_ifs with hr
      · exact ⟨changeRole_turned _ _, moved_gives w (hruled rfl rfl) (fun _ => hr), by simp⟩
      · exact ⟨⟨rfl, rfl⟩, hkeep, by simp⟩
    | controlled =>
      simp only [repairRole, if_pos h.tie]
      split_ifs with hr
      · refine ⟨⟨rfl, rfl⟩, hkeep, fun _ => ⟨rfl, ?_, ?_⟩⟩
        · intro _
          exact ⟨⟨_, ha⟩, hr⟩
        · intro hx
          exact absurd hx v.other_ne.symm
      · exact ⟨⟨rfl, rfl⟩, hkeep, by simp⟩

lemma Inv.rx_conflict (h : Inv v r₀ w) (hp : PacketOk v r₀ w (.roleConflict x req)) (found : Bool) :
    Turned (w.session x) (onRoleConflict (w.session x) req found).1 ∧
    Moved v w (w.set x (onRoleConflict (w.session x) req found).1) := by
  have hkeep : Moved v w (w.set x (w.session x)) := by
    rw [World.set, Function.update_eq_self]
    exact Moved.refl v w
  unfold onRoleConflict
  split_ifs with hi
  · exact ⟨⟨rfl, rfl⟩, hkeep⟩
  · rcases Side.eq_or v x with rfl | rfl
    · obtain ⟨⟨tie, ha⟩, hl⟩ := hp.1 rfl
      rw [ha]
      refine ⟨changeRole_turned _ _, moved_takes w ?_⟩
      rw [hl]
      decide
    · obtain ⟨⟨tie, ha⟩, hw, h0⟩ := hp.2 rfl
      rw [ha]
      exact ⟨changeRole_turned _ _, moved_gives w hw (h.loser_controlling h0)⟩

structure SameRoles (w w' : World) : Prop where
  role : ∀ x, (w'.session x).role = (w.session x).role
  changes : ∀ x, (w'.session x).changes = (w.session x).changes
  tie : ∀ x, (w'.session x).tieBreaker = (w.session x).tieBreaker

lemma SameRoles.moved {w₁ w₂ : World} (h : Moved v w w₁) (hs : SameRoles w₁ w₂) : Moved v w w₂ := by
  cases h with
  | keep role changes =>
    exact .keep (fun x => (hs.role x).trans (role x)) (fun x => (hs.changes x).trans (changes x))
  | takes before after count other changes free =>
    exact .takes before ((hs.role _).trans after) ((hs.changes _).trans count)
      ((hs.role _).trans other) ((hs.changes _).trans changes) free
  | gives before after count other changes ruled =>
    exact .gives before ((hs.role _).trans after) ((hs.changes _).trans count)
      ((hs.role _).trans other) ((hs.changes _).trans changes) ruled

lemma SameRoles.set (w : World) (x : Side) (s : Session) (hr : s.role = (w.session x).role)
    (hc : s.changes = (w.session x).changes) (ht : s.tieBreaker = (w.session x).tieBreaker) :
    SameRoles w (w.set x s) := by
  constructor <;>
  · intro y
    rw [set_session]
    split_ifs with h
    · rw [h]
      assumption
    · rfl

lemma Inv.set_flags (h : Inv v r₀ w) (x : Side) (hr : s.role = (w.session x).role)
    (hc : s.changes = (w.session x).changes) (ht : s.tieBreaker = (w.session x).tieBreaker)
    (hp : ∀ req ∈ s.pending, req ∈ (w.session x).pending) : Inv v r₀ (w.set x s) := by
  have hs := SameRoles.set w x s hr hc ht
  refine h.step_of (hs.moved (Moved.refl v w)) hs.tie (fun p hp => Or.inl hp) ?_
  intro y req hy
  rw [set_session] at hy
  split_ifs at hy with hxy
  · rw [hxy]
    exact Or.inl (hp req hy)
  · exact Or.inl hy

lemma performCheck_same (w : World) (x : Side) : SameRoles w (performCheck w x) := by
  obtain ⟨hr, hc, ht⟩ := SameRoles.set w x { w.session x with
    pending := checkRequest (w.session x) :: (w.session x).pending } rfl rfl rfl
  exact ⟨hr, hc, ht⟩

lemma Inv.performCheck (h : Inv v r₀ w) (x : Side) : Inv v r₀ (performCheck w x) := by
  have hs := performCheck_same w x
  have hm : Moved v w (IceRole.performCheck w x) := hs.moved (Moved.refl v w)
  have hreq := (h.checkRequest_ok x).moved hm hs.tie
  refine h.step_of hm hs.tie ?_ ?_
  · intro p hp
    have hp : p ∈ Packet.request x (checkRequest (w.session x)) :: w.net := hp
    rw [List.mem_cons] at hp
    rcases hp with rfl | hp
    · exact Or.inr hreq
    · exact Or.inl hp
  · intro y req hy
    have hy : req ∈ (((w.set x { w.session x with
      pending := checkRequest (w.session x) :: (w.session x).pending }).session y).pending) := hy
    rw [set_session] at hy
    split_ifs at hy with hxy
    · subst hxy
      rw [List.mem_cons] at hy
      rcases hy with rfl | hy
      · exact Or.inr hreq
      · exact Or.inl hy
    · exact Or.inl hy

lemma Inv.set_turned (h : Inv v r₀ w) (ht : Turned (w.session x) s)
    (hm : Moved v w (w.set x s)) : Inv v r₀ (w.set x s) := by
  refine h.step_of hm ?_ (fun p hp => Or.inl hp) ?_
  · intro y
    rw [set_session]
    split_ifs with hxy
    · rw [hxy, ht.tie]
    · rfl
  · intro y req hy
    rw [set_session] at hy
    split_ifs at hy with hxy
    · rw [hxy]
      rw [ht.pending] at hy
      exact Or.inl hy
    · exact Or.inl hy

lemma Inv.send (h : Inv v r₀ w) {p : Packet} (hp : PacketOk v r₀ w p) : Inv v r₀ (w.send p) := by
  refine h.step_of (.keep (fun _ => rfl) (fun _ => rfl)) (fun _ => rfl) ?_ (fun x req hr => Or.inl hr)
  intro q hq
  have hq : q ∈ p :: w.net := hq
  rw [List.mem_cons] at hq
  rcases hq with rfl | hq
  · exact Or.inr hp
  · exact Or.inl hq

lemma Inv.erase (h : Inv v r₀ w) (i : ℕ) : Inv v r₀ { w with net := w.net.eraseIdx i } :=
  h.step_of (.keep (fun _ => rfl) (fun _ => rfl)) (fun _ => rfl)
    (fun _ hp => Or.inl (List.mem_of_mem_eraseIdx hp)) (fun _ _ hr => Or.inl hr)

lemma Inv.receive_request (h : Inv v r₀ w) (hreq : ReqOk v r₀ w x req)
    (found : Bool) : Inv v r₀ (receive w found (.request x req)) ∧
      Moved v w (receive w found (.request x req)) := by
  have hrx : Turned (w.session x.other) (onStunRxRequest (w.session x.other) req).1 ∧
      Moved v w (w.set x.other (onStunRxRequest (w.session x.other) req).1) ∧
      ((onStunRxRequest (w.session x.other) req).2 = .roleConflict →
        (onStunRxRequest (w.session x.other) req).1 = w.session x.other ∧
        PacketOk v r₀ w (.roleConflict x req)) := by
    rcases Side.eq_or v x with rfl | rfl
    · exact h.rx_loser hreq
    · have := h.rx_winner hreq
      rwa [Side.other_other]
  obtain ⟨hturn, hm, hconf⟩ := hrx
  have hinv := h.set_turned hturn hm
  simp only [receive]
  split_ifs with hc
  · obtain ⟨hsame, hp⟩ := hconf hc
    refine ⟨hinv.send ?_, SameRoles.moved hm ⟨fun _ => rfl, fun _ => rfl, fun _ => rfl⟩⟩
    rw [hsame, World.set, Function.update_eq_self]
    exact hp
  · exact ⟨hinv, hm⟩

lemma Inv.receive_conflict (h : Inv v r₀ w) (hp : PacketOk v r₀ w (.roleConflict x req)) (found : Bool) :
    Inv v r₀ (receive w found (.roleConflict x req)) ∧ Moved v w (receive w found (.roleConflict x req)) := by
  obtain ⟨hturn, hm⟩ := h.rx_conflict hp found
  have hinv := h.set_turned hturn hm
  simp only [receive]
  split_ifs
  · exact ⟨hinv.performCheck x, (performCheck_same _ x).moved hm⟩
  · exact ⟨hinv, hm⟩

lemma step_inv (h : Inv v r₀ w) (e : Event) : Inv v r₀ (step w e) ∧ Moved v w (step w e) := by
  have hkeep : Moved v w w := Moved.refl v w
  cases e with
  | check x => exact ⟨h.performCheck x, (performCheck_same w x).moved hkeep⟩
  | retransmit x i =>
    cases hi : (w.session x).pending[i]? with
    | none => simpa only [step, hi] using And.intro h hkeep
    | some req =>
      have hreq := h.pending x req (List.mem_of_getElem? hi)
      simp only [step, hi]
      exact ⟨h.send hreq, SameRoles.moved hkeep ⟨fun _ => rfl, fun _ => rfl, fun _ => rfl⟩⟩
  | forget x i =>
    have hs := SameRoles.set w x
      { w.session x with pending := (w.session x).pending.eraseIdx i } rfl rfl rfl
    exact ⟨h.set_flags x rfl rfl rfl (fun _ hr => List.mem_of_mem_eraseIdx hr), hs.moved hkeep⟩
  | complete x =>
    have hs := SameRoles.set w x { w.session x with isComplete := true } rfl rfl rfl
    exact ⟨h.set_flags x rfl rfl rfl (fun _ hr => hr), hs.moved hkeep⟩
  | destroy x =>
    have hs := SameRoles.set w x { w.session x with isDestroying := true } rfl rfl rfl
    exact ⟨h.set_flags x rfl rfl rfl (fun _ hr => hr), hs.moved hkeep⟩
  | deliver i found =>
    cases hi : w.net[i]? with
    | none => simpa only [step, hi] using And.intro h hkeep
    | some p =>
      have hp := h.net p (List.mem_of_getElem? hi)
      simp only [step, hi]
      cases p with
      | request x req =>
        obtain ⟨hinv, hm⟩ := (h.erase i).receive_request hp found
        exact ⟨hinv, hm.of_net⟩
      | roleConflict x req =>
        obtain ⟨hinv, hm⟩ := (h.erase i).receive_conflict hp found
        exact ⟨hinv, hm.of_net⟩
  | duplicate i =>
    cases hi : w.net[i]? with
    | none => simpa only [step, hi] using And.intro h hkeep
    | some p =>
      have hp := h.net p (List.mem_of_getElem? hi)
      simp only [step, hi]
      exact ⟨h.send hp, SameRoles.moved hkeep ⟨fun _ => rfl, fun _ => rfl, fun _ => rfl⟩⟩
  | lose i => exact ⟨h.erase i, .keep (fun _ => rfl) (fun _ => rfl)⟩

lemma Fresh.inv (h : Fresh w) (ht : (w.session v.other).tieBreaker < (w.session v).tieBreaker) :
    Inv v (fun x => (w.session x).role) w where
  tie := ht
  winner := Or.inl ⟨(h.2 v).2, rfl⟩
  loser := Or.inl ⟨(h.2 v.other).2, rfl⟩
  net := by simp [h.1]
  pending := by
    intro x
    simp [(h.2 x).1]

end Invariant

/-- From two fresh sessions with distinct tie-breakers and any roles, in every run each session
changes its role at most once, and roles that complement each other do so from then on. -/
theorem role_conflict_resolution (w : World) (hfresh : Fresh w)
    (htie : (w.session .left).tieBreaker ≠ (w.session .right).tieBreaker) (es : List Event) :
    (∀ x, ((run step w es).session x).changes ≤ 1) ∧
    (Complementary (run step w es) → ∀ fs, Complementary (run step w (es ++ fs))) := by
  obtain ⟨v, hv⟩ : ∃ v : Side, (w.session v.other).tieBreaker < (w.session v).tieBreaker := by
    rcases UInt64.lt_or_lt_of_ne htie with h | h
    · exact ⟨.right, h⟩
    · exact ⟨.left, h⟩
  have hstep : ∀ (u : World) (e : Event), Inv v (fun x => (w.session x).role) u →
      Inv v (fun x => (w.session x).role) (step u e) := fun u e hu => (step_inv hu e).1
  have hinv := run_invariant hstep (hfresh.inv hv) es
  refine ⟨?_, ?_⟩
  · intro x
    rcases Side.eq_or v x with rfl | rfl
    · rcases hinv.winner with h | h <;> omega
    · rcases hinv.loser with h | h <;> omega
  · intro hc fs
    rw [run_append]
    have hboth : ∀ (u : World) (e : Event), Inv v (fun x => (w.session x).role) u ∧ Complementary u →
        Inv v (fun x => (w.session x).role) (step u e) ∧ Complementary (step u e) :=
      fun u e hu => ⟨hstep u e hu.1, (step_inv hu.1 e).2.complementary hu.2⟩
    exact (run_invariant hboth ⟨hinv, hc⟩ fs).2

def bothControlling : World where
  session x := ⟨.controlling, if x = .left then 2 else 1, false, false, [], 0⟩
  net := []

def crossedChecks : List Event :=
  [.check .left, .check .right, .deliver 0 true, .deliver 1 true, .deliver 0 true]

theorem role_conflict_resolution_crossed : (run step bothControlling crossedChecks).net.length = 1 ∧
    ((run step bothControlling crossedChecks).session .right).changes ≤ 1 ∧
    ∀ fs, Complementary (run step bothControlling (crossedChecks ++ fs)) := by
  have h := role_conflict_resolution bothControlling ⟨rfl, fun _ => ⟨rfl, rfl⟩⟩ (by decide) crossedChecks
  exact ⟨by decide, h.1 .right, h.2 ⟨.left, by decide, by decide⟩⟩

end PjProject.IceRole
