import PjProject.TurnSession

/-!
# When a TURN session comes to its end

A session is to stay in DESTROYING once it is there, to report that state once, and, after
`pj_turn_session_shutdown`, to have something under way that leads to its destruction. The
steps that break this are named one kind at a time: `Disturbs` for those that hit a session
in DESTROYING, `Strands` for those after which a session that was shut down waits for
nothing. A run keeps the law exactly when it takes none of them.
-/
namespace PjProject.TurnSession
open Transition

def Sess.waits (s : Sess) : Prop :=
  s.timer = .destroy ∨ s.jobs ≠ 0 ∨ .allocate ∈ s.sent ∨ .refresh ∈ s.sent

instance (s : Sess) : Decidable s.waits := by unfold Sess.waits; infer_instance

/-- `pj_turn_session_shutdown` was called and has returned, and the session waits for
nothing that would destroy it. -/
def Stranded (s : Sess) : Prop :=
  s.closing = true ∧ s.stack = [] ∧ s.isDestroying = false ∧ ¬ s.waits

instance (s : Sess) : Decidable (Stranded s) := by unfold Stranded; infer_instance

/-- The states in which `sess_shutdown` leaves the session to what is under way. -/
def TurnState.halting (st : TurnState) : Prop :=
  st = .resolving ∨ st = .allocating ∨ st = .deallocating

instance (st : TurnState) : Decidable st.halting := by unfold TurnState.halting; infer_instance

/-- A success response that `on_allocate_success` takes as a live allocation. -/
def Sess.acceptsResult (s : Sess) (m : Method) : Result → Bool
  | .success (some lf) relay => s.accepts m lf relay
  | _ => false

def Result.lifetimeZero : Result → Bool
  | .success (some 0) _ => true
  | _ => false

def Sess.harmless (s : Sess) (m : Method) (r : Result) : Prop :=
  match m with
  | .allocate => s.pendingDestroy = false ∧ s.acceptsResult m r = true ∧ s.timer ≠ .destroy
  | .refresh => s.acceptsResult m r = true ∧ s.timer ≠ .destroy
  | .channelBind | .createPerm => r.errCode ≠ some allocationMismatch

instance (s : Sess) (m : Method) (r : Result) : Decidable (s.harmless m r) := by
  unfold Sess.harmless; cases m <;> infer_instance

def Sess.winds (s : Sess) (m : Method) (r : Result) : Prop :=
  match m with
  | .allocate => s.pendingDestroy = true ∨
      s.acceptsResult m r = false ∧ (r.lifetimeZero = true ∨ s.atLastServer = true)
  | .refresh => s.acceptsResult m r = false
  | .channelBind | .createPerm => r.errCode = some allocationMismatch

instance (s : Sess) (m : Method) (r : Result) : Decidable (s.winds m r) := by
  unfold Sess.winds; cases m <;> infer_instance

/-- The step hits a session in DESTROYING: a second destroy, a resolver that succeeds, a
response that is not harmless, or a failure to send the Refresh or the pending Allocate of
an interrupted call. -/
def Disturbs (s : Sess) : Event × Env → Prop
  | (.destroy, _) => s.state = .destroying
  | (.resolved (some _), _) => s.state = .destroying ∧ s.jobs ≠ 0 ∧ s.pendingDestroy = false
  | (.complete m r, _) => s.state = .destroying ∧ m ∈ s.sent ∧ ¬ s.harmless m r
  | (.ret, env) => s.state = .destroying ∧
      match s.stack with
      | .refreshSend :: _ | .allocSend true :: _ => s.canSend env = false
      | .runPending :: _ => s.pendingAlloc = true
      | _ => False
  | _ => False

/-- `dns_srv_resolver_cb` neither starts the pending allocation nor fails for good. -/
def Sess.drops (s : Sess) (env : Env) : Prop :=
  ¬ (s.pendingAlloc = true ∧
    (s.state = .resolved ∧ s.canCreate env = true ∨
      s.state ≠ .resolving ∧ s.atLastServer = true))

/-- The step leaves a session that was shut down with nothing to wait for: the shutdown
comes in a state that nothing will end, a request is completed without ending the session,
or an interrupted call ends without the resolver job or the request it was to start. -/
def Strands (s : Sess) : Event × Env → Prop
  | (.shutdown, _) => s.state.halting ∧ Stranded { s with closing := true }
  | (.complete m r, _) => m ∈ s.sent ∧ ¬ s.winds m r ∧
      Stranded { s with sent := s.sent.erase m }
  | (.resolved (some cnt), env) => s.jobs ≠ 0 ∧ s.pendingDestroy = false ∧
      s.state = .resolved ∧ Stranded { s with jobs := s.jobs - 1 } ∧
      { s with srvAddrCnt := cnt, srvAddr := some 0 }.drops env
  | (.ret, env) =>
    match s.stack with
    | [] => False
    | f :: rest => Stranded { s with stack := rest } ∧
      match f with
      | .srvResolve => ¬ (s.state = .resolving ∧ env.resolve = true)
      | .getAddrInfo => True
      | .allocSend nested => s.canSend env = false ∧ ¬ (nested = true ∧ s.atLastServer = true)
      | .refreshSend | .schedule => False
      | .sessShutdown => s.state.halting
      | .runPending => s.drops env
  | _ => False

def Safe (s : Sess) (e : Event × Env) : Prop := ¬ Disturbs s e ∧ ¬ Strands s e

structure Inv (s : Sess) : Prop where
  timer : s.timer = .destroy → s.state = .destroying
  dead : s.isDestroying = true → s.state = .destroying
  told : s.told.count .destroying = if s.state = .destroying then 1 else 0
  asserted : s.timerAssert = true
  sched : .schedule ∈ s.stack → s.state = .destroying

def Kept (s s' : Sess) : Prop := Inv s' ∧ (s.state = .destroying → s'.state = .destroying)

lemma Kept.trans {s s' s'' : Sess} (h : Kept s s') (h' : Kept s' s'') : Kept s s'' :=
  ⟨h'.1, fun hs => h'.2 (h.2 hs)⟩

lemma Inv.kept {s : Sess} (h : Inv s) : Kept s s := ⟨h, id⟩

lemma created_inv (af : ℕ) : Inv (pjTurnSessionCreate af) :=
  ⟨nofun, nofun, rfl, rfl, nofun⟩

lemma pjTurnSessionAlloc_failed {nested : Bool} {param : Option ℕ} {env : Env} {s : Sess}
    (hf : (pjTurnSessionAlloc nested param env s).2 = true) :
    (pjTurnSessionAlloc nested param env s).1.state = s.state := by
  revert hf
  unfold pjTurnSessionAlloc
  split
  · nofun
  · dsimp only
    split
    · nofun
    · intro _
      rfl
  · intro _
    rfl

section Invariant
variable {s : Sess} (h : Inv s)
include h

lemma Inv.enter (hs : s.state ≠ .destroying) (st : TurnState) : Inv (s.enter st) where
  timer ht := absurd (h.timer ht) hs
  dead hd := absurd (h.dead hd) hs
  told := by
    have h0 : s.told.count .destroying = 0 := by rw [h.told, if_neg hs]
    by_cases hst : st = .destroying <;> simp [Sess.enter, h0, hst]
  asserted := h.asserted
  sched hf := absurd (h.sched hf) hs

lemma Inv.setState (st : TurnState) (hst : s.state = .destroying → st = .destroying) :
    Kept s (s.setState st) := by
  unfold Sess.setState
  split
  · exact h.kept
  · rename_i hne
    have hs : s.state ≠ .destroying := fun hs => hne ((hst hs).trans hs.symm)
    exact ⟨h.enter hs st, fun hd => absurd hd hs⟩

lemma Inv.suspended (hs : s.state ≠ .destroying) {st : TurnState} {f : Frame}
    (hf : f = .schedule → st = .destroying) : Kept s ((s.enter st).suspend f) := by
  have hst := h.enter hs st
  refine ⟨⟨hst.timer, hst.dead, hst.told, hst.asserted, fun hmem => ?_⟩, fun hd => absurd hd hs⟩
  rcases List.mem_cons.mp hmem with heq | hmem
  · exact hf heq.symm
  · exact hst.sched hmem

variable (env : Env)

lemma Inv.sessShutdown : Kept s (sessShutdown env s) := by
  unfold TurnSession.sessShutdown
  split
  case h_1 | h_2 | h_3 => exact h.suspended (by simp [*]) fun _ => rfl
  case h_4 hs => exact ⟨⟨fun _ => hs, h.dead, h.told, h.asserted, h.sched⟩, id⟩
  case h_5 | h_6 => exact ⟨⟨h.timer, h.dead, h.told, h.asserted, h.sched⟩, id⟩
  case h_7 hs =>
    rw [sendRefreshZero, if_neg (by simp [hs])]
    split <;> exact h.suspended (by simp [hs]) nofun
  case h_8 => exact h.kept

lemma Inv.setStateShutdown {st : TurnState} (hst : s.state = .destroying → st = .destroying) :
    Kept s (setStateShutdown env st s) := by
  unfold TurnSession.setStateShutdown
  split
  · exact h.sessShutdown env
  · rename_i hne
    exact h.suspended (fun hs => hne ((hst hs).trans hs.symm)) nofun

lemma Inv.onSessionFail (m : Method) (hs : s.state ≠ .destroying) : Kept s (onSessionFail env m s) := by
  unfold TurnSession.onSessionFail
  split
  · exact h.setStateShutdown env fun hd => absurd hd hs
  · have h' : Inv { s with srvAddr := s.srvAddr.map (· + 1) } :=
      ⟨h.timer, h.dead, h.told, h.asserted, h.sched⟩
    exact h'.setState _ fun hd => absurd hd hs

lemma Inv.startKeepAlive (ht : s.timer ≠ .destroy) : Kept s (startKeepAlive s) := by
  unfold TurnSession.startKeepAlive
  have h1 : ∀ t : TimerId, t ≠ .destroy →
      Inv { s with timerAssert := s.timerAssert && decide (s.timer ≠ .destroy), timer := t } :=
    fun t hne => ⟨fun he => absurd he hne, h.dead, h.told, by simp [h.asserted, ht], h.sched⟩
  dsimp only
  split <;> split
  · rename_i hlt
    refine (h1 .keepAlive (by simp)).setState .ready fun hs => ?_
    simp [show s.state = .destroying from hs, TurnState.rank] at hlt
  · exact (h1 .none (by simp)).kept
  · rename_i hlt
    refine (h1 .keepAlive (by simp)).setState .ready fun hs => ?_
    simp [show s.state = .destroying from hs, TurnState.rank] at hlt
  · exact (h1 s.timer ht).kept

lemma Inv.pjTurnSessionAlloc (nested : Bool) (param : Option ℕ) (env : Env) :
    Kept s (pjTurnSessionAlloc nested param env s).1 := by
  unfold TurnSession.pjTurnSessionAlloc
  have hq : ∀ af p, Inv { s with allocAf := af, pendingAlloc := p } :=
    fun af p => ⟨h.timer, h.dead, h.told, h.asserted, h.sched⟩
  split
  · exact (hq _ true).kept
  · rename_i hs
    dsimp only
    split
    · exact (hq _ s.pendingAlloc).suspended (by simp [hs]) nofun
    · exact (hq _ s.pendingAlloc).kept
  · exact h.kept

lemma Inv.runPending (hs : s.state = .destroying → s.pendingAlloc = false) : Kept s (runPending env s) := by
  unfold TurnSession.runPending
  split
  · rename_i hp
    have hne : s.state ≠ .destroying := fun hd => by simp [hs hd] at hp
    have hk := h.pjTurnSessionAlloc true none env
    split
    · rename_i hr
      rwa [hr] at hk
    · rename_i s' hr
      rw [hr] at hk
      have hs' : s'.state ≠ .destroying := by
        have hst := pjTurnSessionAlloc_failed (congrArg Prod.snd hr)
        rw [hr] at hst
        rwa [hst]
      exact hk.trans (hk.1.onSessionFail env .allocate hs')
  · exact h.kept

lemma Inv.dnsSrvResolverCb (r : Option ℕ)
    (hs : s.state = .destroying → r.isSome = true → s.pendingDestroy = true) :
    Kept s (dnsSrvResolverCb env r s) := by
  unfold TurnSession.dnsSrvResolverCb
  split
  · exact h.setStateShutdown env fun _ => rfl
  · rename_i cnt
    split
    · exact h.setStateShutdown env fun _ => rfl
    · rename_i hp
      have hne : s.state ≠ .destroying := fun hd => hp (hs hd rfl)
      have h' : Inv { s with srvAddrCnt := cnt, srvAddr := some 0 } :=
        ⟨h.timer, h.dead, h.told, h.asserted, h.sched⟩
      dsimp only
      split
      · exact h'.runPending env fun hd => absurd hd hne
      · exact h'.suspended hne (by simp)

lemma Inv.onAllocateSuccess (m : Method) (lf : Option ℕ) (relay : Option Addr)
    (hs : s.state = .destroying → s.acceptsResult m (.success lf relay) = true)
    (ht : s.timer ≠ .destroy) : Kept s (onAllocateSuccess env m lf relay s) := by
  unfold TurnSession.onAllocateSuccess
  cases lf with
  | none => exact h.onSessionFail env m fun hd => by simp [Sess.acceptsResult] at hs; exact hs hd
  | some lf =>
    split
    · contradiction
    · rename_i heq
      cases heq
      refine h.setStateShutdown env fun hd => ?_
      have := hs hd
      simp [Sess.acceptsResult, Sess.accepts] at this
    · rename_i lf' _ heq
      cases heq
      split
      · have h' : Inv { s with relayAddr := s.relayAddr <|> relay } :=
          ⟨h.timer, h.dead, h.told, h.asserted, h.sched⟩
        exact h'.startKeepAlive ht
      · rename_i hacc
        exact h.onSessionFail env m fun hd => hacc (hs hd)

lemma Inv.stunOnRequestComplete (m : Method) (r : Result) (hs : s.state = .destroying → s.harmless m r) :
    Kept s (stunOnRequestComplete env m r s) := by
  have htimer : (m = .allocate ∨ m = .refresh) → s.timer ≠ .destroy := by
    intro hm ht
    have hh := hs (h.timer ht)
    rcases hm with rfl | rfl <;> simp [Sess.harmless, ht] at hh
  unfold TurnSession.stunOnRequestComplete
  cases m with
  | allocate =>
    dsimp only
    have hacc : s.state = .destroying → s.acceptsResult .allocate r = true :=
      fun hd => (hs hd).2.1
    split
    · rename_i hp
      have hne : s.state ≠ .destroying := fun hd => by simp [(hs hd).1] at hp
      have hh : Inv { s with state := if r.isSuccess then .ready else .deallocated } :=
        ⟨fun ht => absurd (h.timer ht) hne, fun hd => absurd (h.dead hd) hne,
          by rw [h.told, if_neg hne, if_neg (by split <;> simp)], h.asserted,
          fun hf => absurd (h.sched hf) hne⟩
      exact ⟨(hh.sessShutdown env).1, fun hd => absurd hd hne⟩
    · split
      · exact h.onAllocateSuccess env _ _ _ hacc (htimer (.inl rfl))
      · rename_i hr
        refine h.onSessionFail env _ fun hd => ?_
        have := hacc hd
        cases r <;> simp [Sess.acceptsResult] at this hr
  | refresh =>
    dsimp only
    have hacc : s.state = .destroying → s.acceptsResult .refresh r = true :=
      fun hd => (hs hd).1
    split
    · exact h.onAllocateSuccess env _ _ _ hacc (htimer (.inr rfl))
    · rename_i hr
      refine h.onSessionFail env _ fun hd => ?_
      have := hacc hd
      cases r <;> simp [Sess.acceptsResult] at this hr
  | channelBind | createPerm =>
    dsimp only
    split
    · rename_i hm
      exact h.onSessionFail env _ fun hd => hs hd hm
    · exact h.kept

lemma Inv.resume (hs : ¬ Disturbs s (.ret, env)) : Kept s (resume env s) := by
  unfold TurnSession.resume
  split
  · exact h.kept
  · rename_i f rest hstack
    have h' : Inv { s with stack := rest } := ⟨h.timer, h.dead, h.told, h.asserted,
      fun hf => h.sched (by rw [hstack]; exact List.mem_cons_of_mem _ hf)⟩
    simp only [Disturbs, hstack] at hs
    cases f with
    | srvResolve =>
      dsimp only [startResolve]
      split
      · exact h'.kept
      · rename_i hr
        split
        · exact ⟨⟨h.timer, h.dead, h.told, h.asserted, h'.sched⟩, id⟩
        · refine h'.setState .null fun hd => ?_
          simp [show s.state = .destroying from hd] at hr
    | getAddrInfo =>
      dsimp only [lookupServer]
      split
      · exact h'.kept
      · rename_i hr
        split
        · exact h'.kept
        · rename_i cnt _
          have h2 : Inv { s with stack := rest, srvAddrCnt := cnt, srvAddr := some 0 } :=
            ⟨h.timer, h.dead, h.told, h.asserted, h'.sched⟩
          refine h2.setState .resolved fun hd => ?_
          simp [show s.state = .destroying from hd] at hr
    | allocSend nested =>
      dsimp only [allocSend]
      split
      · exact ⟨⟨h.timer, h.dead, h.told, h.asserted, h'.sched⟩, id⟩
      · rename_i hsend
        split
        · rename_i hn
          subst hn
          exact h'.onSessionFail env _ fun hd => hs ⟨hd, by simpa [Sess.canSend] using hsend⟩
        · exact h'.kept
    | refreshSend =>
      dsimp only [refreshSend]
      split
      · exact ⟨⟨h.timer, h.dead, h.told, h.asserted, h'.sched⟩, id⟩
      · rename_i hsend
        exact h'.setStateShutdown env fun hd =>
          absurd ⟨hd, by simpa [Sess.canSend] using hsend⟩ hs
    | sessShutdown => exact h'.sessShutdown env
    | schedule =>
      have hd := h.sched (by rw [hstack]; exact List.mem_cons_self)
      exact ⟨⟨fun _ => hd, h.dead, h.told, h.asserted, h'.sched⟩, id⟩
    | runPending =>
      exact h'.runPending env fun hd => by simpa [show s.state = .destroying from hd] using hs

lemma Inv.onTimerEvent (due : Due) : Kept s (onTimerEvent env due s) := by
  unfold TurnSession.onTimerEvent
  split
  · exact h.kept
  · rename_i ht
    have hs := h.timer ht
    dsimp only [doDestroy]
    split
    · exact ⟨⟨nofun, h.dead, h.told, h.asserted, h.sched⟩, id⟩
    · exact ⟨⟨nofun, fun _ => hs, h.told, h.asserted, h.sched⟩, id⟩
  · have hq : ∀ sent t, t ≠ TimerId.destroy → Kept s { s with timer := t, sent := sent } :=
      fun sent t ht => ⟨⟨fun he => absurd he ht, h.dead, h.told, h.asserted, h.sched⟩, id⟩
    dsimp only
    split
    · exact hq _ _ (by simp)
    · simp only [refreshBindings, sendRefresh, Sess.request]
      split <;> split <;> (try split) <;> exact hq _ _ (by simp)

lemma Inv.step (e : Event × Env) (hs : ¬ Disturbs s e) : Kept s (step s e) := by
  obtain ⟨e, env⟩ := e
  cases e with
  | setServer resolver port =>
    simp only [TurnSession.step, pjTurnSessionSetServer]
    split
    · exact h.kept
    · rename_i hn
      have hne : s.state ≠ .destroying := by intro hd; simp [hd] at hn
      split
      · exact h.suspended hne nofun
      · split
        · exact h.suspended hne nofun
        · exact h.kept
  | alloc param => exact h.pjTurnSessionAlloc false param env
  | shutdown =>
    have h' : Inv { s with closing := true } := ⟨h.timer, h.dead, h.told, h.asserted, h.sched⟩
    exact h'.sessShutdown env
  | destroy => exact h.setStateShutdown env fun hd => absurd hd hs
  | setPerm =>
    simp only [TurnSession.step, sendOther]
    split
    · exact ⟨⟨h.timer, h.dead, h.told, h.asserted, h.sched⟩, id⟩
    · exact h.kept
  | bindChannel =>
    simp only [TurnSession.step, sendOther]
    split
    · split
      · exact ⟨⟨h.timer, h.dead, h.told, h.asserted, h.sched⟩, id⟩
      · exact h.kept
    · exact h.kept
  | resolved r =>
    simp only [TurnSession.step]
    split
    · exact h.kept
    · rename_i hj
      have h' : Inv { s with jobs := s.jobs - 1 } :=
        ⟨h.timer, h.dead, h.told, h.asserted, h.sched⟩
      refine h'.dnsSrvResolverCb env r fun hd hr => ?_
      obtain ⟨cnt, rfl⟩ := Option.isSome_iff_exists.mp hr
      by_contra hp
      exact hs ⟨hd, hj, by simpa using hp⟩
  | complete m r =>
    simp only [TurnSession.step]
    split
    · rename_i hm
      have h' : Inv { s with sent := s.sent.erase m } :=
        ⟨h.timer, h.dead, h.told, h.asserted, h.sched⟩
      refine h'.stunOnRequestComplete env m r fun hd => ?_
      by_contra hh
      exact hs ⟨hd, hm, hh⟩
    · exact h.kept
  | timer due => exact h.onTimerEvent env due
  | ret => exact h.resume env hs

end Invariant

end PjProject.TurnSession
