import PjProject.TurnSession

/-!
# The keep-alive of a TURN allocation

The session with its clock: a response with a LIFETIME sets the interval of the
keep-alive timer and the time from which on the timer sends a Refresh. Times are in
milliseconds.
-/
namespace PjProject.TurnSession
open Transition

def keepAliveSec : ℤ := 15

def refreshSecBefore : ℤ := 60

/-- The value of an `int` to which an unsigned one is converted. -/
def toInt32 (n : ℤ) : ℤ := if n % 2 ^ 32 < 2 ^ 31 then n % 2 ^ 32 else n % 2 ^ 32 - 2 ^ 32

def kaIntervalOf (lifetime : ℕ) : ℤ :=
  if (lifetime : ℤ) < keepAliveSec then toInt32 ((lifetime : ℤ) - 2) else keepAliveSec

def refreshAfter (lifetime : ℕ) : ℤ :=
  if (lifetime : ℤ) < keepAliveSec then kaIntervalOf lifetime - 1
  else
    let timeout := toInt32 ((lifetime : ℤ) - refreshSecBefore)
    if timeout < keepAliveSec then keepAliveSec - 1 else timeout

/-- A session with its clock. `due` is when the timer fires, `granted` the time of the
last accepted response, and `attempts` are the times at which the timer sent a Refresh or
tried to, each with the end of the lifetime at that time. -/
structure Timed where
  sess : Sess
  now : ℤ
  lifetime : ℕ
  kaInterval : ℤ
  expiry : ℤ
  due : ℤ
  granted : ℤ
  attempts : List (ℤ × ℤ)
  deriving DecidableEq

def Timed.deadline (s : Timed) : ℤ := s.granted + s.lifetime * 1000

/-- The session that `pj_turn_session_create` returns. -/
def Timed.create (af : ℕ) (now : ℤ) : Timed := ⟨pjTurnSessionCreate af, now, 0, keepAliveSec, 0, 0, 0, []⟩

/-- `on_allocate_success` as far as the LIFETIME. -/
def noteLifetime (lifetime : ℕ) (s : Timed) : Timed :=
  if lifetime ≤ 2 then { s with lifetime := lifetime, expiry := s.now }
  else { s with lifetime := lifetime, kaInterval := kaIntervalOf lifetime,
                expiry := s.now + refreshAfter lifetime * 1000 }

/-- Whether a completed request comes to `on_allocate_success`, and with which LIFETIME other
than zero and which address. -/
def granting (s : Sess) (m : Method) (r : Result) : Option (ℕ × Option Addr) :=
  match m, r with
  | .allocate, .success (some lf) relay => if m ∈ s.sent ∧ !s.pendingDestroy ∧ lf ≠ 0 then some (lf, relay) else none
  | .refresh, .success (some lf) relay => if m ∈ s.sent ∧ lf ≠ 0 then some (lf, relay) else none
  | _, _ => none

def Sess.keeps (s : Sess) (m : Method) (lifetime : ℕ) (relay : Option Addr) : Bool :=
  s.accepts m lifetime relay ∧ s.state.rank < TurnState.deallocating.rank

def afterComplete (m : Method) (r : Result) (s : Timed) : Timed :=
  match granting s.sess m r with
  | none => s
  | some (lf, relay) =>
    let s' := noteLifetime lf s
    if s.sess.keeps m lf relay then { s' with granted := s.now, due := s.now + s'.kaInterval * 1000 } else s'

def afterTimer (s : Timed) : Timed :=
  if s.sess.state.rank < TurnState.deallocating.rank then
    if s.expiry ≤ s.now then
      if s.sess.state = .ready then { s with attempts := (s.now, s.deadline) :: s.attempts } else s
    else { s with due := s.now + s.kaInterval * 1000 }
  else s

def envUp : Env := ⟨true, true, true, some 1⟩

inductive Input
  /-- Time goes by, but not beyond the time of a pending keep-alive timer. -/
  | tick (ms : ℕ)
  /-- The keep-alive timer fires, at its time; whether a refresh is due is seen from the clock. -/
  | keepAlive (due : Due) (env : Env)
  /-- Any other event of the session. -/
  | event (e : Event) (env : Env)

def Timed.withSess (s : Timed) (sess : Sess) : Timed := { s with sess := sess }

def Timed.next (s : Timed) : Input → Timed
  | .tick ms => if s.sess.timer = .keepAlive ∧ s.due < s.now + ms then s else { s with now := s.now + ms }
  | .keepAlive due env =>
    if s.sess.timer = .keepAlive ∧ s.now = s.due then
      (afterTimer s).withSess (step s.sess (.timer { due with refresh := s.expiry ≤ s.now }, env))
    else s
  | .event (.complete m r) env => (afterComplete m r s).withSess (step s.sess (.complete m r, env))
  | .event (.timer due) env =>
    if s.sess.timer = .keepAlive then s else s.withSess (step s.sess (.timer due, env))
  | .event e env => s.withSess (step s.sess (e, env))

lemma kaIntervalOf_pos {lifetime : ℕ} (h : 2 < lifetime) : 0 < kaIntervalOf lifetime := by
  unfold kaIntervalOf toInt32 keepAliveSec
  split_ifs <;> omega

lemma kaIntervalOf_lt {lifetime : ℕ} (h : 2 < lifetime) (hne : lifetime ≠ 15) :
    kaIntervalOf lifetime < lifetime := by
  unfold kaIntervalOf toInt32 keepAliveSec
  split_ifs <;> omega

lemma refreshAfter_room {lifetime : ℕ} (h : kaIntervalOf lifetime < refreshAfter lifetime) :
    refreshAfter lifetime + kaIntervalOf lifetime ≤ lifetime := by
  unfold refreshAfter kaIntervalOf toInt32 keepAliveSec refreshSecBefore at *
  dsimp only at *
  split_ifs at * <;> omega

def Untouched (s s' : Sess) : Prop :=
  s'.state = .ready → s.state = .ready ∧ s'.timer = s.timer ∧ (.refresh ∈ s.sent → .refresh ∈ s'.sent)

lemma Untouched.refl (s : Sess) : Untouched s s := fun h => ⟨h, rfl, id⟩

lemma Untouched.trans {s s' s'' : Sess} (h : Untouched s s') (h' : Untouched s' s'') : Untouched s s'' := by
  intro hr
  obtain ⟨hr', ht', hm'⟩ := h' hr
  obtain ⟨hr'', ht, hm⟩ := h hr'
  exact ⟨hr'', ht'.trans ht, hm' ∘ hm⟩

lemma Untouched.of_ne {s s' : Sess} (h : s'.state ≠ .ready) : Untouched s s' := fun hr => absurd hr h

lemma Untouched.of_same {s s' : Sess} (hs : s'.state = s.state) (ht : s'.timer = s.timer)
    (hm : .refresh ∈ s.sent → .refresh ∈ s'.sent) : Untouched s s' := fun hr => ⟨hs ▸ hr, ht, hm⟩

variable {s : Sess} {env : Env} {st : TurnState}

lemma enter_untouched (h : st ≠ .ready) : Untouched s (s.enter st) := .of_ne h

lemma setState_untouched (h : st ≠ .ready) : Untouched s (s.setState st) := by
  unfold Sess.setState
  split
  · exact .refl s
  · exact enter_untouched h

lemma request_untouched (m : Method) : Untouched s (s.request m) :=
  .of_same rfl rfl fun h => List.mem_cons_of_mem m h

lemma sendRefreshZero_leaves : (sendRefreshZero env s).state ≠ .ready := by
  unfold sendRefreshZero
  split
  · assumption
  · split <;> exact nofun

lemma sessShutdown_leaves : (sessShutdown env s).state ≠ .ready := by
  unfold sessShutdown
  split
  · exact nofun
  · exact nofun
  · exact nofun
  · rename_i hs
    simp [scheduleDestroy, hs]
  · rename_i hs
    simp [hs]
  · rename_i hs
    simp [hs]
  · exact sendRefreshZero_leaves
  · rename_i hs
    simp [hs]

lemma setStateShutdown_leaves (h : st ≠ .ready) : (setStateShutdown env st s).state ≠ .ready := by
  unfold setStateShutdown
  split
  · exact sessShutdown_leaves
  · exact h

lemma onSessionFail_leaves (m : Method) : (onSessionFail env m s).state ≠ .ready := by
  unfold onSessionFail
  split
  · exact setStateShutdown_leaves nofun
  · unfold Sess.setState
    split
    · rename_i heq
      exact heq ▸ nofun
    · exact nofun

lemma pjTurnSessionAlloc_untouched (nested : Bool) (param : Option ℕ) :
    Untouched s (pjTurnSessionAlloc nested param env s).1 := by
  unfold pjTurnSessionAlloc
  split
  · exact .of_same rfl rfl id
  · dsimp only
    split
    · exact .of_ne nofun
    · exact .of_same rfl rfl id
  · exact .refl s

lemma runPending_untouched : Untouched s (runPending env s) := by
  unfold runPending
  split
  · have halloc : Untouched s (pjTurnSessionAlloc true none env s).1 := pjTurnSessionAlloc_untouched true none
    split
    · rename_i heq
      rwa [heq] at halloc
    · exact .of_ne (onSessionFail_leaves _)
  · exact .refl s

lemma dnsSrvResolverCb_untouched (r : Option ℕ) : Untouched s (dnsSrvResolverCb env r s) := by
  unfold dnsSrvResolverCb
  split
  · exact .of_ne (setStateShutdown_leaves (by simp))
  · split
    · exact .of_ne (setStateShutdown_leaves (by simp))
    · dsimp only
      split
      · exact Untouched.trans (.of_same rfl rfl id) runPending_untouched
      · exact .of_ne (show TurnState.resolved ≠ .ready by simp)

lemma sendOther_untouched (m : Method) : Untouched s (sendOther env m s) := by
  unfold sendOther
  split
  · exact request_untouched m
  · exact .refl s

lemma resume_untouched (h : ¬ (s.stack.head? = some .schedule ∧ s.state = .ready)) :
    Untouched s (resume env s) := by
  unfold resume
  split
  · exact .refl s
  · rename_i f rest hstack
    refine @Untouched.trans s { s with stack := rest } _ (.of_same rfl rfl id) ?_
    cases f with
    | srvResolve =>
      dsimp only [startResolve]
      split
      · exact .refl _
      · split
        · exact .of_same rfl rfl id
        · exact setState_untouched (by simp)
    | getAddrInfo =>
      dsimp only [lookupServer]
      split
      · exact .refl _
      · split
        · exact .refl _
        · exact Untouched.trans (.of_same rfl rfl id) (setState_untouched (by simp))
    | allocSend nested =>
      dsimp only [allocSend]
      split
      · exact request_untouched _
      · split
        · exact .of_ne (onSessionFail_leaves _)
        · exact .refl _
    | refreshSend =>
      dsimp only [refreshSend]
      split
      · exact request_untouched _
      · exact .of_ne (setStateShutdown_leaves (by simp))
    | sessShutdown => exact .of_ne sessShutdown_leaves
    | schedule =>
      refine .of_ne fun hr => h ⟨by rw [hstack, List.head?_cons], hr⟩
    | runPending => exact runPending_untouched

lemma startKeepAlive_cases : (startKeepAlive s).state ≠ .ready ∨
    s.state.rank < TurnState.deallocating.rank ∧ (startKeepAlive s).timer = .keepAlive := by
  by_cases hrank : s.state.rank < TurnState.deallocating.rank
  · refine .inr ⟨hrank, ?_⟩
    by_cases ht : s.timer = .keepAlive <;>
      simp only [startKeepAlive, Sess.setState, ht, hrank, if_true, if_false] <;> split <;> rfl
  · left
    have hstate : (startKeepAlive s).state = s.state := by
      by_cases ht : s.timer = .keepAlive <;> simp only [startKeepAlive, ht, hrank, if_true, if_false]
    rw [hstate]
    exact fun h => hrank (by rw [h]; decide)

lemma onAllocateSuccess_cases (m : Method) (lifetime : Option ℕ) (relay : Option Addr) :
    (onAllocateSuccess env m lifetime relay s).state ≠ .ready ∨
      ∃ lf, lifetime = some lf ∧ lf ≠ 0 ∧ s.keeps m lf relay = true ∧
        (onAllocateSuccess env m lifetime relay s).timer = .keepAlive := by
  unfold onAllocateSuccess
  split
  · exact .inl (onSessionFail_leaves _)
  · exact .inl (setStateShutdown_leaves nofun)
  · rename_i lf hne
    split
    · rename_i hacc
      obtain hleaves | ⟨hrank, htimer⟩ := startKeepAlive_cases (s := { s with relayAddr := s.relayAddr <|> relay })
      · exact .inl hleaves
      · exact .inr ⟨lf, rfl, fun h => hne (h ▸ rfl), by simpa [Sess.keeps, hacc] using hrank, htimer⟩
    · exact .inl (onSessionFail_leaves _)

lemma complete_cases (m : Method) (r : Result) (hm : m ∈ s.sent) :
    (step s (.complete m r, env)).state ≠ .ready ∨
      Untouched s (step s (.complete m r, env)) ∧ granting s m r = none ∨
      ∃ lf relay, granting s m r = some (lf, relay) ∧ s.keeps m lf relay = true ∧
        (step s (.complete m r, env)).timer = .keepAlive := by
  simp only [step, if_pos hm]
  have hother (hne : m ≠ .refresh) (hnone : granting s m r = none) :
      (if r.errCode = some allocationMismatch then onSessionFail env m { s with sent := s.sent.erase m }
        else { s with sent := s.sent.erase m }).state ≠ .ready ∨
      Untouched s (if r.errCode = some allocationMismatch then onSessionFail env m { s with sent := s.sent.erase m }
        else { s with sent := s.sent.erase m }) ∧ granting s m r = none := by
    split
    · exact .inl (onSessionFail_leaves _)
    · exact .inr ⟨.of_same rfl rfl fun h => (List.mem_erase_of_ne hne.symm).mpr h, hnone⟩
  cases m with
  | allocate =>
    unfold stunOnRequestComplete
    dsimp only
    split
    · exact .inl sessShutdown_leaves
    · rename_i hpending
      cases r with
      | success lifetime relay =>
        obtain hleaves | ⟨lf, rfl, hlf, hkeeps, htimer⟩ := onAllocateSuccess_cases
          (s := { s with sent := s.sent.erase .allocate }) .allocate lifetime relay
        · exact .inl hleaves
        · exact .inr (.inr ⟨lf, relay, by simp [granting, hm, hlf, hpending], hkeeps, htimer⟩)
      | refused code => exact .inl (onSessionFail_leaves _)
      | failed status => exact .inl (onSessionFail_leaves _)
  | refresh =>
    cases r with
    | success lifetime relay =>
      obtain hleaves | ⟨lf, rfl, hlf, hkeeps, htimer⟩ := onAllocateSuccess_cases
        (s := { s with sent := s.sent.erase .refresh }) .refresh lifetime relay
      · exact .inl hleaves
      · exact .inr (.inr ⟨lf, relay, by simp [granting, hm, hlf], hkeeps, htimer⟩)
    | refused code => exact .inl (onSessionFail_leaves _)
    | failed status => exact .inl (onSessionFail_leaves _)
  | channelBind =>
    obtain hleaves | hsame := hother nofun rfl
    · exact .inl hleaves
    · exact .inr (.inl hsame)
  | createPerm =>
    obtain hleaves | hsame := hother nofun rfl
    · exact .inl hleaves
    · exact .inr (.inl hsame)

lemma step_untouched {e : Event} (hcomplete : ∀ m r, e = .complete m r → m ∉ s.sent)
    (htimer : ∀ due, e ≠ .timer due)
    (hret : e = .ret → ¬ (s.stack.head? = some .schedule ∧ s.state = .ready)) :
    Untouched s (step s (e, env)) := by
  cases e with
  | setServer resolver port =>
    dsimp only [step, pjTurnSessionSetServer]
    split
    · exact .refl s
    · split
      · exact .of_ne nofun
      · split
        · exact .of_ne nofun
        · exact .refl s
  | alloc param => exact pjTurnSessionAlloc_untouched false param
  | shutdown => exact .of_ne sessShutdown_leaves
  | destroy => exact .of_ne (setStateShutdown_leaves nofun)
  | setPerm => exact sendOther_untouched _
  | bindChannel =>
    dsimp only [step]
    split
    · exact sendOther_untouched _
    · exact .refl s
  | resolved r =>
    dsimp only [step]
    split
    · exact .refl s
    · exact Untouched.trans (.of_same rfl rfl id) (dnsSrvResolverCb_untouched r)
  | complete m r =>
    dsimp only [step]
    rw [if_neg (hcomplete m r rfl)]
    exact .refl s
  | timer due => exact absurd rfl (htimer due)
  | ret => exact resume_untouched (hret rfl)

/-- The condition on a step: the Refresh of the timer is sent, the accepted LIFETIME is not that
of the keep-alive interval, and no timer to destroy the session is set or about to be set
in a session that is READY or becomes READY. -/
def Timed.Sends (s : Timed) : Input → Prop
  | .keepAlive _ env =>
    s.sess.timer = .keepAlive → s.now = s.due → s.sess.state = .ready → s.expiry ≤ s.now →
      s.sess.canCreate env = true ∧ s.sess.canSend env = true
  | .event (.complete m r) _ =>
    ∀ lf relay, granting s.sess m r = some (lf, relay) → s.sess.keeps m lf relay = true →
      lf ≠ 15 ∧ s.sess.timer ≠ .destroy
  | .event .ret _ => ¬ (s.sess.stack.head? = some .schedule ∧ s.sess.state = .ready)
  | _ => True

structure Timed.Good (s : Timed) : Prop where
  timer : s.sess.state = .ready → s.sess.timer ≠ .destroy
  waits : s.sess.state = .ready → s.sess.timer = .keepAlive ∨ .refresh ∈ s.sess.sent
  lifetime : s.sess.state = .ready → 2 < s.lifetime ∧ s.lifetime ≠ 15
  clock : s.sess.state = .ready → s.kaInterval = kaIntervalOf s.lifetime ∧
    s.expiry = s.granted + refreshAfter s.lifetime * 1000
  due : s.sess.state = .ready → s.sess.timer = .keepAlive → s.now ≤ s.due ∧
    s.granted + s.kaInterval * 1000 ≤ s.due ∧
    (s.due = s.granted + s.kaInterval * 1000 ∨
      (s.granted + s.kaInterval * 1000 < s.expiry ∧ s.due < s.expiry + s.kaInterval * 1000))
  attempts : ∀ a ∈ s.attempts, a.1 < a.2

/-- The allocation is kept alive: something is under way for it, each Refresh is attempted
within the lifetime, and the one that the timer is to send is not late yet. -/
structure KeptAlive (s : Timed) : Prop where
  waits : s.sess.state = .ready → s.sess.timer = .keepAlive ∨ .refresh ∈ s.sess.sent
  attempted : ∀ a ∈ s.attempts, a.1 < a.2
  pending : s.sess.state = .ready → s.sess.timer = .keepAlive → s.now < s.deadline

section Steps

variable {s : Timed}

lemma Timed.Good.due_lt (h : s.Good) (hr : s.sess.state = .ready) (ht : s.sess.timer = .keepAlive) :
    s.due < s.deadline := by
  obtain ⟨hmin, hne⟩ := h.lifetime hr
  obtain ⟨hka, hexpiry⟩ := h.clock hr
  have hlt := kaIntervalOf_lt hmin hne
  obtain ⟨-, -, hdue | ⟨hlater, hdue⟩⟩ := h.due hr ht
  · rw [Timed.deadline, hdue, hka]
    omega
  · have hroom := @refreshAfter_room s.lifetime (by omega)
    rw [Timed.deadline]
    omega

lemma Timed.Good.keptAlive (h : s.Good) : KeptAlive s where
  waits := h.waits
  attempted := h.attempts
  pending hr ht := lt_of_le_of_lt (h.due hr ht).1 (h.due_lt hr ht)

lemma Timed.Good.of_leaves {s' : Timed} (hr : s'.sess.state ≠ .ready) (ha : ∀ a ∈ s'.attempts, a.1 < a.2) :
    s'.Good :=
  ⟨fun h => absurd h hr, fun h => absurd h hr, fun h => absurd h hr, fun h => absurd h hr,
    fun h => absurd h hr, ha⟩

lemma Timed.Good.of_untouched (h : s.Good) {sess : Sess} (hsame : Untouched s.sess sess) :
    (s.withSess sess).Good where
  timer hr := (hsame hr).2.1 ▸ h.timer (hsame hr).1
  waits hr := by
    obtain ⟨hr', ht, hm⟩ := hsame hr
    exact (h.waits hr').imp (fun hk => ht.trans hk) hm
  lifetime hr := h.lifetime (hsame hr).1
  clock hr := h.clock (hsame hr).1
  due hr ht := h.due (hsame hr).1 ((hsame hr).2.1 ▸ ht)
  attempts := h.attempts

lemma Timed.Good.tick (h : s.Good) (ms : ℕ) : (s.next (.tick ms)).Good := by
  rw [Timed.next]
  split
  · exact h
  · rename_i hlate
    exact ⟨h.timer, h.waits, h.lifetime, h.clock, fun hr ht =>
      ⟨not_lt.mp fun hlt => hlate ⟨ht, hlt⟩, (h.due hr ht).2⟩, h.attempts⟩

lemma afterComplete_attempts (m : Method) (r : Result) : (afterComplete m r s).attempts = s.attempts := by
  unfold afterComplete noteLifetime
  split
  · rfl
  · dsimp only
    split <;> split <;> rfl

lemma Timed.Good.complete (h : s.Good) {m : Method} {r : Result} {env : Env}
    (hsends : s.Sends (.event (.complete m r) env)) : (s.next (.event (.complete m r) env)).Good := by
  by_cases hm : m ∈ s.sess.sent
  · obtain hleaves | ⟨hsame, hnone⟩ | ⟨lf, relay, hgrant, hkeeps, htimer⟩ := @complete_cases _ env m r hm
    · refine .of_leaves hleaves ?_
      rw [Timed.next, Timed.withSess]
      dsimp only
      rw [afterComplete_attempts]
      exact h.attempts
    · rw [Timed.next, afterComplete, hnone]
      exact h.of_untouched hsame
    · -- The response starts the timer anew.
      have hlf : 2 < lf := by
        simp only [Sess.keeps, Sess.accepts, decide_eq_true_eq] at hkeeps
        exact hkeeps.1.1
      have hne := (hsends lf relay hgrant hkeeps).1
      have hclock : afterComplete m r s = { s with
          lifetime := lf, kaInterval := kaIntervalOf lf, expiry := s.now + refreshAfter lf * 1000,
          granted := s.now, due := s.now + kaIntervalOf lf * 1000 } := by
        simp only [afterComplete, hgrant, hkeeps, if_true, noteLifetime, if_neg (not_le.mpr hlf)]
      have hpos := kaIntervalOf_pos hlf
      rw [Timed.next, hclock]
      refine ⟨fun _ => by simp [Timed.withSess, htimer], fun _ => .inl htimer, fun _ => ⟨hlf, hne⟩,
        fun _ => ⟨rfl, rfl⟩, fun _ _ => ⟨?_, le_rfl, .inl rfl⟩, h.attempts⟩
      simp only [Timed.withSess]
      omega
  · have hnone : granting s.sess m r = none := by
      unfold granting
      split
      · exact if_neg fun h => hm h.1
      · exact if_neg fun h => hm h.1
      · rfl
    have hstep : step s.sess (.complete m r, env) = s.sess := if_neg hm
    rw [Timed.next, afterComplete, hnone, hstep]
    exact h

lemma refreshBindings_state (due : Due) (x : Sess) : (refreshBindings due x).state = x.state ∧
    (refreshBindings due x).timer = x.timer ∧ (.refresh ∈ x.sent → .refresh ∈ (refreshBindings due x).sent) := by
  unfold refreshBindings
  split
  · exact ⟨rfl, rfl, id⟩
  · exact ⟨rfl, rfl, fun h => List.mem_append_right _ h⟩

lemma onTimerEvent_keepAlive {x : Sess} {env : Env} (due : Due) (ht : x.timer = .keepAlive) :
    (onTimerEvent env due x).state = x.state ∧ (x.state = .ready →
      (due.refresh = false → (onTimerEvent env due x).timer = .keepAlive) ∧
      (due.refresh = true → x.canCreate env = true → x.canSend env = true →
        (onTimerEvent env due x).timer = .none ∧ .refresh ∈ (onTimerEvent env due x).sent)) := by
  unfold onTimerEvent
  rw [ht]
  dsimp only
  split
  · rename_i hrank
    refine ⟨rfl, fun hr => ?_⟩
    rw [hr] at hrank
    exact absurd hrank (by decide)
  · have hsend : (sendRefresh env { x with timer := .none }).state = x.state := by
      unfold sendRefresh
      split <;> rfl
    cases hdue : due.refresh with
    | false =>
      obtain ⟨hstate, -, -⟩ := refreshBindings_state due { x with timer := .none }
      exact ⟨hstate, fun _ => ⟨fun _ => rfl, nofun⟩⟩
    | true =>
      obtain ⟨hstate, htimer, hmem⟩ := refreshBindings_state due (sendRefresh env { x with timer := .none })
      refine ⟨hstate.trans hsend, fun hr => ⟨nofun, fun _ hc hs => ?_⟩⟩
      have hsent : sendRefresh env { x with timer := .none } = Sess.request { x with timer := .none } .refresh :=
        if_pos ⟨hr, hc, hs⟩
      rw [hsent] at htimer hmem
      simp only [if_true, hsent]
      exact ⟨htimer, hmem List.mem_cons_self⟩

lemma Timed.Good.keepAlive (h : s.Good) {due : Due} {env : Env} (hsends : s.Sends (.keepAlive due env)) :
    (s.next (.keepAlive due env)).Good := by
  rw [Timed.next]
  split
  · rename_i hfires
    obtain ⟨ht, hnow⟩ := hfires
    obtain ⟨hstate, hready⟩ := @onTimerEvent_keepAlive _ env { due with refresh := s.expiry ≤ s.now } ht
    by_cases hr : s.sess.state = .ready
    · obtain ⟨hagain, hrefresh⟩ := hready hr
      have hrank : s.sess.state.rank < TurnState.deallocating.rank := by rw [hr]; decide
      have hdead := h.due_lt hr ht
      by_cases hexpired : s.expiry ≤ s.now
      · -- The allocation is refreshed.
        obtain ⟨hc, hs⟩ := hsends ht hnow hr hexpired
        obtain ⟨htimer, hmem⟩ := hrefresh (by simpa using hexpired) hc hs
        have hafter : afterTimer s = { s with attempts := (s.now, s.deadline) :: s.attempts } := by
          rw [afterTimer, if_pos hrank, if_pos hexpired, if_pos hr]
        rw [hafter]
        refine ⟨fun _ h => (nomatch htimer.symm.trans h), fun _ => .inr hmem, fun _ => h.lifetime hr,
          fun _ => h.clock hr, fun _ h => (nomatch htimer.symm.trans h), ?_⟩
        exact List.forall_mem_cons.mpr ⟨hnow ▸ hdead, h.attempts⟩
      · -- It is too early for a refresh, and the timer is started again.
        have htimer := hagain (by simpa using hexpired)
        have hafter : afterTimer s = { s with due := s.now + s.kaInterval * 1000 } := by
          rw [afterTimer, if_pos hrank, if_neg hexpired]
        have hpos := kaIntervalOf_pos (h.lifetime hr).1
        obtain ⟨hka, -⟩ := h.clock hr
        obtain ⟨-, hmin, -⟩ := h.due hr ht
        rw [hafter]
        refine ⟨fun _ h => (nomatch htimer.symm.trans h), fun _ => .inl htimer, fun _ => h.lifetime hr,
          fun _ => h.clock hr, fun _ _ => ?_, h.attempts⟩
        simp only [Timed.withSess]
        omega
    · refine .of_leaves (fun hr' => hr (hstate ▸ hr')) ?_
      have hattempts : (afterTimer s).attempts = s.attempts := by
        unfold afterTimer
        rw [if_neg hr]
        split
        · split <;> rfl
        · rfl
      exact hattempts ▸ h.attempts
  · exact h

lemma Timed.Good.next (h : s.Good) {i : Input} (hsends : s.Sends i) : (s.next i).Good := by
  cases i with
  | tick ms => exact h.tick ms
  | keepAlive due env => exact h.keepAlive hsends
  | event e env =>
    cases e with
    | complete m r => exact h.complete hsends
    | timer due =>
      rw [Timed.next]
      split
      · exact h
      · rename_i hne
        cases ht : s.sess.timer with
        | none =>
          have hstep : step s.sess (.timer due, env) = s.sess := by simp [step, onTimerEvent, ht]
          rw [hstep]
          exact h
        | keepAlive => exact absurd ht hne
        | destroy =>
          have hstep : (step s.sess (.timer due, env)).state = s.sess.state := by
            simp only [step, onTimerEvent, ht, doDestroy]
            split <;> rfl
          refine .of_leaves (fun hr => h.timer (hstep ▸ hr) ht) h.attempts
    | ret => exact h.of_untouched (step_untouched nofun nofun fun _ => hsends)
    | _ => exact h.of_untouched (step_untouched nofun nofun nofun)

end Steps

/-- In every run whose steps meet the condition, the allocation is kept alive. -/
theorem kept_alive_when_sent (af : ℕ) (now : ℤ) (inputs : List Input)
    (h : Guarded Timed.next Timed.Sends (.create af now) inputs) :
    KeptAlive (run Timed.next (.create af now) inputs) := by
  have hstart : (Timed.create af now).Good := .of_leaves nofun nofun
  have hgood := @Guarded.invariant _ _ _ _ Timed.Good (fun s i hs hi => hs.next hi) _ _ hstart h
  exact hgood.keptAlive

/-- The run of a session up to an accepted Allocate response with a LIFETIME, and on to the
time at which the timer fires for the first time. -/
def allocated (lifetime ms : ℕ) : List Input :=
  [.event (.setServer false 3478) envUp, .event .ret envUp, .event (.alloc none) envUp, .event .ret envUp,
    .event (.complete .allocate (.success (some lifetime) (some ⟨2, 1, 50000⟩))) envUp, .tick ms]

/-- The timer fires; `sent` when the requests of the step can be sent. -/
def fires (sent : Bool) : Input := .keepAlive ⟨true, 0, false⟩ { envUp with send := sent }

/-- A Refresh that cannot be sent leaves the session READY with nothing under way, and after
a LIFETIME of 15 seconds the Refresh is attempted when the lifetime has elapsed. -/
theorem allocation_lost : ¬ KeptAlive (run Timed.next (.create 2 0) (allocated 20 15000 ++ [fires false])) ∧
    ¬ KeptAlive (run Timed.next (.create 2 0) (allocated 15 15000 ++ [fires true])) := by
  constructor
  · intro h
    have hwaits := h.waits (by decide +kernel)
    revert hwaits
    decide +kernel
  · intro h
    have hattempted := h.attempted (15000, 15000) (by decide +kernel)
    revert hattempted
    decide

/-- A Refresh after a LIFETIME of 20 seconds. -/
theorem kept_alive_refreshed :
    KeptAlive (run Timed.next (.create 2 0) (allocated 20 15000 ++ [fires true])) := by
  refine kept_alive_when_sent 2 0 (allocated 20 15000 ++ [fires true]) ⟨trivial, ?_, trivial, ?_, ?_, trivial, ?_, trivial⟩
  · exact fun h => (nomatch h.1)
  · exact fun h => (nomatch h.1)
  · rintro lf relay hgrant -
    obtain rfl : 20 = lf := by
      have hval : granting _ .allocate (.success (some 20) (some ⟨2, 1, 50000⟩)) = some (lf, relay) := hgrant
      simp only [granting] at hval
      split at hval
      · exact (Prod.mk.inj (Option.some.inj hval)).1
      · cases hval
    exact ⟨by decide, by decide +kernel⟩
  · exact fun _ _ _ _ => ⟨rfl, rfl⟩

end PjProject.TurnSession
