import PjProject.TurnSessionLaw

/-!
# Which runs of a TURN session bring it to its end

For each function of the session the condition under which it leaves a stranded session,
as a condition on the state it starts from, then the same for a step, and last the runs
that keep the law.
-/
namespace PjProject.TurnSession
open Transition

section Stranded
variable {s : Sess}

@[simp] lemma not_stranded_suspend (f : Frame) : ¬ Stranded (s.suspend f) :=
  fun h => List.cons_ne_nil _ _ h.2.1

lemma stranded_setState (st : TurnState) : Stranded (s.setState st) ↔ Stranded s := by
  unfold Sess.setState
  split <;> exact Iff.rfl

lemma not_stranded_request {m : Method} (hm : m = .allocate ∨ m = .refresh) : ¬ Stranded (s.request m) := by
  rintro ⟨-, -, -, hw⟩
  apply hw
  rcases hm with rfl | rfl <;> simp [Sess.waits, Sess.request]

lemma Stranded.of_le {t : TimerId} {l : List Method}
    (h : Stranded { s with timer := t, sent := l }) (ht : s.timer = .destroy → t = .destroy)
    (hl : s.sent ⊆ l) : Stranded s := by
  refine ⟨h.1, h.2.1, h.2.2.1, fun hw => h.2.2.2 ?_⟩
  rcases hw with hd | hj | ha | hr
  · exact .inl (ht hd)
  · exact .inr (.inl hj)
  · exact .inr (.inr (.inl (hl ha)))
  · exact .inr (.inr (.inr (hl hr)))

variable (env : Env)

lemma not_stranded_sendOther (m : Method) (h0 : ¬ Stranded s) : ¬ Stranded (sendOther env m s) := by
  unfold sendOther
  split
  · exact fun h => h0 (Stranded.of_le h id (List.subset_cons_self _ _))
  · exact h0

lemma not_stranded_onTimerEvent (due : Due) (h0 : ¬ Stranded s) : ¬ Stranded (onTimerEvent env due s) := by
  unfold onTimerEvent
  split
  · exact h0
  · have hd : (doDestroy { s with timer := .none }).isDestroying = true := by
      unfold doDestroy
      split
      · assumption
      · rfl
    intro h
    rw [h.2.2.1] at hd
    contradiction
  · rename_i hk
    have hle : ∀ t l, s.sent ⊆ l → ¬ Stranded { s with timer := t, sent := l } :=
      fun t l hl h => h0 (h.of_le (by simp [hk]) hl)
    dsimp only
    split
    · exact hle _ _ (List.Subset.refl _)
    · simp only [refreshBindings, sendRefresh, Sess.request]
      split <;> split <;> (try split) <;> first
        | exact hle _ _ (List.Subset.refl _)
        | exact hle _ _ (List.subset_cons_self _ _)
        | exact hle _ _ (List.subset_append_right _ _)
        | exact hle _ _ (List.Subset.trans (List.subset_cons_self _ _) (List.subset_append_right _ _))

lemma stranded_sessShutdown : Stranded (sessShutdown env s) ↔ s.state.halting ∧ Stranded s := by
  unfold sessShutdown
  split
  case h_1 hs | h_2 hs | h_3 hs => simp [TurnState.halting, hs]
  case h_4 hs =>
    have hd : ¬ Stranded (scheduleDestroy s) := fun h => h.2.2.2 (.inl rfl)
    simp [TurnState.halting, hs, hd]
  case h_5 hs | h_6 hs =>
    simp only [TurnState.halting, hs]
    exact (and_iff_right (by simp)).symm
  case h_7 hs =>
    rw [sendRefreshZero, if_neg (by simp [hs])]
    split <;> simp [TurnState.halting, hs]
  case h_8 hs => simp [TurnState.halting, hs]

lemma not_stranded_setStateShutdown (st : TurnState) (hst : ¬ st.halting) :
    ¬ Stranded (setStateShutdown env st s) := by
  unfold setStateShutdown
  split
  · rename_i heq
    rw [stranded_sessShutdown, ← heq]
    exact fun h => hst h.1
  · exact not_stranded_suspend _

lemma stranded_onSessionFail (m : Method) : Stranded (onSessionFail env m s) ↔
      m = .allocate ∧ s.atLastServer = false ∧ Stranded s := by
  unfold onSessionFail
  split
  · rename_i hm
    simp only [not_stranded_setStateShutdown env .deallocated (by decide), false_iff]
    rintro ⟨rfl, hl, -⟩
    simp [hl] at hm
  · rename_i hm
    rw [stranded_setState]
    simp only [not_or, Decidable.not_not, Bool.not_eq_true] at hm
    exact ⟨fun h => ⟨hm.1, hm.2, h⟩, fun h => h.2.2⟩

lemma stranded_startKeepAlive (h : Inv s) : Stranded (startKeepAlive s) ↔ Stranded s := by
  have hw : ∀ t a, t ≠ TimerId.destroy → s.timer ≠ .destroy →
      (Stranded { s with timer := t, timerAssert := a } ↔ Stranded s) := by
    intro t a ht hs
    simp [Stranded, Sess.waits, ht, hs]
  unfold startKeepAlive
  dsimp only
  split
  · rename_i hk
    split
    · rw [stranded_setState]
      exact hw _ _ (by simp) (by simp [hk])
    · exact hw _ _ (by simp) (by simp [hk])
  · split
    · rename_i hlt
      rw [stranded_setState]
      refine hw _ _ (by simp) fun ht => ?_
      simp [h.timer ht, TurnState.rank] at hlt
    · exact Iff.rfl

lemma stranded_onAllocateSuccess (h : Inv s) (env : Env) (m : Method) (lf : Option ℕ) (relay : Option Addr) :
    Stranded (onAllocateSuccess env m lf relay s) ↔ (s.acceptsResult m (.success lf relay) = true ∨
        m = .allocate ∧ (Result.success lf relay).lifetimeZero = false ∧
          s.atLastServer = false) ∧ Stranded s := by
  unfold onAllocateSuccess
  split
  · rw [stranded_onSessionFail]
    simp [Sess.acceptsResult, Result.lifetimeZero, and_assoc]
  · simp only [not_stranded_setStateShutdown env .deallocated (by decide), false_iff]
    simp [Sess.acceptsResult, Result.lifetimeZero, Sess.accepts]
  · rename_i lf hne
    have hz : (Result.success (some lf) relay).lifetimeZero = false := by
      cases lf with
      | zero => exact absurd rfl hne
      | succ n => rfl
    split
    · rename_i hacc
      have h' : Inv { s with relayAddr := s.relayAddr <|> relay } :=
        ⟨h.timer, h.dead, h.told, h.asserted, h.sched⟩
      rw [stranded_startKeepAlive h']
      simp only [Sess.acceptsResult, hacc, true_or, true_and]
      exact Iff.rfl
    · rename_i hacc
      rw [stranded_onSessionFail]
      simp [Sess.acceptsResult, hacc, hz, and_assoc]

lemma stranded_stunOnRequestComplete (h : Inv s) (env : Env) (m : Method) (r : Result) :
    Stranded (stunOnRequestComplete env m r s) ↔ ¬ s.winds m r ∧ Stranded s := by
  unfold stunOnRequestComplete
  cases m with
  | allocate =>
    dsimp only
    split
    · rename_i hp
      rw [stranded_sessShutdown]
      have hst : ¬ (if r.isSuccess then TurnState.ready else .deallocated).halting := by
        split <;> decide
      simp only [hst, false_and, false_iff]
      simp [Sess.winds, hp]
    · rename_i hp
      split
      · rw [stranded_onAllocateSuccess h]
        simp only [Sess.winds, hp]
        cases s.acceptsResult .allocate _ <;> simp
      · rename_i hr
        rw [stranded_onSessionFail]
        cases r with
        | success lf relay => exact absurd rfl (hr lf relay)
        | refused | failed => simp [Sess.winds, hp, Sess.acceptsResult, Result.lifetimeZero]
  | refresh =>
    dsimp only
    split
    · rw [stranded_onAllocateSuccess h]
      simp [Sess.winds]
    · rename_i hr
      rw [stranded_onSessionFail]
      cases r with
      | success lf relay => exact absurd rfl (hr lf relay)
      | refused | failed => simp [Sess.winds, Sess.acceptsResult]
  | channelBind | createPerm =>
    dsimp only
    split
    · rename_i hm
      rw [stranded_onSessionFail]
      simp [Sess.winds, hm]
    · rename_i hm
      simp [Sess.winds, hm]

lemma pendingAlloc_eq (hp : s.pendingAlloc = true) : pjTurnSessionAlloc true none env s =
      if s.state = .resolving then (s, false) else if s.state = .resolved ∧ s.canCreate env = true then
        ((s.enter .allocating).suspend (.allocSend true), false) else (s, true) := by
  unfold pjTurnSessionAlloc
  split
  · rename_i hst
    rw [if_pos hst, ← hp]
    rfl
  · rename_i hst
    have hne : s.state ≠ .resolving := by simp [hst]
    rw [if_neg hne]
    by_cases hc : s.canCreate env = true
    · exact (if_pos hc).trans (if_pos ⟨hst, hc⟩).symm
    · exact (if_neg hc).trans (if_neg fun h => hc h.2).symm
  · rename_i h1 h2
    rw [if_neg h1, if_neg fun h => h2 h.1]

lemma stranded_runPending : Stranded (runPending env s) ↔ Stranded s ∧ s.drops env := by
  unfold runPending Sess.drops
  split
  · rename_i hp
    rw [pendingAlloc_eq env hp]
    by_cases h1 : s.state = .resolving
    · simp [h1]
    by_cases h2 : s.state = .resolved ∧ s.canCreate env = true
    · simp [h2, hp]
    · rw [if_neg h1, if_neg h2]
      simp only [stranded_onSessionFail, hp, h2, true_and, false_or]
      simp [h1, and_comm]
  · rename_i hp
    simp [hp]

lemma stranded_dnsSrvResolverCb (cnt : ℕ) : Stranded (dnsSrvResolverCb env (some cnt) s) ↔
      s.pendingDestroy = false ∧ s.state = .resolved ∧ Stranded s ∧
        { s with srvAddrCnt := cnt, srvAddr := some 0 }.drops env := by
  unfold dnsSrvResolverCb
  dsimp only
  split
  · rename_i hp
    simp [not_stranded_setStateShutdown env .destroying (by decide), hp]
  · rename_i hp
    split
    · rename_i hst
      rw [stranded_runPending]
      exact ⟨fun h => ⟨by simpa using hp, hst, h⟩, fun h => h.2.2⟩
    · rename_i hst
      simp [hst]

lemma stranded_resume (h0 : ¬ Stranded s) : Stranded (resume env s) ↔ Strands s (.ret, env) := by
  unfold resume Strands
  split
  · rename_i hstack
    simp [hstack, h0]
  · rename_i f rest hstack
    simp only [hstack]
    cases f with
    | srvResolve =>
      dsimp only [startResolve]
      split
      · rename_i hr
        simp [hr]
      · rename_i hr
        split
        · rename_i hres
          have hw : ¬ Stranded { s with stack := rest, jobs := s.jobs + 1 } :=
            fun h => h.2.2.2 (.inr (.inl (Nat.succ_ne_zero _)))
          simp only [hw, hres, false_iff]
          simpa using fun _ => hr
        · rename_i hres
          rw [stranded_setState]
          simp [hres]
    | getAddrInfo =>
      dsimp only [lookupServer]
      split
      · simp
      · split
        · simp
        · rw [stranded_setState, and_true]
          exact Iff.rfl
    | allocSend nested =>
      dsimp only [allocSend]
      split
      · rename_i hsend
        have hsend' : s.canSend env = true := hsend
        simp [not_stranded_request, hsend']
      · rename_i hsend
        have hsend' : s.canSend env = false := by simpa [Sess.canSend] using hsend
        split
        · rename_i hn
          rw [stranded_onSessionFail]
          simp only [true_and, hsend', hn, Bool.not_eq_true]
          exact and_comm
        · rename_i hn
          simp [hn, hsend']
    | refreshSend =>
      dsimp only [refreshSend]
      split
      · simp [not_stranded_request]
      · simp [not_stranded_setStateShutdown env .deallocated (by decide)]
    | sessShutdown =>
      dsimp only
      rw [stranded_sessShutdown]
      exact and_comm
    | schedule =>
      have hd : ¬ Stranded (scheduleDestroy { s with stack := rest }) :=
        fun h => h.2.2.2 (.inl rfl)
      simp [hd]
    | runPending => exact stranded_runPending env

lemma stranded_step (h : Inv s) (h0 : ¬ Stranded s) (e : Event × Env) :
    Stranded (step s e) ↔ Strands s e := by
  obtain ⟨e, env⟩ := e
  cases e with
  | setServer resolver port =>
    simp only [step, pjTurnSessionSetServer, Strands]
    split
    · simp [h0]
    · split
      · simp
      · split <;> simp [h0]
  | alloc param =>
    simp only [step, pjTurnSessionAlloc, Strands, iff_false]
    split
    · exact h0
    · split
      · exact not_stranded_suspend _
      · exact h0
    · exact h0
  | shutdown => exact stranded_sessShutdown env
  | destroy => exact iff_of_false (not_stranded_setStateShutdown env .deallocated (by decide)) id
  | setPerm => exact iff_of_false (not_stranded_sendOther env _ h0) id
  | bindChannel =>
    refine iff_of_false ?_ id
    simp only [step]
    split
    · exact not_stranded_sendOther env _ h0
    · exact h0
  | resolved r =>
    simp only [step]
    split
    · rename_i hj
      cases r <;> simp [Strands, h0, hj]
    · rename_i hj
      cases r with
      | none => exact iff_of_false (not_stranded_setStateShutdown env .destroying (by decide)) id
      | some cnt =>
        rw [stranded_dnsSrvResolverCb]
        exact ⟨fun h => ⟨hj, h⟩, fun h => h.2⟩
  | complete m r =>
    simp only [step]
    split
    · rename_i hm
      have h' : Inv { s with sent := s.sent.erase m } :=
        ⟨h.timer, h.dead, h.told, h.asserted, h.sched⟩
      rw [stranded_stunOnRequestComplete h']
      exact ⟨fun h => ⟨hm, h⟩, fun h => h.2⟩
    · rename_i hm
      simp [Strands, h0, hm]
  | timer due => exact iff_of_false (not_stranded_onTimerEvent env due h0) id
  | ret => exact stranded_resume env h0

end Stranded

/-- DESTROYING is left, reported again, or found with its timer where
`on_allocate_success` asserts otherwise. -/
def Broken (s' : Sess) : Prop :=
  s'.state ≠ .destroying ∨ 1 < s'.told.count .destroying ∨ s'.timerAssert = false

section Disturbed
variable {s : Sess} (hs : s.state = .destroying)
include hs

lemma broken_setStateShutdown (env : Env) : Broken (setStateShutdown env .deallocated s) := by
  refine .inl ?_
  rw [setStateShutdown, if_neg (by simp [hs])]
  simp [Sess.enter, Sess.suspend]

lemma broken_onSessionFail (env : Env) (m : Method) : Broken (onSessionFail env m s) := by
  unfold onSessionFail
  split
  · exact broken_setStateShutdown hs env
  · refine .inl ?_
    simp [Sess.setState, hs, Sess.enter]

lemma broken_onAllocateSuccess (env : Env) (m : Method) (lf : Option ℕ) (relay : Option Addr)
    (hh : s.acceptsResult m (.success lf relay) = true → s.timer = .destroy) :
    Broken (onAllocateSuccess env m lf relay s) := by
  unfold onAllocateSuccess
  split
  · exact broken_onSessionFail hs env m
  · exact broken_setStateShutdown hs env
  · split
    · rename_i hacc
      refine .inr (.inr ?_)
      simp [startKeepAlive, hh hacc, hs, TurnState.rank]
    · exact broken_onSessionFail hs env m

lemma broken_stunOnRequestComplete (h : Inv s) (env : Env) (m : Method) (r : Result)
    (hh : ¬ s.harmless m r) : Broken (stunOnRequestComplete env m r s) := by
  unfold stunOnRequestComplete
  cases m with
  | allocate =>
    dsimp only
    split
    · cases hr : r.isSuccess with
      | true =>
        left
        simp only [sessShutdown, sendRefreshZero, if_true]
        split
        · contradiction
        · split <;> simp [Sess.enter, Sess.suspend]
      | false =>
        -- The failed Allocate is reported as a second DESTROYING.
        right; left
        simp [sessShutdown, Sess.enter, Sess.suspend, h.told, hs]
    · rename_i hp
      split
      · refine broken_onAllocateSuccess hs env _ _ _ fun hacc => ?_
        by_contra ht
        exact hh ⟨by simpa using hp, hacc, ht⟩
      · exact broken_onSessionFail hs env _
  | refresh =>
    dsimp only
    split
    · refine broken_onAllocateSuccess hs env _ _ _ fun hacc => ?_
      by_contra ht
      exact hh ⟨hacc, ht⟩
    · exact broken_onSessionFail hs env _
  | channelBind | createPerm =>
    dsimp only
    rw [if_pos (by simpa [Sess.harmless] using hh)]
    exact broken_onSessionFail hs env _

end Disturbed

lemma broken_step {s : Sess} (h : Inv s) {e : Event × Env} (hd : Disturbs s e) :
    s.state = .destroying ∧ Broken (step s e) := by
  obtain ⟨e, env⟩ := e
  cases e with
  | destroy => exact ⟨hd, broken_setStateShutdown hd env⟩
  | resolved r =>
    cases r with
    | none => exact hd.elim
    | some cnt =>
      obtain ⟨hs, hj, hp⟩ := hd
      refine ⟨hs, .inl ?_⟩
      simp [step, hj, dnsSrvResolverCb, hp, hs, Sess.enter, Sess.suspend]
  | complete m r =>
    obtain ⟨hs, hm, hh⟩ := hd
    have h' : Inv { s with sent := s.sent.erase m } :=
      ⟨h.timer, h.dead, h.told, h.asserted, h.sched⟩
    have hs' : { s with sent := s.sent.erase m }.state = .destroying := hs
    refine ⟨hs, ?_⟩
    simp only [step, if_pos hm]
    exact broken_stunOnRequestComplete hs' h' env m r hh
  | ret =>
    obtain ⟨hs, hf⟩ := hd
    refine ⟨hs, ?_⟩
    simp only [step, resume]
    split
    · rename_i hstack
      simp [hstack] at hf
    · rename_i f rest hstack
      have hs' : { s with stack := rest }.state = .destroying := hs
      simp only [hstack] at hf
      split at hf
      · rename_i heq
        obtain ⟨rfl, -⟩ := List.cons_eq_cons.mp heq
        dsimp only [refreshSend]
        rw [if_neg (by simpa [Sess.canSend] using hf)]
        exact broken_setStateShutdown hs' env
      · rename_i heq
        obtain ⟨rfl, -⟩ := List.cons_eq_cons.mp heq
        dsimp only [allocSend]
        rw [if_neg (by simpa [Sess.canSend] using hf), if_pos rfl]
        exact broken_onSessionFail hs' env _
      · rename_i heq
        obtain ⟨rfl, -⟩ := List.cons_eq_cons.mp heq
        have hf' : { s with stack := rest }.pendingAlloc = true := hf
        dsimp only [runPending]
        rw [if_pos hf, pendingAlloc_eq env hf', if_neg (by simp [hs]), if_neg (by simp [hs])]
        exact broken_onSessionFail hs' env _
      · exact hf.elim
  | _ => exact hd.elim

/-- The law of a run: DESTROYING is final and reported once, the assertion on the timer
holds, and no session that was shut down is left with nothing to wait for. -/
structure LifecycleLaw (s : Sess) (es : List (Event × Env)) : Prop where
  final : ∀ pre e post, es = pre ++ e :: post → (run step s pre).state = .destroying →
    (run step s (pre ++ [e])).state = .destroying
  toldOnce : ∀ pre, pre <+: es → (run step s pre).told.count .destroying ≤ 1
  asserted : ∀ pre, pre <+: es → (run step s pre).timerAssert = true
  destroyed : ∀ pre, pre <+: es → ¬ Stranded (run step s pre)

variable {es : List (Event × Env)}

lemma LifecycleLaw.tail {s : Sess} {e : Event × Env}
    (h : LifecycleLaw s (e :: es)) : LifecycleLaw (step s e) es where
  final pre a post heq := h.final (e :: pre) a post (by rw [heq, List.cons_append])
  toldOnce pre hp := h.toldOnce (e :: pre) (List.cons_prefix_cons.mpr ⟨rfl, hp⟩)
  asserted pre hp := h.asserted (e :: pre) (List.cons_prefix_cons.mpr ⟨rfl, hp⟩)
  destroyed pre hp := h.destroyed (e :: pre) (List.cons_prefix_cons.mpr ⟨rfl, hp⟩)

lemma guarded_of_law {s : Sess} (h : Inv s) (hlaw : LifecycleLaw s es) : Guarded step Safe s es := by
  induction es generalizing s with
  | nil => exact trivial
  | cons e es ih =>
    have hone : [e] <+: e :: es := by simp
    have hd : ¬ Disturbs s e := by
      intro hd
      obtain ⟨hs, hb | hb | hb⟩ := broken_step h hd
      · exact hb (hlaw.final [] e es rfl hs)
      · exact absurd (hlaw.toldOnce [e] hone) (Nat.not_le.mpr hb)
      · exact absurd (hlaw.asserted [e] hone) (by simpa using hb)
    have hst : ¬ Strands s e := by
      rw [← stranded_step h (hlaw.destroyed [] List.nil_prefix) e]
      exact hlaw.destroyed [e] hone
    exact ⟨⟨hd, hst⟩, ih (h.step e hd).1 hlaw.tail⟩

def Sound (s : Sess) : Prop := Inv s ∧ ¬ Stranded s

lemma Sound.run {s : Sess} (h : Sound s) (hg : Guarded step Safe s es) : Sound (run step s es) := by
  refine hg.invariant ?_ h
  intro s e ⟨hi, hn⟩ ⟨hd, hst⟩
  exact ⟨(hi.step e hd).1, fun hs => hst ((stranded_step hi hn e).mp hs)⟩

lemma created_sound (af : ℕ) : Sound (pjTurnSessionCreate af) :=
  ⟨created_inv af, fun hs => by cases hs.1⟩

/-- A run of a TURN session keeps the law exactly when none of its steps hits the session in
DESTROYING and none strands it after a shutdown. -/
theorem lifecycleLaw_iff_safe (af : ℕ) (es : List (Event × Env)) : LifecycleLaw (pjTurnSessionCreate af) es ↔
      Guarded step Safe (pjTurnSessionCreate af) es := by
  refine ⟨guarded_of_law (created_inv af), fun hg => ?_⟩
  have hpre : ∀ pre, pre <+: es → Sound (run step (pjTurnSessionCreate af) pre) := by
    rintro pre ⟨post, rfl⟩
    exact (created_sound af).run hg.append.1
  refine ⟨?_, fun pre hp => ?_, fun pre hp => (hpre pre hp).1.asserted,
    fun pre hp => (hpre pre hp).2⟩
  · rintro pre e post rfl hs
    rw [run_append]
    have hp := hpre pre (List.prefix_append _ _)
    exact (hp.1.step e hg.append.2.1.1).2 hs
  · rw [(hpre pre hp).1.told]
    split <;> simp

def envOk : Env := ⟨true, true, true, some 1⟩

def lookupFails : List (Event × Env) :=
  [(.setServer false 3478, envOk), (.ret, { envOk with addrs := none }), (.shutdown, envOk)]

/-- The application destroys the session while it waits for the Allocate response, which
then says that the request failed. -/
def lateAllocate : List (Event × Env) :=
  [(.setServer false 3478, envOk), (.ret, envOk), (.alloc none, envOk), (.ret, envOk),
    (.destroy, envOk), (.ret, envOk), (.ret, envOk), (.complete .allocate (.refused (some 486)), envOk)]

def lateRefresh : List (Event × Env) :=
  [(.setServer false 3478, envOk), (.ret, envOk), (.alloc none, envOk), (.ret, envOk),
    (.complete .allocate (.success (some 600) (some ⟨2, 1, 50000⟩)), envOk),
    (.timer ⟨true, 0, false⟩, envOk), (.destroy, envOk), (.ret, envOk), (.ret, envOk),
    (.complete .refresh (.success (some 600) none), envOk)]

/-- The three runs break the law: the first session waits for nothing, the second leaves
DESTROYING, the third fails the assertion. -/
theorem sessions_not_ended : ¬ LifecycleLaw (pjTurnSessionCreate 2) lookupFails ∧
    ¬ LifecycleLaw (pjTurnSessionCreate 2) lateAllocate ∧
    ¬ LifecycleLaw (pjTurnSessionCreate 2) lateRefresh := by
  refine ⟨fun h => ?_, fun h => ?_, fun h => ?_⟩
  · exact h.destroyed lookupFails (List.prefix_refl _) (by decide)
  · have := h.final (lateAllocate.take 7) (.complete .allocate (.refused (some 486)), envOk) [] rfl
      (by decide)
    revert this
    decide
  · have := h.asserted lateRefresh (List.prefix_refl _)
    revert this
    decide

end PjProject.TurnSession
