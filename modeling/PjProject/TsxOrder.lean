import PjProject.TsxHandlers

/-!
# SIP transaction: the order of states

`Wf` is what holds of a transaction between two functions of the model, and `Le`
what none of them undoes. The state never goes back, a role stays within its own
states, and the TU hears of DESTROYED once and of nothing after it.
-/
namespace PjProject.Transaction
open Transition

def allowed : Role → State → Bool
  | .uac, .trying => false
  | .uac, .confirmed => false
  | .uas, .calling => false
  | _, _ => true

def ObsOk (role : Role) : Obs → Prop
  | .setState prev next => prev.rank ≤ next.rank ∧ allowed role next = true
  | .nullHandler => False
  | _ => True

def Obs.isNotification : Obs → Bool
  | .notify _ => true
  | .rxResponse => true
  | _ => false

def Obs.isTuCall : Obs → Bool
  | .call _ _ _ => true
  | .tuSend _ _ _ _ => true
  | _ => false

def TraceOk (role : Role) : List Obs → Prop
  | [] => True
  | o :: os =>
    ObsOk role o ∧ (o.isNotification = true → Obs.notify .destroyed ∉ os) ∧ TraceOk role os

lemma TraceOk.cons {role : Role} {o : Obs} {os : List Obs} (h : TraceOk role os)
    (ho : ObsOk role o) (hn : o.isNotification = false) : TraceOk role (o :: os) :=
  ⟨ho, by simp [hn], h⟩

def Obs.isPlain : Obs → Bool
  | .setState _ _ => false
  | .nullHandler => false
  | .notify _ => false
  | .rxResponse => false
  | _ => true

variable {o : Obs}

lemma obsOk_of_isPlain (h : o.isPlain = true) (role : Role) : ObsOk role o := by
  cases o <;> trivial

lemma isNotification_of_isPlain (h : o.isPlain = true) : o.isNotification = false := by
  cases o <;> first | rfl | simp [Obs.isPlain] at h

lemma isPlain_of_isTuCall (h : o.isTuCall = true) : o.isPlain = true := by
  cases o <;> first | rfl | simp [Obs.isTuCall] at h

variable {role : Role}

lemma TraceOk.append {l os : List Obs} (h : TraceOk role os)
    (hl : ∀ o ∈ l, o.isPlain = true) : TraceOk role (l ++ os) := by
  induction l with
  | nil => exact h
  | cons o l ih =>
    have ho := hl o (by simp)
    exact (ih fun x hx => hl x (by simp [hx])).cons (obsOk_of_isPlain ho role)
      (isNotification_of_isPlain ho)

lemma not_mem_of_isTuCall {l os : List Obs} {st : State} (hl : ∀ o ∈ l, o.isTuCall = true) :
    Obs.notify st ∈ l ++ os ↔ Obs.notify st ∈ os := by
  constructor
  · intro h
    rcases List.mem_append.1 h with h | h
    · simpa [Obs.isTuCall] using hl _ h
    · exact h
  · exact fun h => List.mem_append.2 (.inr h)

structure Core (w : World) : Prop where
  handler : w.tsx.stateHandler = tsxStateHandler w.tsx.role w.tsx.state
  allowed : allowed w.tsx.role w.tsx.state = true
  /-- a UAC has a transport only after it has resolved its server -/
  resolved : w.tsx.role = .uac → w.tsx.transport.isSome → w.tsx.flag.resolvedServer = true
  direct : w.tsx.role = .uac → ∀ o ∈ w.outstanding, o.kind = .direct →
    w.tsx.flag.resolvedServer = true
  destroy : w.tsx.flag.pendingDestroy = true → w.tsx.tsxUser = false ∧ w.tsx.state = .destroyed
  trace : TraceOk w.tsx.role w.trace
  last : Obs.notify .destroyed ∈ w.trace → w.tsx.state = .destroyed

structure Wf (w : World) : Prop extends Core w where
  /-- before it has resolved its server, a UAC puts a message off only while a
  transmission is pending -/
  pending : w.tsx.role = .uac → w.tsx.flag.pendingSend = true →
    w.tsx.flag.pendingTransport = true ∨ w.tsx.flag.resolvedServer = true ∨ 6 ≤ w.tsx.state.rank
  idle : w.tsx.state = .destroyed → w.tsx.flag.pendingSend = false

variable {w : World}

lemma Core.wf (h : Core w) (hp : w.tsx.flag.pendingSend = false) : Wf w :=
  { h with pending := by simp [hp], idle := fun _ => hp }

structure Le (w w' : World) : Prop where
  role : w'.tsx.role = w.tsx.role
  method : w'.tsx.method = w.tsx.method
  handle200resp : w'.tsx.handle200resp = w.tsx.handle200resp
  cfg : w'.cfg = w.cfg
  rank : w.tsx.state.rank ≤ w'.tsx.state.rank
  trace : w.trace <:+ w'.trace

lemma Le.refl (w : World) : Le w w := ⟨rfl, rfl, rfl, rfl, le_rfl, List.suffix_refl _⟩

lemma Le.trans {a b c : World} (h : Le a b) (h' : Le b c) : Le a c :=
  ⟨h'.role.trans h.role, h'.method.trans h.method, h'.handle200resp.trans h.handle200resp,
    h'.cfg.trans h.cfg, h.rank.trans h'.rank, h.trace.trans h'.trace⟩

/-- A function of the transaction took `w` to `w'`, other than to destroy it. -/
structure Sound (w w' : World) : Prop where
  wf : Wf w'
  le : Le w w'
  alive : w.tsx.state ≠ .destroyed → w'.tsx.state ≠ .destroyed

lemma Sound.refl (h : Wf w) : Sound w w := ⟨h, Le.refl w, id⟩

lemma Sound.trans {a b c : World} (h : Sound a b) (h' : Sound b c) : Sound a c :=
  ⟨h'.wf, h.le.trans h'.le, h'.alive ∘ h.alive⟩

def Quiet (w w' : World) : Prop :=
  ∃ l env, (∀ o ∈ l, o.isTuCall = true) ∧ w' = { w with env := env, trace := l ++ w.trace }

lemma Quiet.refl (w : World) : Quiet w w := ⟨[], w.env, by simp, by simp⟩

lemma Quiet.trans {a b c : World} (h : Quiet a b) (h' : Quiet b c) : Quiet a c := by
  obtain ⟨l, env, hl, rfl⟩ := h
  obtain ⟨l', env', hl', rfl⟩ := h'
  refine ⟨l' ++ l, env', ?_, by simp⟩
  intro o ho
  rcases List.mem_append.1 ho with ho | ho
  · exact hl' o ho
  · exact hl o ho

structure CbOk (cb : World → World) : Prop where
  sound : ∀ w, Wf w → Sound w (cb w)
  quiet : ∀ w, w.tsx.stateHandler = tsxStateHandler w.tsx.role w.tsx.state →
    6 ≤ w.tsx.state.rank → Quiet w (cb w)

variable {cb : World → World}

/-! ## State changes -/

lemma Wf.log (h : Wf w) (o : Obs) (ho : ObsOk w.tsx.role o)
    (hd : o.isNotification = true → w.tsx.state ≠ .destroyed) (hn : o ≠ .notify .destroyed) :
    Wf (w.log o) := by
  refine { h with trace := ⟨ho, fun hi hm => hd hi (h.last hm), h.trace⟩, last := ?_ }
  intro hm
  rcases List.mem_cons.1 hm with hm | hm
  · exact absurd hm.symm hn
  · exact h.last hm

lemma notifyUser_sound (hcb : CbOk cb) (h : Wf w) (o : Obs)
    (ho : ObsOk w.tsx.role o) (hd : w.tsx.state ≠ .destroyed) (hn : o ≠ .notify .destroyed) :
    Sound w (notifyUser cb o w) := by
  unfold notifyUser
  split_ifs
  · obtain ⟨hwf, hle, hal⟩ := hcb.sound _ (h.log o ho (fun _ => hd) hn)
    exact ⟨hwf, { hle with trace := (List.suffix_cons o w.trace).trans hle.trace }, hal⟩
  · exact Sound.refl h

lemma notifyTu_sound (hcb : CbOk cb) (src : EventSrc) (h : Wf w)
    (hd : w.tsx.state ≠ .destroyed) : Sound w (notifyTu cb src w) := by
  have h₁ : Sound w (if src.isRxResponse then notifyUser cb .rxResponse w else w) := by
    split_ifs
    · exact notifyUser_sound hcb h .rxResponse trivial hd (by simp)
    · exact Sound.refl h
  have hd₁ := h₁.alive hd
  exact h₁.trans (notifyUser_sound hcb h₁.wf _ trivial hd₁ (by simpa using hd₁))

structure Told (w w' : World) (l : List Obs) (env : Env) : Prop where
  eq : w' = { w with env := env, trace := l ++ w.trace }
  trace : TraceOk w.tsx.role (l ++ w.trace)
  kind : ∀ o ∈ l, o.isTuCall = true ∨ o.isNotification = true
  last : Obs.notify .destroyed ∈ l ++ w.trace →
    Obs.notify .destroyed ∈ w.trace ∨ w.tsx.state = .destroyed

lemma notifyUser_final (hcb : CbOk cb) (o : Obs)
    (hh : w.tsx.stateHandler = tsxStateHandler w.tsx.role w.tsx.state)
    (hr : 6 ≤ w.tsx.state.rank) (ht : TraceOk w.tsx.role w.trace)
    (hd : w.tsx.tsxUser = true → Obs.notify .destroyed ∉ w.trace)
    (ho : o = .rxResponse ∨ o = .notify w.tsx.state) :
    ∃ l env, Told w (notifyUser cb o w) l env ∧
      (o = .rxResponse → w.tsx.tsxUser = true → Obs.notify .destroyed ∉ l ++ w.trace) := by
  unfold notifyUser
  split_ifs with hu
  · have hd := hd hu
    obtain ⟨l, env, hl, hw⟩ := hcb.quiet (w.log o) (by simpa) (by simpa)
    have htr : TraceOk w.tsx.role (o :: w.trace) :=
      ⟨by rcases ho with rfl | rfl <;> trivial, fun _ => hd, ht⟩
    have hmem : Obs.notify .destroyed ∈ (l ++ [o]) ++ w.trace ↔ Obs.notify .destroyed = o := by
      rw [List.append_assoc, not_mem_of_isTuCall hl]
      simp [hd]
    refine ⟨l ++ [o], env, ⟨by simpa using hw, by simpa using htr.append fun o ho => isPlain_of_isTuCall (hl o ho), ?_, ?_⟩, ?_⟩
    · intro x hx
      rcases List.mem_append.1 hx with hx | hx
      · exact .inl (hl x hx)
      · rw [List.mem_singleton.1 hx]
        rcases ho with rfl | rfl <;> exact .inr rfl
    · rw [hmem]
      rcases ho with rfl | rfl
      · simp
      · intro h
        injection h with h
        exact .inr h.symm
    · rintro rfl -
      rw [hmem]
      simp
  · exact ⟨[], w.env, ⟨rfl, ht, by simp, .inl⟩, fun _ h => absurd h hu⟩

lemma notifyTu_final (hcb : CbOk cb) (src : EventSrc)
    (hh : w.tsx.stateHandler = tsxStateHandler w.tsx.role w.tsx.state)
    (hr : 6 ≤ w.tsx.state.rank) (ht : TraceOk w.tsx.role w.trace)
    (hd : w.tsx.tsxUser = true → Obs.notify .destroyed ∉ w.trace) :
    ∃ l env, Told w (notifyTu cb src w) l env := by
  unfold notifyTu
  split_ifs
  · obtain ⟨l, env, ⟨heq, htr, hk, hl⟩, hd'⟩ :=
      notifyUser_final hcb .rxResponse hh hr ht hd (.inl rfl)
    rw [heq]
    obtain ⟨l', env', ⟨heq', htr', hk', hl'⟩, -⟩ := notifyUser_final hcb (w := { w with
      env := env, trace := l ++ w.trace }) _ hh hr htr (hd' rfl) (.inr rfl)
    refine ⟨l' ++ l, env', ⟨by simpa using heq', by simpa using htr', ?_, ?_⟩⟩
    · intro o ho
      exact (List.mem_append.1 ho).elim (hk' o) (hk o)
    · intro h
      exact (hl' (by simpa using h)).elim hl .inr
  · obtain ⟨l, env, h, -⟩ := notifyUser_final hcb _ hh hr ht hd (.inr rfl)
    exact ⟨l, env, h⟩

lemma enterState_wf (h : Wf w) (st : State) (hst : st.rank < 6) (hr : w.tsx.state.rank ≤ st.rank)
    (ha : PjProject.Transaction.allowed w.tsx.role st = true) :
    Wf (enterState st (w.log (.setState w.tsx.state st))) := by
  have hwd : w.tsx.state ≠ .destroyed := State.rank_lt_seven.1 (by omega)
  have hsd : st ≠ .destroyed := State.rank_lt_seven.1 (by omega)
  exact { h with
    handler := rfl
    allowed := ha
    pending := fun hu hp => by
      rcases h.pending hu hp with h | h | h
      · exact .inl h
      · exact .inr (.inl h)
      · omega
    destroy := fun hd => absurd (h.destroy hd).2 hwd
    idle := fun hd => absurd hd hsd
    trace := h.trace.cons ⟨hr, ha⟩ rfl
    last := fun hm => absurd (h.last (by simpa using hm)) hwd }

lemma tsxSetState_eq_notifyTu (cb : World → World) (w : World) (st : State) (src : EventSrc)
    (hst : st.rank < 6) : tsxSetState cb st src .zero w =
      notifyTu cb src (enterState st (w.log (.setState w.tsx.state st))) := by
  cases st <;> first | rfl | simp at hst

lemma tsxSetState_sound (hcb : CbOk cb) (h : Wf w) (st : State) (src : EventSrc)
    (hst : st.rank < 6) (hr : w.tsx.state.rank ≤ st.rank)
    (ha : PjProject.Transaction.allowed w.tsx.role st = true) :
    Sound w (tsxSetState cb st src .zero w) ∧
      st.rank ≤ (tsxSetState cb st src .zero w).tsx.state.rank := by
  have hsd : st ≠ .destroyed := State.rank_lt_seven.1 (by omega)
  obtain ⟨hwf, hle, hal⟩ := notifyTu_sound hcb src (enterState_wf h st hst hr ha) hsd
  have hrk : st.rank ≤ (notifyTu cb src (enterState st
    (w.log (.setState w.tsx.state st)))).tsx.state.rank := hle.rank
  rw [tsxSetState_eq_notifyTu cb w st src hst]
  have htr : w.trace <:+ (notifyTu cb src (enterState st
    (w.log (.setState w.tsx.state st)))).trace :=
    (List.suffix_cons (Obs.setState w.tsx.state st) w.trace).trans hle.trace
  exact ⟨⟨hwf, ⟨hle.role, hle.method, hle.handle200resp, hle.cfg, hr.trans hrk, htr⟩,
    fun _ => hal hsd⟩, hrk⟩

lemma tsxSetState_terminated_eq (hcb : CbOk cb) (h : Core w) (src : EventSrc)
    (flag : SetStateFlag) (hr : w.tsx.state.rank ≤ 6) :
    ∃ l env, (∀ o ∈ l, o.isTuCall = true ∨ o.isNotification = true) ∧
      tsxSetState cb .terminated src flag w = onTerminated flag.noSchedule
        (enterState .terminated { w with
          env := env, trace := l ++ .setState w.tsx.state .terminated :: w.trace }) ∧
      TraceOk w.tsx.role (l ++ .setState w.tsx.state .terminated :: w.trace) ∧
      Obs.notify .destroyed ∉ l ++ .setState w.tsx.state .terminated :: w.trace := by
  have hn : Obs.notify .destroyed ∉ w.trace := by
    intro hm
    simp [h.last hm] at hr
  have ht : TraceOk w.tsx.role (.setState w.tsx.state .terminated :: w.trace) :=
    h.trace.cons ⟨hr, by cases w.tsx.role <;> rfl⟩ rfl
  cases hf : flag.noNotify with
  | true => exact ⟨[], w.env, by simp, by simp [tsxSetState, hf], ht, by simpa using hn⟩
  | false =>
    obtain ⟨l, env, heq, htr, hk, hl⟩ := notifyTu_final hcb src
      (w := enterState .terminated (w.log (.setState w.tsx.state .terminated))) rfl le_rfl ht
      (fun _ => by simpa using hn)
    refine ⟨l, env, hk, ?_, htr, ?_⟩
    · simp only [tsxSetState, hf, Bool.false_eq_true, if_false, heq]
      rfl
    · intro hm
      rcases hl hm with hm | hm
      · exact hn (by simpa using hm)
      · simp at hm

lemma onTerminated_eq (b : Bool) (w : World) :
    ∃ ptx att, onTerminated b w = { w with
      attached := att
      tsx := { w.tsx with
        pendingTx := ptx
        flag := { w.tsx.flag with pendingTransport := false }
        timeoutTimer := if b then none else some .timeout } } := by
  unfold onTerminated
  by_cases hp : w.tsx.flag.pendingTransport = true
  · cases hx : w.tsx.pendingTx <;> cases b <;> exact ⟨_, _, by simp [hp, hx]; exact ⟨rfl, rfl⟩⟩
  · have hf : { w.tsx.flag with pendingTransport := false } = w.tsx.flag := by
      cases hw : w.tsx.flag
      simp_all
    cases b <;> exact ⟨_, _, by simp [hp, hf]; exact ⟨rfl, rfl⟩⟩

lemma tsxSetState_terminated (hcb : CbOk cb) (h : Core w) (src : EventSrc)
    (flag : SetStateFlag) (hr : w.tsx.state.rank ≤ 6) :
    Sound w (tsxSetState cb .terminated src flag w) ∧
      (tsxSetState cb .terminated src flag w).tsx.state = .terminated ∧
      (tsxSetState cb .terminated src flag w).tsx.transportErr = w.tsx.transportErr ∧
      (tsxSetState cb .terminated src flag w).tsx.flag.pendingSend = w.tsx.flag.pendingSend := by
  obtain ⟨l, env, -, heq, ht, hn⟩ := tsxSetState_terminated_eq hcb h src flag hr
  rw [heq]
  obtain ⟨ptx, att, heq'⟩ := onTerminated_eq flag.noSchedule (enterState .terminated { w with
          env := env, trace := l ++ .setState w.tsx.state .terminated :: w.trace })
  rw [heq']
  refine ⟨⟨?_, ⟨rfl, rfl, rfl, rfl, hr, ⟨l ++ [.setState w.tsx.state .terminated], by simp⟩⟩,
    by simp⟩, rfl, rfl, rfl⟩
  exact {
    handler := rfl
    allowed := by cases hro : w.tsx.role <;> simp [hro, PjProject.Transaction.allowed]
    resolved := h.resolved
    direct := h.direct
    pending := fun _ _ => .inr (.inr le_rfl)
    destroy := fun hd => by simp [(h.destroy hd).2] at hr
    idle := by simp
    trace := ht
    last := fun hm => absurd hm hn }

lemma tsxSetState_destroyed (hcb : CbOk cb) (h : Core w) (src : EventSrc)
    (hu : w.tsx.state = .destroyed → w.tsx.tsxUser = false) :
    Wf (tsxSetState cb .destroyed src .zero w) ∧ Le w (tsxSetState cb .destroyed src .zero w) ∧
      (tsxSetState cb .destroyed src .zero w).tsx.state = .destroyed ∧
      (tsxSetState cb .destroyed src .zero w).tsx.transportErr = w.tsx.transportErr ∧
      (tsxSetState cb .destroyed src .zero w).tsx.flag.pendingSend = false := by
  have hrk : w.tsx.state.rank ≤ 7 := by cases w.tsx.state <;> simp
  have ht : TraceOk w.tsx.role (.setState w.tsx.state .destroyed :: w.trace) :=
    h.trace.cons ⟨hrk, by cases w.tsx.role <;> rfl⟩ rfl
  obtain ⟨l, env, heq, htr, -, -⟩ := notifyTu_final hcb src
    (w := enterState .destroyed (w.log (.setState w.tsx.state .destroyed))) rfl (by simp) ht
    (by
      intro huser hm
      have hd := h.last (by simpa using hm)
      simp [hu hd] at huser)
  have heq' : tsxSetState cb .destroyed src .zero w = tsxShutdown (enterState .destroyed { w with
      env := env, trace := l ++ .setState w.tsx.state .destroyed :: w.trace }) := by
    simp only [tsxSetState, SetStateFlag.zero, Bool.false_eq_true, if_false, heq]
    rfl
  rw [heq']
  have hw : ∃ user pd, (pd = true → user = false) ∧
      tsxShutdown (enterState .destroyed { w with
        env := env, trace := l ++ .setState w.tsx.state .destroyed :: w.trace }) =
      { w with
        env := env
        trace := l ++ .setState w.tsx.state .destroyed :: w.trace
        tsx := { w.tsx with
          state := .destroyed
          stateHandler := tsxStateHandler w.tsx.role .destroyed
          transport := none
          lastTx := none
          timeoutTimer := none
          retransmitTimer := false
          flag := { w.tsx.flag with
            pendingResched := false, pendingSend := false, pendingDestroy := pd }
          tsxUser := user
          terminating := true } } := by
    by_cases hp : w.tsx.flag.pendingTransport = true
    · exact ⟨false, true, by simp, by simp [tsxShutdown, tsxUpdateTransport, hp]⟩
    · refine ⟨w.tsx.tsxUser, w.tsx.flag.pendingDestroy, fun hd => (h.destroy hd).1, ?_⟩
      simp [tsxShutdown, tsxUpdateTransport, hp]
  obtain ⟨user, pd, hpd, hw⟩ := hw
  rw [hw]
  refine ⟨?_, ⟨rfl, rfl, rfl, rfl, hrk, ⟨l ++ [.setState w.tsx.state .destroyed], by simp⟩⟩,
    rfl, rfl, rfl⟩
  exact {
    handler := rfl
    allowed := by cases w.tsx.role <;> simp [PjProject.Transaction.allowed]
    resolved := by simp
    direct := h.direct
    pending := by simp
    destroy := fun hd => ⟨hpd hd, rfl⟩
    idle := by simp
    trace := htr
    last := fun _ => rfl }

/-! ## Transmission -/

/-- A transmission ended: the state is as before, or a failure terminated the
transaction. A UAS records the failure. -/
structure Sent (w w' : World) : Prop extends Sound w w' where
  state : w'.tsx.state = w.tsx.state ∨
    w'.tsx.state = .terminated ∧ (w.tsx.role = .uac ∨ w'.tsx.transportErr.isSome)
  err : w.tsx.transportErr.isSome → w'.tsx.transportErr.isSome

lemma Sent.refl (h : Wf w) : Sent w w := ⟨Sound.refl h, .inl rfl, id⟩

lemma Sent.trans {a b c : World} (h : Sent a b) (h' : Sent b c) : Sent a c := by
  refine ⟨h.toSound.trans h'.toSound, ?_, h'.err ∘ h.err⟩
  rcases h'.state with hs | ⟨hs, hu⟩
  · rcases h.state with hs' | ⟨hs', hu'⟩
    · exact .inl (hs.trans hs')
    · exact .inr ⟨hs.trans hs', hu'.imp id h'.err⟩
  · rw [h.le.role] at hu
    exact .inr ⟨hs, hu⟩

/-- `t'` is `t` with some plain entries more. -/
def Extends (t t' : List Obs) : Prop := ∃ l, (∀ o ∈ l, o.isPlain = true) ∧ t' = l ++ t

@[simp] lemma Extends.refl (t : List Obs) : Extends t t := ⟨[], by simp, rfl⟩

lemma Extends.cons {t t' : List Obs} {o : Obs} (h : Extends t t') (ho : o.isPlain = true) :
    Extends t (o :: t') := by
  obtain ⟨l, hl, rfl⟩ := h
  exact ⟨o :: l, by simpa [ho] using hl, rfl⟩

lemma Extends.trans {a b c : List Obs} (h : Extends a b) (h' : Extends b c) :
    Extends a c := by
  obtain ⟨l, hl, rfl⟩ := h
  obtain ⟨l', hl', rfl⟩ := h'
  exact ⟨l' ++ l, fun o ho => (List.mem_append.1 ho).elim (hl' o) (hl o), by simp⟩

lemma Extends.suffix {t t' : List Obs} (h : Extends t t') : t <:+ t' := by
  obtain ⟨l, -, rfl⟩ := h
  exact List.suffix_append l t

/-- Nothing that `Wf` speaks of has changed. -/
structure Frame (w w' : World) : Prop where
  role : w'.tsx.role = w.tsx.role
  method : w'.tsx.method = w.tsx.method
  handle200resp : w'.tsx.handle200resp = w.tsx.handle200resp
  cfg : w'.cfg = w.cfg
  state : w'.tsx.state = w.tsx.state
  stateHandler : w'.tsx.stateHandler = w.tsx.stateHandler
  transport : w'.tsx.transport = w.tsx.transport
  transportErr : w'.tsx.transportErr = w.tsx.transportErr
  tsxUser : w'.tsx.tsxUser = w.tsx.tsxUser
  pendingTransport : w'.tsx.flag.pendingTransport = w.tsx.flag.pendingTransport
  pendingSend : w'.tsx.flag.pendingSend = w.tsx.flag.pendingSend
  pendingDestroy : w'.tsx.flag.pendingDestroy = w.tsx.flag.pendingDestroy
  resolvedServer : w'.tsx.flag.resolvedServer = w.tsx.flag.resolvedServer
  outstanding : ∀ o ∈ w'.outstanding, o.kind = .direct → o ∈ w.outstanding
  trace : Extends w.trace w'.trace

variable {w' : World}

lemma Frame.core (f : Frame w w') (h : Core w) : Core w' := by
  obtain ⟨l, hl, ht⟩ := f.trace
  exact {
    handler := by rw [f.stateHandler, f.role, f.state, h.handler]
    allowed := by rw [f.role, f.state, h.allowed]
    resolved := by rw [f.role, f.transport, f.resolvedServer]; exact h.resolved
    direct := by
      rw [f.role, f.resolvedServer]
      exact fun hu o ho hk => h.direct hu o (f.outstanding o ho hk) hk
    destroy := by rw [f.pendingDestroy, f.tsxUser, f.state]; exact h.destroy
    trace := by rw [f.role, ht]; exact h.trace.append hl
    last := by
      intro hm
      rw [ht] at hm
      rw [f.state]
      rcases List.mem_append.1 hm with hm | hm
      · simpa [Obs.isPlain] using hl _ hm
      · exact h.last hm }

lemma Frame.le (f : Frame w w') : Le w w' :=
  ⟨f.role, f.method, f.handle200resp, f.cfg, by rw [f.state], f.trace.suffix⟩

lemma Frame.sent (f : Frame w w') (h : Wf w) : Sent w w' where
  wf := { f.core h.toCore with
    pending := by
      rw [f.role, f.pendingSend, f.pendingTransport, f.resolvedServer, f.state]
      exact h.pending
    idle := by rw [f.state, f.pendingSend]; exact h.idle }
  le := f.le
  alive := by rw [f.state]; exact id
  state := .inl f.state
  err := by rw [f.transportErr]; exact id

lemma Frame.sound (f : Frame w w') (h : Wf w) : Sound w w' := (f.sent h).toSound

lemma Frame.trans {a b c : World} (f : Frame a b) (g : Frame b c) : Frame a c where
  role := g.role.trans f.role
  method := g.method.trans f.method
  handle200resp := g.handle200resp.trans f.handle200resp
  cfg := g.cfg.trans f.cfg
  state := g.state.trans f.state
  stateHandler := g.stateHandler.trans f.stateHandler
  transport := g.transport.trans f.transport
  transportErr := g.transportErr.trans f.transportErr
  tsxUser := g.tsxUser.trans f.tsxUser
  pendingTransport := g.pendingTransport.trans f.pendingTransport
  pendingSend := g.pendingSend.trans f.pendingSend
  pendingDestroy := g.pendingDestroy.trans f.pendingDestroy
  resolvedServer := g.resolvedServer.trans f.resolvedServer
  outstanding := fun o ho hk => f.outstanding o (g.outstanding o ho hk) hk
  trace := f.trace.trans g.trace

variable {w₁ : World}

lemma Frame.ite {w₂ : World} {c : Prop} [Decidable c] (f : Frame w w₁) (g : Frame w w₂) :
    Frame w (if c then w₁ else w₂) := by
  split_ifs
  · exact f
  · exact g

lemma Frame.refl (w : World) : Frame w w := by
  constructor <;> first | rfl | exact fun _ h _ => h | exact Extends.refl _

lemma setLastTx_frame (tx : Option TxData) (w : World) : Frame w (setLastTx tx w) := by
  constructor <;> first | rfl | exact fun _ h _ => h | exact Extends.refl _

lemma tsxSetStatusCode_frame (code : ℕ) (w : World) : Frame w (tsxSetStatusCode code w) := by
  constructor <;> first | rfl | exact fun _ h _ => h | exact Extends.refl _

lemma restartTimeout_frame (id : TimerId) (w : World) : Frame w (restartTimeout id w) := by
  constructor <;> first | rfl | exact fun _ h _ => h | exact Extends.refl _

lemma scheduleTimeout_frame (id : TimerId) (w : World) : Frame w (scheduleTimeout id w) := by
  constructor <;> first | rfl | exact fun _ h _ => h | exact Extends.refl _

lemma cancelTimeout_frame (w : World) : Frame w (cancelTimeout w) := by
  constructor <;> first | rfl | exact fun _ h _ => h | exact Extends.refl _

lemma cancelRetransmit_frame (w : World) : Frame w (cancelRetransmit w) := by
  constructor <;> first | rfl | exact fun _ h _ => h | exact Extends.refl _

lemma env_frame (env : Env) (w : World) : Frame w { w with env := env } := by
  constructor <;> first | rfl | exact fun _ h _ => h | exact Extends.refl _

lemma setPendingResched_frame (b : Bool) (w : World) : Frame w (setPendingResched b w) := by
  constructor <;> first | rfl | exact fun _ h _ => h | exact Extends.refl _

lemma reschedIfPending_frame (w : World) : Frame w (reschedIfPending w) := by
  unfold reschedIfPending tsxReschedRetransmission
  dsimp only
  split_ifs <;> constructor <;> first | rfl | exact fun _ h _ => h | exact (Extends.refl _).cons rfl | simp

/-- What `resend` is used for: it transmits `last_tx`. -/
def Resends (resend : World → World) : Prop :=
  ∀ w, Wf w → w.tsx.state ≠ .destroyed → Sent w (resend w)

lemma setPendingSend_core (h : Core w) (b : Bool) : Core (setPendingSend b w) :=
  { h with }

variable {resend : World → World}

lemma afterSent_sent (hcb : CbOk cb) (hrs : Resends resend) (h : Core w)
    (hi : w.tsx.state = .destroyed → w.tsx.flag.pendingSend = false) :
    Sent w (afterSent cb resend w) ∧
      (w.tsx.flag.pendingSend = false → (afterSent cb resend w).tsx.state = w.tsx.state) := by
  unfold afterSent
  split_ifs with hd hs
  · have hds := (h.destroy hd).2
    obtain ⟨hwf, hle, hst, herr, -⟩ :=
      tsxSetState_destroyed hcb h .unknown (fun _ => (h.destroy hd).1)
    exact ⟨⟨⟨hwf, hle, fun hn => absurd hds hn⟩, .inl (hst.trans hds.symm), fun he => herr ▸ he⟩,
      fun _ => hst.trans hds.symm⟩
  · have hn : w.tsx.state ≠ .destroyed := fun hn => by simp [hi hn] at hs
    have h₁ : Wf (setPendingSend false w) := (setPendingSend_core h false).wf rfl
    have h₂ := hrs _ h₁ hn
    have h₃ := h₂.trans ((reschedIfPending_frame _).sent h₂.wf)
    exact ⟨⟨⟨h₃.wf, { h₃.le with }, h₃.alive⟩, h₃.state, h₃.err⟩, fun hp => by simp [hp] at hs⟩
  · have hp : w.tsx.flag.pendingSend = false := by simpa using hs
    have f := reschedIfPending_frame w
    exact ⟨f.sent (h.wf hp), fun _ => f.state⟩

lemma giveUp_sound (h : Wf w)
    (hr : w.tsx.role = .uac → w.tsx.flag.resolvedServer = true) (e : Option SendErr) :
    Sound w (setTransportErr e (setPendingTransport false w)) :=
  ⟨{ h with pending := fun hu _ => .inr (.inl (hr hu)) }, ⟨rfl, rfl, rfl, rfl, le_rfl, List.suffix_refl _⟩, id⟩

lemma tpStateDisconnected_sound (h : Wf w)
    (hr : w.tsx.role = .uac → w.tsx.flag.resolvedServer = true) (e : Option SendErr) :
    Sound w (tpStateDisconnected e w) := by
  have h₁ := giveUp_sound h hr e
  exact h₁.trans ((Frame.ite (restartTimeout_frame _ _) (.refl _)).sound h₁.wf)

lemma tsxUpdateTransport_none_wf (h : Wf w) : Wf (tsxUpdateTransport none w) :=
  { h with resolved := by simp [tsxUpdateTransport] }

lemma adoptTransport_eq (tp : Transport) (w : World) :
    ∃ pt err tm, (w.tsx.transportErr.isSome → err.isSome) ∧
      (pt = true → w.tsx.flag.pendingTransport = true) ∧
      (w.tsx.timeoutTimer.isSome → tm.isSome) ∧
      (4 ≤ w.tsx.state.rank → tm = w.tsx.timeoutTimer) ∧
      adoptTransport tp w = { w with tsx := { w.tsx with
        transport := some tp
        isReliable := tp.reliable
        transportErr := err
        timeoutTimer := tm
        flag := { w.tsx.flag with pendingTransport := pt } } } := by
  unfold adoptTransport tsxUpdateTransport tpStateDisconnected
  dsimp only
  split_ifs with hs hr
  · refine ⟨false, some .other, some .transportDisc, by simp, by simp, by simp, ?_, by simp⟩
    intro h
    simp at hr
    omega
  · exact ⟨false, some .other, w.tsx.timeoutTimer, by simp, by simp, id, by simp, rfl⟩
  · exact ⟨w.tsx.flag.pendingTransport, w.tsx.transportErr, w.tsx.timeoutTimer, id, id, id,
      by simp, rfl⟩

lemma sendMsgAdopt_spec (ours : Bool) (tp : Transport) (h : Core w) :
    Core (sendMsgAdopt ours tp w) ∧ Le w (sendMsgAdopt ours tp w) ∧
      (sendMsgAdopt ours tp w).tsx.state = w.tsx.state ∧
      (sendMsgAdopt ours tp w).tsx.flag.pendingSend = w.tsx.flag.pendingSend ∧
      (w.tsx.transportErr.isSome → (sendMsgAdopt ours tp w).tsx.transportErr.isSome) := by
  obtain ⟨pt, err, tm, herr, -, -, -, heq⟩ := adoptTransport_eq tp w
  unfold sendMsgAdopt
  rw [heq]
  cases ours with
  | false => exact ⟨{ h with }, ⟨rfl, rfl, rfl, rfl, le_rfl, List.suffix_refl _⟩, rfl, rfl, id⟩
  | true =>
    by_cases hid : w.tsx.transport.map (·.id) = some tp.id
    · simp only [hid, ne_eq, not_true, decide_false, Bool.and_false, Bool.false_eq_true, if_false,
        if_true]
      exact ⟨{ h with resolved := fun _ _ => rfl, direct := fun _ _ _ _ => rfl }, ⟨rfl, rfl, rfl, rfl, le_rfl, List.suffix_refl _⟩, rfl, rfl, id⟩
    · simp only [hid, ne_eq, not_false_iff, decide_true, Bool.and_true, if_true]
      exact ⟨{ h with resolved := fun _ _ => rfl, direct := fun _ _ _ _ => rfl }, ⟨rfl, rfl, rfl, rfl, le_rfl, List.suffix_refl _⟩, rfl, rfl, herr⟩

lemma sendMsgFailed_sent (hcb : CbOk cb) (ours : Bool) (e : SendErr)
    (h : Core w) (hi : w.tsx.state = .destroyed → w.tsx.flag.pendingSend = false) :
    Sent w (sendMsgFailed cb ours e w) ∧
      (sendMsgFailed cb ours e w).tsx.transportErr.isSome ∧
      ((sendMsgFailed cb ours e w).tsx.flag.pendingSend = true → w.tsx.flag.pendingSend = true) := by
  obtain ⟨w₁, hw₁, hc₁, hl₁, hs₁, hp₁, hpt, he₁⟩ : ∃ w₁, sendMsgMark ours e w = w₁ ∧ Core w₁ ∧
      Le w w₁ ∧ w₁.tsx.state = w.tsx.state ∧
      w₁.tsx.flag.pendingSend = w.tsx.flag.pendingSend ∧
      w₁.tsx.flag.pendingTransport = false ∧ w₁.tsx.transportErr = some e := by
    cases ours
    · exact ⟨_, rfl, { h with }, ⟨rfl, rfl, rfl, rfl, le_rfl, List.suffix_refl _⟩, rfl, rfl, rfl, rfl⟩
    · exact ⟨_, rfl, { h with resolved := fun _ _ => rfl, direct := fun _ _ _ _ => rfl }, ⟨rfl, rfl, rfl, rfl, le_rfl, List.suffix_refl _⟩, rfl, rfl, rfl, rfl⟩
  unfold sendMsgFailed
  rw [hw₁]
  dsimp only
  have hw : ∀ w₂, Sent w₁ w₂ → Sent w w₂ := fun w₂ h₂ =>
    ⟨⟨h₂.wf, hl₁.trans h₂.le, fun hn => h₂.alive (hs₁ ▸ hn)⟩,
      by rw [← hs₁, ← hl₁.role]; exact h₂.state, fun _ => h₂.err (by simp [he₁])⟩
  split_ifs with hterm hdes hres
  · have hr : w₁.tsx.state.rank ≤ 6 := by
      have : w₁.tsx.state.rank < 7 := State.rank_lt_seven.2 fun hd => hterm.2 (.inr hd)
      omega
    obtain ⟨hsd, hst, herr, hps⟩ := tsxSetState_terminated hcb
      (w := tsxSetStatusCode e.statusCode w₁) { hc₁ with } .transportError .zero hr
    have herr' := Option.isSome_iff_exists.2 ⟨e, herr.trans he₁⟩
    refine ⟨hw _ ⟨⟨hsd.wf, { hsd.le with }, hsd.alive⟩, .inr ⟨hst, .inr herr'⟩, fun _ => herr'⟩,
      herr', fun hp => ?_⟩
    rw [← hp₁]
    exact hps.symm.trans hp
  · have hd := hc₁.destroy hdes
    obtain ⟨hwf, hle, hst, herr, hps⟩ := tsxSetState_destroyed hcb
      (w := tsxSetStatusCode e.statusCode w₁) { hc₁ with } .transportError (fun _ => hd.1)
    have herr' := Option.isSome_iff_exists.2 ⟨e, herr.trans he₁⟩
    refine ⟨hw _ ⟨⟨hwf, { hle with }, fun hn => absurd hd.2 hn⟩, .inl (hst.trans hd.2.symm),
      fun _ => herr'⟩, herr', fun hp => ?_⟩
    exact absurd (hps.symm.trans hp) (by simp)
  · have f : Frame w₁ (tsxReschedRetransmission (setPendingResched false w₁)) := by
      unfold tsxReschedRetransmission
      dsimp only
      split_ifs <;> constructor <;> first | rfl | exact fun _ h _ => h | exact (Extends.refl _).cons rfl
    have hwf : Wf w₁ := { hc₁ with
      pending := by simp [hres.1]
      idle := fun hd => absurd (.inr hd) hres.2.2 }
    refine ⟨hw _ (f.sent hwf), ?_, ?_⟩
    · rw [f.transportErr, he₁]
      rfl
    · rw [f.pendingSend, hp₁]
      exact id
  · have hwf : Wf w₁ := { hc₁ with
      pending := fun hu _ => by
        have hf : w₁.tsx.state = .terminated ∨ w₁.tsx.state = .destroyed := by
          by_contra hf
          exact hterm ⟨.inl hu, hf⟩
        rcases hf with hf | hf <;> simp [hf]
      idle := fun hd => by rw [hp₁]; exact hi (hs₁ ▸ hd) }
    refine ⟨hw _ (Sent.refl hwf), ?_, ?_⟩
    · rw [he₁]
      rfl
    · rw [hp₁]
      exact id

variable (tx : TxData)

lemma attach_frame (w : World) : Frame w (attach tx w) := by
  constructor <;> first | rfl | exact fun _ h _ => h | exact Extends.refl _

variable (n : ℕ)

lemma setRetransmitCount_frame (w : World) : Frame w (setRetransmitCount n w) := by
  constructor <;> first | rfl | exact fun _ h _ => h | exact Extends.refl _

lemma sendMsgRetry_frame (w : World) : Frame w (sendMsgRetry tx w) :=
  ((setRetransmitCount_frame _ _).trans (.ite (restartTimeout_frame _ _) (.refl _))).trans
    (attach_frame tx _)

lemma releaseTx_frame (ours : Bool) (w : World) :
    Frame w (releaseTx tx ours w) := by
  unfold releaseTx
  split_ifs <;> constructor <;> first | rfl | exact fun _ h _ => h | exact Extends.refl _

lemma dropTransport_sent (tp : Option Transport) (h : Wf w) :
    Sent w (dropTransport tp w) ∧
      (dropTransport tp w).tsx.flag.pendingSend = w.tsx.flag.pendingSend ∧
      (dropTransport tp w).tsx.state = w.tsx.state := by
  unfold dropTransport
  split_ifs
  · exact ⟨⟨⟨tsxUpdateTransport_none_wf h, ⟨rfl, rfl, rfl, rfl, le_rfl, List.suffix_refl _⟩, id⟩, .inl rfl, id⟩,
      rfl, rfl⟩
  · exact ⟨Sent.refl h, rfl, rfl⟩

lemma sendMsgSent_sent (hcb : CbOk cb) (hrs : Resends resend) (ours : Bool) (tp : Transport) (h : Wf w) :
    Sent w (sendMsgSent cb resend ours tp w) ∧
      (w.tsx.flag.pendingSend = false →
        (sendMsgSent cb resend ours tp w).tsx.state = w.tsx.state) := by
  obtain ⟨hc, hle, hst, hps, herr⟩ := sendMsgAdopt_spec ours tp h.toCore
  obtain ⟨h₁, hsame⟩ := afterSent_sent hcb hrs hc (by rw [hst, hps]; exact h.idle)
  refine ⟨⟨⟨h₁.wf, hle.trans h₁.le, fun hn => h₁.alive (hst.symm ▸ hn)⟩, ?_,
    fun he => h₁.err (herr he)⟩, fun hp => (hsame (hps.trans hp)).trans hst⟩
  rw [← hst, ← hle.role]
  exact h₁.state

lemma sendMsgCallback_sent (hcb : CbOk cb) (hrs : Resends resend) (tx : TxData) (ours : Bool)
    (res : CbResult) (cont : Bool) (h : Wf w) :
    Sent w (sendMsgCallback cb resend tx ours res cont w).1 ∧
      (w.tsx.flag.pendingSend = false →
        (sendMsgCallback cb resend tx ours res cont w).1.tsx.state = w.tsx.state ∨
        (sendMsgCallback cb resend tx ours res cont w).1.tsx.transportErr.isSome) := by
  have f := releaseTx_frame tx ours w
  have h₁ := f.sent h
  unfold sendMsgCallback
  split_ifs
  · exact ⟨Sent.refl h, fun _ => .inl rfl⟩
  cases res with
  | sent tp =>
    obtain ⟨h₂, hsame⟩ := sendMsgSent_sent hcb hrs ours tp h₁.wf
    exact ⟨h₁.trans h₂, fun hp => .inl ((hsame (f.pendingSend.trans hp)).trans f.state)⟩
  | failed e tp =>
    obtain ⟨h₂, hps, hst⟩ := dropTransport_sent tp h₁.wf
    dsimp only
    split_ifs
    · obtain ⟨h₃, herr, -⟩ := sendMsgFailed_sent hcb ours e h₂.wf.toCore h₂.wf.idle
      exact ⟨(h₁.trans h₂).trans h₃, fun _ => .inr herr⟩
    · have g := sendMsgRetry_frame tx (dropTransport tp (releaseTx tx ours w))
      exact ⟨(h₁.trans h₂).trans (g.sent h₂.wf), fun _ => .inl (g.state.trans (hst.trans f.state))⟩

lemma sendMsgCallback_failed_pendingSend (hcb : CbOk cb) (resend : World → World)
    (tx : TxData) (ours : Bool) (e : SendErr) (tp : Option Transport) (cont : Bool) (h : Wf w)
    (hp : w.tsx.flag.pendingSend = false) :
    (sendMsgCallback cb resend tx ours (.failed e tp) cont w).1.tsx.flag.pendingSend = false := by
  have f := releaseTx_frame tx ours w
  obtain ⟨h₂, hps, -⟩ := dropTransport_sent tp (f.sent h).wf
  have hps' := hps.trans (f.pendingSend.trans hp)
  unfold sendMsgCallback
  dsimp only
  split_ifs
  · exact hp
  · obtain ⟨-, -, hf⟩ := sendMsgFailed_sent hcb ours e h₂.wf.toCore h₂.wf.idle
    by_contra hne
    simp [hf (by simpa using hne)] at hps'
  · exact (sendMsgRetry_frame tx _).pendingSend.trans hps'

lemma runEndpt_sent (hcb : CbOk cb) (hrs : Resends resend) (tx : TxData) (ours : Bool)
    (attempts : List (SendErr × Option Transport)) (last : EndptLast) (h : Wf w) :
    Sent w (runEndpt cb resend tx ours attempts last w) ∧
      (w.tsx.flag.pendingSend = false →
        (runEndpt cb resend tx ours attempts last w).tsx.state = w.tsx.state ∨
        (runEndpt cb resend tx ours attempts last w).tsx.transportErr.isSome) := by
  induction attempts generalizing w with
  | nil =>
    cases last with
    | pending b =>
      refine ⟨Frame.sent ?_ h, fun _ => .inl rfl⟩
      constructor <;> try first | rfl | exact Extends.refl _
      intro o ho hk
      rcases List.mem_append.1 ho with ho | ho
      · exact ho
      · simp_all
    | sent tp => exact sendMsgCallback_sent hcb hrs tx ours (.sent tp) false h
    | failed e tp => exact sendMsgCallback_sent hcb hrs tx ours (.failed e tp) false h
  | cons a rest ih =>
    obtain ⟨e, tp⟩ := a
    obtain ⟨h₁, hs₁⟩ := sendMsgCallback_sent hcb hrs tx ours (.failed e tp) true h
    unfold runEndpt
    dsimp only
    split_ifs
    · obtain ⟨h₂, hs₂⟩ := ih h₁.wf
      refine ⟨h₁.trans h₂, fun hp => ?_⟩
      have hp₁ := sendMsgCallback_failed_pendingSend hcb resend tx ours e tp true h hp
      rcases hs₁ hp with hs | hs
      · rcases hs₂ hp₁ with hs' | hs'
        · exact .inl (hs'.trans hs)
        · exact .inr hs'
      · exact .inr (h₂.err hs)
    · exact ⟨h₁, hs₁⟩

lemma popEndpt_eq (w : World) : ∃ env, w.popEndpt.2 = { w with env := env } := by
  unfold World.popEndpt
  split
  · exact ⟨w.env, rfl⟩
  · exact ⟨_, rfl⟩

lemma popAck_eq (w : World) : ∃ env, w.popAck.2 = { w with env := env } := by
  unfold World.popAck
  split
  · exact ⟨w.env, rfl⟩
  · exact ⟨_, rfl⟩

/-- What `pjsip_transport_send` can answer, with the world that each answer leaves. -/
inductive DirectCases (tx : TxData) (w : World) : World × Option Status → Prop
  | noTransport (ht : w.tsx.transport = none) : DirectCases tx w (w, some .success)
  | pending (env : Env) (ht : w.tsx.transport.isSome) (ha : w.popDirect.1 = .pending) :
      DirectCases tx w ({ (setPendingTransport true w).log (.handed tx) with
        env := env
        outstanding := w.outstanding ++ [⟨.direct, tx⟩]
        busy := tx :: w.busy }, none)
  | sent (env : Env) (ht : w.tsx.transport.isSome) (ha : w.popDirect.1 = .sent) :
      DirectCases tx w
        ({ (setPendingTransport false w).log (.handed tx) with env := env }, none)
  | failed (env : Env) (e : SendErr) (ht : w.tsx.transport.isSome)
      (ha : w.popDirect.1 = .failed e) (he : env.endpt = w.env.endpt) :
      DirectCases tx w (tsxUpdateTransport none
        { (setPendingTransport false w).log (.handed tx) with env := env }, some (.send e))

lemma sendDirect_cases (w : World) : DirectCases tx w (sendDirect tx w) := by
  unfold sendDirect
  cases ht : w.tsx.transport with
  | none => exact .noTransport ht
  | some t =>
    have hs : w.tsx.transport.isSome := by simp [ht]
    dsimp only [World.popDirect]
    cases hd : w.env.direct with
    | nil =>
      have ha : w.popDirect.1 = .sent := by simp [World.popDirect, hd]
      simpa [hd] using DirectCases.sent w.env hs ha
    | cons r rs =>
      have ha : w.popDirect.1 = r := by simp [World.popDirect, hd]
      cases r with
      | pending =>
        simpa [hd] using DirectCases.pending { w.env with direct := rs } hs ha
      | sent => simpa [hd] using DirectCases.sent { w.env with direct := rs } hs ha
      | failed e =>
        simpa [hd, tsxUpdateTransport] using
          DirectCases.failed { w.env with direct := rs } e hs ha rfl

lemma sendDirect_sent (h : Wf w) (hp : w.tsx.flag.pendingTransport = false) :
    Sent w (sendDirect tx w).1 ∧ (sendDirect tx w).1.tsx.state = w.tsx.state ∧
      ((sendDirect tx w).2.isSome → (sendDirect tx w).1.tsx.flag = w.tsx.flag) := by
  have hflag : { w.tsx.flag with pendingTransport := false } = w.tsx.flag := by
    rw [← hp]
  have hpend := h.pending
  simp only [hp, Bool.false_eq_true, false_or] at hpend
  have htr : TraceOk w.tsx.role (.handed tx :: w.trace) := h.trace.cons trivial rfl
  have hlast : Obs.notify .destroyed ∈ Obs.handed tx :: w.trace → w.tsx.state = .destroyed :=
    fun hm => h.last (by simpa using hm)
  have hd := sendDirect_cases tx w
  generalize sendDirect tx w = r at hd ⊢
  cases hd with
  | noTransport => exact ⟨Sent.refl h, rfl, fun _ => rfl⟩
  | pending env ht =>
    refine ⟨⟨⟨{ h with
      trace := htr, last := hlast, pending := fun _ _ => .inl rfl, direct := ?_ },
      ⟨rfl, rfl, rfl, rfl, le_rfl, List.suffix_cons _ _⟩, id⟩, .inl rfl, id⟩, rfl, by simp⟩
    exact fun hu _ _ _ => h.resolved hu ht
  | sent env =>
    refine ⟨⟨⟨{ h with trace := htr, last := hlast, pending := ?_ },
      ⟨rfl, rfl, rfl, rfl, le_rfl, List.suffix_cons _ _⟩, id⟩, .inl rfl, id⟩, rfl, by simp⟩
    exact fun hu hs => .inr (hpend hu hs)
  | failed env e =>
    refine ⟨⟨⟨{ h with
      trace := htr, last := hlast, resolved := by simp [tsxUpdateTransport], pending := ?_ },
      ⟨rfl, rfl, rfl, rfl, le_rfl, List.suffix_cons _ _⟩, id⟩, .inl rfl, id⟩, rfl, fun _ => hflag⟩
    exact fun hu hs => .inr (hpend hu hs)

/-- `tsx_send_msg` reports success only if the state is still the one it was called in. -/
structure SendSpec (w : World) (r : World × Status) : Prop where
  sent : Sent w r.1
  ok : r.2 = .success → r.1.tsx.state = w.tsx.state

lemma SendSpec.of_sent {r : World × Status} (h₁ : Sent w w₁)
    (hs : w₁.tsx.state = w.tsx.state) (h : SendSpec w₁ r) : SendSpec w r :=
  ⟨h₁.trans h.sent, fun hr => (h.ok hr).trans hs⟩

lemma sendBegin_wf (h : Wf w) : Wf (sendBegin tx w) :=
  { h with
    trace := h.trace.cons trivial rfl
    last := fun hm => h.last (by simpa [sendBegin] using hm)
    pending := fun _ _ => .inl rfl }

lemma sendRefused_sent (h : Wf w)
    (hu : w.tsx.role = .uac → w.tsx.state.rank < 6 → w.tsx.flag.pendingSend = false) :
    Sent w (sendRefused tx w) ∧ (sendRefused tx w).tsx.state = w.tsx.state := by
  have hpend : w.tsx.role = .uac → w.tsx.flag.pendingSend = true →
      (false = true) ∨ w.tsx.flag.resolvedServer = true ∨ 6 ≤ w.tsx.state.rank := by
    intro hro hs
    by_cases hr : w.tsx.state.rank < 6
    · simp [hu hro hr] at hs
    · exact .inr (.inr (not_lt.1 hr))
  unfold sendRefused
  split_ifs <;>
    exact ⟨⟨⟨{ h with pending := hpend }, ⟨rfl, rfl, rfl, rfl, le_rfl, List.suffix_refl _⟩, id⟩, .inl rfl, id⟩, rfl⟩

lemma transportErrStatus_success (h : transportErrStatus w = .success) :
    ¬ w.tsx.transportErr.isSome := by
  unfold transportErrStatus at h
  split at h <;> simp_all

lemma sendStateless_spec (hcb : CbOk cb) (hrs : Resends resend) (tx : TxData)
    (h : Wf w) (hu : w.tsx.role = .uac → w.tsx.state.rank < 6 → w.tsx.flag.pendingSend = false) :
    SendSpec w (sendStateless cb resend tx w) := by
  have h₁ := sendBegin_wf tx h
  have hb : Sent w (sendBegin tx w) :=
    ⟨⟨h₁, ⟨rfl, rfl, rfl, rfl, le_rfl, List.suffix_cons _ _⟩, id⟩, .inl rfl, id⟩
  obtain ⟨env, henv⟩ := popEndpt_eq (sendBegin tx w)
  unfold sendStateless
  rcases hpop : (sendBegin tx w).popEndpt with ⟨r, w₁⟩
  have f : Frame (sendBegin tx w) w₁ := by
    rw [hpop] at henv
    dsimp only at henv
    subst henv
    constructor <;> first | rfl | exact fun _ h _ => h | exact Extends.refl _
  have hw₁ := hb.trans (f.sent h₁)
  have hst₁ : w₁.tsx.state = w.tsx.state := f.state
  have hps₁ : w₁.tsx.flag.pendingSend = w.tsx.flag.pendingSend := f.pendingSend
  cases r with
  | refused e =>
    obtain ⟨h₂, -⟩ := sendRefused_sent tx hw₁.wf (by rw [hw₁.le.role, hst₁, hps₁]; exact hu)
    exact ⟨hw₁.trans h₂, by simp⟩
  | run attempts last =>
    obtain ⟨h₂, hs₂⟩ := runEndpt_sent hcb hrs tx true (if tx.isRequest then attempts else []) last
      hw₁.wf
    refine ⟨hw₁.trans h₂, ?_⟩
    dsimp only
    intro hok
    rcases h₂.state with hs | ⟨hs, he⟩
    · exact hs.trans hst₁
    · have hr : w.tsx.state.rank ≤ 6 := by simpa [hs, hst₁] using h₂.le.rank
      rw [if_pos hs] at hok
      have hno := transportErrStatus_success hok
      rcases lt_or_eq_of_le hr with hr | hr
      · rcases he with he | he
        · rcases hs₂ (hps₁.trans (hu (hw₁.le.role ▸ he) hr)) with hs' | hs'
          · exact hs'.trans hst₁
          · exact absurd hs' hno
        · exact absurd he hno
      · rw [hs, State.rank_eq_six.1 hr]

lemma permanentStatus_ne (status : Status) : permanentStatus status ≠ .success := by
  unfold permanentStatus
  split_ifs with h
  · simp
  · exact h

/-- The ways through `tsx_send_msg`. -/
inductive SendCases (cb resend : World → World) (tx : TxData) (w : World) :
    World × Status → Prop
  | deferred (hp : w.tsx.flag.pendingTransport = true) :
      SendCases cb resend tx w (setPendingSend true w, .success)
  | busy (hp : w.tsx.flag.pendingTransport = false) (hb : tx ∈ w.busy) :
      SendCases cb resend tx w (w, .success)
  | direct (w₁ : World) (hp : w.tsx.flag.pendingTransport = false) (hb : tx ∉ w.busy)
      (hd : sendDirect tx w = (w₁, none)) : SendCases cb resend tx w (w₁, .success)
  | permanent (w₁ : World) (status : Status) (hp : w.tsx.flag.pendingTransport = false)
      (hb : tx ∉ w.busy) (hd : sendDirect tx w = (w₁, some status))
      (hr : w₁.tsx.role = .uac ∧ w₁.tsx.flag.resolvedServer = true) :
      SendCases cb resend tx w
        (tsxSetState cb .terminated .transportError .zero (tsxSetStatusCode 503 w₁),
          permanentStatus status)
  | stateless (w₁ : World) (status : Status) (hp : w.tsx.flag.pendingTransport = false)
      (hb : tx ∉ w.busy) (hd : sendDirect tx w = (w₁, some status))
      (hr : ¬ (w₁.tsx.role = .uac ∧ w₁.tsx.flag.resolvedServer = true)) :
      SendCases cb resend tx w (sendStateless cb resend tx w₁)

lemma tsxSendMsgWith_cases (cb resend : World → World) (tx : TxData) (w : World) :
    SendCases cb resend tx w (tsxSendMsgWith cb resend tx w) := by
  unfold tsxSendMsgWith
  by_cases hp : w.tsx.flag.pendingTransport = true
  · rw [if_pos hp]
    exact .deferred hp
  rw [if_neg hp]
  have hp' : w.tsx.flag.pendingTransport = false := by simpa using hp
  by_cases hb : tx ∈ w.busy
  · rw [if_pos hb]
    exact .busy hp' hb
  rw [if_neg hb]
  rcases hdir : sendDirect tx w with ⟨w₁, o⟩
  cases o with
  | none => exact .direct w₁ hp' hb hdir
  | some status =>
    dsimp only
    split
    next hr => exact .permanent w₁ status hp' hb hdir hr
    next hr => exact .stateless w₁ status hp' hb hdir hr

lemma Wf.pendingSend_false (h : Wf w) (hp : w.tsx.flag.pendingTransport = false)
    (hr : ¬ (w.tsx.role = .uac ∧ w.tsx.flag.resolvedServer = true)) (hro : w.tsx.role = .uac)
    (hlt : w.tsx.state.rank < 6) : w.tsx.flag.pendingSend = false := by
  by_contra hs
  rcases h.pending hro (by simpa using hs) with hx | hx | hx
  · simp [hp] at hx
  · exact hr ⟨hro, hx⟩
  · omega

lemma tsxSendMsgWith_spec (hcb : CbOk cb) (hrs : Resends resend) (tx : TxData)
    (h : Wf w) (hd : w.tsx.state ≠ .destroyed) :
    SendSpec w (tsxSendMsgWith cb resend tx w) := by
  have hc := tsxSendMsgWith_cases cb resend tx w
  generalize tsxSendMsgWith cb resend tx w = r at hc ⊢
  cases hc with
  | deferred hp =>
    exact ⟨⟨⟨{ h with pending := fun _ _ => .inl hp, idle := fun h => absurd h hd },
      ⟨rfl, rfl, rfl, rfl, le_rfl, List.suffix_refl _⟩, id⟩, .inl rfl, id⟩, fun _ => rfl⟩
  | busy => exact ⟨Sent.refl h, fun _ => rfl⟩
  | direct w₁ hp _ hdir =>
    obtain ⟨h₁, hst, -⟩ := sendDirect_sent tx h hp
    rw [hdir] at h₁ hst
    exact ⟨h₁, fun _ => hst⟩
  | permanent w₁ status hp _ hdir hres =>
    obtain ⟨h₁, hst, -⟩ := sendDirect_sent tx h hp
    rw [hdir] at h₁ hst
    have hr : w₁.tsx.state.rank < 7 := State.rank_lt_seven.2 (h₁.alive hd)
    obtain ⟨hsd, hst', herr, -⟩ := tsxSetState_terminated hcb
      ((tsxSetStatusCode_frame 503 w₁).core h₁.wf.toCore) .transportError .zero
      (Nat.lt_succ_iff.1 hr)
    exact ⟨h₁.trans ⟨⟨hsd.wf, { hsd.le with }, hsd.alive⟩, .inr ⟨hst', .inl hres.1⟩,
      fun he => herr.symm ▸ he⟩, fun hs => absurd hs (permanentStatus_ne status)⟩
  | stateless w₁ status hp _ hdir hres =>
    obtain ⟨h₁, hst, hfl⟩ := sendDirect_sent tx h hp
    rw [hdir] at h₁ hst hfl
    have hp₁ : w₁.tsx.flag.pendingTransport = false := by
      rw [hfl rfl]
      exact hp
    exact SendSpec.of_sent h₁ hst
      (sendStateless_spec hcb hrs tx h₁.wf (h₁.wf.pendingSend_false hp₁ hres))

lemma sendLastTx_resends {send : TxData → World → World × Status}
    (hs : ∀ tx w, Wf w → w.tsx.state ≠ .destroyed → SendSpec w (send tx w)) :
    Resends (sendLastTx send) := by
  intro w h hd
  unfold sendLastTx
  split
  · exact Sent.refl h
  · exact (hs _ w h hd).sent

lemma tsxSendMsgDepth_spec (hcb : CbOk cb) (n : ℕ) (tx : TxData) (h : Wf w)
    (hd : w.tsx.state ≠ .destroyed) : SendSpec w (tsxSendMsgDepth cb n tx w) := by
  induction n generalizing tx w with
  | zero => exact tsxSendMsgWith_spec hcb (fun w h _ => Sent.refl h) tx h hd
  | succ n ih =>
    exact tsxSendMsgWith_spec hcb (sendLastTx_resends fun tx w h hd => ih tx h hd) tx h hd

lemma tsxSendMsg_spec (hcb : CbOk cb) (tx : TxData) (h : Wf w)
    (hd : w.tsx.state ≠ .destroyed) : SendSpec w (tsxSendMsg cb tx w) :=
  tsxSendMsgDepth_spec hcb 1 tx h hd

lemma sendLastTx_sent (hcb : CbOk cb) : Resends (sendLastTx (tsxSendMsg cb)) :=
  sendLastTx_resends fun tx _ h hd => tsxSendMsg_spec hcb tx h hd

lemma retransmitBegin_frame (resched : Bool) (w : World) :
    Frame w (retransmitBegin resched w) := by
  unfold retransmitBegin tsxReschedRetransmission
  dsimp only
  split_ifs <;> constructor <;> first | rfl | exact fun _ h _ => h | exact Extends.refl _ | exact (Extends.refl _).cons rfl

lemma tsxRetransmit_spec (hcb : CbOk cb) (resched : Bool) (h : Wf w)
    (hd : w.tsx.state ≠ .destroyed) : SendSpec w (tsxRetransmit cb resched w) := by
  unfold tsxRetransmit
  split_ifs
  · exact ⟨Sent.refl h, fun _ => rfl⟩
  split
  · exact ⟨Sent.refl h, fun _ => rfl⟩
  split_ifs
  · exact ⟨Frame.sent (by constructor <;> first | rfl | exact fun _ h _ => h | exact Extends.refl _) h, fun _ => rfl⟩
  · rename_i tx _ _
    have f := retransmitBegin_frame resched w
    have h₁ := f.sent h
    have h₂ := SendSpec.of_sent h₁ f.state (tsxSendMsg_spec hcb tx h₁.wf (h₁.alive hd))
    dsimp only
    split_ifs with hr
    · refine ⟨h₂.sent.trans (Frame.sent ?_ h₂.sent.wf), fun _ => h₂.ok hr.1⟩
      constructor <;> first | rfl | exact fun _ h _ => h | exact Extends.refl _
    · exact h₂

lemma transportCallbackImpl_sound (hcb : CbOk cb) (res : Option SendErr)
    (h : Wf w) (hp : w.tsx.role = .uac → w.tsx.flag.resolvedServer = true) :
    Sound w (transportCallbackImpl cb res w) := by
  have hc : Core (setPendingTransport false w) := { h.toCore with }
  unfold transportCallbackImpl
  dsimp only
  split_ifs with hr hlt
  · obtain ⟨h₁, -⟩ := afterSent_sent hcb (sendLastTx_sent hcb) hc h.idle
    exact ⟨h₁.wf, { h₁.le with }, h₁.alive⟩
  · have h₁ := giveUp_sound h hp res
    exact h₁.trans ((restartTimeout_frame _ _).sound h₁.wf)
  · exact giveUp_sound h hp res

/-! ## State handlers -/

lemma startRetransmit_frame (w : World) : Frame w (startRetransmit w) := by
  unfold startRetransmit
  dsimp only
  split_ifs <;> constructor <;> first | rfl | exact fun _ h _ => h | exact Extends.refl _

lemma Sound.setState (hcb : CbOk cb) (h : Sound w w₁) (st : State)
    (src : EventSrc) (hst : st.rank < 6) (hr : w₁.tsx.state.rank ≤ st.rank)
    (ha : PjProject.Transaction.allowed w₁.tsx.role st = true) :
    Sound w (tsxSetState cb st src .zero w₁) :=
  h.trans (tsxSetState_sound hcb h.wf st src hst hr ha).1

lemma Sound.terminate (hcb : CbOk cb) (h : Sound w w₁) (src : EventSrc)
    (flag : SetStateFlag) (hr : w₁.tsx.state.rank ≤ 6) :
    Sound w (tsxSetState cb .terminated src flag w₁) :=
  h.trans (tsxSetState_terminated hcb h.wf.toCore src flag hr).1

lemma tsxOnStateNull_sound (hcb : CbOk cb) (e : Event) (h : Wf w)
    (hs : w.tsx.state = .null) : Sound w (tsxOnStateNull cb e w).1 := by
  unfold tsxOnStateNull
  split
  next hro =>
    exact (Sound.refl h).setState hcb .trying _ (by simp) (by simp [hs]) (by simp [hro, allowed])
  next hro =>
    split
    next tx =>
      have f := setLastTx_frame (some tx) w
      have h₁ := SendSpec.of_sent (f.sent h) f.state
        (tsxSendMsg_spec hcb tx (f.sent h).wf (by simp [hs]))
      dsimp only
      split
      next hok =>
        set w₁ := (tsxSendMsg cb tx (setLastTx (some tx) w)).1 with hw₁
        have g : Frame w₁ (if (restartTimeout .timeout w₁).tsx.isReliable then
            restartTimeout .timeout w₁ else startRetransmit (restartTimeout .timeout w₁)) :=
          (restartTimeout_frame _ _).trans (.ite (.refl _) (startRetransmit_frame _))
        refine (h₁.sent.toSound.trans (g.sound h₁.sent.wf)).setState hcb .calling _ (by simp) ?_ ?_
        · rw [g.state, h₁.ok hok, hs]
          simp
        · rw [g.role, h₁.sent.le.role, hro]
          rfl
      next => exact h₁.sent.toSound
    next => exact Sound.refl h

lemma sendAck_sound (hcb : CbOk cb) (h : Wf w) (hd : w.tsx.state ≠ .destroyed) :
    Sound w (sendAck cb w).1 ∧
      (∀ ack, (sendAck cb w).2 = .ok ack → (sendAck cb w).1.tsx.state = w.tsx.state) := by
  obtain ⟨env, henv⟩ := popAck_eq w
  unfold sendAck
  rcases hpop : w.popAck with ⟨r, w₁⟩
  have f : Frame w w₁ := by
    rw [hpop] at henv
    dsimp only at henv
    subst henv
    constructor <;> first | rfl | exact fun _ h _ => h | exact Extends.refl _
  have h₁ := f.sent h
  cases r with
  | none => exact ⟨h₁.toSound, by simp⟩
  | some ack =>
    have h₂ := SendSpec.of_sent h₁ f.state (tsxSendMsg_spec hcb ack h₁.wf (h₁.alive hd))
    refine ⟨h₂.sent.toSound, fun a ha => ?_⟩
    dsimp only at ha ⊢
    split at ha
    next hok => exact h₂.ok hok
    next => simp at ha

lemma proceedingUacFailure_sound (hcb : CbOk cb) (src : EventSrc) (h : Wf w)
    (hs : w.tsx.state = .calling ∨ w.tsx.state = .proceeding) :
    Sound w (proceedingUacFailure cb src w).1 := by
  have f : Frame w (cancelTimeout (cancelRetransmit w)) :=
    (cancelRetransmit_frame _).trans (cancelTimeout_frame _)
  have h₁ := f.sound h
  have hr : w.tsx.state.rank ≤ 3 := by rcases hs with hs | hs <;> simp [hs]
  have hd : w.tsx.state ≠ .destroyed := by rcases hs with hs | hs <;> simp [hs]
  have ha : ∀ role, allowed role .completed = true := by intro role; cases role <;> rfl
  unfold proceedingUacFailure
  dsimp only
  split
  next =>
    obtain ⟨h₂, hst⟩ := sendAck_sound hcb h₁.wf (h₁.alive hd)
    rcases hack : sendAck cb (cancelTimeout (cancelRetransmit w)) with ⟨w₂, res⟩
    rw [hack] at h₂ hst
    dsimp only at h₂ hst
    cases res with
    | error status => exact h₁.trans h₂
    | ok ack =>
      have h₃ := (h₁.trans h₂).setState hcb .completed src (by simp)
        (by rw [hst ack rfl, f.state]; exact hr.trans (by simp)) (ha _)
      exact h₃.trans (((setLastTx_frame _ _).trans (restartTimeout_frame _ _)).sound h₃.wf)
  next =>
    split
    next => exact h₁.terminate hcb src .zero (by rw [f.state]; omega)
    next =>
      have h₃ := h₁.setState hcb .completed src (by simp)
        (by rw [f.state]; exact hr.trans (by simp)) (ha _)
      exact h₃.trans ((restartTimeout_frame _ _).sound h₃.wf)

lemma tsxOnStateProceedingUac_sound (hcb : CbOk cb) (e : Event) (h : Wf w)
    (hs : w.tsx.state = .calling ∨ w.tsx.state = .proceeding) :
    Sound w (tsxOnStateProceedingUac cb e w).1 := by
  have hr : w.tsx.state.rank ≤ 3 := by rcases hs with hs | hs <;> simp [hs]
  have hd : w.tsx.state ≠ .destroyed := by rcases hs with hs | hs <;> simp [hs]
  unfold tsxOnStateProceedingUac
  split
  next => exact Sound.refl h
  next => exact (tsxRetransmit_spec hcb true h hd).sent.toSound
  next =>
    have f := tsxSetStatusCode_frame 408 w
    exact (f.sound h).terminate hcb .timer .zero (by rw [f.state]; omega)
  next => exact Sound.refl h
  next code =>
    have f := tsxSetStatusCode_frame code.val w
    have h₁ := f.sound h
    dsimp only
    split
    next =>
      refine h₁.setState hcb .proceeding _ (by simp) (by rw [f.state]; simpa using hr) ?_
      cases (tsxSetStatusCode code.val w).tsx.role <;> rfl
    next =>
      split
      next =>
        split
        next =>
          have g := f.trans (cancelTimeout_frame _)
          exact (g.sound h).terminate hcb (.rxMsg (.response code)) .zero (by rw [g.state]; omega)
        next =>
          have g := ((f.trans (cancelTimeout_frame _)).trans (scheduleTimeout_frame .timeout _)).trans
            (cancelRetransmit_frame _)
          refine (g.sound h).setState hcb .completed _ (by simp)
            (by rw [g.state]; exact hr.trans (by simp)) ?_
          rw [g.role]
          cases w.tsx.role <;> rfl
      next => exact h₁.trans (proceedingUacFailure_sound hcb _ h₁.wf (by rw [f.state]; exact hs))

lemma callingRxTimers_frame (code : StatusCode) (w : World) :
    Frame w (callingRxTimers code w) := by
  unfold callingRxTimers
  dsimp only
  split_ifs <;> constructor <;> first | rfl | exact fun _ h _ => h | exact Extends.refl _

lemma tsxOnStateCalling_sound (hcb : CbOk cb) (e : Event) (h : Wf w)
    (hs : w.tsx.state = .calling) : Sound w (tsxOnStateCalling cb e w).1 := by
  unfold tsxOnStateCalling
  split
  next => exact (tsxRetransmit_spec hcb true h (by simp [hs])).sent.toSound
  next =>
    have f : Frame w (tsxSetStatusCode 408 (setPendingResched false (cancelRetransmit w))) :=
      ((cancelRetransmit_frame _).trans (setPendingResched_frame _ _)).trans
        (tsxSetStatusCode_frame _ _)
    exact (f.sound h).terminate hcb .timer .zero (by rw [f.state, hs]; simp)
  next => exact Sound.refl h
  next code =>
    have f := callingRxTimers_frame code w
    exact (f.sound h).trans (tsxOnStateProceedingUac_sound hcb _ (f.sound h).wf
      (.inl (f.state.trans hs)))
  next => exact Sound.refl h

lemma proceedingUas1xx_sound (hcb : CbOk cb) (tx : TxData) (h : Wf w)
    (hr : w.tsx.state.rank ≤ 3) : Sound w (proceedingUas1xx cb tx w) := by
  have f := setLastTx_frame (some tx) w
  have h₁ := (f.sound h).setState hcb .proceeding .txMsg (by simp) (by rw [f.state]; simpa)
    (by cases (setLastTx (some tx) w).tsx.role <;> rfl)
  unfold proceedingUas1xx
  dsimp only
  split
  next =>
    exact h₁.trans (((cancelRetransmit_frame _).trans (startRetransmit_frame _)).sound h₁.wf)
  next => exact h₁

lemma proceedingUas2xx_sound (hcb : CbOk cb) (tx : TxData) (h : Wf w)
    (hr : w.tsx.state.rank ≤ 3) : Sound w (proceedingUas2xx cb tx w) := by
  have f := cancelRetransmit_frame w
  unfold proceedingUas2xx
  dsimp only
  split
  next => exact (f.sound h).terminate hcb .txMsg .zero (by rw [f.state]; omega)
  next =>
    have g : Frame w (restartTimeout .timeout (setLastTx (some tx)
        (if (cancelRetransmit w).tsx.method = .invite then startRetransmit (cancelRetransmit w)
          else cancelRetransmit w))) :=
      ((f.trans (.ite (startRetransmit_frame _) (.refl _))).trans (setLastTx_frame _ _)).trans
        (restartTimeout_frame _ _)
    refine (g.sound h).setState hcb .completed .txMsg (by simp)
      (by rw [g.state]; exact hr.trans (by simp)) ?_
    rw [g.role]
    cases w.tsx.role <;> rfl

lemma proceedingUasFailure_sound (hcb : CbOk cb) (tx : TxData) (cseqMethod : Method) (h : Wf w) (hr : w.tsx.state.rank ≤ 3) :
    Sound w (proceedingUasFailure cb tx cseqMethod w) := by
  have f : Frame w (restartTimeout .timeout (setLastTx (some tx) (cancelRetransmit w))) :=
    ((cancelRetransmit_frame _).trans (setLastTx_frame _ _)).trans (restartTimeout_frame _ _)
  have g := f.trans (.ite (c := (restartTimeout .timeout (setLastTx (some tx)
      (cancelRetransmit w))).tsx.isReliable = false ∧ cseqMethod = .invite)
    (startRetransmit_frame _) (.refl _))
  refine (g.sound h).setState hcb .completed .txMsg (by simp)
    (by rw [g.state]; exact hr.trans (by simp)) ?_
  rw [g.role]
  cases w.tsx.role <;> rfl

lemma proceedingUasPrepare_frame (code : StatusCode) (w : World) :
    Frame w (proceedingUasPrepare tx code w) :=
  (tsxSetStatusCode_frame _ _).trans (.ite (.refl _) (setLastTx_frame _ _))

lemma proceedingUasTx_sound (hcb : CbOk cb) (tx : TxData) (h : Wf w)
    (hr : w.tsx.state.rank ≤ 3) : Sound w (proceedingUasTx cb tx w).1 := by
  unfold proceedingUasTx
  split
  next => exact Sound.refl h
  next code cseqMethod _ =>
    have f := proceedingUasPrepare_frame tx code w
    have h₁ := SendSpec.of_sent (f.sent h) f.state (tsxSendMsg_spec hcb tx (f.sent h).wf (by
      rw [f.state]
      exact State.rank_lt_seven.1 (by omega)))
    dsimp only
    split
    next hok =>
      have hr₁ := (h₁.ok hok).symm ▸ hr
      split
      next => exact h₁.sent.toSound.trans (proceedingUas1xx_sound hcb tx h₁.sent.wf hr₁)
      next =>
        split
        next => exact h₁.sent.toSound.trans (proceedingUas2xx_sound hcb tx h₁.sent.wf hr₁)
        next =>
          exact h₁.sent.toSound.trans (proceedingUasFailure_sound hcb tx cseqMethod h₁.sent.wf hr₁)
    next => exact h₁.sent.toSound

lemma log_plain_frame (w : World) (ho : o.isPlain = true) : Frame w (w.log o) := by
  constructor <;> first | rfl | exact fun _ h _ => h | exact (Extends.refl _).cons ho

lemma tsxOnStateProceedingUas_sound (hcb : CbOk cb) (e : Event) (h : Wf w)
    (hs : w.tsx.state = .proceeding) : Sound w (tsxOnStateProceedingUas cb e w).1 := by
  have hd : w.tsx.state ≠ .destroyed := by simp [hs]
  unfold tsxOnStateProceedingUas
  split
  next =>
    split
    next => exact Sound.refl h
    next tx _ =>
      split
      next hp =>
        exact ⟨{ h with pending := fun _ _ => .inl hp, idle := fun h => absurd h hd },
          ⟨rfl, rfl, rfl, rfl, le_rfl, List.suffix_refl _⟩, id⟩
      next => exact (tsxSendMsg_spec hcb tx h hd).sent.toSound
  next tx => exact proceedingUasTx_sound hcb tx h (by simp [hs])
  next =>
    have f := log_plain_frame w (o := .retransExpiry w.tsx.flag.pendingTransport) rfl
    exact (f.sound h).trans (tsxRetransmit_spec hcb true (f.sound h).wf hd).sent.toSound
  next =>
    have f := tsxSetStatusCode_frame 408 w
    exact (f.sound h).terminate hcb .timer .zero (by rw [f.state, hs]; simp)

lemma tsxOnStateTrying_sound (hcb : CbOk cb) (e : Event) (h : Wf w)
    (hs : w.tsx.state = .trying) : Sound w (tsxOnStateTrying cb e w).1 := by
  unfold tsxOnStateTrying
  split
  next tx =>
    have h₁ := proceedingUasTx_sound hcb tx h (by simp [hs])
    dsimp only
    split
    next hst =>
      refine h₁.setState hcb .proceeding .txMsg (by simp) (by rw [hst.2]; simp) ?_
      cases (proceedingUasTx cb tx w).1.tsx.role <;> rfl
    next => exact h₁
  next => exact Sound.refl h

lemma tsxOnStateCompletedUas_sound (hcb : CbOk cb) (e : Event) (h : Wf w)
    (hs : w.tsx.state = .completed) (hro : w.tsx.role = .uas) :
    Sound w (tsxOnStateCompletedUas cb e w).1 := by
  have hd : w.tsx.state ≠ .destroyed := by simp [hs]
  unfold tsxOnStateCompletedUas
  split
  next => exact Sound.refl h
  next m =>
    split
    next => exact (tsxRetransmit_spec hcb false h hd).sent.toSound
    next =>
      split
      next => exact Sound.refl h
      next =>
        have f : Frame w (restartTimeout .timeout (setPendingResched false (cancelRetransmit w))) :=
          ((cancelRetransmit_frame _).trans (setPendingResched_frame _ _)).trans
            (restartTimeout_frame _ _)
        exact (f.sound h).setState hcb .confirmed _ (by simp) (by rw [f.state, hs]; simp)
          (by rw [f.role, hro]; rfl)
  next => exact (tsxRetransmit_spec hcb true h hd).sent.toSound
  next =>
    have f : Frame w (if w.tsx.method = .invite then tsxSetStatusCode 408 w else w) :=
      .ite (tsxSetStatusCode_frame _ _) (.refl _)
    exact (f.sound h).terminate hcb .timer .zero (by rw [f.state, hs]; simp)
  next => exact Sound.refl h

lemma tsxOnStateCompletedUac_sound (hcb : CbOk cb) (e : Event) (h : Wf w)
    (hs : w.tsx.state = .completed) : Sound w (tsxOnStateCompletedUac cb e w).1 := by
  unfold tsxOnStateCompletedUac
  split
  next => exact Sound.refl h
  next => exact (Sound.refl h).terminate hcb .timer .zero (by simp [hs])
  next =>
    split
    next => exact (tsxRetransmit_spec hcb false h (by simp [hs])).sent.toSound
    next => exact Sound.refl h
  next => exact Sound.refl h
  next => exact Sound.refl h

lemma tsxOnStateConfirmed_sound (hcb : CbOk cb) (e : Event) (h : Wf w)
    (hs : w.tsx.state = .confirmed) : Sound w (tsxOnStateConfirmed cb e w).1 := by
  unfold tsxOnStateConfirmed
  split
  next => exact Sound.refl h
  next => exact Sound.refl h
  next => exact Sound.refl h
  next => exact (Sound.refl h).terminate hcb .timer .zero (by simp [hs])
  next => exact Sound.refl h

inductive Dispatch (cb : World → World) (e : Event) (w : World) : World × Status → Prop
  | null (hs : w.tsx.state = .null) : Dispatch cb e w (tsxOnStateNull cb e w)
  | calling (hr : w.tsx.role = .uac) (hs : w.tsx.state = .calling) :
      Dispatch cb e w (tsxOnStateCalling cb e w)
  | trying (hr : w.tsx.role = .uas) (hs : w.tsx.state = .trying) :
      Dispatch cb e w (tsxOnStateTrying cb e w)
  | proceedingUas (hr : w.tsx.role = .uas) (hs : w.tsx.state = .proceeding) :
      Dispatch cb e w (tsxOnStateProceedingUas cb e w)
  | proceedingUac (hr : w.tsx.role = .uac) (hs : w.tsx.state = .proceeding) :
      Dispatch cb e w (tsxOnStateProceedingUac cb e w)
  | completedUas (hr : w.tsx.role = .uas) (hs : w.tsx.state = .completed) :
      Dispatch cb e w (tsxOnStateCompletedUas cb e w)
  | completedUac (hr : w.tsx.role = .uac) (hs : w.tsx.state = .completed) :
      Dispatch cb e w (tsxOnStateCompletedUac cb e w)
  | confirmed (hr : w.tsx.role = .uas) (hs : w.tsx.state = .confirmed) :
      Dispatch cb e w (tsxOnStateConfirmed cb e w)
  | terminated (hs : w.tsx.state = .terminated) : Dispatch cb e w (tsxOnStateTerminated cb e w)
  | destroyed (hs : w.tsx.state = .destroyed) : Dispatch cb e w (w, .eignored)

lemma stateHandler_dispatch (cb : World → World) (e : Event) (h : Core w) :
    Dispatch cb e w (stateHandler cb e w) := by
  have hh := h.handler
  have ha := h.allowed
  cases hr : w.tsx.role <;> cases hs : w.tsx.state <;> rw [hr, hs] at hh ha <;>
    simp only [tsxStateHandler, tsxStateHandlerUac, tsxStateHandlerUas] at hh <;>
    simp only [allowed, Bool.false_eq_true] at ha <;>
    simp only [stateHandler, hh] <;> constructor <;> assumption

lemma stateHandler_sound (hcb : CbOk cb) (e : Event) (h : Wf w) :
    Wf (stateHandler cb e w).1 ∧ Le w (stateHandler cb e w).1 ∧
      (e.isTimer = false → Sound w (stateHandler cb e w).1) := by
  have of_sound : ∀ {w'}, Sound w w' → Wf w' ∧ Le w w' ∧ (e.isTimer = false → Sound w w') :=
    fun h' => ⟨h'.wf, h'.le, fun _ => h'⟩
  have hdisp := stateHandler_dispatch cb e h.toCore
  generalize stateHandler cb e w = r at hdisp ⊢
  cases hdisp with
  | null hs => exact of_sound (tsxOnStateNull_sound hcb e h hs)
  | calling _ hs => exact of_sound (tsxOnStateCalling_sound hcb e h hs)
  | trying _ hs => exact of_sound (tsxOnStateTrying_sound hcb e h hs)
  | proceedingUas _ hs => exact of_sound (tsxOnStateProceedingUas_sound hcb e h hs)
  | proceedingUac _ hs => exact of_sound (tsxOnStateProceedingUac_sound hcb e h (.inr hs))
  | completedUas hr hs => exact of_sound (tsxOnStateCompletedUas_sound hcb e h hs hr)
  | completedUac _ hs => exact of_sound (tsxOnStateCompletedUac_sound hcb e h hs)
  | confirmed _ hs => exact of_sound (tsxOnStateConfirmed_sound hcb e h hs)
  | terminated hs =>
    unfold tsxOnStateTerminated
    split
    next ht =>
      obtain ⟨hwf, hle, -⟩ := tsxSetState_destroyed hcb h.toCore .timer (by simp [hs])
      exact ⟨hwf, hle, by simp [ht]⟩
    next => exact of_sound (Sound.refl h)
  | destroyed hs => exact of_sound (Sound.refl h)

/-! ## Entry points and runs -/

lemma tsxSendMsgApi_sound (hcb : CbOk cb) (tdata : Option TxData) (h : Wf w) :
    Sound w (tsxSendMsgApi cb tdata w).1 := by
  unfold tsxSendMsgApi
  split
  next => exact Sound.refl h
  next tx _ =>
    have h₁ := (stateHandler_sound hcb (.txMsg tx) h).2.2 rfl
    exact h₁.trans ((log_plain_frame _ rfl).sound h₁.wf)

lemma tsxTerminate_sound (hcb : CbOk cb) (code : ℕ) (h : Wf w) :
    Sound w (tsxTerminate cb code w).1 := by
  unfold tsxTerminate
  split_ifs with _ hr
  · exact Sound.refl h
  · have f := tsxSetStatusCode_frame code w
    exact (f.sound h).terminate hcb .user .zero (by rw [f.state]; exact le_of_lt hr)
  · exact Sound.refl h

lemma tuCall_sound (hcb : CbOk cb) (c : TuCall) (h : Wf w) :
    Sound w (tuCall cb w c) := by
  have h₁ := (log_plain_frame w (o := .call c w.tsx w.env) rfl).sound h
  unfold tuCall
  cases c with
  | sendMsg tx => exact h₁.trans (tsxSendMsgApi_sound hcb tx h₁.wf)
  | terminate code => exact h₁.trans (tsxTerminate_sound hcb code h₁.wf)

lemma tuCall_quiet (cb : World → World) (c : TuCall) (w : World)
    (hh : w.tsx.stateHandler = tsxStateHandler w.tsx.role w.tsx.state)
    (hr : 6 ≤ w.tsx.state.rank) : Quiet w (tuCall cb w c) := by
  have hst : w.tsx.stateHandler = some .terminated ∨ w.tsx.stateHandler = some .destroyed := by
    rw [hh]
    cases hro : w.tsx.role <;> cases hs : w.tsx.state <;> simp [hs] at hr <;>
      simp [tsxStateHandler, tsxStateHandlerUac, tsxStateHandlerUas]
  unfold tuCall
  cases c with
  | sendMsg tx =>
    simp only [tsxSendMsgApi]
    split
    next => exact ⟨[_], w.env, by simp [Obs.isTuCall], rfl⟩
    next tx' _ =>
      have heq : stateHandler cb (.txMsg tx') (w.log (.call (.sendMsg tx) w.tsx w.env)) =
          (w.log (.call (.sendMsg tx) w.tsx w.env), .eignored) := by
        unfold stateHandler
        rcases hst with hst | hst <;> simp [hst, tsxOnStateTerminated, Event.isTimer]
      rw [heq]
      exact ⟨[.tuSend (w.trace.length + 1) tx' w.tsx.flag.pendingTransport .eignored,
        .call (.sendMsg tx) w.tsx w.env], w.env, by simp [Obs.isTuCall], by simp⟩
  | terminate code =>
    have hn : ¬ w.tsx.state.rank < 6 := not_lt.2 hr
    dsimp only [tsxTerminate]
    have hlog : Quiet w (w.log (.call (.terminate code) w.tsx w.env)) :=
      ⟨[.call (.terminate code) w.tsx w.env], w.env, by simp [Obs.isTuCall], rfl⟩
    split
    next => exact hlog
    next =>
      rw [if_neg (show ¬ (w.log (.call (.terminate code) w.tsx w.env)).tsx.state.rank <
        State.terminated.rank from hn)]
      exact hlog

lemma popTu_quiet (w : World) : Quiet w w.popTu.2 := by
  unfold World.popTu
  split
  · exact Quiet.refl w
  · exact ⟨[], _, by simp, rfl⟩

lemma Quiet.tsx (h : Quiet w w') : w'.tsx = w.tsx := by
  obtain ⟨l, env, -, rfl⟩ := h
  rfl

lemma popTu_frame (w : World) : Frame w w.popTu.2 := by
  unfold World.popTu
  split <;> constructor <;> first | rfl | exact fun _ h _ => h | exact Extends.refl _

lemma tuCallback_succ (w : World) : ∃ (calls : List TuCall) (env : Env),
    tuCallback (n + 1) w = calls.foldl (tuCall (tuCallback n)) { w with env := env } := by
  unfold tuCallback World.popTu
  cases h : w.env.tu with
  | nil => exact ⟨[], w.env, rfl⟩
  | cons calls rest => exact ⟨calls, { w.env with tu := rest }, rfl⟩

lemma foldl_tuCall_sound (hcb : CbOk cb) (calls : List TuCall) (h : Wf w) :
    Sound w (calls.foldl (tuCall cb) w) := by
  induction calls generalizing w with
  | nil => exact Sound.refl h
  | cons c calls ih =>
    have h₁ := tuCall_sound hcb c h
    exact h₁.trans (ih h₁.wf)

lemma foldl_tuCall_quiet (cb : World → World) (calls : List TuCall)
    (hh : w.tsx.stateHandler = tsxStateHandler w.tsx.role w.tsx.state)
    (hr : 6 ≤ w.tsx.state.rank) : Quiet w (calls.foldl (tuCall cb) w) := by
  induction calls generalizing w with
  | nil => exact Quiet.refl w
  | cons c calls ih =>
    have h₁ := tuCall_quiet cb c w hh hr
    exact h₁.trans (ih (by rw [h₁.tsx, hh]) (by rw [h₁.tsx]; exact hr))

lemma tuCallback_ok : CbOk (tuCallback n) := by
  induction n with
  | zero => exact ⟨fun w h => Sound.refl h, fun w _ _ => Quiet.refl w⟩
  | succ n ih =>
    constructor
    · intro w h
      obtain ⟨calls, env, heq⟩ := tuCallback_succ n w
      have h₁ := (env_frame env w).sound h
      rw [heq]
      exact h₁.trans (foldl_tuCall_sound ih calls h₁.wf)
    · intro w hh hr
      obtain ⟨calls, env, heq⟩ := tuCallback_succ n w
      have h₁ : Quiet w { w with env := env } := ⟨[], env, by simp, rfl⟩
      rw [heq]
      exact h₁.trans (foldl_tuCall_quiet _ calls hh hr)

def Forward (w w' : World) : Prop := Wf w' ∧ Le w w'

lemma Sound.forward (h : Sound w w') : Forward w w' := ⟨h.wf, h.le⟩

lemma Sound.then {a b c : World} (h : Sound a b) (h' : Forward b c) : Forward a c :=
  ⟨h'.1, h.le.trans h'.2⟩

lemma retransmitExpiry_forward (hcb : CbOk cb) (h : Wf w) :
    Forward w (retransmitExpiry cb w) := by
  have h₁ := (cancelRetransmit_frame w).sound h
  unfold retransmitExpiry
  dsimp only
  split_ifs
  · exact h₁.forward
  · obtain ⟨hwf, hle, -⟩ := stateHandler_sound hcb .retransmitTimer h₁.wf
    exact h₁.then ⟨hwf, hle⟩
  · exact (Sound.refl h).forward

lemma tsxUpdateTransport_none_sound (h : Wf w) :
    Sound w (tsxUpdateTransport none w) :=
  ⟨tsxUpdateTransport_none_wf h, ⟨rfl, rfl, rfl, rfl, le_rfl, List.suffix_refl _⟩, id⟩

lemma transportExpiry_forward (hcb : CbOk cb) (tpDisc : Bool) (h : Wf w) :
    Forward w (transportExpiry cb tpDisc w) := by
  unfold transportExpiry
  split_ifs with hr
  · have h₁ := tsxUpdateTransport_none_sound h
    dsimp only
    split
    next hc =>
      refine h₁.then ⟨{ h₁.wf with
        resolved := by simp [hc.2.2.1]
        direct := by simp [hc.2.2.1]
        destroy := by simp
        pending := by simp
        idle := by simp }, ⟨rfl, rfl, rfl, rfl, le_rfl, List.suffix_refl _⟩⟩
    next =>
      have f : Frame (tsxUpdateTransport none w)
          (if (tsxUpdateTransport none w).tsx.statusCode < 200 then
            tsxSetStatusCode 503 (tsxUpdateTransport none w) else tsxUpdateTransport none w) :=
        .ite (tsxSetStatusCode_frame _ _) (.refl _)
      have h₂ := h₁.trans (f.sound h₁.wf)
      have hr₂ := f.state.trans (rfl : (tsxUpdateTransport none w).tsx.state = w.tsx.state)
      obtain ⟨h₃, hst, -⟩ := tsxSetState_terminated hcb h₂.wf.toCore .transportError ⟨true, true⟩
        (by rw [hr₂]; exact le_of_lt hr)
      generalize tsxSetState cb .terminated .transportError ⟨true, true⟩ _ = w₃ at h₃ hst ⊢
      have h₄ := (h₂.trans h₃).trans (notifyUser_sound hcb h₃.wf (.notify w₃.tsx.state) trivial
        (by simp [hst]) (by simp [hst]))
      exact (h₄.trans ((scheduleTimeout_frame .timeout _).sound h₄.wf)).forward
  · exact (Sound.refl h).forward

lemma timeoutExpiry_forward (hcb : CbOk cb) (h : Wf w) :
    Forward w (timeoutExpiry cb w) := by
  have h₁ := (cancelTimeout_frame w).sound h
  unfold timeoutExpiry
  split
  next => exact (Sound.refl h).forward
  next id _ =>
    dsimp only
    split_ifs
    · exact h₁.forward
    · cases id with
      | timeout =>
        obtain ⟨hwf, hle, -⟩ := stateHandler_sound hcb .timeoutTimer h₁.wf
        exact h₁.then ⟨hwf, hle⟩
      | transportErr => exact h₁.then (transportExpiry_forward hcb false h₁.wf)
      | transportDisc => exact h₁.then (transportExpiry_forward hcb true h₁.wf)

lemma completion_frame (w : World) (k : ℕ) (tx : TxData) :
    Frame w { w.log .completion with
      outstanding := w.outstanding.eraseIdx k, busy := w.busy.filter (· ≠ tx) } := by
  constructor <;> first | rfl | exact (Extends.refl _).cons rfl |
    exact fun o ho _ => List.mem_of_mem_eraseIdx ho

lemma directDone_forward (hcb : CbOk cb) (k : ℕ) (res : Option SendErr)
    (h : Wf w) : Forward w (directDone cb k res w) := by
  unfold directDone
  split
  next tx hk =>
    have h₁ := (completion_frame w k tx).sound h
    refine (h₁.trans (transportCallbackImpl_sound hcb res h₁.wf ?_)).forward
    exact fun hu => h.direct hu _ (List.mem_of_getElem? hk) rfl
  next => exact (Sound.refl h).forward

lemma endptDone_forward (hcb : CbOk cb) (k : ℕ) (ours : Bool)
    (attempts : List (SendErr × Option Transport)) (last : EndptLast) (h : Wf w) :
    Forward w (endptDone cb k ours attempts last w) := by
  unfold endptDone
  split
  next tx hk =>
    have h₁ := (completion_frame w k tx).sound h
    exact (h₁.trans (runEndpt_sent hcb (sendLastTx_sent hcb) tx ours _ last h₁.wf).1.toSound).forward
  next => exact (Sound.refl h).forward

lemma disconnect_forward (e : Option SendErr) (h : Wf w) :
    Forward w (disconnect e w) := by
  unfold disconnect
  split_ifs with ht
  · exact (tpStateDisconnected_sound h (fun hu => h.resolved hu ht) e).forward
  · exact (Sound.refl h).forward

lemma step_forward (i : Input × Env) (h : Wf w) : Forward w (step w i) := by
  obtain ⟨i, env⟩ := i
  have hcb := tuCallback_ok env.tu.length
  have h₁ := (env_frame env w).sound h
  refine h₁.then ?_
  cases i with
  | tu c => exact (tuCall_sound hcb c h₁.wf).forward
  | recv m => exact ((stateHandler_sound hcb (.rxMsg m) h₁.wf).2.2 rfl).forward
  | retransmitExpiry => exact retransmitExpiry_forward hcb h₁.wf
  | timeoutExpiry => exact timeoutExpiry_forward hcb h₁.wf
  | directDone k res => exact directDone_forward hcb k res h₁.wf
  | endptDone k ours attempts last => exact endptDone_forward hcb k ours attempts last h₁.wf
  | disconnect e => exact disconnect_forward e h₁.wf

lemma created_wf (h : Created w) : Wf w := by
  cases h with
  | uac cfg method tx reliable =>
    constructor
    · constructor <;> simp [createUac, newWorld, newTsx, tsxStateHandler, tsxStateHandlerUac,
        PjProject.Transaction.allowed, TraceOk]
    all_goals simp [createUac, newWorld, newTsx]
  | uas cfg method handle200resp reliable tp =>
    have h₀ : Wf (newWorld cfg (newTsx .uas method handle200resp reliable)) := by
      constructor
      · constructor <;> simp [newWorld, newTsx, tsxStateHandler, tsxStateHandlerUas,
          PjProject.Transaction.allowed, TraceOk]
      all_goals simp [newWorld, newTsx]
    cases tp with
    | none => exact h₀
    | some t =>
      obtain ⟨pt, err, tm, -, -, -, -, heq⟩ := adoptTransport_eq t
        (newWorld cfg (newTsx .uas method handle200resp reliable))
      have : createUas cfg method handle200resp reliable (some t) = adoptTransport t
          (newWorld cfg (newTsx .uas method handle200resp reliable)) := rfl
      rw [this, heq]
      exact { h₀ with
        resolved := by simp [newWorld, newTsx]
        pending := by simp [newWorld, newTsx] }

lemma run_wf (h : Created w) (es : List (Input × Env)) :
    Wf (run step w es) :=
  have hstep : ∀ w i, Wf w → Wf (step w i) := fun _ i hw => (step_forward i hw).1
  run_invariant hstep (created_wf h) es

lemma run_le (h : Wf w) (es : List (Input × Env)) :
    Le w (run step w es) := by
  induction es generalizing w with
  | nil => exact Le.refl w
  | cons i es ih =>
    obtain ⟨hwf, hle⟩ := step_forward i h
    exact hle.trans (ih hwf)

lemma TraceOk.obs {t : List Obs} (h : TraceOk role t) (ho : o ∈ t) :
    ObsOk role o := by
  induction t with
  | nil => simp at ho
  | cons x t ih =>
    rcases List.mem_cons.1 ho with rfl | ho
    · exact h.1
    · exact ih h.2.2 ho

lemma TraceOk.silent {newer older : List Obs}
    (h : TraceOk role (newer ++ .notify .destroyed :: older)) (ho : o ∈ newer) :
    o.isNotification = false := by
  induction newer with
  | nil => simp at ho
  | cons x newer ih =>
    rcases List.mem_cons.1 ho with rfl | ho
    · by_contra hn
      exact h.2.1 (by simpa using hn) (by simp)
    · exact ih h.2.2 ho

/-- In every run of a transaction, with any answers of the transport layer and any
calls the TU makes inside its callbacks: every call of `tsx_set_state` goes forward
and stays within the states of the role, the state itself never decreases, the
installed handler is that of the state and never NULL, and the TU is notified of
nothing after DESTROYED. -/
theorem run_state_order {w₀ : World} (h : Created w₀) (es fs : List (Input × Env)) :
    let w := run step w₀ es
    w.tsx.state.rank ≤ (run step w₀ (es ++ fs)).tsx.state.rank ∧
    (∀ prev next, Obs.setState prev next ∈ w.trace →
      prev.rank ≤ next.rank ∧ allowed w₀.tsx.role next = true) ∧
    allowed w₀.tsx.role w.tsx.state = true ∧
    w.tsx.stateHandler = tsxStateHandler w₀.tsx.role w.tsx.state ∧
    w.tsx.stateHandler.isSome ∧ Obs.nullHandler ∉ w.trace ∧
    ∀ newer older, w.trace = newer ++ .notify .destroyed :: older →
      ∀ o ∈ newer, o.isNotification = false := by
  intro w
  have hwf : Wf w := run_wf h es
  have hrole : w.tsx.role = w₀.tsx.role := (run_le (created_wf h) es).role
  have ht : TraceOk w₀.tsx.role w.trace := hrole ▸ hwf.trace
  have hallow : allowed w₀.tsx.role w.tsx.state = true := hrole ▸ hwf.allowed
  have hhandler : w.tsx.stateHandler = tsxStateHandler w₀.tsx.role w.tsx.state :=
    hrole ▸ hwf.handler
  refine ⟨?_, fun prev next hm => ht.obs hm, hallow, hhandler, ?_, fun hm => ht.obs hm, ?_⟩
  · rw [run_append]
    exact (run_le hwf fs).rank
  · rw [hhandler]
    cases hr : w₀.tsx.role <;> cases hs : w.tsx.state <;> rw [hr, hs] at hallow <;>
      first | rfl | simp [allowed] at hallow
  · intro newer older heq o ho
    rw [heq] at ht
    exact ht.silent ho

def inviteUac : World := createUac ⟨500, 4000, none⟩ .invite ⟨0, .request .invite⟩ false

def sendNow : Input × Env :=
  (.tu (.sendMsg none), ⟨[], [.run [] (.sent ⟨1, false, false⟩)], [], []⟩)

/-- A 200 response and the zero timer destroy the transaction, and the TU hears of it. -/
theorem run_state_order_invite :
    Obs.notify .destroyed ∈ (run step inviteUac [sendNow,
      (.recv (.response ⟨200, by omega, by omega⟩), .empty), (.timeoutExpiry, .empty)]).trace ∧
    Obs.nullHandler ∉ (run step inviteUac [sendNow,
      (.recv (.response ⟨200, by omega, by omega⟩), .empty), (.timeoutExpiry, .empty)]).trace := by
  refine ⟨by decide, ?_⟩
  exact (run_state_order (.uac ⟨500, 4000, none⟩ .invite ⟨0, .request .invite⟩ false (by decide) rfl)
    [sendNow, (.recv (.response ⟨200, by omega, by omega⟩), .empty), (.timeoutExpiry, .empty)]
    []).2.2.2.2.2.1

end PjProject.Transaction
