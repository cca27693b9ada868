import PjProject.Evsub

/-!
# The timers of a subscriber

A subscriber has one timer for four purposes. While it is subscribed, the timer is to be
running whenever no SUBSCRIBE is in progress, or the subscription lapses unnoticed; and the
timer that a rejected NOTIFY has started is to stop when a later NOTIFY is accepted. The steps
that break this are named one kind at a time. In every run without such a step both hold
throughout.
-/
namespace PjProject.Evsub
open Transition

/-- The state TERMINATED is left: by the state of a NOTIFY that was received, by the return to
the old state after a refused refresh, or by the state of a NOTIFY that was sent. -/
def Leaves (s : Sub) (e : Event) : Prop :=
  s.state = .terminated ∧
    match e, s.stack with
    | .ret ok _, .notifyAnswer _ st :: _ => ok = true ∧ st ≠ .terminated
    | .ret _ _, .refreshAnswer _ old code :: _ => code / 100 ≠ 2 ∧ old ≠ .terminated
    | .ret ok _, .request notify _ :: _ =>
      ok = true ∧ notify = true ∧ s.dstState ≠ .null ∧ s.dstState ≠ .terminated
    | _, _ => False

instance (s : Sub) (e : Event) : Decidable (Leaves s e) := by
  unfold Leaves; split <;> infer_instance

def Frame.sends : Frame → Bool
  | .request false _ | .auth _ => true
  | _ => false

def Sub.subscribing (s : Sub) : Bool := s.pendingSub.isSome || s.stack.any Frame.sends

def TimerType.ofUac : TimerType → Bool
  | .uacRefresh | .uacTerminate | .uacWaitNotify => true
  | _ => false

def Sub.covered (s : Sub) : Bool :=
  s.expires = 0 ∨ s.state = .null ∨ s.state = .terminated ∨ s.timer.ofUac ∨ s.subscribing

/-- The transaction for which `on_tsx_state_uac` runs in this step, with the subscription as it
finds it. -/
def Sub.handler (s : Sub) : Event → Option (ℕ × Info × Sub)
  | .tsx id st code info =>
    (s.tsxs[id]?).bind fun t =>
      let u := { t with state := st, statusCode := code }
      let s := { s with tsxs := s.tsxs.set id u }
      if t.state.follows st ∧ (u.attached ∨ s.attaches u info) ∧ ¬ (s.user.onTsxState ∧ s.callCb)
      then some (id, info, if u.attached then s else onNewTransaction id u s)
      else none
  | .ret _ _ =>
    match s.stack with
    | .tsxCb id info :: rest => some (id, info, { s with stack := rest })
    | _ => none
  | _ => none

/-- The NOTIFY that `on_tsx_state_uac` accepts without asking the application. -/
def Sub.notified (s : Sub) (id : ℕ) (info : Info) : Option SubStateHdr :=
  (s.tsxs[id]?).bind fun t =>
    if s.subscribes t = false ∧ t.method = .notify ∧ t.state = .trying ∧
      ¬ (s.user.onRxNotify ∧ s.callCb) then info.subState else none

def Sub.accepts (s : Sub) (e : Event) : Option SubStateHdr :=
  match e, s.stack with
  | .ret _ code, .rxNotify _ hdr :: _ => if finalCode code < 300 then some hdr else none
  | _, _ => (s.handler e).bind fun x => x.2.2.notified x.1 x.2.1

def Rejects (s : Sub) (e : Event) : Prop :=
  match e, s.stack with
  | .ret ok _, .notifyReject _ :: _ => ok = true
  | _, _ => False

structure TimerLaw (s₀ : Sub) (es : List Event) : Prop where
  running : ∀ pre, pre <+: es →
    (run step s₀ pre).state = .accepted ∨ (run step s₀ pre).state = .pending ∨
      (run step s₀ pre).state = .active →
    (run step s₀ pre).expires ≠ 0 → (run step s₀ pre).subscribing = false →
    (run step s₀ pre).timer = .uacRefresh ∨ (run step s₀ pre).timer = .uacWaitNotify ∨
      (run step s₀ pre).timer = .uacTerminate
  renewed : ∀ pre info, pre <+: es → (run step s₀ pre).renewedExpires info ≠ 0 →
    ∃ d ≤ (run step s₀ pre).renewedExpires info, updateRefresh info (run step s₀ pre) =
      setTimer .uacRefresh d
        { run step s₀ pre with expires := (run step s₀ pre).renewedExpires info }
  extended : ∀ pre id hdr, pre <+: es → (run step s₀ pre).refreshes hdr = true →
    ∃ d, (∀ e ∈ hdr.expiresParam, d ≤ e) ∧ acceptNotify id hdr (run step s₀ pre) =
      (setTimer .uacRefresh d (run step s₀ pre)).push (.notifyAnswer id hdr.state)
  stopped : ∀ pre e mid, pre ++ e :: mid <+: es → ∀ hdr, (run step s₀ pre).accepts e = some hdr →
    hdr.state ≠ .terminated →
    Guarded step (fun s e => ¬ Rejects s e) (run step s₀ (pre ++ [e])) mid →
    (run step s₀ (pre ++ e :: mid)).timer ≠ .uacWaitNotify

/-- What a 32-bit `expires` parameter can hold, when it is specified. -/
def SubStateHdr.fits (hdr : SubStateHdr) : Bool := hdr.expiresParam.all (· < expiresNotSpecified)

def Info.fits (info : Info) : Bool :=
  info.expires.all (· ≤ expiresNotSpecified) ∧ info.subState.all SubStateHdr.fits

def Event.ofUac : Event → Bool
  | .tsx _ _ _ info => info.fits
  | .initiate _ expires => expires ≤ expiresNotSpecified
  | .notify _ | .uasSetTimeout _ => false
  | _ => true

/-- `on_tsx_state_uac` is done with a SUBSCRIBE and nothing takes its place: the subscription
enters SENT without one, or the final response is one that is passed over. -/
def Sub.drops (s : Sub) (id : ℕ) : Bool :=
  (s.tsxs[id]?).any fun t =>
    s.subscribes t ∧
      if s.state = .null ∧ t.state = .calling then ({ s with state := .sent }).covered = false
      else s.pendingSub = some id ∧ ({ s with pendingSub := none }).covered = false ∧
        (t.state = .terminated ∧
            (t.statusCode = 401 ∨ t.statusCode = 407 ∨ t.statusCode / 100 = 2) ∨
          (t.state = .completed ∨ t.state = .terminated) ∧ t.statusCode = 490)

/-- The timer is lost: it fires and its SUBSCRIBE cannot be created, a SUBSCRIBE is not sent or
is passed over, or the subscription is entered or resumed without one. -/
def Lapses (s : Sub) (e : Event) : Prop :=
  match e, s.stack with
  | .timer created, _ => created = false ∧ s.timer ≠ .uacTerminate ∧
      ({ s with timer := .none }).covered = false
  | .initiate _ expires, _ => expires ≠ 0 ∧ expires ≠ expiresNotSpecified ∧
      ({ s with expires := expires }).covered = false
  | .ret _ _, .request false _ :: rest => ({ s with stack := rest }).covered = false
  | .ret ok _, .auth _ :: rest => ok = true ∧ ({ s with stack := rest }).covered = false
  | .ret ok _, .notifyAnswer _ st :: rest =>
    ok = true ∧ ({ s with state := st, stack := rest }).covered = false
  | _, _ => (s.handler e).any (fun x => x.2.2.drops x.1) = true

def KeepsWaiting (s : Sub) (e : Event) : Prop :=
  s.timer = .uacWaitNotify ∧
    (s.accepts e).any (fun hdr => s.refreshes hdr = false ∧ hdr.state ≠ .terminated) = true

instance (s : Sub) (e : Event) : Decidable (Rejects s e) := by
  unfold Rejects; split <;> infer_instance

instance (s : Sub) (e : Event) : Decidable (Lapses s e) := by
  unfold Lapses; split <;> infer_instance

instance (s : Sub) (e : Event) : Decidable (KeepsWaiting s e) := by
  unfold KeepsWaiting; infer_instance

def Attended (s : Sub) (e : Event) : Prop :=
  e.ofUac = true ∧ ¬ Lapses s e ∧ ¬ KeepsWaiting s e ∧ ¬ Leaves s e

instance (s : Sub) (e : Event) : Decidable (Attended s e) := by
  unfold Attended; infer_instance

def Frame.ofUac : Frame → Prop
  | .tsxCb _ info => info.fits = true
  | .rxNotify _ hdr => hdr.fits = true
  | .state _ _ next => next = .done ∨ ∃ id, next = .finish id
  | .notifyReject _ | .notifyAnswer _ _ | .auth _ => True
  | .request _ refresh => refresh = none
  | _ => False

/-- What holds of a subscriber between any two calls; with `q`, the timer of a rejected NOTIFY
is not running. -/
structure Subscriber (q : Bool) (s : Sub) : Prop where
  role : s.role = .uac
  automatic : s.user.onClientRefresh = false
  idle : s.callingOnRxRefresh = false
  noNotify : s.dstState = .null
  timer : s.timer ≠ .uasTimeout
  quiet : q = true → s.timer ≠ .uacWaitNotify
  bounded : s.expires ≤ expiresNotSpecified
  frames : ∀ f ∈ s.stack, f.ofUac
  ending : ∀ prev next, .state .terminated prev next ∈ s.stack → s.state = .terminated

@[simp] lemma setTimer_state (s : Sub) (tm : TimerType) (seconds : ℕ) : (setTimer tm seconds s).state = s.state := by
  unfold setTimer
  split <;> rfl

section Timers

variable {q : Bool} {s : Sub} {id : ℕ} {t : Tsx} {info : Info} {hdr : SubStateHdr}

lemma covered_iff : s.covered = true ↔ s.expires = 0 ∨ s.state = .null ∨ s.state = .terminated ∨
    s.timer.ofUac = true ∨ s.subscribing = true := by
  simp [Sub.covered]

lemma covered_terminated (h : s.state = .terminated) : s.covered = true :=
  covered_iff.mpr (.inr (.inr (.inl h)))

lemma covered_timer (h : s.timer.ofUac = true) : s.covered = true :=
  covered_iff.mpr (.inr (.inr (.inr (.inl h))))

lemma covered_subscribing (h : s.subscribing = true) : s.covered = true :=
  covered_iff.mpr (.inr (.inr (.inr (.inr h))))

lemma covered_push (h : s.covered = true) (f : Frame) : (s.push f).covered = true := by
  rw [covered_iff] at h ⊢
  rcases h with h | h | h | h | h
  · exact .inl h
  · exact .inr (.inl h)
  · exact .inr (.inr (.inl h))
  · exact .inr (.inr (.inr (.inl h)))
  · refine .inr (.inr (.inr (.inr ?_)))
    simp only [Sub.subscribing, Sub.push, List.any_cons, Bool.or_eq_true] at h ⊢
    exact h.imp_right .inr

lemma Subscriber.push (h : Subscriber q s) {f : Frame} (hf : f.ofUac)
    (hend : ∀ prev next, f = .state .terminated prev next → s.state = .terminated) :
    Subscriber q (s.push f) := by
  refine { h with frames := ?_, ending := ?_ }
  · exact List.forall_mem_cons.mpr ⟨hf, h.frames⟩
  · intro prev next hmem
    rcases List.mem_cons.mp hmem with heq | hmem
    · exact hend prev next heq.symm
    · exact h.ending prev next hmem

lemma Subscriber.pop (h : Subscriber q s) {f : Frame} {rest : List Frame}
    (hstack : s.stack = f :: rest) : f.ofUac ∧ Subscriber q { s with stack := rest } := by
  refine ⟨h.frames f (by rw [hstack]; exact List.mem_cons_self ..), ?_⟩
  refine { h with frames := ?_, ending := ?_ }
  · exact fun g hg => h.frames g (by rw [hstack]; exact List.mem_cons_of_mem _ hg)
  · exact fun prev next hmem => h.ending prev next (by rw [hstack]; exact List.mem_cons_of_mem _ hmem)

lemma covered_pop {f : Frame} {rest : List Frame} (hstack : s.stack = f :: rest)
    (hf : f.sends = false) (h : s.covered = true) : ({ s with stack :=rest }).covered = true := by
  rw [covered_iff] at h ⊢
  simpa [Sub.subscribing, hstack, hf] using h

lemma setTimer_start {k : TimerType} {n : ℕ} (hk : k.ofUac = true)
    (hn : n ≠ expiresNotSpecified) : (setTimer k n s).timer = k := by
  have hnone : k ≠ .none := by
    rintro rfl
    cases hk
  rw [setTimer, if_neg (by simp [hnone, hn])]

lemma Subscriber.setTimer (h : Subscriber q s) {k : TimerType} {n : ℕ}
    (hk : k.ofUac = true) (hn : n ≠ expiresNotSpecified) (hq : q = true → k ≠ .uacWaitNotify) :
    Subscriber q (setTimer k n s) ∧ (Evsub.setTimer k n s).covered = true := by
  have hcov : (Evsub.setTimer k n s).covered = true :=
    covered_timer (by rw [setTimer_start hk hn, hk])
  refine ⟨?_, hcov⟩
  have hnone : k ≠ .none := by
    rintro rfl
    cases hk
  rw [Evsub.setTimer, if_neg (by simp [hnone, hn])]
  refine { h with timer := ?_, quiet := hq }
  rintro rfl
  cases hk

lemma Subscriber.noTimer (h : Subscriber q s) : Subscriber q (Evsub.setTimer .none 0 s) := by
  rw [Evsub.setTimer, if_pos (.inl rfl)]
  exact { h with timer := by simp, quiet := fun _ => by simp }

lemma Subscriber.finish (h : Subscriber q s) : Subscriber q (finish id s) := by
  unfold Evsub.finish destroyIfDone
  split
  · split
    · exact { Subscriber.noTimer h with }
    · exact { h with }
  · exact h

lemma covered_finish (h : s.covered = true) : (finish id s).covered = true := by
  unfold Evsub.finish destroyIfDone
  split
  · split
    · rename_i hdone
      refine covered_terminated ?_
      exact (setTimer_state _ _ _).trans hdone.1
    · rw [covered_iff] at h ⊢
      exact h
  · exact h

structure Kept (q : Bool) (s : Sub) : Prop where
  subscriber : Subscriber q s
  covered : s.covered = true

lemma Kept.finish (h : Kept q s) : Kept q (finish id s) :=
  ⟨h.subscriber.finish, covered_finish h.covered⟩

lemma Kept.push (h : Kept q s) {f : Frame} (hf : f.ofUac)
    (hend : ∀ prev next, f = .state .terminated prev next → s.state = .terminated) : Kept q (s.push f) :=
  ⟨h.subscriber.push hf hend, covered_push h.covered f⟩

variable {next : Next}

lemma Kept.runNext (h : Kept q s) (hnext : next = .done ∨ ∃ id, next = .finish id) :
    Kept q (runNext next s) := by
  obtain rfl | ⟨id, rfl⟩ := hnext
  · exact h
  · exact h.finish

lemma Kept.setStateEnd (h : Kept q s) {st prev : EvsubState} (hst : st = .terminated → s.state = .terminated)
    (hnext : next = .done ∨ ∃ id, next = .finish id) : Kept q (setStateEnd st prev next s) := by
  unfold Evsub.setStateEnd
  split
  · rename_i hkill
    have hterm : (Evsub.setTimer .none 0 s).state = .terminated := by
      rw [setTimer_state, hst hkill.1]
    have hk : Kept q (Evsub.setTimer .none 0 s) := ⟨h.subscriber.noTimer, covered_terminated hterm⟩
    dsimp only
    refine Kept.runNext ?_ hnext
    split
    · refine ⟨{ hk.subscriber.noTimer with }, covered_terminated ?_⟩
      exact (setTimer_state _ _ _).trans hterm
    · exact hk
  · exact h.runNext hnext

lemma Subscriber.setState (h : Subscriber q s) {st : EvsubState}
    (hfinal : s.state = .terminated → st = .terminated) (hcov : ({ s with state :=st }).covered = true)
    (hnext : next = .done ∨ ∃ id, next = .finish id) : Kept q (setState st next s) := by
  have hs : Kept q { s with state := st } := by
    refine ⟨{ h with ending := ?_ }, hcov⟩
    exact fun prev next hmem => hfinal (h.ending prev next hmem)
  unfold Evsub.setState
  dsimp only
  split
  · rw [if_neg (by simp [h.idle])]
    refine hs.push hnext fun prev next heq => ?_
    cases heq
    rfl
  · exact hs.setStateEnd (fun hst => hst) hnext

lemma Subscriber.terminate (h : Subscriber q s)
    (hnext : next = .done ∨ ∃ id, next = .finish id) : Kept q (Evsub.setState .terminated next s) :=
  h.setState (fun _ => rfl) (covered_terminated rfl) hnext

lemma refreshDelay_le (e rand : ℕ) : refreshDelay e rand ≤ e := by
  unfold refreshDelay
  dsimp only
  have hmod : rand % 10 < 10 := Nat.mod_lt _ (by norm_num)
  split <;> split <;> omega

lemma refreshDelay_ne {e : ℕ} (he : e ≤ expiresNotSpecified) (rand : ℕ) :
    refreshDelay e rand ≠ expiresNotSpecified := by
  have hmod : rand % 10 < 10 := Nat.mod_lt _ (by norm_num)
  unfold refreshDelay timeUacRefresh
  dsimp only
  unfold expiresNotSpecified at he ⊢
  split <;> split <;> omega

lemma renewedExpires_le (h : Subscriber q s) (hinfo : info.fits = true) :
    s.renewedExpires info ≤ expiresNotSpecified := by
  simp only [Info.fits, decide_eq_true_eq] at hinfo
  unfold Sub.renewedExpires
  split
  · cases he : info.expires with
    | none => exact h.bounded
    | some e => simpa [he] using hinfo.1
  · exact h.bounded

lemma updateRefresh_renews (hne : s.renewedExpires info ≠ 0) :
    updateRefresh info s = Evsub.setTimer .uacRefresh (refreshDelay (s.renewedExpires info) info.rand)
      { s with expires := s.renewedExpires info } := by
  rw [updateRefresh, if_pos hne]

lemma Subscriber.updateRefresh (h : Subscriber q s) (hinfo : info.fits = true) :
    Kept q (updateRefresh info s) := by
  have hle := renewedExpires_le h hinfo
  have hs : Subscriber q { s with expires := s.renewedExpires info } := { h with bounded := hle }
  by_cases hne : s.renewedExpires info ≠ 0
  · rw [updateRefresh_renews hne]
    obtain ⟨h1, h2⟩ := hs.setTimer (k := .uacRefresh) rfl (refreshDelay_ne hle info.rand)
      (fun _ => by simp)
    exact ⟨h1, h2⟩
  · rw [Evsub.updateRefresh, if_neg hne]
    obtain ⟨h1, h2⟩ := hs.setTimer (k := .uacTerminate) rfl (by decide : timeUacTerminate ≠ _)
      (fun _ => by simp)
    exact ⟨h1, h2⟩

lemma Subscriber.subscribed (h : Subscriber q s) (hinfo : info.fits = true) :
    Kept q (subscribed id info s) := by
  have hk : Kept q (Evsub.updateRefresh info s) := h.updateRefresh hinfo
  unfold Evsub.subscribed
  dsimp only
  split
  · rename_i hsent
    refine hk.subscriber.setState (fun hterm => ?_) ?_ (.inr ⟨id, rfl⟩)
    · rw [hsent] at hterm
      cases hterm
    · have hcov := covered_iff.mp hk.covered
      rw [hsent] at hcov
      refine covered_iff.mpr ?_
      rcases hcov with hcov | hcov | hcov | hcov
      · exact .inl hcov
      · cases hcov
      · cases hcov
      · exact .inr (.inr (.inr hcov))
  · exact hk.finish

lemma Subscriber.subscribeDone (h : Subscriber q s) (hinfo : info.fits = true)
    (hpass : t.state = .terminated ∧
        (t.statusCode = 401 ∨ t.statusCode = 407 ∨ t.statusCode / 100 = 2) ∨ t.statusCode = 490 →
      s.covered = true) : Kept q (subscribeDone id t info s) := by
  unfold Evsub.subscribeDone
  split
  · rename_i hauth
    split
    · rename_i hterm
      refine Kept.finish ⟨h, hpass (.inl ⟨hterm, ?_⟩)⟩
      exact hauth.imp_right .inl
    · refine ⟨h.push trivial (fun _ _ heq => by cases heq), covered_subscribing ?_⟩
      simp [Sub.subscribing, Sub.push, Frame.sends]
  split
  · rename_i hcode
    split
    · rename_i hterm
      exact Kept.finish ⟨h, hpass (.inl ⟨hterm, .inr (.inr hcode)⟩)⟩
    · exact h.subscribed hinfo
  split
  · rename_i hdone
    refine Kept.finish ⟨h, ?_⟩
    rcases hdone with hterm | hcode
    · exact covered_terminated hterm
    · exact hpass (.inr hcode)
  · exact h.terminate (.inr ⟨id, rfl⟩)

lemma Kept.uacSubscribe (h : Kept q s) (ht : s.tsxs[id]? = some t) (hsub : s.subscribes t = true)
    (hinfo : info.fits = true) (hdrop : s.drops id = false) : Kept q (uacSubscribe id t info s) := by
  simp only [Sub.drops, ht, hsub, true_and, Option.any_some, decide_eq_false_iff_not] at hdrop
  unfold Evsub.uacSubscribe
  split
  · rename_i hfirst
    rw [if_pos hfirst, Bool.not_eq_false] at hdrop
    refine h.subscriber.setState (fun hterm => ?_) hdrop (.inr ⟨id, rfl⟩)
    rw [hfirst.1] at hterm
    cases hterm
  rename_i hfirst
  rw [if_neg hfirst] at hdrop
  split
  · exact h.finish
  rename_i hfin
  have hfin : t.state = .completed ∨ t.state = .terminated := by
    by_contra hno
    rw [not_or] at hno
    exact hfin hno
  split
  · rename_i hpending
    refine Subscriber.subscribeDone (s := { s with pendingSub := none }) { h.subscriber with } hinfo ?_
    intro hpass
    by_contra hcov
    refine hdrop ⟨hpending, by simpa using hcov, ?_⟩
    exact hpass.imp_right fun hcode => ⟨hfin, hcode⟩
  split
  · exact h.finish
  · exact h.subscriber.subscribeDone hinfo fun _ => h.covered

lemma acceptNotify_extends (id : ℕ) (hr : s.refreshes hdr = true) :
    ∃ e, hdr.expiresParam = some e ∧ acceptNotify id hdr s =
      (Evsub.setTimer .uacRefresh (if timeUacRefresh < e then e - timeUacRefresh else e) s).push
        (.notifyAnswer id hdr.state) := by
  have hsome := hr
  simp only [Sub.refreshes, decide_eq_true_eq] at hsome
  obtain ⟨e, he⟩ := Option.isSome_iff_exists.mp hsome.2.1
  refine ⟨e, he, ?_⟩
  rw [acceptNotify, if_pos hr, he]
  rfl

lemma Kept.acceptNotify (h : Kept q s) (hhdr : hdr.fits = true) : Kept q (acceptNotify id hdr s) := by
  have hframe : (Frame.notifyAnswer id hdr.state).ofUac := trivial
  by_cases hr : s.refreshes hdr = true
  · obtain ⟨e, he, heq⟩ := acceptNotify_extends id hr
    have hlt : e < expiresNotSpecified := by simpa [SubStateHdr.fits, he] using hhdr
    rw [heq]
    obtain ⟨h1, h2⟩ := h.subscriber.setTimer (k := .uacRefresh)
      (n := if timeUacRefresh < e then e - timeUacRefresh else e) rfl (by split <;> omega)
      (fun _ => by simp)
    exact Kept.push ⟨h1, h2⟩ hframe fun _ _ heq => by cases heq
  · rw [Evsub.acceptNotify, if_neg hr]
    exact h.push hframe fun _ _ heq => by cases heq

lemma Kept.uacNotify (h : Kept q s) (hinfo : info.fits = true) : Kept q (uacNotify id t info s) := by
  simp only [Info.fits, decide_eq_true_eq] at hinfo
  unfold Evsub.uacNotify
  split
  · exact h.finish
  split
  · exact h.push trivial fun _ _ heq => by cases heq
  rename_i hdr hsome
  have hhdr : hdr.fits = true := by simpa [hsome] using hinfo.2
  split
  · exact h.push hhdr fun _ _ heq => by cases heq
  · exact h.acceptNotify hhdr

lemma Kept.handleTsx (h : Kept q s) (hinfo : info.fits = true) (hdrop : s.drops id = false) :
    Kept q (handleTsx id info s) := by
  unfold Evsub.handleTsx
  split
  · exact h
  rename_i t ht
  rw [h.subscriber.role]
  show Kept q (onTsxStateUac id t info s)
  unfold onTsxStateUac
  split
  · exact h.uacSubscribe ht ‹_› hinfo hdrop
  split
  · exact h.uacNotify hinfo
  · exact h.finish

lemma Kept.modEvsubOnTsxState (h : Kept q s) (hinfo : info.fits = true)
    (hdrop : t.attached = true ∨ s.attaches t info = true → ¬ (s.user.onTsxState ∧ s.callCb) →
        (if t.attached then s else onNewTransaction id t s).drops id = false) :
    Kept q (modEvsubOnTsxState id t info s) := by
  have hnew : Kept q (if t.attached then s else onNewTransaction id t s) := by
    split
    · exact h
    · refine ⟨{ h.subscriber with }, ?_⟩
      have hcov := h.covered
      rw [covered_iff] at hcov ⊢
      refine hcov.imp_right (.imp_right (.imp_right (.imp_right fun hsub => ?_)))
      simp only [Sub.subscribing, onNewTransaction, Bool.or_eq_true] at hsub ⊢
      refine hsub.imp_left fun hp => ?_
      split
      · rfl
      · exact hp
  have hcb : (if t.attached then s else onNewTransaction id t s).user = s.user ∧
      (if t.attached then s else onNewTransaction id t s).callCb = s.callCb := by
    split <;> exact ⟨rfl, rfl⟩
  unfold Evsub.modEvsubOnTsxState
  split
  · rename_i hatt
    dsimp only
    rw [hcb.1, hcb.2]
    split
    · exact hnew.push hinfo fun _ _ heq => by cases heq
    · exact hnew.handleTsx hinfo (hdrop hatt ‹_›)
  · exact h

variable {e : Event} {s' : Sub}

lemma not_drops (info : Info) (hok : (s.handler e).any (fun x => x.2.2.drops x.1) = false)
    (hs' : s.handler e = some (id, info, s')) : s'.drops id = false := by
  simpa [hs'] using hok

lemma Kept.tsxEvent (h : Kept q s) {st : TsxState} {code : ℕ} (hinfo : info.fits = true)
    (hok : ¬ Lapses s (.tsx id st code info)) : Kept q (tsxEvent id st code info s) := by
  have hok : (s.handler (.tsx id st code info)).any (fun x => x.2.2.drops x.1) = false := by
    simpa [Lapses] using hok
  unfold Evsub.tsxEvent
  split
  · exact h
  rename_i t ht
  split
  · rename_i hfollows
    refine Kept.modEvsubOnTsxState ⟨{ h.subscriber with }, ?_⟩ hinfo fun hatt hcb => ?_
    · have hcov := h.covered
      rw [covered_iff] at hcov ⊢
      exact hcov
    · refine not_drops info hok ?_
      simp only [Sub.handler, ht, Option.bind_some]
      rw [if_pos ⟨hfollows, hatt, hcb⟩]
  · exact h

lemma Kept.onTimer (h : Kept q s) {created : Bool} (hok : ¬ Lapses s (.timer created)) :
    Kept q (onTimer created s) := by
  have hs : Subscriber q { s with timer := .none } :=
    { h.subscriber with timer := by simp, quiet := fun _ => by simp }
  have hsent : ∀ s' : Sub, Subscriber q s' → Kept q (pjsipEvsubSendRequest false none s') := by
    intro s' hs'
    rw [pjsipEvsubSendRequest, if_neg (by simp)]
    refine ⟨hs'.push rfl (fun _ _ heq => by cases heq), covered_subscribing ?_⟩
    simp [Sub.subscribing, Sub.push, Frame.sends]
  have hlost : s.timer ≠ .uacTerminate → created = false → Kept q { s with timer := .none } := by
    intro htm hc
    refine ⟨hs, ?_⟩
    by_contra hcov
    exact hok ⟨hc, htm, by simpa using hcov⟩
  unfold Evsub.onTimer
  dsimp only
  split
  · rename_i htm
    refine ⟨hs, ?_⟩
    have hcov := covered_iff.mp h.covered
    rw [htm] at hcov
    exact covered_iff.mpr hcov
  · rename_i htm
    rw [if_neg (by simp [h.subscriber.automatic])]
    split
    · exact hsent _ { hs with bounded := by simpa [pjsipEvsubInitiate] using h.subscriber.bounded }
    · exact hlost (by simp [htm]) (eq_false_of_ne_true ‹_›)
  · exact absurd ‹_› h.subscriber.timer
  · exact hs.terminate (.inl rfl)
  · rename_i htm
    split
    · refine hsent _ { hs with bounded := ?_ }
      simp [pjsipEvsubInitiate, expiresNotSpecified]
    · exact hlost (by simp [htm]) (eq_false_of_ne_true ‹_›)

lemma Kept.initiate (h : Kept q s) {method : Method} {expires : ℕ}
    (hle : expires ≤ expiresNotSpecified) (hok : ¬ Lapses s (.initiate method expires)) :
    Kept q (pjsipEvsubInitiate method expires s) := by
  by_cases hns : expires ≠ expiresNotSpecified
  · have hs : Subscriber q { s with expires := expires } := { h.subscriber with bounded := hle }
    have hcov : ({ s with expires := expires }).covered = true := by
      by_cases h0 : expires = 0
      · exact covered_iff.mpr (.inl h0)
      · by_contra hno
        exact hok ⟨h0, hns, by simpa using hno⟩
    rw [pjsipEvsubInitiate, if_pos hns]
    exact ⟨{ hs with }, hcov⟩
  · rw [pjsipEvsubInitiate, if_neg hns]
    exact ⟨{ h.subscriber with }, h.covered⟩

lemma Kept.resume (h : Kept q s) {ok : Bool} {code : ℤ} (hok : ¬ Lapses s (.ret ok code))
    (hleave : ¬ Leaves s (.ret ok code)) (hq : q = true → ¬ Rejects s (.ret ok code)) :
    Kept q (resume ok code s) := by
  unfold Evsub.resume
  split
  · exact h
  rename_i f rest hstack
  obtain ⟨hf, hs⟩ := h.subscriber.pop hstack
  have hkept : f.sends = false → Kept q { s with stack := rest } :=
    fun hsends => ⟨hs, covered_pop hstack hsends h.covered⟩
  cases f with
  | tsxCb id info =>
    refine (hkept rfl).handleTsx hf ?_
    have hok : (s.handler (.ret ok code)).any (fun x => x.2.2.drops x.1) = false := by
      simpa [Lapses, hstack] using hok
    refine not_drops info hok ?_
    simp [Sub.handler, hstack]
  | state st prev next =>
    refine (hkept rfl).setStateEnd (fun hst => ?_) hf
    subst hst
    exact h.subscriber.ending prev next (by rw [hstack]; exact List.mem_cons_self ..)
  | rxNotify id hdr =>
    dsimp only
    split
    · exact (hkept rfl).push trivial fun _ _ heq => by cases heq
    · exact (hkept rfl).acceptNotify hf
  | notifyReject id =>
    dsimp only
    split
    · rename_i hsent
      have hquiet : q ≠ true := fun hqt => hq hqt (by simpa [Rejects, hstack] using hsent)
      obtain ⟨h1, h2⟩ := hs.setTimer (k := .uacWaitNotify) rfl (by decide : timeUacWaitNotify ≠ _)
        (fun hqt => absurd hqt hquiet)
      exact Kept.finish ⟨h1, h2⟩
    · exact hs.terminate (.inr ⟨id, rfl⟩)
  | notifyAnswer id st =>
    dsimp only
    split
    · rename_i hsent
      refine hs.setState (fun hterm => ?_) ?_ (.inr ⟨id, rfl⟩)
      · by_contra hne
        exact hleave ⟨hterm, by simp [hstack, hsent, hne]⟩
      · by_contra hcov
        exact hok (by simpa [Lapses, hstack, hsent] using hcov)
    · exact hs.terminate (.inr ⟨id, rfl⟩)
  | request notify refresh =>
    obtain rfl : refresh = none := hf
    dsimp only
    rw [if_neg (by simp [h.subscriber.noNotify])]
    show Kept q { s with stack := rest }
    refine ⟨hs, ?_⟩
    cases notify with
    | false =>
      by_contra hcov
      exact hok (by simpa [Lapses, hstack] using hcov)
    | true => exact covered_pop hstack rfl h.covered
  | auth id =>
    dsimp only
    split
    · rename_i hsent
      refine Kept.finish ⟨hs, ?_⟩
      by_contra hcov
      exact hok (by simpa [Lapses, hstack, hsent] using hcov)
    · exact hs.terminate (.inr ⟨id, rfl⟩)
  | rxRefresh id old => exact hf.elim
  | deferredCb id old code => exact hf.elim
  | refreshAnswer id old code => exact hf.elim
  | accept => exact hf.elim

lemma Kept.step (h : Kept q s) (hatt : Attended s e) (hq : q = true → ¬ Rejects s e) : Kept q (step s e) := by
  obtain ⟨hof, hok, -, hleave⟩ := hatt
  cases e with
  | create role method => exact ⟨{ h.subscriber with }, h.covered⟩
  | tsx id st code info => exact h.tsxEvent hof hok
  | ret ok code => exact h.resume hok hleave hq
  | terminate notify =>
    exact Subscriber.terminate (s := { s with callCb := notify }) { h.subscriber with } (.inl rfl)
  | initiate method expires => exact h.initiate (by simpa [Event.ofUac] using hof) hok
  | notify st => cases hof
  | send notify =>
    show Kept q (pjsipEvsubSendRequest notify none s)
    rw [pjsipEvsubSendRequest, if_neg (by simp [h.subscriber.idle])]
    exact h.push rfl fun _ _ heq => by cases heq
  | uasSetTimeout seconds => cases hof
  | accept id code =>
    show Kept q (pjsipEvsubAccept id code s)
    rw [pjsipEvsubAccept, if_neg (by simp [h.subscriber.role])]
    exact h
  | timer created => exact h.onTimer hok
  | abandon => exact h.subscriber.terminate (.inl rfl)

lemma handler_spec (h : s.handler e = some (id, info, s')) :
    step s e = handleTsx id info s' ∧ s'.timer = s.timer ∧ s'.expires = s.expires ∧
      s'.role = s.role ∧ (e.ofUac = true → Subscriber q s → info.fits = true) := by
  cases e with
  | tsx i st code info' =>
    simp only [Sub.handler] at h
    cases ht : s.tsxs[i]? with
    | none => simp [ht] at h
    | some t =>
      rw [ht, Option.bind_some] at h
      split at h
      · rename_i hrun
        obtain ⟨rfl, rfl, rfl⟩ : i = id ∧ info' = info ∧ _ = s' := by simpa using h
        refine ⟨?_, ?_⟩
        · show tsxEvent i st code info' s = _
          unfold tsxEvent
          rw [ht]
          dsimp only
          rw [if_pos hrun.1, modEvsubOnTsxState, if_pos hrun.2.1]
          split <;> exact if_neg hrun.2.2
        · split <;> exact ⟨rfl, rfl, rfl, fun hof _ => hof⟩
      · cases h
  | ret ok code =>
    simp only [Sub.handler] at h
    split at h
    · rename_i i info' rest hstack
      obtain ⟨rfl, rfl, rfl⟩ : i = id ∧ info' = info ∧ _ = s' := by simpa using h
      refine ⟨?_, rfl, rfl, rfl, fun _ hs => (hs.pop hstack).1⟩
      show resume ok code s = _
      unfold resume
      rw [hstack]
    · cases h
  | _ => cases h

lemma refreshes_congr (h : s'.expires = s.expires) : s'.refreshes hdr = s.refreshes hdr := by
  simp [Sub.refreshes, h]

lemma acceptNotify_timer (hhdr : hdr.fits = true)
    (hkeep : s.timer = .uacWaitNotify → s.refreshes hdr = true) :
    (acceptNotify id hdr s).timer ≠ .uacWaitNotify := by
  by_cases hr : s.refreshes hdr = true
  · obtain ⟨e, he, heq⟩ := acceptNotify_extends id hr
    have hlt : e < expiresNotSpecified := by simpa [SubStateHdr.fits, he] using hhdr
    rw [heq, Sub.push]
    dsimp only
    rw [setTimer_start rfl (by split <;> omega)]
    simp
  · rw [acceptNotify, if_neg hr]
    exact fun htm => hr (hkeep htm)

lemma Kept.accepts_timer (h : Kept q s) (hof : e.ofUac = true)
    (hwait : ¬ KeepsWaiting s e) (hacc : s.accepts e = some hdr) (hst : hdr.state ≠ .terminated) :
    (Evsub.step s e).timer ≠ .uacWaitNotify := by
  have hkeep : s.timer = .uacWaitNotify → s.refreshes hdr = true := by
    intro htm
    by_contra hr
    exact hwait ⟨htm, by simp [hacc, hst, hr]⟩
  have hhandler : ∀ id info s', s.handler e = some (id, info, s') → s'.notified id info = some hdr →
      (Evsub.step s e).timer ≠ .uacWaitNotify := by
    intro id info s' hs' hnot
    obtain ⟨hstep, htm, hexp, hrole, hfits⟩ := handler_spec (q := q) hs'
    have hinfo : info.fits = true := hfits hof h.subscriber
    simp only [Info.fits, decide_eq_true_eq] at hinfo
    obtain ⟨t, ht, hnot⟩ := Option.bind_eq_some_iff.mp hnot
    split at hnot
    · rename_i hcond
      obtain ⟨hsub, hmeth, htry, hcb⟩ := hcond
      rw [hstep, Evsub.handleTsx, ht]
      dsimp only
      rw [hrole, h.subscriber.role]
      dsimp only
      rw [onTsxStateUac, if_neg (by simp [hsub]), if_pos hmeth, Evsub.uacNotify, if_neg (by simp [htry]),
        hnot]
      dsimp only
      rw [if_neg hcb]
      refine acceptNotify_timer (by simpa [hnot] using hinfo.2) fun htm' => ?_
      rw [refreshes_congr hexp]
      exact hkeep (htm ▸ htm')
    · cases hnot
  unfold Sub.accepts at hacc
  split at hacc
  · rename_i ok code id hdr' rest hstack
    split at hacc
    · rename_i hcode
      obtain rfl := Option.some.inj hacc
      have hhdr : hdr'.fits = true := (h.subscriber.pop hstack).1
      show (Evsub.resume ok code s).timer ≠ _
      unfold Evsub.resume
      rw [hstack]
      dsimp only
      rw [if_neg (by omega)]
      exact acceptNotify_timer hhdr hkeep
    · cases hacc
  · obtain ⟨⟨id, info, s'⟩, hs', hnot⟩ := Option.bind_eq_some_iff.mp hacc
    exact hhandler id info s' hs' hnot

lemma kept_createUac {user : User} {noEventId : Bool} {pkgExpires : ℕ}
    (hcb : user.onClientRefresh = false) (hpkg : pkgExpires ≤ expiresNotSpecified) :
    Kept q (pjsipEvsubCreateUac user noEventId pkgExpires) := by
  refine ⟨⟨rfl, hcb, rfl, rfl, ?_, fun _ => ?_, hpkg, ?_, ?_⟩, ?_⟩ <;>
    simp [pjsipEvsubCreateUac, evsubCreate, Sub.covered]

lemma Kept.run {es : List Event} (h : Kept q s)
    (hg : Guarded Evsub.step (fun s e => Attended s e ∧ (q = true → ¬ Rejects s e)) s es) :
    Kept q (run Evsub.step s es) :=
  Guarded.invariant (fun _ _ hk he => hk.step he.1 he.2) h hg

lemma Kept.stays {es : List Event} (h : Kept q s) (htm : s.timer ≠ .uacWaitNotify)
    (hg : Guarded Evsub.step Attended s es) (hrej : Guarded Evsub.step (fun s e => ¬ Rejects s e) s es) :
    (Transition.run Evsub.step s es).timer ≠ .uacWaitNotify := by
  have hs : Kept true s := ⟨{ h.subscriber with quiet := fun _ => htm }, h.covered⟩
  refine (Kept.run hs ?_).subscriber.quiet rfl
  refine guarded_iff.mpr fun pre e post heq => ?_
  exact ⟨guarded_iff.mp hg pre e post heq, fun _ => guarded_iff.mp hrej pre e post heq⟩

lemma Kept.timer_running (h : Kept q s)
    (hst : s.state = .accepted ∨ s.state = .pending ∨ s.state = .active) (hexp : s.expires ≠ 0)
    (hsub : s.subscribing = false) :
    s.timer = .uacRefresh ∨ s.timer = .uacWaitNotify ∨ s.timer = .uacTerminate := by
  have hcov := covered_iff.mp h.covered
  have htm : s.timer.ofUac = true := by
    rcases hst with hst | hst | hst <;> simpa [hst, hexp, hsub] using hcov
  cases hk : s.timer <;> simp_all [TimerType.ofUac]

end Timers

/-- In every run of a subscriber that loses no SUBSCRIBE, keeps no timer of a rejected NOTIFY and
does not leave TERMINATED, the timer runs whenever the subscription needs it, its delays do not
exceed the expiration, and an accepted NOTIFY stops the timer of a rejected one. -/
theorem timerLaw_of_attended (user : User) (noEventId : Bool) (pkgExpires : ℕ) (es : List Event)
    (hcb : user.onClientRefresh = false) (hpkg : pkgExpires ≤ expiresNotSpecified)
    (hg : Guarded step Attended (pjsipEvsubCreateUac user noEventId pkgExpires) es) :
    TimerLaw (pjsipEvsubCreateUac user noEventId pkgExpires) es := by
  have hkept : ∀ pre, pre <+: es →
      Kept false (run step (pjsipEvsubCreateUac user noEventId pkgExpires) pre) := by
    rintro pre ⟨post, rfl⟩
    refine Kept.run (kept_createUac hcb hpkg) ?_
    exact guarded_iff.mpr fun pre' e post' heq =>
      ⟨guarded_iff.mp hg.append.1 pre' e post' heq, fun hq => by cases hq⟩
  refine ⟨fun pre hp hst hexp hsub => (hkept pre hp).timer_running hst hexp hsub, ?_, ?_, ?_⟩
  · exact fun pre info _ hne => ⟨_, refreshDelay_le _ info.rand, updateRefresh_renews hne⟩
  · intro pre id hdr _ hr
    obtain ⟨e, he, heq⟩ := acceptNotify_extends id hr
    refine ⟨_, fun e' he' => ?_, heq⟩
    obtain rfl : e = e' := Option.some.inj (he.symm.trans he')
    split
    · exact Nat.sub_le ..
    · exact le_rfl
  · rintro pre e mid ⟨post, rfl⟩ hdr hacc hst hrej
    rw [List.append_assoc, List.cons_append] at hg
    obtain ⟨hpre, he, hmid⟩ := hg.append
    have hk := hkept pre ⟨e :: mid ++ post, by simp⟩
    have hk' := hk.step he fun hq => by cases hq
    have htm := hk.accepts_timer he.1 he.2.2.1 hacc hst
    rw [run_append] at hrej ⊢
    exact hk'.stays htm hmid.append.1 hrej

def watcher : User := ⟨true, false, true, true, false, false⟩

def sentReq : Info := ⟨.txMsg, true, true, none, none, false, false, 0⟩

def received (expires : Option ℕ) (hdr : Option SubStateHdr) : Info :=
  ⟨.rxMsg, true, true, expires, hdr, false, false, 0⟩

def subscribeOk : List Event :=
  [.initiate .subscribe 300, .send false, .create .uac .subscribe, .tsx 0 .calling 0 sentReq,
    .ret true 0, .ret true 0, .tsx 0 .completed 200 (received (some 300) none), .ret true 0]

def rejectedNotify : List Event :=
  [.create .uas .notify, .tsx 1 .trying 0 (received none (some ⟨.active, some 300⟩)), .ret true 500,
    .tsx 1 .completed 500 sentReq, .ret true 0]

def acceptedNotify (expires : Option ℕ) : List Event :=
  [.create .uas .notify, .tsx 2 .trying 0 (received none (some ⟨.active, expires⟩)), .ret true 200]

theorem timerLaw_of_attended_accepted : TimerLaw (pjsipEvsubCreateUac watcher false 300)
      (subscribeOk ++ rejectedNotify ++ acceptedNotify (some 300)) :=
  timerLaw_of_attended watcher false 300 _ rfl (by decide) (by decide)

/-- The subscription is left ACCEPTED without a timer where its refresh cannot be created; and the
timer of a rejected NOTIFY outlives an accepted one without `expires`, and unsubscribes. -/
theorem timer_lost_and_kept :
    ¬ TimerLaw (pjsipEvsubCreateUac watcher false 300) (subscribeOk ++ [.timer false]) ∧
    ¬ TimerLaw (pjsipEvsubCreateUac watcher false 300)
      (subscribeOk ++ rejectedNotify ++ acceptedNotify none) ∧
    (run step (pjsipEvsubCreateUac watcher false 300) (subscribeOk ++ rejectedNotify ++ acceptedNotify none ++
        [.ret true 0, .ret true 0, .timer true])).expires = 0 := by
  refine ⟨fun h => ?_, fun h => ?_, by decide⟩
  · have := h.running _ (List.prefix_refl _) (.inl (by decide)) (by decide) (by decide)
    revert this
    decide
  · have := h.stopped (subscribeOk ++ rejectedNotify ++ (acceptedNotify none).take 2) (.ret true 200) []
      (by decide) ⟨.active, none⟩ (by decide) (by decide) trivial
    revert this
    decide

end PjProject.Evsub
