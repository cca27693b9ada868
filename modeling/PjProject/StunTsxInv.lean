import PjProject.StunTsx

/-!
# STUN client transaction: the invariant

What the fields of a transaction have to do with each other in every run: the `id` of a
timer entry says whether it runs, `on_complete` is called once and `complete` says so, and
a transaction that is being destroyed has no retransmit timer.
-/
namespace PjProject.StunTsx

structure Inv (s : Tsx) : Prop where
  timer_id : s.retransmitTimer.id = s.retransmitTimer.running
  destroy_id : s.destroyTimer.id = s.destroyTimer.running
  once : s.trace.count .completed ≤ 1
  marked : .completed ∈ s.trace → s.complete = true
  told : s.complete = true → s.onComplete = true → .completed ∈ s.trace
  quiet : s.isDestroying = true → s.retransmitTimer.running = false
  destroying : s.destroyTimer.running = true → s.isDestroying = true
  unset : s.onComplete = false → s.isDestroying = true
  counted : s.retransmitTimer.running = true → s.requireRetransmit = false →
    maxTransmitCount ≤ s.transmitCount

lemma create_inv (rtoMsec : ℕ) : Inv (create rtoMsec) := by
  constructor <;> simp [create]

variable {s : Tsx}

lemma Inv.observe (h : Inv s) {o : Obs} (ho : o ≠ .completed) : Inv (s.observe o) where
  timer_id := h.timer_id
  destroy_id := h.destroy_id
  once := by
    rw [Tsx.observe, List.count_cons_of_ne ho]
    exact h.once
  marked hm := h.marked (by simpa [Tsx.observe, Ne.symm ho] using hm)
  told hc ho := List.mem_cons_of_mem _ (h.told hc ho)
  quiet := h.quiet
  destroying := h.destroying
  unset := h.unset
  counted := h.counted

lemma Inv.withTimer (h : Inv s) {entry : TimerEntry} (hid : entry.id = entry.running)
    (hquiet : s.isDestroying = true → entry.running = false)
    (hcounted : entry.running = true → s.requireRetransmit = false → maxTransmitCount ≤ s.transmitCount) :
    Inv { s with retransmitTimer := entry } :=
  ⟨hid, h.destroy_id, h.once, h.marked, h.told, hquiet, h.destroying, h.unset, hcounted⟩

lemma Inv.withIdle (h : Inv s) {entry : TimerEntry} (hid : entry.id = false)
    (hidle : entry.running = false) : Inv { s with retransmitTimer := entry } :=
  h.withTimer (hid.trans hidle.symm) (fun _ => hidle) fun hr => absurd hr (by simp [hidle])

lemma cancelIfActive_running (t : TimerEntry) : t.cancelIfActive.running = false := by
  unfold TimerEntry.cancelIfActive
  split <;> simp_all

lemma cancelIfActive_id {t : TimerEntry} (h : t.id = t.running) : t.cancelIfActive.id = false := by
  unfold TimerEntry.cancelIfActive
  split <;> simp_all

lemma Inv.cancelRetransmit (h : Inv s) : Inv (cancelRetransmit s) :=
  h.withIdle (cancelIfActive_id h.timer_id) (cancelIfActive_running _)

lemma Inv.stop (h : Inv s) : Inv (pjStunClientTsxStop s) := by
  have hs := (h.cancelRetransmit).observe (o := .stopped) (by decide)
  refine ⟨hs.timer_id, ?_, hs.once, hs.marked, hs.told, hs.quiet, ?_, hs.unset, hs.counted⟩
  · change s.destroyTimer.cancelIfActive.id = s.destroyTimer.cancelIfActive.running
    rw [cancelIfActive_id h.destroy_id, cancelIfActive_running]
  · intro hr
    exact absurd hr (by simp [pjStunClientTsxStop, cancelIfActive_running])

lemma Inv.complete (h : Inv s) : Inv (completeTsx s) := by
  unfold completeTsx
  split
  · exact h
  next hcomplete =>
    have hnot : .completed ∉ s.trace := fun hm => hcomplete (h.marked hm)
    dsimp only
    split
    next hon =>
      refine ⟨h.timer_id, h.destroy_id, ?_, fun _ => rfl, fun _ _ => List.mem_cons_self,
        h.quiet, h.destroying, h.unset, h.counted⟩
      simp [Tsx.observe, List.count_eq_zero_of_not_mem hnot]
    next hoff =>
      exact ⟨h.timer_id, h.destroy_id, h.once, fun _ => rfl, fun _ hon => absurd hon hoff,
        h.quiet, h.destroying, h.unset, h.counted⟩

lemma Inv.sendPacket (h : Inv s) (modCount : Bool) (out : SendOutcome) :
    Inv (sendPacket modCount out s).1 := by
  have hcount : Inv { s with transmitCount := s.transmitCount + modCount.toNat } :=
    ⟨h.timer_id, h.destroy_id, h.once, h.marked, h.told, h.quiet, h.destroying, h.unset,
      fun hr hq => (h.counted hr hq).trans (Nat.le_add_right _ _)⟩
  have hsent := hcount.observe (o := .sent) (by decide)
  cases out with
  | ok => exact hsent
  | destroyed => exact hsent.stop
  | invalidOp => exact hsent.cancelRetransmit
  | error =>
    cases modCount with
    | false => exact hsent
    | true => exact hsent.cancelRetransmit

lemma schedule_spec {t : TimerEntry} (accepts : Bool) (h : t.running = false) :
    t.schedule accepts = if accepts then (⟨true, true⟩, true) else (t, false) := by
  simp [TimerEntry.schedule, h]

lemma Inv.armed (h : Inv s) (hidle : s.retransmitTimer.running = false) (hlive : s.isDestroying = false)
    (hcounted : s.requireRetransmit = false → maxTransmitCount ≤ s.transmitCount)
    (accepts : Bool) :
    Inv (let (entry, success) := s.retransmitTimer.schedule accepts
      if success then ({ s with retransmitTimer := entry }, true)
      else ({ s with retransmitTimer := { s.retransmitTimer with id := false } }, false)).1 := by
  rw [schedule_spec accepts hidle]
  cases accepts with
  | true => exact h.withTimer rfl (fun hd => absurd hd (by simp [hlive])) fun _ => hcounted
  | false => exact h.withIdle rfl hidle

lemma Inv.scheduleRetransmit (h : Inv s) (hidle : s.retransmitTimer.running = false)
    (hlive : s.isDestroying = false) (hrequire : s.requireRetransmit = true) (accepts : Bool) :
    Inv (scheduleRetransmit accepts s).1 := by
  have htime : Inv { s with retransmitTime := nextDelay s } :=
    ⟨h.timer_id, h.destroy_id, h.once, h.marked, h.told, h.quiet, h.destroying, h.unset, h.counted⟩
  exact (htime.observe (o := .delay s.transmitCount (nextDelay s)) (by simp)).armed hidle hlive
    (fun hq => absurd hq (by simp [Tsx.observe, hrequire])) accepts

lemma Inv.scheduleTimeout (h : Inv s) (hidle : s.retransmitTimer.running = false)
    (hlive : s.isDestroying = false) (accepts : Bool) : Inv (scheduleTimeout accepts s).1 := by
  have htime : Inv { s with
      transmitCount := maxTransmitCount, retransmitTime := s.rtoMsec * 16 % 2 ^ 32 } :=
    ⟨h.timer_id, h.destroy_id, h.once, h.marked, h.told, h.quiet, h.destroying, h.unset,
      fun _ _ => le_rfl⟩
  exact (htime.observe (o := .timeout (s.rtoMsec * 16 % 2 ^ 32)) (by simp)).armed hidle hlive
    (fun _ => le_rfl) accepts

lemma Inv.tsxTransmitMsg (h : Inv s) (modCount accepts : Bool) (out : SendOutcome)
    (hlive : s.isDestroying = false) : Inv (tsxTransmitMsg modCount accepts out s).1 := by
  unfold StunTsx.tsxTransmitMsg
  split
  · exact h
  next hbusy =>
    split
    next hrequire =>
      simp only [Bool.and_eq_true] at hbusy hrequire
      have hidle : s.retransmitTimer.running = false := by
        rw [← h.timer_id]
        simpa [hrequire.1, hrequire.2] using hbusy
      have harmed := h.scheduleRetransmit hidle hlive hrequire.1 accepts
      dsimp only
      split
      · exact harmed.sendPacket modCount out
      · exact harmed
    · exact h.sendPacket modCount out

lemma Inv.startTransmit (h : Inv s) (accepts : Bool) (out : SendOutcome)
    (hlive : s.isDestroying = false) : Inv (startTransmit accepts out s) := by
  have hsent := h.tsxTransmitMsg true accepts out hlive
  unfold StunTsx.startTransmit
  dsimp only
  split
  · exact hsent.observe (by decide)
  · exact hsent.cancelRetransmit

lemma Inv.clearTimerId (h : Inv s) (hidle : s.retransmitTimer.running = false) : Inv (clearTimerId s) :=
  h.withIdle rfl hidle

lemma schedule_running_of_failed {accepts : Bool}
    (hidle : s.retransmitTimer.running = false) (h : (scheduleRetransmit accepts s).2 = false) :
    (scheduleRetransmit accepts s).1.retransmitTimer.running = false := by
  cases accepts <;> simp_all [scheduleRetransmit, TimerEntry.schedule, Tsx.observe]

lemma transmit_running_of_failure {accepts : Bool} {out : SendOutcome}
    (hid : s.retransmitTimer.id = false) (hidle : s.retransmitTimer.running = false)
    (h : (tsxTransmitMsg true accepts out s).2 = .failure) :
    (tsxTransmitMsg true accepts out s).1.retransmitTimer.running = false := by
  have hpacket (u : Tsx) (hu : (sendPacket true out u).2 = .failure) :
      (sendPacket true out u).1.retransmitTimer.running = false := by
    cases out <;>
      simp_all [sendPacket, cancelRetransmit, Tsx.observe, cancelIfActive_running]
  unfold tsxTransmitMsg at h ⊢
  simp only [hid, Bool.false_and, Bool.false_eq_true, if_false, Bool.and_true] at h ⊢
  split at h
  next hrequire =>
    rw [if_pos hrequire]
    cases hsched : (scheduleRetransmit accepts s).2 with
    | true =>
      simp only [hsched, if_true] at h ⊢
      exact hpacket _ h
    | false =>
      simp only [hsched, Bool.false_eq_true, if_false] at h ⊢
      exact schedule_running_of_failed hidle hsched
  next hrequire =>
    rw [if_neg hrequire]
    exact hpacket _ h

lemma scheduleTimeout_isDestroying (accepts : Bool) (s : Tsx) :
    (scheduleTimeout accepts s).1.isDestroying = s.isDestroying := by
  unfold scheduleTimeout
  dsimp only
  split <;> rfl

lemma scheduleTimeout_requireRetransmit (accepts : Bool) (s : Tsx) :
    (scheduleTimeout accepts s).1.requireRetransmit = s.requireRetransmit := by
  unfold scheduleTimeout
  dsimp only
  split <;> rfl

lemma Inv.sendMsg (h : Inv s) (retransmit accepts : Bool) (out : SendOutcome) :
    Inv (pjStunClientTsxSendMsg retransmit accepts out s) := by
  unfold pjStunClientTsxSendMsg
  split
  · exact h
  next hid =>
    have hidle : s.retransmitTimer.running = false := by
      rw [← h.timer_id]
      simpa using hid
    split
    · exact h.observe (by decide)
    next hlive =>
      have hlive' : s.isDestroying = false := by simpa using hlive
      have hrequire : Inv { s with requireRetransmit := retransmit } :=
        ⟨h.timer_id, h.destroy_id, h.once, h.marked, h.told, h.quiet, h.destroying, h.unset,
          fun hr => absurd hr (by simp [hidle])⟩
      have hbegun : Inv (beginSend retransmit s) :=
        hrequire.observe (o := .begun retransmit) (by simp)
      dsimp only
      split
      · exact hbegun.startTransmit accepts out hlive'
      · have htimeout := hbegun.scheduleTimeout hidle hlive' accepts
        split
        · exact htimeout.startTransmit accepts out
            ((scheduleTimeout_isDestroying accepts _).trans hlive')
        · exact htimeout

lemma Inv.expired (h : Inv s) : Inv (StunTsx.clearTimerId (removeTimer s)) :=
  h.withIdle rfl rfl

lemma Inv.live_of_running (h : Inv s) (hrunning : s.retransmitTimer.running = true) :
    s.isDestroying = false := by
  by_contra hd
  have := h.quiet (by simpa using hd)
  simp [this] at hrunning

lemma Inv.timerExpiry (h : Inv s) (accepts : Bool) (out : SendOutcome) :
    Inv (step s (.timerExpiry accepts out)) := by
  unfold step
  dsimp only
  split
  next hrunning =>
    have hlive := h.live_of_running hrunning
    unfold retransmitTimerCallback
    rw [if_neg (by simp [removeTimer, hlive])]
    split
    · exact h.expired.complete
    · have hsent := h.expired.tsxTransmitMsg true accepts out hlive
      dsimp only
      split
      · exact hsent
      · exact hsent
      next hfailed =>
        exact (hsent.clearTimerId (transmit_running_of_failure rfl rfl hfailed)).complete
  · exact h

lemma Inv.retransmit (h : Inv s) (modCount accepts : Bool) (out : SendOutcome) :
    Inv (pjStunClientTsxRetransmit modCount accepts out s) := by
  unfold pjStunClientTsxRetransmit
  split
  · exact h
  next hlive =>
    have hlive' : s.isDestroying = false := by
      simp only [Bool.or_eq_true, not_or] at hlive
      simpa using hlive.2
    split
    · exact h.cancelRetransmit.tsxTransmitMsg modCount accepts out hlive'
    · exact h.tsxTransmitMsg modCount accepts out hlive'

lemma Inv.rxMsg (h : Inv s) (isResponse : Bool) (errCode : Option ℕ) :
    Inv (pjStunClientTsxOnRxMsg isResponse errCode s) := by
  unfold pjStunClientTsxOnRxMsg
  split
  · dsimp only
    split
    · exact h.cancelRetransmit
    · exact h.cancelRetransmit.complete
  · exact h

lemma Inv.scheduleDestroy (h : Inv s) (accepts : Bool) : Inv (pjStunClientTsxScheduleDestroy accepts s) := by
  unfold pjStunClientTsxScheduleDestroy
  split
  · exact h
  · have hidle := cancelIfActive_running s.destroyTimer
    have hc := h.cancelRetransmit
    dsimp only [StunTsx.cancelRetransmit]
    rw [schedule_spec accepts hidle]
    cases accepts with
    | true =>
      exact ⟨hc.timer_id, rfl, h.once, h.marked, fun _ hon => absurd hon (by simp),
        fun _ => cancelIfActive_running _, fun _ => rfl, fun _ => rfl, hc.counted⟩
    | false =>
      refine ⟨hc.timer_id, ?_, h.once, h.marked, h.told, fun _ => cancelIfActive_running _,
        fun _ => rfl, fun _ => rfl, hc.counted⟩
      exact (cancelIfActive_id h.destroy_id).trans hidle.symm

lemma Inv.step (h : Inv s) (e : Event) : Inv (step s e) := by
  cases e with
  | sendMsg retransmit accepts out => exact h.sendMsg retransmit accepts out
  | timerExpiry accepts out => exact h.timerExpiry accepts out
  | retransmit modCount accepts out => exact h.retransmit modCount accepts out
  | rxMsg isResponse errCode => exact h.rxMsg isResponse errCode
  | scheduleDestroy accepts => exact h.scheduleDestroy accepts
  | stop => exact h.stop

lemma run_inv (rto : ℕ) (es : List Event) : Inv (Transition.run step (create rto) es) :=
  Transition.run_invariant (fun _ e h => h.step e) (create_inv rto) es

end PjProject.StunTsx
