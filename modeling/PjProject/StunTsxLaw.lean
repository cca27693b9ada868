import PjProject.StunTsxPace

/-!
# STUN client transaction: it always ends

When no event of a certain kind happens, a started transaction has its timer running until
it completes. The events that cancel the timer without completing the transaction are a
discarded provisional response, an explicit retransmission that fails or is made on a
reliable transport, and a destruction that could not be scheduled.
-/
namespace PjProject.StunTsx
open Transition

def lastStart : List Obs → Bool
  | [] => false
  | .started :: _ => true
  | .stopped :: _ => false
  | _ :: earlier => lastStart earlier

/-- A start was reported as successful, and the transaction has neither completed since nor
been stopped, nor is its destruction scheduled. -/
def Awaiting (s : Tsx) : Prop :=
  lastStart s.trace = true ∧ .completed ∉ s.trace ∧ s.destroyTimer.running = false

instance (s : Tsx) : Decidable (Awaiting s) := inferInstanceAs (Decidable (_ ∧ _ ∧ _))

def Stuck (s : Tsx) : Prop := Awaiting s ∧ s.retransmitTimer.running = false

instance (s : Tsx) : Decidable (Stuck s) := inferInstanceAs (Decidable (_ ∧ _))

def Hangs (s : Tsx) : Event → Prop
  | .sendMsg _ _ _ =>
    s.isDestroying = true ∧ s.destroyTimer.running = false ∧ .completed ∉ s.trace
  | .timerExpiry _ _ => False
  | .retransmit modCount accepts out =>
    Awaiting s ∧
      if modCount then
        if s.requireRetransmit then accepts = false ∨ out = .error ∨ out = .invalidOp
        else out ≠ .destroyed
      else out = .invalidOp
  | .rxMsg isResponse errCode => Awaiting s ∧ isResponse = true ∧ errCode.any (· ≤ 200) = true
  | .scheduleDestroy accepts => Awaiting s ∧ accepts = false
  | .stop => False

instance (s : Tsx) (e : Event) : Decidable (Hangs s e) := by
  cases e <;> unfold Hangs <;> infer_instance

/-- What `Stuck` reads of a transaction. -/
structure Watch where
  started : Bool
  completed : Bool
  destroyRunning : Bool
  timerRunning : Bool

def watch (s : Tsx) : Watch :=
  ⟨lastStart s.trace, decide (.completed ∈ s.trace), s.destroyTimer.running,
    s.retransmitTimer.running⟩

lemma stuck_iff_watch (s : Tsx) : Stuck s ↔ watch s = ⟨true, false, false, false⟩ := by
  simp [Stuck, Awaiting, watch, and_assoc]

lemma awaiting_iff_watch (s : Tsx) : Awaiting s ↔ (watch s).started = true ∧ (watch s).completed = false ∧
      (watch s).destroyRunning = false := by
  simp [Awaiting, watch]

lemma watch_cancelRetransmit (s : Tsx) : watch (cancelRetransmit s) = { watch s with timerRunning :=false } :=
  Watch.mk.injEq .. ▸ ⟨rfl, rfl, rfl, cancelIfActive_running _⟩

lemma watch_stop (s : Tsx) : watch (pjStunClientTsxStop s) = ⟨false, (watch s).completed, false, false⟩ := by
  simp only [watch, pjStunClientTsxStop, cancelIfActive_running, Tsx.observe, lastStart,
    List.mem_cons, reduceCtorEq, false_or]

lemma watch_sent (s : Tsx) (n : ℕ) : watch ({ s with transmitCount :=n }.observe .sent) = watch s := by
  simp [watch, Tsx.observe, lastStart]

lemma watch_sendPacket (modCount : Bool) (out : SendOutcome) (s : Tsx) :
    watch (sendPacket modCount out s).1 =
      match out with
      | .ok => watch s
      | .destroyed => ⟨false, (watch s).completed, false, false⟩
      | .invalidOp => { watch s with timerRunning := false }
      | .error => if modCount then { watch s with timerRunning := false } else watch s := by
  cases out with
  | ok => exact watch_sent s _
  | destroyed => simp only [sendPacket, watch_stop, watch_sent]
  | invalidOp => simp only [sendPacket, watch_cancelRetransmit, watch_sent]
  | error =>
    cases modCount with
    | false => exact watch_sent s _
    | true => simp [sendPacket, watch_cancelRetransmit, watch_sent]

lemma watch_scheduleRetransmit {s : Tsx} (hidle : s.retransmitTimer.running = false) (accepts : Bool) :
    watch (scheduleRetransmit accepts s).1 = { watch s with timerRunning := accepts } ∧
      (scheduleRetransmit accepts s).2 = accepts := by
  cases accepts <;>
    simp [scheduleRetransmit, schedule_spec, hidle, watch, Tsx.observe, lastStart]

lemma watch_scheduleTimeout {s : Tsx} (hidle : s.retransmitTimer.running = false) (accepts : Bool) :
    watch (scheduleTimeout accepts s).1 = { watch s with timerRunning := accepts } ∧
      (scheduleTimeout accepts s).2 = accepts := by
  cases accepts <;>
    simp [scheduleTimeout, schedule_spec, hidle, watch, Tsx.observe, lastStart]

lemma watch_transmit {s : Tsx} (hid : s.retransmitTimer.id = false)
    (hidle : s.retransmitTimer.running = false) (accepts : Bool) (out : SendOutcome) :
    watch (tsxTransmitMsg true accepts out s).1 =
      if s.requireRetransmit && !accepts then watch s
      else match out with
        | .ok => { watch s with timerRunning := s.requireRetransmit }
        | .destroyed => ⟨false, (watch s).completed, false, false⟩
        | _ => watch s := by
  have hw : (watch s).timerRunning = false := hidle
  have hself : { watch s with timerRunning := false } = watch s := by simp [← hw]
  obtain ⟨hwatch, hsuccess⟩ := watch_scheduleRetransmit hidle accepts
  unfold tsxTransmitMsg
  simp only [hid, Bool.false_and, Bool.false_eq_true, if_false, Bool.and_true]
  cases hrequire : s.requireRetransmit with
  | true =>
    cases accepts with
    | true => cases out <;> simp [hsuccess, watch_sendPacket, hwatch, hself]
    | false => simp [hsuccess, hwatch, hself]
  | false => cases out <;> simp [watch_sendPacket, hself]

lemma transmit_status {s : Tsx} (hid : s.retransmitTimer.id = false)
    (hidle : s.retransmitTimer.running = false) (accepts : Bool) (out : SendOutcome) :
    (tsxTransmitMsg true accepts out s).2 =
      if s.requireRetransmit && !accepts then .failure
      else match out with
        | .ok => .success
        | .destroyed => .destroyed
        | _ => .failure := by
  obtain ⟨-, hsuccess⟩ := watch_scheduleRetransmit hidle accepts
  unfold tsxTransmitMsg
  simp only [hid, Bool.false_and, Bool.false_eq_true, if_false, Bool.and_true]
  cases hrequire : s.requireRetransmit with
  | true =>
    cases accepts with
    | true => cases out <;> simp [hsuccess, sendPacket]
    | false => simp [hsuccess]
  | false => cases out <;> simp [sendPacket]

lemma transmit_flags (modCount accepts : Bool) (out : SendOutcome) (s : Tsx) :
    (tsxTransmitMsg modCount accepts out s).1.complete = s.complete ∧
      (tsxTransmitMsg modCount accepts out s).1.onComplete = s.onComplete := by
  have hpacket (u : Tsx) : (sendPacket modCount out u).1.complete = u.complete ∧
      (sendPacket modCount out u).1.onComplete = u.onComplete := by
    cases out <;> cases modCount <;> exact ⟨rfl, rfl⟩
  have hsched : (scheduleRetransmit accepts s).1.complete = s.complete ∧
      (scheduleRetransmit accepts s).1.onComplete = s.onComplete := by
    unfold scheduleRetransmit
    dsimp only
    split <;> exact ⟨rfl, rfl⟩
  unfold tsxTransmitMsg
  split
  · exact ⟨rfl, rfl⟩
  · split
    · dsimp only
      split
      · exact ⟨(hpacket _).1.trans hsched.1, (hpacket _).2.trans hsched.2⟩
      · exact hsched
    · exact hpacket s

section Stuck

variable {s : Tsx}

lemma Awaiting.fresh (ha : Awaiting s) (h : Inv s) (hs : ¬ Stuck s) :
    s.isDestroying = false ∧ s.onComplete = true ∧ s.complete = false := by
  have hrunning : s.retransmitTimer.running = true := by
    by_contra hr
    exact hs ⟨ha, by simpa using hr⟩
  have hlive := h.live_of_running hrunning
  have hon : s.onComplete = true := by
    by_contra ho
    simp [h.unset (by simpa using ho)] at hlive
  refine ⟨hlive, hon, ?_⟩
  by_contra hc
  exact ha.2.1 (h.told (by simpa using hc) hon)

lemma not_awaiting_completeTsx (h : Inv s) (hs : ¬ Stuck s) {u : Tsx}
    (hcomplete : u.complete = s.complete) (hon : u.onComplete = s.onComplete)
    (hu : Awaiting u → Awaiting s) : ¬ Awaiting (completeTsx u) := by
  intro ha
  have hold : Awaiting u := by
    unfold completeTsx at ha
    split at ha
    · exact ha
    · dsimp only at ha
      split at ha
      · exact absurd List.mem_cons_self ha.2.1
      · exact ha
  obtain ⟨-, hon', hcomplete'⟩ := (hu hold).fresh h hs
  have hmem : .completed ∈ (completeTsx u).trace := by
    simp [completeTsx, Tsx.observe, hon, hcomplete, hon', hcomplete']
  exact ha.2.1 hmem

lemma stuck_retransmit (h : Inv s) (hs : ¬ Stuck s) (modCount accepts : Bool) (out : SendOutcome) :
    Stuck (step s (.retransmit modCount accepts out)) ↔ Hangs s (.retransmit modCount accepts out) := by
  by_cases hd : s.isDestroying = true
  · have hstep : step s (.retransmit modCount accepts out) = s := by
      simp [step, pjStunClientTsxRetransmit, hd]
    have hidle := h.quiet hd
    rw [hstep]
    simp only [Hangs, Stuck] at hs ⊢
    tauto
  · have hgo : ¬ (s.destroyTimer.id || s.isDestroying) = true := by
      have hdestroy : s.destroyTimer.running = false := by
        by_contra hr
        exact hd (h.destroying (by simpa using hr))
      simp [h.destroy_id, hdestroy, hd]
    simp only [step, pjStunClientTsxRetransmit, if_neg hgo]
    cases modCount with
    | true =>
      have hid : (cancelRetransmit s).retransmitTimer.id = false := cancelIfActive_id h.timer_id
      have hidle : (cancelRetransmit s).retransmitTimer.running = false := cancelIfActive_running _
      have hreq : (cancelRetransmit s).requireRetransmit = s.requireRetransmit := rfl
      rw [if_pos rfl, stuck_iff_watch, watch_transmit hid hidle, watch_cancelRetransmit, hreq]
      cases hrequire : s.requireRetransmit <;> cases accepts <;> cases out <;>
        simp [Hangs, Awaiting, watch, hrequire]
    | false =>
      have hsend : tsxTransmitMsg false accepts out s = sendPacket false out s := by
        simp [tsxTransmitMsg]
      rw [if_neg (by simp), stuck_iff_watch, hsend, watch_sendPacket]
      rw [stuck_iff_watch] at hs
      cases out <;> simp [Hangs, Awaiting, hs]
      simp [watch]

lemma stuck_rxMsg (h : Inv s) (hs : ¬ Stuck s) (isResponse : Bool) (errCode : Option ℕ) :
    Stuck (step s (.rxMsg isResponse errCode)) ↔ Hangs s (.rxMsg isResponse errCode) := by
  simp only [step, pjStunClientTsxOnRxMsg, Hangs]
  cases isResponse with
  | false => simpa using hs
  | true =>
    cases hprov : errCode.any (· ≤ 200) with
    | true =>
      rw [if_pos rfl, if_pos rfl, stuck_iff_watch, watch_cancelRetransmit]
      simp [Awaiting, watch]
    | false =>
      simp only [if_pos, Bool.false_eq_true, if_false, and_false, iff_false]
      exact fun hstuck =>
        not_awaiting_completeTsx h hs (u := cancelRetransmit s) rfl rfl id hstuck.1

lemma stuck_scheduleDestroy (h : Inv s) (hs : ¬ Stuck s) (accepts : Bool) :
    Stuck (step s (.scheduleDestroy accepts)) ↔ Hangs s (.scheduleDestroy accepts) := by
  simp only [step, pjStunClientTsxScheduleDestroy, Hangs]
  by_cases hd : s.isDestroying = true
  · have hidle := h.quiet hd
    rw [if_pos hd]
    simp only [Stuck] at hs ⊢
    tauto
  · have hdestroy : s.destroyTimer.running = false := by
      by_contra hr
      exact hd (h.destroying (by simpa using hr))
    rw [if_neg hd]
    cases accepts <;>
      simp [Stuck, Awaiting, cancelRetransmit, schedule_spec, cancelIfActive_running, hdestroy]

lemma stuck_stop (s : Tsx) : ¬ Stuck (step s .stop) := by
  rw [stuck_iff_watch]
  simp [step, watch_stop]

lemma watch_observe_started (s : Tsx) : watch (s.observe .started) = { watch s with started :=true } := by
  simp [watch, Tsx.observe, lastStart]

lemma watch_beginSend (retransmit : Bool) (s : Tsx) : watch (beginSend retransmit s) = watch s := by
  simp [watch, beginSend, Tsx.observe, lastStart]

lemma stuck_startTransmit (hid : s.retransmitTimer.id = s.retransmitTimer.running)
    (harmed : s.requireRetransmit = !s.retransmitTimer.running)
    (hs : ¬ Awaiting s) (accepts : Bool) (out : SendOutcome) : ¬ Stuck (startTransmit accepts out s) := by
  rw [awaiting_iff_watch] at hs
  unfold startTransmit
  dsimp only
  cases hr : s.retransmitTimer.running with
  | false =>
    rw [hr] at hid harmed
    have hstatus := transmit_status hid hr accepts out
    have hwatch := watch_transmit hid hr accepts out
    rw [harmed] at hstatus hwatch
    cases accepts <;> cases out <;> rw [hstatus, stuck_iff_watch] <;>
      simp_all [watch_observe_started, watch_cancelRetransmit]
  | true =>
    rw [hr] at hid harmed
    have hrun : (watch s).timerRunning = true := hr
    have hsend : tsxTransmitMsg true accepts out s = sendPacket true out s := by
      simp [tsxTransmitMsg, harmed]
    have hwatch := watch_sendPacket true out s
    rw [hsend, stuck_iff_watch]
    cases out <;> simp_all [sendPacket, watch_observe_started, watch_cancelRetransmit]

lemma stuck_sendMsg (h : Inv s) (hs : ¬ Stuck s) (retransmit accepts : Bool) (out : SendOutcome) :
    Stuck (step s (.sendMsg retransmit accepts out)) ↔ Hangs s (.sendMsg retransmit accepts out) := by
  simp only [step, pjStunClientTsxSendMsg, Hangs]
  cases hid : s.retransmitTimer.id with
  | true =>
    have hlive := h.live_of_running (h.timer_id ▸ hid)
    simp [hs, hlive]
  | false =>
    have hidle : s.retransmitTimer.running = false := h.timer_id ▸ hid
    have hwait : ¬ Awaiting s := fun ha => hs ⟨ha, hidle⟩
    by_cases hd : s.isDestroying = true
    · rw [if_neg (by simp), if_pos hd, stuck_iff_watch, watch_observe_started]
      simp [watch, hidle, hd, and_comm]
    · rw [if_neg (by simp), if_neg hd]
      refine iff_of_false ?_ fun hdestroying => hd hdestroying.1
      have hbegun := watch_beginSend retransmit s
      have hidle' : (beginSend retransmit s).retransmitTimer.running = false := hidle
      have hwait' : ¬ Awaiting (beginSend retransmit s) := by
        rwa [awaiting_iff_watch, hbegun, ← awaiting_iff_watch]
      cases retransmit with
      | true =>
        rw [if_pos rfl]
        have hid' : (beginSend true s).retransmitTimer.id =
            (beginSend true s).retransmitTimer.running := h.timer_id
        have hrequire : (beginSend true s).requireRetransmit =
            !(beginSend true s).retransmitTimer.running := by
          rw [hidle']
          rfl
        exact stuck_startTransmit hid' hrequire hwait' accepts out
      | false =>
        obtain ⟨hwatch, hsuccess⟩ := watch_scheduleTimeout hidle' accepts
        have hwait'' : ¬ Awaiting (scheduleTimeout accepts (beginSend false s)).1 := by
          rw [awaiting_iff_watch] at hwait'
          rwa [awaiting_iff_watch, hwatch]
        rw [if_neg (by simp), hsuccess]
        cases accepts with
        | true =>
          have htimer : (scheduleTimeout true (beginSend false s)).1.retransmitTimer =
              ⟨true, true⟩ := by
            simp [scheduleTimeout, Tsx.observe, schedule_spec true hidle']
          have hrequire : (scheduleTimeout true (beginSend false s)).1.requireRetransmit = false :=
            scheduleTimeout_requireRetransmit true _
          refine stuck_startTransmit ?_ ?_ hwait'' true out
          · rw [htimer]
          · rw [htimer, hrequire]
            rfl
        | false => exact fun hstuck => hwait'' hstuck.1

lemma stuck_timerExpiry (h : Inv s) (hs : ¬ Stuck s) (accepts : Bool) (out : SendOutcome) :
    ¬ Stuck (step s (.timerExpiry accepts out)) := by
  by_cases hrunning : s.retransmitTimer.running = true
  · set u := clearTimerId (removeTimer s) with hu
    have hlive := h.live_of_running hrunning
    have hwatch : watch u = { watch s with timerRunning := false } := rfl
    have hawait (v : Tsx) (hv : Awaiting v) (hw : watch v = watch u) : Awaiting s := by
      rw [awaiting_iff_watch, hw, hwatch] at hv
      exact (awaiting_iff_watch s).mpr hv
    simp only [step, if_pos hrunning, retransmitTimerCallback]
    rw [if_neg (by simp [removeTimer, hlive])]
    split
    · exact fun hstuck =>
        not_awaiting_completeTsx h hs (u := u) rfl rfl (fun ha => hawait u ha rfl) hstuck.1
    next hcount =>
      have hrequire : u.requireRetransmit = true := by
        by_contra hq
        exact hcount (h.counted hrunning (Bool.eq_false_iff.mpr hq))
      have hstatus := transmit_status (s := u) rfl rfl accepts out
      have hsent := watch_transmit (s := u) rfl rfl accepts out
      rw [hrequire] at hstatus hsent
      obtain ⟨hcomplete, hon⟩ := transmit_flags true accepts out u
      have hfail (hw : watch (tsxTransmitMsg true accepts out u).1 = watch u) :
          ¬ Stuck (completeTsx (clearTimerId (tsxTransmitMsg true accepts out u).1)) :=
        fun hstuck => not_awaiting_completeTsx h hs
          (u := clearTimerId (tsxTransmitMsg true accepts out u).1) hcomplete hon
          (fun ha => hawait _ ha hw) hstuck.1
      cases accepts with
      | false =>
        rw [hstatus]
        exact hfail hsent
      | true =>
        cases out <;> rw [hstatus]
        · change ¬ Stuck (tsxTransmitMsg true true .ok u).1
          rw [stuck_iff_watch, hsent]
          simp
        · exact hfail hsent
        · exact hfail hsent
        · change ¬ Stuck (tsxTransmitMsg true true .destroyed u).1
          rw [stuck_iff_watch, hsent]
          simp
  · simpa [step, hrunning] using hs

lemma stuck_step (h : Inv s) (hs : ¬ Stuck s) (e : Event) : Stuck (step s e) ↔ Hangs s e := by
  cases e with
  | sendMsg retransmit accepts out => exact stuck_sendMsg h hs retransmit accepts out
  | timerExpiry accepts out => exact iff_of_false (stuck_timerExpiry h hs accepts out) id
  | retransmit modCount accepts out => exact stuck_retransmit h hs modCount accepts out
  | rxMsg isResponse errCode => exact stuck_rxMsg h hs isResponse errCode
  | scheduleDestroy accepts => exact stuck_scheduleDestroy h hs accepts
  | stop => exact iff_of_false (stuck_stop s) id

end Stuck

structure TsxLaw (rto : ℕ) (es : List Event) : Prop where
  /-- `on_complete` is called at most once. -/
  once : (run step (create rto) es).trace.count .completed ≤ 1
  /-- While the end is awaited the timer is pending, at every moment of the run. -/
  pending : ∀ pre, pre <+: es → Awaiting (run step (create rto) pre) →
    (run step (create rto) pre).retransmitTimer.running = true
  /-- Without explicit retransmissions the packets of a start are few and spaced out. -/
  paced : (∀ e ∈ es, e.isRetransmit = false) →
    packets (run step (create rto) es).trace ≤ maxTransmitCount ∧
      ∀ before after o, (run step (create rto) es).trace = after ++ o :: before →
        o.DelayOk rto before

end PjProject.StunTsx
