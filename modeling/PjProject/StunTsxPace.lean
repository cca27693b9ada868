import PjProject.StunTsxInv

/-!
# STUN client transaction: number and spacing of the packets

Without explicit retransmissions a start sends at most `PJ_STUN_MAX_TRANSMIT_COUNT`
packets, and each delay doubles the one before.
-/
namespace PjProject.StunTsx

/-- The packets since the latest accepted `pj_stun_client_tsx_send_msg`. -/
def packets : List Obs → ℕ
  | [] => 0
  | .begun _ :: _ => 0
  | .sent :: earlier => packets earlier + 1
  | _ :: earlier => packets earlier

def lastDelay : List Obs → Option ℕ
  | [] => none
  | .delay _ msec :: _ => some msec
  | _ :: earlier => lastDelay earlier

/-- The delays: the first is the configured one, each further one doubles the one before,
the last is the timeout value; on a reliable transport there is one timeout. -/
def Obs.DelayOk (rto : ℕ) (earlier : List Obs) : Obs → Prop
  | .delay count msec =>
    (count = 0 → msec = rto) ∧
      (0 < count → count < maxTransmitCount - 1 →
        ∃ last, lastDelay earlier = some last ∧ msec = last * 2 % 2 ^ 32) ∧
      (maxTransmitCount - 1 ≤ count → msec = timeoutValue)
  | .timeout msec => msec = rto * 16 % 2 ^ 32
  | _ => True

def DelaysOk (rto : ℕ) : List Obs → Prop
  | [] => True
  | o :: earlier => o.DelayOk rto earlier ∧ DelaysOk rto earlier

lemma DelaysOk.split {rto : ℕ} {before after : List Obs} {o : Obs}
    (h : DelaysOk rto (after ++ o :: before)) : o.DelayOk rto before := by
  induction after with
  | nil => exact h.1
  | cons a after ih => exact ih h.2

structure Paced (rto : ℕ) (s : Tsx) : Prop where
  rto_eq : s.rtoMsec = rto
  delays : DelaysOk rto s.trace
  last : 0 < s.transmitCount → s.transmitCount < maxTransmitCount - 1 →
    lastDelay s.trace = some s.retransmitTime
  packets_le : packets s.trace ≤ s.transmitCount
  bounded : packets s.trace ≤ 1 ∨ s.transmitCount ≤ maxTransmitCount

def Obs.quiet : Obs → Bool
  | .started | .stopped | .completed => true
  | _ => false

section Paced

variable {rto : ℕ} {s : Tsx}

lemma Paced.observe (h : Paced rto s) {o : Obs} (ho : o.quiet = true) : Paced rto (s.observe o) := by
  cases o <;> first
    | exact ⟨h.rto_eq, ⟨trivial, h.delays⟩, h.last, h.packets_le, h.bounded⟩
    | exact absurd ho (by simp [Obs.quiet])

lemma Paced.congr (h : Paced rto s) {u : Tsx} (hrto : u.rtoMsec = s.rtoMsec)
    (htrace : u.trace = s.trace) (hcount : u.transmitCount = s.transmitCount)
    (htime : u.retransmitTime = s.retransmitTime) : Paced rto u := by
  refine ⟨hrto.trans h.rto_eq, ?_, ?_, ?_, ?_⟩ <;> rw [htrace]
  · exact h.delays
  · rw [hcount, htime]
    exact h.last
  · rw [hcount]
    exact h.packets_le
  · rw [hcount]
    exact h.bounded

lemma Paced.stop (h : Paced rto s) : Paced rto (pjStunClientTsxStop s) :=
  (h.observe (o := .stopped) rfl).congr rfl rfl rfl rfl

lemma Paced.cancelRetransmit (h : Paced rto s) : Paced rto (cancelRetransmit s) :=
  h.congr rfl rfl rfl rfl

lemma Paced.complete (h : Paced rto s) : Paced rto (completeTsx s) := by
  have hcomplete : Paced rto { s with complete := true } := h.congr rfl rfl rfl rfl
  unfold completeTsx
  split
  · exact h
  · dsimp only
    split
    · exact hcomplete.observe rfl
    · exact hcomplete

lemma Paced.sendPacket (h : Paced rto s) (out : SendOutcome)
    (hlast : s.transmitCount < maxTransmitCount - 1 → lastDelay s.trace = some s.retransmitTime)
    (hroom : packets s.trace = 0 ∨ s.transmitCount < maxTransmitCount) :
    Paced rto (sendPacket true out s).1 := by
  have hsent : Paced rto ({ s with transmitCount := s.transmitCount + 1 }.observe .sent) := by
    refine ⟨h.rto_eq, ⟨trivial, h.delays⟩, ?_, ?_, ?_⟩
    · intro _ hlt
      exact hlast (Nat.lt_of_succ_lt hlt)
    · exact Nat.succ_le_succ h.packets_le
    · obtain hzero | hlt := hroom
      · left
        change packets s.trace + 1 ≤ 1
        omega
      · exact .inr hlt
  cases out with
  | ok => exact hsent
  | destroyed => exact hsent.stop
  | invalidOp => exact hsent.cancelRetransmit
  | error => exact hsent.cancelRetransmit

lemma nextDelay_ok (h : Paced rto s) : (Obs.delay s.transmitCount (nextDelay s)).DelayOk rto s.trace := by
  refine ⟨?_, ?_, ?_⟩
  · intro hzero
    simp [nextDelay, hzero, h.rto_eq]
  · intro hpos hlt
    refine ⟨s.retransmitTime, h.last hpos hlt, ?_⟩
    rw [nextDelay, if_neg hpos.ne', if_pos hlt]
  · intro hle
    rw [nextDelay, if_neg (by unfold maxTransmitCount at hle; omega), if_neg hle.not_gt]

lemma scheduleRetransmit_fields (accepts : Bool) (s : Tsx) :
    (scheduleRetransmit accepts s).1.rtoMsec = s.rtoMsec ∧ (scheduleRetransmit accepts s).1.trace =
        .delay s.transmitCount (nextDelay s) :: s.trace ∧
      (scheduleRetransmit accepts s).1.transmitCount = s.transmitCount ∧
      (scheduleRetransmit accepts s).1.retransmitTime = nextDelay s := by
  unfold scheduleRetransmit
  dsimp only
  split <;> exact ⟨rfl, rfl, rfl, rfl⟩

lemma Paced.scheduleRetransmit (h : Paced rto s) (accepts : Bool) :
    Paced rto (scheduleRetransmit accepts s).1 := by
  obtain ⟨hrto, htrace, hcount, htime⟩ := scheduleRetransmit_fields accepts s
  have hdelay : Paced rto ({ s with retransmitTime := nextDelay s }.observe
      (.delay s.transmitCount (nextDelay s))) :=
    ⟨h.rto_eq, ⟨nextDelay_ok h, h.delays⟩, fun _ _ => rfl, h.packets_le, h.bounded⟩
  exact hdelay.congr hrto htrace hcount htime

lemma Paced.tsxTransmitMsg (h : Paced rto s) (accepts : Bool) (out : SendOutcome)
    (hrequire : s.requireRetransmit = false → maxTransmitCount ≤ s.transmitCount)
    (hroom : packets s.trace = 0 ∨ s.transmitCount < maxTransmitCount) :
    Paced rto (tsxTransmitMsg true accepts out s).1 := by
  unfold StunTsx.tsxTransmitMsg
  split
  · exact h
  · split
    · obtain ⟨-, htrace, hcount, htime⟩ := scheduleRetransmit_fields accepts s
      have harmed := h.scheduleRetransmit accepts
      dsimp only
      split
      · refine harmed.sendPacket out (fun _ => by rw [htrace, htime]; rfl) ?_
        rw [htrace, hcount]
        exact hroom
      · exact harmed
    next hreq =>
      refine h.sendPacket out (fun hlt => ?_) hroom
      have hle := hrequire (by simpa using hreq)
      unfold maxTransmitCount at hle hlt
      omega

lemma Paced.startTransmit (h : Paced rto s) (accepts : Bool) (out : SendOutcome)
    (hrequire : s.requireRetransmit = false → maxTransmitCount ≤ s.transmitCount)
    (hzero : packets s.trace = 0) : Paced rto (startTransmit accepts out s) := by
  have hsent := h.tsxTransmitMsg accepts out hrequire (.inl hzero)
  unfold StunTsx.startTransmit
  dsimp only
  split
  · exact hsent.observe rfl
  · exact hsent.cancelRetransmit

lemma Paced.beginSend (h : Paced rto s) (retransmit : Bool) : Paced rto (beginSend retransmit s) :=
  ⟨h.rto_eq, ⟨trivial, h.delays⟩, h.last, Nat.zero_le _, .inl (Nat.zero_le _)⟩

lemma scheduleTimeout_fields (accepts : Bool) (s : Tsx) : (scheduleTimeout accepts s).1.rtoMsec = s.rtoMsec ∧
      (scheduleTimeout accepts s).1.trace = .timeout (s.rtoMsec * 16 % 2 ^ 32) :: s.trace ∧
      (scheduleTimeout accepts s).1.transmitCount = maxTransmitCount := by
  unfold scheduleTimeout
  dsimp only
  split <;> exact ⟨rfl, rfl, rfl⟩

lemma Paced.scheduleTimeout (h : Paced rto s) (hzero : packets s.trace = 0) (accepts : Bool) :
    Paced rto (scheduleTimeout accepts s).1 := by
  obtain ⟨hrto, htrace, hcount⟩ := scheduleTimeout_fields accepts s
  refine ⟨hrto.trans h.rto_eq, ?_, ?_, ?_, ?_⟩
  · rw [htrace, h.rto_eq]
    exact ⟨rfl, h.delays⟩
  · intro _ hlt
    rw [hcount] at hlt
    exact absurd hlt (by decide)
  · rw [htrace]
    exact hzero.le.trans (Nat.zero_le _)
  · exact .inr hcount.le

lemma Paced.sendMsg (h : Paced rto s) (retransmit accepts : Bool) (out : SendOutcome) :
    Paced rto (pjStunClientTsxSendMsg retransmit accepts out s) := by
  unfold pjStunClientTsxSendMsg
  split
  · exact h
  · split
    · exact h.observe rfl
    · have hbegun := h.beginSend retransmit
      dsimp only
      split
      next hretransmit =>
        exact hbegun.startTransmit accepts out
          (fun hreq => absurd hreq (by simp [StunTsx.beginSend, Tsx.observe, hretransmit])) rfl
      · obtain ⟨-, htrace, hcount⟩ :=
          scheduleTimeout_fields accepts (StunTsx.beginSend retransmit s)
        have htimeout := hbegun.scheduleTimeout rfl accepts
        split
        · refine htimeout.startTransmit accepts out (fun _ => hcount.ge) ?_
          rw [htrace]
          rfl
        · exact htimeout

lemma Paced.timerExpiry (h : Paced rto s) (hinv : Inv s) (accepts : Bool) (out : SendOutcome) :
    Paced rto (step s (.timerExpiry accepts out)) := by
  by_cases hrunning : s.retransmitTimer.running = true
  · have hclear : Paced rto (clearTimerId (removeTimer s)) := h.congr rfl rfl rfl rfl
    simp only [step, if_pos hrunning, retransmitTimerCallback]
    split
    · exact h.congr rfl rfl rfl rfl
    · split
      · exact hclear.complete
      next hcount =>
        have hsent := hclear.tsxTransmitMsg accepts out (hinv.counted hrunning)
          (.inr (Nat.lt_of_not_le hcount))
        split
        · exact hsent
        · exact hsent
        · exact (hsent.congr rfl rfl rfl rfl : Paced rto (clearTimerId _)).complete
  · simpa [step, hrunning] using h

lemma Paced.scheduleDestroy (h : Paced rto s) (accepts : Bool) :
    Paced rto (pjStunClientTsxScheduleDestroy accepts s) := by
  unfold pjStunClientTsxScheduleDestroy
  split
  · exact h
  · dsimp only
    split
    · exact h.congr rfl rfl rfl rfl
    · exact h.congr rfl rfl rfl rfl

lemma Paced.rxMsg (h : Paced rto s) (isResponse : Bool) (errCode : Option ℕ) :
    Paced rto (pjStunClientTsxOnRxMsg isResponse errCode s) := by
  unfold pjStunClientTsxOnRxMsg
  split
  · dsimp only
    split
    · exact h.cancelRetransmit
    · exact h.cancelRetransmit.complete
  · exact h

/-- `pj_stun_client_tsx_retransmit` -/
def Event.isRetransmit : Event → Bool
  | .retransmit _ _ _ => true
  | _ => false

lemma Paced.step (h : Paced rto s) (hinv : Inv s) {e : Event} (he : e.isRetransmit = false) :
    Paced rto (step s e) := by
  cases e with
  | sendMsg retransmit accepts out => exact h.sendMsg retransmit accepts out
  | timerExpiry accepts out => exact h.timerExpiry hinv accepts out
  | retransmit modCount accepts out => exact absurd he (by simp [Event.isRetransmit])
  | rxMsg isResponse errCode => exact h.rxMsg isResponse errCode
  | scheduleDestroy accepts => exact h.scheduleDestroy accepts
  | stop => exact h.stop

end Paced

lemma run_paced (rto : ℕ) {es : List Event} (hes : ∀ e ∈ es, e.isRetransmit = false) :
    Paced rto (Transition.run step (create rto) es) := by
  have hrun {s : Tsx} (h : Paced rto s) (hinv : Inv s) :
      Paced rto (Transition.run step s es) := by
    induction es generalizing s with
    | nil => exact h
    | cons e es ih =>
      have he := hes e List.mem_cons_self
      exact ih (fun e' he' => hes e' (List.mem_cons_of_mem _ he')) (h.step hinv he) (hinv.step e)
  exact hrun ⟨rfl, trivial, fun h => absurd h (Nat.lt_irrefl 0), le_rfl, .inl (Nat.zero_le 1)⟩
    (create_inv rto)

end PjProject.StunTsx
