import PjProject.InvAck
import PjProject.OutputLog

/-!
# Every 2xx response is to be acknowledged

Whoever gets a 2xx response to an INVITE owes an ACK with its CSeq, before a BYE that ends the session
because of the response. The session passes it on unless a check of its handlers ends the session first,
or a retransmission comes while another INVITE is in progress.
-/
namespace PjProject.InvAck
open OutputLog

def Msg.Acks (cseq : ℕ) (m : Msg) : Prop := m = .ack cseq ∨ m = .askAck cseq

def Msg.isAck : Msg → Bool
  | .ack _ | .askAck _ => true
  | _ => false

def outputs (env : Env) (r : Response) (s : Sess) : List Msg := (rx2xx env r { s with sent := [] }).sent

def Acknowledged (env : Env) (r : Response) (s : Sess) : Prop :=
  Precedes (Msg.Acks r.cseq) (fun m => m = .bye) (outputs env r s)

/-- `pjsip_timer_process_resp` fails. -/
def Cfg.timerFails (c : Cfg) (r : Response) : Bool := c.supportTimer ∧ c.requireTimer ∧ r.sessExpires = none

/-- The handler for the state of the session comes to `inv_send_ack`. -/
def Sess.accepts (s : Sess) (r : Response) : Bool :=
  r.tsx.any (fun t => s.state = .confirmed ∨ ((s.state = .calling ∨ s.state = .early) ∧ s.inviteTsx = some t)) ∧
    s.cfg.insecure r = false ∧ s.cfg.timerFails r = false

section Adds

variable {e : Env} {r : Response} {s s' : Sess} {p : Msg → Prop}

structure Quiet (s s' : Sess) : Prop where
  adds : Adds Sess.sent (fun m => ∃ b, m = .app b) s s'
  cfg : s'.cfg = s.cfg

lemma Quiet.of_eq (h : s'.sent = s.sent) (hc : s'.cfg = s.cfg) : Quiet s s' := ⟨.of_eq h, hc⟩

lemma Quiet.refl (s : Sess) : Quiet s s := .of_eq rfl rfl

lemma Quiet.trans {s'' : Sess} (h : Quiet s s') (h' : Quiet s' s'') : Quiet s s'' :=
  ⟨h.adds.trans h'.adds, h'.cfg.trans h.cfg⟩

lemma Quiet.then (h : Quiet s s') {s'' : Sess} (hs : s''.sent = s'.sent) (hc : s''.cfg = s'.cfg) : Quiet s s'' :=
  h.trans (.of_eq hs hc)

lemma Quiet.before {s'' : Sess} (h : Quiet s' s'') (hs : s'.sent = s.sent) (hc : s'.cfg = s.cfg) : Quiet s s'' :=
  Quiet.trans (.of_eq hs hc) h

variable (code : ℤ)

@[simp] lemma invSetCause_sent : (invSetCause code s).sent = s.sent := by
  unfold invSetCause
  split <;> rfl

@[simp] lemma invSetCause_cfg : (invSetCause code s).cfg = s.cfg := by
  unfold invSetCause
  split <;> rfl

lemma pjsipInvEndSession_quiet : Quiet s (pjsipInvEndSession code e s).1 := by
  have hcause : Quiet s (invSetCause code s) := .of_eq (invSetCause_sent code) (invSetCause_cfg code)
  unfold pjsipInvEndSession
  dsimp only
  split
  case h_5 | h_6 => exact hcause.then rfl rfl
  case h_7 => exact hcause
  all_goals
    split
    · split
      · exact hcause
      · split <;> exact hcause.then rfl rfl
    · exact hcause.then rfl rfl

def Msg.ends (own : Bool) (m : Msg) : Prop := if own then m = .bye ∨ m = .other else ∃ b, m = .app b

lemma pjsipInvSendMsg_adds (own : Bool) (tdata : Tdata) :
    Adds Sess.sent (Msg.ends own) s (pjsipInvSendMsg own tdata s) ∧ (pjsipInvSendMsg own tdata s).cfg = s.cfg := by
  unfold pjsipInvSendMsg
  split
  · split
    · exact ⟨.of_eq rfl, rfl⟩
    · refine ⟨.one rfl ?_, rfl⟩
      cases own <;> simp [Msg.ends]
  · refine ⟨.one rfl ?_, rfl⟩
    cases own <;> simp [Msg.ends]

lemma endAndSend_adds (own : Bool) (code : ℤ) :
    Adds Sess.sent (fun m => (∃ b, m = .app b) ∨ m.ends own) s (endAndSend own code e s) ∧
      (endAndSend own code e s).cfg = s.cfg := by
  have h := pjsipInvEndSession_quiet (e := e) (s := s) code
  have h1 := h.adds.mono (fun m hm => Or.inl (b := m.ends own) hm)
  unfold endAndSend
  split
  · rename_i s' tdata heq
    rw [heq] at h h1
    obtain ⟨h2, hc⟩ := pjsipInvSendMsg_adds (s := s') own tdata
    exact ⟨h1.trans (h2.mono fun m hm => .inr hm), hc.trans h.cfg⟩
  · rename_i s' heq
    rw [heq] at h h1
    exact ⟨h1, h.cfg⟩

lemma call_quiet (c : Call) : Quiet s (s.call e c) := by
  cases c with
  | endSession code =>
    obtain ⟨h, hc⟩ := endAndSend_adds (e := e) (s := s) false code
    exact ⟨h.mono fun m hm => hm.elim id fun he => by simpa [Msg.ends] using he, hc⟩
  | terminate code notify =>
    exact .of_eq (invSetCause_sent (s := { s with notify := notify }) code) (invSetCause_cfg _)

lemma callback_quiet (cb : Callback) : Quiet s (s.callback e cb) := by
  refine ⟨Adds.foldl (fun s c => (call_quiet (s := s) c).adds) _ s, ?_⟩
  exact List.foldlRecOn (motive := fun s' : Sess => s'.cfg = s.cfg) _ _ rfl fun _ h c _ => (call_quiet c).cfg.trans h

lemma notifies_quiet (installed : Bool) (cb : Callback) : Quiet s (s.notifies e installed cb) := by
  unfold Sess.notifies
  split
  · exact callback_quiet cb
  · exact .refl s

lemma invSetState_quiet {state : InvState} (h : state ≠ .confirmed) : Quiet s (invSetState state e s) := by
  rw [invSetState, if_neg (by simp [h])]
  exact (notifies_quiet _ _).before rfl rfl

lemma invNegotiateSdp_quiet : Quiet s (invNegotiateSdp e s).1 :=
  (notifies_quiet _ _).before rfl rfl

lemma sdpFailed_quiet : Quiet s (sdpFailed e s) := by
  unfold sdpFailed
  split
  · exact notifies_quiet _ _
  · exact .refl s

variable (t : ℕ)

lemma useSdp_quiet : Quiet s (useSdp e r t s) := by
  have hoffer : Quiet s (Sess.notifies e s.cfg.onRxOffer .rxOffer { s with neg := some .remoteOffer }) :=
    (notifies_quiet _ _).before rfl rfl
  unfold useSdp
  split
  case h_1 | h_2 =>
    split
    · dsimp only
      split
      · exact hoffer.then rfl rfl
      · exact hoffer
    · exact .refl s
  · split
    · refine Quiet.before (?_ : Quiet { s with neg := some (.waitNego false) } _) rfl rfl
      exact invNegotiateSdp_quiet.then rfl rfl
    · exact sdpFailed_quiet
  · exact .refl s

lemma invCheckSdpInIncomingMsg_quiet : Quiet s (invCheckSdpInIncomingMsg e r t s) := by
  unfold invCheckSdpInIncomingMsg
  split
  · exact .refl s
  · exact sdpFailed_quiet
  · dsimp only
    split
    · exact (useSdp_quiet t).before rfl rfl
    split
    · split
      · exact .of_eq rfl rfl
      · exact (useSdp_quiet t).before rfl rfl
    · exact .of_eq rfl rfl

lemma cancelOffer_quiet : Quiet s (cancelOffer s) := by
  unfold cancelOffer
  split <;> exact .of_eq rfl rfl

lemma invHasPendingAnswer_quiet : Quiet s (invHasPendingAnswer e s) := by
  have hnego := invNegotiateSdp_quiet (e := e) (s := s)
  unfold invHasPendingAnswer
  split
  · split
    · rename_i heq
      rw [heq] at hnego
      split
      · exact hnego.then rfl rfl
      · exact hnego
    · rename_i heq
      rw [heq] at hnego
      exact hnego
  · exact .refl s

variable (cseq : ℕ)

lemma pjsipInvCreateAck_quiet : Quiet s (pjsipInvCreateAck e cseq s) := by
  refine Quiet.before (?_ : Quiet { s with lastAck := none } _) rfl rfl
  exact invHasPendingAnswer_quiet.then rfl rfl

lemma pjsipTimerProcessResp_spec : Quiet s (pjsipTimerProcessResp r.sessExpires s).1 ∧
      (pjsipTimerProcessResp r.sessExpires s).2 = !s.cfg.timerFails r := by
  unfold pjsipTimerProcessResp
  split
  · rename_i hs
    exact ⟨.refl s, by simp [Cfg.timerFails, hs]⟩
  rename_i hs
  split
  · rename_i hr
    exact ⟨.of_eq rfl rfl, by simp_all [Cfg.timerFails]⟩
  rename_i hr
  have hpass : s.cfg.timerFails r = false := by
    simp only [Cfg.timerFails, decide_eq_false_iff_not]
    exact fun h => hr ⟨h.2.2, h.2.1⟩
  split <;> exact ⟨.of_eq rfl rfl, by simp [hpass]⟩

structure Silent (s s' : Sess) : Prop where
  adds : Adds Sess.sent (fun m => m.isAck = false) s s'
  cfg : s'.cfg = s.cfg

lemma Quiet.silent (h : Quiet s s') : Silent s s' :=
  ⟨h.adds.mono fun m hm => by obtain ⟨b, rfl⟩ := hm; rfl, h.cfg⟩

lemma endAndSend_silent : Silent s (endAndSend true code e s) := by
  obtain ⟨h, hc⟩ := endAndSend_adds (e := e) (s := s) true code
  refine ⟨h.mono fun m hm => ?_, hc⟩
  rcases hm with ⟨b, rfl⟩ | hm
  · rfl
  · rcases (show m = .bye ∨ m = .other from hm) with rfl | rfl <;> rfl

lemma Silent.trans {s'' : Sess} (h : Silent s s') (h' : Silent s' s'') : Silent s s'' :=
  ⟨h.adds.trans h'.adds, h'.cfg.trans h.cfg⟩

lemma checkResponse_spec : (s.cfg.insecure r = false ∧ s.cfg.timerFails r = false →
      Quiet s (checkResponse e r s).1 ∧ (checkResponse e r s).2 = true) ∧
    (¬ (s.cfg.insecure r = false ∧ s.cfg.timerFails r = false) →
      Silent s (checkResponse e r s).1 ∧ (checkResponse e r s).2 = false) := by
  obtain ⟨hq, hok⟩ := pjsipTimerProcessResp_spec (r := r) (s := s)
  unfold checkResponse invCheckSecureDlg
  cases hi : s.cfg.insecure r with
  | true => exact ⟨fun h => by simp at h, fun _ => ⟨endAndSend_silent _, rfl⟩⟩
  | false =>
    simp only [Bool.false_eq_true, if_false, true_and]
    unfold handleTimerResponse
    cases ht : s.cfg.timerFails r with
    | true =>
      rw [ht] at hok
      refine ⟨fun h => by simp at h, fun _ => ?_⟩
      split
      · rename_i heq
        rw [heq] at hok
        cases hok
      · rename_i heq
        rw [heq] at hq
        exact ⟨hq.silent.trans (endAndSend_silent _), rfl⟩
    | false =>
      rw [ht] at hok
      refine ⟨fun _ => ?_, fun h => by simp at h⟩
      split
      · rename_i heq
        rw [heq] at hq
        exact ⟨hq, rfl⟩
      · rename_i heq
        rw [heq] at hok
        cases hok

def Grows (s s' : Sess) : Prop := Adds Sess.sent (fun _ => True) s s'

lemma Quiet.grows (h : Quiet s s') : Grows s s' := h.adds.mono fun _ _ => trivial

lemma Silent.grows (h : Silent s s') : Grows s s' := h.adds.mono fun _ _ => trivial

lemma invSetState_grows (state : InvState) : Grows s (invSetState state e s) := by
  by_cases hst : state = .confirmed ∧ s.incomplete
  · rw [invSetState, if_pos hst]
    exact (endAndSend_silent 406).grows
  · rw [invSetState, if_neg hst]
    refine Quiet.grows ?_
    exact (notifies_quiet _ _).before rfl rfl

lemma sendLastAck_sent : ∃ l, (sendLastAck e cseq s).sent = s.sent ++ .ack cseq :: l := by
  have hafter : Grows (Sess.put (.ack cseq) { s with lastAck := some ⟨cseq, true, e.pending⟩ })
      (sendLastAck e cseq s) := by
    unfold sendLastAck
    dsimp only
    split
    · exact invSetState_grows _
    split <;> exact .of_eq rfl
  obtain ⟨l, hl, -⟩ := hafter
  exact ⟨l, by rw [hl]; simp [Sess.put]⟩

lemma invSendAck_sent : ∃ s' m l, Quiet s s' ∧ m.Acks cseq ∧
    (invSendAck e cseq s).sent = s'.sent ++ m :: l := by
  unfold invSendAck
  split
  · obtain ⟨l, hl⟩ := sendLastAck_sent (e := e) (s := s) cseq
    exact ⟨s, _, l, .refl s, .inl rfl, hl⟩
  split
  · obtain ⟨l, hl, -⟩ := (callback_quiet (e := e) (s := s.put (.askAck cseq)) .sendAck).adds
    refine ⟨s, _, l, .refl s, .inr rfl, ?_⟩
    rw [hl]
    simp [Sess.put]
  · obtain ⟨l, hl⟩ := sendLastAck_sent (e := e) (s := pjsipInvCreateAck e cseq s) cseq
    exact ⟨_, _, l, pjsipInvCreateAck_quiet cseq, .inl rfl, hl⟩

lemma invSendAck_grows : Grows s (invSendAck e cseq s) := by
  obtain ⟨s', m, l, hq, -, hl⟩ := invSendAck_sent (e := e) (s := s) cseq
  obtain ⟨l', hl', -⟩ := hq.adds
  exact ⟨l' ++ m :: l, by rw [hl, hl', List.append_assoc], fun _ _ => trivial⟩

variable {s₀ : Sess}

lemma invSendAck_first (h0 : s₀.sent = []) (hq : Quiet s₀ s) (cseq : ℕ) :
    Precedes (Msg.Acks cseq) (fun m => m = .bye) (invSendAck e cseq s).sent := by
  obtain ⟨s', m, l, hq', hm, hl⟩ := invSendAck_sent (e := e) (s := s) cseq
  have hbefore : Adds Sess.sent (fun m => ¬ m = .bye) s₀ s' := by
    refine (hq.trans hq').adds.mono fun m hm => ?_
    obtain ⟨b, rfl⟩ := hm
    simp
  have hpre : Precedes (Msg.Acks cseq) (fun m => m = .bye) (s'.sent ++ [m]) :=
    Precedes.of_adds (by simp [h0]) hbefore hm
  have := hpre.append l
  rwa [List.append_assoc, List.singleton_append, ← hl] at this

/-- What a handler does behind its checks ends in `inv_send_ack`. -/
def Sends (e : Env) (cseq : ℕ) (accept : Sess → Sess) : Prop :=
  ∀ s, ∃ s', Quiet s s' ∧ accept s = invSendAck e cseq s'

lemma checked_grows {accept : Sess → Sess} {cseq : ℕ} (ha : Sends e cseq accept) :
    Grows s (checked e r accept s) := by
  obtain ⟨hpass, hfail⟩ := checkResponse_spec (e := e) (r := r) (s := s)
  have hcheck : Grows s (checkResponse e r s).1 := by
    by_cases h : s.cfg.insecure r = false ∧ s.cfg.timerFails r = false
    · exact (hpass h).1.grows
    · exact (hfail h).1.grows
  unfold checked
  split
  · rename_i s' heq
    rw [heq] at hcheck
    obtain ⟨s'', hq, hsend⟩ := ha s'
    rw [hsend]
    exact (hcheck.trans hq.grows).trans (invSendAck_grows cseq)
  · rename_i s' heq
    rw [heq] at hcheck
    exact hcheck

lemma checked_spec {accept : Sess → Sess} (ha : Sends e r.cseq accept) (h0 : s₀.sent = []) (hs : Quiet s₀ s) :
    (s₀.cfg.insecure r = false ∧ s₀.cfg.timerFails r = false →
      Precedes (Msg.Acks r.cseq) (fun m => m = .bye) (checked e r accept s).sent) ∧
    (¬ (s₀.cfg.insecure r = false ∧ s₀.cfg.timerFails r = false) → Silent s₀ (checked e r accept s)) := by
  obtain ⟨hpass, hfail⟩ := checkResponse_spec (e := e) (r := r) (s := s)
  rw [hs.cfg] at hpass hfail
  refine ⟨fun h => ?_, fun h => ?_⟩
  · obtain ⟨hq, hok⟩ := hpass h
    unfold checked
    split
    · rename_i s' heq
      rw [heq] at hq
      obtain ⟨s'', hq', hsend⟩ := ha s'
      rw [hsend]
      exact invSendAck_first h0 ((hs.trans hq).trans hq') r.cseq
    · rename_i s' heq
      rw [heq] at hok
      cases hok
  · obtain ⟨hsil, hok⟩ := hfail h
    unfold checked
    split
    · rename_i s' heq
      rw [heq] at hok
      cases hok
    · rename_i s' heq
      rw [heq] at hsil
      exact hs.silent.trans hsil

lemma initial_sends : Sends e r.cseq fun s => invSendAck e r.cseq (invCheckSdpInIncomingMsg e r t s) :=
  fun _ => ⟨_, invCheckSdpInIncomingMsg_quiet t, rfl⟩

lemma confirmed_sends :
    Sends e r.cseq fun s => invSendAck e r.cseq (cancelOffer (invCheckSdpInIncomingMsg e r t s)) :=
  fun _ => ⟨_, (invCheckSdpInIncomingMsg_quiet t).trans cancelOffer_quiet, rfl⟩

lemma acceptInitial_grows : Grows s (acceptInitial e r t s) :=
  (invSetState_grows .connecting).trans (checked_grows (initial_sends t))

lemma invStateHandler_grows : Grows s (invStateHandler e r t s) := by
  have hcause : Grows s (invSetState .disconnected e (invSetCause 200 s)) :=
    Adds.trans (.of_eq (invSetCause_sent 200)) (invSetState_grows _)
  have hcalling : ∀ s' : Sess, s'.sent = s.sent → Grows s (invOnStateCalling e r t s') := by
    intro s' hs'
    unfold invOnStateCalling
    split
    · exact Adds.trans (.of_eq hs') (acceptInitial_grows t)
    · exact .of_eq hs'
  unfold invStateHandler
  split
  · unfold invOnStateNull
    dsimp only
    split
    · refine hcalling _ ?_
      split <;> rfl
    · refine Adds.trans (?_ : Grows s
        (invSetCause 200 (if s.inviteTsx = none then { s with inviteTsx := some t } else s))) (invSetState_grows _)
      refine .of_eq ?_
      rw [invSetCause_sent]
      split <;> rfl
  · exact hcalling s rfl
  · unfold invOnStateIncoming
    split
    · exact hcause
    · exact .refl s
  · unfold invOnStateEarly
    split
    · exact acceptInitial_grows t
    · exact .refl s
  · exact checked_grows (confirmed_sends t)
  · exact .refl s
  · exact .refl s

lemma modInvOnTsxState_quiet : Quiet (invStateHandler e r t s) (modInvOnTsxState e r t s) := by
  unfold modInvOnTsxState
  dsimp only
  refine (notifies_quiet _ _).before ?_ ?_
  · split <;> rfl
  · split <;> rfl

def Sess.inCall (s : Sess) : Bool :=
  s.state = .calling ∨ s.state = .early ∨ s.state = .connecting ∨ s.state = .confirmed

lemma Silent.refl (s : Sess) : Silent s s := ⟨.refl s, rfl⟩

lemma invStateHandler_spec {t : ℕ} (hst : s.inCall = true) (h0 : s.sent = []) (ht : r.tsx = some t) :
    (s.accepts r = true → Precedes (Msg.Acks r.cseq) (fun m => m = .bye) (invStateHandler e r t s).sent) ∧
    (s.accepts r = false → Silent s (invStateHandler e r t s)) := by
  have hinitial : s.state = .calling ∨ s.state = .early →
      invStateHandler e r t s = (if s.inviteTsx = some t then acceptInitial e r t s else s) →
      (s.accepts r = true → Precedes (Msg.Acks r.cseq) (fun m => m = .bye) (invStateHandler e r t s).sent) ∧
      (s.accepts r = false → Silent s (invStateHandler e r t s)) := by
    intro hst' heq
    have hacc : s.accepts r = true ↔
        s.inviteTsx = some t ∧ s.cfg.insecure r = false ∧ s.cfg.timerFails r = false := by
      rcases hst' with hst' | hst' <;> simp [Sess.accepts, ht, hst']
    rw [heq]
    by_cases hinv : s.inviteTsx = some t
    · have hset : Quiet s (invSetState .connecting e s) := invSetState_quiet (by simp)
      obtain ⟨hpass, hfail⟩ := checked_spec (initial_sends (e := e) (r := r) t) h0 hset
      rw [if_pos hinv]
      refine ⟨fun h => hpass (hacc.mp h).2, fun h => hfail fun hno => ?_⟩
      rw [hacc.mpr ⟨hinv, hno⟩] at h
      cases h
    · rw [if_neg hinv]
      exact ⟨fun h => absurd (hacc.mp h).1 hinv, fun _ => .refl s⟩
  simp only [Sess.inCall, decide_eq_true_eq] at hst
  rcases hst with hst | hst | hst | hst
  · exact hinitial (.inl hst) (by rw [invStateHandler, hst]; rfl)
  · exact hinitial (.inr hst) (by rw [invStateHandler, hst]; rfl)
  · have hacc : s.accepts r = false := by simp [Sess.accepts, ht, hst]
    rw [invStateHandler, hst]
    refine ⟨fun h => ?_, fun _ => .refl s⟩
    rw [hacc] at h
    cases h
  · have hacc : s.accepts r = true ↔ s.cfg.insecure r = false ∧ s.cfg.timerFails r = false := by
      simp [Sess.accepts, ht, hst]
    obtain ⟨hpass, hfail⟩ := checked_spec (confirmed_sends (e := e) (r := r) t) h0 (.refl s)
    rw [invStateHandler, hst]
    refine ⟨fun h => hpass (hacc.mp h), fun h => hfail fun hno => ?_⟩
    rw [hacc.mpr hno] at h
    cases h

lemma Silent.not_precedes (h : Silent s₀ s) (h0 : s₀.sent = []) (cseq : ℕ) :
    ¬ Precedes (Msg.Acks cseq) (fun m => m = .bye) s.sent := by
  obtain ⟨l, hl, hno⟩ := h.adds
  rw [hl, h0, List.nil_append]
  refine OutputLog.not_precedes fun m hm hack => ?_
  have := hno m hm
  rcases hack with rfl | rfl <;> cases this

end Adds

/-- During a call a 2xx response is acknowledged, before any BYE of the session, if and only if
`mod_inv_on_rx_response` takes it for a retransmission, or it belongs to an INVITE in progress whose
handler makes its checks with success. -/
theorem acknowledged_iff (env : Env) (r : Response) (s : Sess) (hst : s.inCall = true) :
    Acknowledged env r s ↔ s.expects r.cseq = true ∨ s.accepts r = true := by
  have h0 : ({ s with sent := [] } : Sess).sent = [] := rfl
  have hexp : ({ s with sent := [] } : Sess).expects r.cseq = s.expects r.cseq := rfl
  have hacc : ({ s with sent := [] } : Sess).accepts r = s.accepts r := rfl
  have hcall : ({ s with sent := [] } : Sess).inCall = true := hst
  unfold Acknowledged outputs
  rw [← hexp, ← hacc]
  generalize ({ s with sent := [] } : Sess) = x at h0 hcall
  unfold rx2xx modInvOnRxResponse
  cases hx : x.expects r.cseq with
  | true =>
    have hfirst := invSendAck_first (e := env) h0 (.refl x) r.cseq
    refine ⟨fun _ => .inl rfl, fun _ => ?_⟩
    rw [if_pos rfl]
    split
    · exact hfirst
    · exact hfirst.adds ((invStateHandler_grows _).trans (modInvOnTsxState_quiet _).grows)
  | false =>
    rw [if_neg (by simp)]
    simp only [Bool.false_eq_true, false_or]
    cases ht : r.tsx with
    | none =>
      have hno : x.accepts r = false := by simp [Sess.accepts, ht]
      rw [hno]
      exact ⟨fun h => absurd h ((Silent.refl x).not_precedes h0 r.cseq), fun h => by cases h⟩
    | some t =>
      obtain ⟨hpass, hfail⟩ := invStateHandler_spec (e := env) hcall h0 ht
      have hend := modInvOnTsxState_quiet (e := env) (r := r) (s := x) t
      refine ⟨fun h => ?_, fun h => (hpass h).adds hend.adds⟩
      by_contra hno
      exact ((hfail (by simpa using hno)).trans hend.silent).not_precedes h0 r.cseq h

def exampleCfg (secure timer : Bool) : Cfg :=
  ⟨true, true, true, false, true, false, false, timer, timer, false, .uac, .uac, secure⟩

def calls (cfg : Cfg) (state : InvState) (tsx : ℕ) (lastAck : Option LastAck) : Sess :=
  ⟨cfg, state, 0, true, some tsx, false, false, false, lastAck, some .localOffer, fun _ => none,
    ⟨false, 1800, 90, .unknown, .uac, 0⟩, []⟩

def willing : Env := ⟨fun _ => [], true, true, true, true, true, false, true, false⟩

def okResponse (cseq : ℕ) (tsx : Option ℕ) : Response := ⟨cseq, tsx, 1, some .sip, none, none, .sdp⟩

theorem acknowledged_iff_calling : (calls (exampleCfg false false) .calling 1 none).inCall = true ∧
    Acknowledged willing (okResponse 1 (some 1)) (calls (exampleCfg false false) .calling 1 none) :=
  ⟨rfl, (acknowledged_iff _ _ _ rfl).mpr (.inr rfl)⟩

/-- The first 2xx response of a secure call has a Contact that is not secure, or one that has to use a
session timer has no Session-Expires: the BYE is the only message. A retransmission that comes while a
second re-INVITE is in progress has no answer. -/
theorem not_acknowledged :
    outputs willing (okResponse 1 (some 1)) (calls (exampleCfg true false) .calling 1 none) = [.bye] ∧
    outputs willing (okResponse 1 (some 1)) (calls (exampleCfg false true) .early 1 none) = [.bye] ∧
    outputs willing (okResponse 1 none) (calls (exampleCfg false false) .confirmed 3 (some ⟨2, true, false⟩)) = [] ∧
    ¬ ∀ (env : Env) (r : Response) (s : Sess), s.inCall = true → Acknowledged env r s := by
  have hsecure : outputs willing (okResponse 1 (some 1)) (calls (exampleCfg true false) .calling 1 none) = [.bye] :=
    rfl
  refine ⟨hsecure, rfl, rfl, fun h => ?_⟩
  have hack := h willing (okResponse 1 (some 1)) (calls (exampleCfg true false) .calling 1 none) rfl
  rw [Acknowledged, hsecure] at hack
  refine not_precedes (fun m hm => ?_) hack
  rw [List.mem_singleton.mp hm]
  rintro (h | h) <;> cases h

end PjProject.InvAck
