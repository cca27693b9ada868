import PjProject.TsxOrder

/-!
# SIP transaction: the timeout timer

A transaction that waits for its peer, or for its own end, must have its timeout
timer running. `Armed` is the invariant; the one place that breaks it is a UAC in
CALLING that cannot acknowledge a failure response to its INVITE.
-/
namespace PjProject.Transaction
open Transition

def needsTimeout (t : Tsx) : Bool :=
  match t.role, t.state with
  | .uac, .calling => true
  | .uac, .proceeding => t.method ≠ .invite
  | _, .completed => true
  | .uas, .confirmed => true
  | _, .terminated => true
  | _, _ => false

def ArmedFinal (w : World) : Prop :=
  4 ≤ w.tsx.state.rank → w.tsx.state.rank ≤ 6 → w.tsx.timeoutTimer = some .timeout

def ArmedRequest (w : World) : Prop :=
  w.tsx.state = .calling ∨
    (w.tsx.role = .uac ∧ w.tsx.method ≠ .invite ∧ w.tsx.state = .proceeding) →
  w.tsx.timeoutTimer.isSome

structure Armed (w : World) : Prop where
  final : ArmedFinal w
  request : ArmedRequest w

variable {w : World}

lemma Armed.needsTimeout (h : Armed w) (hn : needsTimeout w.tsx = true) : w.tsx.timeoutTimer.isSome := by
  have hf := h.final
  have hr := h.request
  unfold ArmedFinal at hf
  unfold ArmedRequest at hr
  unfold PjProject.Transaction.needsTimeout at hn
  split at hn <;> simp_all

lemma armed_of_timer (h : w.tsx.timeoutTimer = some .timeout) : Armed w :=
  ⟨fun _ _ => h, fun _ => by simp [h]⟩

structure Keeps (w w' : World) : Prop where
  final : ArmedFinal w → ArmedFinal w'
  some : ArmedFinal w → w.tsx.timeoutTimer.isSome →
    w'.tsx.timeoutTimer.isSome ∨ w'.tsx.state = .destroyed

lemma Keeps.refl (w : World) : Keeps w w := ⟨id, fun _ h => .inl h⟩

variable {w' : World}

lemma Keeps.of_eq (hs : w'.tsx.state = w.tsx.state)
    (ht : w'.tsx.timeoutTimer = w.tsx.timeoutTimer) : Keeps w w' := by
  constructor
  · unfold ArmedFinal
    rw [hs, ht]
    exact id
  · rw [ht]
    exact fun _ h => .inl h

lemma Keeps.of_timer (h : w'.tsx.timeoutTimer = .some .timeout) : Keeps w w' :=
  ⟨fun _ _ _ => h, fun _ _ => .inl (by simp [h])⟩

lemma Keeps.of_destroyed (h : w'.tsx.state = .destroyed) : Keeps w w' :=
  ⟨fun _ _ hr => by simp [h] at hr, fun _ _ => .inr h⟩

lemma Keeps.trans {a b c : World} (h : Keeps a b) (h' : Keeps b c) (hle : Le b c) : Keeps a c := by
  refine ⟨fun ha => h'.final (h.final ha), fun ha hs => ?_⟩
  rcases h.some ha hs with hb | hb
  · exact h'.some (h.final ha) hb
  · have hr := hle.rank
    rw [hb] at hr
    exact .inr (by cases hc : c.tsx.state <;> simp [hc] at hr ⊢)

variable {cb resend : World → World}

/-! ## Transmission -/

lemma tsxSetState_terminated_timer (hcb : CbOk cb) (h : Core w) (src : EventSrc) (hr : w.tsx.state.rank ≤ 6) :
    (tsxSetState cb .terminated src .zero w).tsx.timeoutTimer = some .timeout := by
  obtain ⟨l, env, -, heq, -, -⟩ := tsxSetState_terminated_eq hcb h src .zero hr
  obtain ⟨ptx, att, heq'⟩ := onTerminated_eq false (enterState .terminated { w with
    env := env, trace := l ++ .setState w.tsx.state .terminated :: w.trace })
  rw [heq]
  exact congrArg (·.tsx.timeoutTimer) heq'

lemma reschedIfPending_timer (w : World) : (reschedIfPending w).tsx.timeoutTimer = w.tsx.timeoutTimer := by
  unfold reschedIfPending tsxReschedRetransmission
  dsimp only
  split_ifs <;> rfl

lemma reschedIfPending_keeps (w : World) : Keeps w (reschedIfPending w) :=
  .of_eq (reschedIfPending_frame w).state (reschedIfPending_timer w)

/-- What `resend` does to the timer. -/
def ResendKeeps (resend : World → World) : Prop :=
  ∀ w, Wf w → w.tsx.state ≠ .destroyed → Keeps w (resend w)

lemma afterSent_keeps (hcb : CbOk cb) (hrs : Resends resend) (hk : ResendKeeps resend) (h : Core w)
    (hi : w.tsx.state = .destroyed → w.tsx.flag.pendingSend = false) : Keeps w (afterSent cb resend w) := by
  unfold afterSent
  split_ifs with hd hs
  · have hds := (h.destroy hd).1
    exact .of_destroyed (tsxSetState_destroyed hcb h .unknown (fun _ => hds)).2.2.1
  · have hn : w.tsx.state ≠ .destroyed := fun hn => by simp [hi hn] at hs
    have h₁ : Wf (setPendingSend false w) := (setPendingSend_core h false).wf rfl
    have hf := reschedIfPending_frame (resend (setPendingSend false w))
    have hw : Keeps w (setPendingSend false w) := .of_eq rfl rfl
    exact hw.trans ((hk _ h₁ hn).trans (reschedIfPending_keeps _) hf.le)
      ((hrs _ h₁ hn).le.trans hf.le)
  · exact reschedIfPending_keeps w

lemma sendMsgAdopt_keeps (ours : Bool) (tp : Transport) (w : World) : Keeps w (sendMsgAdopt ours tp w) := by
  obtain ⟨pt, err, tm, -, -, htm, htm', heq⟩ := adoptTransport_eq tp w
  have key : ∀ w' : World, w'.tsx.state = w.tsx.state → (w'.tsx.timeoutTimer = tm) →
      Keeps w w' := by
    intro w' hs ht
    refine ⟨fun hf h4 h6 => ?_, fun _ h => .inl (ht ▸ htm h)⟩
    rw [hs] at h4 h6
    rw [ht, htm' h4]
    exact hf h4 h6
  unfold sendMsgAdopt
  rw [heq]
  dsimp only
  split_ifs
  · exact key _ rfl rfl
  · exact .of_eq rfl rfl
  · exact key _ rfl rfl
  · exact .of_eq rfl rfl

lemma sendMsgFailed_keeps (hcb : CbOk cb) (ours : Bool) (e : SendErr)
    (h : Core w) : Keeps w (sendMsgFailed cb ours e w) := by
  obtain ⟨w₁, hw₁, hc₁, hs₁, ht₁⟩ : ∃ w₁, sendMsgMark ours e w = w₁ ∧ Core w₁ ∧
      w₁.tsx.state = w.tsx.state ∧ w₁.tsx.timeoutTimer = w.tsx.timeoutTimer := by
    cases ours
    · exact ⟨_, rfl, { h with }, rfl, rfl⟩
    · exact ⟨_, rfl, { h with resolved := fun _ _ => rfl, direct := fun _ _ _ _ => rfl }, rfl, rfl⟩
  unfold sendMsgFailed
  rw [hw₁]
  dsimp only
  split_ifs with hterm hdes hres
  · have hr : w₁.tsx.state.rank ≤ 6 := by
      have : w₁.tsx.state.rank < 7 := State.rank_lt_seven.2 fun hd => hterm.2 (.inr hd)
      omega
    exact .of_timer (tsxSetState_terminated_timer hcb
      ((tsxSetStatusCode_frame e.statusCode w₁).core hc₁) .transportError hr)
  · have hd := (hc₁.destroy hdes).1
    exact .of_destroyed (tsxSetState_destroyed hcb
      ((tsxSetStatusCode_frame e.statusCode w₁).core hc₁) .transportError (fun _ => hd)).2.2.1
  · have ht : (tsxReschedRetransmission (setPendingResched false w₁)).tsx.timeoutTimer =
        w₁.tsx.timeoutTimer := by
      unfold tsxReschedRetransmission
      dsimp only
      split_ifs <;> rfl
    have hs : (tsxReschedRetransmission (setPendingResched false w₁)).tsx.state =
        w₁.tsx.state := by
      unfold tsxReschedRetransmission
      dsimp only
      split_ifs <;> rfl
    exact .of_eq (hs.trans hs₁) (ht.trans ht₁)
  · exact .of_eq hs₁ ht₁

lemma sendMsgRetry_keeps (tx : TxData) (w : World) : Keeps w (sendMsgRetry tx w) := by
  unfold sendMsgRetry
  dsimp only
  split_ifs
  · exact .of_timer rfl
  · exact .of_eq rfl rfl

lemma releaseTx_keeps (tx : TxData) (ours : Bool) (w : World) : Keeps w (releaseTx tx ours w) := by
  unfold releaseTx
  split_ifs <;> exact .of_eq rfl rfl

lemma dropTransport_keeps (tp : Option Transport) (w : World) : Keeps w (dropTransport tp w) := by
  unfold dropTransport
  split_ifs <;> exact .of_eq rfl rfl

lemma sendMsgCallback_keeps (hcb : CbOk cb) (hrs : Resends resend) (hk : ResendKeeps resend)
    (tx : TxData) (ours : Bool) (res : CbResult) (cont : Bool) (h : Wf w) :
    Keeps w (sendMsgCallback cb resend tx ours res cont w).1 := by
  have h₁ := (releaseTx_frame tx ours w).sent h
  have k₁ := releaseTx_keeps tx ours w
  unfold sendMsgCallback
  split_ifs
  · exact Keeps.refl w
  cases res with
  | sent tp =>
    obtain ⟨hc, hle, hst, hps, -⟩ := sendMsgAdopt_spec ours tp h₁.wf.toCore
    have hi := show (sendMsgAdopt ours tp (releaseTx tx ours w)).tsx.state = .destroyed →
        (sendMsgAdopt ours tp (releaseTx tx ours w)).tsx.flag.pendingSend = false by
      rw [hst, hps]
      exact h₁.wf.idle
    have hs := (afterSent_sent hcb hrs hc hi).1.le
    exact k₁.trans ((sendMsgAdopt_keeps ours tp _).trans (afterSent_keeps hcb hrs hk hc hi) hs)
      (hle.trans hs)
  | failed e tp =>
    obtain ⟨h₂, -, -⟩ := dropTransport_sent tp h₁.wf
    have k₂ := k₁.trans (dropTransport_keeps tp _) h₂.le
    dsimp only
    split_ifs
    · exact k₂.trans (sendMsgFailed_keeps hcb ours e h₂.wf.toCore)
        (sendMsgFailed_sent hcb ours e h₂.wf.toCore h₂.wf.idle).1.le
    · exact k₂.trans (sendMsgRetry_keeps tx _) (sendMsgRetry_frame tx _).le

lemma runEndpt_keeps (hcb : CbOk cb) (hrs : Resends resend) (hk : ResendKeeps resend)
    (tx : TxData) (ours : Bool) (attempts : List (SendErr × Option Transport)) (last : EndptLast) (h : Wf w) : Keeps w (runEndpt cb resend tx ours attempts last w) := by
  induction attempts generalizing w with
  | nil =>
    cases last with
    | pending b => exact .of_eq rfl rfl
    | sent tp => exact sendMsgCallback_keeps hcb hrs hk tx ours (.sent tp) false h
    | failed e tp => exact sendMsgCallback_keeps hcb hrs hk tx ours (.failed e tp) false h
  | cons a rest ih =>
    obtain ⟨e, tp⟩ := a
    have h₁ := (sendMsgCallback_sent hcb hrs tx ours (.failed e tp) true h).1
    have k₁ := sendMsgCallback_keeps hcb hrs hk tx ours (.failed e tp) true h
    unfold runEndpt
    dsimp only
    split_ifs
    · exact k₁.trans (ih h₁.wf) (runEndpt_sent hcb hrs tx ours rest last h₁.wf).1.le
    · exact k₁

lemma sendDirect_keeps (tx : TxData) (w : World) : Keeps w (sendDirect tx w).1 := by
  have hd := sendDirect_cases tx w
  generalize sendDirect tx w = r at hd ⊢
  cases hd <;> exact .of_eq rfl rfl

lemma sendStateless_keeps (hcb : CbOk cb) (hrs : Resends resend) (hk : ResendKeeps resend)
    (tx : TxData) (h : Wf w) : Keeps w (sendStateless cb resend tx w).1 := by
  obtain ⟨env, henv⟩ := popEndpt_eq (sendBegin tx w)
  unfold sendStateless
  rcases hpop : (sendBegin tx w).popEndpt with ⟨r, w₁⟩
  have hw₁ : w₁ = { sendBegin tx w with env := env } := by
    rw [hpop] at henv
    exact henv
  have h₁ : Wf w₁ := by
    rw [hw₁]
    exact { sendBegin_wf tx h with }
  have k₁ : Keeps w w₁ := by
    rw [hw₁]
    exact .of_eq rfl rfl
  cases r with
  | refused e =>
    refine k₁.trans (.of_eq ?_ ?_) ⟨?_, ?_, ?_, ?_, ?_, ?_⟩ <;> unfold sendRefused <;>
      dsimp only <;> split_ifs <;> rfl
  | run attempts last =>
    exact k₁.trans (runEndpt_keeps hcb hrs hk tx true _ last h₁)
      (runEndpt_sent hcb hrs tx true _ last h₁).1.le

lemma tsxSendMsgWith_keeps (hcb : CbOk cb) (hrs : Resends resend) (hk : ResendKeeps resend)
    (tx : TxData) (h : Wf w) (hd : w.tsx.state ≠ .destroyed) : Keeps w (tsxSendMsgWith cb resend tx w).1 := by
  have k₁ := sendDirect_keeps tx w
  have hc := tsxSendMsgWith_cases cb resend tx w
  generalize tsxSendMsgWith cb resend tx w = r at hc ⊢
  cases hc with
  | deferred hp => exact .of_eq rfl rfl
  | busy => exact Keeps.refl w
  | direct w₁ hp _ hdir =>
    rw [hdir] at k₁
    exact k₁
  | permanent w₁ status hp _ hdir hres =>
    obtain ⟨h₁, -, -⟩ := sendDirect_sent tx h hp
    rw [hdir] at h₁
    have hr : w₁.tsx.state.rank < 7 := State.rank_lt_seven.2 (h₁.alive hd)
    exact .of_timer (tsxSetState_terminated_timer hcb
      ((tsxSetStatusCode_frame 503 w₁).core h₁.wf.toCore) .transportError (Nat.lt_succ_iff.1 hr))
  | stateless w₁ status hp _ hdir hres =>
    obtain ⟨h₁, -, hfl⟩ := sendDirect_sent tx h hp
    rw [hdir] at h₁ hfl k₁
    have hp₁ : w₁.tsx.flag.pendingTransport = false := by
      rw [hfl rfl]
      exact hp
    exact k₁.trans (sendStateless_keeps hcb hrs hk tx h₁.wf)
      (sendStateless_spec hcb hrs tx h₁.wf (h₁.wf.pendingSend_false hp₁ hres)).sent.le

lemma tsxSendMsgDepth_keeps (hcb : CbOk cb) (n : ℕ) (tx : TxData) (h : Wf w)
    (hd : w.tsx.state ≠ .destroyed) : Keeps w (tsxSendMsgDepth cb n tx w).1 := by
  induction n generalizing tx w with
  | zero =>
    exact tsxSendMsgWith_keeps hcb (fun w h _ => Sent.refl h) (fun w _ _ => Keeps.refl w) tx h hd
  | succ n ih =>
    refine tsxSendMsgWith_keeps hcb
      (sendLastTx_resends fun tx w h hd => tsxSendMsgDepth_spec hcb n tx h hd) ?_ tx h hd
    intro w h hd
    unfold sendLastTx
    split
    · exact Keeps.refl w
    · exact ih _ h hd

lemma tsxSendMsg_keeps (hcb : CbOk cb) (tx : TxData) (h : Wf w)
    (hd : w.tsx.state ≠ .destroyed) : Keeps w (tsxSendMsg cb tx w).1 :=
  tsxSendMsgDepth_keeps hcb 1 tx h hd

lemma sendLastTx_keeps (hcb : CbOk cb) : ResendKeeps (sendLastTx (tsxSendMsg cb)) := by
  intro w h hd
  unfold sendLastTx
  split
  · exact Keeps.refl w
  · exact tsxSendMsg_keeps hcb _ h hd

lemma Sent.armed (hs : Sent w w') (hk : Keeps w w') (ha : Armed w) : Armed w' := by
  refine ⟨hk.final ha.final, fun hr => ?_⟩
  rcases hs.state with hst | ⟨hst, -⟩
  · rw [hst, hs.le.role, hs.le.method] at hr
    rcases hk.some ha.final (ha.request hr) with h | h
    · exact h
    · rw [hst] at h
      simp [h] at hr
  · simp [hst] at hr

lemma tsxSendMsg_armed (hcb : CbOk cb) (tx : TxData) (h : Wf w)
    (hd : w.tsx.state ≠ .destroyed) (ha : Armed w) : Armed (tsxSendMsg cb tx w).1 :=
  (tsxSendMsg_spec hcb tx h hd).sent.armed (tsxSendMsg_keeps hcb tx h hd) ha

lemma Armed.congr (ha : Armed w) (hs : w'.tsx.state = w.tsx.state)
    (hr : w'.tsx.role = w.tsx.role) (hm : w'.tsx.method = w.tsx.method)
    (ht : w'.tsx.timeoutTimer = w.tsx.timeoutTimer) : Armed w' := by
  constructor
  · unfold ArmedFinal
    rw [hs, ht]
    exact ha.final
  · unfold ArmedRequest
    rw [hs, hr, hm, ht]
    exact ha.request

lemma retransmitBegin_timer (resched : Bool) (w : World) :
    (retransmitBegin resched w).tsx.timeoutTimer = w.tsx.timeoutTimer := by
  unfold retransmitBegin tsxReschedRetransmission
  dsimp only
  split_ifs <;> rfl

lemma tsxRetransmit_armed (hcb : CbOk cb) (resched : Bool) (h : Wf w)
    (hd : w.tsx.state ≠ .destroyed) (ha : Armed w) : Armed (tsxRetransmit cb resched w).1 := by
  unfold tsxRetransmit
  split_ifs
  · exact ha
  split
  · exact ha
  split_ifs
  · exact armed_of_timer rfl
  · rename_i tx _ _
    have f := retransmitBegin_frame resched w
    have h₁ := f.sent h
    have ha₁ := ha.congr f.state f.role f.method (retransmitBegin_timer resched w)
    have ha₂ := tsxSendMsg_armed hcb tx h₁.wf (h₁.alive hd) ha₁
    dsimp only
    split_ifs
    · exact ha₂.congr rfl rfl rfl rfl
    · exact ha₂

lemma armed_of_destroyed (h : w.tsx.state = .destroyed) : Armed w :=
  ⟨fun _ hr => by simp [h] at hr, fun hr => by simp [h] at hr⟩

/-! ## The ACK -/

/-- The endpoint is asked to send `tx` and refuses at once. -/
def refusedAtOnce (tx : TxData) (t : Tsx) (busy : List TxData) (env : Env) : Bool :=
  !t.flag.pendingTransport && !(tx ∈ busy) && !t.flag.resolvedServer &&
    (match env.endpt with
      | .refused _ :: _ => true
      | _ => false)

lemma tsxSendMsg_error (hcb : CbOk cb) (tx : TxData) (h : Wf w)
    (hd : w.tsx.state ≠ .destroyed) (hu : w.tsx.role = .uac) (hs : (tsxSendMsg cb tx w).2 ≠ .success)
    (hn : refusedAtOnce tx w.tsx w.busy w.env = false) : (tsxSendMsg cb tx w).1.tsx.state = .terminated := by
  have hc := tsxSendMsgWith_cases cb (sendLastTx (tsxSendMsgDepth cb 0)) tx w
  have hdef : tsxSendMsg cb tx w =
    tsxSendMsgWith cb (sendLastTx (tsxSendMsgDepth cb 0)) tx w := rfl
  rw [hdef] at hs ⊢
  generalize tsxSendMsgWith cb (sendLastTx (tsxSendMsgDepth cb 0)) tx w = r at hc hs ⊢
  cases hc with
  | deferred => exact absurd rfl hs
  | busy => exact absurd rfl hs
  | direct => exact absurd rfl hs
  | permanent w₁ status hp hb hdir hres =>
    obtain ⟨h₁, -, -⟩ := sendDirect_sent tx h hp
    rw [hdir] at h₁
    have hr : w₁.tsx.state.rank < 7 := State.rank_lt_seven.2 (h₁.alive hd)
    exact (tsxSetState_terminated hcb ((tsxSetStatusCode_frame 503 w₁).core h₁.wf.toCore)
      .transportError .zero (Nat.lt_succ_iff.1 hr)).2.1
  | stateless w₁ status hp hb hdir hres =>
    have hdc := sendDirect_cases tx w
    rw [hdir] at hdc
    cases hdc with
    | noTransport ht =>
      have hfl : w.tsx.flag.resolvedServer = false := by
        by_contra hr
        exact hres ⟨hu, by simpa using hr⟩
      unfold sendStateless at hs ⊢
      rcases hpop : (sendBegin tx w).popEndpt with ⟨a, w₁⟩
      rw [hpop] at hs
      cases a with
      | refused e =>
        have henv : ∃ rest, w.env.endpt = .refused e :: rest := by
          unfold World.popEndpt at hpop
          split at hpop
          · simp at hpop
          · next r rest hrs =>
            injection hpop with hr _
            exact ⟨rest, hr ▸ hrs⟩
        obtain ⟨rest, henv⟩ := henv
        simp [refusedAtOnce, hp, hb, hfl, henv] at hn
      | run attempts last =>
        dsimp only at hs ⊢
        by_contra hne
        exact hs (if_neg hne)
    | failed env e ht ha he =>
      exact absurd ⟨hu, h.resolved hu ht⟩ hres

/-- The response in `i` makes a UAC in CALLING acknowledge a failed INVITE, and the
ACK cannot be created or is refused at once. -/
def losesTimeout (w : World) (i : Input × Env) : Bool :=
  match i.1 with
  | .recv (.response code) =>
    300 ≤ code.val && w.tsx.state = .calling && w.tsx.method = .invite &&
      (match i.2.ack with
        | some ack :: _ => refusedAtOnce ack w.tsx w.busy i.2
        | _ => true)
  | _ => false

def AckSent (w : World) : Prop :=
  ∃ ack rest, w.env.ack = some ack :: rest ∧ refusedAtOnce ack w.tsx w.busy w.env = false

lemma sendAck_keeps (hcb : CbOk cb) (h : Wf w) (hd : w.tsx.state ≠ .destroyed) :
    Sent w (sendAck cb w).1 ∧ Keeps w (sendAck cb w).1 := by
  obtain ⟨env, henv⟩ := popAck_eq w
  unfold sendAck
  rcases hpop : w.popAck with ⟨r, w₁⟩
  rw [hpop] at henv
  dsimp only at henv
  subst henv
  have f : Frame w { w with env := env } := by
    constructor <;> first | rfl | exact fun _ h _ => h | exact Extends.refl _
  have h₁ := f.sent h
  have k₁ : Keeps w { w with env := env } := .of_eq rfl rfl
  cases r with
  | none => exact ⟨h₁, k₁⟩
  | some ack =>
    have h₂ := (tsxSendMsg_spec hcb ack h₁.wf (h₁.alive hd)).sent
    exact ⟨h₁.trans h₂, k₁.trans (tsxSendMsg_keeps hcb ack h₁.wf (h₁.alive hd)) h₂.le⟩

lemma sendAck_error (hcb : CbOk cb) (h : Wf w) (hd : w.tsx.state ≠ .destroyed)
    (hu : w.tsx.role = .uac) (hack : AckSent w) {status : Status}
    (he : (sendAck cb w).2 = .error status) : (sendAck cb w).1.tsx.state = .terminated := by
  obtain ⟨ack, rest, hrest, hn⟩ := hack
  have hpop : w.popAck = (some ack, { w with env := { w.env with ack := rest } }) := by
    unfold World.popAck
    rw [hrest]
  have h₁ : Wf { w with env := { w.env with ack := rest } } := { h with }
  unfold sendAck at he ⊢
  rw [hpop] at he ⊢
  dsimp only at he ⊢
  refine tsxSendMsg_error hcb ack h₁ hd hu ?_ hn
  intro hok
  simp [hok] at he

/-! ## State handlers -/

def CbArmed (cb : World → World) : Prop := ∀ w, Wf w → Armed w → Armed (cb w)

lemma notifyUser_armed (hca : CbArmed cb) (h : Wf w) (o : Obs)
    (ho : ObsOk w.tsx.role o) (hd : w.tsx.state ≠ .destroyed) (hn : o ≠ .notify .destroyed)
    (ha : Armed w) : Armed (notifyUser cb o w) := by
  unfold notifyUser
  split_ifs
  · exact hca _ (h.log o ho (fun _ => hd) hn) (ha.congr rfl rfl rfl rfl)
  · exact ha

lemma notifyTu_armed (hcb : CbOk cb) (hca : CbArmed cb) (src : EventSrc) (h : Wf w)
    (hd : w.tsx.state ≠ .destroyed) (ha : Armed w) : Armed (notifyTu cb src w) := by
  have h₁ : Sound w (if src.isRxResponse then notifyUser cb .rxResponse w else w) ∧
      Armed (if src.isRxResponse then notifyUser cb .rxResponse w else w) := by
    split_ifs
    · exact ⟨notifyUser_sound hcb h .rxResponse trivial hd (by simp),
        notifyUser_armed hca h .rxResponse trivial hd (by simp) ha⟩
    · exact ⟨Sound.refl h, ha⟩
  have hd₁ := h₁.1.alive hd
  exact notifyUser_armed hca h₁.1.wf _ trivial hd₁ (by simpa using hd₁) h₁.2

lemma tsxSetState_armed (hcb : CbOk cb) (hca : CbArmed cb) (h : Wf w) (st : State)
    (src : EventSrc) (hst : st.rank < 6) (hr : w.tsx.state.rank ≤ st.rank)
    (hal : allowed w.tsx.role st = true) (ha : Armed (enterState st w)) :
    Armed (tsxSetState cb st src .zero w) := by
  rw [tsxSetState_eq_notifyTu cb w st src hst]
  refine notifyTu_armed hcb hca src (enterState_wf h st hst hr hal) ?_ (ha.congr rfl rfl rfl rfl)
  exact State.rank_lt_seven.1 (lt_trans hst (by omega))

lemma terminate_armed (hcb : CbOk cb) (h : Core w) (src : EventSrc)
    (hr : w.tsx.state.rank ≤ 6) : Armed (tsxSetState cb .terminated src .zero w) :=
  armed_of_timer (tsxSetState_terminated_timer hcb h src hr)

lemma tsxOnStateNull_armed (hcb : CbOk cb) (hca : CbArmed cb) (e : Event) (h : Wf w)
    (hs : w.tsx.state = .null) : Armed (tsxOnStateNull cb e w).1 := by
  have hnull : Armed w := ⟨fun h4 => by simp [hs] at h4, fun hr => by simp [hs] at hr⟩
  unfold tsxOnStateNull
  split
  next hro =>
    exact tsxSetState_armed hcb hca h .trying _ (by simp) (by simp [hs]) (by simp [hro, allowed])
      ⟨fun h4 => by simp at h4, fun hr => by simp at hr⟩
  next hro =>
    split
    next tx =>
      have f := setLastTx_frame (some tx) w
      have h₀ := f.sent h
      have hd₀ : (setLastTx (some tx) w).tsx.state ≠ .destroyed := by simp [hs]
      have h₁ := SendSpec.of_sent h₀ f.state (tsxSendMsg_spec hcb tx h₀.wf hd₀)
      dsimp only
      split
      next hok =>
        set w₁ := (tsxSendMsg cb tx (setLastTx (some tx) w)).1 with hw₁
        have g : Frame w₁ (if (restartTimeout .timeout w₁).tsx.isReliable then
            restartTimeout .timeout w₁ else startRetransmit (restartTimeout .timeout w₁)) :=
          (restartTimeout_frame _ _).trans (.ite (.refl _) (startRetransmit_frame _))
        have hst := g.state.trans (h₁.ok hok)
        refine tsxSetState_armed hcb hca (g.sound h₁.sent.wf).wf .calling _ (by simp)
          (by rw [hst, hs]; simp) ?_ (armed_of_timer ?_)
        · rw [g.role, h₁.sent.le.role, hro]
          rfl
        · unfold startRetransmit
          dsimp only
          split_ifs <;> rfl
      next => exact tsxSendMsg_armed hcb tx h₀.wf hd₀ (hnull.congr rfl rfl rfl rfl)
    next => exact hnull

lemma proceedingUacFailure_armed (hcb : CbOk cb) (src : EventSrc) (h : Wf w) (hu : w.tsx.role = .uac)
    (hs : w.tsx.state = .calling ∨ w.tsx.state = .proceeding)
    (hack : w.tsx.method = .invite → w.tsx.state = .calling → AckSent w) :
    Armed (proceedingUacFailure cb src w).1 := by
  have f : Frame w (cancelTimeout (cancelRetransmit w)) :=
    (cancelRetransmit_frame _).trans (cancelTimeout_frame _)
  have h₁ := f.sound h
  have hr : w.tsx.state.rank ≤ 3 := by rcases hs with hs | hs <;> simp [hs]
  have hd : w.tsx.state ≠ .destroyed := by rcases hs with hs | hs <;> simp [hs]
  unfold proceedingUacFailure
  dsimp only
  split
  next hm =>
    obtain ⟨h₂, k₂⟩ := sendAck_keeps hcb h₁.wf (h₁.alive hd)
    have herr : w.tsx.state = .calling → ∀ status,
        (sendAck cb (cancelTimeout (cancelRetransmit w))).2 = .error status →
        (sendAck cb (cancelTimeout (cancelRetransmit w))).1.tsx.state = .terminated :=
      fun hc _ => sendAck_error hcb h₁.wf (h₁.alive hd) hu (hack hm hc)
    rcases hsa : sendAck cb (cancelTimeout (cancelRetransmit w)) with ⟨w₂, res⟩
    rw [hsa] at h₂ k₂ herr
    dsimp only at h₂ k₂ herr
    cases res with
    | ok ack => exact armed_of_timer rfl
    | error status =>
      have hfin : ArmedFinal (cancelTimeout (cancelRetransmit w)) := by
        intro h4 _
        have : w.tsx.state.rank ≥ 4 := h4
        omega
      refine ⟨k₂.final hfin, fun hreq => ?_⟩
      have hm₂ : w₂.tsx.method = .invite := h₂.le.method.trans hm
      rcases hreq with hreq | ⟨_, hreq, _⟩
      · rcases h₂.state with hst | ⟨hst, -⟩
        · have hc : w.tsx.state = .calling := hst.symm.trans hreq
          exact absurd ((herr hc status rfl).symm.trans hreq) (by simp)
        · exact absurd (hst.symm.trans hreq) (by simp)
      · exact absurd hm₂ hreq
  next =>
    split
    next => exact terminate_armed hcb h₁.wf.toCore src (by rw [f.state]; omega)
    next => exact armed_of_timer rfl

lemma rxResponse_armed (hcb : CbOk cb) (hca : CbArmed cb) (code : StatusCode)
    (h : Wf w) (hu : w.tsx.role = .uac) (hs : w.tsx.state = .calling ∨ w.tsx.state = .proceeding)
    (ht : code.val < 200 → w.tsx.method ≠ .invite → w.tsx.timeoutTimer.isSome)
    (hack : 300 ≤ code.val → w.tsx.method = .invite → w.tsx.state = .calling → AckSent w) :
    Armed (tsxOnStateProceedingUac cb (.rxMsg (.response code)) w).1 := by
  have hr : w.tsx.state.rank ≤ 3 := by rcases hs with hs | hs <;> simp [hs]
  have f := tsxSetStatusCode_frame code.val w
  have h₁ := (f.sound h).wf
  unfold tsxOnStateProceedingUac
  dsimp only
  split
  next hlt =>
    refine tsxSetState_armed hcb hca h₁ .proceeding _ (by simp) (by rw [f.state]; simpa using hr)
      (by rw [f.role, hu]; rfl) ⟨fun h4 => by simp at h4, fun hreq => ?_⟩
    rcases hreq with hreq | ⟨-, hm, -⟩
    · simp at hreq
    · exact ht hlt hm
  next =>
    split
    next =>
      split
      next =>
        have g := f.trans (cancelTimeout_frame _)
        exact terminate_armed hcb (g.core h.toCore) _ (by rw [g.state]; omega)
      next =>
        have g := ((f.trans (cancelTimeout_frame _)).trans (scheduleTimeout_frame .timeout _)).trans
          (cancelRetransmit_frame _)
        exact tsxSetState_armed hcb hca (g.sound h).wf .completed _ (by simp)
          (by rw [g.state]; exact hr.trans (by simp)) (by rw [g.role, hu]; rfl)
          (armed_of_timer rfl)
    next h300 =>
      exact proceedingUacFailure_armed hcb _ h₁ hu (by rw [f.state]; exact hs)
        (hack (not_lt.1 h300))

lemma tsxOnStateProceedingUac_armed (hcb : CbOk cb) (hca : CbArmed cb) (e : Event)
    (h : Wf w) (hu : w.tsx.role = .uac) (hs : w.tsx.state = .proceeding)
    (ha : e = .timeoutTimer ∨ Armed w) : Armed (tsxOnStateProceedingUac cb e w).1 := by
  have f := tsxSetStatusCode_frame 408 w
  cases e with
  | timeoutTimer => exact terminate_armed hcb (f.core h.toCore) .timer (by rw [f.state, hs]; simp)
  | txMsg tx => exact ha.resolve_left (by simp)
  | retransmitTimer => exact tsxRetransmit_armed hcb true h (by simp [hs]) (ha.resolve_left (by simp))
  | rxMsg m =>
    have haw : Armed w := ha.resolve_left (by simp)
    cases m with
    | request m => exact haw
    | response code =>
      exact rxResponse_armed hcb hca code h hu (.inr hs)
        (fun _ hm => haw.request (.inr ⟨hu, hm, hs⟩))
        (fun _ _ hc => by simp [hs] at hc)

variable {code : StatusCode}

lemma callingRxTimers_timer (hlt : code.val < 200) (hm : w.tsx.method ≠ .invite) :
    (callingRxTimers code w).tsx.timeoutTimer = w.tsx.timeoutTimer := by
  unfold callingRxTimers
  dsimp only
  split_ifs with h200 hinv hrel
  · omega
  · exact absurd hinv hm
  · rfl
  · rfl

lemma callingRxTimers_ack (h : AckSent w) : AckSent (callingRxTimers code w) := by
  unfold callingRxTimers
  dsimp only
  split_ifs <;> exact h

lemma tsxOnStateCalling_armed (hcb : CbOk cb) (hca : CbArmed cb) (e : Event)
    (h : Wf w) (hu : w.tsx.role = .uac) (hs : w.tsx.state = .calling) (ha : e = .timeoutTimer ∨ Armed w)
    (hack : ∀ code, e = .rxMsg (.response code) → 300 ≤ code.val → w.tsx.method = .invite →
      AckSent w) : Armed (tsxOnStateCalling cb e w).1 := by
  cases e with
  | timeoutTimer =>
    have f : Frame w (tsxSetStatusCode 408 (setPendingResched false (cancelRetransmit w))) :=
      ((cancelRetransmit_frame _).trans (setPendingResched_frame _ _)).trans
        (tsxSetStatusCode_frame _ _)
    exact terminate_armed hcb (f.core h.toCore) .timer (by rw [f.state, hs]; simp)
  | txMsg tx => exact ha.resolve_left (by simp)
  | retransmitTimer => exact tsxRetransmit_armed hcb true h (by simp [hs]) (ha.resolve_left (by simp))
  | rxMsg m =>
    have haw : Armed w := ha.resolve_left (by simp)
    cases m with
    | request m => exact haw
    | response code =>
      have f := callingRxTimers_frame code w
      refine rxResponse_armed hcb hca code (f.sound h).wf (f.role.trans hu)
        (.inl (f.state.trans hs)) ?_ ?_
      · intro hlt hm
        rw [f.method] at hm
        rw [callingRxTimers_timer hlt hm]
        exact haw.request (.inl hs)
      · intro h300 hm _
        exact callingRxTimers_ack (hack code rfl h300 (f.method ▸ hm))

lemma armed_uas (hu : w.tsx.role = .uas) (hs : w.tsx.state ≠ .calling)
    (hr : w.tsx.state.rank ≤ 3) : Armed w :=
  ⟨fun h4 => by omega, fun h => by rcases h with h | ⟨h, -⟩ <;> simp_all⟩

lemma startRetransmit_timer (w : World) : (startRetransmit w).tsx.timeoutTimer = w.tsx.timeoutTimer := by
  unfold startRetransmit
  dsimp only
  split_ifs <;> rfl

lemma proceedingUas1xx_armed (hcb : CbOk cb) (hca : CbArmed cb) (tx : TxData)
    (h : Wf w) (hu : w.tsx.role = .uas) (hr : w.tsx.state.rank ≤ 3) : Armed (proceedingUas1xx cb tx w) := by
  have f := setLastTx_frame (some tx) w
  have ha := tsxSetState_armed hcb hca (f.sound h).wf .proceeding .txMsg (by simp)
    (by rw [f.state]; simpa) (by rw [f.role, hu]; rfl) (armed_uas hu (by simp) (by simp))
  unfold proceedingUas1xx
  dsimp only
  split
  next =>
    have g := (cancelRetransmit_frame (tsxSetState cb .proceeding .txMsg .zero
      (setLastTx (some tx) w))).trans (startRetransmit_frame _)
    exact ha.congr g.state g.role g.method (startRetransmit_timer _)
  next => exact ha

lemma proceedingUas2xx_armed (hcb : CbOk cb) (hca : CbArmed cb) (tx : TxData)
    (h : Wf w) (hu : w.tsx.role = .uas) (hr : w.tsx.state.rank ≤ 3) : Armed (proceedingUas2xx cb tx w) := by
  have f := cancelRetransmit_frame w
  unfold proceedingUas2xx
  dsimp only
  split
  next => exact terminate_armed hcb (f.core h.toCore) .txMsg (by rw [f.state]; omega)
  next =>
    have g : Frame w (restartTimeout .timeout (setLastTx (some tx)
        (if (cancelRetransmit w).tsx.method = .invite then startRetransmit (cancelRetransmit w)
          else cancelRetransmit w))) :=
      ((f.trans (.ite (startRetransmit_frame _) (.refl _))).trans (setLastTx_frame _ _)).trans
        (restartTimeout_frame _ _)
    exact tsxSetState_armed hcb hca (g.sound h).wf .completed .txMsg (by simp)
      (by rw [g.state]; exact hr.trans (by simp)) (by rw [g.role, hu]; rfl) (armed_of_timer rfl)

lemma proceedingUasFailure_armed (hcb : CbOk cb) (hca : CbArmed cb) (tx : TxData)
    (cseqMethod : Method) (h : Wf w) (hu : w.tsx.role = .uas)
    (hr : w.tsx.state.rank ≤ 3) : Armed (proceedingUasFailure cb tx cseqMethod w) := by
  have f : Frame w (restartTimeout .timeout (setLastTx (some tx) (cancelRetransmit w))) :=
    ((cancelRetransmit_frame _).trans (setLastTx_frame _ _)).trans (restartTimeout_frame _ _)
  have g := f.trans (.ite (c := (restartTimeout .timeout (setLastTx (some tx)
      (cancelRetransmit w))).tsx.isReliable = false ∧ cseqMethod = .invite)
    (startRetransmit_frame _) (.refl _))
  refine tsxSetState_armed hcb hca (g.sound h).wf .completed .txMsg (by simp)
    (by rw [g.state]; exact hr.trans (by simp)) (by rw [g.role, hu]; rfl) (armed_of_timer ?_)
  split_ifs
  · exact startRetransmit_timer _
  · rfl

lemma proceedingUasTx_armed (hcb : CbOk cb) (hca : CbArmed cb) (tx : TxData)
    (h : Wf w) (hu : w.tsx.role = .uas) (hc : w.tsx.state ≠ .calling)
    (hr : w.tsx.state.rank ≤ 3) : Armed (proceedingUasTx cb tx w).1 := by
  have hd : w.tsx.state ≠ .destroyed := State.rank_lt_seven.1 (by omega)
  unfold proceedingUasTx
  split
  next => exact armed_uas hu hc hr
  next code cseqMethod _ =>
    have f := proceedingUasPrepare_frame tx code w
    have hd₁ := (f.sound h).alive hd
    have h₁ := SendSpec.of_sent (f.sent h) f.state (tsxSendMsg_spec hcb tx (f.sent h).wf hd₁)
    have hu₁ := h₁.sent.le.role.trans hu
    dsimp only
    split
    next hok =>
      have hr₁ := (h₁.ok hok).symm ▸ hr
      split
      next => exact proceedingUas1xx_armed hcb hca tx h₁.sent.wf hu₁ hr₁
      next =>
        split
        next => exact proceedingUas2xx_armed hcb hca tx h₁.sent.wf hu₁ hr₁
        next => exact proceedingUasFailure_armed hcb hca tx cseqMethod h₁.sent.wf hu₁ hr₁
    next =>
      refine tsxSendMsg_armed hcb tx (f.sent h).wf hd₁ (armed_uas (f.role.trans hu) ?_ ?_)
      · rw [f.state]
        exact hc
      · rw [f.state]
        exact hr

lemma tsxOnStateProceedingUas_armed (hcb : CbOk cb) (hca : CbArmed cb) (e : Event)
    (h : Wf w) (hu : w.tsx.role = .uas) (hs : w.tsx.state = .proceeding) :
    Armed (tsxOnStateProceedingUas cb e w).1 := by
  have hd : w.tsx.state ≠ .destroyed := by simp [hs]
  have ha : Armed w := armed_uas hu (by simp [hs]) (by simp [hs])
  unfold tsxOnStateProceedingUas
  split
  next =>
    split
    next => exact ha
    next tx _ =>
      split
      next => exact ha.congr rfl rfl rfl rfl
      next => exact tsxSendMsg_armed hcb tx h hd ha
  next tx => exact proceedingUasTx_armed hcb hca tx h hu (by simp [hs]) (by simp [hs])
  next =>
    have f := log_plain_frame w (o := .retransExpiry w.tsx.flag.pendingTransport) rfl
    exact tsxRetransmit_armed hcb true (f.sound h).wf hd (ha.congr rfl rfl rfl rfl)
  next =>
    have f := tsxSetStatusCode_frame 408 w
    exact terminate_armed hcb (f.core h.toCore) .timer (by rw [f.state, hs]; simp)

lemma tsxOnStateTrying_armed (hcb : CbOk cb) (hca : CbArmed cb) (e : Event)
    (h : Wf w) (hu : w.tsx.role = .uas) (hs : w.tsx.state = .trying) : Armed (tsxOnStateTrying cb e w).1 := by
  unfold tsxOnStateTrying
  split
  next tx =>
    have h₁ := proceedingUasTx_sound hcb tx h (by simp [hs])
    have hu₁ := h₁.le.role.trans hu
    dsimp only
    split
    next hst =>
      exact tsxSetState_armed hcb hca h₁.wf .proceeding .txMsg (by simp) (by rw [hst.2]; simp)
        (by rw [hu₁]; rfl) (armed_uas hu₁ (by simp) (by simp))
    next => exact proceedingUasTx_armed hcb hca tx h hu (by simp [hs]) (by simp [hs])
  next => exact armed_uas hu (by simp [hs]) (by simp [hs])

lemma tsxOnStateCompletedUas_armed (hcb : CbOk cb) (hca : CbArmed cb) (e : Event)
    (h : Wf w) (hu : w.tsx.role = .uas) (hs : w.tsx.state = .completed)
    (ha : e = .timeoutTimer ∨ Armed w) : Armed (tsxOnStateCompletedUas cb e w).1 := by
  have hd : w.tsx.state ≠ .destroyed := by simp [hs]
  cases e with
  | timeoutTimer =>
    have f : Frame w (if w.tsx.method = .invite then tsxSetStatusCode 408 w else w) :=
      .ite (tsxSetStatusCode_frame _ _) (.refl _)
    exact terminate_armed hcb (f.core h.toCore) .timer (by rw [f.state, hs]; simp)
  | txMsg tx => exact ha.resolve_left (by simp)
  | retransmitTimer => exact tsxRetransmit_armed hcb true h hd (ha.resolve_left (by simp))
  | rxMsg m =>
    have haw : Armed w := ha.resolve_left (by simp)
    cases m with
    | response code => exact haw
    | request m =>
      unfold tsxOnStateCompletedUas
      dsimp only
      split
      next => exact tsxRetransmit_armed hcb false h hd haw
      next =>
        split
        next => exact haw
        next =>
          have f : Frame w
              (restartTimeout .timeout (setPendingResched false (cancelRetransmit w))) :=
            ((cancelRetransmit_frame _).trans (setPendingResched_frame _ _)).trans
              (restartTimeout_frame _ _)
          exact tsxSetState_armed hcb hca (f.sound h).wf .confirmed _ (by simp)
            (by rw [f.state, hs]; simp) (by rw [f.role, hu]; rfl) (armed_of_timer rfl)

lemma tsxOnStateCompletedUac_armed (hcb : CbOk cb) (e : Event) (h : Wf w)
    (hs : w.tsx.state = .completed) (ha : e = .timeoutTimer ∨ Armed w) :
    Armed (tsxOnStateCompletedUac cb e w).1 := by
  cases e with
  | timeoutTimer => exact terminate_armed hcb h.toCore .timer (by simp [hs])
  | txMsg tx => exact ha.resolve_left (by simp)
  | retransmitTimer => exact ha.resolve_left (by simp)
  | rxMsg m =>
    have haw : Armed w := ha.resolve_left (by simp)
    cases m with
    | request m => exact haw
    | response code =>
      unfold tsxOnStateCompletedUac
      dsimp only
      split
      next => exact tsxRetransmit_armed hcb false h (by simp [hs]) haw
      next => exact haw

lemma tsxOnStateConfirmed_armed (hcb : CbOk cb) (e : Event) (h : Wf w)
    (hs : w.tsx.state = .confirmed) (ha : e = .timeoutTimer ∨ Armed w) :
    Armed (tsxOnStateConfirmed cb e w).1 := by
  cases e with
  | timeoutTimer => exact terminate_armed hcb h.toCore .timer (by simp [hs])
  | txMsg tx => exact ha.resolve_left (by simp)
  | retransmitTimer => exact ha.resolve_left (by simp)
  | rxMsg m =>
    have haw : Armed w := ha.resolve_left (by simp)
    cases m <;> exact haw

lemma stateHandler_armed (hcb : CbOk cb) (hca : CbArmed cb) (e : Event) (h : Wf w)
    (ha : e = .timeoutTimer ∨ Armed w)
    (hack : ∀ code, e = .rxMsg (.response code) → 300 ≤ code.val → w.tsx.state = .calling →
      w.tsx.method = .invite → AckSent w) : Armed (stateHandler cb e w).1 := by
  have hdisp := stateHandler_dispatch cb e h.toCore
  generalize stateHandler cb e w = r at hdisp ⊢
  cases hdisp with
  | null hs => exact tsxOnStateNull_armed hcb hca e h hs
  | calling hr hs =>
    exact tsxOnStateCalling_armed hcb hca e h hr hs ha fun code he h300 => hack code he h300 hs
  | trying hr hs => exact tsxOnStateTrying_armed hcb hca e h hr hs
  | proceedingUas hr hs => exact tsxOnStateProceedingUas_armed hcb hca e h hr hs
  | proceedingUac hr hs => exact tsxOnStateProceedingUac_armed hcb hca e h hr hs ha
  | completedUas hr hs => exact tsxOnStateCompletedUas_armed hcb hca e h hr hs ha
  | completedUac _ hs => exact tsxOnStateCompletedUac_armed hcb e h hs ha
  | confirmed _ hs => exact tsxOnStateConfirmed_armed hcb e h hs ha
  | terminated hs =>
    unfold tsxOnStateTerminated
    split
    next => exact armed_of_destroyed (tsxSetState_destroyed hcb h.toCore .timer (by simp [hs])).2.2.1
    next ht =>
      refine ha.resolve_left ?_
      rintro rfl
      exact ht rfl
  | destroyed hs => exact armed_of_destroyed hs

/-! ## Inputs and runs -/

lemma tuCall_armed (hcb : CbOk cb) (hca : CbArmed cb) (c : TuCall) (h : Wf w)
    (ha : Armed w) : Armed (tuCall cb w c) := by
  have h₁ := ((log_plain_frame w (o := .call c w.tsx w.env) rfl).sound h).wf
  have ha₁ : Armed (w.log (.call c w.tsx w.env)) := ha.congr rfl rfl rfl rfl
  unfold tuCall
  cases c with
  | sendMsg tx =>
    dsimp only [tsxSendMsgApi]
    split
    next => exact ha₁
    next tx' _ =>
      exact (stateHandler_armed hcb hca (.txMsg tx') h₁ (.inr ha₁) (by simp)).congr rfl rfl rfl rfl
  | terminate code =>
    dsimp only [tsxTerminate]
    split
    next => exact ha₁
    next =>
      split
      next hr =>
        have f := tsxSetStatusCode_frame code (w.log (.call (.terminate code) w.tsx w.env))
        exact terminate_armed hcb (f.core h₁.toCore) .user (by rw [f.state]; exact le_of_lt hr)
      next => exact ha₁

lemma tuCallback_armed (n : ℕ) : CbArmed (tuCallback n) := by
  induction n with
  | zero => exact fun w _ ha => ha
  | succ n ih =>
    have hcalls : ∀ (calls : List TuCall) (w : World), Wf w → Armed w →
        Armed (calls.foldl (tuCall (tuCallback n)) w) := by
      intro calls
      induction calls with
      | nil => exact fun w _ ha => ha
      | cons c calls ihc =>
        intro w h ha
        exact ihc _ (tuCall_sound (tuCallback_ok n) c h).wf
          (tuCall_armed (tuCallback_ok n) ih c h ha)
    intro w h ha
    have f := popTu_frame w
    have ht : w.popTu.2.tsx.timeoutTimer = w.tsx.timeoutTimer := by
      rw [(popTu_quiet w).tsx]
    exact hcalls _ _ (f.sound h).wf (ha.congr f.state f.role f.method ht)

lemma giveUp_armed (id : TimerId) (ha : Armed w) :
    Armed (if w.tsx.state.rank < State.completed.rank then restartTimeout id w else w) := by
  split_ifs with hr
  · refine ⟨fun h4 _ => ?_, fun _ => rfl⟩
    have h4 : 4 ≤ w.tsx.state.rank := h4
    have hr : w.tsx.state.rank < 4 := hr
    omega
  · exact ha

lemma transportExpiry_armed (hcb : CbOk cb) (tpDisc : Bool) (h : Wf w)
    (hr : w.tsx.state.rank < 4 ∨ w.tsx.state = .destroyed) : Armed (transportExpiry cb tpDisc w) := by
  unfold transportExpiry
  split_ifs with hlt
  · have h₁ := tsxUpdateTransport_none_sound h
    dsimp only
    split
    next hc =>
      refine armed_uas hc.2.2.1 ?_ ?_
      · intro hcall
        have := h.allowed
        rw [show w.tsx.role = .uas from hc.2.2.1, show w.tsx.state = .calling from hcall] at this
        simp [allowed] at this
      · rcases hr with hr | hr
        · exact Nat.lt_succ_iff.1 hr
        · simp [hr] at hlt
    next =>
      have f : Frame (tsxUpdateTransport none w)
          (if (tsxUpdateTransport none w).tsx.statusCode < 200 then
            tsxSetStatusCode 503 (tsxUpdateTransport none w) else tsxUpdateTransport none w) :=
        .ite (tsxSetStatusCode_frame _ _) (.refl _)
      have h₂ := h₁.trans (f.sound h₁.wf)
      have hr₂ := f.state.trans (rfl : (tsxUpdateTransport none w).tsx.state = w.tsx.state)
      generalize (if (tsxUpdateTransport none w).tsx.statusCode < 200 then
            tsxSetStatusCode 503 (tsxUpdateTransport none w) else tsxUpdateTransport none w) = w₂
        at h₂ hr₂ ⊢
      have hr₃ : w₂.tsx.state.rank ≤ 6 := by
        rw [hr₂]
        exact le_of_lt hlt
      obtain ⟨l, env, -, heq, -, -⟩ := tsxSetState_terminated_eq hcb h₂.wf.toCore
        .transportError ⟨true, true⟩ hr₃
      obtain ⟨ptx, att, heq'⟩ := onTerminated_eq true (enterState .terminated { w₂ with
        env := env, trace := l ++ .setState w₂.tsx.state .terminated :: w₂.trace })
      obtain ⟨h₃, hst, -⟩ := tsxSetState_terminated hcb h₂.wf.toCore .transportError
        ⟨true, true⟩ hr₃
      have ht₃ : (tsxSetState cb .terminated .transportError ⟨true, true⟩ w₂).tsx.timeoutTimer =
          none := by
        rw [heq]
        exact congrArg (·.tsx.timeoutTimer) heq'
      generalize tsxSetState cb .terminated .transportError ⟨true, true⟩ w₂ = w₃ at h₃ hst ht₃ ⊢
      have htsx : (notifyUser cb (.notify w₃.tsx.state) w₃).tsx.timeoutTimer = none := by
        unfold notifyUser
        split_ifs
        · rw [(hcb.quiet (w₃.log (.notify w₃.tsx.state)) h₃.wf.handler (by simp [hst])).tsx]
          exact ht₃
        · exact ht₃
      exact armed_of_timer (by simp [htsx])
  · rcases hr with hr | hr
    · have : w.tsx.state.rank < 6 := by omega
      exact absurd this hlt
    · exact armed_of_destroyed hr

lemma timeoutExpiry_armed (hcb : CbOk cb) (hca : CbArmed cb) (h : Wf w)
    (ha : Armed w) : Armed (timeoutExpiry cb w) := by
  have h₁ := ((cancelTimeout_frame w).sound h).wf
  have hr : ∀ id, w.tsx.timeoutTimer = some id → id ≠ .timeout →
      w.tsx.state.rank < 4 ∨ w.tsx.state = .destroyed := by
    intro id hid hne
    by_contra hr
    push Not at hr
    have h7 := State.rank_lt_seven.2 hr.2
    exact hne (Option.some.inj (hid.symm.trans (ha.final hr.1 (by omega))))
  unfold timeoutExpiry
  split
  next => exact ha
  next id hid =>
    dsimp only
    split_ifs with hd
    · refine armed_of_destroyed ?_
      have hd : 7 ≤ w.tsx.state.rank := hd
      cases hs : w.tsx.state <;> simp [hs] at hd ⊢
    · cases id with
      | timeout => exact stateHandler_armed hcb hca .timeoutTimer h₁ (.inl rfl) (by simp)
      | transportErr => exact transportExpiry_armed hcb false h₁ (hr _ hid (by simp))
      | transportDisc => exact transportExpiry_armed hcb true h₁ (hr _ hid (by simp))

lemma directDone_armed (hcb : CbOk cb) (k : ℕ) (res : Option SendErr) (h : Wf w)
    (ha : Armed w) : Armed (directDone cb k res w) := by
  unfold directDone
  split
  next tx hk =>
    have h₁ := (completion_frame w k tx).sound h
    unfold transportCallbackImpl
    dsimp only
    split
    next =>
      have hc : Core (setPendingTransport false { w.log .completion with
          outstanding := w.outstanding.eraseIdx k, busy := w.busy.filter (· ≠ tx) }) :=
        { h₁.wf.toCore with }
      exact (afterSent_sent hcb (sendLastTx_sent hcb) hc h₁.wf.idle).1.armed
        (afterSent_keeps hcb (sendLastTx_sent hcb) (sendLastTx_keeps hcb) hc h₁.wf.idle)
        (ha.congr rfl rfl rfl rfl)
    next => exact giveUp_armed .transportErr (ha.congr rfl rfl rfl rfl)
  next => exact ha

lemma endptDone_armed (hcb : CbOk cb) (k : ℕ) (ours : Bool)
    (attempts : List (SendErr × Option Transport)) (last : EndptLast) (h : Wf w)
    (ha : Armed w) : Armed (endptDone cb k ours attempts last w) := by
  unfold endptDone
  split
  next tx hk =>
    have h₁ := (completion_frame w k tx).sound h
    exact (runEndpt_sent hcb (sendLastTx_sent hcb) tx ours _ last h₁.wf).1.armed
      (runEndpt_keeps hcb (sendLastTx_sent hcb) (sendLastTx_keeps hcb) tx ours _ last h₁.wf)
      (ha.congr rfl rfl rfl rfl)
  next => exact ha

lemma losesTimeout_ack {env : Env}
    (hl : losesTimeout w (.recv (.response code), env) = false) (h300 : 300 ≤ code.val)
    (hs : w.tsx.state = .calling) (hm : w.tsx.method = .invite) : AckSent { w with env :=env } := by
  simp only [losesTimeout, h300, hs, hm, decide_true, Bool.true_and] at hl
  split at hl
  next ack rest hrest => exact ⟨ack, rest, hrest, hl⟩
  next => simp at hl

lemma step_armed (i : Input × Env) (h : Wf w) (ha : Armed w)
    (hl : losesTimeout w i = false) : Armed (step w i) := by
  obtain ⟨i, env⟩ := i
  have hcb := tuCallback_ok env.tu.length
  have hca := tuCallback_armed env.tu.length
  have h₁ : Wf { w with env := env } := { h with }
  have ha₁ : Armed { w with env := env } := ha.congr rfl rfl rfl rfl
  cases i with
  | tu c => exact tuCall_armed hcb hca c h₁ ha₁
  | recv m =>
    refine stateHandler_armed hcb hca (.rxMsg m) h₁ (.inr ha₁) ?_
    intro code he h300 hs hm
    injection he with he
    subst he
    exact losesTimeout_ack hl h300 hs hm
  | retransmitExpiry =>
    have h₂ := ((cancelRetransmit_frame { w with env := env }).sound h₁).wf
    have ha₂ : Armed (cancelRetransmit { w with env := env }) := ha.congr rfl rfl rfl rfl
    show Armed (retransmitExpiry _ _)
    unfold retransmitExpiry
    dsimp only
    split_ifs
    · exact ha₂
    · exact stateHandler_armed hcb hca .retransmitTimer h₂ (.inr ha₂) (by simp)
    · exact ha₁
  | timeoutExpiry => exact timeoutExpiry_armed hcb hca h₁ ha₁
  | directDone k res => exact directDone_armed hcb k res h₁ ha₁
  | endptDone k ours attempts last => exact endptDone_armed hcb k ours attempts last h₁ ha₁
  | disconnect e =>
    show Armed (disconnect _ _)
    unfold disconnect
    split_ifs
    · exact giveUp_armed .transportDisc (ha₁.congr rfl rfl rfl rfl)
    · exact ha₁

lemma created_armed (h : Created w) : Armed w := by
  have hs : w.tsx.state = .null := by
    cases h with
    | uac => rfl
    | uas cfg method handle200resp reliable tp =>
      cases tp with
      | none => rfl
      | some t =>
        obtain ⟨pt, err, tm, -, -, -, -, heq⟩ := adoptTransport_eq t
          (newWorld cfg (newTsx .uas method handle200resp reliable))
        exact congrArg (·.tsx.state) heq
  exact ⟨fun h4 => by simp [hs] at h4, fun hr => by simp [hs] at hr⟩

lemma transportExpiry_uac (hcb : CbOk cb) (tpDisc : Bool) (h : Wf w)
    (hu : w.tsx.role = .uac) (hr : w.tsx.state.rank < 6) :
    (transportExpiry cb tpDisc w).tsx.state = .terminated := by
  unfold transportExpiry
  rw [if_pos (show w.tsx.state.rank < State.terminated.rank from hr)]
  have h₁ := tsxUpdateTransport_none_sound h
  dsimp only
  rw [if_neg (show ¬ (tpDisc = true ∧ (tsxUpdateTransport none w).tsx.method = .invite ∧
      (tsxUpdateTransport none w).tsx.role = .uas ∧ (tsxUpdateTransport none w).tsx.statusCode < 200 ∧
      (tsxUpdateTransport none w).tsx.flag.pendingTransport = false ∧
      (tsxUpdateTransport none w).tsx.flag.pendingDestroy = false) from fun hc => by
    have : w.tsx.role = .uas := hc.2.2.1
    simp [hu] at this)]
  have f : Frame (tsxUpdateTransport none w)
      (if (tsxUpdateTransport none w).tsx.statusCode < 200 then
        tsxSetStatusCode 503 (tsxUpdateTransport none w) else tsxUpdateTransport none w) :=
    .ite (tsxSetStatusCode_frame _ _) (.refl _)
  have h₂ := h₁.trans (f.sound h₁.wf)
  obtain ⟨h₃, hst, -⟩ := tsxSetState_terminated hcb h₂.wf.toCore .transportError ⟨true, true⟩
    (by rw [f.state]; exact le_of_lt hr)
  generalize tsxSetState cb .terminated .transportError ⟨true, true⟩ _ = w₃ at h₃ hst ⊢
  show (notifyUser cb (.notify w₃.tsx.state) w₃).tsx.state = .terminated
  unfold notifyUser
  split_ifs
  · rw [(hcb.quiet (w₃.log (.notify w₃.tsx.state)) h₃.wf.handler (by simp [hst])).tsx]
    exact hst
  · exact hst

lemma timeoutExpiry_progress (hcb : CbOk cb) (h : Wf w) (ha : Armed w) (hn : needsTimeout w.tsx = true) :
    (timeoutExpiry cb w).tsx.state = if w.tsx.state = .terminated then .destroyed else .terminated := by
  obtain ⟨id, hid⟩ := Option.isSome_iff_exists.1 (ha.needsTimeout hn)
  have h₁ := ((cancelTimeout_frame w).sound h).wf
  have hr : w.tsx.state.rank ≤ 6 := by
    unfold needsTimeout at hn
    split at hn <;> simp_all
  have hto : w.tsx.state.rank < 4 ∨ id = .timeout := by
    by_cases h4 : w.tsx.state.rank < 4
    · exact .inl h4
    · exact .inr (Option.some.inj (hid.symm.trans (ha.final (not_lt.1 h4) hr)))
  unfold timeoutExpiry
  rw [hid]
  dsimp only
  rw [if_neg (show ¬ State.destroyed.rank ≤ (cancelTimeout w).tsx.state.rank from by
    simp only [State.rank_destroyed, cancelTimeout]
    omega)]
  have huac : w.tsx.state.rank < 4 → w.tsx.role = .uac := by
    intro h4
    unfold needsTimeout at hn
    split at hn <;> simp_all
  cases id with
  | transportErr =>
    have h4 := hto.resolve_right (by simp)
    rw [if_neg (fun hs => by simp [hs] at h4)]
    exact transportExpiry_uac hcb false h₁ (huac h4) (by
      have h4 : (cancelTimeout w).tsx.state.rank < 4 := h4
      omega)
  | transportDisc =>
    have h4 := hto.resolve_right (by simp)
    rw [if_neg (fun hs => by simp [hs] at h4)]
    exact transportExpiry_uac hcb true h₁ (huac h4) (by
      have h4 : (cancelTimeout w).tsx.state.rank < 4 := h4
      omega)
  | timeout =>
    have hdisp := stateHandler_dispatch cb .timeoutTimer h₁.toCore
    have hterm : ∀ (w' : World) (src : EventSrc), Core w' → w'.tsx.state.rank ≤ 6 →
        (tsxSetState cb .terminated src .zero w').tsx.state = .terminated :=
      fun w' src hc hr => (tsxSetState_terminated hcb hc src .zero hr).2.1
    generalize stateHandler cb .timeoutTimer (cancelTimeout w) = r at hdisp ⊢
    cases hdisp with
    | null hs =>
      have hs : w.tsx.state = .null := hs
      unfold needsTimeout at hn
      rw [hs] at hn
      cases w.tsx.role <;> simp at hn
    | calling _ hs =>
      have hs : w.tsx.state = .calling := hs
      rw [if_neg (by simp [hs])]
      exact hterm _ _ { h₁.toCore with } (by simp [hs])
    | trying _ hs =>
      have hs : w.tsx.state = .trying := hs
      unfold needsTimeout at hn
      rw [hs] at hn
      cases w.tsx.role <;> simp at hn
    | proceedingUas _ hs =>
      have hs : w.tsx.state = .proceeding := hs
      rw [if_neg (by simp [hs])]
      exact hterm _ _ { h₁.toCore with } (by simp [hs])
    | proceedingUac _ hs =>
      have hs : w.tsx.state = .proceeding := hs
      rw [if_neg (by simp [hs])]
      exact hterm _ _ { h₁.toCore with } (by simp [hs])
    | completedUas _ hs =>
      have hs : w.tsx.state = .completed := hs
      rw [if_neg (by simp [hs])]
      refine hterm _ _ ((Frame.ite (tsxSetStatusCode_frame _ _) (.refl _)).core h₁.toCore) ?_
      rw [(Frame.ite (tsxSetStatusCode_frame _ _) (.refl _)).state]
      exact hr
    | completedUac _ hs =>
      have hs : w.tsx.state = .completed := hs
      rw [if_neg (by simp [hs])]
      exact hterm _ _ h₁.toCore hr
    | confirmed _ hs =>
      have hs : w.tsx.state = .confirmed := hs
      rw [if_neg (by simp [hs])]
      exact hterm _ _ h₁.toCore hr
    | terminated hs =>
      have hs' : w.tsx.state = .terminated := hs
      rw [if_pos hs']
      exact (tsxSetState_destroyed hcb h₁.toCore .timer (by rw [hs]; simp)).2.2.1
    | destroyed hs =>
      have hs : w.tsx.state = .destroyed := hs
      simp [hs] at hr

lemma reaches_destroyed (h : Wf w) (ha : Armed w) (hn : needsTimeout w.tsx = true) :
    ∃ fs, (run step w fs).tsx.state = .destroyed := by
  have hone : ∀ w : World, Wf w → Armed w → needsTimeout w.tsx = true →
      (step w (.timeoutExpiry, .empty)).tsx.state =
        if w.tsx.state = .terminated then .destroyed else .terminated := fun w h ha hn =>
    timeoutExpiry_progress (tuCallback_ok 0) (w := { w with env := .empty }) { h with }
      (ha.congr rfl rfl rfl rfl) hn
  by_cases hs : w.tsx.state = .terminated
  · refine ⟨[(.timeoutExpiry, .empty)], ?_⟩
    rw [run_cons, run_nil, hone w h ha hn, if_pos hs]
  · refine ⟨[(.timeoutExpiry, .empty), (.timeoutExpiry, .empty)], ?_⟩
    have hs₁ := hone w h ha hn
    rw [if_neg hs] at hs₁
    have h₁ := (step_forward (.timeoutExpiry, .empty) h).1
    have ha₁ := step_armed (.timeoutExpiry, .empty) h ha rfl
    have hn₁ : needsTimeout (step w (.timeoutExpiry, .empty)).tsx = true := by
      unfold needsTimeout
      rw [hs₁]
      cases (step w (.timeoutExpiry, .empty)).tsx.role <;> rfl
    rw [run_cons, run_cons, run_nil, hone _ h₁ ha₁ hn₁, if_pos hs₁]

lemma tsxSendMsg_refused (h : Wf w) (hu : w.tsx.role = .uac) (tx : TxData)
    (hr : refusedAtOnce tx w.tsx w.busy w.env = true) :
    (tsxSendMsg cb tx w).2 ≠ .success ∧ (tsxSendMsg cb tx w).1.tsx.state = w.tsx.state ∧
      (tsxSendMsg cb tx w).1.tsx.timeoutTimer = w.tsx.timeoutTimer := by
  simp only [refusedAtOnce, Bool.and_eq_true, Bool.not_eq_eq_eq_not, Bool.not_true,
    decide_eq_false_iff_not] at hr
  obtain ⟨⟨⟨hp, hb⟩, hres⟩, henv⟩ := hr
  have ht : w.tsx.transport = none := by
    by_contra ht
    have := h.resolved hu (Option.isSome_iff_ne_none.2 ht)
    simp [hres] at this
  have hdir : sendDirect tx w = (w, some .success) := by
    unfold sendDirect
    rw [ht]
  split at henv
  next e rest hrest =>
    have hpop : (sendBegin tx w).popEndpt =
        (.refused e, { sendBegin tx w with env := { w.env with endpt := rest } }) := by
      unfold World.popEndpt
      rw [show (sendBegin tx w).env.endpt = .refused e :: rest from hrest]
      rfl
    have heq : tsxSendMsg cb tx w =
        (sendRefused tx { sendBegin tx w with env := { w.env with endpt := rest } }, .send e) := by
      show tsxSendMsgWith cb _ tx w = _
      unfold tsxSendMsgWith
      rw [if_neg (by simp [hp]), if_neg hb, hdir]
      dsimp only
      rw [if_neg (by simp [hres])]
      unfold sendStateless
      rw [hpop]
    rw [heq]
    unfold sendRefused
    split_ifs <;> exact ⟨by simp, rfl, rfl⟩
  next => simp at henv

lemma sendAck_lost (h : Wf w) (hu : w.tsx.role = .uac) (hl : (match w.env.ack with
      | some ack :: _ => refusedAtOnce ack w.tsx w.busy w.env
      | _ => true) = true) :
    (∃ status, (sendAck cb w).2 = .error status) ∧
      (sendAck cb w).1.tsx.state = w.tsx.state ∧
      (sendAck cb w).1.tsx.timeoutTimer = w.tsx.timeoutTimer := by
  unfold sendAck
  rcases hack : w.env.ack with _ | ⟨a, rest⟩
  · rw [show w.popAck = (none, w) by unfold World.popAck; rw [hack]]
    exact ⟨⟨_, rfl⟩, rfl, rfl⟩
  · rw [show w.popAck = (a, { w with env := { w.env with ack := rest } }) by
      unfold World.popAck; rw [hack]]
    rw [hack] at hl
    cases a with
    | none => exact ⟨⟨_, rfl⟩, rfl, rfl⟩
    | some ack =>
      have f := env_frame { w.env with ack := rest } w
      obtain ⟨hne, hst, htm⟩ := tsxSendMsg_refused (f.sound h).wf hu ack hl
      exact ⟨⟨_, if_neg hne⟩, hst, htm⟩

lemma callingRxTimers_eq (h200 : 200 ≤ code.val) :
    callingRxTimers code w = setPendingResched false (cancelTimeout (cancelRetransmit w)) := by
  unfold callingRxTimers
  dsimp only
  rw [if_pos h200]

lemma proceedingUacFailure_lost (hcb : CbOk cb) (src : EventSrc) (h : Wf w)
    (hu : w.tsx.role = .uac) (hs : w.tsx.state = .calling) (hm : w.tsx.method = .invite)
    (hl : (match w.env.ack with
      | some ack :: _ => refusedAtOnce ack w.tsx w.busy w.env
      | _ => true) = true) :
    needsTimeout (proceedingUacFailure cb src w).1.tsx = true ∧
      (proceedingUacFailure cb src w).1.tsx.timeoutTimer = none := by
  have f := (cancelRetransmit_frame w).trans (cancelTimeout_frame _)
  have h₁ := f.sound h
  obtain ⟨⟨status, herr⟩, hst, htm⟩ := sendAck_lost h₁.wf hu hl
  have hle := (sendAck_sound hcb h₁.wf (by simp [hs])).1.le
  unfold proceedingUacFailure
  dsimp only
  rw [if_pos (f.method.trans hm)]
  rcases hsa : sendAck cb (cancelTimeout (cancelRetransmit w)) with ⟨w₂, res⟩
  rw [hsa] at herr hst htm hle
  dsimp only at herr hst htm hle
  subst herr
  refine ⟨?_, htm⟩
  unfold needsTimeout
  rw [hst, hle.role, f.state, f.role, hs, hu]

lemma step_losesTimeout (i : Input × Env) (h : Wf w) (hl : losesTimeout w i = true) :
    needsTimeout (step w i).tsx = true ∧ (step w i).tsx.timeoutTimer = none := by
  obtain ⟨i, env⟩ := i
  unfold losesTimeout at hl
  split at hl
  next code hi =>
    dsimp only at hi hl
    subst hi
    simp only [Bool.and_eq_true, decide_eq_true_eq] at hl
    obtain ⟨⟨⟨h300, hs⟩, hm⟩, hack⟩ := hl
    have hro : w.tsx.role = .uac := by
      have hal := h.allowed
      rw [hs] at hal
      cases hr : w.tsx.role
      · rfl
      · simp [hr, allowed] at hal
    have hh : w.tsx.stateHandler = some .calling := by
      rw [h.handler, hro, hs]
      rfl
    have hcb := tuCallback_ok env.tu.length
    have f := ((((env_frame env w).trans (cancelRetransmit_frame _)).trans
      (cancelTimeout_frame _)).trans (setPendingResched_frame false _)).trans
      (tsxSetStatusCode_frame code.val _)
    have hstep : step w (.recv (.response code), env) =
        (proceedingUacFailure (tuCallback env.tu.length) (.rxMsg (.response code))
          (tsxSetStatusCode code.val (setPendingResched false (cancelTimeout
            (cancelRetransmit { w with env := env }))))).1 := by
      show (stateHandler _ _ { w with env := env }).1 = _
      unfold stateHandler
      rw [show ({ w with env := env } : World).tsx.stateHandler = some .calling from hh]
      dsimp only [tsxOnStateCalling, tsxOnStateProceedingUac]
      rw [callingRxTimers_eq (by omega), if_neg (by omega), if_neg (by omega)]
    rw [hstep]
    exact proceedingUacFailure_lost hcb _ (f.sound h).wf hro hs hm hack
  next => simp at hl

def KeepsTimeout (w : World) (es : List (Input × Env)) : Prop :=
  Guarded step (fun w i => losesTimeout w i = false) w es

lemma run_armed {es : List (Input × Env)} (hg : KeepsTimeout w es) (h : Wf w)
    (ha : Armed w) : Wf (run step w es) ∧ Armed (run step w es) := by
  have hstep : ∀ w i, Wf w ∧ Armed w → losesTimeout w i = false →
      Wf (step w i) ∧ Armed (step w i) :=
    fun w i hw hl => ⟨(step_forward i hw.1).1, step_armed i hw.1 hw.2 hl⟩
  exact Guarded.invariant hstep ⟨h, ha⟩ hg

/-- A run never leaves the transaction stuck exactly when each ACK for a failure
response that reaches it in CALLING is created and not refused at once: then in
every state reached that needs the timeout timer it is pending, and there are inputs
that destroy the transaction. -/
theorem run_never_stuck_iff {w₀ : World} (h : Created w₀) (es : List (Input × Env)) :
    (∀ pre, pre <+: es → needsTimeout (run step w₀ pre).tsx = true →
      (run step w₀ pre).tsx.timeoutTimer.isSome ∧
      ∃ fs, (run step (run step w₀ pre) fs).tsx.state = .destroyed) ↔ KeepsTimeout w₀ es := by
  constructor
  · intro hall
    have key : ∀ (es : List (Input × Env)) (w : World), Wf w →
        (∀ pre, pre <+: es → needsTimeout (run step w pre).tsx = true →
          (run step w pre).tsx.timeoutTimer.isSome) → KeepsTimeout w es := by
      intro es
      induction es with
      | nil => exact fun _ _ _ => trivial
      | cons i es ih =>
        intro w hw hall
        refine ⟨?_, ih _ (step_forward i hw).1 fun pre hpre hn => ?_⟩
        · by_contra hl
          obtain ⟨hn, ht⟩ := step_losesTimeout i hw (by simpa using hl)
          have := hall [i] (by simp) hn
          simp [ht] at this
        · exact hall (i :: pre) (by simpa using hpre) hn
    exact key es w₀ (created_wf h) fun pre hpre hn => (hall pre hpre hn).1
  · rintro hg pre ⟨rest, rfl⟩ hn
    have hpre : KeepsTimeout w₀ pre := (Guarded.append hg).1
    obtain ⟨hw, ha⟩ := run_armed hpre (created_wf h) (created_armed h)
    exact ⟨ha.needsTimeout hn, reaches_destroyed hw ha hn⟩

/-- The ACK for a 603 response cannot be created: `pjsip_endpt_create_ack` fails. -/
def rejectNoAck : Input × Env := (.recv (.response ⟨603, by decide, by decide⟩), ⟨[], [], [none], []⟩)

theorem inviteUac_stuck : ¬ (needsTimeout (run step inviteUac [sendNow, rejectNoAck]).tsx = true →
      (run step inviteUac [sendNow, rejectNoAck]).tsx.timeoutTimer.isSome) := by
  decide

/-- With the ACK created and sent, the same run meets the condition and keeps the timer. -/
theorem run_never_stuck_iff_invite :
    KeepsTimeout inviteUac [sendNow, (.recv (.response ⟨603, by decide, by decide⟩),
      ⟨[], [], [some ⟨1, .request .ack⟩], []⟩)] ∧
    (run step inviteUac [sendNow, (.recv (.response ⟨603, by decide, by decide⟩),
      ⟨[], [], [some ⟨1, .request .ack⟩], []⟩)]).tsx.timeoutTimer.isSome := by
  have hg : KeepsTimeout inviteUac [sendNow, (.recv (.response ⟨603, by decide, by decide⟩),
      ⟨[], [], [some ⟨1, .request .ack⟩], []⟩)] := ⟨by decide, by decide, trivial⟩
  refine ⟨hg, ?_⟩
  exact ((run_never_stuck_iff (.uac ⟨500, 4000, none⟩ .invite ⟨0, .request .invite⟩ false
    (by decide) rfl) _).2 hg _ (List.prefix_refl _) (by decide)).1

end PjProject.Transaction
