import PjProject.TsxOrder

/-!
# SIP transaction: the retransmission interval

`tsx_resched_retransmission` doubles T1 with every retransmission up to T2, in
32-bit arithmetic. While the product fits, the delay is the integer one and never
zero, so a UAS that retransmits its final response goes on until it leaves
COMPLETED.
-/
namespace PjProject.Transaction
open Transition

/-! ## The delay -/

/-- The delay of a retransmission computed over the integers: a UAC that has received
a provisional response waits for T2. -/
def interval (cfg : Config) (tsx : Tsx) : ℕ :=
  if tsx.role = .uac ∧ 100 ≤ tsx.statusCode then cfg.t2
  else min (2 ^ tsx.retransmitCount * cfg.t1) cfg.t2

/-- The shifted T1 is a value of `pj_uint32_t`. -/
def Fits (cfg : Config) (count : ℕ) : Prop := 2 ^ count * cfg.t1 < 2 ^ 32

instance (cfg : Config) (count : ℕ) : Decidable (Fits cfg count) :=
  inferInstanceAs (Decidable (2 ^ count * cfg.t1 < 2 ^ 32))

variable {cfg : Config}

lemma Fits.mono {m n : ℕ} (h : Fits cfg n) (hmn : m ≤ n) : Fits cfg m :=
  lt_of_le_of_lt (Nat.mul_le_mul_right cfg.t1 (Nat.pow_le_pow_right (by omega) hmn)) h

lemma Fits.shift {n : ℕ} (h : Fits cfg n) (ht : 1 ≤ cfg.t1) :
    2 ^ (n % 32) * cfg.t1 % 2 ^ 32 = 2 ^ n * cfg.t1 := by
  have hpow : 2 ^ n < 2 ^ 32 := lt_of_le_of_lt (Nat.le_mul_of_pos_right _ ht) h
  have hn : n < 32 := (Nat.pow_lt_pow_iff_right (by omega)).1 hpow
  rw [Nat.mod_eq_of_lt hn, Nat.mod_eq_of_lt h]

def Capped (tsx : Tsx) : Prop :=
  (tsx.role = .uas ∧ 200 ≤ tsx.statusCode) ∨ (tsx.role = .uac ∧ tsx.method ≠ .invite)

lemma reschedMsec_eq {tsx : Tsx} (hc : Capped tsx) (ht : 1 ≤ cfg.t1)
    (hf : (tsx.role = .uac ∧ 100 ≤ tsx.statusCode) ∨ Fits cfg tsx.retransmitCount) :
    reschedMsec cfg tsx = interval cfg tsx := by
  unfold reschedMsec interval
  rcases hc with ⟨hu, hs⟩ | ⟨hu, hm⟩
  · have hlt : ¬ tsx.statusCode < 200 := by omega
    have hshift := (hf.resolve_left (by simp [hu])).shift ht
    simp only [hu, hshift, reduceCtorEq, false_and, if_false, hlt]
    rw [min_comm, min_def]
    split_ifs <;> omega
  · simp only [hu, true_and, hm, ne_eq, not_false_iff, and_true]
    by_cases hs : 100 ≤ tsx.statusCode
    · simp [hs]
    · have hshift := (hf.resolve_left (by simp [hs])).shift ht
      simp only [hs, if_false, hshift]
      rw [min_comm, min_def]
      split_ifs <;> omega

lemma interval_pos {tsx : Tsx} (h1 : 1 ≤ cfg.t1) (h2 : 1 ≤ cfg.t2) : 0 < interval cfg tsx := by
  have hmul : 0 < 2 ^ tsx.retransmitCount * cfg.t1 := Nat.mul_pos (by positivity) h1
  unfold interval
  split_ifs
  · exact h2
  · exact lt_min hmul h2

variable {w : World}

lemma tsxReschedRetransmission_timer (h : reschedMsec w.cfg w.tsx ≠ 0) :
    (tsxReschedRetransmission w).tsx.retransmitTimer = true := by
  unfold tsxReschedRetransmission
  dsimp only
  split_ifs with hc
  · rfl
  · exact absurd h hc

/-! ## What a transmission does to the retransmission -/

def Retransmitting (w : World) : Prop :=
  w.tsx.retransmitTimer = true ∨ w.tsx.flag.pendingResched = true

structure Sched (w : World) : Prop where
  uas : w.tsx.role = .uas
  final : 200 ≤ w.tsx.statusCode
  t1 : 1 ≤ w.cfg.t1
  t2 : 1 ≤ w.cfg.t2
  fits : Fits w.cfg w.tsx.retransmitCount

lemma Sched.resched (h : Sched w) : (tsxReschedRetransmission w).tsx.retransmitTimer = true := by
  refine tsxReschedRetransmission_timer ?_
  rw [reschedMsec_eq (.inl ⟨h.uas, h.final⟩) h.t1 (.inr h.fits)]
  exact (interval_pos h.t1 h.t2).ne'

/-- The changes of a function that does not terminate the transaction. `R` is the case
that it drops the retransmission. -/
structure Paced (R : Prop) (w w' : World) : Prop where
  count : w'.tsx.retransmitCount ≤ w.tsx.retransmitCount
  status : 200 ≤ w.tsx.statusCode → 200 ≤ w'.tsx.statusCode
  saved : w'.tsx.lastTx = w.tsx.lastTx
  goes : Sched w → Retransmitting w → Retransmitting w' ∨ R

def Paces (R : Prop) (w w' : World) : Prop := w'.tsx.state.rank < 6 → Paced R w w'

variable {R : Prop} {w' : World}

lemma Paced.sched (h : Paced R w w') (hle : Le w w') (hs : Sched w) :
    Sched w' where
  uas := hle.role.trans hs.uas
  final := h.status hs.final
  t1 := hle.cfg ▸ hs.t1
  t2 := hle.cfg ▸ hs.t2
  fits := hle.cfg ▸ hs.fits.mono h.count

lemma Paces.trans {R : Prop} {a b c : World} (h : Paces False a b) (hab : Le a b)
    (h' : Paces R b c) (hbc : Le b c) : Paces R a c := by
  intro hc
  have p := h (lt_of_le_of_lt hbc.rank hc)
  have q := h' hc
  refine ⟨q.count.trans p.count, q.status ∘ p.status, q.saved.trans p.saved, fun hs hr => ?_⟩
  rcases p.goes hs hr with hb | hb
  · exact q.goes (p.sched hab hs) hb
  · exact absurd hb id

lemma Paces.of_eq
    (hc : w'.tsx.retransmitCount = w.tsx.retransmitCount) (hs : w'.tsx.statusCode = w.tsx.statusCode)
    (hl : w'.tsx.lastTx = w.tsx.lastTx) (ht : w'.tsx.retransmitTimer = w.tsx.retransmitTimer)
    (hp : w'.tsx.flag.pendingResched = w.tsx.flag.pendingResched) : Paces R w w' := by
  refine fun _ => ⟨hc.le, by rw [hs]; exact id, hl, fun _ hr => .inl ?_⟩
  unfold Retransmitting
  rw [ht, hp]
  exact hr

lemma Paces.refl (w : World) : Paces R w w := .of_eq rfl rfl rfl rfl rfl

lemma Paces.of_rank (h : 6 ≤ w'.tsx.state.rank) : Paces R w w' :=
  fun hlt => absurd h (by omega)

lemma Paces.weaken {S : Prop} (h : Paces R w w') (hrs : R → S) : Paces S w w' := by
  intro hr
  have p := h hr
  exact ⟨p.count, p.status, p.saved, fun hs ht => (p.goes hs ht).imp id hrs⟩

variable {cb resend : World → World}

def Reliable (w : World) : Prop := w.tsx.isReliable = true

lemma reschedIfPending_reliable (w : World) : (reschedIfPending w).tsx.isReliable = w.tsx.isReliable := by
  unfold reschedIfPending tsxReschedRetransmission
  dsimp only
  split_ifs <;> rfl

lemma tsxReschedRetransmission_keeps (w : World) :
    (tsxReschedRetransmission w).tsx.retransmitCount = w.tsx.retransmitCount ∧
    (tsxReschedRetransmission w).tsx.statusCode = w.tsx.statusCode ∧
    (tsxReschedRetransmission w).tsx.lastTx = w.tsx.lastTx := by
  unfold tsxReschedRetransmission
  dsimp only
  split_ifs <;> exact ⟨rfl, rfl, rfl⟩

lemma tsxReschedRetransmission_frame (w : World) : Frame w (tsxReschedRetransmission w) := by
  unfold tsxReschedRetransmission
  dsimp only
  split_ifs <;> constructor <;>
    first | rfl | exact fun _ h _ => h | exact (Extends.refl _).cons rfl

lemma reschedIfPending_paces (w : World) : Paces (Reliable (reschedIfPending w)) w (reschedIfPending w) := by
  have hrel := reschedIfPending_reliable w
  unfold Reliable
  rw [hrel]
  unfold reschedIfPending
  split_ifs with hp
  · dsimp only
    split_ifs with hr
    · exact fun _ => ⟨le_rfl, id, rfl, fun _ _ => .inr hr⟩
    · obtain ⟨hc, hs, hl⟩ := tsxReschedRetransmission_keeps (setPendingResched false w)
      refine fun _ => ⟨hc.le, by rw [hs]; exact id, hl, fun hsch _ => .inl (.inl ?_)⟩
      exact Sched.resched ⟨hsch.uas, hsch.final, hsch.t1, hsch.t2, hsch.fits⟩
  · exact Paces.refl w

/-- What `resend` does to the retransmission. -/
def ResendPaces (resend : World → World) : Prop :=
  ∀ w, Wf w → w.tsx.state ≠ .destroyed → Paces (Reliable (resend w)) w (resend w)

lemma afterSent_paces (hcb : CbOk cb) (hrs : Resends resend) (hk : ResendPaces resend) (h : Core w)
    (hi : w.tsx.state = .destroyed → w.tsx.flag.pendingSend = false) :
    Paces (Reliable (afterSent cb resend w)) w (afterSent cb resend w) := by
  unfold afterSent
  split_ifs with hd hs
  · have hds := (h.destroy hd).1
    refine .of_rank ?_
    rw [(tsxSetState_destroyed hcb h .unknown (fun _ => hds)).2.2.1]
    simp
  · have hn : w.tsx.state ≠ .destroyed := fun hn => by simp [hi hn] at hs
    have h₁ : Wf (setPendingSend false w) := (setPendingSend_core h false).wf rfl
    have hsent := hrs _ h₁ hn
    have p₁ := hk _ h₁ hn
    have f := reschedIfPending_frame (resend (setPendingSend false w))
    have p₂ := reschedIfPending_paces (resend (setPendingSend false w))
    have hrel := reschedIfPending_reliable (resend (setPendingSend false w))
    intro hr
    have q₁ := p₁ (lt_of_le_of_lt f.le.rank hr)
    have q₂ := p₂ hr
    refine ⟨q₂.count.trans q₁.count, q₂.status ∘ q₁.status, q₂.saved.trans q₁.saved, ?_⟩
    intro hsch ht
    have hsch' : Sched (setPendingSend false w) := { hsch with }
    rcases q₁.goes hsch' ht with hb | hb
    · exact q₂.goes (q₁.sched hsent.le hsch') hb
    · exact .inr (hrel.trans hb)
  · exact reschedIfPending_paces w

lemma sendMsgAdopt_paces (ours : Bool) (tp : Transport) (w : World) :
    Paces False w (sendMsgAdopt ours tp w) := by
  obtain ⟨pt, err, tm, -, -, -, -, heq⟩ := adoptTransport_eq tp w
  unfold sendMsgAdopt
  rw [heq]
  dsimp only
  split_ifs <;> exact .of_eq rfl rfl rfl rfl rfl

lemma sendMsgFailed_paces (hcb : CbOk cb) (ours : Bool) (e : SendErr)
    (h : Core w) : Paces False w (sendMsgFailed cb ours e w) := by
  obtain ⟨w₁, hw₁, hc₁, p₁, hle₁, hu₁⟩ : ∃ w₁, sendMsgMark ours e w = w₁ ∧ Core w₁ ∧
      Paces False w w₁ ∧ Le w w₁ ∧ w₁.tsx.role = w.tsx.role := by
    cases ours
    · exact ⟨_, rfl, { h with }, .of_eq rfl rfl rfl rfl rfl,
        ⟨rfl, rfl, rfl, rfl, le_rfl, List.suffix_refl _⟩, rfl⟩
    · exact ⟨_, rfl, { h with resolved := fun _ _ => rfl, direct := fun _ _ _ _ => rfl },
        .of_eq rfl rfl rfl rfl rfl, ⟨rfl, rfl, rfl, rfl, le_rfl, List.suffix_refl _⟩, rfl⟩
  unfold sendMsgFailed
  rw [hw₁]
  dsimp only
  split_ifs with hterm hdes hres
  · have hr : w₁.tsx.state.rank ≤ 6 := by
      have : w₁.tsx.state.rank < 7 := State.rank_lt_seven.2 fun hd => hterm.2 (.inr hd)
      omega
    refine .of_rank ?_
    rw [(tsxSetState_terminated hcb ((tsxSetStatusCode_frame e.statusCode w₁).core hc₁)
      .transportError .zero hr).2.1]
    simp
  · have hd := (hc₁.destroy hdes).1
    refine .of_rank ?_
    rw [(tsxSetState_destroyed hcb ((tsxSetStatusCode_frame e.statusCode w₁).core hc₁)
      .transportError (fun _ => hd)).2.2.1]
    simp
  · refine p₁.trans hle₁ (c := tsxReschedRetransmission (setPendingResched false w₁)) ?_ ?_
    · have hkeep := tsxReschedRetransmission_keeps (setPendingResched false w₁)
      refine fun _ => ⟨hkeep.1.le, by rw [hkeep.2.1]; exact id, hkeep.2.2, fun hsch _ => ?_⟩
      exact .inl (.inl (Sched.resched ⟨hsch.uas, hsch.final, hsch.t1, hsch.t2, hsch.fits⟩))
    · exact { (tsxReschedRetransmission_frame (setPendingResched false w₁)).le with }
  · exact p₁

lemma sendMsgRetry_paces (tx : TxData) (w : World) : Paces False w (sendMsgRetry tx w) := by
  unfold sendMsgRetry
  dsimp only
  split_ifs <;> exact fun _ => ⟨Nat.zero_le _, id, rfl, fun _ hr => .inl hr⟩

lemma releaseTx_paces (tx : TxData) (ours : Bool) (w : World) : Paces False w (releaseTx tx ours w) := by
  unfold releaseTx
  split_ifs <;> exact .of_eq rfl rfl rfl rfl rfl

lemma dropTransport_paces (tp : Option Transport) (w : World) : Paces False w (dropTransport tp w) := by
  unfold dropTransport
  split_ifs <;> exact .of_eq rfl rfl rfl rfl rfl

lemma sendMsgCallback_sent_paces (hcb : CbOk cb) (hrs : Resends resend)
    (hk : ResendPaces resend) (tx : TxData) (ours : Bool) (tp : Transport) (cont : Bool) (h : Wf w) :
    Paces (Reliable (sendMsgCallback cb resend tx ours (.sent tp) cont w).1) w
      (sendMsgCallback cb resend tx ours (.sent tp) cont w).1 := by
  have h₁ := (releaseTx_frame tx ours w).sent h
  have p₁ := releaseTx_paces tx ours w
  unfold sendMsgCallback
  split_ifs
  · exact Paces.refl w
  · obtain ⟨hc, hle, hst, hps, -⟩ := sendMsgAdopt_spec ours tp h₁.wf.toCore
    have hi := show (sendMsgAdopt ours tp (releaseTx tx ours w)).tsx.state = .destroyed →
        (sendMsgAdopt ours tp (releaseTx tx ours w)).tsx.flag.pendingSend = false by
      rw [hst, hps]
      exact h₁.wf.idle
    have hs := (afterSent_sent hcb hrs hc hi).1.le
    exact p₁.trans h₁.le ((sendMsgAdopt_paces ours tp _).trans hle
      (afterSent_paces hcb hrs hk hc hi) hs) (hle.trans hs)

lemma sendMsgCallback_failed_paces (hcb : CbOk cb) (resend : World → World) (tx : TxData)
    (ours : Bool) (e : SendErr) (tp : Option Transport) (cont : Bool) (h : Wf w) :
    Paces False w (sendMsgCallback cb resend tx ours (.failed e tp) cont w).1 := by
  have h₁ := (releaseTx_frame tx ours w).sent h
  obtain ⟨h₂, -, -⟩ := dropTransport_sent tp h₁.wf
  have p₂ := (releaseTx_paces tx ours w).trans h₁.le (dropTransport_paces tp _) h₂.le
  unfold sendMsgCallback
  dsimp only
  split_ifs
  · exact Paces.refl w
  · exact p₂.trans (h₁.le.trans h₂.le) (sendMsgFailed_paces hcb ours e h₂.wf.toCore)
      (sendMsgFailed_sent hcb ours e h₂.wf.toCore h₂.wf.idle).1.le
  · exact p₂.trans (h₁.le.trans h₂.le) (sendMsgRetry_paces tx _) (sendMsgRetry_frame tx _).le

lemma runEndpt_paces (hcb : CbOk cb) (hrs : Resends resend) (hk : ResendPaces resend)
    (tx : TxData) (ours : Bool) (attempts : List (SendErr × Option Transport)) (last : EndptLast) (h : Wf w) :
    Paces (Reliable (runEndpt cb resend tx ours attempts last w)) w
      (runEndpt cb resend tx ours attempts last w) := by
  induction attempts generalizing w with
  | nil =>
    cases last with
    | pending b => exact .of_eq rfl rfl rfl rfl rfl
    | sent tp => exact sendMsgCallback_sent_paces hcb hrs hk tx ours tp false h
    | failed e tp =>
      exact (sendMsgCallback_failed_paces hcb resend tx ours e tp false h).weaken False.elim
  | cons a rest ih =>
    obtain ⟨e, tp⟩ := a
    have h₁ := (sendMsgCallback_sent hcb hrs tx ours (.failed e tp) true h).1
    have p₁ := sendMsgCallback_failed_paces hcb resend tx ours e tp true h
    unfold runEndpt
    dsimp only
    split_ifs
    · exact p₁.trans h₁.le (ih h₁.wf) (runEndpt_sent hcb hrs tx ours rest last h₁.wf).1.le
    · exact p₁.weaken False.elim

lemma sendDirect_paces (tx : TxData) (w : World) : Paces False w (sendDirect tx w).1 := by
  have hd := sendDirect_cases tx w
  generalize sendDirect tx w = r at hd ⊢
  cases hd <;> exact .of_eq rfl rfl rfl rfl rfl

lemma sendStateless_paces (hcb : CbOk cb) (hrs : Resends resend) (hk : ResendPaces resend)
    (tx : TxData) (h : Wf w) :
    Paces (Reliable (sendStateless cb resend tx w).1) w (sendStateless cb resend tx w).1 := by
  obtain ⟨env, henv⟩ := popEndpt_eq (sendBegin tx w)
  unfold sendStateless
  rcases hpop : (sendBegin tx w).popEndpt with ⟨r, w₁⟩
  have hw₁ : w₁ = { sendBegin tx w with env := env } := by
    rw [hpop] at henv
    exact henv
  have h₁ : Wf w₁ := by
    rw [hw₁]
    exact { sendBegin_wf tx h with }
  have hle : Le w w₁ := by
    rw [hw₁]
    exact ⟨rfl, rfl, rfl, rfl, le_rfl, List.suffix_cons _ _⟩
  have p₁ : Paces False w w₁ := by
    rw [hw₁]
    exact .of_eq rfl rfl rfl rfl rfl
  cases r with
  | refused e =>
    have p₂ : Paces False w₁ (sendRefused tx w₁) := by
      unfold sendRefused
      dsimp only
      split_ifs
      · exact fun _ => ⟨le_rfl, fun _ => by simp, rfl, fun _ hr => .inl hr⟩
      · exact .of_eq rfl rfl rfl rfl rfl
    refine (p₁.trans hle p₂ ⟨?_, ?_, ?_, ?_, ?_, ?_⟩).weaken False.elim <;> unfold sendRefused <;>
      dsimp only <;> split_ifs <;> rfl
  | run attempts last =>
    exact p₁.trans hle (runEndpt_paces hcb hrs hk tx true _ last h₁)
      (runEndpt_sent hcb hrs tx true _ last h₁).1.le

lemma tsxSendMsgWith_paces (hcb : CbOk cb) (hrs : Resends resend) (hk : ResendPaces resend)
    (tx : TxData) (h : Wf w) (hd : w.tsx.state ≠ .destroyed) :
    Paces (Reliable (tsxSendMsgWith cb resend tx w).1) w (tsxSendMsgWith cb resend tx w).1 := by
  have p₁ := sendDirect_paces tx w
  have hc := tsxSendMsgWith_cases cb resend tx w
  generalize tsxSendMsgWith cb resend tx w = r at hc ⊢
  cases hc with
  | deferred hp => exact .of_eq rfl rfl rfl rfl rfl
  | busy => exact Paces.refl w
  | direct w₁ hp _ hdir =>
    rw [hdir] at p₁
    exact p₁.weaken False.elim
  | permanent w₁ status hp _ hdir hres =>
    obtain ⟨h₁, -, -⟩ := sendDirect_sent tx h hp
    rw [hdir] at h₁
    have hr : w₁.tsx.state.rank < 7 := State.rank_lt_seven.2 (h₁.alive hd)
    refine .of_rank ?_
    rw [(tsxSetState_terminated hcb ((tsxSetStatusCode_frame 503 w₁).core h₁.wf.toCore)
      .transportError .zero (Nat.lt_succ_iff.1 hr)).2.1]
    simp
  | stateless w₁ status hp _ hdir hres =>
    obtain ⟨h₁, -, hfl⟩ := sendDirect_sent tx h hp
    rw [hdir] at h₁ hfl p₁
    have hp₁ : w₁.tsx.flag.pendingTransport = false := by
      rw [hfl rfl]
      exact hp
    exact p₁.trans h₁.le (sendStateless_paces hcb hrs hk tx h₁.wf)
      (sendStateless_spec hcb hrs tx h₁.wf (h₁.wf.pendingSend_false hp₁ hres)).sent.le

lemma tsxSendMsgDepth_paces (hcb : CbOk cb) (n : ℕ) (tx : TxData) (h : Wf w) (hd : w.tsx.state ≠ .destroyed) :
    Paces (Reliable (tsxSendMsgDepth cb n tx w).1) w (tsxSendMsgDepth cb n tx w).1 := by
  induction n generalizing tx w with
  | zero =>
    exact tsxSendMsgWith_paces hcb (fun w h _ => Sent.refl h) (fun w _ _ => Paces.refl w) tx h hd
  | succ n ih =>
    refine tsxSendMsgWith_paces hcb
      (sendLastTx_resends fun tx w h hd => tsxSendMsgDepth_spec hcb n tx h hd) ?_ tx h hd
    intro w h hd
    unfold sendLastTx
    split
    · exact Paces.refl w
    · exact ih _ h hd

lemma sendLastTx_paces (hcb : CbOk cb) : ResendPaces (sendLastTx (tsxSendMsg cb)) := by
  intro w h hd
  unfold sendLastTx
  split
  · exact Paces.refl w
  · exact tsxSendMsgDepth_paces hcb 1 _ h hd

/-! ## A final response is retransmitted until the transaction leaves COMPLETED -/

structure Resending (w : World) : Prop where
  uas : w.tsx.role = .uas
  state : w.tsx.state = .completed
  final : 200 ≤ w.tsx.statusCode
  saved : ∃ tx, w.tsx.lastTx = some tx ∧ tx.isRequest = false
  goes : Retransmitting w

/-- What an input leaves of it: the retransmission goes on, unless the transaction
has left COMPLETED or taken a reliable transport. -/
def Goes (w : World) : Prop := 5 ≤ w.tsx.state.rank ∨ Reliable w ∨ Resending w

structure Room (w : World) : Prop where
  t1 : 1 ≤ w.cfg.t1
  t2 : 1 ≤ w.cfg.t2
  fits : Fits w.cfg (w.tsx.retransmitCount + 1)

lemma Resending.sched (h : Resending w) (hr : Room w) : Sched w :=
  ⟨h.uas, h.final, hr.t1, hr.t2, hr.fits.mono (Nat.le_succ _)⟩

lemma Resending.paced (h : Resending w) (hs : Sched w) (hle : Le w w')
    (hp : Paces (Reliable w') w w') : Goes w' := by
  by_cases hr : w'.tsx.state.rank < 5
  · have p := hp (by omega)
    obtain ⟨tx, htx, hreq⟩ := h.saved
    have hst : w'.tsx.state = .completed := by
      have hge := hle.rank
      rw [h.state] at hge
      cases hc : w'.tsx.state <;> simp [hc] at hge hr ⊢
    rcases p.goes hs h.goes with hg | hg
    · exact .inr (.inr ⟨hle.role.trans h.uas, hst, p.status h.final, ⟨tx, p.saved.trans htx, hreq⟩,
        hg⟩)
    · exact .inr (.inl hg)
  · exact .inl (by omega)

lemma Resending.of_eq (h : Resending w) (hu : w'.tsx.role = w.tsx.role)
    (hst : w'.tsx.state = w.tsx.state) (hs : w'.tsx.statusCode = w.tsx.statusCode)
    (hl : w'.tsx.lastTx = w.tsx.lastTx) (ht : w'.tsx.retransmitTimer = w.tsx.retransmitTimer)
    (hp : w'.tsx.flag.pendingResched = w.tsx.flag.pendingResched) : Resending w' := by
  refine ⟨hu.trans h.uas, hst.trans h.state, by rw [hs]; exact h.final, by rw [hl]; exact h.saved,
    ?_⟩
  unfold Retransmitting
  rw [ht, hp]
  exact h.goes

lemma tsxRetransmit_goes (hcb : CbOk cb) (resched : Bool) (h : Wf w)
    (hu : w.tsx.role = .uas) (hst : w.tsx.state = .completed) (hf : 200 ≤ w.tsx.statusCode)
    (hl : ∃ tx, w.tsx.lastTx = some tx ∧ tx.isRequest = false) (hr : Room w)
    (hgo : resched = true ∨ Retransmitting w) : Goes (tsxRetransmit cb resched w).1 := by
  have hd : w.tsx.state ≠ .destroyed := by simp [hst]
  obtain ⟨tx, htx, hreq⟩ := hl
  by_cases hc : (resched && w.tsx.retransmitTimer) = true
  · have hgo' : Retransmitting w := .inl (by simpa using (Bool.and_eq_true_iff.1 hc).2)
    have heq : tsxRetransmit cb resched w = (w, .success) := by
      simp only [tsxRetransmit, hc, if_true]
    rw [heq]
    exact .inr (.inr ⟨hu, hst, hf, ⟨tx, htx, hreq⟩, hgo'⟩)
  · have hbegin : Resending (retransmitBegin resched w) ∧ Sched (retransmitBegin resched w) := by
      have hs₁ : Sched (setRetransmitCount (w.tsx.retransmitCount + 1) w) :=
        ⟨hu, hf, hr.t1, hr.t2, hr.fits⟩
      unfold retransmitBegin
      dsimp only
      split_ifs with hres hpt
      · exact ⟨⟨hu, hst, hf, ⟨tx, htx, hreq⟩, .inr rfl⟩, hs₁.uas, hs₁.final, hs₁.t1, hs₁.t2, hs₁.fits⟩
      · obtain ⟨hc', hs', hl'⟩ := tsxReschedRetransmission_keeps
          (setRetransmitCount (w.tsx.retransmitCount + 1) w)
        have f := tsxReschedRetransmission_frame
          (setRetransmitCount (w.tsx.retransmitCount + 1) w)
        refine ⟨⟨f.role.trans hu, f.state.trans hst, by rw [hs']; exact hf,
          ⟨tx, hl'.trans htx, hreq⟩, .inl hs₁.resched⟩, f.role.trans hu, by rw [hs']; exact hf,
          by rw [f.cfg]; exact hr.t1, by rw [f.cfg]; exact hr.t2, ?_⟩
        rw [f.cfg, hc']
        exact hr.fits
      · have hgo' : Retransmitting w := hgo.resolve_left hres
        exact ⟨⟨hu, hst, hf, ⟨tx, htx, hreq⟩, hgo'⟩, hs₁⟩
    obtain ⟨hb, hsch⟩ := hbegin
    have f := retransmitBegin_frame resched w
    have h₁ := f.sent h
    have spec := tsxSendMsg_spec hcb tx h₁.wf (h₁.alive hd)
    have hg := hb.paced hsch spec.sent.le
      (tsxSendMsgDepth_paces hcb 1 tx h₁.wf (h₁.alive hd))
    have heq : (tsxRetransmit cb resched w).1 =
        if (tsxSendMsg cb tx (retransmitBegin resched w)).2 = .success ∧ resched ∧
          (tsxSendMsg cb tx (retransmitBegin resched w)).1.tsx.flag.pendingTransport then
          setPendingResched true (cancelRetransmit (tsxSendMsg cb tx (retransmitBegin resched w)).1)
        else (tsxSendMsg cb tx (retransmitBegin resched w)).1 := by
      have hc' : (resched && w.tsx.retransmitTimer) = false := by simpa using hc
      simp only [tsxRetransmit, hc', htx, hreq, Bool.and_false, Bool.false_eq_true, if_false]
      split_ifs <;> rfl
    rw [heq]
    split_ifs with hpend
    · rcases hg with hg | hg | hg
      · exact .inl hg
      · exact .inr (.inl hg)
      · exact .inr (.inr ⟨hg.uas, hg.state, hg.final, hg.saved, .inr rfl⟩)
    · exact hg

lemma terminated_goes (hcb : CbOk cb) (h : Wf w) (src : EventSrc)
    (flag : SetStateFlag) (hr : w.tsx.state.rank ≤ 6) : Goes (tsxSetState cb .terminated src flag w) := by
  refine .inl ?_
  rw [(tsxSetState_terminated hcb h.toCore src flag hr).2.1]
  simp

lemma tsxOnStateCompletedUas_goes (hcb : CbOk cb) (e : Event) (h : Wf w)
    (hu : w.tsx.role = .uas) (hst : w.tsx.state = .completed) (hf : 200 ≤ w.tsx.statusCode)
    (hl : ∃ tx, w.tsx.lastTx = some tx ∧ tx.isRequest = false) (hr : Room w)
    (hgo : e = .retransmitTimer ∨ Retransmitting w) : Goes (tsxOnStateCompletedUas cb e w).1 := by
  cases e with
  | retransmitTimer => exact tsxRetransmit_goes hcb true h hu hst hf hl hr (.inl rfl)
  | timeoutTimer =>
    have f : Frame w (if w.tsx.method = .invite then tsxSetStatusCode 408 w else w) :=
      .ite (tsxSetStatusCode_frame _ _) (.refl _)
    exact terminated_goes hcb (f.sound h).wf .timer .zero (by rw [f.state, hst]; simp)
  | txMsg tx => exact .inr (.inr ⟨hu, hst, hf, hl, hgo.resolve_left (by simp)⟩)
  | rxMsg m =>
    have hgo' : Retransmitting w := hgo.resolve_left (by simp)
    cases m with
    | response code => exact .inr (.inr ⟨hu, hst, hf, hl, hgo'⟩)
    | request m =>
      simp only [tsxOnStateCompletedUas]
      split_ifs with hack hinv
      · exact tsxRetransmit_goes hcb false h hu hst hf hl hr (.inr hgo')
      · exact .inr (.inr ⟨hu, hst, hf, hl, hgo'⟩)
      · have f : Frame w (restartTimeout .timeout (setPendingResched false (cancelRetransmit w))) :=
          ((cancelRetransmit_frame _).trans (setPendingResched_frame _ _)).trans
            (restartTimeout_frame _ _)
        exact .inl (tsxSetState_sound hcb (f.sound h).wf .confirmed _ (by simp)
          (by rw [f.state, hst]; simp) (by rw [f.role, hu]; rfl)).2

lemma stateHandler_goes (hcb : CbOk cb) (e : Event) (h : Wf w)
    (hu : w.tsx.role = .uas) (hst : w.tsx.state = .completed) (hf : 200 ≤ w.tsx.statusCode)
    (hl : ∃ tx, w.tsx.lastTx = some tx ∧ tx.isRequest = false) (hr : Room w)
    (hgo : e = .retransmitTimer ∨ Retransmitting w) : Goes (stateHandler cb e w).1 := by
  have hh : w.tsx.stateHandler = some .completedUas := by
    rw [h.handler, hu, hst]
    rfl
  have heq : stateHandler cb e w = tsxOnStateCompletedUas cb e w := by
    simp only [stateHandler, hh]
  rw [heq]
  exact tsxOnStateCompletedUas_goes hcb e h hu hst hf hl hr hgo

lemma tuCall_goes (hcb : CbOk cb) (c : TuCall) (h : Wf w) (hw : Resending w)
    (hr : Room w) : Goes (tuCall cb w c) := by
  have h₁ := (log_plain_frame w (o := .call c w.tsx w.env) rfl).sound h
  have hw₁ : Resending (w.log (.call c w.tsx w.env)) := hw.of_eq rfl rfl rfl rfl rfl rfl
  have hr₁ : Room (w.log (.call c w.tsx w.env)) := { hr with }
  cases c with
  | sendMsg tdata =>
    simp only [tuCall, tsxSendMsgApi]
    split
    next => exact .inr (.inr hw₁)
    next tx _ =>
      rcases stateHandler_goes hcb (.txMsg tx) h₁.wf hw₁.uas hw₁.state hw₁.final hw₁.saved hr₁
        (.inr hw₁.goes) with hg | hg | hg
      · exact .inl hg
      · exact .inr (.inl hg)
      · exact .inr (.inr (hg.of_eq rfl rfl rfl rfl rfl rfl))
  | terminate code =>
    simp only [tuCall, tsxTerminate]
    split_ifs with _ hlt
    · exact .inr (.inr hw₁)
    · have f := tsxSetStatusCode_frame code (w.log (.call (.terminate code) w.tsx w.env))
      exact terminated_goes hcb (f.sound h₁.wf).wf .user .zero
        (by rw [f.state, hw₁.state]; simp)
    · exact .inr (.inr hw₁)

lemma retransmitExpiry_goes (hcb : CbOk cb) (h : Wf w) (hw : Resending w)
    (hr : Room w) : Goes (retransmitExpiry cb w) := by
  have h₁ := (cancelRetransmit_frame w).sound h
  unfold retransmitExpiry
  dsimp only
  split_ifs with ht hd
  · have hst : (cancelRetransmit w).tsx.state = .completed := hw.state
    rw [hst] at hd
    simp at hd
  · exact stateHandler_goes hcb .retransmitTimer h₁.wf hw.uas hw.state hw.final hw.saved
      { hr with } (.inl rfl)
  · exact .inr (.inr hw)

lemma transportExpiry_goes (hcb : CbOk cb) (tpDisc : Bool) (h : Wf w)
    (hw : Resending w) : Goes (transportExpiry cb tpDisc w) := by
  have hst := hw.state
  have hfin : ¬ (tsxUpdateTransport none w).tsx.statusCode < 200 := not_lt.2 hw.final
  have hlt : w.tsx.state.rank < State.terminated.rank := by simp [hst]
  have h₁ := tsxUpdateTransport_none_sound h
  unfold transportExpiry
  rw [if_pos hlt]
  dsimp only
  rw [if_neg (fun hc => hfin hc.2.2.2.1), if_neg hfin]
  have hr₁ : (tsxUpdateTransport none w).tsx.state.rank ≤ 6 := by
    have : (tsxUpdateTransport none w).tsx.state = w.tsx.state := rfl
    simp [this, hst]
  obtain ⟨h₂, hst₂, -⟩ := tsxSetState_terminated hcb h₁.wf.toCore .transportError ⟨true, true⟩ hr₁
  generalize tsxSetState cb .terminated .transportError ⟨true, true⟩ _ = w₂ at h₂ hst₂ ⊢
  have h₃ := notifyUser_sound hcb h₂.wf (.notify w₂.tsx.state) trivial (by simp [hst₂])
    (by simp [hst₂])
  have hge : 5 ≤ (notifyUser cb (.notify w₂.tsx.state) w₂).tsx.state.rank :=
    le_trans (by rw [hst₂]; simp) h₃.le.rank
  exact .inl hge

lemma timeoutExpiry_goes (hcb : CbOk cb) (h : Wf w) (hw : Resending w)
    (hr : Room w) : Goes (timeoutExpiry cb w) := by
  have h₁ := (cancelTimeout_frame w).sound h
  have hw₁ : Resending (cancelTimeout w) := hw.of_eq rfl rfl rfl rfl rfl rfl
  unfold timeoutExpiry
  split
  next => exact .inr (.inr hw)
  next id _ =>
    have hd : ¬ State.destroyed.rank ≤ (cancelTimeout w).tsx.state.rank := by
      rw [hw₁.state]
      simp
    dsimp only
    rw [if_neg hd]
    cases id with
    | timeout =>
      exact stateHandler_goes hcb .timeoutTimer h₁.wf hw₁.uas hw₁.state hw₁.final hw₁.saved
        { hr with } (.inr hw₁.goes)
    | transportErr => exact transportExpiry_goes hcb false h₁.wf hw₁
    | transportDisc => exact transportExpiry_goes hcb true h₁.wf hw₁

lemma directDone_goes (hcb : CbOk cb) (k : ℕ) (res : Option SendErr) (h : Wf w)
    (hw : Resending w) (hr : Room w) : Goes (directDone cb k res w) := by
  unfold directDone
  split
  next tx _ =>
    have f := completion_frame w k tx
    have hw₁ : Resending (setPendingTransport false { w.log .completion with
        outstanding := w.outstanding.eraseIdx k, busy := w.busy.filter (· ≠ tx) }) :=
      hw.of_eq rfl rfl rfl rfl rfl rfl
    have hc : Core (setPendingTransport false { w.log .completion with
        outstanding := w.outstanding.eraseIdx k, busy := w.busy.filter (· ≠ tx) }) :=
      { (f.sound h).wf.toCore with }
    have hi : w.tsx.state = .destroyed → w.tsx.flag.pendingSend = false := by
      simp [hw.state]
    dsimp only [transportCallbackImpl]
    rw [if_pos (.inr hw.uas)]
    exact hw₁.paced { hw.sched hr with } (afterSent_sent hcb (sendLastTx_sent hcb) hc hi).1.le
      (afterSent_paces hcb (sendLastTx_sent hcb) (sendLastTx_paces hcb) hc hi)
  next => exact .inr (.inr hw)

lemma endptDone_goes (hcb : CbOk cb) (k : ℕ) (ours : Bool)
    (attempts : List (SendErr × Option Transport)) (last : EndptLast) (h : Wf w)
    (hw : Resending w) (hr : Room w) : Goes (endptDone cb k ours attempts last w) := by
  unfold endptDone
  split
  next tx _ =>
    have h₁ := ((completion_frame w k tx).sound h).wf
    have hw₁ : Resending { w.log .completion with
        outstanding := w.outstanding.eraseIdx k, busy := w.busy.filter (· ≠ tx) } :=
      hw.of_eq rfl rfl rfl rfl rfl rfl
    exact hw₁.paced { hw.sched hr with }
      (runEndpt_sent hcb (sendLastTx_sent hcb) tx ours _ last h₁).1.le
      (runEndpt_paces hcb (sendLastTx_sent hcb) (sendLastTx_paces hcb) tx ours _ last h₁)
  next => exact .inr (.inr hw)

lemma disconnect_goes (e : Option SendErr) (hw : Resending w) : Goes (disconnect e w) := by
  refine .inr (.inr ?_)
  unfold disconnect tpStateDisconnected
  dsimp only
  split_ifs <;> exact hw.of_eq rfl rfl rfl rfl rfl rfl

lemma step_goes (i : Input × Env) (h : Wf w) (hw : Resending w) (hr : Room w) : Goes (step w i) := by
  obtain ⟨i, env⟩ := i
  have hcb := tuCallback_ok env.tu.length
  have h₁ := ((env_frame env w).sound h).wf
  have hw₁ : Resending { w with env := env } := hw.of_eq rfl rfl rfl rfl rfl rfl
  have hr₁ : Room { w with env := env } := { hr with }
  cases i with
  | tu c => exact tuCall_goes hcb c h₁ hw₁ hr₁
  | recv m =>
    exact stateHandler_goes hcb (.rxMsg m) h₁ hw₁.uas hw₁.state hw₁.final hw₁.saved hr₁
      (.inr hw₁.goes)
  | retransmitExpiry => exact retransmitExpiry_goes hcb h₁ hw₁ hr₁
  | timeoutExpiry => exact timeoutExpiry_goes hcb h₁ hw₁ hr₁
  | directDone k res => exact directDone_goes hcb k res h₁ hw₁ hr₁
  | endptDone k ours attempts last => exact endptDone_goes hcb k ours attempts last h₁ hw₁ hr₁
  | disconnect e => exact disconnect_goes e hw₁

def Unreliable (w : World) (i : Input × Env) : Prop :=
  Fits w.cfg (w.tsx.retransmitCount + 1) ∧ (step w i).tsx.isReliable = false

instance (w : World) (i : Input × Env) : Decidable (Unreliable w i) :=
  inferInstanceAs (Decidable (_ ∧ _))

lemma run_goes (h : Wf w) (h1 : 1 ≤ w.cfg.t1) (h2 : 1 ≤ w.cfg.t2)
    (hw : Resending w) {es : List (Input × Env)} (hg : Guarded step Unreliable w es) :
    5 ≤ (run step w es).tsx.state.rank ∨ Resending (run step w es) := by
  induction es generalizing w with
  | nil => exact .inr hw
  | cons i es ih =>
    obtain ⟨⟨hfit, hrel⟩, hrest⟩ := hg
    obtain ⟨hwf, hle⟩ := step_forward i h
    rcases step_goes i h hw ⟨h1, h2, hfit⟩ with hs | hs | hs
    · exact .inl (hs.trans (run_le hwf es).rank)
    · simp [Reliable, hrel] at hs
    · exact ih hwf (by rw [hle.cfg]; exact h1) (by rw [hle.cfg]; exact h2) hs hrest

/-- The delay of a UAS with a final response and of a non-INVITE UAC is T2 after a
provisional response and else `min (2 ^ count * T1) T2`, while that product fits
in 32 bits. It is never zero, so the timer starts; and a UAS that retransmits its
final response over unreliable transports goes on until it leaves COMPLETED. -/
theorem resched_interval {w₀ : World} (h : Created w₀) (h1 : 1 ≤ w₀.cfg.t1) (h2 : 1 ≤ w₀.cfg.t2) :
    (∀ w : World, w.cfg = w₀.cfg → Capped w.tsx →
      (w.tsx.role = .uac ∧ 100 ≤ w.tsx.statusCode) ∨ Fits w.cfg w.tsx.retransmitCount →
      reschedMsec w.cfg w.tsx = interval w.cfg w.tsx ∧ reschedMsec w.cfg w.tsx ≠ 0 ∧
      (tsxReschedRetransmission w).tsx.retransmitTimer = true) ∧
    ∀ es fs : List (Input × Env), Resending (run step w₀ es) → Guarded step Unreliable (run step w₀ es) fs →
      5 ≤ (run step w₀ (es ++ fs)).tsx.state.rank ∨ Resending (run step w₀ (es ++ fs)) := by
  constructor
  · intro w hcfg hcap hfit
    have ht1 : 1 ≤ w.cfg.t1 := hcfg ▸ h1
    have ht2 : 1 ≤ w.cfg.t2 := hcfg ▸ h2
    have heq := reschedMsec_eq hcap ht1 hfit
    have hne : reschedMsec w.cfg w.tsx ≠ 0 := by
      rw [heq]
      exact (interval_pos ht1 ht2).ne'
    exact ⟨heq, hne, tsxReschedRetransmission_timer hne⟩
  · intro es fs hw hg
    have hwf := run_wf h es
    have hcfg := (run_le (created_wf h) es).cfg
    rw [run_append]
    exact run_goes hwf (by rw [hcfg]; exact h1) (by rw [hcfg]; exact h2) hw hg

def inviteUas : World :=
  createUas ⟨500, 4000, none⟩ .invite true false (some ⟨1, false, false⟩)

def busyHere : TxData := ⟨0, .response ⟨486, by omega, by omega⟩ .invite⟩

def rejectRun : List (Input × Env) :=
  [(.recv (.request .invite), .empty), (.tu (.sendMsg (some busyHere)), .empty)]

theorem resched_interval_invite :
    5 ≤ (run step inviteUas (rejectRun ++ [(.retransmitExpiry, .empty)])).tsx.state.rank ∨
      Resending (run step inviteUas (rejectRun ++ [(.retransmitExpiry, .empty)])) :=
  (resched_interval (.uas ⟨500, 4000, none⟩ .invite true false (some ⟨1, false, false⟩) (by decide))
    (by decide) (by decide)).2 rejectRun [(.retransmitExpiry, .empty)]
    ⟨by decide, by decide, by decide, ⟨busyHere, by decide, by decide⟩, .inl (by decide)⟩
    (by decide)

/-- An OPTIONS request over UDP that has been answered with 100 waits for T2 at once. -/
theorem interval_after_provisional : ∃ (w₀ : World) (es : List (Input × Env)), Created w₀ ∧
      (run step w₀ es).tsx.role = .uac ∧ (run step w₀ es).tsx.method ≠ .invite ∧
      reschedMsec w₀.cfg (run step w₀ es).tsx ≠
        min (2 ^ (run step w₀ es).tsx.retransmitCount * w₀.cfg.t1) w₀.cfg.t2 :=
  ⟨createUac ⟨500, 4000, none⟩ .options ⟨0, .request .options⟩ false,
    [sendNow, (.recv (.response ⟨100, by omega, by omega⟩), .empty)],
    .uac _ _ _ _ (by decide) rfl, by decide, by decide, by decide⟩

end PjProject.Transaction
