import PjProject.TsxOrder

/-!
# SIP transaction: a response that cannot be sent

A UAS learns of a transmission that fails at once through `send_msg_callback`. Any
failure but of the resolution leaves the transaction alive, `tsx_send_msg` reports
success, and the response becomes the one that retransmitted requests are answered with.
-/
namespace PjProject.Transaction
open Transition

variable {cb resend : World → World}

/-- No transport takes the message: `pjsip_transport_send` fails or there is no
transport, and the endpoint reports another failure than of the resolution at once. -/
structure FailsAtOnce (tx : TxData) (w : World) : Prop where
  idle : w.tsx.flag.pendingTransport = false
  free : tx ∉ w.busy
  direct : w.tsx.transport.isSome → ∃ e rest, w.env.direct = .failed e :: rest
  endpt : ∃ attempts tp rest, w.env.endpt = .run attempts (.failed .other tp) :: rest

structure Same (w w' : World) : Prop where
  role : w'.tsx.role = w.tsx.role
  method : w'.tsx.method = w.tsx.method
  handle200resp : w'.tsx.handle200resp = w.tsx.handle200resp
  state : w'.tsx.state = w.tsx.state
  statusCode : w'.tsx.statusCode = w.tsx.statusCode
  lastTx : w'.tsx.lastTx = w.tsx.lastTx
  destroy : w'.tsx.flag.pendingDestroy = w.tsx.flag.pendingDestroy
  busy : w'.busy = w.busy

lemma Same.trans {a b c : World} (h : Same a b) (h' : Same b c) : Same a c :=
  ⟨h'.role.trans h.role, h'.method.trans h.method, h'.handle200resp.trans h.handle200resp,
    h'.state.trans h.state, h'.statusCode.trans h.statusCode, h'.lastTx.trans h.lastTx,
    h'.destroy.trans h.destroy, h'.busy.trans h.busy⟩

lemma Same.refl (w : World) : Same w w := ⟨rfl, rfl, rfl, rfl, rfl, rfl, rfl, rfl⟩

lemma releaseTx_same (tx : TxData) (ours : Bool) (w : World) : Same w (releaseTx tx ours w) := by
  unfold releaseTx
  split_ifs <;> exact ⟨rfl, rfl, rfl, rfl, rfl, rfl, rfl, rfl⟩

lemma dropTransport_same (tp : Option Transport) (w : World) : Same w (dropTransport tp w) := by
  unfold dropTransport
  split_ifs <;> exact ⟨rfl, rfl, rfl, rfl, rfl, rfl, rfl, rfl⟩

lemma sendMsgMark_same (ours : Bool) (e : SendErr) (w : World) : Same w (sendMsgMark ours e w) ∧
      (sendMsgMark ours e w).tsx.flag.pendingTransport = false := by
  cases ours <;> exact ⟨⟨rfl, rfl, rfl, rfl, rfl, rfl, rfl, rfl⟩, rfl⟩

lemma tsxReschedRetransmission_same (w : World) :
    Same w (tsxReschedRetransmission (setPendingResched false w)) ∧
      (tsxReschedRetransmission (setPendingResched false w)).tsx.flag.pendingTransport =
        w.tsx.flag.pendingTransport := by
  unfold tsxReschedRetransmission
  dsimp only
  split_ifs <;> exact ⟨⟨rfl, rfl, rfl, rfl, rfl, rfl, rfl, rfl⟩, rfl⟩

variable {w : World} (cb) in
lemma sendMsgFailed_same (ours : Bool) (hu : w.tsx.role = .uas)
    (hp : w.tsx.flag.pendingDestroy = false) : Same w (sendMsgFailed cb ours .other w) ∧
      (sendMsgFailed cb ours .other w).tsx.flag.pendingTransport = false := by
  obtain ⟨hm, hidle⟩ := sendMsgMark_same ours .other w
  have hrole := hm.role.trans hu
  have hd := hm.destroy.trans hp
  unfold sendMsgFailed
  dsimp only
  rw [if_neg (by simp [hrole, SendErr.statusCode]), if_neg (by simp [hd])]
  split_ifs
  · obtain ⟨hs, hidle'⟩ := tsxReschedRetransmission_same (sendMsgMark ours .other w)
    exact ⟨hm.trans hs, hidle'.trans hidle⟩
  · exact ⟨hm, hidle⟩

variable {tx : TxData} (cb resend) in
lemma sendMsgCallback_failed_same (tp : Option Transport)
    (hin : tx ∈ w.attached) (hu : w.tsx.role = .uas) (hp : w.tsx.flag.pendingDestroy = false) :
    Same w (sendMsgCallback cb resend tx true (.failed .other tp) false w).1 ∧
      (sendMsgCallback cb resend tx true (.failed .other tp) false
        w).1.tsx.flag.pendingTransport = false := by
  have hsame := (releaseTx_same tx true w).trans (dropTransport_same tp _)
  obtain ⟨hf, hidle⟩ := sendMsgFailed_same cb
    true (hsame.role.trans hu) (hsame.destroy.trans hp)
  have heq : (sendMsgCallback cb resend tx true (.failed .other tp) false w).1 =
      sendMsgFailed cb true .other (dropTransport tp (releaseTx tx true w)) := by
    simp [sendMsgCallback, hin]
  rw [heq]
  exact ⟨hsame.trans hf, hidle⟩

variable (cb resend) in
lemma sendStateless_failed (htx : tx.isRequest = false)
    (hu : w.tsx.role = .uas) (hp : w.tsx.flag.pendingDestroy = false) (hst : w.tsx.state ≠ .terminated)
    (hend : ∃ attempts tp rest, w.env.endpt = .run attempts (.failed .other tp) :: rest) :
    (sendStateless cb resend tx w).2 = .success ∧ Same w (sendStateless cb resend tx w).1 ∧
      (sendStateless cb resend tx w).1.tsx.flag.pendingTransport = false := by
  obtain ⟨attempts, tp, rest, hend⟩ := hend
  obtain ⟨w₁, hpop, hbegin, hin⟩ : ∃ w₁,
      (sendBegin tx w).popEndpt = (.run attempts (.failed .other tp), w₁) ∧ Same w w₁ ∧
      tx ∈ w₁.attached := by
    have he : (sendBegin tx w).env.endpt = .run attempts (.failed .other tp) :: rest := hend
    refine ⟨{ sendBegin tx w with env := { (sendBegin tx w).env with endpt := rest } }, ?_,
      ⟨rfl, rfl, rfl, rfl, rfl, rfl, rfl, rfl⟩, List.mem_cons_self⟩
    simp only [World.popEndpt, he]
  obtain ⟨hsame, hidle⟩ := sendMsgCallback_failed_same cb resend tp hin
    (hbegin.role.trans hu) (hbegin.destroy.trans hp)
  have hstate : (sendMsgCallback cb resend tx true (.failed .other tp) false w₁).1.tsx.state ≠
      .terminated := by
    rw [hsame.state, hbegin.state]
    exact hst
  have heq : sendStateless cb resend tx w =
      ((sendMsgCallback cb resend tx true (.failed .other tp) false w₁).1, .success) := by
    simp only [sendStateless, hpop, htx, Bool.false_eq_true, if_false, runEndpt, if_neg hstate]
  rw [heq]
  exact ⟨rfl, hbegin.trans hsame, hidle⟩

variable (cb resend) in
lemma tsxSendMsgWith_failed (htx : tx.isRequest = false)
    (hu : w.tsx.role = .uas) (hp : w.tsx.flag.pendingDestroy = false)
    (hst : w.tsx.state ≠ .terminated) (hf : FailsAtOnce tx w) :
    (tsxSendMsgWith cb resend tx w).2 = .success ∧ Same w (tsxSendMsgWith cb resend tx w).1 ∧
      (tsxSendMsgWith cb resend tx w).1.tsx.flag.pendingTransport = false := by
  have hcases := sendDirect_cases tx w
  obtain ⟨w₁, status, hdir, hsame, hend⟩ : ∃ w₁ status, sendDirect tx w = (w₁, some status) ∧
      Same w w₁ ∧ w₁.env.endpt = w.env.endpt := by
    generalize sendDirect tx w = r at hcases ⊢
    cases hcases with
    | noTransport => exact ⟨w, .success, rfl, Same.refl w, rfl⟩
    | pending env ht ha =>
      obtain ⟨e, rest, he⟩ := hf.direct ht
      simp [World.popDirect, he] at ha
    | sent env ht ha =>
      obtain ⟨e, rest, he⟩ := hf.direct ht
      simp [World.popDirect, he] at ha
    | failed env e ht ha hend =>
      exact ⟨_, _, rfl, ⟨rfl, rfl, rfl, rfl, rfl, rfl, rfl, rfl⟩, hend⟩
  have hrole := hsame.role.trans hu
  have heq : tsxSendMsgWith cb resend tx w = sendStateless cb resend tx w₁ := by
    simp only [tsxSendMsgWith, hf.idle, Bool.false_eq_true, if_false, if_neg hf.free, hdir]
    rw [if_neg (by simp [hrole])]
  rw [heq]
  obtain ⟨hok, hs, hidle⟩ := sendStateless_failed cb resend htx hrole
    (hsame.destroy.trans hp) (by rw [hsame.state]; exact hst) (by rw [hend]; exact hf.endpt)
  exact ⟨hok, hsame.trans hs, hidle⟩

/-! ## What the handler makes of it -/

def Silent (cb : World → World) : Prop := ∀ w, (cb w).tsx = w.tsx ∧ (cb w).busy = w.busy

lemma notifyUser_silent (hcb : Silent cb) (o : Obs) (w : World) :
    (notifyUser cb o w).tsx = w.tsx ∧ (notifyUser cb o w).busy = w.busy := by
  unfold notifyUser
  split_ifs
  · exact hcb _
  · exact ⟨rfl, rfl⟩

lemma tsxSetState_silent (hcb : Silent cb) (st : State) (hst : st.rank < 6) (w : World) :
    (tsxSetState cb st .txMsg .zero w).tsx = (enterState st w).tsx ∧
      (tsxSetState cb st .txMsg .zero w).busy = w.busy := by
  rw [tsxSetState_eq_notifyTu cb w st .txMsg hst]
  exact notifyUser_silent hcb _ (enterState st (w.log (.setState w.tsx.state st)))

def Unsaved (code : ℕ) (t : Tsx) : Prop :=
  200 ≤ code ∧ code < 300 ∧ t.method = .invite ∧ t.handle200resp = false

structure Taken (tx : TxData) (code : ℕ) (w w' : World) : Prop where
  status : w'.tsx.statusCode = code
  saved : ¬ Unsaved code w.tsx → w'.tsx.lastTx = some tx
  state : w'.tsx.state = if code < 200 then .proceeding else
    if code < 300 ∧ w.tsx.method = .invite ∧ w.tsx.handle200resp = false then .terminated
    else .completed

structure Ready (tx : TxData) (code : ℕ) (w w' : World) : Prop extends Taken tx code w w' where
  role : w'.tsx.role = w.tsx.role
  idle : ¬ Unsaved code w.tsx → w'.tsx.flag.pendingTransport = false
  busy : ¬ Unsaved code w.tsx → w'.busy = w.busy

lemma startRetransmit_silent (hp : w.tsx.flag.pendingTransport = false) :
    Same w (startRetransmit w) ∧ (startRetransmit w).tsx.flag.pendingTransport = false := by
  unfold startRetransmit
  dsimp only
  split_ifs with h
  · exact ⟨⟨rfl, rfl, rfl, rfl, rfl, rfl, rfl, rfl⟩, hp⟩
  · exact ⟨⟨rfl, rfl, rfl, rfl, rfl, rfl, rfl, rfl⟩, hp⟩

lemma proceedingUas1xx_taken (hcb : Silent cb) (tx : TxData)
    (hp : w.tsx.flag.pendingTransport = false) (hc : w.tsx.statusCode < 200) :
    Ready tx w.tsx.statusCode w (proceedingUas1xx cb tx w) := by
  obtain ⟨ht, hb⟩ := tsxSetState_silent hcb .proceeding (by simp) (setLastTx (some tx) w)
  have hset : Ready tx w.tsx.statusCode w
      (tsxSetState cb .proceeding .txMsg .zero (setLastTx (some tx) w)) := by
    refine ⟨⟨?_, fun _ => ?_, ?_⟩, ?_, fun _ => ?_, fun _ => hb⟩ <;> rw [ht]
    · rfl
    · rfl
    · rw [if_pos hc]
      rfl
    · rfl
    · exact hp
  have hnu : ¬ Unsaved w.tsx.statusCode w.tsx := fun h => absurd h.1 (by omega)
  unfold proceedingUas1xx
  dsimp only
  split_ifs with hinv
  · obtain ⟨hs, hi⟩ := startRetransmit_silent (w := cancelRetransmit
      (tsxSetState cb .proceeding .txMsg .zero (setLastTx (some tx) w))) (hset.idle hnu)
    exact ⟨⟨hs.statusCode.trans hset.status, fun h => hs.lastTx.trans (hset.saved h),
      hs.state.trans hset.state⟩, hs.role.trans hset.role, fun _ => hi,
      fun h => hs.busy.trans (hset.busy h)⟩
  · exact hset

lemma completed_taken (hcb : Silent cb) (tx : TxData) {v : World} (hs : Same w v)
    (hp : v.tsx.flag.pendingTransport = false) (hc : 200 ≤ w.tsx.statusCode)
    (hnu : ¬ Unsaved w.tsx.statusCode w.tsx) (id : TimerId) : Ready tx w.tsx.statusCode w
      (tsxSetState cb .completed .txMsg .zero (restartTimeout id (setLastTx (some tx) v))) := by
  obtain ⟨ht, hb⟩ := tsxSetState_silent hcb .completed (by simp)
    (restartTimeout id (setLastTx (some tx) v))
  have h1 : ¬ w.tsx.statusCode < 200 := by omega
  have h2 : ¬ (w.tsx.statusCode < 300 ∧ w.tsx.method = .invite ∧ w.tsx.handle200resp = false) :=
    fun h => hnu ⟨hc, h⟩
  refine ⟨⟨?_, fun _ => ?_, ?_⟩, ?_, fun _ => ?_, fun _ => hb.trans hs.busy⟩ <;> rw [ht]
  · exact hs.statusCode
  · rfl
  · rw [if_neg h1, if_neg h2]
    rfl
  · exact hs.role
  · exact hp

lemma cancelRetransmit_same (w : World) : Same w (cancelRetransmit w) :=
  ⟨rfl, rfl, rfl, rfl, rfl, rfl, rfl, rfl⟩

lemma proceedingUas2xx_taken (hcb : Silent cb) (tx : TxData)
    (hp : w.tsx.flag.pendingTransport = false) (h200 : 200 ≤ w.tsx.statusCode)
    (h300 : w.tsx.statusCode < 300) : Ready tx w.tsx.statusCode w (proceedingUas2xx cb tx w) := by
  have h1 : ¬ w.tsx.statusCode < 200 := by omega
  unfold proceedingUas2xx
  dsimp only
  split_ifs with hun hinv
  · have hu : Unsaved w.tsx.statusCode w.tsx := ⟨h200, h300, hun⟩
    obtain ⟨ht, -⟩ := notifyUser_silent hcb (.notify .terminated)
      (enterState .terminated ((cancelRetransmit w).log (.setState w.tsx.state .terminated)))
    obtain ⟨ptx, att, heq⟩ := onTerminated_eq false (notifyTu cb .txMsg
      (enterState .terminated ((cancelRetransmit w).log (.setState w.tsx.state .terminated))))
    have hres : (tsxSetState cb .terminated .txMsg .zero (cancelRetransmit w)) = onTerminated false
        (notifyTu cb .txMsg (enterState .terminated
          ((cancelRetransmit w).log (.setState w.tsx.state .terminated)))) := rfl
    have ht' : (notifyTu cb .txMsg (enterState .terminated
        ((cancelRetransmit w).log (.setState w.tsx.state .terminated)))).tsx =
        (enterState .terminated (cancelRetransmit w)).tsx := ht
    rw [hres, heq]
    refine ⟨⟨?_, fun h => absurd hu h, ?_⟩, ?_, fun h => absurd hu h, fun h => absurd hu h⟩ <;>
      simp only [ht']
    · rfl
    · rw [if_neg h1, if_pos ⟨h300, hun⟩]
      rfl
    · rfl
  · have hnu : ¬ Unsaved w.tsx.statusCode w.tsx := fun h => hun h.2.2
    obtain ⟨hs, hi⟩ := startRetransmit_silent (w := cancelRetransmit w) hp
    exact completed_taken hcb tx ((cancelRetransmit_same w).trans hs) hi h200 hnu .timeout
  · have hnu : ¬ Unsaved w.tsx.statusCode w.tsx := fun h => hun h.2.2
    exact completed_taken hcb tx (cancelRetransmit_same w) hp h200 hnu .timeout

lemma proceedingUasFailure_taken (hcb : Silent cb) (tx : TxData) (cseqMethod : Method)
    (hp : w.tsx.flag.pendingTransport = false) (h300 : 300 ≤ w.tsx.statusCode) :
    Ready tx w.tsx.statusCode w (proceedingUasFailure cb tx cseqMethod w) := by
  have hnu : ¬ Unsaved w.tsx.statusCode w.tsx := fun h => absurd h.2.1 (by omega)
  have h200 : 200 ≤ w.tsx.statusCode := by omega
  unfold proceedingUasFailure
  dsimp only
  split_ifs
  · have hcomm : startRetransmit (restartTimeout .timeout (setLastTx (some tx) (cancelRetransmit w))) =
        restartTimeout .timeout (setLastTx (some tx) (startRetransmit (cancelRetransmit w))) := by
      unfold startRetransmit
      simp [hp]
    obtain ⟨hs, hi⟩ := startRetransmit_silent (w := cancelRetransmit w) hp
    rw [hcomm]
    exact completed_taken hcb tx ((cancelRetransmit_same w).trans hs) hi h200 hnu .timeout
  · exact completed_taken hcb tx (cancelRetransmit_same w) hp h200 hnu .timeout

lemma Unsaved.congr {code : ℕ} {a b : Tsx} (hm : b.method = a.method)
    (hh : b.handle200resp = a.handle200resp) : Unsaved code b ↔ Unsaved code a := by
  unfold Unsaved
  rw [hm, hh]

lemma proceedingUasTx_failed (hcb : Silent cb) {code : StatusCode}
    {cseqMethod : Method} (htx : tx.msg = .response code cseqMethod)
    (hu : w.tsx.role = .uas) (hp : w.tsx.flag.pendingDestroy = false)
    (hst : w.tsx.state ≠ .terminated) (hf : FailsAtOnce tx w) : (proceedingUasTx cb tx w).2 = .success ∧
      Ready tx code.val w (proceedingUasTx cb tx w).1 := by
  have hreq : tx.isRequest = false := by simp [TxData.isRequest, htx]
  obtain ⟨v, hv, hrole, hmeth, h200, hstate, hcode, hdes, hbusy, hfail⟩ : ∃ v,
      proceedingUasPrepare tx code w = v ∧ v.tsx.role = w.tsx.role ∧
      v.tsx.method = w.tsx.method ∧ v.tsx.handle200resp = w.tsx.handle200resp ∧
      v.tsx.state = w.tsx.state ∧ v.tsx.statusCode = code.val ∧
      v.tsx.flag.pendingDestroy = w.tsx.flag.pendingDestroy ∧ v.busy = w.busy ∧
      FailsAtOnce tx v := by
    refine ⟨_, rfl, ?_⟩
    unfold proceedingUasPrepare
    dsimp only
    split_ifs <;> exact ⟨rfl, rfl, rfl, rfl, rfl, rfl, rfl, hf.idle, hf.free, hf.direct, hf.endpt⟩
  obtain ⟨hok, hsame, hidle⟩ := tsxSendMsgWith_failed cb
    (sendLastTx (tsxSendMsgDepth cb 0)) hreq (hrole.trans hu) (hdes.trans hp)
    (by rw [hstate]; exact hst) hfail
  have hsend : tsxSendMsg cb tx v =
      tsxSendMsgWith cb (sendLastTx (tsxSendMsgDepth cb 0)) tx v := rfl
  rw [← hsend] at hok hsame hidle
  generalize hr : tsxSendMsg cb tx v = r at hok hsame hidle
  have hsc : r.1.tsx.statusCode = code.val := hsame.statusCode.trans hcode
  have htrans : ∀ u : World, Ready tx r.1.tsx.statusCode r.1 u → Ready tx code.val w u := by
    intro u hready
    rw [hsc] at hready
    have hm : r.1.tsx.method = w.tsx.method := hsame.method.trans hmeth
    have hh : r.1.tsx.handle200resp = w.tsx.handle200resp := hsame.handle200resp.trans h200
    have hiff : Unsaved code.val r.1.tsx ↔ Unsaved code.val w.tsx := Unsaved.congr hm hh
    refine ⟨⟨hready.status, fun h => hready.saved (mt hiff.1 h), ?_⟩,
      hready.role.trans (hsame.role.trans hrole), fun h => hready.idle (mt hiff.1 h),
      fun h => (hready.busy (mt hiff.1 h)).trans (hsame.busy.trans hbusy)⟩
    rw [hready.state, hm, hh]
  simp only [proceedingUasTx, htx, hv, hr, hok, if_true]
  split_ifs with h1 h2
  · exact ⟨rfl, htrans _ (proceedingUas1xx_taken hcb tx hidle h1)⟩
  · exact ⟨rfl, htrans _ (proceedingUas2xx_taken hcb tx hidle (by omega) h2)⟩
  · exact ⟨rfl, htrans _ (proceedingUasFailure_taken hcb tx cseqMethod hidle (by omega))⟩

lemma tsxSendMsgApi_failed (hcb : Silent cb) {code : StatusCode}
    {cseqMethod : Method} (h : Core w) (htx : tx.msg = .response code cseqMethod)
    (hu : w.tsx.role = .uas) (hst : w.tsx.state = .trying ∨ w.tsx.state = .proceeding)
    (hf : FailsAtOnce tx w) : (tsxSendMsgApi cb (some tx) w).2 = .success ∧
      Ready tx code.val w (tsxSendMsgApi cb (some tx) w).1 := by
  have hp : w.tsx.flag.pendingDestroy = false := by
    by_contra hd
    have hdes := (h.destroy (by simpa using hd)).2
    rcases hst with hst | hst <;> simp [hst] at hdes
  have hnt : w.tsx.state ≠ .terminated := by
    rcases hst with hst | hst <;> simp [hst]
  obtain ⟨hok, hready⟩ := proceedingUasTx_failed hcb htx hu hp hnt hf
  have hne : (proceedingUasTx cb tx w).1.tsx.state ≠ .trying := by
    rw [hready.state]
    split_ifs <;> simp
  have heq : stateHandler cb (.txMsg tx) w = proceedingUasTx cb tx w := by
    rcases hst with hst | hst
    · have hh : w.tsx.stateHandler = some .trying := by
        rw [h.handler, hu, hst]
        rfl
      simp [stateHandler, hh, tsxOnStateTrying, hne]
    · have hh : w.tsx.stateHandler = some .proceedingUas := by
        rw [h.handler, hu, hst]
        rfl
      simp only [stateHandler, hh, tsxOnStateProceedingUas]
  have hor : (some tx).or w.tsx.lastTx = some tx := rfl
  simp only [tsxSendMsgApi, hor, heq]
  exact ⟨hok, ⟨hready.status, hready.saved, hready.state⟩, hready.role, hready.idle, hready.busy⟩

/-! ## The next request retransmission -/

lemma sendStateless_handed (hcb : CbOk cb) (hrs : Resends resend) (tx : TxData)
    (h : Wf w) : (.handed tx :: w.trace) <:+ (sendStateless cb resend tx w).1.trace := by
  have h₁ := sendBegin_wf tx h
  obtain ⟨env, henv⟩ := popEndpt_eq (sendBegin tx w)
  unfold sendStateless
  rcases hpop : (sendBegin tx w).popEndpt with ⟨r, w₁⟩
  have hw₁ : w₁ = { sendBegin tx w with env := env } := by
    rw [hpop] at henv
    exact henv
  have ht : w₁.trace = .handed tx :: w.trace := by
    rw [hw₁]
    rfl
  have hwf : Wf w₁ := by
    rw [hw₁]
    exact { h₁ with }
  rw [← ht]
  cases r with
  | refused e =>
    dsimp only
    unfold sendRefused
    split_ifs <;> exact List.suffix_refl _
  | run attempts last =>
    exact (runEndpt_sent hcb hrs tx true _ last hwf).1.le.trace

lemma tsxSendMsgWith_handed (hcb : CbOk cb) (hrs : Resends resend)
    (h : Wf w) (hu : w.tsx.role = .uas) (hp : w.tsx.flag.pendingTransport = false)
    (hb : tx ∉ w.busy) : (.handed tx :: w.trace) <:+ (tsxSendMsgWith cb resend tx w).1.trace := by
  obtain ⟨hsent, -, -⟩ := sendDirect_sent tx h hp
  have hdirect := sendDirect_cases tx w
  unfold tsxSendMsgWith
  rw [if_neg (by simp [hp]), if_neg hb]
  generalize sendDirect tx w = r at hsent hdirect ⊢
  cases hdirect with
  | noTransport =>
    dsimp only
    rw [if_neg (by simp [hu])]
    exact sendStateless_handed hcb hrs tx h
  | pending => exact List.suffix_refl _
  | sent => exact List.suffix_refl _
  | failed env e =>
    dsimp only
    rw [if_neg (by rw [hsent.le.role, hu]; simp)]
    exact (List.suffix_cons _ _).trans (sendStateless_handed hcb hrs tx hsent.wf)

lemma stateHandler_handed (hcb : CbOk cb) {m : Method} (h : Wf w)
    (hu : w.tsx.role = .uas) (hst : w.tsx.state = .proceeding ∨ w.tsx.state = .completed)
    (hl : w.tsx.lastTx = some tx) (hreq : tx.isRequest = false) (hm : m ≠ .ack)
    (hp : w.tsx.flag.pendingTransport = false) (hb : tx ∉ w.busy) :
    (.handed tx :: w.trace) <:+ (stateHandler cb (.rxMsg (.request m)) w).1.trace := by
  have hsend : ∀ v : World, Wf v → v.tsx.role = .uas → v.tsx.flag.pendingTransport = false →
      tx ∉ v.busy → (.handed tx :: v.trace) <:+ (tsxSendMsg cb tx v).1.trace :=
    fun v hv hru hpt hbt => tsxSendMsgWith_handed hcb
      (sendLastTx_resends fun tx w h hd => tsxSendMsgDepth_spec hcb 0 tx h hd) hv hru hpt hbt
  rcases hst with hst | hst
  · have hh : w.tsx.stateHandler = some .proceedingUas := by
      rw [h.handler, hu, hst]
      rfl
    simp only [stateHandler, hh, tsxOnStateProceedingUas, hl, hp, Bool.false_eq_true, if_false]
    exact hsend w h hu hp hb
  · have hh : w.tsx.stateHandler = some .completedUas := by
      rw [h.handler, hu, hst]
      rfl
    have heq : (stateHandler cb (.rxMsg (.request m)) w).1 =
        (tsxSendMsg cb tx (retransmitBegin false w)).1 := by
      simp [stateHandler, hh, tsxOnStateCompletedUas, hm, tsxRetransmit, hl, hreq]
    rw [heq]
    have f := retransmitBegin_frame false w
    exact hsend (retransmitBegin false w) (f.sent h).wf (f.role.trans hu)
      (f.pendingTransport.trans hp) hb

/-- In every run: when no transport takes a response of a UAS in TRYING or PROCEEDING,
`pjsip_tsx_send_msg` reports success, and the response is from then on the last one, as
if it had been sent. The next repeated request is answered with it. -/
theorem failed_response_taken {w₀ : World} (h : Created w₀) (es : List (Input × Env))
    {tx : TxData} {code : StatusCode} {cseqMethod : Method} (env : Env)
    (htx : tx.msg = .response code cseqMethod) (hu : (run step w₀ es).tsx.role = .uas)
    (hst : (run step w₀ es).tsx.state = .trying ∨ (run step w₀ es).tsx.state = .proceeding)
    (hf : FailsAtOnce tx { run step w₀ es with env := env }) (htu : env.tu = []) :
    let w := run step w₀ es
    let w' := step w (.tu (.sendMsg (some tx)), env)
    (∃ n, w'.trace.head? = some (.tuSend n tx false .success)) ∧ Taken tx code.val w w' ∧
    (¬ Unsaved code.val w.tsx → ∀ (m : Method) (env' : Env), m ≠ .ack →
      ∃ new, (step w' (.recv (.request m), env')).trace = new ++ w'.trace ∧
        Obs.handed tx ∈ new) := by
  intro w w'
  have hwf : Wf w := run_wf h es
  have hlog : Core ({ w with env := env }.log (.call (.sendMsg (some tx)) w.tsx env)) :=
    (((env_frame env w).trans (log_plain_frame { w with env := env } rfl)).sound hwf).wf.toCore
  have hsilent : Silent (tuCallback 0) := fun _ => ⟨rfl, rfl⟩
  obtain ⟨hok, hready⟩ := tsxSendMsgApi_failed hsilent hlog htx hu hst
    ⟨hf.idle, hf.free, hf.direct, hf.endpt⟩
  have hw' : w' = (tsxSendMsgApi (tuCallback 0) (some tx)
      ({ w with env := env }.log (.call (.sendMsg (some tx)) w.tsx env))).1 := by
    simp only [w', step, handleInput, tuCall, htu, List.length_nil]
  refine ⟨?_, ?_, ?_⟩
  · have hidle : w.tsx.flag.pendingTransport = false := hf.idle
    have hor : (some tx).or w.tsx.lastTx = some tx := rfl
    rw [hw']
    simp only [tsxSendMsgApi, World.log, hor, hidle] at hok ⊢
    exact ⟨_, by rw [List.head?_cons, hok]⟩
  · rw [hw']
    exact ⟨hready.status, hready.saved, hready.state⟩
  · intro hnu m env' hm
    have hwf' : Wf w' := (step_forward _ hwf).1
    have hstate : w'.tsx.state = .proceeding ∨ w'.tsx.state = .completed := by
      rw [hw', hready.state]
      split_ifs with h1 h2
      · exact .inl rfl
      · exact absurd ⟨by omega, h2⟩ hnu
      · exact .inr rfl
    have hrole : w'.tsx.role = .uas := by
      rw [hw', hready.role]
      exact hu
    have hlast : w'.tsx.lastTx = some tx := by
      rw [hw']
      exact hready.saved hnu
    have hidle : w'.tsx.flag.pendingTransport = false := by
      rw [hw']
      exact hready.idle hnu
    have hbusy : tx ∉ w'.busy := by
      rw [hw', hready.busy hnu]
      exact hf.free
    obtain ⟨new, hnew⟩ := stateHandler_handed (tuCallback_ok env'.tu.length) (m := m)
      ((env_frame env' w').sound hwf').wf hrole hstate hlast (by simp [TxData.isRequest, htx]) hm
      hidle hbusy
    exact ⟨new ++ [.handed tx], by rw [List.append_assoc]; exact hnew.symm, by simp⟩

def ringingUas : World := createUas ⟨500, 4000, none⟩ .invite true false (some ⟨1, false, false⟩)

def ringing : TxData := ⟨0, .response ⟨180, by omega, by omega⟩ .invite⟩

def progress : TxData := ⟨1, .response ⟨183, by omega, by omega⟩ .invite⟩

def ringingRun : List (Input × Env) :=
  [(.recv (.request .invite), .empty), (.tu (.sendMsg (some ringing)), .empty)]

def noTransport : Env := ⟨[.failed .other], [.run [] (.failed .other none)], [], []⟩

theorem failed_response_taken_progress : Taken progress 183 (run step ringingUas ringingRun)
      (step (run step ringingUas ringingRun) (.tu (.sendMsg (some progress)), noTransport)) :=
  (failed_response_taken
    (.uas ⟨500, 4000, none⟩ .invite true false (some ⟨1, false, false⟩) (by decide))
    ringingRun noTransport
    (show progress.msg = .response ⟨183, by omega, by omega⟩ .invite from rfl) (by decide) (.inr (by decide))
    ⟨by decide, by decide, fun _ => ⟨.other, [], rfl⟩, ⟨[], none, [], rfl⟩⟩ rfl).2.1

/-- The 183 that could not be sent replaces the 180 that was. -/
theorem failed_send_replaces_last :
    let w := run step ringingUas ringingRun
    let w' := step w (.tu (.sendMsg (some progress)), noTransport)
    Created ringingUas ∧ w.tsx.role = .uas ∧ w.tsx.state = .proceeding ∧
    FailsAtOnce progress { w with env := noTransport } ∧ w'.tsx.state ≠ .terminated ∧
    w.tsx.lastTx = some ringing ∧ w'.tsx.lastTx = some progress ∧
    w'.tsx.statusCode ≠ w.tsx.statusCode :=
  ⟨.uas ⟨500, 4000, none⟩ .invite true false (some ⟨1, false, false⟩) (by decide), by decide,
    by decide, ⟨by decide, by decide, fun _ => ⟨.other, [], rfl⟩, ⟨[], none, [], rfl⟩⟩, by decide,
    by decide, by decide, by decide⟩

end PjProject.Transaction
