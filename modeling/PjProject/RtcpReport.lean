import PjProject.Rtcp

/-!
# Loss reports

The counts that a report block is built from. They are those of the packets as long as no
report is built on the provisional numbers of a source in probation, fewer than `2^24` packets
are lost between two reports, and neither the packets nor the cycles are too many to be counted.
-/
namespace PjProject.Rtcp

open Rtp Transition

/-- The outcomes of `pjmedia_rtp_seq_update`. -/
inductive Updated (sess : SeqSession) (seq : UInt16) : SeqSession × Status → Prop
  | sequential (hp : sess.probation ≠ 0) (hmore : sess.probation - 1 ≠ 0) :
    Updated sess seq ({ sess with probation := sess.probation - 1, maxSeq := seq },
      { probation := true, diff := 1 })
  | valid (hp : sess.probation ≠ 0) :
    Updated sess seq ({ sess with probation := 0, maxSeq := seq, baseSeq := seq.toUInt32 },
      { probation := true, diff := 1 })
  | provisional (hp : sess.probation ≠ 0) (dup outorder : Bool) :
    Updated sess seq ({ sess with probation := 1, maxSeq := seq },
      { probation := true, bad := true, dup := dup, outorder := outorder })
  | ahead (hp : sess.probation = 0) (hne : seq ≠ sess.maxSeq)
    (hgap : (seq - sess.maxSeq).toNat < maxDropout) :
    Updated sess seq ({ sess with
      cycles := if seq < sess.maxSeq then sess.cycles + UInt32.ofNat seqMod else sess.cycles
      maxSeq := seq }, { diff := seq - sess.maxSeq })
  | old (hp : sess.probation = 0) (dup outorder : Bool) :
    Updated sess seq (sess, { dup := dup, outorder := outorder })
  | restart (hp : sess.probation = 0) :
    Updated sess seq (sess.seqRestart seq, { restart := true, probation := true, diff := 1 })
  | jump (hp : sess.probation = 0) (badSeq : UInt32) :
    Updated sess seq ({ sess with badSeq := badSeq }, { bad := true, outorder := true })

lemma seqUpdate_cases (sess : SeqSession) (seq : UInt16) : Updated sess seq (sess.seqUpdate seq) := by
  unfold SeqSession.seqUpdate
  dsimp only
  by_cases hp : sess.probation = 0
  · rw [if_neg (by simp [hp])]
    split
    · exact .old hp true false
    · rename_i hdup
      split
      · rename_i hgap
        exact .ahead hp (fun h => hdup (h ▸ UInt16.sub_self seq)) hgap
      · split_ifs
        · exact .restart hp
        · exact .jump hp _
        · exact .old hp false true
  · rw [if_pos hp]
    split_ifs with hseq hlast
    · rw [hlast]
      exact .valid hp
    · exact .sequential hp hlast
    · exact .provisional hp _ _

section Counts

variable (sess : Session) (st : Status) (rtpTs arrival : UInt32)

lemma updateJitter_counts : (sess.updateJitter rtpTs arrival).seqCtrl = sess.seqCtrl ∧
    (sess.updateJitter rtpTs arrival).received = sess.received ∧
    (sess.updateJitter rtpTs arrival).expPrior = sess.expPrior ∧
    (sess.updateJitter rtpTs arrival).rxPrior = sess.rxPrior ∧
    (sess.updateJitter rtpTs arrival).rx.pkt = sess.rx.pkt := by
  unfold Session.updateJitter
  split_ifs <;> exact ⟨rfl, rfl, rfl, rfl, rfl⟩

lemma rxGood_counts : (sess.rxGood st rtpTs arrival).seqCtrl = sess.seqCtrl ∧
    (sess.rxGood st rtpTs arrival).received = (if st.probation then sess.received else sess.received + 1) ∧
    (sess.rxGood st rtpTs arrival).expPrior = sess.expPrior ∧
    (sess.rxGood st rtpTs arrival).rxPrior = sess.rxPrior ∧
    (sess.rxGood st rtpTs arrival).rx.pkt = sess.rx.pkt := by
  unfold Session.rxGood
  dsimp only
  split_ifs <;> simp [updateJitter_counts, Session.updateLoss]

end Counts

lemma rxRtp2_counts {sess : Session} {seq : UInt32} {ctrl : SeqSession} {st : Status}
    (h : (sess.rxSeqCtrl seq.toUInt16).seqUpdate seq.toUInt16 = (ctrl, st)) (rtpTs payload arrival : UInt32) :
    (sess.rxRtp2 seq rtpTs payload arrival).seqCtrl = ctrl ∧
    (sess.rxRtp2 seq rtpTs payload arrival).rx.pkt = sess.rx.pkt + 1 ∧
    (sess.rxRtp2 seq rtpTs payload arrival).received =
      (if st.bad || st.probation then (if st.restart then 0 else sess.received)
        else (if st.restart then 0 else sess.received) + 1) ∧
    (sess.rxRtp2 seq rtpTs payload arrival).expPrior = (if st.restart then 0 else sess.expPrior) ∧
    (sess.rxRtp2 seq rtpTs payload arrival).rxPrior = (if st.restart then 0 else sess.rxPrior) := by
  unfold Session.rxRtp2
  dsimp only
  rw [h]
  dsimp only
  cases hb : st.bad <;> cases hr : st.restart <;> cases hp : st.probation <;>
    simp [rxGood_counts, hp, Session.rxCount, Session.initSeq]

/-- The packets expected, `cycles + max_seq - base_seq`, with no wrap-around. -/
def expectedCount (ctrl : SeqSession) : ℤ := ctrl.cycles.toNat + ctrl.maxSeq.toNat - ctrl.baseSeq.toNat

namespace Session

def expectedSince (sess : Session) : ℤ := expectedCount sess.seqCtrl - sess.expPrior.toNat

def receivedSince (sess : Session) : ℤ := sess.received.toNat - sess.rxPrior.toNat

def lostSince (sess : Session) : ℤ := max 0 (sess.expectedSince - sess.receivedSince)

end Session

/-- A report built in this state is made of true counts: neither has decreased since the report
before it, nothing wraps around, and the fraction lost is what it should be. -/
structure TrueReport (sess : Session) (report : Report) : Prop where
  expected : (sess.expected.toNat : ℤ) = expectedCount sess.seqCtrl
  expectedSince : (sess.expectedInterval.toNat : ℤ) = sess.expectedSince ∧ 0 ≤ sess.expectedSince
  receivedSince : (sess.receivedInterval.toNat : ℤ) = sess.receivedSince ∧ 0 ≤ sess.receivedSince
  lostSince : (sess.lostInterval.toNat : ℤ) = sess.lostSince ∧ 256 * sess.lostSince < 2 ^ 32
  fractLost : (report.fractLost.toNat : ℤ) = 256 * sess.lostSince / sess.expectedSince ∧
    256 * sess.lostSince / sess.expectedSince ≤ 255

def WrapsCycles (ctrl : SeqSession) (seq : UInt16) : Prop :=
  ctrl.cycles = 0xFFFF0000 ∧ (seq - ctrl.maxSeq).toNat < maxDropout ∧ seq < ctrl.maxSeq

instance (ctrl : SeqSession) (seq : UInt16) : Decidable (WrapsCycles ctrl seq) :=
  inferInstanceAs (Decidable (_ ∧ _ ∧ _))

def Recounts (sess : Session) : Prop := sess.rx.pkt = 0 ∧ (sess.received ≠ 0 ∨ sess.expPrior ≠ 0)

instance (sess : Session) : Decidable (Recounts sess) := inferInstanceAs (Decidable (_ ∧ _))

/-- What the code relies on: no report on provisional numbers, fewer than `2^24` packets lost
between two reports, and no counter that wraps around. -/
def Safe (sess : Session) : Event → Prop
  | .rxRtp seq _ _ _ => ¬ Recounts sess ∧ ¬ WrapsCycles sess.seqCtrl seq.toUInt16
  | .txRtp _ => True
  | .report _ =>
    (sess.seqCtrl.probation ≠ 0 → sess.seqCtrl.maxSeq.toUInt32 = sess.seqCtrl.baseSeq) ∧
    sess.expectedSince - sess.receivedSince < 2 ^ 24

instance (sess : Session) (e : Event) : Decidable (Safe sess e) :=
  match e with
  | .rxRtp seq _ _ _ =>
    inferInstanceAs (Decidable (¬ Recounts sess ∧ ¬ WrapsCycles sess.seqCtrl seq.toUInt16))
  | .txRtp _ => .isTrue trivial
  | .report _ => inferInstanceAs (Decidable
    ((sess.seqCtrl.probation ≠ 0 → sess.seqCtrl.maxSeq.toUInt32 = sess.seqCtrl.baseSeq) ∧
      sess.expectedSince - sess.receivedSince < 2 ^ 24))

/-- What holds between the events of the sequence control, the number of packets, and the counts
of the session. -/
structure Inv (ctrl : SeqSession) (pkt received expPrior rxPrior : UInt32) : Prop where
  cycles : ctrl.cycles.toNat % 65536 = 0
  counted : pkt ≠ 0 → received.toNat < pkt.toNat
  provisional : ctrl.probation ≠ 0 → ctrl.cycles = 0 ∧ received = 0 ∧ expPrior = 0
  expected : ctrl.probation = 0 → (expPrior.toNat : ℤ) ≤ expectedCount ctrl
  reported : rxPrior.toNat ≤ received.toNat
  advanced : ctrl.probation = 0 → (expPrior.toNat : ℤ) < expectedCount ctrl →
    rxPrior.toNat < received.toNat

def Session.Sound (sess : Session) : Prop :=
  Inv sess.seqCtrl sess.rx.pkt sess.received sess.expPrior sess.rxPrior

lemma sound_init (tsFreq : UInt64) : (init2 tsFreq).Sound :=
  ⟨rfl, fun h => absurd rfl h, fun h => absurd rfl h, fun _ => le_rfl, le_rfl,
    fun _ h => absurd h (lt_irrefl _)⟩

section Packet

variable {ctrl ctrl' : SeqSession} {seq : UInt16} {pkt received expPrior rxPrior : UInt32} {st : Status}

lemma add_one_toNat {a b : UInt32} (h : a.toNat < b.toNat) : (a + 1).toNat = a.toNat + 1 := by
  have := b.toNat_lt
  rw [UInt32.toNat_add, UInt32.toNat_one]
  omega

lemma toNat_of_add_one {a : UInt32} (hne : a + 1 ≠ 0) : (a + 1).toNat = a.toNat + 1 := by
  have hmax : a.toNat ≠ 2 ^ 32 - 1 := by
    intro heq
    exact hne (UInt32.toNat_inj.mp (by rw [UInt32.toNat_add, heq]; rfl))
  have := a.toNat_lt
  rw [UInt32.toNat_add, UInt32.toNat_one]
  omega

lemma Inv.counted_next (h : Inv ctrl pkt received expPrior rxPrior) (h0 : pkt = 0 → received = 0)
    (hne : pkt + 1 ≠ 0) : received.toNat < (pkt + 1).toNat := by
  rw [toNat_of_add_one hne]
  by_cases hz : pkt = 0
  · rw [h0 hz, UInt32.toNat_zero]
    omega
  · exact (h.counted hz).trans (Nat.lt_succ_self _)

lemma expectedCount_ahead (hc : ctrl.cycles.toNat % 65536 = 0) (hne : seq ≠ ctrl.maxSeq)
    (hgap : (seq - ctrl.maxSeq).toNat < maxDropout) (hw : ¬ WrapsCycles ctrl seq) :
    let cycles := if seq < ctrl.maxSeq then ctrl.cycles + UInt32.ofNat seqMod else ctrl.cycles
    cycles.toNat % 65536 = 0 ∧
      ctrl.cycles.toNat + ctrl.maxSeq.toNat < cycles.toNat + seq.toNat := by
  have hs := seq.toNat_lt
  have hm := ctrl.maxSeq.toNat_lt
  have hcl := ctrl.cycles.toNat_lt
  have hnat : seq.toNat ≠ ctrl.maxSeq.toNat := fun h => hne (UInt16.toNat_inj.mp h)
  dsimp only
  split_ifs with hlt
  · have hroom : ctrl.cycles.toNat ≠ 0xFFFF0000 := by
      intro heq
      exact hw ⟨UInt32.toNat_inj.mp heq, hgap, hlt⟩
    rw [UInt32.toNat_add, show (UInt32.ofNat seqMod).toNat = 65536 from rfl]
    omega
  · rw [UInt16.lt_iff_toNat_lt] at hlt
    exact ⟨hc, by omega⟩

lemma Inv.skipped (h : Inv ctrl pkt received expPrior rxPrior) (h0 : pkt = 0 → received = 0)
    (badSeq : UInt32) : Inv { ctrl with badSeq := badSeq } (pkt + 1) received expPrior rxPrior :=
  ⟨h.cycles, h.counted_next h0, h.provisional, h.expected, h.reported, h.advanced⟩

lemma Inv.old (h : Inv ctrl pkt received expPrior rxPrior) (hp : ctrl.probation = 0) (hpkt : pkt ≠ 0) :
    Inv ctrl (pkt + 1) (received + 1) expPrior rxPrior := by
  have hone := add_one_toNat (h.counted hpkt)
  refine ⟨h.cycles, fun hne => ?_, fun hne => absurd hp hne, h.expected, ?_, fun _ hlt => ?_⟩
  · rw [hone, toNat_of_add_one hne]
    exact Nat.succ_lt_succ (h.counted hpkt)
  · rw [hone]
    exact h.reported.trans (Nat.le_succ _)
  · rw [hone]
    exact (h.advanced hp hlt).trans (Nat.lt_succ_self _)

lemma Inv.ahead (h : Inv ctrl pkt received expPrior rxPrior) (hp : ctrl.probation = 0) (hpkt : pkt ≠ 0)
    {cycles : UInt32} (hc : cycles.toNat % 65536 = 0)
    (hlt : ctrl.cycles.toNat + ctrl.maxSeq.toNat < cycles.toNat + seq.toNat) :
    Inv { ctrl with cycles := cycles, maxSeq := seq } (pkt + 1) (received + 1) expPrior rxPrior := by
  have hone := add_one_toNat (h.counted hpkt)
  have hexp := h.expected hp
  have hmore : expectedCount ctrl < expectedCount { ctrl with cycles := cycles, maxSeq := seq } := by
    simp only [expectedCount]
    omega
  refine ⟨hc, fun hne => ?_, fun hne => absurd hp hne, fun _ => hexp.trans hmore.le, ?_, fun _ _ => ?_⟩
  · rw [hone, toNat_of_add_one hne]
    exact Nat.succ_lt_succ (h.counted hpkt)
  · rw [hone]
    exact h.reported.trans (Nat.le_succ _)
  · rw [hone]
    exact Nat.lt_succ_of_le h.reported

lemma inv_start (hc : ctrl.cycles = 0) (hm : ctrl.maxSeq = seq) (hb : ctrl.baseSeq = seq.toUInt32)
    (hpkt : pkt ≠ 0 → 0 < pkt.toNat) : Inv ctrl pkt 0 0 0 := by
  have hzero : expectedCount ctrl = 0 := by
    simp [expectedCount, hc, hm, hb]
  refine ⟨by rw [hc]; rfl, hpkt, fun _ => ⟨hc, rfl, rfl⟩, fun _ => ?_, le_rfl, fun _ hlt => ?_⟩
  · rw [hzero]
    rfl
  · rw [hzero] at hlt
    exact absurd hlt (lt_irrefl _)

lemma Inv.update (h : Inv ctrl pkt received expPrior rxPrior) (h0 : pkt = 0 → ctrl.probation ≠ 0)
    (hw : ¬ WrapsCycles ctrl seq) (hu : Updated ctrl seq (ctrl', st)) : Inv ctrl' (pkt + 1)
      (if st.bad || st.probation then (if st.restart then 0 else received)
        else (if st.restart then 0 else received) + 1)
      (if st.restart then 0 else expPrior) (if st.restart then 0 else rxPrior) := by
  have hzero : pkt = 0 → received = 0 := fun hz => (h.provisional (h0 hz)).2.1
  have hpos : pkt + 1 ≠ 0 → 0 < (pkt + 1).toNat := fun hne => by
    rw [toNat_of_add_one hne]
    exact Nat.succ_pos _
  have hpkt : ctrl.probation = 0 → pkt ≠ 0 := fun hp hz => h0 hz hp
  have hprior : ctrl.probation ≠ 0 → rxPrior = 0 := by
    intro hp
    have hle := h.reported
    rw [(h.provisional hp).2.1, UInt32.toNat_zero] at hle
    exact UInt32.toNat_inj.mp (Nat.le_zero.mp hle)
  cases hu with
  | sequential hp hmore =>
    exact ⟨h.cycles, h.counted_next hzero, fun _ => h.provisional hp, fun h' => absurd h' hmore, h.reported,
      fun h' => absurd h' hmore⟩
  | valid hp =>
    obtain ⟨h1, h2, h3⟩ := h.provisional hp
    simp only [h2, h3, hprior hp]
    exact inv_start h1 rfl rfl hpos
  | provisional hp =>
    have hne : (1 : UInt32) ≠ 0 := by decide
    exact ⟨h.cycles, h.counted_next hzero, fun _ => h.provisional hp, fun h' => absurd h' hne, h.reported,
      fun h' => absurd h' hne⟩
  | ahead hp hne hgap =>
    obtain ⟨hc, hlt⟩ := expectedCount_ahead h.cycles hne hgap hw
    exact h.ahead hp (hpkt hp) hc hlt
  | old hp => exact h.old hp (hpkt hp)
  | restart => exact inv_start rfl rfl rfl hpos
  | jump => exact h.skipped hzero _

end Packet

lemma Session.Sound.rxRtp2 {sess : Session} {seq : UInt32} (h : sess.Sound) (hr : ¬ Recounts sess)
    (hw : ¬ WrapsCycles sess.seqCtrl seq.toUInt16) (rtpTs payload arrival : UInt32) :
    (sess.rxRtp2 seq rtpTs payload arrival).Sound := by
  have hfound : Inv (sess.rxSeqCtrl seq.toUInt16) sess.rx.pkt sess.received sess.expPrior sess.rxPrior ∧
      (sess.rx.pkt = 0 → (sess.rxSeqCtrl seq.toUInt16).probation ≠ 0) ∧
      ¬ WrapsCycles (sess.rxSeqCtrl seq.toUInt16) seq.toUInt16 := by
    unfold Session.rxSeqCtrl
    by_cases hpkt : sess.rx.pkt = 0
    · have hprob : minSequential ≠ 0 := by decide
      rw [if_pos hpkt]
      refine ⟨⟨rfl, fun hne => absurd hpkt hne, fun _ => ⟨rfl, ?_, ?_⟩, fun hp => absurd hp hprob, h.reported,
        fun hp => absurd hp hprob⟩, fun _ => hprob, fun hc => absurd hc.1 (show (0 : UInt32) ≠ _ by decide)⟩
      · by_contra hne
        exact hr ⟨hpkt, .inl hne⟩
      · by_contra hne
        exact hr ⟨hpkt, .inr hne⟩
    · rw [if_neg hpkt]
      exact ⟨h, fun hz => absurd hz hpkt, hw⟩
  obtain ⟨hinv, hz, hwraps⟩ := hfound
  have hu := seqUpdate_cases (sess.rxSeqCtrl seq.toUInt16) seq.toUInt16
  generalize hupd : (sess.rxSeqCtrl seq.toUInt16).seqUpdate seq.toUInt16 = r at hu
  obtain ⟨ctrl, st⟩ := r
  obtain ⟨hctrl, hpkt, hrec, hexp, hrx⟩ := rxRtp2_counts hupd rtpTs payload arrival
  unfold Session.Sound
  rw [hctrl, hpkt, hrec, hexp, hrx]
  exact hinv.update hz hwraps hu

lemma and_mask {c : UInt32} (h : c.toNat % 65536 = 0) : c &&& 0xFFFF0000 = c := by
  obtain ⟨q, hq⟩ := Nat.dvd_of_mod_eq_zero h
  have hlt : q < 2 ^ 16 := by
    have := c.toNat_lt
    omega
  have hc : c.toNat = q <<< 16 := by rw [Nat.shiftLeft_eq, hq, mul_comm]
  apply UInt32.toNat_inj.mp
  rw [UInt32.toNat_and, hc, show (0xFFFF0000 : UInt32).toNat = 0xFFFF <<< 16 from rfl,
    ← Nat.shiftLeft_and_distrib, show (0xFFFF : ℕ) = 2 ^ 16 - 1 from rfl,
    Nat.and_two_pow_sub_one_eq_mod, Nat.mod_eq_of_lt hlt]

section Build

variable {sess : Session} {clock : Clock}

lemma expected_toNat (hc : sess.seqCtrl.cycles.toNat % 65536 = 0) (hnonneg : 0 ≤ expectedCount sess.seqCtrl) :
    (sess.expected.toNat : ℤ) = expectedCount sess.seqCtrl := by
  have hm := sess.seqCtrl.maxSeq.toNat_lt
  have hcl := sess.seqCtrl.cycles.toNat_lt
  have hb := sess.seqCtrl.baseSeq.toNat_lt
  unfold expectedCount at *
  rw [Session.expected, Session.lastSeq, and_mask hc, UInt32.toNat_sub, UInt32.toNat_add,
    UInt16.toNat_toUInt32]
  omega

structure Ready (sess : Session) : Prop where
  cycles : sess.seqCtrl.cycles.toNat % 65536 = 0
  expected : (sess.expPrior.toNat : ℤ) ≤ expectedCount sess.seqCtrl
  received : sess.rxPrior.toNat ≤ sess.received.toNat
  advanced : (sess.expPrior.toNat : ℤ) < expectedCount sess.seqCtrl → sess.rxPrior.toNat < sess.received.toNat

lemma Session.Sound.ready (h : sess.Sound)
    (hprob : sess.seqCtrl.probation ≠ 0 → sess.seqCtrl.maxSeq.toUInt32 = sess.seqCtrl.baseSeq) : Ready sess := by
  by_cases hp : sess.seqCtrl.probation = 0
  · exact ⟨h.cycles, h.expected hp, h.reported, h.advanced hp⟩
  · obtain ⟨hc, -, he⟩ := h.provisional hp
    have hzero : expectedCount sess.seqCtrl = 0 := by
      rw [expectedCount, hc, ← hprob hp, UInt16.toNat_toUInt32, UInt32.toNat_zero]
      omega
    refine ⟨h.cycles, ?_, h.reported, fun hlt => ?_⟩ <;> rw [hzero, he] at *
    · rfl
    · exact absurd hlt (lt_irrefl _)

lemma Ready.expected_eq (h : Ready sess) : (sess.expected.toNat : ℤ) = expectedCount sess.seqCtrl :=
  expected_toNat h.cycles ((Int.natCast_nonneg _).trans h.expected)

lemma sub_toNat {a b : UInt32} (h : b.toNat ≤ a.toNat) : (a - b).toNat = a.toNat - b.toNat := by
  have ha := a.toNat_lt
  have hb := b.toNat_lt
  rw [UInt32.toNat_sub]
  omega

lemma Ready.intervals (h : Ready sess) : (sess.expectedInterval.toNat : ℤ) = sess.expectedSince ∧
      (sess.receivedInterval.toNat : ℤ) = sess.receivedSince ∧
      (sess.lostInterval.toNat : ℤ) = sess.lostSince := by
  have he := h.expected_eq
  have hle := h.expected
  have hrec := h.received
  have hexp : (sess.expectedInterval.toNat : ℤ) = sess.expectedSince := by
    rw [Session.expectedInterval, sub_toNat (by omega), Session.expectedSince]
    omega
  have hrx : (sess.receivedInterval.toNat : ℤ) = sess.receivedSince := by
    rw [Session.receivedInterval, sub_toNat hrec, Session.receivedSince]
    omega
  refine ⟨hexp, hrx, ?_⟩
  unfold Session.lostInterval Session.lostSince
  split_ifs with hge
  · have := UInt32.le_iff_toNat_le.mp hge
    rw [sub_toNat this]
    omega
  · have := UInt32.le_iff_toNat_le.not.mp hge
    rw [UInt32.toNat_zero]
    omega

lemma fraction_le {lost expected : ℤ} (h : 0 < expected → lost < expected)
    (he : 0 ≤ expected) : 256 * lost / expected ≤ 255 := by
  rcases he.lt_or_eq with hpos | hzero
  · have := h hpos
    rw [Int.ediv_le_iff_le_mul hpos]
    omega
  · rw [← hzero, Int.ediv_zero]
    omega

lemma Ready.report (h : Ready sess) (hlost : sess.expectedSince - sess.receivedSince < 2 ^ 24)
    (clock : Clock) : TrueReport sess (sess.buildRtcp clock).2 := by
  obtain ⟨hexp, hrx, hlostEq⟩ := h.intervals
  have h0 : 0 ≤ sess.expectedSince := hexp ▸ Int.natCast_nonneg _
  have h1 : 0 ≤ sess.receivedSince := hrx ▸ Int.natCast_nonneg _
  have hsmall : 256 * sess.lostSince < 2 ^ 32 := by
    unfold Session.lostSince
    omega
  have hless : 0 < sess.expectedSince → sess.lostSince < sess.expectedSince := by
    intro hpos
    have hadv := h.advanced (by unfold Session.expectedSince at hpos; omega)
    unfold Session.lostSince Session.receivedSince
    omega
  have hle := fraction_le hless h0
  refine ⟨h.expected_eq, ⟨hexp, h0⟩, ⟨hrx, h1⟩, ⟨hlostEq, hsmall⟩, ?_, hle⟩
  change ((sess.fractLost).toNat : ℤ) = _
  unfold Session.fractLost
  split_ifs with hzero
  · rcases hzero with hz | hz
    · rw [← hexp, hz, UInt32.toNat_zero, Nat.cast_zero, Int.ediv_zero]
      rfl
    · rw [← hlostEq, hz, UInt32.toNat_zero, Nat.cast_zero, mul_zero, Int.zero_ediv]
      rfl
  · have hshift : (sess.lostInterval <<< 8).toNat = 256 * sess.lostInterval.toNat := by
      rw [UInt32.toNat_shiftLeft, show (8 : UInt32).toNat % 32 = 8 from rfl, Nat.shiftLeft_eq]
      omega
    have hdiv : (((sess.lostInterval <<< 8) / sess.expectedInterval).toNat : ℤ) =
        256 * sess.lostSince / sess.expectedSince := by
      rw [UInt32.toNat_div, hshift, Int.natCast_ediv, Nat.cast_mul, hexp, hlostEq]
      rfl
    rw [UInt32.toNat_toUInt8]
    omega

lemma Session.Sound.report (h : sess.Sound)
    (hprob : sess.seqCtrl.probation ≠ 0 → sess.seqCtrl.maxSeq.toUInt32 = sess.seqCtrl.baseSeq) (clock : Clock) :
    (sess.buildRtcp clock).1.Sound := by
  have hexp := (h.ready hprob).expected_eq
  refine ⟨h.cycles, h.counted, fun hp => ?_, fun _ => hexp.le, le_rfl, fun _ hlt => ?_⟩
  · obtain ⟨hc, hr, -⟩ := h.provisional hp
    refine ⟨hc, hr, ?_⟩
    have hzero : expectedCount sess.seqCtrl = 0 := by
      rw [expectedCount, hc, ← hprob hp, UInt16.toNat_toUInt32, UInt32.toNat_zero]
      omega
    rw [hzero] at hexp
    exact UInt32.toNat_inj.mp (by exact_mod_cast hexp)
  · exact absurd hlt (not_lt.mpr hexp.ge)

end Build

lemma Session.Sound.step {sess : Session} {e : Event} (h : sess.Sound) (hs : Safe sess e) :
    (step sess e).Sound := by
  cases e with
  | rxRtp seq rtpTs payload arrival => exact h.rxRtp2 hs.1 hs.2 rtpTs payload arrival
  | txRtp payload => exact h
  | report clock => exact h.report hs.1 clock

def restarts (sess : Session) : Event → Bool
  | .rxRtp seq _ _ _ => ((sess.rxSeqCtrl seq.toUInt16).seqUpdate seq.toUInt16).2.restart
  | _ => false

lemma prior_le {sess : Session} {e : Event} (h : sess.Sound) (hs : Safe sess e)
    (hr : restarts sess e = false) :
    sess.expPrior.toNat ≤ (step sess e).expPrior.toNat ∧ sess.rxPrior.toNat ≤ (step sess e).rxPrior.toNat := by
  cases e with
  | rxRtp seq rtpTs payload arrival =>
    generalize hupd : (sess.rxSeqCtrl seq.toUInt16).seqUpdate seq.toUInt16 = r
    obtain ⟨ctrl, st⟩ := r
    have hst : st.restart = false := by
      simpa [restarts, hupd] using hr
    obtain ⟨-, -, -, hexp, hrx⟩ := rxRtp2_counts hupd rtpTs payload arrival
    simp only [step, hexp, hrx, hst, Bool.false_eq_true, if_false, le_refl, and_self]
  | txRtp payload => exact ⟨le_rfl, le_rfl⟩
  | report clock =>
    have hready := h.ready hs.1
    have heq := hready.expected_eq
    have hle := hready.expected
    exact ⟨show sess.expPrior.toNat ≤ sess.expected.toNat by omega, hready.received⟩

lemma run_prior_le (es : List Event) {sess : Session} (h : sess.Sound) (hs : Guarded step Safe sess es)
    (hr : Guarded step (fun s e => restarts s e = false) sess es) :
    (run step sess es).Sound ∧ sess.expPrior.toNat ≤ (run step sess es).expPrior.toNat ∧
      sess.rxPrior.toNat ≤ (run step sess es).rxPrior.toNat := by
  induction es generalizing sess with
  | nil => exact ⟨h, le_rfl, le_rfl⟩
  | cons e es ih =>
    obtain ⟨hsound, hexp, hrx⟩ := ih (h.step hs.1) hs.2 hr.2
    obtain ⟨hexp', hrx'⟩ := prior_le h hs.1 hr.1
    exact ⟨hsound, hexp'.trans hexp, hrx'.trans hrx⟩

/-- In a run whose events are all safe every report is true, and the counts of a report are
not below those of an earlier one when no restart came between them. -/
theorem reports_true {tsFreq : UInt64} {es : List Event} (h : Guarded step Safe (init2 tsFreq) es) :
    (∀ pre clock post, es = pre ++ .report clock :: post →
      TrueReport (run step (init2 tsFreq) pre) ((run step (init2 tsFreq) pre).buildRtcp clock).2) ∧
    ∀ pre clock mid clock' post, es = pre ++ .report clock :: (mid ++ .report clock' :: post) →
      Guarded step (fun s e => restarts s e = false) (run step (init2 tsFreq) (pre ++ [.report clock])) mid →
      (run step (init2 tsFreq) pre).expected ≤
        (run step (init2 tsFreq) (pre ++ .report clock :: mid)).expected ∧
      (run step (init2 tsFreq) pre).received ≤
        (run step (init2 tsFreq) (pre ++ .report clock :: mid)).received := by
  have hsound : ∀ {pre}, Guarded step Safe (init2 tsFreq) pre → (run step (init2 tsFreq) pre).Sound :=
    Guarded.invariant (fun _ _ h hs => h.step hs) (sound_init tsFreq)
  refine ⟨fun pre clock post heq => ?_, fun pre clock mid clock' post heq hr => ?_⟩
  · subst heq
    obtain ⟨hpre, hrep, -⟩ := h.append
    exact ((hsound hpre).ready hrep.1).report hrep.2 clock
  · subst heq
    obtain ⟨hpre, hrep, hrest⟩ := h.append
    obtain ⟨hmid, hrep', -⟩ := hrest.append
    rw [run_append] at hr
    obtain ⟨hlast, hexp, hrx⟩ := run_prior_le mid ((hsound hpre).report hrep.1 clock) hmid hr
    rw [run_append, run_cons]
    have hready := hlast.ready hrep'.1
    have hle := hready.expected
    rw [← hready.expected_eq] at hle
    rw [UInt32.le_iff_toNat_le, UInt32.le_iff_toNat_le]
    exact ⟨hexp.trans (by exact_mod_cast hle), hrx.trans hready.received⟩

/-- Two packets that are in sequence, a loss of one packet, and two reports. -/
theorem reports_true_loss :
    TrueReport (run step (init2 1) [.rxRtp 10 0 20 0, .rxRtp 11 160 20 160, .report ⟨0, 0, 0⟩,
        .rxRtp 13 480 20 480])
      ((run step (init2 1) [.rxRtp 10 0 20 0, .rxRtp 11 160 20 160, .report ⟨0, 0, 0⟩,
        .rxRtp 13 480 20 480]).buildRtcp ⟨0, 0, 0⟩).2 := by
  have h : Guarded step Safe (init2 1) [.rxRtp 10 0 20 0, .rxRtp 11 160 20 160, .report ⟨0, 0, 0⟩,
    .rxRtp 13 480 20 480, .report ⟨0, 0, 0⟩] := by decide
  exact (reports_true h).1 _ _ [] rfl

/-- A report on the numbers of a source in probation: five of five packets are lost, and
`fract_lost` is zero. -/
theorem provisional_report_false : ¬ ∀ (tsFreq : UInt64) (es : List Event) (clock : Clock),
      TrueReport (run step (init2 tsFreq) es) ((run step (init2 tsFreq) es).buildRtcp clock).2 := by
  intro h
  have hf := (h 1 [.rxRtp 100 0 20 0, .rxRtp 105 160 20 160] ⟨0, 0, 0⟩).fractLost.2
  revert hf
  decide

end PjProject.Rtcp
