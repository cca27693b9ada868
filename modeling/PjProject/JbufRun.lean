import PjProject.JbufInvariant
import PjProject.Transition

/-!
# Runs of the jitter buffer

The frame list stays in order over every run of calls in which progressive discard does not
fall on a frame that it discarded before. It can do so only when its distance is 0 frames,
which takes frames of more than `PJMEDIA_JBUF_DISC_MIN_GAP` milliseconds, or after static
discard has moved the frame from which the distance counts.
-/
namespace PjProject.JitterBuffer

open RingWindow
open Transition (run Guarded)

/-- The frame list is in order, the schedule of discards is within its bounds, and no
discarded frame is behind the one that the next distance counts from. -/
structure Inv (jb : Jbuf) : Prop where
  rep : Rep jb.framelist
  cap : jb.maxCount = jb.framelist.maxCount
  ptime_pos : 0 < jb.framePtime
  denum_le : 10000 * jb.framePtimeDenum ≤ 2 ^ 29
  gap_ge : 0 ≤ jb.minShrinkGap
  gap_le : jb.minShrinkGap ≤ 2 ^ 29
  ref_ge : -2 ^ 30 ≤ jb.discardRef
  ref_le : jb.discardRef ≤ 2 ^ 29
  marked : jb.discardAlgo ≠ .static → jb.discardDist ≠ 0 → Marked jb.framelist jb.discardRef

structure Same (jb jb' : Jbuf) : Prop where
  framelist : jb'.framelist = jb.framelist
  maxCount : jb'.maxCount = jb.maxCount
  framePtime : jb'.framePtime = jb.framePtime
  framePtimeDenum : jb'.framePtimeDenum = jb.framePtimeDenum
  minShrinkGap : jb'.minShrinkGap = jb.minShrinkGap
  discardAlgo : jb'.discardAlgo = jb.discardAlgo
  discardRef : jb'.discardRef = jb.discardRef
  discardDist : jb'.discardDist = jb.discardDist

lemma Same.trans {a b c : Jbuf} (h : Same a b) (h' : Same b c) : Same a c where
  framelist := h'.framelist.trans h.framelist
  maxCount := h'.maxCount.trans h.maxCount
  framePtime := h'.framePtime.trans h.framePtime
  framePtimeDenum := h'.framePtimeDenum.trans h.framePtimeDenum
  minShrinkGap := h'.minShrinkGap.trans h.minShrinkGap
  discardAlgo := h'.discardAlgo.trans h.discardAlgo
  discardRef := h'.discardRef.trans h.discardRef
  discardDist := h'.discardDist.trans h.discardDist

variable {jb jb' : Jbuf}

lemma Inv.of_same (h : Inv jb) (hs : Same jb jb') : Inv jb' := by
  obtain ⟨h1, h2, h3, h4, h5, h6, h7, h8, h9⟩ := h
  refine ⟨?_, ?_, ?_, ?_, ?_, ?_, ?_, ?_, ?_⟩
  · rwa [hs.framelist]
  · rwa [hs.framelist, hs.maxCount]
  · rwa [hs.framePtime]
  · rwa [hs.framePtimeDenum]
  · rwa [hs.minShrinkGap]
  · rwa [hs.minShrinkGap]
  · rwa [hs.discardRef]
  · rwa [hs.discardRef]
  · rwa [hs.framelist, hs.discardAlgo, hs.discardRef, hs.discardDist]

lemma Inv.of_keeps (h : Inv jb) {fl : Framelist} (hk : Keeps jb.framelist fl)
    (hs : Same { jb with framelist := fl } jb') : Inv jb' := by
  have hnew : Inv { jb with framelist := fl } :=
    ⟨hk.rep, h.cap.trans hk.cap.symm, h.ptime_pos, h.denum_le, h.gap_ge, h.gap_le, h.ref_ge, h.ref_le,
      fun h1 h2 => hk.marked _ (h.marked h1 h2)⟩
  exact hnew.of_same hs

lemma calculateJitter_same (jb : Jbuf) : Same jb (calculateJitter jb) := by
  unfold calculateJitter
  dsimp only
  split_ifs <;> exact ⟨rfl, rfl, rfl, rfl, rfl, rfl, rfl, rfl⟩

lemma Same.jitter (h : Same jb jb') : Same jb { calculateJitter jb' with level :=0 } :=
  (h.trans (calculateJitter_same jb')).trans ⟨rfl, rfl, rfl, rfl, rfl, rfl, rfl, rfl⟩

lemma switchOp_same (jb : Jbuf) (oper : Op) : Same jb (switchOp jb oper) := by
  unfold switchOp
  dsimp only
  split_ifs <;>
    first
      | exact ⟨rfl, rfl, rfl, rfl, rfl, rfl, rfl, rfl⟩
      | exact Same.jitter ⟨rfl, rfl, rfl, rfl, rfl, rfl, rfl, rfl⟩

lemma calculateJitter_lastOp (jb : Jbuf) : (calculateJitter jb).lastOp = jb.lastOp := by
  unfold calculateJitter
  dsimp only
  split_ifs <;> rfl

lemma switchOp_lastOp (jb : Jbuf) (oper : Op) : (switchOp jb oper).lastOp = oper := by
  unfold switchOp
  dsimp only
  split_ifs with h <;> first | exact h | rfl | exact calculateJitter_lastOp _

lemma discardStatic_inv (h : Inv jb) (hs : jb.discardAlgo = .static) : Inv (discardStatic jb) := by
  have hge := h.rep.origin_ge
  have hle := h.rep.last_le
  have hrem := removeHead_keeps h.rep 1
  have hge' := hrem.rep.origin_ge
  have hle' := hrem.rep.last_le
  have hmark : ∀ {P : Prop}, jb.discardAlgo ≠ .static → P := fun hne => absurd hs hne
  have href : ∀ ref : ℤ, -2 ^ 30 ≤ ref → ref ≤ 2 ^ 29 → Inv { jb with discardRef := ref } :=
    fun ref h1 h2 => ⟨h.rep, h.cap, h.ptime_pos, h.denum_le, h.gap_ge, h.gap_le, h1, h2,
      fun hne => hmark hne⟩
  have hr1 := h.ref_ge
  have hr2 := h.ref_le
  unfold discardStatic
  dsimp only
  by_cases h1 : framelistEffSize jb.framelist ≤ jb.minDelay
  · rw [if_pos h1]
    exact h
  rw [if_neg h1]
  by_cases h2 : (framelistEffSize jb.framelist : ℤ) - max jb.effLevel jb.level * 2 < 1
  · rw [if_pos h2]
    exact h
  rw [if_neg h2]
  generalize hr : (if jb.framelist.origin < jb.discardRef then jb.framelist.origin
    else jb.discardRef) = ref
  have hb : -2 ^ 30 ≤ ref ∧ ref ≤ 2 ^ 29 := by split_ifs at hr <;> omega
  split_ifs
  · exact href ref hb.1 hb.2
  · exact ⟨hrem.rep, h.cap.trans hrem.cap.symm, h.ptime_pos, h.denum_le, h.gap_ge, h.gap_le, hge',
      by simp only; omega, fun hne => hmark hne⟩

lemma discardDuration_le (n : ℕ) : discardDuration n ≤ 10000 := by
  unfold discardDuration
  split_ifs
  · omega
  · omega
  · have : (10000 - 2000) * (n - 1) / (100 - 1) ≤ 8000 := by omega
    omega

lemma progressiveDist_bounds (h : Inv jb) : 0 ≤ progressiveDist jb ∧ progressiveDist jb ≤ 2 ^ 29 := by
  have hT := discardDuration_le (burstLevel jb)
  have hprod : discardDuration (burstLevel jb) * jb.framePtimeDenum ≤ 2 ^ 29 :=
    (Nat.mul_le_mul_right _ hT).trans h.denum_le
  have hg1 := h.gap_ge
  have hg2 := h.gap_le
  unfold progressiveDist
  dsimp only
  generalize framelistEffSize jb.framelist - max (burstLevel jb) jb.minDelay = overflow
  have hu : u32 ((discardDuration (burstLevel jb) : ℤ) * jb.framePtimeDenum) =
      discardDuration (burstLevel jb) * jb.framePtimeDenum := by
    rw [← Nat.cast_mul]
    have := @u32_eq ((discardDuration (burstLevel jb) * jb.framePtimeDenum : ℕ) : ℤ) (by omega) (by omega)
    omega
  rw [hu]
  have hq : discardDuration (burstLevel jb) * jb.framePtimeDenum / overflow / jb.framePtime ≤ 2 ^ 29 :=
    ((Nat.div_le_self _ _).trans (Nat.div_le_self _ _)).trans hprod
  generalize discardDuration (burstLevel jb) * jb.framePtimeDenum / overflow / jb.framePtime = q at *
  rw [int32_eq (by omega) (by omega)]
  omega

lemma latencyTooLong_pos (h : Inv jb) (hl : latencyTooLong jb = true) : 0 < jb.framelist.size := by
  simp only [latencyTooLong, Bool.and_eq_true, decide_eq_true_eq, h.rep.effSize] at hl
  omega

lemma lastSeq_eq (h : Inv jb) (hpos : 0 < jb.framelist.size) :
    lastSeq jb = jb.framelist.origin + jb.framelist.size - 1 := by
  have := h.rep.origin_ge
  have := h.rep.last_le
  exact int32_eq (by omega) (by omega)

lemma progressiveRef_spec (h : Inv jb) (hs : jb.discardAlgo ≠ .static) (hpos : 0 < jb.framelist.size) :
    Marked jb.framelist (progressiveRef jb) ∧ -2 ^ 30 ≤ progressiveRef jb ∧
      progressiveRef jb ≤ lastSeq jb := by
  have hlast := lastSeq_eq h hpos
  have hge := h.rep.origin_ge
  have hr := h.ref_ge
  have hall : Marked jb.framelist (lastSeq jb) := by
    intro j hj _
    omega
  unfold progressiveRef
  split_ifs with h0 h1
  · exact ⟨hall, by omega, le_rfl⟩
  · exact ⟨hall, by omega, le_rfl⟩
  · exact ⟨h.marked hs h0, by omega, by omega⟩

def Stale (jb : Jbuf) : Prop :=
  jb.processing = true ∧ jb.discardAlgo = .progressive ∧ latencyTooLong jb = true ∧
    progressiveDist jb = 0 ∧
    (jb.framelist.at (progressiveSeq jb - jb.framelist.origin).toNat).isDiscarded = true

instance (jb : Jbuf) : Decidable (Stale jb) := inferInstanceAs (Decidable (_ ∧ _ ∧ _ ∧ _ ∧ _))

lemma discardProgressive_inv (h : Inv jb) (hs : jb.discardAlgo ≠ .static)
    (hstale : latencyTooLong jb = true → progressiveDist jb = 0 →
      (jb.framelist.at (progressiveSeq jb - jb.framelist.origin).toNat).isDiscarded = false) :
    Inv (discardProgressive jb) := by
  have hge := h.rep.origin_ge
  have hle := h.rep.last_le
  unfold discardProgressive
  by_cases hput : jb.lastOp ≠ .put
  · rw [if_pos hput]
    exact h
  rw [if_neg hput]
  by_cases hlat : latencyTooLong jb = false
  · rw [if_pos hlat]
    exact ⟨h.rep, h.cap, h.ptime_pos, h.denum_le, h.gap_ge, h.gap_le, h.ref_ge, h.ref_le,
      fun _ hne => absurd rfl hne⟩
  rw [if_neg hlat]
  have hlat' : latencyTooLong jb = true := by simpa using hlat
  have hpos := latencyTooLong_pos h hlat'
  have hlast := lastSeq_eq h hpos
  obtain ⟨hmark, href1, href2⟩ := progressiveRef_spec h hs hpos
  obtain ⟨hd1, hd2⟩ := progressiveDist_bounds h
  have hsum : int32 (progressiveRef jb + progressiveDist jb) = progressiveRef jb + progressiveDist jb :=
    int32_eq (by omega) (by omega)
  dsimp only
  by_cases hnow : int32 (progressiveRef jb + progressiveDist jb) ≤ lastSeq jb
  · rw [if_pos hnow]
    rw [hsum] at hnow
    -- the frame to discard is in the window, and behind every discarded frame
    have hseq : progressiveSeq jb = max (progressiveRef jb + progressiveDist jb) jb.framelist.origin := by
      rw [progressiveSeq, hsum]
    obtain ⟨k, hk⟩ : ∃ k : ℕ, progressiveSeq jb = jb.framelist.origin + k :=
      ⟨(progressiveSeq jb - jb.framelist.origin).toNat, by omega⟩
    have hksize : k < jb.framelist.size := by omega
    have hnot : (jb.framelist.at k).isDiscarded = false := by
      by_cases hzero : progressiveDist jb = 0
      · have := hstale hlat' hzero
        rwa [hk, add_sub_cancel_left, Int.toNat_natCast] at this
      · by_contra hdisc
        have := hmark k hksize (by simpa using hdisc)
        omega
    obtain ⟨hrep, hcap, -, hmark'⟩ := framelistDiscard_rep h.rep hksize hnot
    rw [hk]
    refine ⟨hrep, h.cap.trans hcap.symm, h.ptime_pos, h.denum_le, h.gap_ge, h.gap_le, by simp only; omega,
      by simp only; omega, fun _ _ => hmark' _ ?_ le_rfl⟩
    intro j hj hdj
    have := hmark j hj hdj
    simp only
    omega
  · rw [if_neg hnow]
    exact ⟨h.rep, h.cap, h.ptime_pos, h.denum_le, h.gap_ge, h.gap_le, href1, by simp only; omega,
      fun _ _ => hmark⟩

lemma update_put_inv (h : Inv jb) (hstale : ¬ Stale (switchOp jb .put)) : Inv (update jb .put) := by
  have h' := h.of_same (switchOp_same jb .put)
  unfold update
  dsimp only
  split_ifs with hp
  · unfold runDiscard
    cases ha : (switchOp jb .put).discardAlgo with
    | none => exact h'
    | static => exact discardStatic_inv h' ha
    | progressive =>
      refine discardProgressive_inv h' (by simp [ha]) fun hl h0 => ?_
      by_contra hd
      exact hstale ⟨hp, ha, hl, h0, by simpa using hd⟩
  · exact h'

lemma update_get_inv (h : Inv jb) : Inv (update jb .get) := by
  have h' := h.of_same (switchOp_same jb .get)
  have hop := switchOp_lastOp jb .get
  unfold update
  dsimp only
  split_ifs
  · unfold runDiscard
    cases ha : (switchOp jb .get).discardAlgo with
    | none => exact h'
    | static => exact discardStatic_inv h' ha
    | progressive =>
      -- progressive discard is done in PUT only
      simp only [discardProgressive, hop, ne_eq, reduceCtorEq, not_false_eq_true, if_true]
      exact h'
  · exact h'

lemma putStored_inv (h : Inv jb) {seq : ℤ} (hi : InRange seq) (frame : List UInt8)
    (bitInfo ts : ℕ) : Inv (putStored jb frame bitInfo seq ts).1 := by
  have hk := storeFrame_keeps jb h.rep hi frame bitInfo ts
  unfold putStored
  dsimp only
  split_ifs <;> exact h.of_keeps hk ⟨rfl, rfl, rfl, rfl, rfl, rfl, rfl, rfl⟩

lemma getFrame_inv (h : Inv jb) : Inv (getFrame jb).1 := by
  have hk := framelistGet_keeps h.rep
  unfold getFrame
  by_cases h1 : jb.prefetching = true
  · simp only [if_pos h1]
    exact update_get_inv (h.of_same ⟨rfl, rfl, rfl, rfl, rfl, rfl, rfl, rfl⟩)
  simp only [if_neg h1]
  by_cases h2 : framelistEffSize jb.framelist < jb.minDelay
  · simp only [if_pos h2]
    exact update_get_inv (h.of_same ⟨rfl, rfl, rfl, rfl, rfl, rfl, rfl, rfl⟩)
  simp only [if_neg h2]
  generalize framelistGet jb.framelist = r at *
  obtain ⟨fl, info⟩ := r
  cases info with
  | none => exact update_get_inv (h.of_keeps hk ⟨rfl, rfl, rfl, rfl, rfl, rfl, rfl, rfl⟩)
  | some info =>
    by_cases h3 : info.frameType = .normal
    · simp only [if_pos h3]
      exact update_get_inv (h.of_keeps hk ⟨rfl, rfl, rfl, rfl, rfl, rfl, rfl, rfl⟩)
    · simp only [if_neg h3]
      exact update_get_inv (h.of_keeps hk ⟨rfl, rfl, rfl, rfl, rfl, rfl, rfl, rfl⟩)

/-- Static discard is left only when no schedule of progressive discard is pending or none of
the frames it discarded is in the buffer. -/
def LeavesStatic (jb : Jbuf) : Prop :=
  jb.discardAlgo = .static → jb.discardDist = 0 ∨ jb.framelist.discardedNum = 0

def Allowed (jb : Jbuf) : Call → Prop
  | .put frame bitInfo seq ts => InRange seq ∧
      ((putStored jb frame bitInfo seq ts).2 = true →
        ¬ Stale (switchOp (putStored jb frame bitInfo seq ts).1 .put))
  | .setPtime ptime ptimeDenum => 0 < ptime ∧ 10000 * ptimeDenum ≤ 2 ^ 29
  | .setDiscard algo => algo ≠ .static → LeavesStatic jb
  | .setFixed _ => LeavesStatic jb
  | _ => True

instance (jb : Jbuf) : Decidable (LeavesStatic jb) := inferInstanceAs (Decidable (_ → _ ∨ _))

instance (jb : Jbuf) : ∀ call, Decidable (Allowed jb call)
  | .put .. => inferInstanceAs (Decidable (_ ∧ (_ → ¬ _)))
  | .setPtime .. => inferInstanceAs (Decidable (_ ∧ _))
  | .setDiscard _ => inferInstanceAs (Decidable (_ → LeavesStatic jb))
  | .setFixed _ => inferInstanceAs (Decidable (LeavesStatic jb))
  | .get => .isTrue trivial
  | .peek _ => .isTrue trivial
  | .remove _ => .isTrue trivial
  | .setAdaptive .. => .isTrue trivial
  | .setMinDelay _ => .isTrue trivial
  | .reset => .isTrue trivial

lemma Inv.setDiscard (h : Inv jb) {algo : DiscardAlgo}
    (hs : algo ≠ .static → LeavesStatic jb) : Inv (setDiscard jb algo) := by
  refine ⟨h.rep, h.cap, h.ptime_pos, h.denum_le, h.gap_ge, h.gap_le, h.ref_ge, h.ref_le, ?_⟩
  intro hne hdist
  simp only [JitterBuffer.setDiscard] at hne hdist ⊢
  by_cases hst : jb.discardAlgo = .static
  · have hzero : jb.framelist.discardedNum = 0 := (hs hne hst).resolve_left hdist
    intro j hj hd
    rw [h.rep.counted, ringCount, List.countP_eq_zero] at hzero
    exact absurd hd (hzero j (List.mem_range.2 hj))
  · exact h.marked hst hdist

lemma step_inv (h : Inv jb) (call : Call) (hok : Allowed jb call) : Inv (step jb call) := by
  cases call with
  | put frame bitInfo seq ts =>
    have hput := putStored_inv h hok.1 frame bitInfo ts
    simp only [step, putFrame]
    split_ifs with hr
    · exact update_put_inv hput (hok.2 hr)
    · exact hput
  | get => exact getFrame_inv h
  | peek offset => exact h
  | remove frameCnt =>
    have h1 := removeHead_keeps h.rep frameCnt
    have h2 := removeMore_keeps (jb.framelist.discardedNum + 1) jb.framelist.discardedNum
      (removeHead jb.framelist frameCnt).2 h1.rep
    exact h.of_keeps (h1.trans h2) ⟨rfl, rfl, rfl, rfl, rfl, rfl, rfl, rfl⟩
  | setPtime ptime ptimeDenum =>
    obtain ⟨hp, hd⟩ := hok
    have hgap : int32 (u32 (discMinGap * ptimeDenum) / ptime : ℕ) = (200 * ptimeDenum / ptime : ℕ) := by
      have hu := @u32_eq ((200 * ptimeDenum : ℕ) : ℤ) (by omega) (by omega)
      have hle := Nat.div_le_self (200 * ptimeDenum) ptime
      rw [show u32 (discMinGap * ptimeDenum) = 200 * ptimeDenum by
        rw [← Int.natCast_inj, ← hu]; rfl]
      generalize 200 * ptimeDenum / ptime = q at *
      exact int32_eq (by omega) (by omega)
    have hle := Nat.div_le_self (200 * ptimeDenum) ptime
    refine ⟨h.rep, h.cap, hp, hd, ?_, ?_, h.ref_ge, h.ref_le, h.marked⟩
    · simp only [step, setPtime2, hgap]
      exact Int.natCast_nonneg _
    · simp only [step, setPtime2, hgap]
      generalize 200 * ptimeDenum / ptime = q at *
      omega
  | setFixed prefetch =>
    simp only [step, setFixed]
    split_ifs
    · exact h
    · have hnone : Inv (JitterBuffer.setDiscard jb .none) := h.setDiscard fun _ => hok
      exact hnone.of_same ⟨rfl, rfl, rfl, rfl, rfl, rfl, rfl, rfl⟩
  | setAdaptive prefetch minPrefetch maxPrefetch =>
    simp only [step, setAdaptive]
    split_ifs
    · exact h.of_same ⟨rfl, rfl, rfl, rfl, rfl, rfl, rfl, rfl⟩
    · exact h
  | setDiscard algo => exact h.setDiscard hok
  | setMinDelay minDelay => exact h.of_same ⟨rfl, rfl, rfl, rfl, rfl, rfl, rfl, rfl⟩
  | reset =>
    have hk := reset_keeps h.rep (show -2 ^ 30 ≤ invalidOffset by decide) (show invalidOffset ≤ 2 ^ 29 by decide)
    exact ⟨hk.rep, h.cap, h.ptime_pos, h.denum_le, h.gap_ge, h.gap_le, h.ref_ge, h.ref_le,
      fun _ hne => absurd rfl hne⟩

lemma create_inv (memory : ℕ → Slot) (frameSize : ℕ) {ptime maxCount : ℕ} (hp : 0 < ptime)
    (hm : 0 < maxCount) (hcap : maxCount ≤ 2 ^ 29) : Inv (create memory frameSize ptime maxCount) := by
  have hrep : Rep (create memory frameSize ptime maxCount).framelist :=
    @framelistReset_rep (framelistReset ⟨frameSize, maxCount, memory, 0, 0, 0, 0⟩) hm hcap
      invalidOffset (by decide) (by decide)
  have hgap : 200 / ptime ≤ 2 ^ 29 := (Nat.div_le_self 200 ptime).trans (by norm_num)
  refine ⟨hrep, rfl, hp, by simp [create, reset], ?_, ?_, by simp [create, reset], by simp [create, reset],
    fun _ hne => absurd rfl hne⟩
  · simp only [create, reset, discMinGap]
    exact_mod_cast Nat.zero_le (200 / ptime)
  · simp only [create, reset, discMinGap]
    exact_mod_cast hgap

structure InOrder (fl : Framelist) : Prop where
  head : fl.head < fl.maxCount
  size : fl.size ≤ fl.maxCount
  discardedNum : fl.discardedNum = ((List.range fl.size).filter fun j =>
    (fl.slots ((fl.head + j) % fl.maxCount)).frameType = .discarded).length
  effSize : fl.discardedNum ≤ fl.size ∧ framelistEffSize fl = fl.size - fl.discardedNum
  outside : ∀ i < fl.maxCount, (∀ j < fl.size, (fl.head + j) % fl.maxCount ≠ i) →
    (fl.slots i).frameType = .missing ∧ (fl.slots i).contentLen = 0

lemma Rep.inOrder {fl : Framelist} (h : Rep fl) : InOrder fl where
  head := h.head_lt
  size := h.size_le
  discardedNum := by
    rw [h.counted, ringCount, List.countP_eq_length_filter]
    rfl
  effSize := ⟨h.num_le, h.effSize⟩
  outside := by
    intro i hi hout
    obtain ⟨j, hj, rfl⟩ := exists_offset h.head_lt hi
    have hsize : fl.size ≤ j := by
      by_contra hlt
      exact hout j (by omega) rfl
    exact h.outside j hsize hj

/-- Over every run of allowed calls the frame list stays in order. -/
theorem jbuf_in_order (memory : ℕ → Slot) (frameSize ptime maxCount : ℕ) (hp : 0 < ptime)
    (hm : 0 < maxCount) (hcap : maxCount ≤ 2 ^ 29) (calls : List Call)
    (hg : Guarded step Allowed (create memory frameSize ptime maxCount) calls) :
    InOrder (run step (create memory frameSize ptime maxCount) calls).framelist := by
  have hinv := @Guarded.invariant _ _ step Allowed Inv (fun _ call h hok => step_inv h call hok)
    calls _ (create_inv memory frameSize hp hm hcap) hg
  exact hinv.rep.inOrder

/-- Frames of 20 ms with one out of order, gets and a removal. -/
theorem jbuf_in_order_run : InOrder (run step (create (fun _ => ⟨.normal, 3, 0, 0, []⟩) 160 20 10)
      [.setFixed 0, .put [1] 0 5 0, .put [2] 0 8 0, .put [3] 0 6 0, .get, .remove 1]).framelist :=
  jbuf_in_order _ 160 20 10 (by decide) (by decide) (by decide)
    [.setFixed 0, .put [1] 0 5 0, .put [2] 0 8 0, .put [3] 0 6 0, .get, .remove 1] (by decide)

/-- Frames of 3 seconds, for which the discard distance is 0: frame 7 is discarded as it
arrives before frame 6, and once more when frame 6 has arrived. -/
theorem discarded_twice_not_in_order :
    ¬ ∀ (memory : ℕ → Slot) (frameSize ptime maxCount : ℕ), 0 < ptime → 0 < maxCount → ∀ calls : List Call,
        InOrder (run step (create memory frameSize ptime maxCount) calls).framelist := by
  intro h
  have hnum := (h (fun _ => ⟨.missing, 0, 0, 0, []⟩) 160 3000 10 (by decide) (by decide)
    [.put [] 0 1 0, .get, .put [] 0 2 0, .get, .put [] 0 3 0, .get, .put [] 0 4 0, .get,
      .put [] 0 5 0, .get, .put [] 0 7 0, .put [] 0 6 0]).discardedNum
  revert hnum
  decide

end PjProject.JitterBuffer
