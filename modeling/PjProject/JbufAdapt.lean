import PjProject.JbufRemove

/-!
# The levels of the jitter buffer

The effective level and the prefetch stay within their bounds over every run. While frames are
prefetched, puts in order fill the window; the prefetch ends as soon as the frames that are not
discarded are as many as it asks for.
-/
namespace PjProject.JitterBuffer

open RingWindow
open Transition (run Guarded)

variable {jb : Jbuf} {fl : Framelist} {cap : ℕ}

structure AdaptBounds (jb : Jbuf) : Prop where
  eff_nonneg : 0 ≤ jb.effLevel
  eff_le : jb.effLevel ≤ (jb.maxCount * 4 / 5 : ℕ)
  min_le : jb.minPrefetch ≤ jb.maxPrefetch
  max_le : jb.maxPrefetch ≤ jb.maxCount
  prefetch_le : jb.prefetch ≤ max jb.maxPrefetch jb.initPrefetch

/-- The bounds with what keeps them: the histories are not negative, and the level can only be
negative where no stable history has been counted yet. -/
structure Adapted (jb : Jbuf) : Prop where
  eff_nonneg : 0 ≤ jb.effLevel
  eff_le : jb.effLevel ≤ (jb.maxCount * 4 / 5 : ℕ)
  min_le : jb.minPrefetch ≤ jb.maxPrefetch
  max_le : jb.maxPrefetch ≤ jb.maxCount
  prefetch_le : jb.prefetch ≤ jb.maxPrefetch
  hist_nonneg : 0 ≤ jb.maxHistLevel
  level_nonneg : 0 ≤ jb.level
  fresh : jb.processing = false → jb.stableHist = 0

lemma Adapted.bounds (h : Adapted jb) : AdaptBounds jb :=
  ⟨h.eff_nonneg, h.eff_le, h.min_le, h.max_le, h.prefetch_le.trans (le_max_left _ _)⟩

lemma burst_cap (n : ℕ) : u32 (n * 4) / 5 ≤ n * 4 / 5 := by
  have hle : u32 (n * 4) ≤ n * 4 := by
    unfold u32
    omega
  exact Nat.div_le_div_right hle

lemma calculateJitter_adapted (h : Adapted { jb with level := 0 }) (hp : jb.processing = true)
    (hlevel : 0 ≤ jb.level ∨ jb.stableHist = 0) : Adapted { calculateJitter jb with level := 0 } := by
  obtain ⟨h1, h2, h3, h4, h5, h6, -, -⟩ := h
  simp only at h1 h2 h3 h4 h5 h6
  have hcap := burst_cap jb.maxCount
  have hdrop : (jb.effLevel - max jb.maxHistLevel jb.level).tdiv 3 ≤ jb.effLevel :=
    (Int.tdiv_le_tdiv (by omega) (by omega)).trans (Int.tdiv_le_self 3 h1)
  have hfresh : ∀ {P : Prop}, jb.processing = false → P := fun hf => by rw [hp] at hf; cases hf
  unfold calculateJitter
  dsimp only
  split_ifs
  · exact ⟨by simp only; omega, by simp only; omega, h3, h4, by simp only; omega, le_rfl, le_rfl, hfresh⟩
  · exact ⟨by simp only; omega, by simp only; omega, h3, h4, h5, le_rfl, le_rfl, hfresh⟩
  · exact ⟨h1, h2, h3, h4, h5, by simp only; omega, le_rfl, hfresh⟩
  · exact ⟨by simp only; omega, by simp only; omega, h3, h4, by simp only; omega, by simp only; omega, le_rfl, hfresh⟩
  · exact ⟨by simp only; omega, by simp only; omega, h3, h4, h5, by simp only; omega, le_rfl, hfresh⟩
  · exact ⟨h1, h2, h3, h4, h5, by simp only; omega, le_rfl, hfresh⟩

lemma switchOp_adapted (h : Adapted jb) (oper : Op) : Adapted (switchOp jb oper) := by
  have hzero : Adapted { jb with level := 0 } := ⟨h.1, h.2, h.3, h.4, h.5, h.6, le_rfl, h.8⟩
  unfold switchOp
  by_cases hsame : jb.lastOp = oper
  · rw [if_pos hsame]
    exact h
  rw [if_neg hsame]
  by_cases hp : jb.processing = true
  · simp only [hp, if_true]
    split_ifs
    · exact calculateJitter_adapted ⟨h.1, h.2, h.3, h.4, h.5, h.6, le_rfl, fun hf => Bool.noConfusion hf⟩ rfl
        (.inl h.level_nonneg)
    · exact ⟨h.1, h.2, h.3, h.4, h.5, h.6, le_rfl, fun hf => Bool.noConfusion hf⟩
  · have hstable := h.fresh (by simpa using hp)
    simp only [if_neg hp]
    by_cases hstart : initCycle ≤ jb.initCycleCnt + 1 ∧ oper = .get
    · simp only [if_pos hstart, if_true]
      split_ifs
      · exact calculateJitter_adapted ⟨h.1, h.2, h.3, h.4, h.5, h.6, le_rfl, fun _ => hstable⟩ rfl (.inr hstable)
      · exact ⟨h.1, h.2, h.3, h.4, h.5, h.6, le_rfl, fun _ => hstable⟩
    · simp only [if_neg hstart, if_neg hp]
      exact ⟨h.1, h.2, h.3, h.4, h.5, h.6, le_rfl, h.8⟩

lemma update_adapted (h : Adapted jb) (oper : Op) : Adapted (update jb oper) := by
  have h' := switchOp_adapted h oper
  unfold update
  dsimp only
  split_ifs
  · unfold runDiscard
    split
    · exact h'
    · unfold discardStatic
      dsimp only
      split_ifs <;> exact ⟨h'.1, h'.2, h'.3, h'.4, h'.5, h'.6, h'.7, h'.8⟩
    · unfold discardProgressive
      dsimp only
      split_ifs <;> exact ⟨h'.1, h'.2, h'.3, h'.4, h'.5, h'.6, h'.7, h'.8⟩
  · exact h'

lemma getFrame_adapted (h : Adapted jb) : Adapted (getFrame jb).1 := by
  obtain ⟨h1, h2, h3, h4, h5, h6, h7, h8⟩ := h
  have hlevel : 0 ≤ jb.level + 1 := by omega
  unfold getFrame
  by_cases hpre : jb.prefetching = true
  · simp only [if_pos hpre]
    refine update_adapted ?_ .get
    exact ⟨h1, h2, h3, h4, h5, h6, hlevel, h8⟩
  simp only [if_neg hpre]
  by_cases hdelay : framelistEffSize jb.framelist < jb.minDelay
  · simp only [if_pos hdelay]
    refine update_adapted ?_ .get
    exact ⟨h1, h2, h3, h4, h5, h6, hlevel, h8⟩
  simp only [if_neg hdelay]
  generalize framelistGet jb.framelist = r
  obtain ⟨fl, info⟩ := r
  cases info with
  | none =>
    refine update_adapted ?_ .get
    exact ⟨h1, h2, h3, h4, h5, h6, hlevel, h8⟩
  | some info =>
    by_cases hnormal : info.frameType = .normal
    · simp only [if_pos hnormal]
      refine update_adapted ?_ .get
      exact ⟨h1, h2, h3, h4, h5, h6, hlevel, h8⟩
    · simp only [if_neg hnormal]
      refine update_adapted ?_ .get
      exact ⟨h1, h2, h3, h4, h5, h6, hlevel, h8⟩

lemma step_adapted (h : Adapted jb) (call : Call) : Adapted (step jb call) := by
  obtain ⟨h1, h2, h3, h4, h5, h6, h7, h8⟩ := h
  cases call with
  | put frame bitInfo seq ts =>
    have hput : Adapted (putStored jb frame bitInfo seq ts).1 := by
      unfold putStored
      dsimp only
      split_ifs
      · exact ⟨h1, h2, h3, h4, h5, h6, by simp only; omega, h8⟩
      · exact ⟨h1, h2, h3, h4, h5, h6, by simp only; omega, h8⟩
      · exact ⟨h1, h2, h3, h4, h5, h6, h7, h8⟩
    simp only [step, putFrame]
    split_ifs
    · exact update_adapted hput .put
    · exact hput
  | get => exact getFrame_adapted ⟨h1, h2, h3, h4, h5, h6, h7, h8⟩
  | peek offset => exact ⟨h1, h2, h3, h4, h5, h6, h7, h8⟩
  | remove frameCnt => exact ⟨h1, h2, h3, h4, h5, h6, h7, h8⟩
  | setPtime ptime ptimeDenum => exact ⟨h1, h2, h3, h4, h5, h6, h7, h8⟩
  | setFixed prefetch =>
    simp only [step, setFixed]
    split_ifs
    · exact ⟨h1, h2, h3, h4, h5, h6, h7, h8⟩
    · exact ⟨h1, h2, le_rfl, by simp only [setDiscard]; omega, le_rfl, h6, h7, h8⟩
  | setAdaptive prefetch minPrefetch maxPrefetch =>
    simp only [step, setAdaptive]
    split_ifs with hok
    · exact ⟨h1, h2, by simp only; omega, by simp only; omega, by simp only; omega, h6, h7, h8⟩
    · exact ⟨h1, h2, h3, h4, h5, h6, h7, h8⟩
  | setDiscard algo => exact ⟨h1, h2, h3, h4, h5, h6, h7, h8⟩
  | setMinDelay minDelay => exact ⟨h1, h2, h3, h4, h5, h6, h7, h8⟩
  | reset => exact ⟨h1, h2, h3, h4, h5, le_rfl, le_rfl, fun _ => rfl⟩

lemma create_adapted (memory : ℕ → Slot) (frameSize ptime maxCount : ℕ) :
    Adapted (create memory frameSize ptime maxCount) := by
  have hcap := burst_cap maxCount
  have hmax : ((u32 (maxCount * 4) / 5 : ℕ) : ℤ) ≤ maxCount := by omega
  refine ⟨le_rfl, ?_, ?_, hmax, ?_, le_rfl, le_rfl, fun _ => rfl⟩
  · exact Int.natCast_nonneg _
  · exact Int.natCast_nonneg _
  · simp only [create, reset]
    omega

end PjProject.JitterBuffer
