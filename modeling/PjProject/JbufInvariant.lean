import PjProject.JbufWindow

/-!
# The frame list of the jitter buffer

The representation invariant of the frame list: the counter of discarded frames is their
number in the window, and no slot outside the window is in use. Every operation keeps it,
but a discard that falls on a frame that was discarded before counts it twice.
-/
namespace PjProject.JitterBuffer

open RingWindow

structure Rep (fl : Framelist) : Prop where
  head_lt : fl.head < fl.maxCount
  size_le : fl.size ≤ fl.maxCount
  counted : fl.discardedNum = ringCount Slot.isDiscarded fl.head fl.maxCount fl.slots fl.size
  outside : ∀ j, fl.size ≤ j → j < fl.maxCount →
    (fl.at j).frameType = .missing ∧ (fl.at j).contentLen = 0
  cap_le : fl.maxCount ≤ 2 ^ 29
  origin_ge : -2 ^ 30 ≤ fl.origin
  last_le : fl.origin + fl.size ≤ 2 ^ 29

variable {fl : Framelist}

lemma Rep.window (h : Rep fl) : Window fl := by
  obtain ⟨h1, h2, -, h4, h5, h6, h7⟩ := h
  exact ⟨h1, h2, h4, by omega, by omega, by omega⟩

/-- No discarded frame is behind `ref`. -/
def Marked (fl : Framelist) (ref : ℤ) : Prop :=
  ∀ j < fl.size, (fl.at j).isDiscarded = true → fl.origin + j ≤ ref

lemma isDiscarded_of_missing {s : Slot} (h : s.frameType = .missing) : s.isDiscarded = false := by
  simp [Slot.isDiscarded, h]

lemma Rep.num_le (h : Rep fl) : fl.discardedNum ≤ fl.size := by
  rw [h.counted]
  exact ringCount_le ..

lemma Rep.effSize (h : Rep fl) : framelistEffSize fl = fl.size - fl.discardedNum :=
  u32_sub h.num_le (by have := h.size_le; have := h.cap_le; omega)

lemma framelistReset_rep {fl : Framelist} (hpos : 0 < fl.maxCount) (hcap : fl.maxCount ≤ 2 ^ 29)
    {index : ℤ} (h1 : -2 ^ 30 ≤ index) (h2 : index ≤ 2 ^ 29) :
    Rep { framelistReset fl with origin := index } where
  head_lt := hpos
  size_le := Nat.zero_le _
  counted := rfl
  outside := fun _ _ hj => framelistReset_at fl hj
  cap_le := hcap
  origin_ge := h1
  last_le := by simpa [framelistReset] using h2

lemma marked_of_size_zero (h : fl.size = 0) (ref : ℤ) : Marked fl ref := by
  intro j hj
  omega

/-- The list without its first `n` frames. -/
structure Removed (fl fl' : Framelist) (n : ℕ) : Prop where
  rep : Rep fl'
  cap : fl'.maxCount = fl.maxCount
  frameSize : fl'.frameSize = fl.frameSize
  le : n ≤ fl.size
  size : fl'.size = fl.size - n
  origin : fl'.origin = fl.origin + n
  num : fl'.discardedNum + ringCount Slot.isDiscarded fl.head fl.maxCount fl.slots n = fl.discardedNum
  frames : ∀ j < fl'.size, fl'.at j = fl.at (n + j)

lemma Removed.refl (h : Rep fl) : Removed fl fl 0 :=
  ⟨h, rfl, rfl, Nat.zero_le _, rfl, by simp, by simp [ringCount], by simp⟩

lemma Dropped.removed {fl' : Framelist} {n : ℕ} (h : Rep fl) (hd : Dropped fl fl' n)
    (hnum : fl'.discardedNum + ringCount Slot.isDiscarded fl.head fl.maxCount fl.slots n = fl.discardedNum) :
    Removed fl fl' n := by
  obtain ⟨hh, hsz, hcount, hout, hcap, hge, hle⟩ := h
  obtain ⟨hw, hc, hf, hns, hs, ho, hfr⟩ := hd
  have hadd := @ringCount_add _ fl.head fl.maxCount Slot.isDiscarded fl.slots n (fl.size - n)
  rw [Nat.add_sub_cancel' hns] at hadd
  have hkept : ringCount Slot.isDiscarded fl'.head fl'.maxCount fl'.slots fl'.size =
      ringCount Slot.isDiscarded ((fl.head + n) % fl.maxCount) fl.maxCount fl.slots (fl.size - n) := by
    rw [hs, hc]
    apply ringCount_congr
    intro j hj
    have := hfr j (by omega)
    rw [Framelist.at, hc] at this
    rw [this, ringAt_advance]
    rfl
  exact ⟨⟨hw.head_lt, hw.size_le, by omega, hw.outside, by omega, by omega, by omega⟩, hc, hf, hns, hs, ho,
    hnum, hfr⟩

lemma removeHead_num (hh : fl.head < fl.maxCount) (hsz : fl.size ≤ fl.maxCount)
    (hnum : fl.discardedNum = ringCount Slot.isDiscarded fl.head fl.maxCount fl.slots fl.size)
    (hcap : fl.maxCount < 2 ^ 32) (count : ℕ) : (removeHead fl count).1.discardedNum +
      ringCount Slot.isDiscarded fl.head fl.maxCount fl.slots (min count fl.size) = fl.discardedNum := by
  have hmin : (if fl.size < count then fl.size else count) = min count fl.size := by
    split_ifs <;> omega
  unfold removeHead
  simp only [hmin]
  generalize hn : min count fl.size = n
  have hns : n ≤ fl.size := by omega
  by_cases h0 : n = 0
  · rw [if_pos h0, h0]
    simp [ringCount]
  simp only [if_neg h0]
  generalize hs : (if fl.maxCount < fl.head + n then fl.maxCount - fl.head else n) = s
  have hhead : n - s ≤ fl.head := by split_ifs at hs <;> omega
  have hcnt := countRange_two Slot.isDiscarded fl.slots hh (hns.trans hsz) hs.symm
  have hadd := @ringCount_add _ fl.head fl.maxCount Slot.isDiscarded fl.slots n (fl.size - n)
  rw [Nat.add_sub_cancel' hns] at hadd
  rw [countRange_mapRange Slot.isDiscarded Slot.clear fl.slots hhead]
  have hlt : fl.discardedNum < 2 ^ 32 := by
    have := @ringCount_le _ fl.head fl.maxCount Slot.isDiscarded fl.slots fl.size
    omega
  rw [u32_sub (by omega) hlt, u32_sub (by omega) (by omega)]
  omega

lemma removeHead_removed (h : Rep fl) (count : ℕ) :
    Removed fl (removeHead fl count).1 (removeHead fl count).2 ∧
      (removeHead fl count).2 = min count fl.size := by
  obtain ⟨hd, hn⟩ := removeHead_dropped h.window count
  have hcap := h.cap_le
  have hnum := removeHead_num h.head_lt h.size_le h.counted (by omega) count
  rw [← hn] at hnum
  exact ⟨hd.removed h hnum, hn⟩

lemma Removed.count {a b : Framelist} {m k : ℕ} (h : Removed a b m) (hk : k ≤ b.size) :
    ringCount Slot.isDiscarded b.head b.maxCount b.slots k +
        ringCount Slot.isDiscarded a.head a.maxCount a.slots m =
      ringCount Slot.isDiscarded a.head a.maxCount a.slots (m + k) := by
  have hrest : ringCount Slot.isDiscarded b.head b.maxCount b.slots k =
      ringCount Slot.isDiscarded ((a.head + m) % a.maxCount) a.maxCount a.slots k := by
    rw [h.cap]
    apply ringCount_congr
    intro j hj
    have hframe := h.frames j (by omega)
    rw [Framelist.at, h.cap] at hframe
    rw [hframe, ringAt_advance]
    rfl
  rw [ringCount_add, hrest, Nat.add_comm]

lemma Removed.trans {a b c : Framelist} {m n : ℕ} (h : Removed a b m) (h' : Removed b c n) :
    Removed a c (m + n) := by
  have hsize := h.size
  have hsize' := h'.size
  have hle := h.le
  have hle' := h'.le
  have hcount := h.count hle'
  have hnum := h.num
  have hnum' := h'.num
  refine ⟨h'.rep, h'.cap.trans h.cap, h'.frameSize.trans h.frameSize, by omega, by omega, ?_, by omega, ?_⟩
  · rw [h'.origin, h.origin]
    push_cast
    ring
  · intro j hj
    rw [h'.frames j hj, h.frames (n + j) (by omega), Nat.add_assoc]

structure Keeps (fl fl' : Framelist) : Prop where
  rep : Rep fl'
  cap : fl'.maxCount = fl.maxCount
  frameSize : fl'.frameSize = fl.frameSize
  marked : ∀ ref, Marked fl ref → Marked fl' ref

lemma Keeps.refl (h : Rep fl) : Keeps fl fl :=
  ⟨h, rfl, rfl, fun _ hm => hm⟩

lemma Keeps.trans {a b c : Framelist} (h : Keeps a b) (h' : Keeps b c) : Keeps a c :=
  ⟨h'.rep, h'.cap.trans h.cap, h'.frameSize.trans h.frameSize,
    fun ref hm => h'.marked ref (h.marked ref hm)⟩

lemma Removed.keeps {fl' : Framelist} {n : ℕ} (h : Removed fl fl' n) : Keeps fl fl' where
  rep := h.rep
  cap := h.cap
  frameSize := h.frameSize
  marked := by
    intro ref hm j hj hd
    rw [h.frames j hj] at hd
    have := h.size
    have := h.origin
    have := hm (n + j) (by omega) hd
    push_cast at this
    omega

lemma removeHead_keeps (h : Rep fl) (count : ℕ) : Keeps fl (removeHead fl count).1 :=
  (removeHead_removed h count).1.keeps

lemma removeMore_keeps (k : ℕ) : ∀ {fl : Framelist} (lastNum : ℕ) (count : ℤ), Rep fl →
    Keeps fl (removeMore k fl lastNum count).1 := by
  induction k with
  | zero => exact fun _ _ h => Keeps.refl h
  | succ k ih =>
    intro fl lastNum count h
    rw [removeMore]
    split_ifs
    · have h' := removeHead_keeps h (lastNum - fl.discardedNum)
      exact h'.trans (ih _ _ h'.rep)
    · exact Keeps.refl h

lemma skipDiscarded_keeps (k : ℕ) : ∀ {fl : Framelist}, Rep fl → fl.size < k → Keeps fl (skipDiscarded k fl) ∧
      ((skipDiscarded k fl).slots (skipDiscarded k fl).head).frameType ≠ .discarded := by
  induction k with
  | zero => intro fl _ hk; omega
  | succ k ih =>
    intro fl h hk
    have hat : fl.at 0 = fl.slots fl.head := by
      simp [Framelist.at, ringAt, Nat.mod_eq_of_lt h.head_lt]
    rw [skipDiscarded]
    split_ifs with hd
    · have hpos : 0 < fl.size := by
        by_contra h0
        have := (h.outside 0 (by omega) (by have := h.head_lt; omega)).1
        rw [hat, hd] at this
        cases this
      obtain ⟨hrem, hcount⟩ := removeHead_removed h 1
      have hsize := hrem.size
      rw [hcount] at hsize
      obtain ⟨h1, h2⟩ := ih hrem.rep (by omega)
      exact ⟨hrem.keeps.trans h1, h2⟩
    · exact ⟨Keeps.refl h, hd⟩

lemma take_head_removed (h : Rep fl) (hpos : fl.size ≠ 0)
    (hd : (fl.slots fl.head).frameType ≠ .discarded) (content : List UInt8) : Removed fl { fl with
      slots := Function.update fl.slots fl.head ⟨.missing, 0, 0, 0, content⟩
      origin := int32 (fl.origin + 1)
      head := (fl.head + 1) % fl.maxCount
      size := fl.size - 1 } 1 := by
  have hone : ringCount Slot.isDiscarded fl.head fl.maxCount fl.slots 1 = 0 := by
    have hfirst : Slot.isDiscarded (ringAt fl.head fl.maxCount fl.slots 0) = false := by
      simp [ringAt, Nat.mod_eq_of_lt h.head_lt, Slot.isDiscarded, hd]
    rw [ringCount_succ, hfirst]
    rfl
  exact (take_head_dropped h.window hpos content).removed h (by rw [hone]; rfl)

lemma framelistGet_keeps (h : Rep fl) : Keeps fl (framelistGet fl).1 := by
  unfold framelistGet
  split_ifs with h0
  · exact Keeps.refl h
  · obtain ⟨h1, h2⟩ := skipDiscarded_keeps (fl.size + 1) h (Nat.lt_succ_self _)
    dsimp only
    split_ifs with h3
    · exact h1
    · exact h1.trans (take_head_removed h1.rep h3 h2 _).keeps
    · exact h1.trans (take_head_removed h1.rep h3 h2 _).keeps

variable {index : ℤ}

lemma reset_keeps (h : Rep fl) (h1 : -2 ^ 30 ≤ index)
    (h2 : index ≤ 2 ^ 29) : Keeps fl { framelistReset fl with origin := index } :=
  ⟨framelistReset_rep (by have := h.head_lt; omega) h.cap_le h1 h2, rfl, rfl,
    fun ref _ => marked_of_size_zero rfl ref⟩

lemma origin_keeps (h : Rep fl) {origin : ℤ} (h1 : -2 ^ 30 ≤ origin)
    (h2 : origin + fl.size ≤ 2 ^ 29) (h3 : fl.size = 0 ∨ origin ≤ fl.origin) :
    Keeps fl { fl with origin := origin } := by
  refine ⟨⟨h.head_lt, h.size_le, h.counted, h.outside, h.cap_le, h1, h2⟩, rfl, rfl, ?_⟩
  intro ref hm j hj hd
  have := hm j hj hd
  simp only at hj ⊢
  rcases h3 with h0 | h3 <;> omega

/-- Frame indices for which no `int` overflows. -/
def InRange (index : ℤ) : Prop := -2 ^ 29 ≤ index ∧ index < 2 ^ 29

instance (index : ℤ) : Decidable (InRange index) := inferInstanceAs (Decidable (_ ∧ _))

lemma relocate_spec (h : Rep fl) (hi : InRange index) :
    Keeps fl (relocate fl index).1 ∧ (relocate fl index).2 = index - (relocate fl index).1.origin ∧
      0 ≤ (relocate fl index).2 := by
  obtain ⟨hi1, hi2⟩ := hi
  have hge := h.origin_ge
  have hle := h.last_le
  have hsz := h.size_le
  have hcap := h.cap_le
  have hdist : int32 (index - fl.origin) = index - fl.origin := int32_eq (by omega) (by omega)
  unfold relocate
  rw [hdist]
  by_cases hneg : index - fl.origin < 0
  · simp only [if_pos hneg]
    by_cases hrestart : maxFrameIndex ≤ u32 (fl.origin + fl.size)
    · simp only [if_pos hrestart]
      rw [int32_eq (by omega) (by omega)]
      by_cases h0 : fl.size = 0
      · simp only [if_pos h0]
        exact ⟨origin_keeps h (by omega) (by omega) (.inl h0), by simp, le_rfl⟩
      · simp only [if_neg h0]
        exact ⟨origin_keeps h (by omega) (by omega) (.inr (by omega)), by simp, by simp⟩
    · simp only [if_neg hrestart]
      rw [if_pos (show ({ framelistReset fl with origin := index } : Framelist).size = 0 from rfl)]
      exact ⟨reset_keeps h (by omega) (by omega), by simp, le_rfl⟩
  · simp only [if_neg hneg]
    by_cases h0 : fl.size = 0
    · simp only [if_pos h0]
      exact ⟨origin_keeps h (by omega) (by omega) (.inl h0), by simp, le_rfl⟩
    · simp only [if_neg h0]
      exact ⟨Keeps.refl h, trivial, by omega⟩

lemma putSlot_keeps (h : Rep fl) (hi : InRange index) {d : ℕ}
    (hd : d < fl.maxCount) (hdist : fl.origin + d = index) (frame : List UInt8) (frameSize bitInfo ts : ℕ) :
    Keeps fl (putSlot fl index d frame frameSize bitInfo ts .normal).1 := by
  obtain ⟨hi1, hi2⟩ := hi
  have hge := h.origin_ge
  have hle := h.last_le
  unfold putSlot
  by_cases hocc : (fl.slots ((fl.head + d) % fl.maxCount)).frameType ≠ .missing
  · simp only [if_pos hocc]
    exact Keeps.refl h
  have hmiss : (fl.at d).frameType = .missing := not_ne_iff.1 hocc
  simp only [if_neg hocc, if_true]
  generalize hv : (⟨.normal, frameSize, bitInfo, ts, frame.take frameSize⟩ : Slot) = v
  have hvd : v.isDiscarded = false := by
    rw [← hv]
    rfl
  rw [int32_eq (by omega) (by omega)]
  generalize hsize : (if fl.origin + (fl.size : ℤ) ≤ index then d + 1 else fl.size) = size'
  have hsize' : size' = max fl.size (d + 1) := by split_ifs at hsize <;> omega
  have hring : ∀ j < fl.maxCount, ringAt fl.head fl.maxCount
      (Function.update fl.slots ((fl.head + d) % fl.maxCount) v) j = if j = d then v else fl.at j :=
    fun j hj => ringAt_update h.head_lt fl.slots v hj hd
  have hsz := h.size_le
  have hfalse : ∀ j, fl.size ≤ j → j < fl.maxCount → Slot.isDiscarded (fl.at j) = false :=
    fun j h1 h2 => isDiscarded_of_missing (h.outside j h1 h2).1
  have hcount : ringCount Slot.isDiscarded fl.head fl.maxCount
      (Function.update fl.slots ((fl.head + d) % fl.maxCount) v) size' = fl.discardedNum := by
    have hsame : ringCount Slot.isDiscarded fl.head fl.maxCount
        (Function.update fl.slots ((fl.head + d) % fl.maxCount) v) size' =
        ringCount Slot.isDiscarded fl.head fl.maxCount fl.slots size' := by
      apply ringCount_congr
      intro j hj
      rw [hring j (by omega)]
      split_ifs with hjd
      · rw [hvd, hjd]
        exact (isDiscarded_of_missing hmiss).symm
      · rfl
    rw [hsame, h.counted]
    exact ringCount_extend (by omega) fun j h1 h2 => hfalse j h1 (by omega)
  refine ⟨⟨h.head_lt, by simp only; omega, hcount.symm, ?_, h.cap_le, hge, by simp only; omega⟩,
    rfl, rfl, ?_⟩
  · intro j h1 h2
    simp only at h1 h2
    simp only [Framelist.at, hring j h2, if_neg (show j ≠ d by omega)]
    exact h.outside j (by omega) h2
  · intro ref hm j hj hdj
    simp only at hj
    simp only [Framelist.at, hring j (by omega)] at hdj
    split_ifs at hdj with hjd
    · rw [hvd] at hdj
      cases hdj
    · by_cases hjs : j < fl.size
      · exact hm j hjs hdj
      · exact absurd ((hfalse j (by omega) (by omega)).symm.trans hdj) (by simp)

lemma putAt_keeps (h : Rep fl) (hi : InRange index) (frame : List UInt8) (frameSize bitInfo ts : ℕ) :
    Keeps fl (putAt fl index frame frameSize bitInfo ts .normal).1 := by
  obtain ⟨hi1, hi2⟩ := hi
  unfold putAt
  by_cases hfs : fl.frameSize < frameSize
  · rw [if_pos hfs]
    exact Keeps.refl h
  rw [if_neg hfs]
  by_cases hlate : int32 (index - fl.origin) < 0 ∧ int32 (fl.origin - index) < maxMisorder
  · rw [if_pos hlate]
    exact Keeps.refl h
  rw [if_neg hlate]
  obtain ⟨hk, hdist, hnn⟩ := relocate_spec h ⟨hi1, hi2⟩
  have hcap := hk.rep.cap_le
  have hpos := hk.rep.head_lt
  simp only
  rw [int32_eq (by omega) (by omega)]
  by_cases hfull : ((relocate fl index).1.maxCount : ℤ) ≤ (relocate fl index).2
  · rw [if_pos hfull]
    by_cases hfar : maxDropout < (relocate fl index).2
    · rw [if_pos hfar]
      have hreset := reset_keeps hk.rep (show -2 ^ 30 ≤ index by omega) (show index ≤ 2 ^ 29 by omega)
      have hput := putSlot_keeps hreset.rep ⟨hi1, hi2⟩ (show 0 < (relocate fl index).1.maxCount by omega)
        (by simp) frame frameSize bitInfo ts
      exact (hk.trans hreset).trans hput
    · rw [if_neg hfar]
      exact hk
  · rw [if_neg hfull]
    exact hk.trans (putSlot_keeps hk.rep ⟨hi1, hi2⟩ (by omega) (by omega) frame frameSize bitInfo ts)

lemma putSlot_ne_etoomany (fl : Framelist) (index : ℤ) (d : ℕ) (frame : List UInt8)
    (frameSize bitInfo ts : ℕ) (frameType : FrameType) :
    (putSlot fl index d frame frameSize bitInfo ts frameType).2 ≠ .etoomany := by
  unfold putSlot
  dsimp only
  split_ifs <;> simp

lemma makeRoom_keeps (jb : Jbuf) {seq : ℤ} (hi : InRange seq) (frame : List UInt8)
    (frameSize bitInfo ts : ℕ) (k : ℕ) : ∀ {fl : Framelist} (status : PutStatus) (removed : ℕ), Rep fl →
    Keeps fl (makeRoom jb seq frame frameSize bitInfo ts k (fl, status) removed).1.1 := by
  induction k with
  | zero => exact fun _ _ h => Keeps.refl h
  | succ k ih =>
    intro fl status removed h
    rw [makeRoom]
    split_ifs
    · have h1 := removeHead_keeps h
        (u32 (int32 (int32 (seq - fl.origin) - int32 jb.maxCount + 1)))
      have h2 := putAt_keeps h1.rep hi frame frameSize bitInfo ts
      exact (h1.trans h2).trans (ih _ _ h2.rep)
    · exact Keeps.refl h

lemma storeFrame_keeps (jb : Jbuf) (h : Rep jb.framelist) {seq : ℤ} (hi : InRange seq)
    (frame : List UInt8) (bitInfo ts : ℕ) : Keeps jb.framelist (storeFrame jb frame bitInfo seq ts).1.1 := by
  have h1 := putAt_keeps h hi frame (min frame.length jb.frameSize) bitInfo ts
  exact h1.trans (makeRoom_keeps jb hi frame _ bitInfo ts 2 _ 0 h1.rep)

lemma framelistDiscard_rep (h : Rep fl) {k : ℕ} (hk : k < fl.size) (hd : (fl.at k).isDiscarded = false) :
    Rep (framelistDiscard fl (fl.origin + k)) ∧ (framelistDiscard fl (fl.origin + k)).maxCount = fl.maxCount ∧
      (framelistDiscard fl (fl.origin + k)).frameSize = fl.frameSize ∧
      ∀ ref, Marked fl ref → fl.origin + k ≤ ref → Marked (framelistDiscard fl (fl.origin + k)) ref := by
  have hge := h.origin_ge
  have hle := h.last_le
  have hsz := h.size_le
  unfold framelistDiscard
  rw [int32_eq (by omega) (by omega), if_pos (by omega), add_sub_cancel_left, Int.toNat_natCast]
  simp only
  generalize hv : ({ fl.slots ((fl.head + k) % fl.maxCount) with frameType := .discarded } : Slot) = v
  have hvd : v.isDiscarded = true := by
    rw [← hv]
    rfl
  have hring : ∀ j < fl.maxCount, ringAt fl.head fl.maxCount
      (Function.update fl.slots ((fl.head + k) % fl.maxCount) v) j = if j = k then v else fl.at j :=
    fun j hj => ringAt_update h.head_lt fl.slots v hj (by omega)
  have hcount := @ringCount_update _ _ _ h.head_lt Slot.isDiscarded fl.slots v _ _ hk hsz
  have hd' : Slot.isDiscarded (ringAt fl.head fl.maxCount fl.slots k) = false := hd
  rw [hd', hvd] at hcount
  refine ⟨⟨h.head_lt, hsz, ?_, ?_, h.cap_le, hge, hle⟩, trivial, trivial, ?_⟩
  · simp only [h.counted]
    simpa using hcount.symm
  · intro j h1 h2
    simp only at h1 h2
    simp only [Framelist.at, hring j h2, if_neg (show j ≠ k by omega)]
    exact h.outside j h1 h2
  · intro ref hm hkr j hj hdj
    simp only at hj
    simp only [Framelist.at, hring j (by omega)] at hdj
    split_ifs at hdj with hjk
    · rw [hjk]
      exact hkr
    · exact hm j hj hdj

end PjProject.JitterBuffer
