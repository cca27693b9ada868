import PjProject.Jbuf

/-!
# The window of the frame list

The frames of the list by their index. Taking and discarding frames only shrinks the window,
whatever the counter of discarded frames says; a put that is accepted adds one frame to it.
-/
namespace PjProject.JitterBuffer

open RingWindow

lemma int32_eq {x : ℤ} (h1 : -2 ^ 31 ≤ x) (h2 : x < 2 ^ 31) : int32 x = x := by
  unfold int32
  rw [Int.bmod_def]
  split_ifs <;> omega

lemma u32_eq {x : ℤ} (h1 : 0 ≤ x) (h2 : x < 2 ^ 32) : (u32 x : ℤ) = x := by
  unfold u32
  omega

variable {n : ℕ}

lemma u32_sub {m : ℕ} (h : n ≤ m) (hm : m < 2 ^ 32) : u32 ((m : ℤ) - n) = m - n := by
  unfold u32
  omega

/-- The window lies in the array, no slot outside it is in use, and the index behind it is an
`int`. -/
structure Window (fl : Framelist) : Prop where
  head_lt : fl.head < fl.maxCount
  size_le : fl.size ≤ fl.maxCount
  outside : ∀ j, fl.size ≤ j → j < fl.maxCount →
    (fl.at j).frameType = .missing ∧ (fl.at j).contentLen = 0
  cap_lt : fl.maxCount < 2 ^ 31
  origin_ge : -2 ^ 31 ≤ fl.origin
  last_lt : fl.origin + fl.size < 2 ^ 31

def Framelist.Holds (fl : Framelist) (i : ℤ) : Prop := fl.origin ≤ i ∧ i < fl.origin + fl.size

instance (fl : Framelist) (i : ℤ) : Decidable (fl.Holds i) := inferInstanceAs (Decidable (_ ∧ _))

def Framelist.frame (fl : Framelist) (i : ℤ) : Slot := fl.at (i - fl.origin).toNat

lemma Framelist.frame_add (fl : Framelist) (j : ℕ) : fl.frame (fl.origin + j) = fl.at j := by
  simp [Framelist.frame]

variable {i : ℤ}

lemma Framelist.Holds.exists_offset {fl : Framelist} (h : fl.Holds i) :
    ∃ j < fl.size, i = fl.origin + j := by
  obtain ⟨h1, h2⟩ := h
  exact ⟨(i - fl.origin).toNat, by omega, by omega⟩

lemma Window.at_zero {fl : Framelist} (h : Window fl) : fl.at 0 = fl.slots fl.head := by
  simp [Framelist.at, ringAt, Nat.mod_eq_of_lt h.head_lt]

structure Shrinks (fl fl' : Framelist) : Prop where
  window : Window fl'
  cap : fl'.maxCount = fl.maxCount
  frameSize : fl'.frameSize = fl.frameSize
  origin_le : fl.origin ≤ fl'.origin
  last : fl'.origin + fl'.size = fl.origin + fl.size
  frames : ∀ i, fl'.Holds i →
    fl'.frame i = fl.frame i ∨ fl'.frame i = { fl.frame i with frameType := .discarded }

lemma Shrinks.refl {fl : Framelist} (h : Window fl) : Shrinks fl fl :=
  ⟨h, rfl, rfl, le_rfl, rfl, fun _ _ => .inl rfl⟩

variable {fl' : Framelist}

lemma Shrinks.holds {fl : Framelist} (h : Shrinks fl fl') (hi : fl'.Holds i) :
    fl.Holds i :=
  ⟨h.origin_le.trans hi.1, h.last ▸ hi.2⟩

lemma Shrinks.trans {a b c : Framelist} (h : Shrinks a b) (h' : Shrinks b c) : Shrinks a c where
  window := h'.window
  cap := h'.cap.trans h.cap
  frameSize := h'.frameSize.trans h.frameSize
  origin_le := h.origin_le.trans h'.origin_le
  last := h'.last.trans h.last
  frames := by
    intro i hi
    rcases h'.frames i hi with h1 | h1 <;> rcases h.frames i (h'.holds hi) with h2 | h2
    · exact .inl (h1.trans h2)
    · exact .inr (h1.trans h2)
    · exact .inr (by rw [h1, h2])
    · exact .inr (by rw [h1, h2])

lemma Shrinks.normal {fl : Framelist} (h : Shrinks fl fl') (hi : fl'.Holds i)
    (hn : (fl'.frame i).frameType = .normal) : fl'.frame i = fl.frame i := by
  rcases h.frames i hi with h1 | h1
  · exact h1
  · rw [h1] at hn
    cases hn

lemma Shrinks.inUse {fl : Framelist} (h : Shrinks fl fl') (hi : fl'.Holds i)
    (hu : (fl.frame i).frameType ≠ .missing) : (fl'.frame i).frameType ≠ .missing := by
  rcases h.frames i hi with h1 | h1
  · rwa [h1]
  · rw [h1]
    simp

/-- The list without its first `n` frames. -/
structure Dropped (fl fl' : Framelist) (n : ℕ) : Prop where
  window : Window fl'
  cap : fl'.maxCount = fl.maxCount
  frameSize : fl'.frameSize = fl.frameSize
  le : n ≤ fl.size
  size : fl'.size = fl.size - n
  origin : fl'.origin = fl.origin + n
  frames : ∀ j < fl'.size, fl'.at j = fl.at (n + j)

lemma Dropped.refl {fl : Framelist} (h : Window fl) : Dropped fl fl 0 :=
  ⟨h, rfl, rfl, Nat.zero_le _, rfl, by simp, by simp⟩

lemma Dropped.shrinks {fl : Framelist} (h : Dropped fl fl' n) : Shrinks fl fl' := by
  obtain ⟨hw, hc, hf, hle, hs, ho, hfr⟩ := h
  refine ⟨hw, hc, hf, by omega, by omega, ?_⟩
  intro i hi
  obtain ⟨j, hj, rfl⟩ := hi.exists_offset
  left
  rw [fl'.frame_add, hfr j hj, ← fl.frame_add]
  congr 1
  push_cast
  omega

lemma dropped_of_ring {fl : Framelist} (h : Window fl) (hn : n ≤ fl.size)
    (hc : fl'.maxCount = fl.maxCount) (hf : fl'.frameSize = fl.frameSize)
    (hh : fl'.head = (fl.head + n) % fl.maxCount) (hs : fl'.size = fl.size - n)
    (ho : fl'.origin = int32 (fl.origin + n))
    (hfreed : ∀ j < n, (ringAt fl.head fl.maxCount fl'.slots j).frameType = .missing ∧
      (ringAt fl.head fl.maxCount fl'.slots j).contentLen = 0)
    (hkept : ∀ j, n ≤ j → j < fl.maxCount → ringAt fl.head fl.maxCount fl'.slots j = fl.at j) :
    Dropped fl fl' n := by
  obtain ⟨h1, h2, h3, h4, h5, h6⟩ := h
  have hat : ∀ j, fl'.at j = ringAt fl.head fl.maxCount fl'.slots (n + j) := by
    intro j
    simp only [Framelist.at, hc, hh]
    rw [ringAt_advance]
  rw [int32_eq (by omega) (by omega)] at ho
  refine ⟨⟨?_, by omega, ?_, by omega, by omega, by omega⟩, hc, hf, hn, hs, ho, ?_⟩
  · rw [hh, hc]
    exact Nat.mod_lt _ (by omega)
  · intro j hj1 hj2
    rw [hc] at hj2
    rw [hat]
    by_cases hj : n + j < fl.maxCount
    · rw [hkept _ (by omega) hj]
      exact h3 _ (by omega) hj
    · -- past the old end of the window stand the slots that were freed
      rw [show n + j = (n + j - fl.maxCount) + fl.maxCount by omega, ringAt_add_cap]
      exact hfreed _ (by omega)
  · intro j hj
    rw [hat]
    exact hkept _ (by omega) (by omega)

lemma removeHead_count (fl : Framelist) (count : ℕ) : (removeHead fl count).2 = min count fl.size := by
  unfold removeHead
  dsimp only
  split_ifs <;> omega

lemma removeHead_at {fl : Framelist} (hh : fl.head < fl.maxCount) (hsz : fl.size ≤ fl.maxCount) (count : ℕ)
    {j : ℕ} (hj : j < fl.maxCount) : ringAt fl.head fl.maxCount (removeHead fl count).1.slots j =
      if j < min count fl.size then (fl.at j).clear else fl.at j := by
  have hmin : (if fl.size < count then fl.size else count) = min count fl.size := by
    split_ifs <;> omega
  unfold removeHead
  simp only [hmin]
  by_cases h0 : min count fl.size = 0
  · rw [if_pos h0, h0, if_neg (Nat.not_lt_zero j)]
    rfl
  · simp only [if_neg h0]
    exact ringAt_mapRange Slot.clear fl.slots hh ((min_le_right _ _).trans hsz) rfl hj

lemma removeHead_dropped {fl : Framelist} (h : Window fl) (count : ℕ) :
    Dropped fl (removeHead fl count).1 (removeHead fl count).2 ∧
      (removeHead fl count).2 = min count fl.size := by
  have hcount := removeHead_count fl count
  refine ⟨?_, hcount⟩
  have hsz := h.size_le
  by_cases h0 : min count fl.size = 0
  · have hnone : removeHead fl count = (fl, 0) := by
      unfold removeHead
      dsimp only
      rw [if_pos (by split_ifs <;> omega)]
    rw [hnone]
    exact Dropped.refl h
  rw [hcount]
  have hring := fun j => @removeHead_at fl h.head_lt hsz count j
  have hmin : (if fl.size < count then fl.size else count) = min count fl.size := by
    split_ifs <;> omega
  refine dropped_of_ring h (min_le_right _ _) ?_ ?_ ?_ ?_ ?_ ?_ ?_
  iterate 5
    · unfold removeHead
      simp only [hmin, if_neg h0]
  · intro j hj
    rw [hring j (by omega), if_pos hj]
    exact ⟨rfl, rfl⟩
  · intro j hj1 hj2
    rw [hring j hj2, if_neg (by omega)]

lemma removeHead_shrinks {fl : Framelist} (h : Window fl) (count : ℕ) :
    Shrinks fl (removeHead fl count).1 :=
  (removeHead_dropped h count).1.shrinks

lemma removeMore_shrinks (k : ℕ) : ∀ {fl : Framelist} (lastNum : ℕ) (count : ℤ), Window fl →
    Shrinks fl (removeMore k fl lastNum count).1 := by
  induction k with
  | zero => exact fun _ _ h => Shrinks.refl h
  | succ k ih =>
    intro fl lastNum count h
    rw [removeMore]
    split_ifs
    · have h' := removeHead_shrinks h (lastNum - fl.discardedNum)
      exact h'.trans (ih _ _ h'.window)
    · exact Shrinks.refl h

lemma skipDiscarded_shrinks (k : ℕ) : ∀ {fl : Framelist}, Window fl →
    Shrinks fl (skipDiscarded k fl) := by
  induction k with
  | zero => exact fun h => Shrinks.refl h
  | succ k ih =>
    intro fl h
    rw [skipDiscarded]
    split_ifs
    · have h' := removeHead_shrinks h 1
      exact h'.trans (ih h'.window)
    · exact Shrinks.refl h

lemma skipDiscarded_self {fl : Framelist} (hd : (fl.slots fl.head).frameType ≠ .discarded) (k : ℕ) :
    skipDiscarded k fl = fl := by
  cases k with
  | zero => rfl
  | succ k => rw [skipDiscarded, if_neg hd]

lemma take_head_dropped {fl : Framelist} (h : Window fl) (hpos : fl.size ≠ 0) (content : List UInt8) :
    Dropped fl { fl with
      slots := Function.update fl.slots fl.head ⟨.missing, 0, 0, 0, content⟩
      origin := int32 (fl.origin + 1)
      head := (fl.head + 1) % fl.maxCount
      size := fl.size - 1 } 1 := by
  have hhead : fl.head = (fl.head + 0) % fl.maxCount := by simp [Nat.mod_eq_of_lt h.head_lt]
  have hring : ∀ j < fl.maxCount,
      ringAt fl.head fl.maxCount (Function.update fl.slots fl.head ⟨.missing, 0, 0, 0, content⟩) j =
        if j = 0 then ⟨.missing, 0, 0, 0, content⟩ else fl.at j := by
    intro j hj
    have := ringAt_update h.head_lt fl.slots ⟨.missing, 0, 0, 0, content⟩ hj
      (show 0 < fl.maxCount by omega)
    rwa [← hhead] at this
  have hcap : 0 < fl.maxCount := by have := h.head_lt; omega
  refine dropped_of_ring h (by omega) rfl rfl rfl rfl (by push_cast; rfl) ?_ ?_
  · intro j hj
    obtain rfl : j = 0 := by omega
    rw [hring 0 hcap, if_pos rfl]
    exact ⟨rfl, rfl⟩
  · intro j hj1 hj2
    rw [hring j hj2, if_neg (by omega)]

lemma framelistGet_spec {fl : Framelist} (h : Window fl) :
    Shrinks fl (framelistGet fl).1 ∧
      ∀ info, (framelistGet fl).2 = some info →
        fl.Holds info.seq ∧ (framelistGet fl).1.origin = info.seq + 1 ∧
          (info.frameType = .normal → (fl.frame info.seq).frameType = .normal ∧
            info.content = (fl.frame info.seq).content.take (fl.frame info.seq).contentLen) := by
  unfold framelistGet
  by_cases h0 : fl.size = 0
  · rw [if_pos h0]
    exact ⟨Shrinks.refl h, by simp⟩
  rw [if_neg h0]
  have hskip := skipDiscarded_shrinks (fl.size + 1) h
  have hsame : (fl.slots fl.head).frameType ≠ .discarded → skipDiscarded (fl.size + 1) fl = fl :=
    fun hd => skipDiscarded_self hd _
  generalize skipDiscarded (fl.size + 1) fl = fl1 at hskip hsame
  dsimp only
  by_cases h1 : fl1.size = 0
  · rw [if_pos h1]
    exact ⟨hskip, by simp⟩
  rw [if_neg h1]
  have hdrop := take_head_dropped hskip.window h1 (fl1.slots fl1.head).content
  refine ⟨hskip.trans hdrop.shrinks, ?_⟩
  have hhead : fl1.Holds fl1.origin := ⟨le_rfl, by omega⟩
  have hframe : fl1.frame fl1.origin = fl1.slots fl1.head := by
    rw [← hskip.window.at_zero, ← fl1.frame_add]
    simp
  have horigin := hdrop.origin
  intro info hinfo
  obtain rfl := Option.some.inj hinfo
  by_cases hd : (fl.slots fl.head).frameType = .discarded
  · simp only [hd, decide_true, if_true]
    exact ⟨hskip.holds hhead, by simpa using horigin, by simp⟩
  · obtain rfl := hsame hd
    simp only [hd, decide_false, Bool.false_eq_true, if_false]
    rw [hframe]
    exact ⟨hhead, by simpa using horigin, fun hn => ⟨hn, rfl⟩⟩

structure Stored (fl fl' : Framelist) (index : ℤ) (s : Slot) : Prop where
  window : Window fl'
  cap : fl'.maxCount = fl.maxCount
  frameSize : fl'.frameSize = fl.frameSize
  origin : fl'.origin = if fl.size = 0 then index else fl.origin
  holds : fl'.Holds index
  frame : fl'.frame index = s
  free : fl.Holds index → (fl.frame index).frameType = .missing
  kept : ∀ i, fl.Holds i → fl'.Holds i ∧ (i ≠ index → fl'.frame i = fl.frame i)
  others : ∀ i, fl'.Holds i → i ≠ index → fl.Holds i ∨ (fl'.frame i).frameType = .missing
  last : fl'.origin + fl'.size = max (index + 1) (fl'.origin + fl.size)

/-- An index such that the next one is an `int` as well. -/
def IntIndex (index : ℤ) : Prop := -2 ^ 31 ≤ index ∧ index < 2 ^ 31 - 1

instance (index : ℤ) : Decidable (IntIndex index) := inferInstanceAs (Decidable (_ ∧ _))

lemma putSlot_stored {fl : Framelist} (h : Window fl) {index : ℤ} (hi : IntIndex index) {d : ℕ}
    (hd : d < fl.maxCount) (hdist : fl.origin + d = index) (h0 : fl.size = 0 → d = 0)
    (hfree : (fl.at d).frameType = .missing) (frame : List UInt8) (frameSize bitInfo ts : ℕ) :
    (putSlot fl index d frame frameSize bitInfo ts .normal).2 = .success ∧
      Stored fl (putSlot fl index d frame frameSize bitInfo ts .normal).1 index
        ⟨.normal, frameSize, bitInfo, ts, frame.take frameSize⟩ := by
  obtain ⟨h1, h2, h3, h4, h5, h6⟩ := h
  obtain ⟨hi1, hi2⟩ := hi
  have hslot : (fl.slots ((fl.head + d) % fl.maxCount)).frameType = .missing := hfree
  unfold putSlot
  simp only [hslot, ne_eq, not_true_eq_false, if_false, if_true, true_and]
  generalize (⟨.normal, frameSize, bitInfo, ts, frame.take frameSize⟩ : Slot) = v
  rw [int32_eq (by omega) (by omega)]
  generalize hsize : (if fl.origin + (fl.size : ℤ) ≤ index then d + 1 else fl.size) = size'
  have hsize' : size' = max fl.size (d + 1) := by split_ifs at hsize <;> omega
  have hring : ∀ j < fl.maxCount, ringAt fl.head fl.maxCount
      (Function.update fl.slots ((fl.head + d) % fl.maxCount) v) j = if j = d then v else fl.at j :=
    fun j hj => ringAt_update h1 fl.slots v hj hd
  generalize hfl : ({ fl with
    slots := Function.update fl.slots ((fl.head + d) % fl.maxCount) v, size := size' } : Framelist) = fl'
  have hat : ∀ j < fl.maxCount, fl'.at j = if j = d then v else fl.at j := by
    rw [← hfl]
    exact hring
  have ho : fl'.origin = fl.origin := by rw [← hfl]
  have hc : fl'.maxCount = fl.maxCount := by rw [← hfl]
  have hs : fl'.size = size' := by rw [← hfl]
  have hin : ∀ i, fl.Holds i → fl'.Holds i := by
    intro i ⟨hi1, hi2⟩
    exact ⟨by omega, by omega⟩
  have hframe : ∀ i, fl'.Holds i → i ≠ index → fl'.frame i = fl.frame i := by
    intro i hi hne
    obtain ⟨j, hj, rfl⟩ := hi.exists_offset
    rw [fl'.frame_add, hat j (by omega), if_neg (by omega), ho, fl.frame_add]
  refine ⟨⟨?_, by omega, ?_, by omega, by omega, by omega⟩, hc, by rw [← hfl], ?_,
    ⟨by omega, by omega⟩, ?_, ?_, fun i hi => ⟨hin i hi, hframe i (hin i hi)⟩, ?_, by omega⟩
  · rw [← hfl]
    exact h1
  · intro j hj1 hj2
    rw [hat j (by omega), if_neg (by omega)]
    exact h3 j (by omega) (by omega)
  · split_ifs with hz
    · rw [ho, ← hdist, h0 hz]
      simp
    · exact ho
  · rw [← hdist, ← ho, fl'.frame_add, hat d hd, if_pos rfl]
  · intro _
    rw [← hdist, fl.frame_add]
    exact hfree
  · intro i hi hne
    by_cases hold : fl.Holds i
    · exact .inl hold
    · right
      rw [hframe i hi hne]
      obtain ⟨j, hj, rfl⟩ := hi.exists_offset
      rw [ho, fl.frame_add]
      refine (h3 j ?_ (by omega)).1
      by_contra hlt
      exact hold ⟨by omega, by omega⟩

lemma putSlot_occupied {fl : Framelist} {d : ℕ} (hused : (fl.at d).frameType ≠ .missing) (index : ℤ)
    (frame : List UInt8) (frameSize bitInfo ts : ℕ) :
    putSlot fl index d frame frameSize bitInfo ts .normal = (fl, .eexists) := by
  have hslot : (fl.slots ((fl.head + d) % fl.maxCount)).frameType ≠ .missing := hused
  unfold putSlot
  simp only [if_pos hslot]

lemma framelistReset_at (fl : Framelist) {j : ℕ} (hj : j < fl.maxCount) :
    ((framelistReset fl).at j).frameType = .missing ∧ ((framelistReset fl).at j).contentLen = 0 := by
  have : (framelistReset fl).at j = (fl.slots j).clear := by
    simp [Framelist.at, framelistReset, ringAt, mapRange, Nat.mod_eq_of_lt hj, hj]
  rw [this]
  exact ⟨rfl, rfl⟩

lemma relocate_empty {fl : Framelist} (h : Window fl) (h0 : fl.size = 0) {index : ℤ}
    (hi : IntIndex index) :
    ∃ fl1, relocate fl index = (fl1, 0) ∧ Window fl1 ∧ fl1.maxCount = fl.maxCount ∧
      fl1.frameSize = fl.frameSize ∧ fl1.size = 0 ∧ fl1.origin = index := by
  obtain ⟨h1, h2, h3, h4, h5, h6⟩ := h
  obtain ⟨hi1, hi2⟩ := hi
  have hmove : Window { fl with origin := index } :=
    ⟨h1, h2, h3, h4, hi1, by simp only [h0]; push_cast; omega⟩
  unfold relocate
  dsimp only
  by_cases hneg : int32 (index - fl.origin) < 0
  · simp only [if_pos hneg]
    by_cases hrestart : maxFrameIndex ≤ u32 (fl.origin + fl.size)
    · simp only [if_pos hrestart, if_pos h0]
      exact ⟨_, rfl, hmove, rfl, rfl, h0, rfl⟩
    · simp only [if_neg hrestart]
      have hsize : (framelistReset fl).size = 0 := rfl
      simp only [if_pos hsize]
      have hpos : 0 < fl.maxCount := by omega
      refine ⟨_, rfl, ⟨hpos, Nat.zero_le _, ?_, h4, hi1, ?_⟩, rfl, rfl, rfl, rfl⟩
      · intro j _ hj
        exact framelistReset_at fl hj
      · simp only [hsize]
        push_cast
        omega
  · simp only [if_neg hneg, if_pos h0]
    exact ⟨_, rfl, hmove, rfl, rfl, h0, rfl⟩

lemma relocate_ahead {fl : Framelist} (h0 : fl.size ≠ 0) {index : ℤ} (h1 : fl.origin ≤ index)
    (h2 : index - fl.origin < 2 ^ 31) : relocate fl index = (fl, index - fl.origin) := by
  unfold relocate
  rw [int32_eq (by omega) h2]
  simp only [if_neg (show ¬ index - fl.origin < 0 by omega), if_neg h0]

section PutAt

variable {fl : Framelist} {index : ℤ} {frameSize : ℕ} (frame : List UInt8) (bitInfo ts : ℕ)

lemma putAt_late (hfs : frameSize ≤ fl.frameSize) (h1 : index < fl.origin)
    (h2 : fl.origin - maxMisorder < index) :
    putAt fl index frame frameSize bitInfo ts .normal = (fl, .etoosmall) := by
  simp only [maxMisorder] at h2
  unfold putAt
  rw [if_neg (by omega), int32_eq (by omega) (by omega), int32_eq (by omega) (by omega), maxMisorder,
    if_pos (by omega)]

lemma putAt_start (h : Window fl) (hfs : frameSize ≤ fl.frameSize) (h0 : fl.size = 0) (hi : IntIndex index)
    (hlate : ¬ (int32 (index - fl.origin) < 0 ∧ int32 (fl.origin - index) < maxMisorder)) :
    (putAt fl index frame frameSize bitInfo ts .normal).2 = .success ∧
      Stored fl (putAt fl index frame frameSize bitInfo ts .normal).1 index
        ⟨.normal, frameSize, bitInfo, ts, frame.take frameSize⟩ := by
  obtain ⟨fl1, hrel, hw, hc, hf, hz, ho⟩ := relocate_empty h h0 hi
  have hpos : 0 < fl1.maxCount := by have := hw.head_lt; omega
  have hcap := hw.cap_lt
  have hfree := (hw.outside 0 (by omega) hpos).1
  obtain ⟨hok, hst⟩ := putSlot_stored hw hi hpos (by simp [ho]) (fun _ => rfl) hfree frame frameSize
    bitInfo ts
  unfold putAt
  rw [if_neg (by omega), hrel, if_neg hlate]
  simp only
  rw [int32_eq (by omega) (by omega), if_neg (by omega)]
  refine ⟨hok, hst.window, hst.cap.trans hc, hst.frameSize.trans hf, ?_, hst.holds, hst.frame,
    ?_, ?_, ?_, ?_⟩
  · rw [if_pos h0]
    exact hst.origin.trans (if_pos hz)
  · intro ⟨h1, h2⟩
    omega
  · intro i ⟨h1, h2⟩
    omega
  · intro i hi hne
    rcases hst.others i hi hne with ⟨h1, h2⟩ | hmiss
    · omega
    · exact .inr hmiss
  · have hlast := hst.last
    rw [hz] at hlast
    rw [h0]
    exact hlast

lemma putAt_empty (h : Window fl) (hfs : frameSize ≤ fl.frameSize) (h0 : fl.size = 0)
    (hi : IntIndex index) :
    putAt fl index frame frameSize bitInfo ts .normal = (fl, .etoosmall) ∨
      ((putAt fl index frame frameSize bitInfo ts .normal).2 = .success ∧
        Stored fl (putAt fl index frame frameSize bitInfo ts .normal).1 index
          ⟨.normal, frameSize, bitInfo, ts, frame.take frameSize⟩) := by
  by_cases hlate : int32 (index - fl.origin) < 0 ∧ int32 (fl.origin - index) < maxMisorder
  · left
    unfold putAt
    rw [if_neg (by omega), if_pos hlate]
  · exact .inr (putAt_start frame bitInfo ts h hfs h0 hi hlate)

lemma putAt_ahead (hfs : frameSize ≤ fl.frameSize) (h0 : fl.size ≠ 0) (h1 : fl.origin ≤ index)
    (h2 : index - fl.origin < 2 ^ 31) :
    putAt fl index frame frameSize bitInfo ts .normal =
      if int32 fl.maxCount ≤ index - fl.origin then
        if maxDropout < index - fl.origin then
          putSlot { framelistReset fl with origin := index } index 0 frame frameSize bitInfo ts .normal
        else (fl, .etoomany)
      else putSlot fl index (index - fl.origin).toNat frame frameSize bitInfo ts .normal := by
  unfold putAt
  rw [if_neg (by omega), relocate_ahead h0 h1 h2, int32_eq (by omega) h2, if_neg (by omega)]

lemma putAt_inside (h : Window fl) (hfs : frameSize ≤ fl.frameSize) (h0 : fl.size ≠ 0)
    (hi : IntIndex index) (h1 : fl.origin ≤ index) (h2 : index - fl.origin < fl.maxCount) :
    (putAt fl index frame frameSize bitInfo ts .normal = (fl, .eexists) ∧
        (fl.frame index).frameType ≠ .missing) ∨
      ((putAt fl index frame frameSize bitInfo ts .normal).2 = .success ∧
        Stored fl (putAt fl index frame frameSize bitInfo ts .normal).1 index
          ⟨.normal, frameSize, bitInfo, ts, frame.take frameSize⟩) := by
  have hcap := h.cap_lt
  rw [putAt_ahead frame bitInfo ts hfs h0 h1 (by omega), int32_eq (by omega) (by omega),
    if_neg (by omega)]
  by_cases hused : (fl.frame index).frameType = .missing
  · right
    exact putSlot_stored h hi (by omega) (by omega) (fun hz => absurd hz h0) hused frame frameSize bitInfo ts
  · exact .inl ⟨putSlot_occupied hused index frame frameSize bitInfo ts, hused⟩

lemma putAt_full (h : Window fl) (hfs : frameSize ≤ fl.frameSize) (h0 : fl.size ≠ 0)
    (h1 : (fl.maxCount : ℤ) ≤ index - fl.origin) (h2 : index - fl.origin ≤ maxDropout) :
    putAt fl index frame frameSize bitInfo ts .normal = (fl, .etoomany) := by
  have hcap := h.cap_lt
  have hdrop : maxDropout = 3000 := rfl
  rw [putAt_ahead frame bitInfo ts hfs h0 (by omega) (by omega), int32_eq (by omega) (by omega),
    if_pos h1, if_neg (by omega)]

end PutAt

/-- An index that is not behind the window by more than a reordering, nor so far ahead of it
that the list starts over. -/
def Follows (fl : Framelist) (index : ℤ) : Prop :=
  fl.origin - maxMisorder < index ∧
    (fl.size = 0 ∨ index - fl.origin < fl.maxCount ∨ index - fl.origin ≤ maxDropout)

instance (fl : Framelist) (index : ℤ) : Decidable (Follows fl index) :=
  inferInstanceAs (Decidable (_ ∧ (_ ∨ _ ∨ _)))

lemma putAt_room {fl : Framelist} (h : Window fl) {index : ℤ} (hi : IntIndex index)
    {frameSize : ℕ} (hfs : frameSize ≤ fl.frameSize) (h1 : (fl.maxCount : ℤ) ≤ index - fl.origin)
    (h2 : index - fl.origin ≤ maxDropout) (frame : List UInt8) (bitInfo ts : ℕ) {fl1 : Framelist} (hd : Dropped fl fl1 n)
    (hn : (n : ℤ) = min (index - fl.origin - fl.maxCount + 1) fl.size) :
    (putAt fl1 index frame frameSize bitInfo ts .normal).2 = .success ∧
      Stored fl1 (putAt fl1 index frame frameSize bitInfo ts .normal).1 index
        ⟨.normal, frameSize, bitInfo, ts, frame.take frameSize⟩ := by
  have hsz := h.size_le
  have hw := hd.window
  have hdrop : maxDropout = 3000 := rfl
  have hmis : maxMisorder = 100 := rfl
  have hs := hd.size
  have ho := hd.origin
  have hc := hd.cap
  have hfs' : frameSize ≤ fl1.frameSize := hd.frameSize.symm ▸ hfs
  by_cases hz : fl1.size = 0
  · refine putAt_start frame bitInfo ts hw hfs' hz hi ?_
    rw [int32_eq (by omega) (by omega)]
    omega
  · have hfree : (fl1.frame index).frameType = .missing := by
      have hoff : (index - fl1.origin).toNat = fl1.maxCount - 1 := by omega
      rw [Framelist.frame, hoff]
      exact (hw.outside _ (by omega) (by have := hw.head_lt; omega)).1
    rcases putAt_inside frame bitInfo ts hw hfs' hz hi (by omega) (by omega) with ⟨-, hused⟩ | hok
    · exact absurd hfree hused
    · exact hok

lemma makeRoom_stop (jb : Jbuf) (seq : ℤ) (frame : List UInt8) (frameSize bitInfo ts k : ℕ)
    {r : Framelist × PutStatus} (hr : r.2 ≠ .etoomany) (removed : ℕ) :
    makeRoom jb seq frame frameSize bitInfo ts k r removed = (r, removed) := by
  cases k with
  | zero => rfl
  | succ k => rw [makeRoom, if_neg hr]

lemma storeFrame_spec {jb : Jbuf} (h : Window jb.framelist) (hcap : jb.maxCount = jb.framelist.maxCount)
    (hsize : jb.frameSize = jb.framelist.frameSize) {seq : ℤ} (hi : IntIndex seq)
    (hf : jb.framelist.size = 0 ∨ Follows jb.framelist seq) (frame : List UInt8) (bitInfo ts : ℕ) :
    ((storeFrame jb frame bitInfo seq ts).1.1 = jb.framelist ∧
        (storeFrame jb frame bitInfo seq ts).1.2 ≠ .success) ∨
      ((storeFrame jb frame bitInfo seq ts).1.2 = .success ∧
        ∃ fl1, Shrinks jb.framelist fl1 ∧
          (jb.framelist.origin - maxMisorder < seq → fl1.origin ≤ seq) ∧
          Stored fl1 (storeFrame jb frame bitInfo seq ts).1.1 seq
            ⟨.normal, min frame.length jb.frameSize, bitInfo, ts,
              frame.take (min frame.length jb.frameSize)⟩) := by
  have hfs : min frame.length jb.frameSize ≤ jb.framelist.frameSize := hsize ▸ min_le_right _ _
  unfold storeFrame
  dsimp only
  generalize min frame.length jb.frameSize = frameSize at hfs ⊢
  have hself := Shrinks.refl h
  by_cases hlate : seq < jb.framelist.origin ∧ jb.framelist.origin - maxMisorder < seq
  · rw [putAt_late frame bitInfo ts hfs hlate.1 hlate.2,
      makeRoom_stop _ _ _ _ _ _ _ (by simp)]
    exact .inl ⟨rfl, by simp⟩
  have hahead : jb.framelist.origin - maxMisorder < seq → jb.framelist.origin ≤ seq := by
    intro h1
    by_contra h2
    exact hlate ⟨by omega, h1⟩
  by_cases h0 : jb.framelist.size = 0
  · rcases putAt_empty frame bitInfo ts h hfs h0 hi with heq | ⟨hok, hst⟩
    · rw [heq, makeRoom_stop _ _ _ _ _ _ _ (by simp)]
      exact .inl ⟨rfl, by simp⟩
    · rw [makeRoom_stop _ _ _ _ _ _ _ (by simp [hok])]
      exact .inr ⟨hok, _, hself, hahead, hst⟩
  obtain ⟨hf1, hf2⟩ := hf.resolve_left h0
  have hge := hahead hf1
  by_cases hin : seq - jb.framelist.origin < jb.framelist.maxCount
  · rcases putAt_inside frame bitInfo ts h hfs h0 hi hge hin with ⟨heq, -⟩ | ⟨hok, hst⟩
    · rw [heq, makeRoom_stop _ _ _ _ _ _ _ (by simp)]
      exact .inl ⟨rfl, by simp⟩
    · rw [makeRoom_stop _ _ _ _ _ _ _ (by simp [hok])]
      exact .inr ⟨hok, _, hself, hahead, hst⟩
  · have hfar : seq - jb.framelist.origin ≤ maxDropout := (hf2.resolve_left h0).resolve_left hin
    have hcl := h.cap_lt
    have hdrop : maxDropout = 3000 := rfl
    rw [putAt_full frame bitInfo ts h hfs h0 (by omega) hfar, makeRoom, if_pos rfl]
    dsimp only
    have hcount : (u32 (int32 (int32 (seq - jb.framelist.origin) - int32 jb.maxCount + 1)) : ℤ) =
        seq - jb.framelist.origin - jb.framelist.maxCount + 1 := by
      rw [hcap, int32_eq (x := seq - jb.framelist.origin) (by omega) (by omega),
        int32_eq (x := (jb.framelist.maxCount : ℤ)) (by omega) (by omega),
        int32_eq (by omega) (by omega), u32_eq (by omega) (by omega)]
    generalize u32 (int32 (int32 (seq - jb.framelist.origin) - int32 jb.maxCount + 1)) = count at hcount ⊢
    obtain ⟨hd, hn⟩ := removeHead_dropped h count
    obtain ⟨hok, hst⟩ := putAt_room h hi hfs (by omega) hfar frame bitInfo ts hd (by omega)
    rw [makeRoom_stop _ _ _ _ _ _ _ (by simp [hok])]
    refine .inr ⟨hok, _, hd.shrinks, ?_, hst⟩
    intro _
    have := hd.origin
    have := h.size_le
    omega

lemma framelistDiscard_shrinks {fl : Framelist} (h : Window fl) (index : ℤ) :
    Shrinks fl (framelistDiscard fl index) := by
  obtain ⟨h1, h2, h3, h4, h5, h6⟩ := h
  unfold framelistDiscard
  rw [int32_eq (by omega) h6]
  by_cases hin : fl.origin ≤ index ∧ index < fl.origin + fl.size
  · rw [if_pos hin]
    obtain ⟨k, hk, rfl⟩ := Framelist.Holds.exists_offset hin
    rw [add_sub_cancel_left, Int.toNat_natCast]
    have hring : ∀ j < fl.maxCount, ringAt fl.head fl.maxCount (Function.update fl.slots
        ((fl.head + k) % fl.maxCount)
        { fl.slots ((fl.head + k) % fl.maxCount) with frameType := .discarded }) j =
        if j = k then { fl.at k with frameType := .discarded } else fl.at j :=
      fun j hj => ringAt_update h1 fl.slots _ hj (by omega)
    refine ⟨⟨h1, h2, ?_, h4, h5, h6⟩, rfl, rfl, le_rfl, rfl, ?_⟩
    · intro j hj1 hj2
      simp only at hj1 hj2
      simp only [Framelist.at, hring j hj2, if_neg (show j ≠ k by omega)]
      exact h3 j hj1 hj2
    · intro i hi
      obtain ⟨j, hj, rfl⟩ := hi.exists_offset
      simp only at hj
      simp only [Framelist.frame, add_sub_cancel_left, Int.toNat_natCast, Framelist.at,
        hring j (by omega)]
      by_cases hjk : j = k
      · rw [if_pos hjk, hjk]
        exact .inr rfl
      · rw [if_neg hjk]
        exact .inl rfl
  · rw [if_neg hin]
    exact Shrinks.refl ⟨h1, h2, h3, h4, h5, h6⟩

end PjProject.JitterBuffer
