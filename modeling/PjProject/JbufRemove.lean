import PjProject.JbufPeek
import PjProject.JbufPut

/-!
# Removing frames

`pjmedia_jbuf_remove_frame` takes slots from the head, and goes on for as many as were of
discarded frames. It ends with the frames it was asked for, or with an empty window.
-/
namespace PjProject.JitterBuffer

open RingWindow
open Transition (run)

variable {fl : Framelist} {cap : ℕ}

/-- The discarded frames among the first `n` of the window. -/
def discardedIn (fl : Framelist) (n : ℕ) : ℕ := ringCount Slot.isDiscarded fl.head fl.maxCount fl.slots n

/-- The frames among the first `n` of the window that are not discarded. -/
def keptIn (fl : Framelist) (n : ℕ) : ℕ := n - discardedIn fl n

def Counted (fl : Framelist) : Prop := fl.discardedNum = discardedIn fl fl.size

instance (fl : Framelist) : Decidable (Counted fl) := inferInstanceAs (Decidable (_ = _))

lemma discardedIn_zero : discardedIn fl 0 = 0 := rfl

lemma discardedIn_le_self (fl : Framelist) (n : ℕ) : discardedIn fl n ≤ n := ringCount_le ..

lemma discardedIn_mono {m n : ℕ} (h : m ≤ n) : discardedIn fl m ≤ discardedIn fl n := by
  have hadd := @ringCount_add _ fl.head fl.maxCount Slot.isDiscarded fl.slots m (n - m)
  rw [Nat.add_sub_cancel' h] at hadd
  unfold discardedIn
  omega

lemma keptIn_mono {m n : ℕ} (h : m ≤ n) : keptIn fl m ≤ keptIn fl n := by
  have := discarded_le fl h
  have := discardedIn_le_self fl m
  unfold keptIn discardedIn at *
  omega

/-- The list without its first `n` frames, and the counter of discarded frames without theirs. -/
structure Cut (fl fl' : Framelist) (n : ℕ) : Prop where
  moved : HeadMoved fl fl' n
  le : n ≤ fl.size
  num : fl'.discardedNum + discardedIn fl n = fl.discardedNum
  frames : ∀ j < fl'.size, fl'.at j = fl.at (n + j)

lemma removeHead_cut (h : Sized fl cap) (hcap : cap < 2 ^ 31) (hc : Counted fl) (count : ℕ) :
    Cut fl (removeHead fl count).1 (min count fl.size) := by
  have hhead : fl.head < fl.maxCount := h.maxCount.symm ▸ h.head_lt
  have hsize : fl.size ≤ fl.maxCount := h.maxCount.symm ▸ h.size_le
  have hmax := h.maxCount
  have hm := (removeHead_moved h count).1
  refine ⟨hm, min_le_right _ _, removeHead_num hhead hsize hc (by omega) count, ?_⟩
  intro j hj
  rw [hm.size] at hj
  have hat : (removeHead fl count).1.at j =
      ringAt fl.head fl.maxCount (removeHead fl count).1.slots (min count fl.size + j) := by
    rw [Framelist.at, hm.head, hm.maxCount, ringAt_advance]
  rw [hat, removeHead_at hhead hsize count (by omega), if_neg (by omega)]

lemma Cut.discardedIn {fl' : Framelist} {m k : ℕ} (h : Cut fl fl' m) (hk : k ≤ fl'.size) :
    discardedIn fl' k + discardedIn fl m = discardedIn fl (m + k) := by
  have hrest : JitterBuffer.discardedIn fl' k =
      ringCount Slot.isDiscarded ((fl.head + m) % fl.maxCount) fl.maxCount fl.slots k := by
    rw [JitterBuffer.discardedIn, h.moved.maxCount]
    apply ringCount_congr
    intro j hj
    have hframe := h.frames j (by omega)
    rw [Framelist.at, h.moved.maxCount] at hframe
    rw [hframe, ringAt_advance]
    rfl
  rw [hrest]
  unfold JitterBuffer.discardedIn
  rw [ringCount_add, Nat.add_comm]

lemma Cut.counted {fl' : Framelist} {m : ℕ} (h : Cut fl fl' m) (hc : Counted fl) : Counted fl' := by
  have hsum := h.discardedIn le_rfl
  have hnum := h.num
  rw [h.moved.size, Nat.add_sub_cancel' h.le] at hsum
  unfold Counted at hc ⊢
  rw [h.moved.size]
  omega

lemma Cut.trans {a b c : Framelist} {m n : ℕ} (h : Cut a b m) (h' : Cut b c n) : Cut a c (m + n) := by
  have hle := h.le
  have hle' := h'.le
  have hsize := h.moved.size
  have hsize' := h'.moved.size
  have hsum := h.discardedIn hle'
  have hnum := h.num
  have hnum' := h'.num
  refine ⟨⟨?_, ?_, by omega, ?_, ?_⟩, by omega, by omega, ?_⟩
  · exact h'.moved.maxCount.trans h.moved.maxCount
  · exact h'.moved.frameSize.trans h.moved.frameSize
  · rw [h'.moved.origin, h.moved.origin, Nat.cast_add, ← add_assoc]
    exact Int.bmod_add_bmod
  · rw [h'.moved.head, h.moved.maxCount, h.moved.head, Nat.mod_add_mod, Nat.add_assoc]
  · intro j hj
    rw [h'.frames j hj, h.frames (n + j) (by omega), Nat.add_assoc]

/-- The shortest prefix of the window with `n` frames that are not discarded, or the whole window
when there are fewer. -/
structure Shortest (fl : Framelist) (n p : ℕ) : Prop where
  le : p ≤ fl.size
  found : n ≤ keptIn fl fl.size → keptIn fl p = n ∧ ∀ q < p, keptIn fl q < n
  all : keptIn fl fl.size < n → p = fl.size

/-- Before a round `p` frames are removed, of which `p'` in the rounds before the last one. -/
structure Rounds (fl cur : Framelist) (n p' p : ℕ) (lastNum : ℕ) (count : ℤ) : Prop where
  cut : Cut fl cur p
  le : p' ≤ p
  last : lastNum + discardedIn fl p' = fl.discardedNum
  count : count = p - discardedIn fl p'
  upto : p ≤ n + discardedIn fl p'
  done : p = n + discardedIn fl p' ∨ cur.size = 0
  progress : p' < p ∨ p < n + discardedIn fl p' ∨ p = 0

lemma Rounds.next {cur : Framelist} {n p' p lastNum : ℕ} {count : ℤ} (h : Rounds fl cur n p' p lastNum count)
    (hs : Sized cur cap) (hcap : cap < 2 ^ 31) (hc : Counted fl) (hmore : cur.discardedNum < lastNum) :
    Rounds fl (removeHead cur (lastNum - cur.discardedNum)).1 n p
      (p + min (lastNum - cur.discardedNum) cur.size) cur.discardedNum
      (count - (lastNum - cur.discardedNum : ℕ) + (removeHead cur (lastNum - cur.discardedNum)).2) := by
  obtain ⟨hcut, hle, hlast, hcount, hupto, hdone, hprogress⟩ := h
  have hnum := hcut.num
  have hcut' := removeHead_cut hs hcap (hcut.counted hc) (lastNum - cur.discardedNum)
  have hsize' := hcut'.moved.size
  refine ⟨hcut.trans hcut', by omega, hnum, ?_, by omega, by omega, by omega⟩
  rw [removeHead_count]
  omega

lemma Rounds.shortest {cur : Framelist} {n p' p lastNum : ℕ} {count : ℤ}
    (h : Rounds fl cur n p' p lastNum count) (hstop : ¬ cur.discardedNum < lastNum) :
    Shortest fl n p ∧ count = keptIn fl p := by
  obtain ⟨hcut, hle, hlast, hcount, hupto, hdone, hprogress⟩ := h
  have hnum := hcut.num
  have hmono := @discardedIn_mono fl _ _ hle
  have hself := discardedIn_le_self fl p
  -- the last round has removed no discarded frame
  have hsame : discardedIn fl p = discardedIn fl p' := by omega
  have hsize := hcut.moved.size
  have hall := @keptIn_mono fl _ _ hcut.le
  refine ⟨⟨hcut.le, ?_, ?_⟩, by unfold keptIn; omega⟩
  · intro hn
    have hp : p = n + discardedIn fl p' := by
      rcases hdone with hp | hempty
      · exact hp
      · have : p = fl.size := by have := hcut.le; omega
        rw [← this] at hn
        unfold keptIn at hn
        omega
    refine ⟨by unfold keptIn; omega, ?_⟩
    intro q hq
    have hlt : p' < p := by omega
    have hbefore : discardedIn fl p' ≤ discardedIn fl (p - 1) := discardedIn_mono (by omega)
    have hself' := discardedIn_le_self fl p'
    have hlastFrame : keptIn fl (p - 1) < n := by
      unfold keptIn
      omega
    exact (keptIn_mono (by omega)).trans_lt hlastFrame
  · intro hn
    rcases hdone with hp | hempty
    · unfold keptIn at hn hall
      omega
    · have := hcut.le
      omega

lemma removeMore_spec (hcap : cap < 2 ^ 31) (hc : Counted fl) {n : ℕ} (k : ℕ) :
    ∀ {cur : Framelist} {p' p lastNum : ℕ} {count : ℤ}, Sized cur cap → lastNum < k →
      Rounds fl cur n p' p lastNum count →
      ∃ q, Cut fl (removeMore k cur lastNum count).1 q ∧ Shortest fl n q ∧
        (removeMore k cur lastNum count).2 = keptIn fl q := by
  induction k with
  | zero => exact fun _ hk => absurd hk (Nat.not_lt_zero _)
  | succ k ih =>
    intro cur p' p lastNum count hs hk h
    rw [removeMore]
    by_cases hmore : cur.discardedNum < lastNum
    · rw [if_pos hmore]
      exact ih (hs.removeHead _) (by omega) (h.next hs hcap hc hmore)
    · rw [if_neg hmore]
      exact ⟨p, h.cut, h.shortest hmore⟩

lemma removeMore_fuel (k : ℕ) : ∀ {m lastNum : ℕ} {cur : Framelist} {count : ℤ}, lastNum < k → lastNum < m →
    removeMore m cur lastNum count = removeMore k cur lastNum count := by
  induction k with
  | zero => exact fun hk => absurd hk (Nat.not_lt_zero _)
  | succ k ih =>
    intro m lastNum cur count hk hm
    obtain ⟨m, rfl⟩ := Nat.exists_eq_add_one_of_ne_zero (show m ≠ 0 by omega)
    rw [removeMore, removeMore]
    split_ifs
    · exact ih (by omega) (by omega)
    · rfl

/-- What is said of `pjmedia_jbuf_remove_frame`. -/
structure RemovesShortest (jb : Jbuf) (frameCnt : ℕ) : Prop where
  /-- The loop ends: more rounds make no difference. -/
  terminates : ∀ k, removeMore (jb.framelist.discardedNum + 1 + k) (removeHead jb.framelist frameCnt).1
      jb.framelist.discardedNum (removeHead jb.framelist frameCnt).2 =
    ((removeFrame jb frameCnt).1.framelist, (removeFrame jb frameCnt).2)
  count : (removeFrame jb frameCnt).2 = min frameCnt (framelistEffSize jb.framelist)
  /-- The frames removed are a prefix of the window, the others keep their place and their index. -/
  shortest : ∃ p, Shortest jb.framelist frameCnt p ∧
    (removeFrame jb frameCnt).1.framelist.size = jb.framelist.size - p ∧
    (∀ j < jb.framelist.size - p, (removeFrame jb frameCnt).1.framelist.at j = jb.framelist.at (p + j)) ∧
    ∀ j : ℕ, int32 ((removeFrame jb frameCnt).1.framelist.origin + j) = int32 (jb.framelist.origin + (p + j : ℕ))

lemma effSize_eq (h : Sized fl cap) (hcap : cap < 2 ^ 31) (hc : Counted fl) :
    framelistEffSize fl = keptIn fl fl.size := by
  have hsize := h.size_le
  have hself := discardedIn_le_self fl fl.size
  have hc' : fl.discardedNum = discardedIn fl fl.size := hc
  rw [framelistEffSize, u32_sub (by omega) (by omega), hc']
  rfl

/-- For every history after which the counter of discarded frames is right. -/
theorem remove_shortest (memory : ℕ → Slot) (frameSize ptime maxCount : ℕ) (hpos : 0 < maxCount)
    (hcap : maxCount < 2 ^ 31) (calls : List Call) (hcalls : ∀ call ∈ calls, IntCall call)
    (hc : Counted (run step (create memory frameSize ptime maxCount) calls).framelist) (frameCnt : ℕ) :
    RemovesShortest (run step (create memory frameSize ptime maxCount) calls) frameCnt := by
  have h := sizedBuf_run memory frameSize ptime hpos hcap calls hcalls
  generalize run step (create memory frameSize ptime maxCount) calls = jb at h hc
  have hsize := (removeHead_cut h.list hcap hc frameCnt).moved.size
  have hstart : Rounds jb.framelist (removeHead jb.framelist frameCnt).1 frameCnt 0 (min frameCnt jb.framelist.size)
      jb.framelist.discardedNum (removeHead jb.framelist frameCnt).2 := by
    refine ⟨removeHead_cut h.list hcap hc frameCnt, Nat.zero_le _, by rw [discardedIn_zero]; rfl, ?_, ?_, ?_, ?_⟩
    · rw [removeHead_count, discardedIn_zero, Nat.cast_zero, sub_zero]
    all_goals
      rw [discardedIn_zero]
      omega
  obtain ⟨q, hcut, hshort, hcount⟩ := removeMore_spec hcap hc (jb.framelist.discardedNum + 1)
    (h.list.removeHead frameCnt) (Nat.lt_succ_self _) hstart
  refine ⟨?_, ?_, q, hshort, hcut.moved.size, ?_, ?_⟩
  · intro k
    exact removeMore_fuel _ (Nat.lt_succ_self _) (by omega)
  · have hall := @keptIn_mono jb.framelist _ _ hcut.le
    rw [show (removeFrame jb frameCnt).2 = _ from hcount, effSize_eq h.list hcap hc]
    by_cases hn : frameCnt ≤ keptIn jb.framelist jb.framelist.size
    · rw [(hshort.found hn).1, min_eq_left (by exact_mod_cast hn)]
    · rw [hshort.all (not_le.1 hn), min_eq_right (by exact_mod_cast (not_le.1 hn).le)]
  · intro j hj
    exact hcut.frames j (hcut.moved.size.symm ▸ hj)
  · intro j
    rw [show (removeFrame jb frameCnt).1.framelist.origin = _ from hcut.moved.origin, Nat.cast_add, ← add_assoc]
    exact Int.bmod_add_bmod

set_option maxRecDepth 4000 in
/-- Of the frames 1 to 9, 7 and 9 are discarded: the removal of seven takes the first eight. -/
theorem remove_shortest_burst : RemovesShortest (run step (create burstMemory 160 200 10) burst) 7 :=
  remove_shortest burstMemory 160 200 10 (by decide) (by decide) burst (by decide) (by decide) 7

set_option maxRecDepth 4000 in
/-- When more frames are asked for than there are, a discarded frame behind the last one goes too:
8 is the last frame that counts, and 9 is removed with it. -/
theorem remove_trailing_discarded : ¬ ∀ (memory : ℕ → Slot) (frameSize ptime maxCount : ℕ), 0 < maxCount →
    maxCount < 2 ^ 31 → ∀ calls : List Call, (∀ call ∈ calls, IntCall call) → ∀ frameCnt : ℕ,
      ∃ p, Shortest (run step (create memory frameSize ptime maxCount) calls).framelist
          (min frameCnt (framelistEffSize (run step (create memory frameSize ptime maxCount) calls).framelist)) p ∧
        (removeFrame (run step (create memory frameSize ptime maxCount) calls) frameCnt).1.framelist.size =
          (run step (create memory frameSize ptime maxCount) calls).framelist.size - p := by
  intro h
  obtain ⟨p, hshort, hsize⟩ := h burstMemory 160 200 10 (by decide) (by decide) burst (by decide) 8
  have hgone : (removeFrame (run step (create burstMemory 160 200 10) burst) 8).1.framelist.size = 0 := by decide
  have hnine : (run step (create burstMemory 160 200 10) burst).framelist.size = 9 := by decide
  have hmin := (hshort.found (by decide)).2 8 (by omega)
  exact absurd hmin (by decide)

end PjProject.JitterBuffer
