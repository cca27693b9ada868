import PjProject.JbufRun

/-!
# Peeking and getting

Both skip discarded frames. A peek reports the frame as it is, and its index as if no frame had
been skipped; a get reports a missing frame when it has skipped some.
-/
namespace PjProject.JitterBuffer

open RingWindow
open Transition (run Guarded)

variable {fl : Framelist}

/-- What the call after `n` others of `jb_framelist_get` returns. -/
def getsAfter : ℕ → Framelist → Option FrameInfo
  | 0, fl => (framelistGet fl).2
  | n + 1, fl => getsAfter n (framelistGet fl).1

/-- The window has its frame number `n`, not counting discarded ones, at offset `q`. -/
structure Nth (fl : Framelist) (n q : ℕ) : Prop where
  lt : q < fl.size
  kept : (fl.at q).isDiscarded = false
  before : ringCount Slot.isDiscarded fl.head fl.maxCount fl.slots q + n = q

variable {n : ℕ}

lemma exists_nth (h : Rep fl) (hn : n < framelistEffSize fl) : ∃ q, Nth fl n q := by
  have key : ∀ m, m ≤ fl.size → n + ringCount Slot.isDiscarded fl.head fl.maxCount fl.slots m < m →
      ∃ q, Nth fl n q := by
    intro m
    induction m with
    | zero => omega
    | succ m ih =>
      intro hm hlt
      rw [ringCount_succ] at hlt
      by_cases hearlier : n + ringCount Slot.isDiscarded fl.head fl.maxCount fl.slots m < m
      · exact ih (by omega) hearlier
      · cases hd : Slot.isDiscarded (ringAt fl.head fl.maxCount fl.slots m) with
        | true => simp [hd] at hlt; omega
        | false =>
          simp only [hd, Bool.false_eq_true, if_false] at hlt
          exact ⟨m, by omega, hd, by omega⟩
  have hle := h.num_le
  rw [h.effSize] at hn
  exact key fl.size le_rfl (by rw [← h.counted]; omega)

lemma discarded_le (fl : Framelist) {m : ℕ} (h : m ≤ n) :
    ringCount Slot.isDiscarded fl.head fl.maxCount fl.slots n ≤
      ringCount Slot.isDiscarded fl.head fl.maxCount fl.slots m + (n - m) := by
  have hadd := @ringCount_add _ fl.head fl.maxCount Slot.isDiscarded fl.slots m (n - m)
  have hle := @ringCount_le _ ((fl.head + m) % fl.maxCount) fl.maxCount Slot.isDiscarded fl.slots (n - m)
  rw [Nat.add_sub_cancel' h] at hadd
  omega

lemma discarded_succ (fl : Framelist) (j : ℕ) :
    ringCount Slot.isDiscarded fl.head fl.maxCount fl.slots (j + 1) =
      ringCount Slot.isDiscarded fl.head fl.maxCount fl.slots j + if (fl.at j).isDiscarded then 1 else 0 :=
  ringCount_succ ..

lemma discarded_eq_zero :
    ringCount Slot.isDiscarded fl.head fl.maxCount fl.slots n = 0 ↔ ∀ j < n, (fl.at j).isDiscarded = false := by
  simp [ringCount, List.countP_eq_zero, Framelist.at]

variable {q : ℕ}

lemma Nth.offset_eq_iff (h : Nth fl n q) : q = n ↔ ∀ j ≤ n, (fl.at j).isDiscarded = false := by
  have hbefore := h.before
  constructor
  · rintro rfl j hj
    have hzero : ringCount Slot.isDiscarded fl.head fl.maxCount fl.slots q = 0 := by omega
    rcases Nat.lt_or_eq_of_le hj with hlt | rfl
    · exact discarded_eq_zero.1 hzero j hlt
    · exact h.kept
  · intro hall
    by_contra hne
    have hzero : ringCount Slot.isDiscarded fl.head fl.maxCount fl.slots (n + 1) = 0 :=
      discarded_eq_zero.2 fun j hj => hall j (Nat.lt_succ_iff.1 hj)
    have hle := discarded_le fl (show n + 1 ≤ q by omega)
    omega

lemma peekPos_eq (hq : (fl.at q).isDiscarded = false) (k : ℕ) : ∀ (j idx : ℕ), j ≤ q → q < j + k →
      idx + ringCount Slot.isDiscarded fl.head fl.maxCount fl.slots q + j =
        ringCount Slot.isDiscarded fl.head fl.maxCount fl.slots j + q →
      peekPos fl k ((fl.head + j) % fl.maxCount) idx = (fl.head + q) % fl.maxCount := by
  induction k with
  | zero =>
    intro j idx hjq hlt
    omega
  | succ k ih =>
    intro j idx hjq hlt hidx
    have hnext : ((fl.head + j) % fl.maxCount + 1) % fl.maxCount = (fl.head + (j + 1)) % fl.maxCount := by
      rw [Nat.mod_add_mod, Nat.add_assoc]
    have hsucc := discarded_succ fl j
    rw [peekPos, hnext]
    cases hd : (fl.at j).isDiscarded with
    | true =>
      have hjne : j ≠ q := by
        rintro rfl
        rw [hq] at hd
        cases hd
      have htype : (fl.slots ((fl.head + j) % fl.maxCount)).frameType = .discarded := of_decide_eq_true hd
      rw [if_neg (not_not.2 htype)]
      rw [hd, if_pos rfl] at hsucc
      exact ih _ _ (by omega) (by omega) (by omega)
    | false =>
      have htype : (fl.slots ((fl.head + j) % fl.maxCount)).frameType ≠ .discarded := of_decide_eq_false hd
      rw [if_pos htype]
      simp only [hd, Bool.false_eq_true, if_false, add_zero] at hsucc
      by_cases hzero : idx = 0
      · -- the frames from here on to `q` would all be discarded, and this one is not
        have hjq' : j = q := by
          by_contra hne
          have hle := discarded_le fl (show j + 1 ≤ q by omega)
          omega
        rw [if_pos hzero, hjq']
      · have hjne : j ≠ q := by
          rintro rfl
          omega
        rw [if_neg hzero]
        exact ih _ _ (by omega) (by omega) (by omega)

lemma framelistPeek_eq (h : Rep fl) (hq : Nth fl n q) :
    framelistPeek fl n = some ⟨(fl.at q).frameType, (fl.at q).content.take (fl.at q).contentLen,
      (fl.at q).bitInfo, (fl.at q).ts, fl.origin + n⟩ := by
  have hlt := hq.lt
  have hbefore := hq.before
  have hpos : peekPos fl fl.size fl.head n = (fl.head + q) % fl.maxCount := by
    have := peekPos_eq hq.kept fl.size 0 n (Nat.zero_le q) (by omega)
      (by simp [ringCount] at hbefore ⊢; omega)
    rwa [Nat.add_zero, Nat.mod_eq_of_lt h.head_lt] at this
  have hoff : ¬framelistEffSize fl ≤ n := by
    have hle := discarded_le fl (show q + 1 ≤ fl.size from hlt)
    have hsucc := discarded_succ fl q
    simp only [hq.kept, Bool.false_eq_true, if_false, add_zero] at hsucc
    rw [h.effSize, h.counted]
    omega
  have hint : int32 (fl.origin + n) = fl.origin + n := by
    have := h.origin_ge
    have := h.last_le
    exact int32_eq (by omega) (by omega)
  rw [framelistPeek, if_neg hoff, hpos, hint]
  rfl

lemma skipDiscarded_removed (d : ℕ) : ∀ {fl : Framelist} {k : ℕ}, Rep fl → d < fl.size → d < k →
    (∀ j < d, (fl.at j).isDiscarded = true) → (fl.at d).isDiscarded = false →
    Removed fl (skipDiscarded k fl) d := by
  induction d with
  | zero =>
    intro fl k h _ _ _ hd
    rw [h.window.at_zero] at hd
    rw [skipDiscarded_self (of_decide_eq_false hd)]
    exact Removed.refl h
  | succ d ih =>
    intro fl k h hlt hk hall hd
    obtain ⟨k, rfl⟩ : ∃ k', k = k' + 1 := ⟨k - 1, by omega⟩
    have hfirst := hall 0 (Nat.succ_pos d)
    rw [h.window.at_zero] at hfirst
    rw [skipDiscarded, if_pos (of_decide_eq_true hfirst)]
    obtain ⟨hrem, hcount⟩ := removeHead_removed h 1
    rw [hcount, Nat.min_eq_left (by omega)] at hrem
    have hsize := hrem.size
    have hat : ∀ j, j ≤ d → (removeHead fl 1).1.at j = fl.at (j + 1) := by
      intro j hj
      rw [hrem.frames j (by omega), Nat.add_comm]
    have hrest := ih (k := k) hrem.rep (by omega) (by omega)
      (fun j hj => by rw [hat j hj.le]; exact hall (j + 1) (by omega)) (by rw [hat d le_rfl]; exact hd)
    have htrans := hrem.trans hrest
    rwa [Nat.add_comm] at htrans

/-- What a get returns for the frame behind `d` discarded ones: a missing frame if there are any. -/
def getInfo (fl : Framelist) (prevDiscarded : Bool) (q : ℕ) : FrameInfo :=
  if prevDiscarded then ⟨.missing, [], 0, (fl.at q).ts, fl.origin + q⟩
  else ⟨(fl.at q).frameType, (fl.at q).content.take (fl.at q).contentLen, (fl.at q).bitInfo,
    (fl.at q).ts, fl.origin + q⟩

def prevDiscarded (fl : Framelist) (q : ℕ) : Bool := 0 < q && (fl.at (q - 1)).isDiscarded

lemma framelistGet_eq (h : Rep fl) {d : ℕ} (hd : Nth fl 0 d) :
    Removed fl (framelistGet fl).1 (d + 1) ∧ (framelistGet fl).2 = some (getInfo fl (prevDiscarded fl d) d) := by
  have hlt := hd.lt
  have hbefore := hd.before
  have hall : ∀ j < d, (fl.at j).isDiscarded = true := by
    intro j hj
    by_contra hno
    rw [Bool.not_eq_true] at hno
    have hle := discarded_le fl (show j + 1 ≤ d from hj)
    have hle' := discarded_le fl (Nat.zero_le j)
    have hsucc := discarded_succ fl j
    simp only [hno, Bool.false_eq_true, if_false, add_zero] at hsucc
    simp only [ringCount, List.range_zero, List.countP_nil] at hle'
    simp only [ringCount] at *
    omega
  have hskip := skipDiscarded_removed d (k := fl.size + 1) h hlt (by omega) hall hd.kept
  have hflag : (decide ((fl.slots fl.head).frameType = .discarded) : Bool) = prevDiscarded fl d := by
    have hhead : (decide ((fl.slots fl.head).frameType = .discarded) : Bool) = (fl.at 0).isDiscarded := by
      rw [h.window.at_zero]
      rfl
    rw [hhead, prevDiscarded]
    cases d with
    | zero => simp [hd.kept]
    | succ d => simp [hall 0 (Nat.succ_pos d), hall d (Nat.lt_succ_self d)]
  unfold framelistGet
  rw [if_neg (show fl.size ≠ 0 by omega), hflag]
  generalize skipDiscarded (fl.size + 1) fl = fl1 at hskip
  have hsize := hskip.size
  have hframe := hskip.frames 0 (by omega)
  rw [hskip.rep.window.at_zero, Nat.add_zero] at hframe
  have htype : (fl1.slots fl1.head).frameType ≠ .discarded := by
    rw [hframe]
    exact of_decide_eq_false hd.kept
  have htake := take_head_removed hskip.rep (show fl1.size ≠ 0 by omega) htype (fl1.slots fl1.head).content
  have hboth := hskip.trans htake
  dsimp only
  rw [if_neg (show fl1.size ≠ 0 by omega)]
  refine ⟨hboth, ?_⟩
  rw [getInfo, hframe, hskip.origin]

lemma getsAfter_eq (n : ℕ) : ∀ {fl : Framelist} {q : ℕ}, Rep fl → Nth fl n q →
    getsAfter n fl = some (getInfo fl (prevDiscarded fl q) q) := by
  induction n with
  | zero => exact fun h hq => (framelistGet_eq h hq).2
  | succ n ih =>
    intro fl q h hq
    have hlt := hq.lt
    have hbefore := hq.before
    obtain ⟨d, hd⟩ := exists_nth h (n := 0) (by
      have hle := discarded_le fl (show q + 1 ≤ fl.size from hlt)
      have hsucc := discarded_succ fl q
      simp only [hq.kept, Bool.false_eq_true, if_false, add_zero] at hsucc
      rw [h.effSize, h.counted]
      omega)
    have hdlt := hd.lt
    have hdbefore := hd.before
    have hdsucc := discarded_succ fl d
    simp only [hd.kept, Bool.false_eq_true, if_false, add_zero] at hdsucc
    have hdq : d < q := by
      by_contra hno
      have hle := discarded_le fl (show q ≤ d by omega)
      omega
    -- the rest of the window is that behind the frame at `d`
    obtain ⟨hrem, -⟩ := framelistGet_eq h hd
    obtain ⟨k, rfl⟩ : ∃ k, q = d + 1 + k := ⟨q - (d + 1), by omega⟩
    have hsize := hrem.size
    have hat : ∀ j, j ≤ k → (framelistGet fl).1.at j = fl.at (d + 1 + j) :=
      fun j hj => hrem.frames j (by omega)
    have hcount := hrem.count (show k ≤ (framelistGet fl).1.size by omega)
    have hnth : Nth (framelistGet fl).1 n k := ⟨by omega, by rw [hat k le_rfl]; exact hq.kept, by omega⟩
    have hprev : prevDiscarded (framelistGet fl).1 k = prevDiscarded fl (d + 1 + k) := by
      unfold prevDiscarded
      cases k with
      | zero => simp [hd.kept]
      | succ k =>
        rw [Nat.add_sub_cancel, hat k (Nat.le_succ k)]
        simp [← Nat.add_assoc]
    rw [getsAfter, ih hrem.rep hnth, hprev]
    simp only [getInfo, hat k le_rfl, hrem.origin]
    push_cast
    simp only [add_assoc]

/-- A peek at an offset reports what the call after `offset` others of `jb_framelist_get` returns. -/
def PeekAgrees (jb : Jbuf) (offset : ℕ) : Prop :=
  ∃ info, getsAfter offset jb.framelist = some info ∧
    peekFrame jb offset = (if info.frameType = .normal then .normal else .missing, some info)

lemma peekFrame_eq {jb : Jbuf} {offset : ℕ} {info : FrameInfo}
    (h : framelistPeek jb.framelist offset = some info) :
    peekFrame jb offset = (if info.frameType = .normal then .normal else .missing, some info) := by
  unfold peekFrame
  simp only [h]

lemma peekAgrees_iff {jb : Jbuf} (h : Rep jb.framelist) {offset : ℕ}
    (hlt : offset < framelistEffSize jb.framelist) :
    PeekAgrees jb offset ↔ ∀ j ≤ offset, (jb.framelist.at j).isDiscarded = false := by
  obtain ⟨q, hq⟩ := exists_nth h hlt
  have hgets := getsAfter_eq offset h hq
  have hpeek := peekFrame_eq (framelistPeek_eq h hq)
  rw [← hq.offset_eq_iff]
  constructor
  · rintro ⟨info, hinfo, heq⟩
    rw [hpeek] at heq
    obtain rfl := Option.some.inj (hgets.symm.trans hinfo)
    -- the index that a get returns counts the discarded frames, the one that a peek reports does not
    have hseq : jb.framelist.origin + offset = (getInfo jb.framelist (prevDiscarded jb.framelist q) q).seq :=
      congrArg FrameInfo.seq (Option.some.inj (Prod.mk.inj heq).2)
    have hseq' : (getInfo jb.framelist (prevDiscarded jb.framelist q) q).seq = jb.framelist.origin + q := by
      unfold getInfo
      split_ifs <;> rfl
    rw [hseq'] at hseq
    omega
  · rintro rfl
    have hprev : prevDiscarded jb.framelist q = false := by
      have hall := hq.offset_eq_iff.1 rfl
      simp [prevDiscarded, hall (q - 1) (Nat.sub_le q 1)]
    rw [hprev] at hgets
    exact ⟨_, hgets, hpeek⟩

/-- After every run of allowed calls, a peek agrees with the gets exactly when none of the frames up
to its offset is discarded. -/
theorem peek_agrees_iff (memory : ℕ → Slot) (frameSize ptime maxCount : ℕ) (hp : 0 < ptime)
    (hm : 0 < maxCount) (hcap : maxCount ≤ 2 ^ 29) (calls : List Call)
    (hg : Guarded step Allowed (create memory frameSize ptime maxCount) calls) (offset : ℕ)
    (hlt : offset < framelistEffSize (run step (create memory frameSize ptime maxCount) calls).framelist) :
    PeekAgrees (run step (create memory frameSize ptime maxCount) calls) offset ↔
      ∀ j ≤ offset, ((run step (create memory frameSize ptime maxCount) calls).framelist.at j).isDiscarded =
        false := by
  have hinv := @Guarded.invariant _ _ step Allowed Inv (fun _ call h hok => step_inv h call hok)
    calls _ (create_inv memory frameSize hp hm hcap) hg
  exact peekAgrees_iff hinv.rep hlt

def burst : List Call :=
  [.put [1] 0 1 0, .get, .put [2] 0 2 0, .get, .put [3] 0 3 0, .get, .put [4] 0 4 0, .get, .put [5] 0 5 0,
    .get, .put [6] 0 6 0, .put [7] 0 7 0, .put [8] 0 8 0, .put [9] 0 9 0]

def burstMemory : ℕ → Slot := fun _ => ⟨.missing, 0, 0, 0, []⟩

theorem peek_agrees_burst : PeekAgrees (run step (create burstMemory 160 200 10) burst) 5 ↔
      ∀ j ≤ 5, ((run step (create burstMemory 160 200 10) burst).framelist.at j).isDiscarded = false :=
  peek_agrees_iff burstMemory 160 200 10 (by decide) (by decide) (by decide) burst (by decide) 5 (by decide)

set_option maxRecDepth 4000 in
/-- Frame 8 is peeked with index 7, and got as a missing frame with index 8. -/
theorem peek_differs_burst : 6 < framelistEffSize (run step (create burstMemory 160 200 10) burst).framelist ∧
      peekFrame (run step (create burstMemory 160 200 10) burst) 6 = (.normal, some ⟨.normal, [8], 0, 0, 7⟩) ∧
      getsAfter 6 (run step (create burstMemory 160 200 10) burst).framelist = some ⟨.missing, [], 0, 0, 8⟩ :=
  ⟨by decide, by decide, by decide⟩

end PjProject.JitterBuffer
