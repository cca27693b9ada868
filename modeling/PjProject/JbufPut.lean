import PjProject.JbufRun

/-!
# Puts of any frame index

What holds of the frame list whatever the indices of the frames are, also where they wrap: the
window is no longer than the array. From it, the loop of a put that makes room goes round once
at most, and the discard that follows is of a frame in the window.
-/
namespace PjProject.JitterBuffer

open Transition (run)

/-- The range of a C `int`. -/
def IsInt (x : ℤ) : Prop := -2 ^ 31 ≤ x ∧ x < 2 ^ 31

instance (x : ℤ) : Decidable (IsInt x) := inferInstanceAs (Decidable (_ ∧ _))

lemma isInt_int32 (x : ℤ) : IsInt (int32 x) := by
  have h1 := @Int.le_bmod x (2 ^ 32) (by norm_num)
  have h2 := @Int.bmod_lt x (2 ^ 32) (by norm_num)
  unfold int32 IsInt
  constructor <;> omega

lemma int32_of_isInt {x : ℤ} (h : IsInt x) : int32 x = x := int32_eq h.1 h.2

lemma int32_sub_int32 (x y : ℤ) : int32 (x - int32 y) = int32 (x - y) := Int.sub_bmod_bmod

lemma int32_int32_sub (x y : ℤ) : int32 (int32 x - y) = int32 (x - y) := Int.bmod_sub_bmod

/-- The window is no longer than the array, and starts at an `int`. -/
structure Sized (fl : Framelist) (cap : ℕ) : Prop where
  maxCount : fl.maxCount = cap
  size_le : fl.size ≤ cap
  head_lt : fl.head < cap
  origin : IsInt fl.origin

variable {fl : Framelist} {cap : ℕ}

/-- What `jb_framelist_remove_head` sets besides the slots. -/
structure HeadMoved (fl fl' : Framelist) (n : ℕ) : Prop where
  maxCount : fl'.maxCount = fl.maxCount
  frameSize : fl'.frameSize = fl.frameSize
  size : fl'.size = fl.size - n
  origin : fl'.origin = int32 (fl.origin + n)
  head : fl'.head = (fl.head + n) % fl.maxCount

lemma removeHead_moved (h : Sized fl cap) (count : ℕ) :
    HeadMoved fl (removeHead fl count).1 (min count fl.size) ∧ (removeHead fl count).2 = min count fl.size := by
  have hmin : (if fl.size < count then fl.size else count) = min count fl.size := by
    split_ifs <;> omega
  have hhead : fl.head % fl.maxCount = fl.head := Nat.mod_eq_of_lt (h.maxCount.symm ▸ h.head_lt)
  unfold removeHead
  simp only [hmin]
  by_cases h0 : min count fl.size = 0
  · rw [if_pos h0, h0]
    refine ⟨⟨rfl, rfl, rfl, ?_, hhead.symm⟩, rfl⟩
    rw [Nat.cast_zero, add_zero, int32_of_isInt h.origin]
  · rw [if_neg h0]
    exact ⟨⟨rfl, rfl, rfl, rfl, rfl⟩, rfl⟩

lemma Sized.moved {fl' : Framelist} {n : ℕ} (h : Sized fl cap) (hm : HeadMoved fl fl' n) : Sized fl' cap where
  maxCount := hm.maxCount.trans h.maxCount
  size_le := by
    rw [hm.size]
    exact (Nat.sub_le _ _).trans h.size_le
  head_lt := by
    rw [hm.head, h.maxCount]
    exact Nat.mod_lt _ (by have := h.head_lt; omega)
  origin := by
    rw [hm.origin]
    exact isInt_int32 _

lemma Sized.removeHead (h : Sized fl cap) (count : ℕ) : Sized (removeHead fl count).1 cap :=
  h.moved (removeHead_moved h count).1

lemma Sized.removeMore (k : ℕ) : ∀ {fl : Framelist} (lastNum : ℕ) (count : ℤ), Sized fl cap →
    Sized (removeMore k fl lastNum count).1 cap := by
  induction k with
  | zero => exact fun _ _ h => h
  | succ k ih =>
    intro fl lastNum count h
    rw [JitterBuffer.removeMore]
    split_ifs
    · exact ih _ _ (h.removeHead _)
    · exact h

lemma Sized.skipDiscarded (k : ℕ) : ∀ {fl : Framelist}, Sized fl cap → Sized (skipDiscarded k fl) cap := by
  induction k with
  | zero => exact fun h => h
  | succ k ih =>
    intro fl h
    rw [JitterBuffer.skipDiscarded]
    split_ifs
    · exact ih (h.removeHead 1)
    · exact h

lemma Sized.framelistGet (h : Sized fl cap) : Sized (framelistGet fl).1 cap := by
  have hskip := h.skipDiscarded (fl.size + 1)
  unfold JitterBuffer.framelistGet
  dsimp only
  split_ifs
  · exact h
  · exact hskip
  all_goals
    refine hskip.moved ⟨rfl, rfl, rfl, ?_, rfl⟩
    rw [Nat.cast_one]

variable {index : ℤ}

lemma Sized.reset (h : Sized fl cap) (hi : IsInt index) :
    Sized { framelistReset fl with origin := index } cap :=
  ⟨h.maxCount, Nat.zero_le _, (Nat.zero_le _).trans_lt h.head_lt, hi⟩

lemma Sized.relocate (h : Sized fl cap) (hi : IsInt index) : Sized (relocate fl index).1 cap := by
  unfold JitterBuffer.relocate
  dsimp only
  split_ifs
  · exact ⟨h.maxCount, h.size_le, h.head_lt, hi⟩
  · exact ⟨h.maxCount, h.size_le, h.head_lt, isInt_int32 _⟩
  · exact h.reset hi
  · exact h.reset hi
  · exact ⟨h.maxCount, h.size_le, h.head_lt, hi⟩
  · exact h

lemma relocate_distance (h : Sized fl cap) (hcap : cap < 2 ^ 31) (index : ℤ) :
    (JitterBuffer.relocate fl index).2 = int32 (index - (JitterBuffer.relocate fl index).1.origin) ∧
      0 ≤ (JitterBuffer.relocate fl index).2 ∧
      ((JitterBuffer.relocate fl index).1.size = 0 → (JitterBuffer.relocate fl index).1.origin = index) := by
  have hzero : int32 (index - index) = 0 := by rw [sub_self]; rfl
  have hsize := h.size_le
  have hback : int32 (index - int32 (index - fl.size)) = fl.size := by
    rw [int32_sub_int32, sub_sub_cancel]
    exact int32_eq (by omega) (by omega)
  unfold JitterBuffer.relocate
  dsimp only
  split_ifs with h1 h2 h3
  · exact ⟨hzero.symm, le_rfl, fun _ => rfl⟩
  · exact ⟨hback.symm, Int.natCast_nonneg _, fun h0 => absurd h0 h3⟩
  · exact ⟨hzero.symm, le_rfl, fun _ => rfl⟩
  · exact ⟨hzero.symm, le_rfl, fun _ => rfl⟩
  · exact ⟨hzero.symm, le_rfl, fun _ => rfl⟩
  · exact ⟨rfl, not_lt.1 h1, fun h0 => absurd h0 (by assumption)⟩

lemma Sized.putSlot (h : Sized fl cap) {d : ℕ} (hd : d < cap) (index : ℤ) (frame : List UInt8)
    (frameSize bitInfo ts : ℕ) (frameType : FrameType) :
    Sized (putSlot fl index d frame frameSize bitInfo ts frameType).1 cap := by
  unfold JitterBuffer.putSlot
  dsimp only
  split_ifs
  · exact h
  all_goals first
    | exact ⟨h.maxCount, hd, h.head_lt, h.origin⟩
    | exact ⟨h.maxCount, h.size_le, h.head_lt, h.origin⟩

lemma Sized.putAt (h : Sized fl cap) (hcap : cap < 2 ^ 31) (hi : IsInt index)
    (frame : List UInt8) (frameSize bitInfo ts : ℕ) (frameType : FrameType) :
    Sized (putAt fl index frame frameSize bitInfo ts frameType).1 cap := by
  have hpos : 0 < cap := (Nat.zero_le _).trans_lt h.head_lt
  have hrel := h.relocate hi
  obtain ⟨-, hnn, -⟩ := relocate_distance h hcap index
  unfold JitterBuffer.putAt
  by_cases hfs : fl.frameSize < frameSize
  · rw [if_pos hfs]
    exact h
  rw [if_neg hfs]
  by_cases hlate : int32 (index - fl.origin) < 0 ∧ int32 (fl.origin - index) < maxMisorder
  · rw [if_pos hlate]
    exact h
  rw [if_neg hlate]
  dsimp only
  split_ifs with hfull hfar
  · exact (hrel.reset hi).putSlot hpos ..
  · exact hrel
  · have hint : int32 (JitterBuffer.relocate fl index).1.maxCount = (cap : ℤ) := by
      rw [hrel.maxCount]
      exact int32_eq (by omega) (by omega)
    exact hrel.putSlot (by omega) ..

lemma Sized.framelistDiscard (h : Sized fl cap) (index : ℤ) : Sized (framelistDiscard fl index) cap := by
  unfold JitterBuffer.framelistDiscard
  split_ifs
  · exact ⟨h.maxCount, h.size_le, h.head_lt, h.origin⟩
  · exact h

variable {seq : ℤ}

lemma Sized.makeRoom (jb : Jbuf) (hcap : cap < 2 ^ 31) (hi : IsInt seq) (frame : List UInt8)
    (frameSize bitInfo ts : ℕ) (k : ℕ) : ∀ {r : Framelist × PutStatus} (removed : ℕ), Sized r.1 cap →
      Sized (makeRoom jb seq frame frameSize bitInfo ts k r removed).1.1 cap := by
  induction k with
  | zero => exact fun _ h => h
  | succ k ih =>
    intro r removed h
    obtain ⟨fl, status⟩ := r
    rw [JitterBuffer.makeRoom]
    split_ifs
    · exact ih _ ((h.removeHead _).putAt hcap hi ..)
    · exact h

structure SizedBuf (jb : Jbuf) (cap : ℕ) : Prop where
  list : Sized jb.framelist cap
  maxCount : jb.maxCount = cap

variable {jb : Jbuf}

lemma SizedBuf.of_same {jb' : Jbuf} (h : SizedBuf jb cap) (hs : Same jb jb') : SizedBuf jb' cap :=
  ⟨hs.framelist ▸ h.list, hs.maxCount.trans h.maxCount⟩

lemma SizedBuf.update (h : SizedBuf jb cap) (oper : Op) : SizedBuf (update jb oper) cap := by
  have h' := h.of_same (switchOp_same jb oper)
  unfold JitterBuffer.update
  dsimp only
  split_ifs
  · unfold runDiscard
    split
    · exact h'
    · unfold discardStatic
      dsimp only
      split_ifs <;> first
        | exact h'
        | exact ⟨h'.list, h'.maxCount⟩
        | exact ⟨h'.list.removeHead 1, h'.maxCount⟩
    · unfold discardProgressive
      dsimp only
      split_ifs <;> first
        | exact h'
        | exact ⟨h'.list, h'.maxCount⟩
        | exact ⟨h'.list.framelistDiscard _, h'.maxCount⟩
  · exact h'

lemma SizedBuf.putStored (h : SizedBuf jb cap) (hcap : cap < 2 ^ 31) (hi : IsInt seq)
    (frame : List UInt8) (bitInfo ts : ℕ) : SizedBuf (putStored jb frame bitInfo seq ts).1 cap := by
  have hfl : Sized (storeFrame jb frame bitInfo seq ts).1.1 cap :=
    Sized.makeRoom jb hcap hi _ _ _ _ _ _ (h.list.putAt hcap hi ..)
  unfold JitterBuffer.putStored
  dsimp only
  split_ifs <;> exact ⟨hfl, h.maxCount⟩

lemma SizedBuf.getFrame (h : SizedBuf jb cap) : SizedBuf (getFrame jb).1 cap := by
  have hget := h.list.framelistGet
  have hupdate : ∀ {jb' : Jbuf}, Sized jb'.framelist cap → jb'.maxCount = cap →
      SizedBuf (JitterBuffer.update jb' .get) cap := fun h1 h2 => SizedBuf.update ⟨h1, h2⟩ .get
  unfold JitterBuffer.getFrame
  by_cases h1 : jb.prefetching = true
  · simp only [if_pos h1]
    exact hupdate h.list h.maxCount
  simp only [if_neg h1]
  by_cases h2 : framelistEffSize jb.framelist < jb.minDelay
  · simp only [if_pos h2]
    exact hupdate h.list h.maxCount
  simp only [if_neg h2]
  generalize framelistGet jb.framelist = r at hget
  obtain ⟨fl, info⟩ := r
  cases info with
  | none => exact hupdate hget h.maxCount
  | some info =>
    by_cases h3 : info.frameType = .normal
    · simp only [if_pos h3]
      exact hupdate hget h.maxCount
    · simp only [if_neg h3]
      exact hupdate hget h.maxCount

/-- The index of a frame is an `int`. -/
def IntCall : Call → Prop
  | .put _ _ seq _ => IsInt seq
  | _ => True

instance : ∀ call, Decidable (IntCall call)
  | .put _ _ seq _ => inferInstanceAs (Decidable (IsInt seq))
  | .get => .isTrue trivial
  | .peek _ => .isTrue trivial
  | .remove _ => .isTrue trivial
  | .setPtime .. => .isTrue trivial
  | .setFixed _ => .isTrue trivial
  | .setAdaptive .. => .isTrue trivial
  | .setDiscard _ => .isTrue trivial
  | .setMinDelay _ => .isTrue trivial
  | .reset => .isTrue trivial

lemma SizedBuf.step (h : SizedBuf jb cap) (hcap : cap < 2 ^ 31) {call : Call} (hcall : IntCall call) :
    SizedBuf (step jb call) cap := by
  cases call with
  | put frame bitInfo seq ts =>
    have hput := h.putStored hcap hcall frame bitInfo ts
    simp only [JitterBuffer.step, putFrame]
    split_ifs
    · exact hput.update .put
    · exact hput
  | get => exact h.getFrame
  | peek offset => exact h
  | remove frameCnt => exact ⟨(h.list.removeHead _).removeMore _ _ _, h.maxCount⟩
  | setPtime ptime ptimeDenum => exact ⟨h.list, h.maxCount⟩
  | setFixed prefetch =>
    simp only [JitterBuffer.step, setFixed]
    split_ifs
    · exact h
    · exact ⟨h.list, h.maxCount⟩
  | setAdaptive prefetch minPrefetch maxPrefetch =>
    simp only [JitterBuffer.step, setAdaptive]
    split_ifs
    · exact ⟨h.list, h.maxCount⟩
    · exact h
  | setDiscard algo => exact ⟨h.list, h.maxCount⟩
  | setMinDelay minDelay => exact ⟨h.list, h.maxCount⟩
  | reset => exact ⟨h.list.reset (by decide), h.maxCount⟩

lemma sizedBuf_run (memory : ℕ → Slot) (frameSize ptime : ℕ) (hpos : 0 < cap) (hcap : cap < 2 ^ 31)
    (calls : List Call) (hcalls : ∀ call ∈ calls, IntCall call) :
    SizedBuf (run step (create memory frameSize ptime cap) calls) cap := by
  have hlist : Sized (create memory frameSize ptime cap).framelist cap :=
    ⟨rfl, Nat.zero_le _, hpos, show IsInt invalidOffset by decide⟩
  have hcreate : SizedBuf (create memory frameSize ptime cap) cap := ⟨hlist, rfl⟩
  generalize create memory frameSize ptime cap = jb at hcreate
  induction calls generalizing jb with
  | nil => exact hcreate
  | cons call calls ih =>
    exact ih (fun c hc => hcalls c (List.mem_cons_of_mem _ hc)) _
      (hcreate.step hcap (hcalls call List.mem_cons_self))

variable {frame : List UInt8} {frameSize bitInfo ts : ℕ}

lemma putAt_etoomany_iff (h : Sized fl cap) (hcap : cap < 2 ^ 31) (h0 : fl.size ≠ 0)
    (hge : 0 ≤ int32 (index - fl.origin)) (hfs : frameSize ≤ fl.frameSize) :
    (putAt fl index frame frameSize bitInfo ts .normal).2 = .etoomany ↔
      (cap : ℤ) ≤ int32 (index - fl.origin) ∧ int32 (index - fl.origin) ≤ maxDropout := by
  have hrel : relocate fl index = (fl, int32 (index - fl.origin)) := by
    unfold relocate
    simp only [if_neg (not_lt.2 hge), if_neg h0]
  have hint : int32 (fl.maxCount : ℤ) = cap := by
    rw [h.maxCount]
    exact int32_eq (by omega) (by omega)
  unfold putAt
  rw [if_neg (not_lt.2 hfs), if_neg (fun hlate => absurd hlate.1 (not_lt.2 hge)), hrel]
  dsimp only
  rw [hint]
  split_ifs with hfull hfar
  · simp only [putSlot_ne_etoomany, false_iff]
    omega
  · simp only [true_iff]
    omega
  · simp only [putSlot_ne_etoomany, false_iff]
    omega

lemma putAt_rejected (h : Sized fl cap) (hcap : cap < 2 ^ 31) (hi : IsInt index)
    (hfull : (putAt fl index frame frameSize bitInfo ts .normal).2 = .etoomany) :
    fl.size ≠ 0 ∧ ∃ fl1, (putAt fl index frame frameSize bitInfo ts .normal).1 = fl1 ∧ Sized fl1 cap ∧
      fl1.size ≠ 0 ∧ frameSize ≤ fl1.frameSize ∧ (cap : ℤ) ≤ int32 (index - fl1.origin) ∧
      int32 (index - fl1.origin) ≤ maxDropout := by
  have hpos : 0 < cap := (Nat.zero_le _).trans_lt h.head_lt
  have hrel := h.relocate hi
  obtain ⟨hdist, -, hempty⟩ := relocate_distance h hcap index
  have hsame : (relocate fl index).1.frameSize = fl.frameSize := by
    unfold relocate
    dsimp only
    split_ifs <;> rfl
  have hsize : fl.size = 0 → (relocate fl index).1.size = 0 := by
    intro h0
    unfold relocate
    dsimp only
    split_ifs <;> first | rfl | exact h0
  unfold putAt at hfull ⊢
  by_cases hfs : fl.frameSize < frameSize
  · rw [if_pos hfs] at hfull
    cases hfull
  rw [if_neg hfs] at hfull ⊢
  by_cases hlate : int32 (index - fl.origin) < 0 ∧ int32 (fl.origin - index) < maxMisorder
  · rw [if_pos hlate] at hfull
    cases hfull
  rw [if_neg hlate] at hfull ⊢
  have hint : int32 (relocate fl index).1.maxCount = (cap : ℤ) := by
    rw [hrel.maxCount]
    exact int32_eq (by omega) (by omega)
  dsimp only at hfull ⊢
  rw [hint] at hfull ⊢
  split_ifs at hfull ⊢ with hle hfar
  · exact absurd hfull (putSlot_ne_etoomany _ _ _ _ _ _ _ _)
  · rw [hdist] at hle hfar
    have hne : (relocate fl index).1.size ≠ 0 := by
      intro h0
      rw [hempty h0, sub_self, show int32 0 = 0 from rfl] at hle
      omega
    exact ⟨fun h0 => hne (hsize h0), _, rfl, hrel, hne, by rw [hsame]; exact not_lt.1 hfs, hle, not_lt.1 hfar⟩
  · exact absurd hfull (putSlot_ne_etoomany _ _ _ _ _ _ _ _)

lemma putAt_success_size (h : Sized fl cap) (hcap : cap < 2 ^ 31) (hi : IsInt index)
    (hok : (putAt fl index frame frameSize bitInfo ts .normal).2 = .success) :
    0 < (putAt fl index frame frameSize bitInfo ts .normal).1.size := by
  have key : ∀ (fl1 : Framelist) (d : ℕ), (fl1.size = 0 → fl1.origin = index) →
      (putSlot fl1 index d frame frameSize bitInfo ts .normal).2 = .success →
      0 < (putSlot fl1 index d frame frameSize bitInfo ts .normal).1.size := by
    intro fl1 d hempty hput
    unfold putSlot at hput ⊢
    dsimp only at hput ⊢
    by_cases hocc : (fl1.slots ((fl1.head + d) % fl1.maxCount)).frameType ≠ .missing
    · rw [if_pos hocc] at hput
      cases hput
    rw [if_neg hocc]
    by_cases hnew : int32 (fl1.origin + fl1.size) ≤ index
    · simp only [if_pos hnew]
      exact Nat.succ_pos d
    · simp only [if_neg hnew]
      rw [Nat.pos_iff_ne_zero]
      intro hz
      rw [hempty hz, hz, Nat.cast_zero, add_zero, int32_of_isInt hi] at hnew
      exact hnew le_rfl
  obtain ⟨-, -, hempty⟩ := relocate_distance h hcap index
  unfold putAt at hok ⊢
  dsimp only at hok ⊢
  split_ifs at hok ⊢
  · exact key _ _ (fun _ => rfl) hok
  · exact key _ _ hempty hok

/-- How many frames the loop of `pjmedia_jbuf_put_frame3` removes to make room. -/
def roomDistance (fl : Framelist) (maxCount : ℕ) (seq : ℤ) : ℤ :=
  int32 (int32 (seq - fl.origin) - int32 maxCount + 1)

def firstPut (jb : Jbuf) (frame : List UInt8) (bitInfo : ℕ) (seq : ℤ) (ts : ℕ) : Framelist × PutStatus :=
  putAt jb.framelist seq frame (min frame.length jb.frameSize) bitInfo ts .normal

lemma putAt_removeHead (h : Sized fl cap) (hcap : cap < 2 ^ 31) (hi : IsInt index) (hfs : frameSize ≤ fl.frameSize)
    (hd : int32 (index - fl.origin) ≤ maxDropout) {n : ℕ} (hn : n ≤ int32 (index - fl.origin)) :
    (putAt (removeHead fl n).1 index frame frameSize bitInfo ts .normal).2 = .etoomany ↔
      n < fl.size ∧ (cap : ℤ) ≤ int32 (index - fl.origin) - n := by
  obtain ⟨hm, -⟩ := removeHead_moved h n
  have hsized := h.removeHead n
  have hsize := hm.size
  by_cases h0 : n < fl.size
  · have hmin : min n fl.size = n := min_eq_left h0.le
    rw [hmin] at hm hsize
    have hdrop : maxDropout = 3000 := rfl
    have hdist : int32 (index - (removeHead fl n).1.origin) = int32 (index - fl.origin) - n := by
      rw [hm.origin, int32_sub_int32, ← sub_sub, ← int32_int32_sub]
      exact int32_eq (by omega) (by omega)
    rw [putAt_etoomany_iff hsized hcap (by omega) (by omega) (hm.frameSize ▸ hfs), hdist]
    omega
  · -- nothing is left in the window
    constructor
    · intro hfull
      exact absurd (show (removeHead fl n).1.size = 0 by omega) (putAt_rejected hsized hcap hi hfull).1
    · exact fun hlt => absurd hlt.1 h0

lemma makeRoom_size (jb : Jbuf) (hcap : cap < 2 ^ 31) (hi : IsInt seq) (frame : List UInt8)
    (frameSize bitInfo ts : ℕ) (k : ℕ) : ∀ {r : Framelist × PutStatus} (removed : ℕ), Sized r.1 cap →
      (r.2 = .success → 0 < r.1.size) →
      (makeRoom jb seq frame frameSize bitInfo ts k r removed).1.2 = .success →
      0 < (makeRoom jb seq frame frameSize bitInfo ts k r removed).1.1.size := by
  induction k with
  | zero => exact fun _ _ h => h
  | succ k ih =>
    intro r removed hs h
    obtain ⟨fl, status⟩ := r
    rw [makeRoom]
    split_ifs
    · have hrem := hs.removeHead (u32 (int32 (int32 (seq - fl.origin) - int32 jb.maxCount + 1)))
      exact ih _ (hrem.putAt hcap hi ..) (putAt_success_size hrem hcap hi)
    · exact h

lemma holds_of_le_lastSeq (h : Sized jb.framelist cap) (hcap : cap < 2 ^ 31) (hpos : 0 < jb.framelist.size) (hle : index ≤ lastSeq jb) : jb.framelist.Holds (max index jb.framelist.origin) := by
  have hsize := h.size_le
  obtain ⟨h1, h2⟩ := h.origin
  have hlast : lastSeq jb = jb.framelist.origin + jb.framelist.size - 1 ∨ lastSeq jb < jb.framelist.origin := by
    by_cases hwrap : jb.framelist.origin + jb.framelist.size - 1 < 2 ^ 31
    · exact .inl (int32_eq (by omega) hwrap)
    · right
      have hback : lastSeq jb = jb.framelist.origin + jb.framelist.size - 1 - 2 ^ 32 := by
        unfold lastSeq int32
        rw [Int.bmod_def]
        split_ifs <;> omega
      omega
  exact ⟨le_max_right _ _, by omega⟩

structure PutOnce (jb : Jbuf) (frame : List UInt8) (bitInfo : ℕ) (seq : ℤ) (ts : ℕ) : Prop where
  /-- The loop goes round once at most: with any budget of rounds the result is the same. -/
  once : ∀ k, makeRoom jb seq frame (min frame.length jb.frameSize) bitInfo ts (k + 1)
    (firstPut jb frame bitInfo seq ts) 0 = storeFrame jb frame bitInfo seq ts
  settled : (storeFrame jb frame bitInfo seq ts).1.2 ≠ .etoomany
  /-- The assertion of the round. -/
  distance_pos : (firstPut jb frame bitInfo seq ts).2 = .etoomany →
    0 < roomDistance (firstPut jb frame bitInfo seq ts).1 jb.maxCount seq
  /-- Fewer removals would not make room. -/
  fewest : ∀ n < (storeFrame jb frame bitInfo seq ts).2,
    (putAt (removeHead (firstPut jb frame bitInfo seq ts).1 n).1 seq frame (min frame.length jb.frameSize)
      bitInfo ts .normal).2 = .etoomany
  overflow_pos : ∀ jb', jb' = switchOp (putStored jb frame bitInfo seq ts).1 .put → latencyTooLong jb' = true →
    0 < framelistEffSize jb'.framelist - max (burstLevel jb') jb'.minDelay
  /-- The frame that is discarded is in the window. -/
  inside : ∀ jb', jb' = switchOp (putStored jb frame bitInfo seq ts).1 .put →
    (putStored jb frame bitInfo seq ts).2 = true →
    int32 (progressiveRef jb' + progressiveDist jb') ≤ lastSeq jb' → jb'.framelist.Holds (progressiveSeq jb')

lemma SizedBuf.once (h : SizedBuf jb cap) (hcap : cap < 2 ^ 31) (hi : IsInt seq)
    (frame : List UInt8) (bitInfo ts : ℕ) :
    (∀ k, makeRoom jb seq frame (min frame.length jb.frameSize) bitInfo ts (k + 1)
      (firstPut jb frame bitInfo seq ts) 0 = storeFrame jb frame bitInfo seq ts) ∧
    (storeFrame jb frame bitInfo seq ts).1.2 ≠ .etoomany ∧ ((firstPut jb frame bitInfo seq ts).2 = .etoomany →
      0 < roomDistance (firstPut jb frame bitInfo seq ts).1 jb.maxCount seq) ∧
    ∀ n < (storeFrame jb frame bitInfo seq ts).2,
      (putAt (removeHead (firstPut jb frame bitInfo seq ts).1 n).1 seq frame (min frame.length jb.frameSize)
        bitInfo ts .normal).2 = .etoomany := by
  by_cases hfull : (firstPut jb frame bitInfo seq ts).2 = .etoomany
  · obtain ⟨-, fl1, hfl1, hsized, hne, hfs, hle, hdrop⟩ := putAt_rejected h.list hcap hi hfull
    have hpos : 0 < cap := (Nat.zero_le _).trans_lt hsized.head_lt
    have hmax : maxDropout = 3000 := rfl
    have hfirst : firstPut jb frame bitInfo seq ts = (fl1, .etoomany) := Prod.ext hfl1 hfull
    have hdist : roomDistance fl1 jb.maxCount seq = int32 (seq - fl1.origin) - cap + 1 := by
      have hint : int32 (jb.maxCount : ℤ) = cap := by
        rw [h.maxCount]
        exact int32_eq (by omega) (by omega)
      rw [roomDistance, hint]
      exact int32_eq (by omega) (by omega)
    have hu : (u32 (roomDistance fl1 jb.maxCount seq) : ℤ) = int32 (seq - fl1.origin) - cap + 1 := by
      rw [hdist]
      exact u32_eq (by omega) (by omega)
    -- after one round there is room
    have hroom : (putAt (removeHead fl1 (u32 (roomDistance fl1 jb.maxCount seq))).1 seq frame
        (min frame.length jb.frameSize) bitInfo ts .normal).2 ≠ .etoomany := by
      rw [Ne, putAt_removeHead hsized hcap hi hfs hdrop (by omega)]
      omega
    have hround : ∀ k, makeRoom jb seq frame (min frame.length jb.frameSize) bitInfo ts (k + 1)
        (firstPut jb frame bitInfo seq ts) 0 =
        (putAt (removeHead fl1 (u32 (roomDistance fl1 jb.maxCount seq))).1 seq frame
          (min frame.length jb.frameSize) bitInfo ts .normal,
          0 + (removeHead fl1 (u32 (roomDistance fl1 jb.maxCount seq))).2) := by
      intro k
      rw [hfirst, makeRoom, if_pos rfl]
      exact makeRoom_stop _ _ _ _ _ _ _ hroom _
    have hstore := hround 1
    refine ⟨fun k => (hround k).trans hstore.symm, ?_, fun _ => ?_, ?_⟩
    · rw [show storeFrame jb frame bitInfo seq ts = _ from hstore]
      exact hroom
    · rw [hfirst, hdist]
      omega
    · intro n hn
      rw [show storeFrame jb frame bitInfo seq ts = _ from hstore] at hn
      have hcount := (removeHead_moved hsized (u32 (roomDistance fl1 jb.maxCount seq))).2
      simp only [hcount] at hn
      rw [hfirst, putAt_removeHead hsized hcap hi hfs hdrop (by omega)]
      omega
  · have hstop : ∀ k, makeRoom jb seq frame (min frame.length jb.frameSize) bitInfo ts k
        (firstPut jb frame bitInfo seq ts) 0 = (firstPut jb frame bitInfo seq ts, 0) :=
      fun k => makeRoom_stop _ _ _ _ _ _ _ hfull _
    have hstore : storeFrame jb frame bitInfo seq ts = (firstPut jb frame bitInfo seq ts, 0) := hstop 2
    refine ⟨fun k => (hstop _).trans hstore.symm, ?_, fun hf => absurd hf hfull, ?_⟩
    · rw [hstore]
      exact hfull
    · intro n hn
      rw [hstore] at hn
      exact absurd hn (Nat.not_lt_zero n)

/-- For every history of the buffer and every frame index, a put makes room in one round. -/
theorem put_once (memory : ℕ → Slot) (frameSize ptime maxCount : ℕ) (hpos : 0 < maxCount)
    (hcap : maxCount < 2 ^ 31) (calls : List Call) (hcalls : ∀ call ∈ calls, IntCall call)
    (frame : List UInt8) (bitInfo : ℕ) {seq : ℤ} (hi : IsInt seq) (ts : ℕ) :
    PutOnce (run step (create memory frameSize ptime maxCount) calls) frame bitInfo seq ts := by
  have h := sizedBuf_run memory frameSize ptime hpos hcap calls hcalls
  generalize run step (create memory frameSize ptime maxCount) calls = jb at h
  obtain ⟨honce, hsettled, hdist, hfewest⟩ := h.once hcap hi frame bitInfo ts
  refine ⟨honce, hsettled, hdist, hfewest, ?_, ?_⟩
  · intro jb' _ hlat
    simp only [latencyTooLong, Bool.and_eq_true, decide_eq_true_eq] at hlat
    omega
  · intro jb' hjb' hput hdue
    have hsize : 0 < (storeFrame jb frame bitInfo seq ts).1.1.size := by
      have hok : (storeFrame jb frame bitInfo seq ts).1.2 = .success := by
        by_contra hno
        simp only [putStored, if_neg hno, Bool.false_eq_true] at hput
      exact makeRoom_size jb hcap hi _ _ _ _ _ _ (h.list.putAt hcap hi ..) (putAt_success_size h.list hcap hi) hok
    have hsame := switchOp_same (putStored jb frame bitInfo seq ts).1 .put
    have hlist : jb'.framelist = (storeFrame jb frame bitInfo seq ts).1.1 := by
      rw [hjb', hsame.framelist]
      unfold putStored
      dsimp only
      split_ifs <;> rfl
    have hsized : SizedBuf jb' maxCount := hjb' ▸ (h.putStored hcap hi frame bitInfo ts).of_same hsame
    exact holds_of_le_lastSeq hsized.list hcap (by rw [hlist]; exact hsize) hdue

/-- A full buffer, whose first frame is removed for the frame behind the last one. -/
theorem put_once_full : PutOnce (run step (create (fun _ => ⟨.normal, 3, 0, 0, []⟩) 160 20 2)
    [.put [1] 0 5 0, .put [2] 0 6 0]) [3] 0 7 0 :=
  put_once _ 160 20 2 (by decide) (by decide) [.put [1] 0 5 0, .put [2] 0 6 0] (by decide) [3] 0 (by decide) 0

end PjProject.JitterBuffer
