import PjProject.TimerRun

/-!
# Schedules that fail

`schedule_w_grp_lock` has four ways to fail. Three of them are decided before the
heap is touched; the fourth, a heap that cannot grow, comes after an id has been
taken off the free list and written into the entry.
-/
namespace PjProject.Timer

/-- The heap, its ids and the running status of the entry are as they were, and a later schedule of
the entry will do as it would have done. -/
structure Unchanged (ht ht' : TimerHeap) (entry : ℕ) : Prop where
  curSize : ht'.curSize = ht.curSize
  maxSize : ht'.maxSize = ht.maxSize
  heap : ∀ i < ht.curSize, ht'.heap i = ht.heap i ∧ ht'.timerDups (ht.heap i) = ht.timerDups (ht.heap i)
  timerIds : ht'.timerIds = ht.timerIds
  freelist : ht'.timerIdsFreelist = ht.timerIdsFreelist
  running : ht'.entryRunning entry = ht.entryRunning entry
  retry : ∀ delay setId now allocs,
    (ht'.schedule entry delay setId now allocs).2 = (ht.schedule entry delay setId now allocs).2

lemma Unchanged.refl (ht : TimerHeap) (entry : ℕ) : Unchanged ht ht entry :=
  ⟨rfl, rfl, fun _ _ => ⟨rfl, rfl⟩, rfl, rfl, rfl, fun _ _ _ _ => rfl⟩

structure GrowthFails (ht : TimerHeap) (entry allocs : ℕ) : Prop where
  cb : (ht.entries entry).cb ≠ none
  idle : ht.entryRunning entry = false
  room : ht.curSize < ht.maxSize
  full : ht.maxSize ≤ ht.curSize + 2
  refused : allocs < 3

variable {allocs : ℕ}

lemma growHeap_refused (ht : TimerHeap) (h : allocs < 3) :
    (ht.growHeap allocs).2 = .enomem ∧ (ht.growHeap allocs).1.entries = ht.entries := by
  unfold TimerHeap.growHeap
  by_cases h2 : allocs < 2
  · rw [if_pos h2]
    exact ⟨rfl, rfl⟩
  · rw [if_neg h2]
    dsimp only
    rw [if_pos h]
    exact ⟨rfl, rfl⟩

lemma growHeap_granted (ht : TimerHeap) (h : ¬ allocs < 3) : (ht.growHeap allocs).2 = .success := by
  unfold TimerHeap.growHeap
  rw [if_neg (by omega)]
  dsimp only
  rw [if_neg h]

lemma insertNode_status (ht : TimerHeap) (entry : ℕ) (time : TimeVal) (allocs : ℕ) :
    (ht.insertNode entry time allocs).2 ≠ .success ↔ ht.maxSize ≤ ht.curSize + 2 ∧ allocs < 3 := by
  unfold TimerHeap.insertNode
  by_cases hfull : ht.curSize + 2 ≥ ht.maxSize
  · rw [if_pos hfull]
    by_cases hrefused : allocs < 3
    · simp [(growHeap_refused ht hrefused).1, hfull, hrefused]
    · simp [growHeap_granted ht hrefused, hrefused]
  · rw [if_neg hfull]
    simp [hfull]

lemma insertNode_refused {ht : TimerHeap} {entry : ℕ} {time : TimeVal}
    (hfull : ht.maxSize ≤ ht.curSize + 2) (hrefused : allocs < 3) :
    ht.insertNode entry time allocs = ht.growHeap allocs := by
  rw [TimerHeap.insertNode, if_pos hfull]
  simp [(growHeap_refused ht hrefused).1, Prod.ext_iff]

lemma schedule_error {ht : TimerHeap} {entry : ℕ} {delay : TimeVal} {setId : Option ℤ} {now : TimeVal} (hg : ¬ GrowthFails ht entry allocs)
    (herr : (ht.schedule entry delay setId now allocs).2 ≠ .success) :
    (ht.schedule entry delay setId now allocs).1 = ht := by
  unfold TimerHeap.schedule at herr ⊢
  by_cases hcb : (ht.entries entry).cb = none
  · rw [if_pos hcb]
  rw [if_neg hcb] at herr ⊢
  dsimp only at herr ⊢
  by_cases hrun : ht.entryRunning entry = true
  · rw [if_pos hrun]
  rw [if_neg hrun] at herr ⊢
  by_cases hroom : ht.curSize < ht.maxSize
  · -- an id is taken, so the schedule succeeds
    exfalso
    have hok : (ht.scheduleEntry entry (now.add delay) allocs).2 = .success := by
      by_contra hs
      rw [TimerHeap.scheduleEntry, if_pos hroom] at hs
      obtain ⟨hfull, hrefused⟩ := (insertNode_status _ _ _ _).mp hs
      exact hg ⟨hcb, by simpa using hrun, hroom, hfull, hrefused⟩
    simp only [hok, if_true] at herr
    cases setId <;> exact herr rfl
  · simp [TimerHeap.scheduleEntry, hroom]

lemma schedule_growthFails {ht : TimerHeap} {entry : ℕ} {delay : TimeVal} {setId : Option ℤ}
    {now : TimeVal} {allocs : ℕ} (hg : GrowthFails ht entry allocs) :
    (ht.schedule entry delay setId now allocs).2 = .enomem ∧
      ((ht.schedule entry delay setId now allocs).1.entries entry).timerId = ht.timerIdsFreelist := by
  obtain ⟨hcb, hidle, hroom, hfull, hrefused⟩ := hg
  obtain ⟨hst, hent⟩ := growHeap_refused (ht.popFreelist.1.setTimerId entry ht.popFreelist.2) hrefused
  have hentry : ht.scheduleEntry entry (now.add delay) allocs =
      (ht.popFreelist.1.setTimerId entry ht.popFreelist.2).growHeap allocs := by
    rw [TimerHeap.scheduleEntry, if_pos hroom]
    exact insertNode_refused hfull hrefused
  have hid : (((ht.popFreelist.1.setTimerId entry ht.popFreelist.2).growHeap allocs).1.entries entry).timerId =
      ht.timerIdsFreelist := by
    rw [hent]
    simp [TimerHeap.setTimerId, TimerHeap.popFreelist]
  unfold TimerHeap.schedule
  rw [if_neg hcb]
  dsimp only
  rw [hidle, if_neg (by decide), hentry, hst, if_neg (by decide)]
  exact ⟨rfl, hid⟩

/-- While the free list has an id, a schedule that fails changes nothing if and only if what failed was
not a growth of the heap. -/
theorem schedule_unchanged_iff {ht : TimerHeap} (hfree : 1 ≤ ht.timerIdsFreelist) (entry : ℕ)
    (delay : TimeVal) (setId : Option ℤ) (now : TimeVal) (allocs : ℕ) :
    ((ht.schedule entry delay setId now allocs).2 ≠ .success →
        Unchanged ht (ht.schedule entry delay setId now allocs).1 entry) ↔ ¬ GrowthFails ht entry allocs := by
  constructor
  · intro h hg
    obtain ⟨hst, hid⟩ := @schedule_growthFails _ _ delay setId now _ hg
    have hrun := (h (by rw [hst]; decide)).running
    rw [hg.idle, TimerHeap.entryRunning, hid, decide_eq_false_iff_not] at hrun
    exact hrun hfree
  · intro hg herr
    rw [schedule_error hg herr]
    exact Unchanged.refl ht entry

def fullHeap : TimerHeap := (step ⟨create (fun _ => default) (fun _ => ⟨-1, 0, 0, some 1⟩) 1, fun _ => .idle⟩
  (.schedule 0 ⟨1, 0⟩ none ⟨0, 0⟩ 3)).ht

/-- An entry that is running is refused, and the heap is left alone. -/
theorem schedule_unchanged_iff_running : ((fullHeap.schedule 0 ⟨1, 0⟩ none ⟨0, 0⟩ 0).2 ≠ .success →
        Unchanged fullHeap (fullHeap.schedule 0 ⟨1, 0⟩ none ⟨0, 0⟩ 0).1 0) ↔ ¬ GrowthFails fullHeap 0 0 :=
  schedule_unchanged_iff (by decide) 0 ⟨1, 0⟩ none ⟨0, 0⟩ 0

/-- The growth is refused at its last allocation: the call fails, and the entry is reported as running. -/
theorem failed_growth_leaves_running :
    ¬ ∀ (ht : TimerHeap) (entry : ℕ) (delay : TimeVal) (setId : Option ℤ) (now : TimeVal) (allocs : ℕ),
      (ht.schedule entry delay setId now allocs).2 ≠ .success →
        Unchanged ht (ht.schedule entry delay setId now allocs).1 entry := by
  intro h
  have hrun := (h (create (fun _ => default) (fun _ => ⟨-1, 0, 0, some 1⟩) 0) 0 ⟨1, 0⟩ none ⟨0, 0⟩ 2
    (by decide)).running
  revert hrun
  decide

end PjProject.Timer
