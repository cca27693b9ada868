import PjProject.IndexedHeap

/-!
# The timer heap

`pj_timer_heap_t` as built by default: the heap holds copies of the entries, addressed by
their index in `timer_dups`, and `timer_ids` maps the id of a running timer to its slot and
threads the ids that are not in use. The application's entries are part of the state, since
the heap writes their `_timer_id`. Group locks and log lines are left out.
-/
namespace PjProject.Timer

open IndexedHeap (parent left)

structure TimeVal where
  sec : ℤ
  msec : ℤ
  deriving DecidableEq, Inhabited

namespace TimeVal

/-- `PJ_TIME_VAL_GT` -/
def gt (t1 t2 : TimeVal) : Prop := t1.sec > t2.sec ∨ t1.sec = t2.sec ∧ t1.msec > t2.msec

/-- `PJ_TIME_VAL_GTE` -/
def gte (t1 t2 : TimeVal) : Prop := t1.gt t2 ∨ t1.sec = t2.sec ∧ t1.msec = t2.msec

/-- `PJ_TIME_VAL_LT` -/
def lt (t1 t2 : TimeVal) : Prop := ¬ t1.gte t2

/-- `PJ_TIME_VAL_LTE` -/
def lte (t1 t2 : TimeVal) : Prop := ¬ t1.gt t2

instance (t1 t2 : TimeVal) : Decidable (t1.gt t2) :=
  inferInstanceAs (Decidable (_ ∨ _ ∧ _))

instance (t1 t2 : TimeVal) : Decidable (t1.gte t2) :=
  inferInstanceAs (Decidable (_ ∨ _ ∧ _))

instance (t1 t2 : TimeVal) : Decidable (t1.lt t2) := inferInstanceAs (Decidable (¬ _))

instance (t1 t2 : TimeVal) : Decidable (t1.lte t2) := inferInstanceAs (Decidable (¬ _))

def normalize (t : TimeVal) : TimeVal :=
  let t :=
    if t.msec ≥ 1000 then ⟨t.sec + t.msec.tdiv 1000, t.msec.tmod 1000⟩
    else if t.msec ≤ -1000 then
      -- the loop adds a second at a time until more than -1000 ms are left
      ⟨t.sec - (-t.msec) / 1000, t.msec + 1000 * ((-t.msec) / 1000)⟩
    else t
  if t.sec ≥ 1 ∧ t.msec < 0 then ⟨t.sec - 1, t.msec + 1000⟩
  else if t.sec < 0 ∧ t.msec > 0 then ⟨t.sec + 1, t.msec - 1000⟩
  else t

/-- `PJ_TIME_VAL_ADD` -/
def add (t1 t2 : TimeVal) : TimeVal := normalize ⟨t1.sec + t2.sec, t1.msec + t2.msec⟩

/-- `PJ_TIME_VAL_SUB` -/
def sub (t1 t2 : TimeVal) : TimeVal := normalize ⟨t1.sec - t2.sec, t1.msec - t2.msec⟩

end TimeVal

/-- The application's `pj_timer_entry`; callbacks and user data are addresses. -/
structure Entry where
  timerId : ℤ
  id : ℤ
  userData : ℕ
  cb : Option ℕ
  deriving DecidableEq, Inhabited

structure EntryDup where
  dup : Entry
  entry : ℕ
  timerValue : TimeVal
  deriving DecidableEq, Inhabited

structure TimerHeap where
  maxSize : ℕ
  curSize : ℕ
  maxEntriesPerPoll : ℕ
  heap : ℕ → ℕ
  timerIds : ℕ → ℤ
  timerDups : ℕ → EntryDup
  timerIdsFreelist : ℤ
  entries : ℕ → Entry

inductive Status
  | success
  | einval
  | einvalidop
  | enomem
  | failed
  deriving DecidableEq

/-- Conversion to `int`. -/
def int (n : ℤ) : ℤ := n.bmod (2 ^ 32)

def maxint32 : ℤ := 0x7FFFFFFF

namespace TimerHeap

def setTimerId (ht : TimerHeap) (entry : ℕ) (id : ℤ) : TimerHeap :=
  { ht with entries := Function.update ht.entries entry { ht.entries entry with timerId := id } }

def copyNode (ht : TimerHeap) (slot movedNode : ℕ) : TimerHeap :=
  { ht with
    heap := Function.update ht.heap slot movedNode
    timerIds := Function.update ht.timerIds (ht.timerDups movedNode).dup.timerId.toNat (int slot) }

def popFreelist (ht : TimerHeap) : TimerHeap × ℤ :=
  ({ ht with timerIdsFreelist := -ht.timerIds ht.timerIdsFreelist.toNat }, ht.timerIdsFreelist)

def pushFreelist (ht : TimerHeap) (oldId : ℤ) : TimerHeap :=
  { ht with
    timerIds := Function.update ht.timerIds oldId.toNat (-ht.timerIdsFreelist)
    timerIdsFreelist := oldId }

def valueAt (ht : TimerHeap) (slot : ℕ) : TimeVal := (ht.timerDups (ht.heap slot)).timerValue

/-- The loop of `reheap_down`; `cur_size` rounds are enough, since `child` grows in each. -/
def reheapDown : ℕ → TimerHeap → ℕ → ℕ → ℕ → TimerHeap
  | 0, ht, movedNode, slot, _ => ht.copyNode slot movedNode
  | k + 1, ht, movedNode, slot, child =>
    if child < ht.curSize then
      let child :=
        if child + 1 < ht.curSize ∧ (ht.valueAt (child + 1)).lt (ht.valueAt child) then child + 1
        else child
      if (ht.valueAt child).lt (ht.timerDups movedNode).timerValue then
        reheapDown k (ht.copyNode slot (ht.heap child)) movedNode child (left child)
      else ht.copyNode slot movedNode
    else ht.copyNode slot movedNode

/-- The loop of `reheap_up`; `slot` rounds are enough. -/
def reheapUp : ℕ → TimerHeap → ℕ → ℕ → ℕ → TimerHeap
  | 0, ht, movedNode, slot, _ => ht.copyNode slot movedNode
  | k + 1, ht, movedNode, slot, par =>
    if slot > 0 then
      if (ht.timerDups movedNode).timerValue.lt (ht.valueAt par) then
        reheapUp k (ht.copyNode slot (ht.heap par)) movedNode par (parent par)
      else ht.copyNode slot movedNode
    else ht.copyNode slot movedNode

/-- The first half of `remove_node`: the id goes to the free list, and the entry and its copy
lose it. An entry that was reused without being cancelled is left alone. -/
def unlinkNode (ht : TimerHeap) (removedNode : ℕ) : TimerHeap :=
  let d := ht.timerDups removedNode
  let ht := ht.pushFreelist d.dup.timerId
  { ht with
    curSize := ht.curSize - 1
    entries :=
      if d.dup.timerId ≠ (ht.entries d.entry).timerId then ht.entries
      else (ht.setTimerId d.entry (-1)).entries
    timerDups := Function.update ht.timerDups removedNode { d with dup := { d.dup with timerId := -1 } } }

/-- `remove_node`; the second part is the removed copy. -/
def removeNode (ht : TimerHeap) (slot : ℕ) : TimerHeap × ℕ :=
  let removedNode := ht.heap slot
  let ht := ht.unlinkNode removedNode
  if slot < ht.curSize then
    let movedNode := ht.heap ht.curSize
    let ht := ht.copyNode slot movedNode
    let par := parent slot
    if (ht.timerDups movedNode).timerValue.gte (ht.valueAt par) then
      (reheapDown ht.curSize ht movedNode slot (left slot), removedNode)
    else (reheapUp slot ht movedNode slot par, removedNode)
  else (ht, removedNode)

/-- `grow_heap`. `allocs` is how many of its three allocations the pool grants. -/
def growHeap (ht : TimerHeap) (allocs : ℕ) : TimerHeap × Status :=
  let newSize := ht.maxSize * 2
  if allocs < 2 then (ht, .enomem)
  else
    let ht := { ht with heap := fun i => if i < ht.curSize then ht.heap i else 0 }
    if allocs < 3 then (ht, .enomem)
    else
      ({ ht with
          timerIds := fun i =>
            if ht.maxSize ≤ i ∧ i < newSize then -int (i + 1) else ht.timerIds i
          maxSize := newSize },
        .success)

/-- The end of `insert_node`, when there is room. -/
def placeNode (ht : TimerHeap) (newNode : ℕ) (futureTime : TimeVal) : TimerHeap :=
  let timerCopy := (ht.entries newNode).timerId.toNat
  let ht := { ht with
    timerDups := Function.update ht.timerDups timerCopy ⟨ht.entries newNode, newNode, futureTime⟩ }
  let ht := reheapUp ht.curSize ht timerCopy ht.curSize (parent ht.curSize)
  { ht with curSize := ht.curSize + 1 }

def insertNode (ht : TimerHeap) (newNode : ℕ) (futureTime : TimeVal) (allocs : ℕ) :
    TimerHeap × Status :=
  let (ht, status) :=
    if ht.curSize + 2 ≥ ht.maxSize then ht.growHeap allocs else (ht, Status.success)
  if status ≠ .success then (ht, status) else (ht.placeNode newNode futureTime, .success)

def scheduleEntry (ht : TimerHeap) (entry : ℕ) (futureTime : TimeVal) (allocs : ℕ) :
    TimerHeap × Status :=
  if ht.curSize < ht.maxSize then
    let (ht, id) := ht.popFreelist
    (ht.setTimerId entry id).insertNode entry futureTime allocs
  else (ht, .failed)

def entryRunning (ht : TimerHeap) (entry : ℕ) : Bool := 1 ≤ (ht.entries entry).timerId

/-- `schedule_w_grp_lock`; `setId` is the id that the caller wants set, if any. -/
def schedule (ht : TimerHeap) (entry : ℕ) (delay : TimeVal) (setId : Option ℤ) (now : TimeVal)
    (allocs : ℕ) : TimerHeap × Status :=
  if (ht.entries entry).cb = none then (ht, .einval)
  else
    let expires := now.add delay
    if ht.entryRunning entry then (ht, .einvalidop)
    else
      let (ht, status) := ht.scheduleEntry entry expires allocs
      if status = .success then
        match setId with
        | none => (ht, status)
        | some idVal =>
          let timerCopy := (ht.entries entry).timerId.toNat
          let d := ht.timerDups timerCopy
          ({ ht with
              timerDups := Function.update ht.timerDups timerCopy { d with dup := { d.dup with id := idVal } }
              entries := Function.update ht.entries entry { ht.entries entry with id := idVal } },
            status)
      else (ht, status)

/-- `cancel`, with assertions off and the close hook not called, as its callers have it. -/
def cancel (ht : TimerHeap) (entry : ℕ) : TimerHeap × ℕ :=
  let slot := ht.timerIds (ht.entries entry).timerId.toNat
  if slot < 0 then (ht.setTimerId entry (-1), 0)
  else if entry ≠ (ht.timerDups (ht.heap slot.toNat)).entry then (ht.setTimerId entry (-1), 0)
  else ((ht.removeNode slot.toNat).1, 1)

/-- `cancel_timer`; `pj_timer_heap_cancel` has no id to set. -/
def cancelTimer (ht : TimerHeap) (entry : ℕ) (setId : Option ℤ) : TimerHeap × ℕ :=
  let id := (ht.entries entry).timerId
  if id < 1 ∨ id.toNat ≥ ht.maxSize then (ht, 0)
  else
    let (ht, count) := ht.cancel entry
    if count > 0 then
      match setId with
      | none => (ht, count)
      | some idVal =>
        ({ ht with entries := Function.update ht.entries entry { ht.entries entry with id := idVal } },
          count)
    else (ht, count)

/-- The delay that `pj_timer_heap_poll` reports. -/
def nextDelay (ht : TimerHeap) (now : TimeVal) : TimeVal :=
  if ht.curSize ≠ 0 then
    let d := (ht.valueAt 0).sub now
    if d.sec < 0 ∨ d.msec < 0 then ⟨0, 0⟩ else d
  else ⟨maxint32, maxint32⟩

end TimerHeap

def create (timerDups : ℕ → EntryDup) (entries : ℕ → Entry) (size : ℕ) : TimerHeap where
  maxSize := size + 2
  curSize := 0
  maxEntriesPerPoll := 64
  heap := fun _ => 0
  timerIds := fun i => -int (i + 1)
  timerDups := timerDups
  timerIdsFreelist := 1
  entries := entries

/-- Where a call of `pj_timer_heap_poll` is: not begun, in the callback of an entry (called if
the entry is still the one that was scheduled), or returned with its count and delay. -/
inductive Poll
  | idle
  | inCallback (count entry : ℕ) (valid : Bool)
  | returned (count : ℕ) (delay : TimeVal)
  deriving DecidableEq

structure System where
  ht : TimerHeap
  polls : ℕ → Poll

/-- The head of the loop of `pj_timer_heap_poll`, up to the next callback or the return; `later`
is the clock as it is read for the delay. -/
def System.pollLoop (s : System) (poller count : ℕ) (now later : TimeVal) : System :=
  let ht := s.ht
  if ht.curSize ≠ 0 ∧ (ht.valueAt 0).lte now ∧ count < ht.maxEntriesPerPoll then
    let (ht, node) := ht.removeNode 0
    let d := ht.timerDups node
    let entry := ht.entries d.entry
    let valid : Bool := ¬ (d.dup.cb ≠ entry.cb ∨ d.dup.userData ≠ entry.userData)
    { ht := ht, polls := Function.update s.polls poller (.inCallback (count + 1) d.entry valid) }
  else { s with polls := Function.update s.polls poller (.returned count (ht.nextDelay later)) }

/-- What happens to the heap, from callbacks or from other threads: the lock is not held during
a callback. -/
inductive Op
  | schedule (entry : ℕ) (delay : TimeVal) (setId : Option ℤ) (now : TimeVal) (allocs : ℕ)
  | cancel (entry : ℕ)
  | cancelIfActive (entry : ℕ) (idVal : ℤ)
  | setMaxTimedOutPerPoll (count : ℕ)
  | write (entry : ℕ) (contents : Entry)
  | poll (poller : ℕ) (now : TimeVal)
  | callbackDone (poller : ℕ) (now later : TimeVal)

def step (s : System) : Op → System
  | .schedule entry delay setId now allocs =>
    { s with ht := (s.ht.schedule entry delay setId now allocs).1 }
  | .cancel entry => { s with ht := (s.ht.cancelTimer entry none).1 }
  | .cancelIfActive entry idVal => { s with ht := (s.ht.cancelTimer entry (some idVal)).1 }
  | .setMaxTimedOutPerPoll count => { s with ht := { s.ht with maxEntriesPerPoll := count } }
  -- the application initialises an entry, or reuses its memory
  | .write entry contents =>
    { s with ht := { s.ht with entries := Function.update s.ht.entries entry contents } }
  | .poll poller now =>
    if s.polls poller ≠ .idle then s
    else if s.ht.curSize = 0 then
      { s with polls := Function.update s.polls poller (.returned 0 ⟨maxint32, maxint32⟩) }
    else s.pollLoop poller 0 now now
  | .callbackDone poller now later =>
    match s.polls poller with
    | .inCallback count _ _ => s.pollLoop poller count now later
    | _ => s

end PjProject.Timer
