import PjProject.TimerRun

/-!
# What the timer heap fires

The events of a run (a schedule that succeeds, a cancel that returns 1, a poll, a callback)
say which entries are due and when. The heap holds exactly these, so that each schedule ends
in one callback or one cancel, and a poll calls back in the order of the expiries.
-/
namespace PjProject.Timer

open IndexedHeap
open Transition (run Guarded)

inductive Event
  | scheduled (entry : ℕ) (expires : TimeVal)
  | cancelled (entry : ℕ)
  | polled (poller : ℕ)
  | fired (poller entry : ℕ) (expires now : TimeVal)
  deriving DecidableEq

/-- The callback, if any, that the loop of `pj_timer_heap_poll` gets to. -/
def System.firing (s : System) (poller count : ℕ) (now later : TimeVal) : List Event :=
  match (s.pollLoop poller count now later).polls poller with
  | .inCallback _ entry true =>
    if ((s.pollLoop poller count now later).ht.entries entry).cb ≠ none then
      [.fired poller entry (s.ht.valueAt 0) now]
    else []
  | _ => []

def events (s : System) : Op → List Event
  | .schedule entry delay setId now allocs =>
    if (s.ht.schedule entry delay setId now allocs).2 = .success then [.scheduled entry (now.add delay)]
    else []
  | .cancel entry => if (s.ht.cancelTimer entry none).2 = 1 then [.cancelled entry] else []
  | .cancelIfActive entry idVal =>
    if (s.ht.cancelTimer entry (some idVal)).2 = 1 then [.cancelled entry] else []
  | .poll poller now =>
    if s.polls poller ≠ .idle then []
    else if s.ht.curSize = 0 then [.polled poller]
    else .polled poller :: s.firing poller 0 now now
  | .callbackDone poller now later =>
    match s.polls poller with
    | .inCallback count _ _ => s.firing poller count now later
    | _ => []
  | _ => []

structure Trace where
  sys : System
  log : List Event

def Trace.step (t : Trace) (op : Op) : Trace := ⟨Timer.step t.sys op, t.log ++ events t.sys op⟩

def dueAfter (entry : ℕ) (due : Option TimeVal) : Event → Option TimeVal
  | .scheduled e expires => if e = entry then some expires else due
  | .cancelled e => if e = entry then none else due
  | .fired _ e _ _ => if e = entry then none else due
  | .polled _ => due

def due (log : List Event) (entry : ℕ) : Option TimeVal := log.foldl (dueAfter entry) none

@[simp] lemma due_append_singleton (log : List Event) (ev : Event) (entry : ℕ) :
    due (log ++ [ev]) entry = dueAfter entry (due log entry) ev := by
  simp [due, List.foldl_append]

def Legal (log : List Event) : Event → Prop
  | .scheduled entry _ => due log entry = none
  | .cancelled entry => due log entry ≠ none
  | .fired _ entry expires now => due log entry = some expires ∧ expires.lte now ∧
      ∀ e v, due log e = some v → expires.lte v
  | .polled _ => True

def LegalLog (log : List Event) : Prop :=
  ∀ before ev after, log = before ++ ev :: after → Legal before ev

variable {ev : Event}

lemma LegalLog.append {log : List Event} (h : LegalLog log) (hev : Legal log ev) :
    LegalLog (log ++ [ev]) := by
  intro before e after heq
  rcases List.append_eq_append_iff.1 heq with ⟨mid, rfl, hmid⟩ | ⟨mid, rfl, hmid⟩
  · cases mid with
    | nil =>
      obtain ⟨rfl, -⟩ := List.cons.inj hmid
      simpa using hev
    | cons m mid =>
      have := (List.cons.inj hmid).2
      simp at this
  · cases mid with
    | nil =>
      obtain ⟨rfl, -⟩ := List.cons.inj hmid
      simpa using hev
    | cons m mid =>
      obtain ⟨rfl, rfl⟩ := List.cons.inj hmid
      exact h before e mid rfl

variable {entry : ℕ}

lemma due_of_not_scheduled {v : TimeVal} (log : List Event) : ∀ {d : Option TimeVal},
    log.foldl (dueAfter entry) d = some v → (∀ u, Event.scheduled entry u ∉ log) → d = some v := by
  induction log with
  | nil => exact fun h _ => h
  | cons ev log ih =>
    intro d h hno
    have hd := ih h fun u hu => hno u (List.mem_cons_of_mem _ hu)
    cases ev with
    | scheduled e u =>
      by_cases he : e = entry
      · exact absurd (List.mem_cons_self ..) (he ▸ hno u)
      · simpa [dueAfter, he] using hd
    | cancelled e =>
      by_cases he : e = entry
      · simp [dueAfter, he] at hd
      · simpa [dueAfter, he] using hd
    | polled p => exact hd
    | fired p e x y =>
      by_cases he : e = entry
      · simp [dueAfter, he] at hd
      · simpa [dueAfter, he] using hd

def ends (entry : ℕ) : Event → Bool
  | .cancelled e => e = entry
  | .fired _ e _ _ => e = entry
  | _ => false

def begins (entry : ℕ) : Event → Bool
  | .scheduled e _ => e = entry
  | _ => false

lemma dueAfter_of_ends (h : ends entry ev = true) (d : Option TimeVal) : dueAfter entry d ev = none := by
  cases ev <;> simp_all [ends, dueAfter]

lemma dueAfter_of_other (h1 : begins entry ev = false)
    (h2 : ends entry ev = false) (d : Option TimeVal) : dueAfter entry d ev = d := by
  cases ev <;> simp_all [begins, ends, dueAfter]

lemma Legal.due_ne_none {log : List Event} (h : Legal log ev)
    (he : ends entry ev = true) : due log entry ≠ none := by
  cases ev with
  | scheduled e u => simp [ends] at he
  | cancelled e =>
    obtain rfl : e = entry := by simpa [ends] using he
    exact h
  | polled p => simp [ends] at he
  | fired p e x y =>
    obtain rfl : e = entry := by simpa [ends] using he
    rw [h.1]
    simp

lemma countP_ends_le {entry : ℕ} (seg : List Event) : ∀ (log : List Event), LegalLog (log ++ seg) →
    (∀ ev ∈ seg, begins entry ev = false) →
    seg.countP (ends entry) ≤ if due log entry = none then 0 else 1 := by
  induction seg with
  | nil => simp
  | cons ev seg ih =>
    intro log hlegal hno
    have hev := hlegal log ev seg rfl
    have hb := hno ev (by simp)
    have hrest := ih (log ++ [ev]) (by simpa using hlegal) fun e he => hno e (by simp [he])
    rw [due_append_singleton] at hrest
    by_cases he : ends entry ev = true
    · rw [dueAfter_of_ends he, if_pos rfl] at hrest
      rw [List.countP_cons_of_pos he, if_neg (hev.due_ne_none he)]
      omega
    · rw [List.countP_cons_of_neg he]
      rwa [dueAfter_of_other hb (by simpa using he)] at hrest

def TimerHeap.Holds (ht : TimerHeap) (entry : ℕ) (expires : TimeVal) : Prop :=
  ∃ node, ht.Live node ∧ (ht.timerDups node).entry = entry ∧ (ht.timerDups node).timerValue = expires

def TimerHeap.InHeap (ht : TimerHeap) (entry : ℕ) : Prop :=
  ∃ i < ht.curSize, (ht.timerDups (ht.heap i)).entry = entry

instance (ht : TimerHeap) (entry : ℕ) : Decidable (ht.InHeap entry) :=
  inferInstanceAs (Decidable (∃ i < ht.curSize, _))

lemma TimerHeap.inHeap_iff (ht : TimerHeap) (entry : ℕ) : ht.InHeap entry ↔ ∃ v, ht.Holds entry v := by
  constructor
  · rintro ⟨i, hi, he⟩
    exact ⟨_, ht.heap i, ⟨i, hi, rfl⟩, he, rfl⟩
  · rintro ⟨v, node, ⟨i, hi, rfl⟩, he, -⟩
    exact ⟨i, hi, he⟩

structure Link (d : EntryDup) (entry : Entry) (node : ℕ) : Prop where
  timerId : entry.timerId = node
  cb : entry.cb = d.dup.cb
  cb_ne : d.dup.cb ≠ none
  userData : entry.userData = d.dup.userData

def Linked (ht : TimerHeap) : Prop :=
  ∀ node, ht.Live node → Link (ht.timerDups node) (ht.entries (ht.timerDups node).entry) node

variable {ht : TimerHeap}

lemma Linked.node_eq (h : Linked ht) {node node' : ℕ} (hl : ht.Live node)
    (hl' : ht.Live node') (he : (ht.timerDups node).entry = (ht.timerDups node').entry) : node = node' := by
  have h1 := (h node hl).timerId
  rw [he, (h node' hl').timerId] at h1
  exact_mod_cast h1.symm

lemma removeNode_fields (h : Inv ht) (hl : Linked ht) {slot : ℕ} (hs : slot < ht.curSize) :
    (ht.removeNode slot).2 = ht.heap slot ∧
      (∀ k, ((ht.removeNode slot).1.timerDups k).entry = (ht.timerDups k).entry ∧
        ((ht.removeNode slot).1.timerDups k).timerValue = (ht.timerDups k).timerValue ∧
        ((ht.removeNode slot).1.timerDups k).dup.cb = (ht.timerDups k).dup.cb ∧
        ((ht.removeNode slot).1.timerDups k).dup.userData = (ht.timerDups k).dup.userData) ∧
      (ht.removeNode slot).1.entries = (ht.setTimerId (ht.timerDups (ht.heap slot)).entry (-1)).entries := by
  have hid : (ht.timerDups (ht.heap slot)).dup.timerId = ht.heap slot := h.homed slot hs
  have hlink := (hl _ ⟨slot, hs, rfl⟩).timerId
  refine ⟨?_, ?_, ?_⟩
  · unfold TimerHeap.removeNode
    dsimp only
    split_ifs <;> rfl
  · intro k
    rw [removeNode_eq h hs]
    by_cases hk : k = ht.heap slot
    · simp [TimerHeap.withView, TimerHeap.unlinkNode, TimerHeap.pushFreelist, hk]
    · simp [TimerHeap.withView, TimerHeap.unlinkNode, TimerHeap.pushFreelist, Function.update_of_ne hk]
  · have hsame : ¬ (ht.timerDups (ht.heap slot)).dup.timerId ≠
        (ht.entries (ht.timerDups (ht.heap slot)).entry).timerId := by
      rw [hid, hlink]
      simp
    rw [removeNode_eq h hs]
    exact if_neg hsame

lemma removeNode_holds (h : Inv ht) (hl : Linked ht) {slot : ℕ} (hs : slot < ht.curSize) :
    Linked (ht.removeNode slot).1 ∧
      ∀ e v, (ht.removeNode slot).1.Holds e v ↔ ht.Holds e v ∧ e ≠ (ht.timerDups (ht.heap slot)).entry := by
  obtain ⟨-, hdup, hent⟩ := removeNode_fields h hl hs
  have hlive := removeNode_live h hs
  have hslot : ht.Live (ht.heap slot) := ⟨slot, hs, rfl⟩
  have hother : ∀ k, ht.Live k → k ≠ ht.heap slot →
      (ht.timerDups k).entry ≠ (ht.timerDups (ht.heap slot)).entry :=
    fun k hk hne he => hne (hl.node_eq hk hslot he)
  constructor
  · intro k hk
    obtain ⟨hk1, hk2⟩ := (hlive k).1 hk
    obtain ⟨h1, -, h3, h4⟩ := hdup k
    obtain ⟨g1, g2, g3, g4⟩ := hl k hk1
    rw [h1, hent, TimerHeap.setTimerId]
    simp only [Function.update_of_ne (hother k hk1 hk2)]
    exact ⟨g1, g2.trans h3.symm, h3.symm ▸ g3, g4.trans h4.symm⟩
  · intro e v
    constructor
    · rintro ⟨k, hk, he, hv⟩
      obtain ⟨hk1, hk2⟩ := (hlive k).1 hk
      obtain ⟨h1, h2, -⟩ := hdup k
      rw [h1] at he
      rw [h2] at hv
      exact ⟨⟨k, hk1, he, hv⟩, he ▸ hother k hk1 hk2⟩
    · rintro ⟨⟨k, hk, he, hv⟩, hne⟩
      obtain ⟨h1, h2, -⟩ := hdup k
      refine ⟨k, (hlive k).2 ⟨hk, ?_⟩, h1.trans he, h2.trans hv⟩
      rintro rfl
      exact hne he.symm

lemma Added.holds {ht' : TimerHeap} {k : ℕ} {time : TimeVal} (hl : Linked ht)
    (hcb : (ht.entries entry).cb ≠ none) (hidle : (ht.entries entry).timerId < 1)
    (hinv : Inv ht) (hfresh : ¬ ht.Live k) (h : Added (ht.setTimerId entry k) ht' entry k time) :
    Linked ht' ∧ (¬ ∃ v, ht.Holds entry v) ∧
      ∀ e v, ht'.Holds e v ↔ (if e = entry then v = time else ht.Holds e v) := by
  obtain ⟨-, hlive, hdup, hent⟩ := h
  have hlive' : ∀ j, ht'.Live j ↔ j = k ∨ ht.Live j := hlive
  have hnot : ∀ j, ht.Live j → (ht.timerDups j).entry ≠ entry := by
    intro j hj he
    have h1 := (hl j hj).timerId
    have h2 := (hinv.live_range hj).1.1
    rw [he] at h1
    omega
  have hsame : ∀ j, ht.Live j → ht'.timerDups j = ht.timerDups j := by
    intro j hj
    have hne : j ≠ k := fun he => hfresh (he ▸ hj)
    rw [hdup, Function.update_of_ne hne]
    rfl
  have hk : ht'.timerDups k = ⟨{ ht.entries entry with timerId := k }, entry, time⟩ := by
    rw [hdup, Function.update_self]
    simp [TimerHeap.setTimerId]
  refine ⟨?_, ?_, ?_⟩
  · intro j hj
    rcases (hlive' j).1 hj with rfl | hj
    · rw [hk, hent]
      simp only [TimerHeap.setTimerId, Function.update_self]
      exact ⟨rfl, rfl, hcb, rfl⟩
    · rw [hsame j hj, hent]
      simp only [TimerHeap.setTimerId, Function.update_of_ne (hnot j hj)]
      exact hl j hj
  · rintro ⟨v, j, hj, he, -⟩
    exact hnot j hj he
  · intro e v
    split_ifs with he
    · subst he
      constructor
      · rintro ⟨j, hj, h1, h2⟩
        rcases (hlive' j).1 hj with rfl | hj
        · rw [hk] at h2
          exact h2.symm
        · rw [hsame j hj] at h1
          exact absurd h1 (hnot j hj)
      · rintro rfl
        exact ⟨k, (hlive' k).2 (.inl rfl), by rw [hk], by rw [hk]⟩
    · constructor
      · rintro ⟨j, hj, h1, h2⟩
        rcases (hlive' j).1 hj with rfl | hj
        · rw [hk] at h1
          exact absurd h1.symm he
        · rw [hsame j hj] at h1 h2
          exact ⟨j, hj, h1, h2⟩
      · rintro ⟨j, hj, h1, h2⟩
        refine ⟨j, (hlive' j).2 (.inr hj), ?_, ?_⟩
        · rw [hsame j hj, h1]
        · rw [hsame j hj, h2]

lemma Linked.of_entries {ht ht' : TimerHeap} (hl : Linked ht) (hlive : ∀ k, ht'.Live k ↔ ht.Live k)
    (hdup : ∀ k, (ht'.timerDups k).entry = (ht.timerDups k).entry ∧
      (ht'.timerDups k).timerValue = (ht.timerDups k).timerValue ∧
      (ht'.timerDups k).dup.cb = (ht.timerDups k).dup.cb ∧
      (ht'.timerDups k).dup.userData = (ht.timerDups k).dup.userData)
    (hent : ∀ e v, ht.Holds e v → (ht'.entries e).timerId = (ht.entries e).timerId ∧
      (ht'.entries e).cb = (ht.entries e).cb ∧ (ht'.entries e).userData = (ht.entries e).userData) :
    Linked ht' ∧ ∀ e v, ht'.Holds e v ↔ ht.Holds e v := by
  constructor
  · intro k hk
    have hk' := (hlive k).1 hk
    obtain ⟨h1, -, h3, h4⟩ := hdup k
    obtain ⟨g1, g2, g3, g4⟩ := hl k hk'
    obtain ⟨e1, e2, e3⟩ := hent _ _ ⟨k, hk', rfl, rfl⟩
    rw [h1]
    exact ⟨e1.trans g1, e2.trans (g2.trans h3.symm), h3.symm ▸ g3, e3.trans (g4.trans h4.symm)⟩
  · intro e v
    constructor
    · rintro ⟨k, hk, h1, h2⟩
      obtain ⟨d1, d2, -⟩ := hdup k
      exact ⟨k, (hlive k).1 hk, d1.symm.trans h1, d2.symm.trans h2⟩
    · rintro ⟨k, hk, h1, h2⟩
      obtain ⟨d1, d2, -⟩ := hdup k
      exact ⟨k, (hlive k).2 hk, d1.trans h1, d2.trans h2⟩

lemma Linked.set_id (hl : Linked ht) (entry node : ℕ) (idVal : ℤ) :
    let ht' : TimerHeap := { ht with
      timerDups := Function.update ht.timerDups node
        { ht.timerDups node with dup := { (ht.timerDups node).dup with id := idVal } }
      entries := Function.update ht.entries entry { ht.entries entry with id := idVal } }
    Linked ht' ∧ ∀ e v, ht'.Holds e v ↔ ht.Holds e v := by
  refine hl.of_entries (fun _ => Iff.rfl) ?_ ?_
  · intro j
    simp only [Function.update_apply]
    split_ifs with hj
    · rw [hj]
      exact ⟨rfl, rfl, rfl, rfl⟩
    · exact ⟨rfl, rfl, rfl, rfl⟩
  · intro e v _
    simp only [Function.update_apply]
    split_ifs with he
    · rw [he]
      exact ⟨rfl, rfl, rfl⟩
    · exact ⟨rfl, rfl, rfl⟩

lemma schedule_holds (h : Inv ht) (hl : Linked ht) (entry : ℕ) (delay : TimeVal)
    (setId : Option ℤ) (now : TimeVal) {allocs : ℕ}
    (hg : (ht.entries entry).cb ≠ none → ht.entryRunning entry = false → Granted ht allocs) :
    ((ht.schedule entry delay setId now allocs).1 = ht ∧
        (ht.schedule entry delay setId now allocs).2 ≠ .success) ∨
      ((ht.schedule entry delay setId now allocs).2 = .success ∧
        Linked (ht.schedule entry delay setId now allocs).1 ∧ (¬ ∃ v, ht.Holds entry v) ∧
        ∀ e v, (ht.schedule entry delay setId now allocs).1.Holds e v ↔
          (if e = entry then v = now.add delay else ht.Holds e v)) := by
  unfold TimerHeap.schedule
  by_cases hcb : (ht.entries entry).cb = none
  · rw [if_pos hcb]
    exact .inl ⟨rfl, by simp⟩
  rw [if_neg hcb]
  cases hrun : ht.entryRunning entry with
  | true => exact .inl ⟨rfl, by simp⟩
  | false =>
    obtain ⟨hok, k, h1, hfresh, hadd⟩ := scheduleEntry_added h entry (now.add delay) (hg hcb hrun)
    have hidle : (ht.entries entry).timerId < 1 := by simpa [TimerHeap.entryRunning] using hrun
    obtain ⟨hl', hnot, hholds⟩ := hadd.holds hl hcb hidle h hfresh
    right
    simp only [Bool.false_eq_true, if_false, if_pos hok]
    cases setId with
    | none => exact ⟨hok, hl', hnot, hholds⟩
    | some idVal =>
      obtain ⟨hl'', hholds'⟩ := hl'.set_id entry
        ((ht.scheduleEntry entry (now.add delay) allocs).1.entries entry).timerId.toNat idVal
      exact ⟨hok, hl'', hnot, fun e v => (hholds' e v).trans (hholds e v)⟩

lemma cancelTimer_holds (h : Inv ht) (hl : Linked ht) (entry : ℕ) (setId : Option ℤ) :
    Linked (ht.cancelTimer entry setId).1 ∧ (((ht.cancelTimer entry setId).2 = 1 ∧ (∃ v, ht.Holds entry v) ∧
          ∀ e v, (ht.cancelTimer entry setId).1.Holds e v ↔ ht.Holds e v ∧ e ≠ entry) ∨
        ((ht.cancelTimer entry setId).2 = 0 ∧ (¬ ∃ v, ht.Holds entry v) ∧
          ∀ e v, (ht.cancelTimer entry setId).1.Holds e v ↔ ht.Holds e v)) := by
  have hidle : (¬ ∃ v, ht.Holds entry v) → Linked (ht.setTimerId entry (-1)) ∧
      ∀ e v, (ht.setTimerId entry (-1)).Holds e v ↔ ht.Holds e v := by
    intro hno
    refine hl.of_entries (fun _ => Iff.rfl) (fun _ => ⟨rfl, rfl, rfl, rfl⟩) ?_
    intro e v he
    have hne : e ≠ entry := fun heq => hno ⟨v, heq ▸ he⟩
    simp [TimerHeap.setTimerId, Function.update_of_ne hne]
  unfold TimerHeap.cancelTimer
  by_cases hid : (ht.entries entry).timerId < 1 ∨ (ht.entries entry).timerId.toNat ≥ ht.maxSize
  · rw [if_pos hid]
    refine ⟨hl, .inr ⟨rfl, ?_, fun _ _ => Iff.rfl⟩⟩
    rintro ⟨v, node, hn, rfl, -⟩
    have h1 := (hl node hn).timerId
    have h2 := (h.live_range hn).1
    omega
  simp only [if_neg hid]
  unfold TimerHeap.cancel
  by_cases hneg : ht.timerIds (ht.entries entry).timerId.toNat < 0
  · have hno : ¬ ∃ v, ht.Holds entry v := by
      rintro ⟨v, node, ⟨i, hi, rfl⟩, rfl, -⟩
      have h1 := (hl _ ⟨i, hi, rfl⟩).timerId
      have h2 : ht.timerIds (ht.heap i) = i := h.heap.pos i hi (by omega)
      rw [h1, Int.toNat_natCast, h2] at hneg
      omega
    obtain ⟨g1, g2⟩ := hidle hno
    simp only [if_pos hneg]
    exact ⟨g1, .inr ⟨rfl, hno, g2⟩⟩
  · obtain ⟨i, hi, hnode, hslot⟩ := h.timerIds_nonneg (by omega) (by omega) (not_lt.1 hneg)
    simp only [hslot, Int.toNat_natCast]
    by_cases he : entry ≠ (ht.timerDups (ht.heap i)).entry
    · have hno : ¬ ∃ v, ht.Holds entry v := by
        rintro ⟨v, node, hn, rfl, -⟩
        have h1 := (hl node hn).timerId
        rw [h1, Int.toNat_natCast] at hnode
        exact he (by rw [hnode])
      obtain ⟨g1, g2⟩ := hidle hno
      simp only [if_pos he]
      exact ⟨g1, .inr ⟨rfl, hno, g2⟩⟩
    · have he' : (ht.timerDups (ht.heap i)).entry = entry := (not_ne_iff.1 he).symm
      obtain ⟨g1, g2⟩ := removeNode_holds h hl hi
      rw [he'] at g2
      have hin : ∃ v, ht.Holds entry v := ⟨_, _, ⟨i, hi, rfl⟩, he', rfl⟩
      simp only [if_neg he, gt_iff_lt]
      cases setId with
      | none => exact ⟨g1, .inl ⟨rfl, hin, g2⟩⟩
      | some idVal =>
        obtain ⟨g3, g4⟩ := @Linked.of_entries (ht.removeNode i).1
          { (ht.removeNode i).1 with
            entries := Function.update (ht.removeNode i).1.entries entry
              { (ht.removeNode i).1.entries entry with id := idVal } } g1 (fun _ => Iff.rfl)
          (fun _ => ⟨rfl, rfl, rfl, rfl⟩) (by
            intro e v _
            simp only [Function.update_apply]
            split_ifs with heq
            · rw [heq]
              exact ⟨rfl, rfl, rfl⟩
            · exact ⟨rfl, rfl, rfl⟩)
        exact ⟨g3, .inl ⟨rfl, hin, fun e v => (g4 e v).trans (g2 e v)⟩⟩

lemma valueAt_zero_lte (h : Inv ht) {e : ℕ} {v : TimeVal} (hh : ht.Holds e v) : (ht.valueAt 0).lte v := by
  obtain ⟨node, ⟨i, hi, rfl⟩, -, rfl⟩ := hh
  exact (TimeVal.lte_iff ..).2 (h.heap.root_le hi)

lemma pollLoop_holds {s : System} (h : Inv s.ht) (hl : Linked s.ht) (poller count : ℕ) (now later : TimeVal) :
    ((s.pollLoop poller count now later).ht = s.ht ∧ s.firing poller count now later = []) ∨
      ∃ e, s.firing poller count now later = [.fired poller e (s.ht.valueAt 0) now] ∧
        s.ht.Holds e (s.ht.valueAt 0) ∧ (s.ht.valueAt 0).lte now ∧
        Linked (s.pollLoop poller count now later).ht ∧
        ∀ e' v, (s.pollLoop poller count now later).ht.Holds e' v ↔ s.ht.Holds e' v ∧ e' ≠ e := by
  unfold System.firing System.pollLoop
  by_cases hfire : s.ht.curSize ≠ 0 ∧ (s.ht.valueAt 0).lte now ∧ count < s.ht.maxEntriesPerPoll
  · right
    have hpos : 0 < s.ht.curSize := Nat.pos_of_ne_zero hfire.1
    obtain ⟨hnode, hdup, hent⟩ := removeNode_fields h hl hpos
    obtain ⟨hl', hholds⟩ := removeNode_holds h hl hpos
    obtain ⟨d1, d2, d3, d4⟩ := hdup (s.ht.heap 0)
    obtain ⟨g1, g2, g3, g4⟩ := hl _ ⟨0, hpos, rfl⟩
    simp only [if_pos hfire, hnode, Function.update_self]
    rw [d1, d3, d4, hent]
    simp only [TimerHeap.setTimerId, Function.update_self, g2, g4, ne_eq, not_true_eq_false, or_self,
      not_false_eq_true, decide_true, if_pos g3]
    exact ⟨_, rfl, ⟨_, ⟨0, hpos, rfl⟩, rfl, rfl⟩, hfire.2.1, hl', hholds⟩
  · left
    simp only [if_neg hfire, Function.update_self, and_self]

/-- What a run has to meet: no growth of the heap fails, and no entry is written to by the
application while it is in the heap. -/
def Proper (t : Trace) : Op → Prop
  | .write entry _ => ¬ t.sys.ht.InHeap entry
  | op => Allowed t.sys op

instance (t : Trace) (op : Op) : Decidable (Proper t op) :=
  match op with
  | .write entry _ => inferInstanceAs (Decidable (¬ t.sys.ht.InHeap entry))
  | .schedule entry delay setId now allocs =>
    inferInstanceAs (Decidable (Allowed t.sys (.schedule entry delay setId now allocs)))
  | .cancel _ | .cancelIfActive _ _ | .setMaxTimedOutPerPoll _ | .poll _ _
  | .callbackDone _ _ _ => .isTrue trivial

variable {t : Trace}

lemma Proper.allowed {op : Op} (h : Proper t op) : Allowed t.sys op := by
  cases op <;> first | exact h | trivial

structure Tracks (t : Trace) : Prop where
  inv : Inv t.sys.ht
  linked : Linked t.sys.ht
  due : ∀ e v, due t.log e = some v ↔ t.sys.ht.Holds e v
  legal : LegalLog t.log

lemma Tracks.due_eq_none (h : Tracks t) (e : ℕ) : Timer.due t.log e = none ↔ ¬ ∃ v, t.sys.ht.Holds e v := by
  rw [Option.eq_none_iff_forall_ne_some, not_exists]
  exact forall_congr' fun v => not_congr (h.due e v)

variable {sys : System}

lemma Tracks.event (h : Tracks t) (hinv : Inv sys.ht) (hl : Linked sys.ht) (hev : Legal t.log ev)
    (hholds : ∀ e v, dueAfter e (Timer.due t.log e) ev = some v ↔ sys.ht.Holds e v) :
    Tracks ⟨sys, t.log ++ [ev]⟩ :=
  ⟨hinv, hl, fun e v => by rw [due_append_singleton]; exact hholds e v, h.legal.append hev⟩

lemma Tracks.silent (h : Tracks t) (hinv : Inv sys.ht) (hl : Linked sys.ht)
    (hholds : ∀ e v, sys.ht.Holds e v ↔ t.sys.ht.Holds e v) : Tracks ⟨sys, t.log ++ []⟩ := by
  rw [List.append_nil]
  exact ⟨hinv, hl, fun e v => (h.due e v).trans (hholds e v).symm, h.legal⟩

lemma Tracks.ended (h : Tracks t) {e : ℕ} (hinv : Inv sys.ht)
    (hl : Linked sys.ht) (hev : Legal t.log ev) (hend : ∀ d e', dueAfter e' d ev = if e = e' then none else d)
    (hholds : ∀ e' v, sys.ht.Holds e' v ↔ t.sys.ht.Holds e' v ∧ e' ≠ e) : Tracks ⟨sys, t.log ++ [ev]⟩ := by
  refine h.event hinv hl hev ?_
  intro e' v
  rw [hend, hholds]
  by_cases he : e = e'
  · simp [he]
  · rw [if_neg he, h.due]
    exact ⟨fun hh => ⟨hh, Ne.symm he⟩, fun hh => hh.1⟩

lemma Tracks.cancel {t : Trace} (h : Tracks t) (entry : ℕ) (setId : Option ℤ) :
    Tracks ⟨{ t.sys with ht := (t.sys.ht.cancelTimer entry setId).1 },
      t.log ++ if (t.sys.ht.cancelTimer entry setId).2 = 1 then [.cancelled entry] else []⟩ := by
  have hinv := cancelTimer_inv h.inv entry setId
  obtain ⟨hl, ⟨hone, hin, hholds⟩ | ⟨hzero, hno, hholds⟩⟩ := cancelTimer_holds h.inv h.linked entry setId
  · rw [if_pos hone]
    refine h.ended (e := entry) hinv hl ?_ (fun _ _ => rfl) hholds
    show Timer.due t.log entry ≠ none
    rw [ne_eq, h.due_eq_none, not_not]
    exact hin
  · rw [if_neg (by omega)]
    exact h.silent hinv hl hholds

lemma Tracks.pollLoop (h : Tracks t) (poller count : ℕ) (now later : TimeVal) :
    Tracks ⟨t.sys.pollLoop poller count now later, t.log ++ t.sys.firing poller count now later⟩ := by
  have hinv := pollLoop_inv h.inv poller count now later
  rcases pollLoop_holds h.inv h.linked poller count now later with ⟨hsame, hno⟩ |
    ⟨e, hev, hin, hlte, hl, hholds⟩
  · rw [hno]
    exact h.silent hinv (by rw [hsame]; exact h.linked) (by rw [hsame]; exact fun _ _ => Iff.rfl)
  · rw [hev]
    refine h.ended (e := e) hinv hl ⟨(h.due _ _).2 hin, hlte, ?_⟩ (fun _ _ => rfl) hholds
    intro e' v hd
    exact valueAt_zero_lte h.inv ((h.due e' v).1 hd)

lemma Tracks.polled (h : Tracks t) (poller : ℕ) (polls : ℕ → Poll) :
    Tracks ⟨{ t.sys with polls := polls }, t.log ++ [.polled poller]⟩ :=
  h.event h.inv h.linked trivial fun e v => h.due e v

lemma Tracks.step {op : Op} (h : Tracks t) (hok : Proper t op) : Tracks (t.step op) := by
  have hinv := step_inv h.inv op hok.allowed
  cases op with
  | schedule entry delay setId now allocs =>
    have hg : (t.sys.ht.entries entry).cb ≠ none → t.sys.ht.entryRunning entry = false →
        Granted t.sys.ht allocs := hok
    rcases schedule_holds h.inv h.linked entry delay setId now hg with ⟨hsame, hno⟩ | ⟨hst, hl, hnot, hholds⟩
    · simp only [Trace.step, events, if_neg hno]
      refine h.silent hinv ?_ ?_
      · simp only [Timer.step, hsame]
        exact h.linked
      · simp [Timer.step, hsame]
    · simp only [Trace.step, events, if_pos hst]
      refine h.event hinv hl ((h.due_eq_none entry).2 hnot) ?_
      intro e v
      simp only [Timer.step, hholds e v, dueAfter]
      by_cases he : entry = e
      · rw [if_pos he, if_pos he.symm, Option.some_inj, eq_comm]
      · rw [if_neg he, if_neg (Ne.symm he), h.due]
  | cancel entry => exact h.cancel entry none
  | cancelIfActive entry idVal => exact h.cancel entry (some idVal)
  | setMaxTimedOutPerPoll count => exact h.silent hinv h.linked fun _ _ => Iff.rfl
  | write entry contents =>
    have hno : ¬ t.sys.ht.InHeap entry := hok
    rw [TimerHeap.inHeap_iff] at hno
    obtain ⟨hl, hholds⟩ := @Linked.of_entries t.sys.ht
      { t.sys.ht with entries := Function.update t.sys.ht.entries entry contents } h.linked
      (fun _ => Iff.rfl) (fun _ => ⟨rfl, rfl, rfl, rfl⟩) (by
        intro e v he
        have hne : e ≠ entry := fun heq => hno ⟨v, heq ▸ he⟩
        simp [Function.update_of_ne hne])
    exact h.silent hinv hl hholds
  | poll poller now =>
    simp only [Trace.step, events, Timer.step]
    by_cases hidle : t.sys.polls poller ≠ .idle
    · rw [if_pos hidle, if_pos hidle]
      exact h.silent h.inv h.linked fun _ _ => Iff.rfl
    rw [if_neg hidle, if_neg hidle]
    by_cases h0 : t.sys.ht.curSize = 0
    · rw [if_pos h0, if_pos h0]
      exact h.polled poller _
    · rw [if_neg h0, if_neg h0]
      have := (h.polled poller t.sys.polls).pollLoop poller 0 now now
      simpa using this
  | callbackDone poller now later =>
    simp only [Trace.step, events, Timer.step]
    cases hp : t.sys.polls poller with
    | idle => exact h.silent h.inv h.linked fun _ _ => Iff.rfl
    | inCallback count entry valid => exact h.pollLoop poller count now later
    | returned count delay => exact h.silent h.inv h.linked fun _ _ => Iff.rfl

lemma create_tracks (timerDups : ℕ → EntryDup) (entries : ℕ → Entry) {size : ℕ} (hs : size + 2 < 2 ^ 31) :
    Tracks ⟨⟨create timerDups entries size, fun _ => .idle⟩, []⟩ := by
  have hnone : ∀ k, ¬ (create timerDups entries size).Live k := by
    rintro k ⟨i, hi, -⟩
    exact Nat.not_lt_zero i hi
  refine ⟨create_inv timerDups entries hs, fun k hk => absurd hk (hnone k), ?_, ?_⟩
  · intro e v
    constructor
    · simp [Timer.due]
    · rintro ⟨k, hk, -⟩
      exact absurd hk (hnone k)
  · intro before ev after h
    simp at h

/-- What is said of a run: each schedule ends at most once, a cancel returns 1 for the entries in
the heap, which are those that are due by the events, and a poll calls back in order. -/
structure Fires (t : Trace) : Prop where
  once : ∀ before e v after, t.log = before ++ .scheduled e v :: after →
    (after.takeWhile fun ev => !begins e ev).countP (ends e) ≤ 1
  cancel : ∀ e setId, (t.sys.ht.cancelTimer e setId).2 = 1 ↔ t.sys.ht.InHeap e
  kept : ∀ e v, due t.log e = some v ↔ t.sys.ht.Holds e v
  expired : ∀ p e v now, .fired p e v now ∈ t.log → v.lte now
  order : ∀ before p mid e₁ v₁ now₁ mid' e₂ v₂ now₂ after,
    t.log = before ++ .polled p :: mid ++ .fired p e₁ v₁ now₁ :: mid' ++ .fired p e₂ v₂ now₂ :: after →
    (∀ u, .scheduled e₂ u ∉ mid ++ mid') → v₁.lte v₂

lemma Tracks.fires (h : Tracks t) : Fires t where
  once := by
    intro before e v after hlog
    have hsplit : t.log = before ++ [.scheduled e v] ++ (after.takeWhile fun ev => !begins e ev) ++
        after.dropWhile fun ev => !begins e ev := by
      rw [List.append_assoc, List.takeWhile_append_dropWhile]
      simpa using hlog
    have hlegal : LegalLog (before ++ [.scheduled e v] ++ after.takeWhile fun ev => !begins e ev) := by
      intro l ev l' heq
      refine h.legal l ev (l' ++ after.dropWhile fun ev => !begins e ev) ?_
      rw [hsplit, heq]
      simp
    have hcount := @countP_ends_le e _ _ hlegal (by
      intro ev hev
      simpa using List.all_eq_true.1 List.all_takeWhile ev hev)
    split_ifs at hcount <;> omega
  cancel := by
    intro e setId
    rw [TimerHeap.inHeap_iff]
    rcases (cancelTimer_holds h.inv h.linked e setId).2 with ⟨h1, h2, -⟩ | ⟨h1, h2, -⟩
    · exact ⟨fun _ => h2, fun _ => h1⟩
    · exact ⟨fun h3 => by omega, fun h3 => absurd h3 h2⟩
  kept := h.due
  expired := by
    intro p e v now hmem
    obtain ⟨before, after, hlog⟩ := List.append_of_mem hmem
    exact (h.legal _ _ _ hlog).2.1
  order := by
    intro before p mid e₁ v₁ now₁ mid' e₂ v₂ now₂ after hlog hno
    have hfirst := h.legal (before ++ .polled p :: mid) (.fired p e₁ v₁ now₁)
      (mid' ++ .fired p e₂ v₂ now₂ :: after) (by simpa using hlog)
    have hsecond := h.legal (before ++ .polled p :: mid ++ .fired p e₁ v₁ now₁ :: mid')
      (.fired p e₂ v₂ now₂) after (by simpa using hlog)
    have hdue := hsecond.1
    rw [Timer.due, List.foldl_append] at hdue
    -- the second entry was due when the first was called back
    have := due_of_not_scheduled _ hdue (by
      intro u hu
      rcases List.mem_cons.1 hu with heq | hu
      · cases heq
      · exact hno u (List.mem_append_right _ hu))
    exact hfirst.2.2 e₂ v₂ this

end PjProject.Timer
