import Mathlib.Data.List.ReduceOption
import PjProject.ConferenceGraph

/-!
# The operations that wait for the conference bridge

A slot may be taken by another port before an operation on it is performed. What waits for a port is its
addition, then what was asked for it while it was not being removed, and then its removal; so an operation
that is performed meets the ports it was asked for.
-/
namespace PjProject.Conference
open ArcLists

variable {c c' : Conf} {slot : ℕ} {op : Op}

/-- The operations that are not done with, in the order in which they are performed. -/
def Conf.pending (c : Conf) : List Entry :=
  match c.clock with
  | .idle => c.queue
  | .took e | .removed e => e :: c.queue

def naming (slot : ℕ) (es : List Entry) : List Op := (es.map Entry.op).filter fun op => slot ∈ op.slots

def Op.links : Op → Bool
  | .addPort _ | .removePort _ => false
  | _ => true

/-- What waits for a port: its addition, operations on its connections, its removal. Nothing waits for an
empty slot, nor for a new port that is being removed at once. -/
def Waits (slot : ℕ) (atOnce : Prop) : Option (ℕ × Bool × Bool) → List Op → Prop
  | none, ops => ¬ atOnce ∧ ops = []
  | some (_, isNew, removing), ops =>
    (atOnce ∧ isNew = true ∧ removing = true ∧ ops = []) ∨
    (¬ atOnce ∧ ∃ mids, (∀ op ∈ mids, op.links = true) ∧
      ops = (if isNew then [.addPort slot] else []) ++ mids ++ if removing then [.removePort slot] else [])

structure Orderly (c : Conf) : Prop where
  waits : ∀ slot, Waits slot (slot ∈ c.removals) (c.flags slot) (naming slot c.pending)
  meets : ∀ e ∈ c.pending, c.found e.op = e.ids.map some
  nodup : c.removals.Nodup
  removed : ∀ e, c.clock = .removed e → ∃ slot, e.op = .removePort slot ∧ c.Unlinked slot

lemma naming_append (slot : ℕ) (es fs : List Entry) : naming slot (es ++ fs) = naming slot es ++ naming slot fs := by
  simp [naming]

lemma naming_cons (slot : ℕ) (e : Entry) (es : List Entry) :
    naming slot (e :: es) = if slot ∈ e.op.slots then e.op :: naming slot es else naming slot es := by
  unfold naming
  rw [List.map_cons, List.filter_cons]
  simp

variable {es : List Entry}

lemma naming_eq_nil : naming slot es = [] ↔ ∀ e ∈ es, slot ∉ e.op.slots := by
  simp [naming]

lemma naming_single (e : Entry) : naming slot [e] = if slot ∈ e.op.slots then [e.op] else [] := naming_cons ..

lemma pending_queue (c : Conf) (es : List Entry) :
    ({ c with queue := c.queue ++ es } : Conf).pending = c.pending ++ es := by
  unfold Conf.pending
  cases c.clock <;> rfl

lemma pending_push (op : Op) (c : Conf) :
    (c.push op).pending = c.pending ++ [⟨op, (c.found op).reduceOption⟩] := pending_queue ..

lemma pending_of_clock {e : Entry} (h : c.clock = .took e ∨ c.clock = .removed e) : c.pending = e :: c.queue := by
  unfold Conf.pending
  rcases h with h | h <;> rw [h]

lemma mem_pending {e e' : Entry} (h : c.clock = .took e ∨ c.clock = .removed e) (he : e' = e ∨ e' ∈ c.queue) :
    e' ∈ c.pending := by
  rw [pending_of_clock h]
  exact List.mem_cons.mpr he

lemma flags_put (slot s : ℕ) (p : Option Port) :
    (c.put slot p).flags s = if s = slot then p.map fun p => (p.id, p.isNew, p.removing) else c.flags s := by
  unfold Conf.flags
  rw [ports_put]
  split <;> rfl

lemma found_congr (h : ∀ slot ∈ op.slots, (c'.flags slot).map Prod.fst = (c.flags slot).map Prod.fst) :
    c'.found op = c.found op := by
  refine List.map_congr_left fun s hs => ?_
  simpa [Conf.flags, Function.comp_def] using h s hs

/-- A port is found again after a change of its flags. -/
lemma found_of_flags {p : Port} {isNew removing : Bool} (hp : c.ports slot = some p)
    (hflags : ∀ s, c'.flags s = if s = slot then some (p.id, isNew, removing) else c.flags s) (op : Op) :
    c'.found op = c.found op := by
  refine found_congr fun s _ => ?_
  rw [hflags]
  split
  · rename_i hs
    rw [hs, Conf.flags, hp]
    rfl
  · rfl

lemma found_reduce (h : ∀ slot ∈ op.slots, ∃ p, c.ports slot = some p) :
    c.found op = (c.found op).reduceOption.map some := by
  unfold Conf.found
  generalize op.slots = l at h
  induction l with
  | nil => rfl
  | cons s l ih =>
    obtain ⟨p, hp⟩ := h s (List.mem_cons_self ..)
    have hl := ih fun s' hs' => h s' (List.mem_cons_of_mem _ hs')
    rw [List.map_cons, hp, Option.map_some, List.reduceOption_cons_of_some, List.map_cons, ← hl]

lemma Orderly.exists_port (h : Orderly c) {e : Entry} (he : e ∈ c.pending) {slot : ℕ} (hs : slot ∈ e.op.slots) :
    ∃ p, c.ports slot = some p ∧ Waits slot (slot ∈ c.removals) (some (p.id, p.isNew, p.removing))
      (naming slot c.pending) := by
  have hw := h.waits slot
  unfold Conf.flags at hw
  cases hp : c.ports slot with
  | some p =>
    rw [hp] at hw
    exact ⟨p, rfl, hw⟩
  | none =>
    rw [hp] at hw
    exact absurd hs (naming_eq_nil.mp hw.2 e he)

lemma Orderly.staying (h : Orderly c) {p : Port} (hp : c.ports slot = some p) (hr : p.removing = false) :
    slot ∉ c.removals ∧ ∃ mids, (∀ op ∈ mids, op.links = true) ∧
      naming slot c.pending = (if p.isNew then [.addPort slot] else []) ++ mids := by
  have hw := h.waits slot
  rw [Conf.flags, hp, Option.map_some, hr] at hw
  rcases hw with ⟨-, -, hrem, -⟩ | ⟨hno, mids, hmids, heq⟩
  · cases hrem
  · exact ⟨hno, mids, hmids, by simpa using heq⟩

lemma Orderly.change (h : Orderly c) (slot : ℕ) (hsinks : c'.sinks = c.sinks)
    (hclock : c'.clock = c.clock ∨ c'.clock = .idle) (hnodup : c'.removals.Nodup)
    (hothers : ∀ s, s ≠ slot → c'.flags s = c.flags s ∧ (s ∈ c'.removals ↔ s ∈ c.removals) ∧
      naming s c'.pending = naming s c.pending)
    (hslot : Waits slot (slot ∈ c'.removals) (c'.flags slot) (naming slot c'.pending))
    (hmem : ∀ e ∈ c'.pending, slot ∉ e.op.slots → e ∈ c.pending)
    (hmeets : ∀ e ∈ c'.pending, slot ∈ e.op.slots → c'.found e.op = e.ids.map some) : Orderly c' := by
  refine ⟨fun s => ?_, fun e he => ?_, hnodup, fun e he => ?_⟩
  · by_cases hs : s = slot
    · rw [hs]
      exact hslot
    · obtain ⟨hflags, hrem, hname⟩ := hothers s hs
      rw [hflags, hname, propext hrem]
      exact h.waits s
  · by_cases hs : slot ∈ e.op.slots
    · exact hmeets e he hs
    · have hfound : c'.found e.op = c.found e.op :=
        found_congr fun s hs' => by rw [(hothers s fun heq => hs (heq ▸ hs')).1]
      rw [hfound]
      exact h.meets e (hmem e he hs)
  · rcases hclock with hclock | hclock <;> rw [hclock] at he
    · obtain ⟨s, hop, hu⟩ := h.removed e he
      exact ⟨s, hop, hu.congr hsinks⟩
    · cases he

lemma usable_iff : c.usable slot = true ↔ slot < c.maxPorts ∧ ∃ p, c.ports slot = some p ∧ p.removing = false := by
  unfold Conf.usable
  cases c.ports slot <;> simp

lemma Orderly.ask (h : Orderly c) (hlinks : op.links = true) (mem : Bool) : Orderly (ask mem op c) := by
  unfold Conference.ask
  split
  · rename_i hok
    have hports : ∀ s ∈ op.slots, ∃ p, c.ports s = some p ∧ p.removing = false := fun s hs =>
      (usable_iff.mp (List.all_eq_true.mp hok.1 s hs)).2
    refine ⟨fun s => ?_, fun e he => ?_, h.nodup, h.removed⟩
    · rw [pending_push, naming_append, naming_single]
      by_cases hmem : s ∈ op.slots
      · obtain ⟨p, hp, hrem⟩ := hports s hmem
        obtain ⟨hno, mids, hmids, heq⟩ := h.staying hp hrem
        rw [if_pos hmem, heq, show (c.push op).flags s = some (p.id, p.isNew, p.removing) by
          rw [← Option.map_some (f := fun p : Port => (p.id, p.isNew, p.removing)), ← hp]; rfl, hrem]
        refine .inr ⟨hno, mids ++ [op], fun o ho => ?_, by simp⟩
        rcases List.mem_append.mp ho with ho | ho
        · exact hmids o ho
        · rw [List.mem_singleton.mp ho]
          exact hlinks
      · rw [if_neg hmem, List.append_nil]
        exact h.waits s
    · rw [pending_push] at he
      rcases List.mem_append.mp he with he | he
      · exact h.meets e he
      · rw [List.mem_singleton.mp he]
        exact found_reduce fun s hs => (hports s hs).imp fun _ hp => hp.1
  · exact h

/-- What is queued behind all others for one port. -/
lemma Orderly.queued (h : Orderly c) (id : ℕ) {e : Entry} {isNew removing : Bool} (hop : e.op.slots = [slot])
    (hpend : c'.pending = c.pending ++ [e]) (hsinks : c'.sinks = c.sinks) (hclock : c'.clock = c.clock)
    (hremovals : c'.removals = c.removals)
    (hflags : ∀ s, c'.flags s = if s = slot then some (id, isNew, removing) else c.flags s)
    (hwaits : Waits slot (slot ∈ c.removals) (some (id, isNew, removing)) (naming slot c.pending ++ [e.op]))
    (hids : e.ids = [id]) (hsame : ∀ p, c.ports slot = some p → p.id = id) : Orderly c' := by
  have hfound : c'.found e.op = e.ids.map some := by
    have := congrArg (Option.map Prod.fst) (hflags slot)
    rw [Conf.found, hop, hids]
    simpa [Conf.flags, Function.comp_def] using this
  refine h.change slot hsinks (.inl hclock) (by rw [hremovals]; exact h.nodup) (fun s hs => ⟨?_, ?_, ?_⟩) ?_
    (fun e' he hs => ?_) fun e' he hs => ?_
  · rw [hflags, if_neg hs]
  · rw [hremovals]
  · rw [hpend, naming_append, naming_single, if_neg (by simpa [hop] using hs), List.append_nil]
  · rw [hflags, if_pos rfl, hremovals, hpend, naming_append, naming_single, if_pos (by simp [hop])]
    exact hwaits
  · rw [hpend] at he
    rcases List.mem_append.mp he with he | he
    · exact he
    · rw [List.mem_singleton.mp he, hop] at hs
      simp at hs
  · rw [hpend] at he
    rcases List.mem_append.mp he with he | he
    · obtain ⟨p, hp, -⟩ := h.exists_port he hs
      rw [found_of_flags hp (by rw [hsame p hp]; exact hflags)]
      exact h.meets e' he
    · rw [List.mem_singleton.mp he]
      exact hfound

lemma Orderly.addPort (h : Orderly c) (hnone : c.ports slot = none) (created : ℕ) :
    Orderly (Conf.push (.addPort slot)
      { c.put slot (some ⟨c.created, [], 0, true, false⟩) with created := created }) := by
  have hw := h.waits slot
  rw [Conf.flags, hnone, Option.map_none] at hw
  refine h.queued c.created rfl (pending_queue _ _) ((sinks_put ..).trans ?_) rfl rfl
    (fun s => flags_put slot s _) ?_ ?_ fun p hp => ?_
  · exact Function.update_eq_self_iff.mpr (by simp [Conf.sinks, hnone])
  · rw [hw.2]
    exact .inr ⟨hw.1, [], by simp, rfl⟩
  · simp [Conf.found, Op.slots, Conf.put, List.reduceOption]
  · rw [hnone] at hp
    cases hp

lemma Orderly.removePort (h : Orderly c) {p : Port} (hp : c.ports slot = some p) (hr : p.removing = false) :
    Orderly { c.modify slot fun p => { p with removing := true } with queue := (c.push (.removePort slot)).queue } := by
  obtain ⟨hno, mids, hmids, heq⟩ := h.staying hp hr
  refine h.queued p.id rfl (pending_queue c _) (sinks_modify_of_eq fun _ => rfl) rfl rfl
    (fun s => (flags_put slot s _).trans (by rw [hp]; rfl)) ?_ ?_ fun q hq => ?_
  · rw [heq]
    exact .inr ⟨hno, mids, hmids, rfl⟩
  · simp [Conf.found, Op.slots, hp, List.reduceOption]
  · rw [Option.some.inj (hp.symm.trans hq)]

lemma cancelOps_true (h : ∀ op ∈ naming slot es, op.links = true) :
    cancelOps slot true es = (es.filter fun e => slot ∉ e.op.slots, true) := by
  induction es with
  | nil => rfl
  | cons e es ih =>
    rw [naming_cons] at h
    rw [cancelOps, List.filter_cons]
    by_cases hs : slot ∈ e.op.slots
    · rw [if_pos hs] at h
      have hl := h e.op (List.mem_cons_self ..)
      have hinv : e.op.involves slot = true := by
        cases hop : e.op <;> simp [hop, Op.links, Op.slots, Op.involves] at hl hs ⊢ <;> tauto
      rw [if_neg (by rintro heq; simp [heq, Op.links] at hl), if_pos ⟨rfl, hinv⟩,
        ih fun op hop => h op (List.mem_cons_of_mem _ hop)]
      simp [hs]
    · rw [if_neg hs] at h
      have hinv : e.op.involves slot = false := by
        cases hop : e.op <;> simp [hop, Op.slots, Op.involves] at hs ⊢ <;> tauto
      rw [if_neg (by rintro heq; simp [heq, Op.slots] at hs), if_neg (by simp [hinv]), ih h]
      simp [hs]

lemma cancelOps_false (h : .addPort slot ∉ naming slot es) : (cancelOps slot false es).2 = false := by
  induction es with
  | nil => rfl
  | cons e es ih =>
    rw [naming_cons] at h
    rw [cancelOps]
    by_cases hop : e.op = .addPort slot
    · rw [hop, if_pos (by simp [Op.slots])] at h
      exact absurd (List.mem_cons_self ..) h
    · rw [if_neg hop, if_neg (by simp)]
      refine ih fun hmem => h ?_
      split
      · exact List.mem_cons_of_mem _ hmem
      · exact hmem

lemma cancelOps_found {mids : List Op} (hmids : ∀ op ∈ mids, op.links = true)
    (h : naming slot es = .addPort slot :: mids) :
    cancelOps slot false es = (es.filter fun e => slot ∉ e.op.slots, true) := by
  induction es with
  | nil => cases h
  | cons e es ih =>
    rw [naming_cons] at h
    rw [cancelOps, List.filter_cons]
    split at h
    · rename_i hs
      obtain ⟨hop, htail⟩ := List.cons_eq_cons.mp h
      rw [if_pos hop, cancelOps_true (by rw [htail]; exact hmids)]
      simp [hs]
    · rename_i hs
      rw [if_neg (by rintro heq; simp [heq, Op.slots] at hs), if_neg (by simp), ih h]
      simp [hs]

end PjProject.Conference
