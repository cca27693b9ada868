import PjProject.ConferenceQueue

/-!
# The conference bridge in every run

Every step keeps the connections consistent and the queue in order, so in no run does an operation meet
a port that it was not asked for.
-/
namespace PjProject.Conference
open ArcLists Transition

variable {c c' : Conf} {slot : ℕ} {op : Op} {atOnce : Prop} {flags : Option (ℕ × Bool × Bool)} {ops : List Op}

lemma Waits.links (h : Waits slot atOnce flags (op :: ops)) (hl : op.links = true) :
    (∃ id removing, flags = some (id, false, removing)) ∧ Waits slot atOnce flags ops := by
  match flags, h with
  | none, h => cases h.2
  | some (id, isNew, removing), h =>
    rcases h with ⟨-, -, -, hnil⟩ | ⟨hno, mids, hmids, heq⟩
    · cases hnil
    · cases isNew with
      | true =>
        obtain ⟨rfl, -⟩ := List.cons_eq_cons.mp heq
        cases hl
      | false =>
        refine ⟨⟨id, removing, rfl⟩, .inr ⟨hno, ?_⟩⟩
        cases mids with
        | nil =>
          cases removing with
          | false => cases heq
          | true =>
            obtain ⟨rfl, -⟩ := List.cons_eq_cons.mp heq
            cases hl
        | cons m mids =>
          obtain ⟨-, htail⟩ := List.cons_eq_cons.mp heq
          exact ⟨mids, fun o ho => hmids o (List.mem_cons_of_mem _ ho), by simpa using htail⟩

variable {p : Port}

lemma Waits.addPort (h : Waits slot atOnce (some (p.id, p.isNew, p.removing)) (.addPort slot :: ops)) :
    p.isNew = true ∧ Waits slot atOnce (some (p.id, false, p.removing)) ops := by
  rcases h with ⟨-, -, -, hnil⟩ | ⟨hno, mids, hmids, heq⟩
  · cases hnil
  · cases hn : p.isNew with
    | true =>
      rw [hn] at heq
      obtain ⟨-, htail⟩ := List.cons_eq_cons.mp heq
      exact ⟨rfl, .inr ⟨hno, mids, hmids, htail⟩⟩
    | false =>
      rw [hn] at heq
      have hmem : Op.addPort slot ∈ mids ++ if p.removing then [.removePort slot] else [] := by
        have := List.mem_cons_self (a := Op.addPort slot) (l := ops)
        rw [heq] at this
        simpa using this
      rcases List.mem_append.mp hmem with hmem | hmem
      · cases hmids _ hmem
      · split at hmem <;> simp at hmem

lemma Waits.removePort (h : Waits slot atOnce flags (.removePort slot :: ops)) : ¬ atOnce ∧ ops = [] := by
  match flags, h with
  | none, h => cases h.2
  | some (id, isNew, removing), h =>
    rcases h with ⟨-, -, -, hnil⟩ | ⟨hno, mids, hmids, heq⟩
    · cases hnil
    · refine ⟨hno, ?_⟩
      cases isNew with
      | true => cases heq
      | false =>
        cases mids with
        | nil =>
          cases removing with
          | false => cases heq
          | true => exact (List.cons_eq_cons.mp heq).2
        | cons m mids =>
          obtain ⟨rfl, -⟩ := List.cons_eq_cons.mp heq
          cases hmids _ (List.mem_cons_self ..)

lemma Waits.filter {keep : Op → Bool} (h : Waits slot atOnce flags ops) (hadd : keep (.addPort slot) = true)
    (hremove : keep (.removePort slot) = true) : Waits slot atOnce flags (ops.filter keep) := by
  match flags, h with
  | none, h => exact ⟨h.1, by rw [h.2]; rfl⟩
  | some (id, isNew, removing), h =>
    rcases h with ⟨hat, hn, hr, hnil⟩ | ⟨hno, mids, hmids, heq⟩
    · exact .inl ⟨hat, hn, hr, by rw [hnil]; rfl⟩
    · refine .inr ⟨hno, mids.filter keep, fun o ho => hmids o (List.mem_of_mem_filter ho), ?_⟩
      rw [heq, List.filter_append, List.filter_append]
      cases isNew <;> cases removing <;> simp [hadd, hremove]

lemma naming_filter (slot s : ℕ) (es : List Entry) :
    naming s (es.filter fun e => slot ∉ e.op.slots) = (naming s es).filter fun op => slot ∉ op.slots := by
  induction es with
  | nil => rfl
  | cons e es ih =>
    rw [List.filter_cons, naming_cons]
    by_cases hs : slot ∈ e.op.slots
    · rw [if_neg (by simpa using hs), ih]
      split
      · rw [List.filter_cons_of_neg (by simpa using hs)]
      · rfl
    · rw [if_pos (by simpa using hs), naming_cons, ih]
      split
      · rw [List.filter_cons_of_pos (by simpa using hs)]
      · rfl

lemma Orderly.cancelled (h : Orderly c) (hp : c.ports slot = some p) (hr : p.removing = false)
    (hn : p.isNew = true) (hfound : (cancelOps slot false c.queue).2 = true) :
    ({ c with queue := (cancelOps slot false c.queue).1 } : Conf).pending =
      c.pending.filter fun e => slot ∉ e.op.slots := by
  obtain ⟨-, mids, hmids, heq⟩ := h.staying hp hr
  rw [hn] at heq
  have hbehind : ∀ e, c.pending = e :: c.queue → slot ∉ e.op.slots := fun e he hs => by
    rw [he, naming_cons, if_pos hs] at heq
    have htail := (List.cons_eq_cons.mp heq).2
    rw [cancelOps_false] at hfound
    · cases hfound
    · rw [htail]
      intro hmem
      cases hmids _ hmem
  have hqueue : naming slot c.queue = .addPort slot :: mids := by
    unfold Conf.pending at heq hbehind
    cases hclock : c.clock <;> simp only [hclock] at heq hbehind
    · exact heq
    all_goals
      rw [naming_cons, if_neg (hbehind _ rfl)] at heq
      exact heq
  rw [cancelOps_found hmids hqueue]
  unfold Conf.pending at hbehind ⊢
  cases hclock : c.clock <;> simp only [hclock] at hbehind ⊢
  all_goals rw [List.filter_cons_of_pos (by simpa using hbehind _ rfl)]

lemma Orderly.cancel (h : Orderly c) {p : Port} (hp : c.ports slot = some p) (hr : p.removing = false)
    (hn : p.isNew = true) (hfound : (cancelOps slot false c.queue).2 = true) :
    Orderly { c.modify slot fun p => { p with removing := true } with
      queue := (cancelOps slot false c.queue).1, removals := slot :: c.removals } := by
  have hno := (h.staying hp hr).1
  have hpend := h.cancelled hp hr hn hfound
  obtain ⟨d, hd⟩ : ∃ d : Conf, { c.modify slot fun p => { p with removing := true } with
      queue := (cancelOps slot false c.queue).1, removals := slot :: c.removals } = d := ⟨_, rfl⟩
  have hpend' : d.pending = c.pending.filter fun e => slot ∉ e.op.slots := by
    rw [← hpend, ← hd]
    rfl
  have hflags : ∀ s, d.flags s = if s = slot then some (p.id, p.isNew, true) else c.flags s := fun s => by
    rw [← hd]
    refine (flags_put slot s _).trans ?_
    rw [hp]
    rfl
  have hsinks : d.sinks = c.sinks := by
    rw [← hd]
    exact sinks_modify_of_eq fun _ => rfl
  have hremovals : d.removals = slot :: c.removals := by rw [← hd]
  have hclock : d.clock = c.clock := by rw [← hd]; rfl
  rw [hd]
  refine ⟨fun s => ?_, fun e he => ?_, ?_, fun e he => ?_⟩
  · rw [hpend', naming_filter, hremovals, hflags]
    by_cases hs : s = slot
    · rw [hs, if_pos rfl]
      refine .inl ⟨List.mem_cons_self .., hn, rfl, ?_⟩
      exact List.filter_eq_nil_iff.mpr fun o ho => by simpa using (List.mem_filter.mp ho).2
    · rw [if_neg hs, List.mem_cons, or_iff_right hs]
      exact (h.waits s).filter (by simpa [Op.slots] using Ne.symm hs) (by simpa [Op.slots] using Ne.symm hs)
  · rw [hpend'] at he
    rw [found_of_flags hp hflags]
    exact h.meets e (List.mem_of_mem_filter he)
  · rw [hremovals]
    exact List.nodup_cons.mpr ⟨hno, h.nodup⟩
  · rw [hclock] at he
    obtain ⟨s, hop, hu⟩ := h.removed e he
    exact ⟨s, hop, hu.congr hsinks⟩

lemma Orderly.free (h : Orderly c) (hu : c.Unlinked slot) {d : Conf} (hports : d.ports = c.ports)
    (hclock : d.clock = c.clock ∨ d.clock = .idle) (hno : naming slot d.pending = [])
    (hothers : ∀ s, s ≠ slot → (s ∈ d.removals ↔ s ∈ c.removals) ∧ naming s d.pending = naming s c.pending)
    (hmem : ∀ e ∈ d.pending, e ∈ c.pending) (hnodup : d.removals.Nodup) (hat : slot ∉ d.removals) (hp : c.ports slot = some p) : Orderly (opRemovePort2 slot d) := by
  have hflags : ∀ s, (opRemovePort2 slot d).flags s = if s = slot then none else c.flags s := fun s => by
    unfold opRemovePort2
    rw [hports, hp]
    refine (flags_put slot s none).trans ?_
    unfold Conf.flags
    rw [hports]
    rfl
  have hsinks : (opRemovePort2 slot d).sinks = c.sinks := by
    unfold opRemovePort2
    rw [hports, hp]
    refine (sinks_put slot none).trans ?_
    unfold Conf.sinks
    rw [hports]
    exact Function.update_eq_self_iff.mpr hu.1.symm
  obtain ⟨hc, hr, hq⟩ : (opRemovePort2 slot d).clock = d.clock ∧ (opRemovePort2 slot d).removals = d.removals ∧
      (opRemovePort2 slot d).pending = d.pending := by
    unfold opRemovePort2
    split <;> exact ⟨rfl, rfl, rfl⟩
  refine h.change slot hsinks (by rw [hc]; exact hclock) (by rw [hr]; exact hnodup) (fun s hs => ?_) ?_
    (fun e he _ => ?_) fun e he hs => ?_
  · rw [hflags, if_neg hs, hr, hq]
    exact ⟨rfl, hothers s hs⟩
  · rw [hflags, if_pos rfl, hr, hq]
    exact ⟨hat, hno⟩
  · rw [hq] at he
    exact hmem e he
  · rw [hq] at he
    exact absurd hs (naming_eq_nil.mp hno e he)

lemma Orderly.freeNewPort (h : Orderly c) (hg : Graph c) (slot : ℕ) :
    Orderly (freeNewPort slot c) ∧ Graph (freeNewPort slot c) := by
  unfold Conference.freeNewPort
  split
  · rename_i hmem
    have hw := h.waits slot
    cases hp : c.ports slot with
    | none =>
      rw [Conf.flags, hp] at hw
      exact absurd hmem hw.1
    | some p =>
      rw [Conf.flags, hp] at hw
      rcases hw with ⟨-, hn, -, hnil⟩ | ⟨hno, -⟩
      · have hu : c.Unlinked slot := hg.unlinked (by simp [Conf.active, hp, hn])
        have hmem' : ∀ s, s ∈ c.removals.erase slot ↔ s ≠ slot ∧ s ∈ c.removals := fun s => h.nodup.mem_erase_iff
        refine ⟨h.free hu rfl (.inl rfl) hnil (fun s hs => ⟨?_, rfl⟩) (fun e he => he) (h.nodup.erase slot)
          (fun hin => ?_) hp, Graph.free (hg.congr rfl rfl rfl rfl) hu⟩
        · exact (hmem' s).trans (and_iff_right hs)
        · exact ((hmem' slot).mp hin).1 rfl
      · exact absurd hmem hno
  · exact ⟨h, hg⟩

variable {e : Entry}

lemma Orderly.take (h : Orderly c) {queue : List Entry} (hclock : c.clock = .idle)
    (hqueue : c.queue = e :: queue) : Orderly { c with queue := queue, clock := .took e } := by
  have hpend : c.pending = e :: queue := by rw [Conf.pending, hclock, hqueue]
  refine ⟨fun s => ?_, fun e' he => ?_, h.nodup, fun e' he => ?_⟩
  · have := h.waits s
    rw [hpend] at this
    exact this
  · refine h.meets e' ?_
    rw [hpend]
    exact he
  · cases he

lemma Orderly.active (h : Orderly c) (hclock : c.clock = .took e) (hl : e.op.links = true) :
    ∀ slot ∈ e.op.slots, c.active slot = true := by
  intro s hs
  obtain ⟨p, hp, hw⟩ := h.exists_port (mem_pending (.inl hclock) (.inl rfl)) hs
  rw [pending_of_clock (.inl hclock), naming_cons, if_pos hs] at hw
  obtain ⟨⟨id, removing, heq⟩, -⟩ := hw.links hl
  have hn : p.isNew = false := by
    have := Option.some.inj heq
    simp only [Prod.mk.injEq] at this
    exact this.2.1
  simp [Conf.active, hp, hn]

lemma performOp_graph (hg : Graph c) (hl : op.links = true) (hactive : ∀ slot ∈ op.slots, c.active slot = true) :
    Relinks c (performOp op c) ∧ Graph (performOp op c) := by
  cases op with
  | addPort | removePort => cases hl
  | connectPorts src sink level =>
    exact connect_graph hg (hactive src (by simp [Op.slots])) (hactive sink (by simp [Op.slots]))
  | disconnectPorts src sink => exact disconnectPorts_graph hg src sink
  | adjustConnLevel src sink level => exact adjust_graph hg

lemma Orderly.done (h : Orderly c) (hclock : c.clock = .took e) (hl : e.op.links = true)
    (hr : Relinks c c') : Orderly { c' with clock := .idle } := by
  have hpend := pending_of_clock (.inl hclock)
  have hnow : ({ c' with clock := .idle } : Conf).pending = c.queue := hr.queue
  refine ⟨fun s => ?_, fun e' he => ?_, ?_, fun e' he => by cases he⟩
  · have hw := h.waits s
    rw [hpend, naming_cons] at hw
    rw [hnow]
    show Waits s (s ∈ c'.removals) (c'.flags s) _
    rw [hr.removals, hr.flags]
    split at hw
    · exact (hw.links hl).2
    · exact hw
  · rw [hnow] at he
    have hfound : ({ c' with clock := .idle } : Conf).found e'.op = c.found e'.op :=
      found_congr fun s _ => congrArg (Option.map Prod.fst) (hr.flags s)
    rw [hfound]
    exact h.meets e' (mem_pending (.inl hclock) (.inr he))
  · show c'.removals.Nodup
    rw [hr.removals]
    exact h.nodup

lemma Orderly.added (h : Orderly c) (hclock : c.clock = .took e) (hop : e.op = .addPort slot) :
    Orderly { opAddPort slot c with clock := .idle } := by
  have hpend := pending_of_clock (.inl hclock)
  have hslots : slot ∈ e.op.slots := by simp [hop, Op.slots]
  obtain ⟨p, hp, hw⟩ := h.exists_port (mem_pending (.inl hclock) (.inl rfl)) hslots
  rw [hpend, naming_cons, if_pos hslots, hop] at hw
  obtain ⟨hn, hrest⟩ := hw.addPort
  obtain ⟨d, hd⟩ : ∃ d : Conf, { opAddPort slot c with clock := .idle } = d := ⟨_, rfl⟩
  have heq : { c.modify slot fun p => { p with isNew := false } with portCnt := c.portCnt + 1, clock := .idle } = d := by
    rw [← hd, opAddPort, if_pos (by simp [hp, hn])]
  have hflags : ∀ s, d.flags s = if s = slot then some (p.id, false, p.removing) else c.flags s := fun s => by
    rw [← heq]
    refine (flags_put slot s _).trans ?_
    rw [hp]
    rfl
  have hnow : d.pending = c.queue := by rw [← heq]; rfl
  have hremovals : d.removals = c.removals := by rw [← heq]; rfl
  rw [hd]
  refine h.change slot ?_ (.inr ?_) ?_ (fun s hs => ⟨?_, ?_, ?_⟩) ?_ (fun e' he _ => ?_) fun e' he _ => ?_
  · rw [← heq]
    exact sinks_modify_of_eq fun _ => rfl
  · rw [← heq]
  · rw [hremovals]
    exact h.nodup
  · rw [hflags, if_neg hs]
  · rw [hremovals]
  · rw [hnow, hpend, naming_cons, if_neg (by simpa [hop, Op.slots] using hs)]
  · rw [hremovals, hflags, if_pos rfl, hnow]
    exact hrest
  · rw [hnow] at he
    exact mem_pending (.inl hclock) (.inr he)
  · rw [hnow] at he
    rw [found_of_flags hp hflags]
    exact h.meets e' (mem_pending (.inl hclock) (.inr he))

structure Sound (c : Conf) : Prop where
  graph : Graph c
  orderly : Orderly c

lemma Sound.took (h : Sound c) (hclock : c.clock = .took e) :
    Sound { performOp e.op c with clock := performed e } := by
  have hpend := pending_of_clock (.inl hclock)
  by_cases hl : e.op.links = true
  · obtain ⟨hr, hg⟩ := performOp_graph h.graph hl (h.orderly.active hclock hl)
    have hidle : performed e = .idle := by
      unfold performed
      cases hop : e.op <;> first | rfl | (rw [hop] at hl; cases hl)
    rw [hidle]
    exact ⟨hg.congr rfl rfl rfl rfl, h.orderly.done hclock hl hr⟩
  · cases hop : e.op with
    | addPort slot =>
      have hidle : performed e = .idle := by rw [performed, hop]
      rw [hidle]
      exact ⟨h.graph.activate.congr rfl rfl rfl rfl, h.orderly.added hclock hop⟩
    | removePort slot =>
      have hremoved : performed e = .removed e := by rw [performed, hop]
      have hslots : slot ∈ e.op.slots := by simp [hop, Op.slots]
      obtain ⟨p, hp, -⟩ := h.orderly.exists_port (mem_pending (.inl hclock) (.inl rfl)) hslots
      have hsome : c.ports slot ≠ none := by simp [hp]
      obtain ⟨hr, hg, hu⟩ := removePort_graph h.graph hsome
      rw [hremoved]
      refine ⟨hg.congr rfl rfl rfl rfl, ?_⟩
      have hnow : ({ opRemovePort slot c with clock := .removed e } : Conf).pending = c.pending := by
        rw [hpend, ← hr.queue]
        rfl
      refine ⟨fun s => ?_, fun e' he => ?_, ?_, fun e' he => ?_⟩
      · show Waits s (s ∈ (opRemovePort slot c).removals) ((opRemovePort slot c).flags s) (naming s _)
        rw [hr.removals, hr.flags]
        exact hnow ▸ h.orderly.waits s
      · have hfound : (opRemovePort slot c).found e'.op = c.found e'.op := found_congr fun s _ => by rw [hr.flags]
        exact hfound.trans (h.orderly.meets e' (hnow ▸ he))
      · show (opRemovePort slot c).removals.Nodup
        rw [hr.removals]
        exact h.orderly.nodup
      · cases he
        exact ⟨slot, hop, hu⟩
    | _ => exact absurd (by rw [hop]; rfl) hl

lemma Sound.freed (h : Sound c) (hclock : c.clock = .removed e) :
    Sound { afterOp e.op c with clock := .idle } := by
  have hpend := pending_of_clock (.inr hclock)
  obtain ⟨slot, hop, hu⟩ := h.orderly.removed e hclock
  have hslots : slot ∈ e.op.slots := by simp [hop, Op.slots]
  obtain ⟨p, hp, hw⟩ := h.orderly.exists_port (mem_pending (.inr hclock) (.inl rfl)) hslots
  rw [hpend, naming_cons, if_pos hslots, hop] at hw
  obtain ⟨hno, hnil⟩ := hw.removePort
  have hcomm : { opRemovePort2 slot c with clock := .idle } = opRemovePort2 slot { c with clock := .idle } := by
    unfold opRemovePort2
    rw [hp]
    rfl
  rw [hop]
  show Sound { opRemovePort2 slot c with clock := .idle }
  rw [hcomm]
  refine ⟨Graph.free (h.graph.congr rfl rfl rfl rfl) hu, ?_⟩
  refine h.orderly.free hu rfl (.inr rfl) hnil (fun s hs => ⟨Iff.rfl, ?_⟩) (fun e' he => ?_) h.orderly.nodup hno hp
  · rw [hpend, naming_cons, if_neg (by simpa [hop, Op.slots] using hs)]
    rfl
  · exact mem_pending (.inr hclock) (.inr he)

lemma Sound.clock (h : Sound c) : Sound (handleOpQueue c) := by
  unfold handleOpQueue
  split
  · rename_i hclock
    split
    · exact h
    · rename_i hqueue
      exact ⟨h.graph.congr rfl rfl rfl rfl, h.orderly.take hclock hqueue⟩
  · exact h.took ‹_›
  · exact h.freed ‹_›

lemma Sound.ask (h : Sound c) (hlinks : op.links = true) (mem : Bool) : Sound (ask mem op c) := by
  refine ⟨?_, h.orderly.ask hlinks mem⟩
  unfold Conference.ask
  split
  · exact h.graph.congr rfl rfl rfl rfl
  · exact h.graph

lemma Sound.addPort (h : Sound c) (made mem : Bool) : Sound (pjmediaConfAddPort made mem c) := by
  unfold pjmediaConfAddPort
  split
  · exact h
  · rename_i slot hfind
    have hnone : c.ports slot = none := by simpa using List.find?_some hfind
    have hlt := List.mem_range.mp (List.mem_of_find?_eq_some hfind)
    split
    · exact ⟨(h.graph.addPort hlt hnone c.created).congr rfl rfl rfl rfl, h.orderly.addPort hnone _⟩
    · exact h

lemma Sound.removePort (h : Sound c) (mem : Bool) (port : ℕ) : Sound (pjmediaConfRemovePort mem port c) := by
  have hmarked := h.graph.modify port (f := fun p => { p with removing := true })
    (fun _ => rfl) (fun _ => rfl) fun _ => rfl
  unfold pjmediaConfRemovePort
  dsimp only
  split
  · rename_i husable
    obtain ⟨-, p, hp, hr⟩ := usable_iff.mp husable
    split
    · rename_i hnew
      refine ⟨hmarked.congr rfl rfl rfl rfl, h.orderly.cancel hp hr ?_ hnew.2⟩
      simpa [hp] using hnew.1
    · split
      · exact ⟨hmarked.congr rfl rfl rfl rfl, h.orderly.removePort hp hr⟩
      · exact h
  · exact h

lemma Sound.step (h : Sound c) (i : Input) : Sound (step c i) := by
  cases i with
  | addPort made mem => exact h.addPort made mem
  | connectPort mem src sink level =>
    show Sound (pjmediaConfConnectPort mem src sink level c)
    unfold pjmediaConfConnectPort
    split
    · exact h.ask rfl mem
    · exact h
  | disconnectPort mem src sink => exact h.ask rfl mem
  | disconnectPortFromSources mem sink => exact h.ask rfl mem
  | disconnectPortFromSinks mem src => exact h.ask rfl mem
  | adjustConnLevel mem src sink level =>
    show Sound (pjmediaConfAdjustConnLevel mem src sink level c)
    unfold pjmediaConfAdjustConnLevel
    split
    · exact h.ask rfl mem
    · exact h
  | removePort mem port => exact h.removePort mem port
  | freeNewPort port =>
    obtain ⟨ho, hg⟩ := h.orderly.freeNewPort h.graph port
    exact ⟨hg, ho⟩
  | clock => exact h.clock

lemma Sound.create {maxPorts : ℕ} (hmax : 0 < maxPorts) : Sound (pjmediaConfCreate maxPorts) := by
  have hempty : Graph ⟨maxPorts, fun _ => none, 0, 0, [], .idle, [], 1⟩ :=
    ⟨fun _ _ => rfl, fun _ => List.nodup_nil, fun _ _ hs => (by cases hs), fun _ _ hp => (by cases hp),
      by simp [arcs, Conf.sinks], by simp [Conf.active]⟩
  refine ⟨hempty.put 0 (p := some ⟨0, [], 0, false, false⟩) hmax rfl (fun q hq => ?_)
    (fun hoff => by simp at hoff) (by simp [Conf.active]), ?_⟩
  · rw [← Option.some.inj hq]
    exact (inDegree_eq_zero fun _ hmem => by cases hmem).symm
  · refine ⟨fun s => ?_, fun e he => (by cases he), List.nodup_nil, fun e he => by cases he⟩
    by_cases hs : s = 0
    · subst hs
      exact .inr ⟨List.not_mem_nil, [], by simp, rfl⟩
    · have hnone : (pjmediaConfCreate maxPorts).flags s = none := by
        simp [Conf.flags, pjmediaConfCreate, Function.update_of_ne hs]
      rw [hnone]
      exact ⟨List.not_mem_nil, rfl⟩

/-- The state of a bridge after some steps of its threads. -/
def bridge (maxPorts : ℕ) (is : List Input) : Conf := run step (pjmediaConfCreate maxPorts) is

lemma sound_run {maxPorts : ℕ} (hmax : 0 < maxPorts) (is : List Input) : Sound (bridge maxPorts is) := by
  have hstep : ∀ c i, Sound c → Sound (step c i) := fun _ i h => h.step i
  exact run_invariant hstep (Sound.create hmax) is

/-- In every state of every run, the listeners of the ports agree with their counts of transmitters and
with the counters of the bridge, only added ports are connected, and a connection has room in the array. -/
theorem connections_consistent {maxPorts : ℕ} (hmax : 0 < maxPorts) (is : List Input) :
    Graph (bridge maxPorts is) ∧ ∀ src sink adjLevel ids,
        (bridge maxPorts is).clock = .took ⟨.connectPorts src sink adjLevel, ids⟩ →
        sink ∉ (bridge maxPorts is).sinks src → ((bridge maxPorts is).sinks src).length <
          (bridge maxPorts is).maxPorts := by
  have h := sound_run hmax is
  generalize bridge maxPorts is = c at h
  refine ⟨h.graph, fun src sink level ids hclock hnew => ?_⟩
  have hlt : ∀ s, c.active s = true → s < c.maxPorts := fun s hs => by
    obtain ⟨p, hp, -⟩ := ports_of_active hs
    exact h.graph.lt (by simp [hp])
  have hsink := hlt sink (h.orderly.active hclock rfl sink (by simp [Op.slots]))
  have hsub : sink :: c.sinks src ⊆ List.range c.maxPorts := fun s hs => by
    rcases List.mem_cons.mp hs with rfl | hs
    · exact List.mem_range.mpr hsink
    · exact List.mem_range.mpr (hlt s (h.graph.live src s hs).2)
  have hnodup : (sink :: c.sinks src).Nodup := List.nodup_cons.mpr ⟨hnew, h.graph.nodup src⟩
  have hlen := (hnodup.subperm hsub).length_le
  rw [List.length_range, List.length_cons] at hlen
  exact hlen

theorem connections_consistent_two :
    Graph (bridge 2 [.addPort true true, .connectPort true 0 1 0, .clock, .clock, .clock]) ∧
      (bridge 2 [.addPort true true, .connectPort true 0 1 0, .clock, .clock, .clock]).clock =
        .took ⟨.connectPorts 0 1 0, [0, 1]⟩ ∧ ((bridge 2
        [.addPort true true, .connectPort true 0 1 0, .clock, .clock, .clock]).sinks 0).length < 2 :=
  ⟨(connections_consistent (by decide) _).1, by decide,
    (connections_consistent (by decide) _).2 0 1 0 [0, 1] (by decide) (by decide)⟩

/-- An operation that the clock thread performs meets the ports that it was asked for, which have been
added, unless it adds them; and a slot is free only when no operation names it any more. -/
theorem operations_meet_ports {maxPorts : ℕ} (hmax : 0 < maxPorts) (is : List Input) :
    (∀ e, (bridge maxPorts is).clock = .took e → (bridge maxPorts is).found e.op = e.ids.map some ∧
      ∀ slot ∈ e.op.slots, (bridge maxPorts is).active slot = decide (e.op ≠ .addPort slot)) ∧
    (∀ e, (bridge maxPorts is).clock = .removed e → ∃ slot, e.op = .removePort slot ∧
        (bridge maxPorts is).found e.op = e.ids.map some ∧ (bridge maxPorts is).Unlinked slot) ∧
    ∀ slot, (bridge maxPorts is).ports slot = none →
      ∀ e ∈ (bridge maxPorts is).pending, slot ∉ e.op.slots := by
  have h := sound_run hmax is
  generalize bridge maxPorts is = c at h
  refine ⟨fun e hclock => ?_, fun e hclock => ?_, fun slot hnone => ?_⟩
  · have hmem := mem_pending (.inl hclock) (.inl rfl)
    refine ⟨h.orderly.meets e hmem, fun slot hs => ?_⟩
    obtain ⟨p, hp, hw⟩ := h.orderly.exists_port hmem hs
    rw [pending_of_clock (.inl hclock), naming_cons, if_pos hs] at hw
    cases hop : e.op with
    | addPort port =>
      obtain rfl : slot = port := by simpa [hop, Op.slots] using hs
      rw [hop] at hw
      simp [Conf.active, hp, hw.addPort.1]
    | removePort port =>
      obtain rfl : slot = port := by simpa [hop, Op.slots] using hs
      rw [hop] at hw
      rcases hw with ⟨-, -, -, hnil⟩ | ⟨-, mids, -, heq⟩
      · cases hnil
      · cases hn : p.isNew with
        | true =>
          rw [hn] at heq
          cases heq
        | false => simp [Conf.active, hp, hn]
    | _ =>
      rw [h.orderly.active hclock (by rw [hop]; rfl) slot hs]
      simp
  · obtain ⟨slot, hop, hu⟩ := h.orderly.removed e hclock
    exact ⟨slot, hop, h.orderly.meets e (mem_pending (.inr hclock) (.inl rfl)), hu⟩
  · have hw := h.orderly.waits slot
    rw [Conf.flags, hnone] at hw
    exact naming_eq_nil.mp hw.2

theorem operations_meet_ports_two : (bridge 2 [.addPort true true, .clock]).active 1 = false :=
  ((operations_meet_ports (by decide) _).1 ⟨.addPort 1, [1]⟩ (by decide)).2 1 (by decide)

def Conf.work (c : Conf) : ℕ :=
  3 * c.queue.length + match c.clock with
    | .idle => 0
    | .took _ => 2
    | .removed _ => 1

lemma Sound.performOp_queue (h : Sound c) (hclock : c.clock = .took e) : (performOp e.op c).queue = c.queue := by
  by_cases hl : e.op.links = true
  · exact (performOp_graph h.graph hl (h.orderly.active hclock hl)).1.queue
  · cases hop : e.op with
    | addPort slot =>
      show (opAddPort slot c).queue = _
      unfold opAddPort
      split <;> rfl
    | removePort slot =>
      have hslots : slot ∈ e.op.slots := by simp [hop, Op.slots]
      obtain ⟨p, hp, -⟩ := h.orderly.exists_port (mem_pending (.inl hclock) (.inl rfl)) hslots
      exact (removePort_graph h.graph (by simp [hp])).1.queue
    | _ => exact absurd (by rw [hop]; rfl) hl

lemma afterOp_queue (op : Op) (c : Conf) : (afterOp op c).queue = c.queue := by
  cases op with
  | removePort port =>
    show (opRemovePort2 port c).queue = _
    unfold opRemovePort2
    split <;> rfl
  | _ => rfl

lemma Sound.work_step (h : Sound c) : (handleOpQueue c).work ≤ c.work - 1 := by
  unfold handleOpQueue
  cases hclock : c.clock with
  | idle =>
    cases hqueue : c.queue with
    | nil => simp [Conf.work, hclock, hqueue]
    | cons e queue => simp [Conf.work, hclock, hqueue, mul_add]
  | took e =>
    simp only [Conf.work, h.performOp_queue hclock, hclock]
    have : (match performed e with | .idle => 0 | .took _ => 2 | .removed _ => 1) ≤ 1 := by
      unfold performed
      cases e.op <;> simp
    omega
  | removed e =>
    simp only [Conf.work, afterOp_queue, hclock]
    omega

lemma work_run (h : Sound c) (n : ℕ) : (run step c (List.replicate n .clock)).work ≤ c.work - n := by
  induction n generalizing c with
  | zero => exact le_rfl
  | succ n ih =>
    have hrest := ih h.clock
    have hstep := h.work_step
    rw [List.replicate_succ, run_cons]
    show (run step (handleOpQueue c) _).work ≤ _
    omega

/-- From every state of a run, the clock thread by itself empties the queue. Then every port has been added
and none is being removed, aside from the new ports that application threads remove at once. -/
theorem clock_settles {maxPorts n : ℕ} (hmax : 0 < maxPorts) (is : List Input)
    (hn : (bridge maxPorts is).work ≤ n) : (bridge maxPorts (is ++ List.replicate n .clock)).pending = [] ∧
      ∀ slot p, (bridge maxPorts (is ++ List.replicate n .clock)).ports slot = some p →
        if slot ∈ (bridge maxPorts (is ++ List.replicate n .clock)).removals then
          p.isNew = true ∧ p.removing = true else p.isNew = false ∧ p.removing = false := by
  have h := sound_run hmax (is ++ List.replicate n .clock)
  have hwork := work_run (sound_run hmax is) n
  rw [bridge, ← run_append, ← bridge, ← bridge] at hwork
  generalize bridge maxPorts (is ++ List.replicate n .clock) = c at h hwork
  have hzero : c.work = 0 := by omega
  have hpend : c.pending = [] := by
    unfold Conf.work at hzero
    unfold Conf.pending
    cases hclock : c.clock <;> simp only [hclock] at hzero ⊢
    · exact List.length_eq_zero_iff.mp (by omega)
    all_goals omega
  refine ⟨hpend, fun slot p hp => ?_⟩
  have hw := h.orderly.waits slot
  rw [hpend, Conf.flags, hp] at hw
  rcases hw with ⟨hat, hnew, hr, -⟩ | ⟨hno, mids, -, heq⟩
  · rw [if_pos hat]
    exact ⟨hnew, hr⟩
  · rw [if_neg hno]
    obtain ⟨hleft, hright⟩ := List.append_eq_nil_iff.mp heq.symm
    obtain ⟨hadd, -⟩ := List.append_eq_nil_iff.mp hleft
    refine ⟨?_, ?_⟩
    · by_contra hnew
      rw [if_pos (by simpa using hnew)] at hadd
      cases hadd
    · by_contra hr
      rw [if_pos (by simpa using hr)] at hright
      cases hright

theorem clock_settles_three :
    (bridge 2 ([.addPort true true, .removePort true 0] ++ List.replicate 6 .clock)).pending = [] :=
  (clock_settles (by decide) [.addPort true true, .removePort true 0] (by decide)).1

end PjProject.Conference
