import PjProject.ArcLists
import PjProject.Conference

/-!
# The connections of the conference bridge

Which port transmits to which is kept in the listeners of the source, in the number of transmitters of
the sink and in the counters of the bridge. The operations keep them in step.
-/
namespace PjProject.Conference
open ArcLists

variable {c c' : Conf} {src sink slot : ℕ} {adjLevel : ℤ}

def Conf.flags (c : Conf) (slot : ℕ) : Option (ℕ × Bool × Bool) :=
  (c.ports slot).map fun p => (p.id, p.isNew, p.removing)

def Conf.active (c : Conf) (slot : ℕ) : Bool := (c.ports slot).any fun p => !p.isNew

/-- The links of the ports agree with all counters, and ports are linked only when they are active. -/
structure Graph (c : Conf) : Prop where
  below : ∀ slot, c.maxPorts ≤ slot → c.ports slot = none
  nodup : ∀ slot, (c.sinks slot).Nodup
  live : ∀ src, ∀ sink ∈ c.sinks src, c.active src = true ∧ c.active sink = true
  transmitters : ∀ slot p, c.ports slot = some p → p.transmitterCnt = inDegree c.maxPorts c.sinks slot
  connectCnt : c.connectCnt = arcs c.maxPorts c.sinks
  portCnt : c.portCnt = ((Finset.range c.maxPorts).filter fun slot => c.active slot = true).card

def Conf.Unlinked (c : Conf) (slot : ℕ) : Prop := c.sinks slot = [] ∧ ∀ src, slot ∉ c.sinks src

lemma Conf.Unlinked.congr (h : c.Unlinked slot) (hsinks : c'.sinks = c.sinks) : c'.Unlinked slot := by
  unfold Conf.Unlinked
  rw [hsinks]
  exact h

structure Relinks (c c' : Conf) : Prop where
  maxPorts : c'.maxPorts = c.maxPorts
  portCnt : c'.portCnt = c.portCnt
  queue : c'.queue = c.queue
  clock : c'.clock = c.clock
  removals : c'.removals = c.removals
  flags : ∀ slot, c'.flags slot = c.flags slot

lemma Relinks.refl (c : Conf) : Relinks c c := ⟨rfl, rfl, rfl, rfl, rfl, fun _ => rfl⟩

lemma Relinks.trans {c'' : Conf} (h : Relinks c c') (h' : Relinks c' c'') : Relinks c c'' :=
  ⟨h'.maxPorts.trans h.maxPorts, h'.portCnt.trans h.portCnt, h'.queue.trans h.queue,
    h'.clock.trans h.clock, h'.removals.trans h.removals, fun s => (h'.flags s).trans (h.flags s)⟩

lemma active_eq (c : Conf) (slot : ℕ) : c.active slot = (c.flags slot).any fun x => !x.2.1 := by
  unfold Conf.active Conf.flags
  cases c.ports slot <;> rfl

lemma Relinks.active (h : Relinks c c') (slot : ℕ) : c'.active slot = c.active slot := by
  rw [active_eq, active_eq, h.flags]

lemma Relinks.isNone (h : Relinks c c') (slot : ℕ) : (c'.ports slot).isNone = (c.ports slot).isNone := by
  have := congrArg Option.isNone (h.flags slot)
  simpa [Conf.flags] using this

lemma ports_put (slot s : ℕ) (p : Option Port) : (c.put slot p).ports s = if s = slot then p else c.ports s :=
  Function.update_apply ..

lemma sinks_put (slot : ℕ) (p : Option Port) :
    (c.put slot p).sinks = Function.update c.sinks slot (p.elim [] fun p => p.listeners.map Prod.fst) := by
  funext s
  unfold Conf.sinks
  rw [ports_put, Function.update_apply]
  split <;> rfl

lemma active_put (slot : ℕ) (p : Option Port) :
    (c.put slot p).active = Function.update c.active slot (p.any fun p => !p.isNew) := by
  funext s
  unfold Conf.active
  rw [ports_put, Function.update_apply]
  split <;> rfl

lemma ports_modify (slot s : ℕ) (f : Port → Port) :
    (c.modify slot f).ports s = if s = slot then (c.ports s).map f else c.ports s := by
  unfold Conf.modify
  rw [ports_put]
  split
  · rename_i hs
    rw [hs]
  · rfl

variable {f : Port → Port}

lemma modify_relinks (slot : ℕ)
    (hf : ∀ p, ((f p).id, (f p).isNew, (f p).removing) = (p.id, p.isNew, p.removing)) :
    Relinks c (c.modify slot f) := by
  refine ⟨rfl, rfl, rfl, rfl, rfl, fun s => ?_⟩
  unfold Conf.flags
  rw [ports_modify]
  split
  · rw [Option.map_map]
    exact congrArg (Option.map · (c.ports s)) (funext hf)
  · rfl

lemma sinks_modify (slot : ℕ) (f : Port → Port) : (c.modify slot f).sinks =
      Function.update c.sinks slot (((c.ports slot).map f).elim [] fun p => p.listeners.map Prod.fst) :=
  sinks_put ..

variable {g : Port → Port}

lemma sinks_modify_of_eq (hf : ∀ p, (f p).listeners = p.listeners) : (c.modify slot f).sinks = c.sinks := by
  rw [sinks_modify]
  refine Function.update_eq_self_iff.mpr ?_
  unfold Conf.sinks
  cases c.ports slot with
  | none => rfl
  | some p => simp [hf p]

variable {p : Port}

lemma Relinks.counted (h : Relinks c c') (n : ℕ) : Relinks c { c' with connectCnt := n } :=
  ⟨h.maxPorts, h.portCnt, h.queue, h.clock, h.removals, h.flags⟩

lemma sinks_counted (c : Conf) (n : ℕ) : ({ c with connectCnt := n } : Conf).sinks = c.sinks := rfl

lemma sinks_eq (h : c.ports slot = some p) : c.sinks slot = p.listeners.map Prod.fst := by
  simp [Conf.sinks, h]

lemma Graph.relink (h : Graph c) (hr : Relinks c c') (hnodup : ∀ slot, (c'.sinks slot).Nodup)
    (hlive : ∀ src, ∀ sink ∈ c'.sinks src, c.active src = true ∧ c.active sink = true)
    (htx : ∀ slot p, c'.ports slot = some p → p.transmitterCnt = inDegree c.maxPorts c'.sinks slot)
    (hcnt : c'.connectCnt = arcs c.maxPorts c'.sinks) : Graph c' where
  below s hs := by
    rw [hr.maxPorts] at hs
    have := hr.isNone s
    rw [h.below s hs] at this
    exact Option.isNone_iff_eq_none.mp (by simpa using this)
  nodup := hnodup
  live src sink hs := by
    rw [hr.active, hr.active]
    exact hlive src sink hs
  transmitters s p hp := by
    rw [hr.maxPorts]
    exact htx s p hp
  connectCnt := by rw [hr.maxPorts]; exact hcnt
  portCnt := by
    rw [hr.portCnt, h.portCnt, hr.maxPorts]
    simp only [hr.active]

lemma Graph.lt (h : Graph c) (hs : c.ports slot ≠ none) : slot < c.maxPorts := by
  by_contra hle
  exact hs (h.below slot (by omega))

lemma ports_of_active (h : c.active slot = true) : ∃ p, c.ports slot = some p ∧ p.isNew = false := by
  unfold Conf.active at h
  cases hp : c.ports slot with
  | none => simp [hp] at h
  | some p => exact ⟨p, rfl, by simpa [hp] using h⟩

lemma relinked_ports (hp : (Conf.modify sink g (c.modify src f)).ports slot = some p)
    (hf : ∀ p, (f p).transmitterCnt = p.transmitterCnt) : ∃ q r, c.ports slot = some r ∧
      q.transmitterCnt = r.transmitterCnt ∧
      p.transmitterCnt = if slot = sink then (g q).transmitterCnt else q.transmitterCnt := by
  rw [ports_modify, ports_modify] at hp
  cases hr : c.ports slot with
  | none => simp [hr] at hp
  | some r =>
    rw [hr] at hp
    refine ⟨if slot = src then f r else r, r, rfl, ?_, ?_⟩
    · split
      · exact hf r
      · rfl
    · split_ifs at hp ⊢ <;> exact congrArg Port.transmitterCnt (Option.some.inj hp.symm)

/-- A change of the listeners of one port and of the transmitters of another. -/
lemma Graph.relinked (h : Graph c) (hp : c.ports src = some p) {l : List ℕ} {n : ℕ}
    (hl : (f p).listeners.map Prod.fst = l) (hlisten : ∀ q, (g q).listeners = q.listeners)
    (hf : ∀ p, ((f p).id, (f p).isNew, (f p).removing) = (p.id, p.isNew, p.removing))
    (hg : ∀ p, ((g p).id, (g p).isNew, (g p).removing) = (p.id, p.isNew, p.removing))
    (htx : ∀ p, (f p).transmitterCnt = p.transmitterCnt)
    (hnodup : l.Nodup) (hlive : ∀ k ∈ l, c.active src = true ∧ c.active k = true)
    (hdeg : ∀ q s, q.transmitterCnt = inDegree c.maxPorts c.sinks s →
      (if s = sink then (g q).transmitterCnt else q.transmitterCnt) =
        inDegree c.maxPorts (Function.update c.sinks src l) s)
    (hcnt : n = arcs c.maxPorts (Function.update c.sinks src l)) :
    Relinks c { Conf.modify sink g (c.modify src f) with connectCnt := n } ∧
      Graph { Conf.modify sink g (c.modify src f) with connectCnt := n } ∧
      (Conf.modify sink g (c.modify src f)).sinks = Function.update c.sinks src l := by
  have hsinks : (Conf.modify sink g (c.modify src f)).sinks = Function.update c.sinks src l := by
    rw [sinks_modify_of_eq hlisten, sinks_modify, hp, ← hl]
    rfl
  have hrel := ((modify_relinks (c := c) src hf).trans (modify_relinks sink hg)).counted n
  refine ⟨hrel, h.relink hrel (fun s => ?_) (fun s k hk => ?_) (fun s q hq => ?_) ?_, hsinks⟩
  · rw [sinks_counted, hsinks, Function.update_apply]
    split
    · exact hnodup
    · exact h.nodup s
  · rw [sinks_counted, hsinks, Function.update_apply] at hk
    split at hk
    · rename_i heq
      exact heq ▸ hlive k hk
    · exact h.live s k hk
  · obtain ⟨q', r, hr, hq', heq⟩ := relinked_ports hq htx
    rw [heq, sinks_counted, hsinks]
    exact hdeg q' s (hq'.trans (h.transmitters s r hr))
  · rw [sinks_counted, hsinks]
    exact hcnt

lemma connect_graph (h : Graph c) (hs : c.active src = true) (hk : c.active sink = true) :
    Relinks c (opConnectPorts src sink adjLevel c) ∧ Graph (opConnectPorts src sink adjLevel c) := by
  unfold opConnectPorts
  split
  · exact ⟨.refl c, h⟩
  rename_i hno
  obtain ⟨p, hp, -⟩ := ports_of_active hs
  have hnew : sink ∉ c.sinks src := fun hmem => hno (.inr (.inr hmem))
  have hlt : src < c.maxPorts := h.lt (by simp [hp])
  have hl : (Port.listen sink (adjLevel + normalLevel) p).listeners.map Prod.fst = c.sinks src ++ [sink] := by
    rw [sinks_eq hp, Port.listen, List.map_append]
    rfl
  refine (h.relinked (g := Port.feed) hp hl (fun _ => rfl) (fun _ => rfl) (fun _ => rfl) (fun _ => rfl) ?_
    (fun k hk' => ?_) (fun q s hq => ?_) ?_).imp_right And.left
  · refine List.nodup_append.mpr ⟨h.nodup src, List.nodup_singleton _, fun a ha b hb => ?_⟩
    rw [List.mem_singleton.mp hb]
    rintro rfl
    exact hnew ha
  · rcases List.mem_append.mp hk' with hk' | hk'
    · exact h.live src k hk'
    · rw [List.mem_singleton.mp hk']
      exact ⟨hs, hk⟩
  · rw [inDegree_append hlt, ← hq]
    by_cases heq : s = sink
    · rw [if_pos heq, if_pos heq.symm]
      rfl
    · rw [if_neg heq, if_neg (Ne.symm heq)]
      rfl
  · rw [arcs_append hlt, ← h.connectCnt]

lemma disconnect_graph (h : Graph c) (src sink : ℕ) :
    Relinks c (disconnect src sink c) ∧ Graph (disconnect src sink c) ∧
      (disconnect src sink c).sinks = Function.update c.sinks src ((c.sinks src).erase sink) := by
  unfold disconnect
  by_cases hmem : sink ∈ c.sinks src
  · obtain ⟨hs, hk⟩ := h.live src sink hmem
    obtain ⟨p, hp, -⟩ := ports_of_active hs
    obtain ⟨d, hd, -⟩ := ports_of_active hk
    have hlt : src < c.maxPorts := h.lt (by simp [hp])
    rw [if_neg (by simp [hp, hd, hmem])]
    have hl : (Port.unlisten sink p).listeners.map Prod.fst = (c.sinks src).erase sink := by
      have hslot : (sink == ·) ∘ Prod.fst = fun l : ℕ × ℤ => decide (l.1 = sink) := by
        funext l
        rw [Function.comp_apply, Bool.beq_eq_decide_eq, decide_eq_decide]
        exact eq_comm
      rw [sinks_eq hp, Port.unlisten, List.erase_eq_eraseP, List.eraseP_map, hslot]
    refine h.relinked (g := Port.unfeed) hp hl (fun _ => rfl) (fun _ => rfl) (fun _ => rfl) (fun _ => rfl)
      ((h.nodup src).erase sink) (fun k hk' => h.live src k (List.mem_of_mem_erase hk')) (fun q s hq => ?_) ?_
    · have hdeg := inDegree_erase hlt hmem s
      rw [← hq] at hdeg
      by_cases heq : s = sink
      · rw [if_pos heq.symm] at hdeg
        rw [if_pos heq, Port.unfeed]
        dsimp only
        omega
      · rw [if_neg (Ne.symm heq)] at hdeg
        rw [if_neg heq]
        omega
    · have hcnt := arcs_erase (n := c.maxPorts) hlt hmem
      rw [← h.connectCnt] at hcnt
      omega
  · rw [if_pos (.inr (.inr hmem)), List.erase_of_not_mem hmem, Function.update_eq_self]
    exact ⟨.refl c, h, rfl⟩

lemma disconnectSources_graph (h : Graph c) (sink : ℕ) (srcs : List ℕ) :
    Relinks c (srcs.foldl (fun c src => disconnect src sink c) c) ∧
      Graph (srcs.foldl (fun c src => disconnect src sink c) c) ∧
      ∀ s, (srcs.foldl (fun c src => disconnect src sink c) c).sinks s =
        if s ∈ srcs then (c.sinks s).erase sink else c.sinks s := by
  induction srcs generalizing c with
  | nil => exact ⟨.refl c, h, fun s => by simp⟩
  | cons src srcs ih =>
    obtain ⟨hr, hg, hs⟩ := disconnect_graph h src sink
    obtain ⟨hr', hg', hs'⟩ := ih hg
    refine ⟨hr.trans hr', hg', fun s => ?_⟩
    rw [List.foldl_cons, hs', hs, Function.update_apply]
    by_cases heq : s = src
    · subst heq
      have htwice : ((c.sinks s).erase sink).erase sink = (c.sinks s).erase sink :=
        List.erase_of_not_mem fun hmem => ((h.nodup s).mem_erase_iff.mp hmem).1 rfl
      simp [htwice]
    · simp [heq]

lemma disconnectSinks_graph (src : ℕ) (n : ℕ) {c : Conf} (h : Graph c) (hn : (c.sinks src).length = n) :
    Relinks c (disconnectSinks src n c) ∧ Graph (disconnectSinks src n c) ∧
      (disconnectSinks src n c).sinks = Function.update c.sinks src [] := by
  induction n generalizing c with
  | zero =>
    have hnil := List.length_eq_zero_iff.mp hn
    refine ⟨.refl c, h, ?_⟩
    rw [disconnectSinks, ← hnil, Function.update_eq_self]
  | succ i ih =>
    have hi : i < (c.sinks src).length := by omega
    obtain ⟨hr, hg, hs⟩ := disconnect_graph h src (c.sinks src)[i]
    have hlen : ((disconnect src (c.sinks src)[i] c).sinks src).length = i := by
      rw [hs, Function.update_self, List.length_erase_of_mem (List.getElem_mem hi)]
      omega
    obtain ⟨hr', hg', hs'⟩ := ih hg hlen
    rw [disconnectSinks, List.getElem?_eq_getElem hi]
    refine ⟨hr.trans hr', hg', ?_⟩
    rw [hs', hs, Function.update_idem]

lemma disconnectPorts_graph (h : Graph c) (src sink : Option ℕ) :
    Relinks c (opDisconnectPorts src sink c) ∧ Graph (opDisconnectPorts src sink c) := by
  unfold opDisconnectPorts
  split
  · obtain ⟨hr, hg, -⟩ := disconnect_graph h _ _
    exact ⟨hr, hg⟩
  · split
    · exact ⟨.refl c, h⟩
    · obtain ⟨hr, hg, -⟩ := disconnectSources_graph h _ _
      exact ⟨hr, hg⟩
  · obtain ⟨hr, hg, -⟩ := disconnectSinks_graph _ _ h rfl
    exact ⟨hr, hg⟩
  · exact ⟨.refl c, h⟩

lemma removePort_graph (h : Graph c) (hs : c.ports slot ≠ none) :
    Relinks c (opRemovePort slot c) ∧ Graph (opRemovePort slot c) ∧ (opRemovePort slot c).Unlinked slot := by
  have hsome : (c.ports slot).isNone = false := by simpa [Option.isSome_iff_ne_none] using hs
  obtain ⟨hr, hg, hsinks⟩ := disconnectSources_graph h slot (List.range c.maxPorts)
  have hfold : opDisconnectPorts none (some slot) c =
      (List.range c.maxPorts).foldl (fun c src => disconnect src slot c) c := by simp [opDisconnectPorts, hsome]
  rw [← hfold] at hr hg hsinks
  obtain ⟨hr', hg', hsinks'⟩ := disconnectSinks_graph slot _ hg rfl
  rw [opRemovePort, if_neg (by simp [hsome])]
  refine ⟨hr.trans hr', hg', ?_⟩
  show Conf.sinks (disconnectSinks _ _ _) _ = [] ∧ ∀ src, slot ∉ Conf.sinks (disconnectSinks _ _ _) src
  rw [hsinks']
  refine ⟨Function.update_self .., fun s hmem => ?_⟩
  rw [Function.update_apply] at hmem
  split at hmem
  · cases hmem
  · rw [hsinks] at hmem
    split at hmem
    · exact ((h.nodup s).mem_erase_iff.mp hmem).1 rfl
    · rename_i hrange
      have hnone := h.below s (by simpa using hrange)
      simp [Conf.sinks, hnone] at hmem

lemma adjust_graph (h : Graph c) :
    Relinks c (opAdjustConnLevel src sink adjLevel c) ∧ Graph (opAdjustConnLevel src sink adjLevel c) := by
  unfold opAdjustConnLevel
  split
  · exact ⟨.refl c, h⟩
  rename_i hno
  have hmem : sink ∈ c.sinks src := by
    by_contra hn
    exact hno (.inr (.inr hn))
  have hrel := modify_relinks (c := c) src
    (f := Port.setLevel ((c.sinks src).idxOf sink) sink (adjLevel + normalLevel)) fun _ => rfl
  have hsinks : (c.modify src (Port.setLevel ((c.sinks src).idxOf sink) sink (adjLevel + normalLevel))).sinks =
      c.sinks := by
    rw [sinks_modify]
    refine Function.update_eq_self_iff.mpr ?_
    cases hp : c.ports src with
    | none => simp [Conf.sinks, hp] at hmem
    | some p =>
      rw [sinks_eq hp] at hmem ⊢
      have hlt := List.idxOf_lt_length_iff.mpr hmem
      have hget := List.getElem_idxOf hlt
      simp only [Option.map_some, Option.elim_some, Port.setLevel, List.map_set]
      exact (congrArg _ hget.symm).trans (List.set_getElem_self hlt)
  refine ⟨hrel, h.relink hrel (by rw [hsinks]; exact h.nodup) (by rw [hsinks]; exact h.live) (fun s q hq => ?_)
    (by rw [hsinks]; exact h.connectCnt)⟩
  rw [hsinks]
  rw [ports_modify] at hq
  split at hq
  · obtain ⟨p, hp, rfl⟩ := Option.map_eq_some_iff.mp hq
    exact h.transmitters s p hp
  · exact h.transmitters s q hq

lemma Graph.put (h : Graph c) (slot : ℕ) {p : Option Port} {n : ℕ} (hlt : slot < c.maxPorts)
    (hp : (p.elim [] fun p => p.listeners.map Prod.fst) = c.sinks slot)
    (htx : ∀ q, p = some q → q.transmitterCnt = inDegree c.maxPorts c.sinks slot)
    (hlive : (p.any fun p => !p.isNew) = false → c.Unlinked slot)
    (hn : n + (c.active slot).toNat = c.portCnt + (p.any fun p => !p.isNew).toNat) :
    Graph { c.put slot p with portCnt := n } := by
  have hsinks : ({ c.put slot p with portCnt := n } : Conf).sinks = c.sinks :=
    (sinks_put slot p).trans (by rw [hp, Function.update_eq_self])
  have hports : ∀ s, ({ c.put slot p with portCnt := n } : Conf).ports s = if s = slot then p else c.ports s :=
    fun s => ports_put slot s p
  have hactive : ({ c.put slot p with portCnt := n } : Conf).active =
      Function.update c.active slot (p.any fun p => !p.isNew) := active_put slot p
  refine ⟨fun s hs => ?_, by rw [hsinks]; exact h.nodup, fun s k hk => ?_, fun s q hq => ?_, ?_, ?_⟩
  · have hne : s ≠ slot := by
      rintro rfl
      exact absurd hlt (Nat.not_lt.mpr hs)
    rw [hports, if_neg hne]
    exact h.below s hs
  · rw [hsinks] at hk
    have hkeep : ∀ x, (x = slot → ¬ c.Unlinked slot) → c.active x = true →
        Function.update c.active slot (p.any fun p => !p.isNew) x = true := fun x hx ha => by
      rw [Function.update_apply]
      split
      · rename_i heq
        by_contra hoff
        exact hx heq (hlive (by simpa using hoff))
      · exact ha
    obtain ⟨hs, hk'⟩ := h.live s k hk
    rw [hactive]
    refine ⟨hkeep s (fun heq hu => ?_) hs, hkeep k (fun heq hu => ?_) hk'⟩
    · rw [heq, hu.1] at hk
      cases hk
    · exact hu.2 s (heq ▸ hk)
  · rw [hsinks]
    rw [hports] at hq
    split at hq
    · rename_i heq
      rw [heq]
      exact htx q hq
    · exact h.transmitters s q hq
  · rw [hsinks]
    exact h.connectCnt
  · have hcard := card_update (v := c.active) hlt id (p.any fun p => !p.isNew)
    simp only [id_eq] at hcard
    rw [← h.portCnt] at hcard
    rw [hactive]
    show n = ((Finset.range c.maxPorts).filter _).card
    omega

lemma Graph.congr (h : Graph c) (hmax : c'.maxPorts = c.maxPorts) (hports : c'.ports = c.ports)
    (hcnt : c'.portCnt = c.portCnt) (hconn : c'.connectCnt = c.connectCnt) : Graph c' := by
  have hsinks : c'.sinks = c.sinks := by
    unfold Conf.sinks
    rw [hports]
  have hactive : c'.active = c.active := by
    unfold Conf.active
    rw [hports]
  obtain ⟨h1, h2, h3, h4, h5, h6⟩ := h
  constructor <;> simp only [hmax, hports, hcnt, hconn, hsinks, hactive] <;> assumption

lemma Graph.unlinked (h : Graph c) (hs : c.active slot = false) : c.Unlinked slot := by
  refine ⟨List.eq_nil_iff_forall_not_mem.mpr fun sink hmem => ?_, fun src hmem => ?_⟩
  · rw [(h.live slot sink hmem).1] at hs
    cases hs
  · rw [(h.live src slot hmem).2] at hs
    cases hs

lemma Graph.addPort (h : Graph c) (hlt : slot < c.maxPorts) (hnone : c.ports slot = none) (id : ℕ) :
    Graph (c.put slot (some ⟨id, [], 0, true, false⟩)) := by
  have hoff : c.active slot = false := by simp [Conf.active, hnone]
  have hu := h.unlinked hoff
  refine h.put slot (n := c.portCnt) hlt hu.1.symm (fun q hq => ?_) (fun _ => hu) (by rw [hoff]; rfl)
  rw [← Option.some.inj hq]
  exact (inDegree_eq_zero hu.2).symm

lemma Graph.free (h : Graph c) (hu : c.Unlinked slot) : Graph (opRemovePort2 slot c) := by
  unfold opRemovePort2
  split
  · exact h
  rename_i p hp
  have hlt : slot < c.maxPorts := h.lt (by simp [hp])
  refine h.put slot hlt hu.1.symm (fun q hq => by cases hq) (fun _ => hu) ?_
  rw [h.portCnt]
  cases hn : p.isNew with
  | true => simp [Conf.active, hp, hn]
  | false =>
    have hon : c.active slot = true := by simp [Conf.active, hp, hn]
    have hpos : 0 < ((Finset.range c.maxPorts).filter fun s => c.active s = true).card :=
      Finset.card_pos.mpr ⟨slot, by simp [hlt, hon]⟩
    rw [hon]
    simp
    omega

lemma Graph.activate (h : Graph c) : Graph (opAddPort slot c) := by
  unfold opAddPort
  split
  · rename_i hnew
    obtain ⟨p, hp, hn⟩ := (Option.any_eq_true ..).mp hnew
    unfold Conf.modify
    rw [hp]
    refine h.put slot (h.lt (by simp [hp])) (sinks_eq hp).symm (fun q hq => ?_) (fun hoff => by simp at hoff) ?_
    · rw [← h.transmitters slot p hp, ← Option.some.inj hq]
    · simp [Conf.active, hp, hn]
  · exact h

lemma Graph.modify (h : Graph c) (slot : ℕ) (hlisten : ∀ p, (f p).listeners = p.listeners)
    (htx : ∀ p, (f p).transmitterCnt = p.transmitterCnt) (hnew : ∀ p, (f p).isNew = p.isNew) :
    Graph (c.modify slot f) := by
  cases hp : c.ports slot with
  | none =>
    have heq : c.modify slot f = c := by
      unfold Conf.modify Conf.put
      rw [hp, Option.map_none, ← hp, Function.update_eq_self]
    rw [heq]
    exact h
  | some p =>
    unfold Conf.modify
    rw [hp]
    refine h.put slot (n := c.portCnt) (h.lt (by simp [hp])) ?_ (fun q hq => ?_) (fun hoff => h.unlinked ?_) ?_
    · rw [sinks_eq hp, Option.map_some, Option.elim_some, hlisten]
    · rw [← h.transmitters slot p hp, ← Option.some.inj hq, htx]
    · simpa [Conf.active, hp, hnew] using hoff
    · simp [Conf.active, hp, hnew]

end PjProject.Conference
