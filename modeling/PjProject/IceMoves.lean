import PjProject.IcePairing
import PjProject.IceUpdate
import PjProject.Transition

/-!
# The moves of a session

Every event of a session is a sequence of a few moves of its checks: they are rearranged and updated, a
request is sent, a check is put behind the others, the local candidates are replaced by their bases.
-/
namespace PjProject.IceSession

structure Touched (c c' : Check) : Prop extends SamePair c c' where
  tdata : c'.tdata = c.tdata ∨ c'.tdata = none

variable (c : Check)

lemma Touched.refl : Touched c c := ⟨SamePair.refl c, .inl rfl⟩

lemma Touched.trans {c c' c'' : Check} (h : Touched c c') (h' : Touched c' c'') : Touched c c'' := by
  refine ⟨h.toSamePair.trans h'.toSamePair, ?_⟩
  rcases h'.tdata with heq | hnone
  · rw [heq]
    exact h.tdata
  · exact .inr hnone

lemma Touched.setState (st : CheckState) (errCode : ℕ) : Touched c (c.setState st errCode) :=
  ⟨⟨rfl, rfl, rfl, rfl⟩, .inl rfl⟩

lemma Rules.touched {done c c' : Check} {lcand : ℕ → Cand} {valid : Check → Prop} (h : Rules done lcand valid c c') :
    Touched c c' := by
  induction h with
  | refl => exact Touched.refl _
  | tail _ hstep ih => exact ih.trans ⟨hstep.samePair, hstep.kept.2⟩

structure Shifts (v v' : View) : Prop where
  moved : ∃ f : ℕ → ℕ, (∀ p, Touched (v.checks (f p)) (v'.checks p)) ∧ ∀ p < v'.count, f p < v.count
  foundation : v'.foundation = v.foundation
  lcandCnt : v.lcandCnt ≤ v'.lcandCnt
  lcand : ∀ i < v.lcandCnt, v'.lcand i = v.lcand i
  rcandCnt : v.rcandCnt ≤ v'.rcandCnt
  rcand : ∀ i < v.rcandCnt, v'.rcand i = v.rcand i
  pending : ∀ t ∈ v'.pending, t ∈ v.pending
  nextTdata : v'.nextTdata = v.nextTdata
  log : ∃ l, v'.log = v.log ++ l ∧ ∀ r ∈ l, ∃ status, r = .iceComplete status

variable {v v' : View} {ice : Ice}

lemma Shifts.of_touched (hcount : v'.count ≤ v.count) (hchecks : ∀ p, Touched (v.checks p) (v'.checks p))
    (hpending : ∀ t ∈ v'.pending, t ∈ v.pending) (hfoundation : v'.foundation = v.foundation)
    (hlcand : v'.lcand = v.lcand ∧ v'.lcandCnt = v.lcandCnt) (hrcand : v'.rcand = v.rcand ∧ v'.rcandCnt = v.rcandCnt)
    (hnext : v'.nextTdata = v.nextTdata) (hlog : v'.log = v.log) : Shifts v v' where
  moved := ⟨id, hchecks, fun _ hp => lt_of_lt_of_le hp hcount⟩
  foundation := hfoundation
  lcandCnt := hlcand.2.ge
  lcand := fun _ _ => by rw [hlcand.1]
  rcandCnt := hrcand.2.ge
  rcand := fun _ _ => by rw [hrcand.1]
  pending := hpending
  nextTdata := hnext
  log := ⟨[], by rw [hlog, List.append_nil], fun _ hr => absurd hr List.not_mem_nil⟩

lemma InPlace.shifts {R : ℕ → Check → Check → Prop} (hR : ∀ p c c', R p c c' → Touched c c') (h : InPlace R v v') :
    Shifts v v' := by
  refine Shifts.of_touched ?_ (fun p => hR p _ _ (h.checks p)) h.pending ?_ ?_ ?_ ?_ ?_ <;> rw [h.same]
  · exact ⟨rfl, rfl⟩
  · exact ⟨rfl, rfl⟩

structure Guard where
  pair : Pairing → ℕ → ℕ → Prop
  trigger : Ice → ℕ → ℕ → Prop
  prune : Ice → Prop

def placePair (ice : Ice) (i j : ℕ) : Ice :=
  { ice with
    toPairing := (addPair ice.toPairing i j).1
    log := ice.log ++ (addPair ice.toPairing i j).2.toList.map .paired }

lemma getCheckFoundationIdx_neg {foundation : List (List UInt8)} {lcand rcand : Cand}
    (h : (getCheckFoundationIdx foundation lcand rcand).2 < 0) :
    (getCheckFoundationIdx foundation lcand rcand).1 = foundation := by
  revert h
  unfold getCheckFoundationIdx
  split
  · exact fun _ => rfl
  · split_ifs
    · exact fun hneg => absurd hneg (not_lt.2 (Int.natCast_nonneg _))
    · exact fun _ => rfl

def addedCheck (s : Pairing) (i j : ℕ) : Check :=
  if unfreezesPair s i j then (pairCheck s i j).setState .waiting pjSuccess else pairCheck s i j

lemma placePair_cases (ice : Ice) (i j : ℕ) : (∃ c, (c = ice.clist.checks ice.clist.count ∨
        Compatible (ice.lcand i) (ice.rcand j) ∧ c = pairCheck ice.toPairing i j) ∧ (placePair ice i j).view =
        { ice.view with checks := Function.update ice.clist.checks ice.clist.count c }) ∨
    ((Compatible (ice.lcand i) (ice.rcand j) ∧ Recordable ice.toPairing i j) ∧
      (placePair ice i j).view =
        { ice.view with
          count := ice.clist.count + 1
          checks := Function.update ice.clist.checks ice.clist.count (addedCheck ice.toPairing i j)
          foundation := (getCheckFoundationIdx ice.clist.foundation (ice.lcand i) (ice.rcand j)).1
          log := ice.log ++ [.paired (addedCheck ice.toPairing i j)] }) := by
  have hlog : ice.log ++ (none : Option Check).toList.map .paired = ice.log := List.append_nil _
  unfold placePair addPair
  by_cases hc : Compatible (ice.lcand i) (ice.rcand j)
  · rw [if_neg (not_not.2 hc)]
    dsimp only
    by_cases hneg : (getCheckFoundationIdx ice.clist.foundation (ice.lcand i) (ice.rcand j)).2 < 0
    · rw [if_pos hneg, getCheckFoundationIdx_neg hneg, hlog]
      exact .inl ⟨_, .inr ⟨hc, rfl⟩, rfl⟩
    · rw [if_neg hneg]
      exact .inr ⟨⟨hc, (getCheckFoundationIdx_nonneg ice.toPairing i j).1 (not_lt.1 hneg)⟩, rfl⟩
  · rw [if_pos hc, hlog]
    refine .inl ⟨_, .inl rfl, ?_⟩
    rw [Function.update_eq_self]
    rfl

def sendRequest (v : View) (i : ℕ) (c : Check) (transportId : ℕ) (controlling : Bool) : View :=
  { v with
    checks := Function.update v.checks i { c with tdata := some v.nextTdata }
    pending := ⟨v.nextTdata, transportId, i, (v.checks i).lcand, (v.checks i).rcand, controlling⟩ :: v.pending
    nextTdata := v.nextTdata + 1 }

inductive Move (G : Guard) : View → View → Prop
  | shift {v v' : View} (h : Shifts v v') : Move G v v'
  | send (v : View) (i : ℕ) (c : Check) (transportId : ℕ) (controlling : Bool) (h : SamePair (v.checks i) c) :
      Move G v (sendRequest v i c transportId controlling)
  | pair (ice : Ice) (i j : ℕ) (hi : i < ice.lcandCnt) (hj : j < ice.rcandCnt) (hG : G.pair ice.toPairing i j) :
      Move G ice.view (placePair ice i j).view
  | trigger (ice : Ice) (l r : ℕ) (useCandidate : Bool) (hl : l < ice.lcandCnt) (hr : r < ice.rcandCnt)
      (hG : G.trigger ice l r) : Move G ice.view (placeTriggered ice l r useCandidate).view
  | prune (ice : Ice) (hG : G.prune ice) : Move G ice.view (pruneChecks ice).1.view

abbrev Moves (G : Guard) : View → View → Prop := Relation.ReflTransGen (Move G)

variable {G : Guard} {v'' : View}

lemma Moves.of_eq (h : v' = v) : Moves G v v' := by
  rw [h]

lemma Moves.shift (h : Shifts v v') : Moves G v v' := .single (.shift h)

lemma Moves.trans (h : Moves G v v') (h' : Moves G v' v'') : Moves G v v'' := Relation.ReflTransGen.trans h h'

lemma Moves.inPlace {done : Check} {lcand : ℕ → Cand} {valid : Check → Prop}
    (h : InPlace (fun _ => Rules done lcand valid) v v') : Moves G v v' :=
  Moves.shift (h.shifts fun _ _ _ => Rules.touched)

variable {i : ℕ}

lemma setCheck_moves {c : Check} (h : Touched (ice.clist.checks i) c) :
    Moves G ice.view (ice.setCheck i c).view :=
  Moves.shift ((InPlace.setCheck (R := fun _ => Touched) (fun _ => Touched.refl) i c h).shifts fun _ _ _ h => h)

lemma sortChecks_moves : Moves G ice.view (sortChecks ice).view := by
  obtain ⟨τ, hmoved, hsame, -⟩ := sortChecklist_moved .clist ice.clist ice.comps
  have hpos : ∀ p, ice.clist.checks (τ.symm p) = (sortChecklist .clist ice.clist ice.comps).1.checks p := by
    intro p
    have hel := hmoved.elements (τ.symm p)
    rw [Equiv.apply_symm_apply] at hel
    exact hel.symm
  refine Moves.shift ⟨⟨τ.symm, fun p => ?_, fun p hp => ?_⟩, rfl, le_rfl, fun _ _ => rfl, le_rfl, fun _ _ => rfl,
    fun _ ht => ht, rfl, [], (List.append_nil _).symm, fun _ hr => absurd hr List.not_mem_nil⟩
  · have heq : (sortChecks ice).view.checks p = ice.view.checks (τ.symm p) := (hpos p).symm
    rw [heq]
    exact Touched.refl _
  · have hp : p < ice.clist.count := hp
    exact (hmoved.lt_iff (τ.symm p)).1 (by rwa [Equiv.apply_symm_apply])

lemma removeCheck_shifts (k : ℕ) (h : k < ice.clist.count) :
    Shifts ice.view { ice with clist := removeCheck ice.clist k }.view := by
  refine ⟨⟨fun p => if k ≤ p ∧ p + 1 < ice.clist.count then p + 1 else p, fun p => ?_, fun p hp => ?_⟩, rfl, le_rfl,
    fun _ _ => rfl, le_rfl, fun _ _ => rfl, fun _ ht => ht, rfl, [], (List.append_nil _).symm,
    fun _ hr => absurd hr List.not_mem_nil⟩
  · simp only [Ice.view, removeCheck]
    split_ifs <;> exact Touched.refl _
  · have hp : p < ice.clist.count - 1 := hp
    show (if k ≤ p ∧ p + 1 < ice.clist.count then p + 1 else p) < ice.clist.count
    split_ifs <;> omega

lemma discardCheck_moves (prio : Timestamp) (h : 0 < ice.clist.count) :
    Moves G ice.view { ice with toPairing := (discardCheck ice.toPairing prio).1 }.view := by
  unfold discardCheck
  cases hf : findFrom (fun k => decide ((ice.clist.checks k).state = .failed)) ice.clist.count 0 with
  | some k =>
    obtain ⟨-, hk, -, -⟩ := findFrom_spec _ hf
    exact Moves.shift (removeCheck_shifts k (by omega))
  | none =>
    have hpos : 0 < (sortChecks ice).clist.count := by
      rwa [← (sortChecklist_sorted .clist ice.clist ice.comps).count] at h
    dsimp only
    split_ifs
    · have hlast : (sortChecks ice).clist.count - 1 < (sortChecks ice).clist.count := by omega
      exact sortChecks_moves.trans (Moves.shift (removeCheck_shifts _ hlast))
    · exact sortChecks_moves

lemma addLcand_shifts (c : Cand) : Shifts ice.view
    { ice with lcand := Function.update ice.lcand ice.lcandCnt c, lcandCnt := ice.lcandCnt + 1 }.view :=
  ⟨⟨id, fun _ => Touched.refl _, fun _ hp => hp⟩, rfl, Nat.le_succ _,
    fun _ hi => Function.update_of_ne (Nat.ne_of_lt hi) _ _, le_rfl, fun _ _ => rfl, fun _ ht => ht, rfl, [],
    (List.append_nil _).symm, fun _ hr => absurd hr List.not_mem_nil⟩

lemma addRcand_shifts (c : Cand) : Shifts ice.view
    { ice with rcand := Function.update ice.rcand ice.rcandCnt c, rcandCnt := ice.rcandCnt + 1 }.view :=
  ⟨⟨id, fun _ => Touched.refl _, fun _ hp => hp⟩, rfl, le_rfl, fun _ _ => rfl, Nat.le_succ _,
    fun _ hi => Function.update_of_ne (Nat.ne_of_lt hi) _ _, fun _ ht => ht, rfl, [],
    (List.append_nil _).symm, fun _ hr => absurd hr List.not_mem_nil⟩

lemma addCand_moves {compId transportId : ℕ} {type : CandType} {localPref : UInt32} {foundation : List UInt8}
    {addr baseAddr : SockAddr} :
    Moves G ice.view (addCand ice compId transportId type localPref foundation addr baseAddr).1.view := by
  unfold addCand
  dsimp only
  split_ifs
  · exact .refl
  · exact .refl
  · split
    · exact .refl
    · exact Moves.shift (addLcand_shifts _)
  · exact Moves.shift (addLcand_shifts _)

lemma saveRcand_moves (cand : Cand) : Moves G ice.view (saveRcand ice cand).view := by
  unfold saveRcand
  split_ifs
  · exact .refl
  · exact .refl
  · exact .refl
  · exact Moves.shift (addRcand_shifts cand)

variable (rem : List Cand)

lemma saveRcands_moves : ∀ ice : Ice, Moves G ice.view (rem.foldl saveRcand ice).view := by
  induction rem with
  | nil => exact fun _ => .refl
  | cons c rem ih => exact fun ice => (saveRcand_moves c).trans (ih _)

variable {rcheck : RxCheck}

lemma findRcand_moves {ice' : Ice} {r : ℕ} (h : findRcand ice rcheck = some (ice', r)) :
    Moves G ice.view ice'.view ∧ r < ice'.rcandCnt := by
  unfold findRcand at h
  cases hf : findFrom (fun i => decide (rcheck.srcAddr = (ice.rcand i).addr)) ice.rcandCnt 0 with
  | some i =>
    rw [hf] at h
    obtain ⟨rfl, rfl⟩ := Prod.mk.inj (Option.some.inj h)
    obtain ⟨-, hi, -⟩ := findFrom_spec _ hf
    exact ⟨.refl, by omega⟩
  | none =>
    rw [hf] at h
    dsimp only at h
    split_ifs at h
    obtain ⟨rfl, rfl⟩ := Prod.mk.inj (Option.some.inj h)
    exact ⟨Moves.shift (addRcand_shifts _), Nat.lt_succ_self _⟩

lemma onCheckComplete_moves (ckid : ℕ) : Moves G ice.view (onCheckComplete ice ckid).1.view :=
  Moves.inPlace (onCheckComplete_inPlace ice ckid)

lemma checkIceComplete_moves : Moves G ice.view (checkIceComplete ice).1.view := by
  have h : InPlace (fun _ => Rules Check.zero ice.lcand fun _ => True) ice.view (checkIceComplete ice).1.view :=
    checkIceComplete_inPlace fun _ _ _ => trivial
  exact Moves.inPlace h

lemma startNominatedCheck_moves : Moves G ice.view (startNominatedCheck ice).view := by
  have h : InPlace (fun _ => Rules Check.zero ice.lcand fun _ => True) ice.view (startNominatedCheck ice).view :=
    startNominatedCheck_inPlace ice fun _ _ => trivial
  exact Moves.inPlace h

lemma failCheck_moves (i status : ℕ) : Moves G ice.view (failCheck ice i status).view :=
  (setCheck_moves (Touched.setState _ _ _)).trans (onCheckComplete_moves i)

lemma validList_moves (vl : Checklist) (comps : List Comp) :
    Moves G ice.view { ice with validList := vl, comps := comps }.view :=
  Moves.shift (Shifts.of_touched le_rfl (fun _ => Touched.refl _) (fun _ ht => ht) rfl ⟨rfl, rfl⟩ ⟨rfl, rfl⟩ rfl rfl)

lemma addValid_moves (i l : ℕ) : Moves G ice.view (addValid ice i l).view := by
  unfold addValid
  dsimp only
  exact (validList_moves _ _).trans ((setCheck_moves (Touched.setState _ _ _)).trans (onCheckComplete_moves i))

lemma performCheck_moves (ckid : ℕ) (nominate : Bool) (sent : Sent) :
    Moves G ice.view (performCheck ice ckid nominate sent).1.view := by
  unfold performCheck
  cases sent with
  | createFailed status => exact .refl
  | sendFailed status => exact setCheck_moves ⟨⟨rfl, rfl, rfl, rfl⟩, .inr rfl⟩
  | ok =>
    have hsend := Move.send (G := G) ice.view ckid
      ({ ice.clist.checks ckid with
        nominated := (ice.clist.checks ckid).nominated || (decide (ice.role = IceRole.Role.controlling) && nominate)
        }.setState .inProgress pjSuccess)
      (ice.lcand (ice.clist.checks ckid).lcand).transportId (decide (ice.role = IceRole.Role.controlling))
      ⟨rfl, rfl, rfl, rfl⟩
    exact .single hsend

variable (t : Tsx)

lemma mappedCand_moves (lcand : Cand) (mapped : SockAddr) :
    Moves G ice.view (mappedCand ice t lcand mapped).1.view := by
  unfold mappedCand
  split
  · exact .refl
  · exact addCand_moves

lemma succeedCheck_moves (i : ℕ) (srcAddr : SockAddr) (mapped : Option SockAddr) :
    Moves G ice.view (succeedCheck ice t i srcAddr mapped).view := by
  unfold succeedCheck
  dsimp only
  split_ifs
  · cases mapped with
    | none => exact failCheck_moves _ _
    | some mapped =>
      have hcand : Moves G ice.view (mappedCand ice t (ice.lcand (ice.clist.checks i).lcand) mapped).1.view :=
        mappedCand_moves t _ mapped
      dsimp only
      revert hcand
      rcases mappedCand ice t (ice.lcand (ice.clist.checks i).lcand) mapped with ⟨ice', status | l⟩
      · exact fun hcand => hcand.trans (failCheck_moves _ _)
      · exact fun hcand => hcand.trans (addValid_moves _ _)
  · exact failCheck_moves _ _

lemma completeCheck_moves (i : ℕ) (response : Response) (sent : Sent) :
    Moves G ice.view (completeCheck ice t i response sent).view := by
  unfold completeCheck
  dsimp only
  have hdone : Moves G ice.view (ice.setCheck i { ice.clist.checks i with tdata := none }).view :=
    setCheck_moves ⟨⟨rfl, rfl, rfl, rfl⟩, .inr rfl⟩
  cases response with
  | roleConflict =>
    refine hdone.trans (Moves.trans ?_ (performCheck_moves i _ sent))
    exact setCheck_moves (Touched.setState _ _ _)
  | error status => exact hdone.trans (failCheck_moves _ _)
  | success srcAddr mapped => exact hdone.trans (succeedCheck_moves t i srcAddr mapped)

lemma onStunRequestComplete_moves (response : Response) (sent : Sent) :
    Moves G ice.view (onStunRequestComplete ice t response sent).view := by
  unfold onStunRequestComplete
  split_ifs
  · exact .refl
  · cases completedCheck ice t with
    | some i => exact completeCheck_moves t i response sent
    | none => exact setCheck_moves ⟨⟨rfl, rfl, rfl, rfl⟩, .inr rfl⟩

lemma stunComplete_moves (tdata : ℕ) (response : Response) (sent : Sent) :
    Moves G ice.view (stunComplete ice tdata response sent).view := by
  unfold stunComplete
  cases ice.pending.find? fun t => decide (t.tdata = tdata) with
  | none => exact .refl
  | some t =>
    refine Moves.trans (Moves.shift ?_) (onStunRequestComplete_moves t response sent)
    exact Shifts.of_touched le_rfl (fun _ => Touched.refl _) (fun t ht => (List.mem_filter.1 ht).1) rfl ⟨rfl, rfl⟩
      ⟨rfl, rfl⟩ rfl rfl

def Ice.afterRound (ice : Ice) (i j : ℕ) : Ice :=
  { ice with
    toPairing := (pairCands ice.toPairing i j).1
    log := ice.log ++ (pairCands ice.toPairing i j).2.added.toList.map .paired }

lemma round_moves {j : ℕ} (hi : i < ice.lcandCnt) (hj : j < ice.rcandCnt)
    (hG : ∀ s ∈ Round.start ⟨ice.toPairing, i, j⟩, G.pair s i j) : Moves G ice.view (ice.afterRound i j).view := by
  unfold Ice.afterRound pairCands
  unfold Round.start Round.prio at hG
  dsimp only at hG
  by_cases hfull : maxChecks ≤ ice.clist.count
  · rw [if_pos hfull] at hG ⊢
    have hdiscard : Moves G ice.view { ice with toPairing :=
        (discardCheck ice.toPairing (calcCheckPrio ice.role (ice.lcand i).prio (ice.rcand j).prio)).1 }.view :=
      discardCheck_moves _ (lt_of_lt_of_le (by decide) hfull)
    revert hG hdiscard
    generalize discardCheck ice.toPairing _ = d
    obtain ⟨s, v⟩ := d
    intro hG hdiscard
    cases v with
    | none =>
      have hlog : ice.log = ice.log ++ (none : Option Check).toList.map .paired := (List.append_nil _).symm
      refine hdiscard.trans (Moves.of_eq ?_)
      dsimp only
      rw [← hlog]
    | some v => exact hdiscard.tail (.pair { ice with toPairing := s } i j hi hj (hG s rfl))
  · rw [if_neg hfull] at hG ⊢
    exact .single (.pair ice i j hi hj (hG _ rfl))

def Ice.afterRounds (ice : Ice) (l : List (ℕ × ℕ)) : Ice :=
  { ice with
    toPairing := (pairAll ice.toPairing l).1
    log := ice.log ++ ((pairAll ice.toPairing l).2.filterMap PairResult.added).map .paired }

lemma Ice.afterRounds_cons (i j : ℕ) (l : List (ℕ × ℕ)) :
    ice.afterRounds ((i, j) :: l) = (ice.afterRound i j).afterRounds l := by
  unfold afterRounds afterRound
  have hadded : ∀ (r : PairResult) (rs : List PairResult),
      (r :: rs).filterMap PairResult.added = r.added.toList ++ rs.filterMap PairResult.added := by
    intro r rs
    rw [List.filterMap_cons]
    cases r.added <;> rfl
  simp only [pairAll]
  rw [hadded, List.map_append, List.append_assoc]

lemma rounds_moves (l : List (ℕ × ℕ)) : ∀ ice : Ice, (∀ p ∈ l, p.1 < ice.lcandCnt ∧ p.2 < ice.rcandCnt) →
    (∀ x ∈ rounds ice.toPairing l, ∀ s ∈ x.start, G.pair s x.i x.j) → Moves G ice.view (ice.afterRounds l).view := by
  induction l with
  | nil =>
    intro ice _ _
    exact Moves.of_eq (congrArg (fun log => { ice.view with log := log }) (List.append_nil ice.log))
  | cons p l ih =>
    intro ice hlt hG
    obtain ⟨i, j⟩ := p
    rw [rounds, List.forall_mem_cons] at hG
    rw [List.forall_mem_cons] at hlt
    rw [Ice.afterRounds_cons]
    exact (round_moves hlt.1.1 hlt.1.2 hG.1).trans (ih (ice.afterRound i j) hlt.2 hG.2)

lemma indices_lt {p : ℕ × ℕ} (h : p ∈ ice.indices) : p.1 < ice.lcandCnt ∧ p.2 < ice.rcandCnt := by
  unfold Ice.indices pairIndices at h
  obtain ⟨i, hi, hp⟩ := List.mem_flatMap.1 h
  obtain ⟨j, hj, rfl⟩ := List.mem_map.1 hp
  rw [List.mem_range'_1] at hj
  exact ⟨List.mem_range.1 hi, by dsimp only; omega⟩

lemma pairCandidates_moves (hG : ∀ x ∈ rounds ice.toPairing ice.indices, ∀ s ∈ x.start, G.pair s x.i x.j) :
    Moves G ice.view (pairCandidates ice).1.view :=
  rounds_moves ice.indices ice (fun _ hp => indices_lt hp) hG

lemma finishUpdate_moves (trickleDone : Bool) : Moves G ice.view (finishUpdate ice trickleDone).view := by
  unfold finishUpdate
  dsimp only
  have hcomps : ∀ comps : List Comp, Moves G ice.view { ice with comps := comps }.view :=
    fun comps => validList_moves ice.validList comps
  split_ifs
  · exact (hcomps _).trans checkIceComplete_moves
  · exact (hcomps _).trans checkIceComplete_moves
  · exact hcomps _
  · exact hcomps _
  · exact .refl
  · exact .refl

def addPrunes (ice : Ice) (rem : List Cand) (trickleDone : Bool) : List Ice :=
  let r := pairCandidates (rem.foldl saveRcand ice)
  if (r.1.clist.count = 0 ∧ trickleDone) ∨ ¬ r.2 then []
  else [sortChecks (markPaired r.1)]

lemma addRcandAndUpdateChecklist_moves (trickleDone : Bool)
    (hpair : ∀ x ∈ addRounds ice rem, ∀ s ∈ x.start, G.pair s x.i x.j)
    (hprune : ∀ p ∈ addPrunes ice rem trickleDone, G.prune p) :
    Moves G ice.view (addRcandAndUpdateChecklist ice rem trickleDone).1.view := by
  have hpaired : Moves G ice.view (markPaired (pairCandidates (rem.foldl saveRcand ice)).1).view :=
    (saveRcands_moves rem ice).trans (pairCandidates_moves hpair)
  unfold addPrunes at hprune
  unfold addRcandAndUpdateChecklist
  dsimp only at hprune ⊢
  by_cases hempty : (pairCandidates (rem.foldl saveRcand ice)).1.clist.count = 0 ∧ trickleDone
  · rw [if_pos hempty]
    exact hpaired
  · rw [if_neg hempty]
    by_cases hadded : (pairCandidates (rem.foldl saveRcand ice)).2 = true
    · rw [if_pos hadded]
      rw [if_neg (not_or.2 ⟨hempty, not_not.2 hadded⟩), List.forall_mem_singleton] at hprune
      have hpruned := (hpaired.trans sortChecks_moves).tail (.prune _ hprune)
      split_ifs
      · exact hpruned.trans (finishUpdate_moves trickleDone)
      · exact hpruned
    · rw [if_neg hadded]
      exact hpaired.trans (finishUpdate_moves trickleDone)

lemma betterLcand_cases {best : Option ℕ} {b : ℕ} (h : betterLcand ice rcheck best i = some b) :
    b = i ∨ best = some b := by
  unfold betterLcand at h
  split_ifs at h
  · cases best with
    | none => exact .inl (Option.some.inj h).symm
    | some b' =>
      dsimp only at h
      split_ifs at h
      · exact .inl (Option.some.inj h).symm
      · exact .inr h
  · exact .inr h

lemma findLcand_lt {l : ℕ} (h : findLcand ice rcheck = some l) : l < ice.lcandCnt := by
  have hfold : ∀ (is : List ℕ) (best : Option ℕ), (∀ i ∈ is, i < ice.lcandCnt) → (∀ b, best = some b → b < ice.lcandCnt) →
      ∀ l, is.foldl (betterLcand ice rcheck) best = some l → l < ice.lcandCnt := by
    intro is
    induction is with
    | nil => exact fun best _ hbest l hl => hbest l hl
    | cons i is ih =>
      intro best his hbest l hl
      rw [List.forall_mem_cons] at his
      refine ih _ his.2 (fun b hb => ?_) l hl
      rcases betterLcand_cases hb with rfl | hb
      · exact his.1
      · exact hbest b hb
  exact hfold _ none (fun i hi => List.mem_range.1 hi) (fun b hb => by cases hb) l h

/-- What `handle_incoming_check` finds is reached by moves and has candidates of the session. -/
def Incoming.Found (G : Guard) (v : View) : Incoming → Prop
  | .ignored ice => Moves G v ice.view
  | .old ice _ => Moves G v ice.view
  | .new ice l r => Moves G v ice.view ∧ l < ice.lcandCnt ∧ r < ice.rcandCnt

lemma incoming_found (rcheck : RxCheck) : (incoming ice rcheck).Found G ice.view := by
  unfold incoming
  by_cases hc : ice.isComplete = true
  · rw [if_pos hc]
    exact Relation.ReflTransGen.refl
  · rw [if_neg hc]
    cases hr : findRcand ice rcheck with
    | none => exact Relation.ReflTransGen.refl
    | some p =>
      obtain ⟨ice', r⟩ := p
      obtain ⟨hmoves, hlt⟩ := findRcand_moves (G := G) hr
      dsimp only
      cases hl : findLcand ice' rcheck with
      | none => exact hmoves
      | some l =>
        dsimp only
        cases findFrom (fun i => decide ((ice'.clist.checks i).lcand = l ∧ (ice'.clist.checks i).rcand = r))
            ice'.clist.count 0 with
        | some i => exact hmoves
        | none =>
          dsimp only
          by_cases hroom : ice'.clist.count < maxChecks
          · rw [if_pos hroom]
            exact ⟨hmoves, findLcand_lt hl, hlt⟩
          · rw [if_neg hroom]
            exact hmoves

lemma nominateValid_moves (k : ℕ) : ∀ (j : ℕ) (ice : Ice),
    Moves G ice.view (nominateValid c k j ice).view := by
  induction k with
  | zero => exact fun _ _ => .refl
  | succ k ih =>
    intro j ice
    unfold nominateValid
    dsimp only
    split_ifs
    · exact (validList_moves _ _).trans (ih (j + 1) _)
    · exact ih (j + 1) ice

lemma triggerOld_moves (i : ℕ) (useCandidate : Bool) (sent : Sent) :
    Moves G ice.view (triggerOld ice i useCandidate sent).view := by
  unfold triggerOld
  dsimp only
  have hmark : Moves G ice.view (ice.setCheck i { ice.clist.checks i with
      nominated := useCandidate || (ice.clist.checks i).nominated }).view :=
    setCheck_moves ⟨⟨rfl, rfl, rfl, rfl⟩, .inl rfl⟩
  split_ifs
  · exact hmark
  · exact hmark.trans (performCheck_moves _ _ _)
  · exact hmark.trans ((nominateValid_moves _ _ _ _).trans (onCheckComplete_moves _))
  · exact hmark.trans (onCheckComplete_moves _)
  · exact hmark

lemma triggerNew_moves {l r : ℕ} (hl : l < ice.lcandCnt) (hr : r < ice.rcandCnt) (hG : G.trigger ice l r)
    (useCandidate : Bool) (sent : Sent) : Moves G ice.view (triggerNew ice l r useCandidate sent).view := by
  have hplace : Moves G ice.view (placeTriggered ice l r useCandidate).view := .single (.trigger ice l r _ hl hr hG)
  unfold triggerNew
  dsimp only
  split_ifs
  · exact hplace.trans sortChecks_moves
  · exact hplace.trans ((performCheck_moves _ _ _).trans sortChecks_moves)

structure Trigger where
  before : Ice
  l : ℕ
  r : ℕ

def triggers (ice : Ice) (rcheck : RxCheck) : List Trigger :=
  match incoming ice rcheck with
  | .new ice l r => [⟨ice, l, r⟩]
  | _ => []

lemma handleIncomingCheck_moves (rcheck : RxCheck) (sent : Sent)
    (hG : ∀ x ∈ triggers ice rcheck, G.trigger x.before x.l x.r) :
    Moves G ice.view (handleIncomingCheck ice rcheck sent).view := by
  have hfound : (incoming ice rcheck).Found G ice.view := incoming_found rcheck
  unfold triggers at hG
  unfold handleIncomingCheck
  revert hG hfound
  cases incoming ice rcheck with
  | ignored ice' => exact fun _ h => h
  | old ice' i => exact fun _ h => h.trans (triggerOld_moves i _ _)
  | new ice' l r =>
    intro hG h
    rw [List.forall_mem_singleton] at hG
    exact h.1.trans (triggerNew_moves h.2.1 h.2.2 hG _ _)

def earlyTriggers (ice : Ice) (sents : ℕ → Sent) : ℕ → List RxCheck → List Trigger
  | _, [] => []
  | n, rcheck :: rest =>
    triggers ice rcheck ++ earlyTriggers (handleIncomingCheck ice rcheck (sents n)) sents (n + 1) rest

lemma performEarly_moves (sents : ℕ → Sent) (rchecks : List RxCheck) : ∀ (n : ℕ) (ice : Ice),
    (∀ x ∈ earlyTriggers ice sents n rchecks, G.trigger x.before x.l x.r) →
    Moves G ice.view (performEarly ice sents n rchecks).view := by
  induction rchecks with
  | nil => exact fun _ _ _ => .refl
  | cons rcheck rest ih =>
    intro n ice hG
    rw [earlyTriggers, List.forall_mem_append] at hG
    exact (handleIncomingCheck_moves rcheck (sents n) hG.1).trans (ih (n + 1) _ hG.2)

lemma performNext_moves (i : ℕ) (sent : Sent) : Moves G ice.view (performNext ice i sent).view := by
  have hperform : Moves G ice.view (performCheck ice i ice.isNominating sent).1.view := performCheck_moves _ _ _
  unfold performNext
  revert hperform
  rcases performCheck ice i ice.isNominating sent with ⟨ice', _ | status⟩
  · exact fun h => h
  · exact fun h => h.trans ((setCheck_moves (Touched.setState _ _ _)).trans (onCheckComplete_moves i))

lemma startPeriodicCheck_moves (sent : Sent) : Moves G ice.view (startPeriodicCheck ice sent).view := by
  have hrun : ∀ ice : Ice, (runTimer ice).view = ice.view := fun _ => rfl
  unfold startPeriodicCheck
  dsimp only
  split
  · exact .refl
  · rw [hrun]
    refine Moves.trans ?_ (performNext_moves _ _)
    exact .refl

lemma unfreezeFoundation_moves (foundationIdx : ℕ) : Moves G ice.view (unfreezeFoundation ice foundationIdx).view := by
  unfold unfreezeFoundation
  split
  · exact .refl
  · exact setCheck_moves (Touched.setState _ _ _)

lemma unfreezeFoundations_moves : Moves G ice.view (unfreezeFoundations ice).view := by
  have hfold : ∀ (is : List ℕ) (ice : Ice), Moves G ice.view (is.foldl unfreezeFoundation ice).view := by
    intro is
    induction is with
    | nil => exact fun _ => .refl
    | cons i is ih => exact fun ice => (unfreezeFoundation_moves i).trans (ih _)
  exact hfold _ { ice with isNominating := ice.isNominating || ice.aggressive }

lemma onTimer_moves : Moves G ice.view (onTimer ice).view := by
  unfold onTimer
  dsimp only
  cases ice.timer with
  | none => exact .refl
  | completionCallback =>
    refine Moves.shift ⟨⟨id, fun _ => Touched.refl _, fun _ hp => hp⟩, rfl, le_rfl, fun _ _ => rfl, le_rfl,
      fun _ _ => rfl, fun _ ht => ht, rfl, [.iceComplete ice.iceStatus], rfl, fun r hr => ?_⟩
    exact ⟨_, List.mem_singleton.1 hr⟩
  | controlledWaitNom => exact Moves.of_eq (onIceComplete_view _)
  | waitValidPair =>
    dsimp only
    split_ifs
    · exact Moves.of_eq (onIceComplete_view _)
    · refine Moves.trans ?_ checkIceComplete_moves
      exact .refl
  | startNominatedCheck =>
    refine Moves.trans ?_ startNominatedCheck_moves
    exact .refl
  | keepAlive => exact .refl

lemma endOfCandIndTimer_moves : Moves G ice.view (endOfCandIndTimer ice).view := by
  unfold endOfCandIndTimer
  dsimp only
  split_ifs
  · refine Moves.trans ?_ checkIceComplete_moves
    exact .refl
  · exact .refl

def stepTriggers (ice : Ice) : Event → List Trigger
  | .startCheck sents =>
    if ice.clist.count = 0 ∧ ¬ ice.isTrickling then []
    else earlyTriggers (unfreezeFoundations ice) sents 0 (unfreezeFoundations ice).earlyCheck
  | .rxRequest attr rcheck _ =>
    let r := IceRole.repairRole ⟨ice.role, ice.tieBreaker, ice.isComplete, false, [], 0⟩ attr
    if r.2 = .roleConflict ∨ ¬ ice.txUfrag then [] else triggers { ice with role := r.1.role } rcheck
  | _ => []

def stepPrunes (ice : Ice) (e : Event) : List Ice :=
  match pairingStart ice e with
  | some (ice, rem, trickleDone) => addPrunes ice rem trickleDone
  | none => []

structure Guard.Step (G : Guard) (ice : Ice) (e : Event) : Prop where
  pair : ∀ x ∈ stepRounds ice e, ∀ s ∈ x.start, G.pair s x.i x.j
  trigger : ∀ x ∈ stepTriggers ice e, G.trigger x.before x.l x.r
  prune : ∀ p ∈ stepPrunes ice e, G.prune p

instance (G : Guard) [∀ s i j, Decidable (G.pair s i j)] [∀ ice l r, Decidable (G.trigger ice l r)]
    [∀ ice, Decidable (G.prune ice)] (ice : Ice) (e : Event) : Decidable (G.Step ice e) :=
  decidable_of_iff ((∀ x ∈ stepRounds ice e, ∀ s ∈ x.start, G.pair s x.i x.j) ∧
      (∀ x ∈ stepTriggers ice e, G.trigger x.before x.l x.r) ∧ ∀ p ∈ stepPrunes ice e, G.prune p)
    ⟨fun h => ⟨h.1, h.2.1, h.2.2⟩, fun h => ⟨h.pair, h.trigger, h.prune⟩⟩

lemma startChecklist_moves : Moves G ice.view (startChecklist ice).view :=
  Moves.shift (Shifts.of_touched (Nat.zero_le _) (fun _ => Touched.refl _) (fun _ ht => ht) rfl ⟨rfl, rfl⟩ ⟨rfl, rfl⟩
    rfl rfl)

lemma createCheckList_moves (credsOk : Bool) (hG : G.Step ice (.createCheckList rem credsOk)) :
    Moves G ice.view (createCheckList ice rem credsOk).view := by
  have hpair := hG.pair
  have hprune := hG.prune
  unfold stepRounds pairingStart at hpair
  unfold stepPrunes pairingStart at hprune
  dsimp only at hpair hprune
  unfold createCheckList
  by_cases hrefused : ice.txUfrag ∨ ¬ credsOk
  · rw [if_pos hrefused]
  · rw [if_neg hrefused]
    by_cases hcands : 0 < ice.lcandCnt ∧ rem ≠ []
    · rw [if_neg (not_or.2 ⟨hrefused, not_not.2 hcands⟩)] at hpair hprune
      rw [if_pos hcands]
      exact startChecklist_moves.trans (addRcandAndUpdateChecklist_moves rem _ hpair hprune)
    · rw [if_neg hcands]
      exact startChecklist_moves

lemma updateCheckList_moves (trickleDone credsMatch : Bool)
    (hG : G.Step ice (.updateCheckList rem trickleDone credsMatch)) :
    Moves G ice.view (updateCheckList ice rem trickleDone credsMatch).view := by
  have hpair := hG.pair
  have hprune := hG.prune
  unfold stepRounds pairingStart at hpair
  unfold stepPrunes pairingStart at hprune
  dsimp only at hpair hprune
  unfold updateCheckList
  by_cases hnone : ¬ ice.txUfrag
  · rw [if_pos hnone]
  · rw [if_neg hnone]
    by_cases hlate : ¬ ice.isTrickling ∧ rem ≠ []
    · rw [if_pos hlate]
    · rw [if_neg (not_or.2 ⟨hnone, hlate⟩)] at hpair hprune
      rw [if_neg hlate]
      exact addRcandAndUpdateChecklist_moves _ _ hpair hprune

lemma rxRequest_moves (attr : Option (IceRole.RoleAttr × UInt64)) (rcheck : RxCheck) (sent : Sent)
    (hG : ∀ x ∈ stepTriggers ice (.rxRequest attr rcheck sent), G.trigger x.before x.l x.r) :
    Moves G ice.view (onStunRxRequest ice attr rcheck sent).view := by
  unfold stepTriggers at hG
  unfold onStunRxRequest
  dsimp only at hG ⊢
  generalize IceRole.repairRole ⟨ice.role, ice.tieBreaker, ice.isComplete, false, [], 0⟩ attr = r at hG ⊢
  by_cases hconflict : r.2 = .roleConflict
  · rw [if_pos hconflict]
    exact .refl
  · rw [if_neg hconflict]
    by_cases hearly : ¬ ice.txUfrag
    · rw [if_pos hearly]
      exact .refl
    · rw [if_neg (not_or.2 ⟨hconflict, hearly⟩)] at hG
      rw [if_neg hearly]
      exact handleIncomingCheck_moves rcheck sent hG

lemma startCheck_moves (sents : ℕ → Sent)
    (hG : ∀ x ∈ stepTriggers ice (.startCheck sents), G.trigger x.before x.l x.r) :
    Moves G ice.view (startCheck ice sents).view := by
  unfold stepTriggers at hG
  dsimp only at hG
  unfold startCheck
  by_cases hnone : ice.clist.count = 0 ∧ ¬ ice.isTrickling
  · rw [if_pos hnone]
  · rw [if_neg hnone] at hG ⊢
    exact unfreezeFoundations_moves.trans (performEarly_moves sents _ 0 _ hG)

lemma step_moves (ice : Ice) (e : Event) (hG : G.Step ice e) : Moves G ice.view (step ice e).view := by
  cases e with
  | addCand compId transportId type localPref foundation addr baseAddr => exact addCand_moves
  | createCheckList rem credsOk => exact createCheckList_moves rem credsOk hG
  | updateCheckList rem trickleDone credsMatch => exact updateCheckList_moves rem trickleDone credsMatch hG
  | startCheck sents => exact startCheck_moves sents hG.trigger
  | periodicTimer sent =>
    unfold step
    dsimp only
    split_ifs
    · exact startPeriodicCheck_moves sent
    · exact .refl
  | rxRequest attr rcheck sent => exact rxRequest_moves attr rcheck sent hG.trigger
  | stunComplete tdata response sent => exact stunComplete_moves tdata response sent
  | timer =>
    unfold step
    dsimp only
    split_ifs
    · exact .refl
    · exact onTimer_moves
  | endOfCandTimer =>
    unfold step
    dsimp only
    split_ifs
    · exact endOfCandIndTimer_moves
    · exact .refl
  | changeRole role => exact .refl

lemma Guard.run_invariant {Inv : View → Prop} (hmove : ∀ v v', Move G v v' → Inv v → Inv v') {es : List Event}
    (h0 : Inv ice.view) (h : Transition.Guarded step G.Step ice es) : Inv (Transition.run step ice es).view := by
  have hmoves : ∀ v v', Moves G v v' → Inv v → Inv v' := by
    intro v v' hm hv
    induction hm with
    | refl => exact hv
    | tail _ hstep ih => exact hmove _ _ hstep ih
  have hstep : ∀ (ice : Ice) (e : Event), Inv ice.view → G.Step ice e → Inv (step ice e).view :=
    fun ice e hi hG => hmoves _ _ (step_moves ice e hG) hi
  exact @Transition.Guarded.invariant _ _ step G.Step (fun ice => Inv ice.view) hstep es ice h0 h

end PjProject.IceSession
