import PjProject.IceMoves

/-!
# The completion of a transaction

A transaction is completed for the check that it was sent for, wherever that is by then, and the other
checks change by the rules of `on_check_complete` only.
-/
namespace PjProject.IceSession
open Transition

/-- The check of a completed transaction, as `on_check_complete` gets it. -/
def Ended (c done : Check) : Prop :=
  ∃ st errCode, (st = .succeeded ∧ errCode = pjSuccess ∨ st = .failed ∧ errCode ≠ pjSuccess) ∧
    done = { c with tdata := none }.setState st errCode

def Ice.Renominates (ice : Ice) (c : Check) : Prop := ice.isNominating = true ∧ ice.view.Valid c

def OthersRuled (i : ℕ) (done : Check) (checks : ℕ → Check) (ice' : Ice) : Prop :=
  ∀ p, p ≠ i → Rules done ice'.lcand ice'.Renominates (checks p) (ice'.clist.checks p)

variable {ice : Ice} {t : Tsx} {i : ℕ}

lemma complete_othersRuled (i : ℕ) (done : Check) :
    OthersRuled i done ice.clist.checks (onCheckComplete (ice.setCheck i done) i).1 := by
  have h := onCheckComplete_inPlace (ice.setCheck i done) i
  have hself : (ice.setCheck i done).clist.checks i = done := Function.update_self _ _ _
  rw [hself] at h
  have hlcand : (onCheckComplete (ice.setCheck i done) i).1.lcand = (ice.setCheck i done).lcand :=
    congrArg View.lcand h.same
  intro p hp
  have hother : (ice.setCheck i done).clist.checks p = ice.clist.checks p := Function.update_of_ne hp _ _
  have hrules := h.checks p
  rw [hlcand]
  have hrules : Rules done (ice.setCheck i done).lcand
      (fun c => (onCheckComplete (ice.setCheck i done) i).1.isNominating ∧ (ice.setCheck i done).view.Valid c)
      ((ice.setCheck i done).clist.checks p) ((onCheckComplete (ice.setCheck i done) i).1.clist.checks p) := hrules
  rw [hother] at hrules
  refine hrules.mono fun c hc => ⟨hc.1, ?_⟩
  exact (View.Valid.congr h (fun _ _ _ => Rules.samePair) c).2 hc.2

variable {c : Check}

lemma failCheck_othersRuled (hc : ice.clist.checks i = { c with tdata := none }) {status : ℕ}
    (hstatus : status ≠ pjSuccess) : ∃ done, Ended c done ∧ OthersRuled i done ice.clist.checks (failCheck ice i status) := by
  refine ⟨_, ⟨.failed, status, .inr ⟨rfl, hstatus⟩, rfl⟩, ?_⟩
  rw [← hc]
  exact complete_othersRuled i _

lemma mappedCand_checks (lcand : Cand) (mapped : SockAddr) :
    (mappedCand ice t lcand mapped).1.clist = ice.clist ∧
      ∀ status, (mappedCand ice t lcand mapped).2 = .error status → status ≠ pjSuccess := by
  unfold mappedCand
  split
  · exact ⟨rfl, fun status h => by cases h⟩
  · unfold addCand
    dsimp only
    split_ifs
    · exact ⟨rfl, fun status h => by cases h; decide⟩
    · exact ⟨rfl, fun status h => by cases h; decide⟩
    · split
      · exact ⟨rfl, fun status h => by cases h⟩
      · exact ⟨rfl, fun status h => by cases h⟩
    · exact ⟨rfl, fun status h => by cases h⟩

lemma succeedCheck_othersRuled (hc : ice.clist.checks i = { c with tdata := none }) (srcAddr : SockAddr)
    (mapped : Option SockAddr) :
    ∃ done, Ended c done ∧ OthersRuled i done ice.clist.checks (succeedCheck ice t i srcAddr mapped) := by
  unfold succeedCheck
  dsimp only
  split_ifs
  · cases mapped with
    | none => exact failCheck_othersRuled hc (by decide)
    | some mapped =>
      have hcand := @mappedCand_checks ice t (ice.lcand (ice.clist.checks i).lcand) mapped
      dsimp only
      revert hcand
      rcases mappedCand ice t (ice.lcand (ice.clist.checks i).lcand) mapped with ⟨ice', status | l⟩
      · intro hcand
        have hsame : ice'.clist = ice.clist := hcand.1
        rw [← hsame] at hc ⊢
        exact failCheck_othersRuled hc (hcand.2 status rfl)
      · intro hcand
        have hsame : ice'.clist = ice.clist := hcand.1
        rw [← hsame] at hc ⊢
        refine ⟨_, ⟨.succeeded, pjSuccess, .inl ⟨rfl, rfl⟩, rfl⟩, ?_⟩
        rw [← hc]
        exact complete_othersRuled i _
  · exact failCheck_othersRuled hc (by decide)

lemma performCheck_other {p : ℕ} (hp : p ≠ i) (nominate : Bool) (sent : Sent) :
    (performCheck ice i nominate sent).1.clist.checks p = ice.clist.checks p := by
  unfold performCheck
  cases sent with
  | createFailed status => rfl
  | sendFailed status => exact Function.update_of_ne hp _ _
  | ok => exact Function.update_of_ne hp _ _

lemma completeCheck_othersRuled (t : Tsx) (i : ℕ) {response : Response} (sent : Sent)
    (herr : ∀ status, response = .error status → status ≠ pjSuccess) :
    ∃ done, Ended (ice.clist.checks i) done ∧
      OthersRuled i done ice.clist.checks (completeCheck ice t i response sent) := by
  unfold completeCheck
  dsimp only
  generalize hice1 : ice.setCheck i { ice.clist.checks i with tdata := none } = ice1
  have hself : ice1.clist.checks i = { ice.clist.checks i with tdata := none } := by
    rw [← hice1]
    exact Function.update_self _ _ _
  have hother : ∀ p, p ≠ i → ice1.clist.checks p = ice.clist.checks p := by
    intro p hp
    rw [← hice1]
    exact Function.update_of_ne hp _ _
  have hlift : ∀ ice', (∃ done, Ended (ice.clist.checks i) done ∧ OthersRuled i done ice1.clist.checks ice') →
      ∃ done, Ended (ice.clist.checks i) done ∧ OthersRuled i done ice.clist.checks ice' := by
    rintro ice' ⟨done, hended, hruled⟩
    refine ⟨done, hended, fun p hp => ?_⟩
    rw [← hother p hp]
    exact hruled p hp
  cases response with
  | roleConflict =>
    refine ⟨_, ⟨.failed, 1, .inr ⟨rfl, by decide⟩, rfl⟩, fun p hp => ?_⟩
    dsimp only
    rw [performCheck_other hp]
    have hset : ∀ (x : Ice) c, (x.setCheck i c).clist.checks p = x.clist.checks p :=
      fun x c => Function.update_of_ne hp _ _
    rw [hset]
    exact (hother p hp) ▸ Relation.ReflTransGen.refl
  | error status => exact hlift _ (failCheck_othersRuled hself (herr status rfl))
  | success srcAddr mapped => exact hlift _ (succeedCheck_othersRuled hself srcAddr mapped)

/-- A local candidate stands for another one: it is the same, or the host candidate at its base address. -/
def StandsFor (v : View) (l' l : ℕ) : Prop :=
  l' = l ∨ (l < v.lcandCnt ∧ l' < v.lcandCnt ∧ (v.lcand l').type = .host ∧ (v.lcand l').addr = (v.lcand l).baseAddr)

def freeSlots : Guard where
  pair s i j := Compatible (s.lcand i) (s.rcand j) → (s.clist.checks s.clist.count).tdata = none
  trigger ice _ _ := (ice.clist.checks ice.clist.count).tdata = none
  prune _ := True

structure Own (v : View) : Prop where
  lcand : ∀ p, (v.checks p).lcand = 0 ∨ (v.checks p).lcand < v.lcandCnt
  freshPending : ∀ t ∈ v.pending, t.tdata < v.nextTdata
  freshChecks : ∀ p n, (v.checks p).tdata = some n → n < v.nextTdata
  unique : ∀ t ∈ v.pending, ∀ t' ∈ v.pending, t.tdata = t'.tdata → t = t'
  pair : ∀ t ∈ v.pending, ∀ p, (v.checks p).tdata = some t.tdata →
    (v.checks p).rcand = t.rcand ∧ StandsFor v (v.checks p).lcand t.lcand

variable {v v' : View}

lemma StandsFor.grow (hcnt : v.lcandCnt ≤ v'.lcandCnt) (hcand : ∀ i < v.lcandCnt, v'.lcand i = v.lcand i) {l l' : ℕ}
    (h : StandsFor v l' l) : StandsFor v' l' l := by
  rcases h with rfl | ⟨hl, hl', htype, haddr⟩
  · exact .inl rfl
  · refine .inr ⟨lt_of_lt_of_le hl hcnt, lt_of_lt_of_le hl' hcnt, ?_, ?_⟩
    · rw [hcand l' hl']
      exact htype
    · rw [hcand l' hl', hcand l hl]
      exact haddr

lemma StandsFor.base {l l' host : ℕ} (h : StandsFor v l' l) (hlt : l' = 0 ∨ l' < v.lcandCnt)
    (hhost : host = l' ∨ IsBase v.lcand v.lcandCnt l' host) : StandsFor v host l := by
  rcases hhost with rfl | hhost
  · exact h
  · unfold IsBase at hhost
    split_ifs at hhost with htype
    · obtain ⟨hlt', ⟨hhosttype, haddr⟩, -⟩ := hhost
      rcases h with rfl | ⟨-, -, hhost', -⟩
      · exact .inr ⟨by omega, hlt', hhosttype, haddr.symm⟩
      · rw [hhost'] at htype
        rcases htype with htype | htype <;> cases htype
    · rw [hhost]
      exact h

lemma Own.shift (h : Own v) (hs : Shifts v v') : Own v' := by
  obtain ⟨f, hf, -⟩ := hs.moved
  have hold : ∀ p n, (v'.checks p).tdata = some n → (v.checks (f p)).tdata = some n := by
    intro p n hp
    rcases (hf p).tdata with heq | hnone
    · rw [← heq]
      exact hp
    · rw [hnone] at hp
      cases hp
  refine ⟨fun p => ?_, fun t ht => ?_, fun p n hp => ?_, fun t ht t' ht' => ?_, fun t ht p hp => ?_⟩
  · rw [(hf p).lcand]
    exact (h.lcand (f p)).imp_right fun hlt => lt_of_lt_of_le hlt hs.lcandCnt
  · rw [hs.nextTdata]
    exact h.freshPending t (hs.pending t ht)
  · rw [hs.nextTdata]
    exact h.freshChecks (f p) n (hold p n hp)
  · exact h.unique t (hs.pending t ht) t' (hs.pending t' ht')
  · obtain ⟨hr, hl⟩ := h.pair t (hs.pending t ht) (f p) (hold p _ hp)
    rw [(hf p).rcand, (hf p).lcand]
    exact ⟨hr, hl.grow hs.lcandCnt hs.lcand⟩

lemma Own.send (h : Own v) (i : ℕ) (transportId : ℕ) (controlling : Bool)
    (hpair : SamePair (v.checks i) c) : Own (sendRequest v i c transportId controlling) := by
  have hself : (sendRequest v i c transportId controlling).checks i = { c with tdata := some v.nextTdata } :=
    Function.update_self _ _ _
  have hother : ∀ p, p ≠ i → (sendRequest v i c transportId controlling).checks p = v.checks p :=
    fun p hp => Function.update_of_ne hp _ _
  have hnew : ∀ t ∈ v.pending, t.tdata ≠ v.nextTdata := fun t ht => (h.freshPending t ht).ne
  refine ⟨fun p => ?_, fun t ht => ?_, fun p n hn => ?_, fun t ht t' ht' heq => ?_, fun t ht p hp => ?_⟩
  · by_cases hp : p = i
    · rw [hp, hself]
      exact hpair.lcand ▸ h.lcand i
    · rw [hother p hp]
      exact h.lcand p
  · rcases List.mem_cons.1 ht with rfl | ht
    · exact Nat.lt_succ_self _
    · exact Nat.lt_succ_of_lt (h.freshPending t ht)
  · by_cases hp : p = i
    · rw [hp, hself] at hn
      obtain rfl := Option.some.inj hn
      exact Nat.lt_succ_self _
    · rw [hother p hp] at hn
      exact Nat.lt_succ_of_lt (h.freshChecks p n hn)
  · rcases List.mem_cons.1 ht with rfl | ht
    · rcases List.mem_cons.1 ht' with rfl | ht'
      · rfl
      · exact absurd heq.symm (hnew t' ht')
    · rcases List.mem_cons.1 ht' with rfl | ht'
      · exact absurd heq (hnew t ht)
      · exact h.unique t ht t' ht' heq
  · by_cases hpi : p = i
    · rw [hpi, hself] at hp ⊢
      rcases List.mem_cons.1 ht with rfl | ht
      · exact ⟨hpair.rcand, .inl hpair.lcand⟩
      · exact absurd (Option.some.inj hp).symm (hnew t ht)
    · rw [hother p hpi] at hp ⊢
      rcases List.mem_cons.1 ht with rfl | ht
      · exact absurd (h.freshChecks p _ hp) (lt_irrefl _)
      · exact h.pair t ht p hp

lemma Own.write (h : Own v) (i : ℕ) (hl : c.lcand < v.lcandCnt) (hc : c.tdata = none)
    (count : ℕ) (foundation : List (List UInt8)) (log : List Report) :
    Own { v with count := count, checks := Function.update v.checks i c, foundation := foundation, log := log } := by
  have hold : ∀ p n, (Function.update v.checks i c p).tdata = some n → p ≠ i := by
    rintro p n hp rfl
    rw [Function.update_self, hc] at hp
    cases hp
  refine ⟨fun p => ?_, h.freshPending, fun p n hp => ?_, h.unique, fun t ht p hp => ?_⟩
  · dsimp only
    by_cases hp : p = i
    · rw [hp, Function.update_self]
      exact .inr hl
    · rw [Function.update_of_ne hp]
      exact h.lcand p
  · dsimp only at hp
    rw [Function.update_of_ne (hold p n hp)] at hp
    exact h.freshChecks p n hp
  · dsimp only at hp ⊢
    have hne := hold p _ hp
    rw [Function.update_of_ne hne] at hp ⊢
    exact h.pair t ht p hp

lemma addedCheck_lcand (s : Pairing) (i j : ℕ) : (addedCheck s i j).lcand = i := by
  unfold addedCheck
  split_ifs <;> rfl

lemma addedCheck_tdata (s : Pairing) (i j : ℕ) : (addedCheck s i j).tdata = (s.clist.checks s.clist.count).tdata := by
  unfold addedCheck
  split_ifs <;> rfl

lemma Own.placePair (h : Own ice.view) {i j : ℕ} (hi : i < ice.lcandCnt) (hG : freeSlots.pair ice.toPairing i j) :
    Own (placePair ice i j).view := by
  rcases placePair_cases ice i j with ⟨c, hc, heq⟩ | ⟨hadd, heq⟩
  · rw [heq]
    rcases hc with rfl | ⟨hcompat, rfl⟩
    · rw [Function.update_eq_self]
      exact h
    · exact h.write (c := pairCheck ice.toPairing i j) _ hi (hG hcompat) _ _ _
  · rw [heq]
    refine h.write _ ?_ ?_ _ _ _
    · rw [addedCheck_lcand]
      exact hi
    · rw [addedCheck_tdata]
      exact hG hadd.1

lemma Own.prune (h : Own ice.view) : Own (pruneChecks ice).1.view := by
  have hslots := (@pruneChecklist_arranged ice.lcand ice.lcandCnt ice.clist).2
  refine ⟨fun p => ?_, h.freshPending, fun p n hp => ?_, h.unique, fun t ht p hp => ?_⟩
  · obtain ⟨q, host, hhost, heq⟩ := hslots p
    have heq : (pruneChecks ice).1.view.checks p = { ice.clist.checks q with lcand := host } := heq
    rw [heq]
    rcases hhost with rfl | hhost
    · exact h.lcand q
    · unfold IsBase at hhost
      split_ifs at hhost
      · exact .inr hhost.1
      · rw [hhost]
        exact h.lcand q
  · obtain ⟨q, host, -, heq⟩ := hslots p
    have heq : (pruneChecks ice).1.view.checks p = { ice.clist.checks q with lcand := host } := heq
    rw [heq] at hp
    exact h.freshChecks q n hp
  · obtain ⟨q, host, hhost, heq⟩ := hslots p
    have heq : (pruneChecks ice).1.view.checks p = { ice.clist.checks q with lcand := host } := heq
    rw [heq] at hp ⊢
    obtain ⟨hr, hl⟩ := h.pair t ht q hp
    exact ⟨hr, hl.base (h.lcand q) hhost⟩

lemma Own.move {v v' : View} (hm : Move freeSlots v v') (h : Own v) : Own v' := by
  cases hm with
  | shift hs => exact h.shift hs
  | send _ i c transportId controlling hpair => exact h.send i transportId controlling hpair
  | pair ice i j hi hj hG => exact h.placePair hi hG
  | trigger ice l r useCandidate hl hr hG =>
    exact h.write (c := triggeredCheck ice l r useCandidate) _ hl hG _ _ _
  | prune ice hG => exact h.prune

variable (role : IceRole.Role) (compCnt : ℕ) (opt : Options) (tieBreaker : UInt64) (prefs : CandType → UInt32)
  (calcFoundation : CandType → SockAddr → List UInt8) (synthesize : SockAddr → Option SockAddr)

lemma own_create : Own (create role compCnt opt tieBreaker prefs calcFoundation synthesize).view :=
  ⟨fun _ => .inl rfl, fun _ ht => absurd ht List.not_mem_nil, fun _ _ hp => (Option.some_ne_none _ hp.symm).elim,
    fun _ ht => absurd ht List.not_mem_nil, fun _ ht => absurd ht List.not_mem_nil⟩

/-- What is said of the completion of a transaction: it is that of the check of its pair, if there is one,
the others change by the rules for its end, and without one every check keeps its state and its nomination. -/
structure Completes (ice : Ice) (t : Tsx) (ice' : Ice) : Prop where
  complete : ice.isComplete = true → ice'.clist.checks = ice.clist.checks
  found : ∀ i, ice.isComplete = false → completedCheck ice t = some i →
    (ice.clist.checks i).rcand = t.rcand ∧ StandsFor ice.view (ice.clist.checks i).lcand t.lcand ∧
      ∃ done, Ended (ice.clist.checks i) done ∧ OthersRuled i done ice.clist.checks ice'
  missing : ice.isComplete = false → completedCheck ice t = none →
    (∀ p < ice.clist.count, ¬ ((ice.clist.checks p).lcand = t.lcand ∧ (ice.clist.checks p).rcand = t.rcand)) ∧
      ∀ p, (ice'.clist.checks p).state = (ice.clist.checks p).state ∧
        (ice'.clist.checks p).nominated = (ice.clist.checks p).nominated ∧
        (p ≠ t.ckid → ice'.clist.checks p = ice.clist.checks p)

lemma Own.completedCheck (h : Own ice.view) (ht : t ∈ ice.pending) (hi : completedCheck ice t = some i) :
    (ice.clist.checks i).rcand = t.rcand ∧ StandsFor ice.view (ice.clist.checks i).lcand t.lcand := by
  unfold IceSession.completedCheck at hi
  split_ifs at hi with htdata
  · obtain rfl := Option.some.inj hi
    exact h.pair t ht _ htdata
  · obtain ⟨-, -, hpair, -⟩ := findFrom_spec _ hi
    have hpair := of_decide_eq_true hpair
    exact ⟨hpair.2, .inl hpair.1⟩

/-- In every run of a new session that writes pairs into slots without transmit data, the completion of a
transaction is that of its own pair. -/
theorem run_completes (es : List Event) (t : Tsx) (response : Response) (sent : Sent)
    (h : Guarded step freeSlots.Step (create role compCnt opt tieBreaker prefs calcFoundation synthesize) es)
    (ht : t ∈ (run step (create role compCnt opt tieBreaker prefs calcFoundation synthesize) es).pending)
    (herr : ∀ status, response = .error status → status ≠ pjSuccess) :
    Completes (run step (create role compCnt opt tieBreaker prefs calcFoundation synthesize) es) t
      (step (run step (create role compCnt opt tieBreaker prefs calcFoundation synthesize) es)
        (.stunComplete t.tdata response sent)) := by
  have hown := freeSlots.run_invariant (fun _ _ => Own.move) (own_create _ _ _ _ _ _ _) h
  revert ht hown
  generalize run step (create role compCnt opt tieBreaker prefs calcFoundation synthesize) es = ice
  intro ht hown
  have hfind : ice.pending.find? (fun t' => decide (t'.tdata = t.tdata)) = some t := by
    cases hf : ice.pending.find? (fun t' => decide (t'.tdata = t.tdata)) with
    | none => exact absurd rfl (of_decide_eq_false (Bool.eq_false_iff.2 (List.find?_eq_none.1 hf t ht)))
    | some t' =>
      have htdata := List.find?_some (p := fun t' : Tsx => decide (t'.tdata = t.tdata)) hf
      rw [hown.unique t' (List.mem_of_find?_eq_some hf) t ht (of_decide_eq_true htdata)]
  have hstep : step ice (.stunComplete t.tdata response sent) =
      onStunRequestComplete (dropTsx ice t.tdata) t response sent := by
    unfold step stunComplete
    dsimp only
    rw [hfind]
  rw [hstep]
  unfold onStunRequestComplete
  refine ⟨fun hc => ?_, fun i hc hi => ?_, fun hc hnone => ?_⟩
  · have hc' : (dropTsx ice t.tdata).isComplete = true := hc
    rw [if_pos hc']
    rfl
  · obtain ⟨hr, hl⟩ := hown.completedCheck ht hi
    refine ⟨hr, hl, ?_⟩
    have hc' : ¬ (dropTsx ice t.tdata).isComplete = true := Bool.eq_false_iff.1 hc
    have hi' : completedCheck (dropTsx ice t.tdata) t = some i := hi
    rw [if_neg hc', hi']
    exact @completeCheck_othersRuled (dropTsx ice t.tdata) t i response sent herr
  · have hc' : ¬ (dropTsx ice t.tdata).isComplete = true := Bool.eq_false_iff.1 hc
    have hnone' : completedCheck (dropTsx ice t.tdata) t = none := hnone
    rw [if_neg hc', hnone']
    refine ⟨fun p hp hpair => ?_, fun p => ?_⟩
    · unfold completedCheck at hnone
      split_ifs at hnone
      exact of_decide_eq_false ((findFrom_none _).1 hnone p (Nat.zero_le p) (by omega)) hpair
    · simp only [Ice.setCheck]
      by_cases hp : p = t.ckid
      · rw [hp, Function.update_self]
        exact ⟨rfl, rfl, fun hne => absurd rfl hne⟩
      · rw [Function.update_of_ne hp]
        exact ⟨rfl, rfl, fun _ => rfl⟩

instance (s : Pairing) (i j : ℕ) : Decidable (freeSlots.pair s i j) := inferInstanceAs (Decidable (_ → _))

instance (ice : Ice) (l r : ℕ) : Decidable (freeSlots.trigger ice l r) := inferInstanceAs (Decidable (_ = _))

instance (ice : Ice) : Decidable (freeSlots.prune ice) := inferInstanceAs (Decidable True)

def twoIce : Ice :=
  create .controlling 2 ⟨false, false, true, true⟩ 7 (fun _ => 126) (fun _ _ => []) (fun _ => none)

def twoEvents : List Event :=
  [.addCand 1 1 .host 65535 [0x48] ⟨2, [10, 0, 0, 1], 4000⟩ ⟨2, [10, 0, 0, 1], 4000⟩,
    .addCand 2 2 .host 65535 [0x48] ⟨2, [10, 0, 0, 1], 4001⟩ ⟨2, [10, 0, 0, 1], 4001⟩,
    .createCheckList [⟨.host, 1, 1, [0x52], 100, ⟨2, [10, 0, 0, 2], 5000⟩, ⟨2, [], 0⟩⟩,
      ⟨.host, 2, 2, [0x52], 99, ⟨2, [10, 0, 0, 2], 5001⟩, ⟨2, [], 0⟩⟩] true,
    .startCheck fun _ => .ok, .periodicTimer .ok]

def firstTsx : Tsx := ⟨0, 1, 0, 0, 0, true⟩

def firstSuccess : Response := .success ⟨2, [10, 0, 0, 2], 5000⟩ (some ⟨2, [10, 0, 0, 1], 4000⟩)

theorem run_completes_two : Completes (run step twoIce twoEvents) firstTsx
      (step (run step twoIce twoEvents) (.stunComplete firstTsx.tdata firstSuccess .ok)) ∧
    completedCheck (run step twoIce twoEvents) firstTsx = some 0 :=
  ⟨run_completes .controlling 2 ⟨false, false, true, true⟩ 7 (fun _ => 126) (fun _ _ => []) (fun _ => none) twoEvents
    firstTsx firstSuccess .ok (by decide) (by decide) (fun _ h => by cases h), by decide⟩

/-- The success lets the check of the other component go on. -/
theorem success_unfreezes_other : ¬ ∀ (es : List Event) (t : Tsx) (response : Response) (sent : Sent),
    t ∈ (run step twoIce es).pending → ∀ p < (run step twoIce es).clist.count,
        ¬ (((run step twoIce es).clist.checks p).lcand = t.lcand ∧
          ((run step twoIce es).clist.checks p).rcand = t.rcand) →
        ((step (run step twoIce es) (.stunComplete t.tdata response sent)).clist.checks p).state =
          ((run step twoIce es).clist.checks p).state := by
  intro h
  have hother := h twoEvents firstTsx firstSuccess .ok (by decide) 1 (by decide) (by decide)
  exact absurd hother (by decide)

end PjProject.IceSession
