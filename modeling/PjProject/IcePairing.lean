import PjProject.IceChecklistLaw
import PjProject.IceSession

/-!
# Pairing into a full checklist

What one round of the pairing loop evicts and adds, and the rounds of a run of the session.
-/
namespace PjProject.IceSession

def Checklist.records (cl : Checklist) : List Check := (List.range cl.count).map cl.checks

variable (cl : Checklist)

lemma Checklist.length_records : cl.records.length = cl.count := by
  rw [records, List.length_map, List.length_range]

lemma removeCheck_records (k : ℕ) (h : k < cl.count) :
    (removeCheck cl k).records = cl.records.eraseIdx k := by
  have hk : k < cl.records.length := by rwa [cl.length_records]
  apply List.ext_getElem
  · rw [Checklist.length_records, List.length_eraseIdx_of_lt hk, cl.length_records]
    rfl
  · intro n h1 h2
    rw [Checklist.length_records] at h1
    have hn : n < cl.count - 1 := h1
    simp only [Checklist.records, removeCheck, List.getElem_map, List.getElem_range, List.getElem_eraseIdx]
    by_cases hlt : n < k
    · rw [if_neg (by omega), dif_pos hlt]
    · rw [if_pos ⟨by omega, by omega⟩, dif_neg hlt]

lemma removeCheck_perm (k : ℕ) (h : k < cl.count) :
    (cl.checks k :: (removeCheck cl k).records).Perm cl.records := by
  have hk : k < cl.records.length := by rwa [cl.length_records]
  have hget : cl.records[k] = cl.checks k := by simp [Checklist.records]
  rw [removeCheck_records cl k h, ← hget]
  exact List.getElem_cons_eraseIdx_perm hk

lemma sortChecklist_perm (w : Which) (cl : Checklist) (comps : List Comp) :
    (sortChecklist w cl comps).1.records.Perm cl.records := by
  have hsorted := sortChecklist_sorted w cl comps
  rw [Checklist.records, hsorted.count]
  exact hsorted.perm

lemma append_records (c : Check) (f : List (List UInt8)) :
    ({ cl with foundation := f, checks := Function.update cl.checks cl.count c, count := cl.count + 1 } :
      Checklist).records = cl.records ++ [c] := by
  simp only [Checklist.records, List.range_succ, List.map_append, List.map_cons, List.map_nil, Function.update_self]
  congr 1
  refine List.map_congr_left fun p hp => ?_
  rw [Function.update_of_ne (List.mem_range.1 hp).ne]

/-- A full list gives up a check for a pair of a priority: a Failed one, or the one that sorts last
if its priority is smaller. -/
def Evicts (s : Pairing) (prio : Timestamp) : Prop :=
  (∃ k < s.clist.count, (s.clist.checks k).state = .failed) ∨
    ∃ k < s.clist.count, (∀ m < s.clist.count, sortKey (s.clist.checks k) ≤ sortKey (s.clist.checks m)) ∧
      (s.clist.checks k).prio.u64 < prio.u64

lemma findFrom_none {p : ℕ → Bool} (k : ℕ) : ∀ {i : ℕ},
    findFrom p k i = none ↔ ∀ m, i ≤ m → m < i + k → p m = false := by
  induction k with
  | zero =>
    intro i
    exact ⟨fun _ m h1 h2 => by omega, fun _ => rfl⟩
  | succ k ih =>
    intro i
    rw [findFrom]
    constructor
    · intro h m h1 h2
      by_cases hp : p i = true
      · rw [if_pos hp] at h
        cases h
      · rw [if_neg hp, ih] at h
        rcases Nat.eq_or_lt_of_le h1 with rfl | hm
        · exact Bool.eq_false_iff.2 hp
        · exact h m hm (by omega)
    · intro h
      have hi := h i le_rfl (by omega)
      rw [if_neg (by rw [hi]; exact Bool.false_ne_true), ih]
      exact fun m h1 h2 => h m (by omega) (by omega)

lemma cmpTimestamp_neg {t1 t2 : Timestamp} : cmpTimestamp t1 t2 < 0 ↔ t1.u64 < t2.u64 := by
  unfold cmpTimestamp
  split_ifs <;> omega

lemma sortChecklist_last (w : Which) (cl : Checklist) (comps : List Comp) (h : 0 < cl.count) :
    ∃ k < cl.count, (sortChecklist w cl comps).1.checks (cl.count - 1) = cl.checks k ∧
      ∀ m < cl.count, sortKey (cl.checks k) ≤ sortKey (cl.checks m) := by
  obtain ⟨τ, hmoved, -, hsorted⟩ := sortChecklist_moved w cl comps
  obtain ⟨k, hk⟩ := τ.surjective (cl.count - 1)
  have hel := hmoved.elements k
  rw [hk] at hel
  refine ⟨k, (hmoved.lt_iff k).1 (by omega), hel, fun m hm => ?_⟩
  have hm' := (hmoved.lt_iff m).2 hm
  have hle := hsorted (τ m) (cl.count - 1) (by omega) (by omega)
  have helm := hmoved.elements m
  dsimp only at hel helm
  rwa [hel, helm] at hle

/-- What is said of `discard_check`: the rest of the session stays, and a victim is taken from the
records. -/
structure Discarded (s : Pairing) (prio : Timestamp) (r : Pairing × Option Check) : Prop where
  role : r.1.role = s.role
  lcand : r.1.lcand = s.lcand
  rcand : r.1.rcand = s.rcand
  foundation : r.1.clist.foundation = s.clist.foundation
  account : (r.2.toList ++ r.1.clist.records).Perm s.clist.records
  victim : ∀ v, r.2 = some v → v.state = .failed ∨ v.prio.u64 < prio.u64
  evicts : r.2.isSome ↔ Evicts s prio

variable (s : Pairing)

lemma discardCheck_discarded (prio : Timestamp) (h : 0 < s.clist.count) :
    Discarded s prio (discardCheck s prio) := by
  unfold discardCheck
  cases hf : findFrom (fun k => decide ((s.clist.checks k).state = .failed)) s.clist.count 0 with
  | some k =>
    obtain ⟨-, hk, hst, -⟩ := findFrom_spec _ hf
    have hst := of_decide_eq_true hst
    refine ⟨rfl, rfl, rfl, rfl, removeCheck_perm s.clist k (by omega), ?_, ?_⟩
    · intro v hv
      obtain rfl := Option.some.inj hv
      exact .inl hst
    · exact ⟨fun _ => .inl ⟨k, by omega, hst⟩, fun _ => rfl⟩
  | none =>
    have hnone : ¬ ∃ k < s.clist.count, (s.clist.checks k).state = .failed := by
      rintro ⟨k, hk, hst⟩
      exact of_decide_eq_false ((findFrom_none _).1 hf k (Nat.zero_le k) (by omega)) hst
    have hperm := sortChecklist_perm .clist s.clist s.comps
    have hcount := (sortChecklist_sorted .clist s.clist s.comps).count
    obtain ⟨k, hk, hlast, hleast⟩ := sortChecklist_last .clist s.clist s.comps h
    have hevicts : Evicts s prio ↔ (s.clist.checks k).prio.u64 < prio.u64 := by
      constructor
      · rintro (hfailed | ⟨m, hm, hmin, hlt⟩)
        · exact absurd hfailed hnone
        · have heq : sortKey (s.clist.checks k) = sortKey (s.clist.checks m) := le_antisymm (hleast m hm) (hmin k hk)
          have hprio : (s.clist.checks k).prio.u64 = (s.clist.checks m).prio.u64 :=
            (Prod.ext_iff.1 (toLex.injective heq)).2
          rwa [hprio]
      · exact fun hlt => .inr ⟨k, hk, hleast, hlt⟩
    dsimp only
    rw [hcount, hlast]
    by_cases hlt : cmpTimestamp (s.clist.checks k).prio prio < 0
    · rw [if_pos hlt]
      refine ⟨rfl, rfl, rfl, rfl, ?_, ?_, ?_⟩
      · rw [← hlast]
        exact (removeCheck_perm _ _ (by omega)).trans hperm
      · intro v hv
        obtain rfl := Option.some.inj hv
        exact .inr (cmpTimestamp_neg.1 hlt)
      · exact ⟨fun _ => hevicts.2 (cmpTimestamp_neg.1 hlt), fun _ => rfl⟩
    · rw [if_neg hlt]
      have hkeep : ¬ Evicts s prio := fun h => hlt (cmpTimestamp_neg.2 (hevicts.1 h))
      refine ⟨rfl, rfl, rfl, rfl, hperm, fun v hv => ?_, ?_⟩
      · cases hv
      · exact ⟨fun hsome => absurd hsome Bool.false_ne_true, fun h => absurd h hkeep⟩

def Recordable (s : Pairing) (i j : ℕ) : Prop :=
  foundationText (s.lcand i) (s.rcand j) ∈ s.clist.foundation ∨ s.clist.foundation.length < maxChecks

instance (s : Pairing) (i j : ℕ) : Decidable (Recordable s i j) := inferInstanceAs (Decidable (_ ∨ _))

lemma getCheckFoundationIdx_nonneg (i j : ℕ) :
    0 ≤ (getCheckFoundationIdx s.clist.foundation (s.lcand i) (s.rcand j)).2 ↔ Recordable s i j := by
  unfold getCheckFoundationIdx Recordable
  cases hf : s.clist.foundation.findIdx? (fun t => decide (t = foundationText (s.lcand i) (s.rcand j))) with
  | some k =>
    obtain ⟨hk, heq, -⟩ := List.findIdx?_eq_some_iff_getElem.1 hf
    have hmem := List.getElem_mem hk
    rw [of_decide_eq_true heq] at hmem
    exact ⟨fun _ => .inl hmem, fun _ => Int.natCast_nonneg k⟩
  | none =>
    have hnot : foundationText (s.lcand i) (s.rcand j) ∉ s.clist.foundation := by
      intro hmem
      exact of_decide_eq_false (List.findIdx?_eq_none_iff.1 hf _ hmem) rfl
    dsimp only
    by_cases hlt : s.clist.foundation.length < maxChecks
    · rw [if_pos hlt]
      exact ⟨fun _ => .inr hlt, fun _ => Int.natCast_nonneg _⟩
    · rw [if_neg hlt]
      have hneg : ¬ (0 : ℤ) ≤ -1 := by decide
      exact ⟨fun h => absurd h hneg, fun h => absurd h (not_or.2 ⟨hnot, hlt⟩)⟩

structure Added (s : Pairing) (i j : ℕ) (r : Pairing × Option Check) : Prop where
  account : r.1.clist.records = s.clist.records ++ r.2.toList
  pair : ∀ c, r.2 = some c → c.lcand = i ∧ c.rcand = j ∧ 0 ≤ c.foundationIdx ∧
    c.prio = calcCheckPrio s.role (s.lcand i).prio (s.rcand j).prio
  adds : r.2.isSome ↔ Compatible (s.lcand i) (s.rcand j) ∧ Recordable s i j

lemma addPair_added (i j : ℕ) : Added s i j (addPair s i j) := by
  have hidx := getCheckFoundationIdx_nonneg s i j
  unfold addPair
  by_cases hc : Compatible (s.lcand i) (s.rcand j)
  · rw [if_neg (not_not.2 hc)]
    dsimp only
    by_cases hneg : (getCheckFoundationIdx s.clist.foundation (s.lcand i) (s.rcand j)).2 < 0
    · rw [if_pos hneg]
      refine ⟨?_, fun c h => ?_, ?_⟩
      · simp only [Checklist.records, Option.toList_none, List.append_nil]
        refine List.map_congr_left fun p hp => ?_
        rw [Function.update_of_ne (List.mem_range.1 hp).ne]
      · cases h
      · exact ⟨fun h => absurd h Bool.false_ne_true, fun h => absurd (hidx.2 h.2) (not_le.2 hneg)⟩
    · rw [if_neg hneg]
      refine ⟨append_records _ _ _, ?_, fun _ => ⟨hc, hidx.1 (not_lt.1 hneg)⟩, fun _ => rfl⟩
      intro c h
      obtain rfl := Option.some.inj h
      split_ifs
      · exact ⟨rfl, rfl, not_lt.1 hneg, rfl⟩
      · exact ⟨rfl, rfl, not_lt.1 hneg, rfl⟩
  · rw [if_pos hc]
    refine ⟨(List.append_nil _).symm, fun c h => ?_, ?_⟩
    · cases h
    · exact ⟨fun h => absurd h Bool.false_ne_true, fun h => absurd h.1 hc⟩

structure Round where
  before : Pairing
  i : ℕ
  j : ℕ

def Round.prio (x : Round) : Timestamp :=
  calcCheckPrio x.before.role (x.before.lcand x.i).prio (x.before.rcand x.j).prio

def Round.after (x : Round) : Pairing := (pairCands x.before x.i x.j).1

def Round.result (x : Round) : PairResult := (pairCands x.before x.i x.j).2

def Round.Addable (x : Round) : Prop :=
  Compatible (x.before.lcand x.i) (x.before.rcand x.j) ∧ Recordable x.before x.i x.j

def Round.Discards (x : Round) : Prop := maxChecks ≤ x.before.clist.count ∧ Evicts x.before x.prio

variable (x : Round)

lemma Round.account :
    (x.result.evicted.toList ++ x.after.clist.records).Perm (x.result.added.toList ++ x.before.clist.records) := by
  unfold result after pairCands
  by_cases hfull : maxChecks ≤ x.before.clist.count
  · rw [if_pos hfull]
    have hd := discardCheck_discarded x.before x.prio (lt_of_lt_of_le (by decide) hfull)
    unfold prio at hd
    revert hd
    generalize discardCheck x.before _ = d
    obtain ⟨s, v⟩ := d
    intro hd
    cases v with
    | none => exact hd.account
    | some v =>
      have ha := (addPair_added s x.i x.j).account
      dsimp only at ha ⊢
      rw [ha, ← List.append_assoc]
      exact (hd.account.append_right _).trans List.perm_append_comm
  · rw [if_neg hfull]
    dsimp only
    rw [(addPair_added x.before x.i x.j).account, Option.toList_none, List.nil_append]
    exact List.perm_append_comm

/-- An eviction is justified: the pair is compatible and its check is added with a recorded foundation
for one that has failed or has a smaller priority; and no check is lost. -/
structure Round.Justified (x : Round) : Prop where
  replaced : ∀ v, x.result.evicted = some v → ∃ c, x.result.added = some c ∧ c.lcand = x.i ∧ c.rcand = x.j ∧
    Compatible (x.before.lcand x.i) (x.before.rcand x.j) ∧ 0 ≤ c.foundationIdx ∧
    (v.state = .failed ∨ v.prio.u64 < c.prio.u64)
  count : x.before.clist.count ≤ x.after.clist.count

lemma Round.discard (h : x.Discards) : ∃ s v,
    Discarded x.before x.prio (s, some v) ∧ x.after = (addPair s x.i x.j).1 ∧
      x.result = ⟨some v, (addPair s x.i x.j).2⟩ := by
  have hd := discardCheck_discarded x.before x.prio (lt_of_lt_of_le (by decide) h.1)
  unfold after result pairCands
  rw [if_pos h.1]
  unfold prio at hd ⊢
  revert hd
  generalize discardCheck x.before _ = d
  obtain ⟨s, v⟩ := d
  intro hd
  cases v with
  | none => cases hd.evicts.2 h.2
  | some v => exact ⟨s, v, hd, rfl, rfl⟩

lemma Round.keep (h : ¬ x.Discards) : x.result.evicted = none := by
  unfold result pairCands
  by_cases hfull : maxChecks ≤ x.before.clist.count
  · rw [if_pos hfull]
    have hd := discardCheck_discarded x.before x.prio (lt_of_lt_of_le (by decide) hfull)
    unfold prio at hd
    revert hd
    generalize discardCheck x.before _ = d
    obtain ⟨s, v⟩ := d
    intro hd
    cases v with
    | none => rfl
    | some v => exact absurd ⟨hfull, hd.evicts.1 rfl⟩ h
  · rw [if_neg hfull]

lemma Round.justified_iff : x.Justified ↔ (x.Discards → x.Addable) := by
  have hlen := x.account.length_eq
  simp only [List.length_append, Checklist.length_records] at hlen
  by_cases h : x.Discards
  · obtain ⟨s, v, hd, hafter, hresult⟩ := x.discard h
    have ha := addPair_added s x.i x.j
    have hadds : (addPair s x.i x.j).2.isSome ↔ x.Addable := by
      rw [ha.adds, Round.Addable, Recordable, Recordable, hd.foundation, hd.lcand, hd.rcand]
    constructor
    · intro hj _
      obtain ⟨c, hc, -⟩ := hj.replaced v (by rw [hresult])
      rw [hresult] at hc
      exact hadds.1 (by rw [show (addPair s x.i x.j).2 = some c from hc]; rfl)
    · intro hok
      have hok := hok h
      obtain ⟨c, hc⟩ := Option.isSome_iff_exists.1 (hadds.2 hok)
      obtain ⟨hl, hr, hidx, hprio⟩ := ha.pair c hc
      have hpriox : c.prio = x.prio := by rw [hprio, hd.role, hd.lcand, hd.rcand, Round.prio]
      rw [hresult, hc] at hlen
      refine ⟨fun v' hv' => ?_, ?_⟩
      · rw [hresult] at hv' ⊢
        obtain rfl := Option.some.inj hv'
        refine ⟨c, hc, hl, hr, hok.1, hidx, ?_⟩
        rw [hpriox]
        exact hd.victim v rfl
      · simp only [Option.toList_some, List.length_singleton] at hlen
        omega
  · have hkeep := x.keep h
    refine ⟨fun _ hd => absurd hd h, fun _ => ⟨fun v hv => ?_, ?_⟩⟩
    · rw [hkeep] at hv
      cases hv
    · rw [hkeep] at hlen
      simp only [Option.toList_none, List.length_nil] at hlen
      omega

def Round.start (x : Round) : Option Pairing :=
  if maxChecks ≤ x.before.clist.count then
    match discardCheck x.before x.prio with
    | (s, some _) => some s
    | (_, none) => none
  else some x.before

def rounds : Pairing → List (ℕ × ℕ) → List Round
  | _, [] => []
  | s, (i, j) :: rest => ⟨s, i, j⟩ :: rounds (pairCands s i j).1 rest

/-- Where an event starts `add_rcand_and_update_checklist`: the session, the candidates and whether they are
the last ones. -/
def pairingStart (ice : Ice) : Event → Option (Ice × List Cand × Bool)
  | .createCheckList rem credsOk =>
    if (ice.txUfrag ∨ ¬ credsOk) ∨ ¬ (0 < ice.lcandCnt ∧ rem ≠ []) then none
    else some (startChecklist ice, rem, !ice.isTrickling)
  | .updateCheckList rem trickleDone credsMatch =>
    if ¬ ice.txUfrag ∨ (¬ ice.isTrickling ∧ rem ≠ []) then none
    else some (ice, if credsMatch then rem else [], trickleDone)
  | _ => none

/-- The rounds of `add_rcand_and_update_checklist`. -/
def addRounds (ice : Ice) (rem : List Cand) : List Round :=
  rounds (rem.foldl saveRcand ice).toPairing (rem.foldl saveRcand ice).indices

def stepRounds (ice : Ice) (e : Event) : List Round :=
  match pairingStart ice e with
  | some (ice, rem, _) => addRounds ice rem
  | none => []

def runRounds : Ice → List Event → List Round
  | _, [] => []
  | ice, e :: es => stepRounds ice e ++ runRounds (step ice e) es

/-- In every run, from any state, the evictions are justified exactly when no check is given up for a
pair that cannot be added. -/
theorem evictions_justified_iff (ice : Ice) (es : List Event) :
    (∀ x ∈ runRounds ice es, x.Justified) ↔ ∀ x ∈ runRounds ice es, x.Discards → x.Addable :=
  forall₂_congr fun x _ => x.justified_iff

/-- A session with one component, four host candidates and a peer with eight candidates of the same
family and a ninth, of another family and with a higher priority. -/
def crowdedIce : Ice :=
  create .controlling 1 ⟨false, true, true, true⟩ 7 (fun _ => 126) (fun _ _ => []) (fun _ => none)

def crowdedEvents : List Event :=
  (List.range 4).map (fun k => .addCand 1 1 .host (UInt32.ofNat (65535 - k)) [0x48] ⟨2, [10, 0, 0, UInt8.ofNat k], 4000⟩
      ⟨2, [10, 0, 0, UInt8.ofNat k], 4000⟩) ++
    [.createCheckList ((List.range 8).map (fun k =>
        ⟨.host, 1, 1, [0x48], UInt32.ofNat (100 + k), ⟨2, [10, 0, 1, UInt8.ofNat k], 5000⟩, ⟨2, [], 0⟩⟩) ++
      [⟨.host, 1, 1, [0x48], 108, ⟨10, [0xfe], 5000⟩, ⟨10, [], 0⟩⟩]) true]

set_option maxRecDepth 8000 in
lemma crowded_length : 35 < (runRounds crowdedIce crowdedEvents).length := by decide

def crowdedRound : Round := (runRounds crowdedIce crowdedEvents).get ⟨35, crowded_length⟩

set_option maxRecDepth 8000 in
/-- It takes a check out of the full list for a pair of two address families. -/
theorem eviction_for_nothing : ¬ ∀ x ∈ runRounds crowdedIce crowdedEvents, x.Justified := by
  intro h
  have hmem : crowdedRound ∈ runRounds crowdedIce crowdedEvents := List.get_mem _ _
  have hdiscards : crowdedRound.Discards := ⟨by decide, .inr ⟨24, by decide, by decide, by decide⟩⟩
  have haddable := crowdedRound.justified_iff.1 (h crowdedRound hmem) hdiscards
  exact absurd haddable.1 (by decide)

end PjProject.IceSession
