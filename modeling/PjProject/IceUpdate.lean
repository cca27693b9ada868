import PjProject.IceChecklistLaw
import PjProject.IceSession

/-!
# What the completion of a check does to the others

The checks of a session are changed in place, and each change of a check other than the completed one
is one of a few rules.
-/
namespace PjProject.IceSession

structure View where
  count : ℕ
  checks : ℕ → Check
  foundation : List (List UInt8)
  lcand : ℕ → Cand
  lcandCnt : ℕ
  rcand : ℕ → Cand
  rcandCnt : ℕ
  comps : List Comp
  validList : Checklist
  pending : List Tsx
  nextTdata : ℕ
  log : List Report

def Ice.view (ice : Ice) : View where
  count := ice.clist.count
  checks := ice.clist.checks
  foundation := ice.clist.foundation
  lcand := ice.lcand
  lcandCnt := ice.lcandCnt
  rcand := ice.rcand
  rcandCnt := ice.rcandCnt
  comps := ice.comps
  validList := ice.validList
  pending := ice.pending
  nextTdata := ice.nextTdata
  log := ice.log

structure InPlace (R : ℕ → Check → Check → Prop) (v v' : View) : Prop where
  same : v' = { v with checks := v'.checks, pending := v'.pending }
  checks : ∀ p, R p (v.checks p) (v'.checks p)
  pending : ∀ t ∈ v'.pending, t ∈ v.pending

variable {R : ℕ → Check → Check → Prop} {v v' v'' : View} {ice : Ice}

lemma InPlace.of_eq (hR : ∀ p c, R p c c) (h : v' = v) : InPlace R v v' := by
  rw [h]
  exact ⟨rfl, fun p => hR p _, fun _ ht => ht⟩

lemma InPlace.trans (hR : ∀ p c c' c'', R p c c' → R p c' c'' → R p c c'') (h : InPlace R v v')
    (h' : InPlace R v' v'') : InPlace R v v'' where
  same := by
    rw [h'.same, h.same]
  checks := fun p => hR p _ _ _ (h.checks p) (h'.checks p)
  pending := fun t ht => h.pending t (h'.pending t ht)

lemma InPlace.setCheck (hR : ∀ p c, R p c c) (i : ℕ) (c : Check) (h : R i (ice.clist.checks i) c) :
    InPlace R ice.view (ice.setCheck i c).view := by
  refine ⟨rfl, fun p => ?_, fun _ ht => ht⟩
  simp only [Ice.view, Ice.setCheck]
  by_cases hp : p = i
  · rw [hp, Function.update_self]
    exact h
  · rw [Function.update_of_ne hp]
    exact hR p _

def View.Valid (v : View) (c : Check) : Prop :=
  ∃ comp ∈ v.comps, ∃ p, comp.validCheck = some p ∧
    let vc := if p.list = .clist then v.checks p.idx else v.validList.checks p.idx
    (v.lcand c.lcand).transportId = (v.lcand vc.lcand).transportId ∧ c.rcand = vc.rcand

/-- What may happen to a check when another one, `done`, completes. -/
inductive Rule (done : Check) (lcand : ℕ → Cand) (valid : Check → Prop) : Check → Check → Prop
  /-- A success lets the Frozen checks of its foundation go on. -/
  | unfreeze (c : Check) (hok : done.errCode = pjSuccess) (hst : c.state = .frozen)
      (hidx : c.foundationIdx = done.foundationIdx) : Rule done lcand valid c (c.setState .waiting pjSuccess)
  /-- A nominated success ends the checks of its component that have not been sent. -/
  | cancel (c : Check) (hok : done.errCode = pjSuccess) (hnom : done.nominated = true)
      (hcomp : (lcand c.lcand).compId = (lcand done.lcand).compId) (hst : c.state = .frozen ∨ c.state = .waiting) :
      Rule done lcand valid c (c.setState .failed pjECancelled)
  /-- A nominated success takes back the requests of its component. -/
  | cancelRequest (c : Check) (hok : done.errCode = pjSuccess) (hnom : done.nominated = true)
      (hcomp : (lcand c.lcand).compId = (lcand done.lcand).compId) (hst : c.state = .inProgress)
      (htdata : c.tdata.isSome) : Rule done lcand valid c ({ c with tdata := none }.setState .failed pjECancelled)
  /-- The check of a valid pair is sent once more, to nominate it. -/
  | nominate (c : Check) (hvalid : valid c) : Rule done lcand valid c (c.setState .waiting pjSuccess)

structure SamePair (c c' : Check) : Prop where
  lcand : c'.lcand = c.lcand
  rcand : c'.rcand = c.rcand
  prio : c'.prio = c.prio
  foundationIdx : c'.foundationIdx = c.foundationIdx

lemma SamePair.refl (c : Check) : SamePair c c := ⟨rfl, rfl, rfl, rfl⟩

lemma SamePair.trans {c c' c'' : Check} (h : SamePair c c') (h' : SamePair c' c'') : SamePair c c'' :=
  ⟨h'.lcand.trans h.lcand, h'.rcand.trans h.rcand, h'.prio.trans h.prio, h'.foundationIdx.trans h.foundationIdx⟩

variable {c c' : Check}

lemma Rule.samePair {done : Check} {lcand : ℕ → Cand} {valid : Check → Prop} (h : Rule done lcand valid c c') :
    SamePair c c' := by
  cases h <;> exact ⟨rfl, rfl, rfl, rfl⟩

lemma Rule.kept {done : Check} {lcand : ℕ → Cand} {valid : Check → Prop} (h : Rule done lcand valid c c') :
    c'.nominated = c.nominated ∧ (c'.tdata = c.tdata ∨ c'.tdata = none) := by
  cases h
  · exact ⟨rfl, .inl rfl⟩
  · exact ⟨rfl, .inl rfl⟩
  · exact ⟨rfl, .inr rfl⟩
  · exact ⟨rfl, .inl rfl⟩

abbrev Rules (done : Check) (lcand : ℕ → Cand) (valid : Check → Prop) : Check → Check → Prop :=
  Relation.ReflTransGen (Rule done lcand valid)

variable {done : Check} {lcand : ℕ → Cand} {valid : Check → Prop}

lemma Rules.mono {valid' : Check → Prop} (hvalid : ∀ c, valid c → valid' c)
    (h : Rules done lcand valid c c') : Rules done lcand valid' c c' := by
  refine Relation.ReflTransGen.mono ?_ _ _ h
  intro a b hab
  cases hab with
  | unfreeze hok hst hidx => exact .unfreeze a hok hst hidx
  | cancel hok hnom hcomp hst => exact .cancel a hok hnom hcomp hst
  | cancelRequest hok hnom hcomp hst htdata => exact .cancelRequest a hok hnom hcomp hst htdata
  | nominate hv => exact .nominate a (hvalid a hv)

lemma Rules.samePair (h : Rules done lcand valid c c') : SamePair c c' := by
  induction h with
  | refl => exact SamePair.refl _
  | tail _ hstep ih => exact ih.trans hstep.samePair

lemma Rules.inPlace_trans (h : InPlace (fun _ => Rules done lcand valid) v v')
    (h' : InPlace (fun _ => Rules done lcand valid) v' v'') : InPlace (fun _ => Rules done lcand valid) v v'' :=
  h.trans (fun _ _ _ _ => Relation.ReflTransGen.trans) h'

lemma Rules.inPlace_of_eq (h : v' = v) : InPlace (fun _ => Rules done lcand valid) v v' :=
  InPlace.of_eq (fun _ _ => Relation.ReflTransGen.refl) h

lemma View.Valid.congr (h : InPlace R v v') (hpair : ∀ p c c', R p c c' → SamePair c c') (c : Check) :
    v'.Valid c ↔ v.Valid c := by
  have hrec : ∀ p : CheckPtr,
      SamePair (if p.list = .clist then v.checks p.idx else v.validList.checks p.idx)
        (if p.list = .clist then v'.checks p.idx else v.validList.checks p.idx) := by
    intro p
    split_ifs
    · exact hpair _ _ _ (h.checks p.idx)
    · exact SamePair.refl _
  unfold Valid
  rw [h.same]
  refine exists_congr fun comp => and_congr_right fun _ => exists_congr fun p => and_congr_right fun _ => ?_
  dsimp only
  rw [(hrec p).lcand, (hrec p).rcand]

lemma onIceComplete_view (status : ℕ) : (onIceComplete ice status).view = ice.view := by
  unfold onIceComplete
  split_ifs <;> rfl

lemma waitValidPairOrFail_view : (waitValidPairOrFail ice).1.view = ice.view := by
  unfold waitValidPairOrFail
  split_ifs
  · rfl
  · rfl
  · exact onIceComplete_view _

lemma matchesValid_iff {p : CheckPtr} : matchesValid ice (ice.deref p) c = true ↔
    (ice.lcand c.lcand).transportId =
        (ice.lcand (if p.list = .clist then ice.clist.checks p.idx else ice.validList.checks p.idx).lcand).transportId ∧
      c.rcand = (if p.list = .clist then ice.clist.checks p.idx else ice.validList.checks p.idx).rcand := by
  obtain ⟨list, idx⟩ := p
  unfold matchesValid Ice.deref
  rw [decide_eq_true_eq]
  cases list <;> rfl

lemma renominate_inPlace {comp : Comp} (hcomp : comp ∈ ice.comps) (hvalid : ∀ c, ice.view.Valid c → valid c) :
    InPlace (fun _ => Rules done lcand valid) ice.view (renominate ice comp).view := by
  unfold renominate
  cases hp : comp.validCheck with
  | none => exact Rules.inPlace_of_eq rfl
  | some p =>
    dsimp only
    cases hj : findFrom (fun j => matchesValid ice (ice.deref p) (ice.clist.checks j)) ice.clist.count 0 with
    | none => exact Rules.inPlace_of_eq rfl
    | some j =>
      obtain ⟨-, -, hmatch, -⟩ := findFrom_spec _ hj
      have hv : valid (ice.clist.checks j) := hvalid _ ⟨comp, hcomp, p, hp, matchesValid_iff.1 hmatch⟩
      exact InPlace.setCheck (fun _ _ => Relation.ReflTransGen.refl) j _ (.single (.nominate _ hv))

lemma renominateAll_inPlace (comps : List Comp) : ∀ ice : Ice, comps ⊆ ice.comps →
    (∀ c, ice.view.Valid c → valid c) →
    InPlace (fun _ => Rules done lcand valid) ice.view (comps.foldl renominate ice).view := by
  induction comps with
  | nil => exact fun _ _ _ => Rules.inPlace_of_eq rfl
  | cons comp comps ih =>
    intro ice hsub hvalid
    rw [List.cons_subset] at hsub
    have hfirst : InPlace (fun _ => Rules done lcand valid) ice.view (renominate ice comp).view :=
      renominate_inPlace hsub.1 hvalid
    have hcomps : (renominate ice comp).comps = ice.comps := congrArg View.comps hfirst.same
    refine Rules.inPlace_trans hfirst (ih _ (by rw [hcomps]; exact hsub.2) fun c hc => hvalid c ?_)
    exact (View.Valid.congr hfirst (fun _ _ _ => Rules.samePair) c).1 hc

lemma startNominatedCheck_inPlace (ice : Ice) (hvalid : ∀ c, ice.view.Valid c → valid c) :
    InPlace (fun _ => Rules done lcand valid) ice.view (startNominatedCheck ice).view :=
  renominateAll_inPlace ice.comps { ice with
    isTrickling := false
    timer := if ice.timer = TimerId.startNominatedCheck then .none else ice.timer } (List.Subset.refl _) hvalid

lemma allChecksCompleted_cases (ice : Ice) : (allChecksCompleted ice).1.view = ice.view ∨
    ∃ timer, (allChecksCompleted ice).1 = startNominatedCheck { ice with timer := timer } := by
  unfold allChecksCompleted
  dsimp only
  generalize (if ice.timer = TimerId.waitValidPair then TimerId.none else ice.timer) = timer
  split_ifs
  · exact .inl rfl
  · exact .inl rfl
  · exact .inl waitValidPairOrFail_view
  · exact .inl (onIceComplete_view _)
  · exact .inr ⟨_, rfl⟩
  · exact .inl waitValidPairOrFail_view

lemma checkIceComplete_cases (ice : Ice) : (checkIceComplete ice).1.view = ice.view ∨
    ∃ timer, (checkIceComplete ice).1 = startNominatedCheck { ice with timer := timer } := by
  unfold checkIceComplete
  split_ifs
  · exact .inl (onIceComplete_view _)
  · exact allChecksCompleted_cases ice
  · exact .inl rfl
  · exact .inl rfl
  · exact .inl rfl

lemma checkIceComplete_inPlace (hvalid : ∀ c, (checkIceComplete ice).1.isNominating → ice.view.Valid c → valid c) :
    InPlace (fun _ => Rules done lcand valid) ice.view (checkIceComplete ice).1.view := by
  rcases checkIceComplete_cases ice with hsame | ⟨timer, hstart⟩
  · exact Rules.inPlace_of_eq hsame
  · rw [hstart] at hvalid ⊢
    exact startNominatedCheck_inPlace { ice with timer := timer } fun c hc => hvalid c rfl hc

lemma mapChecks_inPlace (f : Check → Check) (hf : ∀ c, Rules done lcand valid c (f c)) :
    InPlace (fun _ => Rules done lcand valid) ice.view { ice with clist := ice.clist.mapChecks f }.view := by
  refine ⟨rfl, fun p => ?_, fun _ ht => ht⟩
  simp only [Ice.view, Checklist.mapChecks]
  split_ifs
  · exact hf _
  · exact Relation.ReflTransGen.refl

lemma unfreeze_rules (hok : done.errCode = pjSuccess) (c : Check) : Rules done lcand valid c (unfreeze done c) := by
  unfold unfreeze
  split_ifs with h
  · exact .single (.unfreeze c hok h.2 h.1)
  · exact .refl

lemma cancel_rules (hok : done.errCode = pjSuccess) (hnom : done.nominated = true) (c : Check) :
    Rules done lcand valid c (cancel lcand done c) := by
  unfold cancel
  split_ifs with hcomp hlt hprog
  · refine .single (.cancel c hok hnom hcomp ?_)
    revert hlt
    cases c.state <;> decide
  · exact .single (.cancelRequest c hok hnom hcomp hprog.1 hprog.2)
  · exact .refl
  · exact .refl

lemma cancelAll_inPlace (hok : done.errCode = pjSuccess) (hnom : done.nominated = true) :
    InPlace (fun _ => Rules done ice.lcand valid) ice.view (cancelAll ice done).view := by
  have hmap : InPlace (fun _ => Rules done ice.lcand valid) ice.view
      { ice with clist := ice.clist.mapChecks (cancel ice.lcand done) }.view :=
    mapChecks_inPlace _ (cancel_rules hok hnom)
  exact ⟨rfl, hmap.checks, fun t ht => (List.mem_filter.1 ht).1⟩

lemma onCheckComplete_inPlace (ice : Ice) (ckid : ℕ) :
    InPlace (fun _ => Rules (ice.clist.checks ckid) ice.lcand
        fun c => (onCheckComplete ice ckid).1.isNominating ∧ ice.view.Valid c)
      ice.view (onCheckComplete ice ckid).1.view := by
  unfold onCheckComplete
  dsimp only
  generalize hdone : ice.clist.checks ckid = done
  generalize hice1 : (if done.errCode = pjSuccess then unfreezeAll ice done else ice) = ice1
  have h1 : ∀ valid, InPlace (fun _ => Rules done ice.lcand valid) ice.view ice1.view := by
    intro valid
    rw [← hice1]
    split_ifs with hok
    · exact mapChecks_inPlace _ (unfreeze_rules hok)
    · exact Rules.inPlace_of_eq rfl
  generalize hice2 : (if done.errCode = pjSuccess ∧ done.nominated then cancelAll ice1 done else ice1) = ice2
  have hlcand : ice1.lcand = ice.lcand := congrArg View.lcand (h1 fun _ => True).same
  have h2 : ∀ valid, InPlace (fun _ => Rules done ice.lcand valid) ice.view ice2.view := by
    intro valid
    rw [← hice2]
    split_ifs with hok
    · refine Rules.inPlace_trans (h1 valid) ?_
      rw [← hlcand]
      exact cancelAll_inPlace hok.1 hok.2
    · exact h1 valid
  refine Rules.inPlace_trans (h2 _) (checkIceComplete_inPlace fun c hnom hc => ⟨hnom, ?_⟩)
  exact (View.Valid.congr (h2 fun _ => True) (fun _ _ _ => Rules.samePair) c).1 hc

end PjProject.IceSession
