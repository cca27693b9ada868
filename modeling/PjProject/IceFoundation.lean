import PjProject.IceMoves

/-!
# Clean checks and their foundations

What the records of a checklist are when they are put into it, and what their foundation indices say.
-/
namespace PjProject.IceSession
open Transition

def View.SameFoundations (v : View) (p q : ℕ) : Prop :=
  (v.lcand (v.checks p).lcand).foundation = (v.lcand (v.checks q).lcand).foundation ∧
    (v.rcand (v.checks p).rcand).foundation = (v.rcand (v.checks q).rcand).foundation

def View.text (v : View) (p : ℕ) : List UInt8 :=
  foundationText (v.lcand (v.checks p).lcand) (v.rcand (v.checks p).rcand)

/-- A record as it was appended: without a request, without an error, and nominated at most if the
request that triggered it carried USE-CANDIDATE. -/
def Report.Clean : Report → Prop
  | .iceComplete _ => True
  | .triggered chk useCandidate =>
    chk.tdata = none ∧ chk.errCode = pjSuccess ∧ (chk.nominated = true → useCandidate = true)
  | .paired chk => chk.tdata = none ∧ chk.errCode = pjSuccess ∧ chk.nominated = false

/-- Every check was clean when it was appended; the foundation index tells the foundations of any two
checks apart, and a success unfreezes just the pairs of its own foundation. -/
structure Ice.Clean (ice : Ice) : Prop where
  appended : ∀ r ∈ ice.log, r.Clean
  index : ∀ p < ice.clist.count, ∀ q < ice.clist.count,
    ((ice.clist.checks p).foundationIdx = (ice.clist.checks q).foundationIdx ↔ ice.view.SameFoundations p q)
  unfreezes : ∀ p < ice.clist.count, ∀ q < ice.clist.count, (ice.clist.checks q).state = .frozen →
    ((unfreeze (ice.clist.checks p) (ice.clist.checks q)).state = .waiting ↔ ice.view.SameFoundations p q)

def TextTells (s : Pairing) (l r : ℕ) : Prop :=
  ∀ p < s.clist.count,
    foundationText (s.lcand (s.clist.checks p).lcand) (s.rcand (s.clist.checks p).rcand) =
        foundationText (s.lcand l) (s.rcand r) →
      (s.lcand (s.clist.checks p).lcand).foundation = (s.lcand l).foundation ∧
        (s.rcand (s.clist.checks p).rcand).foundation = (s.rcand r).foundation

instance (s : Pairing) (l r : ℕ) : Decidable (TextTells s l r) := inferInstanceAs (Decidable (∀ p < _, _ → _ ∧ _))

/-- What the pairing loop leaves of a slot is clean: no request, no nomination and, unless the pair is
unfrozen, no error. -/
def SlotClean (s : Pairing) (i j : ℕ) : Prop :=
  let slot := s.clist.checks s.clist.count
  slot.tdata = none ∧ slot.nominated = false ∧ (slot.errCode = pjSuccess ∨ unfreezesPair s i j = true)

instance (s : Pairing) (i j : ℕ) : Decidable (SlotClean s i j) := inferInstanceAs (Decidable (_ ∧ _ ∧ (_ ∨ _)))

/-- What a triggered check leaves of a slot is right: there is no request, and the foundation index is
that of its own foundation. -/
def SlotFits (s : Pairing) (l r : ℕ) : Prop :=
  let slot := s.clist.checks s.clist.count
  slot.tdata = none ∧ 0 ≤ slot.foundationIdx ∧
    s.clist.foundation[slot.foundationIdx.toNat]? = some (foundationText (s.lcand l) (s.rcand r))

instance (s : Pairing) (l r : ℕ) : Decidable (SlotFits s l r) := inferInstanceAs (Decidable (_ ∧ _ ∧ _))

/-- A check whose local candidate is replaced by its base keeps its foundation, or is removed because of
one before it. -/
def BaseFits (ice : Ice) : Prop :=
  let r := replaceBases ice.lcand ice.lcandCnt ice.clist.count 0 ice.clist.checks
  ∀ p < ice.clist.count, (ice.lcand (r.1 p).lcand).foundation = (ice.lcand (ice.clist.checks p).lcand).foundation ∨
    (r.2 = true ∧ ∃ q < p, isPruned ice.lcand (r.1 q) (r.1 p) = true)

instance (ice : Ice) : Decidable (BaseFits ice) := inferInstanceAs (Decidable (∀ p < _, _ ∨ (_ ∧ ∃ q < p, _)))

def cleanGuard : Guard where
  pair s i j := Compatible (s.lcand i) (s.rcand j) ∧ Recordable s i j → SlotClean s i j ∧ TextTells s i j
  trigger ice l r := SlotFits ice.toPairing l r ∧ TextTells ice.toPairing l r
  prune := BaseFits

structure Indexed (v : View) : Prop where
  nodup : v.foundation.Nodup
  bounds : ∀ p < v.count, (v.checks p).lcand < v.lcandCnt ∧ (v.checks p).rcand < v.rcandCnt
  index : ∀ p < v.count, ∃ n : ℕ, (v.checks p).foundationIdx = n ∧ v.foundation[n]? = some (v.text p)
  texts : ∀ p < v.count, ∀ q < v.count, v.text p = v.text q → v.SameFoundations p q
  clean : ∀ r ∈ v.log, r.Clean

variable {v v' : View} {ice : Ice} {p q : ℕ}

lemma View.SameFoundations.text_eq (h : v.SameFoundations p q) : v.text p = v.text q := by
  unfold text foundationText
  rw [h.1, h.2]

lemma Indexed.index_iff (h : Indexed v) (hp : p < v.count) (hq : q < v.count) :
    (v.checks p).foundationIdx = (v.checks q).foundationIdx ↔ v.SameFoundations p q := by
  obtain ⟨n, hn, hpn⟩ := h.index p hp
  obtain ⟨m, hm, hqm⟩ := h.index q hq
  rw [hn, hm, Int.natCast_inj]
  constructor
  · rintro rfl
    exact h.texts p hp q hq (Option.some.inj (hpn.symm.trans hqm))
  · intro hsame
    rw [hsame.text_eq, ← hqm] at hpn
    obtain ⟨hlt, -⟩ := List.getElem?_eq_some_iff.1 (hpn.trans hqm)
    exact (List.getElem?_inj hlt h.nodup).1 hpn

/-- The check in slot `p` tells the foundations that the one in slot `q` told before. -/
structure Tells (v v' : View) (q p : ℕ) : Prop where
  lcand : (v'.checks p).lcand < v'.lcandCnt
  rcand : (v'.checks p).rcand < v'.rcandCnt
  foundationIdx : (v'.checks p).foundationIdx = (v.checks q).foundationIdx
  lfoundation : (v'.lcand (v'.checks p).lcand).foundation = (v.lcand (v.checks q).lcand).foundation
  rfoundation : (v'.rcand (v'.checks p).rcand).foundation = (v.rcand (v.checks q).rcand).foundation

lemma Tells.text_eq (h : Tells v v' q p) : v'.text p = v.text q := by
  unfold View.text foundationText
  rw [h.lfoundation, h.rfoundation]

lemma Indexed.of_tells (h : Indexed v) (hfoundation : v'.foundation = v.foundation)
    (hpos : ∀ p < v'.count, ∃ q < v.count, Tells v v' q p) (hclean : ∀ r ∈ v'.log, r.Clean) : Indexed v' := by
  refine ⟨by rw [hfoundation]; exact h.nodup, fun p hp => ?_, fun p hp => ?_, fun p hp q hq heq => ?_, hclean⟩
  · obtain ⟨q, -, ht⟩ := hpos p hp
    exact ⟨ht.lcand, ht.rcand⟩
  · obtain ⟨q, hq, ht⟩ := hpos p hp
    obtain ⟨n, hn, htext⟩ := h.index q hq
    exact ⟨n, ht.foundationIdx.trans hn, by rw [hfoundation, htext, ht.text_eq]⟩
  · obtain ⟨p', hp', htp⟩ := hpos p hp
    obtain ⟨q', hq', htq⟩ := hpos q hq
    rw [htp.text_eq, htq.text_eq] at heq
    have hsame := h.texts p' hp' q' hq' heq
    unfold View.SameFoundations
    rw [htp.lfoundation, htp.rfoundation, htq.lfoundation, htq.rfoundation]
    exact hsame

lemma Indexed.shift (h : Indexed v) (hs : Shifts v v') : Indexed v' := by
  obtain ⟨f, hf, hlt⟩ := hs.moved
  obtain ⟨l, hlog, hl⟩ := hs.log
  refine h.of_tells hs.foundation (fun p hp => ⟨f p, hlt p hp, ?_⟩) fun r hr => ?_
  · obtain ⟨hl, hr⟩ := h.bounds (f p) (hlt p hp)
    have ht := hf p
    refine ⟨?_, ?_, ht.foundationIdx, ?_, ?_⟩
    · rw [ht.lcand]
      exact lt_of_lt_of_le hl hs.lcandCnt
    · rw [ht.rcand]
      exact lt_of_lt_of_le hr hs.rcandCnt
    · rw [ht.lcand, hs.lcand _ hl]
    · rw [ht.rcand, hs.rcand _ hr]
  · rw [hlog, List.mem_append] at hr
    rcases hr with hr | hr
    · exact h.clean r hr
    · obtain ⟨status, rfl⟩ := hl r hr
      exact trivial

lemma Indexed.of_samePair (h : Indexed v) {checks : ℕ → Check} (hpair : ∀ p < v.count, SamePair (v.checks p) (checks p))
    (pending : List Tsx) (nextTdata : ℕ) :
    Indexed { v with checks := checks, pending := pending, nextTdata := nextTdata } := by
  refine h.of_tells rfl (fun p hp => ⟨p, hp, ?_⟩) h.clean
  obtain ⟨hl, hr⟩ := h.bounds p hp
  have hsame := hpair p hp
  exact ⟨hsame.lcand.symm ▸ hl, hsame.rcand.symm ▸ hr, hsame.foundationIdx,
    congrArg (fun l => (v.lcand l).foundation) hsame.lcand, congrArg (fun r => (v.rcand r).foundation) hsame.rcand⟩

lemma Indexed.send (h : Indexed v) (i : ℕ) {c : Check} (transportId : ℕ) (controlling : Bool)
    (hpair : SamePair (v.checks i) c) : Indexed (sendRequest v i c transportId controlling) := by
  refine h.of_samePair (fun p _ => ?_) _ _
  by_cases hpi : p = i
  · rw [hpi, Function.update_self]
    exact ⟨hpair.lcand, hpair.rcand, hpair.prio, hpair.foundationIdx⟩
  · rw [Function.update_of_ne hpi]
    exact SamePair.refl _

lemma Indexed.append (h : Indexed v) {c : Check} {foundation : List (List UInt8)} {log : List Report} {n : ℕ}
    (hl : c.lcand < v.lcandCnt) (hr : c.rcand < v.rcandCnt) (hnodup : foundation.Nodup)
    (hold : ∀ (m : ℕ) t, v.foundation[m]? = some t → foundation[m]? = some t) (hidx : c.foundationIdx = n)
    (hn : foundation[n]? = some (foundationText (v.lcand c.lcand) (v.rcand c.rcand)))
    (htells : ∀ p < v.count, v.text p = foundationText (v.lcand c.lcand) (v.rcand c.rcand) →
      (v.lcand (v.checks p).lcand).foundation = (v.lcand c.lcand).foundation ∧
        (v.rcand (v.checks p).rcand).foundation = (v.rcand c.rcand).foundation)
    (hclean : ∀ r ∈ log, r.Clean) :
    Indexed { v with count := v.count + 1, checks := Function.update v.checks v.count c, foundation := foundation,
                     log := log } := by
  have hkeep : ∀ p < v.count, Function.update v.checks v.count c p = v.checks p :=
    fun p hp => Function.update_of_ne hp.ne _ _
  have hlast : Function.update v.checks v.count c v.count = c := Function.update_self _ _ _
  refine ⟨hnodup, fun p hp => ?_, fun p hp => ?_, fun p hp q hq => ?_, hclean⟩
  · dsimp only at hp ⊢
    rcases Nat.lt_succ_iff_lt_or_eq.1 hp with hp | rfl
    · rw [hkeep p hp]
      exact h.bounds p hp
    · rw [hlast]
      exact ⟨hl, hr⟩
  · dsimp only [View.text] at hp ⊢
    rcases Nat.lt_succ_iff_lt_or_eq.1 hp with hp | rfl
    · rw [hkeep p hp]
      obtain ⟨m, hm, htext⟩ := h.index p hp
      exact ⟨m, hm, hold m _ htext⟩
    · rw [hlast]
      exact ⟨n, hidx, hn⟩
  · dsimp only [View.text, View.SameFoundations] at hp hq ⊢
    rcases Nat.lt_succ_iff_lt_or_eq.1 hp with hp | rfl
    · rcases Nat.lt_succ_iff_lt_or_eq.1 hq with hq | rfl
      · rw [hkeep p hp, hkeep q hq]
        exact h.texts p hp q hq
      · rw [hkeep p hp, hlast]
        exact htells p hp
    · rcases Nat.lt_succ_iff_lt_or_eq.1 hq with hq | rfl
      · rw [hkeep q hq, hlast]
        exact fun heq => ⟨(htells q hq heq.symm).1.symm, (htells q hq heq.symm).2.symm⟩
      · exact fun _ => ⟨rfl, rfl⟩

lemma getCheckFoundationIdx_spec {foundation : List (List UInt8)} {lcand rcand : Cand}
    (h : 0 ≤ (getCheckFoundationIdx foundation lcand rcand).2) (hnodup : foundation.Nodup) :
    ∃ n : ℕ, (getCheckFoundationIdx foundation lcand rcand).2 = n ∧
      (getCheckFoundationIdx foundation lcand rcand).1[n]? = some (foundationText lcand rcand) ∧
      (getCheckFoundationIdx foundation lcand rcand).1.Nodup ∧
      ∀ (m : ℕ) t, foundation[m]? = some t → (getCheckFoundationIdx foundation lcand rcand).1[m]? = some t := by
  unfold getCheckFoundationIdx at h ⊢
  cases hf : foundation.findIdx? (fun t => decide (t = foundationText lcand rcand)) with
  | some k =>
    obtain ⟨hk, heq, -⟩ := List.findIdx?_eq_some_iff_getElem.1 hf
    refine ⟨k, rfl, ?_, hnodup, fun _ _ ht => ht⟩
    rw [List.getElem?_eq_getElem hk, of_decide_eq_true heq]
  | none =>
    have hnot : foundationText lcand rcand ∉ foundation :=
      fun hmem => of_decide_eq_false (List.findIdx?_eq_none_iff.1 hf _ hmem) rfl
    rw [hf] at h
    dsimp only at h ⊢
    by_cases hlt : foundation.length < maxChecks
    · rw [if_pos hlt]
      refine ⟨foundation.length, rfl, List.getElem?_concat_length, ?_, fun m t ht => ?_⟩
      · rw [← List.concat_eq_append]
        exact hnodup.concat hnot
      · have hm := (List.getElem?_eq_some_iff.1 ht).1
        dsimp only
        rw [List.getElem?_append_left hm, ht]
    · rw [if_neg hlt] at h
      have hneg : ¬ (0 : ℤ) ≤ -1 := by decide
      exact absurd h hneg

lemma Indexed.pair (h : Indexed ice.view) {i j : ℕ} (hi : i < ice.lcandCnt) (hj : j < ice.rcandCnt)
    (hG : cleanGuard.pair ice.toPairing i j) : Indexed (placePair ice i j).view := by
  rcases placePair_cases ice i j with ⟨c, -, heq⟩ | ⟨hadd, heq⟩
  · rw [heq]
    refine h.of_samePair (fun p hp => ?_) _ _
    have hne : p ≠ ice.clist.count := Nat.ne_of_lt hp
    rw [Function.update_of_ne hne]
    exact SamePair.refl _
  · obtain ⟨⟨htdata, hnom, herr⟩, htells⟩ := hG hadd
    obtain ⟨n, hidx, hn, hnodup, hold⟩ :=
      getCheckFoundationIdx_spec ((getCheckFoundationIdx_nonneg ice.toPairing i j).2 hadd.2) h.nodup
    rw [heq]
    have hc : SamePair (pairCheck ice.toPairing i j) (addedCheck ice.toPairing i j) ∧
        (addedCheck ice.toPairing i j).tdata = none ∧ (addedCheck ice.toPairing i j).errCode = pjSuccess ∧
        (addedCheck ice.toPairing i j).nominated = false := by
      unfold addedCheck
      split_ifs with hunfreeze
      · exact ⟨⟨rfl, rfl, rfl, rfl⟩, htdata, rfl, hnom⟩
      · exact ⟨SamePair.refl _, htdata, herr.resolve_right hunfreeze, hnom⟩
    have hcl : (addedCheck ice.toPairing i j).lcand = i := hc.1.lcand
    have hcr : (addedCheck ice.toPairing i j).rcand = j := hc.1.rcand
    refine h.append ?_ ?_ hnodup hold (hc.1.foundationIdx.trans hidx) ?_ (fun p hp => ?_) fun r hr => ?_
    · rw [hcl]
      exact hi
    · rw [hcr]
      exact hj
    · rw [hcl, hcr]
      exact hn
    · rw [hcl, hcr]
      exact htells p hp
    · rw [List.mem_append, List.mem_singleton] at hr
      rcases hr with hr | rfl
      · exact h.clean r hr
      · exact hc.2

lemma Indexed.trigger (h : Indexed ice.view) {l r : ℕ} (useCandidate : Bool) (hl : l < ice.lcandCnt)
    (hr : r < ice.rcandCnt) (hG : cleanGuard.trigger ice l r) : Indexed (placeTriggered ice l r useCandidate).view := by
  obtain ⟨⟨htdata, hnonneg, hn⟩, htells⟩ := hG
  refine h.append (n := (ice.clist.checks ice.clist.count).foundationIdx.toNat) hl hr h.nodup (fun _ _ ht => ht)
    (Int.toNat_of_nonneg hnonneg).symm hn htells fun x hx => ?_
  rcases List.mem_append.1 hx with hx | hx
  · exact h.clean x hx
  · rw [List.mem_singleton.1 hx]
    exact ⟨htdata, rfl, id⟩

lemma Indexed.tells_base (h : Indexed ice.view) {v' : View} (hcand : v'.lcand = ice.lcand ∧ v'.lcandCnt = ice.lcandCnt ∧
      v'.rcand = ice.rcand ∧ v'.rcandCnt = ice.rcandCnt) (hq : q < ice.clist.count)
    (hp : v'.checks p = (replaceBases ice.lcand ice.lcandCnt ice.clist.count 0 ice.clist.checks).1 q)
    (hsame : (ice.lcand ((replaceBases ice.lcand ice.lcandCnt ice.clist.count 0 ice.clist.checks).1 q).lcand).foundation =
      (ice.lcand (ice.clist.checks q).lcand).foundation) : Tells ice.view v' q p := by
  obtain ⟨-, host, hbase, heq⟩ := @replaceBases_base ice.lcand ice.lcandCnt ice.clist.count 0 ice.clist.checks q
  obtain ⟨hl, hr⟩ := h.bounds q hq
  rw [heq] at hp hsame
  have hlt : host < ice.lcandCnt := by
    rcases hbase with rfl | hbase
    · exact hl
    · unfold IsBase at hbase
      split_ifs at hbase
      · exact hbase.1
      · rw [hbase]
        exact hl
  refine ⟨?_, ?_, ?_, ?_, ?_⟩
  · rw [hp, hcand.2.1]
    exact hlt
  · rw [hp, hcand.2.2.2]
    exact hr
  · rw [hp]
    rfl
  · rw [hp, hcand.1]
    exact hsame
  · rw [hp, hcand.2.2.1]
    rfl

lemma Indexed.prune (h : Indexed ice.view) (hG : BaseFits ice) : Indexed (pruneChecks ice).1.view := by
  have hcand : (pruneChecks ice).1.view.lcand = ice.lcand ∧ (pruneChecks ice).1.view.lcandCnt = ice.lcandCnt ∧
      (pruneChecks ice).1.view.rcand = ice.rcand ∧ (pruneChecks ice).1.view.rcandCnt = ice.rcandCnt :=
    ⟨rfl, rfl, rfl, rfl⟩
  by_cases hok : (replaceBases ice.lcand ice.lcandCnt ice.clist.count 0 ice.clist.checks).2 = true
  · have hholds := pruneChecklist_holds hok
    have hfoundation : (pruneChecks ice).1.view.foundation = ice.view.foundation :=
      (pruneChecklist_arranged ice.lcandCnt ice.clist).1
    refine h.of_tells hfoundation (fun p hp => ?_) h.clean
    have hp' : p < (keptPositions ice.lcand ice.lcandCnt ice.clist).length := by
      rw [← hholds.count]
      exact hp
    have hmem := List.get_mem (keptPositions ice.lcand ice.lcandCnt ice.clist) ⟨p, hp'⟩
    have hq := List.mem_range.1 ((keptPositions_sublist ice.lcandCnt).subset hmem)
    refine ⟨_, hq, h.tells_base hcand hq (hholds.records p hp') ?_⟩
    rcases hG _ hq with hsame | ⟨-, q, hlt, hpruned⟩
    · exact hsame
    · exact absurd hmem (notMem_keptPositions hq hlt hpruned)
  · have heq : (pruneChecks ice).1 = { ice with clist := { ice.clist with
        checks := (replaceBases ice.lcand ice.lcandCnt ice.clist.count 0 ice.clist.checks).1 } } := by
      unfold pruneChecks pruneChecklist
      dsimp only
      rw [if_neg hok]
    rw [heq]
    refine h.of_tells rfl (fun p hp => ⟨p, hp, h.tells_base ⟨rfl, rfl, rfl, rfl⟩ hp rfl ?_⟩) h.clean
    exact (hG p hp).resolve_right fun hno => hok hno.1

lemma Indexed.move {v v' : View} (hm : Move cleanGuard v v') (h : Indexed v) : Indexed v' := by
  cases hm with
  | shift hs => exact h.shift hs
  | send _ i c transportId controlling hpair => exact h.send i transportId controlling hpair
  | pair ice i j hi hj hG => exact h.pair hi hj hG
  | trigger ice l r useCandidate hl hr hG => exact h.trigger useCandidate hl hr hG
  | prune ice hG => exact h.prune hG

lemma Indexed.clean_ice (h : Indexed ice.view) : ice.Clean := by
  refine ⟨h.clean, fun p hp q hq => h.index_iff hp hq, fun p hp q hq hst => ?_⟩
  have hidx := h.index_iff hq hp
  have hsymm : ice.view.SameFoundations q p ↔ ice.view.SameFoundations p q :=
    and_congr eq_comm eq_comm
  rw [← hsymm, ← hidx]
  have hst' : ∀ n : CheckState, n = .frozen → (n = .waiting ↔ False) := by
    rintro n rfl
    refine ⟨fun h => ?_, False.elim⟩
    cases h
  unfold unfreeze
  by_cases heq : (ice.clist.checks q).foundationIdx = (ice.clist.checks p).foundationIdx
  · rw [if_pos ⟨heq, hst⟩]
    exact ⟨fun _ => heq, fun _ => rfl⟩
  · rw [if_neg fun h => heq h.1, hst' _ hst]
    exact ⟨False.elim, heq⟩

variable (role : IceRole.Role) (compCnt : ℕ) (opt : Options) (tieBreaker : UInt64) (prefs : CandType → UInt32)
  (calcFoundation : CandType → SockAddr → List UInt8) (synthesize : SockAddr → Option SockAddr)

lemma indexed_create : Indexed (create role compCnt opt tieBreaker prefs calcFoundation synthesize).view :=
  ⟨List.nodup_nil, fun _ hp => absurd hp (Nat.not_lt_zero _), fun _ hp => absurd hp (Nat.not_lt_zero _),
    fun _ hp => absurd hp (Nat.not_lt_zero _), fun _ hr => absurd hr List.not_mem_nil⟩

instance (s : Pairing) (i j : ℕ) : Decidable (cleanGuard.pair s i j) := inferInstanceAs (Decidable (_ → _ ∧ _))

instance (ice : Ice) (l r : ℕ) : Decidable (cleanGuard.trigger ice l r) := inferInstanceAs (Decidable (_ ∧ _))

instance (ice : Ice) : Decidable (cleanGuard.prune ice) := inferInstanceAs (Decidable (BaseFits ice))

/-- In every run of a new session that fills clean slots, checks start clean and the foundation indices
tell their foundations apart. -/
theorem run_clean (es : List Event) (h : Guarded step cleanGuard.Step
      (create role compCnt opt tieBreaker prefs calcFoundation synthesize) es) :
    (run step (create role compCnt opt tieBreaker prefs calcFoundation synthesize) es).Clean :=
  Indexed.clean_ice (cleanGuard.run_invariant (fun _ _ => Indexed.move) (indexed_create _ _ _ _ _ _ _) h)

def pairEvents : List Event :=
  [.addCand 1 1 .host 65535 [0x48] ⟨2, [10, 0, 0, 1], 4000⟩ ⟨2, [10, 0, 0, 1], 4000⟩,
    .createCheckList [⟨.host, 1, 1, [0x52], 100, ⟨2, [10, 0, 0, 2], 5000⟩, ⟨2, [], 0⟩⟩] true,
    .startCheck fun _ => .ok, .periodicTimer .ok,
    .stunComplete 0 (.success ⟨2, [10, 0, 0, 2], 5000⟩ (some ⟨2, [10, 0, 0, 1], 4000⟩)) .ok]

theorem run_clean_pair : (run step
      (create .controlling 1 ⟨false, false, true, true⟩ 7 (fun _ => 126) (fun _ _ => []) (fun _ => none)) pairEvents).Clean ∧
    (run step (create .controlling 1 ⟨false, false, true, true⟩ 7 (fun _ => 126) (fun _ _ => [])
      (fun _ => none)) pairEvents).clist.count = 1 :=
  ⟨run_clean .controlling 1 ⟨false, false, true, true⟩ 7 (fun _ => 126) (fun _ _ => []) (fun _ => none) pairEvents
    (by decide), by decide⟩

/-- A request from an address that is not among the remote candidates: the check for it takes the index
of the only foundation there is. -/
theorem triggered_takes_index :
    ¬ (run step (create .controlling 1 ⟨false, false, true, true⟩ 7 (fun _ => 126) (fun _ _ => []) (fun _ => none))
      (pairEvents.take 2 ++ [.rxRequest none ⟨1, 1, ⟨2, [10, 0, 0, 3], 6000⟩, false, 50, [0x50]⟩ .ok])).Clean := by
  intro h
  have hsame := (h.index 0 (by decide) 1 (by decide)).1 (by decide)
  exact absurd hsame.2 (by decide)

end PjProject.IceSession
