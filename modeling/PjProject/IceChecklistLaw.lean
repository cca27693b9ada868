import PjProject.IceChecklist
import PjProject.Sieve

/-!
# Order and pruning of the checklist

The priorities of pairs, the sort of a checklist and its pruning.
-/
namespace PjProject.IceSession

open IceRole (Role)

/-- The priority of a pair whose candidates have priority `O` at the controlling and `A` at the
controlled agent. -/
def pairPriority (O A : ℕ) : ℕ := 2 ^ 32 * min O A + 2 * max O A + if A < O then 1 else 0

lemma toNat_minPrio (x y : UInt32) : (minPrio x y).toNat = min x.toNat y.toNat := by
  unfold minPrio
  split_ifs with h
  · exact (min_eq_left (UInt32.lt_iff_toNat_lt.1 h).le).symm
  · exact (min_eq_right (not_lt.1 (mt UInt32.lt_iff_toNat_lt.2 h))).symm

lemma toNat_maxPrio (x y : UInt32) : (maxPrio x y).toNat = max x.toNat y.toNat := by
  unfold maxPrio
  split_ifs with h
  · exact (max_eq_left (UInt32.lt_iff_toNat_lt.1 h).le).symm
  · exact (max_eq_right (not_lt.1 (mt UInt32.lt_iff_toNat_lt.2 h))).symm

lemma u64_halves (O A : UInt32) :
    (⟨minPrio O A, maxPrio O A <<< 1 + if A < O then 1 else 0⟩ : Timestamp).u64 =
      min O.toNat A.toNat * 2 ^ 32 + (2 * max O.toNat A.toNat % 2 ^ 32 + if A.toNat < O.toNat then 1 else 0) := by
  have hshift : (maxPrio O A <<< 1).toNat = 2 * max O.toNat A.toNat % 2 ^ 32 := by
    rw [UInt32.toNat_shiftLeft, toNat_maxPrio, Nat.shiftLeft_eq, Nat.mul_comm]
    rfl
  have hlt : A < O ↔ A.toNat < O.toNat := UInt32.lt_iff_toNat_lt
  unfold Timestamp.u64
  simp only
  rw [toNat_minPrio, UInt32.toNat_add, hshift]
  by_cases h : A.toNat < O.toNat
  · rw [if_pos h, if_pos (hlt.2 h), UInt32.toNat_one]
    omega
  · rw [if_neg h, if_neg (mt hlt.1 h), UInt32.toNat_zero]
    omega

lemma u64_exact_iff (O A : UInt32) :
    (⟨minPrio O A, maxPrio O A <<< 1 + if A < O then 1 else 0⟩ : Timestamp).u64 = pairPriority O.toNat A.toNat ↔
      max O.toNat A.toNat < 2 ^ 31 := by
  rw [u64_halves, pairPriority]
  omega

/-- Both agents compute the same value for a pair, and order pairs in the same way; it is the value of
the formula exactly while both candidate priorities are below 2^31. -/
theorem check_prio_exact_iff (ctl peer ctl' peer' : UInt32) :
    ((calcCheckPrio .controlling ctl peer).u64 = pairPriority ctl.toNat peer.toNat ∧
        (calcCheckPrio .controlled peer ctl).u64 = pairPriority ctl.toNat peer.toNat ↔
      max ctl.toNat peer.toNat < 2 ^ 31) ∧
    calcCheckPrio .controlled peer ctl = calcCheckPrio .controlling ctl peer ∧
    cmpTimestamp (calcCheckPrio .controlled peer ctl) (calcCheckPrio .controlled peer' ctl') =
      cmpTimestamp (calcCheckPrio .controlling ctl peer) (calcCheckPrio .controlling ctl' peer') := by
  refine ⟨?_, rfl, rfl⟩
  have hiff := u64_exact_iff ctl peer
  constructor
  · exact fun h => hiff.1 h.1
  · exact fun h => ⟨hiff.2 h, hiff.2 h⟩

/-- A peer that announces 2^31: the carry is lost, and a pair that the formula puts above another
one comes below it. -/
theorem check_prio_loses_carry :
    ¬ ∀ ctl peer ctl' peer' : UInt32, (calcCheckPrio .controlling ctl peer).u64 = pairPriority ctl.toNat peer.toNat ∧
      (pairPriority ctl'.toNat peer'.toNat < pairPriority ctl.toNat peer.toNat →
        0 < cmpTimestamp (calcCheckPrio .controlling ctl peer) (calcCheckPrio .controlling ctl' peer')) := by
  intro h
  exact absurd (h 1 2147483648 1 3) (by decide)

def CheckState.rank : CheckState → ℕ
  | .frozen => 0
  | .waiting => 1
  | .inProgress => 2
  | .failed => 3
  | .succeeded => 4

def sortKey (c : Check) : ℕ ×ₗ ℕ := toLex (c.state.rank, c.prio.u64)

lemma cmpTimestamp_pos {t1 t2 : Timestamp} : 0 < cmpTimestamp t1 t2 ↔ t2.u64 < t1.u64 := by
  unfold cmpTimestamp
  split_ifs <;> omega

lemma cmpCheckState_pos {c1 c2 : Check} : 0 < cmpCheckState c1 c2 ↔ c2.state.rank < c1.state.rank := by
  unfold cmpCheckState
  cases c1.state <;> cases c2.state <;> decide

lemma cmpCheckState_eq {c1 c2 : Check} : cmpCheckState c1 c2 = 0 ↔ c2.state.rank = c1.state.rank := by
  unfold cmpCheckState
  cases c1.state <;> cases c2.state <;> decide

lemma sortsAbove_ordered : SelectionSort.OrderedBy sortsAbove sortKey := by
  intro x y
  unfold sortsAbove sortKey
  rw [decide_eq_true_eq, Prod.Lex.toLex_lt_toLex, cmpCheckState_pos, cmpCheckState_eq, cmpCheckPrio, cmpTimestamp_pos]

def CheckPtr.move (w : Which) (τ : Equiv.Perm ℕ) (p : CheckPtr) : CheckPtr :=
  if p.list = w then ⟨w, τ p.idx⟩ else p

def Comp.move (w : Which) (τ : Equiv.Perm ℕ) (c : Comp) : Comp :=
  ⟨c.validCheck.map (CheckPtr.move w τ), c.nominatedCheck.map (CheckPtr.move w τ)⟩

variable (w : Which)

lemma CheckPtr.repoint_eq (i h : ℕ) (p : CheckPtr) : p.repoint w i h = p.move w (Equiv.swap i h) := by
  obtain ⟨list, idx⟩ := p
  unfold repoint move
  simp only [CheckPtr.mk.injEq]
  by_cases hl : list = w
  · simp only [hl, true_and, if_true]
    rw [Equiv.swap_apply_def]
    by_cases h1 : idx = h
    · by_cases h2 : idx = i
      · rw [if_pos h1, if_pos h2, ← h1, ← h2]
      · rw [if_pos h1, if_neg h2, if_pos h1]
    · by_cases h2 : idx = i
      · rw [if_neg h1, if_pos h2, if_pos h2]
      · rw [if_neg h1, if_neg h2, if_neg h2, if_neg h1]
  · simp only [hl, false_and, if_false]

lemma CheckPtr.move_one (p : CheckPtr) : p.move w 1 = p := by
  obtain ⟨list, idx⟩ := p
  unfold move
  split_ifs with h
  · cases h
    rfl
  · rfl

lemma CheckPtr.move_move (τ π : Equiv.Perm ℕ) (p : CheckPtr) : (p.move w π).move w τ = p.move w (τ * π) := by
  unfold move
  by_cases h : p.list = w
  · simp only [if_pos h]
    rfl
  · simp only [if_neg h]

lemma Comp.move_one (comps : List Comp) : comps.map (Comp.move w 1) = comps := by
  have hid : CheckPtr.move w 1 = id := funext (CheckPtr.move_one w)
  have hcomp : Comp.move w 1 = id := by
    funext c
    simp only [Comp.move, hid, Option.map_id, id]
  rw [hcomp, List.map_id]

lemma Comp.move_move (τ π : Equiv.Perm ℕ) (comps : List Comp) :
    (comps.map (Comp.move w π)).map (Comp.move w τ) = comps.map (Comp.move w (τ * π)) := by
  have hptr : CheckPtr.move w τ ∘ CheckPtr.move w π = CheckPtr.move w (τ * π) :=
    funext (CheckPtr.move_move w τ π)
  rw [List.map_map]
  refine List.map_congr_left fun c _ => ?_
  simp only [Comp.move, Function.comp, Option.map_map]
  rw [hptr]

lemma Comp.repoint_eq (i h : ℕ) (comps : List Comp) :
    comps.map (Comp.repoint w i h) = comps.map (Comp.move w (Equiv.swap i h)) := by
  have hptr : CheckPtr.repoint w i h = CheckPtr.move w (Equiv.swap i h) := funext (CheckPtr.repoint_eq w i h)
  refine List.map_congr_left fun c _ => ?_
  rw [Comp.repoint, Comp.move, hptr]

lemma sortChecklist_moved (cl : Checklist) (comps : List Comp) :
    ∃ τ : Equiv.Perm ℕ, SelectionSort.Moved (fun τ comps => comps.map (Comp.move w τ)) cl.count (cl.checks, comps)
        ((sortChecklist w cl comps).1.checks, (sortChecklist w cl comps).2) τ ∧
      (sortChecklist w cl comps).1 = { cl with checks := (sortChecklist w cl comps).1.checks } ∧
      ∀ p q, p ≤ q → q < cl.count →
        sortKey ((sortChecklist w cl comps).1.checks q) ≤ sortKey ((sortChecklist w cl comps).1.checks p) := by
  have htell : ∀ i h (comps : List Comp), comps.map (Comp.repoint w i h) =
      (fun τ (comps : List Comp) => comps.map (Comp.move w τ)) (Equiv.swap i h) comps := Comp.repoint_eq w
  obtain ⟨τ, hτ, hsorted⟩ := SelectionSort.sort_spec sortsAbove_ordered (Comp.move_one w) (Comp.move_move w) htell
    cl.count (cl.checks, comps)
  exact ⟨τ, hτ, rfl, hsorted⟩

/-- A pointer of a component before and after: into the list it denotes the same record, elsewhere it
is the same. -/
def Follows (w : Which) (cl cl' : Checklist) : Option CheckPtr → Option CheckPtr → Prop
  | none, none => True
  | some p, some p' =>
    if p.list = w ∧ p.idx < cl.count then p'.list = w ∧ p'.idx < cl.count ∧ cl'.checks p'.idx = cl.checks p.idx
    else p' = p
  | _, _ => False

/-- What is said of `sort_checklist`. -/
structure Sorted (w : Which) (cl cl' : Checklist) (comps comps' : List Comp) : Prop where
  count : cl'.count = cl.count
  perm : ((List.range cl.count).map cl'.checks).Perm ((List.range cl.count).map cl.checks)
  descending : ∀ p q, p < q → q < cl.count →
    (cl'.checks q).state.rank < (cl'.checks p).state.rank ∨
      ((cl'.checks q).state.rank = (cl'.checks p).state.rank ∧ (cl'.checks q).prio.u64 ≤ (cl'.checks p).prio.u64)
  behind : ∀ p, cl.count ≤ p → cl'.checks p = cl.checks p
  pointers : List.Forall₂ (fun c c' => Follows w cl cl' c.validCheck c'.validCheck ∧
    Follows w cl cl' c.nominatedCheck c'.nominatedCheck) comps comps'

lemma follows_move {w : Which} {cl cl' : Checklist} {comps comps' : List Comp} {τ : Equiv.Perm ℕ}
    (h : SelectionSort.Moved (fun τ comps => comps.map (Comp.move w τ)) cl.count (cl.checks, comps)
      (cl'.checks, comps') τ) (p : Option CheckPtr) : Follows w cl cl' p (p.map (CheckPtr.move w τ)) := by
  cases p with
  | none => trivial
  | some p =>
    simp only [Option.map_some, Follows, CheckPtr.move]
    by_cases hl : p.list = w
    · rw [if_pos hl]
      by_cases hlt : p.idx < cl.count
      · rw [if_pos ⟨hl, hlt⟩]
        exact ⟨rfl, (h.lt_iff p.idx).2 hlt, h.elements p.idx⟩
      · rw [if_neg (fun hin => hlt hin.2), h.fixes p.idx (not_lt.1 hlt), ← hl]
    · rw [if_neg (fun hin => hl hin.1), if_neg hl]

lemma sortChecklist_sorted (cl : Checklist) (comps : List Comp) :
    Sorted w cl (sortChecklist w cl comps).1 comps (sortChecklist w cl comps).2 := by
  obtain ⟨τ, hmoved, hsame, hsorted⟩ := sortChecklist_moved w cl comps
  refine ⟨?_, hmoved.perm, ?_, ?_, ?_⟩
  · rw [hsame]
  · intro p q hpq hq
    have hle := hsorted p q hpq.le hq
    rcases Prod.Lex.toLex_le_toLex.1 hle with hlt | ⟨heq, hle⟩
    · exact .inl hlt
    · exact .inr ⟨heq, hle⟩
  · intro p hp
    have hel := hmoved.elements p
    rwa [hmoved.fixes p hp] at hel
  · have htold : (sortChecklist w cl comps).2 = comps.map (Comp.move w τ) := hmoved.told
    rw [htold, List.forall₂_map_right_iff]
    exact List.forall₂_same.2 fun c _ => ⟨follows_move hmoved c.validCheck, follows_move hmoved c.nominatedCheck⟩

structure Holds (a : ℕ → Check) (kept : List ℕ) (cl : Checklist) : Prop where
  count : cl.count = kept.length
  records : ∀ n (h : n < kept.length), cl.checks n = a (kept.get ⟨n, h⟩)

variable {a : ℕ → Check} {cl : Checklist} {lcand : ℕ → Cand}

lemma Holds.at {pre rest : List ℕ} {y : ℕ} (h : Holds a (pre ++ y :: rest) cl) : cl.checks pre.length = a y := by
  rw [h.records pre.length (by simp)]
  simp

lemma Holds.remove {pre rest : List ℕ} {y : ℕ} (h : Holds a (pre ++ y :: rest) cl) :
    Holds a (pre ++ rest) (removeCheck cl pre.length) := by
  have hcount := h.count
  simp only [List.length_append, List.length_cons] at hcount
  refine ⟨?_, ?_⟩
  · simp only [removeCheck, List.length_append]
    omega
  · intro n hn
    simp only [List.length_append] at hn
    simp only [removeCheck, List.get_eq_getElem]
    by_cases hlt : n < pre.length
    · rw [if_neg (by omega), h.records n (by simp; omega)]
      simp only [List.get_eq_getElem, List.getElem_append_left hlt]
    · rw [if_pos ⟨by omega, by omega⟩, h.records (n + 1) (by simp; omega)]
      simp only [List.get_eq_getElem]
      rw [List.getElem_append_right (by omega), List.getElem_append_right (by omega)]
      simp only [Nat.succ_sub (not_lt.1 hlt), List.getElem_cons_succ]

lemma pruneBehind_holds {i x : ℕ} (k : ℕ) : ∀ {pre rest : List ℕ} {cl : Checklist}, Holds a (pre ++ rest) cl →
    pre[i]? = some x → rest.length = k →
    Holds a (pre ++ rest.filter fun y => !isPruned lcand (a x) (a y)) (pruneBehind lcand i k pre.length cl) := by
  induction k with
  | zero =>
    intro pre rest cl h _ hk
    obtain rfl := List.length_eq_zero_iff.1 hk
    exact h
  | succ k ih =>
    intro pre rest cl h hi hk
    cases rest with
    | nil => cases hk
    | cons y rest =>
      rw [List.length_cons, Nat.succ_inj] at hk
      have hlt : i < pre.length := (List.getElem?_eq_some_iff.1 hi).1
      have hself : cl.checks i = a x := by
        rw [h.records i (by simp; omega), List.get_eq_getElem, List.getElem_append_left hlt,
          (List.getElem?_eq_some_iff.1 hi).2]
      rw [pruneBehind, hself, h.at]
      by_cases hp : isPruned lcand (a x) (a y) = true
      · rw [if_pos hp, List.filter_cons_of_neg (by simp [hp])]
        exact ih h.remove hi hk
      · rw [if_neg hp, List.filter_cons_of_pos (by simpa using hp)]
        have hmove : Holds a ((pre ++ [y]) ++ rest) cl := by rwa [List.append_assoc, List.singleton_append]
        have hrest := ih hmove (by rw [List.getElem?_append_left hlt, hi]) hk
        rwa [List.length_append, List.length_singleton, List.append_assoc, List.singleton_append] at hrest

variable (k : ℕ)

lemma pruneFrom_holds : ∀ {pre rest : List ℕ} {cl : Checklist}, Holds a (pre ++ rest) cl → rest.length ≤ k →
    Holds a (pre ++ Sieve.sieve (fun x y => isPruned lcand (a x) (a y)) k rest) (pruneFrom lcand k pre.length cl) := by
  induction k with
  | zero =>
    intro pre rest cl h hk
    obtain rfl := List.length_eq_zero_iff.1 (Nat.le_zero.1 hk)
    exact h
  | succ k ih =>
    intro pre rest cl h hk
    have hcount := h.count
    rw [List.length_append] at hcount
    rw [pruneFrom]
    cases rest with
    | nil =>
      rw [if_neg (by simp only [List.length_nil] at hcount; omega)]
      exact h
    | cons x rest =>
      rw [List.length_cons] at hk hcount
      rw [if_pos (by omega), Sieve.sieve]
      have hmove : Holds a ((pre ++ [x]) ++ rest) cl := by rwa [List.append_assoc, List.singleton_append]
      have hlen : (pre ++ [x]).length = pre.length + 1 := by simp
      have hself : (pre ++ [x])[pre.length]? = some x := by simp
      have hstep := @pruneBehind_holds _ lcand _ _ rest.length _ _ _ hmove hself rfl
      have hfilter := List.length_filter_le (fun y => !isPruned lcand (a x) (a y)) rest
      have hrest := ih hstep (hfilter.trans (by omega))
      rw [hlen, List.append_assoc, List.singleton_append] at hrest
      rwa [show cl.count - (pre.length + 1) = rest.length by omega]

lemma findFrom_spec {p : ℕ → Bool} (k : ℕ) : ∀ {i j : ℕ}, findFrom p k i = some j →
    i ≤ j ∧ j < i + k ∧ p j = true ∧ ∀ m, i ≤ m → m < j → p m = false := by
  induction k with
  | zero =>
    intro i j h
    cases h
  | succ k ih =>
    intro i j h
    rw [findFrom] at h
    by_cases hp : p i = true
    · rw [if_pos hp] at h
      obtain rfl := Option.some.inj h
      exact ⟨le_rfl, by omega, hp, fun m h1 h2 => by omega⟩
    · rw [if_neg hp] at h
      obtain ⟨h1, h2, h3, h4⟩ := ih h
      refine ⟨by omega, by omega, h3, fun m hm1 hm2 => ?_⟩
      rcases Nat.eq_or_lt_of_le hm1 with rfl | hm
      · simpa using hp
      · exact h4 m hm hm2

/-- A local candidate and the one that stands for it: a reflexive candidate has the first host
candidate at its base address, the others stand for themselves. -/
def IsBase (lcand : ℕ → Cand) (lcandCnt i host : ℕ) : Prop :=
  if (lcand i).type = .srflx ∨ (lcand i).type = .prflx then
    host < lcandCnt ∧ ((lcand host).type = .host ∧ (lcand i).baseAddr = (lcand host).addr) ∧
      ∀ m < host, ¬ ((lcand m).type = .host ∧ (lcand i).baseAddr = (lcand m).addr)
  else host = i

variable {lcandCnt : ℕ}

lemma baseCand_isBase {i host : ℕ} (h : baseCand lcand lcandCnt i = some host) :
    IsBase lcand lcandCnt i host := by
  unfold baseCand at h
  unfold IsBase
  split_ifs at h ⊢
  · obtain ⟨-, h2, h3, h4⟩ := findFrom_spec _ h
    refine ⟨by omega, of_decide_eq_true h3, fun m hm => of_decide_eq_false (h4 m (Nat.zero_le m) hm)⟩
  · exact (Option.some.inj h).symm

lemma replaceBases_spec : ∀ {i : ℕ} {checks : ℕ → Check}, (replaceBases lcand lcandCnt k i checks).2 = true →
    ∀ p, (i ≤ p → p < i + k → ∃ host, IsBase lcand lcandCnt (checks p).lcand host ∧
        (replaceBases lcand lcandCnt k i checks).1 p = { checks p with lcand := host }) ∧
      (p < i → (replaceBases lcand lcandCnt k i checks).1 p = checks p) := by
  induction k with
  | zero =>
    intro i checks _ p
    exact ⟨fun h1 h2 => by omega, fun _ => rfl⟩
  | succ k ih =>
    intro i checks h p
    rw [replaceBases] at h ⊢
    cases hb : baseCand lcand lcandCnt (checks i).lcand with
    | none =>
      rw [hb] at h
      cases h
    | some host =>
      rw [hb] at h
      dsimp only at h ⊢
      obtain ⟨h1, h2⟩ := ih h p
      refine ⟨fun hp1 hp2 => ?_, fun hp => ?_⟩
      · rcases Nat.eq_or_lt_of_le hp1 with rfl | hp
        · rw [h2 (Nat.lt_succ_self i), Function.update_self]
          exact ⟨host, baseCand_isBase hb, rfl⟩
        · have hrest := h1 hp (by omega)
          rwa [Function.update_of_ne (by omega)] at hrest
      · rw [h2 (by omega), Function.update_of_ne (by omega)]

lemma replaceBases_base {lcandCnt : ℕ} (k : ℕ) : ∀ {i : ℕ} {checks : ℕ → Check} (p : ℕ),
    (p < i → (replaceBases lcand lcandCnt k i checks).1 p = checks p) ∧
      ∃ host, (host = (checks p).lcand ∨ IsBase lcand lcandCnt (checks p).lcand host) ∧
        (replaceBases lcand lcandCnt k i checks).1 p = { checks p with lcand := host } := by
  induction k with
  | zero => exact fun p => ⟨fun _ => rfl, _, .inl rfl, rfl⟩
  | succ k ih =>
    intro i checks p
    rw [replaceBases]
    cases hb : baseCand lcand lcandCnt (checks i).lcand with
    | none => exact ⟨fun _ => rfl, _, .inl rfl, rfl⟩
    | some host =>
      dsimp only
      obtain ⟨hbefore, host', hbase, heq⟩ := @ih (i + 1) (Function.update checks i { checks i with lcand := host }) p
      by_cases hp : p = i
      · rw [hp] at hbefore ⊢
        rw [hbefore (Nat.lt_succ_self i), Function.update_self]
        exact ⟨fun hlt => absurd hlt (lt_irrefl i), host, .inr (baseCand_isBase hb), rfl⟩
      · rw [Function.update_of_ne hp] at hbefore hbase heq
        exact ⟨fun hlt => hbefore (Nat.lt_succ_of_lt hlt), host', hbase, heq⟩

/-- What is said of a successful `prune_checklist`: with the bases for the local candidates, the
records at some positions are kept in their order, and the others are those that a kept one before
them makes superfluous. -/
def Pruned (lcand : ℕ → Cand) (lcandCnt : ℕ) (cl cl' : Checklist) : Prop :=
  ∃ (rewritten : ℕ → Check) (kept : List ℕ),
    (∀ p < cl.count, ∃ host, IsBase lcand lcandCnt (cl.checks p).lcand host ∧
      rewritten p = { cl.checks p with lcand := host }) ∧
    kept.Pairwise (· < ·) ∧ (∀ p ∈ kept, p < cl.count) ∧ Holds rewritten kept cl' ∧
    ∀ p < cl.count, p ∉ kept ↔
      ((rewritten p).state = .frozen ∨ (rewritten p).state = .waiting) ∧
        ∃ q ∈ kept, q < p ∧ (rewritten q).rcand = (rewritten p).rcand ∧
          (lcand (rewritten q).lcand).baseAddr = (lcand (rewritten p).lcand).baseAddr

structure Arranged (cl cl' : Checklist) : Prop where
  foundation : cl'.foundation = cl.foundation
  checks : ∀ p, ∃ q, cl'.checks p = cl.checks q

lemma Arranged.refl (cl : Checklist) : Arranged cl cl := ⟨rfl, fun p => ⟨p, rfl⟩⟩

lemma Arranged.trans {cl' cl'' : Checklist} (h : Arranged cl cl') (h' : Arranged cl' cl'') : Arranged cl cl'' := by
  refine ⟨h'.foundation.trans h.foundation, fun p => ?_⟩
  obtain ⟨q, hq⟩ := h'.checks p
  obtain ⟨r, hr⟩ := h.checks q
  exact ⟨r, hq.trans hr⟩

lemma removeCheck_arranged : Arranged cl (removeCheck cl k) := by
  refine ⟨rfl, fun p => ?_⟩
  simp only [removeCheck]
  split_ifs
  · exact ⟨p + 1, rfl⟩
  · exact ⟨p, rfl⟩

lemma pruneBehind_arranged (i k : ℕ) : ∀ (j : ℕ) (cl : Checklist), Arranged cl (pruneBehind lcand i k j cl) := by
  induction k with
  | zero => exact fun _ cl => Arranged.refl cl
  | succ k ih =>
    intro j cl
    rw [pruneBehind]
    split_ifs
    · exact (removeCheck_arranged j).trans (ih j _)
    · exact ih (j + 1) cl

lemma pruneFrom_arranged : ∀ (i : ℕ) (cl : Checklist), Arranged cl (pruneFrom lcand k i cl) := by
  induction k with
  | zero => exact fun _ cl => Arranged.refl cl
  | succ k ih =>
    intro i cl
    rw [pruneFrom]
    split_ifs
    · exact (pruneBehind_arranged i _ _ cl).trans (ih (i + 1) _)
    · exact Arranged.refl cl

lemma pruneChecklist_arranged (lcandCnt : ℕ) (cl : Checklist) :
    (pruneChecklist lcand lcandCnt cl).1.foundation = cl.foundation ∧
      ∀ p, ∃ q host, (host = (cl.checks q).lcand ∨ IsBase lcand lcandCnt (cl.checks q).lcand host) ∧
        (pruneChecklist lcand lcandCnt cl).1.checks p = { cl.checks q with lcand := host } := by
  have hbase := @replaceBases_base lcand lcandCnt cl.count 0 cl.checks
  have harranged : Arranged { cl with checks := (replaceBases lcand lcandCnt cl.count 0 cl.checks).1 }
      (pruneChecklist lcand lcandCnt cl).1 := by
    unfold pruneChecklist
    dsimp only
    split_ifs
    · exact pruneFrom_arranged _ _ _
    · exact Arranged.refl _
  refine ⟨harranged.foundation, fun p => ?_⟩
  obtain ⟨q, hq⟩ := harranged.checks p
  obtain ⟨-, host, hhost, heq⟩ := hbase q
  exact ⟨q, host, hhost, hq.trans heq⟩

lemma isPruned_iff (ci cj : Check) : isPruned lcand ci cj = true ↔
    (cj.state = .frozen ∨ cj.state = .waiting) ∧ ci.rcand = cj.rcand ∧
      (lcand ci.lcand).baseAddr = (lcand cj.lcand).baseAddr := by
  unfold isPruned
  rw [decide_eq_true_eq]
  constructor
  · rintro ⟨hst, ⟨hl, hr⟩ | ⟨hr, hb⟩⟩
    · exact ⟨hst, hr, by rw [hl]⟩
    · exact ⟨hst, hr.symm, hb.symm⟩
  · intro ⟨hst, hr, hb⟩
    exact ⟨hst, .inr ⟨hr.symm, hb.symm⟩⟩

def keptPositions (lcand : ℕ → Cand) (lcandCnt : ℕ) (cl : Checklist) : List ℕ :=
  let rewritten := (replaceBases lcand lcandCnt cl.count 0 cl.checks).1
  Sieve.sieve (fun x y => isPruned lcand (rewritten x) (rewritten y)) cl.count (List.range cl.count)

lemma keptPositions_sublist (lcandCnt : ℕ) : (keptPositions lcand lcandCnt cl).Sublist (List.range cl.count) :=
  Sieve.sieve_sublist _ cl.count _

lemma pruneChecklist_holds (h : (replaceBases lcand lcandCnt cl.count 0 cl.checks).2 = true) :
    Holds (replaceBases lcand lcandCnt cl.count 0 cl.checks).1 (keptPositions lcand lcandCnt cl)
      (pruneChecklist lcand lcandCnt cl).1 := by
  unfold pruneChecklist keptPositions
  dsimp only
  rw [if_pos h]
  generalize (replaceBases lcand lcandCnt cl.count 0 cl.checks).1 = rewritten
  have hall : Holds rewritten ([] ++ List.range cl.count) { cl with checks := rewritten } :=
    ⟨by simp, fun n hn => by simp⟩
  exact pruneFrom_holds cl.count hall (by simp)

lemma pruneChecklist_ok (h : (pruneChecklist lcand lcandCnt cl).2 = true) :
    (replaceBases lcand lcandCnt cl.count 0 cl.checks).2 = true := by
  unfold pruneChecklist at h
  by_contra hno
  dsimp only at h
  rw [if_neg hno] at h
  cases h

lemma pruneChecklist_pruned (h : (pruneChecklist lcand lcandCnt cl).2 = true) :
    Pruned lcand lcandCnt cl (pruneChecklist lcand lcandCnt cl).1 := by
  have hok := pruneChecklist_ok h
  have hspec := replaceBases_spec cl.count hok
  have hsub := @keptPositions_sublist cl lcand lcandCnt
  refine ⟨_, _, fun p hp => (hspec p).1 (Nat.zero_le p) (by omega), List.pairwise_lt_range.sublist hsub,
    fun p hp => List.mem_range.1 (hsub.subset hp), pruneChecklist_holds hok, fun p hp => ?_⟩
  rw [keptPositions, Sieve.notMem_sieve_iff _ _ (by simp) List.pairwise_lt_range (List.mem_range.2 hp)]
  simp only [isPruned_iff]
  constructor
  · rintro ⟨q, hq, hlt, hst, hr, hb⟩
    exact ⟨hst, q, hq, hlt, hr, hb⟩
  · rintro ⟨hst, q, hq, hlt, hr, hb⟩
    exact ⟨q, hq, hlt, hst, hr, hb⟩

lemma notMem_keptPositions {p q : ℕ} (hp : p < cl.count) (hlt : q < p)
    (h : isPruned lcand ((replaceBases lcand lcandCnt cl.count 0 cl.checks).1 q)
      ((replaceBases lcand lcandCnt cl.count 0 cl.checks).1 p) = true) : p ∉ keptPositions lcand lcandCnt cl := by
  refine Sieve.notMem_sieve_of_kills (fun x y z hxy hyz => ?_) (by simp) List.pairwise_lt_range (List.mem_range.2 hp)
    (List.mem_range.2 (hlt.trans hp)) hlt h
  rw [isPruned_iff] at hxy hyz ⊢
  exact ⟨hyz.1, hxy.2.1.trans hyz.2.1, hxy.2.2.trans hyz.2.2⟩

/-- The sort moves every pointer with its record, and pruning removes exactly the Frozen and Waiting
checks that an earlier check makes superfluous. -/
theorem sort_and_prune (w : Which) (cl : Checklist) (comps : List Comp) (lcand : ℕ → Cand) (lcandCnt : ℕ) :
    Sorted w cl (sortChecklist w cl comps).1 comps (sortChecklist w cl comps).2 ∧
      ((pruneChecklist lcand lcandCnt cl).2 = true → Pruned lcand lcandCnt cl (pruneChecklist lcand lcandCnt cl).1) :=
  ⟨sortChecklist_sorted w cl comps, pruneChecklist_pruned⟩

def sampleCand : ℕ → Cand
  | 0 => ⟨.host, 1, 1, [0x48], 200, ⟨2, [10, 0, 0, 1], 4000⟩, ⟨2, [10, 0, 0, 1], 4000⟩⟩
  | _ => ⟨.srflx, 1, 1, [0x53], 100, ⟨2, [1, 2, 3, 4], 5000⟩, ⟨2, [10, 0, 0, 1], 4000⟩⟩

def sampleList : Checklist :=
  ⟨.idle, 2, fun p => if p = 0 then ⟨1, 0, 1, ⟨100, 300⟩, .frozen, none, false, 0⟩
    else ⟨0, 0, 0, ⟨200, 300⟩, .frozen, none, false, 0⟩, [[0x48], [0x53]], false⟩

/-- The check of the host candidate comes first, and the other one is gone. -/
theorem sort_and_prune_sample : Pruned sampleCand 2 (sortChecklist .clist sampleList []).1
        (pruneChecklist sampleCand 2 (sortChecklist .clist sampleList []).1).1 ∧
      (pruneChecklist sampleCand 2 (sortChecklist .clist sampleList []).1).1.count = 1 :=
  ⟨(sort_and_prune .clist (sortChecklist .clist sampleList []).1 [] sampleCand 2).2 (by decide), by decide⟩

end PjProject.IceSession
