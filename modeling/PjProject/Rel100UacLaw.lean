import PjProject.Rel100Uac

/-!
# The PRACKs of a run

While every response that comes next can be answered, and a response of another INVITE transaction
comes next, the state of a leg is the last RSeq that was answered. The responses that are answered
are then those that come next.
-/
namespace PjProject.Reliable

open Transition

variable {tag t : Bytes} {cseq c rseq : UInt32} {states : List UacState} {seen : List Seen}

lemma stricmpEq_congr {s t : Bytes} (h : stricmpEq s t = true) (u : Bytes) :
    stricmpEq u s = stricmpEq u t := by
  rw [Bool.eq_iff_iff]
  exact ⟨fun hu => stricmpEq_trans hu h, fun hu => stricmpEq_trans hu (stricmpEq_symm h)⟩

lemma findUacState_tag {s : UacState} (h : findUacState tag states = some s) : stricmpEq s.tag tag = true :=
  List.find?_some (p := fun s : UacState => stricmpEq s.tag tag) h

lemma findUacState_cons (s : UacState) (states : List UacState) (tag : Bytes) :
    findUacState tag (s :: states) = if stricmpEq s.tag tag = true then some s else findUacState tag states := by
  unfold findUacState
  rw [List.find?_cons]
  split <;> simp_all

lemma findUacState_set {new : UacState} (hnew : stricmpEq new.tag tag = true)
    (hfind : findUacState tag states ≠ none) (t : Bytes) : findUacState t (setUacState tag new states) =
      if stricmpEq t tag = true then some new else findUacState t states := by
  induction states with
  | nil => exact absurd rfl hfind
  | cons s states ih =>
    rw [findUacState_cons] at hfind
    by_cases hs : stricmpEq s.tag tag = true
    · rw [setUacState, if_pos hs, findUacState_cons, findUacState_cons]
      by_cases ht : stricmpEq t tag = true
      · rw [if_pos ht, if_pos (stricmpEq_trans hnew (stricmpEq_symm ht))]
      · have hof : ∀ u, stricmpEq u tag = true → ¬stricmpEq u t = true := fun u hu hut =>
          ht (stricmpEq_trans (stricmpEq_symm hut) hu)
        rw [if_neg ht, if_neg (hof _ hnew), if_neg (hof _ hs)]
    · rw [if_neg hs] at hfind
      rw [setUacState, if_neg hs, findUacState_cons, findUacState_cons, ih hfind]
      by_cases ht : stricmpEq t tag = true
      · have hst : ¬stricmpEq s.tag t = true := fun h => hs (stricmpEq_trans h ht)
        rw [if_pos ht, if_neg hst, if_pos ht]
      · rw [if_neg ht, if_neg ht]

lemma rackText_length (rseq cseq : UInt32) : (rackText rseq cseq).length < rackBuf := by
  have hr := utoa_length_le (n := rseq.toNat) (k := 10)
    (lt_trans rseq.toNat_lt (by norm_num)) (by decide)
  have hc := utoa_length_le (n := cseq.toNat) (k := 10)
    (lt_trans cseq.toNat_lt (by norm_num)) (by decide)
  have hm : (lit "INVITE").length = 6 := rfl
  simp only [rackText, rackBuf, List.length_append, List.length_cons, hm]
  omega

lemma makePrack_isOk {state : UacState} {r : Provisional} (env : UacEnv)
    (htag : stricmpEq state.tag r.toTag = true) :
    (makePrack state r rseq env).isOk = true ↔ CanAck r env := by
  have hlen := not_le.2 (rackText_length rseq r.cseq)
  have hremote : stricmpEq state.tag env.remoteTag = stricmpEq r.toTag env.remoteTag := by
    rw [Bool.eq_iff_iff]
    exact ⟨stricmpEq_trans (stricmpEq_symm htag), stricmpEq_trans htag⟩
  unfold makePrack CanAck
  rw [hremote]
  by_cases hcreates : env.creates = false
  · simp [hcreates, Except.isOk, Except.toBool]
  · rw [if_neg hcreates]
    by_cases hforked : stricmpEq r.toTag env.remoteTag = false ∧ r.contact = none
    · rw [if_pos hforked]
      simp [hforked.1, hforked.2, Except.isOk, Except.toBool]
    · rw [if_neg hforked, if_neg hlen]
      have hcan : stricmpEq r.toTag env.remoteTag = true ∨ r.contact ≠ none := by
        by_contra hno
        rw [not_or, not_not] at hno
        exact hforked ⟨Bool.eq_false_iff.2 hno.1, hno.2⟩
      simp [Except.isOk, Except.toBool, Bool.eq_true_of_not_eq_false hcreates, hcan]

lemma toNat_sub_one {x : UInt32} (h : ¬x < 1) : (x - 1).toNat + 1 = x.toNat := by
  have h1 : (1 : UInt32) ≤ x := UInt32.not_lt.1 h
  have hpos : 1 ≤ x.toNat := UInt32.le_iff_toNat_le.1 h1
  rw [UInt32.toNat_sub_of_le _ _ h1]
  exact Nat.sub_add_cancel hpos

lemma follows_iff (rseq base : UInt32) : (¬rseq ≤ base ∧ ¬rseq ≠ base + 1) ↔ rseq.toNat = base.toNat + 1 := by
  have hr := rseq.toNat_lt
  have hone : (1 : UInt32).toNat = 1 := rfl
  rw [not_not, UInt32.le_iff_toNat_le, ← UInt32.toNat_inj, UInt32.toNat_add, hone]
  omega

def baseRseq (states : List UacState) (r : Provisional) (rseq : UInt32) : UInt32 :=
  match findUacState r.toTag states with
  | none => rseq - 1
  | some state => (state.reset r rseq).rseq

@[simp] lemma reset_tag (state : UacState) (r : Provisional) (rseq : UInt32) :
    (state.reset r rseq).tag = state.tag := by
  unfold UacState.reset
  split_ifs <;> rfl

@[simp] lemma reset_cseq (state : UacState) (r : Provisional) (rseq : UInt32) :
    (state.reset r rseq).cseq = r.cseq := by
  unfold UacState.reset
  split_ifs with h
  · rfl
  · exact (not_not.1 h).symm

lemma baseRseq_fresh {r : Provisional}
    (h : ∀ state, findUacState r.toTag states = some state → state.cseq ≠ r.cseq) (rseq : UInt32) :
    baseRseq states r rseq = rseq - 1 := by
  unfold baseRseq
  cases hfind : findUacState r.toTag states with
  | none => rfl
  | some state => exact congrArg UacState.rseq (if_pos (h state hfind).symm)

lemma baseRseq_known {r : Provisional} {state : UacState}
    (h : findUacState r.toTag states = some state) (hcseq : state.cseq = r.cseq) (rseq : UInt32) :
    baseRseq states r rseq = state.rseq := by
  unfold baseRseq
  rw [h]
  exact congrArg UacState.rseq (if_neg (not_not.2 hcseq.symm))

lemma findUacState_ensureLeg (states : List UacState) (r : Provisional) (rseq : UInt32) :
    ∃ found, findUacState r.toTag (ensureLeg states r rseq) = some found ∧
      (found.reset r rseq).rseq = baseRseq states r rseq := by
  unfold ensureLeg baseRseq
  cases hfind : findUacState r.toTag states with
  | none =>
    refine ⟨⟨r.toTag, r.cseq, rseq - 1⟩, ?_, congrArg UacState.rseq (if_neg (not_not.2 rfl))⟩
    rw [findUacState_cons, if_pos (stricmpEq_refl _)]
  | some state => exact ⟨state, hfind, rfl⟩

lemma findUacState_ensureLeg_other (states : List UacState) (r : Provisional) (rseq : UInt32)
    (h : ¬stricmpEq t r.toTag = true) : findUacState t (ensureLeg states r rseq) = findUacState t states := by
  unfold ensureLeg
  cases findUacState r.toTag states with
  | none => rw [findUacState_cons, if_neg fun h' => h (stricmpEq_symm h')]
  | some state => rfl

lemma acceptRseq_spec (states : List UacState) (r : Provisional) (rseq : UInt32) (env : UacEnv) :
    ∃ new : UacState, new.cseq = r.cseq ∧
      new.rseq = (if rseq.toNat = (baseRseq states r rseq).toNat + 1 then rseq else baseRseq states r rseq) ∧
      (∀ t, findUacState t (acceptRseq states r rseq env).1 =
        if stricmpEq t r.toTag = true then some new else findUacState t states) ∧
      ((acceptRseq states r rseq env).2.isOk = true ↔
        rseq.toNat = (baseRseq states r rseq).toNat + 1 ∧ CanAck r env) := by
  obtain ⟨found, hfound, hbase⟩ := findUacState_ensureLeg states r rseq
  have htag := findUacState_tag hfound
  have hsome : findUacState r.toTag (ensureLeg states r rseq) ≠ none := by simp [hfound]
  -- the list changes at the leg of the response only
  have hset : ∀ new : UacState, new.tag = found.tag → ∀ t,
      findUacState t (setUacState r.toTag new (ensureLeg states r rseq)) =
        if stricmpEq t r.toTag = true then some new else findUacState t states := by
    intro new hnew t
    rw [findUacState_set (hnew ▸ htag) hsome]
    split_ifs with ht
    · rfl
    · exact findUacState_ensureLeg_other states r rseq ht
  unfold acceptRseq
  simp only [hfound, hbase]
  have hfollows := follows_iff rseq (baseRseq states r rseq)
  by_cases hle : rseq ≤ baseRseq states r rseq
  · have hno : ¬rseq.toNat = (baseRseq states r rseq).toNat + 1 := fun h => (hfollows.2 h).1 hle
    rw [if_pos hle, if_neg hno]
    exact ⟨_, reset_cseq _ _ _, hbase, hset _ (reset_tag _ _ _), by simp [hno, Except.isOk, Except.toBool]⟩
  · rw [if_neg hle]
    by_cases hne : rseq ≠ baseRseq states r rseq + 1
    · have hno : ¬rseq.toNat = (baseRseq states r rseq).toNat + 1 := fun h => (hfollows.2 h).2 hne
      rw [if_pos hne, if_neg hno]
      exact ⟨_, reset_cseq _ _ _, hbase, hset _ (reset_tag _ _ _), by simp [hno, Except.isOk, Except.toBool]⟩
    · have hyes := hfollows.1 ⟨hle, hne⟩
      rw [if_neg hne, if_pos hyes]
      refine ⟨{ found.reset r rseq with rseq := rseq }, reset_cseq _ _ _, rfl, hset _ (reset_tag _ _ _), ?_⟩
      rw [makePrack_isOk env (by simpa using htag)]
      exact ⟨fun hcan => ⟨hyes, hcan⟩, And.right⟩

lemma of_congr (h : stricmpEq t tag = true) (x : Seen) (cseq : UInt32) : x.of t cseq = x.of tag cseq := by
  unfold Seen.of
  rw [stricmpEq_congr h]

lemma firstSeen_congr (h : stricmpEq t tag = true) (cseq : UInt32) (seen : List Seen) :
    firstSeen t cseq seen = firstSeen tag cseq seen := by
  induction seen with
  | nil => rfl
  | cons x seen ih => rw [firstSeen, firstSeen, ih, of_congr h]

lemma ackedRseqs_congr (h : stricmpEq t tag = true) (cseq : UInt32) (seen : List Seen) :
    ackedRseqs t cseq seen = ackedRseqs tag cseq seen := by
  induction seen with
  | nil => rfl
  | cons x seen ih => rw [ackedRseqs, ackedRseqs, ih, of_congr h]

lemma nextRseq_congr (h : stricmpEq t tag = true) (cseq : UInt32) (seen : List Seen) :
    nextRseq t cseq seen = nextRseq tag cseq seen := by
  rw [nextRseq, nextRseq, firstSeen_congr h, ackedRseqs_congr h]

lemma firstSeen_other {x : Seen} (h : ¬x.of tag cseq = true) (seen : List Seen) :
    firstSeen tag cseq (x :: seen) = firstSeen tag cseq seen := by
  rw [firstSeen, if_neg h, Option.or_none]

lemma ackedRseqs_other {x : Seen} (h : ¬(x.of tag cseq && x.acked) = true) (seen : List Seen) :
    ackedRseqs tag cseq (x :: seen) = ackedRseqs tag cseq seen := by
  rw [ackedRseqs, if_neg h, List.append_nil]

def Consecutive (tag : Bytes) (cseq : UInt32) (seen : List Seen) : Prop :=
  (firstSeen tag cseq seen = none → ackedRseqs tag cseq seen = []) ∧
    ∀ first, firstSeen tag cseq seen = some first →
      ∃ k, ackedRseqs tag cseq seen = List.range' first (k + 1)

lemma nextRseq_eq_none : nextRseq tag cseq seen = none ↔ firstSeen tag cseq seen = none := by
  simp [nextRseq]

lemma nextRseq_answered {x : Seen} (hx : x.of tag cseq = true) (hacked : x.acked = true)
    (horder : InOrder seen tag cseq x.rseq) (hseen : Consecutive tag cseq seen) :
    nextRseq tag cseq (x :: seen) = some (x.rseq.toNat + 1) ∧ Consecutive tag cseq (x :: seen) := by
  have hboth : (x.of tag cseq && x.acked) = true := by simp [hx, hacked]
  have hacks : ackedRseqs tag cseq (x :: seen) = ackedRseqs tag cseq seen ++ [x.rseq.toNat] := by
    rw [ackedRseqs, if_pos hboth]
  cases hfirst : firstSeen tag cseq seen with
  | none =>
    have hfirst' : firstSeen tag cseq (x :: seen) = some x.rseq.toNat := by
      rw [firstSeen, hfirst, if_pos hx, Option.none_or]
    rw [hseen.1 hfirst, List.nil_append] at hacks
    refine ⟨by simp [nextRseq, hfirst', hacks], by simp [hfirst'], ?_⟩
    intro first heq
    obtain rfl := Option.some.inj (hfirst'.symm.trans heq)
    exact ⟨0, hacks⟩
  | some first =>
    obtain ⟨k, hk⟩ := hseen.2 first hfirst
    have hfirst' : firstSeen tag cseq (x :: seen) = some first := by
      rw [firstSeen, hfirst, Option.some_or]
    have hx' : x.rseq.toNat = first + (k + 1) := by
      have := horder (first + (k + 1)) (by simp [nextRseq, hfirst, hk])
      exact this
    rw [hk, hx'] at hacks
    have hrange : ackedRseqs tag cseq (x :: seen) = List.range' first (k + 1 + 1) := by
      rw [hacks, List.range'_concat (n := k + 1), Nat.one_mul]
    refine ⟨?_, by simp [hfirst'], ?_⟩
    · simp only [nextRseq, hfirst', hrange, Option.map_some, List.length_range', Option.some.injEq]
      omega
    · intro first' heq
      obtain rfl := Option.some.inj (hfirst'.symm.trans heq)
      exact ⟨k + 1, hrange⟩

lemma nextRseq_ignored {x : Seen} (hacked : ¬x.acked = true) (hfirst : firstSeen tag cseq seen ≠ none)
    (hseen : Consecutive tag cseq seen) :
    nextRseq tag cseq (x :: seen) = nextRseq tag cseq seen ∧ Consecutive tag cseq (x :: seen) := by
  obtain ⟨first, hfirst⟩ := Option.ne_none_iff_exists'.1 hfirst
  have hfirst' : firstSeen tag cseq (x :: seen) = firstSeen tag cseq seen := by
    rw [firstSeen, hfirst, Option.some_or]
  have hacks : ackedRseqs tag cseq (x :: seen) = ackedRseqs tag cseq seen :=
    ackedRseqs_other (by simp [hacked]) seen
  unfold Consecutive nextRseq
  rw [hfirst', hacks]
  exact ⟨rfl, hseen⟩

lemma nextRseq_other {x : Seen} (hx : ¬x.of tag cseq = true) (hseen : Consecutive tag cseq seen) :
    nextRseq tag cseq (x :: seen) = nextRseq tag cseq seen ∧ Consecutive tag cseq (x :: seen) := by
  have hacks : ackedRseqs tag cseq (x :: seen) = ackedRseqs tag cseq seen :=
    ackedRseqs_other (by simp [hx]) seen
  unfold Consecutive nextRseq
  rw [firstSeen_other hx, hacks]
  exact ⟨rfl, hseen⟩

structure UacInv (run : UacRun) : Prop where
  unseen : ∀ tag, findUacState tag run.states = none → ∀ cseq, firstSeen tag cseq run.seen = none
  next : ∀ tag state, findUacState tag run.states = some state →
    nextRseq tag state.cseq run.seen = some (state.rseq.toNat + 1)
  consecutive : ∀ tag cseq, Consecutive tag cseq run.seen

lemma UacInv.empty : UacInv ⟨[], []⟩ where
  unseen := fun _ _ _ => rfl
  next := fun _ _ h => by cases h
  consecutive := fun _ _ => ⟨fun _ => rfl, fun _ h => by cases h⟩

lemma Provisional.rseq_pos {r : Provisional} (h : r.rseq = .ok rseq) : ¬rseq < 1 := by
  unfold Provisional.rseq at h
  cases hhdr : r.rseqHdr with
  | none =>
    rw [hhdr] at h
    cases h
  | some value =>
    simp only [hhdr] at h
    split_ifs at h with hlt
    obtain rfl := Except.ok.inj h
    exact hlt

lemma UacInv.follows_iff_inOrder {run : UacRun} (h : UacInv run) {r : Provisional} {env : UacEnv}
    (hrseq : r.rseq = .ok rseq) (hsafe : UacSafe run (r, env)) :
    rseq.toNat = (baseRseq run.states r rseq).toNat + 1 ↔ InOrder run.seen r.toTag r.cseq rseq := by
  have hpred := toNat_sub_one (Provisional.rseq_pos hrseq)
  obtain ⟨-, hother⟩ := hsafe rseq hrseq
  cases hfind : findUacState r.toTag run.states with
  | none =>
    have hnext := nextRseq_eq_none.2 (h.unseen _ hfind r.cseq)
    rw [baseRseq_fresh (by simp [hfind]), InOrder, hnext, hpred]
    simp
  | some state =>
    by_cases hcseq : state.cseq = r.cseq
    · have hnext := h.next _ _ hfind
      rw [hcseq] at hnext
      rw [baseRseq_known hfind hcseq, InOrder, hnext]
      simp
    · have horder := hother state hfind hcseq
      rw [baseRseq_fresh (by simpa [hfind] using hcseq), hpred]
      exact iff_of_true rfl horder

lemma UacInv.next_of_not_inOrder {run : UacRun} (h : UacInv run) {r : Provisional} {env : UacEnv}
    (hrseq : r.rseq = .ok rseq) (hsafe : UacSafe run (r, env)) (hin : ¬InOrder run.seen r.toTag r.cseq rseq) :
    nextRseq r.toTag r.cseq run.seen = some ((baseRseq run.states r rseq).toNat + 1) := by
  obtain ⟨-, hother⟩ := hsafe rseq hrseq
  cases hfind : findUacState r.toTag run.states with
  | none =>
    have hnext := nextRseq_eq_none.2 (h.unseen _ hfind r.cseq)
    exact absurd (by simp [InOrder, hnext]) hin
  | some state =>
    have hcseq : state.cseq = r.cseq := by
      by_contra hne
      exact hin (hother state hfind hne)
    rw [baseRseq_known hfind hcseq, ← hcseq]
    exact h.next _ _ hfind

lemma uacStep_error {run : UacRun} {r : Provisional} {e : Refusal} (h : r.rseq = .error e) (env : UacEnv) :
    uacStep run (r, env) = run := by
  unfold uacStep createPrack
  simp only [h]

lemma createPrack_ok {r : Provisional} (h : r.rseq = .ok rseq) (states : List UacState) (env : UacEnv) :
    createPrack states r env = acceptRseq states r rseq env := by
  unfold createPrack
  simp only [h]

lemma uacStep_ok {run : UacRun} {r : Provisional} (h : r.rseq = .ok rseq) (env : UacEnv) :
    uacStep run (r, env) = ⟨(acceptRseq run.states r rseq env).1,
      ⟨r.toTag, r.cseq, rseq, (acceptRseq run.states r rseq env).2.isOk⟩ :: run.seen⟩ := by
  unfold uacStep
  simp only [h, createPrack_ok h]

lemma UacInv.answers {run : UacRun} (h : UacInv run) {r : Provisional} {env : UacEnv}
    (hrseq : r.rseq = .ok rseq) (hsafe : UacSafe run (r, env)) :
    (createPrack run.states r env).2.isOk = true ↔ InOrder run.seen r.toTag r.cseq rseq := by
  obtain ⟨-, -, -, -, hok⟩ := acceptRseq_spec run.states r rseq env
  rw [createPrack_ok hrseq, hok, h.follows_iff_inOrder hrseq hsafe]
  exact and_iff_left_of_imp (hsafe rseq hrseq).1

lemma UacInv.step {run : UacRun} (h : UacInv run) (input : Provisional × UacEnv)
    (hsafe : UacSafe run input) : UacInv (uacStep run input) := by
  obtain ⟨r, env⟩ := input
  cases hrseq : r.rseq with
  | error e => rwa [uacStep_error hrseq]
  | ok rseq =>
    have hanswers := h.answers hrseq hsafe
    have hfollows := h.follows_iff_inOrder hrseq hsafe
    obtain ⟨new, hcseq, hnew, hfind, -⟩ := acceptRseq_spec run.states r rseq env
    rw [createPrack_ok hrseq] at hanswers
    rw [uacStep_ok hrseq]
    set x : Seen := ⟨r.toTag, r.cseq, rseq, (acceptRseq run.states r rseq env).2.isOk⟩ with hx
    -- what the step does to the leg and the INVITE transaction of the response, and to the others
    have hsame : ∀ tag, stricmpEq tag r.toTag = true →
        nextRseq tag r.cseq (x :: run.seen) = some (new.rseq.toNat + 1) ∧
          Consecutive tag r.cseq (x :: run.seen) := by
      intro tag htag
      have hof : x.of tag r.cseq = true := by simp [Seen.of, hx, stricmpEq_symm htag]
      have hcongr := nextRseq_congr htag r.cseq run.seen
      by_cases hin : InOrder run.seen r.toTag r.cseq rseq
      · rw [if_pos (hfollows.2 hin)] at hnew
        rw [hnew]
        refine nextRseq_answered hof (hanswers.2 hin) ?_ (h.consecutive tag r.cseq)
        rwa [InOrder, hcongr]
      · rw [if_neg fun hf => hin (hfollows.1 hf)] at hnew
        have hnext := hcongr.trans (h.next_of_not_inOrder hrseq hsafe hin)
        have hfirst : firstSeen tag r.cseq run.seen ≠ none := by
          rw [Ne, ← nextRseq_eq_none, hnext]
          simp
        have hkeep := nextRseq_ignored (x := x) (fun hacked => hin (hanswers.1 hacked)) hfirst
          (h.consecutive tag r.cseq)
        rw [hnew, ← hnext]
        exact hkeep
    have hother : ∀ tag cseq, ¬x.of tag cseq = true →
        nextRseq tag cseq (x :: run.seen) = nextRseq tag cseq run.seen ∧
          Consecutive tag cseq (x :: run.seen) := fun tag cseq hof =>
      nextRseq_other hof (h.consecutive tag cseq)
    refine ⟨fun tag hnone cseq => ?_, fun tag state hsome => ?_, fun tag cseq => ?_⟩
    · rw [hfind] at hnone
      split_ifs at hnone with htag
      have hof : ¬x.of tag cseq = true := by
        simpa [Seen.of, hx] using fun h' => absurd (stricmpEq_symm h') htag
      rw [firstSeen_other hof]
      exact h.unseen tag hnone cseq
    · rw [hfind] at hsome
      split_ifs at hsome with htag
      · obtain rfl := Option.some.inj hsome
        rw [hcseq]
        exact (hsame tag htag).1
      · have hof : ¬x.of tag state.cseq = true := by
          simpa [Seen.of, hx] using fun h' => absurd (stricmpEq_symm h') htag
        rw [(hother tag state.cseq hof).1]
        exact h.next tag state hsome
    · by_cases hof : x.of tag cseq = true
      · simp only [Seen.of, hx, Bool.and_eq_true, decide_eq_true_eq] at hof
        obtain ⟨htag, rfl⟩ := hof
        exact (hsame tag (stricmpEq_symm htag)).2
      · exact (hother tag cseq hof).2

/-- In a run whose responses can be answered when they come next, and in which a response of
another INVITE transaction than the last of its leg comes next, the RSeqs that are answered are
consecutive from the first seen, the state of each leg is the last of them, and a further response
is answered exactly when it comes next. -/
theorem prack_in_order (inputs : List (Provisional × UacEnv)) (h : Guarded uacStep UacSafe ⟨[], []⟩ inputs) :
    (∀ tag cseq, ackedRseqs tag cseq (run uacStep ⟨[], []⟩ inputs).seen = [] ∧
        firstSeen tag cseq (run uacStep ⟨[], []⟩ inputs).seen = none ∨
      ∃ first k, firstSeen tag cseq (run uacStep ⟨[], []⟩ inputs).seen = some first ∧
        ackedRseqs tag cseq (run uacStep ⟨[], []⟩ inputs).seen = List.range' first (k + 1)) ∧
    (∀ tag state, findUacState tag (run uacStep ⟨[], []⟩ inputs).states = some state →
      (ackedRseqs tag state.cseq (run uacStep ⟨[], []⟩ inputs).seen).getLast? = some state.rseq.toNat) ∧
    ∀ r env rseq, r.rseq = .ok rseq → UacSafe (run uacStep ⟨[], []⟩ inputs) (r, env) →
      ((createPrack (run uacStep ⟨[], []⟩ inputs).states r env).2.isOk = true ↔
        InOrder (run uacStep ⟨[], []⟩ inputs).seen r.toTag r.cseq rseq) := by
  have hinv : UacInv (run uacStep ⟨[], []⟩ inputs) :=
    h.invariant (fun run input hrun hsafe => hrun.step input hsafe) UacInv.empty
  refine ⟨fun tag cseq => ?_, fun tag state hfind => ?_, fun r env rseq hrseq hsafe => ?_⟩
  · obtain ⟨hnone, hsome⟩ := hinv.consecutive tag cseq
    cases hfirst : firstSeen tag cseq (run uacStep ⟨[], []⟩ inputs).seen with
    | none => exact .inl ⟨hnone hfirst, rfl⟩
    | some first =>
      obtain ⟨k, hk⟩ := hsome first hfirst
      exact .inr ⟨first, k, rfl, hk⟩
  · have hnext := hinv.next tag state hfind
    unfold nextRseq at hnext
    obtain ⟨first, hfirst, heq⟩ := Option.map_eq_some_iff.1 hnext
    obtain ⟨k, hk⟩ := (hinv.consecutive tag state.cseq).2 first hfirst
    rw [hk, List.length_range'] at heq
    rw [hk, List.range'_concat, List.getLast?_concat]
    congr 1
    omega
  · exact hinv.answers hrseq hsafe

def forkedResponse (contact : Option Bytes) : Provisional := ⟨lit "b", 1, some (lit "7"), contact⟩

def forkedEnv : UacEnv := ⟨lit "a", true⟩

theorem prack_in_order_forked :
    (createPrack (run uacStep ⟨[], []⟩ [(forkedResponse (some (lit "sip:b")), forkedEnv)]).states
      (forkedResponse (some (lit "sip:b"))) forkedEnv).2.isOk = true ↔
    InOrder (run uacStep ⟨[], []⟩ [(forkedResponse (some (lit "sip:b")), forkedEnv)]).seen (lit "b") 1 7 := by
  have hrseq : (forkedResponse (some (lit "sip:b"))).rseq = .ok 7 := rfl
  have hsafe : ∀ run, (∀ state, findUacState (lit "b") run.states = some state → state.cseq = 1) →
      UacSafe run (forkedResponse (some (lit "sip:b")), forkedEnv) := by
    intro run hstate rseq _
    refine ⟨fun _ => ⟨rfl, .inr (by simp [forkedResponse])⟩, fun state hfind hne => ?_⟩
    exact absurd (hstate state hfind) hne
  refine (prack_in_order [(forkedResponse (some (lit "sip:b")), forkedEnv)]
    ⟨hsafe _ (fun state h => by cases h), trivial⟩).2.2 _ _ _ hrseq (hsafe _ fun state h => ?_)
  obtain rfl : state = ⟨lit "b", 1, 7⟩ := by
    have h' : some (⟨lit "b", 1, 7⟩ : UacState) = some state := h
    exact (Option.some.inj h').symm
  rfl

/-- A response of another leg without a Contact is recorded as accepted and not answered; it is not
answered when it comes again with one either. -/
theorem unanswered_recorded :
    let after := uacStep ⟨[], []⟩ (forkedResponse none, forkedEnv)
    findUacState (lit "b") after.states = some ⟨lit "b", 1, 7⟩ ∧ ackedRseqs (lit "b") 1 after.seen = [] ∧
      firstSeen (lit "b") 1 after.seen = some 7 ∧
      (createPrack after.states (forkedResponse (some (lit "sip:b"))) forkedEnv).2.isOk = false := by
  decide

end PjProject.Reliable
