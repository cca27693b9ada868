import PjProject.SrvResolverBuild

/-!
# DNS SRV resolution completes once

While the targets are resolved, `host_resolved` counts the targets with no query
outstanding, so it reaches the number of targets with the last answer and not before. The
loop of `resolve_hostnames` is followed one target at a time: the targets behind the
current one are settled, those ahead of it blank.
-/
namespace PjProject.SrvResolver
open Transition

def Target.closed (t : Target) : Bool := t.qA ≠ .query ∧ t.qAaaa ≠ .query

/-- The target has been handled by `resolve_hostnames`. -/
def Target.Settled (t : Target) : Prop := t.qA ≠ .dummy ∧ t.qAaaa ≠ .dummy

lemma Target.Blank.closed {t : Target} (h : t.Blank) : t.closed = true := by
  simp [Target.closed, h.1, h.2]

lemma Target.Blank.settled {t : Target} (h : t.Blank) : t.Settled := by
  simp [Target.Settled, h.1, h.2]

@[simp] lemma ptr_setPtr_same (t : Target) (v6 : Bool) (p : Ptr) : (t.setPtr v6 p).ptr v6 = p := by
  cases v6 <;> rfl

@[simp] lemma ptr_setPtr_other (t : Target) (v6 : Bool) (p : Ptr) :
    (t.setPtr v6 p).ptr (!v6) = t.ptr (!v6) := by
  cases v6 <;> rfl

@[simp] lemma setPtr_setPtr (t : Target) (v6 : Bool) (p q : Ptr) :
    (t.setPtr v6 p).setPtr v6 q = t.setPtr v6 q := by
  cases v6 <;> rfl

@[simp] lemma addrs_setPtr (t : Target) (v6 : Bool) (p : Ptr) :
    (t.setPtr v6 p).addrs = t.addrs := by
  cases v6 <;> rfl

@[simp] lemma ptr_answered (t : Target) (v6 w : Bool) (ans : AddrAnswer) :
    (t.answered v6 ans).ptr w = t.ptr w := by
  cases ans <;> rfl

@[simp] lemma qA_answered (t : Target) (v6 : Bool) (ans : AddrAnswer) :
    (t.answered v6 ans).qA = t.qA := by
  cases ans <;> rfl

@[simp] lemma qAaaa_answered (t : Target) (v6 : Bool) (ans : AddrAnswer) :
    (t.answered v6 ans).qAaaa = t.qAaaa := by
  cases ans <;> rfl

lemma closed_iff (t : Target) (v6 : Bool) :
    t.closed = true ↔ t.ptr v6 ≠ .query ∧ t.ptr (!v6) ≠ .query := by
  cases v6 <;> simp [Target.closed, Target.ptr, and_comm]

lemma Target.Settled.ptr {t : Target} (h : t.Settled) (v6 : Bool) :
    t.ptr v6 = .null ∨ t.ptr v6 = .query := by
  have hd : t.ptr v6 ≠ .dummy := by
    cases v6
    · exact h.1
    · exact h.2
  cases hp : t.ptr v6 with
  | null => exact .inl rfl
  | query => exact .inr rfl
  | dummy => exact absurd hp hd

section Middle
variable {α : Type*} (pre rest : List α) (t u : α)

lemma exists_mid {l : List α} {i : ℕ} {t : α} (h : l[i]? = some t) :
    ∃ pre rest, l = pre ++ t :: rest ∧ pre.length = i := by
  obtain ⟨hi, rfl⟩ := List.getElem?_eq_some_iff.mp h
  refine ⟨l.take i, l.drop (i + 1), ?_, ?_⟩
  · rw [List.cons_getElem_drop_succ, List.take_append_drop]
  · simp only [List.length_take]
    omega

lemma getElem?_mid : (pre ++ t :: rest)[pre.length]? = some t := by simp

lemma set_mid : (pre ++ t :: rest).set pre.length u = pre ++ u :: rest := by simp

lemma modify_mid (f : α → α) :
    (pre ++ t :: rest).modify pre.length f = pre ++ f t :: rest := by
  induction pre with
  | nil => rfl
  | cons a pre ih => simpa using ih

lemma getElem?_mid_ne {k : ℕ} (hk : k ≠ pre.length) :
    (pre ++ t :: rest)[k]? = (pre ++ u :: rest)[k]? := by
  rcases Nat.lt_or_gt_of_ne hk with hlt | hgt
  · rw [List.getElem?_append_left hlt, List.getElem?_append_left hlt]
  · rw [List.getElem?_append_right hgt.le, List.getElem?_append_right hgt.le]
    obtain ⟨m, hm⟩ := Nat.exists_eq_add_of_lt hgt
    rw [show k - pre.length = m + 1 by omega]
    rfl

end Middle

structure Linked (j : Job) : Prop where
  nodup : j.out.Nodup
  mem : ∀ q, q ∈ j.out ↔ j.holds q = true

section Linked
variable {j : Job} {pre rest : List Target} {t : Target}

lemma holds_mid (hsrv : j.srv = pre ++ t :: rest) (v6 : Bool) :
    j.holds (.addr pre.length v6) = decide (t.ptr v6 = .query) := by
  simp [Job.holds, hsrv]

lemma holds_mid_ne (hsrv : j.srv = pre ++ t :: rest) {j' : Job} {u : Target}
    (hsrv' : j'.srv = pre ++ u :: rest) (hq : j'.qSrv = j.qSrv) {q : Query}
    (hne : ∀ v6, q ≠ .addr pre.length v6) : j'.holds q = j.holds q := by
  cases q with
  | srv => exact hq
  | addr k v6 =>
    have hk : k ≠ pre.length := by
      rintro rfl
      exact hne v6 rfl
    simp only [Job.holds, hsrv, hsrv', getElem?_mid_ne pre rest t u hk]

lemma Linked.replace (h : Linked j) (hsrv : j.srv = pre ++ t :: rest) {j' : Job} {u : Target}
    (hsrv' : j'.srv = pre ++ u :: rest) (hq : j'.qSrv = j.qSrv) (hnd : j'.out.Nodup)
    (hown : ∀ v6, .addr pre.length v6 ∈ j'.out ↔ u.ptr v6 = .query)
    (hother : ∀ q, (∀ v6, q ≠ .addr pre.length v6) → (q ∈ j'.out ↔ q ∈ j.out)) :
    Linked j' := by
  refine ⟨hnd, fun q => ?_⟩
  by_cases hi : ∃ v6, q = .addr pre.length v6
  · obtain ⟨v6, rfl⟩ := hi
    rw [hown, holds_mid hsrv' v6, decide_eq_true_iff]
  · have hne : ∀ v6, q ≠ .addr pre.length v6 := fun v6 hv => hi ⟨v6, hv⟩
    rw [hother q hne, h.mem q, holds_mid_ne hsrv hsrv' hq hne]

lemma Linked.mem_mid (h : Linked j) (hsrv : j.srv = pre ++ t :: rest) (v6 : Bool) :
    .addr pre.length v6 ∈ j.out ↔ t.ptr v6 = .query := by
  rw [h.mem, holds_mid hsrv, decide_eq_true_iff]

lemma Linked.drop (h : Linked j) (hsrv : j.srv = pre ++ t :: rest) (v6 : Bool) {j' : Job}
    {u : Target} (hsrv' : j'.srv = pre ++ u :: rest) (hq : j'.qSrv = j.qSrv)
    (hout : j'.out = j.out.erase (.addr pre.length v6)) (hu : u.ptr v6 ≠ .query)
    (hu' : u.ptr (!v6) = t.ptr (!v6)) : Linked j' := by
  refine h.replace hsrv hsrv' hq (hout ▸ h.nodup.erase _) (fun w => ?_) (fun q hne => ?_)
  · rw [hout, List.Nodup.mem_erase_iff h.nodup, h.mem_mid hsrv]
    by_cases hw : w = v6
    · subst hw
      simp [hu]
    · rw [show w = !v6 by cases w <;> cases v6 <;> simp_all, hu']
      simp
  · rw [hout, List.Nodup.mem_erase_iff h.nodup]
    exact and_iff_right (hne v6)

lemma Linked.erase_mid (h : Linked j) (hsrv : j.srv = pre ++ t :: rest) {v6 : Bool}
    (ht : t.ptr v6 ≠ .query) : j.out = j.out.erase (.addr pre.length v6) :=
  (List.erase_of_not_mem fun hm => ht ((h.mem_mid hsrv v6).mp hm)).symm

end Linked

/-- The job inside the loop of `resolve_hostnames`, at target `t`: `c` is what this target
has contributed to `host_resolved`. -/
structure At (o : Opt) (b : ℕ) (pre : List Target) (t : Target) (rest : List Target) (c : ℕ)
    (j : Job) : Prop where
  option : j.option = o
  srv : j.srv = pre ++ t :: rest
  qSrv : j.qSrv = false
  busy : j.busy = b + 1
  calls : j.calls = []
  linked : Linked j
  count : j.hostResolved = pre.countP Target.closed + c + rest.countP Target.hasAddr
  deferred : j.deferred = none ∨ j.deferred = some 0 ∧ j.hostResolved = j.srv.length

section At
variable {o : Opt} {b c : ℕ} {pre rest : List Target} {t : Target} {j : Job}

lemma At.incomplete (h : At o b pre t rest 0 j) :
    j.hostResolved < j.srv.length ∧ j.deferred = none := by
  have h1 := pre.countP_le_length (p := Target.closed)
  have h2 := rest.countP_le_length (p := Target.hasAddr)
  have hc := h.count
  have hlt : j.hostResolved < j.srv.length := by
    rw [h.srv, List.length_append, List.length_cons]
    omega
  refine ⟨hlt, ?_⟩
  rcases h.deferred with hd | ⟨-, heq⟩
  · exact hd
  · omega

lemma At.setPtr (h : At o b pre t rest c j) (v6 : Bool) (p : Ptr) (hp : p ≠ .query)
    (ht : t.ptr v6 ≠ .query) :
    At o b pre (t.setPtr v6 p) rest c (j.setPtr pre.length v6 p) := by
  have hsrv : (j.setPtr pre.length v6 p).srv = pre ++ t.setPtr v6 p :: rest := by
    simp only [Job.setPtr, h.srv, modify_mid]
  refine ⟨h.option, hsrv, h.qSrv, h.busy, h.calls, ?_, h.count, ?_⟩
  · exact h.linked.drop h.srv v6 hsrv rfl (h.linked.erase_mid h.srv ht) (by simpa using hp)
      (ptr_setPtr_other t v6 p)
  · rcases h.deferred with hd | ⟨hd, hn⟩
    · exact .inl hd
    · refine .inr ⟨hd, ?_⟩
      rw [hsrv, List.length_append, List.length_cons]
      rwa [h.srv, List.length_append, List.length_cons] at hn

lemma At.pending (h : At o b pre t rest 0 j) {v6 : Bool} (ht : t.ptr v6 ≠ .query) :
    At o b pre (t.setPtr v6 .query) rest 0
      { j.setPtr pre.length v6 .query with out := .addr pre.length v6 :: j.out } := by
  have hsrv : (j.setPtr pre.length v6 .query).srv = pre ++ t.setPtr v6 .query :: rest := by
    simp only [Job.setPtr, h.srv, modify_mid]
  have hnew : .addr pre.length v6 ∉ j.out := fun hm => ht ((h.linked.mem_mid h.srv v6).mp hm)
  refine ⟨h.option, hsrv, h.qSrv, h.busy, h.calls, ?_, h.count, .inl h.incomplete.2⟩
  refine h.linked.replace h.srv hsrv rfl (List.nodup_cons.mpr ⟨hnew, h.linked.nodup⟩)
    (fun w => ?_) (fun q hq => ?_)
  · rw [List.mem_cons, h.linked.mem_mid h.srv]
    by_cases hw : w = v6
    · subst hw
      simp
    · rw [show w = !v6 by cases w <;> cases v6 <;> simp_all, ptr_setPtr_other]
      simp
  · rw [List.mem_cons]
    exact or_iff_right (hq v6)

lemma dnsCallbackAddr_mid (hsrv : j.srv = pre ++ t :: rest) (v6 : Bool) (ans : AddrAnswer) :
    ∃ j', j' = { j with
        srv := pre ++ (t.setPtr v6 .null).answered v6 ans :: rest
        lastError := ans.lastError j.lastError
        hostResolved := if t.ptr (!v6) = .null then j.hostResolved + 1 else j.hostResolved } ∧
      dnsCallbackAddr pre.length v6 ans j =
        if j'.hostResolved = j'.srv.length then completeQuery 0 j' else j' := by
  refine ⟨_, rfl, ?_⟩
  simp only [dnsCallbackAddr, hsrv, getElem?_mid, set_mid]

lemma At.answered (h : At o b pre t rest 0 j) (v6 : Bool) (ht : t.ptr v6 ≠ .query)
    (ans : AddrAnswer) :
    At o b pre ((t.setPtr v6 .null).answered v6 ans) rest
      (if t.ptr (!v6) = .null then 1 else 0) (dnsCallbackAddr pre.length v6 ans j) := by
  obtain ⟨j', hj', heq⟩ := dnsCallbackAddr_mid h.srv v6 ans
  have hlink : Linked j' :=
    h.linked.drop h.srv v6 (by rw [hj']) (by rw [hj'])
      (by rw [hj']; exact h.linked.erase_mid h.srv ht) (by simp) (by simp)
  have hcount : j'.hostResolved = pre.countP Target.closed +
      (if t.ptr (!v6) = .null then 1 else 0) + rest.countP Target.hasAddr := by
    have := h.count
    rw [hj']
    dsimp only
    split <;> omega
  have hat : At o b pre ((t.setPtr v6 .null).answered v6 ans) rest
      (if t.ptr (!v6) = .null then 1 else 0) j' := by
    refine ⟨?_, ?_, ?_, ?_, ?_, hlink, hcount, .inl ?_⟩
    all_goals rw [hj']
    exacts [h.option, h.qSrv, h.busy, h.calls, h.incomplete.2]
  rw [heq]
  by_cases hn : j'.hostResolved = j'.srv.length
  · have hb : 0 < j'.busy := by rw [hat.busy]; omega
    rw [if_pos hn, completeQuery, if_pos hb]
    exact ⟨hat.option, hat.srv, hat.qSrv, hat.busy, hat.calls, ⟨hlink.nodup, hlink.mem⟩,
      hat.count, .inr ⟨rfl, hn⟩⟩
  · rwa [if_neg hn]

variable {j' : Job} {status : ℕ}

lemma At.start_cases (h : At o b pre t rest 0 j) (v6 : Bool) (ht : t.ptr v6 ≠ .query)
    (env : Starts) (hr : startAddr env pre.length v6 j = (j', status)) :
    (At o b pre (t.setPtr v6 .null) rest 0 j' ∧ status ≠ 0) ∨
    (At o b pre (t.setPtr v6 .query) rest 0 j' ∧ status = 0) ∨
    ∃ ans, At o b pre ((t.setPtr v6 .null).answered v6 ans) rest
      (if t.ptr (!v6) = .null then 1 else 0) j' ∧ status = 0 := by
  have hnull := h.setPtr v6 .null (by simp) ht
  unfold startAddr at hr
  split at hr
  · rename_i st _
    obtain ⟨rfl, rfl⟩ := Prod.mk.inj hr
    exact .inl ⟨hnull, st.ne_zero⟩
  · obtain ⟨rfl, rfl⟩ := Prod.mk.inj hr
    exact .inr (.inl ⟨h.pending ht, rfl⟩)
  · rename_i ans _
    obtain ⟨rfl, rfl⟩ := Prod.mk.inj hr
    have ha := hnull.answered v6 (by simp) ans
    rw [setPtr_setPtr, ptr_setPtr_other] at ha
    exact .inr (.inr ⟨ans, ha, rfl⟩)

/-- A target after its queries were started: all went well and it is counted when nothing is
outstanding, or a query did not start and `countFailed` has to decide. -/
def Started (t : Target) (c status : ℕ) : Prop :=
  status = 0 ∧ t.Settled ∧ c = (if t.closed then 1 else 0) ∨
  status ≠ 0 ∧ c = 0 ∧ (t.qA = .null ∧ (t.qAaaa = .null ∨ t.qAaaa = .dummy) ∨
    t.qA = .query ∧ t.qAaaa = .null)

lemma At.startedAaaa (h : At o b pre t rest 0 j) (hA : t.qA = .null ∨ t.qA = .query)
    (hq : t.qAaaa ≠ .query) (env : Starts)
    (hr : startAddr env pre.length true j = (j', status)) :
    ∃ t' c, At o b pre t' rest c j' ∧ Started t' c status := by
  rcases h.start_cases true hq env hr with ⟨hat, hst⟩ | ⟨hat, hst⟩ | ⟨ans, hat, hst⟩
  · refine ⟨_, _, hat, .inr ⟨hst, rfl, ?_⟩⟩
    rcases hA with hA | hA <;> simp [Target.setPtr, hA]
  · refine ⟨_, _, hat, .inl ⟨hst, ?_, ?_⟩⟩
    · rcases hA with hA | hA <;> simp [Target.Settled, Target.setPtr, hA]
    · simp [Target.closed, Target.setPtr]
  · refine ⟨_, _, hat, .inl ⟨hst, ?_, ?_⟩⟩
    · rcases hA with hA | hA <;> simp [Target.Settled, Target.setPtr, hA]
    · rcases hA with hA | hA <;> simp [Target.closed, Target.setPtr, Target.ptr, hA]

lemma At.startedA (h : At o b pre t rest 0 j) (hb : t.Blank) (env : Starts) (hr : startAddr env pre.length false j = (j', status)) :
    ∃ t' c, At o b pre t' rest c j' ∧ Started t' c status := by
  rcases h.start_cases false (by simp [Target.ptr, hb.1]) env hr with
    ⟨hat, hst⟩ | ⟨hat, hst⟩ | ⟨ans, hat, hst⟩
  · exact ⟨_, _, hat, .inr ⟨hst, rfl, by simp [Target.setPtr, hb.2]⟩⟩
  · refine ⟨_, _, hat, .inl ⟨hst, ?_, ?_⟩⟩ <;>
      simp [Target.Settled, Target.closed, Target.setPtr, hb.2]
  · refine ⟨_, _, hat, .inl ⟨hst, ?_, ?_⟩⟩ <;>
      simp [Target.Settled, Target.closed, Target.setPtr, Target.ptr, hb.2]

lemma At.started (h : At o b pre t rest 0 j) (hb : t.Blank)
    (ho : o.resolveAaaaOnly = true → o.resolveAaaa = true) (env : Starts)
    (hr : startAaaa env pre.length (startA env pre.length j) = (j', status)) :
    ∃ t' c, At o b pre t' rest c j' ∧ Started t' c status := by
  unfold startA at hr
  split at hr
  · rename_i honly
    rw [h.option] at honly
    rw [startAaaa, if_pos ⟨rfl, by rw [h.option]; exact ho honly⟩] at hr
    exact h.startedAaaa (.inl hb.1) (by simp [hb.2]) env hr
  · split at hr
    · -- An A query behind the dummy, then the AAAA query.
      have hd := h.setPtr true .dummy (by simp) (by simp [Target.ptr, hb.2])
      cases hA : startAddr env pre.length false (j.setPtr pre.length true .dummy) with
      | mk jA stA =>
      rw [hA] at hr
      rcases hd.start_cases false (by simp [Target.ptr, Target.setPtr, hb.1]) env hA with
        ⟨hat, hst⟩ | ⟨hat, hst⟩ | ⟨ans, hat, hst⟩
      · rw [startAaaa, if_neg fun hc => hst hc.1] at hr
        obtain ⟨rfl, rfl⟩ := Prod.mk.inj hr
        exact ⟨_, _, hat, .inr ⟨hst, rfl, by simp [Target.setPtr]⟩⟩
      · rename_i haaaa
        rw [startAaaa, if_pos ⟨hst, by rw [hat.option, ← h.option]; exact haaaa⟩] at hr
        exact hat.startedAaaa (.inr rfl) (by simp [Target.setPtr]) env hr
      · rename_i haaaa
        rw [startAaaa, if_pos ⟨hst, by rw [hat.option, ← h.option]; exact haaaa⟩] at hr
        rw [if_neg (by simp [Target.ptr, Target.setPtr])] at hat
        exact hat.startedAaaa (.inl (by simp [Target.setPtr])) (by simp [Target.setPtr]) env hr
    · rename_i haaaa
      cases hA : startAddr env pre.length false j with
      | mk jA stA =>
      obtain ⟨t', c, hat, hs⟩ := h.startedA hb env hA
      rw [hA, startAaaa, if_neg] at hr
      · obtain ⟨rfl, rfl⟩ := Prod.mk.inj hr
        exact ⟨t', c, hat, hs⟩
      · rintro ⟨-, hc⟩
        rw [hat.option, ← h.option] at hc
        exact haaaa hc

end At

/-- The loop of `resolve_hostnames` with the targets `pre` behind it and `rest` ahead. -/
structure Loop (o : Opt) (b : ℕ) (pre rest : List Target) (s : Job × ℕ × ℕ) : Prop where
  option : s.1.option = o
  srv : s.1.srv = pre ++ rest
  qSrv : s.1.qSrv = false
  busy : s.1.busy = b + 1
  calls : s.1.calls = []
  linked : Linked s.1
  count : s.1.hostResolved = pre.countP Target.closed + rest.countP Target.hasAddr
  deferred : s.1.deferred = none ∨ s.1.deferred = some 0 ∧ s.1.hostResolved = s.1.srv.length
  settled : ∀ u ∈ pre, u.Settled
  blank : ∀ u ∈ rest, u.Blank
  errors : s.2.1 ≤ pre.length
  failed : s.2.1 = pre.length →
    (∀ u ∈ pre, u.closed = true ∧ u.addrs = []) ∧ s.1.deferred = none
  status : 0 < s.2.1 → s.2.2 ≠ 0

section Loop
variable {o : Opt} {b : ℕ} {pre rest : List Target} {t : Target} {j : Job} {errCnt err : ℕ}

lemma At.toLoop {c errCnt' err' : ℕ} {t' : Target} (hat : At o b pre t' rest c j)
    (hs : t'.Settled) (hc : c = if t'.closed then 1 else 0)
    {j₀ : Job} (h : Loop o b pre (t :: rest) (j₀, errCnt, err))
    (herr : errCnt' = errCnt ∧ err' = err ∨
      errCnt' = errCnt + 1 ∧ err' ≠ 0 ∧ t'.closed = true ∧ t'.addrs = [] ∧ j.deferred = none) :
    Loop o b (pre ++ [t']) rest (j, errCnt', err') where
  option := hat.option
  srv := by simp [hat.srv]
  qSrv := hat.qSrv
  busy := hat.busy
  calls := hat.calls
  linked := hat.linked
  count := by
    have := hat.count
    simp only [List.countP_append, List.countP_singleton]
    omega
  deferred := hat.deferred
  settled u hu := by
    rcases List.mem_append.mp hu with hu | hu
    · exact h.settled u hu
    · rwa [List.mem_singleton.mp hu]
  blank u hu := h.blank u (List.mem_cons_of_mem _ hu)
  errors := by
    have := h.errors
    simp only [List.length_append, List.length_singleton] at this ⊢
    omega
  failed := by
    have := h.errors
    intro heq
    simp only [List.length_append, List.length_singleton] at this heq
    rcases herr with ⟨rfl, -⟩ | ⟨rfl, -, hcl, ha, hd⟩
    · omega
    · refine ⟨fun u hu => ?_, hd⟩
      rcases List.mem_append.mp hu with hu | hu
      · exact (h.failed (show errCnt = pre.length by omega)).1 u hu
      · rw [List.mem_singleton.mp hu]
        exact ⟨hcl, ha⟩
  status := by
    intro hpos
    rcases herr with ⟨rfl, rfl⟩ | ⟨-, hne, -⟩
    · exact h.status hpos
    · exact hne

lemma countFailed_loop {t' : Target} (hat : At o b pre t' rest 0 j) {status : ℕ}
    (hst : status ≠ 0)
    (hp : t'.qA = .null ∧ (t'.qAaaa = .null ∨ t'.qAaaa = .dummy) ∨
      t'.qA = .query ∧ t'.qAaaa = .null)
    {j₀ : Job} (h : Loop o b pre (t :: rest) (j₀, errCnt, err)) :
    ∃ u, Loop o b (pre ++ [u]) rest (countFailed pre.length status errCnt err j) := by
  simp only [countFailed, hat.srv, getElem?_mid]
  rcases hp with ⟨hA, hA4⟩ | ⟨hA, hA4⟩
  · have hq : t'.ptr true ≠ .query := by
      rcases hA4 with hA4 | hA4 <;> simp [Target.ptr, hA4]
    have hset := hat.setPtr true .null (by simp) hq
    have hcl : (t'.setPtr true .null).closed = true := by
      simp [Target.closed, Target.setPtr, hA]
    have hs : (t'.setPtr true .null).Settled := by
      simp [Target.Settled, Target.setPtr, hA]
    have hone : At o b pre (t'.setPtr true .null) rest 1
        { j.setPtr pre.length true .null with hostResolved := j.hostResolved + 1 } := by
      refine ⟨hset.option, hset.srv, hset.qSrv, hset.busy, hset.calls,
        ⟨hset.linked.nodup, hset.linked.mem⟩, ?_, .inl hset.incomplete.2⟩
      have := hat.count
      dsimp only
      omega
    refine ⟨t'.setPtr true .null, ?_⟩
    rw [if_pos ⟨hA, hA4⟩]
    split
    · rename_i ha
      exact hone.toLoop hs (by simp [hcl]) h
        (.inr ⟨rfl, hst, hcl, by simpa using ha, hset.incomplete.2⟩)
    · exact hone.toLoop hs (by simp [hcl]) h (.inl ⟨rfl, rfl⟩)
  · refine ⟨t', ?_⟩
    rw [if_neg (by simp [hA])]
    refine hat.toLoop ?_ ?_ h (.inl ⟨rfl, rfl⟩)
    · simp [Target.Settled, hA, hA4]
    · simp [Target.closed, hA]

lemma Loop.step (h : Loop o b pre (t :: rest) (j, errCnt, err))
    (ho : o.resolveAaaaOnly = true → o.resolveAaaa = true) (env : Starts) :
    ∃ u, Loop o b (pre ++ [u]) rest (resolveTarget env pre.length (j, errCnt, err)) := by
  have hb : t.Blank := h.blank t List.mem_cons_self
  have hsrv : j.srv = pre ++ t :: rest := h.srv
  unfold resolveTarget
  simp only [hsrv, getElem?_mid]
  split
  · rename_i ha
    refine ⟨t, At.toLoop (c := 1) ?_ hb.settled (by simp [hb.closed]) h (.inl ⟨rfl, rfl⟩)⟩
    refine ⟨h.option, hsrv, h.qSrv, h.busy, h.calls, h.linked, ?_, h.deferred⟩
    have hcount : j.hostResolved = _ := h.count
    rw [List.countP_cons_of_pos (by simpa [Target.hasAddr] using ha)] at hcount
    omega
  · rename_i ha
    have hat : At o b pre t rest 0 j := by
      refine ⟨h.option, hsrv, h.qSrv, h.busy, h.calls, h.linked, ?_, h.deferred⟩
      have := h.count
      simp [Target.hasAddr, Decidable.not_not.mp ha] at this
      omega
    have h1 := hat.setPtr false .null (by simp) (by simp [Target.ptr, hb.1])
    have h2 := h1.setPtr true .null (by simp) (by simp [Target.ptr, Target.setPtr, hb.2])
    cases hr : startAaaa env pre.length (startA env pre.length
      ((j.setPtr pre.length false .null).setPtr pre.length true .null)) with
    | mk j' status =>
    obtain ⟨t', c, hat', hs | ⟨hst, rfl, hp⟩⟩ := h2.started ⟨rfl, rfl⟩ ho env hr
    · obtain ⟨hst, hset, hc⟩ := hs
      dsimp only
      rw [if_pos hst]
      exact ⟨t', hat'.toLoop hset hc h (.inl ⟨rfl, rfl⟩)⟩
    · dsimp only
      rw [if_neg hst]
      exact countFailed_loop hat' hst hp h

lemma Loop.run (ho : o.resolveAaaaOnly = true → o.resolveAaaa = true) (env : Starts)
    {s : Job × ℕ × ℕ} (h : Loop o b pre rest s) :
    ∃ all, all.length = pre.length + rest.length ∧
      Loop o b all [] (resolveTargets env rest.length pre.length s) := by
  induction rest generalizing pre s with
  | nil => exact ⟨pre, rfl, h⟩
  | cons t rest ih =>
    obtain ⟨j, errCnt, err⟩ := s
    obtain ⟨u, hu⟩ := h.step ho env
    obtain ⟨all, hlen, hall⟩ := ih hu
    refine ⟨all, ?_, ?_⟩
    · simp only [List.length_append, List.length_cons, List.length_nil] at hlen ⊢
      omega
    · simpa [resolveTargets] using hall

end Loop

end PjProject.SrvResolver
