import PjProject.SrvResolverLaw

/-!
# Every run of an SRV resolution

Between two answers a job either waits for queries or has called the application. A
completion found while queries are being started is kept until the job is no longer busy.
-/
namespace PjProject.SrvResolver
open Transition

/-- Everything is known that `complete_query` is about to report with `status`. -/
structure Ended (status : ℕ) (j : Job) : Prop where
  out : j.out = []
  bounded : j.hostResolved ≤ j.srv.length
  size : j.srv.length ≤ maxSrv
  unresolved : status ≠ 0 → ∀ t ∈ j.srv, t.addrs = []

structure Waiting (j : Job) : Prop where
  linked : Linked j
  out : j.out ≠ []
  settled : ∀ t ∈ j.srv, t.Settled
  count : j.hostResolved = j.srv.countP Target.closed
  size : j.srv.length ≤ maxSrv
  stage : j.qSrv = true → j.srv = []
  option : j.option.resolveAaaaOnly = true → j.option.resolveAaaa = true
  calls : j.calls = []
  deferred : j.deferred = none

structure Done (j : Job) : Prop where
  out : j.out = []
  bounded : j.hostResolved ≤ j.srv.length
  report : ∃ c, j.calls = [c] ∧ c.pending = [] ∧
    ∀ t ∈ j.srv, t.addrs ≠ [] → ∃ es, c.record = some es ∧ t.entry ∈ es

/-- How a function leaves a job that is used by `b` callers. -/
def Outcome (b : ℕ) (j : Job) : Prop :=
  j.busy = b ∧ (Waiting j ∨ b = 0 ∧ Done j ∨
    0 < b ∧ j.calls = [] ∧ ∃ status, j.deferred = some status ∧ Ended status j)

lemma entry_mem {j : Job} (hsize : j.srv.length ≤ maxSrv) {t : Target} (ht : t ∈ j.srv)
    (ha : t.addrs ≠ []) : t.entry ∈ j.entries := by
  refine List.mem_map.mpr ⟨t, ?_, rfl⟩
  rw [List.take_of_length_le ((List.length_filter_le _ _).trans hsize)]
  exact List.mem_filter.mpr ⟨ht, by simpa using ha⟩

variable {b : ℕ}

lemma completeQuery_outcome {status : ℕ} {j : Job} (hb : j.busy = b) (hc : j.calls = [])
    (he : Ended status j) : Outcome b (completeQuery status j) := by
  unfold completeQuery
  split
  · rename_i hpos
    exact ⟨hb, .inr (.inr ⟨hb ▸ hpos, hc, status, rfl, ⟨he.out, he.bounded, he.size, he.unresolved⟩⟩)⟩
  · rename_i hpos
    have hb0 : b = 0 := by omega
    split
    · rename_i hst
      refine ⟨hb, .inr (.inl ⟨hb0, ?_, ?_, ?_⟩)⟩
      · simp [Job.tell, pjDnsSrvCancelQuery, he.out]
      · simpa [Job.tell, pjDnsSrvCancelQuery] using he.bounded
      · refine ⟨_, by rw [Job.tell, pjDnsSrvCancelQuery, hc], ?_, ?_⟩
        · simp [he.out]
        · intro t ht ha
          obtain ⟨u, hu, rfl⟩ := List.mem_map.mp ht
          exact absurd (he.unresolved hst u hu) ha
    · refine ⟨hb, .inr (.inl ⟨hb0, he.out, he.bounded, ?_⟩)⟩
      refine ⟨_, by rw [Job.tell, hc], he.out, ?_⟩
      intro t ht ha
      exact ⟨j.entries, rfl, entry_mem he.size ht ha⟩

lemma unsetBusy_outcome {j : Job} (h : Outcome (b + 1) j) : Outcome b (unsetBusy j) := by
  obtain ⟨hb, hw | ⟨h0, -⟩ | ⟨-, hc, status, hd, he⟩⟩ := h
  · have hw' : Waiting { j with busy := j.busy - 1 } :=
      ⟨⟨hw.linked.nodup, hw.linked.mem⟩, hw.out, hw.settled, hw.count, hw.size, hw.stage,
        hw.option, hw.calls, hw.deferred⟩
    have heq : unsetBusy j = { j with busy := j.busy - 1 } := by
      simp [unsetBusy, hw.deferred]
    rw [heq]
    exact ⟨by simp [hb], .inl hw'⟩
  · omega
  · unfold unsetBusy
    dsimp only
    split
    · rename_i h0
      simp only [hd]
      have hb0 : b = 0 := by omega
      subst hb0
      exact completeQuery_outcome h0 hc ⟨he.out, he.bounded, he.size, he.unresolved⟩
    · rename_i h0
      exact ⟨by simp [hb], .inr (.inr ⟨by omega, hc, status, hd,
        ⟨he.out, he.bounded, he.size, he.unresolved⟩⟩)⟩

lemma Linked.out_eq_nil_iff {j : Job} (h : Linked j) (hq : j.qSrv = false) :
    j.out = [] ↔ ∀ t ∈ j.srv, t.closed = true := by
  constructor
  · intro hout t ht
    obtain ⟨i, hi⟩ := List.mem_iff_getElem?.mp ht
    have hno : ∀ v6, t.ptr v6 ≠ .query := by
      intro v6 hp
      have := (h.mem (.addr i v6)).mpr (by simp [Job.holds, hi, hp])
      simp [hout] at this
    exact (closed_iff t true).mpr ⟨hno true, hno false⟩
  · intro hall
    refine List.eq_nil_iff_forall_not_mem.mpr fun q hmem => ?_
    have hh := (h.mem q).mp hmem
    cases q with
    | srv => simp [Job.holds, hq] at hh
    | addr i v6 =>
      simp only [Job.holds, Option.any_eq_true, decide_eq_true_eq] at hh
      obtain ⟨t, ht, hp⟩ := hh
      exact ((closed_iff t v6).mp (hall t (List.mem_of_getElem? ht))).1 hp

structure Fresh (b : ℕ) (j : Job) : Prop where
  busy : j.busy = b
  calls : j.calls = []
  deferred : j.deferred = none
  out : j.out = []
  qSrv : j.qSrv = false
  blank : ∀ t ∈ j.srv, t.Blank
  count : j.hostResolved = j.srv.countP Target.hasAddr
  size : j.srv.length ≤ maxSrv
  option : j.option.resolveAaaaOnly = true → j.option.resolveAaaa = true

lemma Fresh.loop {j : Job} (h : Fresh b j) :
    Loop j.option b [] j.srv (setBusy j, 0, 0) where
  option := rfl
  srv := rfl
  qSrv := h.qSrv
  busy := by simp [setBusy, h.busy]
  calls := h.calls
  linked := by
    have hout : (setBusy j).out = [] := h.out
    refine ⟨by simp [hout], fun q => iff_of_false (by simp [hout]) ?_⟩
    cases q with
    | srv => simp [Job.holds, setBusy, h.qSrv]
    | addr i v6 =>
      simp only [Job.holds, setBusy, Option.any_eq_true, decide_eq_true_eq]
      rintro ⟨t, ht, hp⟩
      have hb := h.blank t (List.mem_of_getElem? ht)
      cases v6 <;> simp [Target.ptr, hb.1, hb.2] at hp
  count := by simpa [setBusy] using h.count
  deferred := .inl h.deferred
  settled := by simp
  blank := h.blank
  errors := by simp
  failed _ := ⟨by simp, h.deferred⟩
  status := by simp

lemma Fresh.resolveHostnames {j : Job} (h : Fresh b j)
    (hne : j.hostResolved ≠ j.srv.length) (env : Starts) {j' : Job} {status : ℕ}
    (hr : resolveHostnames env j = (j', status)) : status = 0 ∧ Outcome b j' ∨
      status ≠ 0 ∧ j'.busy = b ∧ j'.calls = [] ∧ Ended status j' := by
  obtain ⟨all, hlen, hl⟩ := h.loop.run h.option env
  cases hs : resolveTargets env j.srv.length 0 (setBusy j, 0, 0) with
  | mk j₁ p =>
  obtain ⟨errCnt, err⟩ := p
  simp only [List.length_nil, hs] at hl
  have hsrv : j₁.srv = all := by simpa using hl.srv
  have hcount : j₁.hostResolved = j₁.srv.countP Target.closed := by
    simpa [hsrv] using hl.count
  have hbound : j₁.hostResolved ≤ j₁.srv.length := hcount ▸ List.countP_le_length
  have hsize : j₁.srv.length ≤ maxSrv := by
    rw [hsrv, hlen]
    simpa using h.size
  have hpos : 0 < all.length := by
    have := j.srv.countP_le_length (p := Target.hasAddr)
    have := h.count
    simp only [List.length_nil] at hlen
    omega
  have hnil := hl.linked.out_eq_nil_iff hl.qSrv
  unfold SrvResolver.resolveHostnames at hr
  simp only [hs] at hr
  split at hr
  · rename_i herr
    obtain ⟨rfl, rfl⟩ := Prod.mk.inj hr
    have hf := (hl.failed (by simpa [hsrv] using herr)).1
    refine .inr ⟨hl.status (by simp only [herr, hsrv]; exact hpos), ?_, hl.calls, ?_⟩
    · simp [show j₁.busy = b + 1 from hl.busy]
    · refine ⟨hnil.mpr fun t ht => (hf t (hsrv ▸ ht)).1, hbound, hsize, fun _ t ht => ?_⟩
      exact (hf t (hsrv ▸ ht)).2
  · obtain ⟨rfl, rfl⟩ := Prod.mk.inj hr
    refine .inl ⟨rfl, unsetBusy_outcome ?_⟩
    by_cases hfull : j₁.hostResolved = j₁.srv.length
    · have hout : j₁.out = [] := by
        refine hnil.mpr fun t ht => ?_
        exact List.countP_eq_length.mp (hcount.symm.trans hfull) t ht
      have hend : Ended 0 j₁ := ⟨hout, hbound, hsize, fun h0 => absurd rfl h0⟩
      have hd : (if j₁.deferred = none ∧ j₁.hostResolved = j₁.srv.length then
          { j₁ with deferred := some 0 } else j₁) = { j₁ with deferred := some 0 } := by
        rcases hl.deferred with hd | ⟨hd, -⟩
        · rw [if_pos ⟨hd, hfull⟩]
        · have hd : j₁.deferred = some 0 := hd
          rw [if_neg (by simp [hd]), ← hd]
      rw [hd]
      exact ⟨hl.busy, .inr (.inr ⟨by omega, hl.calls, 0, rfl,
        ⟨hend.out, hend.bounded, hend.size, hend.unresolved⟩⟩)⟩
    · rw [if_neg fun hc => hfull hc.2]
      have hd : j₁.deferred = none := by
        rcases hl.deferred with hd | ⟨-, hd⟩
        · exact hd
        · exact absurd hd hfull
      refine ⟨hl.busy, .inl ⟨hl.linked, ?_, ?_, hcount, hsize, ?_, ?_, hl.calls, hd⟩⟩
      · intro hout
        have hall := hnil.mp hout
        exact hfull (hcount.trans (List.countP_eq_length.mpr hall))
      · intro t ht
        exact hl.settled t (hsrv ▸ ht)
      · intro hq
        rw [show j₁.qSrv = false from hl.qSrv] at hq
        contradiction
      · rw [show j₁.option = j.option from hl.option]
        exact h.option

lemma Fresh.fallback {j : Job} (h : Fresh b j) : Fresh b (fallback j) := by
  unfold SrvResolver.fallback
  split
  · rename_i hn
    refine ⟨h.busy, h.calls, h.deferred, h.out, h.qSrv, ?_, ?_, by simp [maxSrv], ?_⟩
    · intro t ht
      rw [List.mem_singleton.mp ht]
      exact ⟨rfl, rfl⟩
    · simpa [Target.hasAddr, hn.1] using h.count
    · dsimp only
      intro hc
      exact (Bool.and_eq_true _ _ ▸ hc).1
  · exact h

lemma Fresh.resolveServers {j : Job} (h : Fresh b j) (env : Starts) : Outcome b (resolveServers env j) := by
  have hf := h.fallback
  unfold SrvResolver.resolveServers
  dsimp only
  split
  · rename_i hne
    cases hr : SrvResolver.resolveHostnames env (SrvResolver.fallback j) with
    | mk j' status =>
    dsimp only
    rcases hf.resolveHostnames hne env hr with ⟨hst, ho⟩ | ⟨hst, hb, hc, he⟩
    · rwa [if_neg (by simp [hst])]
    · rw [if_pos hst]
      exact completeQuery_outcome hb hc he
  · rename_i heq
    refine completeQuery_outcome hf.busy hf.calls ⟨hf.out, ?_, hf.size, fun h0 => absurd rfl h0⟩
    exact (Decidable.not_not.mp heq).le

structure Answered (b : ℕ) (j : Job) : Prop where
  busy : j.busy = b
  calls : j.calls = []
  deferred : j.deferred = none
  out : j.out = []
  srv : j.srv = []
  hostResolved : j.hostResolved = 0
  option : j.option.resolveAaaaOnly = true → j.option.resolveAaaa = true

lemma buildServerEntries_fresh (lib : Lib) (rand : ℕ → ℕ) (pkt : Packet) {j : Job}
    (h : Answered b j) (hq : j.qSrv = false) : Fresh b (buildServerEntries lib rand pkt j) := by
  obtain ⟨len, hlen, hc⟩ := buildServerEntries_counted lib rand pkt h.hostResolved
  have hsame : ∃ ts n, buildServerEntries lib rand pkt j = { j with srv := ts, hostResolved := n } := by
    unfold buildServerEntries
    dsimp only
    split
    · exact ⟨[], j.hostResolved, rfl⟩
    · exact ⟨_, _, rfl⟩
  obtain ⟨ts, n, heq⟩ := hsame
  rw [heq] at hc ⊢
  exact ⟨h.busy, h.calls, h.deferred, h.out, hq, hc.blank, hc.count, hc.length ▸ hlen, h.option⟩

lemma Answered.dnsCallbackSrv (lib : Lib) (rand : ℕ → ℕ) (env : Starts) (ans : SrvAnswer) {j : Job} (h : Answered b j) : Outcome b (dnsCallbackSrv lib rand env ans j) := by
  have hend : ∀ e status, Ended status { j with qSrv := false, lastError := e } :=
    fun e status => ⟨h.out, by simp [h.hostResolved], by simp [h.srv], by simp [h.srv]⟩
  have hfresh : ∀ e, Fresh b { j with qSrv := false, lastError := e } :=
    fun e => ⟨h.busy, h.calls, h.deferred, h.out, rfl, by simp [h.srv],
      by simp [h.srv, h.hostResolved], by simp [h.srv], h.option⟩
  unfold SrvResolver.dnsCallbackSrv
  dsimp only
  split
  · split
    · exact (hfresh _).resolveServers env
    · exact completeQuery_outcome h.busy h.calls (hend _ _)
  · rename_i pkt
    split
    · exact completeQuery_outcome h.busy h.calls (hend _ _)
    · refine Fresh.resolveServers ?_ env
      split
      · exact hfresh j.lastError
      · exact buildServerEntries_fresh lib rand pkt
          ⟨h.busy, h.calls, h.deferred, h.out, h.srv, h.hostResolved, h.option⟩ rfl

lemma newJob_option (option : Opt) (domain : Bytes) (defPort : ℕ) :
    (newJob option domain defPort).option.resolveAaaaOnly = true →
      (newJob option domain defPort).option.resolveAaaa = true := by
  intro h
  simp only [newJob, Bool.or_eq_true] at h ⊢
  exact .inr h

lemma pjDnsSrvResolve_outcome (lib : Lib) (env : Env) (start : Start SrvAnswer) (option : Opt)
    (domain : Bytes) (defPort : ℕ)
    (hok : (pjDnsSrvResolve lib env start (newJob option domain defPort)).2 = 0) :
    Outcome 0 (pjDnsSrvResolve lib env start (newJob option domain defPort)).1 := by
  have hopt := newJob_option option domain defPort
  cases start with
  | failed status => exact absurd hok status.ne_zero
  | pending =>
    refine unsetBusy_outcome ⟨rfl, .inl ⟨⟨by simp [setBusy, newJob], fun q => ?_⟩, by simp,
      by simp [setBusy, newJob], rfl, by simp [setBusy, newJob], fun _ => rfl, hopt, rfl, rfl⟩⟩
    cases q <;> simp [setBusy, newJob, Job.holds]
  | cached ans =>
    exact unsetBusy_outcome
      (Answered.dnsCallbackSrv lib env.rand env.starts ans ⟨rfl, rfl, rfl, rfl, rfl, rfl, hopt⟩)

section Step
variable {j : Job}

lemma Waiting.answered (h : Waiting j) (hb : j.busy = 0) (hq : .srv ∈ j.out) :
    Answered 0 { j with out := j.out.erase .srv } := by
  have hsrv : j.srv = [] := h.stage (by simpa [Job.holds] using (h.linked.mem .srv).mp hq)
  refine ⟨hb, h.calls, h.deferred, ?_, hsrv, by simpa [hsrv] using h.count, h.option⟩
  refine List.eq_nil_iff_forall_not_mem.mpr fun q hmem => ?_
  obtain ⟨hne, hmem⟩ := (List.Nodup.mem_erase_iff h.linked.nodup).mp hmem
  cases q with
  | srv => exact hne rfl
  | addr i v6 => simpa [Job.holds, hsrv] using (h.linked.mem _).mp hmem

lemma closed_answered {t : Target} (hset : t.Settled) (v6 : Bool) (ans : AddrAnswer) :
    ((t.setPtr v6 .null).answered v6 ans).closed = decide (t.ptr (!v6) = .null) := by
  rw [Bool.eq_iff_iff, closed_iff _ v6, decide_eq_true_iff]
  rcases hset.ptr (!v6) with h | h <;> simp [h]

lemma Target.Settled.answered {t : Target} (hset : t.Settled) (v6 : Bool) (ans : AddrAnswer) :
    ((t.setPtr v6 .null).answered v6 ans).Settled := by
  cases v6 <;> simp [Target.Settled, Target.setPtr, hset.1, hset.2]

lemma Waiting.dnsCallbackAddr (h : Waiting j) (hb : j.busy = 0) {i : ℕ} {v6 : Bool}
    (hq : .addr i v6 ∈ j.out) (ans : AddrAnswer) :
    Outcome 0 (dnsCallbackAddr i v6 ans { j with out := j.out.erase (.addr i v6) }) := by
  have hh := (h.linked.mem _).mp hq
  simp only [Job.holds, Option.any_eq_true, decide_eq_true_eq] at hh
  obtain ⟨t, ht, hp⟩ := hh
  obtain ⟨pre, rest, hsrv, rfl⟩ := exists_mid ht
  have hset : t.Settled := h.settled t (by simp [hsrv])
  have hqsrv : j.qSrv = false := by
    by_contra hc
    have := h.stage (by simpa using hc)
    simp [hsrv] at this
  obtain ⟨j', hj', heq⟩ := dnsCallbackAddr_mid
    (j := { j with out := j.out.erase (.addr pre.length v6) }) hsrv v6 ans
  have hsrv' : j'.srv = pre ++ (t.setPtr v6 .null).answered v6 ans :: rest := by rw [hj']
  have hlink : Linked j' :=
    h.linked.drop hsrv v6 hsrv' (by rw [hj']) (by rw [hj']) (by simp) (by simp)
  have hqsrv' : j'.qSrv = false := by rw [hj']; exact hqsrv
  have hcount : j'.hostResolved = j'.srv.countP Target.closed := by
    have hopen : t.closed = false := by
      rw [Bool.eq_false_iff]
      exact fun hcl => ((closed_iff t v6).mp hcl).1 hp
    have hc := h.count
    rw [hsrv] at hc
    rw [hsrv', hj']
    simp only [List.countP_append, List.countP_cons, hopen, closed_answered hset] at hc ⊢
    by_cases ho : t.ptr (!v6) = .null <;> simp [ho] at hc ⊢ <;> omega
  have hsize : j'.srv.length ≤ maxSrv := by
    have := h.size
    rw [hsrv] at this
    simpa [hsrv'] using this
  have hbusy : j'.busy = 0 := by rw [hj']; exact hb
  have hcalls : j'.calls = [] := by rw [hj']; exact h.calls
  have hnil := hlink.out_eq_nil_iff hqsrv'
  rw [heq]
  split
  · rename_i hfull
    refine completeQuery_outcome hbusy hcalls ⟨hnil.mpr ?_, hfull.le, hsize, fun h0 => absurd rfl h0⟩
    exact List.countP_eq_length.mp (hcount.symm.trans hfull)
  · rename_i hfull
    refine ⟨hbusy, .inl ⟨hlink, ?_, ?_, hcount, hsize, ?_, ?_, hcalls, ?_⟩⟩
    · intro hout
      exact hfull (hcount.trans (List.countP_eq_length.mpr (hnil.mp hout)))
    · intro u hu
      rw [hsrv'] at hu
      rcases List.mem_append.mp hu with hu | hu
      · exact h.settled u (by simp [hsrv, hu])
      rcases List.mem_cons.mp hu with rfl | hu
      · exact hset.answered v6 ans
      · exact h.settled u (by simp [hsrv, hu])
    · simp [hqsrv']
    · rw [hj']; exact h.option
    · rw [hj']; exact h.deferred

lemma Outcome.step {lib : Lib} (h : Outcome 0 j) (e : Event) : Outcome 0 (step lib j e) := by
  obtain ⟨hb, hw | ⟨-, hd⟩ | ⟨h0, -⟩⟩ := h
  · cases e with
    | srv env ans =>
      simp only [SrvResolver.step]
      split
      · rename_i hq
        exact (hw.answered hb hq).dnsCallbackSrv lib env.rand env.starts ans
      · exact ⟨hb, .inl hw⟩
    | addr i v6 ans =>
      simp only [SrvResolver.step]
      split
      · rename_i hq
        exact hw.dnsCallbackAddr hb hq ans
      · exact ⟨hb, .inl hw⟩
  · have hsame : SrvResolver.step lib j e = j := by
      cases e <;> simp [SrvResolver.step, hd.out]
    rw [hsame]
    exact ⟨hb, .inr (.inl ⟨rfl, hd⟩)⟩
  · omega

end Step

/-- What the application is promised: it is called once, when the last query has ended and
not before, with every target that has an address. -/
structure CompletesOnce (j : Job) : Prop where
  once : j.calls.length = if j.out = [] then 1 else 0
  notBefore : ∀ c ∈ j.calls, c.pending = []
  bounded : j.hostResolved ≤ j.srv.length
  reported : ∀ c ∈ j.calls, ∀ t ∈ j.srv, t.addrs ≠ [] →
    ∃ es, c.record = some es ∧ t.entry ∈ es

lemma Outcome.completesOnce {j : Job} (h : Outcome 0 j) : CompletesOnce j := by
  obtain ⟨-, hw | ⟨-, hd⟩ | ⟨h0, -⟩⟩ := h
  · refine ⟨?_, ?_, hw.count ▸ List.countP_le_length, ?_⟩
    · simp [hw.calls, hw.out]
    · simp [hw.calls]
    · simp [hw.calls]
  · obtain ⟨c, hc, hp, hr⟩ := hd.report
    refine ⟨by simp [hc, hd.out], ?_, hd.bounded, ?_⟩
    · intro c' hc'
      rw [hc, List.mem_singleton] at hc'
      rwa [hc']
    · intro c' hc' t ht ha
      rw [hc, List.mem_singleton] at hc'
      rw [hc']
      exact hr t ht ha
  · omega

/-- After `pj_dns_srv_resolve` succeeded, whatever the options, the answers and their order,
the application's callback is called exactly once. -/
theorem srv_resolution_completes_once (lib : Lib) (env : Env) (start : Start SrvAnswer)
    (option : Opt) (domain : Bytes) (defPort : ℕ) (es : List Event)
    (hok : (pjDnsSrvResolve lib env start (newJob option domain defPort)).2 = 0) :
    CompletesOnce (run (step lib) (pjDnsSrvResolve lib env start (newJob option domain defPort)).1 es) := by
  have h0 := pjDnsSrvResolve_outcome lib env start option domain defPort hok
  have hrun : Outcome 0 (run (step lib)
      (pjDnsSrvResolve lib env start (newJob option domain defPort)).1 es) :=
    run_invariant (fun _ e h => h.step e) h0 es
  exact hrun.completesOnce

def cachedThenLate : Env where
  rand := fun _ => 0
  starts := fun _ v6 => if v6 then .pending else .cached (.parsed ⟨[], [⟨false, 1⟩]⟩)

def noLiterals : Lib := ⟨fun _ _ => none⟩

def twoAnswers : List Event :=
  [.srv cachedThenLate (.packet ⟨false, [.srv 0 0 5060 [97]], []⟩), .addr 0 true (.failed 320053)]

theorem srv_resolution_completes_once_late :
    (run (step noLiterals) (pjDnsSrvResolve noLiterals cachedThenLate .pending
      (newJob ⟨false, false, true, false⟩ [98] 5060)).1 twoAnswers).calls.map Report.status = [0] ∧
    CompletesOnce (run (step noLiterals) (pjDnsSrvResolve noLiterals cachedThenLate .pending
      (newJob ⟨false, false, true, false⟩ [98] 5060)).1 twoAnswers) :=
  ⟨by decide +kernel,
    srv_resolution_completes_once noLiterals cachedThenLate .pending ⟨false, false, true, false⟩
      [98] 5060 twoAnswers rfl⟩

end PjProject.SrvResolver
