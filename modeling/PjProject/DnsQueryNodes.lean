import PjProject.DnsQuery

/-!
# Nodes of pending queries

A pending query and its children form a group. The groups own their nodes, and each node stands
for one caller, until the query ends and the nodes go to the free list.
-/
namespace PjProject.Dns

/-- The node `b` belongs to the pending query `a`. -/
def Resolver.Member (r : Resolver) (a b : ℕ) : Prop :=
  r.hquerybyid (r.query a).id = some a ∧ (b = a ∨ b ∈ (r.query a).childHead)

variable {r : Resolver} {a : ℕ}

lemma Resolver.Member.self {b : ℕ} (h : r.Member a b) : r.Member a a := ⟨h.1, .inl rfl⟩

def Event.tickets : Event → List ℕ
  | .attached c p => [c, p]
  | .cancelled c => [c]
  | .called c _ => [c]
  | .completed p => [p]
  | .asserted _ => []

structure Core (r : Resolver) : Prop where
  byid : ∀ id a, r.hquerybyid id = some a → (r.query a).id = id ∧ r.hquerybyres (r.query a).key = some a
  byres : ∀ key a, r.hquerybyres key = some a → (r.query a).key = key ∧ r.hquerybyid (r.query a).id = some a
  live : ∀ a b, r.Member a b → b < r.brk ∧ b ∉ r.queryFreeNodes
  owner : ∀ a a' b, r.Member a b → r.Member a' b → a = a'
  nodup : ∀ a, r.Member a a → (a :: (r.query a).childHead).Nodup
  free_nodup : r.queryFreeNodes.Nodup
  free_lt : ∀ b ∈ r.queryFreeNodes, b < r.brk
  ticket_lt : ∀ e ∈ r.log, ∀ t ∈ e.tickets, t < r.calls
  parent : ∀ t p p', .attached t p ∈ r.log → .attached t p' ∈ r.log → p = p'
  member : ∀ a b, r.Member a b → .attached (r.query b).userData (r.query a).userData ∈ r.log ∧
    .completed (r.query a).userData ∉ r.log ∧ ((r.query b).cb = true ↔ .cancelled (r.query b).userData ∉ r.log)
  distinct : ∀ a b a' b', r.Member a b → r.Member a' b' → (r.query b).userData = (r.query b').userData → b = b'
  waiting : ∀ t p, .attached t p ∈ r.log → .completed p ∉ r.log →
    ∃ a b, r.Member a b ∧ (r.query a).userData = p ∧ (r.query b).userData = t
  called : ∀ t p, .attached t p ∈ r.log → .cancelled t ∉ r.log →
    r.log.countP (Event.isCall t) = if .completed p ∈ r.log then 1 else 0

structure Timers (r : Resolver) : Prop where
  runs : ∀ id a, r.hquerybyid id = some a → (r.query a).timerId = 1 ∧ (r.query a).timerPending = true
  only : ∀ a, (r.query a).timerPending = true → r.hquerybyid (r.query a).id = some a

structure Inv (r : Resolver) : Prop where
  core : Core r
  timers : Timers r
  asserted : ∀ ok, .asserted ok ∈ r.log → ok = true

lemma Core.self (h : Core r) {id : ℕ} (ha : r.hquerybyid id = some a) : r.Member a a :=
  ⟨by rw [(h.byid id a ha).1]; exact ha, .inl rfl⟩

lemma Inv.sound (h : Inv r) : Sound r :=
  ⟨fun id a ha => ⟨(h.core.byid id a ha).2, h.timers.runs id a ha⟩, h.asserted, h.core.called⟩

structure Alike (q q' : Query) : Prop where
  id : q'.id = q.id
  key : q'.key = q.key
  userData : q'.userData = q.userData
  cb : q'.cb = q.cb
  childHead : q'.childHead = q.childHead

variable {r' : Resolver}

lemma Core.member_congr (h : Core r) (hid : r'.hquerybyid = r.hquerybyid)
    (hquery : ∀ b, (∃ a, r.Member a b) → Alike (r.query b) (r'.query b)) (a b : ℕ) :
    r'.Member a b ↔ r.Member a b := by
  unfold Resolver.Member
  rw [hid]
  constructor
  · rintro ⟨h1, h2⟩
    have ha := h.self h1
    rw [(hquery a ⟨a, ha⟩).childHead] at h2
    exact ⟨ha.1, h2⟩
  · rintro ⟨h1, h2⟩
    rw [(hquery a ⟨a, h1, .inl rfl⟩).id, (hquery a ⟨a, h1, .inl rfl⟩).childHead]
    exact ⟨h1, h2⟩

lemma Core.congr (h : Core r) (hid : r'.hquerybyid = r.hquerybyid)
    (hres : r'.hquerybyres = r.hquerybyres) (hlog : r'.log = r.log) (hcalls : r.calls ≤ r'.calls) (hbrk : r.brk ≤ r'.brk)
    (hfree : r'.queryFreeNodes.Nodup ∧ ∀ b ∈ r'.queryFreeNodes, b < r'.brk ∧ ∀ a, ¬ r.Member a b)
    (hquery : ∀ b, (∃ a, r.Member a b) → Alike (r.query b) (r'.query b)) : Core r' := by
  have hmem := h.member_congr hid hquery
  refine ⟨?_, ?_, ?_, ?_, ?_, hfree.1, fun b hb => (hfree.2 b hb).1, ?_, ?_, ?_, ?_, ?_, ?_⟩
  · intro id a ha
    rw [hid] at ha
    have hal := hquery a ⟨a, h.self ha⟩
    rw [hal.id, hal.key, hres]
    exact h.byid id a ha
  · intro key a ha
    rw [hres] at ha
    have hb := h.byres key a ha
    have hal := hquery a ⟨a, h.self hb.2⟩
    rw [hal.id, hal.key, hid]
    exact hb
  · intro a b hm
    rw [hmem] at hm
    exact ⟨(h.live a b hm).1.trans_le hbrk, fun hin => (hfree.2 b hin).2 a hm⟩
  · intro a a' b hm hm'
    exact h.owner a a' b ((hmem a b).1 hm) ((hmem a' b).1 hm')
  · intro a hm
    rw [hmem] at hm
    rw [(hquery a ⟨a, hm⟩).childHead]
    exact h.nodup a hm
  · rw [hlog]
    exact fun e he t ht => (h.ticket_lt e he t ht).trans_le hcalls
  · rw [hlog]
    exact h.parent
  · intro a b hm
    rw [hmem] at hm
    rw [(hquery a ⟨a, hm.self⟩).userData, (hquery b ⟨a, hm⟩).userData, (hquery b ⟨a, hm⟩).cb, hlog]
    exact h.member a b hm
  · intro a b a' b' hm hm' heq
    rw [hmem] at hm hm'
    rw [(hquery b ⟨a, hm⟩).userData, (hquery b' ⟨a', hm'⟩).userData] at heq
    exact h.distinct a b a' b' hm hm' heq
  · rw [hlog]
    intro t p hat hco
    obtain ⟨a, b, hm, h1, h2⟩ := h.waiting t p hat hco
    refine ⟨a, b, (hmem a b).2 hm, ?_, ?_⟩
    · rw [(hquery a ⟨a, hm.self⟩).userData, h1]
    · rw [(hquery b ⟨a, hm⟩).userData, h2]
  · rw [hlog]
    exact h.called

lemma countP_callbacks (r : Resolver) (q : ℕ) (status : Status) (t : ℕ) :
    (r.callbacks q status).countP (Event.isCall t) =
      (((q :: (r.query q).childHead).filter fun b => (r.query b).cb).map fun b => (r.query b).userData).count t := by
  unfold Resolver.callbacks List.count
  rw [List.countP_map, List.countP_map]
  rfl

variable {q : ℕ}

lemma mem_callbacks {status : Status} {e : Event} (h : e ∈ r.callbacks q status) :
    ∃ b, (b = q ∨ b ∈ (r.query q).childHead) ∧ e = .called (r.query b).userData status := by
  obtain ⟨b, hb, rfl⟩ := List.mem_map.1 h
  exact ⟨b, by simpa using (List.mem_filter.1 hb).1, rfl⟩

lemma Core.countP_finish (h : Core r) (hq : r.Member q q) (status : Status) {t p : ℕ}
    (hat : .attached t p ∈ r.log) (hca : .cancelled t ∉ r.log) :
    (r.callbacks q status).countP (Event.isCall t) = if p = (r.query q).userData then 1 else 0 := by
  rw [countP_callbacks]
  have hmem : ∀ b ∈ (q :: (r.query q).childHead).filter (fun b => (r.query b).cb), r.Member q b := by
    intro b hb
    exact ⟨hq.1, by simpa using (List.mem_filter.1 hb).1⟩
  have hnd : (((q :: (r.query q).childHead).filter fun b => (r.query b).cb).map fun b => (r.query b).userData).Nodup :=
    ((h.nodup q hq).filter _).map_on fun b hb b' hb' heq => h.distinct q b q b' (hmem b hb) (hmem b' hb') heq
  by_cases hp : p = (r.query q).userData
  · rw [if_pos hp]
    obtain ⟨a, b, hm, h1, h2⟩ := h.waiting t p hat (hp ▸ (h.member q q hq).2.1)
    obtain rfl : a = q := h.distinct a a q q hm.self hq (h1.trans hp)
    refine List.count_eq_one_of_mem hnd (List.mem_map.2 ⟨b, List.mem_filter.2 ⟨by simpa using hm.2, ?_⟩, h2⟩)
    rw [(h.member a b hm).2.2, h2]
    exact hca
  · rw [if_neg hp, List.count_eq_zero]
    intro hin
    obtain ⟨b, hb, rfl⟩ := List.mem_map.1 hin
    exact hp (h.parent _ _ _ hat (h.member q b (hmem b hb)).1)

lemma Core.finish (h : Core r) (hq : r.Member q q) (status : Status) : Core (r.finish q status) := by
  have hsame : ∀ b, ((r.finish q status).query b).id = (r.query b).id ∧ ((r.finish q status).query b).key = (r.query b).key ∧
      ((r.finish q status).query b).userData = (r.query b).userData ∧
      ((r.finish q status).query b).childHead = (r.query b).childHead := by
    intro b
    simp only [Resolver.finish, Resolver.emit]
    split_ifs <;> simp
  have hid : ∀ id, (r.finish q status).hquerybyid id = if id = (r.query q).id then none else r.hquerybyid id := by
    intro id
    simp [Resolver.finish, Resolver.emit, Function.update_apply]
  have hres : ∀ key, (r.finish q status).hquerybyres key = if key = (r.query q).key then none else r.hquerybyres key := by
    intro key
    simp [Resolver.finish, Resolver.emit, Function.update_apply]
  have hlog : (r.finish q status).log = r.log ++ .completed (r.query q).userData :: r.callbacks q status := rfl
  have hne : ∀ a, r.hquerybyid (r.query a).id = some a → (a ≠ q ↔ (r.query a).id ≠ (r.query q).id) := by
    intro a ha
    refine not_congr ⟨fun he => by rw [he], fun he => ?_⟩
    rw [he, hq.1] at ha
    exact (Option.some.inj ha).symm
  have hmem : ∀ a b, (r.finish q status).Member a b ↔ r.Member a b ∧ a ≠ q := by
    intro a b
    unfold Resolver.Member
    rw [(hsame a).1, (hsame a).2.2.2, hid]
    constructor
    · rintro ⟨h1, h2⟩
      split_ifs at h1 with hc
      exact ⟨⟨h1, h2⟩, (hne a h1).2 hc⟩
    · rintro ⟨⟨h1, h2⟩, h3⟩
      rw [if_neg ((hne a h1).1 h3)]
      exact ⟨h1, h2⟩
  have hout : ∀ a b, r.Member a b → a ≠ q → b ∉ (r.query q).childHead ++ [q] := by
    intro a b hm hne hin
    refine hne (h.owner a q b hm ⟨hq.1, ?_⟩)
    simpa [or_comm] using hin
  have hatt : ∀ t p, .attached t p ∈ (r.finish q status).log ↔ .attached t p ∈ r.log := by
    intro t p
    rw [hlog, List.mem_append, List.mem_cons]
    refine ⟨fun hin => hin.elim id fun hin => ?_, .inl⟩
    rcases hin with hin | hin
    · cases hin
    · obtain ⟨b, -, hb⟩ := mem_callbacks hin
      cases hb
  have hcan : ∀ t, .cancelled t ∈ (r.finish q status).log ↔ .cancelled t ∈ r.log := by
    intro t
    rw [hlog, List.mem_append, List.mem_cons]
    refine ⟨fun hin => hin.elim id fun hin => ?_, .inl⟩
    rcases hin with hin | hin
    · cases hin
    · obtain ⟨b, -, hb⟩ := mem_callbacks hin
      cases hb
  have hcom : ∀ p, .completed p ∈ (r.finish q status).log ↔ .completed p ∈ r.log ∨ p = (r.query q).userData := by
    intro p
    rw [hlog, List.mem_append, List.mem_cons]
    refine or_congr_right ⟨fun hin => ?_, fun hp => .inl (by rw [hp])⟩
    rcases hin with hin | hin
    · exact Event.completed.inj hin
    · obtain ⟨b, -, hb⟩ := mem_callbacks hin
      cases hb
  refine ⟨?_, ?_, ?_, ?_, ?_, ?_, ?_, ?_, ?_, ?_, ?_, ?_, ?_⟩
  · intro id a ha
    rw [hid] at ha
    split_ifs at ha with hc
    obtain ⟨h1, h2⟩ := h.byid id a ha
    rw [(hsame a).1, (hsame a).2.1, hres, if_neg]
    · exact ⟨h1, h2⟩
    · intro hk
      rw [hk, (h.byid _ q hq.1).2] at h2
      obtain rfl := Option.some.inj h2
      exact hc h1.symm
  · intro key a ha
    rw [hres] at ha
    split_ifs at ha with hc
    obtain ⟨h1, h2⟩ := h.byres key a ha
    rw [(hsame a).1, (hsame a).2.1, hid, if_neg]
    · exact ⟨h1, h2⟩
    · refine (hne a h2).1 ?_
      rintro rfl
      exact hc h1.symm
  · intro a b hm
    obtain ⟨hm, hne'⟩ := (hmem a b).1 hm
    obtain ⟨h1, h2⟩ := h.live a b hm
    refine ⟨h1, fun hin => ?_⟩
    rcases List.mem_append.1 hin with hin | hin
    · exact h2 hin
    · exact hout a b hm hne' hin
  · intro a a' b hm hm'
    exact h.owner a a' b ((hmem a b).1 hm).1 ((hmem a' b).1 hm').1
  · intro a hm
    rw [(hsame a).2.2.2]
    exact h.nodup a ((hmem a a).1 hm).1
  · refine List.nodup_append.2 ⟨h.free_nodup, ?_, ?_⟩
    · have := h.nodup q hq
      rw [List.nodup_cons] at this
      rw [List.nodup_append]
      refine ⟨this.2, by simp, ?_⟩
      rintro x hx y hy rfl
      obtain rfl : x = q := by simpa using hy
      exact this.1 hx
    · rintro x hx y hy rfl
      exact (h.live q x ⟨hq.1, by simpa [or_comm] using hy⟩).2 hx
  · intro b hb
    rcases List.mem_append.1 hb with hb | hb
    · exact h.free_lt b hb
    · exact (h.live q b ⟨hq.1, by simpa [or_comm] using hb⟩).1
  · intro e he t ht
    rw [hlog, List.mem_append, List.mem_cons] at he
    have hq' : ∀ b, r.Member q b → (r.query b).userData < r.calls :=
      fun b hb => h.ticket_lt _ (h.member q b hb).1 _ (by simp [Event.tickets])
    rcases he with he | rfl | he
    · exact h.ticket_lt e he t ht
    · obtain rfl : t = (r.query q).userData := by simpa [Event.tickets] using ht
      exact hq' q hq
    · obtain ⟨b, hb, rfl⟩ := mem_callbacks he
      obtain rfl : t = (r.query b).userData := by simpa [Event.tickets] using ht
      exact hq' b ⟨hq.1, hb⟩
  · intro t p p' h1 h2
    exact h.parent t p p' ((hatt t p).1 h1) ((hatt t p').1 h2)
  · intro a b hm
    obtain ⟨hm, hne'⟩ := (hmem a b).1 hm
    obtain ⟨h1, h2, h3⟩ := h.member a b hm
    have hb : (r.finish q status).query b = r.query b := by
      simp only [Resolver.finish, Resolver.emit]
      rw [if_neg (hout a b hm hne')]
    rw [hatt, hcom, hcan, (hsame a).2.2.1, hb]
    refine ⟨h1, not_or.2 ⟨h2, fun hp => hne' (h.distinct a a q q hm.self hq hp)⟩, h3⟩
  · intro a b a' b' hm hm' heq
    rw [(hsame b).2.2.1, (hsame b').2.2.1] at heq
    exact h.distinct a b a' b' ((hmem a b).1 hm).1 ((hmem a' b').1 hm').1 heq
  · intro t p hat hco
    rw [hatt] at hat
    rw [hcom, not_or] at hco
    obtain ⟨a, b, hm, h1, h2⟩ := h.waiting t p hat hco.1
    refine ⟨a, b, (hmem a b).2 ⟨hm, ?_⟩, by rw [(hsame a).2.2.1, h1], by rw [(hsame b).2.2.1, h2]⟩
    rintro rfl
    exact hco.2 h1.symm
  · intro t p hat hca
    rw [hatt] at hat
    rw [hcan] at hca
    have hcount : (r.finish q status).log.countP (Event.isCall t) =
        r.log.countP (Event.isCall t) + (r.callbacks q status).countP (Event.isCall t) := by
      rw [hlog, List.countP_append, List.countP_cons_of_neg (by simp [Event.isCall])]
    rw [hcount, h.called t p hat hca, h.countP_finish hq status hat hca]
    simp only [hcom]
    by_cases hp : p = (r.query q).userData
    · subst hp
      simp [(h.member q q hq).2.1]
    · simp [hp]

lemma Timers.congr (hc : Core r) (h : Timers r) (hid : r'.hquerybyid = r.hquerybyid)
    (hquery : ∀ b, (∃ a, r.Member a b) → (r'.query b).id = (r.query b).id ∧ (r'.query b).timerId = (r.query b).timerId ∧
      (r'.query b).timerPending = (r.query b).timerPending)
    (hpend : ∀ b, (∀ a, ¬ r.Member a b) → (r'.query b).timerPending = false) : Timers r' := by
  refine ⟨fun id a ha => ?_, fun a ha => ?_⟩
  · rw [hid] at ha
    obtain ⟨-, h2, h3⟩ := hquery a ⟨a, hc.self ha⟩
    rw [h2, h3]
    exact h.runs id a ha
  · by_cases hm : ∃ x, r.Member x a
    · obtain ⟨h1, -, h3⟩ := hquery a hm
      rw [hid, h1]
      exact h.only a (h3 ▸ ha)
    · rw [hpend a fun x hx => hm ⟨x, hx⟩] at ha
      cases ha

lemma Timers.nonmember (h : Timers r) {b : ℕ} (hb : ∀ a, ¬ r.Member a b) :
    (r.query b).timerPending = false := by
  by_contra hne
  exact hb b ⟨h.only b (by simpa using hne), .inl rfl⟩

structure Spare (r : Resolver) (n : ℕ) : Prop where
  nonmember : ∀ a, ¬ r.Member a n
  not_free : n ∉ r.queryFreeNodes
  lt : n < r.brk

/-- The node of a caller, as `alloc_qnode` leaves it. -/
structure Allocated (r r' : Resolver) (n caller : ℕ) : Prop where
  core : Core r'
  timers : Timers r → Timers r'
  spare : Spare r' n
  was : ∀ a, ¬ r.Member a n
  byid : r'.hquerybyid = r.hquerybyid
  byres : r'.hquerybyres = r.hquerybyres
  log : r'.log = r.log
  calls : r'.calls = r.calls
  other : ∀ b, b ≠ n → r'.query b = r.query b
  userData : (r'.query n).userData = caller
  cb : (r'.query n).cb = true
  childHead : (r'.query n).childHead = []
  stopped : (r'.query n).timerPending = false

lemma Core.allocQnode (h : Core r) (caller : ℕ) :
    Allocated r (r.allocQnode caller).1 (r.allocQnode caller).2 caller := by
  -- what both branches have in common
  have hboth : ∀ (r' : Resolver) (n : ℕ), r'.hquerybyid = r.hquerybyid → r'.hquerybyres = r.hquerybyres →
      r'.log = r.log → r'.calls = r.calls → r.brk ≤ r'.brk → r'.queryFreeNodes.Nodup →
      (∀ b ∈ r'.queryFreeNodes, b ∈ r.queryFreeNodes) → n ∉ r'.queryFreeNodes → n < r'.brk → (∀ a, ¬ r.Member a n) →
      (∀ b, b ≠ n → r'.query b = r.query b) →
      r'.query n = ⟨0, 0, ⟨0, []⟩, 0, false, caller, true, []⟩ → Allocated r r' n caller := by
    intro r' n hid hres hlog hcalls hbrk hnd hfree hn hlt hnm hother hnew
    have hquery : ∀ b, (∃ a, r.Member a b) → Alike (r.query b) (r'.query b) := by
      rintro b ⟨a, hm⟩
      rw [hother b (by rintro rfl; exact hnm a hm)]
      exact ⟨rfl, rfl, rfl, rfl, rfl⟩
    refine ⟨h.congr hid hres hlog hcalls.ge hbrk ⟨hnd, fun b hb => ⟨(h.free_lt b (hfree b hb)).trans_le hbrk, fun a hm =>
      (h.live a b hm).2 (hfree b hb)⟩⟩ hquery, fun ht => ?_, ⟨?_, hn, hlt⟩, hnm, hid, hres, hlog, hcalls, hother, ?_, ?_, ?_, ?_⟩
    · refine ht.congr h hid ?_ ?_
      · rintro b ⟨a, hm⟩
        rw [hother b (by rintro rfl; exact hnm a hm)]
        exact ⟨rfl, rfl, rfl⟩
      · intro b hb
        by_cases hbn : b = n
        · rw [hbn, hnew]
        · rw [hother b hbn]
          exact ht.nonmember hb
    · intro a hm
      exact hnm a ((h.member_congr hid hquery a n).1 hm)
    all_goals rw [hnew]
  unfold Resolver.allocQnode
  cases hf : r.queryFreeNodes with
  | nil =>
    refine hboth _ _ rfl rfl rfl rfl (Nat.le_succ _) ?_ ?_ ?_ (Nat.lt_succ_self _) ?_ ?_ ?_
    · simp [Resolver.setQuery]
    · simp [Resolver.setQuery]
    · simp [Resolver.setQuery]
    · exact fun a hm => absurd (h.live a _ hm).1 (lt_irrefl _)
    · intro b hb
      simp [Resolver.setQuery, hb]
    · simp [Resolver.setQuery]
  | cons n rest =>
    have hnd := h.free_nodup
    rw [hf, List.nodup_cons] at hnd
    refine hboth _ _ rfl rfl rfl rfl le_rfl hnd.2 ?_ hnd.1 ?_ ?_ ?_ ?_
    · intro b hb
      rw [hf]
      exact List.mem_cons_of_mem _ hb
    · exact h.free_lt n (by simp [hf])
    · intro a hm
      exact (h.live a n hm).2 (by simp [hf])
    · intro b hb
      simp [Resolver.setQuery, hb]
    · simp [Resolver.setQuery]

lemma Core.freeNode (h : Core r) {n : ℕ} (hn : Spare r n) (hid : r'.hquerybyid = r.hquerybyid)
    (hres : r'.hquerybyres = r.hquerybyres) (hlog : r'.log = r.log) (hcalls : r'.calls = r.calls) (hbrk : r'.brk = r.brk)
    (hfree : r'.queryFreeNodes = r.queryFreeNodes) (hother : ∀ b, b ≠ n → r'.query b = r.query b) :
    Core (r'.freeNode n) := by
  refine h.congr hid hres hlog hcalls.ge hbrk.ge ⟨?_, ?_⟩ ?_
  · simp only [Resolver.freeNode, hfree]
    refine List.nodup_append.2 ⟨h.free_nodup, by simp, ?_⟩
    rintro x hx y hy rfl
    obtain rfl : x = n := by simpa using hy
    exact hn.not_free hx
  · intro b hb
    simp only [Resolver.freeNode, hfree] at hb ⊢
    rw [hbrk]
    rcases List.mem_append.1 hb with hb | hb
    · exact ⟨h.free_lt b hb, fun a hm => (h.live a b hm).2 hb⟩
    · obtain rfl : b = n := by simpa using hb
      exact ⟨hn.lt, hn.nonmember⟩
  · rintro b ⟨a, hm⟩
    simp only [Resolver.freeNode]
    rw [hother b (by rintro rfl; exact hn.nonmember a hm)]
    exact ⟨rfl, rfl, rfl, rfl, rfl⟩

lemma Core.join (h : Core r) {n t : ℕ} (hn : Spare r n) (ha : a = n ∨ r.Member a a)
    (hbyid : ∀ id x, r'.hquerybyid id = some x → (r'.query x).id = id ∧ r'.hquerybyres (r'.query x).key = some x)
    (hbyres : ∀ key x, r'.hquerybyres key = some x → (r'.query x).key = key ∧ r'.hquerybyid (r'.query x).id = some x)
    (hmem : ∀ x b, r'.Member x b ↔ r.Member x b ∨ x = a ∧ b = n)
    (hnd : ∀ x, r'.Member x x → (x :: (r'.query x).childHead).Nodup)
    (hquery : ∀ b, (r'.query b).userData = (r.query b).userData ∧ (r'.query b).cb = (r.query b).cb)
    (hbrk : r'.brk = r.brk) (hfree : r'.queryFreeNodes = r.queryFreeNodes) (hcalls : r'.calls = r.calls)
    (hlog : r'.log = r.log ++ [.attached t (r.query a).userData]) (hud : (r.query n).userData = t)
    (hcb : (r.query n).cb = true) (hfresh : ∀ e ∈ r.log, t ∉ e.tickets) (ht : t < r.calls) : Core r' := by
  have hup : (r.query a).userData < r.calls := by
    rcases ha with rfl | ha
    · rw [hud]
      exact ht
    · exact h.ticket_lt _ (h.member a a ha).1 _ (by simp [Event.tickets])
  have hopen : .completed (r.query a).userData ∉ r.log := by
    rcases ha with rfl | ha
    · rw [hud]
      exact fun hin => hfresh _ hin (by simp [Event.tickets])
    · exact (h.member a a ha).2.1
  have hother : ∀ x b, r.Member x b → (r.query b).userData ≠ t := by
    rintro x b hm rfl
    exact hfresh _ (h.member x b hm).1 (by simp [Event.tickets])
  have hnew : ∀ p, .attached t p ∉ r.log := fun p hin => hfresh _ hin (by simp [Event.tickets])
  refine ⟨hbyid, hbyres, ?_, ?_, hnd, by rw [hfree]; exact h.free_nodup, by rw [hfree, hbrk]; exact h.free_lt, ?_, ?_, ?_, ?_,
    ?_, ?_⟩
  · intro x b hm
    rw [hbrk, hfree]
    rcases (hmem x b).1 hm with hm | ⟨-, rfl⟩
    · exact h.live x b hm
    · exact ⟨hn.lt, hn.not_free⟩
  · intro x x' b hm hm'
    rcases (hmem x b).1 hm with hm | ⟨rfl, rfl⟩ <;> rcases (hmem x' b).1 hm' with hm' | ⟨rfl, hb⟩
    · exact h.owner x x' b hm hm'
    · exact absurd (hb ▸ hm) (hn.nonmember x)
    · exact absurd hm' (hn.nonmember x')
    · rfl
  · rw [hlog, hcalls]
    intro e he u hu
    rcases List.mem_append.1 he with he | he
    · exact h.ticket_lt e he u hu
    · obtain rfl : e = .attached t (r.query a).userData := by simpa using he
      rcases List.mem_cons.1 hu with rfl | hu
      · exact ht
      · obtain rfl : u = (r.query a).userData := by simpa using hu
        exact hup
  · rw [hlog]
    intro u p p' h1 h2
    simp only [List.mem_append, List.mem_singleton, Event.attached.injEq] at h1 h2
    rcases h1 with h1 | ⟨rfl, rfl⟩ <;> rcases h2 with h2 | ⟨hu, rfl⟩
    · exact h.parent u p p' h1 h2
    · exact absurd (hu ▸ h1) (hnew p)
    · exact absurd h2 (hnew p')
    · rfl
  · intro x b hm
    rw [(hquery x).1, (hquery b).1, (hquery b).2, hlog]
    simp only [List.mem_append, List.mem_singleton, Event.attached.injEq, reduceCtorEq, or_false]
    rcases (hmem x b).1 hm with hm | ⟨rfl, rfl⟩
    · obtain ⟨h1, h2, h3⟩ := h.member x b hm
      exact ⟨.inl h1, h2, h3⟩
    · refine ⟨.inr ⟨hud, rfl⟩, hopen, fun _ hin => ?_, fun _ => hcb⟩
      exact hfresh _ hin (by simp [Event.tickets, hud])
  · intro x b x' b' hm hm' heq
    rw [(hquery b).1, (hquery b').1] at heq
    rcases (hmem x b).1 hm with hm | ⟨rfl, rfl⟩ <;> rcases (hmem x' b').1 hm' with hm' | ⟨-, rfl⟩
    · exact h.distinct x b x' b' hm hm' heq
    · exact absurd (heq.trans hud) (hother x b hm)
    · exact absurd (heq.symm.trans hud) (hother x' b' hm')
    · rfl
  · rw [hlog]
    intro u p hat hco
    simp only [List.mem_append, List.mem_singleton, Event.attached.injEq, reduceCtorEq, or_false] at hat hco
    rcases hat with hat | ⟨rfl, rfl⟩
    · obtain ⟨x, b, hm, h1, h2⟩ := h.waiting u p hat hco
      exact ⟨x, b, (hmem x b).2 (.inl hm), by rw [(hquery x).1, h1], by rw [(hquery b).1, h2]⟩
    · exact ⟨a, n, (hmem a n).2 (.inr ⟨rfl, rfl⟩), (hquery a).1, by rw [(hquery n).1, hud]⟩
  · rw [hlog]
    intro u p hat hca
    simp only [List.mem_append, List.mem_singleton, Event.attached.injEq, reduceCtorEq, or_false] at hat hca ⊢
    rw [List.countP_append, List.countP_cons_of_neg (by simp [Event.isCall]), List.countP_nil, Nat.add_zero]
    rcases hat with hat | ⟨rfl, rfl⟩
    · exact h.called u p hat hca
    · rw [if_neg hopen, List.countP_eq_zero]
      intro e he hc
      cases e with
      | called c status => exact hfresh _ he (by simpa [Event.isCall, Event.tickets, eq_comm] using hc)
      | _ => cases hc

lemma Core.cancel {r r' : Resolver} (h : Core r) {a n : ℕ} (hm : r.Member a n) (hid : r'.hquerybyid = r.hquerybyid)
    (hres : r'.hquerybyres = r.hquerybyres) (hbrk : r'.brk = r.brk) (hfree : r'.queryFreeNodes = r.queryFreeNodes)
    (hcalls : r'.calls = r.calls) (hother : ∀ b, b ≠ n → r'.query b = r.query b) (hnid : (r'.query n).id = (r.query n).id)
    (hkey : (r'.query n).key = (r.query n).key) (hud : (r'.query n).userData = (r.query n).userData)
    (hch : (r'.query n).childHead = (r.query n).childHead) (hcb : (r'.query n).cb = false) {events : List Event}
    (hlog : r'.log = r.log ++ .cancelled (r.query n).userData :: events)
    (hev : ∀ e ∈ events, ∃ status, e = .called (r.query n).userData status) : Core r' := by
  have hsame : ∀ b, (r'.query b).id = (r.query b).id ∧ (r'.query b).key = (r.query b).key ∧
      (r'.query b).userData = (r.query b).userData ∧ (r'.query b).childHead = (r.query b).childHead := by
    intro b
    by_cases hb : b = n
    · rw [hb]
      exact ⟨hnid, hkey, hud, hch⟩
    · rw [hother b hb]
      exact ⟨rfl, rfl, rfl, rfl⟩
  have hmem : ∀ x b, r'.Member x b ↔ r.Member x b := by
    intro x b
    unfold Resolver.Member
    rw [hid, (hsame x).1, (hsame x).2.2.2]
  have hatt : ∀ t p, .attached t p ∈ r'.log ↔ .attached t p ∈ r.log := by
    intro t p
    rw [hlog, List.mem_append, List.mem_cons]
    refine ⟨fun hin => hin.elim id fun hin => ?_, .inl⟩
    rcases hin with hin | hin
    · cases hin
    · obtain ⟨status, hs⟩ := hev _ hin
      cases hs
  have hcom : ∀ p, .completed p ∈ r'.log ↔ .completed p ∈ r.log := by
    intro p
    rw [hlog, List.mem_append, List.mem_cons]
    refine ⟨fun hin => hin.elim id fun hin => ?_, .inl⟩
    rcases hin with hin | hin
    · cases hin
    · obtain ⟨status, hs⟩ := hev _ hin
      cases hs
  have hcan : ∀ t, .cancelled t ∈ r'.log ↔ .cancelled t ∈ r.log ∨ t = (r.query n).userData := by
    intro t
    rw [hlog, List.mem_append, List.mem_cons]
    refine or_congr_right ⟨fun hin => ?_, fun ht => .inl (by rw [ht])⟩
    rcases hin with hin | hin
    · exact Event.cancelled.inj hin
    · obtain ⟨status, hs⟩ := hev _ hin
      cases hs
  refine ⟨?_, ?_, ?_, ?_, ?_, by rw [hfree]; exact h.free_nodup, by rw [hfree, hbrk]; exact h.free_lt, ?_, ?_, ?_, ?_, ?_, ?_⟩
  · intro id x hx
    rw [(hsame x).1, (hsame x).2.1, hres]
    exact h.byid id x (hid ▸ hx)
  · intro key x hx
    rw [(hsame x).1, (hsame x).2.1, hid]
    exact h.byres key x (hres ▸ hx)
  · intro x b hx
    rw [hbrk, hfree]
    exact h.live x b ((hmem x b).1 hx)
  · intro x x' b hx hx'
    exact h.owner x x' b ((hmem x b).1 hx) ((hmem x' b).1 hx')
  · intro x hx
    rw [(hsame x).2.2.2]
    exact h.nodup x ((hmem x x).1 hx)
  · rw [hlog, hcalls]
    have hlt : (r.query n).userData < r.calls := h.ticket_lt _ (h.member a n hm).1 _ (by simp [Event.tickets])
    intro e he t ht
    rcases List.mem_append.1 he with he | he
    · exact h.ticket_lt e he t ht
    · rcases List.mem_cons.1 he with rfl | he
      · obtain rfl : t = (r.query n).userData := by simpa [Event.tickets] using ht
        exact hlt
      · obtain ⟨status, rfl⟩ := hev e he
        obtain rfl : t = (r.query n).userData := by simpa [Event.tickets] using ht
        exact hlt
  · intro t p p' h1 h2
    exact h.parent t p p' ((hatt t p).1 h1) ((hatt t p').1 h2)
  · intro x b hx
    rw [hmem] at hx
    obtain ⟨h1, h2, h3⟩ := h.member x b hx
    rw [hatt, hcom, hcan, (hsame x).2.2.1, (hsame b).2.2.1]
    refine ⟨h1, h2, ?_⟩
    by_cases hb : b = n
    · subst hb
      simp [hcb]
    · rw [hother b hb, h3, not_or]
      exact ⟨fun hc => ⟨hc, fun he => hb (h.distinct x b a n hx hm he)⟩, And.left⟩
  · intro x b x' b' hx hx' heq
    rw [(hsame b).2.2.1, (hsame b').2.2.1] at heq
    exact h.distinct x b x' b' ((hmem x b).1 hx) ((hmem x' b').1 hx') heq
  · intro t p hat hco
    obtain ⟨x, b, hx, h1, h2⟩ := h.waiting t p ((hatt t p).1 hat) fun hc => hco ((hcom p).2 hc)
    exact ⟨x, b, (hmem x b).2 hx, by rw [(hsame x).2.2.1, h1], by rw [(hsame b).2.2.1, h2]⟩
  · intro t p hat hca
    rw [hatt] at hat
    rw [hcan, not_or] at hca
    simp only [hcom]
    have hzero : events.countP (Event.isCall t) = 0 := by
      rw [List.countP_eq_zero]
      intro e he hc
      obtain ⟨status, rfl⟩ := hev e he
      exact hca.2 (by simpa [Event.isCall, eq_comm] using hc)
    rw [hlog, List.countP_append, List.countP_cons_of_neg (by simp [Event.isCall]), hzero, Nat.add_zero]
    exact h.called t p hat hca.1

lemma Core.emit (h : Core r) {e : Event} (hatt : ∀ t p, e ≠ .attached t p) (hcan : ∀ t, e ≠ .cancelled t)
    (hcom : ∀ p, e ≠ .completed p) (hlt : ∀ t ∈ e.tickets, t < r.calls)
    (hcall : ∀ t p, .attached t p ∈ r.log → e.isCall t = false) : Core (r.emit [e]) := by
  have hin : ∀ e', e ≠ e' → (e' ∈ r.log ++ [e] ↔ e' ∈ r.log) := by
    intro e' hne
    simp [Ne.symm hne]
  have h1 := fun t p => hin _ (hatt t p)
  have h2 := fun t => hin _ (hcan t)
  have h3 := fun p => hin _ (hcom p)
  refine ⟨h.byid, h.byres, h.live, h.owner, h.nodup, h.free_nodup, h.free_lt, ?_, ?_, ?_, h.distinct, ?_, ?_⟩
  · intro e' he t ht
    rcases List.mem_append.1 he with he | he
    · exact h.ticket_lt e' he t ht
    · obtain rfl : e' = e := by simpa using he
      exact hlt t ht
  · simpa only [Resolver.emit, h1] using h.parent
  · intro a b hm
    simp only [Resolver.emit, h1, h2, h3]
    exact h.member a b hm
  · intro t p hat hco
    simp only [Resolver.emit, h1, h3] at hat hco
    exact h.waiting t p hat hco
  · intro t p hat hca
    simp only [Resolver.emit, h1, h2] at hat hca
    simp only [Resolver.emit, h3, List.countP_append, List.countP_singleton, hcall t p hat, Bool.false_eq_true, if_false,
      Nat.add_zero]
    exact h.called t p hat hca

end PjProject.Dns
