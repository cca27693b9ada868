import PjProject.DnsQueryNodes
import PjProject.Transition

/-!
# Callbacks of pending queries

Timers run for the pending queries as long as only children are cancelled:
`pj_dns_resolver_cancel_query` stops the timer of a parent and leaves it in the tables, where it
gathers callers that are never called.
-/
namespace PjProject.Dns

open Transition

variable {r : Resolver} {q : ℕ}

lemma Timers.finish (hc : Core r) (hq : r.Member q q) (hstop : (r.query q).timerPending = false)
    (hruns : ∀ id a, r.hquerybyid id = some a → a ≠ q → (r.query a).timerId = 1 ∧ (r.query a).timerPending = true)
    (honly : ∀ a, (r.query a).timerPending = true → r.hquerybyid (r.query a).id = some a) (status : Status) :
    Timers (r.finish q status) := by
  have hsame : ∀ b, ((r.finish q status).query b).id = (r.query b).id ∧
      ((r.finish q status).query b).timerId = (r.query b).timerId ∧
      ((r.finish q status).query b).timerPending = (r.query b).timerPending := by
    intro b
    simp only [Resolver.finish, Resolver.emit]
    split_ifs <;> simp
  have hid : ∀ id, (r.finish q status).hquerybyid id = if id = (r.query q).id then none else r.hquerybyid id := by
    intro id
    simp [Resolver.finish, Resolver.emit, Function.update_apply]
  refine ⟨fun id a ha => ?_, fun a ha => ?_⟩
  · rw [hid] at ha
    split_ifs at ha with hne
    rw [(hsame a).2.1, (hsame a).2.2]
    refine hruns id a ha ?_
    rintro rfl
    exact hne (hc.byid id a ha).1.symm
  · rw [(hsame a).2.2] at ha
    have hin := honly a ha
    rw [(hsame a).1, hid, if_neg]
    · exact hin
    · intro he
      rw [he, hq.1] at hin
      obtain rfl := Option.some.inj hin
      rw [hstop] at ha
      cases ha

lemma asserted_finish {status : Status} (h : ∀ ok, .asserted ok ∈ r.log → ok = true) :
    ∀ ok, .asserted ok ∈ (r.finish q status).log → ok = true := by
  intro ok hin
  have hin' : .asserted ok ∈ r.log ++ .completed (r.query q).userData :: r.callbacks q status := hin
  rcases List.mem_append.1 hin' with hin' | hin'
  · exact h ok hin'
  · rcases List.mem_cons.1 hin' with hin' | hin'
    · cases hin'
    · obtain ⟨b, -, hb⟩ := mem_callbacks hin'
      cases hb

/-- The same resolver, but for the timer of the node `q` and its count. -/
structure Retimed (r r' : Resolver) (q : ℕ) : Prop where
  byid : r'.hquerybyid = r.hquerybyid
  byres : r'.hquerybyres = r.hquerybyres
  log : r'.log = r.log
  calls : r'.calls = r.calls
  brk : r'.brk = r.brk
  free : r'.queryFreeNodes = r.queryFreeNodes
  other : ∀ b, b ≠ q → r'.query b = r.query b
  self : Alike (r.query q) (r'.query q)

variable {r' : Resolver}

lemma Retimed.core (h : Retimed r r' q) (hc : Core r) : Core r' := by
  refine hc.congr h.byid h.byres h.log h.calls.ge h.brk.ge ?_ ?_
  · rw [h.free, h.brk]
    exact ⟨hc.free_nodup, fun b hb => ⟨hc.free_lt b hb, fun a hm => (hc.live a b hm).2 hb⟩⟩
  · rintro b -
    by_cases hb : b = q
    · rw [hb]
      exact h.self
    · rw [h.other b hb]
      exact ⟨rfl, rfl, rfl, rfl, rfl⟩

lemma Retimed.member (h : Retimed r r' q) (hm : r.Member q q) : r'.Member q q :=
  ⟨by rw [h.self.id, h.byid]; exact hm.1, .inl rfl⟩

lemma Retimed.finish (h : Retimed r r' q) (hc : Core r) (ht : Timers r) (hm : r.Member q q)
    (hstop : (r'.query q).timerPending = false) (status : Status) :
    Core (r'.finish q status) ∧ Timers (r'.finish q status) := by
  refine ⟨(h.core hc).finish (h.member hm) status, Timers.finish (h.core hc) (h.member hm) hstop ?_ ?_ status⟩
  · intro id a ha hne
    rw [h.other a hne]
    exact ht.runs id a (h.byid ▸ ha)
  · intro a ha
    by_cases hne : a = q
    · rw [hne, hstop] at ha
      cases ha
    · rw [h.other a hne] at ha ⊢
      rw [h.byid]
      exact ht.only a ha

lemma Timers.of_nodes (h : Timers r) (hid : r'.hquerybyid = r.hquerybyid) (hq : r'.query = r.query) :
    Timers r' := by
  refine ⟨?_, ?_⟩
  · rw [hid, hq]
    exact h.runs
  · rw [hid, hq]
    exact h.only

lemma onReadComplete_inv (h : Inv r) (fromNs : Bool) (pkt : Option Packet) :
    Inv (r.onReadComplete fromNs pkt) := by
  unfold Resolver.onReadComplete
  cases pkt with
  | none => exact h
  | some pkt =>
  by_cases hsrc : fromNs = false ∨ pkt.qr = false
  · simp only [if_pos hsrc]
    exact h
  simp only [if_neg hsrc]
  cases hq : r.hquerybyid pkt.id with
  | none => exact h
  | some q =>
  by_cases hans : pkt.answers (r.query q).key = false
  · simp only [if_pos hans]
    exact h
  simp only [if_neg hans]
  have hcore : Core (r.emit [.asserted ((r.query q).timerId ≠ 0)]) :=
    h.core.emit (by simp) (by simp) (by simp) (by simp [Event.tickets]) fun _ _ _ => rfl
  have htimers : Timers (r.emit [.asserted ((r.query q).timerId ≠ 0)]) := h.timers.of_nodes rfl rfl
  set r₁ := r.emit [.asserted ((r.query q).timerId ≠ 0)] with hr₁
  have hre : Retimed r₁ (r₁.setQuery q { r₁.query q with timerPending := false, timerId := 0 }) q := by
    refine ⟨rfl, rfl, rfl, rfl, rfl, rfl, fun b hb => ?_, ?_⟩
    · simp [Resolver.setQuery, hb]
    · simp only [Resolver.setQuery, Function.update_self]
      exact ⟨rfl, rfl, rfl, rfl, rfl⟩
  obtain ⟨h1, h2⟩ := hre.finish hcore htimers (hcore.self hq) (by simp [Resolver.setQuery])
    (if pkt.rcode = 0 then .success else .rcode pkt.rcode)
  refine ⟨h1, h2, asserted_finish ?_⟩
  -- the assertion holds, as the timer runs
  intro ok hin
  have hin' : .asserted ok ∈ r.log ++ [.asserted ((r.query q).timerId ≠ 0)] := hin
  rcases List.mem_append.1 hin' with hin' | hin'
  · exact h.asserted ok hin'
  · simpa [(h.timers.runs _ q hq).1] using hin'

lemma Retimed.sent (h : Retimed r r' q) (hi : Inv r)
    (hrun : (r'.query q).timerId = 1 ∧ (r'.query q).timerPending = true) (hm : r.Member q q) : Inv r' := by
  refine ⟨h.core hi.core, ⟨fun id a ha => ?_, fun a ha => ?_⟩, by rw [h.log]; exact hi.asserted⟩
  · by_cases hne : a = q
    · rw [hne]
      exact hrun
    · rw [h.other a hne]
      exact hi.timers.runs id a (h.byid ▸ ha)
  · by_cases hne : a = q
    · rw [hne]
      exact (h.member hm).1
    · rw [h.other a hne] at ha ⊢
      rw [h.byid]
      exact hi.timers.only a ha

lemma Retimed.expire (h : Retimed r r' q) (hi : Inv r) (hm : r.Member q q)
    (hstop : (r'.query q).timerPending = false) :
    Inv ((r'.finish q .timedOut).setQuery q { (r'.finish q .timedOut).query q with timerId := 0, userData := 0 }) := by
  obtain ⟨h1, h2⟩ := h.finish hi.core hi.timers hm hstop .timedOut
  set r₂ := r'.finish q .timedOut with hr₂
  have hfree : q ∈ r₂.queryFreeNodes := by simp [hr₂, Resolver.finish, Resolver.emit]
  have hnm : ∀ a, ¬ r₂.Member a q := fun a hm => (h1.live a q hm).2 hfree
  have hother : ∀ b, b ≠ q → (r₂.setQuery q { r₂.query q with timerId := 0, userData := 0 }).query b = r₂.query b := by
    intro b hb
    simp [Resolver.setQuery, hb]
  refine ⟨h1.congr rfl rfl rfl le_rfl le_rfl ⟨h1.free_nodup, fun b hb => ⟨h1.free_lt b hb, fun a hm => (h1.live a b hm).2 hb⟩⟩ ?_,
    h2.congr h1 rfl ?_ ?_, ?_⟩
  · rintro b ⟨a, hm⟩
    rw [hother b (by rintro rfl; exact hnm a hm)]
    exact ⟨rfl, rfl, rfl, rfl, rfl⟩
  · rintro b ⟨a, hm⟩
    rw [hother b (by rintro rfl; exact hnm a hm)]
    exact ⟨rfl, rfl, rfl⟩
  · intro b hb
    by_cases hbq : b = q
    · subst hbq
      simpa [Resolver.setQuery] using h2.nonmember hb
    · rw [hother b hbq]
      exact h2.nonmember hb
  · exact asserted_finish (by rw [h.log]; exact hi.asserted)

lemma Retimed.trans {r r' r'' : Resolver} {q : ℕ} (h : Retimed r r' q) (h' : Retimed r' r'' q) : Retimed r r'' q :=
  ⟨h'.byid.trans h.byid, h'.byres.trans h.byres, h'.log.trans h.log, h'.calls.trans h.calls, h'.brk.trans h.brk,
    h'.free.trans h.free, fun b hb => (h'.other b hb).trans (h.other b hb), ⟨h'.self.id.trans h.self.id,
    h'.self.key.trans h.self.key, h'.self.userData.trans h.self.userData, h'.self.cb.trans h.self.cb,
    h'.self.childHead.trans h.self.childHead⟩⟩

lemma Retimed.setQuery (r : Resolver) {query : Query} (h : Alike (r.query q) query) :
    Retimed r (r.setQuery q query) q := by
  refine ⟨rfl, rfl, rfl, rfl, rfl, rfl, fun b hb => ?_, ?_⟩
  · simp [Resolver.setQuery, hb]
  · simpa [Resolver.setQuery] using h

lemma transmitQuery_spec (r : Resolver) (q : ℕ) (net : Net) : Retimed r (r.transmitQuery q net).1 q ∧
      ((r.transmitQuery q net).2 = true →
        ((r.transmitQuery q net).1.query q).timerId = 1 ∧ ((r.transmitQuery q net).1.query q).timerPending = true) ∧
      ((r.transmitQuery q net).2 = false → (r.query q).timerPending = false →
        ((r.transmitQuery q net).1.query q).timerPending = false) := by
  have halike : ∀ (timerId transmitCnt : ℕ) (timerPending : Bool), Alike (r.query q)
      { r.query q with timerId := timerId, timerPending := timerPending, transmitCnt := transmitCnt } :=
    fun _ _ _ => ⟨rfl, rfl, rfl, rfl, rfl⟩
  cases net with
  | noServer => exact ⟨⟨rfl, rfl, rfl, rfl, rfl, rfl, fun _ _ => rfl, halike _ _ _⟩, by simp [Resolver.transmitQuery], fun _ hp => hp⟩
  | busy | sent =>
    refine ⟨Retimed.setQuery r (halike _ _ _), fun _ => ?_, by simp [Resolver.transmitQuery]⟩
    simp [Resolver.transmitQuery, Resolver.setQuery]
  | timerFull | noPacket | unsent =>
    refine ⟨Retimed.setQuery r (halike _ _ _), by simp [Resolver.transmitQuery], fun _ _ => ?_⟩
    simp [Resolver.transmitQuery, Resolver.setQuery]

lemma onTimeout_inv (h : Inv r) (hp : (r.query q).timerPending = true) (net : Net) :
    Inv (r.onTimeout q net) := by
  have hq := h.timers.only q hp
  have hm := h.core.self hq
  unfold Resolver.onTimeout
  have hsome : ¬ (r.setQuery q { r.query q with timerPending := false }).hquerybyid
      ((r.setQuery q { r.query q with timerPending := false }).query q).id = none := by
    simp [Resolver.setQuery, hq]
  simp only [if_neg hsome]
  -- the state when the timer is out of the heap
  set r₁ := r.setQuery q { r.query q with timerPending := false } with hr₁
  have hre₁ : Retimed r r₁ q := Retimed.setQuery r ⟨rfl, rfl, rfl, rfl, rfl⟩
  have hre₂ : Retimed r (r₁.setQuery q { r₁.query q with timerId := 0 }) q :=
    hre₁.trans (Retimed.setQuery r₁ ⟨rfl, rfl, rfl, rfl, rfl⟩)
  have hstop₂ : ((r₁.setQuery q { r₁.query q with timerId := 0 }).query q).timerPending = false := by
    simp [hr₁, Resolver.setQuery]
  set r₂ := r₁.setQuery q { r₁.query q with timerId := 0 } with hr₂
  by_cases hcnt : (r₂.query q).transmitCnt < r₂.qretrCount
  · obtain ⟨h1, h2, h3⟩ := transmitQuery_spec r₂ q net
    simp only [if_pos hcnt]
    by_cases hok : (r₂.transmitQuery q net).2 = true
    · rw [if_pos hok]
      exact (hre₂.trans h1).sent h (h2 hok) hm
    · rw [if_neg hok]
      exact (hre₂.trans h1).expire h hm (h3 (by simpa using hok) hstop₂)
  · simp only [if_neg hcnt, Bool.false_eq_true, if_false]
    exact hre₂.expire h hm hstop₂

lemma cancelQuery_inv (h : Inv r) {notify : Bool} (hs : Safe r (.cancelQuery q notify)) :
    Inv (r.cancelQuery q notify) := by
  obtain ⟨id, a, ha, hin⟩ := hs
  have hm : r.Member a q := ⟨(h.core.self ha).1, .inr hin⟩
  have hstop : (r.query q).timerPending = false := by
    by_contra hp
    have hq : r.Member q q := ⟨h.timers.only q (by simpa using hp), .inl rfl⟩
    obtain rfl := h.core.owner a q q hm hq
    exact (List.nodup_cons.1 (h.core.nodup a hq)).1 hin
  have hcond : ¬ ((r.query q).timerId = 1 ∧ (r.query q).timerPending = true) := by simp [hstop]
  have hre : ∀ b, b ≠ q → (r.setQuery q { r.query q with cb := false }).query b = r.query b := by
    intro b hb
    simp [Resolver.setQuery, hb]
  have hself : (r.setQuery q { r.query q with cb := false }).query q = { r.query q with cb := false } := by
    simp [Resolver.setQuery]
  have htimers : Timers (r.setQuery q { r.query q with cb := false }) := by
    have hsame : ∀ b, ((r.setQuery q { r.query q with cb := false }).query b).id = (r.query b).id ∧
        ((r.setQuery q { r.query q with cb := false }).query b).timerId = (r.query b).timerId ∧
        ((r.setQuery q { r.query q with cb := false }).query b).timerPending = (r.query b).timerPending := by
      intro b
      by_cases hb : b = q
      · rw [hb, hself]
        exact ⟨rfl, rfl, rfl⟩
      · rw [hre b hb]
        exact ⟨rfl, rfl, rfl⟩
    refine h.timers.congr h.core rfl (fun b _ => hsame b) fun b hb => ?_
    rw [(hsame b).2.2]
    exact h.timers.nonmember hb
  simp only [Resolver.cancelQuery, if_neg hcond]
  split_ifs with hnote
  · refine ⟨@Core.cancel _ _ h.core a q hm rfl rfl rfl rfl rfl hre (by simp [Resolver.emit, hself]) (by simp [Resolver.emit, hself])
      (by simp [Resolver.emit, hself]) (by simp [Resolver.emit, hself]) (by simp [Resolver.emit, hself])
      [.called (r.query q).userData .cancelled] (by simp [Resolver.emit, Resolver.setQuery]) (by simp), htimers.of_nodes rfl rfl, ?_⟩
    simpa [Resolver.emit, Resolver.setQuery] using h.asserted
  · refine ⟨@Core.cancel _ _ h.core a q hm rfl rfl rfl rfl rfl hre (by simp [Resolver.emit, hself]) (by simp [Resolver.emit, hself])
      (by simp [Resolver.emit, hself]) (by simp [Resolver.emit, hself]) (by simp [Resolver.emit, hself])
      [] (by simp [Resolver.emit, Resolver.setQuery]) (by simp), htimers.of_nodes rfl rfl, ?_⟩
    simpa [Resolver.emit, Resolver.setQuery] using h.asserted

lemma call_inv (h : Inv r) : Inv { r with calls := r.calls + 1 } := by
  refine ⟨h.core.congr rfl rfl rfl (Nat.le_succ _) le_rfl ⟨h.core.free_nodup, fun b hb => ⟨h.core.free_lt b hb, fun a hm =>
    (h.core.live a b hm).2 hb⟩⟩ fun b _ => ⟨rfl, rfl, rfl, rfl, rfl⟩, h.timers.of_nodes rfl rfl, h.asserted⟩

variable {r₁ : Resolver} {n caller : ℕ}

lemma attach_inv (h : Inv r) (hal : Allocated r r₁ n caller) (hq : r.Member q q)
    (hfresh : ∀ e ∈ r.log, caller ∉ e.tickets) (hlt : caller < r.calls) :
    Inv ((r₁.setQuery q { r₁.query q with childHead := (r₁.query q).childHead ++ [n] }).emit
      [.attached caller (r₁.query q).userData]) := by
  have hqn : q ≠ n := by
    rintro rfl
    exact hal.was q hq
  have hq₁ : r₁.Member q q := by
    refine ⟨?_, .inl rfl⟩
    rw [hal.byid, hal.other q hqn]
    exact hq.1
  set r' := (r₁.setQuery q { r₁.query q with childHead := (r₁.query q).childHead ++ [n] }).emit
    [.attached caller (r₁.query q).userData] with hr'
  have hself : r'.query q = { r₁.query q with childHead := (r₁.query q).childHead ++ [n] } := by
    simp [hr', Resolver.emit, Resolver.setQuery]
  have hother : ∀ b, b ≠ q → r'.query b = r₁.query b := by
    intro b hb
    simp [hr', Resolver.emit, Resolver.setQuery, hb]
  have hsame : ∀ b, (r'.query b).id = (r₁.query b).id ∧ (r'.query b).key = (r₁.query b).key ∧
      (r'.query b).userData = (r₁.query b).userData ∧ (r'.query b).cb = (r₁.query b).cb ∧
      (r'.query b).timerId = (r₁.query b).timerId ∧ (r'.query b).timerPending = (r₁.query b).timerPending := by
    intro b
    by_cases hb : b = q
    · rw [hb, hself]
      exact ⟨rfl, rfl, rfl, rfl, rfl, rfl⟩
    · rw [hother b hb]
      exact ⟨rfl, rfl, rfl, rfl, rfl, rfl⟩
  have hmem : ∀ x b, r'.Member x b ↔ r₁.Member x b ∨ x = q ∧ b = n := by
    intro x b
    unfold Resolver.Member
    rw [(hsame x).1]
    have hid : r'.hquerybyid = r₁.hquerybyid := rfl
    rw [hid]
    by_cases hx : x = q
    · subst hx
      rw [hself]
      simp only [List.mem_append, List.mem_singleton, hq₁.1, true_and]
      tauto
    · rw [hother x hx]
      simp [hx]
  have ht := hal.timers h.timers
  refine ⟨hal.core.join hal.spare (.inr hq₁) ?_ ?_ hmem ?_ (fun b => ⟨(hsame b).2.2.1, (hsame b).2.2.2.1⟩) rfl rfl rfl rfl
    hal.userData hal.cb (by rw [hal.log]; exact hfresh) (by rw [hal.calls]; exact hlt), ?_, ?_⟩
  · intro id x hx
    rw [(hsame x).1, (hsame x).2.1]
    exact hal.core.byid id x hx
  · intro key x hx
    rw [(hsame x).1, (hsame x).2.1]
    exact hal.core.byres key x hx
  · intro x hx
    by_cases hxq : x = q
    · subst hxq
      have hnd := hal.core.nodup x hq₁
      have hnin : n ∉ x :: (r₁.query x).childHead := by
        intro hin
        exact hal.spare.nonmember x ⟨hq₁.1, by simpa using hin⟩
      rw [hself]
      have := List.nodup_append.2 ⟨hnd, List.nodup_singleton n, by
        rintro y hy z hz rfl
        obtain rfl : y = n := by simpa using hz
        exact hnin hy⟩
      simpa using this
    · rw [hother x hxq]
      refine hal.core.nodup x ?_
      rcases (hmem x x).1 hx with hx | ⟨he, -⟩
      · exact hx
      · exact absurd he hxq
  · refine ⟨fun id x hx => ?_, fun x hx => ?_⟩
    · rw [(hsame x).2.2.2.2.1, (hsame x).2.2.2.2.2]
      exact ht.runs id x hx
    · rw [(hsame x).2.2.2.2.2] at hx
      rw [(hsame x).1]
      exact ht.only x hx
  · intro ok hin
    have hin' : .asserted ok ∈ r₁.log ++ [.attached caller (r₁.query q).userData] := hin
    rw [hal.log] at hin'
    exact h.asserted ok (by simpa using hin')

lemma getQueryId_free {digests : List ℕ} (h : r.getQueryId digests ≠ 0) :
    r.hquerybyid (r.getQueryId digests) = none := by
  unfold Resolver.getQueryId at h ⊢
  cases hf : (digests.take 1000).find? fun id => id ≠ 0 ∧ r.hquerybyid id = none with
  | none => rw [hf] at h; exact absurd rfl h
  | some id =>
    have := List.find?_some hf
    simp only [decide_eq_true_eq] at this
    exact this.2

lemma parent_inv {r₃ : Resolver} {id : ℕ} {key : ResKey} (h : Inv r) (hal : Allocated r r₁ n caller)
    (hid : r₁.hquerybyid id = none) (hkey : r₁.hquerybyres key = none) (hre : Retimed (r₁.setQuery n { r₁.query n with id := id, key := key }) r₃ n)
    (hrun : (r₃.query n).timerId = 1 ∧ (r₃.query n).timerPending = true)
    (hfresh : ∀ e ∈ r.log, caller ∉ e.tickets) (hlt : caller < r.calls) :
    Inv ({ r₃ with
      hquerybyid := Function.update r₃.hquerybyid id (some n)
      hquerybyres := Function.update r₃.hquerybyres key (some n) }.emit [.attached caller caller]) := by
  set r' := { r₃ with
    hquerybyid := Function.update r₃.hquerybyid id (some n)
    hquerybyres := Function.update r₃.hquerybyres key (some n) }.emit [.attached caller caller] with hr'
  have hset : (r₁.setQuery n { r₁.query n with id := id, key := key }).query n = { r₁.query n with id := id, key := key } := by
    simp [Resolver.setQuery]
  have hother : ∀ b, b ≠ n → r'.query b = r₁.query b := by
    intro b hb
    have h1 : r'.query b = r₃.query b := rfl
    rw [h1, hre.other b hb]
    simp [Resolver.setQuery, hb]
  have hself : (r'.query n).id = id ∧ (r'.query n).key = key ∧ (r'.query n).userData = (r₁.query n).userData ∧
      (r'.query n).cb = (r₁.query n).cb ∧ (r'.query n).childHead = [] := by
    have h1 : r'.query n = r₃.query n := rfl
    have h2 := hre.self
    rw [hset] at h2
    rw [h1, h2.id, h2.key, h2.userData, h2.cb, h2.childHead, hal.childHead]
    exact ⟨rfl, rfl, rfl, rfl, rfl⟩
  have hbyid : ∀ i, r'.hquerybyid i = if i = id then some n else r₁.hquerybyid i := by
    intro i
    have h1 : r'.hquerybyid i = Function.update r₃.hquerybyid id (some n) i := rfl
    rw [h1, hre.byid, Function.update_apply]
    rfl
  have hbyres : ∀ k, r'.hquerybyres k = if k = key then some n else r₁.hquerybyres k := by
    intro k
    have h1 : r'.hquerybyres k = Function.update r₃.hquerybyres key (some n) k := rfl
    rw [h1, hre.byres, Function.update_apply]
    rfl
  have hne : ∀ x, r₁.hquerybyid (r₁.query x).id = some x → x ≠ n ∧ (r₁.query x).id ≠ id ∧ (r₁.query x).key ≠ key := by
    intro x hx
    refine ⟨?_, ?_, ?_⟩
    · rintro rfl
      exact hal.spare.nonmember x ⟨hx, .inl rfl⟩
    · intro he
      rw [he, hid] at hx
      cases hx
    · intro he
      have := (hal.core.byid _ x hx).2
      rw [he, hkey] at this
      cases this
  have hmem : ∀ x b, r'.Member x b ↔ r₁.Member x b ∨ x = n ∧ b = n := by
    intro x b
    unfold Resolver.Member
    rw [hbyid]
    by_cases hx : x = n
    · subst hx
      rw [hself.1, hself.2.2.2.2, if_pos rfl]
      have : ¬ r₁.hquerybyid (r₁.query x).id = some x := fun hc => (hne x hc).1 rfl
      simp [this]
    · rw [hother x hx]
      constructor
      · rintro ⟨h1, h2⟩
        split_ifs at h1 with hc
        · exact absurd (Option.some.inj h1).symm hx
        · exact .inl ⟨h1, h2⟩
      · rintro (⟨h1, h2⟩ | ⟨h1, -⟩)
        · rw [if_neg (hne x h1).2.1]
          exact ⟨h1, h2⟩
        · exact absurd h1 hx
  have ht := hal.timers h.timers
  have hqu : ∀ b, (r'.query b).userData = (r₁.query b).userData ∧ (r'.query b).cb = (r₁.query b).cb := by
    intro b
    by_cases hb : b = n
    · rw [hb]
      exact ⟨hself.2.2.1, hself.2.2.2.1⟩
    · rw [hother b hb]
      exact ⟨rfl, rfl⟩
  refine ⟨hal.core.join hal.spare (.inl rfl) ?_ ?_ hmem ?_ hqu hre.brk hre.free hre.calls ?_ hal.userData hal.cb
    (by rw [hal.log]; exact hfresh) (by rw [hal.calls]; exact hlt), ⟨?_, ?_⟩, ?_⟩
  · intro i x hx
    rw [hbyid] at hx
    split_ifs at hx with hc
    · obtain rfl := Option.some.inj hx
      rw [hself.1, hself.2.1, hbyres, if_pos rfl]
      exact ⟨hc.symm, rfl⟩
    · have hxx := (hal.core.self hx).1
      rw [hother x (hne x hxx).1, hbyres, if_neg (hne x hxx).2.2]
      exact hal.core.byid i x hx
  · intro k x hx
    rw [hbyres] at hx
    split_ifs at hx with hc
    · obtain rfl := Option.some.inj hx
      rw [hself.1, hself.2.1, hbyid, if_pos rfl]
      exact ⟨hc.symm, rfl⟩
    · have hxx := (hal.core.byres k x hx).2
      rw [hother x (hne x hxx).1, hbyid, if_neg (hne x hxx).2.1]
      exact hal.core.byres k x hx
  · intro x hx
    rcases (hmem x x).1 hx with hx | ⟨rfl, -⟩
    · rw [hother x (hne x hx.1).1]
      exact hal.core.nodup x hx
    · rw [hself.2.2.2.2]
      simp
  · have h1 : r'.log = r₃.log ++ [.attached caller caller] := rfl
    rw [h1, hre.log, hal.userData]
    rfl
  · intro i x hx
    rw [hbyid] at hx
    split_ifs at hx with hc
    · obtain rfl := Option.some.inj hx
      exact hrun
    · rw [hother x (hne x (hal.core.self hx).1).1]
      exact ht.runs i x hx
  · intro x hx
    by_cases hxn : x = n
    · rw [hxn, hbyid, hself.1, if_pos rfl]
    · rw [hother x hxn] at hx ⊢
      have := ht.only x hx
      rw [hbyid, if_neg (hne x this).2.1]
      exact this
  · intro ok hin
    have hin' : .asserted ok ∈ r₃.log ++ [.attached caller caller] := hin
    rw [hre.log] at hin'
    have hin'' : .asserted ok ∈ r₁.log := by simpa [Resolver.setQuery] using hin'
    rw [hal.log] at hin''
    exact h.asserted ok hin''

lemma discard_inv (h : Inv r) (hal : Allocated r r₁ n caller)
    (hid : r'.hquerybyid = r₁.hquerybyid) (hres : r'.hquerybyres = r₁.hquerybyres) (hlog : r'.log = r₁.log)
    (hcalls : r'.calls = r₁.calls) (hbrk : r'.brk = r₁.brk) (hfree : r'.queryFreeNodes = r₁.queryFreeNodes)
    (hother : ∀ b, b ≠ n → r'.query b = r₁.query b) (hstop : (r'.query n).timerPending = false) : Inv (r'.freeNode n) := by
  refine ⟨hal.core.freeNode hal.spare hid hres hlog hcalls hbrk hfree hother, ?_, ?_⟩
  · refine (hal.timers h.timers).congr hal.core hid ?_ ?_
    · rintro b ⟨a, hm⟩
      have : (r'.freeNode n).query b = r₁.query b := hother b (by rintro rfl; exact hal.spare.nonmember a hm)
      rw [this]
      exact ⟨rfl, rfl, rfl⟩
    · intro b hb
      by_cases hbn : b = n
      · rw [hbn]
        exact hstop
      · have : (r'.freeNode n).query b = r₁.query b := hother b hbn
        rw [this]
        exact (hal.timers h.timers).nonmember hb
  · intro ok hin
    have hin' : .asserted ok ∈ r'.log := hin
    rw [hlog, hal.log] at hin'
    exact h.asserted ok hin'

lemma startQuery_inv (h : Inv r) (name : Bytes) (type : ℕ) (hit : Bool) (digests : List ℕ) (net : Net) :
    Inv (r.startQuery name type hit digests net) := by
  have hfresh : ∀ e ∈ r.log, r.calls ∉ e.tickets := fun e he hin => absurd (h.core.ticket_lt e he _ hin) (lt_irrefl _)
  have h₀ := call_inv h
  unfold Resolver.startQuery
  by_cases hbad : name.length = 0 ∨ maxHostname ≤ name.length ∨ type = 0 ∨ 0xFFFF ≤ type
  · simp only [if_pos hbad]
    exact h₀
  simp only [if_neg hbad]
  set r₀ := { r with calls := r.calls + 1 } with hr₀
  have hlt : r.calls < r₀.calls := Nat.lt_succ_self _
  cases hit with
  | true =>
    simp only [if_true]
    refine ⟨h₀.core.emit (by simp) (by simp) (by simp) ?_ ?_, h₀.timers.of_nodes rfl rfl, ?_⟩
    · intro t ht
      obtain rfl : t = r.calls := by simpa [Event.tickets] using ht
      exact hlt
    · intro t p hat
      have := h.core.ticket_lt _ hat t (by simp [Event.tickets])
      simp only [Event.isCall, decide_eq_false_iff_not]
      omega
    · intro ok hin
      exact h.asserted ok (by simpa [Resolver.emit] using hin)
  | false =>
    simp only [Bool.false_eq_true, if_false]
    have hal := h₀.core.allocQnode r.calls
    cases hq : r₀.hquerybyres (initResKey type name) with
    | some q => exact attach_inv h₀ hal (h₀.core.self (h₀.core.byres _ q hq).2) hfresh hlt
    | none =>
      set n := (r₀.allocQnode r.calls).2
      set r₁ := (r₀.allocQnode r.calls).1 with hr₁
      by_cases hz : r₁.getQueryId digests = 0
      · simp only [if_pos hz]
        exact discard_inv h₀ hal rfl rfl rfl rfl rfl rfl (fun _ _ => rfl) hal.stopped
      · simp only [if_neg hz]
        set r₂ := r₁.setQuery n { r₁.query n with id := r₁.getQueryId digests, key := initResKey type name } with hr₂
        obtain ⟨hre, hok, hfail⟩ := transmitQuery_spec r₂ n net
        by_cases hsent : (r₂.transmitQuery n net).2 = true
        · rw [if_pos hsent]
          exact parent_inv h₀ hal (getQueryId_free hz) (by rw [hal.byres]; exact hq) hre (hok hsent) hfresh hlt
        · rw [if_neg hsent]
          refine discard_inv h₀ hal hre.byid hre.byres hre.log hre.calls hre.brk hre.free (fun b hb => ?_) ?_
          · rw [hre.other b hb]
            simp [hr₂, Resolver.setQuery, hb]
          · refine hfail (by simpa using hsent) ?_
            simpa [hr₂, Resolver.setQuery] using hal.stopped

lemma step_inv (r : Resolver) (i : Input) (h : Inv r) (hs : Safe r i) : Inv (step r i) := by
  cases i with
  | startQuery name type hit digests net => exact startQuery_inv h name type hit digests net
  | cancelQuery q notify => exact cancelQuery_inv h hs
  | response fromNs pkt => exact onReadComplete_inv h fromNs pkt
  | timeout q net =>
    simp only [step]
    split_ifs with hp
    · exact onTimeout_inv h hp net
    · exact h

lemma create_inv (qretrCount : ℕ) : Inv (create qretrCount) := by
  have hnm : ∀ a b, ¬ (create qretrCount).Member a b := by
    rintro a b ⟨h1, -⟩
    cases h1
  refine ⟨⟨?_, ?_, fun a b hm => absurd hm (hnm a b), fun a a' b hm => absurd hm (hnm a b), fun a hm => absurd hm (hnm a a),
    by simp [create], by simp [create], by simp [create], by simp [create], fun a b hm => absurd hm (hnm a b),
    fun a b a' b' hm => absurd hm (hnm a b), by simp [create], by simp [create]⟩, ⟨?_, ?_⟩, by simp [create]⟩
  all_goals simp [create]

/-- Pending queries are complete, and each caller is called once, in every run in which only
children are cancelled. -/
theorem pending_queries_sound (qretrCount : ℕ) (is : List Input) (h : Guarded step Safe (create qretrCount) is) :
    Sound (run step (create qretrCount) is) :=
  (h.invariant step_inv (create_inv qretrCount)).sound

/-- Two callers of one name, the second cancels, and the answer comes. -/
theorem pending_queries_sound_child :
    let is : List Input := [.startQuery (lit "a.b") 1 false [7] .sent, .startQuery (lit "A.b") 1 false [] .sent,
      .cancelQuery 1 true, .response true (some ⟨true, 7, 0, some ⟨1, 1, lit "a.b"⟩⟩)]
    Guarded step Safe (create 5) is ∧ Sound (run step (create 5) is) := by
  have hsafe : Guarded step Safe (create 5) [.startQuery (lit "a.b") 1 false [7] .sent, .startQuery (lit "A.b") 1 false [] .sent,
      .cancelQuery 1 true, .response true (some ⟨true, 7, 0, some ⟨1, 1, lit "a.b"⟩⟩)] := by
    refine ⟨trivial, trivial, ⟨7, 0, by decide +kernel, by decide +kernel⟩, trivial, trivial⟩
  exact ⟨hsafe, pending_queries_sound 5 _ hsafe⟩

/-- The first of two callers cancels: the query stays in the tables and has no timer, so the second is
not called unless a response comes, and the assertion fails when it comes. -/
theorem cancelled_parent_stuck :
    let r := run step (create 5) [.startQuery (lit "a.b") 1 false [7] .sent, .startQuery (lit "a.b") 1 false [] .sent,
      .cancelQuery 0 false]
    r.hquerybyid 7 = some 0 ∧ (r.query 0).timerPending = false ∧ (r.query 1).cb = true ∧ ¬ Sound r ∧
      .asserted false ∈ (step r (.response true (some ⟨true, 7, 0, some ⟨1, 1, lit "a.b"⟩⟩))).log := by
  intro r
  have hstop : (r.query 0).timerPending = false := by decide +kernel
  refine ⟨by decide +kernel, hstop, by decide +kernel, fun h => ?_, by decide +kernel⟩
  have := (h.pending 7 0 (by decide +kernel)).2.2
  rw [hstop] at this
  cases this

end PjProject.Dns
