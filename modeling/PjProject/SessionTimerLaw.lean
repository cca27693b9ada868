import PjProject.SessionTimer

/-!
# Agreement on the session timer

Who refreshes is stored relative to a role; `who` says which end that is. In a call whose session
exists, both ends and all headers in flight name the caller, and both ends have one session interval.
An answer to an INVITE breaks this when the end that answers has taken the role of a UAC meanwhile.
-/
namespace PjProject.SessionTimer
open Transition

/-- The end that refreshes, as the end `x` has it. -/
def Timer.who (t : Timer) (x : Side) : Option Side :=
  if t.refresher = .unknown then none else some (if t.asRefresher then x else x.other)

/-- The end that refreshes, as a header in a transaction of `uac` says. -/
def SessExpires.who (h : SessExpires) (uac : Side) : Option Side :=
  match h.refresher with
  | .unknown => none
  | .uac => some uac
  | .uas => some uac.other

@[simp] lemma Side.other_other (x : Side) : x.other.other = x := by
  cases x with
  | caller => rfl
  | callee => rfl

lemma updateReq_who (t : Timer) (x : Side) : t.updateReq.who x = t.who x := by
  obtain ⟨active, se, minSe, refresher, role, last⟩ := t
  cases refresher <;> cases role <;> rfl

lemma updateReq_seHdr_who (t : Timer) (x : Side) : t.updateReq.seHdr.who x = t.who x := by
  obtain ⟨active, se, minSe, refresher, role, last⟩ := t
  cases refresher <;> cases role <;> rfl

lemma updateReq_fields (t : Timer) :
    t.updateReq.sessExpires = t.sessExpires ∧ t.updateReq.minSe = t.minSe ∧ t.updateReq.active = t.active := by
  obtain ⟨active, se, minSe, refresher, role, last⟩ := t
  cases refresher <;> exact ⟨rfl, rfl, rfl⟩

variable {x : Side}

lemma seHdr_who_uas {t : Timer} (h : t.role = .uas) : t.seHdr.who x.other = t.who x := by
  obtain ⟨active, se, minSe, refresher, role, last⟩ := t
  cases h
  cases refresher <;> cases x <;> rfl

lemma processReq_some (t : Timer) (force : Bool) (x : Side) (hdr : SessExpires) (m : ℕ) (h1 : t.minSe ≤ hdr.sessExpires)
    (h2 : m ≤ hdr.sessExpires) :
    ∃ t', t.processReq force (some hdr) (some m) = some t' ∧ t'.sessExpires = hdr.sessExpires ∧ t'.minSe = t.minSe ∧
      t'.active = true ∧ t'.role = .uas ∧ t'.who x = ((hdr.who x.other).or (t.who x)).or (some x.other) := by
  have hle : ¬ hdr.sessExpires < max m t.minSe := by omega
  unfold Timer.processReq
  simp only [if_neg hle]
  refine ⟨_, rfl, rfl, rfl, rfl, rfl, ?_⟩
  obtain ⟨se, r⟩ := hdr
  obtain ⟨active, se', minSe, refresher, role, last⟩ := t
  cases r <;> cases refresher <;> cases role <;> cases x <;> rfl

lemma process2xx_spec {t : Timer} {hdr : SessExpires} (x : Side) (hse : hdr.sessExpires = t.sessExpires)
    (hmin : t.minSe ≤ t.sessExpires) (hr : hdr.who x ≠ none) :
    (t.process2xx (some hdr)).sessExpires = t.sessExpires ∧ (t.process2xx (some hdr)).minSe = t.minSe ∧
      (t.process2xx (some hdr)).active = true ∧ (t.process2xx (some hdr)).who x = hdr.who x := by
  have hnot : ¬ (hdr.sessExpires < t.minSe ∧ absMinSe ≤ hdr.sessExpires) := by omega
  have hyes : hdr.sessExpires ≤ t.sessExpires ∧ t.minSe ≤ hdr.sessExpires := by omega
  unfold Timer.process2xx
  simp only [if_neg hnot, if_pos hyes]
  refine ⟨hse, trivial, trivial, ?_⟩
  obtain ⟨se, r⟩ := hdr
  cases r with
  | unknown => exact absurd rfl hr
  | uac => rfl
  | uas => rfl

/-- The part of an end in a call whose interval is `S`. -/
structure EndGood (S : ℕ) (x : Side) (e : Endpoint) : Prop where
  se : e.timer.sessExpires = S
  minSe : e.timer.minSe ≤ S
  who : e.timer.who x = some .caller ∨ x = .caller ∧ e.timer.who x = none
  active : (x = .callee ∨ ∃ k, e.inviteTsx = some (.uas, k)) → e.timer.active = true ∧ e.timer.who x = some .caller
  alive : e.state ≠ .null
  established : e.state = .confirmed → e.established = true

/-- A message in flight in such a call; `known` says that the caller knows who refreshes. -/
def Message.Good (S : ℕ) (known : Prop) (m : Message) : Prop :=
  match m.kind with
  | .request =>
    (m.method = .invite → m.toTag = true) ∧
      ∃ hdr k, m.se = some hdr ∧ m.minSe = some k ∧ hdr.sessExpires = S ∧ k ≤ S ∧
        (hdr.who m.uac = some .caller ∨ m.uac = .caller ∧ hdr.who m.uac = none)
  | .response code =>
    code ≠ 422 ∧ (code / 100 = 2 →
      (m.uac = .callee → known) ∧ ∃ hdr, m.se = some hdr ∧ hdr.sessExpires = S ∧ hdr.who m.uac = some .caller)

variable {S : ℕ} {p : Prop} {m : Message}

lemma Message.Good.mono {q : Prop} (hpq : p → q) (h : m.Good S p) : m.Good S q := by
  unfold Message.Good at *
  cases hk : m.kind with
  | request =>
    simp only [hk] at h ⊢
    exact h
  | response code =>
    simp only [hk] at h ⊢
    exact ⟨h.1, fun hc => ⟨fun hu => hpq ((h.2 hc).1 hu), (h.2 hc).2⟩⟩

def Call.known (c : Call) : Prop := (c.ends .caller).timer.who .caller = some .caller

structure Linked (S : ℕ) (c : Call) : Prop where
  ends : ∀ x, EndGood S x (c.ends x)
  flight : ∀ m ∈ c.flight, m.Good S c.known
  answered : c.lastAnswer = some true → c.known

variable {c : Call} {e : Endpoint}

lemma Linked.setEnd (h : Linked S c) (he : EndGood S x e)
    (hwho : (c.ends x).timer.who x = some .caller → e.timer.who x = some .caller) : Linked S (c.setEnd x e) := by
  have hknown : c.known → (c.setEnd x e).known := by
    intro hk
    unfold Call.known Call.setEnd
    cases x with
    | caller => simpa using hwho hk
    | callee => simpa [Call.known] using hk
  refine ⟨?_, fun m hm => (h.flight m hm).mono hknown, fun ha => hknown (h.answered ha)⟩
  intro y
  by_cases hy : y = x
  · subst hy
    simpa [Call.setEnd] using he
  · simpa [Call.setEnd, hy] using h.ends y

lemma Linked.finish (h : Linked S c) {b : Bool} (he : EndGood S x e)
    (hwho : (c.ends x).timer.who x = some .caller → e.timer.who x = some .caller)
    (hb : b = true → (c.setEnd x e).known) : Linked S ({ c with lastAnswer := some b }.setEnd x e) := by
  have hset := h.setEnd he hwho
  refine ⟨hset.ends, hset.flight, fun ha => hb ?_⟩
  exact Option.some.inj ha

lemma Linked.send (h : Linked S c) (hm : m.Good S c.known) : Linked S (c.send m) := by
  refine ⟨h.ends, ?_, h.answered⟩
  intro m' hm'
  rcases List.mem_append.mp hm' with hm' | hm'
  · exact h.flight m' hm'
  · obtain rfl : m' = m := by simpa using hm'
    exact hm

variable {code : ℕ}

lemma respond_good (e : Endpoint) (m : Message) (h1 : code ≠ 422) (h2 : code / 100 ≠ 2) :
    (e.respond m code).Good S p := ⟨h1, fun h => absurd h h2⟩

lemma respond_2xx_good (he : EndGood S x e) (m : Message)
    (hc : code / 100 = 2) (hm : m.uac = x.other) (hrole : e.timer.role = .uas) (hact : e.timer.active = true)
    (hwho : e.timer.who x = some .caller) (hp : x = .caller → p) : (e.respond m code).Good S p := by
  refine ⟨by omega, fun _ => ⟨?_, e.timer.seHdr, ?_, he.se, ?_⟩⟩
  · intro hu
    refine hp ?_
    change m.uac = .callee at hu
    cases x with
    | caller => rfl
    | callee =>
      rw [hm] at hu
      cases hu
  · exact if_pos ⟨hc, hact⟩
  · change e.timer.seHdr.who m.uac = some .caller
    rw [hm, seHdr_who_uas hrole]
    exact hwho

lemma Linked.start (h : Linked S c) (x : Side) (method : Method) : Linked S (c.start x method) := by
  unfold Call.start
  by_cases hcan : (c.ends x).canStart method = true
  swap
  · simp only [hcan, Bool.false_eq_true, if_false]
    exact h
  simp only [hcan, if_true]
  have hx := h.ends x
  set e : Endpoint := { c.ends x with timer := (c.ends x).timer.updateReq } with he
  obtain ⟨hse, hmin, hact⟩ := updateReq_fields (c.ends x).timer
  have hwho : e.timer.who x = (c.ends x).timer.who x := updateReq_who _ x
  have hgood : EndGood S x (e.sent method) := by
    cases method with
    | invite =>
      have hstate : (e.sent .invite).state = (c.ends x).state := if_neg hx.alive
      refine ⟨hse.trans hx.se, hmin.le.trans hx.minSe, ?_, ?_, ?_, ?_⟩
      · change e.timer.who x = _ ∨ _ ∧ e.timer.who x = _
        rw [hwho]
        exact hx.who
      · rintro (hcallee | ⟨k, hk⟩)
        · change e.timer.active = true ∧ e.timer.who x = _
          rw [hwho, hact]
          exact hx.active (.inl hcallee)
        · cases hk
      · rw [hstate]
        exact hx.alive
      · rw [hstate]
        exact hx.established
    | update =>
      refine ⟨hse.trans hx.se, hmin.le.trans hx.minSe, ?_, ?_, hx.alive, hx.established⟩
      · change e.timer.who x = _ ∨ _ ∧ e.timer.who x = _
        rw [hwho]
        exact hx.who
      · intro ha
        change e.timer.active = true ∧ e.timer.who x = _
        rw [hwho, hact]
        exact hx.active ha
  have hsent : (e.sent method).timer = e.timer := by
    cases method with
    | invite => rfl
    | update => rfl
  refine (h.setEnd hgood (by rw [hsent, hwho]; exact id)).send ?_
  refine ⟨?_, e.timer.seHdr, e.timer.minSe, rfl, rfl, hse.trans hx.se, hmin.le.trans hx.minSe, ?_⟩
  · intro hinv
    change method = .invite at hinv
    subst hinv
    have : ((c.ends x).state = .null ∨ (c.ends x).state = .confirmed) ∧ (c.ends x).inviteTsx = none := by
      simpa [Endpoint.canStart] using hcan
    exact hx.established (this.1.resolve_left hx.alive)
  · change e.timer.seHdr.who x = _ ∨ x = _ ∧ e.timer.seHdr.who x = _
    rw [he, updateReq_seHdr_who]
    exact hx.who

lemma Linked.onRequest (h : Linked S c) (hm : m.Good S c.known) (hk : m.kind = .request)
    (accept : Bool) : Linked S (c.onRequest m.uac.other m accept) := by
  set x := m.uac.other with hx'
  have hx := h.ends x
  have huac : m.uac = x.other := by rw [hx', Side.other_other]
  unfold Message.Good at hm
  rw [hk] at hm
  obtain ⟨-, hdr, k, hse, hmin, hS, hk', hwho⟩ := hm
  obtain ⟨t, ht, htse, htmin, htact, htrole, htwho⟩ := processReq_some (c.ends x).timer
    ((c.ends x).requireTimer || (c.ends x).alwaysUse) x hdr k (by rw [hS]; exact hx.minSe) (by rw [hS]; exact hk')
  have hcaller : t.who x = some .caller := by
    rw [htwho, ← huac]
    rcases hwho with hw | ⟨hu, hw⟩
    · rw [hw]
      rfl
    · have hxe : x = .callee := by rw [hx', hu]; rfl
      rw [hw, (hx.active (.inl hxe)).2]
      rfl
  unfold Call.onRequest
  simp only [hse, hmin, ht]
  have hgood : ∀ tsx, EndGood S x { c.ends x with timer := t, inviteTsx := tsx } := fun tsx =>
    ⟨htse.trans hS, by rw [htmin]; exact hx.minSe, .inl hcaller, fun _ => ⟨htact, hcaller⟩, hx.alive, hx.established⟩
  cases m.method with
  | invite => exact h.setEnd (hgood _) fun _ => hcaller
  | update =>
    refine (h.setEnd (hgood (c.ends x).inviteTsx) fun _ => hcaller).send ?_
    cases accept with
    | false => exact respond_good _ _ (by decide) (by decide)
    | true =>
      refine respond_2xx_good (hgood (c.ends x).inviteTsx) m (by decide) huac htrole htact hcaller ?_
      intro hxc
      clear_value x
      subst hxc
      simpa [Call.known, Call.setEnd] using hcaller

lemma rejected_ne_null (s : InvState) : (if s = .confirmed then InvState.confirmed else .disconnected) ≠ .null := by
  split_ifs <;> decide

lemma of_rejected_confirmed {s : InvState} (h : (if s = .confirmed then InvState.confirmed else .disconnected) = .confirmed) :
    s = .confirmed := by
  by_contra hne
  rw [if_neg hne] at h
  cases h

lemma Linked.onResponse (h : Linked S c) (hm : m.Good S c.known)
    (hk : m.kind = .response code) : Linked S (c.onResponse m.uac m code) := by
  set x := m.uac with hx'
  have hx := h.ends x
  unfold Message.Good at hm
  rw [hk] at hm
  obtain ⟨h422, h2xx⟩ := hm
  unfold Call.onResponse
  by_cases hprov : code < 200
  · simp only [if_pos hprov]
    refine h.setEnd ⟨hx.se, hx.minSe, hx.who, hx.active, ?_, fun _ => rfl⟩ id
    change (if (c.ends x).state = .calling then InvState.early else (c.ends x).state) ≠ .null
    split_ifs
    · decide
    · exact hx.alive
  simp only [if_neg hprov]
  by_cases hc : code / 100 = 2
  · obtain ⟨hknown, hdr, hse, hS, hwho⟩ := h2xx hc
    have hproc : (c.ends x).processResp m code = ({ c.ends x with timer := (c.ends x).timer.process2xx (some hdr) }, .done) := by
      unfold Endpoint.processResp
      simp [h422, hc, hse]
    obtain ⟨h1, h2, h3, h4⟩ := process2xx_spec (t := (c.ends x).timer) x (hS.trans hx.se.symm) (hx.minSe.trans hx.se.ge)
      (by rw [hwho]; simp)
    rw [hproc]
    rw [hwho] at h4
    have hfinal : ∀ e : Endpoint, e.timer = (c.ends x).timer.process2xx (some hdr) → e.state ≠ .null →
        (e.state = .confirmed → e.established = true) →
        Linked S ({ c with lastAnswer := some (decide (code / 100 = 2)) }.setEnd x e) := by
      intro e het halive hest
      rw [← het] at h1 h2 h3 h4
      refine h.finish ⟨h1.trans hx.se, h2.le.trans hx.minSe, .inl h4, fun _ => ⟨h3, h4⟩, halive, hest⟩ (fun _ => h4) fun _ => ?_
      clear_value x
      cases x with
      | caller => simpa [Call.known, Call.setEnd] using h4
      | callee => simpa [Call.known, Call.setEnd] using hknown hx'.symm
    cases m.method with
    | update => exact hfinal _ rfl hx.alive hx.established
    | invite =>
      simp only [if_pos hc]
      exact hfinal _ rfl (by simp) fun _ => rfl
  · have hproc : (c.ends x).processResp m code = (c.ends x, .done) := by
      unfold Endpoint.processResp
      simp [h422, hc]
    rw [hproc]
    have hno : decide (code / 100 = 2) = true → ∀ p : Prop, p := fun ht => absurd (of_decide_eq_true ht) hc
    cases m.method with
    | update => exact h.finish hx id fun ht => hno ht _
    | invite =>
      simp only [if_neg hc]
      refine h.finish ⟨hx.se, hx.minSe, hx.who, ?_, ?_, ?_⟩ id fun ht => hno ht _
      · rintro (hcallee | ⟨k, hk⟩)
        · exact hx.active (.inl hcallee)
        · cases hk
      · exact rejected_ne_null _
      · exact fun hconf => hx.established (of_rejected_confirmed hconf)

lemma Linked.arrive (h : Linked S c) (hm : m.Good S c.known) (refuse accept : Bool)
    (setting : Setting) : Linked S (c.arrive m refuse accept setting) := by
  unfold Call.arrive
  have href : Linked S (c.send ((c.ends m.uac.other).respond m Call.refused)) :=
    h.send (respond_good _ _ (by decide) (by decide))
  cases hk : m.kind with
  | response code => exact h.onResponse hm hk
  | request =>
    have htag : m.method = .invite → m.toTag = true := by
      unfold Message.Good at hm
      rw [hk] at hm
      exact hm.1
    simp only
    split_ifs with h1 h2 h3 h4 h5
    · exact href
    · rw [htag h3.1] at h2
      cases h2
    · exact href
    · exact href
    · exact href
    · exact h.onRequest hm hk accept

lemma pendingInvite_eq (h : c.pendingInvite x = some m) :
    (∃ k, (c.ends x).inviteTsx = some (.uas, k)) ∧ m.uac = x.other := by
  unfold Call.pendingInvite at h
  split at h
  · rename_i k hk
    cases h
    exact ⟨⟨k, hk⟩, rfl⟩
  · cases h

/-- The step at which the code goes wrong: an INVITE is answered with a 2xx by an end whose last role
is that of a UAC. -/
def Safe (c : Call) : Input → Prop
  | .answer x code => code / 100 = 2 → c.pendingInvite x ≠ none → (c.ends x).timer.role = .uas
  | _ => True

lemma Linked.step (h : Linked S c) (i : Input) (hs : Safe c i) : Linked S (c.step i) := by
  cases i with
  | start x method => exact h.start x method
  | deliver i refuse accept setting =>
    simp only [Call.step]
    cases hi : c.flight[i]? with
    | none => exact h
    | some m =>
      have hrest : Linked S { c with flight := c.flight.eraseIdx i } :=
        ⟨h.ends, fun m' hm' => h.flight m' (List.mem_of_mem_eraseIdx hm'), h.answered⟩
      exact hrest.arrive (h.flight m (List.mem_of_getElem? hi)) refuse accept setting
  | provisional x =>
    simp only [Call.step]
    cases hp : c.pendingInvite x with
    | none => exact h
    | some m =>
      have hx := h.ends x
      simp only
      refine Linked.send (Linked.setEnd h ?_ ?_) (respond_good _ m (by decide) (by decide))
      swap
      · exact id
      refine ⟨hx.se, hx.minSe, hx.who, hx.active, ?_, fun _ => rfl⟩
      change (if (c.ends x).state = .incoming then InvState.early else (c.ends x).state) ≠ .null
      split_ifs
      · decide
      · exact hx.alive
  | answer x code =>
    simp only [Call.step]
    cases hp : c.pendingInvite x with
    | none => exact h
    | some m =>
      obtain ⟨htsx, huac⟩ := pendingInvite_eq hp
      have hx := h.ends x
      obtain ⟨hact, hwho⟩ := hx.active (.inr htsx)
      by_cases hcode : 200 ≤ code ∧ code < 700 ∧ code ≠ 422
      swap
      · simp only [if_neg hcode]
        exact h
      simp only [if_pos hcode]
      by_cases hc : code / 100 = 2
      · simp only [if_pos hc]
        refine Linked.send (Linked.setEnd h ?_ ?_) ?_
        · exact ⟨hx.se, hx.minSe, hx.who, fun _ => ⟨hact, hwho⟩, by simp, fun _ => rfl⟩
        · exact id
        · refine respond_2xx_good hx m hc huac (hs hc (by rw [hp]; simp)) hact hwho ?_
          rintro rfl
          simpa [Call.known, Call.setEnd] using hwho
      · simp only [if_neg hc]
        refine Linked.send (Linked.setEnd h ?_ ?_) ?_
        · exact ⟨hx.se, hx.minSe, hx.who, fun _ => ⟨hact, hwho⟩, rejected_ne_null _,
            fun hconf => hx.established (of_rejected_confirmed hconf)⟩
        · exact id
        · exact respond_good _ _ hcode.2.2 hc

def Opening (e : Endpoint) (m : Message) : Prop :=
  m.uac = .caller ∧ m.method = .invite ∧
    (m.kind = .request ∧ m.toTag = false ∧ m.se = some ⟨e.timer.sessExpires, .unknown⟩ ∧ m.minSe = some e.timer.minSe ∨
      ∃ code, m.kind = .response code ∧ 200 ≤ code ∧ code / 100 ≠ 2)

structure Unlinked (c : Call) : Prop where
  callee : (c.ends .callee).state = .disconnected ∧ (c.ends .callee).inviteTsx = none
  caller : (c.ends .caller).timer.refresher = .unknown ∧ (c.ends .caller).established = false ∧
    ∀ k, (c.ends .caller).inviteTsx ≠ some (.uas, k)
  minSe : (c.ends .caller).timer.minSe ≤ (c.ends .caller).timer.sessExpires
  lastAnswer : c.lastAnswer ≠ some true

structure Dialing (c : Call) : Prop extends Unlinked c where
  flight : c.flight = [] ∧ ((c.ends .caller).state = .null ∨ (c.ends .caller).state = .disconnected) ∨
    ∃ m, c.flight = [m] ∧ (c.ends .caller).state = .calling ∧ Opening (c.ends .caller) m

def Inv (c : Call) : Prop := Dialing c ∨ ∃ S, Linked S c

lemma Dialing.start (h : Dialing c) (x : Side) (method : Method) : Dialing (c.start x method) := by
  unfold Call.start
  by_cases hcan : (c.ends x).canStart method = true
  swap
  · simp only [hcan, Bool.false_eq_true, if_false]
    exact h
  -- only the first INVITE can be started
  have honly : x = .caller ∧ method = .invite ∧ (c.ends .caller).state = .null ∧ c.flight = [] := by
    cases x with
    | callee =>
      cases method with
      | invite => simp [Endpoint.canStart, h.callee.1] at hcan
      | update => simp [Endpoint.canStart, h.callee.1] at hcan
    | caller =>
      cases method with
      | update => simp [Endpoint.canStart, h.caller.2.1] at hcan
      | invite =>
        rcases h.flight with ⟨hf, hst | hst⟩ | ⟨m, -, hst, -⟩
        · exact ⟨rfl, rfl, hst, hf⟩
        · simp [Endpoint.canStart, hst] at hcan
        · simp [Endpoint.canStart, hst] at hcan
  obtain ⟨rfl, rfl, hst, hf⟩ := honly
  simp only [hcan, if_true]
  have hup : (c.ends .caller).timer.updateReq = (c.ends .caller).timer := if_neg (by simp [h.caller.1])
  refine ⟨⟨by simpa [Call.start, Call.setEnd, Call.send] using h.callee, ?_, ?_, h.lastAnswer⟩, ?_⟩
  · simp only [Call.send, Call.setEnd, Function.update_self, Endpoint.sent, hup]
    exact ⟨h.caller.1, h.caller.2.1, by simp⟩
  · simp only [Call.send, Call.setEnd, Function.update_self, Endpoint.sent, hup]
    exact h.minSe
  · refine .inr ⟨_, by simp [Call.send, Call.setEnd, hf]; rfl, ?_, ?_⟩
    · simp [Call.send, Call.setEnd, Endpoint.sent, hst]
    · simp only [Call.send, Call.setEnd, Function.update_self, Endpoint.sent, hup]
      refine ⟨rfl, rfl, .inl ⟨rfl, h.caller.2.1, ?_, rfl⟩⟩
      simp [Endpoint.request, Timer.seHdr, h.caller.1]

lemma Unlinked.createSession (h : Unlinked c) (hf : c.flight = []) (hst : (c.ends .caller).state = .calling)
    (hm : Opening (c.ends .caller) m) (hk : m.kind = .request) (setting : Setting) : Inv (c.createSession .callee m setting) := by
  obtain ⟨huac, hmethod, ⟨-, htag, hse, hmin⟩ | ⟨code, hcode, -⟩⟩ := hm
  swap
  · rw [hk] at hcode
    cases hcode
  unfold Call.createSession
  simp only [hse, hmin]
  set e : Endpoint := { c.ends .callee with
    timer := .initSession setting, state := .incoming, inviteTsx := some (.uas, m.cseq), established := false }
  by_cases hle : setting.minSe ≤ (c.ends .caller).timer.sessExpires
  · obtain ⟨t, ht, htse, htmin, htact, -, htwho⟩ := processReq_some (.initSession setting)
      ((c.ends .callee).requireTimer || (c.ends .callee).alwaysUse) .callee
      ⟨(c.ends .caller).timer.sessExpires, .unknown⟩ (c.ends .caller).timer.minSe hle h.minSe
    simp only [ht]
    refine .inr ⟨(c.ends .caller).timer.sessExpires, ?_, ?_, fun ha => absurd ha h.lastAnswer⟩
    · intro x
      cases x with
      | caller =>
        have hsame : (c.setEnd .callee { e with timer := t }).ends .caller = c.ends .caller := by simp [Call.setEnd]
        rw [hsame]
        refine ⟨rfl, h.minSe, .inr ⟨rfl, if_pos h.caller.1⟩, ?_, by simp [hst], by simp [hst]⟩
        rintro (hc | ⟨k, hk⟩)
        · cases hc
        · exact absurd hk (h.caller.2.2 k)
      | callee =>
        have hnew : (c.setEnd .callee { e with timer := t }).ends .callee = { e with timer := t } := by simp [Call.setEnd]
        rw [hnew]
        exact ⟨htse, htmin.le.trans hle, .inl htwho, fun _ => ⟨htact, htwho⟩, by simp [e], by simp [e]⟩
    · simp [Call.setEnd, hf]
  · have hnone : (Timer.initSession setting).processReq
        ((c.ends .callee).requireTimer || (c.ends .callee).alwaysUse)
        (some ⟨(c.ends .caller).timer.sessExpires, .unknown⟩) (some (c.ends .caller).timer.minSe) = none := by
      have hlt : (c.ends .caller).timer.sessExpires < max (c.ends .caller).timer.minSe (Timer.initSession setting).minSe := by
        have : (Timer.initSession setting).minSe = setting.minSe := rfl
        omega
      simp only [Timer.processReq, if_pos hlt]
    simp only [hnone]
    refine .inl ⟨⟨by simp [Call.send, Call.setEnd], by simpa [Call.send, Call.setEnd] using h.caller,
      by simpa [Call.send, Call.setEnd] using h.minSe, h.lastAnswer⟩, .inr ⟨_, by simp [Call.send, Call.setEnd, hf]; rfl, ?_, ?_⟩⟩
    · simpa [Call.send, Call.setEnd] using hst
    · exact ⟨huac, hmethod, .inr ⟨422, rfl, by decide, by decide⟩⟩

lemma Unlinked.onResponse (h : Unlinked c) (hf : c.flight = []) (hst : (c.ends .caller).state = .calling) (hmethod : m.method = .invite) (h200 : 200 ≤ code) (h2 : code / 100 ≠ 2) : Dialing (c.onResponse .caller m code) := by
  have hnot : ¬ code < 200 := not_lt.mpr h200
  have hdone : ∀ e : Endpoint, e.timer.refresher = .unknown → e.established = false → (∀ k, e.inviteTsx ≠ some (.uas, k)) →
      e.timer.minSe ≤ e.timer.sessExpires → e.state = .disconnected →
      Dialing ({ c with lastAnswer := some (decide (code / 100 = 2)) }.setEnd .caller e) := by
    intro e h1 h3 h4 h5 h6
    refine ⟨⟨by simpa [Call.setEnd] using h.callee, ?_, ?_, ?_⟩, .inl ⟨hf, .inr ?_⟩⟩
    · simpa [Call.setEnd] using ⟨h1, h3, h4⟩
    · simpa [Call.setEnd] using h5
    · simp [Call.setEnd, h2]
    · simpa [Call.setEnd] using h6
  unfold Call.onResponse
  simp only [if_neg hnot, hmethod]
  by_cases h422 : code = 422
  swap
  · have hproc : (c.ends .caller).processResp m code = (c.ends .caller, .done) := by
      unfold Endpoint.processResp
      simp [h422, h2]
    simp only [hproc, if_neg h2]
    exact hdone _ h.caller.1 h.caller.2.1 (by simp) h.minSe (by simp [hst])
  subst h422
  have hne : (c.ends .caller).state ≠ .confirmed := by simp [hst]
  cases hmin : m.minSe with
  | none =>
    have hproc : (c.ends .caller).processResp m 422 =
        ({ c.ends .caller with timer.active := false }, .fail) := by simp [Endpoint.processResp, hmin]
    simp only [hproc]
    exact hdone _ h.caller.1 h.caller.2.1 h.caller.2.2 h.minSe (by simp [hst])
  | some k =>
    by_cases hloop : m.cseq = (c.ends .caller).timer.last422Cseq + 1
    · have hproc : (c.ends .caller).processResp m 422 = (c.ends .caller, .fail) := by
        simp [Endpoint.processResp, hmin, hloop, hne]
      simp only [hproc]
      exact hdone _ h.caller.1 h.caller.2.1 h.caller.2.2 h.minSe (by simp [hst])
    · set minSe := max k (c.ends .caller).timer.minSe with hminSe
      set sessExpires := if (c.ends .caller).timer.sessExpires < minSe then minSe else (c.ends .caller).timer.sessExpires with hsess
      set t : Timer := { (c.ends .caller).timer with last422Cseq := m.cseq, minSe := minSe, sessExpires := sessExpires }
      have hproc : (c.ends .caller).processResp m 422 = ({ c.ends .caller with timer := t }, .resend) := by
        simp [Endpoint.processResp, hmin, hloop, t, sessExpires, minSe]
      have hle : minSe ≤ sessExpires := by
        rw [hsess]
        split_ifs with hlt
        · exact le_rfl
        · exact not_lt.mp hlt
      simp only [hproc, Endpoint.restart]
      refine ⟨⟨by simpa [Call.setEnd, Call.send] using h.callee, ?_, ?_, by simp [Call.setEnd, Call.send]⟩,
        .inr ⟨_, by simp [Call.send, Call.setEnd, hf]; rfl, ?_, ?_⟩⟩
      · simpa [Call.setEnd, Call.send, Endpoint.sent, hne, t] using ⟨h.caller.1, h.caller.2.1⟩
      · simpa [Call.setEnd, Call.send, Endpoint.sent, hne] using hle
      · simp [Call.setEnd, Call.send, Endpoint.sent, hne]
      · refine ⟨rfl, rfl, .inl ⟨rfl, ?_, ?_, ?_⟩⟩
        · simpa [Endpoint.request, hne] using h.caller.2.1
        · simp [Endpoint.request, Call.setEnd, Call.send, Endpoint.sent, hne, Timer.seHdr, t, h.caller.1]
        · simp [Endpoint.request, Call.setEnd, Call.send, Endpoint.sent, hne]

lemma Dialing.step (h : Dialing c) (i : Input) : Inv (c.step i) := by
  have hnoInvite : ∀ x, c.pendingInvite x = none := by
    intro x
    by_contra hne
    obtain ⟨m, hm⟩ := Option.ne_none_iff_exists'.mp hne
    obtain ⟨⟨k, hk⟩, -⟩ := pendingInvite_eq hm
    cases x with
    | caller => exact h.caller.2.2 k hk
    | callee =>
      rw [h.callee.2] at hk
      cases hk
  cases i with
  | start x method => exact .inl (h.start x method)
  | provisional x =>
    simp only [Call.step, hnoInvite]
    exact .inl h
  | answer x code =>
    simp only [Call.step, hnoInvite]
    exact .inl h
  | deliver i refuse accept setting =>
    simp only [Call.step]
    rcases h.flight with ⟨hf, -⟩ | ⟨m, hf, hst, hm⟩
    · simp only [hf, List.getElem?_nil]
      exact .inl h
    cases i with
    | succ i =>
      simp only [hf, List.getElem?_cons_succ, List.getElem?_nil]
      exact .inl h
    | zero =>
      simp only [hf, List.getElem?_cons_zero, List.eraseIdx_cons_zero]
      -- the callee sees the message of a call with nothing else in flight
      set c₀ : Call := { c with flight := [] }
      have h₀ : Unlinked c₀ := ⟨h.callee, h.caller, h.minSe, h.lastAnswer⟩
      have href : Dialing (c₀.send ((c₀.ends .callee).respond m Call.refused)) :=
        ⟨⟨h.callee, h.caller, h.minSe, h.lastAnswer⟩,
          .inr ⟨_, rfl, hst, hm.1, hm.2.1, .inr ⟨Call.refused, rfl, by decide, by decide⟩⟩⟩
      unfold Call.arrive
      cases hk : m.kind with
      | response code =>
        obtain ⟨huac, hmethod, ⟨hreq, -⟩ | ⟨code', hcode, h200, h2⟩⟩ := hm
        · rw [hk] at hreq
          cases hreq
        · rw [hk] at hcode
          obtain rfl : code = code' := Kind.response.inj hcode
          simp only [huac]
          exact .inl (h₀.onResponse rfl hst hmethod h200 h2)
      | request =>
        have htag : m.toTag = false := by
          rcases hm.2.2 with ⟨-, ht, -⟩ | ⟨code, hcode, -⟩
          · exact ht
          · rw [hk] at hcode
            cases hcode
        have hcallee : m.uac.other = .callee := by rw [hm.1]; rfl
        simp only [hcallee]
        cases refuse with
        | true =>
          simp only [if_true]
          exact .inl href
        | false =>
          simp only [Bool.false_eq_true, if_false, if_pos htag]
          rw [if_pos ⟨hm.2.1, trivial, h.callee.1⟩]
          exact h₀.createSession rfl hst hm hk setting

lemma step_inv (c : Call) (i : Input) (h : Inv c) (hs : Safe c i) : Inv (c.step i) := by
  rcases h with h | ⟨S, h⟩
  · exact h.step i
  · exact .inr ⟨S, h.step i hs⟩

lemma create_inv (setting : Setting) (callerCseq calleeCseq : ℕ) (requireTimer alwaysUse : Side → Bool) :
    Inv (create setting callerCseq calleeCseq requireTimer alwaysUse) :=
  .inl ⟨⟨⟨rfl, rfl⟩, ⟨rfl, rfl, by simp [create]⟩, setting.minSe_le, by simp [create]⟩, .inl ⟨rfl, .inl rfl⟩⟩

/-- When nothing is in flight after a transaction that was answered with a 2xx, one end refreshes and
both have the same interval. -/
def Agreed (c : Call) : Prop :=
  c.flight = [] → c.lastAnswer = some true →
    (c.ends .caller).timer.asRefresher ≠ (c.ends .callee).timer.asRefresher ∧
      (c.ends .caller).timer.sessExpires = (c.ends .callee).timer.sessExpires

lemma Inv.agreed (h : Inv c) : Agreed c := by
  intro hf ha
  rcases h with h | ⟨S, h⟩
  · exact absurd ha h.lastAnswer
  · have hcaller : (c.ends .caller).timer.who .caller = some .caller := h.answered ha
    have hcallee := ((h.ends .callee).active (.inl rfl)).2
    refine ⟨?_, (h.ends .caller).se.trans (h.ends .callee).se.symm⟩
    have h1 : (c.ends .caller).timer.asRefresher = true := by
      unfold Timer.who at hcaller
      by_contra hne
      simp [hne, Side.other] at hcaller
    have h2 : (c.ends .callee).timer.asRefresher = false := by
      unfold Timer.who at hcallee
      by_contra hne
      simp [Bool.eq_true_of_not_eq_false hne] at hcallee
    rw [h1, h2]
    decide

/-- The ends agree on the session timer in every run in which an INVITE is answered with a 2xx in the
role of a UAS only. -/
theorem session_timer_agreement (setting : Setting) (callerCseq calleeCseq : ℕ) (requireTimer alwaysUse : Side → Bool)
    (is : List Input) (h : Guarded Call.step Safe (create setting callerCseq calleeCseq requireTimer alwaysUse) is) :
    Agreed (run Call.step (create setting callerCseq calleeCseq requireTimer alwaysUse) is) :=
  (h.invariant step_inv (create_inv setting callerCseq calleeCseq requireTimer alwaysUse)).agreed

def settingDefault : Setting := ⟨1800, 90, by decide, by decide⟩

/-- The caller sends an UPDATE while its INVITE is pending; both are accepted. -/
theorem session_timer_agreement_early_update :
    let c₀ := create settingDefault 10 20 (fun _ => false) (fun _ => false)
    let is : List Input := [.start .caller .invite, .deliver 0 false true settingDefault, .provisional .callee,
      .deliver 0 false true settingDefault, .start .caller .update, .deliver 0 false true settingDefault,
      .deliver 0 false true settingDefault, .answer .callee 200, .deliver 0 false true settingDefault]
    Guarded Call.step Safe c₀ is ∧ Agreed (run Call.step c₀ is) ∧ (run Call.step c₀ is).lastAnswer = some true := by
  intro c₀ is
  have hsafe : Guarded Call.step Safe c₀ is :=
    ⟨trivial, trivial, trivial, trivial, trivial, trivial, trivial, fun _ _ => by decide +kernel, trivial, trivial⟩
  exact ⟨hsafe, session_timer_agreement settingDefault 10 20 (fun _ => false) (fun _ => false) is hsafe, by decide +kernel⟩

/-- The callee sends an UPDATE before it answers the INVITE; both are accepted, and no end refreshes. -/
theorem early_update_of_callee_disagrees :
    let c := run Call.step (create settingDefault 10 20 (fun _ => false) (fun _ => false))
      [.start .caller .invite, .deliver 0 false true settingDefault, .provisional .callee,
        .deliver 0 false true settingDefault, .start .callee .update, .deliver 0 false true settingDefault,
        .deliver 0 false true settingDefault, .answer .callee 200, .deliver 0 false true settingDefault]
    c.flight = [] ∧ c.lastAnswer = some true ∧ (c.ends .caller).timer.asRefresher = false ∧
      (c.ends .callee).timer.asRefresher = false ∧ ¬ Agreed c := by
  intro c
  have h1 : c.flight = [] := by decide +kernel
  have h2 : c.lastAnswer = some true := by decide +kernel
  have h3 : (c.ends .caller).timer.asRefresher = false := by decide +kernel
  have h4 : (c.ends .callee).timer.asRefresher = false := by decide +kernel
  refine ⟨h1, h2, h3, h4, fun h => ?_⟩
  exact (h h1 h2).1 (h3.trans h4.symm)

end PjProject.SessionTimer
