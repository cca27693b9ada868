import PjProject.SdpNegVersion

/-!
# Exchanges that fail

An exchange that begins in `STATE_DONE` and is cancelled or fails leaves the active sessions and
the initial one as they were, and no call uses a null session. Two kinds of step break this: a new
offer where no exchange has succeeded, made while there is an initial session or nothing was sent
yet, and a local answer given while negotiation is awaited that puts another session than the old
initial one into `initial_sdp_tmp`.
-/
namespace PjProject.SdpNeg

open SdpText (Media Session Conn Origin)
open Transition

def RevertOk (n : Neg) : Op → Prop
  | .modifyLocalOffer2 _ loc => n.state = .done → valid loc true = true → n.activeLocal = none →
      n.initial = none ∧ n.lastSent ≠ none
  | .setLocalAnswer _ => n.state = .waitNego → n.begun ≠ none →
      n.initial = none ∨ n.initial = n.initialTmp
  | _ => True

instance (n : Neg) : (op : Op) → Decidable (RevertOk n op)
  | .modifyLocalOffer2 _ _ => inferInstanceAs (Decidable (_ → _ → _ → _))
  | .setLocalAnswer _ => inferInstanceAs (Decidable (_ → _ → _))
  | .sendLocalOffer => inferInstanceAs (Decidable True)
  | .setRemoteAnswer _ => inferInstanceAs (Decidable True)
  | .setRemoteOffer _ => inferInstanceAs (Decidable True)
  | .negotiate _ => inferInstanceAs (Decidable True)
  | .cancelOffer => inferInstanceAs (Decidable True)

def KeepsInitial (n : Neg) (i : Option Session) : Prop :=
  if n.state = .remoteOffer then n.initial = i ∧ n.initialTmp = none else n.initialTmp = i

structure Revertible (n : Neg) : Prop where
  idle : n.state = .done → n.initialTmp = none ∧ n.begun = none
  offer : n.state = .remoteOffer → n.initialTmp = none
  kept : ∀ c, n.begun = some c → n.activeLocal = c.activeLocal ∧ n.activeRemote = c.activeRemote ∧
    KeepsInitial n c.initial
  answer : n.hasRemoteAnswer = true → n.state = .waitNego
  ready : n.state = .localOffer ∨ n.state = .waitNego → n.negLocal ≠ none
  sentSome : n.state = .localOffer ∨ n.hasRemoteAnswer = true ∨ n.activeLocal ≠ none →
    n.lastSent ≠ none
  nullUnused : n.nullUsed = false

variable {n : Neg}

lemma created_revertible (h : Created n) : Revertible n := by
  rcases h with ⟨loc, h⟩ | ⟨initial, remote, h⟩
  · unfold createWLocalOffer at h
    split_ifs at h
    cases h
    constructor <;> simp [Neg.init]
  · unfold createWRemoteOffer at h
    split_ifs at h
    cases initial with
    | none =>
      cases h
      constructor <;> simp [Neg.init]
    | some i =>
      dsimp only at h
      split_ifs at h
      cases h
      constructor <;> simp [Neg.init]

lemma Revertible.close (hnull : n.nullUsed = false)
    (hsent : n.activeLocal ≠ none → n.lastSent ≠ none) : Revertible n.close where
  idle _ := ⟨rfl, rfl⟩
  offer h := by cases h
  kept _ h := by cases h
  answer h := by cases h
  ready h := by simp [Neg.close] at h
  sentSome h := by
    rcases h with h | h | h
    · cases h
    · cases h
    · exact hsent h
  nullUnused := hnull

variable (cfg : Config)

lemma Revertible.offerAnew (loc : Session) (h : Revertible n)
    (hst : n.state = .done) (hi : n.initial = none) (hl : n.lastSent ≠ none) :
    Revertible (offerAnew cfg loc n) where
  idle h' := by cases h'
  offer h' := by cases h'
  kept c hc := by
    obtain rfl := Option.some.inj hc
    exact ⟨rfl, rfl, hi.symm⟩
  answer h' := by
    have := h.answer h'
    simp [hst] at this
  ready _ := by simp [SdpNeg.offerAnew]
  sentSome _ := by simp [SdpNeg.offerAnew, Neg.handOut]
  nullUnused := by simpa [SdpNeg.offerAnew, h.nullUnused, Option.isSome_iff_ne_none] using hl

lemma Revertible.offerAfter {old : Session} (loc : Session)
    (media : List Media) (h : Revertible n) (hst : n.state = .done)
    (ha : n.activeLocal = some old) : Revertible (offerAfter cfg old loc media n) where
  idle h' := by cases h'
  offer h' := by cases h'
  kept c hc := by
    obtain rfl := Option.some.inj hc
    exact ⟨rfl, rfl, rfl⟩
  answer h' := by
    have := h.answer h'
    simp [hst] at this
  ready _ := by simp [SdpNeg.offerAfter]
  sentSome _ := by simp [SdpNeg.offerAfter, Neg.handOut]
  nullUnused := by
    have hl := h.sentSome (by simp [ha])
    simpa [SdpNeg.offerAfter, h.nullUnused, Option.isSome_iff_ne_none] using hl

lemma Revertible.offerActive (active : Session) (h : Revertible n)
    (hst : n.state = .done) : Revertible (offerActive active n) where
  idle h' := by cases h'
  offer h' := by cases h'
  kept c hc := by
    obtain rfl := Option.some.inj hc
    refine ⟨rfl, rfl, ?_⟩
    show (if n.initial.isSome then n.initial else n.initialTmp) = n.initial
    cases hi : n.initial with
    | none => simp [(h.idle hst).1]
    | some i => simp
  answer h' := by
    have := h.answer h'
    simp [hst] at this
  ready _ := by simp [SdpNeg.offerActive]
  sentSome _ := by simp [SdpNeg.offerActive, Neg.handOut]
  nullUnused := h.nullUnused

lemma Revertible.remoteAnswer (remote : Session) (h : Revertible n) (hst : n.state = .localOffer) :
    Revertible { n with state :=.waitNego, hasRemoteAnswer := true, negRemote := some remote } where
  idle h' := by cases h'
  offer h' := by cases h'
  kept c hc := by
    obtain ⟨h1, h2, h3⟩ := h.kept c hc
    have hne : ¬ n.state = .remoteOffer := by simp [hst]
    rw [KeepsInitial, if_neg hne] at h3
    exact ⟨h1, h2, h3⟩
  answer _ := rfl
  ready _ := h.ready (.inl hst)
  sentSome _ := h.sentSome (.inl hst)
  nullUnused := h.nullUnused

lemma Revertible.remoteOffer (remote : Session) (h : Revertible n) (hst : n.state = .done) :
    Revertible { n with state :=.remoteOffer, begun := some n.contents, negRemote := some remote } where
  idle h' := by cases h'
  offer _ := (h.idle hst).1
  kept c hc := by
    obtain rfl := Option.some.inj hc
    exact ⟨rfl, rfl, rfl, (h.idle hst).1⟩
  answer h' := by
    have := h.answer h'
    simp [hst] at this
  ready h' := by simp at h'
  sentSome h' := h.sentSome (.inr (by simpa using h'))
  nullUnused := h.nullUnused

lemma Revertible.answerWith (loc : Session) (h : Revertible n)
    (hst : n.state = .remoteOffer ∨ n.state = .waitNego)
    (hok : n.state = .waitNego → n.begun ≠ none → n.initial = none ∨ n.initial = n.initialTmp) :
    Revertible (answerWith loc n) := by
  have hkept : ∀ c, n.begun = some c → ∀ i, n.initial = some i → some i = c.initial := by
    intro c hc i hi
    obtain ⟨-, -, hk⟩ := h.kept c hc
    unfold KeepsInitial at hk
    split_ifs at hk with hr
    · rw [← hi, hk.1]
    · rcases hok (hst.resolve_left hr) (by simp [hc]) with hn | ht
      · simp [hn] at hi
      · rw [← hi, ht, hk]
  have hkept' : ∀ c, n.begun = some c → n.initial = none → n.initialTmp = c.initial := by
    intro c hc hi
    obtain ⟨-, -, hk⟩ := h.kept c hc
    unfold KeepsInitial at hk
    split_ifs at hk with hr
    · rw [hk.2, ← hk.1, hi]
    · exact hk
  have hsent : n.hasRemoteAnswer = true ∨ n.activeLocal ≠ none → n.lastSent ≠ none :=
    fun h' => h.sentSome (.inr h')
  unfold SdpNeg.answerWith
  split
  · rename_i i hi
    constructor
    · intro h'
      cases h'
    · intro h'
      cases h'
    · intro c hc
      exact ⟨(h.kept c hc).1, (h.kept c hc).2.1, hkept c hc i hi⟩
    · exact fun _ => rfl
    · simp
    · simpa using hsent
    · exact h.nullUnused
  · rename_i hi
    constructor
    · intro h'
      cases h'
    · intro h'
      cases h'
    · intro c hc
      exact ⟨(h.kept c hc).1, (h.kept c hc).2.1, hkept' c hc hi⟩
    · exact fun _ => rfl
    · simp
    · simpa using hsent
    · exact h.nullUnused

lemma step_revertible {op : Op} (h : Revertible n) (hok : RevertOk n op) : Revertible (step cfg n op) := by
  have hmove := step_move cfg n op
  generalize step cfg n op = n' at hmove
  cases hmove with
  | refused => exact h
  | offerAnew flag loc hst hv ha =>
    obtain ⟨hi, hl⟩ := hok hst hv ha
    exact h.offerAnew cfg loc hst hi hl
  | offerAfter flag loc old media hst hv ha hf => exact h.offerAfter cfg loc media hst ha
  | offerActive active last hst ha hl => exact h.offerActive active hst
  | remoteAnswer remote hst => exact h.remoteAnswer remote hst
  | remoteOffer remote hst => exact h.remoteOffer remote hst
  | localAnswer loc hst => exact h.answerWith loc hst hok
  | failNull outcome hst hl => exact absurd hl (h.ready (.inr hst))
  | fail hst =>
    refine Revertible.close ?_ fun ha => h.sentSome (.inr (.inr ha))
    cases hr : n.hasRemoteAnswer with
    | false => simp [h.nullUnused]
    | true =>
      have hl := h.sentSome (.inr (.inl hr))
      simpa [h.nullUnused, Option.isSome_iff_ne_none] using hl
  | useAnswer loc remote locals remotes hst ha hl hr =>
    exact Revertible.close h.nullUnused fun _ => h.sentSome (.inr (.inl ha))
  | makeAnswer loc remote locals remotes hst ha hl hr =>
    exact Revertible.close h.nullUnused fun _ => by simp [Neg.handOut]
  | cancelLocal hst =>
    refine Revertible.close h.nullUnused fun _ => ?_
    have := h.sentSome (.inl hst)
    cases ha : n.activeLocal with
    | none => simpa [ha] using this
    | some a => simp
  | cancelRemote hst =>
    exact Revertible.close h.nullUnused fun ha => h.sentSome (.inr (.inr ha))

def EndsInFailure (cfg : Config) (n : Neg) (op : Op) : Prop :=
  match op with
  | .cancelOffer => (apply cfg n op).1 = .success
  | .negotiate _ => (apply cfg n op).1 = .failed
  | _ => False

instance (cfg : Config) (n : Neg) : (op : Op) → Decidable (EndsInFailure cfg n op)
  | .cancelOffer => inferInstanceAs (Decidable (_ = _))
  | .negotiate _ => inferInstanceAs (Decidable (_ = _))
  | .modifyLocalOffer2 _ _ => inferInstanceAs (Decidable False)
  | .setLocalAnswer _ => inferInstanceAs (Decidable False)
  | .sendLocalOffer => inferInstanceAs (Decidable False)
  | .setRemoteAnswer _ => inferInstanceAs (Decidable False)
  | .setRemoteOffer _ => inferInstanceAs (Decidable False)

lemma negotiate_failed {outcome : Option (List Media × List Media)}
    (h : (negotiate cfg outcome n).1 = .failed) :
    n.state = .waitNego ∧ ∃ b, (negotiate cfg outcome n).2 = Neg.fail { n with nullUsed := b } := by
  unfold negotiate at h ⊢
  by_cases hst : n.state = .waitNego
  swap
  · rw [if_pos hst] at h
    cases h
  refine ⟨hst, ?_⟩
  rw [if_neg (not_not_intro hst)] at h ⊢
  split at h
  · cases h
  · exact ⟨true, rfl⟩
  · split at h
    · exact ⟨_, rfl⟩
    · split_ifs at h

variable {c : Contents}

lemma Revertible.withdrawn (h : Revertible n) (hst : n.state ≠ .remoteOffer) (hc : n.begun = some c) :
    (⟨n.activeLocal, n.activeRemote, n.initialTmp⟩ : Contents) = c := by
  obtain ⟨h1, h2, h3⟩ := h.kept c hc
  rw [KeepsInitial, if_neg hst] at h3
  rw [h1, h2, h3]

lemma endsInFailure_contents {op : Op}
    (h : Revertible n) (hc : n.begun = some c) (hend : EndsInFailure cfg n op) :
    (step cfg n op).state = .done ∧ (step cfg n op).contents = c := by
  cases op with
  | cancelOffer =>
    simp only [EndsInFailure, step, apply, cancelOffer] at hend ⊢
    split_ifs at hend ⊢ with hloc hrem
    · exact ⟨rfl, h.withdrawn (by simp [hloc]) hc⟩
    · obtain ⟨h1, h2, h3⟩ := h.kept c hc
      rw [KeepsInitial, if_pos hrem] at h3
      refine ⟨rfl, ?_⟩
      show (⟨n.activeLocal, n.activeRemote, n.initial⟩ : Contents) = c
      rw [h1, h2, h3.1]
  | negotiate outcome =>
    obtain ⟨hst, b, heq⟩ := negotiate_failed cfg hend
    have hstep : step cfg n (.negotiate outcome) = Neg.fail { n with nullUsed := b } := heq
    rw [hstep]
    exact ⟨rfl, h.withdrawn (by simp [hst]) hc⟩
  | _ => exact hend.elim

lemma step_begun (n : Neg) (op : Op) (h : (step cfg n op).state ≠ .done) :
    (step cfg n op).begun = if n.state = .done then some n.contents else n.begun := by
  have hmove := step_move cfg n op
  generalize step cfg n op = n' at hmove h
  cases hmove with
  | refused => rw [if_neg h]
  | offerAnew flag loc hst => rw [if_pos hst]; rfl
  | offerAfter flag loc old media hst => rw [if_pos hst]; rfl
  | offerActive active last hst => rw [if_pos hst]; rfl
  | remoteAnswer remote hst => simp [hst]
  | remoteOffer remote hst => rw [if_pos hst]
  | localAnswer loc hst =>
    have hne : ¬ n.state = .done := by
      rcases hst with hst | hst <;> simp [hst]
    rw [if_neg hne]
    unfold answerWith
    split <;> rfl
  | _ => exact absurd rfl h

lemma run_begun {ops : List Op} (hst : n.state ≠ .done) (hc : n.begun = some c)
    (h : ∀ k ≤ ops.length, (run (step cfg) n (ops.take k)).state ≠ .done) :
    (run (step cfg) n ops).begun = some c := by
  induction ops generalizing n with
  | nil => exact hc
  | cons op ops ih =>
    have hst' : (step cfg n op).state ≠ .done := h 1 (by simp)
    refine ih hst' ?_ fun k hk => h (k + 1) (by simpa using hk)
    rw [step_begun cfg n op hst', if_neg hst, hc]

/-- In a run whose steps meet the condition, an exchange that begins in `STATE_DONE` and is
cancelled or fails leaves the state done and the active and initial sessions as they were before
it, and no step uses a null session. -/
theorem failed_exchange_reverts (cfg : Config) {n : Neg} {ops : List Op} (hc : Created n)
    (hg : Guarded (step cfg) RevertOk n ops) : (run (step cfg) n ops).nullUsed = false ∧
    ∀ (before during : List Op) (start last : Op), ops = before ++ start :: during ++ [last] →
      (run (step cfg) n before).state = .done → (∀ k ≤ during.length,
        (run (step cfg) n (before ++ start :: during.take k)).state ≠ .done) →
      EndsInFailure cfg (run (step cfg) n (before ++ start :: during)) last →
      (run (step cfg) n ops).state = .done ∧
        (run (step cfg) n ops).contents = (run (step cfg) n before).contents := by
  have hinv : ∀ {es : List Op}, Guarded (step cfg) RevertOk n es →
      Revertible (run (step cfg) n es) :=
    Guarded.invariant (fun _ _ h hok => step_revertible cfg h hok) (created_revertible hc)
  refine ⟨(hinv hg).nullUnused, ?_⟩
  rintro before during start last rfl hdone hopen hend
  have hrev := hinv (Guarded.append hg).1
  simp only [run_append, run_cons, run_nil] at hrev hend hopen ⊢
  have hst : (step cfg (run (step cfg) n before) start).state ≠ .done := hopen 0 (by simp)
  have hbegun : (step cfg (run (step cfg) n before) start).begun =
      some (run (step cfg) n before).contents := by
    rw [step_begun cfg _ _ hst, if_pos hdone]
  exact endsInFailure_contents cfg hrev (run_begun cfg hst hbegun hopen) hend

theorem failed_exchange_reverts_rejected :
    (run (step noCodecs) (offered (audioSession "a" 1 4000)) (establish ++ rejected "a2")).contents =
      (run (step noCodecs) (offered (audioSession "a" 1 4000)) establish).contents :=
  ((failed_exchange_reverts noCodecs created_offered (by decide +kernel)).2 establish
    [.setRemoteAnswer (audioSession "b" 1 0)] (.modifyLocalOffer2 false (audioSession "a2" 1 4000))
    (.negotiate none) rfl (by decide +kernel) (by decide +kernel) (by decide +kernel)).2

/-- The first exchange is a remote offer, which has no codec in common with the local answer. The
next local offer is compared with `last_sent`, which is null. -/
def firstAnswerFails : List Op :=
  [.setLocalAnswer (audioSession "a" 1 4000), .negotiate none,
    .modifyLocalOffer2 false (audioSession "a" 1 4000)]

def alawOffer : Session :=
  { audioSession "b" 1 5000 with media := [{ audioLine 5000 with fmts := [lit "8"] }] }

theorem failed_answer_compares_null :
    SdpOffer.createAnswer [] ⟨true, false⟩ (forget (audioSession "a" 1 4000)) (forget alawOffer) =
      .error .noanscodec ∧ ¬ ∀ (cfg : Config) (n : Neg) (ops : List Op), Created n →
      (run (step cfg) n ops).nullUsed = false := by
  refine ⟨by decide +kernel, fun h => ?_⟩
  have hrun := h noCodecs { Neg.init with state := .remoteOffer, negRemote := some alawOffer }
    firstAnswerFails (.inr ⟨none, alawOffer, rfl⟩)
  revert hrun
  decide +kernel

end PjProject.SdpNeg
