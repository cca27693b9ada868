import PjProject.AuthCount
import PjProject.StepBudget

/-!
# Retries of a request that is challenged again and again

The stale counters of the cache and the headers in the request are a budget: each
answer takes the place of a header that a stale counter has paid for, or is the first one
of its realm and type. The budget holds as long as no counter starts again from zero.
-/
namespace PjProject.AuthClient

open StepBudget Transition

variable {b : Build}

def live (auths : List AuthHdr) (g : Bytes × HdrType) : Bool :=
  auths.any fun h => h.type = g.2 && stricmpEq g.1 h.realm && stricmpEq h.scheme digestStr && h.response ≠ []

lemma live_append (l m : List AuthHdr) (g : Bytes × HdrType) : live (l ++ m) g = (live l g || live m g) :=
  List.any_append

lemma live_cons (h : AuthHdr) (l : List AuthHdr) (g : Bytes × HdrType) :
    live (h :: l) g = (live [h] g || live l g) := live_append [h] l g

def sameGroup (g g' : Bytes × HdrType) : Prop := stricmpEq g.1 g'.1 = true ∧ g.2 = g'.2

lemma live_of_same {auths : List AuthHdr} {g g' : Bytes × HdrType} (hsame : sameGroup g g')
    (h : live auths g = true) : live auths g' = true := by
  obtain ⟨x, hx, hlive⟩ := List.any_eq_true.mp h
  simp only [Bool.and_eq_true, decide_eq_true_eq] at hlive
  refine List.any_eq_true.mpr ⟨x, hx, ?_⟩
  simp only [Bool.and_eq_true, decide_eq_true_eq]
  exact ⟨⟨⟨hlive.1.1.1.trans hsame.2, stricmpEq_trans (stricmpEq_symm hsame.1) hlive.1.1.2⟩, hlive.1.2⟩, hlive.2⟩

variable {hchal : Challenge} {auths : List AuthHdr}

lemma wasAnswered_iff (hdigest : stricmpEq hchal.scheme digestStr = true) {h : AuthHdr} :
    hchal.wasAnswered h = true ↔
      h.type = hchal.type ∧ stricmpEq hchal.realm h.realm = true ∧ stricmpEq h.scheme digestStr = true := by
  have hscheme : stricmpEq hchal.scheme h.scheme = true ↔ stricmpEq h.scheme digestStr = true :=
    ⟨fun h => stricmpEq_trans (stricmpEq_symm h) hdigest, fun h => stricmpEq_trans hdigest (stricmpEq_symm h)⟩
  simp [Challenge.wasAnswered, hscheme, and_assoc]

lemma findSent_spec (hdigest : stricmpEq hchal.scheme digestStr = true) (auths : List AuthHdr) :
    ((findSent hchal auths).2.1 = none ∧ (findSent hchal auths).2.2 = [] ∧
        live auths (hchal.realm, hchal.type) = false ∧ ∀ g, live (findSent hchal auths).1 g = live auths g) ∨
      ∃ sent, (findSent hchal auths).2.1 = some sent ∧
        (∀ g, live ((findSent hchal auths).1 ++ sent :: (findSent hchal auths).2.2) g = live auths g) ∧
        ∀ g, ¬ sameGroup g (hchal.realm, hchal.type) → live [sent] g = false := by
  induction auths with
  | nil => exact .inl ⟨rfl, rfl, rfl, fun g => rfl⟩
  | cons h hs ih =>
    by_cases hw : hchal.wasAnswered h = true
    · obtain ⟨htype, hrealm, hscheme⟩ := (wasAnswered_iff hdigest).mp hw
      by_cases hempty : h.response = []
      · -- An empty header is no answer.
        have hdead : ∀ g, live (h :: hs) g = live hs g := fun g => by simp [live, hempty]
        have heq : findSent hchal (h :: hs) = findSent hchal hs := by simp [findSent, hw, hscheme, hempty]
        rw [heq]
        simpa only [hdead] using ih
      · right
        have heq : findSent hchal (h :: hs) = ([], some h, hs) := by simp [findSent, hw, hempty]
        rw [heq]
        refine ⟨h, rfl, fun g => rfl, fun g hg => ?_⟩
        simp only [live, List.any_cons, List.any_nil, Bool.or_false]
        by_contra hlive
        simp only [Bool.not_eq_false, Bool.and_eq_true, decide_eq_true_eq] at hlive
        exact hg ⟨stricmpEq_trans hlive.1.1.2 (stricmpEq_symm hrealm), hlive.1.1.1.symm.trans htype⟩
    · have heq : findSent hchal (h :: hs) = (h :: (findSent hchal hs).1, (findSent hchal hs).2) := by
        simp [findSent, hw]
      have hdead : live [h] (hchal.realm, hchal.type) = false := by
        simp only [live, List.any_cons, List.any_nil, Bool.or_false]
        by_contra hlive
        simp only [Bool.not_eq_false, Bool.and_eq_true, decide_eq_true_eq] at hlive
        exact hw ((wasAnswered_iff hdigest).mpr ⟨hlive.1.1.1, hlive.1.1.2, hlive.1.2⟩)
      rw [heq]
      rcases ih with ⟨hnone, hnil, hlive, hall⟩ | ⟨sent, hsome, hall, hother⟩
      · refine .inl ⟨hnone, hnil, ?_, fun g => ?_⟩
        · rw [live_cons, hdead, hlive, Bool.or_false]
        · rw [live_cons, hall, ← live_cons]
      · refine .inr ⟨sent, hsome, fun g => ?_, hother⟩
        rw [List.cons_append, live_cons, hall, ← live_cons]

def staleOf (cached : List CachedAuth) (realm : Bytes) (a : Algorithm) : ℕ :=
  ((findCachedAuth cached realm a).map (·.staleCnt)).getD 0

def Challenge.Counts (hchal : Challenge) (auths : List AuthHdr) (e : CachedAuth) : Prop :=
  ∀ sent, (findSent hchal auths).2.1 = some sent → (hchal.stale = true ∨ hchal.nonce ≠ sent.nonce) →
    e.staleCnt + 1 < 2 ^ 32

variable {e : CachedAuth}

lemma checkSent_spec (hdigest : stricmpEq hchal.scheme digestStr = true) (hcounts : hchal.Counts auths e) :
    ((checkSent hchal e auths).2.2 ≠ none ∧ e.staleCnt ≤ (checkSent hchal e auths).1.staleCnt ∧
        ∀ g, live (checkSent hchal e auths).2.1 g = live auths g) ∨
      ((checkSent hchal e auths).2.2 = none ∧ (checkSent hchal e auths).1.staleCnt = e.staleCnt ∧
        live auths (hchal.realm, hchal.type) = false ∧
        ∀ g, live (checkSent hchal e auths).2.1 g = live auths g) ∨
      ((checkSent hchal e auths).2.2 = none ∧ (checkSent hchal e auths).1.staleCnt = e.staleCnt + 1 ∧
        e.staleCnt + 1 < maxStaleCount ∧
        ∀ g, ¬ sameGroup g (hchal.realm, hchal.type) → live (checkSent hchal e auths).2.1 g = live auths g) := by
  obtain ⟨hnone, hnil, hlive, hall⟩ | ⟨sent, hsome, hall, hother⟩ := findSent_spec hdigest auths
  · have heq : checkSent hchal e auths = (e, (findSent hchal auths).1, none) := by
      rw [checkSent]
      split
      · rename_i h
        simp only [h] at hnil ⊢
        rw [hnil, List.append_nil]
      · rename_i h
        simp [h] at hnone
    rw [heq]
    exact .inr (.inl ⟨rfl, rfl, hlive, hall⟩)
  · unfold checkSent
    split
    · rename_i h
      simp [h] at hsome
    · rename_i before sent' behind h
      obtain rfl : sent' = sent := by simpa [h] using hsome
      simp only [h] at hall
      split
      · exact .inl ⟨by simp, le_rfl, hall⟩
      · rename_i hstale
        have hadvance : (e.staleCnt + 1) % 2 ^ 32 = e.staleCnt + 1 := by
          refine Nat.mod_eq_of_lt (hcounts _ hsome ?_)
          by_contra hcon
          rw [not_or, not_not] at hcon
          exact hstale (by simp [hcon.1, hcon.2])
        dsimp only [CachedAuth.withStale]
        rw [hadvance]
        split
        · exact .inl ⟨by simp, Nat.le_succ _, hall⟩
        · rename_i hlt
          refine .inr (.inr ⟨rfl, rfl, Nat.lt_of_not_le hlt, fun g hg => ?_⟩)
          have hdead := hother g hg
          rw [← hall, live_append, live_append, live_cons, hdead, Bool.false_or]

variable {fresh : UniqueString} {req : Request} {creds : List CredInfo} {a : Algorithm}

lemma updateDigestSession_stale : (updateDigestSession b fresh e hchal).staleCnt = e.staleCnt := by
  unfold updateDigestSession
  split
  · split <;> rfl
  · split
    · rfl
    · split <;> rfl

lemma setQop_stale (qop : Bytes) (h : e.cnonce ≠ []) : (e.setQop qop h).staleCnt = e.staleCnt := by
  unfold CachedAuth.setQop
  split <;> rfl

lemma authRespond_stale {cred : CredInfo} :
    (authRespond b fresh req hchal cred e a).1.staleCnt = e.staleCnt := by
  unfold authRespond
  split
  · rfl
  · rfl
  · split
    · dsimp only
      split
      · exact updateDigestSession_stale
      · dsimp only
        split
        · rw [setQop_stale]
          exact updateDigestSession_stale
        · exact updateDigestSession_stale
    · rfl

variable {realm realm' : Bytes}

lemma staleOf_congr {cached : List CachedAuth} (h : stricmpEq realm realm' = true) :
    staleOf cached realm' a = staleOf cached realm a := by
  have hfor : (fun x : CachedAuth => x.isFor realm' a) = fun x => x.isFor realm a := by
    funext x
    refine Bool.eq_iff_iff.mpr ?_
    rw [isFor_iff, isFor_iff]
    exact and_congr_left' ⟨fun h' => stricmpEq_trans h' (stricmpEq_symm h), fun h' => stricmpEq_trans h' h⟩
  rw [staleOf, findCachedAuth, hfor, ← findCachedAuth, ← staleOf]

lemma processAuth_stale :
    (processAuth b creds fresh req hchal e a).1.staleCnt = (checkSent hchal e req.auths).1.staleCnt ∧
      (processAuth b creds fresh req hchal e a).2.1 = (checkSent hchal e req.auths).2.1 := by
  unfold processAuth
  split
  · rename_i h
    simp [h]
  · rename_i h
    split
    · simp [h]
    · simp [h, authRespond_stale]

lemma processAuth_live {h : AuthHdr} (hok : (processAuth b creds fresh req hchal e a).2.2 = .ok h) :
    live [h] (hchal.realm, hchal.type) = true := by
  unfold processAuth at hok
  split at hok
  · cases hok
  · split at hok
    · cases hok
    · unfold authRespond at hok
      split at hok
      · cases hok
      · cases hok
      · split at hok
        · dsimp only at hok
          split at hok
          · cases hok
          · rename_i hauth hresp
            obtain rfl := Except.ok.inj hok
            obtain ⟨hr, -, -, htype, hscheme, hmake, hlen, -⟩ := respondDigest_ok hresp
            have hpos : 0 < a.digestStrLength := by
              cases a <;> simp [CredInfo.makesDigest, Algorithm.digestStrLength] at hmake ⊢
            have hne : hauth.response ≠ [] := fun h => by simp [h] at hlen; omega
            simp [live, hr, htype, hscheme, hne, stricmpEq_refl]
        · cases hok

@[simp] lemma staleOf_cons (x : CachedAuth) (cached : List CachedAuth) (realm : Bytes) (a : Algorithm) :
    staleOf (x :: cached) realm a = if x.isFor realm a then x.staleCnt else staleOf cached realm a := by
  simp only [staleOf, findCachedAuth, List.find?_cons]
  split <;> simp_all

lemma isFor_congr {a' : Algorithm} (h : e.isFor realm a = true) :
    e.isFor realm' a' = true ↔ stricmpEq realm realm' = true ∧ a = a' := by
  rw [isFor_iff] at h ⊢
  constructor
  · rintro ⟨hr, ha⟩
    exact ⟨stricmpEq_trans (stricmpEq_symm h.1) hr, h.2.symm.trans ha⟩
  · rintro ⟨hr, rfl⟩
    exact ⟨stricmpEq_trans h.1 hr, h.2⟩

def entryFor (cached : List CachedAuth) (new : CachedAuth) (realm : Bytes) (a : Algorithm) : CachedAuth :=
  (findCachedAuth cached realm a).getD new

lemma atEntry_stale {α : Type} {new : CachedAuth} {f : CachedAuth → CachedAuth × α}
    (hnew : new.isFor realm a = true) (hkeep : ∀ e, e.isFor realm a = true → (f e).1.isFor realm a = true)
    (cached : List CachedAuth) :
    (atEntry (·.isFor realm a) new f cached).2 = (f (entryFor cached new realm a)).2 ∧
      ∀ realm' a', staleOf (atEntry (·.isFor realm a) new f cached).1 realm' a' =
        if stricmpEq realm realm' = true ∧ a = a' then (f (entryFor cached new realm a)).1.staleCnt
        else staleOf cached realm' a' := by
  induction cached with
  | nil =>
    refine ⟨rfl, fun realm' a' => ?_⟩
    simp only [atEntry, staleOf_cons, isFor_congr (hkeep new hnew)]
    rfl
  | cons x cached ih =>
    by_cases hx : x.isFor realm a = true
    · have hfound : entryFor (x :: cached) new realm a = x := by simp [entryFor, findCachedAuth, hx]
      have heq : atEntry (·.isFor realm a) new f (x :: cached) = ((f x).1 :: cached, (f x).2) := by
        rw [atEntry, if_pos hx]
      rw [hfound, heq]
      refine ⟨rfl, fun realm' a' => ?_⟩
      simp only [staleOf_cons, isFor_congr (hkeep x hx), isFor_congr hx]
      split <;> rfl
    · have hfound : entryFor (x :: cached) new realm a = entryFor cached new realm a := by
        simp [entryFor, findCachedAuth, hx]
      obtain ⟨hval, hstale⟩ := ih
      have heq : atEntry (·.isFor realm a) new f (x :: cached) =
          (x :: (atEntry (·.isFor realm a) new f cached).1, (atEntry (·.isFor realm a) new f cached).2) := by
        rw [atEntry, if_neg hx]
      rw [hfound, heq]
      refine ⟨hval, fun realm' a' => ?_⟩
      rw [staleOf_cons, staleOf_cons, hstale]
      by_cases hsame : stricmpEq realm realm' = true ∧ a = a'
      · have hother : ¬ x.isFor realm' a' = true := by
          intro h
          obtain ⟨hr, rfl⟩ := hsame
          exact hx ((isFor_congr h).mpr ⟨stricmpEq_symm hr, rfl⟩)
        rw [if_neg hother, if_pos hsame, if_pos hsame]
      · rw [if_neg hsame, if_neg hsame]

lemma entryFor_stale {cached : List CachedAuth} {type : HdrType} :
    (entryFor cached (.zalloc realm type a) realm a).staleCnt = staleOf cached realm a := by
  rw [entryFor, staleOf]
  cases findCachedAuth cached realm a <;> rfl

abbrev RetryKey := Bytes × Algorithm × HdrType

def ofCredential (creds : List CredInfo) (realm : Bytes) : Bool := creds.any fun c => stricmpEq c.realm realm

instance : DecidableRel sameGroup := fun _ _ => inferInstanceAs (Decidable (_ ∧ _))

def groups (keys : List RetryKey) : List (Bytes × HdrType) :=
  (keys.map fun k => (k.1, k.2.2)).pwFilter fun g g' => ¬ sameGroup g g'

def staleLeft (cached : List CachedAuth) (keys : List RetryKey) : ℕ :=
  (keys.map fun k => maxStaleCount - 1 - staleOf cached k.1 k.2.1).sum

def freeGroups (auths : List AuthHdr) (gs : List (Bytes × HdrType)) : ℕ :=
  (gs.map fun g => if live auths g then 0 else 1).sum

def retryBudget (keys : List RetryKey) (cached : List CachedAuth) (auths : List AuthHdr) : ℕ :=
  staleLeft cached keys + freeGroups auths (groups keys)

lemma retryBudget_le (keys : List RetryKey) (cached : List CachedAuth) (auths : List AuthHdr) :
    retryBudget keys cached auths ≤ maxStaleCount * keys.length := by
  have hstale : staleLeft cached keys ≤ keys.length * (maxStaleCount - 1) := by
    rw [staleLeft, ← List.length_map (f := fun k : RetryKey => maxStaleCount - 1 - staleOf cached k.1 k.2.1)]
    refine List.sum_le_card_nsmul _ _ ?_
    intro n hn
    obtain ⟨k, -, rfl⟩ := List.mem_map.mp hn
    exact Nat.sub_le _ _
  have hfree : freeGroups auths (groups keys) ≤ (groups keys).length * 1 := by
    rw [freeGroups, ← List.length_map (f := fun g => if live auths g then 0 else 1)]
    refine List.sum_le_card_nsmul _ _ ?_
    intro n hn
    obtain ⟨g, -, rfl⟩ := List.mem_map.mp hn
    split <;> omega
  have hlen : (groups keys).length ≤ keys.length := by
    have hsub : (groups keys).Sublist (keys.map fun k => (k.1, k.2.2)) := List.pwFilter_sublist _
    simpa using hsub.length_le
  have hmax : maxStaleCount = 3 := rfl
  rw [retryBudget]
  rw [hmax] at hstale ⊢
  omega

section Sums

variable {keys : List RetryKey} {cached cached' : List CachedAuth} {auths auths' : List AuthHdr}
  {gs : List (Bytes × HdrType)}

lemma staleLeft_le (h : ∀ k ∈ keys, staleOf cached k.1 k.2.1 ≤ staleOf cached' k.1 k.2.1) :
    staleLeft cached' keys ≤ staleLeft cached keys :=
  List.sum_le_sum fun k hk => Nat.sub_le_sub_left (h k hk) _

lemma staleLeft_lt (h : ∀ k ∈ keys, staleOf cached k.1 k.2.1 ≤ staleOf cached' k.1 k.2.1)
    (hlt : ∃ k ∈ keys, staleOf cached k.1 k.2.1 < staleOf cached' k.1 k.2.1 ∧
      staleOf cached' k.1 k.2.1 < maxStaleCount) : staleLeft cached' keys < staleLeft cached keys := by
  obtain ⟨k, hk, hstep, hmax⟩ := hlt
  refine List.sum_lt_sum _ _ (fun k hk => Nat.sub_le_sub_left (h k hk) _) ⟨k, hk, ?_⟩
  omega

lemma freeGroups_le (h : ∀ g ∈ gs, live auths g = true → live auths' g = true) :
    freeGroups auths' gs ≤ freeGroups auths gs := by
  refine List.sum_le_sum fun g hg => ?_
  have := h g hg
  split <;> split <;> simp_all

lemma freeGroups_lt (h : ∀ g ∈ gs, live auths g = true → live auths' g = true)
    (hlt : ∃ g ∈ gs, live auths g = false ∧ live auths' g = true) :
    freeGroups auths' gs < freeGroups auths gs := by
  obtain ⟨g, hg, hdead, hlive⟩ := hlt
  refine List.sum_lt_sum _ _ (fun g hg => ?_) ⟨g, hg, by simp [hdead, hlive]⟩
  have := h g hg
  split <;> split <;> simp_all

lemma freeGroups_le_succ {x : Bytes × HdrType} (hdistinct : gs.Pairwise fun g g' => ¬ sameGroup g g')
    (h : ∀ g ∈ gs, ¬ sameGroup g x → live auths g = true → live auths' g = true) :
    freeGroups auths' gs ≤ freeGroups auths gs + 1 := by
  induction gs with
  | nil => exact Nat.zero_le _
  | cons g gs ih =>
    obtain ⟨hothers, hrest⟩ := List.pairwise_cons.mp hdistinct
    obtain ⟨hhead, htail⟩ := List.forall_mem_cons.mp h
    have hcons (auths : List AuthHdr) :
        freeGroups auths (g :: gs) = (if live auths g then 0 else 1) + freeGroups auths gs := by
      simp [freeGroups]
    rw [hcons, hcons]
    by_cases hsame : sameGroup g x
    · -- The other groups are not that of the answer.
      have hle : freeGroups auths' gs ≤ freeGroups auths gs := by
        refine freeGroups_le fun g' hg' => htail g' hg' fun hsame' => hothers g' hg' ?_
        exact ⟨stricmpEq_trans hsame.1 (stricmpEq_symm hsame'.1), hsame.2.trans hsame'.2.symm⟩
      split <;> split <;> omega
    · have hle := ih hrest htail
      have := hhead hsame
      split <;> split <;> simp_all <;> omega

end Sums

lemma ofCredential_of_found {cred : CredInfo} (hwild : ∀ c ∈ creds, ¬ c.isWildcard = true)
    (h : authFindCred creds realm a = some cred) : ofCredential creds realm = true := by
  rw [authFindCred] at h
  induction creds with
  | nil => cases h
  | cons c cs ih =>
    obtain ⟨hhead, htail⟩ := List.forall_mem_cons.mp hwild
    rw [authFindCredFrom] at h
    rw [ofCredential, List.any_cons, Bool.or_eq_true]
    split at h
    · exact .inr (ih htail h)
    · split at h
      · exact .inl ‹_›
      · exact .inr (ih htail (by simpa [hhead] using h))

lemma ofCredential_congr (h : stricmpEq realm realm' = true)
    (hof : ofCredential creds realm = true) : ofCredential creds realm' = true := by
  obtain ⟨c, hc, hr⟩ := List.any_eq_true.mp hof
  exact List.any_eq_true.mpr ⟨c, hc, stricmpEq_trans hr h⟩

def Retry.Counts (b : Build) (r : Retry) (hdr : Challenge × UniqueString) : Prop :=
  ∀ a, byIanaName b hdr.1.algorithm = some a → ∀ e, findCachedAuth r.cachedAuth hdr.1.realm a = some e →
    hdr.1.Counts r.auths e

def Covers (b : Build) (creds : List CredInfo) (keys : List RetryKey) (hchal : Challenge) : Prop :=
  stricmpEq hchal.scheme digestStr = true → ∀ a, byIanaName b hchal.algorithm = some a →
    ofCredential creds hchal.realm = true →
    ∃ k ∈ keys, stricmpEq k.1 hchal.realm = true ∧ k.2.1 = a ∧ k.2.2 = hchal.type

variable {keys : List RetryKey}

lemma groups_pairwise (keys : List RetryKey) : (groups keys).Pairwise fun g g' => ¬ sameGroup g g' :=
  List.pairwise_pwFilter _

lemma exists_group {k : RetryKey} (hk : k ∈ keys) : ∃ g ∈ groups keys, sameGroup g (k.1, k.2.2) := by
  by_contra hnone
  have htrans {x y z : Bytes × HdrType} (h : ¬ sameGroup x z) : ¬ sameGroup x y ∨ ¬ sameGroup y z := by
    by_contra hcon
    rw [not_or, not_not, not_not] at hcon
    exact h ⟨stricmpEq_trans hcon.1.1 hcon.2.1, hcon.1.2.trans hcon.2.2⟩
  have hall : ∀ g ∈ groups keys, ¬ sameGroup (k.1, k.2.2) g :=
    fun g hg hsame => hnone ⟨g, hg, ⟨stricmpEq_symm hsame.1, hsame.2.symm⟩⟩
  exact (List.forall_mem_pwFilter (R := fun g g' => ¬ sameGroup g g') htrans _ _).mp hall _ (List.mem_map_of_mem hk) ⟨stricmpEq_refl _, rfl⟩

lemma live_mono {auths auths' : List AuthHdr} {g : Bytes × HdrType} (l : List AuthHdr)
    (h : live auths g = live auths' g) (hlive : live auths' g = true) : live (auths ++ l) g = true := by
  rw [live_append, h, hlive, Bool.true_or]

lemma processAuth_budget (hwild : ∀ c ∈ creds, ¬ c.isWildcard = true)
    (hown : ∀ k ∈ keys, ofCredential creds k.1 = true) {cached cached' : List CachedAuth}
    (hs : stricmpEq hchal.scheme digestStr = true) (hcover : ofCredential creds hchal.realm = true →
      ∃ k ∈ keys, stricmpEq k.1 hchal.realm = true ∧ k.2.1 = a ∧ k.2.2 = hchal.type)
    (hcounts : hchal.Counts req.auths e) (hstale : e.staleCnt = staleOf cached hchal.realm a)
    (hafter : ∀ realm' a', staleOf cached' realm' a' = if stricmpEq hchal.realm realm' = true ∧ a = a'
      then (processAuth b creds fresh req hchal e a).1.staleCnt else staleOf cached realm' a') :
    retryBudget keys cached' (processAuth b creds fresh req hchal e a).2.1 ≤ retryBudget keys cached req.auths ∧
      ∀ h, (processAuth b creds fresh req hchal e a).2.2 = .ok h →
        retryBudget keys cached' ((processAuth b creds fresh req hchal e a).2.1 ++ [h]) <
          retryBudget keys cached req.auths := by
  obtain ⟨hcnt, hauths⟩ : (processAuth b creds fresh req hchal e a).1.staleCnt =
      (checkSent hchal e req.auths).1.staleCnt ∧
      (processAuth b creds fresh req hchal e a).2.1 = (checkSent hchal e req.auths).2.1 := processAuth_stale
  have hsame (realm' : Bytes) (a' : Algorithm) (hk : stricmpEq hchal.realm realm' = true ∧ a = a') :
      staleOf cached realm' a' = e.staleCnt := by
    obtain ⟨hr, rfl⟩ := hk
    rw [hstale, staleOf_congr hr]
  rw [hcnt] at hafter
  rw [hauths]
  have hle_of (hle : e.staleCnt ≤ (checkSent hchal e req.auths).1.staleCnt) :
      ∀ k ∈ keys, staleOf cached k.1 k.2.1 ≤ staleOf cached' k.1 k.2.1 := by
    intro k _
    rw [hafter]
    split
    · rename_i hk
      rw [hsame _ _ hk]
      exact hle
    · exact le_rfl
  have hcred (h : AuthHdr) (hok : (processAuth b creds fresh req hchal e a).2.2 = .ok h) :
      ofCredential creds hchal.realm = true := by
    obtain ⟨-, cred, hcred, -⟩ := processAuth_answers hok
    exact ofCredential_of_found hwild hcred
  rcases checkSent_spec hs hcounts with
    ⟨herror, hle, hlive⟩ | ⟨hnone, heq, hdead, hlive⟩ | ⟨hnone, heq, hlt, hlive⟩
  · -- The challenge is not answered.
    have hstaleLeft := staleLeft_le (hle_of hle)
    have hfree : freeGroups (checkSent hchal e req.auths).2.1 (groups keys) ≤ freeGroups req.auths (groups keys) :=
      freeGroups_le fun g _ hg => (hlive g).trans hg
    refine ⟨by rw [retryBudget, retryBudget]; omega, fun h hok => ?_⟩
    exact absurd (processAuth_answers hok).1 herror
  · -- The answer is the first one of its group.
    have hstaleLeft := staleLeft_le (hle_of heq.ge)
    have hfree : freeGroups (checkSent hchal e req.auths).2.1 (groups keys) ≤ freeGroups req.auths (groups keys) :=
      freeGroups_le fun g _ hg => (hlive g).trans hg
    refine ⟨by rw [retryBudget, retryBudget]; omega, fun h hok => ?_⟩
    obtain ⟨k, hk, hkr, -, hkt⟩ := hcover (hcred h hok)
    obtain ⟨g, hg, hgk⟩ := exists_group hk
    have hgroup : sameGroup g (hchal.realm, hchal.type) := ⟨stricmpEq_trans hgk.1 hkr, hgk.2.trans hkt⟩
    have hlt : freeGroups ((checkSent hchal e req.auths).2.1 ++ [h]) (groups keys) <
        freeGroups req.auths (groups keys) := by
      refine freeGroups_lt (fun g' _ hg' => live_mono [h] (hlive g') hg') ⟨g, hg, ?_, ?_⟩
      · by_contra hcon
        exact absurd (live_of_same hgroup (Bool.not_eq_false _ ▸ hcon)) (by simp [hdead])
      · rw [live_append, live_of_same ⟨stricmpEq_symm hgroup.1, hgroup.2.symm⟩ (processAuth_live hok), Bool.or_true]
    rw [retryBudget, retryBudget]
    omega
  · -- The answer before is taken out of the request, and the stale counter has gone up.
    have hstaleLeft := staleLeft_le (hle_of (heq ▸ Nat.le_succ _))
    by_cases hreal : ofCredential creds hchal.realm = true
    · obtain ⟨k, hk, hkr, hka, hkt⟩ := hcover hreal
      have hpaid : staleLeft cached' keys < staleLeft cached keys := by
        refine staleLeft_lt (hle_of (heq ▸ Nat.le_succ _)) ⟨k, hk, ?_⟩
        have hkey : stricmpEq hchal.realm k.1 = true ∧ a = k.2.1 := ⟨stricmpEq_symm hkr, hka.symm⟩
        rw [hafter, if_pos hkey, hsame _ _ hkey, heq]
        exact ⟨Nat.lt_succ_self _, hlt⟩
      have hfree : freeGroups (checkSent hchal e req.auths).2.1 (groups keys) ≤
          freeGroups req.auths (groups keys) + 1 :=
        freeGroups_le_succ (groups_pairwise keys) fun g _ hg hg' => (hlive g hg).trans hg'
      refine ⟨by rw [retryBudget, retryBudget]; omega, fun h hok => ?_⟩
      have hkept : freeGroups ((checkSent hchal e req.auths).2.1 ++ [h]) (groups keys) ≤
          freeGroups req.auths (groups keys) := by
        refine freeGroups_le fun g _ hg => ?_
        by_cases hgroup : sameGroup g (hchal.realm, hchal.type)
        · rw [live_append, live_of_same ⟨stricmpEq_symm hgroup.1, hgroup.2.symm⟩ (processAuth_live hok), Bool.or_true]
        · exact live_mono [h] (hlive g hgroup) hg
      rw [retryBudget, retryBudget]
      omega
    · -- There is no credential for the realm, and it is none of the keys.
      have hfree : freeGroups (checkSent hchal e req.auths).2.1 (groups keys) ≤
          freeGroups req.auths (groups keys) := by
        refine freeGroups_le fun g hg hlive' => (hlive g fun hgroup => hreal ?_).trans hlive'
        obtain ⟨k, hk, rfl⟩ := List.mem_map.mp ((List.pwFilter_sublist _).subset hg)
        exact ofCredential_congr hgroup.1 (hown k hk)
      exact ⟨by rw [retryBudget, retryBudget]; omega, fun h hok => absurd (hcred h hok) hreal⟩

lemma reinitHdr_budget (hwild : ∀ c ∈ creds, ¬ c.isWildcard = true)
    (hown : ∀ k ∈ keys, ofCredential creds k.1 = true) {r : Retry} {hdr : Challenge × UniqueString}
    (hcover : Covers b creds keys hdr.1) (hguard : r.Counts b hdr) :
    (reinitHdr b creds req r hdr).made.length + retryBudget keys (reinitHdr b creds req r hdr).cachedAuth
        (reinitHdr b creds req r hdr).auths ≤ r.made.length + retryBudget keys r.cachedAuth r.auths := by
  unfold reinitHdr
  by_cases hs : stricmpEq hdr.1.scheme digestStr = true
  · simp only [hs, Bool.not_true, Bool.false_eq_true, if_false]
    split
    · exact le_rfl
    · rename_i a ha
      have hnew : (CachedAuth.zalloc hdr.1.realm hdr.1.type a).isFor hdr.1.realm a = true :=
        isFor_iff.mpr ⟨stricmpEq_refl _, rfl⟩
      have hkeep : ∀ e : CachedAuth, e.isFor hdr.1.realm a = true →
          (processAuth b creds hdr.2 { req with auths := r.auths } hdr.1 e a).1.isFor hdr.1.realm a = true := by
        intro e he
        obtain ⟨hrealm, halg⟩ := isFor_iff.mp he
        have hkeep : e.Keeps b (processAuth b creds hdr.2 { req with auths := r.auths } hdr.1 e a).1 :=
          processAuth_keeps creds ⟨hs, stricmpEq_symm hrealm, halg ▸ ha⟩
        exact isFor_iff.mpr ⟨hkeep.realm ▸ hrealm, hkeep.algorithm.trans halg⟩
      obtain ⟨hval, hafter⟩ := atEntry_stale hnew hkeep r.cachedAuth
      have hcounts : hdr.1.Counts r.auths (entryFor r.cachedAuth (.zalloc hdr.1.realm hdr.1.type a) hdr.1.realm a) := by
        rw [entryFor]
        cases hfind : findCachedAuth r.cachedAuth hdr.1.realm a with
        | none => exact fun _ _ _ => Nat.one_lt_two_pow (by decide)
        | some e => exact hguard a ha e hfind
      obtain ⟨hle, hlt⟩ := processAuth_budget hwild hown hs (fun h => hcover hs a ha h) hcounts entryFor_stale hafter
      simp only [hval]
      split
      · exact Nat.add_le_add_left hle _
      · rename_i hauth hok
        have hpaid := hlt hauth hok
        dsimp only at hpaid ⊢
        rw [List.length_append, List.length_singleton]
        omega
  · simp [hs]

variable (b)

def retryStep (s : Session × Request) (hdrs : List (Challenge × UniqueString)) : Session × Request :=
  ((reinitReq b s.1 s.2 hdrs).1, (reinitReq b s.1 s.2 hdrs).2.1)

/-- The responses for which `pjsip_auth_clt_reinit_req` succeeds. -/
def retried (s : Session × Request) (responses : ℕ → List (Challenge × UniqueString)) : Set ℕ :=
  {n | (reinitReq b (stateAt (retryStep b) s responses n).1 (stateAt (retryStep b) s responses n).2
    (responses n)).2.2.2.toBool = true}

def StaleInRange (s : Session × Request) (hdrs : List (Challenge × UniqueString)) : Prop :=
  Guarded (reinitHdr b s.1.credInfo s.2) (Retry.Counts b) (.start s.1 s.2) hdrs

variable {b}

lemma stateAt_credInfo (s : Session × Request) (responses : ℕ → List (Challenge × UniqueString)) (n : ℕ) :
    (stateAt (retryStep b) s responses n).1.credInfo = s.1.credInfo := by
  induction n with
  | zero => rfl
  | succ n ih => exact ih

lemma reinitReq_budget {s : Session × Request} (hwild : ∀ c ∈ s.1.credInfo, ¬ c.isWildcard = true)
    (hown : ∀ k ∈ keys, ofCredential s.1.credInfo k.1 = true) {hdrs : List (Challenge × UniqueString)}
    (hcover : ∀ hdr ∈ hdrs, Covers b s.1.credInfo keys hdr.1) (hguard : StaleInRange b s hdrs) :
    (reinitReq b s.1 s.2 hdrs).2.2.1.length +
        retryBudget keys (retryStep b s hdrs).1.cachedAuth (retryStep b s hdrs).2.auths ≤
      retryBudget keys s.1.cachedAuth s.2.auths := by
  have hrun (hdrs : List (Challenge × UniqueString)) (r : Retry)
      (hcover : ∀ hdr ∈ hdrs, Covers b s.1.credInfo keys hdr.1)
      (hguard : Guarded (reinitHdr b s.1.credInfo s.2) (Retry.Counts b) r hdrs) :
      (run (reinitHdr b s.1.credInfo s.2) r hdrs).made.length +
          retryBudget keys (run (reinitHdr b s.1.credInfo s.2) r hdrs).cachedAuth
            (run (reinitHdr b s.1.credInfo s.2) r hdrs).auths ≤
        r.made.length + retryBudget keys r.cachedAuth r.auths := by
    induction hdrs generalizing r with
    | nil => exact le_rfl
    | cons hdr hdrs ih =>
      obtain ⟨hhead, htail⟩ := List.forall_mem_cons.mp hcover
      exact (ih _ htail hguard.2).trans (reinitHdr_budget hwild hown hhead hguard.1)
  exact (hrun hdrs (.start s.1 s.2) hcover hguard).trans_eq (Nat.zero_add _)

lemma made_of_success {s : Session × Request} {hdrs : List (Challenge × UniqueString)}
    (h : (reinitReq b s.1 s.2 hdrs).2.2.2.toBool = true) : (reinitReq b s.1 s.2 hdrs).2.2.1 ≠ [] := by
  intro hmade
  unfold reinitReq at h hmade
  dsimp only at h hmade
  rw [hmade] at h
  split at h <;> simp [Except.toBool] at h

/-- In a sequence of responses that leaves the stale counters in range, the request is sent
again only so many times, by the keys of the challenges. -/
theorem retries_bounded (b : Build) (sess : Session) (req : Request)
    (responses : ℕ → List (Challenge × UniqueString)) (keys : List RetryKey)
    (hwild : ∀ c ∈ sess.credInfo, ¬ c.isWildcard = true)
    (hcover : ∀ n, ∀ hdr ∈ responses n, Covers b sess.credInfo keys hdr.1)
    (hrange : ∀ n, StaleInRange b (stateAt (retryStep b) (sess, req) responses n) (responses n)) :
    (retried b (sess, req) responses).Finite ∧
      (retried b (sess, req) responses).ncard ≤ (maxStaleCount + 1) * keys.length := by
  classical
  -- Only the keys of credentials count.
  let own := keys.filter fun k => ofCredential sess.credInfo k.1
  have hown : ∀ k ∈ own, ofCredential sess.credInfo k.1 = true := fun k hk => (List.mem_filter.mp hk).2
  have hcover' : ∀ n, ∀ hdr ∈ responses n, Covers b sess.credInfo own hdr.1 := by
    intro n hdr hhdr hs a ha hof
    obtain ⟨k, hk, hr, hrest⟩ := hcover n hdr hhdr hs a ha hof
    exact ⟨k, List.mem_filter.mpr ⟨hk, ofCredential_congr (stricmpEq_symm hr) hof⟩, hr, hrest⟩
  have hstep (n : ℕ) : retryBudget own (retryStep b (stateAt (retryStep b) (sess, req) responses n)
        (responses n)).1.cachedAuth (retryStep b (stateAt (retryStep b) (sess, req) responses n) (responses n)).2.auths +
        (if n ∈ retried b (sess, req) responses then 1 else 0) ≤
      retryBudget own (stateAt (retryStep b) (sess, req) responses n).1.cachedAuth
        (stateAt (retryStep b) (sess, req) responses n).2.auths := by
    have hcreds := stateAt_credInfo (b := b) (sess, req) responses n
    have hbudget := reinitReq_budget (hcreds ▸ hwild) (hcreds ▸ hown) (hcreds ▸ hcover' n) (hrange n)
    split
    · rename_i hmem
      have hpos := List.length_pos_of_ne_nil (made_of_success hmem)
      omega
    · omega
  obtain ⟨hfin, hcard⟩ := @finite_of_budget _ _ (retryStep b) _ _ _ _
    (fun s => retryBudget own s.1.cachedAuth s.2.auths) hstep
  refine ⟨hfin, hcard.trans ((retryBudget_le own _ _).trans ?_)⟩
  exact Nat.mul_le_mul (Nat.le_succ _) (List.length_filter_le _ _)

/-- A challenge without `qop` that says the answer before it was stale. -/
def staleHdr : Challenge × UniqueString := ({ authChal "n" with qop := [] }, ⟨lit "c", List.cons_ne_nil _ _⟩)

def staleSess (cachedAuth : List CachedAuth) : Session := ⟨[aliceCred], false, [], cachedAuth⟩

lemma cnonce_of_no_qop : QopType.none ≠ .none → ([] : Bytes) ≠ [] := fun h => absurd rfl h

def staleEntry (n : ℕ) : CachedAuth where
  realm := lit "r"
  isProxy := false
  qopValue := .none
  staleCnt := n
  nc := 0
  cnonce := []
  lastChal := some staleHdr.1
  challengeAlgorithmType := .md5
  chal_of_cnonce _ := rfl
  cnonce_of_qop := cnonce_of_no_qop

def staleAnswer : AuthHdr where
  type := .www
  scheme := digestStr
  username := lit "alice"
  realm := lit "r"
  nonce := lit "n"
  uri := lit "sip:a"
  algorithm := lit "MD5"
  response := List.replicate 32 48

lemma checkSent_stale (n : ℕ) : checkSent staleHdr.1 (staleEntry n) [staleAnswer] =
    if maxStaleCount ≤ (n + 1) % 2 ^ 32 then (staleEntry ((n + 1) % 2 ^ 32), [staleAnswer], some .staleCount)
    else (staleEntry ((n + 1) % 2 ^ 32), [], none) := rfl

lemma authRespond_staleEntry (n : ℕ) : authRespond plainBuild staleHdr.2 (getReq [staleAnswer]) staleHdr.1
    aliceCred (staleEntry n) .md5 = (staleEntry n, .ok staleAnswer) := rfl

lemma processAuth_staleEntry (n : ℕ) :
    processAuth plainBuild [aliceCred] staleHdr.2 (getReq [staleAnswer]) staleHdr.1 (staleEntry n) .md5 =
      if maxStaleCount ≤ (n + 1) % 2 ^ 32 then (staleEntry ((n + 1) % 2 ^ 32), [staleAnswer], .error .staleCount)
      else (staleEntry ((n + 1) % 2 ^ 32), [], .ok staleAnswer) := by
  have hcheck : checkSent staleHdr.1 (staleEntry n) (getReq [staleAnswer]).auths = _ := checkSent_stale n
  have hcred : authFindCred [aliceCred] staleHdr.1.realm .md5 = some aliceCred := rfl
  unfold processAuth
  rw [hcheck]
  by_cases h : maxStaleCount ≤ (n + 1) % 2 ^ 32
  · simp only [if_pos h]
  · simp only [if_neg h, hcred, authRespond_staleEntry]

lemma reinitHdr_stale (n : ℕ) :
    reinitHdr plainBuild [aliceCred] (getReq [staleAnswer]) ⟨[staleEntry n], [staleAnswer], [], .noAuth⟩ staleHdr =
      if maxStaleCount ≤ (n + 1) % 2 ^ 32 then ⟨[staleEntry ((n + 1) % 2 ^ 32)], [staleAnswer], [], .staleCount⟩
      else ⟨[staleEntry ((n + 1) % 2 ^ 32)], [staleAnswer], [staleAnswer], .noAuth⟩ := by
  have hdigest : stricmpEq staleHdr.1.scheme digestStr = true := rfl
  have halg : byIanaName plainBuild staleHdr.1.algorithm = some .md5 := rfl
  have hreq : { getReq [staleAnswer] with auths := [staleAnswer] } = getReq [staleAnswer] := rfl
  have hfor : (staleEntry n).isFor staleHdr.1.realm .md5 = true := rfl
  unfold reinitHdr
  simp only [hdigest, halg, hreq, atEntry, hfor, processAuth_staleEntry, Bool.not_true, Bool.false_eq_true, if_false,
    if_true]
  by_cases h : maxStaleCount ≤ (n + 1) % 2 ^ 32
  · simp only [if_pos h]
  · simp only [if_neg h, List.nil_append]

lemma stateAt_stale (n : ℕ) :
    stateAt (retryStep plainBuild) (staleSess [], getReq []) (fun _ => [staleHdr]) (n + 1) =
      (staleSess [staleEntry (n % 2 ^ 32)], getReq [staleAnswer]) := by
  induction n with
  | zero => rfl
  | succ n ih =>
    have hstep : retryStep plainBuild (staleSess [staleEntry (n % 2 ^ 32)], getReq [staleAnswer]) [staleHdr] =
        (staleSess [staleEntry ((n % 2 ^ 32 + 1) % 2 ^ 32)], getReq [staleAnswer]) := by
      have hhdr := reinitHdr_stale (n % 2 ^ 32)
      simp only [retryStep, reinitReq, List.foldl_cons, List.foldl_nil]
      rw [show (staleSess [staleEntry (n % 2 ^ 32)]).credInfo = [aliceCred] from rfl,
        show (staleSess [staleEntry (n % 2 ^ 32)]).cachedAuth = [staleEntry (n % 2 ^ 32)] from rfl,
        show (getReq [staleAnswer]).auths = [staleAnswer] from rfl, hhdr]
      split <;> rfl
    rw [stateAt, ih, hstep, Nat.mod_add_mod]

/-- A server that says stale again and again has the request sent again without end: the
counter starts again after `2^32` of its responses. -/
theorem retries_wrap : (∀ c ∈ (staleSess []).credInfo, ¬ c.isWildcard = true) ∧
    Covers plainBuild (staleSess []).credInfo [(lit "r", .md5, .www)] staleHdr.1 ∧
    ¬ (retried plainBuild (staleSess [], getReq []) fun _ => [staleHdr]).Finite := by
  refine ⟨by decide, ?_, ?_⟩
  · intro _ a ha _
    obtain rfl : Algorithm.md5 = a := Option.some.inj ha
    exact ⟨_, List.mem_singleton_self _, rfl, rfl, rfl⟩
  · refine Set.infinite_of_injective_forall_mem (f := fun k => 2 ^ 32 * (k + 1)) (fun j k h => by simpa using h) ?_
    intro k
    obtain ⟨m, hm⟩ : ∃ m, 2 ^ 32 * (k + 1) = m + 1 := ⟨2 ^ 32 * (k + 1) - 1, by omega⟩
    have hlast : (m % 2 ^ 32 + 1) % 2 ^ 32 = 0 := by omega
    simp only [hm, retried, Set.mem_ofPred_eq, stateAt_stale, reinitReq, List.foldl_cons, List.foldl_nil]
    have hhdr := reinitHdr_stale (m % 2 ^ 32)
    rw [hlast, if_neg (by decide)] at hhdr
    rw [show (staleSess [staleEntry (m % 2 ^ 32)]).credInfo = [aliceCred] from rfl,
      show (staleSess [staleEntry (m % 2 ^ 32)]).cachedAuth = [staleEntry (m % 2 ^ 32)] from rfl,
      show (getReq [staleAnswer]).auths = [staleAnswer] from rfl, hhdr]
    rfl

/-- One response to a request. -/
theorem retries_bounded_one :
    (retried plainBuild (staleSess [], getReq []) fun n => if n = 0 then [staleHdr] else []).Finite ∧
      (retried plainBuild (staleSess [], getReq []) fun n => if n = 0 then [staleHdr] else []).ncard ≤
        (maxStaleCount + 1) * [((lit "r", .md5, .www) : RetryKey)].length := by
  refine retries_bounded plainBuild (staleSess []) (getReq []) _ _ (by decide) ?_ ?_
  · intro n hdr hhdr _ a ha _
    obtain rfl : hdr = staleHdr := by
      split at hhdr
      · exact List.mem_singleton.mp hhdr
      · cases hhdr
    obtain rfl : Algorithm.md5 = a := Option.some.inj ha
    exact ⟨_, List.mem_singleton_self _, rfl, rfl, rfl⟩
  · intro n
    cases n with
    | zero => exact ⟨fun a ha e he => (nomatch he), trivial⟩
    | succ n => trivial

end PjProject.AuthClient
