import PjProject.AuthClient
import PjProject.RunningCount
import PjProject.Transition

/-!
# Nonce counts of the client authentication session

The counts that the session puts into the requests, for each realm and algorithm: the
entry of the cache keeps one counter for the nonce of the last challenge, and the counts
go on from one as long as that counter is the one of the last header.
-/
namespace PjProject.AuthClient

open RunningCount Transition

variable (b : Build)

def uses (realm : Bytes) (a : Algorithm) (sent : List AuthHdr) : List AuthHdr :=
  sent.filter fun h => h.qop = authStr && (stricmpEq h.realm realm && byIanaName b h.algorithm = some a)

def AuthHdr.use (h : AuthHdr) : Bytes × ℕ := (h.nonce, h.nc)

structure CachedAuth.Own (e : CachedAuth) (c : Challenge) : Prop where
  scheme : stricmpEq c.scheme digestStr = true
  realm : stricmpEq c.realm e.realm = true
  algorithm : byIanaName b c.algorithm = some e.challengeAlgorithmType

structure CachedAuth.Keeps (e e' : CachedAuth) : Prop where
  realm : e'.realm = e.realm
  algorithm : e'.challengeAlgorithmType = e.challengeAlgorithmType
  cnonce : e.cnonce ≠ [] → e'.cnonce ≠ []
  held : (∀ c, e.lastChal = some c → e.Own b c) → ∀ c, e'.lastChal = some c → e'.Own b c

variable {e' : CachedAuth}

lemma CachedAuth.Keeps.of_same {e : CachedAuth} (hr : e'.realm = e.realm)
    (ha : e'.challengeAlgorithmType = e.challengeAlgorithmType) (hc : e'.cnonce = e.cnonce)
    (hl : e'.lastChal = e.lastChal) : e.Keeps b e' := by
  refine ⟨hr, ha, fun h => hc ▸ h, fun hheld c h => ?_⟩
  obtain ⟨hs, hrealm, halg⟩ := hheld c (hl ▸ h)
  exact ⟨hs, hr ▸ hrealm, ha ▸ halg⟩

lemma CachedAuth.Keeps.refl (e : CachedAuth) : e.Keeps b e := .of_same b rfl rfl rfl rfl

variable {b} in
lemma CachedAuth.Keeps.trans {e e' e'' : CachedAuth} (h : e.Keeps b e') (h' : e'.Keeps b e'') :
    e.Keeps b e'' :=
  ⟨h'.realm.trans h.realm, h'.algorithm.trans h.algorithm, h'.cnonce ∘ h.cnonce, h'.held ∘ h.held⟩

def CachedAuth.nextCount (e : CachedAuth) (nonce : Bytes) : ℕ :=
  if h : e.cnonce = [] then 1
  else if nonce = (e.chal h).nonce then (e.nc + 1) % 2 ^ 32 else 1

variable {b} {e : CachedAuth} {hdr : Challenge}

lemma CachedAuth.Own.of_same {c : Challenge} (h : e.Own b c) (hr : e'.realm = e.realm)
    (ha : e'.challengeAlgorithmType = e.challengeAlgorithmType) : e'.Own b c :=
  ⟨h.scheme, hr ▸ h.realm, ha ▸ h.algorithm⟩

lemma eq_nil_of_stricmpEq {s : Bytes} (h : stricmpEq s [] = true) : s = [] := by
  simp only [stricmpEq, Bool.and_eq_true, decide_eq_true_eq, List.length_nil] at h
  exact List.length_eq_zero_iff.mp h.1

lemma updateDigestSession_keeps (fresh : UniqueString) (hown : e.Own b hdr) :
    e.Keeps b (updateDigestSession b fresh e hdr) := by
  by_cases hq : hdr.qop = []
  · by_cases hauto : b.autoSendNext = true
    · simp only [updateDigestSession, if_pos hq, if_pos hauto]
      refine ⟨rfl, rfl, id, fun hheld c hc => ?_⟩
      obtain rfl : newestChal hdr e.lastChal = c := Option.some.inj hc
      cases hl : e.lastChal with
      | none => exact hown.of_same rfl rfl
      | some last =>
        rw [newestChal]
        split
        · exact hown.of_same rfl rfl
        · exact (hheld last hl).of_same rfl rfl
    · simp only [updateDigestSession, if_pos hq, if_neg hauto]
      exact .refl b e
  · by_cases hc : e.cnonce = []
    · have hrealm : (if e.realm = [] then hdr.realm else e.realm) = e.realm := by
        split
        · rename_i hnil
          have hrealm := hown.realm
          rw [hnil] at hrealm ⊢
          exact eq_nil_of_stricmpEq hrealm
        · rfl
      simp only [updateDigestSession, if_neg hq, dif_pos hc]
      refine ⟨hrealm, rfl, fun h => absurd hc h, fun _ c h => ?_⟩
      obtain rfl : hdr = c := Option.some.inj h
      exact hown.of_same hrealm rfl
    · by_cases hn : hdr.nonce = (e.chal hc).nonce
      · simp only [updateDigestSession, if_neg hq, dif_neg hc, if_pos hn]
        exact .of_same b rfl rfl rfl rfl
      · simp only [updateDigestSession, if_neg hq, dif_neg hc, if_neg hn]
        refine ⟨rfl, rfl, id, fun hheld c h => ?_⟩
        obtain rfl := Option.some.inj h
        have hlast := hheld (e.chal hc) (by simp [CachedAuth.chal])
        exact ⟨hlast.scheme, hlast.realm, hlast.algorithm⟩

lemma updateDigestSession_nc (fresh : UniqueString) (hq : hdr.qop ≠ []) :
    (updateDigestSession b fresh e hdr).nc = e.nextCount hdr.nonce := by
  by_cases hc : e.cnonce = []
  · simp [updateDigestSession, CachedAuth.nextCount, hq, hc]
  · simp only [updateDigestSession, CachedAuth.nextCount, if_neg hq, dif_neg hc]
    split <;> rfl

lemma setQop_keeps (qop : Bytes) (h : e.cnonce ≠ []) : e.Keeps b (e.setQop qop h) := by
  unfold CachedAuth.setQop
  split
  · exact .of_same b rfl rfl rfl rfl
  · exact .refl b e

lemma setQop_cnonce (qop : Bytes) (h : e.cnonce ≠ []) : (e.setQop qop h).cnonce = e.cnonce := by
  unfold CachedAuth.setQop
  split <;> rfl

/-- The credentials with which `pjsip_auth_create_digest2` makes a digest. -/
def CredInfo.makesDigest (b : Build) (c : CredInfo) (a : Algorithm) : Bool :=
  !(a = .notSet || !isAlgorithmSupported b a) &&
    !(c.dataType = .digest && (c.algorithmType ≠ .notSet && c.algorithmType ≠ a)) &&
    !(c.dataType = .digest && c.data.length < a.digestStrLength) && hasDigest b a

variable {realm : Bytes}

lemma createDigest2_ok {nonce uri method : Bytes} {between : List Bytes} {c : CredInfo} {a : Algorithm}
    {r : Bytes} (h : createDigest2 b nonce between uri realm c method a = .ok r) :
    c.makesDigest b a = true ∧ r.length = a.digestStrLength := by
  unfold createDigest2 at h
  split_ifs at h with h1 h2 h3 h4
  obtain rfl := Except.ok.inj h
  refine ⟨?_, b.hash_length _ _⟩
  rw [CredInfo.makesDigest, Bool.eq_false_iff.mpr h1, Bool.eq_false_iff.mpr h2, Bool.eq_false_iff.mpr h3]
  simpa using h4

def Request.isPrintable (req : Request) : Bool :=
  match req.printed with
  | none | some [] => false
  | some _ => true

structure CanCount (b : Build) (req : Request) (hdr : Challenge) (cred : CredInfo) (a : Algorithm) : Prop where
  printable : req.isPrintable = true
  qop : hasAuthQop hdr.qop = true
  digest : cred.makesDigest b a = true

structure Answers (b : Build) (req : Request) (hdr : Challenge) (cred : CredInfo) (a : Algorithm)
    (e e' : CachedAuth) (h : AuthHdr) : Prop where
  realm : h.realm = hdr.realm
  algorithm : h.algorithm = hdr.algorithm
  nonce : h.nonce = hdr.nonce
  count : h.qop = authStr → CanCount b req hdr cred a ∧ h.nc = e.nextCount hdr.nonce ∧ e'.cnonce ≠ []

lemma authStr_ne_nil : authStr ≠ [] := by decide

variable {α : Type}

lemma map_ok {β ε : Type} {f : α → β} {x : Except ε α} {y : β} (h : x.map f = .ok y) :
    ∃ r, x = .ok r ∧ f r = y := by
  cases x with
  | error s => cases h
  | ok r => exact ⟨r, rfl, Except.ok.inj h⟩

variable {h : AuthHdr}

lemma respondDigest_ok {uri cnonce method : Bytes} {nc : ℕ} {cred : CredInfo} {a : Algorithm}
    (heq : respondDigest b hdr uri cred cnonce nc method a = .ok h) :
    h.realm = hdr.realm ∧ h.algorithm = hdr.algorithm ∧ h.nonce = hdr.nonce ∧ h.type = hdr.type ∧
      h.scheme = digestStr ∧ cred.makesDigest b a = true ∧ h.response.length = a.digestStrLength ∧
      (h.qop = authStr → hdr.qop ≠ [] ∧ hasAuthQop hdr.qop = true ∧ h.nc = nc) := by
  unfold respondDigest at heq
  by_cases hq : hdr.qop = []
  · rw [if_pos hq] at heq
    obtain ⟨r, hr, rfl⟩ := map_ok heq
    obtain ⟨hmake, hlen⟩ := createDigest2_ok hr
    exact ⟨rfl, rfl, rfl, rfl, rfl, hmake, hlen, fun h => absurd h.symm authStr_ne_nil⟩
  · rw [if_neg hq] at heq
    split at heq
    · rename_i hauth
      obtain ⟨r, hr, rfl⟩ := map_ok heq
      obtain ⟨hmake, hlen⟩ := createDigest2_ok hr
      exact ⟨rfl, rfl, rfl, rfl, rfl, hmake, hlen, fun _ => ⟨hq, hauth, rfl⟩⟩
    · cases heq

variable {fresh : UniqueString} {req : Request} {cred : CredInfo} {a : Algorithm}

lemma authRespond_keeps (hown : e.Own b hdr) : e.Keeps b (authRespond b fresh req hdr cred e a).1 := by
  have hupdate := updateDigestSession_keeps fresh hown
  unfold authRespond
  split
  · exact .refl b e
  · exact .refl b e
  · rw [if_pos hown.scheme]
    dsimp only
    split
    · exact hupdate
    · dsimp only
      split
      · exact hupdate.trans (setQop_keeps _ _)
      · exact hupdate

lemma authRespond_answers (hok : (authRespond b fresh req hdr cred e a).2 = .ok h) :
    Answers b req hdr cred a e (authRespond b fresh req hdr cred e a).1 h := by
  unfold authRespond at hok ⊢
  split at hok
  · cases hok
  · cases hok
  · rename_i uri hne hprinted
    have hprintable : req.isPrintable = true := by
      simp only [Request.isPrintable, hprinted]
    by_cases hs : stricmpEq hdr.scheme digestStr = true
    · simp only [if_pos hs] at hok ⊢
      split at hok
      · cases hok
      · rename_i hauth hresp
        obtain rfl := Except.ok.inj hok
        obtain ⟨hr, ha, hn, -, -, hmake, -, hcount⟩ := respondDigest_ok hresp
        refine ⟨hr, ha, hn, fun hqop => ?_⟩
        obtain ⟨hq, hoffer, hnc⟩ := hcount hqop
        refine ⟨⟨hprintable, hoffer, hmake⟩, hnc.trans (updateDigestSession_nc fresh hq), ?_⟩
        rw [dif_pos hq, setQop_cnonce]
        exact updateDigestSession_cnonce b hq
    · simp only [if_neg hs] at hok
      cases hok

/-- What `find_cached_auth` tells entries apart by. -/
def CachedAuth.key (e : CachedAuth) : Bytes × Algorithm := (e.realm, e.challengeAlgorithmType)

/-- The cache and the log of headers: one entry for a realm and algorithm, each with the
challenges it had, behind every count, and the counts of each in order. -/
structure Counted (b : Build) (cached : List CachedAuth) (sent : List AuthHdr) : Prop where
  distinct : (cached.map CachedAuth.key).Pairwise fun k l => ¬ (stricmpEq k.1 l.1 = true ∧ k.2 = l.2)
  held : ∀ e ∈ cached, ∀ c, e.lastChal = some c → e.Own b c
  owned : ∀ h ∈ sent, h.qop = authStr → ∃ e ∈ cached, stricmpEq h.realm e.realm = true ∧
    byIanaName b h.algorithm = some e.challengeAlgorithmType ∧ e.cnonce ≠ []
  counts : ∀ realm a, Counts ((uses b realm a sent).map AuthHdr.use)

variable {cached cached' : List CachedAuth} {sent : List AuthHdr}

lemma isFor_iff : e.isFor realm a = true ↔ stricmpEq e.realm realm = true ∧ e.challengeAlgorithmType = a := by
  simp [CachedAuth.isFor]

lemma exists_of_forall₂ {β : Type} {R : α → β → Prop} {l : List α} {m : List β} (h : List.Forall₂ R l m)
    {x : α} (hx : x ∈ l) : ∃ y ∈ m, R x y := by
  induction h with
  | nil => cases hx
  | @cons y z l m hyz _ ih =>
    obtain rfl | htail := List.mem_cons.mp hx
    · exact ⟨z, List.mem_cons_self, hyz⟩
    · obtain ⟨w, hw, hR⟩ := ih htail
      exact ⟨w, List.mem_cons_of_mem z hw, hR⟩

lemma map_key_of_keeps (h : List.Forall₂ (CachedAuth.Keeps b) cached cached') :
    cached'.map CachedAuth.key = cached.map CachedAuth.key := by
  induction h with
  | nil => rfl
  | cons he _ ih => rw [List.map_cons, List.map_cons, ih, CachedAuth.key, CachedAuth.key, he.realm, he.algorithm]

lemma Counted.of_keeps (hinv : Counted b cached sent) (h : List.Forall₂ (CachedAuth.Keeps b) cached cached') :
    Counted b cached' sent where
  distinct := map_key_of_keeps h ▸ hinv.distinct
  held e' he' := by
    obtain ⟨e, he, hkeep⟩ := exists_of_forall₂ h.flip he'
    exact hkeep.held (hinv.held e he)
  owned g hg hqop := by
    obtain ⟨e, he, hr, ha, hc⟩ := hinv.owned g hg hqop
    obtain ⟨e', he', hkeep⟩ := exists_of_forall₂ h he
    exact ⟨e', he', hkeep.realm ▸ hr, hkeep.algorithm ▸ ha, hkeep.cnonce hc⟩
  counts := hinv.counts

lemma Counted.of_new (hinv : Counted b cached sent) (type : HdrType)
    (hnew : ∀ e ∈ cached, ¬ e.isFor realm a = true) :
    Counted b (cached ++ [.zalloc realm type a]) sent where
  distinct := by
    rw [List.map_append, List.pairwise_append]
    refine ⟨hinv.distinct, List.pairwise_singleton _ _, ?_⟩
    intro k hk l hl
    obtain ⟨e, he, rfl⟩ := List.mem_map.mp hk
    obtain rfl := List.mem_singleton.mp hl
    exact fun h => hnew e he (isFor_iff.mpr h)
  held e he c hc := by
    obtain hold | hadded := List.mem_append.mp he
    · exact hinv.held e hold c hc
    · obtain rfl := List.mem_singleton.mp hadded
      cases hc
  owned g hg hqop := by
    obtain ⟨e, he, h⟩ := hinv.owned g hg hqop
    exact ⟨e, List.mem_append_left _ he, h⟩
  counts := hinv.counts

lemma mem_uses : h ∈ uses b realm a sent ↔
    h ∈ sent ∧ h.qop = authStr ∧ stricmpEq h.realm realm = true ∧ byIanaName b h.algorithm = some a := by
  simp [uses]

def CachedAuth.InStep (b : Build) (sent : List AuthHdr) (e : CachedAuth) (nonce : Bytes) : Prop :=
  ∀ h : e.cnonce ≠ [],
    if nonce = (e.chal h).nonce then
      ((uses b e.realm e.challengeAlgorithmType sent).map AuthHdr.use).getLast? = some (nonce, e.nc) ∧
        e.nc + 1 < 2 ^ 32
    else ∀ g ∈ uses b e.realm e.challengeAlgorithmType sent, g.nonce ≠ nonce

lemma Counted.eq_of_same (hinv : Counted b cached sent) {e f : CachedAuth} (he : e ∈ cached) (hf : f ∈ cached)
    (hr : stricmpEq e.realm f.realm = true) (ha : e.challengeAlgorithmType = f.challengeAlgorithmType) : e = f := by
  by_contra hne
  have hp : cached.Pairwise fun x y => ¬ (stricmpEq x.realm y.realm = true ∧
      x.challengeAlgorithmType = y.challengeAlgorithmType) := List.pairwise_map.mp hinv.distinct
  have : Std.Symm fun x y : CachedAuth => ¬ (stricmpEq x.realm y.realm = true ∧
      x.challengeAlgorithmType = y.challengeAlgorithmType) :=
    ⟨fun _ _ h h' => h ⟨stricmpEq_symm h'.1, h'.2.symm⟩⟩
  exact hp.forall he hf hne ⟨hr, ha⟩

lemma uses_filter (realm : Bytes) (a : Algorithm) :
    uses b realm a (sent.filter fun h => h.qop = authStr) = uses b realm a sent := by
  simp [uses, List.filter_filter, Bool.and_comm]

lemma uses_congr {realm' : Bytes} (h : stricmpEq realm realm' = true) :
    uses b realm a sent = uses b realm' a sent := by
  refine List.filter_congr fun g _ => ?_
  have hiff : stricmpEq g.realm realm = stricmpEq g.realm realm' :=
    Bool.eq_iff_iff.mpr ⟨fun h' => stricmpEq_trans h' h, fun h' => stricmpEq_trans h' (stricmpEq_symm h)⟩
  rw [hiff]

lemma Counted.follows (hinv : Counted b cached sent) (he : e ∈ cached) {nonce : Bytes}
    (hstep : e.InStep b sent nonce) :
    Follows ((uses b e.realm e.challengeAlgorithmType sent).map AuthHdr.use) (nonce, e.nextCount nonce) := by
  by_cases hc : e.cnonce = []
  · -- No header of this entry has been sent.
    have hnone : uses b e.realm e.challengeAlgorithmType sent = [] := by
      refine List.eq_nil_iff_forall_not_mem.mpr fun g hg => ?_
      obtain ⟨hmem, hqop, hr, ha⟩ := mem_uses.mp hg
      obtain ⟨f, hf, hr', ha', hcnonce⟩ := hinv.owned g hmem hqop
      have hsame := hinv.eq_of_same hf he (stricmpEq_trans (stricmpEq_symm hr') hr)
        (Option.some.inj (ha'.symm.trans ha))
      exact hcnonce (hsame ▸ hc)
    right
    simp [hnone, CachedAuth.nextCount, hc]
  · have hstep := hstep hc
    by_cases hn : nonce = (e.chal hc).nonce
    · rw [if_pos hn] at hstep
      left
      refine ⟨e.nc, hstep.1, ?_⟩
      simp only [CachedAuth.nextCount, dif_neg hc, if_pos hn]
      exact Nat.mod_eq_of_lt hstep.2
    · rw [if_neg hn] at hstep
      right
      refine ⟨?_, by simp [CachedAuth.nextCount, hc, hn]⟩
      intro hmem
      obtain ⟨u, hu, hun⟩ := List.mem_map.mp hmem
      obtain ⟨g, hg, rfl⟩ := List.mem_map.mp hu
      exact hstep g hg hun

lemma Counted.send (hinv : Counted b cached sent) {hs : List AuthHdr}
    (howned : ∀ h ∈ hs, h.qop = authStr → ∃ e ∈ cached, stricmpEq h.realm e.realm = true ∧
      byIanaName b h.algorithm = some e.challengeAlgorithmType ∧ e.cnonce ≠ [])
    (hnext : ∀ realm a, uses b realm a hs = [] ∨ ∃ h, uses b realm a hs = [h] ∧
      Follows ((uses b realm a sent).map AuthHdr.use) h.use) : Counted b cached (sent ++ hs) where
  distinct := hinv.distinct
  held := hinv.held
  owned g hg hqop := by
    obtain hold | hnew := List.mem_append.mp hg
    · exact hinv.owned g hold hqop
    · exact howned g hnew hqop
  counts realm a := by
    rw [uses, List.filter_append]
    obtain hnone | ⟨h, hone, hfollows⟩ := hnext realm a
    · rw [uses] at hnone
      rw [hnone, List.append_nil]
      exact hinv.counts realm a
    · rw [uses] at hone
      rw [hone, List.map_append]
      exact .next (hinv.counts realm a) hfollows

lemma atEntry_eq (p : CachedAuth → Bool) (new : CachedAuth) (f : CachedAuth → CachedAuth × α)
    (hnew : p new = true) (cached : List CachedAuth) :
    ∃ pre e post, p e = true ∧ atEntry p new f cached = (pre ++ (f e).1 :: post, (f e).2) ∧
      (cached = pre ++ e :: post ∨ ((∀ x ∈ cached, ¬ p x = true) ∧ e = new ∧ cached ++ [new] = pre ++ e :: post)) := by
  induction cached with
  | nil => exact ⟨[], new, [], hnew, rfl, .inr ⟨by simp, rfl, rfl⟩⟩
  | cons x cached ih =>
    by_cases hx : p x = true
    · exact ⟨[], x, cached, hx, by simp [atEntry, hx], .inl rfl⟩
    · obtain ⟨pre, e, post, hp, heq, hcases⟩ := ih
      refine ⟨x :: pre, e, post, hp, by simp [atEntry, hx, heq], ?_⟩
      rcases hcases with hfound | ⟨hnone, hen, happ⟩
      · exact .inl (by rw [hfound, List.cons_append])
      · exact .inr ⟨List.forall_mem_cons.mpr ⟨hx, hnone⟩, hen, by rw [List.cons_append, happ, List.cons_append]⟩

lemma forall₂_replace {pre post : List CachedAuth} {e : CachedAuth} (h : e.Keeps b e') :
    List.Forall₂ (CachedAuth.Keeps b) (pre ++ e :: post) (pre ++ e' :: post) := by
  refine List.rel_append ?_ (.cons h ?_)
  · exact List.forall₂_same.mpr fun x _ => .refl b x
  · exact List.forall₂_same.mpr fun x _ => .refl b x

lemma checkSent_entry (auths : List AuthHdr) : ∃ n, (checkSent hdr e auths).1 = e.withStale n := by
  unfold checkSent
  split
  · exact ⟨e.staleCnt, rfl⟩
  · split
    · exact ⟨e.staleCnt, rfl⟩
    · dsimp only
      split <;> exact ⟨(e.staleCnt + 1) % 2 ^ 32, rfl⟩

lemma staleCnt_keeps (n : ℕ) : e.Keeps b (e.withStale n) := .of_same b rfl rfl rfl rfl

lemma processAuth_keeps (creds : List CredInfo) (hown : e.Own b hdr) :
    e.Keeps b (processAuth b creds fresh req hdr e a).1 := by
  obtain ⟨n, hn⟩ : ∃ n, (checkSent hdr e req.auths).1 = e.withStale n := checkSent_entry req.auths
  have hkeep : e.Keeps b (checkSent hdr e req.auths).1 := hn ▸ staleCnt_keeps n
  have hown' : (checkSent hdr e req.auths).1.Own b hdr := hown.of_same hkeep.realm hkeep.algorithm
  unfold processAuth
  split
  · rename_i heq
    simpa [heq] using hkeep
  · rename_i heq
    rw [heq] at hkeep hown'
    split
    · exact hkeep
    · exact hkeep.trans (authRespond_keeps hown')

lemma processAuth_answers {creds : List CredInfo}
    (hok : (processAuth b creds fresh req hdr e a).2.2 = .ok h) :
    (checkSent hdr e req.auths).2.2 = none ∧ ∃ cred, authFindCred creds hdr.realm a = some cred ∧
      Answers b req hdr cred a e (processAuth b creds fresh req hdr e a).1 h := by
  obtain ⟨n, hn⟩ : ∃ n, (checkSent hdr e req.auths).1 = e.withStale n := checkSent_entry req.auths
  unfold processAuth at hok ⊢
  split at hok
  · cases hok
  · rename_i e' auths heq
    obtain rfl : e' = e.withStale n := by simpa [heq] using hn
    split at hok
    · cases hok
    · rename_i cred hcred
      obtain ⟨hr, ha, hnonce, hcount⟩ := authRespond_answers hok
      refine ⟨by rw [heq], cred, hcred, hr, ha, hnonce, fun hqop => ?_⟩
      obtain ⟨hcan, hnc, hc⟩ := hcount hqop
      refine ⟨hcan, hnc, ?_⟩
      simpa [heq, hcred] using hc

/-- The condition on a challenge: where it will be answered with a count, the entry is in
step with the headers that have been sent. -/
def Retry.InStep (b : Build) (creds : List CredInfo) (req : Request) (sent : List AuthHdr) (r : Retry)
    (hdr : Challenge × UniqueString) : Prop :=
  stricmpEq hdr.1.scheme digestStr = true → ∀ a, byIanaName b hdr.1.algorithm = some a →
    ∀ e ∈ r.cachedAuth, e.isFor hdr.1.realm a = true → (checkSent hdr.1 e r.auths).2.2 = none →
    ∀ cred, authFindCred creds hdr.1.realm a = some cred → CanCount b req hdr.1 cred a →
    e.InStep b (sent ++ r.made) hdr.1.nonce

lemma Counted.send_one (hinv : Counted b cached sent) (hinv' : Counted b cached' sent)
    (he : e ∈ cached) (he' : e' ∈ cached') (hkeep : e.Keeps b e') {c : Challenge} (hown : e.Own b c)
    (hans : Answers b req c cred a e e' h) (hstep : CanCount b req c cred a → e.InStep b sent c.nonce) :
    Counted b cached' (sent ++ [h]) := by
  have hrealm : stricmpEq h.realm e.realm = true := hans.realm ▸ hown.realm
  have halg : byIanaName b h.algorithm = some e.challengeAlgorithmType := hans.algorithm ▸ hown.algorithm
  refine hinv'.send ?_ ?_
  · intro g hg hqop
    obtain rfl := List.mem_singleton.mp hg
    exact ⟨e', he', hkeep.realm ▸ hrealm, hkeep.algorithm ▸ halg, (hans.count hqop).2.2⟩
  · intro realm a'
    by_cases hmem : h ∈ uses b realm a' [h]
    · obtain ⟨-, hqop, hr, ha⟩ := mem_uses.mp hmem
      obtain ⟨hcan, hnc, -⟩ := hans.count hqop
      refine .inr ⟨h, by simp [uses, hqop, hr, ha], ?_⟩
      obtain rfl : e.challengeAlgorithmType = a' := Option.some.inj (halg.symm.trans ha)
      rw [uses_congr (stricmpEq_trans (stricmpEq_symm hr) hrealm), AuthHdr.use, hans.nonce, hnc]
      exact hinv.follows he (hstep hcan)
    · refine .inl (List.eq_nil_iff_forall_not_mem.mpr fun g hg => hmem ?_)
      obtain rfl := List.mem_singleton.mp (List.mem_of_mem_filter hg)
      exact hg

lemma reinitHdr_counted {creds : List CredInfo} {r : Retry} {hdr : Challenge × UniqueString}
    (hinv : Counted b r.cachedAuth (sent ++ r.made)) (hguard : r.InStep b creds req sent hdr) :
    Counted b (reinitHdr b creds req r hdr).cachedAuth (sent ++ (reinitHdr b creds req r hdr).made) := by
  unfold reinitHdr
  by_cases hs : stricmpEq hdr.1.scheme digestStr = true
  · simp only [hs, Bool.not_true, Bool.false_eq_true, if_false]
    split
    · exact hinv
    · rename_i a ha
      have hnew : (CachedAuth.zalloc hdr.1.realm hdr.1.type a).isFor hdr.1.realm a = true :=
        isFor_iff.mpr ⟨stricmpEq_refl _, rfl⟩
      obtain ⟨pre, e, post, hfor, heq, hcases⟩ := atEntry_eq (·.isFor hdr.1.realm a) _
        (processAuth b creds hdr.2 { req with auths := r.auths } hdr.1 · a) hnew r.cachedAuth
      obtain ⟨hrealm, halg⟩ := isFor_iff.mp hfor
      have hown : e.Own b hdr.1 := ⟨hs, stricmpEq_symm hrealm, halg ▸ ha⟩
      have hkeep : e.Keeps b (processAuth b creds hdr.2 { req with auths := r.auths } hdr.1 e a).1 :=
        processAuth_keeps creds hown
      have hmem : e ∈ pre ++ e :: post := by simp
      have hinv0 : Counted b (pre ++ e :: post) (sent ++ r.made) := by
        rcases hcases with hfound | ⟨hnone, -, happ⟩
        · exact hfound ▸ hinv
        · exact happ ▸ hinv.of_new hdr.1.type hnone
      have hinv1 := hinv0.of_keeps (forall₂_replace hkeep)
      simp only [heq]
      split
      · exact hinv1
      · rename_i hauth hok
        obtain ⟨hsent, cred, hcred, hans⟩ := processAuth_answers hok
        rw [← List.append_assoc]
        refine hinv0.send_one hinv1 hmem (by simp) hkeep hown hans fun hcan => ?_
        rcases hcases with hfound | ⟨-, rfl, -⟩
        · exact hguard hs a ha e (hfound ▸ hmem) hfor hsent cred hcred
            ⟨hcan.printable, hcan.qop, hcan.digest⟩
        · exact fun h => absurd rfl h
  · simpa [hs] using hinv

def MadeFor (b : Build) (creds : List CredInfo) (req : Request) (e e' : CachedAuth) (h : AuthHdr) : Prop :=
  ∃ c cred, e.lastChal = some c ∧ e.qopValue ≠ .unknown ∧
    authFindCred creds e.realm e.challengeAlgorithmType = some cred ∧
    Answers b req c cred e.challengeAlgorithmType e e' h

def CachedAuth.Ready (b : Build) (creds : List CredInfo) (req : Request) (sent : List AuthHdr)
    (e : CachedAuth) : Prop :=
  ∀ c, e.lastChal = some c → e.qopValue ≠ .unknown →
    ∀ cred, authFindCred creds e.realm e.challengeAlgorithmType = some cred →
    CanCount b req c cred e.challengeAlgorithmType → e.InStep b sent c.nonce

variable {creds : List CredInfo}

lemma newAuthForReq_keeps (hheld : ∀ c, e.lastChal = some c → e.Own b c) :
    e.Keeps b (newAuthForReq b creds fresh req e).1 := by
  unfold newAuthForReq
  split
  · exact .refl b e
  · rename_i c hc
    split
    · exact .refl b e
    · exact authRespond_keeps (hheld c hc)

lemma newAuthForReq_made (hqop : e.qopValue ≠ .unknown)
    (hok : (newAuthForReq b creds fresh req e).2 = .ok h) :
    MadeFor b creds req e (newAuthForReq b creds fresh req e).1 h := by
  unfold newAuthForReq at hok ⊢
  cases hc : e.lastChal with
  | none => simp [hc] at hok
  | some c =>
    cases hcred : authFindCred creds e.realm e.challengeAlgorithmType with
    | none => simp [hc, hcred] at hok
    | some cred =>
      simp only [hc, hcred] at hok ⊢
      exact ⟨c, cred, hc, hqop, hcred, authRespond_answers hok⟩

lemma initEntry_keeps (hheld : ∀ c, e.lastChal = some c → e.Own b c) :
    e.Keeps b (initEntry b creds fresh req e).1 := by
  have hkeep0 : e.Keeps b (e.withStale 0) := staleCnt_keeps 0
  have hkeep : e.Keeps b (newAuthForReq b creds fresh req (e.withStale 0)).1 :=
    hkeep0.trans (newAuthForReq_keeps (hkeep0.held hheld))
  unfold initEntry
  dsimp only
  split
  · split <;> exact hkeep
  · split <;> exact hkeep
  · exact hkeep0

lemma initEntry_made (hout : (initEntry b creds fresh req e).2 = .direct h ∨
    (initEntry b creds fresh req e).2 = .listed h) :
    MadeFor b creds req e (initEntry b creds fresh req e).1 h := by
  have hmade (hq : e.qopValue ≠ .unknown) (hok : (newAuthForReq b creds fresh req (e.withStale 0)).2 = .ok h) :
      MadeFor b creds req e (newAuthForReq b creds fresh req (e.withStale 0)).1 h := by
    have hq' : (e.withStale 0).qopValue ≠ .unknown := hq
    obtain ⟨c, cred, hc, -, hcred, hr, ha, hn, hcount⟩ := newAuthForReq_made hq' hok
    exact ⟨c, cred, hc, hq, hcred, hr, ha, hn, hcount⟩
  unfold initEntry at hout ⊢
  dsimp only at hout ⊢
  generalize hr : newAuthForReq b creds fresh req (e.withStale 0) = r at hout hmade ⊢
  cases hq : (e.withStale 0).qopValue with
  | none =>
    have hne : e.qopValue ≠ .unknown := fun h => nomatch h.symm.trans hq
    rcases r with ⟨e', s | hauth⟩ <;> simp only [hq] at hout ⊢
    · simp at hout
    · exact hmade hne (by simpa using hout)
  | auth =>
    have hne : e.qopValue ≠ .unknown := fun h => nomatch h.symm.trans hq
    rcases r with ⟨e', s | hauth⟩ <;> simp only [hq] at hout ⊢
    · cases s <;> simp at hout
    · exact hmade hne (by simpa using hout)
  | unknown => simp [hq] at hout

variable {es : List CachedAuth}

lemma initLoop_keeps (hheld : ∀ e ∈ es, ∀ c, e.lastChal = some c → e.Own b c) :
    List.Forall₂ (CachedAuth.Keeps b) es (initLoop b creds fresh req es).1 := by
  induction es with
  | nil => exact .nil
  | cons e es ih =>
    obtain ⟨hhead, htail⟩ := List.forall_mem_cons.mp hheld
    have hkeep : e.Keeps b (initEntry b creds fresh req e).1 := initEntry_keeps hhead
    unfold initLoop
    dsimp only
    split
    · exact .cons hkeep (ih htail)
    · exact .cons hkeep (ih htail)
    · exact .cons hkeep (ih htail)
    · exact .cons hkeep (List.forall₂_same.mpr fun x _ => .refl b x)

def Added.all (r : Added) : List AuthHdr := r.direct ++ r.listed

lemma initLoop_all (e : CachedAuth) (es : List CachedAuth) :
    (initLoop b creds fresh req (e :: es)).2.all = [] ∨ ((initLoop b creds fresh req (e :: es)).1 =
          (initEntry b creds fresh req e).1 :: (initLoop b creds fresh req es).1 ∧
        ((initLoop b creds fresh req (e :: es)).2.all = (initLoop b creds fresh req es).2.all ∨
          ∃ h, MadeFor b creds req e (initEntry b creds fresh req e).1 h ∧
            (initLoop b creds fresh req (e :: es)).2.all.Perm (h :: (initLoop b creds fresh req es).2.all))) := by
  rw [initLoop]
  cases hout : (initEntry b creds fresh req e).2 with
  | nothing => exact .inr ⟨rfl, .inl rfl⟩
  | direct h => exact .inr ⟨rfl, .inr ⟨h, initEntry_made (.inl hout), .refl _⟩⟩
  | listed h => exact .inr ⟨rfl, .inr ⟨h, initEntry_made (.inr hout), List.perm_middle⟩⟩
  | failed s => exact .inl rfl

lemma initLoop_made (hh : h ∈ (initLoop b creds fresh req es).2.all) :
    ∃ e ∈ es, ∃ e' ∈ (initLoop b creds fresh req es).1, e' = (initEntry b creds fresh req e).1 ∧
      MadeFor b creds req e e' h := by
  induction es with
  | nil => cases hh
  | cons e es ih =>
    have hrest (hcached : (initLoop b creds fresh req (e :: es)).1 =
          (initEntry b creds fresh req e).1 :: (initLoop b creds fresh req es).1)
        (hold : h ∈ (initLoop b creds fresh req es).2.all) :
        ∃ f ∈ e :: es, ∃ e' ∈ (initLoop b creds fresh req (e :: es)).1,
          e' = (initEntry b creds fresh req f).1 ∧ MadeFor b creds req f e' h := by
      obtain ⟨f, hf, e', he', hmade⟩ := ih hold
      exact ⟨f, List.mem_cons_of_mem e hf, e', hcached ▸ List.mem_cons_of_mem _ he', hmade⟩
    obtain hnil | ⟨hcached, hsame | ⟨g, hg, hperm⟩⟩ := initLoop_all e es
    · rw [hnil] at hh
      cases hh
    · exact hrest hcached (hsame ▸ hh)
    · obtain rfl | hold := List.mem_cons.mp (hperm.mem_iff.mp hh)
      · exact ⟨e, List.mem_cons_self, _, hcached ▸ List.mem_cons_self, rfl, hg⟩
      · exact hrest hcached hold

lemma MadeFor.own {e : CachedAuth} (hmade : MadeFor b creds req e e' h)
    (hheld : ∀ c, e.lastChal = some c → e.Own b c) :
    stricmpEq h.realm e.realm = true ∧ byIanaName b h.algorithm = some e.challengeAlgorithmType := by
  obtain ⟨c, cred, hc, -, -, hans⟩ := hmade
  have hown := hheld c hc
  exact ⟨hans.realm ▸ hown.realm, hans.algorithm ▸ hown.algorithm⟩

lemma initLoop_uses (hheld : ∀ e ∈ es, ∀ c, e.lastChal = some c → e.Own b c)
    (hdistinct : (es.map CachedAuth.key).Pairwise fun k l => ¬ (stricmpEq k.1 l.1 = true ∧ k.2 = l.2))
    (realm : Bytes) (a : Algorithm) : (uses b realm a (initLoop b creds fresh req es).2.all).length ≤ 1 := by
  induction es with
  | nil => exact Nat.zero_le 1
  | cons e es ih =>
    obtain ⟨hhead, htail⟩ := List.forall_mem_cons.mp hheld
    obtain ⟨hothers, hrest⟩ := List.pairwise_cons.mp hdistinct
    have hlen := ih htail hrest
    obtain hnil | ⟨-, hsame | ⟨g, hg, hperm⟩⟩ := initLoop_all e es
    · rw [hnil]
      exact Nat.zero_le 1
    · rwa [hsame]
    · have hlength := (hperm.filter fun h => h.qop = authStr &&
        (stricmpEq h.realm realm && byIanaName b h.algorithm = some a)).length_eq
      rw [← uses, ← uses] at hlength
      rw [hlength]
      by_cases hmem : g ∈ uses b realm a [g]
      · -- The others are of other realms and algorithms.
        obtain ⟨-, -, hr, ha⟩ := mem_uses.mp hmem
        obtain ⟨hgr, hga⟩ := hg.own hhead
        have hnone : uses b realm a (initLoop b creds fresh req es).2.all = [] := by
          refine List.eq_nil_iff_forall_not_mem.mpr fun h hh => ?_
          obtain ⟨hall, -, hhr, hha⟩ := mem_uses.mp hh
          obtain ⟨f, hf, e', -, -, hmade⟩ := initLoop_made hall
          obtain ⟨hfr, hfa⟩ := hmade.own (htail f hf)
          refine hothers f.key (List.mem_map_of_mem hf) ⟨?_, ?_⟩
          · exact stricmpEq_trans (stricmpEq_trans (stricmpEq_symm hgr) hr)
              (stricmpEq_trans (stricmpEq_symm hhr) hfr)
          · exact Option.some.inj (hga.symm.trans (ha.trans (hha.symm.trans hfa)))
        rw [uses, List.filter_cons, ← uses, hnone]
        split <;> simp
      · rw [uses, List.filter_cons_of_neg, ← uses]
        · exact hlen
        · exact fun h => hmem (by simpa [uses] using h)

lemma placeHeaders_subperm (prefAlgorithm uri : Bytes) (cs : List CredInfo) (listed : List AuthHdr) :
    ((placeHeaders prefAlgorithm uri cs listed).filter fun h => h.qop = authStr).Subperm listed := by
  induction cs generalizing listed with
  | nil => exact List.nil_subperm
  | cons c cs ih =>
    rw [placeHeaders]
    split
    · rename_i h hfind
      have hmem := List.mem_of_find?_eq_some hfind
      rw [List.filter_cons]
      split
      · exact ((List.subperm_cons h).mpr (ih (listed.erase h))).trans (List.perm_cons_erase hmem).symm.subperm
      · exact (ih (listed.erase h)).trans (List.erase_subperm h listed)
    · rw [List.filter_cons_of_neg]
      · exact ih listed
      · have hempty : (emptyHeader prefAlgorithm uri c).qop = [] := by
          unfold emptyHeader
          split <;> rfl
        rw [hempty]
        decide

lemma initReq_cached (sess : Session) : (initReq b sess fresh req).1 =
    { sess with cachedAuth := (initLoop b sess.credInfo fresh req sess.cachedAuth).1 } := by
  unfold initReq
  dsimp only
  split
  · rfl
  · split
    · rfl
    · split
      · rfl
      · split <;> rfl

lemma initReq_subperm (sess : Session) : ((initReq b sess fresh req).2.1.filter fun h => h.qop = authStr).Subperm
    (initLoop b sess.credInfo fresh req sess.cachedAuth).2.all := by
  have hdirect : ((initLoop b sess.credInfo fresh req sess.cachedAuth).2.direct.filter fun h =>
      h.qop = authStr).Subperm (initLoop b sess.credInfo fresh req sess.cachedAuth).2.all :=
    (List.filter_sublist.trans (List.sublist_append_left _ _)).subperm
  unfold initReq
  dsimp only
  split
  · exact hdirect
  · split
    · exact List.filter_sublist.subperm
    · split
      · exact hdirect
      · split
        · exact hdirect
        · rw [List.filter_append]
          exact List.filter_sublist.subperm.append (placeHeaders_subperm _ _ _ _)

lemma initReq_counted {sess : Session} (hinv : Counted b sess.cachedAuth sent)
    (hguard : ∀ e ∈ sess.cachedAuth, e.Ready b sess.credInfo req sent) :
    Counted b (initReq b sess fresh req).1.cachedAuth (sent ++ (initReq b sess fresh req).2.1) := by
  have hsub : ((initReq b sess fresh req).2.1.filter fun h => h.qop = authStr).Subperm
      (initLoop b sess.credInfo fresh req sess.cachedAuth).2.all := initReq_subperm sess
  rw [initReq_cached]
  have hinv' : Counted b (initLoop b sess.credInfo fresh req sess.cachedAuth).1 sent :=
    hinv.of_keeps (initLoop_keeps hinv.held)
  have hmade : ∀ h ∈ (initReq b sess fresh req).2.1, h.qop = authStr → ∃ e ∈ sess.cachedAuth,
      ∃ e' ∈ (initLoop b sess.credInfo fresh req sess.cachedAuth).1, e.Keeps b e' ∧
      MadeFor b sess.credInfo req e e' h := by
    intro h hh hqop
    obtain ⟨e, he, e', he', rfl, hmade⟩ := initLoop_made (hsub.subset (List.mem_filter.mpr ⟨hh, by simpa using hqop⟩))
    exact ⟨e, he, _, he', initEntry_keeps (hinv.held e he), hmade⟩
  refine hinv'.send ?_ ?_
  · intro h hh hqop
    obtain ⟨e, he, e', he', hkeep, hmade⟩ := hmade h hh hqop
    obtain ⟨hr, ha⟩ := hmade.own (hinv.held e he)
    obtain ⟨c, cred, -, -, -, hans⟩ := hmade
    exact ⟨e', he', hkeep.realm ▸ hr, hkeep.algorithm ▸ ha, (hans.count hqop).2.2⟩
  · intro realm a
    have hlen : (uses b realm a (initReq b sess fresh req).2.1).length ≤ 1 := by
      rw [← uses_filter]
      exact (hsub.filter _).length_le.trans (initLoop_uses hinv.held hinv.distinct realm a)
    match huses : uses b realm a (initReq b sess fresh req).2.1 with
    | [] => exact .inl rfl
    | h :: rest =>
      obtain rfl : rest = [] := by simpa [huses] using hlen
      obtain ⟨hh, hqop, hr, ha⟩ := mem_uses.mp (huses ▸ List.mem_singleton_self h)
      obtain ⟨e, he, e', -, -, hmade⟩ := hmade h hh hqop
      obtain ⟨hr', ha'⟩ := hmade.own (hinv.held e he)
      obtain ⟨c, cred, hc, hq, hcred, hans⟩ := hmade
      obtain ⟨hcan, hnc, -⟩ := hans.count hqop
      refine .inr ⟨h, rfl, ?_⟩
      obtain rfl : e.challengeAlgorithmType = a := Option.some.inj (ha'.symm.trans ha)
      rw [uses_congr (stricmpEq_trans (stricmpEq_symm hr) hr'), AuthHdr.use, hans.nonce, hnc]
      exact hinv.follows he (hguard e he c hc hq cred hcred hcan)

structure History where
  sess : Session
  sent : List AuthHdr

inductive Op
  | initReq (req : Request) (fresh : UniqueString)
  | reinitReq (req : Request) (hdrs : List (Challenge × UniqueString))

/-- The loop of `pjsip_auth_clt_reinit_req` before its first header. -/
def Retry.start (sess : Session) (req : Request) : Retry := ⟨sess.cachedAuth, req.auths, [], .noAuth⟩

variable (b)

def History.next (s : History) : Op → History
  | .initReq req fresh =>
    let r := AuthClient.initReq b s.sess fresh req
    ⟨r.1, s.sent ++ r.2.1⟩
  | .reinitReq req hdrs =>
    let r := AuthClient.reinitReq b s.sess req hdrs
    ⟨r.1, s.sent ++ r.2.2.1⟩

def History.InStep (s : History) : Op → Prop
  | .initReq req _ => ∀ e ∈ s.sess.cachedAuth, e.Ready b s.sess.credInfo req s.sent
  | .reinitReq req hdrs =>
    Guarded (reinitHdr b s.sess.credInfo req) (Retry.InStep b s.sess.credInfo req s.sent)
      (.start s.sess req) hdrs

def History.start (credInfo : List CredInfo) (initialAuth : Bool) (prefAlgorithm : Bytes) : History :=
  ⟨⟨credInfo, initialAuth, prefAlgorithm, []⟩, []⟩

variable {b}

lemma History.next_counted {s : History} {op : Op} (hinv : Counted b s.sess.cachedAuth s.sent)
    (hguard : s.InStep b op) : Counted b (s.next b op).sess.cachedAuth (s.next b op).sent := by
  cases op with
  | initReq req fresh => exact initReq_counted hinv hguard
  | reinitReq req hdrs =>
    exact @Guarded.invariant _ _ _ _ (fun r : Retry => Counted b r.cachedAuth (s.sent ++ r.made))
      (fun r hdr hr hin => reinitHdr_counted hr hin) _ _ (by simpa [Retry.start] using hinv) hguard

/-- Counts of headers: no nonce, client nonce and count twice, each header one more than the
one before it with the same nonce, and the first header with a nonce of count one. -/
def CountsInOrder (us : List AuthHdr) : Prop :=
  (us.map fun h => (h.nonce, h.cnonce, h.nc)).Nodup ∧
    ∀ pre h post, us = pre ++ h :: post →
      (∀ g, pre.getLast? = some g → g.nonce = h.nonce → h.nc = g.nc + 1) ∧
      ((∀ g ∈ pre, g.nonce ≠ h.nonce) → h.nc = 1)

lemma countsInOrder_of_counts {us : List AuthHdr} (h : Counts (us.map AuthHdr.use)) : CountsInOrder us := by
  constructor
  · refine List.Nodup.of_map (fun u : Bytes × Bytes × ℕ => (u.1, u.2.2)) ?_
    rw [List.map_map]
    exact h.nodup
  · rintro pre g post rfl
    rw [List.map_append, List.map_cons] at h
    have hfollows := h.follows
    constructor
    · intro g' hlast hnonce
      exact hfollows.succ_of_last (by simp [List.getLast?_map, hlast, AuthHdr.use, hnonce])
    · intro hnew
      refine hfollows.one_of_new ?_
      simpa [AuthHdr.use] using hnew

/-- In a run whose calls find each answering entry in step, the counts of each realm and
algorithm are in order. -/
theorem nonce_count_in_step (b : Build) (credInfo : List CredInfo) (initialAuth : Bool) (prefAlgorithm : Bytes)
    (ops : List Op)
    (h : Guarded (History.next b) (History.InStep b) (.start credInfo initialAuth prefAlgorithm) ops)
    (realm : Bytes) (a : Algorithm) :
    CountsInOrder (uses b realm a (run (History.next b) (.start credInfo initialAuth prefAlgorithm) ops).sent) := by
  have hstart : Counted b (History.start credInfo initialAuth prefAlgorithm).sess.cachedAuth [] :=
    ⟨List.Pairwise.nil, fun e he => (nomatch he), fun g hg => (nomatch hg), fun _ _ => Counts.nil⟩
  have hinv := @Guarded.invariant _ _ _ _ (fun s : History => Counted b s.sess.cachedAuth s.sent)
    (fun s op hs hin => History.next_counted hs hin) _ _ hstart h
  exact countsInOrder_of_counts (hinv.counts realm a)

def plainBuild : Build where
  openssl := false
  autoSendNext := true
  evp _ := false
  hash a _ := List.replicate a.digestStrLength 48
  hash_length _ _ := List.length_replicate

def aliceCred : CredInfo where
  realm := lit "r"
  scheme := lit "Digest"
  username := lit "alice"
  dataType := .plainPasswd
  data := lit "pw"
  algorithmType := .md5

/-- A challenge with `qop="auth"` and a nonce. -/
def authChal (nonce : String) : Challenge where
  type := .www
  scheme := lit "Digest"
  realm := lit "r"
  domain := []
  nonce := lit nonce
  opaqueVal := []
  algorithm := lit "MD5"
  qop := lit "auth"
  stale := true

def getReq (auths : List AuthHdr) : Request := ⟨lit "OPTIONS", some (lit "sip:a"), auths⟩

def challenged (nonce : String) : Op := .reinitReq (getReq []) [(authChal nonce, ⟨lit "c", by decide⟩)]

def countsFor (nonces : List String) : List AuthHdr :=
  uses plainBuild (lit "r") .md5
    (run (History.next plainBuild) (.start [aliceCred] false []) (nonces.map challenged)).sent

/-- A server that goes back to a nonce gets the same count again. -/
theorem nonce_count_repeats : ¬ CountsInOrder (countsFor ["A", "B", "A"]) := by
  rintro ⟨hnodup, -⟩
  have heq : (countsFor ["A", "B", "A"]).map (fun h => (h.nonce, h.cnonce, h.nc)) =
      [(lit "A", lit "c", 1), (lit "B", lit "c", 1), (lit "A", lit "c", 1)] := by decide +kernel
  rw [heq] at hnodup
  revert hnodup
  decide

theorem nonce_count_in_step_two : CountsInOrder (countsFor ["A", "B"]) := by
  refine nonce_count_in_step plainBuild [aliceCred] false [] (["A", "B"].map challenged)
    ⟨⟨?_, trivial⟩, ⟨?_, trivial⟩, trivial⟩ (lit "r") .md5
  · intro hs a ha e he
    cases he
  · intro hs a ha e he hfor hsent cred hcred hcan hc
    obtain rfl := List.mem_singleton.mp he
    rw [if_neg (by revert hc; decide +kernel)]
    decide +kernel

end PjProject.AuthClient
