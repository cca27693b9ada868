import PjProject.FirstMatch
import PjProject.PjString

/-!
# Comparison of SIP URIs

`pjsip_url_compare` walks over the parameters and header components of the first URI only.
The comparison is symmetric and reflexive except for URIs that repeat a name with another
value, and for URIs that are equal up to header components that only one of them has.
-/
namespace PjProject.SipUri

open FirstMatch

structure Param where
  name : Bytes
  value : Bytes
  deriving DecidableEq

/-- `pjsip_sip_uri`; `secure` stands for the vptr of a "sips" URI. -/
structure Uri where
  secure : Bool
  user : Bytes
  passwd : Bytes
  host : Bytes
  port : ℕ
  userParam : Bytes
  methodParam : Bytes
  transportParam : Bytes
  ttlParam : ℤ
  maddrParam : Bytes
  otherParam : List Param
  headerParam : List Param
  deriving DecidableEq

/-- `pjsip_uri_context_e` -/
inductive Context
  | reqUri | fromToHdr | contactHdr | routingHdr | other
  deriving DecidableEq

inductive Status
  | success | ecmpscheme | ecmpuser | ecmppasswd | ecmphost | ecmpport | ecmptransportprm
  | ecmpttlparam | ecmpuserparam | ecmpmethodparam | ecmpmaddrparam | ecmpotherparam
  | ecmpheaderparam
  deriving DecidableEq

def paramFind (paramList : List Param) (name : Bytes) : Option Param :=
  paramList.find? fun p => stricmpEq p.name name

/-- `pjsip_param_cmp(list1, list2, 1) == 0`, which ignores names that are not found. -/
def paramCmp : List Param → List Param → Bool
  | [], _ => true
  | p1 :: list1, list2 =>
    match paramFind list2 p1.name with
    | some p2 => stricmpEq p1.value p2.value && paramCmp list1 list2
    | none => paramCmp list1 list2

def headerCmp : List Param → List Param → Bool
  | [], _ => true
  | p1 :: list1, list2 =>
    match paramFind list2 p1.name with
    | some p2 => stricmpEq p1.value p2.value && headerCmp list1 list2
    | none => false

def urlCompare (context : Context) (url1 url2 : Uri) : Status :=
  if url1.secure ≠ url2.secure then .ecmpscheme
  else if url1.user ≠ url2.user then .ecmpuser
  else if url1.passwd ≠ url2.passwd then .ecmppasswd
  else if stricmpEq url1.host url2.host = false then .ecmphost
  else if context ≠ .fromToHdr ∧ url1.port ≠ url2.port then .ecmpport
  else if context ≠ .fromToHdr ∧ stricmpEq url1.transportParam url2.transportParam = false then
    .ecmptransportprm
  else if context ≠ .fromToHdr ∧ context ≠ .routingHdr ∧ url1.ttlParam ≠ url2.ttlParam then
    .ecmpttlparam
  else if stricmpEq url1.userParam url2.userParam = false then .ecmpuserparam
  else if context = .other ∧ stricmpEq url1.methodParam url2.methodParam = false then
    .ecmpmethodparam
  else if context ≠ .fromToHdr ∧ stricmpEq url1.maddrParam url2.maddrParam = false then
    .ecmpmaddrparam
  else if paramCmp url1.otherParam url2.otherParam = false then .ecmpotherparam
  else if headerCmp url1.headerParam url2.headerParam = false then .ecmpheaderparam
  else .success

def sameName : Setoid Param where
  r p q := stricmpEq p.name q.name = true
  iseqv := ⟨fun p => stricmpEq_refl p.name, stricmpEq_symm, stricmpEq_trans⟩

def sameValue : Setoid Param where
  r p q := stricmpEq p.value q.value = true
  iseqv := ⟨fun p => stricmpEq_refl p.value, stricmpEq_symm, stricmpEq_trans⟩

instance : DecidableRel sameName.r := fun p q =>
  inferInstanceAs (Decidable (stricmpEq p.name q.name = true))

instance : DecidableRel sameValue.r := fun p q =>
  inferInstanceAs (Decidable (stricmpEq p.value q.value = true))

def Uri.Consistent (u : Uri) : Prop :=
  FirstMatch.Consistent sameName sameValue u.otherParam ∧
    FirstMatch.Consistent sameName sameValue u.headerParam

def CoreEq (context : Context) (u v : Uri) : Prop :=
  u.secure = v.secure ∧ u.user = v.user ∧ u.passwd = v.passwd ∧ stricmpEq u.host v.host = true ∧
    (context ≠ .fromToHdr → u.port = v.port) ∧
    (context ≠ .fromToHdr → stricmpEq u.transportParam v.transportParam = true) ∧
    (context ≠ .fromToHdr → context ≠ .routingHdr → u.ttlParam = v.ttlParam) ∧
    stricmpEq u.userParam v.userParam = true ∧
    (context = .other → stricmpEq u.methodParam v.methodParam = true) ∧
    (context ≠ .fromToHdr → stricmpEq u.maddrParam v.maddrParam = true)

lemma paramFind_eq (m : List Param) (p : Param) : paramFind m p.name = lookup sameName m p := by
  unfold paramFind lookup
  congr 1
  funext q
  exact Bool.decide_eq_true.symm

lemma paramCmp_iff (l m : List Param) : paramCmp l m = true ↔ Agrees sameName sameValue l m := by
  induction l with
  | nil => exact ⟨fun _ _ hp => (by cases hp), fun _ => rfl⟩
  | cons p l ih =>
    unfold Agrees at ih ⊢
    simp only [List.forall_mem_cons, ← ih, paramCmp, paramFind_eq]
    cases hl : lookup sameName m p with
    | none => simp
    | some q =>
      have hval : sameValue p q ↔ stricmpEq p.value q.value = true := Iff.rfl
      simp [hval]

lemma headerCmp_iff (l m : List Param) : headerCmp l m = true ↔ Covers sameName sameValue l m := by
  induction l with
  | nil => exact ⟨fun _ _ hp => (by cases hp), fun _ => rfl⟩
  | cons p l ih =>
    unfold Covers at ih ⊢
    simp only [List.forall_mem_cons, ← ih, headerCmp, paramFind_eq]
    cases hl : lookup sameName m p with
    | none => simp
    | some q =>
      have hval : sameValue p q ↔ stricmpEq p.value q.value = true := Iff.rfl
      simp [hval]

lemma ite_eq_success {c : Prop} [Decidable c] {e x : Status} (he : e ≠ .success) :
    (if c then e else x) = .success ↔ ¬ c ∧ x = .success := by
  split
  · rename_i hc
    exact ⟨fun h => absurd h he, fun h => absurd hc h.1⟩
  · rename_i hc
    exact ⟨fun h => ⟨hc, h⟩, fun h => h.2⟩

lemma urlCompare_iff (context : Context) (u v : Uri) : urlCompare context u v = .success ↔
      CoreEq context u v ∧ Agrees sameName sameValue u.otherParam v.otherParam ∧
        Covers sameName sameValue u.headerParam v.headerParam := by
  rw [← paramCmp_iff, ← headerCmp_iff]
  unfold urlCompare CoreEq
  repeat rw [ite_eq_success (by decide)]
  simp only [ne_eq, not_not, not_and, Bool.not_eq_false, and_assoc, and_true]

lemma CoreEq.refl (context : Context) (u : Uri) : CoreEq context u u := by
  simp [CoreEq, stricmpEq_refl]

lemma CoreEq.symm {context : Context} {u v : Uri} (h : CoreEq context u v) : CoreEq context v u := by
  obtain ⟨hsec, huser, hpass, hhost, hport, htrans, httl, huserp, hmeth, hmaddr⟩ := h
  exact ⟨hsec.symm, huser.symm, hpass.symm, stricmpEq_symm hhost, fun hc => (hport hc).symm,
    fun hc => stricmpEq_symm (htrans hc), fun hc hr => (httl hc hr).symm, stricmpEq_symm huserp,
    fun hc => stricmpEq_symm (hmeth hc), fun hc => stricmpEq_symm (hmaddr hc)⟩

structure CompareLaw (context : Context) (u v : Uri) : Prop where
  reflLeft : urlCompare context u u = .success
  reflRight : urlCompare context v v = .success
  symm : urlCompare context u v = .success ↔ urlCompare context v u = .success
  header : Misses sameName u.headerParam v.headerParam ∨ Misses sameName v.headerParam u.headerParam →
    urlCompare context u v ≠ .success ∧ urlCompare context v u ≠ .success

def PartOf (context : Context) (u v : Uri) : Prop :=
  CoreEq context u v ∧ Agrees sameName sameValue u.otherParam v.otherParam ∧
    Covers sameName sameValue u.headerParam v.headerParam ∧
    Misses sameName v.headerParam u.headerParam

lemma urlCompare_self_iff (context : Context) (u : Uri) :
    urlCompare context u u = .success ↔ u.Consistent := by
  rw [urlCompare_iff, agrees_self_iff, covers_self_iff]
  exact and_iff_right (CoreEq.refl context u)

lemma symm_of_not_partOf {context : Context} {u v : Uri} (hv : v.Consistent)
    (hpart : ¬ PartOf context u v) (h : urlCompare context u v = .success) :
    urlCompare context v u = .success := by
  obtain ⟨hcore, hother, hheader⟩ := (urlCompare_iff context u v).mp h
  refine (urlCompare_iff context v u).mpr ⟨hcore.symm, hother.symm hv.1, ?_⟩
  have hag := (covers_iff.mp hheader).1
  exact covers_iff.mpr ⟨hag.symm hv.2, fun hmiss => hpart ⟨hcore, hother, hheader, hmiss⟩⟩

/-- The comparison behaves as an equivalence on two URIs if and only if neither repeats a name
with another value and neither is equal to the other up to more header components. -/
theorem compareLaw_iff (context : Context) (u v : Uri) : CompareLaw context u v ↔
      u.Consistent ∧ v.Consistent ∧ ¬ PartOf context u v ∧ ¬ PartOf context v u := by
  have hmissing : ∀ {a b : Uri}, Misses sameName a.headerParam b.headerParam →
      urlCompare context a b ≠ .success := by
    intro a b hmiss h
    exact (covers_iff.mp ((urlCompare_iff context a b).mp h).2.2).2 hmiss
  constructor
  · intro h
    refine ⟨(urlCompare_self_iff context u).mp h.reflLeft, (urlCompare_self_iff context v).mp h.reflRight,
      fun hpart => ?_, fun hpart => ?_⟩
    · have huv := (urlCompare_iff context u v).mpr ⟨hpart.1, hpart.2.1, hpart.2.2.1⟩
      exact hmissing hpart.2.2.2 (h.symm.mp huv)
    · have hvu := (urlCompare_iff context v u).mpr ⟨hpart.1, hpart.2.1, hpart.2.2.1⟩
      exact hmissing hpart.2.2.2 (h.symm.mpr hvu)
  · rintro ⟨hu, hv, huv, hvu⟩
    have hsymm : urlCompare context u v = .success ↔ urlCompare context v u = .success :=
      ⟨symm_of_not_partOf hv huv, symm_of_not_partOf hu hvu⟩
    refine ⟨(urlCompare_self_iff context u).mpr hu, (urlCompare_self_iff context v).mpr hv, hsymm, ?_⟩
    rintro (hmiss | hmiss)
    · exact ⟨hmissing hmiss, fun h => hmissing hmiss (hsymm.mpr h)⟩
    · exact ⟨fun h => hmissing hmiss (hsymm.mp h), hmissing hmiss⟩

def plainUri (otherParam headerParam : List Param) : Uri :=
  ⟨false, lit "a", [], lit "h", 0, [], [], [], -1, [], otherParam, headerParam⟩

/-- "sip:a@h" is equal to "sip:a@h?x=1", which is not equal to it, and "sip:a@h;p=1;p=2" is not
equal to itself. -/
theorem compare_not_symmetric : ¬ CompareLaw .other (plainUri [] []) (plainUri [] [⟨lit "x", lit "1"⟩]) ∧
    urlCompare .other (plainUri [] []) (plainUri [] [⟨lit "x", lit "1"⟩]) = .success ∧
    urlCompare .other (plainUri [] [⟨lit "x", lit "1"⟩]) (plainUri [] []) = .ecmpheaderparam ∧
    urlCompare .other (plainUri [⟨lit "p", lit "1"⟩, ⟨lit "p", lit "2"⟩] [])
      (plainUri [⟨lit "p", lit "1"⟩, ⟨lit "p", lit "2"⟩] []) = .ecmpotherparam := by
  refine ⟨fun h => ?_, by decide, by decide, by decide⟩
  have hsymm := h.symm.mp (by decide)
  revert hsymm
  decide

end PjProject.SipUri
