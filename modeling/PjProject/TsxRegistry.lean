import PjProject.PjHash
import PjProject.TsxTypes

/-!
# The transaction layer's registry

`mod_tsx_layer` keeps every transaction in a table under its transaction key, and a
server transaction also in a second table under a key that identifies merged requests.
The run theorem says exactly when the two tables stay right.
-/
namespace PjProject.TsxRegistry
open Transition

open Transaction (Role Method)

structure SipMethod where
  id : Method
  name : Bytes
  deriving DecidableEq

/-- What the registry reads of a received request. The transport manager has checked
that these headers are there. -/
structure Rdata where
  method : SipMethod
  cseqMethod : SipMethod
  cseq : ℕ
  fromTag : Bytes
  toTag : Bytes
  callId : Bytes
  branch : Bytes
  host : Bytes
  port : ℕ

/-- `pjsip_method_cmp(m1, m2) == 0` -/
def methodCmpEq (m1 m2 : SipMethod) : Bool :=
  m1.id = m2.id && (m1.id ≠ .other || m1.name = m2.name)

def separator : Bytes := lit "$"

def keyHead (role : Role) (method : SipMethod) : Bytes :=
  lit (if role = .uac then "c" else "s") ++ separator ++
    if method.id ≠ .invite ∧ method.id ≠ .ack then method.name ++ lit "$" else []

def createTsxKey2543 (role : Role) (method : SipMethod) (rdata : Rdata) (includeVia : Bool) :
    Bytes :=
  keyHead role method ++ utoa rdata.cseq ++ separator ++ rdata.fromTag ++ separator ++
    rdata.callId ++ separator ++
    (if includeVia then rdata.host ++ lit ":" ++ utoa rdata.port ++ separator else []) ++ [0]

def createTsxKey3261 (role : Role) (method : SipMethod) (branch : Bytes) : Bytes :=
  keyHead role method ++ branch

/-- `PJSIP_RFC3261_BRANCH_ID` -/
def rfc3261Branch : Bytes := lit "z9hG4bK"

def tsxCreateKey (role : Role) (method : SipMethod) (rdata : Rdata) : Bytes :=
  if strnicmpEqLen rdata.branch rfc3261Branch 7 then createTsxKey3261 role method rdata.branch
  else createTsxKey2543 role method rdata true

def Rdata.tsxKey (rdata : Rdata) : Bytes := tsxCreateKey .uas rdata.cseqMethod rdata

def Rdata.mergeKey (rdata : Rdata) : Bytes :=
  createTsxKey2543 .uas rdata.cseqMethod rdata false

/-- The fields of `pjsip_transaction` that the registry uses. A transaction is named by
its position in the list of all that were created. -/
structure Tsx where
  role : Role
  key : Bytes
  key2 : Bytes
  destroyed : Bool

/-- `mod_tsx_layer`, over the way its tables tell keys apart. -/
structure Registry (H : HashTable.Hashing Bytes) where
  tsxs : List Tsx
  htable : HashTable.Table H ℕ
  htable2 : HashTable.Table H ℕ

inductive Err
  | eexists | einvalidop | einvalidhdr | edest
  deriving DecidableEq

variable {H : HashTable.Hashing Bytes}

def initModule (H : HashTable.Hashing Bytes) (maxCount : ℕ) : Registry H :=
  ⟨[], PjHash.create H maxCount, PjHash.create H maxCount⟩

/-- `mod_tsx_layer_register_tsx`: only the first table is checked for the key. -/
def registerTsx (r : Registry H) (t : Tsx) : Except Err (Registry H) :=
  if (r.htable.get t.key).isSome then .error .eexists
  else .ok {
    tsxs := r.tsxs ++ [t]
    htable := r.htable.set t.key (some r.tsxs.length)
    htable2 := if t.role = .uas then r.htable2.set t.key2 (some r.tsxs.length) else r.htable2 }

def unregisterTsx (r : Registry H) (t : Tsx) : Registry H :=
  { r with
    htable := r.htable.set t.key none
    htable2 := if t.role = .uas then r.htable2.set t.key2 none else r.htable2 }

/-- `pjsip_tsx_create_uac2`. `unique` is the string generated for a message without a
branch; `destOk` tells whether the destination of the request could be found. -/
def createUac (r : Registry H) (method : SipMethod) (branch unique : Bytes) (destOk : Bool) :
    Except Err (Registry H) :=
  if method.id = .ack then .error .einvalidop
  else
    let branch := if branch = [] then rfc3261Branch ++ lit "Pj" ++ unique else branch
    if destOk then registerTsx r ⟨.uac, createTsxKey3261 .uac method branch, [], false⟩
    else .error .edest

/-- `pjsip_tsx_create_uas2`. `addrOk` tells whether the response address could be found. -/
def createUas (r : Registry H) (rdata : Rdata) (addrOk : Bool) :
    Except Err (Registry H) :=
  if rdata.method.id = .ack then .error .einvalidop
  else if methodCmpEq rdata.method rdata.cseqMethod = false then .error .einvalidhdr
  else if addrOk then
    registerTsx r ⟨.uas, tsxCreateKey .uas rdata.method rdata,
      createTsxKey2543 .uas rdata.method rdata false, false⟩
  else .error .edest

/-- The transaction reaches `PJSIP_TSX_STATE_DESTROYED`. A transaction that was destroyed
while a transmission was pending gets there a second time when that ends. -/
def destroyTsx (r : Registry H) (i : ℕ) : Registry H :=
  match r.tsxs[i]? with
  | none => r
  | some t => unregisterTsx { r with tsxs := r.tsxs.set i { t with destroyed := true } } t

def detectMergedRequests (r : Registry H) (rdata : Rdata) : Option ℕ :=
  if rdata.toTag.length ≠ 0 then none
  else if (r.htable.get rdata.tsxKey).isSome then none
  else r.htable2.get rdata.mergeKey

inductive Input
  | createUac (method : SipMethod) (branch unique : Bytes) (destOk : Bool)
  | createUas (rdata : Rdata) (addrOk : Bool)
  | destroy (i : ℕ)

def step (r : Registry H) : Input → Registry H
  | .createUac method branch unique destOk =>
    (createUac r method branch unique destOk).toOption.getD r
  | .createUas rdata addrOk => (createUas r rdata addrOk).toOption.getD r
  | .destroy i => destroyTsx r i

/-- Transaction `t`, the `i`-th to be created, is not destroyed yet. -/
def Live (r : Registry H) (i : ℕ) (t : Tsx) : Prop :=
  r.tsxs[i]? = some t ∧ t.destroyed = false

structure Consistent (r : Registry H) : Prop where
  primary : ∀ k i, r.htable.get k = some i ↔ ∃ t, Live r i t ∧ H.same t.key k = true
  unique : ∀ i j t u, Live r i t → Live r j u → H.same t.key u.key = true → i = j
  merged : ∀ i t rdata, Live r i t → t.role = .uas → rdata.toTag = [] →
    (∀ j u, Live r j u → H.same u.key rdata.tsxKey = false) →
    H.same t.key2 rdata.mergeKey = true →
    ∃ j u, detectMergedRequests r rdata = some j ∧ Live r j u

/-- The transaction that is destroyed shares its key with no other live transaction and,
if it is a server transaction, its merge key with no other live server transaction. -/
def Undisturbing (r : Registry H) : Input → Prop
  | .destroy i => ∀ t j u, r.tsxs[i]? = some t → Live r j u → j ≠ i →
      H.same u.key t.key = false ∧
      (t.role = .uas → u.role = .uas → H.same u.key2 t.key2 = false)
  | _ => True

/-- The invariant of the tables: the first maps keys to the live transactions, and the
second, for the merge key of every live server transaction, to some live one. -/
structure Indexed (r : Registry H) : Prop where
  primary : ∀ k i, r.htable.get k = some i ↔ ∃ t, Live r i t ∧ H.same t.key k = true
  mergeLive : ∀ k j, r.htable2.get k = some j →
    ∃ u, Live r j u ∧ u.role = .uas ∧ H.same u.key2 k = true
  mergeHas : ∀ i t, Live r i t → t.role = .uas → ∃ j, r.htable2.get t.key2 = some j

variable {r : Registry H}

lemma Indexed.consistent (h : Indexed r) : Consistent r where
  primary := h.primary
  unique := by
    intro i j t u ht hu hs
    have hi := (h.primary u.key i).2 ⟨t, ht, hs⟩
    have hj := (h.primary u.key j).2 ⟨u, hu, H.same_refl _⟩
    rw [hi] at hj
    simpa using hj
  merged := by
    intro i t rdata ht hrole htag hnew hmerge
    have hnone : r.htable.get rdata.tsxKey = none := by
      cases hg : r.htable.get rdata.tsxKey with
      | none => rfl
      | some j =>
        obtain ⟨u, hu, hs⟩ := (h.primary _ _).1 hg
        rw [hnew j u hu] at hs
        simp at hs
    obtain ⟨j, hj⟩ := h.mergeHas i t ht hrole
    rw [r.htable2.get_congr hmerge] at hj
    obtain ⟨u, hu, -, -⟩ := h.mergeLive _ _ hj
    refine ⟨j, u, ?_, hu⟩
    simp [detectMergedRequests, htag, hnone, hj]

lemma initModule_indexed (H : HashTable.Hashing Bytes) (maxCount : ℕ) :
    Indexed (initModule H maxCount) where
  primary := by simp [initModule, PjHash.create, Live]
  mergeLive := by simp [initModule, PjHash.create]
  mergeHas := by simp [initModule, Live]

lemma registerTsx_cases (r : Registry H) (t : Tsx) : (registerTsx r t).toOption.getD r = r ∨
    registerTsx r t = .ok ((registerTsx r t).toOption.getD r) := by
  cases registerTsx r t with
  | error e => exact .inl rfl
  | ok r' => exact .inr rfl

lemma step_cases (r : Registry H) (inp : Input) : step r inp = r ∨
    (∃ t, t.destroyed = false ∧ (t.role = .uas → ∃ rdata : Rdata, t.key2 = rdata.mergeKey) ∧
      registerTsx r t = .ok (step r inp)) ∨ (∃ i t, inp = .destroy i ∧ r.tsxs[i]? = some t ∧ step r inp =
      unregisterTsx { r with tsxs := r.tsxs.set i { t with destroyed := true } } t) := by
  cases inp with
  | createUac method branch unique destOk =>
    simp only [step, createUac]
    split_ifs
    · exact .inl rfl
    all_goals first
      | exact .inl rfl
      | exact (registerTsx_cases r _).imp_right fun h => .inl ⟨_, rfl, by simp, h⟩
  | createUas rdata addrOk =>
    simp only [step, createUas]
    split_ifs
    · exact .inl rfl
    · exact .inl rfl
    · refine (registerTsx_cases r _).imp_right fun h => .inl ⟨_, rfl, fun _ => ?_, h⟩
      exact ⟨{ rdata with cseqMethod := rdata.method }, rfl⟩
    · exact .inl rfl
  | destroy i =>
    simp only [step, destroyTsx]
    cases ht : r.tsxs[i]? with
    | none => exact .inl rfl
    | some t => exact .inr (.inr ⟨i, t, rfl, ht, rfl⟩)

variable {t : Tsx}

lemma registerTsx_ok {r' : Registry H} (h : registerTsx r t = .ok r') (hd : t.destroyed = false) :
    r.htable.get t.key = none ∧ r'.tsxs = r.tsxs ++ [t] ∧
    r'.htable = r.htable.set t.key (some r.tsxs.length) ∧
    r'.htable2 = (if t.role = .uas then r.htable2.set t.key2 (some r.tsxs.length) else r.htable2) ∧
    ∀ i u, Live r' i u ↔ Live r i u ∨ (i = r.tsxs.length ∧ u = t) := by
  unfold registerTsx at h
  by_cases hg : (r.htable.get t.key).isSome = true
  · rw [if_pos hg] at h
    cases h
  rw [if_neg hg] at h
  cases h
  refine ⟨by simpa using hg, rfl, rfl, rfl, fun i u => ?_⟩
  simp only [Live, List.getElem?_append, List.getElem?_singleton]
  split_ifs with hi hi'
  · constructor
    · exact .inl
    · rintro (h | ⟨rfl, -⟩)
      · exact h
      · omega
  · have hn : r.tsxs[i]? = none := List.getElem?_eq_none (by omega)
    have hii : i = r.tsxs.length := by omega
    constructor
    · rintro ⟨h, -⟩
      simp only [Option.some.injEq] at h
      exact .inr ⟨hii, h.symm⟩
    · rintro (⟨h, -⟩ | ⟨-, rfl⟩)
      · rw [hn] at h
        cases h
      · exact ⟨rfl, hd⟩
  · have hn : r.tsxs[i]? = none := List.getElem?_eq_none (by omega)
    simp only [hn, reduceCtorEq, false_and, false_or, false_iff]
    omega

lemma registerTsx_indexed {r' : Registry H} (hr : Indexed r)
    (h : registerTsx r t = .ok r') (hd : t.destroyed = false) : Indexed r' := by
  obtain ⟨hnew, -, h1, h2, hlive⟩ := registerTsx_ok h hd
  have hfresh : ∀ u, ¬ Live r r.tsxs.length u := by
    intro u hu
    simp [Live] at hu
  refine ⟨fun k i => ?_, fun k j hj => ?_, fun i u hu hrole => ?_⟩
  · rw [h1, HashTable.Table.get_set]
    by_cases hk : H.same t.key k = true
    · rw [if_pos hk]
      constructor
      · intro hi
        simp only [Option.some.injEq] at hi
        exact ⟨t, (hlive i t).2 (.inr ⟨hi.symm, rfl⟩), hk⟩
      · rintro ⟨u, hu, hs⟩
        rcases (hlive i u).1 hu with hu | ⟨rfl, -⟩
        · -- an older transaction with this key would have been found
          have := (hr.primary t.key i).2 ⟨u, hu, H.same_trans hs (H.same_symm hk)⟩
          rw [hnew] at this
          cases this
        · rfl
    · rw [if_neg hk, hr.primary]
      constructor
      · rintro ⟨u, hu, hs⟩
        exact ⟨u, (hlive i u).2 (.inl hu), hs⟩
      · rintro ⟨u, hu, hs⟩
        rcases (hlive i u).1 hu with hu | ⟨-, rfl⟩
        · exact ⟨u, hu, hs⟩
        · exact absurd hs hk
  · rw [h2] at hj
    split_ifs at hj with hrole
    · rw [HashTable.Table.get_set] at hj
      split_ifs at hj with hk
      · simp only [Option.some.injEq] at hj
        exact ⟨t, (hlive j t).2 (.inr ⟨hj.symm, rfl⟩), hrole, hk⟩
      · obtain ⟨u, hu, hrest⟩ := hr.mergeLive k j hj
        exact ⟨u, (hlive j u).2 (.inl hu), hrest⟩
    · obtain ⟨u, hu, hrest⟩ := hr.mergeLive k j hj
      exact ⟨u, (hlive j u).2 (.inl hu), hrest⟩
  · rw [h2]
    rcases (hlive i u).1 hu with hu | ⟨-, rfl⟩
    · obtain ⟨j, hj⟩ := hr.mergeHas i u hu hrole
      split_ifs
      · rw [HashTable.Table.get_set]
        split_ifs
        · exact ⟨_, rfl⟩
        · exact ⟨j, hj⟩
      · exact ⟨j, hj⟩
    · rw [if_pos hrole, HashTable.Table.get_set, if_pos (H.same_refl _)]
      exact ⟨_, rfl⟩

variable {i : ℕ}

lemma destroyTsx_live (ht : r.tsxs[i]? = some t) (j : ℕ) (u : Tsx) : Live (unregisterTsx { r with
      tsxs := r.tsxs.set i { t with destroyed := true } } t) j u ↔ Live r j u ∧ j ≠ i := by
  have hi : i < r.tsxs.length := (List.getElem?_eq_some_iff.1 ht).1
  simp only [Live, unregisterTsx, List.getElem?_set]
  split_ifs with hij
  · constructor
    · rintro ⟨h, hd⟩
      simp only [Option.some.injEq] at h
      rw [← h] at hd
      cases hd
    · rintro ⟨-, hne⟩
      exact absurd hij.symm hne
  · constructor
    · exact fun h => ⟨h, Ne.symm hij⟩
    · exact fun h => h.1

lemma destroyTsx_indexed (hr : Indexed r) (ht : r.tsxs[i]? = some t) (hu : Undisturbing r (.destroy i)) :
    Indexed (unregisterTsx { r with tsxs := r.tsxs.set i { t with destroyed := true } } t) := by
  have hlive := destroyTsx_live (r := r) ht
  refine ⟨fun k j => ?_, fun k j hj => ?_, fun j u hl hrole => ?_⟩
  · simp only [hlive]
    simp only [unregisterTsx, HashTable.Table.get_set]
    by_cases hk : H.same t.key k = true
    · rw [if_pos hk]
      simp only [reduceCtorEq, false_iff, not_exists]
      rintro u ⟨⟨hl, hne⟩, hs⟩
      have := (hu t j u ht hl hne).1
      rw [H.same_trans hs (H.same_symm hk)] at this
      cases this
    · rw [if_neg hk, hr.primary]
      constructor
      · rintro ⟨u, hl, hs⟩
        refine ⟨u, ⟨hl, ?_⟩, hs⟩
        rintro rfl
        have : u = t := by simpa [ht] using hl.1.symm
        exact hk (this ▸ hs)
      · rintro ⟨u, ⟨hl, -⟩, hs⟩
        exact ⟨u, hl, hs⟩
  · simp only [hlive]
    simp only [unregisterTsx] at hj
    split_ifs at hj with hrole
    · rw [HashTable.Table.get_set] at hj
      split_ifs at hj with hk
      obtain ⟨u, hl, hrole', hs⟩ := hr.mergeLive k j hj
      refine ⟨u, ⟨hl, ?_⟩, hrole', hs⟩
      rintro rfl
      have : u = t := by simpa [ht] using hl.1.symm
      exact hk (this ▸ hs)
    · obtain ⟨u, hl, hrole', hs⟩ := hr.mergeLive k j hj
      refine ⟨u, ⟨hl, ?_⟩, hrole', hs⟩
      rintro rfl
      have : u = t := by simpa [ht] using hl.1.symm
      exact hrole (this ▸ hrole')
  · obtain ⟨hl, hne⟩ := (hlive j u).1 hl
    obtain ⟨m, hm⟩ := hr.mergeHas j u hl hrole
    simp only [unregisterTsx]
    split_ifs with hrole'
    · have hk := (hu t j u ht hl hne).2 hrole' hrole
      rw [HashTable.Table.get_set, if_neg]
      · exact ⟨m, hm⟩
      · intro hs
        rw [H.same_symm hs] at hk
        cases hk
    · exact ⟨m, hm⟩

lemma step_indexed (r : Registry H) (inp : Input) (hr : Indexed r) (hu : Undisturbing r inp) :
    Indexed (step r inp) := by
  rcases step_cases r inp with h | ⟨t, hd, -, h⟩ | ⟨i, t, rfl, ht, h⟩
  · rw [h]
    exact hr
  · exact registerTsx_indexed hr h hd
  · rw [h]
    exact destroyTsx_indexed hr ht hu

def Made (r : Registry H) : Prop :=
  ∀ t ∈ r.tsxs, t.role = .uas → ∃ rdata : Rdata, t.key2 = rdata.mergeKey

lemma step_made (r : Registry H) (inp : Input) (hr : Made r) : Made (step r inp) := by
  rcases step_cases r inp with h | ⟨t, hd, hk, h⟩ | ⟨i, t, rfl, ht, h⟩
  · rw [h]
    exact hr
  · obtain ⟨-, hts, -⟩ := registerTsx_ok h hd
    intro u hu
    rw [hts, List.mem_append, List.mem_singleton] at hu
    rcases hu with hu | rfl
    · exact hr u hu
    · exact hk
  · rw [h]
    intro u hu
    rcases List.mem_or_eq_of_mem_set hu with hu | rfl
    · exact hr u hu
    · exact hr t (List.mem_of_getElem? ht)

def Rdata.fork (rdata : Rdata) (r : Registry H) : Rdata :=
  { rdata with
    toTag := []
    branch := rfc3261Branch ++ List.replicate ((r.tsxs.map (·.key.length)).sum + 1) 97 }

lemma fork_tsxKey_length (rdata : Rdata) (r : Registry H) (ht : t ∈ r.tsxs) :
    t.key.length < (rdata.fork r).tsxKey.length := by
  have hbranch : strnicmpEqLen (rdata.fork r).branch rfc3261Branch 7 = true := by
    have htake : (rdata.fork r).branch.take 7 = rfc3261Branch := rfl
    rw [strnicmpEqLen, htake]
    exact stricmpEq_refl _
  have hsum : t.key.length ≤ (r.tsxs.map (·.key.length)).sum :=
    List.single_le_sum (by simp) _ (List.mem_map.2 ⟨t, ht, rfl⟩)
  rw [Rdata.tsxKey, tsxCreateKey, if_pos hbranch]
  simp only [createTsxKey3261, Rdata.fork, List.length_append, List.length_replicate]
  omega

lemma destroyTsx_disturbs {k0 k1 : UInt64} {r : Registry (PjHash.lowerHashing k0 k1)}
    (hm : Made r) (hu : ¬ Undisturbing r (.destroy i)) : ¬ Consistent (step r (.destroy i)) := by
  intro hc
  simp only [Undisturbing, not_forall] at hu
  obtain ⟨t, j, u, ht, hl, hne, hu⟩ := hu
  have hstep : step r (.destroy i) =
      unregisterTsx { r with tsxs := r.tsxs.set i { t with destroyed := true } } t := by
    simp [step, destroyTsx, ht]
  rw [hstep] at hc
  have hlive := destroyTsx_live (r := r) ht
  have hl' := (hlive j u).2 ⟨hl, hne⟩
  by_cases hkey : (PjHash.lowerHashing k0 k1).same u.key t.key = true
  · have hget := (hc.primary u.key j).2 ⟨u, hl', HashTable.Hashing.same_refl _ _⟩
    simp only [unregisterTsx, HashTable.Table.get_set, HashTable.Hashing.same_symm _ hkey,
      if_true] at hget
    cases hget
  · obtain ⟨hrole, hrole', hkey2⟩ : t.role = .uas ∧ u.role = .uas ∧
        (PjHash.lowerHashing k0 k1).same u.key2 t.key2 = true := by
      simpa [hkey] using hu
    obtain ⟨rdata, hrd⟩ := hm u (List.mem_of_getElem? hl.1) hrole'
    have hmk : (rdata.fork r).mergeKey = u.key2 := hrd.symm
    have hnew : ∀ m v, Live (unregisterTsx { r with
        tsxs := r.tsxs.set i { t with destroyed := true } } t) m v →
        (PjHash.lowerHashing k0 k1).same v.key (rdata.fork r).tsxKey = false := by
      intro m v hv
      have hlt := fork_tsxKey_length rdata r (List.mem_of_getElem? ((hlive m v).1 hv).1.1)
      by_contra hs
      have := PjHash.length_eq_of_same (by simpa using hs)
      omega
    have hmerge : (PjHash.lowerHashing k0 k1).same u.key2 (rdata.fork r).mergeKey = true := by
      rw [hmk]
      exact HashTable.Hashing.same_refl _ _
    obtain ⟨m, v, hd, -⟩ := hc.merged j u (rdata.fork r) hl' hrole' rfl hnew hmerge
    have hsame := HashTable.Hashing.same_symm _ hkey2
    simp only [detectMergedRequests, unregisterTsx, hrole, if_true, hmk,
      HashTable.Table.get_set, hsame] at hd
    split_ifs at hd

/-- The two tables are right in every state that a run from the initialised module reaches
if and only if no destruction of the run disturbs another live transaction. -/
theorem run_consistent_iff (k0 k1 : UInt64) (maxCount : ℕ) (es : List Input) :
    (∀ pre, pre <+: es → Consistent (run step (initModule (PjHash.lowerHashing k0 k1) maxCount) pre)) ↔
    Guarded step Undisturbing (initModule (PjHash.lowerHashing k0 k1) maxCount) es := by
  constructor
  · have key : ∀ (es : List Input) (r : Registry (PjHash.lowerHashing k0 k1)), Made r →
        (∀ pre, pre <+: es → Consistent (run step r pre)) →
        Guarded step Undisturbing r es := by
      intro es
      induction es with
      | nil => exact fun _ _ _ => trivial
      | cons inp es ih =>
        intro r hm hall
        refine ⟨?_, ih _ (step_made r inp hm) fun pre hpre => ?_⟩
        · by_contra hu
          cases inp with
          | destroy i => exact destroyTsx_disturbs hm hu (hall [.destroy i] (by simp))
          | createUac method branch unique destOk => exact hu trivial
          | createUas rdata addrOk => exact hu trivial
        · exact hall (inp :: pre) (by simpa using hpre)
    exact key es _ (by simp [Made, initModule])
  · rintro hg pre ⟨rest, rfl⟩
    have hpre := (Guarded.append hg).1
    exact (Guarded.invariant step_indexed (initModule_indexed _ _) hpre).consistent

/-- An INVITE that reached this server over two paths: two requests that differ in the
branch of their topmost Via only. -/
def forkedInvite (branch : String) : Rdata where
  method := ⟨.invite, lit "INVITE"⟩
  cseqMethod := ⟨.invite, lit "INVITE"⟩
  cseq := 1
  fromTag := lit "a"
  toTag := []
  callId := lit "c"
  branch := lit branch
  host := lit "h"
  port := 5060

/-- Both INVITEs get a transaction and the first one ends. A third copy is then not
recognised, though the second transaction goes on. -/
theorem forkedInvite_inconsistent : ¬ ∀ es : List Input,
      Consistent (run step (initModule (PjHash.lowerHashing 0 0) 1023) es) := by
  intro hall
  have h := hall [.createUas (forkedInvite "z9hG4bK1") true,
    .createUas (forkedInvite "z9hG4bK2") true, .destroy 0]
  generalize hr : run step (initModule (PjHash.lowerHashing 0 0) 1023)
    [.createUas (forkedInvite "z9hG4bK1") true, .createUas (forkedInvite "z9hG4bK2") true,
      .destroy 0] = r at h
  have hts : r.tsxs = [⟨.uas, (forkedInvite "z9hG4bK1").tsxKey, (forkedInvite "").mergeKey, true⟩,
      ⟨.uas, (forkedInvite "z9hG4bK2").tsxKey, (forkedInvite "").mergeKey, false⟩] := by
    rw [← hr]
    rfl
  have hd : detectMergedRequests r (forkedInvite "z9hG4bK3") = none := by
    rw [← hr]
    decide +kernel
  have hnew : ∀ j u, Live r j u →
      (PjHash.lowerHashing 0 0).same u.key (forkedInvite "z9hG4bK3").tsxKey = false := by
    rintro j u ⟨hj, hu⟩
    rw [hts] at hj
    rcases j with _ | _ | j
    · simp [← Option.some.inj hj] at hu
    · rw [← Option.some.inj hj]
      decide +kernel
    · simp at hj
  have hlive : Live r 1 ⟨.uas, (forkedInvite "z9hG4bK2").tsxKey, (forkedInvite "").mergeKey,
      false⟩ := ⟨by rw [hts]; rfl, rfl⟩
  have hsame : (PjHash.lowerHashing 0 0).same (forkedInvite "").mergeKey
      (forkedInvite "z9hG4bK3").mergeKey = true :=
    PjHash.lowerHashing_same rfl
  obtain ⟨j, u, hj, -⟩ := h.merged 1 _ (forkedInvite "z9hG4bK3") hlive rfl rfl hnew hsame
  rw [hd] at hj
  cases hj

end PjProject.TsxRegistry
