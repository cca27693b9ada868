import PjProject.TsxRegistry

/-!
# What a transaction key identifies

Both key formats are fields joined by `$`. Fields without `$` can be read back from
the text, so two keys agree exactly when the formats and the fields do, up to letter
case.
-/
namespace PjProject.TsxRegistry

open Transaction (Role Method)

/-! ## Fields joined by a separator -/

lemma append_cons_last_inj {α : Type*} {x : α} {a a' b b' : List α} (hb : x ∉ b)
    (hb' : x ∉ b') (h : a ++ x :: b = a' ++ x :: b') : a = a' ∧ b = b' := by
  rcases List.append_eq_append_iff.1 h with ⟨c, rfl, hc⟩ | ⟨c, rfl, hc⟩
  · cases c with
    | nil => simpa using hc
    | cons y c =>
      obtain ⟨-, rfl⟩ := List.cons_eq_cons.1 hc
      simp at hb
  · cases c with
    | nil => simpa [eq_comm] using hc
    | cons y c =>
      obtain ⟨-, rfl⟩ := List.cons_eq_cons.1 hc
      simp at hb'

lemma intercalate_inj {α : Type*} [DecidableEq α] {x : α} {l m : List (List α)}
    (hl : ∀ f ∈ l, x ∉ f) (hm : ∀ f ∈ m, x ∉ f) (hl0 : l ≠ []) (hm0 : m ≠ [])
    (h : [x].intercalate l = [x].intercalate m) : l = m := by
  rw [← List.splitOn_intercalate x hl hl0, ← List.splitOn_intercalate x hm hm0, h]

/-! ## Letter case and numbers -/

lemma toLower_eq_of_lt {c d : UInt8} (hd : d < 65) : toLower c = d ↔ c = d := by
  unfold toLower
  split_ifs with h
  · obtain ⟨h1, h2⟩ := h
    rw [UInt8.le_iff_toNat_le] at h1 h2
    rw [UInt8.lt_iff_toNat_lt] at hd
    simp only [UInt8.reduceToNat] at h1 h2 hd
    constructor
    · intro hc
      have := congrArg UInt8.toNat hc
      simp only [UInt8.toNat_add, UInt8.reduceToNat] at this
      omega
    · rintro rfl
      omega
  · exact Iff.rfl

variable {s : Bytes}

lemma mem_lowerAll_of_lt {d : UInt8} (hd : d < 65) : d ∈ lowerAll s ↔ d ∈ s := by
  simp only [lowerAll, List.mem_map, toLower_eq_of_lt hd, exists_eq_right]

lemma lowerAll_utoa (n : ℕ) : lowerAll (utoa n) = utoa n := by
  have hd := utoa_digits n
  generalize utoa n = s at hd
  induction s with
  | nil => rfl
  | cons c s ih =>
    have hc := hd c List.mem_cons_self
    have hlow : toLower c = c := by
      simp only [isDigit, Bool.and_eq_true, decide_eq_true_eq, UInt8.le_iff_toNat_le] at hc
      simp only [toLower, UInt8.le_iff_toNat_le]
      rw [if_neg (by simp only [UInt8.reduceToNat] at hc ⊢; omega)]
    rw [lowerAll_cons, hlow, ih fun d h => hd d (List.mem_cons_of_mem c h)]

lemma digit_inj {d e : ℕ} (hd : d < 10) (he : e < 10)
    (h : UInt8.ofNat (48 + d) = UInt8.ofNat (48 + e)) : d = e := by
  rw [← (isDigit_digit hd).2, ← (isDigit_digit he).2, h]

lemma utoa_injective : Function.Injective utoa := by
  have key : ∀ l m : List ℕ, (∀ d ∈ l, d < 10) → (∀ d ∈ m, d < 10) →
      (l.map fun d => UInt8.ofNat (48 + d)) = m.map (fun d => UInt8.ofNat (48 + d)) → l = m := by
    intro l
    induction l with
    | nil =>
      intro m _ _ h
      exact (List.map_eq_nil_iff.1 h.symm).symm
    | cons d l ih =>
      intro m hl hm h
      cases m with
      | nil => simp at h
      | cons e m =>
        simp only [List.map_cons, List.cons.injEq] at h
        rw [digit_inj (hl d List.mem_cons_self) (hm e List.mem_cons_self) h.1,
          ih m (fun d h => hl d (List.mem_cons_of_mem _ h))
            (fun d h => hm d (List.mem_cons_of_mem _ h)) h.2]
  have hshape : ∀ n, utoa n =
      (if n = 0 then [0] else (Nat.digits 10 n).reverse).map fun d => UInt8.ofNat (48 + d) := by
    intro n
    unfold utoa
    split_ifs <;> rfl
  have hlt : ∀ n, ∀ d ∈ (if n = 0 then [0] else (Nat.digits 10 n).reverse), d < 10 := by
    intro n d hd
    split_ifs at hd
    · simp at hd
      omega
    · exact Nat.digits_lt_base (by norm_num) (List.mem_reverse.1 hd)
  intro n m h
  rw [hshape, hshape] at h
  have heq := key _ _ (hlt n) (hlt m) h
  split_ifs at heq with hn hm hm
  · rw [hn, hm]
  · have := congrArg (Nat.ofDigits 10 ·.reverse) heq
    simpa [Nat.ofDigits_digits, hn] using this
  · have := congrArg (Nat.ofDigits 10 ·.reverse) heq
    simpa [Nat.ofDigits_digits, hm] using this
  · exact Nat.digits_inj_iff.1 (List.reverse_injective heq)

/-! ## The two formats as joined fields -/

/-- `method_names`, in the order of their ids. -/
def methodNames : List (Method × Bytes) :=
  [(.invite, lit "INVITE"), (.cancel, lit "CANCEL"), (.ack, lit "ACK"), (.bye, lit "BYE"),
    (.register, lit "REGISTER"), (.options, lit "OPTIONS")]

def methodInitNp (str : Bytes) : SipMethod :=
  match methodNames.find? fun p => stricmpEq str p.2 with
  | some p => ⟨p.1, p.2⟩
  | none => ⟨.other, str⟩

def methodField (method : SipMethod) : List Bytes :=
  if method.id ≠ .invite ∧ method.id ≠ .ack then [method.name] else []

def roleField (role : Role) : Bytes := lit (if role = .uac then "c" else "s")

def fields2543 (role : Role) (method : SipMethod) (rdata : Rdata) : List Bytes :=
  roleField role :: methodField method ++ [utoa rdata.cseq, rdata.fromTag, rdata.callId,
    rdata.host ++ 58 :: utoa rdata.port, [0]]

def fields3261 (role : Role) (method : SipMethod) (branch : Bytes) : List Bytes :=
  roleField role :: methodField method ++ [branch]

variable (role : Role)

lemma createTsxKey2543_eq (method : SipMethod) (rdata : Rdata) :
    createTsxKey2543 role method rdata true = [36].intercalate (fields2543 role method rdata) := by
  have hsep : lit "$" = [36] := by decide
  have hcolon : lit ":" = [58] := by decide
  unfold createTsxKey2543 keyHead fields2543 methodField roleField separator
  by_cases h : method.id ≠ .invite ∧ method.id ≠ .ack
  · simp [h, hsep, hcolon, List.intercalate]
  · simp [h, hsep, hcolon, List.intercalate]

lemma createTsxKey3261_eq (method : SipMethod) (branch : Bytes) :
    createTsxKey3261 role method branch = [36].intercalate (fields3261 role method branch) := by
  have hsep : lit "$" = [36] := by decide
  unfold createTsxKey3261 keyHead fields3261 methodField roleField separator
  by_cases h : method.id ≠ .invite ∧ method.id ≠ .ack
  · simp [h, hsep, List.intercalate]
  · simp [h, hsep, List.intercalate]

/-! ## Fields up to letter case -/

lemma lowerAll_intercalate (l : List Bytes) :
    lowerAll ([36].intercalate l) = [36].intercalate (l.map lowerAll) := by
  have hsep : lowerAll [36] = [36] := by decide
  induction l with
  | nil => rfl
  | cons f l ih =>
    cases l with
    | nil => simp [List.intercalate]
    | cons g l =>
      simp only [List.intercalate, List.intersperse_cons_cons, List.flatten_cons, List.map_cons,
        lowerAll_append, hsep] at ih ⊢
      rw [ih]

/-- The branch starts with `z9hG4bK`, in any letter case. -/
def IsRfc3261 (branch : Bytes) : Prop := lowerAll (branch.take 7) = lowerAll rfc3261Branch

lemma isRfc3261_iff (branch : Bytes) : strnicmpEqLen branch rfc3261Branch 7 = true ↔ IsRfc3261 branch := by
  have htake : rfc3261Branch.take 7 = rfc3261Branch := by decide
  unfold strnicmpEqLen IsRfc3261
  rw [htake]
  exact stricmpEq_iff (by decide)

lemma methodNames_nul (p : Method × Bytes) (hp : p ∈ methodNames) : (0 : UInt8) ∉ p.2 := by
  revert p
  decide

lemma methodInitNp_name (str : Bytes) : lowerAll (methodInitNp str).name = lowerAll str := by
  unfold methodInitNp
  split
  next p hp =>
    have hcmp := List.find?_some hp
    exact ((stricmpEq_iff (methodNames_nul p (List.mem_of_find?_eq_some hp))).1 hcmp).symm
  next => rfl

lemma methodInitNp_id {t : Bytes} (h : lowerAll s = lowerAll t) :
    (methodInitNp s).id = (methodInitNp t).id := by
  have hfind : methodNames.find? (fun p => stricmpEq s p.2) =
      methodNames.find? (fun p => stricmpEq t p.2) := by
    refine List.find?_congr fun p hp => ?_
    rw [Bool.eq_iff_iff, stricmpEq_iff (methodNames_nul p hp),
      stricmpEq_iff (methodNames_nul p hp), h]
  unfold methodInitNp
  rw [hfind]
  cases methodNames.find? (fun p => stricmpEq t p.2) <;> rfl

def SameMethod (m m' : SipMethod) : Prop :=
  (m.id = .invite ∨ m.id = .ack) ∧ (m'.id = .invite ∨ m'.id = .ack) ∨
    lowerAll m.name = lowerAll m'.name

lemma methodField_eq_iff (s t : Bytes) :
    (methodField (methodInitNp s)).map lowerAll = (methodField (methodInitNp t)).map lowerAll ↔
      SameMethod (methodInitNp s) (methodInitNp t) := by
  have hid : lowerAll (methodInitNp s).name = lowerAll (methodInitNp t).name →
      (methodInitNp s).id = (methodInitNp t).id := by
    intro h
    rw [methodInitNp_name, methodInitNp_name] at h
    exact methodInitNp_id h
  unfold methodField SameMethod
  by_cases hs : (methodInitNp s).id = .invite ∨ (methodInitNp s).id = .ack
  · have hs' : ¬ ((methodInitNp s).id ≠ .invite ∧ (methodInitNp s).id ≠ .ack) := by tauto
    by_cases ht : (methodInitNp t).id = .invite ∨ (methodInitNp t).id = .ack
    · have ht' : ¬ ((methodInitNp t).id ≠ .invite ∧ (methodInitNp t).id ≠ .ack) := by tauto
      simp [hs, ht, hs', ht']
    · have ht' : (methodInitNp t).id ≠ .invite ∧ (methodInitNp t).id ≠ .ack := by tauto
      have hne : ¬ lowerAll (methodInitNp s).name = lowerAll (methodInitNp t).name :=
        fun h => ht (hid h ▸ hs)
      simp [hs', ht', hne]
  · have hs' : (methodInitNp s).id ≠ .invite ∧ (methodInitNp s).id ≠ .ack := by tauto
    by_cases ht : (methodInitNp t).id = .invite ∨ (methodInitNp t).id = .ack
    · have ht' : ¬ ((methodInitNp t).id ≠ .invite ∧ (methodInitNp t).id ≠ .ack) := by tauto
      have hne : ¬ lowerAll (methodInitNp s).name = lowerAll (methodInitNp t).name :=
        fun h => hs (hid h ▸ ht)
      simp [hs', ht', hne]
    · have ht' : (methodInitNp t).id ≠ .invite ∧ (methodInitNp t).id ≠ .ack := by tauto
      simp [hs', ht']

/-! ## What a key identifies -/

structure Plain (name : Bytes) (rdata : Rdata) : Prop where
  name : (36 : UInt8) ∉ name
  fromTag : (36 : UInt8) ∉ rdata.fromTag
  callId : (36 : UInt8) ∉ rdata.callId
  host : (36 : UInt8) ∉ rdata.host
  branch : (36 : UInt8) ∉ rdata.branch

lemma not_mem_utoa {c : UInt8} (hc : isDigit c = false) (n : ℕ) : c ∉ utoa n := by
  intro h
  rw [utoa_digits n c h] at hc
  cases hc

variable {name : Bytes} {rdata : Rdata}

lemma Plain.methodField (h : Plain name rdata) :
    ∀ f ∈ (methodField (methodInitNp name)).map lowerAll, (36 : UInt8) ∉ f := by
  intro f hf
  obtain ⟨g, hg, rfl⟩ := List.mem_map.1 hf
  unfold TsxRegistry.methodField at hg
  split_ifs at hg
  · obtain rfl := List.mem_singleton.1 hg
    rw [methodInitNp_name, mem_lowerAll_of_lt (by decide)]
    exact h.name
  · simp at hg

lemma roleField_plain : (36 : UInt8) ∉ lowerAll (roleField role) := by
  cases role <;> decide

lemma Plain.fields2543 (h : Plain name rdata) (role : Role) :
    ∀ f ∈ (fields2543 role (methodInitNp name) rdata).map lowerAll, (36 : UInt8) ∉ f := by
  have hport : (36 : UInt8) ∉ rdata.host ++ 58 :: utoa rdata.port := by
    simp [h.host, not_mem_utoa (by decide : isDigit 36 = false)]
  intro f hf
  simp only [TsxRegistry.fields2543, List.map_cons, List.map_append, List.map_nil, List.mem_cons,
    List.mem_append, List.not_mem_nil, or_false] at hf
  rcases hf with (rfl | hf) | rfl | rfl | rfl | rfl | rfl
  · exact roleField_plain role
  · exact h.methodField f hf
  · rw [mem_lowerAll_of_lt (by decide)]
    exact not_mem_utoa (by decide) _
  · rw [mem_lowerAll_of_lt (by decide)]
    exact h.fromTag
  · rw [mem_lowerAll_of_lt (by decide)]
    exact h.callId
  · rw [mem_lowerAll_of_lt (by decide)]
    exact hport
  · decide

lemma Plain.fields3261 (h : Plain name rdata) (role : Role) :
    ∀ f ∈ (fields3261 role (methodInitNp name) rdata.branch).map lowerAll, (36 : UInt8) ∉ f := by
  intro f hf
  simp only [TsxRegistry.fields3261, List.map_cons, List.map_append, List.map_nil, List.mem_cons,
    List.mem_append, List.not_mem_nil, or_false] at hf
  rcases hf with (rfl | hf) | rfl
  · exact roleField_plain role
  · exact h.methodField f hf
  · rw [mem_lowerAll_of_lt (by decide)]
    exact h.branch

def SameDialogFields (a b : Rdata) : Prop :=
  a.cseq = b.cseq ∧ lowerAll a.fromTag = lowerAll b.fromTag ∧
    lowerAll a.callId = lowerAll b.callId ∧ lowerAll a.host = lowerAll b.host ∧ a.port = b.port

lemma sentBy_eq_iff (a b : Rdata) :
    lowerAll (a.host ++ 58 :: utoa a.port) = lowerAll (b.host ++ 58 :: utoa b.port) ↔
      lowerAll a.host = lowerAll b.host ∧ a.port = b.port := by
  have hcolon : toLower 58 = 58 := by decide
  have hno : ∀ n, (58 : UInt8) ∉ utoa n := not_mem_utoa (by decide)
  simp only [lowerAll_append, lowerAll_cons, lowerAll_utoa, hcolon]
  constructor
  · intro h
    obtain ⟨hhost, hport⟩ := append_cons_last_inj (hno _) (hno _) h
    exact ⟨hhost, utoa_injective hport⟩
  · rintro ⟨hhost, hport⟩
    rw [hhost, hport]

lemma roleField_eq_iff (role' : Role) :
    lowerAll (roleField role) = lowerAll (roleField role') ↔ role = role' := by
  cases role <;> cases role' <;> decide

lemma methodField_length_le (method : SipMethod) : (methodField method).length ≤ 1 := by
  unfold methodField
  split_ifs <;> simp

lemma fields2543_eq_iff (role' : Role) (s t : Bytes) (a b : Rdata) :
    (fields2543 role (methodInitNp s) a).map lowerAll = (fields2543 role' (methodInitNp t) b).map lowerAll ↔
    role = role' ∧ SameMethod (methodInitNp s) (methodInitNp t) ∧ SameDialogFields a b := by
  unfold fields2543 SameDialogFields
  simp only [List.map_cons, List.map_append, List.map_nil, List.cons_append, List.cons.injEq,
    roleField_eq_iff]
  rw [← methodField_eq_iff, ← sentBy_eq_iff]
  constructor
  · rintro ⟨hrole, h⟩
    obtain ⟨hm, hrest⟩ := List.append_inj' h rfl
    simp only [List.cons.injEq, and_true] at hrest
    obtain ⟨hcseq, htag, hcid, hvia⟩ := hrest
    rw [lowerAll_utoa, lowerAll_utoa] at hcseq
    exact ⟨hrole, hm, utoa_injective hcseq, htag, hcid, hvia⟩
  · rintro ⟨hrole, hm, hcseq, htag, hcid, hvia⟩
    exact ⟨hrole, by rw [hm, hcseq, htag, hcid, hvia]⟩

lemma fields3261_eq_iff (role' : Role) (s t a b : Bytes) : (fields3261 role (methodInitNp s) a).map lowerAll =
      (fields3261 role' (methodInitNp t) b).map lowerAll ↔
    role = role' ∧ SameMethod (methodInitNp s) (methodInitNp t) ∧ lowerAll a = lowerAll b := by
  unfold fields3261
  simp only [List.map_cons, List.map_append, List.map_nil, List.cons_append, List.cons.injEq,
    roleField_eq_iff]
  rw [← methodField_eq_iff]
  constructor
  · rintro ⟨hrole, h⟩
    obtain ⟨hm, hrest⟩ := List.append_inj' h rfl
    exact ⟨hrole, hm, List.head_eq_of_cons_eq hrest⟩
  · rintro ⟨hrole, hm, hb⟩
    exact ⟨hrole, by rw [hm, hb]⟩

lemma fields_ne (role' : Role) (s t branch : Bytes) (rdata : Rdata) :
    (fields3261 role (methodInitNp s) branch).map lowerAll ≠
      (fields2543 role' (methodInitNp t) rdata).map lowerAll := by
  intro h
  have hlen := congrArg List.length h
  have hs := methodField_length_le (methodInitNp s)
  simp only [fields3261, fields2543, List.length_map, List.length_cons, List.length_append,
    List.length_nil, List.cons_append] at hlen
  omega

/-! ## The buffers -/

/-- `len_required` of `create_tsx_key_2543` -/
def lenRequired2543 (method : SipMethod) (rdata : Rdata) (includeVia : Bool) : ℕ :=
  method.name.length + 11 + rdata.fromTag.length + rdata.callId.length + 16 +
    if includeVia then rdata.host.length + 11 else 0

/-- The size of the buffer of `create_tsx_key_3261`. -/
def lenRequired3261 (method : SipMethod) (branch : Bytes) : ℕ :=
  branch.length + method.name.length + 4

def keyRoom (method : SipMethod) (rdata : Rdata) : ℕ :=
  if strnicmpEqLen rdata.branch rfc3261Branch 7 then lenRequired3261 method rdata.branch
  else lenRequired2543 method rdata true

lemma keyHead_length_le (method : SipMethod) : (keyHead role method).length ≤ method.name.length + 3 := by
  have hrole : (lit (if role = .uac then "c" else "s")).length = 1 := by cases role <;> decide
  have hsep : separator.length = 1 := by decide
  have hd : (lit "$").length = 1 := by decide
  have hname : (if method.id ≠ .invite ∧ method.id ≠ .ack then method.name ++ lit "$"
      else []).length ≤ method.name.length + 1 := by
    split_ifs
    · simp [hd]
    · simp
  simp only [keyHead, List.length_append, hrole, hsep] at hname ⊢
  omega

lemma tsxCreateKey_length_le (method : SipMethod) (rdata : Rdata)
    (hcseq : rdata.cseq < 2 ^ 31) (hport : rdata.port < 2 ^ 16) :
    (tsxCreateKey role method rdata).length ≤ keyRoom method rdata := by
  have hhead := keyHead_length_le role method
  have hc : (utoa rdata.cseq).length ≤ 10 := utoa_length_le (by omega) (by decide)
  have hp : (utoa rdata.port).length ≤ 5 := utoa_length_le (by omega) (by decide)
  have hsep : separator.length = 1 := by decide
  have hcolon : (lit ":").length = 1 := by decide
  unfold tsxCreateKey keyRoom
  split_ifs with h
  · simp only [createTsxKey3261, lenRequired3261, List.length_append]
    omega
  · simp only [createTsxKey2543, lenRequired2543, if_true, List.length_append, hsep, hcolon,
      List.length_cons, List.length_nil]
    omega

lemma tsxCreateKey_lower_iff (role' : Role) {t : Bytes} {a b : Rdata} (ha : Plain s a) (hb : Plain t b) :
    lowerAll (tsxCreateKey role (methodInitNp s) a) = lowerAll (tsxCreateKey role' (methodInitNp t) b) ↔
      role = role' ∧ SameMethod (methodInitNp s) (methodInitNp t) ∧
      ((IsRfc3261 a.branch ∧ IsRfc3261 b.branch ∧ lowerAll a.branch = lowerAll b.branch) ∨
        (¬ IsRfc3261 a.branch ∧ ¬ IsRfc3261 b.branch ∧ SameDialogFields a b)) := by
  have hne3261 : ∀ (r : Role) (m : SipMethod) (br : Bytes),
      (fields3261 r m br).map lowerAll ≠ [] := by simp [fields3261]
  have hne2543 : ∀ (r : Role) (m : SipMethod) (x : Rdata),
      (fields2543 r m x).map lowerAll ≠ [] := by simp [fields2543]
  unfold tsxCreateKey
  by_cases h1 : strnicmpEqLen a.branch rfc3261Branch 7 = true
  · have ha1 := (isRfc3261_iff a.branch).1 h1
    by_cases h2 : strnicmpEqLen b.branch rfc3261Branch 7 = true
    · have hb1 := (isRfc3261_iff b.branch).1 h2
      simp only [h1, h2, if_true, createTsxKey3261_eq, lowerAll_intercalate, ha1, hb1, true_and,
        not_true, false_and, or_false]
      rw [← fields3261_eq_iff]
      exact ⟨intercalate_inj (ha.fields3261 role) (hb.fields3261 role') (hne3261 _ _ _)
        (hne3261 _ _ _), congrArg _⟩
    · have hb1 : ¬ IsRfc3261 b.branch := fun h => h2 ((isRfc3261_iff b.branch).2 h)
      simp only [h1, h2, if_true, Bool.false_eq_true, if_false, createTsxKey3261_eq,
        createTsxKey2543_eq, lowerAll_intercalate, ha1, hb1, false_and, and_false, not_true,
        or_self, iff_false]
      exact fun h => fields_ne role role' s t a.branch b (intercalate_inj (ha.fields3261 role)
        (hb.fields2543 role') (hne3261 _ _ _) (hne2543 _ _ _) h)
  · have ha1 : ¬ IsRfc3261 a.branch := fun h => h1 ((isRfc3261_iff a.branch).2 h)
    by_cases h2 : strnicmpEqLen b.branch rfc3261Branch 7 = true
    · have hb1 := (isRfc3261_iff b.branch).1 h2
      simp only [h1, h2, if_true, Bool.false_eq_true, if_false, createTsxKey3261_eq,
        createTsxKey2543_eq, lowerAll_intercalate, ha1, hb1, false_and, and_false, not_true,
        or_self, iff_false]
      exact fun h => fields_ne role' role t s b.branch a (intercalate_inj (ha.fields2543 role)
        (hb.fields3261 role') (hne2543 _ _ _) (hne3261 _ _ _) h).symm
    · have hb1 : ¬ IsRfc3261 b.branch := fun h => h2 ((isRfc3261_iff b.branch).2 h)
      simp only [h1, h2, Bool.false_eq_true, if_false, createTsxKey2543_eq, lowerAll_intercalate,
        ha1, hb1, not_false_eq_true, true_and, false_and, false_or]
      rw [← fields2543_eq_iff]
      exact ⟨intercalate_inj (ha.fields2543 role) (hb.fields2543 role') (hne2543 _ _ _)
        (hne2543 _ _ _), congrArg _⟩

/-- Two keys are equal up to letter case exactly when the roles are equal, the methods
are the same with ACK taken as INVITE, and either both branches start with `z9hG4bK`
and are equal, or neither does and the other fields are equal, all up to letter case.
A key of one format never equals one of the other, and every key fits its buffer. -/
theorem tsxCreateKey_eq_iff (role role' : Role) {s t : Bytes} {a b : Rdata} (ha : Plain s a)
    (hb : Plain t b) : (lowerAll (tsxCreateKey role (methodInitNp s) a) =
        lowerAll (tsxCreateKey role' (methodInitNp t) b) ↔
      role = role' ∧ SameMethod (methodInitNp s) (methodInitNp t) ∧
      ((IsRfc3261 a.branch ∧ IsRfc3261 b.branch ∧ lowerAll a.branch = lowerAll b.branch) ∨
        (¬ IsRfc3261 a.branch ∧ ¬ IsRfc3261 b.branch ∧ SameDialogFields a b))) ∧
    (IsRfc3261 a.branch → ¬ IsRfc3261 b.branch → lowerAll (tsxCreateKey role (methodInitNp s) a) ≠
        lowerAll (tsxCreateKey role' (methodInitNp t) b)) ∧ (a.cseq < 2 ^ 31 → a.port < 2 ^ 16 →
      (tsxCreateKey role (methodInitNp s) a).length ≤ keyRoom (methodInitNp s) a) := by
  have key := tsxCreateKey_lower_iff role role' ha hb
  refine ⟨key, fun h1 h2 heq => ?_, tsxCreateKey_length_le role (methodInitNp s) a⟩
  obtain ⟨-, -, h | h⟩ := key.1 heq
  · exact h2 h.2.1
  · exact h.1 h1

def oldRequest (callId : Bytes) : Rdata where
  method := methodInitNp (lit "INVITE")
  cseqMethod := methodInitNp (lit "INVITE")
  cseq := 1
  fromTag := lit "t"
  toTag := []
  callId := callId
  branch := []
  host := lit "h"
  port := 0

lemma oldRequest_plain : Plain (lit "INVITE") (oldRequest (lit "A")) ∧
    Plain (lit "ACK") (oldRequest (lit "A")) := by
  constructor <;> constructor <;> decide

/-- An ACK has the key of its INVITE. -/
theorem tsxCreateKey_eq_iff_ack :
    lowerAll (tsxCreateKey .uas (methodInitNp (lit "INVITE")) (oldRequest (lit "A"))) =
      lowerAll (tsxCreateKey .uas (methodInitNp (lit "ACK")) (oldRequest (lit "A"))) :=
  (tsxCreateKey_eq_iff .uas .uas oldRequest_plain.1 oldRequest_plain.2).1.2
    ⟨rfl, .inl ⟨by decide, by decide⟩, .inr ⟨by unfold IsRfc3261; decide, by unfold IsRfc3261; decide, rfl, rfl, rfl, rfl, rfl⟩⟩

/-- Two requests whose Call-IDs differ in letter case have one key. -/
theorem key_ignores_case :
    Plain (lit "INVITE") (oldRequest (lit "A")) ∧ Plain (lit "INVITE") (oldRequest (lit "a")) ∧
    (oldRequest (lit "A")).callId ≠ (oldRequest (lit "a")).callId ∧
    (oldRequest (lit "A")).branch = [] ∧ (oldRequest (lit "a")).branch = [] ∧
    lowerAll (tsxCreateKey .uas (methodInitNp (lit "INVITE")) (oldRequest (lit "A"))) =
      lowerAll (tsxCreateKey .uas (methodInitNp (lit "INVITE")) (oldRequest (lit "a"))) := by
  refine ⟨oldRequest_plain.1, ?_, by decide, rfl, rfl, by decide⟩
  constructor <;> decide

end PjProject.TsxRegistry
