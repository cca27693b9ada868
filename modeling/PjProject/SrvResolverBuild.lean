import PjProject.SrvResolver

/-!
# The targets of an SRV answer

`build_server_entries` leaves at most `PJ_DNS_SRV_MAX_ADDR` targets without a query, and
`host_resolved` counts those that already have an address.
-/
namespace PjProject.SrvResolver

def Target.Blank (t : Target) : Prop := t.qA = .null ∧ t.qAaaa = .null

def Target.hasAddr (t : Target) : Bool := t.addrs ≠ []

lemma saveTargets_length (n : ℕ) (rs : List Answer) : (saveTargets n rs).length ≤ n := by
  fun_induction saveTargets n rs with
  | case1 | case2 => simp
  | case3 n rs ih => exact ih
  | case4 n _ _ _ _ rs _ ih => exact ih
  | case5 n _ _ _ _ rs _ ih => simpa using ih

lemma saveTargets_new (n : ℕ) (rs : List Answer) : ∀ t ∈ saveTargets n rs, t.Blank ∧ t.addrs = [] := by
  fun_induction saveTargets n rs with
  | case1 | case2 => simp
  | case3 n rs ih => exact ih
  | case4 n _ _ _ _ rs _ ih => exact ih
  | case5 n _ _ _ _ rs _ ih =>
    intro t ht
    rcases List.mem_cons.mp ht with rfl | ht
    · exact ⟨⟨rfl, rfl⟩, rfl⟩
    · exact ih t ht

lemma swapFront_perm (k : ℕ) (ts : List Target) : (swapFront k ts).Perm ts := by
  unfold swapFront
  cases ts with
  | nil => exact .nil
  | cons t ts =>
    cases k with
    | zero => exact .refl _
    | succ k =>
      dsimp only
      split
      · exact .refl _
      · rename_i u hu
        obtain ⟨hk, rfl⟩ := List.getElem?_eq_some_iff.mp hu
        exact (List.set_perm_cons_eraseIdx hk t).cons _ |>.trans
          ((List.Perm.swap _ _ _).trans ((List.getElem_cons_eraseIdx_perm hk).cons _))

lemma placeEach_perm (choose : ℕ → List Target → ℕ) (n i : ℕ) (ts : List Target) :
    (placeEach choose n i ts).Perm ts := by
  induction n generalizing i ts with
  | zero => exact .refl _
  | succ n ih =>
    have hswap := swapFront_perm (choose i ts) ts
    unfold placeEach
    split
    · rename_i hnil
      rwa [hnil] at hswap
    · rename_i u us hcons
      rw [hcons] at hswap
      exact ((ih (i + 1) us).cons u).trans hswap

lemma orderTargets_perm (rand : ℕ → ℕ) (ts : List Target) : (orderTargets rand ts).Perm ts :=
  (placeEach_perm _ _ _ _).trans (placeEach_perm _ _ _ _)

/-- What the passes over the built targets keep: their number, that they are blank, and that
the count is of those with an address. -/
structure Counted (len : ℕ) (ts : List Target) (n : ℕ) : Prop where
  length : ts.length = len
  blank : ∀ t ∈ ts, t.Blank
  count : n = ts.countP Target.hasAddr

lemma addExtra_counted (name : Bytes) (a : Addr) {ts : List Target} (hb : ∀ t ∈ ts, t.Blank) :
    Counted ts.length (addExtra name a ts).1 (ts.countP Target.hasAddr + (addExtra name a ts).2) := by
  induction ts with
  | nil => exact ⟨rfl, by simp [addExtra], rfl⟩
  | cons t ts ih =>
    have ht := hb t List.mem_cons_self
    have ih := ih fun u hu => hb u (List.mem_cons_of_mem _ hu)
    have hc := ih.count
    simp only [addExtra]
    split
    · refine ⟨by simpa using ih.length, ?_, ?_⟩
      · intro u hu
        rcases List.mem_cons.mp hu with rfl | hu
        · exact ht
        · exact ih.blank u hu
      · by_cases he : t.addrs = [] <;> simp [Target.hasAddr, he] at hc ⊢ <;> omega
    · refine ⟨by simpa using ih.length, ?_, ?_⟩
      · intro u hu
        rcases List.mem_cons.mp hu with rfl | hu
        · exact ht
        · exact ih.blank u hu
      · simp only [List.countP_cons]
        omega

lemma addExtras_counted (o : Opt) (rs : List Extra) {len : ℕ} {s : List Target × ℕ}
    (h : Counted len s.1 s.2) : Counted len (addExtras o rs s).1 (addExtras o rs s).2 := by
  fun_induction addExtras o rs s with
  | case1 s => exact h
  | case2 name a rs ts n hw us m heq ih =>
    have hx := addExtra_counted name a h.blank
    rw [heq] at hx
    refine ih ⟨hx.length.trans h.length, hx.blank, ?_⟩
    rw [← hx.count, ← h.count]
  | case3 name a rs ts n hw ih => exact ih h
  | case4 rs s ih => exact ih h

lemma addLiterals_counted (lib : Lib) (o : Opt) {ts : List Target} (hb : ∀ t ∈ ts, t.Blank) :
    Counted ts.length (addLiterals lib o ts).1 (ts.countP Target.hasAddr + (addLiterals lib o ts).2) := by
  induction ts with
  | nil => exact ⟨rfl, by simp [addLiterals], rfl⟩
  | cons t ts ih =>
    have ht := hb t List.mem_cons_self
    have ih := ih fun u hu => hb u (List.mem_cons_of_mem _ hu)
    have hc := ih.count
    have hmem : ∀ v : Target, v.Blank → ∀ u ∈ v :: (addLiterals lib o ts).1, u.Blank := by
      intro v hv u hu
      rcases List.mem_cons.mp hu with rfl | hu
      · exact hv
      · exact ih.blank u hu
    simp only [addLiterals]
    split
    · refine ⟨by simpa using ih.length, hmem t ht, ?_⟩
      simp only [List.countP_cons]
      omega
    · rename_i he
      split
      · refine ⟨by simpa using ih.length, hmem t ht, ?_⟩
        simp only [List.countP_cons]
        omega
      · refine ⟨by simpa using ih.length, hmem _ ht, ?_⟩
        simp [Target.hasAddr, Decidable.not_not.mp he] at hc ⊢
        omega

lemma buildServerEntries_counted (lib : Lib) (rand : ℕ → ℕ) (pkt : Packet) {j : Job}
    (h0 : j.hostResolved = 0) : ∃ len ≤ maxSrv, Counted len (buildServerEntries lib rand pkt j).srv
      (buildServerEntries lib rand pkt j).hostResolved := by
  have hlen := saveTargets_length maxSrv pkt.ans
  have hnew := saveTargets_new maxSrv pkt.ans
  have hp := orderTargets_perm rand (saveTargets maxSrv pkt.ans)
  unfold buildServerEntries
  dsimp only
  split
  · exact ⟨0, by decide, rfl, by simp, by simp [h0]⟩
  · refine ⟨(saveTargets maxSrv pkt.ans).length, hlen, ?_⟩
    have hord : Counted (saveTargets maxSrv pkt.ans).length
        (orderTargets rand (saveTargets maxSrv pkt.ans)) 0 := by
      refine ⟨hp.length_eq, fun t ht => (hnew t (hp.mem_iff.mp ht)).1, ?_⟩
      refine (List.countP_eq_zero.mpr fun t ht => ?_).symm
      simp [Target.hasAddr, (hnew t (hp.mem_iff.mp ht)).2]
    have hx := addExtras_counted j.option pkt.arr (s := (orderTargets rand _, 0)) hord
    have hl := addLiterals_counted lib j.option hx.blank
    refine ⟨hl.length.trans hx.length, hl.blank, ?_⟩
    rw [← hl.count, ← hx.count, h0, Nat.zero_add]

end PjProject.SrvResolver
