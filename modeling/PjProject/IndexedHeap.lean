import Mathlib.Tactic

/-!
# Binary heaps with an index

A binary heap in an array, with a map from each element to its position that is kept along.
An element is sifted by moving a hole: the array with the element put into the hole is in
order everywhere but at the hole. Sifting ends with the array in order, the positions of the
elements right, and nothing else touched.
-/
namespace PjProject.IndexedHeap

variable {α β : Type*} [LinearOrder α]

structure Indexed (β : Type*) where
  slots : ℕ → β
  pos : β → ℤ

def Indexed.place [DecidableEq β] (h : Indexed β) (slot : ℕ) (x : β) : Indexed β :=
  ⟨Function.update h.slots slot x, Function.update h.pos x slot⟩

def parent (i : ℕ) : ℕ := if i = 0 then 0 else (i - 1) / 2

def left (i : ℕ) : ℕ := i + i + 1

variable {i : ℕ}

lemma parent_lt (h : 0 < i) : parent i < i := by
  unfold parent
  split_ifs <;> omega

variable {p : ℕ}

lemma parent_eq (h : 0 < i) : parent i = p ↔ i = left p ∨ i = left p + 1 := by
  unfold parent left
  split_ifs <;> omega

def siftUp [DecidableEq β] (key : β → α) : ℕ → Indexed β → β → ℕ → Indexed β
  | 0, h, x, slot => h.place slot x
  | k + 1, h, x, slot =>
    if 0 < slot ∧ key x < key (h.slots (parent slot)) then
      siftUp key k (h.place slot (h.slots (parent slot))) x (parent slot)
    else h.place slot x

def smaller (key : β → α) (n : ℕ) (slots : ℕ → β) (child : ℕ) : ℕ :=
  if child + 1 < n ∧ key (slots (child + 1)) < key (slots child) then child + 1 else child

/-- Move a hole down until the element fits. `n` rounds are enough. -/
def siftDown [DecidableEq β] (key : β → α) (n : ℕ) : ℕ → Indexed β → β → ℕ → ℕ → Indexed β
  | 0, h, x, slot, _ => h.place slot x
  | k + 1, h, x, slot, child =>
    if child < n then
      let c := smaller key n h.slots child
      if key (h.slots c) < key x then siftDown key n k (h.place slot (h.slots c)) x c (left c)
      else h.place slot x
    else h.place slot x

def Ordered (key : β → α) (v : ℕ → β) (n : ℕ) : Prop :=
  ∀ i, 0 < i → i < n → key (v (parent i)) ≤ key (v i)

def Bridged (key : β → α) (v : ℕ → β) (n slot : ℕ) : Prop :=
  0 < slot → ∀ i, 0 < i → i < n → parent i = slot → key (v (parent slot)) ≤ key (v i)

def UpOrdered (key : β → α) (v : ℕ → β) (n slot : ℕ) : Prop :=
  (∀ i, 0 < i → i < n → i ≠ slot → key (v (parent i)) ≤ key (v i)) ∧ Bridged key v n slot

def DownOrdered (key : β → α) (v : ℕ → β) (n slot : ℕ) : Prop :=
  (∀ i, 0 < i → i < n → parent i ≠ slot → key (v (parent i)) ≤ key (v i)) ∧ Bridged key v n slot

/-- A hole for `x`: with `x` in it the elements are distinct, and the others have their
positions. -/
structure Hole (h : Indexed β) (n : ℕ) (x : β) (slot : ℕ) : Prop where
  lt : slot < n
  inj : ∀ i < n, ∀ j < n, Function.update h.slots slot x i = Function.update h.slots slot x j → i = j
  pos : ∀ i < n, i ≠ slot → h.pos (h.slots i) = i

structure Settled (h : Indexed β) (n : ℕ) (x : β) (slot : ℕ) (h' : Indexed β) : Prop where
  inj : ∀ i < n, ∀ j < n, h'.slots i = h'.slots j → i = j
  pos : ∀ i < n, h'.pos (h'.slots i) = i
  mem : ∀ y, (∃ i < n, h'.slots i = y) ↔ ∃ i < n, Function.update h.slots slot x i = y
  other : ∀ y, (∀ i < n, Function.update h.slots slot x i ≠ y) → h'.pos y = h.pos y

variable {h : Indexed β} {n slot : ℕ} {x : β}

lemma Hole.settle [DecidableEq β] (hh : Hole h n x slot) :
    Settled h n x slot (h.place slot x) where
  inj := hh.inj
  pos := by
    intro i hi
    by_cases his : i = slot
    · simp [Indexed.place, his]
    · have hne : h.slots i ≠ x := by
        intro he
        apply his
        apply hh.inj i hi slot hh.lt
        rw [Function.update_of_ne his, Function.update_self, he]
      simp only [Indexed.place, Function.update_of_ne his, Function.update_of_ne hne]
      exact hh.pos i hi his
  mem := fun _ => Iff.rfl
  other := by
    intro y hy
    have hne : y ≠ x := by
      rintro rfl
      exact hy slot hh.lt (Function.update_self ..)
    simp [Indexed.place, Function.update_of_ne hne]

lemma update_move (slots : ℕ → β) (x : β) : Function.update (Function.update slots slot (slots p)) p x i =
      Function.update slots slot x (if i = p then slot else if i = slot then p else i) := by
  by_cases hip : i = p
  · simp [hip]
  · rw [if_neg hip, Function.update_of_ne hip]
    by_cases his : i = slot
    · subst his
      rw [if_pos rfl, Function.update_self, Function.update_of_ne (Ne.symm hip)]
    · rw [if_neg his, Function.update_of_ne his, Function.update_of_ne his]

lemma Hole.move [DecidableEq β] (hh : Hole h n x slot) (hp : p < n)
    (hne : p ≠ slot) : Hole (h.place slot (h.slots p)) n x p where
  lt := hp
  inj := by
    intro i hi j hj he
    have hs := hh.lt
    simp only [Indexed.place] at he
    rw [update_move, update_move] at he
    have := hh.inj _ (by split_ifs <;> omega) _ (by split_ifs <;> omega) he
    split_ifs at this <;> omega
  pos := by
    intro i hi hip
    by_cases his : i = slot
    · simp [Indexed.place, his]
    · have hdiff : h.slots i ≠ h.slots p := by
        intro he
        apply hip
        apply hh.inj i hi p hp
        rw [Function.update_of_ne his, Function.update_of_ne hne, he]
      simp only [Indexed.place, Function.update_of_ne his, Function.update_of_ne hdiff]
      exact hh.pos i hi his

lemma Settled.of_move [DecidableEq β] {h' : Indexed β} (hs : slot < n)
    (hp : p < n) (hne : p ≠ slot) (ht : Settled (h.place slot (h.slots p)) n x p h') : Settled h n x slot h' where
  inj := ht.inj
  pos := ht.pos
  mem := by
    intro y
    rw [ht.mem y]
    constructor
    · rintro ⟨i, hi, rfl⟩
      exact ⟨_, by split_ifs <;> omega, (update_move h.slots x).symm⟩
    · rintro ⟨i, hi, rfl⟩
      refine ⟨if i = p then slot else if i = slot then p else i, by split_ifs <;> omega, ?_⟩
      simp only [Indexed.place]
      rw [update_move]
      congr 1
      split_ifs <;> omega
  other := by
    intro y hy
    have hsame : (h.place slot (h.slots p)).pos y = h.pos y := by
      have hyp : y ≠ h.slots p := by
        rintro rfl
        exact hy p hp (Function.update_of_ne hne ..)
      simp [Indexed.place, Function.update_of_ne hyp]
    rw [ht.other y, hsame]
    intro i hi
    simp only [Indexed.place]
    rw [update_move]
    exact hy _ (by split_ifs <;> omega)

variable {key : β → α} {slots : ℕ → β}

lemma UpOrdered.move (hs : 0 < slot)
    (hn : slot < n) (ho : UpOrdered key (Function.update slots slot x) n slot)
    (hx : key x < key (slots (parent slot))) :
    UpOrdered key (Function.update (Function.update slots slot (slots (parent slot))) (parent slot) x)
      n (parent slot) := by
  have hps := parent_lt hs
  obtain ⟨h1, h2⟩ := ho
  -- the elements of the old array, off the hole
  have hv : ∀ i, i ≠ slot → Function.update slots slot x i = slots i :=
    fun i hi => Function.update_of_ne hi ..
  have hw : ∀ i, i ≠ slot → i ≠ parent slot →
      Function.update (Function.update slots slot (slots (parent slot))) (parent slot) x i = slots i :=
    fun i his hip => by rw [Function.update_of_ne hip, Function.update_of_ne his]
  have hws : Function.update (Function.update slots slot (slots (parent slot))) (parent slot) x slot =
      slots (parent slot) := by rw [Function.update_of_ne (by omega), Function.update_self]
  have hup : 0 < parent slot → key (slots (parent (parent slot))) ≤ key (slots (parent slot)) := by
    intro hp
    have hpp := parent_lt hp
    have := h1 (parent slot) hp (by omega) (by omega)
    rwa [hv _ (by omega), hv _ (by omega)] at this
  have hsib : ∀ i, 0 < i → i < n → i ≠ slot → parent i = parent slot →
      key (slots (parent slot)) ≤ key (slots i) := by
    intro i hi hin his hpi
    have := h1 i hi hin his
    rwa [hpi, hv _ (by omega), hv i his] at this
  refine ⟨?_, ?_⟩
  · intro i hi hin hip
    have hpi := parent_lt hi
    by_cases his : i = slot
    · rw [his, Function.update_self, hws]
      exact hx.le
    · rw [hw i his hip]
      by_cases hps' : parent i = slot
      · rw [hps', hws]
        have := h2 hs i hi hin hps'
        rwa [hv _ (by omega), hv i his] at this
      · by_cases hpp : parent i = parent slot
        · rw [hpp, Function.update_self]
          exact hx.le.trans (hsib i hi hin his hpp)
        · rw [hw _ hps' hpp]
          have := h1 i hi hin his
          rwa [hv _ hps', hv i his] at this
  · intro hp i hi hin hpi
    have hpp := parent_lt hp
    rw [hw _ (by omega) (by omega)]
    by_cases his : i = slot
    · rw [his, hws]
      exact hup hp
    · have hpl := hpi ▸ parent_lt hi
      rw [hw i his (by omega)]
      exact (hup hp).trans (hsib i hi hin his hpi)

lemma UpOrdered.finish (ho : UpOrdered key (Function.update slots slot x) n slot)
    (hx : ¬ (0 < slot ∧ key x < key (slots (parent slot)))) :
    Ordered key (Function.update slots slot x) n := by
  intro i hi hin
  by_cases his : i = slot
  · subst his
    have hne : parent i ≠ i := (parent_lt hi).ne
    rw [Function.update_self, Function.update_of_ne hne]
    by_contra hlt
    exact hx ⟨hi, not_le.1 hlt⟩
  · exact ho.1 i hi hin his

lemma siftUp_spec [DecidableEq β] (key : β → α) (k : ℕ) : ∀ {h : Indexed β} {x : β} {n slot : ℕ}, slot ≤ k →
    Hole h n x slot → UpOrdered key (Function.update h.slots slot x) n slot →
    Settled h n x slot (siftUp key k h x slot) ∧ Ordered key (siftUp key k h x slot).slots n := by
  induction k with
  | zero =>
    intro h x n slot hk hh ho
    exact ⟨hh.settle, ho.finish (by omega)⟩
  | succ k ih =>
    intro h x n slot hk hh ho
    rw [siftUp]
    by_cases hx : 0 < slot ∧ key x < key (h.slots (parent slot))
    · have hp := parent_lt hx.1
      have hlt := hh.lt
      rw [if_pos hx]
      obtain ⟨h1, h2⟩ := ih (by omega) (hh.move (by omega) (by omega)) (ho.move hx.1 hlt hx.2)
      exact ⟨h1.of_move hlt (by omega) (by omega), h2⟩
    · rw [if_neg hx]
      exact ⟨hh.settle, ho.finish hx⟩

lemma smaller_cases (key : β → α) (n : ℕ) (slots : ℕ → β) {child : ℕ} (hc : child < n) :
    (smaller key n slots child = child ∨ smaller key n slots child = child + 1) ∧
      smaller key n slots child < n := by
  unfold smaller
  split_ifs with h
  · exact ⟨.inr rfl, h.1⟩
  · exact ⟨.inl rfl, hc⟩

lemma smaller_le (key : β → α) (slots : ℕ → β) {child : ℕ} (hi : i < n)
    (h : i = child ∨ i = child + 1) : key (slots (smaller key n slots child)) ≤ key (slots i) := by
  unfold smaller
  split_ifs with hlt
  · rcases h with rfl | rfl
    · exact hlt.2.le
    · exact le_rfl
  · rcases h with rfl | rfl
    · exact le_rfl
    · by_contra hgt
      exact hlt ⟨hi, not_le.1 hgt⟩

lemma DownOrdered.move {c : ℕ}
    (ho : DownOrdered key (Function.update slots slot x) n slot) (hc0 : 0 < c) (hcn : c < n)
    (hpc : parent c = slot) (hmin : ∀ i, 0 < i → i < n → parent i = slot → key (slots c) ≤ key (slots i))
    (hx : key (slots c) < key x) :
    DownOrdered key (Function.update (Function.update slots slot (slots c)) c x) n c := by
  have hsc := parent_lt hc0
  obtain ⟨h1, h2⟩ := ho
  have hv : ∀ i, i ≠ slot → Function.update slots slot x i = slots i :=
    fun i hi => Function.update_of_ne hi ..
  have hw : ∀ i, i ≠ slot → i ≠ c →
      Function.update (Function.update slots slot (slots c)) c x i = slots i :=
    fun i his hic => by rw [Function.update_of_ne hic, Function.update_of_ne his]
  have hws : Function.update (Function.update slots slot (slots c)) c x slot = slots c := by
    rw [Function.update_of_ne (by omega), Function.update_self]
  refine ⟨?_, ?_⟩
  · intro i hi hin hpi
    have hpl := parent_lt hi
    by_cases hic : i = c
    · rw [hic, hpc, hws, Function.update_self]
      exact hx.le
    · by_cases hps : parent i = slot
      · rw [hps, hws, hw i (by omega) hic]
        exact hmin i hi hin hps
      · rw [hw _ hps hpi]
        by_cases his : i = slot
        · subst his
          have := h2 hi c hc0 hcn hpc
          rw [hws]
          rwa [hv _ hps, hv c (by omega)] at this
        · rw [hw i his hic]
          have := h1 i hi hin hps
          rwa [hv _ hps, hv i his] at this
  · intro _ i hi hin hpi
    have hpl := parent_lt hi
    rw [hpc, hws, hw i (by omega) (by omega)]
    have := h1 i hi hin (by omega)
    rwa [hpi, hv c (by omega), hv i (by omega)] at this

lemma DownOrdered.finish (ho : DownOrdered key (Function.update slots slot x) n slot)
    (hx : ∀ i, 0 < i → i < n → parent i = slot → key x ≤ key (slots i)) :
    Ordered key (Function.update slots slot x) n := by
  intro i hi hin
  by_cases hps : parent i = slot
  · have hpl := parent_lt hi
    rw [hps, Function.update_self, Function.update_of_ne (by omega)]
    exact hx i hi hin hps
  · exact ho.1 i hi hin hps

lemma siftDown_spec [DecidableEq β] (key : β → α) (k : ℕ) :
    ∀ {h : Indexed β} {x : β} {n slot : ℕ}, n ≤ slot + k →
    Hole h n x slot → DownOrdered key (Function.update h.slots slot x) n slot →
    Settled h n x slot (siftDown key n k h x slot (left slot)) ∧
      Ordered key (siftDown key n k h x slot (left slot)).slots n := by
  induction k with
  | zero =>
    intro h x n slot hk hh ho
    have := hh.lt
    omega
  | succ k ih =>
    intro h x n slot hk hh ho
    have hlt := hh.lt
    have hchild : ∀ i, 0 < i → parent i = slot → i = left slot ∨ i = left slot + 1 :=
      fun i hi => (parent_eq hi).1
    rw [siftDown]
    by_cases hc : left slot < n
    · obtain ⟨hcase, hcn⟩ := smaller_cases key n h.slots hc
      have hc0 : 0 < smaller key n h.slots (left slot) := by
        have : left slot = slot + slot + 1 := rfl
        omega
      have hpc : parent (smaller key n h.slots (left slot)) = slot := (parent_eq hc0).2 hcase
      have hpl := hpc ▸ parent_lt hc0
      have hmin : ∀ i, 0 < i → i < n → parent i = slot →
          key (h.slots (smaller key n h.slots (left slot))) ≤ key (h.slots i) :=
        fun i hi hin hpi => smaller_le key h.slots hin (hchild i hi hpi)
      simp only [if_pos hc]
      generalize smaller key n h.slots (left slot) = c at *
      by_cases hx : key (h.slots c) < key x
      · rw [if_pos hx]
        obtain ⟨h1, h2⟩ := ih (by omega) (hh.move hcn hpl.ne') (ho.move hc0 hcn hpc hmin hx)
        exact ⟨h1.of_move hlt hcn hpl.ne', h2⟩
      · rw [if_neg hx]
        exact ⟨hh.settle, ho.finish fun i hi hin hpi => (not_lt.1 hx).trans (hmin i hi hin hpi)⟩
    · rw [if_neg hc]
      refine ⟨hh.settle, ho.finish fun i hi hin hpi => ?_⟩
      have := hchild i hi hpi
      omega

/-- The first `n` elements are distinct, in order, and have their positions; the element at
`skip` need not have it. -/
structure Heap (key : β → α) (h : Indexed β) (n skip : ℕ) : Prop where
  inj : ∀ i < n, ∀ j < n, h.slots i = h.slots j → i = j
  pos : ∀ i < n, i ≠ skip → h.pos (h.slots i) = i
  ordered : Ordered key h.slots n

/-- The first element is a least one. -/
lemma Heap.root_le {skip : ℕ} (hh : Heap key h n skip) (hi : i < n) : key (h.slots 0) ≤ key (h.slots i) := by
  induction i using Nat.strong_induction_on with
  | _ i ih =>
    by_cases h0 : i = 0
    · rw [h0]
    · have hp := parent_lt (Nat.pos_of_ne_zero h0)
      exact (ih (parent i) hp (hp.trans hi)).trans (hh.ordered i (Nat.pos_of_ne_zero h0) hi)

/-- `r` is a heap of the elements that `P` admits, and has the positions of `h` for all others. -/
structure Rebuilt (key : β → α) (h r : Indexed β) (n : ℕ) (P : β → Prop) : Prop where
  heap : Heap key r n n
  mem : ∀ y, (∃ i < n, r.slots i = y) ↔ P y
  other : ∀ y, ¬ P y → r.pos y = h.pos y

lemma Heap.insert_settled [DecidableEq β] (hh : Heap key h n n) (hx : ∀ i < n, h.slots i ≠ x) :
    Settled h (n + 1) x n (siftUp key n h x n) ∧ Ordered key (siftUp key n h x n).slots (n + 1) := by
  have hv : ∀ i < n, Function.update h.slots n x i = h.slots i :=
    fun i hi => Function.update_of_ne (by omega) ..
  apply siftUp_spec key n le_rfl
  · refine ⟨by omega, ?_, fun i hi hne => hh.pos i (by omega) hne⟩
    intro i hi j hj he
    rcases Nat.lt_succ_iff_lt_or_eq.1 hi with hi | rfl <;>
      rcases Nat.lt_succ_iff_lt_or_eq.1 hj with hj | rfl
    · rw [hv i hi, hv j hj] at he
      exact hh.inj i hi j hj he
    · rw [hv i hi, Function.update_self] at he
      exact absurd he (hx i hi)
    · rw [hv j hj, Function.update_self] at he
      exact absurd he.symm (hx j hj)
    · rfl
  · refine ⟨?_, ?_⟩
    · intro i hi hin hne
      have hp := parent_lt hi
      rw [hv i (by omega), hv _ (by omega)]
      exact hh.ordered i hi (by omega)
    · intro hn i hi hin hpi
      have hp := parent_lt hi
      omega

lemma Heap.insert [DecidableEq β] (hh : Heap key h n n) (hx : ∀ i < n, h.slots i ≠ x) :
    Rebuilt key h (siftUp key n h x n) (n + 1) (fun y => y = x ∨ ∃ i < n, h.slots i = y) := by
  obtain ⟨hs, ho⟩ := hh.insert_settled hx
  have hmem : ∀ y, (∃ i < n + 1, Function.update h.slots n x i = y) ↔
      y = x ∨ ∃ i < n, h.slots i = y := by
    intro y
    constructor
    · rintro ⟨i, hi, rfl⟩
      by_cases hin : i = n
      · exact .inl (by rw [hin, Function.update_self])
      · exact .inr ⟨i, by omega, (Function.update_of_ne hin ..).symm⟩
    · rintro (rfl | ⟨i, hi, rfl⟩)
      · exact ⟨n, by omega, Function.update_self ..⟩
      · exact ⟨i, by omega, Function.update_of_ne (by omega) ..⟩
  refine ⟨⟨hs.inj, fun i hi _ => hs.pos i hi, ho⟩, fun y => (hs.mem y).trans (hmem y), ?_⟩
  intro y hy
  apply hs.other
  intro i hi he
  exact hy ((hmem y).1 ⟨i, hi, he⟩)

def replace [DecidableEq β] (key : β → α) (h : Indexed β) (n slot : ℕ) : Indexed β :=
  let x := h.slots n
  let h' := h.place slot x
  if key (h'.slots (parent slot)) ≤ key x then siftDown key n n h' x slot (left slot)
  else siftUp key slot h' x slot

lemma Heap.replace_settled [DecidableEq β] (hh : Heap key h (n + 1) slot) (hs : slot < n) :
    Settled (h.place slot (h.slots n)) n (h.slots n) slot (replace key h n slot) ∧
      Ordered key (IndexedHeap.replace key h n slot).slots n := by
  set x := h.slots n with hx
  have hup : Function.update (h.place slot x).slots slot x = Function.update h.slots slot x :=
    Function.update_idem ..
  have hv : ∀ i, i ≠ slot → Function.update h.slots slot x i = h.slots i :=
    fun i hi => Function.update_of_ne hi ..
  have hhole : Hole (h.place slot x) n x slot := by
    refine ⟨hs, ?_, ?_⟩
    · intro i hi j hj he
      rw [hup] at he
      by_cases his : i = slot <;> by_cases hjs : j = slot
      · omega
      · rw [his, Function.update_self, hv j hjs] at he
        have := hh.inj n (by omega) j (by omega) he
        omega
      · rw [hjs, Function.update_self, hv i his] at he
        have := hh.inj i (by omega) n (by omega) he
        omega
      · rw [hv i his, hv j hjs] at he
        exact hh.inj i (by omega) j (by omega) he
    · intro i hi his
      have hne : h.slots i ≠ x := by
        intro he
        have := hh.inj i (by omega) n (by omega) he
        omega
      simp only [Indexed.place, Function.update_of_ne his, Function.update_of_ne hne]
      exact hh.pos i (by omega) his
  -- what the order of the old heap says of the children of the hole
  have hbridge : Bridged key (Function.update h.slots slot x) n slot := by
    intro h0 i hi hin hpi
    have hpl := hpi ▸ parent_lt hi
    have hps := parent_lt h0
    rw [hv i (by omega), hv _ (by omega)]
    have h1 := hh.ordered slot h0 (by omega)
    have h2 := hh.ordered i hi (by omega)
    rw [hpi] at h2
    exact h1.trans h2
  have hrest : ∀ i, 0 < i → i < n → parent i ≠ slot → i ≠ slot →
      key (Function.update h.slots slot x (parent i)) ≤ key (Function.update h.slots slot x i) := by
    intro i hi hin hpi his
    rw [hv i his, hv _ hpi]
    exact hh.ordered i hi (by omega)
  rw [IndexedHeap.replace]
  by_cases hk : key ((h.place slot x).slots (parent slot)) ≤ key x
  · simp only [← hx, if_pos hk]
    apply siftDown_spec key n (by omega) hhole
    rw [hup]
    refine ⟨?_, hbridge⟩
    intro i hi hin hpi
    by_cases his : i = slot
    · rw [his, Function.update_self]
      exact hk
    · exact hrest i hi hin hpi his
  · simp only [← hx, if_neg hk]
    apply siftUp_spec key slot le_rfl hhole
    rw [hup]
    have h0 : 0 < slot := by
      by_contra h0
      obtain rfl : slot = 0 := by omega
      exact hk (by simp [Indexed.place, parent])
    have hps := parent_lt h0
    refine ⟨?_, hbridge⟩
    intro i hi hin his
    by_cases hpi : parent i = slot
    · have hb := hbridge h0 i hi hin hpi
      rw [hpi, Function.update_self]
      exact (not_le.1 hk).le.trans hb
    · exact hrest i hi hin hpi his

/-- Remove the element at `slot` from a heap of `n + 1`. -/
def remove [DecidableEq β] (key : β → α) (h : Indexed β) (n slot : ℕ) : Indexed β :=
  if slot < n then replace key h n slot else h

lemma Heap.remove [DecidableEq β] (hh : Heap key h (n + 1) slot) (hs : slot ≤ n) :
    Rebuilt key h (remove key h n slot) n (fun y => ∃ i < n + 1, i ≠ slot ∧ h.slots i = y) := by
  unfold IndexedHeap.remove
  by_cases hlt : slot < n
  · rw [if_pos hlt]
    obtain ⟨ht, ho⟩ := hh.replace_settled hlt
    have hmem : ∀ y, (∃ i < n, Function.update (h.place slot (h.slots n)).slots slot (h.slots n) i = y) ↔
        ∃ i < n + 1, i ≠ slot ∧ h.slots i = y := by
      intro y
      rw [Indexed.place, Function.update_idem]
      constructor
      · rintro ⟨i, hi, rfl⟩
        by_cases his : i = slot
        · exact ⟨n, by omega, by omega, by rw [his, Function.update_self]⟩
        · exact ⟨i, by omega, his, (Function.update_of_ne his ..).symm⟩
      · rintro ⟨i, hi, his, rfl⟩
        by_cases hin : i = n
        · exact ⟨slot, hlt, by rw [hin, Function.update_self]⟩
        · exact ⟨i, by omega, Function.update_of_ne his ..⟩
    refine ⟨⟨ht.inj, fun i hi _ => ht.pos i hi, ho⟩, fun y => (ht.mem y).trans (hmem y), ?_⟩
    intro y hy
    have hne : y ≠ h.slots n := by
      rintro rfl
      exact hy ⟨n, by omega, by omega, rfl⟩
    rw [ht.other y fun i hi he => hy ((hmem y).1 ⟨i, hi, he⟩)]
    exact Function.update_of_ne hne ..
  · obtain rfl : slot = n := by omega
    rw [if_neg hlt]
    refine ⟨⟨fun i hi j hj => hh.inj i (by omega) j (by omega), fun i hi hne => hh.pos i (by omega) hne,
      fun i hi hin => hh.ordered i hi (by omega)⟩, ?_, fun _ _ => rfl⟩
    intro y
    constructor
    · rintro ⟨i, hi, rfl⟩
      exact ⟨i, by omega, by omega, rfl⟩
    · rintro ⟨i, hi, his, rfl⟩
      exact ⟨i, by omega, rfl⟩

end PjProject.IndexedHeap
