import PjProject.TimerHeap
import PjProject.Transition

/-!
# Runs of the timer heap

The heap, the map of ids to slots and the list of free ids agree over every run in which the
pool grants what the heap needs to grow. The id of a new timer is taken off the free list
before the heap grows, so a growth that fails loses it.
-/
namespace PjProject.Timer

open IndexedHeap
open Transition (run Guarded)

def TimeVal.key (t : TimeVal) : ℤ ×ₗ ℤ := toLex (t.sec, t.msec)

lemma TimeVal.gt_iff (t1 t2 : TimeVal) : t1.gt t2 ↔ t2.key < t1.key := by
  rw [gt, key, key, Prod.Lex.toLex_lt_toLex]
  constructor
  · rintro (h | ⟨h, h'⟩)
    · exact .inl h
    · exact .inr ⟨h.symm, h'⟩
  · rintro (h | ⟨h, h'⟩)
    · exact .inl h
    · exact .inr ⟨h.symm, h'⟩

lemma TimeVal.gte_iff (t1 t2 : TimeVal) : t1.gte t2 ↔ t2.key ≤ t1.key := by
  rw [gte, gt_iff, le_iff_lt_or_eq, key, key, toLex_inj, Prod.mk.injEq, eq_comm, @eq_comm _ t1.msec]

lemma TimeVal.lt_iff (t1 t2 : TimeVal) : t1.lt t2 ↔ t1.key < t2.key := by
  rw [lt, gte_iff, not_le]

lemma TimeVal.lte_iff (t1 t2 : TimeVal) : t1.lte t2 ↔ t1.key ≤ t2.key := by
  rw [lte, gt_iff, not_lt]

lemma int_eq {n : ℕ} (h : n < 2 ^ 31) : int n = n := by
  unfold int
  rw [Int.bmod_def]
  split_ifs <;> omega

lemma int_succ {i : ℕ} (h : i + 1 < 2 ^ 31) : int (i + 1) = i + 1 := int_eq h

/-- `l` is the list threaded through `ids` from `first` to `last`. -/
def Chain (ids : ℕ → ℤ) : ℤ → List ℕ → ℤ → Prop
  | first, [], last => first = last
  | first, k :: l, last => first = k ∧ Chain ids (-ids k) l last

variable {l : List ℕ}

lemma Chain.congr {ids ids' : ℕ → ℤ} : ∀ {first last : ℤ}, Chain ids first l last →
    (∀ k ∈ l, ids' k = ids k) → Chain ids' first l last := by
  induction l with
  | nil => exact fun h _ => h
  | cons k l ih =>
    intro first last h hids
    refine ⟨h.1, ?_⟩
    rw [hids k (by simp)]
    exact ih h.2 fun j hj => hids j (by simp [hj])

lemma Chain.append {ids : ℕ → ℤ} {m : List ℕ} : ∀ {first mid last : ℤ},
    Chain ids first l mid → Chain ids mid m last → Chain ids first (l ++ m) last := by
  induction l with
  | nil =>
    rintro first mid last rfl hm
    exact hm
  | cons k l ih => exact fun hl hm => ⟨hl.1, ih hl.2 hm⟩

lemma chain_range' (ids : ℕ → ℤ) (n : ℕ) : ∀ a : ℕ, (∀ i, a ≤ i → i < a + n → ids i = -((i : ℤ) + 1)) →
    Chain ids a (List.range' a n) ((a + n : ℕ) : ℤ) := by
  induction n with
  | zero => intro a _; rfl
  | succ n ih =>
    intro a h
    refine ⟨rfl, ?_⟩
    rw [h a le_rfl (by omega), neg_neg]
    have := ih (a + 1) fun i h1 h2 => h i (by omega) (by omega)
    rw [show a + 1 + n = a + (n + 1) by omega] at this
    exact_mod_cast this

def TimerHeap.view (ht : TimerHeap) : Indexed ℕ := ⟨ht.heap, ht.timerIds⟩

def TimerHeap.withView (ht : TimerHeap) (v : Indexed ℕ) : TimerHeap :=
  { ht with heap := v.slots, timerIds := v.pos }

def keyOf (dups : ℕ → EntryDup) (node : ℕ) : ℤ ×ₗ ℤ := (dups node).timerValue.key

def Homed (dups : ℕ → EntryDup) (node : ℕ) : Prop := (dups node).dup.timerId = node

variable {ht : TimerHeap} {slot node : ℕ}

lemma copyNode_eq (hs : slot < 2 ^ 31) (hn : Homed ht.timerDups node) :
    ht.copyNode slot node = ht.withView (ht.view.place slot node) := by
  simp only [TimerHeap.copyNode, TimerHeap.withView, Indexed.place, TimerHeap.view]
  rw [int_eq hs, hn, Int.toNat_natCast]

lemma reheapUp_eq (k : ℕ) : ∀ {ht : TimerHeap} {node slot : ℕ}, slot < 2 ^ 31 →
    (∀ i < slot, Homed ht.timerDups (ht.heap i)) → Homed ht.timerDups node →
    ht.reheapUp k node slot (parent slot) =
      ht.withView (siftUp (keyOf ht.timerDups) k ht.view node slot) := by
  induction k with
  | zero =>
    intro ht node slot hs _ hn
    exact copyNode_eq hs hn
  | succ k ih =>
    intro ht node slot hs hh hn
    rw [TimerHeap.reheapUp, siftUp]
    by_cases h0 : 0 < slot
    · have hp := parent_lt h0
      rw [if_pos h0]
      by_cases hlt : (ht.timerDups node).timerValue.lt (ht.valueAt (parent slot))
      · have hpar : Homed ht.timerDups (ht.heap (parent slot)) := hh _ hp
        rw [if_pos hlt, if_pos ⟨h0, (TimeVal.lt_iff ..).1 hlt⟩, copyNode_eq hs hpar]
        refine ih (by omega) ?_ hn
        intro i hi
        simpa [TimerHeap.withView, TimerHeap.view, Indexed.place,
          Function.update_of_ne (show i ≠ slot by omega)] using hh i (by omega)
      · rw [if_neg hlt, if_neg (fun h => hlt ((TimeVal.lt_iff ..).2 h.2)), copyNode_eq hs hn]
    · rw [if_neg h0, if_neg (fun h => h0 h.1), copyNode_eq hs hn]

lemma reheapDown_eq (k : ℕ) : ∀ {ht : TimerHeap} {node slot child : ℕ}, slot < 2 ^ 31 →
    ht.curSize ≤ 2 ^ 31 → slot < child → (∀ i, slot < i → i < ht.curSize → Homed ht.timerDups (ht.heap i)) →
    Homed ht.timerDups node → ht.reheapDown k node slot child =
      ht.withView (siftDown (keyOf ht.timerDups) ht.curSize k ht.view node slot child) := by
  induction k with
  | zero =>
    intro ht node slot child hs _ _ _ hn
    exact copyNode_eq hs hn
  | succ k ih =>
    intro ht node slot child hs hc hsc hh hn
    have hsmall : (if child + 1 < ht.curSize ∧ (ht.valueAt (child + 1)).lt (ht.valueAt child)
        then child + 1 else child) = smaller (keyOf ht.timerDups) ht.curSize ht.view.slots child := by
      simp only [TimeVal.lt_iff]
      rfl
    rw [TimerHeap.reheapDown, siftDown, hsmall]
    by_cases hlt : child < ht.curSize
    · obtain ⟨hcase, hcn⟩ := smaller_cases (keyOf ht.timerDups) ht.curSize ht.view.slots hlt
      simp only [if_pos hlt]
      generalize smaller (keyOf ht.timerDups) ht.curSize ht.view.slots child = c at *
      by_cases hk : (ht.valueAt c).lt (ht.timerDups node).timerValue
      · have hch : Homed ht.timerDups (ht.heap c) := hh c (by omega) hcn
        have hkey : keyOf ht.timerDups (ht.view.slots c) < keyOf ht.timerDups node :=
          (TimeVal.lt_iff ..).1 hk
        rw [if_pos hk, if_pos hkey, copyNode_eq hs hch]
        refine ih (by omega) hc (by unfold left; omega) ?_ hn
        intro i hi hin
        simpa [TimerHeap.withView, TimerHeap.view, Indexed.place,
          Function.update_of_ne (show i ≠ slot by omega)] using hh i (by omega) hin
      · have hkey : ¬ keyOf ht.timerDups (ht.view.slots c) < keyOf ht.timerDups node :=
          fun h => hk ((TimeVal.lt_iff ..).2 h)
        rw [if_neg hk, if_neg hkey, copyNode_eq hs hn]
    · rw [if_neg hlt, if_neg hlt, copyNode_eq hs hn]

def TimerHeap.Live (ht : TimerHeap) (node : ℕ) : Prop := ∃ i < ht.curSize, ht.heap i = node

/-- The free list enumerates `l`, which has every id that is not in use, once. -/
structure FreeIds (ht : TimerHeap) (l : List ℕ) : Prop where
  chain : Chain ht.timerIds ht.timerIdsFreelist l ht.maxSize
  nodup : l.Nodup
  mem : ∀ k, k ∈ l ↔ (1 ≤ k ∧ k < ht.maxSize) ∧ ¬ ht.Live k

structure Running (ht : TimerHeap) : Prop where
  size : ht.curSize + 1 < ht.maxSize
  fits : ht.maxSize < 2 ^ 31
  homed : ∀ i < ht.curSize, Homed ht.timerDups (ht.heap i)
  range : ∀ i < ht.curSize, 1 ≤ ht.heap i ∧ ht.heap i < ht.maxSize
  heap : Heap (keyOf ht.timerDups) ht.view ht.curSize ht.curSize

structure Inv (ht : TimerHeap) : Prop extends Running ht where
  free : ∃ l, FreeIds ht l

lemma Inv.live_range (h : Inv ht) (hl : ht.Live node) :
    (1 ≤ node ∧ node < ht.maxSize) ∧ Homed ht.timerDups node := by
  obtain ⟨i, hi, rfl⟩ := hl
  exact ⟨h.range i hi, h.homed i hi⟩

variable {k : ℕ}

lemma Inv.timerIds_nonneg (h : Inv ht) (h1 : 1 ≤ k) (hk : k < ht.maxSize)
    (hpos : 0 ≤ ht.timerIds k) : ∃ i < ht.curSize, ht.heap i = k ∧ ht.timerIds k = i := by
  obtain ⟨l, hl⟩ := h.free
  by_cases hlive : ht.Live k
  · obtain ⟨i, hi, rfl⟩ := hlive
    exact ⟨i, hi, rfl, h.heap.pos i hi (by omega)⟩
  · -- the entry of a free id is the next free id or the end of the list, negated
    have hneg : ∀ (l : List ℕ) (first : ℤ), Chain ht.timerIds first l ht.maxSize →
        (∀ j ∈ l, 1 ≤ j) → 0 < first ∧ ∀ j ∈ l, ht.timerIds j < 0 := by
      have hmax := h.size
      intro l
      induction l with
      | nil =>
        intro first hc _
        refine ⟨?_, by simp⟩
        rw [show first = ht.maxSize from hc]
        omega
      | cons a l ih =>
        intro first hc hone
        obtain ⟨hp, hall⟩ := ih _ hc.2 fun j hj => hone j (by simp [hj])
        refine ⟨?_, ?_⟩
        · have := hone a (by simp)
          rw [hc.1]
          omega
        · intro j hj
          rcases List.mem_cons.1 hj with rfl | hj
          · omega
          · exact hall j hj
    have := (hneg l _ hl.chain fun j hj => ((hl.mem j).1 hj).1.1).2 k ((hl.mem k).2 ⟨⟨h1, hk⟩, hlive⟩)
    omega

lemma Inv.of_entries {ht ht' : TimerHeap} (h : Inv ht) (hm : ht'.maxSize = ht.maxSize)
    (hc : ht'.curSize = ht.curSize) (hh : ht'.heap = ht.heap) (hi : ht'.timerIds = ht.timerIds)
    (hf : ht'.timerIdsFreelist = ht.timerIdsFreelist)
    (hd : ∀ k, (ht'.timerDups k).dup.timerId = (ht.timerDups k).dup.timerId ∧
      (ht'.timerDups k).timerValue = (ht.timerDups k).timerValue) : Inv ht' := by
  have hkey : keyOf ht'.timerDups = keyOf ht.timerDups := by
    funext k
    rw [keyOf, keyOf, (hd k).2]
  have hlive : ∀ k, ht'.Live k ↔ ht.Live k := by
    intro k
    rw [TimerHeap.Live, TimerHeap.Live, hc, hh]
  obtain ⟨l, hl⟩ := h.free
  refine ⟨⟨by rw [hm, hc]; exact h.size, by rw [hm]; exact h.fits, ?_, ?_, ?_⟩, l, ?_, hl.nodup, ?_⟩
  · rw [hc, hh]
    intro i hi
    rw [Homed, (hd _).1]
    exact h.homed i hi
  · rw [hc, hh, hm]
    exact h.range
  · rw [hkey, hc, TimerHeap.view, hh, hi]
    exact h.heap
  · rw [hi, hf, hm]
    exact hl.chain
  · intro k
    rw [hm, hlive]
    exact hl.mem k

lemma unlinkNode_key (ht : TimerHeap) (node : ℕ) :
    keyOf (ht.unlinkNode node).timerDups = keyOf ht.timerDups := by
  funext k
  by_cases hk : k = node
  · simp [keyOf, TimerHeap.unlinkNode, TimerHeap.pushFreelist, hk]
  · simp [keyOf, TimerHeap.unlinkNode, TimerHeap.pushFreelist, Function.update_of_ne hk]

lemma unlinkNode_homed (hk : k ≠ node) (h : Homed ht.timerDups k) :
    Homed (ht.unlinkNode node).timerDups k := by
  rw [Homed, TimerHeap.unlinkNode]
  simp only [TimerHeap.pushFreelist, Function.update_of_ne hk]
  exact h

lemma removeNode_eq (h : Inv ht) (hs : slot < ht.curSize) :
    (ht.removeNode slot).1 = (ht.unlinkNode (ht.heap slot)).withView
      (remove (keyOf ht.timerDups) (ht.unlinkNode (ht.heap slot)).view (ht.curSize - 1) slot) := by
  have hsize := h.size
  have hfits := h.fits
  set u := ht.unlinkNode (ht.heap slot) with hu
  have hcur : u.curSize = ht.curSize - 1 := rfl
  have hhome : ∀ i < ht.curSize, i ≠ slot → Homed u.timerDups (u.heap i) := by
    intro i hi hne
    have hdiff : ht.heap i ≠ ht.heap slot := fun he => hne (h.heap.inj i hi slot hs he)
    exact unlinkNode_homed hdiff (h.homed i hi)
  rw [TimerHeap.removeNode, ← hu, remove, ← unlinkNode_key ht (ht.heap slot), ← hu, hcur]
  by_cases hlt : slot < ht.curSize - 1
  · have hlast := hhome (ht.curSize - 1) (by omega) (by omega)
    have hrest : ∀ i < ht.curSize - 1,
        Homed u.timerDups ((u.view.place slot (u.heap (ht.curSize - 1))).slots i) := by
      intro i hi
      by_cases his : i = slot
      · simpa [Indexed.place, his] using hlast
      · simpa [Indexed.place, TimerHeap.view, Function.update_of_ne his] using hhome i (by omega) his
    simp only [if_pos hlt]
    rw [copyNode_eq (by omega) hlast, replace]
    set v := u.withView (u.view.place slot (u.heap (ht.curSize - 1))) with hv
    by_cases hk : (v.timerDups (u.heap (ht.curSize - 1))).timerValue.gte (v.valueAt (parent slot))
    · have hkey := (TimeVal.gte_iff ..).1 hk
      rw [if_pos hk]
      refine (@reheapDown_eq v.curSize v _ slot (left slot) (by omega) ?_ ?_ ?_ hlast).trans ?_
      · show ht.curSize - 1 ≤ 2 ^ 31
        omega
      · unfold left
        omega
      · intro i _ hi
        exact hrest i hi
      · exact congrArg u.withView (if_pos hkey).symm
    · have hkey := fun hle => hk ((TimeVal.gte_iff ..).2 hle)
      rw [if_neg hk]
      refine (@reheapUp_eq slot v _ slot (by omega) ?_ hlast).trans ?_
      · intro i hi
        exact hrest i (by omega)
      · exact congrArg u.withView (if_neg hkey).symm
  · rw [if_neg hlt, if_neg hlt]
    rfl

lemma unlinkNode_timerIds (h : Inv ht) (hs : slot < ht.curSize) : (ht.unlinkNode (ht.heap slot)).timerIds =
      Function.update ht.timerIds (ht.heap slot) (-ht.timerIdsFreelist) := by
  have hid : (ht.timerDups (ht.heap slot)).dup.timerId = ht.heap slot := h.homed slot hs
  show Function.update ht.timerIds (ht.timerDups (ht.heap slot)).dup.timerId.toNat _ = _
  rw [hid, Int.toNat_natCast]

lemma unlinkNode_heap (h : Inv ht) (hs : slot < ht.curSize) :
    Heap (keyOf ht.timerDups) (ht.unlinkNode (ht.heap slot)).view (ht.curSize - 1 + 1) slot := by
  rw [show ht.curSize - 1 + 1 = ht.curSize by omega]
  refine ⟨h.heap.inj, ?_, h.heap.ordered⟩
  intro i hi hne
  have hdiff : ht.heap i ≠ ht.heap slot := fun he => hne (h.heap.inj i hi slot hs he)
  show (ht.unlinkNode (ht.heap slot)).timerIds (ht.heap i) = i
  rw [unlinkNode_timerIds h hs, Function.update_of_ne hdiff]
  exact h.heap.pos i hi (by omega)

lemma removeNode_live (h : Inv ht) (hs : slot < ht.curSize) (k : ℕ) :
    (ht.removeNode slot).1.Live k ↔ ht.Live k ∧ k ≠ ht.heap slot := by
  obtain ⟨-, hmem, -⟩ := (unlinkNode_heap h hs).remove (by omega)
  rw [removeNode_eq h hs]
  refine (hmem k).trans ?_
  rw [show ht.curSize - 1 + 1 = ht.curSize by omega]
  constructor
  · rintro ⟨i, hi, hne, rfl⟩
    exact ⟨⟨i, hi, rfl⟩, fun he => hne (h.heap.inj i hi slot hs he)⟩
  · rintro ⟨⟨i, hi, rfl⟩, hne⟩
    refine ⟨i, hi, ?_, rfl⟩
    rintro rfl
    exact hne rfl

lemma removeNode_inv (h : Inv ht) (hs : slot < ht.curSize) : Inv (ht.removeNode slot).1 := by
  have hsize := h.size
  have hid : (ht.timerDups (ht.heap slot)).dup.timerId = ht.heap slot := h.homed slot hs
  have hids := unlinkNode_timerIds h hs
  obtain ⟨h1, hmax⟩ := h.range slot hs
  obtain ⟨hr, hmem, hother⟩ := (unlinkNode_heap h hs).remove (by omega)
  have hlive := removeNode_live h hs
  rw [removeNode_eq h hs] at hlive ⊢
  set node := ht.heap slot with hnode
  set u := ht.unlinkNode node with hu
  set r := remove (keyOf ht.timerDups) u.view (ht.curSize - 1) slot with hrdef
  obtain ⟨l, hl⟩ := h.free
  have hnl : node ∉ l := fun hin => ((hl.mem node).1 hin).2 ⟨slot, hs, rfl⟩
  have hpos : ∀ k, ¬ (u.withView r).Live k → r.pos k = u.timerIds k := by
    intro k hk
    exact hother k fun hm => hk ((hmem k).2 hm)
  refine ⟨⟨?_, h.fits, ?_, ?_, ?_⟩, node :: l, ⟨?_, ?_⟩, ?_, ?_⟩
  · show ht.curSize - 1 + 1 < ht.maxSize
    omega
  · intro i hi
    obtain ⟨hl', hne⟩ := (hlive _).1 ⟨i, hi, rfl⟩
    exact unlinkNode_homed hne (h.live_range hl').2
  · intro i hi
    exact (h.live_range ((hlive _).1 ⟨i, hi, rfl⟩).1).1
  · show Heap (keyOf u.timerDups) r (ht.curSize - 1) (ht.curSize - 1)
    rw [hu, unlinkNode_key]
    exact hr
  · exact hid
  · show Chain r.pos (-r.pos node) l ht.maxSize
    rw [hpos node fun hn => ((hlive node).1 hn).2 rfl, hids, Function.update_self, neg_neg]
    apply hl.chain.congr
    intro k hk
    have hkn : k ≠ node := fun he => hnl (he ▸ hk)
    rw [hpos k fun hn => ((hl.mem k).1 hk).2 ((hlive k).1 hn).1, hids, Function.update_of_ne hkn]
  · exact List.nodup_cons.2 ⟨hnl, hl.nodup⟩
  · intro k
    rw [List.mem_cons, hl.mem k, hlive k]
    show _ ↔ (1 ≤ k ∧ k < ht.maxSize) ∧ _
    constructor
    · rintro (rfl | ⟨hr, hn⟩)
      · exact ⟨⟨h1, hmax⟩, fun hn => hn.2 rfl⟩
      · exact ⟨hr, fun hl => hn hl.1⟩
    · rintro ⟨hr, hn⟩
      by_cases hk : k = node
      · exact .inl hk
      · exact .inr ⟨hr, fun hl => hn ⟨hl, hk⟩⟩

/-- The id `k` is off the free list and not in use yet. -/
structure Taken (ht : TimerHeap) (k : ℕ) : Prop extends Running ht where
  pos : 1 ≤ k
  lt : k < ht.maxSize
  fresh : ¬ ht.Live k
  free : ∃ l, Chain ht.timerIds ht.timerIdsFreelist l ht.maxSize ∧ l.Nodup ∧
    ∀ j, j ∈ l ↔ ((1 ≤ j ∧ j < ht.maxSize) ∧ ¬ ht.Live j) ∧ j ≠ k

lemma Inv.free_ne_nil (h : Inv ht) (hl : FreeIds ht l) : l ≠ [] := by
  rintro rfl
  have hsub : Finset.Ico 1 ht.maxSize ⊆ (Finset.range ht.curSize).image ht.heap := by
    intro k hk
    by_contra hn
    have hlive : ¬ ht.Live k := by
      rintro ⟨i, hi, rfl⟩
      exact hn (Finset.mem_image_of_mem _ (Finset.mem_range.2 hi))
    have := (hl.mem k).2 ⟨Finset.mem_Ico.1 hk, hlive⟩
    simp at this
  have hcard := (Finset.card_le_card hsub).trans Finset.card_image_le
  rw [Nat.card_Ico, Finset.card_range] at hcard
  have := h.size
  omega

lemma popFreelist_taken (h : Inv ht) (entry : ℕ) :
    ∃ k : ℕ, ht.popFreelist.2 = k ∧ Taken (ht.popFreelist.1.setTimerId entry ht.popFreelist.2) k := by
  obtain ⟨l, hl⟩ := h.free
  cases l with
  | nil => exact absurd rfl (h.free_ne_nil hl)
  | cons k l =>
    obtain ⟨hfirst, hrest⟩ := hl.chain
    obtain ⟨hnk, hnd⟩ := List.nodup_cons.1 hl.nodup
    obtain ⟨⟨h1, hlt⟩, hfresh⟩ := (hl.mem k).1 (by simp)
    refine ⟨k, hfirst, ⟨h.size, h.fits, h.homed, h.range, h.heap⟩, h1, hlt, hfresh, l, ?_, hnd, ?_⟩
    · show Chain ht.timerIds (-ht.timerIds ht.timerIdsFreelist.toNat) l ht.maxSize
      rw [hfirst, Int.toNat_natCast]
      exact hrest
    · intro j
      show j ∈ l ↔ ((1 ≤ j ∧ j < ht.maxSize) ∧ ¬ ht.Live j) ∧ j ≠ k
      rw [← hl.mem j, List.mem_cons]
      constructor
      · intro hj
        exact ⟨.inr hj, fun he => hnk (he ▸ hj)⟩
      · rintro ⟨rfl | hj, hne⟩
        · exact absurd rfl hne
        · exact hj

variable {allocs : ℕ}

lemma growHeap_taken (h : Taken ht k) (ha : 3 ≤ allocs) (hfit : ht.maxSize * 2 < 2 ^ 31) :
    (ht.growHeap allocs).2 = .success ∧ (ht.growHeap allocs).1.maxSize = ht.maxSize * 2 ∧
      (ht.growHeap allocs).1.curSize = ht.curSize ∧ (ht.growHeap allocs).1.entries = ht.entries ∧
      (ht.growHeap allocs).1.timerDups = ht.timerDups ∧
      (∀ j, (ht.growHeap allocs).1.Live j ↔ ht.Live j) ∧ Taken (ht.growHeap allocs).1 k := by
  have hsize := h.size
  rw [TimerHeap.growHeap]
  simp only [if_neg (show ¬ allocs < 2 by omega), if_neg (show ¬ allocs < 3 by omega), true_and]
  set g : TimerHeap := { ht with
    heap := fun i => if i < ht.curSize then ht.heap i else 0
    timerIds := fun i =>
      if ht.maxSize ≤ i ∧ i < ht.maxSize * 2 then -int (i + 1) else ht.timerIds i
    maxSize := ht.maxSize * 2 } with hg
  have hheap : ∀ i < ht.curSize, g.heap i = ht.heap i := fun i hi => if_pos hi
  have hids : ∀ i < ht.maxSize, g.timerIds i = ht.timerIds i :=
    fun i hi => if_neg (by omega)
  have hlive : ∀ j, g.Live j ↔ ht.Live j := by
    intro j
    constructor
    · rintro ⟨i, hi, rfl⟩
      exact ⟨i, hi, (hheap i hi).symm⟩
    · rintro ⟨i, hi, rfl⟩
      exact ⟨i, hi, hheap i hi⟩
  obtain ⟨l, hc, hnd, hmem⟩ := h.free
  -- the new ids are threaded behind the old ones
  have hnew : Chain g.timerIds ht.maxSize (List.range' ht.maxSize ht.maxSize)
      ((ht.maxSize + ht.maxSize : ℕ) : ℤ) := by
    apply chain_range'
    intro i h1 h2
    show (if _ then _ else _) = _
    rw [if_pos ⟨h1, by omega⟩]
    rw [int_succ (by omega)]
  have hrange : ∀ j ∈ List.range' ht.maxSize ht.maxSize, ht.maxSize ≤ j ∧ j < ht.maxSize * 2 := by
    intro j hj
    rw [List.mem_range'_1] at hj
    omega
  refine ⟨hlive, ⟨?_, hfit, ?_, ?_, ?_⟩, h.pos, ?_, fun hl => h.fresh ((hlive k).1 hl),
    l ++ List.range' ht.maxSize ht.maxSize, ?_, ?_, ?_⟩
  · show ht.curSize + 1 < ht.maxSize * 2
    omega
  · intro i hi
    rw [hheap i hi]
    exact h.homed i hi
  · intro i hi
    have := h.range i hi
    rw [hheap i hi]
    exact ⟨this.1, by show _ < ht.maxSize * 2; omega⟩
  · refine ⟨?_, ?_, ?_⟩
    · intro i hi j hj he
      rw [show g.view.slots i = ht.heap i from hheap i hi,
        show g.view.slots j = ht.heap j from hheap j hj] at he
      exact h.heap.inj i hi j hj he
    · intro i hi hne
      show g.timerIds (g.heap i) = i
      rw [hheap i hi, hids _ (h.range i hi).2]
      exact h.heap.pos i hi hne
    · intro i hi hin
      have hp := parent_lt hi
      show keyOf ht.timerDups (g.heap (parent i)) ≤ keyOf ht.timerDups (g.heap i)
      rw [hheap i hin, hheap _ (lt_trans hp hin)]
      exact h.heap.ordered i hi hin
  · show k < ht.maxSize * 2
    have := h.lt
    omega
  · have hold : Chain g.timerIds ht.timerIdsFreelist l ht.maxSize :=
      hc.congr fun j hj => hids j ((hmem j).1 hj).1.1.2
    show Chain g.timerIds ht.timerIdsFreelist _ ((ht.maxSize * 2 : ℕ) : ℤ)
    rw [Nat.mul_two]
    exact hold.append hnew
  · refine List.nodup_append.2 ⟨hnd, List.nodup_range' .., ?_⟩
    rintro a ha b hb rfl
    have h1 := ((hmem a).1 ha).1.1.2
    have h2 := (hrange a hb).1
    omega
  · intro j
    show _ ↔ ((1 ≤ j ∧ j < ht.maxSize * 2) ∧ ¬ g.Live j) ∧ j ≠ k
    rw [List.mem_append, hmem j, hlive j, List.mem_range'_1]
    have hk := h.lt
    constructor
    · rintro (⟨⟨hr, hn⟩, hne⟩ | hr)
      · exact ⟨⟨⟨hr.1, by omega⟩, hn⟩, hne⟩
      · refine ⟨⟨⟨by omega, by omega⟩, ?_⟩, by omega⟩
        rintro ⟨i, hi, rfl⟩
        have := h.range i hi
        omega
    · rintro ⟨⟨hr, hn⟩, hne⟩
      by_cases hj : j < ht.maxSize
      · exact .inl ⟨⟨⟨hr.1, hj⟩, hn⟩, hne⟩
      · exact .inr ⟨by omega, by omega⟩

variable {entry : ℕ}

lemma Taken.placeNode (h : Taken ht k)
    (hroom : ht.curSize + 2 < ht.maxSize) (hd : (ht.entries entry).timerId = k) (time : TimeVal) :
    Inv (ht.placeNode entry time) ∧ ∀ j, (ht.placeNode entry time).Live j ↔ j = k ∨ ht.Live j := by
  have hfits := h.fits
  rw [TimerHeap.placeNode, hd, Int.toNat_natCast]
  set d : EntryDup := ⟨ht.entries entry, entry, time⟩
  set ht1 : TimerHeap := { ht with timerDups := Function.update ht.timerDups k d } with hht1
  have hne : ∀ i < ht.curSize, ht.heap i ≠ k := fun i hi he => h.fresh ⟨i, hi, he⟩
  have hhome : ∀ j, ht.Live j → Homed ht1.timerDups j := by
    rintro j ⟨i, hi, rfl⟩
    show (Function.update ht.timerDups k d (ht.heap i)).dup.timerId = _
    rw [Function.update_of_ne (hne i hi)]
    exact h.homed i hi
  have hk : Homed ht1.timerDups k := by
    show (Function.update ht.timerDups k d k).dup.timerId = _
    rw [Function.update_self]
    exact hd
  have hkey : ∀ i < ht.curSize, keyOf ht1.timerDups (ht.heap i) = keyOf ht.timerDups (ht.heap i) := by
    intro i hi
    show (Function.update ht.timerDups k d (ht.heap i)).timerValue.key = _
    rw [Function.update_of_ne (hne i hi)]
    rfl
  have hheap : Heap (keyOf ht1.timerDups) ht1.view ht.curSize ht.curSize := by
    refine ⟨h.heap.inj, h.heap.pos, ?_⟩
    intro i hi hin
    have hp := parent_lt hi
    show keyOf ht1.timerDups (ht.heap (parent i)) ≤ keyOf ht1.timerDups (ht.heap i)
    rw [hkey i hin, hkey _ (lt_trans hp hin)]
    exact h.heap.ordered i hi hin
  obtain ⟨hr, hmem, hother⟩ := hheap.insert hne
  rw [@reheapUp_eq ht.curSize ht1 k ht.curSize (by omega) (fun i hi => hhome _ ⟨i, hi, rfl⟩) hk]
  set r := siftUp (keyOf ht1.timerDups) ht.curSize ht1.view k ht.curSize with hrdef
  set f : TimerHeap := { ht1.withView r with curSize := ht.curSize + 1 } with hf
  have hlive : ∀ j, f.Live j ↔ j = k ∨ ht.Live j := hmem
  obtain ⟨l, hc, hnd, hl⟩ := h.free
  refine ⟨⟨⟨hroom, hfits, ?_, ?_, hr⟩, l, ?_, hnd, ?_⟩, hlive⟩
  · intro i hi
    rcases (hlive _).1 ⟨i, hi, rfl⟩ with he | hj
    · show Homed ht1.timerDups (f.heap i)
      rw [he]
      exact hk
    · exact hhome _ hj
  · intro i hi
    rcases (hlive _).1 ⟨i, hi, rfl⟩ with he | ⟨j, hj, he⟩
    · rw [he]
      exact ⟨h.pos, h.lt⟩
    · rw [← he]
      exact h.range j hj
  · apply hc.congr
    intro j hj
    obtain ⟨⟨_, hn⟩, hjk⟩ := (hl j).1 hj
    exact hother j fun hp => hp.elim hjk hn
  · intro j
    show j ∈ l ↔ (1 ≤ j ∧ j < ht.maxSize) ∧ ¬ f.Live j
    rw [hl j, hlive j, not_or, and_assoc, and_comm (a := ¬ ht.Live j)]

def Granted (ht : TimerHeap) (allocs : ℕ) : Prop :=
  ht.curSize + 2 ≥ ht.maxSize → 3 ≤ allocs ∧ ht.maxSize * 2 < 2 ^ 31

instance (ht : TimerHeap) (allocs : ℕ) : Decidable (Granted ht allocs) :=
  inferInstanceAs (Decidable (_ → _))

lemma reheapUp_fields (k : ℕ) : ∀ (ht : TimerHeap) (node slot par : ℕ),
    (ht.reheapUp k node slot par).timerDups = ht.timerDups ∧
      (ht.reheapUp k node slot par).entries = ht.entries := by
  induction k with
  | zero => exact fun _ _ _ _ => ⟨rfl, rfl⟩
  | succ k ih =>
    intro ht node slot par
    rw [TimerHeap.reheapUp]
    split_ifs
    · exact ih ..
    · exact ⟨rfl, rfl⟩
    · exact ⟨rfl, rfl⟩

/-- A timer was added, under the id `k` that its entry has. -/
structure Added (ht ht' : TimerHeap) (entry k : ℕ) (time : TimeVal) : Prop where
  inv : Inv ht'
  live : ∀ j, ht'.Live j ↔ j = k ∨ ht.Live j
  timerDups : ht'.timerDups = Function.update ht.timerDups k ⟨ht.entries entry, entry, time⟩
  entries : ht'.entries = ht.entries

lemma Taken.added (h : Taken ht k)
    (hroom : ht.curSize + 2 < ht.maxSize) (hd : (ht.entries entry).timerId = k) (time : TimeVal) :
    Added ht (ht.placeNode entry time) entry k time := by
  obtain ⟨hinv, hlive⟩ := h.placeNode hroom hd time
  refine ⟨hinv, hlive, ?_, ?_⟩
  · rw [TimerHeap.placeNode]
    refine (reheapUp_fields ..).1.trans ?_
    rw [hd, Int.toNat_natCast]
  · exact (reheapUp_fields ..).2

lemma insertNode_added (h : Taken ht k)
    (hk : (ht.entries entry).timerId = k) (time : TimeVal) (hg : Granted ht allocs) :
    (ht.insertNode entry time allocs).2 = .success ∧
      Added ht (ht.insertNode entry time allocs).1 entry k time := by
  have hsize := h.size
  unfold TimerHeap.insertNode
  by_cases hgrow : ht.curSize + 2 ≥ ht.maxSize
  · obtain ⟨ha, hfit⟩ := hg hgrow
    obtain ⟨hst, hmax, hcur, hent, hdup, hlive, hgt⟩ := growHeap_taken h ha hfit
    obtain ⟨h1, h2, h3, h4⟩ := hgt.added (by omega) (by rw [hent, hk]) time
    simp only [if_pos hgrow, hst, ne_eq, not_true_eq_false, if_false, true_and]
    refine ⟨h1, fun j => ?_, ?_, h4.trans hent⟩
    · rw [h2, hlive]
    · rw [h3, hdup, hent]
  · simp only [if_neg hgrow, ne_eq, not_true_eq_false, if_false, true_and]
    exact h.added (by omega) hk time

lemma scheduleEntry_added (h : Inv ht) (entry : ℕ) (time : TimeVal) (hg : Granted ht allocs) :
    (ht.scheduleEntry entry time allocs).2 = .success ∧ ∃ k : ℕ, 1 ≤ k ∧ ¬ ht.Live k ∧
        Added (ht.setTimerId entry k) (ht.scheduleEntry entry time allocs).1 entry k time := by
  have hsize := h.size
  obtain ⟨k, hk, ht'⟩ := popFreelist_taken h entry
  rw [TimerHeap.scheduleEntry, if_pos (by omega)]
  have hid : ((ht.popFreelist.1.setTimerId entry ht.popFreelist.2).entries entry).timerId = k := by
    rw [← hk]
    simp [TimerHeap.setTimerId]
  obtain ⟨hok, h1, h2, h3, h4⟩ := insertNode_added ht' hid time hg
  refine ⟨hok, k, ht'.pos, ht'.fresh, h1, h2, h3.trans ?_, h4.trans ?_⟩
  · rw [hk]
    rfl
  · rw [hk]
    rfl

lemma schedule_inv (h : Inv ht) (entry : ℕ) (delay : TimeVal) (setId : Option ℤ) (now : TimeVal)
    (hg : (ht.entries entry).cb ≠ none → ht.entryRunning entry = false → Granted ht allocs) :
    Inv (ht.schedule entry delay setId now allocs).1 := by
  unfold TimerHeap.schedule
  by_cases hcb : (ht.entries entry).cb = none
  · rw [if_pos hcb]
    exact h
  · rw [if_neg hcb]
    cases hrun : ht.entryRunning entry with
    | true => exact h
    | false =>
      obtain ⟨hok, k, -, -, hadd⟩ := scheduleEntry_added h entry (now.add delay) (hg hcb hrun)
      have hinv := hadd.inv
      simp only [Bool.false_eq_true, if_false]
      by_cases hst : (ht.scheduleEntry entry (now.add delay) allocs).2 = .success
      · rw [if_pos hst]
        cases setId with
        | none => exact hinv
        | some idVal =>
          refine hinv.of_entries rfl rfl rfl rfl rfl ?_
          intro k
          simp only [Function.update_apply]
          split_ifs with hk
          · rw [hk]
            exact ⟨rfl, rfl⟩
          · exact ⟨rfl, rfl⟩
      · rw [if_neg hst]
        exact hinv

lemma setTimerId_inv (h : Inv ht) (entry : ℕ) (id : ℤ) : Inv (ht.setTimerId entry id) :=
  h.of_entries rfl rfl rfl rfl rfl fun _ => ⟨rfl, rfl⟩

lemma cancel_inv (h : Inv ht) (h1 : 1 ≤ (ht.entries entry).timerId)
    (hlt : (ht.entries entry).timerId.toNat < ht.maxSize) : Inv (ht.cancel entry).1 := by
  unfold TimerHeap.cancel
  by_cases hneg : ht.timerIds (ht.entries entry).timerId.toNat < 0
  · simp only [if_pos hneg]
    exact setTimerId_inv h entry _
  · obtain ⟨i, hi, -, hslot⟩ := h.timerIds_nonneg (by omega) hlt (not_lt.1 hneg)
    simp only [if_neg hneg]
    split_ifs
    · exact setTimerId_inv h entry _
    · rw [hslot, Int.toNat_natCast]
      exact removeNode_inv h hi

lemma cancelTimer_inv (h : Inv ht) (entry : ℕ) (setId : Option ℤ) : Inv (ht.cancelTimer entry setId).1 := by
  unfold TimerHeap.cancelTimer
  by_cases hid : (ht.entries entry).timerId < 1 ∨ (ht.entries entry).timerId.toNat ≥ ht.maxSize
  · simp only [if_pos hid]
    exact h
  · have hinv : Inv (ht.cancel entry).1 := cancel_inv h (by omega) (by omega)
    simp only [if_neg hid]
    split_ifs
    · cases setId with
      | none => exact hinv
      | some idVal => exact hinv.of_entries rfl rfl rfl rfl rfl fun _ => ⟨rfl, rfl⟩
    · exact hinv

lemma pollLoop_inv {s : System} (h : Inv s.ht) (poller count : ℕ) (now later : TimeVal) :
    Inv (s.pollLoop poller count now later).ht := by
  unfold System.pollLoop
  by_cases hfire : s.ht.curSize ≠ 0 ∧ (s.ht.valueAt 0).lte now ∧ count < s.ht.maxEntriesPerPoll
  · simp only [if_pos hfire]
    exact removeNode_inv h (by omega)
  · simp only [if_neg hfire]
    exact h

def Allowed (s : System) : Op → Prop
  | .schedule entry _ _ _ allocs =>
    (s.ht.entries entry).cb ≠ none → s.ht.entryRunning entry = false → Granted s.ht allocs
  | _ => True

instance (s : System) (op : Op) : Decidable (Allowed s op) := by
  cases op <;> unfold Allowed <;> infer_instance

lemma step_inv {s : System} (h : Inv s.ht) (op : Op) (ha : Allowed s op) : Inv (step s op).ht := by
  cases op with
  | schedule entry delay setId now allocs => exact schedule_inv h entry delay setId now ha
  | cancel entry => exact cancelTimer_inv h entry none
  | cancelIfActive entry idVal => exact cancelTimer_inv h entry (some idVal)
  | setMaxTimedOutPerPoll count => exact h.of_entries rfl rfl rfl rfl rfl fun _ => ⟨rfl, rfl⟩
  | write entry contents => exact h.of_entries rfl rfl rfl rfl rfl fun _ => ⟨rfl, rfl⟩
  | poll poller now =>
    rw [step]
    split_ifs
    · exact h
    · exact h
    · exact pollLoop_inv h poller 0 now now
  | callbackDone poller now later =>
    rw [step]
    split
    · exact pollLoop_inv h poller _ now later
    · exact h

lemma create_inv (timerDups : ℕ → EntryDup) (entries : ℕ → Entry) {size : ℕ}
    (hs : size + 2 < 2 ^ 31) : Inv (create timerDups entries size) := by
  refine ⟨⟨by show 0 + 1 < size + 2; omega, hs, by simp [create], by simp [create],
    ⟨by simp [create], by simp [create], ?_⟩⟩, List.range' 1 (size + 1), ?_, List.nodup_range' .., ?_⟩
  · intro i _ hi
    simp [create] at hi
  · have := chain_range' (create timerDups entries size).timerIds (size + 1) 1 (by
      intro i _ hi
      show -int (i + 1) = _
      rw [int_succ (by omega)])
    rw [show 1 + (size + 1) = size + 2 by omega] at this
    exact this
  · intro k
    rw [List.mem_range'_1]
    show _ ↔ (1 ≤ k ∧ k < size + 2) ∧ ¬ (create timerDups entries size).Live k
    have hn : ¬ (create timerDups entries size).Live k := by
      rintro ⟨i, hi, _⟩
      simp [create] at hi
    constructor
    · intro h
      exact ⟨⟨h.1, by omega⟩, hn⟩
    · rintro ⟨h, _⟩
      exact ⟨h.1, by omega⟩

def TimerHeap.idAt (ht : TimerHeap) (slot : ℕ) : ℤ := (ht.timerDups (ht.heap slot)).dup.timerId

structure Consistent (ht : TimerHeap) : Prop where
  order : ∀ i, 0 < i → i < ht.curSize → (ht.valueAt (parent i)).lte (ht.valueAt i)
  slot : ∀ i < ht.curSize, ht.timerIds (ht.idAt i).toNat = i
  distinct : ∀ i < ht.curSize, ∀ j < ht.curSize, ht.idAt i = ht.idAt j → i = j
  range : ∀ i < ht.curSize, 1 ≤ ht.idAt i ∧ ht.idAt i < ht.maxSize
  free : ∃ l : List ℕ, Chain ht.timerIds ht.timerIdsFreelist l ht.maxSize ∧ l.Nodup ∧
    ∀ k : ℕ, k ∈ l ↔ (1 ≤ k ∧ k < ht.maxSize) ∧ ∀ i < ht.curSize, ht.idAt i ≠ k

lemma Inv.consistent (h : Inv ht) : Consistent ht := by
  have hid : ∀ i < ht.curSize, ht.idAt i = ht.heap i := h.homed
  obtain ⟨l, hl⟩ := h.free
  refine ⟨?_, ?_, ?_, ?_, l, hl.chain, hl.nodup, ?_⟩
  · intro i hi hin
    exact (TimeVal.lte_iff ..).2 (h.heap.ordered i hi hin)
  · intro i hi
    rw [hid i hi, Int.toNat_natCast]
    exact h.heap.pos i hi (by omega)
  · intro i hi j hj he
    rw [hid i hi, hid j hj] at he
    exact h.heap.inj i hi j hj (by exact_mod_cast he)
  · intro i hi
    have := h.range i hi
    rw [hid i hi]
    omega
  · intro k
    rw [hl.mem k]
    refine and_congr_right fun _ => ?_
    constructor
    · intro hn i hi he
      rw [hid i hi] at he
      exact hn ⟨i, hi, by exact_mod_cast he⟩
    · rintro hn ⟨i, hi, rfl⟩
      exact hn i hi (hid i hi)

/-- Over every run in which no growth of the heap fails, the heap, the map of ids and the list
of free ids agree, also during the callbacks. -/
theorem timer_heap_consistent (timerDups : ℕ → EntryDup) (entries : ℕ → Entry) (size : ℕ)
    (hs : size + 2 < 2 ^ 31) (ops : List Op)
    (hg : Guarded step Allowed ⟨create timerDups entries size, fun _ => .idle⟩ ops) :
    Consistent (run step ⟨create timerDups entries size, fun _ => .idle⟩ ops).ht := by
  have hinv := @Guarded.invariant _ _ step Allowed (fun s => Inv s.ht)
    (fun s op h ha => step_inv h op ha) ops _ (create_inv timerDups entries hs) hg
  exact hinv.consistent

/-- A heap that starts with room for no timer and grows; the first callback schedules again. -/
theorem timer_heap_consistent_run : Consistent (run step
      ⟨create (fun _ => default) (fun _ => ⟨-1, 0, 0, some 1⟩) 0, fun _ => .idle⟩
      [.schedule 0 ⟨1, 0⟩ none ⟨0, 0⟩ 3, .schedule 1 ⟨0, 500⟩ (some 7) ⟨0, 0⟩ 3,
        .schedule 2 ⟨2, 0⟩ none ⟨0, 0⟩ 3, .poll 0 ⟨1, 0⟩, .schedule 1 ⟨1, 0⟩ none ⟨1, 0⟩ 0,
        .callbackDone 0 ⟨1, 0⟩ ⟨1, 0⟩, .callbackDone 0 ⟨1, 1⟩ ⟨1, 1⟩, .cancel 2]).ht :=
  timer_heap_consistent _ _ 0 (by decide)
    [.schedule 0 ⟨1, 0⟩ none ⟨0, 0⟩ 3, .schedule 1 ⟨0, 500⟩ (some 7) ⟨0, 0⟩ 3,
      .schedule 2 ⟨2, 0⟩ none ⟨0, 0⟩ 3, .poll 0 ⟨1, 0⟩, .schedule 1 ⟨1, 0⟩ none ⟨1, 0⟩ 0,
      .callbackDone 0 ⟨1, 0⟩ ⟨1, 0⟩, .callbackDone 0 ⟨1, 1⟩ ⟨1, 1⟩, .cancel 2] (by decide)

/-- The pool has nothing left when the first timer is scheduled: id 1 is neither in use nor free. -/
theorem failed_growth_loses_id :
    ¬ ∀ (timerDups : ℕ → EntryDup) (entries : ℕ → Entry) (size : ℕ), size + 2 < 2 ^ 31 → ∀ ops : List Op,
        Consistent (run step ⟨create timerDups entries size, fun _ => .idle⟩ ops).ht := by
  intro h
  obtain ⟨l, hc, -, hmem⟩ := (h (fun _ => default) (fun _ => ⟨-1, 0, 0, some 1⟩) 0 (by decide)
    [.schedule 0 ⟨1, 0⟩ none ⟨0, 0⟩ 0]).free
  have h1 : 1 ∈ l := (hmem 1).2 ⟨by decide, fun i hi => absurd hi (Nat.not_lt_zero i)⟩
  cases l with
  | nil => simp at h1
  | cons k l =>
    have hk : (2 : ℤ) = k := hc.1
    have := ((hmem k).1 (by simp)).1.2
    have hmax : (k : ℤ) < 2 := by exact_mod_cast this
    omega

end PjProject.Timer
