import PjProject.FifoBuf

/-!
# Blocks of a fifo buffer

The live blocks are chains of blocks one behind the other (`Chain`): one chain from
`ubegin` to `uend`, or one up to an unused tail and one from the begin (`Layout`).
Every call keeps that, unless the size of a block with the size in front of it does
not fit 32 bits.
-/
namespace PjProject.Fifo

open RingMemory Transition

variable {mem mem' : ℕ → UInt8} {a e : ℕ} {bs : List Block} {b : Block}

lemma getSize_putSize (size : UInt32) : getSize (putSize mem a size) a = size.toNat := by
  have h := size.toNat_lt
  simp only [getSize, putSize, write, Nat.le_refl, if_true, Nat.sub_self, Nat.le_add_right,
    Nat.add_sub_cancel_left, List.getD_cons_zero, List.getD_cons_succ, UInt8.toNat_ofNat']
  omega

variable {size : UInt32}

lemma putSize_outside {i : ℕ} (h : i < a ∨ a + SZ ≤ i) : putSize mem a size i = mem i :=
  write_outside h

lemma getSize_congr (h : ∀ i, a ≤ i → i < a + SZ → mem' i = mem i) : getSize mem' a = getSize mem a := by
  unfold SZ at h
  rw [getSize, getSize, h a (by omega) (by omega), h (a + 1) (by omega) (by omega),
    h (a + 2) (by omega) (by omega), h (a + 3) (by omega) (by omega)]

/-- Blocks with their sizes, one behind the other from `a` to `e`. -/
def Chain (mem : ℕ → UInt8) : ℕ → List Block → ℕ → Prop
  | a, [], e => a = e
  | a, b :: bs, e => b.ptr = a + SZ ∧ getSize mem a = b.size + SZ ∧ Chain mem (a + SZ + b.size) bs e

lemma Chain.le (h : Chain mem a bs e) : a ≤ e := by
  induction bs generalizing a with
  | nil => exact h.le
  | cons b bs ih =>
    have := ih h.2.2
    omega

lemma Chain.snoc {n : ℕ} (h : Chain mem a bs e) (hsize : getSize mem e = n + SZ) :
    Chain mem a (bs ++ [⟨e + SZ, n⟩]) (e + SZ + n) := by
  induction bs generalizing a with
  | nil =>
    obtain rfl : a = e := h
    exact ⟨rfl, hsize, rfl⟩
  | cons b bs ih => exact ⟨h.1, h.2.1, ih h.2.2⟩

lemma Chain.mem_bounds (h : Chain mem a bs e) : ∀ b ∈ bs, a + SZ ≤ b.ptr ∧ b.ptr + b.size ≤ e := by
  induction bs generalizing a with
  | nil => exact fun b hb => absurd hb List.not_mem_nil
  | cons c bs ih =>
    intro b hb
    have hle := Chain.le h.2.2
    have hptr := h.1
    rcases List.mem_cons.mp hb with rfl | hb
    · omega
    · have := ih h.2.2 b hb
      omega

lemma Chain.pairwise (h : Chain mem a bs e) : bs.Pairwise fun b c => b.ptr + b.size + SZ ≤ c.ptr := by
  induction bs generalizing a with
  | nil => exact .nil
  | cons b bs ih =>
    refine .cons (fun c hc => ?_) (ih h.2.2)
    have := Chain.mem_bounds h.2.2 c hc
    have hptr := h.1
    omega

lemma Chain.congr (h : Chain mem a bs e)
    (hsame : ∀ b ∈ bs, ∀ i, b.ptr ≤ i + SZ → i < b.ptr → mem' i = mem i) : Chain mem' a bs e := by
  induction bs generalizing a with
  | nil => exact h
  | cons b bs ih =>
    obtain ⟨hptr, hsize, hrest⟩ := h
    refine ⟨hptr, ?_, ih hrest fun c hc => hsame c (List.mem_cons_of_mem _ hc)⟩
    rw [← hsize]
    exact getSize_congr fun i h1 h2 => hsame b List.mem_cons_self i (by omega) (by omega)

variable {n : UInt32} {p : ℕ}

lemma Chain.putSize (h : Chain mem a bs e) (hp : p + SZ ≤ a ∨ e ≤ p) : Chain (putSize mem p n) a bs e := by
  refine h.congr fun b hb i h1 h2 => putSize_outside ?_
  have := h.mem_bounds b hb
  omega

inductive Layout (f : FifoBuf) : List Block → Prop
  | empty : f.ubegin = 0 → f.uend = 0 → f.full = decide (f.last = 0) → Layout f []
  | linear {live} : live ≠ [] → Chain f.mem f.ubegin live f.uend → f.ubegin < f.uend → f.uend < f.last →
      f.full = false → Layout f live
  | wrapped {hi lo tail} : hi ++ lo ≠ [] → Chain f.mem f.ubegin hi tail → Chain f.mem 0 lo f.uend →
      f.uend ≤ f.ubegin → f.ubegin < f.last → tail ≤ f.last → (lo = [] → tail = f.last) →
      f.full = decide (f.uend = f.ubegin) → Layout f (hi ++ lo)

def FifoBuf.Used (f : FifoBuf) (i : ℕ) : Prop :=
  if f.uend > f.ubegin then f.ubegin ≤ i ∧ i < f.uend
  else f.ubegin ≤ i ∧ i < f.last ∨ i < f.uend

def Block.Apart (b c : Block) : Prop := ∀ i, ¬ (b.Covers i ∧ c.Covers i)

instance : Std.Symm Block.Apart := ⟨fun _ _ h i hi => h i hi.symm⟩

structure Session.Sound (s : Session) : Prop where
  inside : ∀ b ∈ s.live, SZ ≤ b.ptr ∧ b.ptr + b.size ≤ s.buf.last
  apart : s.live.Pairwise Block.Apart
  held : ∀ b ∈ s.live, ∀ i, b.Covers i → s.buf.Used i
  sizes : ∀ b ∈ s.live, getSize s.buf.mem (b.ptr - SZ) = b.size + SZ

lemma Chain.sizes (h : Chain mem a bs e) : ∀ b ∈ bs, getSize mem (b.ptr - SZ) = b.size + SZ := by
  induction bs generalizing a with
  | nil => exact fun b hb => absurd hb List.not_mem_nil
  | cons c bs ih =>
    intro b hb
    rcases List.mem_cons.mp hb with rfl | hb
    · rw [h.1, Nat.add_sub_cancel, h.2.1]
    · exact ih h.2.2 b hb

lemma Chain.apart (h : Chain mem a bs e) : bs.Pairwise Block.Apart := by
  refine h.pairwise.imp fun {b c} hbc i hi => ?_
  have h1 := hi.1.2
  have h2 := hi.2.1
  omega

lemma Chain.covers (h : Chain mem a bs e) (hb : b ∈ bs) {i : ℕ} (hi : b.Covers i) : a ≤ i ∧ i < e := by
  have := h.mem_bounds b hb
  obtain ⟨h1, h2⟩ := hi
  omega

variable {f : FifoBuf} {live : List Block}

lemma Layout.sound (h : Layout f live) : Session.Sound ⟨f, live⟩ := by
  cases h with
  | empty => exact ⟨by simp, .nil, by simp, by simp⟩
  | linear _ hchain hlt hlast _ =>
    refine ⟨fun b hb => ?_, hchain.apart, fun b hb i hi => ?_, hchain.sizes⟩
    · have := hchain.mem_bounds b hb
      exact ⟨by omega, by simp only; omega⟩
    · rw [FifoBuf.Used, if_pos hlt]
      exact hchain.covers hb hi
  | @wrapped hi lo tail _ hhi hlo hle hlt htail _ _ =>
    refine ⟨fun b hb => ?_, ?_, fun b hb i hc => ?_, fun b hb => ?_⟩
    · rcases List.mem_append.mp hb with hb | hb
      · have := hhi.mem_bounds b hb
        exact ⟨by omega, by simp only; omega⟩
      · have := hlo.mem_bounds b hb
        exact ⟨by omega, by simp only; omega⟩
    · refine List.pairwise_append.mpr ⟨hhi.apart, hlo.apart, fun b hb c hc i hi => ?_⟩
      have h1 := hhi.covers hb hi.1
      have h2 := hlo.covers hc hi.2
      omega
    · rw [FifoBuf.Used, if_neg (Nat.not_lt.mpr hle)]
      rcases List.mem_append.mp hb with hb | hb
      · have := hhi.covers hb hc
        exact .inl ⟨this.1, by simp only; omega⟩
      · exact .inr (hlo.covers hb hc).2
    · rcases List.mem_append.mp hb with hb | hb
      · exact hhi.sizes b hb
      · exact hlo.sizes b hb

def FifoBuf.room (f : FifoBuf) : ℕ :=
  if f.uend ≥ f.ubegin then max (f.last - f.uend) f.ubegin else f.ubegin - f.uend

lemma FifoBuf.availableSize_eq : f.availableSize = if f.full then 0 else f.room - SZ := by
  simp only [FifoBuf.availableSize, FifoBuf.room, SZ]
  grind

lemma FifoBuf.alloc_cases (f : FifoBuf) (size : UInt32) :
    (f.alloc size = (f, none) ∧ (f.full = true ∨ f.room < (need size).toNat ∨
      f.uend = f.ubegin ∧ f.last - f.uend < (need size).toNat)) ∨
    (f.full = false ∧ f.uend ≥ f.ubegin ∧ (need size).toNat ≤ f.last - f.uend ∧ f.alloc size = ({ f with
        mem := putSize f.mem f.uend (need size)
        uend := if f.uend + (need size).toNat = f.last then 0 else f.uend + (need size).toNat
        full := decide ((if f.uend + (need size).toNat = f.last then 0 else f.uend + (need size).toNat) = f.ubegin) },
        some (f.uend + SZ))) ∨
    (f.full = false ∧ (f.uend ≥ f.ubegin → f.last - f.uend < (need size).toNat) ∧
      ∃ start, (start = if f.uend ≤ f.ubegin then f.uend else 0) ∧ (need size).toNat ≤ f.ubegin - start ∧
        f.alloc size = ({ f with
          mem := putSize f.mem start (need size)
          uend := start + (need size).toNat
          full := decide (start + (need size).toNat = f.ubegin) }, some (start + SZ))) := by
  by_cases hfull : f.full = true
  · exact .inl ⟨by rw [FifoBuf.alloc, if_pos hfull], .inl hfull⟩
  · rw [Bool.not_eq_true] at hfull
    by_cases htail : f.uend ≥ f.ubegin ∧ f.last - f.uend ≥ (need size).toNat
    · refine .inr (.inl ⟨hfull, htail.1, htail.2, ?_⟩)
      simp only [FifoBuf.alloc, hfull, Bool.false_eq_true, if_false, if_pos htail]
    · have hsmall : f.uend ≥ f.ubegin → f.last - f.uend < (need size).toNat := fun h => by
        by_contra hc
        exact htail ⟨h, by omega⟩
      by_cases hstart : f.ubegin - (if f.uend ≤ f.ubegin then f.uend else 0) ≥ (need size).toNat
      · refine .inr (.inr ⟨hfull, hsmall, _, rfl, hstart, ?_⟩)
        simp only [FifoBuf.alloc, hfull, Bool.false_eq_true, if_false, if_neg htail, if_pos hstart]
      · refine .inl ⟨?_, ?_⟩
        · simp only [FifoBuf.alloc, hfull, Bool.false_eq_true, if_false, if_neg htail, if_neg hstart]
        · refine .inr ?_
          unfold FifoBuf.room
          split_ifs at hstart ⊢ with h1 h2
          all_goals omega

lemma Layout.room (h : Layout f live) (hfull : f.full = false) (heq : f.uend = f.ubegin) : f.ubegin = 0 := by
  cases h with
  | empty hbegin => exact hbegin
  | linear _ _ hlt => omega
  | wrapped _ _ _ _ _ _ _ hf => simp [hfull, heq] at hf

lemma Layout.alloc_isSome (h : Layout f live) :
    (f.alloc size).2.isSome ↔ f.full = false ∧ (need size).toNat ≤ f.room := by
  rcases f.alloc_cases size with ⟨heq, hno⟩ | ⟨hfull, hge, hroom, heq⟩ | ⟨hfull, hsmall, start, hstart, hroom, heq⟩
  · rw [heq]
    refine ⟨fun hc => (by cases hc), fun ⟨hfull, hle⟩ => ?_⟩
    rcases hno with hc | hc | ⟨hmeet, hc⟩
    · rw [hfull] at hc
      cases hc
    · omega
    · have := h.room hfull hmeet
      rw [FifoBuf.room, if_pos hmeet.ge] at hle
      omega
  · rw [heq]
    refine ⟨fun _ => ⟨hfull, ?_⟩, fun _ => rfl⟩
    rw [FifoBuf.room, if_pos hge]
    omega
  · rw [heq]
    refine ⟨fun _ => ⟨hfull, ?_⟩, fun _ => rfl⟩
    unfold FifoBuf.room
    split_ifs at hstart ⊢ <;> omega

lemma need_toNat (h : size.toNat + SZ < 2 ^ 32) : (need size).toNat = size.toNat + SZ := by
  rw [need, UInt32.toNat_add]
  exact Nat.mod_eq_of_lt h

lemma Layout.chain (h : Layout f live) (hfull : f.full = false)
    (hge : f.uend ≥ f.ubegin) : Chain f.mem f.ubegin live f.uend := by
  cases h with
  | empty hbegin hend =>
    rw [hbegin, hend]
    rfl
  | linear _ hchain => exact hchain
  | wrapped _ _ _ hle _ _ _ hf =>
    have hmeet : f.uend = f.ubegin := by omega
    simp [hfull, hmeet] at hf

lemma Layout.alloc (h : Layout f live) (hsize : size.toNat + SZ < 2 ^ 32) :
    Layout (f.alloc size).1 (live ++ (f.alloc size).2.toList.map fun ptr => ⟨ptr, size.toNat⟩) := by
  have hneed := need_toNat hsize
  have hget : ∀ m p, getSize (putSize m p (need size)) p = size.toNat + SZ := fun m p => by
    rw [getSize_putSize, hneed]
  have hpos : 0 < SZ := by decide
  rcases f.alloc_cases size with ⟨heq, -⟩ | ⟨hfull, hge, hroom, heq⟩ | ⟨hfull, hsmall, start, hstart, hroom, heq⟩
  · rw [heq]
    simpa using h
  · -- behind the used area
    rw [heq]
    have hchain := h.chain hfull hge
    have hsnoc := (hchain.putSize (.inr le_rfl)).snoc (hget f.mem f.uend)
    have hne : live ++ [⟨f.uend + SZ, size.toNat⟩] ≠ ([] : List Block) := by simp
    by_cases hend : f.uend + (need size).toNat = f.last
    · have hwrap : f.uend + SZ + size.toNat = f.last := by omega
      rw [hwrap] at hsnoc
      rw [if_pos hend, ← List.append_nil (live ++ _)]
      refine .wrapped (by simp) hsnoc rfl (Nat.zero_le _) ?_ le_rfl (fun _ => rfl) rfl
      simp only
      omega
    · rw [if_neg hend]
      have hmove : f.uend + (need size).toNat = f.uend + SZ + size.toNat := by omega
      rw [hmove] at hend ⊢
      refine .linear hne hsnoc ?_ ?_ (decide_eq_false (by omega))
      · simp only
        omega
      · simp only
        omega
  · rw [heq]
    have hmove : start + (need size).toNat = start + SZ + size.toNat := by omega
    have hne : ∀ l : List Block, l ++ [⟨start + SZ, size.toNat⟩] ≠ [] := fun l => by simp
    rw [hmove]
    cases h with
    | empty hbegin hend => omega
    | @linear live hne' hchain hlt hlast _ =>
      -- at the begin, leaving the tail
      rw [if_neg (by omega)] at hstart
      subst hstart
      have hkeep := hchain.putSize (p := 0) (n := need size) (.inl (by omega))
      refine .wrapped (hne _) hkeep ?_ ?_ ?_ hlast.le ?_ rfl
      · exact ⟨rfl, hget f.mem 0, rfl⟩
      · simp only
        omega
      · simp only
        omega
      · exact fun hc => absurd hc (by simp)
    | @wrapped hi lo tail hne' hhi hlo hle hlt htail hlast hf =>
      -- behind the chain that stands at the begin
      rw [if_pos hle] at hstart
      subst hstart
      have hsnoc := (hlo.putSize (.inr le_rfl)).snoc (hget f.mem f.uend)
      have hkeep := hhi.putSize (p := f.uend) (n := need size) (.inl (by omega))
      simp only [Option.toList_some, List.map_cons, List.map_nil, List.append_assoc]
      refine .wrapped ?_ hkeep hsnoc ?_ hlt htail ?_ rfl
      · simp
      · simp only
        omega
      · exact fun hc => absurd hc (by simp)

lemma Layout.congr (h : Layout f live)
    (hsame : ∀ b ∈ live, ∀ i, b.ptr ≤ i + SZ → i < b.ptr → mem' i = f.mem i) :
    Layout { f with mem := mem' } live := by
  cases h with
  | empty hbegin hend hf => exact .empty hbegin hend hf
  | linear hne hchain hlt hlast hf => exact .linear hne (hchain.congr hsame) hlt hlast hf
  | wrapped hne hhi hlo hle hlt htail hlast hf =>
    have hhi' := hhi.congr fun b hb => hsame b (List.mem_append_left _ hb)
    have hlo' := hlo.congr fun b hb => hsame b (List.mem_append_right _ hb)
    exact .wrapped hne hhi' hlo' hle hlt htail hlast hf

lemma FifoBuf.free_eq {size : ℕ} (hbegin : p = f.ubegin ∨ p = 0) (hlt : p < f.last)
    (hsize : getSize f.mem p = size + SZ)
    (hfin : p + SZ + size ≤ if f.uend > f.ubegin then f.uend else f.last) :
    f.free (p + SZ) = (f.release (p + SZ + size), .success) := by
  simp only [FifoBuf.free, Nat.add_sub_cancel, hsize]
  rw [if_neg (by omega), if_neg (by omega), if_neg (by omega)]
  congr 2
  omega

lemma Chain.eq_nil (h : Chain mem a bs e) (hle : e ≤ a) : bs = [] := by
  cases bs with
  | nil => rfl
  | cons b bs =>
    have := Chain.le h.2.2
    have hpos : 0 < SZ := by decide
    omega

@[simp] lemma FifoBuf.release_mem : (f.release p).mem = f.mem := by
  simp only [FifoBuf.release]
  split_ifs <;> rfl

@[simp] lemma FifoBuf.release_last : (f.release p).last = f.last := by
  simp only [FifoBuf.release]
  split_ifs <;> rfl

lemma Layout.release {q : ℕ} {rest : List Block} (hchain : Chain f.mem q rest f.uend)
    (hq : q = if p = f.last then 0 else p) (hlast : f.uend < f.last) : Layout (f.release p) rest := by
  have hle := hchain.le
  simp only [FifoBuf.release, ← hq]
  by_cases hempty : q = f.uend
  · obtain rfl := hchain.eq_nil hempty.ge
    rw [if_pos hempty]
    exact .empty rfl rfl (by simp only [Bool.false_eq, decide_eq_false_iff_not]; omega)
  · rw [if_neg hempty]
    refine .linear (fun hc => ?_) hchain (by simp only; omega) hlast rfl
    subst hc
    exact hempty hchain

lemma Layout.free {rest : List Block} (h : Layout f (b :: rest)) :
    (f.free b.ptr).2 = .success ∧ Layout (f.free b.ptr).1 rest ∧ (f.free b.ptr).1.mem = f.mem ∧
      (f.free b.ptr).1.last = f.last := by
  have hpos : 0 < SZ := by decide
  generalize hlive : b :: rest = live at h
  cases h with
  | empty => cases hlive
  | linear hne hchain hlt hlast hf =>
    subst hlive
    obtain ⟨hptr, hsize, hrest⟩ := hchain
    have hle := hrest.le
    rw [hptr, FifoBuf.free_eq (.inl rfl) (by omega) hsize (by rw [if_pos hlt]; exact hle)]
    exact ⟨rfl, .release hrest (by rw [if_neg (by omega)]) hlast, FifoBuf.release_mem, FifoBuf.release_last⟩
  | @wrapped hi lo tail hne hhi hlo hle hlt htail hlast hf =>
    cases hi with
    | nil =>
      -- the blocks up to the tail are gone, and the oldest stands at the begin
      obtain rfl : b :: rest = lo := hlive
      obtain ⟨hptr, hsize, hrest⟩ := hlo
      have hend := hrest.le
      rw [hptr, FifoBuf.free_eq (.inr rfl) (by omega) hsize (by rw [if_neg (by omega)]; omega)]
      exact ⟨rfl, .release hrest (by rw [if_neg (by omega)]) (by omega), FifoBuf.release_mem,
        FifoBuf.release_last⟩
    | cons c hi =>
      obtain ⟨rfl, rfl⟩ := List.cons_eq_cons.mp hlive
      obtain ⟨hptr, hsize, hrest⟩ := hhi
      have hend := hrest.le
      rw [hptr, FifoBuf.free_eq (.inl rfl) hlt hsize (by rw [if_neg (by omega)]; omega)]
      refine ⟨rfl, ?_, FifoBuf.release_mem, FifoBuf.release_last⟩
      by_cases hover : f.ubegin + SZ + b.size = f.last
      · obtain rfl := hrest.eq_nil (by omega)
        exact .release hlo (by rw [if_pos hover]) (by omega)
      · simp only [FifoBuf.release, if_neg hover]
        rw [if_neg (by omega)]
        refine .wrapped (fun hc => ?_) hrest hlo (by simp only; omega) (by simp only; omega) htail hlast
          (decide_eq_false (by simp only; omega)).symm
        obtain ⟨rfl, rfl⟩ := List.append_eq_nil_iff.mp hc
        exact hover (hrest.trans (hlast rfl))

structure Serves (size : UInt32) (s : Session) (op : Op) : Prop where
  last : (s.next op).buf.last = size.toNat
  sound : (s.next op).Sound
  kept : (∀ block i byte, op ≠ .fill block i byte) →
    ∀ b ∈ s.live, slice (s.next op).buf.mem b.ptr b.size = slice s.buf.mem b.ptr b.size
  given : ∀ n : UInt32, op = .alloc n → 0 < n → ((s.buf.alloc n).2.isSome ↔ n.toNat ≤ s.buf.availableSize)
  freed : op = .free → ∀ b rest, s.live = b :: rest → (s.buf.free b.ptr).2 = .success
  whole : (s.next op).live = [] →
    (s.next op).buf.availableSize = (FifoBuf.init s.buf.mem size).availableSize

def Fits (s : Session) : Op → Prop
  | .alloc n => n.toNat + SZ < 2 ^ 32 ∨ s.buf.full = true ∨ s.buf.room < (need n).toNat
  | _ => True

def Good (size : UInt32) (s : Session) : Prop := Layout s.buf s.live ∧ s.buf.last = size.toNat

variable {s : Session}

lemma Good.whole (h : Good size s) (hlive : s.live = []) :
    s.buf.availableSize = (FifoBuf.init mem size).availableSize := by
  obtain ⟨hlayout, hlast⟩ := h
  rw [hlive] at hlayout
  generalize hnil : ([] : List Block) = live at hlayout
  cases hlayout with
  | empty hbegin hend hf =>
    simp only [FifoBuf.availableSize_eq, FifoBuf.room, FifoBuf.init, hbegin, hend, hf, hlast]
  | linear hne => exact absurd hnil.symm hne
  | wrapped hne => exact absurd hnil.symm hne

lemma Good.room_le (h : Good size s) : s.buf.room ≤ size.toNat := by
  obtain ⟨hlayout, hlast⟩ := h
  have hbegin : s.buf.ubegin ≤ s.buf.last := by
    generalize s.live = live at hlayout
    cases hlayout <;> omega
  unfold FifoBuf.room
  split_ifs <;> omega

lemma FifoBuf.alloc_mem (f : FifoBuf) (n : UInt32) :
    f.alloc n = (f, none) ∨ ∃ p, (f.alloc n).2 = some (p + SZ) ∧
      (f.alloc n).1.mem = putSize f.mem p (need n) ∧ (f.alloc n).1.last = f.last := by
  rcases f.alloc_cases n with ⟨heq, -⟩ | ⟨-, -, -, heq⟩ | ⟨-, -, start, -, -, heq⟩
  · exact .inl heq
  · exact .inr ⟨f.uend, by rw [heq], by rw [heq], by rw [heq]⟩
  · exact .inr ⟨start, by rw [heq], by rw [heq], by rw [heq]⟩

lemma Good.alloc_kept (h : (s.next (.alloc n)).Sound) :
    ∀ b ∈ s.live, slice (s.next (.alloc n)).buf.mem b.ptr b.size = slice s.buf.mem b.ptr b.size := by
  intro b hb
  change slice (s.buf.alloc n).1.mem b.ptr b.size = _
  rcases s.buf.alloc_mem n with heq | ⟨p, hptr, hmem, -⟩
  · rw [heq]
  · rw [hmem]
    refine slice_congr fun i h1 h2 => putSize_outside ?_
    have hnew : (s.next (.alloc n)).live = s.live ++ [⟨p + SZ, n.toNat⟩] := by
      simp [Session.next, Session.alloc, hptr]
    have hapart := h.apart
    rw [hnew] at hapart
    have hi := (List.pairwise_append.mp hapart).2.2 b hb _ (List.mem_singleton.mpr rfl) i
    simp only [Block.Covers] at hi
    omega

lemma Good.given (h : Good size s) (hfit : Fits s (.alloc n))
    (hn : 0 < n) : (s.buf.alloc n).2.isSome ↔ n.toNat ≤ s.buf.availableSize := by
  have hpos : 0 < n.toNat := hn
  have hroom := h.room_le
  have hsize := size.toNat_lt
  rw [h.1.alloc_isSome, FifoBuf.availableSize_eq]
  cases hf : s.buf.full with
  | true =>
    simp only [Bool.true_eq_false, false_and, if_true, false_iff]
    omega
  | false =>
    simp only [true_and, Bool.false_eq_true, if_false]
    by_cases hsum : n.toNat + SZ < 2 ^ 32
    · rw [need_toNat hsum]
      omega
    · rcases hfit with hfit | hfit | hfit
      · exact absurd hfit hsum
      · rw [hf] at hfit
        cases hfit
      · omega

lemma Good.alloc (h : Good size s) (hfit : Fits s (.alloc n)) : Good size (s.next (.alloc n)) := by
  refine ⟨?_, ?_⟩
  · by_cases hsum : n.toNat + SZ < 2 ^ 32
    · exact h.1.alloc hsum
    · have hno : ¬ (s.buf.alloc n).2.isSome := by
        rw [h.1.alloc_isSome]
        rintro ⟨hfull, hroom⟩
        rcases hfit with hfit | hfit | hfit
        · exact hsum hfit
        · rw [hfull] at hfit
          cases hfit
        · omega
      rcases s.buf.alloc_mem n with heq | ⟨p, hptr, -⟩
      · simpa only [Session.next, Session.alloc, heq, Option.toList_none, List.map_nil, List.append_nil] using h.1
      · exact absurd (by rw [hptr]; rfl) hno
  · rcases s.buf.alloc_mem n with heq | ⟨p, -, -, hlast⟩
    · simpa only [Session.next, Session.alloc, heq] using h.2
    · exact hlast.trans h.2

lemma Good.free (h : Good size s) : Good size (s.next .free) := by
  obtain ⟨f, live⟩ := s
  cases live with
  | nil => exact h
  | cons b rest =>
    obtain ⟨-, hlayout, -, hlast⟩ := h.1.free
    exact ⟨hlayout, hlast.trans h.2⟩

lemma Good.fill (h : Good size s) (block i : ℕ) (byte : UInt8) : Good size (s.next (.fill block i byte)) := by
  simp only [Session.next, Session.fill]
  cases hb : s.live[block]? with
  | none => exact h
  | some b =>
    have hmem := List.mem_of_getElem? hb
    by_cases hi : i < b.size
    · simp only [if_pos hi]
      refine ⟨h.1.congr fun c hc j h1 h2 => write_outside ?_, h.2⟩
      by_cases hbc : b = c
      · subst hbc
        omega
      · have hapart := h.1.sound.apart.forall hmem hc hbc j
        simp only [Block.Covers] at hapart
        rw [List.length_singleton]
        omega
    · simp only [if_neg hi]
      exact h

lemma Good.next {size : UInt32} {s : Session} (h : Good size s) {op : Op} (hfit : Fits s op) :
    Good size (s.next op) := by
  cases op with
  | alloc n => exact h.alloc hfit
  | free => exact h.free
  | fill block i byte => exact h.fill block i byte

lemma Good.serves (h : Good size s) {op : Op} (hfit : Fits s op) : Serves size s op := by
  have hnext := h.next hfit
  refine ⟨hnext.2, hnext.1.sound, fun hop => ?_, ?_, ?_, hnext.whole⟩
  · cases op with
    | alloc n => exact Good.alloc_kept hnext.1.sound
    | free =>
      obtain ⟨f, live⟩ := s
      cases live with
      | nil => exact fun b hb => rfl
      | cons c rest =>
        obtain ⟨-, -, hmem, -⟩ := h.1.free
        exact fun b hb => congrArg (slice · b.ptr b.size) hmem
    | fill block i byte => exact absurd rfl (hop block i byte)
  · rintro n rfl hn
    exact h.given hfit hn
  · rintro rfl b rest hlive
    have hlayout := h.1
    rw [hlive] at hlayout
    exact hlayout.free.1

lemma Good.fits (h : Good size s) {op : Op} (hserves : Serves size s op) : Fits s op := by
  cases op with
  | alloc n =>
    by_contra hfit
    simp only [Fits, not_or, Bool.not_eq_true, Nat.not_lt] at hfit
    obtain ⟨hsum, hfull, hroom⟩ := hfit
    have hn : 0 < n.toNat := by
      simp only [SZ] at hsum
      omega
    have hle := (hserves.given n rfl hn).mp (h.1.alloc_isSome.mpr ⟨hfull, hroom⟩)
    have hsize := size.toNat_lt
    have := h.room_le
    rw [FifoBuf.availableSize_eq, hfull] at hle
    simp only [Bool.false_eq_true, if_false] at hle
    omega
  | free => trivial
  | fill => trivial

lemma good_init (mem : ℕ → UInt8) (size : UInt32) : Good size (.init mem size) :=
  ⟨.empty rfl rfl rfl, rfl⟩

end PjProject.Fifo
