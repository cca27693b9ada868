import PjProject.CircBuf

/-!
# The circular buffer is a bounded queue

Each operation changes the contents as its name says of a list, and a refused one
changes nothing.
-/
namespace PjProject.SampleBuf

open RingMemory Transition

variable {α : Type*}

lemma samples_eq {n : ℕ} (h : n < 2 ^ 31) : samples n = n := by
  unfold samples
  omega

namespace CircBuf

variable {c : CircBuf α} {count : ℕ}

@[simp] lemma contents_length : c.contents.length = c.len := ring_length

structure Valid.Read (c : CircBuf α) (r : Regions) : Prop where
  reg1 : r.reg1 = c.start
  total : r.reg1Len + r.reg2Len = c.len
  inside : r.reg1 + r.reg1Len ≤ c.capacity
  behind : r.reg2Len ≠ 0 → r.reg1 + r.reg1Len = c.capacity
  before : r.reg2Len + (c.capacity - c.len) ≤ r.reg1 ∨ r.reg2Len = 0
  contents : c.contents = slice c.buf r.reg1 r.reg1Len ++ slice c.buf 0 r.reg2Len

lemma Valid.readRegions (h : c.Valid) : Valid.Read c c.readRegions := by
  obtain ⟨hstart, hlen, -⟩ := h
  unfold CircBuf.readRegions
  by_cases hwrap : c.start + c.len > c.capacity
  · rw [if_pos hwrap]
    exact ⟨rfl, by simp only; omega, by simp only; omega, fun _ => by simp only; omega,
      .inl (by simp only; omega), ring_eq_append hstart (by omega) hlen⟩
  · rw [if_neg hwrap]
    refine ⟨rfl, rfl, by simp only; omega, fun hc => absurd rfl hc, .inr rfl, ?_⟩
    rw [slice_zero, List.append_nil]
    exact ring_eq_slice (by omega)

lemma Valid.Read.sub {r : Regions} (h : Valid.Read c r) {i n : ℕ} (hin : i + n ≤ c.len) :
    (c.contents.drop i).take n = if r.reg1Len > i then slice c.buf (r.reg1 + i) (min (r.reg1Len - i) n) ++
          slice c.buf 0 (n - min (r.reg1Len - i) n) else slice c.buf (i - r.reg1Len) n := by
  have htotal := h.total
  rw [h.contents, List.drop_append, List.take_append, slice_drop, slice_drop, slice_take, slice_take,
    slice_length, slice_length, Nat.zero_add]
  by_cases hi : r.reg1Len > i
  · rw [if_pos hi]
    congr 2 <;> omega
  · have hnil : min n (r.reg1Len - i) = 0 := by omega
    rw [if_neg hi, hnil, slice_zero, List.nil_append]
    congr 1
    omega

lemma read_contents (h : c.Valid) (hcount : count < 2 ^ 31) (hle : count ≤ c.len) :
    (c.read count).2 = some (c.contents.take count) := by
  have hr := h.readRegions
  have hsub := hr.sub (i := 0) (n := count) (by omega)
  rw [List.drop_zero] at hsub
  rw [CircBuf.read, if_neg (by omega), hsub]
  dsimp only
  generalize c.readRegions = r at *
  have htotal := hr.total
  congr 1
  by_cases hfirst : r.reg1Len ≥ count
  · rw [if_pos hfirst, samples_eq hcount]
    by_cases hpos : r.reg1Len > 0
    · rw [if_pos hpos, Nat.sub_zero, Nat.min_eq_right hfirst, Nat.sub_self, slice_zero, List.append_nil, Nat.add_zero]
    · obtain rfl : count = 0 := by omega
      rw [if_neg hpos, slice_zero, slice_zero]
  · rw [if_neg hfirst, samples_eq (by omega), samples_eq (by omega)]
    by_cases hpos : r.reg1Len > 0
    · rw [if_pos hpos, Nat.sub_zero, Nat.min_eq_left (by omega), Nat.add_zero]
    · have hzero : r.reg1Len = 0 := by omega
      rw [if_neg hpos, hzero, slice_zero, List.nil_append, Nat.sub_zero]

lemma copy_contents (h : c.Valid) {startIdx : ℕ} (hcount : count < 2 ^ 31) (hidx : startIdx < 2 ^ 31) :
    c.copy startIdx count =
      if startIdx + count ≤ c.len then some ((c.contents.drop startIdx).take count) else none := by
  have hr := h.readRegions
  have hsum : (count + startIdx) % 2 ^ 32 = startIdx + count := by omega
  rw [CircBuf.copy, hsum]
  by_cases hle : startIdx + count ≤ c.len
  · rw [if_neg (by omega), if_pos hle, hr.sub hle]
    dsimp only
    generalize c.readRegions = r at *
    by_cases hfirst : r.reg1Len > startIdx
    · rw [if_pos hfirst, if_pos hfirst, samples_eq (by omega), samples_eq (by omega)]
      split_ifs with hmore
      · rfl
      · have hzero : count - min (r.reg1Len - startIdx) count = 0 := by omega
        rw [hzero, slice_zero]
    · rw [if_neg hfirst, if_neg hfirst, samples_eq hcount]
  · rw [if_pos (by omega), if_neg hle]

lemma advReadPtr_contents (h : c.Valid) (count : ℕ) :
    (c.advReadPtr count).contents = c.contents.drop count ∧ (c.advReadPtr count).Valid := by
  obtain ⟨hstart, hlen, hcap⟩ := h
  unfold advReadPtr
  by_cases hall : count ≥ c.len
  · rw [if_pos hall, List.drop_eq_nil_of_le (by rwa [contents_length])]
    exact ⟨rfl, by simp only [reset]; omega, Nat.zero_le _, hcap⟩
  · rw [if_neg hall]
    have hcell := ring_cell hstart (k := count) (by omega)
    refine ⟨?_, ?_, by simp only; omega, hcap⟩
    · rw [contents, contents, ring_drop (by omega), hcell]
      by_cases hwrap : c.start + count < c.capacity
      · simp only [if_pos hwrap, if_neg (show ¬ c.start + count ≥ c.capacity by omega)]
      · simp only [if_neg hwrap, if_pos (show c.start + count ≥ c.capacity by omega)]
    · simp only
      split_ifs <;> omega

structure Valid.Write (c : CircBuf α) (r : Regions) : Prop where
  reg1 : r.reg1 = (c.start + c.len) % c.capacity
  reg1_lt : r.reg1 < c.capacity
  room : r.reg1Len + r.reg2Len = c.capacity - c.len
  inside : r.reg1 + r.reg1Len ≤ c.capacity
  behind : r.reg2Len ≠ 0 → r.reg1 + r.reg1Len = c.capacity ∧ r.reg2Len ≤ c.start ∧ c.start ≤ r.reg1
  unused : ∀ i < c.len, (c.start + i) % c.capacity < r.reg1 ∨
    r.reg1 + r.reg1Len ≤ (c.start + i) % c.capacity
  unused2 : ∀ i < c.len, r.reg2Len ≤ (c.start + i) % c.capacity

lemma Valid.writeRegions (h : c.Valid) : Valid.Write c c.writeRegions := by
  obtain ⟨hstart, hlen, -⟩ := h
  have hcell := ring_cell hstart hlen
  have hused : ∀ i < c.len, (c.start + i) % c.capacity =
      if c.start + i < c.capacity then c.start + i else c.start + i - c.capacity :=
    fun i hi => ring_cell hstart (by omega)
  unfold CircBuf.writeRegions
  by_cases hwrap : c.start + c.len ≥ c.capacity
  · rw [if_neg (by omega)] at hcell
    simp only [if_pos hwrap, if_neg (show ¬ c.start + c.len - c.capacity + (c.capacity - c.len) > c.capacity by omega)]
    refine ⟨hcell.symm, by simp only; omega, rfl, by simp only; omega, fun hc => absurd rfl hc, ?_, ?_⟩
    · intro i hi
      rw [hused i hi]
      simp only
      split_ifs <;> omega
    · exact fun i _ => Nat.zero_le _
  · rw [if_pos (by omega)] at hcell
    simp only [if_neg hwrap]
    by_cases hzero : c.start = 0
    · rw [if_neg (by omega)]
      refine ⟨hcell.symm, by simp only; omega, rfl, by simp only; omega, fun hc => absurd rfl hc, ?_, ?_⟩
      · intro i hi
        rw [hused i hi]
        simp only
        split_ifs <;> omega
      · exact fun i _ => Nat.zero_le _
    · rw [if_pos (by omega)]
      refine ⟨hcell.symm, by simp only; omega, by simp only; omega, by simp only; omega,
        fun _ => by simp only; omega, ?_, ?_⟩
      · intro i hi
        rw [hused i hi]
        simp only
        split_ifs <;> omega
      · intro i hi
        rw [hused i hi]
        simp only
        split_ifs <;> omega

lemma advWritePtr_room (hfit : count + c.len ≤ c.capacity) (hcap : c.capacity < 2 ^ 32) :
    c.advWritePtr count = ({ c with len := c.len + count }, .success) := by
  rw [advWritePtr, Nat.mod_eq_of_lt (by omega), if_neg (by omega), Nat.mod_eq_of_lt (by omega)]

lemma write_contents (h : c.Valid) {data : List α} (hcount : data.length < 2 ^ 31)
    (hroom : data.length ≤ c.capacity - c.len) :
    (c.write data).2 = .success ∧ (c.write data).1.contents = c.contents ++ data ∧ (c.write data).1.Valid := by
  have hw := h.writeRegions
  obtain ⟨hstart, hlen, hcap⟩ := h
  unfold CircBuf.write
  dsimp only
  rw [if_neg (by omega)]
  generalize c.writeRegions = r at *
  have htotal := hw.room
  have hinside := hw.inside
  have hadv : ∀ buf : ℕ → α, advWritePtr { c with buf := buf } data.length =
      ({ c with buf := buf, len := c.len + data.length }, .success) := fun buf =>
    advWritePtr_room (c := { c with buf := buf }) (show data.length + c.len ≤ c.capacity by omega) hcap
  by_cases hfirst : r.reg1Len ≥ data.length
  · rw [if_pos hfirst, samples_eq hcount, List.take_length, hadv]
    refine ⟨rfl, ?_, hstart, by simp only; omega, hcap⟩
    simp only [contents]
    rw [ring_add, ← hw.reg1, ring_eq_slice (p := r.reg1) (by omega), slice_write]
    congr 1
    exact ring_congr fun i hi => write_outside (by have := hw.unused i hi; omega)
  · obtain ⟨hbehind, hbegin, hle⟩ := hw.behind (by omega)
    have hd1 : (data.take r.reg1Len).length = r.reg1Len := by rw [List.length_take]; omega
    have hd2 : (data.drop r.reg1Len).length = data.length - r.reg1Len := List.length_drop ..
    have htake : (data.drop r.reg1Len).take (data.length - r.reg1Len) = data.drop r.reg1Len := by
      rw [← hd2, List.take_length]
    rw [if_neg hfirst, samples_eq (by omega), samples_eq (by omega), htake, hadv]
    refine ⟨rfl, ?_, hstart, by simp only; omega, hcap⟩
    simp only [contents]
    have hlen1 : c.capacity - r.reg1 = (data.take r.reg1Len).length := by omega
    have hlen2 : data.length - (c.capacity - r.reg1) = (data.drop r.reg1Len).length := by omega
    rw [ring_add, ← hw.reg1, ring_eq_append hw.reg1_lt (by omega) (by omega), hlen2, slice_write, hlen1,
      slice_write_outside (by omega), slice_write, List.take_append_drop]
    congr 1
    refine ring_congr fun i hi => ?_
    have h1 := hw.unused i hi
    have h2 := hw.unused2 i hi
    rw [write_outside (by omega), write_outside (by omega)]

/-- Two regions with a gap between them that can be rolled left: the second begins at the buffer's
begin, the first reaches to its end. -/
structure Rolls (c : CircBuf α) (buf : ℕ → α) (r : Regions) : Prop where
  total : r.reg1Len + r.reg2Len = c.len
  toEnd : r.reg1 + r.reg1Len = c.capacity
  contents : c.contents = slice buf r.reg1 r.reg1Len ++ slice buf 0 r.reg2Len

lemma Rolls.round {buf : ℕ → α} {r : Regions} (h : Rolls c buf r) {gap : ℕ} (hgap : gap ≤ r.reg2Len)
    (hroom : r.reg2Len + gap ≤ r.reg1) {buf1 buf2 buf3 : ℕ → α}
    (h1 : buf1 = move buf (r.reg1 - gap) r.reg1 r.reg1Len)
    (h2 : buf2 = RingMemory.write buf1 (r.reg1 + r.reg1Len - gap) (slice buf1 0 gap))
    (h3 : buf3 = if gap < r.reg2Len then move buf2 0 gap (r.reg2Len - gap) else buf2) :
    Rolls c buf3 ⟨r.reg1 - gap, r.reg1Len + gap, r.reg2Len - gap⟩ := by
  have htotal := h.total
  have hend := h.toEnd
  -- the first region keeps its samples, one gap further left
  have hmoved : slice buf3 (r.reg1 - gap) r.reg1Len = slice buf r.reg1 r.reg1Len := by
    have hout : slice buf3 (r.reg1 - gap) r.reg1Len = slice buf2 (r.reg1 - gap) r.reg1Len := by
      rw [h3]
      split_ifs
      · exact slice_move_outside (.inr (by omega))
      · rfl
    rw [hout, h2, slice_write_outside (.inl (by omega)), h1, slice_move]
  -- what comes behind it was at the buffer's begin
  have hadded : slice buf3 (r.reg1 - gap + r.reg1Len) gap = slice buf 0 gap := by
    have hout : slice buf3 (r.reg1 - gap + r.reg1Len) gap = slice buf2 (r.reg1 - gap + r.reg1Len) gap := by
      rw [h3]
      split_ifs
      · exact slice_move_outside (.inr (by omega))
      · rfl
    have hat : r.reg1 - gap + r.reg1Len = r.reg1 + r.reg1Len - gap := by omega
    have hwritten : slice (RingMemory.write buf1 (r.reg1 + r.reg1Len - gap) (slice buf1 0 gap)) (r.reg1 + r.reg1Len - gap)
        (slice buf1 0 gap).length = slice buf1 0 gap := slice_write _
    rw [slice_length, ← h2] at hwritten
    rw [hout, hat, hwritten, h1]
    exact slice_move_outside (.inl (by omega))
  have hleft : slice buf3 0 (r.reg2Len - gap) = slice buf gap (r.reg2Len - gap) := by
    rw [h3]
    split_ifs with hmore
    · rw [slice_move, h2, slice_write_outside (.inl (by omega)), h1]
      exact slice_move_outside (.inl (by omega))
    · have hzero : r.reg2Len - gap = 0 := by omega
      rw [hzero, slice_zero, slice_zero]
  refine ⟨by simp only; omega, by simp only; omega, ?_⟩
  have hsplit : slice buf 0 r.reg2Len = slice buf 0 gap ++ slice buf gap (r.reg2Len - gap) := by
    have hs : slice buf 0 (gap + (r.reg2Len - gap)) = slice buf 0 gap ++ slice buf (0 + gap) (r.reg2Len - gap) :=
      slice_add gap
    rwa [Nat.add_sub_cancel' hgap, Nat.zero_add] at hs
  rw [slice_add, hmoved, hadded, hleft, h.contents, hsplit, List.append_assoc]

lemma Rolls.loop (hlen : c.len < 2 ^ 31) {n : ℕ} : ∀ {buf : ℕ → α} {r : Regions} {gap : ℕ}, Rolls c buf r →
    0 < gap → 0 < r.reg2Len → r.reg2Len ≤ n → r.reg2Len + gap ≤ r.reg1 →
    Rolls c (rollLoop n buf r gap).1 (rollLoop n buf r gap).2 ∧ (rollLoop n buf r gap).2.reg2Len = 0 := by
  induction n with
  | zero => intro buf r gap _ _ hpos hle; omega
  | succ n ih =>
    intro buf r gap h hgap hpos hle hroom
    have htotal := h.total
    unfold rollLoop
    dsimp only
    have hg : (if gap > r.reg2Len then r.reg2Len else gap) = min gap r.reg2Len := by
      split_ifs with hc
      · exact (Nat.min_eq_right hc.le).symm
      · exact (Nat.min_eq_left (by omega)).symm
    rw [hg, samples_eq (n := r.reg1Len) (by omega), samples_eq (n := min gap r.reg2Len) (by omega),
      samples_eq (n := r.reg2Len - min gap r.reg2Len) (by omega)]
    have hround := h.round (show min gap r.reg2Len ≤ r.reg2Len by omega) (by omega) rfl rfl rfl
    by_cases hmore : r.reg2Len - min gap r.reg2Len > 0
    · rw [if_pos hmore]
      exact ih hround (by omega) hmore (by simp only; omega) (by simp only; omega)
    · rw [if_neg hmore]
      exact ⟨hround, by simp only; omega⟩

lemma packBuffer_contents (h : c.Valid) (hlen : c.len < 2 ^ 31) :
    (c.packBuffer = (c, .etoobig) ∧ c.len = c.capacity) ∨
      c.packBuffer.2 = .success ∧ c.packBuffer.1.start = 0 ∧ c.packBuffer.1.contents = c.contents ∧
        c.packBuffer.1.Valid := by
  have hr := h.readRegions
  obtain ⟨hstart, hle, hcap⟩ := h
  unfold packBuffer
  dsimp only
  generalize c.readRegions = r at *
  have htotal := hr.total
  by_cases hfull : r.reg2Len ≠ 0 ∧ c.capacity - c.len = 0
  · rw [if_pos hfull]
    exact .inl ⟨rfl, by omega⟩
  · rw [if_neg hfull]
    -- one region with the contents, rolled together where there were two
    obtain ⟨buf, r', heq, hreg, hlen', hinside⟩ : ∃ (buf : ℕ → α) (r' : Regions),
        (if r.reg2Len ≠ 0 then rollLoop r.reg2Len c.buf r (c.capacity - c.len) else (c.buf, r)) = (buf, r') ∧
          c.contents = slice buf r'.reg1 c.len ∧ r'.reg1Len = c.len ∧ r'.reg1 + c.len ≤ c.capacity := by
      by_cases htwo : r.reg2Len ≠ 0
      · have hroll : Rolls c c.buf r := ⟨htotal, hr.behind htwo, hr.contents⟩
        have hgap : r.reg2Len + (c.capacity - c.len) ≤ r.reg1 := hr.before.resolve_right htwo
        obtain ⟨hend, hzero⟩ := hroll.loop hlen (n := r.reg2Len) (show 0 < c.capacity - c.len by omega) (by omega)
          le_rfl hgap
        have ht := hend.total
        have he := hend.toEnd
        have hc := hend.contents
        rw [hzero, Nat.add_zero] at ht
        rw [hzero, slice_zero, List.append_nil, ht] at hc
        exact ⟨_, _, if_pos htwo, hc, ht, by omega⟩
      · have hzero : r.reg2Len = 0 := by omega
        have hc := hr.contents
        have hin := hr.inside
        rw [hzero, Nat.add_zero] at htotal
        rw [hzero, slice_zero, List.append_nil, htotal] at hc
        exact ⟨c.buf, r, if_neg htwo, hc, htotal, by omega⟩
    rw [heq]
    refine .inr ⟨rfl, rfl, ?_, by simp only; omega, hle, hcap⟩
    simp only [contents] at hreg ⊢
    rw [hreg, ring_eq_slice (by omega), samples_eq hlen]
    split_ifs with hmove
    · exact slice_move
    · have hzero : r'.reg1 = 0 := by omega
      rw [hzero]

end CircBuf

inductive Op (α : Type*)
  | write (data : List α)
  | read (count : ℕ)
  | copy (startIdx count : ℕ)
  | advReadPtr (count : ℕ)
  | advWritePtr (count : ℕ)
  | packBuffer
  | reset

inductive Result (α : Type*)
  | samples (l : List α)
  | success
  | etoobig

def Result.ofStatus : Status → Result α
  | .success => .success
  | .etoobig => .etoobig

def Result.ofCopied : Option (List α) → Result α
  | some l => .samples l
  | none => .etoobig

def CircBuf.step (c : CircBuf α) : Op α → CircBuf α × Result α
  | .write data => ((c.write data).1, .ofStatus (c.write data).2)
  | .read count => ((c.read count).1, .ofCopied (c.read count).2)
  | .copy startIdx count => (c, .ofCopied (c.copy startIdx count))
  | .advReadPtr count => (c.advReadPtr count, .success)
  | .advWritePtr count => ((c.advWritePtr count).1, .ofStatus (c.advWritePtr count).2)
  | .packBuffer => (c.packBuffer.1, .ofStatus c.packBuffer.2)
  | .reset => (c.reset, .success)

def Op.CountsFit : Op α → Prop
  | .write data => data.length < 2 ^ 31
  | .read count => count < 2 ^ 31
  | .copy startIdx count => startIdx < 2 ^ 31 ∧ count < 2 ^ 31
  | .advReadPtr count => count < 2 ^ 31
  | .advWritePtr count => count < 2 ^ 31
  | .packBuffer => True
  | .reset => True

/-- The sums of the code do not run over: the length with what is added to it, and the number of bytes that
packing moves. -/
def Admitted (c : CircBuf α) : Op α → Prop
  | .advWritePtr count => count + c.len < 2 ^ 32
  | .packBuffer => c.len < 2 ^ 31
  | _ => True

instance : ∀ op : Op α, Decidable op.CountsFit
  | .write _ => inferInstanceAs (Decidable (_ < _))
  | .read _ => inferInstanceAs (Decidable (_ < _))
  | .copy _ _ => inferInstanceAs (Decidable (_ ∧ _))
  | .advReadPtr _ => inferInstanceAs (Decidable (_ < _))
  | .advWritePtr _ => inferInstanceAs (Decidable (_ < _))
  | .packBuffer => .isTrue trivial
  | .reset => .isTrue trivial

instance (c : CircBuf α) : ∀ op, Decidable (Admitted c op)
  | .write _ => .isTrue trivial
  | .read _ => .isTrue trivial
  | .copy _ _ => .isTrue trivial
  | .advReadPtr _ => .isTrue trivial
  | .advWritePtr _ => inferInstanceAs (Decidable (_ < _))
  | .packBuffer => inferInstanceAs (Decidable (_ < _))
  | .reset => .isTrue trivial

/-- A bounded queue: what a call does to the list of samples, and what it returns. Samples that are
written by moving the write pointer are those the memory has there. -/
def Queue (capacity : ℕ) (l : List α) : Op α → List α → Result α → Prop
  | .write data, l', r =>
    if l.length + data.length ≤ capacity then l' = l ++ data ∧ r = .success else l' = l ∧ r = .etoobig
  | .read count, l', r =>
    if count ≤ l.length then l' = l.drop count ∧ r = .samples (l.take count) else l' = l ∧ r = .etoobig
  | .copy startIdx count, l', r =>
    l' = l ∧ r = if startIdx + count ≤ l.length then .samples ((l.drop startIdx).take count) else .etoobig
  | .advReadPtr count, l', r => l' = l.drop count ∧ r = .success
  | .advWritePtr count, l', r =>
    if l.length + count ≤ capacity then (∃ more, more.length = count ∧ l' = l ++ more) ∧ r = .success
    else l' = l ∧ r = .etoobig
  | .packBuffer, l', r => l' = l ∧ (r = .success ∨ r = .etoobig ∧ l.length = capacity)
  | .reset, l', r => l' = [] ∧ r = .success

/-- One call: the contents change as the queue does, the start stays in the buffer, an error leaves
everything as it was, and packing that succeeds leaves the start at the buffer's begin. -/
structure Refines (c : CircBuf α) (op : Op α) : Prop where
  valid : (c.step op).1.Valid
  capacity : (c.step op).1.capacity = c.capacity
  queue : Queue c.capacity c.contents op (c.step op).1.contents (c.step op).2
  refused : (c.step op).2 = .etoobig → (c.step op).1 = c
  packed : op = .packBuffer → (c.step op).2 = .success → (c.step op).1.start = 0

lemma step_refines {c : CircBuf α} (h : c.Valid) {op : Op α} (hfit : op.CountsFit) (hok : Admitted c op) :
    Refines c op := by
  have hlength : c.contents.length = c.len := CircBuf.contents_length
  have hle := h.len_le
  have hcap := h.capacity_lt
  cases op with
  | write data =>
    by_cases hroom : data.length ≤ c.capacity - c.len
    · obtain ⟨hst, hcontents, hvalid⟩ := CircBuf.write_contents h hfit hroom
      refine ⟨hvalid, ?_, ?_, fun hc => ?_, fun hc => by cases hc⟩
      · simp only [CircBuf.step, CircBuf.write, CircBuf.advWritePtr]
        split_ifs <;> rfl
      · simp only [Queue, CircBuf.step, hst, hlength]
        rw [if_pos (by omega)]
        exact ⟨hcontents, rfl⟩
      · simp only [CircBuf.step, hst] at hc
        cases hc
    · have hsame : c.write data = (c, .etoobig) := if_pos (by omega)
      refine ⟨by simpa only [CircBuf.step, hsame] using h, by simp only [CircBuf.step, hsame], ?_,
        fun _ => by simp only [CircBuf.step, hsame], fun hc => by cases hc⟩
      simp only [Queue, CircBuf.step, hsame, hlength]
      rw [if_neg (by omega)]
      exact ⟨trivial, rfl⟩
  | read count =>
    by_cases hhas : count ≤ c.len
    · have hdata := CircBuf.read_contents h hfit hhas
      have hmoved : (c.read count).1 = c.advReadPtr count := by
        rw [CircBuf.read, if_neg (by omega)]
      obtain ⟨hcontents, hvalid⟩ := CircBuf.advReadPtr_contents h count
      refine ⟨by simpa only [CircBuf.step, hmoved] using hvalid, ?_, ?_, fun hc => ?_, fun hc => by cases hc⟩
      · simp only [CircBuf.step, hmoved, CircBuf.advReadPtr]
        split_ifs <;> rfl
      · simp only [Queue, CircBuf.step, hmoved, hdata, hlength]
        rw [if_pos hhas]
        exact ⟨hcontents, rfl⟩
      · simp only [CircBuf.step, hdata] at hc
        cases hc
    · have hsame : c.read count = (c, none) := if_pos (by omega)
      refine ⟨by simpa only [CircBuf.step, hsame] using h, by simp only [CircBuf.step, hsame], ?_,
        fun _ => by simp only [CircBuf.step, hsame], fun hc => by cases hc⟩
      simp only [Queue, CircBuf.step, hsame, hlength]
      rw [if_neg hhas]
      exact ⟨trivial, rfl⟩
  | copy startIdx count =>
    refine ⟨h, rfl, ?_, fun _ => rfl, fun hc => by cases hc⟩
    simp only [Queue, CircBuf.step, hlength, CircBuf.copy_contents h hfit.2 hfit.1]
    refine ⟨trivial, ?_⟩
    split_ifs <;> rfl
  | advReadPtr count =>
    obtain ⟨hcontents, hvalid⟩ := CircBuf.advReadPtr_contents h count
    refine ⟨hvalid, ?_, ⟨hcontents, rfl⟩, fun hc => ?_, fun hc => ?_⟩
    · simp only [CircBuf.step, CircBuf.advReadPtr]
      split_ifs <;> rfl
    · cases hc
    · cases hc
  | advWritePtr count =>
    have hsum : count + c.len < 2 ^ 32 := hok
    by_cases hroom : count + c.len ≤ c.capacity
    · have hadv := CircBuf.advWritePtr_room hroom hcap
      refine ⟨?_, by simp only [CircBuf.step, hadv], ?_, fun hc => ?_, fun hc => by cases hc⟩
      · simp only [CircBuf.step, hadv]
        exact ⟨h.start_lt, by simp only; omega, hcap⟩
      · simp only [Queue, CircBuf.step, hadv, hlength]
        rw [if_pos (by omega)]
        exact ⟨⟨_, ring_length, ring_add _⟩, rfl⟩
      · simp only [CircBuf.step, hadv] at hc
        cases hc
    · have hsame : c.advWritePtr count = (c, .etoobig) := by
        rw [CircBuf.advWritePtr, Nat.mod_eq_of_lt hsum, if_pos (by omega)]
      refine ⟨by simpa only [CircBuf.step, hsame] using h, by simp only [CircBuf.step, hsame], ?_,
        fun _ => by simp only [CircBuf.step, hsame], fun hc => by cases hc⟩
      simp only [Queue, CircBuf.step, hsame, hlength]
      rw [if_neg (by omega)]
      exact ⟨trivial, rfl⟩
  | packBuffer =>
    rcases CircBuf.packBuffer_contents h hok with ⟨hsame, hfull⟩ | ⟨hst, hstart, hcontents, hvalid⟩
    · refine ⟨by simpa only [CircBuf.step, hsame] using h, by simp only [CircBuf.step, hsame], ?_,
        fun _ => by simp only [CircBuf.step, hsame], fun _ hc => ?_⟩
      · simp only [Queue, CircBuf.step, hsame, hlength]
        exact ⟨trivial, .inr ⟨rfl, hfull⟩⟩
      · simp only [CircBuf.step, hsame] at hc
        cases hc
    · refine ⟨hvalid, ?_, ?_, fun hc => ?_, fun _ _ => hstart⟩
      · simp only [CircBuf.step, CircBuf.packBuffer]
        split_ifs <;> rfl
      · simp only [Queue, CircBuf.step, hst]
        exact ⟨hcontents, .inl rfl⟩
      · simp only [CircBuf.step, hst] at hc
        cases hc
  | reset =>
    refine ⟨⟨Nat.zero_lt_of_lt h.start_lt, Nat.zero_le _, hcap⟩, rfl, ⟨rfl, rfl⟩, fun hc => ?_, fun hc => ?_⟩
    · cases hc
    · cases hc

def Fits (c : CircBuf α) (op : Op α) : Prop := op.CountsFit ∧ Admitted c op

instance (c : CircBuf α) (op : Op α) : Decidable (Fits c op) := inferInstanceAs (Decidable (_ ∧ _))

def CircBuf.next (c : CircBuf α) (op : Op α) : CircBuf α := (c.step op).1

lemma next_valid {c : CircBuf α} {op : Op α} (h : c.Valid) (hfit : Fits c op) : (c.next op).Valid :=
  (step_refines h hfit.1 hfit.2).valid

lemma run_valid {capacity : ℕ} (hpos : 0 < capacity) (hcap : capacity < 2 ^ 32) (zero : α) (rest : ℕ → α)
    {ops : List (Op α)} (h : Guarded CircBuf.next Fits (CircBuf.create zero rest capacity) ops) :
    (run CircBuf.next (CircBuf.create zero rest capacity) ops).Valid :=
  @Guarded.invariant _ _ CircBuf.next Fits CircBuf.Valid (fun _ _ => next_valid) _ _
    ⟨hpos, Nat.zero_le _, hcap⟩ h

/-- In every run whose sums do not run over, every call does to the contents what it does to a bounded
queue. -/
theorem circ_buf_refines {capacity : ℕ} (hpos : 0 < capacity) (hcap : capacity < 2 ^ 32) (zero : α)
    (rest : ℕ → α) {ops : List (Op α)} {op : Op α}
    (h : Guarded CircBuf.next Fits (CircBuf.create zero rest capacity) (ops ++ [op])) :
    Refines (run CircBuf.next (CircBuf.create zero rest capacity) ops) op := by
  obtain ⟨hbefore, hlast, -⟩ := h.append
  exact step_refines (run_valid hpos hcap zero rest hbefore) hlast.1 hlast.2

/-- A buffer of four: two samples are read, and the next write goes round; packing rolls it through the
gap of one. -/
theorem circ_buf_refines_roll : Refines (run CircBuf.next (CircBuf.create 0 (fun _ => 0) 4)
      [.write [1, 2, 3], .read 2, .write [4, 5]]) .packBuffer :=
  circ_buf_refines (by decide) (by decide) 0 (fun _ => 0) (by decide)

lemma not_refines_of_wrap {c : CircBuf α} {count : ℕ} (hroom : c.capacity < count + c.len)
    (hwrap : (count + c.len) % 2 ^ 32 ≤ c.capacity) : ¬ Refines c (.advWritePtr count) := by
  intro h
  have hqueue := h.queue
  simp only [Queue, CircBuf.contents_length] at hqueue
  rw [if_neg (by omega)] at hqueue
  have hst := hqueue.2
  rw [CircBuf.step, CircBuf.advWritePtr, if_neg (by omega)] at hst
  cases hst

/-- In a buffer of 2^32 - 1 samples the third step of the write pointer by 2^31 - 1 is let through, though
it goes far beyond the room that is left. -/
theorem adv_write_wraps :
    ¬ ∀ (capacity : ℕ) (ops : List (Op ℕ)) (op : Op ℕ), 0 < capacity → capacity < 2 ^ 32 →
      (∀ o ∈ ops ++ [op], o.CountsFit) →
        Refines (run CircBuf.next (CircBuf.create 0 (fun _ => 0) capacity) ops) op := by
  intro h
  have hlen : (run CircBuf.next (CircBuf.create 0 (fun _ => 0) 4294967295)
      [.advWritePtr 2147483647, .advWritePtr 2147483647]).len = 4294967294 := rfl
  have hcap : (run CircBuf.next (CircBuf.create 0 (fun _ => 0) 4294967295)
      [.advWritePtr 2147483647, .advWritePtr 2147483647]).capacity = 4294967295 := rfl
  refine not_refines_of_wrap ?_ ?_ (h 4294967295 [.advWritePtr 2147483647, .advWritePtr 2147483647]
    (.advWritePtr 2147483647) (by decide) (by decide) (by decide))
  · rw [hlen, hcap]
    decide
  · rw [hlen, hcap]
    decide

end PjProject.SampleBuf
