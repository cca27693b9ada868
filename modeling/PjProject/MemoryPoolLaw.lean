import PjProject.MemoryPool

/-!
# What is allocated from a pool

The regions that the callers of a pool have been given do not overlap each other or what the pool keeps in
its memory, and they are aligned. A pool that may grow has room for every request whose size does not wrap.
-/
namespace PjProject.MemoryPool
open Transition

variable {pool : Pool} {b : Block} {mem : ℕ → Option ℕ} {alignment size p : ℕ}

structure Block.Ok (b : Block) : Prop where
  bounds : b.start + sizeofBlock ≤ b.buf ∧ b.buf ≤ b.cur ∧ b.cur ≤ b.fin ∧ b.fin < 2 ^ 64
  inside : ∀ t ∈ b.taken, b.buf ≤ t.ptr ∧ t.ptr + t.size ≤ b.cur ∧ t.alignment ∣ t.ptr
  apart : b.taken.Pairwise fun t u => u.ptr + u.size ≤ t.ptr

/-- What does not change in a block: its memory, and where the buffer is in it. -/
def Block.shape (b : Block) : ℕ × ℕ × ℕ := (b.start, b.buf, b.fin)

def shapes (blocks : List Block) : List (ℕ × ℕ × ℕ) := blocks.map Block.shape

def Pool.taken (pool : Pool) : List Taken := pool.blocks.flatMap Block.taken

/-- The blocks have memory of their own, and the first one has room for the pool. -/
structure Ok (pool : Pool) : Prop where
  blocks : ∀ b ∈ pool.blocks, b.Ok
  apart : (shapes pool.blocks).Pairwise fun x y => x.2.2 ≤ y.1 ∨ y.2.2 ≤ x.1
  first : ∃ x, (shapes pool.blocks).getLast? = some x ∧ x.1 + sizeofPool + sizeofBlock ≤ x.2.1
  capacity : pool.capacity = wrap ((shapes pool.blocks).map fun x => x.2.2 - x.1).sum
  alignment : isPowerOfTwo pool.alignment = true

/-- The factory gives memory that is no one else's. -/
def Gives (mem : ℕ → Option ℕ) (pool : Pool) : Prop :=
  ∀ size start, mem size = some start →
    start + size < 2 ^ 64 ∧ ∀ b ∈ pool.blocks, start + size ≤ b.start ∨ b.fin ≤ start

/-- The size of a block for the request does not wrap. -/
abbrev Fits (pool : Pool) (alignment size : ℕ) : Prop :=
  pool.incrementSize + sizeofBlock + pool.alignmentOf alignment + size ≤ 2 ^ 64

def Admitted (pool : Pool) : Call → Prop
  | .alloc mem alignment size => Gives mem pool ∧ Fits pool alignment size
  | .calloc mem count size => Gives mem pool ∧ Fits pool 0 (wrap (size * count))
  | .reset => True

lemma dvd_add_sub_mod {a n cur : ℕ} (hdvd : a ∣ n) (hcur : cur ≤ n) : a ∣ cur + (n - cur) % a := by
  rw [Nat.dvd_iff_mod_eq_zero, Nat.add_mod, Nat.mod_mod, ← Nat.add_mod, Nat.add_sub_cancel' hcur]
  exact Nat.mod_eq_zero_of_dvd hdvd

lemma alignPtr_spec (cur : ℕ) (ha : isPowerOfTwo alignment = true) (hle : alignment ≤ 2 ^ 64) (hcur : cur < 2 ^ 64) :
    ∃ x < alignment, alignment ∣ cur + x ∧ alignPtr cur alignment = wrap (cur + x) := by
  obtain ⟨k, rfl⟩ : ∃ k, alignment = 2 ^ k := by
    refine Nat.ne_zero_and_sub_one_eq_zero_iff_isPowerOfTwo.mp ?_
    simpa [isPowerOfTwo, Nat.pos_iff_ne_zero] using ha
  have hdvd : 2 ^ k ∣ 2 ^ 64 := pow_dvd_pow 2 ((Nat.pow_le_pow_iff_right (by norm_num)).mp hle)
  have hmask : wrap (2 ^ 64 - cur) &&& (2 ^ k - 1) = (2 ^ 64 - cur) % 2 ^ k := by
    rw [Nat.and_two_pow_sub_one_eq_mod, wrap, Nat.mod_mod_of_dvd _ hdvd]
  refine ⟨(2 ^ 64 - cur) % 2 ^ k, Nat.mod_lt _ (by positivity), dvd_add_sub_mod hdvd hcur.le, ?_⟩
  rw [alignPtr, hmask]

lemma allocFromBlock_ok (h : b.Ok) (ha : isPowerOfTwo alignment = true) (hle : alignment ≤ 2 ^ 64) {b' : Block}
    (heq : allocFromBlock alignment size b = some (p, b')) :
    b'.Ok ∧ b'.shape = b.shape ∧ b'.taken = ⟨p, size, alignment⟩ :: b.taken := by
  obtain ⟨hstart, hbuf, hcur, hfin⟩ := h.bounds
  obtain ⟨x, hx, hdvd, hptr⟩ := alignPtr_spec b.cur ha hle (by omega)
  unfold allocFromBlock at heq
  dsimp only at heq
  split at heq
  · rename_i hroom
    obtain ⟨hpos, hend, hsize⟩ := hroom
    -- a pointer that wraps comes out below `cur`
    have hplain : alignPtr b.cur alignment = b.cur + x := by
      rw [hptr] at hpos ⊢
      unfold wrap at hpos ⊢
      omega
    rw [hplain] at heq hend hsize
    obtain ⟨rfl, rfl⟩ := Prod.mk.inj (Option.some.inj heq)
    refine ⟨⟨⟨hstart, by dsimp only; omega, by dsimp only; omega, hfin⟩, fun t ht => ?_, ?_⟩, rfl, rfl⟩
    · rcases List.mem_cons.mp ht with rfl | ht
      · exact ⟨by dsimp only; omega, le_rfl, hdvd⟩
      · obtain ⟨h1, h2, h3⟩ := h.inside t ht
        exact ⟨h1, by dsimp only; omega, h3⟩
    · refine List.pairwise_cons.mpr ⟨fun u hu => ?_, h.apart⟩
      obtain ⟨-, hu, -⟩ := h.inside u hu
      dsimp only
      omega
  · cases heq

lemma search_ok (ha : isPowerOfTwo alignment = true) (hle : alignment ≤ 2 ^ 64) {blocks blocks' : List Block}
    {i : ℕ} (h : ∀ b ∈ blocks, b.Ok) (heq : search alignment size i blocks = some (p, blocks')) :
    (∀ b ∈ blocks', b.Ok) ∧ shapes blocks' = shapes blocks ∧
      (blocks'.flatMap Block.taken).Perm (⟨p, size, alignment⟩ :: blocks.flatMap Block.taken) := by
  induction blocks generalizing i blocks' with
  | nil => cases heq
  | cons b blocks ih =>
    obtain ⟨hb, hrest⟩ := List.forall_mem_cons.mp h
    rw [search] at heq
    split at heq
    · rename_i b' halloc
      obtain ⟨rfl, rfl⟩ := Prod.mk.inj (Option.some.inj heq)
      obtain ⟨hok, hshape, htaken⟩ := allocFromBlock_ok hb ha hle halloc
      refine ⟨List.forall_mem_cons.mpr ⟨hok, hrest⟩, congrArg (· :: shapes blocks) hshape, ?_⟩
      rw [List.flatMap_cons, List.flatMap_cons, htaken, List.cons_append]
    · split at heq
      · cases heq
      · obtain ⟨⟨q, bs⟩, hs, heq⟩ := Option.map_eq_some_iff.mp heq
        obtain ⟨rfl, rfl⟩ := Prod.mk.inj heq
        obtain ⟨hok, hshape, htaken⟩ := ih hrest hs
        refine ⟨List.forall_mem_cons.mpr ⟨hb, hok⟩, congrArg (b.shape :: ·) hshape, ?_⟩
        rw [List.flatMap_cons, List.flatMap_cons]
        exact (htaken.append_left _).trans List.perm_middle

lemma Ok.blocks_congr (h : Ok pool) {blocks : List Block} (hok : ∀ b ∈ blocks, b.Ok)
    (hshapes : shapes blocks = shapes pool.blocks) : Ok { pool with blocks := blocks } :=
  ⟨hok, by rw [hshapes]; exact h.apart, by rw [hshapes]; exact h.first, by rw [hshapes]; exact h.capacity, h.alignment⟩

/-- A pool is sound after a request, and has given what it returns. -/
structure Served (alignment size : ℕ) (pool : Pool) (r : Option ℕ × Pool) : Prop where
  ok : Ok r.2
  given : ∀ p, r.1 = some p → r.2.taken.Perm (⟨p, size, alignment⟩ :: pool.taken)
  refused : r.1 = none → r.2.taken = pool.taken

lemma allocFirst_served (h : Ok pool) (ha : isPowerOfTwo alignment = true) (hle : alignment ≤ 2 ^ 64) {pool' : Pool}
    (heq : allocFirst alignment size pool = some (p, pool')) : Served alignment size pool (some p, pool') := by
  unfold allocFirst at heq
  split at heq
  · cases heq
  · rename_i b blocks hblocks
    obtain ⟨⟨q, b'⟩, halloc, heq⟩ := Option.map_eq_some_iff.mp heq
    obtain ⟨rfl, rfl⟩ := Prod.mk.inj heq
    obtain ⟨hb, hrest⟩ := List.forall_mem_cons.mp (hblocks ▸ h.blocks)
    obtain ⟨hok, hshape, htaken⟩ := allocFromBlock_ok hb ha hle halloc
    refine ⟨h.blocks_congr (List.forall_mem_cons.mpr ⟨hok, hrest⟩) ?_, fun p' hp => ?_, fun hp => by cases hp⟩
    · rw [hblocks]
      exact congrArg (· :: shapes blocks) hshape
    · cases hp
      unfold Pool.taken
      rw [hblocks, List.flatMap_cons, List.flatMap_cons, htaken, List.cons_append]

lemma blockSize_ge {inc : ℕ} (hinc : inc ≠ 0) (h0 : 0 < alignment) (hfits : inc + sizeofBlock + alignment + size ≤ 2 ^ 64) :
    sizeofBlock + (alignment - 1) + size ≤ blockSize inc alignment size := by
  have hwant : wrap (sizeofBlock + (alignment - 1) + size) = sizeofBlock + (alignment - 1) + size :=
    Nat.mod_eq_of_lt (by unfold sizeofBlock at *; omega)
  unfold blockSize
  rw [hwant]
  split
  · have hsum : wrap (inc + sizeofBlock + (alignment - 1) + size) = inc + sizeofBlock + (alignment - 1) + size :=
      Nat.mod_eq_of_lt (by omega)
    have hdiv := Nat.div_add_mod' (inc + sizeofBlock + (alignment - 1) + size) inc
    have hprod : wrap ((inc + sizeofBlock + (alignment - 1) + size) / inc * inc) =
        (inc + sizeofBlock + (alignment - 1) + size) / inc * inc := Nat.mod_eq_of_lt (by omega)
    have hmod := Nat.mod_lt (inc + sizeofBlock + (alignment - 1) + size) (Nat.pos_of_ne_zero hinc)
    rw [hsum, hprod]
    omega
  · omega

lemma createBlock_ok (h : Ok pool) (hgives : Gives mem pool) {n : ℕ} (hn : sizeofBlock ≤ n) {pool' : Pool}
    (heq : createBlock mem n pool = some pool') : ∃ start, start + n < 2 ^ 64 ∧ Ok pool' ∧
      pool'.blocks = ⟨start, start + sizeofBlock, start + sizeofBlock, start + n, []⟩ :: pool.blocks := by
  obtain ⟨start, hmem, rfl⟩ := Option.map_eq_some_iff.mp heq
  obtain ⟨hlt, hfree⟩ := hgives n start hmem
  have hbuf : wrap (start + sizeofBlock) = start + sizeofBlock := Nat.mod_eq_of_lt (by omega)
  have hfin : wrap (start + n) = start + n := Nat.mod_eq_of_lt hlt
  rw [hbuf, hfin]
  refine ⟨start, hlt, ⟨List.forall_mem_cons.mpr ⟨?_, h.blocks⟩, ?_, ?_, ?_, h.alignment⟩, rfl⟩
  · exact ⟨⟨le_rfl, le_rfl, by dsimp only; omega, hlt⟩, fun t ht => (by cases ht), .nil⟩
  · refine List.pairwise_cons.mpr ⟨fun y hy => ?_, h.apart⟩
    obtain ⟨b, hb, rfl⟩ := List.mem_map.mp hy
    exact hfree b hb
  · obtain ⟨x, hx, hfirst⟩ := h.first
    refine ⟨x, ?_, hfirst⟩
    show (_ :: shapes pool.blocks).getLast? = some x
    rw [List.getLast?_cons, hx]
    rfl
  · show wrap (pool.capacity + n) = wrap ((start + n - start) + ((shapes pool.blocks).map fun x => x.2.2 - x.1).sum)
    rw [h.capacity, Nat.add_sub_cancel_left, Nat.add_comm]
    exact Nat.add_mod_mod ..

lemma createBlock_room {blocks : List Block} {start n : ℕ} (ha : isPowerOfTwo alignment = true)
    (hle : alignment ≤ 2 ^ 64) (hlt : start + n < 2 ^ 64) (hn : sizeofBlock + (alignment - 1) + size ≤ n)
    (hblocks : pool.blocks = ⟨start, start + sizeofBlock, start + sizeofBlock, start + n, []⟩ :: blocks) :
    (allocFirst alignment size pool).isSome = true := by
  obtain ⟨x, hx, -, hptr⟩ := alignPtr_spec (start + sizeofBlock) ha hle (by omega)
  have hplain : alignPtr (start + sizeofBlock) alignment = start + sizeofBlock + x := by
    rw [hptr]
    exact Nat.mod_eq_of_lt (by omega)
  unfold allocFirst allocFromBlock
  rw [hblocks]
  dsimp only
  rw [hplain, if_pos ⟨by omega, by omega, by omega⟩]
  rfl

lemma isPowerOfTwo_pos (ha : isPowerOfTwo alignment = true) : 0 < alignment := by
  unfold isPowerOfTwo at ha
  exact (of_decide_eq_true ha).1

/-- What is asked for is given if the pool may grow and the factory has memory. -/
lemma allocateFind_served (h : Ok pool) (hgives : Gives mem pool) (ha : isPowerOfTwo alignment = true)
    (hfits : pool.incrementSize + sizeofBlock + alignment + size ≤ 2 ^ 64) :
    Served alignment size pool (allocateFind mem alignment size pool) ∧
      (pool.incrementSize ≠ 0 → (mem (blockSize pool.incrementSize alignment size)).isSome = true →
        (allocateFind mem alignment size pool).1.isSome = true) := by
  have hle : alignment ≤ 2 ^ 64 := by omega
  have hsame : Served alignment size pool (none, pool) := ⟨h, fun p hp => (by cases hp), fun _ => rfl⟩
  unfold allocateFind
  split
  · rename_i p blocks hs
    obtain ⟨hok, hshapes, htaken⟩ := search_ok ha hle h.blocks hs
    refine ⟨⟨h.blocks_congr hok hshapes, fun p' hp => ?_, fun hp => by cases hp⟩, fun _ _ => rfl⟩
    cases hp
    exact htaken
  · split
    · exact ⟨hsame, fun hinc => absurd ‹_› hinc⟩
    · rename_i hinc
      have hsize := blockSize_ge hinc (isPowerOfTwo_pos ha) hfits
      split
      · rename_i hnone
        refine ⟨hsame, fun _ hmem => ?_⟩
        rw [Option.map_eq_none_iff.mp hnone] at hmem
        cases hmem
      · rename_i pool' hcreate
        obtain ⟨start, hlt, hok, hblocks⟩ := createBlock_ok h hgives (by omega) hcreate
        have hroom := createBlock_room ha hle hlt hsize hblocks
        have htaken : pool'.taken = pool.taken := by
          unfold Pool.taken
          rw [hblocks]
          rfl
        split
        · rename_i p pool'' hfirst
          obtain ⟨hok', hgiven, -⟩ := allocFirst_served hok ha hle hfirst
          rw [htaken] at hgiven
          exact ⟨⟨hok', hgiven, fun hp => by cases hp⟩, fun _ _ => rfl⟩
        · rename_i hnone
          rw [hnone] at hroom
          cases hroom

lemma alignedAlloc_served (h : Ok pool) (hgives : Gives mem pool) (hfits : Fits pool alignment size)
    (ha : alignment = 0 ∨ isPowerOfTwo alignment = true) :
    Served (pool.alignmentOf alignment) size pool (alignedAlloc mem alignment size pool) ∧
      (pool.incrementSize ≠ 0 →
        (mem (blockSize pool.incrementSize (pool.alignmentOf alignment) size)).isSome = true →
        (alignedAlloc mem alignment size pool).1.isSome = true) := by
  have ha' : isPowerOfTwo (pool.alignmentOf alignment) = true := by
    unfold Pool.alignmentOf
    split
    · exact h.alignment
    · exact ha.resolve_left ‹_›
  unfold alignedAlloc
  rw [if_neg (by rcases ha with rfl | ha <;> simp [*])]
  split
  · rename_i p pool' hfirst
    exact ⟨allocFirst_served h ha' (by unfold Fits at hfits; omega) hfirst, fun _ _ => rfl⟩
  · exact allocateFind_served h hgives ha' hfits

lemma alignedAlloc_ok (h : Ok pool) (hgives : Gives mem pool) (hfits : Fits pool alignment size) :
    Ok (alignedAlloc mem alignment size pool).2 := by
  by_cases ha : alignment = 0 ∨ isPowerOfTwo alignment = true
  · exact (alignedAlloc_served h hgives hfits ha).1.ok
  · obtain ⟨h0, hpow⟩ := not_or.mp ha
    unfold alignedAlloc
    rw [if_pos ⟨h0, by simpa using hpow⟩]
    exact h

lemma reset_ok (h : Ok pool) : Ok (reset pool) := by
  obtain ⟨x, hlast, hfirst⟩ := h.first
  obtain ⟨b, hb, rfl⟩ : ∃ b, pool.blocks.getLast? = some b ∧ b.shape = x := by
    rw [shapes, List.getLast?_map] at hlast
    exact Option.map_eq_some_iff.mp hlast
  obtain ⟨hstart, hbuf, hcur, hfin⟩ := (h.blocks b (List.mem_of_getLast? hb)).bounds
  unfold reset
  rw [hb]
  refine ⟨fun b' hb' => ?_, List.pairwise_singleton _ _, ⟨b.shape, rfl, hfirst⟩, ?_, h.alignment⟩
  · rw [List.mem_singleton.mp hb']
    exact ⟨⟨hstart, le_rfl, hbuf.trans hcur, hfin⟩, fun t ht => (by cases ht), .nil⟩
  · have hsize : b.fin - b.start + 0 < 2 ^ 64 := by omega
    exact (Nat.mod_eq_of_lt hsize).symm

lemma step_ok {c : Call} (h : Ok pool) (hc : Admitted pool c) : Ok (step pool c) := by
  cases c with
  | alloc mem alignment size => exact alignedAlloc_ok h hc.1 hc.2
  | calloc mem count size =>
    show Ok (calloc mem count size pool).2
    unfold calloc
    split
    · exact h
    · exact alignedAlloc_ok h hc.1 hc.2
  | reset => exact reset_ok h

lemma create_ok {start initialSize incrementSize : ℕ} (hlt : start + initialSize < 2 ^ 64)
    (h : create start initialSize incrementSize alignment = some pool) : Ok pool := by
  unfold create at h
  split at h
  · rename_i hok
    have hbuf : wrap (start + sizeofPool + sizeofBlock) = start + sizeofPool + sizeofBlock :=
      Nat.mod_eq_of_lt (by omega)
    have hfin : wrap (start + initialSize) = start + initialSize := Nat.mod_eq_of_lt hlt
    dsimp only at h
    rw [hbuf, hfin] at h
    obtain rfl := Option.some.inj h
    refine ⟨fun b hb => ?_, List.pairwise_singleton _ _, ⟨_, rfl, le_rfl⟩, ?_, ?_⟩
    · rw [List.mem_singleton.mp hb]
      exact ⟨⟨by dsimp only; omega, le_rfl, by dsimp only; omega, hlt⟩, fun t ht => (by cases ht), .nil⟩
    · show initialSize = wrap (start + initialSize - start + 0)
      rw [Nat.add_sub_cancel_left]
      exact (Nat.mod_eq_of_lt (by omega)).symm
    · dsimp only
      split
      · decide
      · exact hok.2.resolve_left ‹_›
  · cases h

lemma run_ok {start initialSize incrementSize : ℕ} {calls : List Call} (hlt : start + initialSize < 2 ^ 64)
    (hcreate : create start initialSize incrementSize alignment = some pool)
    (h : Guarded step Admitted pool calls) : Ok (run step pool calls) :=
  h.invariant (fun _ _ h hc => step_ok h hc) (create_ok hlt hcreate)

/-- In every run of a pool in which no size wraps, the regions that its callers hold are apart from each
other, aligned, and inside the buffers of blocks that are apart, with nothing of the pool's own in them. -/
theorem regions_apart (start initialSize incrementSize alignment : ℕ) (calls : List Call)
    (hlt : start + initialSize < 2 ^ 64) (hcreate : create start initialSize incrementSize alignment = some pool)
    (h : Guarded step Admitted pool calls) {pool' : Pool} (hrun : run step pool calls = pool') :
    pool'.taken.Pairwise (fun t u => t.ptr + t.size ≤ u.ptr ∨ u.ptr + u.size ≤ t.ptr) ∧
      (∀ t ∈ pool'.taken, t.alignment ∣ t.ptr ∧
        ∃ b ∈ pool'.blocks, b.start + sizeofBlock ≤ t.ptr ∧ t.ptr + t.size ≤ b.fin) ∧ Ok pool' := by
  have hok := run_ok hlt hcreate h
  rw [hrun] at hok
  refine ⟨List.pairwise_flatMap.mpr ⟨fun b hb => ?_, ?_⟩, fun t ht => ?_, hok⟩
  · exact (hok.blocks b hb).apart.imp fun h => .inr h
  · refine (List.pairwise_map.mp hok.apart).imp_of_mem fun {b b'} hb hb' hapart t ht u hu => ?_
    obtain ⟨h1, h2, -⟩ := (hok.blocks b hb).inside t ht
    obtain ⟨h3, h4, -⟩ := (hok.blocks b' hb').inside u hu
    have hbounds := (hok.blocks b hb).bounds
    have hbounds' := (hok.blocks b' hb').bounds
    unfold Block.shape at hapart
    dsimp only at hapart
    omega
  · obtain ⟨b, hb, ht⟩ := List.mem_flatMap.mp ht
    obtain ⟨h1, h2, h3⟩ := (hok.blocks b hb).inside t ht
    have hbounds := (hok.blocks b hb).bounds
    exact ⟨h3, b, hb, by omega, by omega⟩

/-- A pool of 256 bytes that gives a region from a second block, and then one from its first. -/
def grown : List Call :=
  [.alloc (fun n => if n = 1000 then some 8192 else none) 16 100, .calloc (fun _ => none) 2 400, .calloc (fun _ => none) 2 8]

lemma grown_admitted : Guarded step Admitted ⟨[⟨4096, 4272, 4272, 4352, []⟩], 256, 1000, 4⟩ grown := by
  refine ⟨⟨fun size start hmem => ?_, by decide⟩, ⟨fun size start hmem => (by cases hmem), by decide⟩,
    ⟨fun size start hmem => (by cases hmem), by decide⟩, trivial⟩
  obtain ⟨rfl, rfl⟩ : size = 1000 ∧ 8192 = start := by simpa using hmem
  decide

theorem regions_apart_grown : ([⟨8340, 800, 4⟩, ⟨8240, 100, 16⟩] : List Taken).Pairwise
      fun t u => t.ptr + t.size ≤ u.ptr ∨ u.ptr + u.size ≤ t.ptr :=
  (regions_apart 4096 256 1000 0 (grown.take 2) (by norm_num) rfl grown_admitted.append.1 rfl).1

/-- A request whose size does not wrap gets a region of its own, and none only where the pool may not grow or
the factory has no memory. -/
theorem requests_served (start initialSize incrementSize alignment : ℕ) (calls : List Call)
    (hlt : start + initialSize < 2 ^ 64) (hcreate : create start initialSize incrementSize alignment = some pool)
    (h : Guarded step Admitted pool calls) {pool' : Pool} (hrun : run step pool calls = pool') {a : ℕ}
    (ha : a = 0 ∨ isPowerOfTwo a = true) (hgives : Gives mem pool') (hfits : Fits pool' a size) :
    (∀ p, (alignedAlloc mem a size pool').1 = some p →
      (alignedAlloc mem a size pool').2.taken.Perm (⟨p, size, pool'.alignmentOf a⟩ :: pool'.taken)) ∧
      ((alignedAlloc mem a size pool').1 = none → (alignedAlloc mem a size pool').2.taken = pool'.taken ∧
        (pool'.incrementSize = 0 ∨ mem (blockSize pool'.incrementSize (pool'.alignmentOf a) size) = none)) := by
  have hok := run_ok hlt hcreate h
  rw [hrun] at hok
  obtain ⟨hserved, hsome⟩ := alignedAlloc_served hok hgives hfits ha
  refine ⟨hserved.given, fun hnone => ⟨hserved.refused hnone, ?_⟩⟩
  by_contra hno
  obtain ⟨hinc, hmem⟩ := not_or.mp hno
  have := hsome hinc (Option.isSome_iff_ne_none.mpr hmem)
  rw [hnone] at this
  cases this

theorem requests_served_grown :
    (alignedAlloc (fun _ => none) 0 50 (run step ⟨[⟨4096, 4272, 4272, 4352, []⟩], 256, 1000, 4⟩ grown)).2.taken.Perm
      [⟨4272, 50, 4⟩, ⟨9140, 16, 4⟩, ⟨8340, 800, 4⟩, ⟨8240, 100, 16⟩] :=
  (requests_served 4096 256 1000 0 grown (by norm_num) rfl grown_admitted rfl (.inl rfl)
    (fun size start hmem => by cases hmem) (by decide)).1 4272 (by decide)

end PjProject.MemoryPool
