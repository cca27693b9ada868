import PjProject.Transition

/-!
# Memory pools

A pool of `pool.c` takes memory off the blocks of its list, and asks its factory for another block when
they have no room. Addresses and sizes are numbers below `2 ^ 64`, and what is computed of them wraps.
A block has a list of what was taken off it, which the code has not.
-/
namespace PjProject.MemoryPool

/-- `sizeof(pj_pool_block)` and `sizeof(pj_pool_t)` on a 64-bit platform. -/
def sizeofBlock : ℕ := 40

def sizeofPool : ℕ := 136

/-- `PJ_POOL_ALIGNMENT` -/
def poolAlignment : ℕ := 4

/-- `PJ_POOL_MAX_SEARCH_BLOCK_COUNT` -/
def maxSearchBlockCount : ℕ := 5

def wrap (n : ℕ) : ℕ := n % 2 ^ 64

/-- What a caller has been given. -/
structure Taken where
  ptr : ℕ
  size : ℕ
  alignment : ℕ
  deriving DecidableEq

/-- `pj_pool_block` in the memory from `start` to `fin`. -/
structure Block where
  start : ℕ
  buf : ℕ
  cur : ℕ
  fin : ℕ
  taken : List Taken
  deriving DecidableEq

/-- `pj_pool_t`, at the start of its first block, which is the last one of the list. -/
structure Pool where
  blocks : List Block
  capacity : ℕ
  incrementSize : ℕ
  alignment : ℕ
  deriving DecidableEq

/-- `PJ_IS_POWER_OF_TWO` -/
def isPowerOfTwo (n : ℕ) : Bool := 0 < n ∧ n &&& (n - 1) = 0

/-- `PJ_POOL_ALIGN_PTR` -/
def alignPtr (ptr alignment : ℕ) : ℕ := wrap (ptr + (wrap (2 ^ 64 - ptr) &&& (alignment - 1)))

/-- `pj_pool_alloc_from_block` -/
def allocFromBlock (alignment size : ℕ) (b : Block) : Option (ℕ × Block) :=
  let ptr := alignPtr b.cur alignment
  if b.cur ≤ ptr ∧ ptr ≤ b.fin ∧ size ≤ b.fin - ptr then
    some (ptr, { b with cur := ptr + size, taken := ⟨ptr, size, alignment⟩ :: b.taken })
  else none

/-- The loop of `pj_pool_allocate_find` over the blocks. -/
def search (alignment size : ℕ) : ℕ → List Block → Option (ℕ × List Block)
  | _, [] => none
  | i, b :: blocks =>
    match allocFromBlock alignment size b with
    | some (p, b') => some (p, b' :: blocks)
    | none =>
      if i ≥ maxSearchBlockCount then none
      else (search alignment size (i + 1) blocks).map fun r => (r.1, b :: r.2)

/-- The size of a block with room for a request. -/
def blockSize (incrementSize alignment size : ℕ) : ℕ :=
  if incrementSize < wrap (sizeofBlock + (alignment - 1) + size) then
    wrap (wrap (incrementSize + sizeofBlock + (alignment - 1) + size) / incrementSize * incrementSize)
  else incrementSize

/-- `pj_pool_create_block`; `mem` is what the factory answers to a request for memory. -/
def createBlock (mem : ℕ → Option ℕ) (size : ℕ) (pool : Pool) : Option Pool :=
  (mem size).map fun start =>
    { pool with
      capacity := wrap (pool.capacity + size)
      blocks := ⟨start, wrap (start + sizeofBlock), wrap (start + sizeofBlock), wrap (start + size), []⟩ ::
        pool.blocks }

/-- An allocation from the first block. -/
def allocFirst (alignment size : ℕ) (pool : Pool) : Option (ℕ × Pool) :=
  match pool.blocks with
  | [] => none
  | b :: blocks => (allocFromBlock alignment size b).map fun r => (r.1, { pool with blocks := r.2 :: blocks })

/-- `pj_pool_allocate_find` -/
def allocateFind (mem : ℕ → Option ℕ) (alignment size : ℕ) (pool : Pool) : Option ℕ × Pool :=
  match search alignment size 0 pool.blocks with
  | some (p, blocks) => (some p, { pool with blocks := blocks })
  | none =>
    if pool.incrementSize = 0 then (none, pool)
    else
      match createBlock mem (blockSize pool.incrementSize alignment size) pool with
      | none => (none, pool)
      | some pool =>
        match allocFirst alignment size pool with
        | some (p, pool) => (some p, pool)
        | none => (none, pool)

/-- The alignment of a request. -/
def Pool.alignmentOf (alignment : ℕ) (pool : Pool) : ℕ := if alignment = 0 then pool.alignment else alignment

/-- `pj_pool_aligned_alloc`; `pj_pool_alloc` has the alignment 0. -/
def alignedAlloc (mem : ℕ → Option ℕ) (alignment size : ℕ) (pool : Pool) : Option ℕ × Pool :=
  if alignment ≠ 0 ∧ isPowerOfTwo alignment = false then (none, pool)
  else
    match allocFirst (pool.alignmentOf alignment) size pool with
    | some (p, pool) => (some p, pool)
    | none => allocateFind mem (pool.alignmentOf alignment) size pool

/-- `pj_pool_calloc` -/
def calloc (mem : ℕ → Option ℕ) (count size : ℕ) (pool : Pool) : Option ℕ × Pool :=
  if count ≠ 0 ∧ size > (2 ^ 64 - 1) / count then (none, pool) else alignedAlloc mem 0 (wrap (size * count)) pool

/-- `pj_pool_reset`, for a pool whose first block is at the start of the pool. -/
def reset (pool : Pool) : Pool :=
  match pool.blocks.getLast? with
  | none => pool
  | some b =>
    { pool with blocks := [{ b with cur := b.buf, taken := [] }], capacity := b.fin - b.start }

/-- `pj_pool_create_int` in memory from the factory. -/
def create (start initialSize incrementSize alignment : ℕ) : Option Pool :=
  if sizeofPool + sizeofBlock ≤ initialSize ∧ (alignment = 0 ∨ isPowerOfTwo alignment = true) then
    let buf := wrap (start + sizeofPool + sizeofBlock)
    some ⟨[⟨start, buf, buf, wrap (start + initialSize), []⟩], initialSize, incrementSize,
      if alignment = 0 then poolAlignment else alignment⟩
  else none

/-- A call, with what the factory answers if it is asked. -/
inductive Call
  | alloc (mem : ℕ → Option ℕ) (alignment size : ℕ)
  | calloc (mem : ℕ → Option ℕ) (count size : ℕ)
  | reset

def step (pool : Pool) : Call → Pool
  | .alloc mem alignment size => (alignedAlloc mem alignment size pool).2
  | .calloc mem count size => (calloc mem count size pool).2
  | .reset => reset pool

end PjProject.MemoryPool
