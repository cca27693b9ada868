import PjProject.RingMemory
import PjProject.Transition

/-!
# The circular buffer of samples

`pjmedia_circ_buf`: pointers into the buffer are cell numbers, and the numbers of
samples have the width of `unsigned`. What a buffer holds is the run of `len` cells
from `start` on, going round (`CircBuf.contents`).
-/
namespace PjProject.SampleBuf

open RingMemory

variable {α : Type*}

structure CircBuf (α : Type*) where
  buf : ℕ → α
  capacity : ℕ
  start : ℕ
  len : ℕ

inductive Status
  | success
  | etoobig
  deriving DecidableEq

/-- How many samples `pjmedia_copy_samples` and `pjmedia_move_samples` go over: the count is doubled to a
number of bytes in an `unsigned`. -/
def samples (count : ℕ) : ℕ := count * 2 % 2 ^ 32 / 2

namespace CircBuf

/-- `pjmedia_circ_buf_create`, with what the pool has in the cells behind the buffer. -/
def create (zero : α) (rest : ℕ → α) (capacity : ℕ) : CircBuf α :=
  ⟨fun i => if i < capacity then zero else rest i, capacity, 0, 0⟩

def reset (c : CircBuf α) : CircBuf α := { c with start := 0, len := 0 }

def advReadPtr (c : CircBuf α) (count : ℕ) : CircBuf α :=
  if count ≥ c.len then c.reset
  else
    let start := c.start + count
    { c with start := if start ≥ c.capacity then start - c.capacity else start, len := c.len - count }

def advWritePtr (c : CircBuf α) (count : ℕ) : CircBuf α × Status :=
  if (count + c.len) % 2 ^ 32 > c.capacity then (c, .etoobig)
  else ({ c with len := (c.len + count) % 2 ^ 32 }, .success)

structure Regions where
  reg1 : ℕ
  reg1Len : ℕ
  reg2Len : ℕ

def readRegions (c : CircBuf α) : Regions :=
  if c.start + c.len > c.capacity then ⟨c.start, c.capacity - c.start, c.len - (c.capacity - c.start)⟩
  else ⟨c.start, c.len, 0⟩

def writeRegions (c : CircBuf α) : Regions :=
  let reg1 := c.start + c.len
  let reg1 := if reg1 ≥ c.capacity then reg1 - c.capacity else reg1
  let reg1Len := c.capacity - c.len
  if reg1 + reg1Len > c.capacity then ⟨reg1, c.capacity - reg1, c.start⟩ else ⟨reg1, reg1Len, 0⟩

/-- `pjmedia_circ_buf_read`: the samples that are copied out, or nothing. -/
def read (c : CircBuf α) (count : ℕ) : CircBuf α × Option (List α) :=
  if count > c.len then (c, none)
  else
    let r := c.readRegions
    let data :=
      if r.reg1Len ≥ count then slice c.buf r.reg1 (samples count)
      else slice c.buf r.reg1 (samples r.reg1Len) ++ slice c.buf 0 (samples (count - r.reg1Len))
    (c.advReadPtr count, some data)

/-- `pjmedia_circ_buf_write` -/
def write (c : CircBuf α) (data : List α) : CircBuf α × Status :=
  let count := data.length
  if count > c.capacity - c.len then (c, .etoobig)
  else
    let r := c.writeRegions
    let buf :=
      if r.reg1Len ≥ count then RingMemory.write c.buf r.reg1 (data.take (samples count))
      else
        RingMemory.write (RingMemory.write c.buf r.reg1 (data.take (samples r.reg1Len))) 0
          ((data.drop r.reg1Len).take (samples (count - r.reg1Len)))
    advWritePtr { c with buf := buf } count

/-- `pjmedia_circ_buf_copy` -/
def copy (c : CircBuf α) (startIdx count : ℕ) : Option (List α) :=
  if (count + startIdx) % 2 ^ 32 > c.len then none
  else
    let r := c.readRegions
    if r.reg1Len > startIdx then
      let tmpLen := min (r.reg1Len - startIdx) count
      some (slice c.buf (r.reg1 + startIdx) (samples tmpLen) ++
        if tmpLen < count then slice c.buf 0 (samples (count - tmpLen)) else [])
    else some (slice c.buf (startIdx - r.reg1Len) (samples count))

/-- The loop of `pjmedia_circ_buf_pack_buffer`, with the buffer and the region it leaves; each round takes
a sample at least from the second region. -/
def rollLoop : ℕ → (ℕ → α) → Regions → ℕ → (ℕ → α) × Regions
  | 0, buf, r, _ => (buf, r)
  | n + 1, buf, r, gap =>
    let gap := if gap > r.reg2Len then r.reg2Len else gap
    let buf := move buf (r.reg1 - gap) r.reg1 (samples r.reg1Len)
    let buf := RingMemory.write buf (r.reg1 + r.reg1Len - gap) (slice buf 0 (samples gap))
    let buf := if gap < r.reg2Len then move buf 0 gap (samples (r.reg2Len - gap)) else buf
    let r : Regions := ⟨r.reg1 - gap, r.reg1Len + gap, r.reg2Len - gap⟩
    if r.reg2Len > 0 then rollLoop n buf r gap else (buf, r)

def packBuffer (c : CircBuf α) : CircBuf α × Status :=
  let r := c.readRegions
  let gap := c.capacity - c.len
  if r.reg2Len ≠ 0 ∧ gap = 0 then (c, .etoobig)
  else
    let (buf, r) := if r.reg2Len ≠ 0 then rollLoop r.reg2Len c.buf r gap else (c.buf, r)
    let buf := if r.reg1 ≠ 0 then move buf 0 r.reg1 (samples c.len) else buf
    ({ c with buf := buf, start := 0 }, .success)

def contents (c : CircBuf α) : List α := ring c.buf c.capacity c.start c.len

structure Valid (c : CircBuf α) : Prop where
  start_lt : c.start < c.capacity
  len_le : c.len ≤ c.capacity
  capacity_lt : c.capacity < 2 ^ 32

end CircBuf

end PjProject.SampleBuf
