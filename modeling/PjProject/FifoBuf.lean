import PjProject.RingMemory
import PjProject.Transition

/-!
# The fifo buffer

`pj_fifobuf_t`: blocks with a size in front of each, given out and returned in one
order. Pointers are offsets from `first`. A session is a fifo buffer and the blocks
the application holds, oldest first.
-/
namespace PjProject.Fifo

open RingMemory

def SZ : ℕ := 4

structure FifoBuf where
  mem : ℕ → UInt8
  last : ℕ
  ubegin : ℕ
  uend : ℕ
  full : Bool

inductive Status
  | success
  | einval
  deriving DecidableEq

def putSize (mem : ℕ → UInt8) (ptr : ℕ) (size : UInt32) : ℕ → UInt8 :=
  let n := size.toNat
  write mem ptr [.ofNat n, .ofNat (n / 256), .ofNat (n / 65536), .ofNat (n / 16777216)]

def getSize (mem : ℕ → UInt8) (ptr : ℕ) : ℕ :=
  (mem ptr).toNat + (mem (ptr + 1)).toNat * 256 + (mem (ptr + 2)).toNat * 65536 +
    (mem (ptr + 3)).toNat * 16777216

/-- `size+SZ`, an `unsigned`. -/
def need (size : UInt32) : UInt32 := size + 4

namespace FifoBuf

/-- `pj_fifobuf_init`, with what is in the buffer. -/
def init (mem : ℕ → UInt8) (size : UInt32) : FifoBuf :=
  ⟨mem, size.toNat, 0, 0, decide (size.toNat = 0)⟩

def availableSize (f : FifoBuf) : ℕ :=
  if f.full then 0
  else if f.uend ≥ f.ubegin then
    let s1 := f.last - f.uend
    let s2 := f.ubegin
    let s := if s1 ≤ SZ then s2 else if s2 ≤ SZ then s1 else if s1 < s2 then s2 else s1
    if s ≥ SZ then s - SZ else 0
  else
    let s := f.ubegin - f.uend
    if s ≥ SZ then s - SZ else 0

/-- `pj_fifobuf_alloc` -/
def alloc (f : FifoBuf) (size : UInt32) : FifoBuf × Option ℕ :=
  let n := (need size).toNat
  if f.full then (f, none)
  else if f.uend ≥ f.ubegin ∧ f.last - f.uend ≥ n then
    let uend := if f.uend + n = f.last then 0 else f.uend + n
    ({ f with
        mem := putSize f.mem f.uend (need size)
        uend := uend
        full := decide (uend = f.ubegin) },
      some (f.uend + SZ))
  else
    let start := if f.uend ≤ f.ubegin then f.uend else 0
    if f.ubegin - start ≥ n then
      ({ f with
          mem := putSize f.mem start (need size)
          uend := start + n
          full := decide (start + n = f.ubegin) },
        some (start + SZ))
    else (f, none)

/-- The used area begins at `p` from now on, or is empty. -/
def release (f : FifoBuf) (p : ℕ) : FifoBuf :=
  let ubegin := if p = f.last then 0 else p
  if ubegin = f.uend then { f with ubegin := 0, uend := 0, full := false }
  else { f with ubegin := ubegin, full := false }

/-- `pj_fifobuf_free` -/
def free (f : FifoBuf) (buf : ℕ) : FifoBuf × Status :=
  let ptr := buf - SZ
  if buf < SZ ∨ ptr ≥ f.last then (f, .einval)
  else if ptr ≠ f.ubegin ∧ ptr ≠ 0 then (f, .einval)
  else
    let fin := if f.uend > f.ubegin then f.uend else f.last
    let sz := getSize f.mem ptr
    if ptr + sz > fin then (f, .einval)
    else (f.release (ptr + sz), .success)

end FifoBuf

structure Block where
  ptr : ℕ
  size : ℕ
  deriving DecidableEq

def Block.Covers (b : Block) (i : ℕ) : Prop := b.ptr ≤ i + SZ ∧ i < b.ptr + b.size

structure Session where
  buf : FifoBuf
  live : List Block

inductive Op
  | alloc (size : UInt32)
  /-- The oldest block is returned. -/
  | free
  /-- The application writes a byte of one of its blocks. -/
  | fill (block i : ℕ) (byte : UInt8)

namespace Session

def init (mem : ℕ → UInt8) (size : UInt32) : Session := ⟨.init mem size, []⟩

def alloc (s : Session) (size : UInt32) : Session :=
  let (buf, p) := s.buf.alloc size
  ⟨buf, s.live ++ p.toList.map fun ptr => ⟨ptr, size.toNat⟩⟩

def free (s : Session) : Session :=
  match s.live with
  | [] => s
  | b :: rest => ⟨(s.buf.free b.ptr).1, rest⟩

def fill (s : Session) (block i : ℕ) (byte : UInt8) : Session :=
  match s.live[block]? with
  | some b => if i < b.size then { s with buf.mem := write s.buf.mem (b.ptr + i) [byte] } else s
  | none => s

def next (s : Session) : Op → Session
  | .alloc size => s.alloc size
  | .free => s.free
  | .fill block i byte => s.fill block i byte

end Session

end PjProject.Fifo
