import PjProject.BoundedRead
import PjProject.CircBufLaw

/-!
# The delay buffer as a simple fifo

`pjmedia_delay_buf` with `PJMEDIA_DELAY_BUF_SIMPLE_FIFO`: frames of a fixed number of
samples are put into a circular buffer and taken out of it. A put into a buffer that
is too full drops the oldest samples, and a get from one that is too short is padded.
-/
namespace PjProject.SampleBuf

open RingMemory Transition

variable {α : Type}

structure DelayBuf (α : Type) where
  samplesPerFrame : ℕ
  ptime : ℕ
  maxCnt : ℕ
  circBuf : CircBuf α

inductive CreateFault
  | divByZero
  deriving DecidableEq

def udiv (a b : ℕ) : Except CreateFault ℕ := if b = 0 then .error .divByZero else .ok (a / b)

def defaultMaxDelay : ℕ := 400

def usedDelay (ptime maxDelay : ℕ) : ℕ := if maxDelay < ptime then max defaultMaxDelay ptime else maxDelay

namespace DelayBuf

/-- `pjmedia_delay_buf_create`; `none` stands for `PJ_EINVAL`. -/
def create (zero : α) (rest : ℕ → α) (clockRate samplesPerFrame channelCount maxDelay : ℕ) :
    Except CreateFault (Option (DelayBuf α)) :=
  if samplesPerFrame = 0 ∨ clockRate = 0 ∨ channelCount = 0 then .ok none
  else do
    let perClock ← udiv (samplesPerFrame * 1000 % 2 ^ 32) clockRate
    let ptime ← udiv perClock channelCount
    let maxCnt ← udiv (samplesPerFrame * usedDelay ptime maxDelay % 2 ^ 32) ptime
    .ok (some ⟨samplesPerFrame, ptime, maxCnt, .create zero rest maxCnt⟩)

/-- `pjmedia_delay_buf_put` of the samples at `frame`. -/
def put (b : DelayBuf α) (frame : ℕ → α) : DelayBuf α :=
  let need := (b.circBuf.len + b.samplesPerFrame) % 2 ^ 32
  let circBuf := if need > b.maxCnt then b.circBuf.advReadPtr (need - b.maxCnt) else b.circBuf
  { b with circBuf := (circBuf.write (slice frame 0 b.samplesPerFrame)).1 }

def readInto (c : CircBuf α) (frame : ℕ → α) (count : ℕ) : List α := (c.read count).2.getD (slice frame 0 count)

/-- `pjmedia_delay_buf_get`, with the samples that it leaves at `frame`. -/
def get (zero : α) (b : DelayBuf α) (frame : ℕ → α) : DelayBuf α × List α :=
  if b.circBuf.len < b.samplesPerFrame then
    let len := b.circBuf.len
    ({ b with circBuf := (b.circBuf.read len).1.reset },
      readInto b.circBuf frame len ++ List.replicate (samples (b.samplesPerFrame - len)) zero)
  else
    ({ b with circBuf := (b.circBuf.read b.samplesPerFrame).1 }, readInto b.circBuf frame b.samplesPerFrame)

inductive Op (α : Type)
  | put (frame : ℕ → α)
  | get (frame : ℕ → α)

def next (zero : α) (b : DelayBuf α) : Op α → DelayBuf α
  | .put frame => b.put frame
  | .get frame => (b.get zero frame).1

end DelayBuf

namespace DropQueue

def put (cap : ℕ) (q data : List α) : List α := q.drop (q.length + data.length - cap) ++ data

/-- `n` of the oldest taken, or all there are and then zeros. -/
def get (zero : α) (n : ℕ) (q : List α) : List α × List α :=
  if q.length < n then ([], q ++ List.replicate (n - q.length) zero) else (q.drop n, q.take n)

end DropQueue

namespace DelayBuf

variable {b : DelayBuf α} {zero : α}

structure Good (b : DelayBuf α) : Prop where
  valid : b.circBuf.Valid
  capacity_eq : b.circBuf.capacity = b.maxCnt
  frame_pos : 0 < b.samplesPerFrame
  frame_le : b.samplesPerFrame ≤ b.maxCnt
  maxCnt_lt : b.maxCnt < 2 ^ 31

lemma write_circ {c : CircBuf α} (h : c.Valid) {data : List α} (hdata : data.length < 2 ^ 31)
    (hroom : data.length ≤ c.capacity - c.len) :
    (c.write data).1.contents = c.contents ++ data ∧ (c.write data).1.Valid ∧
      (c.write data).1.capacity = c.capacity := by
  obtain ⟨-, hcontents, hvalid⟩ := CircBuf.write_contents h hdata hroom
  exact ⟨hcontents, hvalid, (step_refines h (show (Op.write data).CountsFit from hdata) trivial).capacity⟩

lemma Good.put (h : b.Good) (frame : ℕ → α) : (b.put frame).circBuf.contents =
      DropQueue.put b.maxCnt b.circBuf.contents (slice frame 0 b.samplesPerFrame) ∧ (b.put frame).Good := by
  obtain ⟨hvalid, hcap, hpos, hframe, hmax⟩ := h
  have hlen := hvalid.len_le
  have hneed : (b.circBuf.len + b.samplesPerFrame) % 2 ^ 32 = b.circBuf.len + b.samplesPerFrame :=
    Nat.mod_eq_of_lt (by omega)
  have hdata : (slice frame 0 b.samplesPerFrame).length < 2 ^ 31 := by
    rw [slice_length]
    omega
  -- what is dropped makes room for the frame
  have hdrop : ∃ c : CircBuf α, (if b.circBuf.len + b.samplesPerFrame > b.maxCnt then
        b.circBuf.advReadPtr (b.circBuf.len + b.samplesPerFrame - b.maxCnt) else b.circBuf) = c ∧ c.Valid ∧
      c.capacity = b.circBuf.capacity ∧
      c.contents = b.circBuf.contents.drop (b.circBuf.len + b.samplesPerFrame - b.maxCnt) := by
    refine ⟨_, rfl, ?_⟩
    split_ifs with hover
    · obtain ⟨hcontents, hvalid'⟩ :=
        CircBuf.advReadPtr_contents hvalid (b.circBuf.len + b.samplesPerFrame - b.maxCnt)
      refine ⟨hvalid', ?_, hcontents⟩
      rw [CircBuf.advReadPtr]
      split_ifs <;> rfl
    · refine ⟨hvalid, rfl, ?_⟩
      rw [Nat.sub_eq_zero_of_le (by omega), List.drop_zero]
  obtain ⟨c, hc, hcvalid, hccap, hcontents⟩ := hdrop
  have hclen : c.len = b.circBuf.len - (b.circBuf.len + b.samplesPerFrame - b.maxCnt) := by
    rw [← CircBuf.contents_length, hcontents, List.length_drop, CircBuf.contents_length]
  obtain ⟨hwritten, hwvalid, hwcap⟩ := write_circ hcvalid hdata (by rw [slice_length]; omega)
  have hput : b.put frame = { b with circBuf := (c.write (slice frame 0 b.samplesPerFrame)).1 } := by
    simp only [DelayBuf.put, hneed, hc]
  rw [hput]
  refine ⟨?_, hwvalid, ?_, hpos, hframe, hmax⟩
  · simp only [hwritten, hcontents, DropQueue.put, slice_length, CircBuf.contents_length]
  · simp only
    omega

lemma readInto_eq {c : CircBuf α} (h : c.Valid) {count : ℕ} (hcount : count < 2 ^ 31) (hle : count ≤ c.len)
    (frame : ℕ → α) : readInto c frame count = c.contents.take count := by
  rw [readInto, CircBuf.read_contents h hcount hle, Option.getD_some]

lemma Good.get (h : b.Good) (frame : ℕ → α) : ((b.get zero frame).1.circBuf.contents, (b.get zero frame).2) =
      DropQueue.get zero b.samplesPerFrame b.circBuf.contents ∧ (b.get zero frame).1.Good := by
  obtain ⟨hvalid, hcap, hpos, hframe, hmax⟩ := h
  have hlen := hvalid.len_le
  by_cases hshort : b.circBuf.len < b.samplesPerFrame
  · have hall : b.circBuf.contents.take b.circBuf.len = b.circBuf.contents :=
      List.take_of_length_le CircBuf.contents_length.le
    have hread : (b.circBuf.read b.circBuf.len).1 = b.circBuf.advReadPtr b.circBuf.len := by
      rw [CircBuf.read, if_neg (lt_irrefl _)]
    have hadv : b.circBuf.advReadPtr b.circBuf.len = b.circBuf.reset := by
      rw [CircBuf.advReadPtr, if_pos le_rfl]
    simp only [DelayBuf.get, if_pos hshort, DropQueue.get, CircBuf.contents_length,
      readInto_eq hvalid (show b.circBuf.len < 2 ^ 31 by omega) le_rfl, hall, samples_eq (show
        b.samplesPerFrame - b.circBuf.len < 2 ^ 31 by omega), hread, hadv]
    refine ⟨rfl, ⟨Nat.zero_lt_of_lt hvalid.start_lt, Nat.zero_le _, hvalid.capacity_lt⟩, hcap, hpos, hframe, hmax⟩
  · have hread : (b.circBuf.read b.samplesPerFrame).1 = b.circBuf.advReadPtr b.samplesPerFrame := by
      rw [CircBuf.read, if_neg (by omega)]
    obtain ⟨hcontents, hvalid'⟩ := CircBuf.advReadPtr_contents hvalid b.samplesPerFrame
    simp only [DelayBuf.get, if_neg hshort, DropQueue.get, CircBuf.contents_length,
      readInto_eq hvalid (show b.samplesPerFrame < 2 ^ 31 by omega) (Nat.not_lt.mp hshort), hread, hcontents]
    refine ⟨trivial, hvalid', ?_, hpos, hframe, hmax⟩
    rw [← hcap, CircBuf.advReadPtr]
    split_ifs <;> rfl

def Serves (zero : α) (b : DelayBuf α) : Op α → Prop
  | .put frame => (b.put frame).circBuf.contents =
      DropQueue.put b.maxCnt b.circBuf.contents (slice frame 0 b.samplesPerFrame)
  | .get frame => ((b.get zero frame).1.circBuf.contents, (b.get zero frame).2) =
      DropQueue.get zero b.samplesPerFrame b.circBuf.contents

def putsOf (spf : ℕ) : List (Op α) → List α
  | [] => []
  | .put frame :: ops => slice frame 0 spf ++ putsOf spf ops
  | .get _ :: ops => putsOf spf ops

def delivered (zero : α) : DelayBuf α → List (Op α) → List α
  | _, [] => []
  | b, .put frame :: ops => delivered zero (b.put frame) ops
  | b, .get frame :: ops =>
    (b.get zero frame).2.take b.circBuf.len ++ delivered zero (b.get zero frame).1 ops

lemma Good.serves (h : b.Good) (op : Op α) : Serves zero b op ∧ (b.next zero op).Good := by
  cases op with
  | put frame => exact h.put frame
  | get frame => exact h.get frame

lemma next_samplesPerFrame (b : DelayBuf α) (op : Op α) : (b.next zero op).samplesPerFrame = b.samplesPerFrame := by
  cases op with
  | put frame => rfl
  | get frame =>
    simp only [next, DelayBuf.get]
    split_ifs <;> rfl

lemma Good.delivered_sublist (h : b.Good) (ops : List (Op α)) :
    (delivered zero b ops ++ (run (next zero) b ops).circBuf.contents).Sublist
      (b.circBuf.contents ++ putsOf b.samplesPerFrame ops) := by
  induction ops generalizing b with
  | nil =>
    rw [putsOf, List.append_nil]
    exact .refl _
  | cons op ops ih =>
    obtain ⟨hserves, hgood⟩ : Serves zero b op ∧ (b.next zero op).Good := h.serves op
    have hih := ih hgood
    rw [next_samplesPerFrame] at hih
    cases op with
    | put frame =>
      have hcontents : (b.next zero (.put frame)).circBuf.contents = _ := hserves
      rw [hcontents, DropQueue.put, List.append_assoc] at hih
      exact hih.trans ((List.drop_sublist _ _).append_right _)
    | get frame =>
      rw [Serves, DropQueue.get] at hserves
      have hlen : b.circBuf.contents.length = b.circBuf.len := CircBuf.contents_length
      rw [delivered, List.append_assoc, putsOf]
      split_ifs at hserves with hshort
      · obtain ⟨hcontents, hout⟩ := Prod.ext_iff.mp hserves
        simp only at hcontents hout
        change (b.next zero (.get frame)).circBuf.contents = [] at hcontents
        rw [hcontents, List.nil_append] at hih
        rw [hout, List.take_left' hlen]
        exact hih.append_left _
      · obtain ⟨hcontents, hout⟩ := Prod.ext_iff.mp hserves
        simp only at hcontents hout
        change (b.next zero (.get frame)).circBuf.contents = _ at hcontents
        rw [hcontents] at hih
        rw [hout, List.take_take, Nat.min_eq_right (by omega)]
        have hsplit := List.take_append_drop b.samplesPerFrame b.circBuf.contents
        nth_rewrite 2 [← hsplit]
        rw [List.append_assoc]
        exact hih.append_left _

def Works (zero : α) (rest : ℕ → α) (clockRate samplesPerFrame channelCount maxDelay : ℕ) : Prop :=
  ∃ b : DelayBuf α, create zero rest clockRate samplesPerFrame channelCount maxDelay = .ok (some b) ∧
    b.samplesPerFrame = samplesPerFrame ∧ samplesPerFrame ≤ b.maxCnt ∧ b.circBuf.capacity = b.maxCnt ∧
    ∀ ops, Guarded (next zero) (Serves zero) b ops ∧
      (delivered zero b ops ++ (run (next zero) b ops).circBuf.contents).Sublist
        (putsOf samplesPerFrame ops)

/-- A delay buffer works exactly where a frame takes a millisecond at least; otherwise its creation divides
by zero. -/
theorem delay_buf_works_iff (zero : α) (rest : ℕ → α) {clockRate samplesPerFrame channelCount maxDelay : ℕ}
    (hclock : 0 < clockRate) (hframe : 0 < samplesPerFrame) (hchannel : 0 < channelCount)
    (hms : samplesPerFrame * 1000 < 2 ^ 31)
    (hdelay : samplesPerFrame * usedDelay (samplesPerFrame * 1000 / clockRate / channelCount) maxDelay < 2 ^ 31) :
    Works zero rest clockRate samplesPerFrame channelCount maxDelay ↔
      clockRate * channelCount ≤ samplesPerFrame * 1000 := by
  have hdiv : samplesPerFrame * 1000 / clockRate / channelCount = samplesPerFrame * 1000 / (clockRate * channelCount) :=
    Nat.div_div_eq_div_mul _ _ _
  have hprod : 0 < clockRate * channelCount := Nat.mul_pos hclock hchannel
  have hmod : samplesPerFrame * 1000 % 2 ^ 32 = samplesPerFrame * 1000 := Nat.mod_eq_of_lt (by omega)
  have hmod' : ∀ ptime, ptime = samplesPerFrame * 1000 / clockRate / channelCount →
      samplesPerFrame * usedDelay ptime maxDelay % 2 ^ 32 = samplesPerFrame * usedDelay ptime maxDelay := by
    rintro _ rfl
    exact Nat.mod_eq_of_lt (by omega)
  have hcreate : create zero rest clockRate samplesPerFrame channelCount maxDelay =
      (udiv (samplesPerFrame * usedDelay (samplesPerFrame * 1000 / clockRate / channelCount) maxDelay)
        (samplesPerFrame * 1000 / clockRate / channelCount) >>= fun maxCnt =>
          .ok (some ⟨samplesPerFrame, samplesPerFrame * 1000 / clockRate / channelCount, maxCnt,
            .create zero rest maxCnt⟩)) := by
    rw [create, if_neg (by omega), hmod, udiv, if_neg hclock.ne']
    simp only [BoundedRead.ok_bind]
    rw [udiv, if_neg hchannel.ne']
    simp only [BoundedRead.ok_bind, hmod' _ rfl]
  constructor
  · rintro ⟨b, hb, -⟩
    by_contra hc
    have hzero : samplesPerFrame * 1000 / clockRate / channelCount = 0 := by
      rw [hdiv]
      exact Nat.div_eq_of_lt (by omega)
    rw [hcreate, hzero, udiv, if_pos rfl] at hb
    cases hb
  · intro hle
    have hptime : 0 < samplesPerFrame * 1000 / clockRate / channelCount := by
      rw [hdiv]
      exact Nat.div_pos hle hprod
    generalize samplesPerFrame * 1000 / clockRate / channelCount = ptime at *
    have hused : ptime ≤ usedDelay ptime maxDelay := by
      unfold usedDelay
      split_ifs <;> omega
    have hroom : samplesPerFrame ≤ samplesPerFrame * usedDelay ptime maxDelay / ptime :=
      (Nat.le_div_iff_mul_le hptime).mpr (Nat.mul_le_mul_left _ hused)
    have hmax : samplesPerFrame * usedDelay ptime maxDelay / ptime < 2 ^ 31 :=
      (Nat.div_le_self _ _).trans_lt hdelay
    rw [udiv, if_neg hptime.ne'] at hcreate
    generalize samplesPerFrame * usedDelay ptime maxDelay / ptime = maxCnt at *
    have hgood : Good ⟨samplesPerFrame, ptime, maxCnt, .create zero rest maxCnt⟩ :=
      ⟨⟨show 0 < maxCnt by omega, Nat.zero_le _, show maxCnt < 2 ^ 32 by omega⟩, rfl, hframe, hroom, hmax⟩
    refine ⟨_, hcreate, rfl, hroom, rfl, fun ops => ⟨?_, ?_⟩⟩
    · exact @guarded_of_invariant _ _ (next zero) (Serves zero) Good (fun b op h => h.serves op) _ hgood ops
    · have h := @Good.delivered_sublist α _ zero hgood ops
      have hnil : (CircBuf.create zero rest maxCnt).contents = [] := rfl
      simp only [hnil, List.nil_append] at h
      exact h

/-- Twenty milliseconds of mono at 8 kHz. -/
theorem delay_buf_works_narrow : Works 0 (fun _ => 0) 8000 160 1 400 :=
  (delay_buf_works_iff 0 (fun _ => 0) (by decide) (by decide) (by decide) (by decide) (by decide)).mpr (by decide)

/-- Frames of twenty samples at 48 kHz: less than a millisecond, and a division by zero. -/
theorem create_div_by_zero :
    ¬ ∀ clockRate samplesPerFrame channelCount maxDelay : ℕ, 0 < clockRate → 0 < samplesPerFrame →
      0 < channelCount → samplesPerFrame * 1000 < 2 ^ 31 →
        samplesPerFrame * usedDelay (samplesPerFrame * 1000 / clockRate / channelCount) maxDelay < 2 ^ 31 →
          Works 0 (fun _ => 0) clockRate samplesPerFrame channelCount maxDelay := by
  intro h
  obtain ⟨b, hb, -⟩ := h 48000 20 1 100 (by decide) (by decide) (by decide) (by decide) (by decide)
  have hfault : create (α := ℕ) 0 (fun _ => 0) 48000 20 1 100 = .error .divByZero := rfl
  rw [hfault] at hb
  cases hb

end DelayBuf

end PjProject.SampleBuf
