import PjProject.RingWindow

/-!
# The jitter buffer

`jb_framelist_t` is a circular array of frames: the window of `size` slots from `head` on
holds the frames with indices from `origin` on, some of them missing and some discarded.
`pjmedia_jbuf` puts frames in by index, takes them out in order, and discards some to keep
the delay short. The C `int`s of the frame indices wrap (`int32`), the `unsigned`s too
(`u32`).
-/
namespace PjProject.JitterBuffer

open RingWindow

def int32 (x : ℤ) : ℤ := Int.bmod x (2 ^ 32)

def u32 (x : ℤ) : ℕ := (x % 2 ^ 32).toNat

/-- `pjmedia_jb_frame_type`, with the internal `PJMEDIA_JB_DISCARDED_FRAME`. -/
inductive FrameType
  | missing | normal | zeroPrefetch | zeroEmpty | discarded
  deriving DecidableEq

/-- One entry of the arrays of `jb_framelist_t`. -/
structure Slot where
  frameType : FrameType
  contentLen : ℕ
  bitInfo : ℕ
  ts : ℕ
  content : List UInt8
  deriving DecidableEq

def Slot.isDiscarded (s : Slot) : Bool := s.frameType = .discarded

def Slot.clear (s : Slot) : Slot := { s with frameType := .missing, contentLen := 0 }

/-- `jb_framelist_t` -/
structure Framelist where
  frameSize : ℕ
  maxCount : ℕ
  slots : ℕ → Slot
  head : ℕ
  size : ℕ
  discardedNum : ℕ
  origin : ℤ

def Framelist.at (fl : Framelist) (j : ℕ) : Slot := ringAt fl.head fl.maxCount fl.slots j

def invalidOffset : ℤ := -9999

def framelistReset (fl : Framelist) : Framelist :=
  { fl with
    head := 0
    origin := invalidOffset
    size := 0
    discardedNum := 0
    slots := mapRange Slot.clear 0 fl.maxCount fl.slots }

def framelistEffSize (fl : Framelist) : ℕ := u32 ((fl.size : ℤ) - fl.discardedNum)

/-- `jb_framelist_remove_head`: the list and the number of frames removed. -/
def removeHead (fl : Framelist) (count : ℕ) : Framelist × ℕ :=
  let count := if fl.size < count then fl.size else count
  if count = 0 then (fl, 0)
  else
    -- in two steps if the frames pass the end of the array
    let step1 := if fl.maxCount < fl.head + count then fl.maxCount - fl.head else count
    let step2 := count - step1
    let num := u32 ((fl.discardedNum : ℤ) - countRange Slot.isDiscarded fl.head step1 fl.slots)
    let slots := mapRange Slot.clear fl.head step1 fl.slots
    let num := u32 ((num : ℤ) - countRange Slot.isDiscarded 0 step2 slots)
    let slots := mapRange Slot.clear 0 step2 slots
    ({ fl with
      slots := slots
      discardedNum := num
      origin := int32 (fl.origin + count)
      head := (fl.head + count) % fl.maxCount
      size := fl.size - count }, count)

/-- The loop of `jb_framelist_get` over discarded frames at the head. -/
def skipDiscarded : ℕ → Framelist → Framelist
  | 0, fl => fl
  | k + 1, fl =>
    if (fl.slots fl.head).frameType = .discarded then skipDiscarded k (removeHead fl 1).1 else fl

structure FrameInfo where
  frameType : FrameType
  content : List UInt8
  bitInfo : ℕ
  ts : ℕ
  seq : ℤ
  deriving DecidableEq

/-- `jb_framelist_get`. Each round of the loop removes a frame, and behind the last one there
is no discarded frame. -/
def framelistGet (fl : Framelist) : Framelist × Option FrameInfo :=
  if fl.size = 0 then (fl, none)
  else
    let prevDiscarded : Bool := (fl.slots fl.head).frameType = .discarded
    let fl := skipDiscarded (fl.size + 1) fl
    if fl.size = 0 then (fl, none)
    else
      let s := fl.slots fl.head
      let info : FrameInfo :=
        if prevDiscarded then ⟨.missing, [], 0, s.ts, fl.origin⟩
        else ⟨s.frameType, s.content.take s.contentLen, s.bitInfo, s.ts, fl.origin⟩
      ({ fl with
        slots := Function.update fl.slots fl.head ⟨.missing, 0, 0, 0, s.content⟩
        origin := int32 (fl.origin + 1)
        head := (fl.head + 1) % fl.maxCount
        size := fl.size - 1 }, some info)

def peekPos (fl : Framelist) : ℕ → ℕ → ℕ → ℕ
  | 0, pos, _ => pos
  | k + 1, pos, idx =>
    if (fl.slots pos).frameType ≠ .discarded then
      if idx = 0 then pos else peekPos fl k ((pos + 1) % fl.maxCount) (idx - 1)
    else peekPos fl k ((pos + 1) % fl.maxCount) idx

/-- `jb_framelist_peek`. The position is found within the window. -/
def framelistPeek (fl : Framelist) (offset : ℕ) : Option FrameInfo :=
  if framelistEffSize fl ≤ offset then none
  else
    let s := fl.slots (peekPos fl fl.size fl.head offset)
    some ⟨s.frameType, s.content.take s.contentLen, s.bitInfo, s.ts, int32 (fl.origin + offset)⟩

inductive PutStatus
  | success | einval | etoosmall | etoomany | eexists
  deriving DecidableEq

def maxMisorder : ℤ := 100

def maxDropout : ℤ := 3000

def maxFrameIndex : ℕ := 0xFFFFFFFF / 9000

/-- Bring `origin` in line with a frame that is before it by more than a reordering, or with
an empty buffer: the list and the frame's distance. -/
def relocate (fl : Framelist) (index : ℤ) : Framelist × ℤ :=
  let distance := int32 (index - fl.origin)
  let (fl, distance) :=
    if distance < 0 then
      if maxFrameIndex ≤ u32 (fl.origin + fl.size) then
        -- sequence restart
        ({ fl with origin := int32 (index - fl.size) }, (fl.size : ℤ))
      else ({ framelistReset fl with origin := index }, 0)
    else (fl, distance)
  if fl.size = 0 then ({ fl with origin := index }, 0) else (fl, distance)

def putSlot (fl : Framelist) (index : ℤ) (distance : ℕ) (frame : List UInt8)
    (frameSize bitInfo ts : ℕ) (frameType : FrameType) : Framelist × PutStatus :=
  let pos := (fl.head + distance) % fl.maxCount
  if (fl.slots pos).frameType ≠ .missing then (fl, .eexists)
  else
    let content := if frameType = .normal then frame.take frameSize else (fl.slots pos).content
    ({ fl with
      slots := Function.update fl.slots pos ⟨frameType, frameSize, bitInfo, ts, content⟩
      size := if int32 (fl.origin + fl.size) ≤ index then distance + 1 else fl.size }, .success)

/-- `jb_framelist_put_at` -/
def putAt (fl : Framelist) (index : ℤ) (frame : List UInt8) (frameSize bitInfo ts : ℕ)
    (frameType : FrameType) : Framelist × PutStatus :=
  if fl.frameSize < frameSize then (fl, .einval)
  else if int32 (index - fl.origin) < 0 ∧ int32 (fl.origin - index) < maxMisorder then
    (fl, .etoosmall)
  else
    let r := relocate fl index
    if int32 r.1.maxCount ≤ r.2 then
      if maxDropout < r.2 then
        putSlot { framelistReset r.1 with origin := index } index 0 frame frameSize bitInfo ts frameType
      else (r.1, .etoomany)
    else putSlot r.1 index r.2.toNat frame frameSize bitInfo ts frameType

def framelistDiscard (fl : Framelist) (index : ℤ) : Framelist :=
  if fl.origin ≤ index ∧ index < int32 (fl.origin + fl.size) then
    let pos := (fl.head + (index - fl.origin).toNat) % fl.maxCount
    { fl with
      slots := Function.update fl.slots pos { fl.slots pos with frameType := .discarded }
      discardedNum := fl.discardedNum + 1 }
  else fl

inductive Op
  | init | put | get
  deriving DecidableEq

inductive DiscardAlgo
  | none | static | progressive
  deriving DecidableEq

/-- `pjmedia_jbuf`, without its name and its delay and burst statistics. `discardDist` is kept
as the `int` it is always used as. -/
structure Jbuf where
  frameSize : ℕ
  framePtime : ℕ
  framePtimeDenum : ℕ
  maxCount : ℕ
  initPrefetch : ℤ
  minPrefetch : ℤ
  maxPrefetch : ℤ
  maxBurst : ℤ
  minShrinkGap : ℤ
  discardAlgo : DiscardAlgo
  minDelay : ℕ
  framelist : Framelist
  level : ℤ
  maxHistLevel : ℤ
  stableHist : ℤ
  lastOp : Op
  effLevel : ℤ
  prefetch : ℤ
  prefetching : Bool
  processing : Bool
  initCycleCnt : ℕ
  discardRef : ℤ
  discardDist : ℤ
  lost : ℕ
  discard : ℕ
  empty : ℕ

def discMinGap : ℕ := 200

def maxBurstMsec : ℕ := 1000

def initCycle : ℕ := 10

/-- `pjmedia_jbuf_reset` -/
def reset (jb : Jbuf) : Jbuf :=
  { jb with
    level := 0
    lastOp := .init
    stableHist := 0
    processing := false
    initCycleCnt := 0
    maxHistLevel := 0
    prefetching := jb.prefetch ≠ 0
    discardDist := 0
    framelist := framelistReset jb.framelist }

/-- `pjmedia_jbuf_create`. What the arrays hold before the reset is arbitrary. -/
def create (memory : ℕ → Slot) (frameSize ptime maxCount : ℕ) : Jbuf :=
  reset
    { frameSize := frameSize
      framePtime := ptime
      framePtimeDenum := 1
      maxCount := maxCount
      initPrefetch := 0
      minPrefetch := 0
      maxPrefetch := u32 (maxCount * 4) / 5
      maxBurst := max (maxBurstMsec / ptime) (u32 (maxCount * 3) / 4)
      minShrinkGap := discMinGap / ptime
      discardAlgo := .progressive
      minDelay := 0
      framelist := framelistReset ⟨frameSize, maxCount, memory, 0, 0, 0, 0⟩
      level := 0
      maxHistLevel := 0
      stableHist := 0
      lastOp := .init
      effLevel := 0
      prefetch := min 15 (u32 (maxCount * 4) / 5)
      prefetching := false
      processing := false
      initCycleCnt := 0
      discardRef := 0
      discardDist := 0
      lost := 0
      discard := 0
      empty := 0 }

def setPtime2 (jb : Jbuf) (ptime ptimeDenum : ℕ) : Jbuf :=
  { jb with
    framePtime := ptime
    framePtimeDenum := ptimeDenum
    minShrinkGap := int32 (u32 (discMinGap * ptimeDenum) / ptime : ℕ)
    maxBurst := int32 (max (u32 (maxBurstMsec * ptimeDenum) / ptime) (u32 (jb.maxCount * 3) / 4) : ℕ) }

def setDiscard (jb : Jbuf) (algo : DiscardAlgo) : Jbuf := { jb with discardAlgo := algo }

def setFixed (jb : Jbuf) (prefetch : ℕ) : Jbuf :=
  if jb.maxCount < prefetch then jb
  else
    setDiscard { jb with
      minPrefetch := prefetch
      maxPrefetch := prefetch
      prefetch := prefetch
      initPrefetch := prefetch } .none

def setAdaptive (jb : Jbuf) (prefetch minPrefetch maxPrefetch : ℕ) : Jbuf :=
  if minPrefetch ≤ maxPrefetch ∧ prefetch ≤ maxPrefetch ∧ maxPrefetch ≤ jb.maxCount then
    { jb with
      prefetch := prefetch
      initPrefetch := prefetch
      minPrefetch := minPrefetch
      maxPrefetch := maxPrefetch }
  else jb

def setMinDelay (jb : Jbuf) (minDelay : ℕ) : Jbuf :=
  let minDelay := u32 (minDelay * jb.framePtimeDenum)
  let frames := minDelay / jb.framePtime + if minDelay % jb.framePtime ≠ 0 then 1 else 0
  { jb with minDelay := if jb.maxCount / 2 < frames then jb.maxCount / 2 else frames }

def calculateJitter (jb : Jbuf) : Jbuf :=
  let jb := { jb with maxHistLevel := max jb.maxHistLevel jb.level }
  if jb.level < jb.effLevel then
    let jb := { jb with stableHist := jb.stableHist + 1 }
    if 20 < jb.stableHist then
      let diff := max 1 ((jb.effLevel - jb.maxHistLevel).tdiv 3)
      let jb := { jb with effLevel := jb.effLevel - diff }
      let prefetch :=
        if jb.initPrefetch ≠ 0 then min (max jb.effLevel jb.minPrefetch) jb.maxPrefetch
        else jb.prefetch
      { jb with prefetch := prefetch, maxHistLevel := 0, stableHist := 0 }
    else jb
  else if jb.effLevel < jb.level then
    let jb := { jb with effLevel := min jb.maxHistLevel (u32 (jb.maxCount * 4) / 5 : ℕ) }
    let prefetch :=
      if jb.initPrefetch ≠ 0 then max (min jb.effLevel jb.maxPrefetch) jb.minPrefetch
      else jb.prefetch
    { jb with prefetch := prefetch, stableHist := 0 }
  else { jb with stableHist := 0 }

def discardStatic (jb : Jbuf) : Jbuf :=
  let burstLevel := max jb.effLevel jb.level
  let curSize := framelistEffSize jb.framelist
  if curSize ≤ jb.minDelay then jb
  else if (curSize : ℤ) - burstLevel * 2 < 1 then jb
  else
    let origin := jb.framelist.origin
    let jb := { jb with discardRef := if origin < jb.discardRef then origin else jb.discardRef }
    if origin - jb.discardRef < jb.minShrinkGap then jb
    else
      let r := removeHead jb.framelist 1
      { jb with framelist := r.1, discardRef := r.1.origin, discard := jb.discard + r.2 }

/-- `PJMEDIA_JBUF_PRO_DISC_T1` and `PJMEDIA_JBUF_PRO_DISC_T2`, and between the two burst
levels in proportion. -/
def discardDuration (burstLevel : ℕ) : ℕ :=
  if burstLevel ≤ 1 then 2000
  else if 100 ≤ burstLevel then 10000
  else 2000 + (10000 - 2000) * (burstLevel - 1) / (100 - 1)

def burstLevel (jb : Jbuf) : ℕ := u32 (max jb.effLevel jb.level)

def latencyTooLong (jb : Jbuf) : Bool :=
  burstLevel jb < framelistEffSize jb.framelist && jb.minDelay < framelistEffSize jb.framelist

/-- The distance, in frames, at which `jbuf_discard_progressive` discards. -/
def progressiveDist (jb : Jbuf) : ℤ :=
  let overflow := framelistEffSize jb.framelist - max (burstLevel jb) jb.minDelay
  let dist := u32 (discardDuration (burstLevel jb) * jb.framePtimeDenum) / overflow / jb.framePtime
  max jb.minShrinkGap (int32 dist)

def lastSeq (jb : Jbuf) : ℤ := int32 (jb.framelist.origin + jb.framelist.size - 1)

def progressiveRef (jb : Jbuf) : ℤ :=
  if jb.discardDist = 0 then lastSeq jb
  else if lastSeq jb < jb.discardRef then lastSeq jb
  else jb.discardRef

def progressiveSeq (jb : Jbuf) : ℤ :=
  max (int32 (progressiveRef jb + progressiveDist jb)) jb.framelist.origin

def discardProgressive (jb : Jbuf) : Jbuf :=
  if jb.lastOp ≠ .put then jb
  else if latencyTooLong jb = false then { jb with discardDist := 0 }
  else
    let ref := progressiveRef jb
    let dist := progressiveDist jb
    if int32 (ref + dist) ≤ lastSeq jb then
      { jb with
        discardDist := dist
        framelist := framelistDiscard jb.framelist (progressiveSeq jb)
        discardRef := progressiveSeq jb }
    else { jb with discardDist := dist, discardRef := ref }

def runDiscard (jb : Jbuf) : Jbuf :=
  match jb.discardAlgo with
  | .none => jb
  | .static => discardStatic jb
  | .progressive => discardProgressive jb

/-- The part of `jbuf_update` before the discard algorithm. -/
def switchOp (jb : Jbuf) (oper : Op) : Jbuf :=
  if jb.lastOp = oper then jb
  else
    let jb := { jb with lastOp := oper }
    let jb :=
      if jb.processing then jb
      else
        let jb := { jb with initCycleCnt := jb.initCycleCnt + 1 }
        if initCycle ≤ jb.initCycleCnt ∧ oper = .get then
          { jb with processing := true, level := min jb.level jb.maxBurst }
        else { jb with level := 0 }
    if jb.processing then
      let jb := if oper = .get ∧ jb.level ≤ jb.maxBurst then calculateJitter jb else jb
      { jb with level := 0 }
    else jb

/-- `jbuf_update`. While the status is not `JB_STATUS_PROCESSING` there is no discarding. -/
def update (jb : Jbuf) (oper : Op) : Jbuf :=
  let jb := switchOp jb oper
  if jb.processing then runDiscard jb else jb

/-- The loop of `pjmedia_jbuf_put_frame3` that makes room for a frame. -/
def makeRoom (jb : Jbuf) (seq : ℤ) (frame : List UInt8) (frameSize bitInfo ts : ℕ) :
    ℕ → Framelist × PutStatus → ℕ → (Framelist × PutStatus) × ℕ
  | 0, r, removed => (r, removed)
  | k + 1, (fl, status), removed =>
    if status = .etoomany then
      let distance := int32 (int32 (seq - fl.origin) - int32 jb.maxCount + 1)
      let h := removeHead fl (u32 distance)
      makeRoom jb seq frame frameSize bitInfo ts k
        (putAt h.1 seq frame frameSize bitInfo ts .normal) (removed + h.2)
    else ((fl, status), removed)

/-- Store a frame. One round of removing makes room, see `putAt_after_removeHead`. -/
def storeFrame (jb : Jbuf) (frame : List UInt8) (bitInfo : ℕ) (seq : ℤ) (ts : ℕ) :
    (Framelist × PutStatus) × ℕ :=
  let minFrameSize := min frame.length jb.frameSize
  makeRoom jb seq frame minFrameSize bitInfo ts 2
    (putAt jb.framelist seq frame minFrameSize bitInfo ts .normal) 0

/-- `pjmedia_jbuf_put_frame3` up to its call of `jbuf_update`, and whether there is one. -/
def putStored (jb : Jbuf) (frame : List UInt8) (bitInfo : ℕ) (seq : ℤ) (ts : ℕ) : Jbuf × Bool :=
  let curSize := framelistEffSize jb.framelist
  let r := storeFrame jb frame bitInfo seq ts
  let jb := { jb with framelist := r.1.1, discard := jb.discard + r.2 }
  if r.1.2 = .success then
    let newSize := framelistEffSize jb.framelist
    ({ jb with
      prefetching := jb.prefetching && (newSize : ℤ) < jb.prefetch
      level := jb.level + if curSize < newSize then (newSize - curSize : ℕ) else 1 }, true)
  else ({ jb with discard := jb.discard + 1 }, false)

/-- `pjmedia_jbuf_put_frame3` -/
def putFrame (jb : Jbuf) (frame : List UInt8) (bitInfo : ℕ) (seq : ℤ) (ts : ℕ) : Jbuf :=
  let r := putStored jb frame bitInfo seq ts
  if r.2 then update r.1 .put else r.1

/-- `pjmedia_jbuf_get_frame3`: the buffer and the frame with its type. -/
def getFrame (jb : Jbuf) : Jbuf × FrameType × Option FrameInfo :=
  let (jb, type, info) :=
    if jb.prefetching then ({ jb with empty := jb.empty + 1 }, FrameType.zeroPrefetch, none)
    else if framelistEffSize jb.framelist < jb.minDelay then (jb, .missing, none)
    else
      match framelistGet jb.framelist with
      | (fl, some info) =>
        if info.frameType = .normal then ({ jb with framelist := fl }, .normal, some info)
        else ({ jb with framelist := fl, lost := jb.lost + 1 }, .missing, some info)
      | (fl, none) =>
        ({ jb with
          framelist := fl
          prefetching := jb.prefetching || jb.prefetch ≠ 0
          empty := jb.empty + 1 }, .zeroEmpty, none)
  (update { jb with level := jb.level + 1 } .get, type, info)

def peekFrame (jb : Jbuf) (offset : ℕ) : FrameType × Option FrameInfo :=
  match framelistPeek jb.framelist offset with
  | none => (.zeroEmpty, none)
  | some info => (if info.frameType = .normal then .normal else .missing, some info)

/-- The loop of `pjmedia_jbuf_remove_frame`, which goes on as long as discarded frames were
among those removed. -/
def removeMore : ℕ → Framelist → ℕ → ℤ → Framelist × ℤ
  | 0, fl, _, count => (fl, count)
  | k + 1, fl, lastNum, count =>
    if fl.discardedNum < lastNum then
      let cnt := lastNum - fl.discardedNum
      let r := removeHead fl cnt
      removeMore k r.1 fl.discardedNum (count - cnt + r.2)
    else (fl, count)

def removeFrame (jb : Jbuf) (frameCnt : ℕ) : Jbuf × ℤ :=
  let r := removeHead jb.framelist frameCnt
  let r' := removeMore (jb.framelist.discardedNum + 1) r.1 jb.framelist.discardedNum r.2
  ({ jb with framelist := r'.1 }, r'.2)

inductive Call
  | put (frame : List UInt8) (bitInfo : ℕ) (seq : ℤ) (ts : ℕ)
  | get
  | peek (offset : ℕ)
  | remove (frameCnt : ℕ)
  | setPtime (ptime ptimeDenum : ℕ)
  | setFixed (prefetch : ℕ)
  | setAdaptive (prefetch minPrefetch maxPrefetch : ℕ)
  | setDiscard (algo : DiscardAlgo)
  | setMinDelay (minDelay : ℕ)
  | reset

def step (jb : Jbuf) : Call → Jbuf
  | .put frame bitInfo seq ts => putFrame jb frame bitInfo seq ts
  | .get => (getFrame jb).1
  | .peek _ => jb
  | .remove frameCnt => (removeFrame jb frameCnt).1
  | .setPtime ptime ptimeDenum => setPtime2 jb ptime ptimeDenum
  | .setFixed prefetch => setFixed jb prefetch
  | .setAdaptive prefetch minPrefetch maxPrefetch => setAdaptive jb prefetch minPrefetch maxPrefetch
  | .setDiscard algo => setDiscard jb algo
  | .setMinDelay minDelay => setMinDelay jb minDelay
  | .reset => reset jb

end PjProject.JitterBuffer
