import PjProject.RtpSeq

/-!
# The RTCP session

Reception statistics of `rtcp.c`: what each received RTP packet adds to the counts, and the
report block that is built from them.
-/
namespace PjProject.Rtcp

open Rtp

def ignoreFirstPackets : UInt32 := 25

structure StreamStat where
  updateCnt : UInt32 := 0
  pkt : UInt32 := 0
  bytes : UInt32 := 0
  discard : UInt32 := 0
  loss : UInt32 := 0
  reorder : UInt32 := 0
  dup : UInt32 := 0
deriving DecidableEq

/-- `pjmedia_rtcp_session`; `rxLsrTime` and `tsFreq` are in units of the system clock. -/
structure Session where
  seqCtrl : SeqSession
  rtpLastTs : UInt32
  received : UInt32
  expPrior : UInt32
  rxPrior : UInt32
  transit : UInt32
  jitter : UInt32
  rxLsr : UInt32
  rxLsrTs : UInt32
  rxLsrNtp : UInt32 × UInt32
  rxLsrTime : UInt64
  tsFreq : UInt64
  peerSsrc : UInt32
  senderPcount : UInt32
  senderBcount : UInt32
  rtpTxLastTs : UInt32
  rx : StreamStat
  tx : StreamStat
deriving DecidableEq

/-- `pjmedia_rtcp_init2` -/
def init2 (tsFreq : UInt64) : Session where
  seqCtrl := ⟨0, 0, 0, 0, 0⟩
  rtpLastTs := 0xFFFFFFFF
  received := 0
  expPrior := 0
  rxPrior := 0
  transit := 0
  jitter := 0
  rxLsr := 0
  rxLsrTs := 0
  rxLsrNtp := (0, 0)
  rxLsrTime := 0
  tsFreq := tsFreq
  peerSsrc := 0
  senderPcount := 0
  senderBcount := 0
  rtpTxLastTs := 0
  rx := {}
  tx := {}

namespace Session

def initSeq (sess : Session) : Session :=
  { sess with received := 0, expPrior := 0, rxPrior := 0, transit := 0, jitter := 0 }

/-- The extended highest sequence number of a report, `last_seq`. -/
def lastSeq (sess : Session) : UInt32 :=
  sess.seqCtrl.maxSeq.toUInt32 + (sess.seqCtrl.cycles &&& 0xFFFF0000)

def expected (sess : Session) : UInt32 := sess.lastSeq - sess.seqCtrl.baseSeq

def updateLoss (sess : Session) : Session :=
  { sess with rx := { sess.rx with
      loss := if sess.expected > sess.received then sess.expected - sess.received else 0 } }

/-- The jitter, of a packet that follows the one before it; `arrival` is the time in samples. -/
def updateJitter (sess : Session) (rtpTs arrival : UInt32) : Session :=
  let transit := arrival - rtpTs
  if sess.transit = 0 ∨ sess.received < ignoreFirstPackets then { sess with transit := transit }
  else
    -- `transit` is signed
    let d := transit - sess.transit
    let d := if d ≥ 0x80000000 then -d else d
    { sess with jitter := sess.jitter + (d - ((sess.jitter + 8) >>> 4)), transit := transit }

def rxGood (sess : Session) (st : Status) (rtpTs arrival : UInt32) : Session :=
  let sess := if st.probation then sess else { sess with received := sess.received + 1 }
  let sess := if st.probation || st.outorder then sess else sess.updateLoss
  let sess := if st.diff = 1 ∧ rtpTs ≠ sess.rtpLastTs then sess.updateJitter rtpTs arrival else sess
  { sess with rtpLastTs := rtpTs }

def rxCount (sess : Session) (st : Status) : Session :=
  { sess with rx := { sess.rx with
      dup := if st.dup then sess.rx.dup + 1 else sess.rx.dup
      reorder := if st.outorder && !st.probation then sess.rx.reorder + 1 else sess.rx.reorder
      discard := if st.bad then sess.rx.discard + 1 else sess.rx.discard } }

def rxSeqCtrl (sess : Session) (seq : UInt16) : SeqSession :=
  if sess.rx.pkt = 0 then sess.seqCtrl.seqInit seq else sess.seqCtrl

def rxRtp2 (sess : Session) (seq rtpTs payload arrival : UInt32) : Session :=
  let ctrl := sess.rxSeqCtrl seq.toUInt16
  let sess := { sess with rx := { sess.rx with
    pkt := sess.rx.pkt + 1, bytes := sess.rx.bytes + payload } }
  match ctrl.seqUpdate seq.toUInt16 with
  | (ctrl, st) =>
    let sess := { sess with seqCtrl := ctrl }
    let sess := if st.restart then sess.initSeq else sess
    let sess := sess.rxCount st
    if st.bad then sess else sess.rxGood st rtpTs arrival

/-- `pjmedia_rtcp_tx_rtp` -/
def txRtp (sess : Session) (payload : UInt32) : Session :=
  { sess with tx := { sess.tx with pkt := sess.tx.pkt + 1, bytes := sess.tx.bytes + payload } }

end Session

structure SenderInfo where
  ntpSec : UInt32
  ntpFrac : UInt32
  rtpTs : UInt32
  senderPcount : UInt32
  senderBcount : UInt32
deriving DecidableEq

/-- `pjmedia_rtcp_rr`, in a report with or without a sender part. -/
structure Report where
  sender : Option SenderInfo
  ssrc : UInt32
  fractLost : UInt8
  totalLost : UInt32
  lastSeq : UInt32
  jitter : UInt32
  lsr : UInt32
  dlsr : UInt32
deriving DecidableEq

structure Clock where
  tsNow : UInt64
  ntpHi : UInt32
  ntpLo : UInt32
deriving DecidableEq

namespace Session

def expectedInterval (sess : Session) : UInt32 := sess.expected - sess.expPrior

def receivedInterval (sess : Session) : UInt32 := sess.received - sess.rxPrior

def lostInterval (sess : Session) : UInt32 :=
  if sess.expectedInterval ≥ sess.receivedInterval then sess.expectedInterval - sess.receivedInterval
  else 0

/-- `fract_lost`, a field of eight bits. -/
def fractLost (sess : Session) : UInt8 :=
  if sess.expectedInterval = 0 ∨ sess.lostInterval = 0 then 0
  else ((sess.lostInterval <<< 8) / sess.expectedInterval).toUInt8

def buildRtcp (sess : Session) (clock : Clock) : Session × Report :=
  let sender : Option SenderInfo := if sess.tx.pkt ≠ sess.senderPcount then
    some ⟨clock.ntpHi, clock.ntpLo, sess.rtpTxLastTs, sess.tx.pkt, sess.tx.bytes⟩ else none
  let noLsr := sess.rxLsrTime = 0 ∨ sess.rxLsr = 0
  ({ sess with
      senderPcount := if sender.isSome then sess.tx.pkt else sess.senderPcount
      senderBcount := if sender.isSome then sess.tx.bytes else sess.senderBcount
      expPrior := sess.expected
      rxPrior := sess.received
      rx := { sess.rx with updateCnt := sess.rx.updateCnt + 1 } },
    { sender := sender
      ssrc := sess.peerSsrc
      fractLost := sess.fractLost
      totalLost := sess.rx.loss &&& 0xFFFFFF
      lastSeq := sess.lastSeq
      jitter := sess.jitter >>> 4
      lsr := if noLsr then 0 else sess.rxLsr
      dlsr := if noLsr then 0 else
        ((clock.tsNow <<< 16) / sess.tsFreq - (sess.rxLsrTime <<< 16) / sess.tsFreq).toUInt32 })

end Session

inductive Event
  | rxRtp (seq rtpTs payload arrival : UInt32)
  | txRtp (payload : UInt32)
  | report (clock : Clock)
deriving DecidableEq

def step (sess : Session) : Event → Session
  | .rxRtp seq rtpTs payload arrival => sess.rxRtp2 seq rtpTs payload arrival
  | .txRtp payload => sess.txRtp payload
  | .report clock => (sess.buildRtcp clock).1

end PjProject.Rtcp
