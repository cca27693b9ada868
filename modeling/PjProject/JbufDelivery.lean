import PjProject.JbufRun

/-!
# What the jitter buffer delivers

The frames that `pjmedia_jbuf_get_frame` returns over a run of calls, beside the frames that
`pjmedia_jbuf_put_frame` has accepted. As long as the indices go on without a far jump or a
restart, the window only moves up: each accepted frame stands in it or was left behind.
-/
namespace PjProject.JitterBuffer

open Transition (run Guarded)

structure Packet where
  frame : List UInt8
  seq : ℤ
  deriving DecidableEq

structure World where
  jb : Jbuf
  accepted : List Packet
  returned : List FrameInfo

def World.start (jb : Jbuf) : World := ⟨jb, [], []⟩

/-- The frame of a `pjmedia_jbuf_get_frame3`, with the type it is returned with. -/
def taken (jb : Jbuf) : Option FrameInfo :=
  (getFrame jb).2.2.map fun info => { info with frameType := (getFrame jb).2.1 }

def World.step (w : World) (call : Call) : World where
  jb := JitterBuffer.step w.jb call
  accepted :=
    match call with
    | .put frame bitInfo seq ts =>
      if (putStored w.jb frame bitInfo seq ts).2 then w.accepted ++ [⟨frame, seq⟩] else w.accepted
    | _ => w.accepted
  returned :=
    match call with
    | .get => w.returned ++ (taken w.jb).toList
    | _ => w.returned

def Continues (w : World) : Call → Prop
  | .put _ _ seq _ => IntIndex seq ∧ (w.accepted = [] ∨ Follows w.jb.framelist seq)
  | .reset => False
  | _ => True

instance (w : World) : ∀ call, Decidable (Continues w call)
  | .put .. => inferInstanceAs (Decidable (_ ∧ (_ ∨ _)))
  | .reset => .isFalse id
  | .get => .isTrue trivial
  | .peek _ => .isTrue trivial
  | .remove _ => .isTrue trivial
  | .setPtime .. => .isTrue trivial
  | .setFixed _ => .isTrue trivial
  | .setAdaptive .. => .isTrue trivial
  | .setDiscard _ => .isTrue trivial
  | .setMinDelay _ => .isTrue trivial

structure Carries (jb jb' : Jbuf) : Prop where
  framelist : Shrinks jb.framelist jb'.framelist
  maxCount : jb'.maxCount = jb.maxCount
  frameSize : jb'.frameSize = jb.frameSize

lemma Carries.trans {a b c : Jbuf} (h : Carries a b) (h' : Carries b c) : Carries a c :=
  ⟨h.framelist.trans h'.framelist, h'.maxCount.trans h.maxCount, h'.frameSize.trans h.frameSize⟩

variable {jb : Jbuf}

lemma Carries.of_eq {jb' : Jbuf} (h : Window jb.framelist) (h1 : jb'.framelist = jb.framelist)
    (h2 : jb'.maxCount = jb.maxCount) (h3 : jb'.frameSize = jb.frameSize) : Carries jb jb' := by
  refine ⟨?_, h2, h3⟩
  rw [h1]
  exact Shrinks.refl h

lemma calculateJitter_frameSize (jb : Jbuf) : (calculateJitter jb).frameSize = jb.frameSize := by
  unfold calculateJitter
  dsimp only
  split_ifs <;> rfl

lemma switchOp_frameSize (jb : Jbuf) (oper : Op) : (switchOp jb oper).frameSize = jb.frameSize := by
  unfold switchOp
  dsimp only
  split_ifs <;> first | rfl | exact calculateJitter_frameSize _

lemma switchOp_carries (h : Window jb.framelist) (oper : Op) : Carries jb (switchOp jb oper) := by
  have hs := switchOp_same jb oper
  exact Carries.of_eq h hs.framelist hs.maxCount (switchOp_frameSize jb oper)

lemma discardStatic_carries (h : Window jb.framelist) : Carries jb (discardStatic jb) := by
  have hrem := removeHead_shrinks h 1
  unfold discardStatic
  dsimp only
  split_ifs <;> first | exact Carries.of_eq h rfl rfl rfl | exact ⟨hrem, rfl, rfl⟩

lemma discardProgressive_carries (h : Window jb.framelist) : Carries jb (discardProgressive jb) := by
  have hdisc := framelistDiscard_shrinks h (progressiveSeq jb)
  unfold discardProgressive
  dsimp only
  split_ifs
  · exact Carries.of_eq h rfl rfl rfl
  · exact Carries.of_eq h rfl rfl rfl
  · exact ⟨hdisc, rfl, rfl⟩
  · exact Carries.of_eq h rfl rfl rfl

lemma update_carries {jb : Jbuf} (h : Window jb.framelist) (oper : Op) : Carries jb (update jb oper) := by
  have hop := switchOp_carries h oper
  have hw := hop.framelist.window
  unfold update
  dsimp only
  split_ifs
  · refine hop.trans ?_
    unfold runDiscard
    split
    · exact Carries.of_eq hw rfl rfl rfl
    · exact discardStatic_carries hw
    · exact discardProgressive_carries hw
  · exact hop

lemma removeFrame_carries (h : Window jb.framelist) (frameCnt : ℕ) :
    Carries jb (removeFrame jb frameCnt).1 := by
  have h1 := removeHead_shrinks h frameCnt
  exact ⟨h1.trans (removeMore_shrinks _ _ _ h1.window), rfl, rfl⟩

lemma getFrame_spec (h : Window jb.framelist) : Carries jb (getFrame jb).1 ∧ ∀ info, taken jb = some info →
        jb.framelist.Holds info.seq ∧ info.seq < (getFrame jb).1.framelist.origin ∧
          (info.frameType = .normal → (jb.framelist.frame info.seq).frameType = .normal ∧
            info.content = (jb.framelist.frame info.seq).content.take
              (jb.framelist.frame info.seq).contentLen) := by
  obtain ⟨hshrink, hinfo⟩ := framelistGet_spec h
  have hupdate : ∀ {jb' : Jbuf}, Carries jb jb' → Carries jb (update jb' .get) :=
    fun hc => hc.trans (update_carries hc.framelist.window .get)
  unfold taken getFrame
  by_cases h1 : jb.prefetching = true
  · simp only [if_pos h1]
    exact ⟨hupdate (Carries.of_eq h rfl rfl rfl), by simp⟩
  simp only [if_neg h1]
  by_cases h2 : framelistEffSize jb.framelist < jb.minDelay
  · simp only [if_pos h2]
    exact ⟨hupdate (Carries.of_eq h rfl rfl rfl), by simp⟩
  simp only [if_neg h2]
  generalize framelistGet jb.framelist = r at hshrink hinfo
  obtain ⟨fl, info⟩ := r
  simp only at hshrink hinfo
  cases info with
  | none => exact ⟨hupdate ⟨hshrink, rfl, rfl⟩, by simp⟩
  | some info =>
    obtain ⟨hin, hnext, hnormal⟩ := hinfo info rfl
    by_cases h3 : info.frameType = .normal
    · simp only [if_pos h3]
      have hc := @update_carries { jb with framelist := fl, level := jb.level + 1 } hshrink.window .get
      have hle := hc.framelist.origin_le
      refine ⟨hupdate ⟨hshrink, rfl, rfl⟩, ?_⟩
      intro i hi
      obtain rfl := Option.some.inj hi
      exact ⟨hin, by simp only at hle ⊢; omega, fun _ => hnormal h3⟩
    · simp only [if_neg h3]
      have hc := @update_carries { jb with framelist := fl, lost := jb.lost + 1, level := jb.level + 1 }
        hshrink.window .get
      have hle := hc.framelist.origin_le
      refine ⟨hupdate ⟨hshrink, rfl, rfl⟩, ?_⟩
      intro i hi
      obtain rfl := Option.some.inj hi
      exact ⟨hin, by simp only at hle ⊢; omega, by simp⟩

/-- The frames of the window and the frames returned come from accepted ones, and no accepted
frame can be accepted again. -/
structure Delivery (frameSize : ℕ) (w : World) : Prop where
  window : Window w.jb.framelist
  cap : w.jb.maxCount = w.jb.framelist.maxCount
  slotSize : w.jb.frameSize = frameSize
  listSize : w.jb.framelist.frameSize = frameSize
  fresh : w.accepted = [] → w.jb.framelist.size = 0 ∧ w.returned = []
  behind : ∀ r ∈ w.returned, r.seq < w.jb.framelist.origin
  ordered : w.returned.Pairwise fun r r' => r.seq < r'.seq
  distinct : w.accepted.Pairwise fun p p' => p.seq ≠ p'.seq
  pending : ∀ p ∈ w.accepted, p.seq < w.jb.framelist.origin + w.jb.framelist.size ∧
    (w.jb.framelist.origin ≤ p.seq → (w.jb.framelist.frame p.seq).frameType ≠ .missing)
  source : ∀ i, w.jb.framelist.Holds i → (w.jb.framelist.frame i).frameType = .normal →
    ∃ p ∈ w.accepted, p.seq = i ∧ (w.jb.framelist.frame i).content.take
      (w.jb.framelist.frame i).contentLen = p.frame.take frameSize
  delivered : ∀ r ∈ w.returned, r.frameType = .normal →
    ∃ p ∈ w.accepted, p.seq = r.seq ∧ r.content = p.frame.take frameSize

variable {frameSize : ℕ} {w : World}

lemma Delivery.carries (h : Delivery frameSize w)
    (hc : Carries w.jb jb) : Delivery frameSize { w with jb := jb } where
  window := hc.framelist.window
  cap := hc.maxCount.trans (h.cap.trans hc.framelist.cap.symm)
  slotSize := hc.frameSize.trans h.slotSize
  listSize := hc.framelist.frameSize.trans h.listSize
  fresh := by
    intro h0
    obtain ⟨h1, h2⟩ := h.fresh h0
    have := hc.framelist.origin_le
    have := hc.framelist.last
    exact ⟨by simp only; omega, h2⟩
  behind := fun r hr => (h.behind r hr).trans_le hc.framelist.origin_le
  ordered := h.ordered
  distinct := h.distinct
  pending := by
    intro p hp
    obtain ⟨h1, h2⟩ := h.pending p hp
    have hlast := hc.framelist.last
    refine ⟨by simp only; omega, fun hge => ?_⟩
    exact hc.framelist.inUse ⟨hge, by omega⟩ (h2 (hc.framelist.origin_le.trans hge))
  source := by
    intro i hi hn
    have hsame := hc.framelist.normal hi hn
    simp only at hn ⊢
    rw [hsame] at hn ⊢
    exact h.source i (hc.framelist.holds hi) hn
  delivered := h.delivered

lemma Delivery.get (h : Delivery frameSize w) : Delivery frameSize (w.step .get) := by
  obtain ⟨hc, htaken⟩ := getFrame_spec h.window
  have h' := h.carries hc
  cases ht : taken w.jb with
  | none =>
    have : w.step .get = { w with jb := (getFrame w.jb).1 } := by
      simp [World.step, ht, JitterBuffer.step]
    rw [this]
    exact h'
  | some info =>
    obtain ⟨hin, hnext, hnormal⟩ := htaken info ht
    have : w.step .get = { w with jb := (getFrame w.jb).1, returned := w.returned ++ [info] } := by
      simp [World.step, ht, JitterBuffer.step]
    rw [this]
    obtain ⟨g1, g2, g3, g4, g5, g6, g7, g8, g9, g10, g11⟩ := h'
    refine ⟨g1, g2, g3, g4, ?_, ?_, ?_, g8, g9, g10, ?_⟩
    · intro h0
      have := (h.fresh h0).1
      obtain ⟨h1, h2⟩ := hin
      omega
    · intro r hr
      rcases List.mem_append.1 hr with hr | hr
      · exact g6 r hr
      · obtain rfl := List.mem_singleton.1 hr
        exact hnext
    · refine List.pairwise_append.2 ⟨h.ordered, List.pairwise_singleton _ _, ?_⟩
      intro r hr r' hr'
      obtain rfl := List.mem_singleton.1 hr'
      exact (h.behind r hr).trans_le hin.1
    · intro r hr hn
      rcases List.mem_append.1 hr with hr | hr
      · exact g11 r hr hn
      · obtain rfl := List.mem_singleton.1 hr
        obtain ⟨h1, h2⟩ := hnormal hn
        obtain ⟨p, hp, hseq, hcontent⟩ := h.source _ hin h1
        exact ⟨p, hp, hseq, h2.trans hcontent⟩

lemma Delivery.stored (h : Delivery frameSize w) {fl : Framelist}
    {s : Slot} {p : Packet} (hst : Stored w.jb.framelist fl p.seq s)
    (hcontent : s.content.take s.contentLen = p.frame.take frameSize) (hused : s.frameType ≠ .missing)
    (hge : w.accepted = [] ∨ w.jb.framelist.origin ≤ p.seq) :
    Delivery frameSize { w with jb := { w.jb with framelist := fl }, accepted := w.accepted ++ [p] } := by
  have hup : w.accepted ≠ [] → w.jb.framelist.origin ≤ fl.origin := by
    intro hne
    have := hge.resolve_left hne
    rw [hst.origin]
    split_ifs
    · exact this
    · exact le_rfl
  have hne : ∀ q ∈ w.accepted, q.seq ≠ p.seq := by
    intro q hq heq
    obtain ⟨h1, h2⟩ := h.pending q hq
    have hge' := hge.resolve_left (List.ne_nil_of_mem hq)
    have hin : w.jb.framelist.Holds p.seq := ⟨hge', by omega⟩
    have hmiss := hst.free hin
    rw [← heq] at hmiss hge'
    exact h2 hge' hmiss
  refine ⟨hst.window, h.cap.trans hst.cap.symm, h.slotSize, hst.frameSize.trans h.listSize, by simp, ?_,
    h.ordered, ?_, ?_, ?_, ?_⟩
  · intro r hr
    have hne : w.accepted ≠ [] := by
      intro h0
      rw [(h.fresh h0).2] at hr
      cases hr
    exact (h.behind r hr).trans_le (hup hne)
  · refine List.pairwise_append.2 ⟨h.distinct, List.pairwise_singleton _ _, ?_⟩
    intro q hq q' hq'
    obtain rfl := List.mem_singleton.1 hq'
    exact hne q hq
  · intro q hq
    rcases List.mem_append.1 hq with hq | hq
    · obtain ⟨h1, h2⟩ := h.pending q hq
      have hin := hst.holds.2
      have hup' := hup (List.ne_nil_of_mem hq)
      have hge' := hge.resolve_left (List.ne_nil_of_mem hq)
      by_cases hold : w.jb.framelist.origin ≤ q.seq
      · obtain ⟨h3, h4⟩ := hst.kept q.seq ⟨hold, h1⟩
        refine ⟨h3.2, fun _ => ?_⟩
        simp only
        rw [h4 (hne q hq)]
        exact h2 hold
      · exact ⟨by simp only; omega, fun hnew => by simp only at hnew; omega⟩
    · obtain rfl := List.mem_singleton.1 hq
      refine ⟨hst.holds.2, fun _ => ?_⟩
      simp only
      rwa [hst.frame]
  · intro i hi hn
    by_cases hip : i = p.seq
    · refine ⟨p, by simp, hip.symm, ?_⟩
      simp only
      rwa [hip, hst.frame]
    · rcases hst.others i hi hip with hold | hmiss
      · have hsame := (hst.kept i hold).2 hip
        simp only at hn ⊢
        rw [hsame] at hn ⊢
        obtain ⟨q, hq, h1, h2⟩ := h.source i hold hn
        exact ⟨q, List.mem_append_left _ hq, h1, h2⟩
      · rw [hmiss] at hn
        cases hn
  · intro r hr hn
    obtain ⟨q, hq, h1, h2⟩ := h.delivered r hr hn
    exact ⟨q, List.mem_append_left _ hq, h1, h2⟩

lemma putStored_fields (jb : Jbuf) (frame : List UInt8) (bitInfo : ℕ) (seq : ℤ) (ts : ℕ) :
    (putStored jb frame bitInfo seq ts).1.framelist = (storeFrame jb frame bitInfo seq ts).1.1 ∧
      (putStored jb frame bitInfo seq ts).1.maxCount = jb.maxCount ∧
      (putStored jb frame bitInfo seq ts).1.frameSize = jb.frameSize ∧
      ((putStored jb frame bitInfo seq ts).2 = true ↔
        (storeFrame jb frame bitInfo seq ts).1.2 = .success) := by
  unfold putStored
  dsimp only
  split_ifs with hs <;> simp [hs]

lemma Delivery.put (h : Delivery frameSize w) (frame : List UInt8)
    (bitInfo : ℕ) {seq : ℤ} (ts : ℕ) (hok : Continues w (.put frame bitInfo seq ts)) :
    Delivery frameSize (w.step (.put frame bitInfo seq ts)) := by
  obtain ⟨hi, hf⟩ := hok
  have hf' : w.jb.framelist.size = 0 ∨ Follows w.jb.framelist seq := hf.imp_left fun h0 => (h.fresh h0).1
  obtain ⟨hfl, hcap, hfs, hflag⟩ := putStored_fields w.jb frame bitInfo seq ts
  rcases storeFrame_spec h.window h.cap (h.slotSize.trans h.listSize.symm) hi hf' frame bitInfo ts with
    ⟨hsame, hfail⟩ | ⟨hsuccess, fl1, hshrink, hge, hst⟩
  · have hno : (putStored w.jb frame bitInfo seq ts).2 = false := by
      simpa using fun hyes => hfail (hflag.1 hyes)
    have hstep : w.step (.put frame bitInfo seq ts) =
        { w with jb := (putStored w.jb frame bitInfo seq ts).1 } := by
      simp [World.step, JitterBuffer.step, putFrame, hno]
    rw [hstep]
    exact h.carries (Carries.of_eq h.window (hfl.trans hsame) hcap hfs)
  · have hyes := hflag.2 hsuccess
    have hstep : w.step (.put frame bitInfo seq ts) =
        { w with
          jb := update (putStored w.jb frame bitInfo seq ts).1 .put
          accepted := w.accepted ++ [⟨frame, seq⟩] } := by
      simp [World.step, JitterBuffer.step, putFrame, hyes]
    rw [hstep]
    have h1 : Delivery frameSize { w with jb := { w.jb with framelist := fl1 } } :=
      h.carries ⟨hshrink, rfl, rfl⟩
    have h2 := h1.stored (p := ⟨frame, seq⟩) hst (by
      simp only [List.take_take, min_self, h.slotSize]
      rw [min_comm, ← List.take_eq_take_min]) (by simp) (hf.imp_right fun hfol => hge hfol.1)
    have hc : Carries { w.jb with framelist := (storeFrame w.jb frame bitInfo seq ts).1.1 }
        (putStored w.jb frame bitInfo seq ts).1 := Carries.of_eq hst.window hfl hcap hfs
    exact h2.carries (hc.trans (update_carries hc.framelist.window .put))

lemma Delivery.step {call : Call} (h : Delivery frameSize w)
    (hok : Continues w call) : Delivery frameSize (w.step call) := by
  have hsame : ∀ {jb : Jbuf}, jb.framelist = w.jb.framelist → jb.maxCount = w.jb.maxCount →
      jb.frameSize = w.jb.frameSize → Delivery frameSize { w with jb := jb } :=
    fun h1 h2 h3 => h.carries (Carries.of_eq h.window h1 h2 h3)
  cases call with
  | put frame bitInfo seq ts => exact h.put frame bitInfo ts hok
  | get => exact h.get
  | peek offset => exact h
  | remove frameCnt => exact h.carries (removeFrame_carries h.window frameCnt)
  | setPtime ptime ptimeDenum => exact hsame rfl rfl rfl
  | setFixed prefetch =>
    simp only [World.step, JitterBuffer.step, setFixed]
    split_ifs <;> exact hsame rfl rfl rfl
  | setAdaptive prefetch minPrefetch maxPrefetch =>
    simp only [World.step, JitterBuffer.step, setAdaptive]
    split_ifs <;> exact hsame rfl rfl rfl
  | setDiscard algo => exact hsame rfl rfl rfl
  | setMinDelay minDelay => exact hsame rfl rfl rfl
  | reset => exact hok.elim

lemma create_delivery (memory : ℕ → Slot) (frameSize ptime : ℕ) {maxCount : ℕ} (hm : 0 < maxCount)
    (hcap : maxCount < 2 ^ 31) :
    Delivery frameSize (World.start (create memory frameSize ptime maxCount)) := by
  have hw : Window (create memory frameSize ptime maxCount).framelist :=
    ⟨hm, Nat.zero_le _, fun j _ hj => framelistReset_at (framelistReset ⟨frameSize, maxCount, memory, 0, 0, 0, 0⟩)
      hj, hcap, by simp [create, reset, framelistReset, invalidOffset], by
        simp [create, reset, framelistReset, invalidOffset]⟩
  refine ⟨hw, rfl, rfl, rfl, fun _ => ⟨rfl, rfl⟩, by simp [World.start], by simp [World.start],
    by simp [World.start], by simp [World.start], ?_, by simp [World.start]⟩
  intro i hi
  obtain ⟨j, hj, -⟩ := hi.exists_offset
  exact absurd hj (Nat.not_lt_zero j)

def Late (fl : Framelist) (index : ℤ) : Prop := index < fl.origin ∧ fl.origin - maxMisorder < index

def Occupied (fl : Framelist) (index : ℤ) : Prop :=
  fl.Holds index ∧ (fl.frame index).frameType ≠ .missing

instance (fl : Framelist) (index : ℤ) : Decidable (Late fl index) := inferInstanceAs (Decidable (_ ∧ _))

instance (fl : Framelist) (index : ℤ) : Decidable (Occupied fl index) :=
  inferInstanceAs (Decidable (_ ∧ _))

lemma putFrame_unchanged (h : Delivery frameSize w) {seq : ℤ}
    (hno : Late w.jb.framelist seq ∨ Occupied w.jb.framelist seq) (frame : List UInt8) (bitInfo ts : ℕ) :
    (putFrame w.jb frame bitInfo seq ts).framelist = w.jb.framelist := by
  have hfs : min frame.length w.jb.frameSize ≤ w.jb.framelist.frameSize := by
    rw [h.listSize, ← h.slotSize]
    exact min_le_right _ _
  have hput : ∃ status, status ≠ .success ∧ status ≠ .etoomany ∧
      putAt w.jb.framelist seq frame (min frame.length w.jb.frameSize) bitInfo ts .normal =
        (w.jb.framelist, status) := by
    rcases hno with ⟨h1, h2⟩ | ⟨hin, hused⟩
    · exact ⟨.etoosmall, by simp, by simp, putAt_late frame bitInfo ts hfs h1 h2⟩
    · have hcap := h.window.cap_lt
      have hsz := h.window.size_le
      obtain ⟨h1, h2⟩ := hin
      refine ⟨.eexists, by simp, by simp, ?_⟩
      rw [putAt_ahead frame bitInfo ts hfs (by omega) h1 (by omega), int32_eq (by omega) (by omega),
        if_neg (by omega)]
      exact putSlot_occupied hused seq frame _ bitInfo ts
  obtain ⟨status, h1, h2, heq⟩ := hput
  have hstore : storeFrame w.jb frame bitInfo seq ts = ((w.jb.framelist, status), 0) := by
    unfold storeFrame
    dsimp only
    rw [heq, makeRoom_stop _ _ _ _ _ _ _ h2]
  simp [putFrame, putStored, hstore, h1]

lemma filter_length_le_one {rs : List FrameInfo} (h : rs.Pairwise fun r r' => r.seq < r'.seq) (seq : ℤ) :
    (rs.filter fun r => r.frameType = .normal ∧ r.seq = seq).length ≤ 1 := by
  induction rs with
  | nil => simp
  | cons r rs ih =>
    obtain ⟨h1, h2⟩ := List.pairwise_cons.1 h
    rw [List.filter_cons]
    split_ifs with hr
    · have hnone : rs.filter (fun r => r.frameType = .normal ∧ r.seq = seq) = [] := by
        rw [List.filter_eq_nil_iff]
        intro r' hr'
        have := h1 r' hr'
        simp only [decide_eq_true_eq] at hr ⊢
        omega
      rw [hnone]
      simp
    · exact ih h2

lemma find_eq_of_distinct {ps : List Packet} (h : ps.Pairwise fun p p' => p.seq ≠ p'.seq) {p : Packet}
    (hp : p ∈ ps) : ps.find? (fun q => q.seq = p.seq) = some p := by
  induction ps with
  | nil => cases hp
  | cons q ps ih =>
    obtain ⟨h1, h2⟩ := List.pairwise_cons.1 h
    rcases List.mem_cons.1 hp with rfl | hp
    · simp
    · rw [List.find?_cons_of_neg (by simpa using h1 p hp)]
      exact ih h2 hp

/-- Over a run of calls without reset, far jump or restart, frames are returned in the order of
their indices, each accepted one as a normal frame at most once, with the content that was put
first. A put that is late or finds its index taken does not change the frame list. -/
theorem frames_delivered_in_order (memory : ℕ → Slot) (frameSize ptime maxCount : ℕ) (hm : 0 < maxCount)
    (hcap : maxCount < 2 ^ 31) (calls : List Call)
    (hrun : Guarded World.step Continues (World.start (create memory frameSize ptime maxCount)) calls) :
    let w := run World.step (World.start (create memory frameSize ptime maxCount)) calls
    (w.returned.Pairwise fun r r' => r.seq < r'.seq) ∧
      (∀ p ∈ w.accepted,
        (w.returned.filter fun r => r.frameType = .normal ∧ r.seq = p.seq).length ≤ 1) ∧
      (∀ r ∈ w.returned, r.frameType = .normal →
        ∃ p, w.accepted.find? (fun p => p.seq = r.seq) = some p ∧ r.content = p.frame.take frameSize) ∧
      ∀ frame bitInfo seq ts, Late w.jb.framelist seq ∨ Occupied w.jb.framelist seq →
        (putFrame w.jb frame bitInfo seq ts).framelist = w.jb.framelist := by
  intro w
  have h : Delivery frameSize w :=
    Guarded.invariant (fun _ _ h hok => h.step hok) (create_delivery memory frameSize ptime hm hcap) hrun
  refine ⟨h.ordered, fun p _ => filter_length_le_one h.ordered p.seq, ?_, ?_⟩
  · intro r hr hn
    obtain ⟨p, hp, hseq, hcontent⟩ := h.delivered r hr hn
    refine ⟨p, ?_, hcontent⟩
    rw [← hseq]
    exact find_eq_of_distinct h.distinct hp
  · intro frame bitInfo seq ts hno
    exact putFrame_unchanged h hno frame bitInfo ts

def deliveryCalls : List Call :=
  [.setFixed 0, .put [1, 1, 1] 0 5 0, .put [2] 0 8 0, .put [3] 0 6 0, .put [4] 0 6 0, .get, .get,
    .put [5] 0 5 0, .get, .get]

theorem delivery_run :
    let w := run World.step (World.start (create (fun _ => ⟨.normal, 3, 0, 0, []⟩) 2 20 4)) deliveryCalls
    w.returned = [⟨.normal, [1, 1], 0, 0, 5⟩, ⟨.normal, [3], 0, 0, 6⟩, ⟨.missing, [], 0, 0, 7⟩,
        ⟨.normal, [2], 0, 0, 8⟩] ∧
      (w.returned.Pairwise fun r r' => r.seq < r'.seq) ∧
      (∀ p ∈ w.accepted,
        (w.returned.filter fun r => r.frameType = .normal ∧ r.seq = p.seq).length ≤ 1) ∧
      (∀ r ∈ w.returned, r.frameType = .normal →
        ∃ p, w.accepted.find? (fun p => p.seq = r.seq) = some p ∧ r.content = p.frame.take 2) ∧
      ∀ frame bitInfo seq ts, Late w.jb.framelist seq ∨ Occupied w.jb.framelist seq →
        (putFrame w.jb frame bitInfo seq ts).framelist = w.jb.framelist :=
  ⟨by decide, frames_delivered_in_order (fun _ => ⟨.normal, 3, 0, 0, []⟩) 2 20 4 (by decide) (by decide)
    deliveryCalls (by decide)⟩

end PjProject.JitterBuffer
