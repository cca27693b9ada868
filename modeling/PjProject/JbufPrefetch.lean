import PjProject.JbufAdapt
import PjProject.JbufDelivery

/-!
# The end of prefetching

While frames are prefetched, puts in order fill the window. Prefetching ends with the put that
makes the frames not discarded as many as it asks for, so what can hold it up are the discards
that progressive discard makes in between.
-/
namespace PjProject.JitterBuffer

open RingWindow
open Transition (run Guarded)

variable {jb : Jbuf} {fl : Framelist}

def Next (fl : Framelist) (seq : ℤ) : Prop :=
  if fl.size = 0 then ¬ Late fl seq else seq = fl.origin + fl.size

instance (fl : Framelist) (seq : ℤ) : Decidable (Next fl seq) :=
  inferInstanceAs (Decidable (if fl.size = 0 then ¬ Late fl seq else seq = fl.origin + fl.size))

def inOrder : ℤ → List (List UInt8 × ℕ × ℕ) → List Call
  | _, [] => []
  | seq, (frame, bitInfo, ts) :: data => .put frame bitInfo seq ts :: inOrder (seq + 1) data

structure Appended (fl fl' : Framelist) (seq : ℤ) : Prop where
  size : fl'.size = min (fl.size + 1) fl.maxCount
  last : fl'.origin + fl'.size = seq + 1
  before : fl.size ≠ 0 → seq = fl.origin + fl.size
  frames : ∀ i < seq, fl'.Holds i → fl'.frame i = fl.frame i
  new : (fl'.frame seq).isDiscarded = false

variable {fl' : Framelist} {n : ℕ}

lemma Stored.appended {fl1 : Framelist} {seq : ℤ} {s : Slot} (hd : Dropped fl fl1 n)
    (hst : Stored fl1 fl' seq s) (hn : fl1.size + 1 = min (fl.size + 1) fl.maxCount)
    (hlast : fl.size ≠ 0 → seq = fl.origin + fl.size) (hs : s.isDiscarded = false) : Appended fl fl' seq := by
  have hle := hd.le
  have hsize := hd.size
  have ho := hd.origin
  have ho' := hst.origin
  have hl := hst.last
  have hin := hst.holds.1
  have hsize' : fl'.size = fl1.size + 1 ∧ fl'.origin + fl'.size = seq + 1 := by
    by_cases h0 : fl1.size = 0
    · rw [if_pos h0] at ho'
      omega
    · rw [if_neg h0] at ho'
      omega
  refine ⟨by omega, hsize'.2, hlast, ?_, by rw [hst.frame]; exact hs⟩
  intro i hi hheld
  have hold : fl1.Holds i := by
    by_cases h0 : fl1.size = 0
    · rw [if_pos h0] at ho'
      have := hheld.1
      omega
    · rw [if_neg h0] at ho'
      exact ⟨ho' ▸ hheld.1, by have := hlast (by omega); omega⟩
  rw [(hst.kept i hold).2 (by omega)]
  obtain ⟨j, hj, rfl⟩ := hold.exists_offset
  rw [fl1.frame_add, hd.frames j hj, ← fl.frame_add, ho, Nat.cast_add, add_assoc]

lemma storeFrame_next (h : Rep jb.framelist) (hcap : jb.maxCount = jb.framelist.maxCount)
    (hsize : jb.frameSize = jb.framelist.frameSize) {seq : ℤ} (hi : InRange seq) (hnext : Next jb.framelist seq)
    (hroom : jb.framelist.size < jb.framelist.maxCount ∨ (jb.framelist.maxCount : ℤ) ≤ maxDropout)
    (frame : List UInt8) (bitInfo ts : ℕ) : (storeFrame jb frame bitInfo seq ts).1.2 = .success ∧
      Appended jb.framelist (storeFrame jb frame bitInfo seq ts).1.1 seq := by
  have hw := h.window
  have hfs : min frame.length jb.frameSize ≤ jb.framelist.frameSize := hsize ▸ min_le_right _ _
  have hge := h.origin_ge
  have hle := h.last_le
  have hsz := h.size_le
  have hcl := h.cap_le
  have hpos := h.head_lt
  obtain ⟨hi1, hi2⟩ := hi
  have hint : IntIndex seq := ⟨by omega, by omega⟩
  have hmis : maxMisorder = 100 := rfl
  have hdrop : maxDropout = 3000 := rfl
  unfold Next Late at hnext
  unfold storeFrame
  dsimp only
  generalize min frame.length jb.frameSize = frameSize at hfs ⊢
  by_cases h0 : jb.framelist.size = 0
  · rw [if_pos h0] at hnext
    have hlate : ¬ (int32 (seq - jb.framelist.origin) < 0 ∧ int32 (jb.framelist.origin - seq) < maxMisorder) := by
      rw [int32_eq (by omega) (by omega), int32_eq (by omega) (by omega)]
      omega
    obtain ⟨hok, hst⟩ := putAt_start frame bitInfo ts hw hfs h0 hint hlate
    rw [makeRoom_stop _ _ _ _ _ _ _ (by simp [hok])]
    exact ⟨hok, hst.appended (Dropped.refl hw) (by omega) (fun hne => absurd h0 hne) rfl⟩
  rw [if_neg h0] at hnext
  by_cases hfull : jb.framelist.size < jb.framelist.maxCount
  · rcases putAt_inside frame bitInfo ts hw hfs h0 hint (by omega) (by omega) with ⟨-, hused⟩ | ⟨hok, hst⟩
    · have hfree := (hw.outside jb.framelist.size le_rfl hfull).1
      rw [← Framelist.frame_add, ← hnext] at hfree
      exact absurd hfree hused
    · rw [makeRoom_stop _ _ _ _ _ _ _ (by simp [hok])]
      exact ⟨hok, hst.appended (Dropped.refl hw) (by omega) (fun _ => hnext) rfl⟩
  · have hfar := hroom.resolve_left hfull
    rw [putAt_full frame bitInfo ts hw hfs h0 (by omega) (by omega), makeRoom, if_pos rfl]
    dsimp only
    have hcount : u32 (int32 (int32 (seq - jb.framelist.origin) - int32 jb.maxCount + 1)) = 1 := by
      have hu := @u32_eq 1 (by omega) (by omega)
      rw [hcap, int32_eq (x := seq - jb.framelist.origin) (by omega) (by omega),
        int32_eq (x := (jb.framelist.maxCount : ℤ)) (by omega) (by omega),
        show seq - jb.framelist.origin - (jb.framelist.maxCount : ℤ) + 1 = 1 by omega, int32_eq (by omega) (by omega)]
      omega
    rw [hcount]
    obtain ⟨hd, hn⟩ := removeHead_dropped hw 1
    obtain ⟨hok, hst⟩ := putAt_room hw hint hfs (by omega) (by omega) frame bitInfo ts hd (by omega)
    rw [makeRoom_stop _ _ _ _ _ _ _ (by simp [hok])]
    have hsize1 := hd.size
    exact ⟨hok, hst.appended hd (by omega) (fun _ => hnext) rfl⟩

/-- The discarded ones of the `n` frames from an index on. -/
def markedFrom (fl : Framelist) (first : ℤ) (n : ℕ) : ℕ :=
  (List.range n).countP fun i : ℕ => (fl.frame (first + i)).isDiscarded

/-- Progressive discard is due for a frame from `first` on. -/
def DiscardDue (first : ℤ) (jb : Jbuf) : Prop :=
  jb.processing = true ∧ jb.discardAlgo = .progressive ∧ latencyTooLong jb = true ∧
    int32 (progressiveRef jb + progressiveDist jb) ≤ lastSeq jb ∧ first ≤ progressiveSeq jb

instance (first : ℤ) (jb : Jbuf) : Decidable (DiscardDue first jb) :=
  inferInstanceAs (Decidable (_ ∧ _ ∧ _ ∧ _ ∧ _))

/-- The put is followed by the discard of a frame from `first` on. -/
def Discards (first : ℤ) (jb : Jbuf) : Call → Prop
  | .put frame bitInfo seq ts => DiscardDue first (switchOp (putStored jb frame bitInfo seq ts).1 .put)
  | _ => False

instance (first : ℤ) (jb : Jbuf) : ∀ call, Decidable (Discards first jb call)
  | .put .. => inferInstanceAs (Decidable (DiscardDue first _))
  | .get => .isFalse id
  | .peek _ => .isFalse id
  | .remove _ => .isFalse id
  | .setPtime .. => .isFalse id
  | .setFixed _ => .isFalse id
  | .setAdaptive .. => .isFalse id
  | .setDiscard _ => .isFalse id
  | .setMinDelay _ => .isFalse id
  | .reset => .isFalse id

def discards (first : ℤ) : Jbuf → List Call → ℕ
  | _, [] => 0
  | jb, call :: calls => (if Discards first jb call then 1 else 0) + discards first (step jb call) calls

variable {first : ℤ}

lemma markedFrom_congr
    (h : ∀ i < n, fl'.frame (first + i) = fl.frame (first + i)) : markedFrom fl' first n = markedFrom fl first n := by
  apply List.countP_congr
  intro i hi
  rw [h i (List.mem_range.1 hi)]

lemma markedFrom_succ (fl : Framelist) (first : ℤ) (n : ℕ) : markedFrom fl first (n + 1) =
      markedFrom fl first n + if (fl.frame (first + n)).isDiscarded then 1 else 0 := by
  simp [markedFrom, List.range_succ, List.countP_append, List.countP_singleton]

lemma markedFrom_le {index : ℤ} (n : ℕ)
    (h : ∀ i < n, first + i ≠ index → fl'.frame (first + i) = fl.frame (first + i)) :
    markedFrom fl' first n ≤ markedFrom fl first n + 1 := by
  induction n with
  | zero => exact Nat.zero_le _
  | succ n ih =>
    rw [markedFrom_succ, markedFrom_succ]
    by_cases hn : first + n = index
    · have hsame : markedFrom fl' first n = markedFrom fl first n :=
        markedFrom_congr fun i hi => h i (by omega) (by omega)
      rw [hsame]
      split_ifs <;> omega
    · rw [h n (Nat.lt_succ_self n) hn]
      have := ih fun i hi => h i (by omega)
      omega

lemma effSize_ge (h : Rep fl) (h1 : fl.origin ≤ first)
    (h2 : first + n ≤ fl.origin + fl.size) : n ≤ framelistEffSize fl + markedFrom fl first n := by
  have hcount := h.counted
  have heff := h.effSize
  have hnum := h.num_le
  obtain ⟨m, rfl⟩ : ∃ m : ℕ, first = fl.origin + m := ⟨(first - fl.origin).toNat, by omega⟩
  have hle : m + n ≤ fl.size := by omega
  have hrest := @ringCount_add _ fl.head fl.maxCount Slot.isDiscarded fl.slots (m + n) (fl.size - (m + n))
  have hmid := @ringCount_add _ fl.head fl.maxCount Slot.isDiscarded fl.slots m n
  rw [Nat.add_sub_cancel' hle] at hrest
  have hmarked : markedFrom fl (fl.origin + m) n =
      ringCount Slot.isDiscarded ((fl.head + m) % fl.maxCount) fl.maxCount fl.slots n := by
    apply List.countP_congr
    intro i hi
    rw [ringAt_advance, add_assoc, ← Nat.cast_add, fl.frame_add]
    rfl
  have hfirst := @ringCount_le _ fl.head fl.maxCount Slot.isDiscarded fl.slots m
  have htail := @ringCount_le _ ((fl.head + (m + n)) % fl.maxCount) fl.maxCount Slot.isDiscarded fl.slots
    (fl.size - (m + n))
  omega

lemma framelistDiscard_others (h : Window fl) (index : ℤ) :
    (framelistDiscard fl index).origin = fl.origin ∧ (framelistDiscard fl index).size = fl.size ∧
      ∀ i, fl.Holds i → i ≠ index → (framelistDiscard fl index).frame i = fl.frame i := by
  obtain ⟨h1, h2, h3, h4, h5, h6⟩ := h
  unfold framelistDiscard
  rw [int32_eq (by omega) h6]
  by_cases hin : fl.origin ≤ index ∧ index < fl.origin + fl.size
  · rw [if_pos hin]
    refine ⟨rfl, rfl, ?_⟩
    intro i hi hne
    obtain ⟨k, hk, rfl⟩ := Framelist.Holds.exists_offset hin
    obtain ⟨j, hj, rfl⟩ := hi.exists_offset
    have hring := ringAt_update h1 fl.slots { fl.slots ((fl.head + k) % fl.maxCount) with frameType := .discarded }
      (show j < fl.maxCount by omega) (show k < fl.maxCount by omega)
    simp only [Framelist.frame, add_sub_cancel_left, Int.toNat_natCast, Framelist.at]
    rw [hring, if_neg (by omega)]
  · rw [if_neg hin]
    exact ⟨rfl, rfl, fun _ _ _ => rfl⟩

lemma update_marked (h : Inv jb) (hs : jb.discardAlgo ≠ .static) {first : ℤ} {n : ℕ}
    (h1 : jb.framelist.origin ≤ first) (h2 : first + n ≤ jb.framelist.origin + jb.framelist.size) :
    (update jb .put).framelist.origin = jb.framelist.origin ∧
      (update jb .put).framelist.size = jb.framelist.size ∧
      markedFrom (update jb .put).framelist first n ≤ markedFrom jb.framelist first n +
        if DiscardDue first (switchOp jb .put) then 1 else 0 := by
  have hsame := switchOp_same jb .put
  have hw := (h.of_same hsame).rep.window
  have hfl := hsame.framelist
  have halgo := hsame.discardAlgo
  unfold update
  dsimp only
  generalize switchOp jb .put = jb' at *
  have hrest : jb'.framelist.origin = jb.framelist.origin ∧ jb'.framelist.size = jb.framelist.size ∧
      markedFrom jb'.framelist first n ≤ markedFrom jb.framelist first n := by
    rw [hfl]
    exact ⟨rfl, rfl, le_rfl⟩
  have hquiet : ∀ jb'' : Jbuf, jb''.framelist = jb'.framelist → ∀ c : ℕ, jb''.framelist.origin = jb.framelist.origin ∧
      jb''.framelist.size = jb.framelist.size ∧
      markedFrom jb''.framelist first n ≤ markedFrom jb.framelist first n + c := by
    intro jb'' heq c
    rw [heq]
    exact ⟨hrest.1, hrest.2.1, hrest.2.2.trans (Nat.le_add_right _ _)⟩
  by_cases hp : jb'.processing = true
  · rw [if_pos hp]
    unfold runDiscard
    cases ha : jb'.discardAlgo with
    | none => exact hquiet _ rfl _
    | static => exact absurd (halgo.symm.trans ha) hs
    | progressive =>
      dsimp only
      unfold discardProgressive
      by_cases hop : jb'.lastOp ≠ .put
      · rw [if_pos hop]
        exact hquiet _ rfl _
      rw [if_neg hop]
      by_cases hlat : latencyTooLong jb' = false
      · rw [if_pos hlat]
        exact hquiet _ rfl _
      rw [if_neg hlat]
      dsimp only
      by_cases hnow : int32 (progressiveRef jb' + progressiveDist jb') ≤ lastSeq jb'
      · rw [if_pos hnow]
        obtain ⟨ho, hsz, hothers⟩ := framelistDiscard_others hw (progressiveSeq jb')
        have hheld : ∀ i < n, jb'.framelist.Holds (first + (i : ℕ)) := by
          intro i hi
          rw [hfl]
          exact ⟨by omega, by omega⟩
        refine ⟨ho.trans hrest.1, hsz.trans hrest.2.1, ?_⟩
        by_cases hin : first ≤ progressiveSeq jb'
        · rw [if_pos ⟨hp, ha, by simpa using hlat, hnow, hin⟩, ← hfl]
          exact markedFrom_le n fun i hi hne => hothers _ (hheld i hi) hne
        · rw [← hfl]
          refine (le_of_eq (markedFrom_congr ?_)).trans (Nat.le_add_right _ _)
          intro i hi
          exact hothers _ (hheld i hi) (by omega)
      · rw [if_neg hnow]
        exact hquiet _ rfl _
  · rw [if_neg hp]
    exact hquiet _ rfl _

structure Steady (jb jb' : Jbuf) : Prop where
  prefetching : jb'.prefetching = jb.prefetching
  prefetch : jb'.prefetch = jb.prefetch
  discardAlgo : jb'.discardAlgo = jb.discardAlgo
  maxCount : jb'.maxCount = jb.maxCount
  frameSize : jb'.frameSize = jb.frameSize
  listSize : jb'.framelist.frameSize = jb.framelist.frameSize

lemma Steady.trans {a b c : Jbuf} (h : Steady a b) (h' : Steady b c) : Steady a c where
  prefetching := h'.prefetching.trans h.prefetching
  prefetch := h'.prefetch.trans h.prefetch
  discardAlgo := h'.discardAlgo.trans h.discardAlgo
  maxCount := h'.maxCount.trans h.maxCount
  frameSize := h'.frameSize.trans h.frameSize
  listSize := h'.listSize.trans h.listSize

lemma switchOp_steady (jb : Jbuf) : Steady jb (switchOp jb .put) := by
  unfold switchOp
  dsimp only
  rw [if_neg (show ¬ (initCycle ≤ jb.initCycleCnt + 1 ∧ Op.put = .get) from fun h => Op.noConfusion h.2)]
  split_ifs
  all_goals first
    | exact ⟨rfl, rfl, rfl, rfl, rfl, rfl⟩
    | exact absurd (And.left ‹_›) (by decide)

lemma discardProgressive_steady (jb : Jbuf) : Steady jb (discardProgressive jb) := by
  have hdisc : ∀ index, (framelistDiscard jb.framelist index).frameSize = jb.framelist.frameSize := by
    intro index
    unfold framelistDiscard
    split_ifs <;> rfl
  unfold discardProgressive
  dsimp only
  split_ifs
  all_goals first
    | exact ⟨rfl, rfl, rfl, rfl, rfl, rfl⟩
    | exact ⟨rfl, rfl, rfl, rfl, rfl, hdisc _⟩

lemma update_steady (hs : jb.discardAlgo ≠ .static) : Steady jb (update jb .put) := by
  have h := switchOp_steady jb
  have halgo := h.discardAlgo
  unfold update
  dsimp only
  generalize switchOp jb .put = jb' at h halgo
  split_ifs
  · unfold runDiscard
    cases ha : jb'.discardAlgo with
    | none => exact h
    | static => exact absurd (halgo.symm.trans ha) hs
    | progressive => exact h.trans (discardProgressive_steady jb')
  · exact h

/-- The buffer before the put of frame `first + n`, when the `n` frames before that are the last
of the window and at most `d` of them are discarded. -/
structure Filling (jb : Jbuf) (first : ℤ) (n d cap : ℕ) (prefetch : ℤ) : Prop where
  inv : Inv jb
  algo : jb.discardAlgo ≠ .static
  frameSize : jb.frameSize = jb.framelist.frameSize
  maxCount : jb.maxCount = cap
  prefetch : jb.prefetch = prefetch
  next : Next jb.framelist (first + n)
  held : n ≤ jb.framelist.size
  marked : markedFrom jb.framelist first n ≤ d

variable {cap : ℕ}

lemma Filling.put {d : ℕ} {prefetch : ℤ} (h : Filling jb first n d cap prefetch)
    {frame : List UInt8} {bitInfo ts : ℕ} (hok : Allowed jb (.put frame bitInfo (first + n) ts)) (hn : n < cap)
    (hroom : jb.framelist.size < cap ∨ (cap : ℤ) ≤ maxDropout) :
    Filling (putFrame jb frame bitInfo (first + n) ts) first (n + 1)
        (d + if Discards first jb (.put frame bitInfo (first + n) ts) then 1 else 0) cap prefetch ∧
      (putFrame jb frame bitInfo (first + n) ts).framelist.size ≤ jb.framelist.size + 1 ∧
      (prefetch + d ≤ (n + 1 : ℕ) → (putFrame jb frame bitInfo (first + n) ts).prefetching = false) := by
  obtain ⟨hinv, halgo, hfs, hmax, hpre, hnext, hheld, hmarked⟩ := h
  have hcap : jb.framelist.maxCount = cap := hinv.cap.symm.trans hmax
  obtain ⟨hfl, hmax', hfs', hflag⟩ := putStored_fields jb frame bitInfo (first + n) ts
  obtain ⟨hok1, happ⟩ := storeFrame_next hinv.rep hinv.cap hfs hok.1 hnext (hcap.symm ▸ hroom) frame bitInfo ts
  have hkeeps := storeFrame_keeps jb hinv.rep hok.1 frame bitInfo ts
  have hput := putStored_inv hinv hok.1 frame bitInfo ts
  have hyes := hflag.2 hok1
  have hinv' := update_put_inv hput (hok.2 hyes)
  have halgo' : (putStored jb frame bitInfo (first + n) ts).1.discardAlgo = jb.discardAlgo := by
    unfold putStored
    dsimp only
    split_ifs <;> rfl
  have hpre' : (putStored jb frame bitInfo (first + n) ts).1.prefetch = jb.prefetch ∧
      (putStored jb frame bitInfo (first + n) ts).1.prefetching = (jb.prefetching &&
        decide ((framelistEffSize (storeFrame jb frame bitInfo (first + n) ts).1.1 : ℤ) < jb.prefetch)) := by
    unfold putStored
    dsimp only
    rw [if_pos hok1]
    exact ⟨rfl, rfl⟩
  -- the frames from `first` on are in the new window, the new one is not discarded
  have hsize := happ.size
  have hlast := happ.last
  rw [hcap] at hsize
  have hin : (storeFrame jb frame bitInfo (first + n) ts).1.1.origin ≤ first := by omega
  have hmarks : markedFrom (storeFrame jb frame bitInfo (first + n) ts).1.1 first (n + 1) =
      markedFrom jb.framelist first n := by
    rw [markedFrom_succ, happ.new]
    have hsame : markedFrom (storeFrame jb frame bitInfo (first + n) ts).1.1 first n =
        markedFrom jb.framelist first n :=
      markedFrom_congr fun i hi => happ.frames _ (by omega) ⟨by omega, by omega⟩
    simp [hsame]
  have heff := effSize_ge hkeeps.rep hin (n := n + 1) (by omega)
  obtain ⟨ho', hsz', hmk'⟩ := @update_marked _ hput (halgo'.symm ▸ halgo) first (n + 1)
    (by rw [hfl]; exact hin) (by rw [hfl]; push_cast; omega)
  have hsteady := @update_steady (putStored jb frame bitInfo (first + n) ts).1 (halgo'.symm ▸ halgo)
  have hstep : putFrame jb frame bitInfo (first + n) ts =
      update (putStored jb frame bitInfo (first + n) ts).1 .put := by
    unfold putFrame
    simp only [hyes, if_true]
  rw [hstep]
  rw [hfl] at ho' hsz' hmk'
  refine ⟨⟨hinv', ?_, ?_, ?_, ?_, ?_, by omega, ?_⟩, by omega, ?_⟩
  · rw [hsteady.discardAlgo, halgo']
    exact halgo
  · rw [hsteady.frameSize, hsteady.listSize, hfs', hfl, hkeeps.frameSize]
    exact hfs
  · rw [hsteady.maxCount, hmax']
    exact hmax
  · rw [hsteady.prefetch, hpre'.1]
    exact hpre
  · unfold Next
    rw [if_neg (by omega)]
    push_cast
    omega
  · refine hmk'.trans ?_
    rw [hmarks]
    exact Nat.add_le_add_right hmarked _
  · intro hle
    rw [hsteady.prefetching, hpre'.2, hpre]
    have hnot : ¬ (framelistEffSize (storeFrame jb frame bitInfo (first + n) ts).1.1 : ℤ) < prefetch := by omega
    rw [decide_eq_false hnot, Bool.and_false]

lemma Filling.ends {prefetch : ℤ} : ∀ (data : List (List UInt8 × ℕ × ℕ)) {jb : Jbuf}
    {n d : ℕ}, Filling jb first n d cap prefetch → data ≠ [] → n + data.length ≤ cap →
      jb.framelist.size + data.length ≤ cap ∨ (cap : ℤ) ≤ maxDropout →
      Guarded step Allowed jb (inOrder (first + n) data) →
      prefetch + d + discards first jb (inOrder (first + n) data.dropLast) ≤ n + data.length →
      (run step jb (inOrder (first + n) data)).prefetching = false
  | [], _, _, _, _, hne, _, _, _, _ => absurd rfl hne
  | [(frame, bitInfo, ts)], jb, n, d, h, _, hcap, hroom, hg, hle => by
    simp only [List.length_singleton] at hcap hroom hle
    simp only [List.dropLast_singleton, inOrder, discards] at hle
    exact (h.put hg.1 (by omega) (by omega)).2.2 (by push_cast; omega)
  | (frame, bitInfo, ts) :: x :: data, jb, n, d, h, _, hcap, hroom, hg, hle => by
    have hlen : ((frame, bitInfo, ts) :: x :: data).length = (x :: data).length + 1 := rfl
    rw [hlen] at hcap hroom hle
    obtain ⟨hnext, hsize, -⟩ := h.put hg.1 (by omega) (by omega)
    have hseq : first + n + 1 = first + (n + 1 : ℕ) := by
      push_cast
      ring
    have hrest := Filling.ends (x :: data) hnext (List.cons_ne_nil x data) (by omega) (by omega) (hseq ▸ hg.2)
    rw [List.dropLast_cons_cons, inOrder, discards, hseq] at hle
    rw [inOrder, Transition.run_cons, hseq]
    refine hrest ?_
    have hd : ∀ c : ℕ, c = (if Discards first jb (.put frame bitInfo (first + n) ts) then 1 else 0) →
        prefetch + (d + c : ℕ) + (discards first (step jb (.put frame bitInfo (first + n) ts))
          (inOrder (first + (n + 1 : ℕ)) (x :: data).dropLast) : ℕ) ≤ ((n + 1 : ℕ) : ℤ) + ((x :: data).length : ℕ) := by
      intro c hc
      rw [← hc] at hle
      push_cast at hle ⊢
      omega
    exact hd _ rfl

def AdaptCall : Call → Prop
  | .put .. | .get | .reset | .setFixed _ | .setAdaptive .. | .setPtime .. => True
  | .peek _ | .remove _ | .setDiscard _ | .setMinDelay _ => False

instance : ∀ call, Decidable (AdaptCall call)
  | .put .. => .isTrue trivial
  | .get => .isTrue trivial
  | .reset => .isTrue trivial
  | .setFixed _ => .isTrue trivial
  | .setAdaptive .. => .isTrue trivial
  | .setPtime .. => .isTrue trivial
  | .peek _ => .isFalse id
  | .remove _ => .isFalse id
  | .setDiscard _ => .isFalse id
  | .setMinDelay _ => .isFalse id

structure Ready (jb : Jbuf) (cap : ℕ) : Prop where
  inv : Inv jb
  algo : jb.discardAlgo ≠ .static
  frameSize : jb.frameSize = jb.framelist.frameSize
  maxCount : jb.maxCount = cap

lemma update_algo (jb : Jbuf) (oper : Op) : (update jb oper).discardAlgo = jb.discardAlgo := by
  have h := (switchOp_same jb oper).discardAlgo
  unfold update
  dsimp only
  split_ifs
  · rw [← h]
    generalize switchOp jb oper = jb'
    unfold runDiscard
    split
    · rfl
    · unfold discardStatic
      dsimp only
      split_ifs <;> rfl
    · exact (discardProgressive_steady jb').discardAlgo
  · exact h

lemma Carries.sameSize {jb jb' : Jbuf} (h : Carries jb jb') (hs : jb.frameSize = jb.framelist.frameSize) :
    jb'.frameSize = jb'.framelist.frameSize := by
  rw [h.frameSize, hs, h.framelist.frameSize]

lemma getFrame_algo (jb : Jbuf) : (getFrame jb).1.discardAlgo = jb.discardAlgo := by
  unfold getFrame
  dsimp only
  rw [update_algo]
  split_ifs
  · rfl
  · rfl
  · generalize framelistGet jb.framelist = r
    obtain ⟨fl, info⟩ := r
    cases info with
    | none => rfl
    | some info =>
      dsimp only
      split_ifs <;> rfl

lemma Ready.step (h : Ready jb cap) {call : Call} (hcall : AdaptCall call) (hok : Allowed jb call) :
    Ready (step jb call) cap := by
  have hinv := step_inv h.inv call hok
  obtain ⟨hi, halgo, hfs, hmax⟩ := h
  cases call with
  | put frame bitInfo seq ts =>
    obtain ⟨hfl, hmax', hfs', -⟩ := putStored_fields jb frame bitInfo seq ts
    have hput := putStored_inv hi hok.1 frame bitInfo ts
    have hsize : (putStored jb frame bitInfo seq ts).1.frameSize =
        (putStored jb frame bitInfo seq ts).1.framelist.frameSize := by
      rw [hfs', hfl, (storeFrame_keeps jb hi.rep hok.1 frame bitInfo ts).frameSize, hfs]
    have halgo' : (putStored jb frame bitInfo seq ts).1.discardAlgo ≠ .static := by
      unfold putStored
      dsimp only
      split_ifs <;> exact halgo
    revert hinv
    simp only [JitterBuffer.step, putFrame]
    split_ifs
    · intro hinv
      have hc := update_carries hput.rep.window .put
      exact ⟨hinv, by rwa [update_algo], hc.sameSize hsize, by rw [hc.maxCount, hmax', hmax]⟩
    · intro hinv
      exact ⟨hinv, halgo', hsize, by rw [hmax', hmax]⟩
  | get =>
    have hc := (getFrame_spec hi.rep.window).1
    exact ⟨hinv, by rw [JitterBuffer.step, getFrame_algo]; exact halgo, hc.sameSize hfs, hc.maxCount.trans hmax⟩
  | peek offset => exact hcall.elim
  | remove frameCnt => exact hcall.elim
  | setPtime ptime ptimeDenum => exact ⟨hinv, halgo, hfs, hmax⟩
  | setFixed prefetch =>
    refine ⟨hinv, ?_, ?_, ?_⟩ <;> simp only [JitterBuffer.step, setFixed] <;> split_ifs
    · exact halgo
    · exact fun hs => DiscardAlgo.noConfusion hs
    · exact hfs
    · exact hfs
    · exact hmax
    · exact hmax
  | setAdaptive prefetch minPrefetch maxPrefetch =>
    refine ⟨hinv, ?_, ?_, ?_⟩ <;> simp only [JitterBuffer.step, setAdaptive] <;> split_ifs
    · exact halgo
    · exact halgo
    · exact hfs
    · exact hfs
    · exact hmax
    · exact hmax
  | setDiscard algo => exact hcall.elim
  | setMinDelay minDelay => exact hcall.elim
  | reset => exact ⟨hinv, halgo, hfs, hmax⟩

/-- Puts in order, behind the last `m` frames of the window, that are enough for the prefetch: it
counts those frames and the new ones, less the ones that are or get discarded before the last put.
None of the puts is a far jump. -/
structure Enough (jb : Jbuf) (first : ℤ) (m : ℕ) (data : List (List UInt8 × ℕ × ℕ)) : Prop where
  nonempty : data ≠ []
  next : Next jb.framelist (first + m)
  held : m ≤ jb.framelist.size
  fits : m + data.length ≤ jb.maxCount
  room : jb.framelist.size + data.length ≤ jb.maxCount ∨ (jb.maxCount : ℤ) ≤ maxDropout
  enough : jb.prefetch + markedFrom jb.framelist first m + discards first jb (inOrder (first + m) data.dropLast) ≤
    m + data.length

def wholePrefetch : List Call :=
  [.setAdaptive 10 10 10, .put [] 0 1 0, .get, .put [] 0 2 0, .get, .put [] 0 3 0, .get, .put [] 0 4 0, .get,
    .put [] 0 5 0, .get]

end PjProject.JitterBuffer
