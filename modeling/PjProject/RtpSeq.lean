import PjProject.Transition

/-!
# RTP sequence numbers

The sequence control of `rtp.c`: the probation of a new source, the highest sequence number
with its count of cycles, and the windows for a gap, for a reordered packet and for a jump.
-/
namespace PjProject.Rtp

open Transition

def seqMod : ℕ := 2 ^ 16

def maxDropout : ℕ := 3000

def maxMisorder : ℕ := 100

def minSequential : UInt32 := 2

structure SeqSession where
  maxSeq : UInt16
  cycles : UInt32
  baseSeq : UInt32
  badSeq : UInt32
  probation : UInt32
deriving DecidableEq

/-- `pjmedia_rtp_status`, with the flags that the sequence control sets. -/
structure Status where
  bad : Bool := false
  dup : Bool := false
  outorder : Bool := false
  probation : Bool := false
  restart : Bool := false
  diff : UInt16 := 0
deriving DecidableEq

def SeqSession.seqRestart (sess : SeqSession) (seq : UInt16) : SeqSession :=
  { sess with baseSeq := seq.toUInt32, maxSeq := seq, badSeq := UInt32.ofNat (seqMod + 1), cycles := 0 }

def SeqSession.seqInit (sess : SeqSession) (seq : UInt16) : SeqSession :=
  { sess.seqRestart seq with maxSeq := seq - 1, probation := minSequential }

def SeqSession.seqUpdate (sess : SeqSession) (seq : UInt16) : SeqSession × Status :=
  let udelta := seq - sess.maxSeq
  if sess.probation ≠ 0 then
    if seq = sess.maxSeq + 1 then
      let sess := { sess with probation := sess.probation - 1, maxSeq := seq }
      (if sess.probation = 0 then { sess with baseSeq := seq.toUInt32 } else sess,
        { probation := true, diff := 1 })
    else
      ({ sess with probation := minSequential - 1, maxSeq := seq },
        { probation := true, bad := true, dup := seq = sess.maxSeq, outorder := seq ≠ sess.maxSeq })
  else if udelta = 0 then (sess, { dup := true })
  else if udelta.toNat < maxDropout then
    ({ sess with
        cycles := if seq < sess.maxSeq then sess.cycles + UInt32.ofNat seqMod else sess.cycles
        maxSeq := seq }, { diff := udelta })
  else if udelta.toNat ≤ seqMod - maxMisorder then
    if seq.toUInt32 = sess.badSeq then
      (sess.seqRestart seq, { restart := true, probation := true, diff := 1 })
    else
      ({ sess with badSeq := UInt32.ofNat ((seq.toNat + 1) % seqMod) }, { bad := true, outorder := true })
  else (sess, { outorder := true })

def SeqSession.next (sess : SeqSession) (seq : UInt16) : SeqSession := (sess.seqUpdate seq).1

/-- `cycles + max_seq` -/
def SeqSession.extSeq (sess : SeqSession) : UInt32 := sess.cycles + sess.maxSeq.toUInt32

def wire (n : ℤ) : UInt16 := UInt16.ofNat (n % 65536).toNat

lemma wire_toNat (n : ℤ) : ((wire n).toNat : ℤ) = n % 65536 := by
  have h0 := Int.emod_nonneg n (show (65536 : ℤ) ≠ 0 by omega)
  have h1 := Int.emod_lt_of_pos n (show (0 : ℤ) < 65536 by omega)
  have hlt : (n % 65536).toNat < 2 ^ 16 := by omega
  rw [wire, UInt16.toNat_ofNat', Nat.mod_eq_of_lt hlt, Int.toNat_of_nonneg h0]

lemma wire_sub_toNat (m n : ℤ) : ((wire n - wire m).toNat : ℤ) = (n - m) % 65536 := by
  have hm := wire_toNat m
  have hn := wire_toNat n
  have hlt := (wire m).toNat_lt
  rw [UInt16.toNat_sub]
  omega

/-- The unbounded number `d` in the 32 bits of the extended sequence number. -/
def extend (d : ℤ) : UInt32 := UInt32.ofNat (d % 2 ^ 32).toNat

lemma extend_toNat (d : ℤ) : ((extend d).toNat : ℤ) = d % 2 ^ 32 := by
  have h0 := Int.emod_nonneg d (show (2 ^ 32 : ℤ) ≠ 0 by omega)
  have h1 := Int.emod_lt_of_pos d (show (0 : ℤ) < 2 ^ 32 by omega)
  have hlt : (d % 2 ^ 32).toNat < 2 ^ 32 := by omega
  rw [extend, UInt32.toNat_ofNat', Nat.mod_eq_of_lt hlt, Int.toNat_of_nonneg h0]

section Update

variable {sess : SeqSession} {g n : ℤ}

lemma seqUpdate_same (hp : sess.probation = 0) (hmax : sess.maxSeq = wire g) :
    sess.seqUpdate (wire g) = (sess, { dup := true }) := by
  simp [SeqSession.seqUpdate, hp, hmax]

lemma seqUpdate_ahead (hp : sess.probation = 0) (hmax : sess.maxSeq = wire g) (hlt : g < n)
    (hgap : n - g < 3000) : sess.seqUpdate (wire n) = ({ sess with
      cycles := if wire n < wire g then sess.cycles + UInt32.ofNat seqMod else sess.cycles
      maxSeq := wire n }, { diff := wire n - wire g }) := by
  have hd := wire_sub_toNat g n
  have hne : wire n - wire g ≠ 0 := by
    intro h
    rw [h, UInt16.toNat_zero] at hd
    omega
  have hin : (wire n - wire g).toNat < maxDropout := by
    simp only [maxDropout]
    omega
  simp only [SeqSession.seqUpdate, hp, hmax, ne_eq, not_true_eq_false, if_false, if_neg hne, if_pos hin]

lemma seqUpdate_behind (hp : sess.probation = 0) (hmax : sess.maxSeq = wire g) (hlt : n < g)
    (hgap : g - n < 100) : sess.seqUpdate (wire n) = (sess, { outorder := true }) := by
  have hd := wire_sub_toNat g n
  have hne : wire n - wire g ≠ 0 := by
    intro h
    rw [h, UInt16.toNat_zero] at hd
    omega
  have hin : ¬ (wire n - wire g).toNat < maxDropout := by
    simp only [maxDropout]
    omega
  have hjump : ¬ (wire n - wire g).toNat ≤ seqMod - maxMisorder := by
    simp only [seqMod, maxMisorder]
    omega
  simp only [SeqSession.seqUpdate, hp, hmax, ne_eq, not_true_eq_false, if_false, if_neg hne,
    if_neg hin, if_neg hjump]

lemma extSeq_ahead (hmax : sess.maxSeq = wire g) (hlt : g < n) (hgap : n - g < 3000) : ({ sess with
      cycles := if wire n < wire g then sess.cycles + UInt32.ofNat seqMod else sess.cycles
      maxSeq := wire n } : SeqSession).extSeq = sess.extSeq + extend (n - g) := by
  have hg := wire_toNat g
  have hn := wire_toNat n
  have he := extend_toNat (n - g)
  have hc := sess.cycles.toNat_lt
  apply UInt32.toNat_inj.mp
  simp only [SeqSession.extSeq, hmax, UInt32.toNat_add, UInt16.toNat_toUInt32]
  split_ifs with hwrap
  · rw [UInt16.lt_iff_toNat_lt] at hwrap
    rw [UInt32.toNat_add, show (UInt32.ofNat seqMod).toNat = 65536 from rfl]
    omega
  · rw [UInt16.lt_iff_toNat_lt] at hwrap
    omega

end Update

/-- Each number is less than `MAX_DROPOUT` ahead of the greatest one before it, or less than
`MAX_MISORDER` behind it. -/
def Steady (g : ℤ) : List ℤ → Prop
  | [] => True
  | n :: ns => n - g < 3000 ∧ g - n < 100 ∧ Steady (max g n) ns

lemma Steady.append {ns ms : List ℤ} {g : ℤ} (h : Steady g (ns ++ ms)) :
    Steady g ns ∧ Steady (ns.foldl max g) ms := by
  induction ns generalizing g with
  | nil => exact ⟨trivial, h⟩
  | cons n ns ih =>
    obtain ⟨hahead, hbehind, hrest⟩ := h
    obtain ⟨h1, h2⟩ := ih hrest
    exact ⟨⟨hahead, hbehind, h1⟩, h2⟩

/-- The session has seen numbers up to `g`, and `m` when it was `sess₀`. -/
structure Tracks (sess₀ : SeqSession) (m g : ℤ) (sess : SeqSession) : Prop where
  probation : sess.probation = 0
  maxSeq : sess.maxSeq = wire g
  baseSeq : sess.baseSeq = sess₀.baseSeq
  extSeq : sess.extSeq = sess₀.extSeq + extend (g - m)

/-- What the code reports for the packet `n` when `g` is the greatest number before it. -/
structure Reported (g n : ℤ) (st : Status) : Prop where
  good : st.bad = false ∧ st.restart = false ∧ st.probation = false
  dup : st.dup = true ↔ n = g
  outorder : st.outorder = true ↔ n < g
  diff : (st.diff.toNat : ℤ) = max g n - g

lemma extend_add (d e : ℤ) : extend d + extend e = extend (d + e) := by
  have hd := extend_toNat d
  have he := extend_toNat e
  have hs := extend_toNat (d + e)
  apply UInt32.toNat_inj.mp
  rw [UInt32.toNat_add]
  omega

variable {m : ℤ}

lemma Tracks.update {sess₀ sess : SeqSession} {g n : ℤ} (h : Tracks sess₀ m g sess)
    (hahead : n - g < 3000) (hbehind : g - n < 100) :
    Tracks sess₀ m (max g n) (sess.next (wire n)) ∧ Reported g n (sess.seqUpdate (wire n)).2 := by
  unfold SeqSession.next
  rcases lt_trichotomy n g with hlt | rfl | hlt
  · rw [seqUpdate_behind h.probation h.maxSeq hlt hbehind, max_eq_left hlt.le]
    exact ⟨h, ⟨rfl, rfl, rfl⟩, by simp [hlt.ne], by simp [hlt], by simp [hlt.le]⟩
  · rw [seqUpdate_same h.probation h.maxSeq, max_self]
    exact ⟨h, ⟨rfl, rfl, rfl⟩, by simp, by simp, by simp⟩
  · rw [seqUpdate_ahead h.probation h.maxSeq hlt hahead, max_eq_right hlt.le]
    refine ⟨⟨h.probation, rfl, h.baseSeq, ?_⟩, ⟨rfl, rfl, rfl⟩, by simp [hlt.ne'], by simp [hlt.le], ?_⟩
    · rw [extSeq_ahead h.maxSeq hlt hahead, h.extSeq, UInt32.add_assoc, extend_add,
        show g - m + (n - g) = n - m by omega]
    · have hd := wire_sub_toNat g n
      rw [max_eq_right hlt.le, hd]
      omega

lemma Tracks.run {sess₀ : SeqSession} (ns : List ℤ) {g : ℤ} {sess : SeqSession}
    (h : Tracks sess₀ m g sess) (hns : Steady g ns) :
    Tracks sess₀ m (ns.foldl max g) (Transition.run SeqSession.next sess (ns.map wire)) := by
  induction ns generalizing g sess with
  | nil => exact h
  | cons n ns ih =>
    obtain ⟨hahead, hbehind, hrest⟩ := hns
    exact ih (h.update hahead hbehind).1 hrest

/-- The packet `m` has ended the probation of the source. What came before it, in whatever
order, was flagged as in probation, and the numbers are counted from it. -/
def AfterProbation (m : ℤ) (sess : SeqSession) : Prop :=
  ∃ (sess₀ : SeqSession) (first : UInt16) (pre : List UInt16),
    (Transition.run SeqSession.next (sess₀.seqInit first) pre).probation ≠ 0 ∧
    sess = (Transition.run SeqSession.next (sess₀.seqInit first) pre).next (wire m) ∧
    sess.probation = 0

lemma next_probation {sess : SeqSession} {seq : UInt16} (h : (sess.next seq).probation ≠ 0) :
    sess.probation ≠ 0 ∧ (sess.next seq).cycles = sess.cycles := by
  unfold SeqSession.next SeqSession.seqUpdate at *
  by_cases hp : sess.probation = 0
  · simp only [hp, ne_eq, not_true_eq_false, if_false] at h
    split_ifs at h <;> simp [hp, SeqSession.seqRestart] at h
  · refine ⟨hp, ?_⟩
    simp only [ne_eq, hp, not_false_eq_true, if_true]
    split_ifs <;> rfl

lemma run_probation {sess : SeqSession} (h0 : sess.cycles = 0) (pre : List UInt16)
    (h : (Transition.run SeqSession.next sess pre).probation ≠ 0) :
    (Transition.run SeqSession.next sess pre).cycles = 0 := by
  induction pre using List.reverseRecOn with
  | nil => exact h0
  | append_singleton pre seq ih =>
    rw [run_append, run_cons, run_nil] at h ⊢
    obtain ⟨hne, hc⟩ := next_probation h
    exact hc.trans (ih hne)

lemma AfterProbation.start {sess : SeqSession} (h : AfterProbation m sess) :
    sess.maxSeq = wire m ∧ sess.baseSeq = (wire m).toUInt32 ∧ sess.cycles = 0 := by
  obtain ⟨sess₀, first, pre, hne, rfl, hend⟩ := h
  have hinit : (sess₀.seqInit first).cycles = 0 := rfl
  have hc := run_probation hinit pre hne
  generalize Transition.run SeqSession.next (sess₀.seqInit first) pre = s at hne hend hc
  unfold SeqSession.next SeqSession.seqUpdate at hend ⊢
  simp only [hne, ne_eq, not_false_eq_true, if_true] at hend ⊢
  split_ifs at hend ⊢
  · exact ⟨rfl, rfl, hc⟩
  · rename_i hlast
    exact absurd hend hlast
  · exact absurd (show minSequential - 1 = 0 from hend) (by decide)

lemma AfterProbation.tracks {sess : SeqSession} (h : AfterProbation m sess) : Tracks sess m m sess := by
  have hend : sess.probation = 0 := by
    obtain ⟨_, _, _, -, -, hend⟩ := h
    exact hend
  refine ⟨hend, h.start.1, rfl, ?_⟩
  rw [sub_self, show extend 0 = 0 from rfl, UInt32.add_zero]

/-- After the probation, a stream without jumps is reported as it is: each packet is a
duplicate, out of order or in order as its number is equal to, below or above the greatest one
before it, `diff` is what it adds to that, and `cycles + max_seq` is the greatest number
counted from the base. -/
theorem seq_tracking {m : ℤ} {sess : SeqSession} (h : AfterProbation m sess)
    (before after : List ℤ) (n : ℤ) (hs : Steady m (before ++ n :: after)) : Reported (before.foldl max m) n
      ((Transition.run SeqSession.next sess (before.map wire)).seqUpdate (wire n)).2 ∧
    ((Transition.run SeqSession.next sess ((before ++ [n]).map wire)).extSeq - sess.baseSeq =
      extend ((before ++ [n]).foldl max m - m)) ∧
    (Transition.run SeqSession.next sess ((before ++ [n]).map wire)).baseSeq = sess.baseSeq := by
  obtain ⟨hbefore, hahead, hbehind, -⟩ := hs.append
  obtain ⟨htracks, hst⟩ := (h.tracks.run before hbefore).update hahead hbehind
  obtain ⟨hmax, hbase, hcycles⟩ := h.start
  have hstart : sess.extSeq = sess.baseSeq := by
    rw [SeqSession.extSeq, hcycles, hmax, hbase, UInt32.zero_add]
  rw [List.map_append, run_append, List.foldl_append]
  refine ⟨hst, ?_, htracks.baseSeq⟩
  refine (congrArg (· - sess.baseSeq) htracks.extSeq).trans ?_
  rw [hstart, UInt32.add_comm, UInt32.add_sub_cancel]
  rfl

/-- A source that starts at 65533, with a packet late over the wrap-around. -/
theorem seq_tracking_wrap : AfterProbation 65534 ⟨65534, 0, 65534, 65537, 0⟩ ∧
    Reported 65537 65535 ((Transition.run SeqSession.next ⟨65534, 0, 65534, 65537, 0⟩
      ([65537].map wire)).seqUpdate (wire 65535)).2 := by
  have h : AfterProbation 65534 ⟨65534, 0, 65534, 65537, 0⟩ :=
    ⟨⟨0, 0, 0, 0, 0⟩, 65533, [65533], by decide, by decide, rfl⟩
  exact ⟨h, (seq_tracking h [65537] [] 65535
    ⟨by decide, by decide, by decide, by decide, trivial⟩).1⟩

end PjProject.Rtp
