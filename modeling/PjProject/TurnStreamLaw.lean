import PjProject.TurnStreamRead

/-!
# TURN over a stream transport: independence of the segmentation

The messages of a stream are given to the session exactly as they are sent if and only if
every read meets a condition on where it ends: it completes the first message it works on,
nothing stands behind a message that the session rejects, and what follows a cut inside
padding stays inside it.
-/
namespace PjProject.TurnStream

open ByteOrder

variable {σ : Type} {S : Session σ}

/-- The packet at offset `o` has not been handed over and its bytes are gone. -/
structure Lost (k : Sock σ) (o : ℕ) : Prop where
  unseen : ∀ e ∈ k.handed, e.1 ≠ o
  passed : o + k.buf.length < k.received

lemma offset_mem_oneByOne {s : σ} (h : S.alive s = true) (off : ℕ) (m : Msg) (ms : List Msg) :
    off ∈ (oneByOne S s off (m :: ms)).2.map Prod.fst := by
  simp [oneByOne_cons h]

variable {ms : List Msg} {future : Bytes}

lemma stream_ne_nil {x pad : Bytes}
    (hx : x ++ future = pad ++ stream ms) (hlt : pad.length < x.length) : ∃ m ms', ms = m :: ms' := by
  cases ms with
  | nil =>
    have := congrArg List.length hx
    simp only [stream, List.flatMap_nil, List.length_append, List.append_nil] at this
    omega
  | cons m ms' => exact ⟨m, ms', rfl⟩

variable {data : Bytes} {k : Sock σ} {off : ℕ}

lemma readLoop_none (n : ℕ) {fresh : Bool} (hn : data.length ≤ n) (hdata : data ++ future = stream ms)
    (hbuf : k.buf = if fresh then [] else data) (hoff : k.received = off + data.length)
    (hbelow : ∀ e ∈ k.handed, e.1 < off) (h : takeRead S k.sess ms data.length fresh = none) :
    ∃ o ∈ (oneByOne S k.sess off ms).2.map Prod.fst, Lost (readLoop S n data k) o := by
  induction n generalizing data ms k fresh off with
  | zero =>
    have hnil : data = [] := List.eq_nil_of_length_eq_zero (by omega)
    cases ms with
    | nil => simp [takeRead] at h
    | cons m ms =>
      have := m.header
      simp only [takeRead, hnil, List.length_nil, ne_eq, not_true_eq_false, decide_false,
        Bool.and_false, Bool.false_eq_true, if_false] at h
      rw [if_pos (show 0 < m.content.length by omega)] at h
      split at h <;> cases h
  | succ n ih =>
    cases ms with
    | nil => simp [takeRead] at h
    | cons m ms =>
      cases halive : S.alive k.sess with
      | false => simp [takeRead, halive] at h
      | true =>
        obtain ⟨hlt, z, hz⟩ | ⟨x, rfl, hx⟩ := prefix_cases hdata
        · simp only [takeRead, halive, Bool.not_true, Bool.false_eq_true, if_false,
            if_pos hlt] at h
          split at h
          next hfresh =>
            simp only [Bool.and_eq_true, ne_eq, decide_eq_true_eq] at hfresh
            rw [readLoop_idle (.inr (m.hasPacket_partial hz hlt))]
            refine ⟨off, offset_mem_oneByOne halive off m ms, ⟨?_, ?_⟩⟩
            · intro e he
              exact (hbelow e he).ne
            · rw [hbuf, if_pos hfresh.1, hoff, List.length_nil]
              omega
          · cases h
        · have hge : ¬ (m.content ++ x).length < m.content.length := by simp
          have hpos := m.bytes_pos
          rw [readLoop_round halive hoff, oneByOne_cons halive]
          simp only [takeRead, halive, Bool.not_true, Bool.false_eq_true, if_false,
            if_neg hge] at h
          have hbelow' : ∀ e ∈ k.handed ++ [(off, m.content)], e.1 < off + m.bytes.length := by
            intro e he
            simp only [List.mem_append, List.mem_singleton] at he
            obtain he | rfl := he
            · exact (hbelow e he).trans_le (Nat.le_add_right _ _)
            · simpa using hpos
          split at h
          · cases h
          next hr =>
            have hr' : S.alive (onRxPkt S k.sess m.bytes).1 = true := by simpa using hr
            split at h
            · cases h
            next hle =>
              cases hsome : (onRxPkt S k.sess m.bytes).2 with
              | none =>
                have hbytes := m.bytes_length
                have hlong : m.pad.length < x.length := by
                  simp only [List.length_append] at hle
                  omega
                obtain ⟨m', ms', rfl⟩ := stream_ne_nil hx hlong
                refine ⟨off + m.bytes.length, ?_, ?_⟩
                · exact List.mem_cons_of_mem _ (offset_mem_oneByOne hr' _ m' ms')
                · simp only [Option.elim_none, List.drop_length]
                  rw [readLoop_idle (.inr hasPacket_nil)]
                  refine ⟨fun e he => (hbelow' e he).ne, ?_⟩
                  simp only [handOver, List.length_nil]
                  omega
              | some parsed =>
                simp only [hsome, Option.isNone_some, Bool.false_eq_true, if_false] at h
                have hlen : ((m.content ++ x).drop m.bytes.length).length =
                    (m.content ++ x).length - m.bytes.length := List.length_drop
                have hrest : (handOver S k off m ((m.content ++ x).drop m.bytes.length)).buf =
                    if false then [] else (m.content ++ x).drop m.bytes.length := rfl
                obtain ⟨o, ho, hlost⟩ := ih (by rw [hlen]; omega) (drop_bytes hx hle) hrest
                  (show k.received = off + m.bytes.length + _ by rw [hlen]; omega) hbelow'
                  (by rw [hlen]; exact h)
                exact ⟨o, List.mem_cons_of_mem _ ho, hlost⟩

lemma readLoop_base (n : ℕ) (hdata : data.length ≤ k.received) (hbuf : k.buf.length ≤ data.length) :
    (∀ e ∈ (readLoop S n data k).handed, e ∈ k.handed ∨ k.received - data.length ≤ e.1) ∧
      (readLoop S n data k).buf.length ≤ data.length ∧ (readLoop S n data k).received = k.received := by
  induction n generalizing data k with
  | zero => exact ⟨fun e he => .inl he, hbuf, rfl⟩
  | succ n ih =>
    by_cases hcond : (S.alive k.sess && decide (hasPacket data ≠ 0)) = true
    · rw [readLoop, if_pos hcond]
      have hlen : (data.drop (parsedLength data (onRxPkt S k.sess data).2)).length ≤
          data.length := by
        rw [List.length_drop]
        omega
      obtain ⟨hhanded, hkept, hreceived⟩ := ih
        (k := { k with
          sess := (onRxPkt S k.sess data).1
          buf := data.drop (parsedLength data (onRxPkt S k.sess data).2)
          handed := k.handed ++
            [(k.received - data.length, data.take (contentLength data))] })
        (hlen.trans hdata) le_rfl
      refine ⟨fun e he => ?_, hkept.trans hlen, hreceived⟩
      obtain hold | hnew := hhanded e he
      · simp only [List.mem_append, List.mem_singleton] at hold
        obtain hold | rfl := hold
        · exact .inl hold
        · exact .inr le_rfl
      · right
        simp only at hnew
        omega
    · rw [readLoop, if_neg hcond]
      exact ⟨fun e he => .inl he, hbuf, rfl⟩

variable {o : ℕ}

lemma Lost.onDataRead (h : Lost (readLoop S data.length data { k with buf := [] }) o) :
    Lost (onDataRead S data k) o := by
  unfold TurnStream.onDataRead
  dsimp only
  split
  · exact h
  · refine ⟨h.unseen, ?_⟩
    have := h.passed
    simp only [List.length_nil]
    omega

lemma Lost.read (h : Lost k o) (chunk : Bytes) : Lost (TurnStream.read S k chunk) o := by
  have hpassed := h.passed
  have hdata : (k.buf ++ chunk).length ≤ k.received + chunk.length := by
    simp only [List.length_append]
    omega
  obtain ⟨hhanded, hkept, hreceived⟩ := readLoop_base (S := S) (k.buf ++ chunk).length
    (k := { k with received := k.received + chunk.length, buf := [] }) hdata (Nat.zero_le _)
  refine Lost.onDataRead ⟨fun e he => ?_, ?_⟩
  · obtain hold | hnew := hhanded e he
    · exact h.unseen e hold
    · simp only [List.length_append] at hnew
      omega
  · rw [hreceived]
    simp only [List.length_append] at hkept ⊢
    omega

lemma Lost.reads (h : Lost k o) (chunks : List Bytes) :
    Lost (Transition.run (TurnStream.read S) k chunks) o := by
  induction chunks generalizing k with
  | nil => exact h
  | cons chunk chunks ih => exact ih (h.read chunk)

lemma Lost.not_handed (h : Lost k o) {target : List (ℕ × Bytes)}
    (ho : o ∈ target.map Prod.fst) : k.handed ≠ target := by
  rintro rfl
  obtain ⟨e, he, rfl⟩ := List.mem_map.mp ho
  exact h.unseen e he rfl

lemma lost_skip (n : ℕ) {skip : ℕ} (hskip : skip < 4)
    (hbuf : k.buf = []) (hlong : skip < data.length) (hdata : data.length ≤ k.received)
    (ho : k.received + skip = o + data.length)
    (hbelow : ∀ e ∈ k.handed, e.1 < o) (hpos : 0 < skip) : Lost (readLoop S n data k) o := by
  cases n with
  | zero =>
    refine ⟨fun e he => (hbelow e he).ne, ?_⟩
    simp only [readLoop, hbuf, List.length_nil]
    omega
  | succ n =>
    by_cases hcond : (S.alive k.sess && decide (hasPacket data ≠ 0)) = true
    · rw [readLoop, if_pos hcond]
      have hfour : 4 ≤ parsedLength data (onRxPkt S k.sess data).2 := by
        simp only [Bool.and_eq_true, decide_eq_true_eq] at hcond
        exact four_le_parsedLength hcond.2 k.sess
      have hlen : (data.drop (parsedLength data (onRxPkt S k.sess data).2)).length =
          data.length - parsedLength data (onRxPkt S k.sess data).2 := List.length_drop
      have hrest : (data.drop (parsedLength data (onRxPkt S k.sess data).2)).length ≤
          k.received := by
        rw [hlen]
        omega
      obtain ⟨hhanded, hkept, hreceived⟩ := readLoop_base (S := S) n
        (k := { k with
          sess := (onRxPkt S k.sess data).1
          buf := data.drop (parsedLength data (onRxPkt S k.sess data).2)
          handed := k.handed ++
            [(k.received - data.length, data.take (contentLength data))] })
        hrest le_rfl
      refine ⟨fun e he => ?_, ?_⟩
      · obtain hold | hnew := hhanded e he
        · simp only [List.mem_append, List.mem_singleton] at hold
          obtain hold | rfl := hold
          · exact (hbelow e hold).ne
          · simp only
            omega
        · rw [hlen] at hnew
          simp only at hnew
          omega
      · rw [hlen] at hkept
        have hlt : o + (data.length - parsedLength data (onRxPkt S k.sess data).2) <
            k.received := by omega
        exact (Nat.add_le_add_left hkept o).trans_lt (hlt.trans_eq hreceived.symm)
    · rw [readLoop, if_neg hcond]
      refine ⟨fun e he => (hbelow e he).ne, ?_⟩
      simp only [hbuf, List.length_nil]
      omega

lemma onDataRead_idle (h : S.alive k.sess = false ∨ hasPacket data = 0) :
    onDataRead S data k = { k with buf := [] } := by
  have hloop : readLoop S data.length data { k with buf := [] } = { k with buf := [] } :=
    readLoop_idle h
  unfold onDataRead
  rw [hloop]
  dsimp only
  split <;> rfl

variable {target : σ × List (ℕ × Bytes)}

lemma Agrees.onDataRead {q : Pos σ}
    (h : Agrees S (readLoop S data.length data { k with buf := [] }) q off target) :
    Agrees S (onDataRead S data k) q off target := by
  unfold TurnStream.onDataRead
  dsimp only
  split
  · exact h
  · exact ⟨h.sess, h.final, h.handed, h.below⟩

lemma Agrees.reached_onDataRead {q : Pos σ}
    (hagrees : Agrees S (readLoop S data.length data { k with buf := [] }) q off target)
    (halive : S.alive q.sess = true)
    (h : Reached (readLoop S data.length data { k with buf := [] }) q future off) :
    Reached (TurnStream.onDataRead S data k) q future off := by
  unfold TurnStream.onDataRead
  dsimp only
  rw [if_pos (by rw [hagrees.sess]; exact halive)]
  exact h

variable {p : Pos σ}

lemma fits_dead (h : S.alive p.sess = false) (ns : List ℕ) : Fits S p ns := by
  cases ns with
  | nil => trivial
  | cons n ns => simp [Fits, h]

lemma Reached.end_of_stream (h : Reached k p [] off) : p.rest = [] := by
  obtain ⟨pad, hpad, haligned⟩ := h.aligned
  have hlen := congrArg List.length haligned
  simp only [List.append_nil, List.length_append] at hlen
  by_contra hne
  obtain ⟨m, ms, hrest⟩ := List.exists_cons_of_ne_nil hne
  have hshort := h.short m (by simp [hrest])
  have hstream : (stream p.rest).length = m.bytes.length + (stream ms).length := by
    simp [hrest, stream]
  have hbytes := m.bytes_length
  omega

variable {chunks : List Bytes}

lemma run_reads_skip {chunk : Bytes} (ih : ∀ {k : Sock σ} {p : Pos σ} {off : ℕ}, Agrees S k p off target →
      (S.alive p.sess = true → Reached k p chunks.flatten off) →
      (((Transition.run (read S) k chunks).sess = target.1 ∧
        (Transition.run (read S) k chunks).handed = target.2) ↔ Fits S p (chunks.map List.length)))
    (hagrees : Agrees S k p off target) (hat : Reached k p (chunk :: chunks).flatten off)
    (halive : S.alive p.sess = true) (hskip : 0 < p.skip) :
    ((Transition.run (read S) (read S k chunk) chunks).sess = target.1 ∧
      (Transition.run (read S) (read S k chunk) chunks).handed = target.2) ↔
      Fits S p (chunk.length :: chunks.map List.length) := by
  obtain ⟨pad, hpad, haligned⟩ := hat.aligned
  have hbuf := hat.skipping hskip
  have hreceived := hat.received
  have hlt := hat.skip_lt
  rw [hbuf, List.flatten_cons, List.nil_append] at haligned
  simp only [hbuf, List.length_nil, Nat.add_zero] at hreceived
  rw [Fits, if_neg (by simp [halive]), if_pos hskip]
  by_cases hle : chunk.length ≤ p.skip
  · have hidle : hasPacket chunk = 0 := by
      rw [hasPacket, if_pos (by omega)]
    have hread : read S k chunk = { k with received := k.received + chunk.length, buf := [] } := by
      unfold read
      rw [hbuf]
      exact onDataRead_idle (.inr hidle)
    rw [and_iff_right hle, hread]
    refine ih ⟨hagrees.sess, hagrees.final, hagrees.handed, hagrees.below⟩ fun _ => ?_
    refine ⟨?_, ?_, ?_, ⟨pad.drop chunk.length, ?_, ?_⟩, fun _ => rfl, ?_⟩
    · rw [hat.kept, hbuf]
    · simp only
      omega
    · simp only [List.length_nil]
      omega
    · simp only [List.length_drop]
      omega
    · have := congrArg (List.drop chunk.length) haligned
      rwa [List.drop_left, List.drop_append_of_le_length (by omega)] at this
    · intro m _
      have := m.header
      simp only [List.length_nil]
      omega
  · refine iff_of_false (fun hrun => ?_) fun hfits => hle hfits.1
    obtain ⟨m, ms, hrest⟩ := stream_ne_nil haligned (by omega)
    have hmem : off ∈ target.2.map Prod.fst := by
      rw [← hagrees.handed, List.map_append, hrest]
      exact List.mem_append_right _ (offset_mem_oneByOne halive off m ms)
    have hlost : Lost (read S k chunk) off := by
      unfold read
      rw [hbuf, List.nil_append]
      refine Lost.onDataRead (lost_skip _ hlt rfl (by omega) ?_ ?_ hagrees.below hskip)
      · exact Nat.le_add_left _ _
      · simp only
        omega
    exact (hlost.reads chunks).not_handed hmem hrun.2

lemma run_reads_iff (hagrees : Agrees S k p off target)
    (hreached : S.alive p.sess = true → Reached k p chunks.flatten off) :
    ((Transition.run (read S) k chunks).sess = target.1 ∧
      (Transition.run (read S) k chunks).handed = target.2) ↔ Fits S p (chunks.map List.length) := by
  induction chunks generalizing k p off with
  | nil =>
    simp only [Transition.run_nil, List.map_nil, Fits, iff_true]
    have hdone : oneByOne S p.sess off p.rest = (p.sess, []) := by
      cases halive : S.alive p.sess with
      | false => exact oneByOne_dead halive off p.rest
      | true =>
        rw [(hreached halive).end_of_stream]
        rfl
    have hfinal := hagrees.final
    have hhanded := hagrees.handed
    rw [hdone] at hfinal hhanded
    exact ⟨hagrees.sess.trans hfinal, by simpa using hhanded⟩
  | cons chunk chunks ih =>
    simp only [Transition.run_cons, List.map_cons]
    cases halive : S.alive p.sess with
    | false =>
      have hread : read S k chunk =
          { k with received := k.received + chunk.length, buf := [] } :=
        onDataRead_idle (.inl (by rw [hagrees.sess]; exact halive))
      have hagrees' : Agrees S (read S k chunk) p off target := by
        rw [hread]
        exact ⟨hagrees.sess, hagrees.final, hagrees.handed, hagrees.below⟩
      rw [ih hagrees' fun hp => absurd hp (by simp [halive])]
      exact iff_of_true (fits_dead halive _) (fits_dead halive _)
    | true =>
      have hat := hreached halive
      obtain ⟨pad, hpad, haligned⟩ := hat.aligned
      have hreceived := hat.received
      rw [List.flatten_cons] at haligned
      by_cases hskip : 0 < p.skip
      · exact run_reads_skip ih hagrees hat halive hskip
      · have hzero : p.skip = 0 := by omega
        have hnil : pad = [] := List.eq_nil_of_length_eq_zero (hpad.trans hzero)
        have hdata : (k.buf ++ chunk) ++ chunks.flatten = stream p.rest := by
          simpa [hnil] using haligned
        have hoff : k.received + chunk.length = off + (k.buf ++ chunk).length := by
          simp only [List.length_append]
          omega
        have hstart : Agrees S { k with received := k.received + chunk.length, buf := [] }
            ⟨p.sess, 0, p.rest, 0⟩ off target :=
          ⟨hagrees.sess, hagrees.final, hagrees.handed, hagrees.below⟩
        have hn : p.kept + chunk.length = (k.buf ++ chunk).length := by
          rw [hat.kept, List.length_append]
        rw [Fits, if_neg (by simp [halive]), if_neg hskip, hn, ← hagrees.sess]
        rw [← hagrees.sess] at hstart
        cases htake : takeRead S k.sess p.rest (k.buf ++ chunk).length true with
        | some q =>
          obtain ⟨off', hagrees', hreached'⟩ := readLoop_some
            (k := { k with received := k.received + chunk.length, buf := [] })
            (k.buf ++ chunk).length le_rfl hdata rfl hoff hstart htake
          exact ih hagrees'.onDataRead fun hq => hagrees'.reached_onDataRead hq (hreached' hq)
        | none =>
          obtain ⟨o, ho, hlost⟩ := readLoop_none
            (k := { k with received := k.received + chunk.length, buf := [] })
            (k.buf ++ chunk).length le_rfl hdata rfl hoff hagrees.below htake
          refine iff_of_false (fun hrun => ?_) id
          have hmem : o ∈ target.2.map Prod.fst := by
            rw [← hstart.handed, List.map_append]
            exact List.mem_append_right _ ho
          exact (hlost.onDataRead.reads chunks).not_handed hmem hrun.2

lemma reads_oneByOne_iff (S : Session σ) (s : σ) (hcut : chunks.flatten = stream ms) :
    ((Transition.run (read S) (start s) chunks).sess = (oneByOne S s 0 ms).1 ∧
      (Transition.run (read S) (start s) chunks).handed = (oneByOne S s 0 ms).2) ↔
      Fits S ⟨s, 0, ms, 0⟩ (chunks.map List.length) := by
  refine run_reads_iff ⟨rfl, rfl, rfl, by simp [start]⟩ fun _ =>
    ⟨rfl, by simp, rfl, ⟨[], rfl, by simpa [start] using hcut⟩, fun _ => rfl, ?_⟩
  intro m _
  have := m.header
  simp only [start, List.length_nil]
  omega

lemma fits_own_reads (s : σ) (ms : List Msg) : Fits S ⟨s, 0, ms, 0⟩ (ms.map fun m => m.bytes.length) := by
  induction ms generalizing s with
  | nil => trivial
  | cons m ms ih =>
    cases halive : S.alive s with
    | false => exact fits_dead halive _
    | true =>
      have hbytes := m.bytes_length
      have hge : ¬ 0 + m.bytes.length < m.content.length := by omega
      have hle : 0 + m.bytes.length ≤ m.bytes.length := by omega
      simp only [List.map_cons, Fits, halive, Bool.not_true, Bool.false_eq_true, if_false,
        lt_irrefl, takeRead, if_neg hge, if_pos hle]
      split
      next hnone =>
        split at hnone <;> cases hnone
      next q hsome =>
        split at hsome
        next hdead =>
          obtain rfl := Option.some.inj hsome
          exact fits_dead (by simpa using hdead) _
        · obtain rfl := Option.some.inj hsome
          simpa using ih _

lemma own_reads (S : Session σ) (s : σ) (ms : List Msg) :
    (Transition.run (read S) (start s) (ms.map Msg.bytes)).sess = (oneByOne S s 0 ms).1 ∧
      (Transition.run (read S) (start s) (ms.map Msg.bytes)).handed = (oneByOne S s 0 ms).2 := by
  refine (reads_oneByOne_iff S s ?_).mpr ?_
  · simp [stream, List.flatMap]
  · rw [List.map_map]
    exact fits_own_reads s ms

/-- The messages are handed over in order, each at its place in the stream, and the session
and the application end as if each message had come in a read of its own. -/
structure SegmentationFree (S : Session σ) (s : σ) (ms : List Msg) (chunks : List Bytes) :
    Prop where
  handed : (Transition.run (read S) (start s) chunks).handed = (oneByOne S s 0 ms).2
  sess : (Transition.run (read S) (start s) chunks).sess =
    (Transition.run (read S) (start s) (ms.map Msg.bytes)).sess

/-- A stream of messages cut into reads is handed over as it should be exactly when the
lengths of the reads fit. -/
theorem segmentationFree_iff_fits (S : Session σ) (s : σ) (ms : List Msg) (chunks : List Bytes)
    (hcut : chunks.flatten = stream ms) :
    SegmentationFree S s ms chunks ↔ Fits S ⟨s, 0, ms, 0⟩ (chunks.map List.length) := by
  rw [← reads_oneByOne_iff S s hcut]
  constructor
  · intro h
    exact ⟨h.sess.trans (own_reads S s ms).1, h.handed⟩
  · rintro ⟨hsess, hhanded⟩
    exact ⟨hhanded, hsess.trans (own_reads S s ms).1.symm⟩

def collector : Session (List Bytes) where
  alive _ := true
  stun s pkt := (s, some (lengthField pkt + 20))
  bound _ ch := ch = 0x4000
  onRxData s _ payload := s ++ [payload]
  stun_parsed s pkt n h := (Option.some.inj h).symm
  stun_append s pkt rest h := by rw [lengthField_append (by omega)]

/-- ChannelData with one byte of payload on the bound channel, and with four bytes on a
channel that is not known. -/
def shortData : Msg := ⟨[0x40, 0, 0, 1, 7], [0, 0, 0], by decide, by decide⟩

def unknownData : Msg := ⟨[0x40, 1, 0, 4, 1, 2, 3, 4], [], by decide, by decide⟩

/-- Two messages, the first cut inside its padding, and the padding in a read of its own. -/
theorem segmentationFree_cut : [[0x40, 0, 0, 1, 7], [0, 0, 0], [0x40, 0, 0, 1, 7, 0, 0, 0]].flatten =
        stream [shortData, shortData] ∧ (SegmentationFree collector [] [shortData, shortData]
          [[0x40, 0, 0, 1, 7], [0, 0, 0], [0x40, 0, 0, 1, 7, 0, 0, 0]] ↔
        Fits collector ⟨[], 0, [shortData, shortData], 0⟩ [5, 3, 8]) :=
  ⟨by decide, segmentationFree_iff_fits collector [] [shortData, shortData] _ (by decide)⟩

/-- A message on an unknown channel takes the rest of its read with it, a message that is
not complete is dropped, and a cut inside padding shifts the rest of the stream. -/
theorem messages_lost : ¬ SegmentationFree collector [] [unknownData, shortData]
        [stream [unknownData, shortData]] ∧
      ¬ SegmentationFree collector [] [shortData] [[0x40, 0], [0, 1, 7, 0, 0, 0]] ∧
      ¬ SegmentationFree collector [] [shortData, shortData]
        [[0x40, 0, 0, 1, 7], [0, 0, 0, 0x40, 0, 0, 1, 7, 0, 0, 0]] := by
  refine ⟨fun h => ?_, fun h => ?_, fun h => ?_⟩
  · exact absurd h.sess (by decide +kernel)
  · exact absurd h.sess (by decide +kernel)
  · exact absurd h.sess (by decide +kernel)

end PjProject.TurnStream
