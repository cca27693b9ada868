import PjProject.TurnStream

/-!
# TURN over a stream transport: one read

How the loop of `on_data_read` takes the messages of a buffer that begins at a message.
`takeRead` computes from lengths alone where a read ends up, or that it loses bytes.
-/
namespace PjProject.TurnStream

open ByteOrder

variable {σ : Type} {S : Session σ} {buf : Bytes}

lemma isStun_append (h : 4 ≤ buf.length) (x : Bytes) : isStun (buf ++ x) = isStun buf := by
  rw [isStun, byteAt_append_left buf x 0 (by omega), isStun]

lemma lengthField_append (h : 4 ≤ buf.length) (x : Bytes) : lengthField (buf ++ x) = lengthField buf := by
  rw [lengthField, get16_append_left buf x 2 (by omega), lengthField]

lemma Msg.content_length (m : Msg) : m.content.length = contentLength m.content := by
  have h := m.framed
  unfold contentLength
  cases hs : isStun m.content <;> simp only [hs, Bool.false_eq_true, if_false, if_true] at h
  · simpa using h.1
  · simpa [h.1] using h.2.1

lemma Msg.pad_length (m : Msg) : m.pad.length < 4 := by
  have h := m.framed
  have hle := m.header
  split at h
  · simp [h.2.2]
  · obtain ⟨-, hpad⟩ := h
    unfold align4 at hpad
    omega

lemma Msg.bytes_length (m : Msg) : m.bytes.length = m.content.length + m.pad.length := by
  simp [Msg.bytes]

lemma contentLength_append (h : 4 ≤ buf.length) (x : Bytes) :
    contentLength (buf ++ x) = contentLength buf := by
  simp only [contentLength, isStun_append h, lengthField_append h]

lemma Msg.hasPacket_append (m : Msg) (x : Bytes) : hasPacket (m.content ++ x) = m.bytes.length := by
  have h := m.framed
  have hle := m.header
  have hlong : ¬ m.content.length + x.length < 4 := by omega
  rw [m.bytes_length]
  simp only [hasPacket, List.length_append, if_neg hlong, isStun_append hle,
    lengthField_append hle]
  cases hs : isStun m.content <;> simp only [hs, Bool.false_eq_true, if_false, if_true] at h
  · have hfits : lengthField m.content + 4 ≤ m.content.length + x.length := by omega
    simp only [Bool.false_and, Bool.false_eq_true, if_false, if_pos hfits]
    rw [h.2, h.1]
  · have hfits : lengthField m.content + 20 ≤ m.content.length + x.length := by omega
    simp only [h.1, decide_true, Bool.and_self, if_true, if_pos hfits, h.2.2, List.length_nil]
    omega

lemma Msg.hasPacket_partial (m : Msg) {y z : Bytes} (h : y ++ z = m.content)
    (hz : y.length < m.content.length) : hasPacket y = 0 := by
  unfold hasPacket
  split
  · rfl
  next hlong =>
    have hle : 4 ≤ y.length := by omega
    have hcontent := m.content_length
    rw [← h, contentLength_append hle, h, contentLength] at hcontent
    split
    next hs =>
      rw [if_pos hs] at hcontent
      rw [if_neg (by omega)]
    next hs =>
      rw [if_neg hs] at hcontent
      rw [if_neg (by omega)]

lemma Msg.onRxPkt_append (m : Msg) (s : σ) (x : Bytes) :
    onRxPkt S s (m.content ++ x) = onRxPkt S s m.content := by
  have h := m.framed
  have hle := m.header
  simp only [onRxPkt, isStun_append hle, lengthField_append hle, List.length_append]
  cases hs : isStun m.content <;> simp only [hs, Bool.false_eq_true, if_false, if_true] at h ⊢
  · have hch := get16_append_left m.content x 0 (by omega)
    have hslice := slice_append_left m.content x 4 (lengthField m.content) (by omega)
    have hlong : ¬ m.content.length + x.length < 4 := by omega
    have hfits : ¬ m.content.length + x.length < lengthField m.content + 4 := by omega
    have hlong' : ¬ m.content.length < 4 := by omega
    have hfits' : ¬ m.content.length < lengthField m.content + 4 := by omega
    simp only [if_neg hlong, if_neg hfits, if_neg hlong', if_neg hfits', hch, hslice]
  · exact S.stun_append s m.content x h.2.1

lemma Msg.onRxPkt_bytes (m : Msg) (s : σ) (x : Bytes) :
    onRxPkt S s (m.content ++ x) = onRxPkt S s m.bytes := by
  rw [m.onRxPkt_append, Msg.bytes, m.onRxPkt_append]

variable {s : σ} {n : ℕ}

lemma Msg.onRxPkt_parsed (m : Msg) (h : (onRxPkt S s m.content).2 = some n) : n = m.bytes.length := by
  have hframed := m.framed
  rw [m.bytes_length]
  unfold onRxPkt at h
  cases hs : isStun m.content <;>
    simp only [hs, Bool.false_eq_true, if_false, if_true] at h hframed
  · split at h
    · cases h
    · split at h
      · cases h
      · split at h
        · obtain rfl := Option.some.inj h
          rw [hframed.2, hframed.1, align4_add_four]
        · cases h
  · rw [S.stun_parsed s m.content n h, hframed.2.2, hframed.2.1]
    simp

variable {data : Bytes}

lemma four_le_parsedLength (h : hasPacket data ≠ 0) (s : σ) : 4 ≤ parsedLength data (onRxPkt S s data).2 := by
  have hlen : 4 ≤ data.length := by
    by_contra hlt
    exact h (by rw [hasPacket, if_pos (by omega)])
  have hpacket : 4 ≤ hasPacket data := by
    unfold hasPacket align4 at h ⊢
    split_ifs at h ⊢ <;> omega
  unfold parsedLength
  split
  · exact hpacket
  next hne =>
    cases hr : (onRxPkt S s data).2 with
    | none => simpa using hlen
    | some n =>
      have hn : n ≠ 0 := by simpa [hr] using hne
      simp only [Option.getD_some]
      unfold onRxPkt at hr
      split at hr
      · have := S.stun_parsed s data n hr
        omega
      · split at hr
        · cases hr
        · split at hr
          · cases hr
          · split at hr
            · obtain rfl := Option.some.inj hr
              omega
            · cases hr

/-- Where a reader of the stream is: the state of the session, the padding bytes of the last
message that are still to come, the messages not handed over, and how many of their bytes
are kept. -/
structure Pos (σ : Type) where
  sess : σ
  skip : ℕ
  rest : List Msg
  kept : ℕ

/-- The effect of a read when `n` bytes of the messages are in the buffer, or `none` if
bytes get lost: a buffer without a finished message is dropped, and so is what stands
behind a message that the session rejects. `fresh` says that nothing was handed over in
this read so far. -/
def takeRead (S : Session σ) : σ → List Msg → ℕ → Bool → Option (Pos σ)
  | s, [], _, _ => some ⟨s, 0, [], 0⟩
  | s, m :: ms, n, fresh =>
    if !S.alive s then some ⟨s, 0, m :: ms, 0⟩
    else if n < m.content.length then
      if fresh && n ≠ 0 then none else some ⟨s, 0, m :: ms, n⟩
    else
      let r := onRxPkt S s m.bytes
      if !S.alive r.1 then some ⟨r.1, 0, ms, 0⟩
      else if n ≤ m.bytes.length then some ⟨r.1, m.bytes.length - n, ms, 0⟩
      else if r.2.isNone then none
      else takeRead S r.1 ms (n - m.bytes.length) false

def Fits (S : Session σ) : Pos σ → List ℕ → Prop
  | _, [] => True
  | p, n :: ns =>
    if !S.alive p.sess then True
    else if 0 < p.skip then n ≤ p.skip ∧ Fits S { p with skip := p.skip - n } ns
    else match takeRead S p.sess p.rest (p.kept + n) true with
      | none => False
      | some q => Fits S q ns

/-- The socket stands at a position of the stream: `future` is still to come and the next
message begins at `off`. -/
structure Reached (k : Sock σ) (p : Pos σ) (future : Bytes) (off : ℕ) : Prop where
  kept : p.kept = k.buf.length
  skip_lt : p.skip < 4
  received : k.received + p.skip = off + k.buf.length
  aligned : ∃ pad : Bytes, pad.length = p.skip ∧ k.buf ++ future = pad ++ stream p.rest
  skipping : 0 < p.skip → k.buf = []
  short : ∀ m ∈ p.rest.head?, k.buf.length < m.content.length

structure Agrees (S : Session σ) (k : Sock σ) (p : Pos σ) (off : ℕ)
    (target : σ × List (ℕ × Bytes)) : Prop where
  sess : k.sess = p.sess
  final : (oneByOne S p.sess off p.rest).1 = target.1
  handed : k.handed ++ (oneByOne S p.sess off p.rest).2 = target.2
  below : ∀ e ∈ k.handed, e.1 < off

lemma oneByOne_dead (h : S.alive s = false) (off : ℕ) (ms : List Msg) : oneByOne S s off ms = (s, []) := by
  cases ms with
  | nil => rfl
  | cons m ms => simp [oneByOne, h]

lemma oneByOne_cons (h : S.alive s = true) (off : ℕ) (m : Msg) (ms : List Msg) : oneByOne S s off (m :: ms) =
      ((oneByOne S (onRxPkt S s m.bytes).1 (off + m.bytes.length) ms).1, (off, m.content) ::
          (oneByOne S (onRxPkt S s m.bytes).1 (off + m.bytes.length) ms).2) := by
  simp [oneByOne, h]

variable {k : Sock σ}

lemma readLoop_idle (h : S.alive k.sess = false ∨ hasPacket data = 0) : readLoop S n data k = k := by
  cases n with
  | zero => rfl
  | succ n =>
    have hcond : ¬ (S.alive k.sess && decide (hasPacket data ≠ 0)) = true := by
      obtain h | h := h <;> simp [h]
    rw [readLoop, if_neg hcond]

lemma hasPacket_nil : hasPacket [] = 0 := by simp [hasPacket]

def handOver (S : Session σ) (k : Sock σ) (off : ℕ) (m : Msg) (rest : Bytes) : Sock σ :=
  { k with
    sess := (onRxPkt S k.sess m.bytes).1
    buf := rest
    handed := k.handed ++ [(off, m.content)] }

variable {m : Msg} {x : Bytes} {off : ℕ}

lemma readLoop_round
    (halive : S.alive k.sess = true) (hoff : k.received = off + (m.content ++ x).length) :
    readLoop S (n + 1) (m.content ++ x) k =
      let rest := (m.content ++ x).drop
        (((onRxPkt S k.sess m.bytes).2).elim (m.content ++ x).length fun _ => m.bytes.length)
      readLoop S n rest (handOver S k off m rest) := by
  have hle := m.header
  have hne : hasPacket (m.content ++ x) ≠ 0 := by
    rw [m.hasPacket_append, m.bytes_length]
    omega
  have hparsed : parsedLength (m.content ++ x) (onRxPkt S k.sess m.bytes).2 =
      ((onRxPkt S k.sess m.bytes).2).elim (m.content ++ x).length fun _ => m.bytes.length := by
    cases hr : (onRxPkt S k.sess m.bytes).2 with
    | none =>
      have hpos : (m.content ++ x).length ≠ 0 := by
        simp only [List.length_append]
        omega
      simp only [parsedLength, Option.getD_none, if_neg hpos, Option.elim_none]
    | some n =>
      have hn : n = m.bytes.length := by
        apply m.onRxPkt_parsed (S := S) (s := k.sess)
        rw [← m.onRxPkt_append k.sess m.pad]
        exact hr
      subst hn
      have hpos : m.bytes.length ≠ 0 := by
        rw [m.bytes_length]
        omega
      simp [parsedLength, hpos]
  have htake : (m.content ++ x).take (contentLength (m.content ++ x)) = m.content := by
    rw [contentLength_append hle, ← m.content_length, List.take_left]
  have hoff' : k.received - (m.content ++ x).length = off := by omega
  have hcond : (S.alive k.sess && decide (hasPacket (m.content ++ x) ≠ 0)) = true := by
    simp [halive, hne]
  rw [readLoop, if_pos hcond]
  simp only [m.onRxPkt_bytes, hparsed, htake, hoff', handOver]

variable {ms : List Msg} {future : Bytes}

lemma prefix_cases (h : data ++ future = stream (m :: ms)) :
    (data.length < m.content.length ∧ ∃ z, data ++ z = m.content) ∨
      ∃ x, data = m.content ++ x ∧ x ++ future = m.pad ++ stream ms := by
  have hstream : data ++ future = m.content ++ (m.pad ++ stream ms) := by
    simpa [stream, Msg.bytes] using h
  by_cases hlt : data.length < m.content.length
  · refine .inl ⟨hlt, ?_⟩
    obtain ⟨z, hz, -⟩ | ⟨z, hz, -⟩ := List.append_eq_append_iff.mp hstream
    · exact ⟨z, hz.symm⟩
    · have := congrArg List.length hz
      simp only [List.length_append] at this
      omega
  · right
    obtain ⟨z, hz, htail⟩ | ⟨z, hz, htail⟩ := List.append_eq_append_iff.mp hstream
    · have hlen := congrArg List.length hz
      simp only [List.length_append] at hlen
      have hnil : z = [] := List.eq_nil_of_length_eq_zero (by omega)
      subst hnil
      exact ⟨[], by simpa using hz.symm, by simpa using htail⟩
    · exact ⟨z, hz, htail.symm⟩

variable {target : σ × List (ℕ × Bytes)}

lemma Agrees.handOver {kept kept' : ℕ} {skip : ℕ} {rest : Bytes}
    (h : Agrees S k ⟨k.sess, 0, m :: ms, kept⟩ off target) (halive : S.alive k.sess = true) :
    Agrees S (handOver S k off m rest) ⟨(onRxPkt S k.sess m.bytes).1, skip, ms, kept'⟩
      (off + m.bytes.length) target := by
  have hfinal := h.final
  have hhanded := h.handed
  simp only [oneByOne_cons halive] at hfinal hhanded
  refine ⟨rfl, hfinal, ?_, ?_⟩
  · simpa [TurnStream.handOver] using hhanded
  · intro e he
    have hpos : 0 < m.bytes.length := by
      have := m.header
      rw [m.bytes_length]
      omega
    simp only [TurnStream.handOver, List.mem_append, List.mem_singleton] at he
    obtain he | rfl := he
    · exact (h.below e he).trans_le (Nat.le_add_right _ _)
    · simpa using hpos

lemma reached_idle {fresh : Bool} {q : Pos σ} (hdata : data ++ future = stream ms)
    (hbuf : k.buf = if fresh then [] else data) (hoff : k.received = off + data.length)
    (hagrees : Agrees S k ⟨k.sess, 0, ms, 0⟩ off target)
    (hidle : ∀ m ∈ ms.head?, S.alive k.sess = false ∨ data.length < m.content.length)
    (h : takeRead S k.sess ms data.length fresh = some q) :
    Agrees S k q off target ∧ (S.alive q.sess = true → Reached k q future off) := by
  cases ms with
  | nil =>
    obtain rfl : (⟨k.sess, 0, [], 0⟩ : Pos σ) = q := by simpa [takeRead] using h
    have hnil : data = [] := (List.append_eq_nil_iff.mp hdata).1
    have hbuf' : k.buf = [] := by simpa [hnil] using hbuf
    refine ⟨hagrees, fun _ => ⟨by simp [hbuf'], by simp, ?_, ⟨[], rfl, ?_⟩, fun _ => hbuf', ?_⟩⟩
    · simp [hbuf', hoff, hnil]
    · simpa [hbuf', hnil] using hdata
    · simp
  | cons m ms =>
    cases halive : S.alive k.sess with
    | false =>
      obtain rfl : (⟨k.sess, 0, m :: ms, 0⟩ : Pos σ) = q := by simpa [takeRead, halive] using h
      exact ⟨hagrees, fun hq => absurd hq (by simp [halive])⟩
    | true =>
      have hlt : data.length < m.content.length := by
        obtain hdead | hlt := hidle m rfl
        · simp [halive] at hdead
        · exact hlt
      simp only [takeRead, halive, Bool.not_true, Bool.false_eq_true, if_false, if_pos hlt] at h
      split at h
      · cases h
      next hkept =>
        obtain rfl := Option.some.inj h
        have hbuf' : k.buf = data := by
          cases fresh with
          | false => exact hbuf
          | true =>
            have hzero : data = [] := by simpa using hkept
            simpa [hzero] using hbuf
        refine ⟨⟨hagrees.sess, hagrees.final, hagrees.handed, hagrees.below⟩, fun _ =>
          ⟨by rw [hbuf'], by simp, ?_, ⟨[], rfl, ?_⟩, fun hpos => absurd hpos (by simp), ?_⟩⟩
        · rw [hbuf']
          exact hoff
        · rw [hbuf', List.nil_append]
          exact hdata
        · intro m' hm'
          obtain rfl : m = m' := by simpa using hm'
          rwa [hbuf']

lemma Msg.bytes_pos (m : Msg) : 0 < m.bytes.length := by
  have := m.header
  rw [m.bytes_length]
  omega

lemma reached_padding
    (hx : x ++ future = m.pad ++ stream ms) (hoff : k.received = off + (m.content ++ x).length)
    (hle : (m.content ++ x).length ≤ m.bytes.length) : Reached (handOver S k off m [])
      ⟨(onRxPkt S k.sess m.bytes).1, m.bytes.length - (m.content ++ x).length, ms, 0⟩ future
      (off + m.bytes.length) := by
  have hpad := m.pad_length
  have hbytes := m.bytes_length
  simp only [List.length_append] at hle hoff ⊢
  refine ⟨rfl, ?_, ?_, ⟨m.pad.drop x.length, ?_, ?_⟩, fun _ => rfl, ?_⟩
  · simp only
    omega
  · simp only [handOver, List.length_nil]
    omega
  · simp only [List.length_drop]
    omega
  · have := congrArg (List.drop x.length) hx
    rw [List.drop_left, List.drop_append_of_le_length (by omega)] at this
    simpa [handOver] using this
  · intro m' _
    have := m'.header
    simp only [handOver, List.length_nil]
    omega

lemma drop_bytes (hx : x ++ future = m.pad ++ stream ms) (hle : ¬ (m.content ++ x).length ≤ m.bytes.length) :
    (m.content ++ x).drop m.bytes.length ++ future = stream ms := by
  have hbytes := m.bytes_length
  simp only [List.length_append] at hle
  rw [hbytes, List.drop_append, List.drop_of_length_le (by omega), List.nil_append,
    Nat.add_sub_cancel_left, ← List.drop_append_of_le_length (by omega), hx, List.drop_left]

lemma readLoop_some (n : ℕ) {fresh : Bool} {q : Pos σ} (hn : data.length ≤ n)
    (hdata : data ++ future = stream ms) (hbuf : k.buf = if fresh then [] else data)
    (hoff : k.received = off + data.length) (hagrees : Agrees S k ⟨k.sess, 0, ms, 0⟩ off target)
    (h : takeRead S k.sess ms data.length fresh = some q) :
    ∃ off', Agrees S (readLoop S n data k) q off' target ∧
      (S.alive q.sess = true → Reached (readLoop S n data k) q future off') := by
  induction n generalizing data ms k fresh off with
  | zero =>
    have hnil : data = [] := List.eq_nil_of_length_eq_zero (by omega)
    refine ⟨off, reached_idle hdata hbuf hoff hagrees ?_ h⟩
    intro m _
    right
    have := m.header
    simp only [hnil, List.length_nil]
    omega
  | succ n ih =>
    cases ms with
    | nil =>
      have hnil : data = [] := (List.append_eq_nil_iff.mp hdata).1
      rw [readLoop_idle (.inr (by rw [hnil, hasPacket_nil]))]
      exact ⟨off, reached_idle hdata hbuf hoff hagrees (by simp) h⟩
    | cons m ms =>
      cases halive : S.alive k.sess with
      | false =>
        rw [readLoop_idle (.inl halive)]
        exact ⟨off, reached_idle hdata hbuf hoff hagrees (fun _ _ => .inl halive) h⟩
      | true =>
        obtain ⟨hlt, z, hz⟩ | ⟨x, rfl, hx⟩ := prefix_cases hdata
        · rw [readLoop_idle (.inr (m.hasPacket_partial hz hlt))]
          refine ⟨off, reached_idle hdata hbuf hoff hagrees ?_ h⟩
          intro m' hm'
          obtain rfl : m = m' := by simpa using hm'
          exact .inr hlt
        · have hge : ¬ (m.content ++ x).length < m.content.length := by simp
          rw [readLoop_round halive hoff]
          simp only [takeRead, halive, Bool.not_true, Bool.false_eq_true, if_false,
            if_neg hge] at h
          by_cases hr : S.alive (onRxPkt S k.sess m.bytes).1 = true
          · simp only [hr, Bool.not_true, Bool.false_eq_true, if_false] at h
            by_cases hle : (m.content ++ x).length ≤ m.bytes.length
            · rw [if_pos hle] at h
              obtain rfl := Option.some.inj h
              have hall : (m.content ++ x).drop (((onRxPkt S k.sess m.bytes).2).elim
                  (m.content ++ x).length fun _ => m.bytes.length) = [] := by
                cases (onRxPkt S k.sess m.bytes).2 with
                | none => exact List.drop_length
                | some _ => exact List.drop_of_length_le hle
              rw [hall]
              dsimp only
              rw [readLoop_idle (.inr hasPacket_nil)]
              exact ⟨_, hagrees.handOver halive, fun _ => reached_padding hx hoff hle⟩
            · rw [if_neg hle] at h
              cases hsome : (onRxPkt S k.sess m.bytes).2 with
              | none => simp [hsome] at h
              | some parsed =>
                simp only [hsome, Option.isNone_some, Bool.false_eq_true, if_false] at h
                simp only [Option.elim_some]
                have hlen : ((m.content ++ x).drop m.bytes.length).length =
                    (m.content ++ x).length - m.bytes.length := List.length_drop
                have hpos := m.bytes_pos
                have hrest : (handOver S k off m ((m.content ++ x).drop m.bytes.length)).buf =
                    if false then [] else (m.content ++ x).drop m.bytes.length := rfl
                refine ih ?_ (drop_bytes hx hle) hrest ?_ (hagrees.handOver halive) ?_
                · rw [hlen]
                  omega
                · rw [hlen]
                  change k.received = _
                  omega
                · rw [hlen]
                  exact h
          · have hdead : S.alive (onRxPkt S k.sess m.bytes).1 = false := by simpa using hr
            simp only [hdead, Bool.not_false, if_true] at h
            obtain rfl := Option.some.inj h
            dsimp only
            rw [readLoop_idle (.inl hdead)]
            exact ⟨_, hagrees.handOver halive, fun hq => absurd hq hr⟩

end PjProject.TurnStream
