import PjProject.FindMsg
import PjProject.Framing

/-!
# Stream transports

`pjsip_tpmgr_receive_packet` takes the messages off a buffer, and the stream transports
keep the bytes it did not process in front of the next read. The sequence of messages
that is handed to the parser does not depend on how the stream was cut into reads.
-/
namespace PjProject.StreamTransport

open FindMsg Scanner

def maxPktLen : ℕ := 4000

/-- The loop of `pjsip_tpmgr_receive_packet`: the number of bytes processed and the byte
ranges given to `pjsip_parse_rdata`. `current` is not longer than the fuel, and every
round that goes on takes bytes off it. -/
def receiveLoop (datagram : Bool) (pktLen : ℕ) : ℕ → Bytes → ℕ → ℕ × List Bytes
  | 0, _, total => (total, [])
  | k + 1, current, total =>
    if current = [] then (total, [])
    else
      let p := current.dropWhile isNewline
      let total := total + (current.length - p.length)
      if p = [] then (total, [])
      else
        match if datagram then (.success, p.length) else findMsg p false with
        | (.success, size) =>
          let (eaten, msgs) := receiveLoop datagram pktLen k (p.drop size) (total + size)
          (eaten, p.take size :: msgs)
        | (.epartialmsg, _) => if p.length ≠ maxPktLen then (total, []) else (pktLen, [])
        | (_, _) => (pktLen, [])

/-- `pjsip_tpmgr_receive_packet` of a packet that is not empty. -/
def receivePacket (datagram : Bool) (packet : Bytes) : ℕ × List Bytes :=
  receiveLoop datagram packet.length packet.length packet 0

def crlfKaPing : Bytes := [13, 10, 13, 10]

/-- `tcp_get_crlf_ka_len`: the bytes after the leading pings. -/
def skipPings : ℕ → Bytes → Bytes
  | 0, data => data
  | k + 1, data =>
    if crlfKaPing.isPrefixOf data then skipPings k (data.drop crlfKaPing.length) else data

/-- Whether `tcp_get_crlf_ka_len` reports a ping that has arrived in part. -/
def isPartialPing (data : Bytes) : Bool :=
  data ≠ [] && data.length < crlfKaPing.length && data.isPrefixOf crlfKaPing

/-- `on_data_read` of a stream transport: the messages handed to the parser and the bytes
kept in front of the next read. `keepAlive` is `PJSIP_TCP_KEEP_ALIVE_RESPONSE`. -/
def onDataRead (keepAlive : Bool) (data : Bytes) : List Bytes × Bytes :=
  let rest := if keepAlive then skipPings data.length data else data
  if keepAlive ∧ isPartialPing rest then ([], rest)
  else if rest = [] then ([], [])
  else
    let (eaten, msgs) := receivePacket false rest
    (msgs, rest.drop eaten)

def verdict (p : Bytes) : Framing.Verdict :=
  match findMsg p false with
  | (.success, size) => .frame size
  | (.epartialmsg, _) => if p.length ≠ maxPktLen then .more else .bad
  | (_, _) => .bad

/-- The messages of a stream: those that `pjsip_find_msg` recognises as a whole, that fit
in the buffer and that do not begin with a newline. -/
def IsMsg (m : Bytes) : Prop :=
  findMsg m false = (.success, m.length) ∧ m.length < maxPktLen ∧
    ∀ c ∈ m.head?, isNewline c = false

def sipCode : Framing.Code UInt8 where
  gap := isNewline
  isFrame := IsMsg
  start := by
    rintro m ⟨hm, -, hhead⟩
    cases m with
    | nil => simp [findMsg, findHeader, strstr] at hm
    | cons c s => exact ⟨c, s, rfl, hhead c rfl⟩

lemma verdict_stable : Framing.Stable sipCode verdict where
  whole := by
    rintro m x ⟨hm, -, -⟩
    simp [verdict, findMsg_append hm x]
  part := by
    rintro m p ⟨hm, hlen, -⟩ - hp hne
    have hplen : p.length ≠ maxPktLen := by
      have := hp.length_le
      omega
    have hpart := findMsg_part hm hp hne
    unfold verdict
    split
    · simp_all
    · exact if_pos hplen
    · simp_all

lemma receiveLoop_eq_drain (packet : Bytes) (k : ℕ) {current : Bytes} {total : ℕ}
    (hc : current = packet.drop total) (ht : total ≤ packet.length) :
    ((receiveLoop false packet.length k current total).2,
      packet.drop (receiveLoop false packet.length k current total).1) =
    Framing.drain isNewline verdict k current := by
  induction k generalizing current total with
  | zero => simp [receiveLoop, Framing.drain, hc]
  | succ k ih =>
    have hsuf : current.dropWhile isNewline =
        current.drop (current.length - (current.dropWhile isNewline).length) :=
      List.suffix_iff_eq_drop.1 (List.dropWhile_suffix _)
    have hle := (List.dropWhile_suffix isNewline (l := current)).length_le
    have hcl : current.length = packet.length - total := by rw [hc, List.length_drop]
    simp only [receiveLoop, Framing.drain]
    by_cases h0 : current = []
    · have hend : packet.length ≤ total := by
        rw [h0] at hcl
        simp only [List.length_nil] at hcl
        omega
      simp [h0, List.drop_eq_nil_of_le hend]
    · rw [if_neg h0]
      generalize hp : current.dropWhile isNewline = p at *
      have hpd : p = packet.drop (total + (current.length - p.length)) := by
        rw [← List.drop_drop, ← hc]
        exact hsuf
      by_cases hp0 : p = []
      · simp [hp0, hcl, show total + (packet.length - total) = packet.length by omega]
      · simp only [if_neg hp0, verdict, Bool.false_eq_true, if_false]
        cases hf : findMsg p false with
        | mk status size =>
          cases status with
          | success =>
            have hsize := findMsg_size_le hf
            have := @ih (p.drop size) (total + (current.length - p.length) + size)
              (by rw [← List.drop_drop, ← hpd]) (by omega)
            simp only [← this]
          | epartialmsg =>
            by_cases hmax : p.length = maxPktLen
            · simp [hmax]
            · simp [hmax, ← hpd]
          | emissinghdr => simp
          | einvalidhdr => simp

lemma receivePacket_faithful : Framing.Faithful sipCode fun packet =>
    ((receivePacket false packet).2, packet.drop (receivePacket false packet).1) := by
  have hread : (fun packet => ((receivePacket false packet).2,
      packet.drop (receivePacket false packet).1)) =
      fun packet => Framing.drain sipCode.gap verdict packet.length packet := by
    funext packet
    exact receiveLoop_eq_drain packet packet.length (by simp) (Nat.zero_le _)
  rw [hread]
  exact Framing.drain_faithful verdict_stable

lemma skipPings_gaps (k : ℕ) (data : Bytes) :
    ∃ g, data = g ++ skipPings k data ∧ ∀ c ∈ g, isNewline c = true := by
  induction k generalizing data with
  | zero => exact ⟨[], rfl, by simp⟩
  | succ k ih =>
    unfold skipPings
    split_ifs with h
    · obtain ⟨t, rfl⟩ := List.isPrefixOf_iff_prefix.1 h
      obtain ⟨g, hg, hgaps⟩ := ih t
      rw [List.drop_left]
      refine ⟨crlfKaPing ++ g, by rw [List.append_assoc, ← hg], ?_⟩
      simp only [List.forall_mem_append]
      exact ⟨forall_mem_of_all (by decide), hgaps⟩
    · exact ⟨[], rfl, by simp⟩

lemma isPartialPing_gaps {data : Bytes} (h : isPartialPing data = true) : ∀ c ∈ data, isNewline c = true := by
  simp only [isPartialPing, Bool.and_eq_true, List.isPrefixOf_iff_prefix] at h
  have hping : ∀ c ∈ crlfKaPing, isNewline c = true := forall_mem_of_all (by decide)
  exact fun c hc => hping c (h.2.subset hc)

lemma onDataRead_faithful (keepAlive : Bool) : Framing.Faithful sipCode (onDataRead keepAlive) := by
  refine receivePacket_faithful.of_gaps fun data _ => ?_
  obtain ⟨g, hg, hgaps⟩ : ∃ g, data = g ++ (if keepAlive then skipPings data.length data else data) ∧
      ∀ c ∈ g, isNewline c = true := by
    cases keepAlive with
    | false => exact ⟨[], rfl, by simp⟩
    | true => exact skipPings_gaps data.length data
  refine ⟨g, _, hg, hgaps, ?_⟩
  simp only [onDataRead]
  generalize (if keepAlive then skipPings data.length data else data) = rest
  split_ifs with h1 h2
  · exact .inr ⟨isPartialPing_gaps h1.2, rfl⟩
  · rw [h2]
    exact .inr ⟨by simp, rfl⟩
  · exact .inl ⟨h2, rfl⟩

/-- However a stream of messages and newlines is cut into reads, the parser is given
exactly its messages, in order. -/
theorem reads_hand_over_messages (keepAlive : Bool) {items : List (Framing.Item UInt8)}
    (hv : Framing.Valid sipCode items) {reads : List Bytes} (hne : ∀ r ∈ reads, r ≠ [])
    (hs : reads.flatten = Framing.stream items) :
    (reads.foldl (Framing.feed (onDataRead keepAlive)) ([], [])).1 = Framing.frames items :=
  Framing.feed_frames (onDataRead_faithful keepAlive) hv hne hs

/-- A message of one header line, cut inside the header and inside the blank line. -/
theorem reads_hand_over_messages_cut : ([[13], [10, 65, 10, 108], [58, 48, 10, 13], [10, 13]].foldl
      (Framing.feed (onDataRead true)) ([], [])).1 = [[65, 10, 108, 58, 48, 10, 13, 10]] := by
  have hmsg : IsMsg [65, 10, 108, 58, 48, 10, 13, 10] := ⟨by decide, by decide, by rintro c ⟨⟩; decide⟩
  have hv : Framing.Valid sipCode [.gap 13, .gap 10, .frame [65, 10, 108, 58, 48, 10, 13, 10],
      .gap 13] := by
    intro i hi
    simp only [List.mem_cons, List.not_mem_nil, or_false] at hi
    rcases hi with rfl | rfl | rfl | rfl
    · rfl
    · rfl
    · exact hmsg
    · rfl
  exact reads_hand_over_messages true hv (by decide) rfl

/-- A message that begins with a newline is recognised as a whole, but its first newline is
skipped and the rest, whose length header is now its first line, is not recognised. -/
theorem leading_newline_not_handed_over :
    ¬ ∀ (m : Bytes) (reads : List Bytes), findMsg m false = (.success, m.length) →
      m.length < maxPktLen → (∀ r ∈ reads, r ≠ []) → reads.flatten = m →
      (reads.foldl (Framing.feed (onDataRead true)) ([], [])).1 = [m] := by
  intro h
  have := h [10, 108, 58, 48, 10, 13, 10] [[10, 108, 58, 48, 10, 13, 10]] (by decide) (by decide)
    (by decide) rfl
  revert this
  decide

end PjProject.StreamTransport
