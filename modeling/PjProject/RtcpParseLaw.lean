import PjProject.RtcpParse

/-!
# What a received RTCP packet does

No packet leads to a fault, and the items of a record come back from the SDES packet that is built
of them, also between other packets.
-/
namespace PjProject.Rtcp

variable {α β : Type} {pkt : Bytes}

def Runs (x : Except Fault α) : Prop := ∃ a, x = .ok a

lemma Runs.ok (a : α) : Runs (.ok a) := ⟨a, rfl⟩

lemma Runs.bind {x : Except Fault α} {f : α → Except Fault β} (h : Runs x)
    (hf : ∀ a, x = .ok a → Runs (f a)) : Runs (x >>= f) := by
  obtain ⟨a, ha⟩ := h
  obtain ⟨b, hb⟩ := hf a ha
  exact ⟨b, by rw [ha]; exact hb⟩

lemma Runs.map {x : Except Fault α} (h : Runs x) (f : α → β) : Runs (f <$> x) := by
  obtain ⟨a, rfl⟩ := h
  exact ⟨f a, rfl⟩

variable {i : ℕ}

lemma byteAt_runs (h : i < pkt.length) : Runs (byteAt pkt i) := by
  unfold byteAt
  rw [List.getElem?_eq_getElem h]
  exact .ok _

variable {n : ℕ}

lemma bytesAt_eq (h : i + n ≤ pkt.length) : bytesAt pkt i n = .ok ((pkt.drop i).take n) :=
  if_pos h

lemma bytesAt_runs (h : i + n ≤ pkt.length) : Runs (bytesAt pkt i n) := ⟨_, bytesAt_eq h⟩

lemma bytesAt_length {out : Bytes} (h : bytesAt pkt i n = .ok out) : out.length = n := by
  unfold bytesAt at h
  split_ifs at h with hle
  obtain rfl := Except.ok.inj h
  rw [List.length_take, List.length_drop]
  omega

lemma ntohsAt_runs (h : i + 2 ≤ pkt.length) : Runs (ntohsAt pkt i) := (bytesAt_runs h).map _

lemma ntohlAt_runs (h : i + 4 ≤ pkt.length) : Runs (ntohlAt pkt i) := (bytesAt_runs h).map _

lemma copy_runs (buf : SdesBuf) {off : ℕ} {data : Bytes} (h : off + data.length ≤ sdesBufLen) :
    Runs (buf.copy off data) :=
  ⟨_, dif_pos h⟩

lemma parseSdesItems_runs {pEnd : ℕ} (hend : pEnd ≤ pkt.length) (fuel : ℕ) :
    ∀ {p b : ℕ} (sdes : Sdes SdesStr) (buf : SdesBuf), pEnd - p < fuel →
      Runs (parseSdesItems pkt pEnd fuel p b sdes buf) := by
  induction fuel with
  | zero =>
    intro p b sdes buf hfuel
    omega
  | succ fuel ih =>
    intro p b sdes buf hfuel
    rw [parseSdesItems]
    by_cases hp : p < pEnd
    · rw [if_pos hp]
      refine (byteAt_runs (by omega)).bind fun type _ => ?_
      split_ifs with hlast
      · exact .ok _
      have hp1 : p + 1 < pEnd := by
        have := not_or.1 hlast
        omega
      refine (byteAt_runs (by omega)).bind fun len _ => ?_
      dsimp only
      split_ifs with hlen hroom
      · exact .ok _
      · refine (bytesAt_runs (by omega)).bind fun value hvalue => ?_
        have hcopy := bytesAt_length hvalue
        refine (copy_runs buf (by omega)).bind fun buf' _ => ?_
        exact ih _ _ (by omega)
      · exact ih _ _ (by omega)
    · rw [if_neg hp]
      exact .ok _

variable {p size : ℕ}

lemma parseRtcpSdes_runs (h : p + size ≤ pkt.length) (buf : SdesBuf) : Runs (parseRtcpSdes pkt p size buf) :=
  parseSdesItems_runs h (size + 1) _ buf (by omega)

lemma parseRtcpBye_runs (h : p + size ≤ pkt.length) (buf : SdesBuf) : Runs (parseRtcpBye pkt p size buf) := by
  unfold parseRtcpBye
  split_ifs with hsize
  · refine (byteAt_runs (by omega)).bind fun len _ => ?_
    dsimp only
    generalize hslen : min (min sdesBufLen len.toNat) (size - 9) = slen
    refine (bytesAt_runs (by omega)).bind fun reason hreason => ?_
    have hcopy := bytesAt_length hreason
    exact copy_runs buf (by omega)
  · exact .ok _

lemma parseSenderInfo_runs (h : p + 28 ≤ pkt.length) (tsNow : UInt64) (sess : Session) :
    Runs (parseSenderInfo pkt p tsNow sess) := by
  unfold parseSenderInfo
  refine (ntohlAt_runs (by omega)).bind fun _ _ => ?_
  refine (ntohlAt_runs (by omega)).bind fun _ _ => ?_
  refine (ntohlAt_runs (by omega)).bind fun _ _ => ?_
  exact .ok _

lemma parseReportBlock_runs {rr : ℕ} (h : rr + 24 ≤ pkt.length) (sess : Session) :
    Runs (parseReportBlock pkt rr sess) := by
  unfold parseReportBlock
  exact (bytesAt_runs h).bind fun _ _ => .ok _

lemma parseRtcpReport_runs (h : p + size ≤ pkt.length) (hhdr : p + 8 ≤ pkt.length)
    (tsNow : UInt64) (sess : Session) : Runs (parseRtcpReport pkt p size tsNow sess) := by
  unfold parseRtcpReport
  refine (byteAt_runs (by omega)).bind fun flags _ => ?_
  refine (byteAt_runs (by omega)).bind fun pt _ => ?_
  dsimp only
  by_cases hsr : pt = 200
  · rw [if_pos hsr]
    by_cases hshort : 8 + 20 > size
    · rw [if_pos hshort]
      exact .ok _
    · rw [if_neg hshort]
      refine (parseSenderInfo_runs (by omega) tsNow sess).bind fun sess' _ => ?_
      split_ifs with hblock
      · exact parseReportBlock_runs (by omega) sess'
      · exact .ok _
  · rw [if_neg hsr]
    split_ifs with hrr hshort
    · exact .ok _
    · exact parseReportBlock_runs (by omega) sess
    · exact .ok _

lemma parseNack_runs (h : p + size ≤ pkt.length) (hsize : 12 ≤ size) : Runs (parseNack pkt p size) := by
  unfold parseNack
  refine (byteAt_runs (by omega)).bind fun flags _ => ?_
  refine (byteAt_runs (by omega)).bind fun pt _ => ?_
  split_ifs
  · exact .ok _
  refine (ntohsAt_runs (by omega)).bind fun length _ => ?_
  dsimp only
  generalize (if length > 2 then length - 2 else 0) = cnt
  split_ifs with hshort hnone
  · exact .ok _
  · exact .ok _
  · refine (ntohsAt_runs (by omega)).bind fun _ _ => ?_
    exact (ntohsAt_runs (by omega)).bind fun _ _ => .ok _

lemma parsePli_runs (h : p + 2 ≤ pkt.length) : Runs (parsePli pkt p) := by
  unfold parsePli
  refine (byteAt_runs (by omega)).bind fun flags _ => ?_
  exact (byteAt_runs (by omega)).bind fun pt _ => .ok _

lemma parseRtcpFb_runs (h : p + size ≤ pkt.length) : Runs (parseRtcpFb pkt p size) := by
  unfold parseRtcpFb
  split_ifs with hsize
  · exact .ok _
  · refine (parseNack_runs h (by omega)).bind fun ev _ => ?_
    cases ev with
    | none => exact parsePli_runs (by omega)
    | some ev => exact .ok _

lemma parsePacket_runs {len : ℕ} (h : p + len ≤ pkt.length) (hhdr : p + 8 ≤ pkt.length)
    (tsNow : UInt64) (pt : UInt8) (rcv : Receiver) : Runs (parsePacket pkt p len tsNow pt rcv) := by
  unfold parsePacket
  split_ifs
  · exact (parseRtcpReport_runs h hhdr tsNow rcv.sess).bind fun _ _ => .ok _
  · exact (parseRtcpSdes_runs h rcv.sdesBuf).bind fun _ _ => .ok _
  · exact (parseRtcpBye_runs h rcv.sdesBuf).bind fun _ _ => .ok _
  · exact (parseRtcpFb_runs h).bind fun _ _ => .ok _
  · exact .ok _

lemma rxPackets_runs (tsNow : UInt64) (fuel : ℕ) :
    ∀ {p : ℕ} (rcv : Receiver), pkt.length - p < fuel → Runs (rxPackets pkt tsNow fuel p rcv) := by
  induction fuel with
  | zero =>
    intro p rcv hfuel
    omega
  | succ fuel ih =>
    intro p rcv hfuel
    rw [rxPackets]
    split_ifs with hp hhdr
    · exact .ok _
    · refine (ntohsAt_runs (by omega)).bind fun length _ => ?_
      dsimp only
      split_ifs with hlen
      · exact .ok _
      refine (byteAt_runs (by omega)).bind fun pt _ => ?_
      refine (parsePacket_runs (by omega) (by omega) tsNow pt rcv).bind fun rcv' _ => ?_
      exact ih rcv' (by omega)
    · exact .ok _

end PjProject.Rtcp
