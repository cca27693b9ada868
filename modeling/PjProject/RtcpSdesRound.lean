import PjProject.RtcpParseLaw

/-!
# The items of a record come back

What `pjmedia_rtcp_build_rtcp_sdes` builds is one well-formed packet, and the parser of its items
copies them to the buffer one behind the other.
-/
namespace PjProject.Rtcp

variable {pkt rest tail : Bytes} {p : ℕ}

@[simp] lemma netBytes_length (n v : ℕ) : (netBytes n v).length = n := by
  induction n generalizing v with
  | zero => rfl
  | succ n ih => rw [netBytes, List.length_append, ih, List.length_singleton]

lemma netValue_netBytes (n v : ℕ) : netValue (netBytes n v) = v % 256 ^ n := by
  induction n generalizing v with
  | zero => simp [netBytes, netValue, Nat.mod_one]
  | succ n ih =>
    have hlast : netValue (netBytes n (v / 256) ++ [UInt8.ofNat v]) =
        netValue (netBytes n (v / 256)) * 256 + v % 256 := by
      simp [netValue, List.foldl_append]
    rw [netBytes, hlast, ih, pow_succ, Nat.mul_comm (256 ^ n), Nat.mod_mul]
    ring

lemma buildSdesItem_length (item : UInt8 × Bytes) : (buildSdesItem item).length = sdesItemLen item.2 := by
  unfold buildSdesItem sdesItemLen
  split_ifs <;> simp

lemma items_length (sdes : Sdes Bytes) :
    sdesPacketLen sdes = (8 + (sdes.fields.flatMap buildSdesItem).length + 1 + 3) / 4 * 4 := by
  simp only [Sdes.fields, List.flatMap_cons, List.flatMap_nil, List.append_nil, List.length_append,
    buildSdesItem_length, sdesPacketLen]
  congr 2
  ring

variable {sdes : Sdes Bytes}

lemma sdesPacketLen_lt (h : ∀ x ∈ sdes.fields, x.2.length ≤ 255) : sdesPacketLen sdes < 4 * 65536 := by
  have hitem : ∀ value : Bytes, value.length ≤ 255 → sdesItemLen value ≤ 257 := by
    intro value hle
    unfold sdesItemLen
    split_ifs <;> omega
  simp only [Sdes.fields, List.forall_mem_cons] at h
  obtain ⟨h1, h2, h3, h4, h5, h6, h7, -⟩ := h
  have := hitem _ h1
  have := hitem _ h2
  have := hitem _ h3
  have := hitem _ h4
  have := hitem _ h5
  have := hitem _ h6
  have := hitem _ h7
  unfold sdesPacketLen
  dsimp only
  omega

lemma padWord_eq (k : ℕ) : ∀ out : Bytes, (out.length + k) / 4 * 4 ≥ out.length →
    ∃ n, padWord k out = out ++ List.replicate n 0 ∧ (padWord k out).length = (out.length + 3) / 4 * 4 := by
  induction k with
  | zero =>
    intro out h
    exact ⟨0, by simp [padWord], by rw [padWord]; omega⟩
  | succ k ih =>
    intro out h
    rw [padWord]
    split_ifs with hmod
    · obtain ⟨n, hn, hlen⟩ := ih (out ++ [0]) (by
        rw [List.length_append, List.length_singleton]
        omega)
      refine ⟨n + 1, by rw [hn, List.replicate_succ, List.append_assoc, List.singleton_append], ?_⟩
      rw [hlen, List.length_append, List.length_singleton]
      omega
    · exact ⟨0, by simp, by omega⟩

lemma buildRtcpSdes_ok (common : Common) {length : ℕ}
    (hitems : ∀ x ∈ sdes.fields, x.2.length ≤ 255) (hlen : sdesPacketLen sdes ≤ length) :
    ∃ n, buildRtcpSdes common length sdes = .ok ([common.flags, 202] ++ netBytes 2 (sdesPacketLen sdes / 4 - 1) ++
        netBytes 4 common.ssrc.toNat ++ (sdes.fields.flatMap buildSdesItem ++ 0 :: List.replicate n 0)) ∧
      8 + ((sdes.fields.flatMap buildSdesItem).length + 1 + n) = sdesPacketLen sdes := by
  simp only [Sdes.fields, List.forall_mem_cons] at hitems
  obtain ⟨h1, h2, h3, h4, h5, h6, h7, -⟩ := hitems
  unfold buildRtcpSdes
  rw [if_neg (by omega), if_neg (by omega)]
  dsimp only
  generalize hout : ([common.flags, 202] ++ netBytes 2 (sdesPacketLen sdes / 4 - 1) ++
    netBytes 4 common.ssrc.toNat ++ sdes.fields.flatMap buildSdesItem ++ [0]) = out
  have houtlen : out.length = 8 + (sdes.fields.flatMap buildSdesItem).length + 1 := by
    rw [← hout]
    simp only [List.length_append, List.length_cons, List.length_nil, netBytes_length]
  obtain ⟨n, hpad, hpadlen⟩ := padWord_eq 3 out (by omega)
  refine ⟨n, ?_, ?_⟩
  · rw [hpad, ← hout]
    simp
  · rw [hpad, List.length_append, List.length_replicate, houtlen] at hpadlen
    rw [items_length]
    omega

lemma byteAt_append (h : pkt.drop p = rest ++ tail) {i : ℕ} (hi : i < rest.length) :
    byteAt pkt (p + i) = byteAt rest i := by
  have hget : pkt[p + i]? = rest[i]? := by
    rw [← List.getElem?_drop, h, List.getElem?_append_left hi]
  unfold byteAt
  rw [hget]

variable {n : ℕ}

lemma bytesAt_append (h : pkt.drop p = rest ++ tail) (hp : p ≤ pkt.length) {i : ℕ}
    (hi : i + n ≤ rest.length) : bytesAt pkt (p + i) n = bytesAt rest i n := by
  have hlen := congrArg List.length h
  rw [List.length_drop, List.length_append] at hlen
  rw [bytesAt, bytesAt, if_pos hi, if_pos (by omega), ← List.drop_drop, h,
    List.drop_append_of_le_length (by omega), List.take_append_of_le_length (by rw [List.length_drop]; omega)]

lemma drop_add (h : pkt.drop p = rest ++ tail) : pkt.drop (p + rest.length) = tail := by
  rw [← List.drop_drop, h, List.drop_left]

variable {b : ℕ}

lemma copy_str {buf buf' : SdesBuf} {data : Bytes} (h : buf.copy b data = .ok buf') :
    buf'.str ⟨b, data.length⟩ = data ∧ ∀ s : SdesStr, s.off + s.slen ≤ b → buf'.str s = buf.str s := by
  unfold SdesBuf.copy at h
  split_ifs at h with hle
  obtain rfl := Except.ok.inj h
  have hb : (buf.bytes.take b).length = b := by
    rw [List.length_take, buf.length_eq]
    omega
  constructor
  · simp only [SdesBuf.str]
    rw [List.append_assoc, List.drop_append_of_le_length (by omega), List.drop_of_length_le (by omega),
      List.nil_append, List.take_left]
  · intro s hs
    simp only [SdesBuf.str]
    rw [List.append_assoc, List.drop_append_of_le_length (by omega),
      List.take_append_of_le_length (by rw [List.length_drop, hb]; omega), List.drop_take, List.take_take,
      Nat.min_eq_left (by omega)]

lemma set_map {α β : Type} (f : α → β) (sdes : Sdes α) (type : UInt8) (v : α) :
    (sdes.set type v).map f = (sdes.map f).set type (f v) := by
  unfold Sdes.set
  split_ifs <;> rfl

def Within (b : ℕ) (sdes : Sdes SdesStr) : Prop := ∀ x ∈ sdes.fields, x.2.off + x.2.slen ≤ b

lemma Within.const : Within 0 (Sdes.const ⟨0, 0⟩) := by
  simp [Within, Sdes.fields, Sdes.const]

lemma Within.set {sdes : Sdes SdesStr} (h : Within b sdes) (type : UInt8) :
    Within (b + n) (sdes.set type ⟨b, n⟩) := by
  simp only [Within, Sdes.fields, List.forall_mem_cons] at h
  obtain ⟨h1, h2, h3, h4, h5, h6, h7, -⟩ := h
  unfold Sdes.set
  split_ifs <;> simp only [Within, Sdes.fields, List.forall_mem_cons] <;>
    exact ⟨by omega, by omega, by omega, by omega, by omega, by omega, by omega, by simp⟩

lemma Within.map_congr {sdes : Sdes SdesStr} (h : Within b sdes) {f g : SdesStr → Bytes}
    (hfg : ∀ s : SdesStr, s.off + s.slen ≤ b → f s = g s) : sdes.map f = sdes.map g := by
  simp only [Within, Sdes.fields, List.forall_mem_cons] at h
  obtain ⟨h1, h2, h3, h4, h5, h6, h7, -⟩ := h
  simp only [Sdes.map, hfg _ h1, hfg _ h2, hfg _ h3, hfg _ h4, hfg _ h5, hfg _ h6, hfg _ h7]

def place (sdes : Sdes Bytes) (item : UInt8 × Bytes) : Sdes Bytes :=
  if item.2.length = 0 then sdes else sdes.set item.1 item.2

def itemsSize (items : List (UInt8 × Bytes)) : ℕ := (items.map fun x => x.2.length).sum

lemma parseSdesItems_items {pEnd : ℕ} (hend : pEnd ≤ pkt.length) (items : List (UInt8 × Bytes)) :
    ∀ (fuel p b : ℕ) (sdes : Sdes SdesStr) (buf : SdesBuf), (∀ x ∈ items, x.1 ≠ 0 ∧ x.2.length ≤ 255) →
      pkt.drop p = items.flatMap buildSdesItem ++ 0 :: tail →
      p + (items.flatMap buildSdesItem).length < pEnd → pEnd - p < fuel → b + itemsSize items < sdesBufLen →
      Within b sdes → ∃ sdes' buf', parseSdesItems pkt pEnd fuel p b sdes buf = .ok (sdes', buf') ∧
        sdes'.map buf'.str = items.foldl place (sdes.map buf.str) := by
  induction items with
  | nil =>
    intro fuel p b sdes buf _ hdrop hp hfuel _ _
    obtain ⟨fuel, rfl⟩ : ∃ k, fuel = k + 1 := ⟨fuel - 1, by omega⟩
    have htype := byteAt_append (show pkt.drop p = [0] ++ tail from hdrop) Nat.zero_lt_one
    refine ⟨sdes, buf, ?_, rfl⟩
    rw [parseSdesItems, if_pos (by simpa using hp), ← Nat.add_zero p, htype]
    simp [byteAt, bind, Except.bind]
  | cons x items ih =>
    intro fuel p b sdes buf hitems hdrop hp hfuel hroom hwithin
    obtain ⟨hx, hrest⟩ := List.forall_mem_cons.1 hitems
    rw [List.flatMap_cons, List.append_assoc] at hdrop
    rw [List.flatMap_cons, List.length_append] at hp
    have hsize : itemsSize (x :: items) = x.2.length + itemsSize items := by simp [itemsSize]
    by_cases hempty : x.2.length = 0
    · have hnone : buildSdesItem x = [] := by rw [buildSdesItem, if_pos hempty]
      rw [hnone, List.nil_append] at hdrop
      rw [hnone, List.length_nil, Nat.zero_add] at hp
      have hplace : place (sdes.map buf.str) x = sdes.map buf.str := if_pos hempty
      rw [List.foldl_cons, hplace]
      exact ih _ _ _ _ _ hrest hdrop hp hfuel (by omega) hwithin
    · have hitem : buildSdesItem x = x.1 :: UInt8.ofNat x.2.length :: x.2 := by
        rw [buildSdesItem, if_neg hempty]
      have hbuilt : (buildSdesItem x).length = x.2.length + 2 := by rw [hitem]; rfl
      obtain ⟨fuel, rfl⟩ : ∃ k, fuel = k + 1 := ⟨fuel - 1, by omega⟩
      have hlen : (UInt8.ofNat x.2.length).toNat = x.2.length := by
        rw [UInt8.toNat_ofNat']
        have := hx.2
        omega
      have htype : byteAt pkt p = .ok x.1 := by
        have := byteAt_append hdrop (i := 0) (by omega)
        rwa [Nat.add_zero, hitem] at this
      have hslen : byteAt pkt (p + 1) = .ok (UInt8.ofNat x.2.length) := by
        have := byteAt_append hdrop (i := 1) (by omega)
        rwa [hitem] at this
      have hvalue : bytesAt pkt (p + 2) x.2.length = .ok x.2 := by
        have := bytesAt_append hdrop (by omega) (i := 2) (n := x.2.length) (by omega)
        rw [this, hitem, bytesAt_eq (by simp; omega)]
        simp
      obtain ⟨buf', hcopy⟩ : Runs (buf.copy b x.2) := copy_runs buf (by omega)
      obtain ⟨hnew, hold⟩ := copy_str hcopy
      -- the strings stored before stay as they are
      have hplace : (sdes.set x.1 ⟨b, x.2.length⟩).map buf'.str = place (sdes.map buf.str) x := by
        rw [set_map, hnew, hwithin.map_congr hold, place, if_neg hempty]
      have hdrop' := drop_add hdrop
      rw [hbuilt] at hdrop'
      obtain ⟨sdes', buf'', hparse, hmap⟩ := ih fuel (p + (x.2.length + 2)) (b + x.2.length)
        (sdes.set x.1 ⟨b, x.2.length⟩) buf' hrest hdrop' (by omega) (by omega) (by omega) (hwithin.set x.1)
      refine ⟨sdes', buf'', ?_, by rw [hmap, hplace, List.foldl_cons]⟩
      rw [parseSdesItems, if_pos (by omega)]
      simp only [htype, hslen, hlen, bind, Except.bind]
      rw [if_neg (by simp only [hx.1, false_or]; omega), if_neg (by omega), if_pos (by omega)]
      simp only [hvalue, hcopy]
      rw [← hparse]
      congr 1
      omega

lemma place_fresh {item : UInt8 × Bytes} (h : sdes.set item.1 [] = sdes) :
    place sdes item = sdes.set item.1 item.2 := by
  unfold place
  split_ifs with hempty
  · rw [List.length_eq_zero_iff.1 hempty, h]
  · rfl

lemma place_fields (sdes : Sdes Bytes) : sdes.fields.foldl place (Sdes.const []) = sdes := by
  obtain ⟨cname, name, email, phone, loc, tool, note⟩ := sdes
  have h1 : place (Sdes.const []) (1, cname) = ⟨cname, [], [], [], [], [], []⟩ := place_fresh rfl
  have h2 : place ⟨cname, [], [], [], [], [], []⟩ (2, name) = ⟨cname, name, [], [], [], [], []⟩ := place_fresh rfl
  have h3 : place ⟨cname, name, [], [], [], [], []⟩ (3, email) = ⟨cname, name, email, [], [], [], []⟩ :=
    place_fresh rfl
  have h4 : place ⟨cname, name, email, [], [], [], []⟩ (4, phone) = ⟨cname, name, email, phone, [], [], []⟩ :=
    place_fresh rfl
  have h5 : place ⟨cname, name, email, phone, [], [], []⟩ (5, loc) = ⟨cname, name, email, phone, loc, [], []⟩ :=
    place_fresh rfl
  have h6 : place ⟨cname, name, email, phone, loc, [], []⟩ (6, tool) =
      ⟨cname, name, email, phone, loc, tool, []⟩ := place_fresh rfl
  have h7 : place ⟨cname, name, email, phone, loc, tool, []⟩ (7, note) =
      ⟨cname, name, email, phone, loc, tool, note⟩ := place_fresh rfl
  simp only [Sdes.fields, List.foldl_cons, List.foldl_nil, h1, h2, h3, h4, h5, h6, h7]

structure Foreign (packet : Bytes) : Prop where
  header : 8 ≤ packet.length
  length : ∃ n, ntohsAt packet 2 = .ok n ∧ (n + 1) * 4 = packet.length
  type : ∀ pt, byteAt packet 1 = .ok pt → pt ≠ 202 ∧ pt ≠ 203

lemma parsePacket_foreign {len : ℕ} {tsNow : UInt64} {pt : UInt8} {rcv rcv' : Receiver}
    (hpt : pt ≠ 202 ∧ pt ≠ 203) (h : parsePacket pkt p len tsNow pt rcv = .ok rcv') :
    rcv'.peer = rcv.peer := by
  unfold parsePacket at h
  rw [if_neg hpt.1, if_neg hpt.2] at h
  split_ifs at h
  · cases hsess : parseRtcpReport pkt p len tsNow rcv.sess with
    | error e => simp [hsess, bind, Except.bind] at h
    | ok sess =>
      simp only [hsess, bind, Except.bind, Except.ok.injEq] at h
      rw [← h]
      rfl
  · cases hev : parseRtcpFb pkt p len with
    | error e => simp [hev, bind, Except.bind] at h
    | ok ev =>
      simp only [hev, bind, Except.bind, Except.ok.injEq] at h
      rw [← h]
      rfl
  · rw [← Except.ok.inj h]

lemma rxPackets_packet (fuel : ℕ) {packet : Bytes} {tsNow : UInt64} {pt : UInt8} {rcv rcv' : Receiver}
    (hdrop : pkt.drop p = packet ++ tail) (hheader : 8 ≤ packet.length) (hlength : ntohsAt packet 2 = .ok n)
    (hn : (n + 1) * 4 = packet.length) (hpt : byteAt packet 1 = .ok pt)
    (hparse : parsePacket pkt p packet.length tsNow pt rcv = .ok rcv') :
    rxPackets pkt tsNow (fuel + 1) p rcv = rxPackets pkt tsNow fuel (p + packet.length) rcv' := by
  have hlen := congrArg List.length hdrop
  rw [List.length_drop, List.length_append] at hlen
  have hlength' : ntohsAt pkt (p + 2) = .ok n := by
    rw [ntohsAt, bytesAt_append hdrop (by omega) (by omega), ← hlength, ntohsAt]
  have hpt' : byteAt pkt (p + 1) = .ok pt := (byteAt_append hdrop (by omega)).trans hpt
  rw [rxPackets, if_pos (by omega), if_neg (by omega)]
  simp only [hlength', bind, Except.bind, hn]
  rw [if_neg (by omega)]
  simp only [hpt', hparse]

lemma rxPackets_foreign (tsNow : UInt64) (packets : List Bytes) :
    ∀ (fuel p : ℕ) (rcv : Receiver), (∀ packet ∈ packets, Foreign packet) →
      pkt.drop p = packets.flatten ++ tail → pkt.length - p < fuel →
      ∃ fuel' rcv', rxPackets pkt tsNow fuel p rcv =
          rxPackets pkt tsNow fuel' (p + packets.flatten.length) rcv' ∧
        pkt.length - (p + packets.flatten.length) < fuel' ∧ rcv'.peer = rcv.peer := by
  induction packets with
  | nil =>
    intro fuel p rcv _ _ hfuel
    exact ⟨fuel, rcv, by simp, by simpa using hfuel, rfl⟩
  | cons packet packets ih =>
    intro fuel p rcv hforeign hdrop hfuel
    obtain ⟨⟨hheader, ⟨n, hlength, hn⟩, htype⟩, hrest⟩ := List.forall_mem_cons.1 hforeign
    rw [List.flatten_cons, List.append_assoc] at hdrop
    have hlen := congrArg List.length hdrop
    rw [List.length_drop, List.length_append] at hlen
    obtain ⟨fuel, rfl⟩ : ∃ k, fuel = k + 1 := ⟨fuel - 1, by omega⟩
    obtain ⟨pt, hpt⟩ := byteAt_runs (show 1 < packet.length by omega)
    obtain ⟨rcv1, hparse⟩ := parsePacket_runs (show p + packet.length ≤ pkt.length by omega)
      (by omega) tsNow pt rcv
    have hround := rxPackets_packet fuel hdrop hheader hlength hn hpt hparse
    obtain ⟨fuel', rcv', hrun, hfuel', hpeer⟩ := ih fuel _ rcv1 hrest (drop_add hdrop)
      (by omega)
    refine ⟨fuel', rcv', ?_, ?_, hpeer.trans (parsePacket_foreign (htype pt hpt) hparse)⟩
    · rw [hround, hrun, List.flatten_cons, List.length_append, Nat.add_assoc]
    · rw [List.flatten_cons, List.length_append, ← Nat.add_assoc]
      exact hfuel'

lemma fields_type {α : Type} (sdes : Sdes α) : ∀ x ∈ sdes.fields, x.1 ≠ 0 := by
  simp [Sdes.fields]

lemma parsePacket_built (tsNow : UInt64) (rcv : Receiver) {packet : Bytes}
    {header : Bytes} (hitems : ∀ x ∈ sdes.fields, x.2.length ≤ 255)
    (htotal : itemsSize sdes.fields < sdesBufLen) (hheader : header.length = 8)
    (hpacket : packet = header ++ (sdes.fields.flatMap buildSdesItem ++ 0 :: List.replicate n 0))
    (hdrop : pkt.drop p = packet ++ tail) :
    ∃ rcv', parsePacket pkt p packet.length tsNow 202 rcv = .ok rcv' ∧ rcv'.peer = sdes := by
  have hlen := congrArg List.length hdrop
  rw [List.length_drop, List.length_append] at hlen
  have hplen : packet.length = 8 + ((sdes.fields.flatMap buildSdesItem).length + 1 + n) := by
    rw [hpacket, List.length_append, hheader, List.length_append, List.length_cons, List.length_replicate]
    omega
  have htypes : ∀ x ∈ sdes.fields, x.1 ≠ 0 ∧ x.2.length ≤ 255 := fun x hx => ⟨fields_type sdes x hx, hitems x hx⟩
  have hbody : pkt.drop (p + 8) = sdes.fields.flatMap buildSdesItem ++ 0 :: (List.replicate n 0 ++ tail) := by
    have h8 : pkt.drop (p + header.length) =
        sdes.fields.flatMap buildSdesItem ++ 0 :: List.replicate n 0 ++ tail :=
      drop_add (by rw [hdrop, hpacket, List.append_assoc])
    rw [hheader] at h8
    rw [h8, List.append_assoc, List.cons_append]
  obtain ⟨peerSdes, buf, hparse, hmap⟩ := parseSdesItems_items
    (show p + packet.length ≤ pkt.length by omega) sdes.fields (packet.length + 1) (p + 8) 0 (Sdes.const ⟨0, 0⟩)
    rcv.sdesBuf htypes hbody (by omega) (by omega) (by omega) Within.const
  refine ⟨{ rcv with peerSdes := peerSdes, sdesBuf := buf }, ?_, ?_⟩
  · have hrtcp : parseRtcpSdes pkt p packet.length rcv.sdesBuf = .ok (peerSdes, buf) := hparse
    unfold parsePacket
    rw [if_neg (by decide), if_pos rfl, hrtcp]
    rfl
  · have hempty : (Sdes.const ⟨0, 0⟩ : Sdes SdesStr).map rcv.sdesBuf.str = Sdes.const [] := by
      simp [Sdes.map, Sdes.const, SdesBuf.str]
    rw [hempty, place_fields] at hmap
    exact hmap

/-- Whatever is received, the parser ends without a read outside the packet or a copy outside the
buffer; and a record whose items fit the buffer comes back from the SDES packet that is built of
it, alone or between other packets. -/
theorem rtcp_sdes_round :
    (∀ (rcv : Receiver) (pkt : Bytes) (tsNow : UInt64), ∃ rcv', rxRtcp rcv pkt tsNow = .ok rcv') ∧
    ∀ (common : Common) (length : ℕ) (sdes : Sdes Bytes), (∀ x ∈ sdes.fields, x.2.length ≤ 255) →
      itemsSize sdes.fields < sdesBufLen → sdesPacketLen sdes ≤ length →
      ∃ packet, buildRtcpSdes common length sdes = .ok packet ∧
        ∀ (before behind : List Bytes), (∀ q ∈ before, Foreign q) → (∀ q ∈ behind, Foreign q) →
          ∀ (rcv : Receiver) (tsNow : UInt64), ∃ rcv',
            rxRtcp rcv (before.flatten ++ (packet ++ behind.flatten)) tsNow = .ok rcv' ∧ rcv'.peer = sdes := by
  refine ⟨fun rcv pkt tsNow => rxPackets_runs tsNow (pkt.length + 1) rcv (by omega), ?_⟩
  intro common length sdes hitems htotal hlen
  obtain ⟨n, hbuild, hn⟩ := buildRtcpSdes_ok common hitems hlen
  refine ⟨_, hbuild, fun before behind hbefore hbehind rcv tsNow => ?_⟩
  have hword := items_length sdes
  have hroom := sdesPacketLen_lt hitems
  generalize hheader : [common.flags, 202] ++ netBytes 2 (sdesPacketLen sdes / 4 - 1) ++
    netBytes 4 common.ssrc.toNat = header
  have hhlen : header.length = 8 := by rw [← hheader]; simp
  generalize hpacket : header ++ (sdes.fields.flatMap buildSdesItem ++ 0 :: List.replicate n 0) = packet
  have hplen : packet.length = sdesPacketLen sdes := by
    rw [← hpacket, List.length_append, hhlen, List.length_append, List.length_cons, List.length_replicate, ← hn]
    omega
  have hlength : ntohsAt packet 2 = .ok (sdesPacketLen sdes / 4 - 1) := by
    have hfield : (packet.drop 2).take 2 = netBytes 2 (sdesPacketLen sdes / 4 - 1) := by
      rw [← hpacket, ← hheader]
      simp only [List.append_assoc]
      exact List.take_left' (netBytes_length _ _)
    have hvalue : netValue (netBytes 2 (sdesPacketLen sdes / 4 - 1)) = sdesPacketLen sdes / 4 - 1 := by
      rw [netValue_netBytes, Nat.mod_eq_of_lt (by omega)]
    rw [ntohsAt, bytesAt_eq (by omega), hfield]
    exact congrArg Except.ok hvalue
  have htype : byteAt packet 1 = .ok 202 := by
    rw [← hpacket, ← hheader]
    rfl
  generalize hpkt : before.flatten ++ (packet ++ behind.flatten) = pkt
  have hpktlen := congrArg List.length hpkt
  rw [List.length_append, List.length_append] at hpktlen
  -- the packets before, the SDES packet, the packets behind
  obtain ⟨fuel1, rcv1, hrun1, hfuel1, -⟩ := rxPackets_foreign tsNow before (pkt.length + 1) 0 rcv
    hbefore (show pkt.drop 0 = before.flatten ++ (packet ++ behind.flatten) from hpkt.symm) (by omega)
  rw [Nat.zero_add] at hrun1 hfuel1
  obtain ⟨fuel1, rfl⟩ : ∃ k, fuel1 = k + 1 := ⟨fuel1 - 1, by omega⟩
  have hdrop1 : pkt.drop before.flatten.length = packet ++ behind.flatten := by rw [← hpkt, List.drop_left]
  obtain ⟨rcv2, hparse, hpeer⟩ := parsePacket_built tsNow rcv1 hitems htotal hhlen hpacket.symm hdrop1
  have hrun2 := rxPackets_packet fuel1 hdrop1 (by omega) hlength (by omega) htype hparse
  obtain ⟨fuel3, rcv3, hrun3, hfuel3, hpeer3⟩ := rxPackets_foreign tsNow behind fuel1
    (before.flatten.length + packet.length) rcv2 hbehind (drop_add hdrop1 |>.trans (List.append_nil _).symm) (by omega)
  obtain ⟨fuel3, rfl⟩ : ∃ k, fuel3 = k + 1 := ⟨fuel3 - 1, by omega⟩
  refine ⟨rcv3, ?_, hpeer3.trans hpeer⟩
  rw [rxRtcp, hrun1, hrun2, hrun3, rxPackets, if_neg (by omega)]

def sampleSdes : Sdes Bytes := ⟨lit "a@b", [], [], [], [], [], lit "on hold"⟩

def emptyReport : Bytes := [0x80, 201, 0, 1, 0, 0, 0, 1]

def freshReceiver : Receiver :=
  ⟨init2 1, Sdes.const ⟨0, 0⟩, ⟨List.replicate sdesBufLen 0, List.length_replicate⟩, []⟩

theorem rtcp_sdes_round_report : ∃ packet, buildRtcpSdes ⟨0x80, 1⟩ 1500 sampleSdes = .ok packet ∧
    ∃ rcv', rxRtcp freshReceiver ([emptyReport].flatten ++ (packet ++ [].flatten)) 0 = .ok rcv' ∧
      rcv'.peer = sampleSdes := by
  have hreport : Foreign emptyReport := by
    refine ⟨by decide, ⟨1, rfl, rfl⟩, fun pt h => ?_⟩
    obtain rfl := Except.ok.inj h
    decide
  obtain ⟨packet, hbuild, hround⟩ := rtcp_sdes_round.2 ⟨0x80, 1⟩ 1500 sampleSdes (by decide) (by decide) (by decide)
  exact ⟨packet, hbuild, hround [emptyReport] [] (by simpa using hreport) (by simp) freshReceiver 0⟩

end PjProject.Rtcp
