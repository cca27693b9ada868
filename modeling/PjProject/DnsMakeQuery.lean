import PjProject.DnsPacket

/-!
# Queries

`pj_dns_make_query`, and what `pj_dns_parse_packet` makes of the packet that it writes.
-/
namespace PjProject.DnsPacket
open BoundedRead

/-- `PJ_DNS_SET_RD(1)` -/
def setRd : UInt16 := 0x0100

/-- The header, with all counts but `qdcount` zero. -/
def queryHdr (id : UInt16) : Bytes :=
  ByteOrder.put16 id ++ (ByteOrder.put16 setRd ++ (ByteOrder.put16 1 ++ List.replicate 6 0))

lemma dropWhile_label (name : Bytes) (h : name ≠ []) :
    ((name.dropWhile (· ≠ 0x2E)).drop 1).length < name.length := by
  have hlen := (List.dropWhile_suffix (l := name) (· ≠ 0x2E)).length_le
  have hpos := List.length_pos_iff.2 h
  rw [List.length_drop]
  omega

def encodeLoop (size : ℕ) (name out : Bytes) : Except Fault Bytes :=
  if _ : name = [] then .ok out
  else do
    let label := name.takeWhile (· ≠ 0x2E)
    let out ← append .badWrite size out [UInt8.ofNat label.length]
    let out ← append .badWrite size out label
    encodeLoop size ((name.dropWhile (· ≠ 0x2E)).drop 1) out
termination_by name.length
decreasing_by exact dropWhile_label name ‹_›

/-- `pj_dns_make_query`, with `size` the room in the packet; the packet that it gives has the new size. -/
def makeQuery (size : ℕ) (id : UInt16) (qtype : ℤ) (name : Bytes) : Except Fault Bytes :=
  if qtype = 0 then .error (.status .inval)
  else if size < hdrSize + (name.length + 2) + 4 then .error (.status .qryTooSmall)
  else do
    let out ← append .badWrite size [] (queryHdr id)
    let out ← encodeLoop size name out
    let out ← append .badWrite size out [0]
    let out ← append .badWrite size out (ByteOrder.put16 (UInt16.ofInt qtype))
    append .badWrite size out (ByteOrder.put16 1)

def encoded (name : Bytes) : Bytes :=
  if _ : name = [] then []
  else
    UInt8.ofNat (name.takeWhile (· ≠ 0x2E)).length ::
      (name.takeWhile (· ≠ 0x2E) ++ encoded ((name.dropWhile (· ≠ 0x2E)).drop 1))
termination_by name.length
decreasing_by exact dropWhile_label name ‹_›

@[simp] lemma encoded_nil : encoded [] = [] := by
  rw [encoded, dif_pos rfl]

lemma encoded_length (name : Bytes) : (encoded name).length ≤ name.length + 1 := by
  induction hm : name.length using Nat.strong_induction_on generalizing name with
  | _ m ih =>
    rw [encoded]
    split_ifs with h
    · simp
    · have hrest := ih _ (hm ▸ dropWhile_label name h) _ rfl
      have hsplit := congrArg List.length (List.takeWhile_append_dropWhile (p := fun c : UInt8 => decide (c ≠ 0x2E))
        (l := name))
      rw [List.length_append] at hsplit
      rw [List.length_drop] at hrest
      simp only [List.length_cons, List.length_append]
      cases hd : name.dropWhile (· ≠ 0x2E) with
      | nil =>
        rw [hd] at hsplit
        rw [List.length_nil] at hsplit
        rw [List.drop_nil, encoded_nil, List.length_nil]
        omega
      | cons c rest =>
        rw [hd, List.length_cons] at hsplit hrest
        omega

lemma encodeLoop_eq {size : ℕ} (name out : Bytes) (h : out.length + (encoded name).length ≤ size) :
    encodeLoop size name out = .ok (out ++ encoded name) := by
  induction hm : name.length using Nat.strong_induction_on generalizing name out with
  | _ m ih =>
    rw [encodeLoop]
    rw [encoded] at h ⊢
    split_ifs at h ⊢ with hname
    · rw [List.append_nil]
    · simp only [List.length_cons, List.length_append] at h
      dsimp only
      rw [append_ok (by rw [List.length_singleton]; omega), ok_bind,
        append_ok (by rw [List.length_append, List.length_singleton]; omega), ok_bind,
        ih _ (hm ▸ dropWhile_label name hname) _ _
          (by simp only [List.length_append, List.length_singleton]; omega) rfl]
      simp only [List.append_assoc, List.cons_append, List.nil_append]

def queryPacket (id : UInt16) (qtype : ℤ) (name : Bytes) : Bytes :=
  queryHdr id ++ (encoded name ++ ([0] ++ (ByteOrder.put16 (UInt16.ofInt qtype) ++ ByteOrder.put16 1)))

lemma queryPacket_length (id : UInt16) (qtype : ℤ) (name : Bytes) :
    (queryPacket id qtype name).length ≤ hdrSize + (name.length + 2) + 4 := by
  have := encoded_length name
  simp only [queryPacket, queryHdr, hdrSize, List.length_append, ByteOrder.put16_length, List.length_replicate,
    List.length_singleton]
  omega

lemma makeQuery_eq {size : ℕ} {id : UInt16} {qtype : ℤ} {name : Bytes} (htype : qtype ≠ 0)
    (hsize : hdrSize + (name.length + 2) + 4 ≤ size) :
    makeQuery size id qtype name = .ok (queryPacket id qtype name) := by
  have hlen := encoded_length name
  have hhdr : (queryHdr id).length = hdrSize := rfl
  have h0 : (queryHdr id).length + (encoded name).length + 5 ≤ size := by omega
  rw [makeQuery, if_neg htype, if_neg (by omega), append_ok (by rw [List.length_nil]; omega), ok_bind,
    List.nil_append, encodeLoop_eq _ _ (by omega), ok_bind,
    append_ok (by simp only [List.length_append, List.length_singleton]; omega), ok_bind,
    append_ok (by simp only [List.length_append, List.length_singleton, ByteOrder.put16_length]; omega), ok_bind,
    append_ok (by simp only [List.length_append, List.length_singleton, ByteOrder.put16_length]; omega)]
  simp only [queryPacket, List.append_assoc]

def GoodLabel (label : Bytes) : Prop := label ≠ [] ∧ label.length ≤ 63 ∧ 0x2E ∉ label

def joined : List Bytes → Bytes
  | [] => []
  | [label] => label
  | label :: next :: rest => label ++ 0x2E :: joined (next :: rest)

def WellFormed (name : Bytes) : Prop :=
  ∃ labels, (∀ label ∈ labels, GoodLabel label) ∧
    (name = joined labels ∨ labels ≠ [] ∧ name = joined labels ++ lit ".")

def withoutTrailingDot (name : Bytes) : Bytes := if name.getLast? = some 0x2E then name.dropLast else name

def labelBytes (label : Bytes) : Bytes := UInt8.ofNat label.length :: label

section Labels

variable {label rest : Bytes} {labels : List Bytes}

lemma GoodLabel.takeWhile (h : GoodLabel label) (hrest : rest = [] ∨ ∃ t, rest = 0x2E :: t) :
    (label ++ rest).takeWhile (· ≠ 0x2E) = label ∧ (label ++ rest).dropWhile (· ≠ 0x2E) = rest := by
  have hall : ∀ c ∈ label, decide (c ≠ 0x2E) = true := by
    intro c hc
    simp only [decide_eq_true_eq]
    rintro rfl
    exact h.2.2 hc
  rw [List.takeWhile_append_of_pos hall, List.dropWhile_append_of_pos hall]
  obtain rfl | ⟨t, rfl⟩ := hrest
  · simp
  · simp

lemma GoodLabel.encoded (h : GoodLabel label) (hrest : rest = [] ∨ ∃ t, rest = 0x2E :: t) :
    DnsPacket.encoded (label ++ rest) = labelBytes label ++ DnsPacket.encoded (rest.drop 1) := by
  obtain ⟨htake, hdrop⟩ := h.takeWhile hrest
  rw [DnsPacket.encoded, dif_neg (by simp [h.1]), htake, hdrop]
  rfl

lemma encoded_joined (h : ∀ label ∈ labels, GoodLabel label) (hrest : rest = [] ∨ labels ≠ [] ∧ rest = lit ".") :
    encoded (joined labels ++ rest) = labels.flatMap labelBytes := by
  induction labels with
  | nil =>
    obtain rfl | ⟨hne, -⟩ := hrest
    · simp [joined]
    · exact absurd rfl hne
  | cons label labels ih =>
    have hlabel := h label List.mem_cons_self
    cases labels with
    | nil =>
      obtain rfl | ⟨-, rfl⟩ := hrest
      · rw [joined, hlabel.encoded (.inl rfl), List.drop_nil, encoded_nil]
        rfl
      · have hdot : lit "." = [0x2E] := rfl
        rw [joined, hdot, hlabel.encoded (.inr ⟨[], rfl⟩)]
        simp
    | cons next labels =>
      have hrest' : rest = [] ∨ next :: labels ≠ [] ∧ rest = lit "." :=
        hrest.imp_right fun hr => ⟨by simp, hr.2⟩
      rw [joined, List.append_assoc, List.cons_append, hlabel.encoded (.inr ⟨_, rfl⟩), List.drop_one, List.tail_cons,
        ih (fun l hl => h l (List.mem_cons_of_mem _ hl)) hrest']
      rfl

lemma GoodLabel.byte (h : GoodLabel label) :
    UInt8.ofNat label.length ≠ 0 ∧ isPointer (UInt8.ofNat label.length) = false ∧
      label.length = (UInt8.ofNat label.length).toNat := by
  have hall : ∀ n < 64, n ≠ 0 → UInt8.ofNat n ≠ 0 ∧ isPointer (UInt8.ofNat n) = false ∧
      n = (UInt8.ofNat n).toNat := by
    decide
  exact hall _ (by have := h.2.1; omega) (List.length_pos_iff.2 h.1).ne'

lemma nameIn_labels {pkt : Bytes} {left : ℕ} (h : ∀ label ∈ labels, GoodLabel label) :
    NameIn pkt left (labels.flatMap labelBytes ++ [0]) (joined labels) := by
  induction labels with
  | nil => exact .root
  | cons label labels ih =>
    obtain ⟨hzero, hptr, hlen⟩ := (h label List.mem_cons_self).byte
    have hname := NameIn.label hzero hptr hlen (ih fun l hl => h l (List.mem_cons_of_mem _ hl))
    cases labels with
    | nil => simpa [joined, labelBytes, dotBefore] using hname
    | cons next labels =>
      have hnext := (h next (by simp)).byte.1
      simpa [joined, labelBytes, dotBefore, hnext, lit] using hname

lemma joined_last (h : ∀ label ∈ labels, GoodLabel label) : (joined labels).getLast? ≠ some 0x2E := by
  induction labels with
  | nil => simp [joined]
  | cons label labels ih =>
    cases labels with
    | nil =>
      intro hlast
      exact (h label List.mem_cons_self).2.2 (List.mem_of_getLast? hlast)
    | cons next labels =>
      have hih := ih fun l hl => h l (List.mem_cons_of_mem _ hl)
      have hne : joined (next :: labels) ≠ [] := by
        have := (h next (by simp)).1
        cases labels <;> simp [joined, this]
      rwa [joined, List.getLast?_append_of_ne_nil _ (by simp), List.getLast?_cons_of_ne_nil hne]

end Labels

lemma read16_of {pkt tail : Bytes} {p : ℕ} {v : UInt16} (h : pkt.drop p = ByteOrder.put16 v ++ tail) :
    read16 pkt p = .ok v := by
  have hlen := congrArg List.length h
  rw [List.length_drop, List.length_append, ByteOrder.put16_length] at hlen
  rw [read16, read_of_drop (n := 2) h (by omega) rfl, ok_bind]
  have := ByteOrder.get16_put16 v []
  rw [List.append_nil] at this
  rw [this]

lemma parseHdr_query (id : UInt16) (rest : Bytes) : parseHdr (queryHdr id ++ rest) = ⟨id, setRd, 1, 0, 0, 0⟩ := by
  have hid : ByteOrder.get16 (queryHdr id ++ rest) 0 = id := by
    rw [queryHdr, List.append_assoc, ByteOrder.get16_put16]
  have hbehind : ∀ i, ByteOrder.get16 (queryHdr id ++ rest) (2 + i) =
      ByteOrder.get16 (ByteOrder.put16 setRd ++ (ByteOrder.put16 1 ++ (List.replicate 6 0 ++ rest))) i := by
    intro i
    simp only [queryHdr, List.append_assoc]
    rw [ByteOrder.get16_append_right _ _ _ (by simp), ByteOrder.put16_length, Nat.add_sub_cancel_left]
  have hflags := hbehind 0
  have hqd : ByteOrder.get16 (queryHdr id ++ rest) (2 + 2) = 1 := by
    rw [hbehind, ByteOrder.get16_append_right _ _ _ (by simp)]
    exact ByteOrder.get16_put16 1 _
  have hzero : ∀ i, i + 1 < 6 → ByteOrder.get16 (queryHdr id ++ rest) (6 + i) = 0 := by
    intro i hi
    rw [show 6 + i = 2 + (4 + i) by omega, hbehind, ByteOrder.get16_append_right _ _ _ (by simp; omega),
      ByteOrder.get16_append_right _ _ _ (by simp; omega), ByteOrder.get16_append_left _ _ _ (by simp; omega)]
    have hlt : i < 5 := by omega
    interval_cases i <;> rfl
  rw [ByteOrder.get16_put16] at hflags
  rw [parseHdr, hid, hflags, hqd, hzero 0 (by omega), hzero 2 (by omega),
    hzero 4 (by omega)]

lemma parseQuery_of {pkt d name tail : Bytes} {start : ℕ} {type dnsclass : UInt16}
    (hat : pkt.drop start = d ++ (ByteOrder.put16 type ++ (ByteOrder.put16 dnsclass ++ tail)))
    (h : NameIn pkt maxNameRecursion d name) :
    parseQuery pkt start = .ok (⟨name, type, dnsclass⟩, d.length + 4) := by
  have hlen : getNameLen pkt start = .ok (d.length, name.length) := getNameLenRec_of hat h
  have htype := drop_of_drop hat
  have hclass : pkt.drop (start + d.length + 2) = ByteOrder.put16 dnsclass ++ tail := drop_of_drop htype
  have hroom := congrArg List.length htype
  simp only [List.length_drop, List.length_append, ByteOrder.put16_length] at hroom
  rw [parseQuery, hlen, ok_bind, getName_of hat h (Nat.le_add_right _ _), ok_bind]
  dsimp only
  rw [if_neg (by omega), read16_of htype, ok_bind, read16_of hclass, ok_bind]

lemma parsePacket_query {id type : UInt16} {d name : Bytes} (h : ∀ pkt, NameIn pkt maxNameRecursion d name) :
    parsePacket (queryHdr id ++ (d ++ (ByteOrder.put16 type ++ ByteOrder.put16 1))) =
      .ok ⟨⟨id, setRd, 1, 0, 0, 0⟩, [⟨name, type, 1⟩], [], [], []⟩ := by
  have hat : (queryHdr id ++ (d ++ (ByteOrder.put16 type ++ ByteOrder.put16 1))).drop hdrSize =
      d ++ (ByteOrder.put16 type ++ (ByteOrder.put16 1 ++ [])) := by
    rw [List.append_nil]
    exact List.drop_left' rfl
  have hquery := parseQuery_of hat (h _)
  have hlen : (queryHdr id).length = hdrSize := rfl
  rw [parsePacket, if_neg (by rw [List.length_append, hlen, hdrSize]; omega),
    if_neg (by rw [List.length_append, hlen]; omega), parseHdr_query]
  dsimp only
  rw [if_neg (by simp [Hdr.tooMany, maxSectionCount]), UInt16.toNat_one, parseSection, hquery]
  rfl

/-- What the query maker owes: it stays in its room, it refuses a name that is not well-formed, and the
packet of any other is one question for that name. -/
def Meets (size : ℕ) (id : UInt16) (qtype : ℤ) (name : Bytes) : Prop :=
  Avoids .badWrite (makeQuery size id qtype name) ∧
  ∀ packet, makeQuery size id qtype name = .ok packet → packet.length ≤ size ∧ WellFormed name ∧
    ∃ res q, parsePacket packet = .ok res ∧ res.hdr.id = id ∧ res.q = [q] ∧ (q.type.toNat : ℤ) = qtype ∧
      q.dnsclass = 1 ∧ q.name = withoutTrailingDot name

/-- The query maker does what it owes if and only if it refuses the call, or the name is well-formed and the
type a number of 16 bits. -/
theorem make_query_iff (size : ℕ) (id : UInt16) (qtype : ℤ) (name : Bytes) : Meets size id qtype name ↔
      (qtype ≠ 0 → hdrSize + (name.length + 2) + 4 ≤ size → WellFormed name ∧ 0 ≤ qtype ∧ qtype < 2 ^ 16) := by
  constructor
  · rintro ⟨-, h⟩ htype hsize
    obtain ⟨-, hname, res, q, -, -, -, rfl, -, -⟩ := h _ (makeQuery_eq htype hsize)
    exact ⟨hname, Int.natCast_nonneg _, by exact_mod_cast q.type.toNat_lt⟩
  · intro h
    by_cases htype : qtype = 0
    · rw [Meets, makeQuery, if_pos htype]
      exact ⟨.error (by simp), fun packet hp => by cases hp⟩
    · by_cases hsize : size < hdrSize + (name.length + 2) + 4
      · rw [Meets, makeQuery, if_neg htype, if_pos hsize]
        exact ⟨.error (by simp), fun packet hp => by cases hp⟩
      · obtain ⟨hname, hpos, hlt⟩ := h htype (Nat.not_lt.1 hsize)
        rw [Meets, makeQuery_eq htype (Nat.not_lt.1 hsize)]
        refine ⟨.ok _, fun packet hp => ?_⟩
        cases hp
        refine ⟨(queryPacket_length ..).trans (Nat.not_lt.1 hsize), hname, ?_⟩
        have htoNat : ((UInt16.ofInt qtype).toNat : ℤ) = qtype := by
          rw [UInt16.ofInt, UInt16.toNat_ofNat', Int.emod_eq_of_lt hpos hlt]
          omega
        obtain ⟨labels, hlabels, hjoined⟩ := hname
        have henc : encoded name = labels.flatMap labelBytes := by
          obtain rfl | ⟨hne, rfl⟩ := hjoined
          · simpa using encoded_joined hlabels (.inl rfl)
          · exact encoded_joined hlabels (.inr ⟨hne, rfl⟩)
        have htrail : withoutTrailingDot name = joined labels := by
          obtain rfl | ⟨hne, rfl⟩ := hjoined
          · exact if_neg (joined_last hlabels)
          · simp [withoutTrailingDot, lit]
        have hparse := @parsePacket_query id (UInt16.ofInt qtype) _ _ fun pkt => nameIn_labels hlabels
        refine ⟨⟨⟨id, setRd, 1, 0, 0, 0⟩, [⟨joined labels, UInt16.ofInt qtype, 1⟩], [], [], []⟩, _, ?_,
          rfl, rfl, htoNat, rfl, htrail.symm⟩
        rw [queryPacket, henc, ← hparse, List.append_assoc]

/-- The packet for a name with two dots in a row asks for what stands in front of them. -/
theorem empty_label_not_refused : makeQuery 512 7 1 (lit "a..b") = .ok (queryPacket 7 1 (lit "a..b")) ∧
    parsePacket (queryPacket 7 1 (lit "a..b")) =
      .ok ⟨⟨7, setRd, 1, 0, 0, 0⟩, [⟨lit "a", 0x0162, 0⟩], [], [], []⟩ ∧ ¬ Meets 512 7 1 (lit "a..b") := by
  have hmake : makeQuery 512 7 1 (lit "a..b") = .ok (queryPacket 7 1 (lit "a..b")) := makeQuery_eq (by decide) (by decide)
  have hparse : parsePacket (queryPacket 7 1 (lit "a..b")) =
      .ok ⟨⟨7, setRd, 1, 0, 0, 0⟩, [⟨lit "a", 0x0162, 0⟩], [], [], []⟩ := by
    decide +kernel
  refine ⟨hmake, hparse, fun ⟨_, h⟩ => ?_⟩
  obtain ⟨-, -, res, q, hres, -, hq, htype, -⟩ := h _ hmake
  rw [hparse] at hres
  cases hres
  cases hq
  exact absurd htype (by decide)

end PjProject.DnsPacket
