import PjProject.DnsPacket

/-!
# Where the records of a packet stand

A record says by `rdlength` where the next one begins. The parser goes forward by what it has decoded
of a known type instead, and the two are the same only where the data fills the announced length.
-/
namespace PjProject.DnsPacket
open BoundedRead

def nameExtent : Bytes → ℕ
  | [] => 0
  | c :: rest =>
    if c = 0 then 1 else if isPointer c then 2 else c.toNat + 1 + nameExtent (rest.drop c.toNat)
termination_by d => d.length
decreasing_by
  simp only [List.length_drop, List.length_cons]
  omega

def ownerEnd (pkt : Bytes) (start : ℕ) : ℕ := start + nameExtent (pkt.drop start)

def typeOf (pkt : Bytes) (start : ℕ) : UInt16 := ByteOrder.get16 pkt (ownerEnd pkt start)

def rdlengthOf (pkt : Bytes) (start : ℕ) : UInt16 := ByteOrder.get16 pkt (ownerEnd pkt start + 8)

def rdataOf (pkt : Bytes) (start : ℕ) : Bytes :=
  (pkt.drop (ownerEnd pkt start + 10)).take (rdlengthOf pkt start).toNat

def queryEnd (pkt : Bytes) (start : ℕ) : ℕ := ownerEnd pkt start + 4

def rrEnd (pkt : Bytes) (start : ℕ) : ℕ := ownerEnd pkt start + 10 + (rdlengthOf pkt start).toNat

def rrStart (pkt : Bytes) (i : ℕ) : ℕ :=
  (rrEnd pkt)^[i] ((queryEnd pkt)^[(parseHdr pkt).qdcount.toNat] hdrSize)

def rrCount (pkt : Bytes) : ℕ :=
  (parseHdr pkt).anscount.toNat + (parseHdr pkt).nscount.toNat + (parseHdr pkt).arcount.toNat

def dataExtent (type rdlength : UInt16) (d : Bytes) : ℕ :=
  if type = typeA then 4
  else if type = typeAaaa then 16
  else if type = typeCname ∨ type = typeNs ∨ type = typePtr then nameExtent d
  else if type = typeSrv then 6 + nameExtent (d.drop 6)
  else rdlength.toNat

def Fits (pkt : Bytes) (start : ℕ) : Prop :=
  dataExtent (typeOf pkt start) (rdlengthOf pkt start) (pkt.drop (ownerEnd pkt start + 10)) =
    (rdlengthOf pkt start).toNat

instance (pkt : Bytes) (start : ℕ) : Decidable (Fits pkt start) := inferInstanceAs (Decidable (_ = _))

def OwnData (pkt d : Bytes) : RData → Prop
  | .a ipAddr => ipAddr = d ∧ d.length = 4
  | .aaaa ipAddr => ipAddr = d ∧ d.length = 16
  | .cname name => NameIn pkt maxNameRecursion d name
  | .srv prio weight port target =>
    prio = ByteOrder.get16 d 0 ∧ weight = ByteOrder.get16 d 2 ∧ port = ByteOrder.get16 d 4 ∧
      NameIn pkt maxNameRecursion (d.drop 6) target
  | .data raw => raw = d

def Exact (pkt : Bytes) (start : ℕ) (rr : ParsedRr) (len : ℕ) : Prop :=
  len = nameExtent (pkt.drop start) + 10 + rr.rdlength.toNat ∧ OwnData pkt (rdataOf pkt start) rr.rdata

def InStep (pkt : Bytes) (res : ParsedPacket) : Prop :=
  ∀ i rr, (res.ans ++ (res.ns ++ res.arr))[i]? = some rr →
    ∃ len, parseRr pkt (rrStart pkt i) = .ok (rr, len) ∧ Exact pkt (rrStart pkt i) rr len

section Record

variable {pkt d tail name : Bytes} {start p left k n : ℕ}

lemma NameIn.extent (h : NameIn pkt left d name) : nameExtent (d ++ tail) = d.length := by
  induction h with
  | root => simp [nameExtent]
  | @label left c label d name hc hptr hlen h ih =>
    rw [List.cons_append, nameExtent, if_neg hc, if_neg (by simp [hptr]), List.append_assoc, ← hlen,
      List.drop_left, ih, List.length_cons, List.length_append]
    omega
  | @pointer left hi lo d tl name hptr hat h ih =>
    rw [List.cons_append, nameExtent, if_neg, if_pos hptr]
    · rfl
    · rintro rfl
      exact absurd hptr (by decide)

lemma getNameLen_extent (h : getNameLen pkt start = .ok (k, n)) : k = nameExtent (pkt.drop start) := by
  obtain ⟨d, tail, name, hat, hname, rfl, -⟩ := getNameLen_sound h
  rw [hat, hname.extent]

lemma get16_drop (pkt : Bytes) (p i : ℕ) : ByteOrder.get16 (pkt.drop p) i = ByteOrder.get16 pkt (p + i) := by
  simp [ByteOrder.get16, ByteOrder.byteAt, Nat.add_assoc]

lemma of_read16 {v : UInt16} (h : read16 pkt p = .ok v) : p + 2 ≤ pkt.length ∧ v = ByteOrder.get16 pkt p := by
  obtain ⟨s, hs, h⟩ := of_bind h
  obtain ⟨hlen, hat⟩ := of_read hs
  have hin := congrArg List.length hat
  rw [List.length_drop, List.length_append, hlen] at hin
  refine ⟨by omega, ?_⟩
  rw [← Except.ok.inj h, ← Nat.add_zero p, ← get16_drop, hat,
    ByteOrder.get16_append_left _ _ _ (by omega)]

lemma parseTarget_sound {target : Bytes} (h : parseTarget pkt p = .ok (target, k)) :
    ∃ d tail, pkt.drop p = d ++ tail ∧ k = d.length ∧ NameIn pkt maxNameRecursion d target := by
  obtain ⟨⟨k', n⟩, hlen, h⟩ := of_bind h
  obtain ⟨name, hget, h⟩ := of_bind h
  obtain ⟨d, tail, name', hat, hname, rfl, rfl⟩ := getNameLen_sound hlen
  rw [getName_of hat hname le_rfl] at hget
  cases hget
  cases h
  exact ⟨d, tail, hat, rfl, hname⟩

lemma parseRData_sound {type rdlength : UInt16} {rdata : RData}
    (h : parseRData pkt type rdlength p = .ok (rdata, k)) :
    k = dataExtent type rdlength (pkt.drop p) ∧ OwnData pkt ((pkt.drop p).take k) rdata := by
  unfold parseRData at h
  unfold dataExtent
  split_ifs at h ⊢ with hA hroom hAaaa hroom hname hsrv hroom
  · obtain ⟨addr, hread, h⟩ := of_bind h
    obtain ⟨hlen, hat⟩ := of_read hread
    cases h
    rw [hat, List.take_left' hlen]
    exact ⟨rfl, rfl, hlen⟩
  · obtain ⟨addr, hread, h⟩ := of_bind h
    obtain ⟨hlen, hat⟩ := of_read hread
    cases h
    rw [hat, List.take_left' hlen]
    exact ⟨rfl, rfl, hlen⟩
  · obtain ⟨⟨target, k'⟩, htarget, h⟩ := of_bind h
    obtain ⟨d, tail, hat, rfl, hd⟩ := parseTarget_sound htarget
    cases h
    rw [hat, List.take_left, hd.extent]
    exact ⟨rfl, hd⟩
  · obtain ⟨prio, hprio, h⟩ := of_bind h
    obtain ⟨weight, hweight, h⟩ := of_bind h
    obtain ⟨port, hport, h⟩ := of_bind h
    obtain ⟨⟨target, k'⟩, htarget, h⟩ := of_bind h
    obtain ⟨d, tail, hat, rfl, hd⟩ := parseTarget_sound htarget
    cases h
    obtain ⟨six, hsix, hfix⟩ : ∃ six, six.length = 6 ∧ pkt.drop p = six ++ (d ++ tail) := by
      refine ⟨(pkt.drop p).take 6, ?_, by rw [← hat, ← List.drop_drop, List.take_append_drop]⟩
      rw [List.length_take, List.length_drop]
      omega
    have hfield : ∀ i v, i + 1 < 6 → read16 pkt (p + i) = .ok v → v = ByteOrder.get16 (six ++ d) i := by
      intro i v hi hread
      rw [(of_read16 hread).2, ← get16_drop, hfix, ByteOrder.get16_append_left _ _ _ (by omega),
        ByteOrder.get16_append_left _ _ _ (by omega)]
    have hown : (pkt.drop p).take (6 + d.length) = six ++ d := by
      rw [hfix, ← hsix, ← List.append_assoc, ← List.length_append, List.take_left]
    rw [hown, List.drop_drop, hat, hd.extent]
    exact ⟨rfl, hfield 0 _ (by omega) hprio, hfield 2 _ (by omega) hweight, hfield 4 _ (by omega) hport,
      by rwa [List.drop_left' hsix]⟩
  · obtain ⟨raw, hread, h⟩ := of_bind h
    obtain ⟨hlen, hat⟩ := of_read hread
    cases h
    refine ⟨rfl, ?_⟩
    rw [hat, List.take_left' hlen]
    rfl

lemma parseRr_sound {rr : ParsedRr} {len : ℕ} (h : parseRr pkt start = .ok (rr, len)) :
    rr.rdlength = rdlengthOf pkt start ∧ ∃ k, len = nameExtent (pkt.drop start) + 10 + k ∧
        k = dataExtent (typeOf pkt start) (rdlengthOf pkt start) (pkt.drop (ownerEnd pkt start + 10)) ∧
        OwnData pkt ((pkt.drop (ownerEnd pkt start + 10)).take k) rr.rdata := by
  obtain ⟨⟨k, n⟩, hlen, h⟩ := of_bind h
  obtain ⟨name, hname, h⟩ := of_bind h
  have hk := getNameLen_extent hlen
  dsimp only at h
  split_ifs at h with hroom
  obtain ⟨type, htype, h⟩ := of_bind h
  obtain ⟨dnsclass, hclass, h⟩ := of_bind h
  split_ifs at h with hin
  obtain ⟨ttl, httl, h⟩ := of_bind h
  obtain ⟨rdlength, hrdlength, h⟩ := of_bind h
  split_ifs at h with hfit
  obtain ⟨⟨rdata, k'⟩, hdata, h⟩ := of_bind h
  cases h
  have hend : start + k = ownerEnd pkt start := by rw [ownerEnd, hk]
  obtain ⟨-, rfl⟩ := of_read16 htype
  obtain ⟨-, rfl⟩ := of_read16 hrdlength
  obtain ⟨hext, hown⟩ := parseRData_sound hdata
  rw [hend] at hext hown
  exact ⟨by rw [rdlengthOf, hend], k', by rw [hk], by rw [hext]; simp only [typeOf, rdlengthOf], hown⟩

lemma exact_iff {rr : ParsedRr} {len : ℕ} (h : parseRr pkt start = .ok (rr, len)) :
    Exact pkt start rr len ↔ Fits pkt start := by
  obtain ⟨hrd, k, rfl, hk, hown⟩ := parseRr_sound h
  unfold Exact Fits rdataOf
  rw [hrd, ← hk]
  constructor
  · rintro ⟨hlen, -⟩
    omega
  · intro hfit
    rw [hfit] at hown ⊢
    exact ⟨rfl, hown⟩

end Record

section Sections

variable {pkt : Bytes} {start stop m n : ℕ}

lemma parseQuery_end {q : ParsedQuery} {len : ℕ} (h : parseQuery pkt start = .ok (q, len)) :
    start + len = queryEnd pkt start := by
  obtain ⟨⟨k, n⟩, hlen, h⟩ := of_bind h
  obtain ⟨name, hname, h⟩ := of_bind h
  have hk := getNameLen_extent hlen
  dsimp only at h
  split_ifs at h
  obtain ⟨type, htype, h⟩ := of_bind h
  obtain ⟨dnsclass, hclass, h⟩ := of_bind h
  cases h
  rw [queryEnd, ownerEnd, ← hk, Nat.add_assoc]

lemma parseSection_positions {α : Type} {parse : ℕ → Except Fault (α × ℕ)} {next : ℕ → ℕ} {items : List α}
    (hstep : ∀ i < n, ∀ x len, parse (next^[i] start) = .ok (x, len) → next^[i] start + len = next^[i + 1] start)
    (h : parseSection parse n start = .ok (items, stop)) :
    stop = next^[n] start ∧ ∀ i x, items[i]? = some x → i < n ∧ ∃ len, parse (next^[i] start) = .ok (x, len) := by
  induction n generalizing start items with
  | zero =>
    cases h
    exact ⟨rfl, fun i x hx => by simp at hx⟩
  | succ n ih =>
    obtain ⟨⟨x, len⟩, hx, h⟩ := of_bind h
    obtain ⟨⟨rest, stop'⟩, hrest, h⟩ := of_bind h
    cases h
    have hnext : start + len = next start := hstep 0 (Nat.succ_pos n) x len hx
    rw [hnext] at hrest
    obtain ⟨hstop, hitems⟩ := ih (fun i hi => hstep (i + 1) (Nat.succ_lt_succ hi)) hrest
    refine ⟨hstop, fun i y hy => ?_⟩
    cases i with
    | zero =>
      cases hy
      exact ⟨Nat.succ_pos n, len, hx⟩
    | succ i =>
      obtain ⟨hi, hlen⟩ := hitems i y hy
      exact ⟨Nat.succ_lt_succ hi, hlen⟩

lemma parseSection_length {α : Type} {parse : ℕ → Except Fault (α × ℕ)} {items : List α}
    (h : parseSection parse n start = .ok (items, stop)) : items.length = n := by
  induction n generalizing start items with
  | zero =>
    cases h
    rfl
  | succ n ih =>
    obtain ⟨⟨x, len⟩, -, h⟩ := of_bind h
    obtain ⟨⟨rest, stop'⟩, hrest, h⟩ := of_bind h
    cases h
    rw [List.length_cons, ih hrest]

lemma parseSection_append {α : Type} {parse : ℕ → Except Fault (α × ℕ)} {xs ys : List α} {mid : ℕ}
    (h : parseSection parse m start = .ok (xs, mid)) (h' : parseSection parse n mid = .ok (ys, stop)) :
    parseSection parse (m + n) start = .ok (xs ++ ys, stop) := by
  induction m generalizing start xs with
  | zero =>
    cases h
    rwa [Nat.zero_add]
  | succ m ih =>
    obtain ⟨⟨x, len⟩, hx, h⟩ := of_bind h
    obtain ⟨⟨rest, mid'⟩, hrest, h⟩ := of_bind h
    cases h
    rw [Nat.succ_add, parseSection, hx, ok_bind, ih hrest]
    rfl

lemma parsePacket_records {res : ParsedPacket} (h : parsePacket pkt = .ok res) :
    ∃ stop, parseSection (parseRr pkt) (rrCount pkt) (rrStart pkt 0) =
      .ok (res.ans ++ (res.ns ++ res.arr), stop) := by
  unfold parsePacket at h
  split_ifs at h
  dsimp only at h
  split_ifs at h
  obtain ⟨⟨q, e0⟩, hq, h⟩ := of_bind h
  obtain ⟨⟨ans, e1⟩, hans, h⟩ := of_bind h
  obtain ⟨⟨ns, e2⟩, hns, h⟩ := of_bind h
  obtain ⟨⟨arr, e3⟩, harr, h⟩ := of_bind h
  cases h
  obtain ⟨rfl, -⟩ := @parseSection_positions _ _ _ _ _ (queryEnd pkt) _
    (fun i _ x len hx => by rw [Function.iterate_succ_apply', parseQuery_end hx]) hq
  refine ⟨e3, ?_⟩
  rw [rrCount, Nat.add_assoc]
  exact parseSection_append hans (parseSection_append hns harr)

end Sections

lemma inStep_iff {pkt : Bytes} {res : ParsedPacket} (h : parsePacket pkt = .ok res) :
    InStep pkt res ↔ ∀ i < rrCount pkt, Fits pkt (rrStart pkt i) := by
  obtain ⟨stop, hsec⟩ := parsePacket_records h
  have hcount := parseSection_length hsec
  constructor
  · intro hstep i hi
    have hget : (res.ans ++ (res.ns ++ res.arr))[i]? = some _ := List.getElem?_eq_getElem (hcount ▸ hi)
    obtain ⟨len, hrr, hexact⟩ := hstep i _ hget
    exact (exact_iff hrr).1 hexact
  · intro hfit i rr hrr
    have hnext : ∀ i < rrCount pkt, ∀ rr len, parseRr pkt ((rrEnd pkt)^[i] (rrStart pkt 0)) = .ok (rr, len) →
        (rrEnd pkt)^[i] (rrStart pkt 0) + len = (rrEnd pkt)^[i + 1] (rrStart pkt 0) := by
      intro i hi rr len hparse
      have hlen := ((exact_iff hparse).2 (hfit i hi)).1
      rw [Function.iterate_succ_apply', hlen, (parseRr_sound hparse).1, rrEnd, ownerEnd]
      omega
    obtain ⟨hi, len, hparse⟩ := (parseSection_positions hnext hsec).2 i rr hrr
    exact ⟨len, hparse, (exact_iff hparse).2 (hfit i hi)⟩

/-- A record that is accepted is read over its announced length and from its own data if and only if its
data fits; the records of a packet that is accepted are read from their true positions if and only if
that holds of every one of them. -/
theorem records_in_step_iff (pkt : Bytes) :
    (∀ start rr len, parseRr pkt start = .ok (rr, len) → (Exact pkt start rr len ↔ Fits pkt start)) ∧
    ∀ res, parsePacket pkt = .ok res → (InStep pkt res ↔ ∀ i < rrCount pkt, Fits pkt (rrStart pkt i)) :=
  ⟨fun _ _ _ h => exact_iff h, fun _ h => inStep_iff h⟩

def addressRecord (rdlength : UInt16) (data : Bytes) : Bytes :=
  [0] ++ (ByteOrder.put16 typeA ++ (ByteOrder.put16 1 ++ (ByteOrder.put32 0 ++ (ByteOrder.put16 rdlength ++ data))))

def answers (anscount : UInt16) (records : Bytes) : Bytes :=
  [0, 7, 0x80, 0, 0, 0] ++ (ByteOrder.put16 anscount ++ ([0, 0, 0, 0] ++ records))

def parsedAddress (rdlength : UInt16) (ipAddr : Bytes) : ParsedRr := ⟨[], typeA, 1, 0, rdlength, .a ipAddr⟩

/-- One answer whose address has the announced length. -/
theorem records_in_step_plain :
    InStep (answers 1 (addressRecord 4 [9, 9, 9, 9])) ⟨⟨7, 0x8000, 0, 1, 0, 0⟩, [], [parsedAddress 4 [9, 9, 9, 9]], [], []⟩ :=
  ((records_in_step_iff _).2 _ (by decide +kernel)).2 (by decide +kernel)

/-- Two answers, where the data of the first one goes on behind its address: what goes on is taken for
the second answer, and the true one is not looked at. -/
def nestedAnswers : Bytes :=
  answers 2 (addressRecord 19 ([9, 9, 9, 9] ++ addressRecord 4 [6, 6, 6, 6]) ++ addressRecord 4 [8, 8, 8, 8])

theorem nested_record_taken : ∃ res, parsePacket nestedAnswers = .ok res ∧
    res.ans[1]? = some (parsedAddress 4 [6, 6, 6, 6]) ∧
    parseRr nestedAnswers (rrStart nestedAnswers 1) = .ok (parsedAddress 4 [8, 8, 8, 8], 15) ∧
    ¬ InStep nestedAnswers res := by
  refine ⟨⟨⟨7, 0x8000, 0, 2, 0, 0⟩, [], [parsedAddress 19 [9, 9, 9, 9], parsedAddress 4 [6, 6, 6, 6]], [], []⟩,
    by decide +kernel, rfl, by decide +kernel, fun hstep => ?_⟩
  obtain ⟨len, hparse, -⟩ := hstep 1 _ rfl
  have htrue : parseRr nestedAnswers (rrStart nestedAnswers 1) = .ok (parsedAddress 4 [8, 8, 8, 8], 15) := by
    decide +kernel
  rw [htrue] at hparse
  exact absurd (congrArg ParsedRr.rdata (Prod.ext_iff.1 (Except.ok.inj hparse)).1) (by simp [parsedAddress])

end PjProject.DnsPacket
