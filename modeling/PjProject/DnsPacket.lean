import PjProject.ByteOrder
import PjProject.DnsName

/-!
# DNS packets

`pj_dns_parse_packet` with the parsers of its two kinds of records. A name is stored in memory of the
length that `get_name_len` has counted.
-/
namespace PjProject.DnsPacket
open BoundedRead

structure ParsedQuery where
  name : Bytes
  type : UInt16
  dnsclass : UInt16
  deriving DecidableEq

/-- The `rdata` union, and `data` of the records that are not decoded. -/
inductive RData
  | a (ipAddr : Bytes)
  | aaaa (ipAddr : Bytes)
  | cname (name : Bytes)
  | srv (prio weight port : UInt16) (target : Bytes)
  | data (raw : Bytes)
  deriving DecidableEq

structure ParsedRr where
  name : Bytes
  type : UInt16
  dnsclass : UInt16
  ttl : UInt32
  rdlength : UInt16
  rdata : RData
  deriving DecidableEq

structure Hdr where
  id : UInt16
  flags : UInt16
  qdcount : UInt16
  anscount : UInt16
  nscount : UInt16
  arcount : UInt16
  deriving DecidableEq

structure ParsedPacket where
  hdr : Hdr
  q : List ParsedQuery
  ans : List ParsedRr
  ns : List ParsedRr
  arr : List ParsedRr
  deriving DecidableEq

def typeA : UInt16 := 1
def typeNs : UInt16 := 2
def typeCname : UInt16 := 5
def typePtr : UInt16 := 12
def typeAaaa : UInt16 := 28
def typeSrv : UInt16 := 33

/-- `sizeof(pj_dns_hdr)` -/
def hdrSize : ℕ := 12

def maxSectionCount : ℕ := 256

def read16 (pkt : Bytes) (p : ℕ) : Except Fault UInt16 := do
  let s ← read .badRead pkt p 2
  .ok (ByteOrder.get16 s 0)

def read32 (pkt : Bytes) (p : ℕ) : Except Fault UInt32 := do
  let s ← read .badRead pkt p 4
  .ok (ByteOrder.get32 s 0)

def parseQuery (pkt : Bytes) (start : ℕ) : Except Fault (ParsedQuery × ℕ) := do
  let len ← getNameLen pkt start
  let name ← getName pkt (len.2 + 4) start
  let p := start + len.1
  if pkt.length < p + 4 then .error (.status .inSize)
  else do
    let type ← read16 pkt p
    let dnsclass ← read16 pkt (p + 2)
    .ok (⟨name, type, dnsclass⟩, len.1 + 4)

def parseTarget (pkt : Bytes) (p : ℕ) : Except Fault (Bytes × ℕ) := do
  let len ← getNameLen pkt p
  let name ← getName pkt len.2 p
  .ok (name, len.1)

/-- Whether `parse_rr` insists on the class of this type. -/
def wellKnown (type : UInt16) : Bool :=
  type = typeA ∨ type = typeAaaa ∨ type = typeCname ∨ type = typeNs ∨ type = typePtr ∨ type = typeSrv

/-- The part of `parse_rr` from the data on, with the number of bytes that it goes forward. -/
def parseRData (pkt : Bytes) (type rdlength : UInt16) (p : ℕ) : Except Fault (RData × ℕ) :=
  if type = typeA then
    if pkt.length < p + 4 then .error (.status .inSize)
    else do
      let addr ← read .badRead pkt p 4
      .ok (.a addr, 4)
  else if type = typeAaaa then
    if pkt.length < p + 16 then .error (.status .inSize)
    else do
      let addr ← read .badRead pkt p 16
      .ok (.aaaa addr, 16)
  else if type = typeCname ∨ type = typeNs ∨ type = typePtr then do
    let target ← parseTarget pkt p
    .ok (.cname target.1, target.2)
  else if type = typeSrv then
    if pkt.length < p + 6 then .error (.status .inSize)
    else do
      let prio ← read16 pkt p
      let weight ← read16 pkt (p + 2)
      let port ← read16 pkt (p + 4)
      let target ← parseTarget pkt (p + 6)
      .ok (.srv prio weight port target.1, 6 + target.2)
  else do
    let raw ← read .badRead pkt p rdlength.toNat
    .ok (.data raw, rdlength.toNat)

def parseRr (pkt : Bytes) (start : ℕ) : Except Fault (ParsedRr × ℕ) := do
  let len ← getNameLen pkt start
  let name ← getName pkt (len.2 + 4) start
  let p := start + len.1
  if pkt.length < p + 10 then .error (.status .inSize)
  else do
    let type ← read16 pkt p
    let dnsclass ← read16 pkt (p + 2)
    if dnsclass ≠ 1 ∧ wellKnown type then .error (.status .inClass)
    else do
      let ttl ← read32 pkt (p + 4)
      let rdlength ← read16 pkt (p + 8)
      if pkt.length < p + 10 + rdlength.toNat then .error (.status .inSize)
      else do
        let r ← parseRData pkt type rdlength (p + 10)
        .ok (⟨name, type, dnsclass, ttl, rdlength, r.1⟩, len.1 + 10 + r.2)

def parseSection {α : Type} (parse : ℕ → Except Fault (α × ℕ)) : ℕ → ℕ → Except Fault (List α × ℕ)
  | 0, start => .ok ([], start)
  | n + 1, start => do
    let r ← parse start
    let rest ← parseSection parse n (start + r.2)
    .ok (r.1 :: rest.1, rest.2)

def parseHdr (packet : Bytes) : Hdr where
  id := ByteOrder.get16 packet 0
  flags := ByteOrder.get16 packet 2
  qdcount := ByteOrder.get16 packet 4
  anscount := ByteOrder.get16 packet 6
  nscount := ByteOrder.get16 packet 8
  arcount := ByteOrder.get16 packet 10

def Hdr.tooMany (hdr : Hdr) : Prop :=
  maxSectionCount < hdr.qdcount.toNat ∨ maxSectionCount < hdr.anscount.toNat ∨
    maxSectionCount < hdr.nscount.toNat ∨ maxSectionCount < hdr.arcount.toNat

instance (hdr : Hdr) : Decidable hdr.tooMany :=
  inferInstanceAs (Decidable (_ ∨ _ ∨ _ ∨ _))

def parsePacket (packet : Bytes) : Except Fault ParsedPacket :=
  if packet.length = 0 then .error (.status .inval)
  else if packet.length < hdrSize then .error (.status .inSize)
  else
    let hdr := parseHdr packet
    if hdr.tooMany then .error (.status .tooMany)
    else do
      let q ← parseSection (parseQuery packet) hdr.qdcount.toNat hdrSize
      let ans ← parseSection (parseRr packet) hdr.anscount.toNat q.2
      let ns ← parseSection (parseRr packet) hdr.nscount.toNat ans.2
      let arr ← parseSection (parseRr packet) hdr.arcount.toNat ns.2
      .ok ⟨hdr, q.1, ans.1, ns.1, arr.1⟩

section Names

variable {pkt : Bytes} {start k n cap : ℕ}

lemma getNameLen_sound (h : getNameLen pkt start = .ok (k, n)) :
    ∃ d tail name, pkt.drop start = d ++ tail ∧ NameIn pkt maxNameRecursion d name ∧
      k = d.length ∧ n = name.length := by
  obtain ⟨l, d, tail, name, hl, h⟩ := getNameLenRec_sound h
  cases hl
  exact ⟨d, tail, name, h⟩

lemma getName_of {d tail name : Bytes} (hat : pkt.drop start = d ++ tail)
    (h : NameIn pkt maxNameRecursion d name) (hcap : name.length ≤ cap) : getName pkt cap start = .ok name :=
  getNameRec_of hat h (by simpa using hcap)

lemma getName_ok (h : getNameLen pkt start = .ok (k, n)) (hcap : n ≤ cap) :
    ∃ name, getName pkt cap start = .ok name ∧ name.length = n := by
  obtain ⟨d, tail, name, hat, hname, -, rfl⟩ := getNameLen_sound h
  exact ⟨name, getName_of hat hname hcap, rfl⟩

lemma getNameLen_inside (h : getNameLen pkt start = .ok (k, n)) : start + k ≤ pkt.length := by
  obtain ⟨d, tail, name, hat, hname, rfl, -⟩ := getNameLen_sound h
  have hlen := congrArg List.length hat
  have hpos := hname.length_pos
  rw [List.length_drop, List.length_append] at hlen
  omega

lemma getNameLen_bound (h : getNameLen pkt start = .ok (k, n)) : n ≤ (maxNameRecursion + 1) * pkt.length := by
  have hin := getNameLen_inside h
  obtain ⟨d, tail, name, -, hname, rfl, rfl⟩ := getNameLen_sound h
  have := hname.name_length
  rw [Nat.succ_mul]
  omega

/-- The two passes over a name succeed exactly where labels stand that end in a zero byte or in a pointer to
such a name, with no more than `maxNameRecursion` pointers behind each other, and they read that name. -/
theorem names_exact (pkt name : Bytes) (start k : ℕ) :
    (getNameLen pkt start = .ok (k, name.length) ∧ getName pkt name.length start = .ok name) ↔
      ∃ d tail, pkt.drop start = d ++ tail ∧ NameIn pkt maxNameRecursion d name ∧ d.length = k := by
  constructor
  · rintro ⟨hlen, hname⟩
    obtain ⟨d, tail, name', hat, h, rfl, hn⟩ := getNameLen_sound hlen
    rw [getName_of hat h hn.ge] at hname
    obtain rfl := Except.ok.inj hname
    exact ⟨d, tail, hat, h, rfl⟩
  · rintro ⟨d, tail, hat, h, rfl⟩
    exact ⟨getNameLenRec_of hat h, getName_of hat h le_rfl⟩

end Names

section Inside

variable {pkt : Bytes} {start p : ℕ} {e : Fault}

lemma read16_avoids (h : p + 2 ≤ pkt.length) : Avoids e (read16 pkt p) := .bind (.read _ h) fun _ _ => .ok _

lemma read32_avoids (h : p + 4 ≤ pkt.length) : Avoids e (read32 pkt p) := .bind (.read _ h) fun _ _ => .ok _

lemma names_avoid {β : Type} {extra : ℕ} {f : ℕ × ℕ → Bytes → Except Fault β} (he : ∀ s, Fault.status s ≠ e)
    (hf : ∀ len name, start + len.1 ≤ pkt.length → Avoids e (f len name)) :
    Avoids e (do
      let len ← getNameLen pkt start
      let name ← getName pkt (len.2 + extra) start
      f len name) := by
  refine .bind (getNameLenRec_avoids he) fun len hlen => ?_
  obtain ⟨name, hname, -⟩ := getName_ok hlen (Nat.le_add_right _ extra)
  rw [hname, ok_bind]
  exact hf len name (getNameLen_inside hlen)

lemma parseQuery_avoids (he : ∀ s, Fault.status s ≠ e) : Avoids e (parseQuery pkt start) := by
  refine names_avoid he fun len name hin => ?_
  dsimp only
  split_ifs with hroom
  · exact .error (he _)
  · exact .bind (read16_avoids (by omega)) fun type _ => .bind (read16_avoids (by omega)) fun dnsclass _ => .ok _

lemma parseTarget_avoids (he : ∀ s, Fault.status s ≠ e) : Avoids e (parseTarget pkt p) :=
  @names_avoid pkt p e _ 0 _ he fun _ _ _ => .ok _

lemma parseRData_avoids {type rdlength : UInt16} (he : ∀ s, Fault.status s ≠ e)
    (h : p + rdlength.toNat ≤ pkt.length) : Avoids e (parseRData pkt type rdlength p) := by
  unfold parseRData
  split_ifs
  · exact .error (he _)
  · exact .bind (.read _ (by omega)) fun _ _ => .ok _
  · exact .error (he _)
  · exact .bind (.read _ (by omega)) fun _ _ => .ok _
  · exact .bind (parseTarget_avoids he) fun _ _ => .ok _
  · exact .error (he _)
  · exact .bind (read16_avoids (by omega)) fun _ _ => .bind (read16_avoids (by omega)) fun _ _ =>
      .bind (read16_avoids (by omega)) fun _ _ => .bind (parseTarget_avoids he) fun _ _ => .ok _
  · exact .bind (.read _ h) fun _ _ => .ok _

lemma parseRr_avoids (he : ∀ s, Fault.status s ≠ e) : Avoids e (parseRr pkt start) := by
  refine names_avoid he fun len name hin => ?_
  dsimp only
  split_ifs with hroom
  · exact .error (he _)
  · refine .bind (read16_avoids (by omega)) fun type _ => .bind (read16_avoids (by omega)) fun dnsclass _ => ?_
    split_ifs with hclass
    · exact .error (he _)
    · refine .bind (read32_avoids (by omega)) fun ttl _ => .bind (read16_avoids (by omega)) fun rdlength _ => ?_
      split_ifs with hlen
      · exact .error (he _)
      · exact .bind (parseRData_avoids he (by omega)) fun r _ => .ok _

lemma parseSection_avoids {α : Type} {parse : ℕ → Except Fault (α × ℕ)} (h : ∀ o, Avoids e (parse o)) (n : ℕ) :
    Avoids e (parseSection parse n start) := by
  induction n generalizing start with
  | zero => exact .ok _
  | succ n ih => exact .bind (h _) fun _ _ => .bind ih fun _ _ => .ok _

lemma parsePacket_avoids (he : ∀ s, Fault.status s ≠ e) : Avoids e (parsePacket pkt) := by
  have hq : ∀ o, Avoids e (parseQuery pkt o) := fun _ => parseQuery_avoids he
  have hrr : ∀ o, Avoids e (parseRr pkt o) := fun _ => parseRr_avoids he
  unfold parsePacket
  split_ifs
  · exact .error (he _)
  · exact .error (he _)
  · dsimp only
    split_ifs
    · exact .error (he _)
    · exact .bind (parseSection_avoids hq _) fun _ _ => .bind (parseSection_avoids hrr _) fun _ _ =>
        .bind (parseSection_avoids hrr _) fun _ _ => .bind (parseSection_avoids hrr _) fun _ _ => .ok _

end Inside

/-- The two walks over a name end, with pointers of any kind, and stay inside the packet. Where the first
one counts `n` characters the second one adds exactly `n`, so no parser writes outside of a name's memory. -/
theorem names_counted (pkt : Bytes) : (∀ left start, Avoids .badRead (getNameLenRec pkt left start)) ∧
    (∀ cap left start name, Avoids .badRead (getNameRec pkt cap left start name)) ∧
    (∀ start k n, getNameLen pkt start = .ok (k, n) →
      start + k ≤ pkt.length ∧ n ≤ (maxNameRecursion + 1) * pkt.length ∧
      ∀ cap name, name.length + n ≤ cap → ∃ added,
        getNameRec pkt cap (maxNameRecursion + 1) start name = .ok (name ++ added) ∧ added.length = n) ∧
    ∀ e ∈ [Fault.badRead, Fault.badWrite], Avoids e (parsePacket pkt) ∧
      ∀ start, Avoids e (parseQuery pkt start) ∧ Avoids e (parseRr pkt start) := by
  refine ⟨fun left start => getNameLenRec_avoids (by simp), fun cap left start name => getNameRec_avoids,
    fun start k n h => ⟨getNameLen_inside h, getNameLen_bound h, fun cap name hcap => ?_⟩, fun e he => ?_⟩
  · obtain ⟨d, tail, added, hat, hname, -, rfl⟩ := getNameLen_sound h
    exact ⟨added, getNameRec_of hat hname hcap, rfl⟩
  · have hs : ∀ s, Fault.status s ≠ e := by
      rintro s rfl
      simp at he
    exact ⟨parsePacket_avoids hs, fun start => ⟨parseQuery_avoids hs, parseRr_avoids hs⟩⟩

end PjProject.DnsPacket
