import PjProject.BoundedRead
import PjProject.PjString

/-!
# Domain names in a packet

`dns.c`: the two walks over a name, of which one counts and the other copies. A name is a row of
labels that ends in a zero byte or in a pointer to another name of the packet.
-/
namespace PjProject.DnsPacket
open BoundedRead

inductive Status
  | inval | inSize | inNamePtr | inClass | tooMany | qryTooSmall
  deriving DecidableEq

/-- How a run over a packet ends early: with a status, with a read outside of the packet, and with a
write outside of the memory that the name was given. -/
inductive Fault
  | status (s : Status)
  | badRead
  | badWrite
  deriving DecidableEq

def maxNameRecursion : ℕ := 5

/-- `(*p & 0xc0) == 0xc0` -/
def isPointer (c : UInt8) : Bool := c &&& 0xC0 = 0xC0

def offsetOf (hi lo : UInt8) : ℕ := (hi ^^^ 0xC0).toNat * 256 + lo.toNat

/-- The `while` loop of `get_name_len`, with the counters so far and the call that it makes for a pointer. -/
def nameLenLoop (pkt : Bytes) (next : ℕ → Except Fault (ℕ × ℕ)) (p parsedLen nameLen : ℕ) :
    Except Fault (ℕ × ℕ) :=
  if h : pkt.length ≤ p then .ok (parsedLen + 1, nameLen)
  else do
    let c ← get .badRead pkt p
    if c = 0 then .ok (parsedLen + 1, nameLen)
    else if isPointer c then
      if pkt.length ≤ p + 1 then .error (.status .inNamePtr)
      else do
        let lo ← get .badRead pkt (p + 1)
        if pkt.length ≤ offsetOf c lo then .error (.status .inNamePtr)
        else do
          let r ← next (offsetOf c lo)
          .ok (parsedLen + 2, nameLen + r.2)
    else if pkt.length < p + 1 + c.toNat + 1 then .error (.status .inNamePtr)
    else do
      let d ← get .badRead pkt (p + c.toNat + 1)
      nameLenLoop pkt next (p + c.toNat + 1) (parsedLen + c.toNat + 1)
        (nameLen + if d = 0 then c.toNat else c.toNat + 1)
termination_by pkt.length - p
decreasing_by omega

/-- `get_name_len`, with the number of calls that are left in place of `rec_counter` -/
def getNameLenRec (pkt : Bytes) : ℕ → ℕ → Except Fault (ℕ × ℕ)
  | 0, _ => .error (.status .inNamePtr)
  | left + 1, start =>
    if pkt.length ≤ start then .error (.status .inNamePtr)
    else nameLenLoop pkt (getNameLenRec pkt left) start 0 0

def appendDot (cap : ℕ) (name : Bytes) (c : UInt8) : Except Fault Bytes :=
  if c = 0 then .ok name else append .badWrite cap name (lit ".")

/-- The `while` loop of `get_name`, with the room of the name's memory. -/
def nameLoop (pkt : Bytes) (cap : ℕ) (next : ℕ → Bytes → Except Fault Bytes) (p : ℕ) (name : Bytes) :
    Except Fault Bytes :=
  if h : pkt.length ≤ p then .ok name
  else do
    let c ← get .badRead pkt p
    if c = 0 then .ok name
    else if isPointer c then
      if pkt.length ≤ p + 1 then .error (.status .inNamePtr)
      else do
        let lo ← get .badRead pkt (p + 1)
        if pkt.length ≤ offsetOf c lo then .error (.status .inNamePtr) else next (offsetOf c lo) name
    else if pkt.length < p + 1 + c.toNat + 1 then .error (.status .inNamePtr)
    else do
      let label ← read .badRead pkt (p + 1) c.toNat
      let name ← append .badWrite cap name label
      let d ← get .badRead pkt (p + c.toNat + 1)
      let name ← appendDot cap name d
      nameLoop pkt cap next (p + c.toNat + 1) name
termination_by pkt.length - p
decreasing_by omega

def getNameRec (pkt : Bytes) (cap : ℕ) : ℕ → ℕ → Bytes → Except Fault Bytes
  | 0, _, _ => .error (.status .inNamePtr)
  | left + 1, start, name =>
    if pkt.length ≤ start then .error (.status .inNamePtr)
    else nameLoop pkt cap (getNameRec pkt cap left) start name

/-- `get_name_len` as it is called from outside -/
def getNameLen (pkt : Bytes) (start : ℕ) : Except Fault (ℕ × ℕ) :=
  getNameLenRec pkt (maxNameRecursion + 1) start

/-- `get_name` as it is called from outside, for a name of which nothing is there yet -/
def getName (pkt : Bytes) (cap start : ℕ) : Except Fault Bytes :=
  getNameRec pkt cap (maxNameRecursion + 1) start []

def dotBefore (d : Bytes) : Bytes := if d.head? = some 0 then [] else lit "."

inductive NameIn (pkt : Bytes) : ℕ → Bytes → Bytes → Prop
  | root {left : ℕ} : NameIn pkt left [0] []
  | label {left : ℕ} {c : UInt8} {label d name : Bytes} (hc : c ≠ 0) (hptr : isPointer c = false)
      (hlen : label.length = c.toNat) (h : NameIn pkt left d name) :
      NameIn pkt left (c :: (label ++ d)) (label ++ (dotBefore d ++ name))
  | pointer {left : ℕ} {hi lo : UInt8} {d tail name : Bytes} (hptr : isPointer hi = true)
      (hat : pkt.drop (offsetOf hi lo) = d ++ tail) (h : NameIn pkt left d name) :
      NameIn pkt (left + 1) [hi, lo] name

section Spec

variable {pkt d tail name : Bytes} {left p start cap : ℕ}

lemma NameIn.ne_nil (h : NameIn pkt left d name) : d ≠ [] := by
  cases h <;> simp

lemma NameIn.length_pos (h : NameIn pkt left d name) : 0 < d.length := List.length_pos_iff.2 h.ne_nil

lemma NameIn.name_length (h : NameIn pkt left d name) : name.length ≤ d.length + left * pkt.length := by
  induction h with
  | root => simp
  | @label left c label d name hc hptr hlen h ih =>
    have hdot : (dotBefore d).length ≤ 1 := by
      unfold dotBefore
      split_ifs <;> decide
    simp only [List.length_append, List.length_cons]
    omega
  | @pointer left hi lo d tail name hptr hat h ih =>
    have hd := congrArg List.length hat
    rw [List.length_drop, List.length_append] at hd
    rw [Nat.succ_mul]
    simp only [List.length_cons, List.length_nil]
    omega

end Spec

section Walk

variable {pkt d tail name : Bytes} {left p start cap : ℕ}

lemma lt_of_drop {c : UInt8} {rest : Bytes} (h : pkt.drop p = c :: rest) : p + rest.length + 1 = pkt.length := by
  have hlen := congrArg List.length h
  rw [List.length_drop, List.length_cons] at hlen
  omega

lemma drop_of_drop {s rest : Bytes} (h : pkt.drop p = s ++ rest) : pkt.drop (p + s.length) = rest := by
  rw [← List.drop_drop, h, List.drop_left]

lemma drop_label (pkt : Bytes) (p n : ℕ) :
    (pkt.drop (p + 1)).take n ++ pkt.drop (p + n + 1) = pkt.drop (p + 1) := by
  rw [show p + n + 1 = p + 1 + n by omega, ← List.drop_drop (i := n), List.take_append_drop]

lemma label_behind {p : ℕ} {c e : UInt8} {label rest : Bytes} (hlen : label.length = c.toNat)
    (hat : pkt.drop p = c :: (label ++ e :: rest)) :
    pkt.drop (p + 1) = label ++ e :: rest ∧ pkt.drop (p + c.toNat + 1) = e :: rest := by
  have hlabel : pkt.drop (p + 1) = label ++ e :: rest := drop_of_drop (s := [c]) hat
  have hrest := drop_of_drop hlabel
  rw [hlen, show p + 1 + c.toNat = p + c.toNat + 1 by omega] at hrest
  exact ⟨hlabel, hrest⟩

lemma dot_length : (lit ".").length = 1 := by decide

lemma dotBefore_cons (e : UInt8) (rest : Bytes) : dotBefore (e :: rest) = if e = 0 then [] else lit "." := by
  simp [dotBefore]

variable {acc : Bytes}

lemma appendDot_ok {e : UInt8} (rest : Bytes) (h : acc.length + (dotBefore (e :: rest)).length ≤ cap) :
    appendDot cap acc e = .ok (acc ++ dotBefore (e :: rest)) := by
  rw [dotBefore_cons] at h ⊢
  unfold appendDot
  split_ifs at h ⊢ with he
  · rw [List.append_nil]
  · exact append_ok h

section Loop

variable {next : ℕ → Except Fault (ℕ × ℕ)} {parsedLen nameLen k n : ℕ}

lemma nameLenLoop_sound (hnext : ∀ o k n, next o = .ok (k, n) → ∃ l d tail name, left = l + 1 ∧
      pkt.drop o = d ++ tail ∧ NameIn pkt l d name ∧ k = d.length ∧ n = name.length)
    (hp : p < pkt.length) (h : nameLenLoop pkt next p parsedLen nameLen = .ok (k, n)) :
    ∃ d tail name, pkt.drop p = d ++ tail ∧ NameIn pkt left d name ∧
      k = parsedLen + d.length ∧ n = nameLen + name.length := by
  induction hm : pkt.length - p using Nat.strong_induction_on generalizing p parsedLen nameLen with
  | _ m ih =>
    rw [nameLenLoop, dif_neg (Nat.not_le.2 hp)] at h
    obtain ⟨c, hget, h⟩ := of_bind h
    have hc := of_get hget
    split_ifs at h with hzero hptr hend hlab
    · cases h
      exact ⟨[0], _, [], by rw [hc, hzero]; rfl, .root, rfl, rfl⟩
    · obtain ⟨lo, hgetlo, h⟩ := of_bind h
      have hlo := of_get hgetlo
      split_ifs at h with hoff
      obtain ⟨⟨k', n'⟩, hr, h⟩ := of_bind h
      cases h
      obtain ⟨l, d, tail, name, rfl, hat, hname, -, rfl⟩ := hnext _ _ _ hr
      exact ⟨[c, lo], _, name, by rw [hc, hlo]; rfl, .pointer hptr hat hname, rfl, rfl⟩
    · obtain ⟨e, hgete, h⟩ := of_bind h
      have he := of_get hgete
      obtain ⟨d, tail, name, hd, hname, rfl, rfl⟩ := ih _ (by omega) (by omega) h rfl
      have hlen : ((pkt.drop (p + 1)).take c.toNat).length = c.toNat := by
        rw [List.length_take, List.length_drop]
        omega
      have hhead : dotBefore d = if e = 0 then [] else lit "." := by
        obtain ⟨x, d', rfl⟩ := List.exists_cons_of_ne_nil hname.ne_nil
        rw [he] at hd
        rw [(List.cons.inj hd).1, dotBefore_cons]
      refine ⟨c :: ((pkt.drop (p + 1)).take c.toNat ++ d), tail, _, ?_,
        .label hzero (by simpa using hptr) hlen hname, ?_, ?_⟩
      · rw [List.cons_append, List.append_assoc, ← hd, drop_label, hc]
      · rw [List.length_cons, List.length_append, hlen]
        omega
      · rw [List.length_append, List.length_append, hlen, hhead]
        split_ifs
        · rw [List.length_nil]
          omega
        · rw [dot_length]
          omega

lemma nameLenLoop_of (hnext : ∀ l o d tail name, left = l + 1 → pkt.drop o = d ++ tail → NameIn pkt l d name →
      next o = .ok (d.length, name.length)) (hat : pkt.drop p = d ++ tail) (h : NameIn pkt left d name) :
    nameLenLoop pkt next p parsedLen nameLen = .ok (parsedLen + d.length, nameLen + name.length) := by
  induction h generalizing p tail parsedLen nameLen with
  | root =>
    have hp := lt_of_drop hat
    rw [nameLenLoop, dif_neg (by omega), get_of_drop hat, ok_bind, if_pos rfl]
    rfl
  | @label left c label d name hc hptr hlen h ih =>
    obtain ⟨e, d', rfl⟩ := List.exists_cons_of_ne_nil h.ne_nil
    have hp := lt_of_drop hat
    obtain ⟨-, hrest⟩ := @label_behind pkt p c e label (d' ++ tail) hlen (by simpa using hat)
    have hp' := lt_of_drop hrest
    rw [nameLenLoop, dif_neg (by omega), get_of_drop hat, ok_bind, if_neg hc, if_neg (by simp [hptr]),
      if_neg (by omega), get_of_drop hrest, ok_bind, ih hnext hrest]
    simp only [List.length_cons, List.length_append, dotBefore_cons, hlen]
    refine congrArg Except.ok (Prod.ext ?_ ?_)
    · simp only
      omega
    · split_ifs <;> simp only [List.length_nil, dot_length] <;> omega
  | @pointer left hi lo d tl name hptr hto h ih =>
    have hp := lt_of_drop hat
    have hlo : pkt.drop (p + 1) = lo :: tail := drop_of_drop (s := [hi]) hat
    have hp' := lt_of_drop hlo
    have hoff := congrArg List.length hto
    have hpos := h.length_pos
    rw [List.length_drop, List.length_append] at hoff
    rw [nameLenLoop, dif_neg (by omega), get_of_drop hat, ok_bind, if_neg, if_pos hptr, if_neg (by omega),
      get_of_drop hlo, ok_bind, if_neg (by omega), hnext _ _ _ _ _ rfl hto h]
    · rfl
    · rintro rfl
      exact absurd hptr (by decide)

end Loop

lemma start_lt (hat : pkt.drop start = d ++ tail) (h : NameIn pkt left d name) : start < pkt.length := by
  have hlen := congrArg List.length hat
  have hpos := h.length_pos
  rw [List.length_drop, List.length_append] at hlen
  omega

lemma getNameLenRec_step (hnext : ∀ l o d tail name, left = l + 1 → pkt.drop o = d ++ tail → NameIn pkt l d name →
      getNameLenRec pkt left o = .ok (d.length, name.length))
    (hat : pkt.drop start = d ++ tail) (h : NameIn pkt left d name) :
    getNameLenRec pkt (left + 1) start = .ok (d.length, name.length) := by
  rw [getNameLenRec, if_neg (Nat.not_le.2 (start_lt hat h)), nameLenLoop_of hnext hat h, Nat.zero_add, Nat.zero_add]

lemma getNameLenRec_of (hat : pkt.drop start = d ++ tail) (h : NameIn pkt left d name) :
    getNameLenRec pkt (left + 1) start = .ok (d.length, name.length) := by
  induction left generalizing start d tail name with
  | zero =>
    refine getNameLenRec_step (fun l o d tail name hl => ?_) hat h
    cases hl
  | succ left ih =>
    refine getNameLenRec_step (fun l o d tail name hl hto hname => ?_) hat h
    cases hl
    exact ih hto hname

lemma getNameLenRec_sound {k n : ℕ} (h : getNameLenRec pkt left start = .ok (k, n)) :
    ∃ l d tail name, left = l + 1 ∧ pkt.drop start = d ++ tail ∧ NameIn pkt l d name ∧
      k = d.length ∧ n = name.length := by
  induction left generalizing start k n with
  | zero => cases h
  | succ left ih =>
    rw [getNameLenRec] at h
    split_ifs at h with hstart
    obtain ⟨d, tail, name, hat, hname, rfl, rfl⟩ := nameLenLoop_sound (fun _ _ _ => ih) (Nat.not_le.1 hstart) h
    exact ⟨left, d, tail, name, rfl, hat, hname, by omega, by omega⟩

lemma nameLoop_of {next : ℕ → Bytes → Except Fault Bytes}
    (hnext : ∀ l o d tail name acc, left = l + 1 → pkt.drop o = d ++ tail → NameIn pkt l d name →
      acc.length + name.length ≤ cap → next o acc = .ok (acc ++ name))
    (hat : pkt.drop p = d ++ tail) (h : NameIn pkt left d name) (hcap : acc.length + name.length ≤ cap) :
    nameLoop pkt cap next p acc = .ok (acc ++ name) := by
  induction h generalizing p tail acc with
  | root =>
    have hp := lt_of_drop hat
    rw [nameLoop, dif_neg (by omega), get_of_drop hat, ok_bind, if_pos rfl, List.append_nil]
  | @label left c label d name hc hptr hlen h ih =>
    obtain ⟨e, d', rfl⟩ := List.exists_cons_of_ne_nil h.ne_nil
    have hp := lt_of_drop hat
    obtain ⟨hlabel, hrest⟩ := @label_behind pkt p c e label (d' ++ tail) hlen (by simpa using hat)
    have hp' := lt_of_drop hrest
    rw [List.length_append, List.length_append] at hcap
    rw [nameLoop, dif_neg (by omega), get_of_drop hat, ok_bind, if_neg hc, if_neg (by simp [hptr]),
      if_neg (by omega), read_of_drop hlabel (by omega) hlen.symm, ok_bind, append_ok (by omega), ok_bind,
      get_of_drop hrest, ok_bind]
    rw [appendDot_ok d' (by rw [List.length_append]; omega), ok_bind, ih hnext hrest (by simp only [List.length_append]; omega)]
    simp only [List.append_assoc]
  | @pointer left hi lo d tl name hptr hto h ih =>
    have hp := lt_of_drop hat
    have hlo : pkt.drop (p + 1) = lo :: tail := drop_of_drop (s := [hi]) hat
    have hp' := lt_of_drop hlo
    have hoff := start_lt hto h
    rw [nameLoop, dif_neg (by omega), get_of_drop hat, ok_bind, if_neg, if_pos hptr, if_neg (by omega),
      get_of_drop hlo, ok_bind, if_neg (by omega), hnext _ _ _ _ _ _ rfl hto h hcap]
    rintro rfl
    exact absurd hptr (by decide)

lemma getNameRec_step (hnext : ∀ l o d tail name acc, left = l + 1 → pkt.drop o = d ++ tail →
      NameIn pkt l d name → acc.length + name.length ≤ cap → getNameRec pkt cap left o acc = .ok (acc ++ name))
    (hat : pkt.drop start = d ++ tail) (h : NameIn pkt left d name) (hcap : acc.length + name.length ≤ cap) :
    getNameRec pkt cap (left + 1) start acc = .ok (acc ++ name) := by
  rw [getNameRec, if_neg (Nat.not_le.2 (start_lt hat h)), nameLoop_of hnext hat h hcap]

lemma getNameRec_of (hat : pkt.drop start = d ++ tail) (h : NameIn pkt left d name)
    (hcap : acc.length + name.length ≤ cap) :
    getNameRec pkt cap (left + 1) start acc = .ok (acc ++ name) := by
  induction left generalizing start d tail name acc with
  | zero =>
    refine getNameRec_step (fun l o d tail name acc hl => ?_) hat h hcap
    cases hl
  | succ left ih =>
    refine getNameRec_step (fun l o d tail name acc hl hto hname hfit => ?_) hat h hcap
    cases hl
    exact ih hto hname hfit

end Walk

section Reads

variable {pkt : Bytes} {left p start cap : ℕ}

lemma nameLenLoop_avoids {next : ℕ → Except Fault (ℕ × ℕ)} {parsedLen nameLen : ℕ} {e : Fault}
    (he : ∀ s, Fault.status s ≠ e) (hnext : ∀ o, Avoids e (next o)) :
    Avoids e (nameLenLoop pkt next p parsedLen nameLen) := by
  induction hm : pkt.length - p using Nat.strong_induction_on generalizing p parsedLen nameLen with
  | _ m ih =>
    rw [nameLenLoop]
    by_cases hp : pkt.length ≤ p
    · rw [dif_pos hp]
      exact .ok _
    · rw [dif_neg hp]
      refine .bind (.get _ (by omega)) fun c _ => ?_
      split_ifs with hzero hptr
      · exact .ok _
      · exact .error (he _)
      · refine .bind (.get _ (by omega)) fun lo _ => ?_
        split_ifs with hoff
        · exact .error (he _)
        · exact .bind (hnext _) fun r _ => .ok _
      · exact .error (he _)
      · exact .bind (.get _ (by omega)) fun d _ => ih _ (by omega) rfl

lemma getNameLenRec_avoids {e : Fault} (he : ∀ s, Fault.status s ≠ e) :
    Avoids e (getNameLenRec pkt left start) := by
  induction left generalizing start with
  | zero => exact .error (he _)
  | succ left ih =>
    rw [getNameLenRec]
    split_ifs with hstart
    · exact .error (he _)
    · exact nameLenLoop_avoids he fun o => ih

lemma nameLoop_avoids {next : ℕ → Bytes → Except Fault Bytes} {name : Bytes}
    (hnext : ∀ o acc, Avoids .badRead (next o acc)) : Avoids .badRead (nameLoop pkt cap next p name) := by
  induction hm : pkt.length - p using Nat.strong_induction_on generalizing p name with
  | _ m ih =>
    rw [nameLoop]
    by_cases hp : pkt.length ≤ p
    · rw [dif_pos hp]
      exact .ok _
    · rw [dif_neg hp]
      refine .bind (.get _ (by omega)) fun c _ => ?_
      split_ifs with hzero hptr
      · exact .ok _
      · exact .error (by simp)
      · refine .bind (.get _ (by omega)) fun lo _ => ?_
        split_ifs with hoff
        · exact .error (by simp)
        · exact hnext _ _
      · exact .error (by simp)
      · refine .bind (.read _ (by omega)) fun label _ => .bind (.append (by simp)) fun name' _ =>
          .bind (.get _ (by omega)) fun d _ => .bind ?_ fun name'' _ => ih _ ?_ rfl
        · unfold appendDot
          split_ifs
          · exact .ok _
          · exact .append (by simp)
        · omega

lemma getNameRec_avoids {name : Bytes} : Avoids .badRead (getNameRec pkt cap left start name) := by
  induction left generalizing start name with
  | zero => exact .error (by simp)
  | succ left ih =>
    rw [getNameRec]
    split_ifs with hstart
    · exact .error (by simp)
    · exact nameLoop_avoids fun o acc => ih

end Reads

end PjProject.DnsPacket
