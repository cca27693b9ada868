import PjProject.StunBuf

/-!
# The writes of a STUN attribute

Each attribute encoder makes one write of the bytes it prints, once its size check has passed;
that of an address writes the type before.
-/
namespace PjProject.Stun

open ByteOrder BoundedWrite

def Attr.isSockaddr (a : Attr) : Bool :=
  match a.val with
  | .sockaddr _ _ => true
  | _ => false

section Arithmetic

lemma u32_le (n : ℕ) : u32 n ≤ n := Nat.mod_le ..

lemma u32_of_lt {n : ℕ} (h : n < 2 ^ 32) : u32 n = n := Nat.mod_eq_of_lt h

lemma u32_align4 (n k : ℕ) : u32 (align4 (u32 n + k)) = u32 (align4 (n + k)) := by
  unfold u32 align4
  omega

end Arithmetic

section Encoders

variable (env : Env) (hdr : MsgHdr) (buf : Bytes) (pos len : ℕ)

lemma put_padding {β : Type} (s : Bytes) (n : ℕ) {pos' : ℕ} (h : pos' = pos + s.length)
    (f : Bytes → Written β) : (put buf pos s >>= fun b => storePadding env b pos' n >>= f) =
      put buf pos (s ++ padding env.paddingChar n) >>= f := by
  by_cases hn : n % 4 = 0
  · have hpad : padding env.paddingChar n = [] := if_pos hn
    simp only [storePadding, if_pos hn, ok_bind, hpad, List.append_nil]
  · have hpad : padding env.paddingChar n = List.replicate (4 - n % 4) env.paddingChar := if_neg hn
    simp only [storePadding, if_neg hn, hpad]
    exact put_put _ _ _ h _

lemma put_unknowns {β : Type} (s : Bytes) (attrs : List UInt16) {pos' : ℕ} (h : pos' = pos + s.length)
    (f : Bytes → Written β) : (put buf pos s >>= fun b => storeUnknowns b pos' attrs >>= f) =
      put buf pos (s ++ attrs.flatMap put16) >>= f := by
  induction attrs generalizing s pos' with
  | nil => simp only [storeUnknowns, ok_bind, List.flatMap_nil, List.append_nil]
  | cons a rest ih =>
    simp only [storeUnknowns, bind_assoc]
    rw [put_put _ _ _ h, ih (s ++ put16 a) (by rw [List.length_append, put16_length, h]; omega),
      List.flatMap_cons, List.append_assoc]

variable (type : UInt16)

lemma storeStringAttr_eq (value : Bytes) : storeStringAttr env hdr buf pos len type value =
      if len < u32 (align4 value.length + 4) then .error (.error .tooSmall)
      else put buf pos (put16 type ++ put16 (UInt16.ofNat (if hdr.magic ≠ stunMagic ∨ type = attrSoftware
          then align4 value.length else value.length)) ++ value ++
          padding env.paddingChar value.length) >>= fun b => pure (b, u32 (align4 value.length + 4)) := by
  have hsize := (u32_align4 value.length 4).trans (congrArg u32 (align4_add_four _))
  rw [storeStringAttr, hsize]
  by_cases hlen : len < u32 (align4 value.length + 4)
  · rw [if_pos hlen, if_pos hlen]
  · rw [if_neg hlen, if_neg hlen]
    simp only
    rw [put_put _ _ _ (by simp), put_put _ _ _ (by simp), put_padding _ _ _ _ _ (by simp; omega)]

lemma storeBinaryAttr_eq (data : Bytes) : storeBinaryAttr env buf pos len type data =
      if len < u32 (align4 data.length + 4) then .error (.error .tooSmall)
      else put buf pos (put16 type ++ put16 (UInt16.ofNat data.length) ++ data ++
          padding env.paddingChar data.length) >>= fun b => pure (b, u32 (align4 data.length + 4)) := by
  have hsize := (u32_align4 data.length 4).trans (congrArg u32 (align4_add_four _))
  rw [storeBinaryAttr, hsize]
  by_cases hlen : len < u32 (align4 data.length + 4)
  · rw [if_pos hlen, if_pos hlen]
  · rw [if_neg hlen, if_neg hlen, put_put _ _ _ (by simp), put_put _ _ _ (by simp),
      put_padding _ _ _ _ _ (by simp; omega)]

lemma storeErrcodeAttr_eq (errCode : ℤ) (reason : Bytes) :
    storeErrcodeAttr env buf pos len type errCode reason =
      if len < u32 (align4 (4 + reason.length) + 4) then .error (.error .tooSmall)
      else put buf pos (put16 type ++ put16 (UInt16.ofNat (4 + reason.length)) ++ put16 0 ++
          [UInt8.ofInt (errCode.tdiv 100), UInt8.ofInt (errCode.tmod 100)] ++ reason ++
          padding env.paddingChar reason.length) >>=
            fun b => pure (b, u32 (align4 (4 + reason.length) + 4)) := by
  have hsize : u32 (align4 (4 + 4 + u32 reason.length)) = u32 (align4 (4 + reason.length) + 4) := by
    rw [← align4_add_four, Nat.add_comm (4 + 4), u32_align4]
    congr 2
    omega
  rw [storeErrcodeAttr, hsize]
  by_cases hlen : len < u32 (align4 (4 + reason.length) + 4)
  · rw [if_pos hlen, if_pos hlen]
  · rw [if_neg hlen, if_neg hlen, put_put _ _ _ (by simp), put_put _ _ _ (by simp), put_put _ _ _ (by simp),
      put_put _ _ _ (by simp), put_put _ _ _ (by simp), put_padding _ _ _ _ _ (by simp; omega)]
    simp only [List.append_assoc, List.singleton_append]

lemma storeUnknownAttr_eq (attrs : List UInt16) : storeUnknownAttr env buf pos len type attrs =
      if len < u32 (align4 (attrs.length * 2) + 4) then .error (.error .tooSmall)
      else put buf pos (put16 type ++ put16 (UInt16.ofNat (attrs.length * 2)) ++ attrs.flatMap put16 ++
          padding env.paddingChar (attrs.length * 2)) >>=
            fun b => pure (b, u32 (align4 (attrs.length * 2) + 4)) := by
  have hsize : u32 (align4 (4 + attrs.length * 2)) = u32 (align4 (attrs.length * 2) + 4) := by
    rw [← align4_add_four, Nat.add_comm]
  have hflat : (attrs.flatMap put16).length = attrs.length * 2 := by
    simp [List.length_flatMap]
  rw [storeUnknownAttr, hsize]
  by_cases hlen : len < u32 (align4 (attrs.length * 2) + 4)
  · rw [if_pos hlen, if_pos hlen]
  · rw [if_neg hlen, if_neg hlen, put_put _ _ _ (by simp), put_unknowns _ _ _ _ (by simp),
      put_padding _ _ _ _ _ (by simp [hflat]; omega)]

lemma storeMsgintAttr_eq (length : UInt16) (hmac : Fixed 20) : storeMsgintAttr buf pos len type length hmac =
      if len < 24 then .error (.error .tooSmall)
      else put buf pos (put16 type ++ put16 length ++ hmac.1) >>= fun b => pure (b, 24) := by
  rw [storeMsgintAttr]
  by_cases hlen : len < 24
  · rw [if_pos hlen, if_pos hlen]
  · rw [if_neg hlen, if_neg hlen, put_put _ _ _ (by simp), put_put _ _ _ (by simp)]

lemma storeUintAttr_eq (value : UInt32) : storeUintAttr buf pos len type value =
      if len < 8 then .error (.error .tooSmall)
      else put buf pos (put16 type ++ put16 4 ++ put32 value) >>= fun b => pure (b, 8) := by
  rw [storeUintAttr]
  by_cases hlen : len < 8
  · rw [if_pos hlen, if_pos hlen]
  · rw [if_neg hlen, if_neg hlen, put_put _ _ _ (by simp), put_put _ _ _ (by simp)]

lemma storeUint64Attr_eq (hi lo : UInt32) : storeUint64Attr buf pos len type hi lo =
      if len < 12 then .error (.error .tooSmall)
      else put buf pos (put16 type ++ put16 8 ++ put32 hi ++ put32 lo) >>= fun b => pure (b, 12) := by
  rw [storeUint64Attr]
  by_cases hlen : len < 12
  · rw [if_pos hlen, if_pos hlen]
  · rw [if_neg hlen, if_neg hlen, put_put _ _ _ (by simp), put_put _ _ _ (by simp), put_put _ _ _ (by simp)]

lemma storeEmptyAttr_eq : storeEmptyAttr buf pos len type = if len < 4 then .error (.error .tooSmall)
      else put buf pos (put16 type ++ put16 0) >>= fun b => pure (b, 4) := by
  rw [storeEmptyAttr]
  by_cases hlen : len < 4
  · rw [if_pos hlen, if_pos hlen]
  · rw [if_neg hlen, if_neg hlen, put_put _ _ _ (by simp)]

lemma storeSockaddrAttr_inet (port : UInt16) (xorEd : Bool) (addr : SockAddr) (ip : Fixed 4)
    (h : (if xorEd then addr.mask hdr.tsxId else addr) = .inet port ip) :
    storeSockaddrAttr hdr buf pos len type xorEd addr =
      if len < 12 then put buf pos (put16 type) >>= fun _ => .error (.error .tooSmall)
      else put buf pos (put16 type ++ put16 8 ++ [0, 1] ++ put16 port ++ ip.1) >>= fun b => pure (b, 12) := by
  simp only [storeSockaddrAttr, h]
  by_cases hlen : len < 12
  · simp only [if_pos hlen]
  · simp only [if_neg hlen]
    rw [put_put _ _ _ (by simp), put_put _ _ _ (by simp), put_put _ _ _ (by simp),
      put_put _ _ _ (by simp), put_put _ _ _ (by simp)]
    simp only [List.append_assoc, List.singleton_append]

lemma storeSockaddrAttr_inet6 (port : UInt16) (xorEd : Bool) (addr : SockAddr) (ip : Fixed 16)
    (h : (if xorEd then addr.mask hdr.tsxId else addr) = .inet6 port ip) :
    storeSockaddrAttr hdr buf pos len type xorEd addr =
      if len < 24 then put buf pos (put16 type) >>= fun _ => .error (.error .tooSmall)
      else put buf pos (put16 type ++ put16 20 ++ [0, 2] ++ put16 port ++ ip.1) >>=
        fun b => pure (b, 24) := by
  simp only [storeSockaddrAttr, h]
  by_cases hlen : len < 24
  · simp only [if_pos hlen]
  · simp only [if_neg hlen]
    rw [put_put _ _ _ (by simp), put_put _ _ _ (by simp), put_put _ _ _ (by simp),
      put_put _ _ _ (by simp), put_put _ _ _ (by simp)]
    simp only [List.append_assoc, List.singleton_append]

lemma storeAttr_eq {a : Attr} (h : a.encodable = true) {printed : Bytes}
    (hp : encodeAttr env hdr a.size a = .ok printed) : storeAttr env hdr buf pos len a =
      if len < u32 a.size then
        (if a.isSockaddr then put buf pos (put16 a.type) else .ok buf) >>= fun _ => .error (.error .tooSmall)
      else put buf pos printed >>= fun b => pure (b, u32 a.size) := by
  unfold Attr.encodable at h
  unfold Attr.size at hp ⊢
  cases hc : a.val with
  | sockaddr xorEd addr =>
    have haddr : a.isSockaddr = true := by simp [Attr.isSockaddr, hc]
    rw [hc] at h hp
    cases addr with
    | inet port ip =>
      obtain ⟨port', ip', hm⟩ : ∃ port' ip', (if xorEd then (SockAddr.inet port ip).mask hdr.tsxId
          else .inet port ip) = .inet port' ip' := by
        cases xorEd
        · exact ⟨_, _, rfl⟩
        · exact ⟨_, _, rfl⟩
      have hsize : align4 (AttrVal.sockaddr xorEd (.inet port ip)).initLength + 4 = 12 := by
        simp [AttrVal.initLength, align4]
      rw [hsize] at hp ⊢
      simp only [encodeAttr, hc, encodeSockaddrAttr, hm, lt_irrefl, if_false] at hp
      rw [← Except.ok.inj hp]
      simp only [storeAttr, hc, haddr, if_true]
      exact storeSockaddrAttr_inet hdr buf pos len a.type port' xorEd _ ip' hm
    | inet6 port ip =>
      obtain ⟨port', ip', hm⟩ : ∃ port' ip', (if xorEd then (SockAddr.inet6 port ip).mask hdr.tsxId
          else .inet6 port ip) = .inet6 port' ip' := by
        cases xorEd
        · exact ⟨_, _, rfl⟩
        · exact ⟨_, _, rfl⟩
      have hsize : align4 (AttrVal.sockaddr xorEd (.inet6 port ip)).initLength + 4 = 24 := by
        simp [AttrVal.initLength, align4]
      rw [hsize] at hp ⊢
      simp only [encodeAttr, hc, encodeSockaddrAttr, hm, lt_irrefl, if_false] at hp
      rw [← Except.ok.inj hp]
      simp only [storeAttr, hc, haddr, if_true]
      exact storeSockaddrAttr_inet6 hdr buf pos len a.type port' xorEd _ ip' hm
    | other family => cases h
  | string value =>
    rw [hc] at hp
    simp only [encodeAttr, hc, encodeStringAttr, AttrVal.initLength, align4_add_four, lt_irrefl,
      if_false] at hp
    rw [← Except.ok.inj hp]
    simp only [storeAttr, hc, Attr.isSockaddr, storeStringAttr_eq, AttrVal.initLength]
    rfl
  | empty =>
    have hsize : align4 AttrVal.empty.initLength + 4 = 4 := by simp [AttrVal.initLength, align4]
    rw [hc, hsize] at hp
    rw [hsize]
    simp only [encodeAttr, hc, encodeEmptyAttr, lt_irrefl, if_false] at hp
    rw [← Except.ok.inj hp]
    simp only [storeAttr, hc, Attr.isSockaddr, storeEmptyAttr_eq]
    rfl
  | uint value =>
    have hsize : align4 (AttrVal.uint value).initLength + 4 = 8 := by simp [AttrVal.initLength, align4]
    rw [hc, hsize] at hp
    rw [hsize]
    simp only [encodeAttr, hc, encodeUintAttr, lt_irrefl, if_false] at hp
    rw [← Except.ok.inj hp]
    simp only [storeAttr, hc, Attr.isSockaddr, storeUintAttr_eq]
    rfl
  | uint64 hi lo =>
    have hsize : align4 (AttrVal.uint64 hi lo).initLength + 4 = 12 := by simp [AttrVal.initLength, align4]
    rw [hc, hsize] at hp
    rw [hsize]
    simp only [encodeAttr, hc, encodeUint64Attr, lt_irrefl, if_false] at hp
    rw [← Except.ok.inj hp]
    simp only [storeAttr, hc, Attr.isSockaddr, storeUint64Attr_eq]
    rfl
  | msgint hmac =>
    have hsize : align4 (AttrVal.msgint hmac).initLength + 4 = 24 := by simp [AttrVal.initLength, align4]
    rw [hc, hsize] at hp
    rw [hsize]
    simp only [encodeAttr, hc, encodeMsgintAttr, lt_irrefl, if_false] at hp
    rw [← Except.ok.inj hp]
    simp only [storeAttr, hc, Attr.isSockaddr, storeMsgintAttr_eq]
    rfl
  | errcode errCode reason =>
    have hsize : align4 (4 + 4 + reason.length) = align4 (4 + reason.length) + 4 := by
      rw [← align4_add_four]
      congr 1
      omega
    rw [hc] at hp
    simp only [encodeAttr, hc, encodeErrcodeAttr, AttrVal.initLength, hsize, lt_irrefl, if_false] at hp
    rw [← Except.ok.inj hp]
    simp only [storeAttr, hc, Attr.isSockaddr, storeErrcodeAttr_eq, AttrVal.initLength]
    rfl
  | unknown attrs =>
    have hsize : align4 (4 + attrs.1.length * 2) = align4 (attrs.1.length * 2) + 4 := by
      rw [Nat.add_comm, align4_add_four]
    rw [hc] at hp
    simp only [encodeAttr, hc, encodeUnknownAttr, AttrVal.initLength, hsize, lt_irrefl, if_false] at hp
    rw [← Except.ok.inj hp]
    simp only [storeAttr, hc, Attr.isSockaddr, storeUnknownAttr_eq, AttrVal.initLength]
    rfl
  | binary magic data =>
    rw [hc] at h hp
    have hno : ¬ (findAttrDesc a.type = none ∧ magic ≠ stunMagic) := by
      rintro ⟨hd, hm⟩
      simp [hd, hm] at h
    simp only [encodeAttr, hc, encodeBinaryAttr, if_neg hno, AttrVal.initLength, align4_add_four,
      lt_irrefl, if_false] at hp
    rw [← Except.ok.inj hp]
    simp only [storeAttr, hc, Attr.isSockaddr, if_neg hno, storeBinaryAttr_eq, AttrVal.initLength]
    rfl

lemma storeAttr_refused {a : Attr} (h : a.encodable = false) : ∃ e, storeAttr env hdr buf pos len a =
      (if a.isSockaddr then put buf pos (put16 a.type) else .ok buf) >>= fun _ => .error (.error e) := by
  unfold Attr.encodable at h
  cases hc : a.val with
  | sockaddr xorEd addr =>
    rw [hc] at h
    cases addr with
    | other family =>
      have hm : (if xorEd then (SockAddr.other family).mask hdr.tsxId else .other family) =
          .other family := by
        cases xorEd
        · rfl
        · rfl
      exact ⟨.invAf, by simp only [storeAttr, hc, storeSockaddrAttr, hm, Attr.isSockaddr, if_true]⟩
    | inet port ip => cases h
    | inet6 port ip => cases h
  | binary magic data =>
    rw [hc] at h
    have hbug : findAttrDesc a.type = none ∧ magic ≠ stunMagic := by simpa using h
    exact ⟨.bug, by simp only [storeAttr, hc, if_pos hbug, Attr.isSockaddr]; rfl⟩
  | _ =>
    rw [hc] at h
    cases h

end Encoders

/-- The size check passes; the size and the room are compared as `unsigned`. -/
def Attr.passes (a : Attr) (room : ℕ) : Bool := a.encodable && decide (u32 a.size ≤ u32 room)

def Attr.InRoom (a : Attr) (room : ℕ) : Prop :=
  (a.isSockaddr = true → 2 ≤ room) ∧ (a.passes room = true → a.size ≤ room)

section Attribute

variable {env : Env} {hdr : MsgHdr} {a : Attr} {buf : Bytes} {pos : ℕ}

inductive AttrEnds (env : Env) (hdr : MsgHdr) (a : Attr) (buf : Bytes) (pos : ℕ) :
    Written (Bytes × ℕ) → Prop
  | overrun (h : ¬ a.InRoom (buf.length - pos)) : AttrEnds env hdr a buf pos (.error .overrun)
  | refused (e : Status) (h : a.InRoom (buf.length - pos)) (hpass : a.passes (buf.length - pos) = false) :
      AttrEnds env hdr a buf pos (.error (.error e))
  | printed (bytes : Bytes) (h : a.InRoom (buf.length - pos)) (hpass : a.passes (buf.length - pos) = true)
      (hsize : bytes.length = a.size) (henc : encodeAttr env hdr (buf.length - pos) a = .ok bytes) :
      AttrEnds env hdr a buf pos (.ok (splice buf pos bytes, u32 a.size))

lemma refused_ends (hpos : pos ≤ buf.length) (hpass : a.passes (buf.length - pos) = false) (e : Status) :
    AttrEnds env hdr a buf pos
      ((if a.isSockaddr then put buf pos (put16 a.type) else .ok buf) >>= fun _ => .error (.error e)) := by
  have hno : a.passes (buf.length - pos) = true → a.size ≤ buf.length - pos := by simp [hpass]
  by_cases hs : a.isSockaddr = true
  · rw [if_pos hs]
    by_cases htwo : pos + 2 ≤ buf.length
    · rw [put_ok (by simpa using htwo), ok_bind]
      exact .refused e ⟨fun _ => by omega, hno⟩ hpass
    · rw [put_overrun (by rw [put16_length]; omega), error_bind]
      exact .overrun fun h => by
        have := h.1 hs
        omega
  · rw [if_neg hs, ok_bind]
    exact .refused e ⟨fun h => absurd h hs, hno⟩ hpass

lemma storeAttr_ends (hpos : pos ≤ buf.length) :
    AttrEnds env hdr a buf pos (storeAttr env hdr buf pos (u32 (buf.length - pos)) a) := by
  by_cases henc : a.encodable = true
  · obtain ⟨printed, hlen, hp⟩ := encodeAttr_size env hdr henc
    rw [storeAttr_eq env hdr buf pos _ henc (by rw [hp, if_neg (lt_irrefl _)])]
    by_cases hpass : u32 (buf.length - pos) < u32 a.size
    · rw [if_pos hpass]
      exact refused_ends hpos (by simp [Attr.passes, hpass]) _
    · have hpass' : a.passes (buf.length - pos) = true := by
        simpa [Attr.passes, henc] using hpass
      rw [if_neg hpass]
      by_cases hfit : pos + printed.length ≤ buf.length
      · have hsize : a.size ≤ buf.length - pos := by omega
        rw [put_ok hfit, ok_bind]
        have hfour : 4 ≤ a.size := Nat.le_add_left ..
        exact .printed printed ⟨fun _ => by omega, fun _ => hsize⟩ hpass' hlen
          (by rw [hp, if_neg (by omega)])
      · rw [put_overrun (by omega), error_bind]
        exact .overrun fun h => by
          have := h.2 hpass'
          omega
  · rw [Bool.not_eq_true] at henc
    obtain ⟨e, he⟩ := storeAttr_refused env hdr buf pos (u32 (buf.length - pos)) henc
    rw [he]
    exact refused_ends hpos (by simp [Attr.passes, henc]) e

end Attribute

end PjProject.Stun
