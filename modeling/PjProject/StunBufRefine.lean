import PjProject.StunBufAttr

/-!
# What STUN encoding leaves in the buffer

A run of the encoder on a buffer that gives a packet leaves the bytes there that the encoder on
lists gives, as long as no size is cast to another one.
-/
namespace PjProject.Stun

open ByteOrder BoundedWrite

section Refinement

variable {env : Env} {hdr : MsgHdr} {attrs : List Attr}

lemma size_le_sum {a : Attr} (h : a ∈ attrs) : a.size ≤ (attrs.map Attr.size).sum :=
  List.single_le_sum (fun _ _ => Nat.zero_le _) _ (List.mem_map_of_mem h)

variable {t : Bytes}

lemma storeAttrs_prints (hsize : ∀ a ∈ attrs, a.size < 2 ^ 32) {s buf : Bytes} {pos : ℕ} {stop : List Attr}
    (h : storeAttrs env hdr attrs (s ++ t) s.length = .ok (buf, pos, stop)) :
    ∃ body, encodeAttrs env hdr attrs t.length = .ok (body, t.length - body.length, stop) ∧
      body.length ≤ t.length ∧ buf = s ++ (body ++ t.drop body.length) ∧ pos = s.length + body.length := by
  induction attrs generalizing s t with
  | nil =>
    cases h
    exact ⟨[], rfl, Nat.zero_le _, rfl, rfl⟩
  | cons a rest ih =>
    rw [storeAttrs] at h
    by_cases hc : a.closes = true
    · rw [if_pos hc] at h
      cases h
      exact ⟨[], by rw [encodeAttrs, if_pos hc]; rfl, Nat.zero_le _, rfl, rfl⟩
    · rw [if_neg hc] at h
      have hroom : (s ++ t).length - s.length = t.length := by
        rw [List.length_append]
        omega
      have hends := @storeAttr_ends env hdr a (s ++ t) s.length (by rw [List.length_append]; omega)
      generalize storeAttr env hdr (s ++ t) s.length (u32 ((s ++ t).length - s.length)) a = r at hends h
      cases hends with
      | overrun => cases h
      | refused => cases h
      | printed bytes hin hpass hlen henc =>
        rw [hroom] at hin hpass henc
        have hfit : a.size ≤ t.length := hin.2 hpass
        have hcast : u32 a.size = bytes.length := by
          rw [hlen, u32_of_lt (hsize a (List.mem_cons_self ..))]
        have hsplice : splice (s ++ t) s.length bytes = (s ++ bytes) ++ t.drop bytes.length := by
          rw [splice_append _ _ rfl, List.append_assoc]
        simp only [ok_bind] at h
        rw [hsplice, hcast, ← List.length_append] at h
        obtain ⟨body, hloop, hle, hbuf, hpos⟩ := ih (fun b hb => hsize b (List.mem_cons_of_mem _ hb)) h
        rw [List.length_drop] at hloop hle
        refine ⟨bytes ++ body, ?_, ?_, ?_, ?_⟩
        · rw [encodeAttrs, if_neg hc, henc]
          simp only [bind, Except.bind, hloop, pure, Except.pure, List.length_append, Nat.sub_sub]
        · rw [List.length_append]
          omega
        · rw [hbuf, List.drop_drop, List.length_append]
          simp only [List.append_assoc]
        · rw [hpos, List.length_append, List.length_append, Nat.add_assoc]

/-- The buffer holds a draft, with `t` behind it. -/
structure Output.Shows (o : Output) (d : Draft) (t : Bytes) : Prop where
  buf : o.buf = d.bytes ++ t
  pos : o.pos = d.bytes.length
  room : d.room = t.length
  msg : o.msg = d.msg

variable {o : Output} {d : Draft}

lemma Output.Shows.room_eq (h : o.Shows d t) : o.room = t.length := by
  rw [Output.room, h.buf, h.pos, List.length_append]
  omega

def castKey (key : Bytes) : Bytes := key.take (u32 key.length)

def Draft.write (d : Draft) (bytes : Bytes) (f : Attr → Attr) : Draft :=
  { d with body := d.body ++ bytes, room := d.room - bytes.length, msg := d.msg.mapAttrs f }

lemma Output.Shows.write (hd : o.Shows d t) (bytes : Bytes) (f : Attr → Attr) :
    Output.Shows ⟨splice o.buf o.pos bytes, o.pos + bytes.length, o.msg.mapAttrs f⟩
      (d.write bytes f) (t.drop bytes.length) where
  buf := by
    rw [hd.buf, splice_append _ _ hd.pos]
    simp only [Draft.bytes, Draft.write, Msg.mapAttrs, List.append_assoc]
  pos := by
    rw [hd.pos]
    simp only [Draft.bytes, Draft.write, Msg.mapAttrs, List.length_append, Nat.add_assoc,
      headerBytes_length]
  room := by rw [Draft.write, List.length_drop, hd.room]
  msg := by rw [Draft.write, hd.msg]

lemma storeMsgInt_shows {key : Option Bytes} {i : ℕ} {c c' : Closing} {o' : Output} (hd : o.Shows d t) (hpos : o.pos < 2 ^ 32)
    (h : storeMsgInt env key i c o = .ok (c', o')) :
    ∃ d', putMsgInt env (key.map castKey) i c d = .ok (c', d') ∧ o.pos ≤ o'.pos ∧
      o'.Shows d' (t.drop (o'.pos - o.pos)) := by
  unfold storeMsgInt at h
  unfold putMsgInt
  cases hc : c.amsgint with
  | none =>
    rw [hc] at h
    cases h
    exact ⟨d, rfl, le_rfl, by simpa using hd⟩
  | some a =>
    rw [hc] at h
    cases key with
    | none => cases h
    | some key =>
      obtain ⟨c₁, hcheck, h⟩ := BoundedRead.of_bind h
      obtain ⟨⟨buf, printed⟩, hstore, h⟩ := BoundedRead.of_bind h
      cases h
      have hsigned : o.buf.take (u32 o.pos) = d.bytes := by
        rw [u32_of_lt hpos, hd.buf, hd.pos, List.take_left]
      obtain ⟨hmac, hdigest⟩ : ∃ hmac, env.hmacSha1 (castKey key) d.bytes = hmac := ⟨_, rfl⟩
      have hdigest' : env.hmacSha1 (key.take (u32 key.length)) (o.buf.take (u32 o.pos)) = hmac := by
        rw [hsigned]
        exact hdigest
      rw [storeMsgintAttr_eq, hd.room_eq, hdigest'] at hstore
      split_ifs at hstore with hlen
      obtain ⟨buf', hput, hstore⟩ := BoundedRead.of_bind hstore
      cases hstore
      obtain ⟨-, rfl⟩ := of_put hput
      have hroom : ¬ d.room < 24 := by
        have := u32_le t.length
        rw [hd.room]
        omega
      have hbytes : (put16 a.type ++ put16 a.length ++ hmac.1).length = 24 := by simp [hmac.2]
      have hshows := hd.write (put16 a.type ++ put16 a.length ++ hmac.1) (Attr.setHmac hmac)
      refine ⟨d.write (put16 a.type ++ put16 a.length ++ hmac.1) (Attr.setHmac hmac), ?_,
        Nat.le_add_right .., ?_⟩
      · rw [hd.msg] at hcheck
        simp only [Option.map_some, of_lift hcheck, hdigest, encodeMsgintAttr, if_neg hroom]
        rfl
      · rw [hbytes] at hshows
        rw [hdigest', Nat.add_sub_cancel_left]
        exact hshows

lemma Output.Shows.setLength {buf : Bytes} (hd : o.Shows d t)
    (length : UInt16) (h : (put o.buf 2 (put16 length) : Written Bytes) = .ok buf) :
    Output.Shows ⟨buf, o.pos, o.msg⟩ { d with length := length } t where
  buf := by
    obtain ⟨-, rfl⟩ := of_put h
    have hbytes : ∀ l, headerBytes d.msg.hdr l ++ d.body ++ t = put16 d.msg.hdr.type ++
        (put16 l ++ (put32 d.msg.hdr.magic ++ (d.msg.hdr.tsxId.1 ++ (d.body ++ t)))) := by
      intro l
      simp only [headerBytes, List.append_assoc]
    rw [hd.buf, Draft.bytes, hbytes, splice_between _ _ _ (by simp) (by simp)]
    exact (hbytes length).symm
  pos := by
    rw [hd.pos]
    simp only [Draft.bytes, List.length_append, headerBytes_length]
  room := hd.room
  msg := hd.msg

lemma Output.Shows.getLength (hd : o.Shows d t) : get16 o.buf 2 = d.length := by
  have hh := readHeader_headerBytes d.msg.hdr d.length (d.body ++ t)
  rw [hd.buf, Draft.bytes, List.append_assoc]
  exact congrArg MsgHdr.length hh

lemma storeFingerprint_shows {c : Closing} {o' : Output}
    (hd : o.Shows d t) (h : storeFingerprint env c o = .ok o') :
    ∃ d', putFingerprint env c d = .ok d' ∧ o.pos ≤ o'.pos ∧ o'.Shows d' (t.drop (o'.pos - o.pos)) := by
  unfold storeFingerprint at h
  unfold putFingerprint
  cases hc : c.afingerprint with
  | none =>
    rw [hc] at h
    cases h
    exact ⟨d, rfl, le_rfl, by simpa using hd⟩
  | some a =>
    rw [hc] at h
    obtain ⟨buf, hput, h⟩ := BoundedRead.of_bind h
    obtain ⟨⟨buf', printed⟩, hstore, h⟩ := BoundedRead.of_bind h
    cases h
    obtain ⟨length, hlength⟩ : ∃ length, UInt16.ofNat (d.length.toNat + 8) = length := ⟨_, rfl⟩
    rw [hd.getLength, hlength] at hput
    have hd' := hd.setLength _ hput
    obtain ⟨value, hcrc⟩ : ∃ value,
        env.crc32 (Draft.bytes { d with length := length }) ^^^ xorFingerprint = value := ⟨_, rfl⟩
    have hcrc' : env.crc32 (buf.take o.pos) ^^^ xorFingerprint = value := by
      have hbuf := hd'.buf
      have hpos := hd'.pos
      simp only at hbuf hpos
      rw [hbuf, hpos, List.take_left, hcrc]
    rw [storeUintAttr_eq, hd.room_eq, hcrc'] at hstore
    split_ifs at hstore with hlen
    obtain ⟨buf'', hput', hstore⟩ := BoundedRead.of_bind hstore
    cases hstore
    obtain ⟨-, rfl⟩ := of_put hput'
    have hroom : ¬ d.room < 8 := by
      have := u32_le t.length
      rw [hd.room]
      omega
    have hbytes : (put16 a.type ++ put16 4 ++ put32 value).length = 8 := rfl
    have hshows := hd'.write (put16 a.type ++ put16 4 ++ put32 value) (Attr.setFingerprint value)
    refine ⟨Draft.write { d with length := length } (put16 a.type ++ put16 4 ++ put32 value)
      (Attr.setFingerprint value), ?_, Nat.le_add_right .., ?_⟩
    · simp only [hlength, hcrc, encodeUintAttr, if_neg hroom]
      rfl
    · rw [hbytes] at hshows
      rw [hcrc', Nat.add_sub_cancel_left]
      exact hshows

lemma Prints.length {bytes : Bytes} (h : Prints env hdr attrs bytes) :
    bytes.length = (attrs.map Attr.size).sum := by
  induction h with
  | nil => rfl
  | cons head _ ih =>
    rw [List.length_append, encodeAttr_length head, ih, List.map_cons, List.sum_cons]

lemma storeHeader_eq {buf : Bytes} (h : 20 ≤ buf.length) :
    storeHeader hdr buf = .ok (headerBytes hdr 0 ++ buf.drop 20) := by
  have hlen : (headerBytes hdr 0).length = 20 := headerBytes_length hdr 0
  have hput : storeHeader hdr buf = put buf 0 (headerBytes hdr 0) := by
    rw [storeHeader, put_put _ _ _ (by simp), put_put _ _ _ (by simp), put_put_last _ _ _ (by simp)]
    rfl
  rw [hput, put_ok (by omega), splice, hlen]
  rfl

variable {msg msg' : Msg} {buf buf' : Bytes} {options : ℕ} {key : Option Bytes} {n : ℕ}

lemma encodeTo_encodes (hsize : 20 + (msg.attrs.map Attr.size).sum < 2 ^ 32)
    (h : encodeTo env msg buf options key = .ok (buf', n, msg')) :
    ∃ pkt, encode env msg buf.length options (key.map castKey) = .ok (pkt, msg') ∧
      n = pkt.length ∧ buf' = pkt ++ buf.drop n := by
  unfold encodeTo at h
  split_ifs at h with hargs hsmall
  obtain ⟨t, ht⟩ : ∃ t, buf.drop 20 = t := ⟨_, rfl⟩
  have htlen : t.length = buf.length - 20 := by rw [← ht, List.length_drop]
  rw [storeHeader_eq (by omega), ok_bind, ht] at h
  obtain ⟨⟨buf₁, pos, stop⟩, hloop, h⟩ := BoundedRead.of_bind h
  obtain ⟨c, hscan, h⟩ := BoundedRead.of_bind h
  obtain ⟨buf₂, hlen, h⟩ := BoundedRead.of_bind h
  obtain ⟨⟨c', o⟩, hput, h⟩ := BoundedRead.of_bind h
  obtain ⟨o', hfin, h⟩ := BoundedRead.of_bind h
  cases h
  have hattr : ∀ a ∈ msg.attrs, a.size < 2 ^ 32 := by
    intro a ha
    have := size_le_sum ha
    omega
  have hloop' : storeAttrs env msg.hdr msg.attrs (headerBytes msg.hdr 0 ++ t)
      (headerBytes msg.hdr 0).length = .ok (buf₁, pos, stop) := by rwa [headerBytes_length]
  obtain ⟨body, hbody, hle, rfl, hpos⟩ := storeAttrs_prints hattr hloop'
  rw [headerBytes_length] at hpos
  subst hpos
  -- the sizes are those of the attributes, so what is signed is not cut off
  have hsigned : 20 + body.length < 2 ^ 32 := by
    obtain ⟨plain, hattrs, -, hprints, -⟩ := encodeAttrs_prints hbody
    rw [hattrs, List.map_append, List.sum_append, ← hprints.length] at hsize
    omega
  have hd₁ : Output.Shows ⟨headerBytes msg.hdr 0 ++ (body ++ t.drop body.length), 20 + body.length, msg⟩
      ⟨0, body, t.length - body.length, msg⟩ (t.drop body.length) := by
    refine ⟨?_, ?_, List.length_drop.symm, rfl⟩
    · simp only [Draft.bytes, List.append_assoc]
    · simp only [Draft.bytes, List.length_append, headerBytes_length]
  have hd₂ := hd₁.setLength _ hlen
  obtain ⟨d₃, hput', hle₃, hd₃⟩ := storeMsgInt_shows hd₂ hsigned hput
  obtain ⟨d₄, hfin', hle₄, hd₄⟩ := storeFingerprint_shows hd₃ hfin
  rw [Nat.add_sub_cancel_left] at hput'
  refine ⟨d₄.bytes, ?_, hd₄.pos, ?_⟩
  · rw [encode, if_neg (by omega), if_neg (by omega), ← htlen, hbody]
    have hbody₄ : d₄.body.length = o'.pos - 20 := by
      rw [hd₄.pos, Draft.bytes, List.length_append, headerBytes_length, Nat.add_sub_cancel_left]
    have hput'' : putMsgInt env (key.map castKey)
        (if stop = [] then msg.attrs.length + 1 else msg.attrs.length) c
        (draft msg c body (t.length - body.length)) = .ok (c', d₃) := hput'
    simp only [bind, Except.bind, of_lift hscan, hput'', hfin', Draft.finish, hbody₄, hd₄.msg]
    rfl
  · have hskip : 20 + body.length + (o.pos - (20 + body.length)) + (o'.pos - o.pos) = o'.pos := by
      have : 20 + body.length ≤ o.pos := hle₃
      omega
    rw [hd₄.buf, ← ht]
    simp only [List.drop_drop, hskip]

end Refinement

end PjProject.Stun
