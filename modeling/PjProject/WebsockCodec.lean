import PjProject.PjString
import PjProject.WebsockRead

/-!
# The WebSocket frame codec

What `encode_frame` writes, `decode_frame_header` takes apart.
-/
namespace PjProject.WebSocket

abbrev MaskKey := {key : Bytes // key.length = 4}

def encodeLength (payloadLen : ℕ) : Bytes :=
  if payloadLen < 126 then [0x80 ||| UInt8.ofNat payloadLen]
  else if payloadLen ≤ 0xFFFF then [0x80 ||| 126, UInt8.ofNat (payloadLen / 2 ^ 8), UInt8.ofNat payloadLen]
  else
    [0x80 ||| 127, 0, 0, 0, 0, UInt8.ofNat (payloadLen / 2 ^ 24), UInt8.ofNat (payloadLen / 2 ^ 16),
      UInt8.ofNat (payloadLen / 2 ^ 8), UInt8.ofNat payloadLen]

/-- `encode_frame`, with the masking key that is drawn. -/
def encodeFrame (opcode : UInt8) (fin : Bool) (payload : Bytes) (key : MaskKey) : Bytes :=
  ((if fin then 0x80 else 0) ||| (opcode &&& 0x0F)) :: encodeLength payload.length ++ key.1 ++ unmask key.1 payload

lemma unmask_length (key payload : Bytes) : (unmask key payload).length = payload.length := by
  rw [unmask, List.length_mapIdx]

lemma unmask_unmask (key payload : Bytes) : unmask key (unmask key payload) = payload := by
  apply List.ext_getElem
  · rw [unmask_length, unmask_length]
  · intro i h1 h2
    simp only [unmask, List.getElem_mapIdx]
    rw [UInt8.xor_assoc, UInt8.xor_self, UInt8.xor_zero]

lemma bigEndian_append (s t : Bytes) : bigEndian (s ++ t) = bigEndian s * 256 ^ t.length + bigEndian t := by
  have hfold : ∀ (t : Bytes) (n : ℕ),
      t.foldl (fun n b => n * 256 + b.toNat) n = n * 256 ^ t.length + bigEndian t := by
    intro t
    induction t with
    | nil => simp [bigEndian]
    | cons b t ih =>
      intro n
      rw [bigEndian, List.foldl_cons, List.foldl_cons, ih, ih (0 * 256 + b.toNat), List.length_cons, pow_succ]
      ring
  rw [bigEndian, List.foldl_append, hfold]
  rfl

lemma bigEndian_singleton (b : UInt8) : bigEndian [b] = b.toNat := by
  simp [bigEndian]

lemma bigEndian_lt (s : Bytes) : bigEndian s < 256 ^ s.length := by
  induction s using List.reverseRecOn with
  | nil => decide
  | append_singleton s b ih =>
    have hb := b.toNat_lt
    simp only [bigEndian_append, bigEndian_singleton, List.length_append, List.length_singleton, pow_succ]
    omega

variable {n : ℕ}

lemma bigEndian_two (h : n < 2 ^ 16) : bigEndian [UInt8.ofNat (n / 2 ^ 8), UInt8.ofNat n] = n := by
  simp only [bigEndian, List.foldl_cons, List.foldl_nil, UInt8.toNat_ofNat']
  omega

lemma bigEndian_four (h : n < 2 ^ 32) :
    bigEndian [UInt8.ofNat (n / 2 ^ 24), UInt8.ofNat (n / 2 ^ 16), UInt8.ofNat (n / 2 ^ 8), UInt8.ofNat n] = n := by
  simp only [bigEndian, List.foldl_cons, List.foldl_nil, UInt8.toNat_ofNat']
  omega

lemma extendedLen_encodeLength (hn : n < 2 ^ 32) :
    ∃ b1 tail, encodeLength n = b1 :: tail ∧ hasMaskBit b1 = true ∧
      extendedLen b1 tail = some ((encodeLength n).length + 1, n) := by
  have hlow : ∀ m : ℕ, m < 128 → ((0x80 ||| UInt8.ofNat m) &&& 0x7F).toNat = m := by
    intro m hm
    have hbits : ((0x80 : UInt8) ||| UInt8.ofNat m) &&& 0x7F = UInt8.ofNat m &&& 0x7F :=
      eq_of_bits fun i hi => by interval_cases i <;> simp
    rw [hbits, UInt8.toNat_and, UInt8.toNat_ofNat']
    exact (Nat.and_two_pow_sub_one_eq_mod _ 7).trans (by omega)
  have hmask : ∀ x : UInt8, hasMaskBit (0x80 ||| x) = true := by
    intro x
    have hbits : ((0x80 : UInt8) ||| x) &&& 0x80 = 0x80 := eq_of_bits fun i hi => by interval_cases i <;> simp
    rw [hasMaskBit, hbits]
    rfl
  unfold encodeLength
  split_ifs with h1 h2
  · refine ⟨_, [], rfl, hmask _, ?_⟩
    rw [extendedLen, hlow n (by omega), if_neg (by omega), if_neg (by omega)]
    rfl
  · refine ⟨_, _, rfl, hmask _, ?_⟩
    have htwo := bigEndian_two (n := n) (by omega)
    have hcode : (((0x80 : UInt8) ||| 126) &&& 0x7F).toNat = 126 := by decide
    rw [extendedLen, hcode, if_pos rfl, if_neg (by simp)]
    exact congrArg (fun n => some (4, n)) htwo
  · refine ⟨_, _, rfl, hmask _, ?_⟩
    have hfour := bigEndian_four hn
    have hcode : (((0x80 : UInt8) ||| 127) &&& 0x7F).toNat = 127 := by decide
    rw [extendedLen, hcode, if_neg (by decide), if_pos rfl, if_neg (by simp), if_neg (by simp [bigEndian])]
    exact congrArg (fun n => some (10, n)) hfour

variable {payload : Bytes}

lemma parseFrameHeader_encodeFrame (opcode : UInt8) (fin : Bool) (key : MaskKey)
    (hlen : payload.length < 2 ^ 32) (rest : Bytes) :
    parseFrameHeader (encodeFrame opcode fin payload key ++ rest) =
      some ⟨(encodeLength payload.length).length + 5, fin, .ofByte (opcode &&& 0x0F), true, key.1, payload.length⟩ := by
  obtain ⟨b1, tail, heq, hmask, hext⟩ := extendedLen_encodeLength hlen
  have hlen : (encodeLength payload.length).length = tail.length + 1 := by rw [heq, List.length_cons]
  have hfin : (((if fin then 0x80 else 0) ||| (opcode &&& 0x0F)) &&& 0x80 != 0) = fin := by
    have hbit : ((if fin then (0x80 : UInt8) else 0) ||| (opcode &&& 0x0F)) &&& 0x80 = if fin then 0x80 else 0 :=
      eq_of_bits fun i hi => by cases fin <;> interval_cases i <;> simp
    rw [hbit]
    cases fin <;> rfl
  have hcode : ((if fin then (0x80 : UInt8) else 0) ||| (opcode &&& 0x0F)) &&& 0x0F = opcode &&& 0x0F :=
    eq_of_bits fun i hi => by cases fin <;> interval_cases i <;> simp
  have hframe : encodeFrame opcode fin payload key ++ rest =
      ((if fin then 0x80 else 0) ||| (opcode &&& 0x0F)) :: b1 ::
        (tail ++ (key.1 ++ (unmask key.1 payload ++ rest))) := by
    rw [encodeFrame, heq]
    simp only [List.cons_append, List.append_assoc]
  have hdrop : ∀ b0 : UInt8, (b0 :: b1 :: (tail ++ (key.1 ++ (unmask key.1 payload ++ rest)))).drop (tail.length + 2) =
      key.1 ++ (unmask key.1 payload ++ rest) := by
    intro b0
    rw [List.drop_succ_cons, List.drop_succ_cons, List.drop_left]
  have hkey := key.2
  rw [hframe, parseFrameHeader, extendedLen_append hext, hlen]
  dsimp only
  rw [if_pos hmask, if_neg (by simp only [List.length_cons, List.length_append]; omega), hdrop, hfin, hcode,
    List.take_left' hkey]

variable {data : Bytes}

lemma decodeFrameHeader_append {h : FrameHeader}
    (hd : decodeFrameHeader data = some (h, payload, n)) (rest : Bytes) :
    decodeFrameHeader (data ++ rest) = some (h, payload, n) := by
  unfold decodeFrameHeader at hd ⊢
  cases hp : parseFrameHeader data with
  | none =>
    rw [hp] at hd
    cases hd
  | some h' =>
    have hle := (parseFrameHeader_le hp).2.1
    rw [hp] at hd
    rw [parseFrameHeader_append hp rest]
    dsimp only at hd ⊢
    by_cases hcut : data.length < h'.hdrLen + h'.payloadLen
    · rw [if_pos hcut] at hd
      cases hd
    · rw [if_neg hcut] at hd
      rw [if_neg (by rw [List.length_append]; omega), List.drop_append_of_le_length hle,
        List.take_append_of_le_length (by rw [List.length_drop]; omega)]
      exact hd

lemma decodeFrameHeader_le {h : FrameHeader}
    (hd : decodeFrameHeader data = some (h, payload, n)) : 0 < n ∧ n ≤ data.length := by
  unfold decodeFrameHeader at hd
  cases hp : parseFrameHeader data with
  | none =>
    rw [hp] at hd
    cases hd
  | some h' =>
    have hpos := (parseFrameHeader_le hp).1
    rw [hp] at hd
    dsimp only at hd
    by_cases hcut : data.length < h'.hdrLen + h'.payloadLen
    · rw [if_pos hcut] at hd
      cases hd
    · rw [if_neg hcut] at hd
      cases hd
      omega

lemma decodeFrameHeader_encodeFrame (opcode : UInt8) (fin : Bool) (key : MaskKey)
    (hlen : payload.length < 2 ^ 32) (rest : Bytes) :
    ∃ h, decodeFrameHeader (encodeFrame opcode fin payload key ++ rest) =
        some (h, payload, (encodeFrame opcode fin payload key).length) ∧
      h.fin = fin ∧ h.opcode = .ofByte (opcode &&& 0x0F) := by
  have hkey := key.2
  have hframe : (encodeFrame opcode fin payload key).length =
      (encodeLength payload.length).length + 5 + payload.length := by
    rw [encodeFrame, List.length_append, List.length_append, List.length_cons, unmask_length, hkey]
  have hdrop : (encodeFrame opcode fin payload key ++ rest).drop ((encodeLength payload.length).length + 5) =
      unmask key.1 payload ++ rest := by
    rw [encodeFrame, List.append_assoc, List.drop_left']
    rw [List.length_append, List.length_cons, hkey]
  rw [decodeFrameHeader, parseFrameHeader_encodeFrame opcode fin key hlen]
  dsimp only
  rw [if_neg (by rw [List.length_append, hframe]; omega), if_pos rfl, hdrop,
    List.take_left' (unmask_length _ _), unmask_unmask, ← hframe]
  exact ⟨_, rfl, rfl, rfl⟩

def announcedLen : Bytes → Option ℕ
  | _ :: b1 :: rest =>
    if b1 &&& 0x7F = 126 then if rest.length < 2 then none else some (bigEndian (rest.take 2))
    else if b1 &&& 0x7F = 127 then if rest.length < 8 then none else some (bigEndian (rest.take 8))
    else some (b1 &&& 0x7F).toNat
  | _ => none

def Oversized (data : Bytes) : Prop := ∃ n, announcedLen data = some n ∧ 2 ^ 32 ≤ n

lemma extendedLen_none_of_oversized {b0 b1 : UInt8} {rest : Bytes} (h : Oversized (b0 :: b1 :: rest)) :
    extendedLen b1 rest = none := by
  obtain ⟨n, hn, hbig⟩ := h
  have hseven : (b1 &&& 0x7F).toNat < 2 ^ 32 := by
    have := (b1 &&& 0x7F).toNat_lt
    omega
  rw [announcedLen] at hn
  unfold extendedLen
  by_cases h126 : b1 &&& 0x7F = 126
  · rw [if_pos h126] at hn
    split_ifs at hn with hshort
    have hlt := bigEndian_lt (rest.take 2)
    rw [List.length_take, min_eq_left (by omega)] at hlt
    rw [Option.some.inj hn] at hlt
    omega
  · by_cases h127 : b1 &&& 0x7F = 127
    · rw [if_neg h126, if_pos h127] at hn
      split_ifs at hn with hshort
      have hsplit : bigEndian (rest.take 8) = bigEndian (rest.take 4) * 256 ^ 4 + bigEndian ((rest.drop 4).take 4) := by
        have htake : rest.take 8 = rest.take 4 ++ (rest.drop 4).take 4 := List.take_add (i := 4) (j := 4)
        rw [htake, bigEndian_append, List.length_take, List.length_drop, min_eq_left (by omega)]
      have hlt := bigEndian_lt ((rest.drop 4).take 4)
      rw [List.length_take, List.length_drop, min_eq_left (by omega)] at hlt
      have hhi : bigEndian (rest.take 4) ≠ 0 := by
        intro hzero
        rw [Option.some.inj hn, hzero] at hsplit
        omega
      have hlow : (b1 &&& 0x7F).toNat = 127 := by
        rw [h127]
        rfl
      dsimp only
      rw [hlow, if_neg (by decide), if_pos rfl, if_neg hshort, if_pos hhi]
    · rw [if_neg h126, if_neg h127] at hn
      rw [Option.some.inj hn] at hseven
      omega

lemma decodeFrameHeader_oversized (h : Oversized data) : decodeFrameHeader data = none := by
  match data, h with
  | b0 :: b1 :: rest, h =>
    rw [decodeFrameHeader, parseFrameHeader, extendedLen_none_of_oversized h]

def ReadsBack (opcode : UInt8) (fin : Bool) (payload : Bytes) (key : MaskKey) : Prop :=
  payload.length < 2 ^ 32 → opcode < 16 →
    (∀ suffix, ∃ h, decodeFrameHeader (encodeFrame opcode fin payload key ++ suffix) =
        some (h, payload, (encodeFrame opcode fin payload key).length) ∧
      h.fin = fin ∧ h.opcode = .ofByte opcode) ∧
    ∀ p rest, rest ≠ [] → p ++ rest = encodeFrame opcode fin payload key → decodeFrameHeader p = none

/-- What is consumed is there, and a length that takes more than 32 bits is not answered like a frame that
is not complete. -/
def ConsumesWithin (data : Bytes) : Prop :=
  (∀ h payload n, decodeFrameHeader data = some (h, payload, n) → 0 < n ∧ n ≤ data.length) ∧
    (Oversized data → decodeFrameHeader data ≠ none)

lemma readsBack (opcode : UInt8) (fin : Bool) (payload : Bytes) (key : MaskKey) :
    ReadsBack opcode fin payload key := by
  intro hlen hcode
  have hnibble : opcode &&& 0x0F = opcode := by
    apply UInt8.toNat_inj.1
    rw [UInt8.lt_iff_toNat_lt] at hcode
    rw [UInt8.toNat_and]
    exact (Nat.and_two_pow_sub_one_eq_mod _ 4).trans (Nat.mod_eq_of_lt hcode)
  constructor
  · intro suffix
    have hdec := decodeFrameHeader_encodeFrame opcode fin key hlen suffix
    rwa [hnibble] at hdec
  · intro p rest hrest heq
    cases hp : decodeFrameHeader p with
    | none => rfl
    | some r =>
      obtain ⟨h, payload', n⟩ := r
      obtain ⟨-, hle⟩ := decodeFrameHeader_le hp
      have hlong := decodeFrameHeader_append hp rest
      obtain ⟨h', hwhole, -⟩ := decodeFrameHeader_encodeFrame opcode fin key hlen []
      rw [heq] at hlong
      rw [List.append_nil, hlong] at hwhole
      cases hwhole
      have htotal := congrArg List.length heq
      rw [List.length_append] at htotal
      exact absurd (List.length_pos_iff.2 hrest) (by omega)

/-- Frames are read back exactly, and what is read is there; a length of more than 32 bits is the only thing
that is not reported. -/
theorem frame_codec_iff (opcode : UInt8) (fin : Bool) (payload : Bytes) (key : MaskKey) (data : Bytes) :
    ReadsBack opcode fin payload key ∧ ConsumesWithin data ↔ ¬ Oversized data := by
  constructor
  · rintro ⟨-, -, hreported⟩ hbig
    exact hreported hbig (decodeFrameHeader_oversized hbig)
  · intro hfits
    exact ⟨readsBack opcode fin payload key, fun h payload n hd => decodeFrameHeader_le hd,
      fun hbig => absurd hbig hfits⟩

/-- The header of a frame of 2^32 bytes. -/
theorem oversized_header_not_reported :
    ¬ ∀ (opcode : UInt8) (fin : Bool) (payload : Bytes) (key : MaskKey) (data : Bytes),
      ReadsBack opcode fin payload key ∧ ConsumesWithin data := by
  intro h
  have hbig : Oversized [0x82, 0x7F, 0, 0, 0, 1, 0, 0, 0, 0] := ⟨2 ^ 32, by decide, le_rfl⟩
  exact (h 2 true [] ⟨[1, 2, 3, 4], rfl⟩ [0x82, 0x7F, 0, 0, 0, 1, 0, 0, 0, 0]).2.2 hbig (by decide)

end PjProject.WebSocket
