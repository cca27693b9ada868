import PjProject.PjString

/-!
# Base64

`base64.c`: the encoder, and the decoder that passes over characters outside of the alphabet.
-/
namespace PjProject.Base64

inductive Status
  | inval | tooSmall
  deriving DecidableEq

/-- `base64_char` and `base64url_char` -/
def base64Char (url : Bool) : Bytes :=
  lit "ABCDEFGHIJKLMNOPQRSTUVWXYZabcdefghijklmnopqrstuvwxyz0123456789" ++ if url then lit "-_" else lit "+/"

/-- `INV`, by the low byte of the `int`; nothing that is kept depends on the others. -/
def inv : UInt8 := 0xFF

def paddingChar : UInt8 := 0x3D

def base256ToBase64Len (len : ℕ) : ℕ := len * 4 / 3 + 3

def base64ToBase256Len (len : ℕ) : ℕ := len * 3 / 4

def base256Char (c : UInt8) (url : Bool) : UInt8 :=
  if 0x41 ≤ c ∧ c ≤ 0x5A then c - 0x41
  else if 0x61 ≤ c ∧ c ≤ 0x7A then c - 0x61 + 26
  else if 0x30 ≤ c ∧ c ≤ 0x39 then c - 0x30 + 52
  else if url = false ∧ c = 0x2B ∨ url = true ∧ c = 0x2D then 62
  else if url = false ∧ c = 0x2F ∨ url = true ∧ c = 0x5F then 63
  else inv

def base256to64 (c1 c2 c3 : UInt8) (padding : ℕ) (url : Bool) : Bytes :=
  let b64 := fun v : UInt8 => (base64Char url).getD v.toNat 0
  [b64 (c1 >>> 2), b64 (((c1 &&& 0x3) <<< 4) ||| ((c2 &&& 0xF0) >>> 4))] ++
    match padding with
    | 0 => [b64 (((c2 &&& 0xF) <<< 2) ||| ((c3 &&& 0xC0) >>> 6)), b64 (c3 &&& 0x3F)]
    | 1 => [b64 (((c2 &&& 0xF) <<< 2) ||| ((c3 &&& 0xC0) >>> 6)), paddingChar]
    | _ => [paddingChar, paddingChar]

/-- The loop of `b64_encode`. -/
def encodeLoop (url : Bool) : Bytes → Bytes
  | [] => []
  | [c1] => base256to64 c1 0 0 2 url
  | [c1, c2] => base256to64 c1 c2 0 1 url
  | c1 :: c2 :: c3 :: rest => base256to64 c1 c2 c3 0 url ++ encodeLoop url rest

def b64Encode (input : Bytes) (outLen : ℕ) (url : Bool) : Except Status Bytes :=
  if outLen < base256ToBase64Len input.length then .error .tooSmall else .ok (encodeLoop url input)

def trimPadding (input : Bytes) : Bytes := (input.reverse.dropWhile (· = paddingChar)).reverse

/-- The innermost loop of `b64_decode`: the value of the next character that has one. At the end of the
text the last character is taken as it is. -/
def nextValue (url : Bool) : Bytes → UInt8 × Bytes
  | [] => (inv, [])
  | c :: rest =>
    if base256Char c url = inv ∧ rest ≠ [] then nextValue url rest else (base256Char c url, rest)

/-- The loop that fills up `c`, with `k` elements left. -/
def fillUp (url : Bool) : ℕ → Bytes → List UInt8 × Bytes
  | 0, buf => ([], buf)
  | _ + 1, [] => ([], [])
  | k + 1, c :: rest =>
    let r := nextValue url (c :: rest)
    let r' := fillUp url k r.2
    (r.1 :: r'.1, r'.2)

def groupBytes : List UInt8 → Bytes
  | c0 :: c1 :: c2 :: c3 :: _ =>
    [c0 <<< 2 ||| (c1 &&& 0x30) >>> 4, (c1 &&& 0x0F) <<< 4 ||| (c2 &&& 0x3C) >>> 2,
      (c2 &&& 0x03) <<< 6 ||| c3 &&& 0x3F]
  | [c0, c1, c2] => [c0 <<< 2 ||| (c1 &&& 0x30) >>> 4, (c1 &&& 0x0F) <<< 4 ||| (c2 &&& 0x3C) >>> 2]
  | [c0, c1] => [c0 <<< 2 ||| (c1 &&& 0x30) >>> 4]
  | _ => []

/-- The outer loop of `b64_decode`, which ends with the text or a group that is not full. Every round takes a
character, so as many rounds as there are characters are enough. -/
def decodeLoop (url : Bool) : ℕ → Bytes → Bytes
  | 0, _ => []
  | n + 1, buf =>
    if buf = [] then []
    else
      let r := fillUp url 4 buf
      if r.1.length < 4 then groupBytes r.1 else groupBytes r.1 ++ decodeLoop url n r.2

def b64Decode (input : Bytes) (outLen : ℕ) (url : Bool) : Except Status Bytes :=
  let buf := trimPadding input
  if outLen < base64ToBase256Len buf.length then .error .tooSmall else .ok (decodeLoop url buf.length buf)

def inAlphabet (url : Bool) (c : UInt8) : Bool := base256Char c url ≠ inv

/-- The values that a text is read as: those of its characters in the alphabet, and that of the last
character also when it is not one of them. -/
def values (url : Bool) (buf : Bytes) : List UInt8 :=
  (buf.filter (inAlphabet url)).map (base256Char · url) ++ if buf.getLast?.any (!inAlphabet url ·) then [inv] else []

def unpack : List UInt8 → Bytes
  | c0 :: c1 :: c2 :: c3 :: rest => groupBytes [c0, c1, c2, c3] ++ unpack rest
  | cs => groupBytes cs

variable {url : Bool}

lemma values_cons (c : UInt8) {rest : Bytes} (h : rest ≠ []) :
    values url (c :: rest) = (if inAlphabet url c then [base256Char c url] else []) ++ values url rest := by
  unfold values
  rw [List.getLast?_cons_of_ne_nil h, List.filter_cons]
  by_cases hc : inAlphabet url c = true
  · simp only [if_pos hc, List.map_cons, List.cons_append, List.nil_append]
  · simp only [if_neg hc, List.nil_append]

lemma values_singleton (c : UInt8) : values url [c] = [base256Char c url] := by
  unfold values inAlphabet
  by_cases hc : base256Char c url = inv
  · simp [hc]
  · simp [hc]

lemma values_next (buf : Bytes) (h : buf ≠ []) :
    values url buf = (nextValue url buf).1 :: values url (nextValue url buf).2 ∧
      (nextValue url buf).2.length < buf.length := by
  induction buf with
  | nil => exact absurd rfl h
  | cons c rest ih =>
    rw [nextValue]
    by_cases hrest : rest = []
    · rw [hrest, if_neg (fun hand => hand.2 rfl), values_singleton]
      exact ⟨rfl, Nat.zero_lt_one⟩
    · obtain ⟨hval, hlen⟩ := ih hrest
      rw [values_cons c hrest]
      by_cases hc : base256Char c url = inv
      · have hout : ¬ inAlphabet url c = true := by simp [inAlphabet, hc]
        rw [if_neg hout, if_pos ⟨hc, hrest⟩]
        exact ⟨hval, hlen.trans (Nat.lt_succ_self _)⟩
      · have hin : inAlphabet url c = true := by simp [inAlphabet, hc]
        rw [if_pos hin, if_neg (fun hand => hc hand.1)]
        exact ⟨rfl, Nat.lt_succ_self _⟩

lemma fillUp_values (k : ℕ) : ∀ buf : Bytes, (fillUp url k buf).1 = (values url buf).take k ∧
    values url (fillUp url k buf).2 = (values url buf).drop k ∧
    ((fillUp url k buf).2.length + (fillUp url k buf).1.length ≤ buf.length) := by
  induction k with
  | zero => exact fun buf => ⟨rfl, rfl, le_rfl⟩
  | succ k ih =>
    intro buf
    cases buf with
    | nil => exact ⟨rfl, rfl, le_rfl⟩
    | cons c rest =>
      obtain ⟨hval, hlen⟩ := @values_next url (c :: rest) (by simp)
      obtain ⟨h1, h2, h3⟩ := ih (nextValue url (c :: rest)).2
      rw [fillUp, hval]
      refine ⟨?_, h2, ?_⟩
      · rw [List.take_succ_cons, ← h1]
      · simp only [List.length_cons] at hlen ⊢
        omega

lemma unpack_short {cs : List UInt8} (h : cs.length < 4) : unpack cs = groupBytes cs := by
  match cs, h with
  | [], _ => rfl
  | [_], _ => rfl
  | [_, _], _ => rfl
  | [_, _, _], _ => rfl

variable (cs : List UInt8)

lemma unpack_full (h : 4 ≤ cs.length) : unpack cs = groupBytes (cs.take 4) ++ unpack (cs.drop 4) := by
  match cs, h with
  | _ :: _ :: _ :: _ :: _, _ => rfl

lemma decodeLoop_eq (n : ℕ) : ∀ buf : Bytes, buf.length ≤ n → decodeLoop url n buf = unpack (values url buf) := by
  induction n with
  | zero =>
    intro buf h
    obtain rfl := List.length_eq_zero_iff.1 (Nat.le_zero.1 h)
    rfl
  | succ n ih =>
    intro buf h
    rw [decodeLoop]
    by_cases hbuf : buf = []
    · rw [if_pos hbuf, hbuf]
      rfl
    · obtain ⟨h1, h2, h3⟩ := @fillUp_values url 4 buf
      rw [if_neg hbuf]
      dsimp only
      have hlen : (fillUp url 4 buf).1.length = min 4 (values url buf).length := by rw [h1, List.length_take]
      by_cases hshort : (fillUp url 4 buf).1.length < 4
      · rw [if_pos hshort, h1, List.take_of_length_le (by omega), unpack_short (by omega)]
      · rw [if_neg hshort, h1, ih _ (by omega), h2]
        exact (unpack_full _ (by omega)).symm

lemma unpack_length : (unpack cs).length = cs.length / 4 * 3 + (cs.length % 4 - 1) := by
  induction cs using unpack.induct with
  | case1 c0 c1 c2 c3 rest ih =>
    simp only [unpack, groupBytes, List.length_append, List.length_cons, List.length_nil, ih]
    omega
  | case2 cs hshort =>
    match cs, hshort with
    | [], _ => rfl
    | [_], _ => simp [unpack, groupBytes]
    | [_, _], _ => simp [unpack, groupBytes]
    | [_, _, _], _ => simp [unpack, groupBytes]
    | c0 :: c1 :: c2 :: c3 :: rest, hshort => exact (hshort c0 c1 c2 c3 rest rfl).elim

lemma unpack_append_one (x : UInt8) (h : cs.length % 4 = 0) : unpack (cs ++ [x]) = unpack cs := by
  induction cs using unpack.induct with
  | case1 c0 c1 c2 c3 rest ih =>
    simp only [List.length_cons] at h
    simp only [List.cons_append, unpack, ih (by omega)]
  | case2 cs hshort =>
    match cs, hshort, h with
    | [], _, _ => rfl
    | c0 :: c1 :: c2 :: c3 :: rest, hshort, _ => exact (hshort c0 c1 c2 c3 rest rfl).elim

def sextets : Bytes → List UInt8
  | [] => []
  | [c1] => [c1 >>> 2, (c1 &&& 0x3) <<< 4 ||| ((0 : UInt8) &&& 0xF0) >>> 4]
  | [c1, c2] => [c1 >>> 2, (c1 &&& 0x3) <<< 4 ||| (c2 &&& 0xF0) >>> 4, (c2 &&& 0xF) <<< 2 ||| ((0 : UInt8) &&& 0xC0) >>> 6]
  | c1 :: c2 :: c3 :: rest =>
    [c1 >>> 2, (c1 &&& 0x3) <<< 4 ||| (c2 &&& 0xF0) >>> 4, (c2 &&& 0xF) <<< 2 ||| (c3 &&& 0xC0) >>> 6, c3 &&& 0x3F] ++
      sextets rest

def charOf (url : Bool) (v : UInt8) : UInt8 := (base64Char url).getD v.toNat 0

lemma base256Char_base64Char :
    (base64Char url).map (fun c => base256Char c url) = (List.range 64).map UInt8.ofNat := by
  rw [base64Char, lit_ofList]
  cases url <;> rfl

lemma base256Char_charOf (v : ℕ) (h : v < 64) :
    base256Char (charOf url (UInt8.ofNat v)) url = UInt8.ofNat v := by
  have hval : (UInt8.ofNat v).toNat = v := UInt8.toNat_ofNat_of_lt' (h.trans (by decide))
  have hget := congrArg (fun vs : List UInt8 => vs[v]?) (@base256Char_base64Char url)
  simp only [List.getElem?_map, List.getElem?_range h, Option.map_some, Option.map_eq_some_iff] at hget
  obtain ⟨c, hc, hchar⟩ := hget
  rw [charOf, hval, List.getD_eq_getElem?_getD, hc]
  exact hchar

lemma lt_64_of_and {x : UInt8} (h : x &&& 0x3F = x) : x.toNat < 64 := by
  rw [← h, UInt8.toNat_and]
  exact Nat.lt_succ_of_le Nat.and_le_right

variable (input : Bytes)

lemma sextets_lt : ∀ v ∈ sextets input, v.toNat < 64 := by
  have h1 : ∀ c : UInt8, (c >>> 2).toNat < 64 := fun c =>
    lt_64_of_and (eq_of_bits fun i hi => by interval_cases i <;> simp)
  have h2 : ∀ c d : UInt8, ((c &&& 0x3) <<< 4 ||| (d &&& 0xF0) >>> 4).toNat < 64 := fun c d =>
    lt_64_of_and (eq_of_bits fun i hi => by interval_cases i <;> simp)
  have h3 : ∀ c d : UInt8, ((c &&& 0xF) <<< 2 ||| (d &&& 0xC0) >>> 6).toNat < 64 := fun c d =>
    lt_64_of_and (eq_of_bits fun i hi => by interval_cases i <;> simp)
  have h4 : ∀ c : UInt8, (c &&& 0x3F).toNat < 64 := fun c =>
    lt_64_of_and (eq_of_bits fun i hi => by interval_cases i <;> simp)
  induction input using sextets.induct with
  | case1 => exact fun v hv => absurd hv List.not_mem_nil
  | case2 c1 =>
    simp only [sextets, List.forall_mem_cons]
    exact ⟨h1 c1, h2 c1 0, fun v hv => absurd hv List.not_mem_nil⟩
  | case3 c1 c2 =>
    simp only [sextets, List.forall_mem_cons]
    exact ⟨h1 c1, h2 c1 c2, h3 c2 0, fun v hv => absurd hv List.not_mem_nil⟩
  | case4 c1 c2 c3 rest ih =>
    simp only [sextets, List.cons_append, List.nil_append, List.forall_mem_cons]
    exact ⟨h1 c1, h2 c1 c2, h3 c2 c3, h4 c3, ih⟩

lemma base256Char_of_lt {v : UInt8} (h : v.toNat < 64) : base256Char (charOf url v) url = v := by
  have hchar := @base256Char_charOf url v.toNat h
  rwa [UInt8.ofNat_toNat] at hchar

lemma inAlphabet_charOf {v : UInt8} (h : v.toNat < 64) : inAlphabet url (charOf url v) = true := by
  rw [inAlphabet, base256Char_of_lt h, decide_eq_true_eq]
  rintro rfl
  exact absurd h (by decide)

lemma not_inAlphabet_padding : inAlphabet url paddingChar = false := by
  cases url <;> decide

lemma encodeLoop_eq (input : Bytes) :
    ∃ n, encodeLoop url input = (sextets input).map (charOf url) ++ List.replicate n paddingChar := by
  induction input using sextets.induct with
  | case1 => exact ⟨0, rfl⟩
  | case2 c1 => exact ⟨2, by simp [encodeLoop, base256to64, sextets, charOf, List.replicate]⟩
  | case3 c1 c2 => exact ⟨1, by simp [encodeLoop, base256to64, sextets, charOf]⟩
  | case4 c1 c2 c3 rest ih =>
    obtain ⟨n, hn⟩ := ih
    refine ⟨n, ?_⟩
    rw [encodeLoop, hn, sextets, List.map_append, List.append_assoc]
    simp [base256to64, charOf]

lemma encodeLoop_length (input : Bytes) : (encodeLoop url input).length = (input.length + 2) / 3 * 4 := by
  induction input using sextets.induct with
  | case1 => rfl
  | case2 c1 => simp [encodeLoop, base256to64]
  | case3 c1 c2 => simp [encodeLoop, base256to64]
  | case4 c1 c2 c3 rest ih =>
    simp only [encodeLoop, List.length_append, ih, List.length_cons, base256to64, List.length_nil]
    omega

lemma unpack_sextets : unpack (sextets input) = input := by
  have hfirst : ∀ c d : UInt8, (c >>> 2) <<< 2 ||| (((c &&& 0x3) <<< 4 ||| (d &&& 0xF0) >>> 4) &&& 0x30) >>> 4 = c :=
    fun c d => eq_of_bits fun i hi => by interval_cases i <;> simp
  have hsecond : ∀ c d e : UInt8, (((c &&& 0x3) <<< 4 ||| (d &&& 0xF0) >>> 4) &&& 0x0F) <<< 4 |||
      (((d &&& 0xF) <<< 2 ||| (e &&& 0xC0) >>> 6) &&& 0x3C) >>> 2 = d :=
    fun c d e => eq_of_bits fun i hi => by interval_cases i <;> simp
  have hthird : ∀ d e : UInt8, (((d &&& 0xF) <<< 2 ||| (e &&& 0xC0) >>> 6) &&& 0x03) <<< 6 |||
      (e &&& 0x3F) &&& 0x3F = e :=
    fun d e => eq_of_bits fun i hi => by interval_cases i <;> simp
  induction input using sextets.induct with
  | case1 => rfl
  | case2 c1 =>
    simp only [sextets, unpack, groupBytes]
    rw [hfirst]
  | case3 c1 c2 =>
    simp only [sextets, unpack, groupBytes]
    rw [hfirst, hsecond]
  | case4 c1 c2 c3 rest ih =>
    simp only [sextets, List.cons_append, List.nil_append, unpack, groupBytes, ih]
    rw [hfirst, hsecond, hthird]

lemma trimPadding_append {s : Bytes} (h : ∀ c ∈ s, inAlphabet url c = true) (n : ℕ) :
    trimPadding (s ++ List.replicate n paddingChar) = s := by
  have hdrop : ∀ n, (List.replicate n paddingChar ++ s.reverse).dropWhile (· = paddingChar) = s.reverse := by
    intro n
    induction n with
    | zero =>
      cases hs : s.reverse with
      | nil => rfl
      | cons c t =>
        have hc := h c (List.mem_reverse.1 (by rw [hs]; exact List.mem_cons_self))
        have hne : c ≠ paddingChar := by
          rintro rfl
          rw [not_inAlphabet_padding] at hc
          cases hc
        simp [hne]
    | succ n ih => simpa [List.replicate_succ] using ih
  rw [trimPadding, List.reverse_append, List.reverse_replicate, hdrop, List.reverse_reverse]

def RoundTrip (url : Bool) (input : Bytes) : Prop :=
  ∀ outLen, base256ToBase64Len input.length ≤ outLen →
    ∃ text, b64Encode input outLen url = .ok text ∧ text.length ≤ base256ToBase64Len input.length ∧
      ∀ n, base64ToBase256Len text.length ≤ n → b64Decode text n url = .ok input

def IgnoresInvalid (url : Bool) (text : Bytes) : Prop :=
  ∀ n, base64ToBase256Len text.length ≤ n →
    ∃ out, b64Decode text n url = .ok out ∧ b64Decode (text.filter (inAlphabet url)) n url = .ok out

def Bounded (url : Bool) (text : Bytes) : Prop :=
  ∀ n out, b64Decode text n url = .ok out → out.length ≤ base64ToBase256Len text.length

/-- Without its padding the text ends with a character of the alphabet, or those it has are full groups. -/
def EndsWell (url : Bool) (text : Bytes) : Prop :=
  (trimPadding text).getLast?.any (!inAlphabet url ·) = false ∨ (text.filter (inAlphabet url)).length % 4 = 0

instance (url : Bool) (text : Bytes) : Decidable (EndsWell url text) := inferInstanceAs (Decidable (_ ∨ _))

variable (text : Bytes)

lemma trimPadding_length_le : (trimPadding text).length ≤ text.length := by
  rw [trimPadding, List.length_reverse, ← @List.length_reverse _ text]
  exact (List.dropWhile_sublist _).length_le

lemma trimPadding_filter : (trimPadding text).filter (inAlphabet url) = text.filter (inAlphabet url) := by
  have hdrop : ∀ s : Bytes, (s.dropWhile (· = paddingChar)).filter (inAlphabet url) = s.filter (inAlphabet url) := by
    intro s
    induction s with
    | nil => rfl
    | cons c s ih =>
      by_cases hc : c = paddingChar
      · rw [List.dropWhile_cons_of_pos (by simp [hc]), ih, hc,
          List.filter_cons_of_neg (by simp [not_inAlphabet_padding])]
      · rw [List.dropWhile_cons_of_neg (by simp [hc])]
  rw [trimPadding, List.filter_reverse, hdrop, List.filter_reverse, List.reverse_reverse]

lemma values_of_inAlphabet {s : Bytes} (h : ∀ c ∈ s, inAlphabet url c = true) :
    values url s = s.map (base256Char · url) := by
  have hlast : s.getLast?.any (!inAlphabet url ·) = false := by
    cases hs : s.getLast? with
    | none => rfl
    | some c => simp [h c (List.mem_of_getLast? hs)]
  rw [values, hlast, List.filter_eq_self.2 h, if_neg (by simp), List.append_nil]

lemma b64Decode_eq {text : Bytes} {n : ℕ} (h : base64ToBase256Len (trimPadding text).length ≤ n) :
    b64Decode text n url = .ok (unpack (values url (trimPadding text))) := by
  rw [b64Decode, if_neg (not_lt.2 h), decodeLoop_eq _ _ le_rfl]

lemma base64ToBase256Len_mono {m n : ℕ} (h : m ≤ n) : base64ToBase256Len m ≤ base64ToBase256Len n :=
  Nat.div_le_div_right (Nat.mul_le_mul_right 3 h)

lemma roundTrip : RoundTrip url input := by
  intro outLen hout
  have hlen := @encodeLoop_length url input
  obtain ⟨n, hn⟩ := @encodeLoop_eq url input
  have hin : ∀ c ∈ (sextets input).map (charOf url), inAlphabet url c = true := by
    intro c hc
    obtain ⟨v, hv, rfl⟩ := List.mem_map.1 hc
    exact inAlphabet_charOf (sextets_lt input v hv)
  have htrim : trimPadding (encodeLoop url input) = (sextets input).map (charOf url) := by
    rw [hn, trimPadding_append hin]
  have hvalues : values url ((sextets input).map (charOf url)) = sextets input := by
    have hid : ∀ v ∈ sextets input, ((base256Char · url) ∘ charOf url) v = v := fun v hv =>
      base256Char_of_lt (sextets_lt input v hv)
    rw [values_of_inAlphabet hin, List.map_map, List.map_congr_left hid, List.map_id']
  refine ⟨encodeLoop url input, ?_, ?_, fun m hm => ?_⟩
  · rw [b64Encode, if_neg (not_lt.2 hout)]
  · rw [hlen, base256ToBase64Len]
    omega
  · rw [b64Decode_eq ((base64ToBase256Len_mono (trimPadding_length_le _)).trans hm), htrim, hvalues, unpack_sextets]

lemma values_length_le (buf : Bytes) : (values url buf).length ≤ buf.length := by
  induction buf with
  | nil => exact le_rfl
  | cons c rest ih =>
    by_cases hrest : rest = []
    · rw [hrest, values_singleton]
      exact le_rfl
    · rw [values_cons c hrest, List.length_append, List.length_cons]
      split_ifs
      · simp only [List.length_singleton]
        omega
      · simp only [List.length_nil]
        omega

lemma bounded : Bounded url text := by
  intro n out h
  have hout : unpack (values url (trimPadding text)) = out := by
    rw [b64Decode] at h
    split_ifs at h
    rw [decodeLoop_eq _ _ le_rfl] at h
    exact Except.ok.inj h
  have hvalues := @values_length_le url (trimPadding text)
  have htrim := trimPadding_length_le text
  rw [← hout, unpack_length, base64ToBase256Len]
  omega

lemma ignoresInvalid_iff : IgnoresInvalid url text ↔ EndsWell url text := by
  have hin : ∀ c ∈ text.filter (inAlphabet url), inAlphabet url c = true := fun c hc => (List.mem_filter.1 hc).2
  have htrim : trimPadding (text.filter (inAlphabet url)) = text.filter (inAlphabet url) := by
    have happend := trimPadding_append hin 0
    rwa [List.replicate_zero, List.append_nil] at happend
  have hclean : ∀ n, base64ToBase256Len text.length ≤ n → b64Decode (text.filter (inAlphabet url)) n url =
      .ok (unpack ((text.filter (inAlphabet url)).map (base256Char · url))) := by
    intro n hn
    have hle := (trimPadding_length_le (text.filter (inAlphabet url))).trans (List.length_filter_le _ text)
    rw [b64Decode_eq ((base64ToBase256Len_mono hle).trans hn), htrim, values_of_inAlphabet hin]
  have hraw : ∀ n, base64ToBase256Len text.length ≤ n → b64Decode text n url =
      .ok (unpack (values url (trimPadding text))) :=
    fun n hn => b64Decode_eq ((base64ToBase256Len_mono (trimPadding_length_le text)).trans hn)
  have hsame : IgnoresInvalid url text ↔ unpack ((text.filter (inAlphabet url)).map (base256Char · url)) =
      unpack (values url (trimPadding text)) := by
    constructor
    · intro h
      obtain ⟨out, h1, h2⟩ := h _ le_rfl
      rw [hraw _ le_rfl] at h1
      rw [hclean _ le_rfl] at h2
      exact (Except.ok.inj h2).trans (Except.ok.inj h1).symm
    · exact fun h n hn => ⟨_, hraw n hn, (hclean n hn).trans (congrArg _ h)⟩
  rw [hsame, values, trimPadding_filter, EndsWell]
  by_cases hlast : (trimPadding text).getLast?.any (!inAlphabet url ·) = true
  · rw [if_pos hlast]
    constructor
    · intro h
      have hlen := congrArg List.length h
      rw [unpack_length, unpack_length, List.length_append, List.length_map, List.length_singleton] at hlen
      exact .inr (by omega)
    · rintro (h | h)
      · rw [hlast] at h
        cases h
      · exact (unpack_append_one _ _ (by rwa [List.length_map])).symm
  · rw [if_neg hlast, List.append_nil]
    exact ⟨fun _ => .inl (by simpa using hlast), fun _ => rfl⟩

/-- Bytes survive encoding and decoding, and a text is decoded as if it had no characters outside of the
alphabet exactly if it does not end with one, or has full groups before that. -/
theorem base64_iff (url : Bool) (input text : Bytes) :
    RoundTrip url input ∧ IgnoresInvalid url text ∧ Bounded url text ↔ EndsWell url text := by
  rw [← ignoresInvalid_iff]
  exact ⟨fun h => h.2.1, fun h => ⟨roundTrip input, h, bounded text⟩⟩

/-- Two characters and a line feed: the line feed counts as a third one. -/
theorem line_feed_decoded :
    ¬ ∀ (url : Bool) (input text : Bytes), RoundTrip url input ∧ IgnoresInvalid url text ∧ Bounded url text := by
  intro h
  obtain ⟨out, h1, h2⟩ := (h false [] [0x51, 0x51, 0x0A]).2.1 3 (by decide)
  have hraw : b64Decode [0x51, 0x51, 0x0A] 3 false = .ok [0x41, 0x0F] := by decide
  have hclean : b64Decode ([0x51, 0x51, 0x0A].filter (inAlphabet false)) 3 false = .ok [0x41] := by decide
  rw [hraw] at h1
  rw [hclean] at h2
  exact absurd (h1.trans h2.symm) (by decide)

end PjProject.Base64
