import PjProject.RtcpFb
import PjProject.RtcpSdesRound

/-!
# RTCP feedback packets come back

What is built is parsed to what it was made of, and no parser reads behind the packet,
except where the length field, compared as the host reads it, stands for another number.
-/
namespace PjProject.RtcpFb

open Rtcp

variable {α : Type} {pkt pre post : Bytes} {big : Bool}

lemma ntohsAt_append (v : ℕ) : ntohsAt (pre ++ netBytes 2 v ++ post) pre.length = .ok (v % 65536) := by
  have hlen : pre.length + 2 ≤ (pre ++ netBytes 2 v ++ post).length := by
    simp only [List.length_append, netBytes_length]
    omega
  rw [ntohsAt, bytesAt_eq hlen, List.append_assoc, List.drop_left,
    List.take_left' (netBytes_length 2 v)]
  exact congrArg Except.ok (netValue_netBytes 2 v)

lemma readItems_append {enc : α → Bytes} {dec : Bytes → ℕ → Except Fault α} {xs : List α}
    (hlen : ∀ x ∈ xs, (enc x).length = 4)
    (hdec : ∀ x ∈ xs, ∀ pre post, dec (pre ++ enc x ++ post) pre.length = .ok x) :
    readItems (dec (pre ++ xs.flatMap enc)) xs.length pre.length = .ok xs := by
  induction xs generalizing pre with
  | nil => rfl
  | cons x xs ih =>
    have hx := hdec x List.mem_cons_self pre (xs.flatMap enc)
    have hrest := @ih (pre ++ enc x) (fun y hy => hlen y (List.mem_cons_of_mem _ hy))
      fun y hy => hdec y (List.mem_cons_of_mem _ hy)
    rw [List.length_append, hlen x List.mem_cons_self] at hrest
    rw [List.flatMap_cons, ← List.append_assoc, List.length_cons, readItems, hx]
    change readItems _ _ _ >>= _ = _
    rw [hrest]
    rfl

lemma nackAt_append {n : Nack} (h0 : 0 ≤ n.pid) (h1 : n.pid < 65536) :
    nackAt (pre ++ nackBytes n ++ post) pre.length = .ok n := by
  have hpid := @ntohsAt_append pre (netBytes 2 n.blp.toNat ++ post) (n.pid % 65536).toNat
  have hblp := @ntohsAt_append (pre ++ netBytes 2 (n.pid % 65536).toNat) post n.blp.toNat
  rw [List.length_append, netBytes_length] at hblp
  have hassoc : pre ++ nackBytes n ++ post =
      pre ++ netBytes 2 (n.pid % 65536).toNat ++ (netBytes 2 n.blp.toNat ++ post) := by
    simp only [nackBytes, List.append_assoc]
  rw [nackAt, hassoc, hpid, ← List.append_assoc]
  change (ntohsAt _ _ >>= _) = _
  rw [hblp]
  have hblp16 := n.blp.toNat_lt
  have hval : ((n.pid % 65536).toNat % 65536 : ℕ) = n.pid := by omega
  obtain ⟨pid, blp⟩ := n
  change Except.ok _ = _
  simp only [Nack.mk.injEq, Except.ok.injEq] at hval hblp16 ⊢
  exact ⟨hval, UInt16.toNat_inj.mp (by simp)⟩

lemma sli_second (first number : ℕ) :
    (first &&& 31) <<< 3 ||| (number >>> 10) &&& 7 = first % 32 * 8 + number / 1024 % 8 := by
  have hlow : (number >>> 10) &&& 7 = number / 1024 % 8 := by
    rw [Nat.shiftRight_eq_div_pow]
    exact Nat.and_two_pow_sub_one_eq_mod _ 3
  have hhigh : first &&& 31 = first % 32 := Nat.and_two_pow_sub_one_eq_mod _ 5
  rw [hlow, hhigh, ← Nat.shiftLeft_add_eq_or_of_lt (by omega), Nat.shiftLeft_eq]

lemma sli_fourth (number pict : ℕ) : (number &&& 3) <<< 6 ||| pict &&& 63 = number % 4 * 64 + pict % 64 := by
  have hlow : pict &&& 63 = pict % 64 := Nat.and_two_pow_sub_one_eq_mod _ 6
  have hhigh : number &&& 3 = number % 4 := Nat.and_two_pow_sub_one_eq_mod _ 2
  rw [hlow, hhigh, ← Nat.shiftLeft_add_eq_or_of_lt (by omega), Nat.shiftLeft_eq]

lemma and_high (b : UInt8) (k m : ℕ) (hmask : m >>> k = 2 ^ (8 - k) - 1) :
    (b.toNat &&& m) >>> k = b.toNat / 2 ^ k % 2 ^ (8 - k) := by
  rw [Nat.shiftRight_and_distrib, hmask, Nat.and_two_pow_sub_one_eq_mod, Nat.shiftRight_eq_div_pow]

lemma byteAt_add {l : Bytes} {i : ℕ} (h : i < l.length) : byteAt (pre ++ l ++ post) (pre.length + i) = .ok l[i] := by
  rw [byteAt, List.append_assoc, List.getElem?_append_right (Nat.le_add_right _ _), Nat.add_sub_cancel_left,
    List.getElem?_append_left h, List.getElem?_eq_getElem h]

lemma sliBytes_eq {s : Sli} (hfirst : s.first.toNat < 8192) (hnumber : s.number.toNat < 8192) :
    ∃ b0 b1 b2 b3 : UInt8, sliBytes s = [b0, b1, b2, b3] ∧ b0.toNat = s.first.toNat / 32 ∧
      b1.toNat = s.first.toNat % 32 * 8 + s.number.toNat / 1024 ∧ b2.toNat = s.number.toNat / 4 % 256 ∧
      b3.toNat = s.number.toNat % 4 * 64 + s.pictId.toNat % 64 := by
  have hmask : ∀ n, n &&& 0xFF = n % 256 := fun n => Nat.and_two_pow_sub_one_eq_mod n 8
  have hthree : ∀ n, n &&& 3 = n % 4 := fun n => Nat.and_two_pow_sub_one_eq_mod n 2
  have hlow : ∀ n, n &&& 31 = n % 32 := fun n => Nat.and_two_pow_sub_one_eq_mod n 5
  have hseven : ∀ n, n &&& 7 = n % 8 := fun n => Nat.and_two_pow_sub_one_eq_mod n 3
  refine ⟨_, _, _, _, rfl, ?_, ?_, ?_, ?_⟩
  · rw [UInt8.toNat_ofNat', hmask, Nat.shiftRight_eq_div_pow]
    omega
  · have h := sli_second s.first.toNat s.number.toNat
    rw [UInt8.toNat_or, UInt8.toNat_ofNat', UInt8.toNat_ofNat', Nat.mod_eq_of_lt, Nat.mod_eq_of_lt, h]
    · omega
    · rw [hseven]
      omega
    · rw [hlow, Nat.shiftLeft_eq]
      omega
  · rw [UInt8.toNat_ofNat', hmask, Nat.shiftRight_eq_div_pow]
    omega
  · have h := sli_fourth s.number.toNat s.pictId.toNat
    rw [UInt8.toNat_or, UInt8.toNat_ofNat', Nat.mod_eq_of_lt, UInt8.toNat_and]
    · exact h
    · rw [hthree, Nat.shiftLeft_eq]
      omega

lemma sliAt_append {s : Sli} (hfirst : s.first.toNat < 8192) (hnumber : s.number.toNat < 8192)
    (hpict : s.pictId.toNat < 64) : sliAt (pre ++ sliBytes s ++ post) pre.length = .ok s := by
  obtain ⟨b0, b1, b2, b3, hbytes, h0, h1, h2, h3⟩ := sliBytes_eq hfirst hnumber
  have hb : ∀ i (h : i < [b0, b1, b2, b3].length),
      byteAt (pre ++ [b0, b1, b2, b3] ++ post) (pre.length + i) = .ok [b0, b1, b2, b3][i] := fun i h => byteAt_add h
  have hb0 := hb 0 (by simp)
  rw [Nat.add_zero] at hb0
  rw [hbytes, sliAt, hb0, hb 1 (by simp), hb 2 (by simp), hb 3 (by simp)]
  have hseven : b1.toNat &&& 7 = b1.toNat % 8 := Nat.and_two_pow_sub_one_eq_mod _ 3
  have hpictId : b3 &&& 0x3F = s.pictId := by
    rw [← UInt8.toNat_inj, UInt8.toNat_and]
    have hmod : b3.toNat &&& 63 = b3.toNat % 64 := Nat.and_two_pow_sub_one_eq_mod _ 6
    exact hmod.trans (by omega)
  have hf : (b0.toNat <<< 5) + ((b1.toNat &&& 0xF8) >>> 3) = s.first.toNat := by
    rw [and_high b1 3 0xF8 rfl, Nat.shiftLeft_eq, h0, h1]
    omega
  have hn : ((b1.toNat &&& 7) <<< 10) + (b2.toNat <<< 2) + ((b3.toNat &&& 0xC0) >>> 6) = s.number.toNat := by
    rw [and_high b3 6 0xC0 rfl, hseven, Nat.shiftLeft_eq, Nat.shiftLeft_eq, h1, h2, h3]
    omega
  obtain ⟨first, number, pictId⟩ := s
  simp only [List.getElem_cons_zero, List.getElem_cons_succ]
  change Except.ok _ = _
  rw [hf, hn, hpictId]
  simp

variable {fmt : UInt8}

lemma fmt_eq (flags : UInt8) (h : fmt.toNat < 32) : (flags &&& 0xE0 ||| fmt) &&& 31 = fmt := by
  rw [← UInt8.toNat_inj, UInt8.toNat_and, UInt8.toNat_or, UInt8.toNat_and, Nat.and_or_distrib_right, Nat.and_assoc]
  have hnone : (224 : UInt8).toNat &&& (31 : UInt8).toNat = 0 := by decide
  rw [hnone, Nat.and_zero, Nat.zero_or]
  exact (Nat.and_two_pow_sub_one_eq_mod _ 5).trans (Nat.mod_eq_of_lt h)

def hostNumber (big : Bool) (v : ℕ) : ℕ := if big then v else v / 256 + v % 256 * 256

structure Header (big : Bool) (pkt : Bytes) (pt fmt : UInt8) (v : ℕ) : Prop where
  long : 12 ≤ pkt.length
  pt : byteAt pkt 1 = .ok pt
  fmt : ∃ flags, byteAt pkt 0 = .ok flags ∧ flags &&& 31 = fmt
  length : ntohsAt pkt 2 = .ok v
  raw : hostLength big pkt = .ok (hostNumber big v)

variable (com : Common)

lemma buildHeader_length (peerSsrc : UInt32) (pt fmt : UInt8) (len : ℕ) :
    (buildHeader com peerSsrc pt fmt len).length = 12 := by
  simp [buildHeader]

lemma header_of_build (peerSsrc : UInt32) (pt : UInt8) {len v : ℕ} (body : Bytes)
    (hfmt : fmt.toNat < 32) (hlen : len / 4 - 1 = v) (hv : v < 65536) :
    Header big (buildHeader com peerSsrc pt fmt len ++ body) pt fmt v := by
  have hnet : netBytes 2 v = [.ofNat (v / 256), .ofNat v] := rfl
  have hlong : 12 ≤ (buildHeader com peerSsrc pt fmt len ++ body).length := by
    rw [List.length_append, buildHeader_length]
    omega
  have hread : ntohsAt (buildHeader com peerSsrc pt fmt len ++ body) 2 = .ok v := by
    have h := @ntohsAt_append [com.flags &&& 0xE0 ||| fmt, pt]
      (netBytes 4 com.ssrc.toNat ++ netBytes 4 peerSsrc.toNat ++ body) v
    rw [Nat.mod_eq_of_lt hv] at h
    simpa [buildHeader, hlen] using h
  refine ⟨hlong, rfl, ⟨_, rfl, fmt_eq com.flags hfmt⟩, hread, ?_⟩
  unfold hostLength hostNumber
  cases big with
  | true => exact hread
  | false =>
    simp only [Bool.false_eq_true, if_false, buildHeader, hlen, hnet]
    change Except.ok ((UInt8.ofNat (v / 256)).toNat + (UInt8.ofNat v).toNat * 256) = _
    rw [UInt8.toNat_ofNat', UInt8.toNat_ofNat', Nat.mod_eq_of_lt (show v / 256 < 2 ^ 8 by omega)]

lemma hostNumber_small {v : ℕ} (hv : 3 ≤ v) (hlt : v < 65536) :
    hostNumber big v < 3 ↔ big = false ∧ (v = 256 ∨ v = 512) := by
  unfold hostNumber
  cases big with
  | true =>
    simp only [if_true, Bool.true_eq_false, false_and, iff_false]
    omega
  | false =>
    simp only [Bool.false_eq_true, if_false, true_and]
    omega

variable {enc : α → Bytes} {xs : List α}

lemma flatMap_length (hlen : ∀ x ∈ xs, (enc x).length = 4) : (xs.flatMap enc).length = 4 * xs.length := by
  induction xs with
  | nil => rfl
  | cons x xs ih =>
    rw [List.flatMap_cons, List.length_append, hlen x List.mem_cons_self,
      ih fun y hy => hlen y (List.mem_cons_of_mem _ hy), List.length_cons]
    omega

lemma buildItems_eq {pt : UInt8} (com : Common) (peerSsrc : UInt32) {cap : ℕ}
    (hne : xs ≠ []) (hmax : xs.length ≤ 65533) (hcap : (3 + xs.length) * 4 ≤ cap) :
    buildItems enc pt fmt com peerSsrc cap xs =
      .ok (buildHeader com peerSsrc pt fmt ((3 + xs.length) * 4) ++ xs.flatMap enc) := by
  have hpos := List.length_pos_of_ne_nil hne
  have hlen : (3 + xs.length) * 4 % 2 ^ 32 = (3 + xs.length) * 4 := Nat.mod_eq_of_lt (by omega)
  simp only [buildItems, hlen]
  rw [if_neg (by omega), if_neg (by omega)]

lemma parseItems_build {dec : Bytes → ℕ → Except Fault α} {pt : UInt8} (com : Common)
    (peerSsrc : UInt32) {room : ℕ} (hne : xs ≠ []) (hmax : xs.length ≤ 65533)
    (hroom : xs.length ≤ room) (hlen : ∀ x ∈ xs, (enc x).length = 4)
    (hdec : ∀ x ∈ xs, ∀ pre post, dec (pre ++ enc x ++ post) pre.length = .ok x)
    (h : Header big (buildHeader com peerSsrc pt fmt ((3 + xs.length) * 4) ++ xs.flatMap enc) pt fmt (xs.length + 2)) :
    parseItems dec (buildHeader com peerSsrc pt fmt ((3 + xs.length) * 4) ++ xs.flatMap enc) room =
      .ok (.ok xs) := by
  have hpos := List.length_pos_of_ne_nil hne
  have hwords : fciWords (xs.length + 2) = xs.length := by
    rw [fciWords, if_pos (by omega), Nat.add_sub_cancel]
  have hitems := @readItems_append _ (buildHeader com peerSsrc pt fmt ((3 + xs.length) * 4)) _ _ _ hlen hdec
  rw [buildHeader_length] at hitems
  have hlong : ¬ (buildHeader com peerSsrc pt fmt ((3 + xs.length) * 4) ++ xs.flatMap enc).length <
      (xs.length + 3) * 4 := by
    rw [List.length_append, buildHeader_length, flatMap_length hlen]
    omega
  rw [parseItems, h.length]
  change (if _ < (fciWords _ + 3) * 4 then _ else _) = _
  rw [hwords, if_neg hlong, Nat.min_eq_right hroom, hitems]
  rfl

def NackReturns (com : Common) (peerSsrc : UInt32) (nack : List Nack) : Prop :=
  ∀ cap room, (3 + nack.length) * 4 ≤ cap → nack.length ≤ room →
    ∃ pkt, buildNack com peerSsrc cap nack = .ok pkt ∧ parseNack pkt room = .ok (.ok nack)

def SliReturns (big : Bool) (com : Common) (peerSsrc : UInt32) (sli : List Sli) : Prop :=
  ∀ cap room, (3 + sli.length) * 4 ≤ cap → sli.length ≤ room →
    ∃ pkt, buildSli com peerSsrc cap sli = .ok pkt ∧ parseSli big pkt room = .ok (.ok sli)

lemma nack_returns (peerSsrc : UInt32) {nack : List Nack} (hne : nack ≠ [])
    (hmax : nack.length ≤ 65533) (hpid : ∀ n ∈ nack, 0 ≤ n.pid ∧ n.pid < 65536) :
    NackReturns com peerSsrc nack := by
  intro cap room hcap hroom
  have hheader : Header true _ 205 1 (nack.length + 2) := header_of_build com peerSsrc 205 (nack.flatMap nackBytes)
    (by decide) (show (3 + nack.length) * 4 / 4 - 1 = nack.length + 2 by omega) (by omega)
  refine ⟨_, buildItems_eq com peerSsrc hne hmax hcap, ?_⟩
  obtain ⟨flags, hflags, hfmt⟩ := hheader.fmt
  have hitems := parseItems_build com peerSsrc hne hmax hroom (fun _ _ => by simp [nackBytes])
    (fun n hn _ _ => nackAt_append (hpid n hn).1 (hpid n hn).2) hheader
  rw [parseNack, if_neg (Nat.not_lt.mpr hheader.long), hflags, hheader.pt]
  change (if (205 : UInt8) ≠ 205 ∨ flags &&& 31 ≠ 1 then _ else _) = _
  rw [hfmt, if_neg (by decide), hitems]

lemma sli_returns_iff (peerSsrc : UInt32) {sli : List Sli} (hne : sli ≠ []) (hmax : sli.length ≤ 65533)
    (hbits : ∀ s ∈ sli, s.first.toNat < 8192 ∧ s.number.toNat < 8192 ∧ s.pictId.toNat < 64) :
    SliReturns big com peerSsrc sli ↔ big = true ∨ sli.length ≠ 254 ∧ sli.length ≠ 510 := by
  have hpos := List.length_pos_of_ne_nil hne
  have hheader : Header big _ 206 2 (sli.length + 2) := header_of_build com peerSsrc 206 (sli.flatMap sliBytes)
    (by decide) (show (3 + sli.length) * 4 / 4 - 1 = sli.length + 2 by omega) (by omega)
  obtain ⟨flags, hflags, hfmt⟩ := hheader.fmt
  have hparse : ∀ room, parseSli big (buildHeader com peerSsrc 206 2 ((3 + sli.length) * 4) ++ sli.flatMap sliBytes)
      room = if hostNumber big (sli.length + 2) < 3 then .ok (.error .etoosmall)
        else parseItems sliAt (buildHeader com peerSsrc 206 2 ((3 + sli.length) * 4) ++ sli.flatMap sliBytes) room := by
    intro room
    rw [parseSli, if_neg (Nat.not_lt.mpr hheader.long), hflags, hheader.pt]
    change (if (206 : UInt8) ≠ 206 ∨ flags &&& 31 ≠ 2 then _ else _) = _
    rw [hfmt, if_neg (by decide), hheader.raw]
    rfl
  have hsmall := @hostNumber_small big _ (show 3 ≤ sli.length + 2 by omega) (by omega)
  constructor
  · intro h
    obtain ⟨pkt, hbuild, hback⟩ := h _ _ le_rfl le_rfl
    rw [buildSli, buildItems_eq com peerSsrc hne hmax le_rfl] at hbuild
    cases hbuild
    rw [hparse] at hback
    by_contra hc
    rw [if_pos (hsmall.mpr (by cases big <;> simp at hc ⊢; omega))] at hback
    cases hback
  · intro h cap room hcap hroom
    refine ⟨_, buildItems_eq com peerSsrc hne hmax hcap, ?_⟩
    rw [hparse, if_neg fun hc => ?_]
    · exact parseItems_build com peerSsrc hne hmax hroom (fun _ _ => rfl)
        (fun s hs _ _ => sliAt_append (hbits s hs).1 (hbits s hs).2.1 (hbits s hs).2.2) hheader
    · obtain ⟨hbig, hlen⟩ := hsmall.mp hc
      rcases h with h | h
      · rw [hbig] at h
        cases h
      · omega

def rpsiWords (r : Rpsi) : ℕ := (r.rpsiBitLen + 16 + padLen (r.rpsiBitLen + 16)) / 32

def RpsiReturns (big : Bool) (com : Common) (peerSsrc : UInt32) (r : Rpsi) : Prop :=
  ∀ cap, (3 + rpsiWords r) * 4 ≤ cap →
    ∃ pkt, buildRpsi com peerSsrc cap r = .ok (.ok pkt) ∧ parseRpsi big pkt = .ok (.ok r)

def rpsiBody (r : Rpsi) : Bytes :=
  [.ofNat (padLen (r.rpsiBitLen + 16)), r.pt &&& 0x7F] ++ r.rpsi ++
    List.replicate (padLen (r.rpsiBitLen + 16) / 8) 0

lemma padLen_spec (n : ℕ) : padLen n < 32 ∧ 32 * ((n + padLen n) / 32) = n + padLen n := by
  unfold padLen
  omega

variable {r : Rpsi}

lemma rpsiBody_length (hlen : r.rpsi.length = (r.rpsiBitLen + 7) / 8) :
    (rpsiBody r).length = rpsiWords r * 4 := by
  simp only [rpsiBody, rpsiWords, List.length_append, List.length_cons, List.length_nil, hlen,
    List.length_replicate]
  unfold padLen
  omega

lemma buildRpsi_eq (peerSsrc : UInt32) {cap : ℕ}
    (hlen : r.rpsi.length = (r.rpsiBitLen + 7) / 8) (hmax : r.rpsiBitLen + 16 ≤ 65533 * 32)
    (hcap : (3 + rpsiWords r) * 4 ≤ cap) : buildRpsi com peerSsrc cap r =
      .ok (.ok (buildHeader com peerSsrc 206 3 ((3 + rpsiWords r) * 4) ++ rpsiBody r)) := by
  obtain ⟨hpad, hwhole⟩ := padLen_spec (r.rpsiBitLen + 16)
  have h1 : (r.rpsiBitLen + 16) % 2 ^ 32 = r.rpsiBitLen + 16 := Nat.mod_eq_of_lt (by omega)
  have h2 : (r.rpsiBitLen + 16 + padLen (r.rpsiBitLen + 16)) % 2 ^ 32 =
      r.rpsiBitLen + 16 + padLen (r.rpsiBitLen + 16) := Nat.mod_eq_of_lt (by omega)
  have h3 : (3 + rpsiWords r) * 4 % 2 ^ 32 = (3 + rpsiWords r) * 4 :=
    Nat.mod_eq_of_lt (by unfold rpsiWords; omega)
  have hfit : ¬ (3 + rpsiWords r) * 4 > cap := by omega
  have hall := List.take_append_drop (r.rpsiBitLen / 8) r.rpsi
  simp only [buildRpsi, h1, h2]
  rw [← rpsiWords, h3, if_neg hfit, bytesAt_eq (by omega), List.drop_zero]
  change (if r.rpsiBitLen % 8 ≠ 0 then _ else _) = _
  split_ifs with hpart
  · -- the last byte is copied whole
    rw [bytesAt_eq (by omega), List.take_of_length_le (by rw [List.length_drop]; omega)]
    change Except.ok (Except.ok _) = _
    simp only [rpsiBody, List.append_assoc]
    nth_rewrite 3 [← hall]
    simp only [List.append_assoc]
  · rw [List.take_of_length_le (by omega)]
    change Except.ok (Except.ok _) = _
    simp only [rpsiBody, List.append_assoc, List.nil_append]

lemma parseRpsi_build (peerSsrc : UInt32)
    (hlen : r.rpsi.length = (r.rpsiBitLen + 7) / 8) (hmax : r.rpsiBitLen + 16 ≤ 65533 * 32) :
    parseRpsi big (buildHeader com peerSsrc 206 3 ((3 + rpsiWords r) * 4) ++ rpsiBody r) =
      if hostNumber big (rpsiWords r + 2) < 3 then .ok (.error .etoosmall)
      else .ok (.ok { r with pt := r.pt &&& 0x7F }) := by
  obtain ⟨hpad, hwhole⟩ := padLen_spec (r.rpsiBitLen + 16)
  have hwords : 32 * rpsiWords r = r.rpsiBitLen + 16 + padLen (r.rpsiBitLen + 16) := hwhole
  have hheader : Header big _ 206 3 (rpsiWords r + 2) := header_of_build com peerSsrc 206 (rpsiBody r)
    (by decide) (show (3 + rpsiWords r) * 4 / 4 - 1 = rpsiWords r + 2 by omega) (by omega)
  obtain ⟨flags, hflags, hfmt⟩ := hheader.fmt
  have hhead := buildHeader_length com peerSsrc 206 3 ((3 + rpsiWords r) * 4)
  have hlong : ¬ (buildHeader com peerSsrc 206 3 ((3 + rpsiWords r) * 4) ++ rpsiBody r).length <
      fciWords (rpsiWords r + 2) * 4 + 12 := by
    rw [List.length_append, hhead, rpsiBody_length hlen, fciWords, if_pos (by omega)]
    omega
  have hat : ∀ i (h : i < (rpsiBody r).length), byteAt (buildHeader com peerSsrc 206 3 ((3 + rpsiWords r) * 4) ++
      rpsiBody r) (12 + i) = .ok (rpsiBody r)[i] := fun i h => by
    have h := @byteAt_add (buildHeader com peerSsrc 206 3 ((3 + rpsiWords r) * 4)) [] _ _ h
    rwa [List.append_nil, hhead] at h
  have hpadByte : (UInt8.ofNat (padLen (r.rpsiBitLen + 16))).toNat = padLen (r.rpsiBitLen + 16) := by
    rw [UInt8.toNat_ofNat']
    omega
  have h12 : byteAt (buildHeader com peerSsrc 206 3 ((3 + rpsiWords r) * 4) ++ rpsiBody r) 12 =
      .ok (.ofNat (padLen (r.rpsiBitLen + 16))) := hat 0 (by rw [rpsiBody_length hlen]; omega)
  have h13 : byteAt (buildHeader com peerSsrc 206 3 ((3 + rpsiWords r) * 4) ++ rpsiBody r) 13 =
      .ok (r.pt &&& 0x7F) := hat 1 (by rw [rpsiBody_length hlen]; omega)
  rw [parseRpsi, if_neg (Nat.not_lt.mpr hheader.long), hflags, hheader.pt]
  change (if (206 : UInt8) ≠ 206 ∨ flags &&& 31 ≠ 3 then _ else _) = _
  rw [hfmt, if_neg (by decide), hheader.raw]
  change (if hostNumber big (rpsiWords r + 2) < 3 then _ else _) = _
  split_ifs with hraw
  · rfl
  · rw [hheader.length]
    change (if _ < fciWords _ * 4 + 12 then _ else _) = _
    have hsmall : ¬ UInt8.ofNat (padLen (r.rpsiBitLen + 16)) ≥ 32 := by
      rw [ge_iff_le, UInt8.le_iff_toNat_le, hpadByte]
      exact Nat.not_le.mpr hpad
    have hfci : fciWords (rpsiWords r + 2) = rpsiWords r := by
      rw [fciWords, if_pos (by omega), Nat.add_sub_cancel]
    have hbits : rpsiWords r * 4 * 8 - 16 - padLen (r.rpsiBitLen + 16) = r.rpsiBitLen := by omega
    rw [if_neg hlong, h12]
    change (if UInt8.ofNat _ ≥ 32 then _ else _) = _
    rw [if_neg hsmall, hfci, hpadByte, if_neg (by omega), h13]
    change Except.ok (Except.ok _) = _
    have hmask : r.pt &&& 0x7F &&& 0x7F = r.pt &&& 0x7F := by rw [UInt8.and_assoc]; rfl
    have hstr : ((buildHeader com peerSsrc 206 3 ((3 + rpsiWords r) * 4) ++ rpsiBody r).drop 14).take
        ((r.rpsiBitLen + 7) / 8) = r.rpsi := by
      have hsplit : buildHeader com peerSsrc 206 3 ((3 + rpsiWords r) * 4) ++ rpsiBody r =
          (buildHeader com peerSsrc 206 3 ((3 + rpsiWords r) * 4) ++
            [.ofNat (padLen (r.rpsiBitLen + 16)), r.pt &&& 0x7F]) ++ (r.rpsi ++
              List.replicate (padLen (r.rpsiBitLen + 16) / 8) 0) := by
        simp only [rpsiBody, List.append_assoc]
      rw [hsplit, List.drop_left' (by rw [List.length_append, hhead]; rfl), List.take_left' hlen]
    rw [hbits, hmask, hstr]

lemma rpsi_returns_iff (peerSsrc : UInt32)
    (hlen : r.rpsi.length = (r.rpsiBitLen + 7) / 8) (hmax : r.rpsiBitLen + 16 ≤ 65533 * 32) :
    RpsiReturns big com peerSsrc r ↔
      r.pt.toNat < 128 ∧ (big = true ∨ rpsiWords r ≠ 254 ∧ rpsiWords r ≠ 510) := by
  have hpos : 3 ≤ rpsiWords r + 2 ∧ rpsiWords r + 2 < 65536 := by
    have := padLen_spec (r.rpsiBitLen + 16)
    unfold rpsiWords
    omega
  have hsmall := @hostNumber_small big _ hpos.1 hpos.2
  have hpt : r.pt &&& 0x7F = r.pt ↔ r.pt.toNat < 128 := by
    have hmod : r.pt.toNat &&& 127 = r.pt.toNat % 128 := Nat.and_two_pow_sub_one_eq_mod _ 7
    rw [← UInt8.toNat_inj, UInt8.toNat_and]
    change r.pt.toNat &&& 127 = _ ↔ _
    omega
  have hiff : RpsiReturns big com peerSsrc r ↔ ¬ hostNumber big (rpsiWords r + 2) < 3 ∧ r.pt &&& 0x7F = r.pt := by
    constructor
    · intro h
      obtain ⟨pkt, hbuild, hback⟩ := h _ le_rfl
      rw [buildRpsi_eq com peerSsrc hlen hmax le_rfl] at hbuild
      cases hbuild
      rw [parseRpsi_build com peerSsrc hlen hmax] at hback
      split_ifs at hback with hraw
      · cases hback
      · refine ⟨hraw, ?_⟩
        have hr := Except.ok.inj (Except.ok.inj hback)
        exact congrArg Rpsi.pt hr
    · rintro ⟨hraw, hmask⟩ cap hcap
      refine ⟨_, buildRpsi_eq com peerSsrc hlen hmax hcap, ?_⟩
      rw [parseRpsi_build com peerSsrc hlen hmax, if_neg hraw, hmask]
  rw [hiff, hpt, hsmall]
  cases big with
  | true => simp
  | false =>
    simp only [Bool.false_eq_true, true_and, false_or]
    omega

lemma readItems_runs {dec : ℕ → Except Fault α} {len : ℕ} (hdec : ∀ p, p + 4 ≤ len → Runs (dec p)) (n : ℕ) :
    ∀ p, p + 4 * n ≤ len → Runs (readItems dec n p) := by
  induction n with
  | zero => exact fun p _ => .ok []
  | succ n ih =>
    intro p hp
    refine (hdec p (by omega)).bind fun x _ => ?_
    exact (ih (p + 4) (by omega)).bind fun xs _ => .ok _

lemma parseItems_runs {dec : Bytes → ℕ → Except Fault α} (hlong : 12 ≤ pkt.length)
    (hdec : ∀ p, p + 4 ≤ pkt.length → Runs (dec pkt p)) (room : ℕ) : Runs (parseItems dec pkt room) := by
  refine (ntohsAt_runs (by omega)).bind fun length _ => ?_
  change Runs (if pkt.length < (fciWords length + 3) * 4 then _ else _)
  split_ifs with hshort
  · exact .ok _
  · refine (readItems_runs hdec _ 12 ?_).bind fun items _ => .ok _
    have := Nat.min_le_right room (fciWords length)
    omega

lemma hostLength_runs (hlong : 12 ≤ pkt.length) : Runs (hostLength big pkt) := by
  unfold hostLength
  cases big with
  | true => exact ntohsAt_runs (by omega)
  | false => exact (byteAt_runs (by omega)).bind fun _ _ => (byteAt_runs (by omega)).bind fun _ _ => .ok _

lemma parseNack_runs (pkt : Bytes) (room : ℕ) : Runs (parseNack pkt room) := by
  unfold parseNack
  split_ifs with hshort
  · exact .ok _
  · refine (byteAt_runs (by omega)).bind fun flags _ => (byteAt_runs (by omega)).bind fun pt _ => ?_
    split_ifs with hother
    · exact .ok _
    · refine parseItems_runs (by omega) (fun p hp => ?_) room
      exact (ntohsAt_runs (by omega)).bind fun _ _ => (ntohsAt_runs (by omega)).bind fun _ _ => .ok _

lemma parseSli_runs (big : Bool) (pkt : Bytes) (room : ℕ) : Runs (parseSli big pkt room) := by
  unfold parseSli
  split_ifs with hshort
  · exact .ok _
  · refine (byteAt_runs (by omega)).bind fun flags _ => (byteAt_runs (by omega)).bind fun pt _ => ?_
    split_ifs with hother
    · exact .ok _
    · refine (hostLength_runs (by omega)).bind fun raw _ => ?_
      split_ifs with hraw
      · exact .ok _
      · refine parseItems_runs (by omega) (fun p hp => ?_) room
        exact (byteAt_runs (by omega)).bind fun _ _ => (byteAt_runs (by omega)).bind fun _ _ =>
          (byteAt_runs (by omega)).bind fun _ _ => (byteAt_runs (by omega)).bind fun _ _ => .ok _

def NoPadByte (big : Bool) (pkt : Bytes) : Prop :=
  big = false ∧ pkt.length = 12 ∧ pkt.getD 0 0 &&& 31 = 3 ∧ pkt.getD 1 0 = 206 ∧ pkt.getD 2 0 = 0 ∧
    (pkt.getD 3 0 = 1 ∨ pkt.getD 3 0 = 2)

lemma ntohsAt_two (b0 b1 b2 b3 : UInt8) (rest : Bytes) :
    ntohsAt (b0 :: b1 :: b2 :: b3 :: rest) 2 = .ok (b2.toNat * 256 + b3.toNat) := by
  rw [ntohsAt, bytesAt_eq (by simp)]
  change Except.ok ((0 * 256 + b2.toNat) * 256 + b3.toNat) = _
  rw [Nat.zero_mul, Nat.zero_add]

lemma hostLength_two (b0 b1 b2 b3 : UInt8) (rest : Bytes) : hostLength big (b0 :: b1 :: b2 :: b3 :: rest) =
      .ok (if big = true then b2.toNat * 256 + b3.toNat else b2.toNat + b3.toNat * 256) := by
  unfold hostLength
  cases big with
  | true => exact ntohsAt_two b0 b1 b2 b3 rest
  | false => rfl

lemma parseRpsi_runs_iff (hlong : 12 ≤ pkt.length) : Runs (parseRpsi big pkt) ↔ ¬ NoPadByte big pkt := by
  obtain ⟨b0, b1, b2, b3, rest, rfl⟩ : ∃ b0 b1 b2 b3 rest, pkt = b0 :: b1 :: b2 :: b3 :: rest := by
    rcases pkt with _ | ⟨b0, _ | ⟨b1, _ | ⟨b2, _ | ⟨b3, rest⟩⟩⟩⟩
    case cons.cons.cons.cons => exact ⟨b0, b1, b2, b3, rest, rfl⟩
    all_goals simp at hlong
  have h2 := b2.toNat_lt
  have h3 := b3.toNat_lt
  have hraw := @hostLength_two big b0 b1 b2 b3 rest
  have hlength := ntohsAt_two b0 b1 b2 b3 rest
  have hcond : NoPadByte big (b0 :: b1 :: b2 :: b3 :: rest) ↔ big = false ∧
      (b0 :: b1 :: b2 :: b3 :: rest).length = 12 ∧ b0 &&& 31 = 3 ∧ b1 = 206 ∧ b2.toNat = 0 ∧
        (b3.toNat = 1 ∨ b3.toNat = 2) := by
    simp only [NoPadByte, List.getD_cons_zero, List.getD_cons_succ, ← UInt8.toNat_inj (a := b2),
      ← UInt8.toNat_inj (a := b3)]
    exact Iff.rfl
  generalize hpkt : b0 :: b1 :: b2 :: b3 :: rest = pkt at *
  have hb0 : byteAt pkt 0 = .ok b0 := by rw [← hpkt]; rfl
  have hb1 : byteAt pkt 1 = .ok b1 := by rw [← hpkt]; rfl
  rw [hcond, parseRpsi, if_neg (Nat.not_lt.mpr hlong), hb0, hb1]
  change Runs (if b1 ≠ 206 ∨ b0 &&& 31 ≠ 3 then _ else _) ↔ _
  by_cases hother : b1 ≠ 206 ∨ b0 &&& 31 ≠ 3
  · rw [if_pos hother]
    exact iff_of_true (.ok _) fun hc => hother.elim (fun h => h hc.2.2.2.1) fun h => h hc.2.2.1
  · obtain ⟨hb1, hb0⟩ := not_or.mp hother
    rw [if_neg hother, hraw]
    change Runs (if (if big = true then _ else _) < 3 then _ else _) ↔ _
    by_cases hsmall : (if big = true then b2.toNat * 256 + b3.toNat else b2.toNat + b3.toNat * 256) < 3
    · rw [if_pos hsmall]
      refine iff_of_true (.ok _) fun hc => ?_
      obtain ⟨hbig, -, -, -, hz, hn⟩ := hc
      rw [hbig] at hsmall
      simp only [Bool.false_eq_true, if_false] at hsmall
      omega
    · rw [if_neg hsmall, hlength]
      change Runs (if _ < fciWords _ * 4 + 12 then _ else _) ↔ _
      by_cases hshort : pkt.length < fciWords (b2.toNat * 256 + b3.toNat) * 4 + 12
      · rw [if_pos hshort]
        refine iff_of_true (.ok _) fun hc => ?_
        obtain ⟨-, hlen, -, -, hz, hn⟩ := hc
        rw [fciWords, if_neg (by omega)] at hshort
        omega
      · rw [if_neg hshort]
        by_cases hnone : pkt.length = 12
        · have hfault : byteAt pkt 12 = .error .read := by
            rw [byteAt, List.getElem?_eq_none (by omega)]
          have hwords : b2.toNat * 256 + b3.toNat ≤ 2 := by
            unfold fciWords at hshort
            split_ifs at hshort <;> omega
          rw [hfault]
          refine iff_of_false (fun hx => by obtain ⟨_, hx⟩ := hx; cases hx) (not_not.mpr ⟨?_, hnone, ?_, ?_, ?_⟩)
          · cases big with
            | true =>
              rw [if_pos rfl] at hsmall
              omega
            | false => rfl
          · exact not_not.mp hb0
          · exact not_not.mp hb1
          · cases big with
            | true =>
              rw [if_pos rfl] at hsmall
              omega
            | false =>
              simp only [Bool.false_eq_true, if_false] at hsmall
              omega
        · refine iff_of_true ((byteAt_runs (by omega)).bind fun padlen _ => ?_) fun hc => hnone hc.2.1
          split_ifs with hbig hbits
          · exact .ok _
          · exact .ok _
          · exact (byteAt_runs (by omega)).bind fun _ _ => .ok _

/-- What is built comes back, and the parsers stay in the packet, exactly but for the packets whose length
field the host takes for another number. -/
theorem rtcp_fb_codec (big : Bool) (com : Common) (peerSsrc : UInt32) :
    (∀ nack : List Nack, nack ≠ [] → nack.length ≤ 65533 → (∀ n ∈ nack, 0 ≤ n.pid ∧ n.pid < 65536) →
      NackReturns com peerSsrc nack) ∧ (∀ sli : List Sli, sli ≠ [] → sli.length ≤ 65533 →
      (∀ s ∈ sli, s.first.toNat < 8192 ∧ s.number.toNat < 8192 ∧ s.pictId.toNat < 64) →
        (SliReturns big com peerSsrc sli ↔ big = true ∨ sli.length ≠ 254 ∧ sli.length ≠ 510)) ∧
    (∀ r : Rpsi, r.rpsi.length = (r.rpsiBitLen + 7) / 8 → r.rpsiBitLen + 16 ≤ 65533 * 32 →
      (RpsiReturns big com peerSsrc r ↔
        r.pt.toNat < 128 ∧ (big = true ∨ rpsiWords r ≠ 254 ∧ rpsiWords r ≠ 510))) ∧
    ∀ pkt : Bytes, 12 ≤ pkt.length → (∀ room, Runs (parseNack pkt room) ∧ Runs (parseSli big pkt room)) ∧
        (Runs (parseRpsi big pkt) ↔ ¬ NoPadByte big pkt) :=
  ⟨fun _ => nack_returns com peerSsrc, fun _ => sli_returns_iff com peerSsrc,
    fun _ => rpsi_returns_iff com peerSsrc,
    fun pkt hlong => ⟨fun room => ⟨parseNack_runs pkt room, parseSli_runs big pkt room⟩, parseRpsi_runs_iff hlong⟩⟩

/-- A bit string of ten bytes on a little-endian host. -/
theorem rtcp_fb_codec_rpsi : RpsiReturns false ⟨0x80, 7⟩ 9 ⟨96, [1, 2, 3, 4, 5, 6, 7, 8, 9, 10], 80⟩ :=
  ((rtcp_fb_codec false ⟨0x80, 7⟩ 9).2.2.1 ⟨96, [1, 2, 3, 4, 5, 6, 7, 8, 9, 10], 80⟩ rfl (by decide)).mpr
    (by decide)

/-- On a little-endian host a header alone, with 2 in its length field, makes the parser of bit strings read
the thirteenth byte of twelve, and 254 items of slice loss do not come back. -/
theorem rtcp_fb_unswapped : ¬ Runs (parseRpsi false [0x83, 206, 0, 2, 0, 0, 0, 7, 0, 0, 0, 9]) ∧
      ¬ SliReturns false ⟨0x80, 7⟩ 9 (List.replicate 254 ⟨1, 2, 3⟩) := by
  refine ⟨?_, fun h => ?_⟩
  · rw [parseRpsi_runs_iff (by decide), not_not]
    exact ⟨rfl, rfl, rfl, rfl, rfl, .inr rfl⟩
  · have hlen : (List.replicate 254 (⟨1, 2, 3⟩ : Sli)).length = 254 := List.length_replicate
    have hne := List.ne_nil_of_length_eq_add_one hlen
    refine absurd ((sli_returns_iff ⟨0x80, 7⟩ 9 hne (by rw [hlen]; decide) fun s hs => ?_).mp h)
      (by rw [hlen]; decide)
    obtain rfl := List.eq_of_mem_replicate hs
    decide

end PjProject.RtcpFb
