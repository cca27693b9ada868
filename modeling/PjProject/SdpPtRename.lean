import PjProject.SdpCmp
import PjProject.SdpPtAssign

/-!
# Renaming payload types in the text of a session

`rewrite_pt2` replaces the first two or three bytes of an attribute value or a format. Where these
spell the payload type, the new value is read back as the old one with the new payload type.
-/
namespace PjProject.SdpNeg

open Scanner
open Sdp (Attr csToken findAttr fmtPt valuePt)
open SdpText (Media)

def EndsNumber (t : Bytes) : Prop := ∀ c ∈ t.head?, isDigit c = false

instance (t : Bytes) : Decidable (EndsNumber t) :=
  inferInstanceAs (Decidable (∀ c ∈ t.head?, isDigit c = false))

variable {t : Bytes}

lemma takeWhile_utoa (n : ℕ) (ht : EndsNumber t) :
    (utoa n ++ t).takeWhile isDigit = utoa n ∧ (utoa n ++ t).dropWhile isDigit = t := by
  have htake : t.takeWhile isDigit = [] ∧ t.dropWhile isDigit = t := by
    cases t with
    | nil => exact ⟨rfl, rfl⟩
    | cons c t =>
      have hc := ht c rfl
      simp [hc]
  rw [List.takeWhile_append_of_pos (utoa_digits n), List.dropWhile_append_of_pos (utoa_digits n),
    htake.1, htake.2, List.append_nil]
  exact ⟨rfl, rfl⟩

lemma utoa_numeric (n : ℕ) (t : Bytes) : (utoa n ++ t).head?.any isDigit = true := by
  cases hu : utoa n with
  | nil => exact absurd hu (utoa_ne_nil n)
  | cons c s => simpa using utoa_digits n c (by simp [hu])

variable {n : ℕ}

lemma fmtPt_utoa (h : n < 2 ^ 32) : fmtPt (utoa n) = some n := by
  have hle : n ≤ maxUlong := by
    unfold maxUlong
    omega
  rw [fmtPt, strtoul3_utoa hle]
  exact congrArg some (Nat.mod_eq_of_lt h)

lemma toPt_utoa (h : n < 2 ^ 32) : toPt (utoa n) = n := by
  have hn : SdpOffer.numeric (utoa n) = true := by
    simpa [SdpOffer.numeric] using utoa_numeric n []
  have := SdpOffer.fmtPt_eq_of_numeric hn (by simp [fmtPt_utoa h])
  rw [fmtPt_utoa h] at this
  exact (Option.some.inj this).symm

lemma toPt_utoa_append (h : n < 2 ^ 32) (ht : EndsNumber t) : toPt (utoa n ++ t) = n := by
  rw [toPt, ← strtoul_takeWhile, (takeWhile_utoa n ht).1]
  exact toPt_utoa h

lemma valuePt_utoa_append (h : n < 2 ^ 32) (ht : EndsNumber t) : valuePt (utoa n ++ t) = some n := by
  rw [valuePt, if_pos (utoa_numeric n t)]
  exact congrArg some (toPt_utoa_append h ht)

lemma lt_of_isDynamicPt {p : ℕ} (h : isDynamicPt p = true) : p < 2 ^ 32 := by
  have := isDynamicPt_iff.1 h
  omega

lemma length_utoa {p : ℕ} (h : isDynamicPt p = true) : (utoa p).length = if p ≥ 100 then 3 else 2 := by
  have hall : ∀ p ∈ List.range' 96 32, (utoa p).length = if p ≥ 100 then 3 else 2 := by
    decide +kernel
  refine hall p ?_
  have := isDynamicPt_iff.1 h
  rw [List.mem_range'_1]
  omega

def Spells (pt : ℕ) (value : Bytes) : Prop :=
  value.take (utoa pt).length = utoa pt ∧ EndsNumber (value.drop (utoa pt).length)

instance (pt : ℕ) (value : Bytes) : Decidable (Spells pt value) :=
  inferInstanceAs (Decidable (_ ∧ _))

lemma Spells.eq {pt : ℕ} {value : Bytes} (h : Spells pt value) :
    value = utoa pt ++ value.drop (utoa pt).length := by
  conv_lhs => rw [← List.take_append_drop (utoa pt).length value, h.1]

lemma rewritePt2_eq {pt : ℕ} (hpt : isDynamicPt pt = true) (value : Bytes) (newPt : ℕ) :
    rewritePt2 value pt newPt = utoa newPt ++ value.drop (utoa pt).length := by
  rw [rewritePt2, length_utoa hpt]

lemma csToken_of_isDigit {c : UInt8} (h : isDigit c = true) : csToken c = true := by
  simp [csToken, h]

lemma csToken_utoa (n : ℕ) : ∀ c ∈ utoa n, csToken c = true := fun c hc =>
  csToken_of_isDigit (utoa_digits n c hc)

lemma getRtpmap_utoa (n : ℕ) (t : Bytes) :
    getRtpmap (utoa n ++ t) =
      match scanEncoding.run ⟨settle .ws (t.dropWhile csToken), .ws⟩ with
      | .ok (e, _) => some ⟨utoa n ++ t.takeWhile csToken, e.1, e.2.1, e.2.2⟩
      | .error _ => none := by
  have hinit : init (utoa n ++ t) .ws = ⟨utoa n ++ t, .ws⟩ := by
    cases hu : utoa n with
    | nil => exact absurd hu (utoa_ne_nil n)
    | cons c s =>
      have hc : isSpace c = false :=
        SdpOffer.isSpace_of_csToken (csToken_utoa n c (by simp [hu]))
      simp [init, skipWhitespace, hc]
  have hget : (Scanner.get csToken).run ⟨utoa n ++ t, .ws⟩ =
      .ok (utoa n ++ t.takeWhile csToken, ⟨settle .ws (t.dropWhile csToken), .ws⟩) := by
    have hne : utoa n ++ t.takeWhile csToken ≠ [] := by simp [utoa_ne_nil]
    show Scanner.get csToken _ = _
    simp only [Scanner.get, List.takeWhile_append_of_pos (csToken_utoa n),
      List.dropWhile_append_of_pos (csToken_utoa n), if_neg hne]
  have hrun : scanRtpmap.run ⟨utoa n ++ t, .ws⟩ =
      (scanEncoding.run ⟨settle .ws (t.dropWhile csToken), .ws⟩).map
        fun e => (⟨utoa n ++ t.takeWhile csToken, e.1.1, e.1.2.1, e.1.2.2⟩, e.2) := by
    simp only [scanRtpmap, StateT.run_bind, hget]
    rfl
  unfold getRtpmap
  rw [hinit, hrun]
  cases scanEncoding.run ⟨settle .ws (t.dropWhile csToken), .ws⟩ <;> rfl

lemma endsNumber_takeWhile (h : EndsNumber t) : EndsNumber (t.takeWhile csToken) := by
  cases t with
  | nil => exact h
  | cons c t =>
    intro d hd
    by_cases hc : csToken c = true
    · simp only [List.takeWhile_cons, hc, if_true, List.head?_cons, Option.mem_def,
        Option.some.injEq] at hd
      exact hd ▸ h c rfl
    · simp [hc] at hd

lemma getRtpmap_rename {p q : ℕ} (hq : isDynamicPt q = true) {t : Bytes} (ht : EndsNumber t)
    {r : Rtpmap} (h : getRtpmap (utoa p ++ t) = some r) :
    ∃ r', getRtpmap (utoa q ++ t) = some r' ∧ toPt r'.pt = q ∧ r'.encName = r.encName ∧
      r'.clockRate = r.clockRate ∧ r'.param = r.param := by
  rw [getRtpmap_utoa] at h ⊢
  split at h
  · obtain rfl := Option.some.inj h
    exact ⟨_, rfl, toPt_utoa_append (lt_of_isDynamicPt hq) (endsNumber_takeWhile ht), rfl, rfl, rfl⟩
  · cases h

lemma getFmtp_utoa (n : ℕ) (param : Bytes) : getFmtp (utoa n ++ 32 :: param) = some (utoa n, param) := by
  have ht : EndsNumber (32 :: param) := by
    intro c hc
    obtain rfl : 32 = c := by simpa using hc
    decide
  simp only [getFmtp, (takeWhile_utoa n ht).1, (takeWhile_utoa n ht).2]
  simp [utoa_ne_nil]

lemma redBody_cons_cons (x y : ℕ) (l : List ℕ) :
    redBody (x :: y :: l) = utoa x ++ 47 :: redBody (y :: l) := by
  simp [redBody, List.intercalate]

lemma fmtpValue_utoa (n : ℕ) : SdpOffer.fmtpValue (utoa n) = utoa n := by
  have hdrop : (utoa n).dropWhile (· ≠ 61) = [] := by
    refine List.dropWhile_eq_nil_iff.2 fun c hc => ?_
    have hd := utoa_digits n c hc
    by_contra hne
    obtain rfl : c = 61 := by simpa using hne
    revert hd
    decide
  rw [SdpOffer.fmtpValue, hdrop]

lemma parseFmtpData_utoa {k cnt : ℕ} (hcnt : cnt < SdpOffer.maxFmtpCnt) (ht : ∀ c ∈ t.head?, c = 47) :
    SdpOffer.parseFmtpData (k + 1) cnt (utoa n ++ t) =
      utoa n :: SdpOffer.parseFmtpData k (cnt + 1) (t.drop 1) := by
  have hstop : ∀ c, isDigit c = true → (c ≠ 59 && c ≠ 47) = true := by
    intro c hc
    by_contra hne
    rcases (by simpa [-not_and, not_and_or] using hne : c = 59 ∨ c = 47) with rfl | rfl <;>
      revert hc <;> decide
  have hspace : ∀ c, isDigit c = true →
      (c = 32 || c = 9 || c = 13 || c = 10 : Bool) = false := by
    intro c hc
    by_contra hne
    simp only [Bool.not_eq_false, Bool.or_eq_true, decide_eq_true_eq] at hne
    rcases hne with ((rfl | rfl) | rfl) | rfl <;> revert hc <;> decide
  have hskip : (utoa n ++ t).dropWhile isSpace = utoa n ++ t := by
    cases hu : utoa n with
    | nil => exact absurd hu (utoa_ne_nil n)
    | cons c s =>
      have hc : isSpace c = false :=
        SdpOffer.isSpace_of_csToken (csToken_utoa n c (by simp [hu]))
      simp [hc]
  have hraw : (utoa n ++ t).takeWhile (fun c => c ≠ 59 && c ≠ 47) = utoa n := by
    rw [List.takeWhile_append_of_pos fun c hc => hstop c (utoa_digits n c hc)]
    cases t with
    | nil => simp
    | cons c t =>
      obtain rfl := ht c rfl
      simp
  have htrim : ((utoa n).reverse.dropWhile
      fun c => c = 32 || c = 9 || c = 13 || c = 10).reverse = utoa n := by
    have hkeep : (utoa n).reverse.dropWhile (fun c => c = 32 || c = 9 || c = 13 || c = 10) =
        (utoa n).reverse := by
      cases hu : (utoa n).reverse with
      | nil => rfl
      | cons c s =>
        have hc : c ∈ utoa n := by
          rw [← List.mem_reverse, hu]
          simp
        rw [List.dropWhile_cons, hspace c (utoa_digits n c hc)]
        rfl
    rw [hkeep, List.reverse_reverse]
  have hrest : (utoa n ++ t).drop ((utoa n).length + 1) = t.drop 1 := by
    rw [List.drop_append]
    simp
  have hgo : ¬ (utoa n ++ t = [] ∨ cnt ≥ SdpOffer.maxFmtpCnt) := by
    simp [utoa_ne_nil, hcnt]
  rw [SdpOffer.parseFmtpData, if_neg hgo]
  simp only [hskip, hraw, htrim, hrest, if_neg (utoa_ne_nil n), fmtpValue_utoa]

lemma parseFmtpData_nil (k cnt : ℕ) : SdpOffer.parseFmtpData k cnt [] = [] := by
  cases k <;> simp [SdpOffer.parseFmtpData]

lemma parseFmtpData_redBody {l : List ℕ} {k cnt : ℕ} (hk : l.length ≤ k)
    (hcnt : cnt + l.length ≤ SdpOffer.maxFmtpCnt) :
    SdpOffer.parseFmtpData k cnt (redBody l) = l.map utoa := by
  induction l generalizing k cnt with
  | nil => exact parseFmtpData_nil k cnt
  | cons x l ih =>
    cases k with
    | zero => simp at hk
    | succ k =>
      simp only [List.length_cons] at hk hcnt
      cases l with
      | nil =>
        have hbody : redBody [x] = utoa x ++ [] := by simp [redBody, List.intercalate]
        rw [hbody, parseFmtpData_utoa (by omega) (by simp)]
        simp [parseFmtpData_nil]
      | cons y l =>
        rw [redBody_cons_cons, parseFmtpData_utoa (by omega) (by simp)]
        rw [List.drop_one, List.tail_cons, ih (by omega) (by omega)]
        rfl

lemma length_parseFmtpData {k cnt : ℕ} {s : Bytes} (h : cnt ≤ SdpOffer.maxFmtpCnt) :
    cnt + (SdpOffer.parseFmtpData k cnt s).length ≤ SdpOffer.maxFmtpCnt := by
  induction k generalizing cnt s with
  | zero => simpa [SdpOffer.parseFmtpData] using h
  | succ k ih =>
    unfold SdpOffer.parseFmtpData
    split_ifs with hstop
    · simpa using h
    · dsimp only
      split_ifs
      · exact ih h
      · rw [not_or] at hstop
        simp only [List.length_cons]
        rw [Nat.add_comm _ 1, ← Nat.add_assoc]
        exact ih (by omega)

lemma length_le_redBody (l : List ℕ) : l.length ≤ (redBody l).length := by
  induction l with
  | nil => simp
  | cons x l ih =>
    have hpos : 0 < (utoa x).length := List.length_pos_iff.2 (utoa_ne_nil x)
    cases l with
    | nil => simpa [redBody, List.intercalate] using Nat.succ_le_of_lt hpos
    | cons y l =>
      rw [redBody_cons_cons]
      simp only [List.length_append, List.length_cons] at ih ⊢
      omega

lemma toPt_lt (s : Bytes) : toPt s < 2 ^ 32 := Nat.mod_lt _ (by decide)

lemma redRefs_redBody {l : List ℕ} (hlen : l.length ≤ SdpOffer.maxFmtpCnt)
    (hlt : ∀ x ∈ l, x < 2 ^ 32) : redRefs (redBody l) = l := by
  rw [redRefs, parseFmtpData_redBody (length_le_redBody l) (by omega), List.map_map]
  conv_rhs => rw [← List.map_id l]
  exact List.map_congr_left fun x hx => toPt_utoa (hlt x hx)

end PjProject.SdpNeg
