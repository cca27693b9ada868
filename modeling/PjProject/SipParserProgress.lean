import PjProject.SipParser

/-!
# Progress of the scanner

No operation of the scanner goes back, and those that return a text or a character read at
least one byte. Parsers that are composed of them come to an end.
-/
namespace PjProject.SipParser

open Scanner FindMsg PjProject.Parser

lemma eat_le (c : UInt8) (r : Bytes) : (eat c r).length ≤ r.length := by
  cases r with
  | nil => exact le_refl _
  | cons a r =>
    simp only [eat]
    split
    · exact Nat.le_succ _
    · exact le_refl _

lemma skipWhitespace_le (opt : SkipWs) (r : Bytes) : (skipWhitespace opt r).length ≤ r.length := by
  have hdrop : ∀ (p : UInt8 → Bool) (l : Bytes), (l.dropWhile p).length ≤ l.length :=
    fun p l => (List.dropWhile_suffix p).length_le
  unfold skipWhitespace
  dsimp only
  split
  · split
    · calc _ ≤ (eat 10 (eat 13 (r.dropWhile isSpace))).length := hdrop _ _
        _ ≤ (eat 13 (r.dropWhile isSpace)).length := eat_le _ _
        _ ≤ (r.dropWhile isSpace).length := eat_le _ _
        _ ≤ r.length := hdrop _ _
    · exact hdrop _ _
  · exact hdrop _ _

lemma settle_le (opt : SkipWs) (r : Bytes) : (settle opt r).length ≤ r.length := by
  unfold settle
  split
  · exact skipWhitespace_le opt r
  · exact le_refl _

section Operations

variable {α : Type} {m : Scan α}

lemma Safe.scan (h : ∀ s a s', m s = .ok (a, s') → left s' ≤ left s) : Safe left (scan m) := by
  constructor
  · intro s
    simp only [SipParser.scan]
    split <;> nofun
  · intro s
    simp only [SipParser.scan]
    split
    · rename_i a s' heq
      exact h s a s' heq
    · exact le_refl _

lemma Strict.scan (h : ∀ s a s', m s = .ok (a, s') → left s' < left s) : Strict left (scan m) := by
  refine ⟨Safe.scan fun s a s' heq => (h s a s' heq).le, fun s a ha => ?_⟩
  simp only [SipParser.scan] at ha ⊢
  split at ha
  · rename_i b s' heq
    exact h s b s' heq
  · cases ha

lemma scan_ok {s s' : State} {a : α} (h : m s = .ok (a, s')) : (scan m).run s = (.ok a, s') := by
  simp only [scan, h]

lemma scan_error {s : State} {e : Exc} (h : m s = .error e) : (scan m).run s = (.throw e, s) := by
  simp only [scan, h]

lemma Strict.get (spec : UInt8 → Bool) : Strict left (SipParser.scan (get spec)) := by
  refine Strict.scan fun s a s' h => ?_
  simp only [Scanner.get] at h
  split at h
  · cases h
  · rename_i hne
    obtain ⟨rfl, rfl⟩ := Prod.mk.inj (Except.ok.inj h)
    have hpos := List.length_pos_of_ne_nil hne
    have hlen : (s.rest.takeWhile spec).length + (s.rest.dropWhile spec).length = s.rest.length := by
      rw [← List.length_append, List.takeWhile_append_dropWhile]
    have hset := settle_le s.skipWs (s.rest.dropWhile spec)
    show (settle s.skipWs (s.rest.dropWhile spec)).length < s.rest.length
    omega

lemma Strict.getChar : Strict left (SipParser.scan getChar) := by
  refine Strict.scan fun s a s' h => ?_
  simp only [Scanner.getChar] at h
  split at h
  · cases h
  · rename_i c r hr
    split at h
    · cases h
    · obtain ⟨rfl, rfl⟩ := Prod.mk.inj (Except.ok.inj h)
      have hset := settle_le s.skipWs r
      show (settle s.skipWs r).length < s.rest.length
      rw [hr, List.length_cons]
      omega

lemma Strict.getNewline : Strict left (SipParser.scan getNewline) := by
  refine Strict.scan fun s a s' h => ?_
  simp only [Scanner.getNewline] at h
  split at h
  · rename_i hnl
    obtain ⟨rfl, rfl⟩ := Prod.mk.inj (Except.ok.inj h)
    show (eat 10 (eat 13 s.rest)).length < s.rest.length
    cases hr : s.rest with
    | nil => simp [hr] at hnl
    | cons c r =>
      simp only [hr, List.head?_cons, Option.any_some, isNewline, Bool.or_eq_true,
        decide_eq_true_eq] at hnl
      rcases hnl with rfl | rfl
      · simpa [eat] using eat_le 10 r
      · simp [eat]
  · cases h

lemma closeQuote_length {q : UInt8} {e : Bool} {r text r' : Bytes}
    (h : closeQuote q e r = some (text, r')) : r'.length < r.length := by
  induction r generalizing e text with
  | nil => cases h
  | cons c r ih =>
    simp only [closeQuote] at h
    split at h
    · obtain ⟨-, rfl⟩ := Prod.mk.inj (Option.some.inj h)
      exact Nat.lt_succ_self _
    · split at h
      · cases h
      · obtain ⟨x, hx, hxe⟩ := Option.map_eq_some_iff.mp h
        obtain ⟨-, rfl⟩ := Prod.mk.inj hxe
        exact (ih hx).trans (Nat.lt_succ_self _)

lemma Strict.getQuote (b e : UInt8) : Strict left (SipParser.scan (getQuote b e)) := by
  refine Strict.scan fun s a s' h => ?_
  simp only [Scanner.getQuote] at h
  split at h
  · cases h
  · rename_i c r hr
    split at h
    · cases h
    · split at h
      · cases h
      · rename_i text r' hq
        obtain ⟨rfl, rfl⟩ := Prod.mk.inj (Except.ok.inj h)
        have hlen := closeQuote_length hq
        have hset := settle_le s.skipWs r'
        show (settle s.skipWs r').length < s.rest.length
        rw [hr, List.length_cons]
        omega

lemma Safe.getUntil (stop : UInt8 → Bool) : Safe left (SipParser.scan (getUntil stop)) := by
  refine Safe.scan fun s a s' h => ?_
  simp only [Scanner.getUntil] at h
  split at h
  · cases h
  · obtain ⟨rfl, rfl⟩ := Prod.mk.inj (Except.ok.inj h)
    have hset := settle_le s.skipWs (s.rest.dropWhile (!stop ·))
    exact hset.trans (List.dropWhile_suffix _).length_le

lemma Safe.peek (spec : UInt8 → Bool) : Safe left (SipParser.scan (peek spec)) := by
  refine Safe.scan fun s a s' h => ?_
  simp only [Scanner.peek] at h
  split at h
  · cases h
  · obtain ⟨-, rfl⟩ := Prod.mk.inj (Except.ok.inj h)
    exact le_refl _

lemma Safe.getN (n : ℕ) : Safe left (SipParser.scan (getN n)) := by
  refine Safe.scan fun s a s' h => ?_
  simp only [Scanner.getN] at h
  split at h
  · cases h
  · obtain ⟨rfl, rfl⟩ := Prod.mk.inj (Except.ok.inj h)
    exact (settle_le s.skipWs (s.rest.drop n)).trans (List.drop_suffix n s.rest).length_le

lemma Safe.strtoiValidate (str : Bytes) (lo hi : ℕ) :
    Safe left (SipParser.scan (strtoiValidate str lo hi)) := by
  refine Safe.scan fun s a s' h => ?_
  unfold FindMsg.strtoiValidate at h
  cases hv : strtol2 str with
  | error e =>
    simp only [hv] at h
    cases h
  | ok v =>
    simp only [hv] at h
    split at h
    · cases h
    · obtain ⟨-, rfl⟩ := Prod.mk.inj (Except.ok.inj h)
      exact le_refl _

end Operations

lemma get_token {spec : UInt8 → Bool} {token s : Bytes} (opt : SkipWs) (hne : token ≠ [])
    (htoken : ∀ c ∈ token, spec c = true) (hs : ∀ c ∈ s.head?, spec c = false) :
    (scan (get spec)).run ⟨token ++ s, opt⟩ = (.ok token, ⟨settle opt s, opt⟩) := by
  have hstop : s.takeWhile spec = [] ∧ s.dropWhile spec = s := by
    cases s with
    | nil => exact ⟨rfl, rfl⟩
    | cons c s => simp [hs c rfl]
  apply scan_ok
  simp [Scanner.get, List.takeWhile_append_of_pos htoken, List.dropWhile_append_of_pos htoken, hstop, hne]

lemma getChar_cons {c : UInt8} {opt : SkipWs} {s : Bytes} (hc : c ≠ 0) :
    (scan getChar).run ⟨c :: s, opt⟩ = (.ok c, ⟨settle opt s, opt⟩) := by
  apply scan_ok
  simp [getChar, hc]

lemma Strict.parseParamImp (spec : UInt8 → Bool) (unescape : Bytes → Bytes) :
    Strict left (parseParamImp spec unescape) := by
  refine (Strict.get spec).bind fun pname => (Safe.look _).bind fun c => ?_
  refine Safe.ite ?_ (Safe.pure _)
  refine Strict.getChar.toSafe.bind fun _ => (Safe.look _).bind fun s => ?_
  refine Safe.ite (Safe.pure _) (Safe.ite ?_ (Safe.ite ?_ (Safe.pure _)))
  · exact (Strict.getQuote 34 34).toSafe.bind fun _ => Safe.pure _
  · exact (Strict.get spec).toSafe.bind fun _ => Safe.pure _

lemma Strict.intParseParam : Strict left intParseParam :=
  Strict.getChar.bind fun _ => (Strict.parseParamImp _ _).toSafe

lemma Safe.parseHdrEnd : Safe left parseHdrEnd := by
  refine (Safe.look _).bind fun s => Safe.ite (Safe.pure _) (Safe.ite ?_ ?_)
  · exact Strict.getChar.toSafe.bind fun _ => Safe.pure _
  · exact Strict.getNewline.toSafe

end PjProject.SipParser
