import PjProject.BoundedRead
import PjProject.ScanCursor

/-!
# The cursor stays in the buffer

Every operation ends with the cursor between where it was and the end of the buffer,
and gives a token that lies in the buffer; an operation that takes something moves the
cursor on.
-/
namespace PjProject.ScanCursor
open Transition

open PjProject.Scanner (isSpace isNewline isProbablySpace)
open BoundedRead

namespace Scanner

variable {sc sc' : Scanner} {p : UInt8 → Bool} {s t n dst src : ℕ}

def byte (sc : Scanner) (s : ℕ) : UInt8 := sc.text.getD (s - sc.begin) 0

lemma byteAt_eq (h1 : sc.begin ≤ s) (h2 : s ≤ sc.fin) : sc.byteAt s = .ok (sc.byte s) := if_pos ⟨h1, h2⟩

lemma byte_fin : sc.byte sc.fin = 0 := by
  rw [byte, fin, Nat.add_sub_cancel_left, List.getD_eq_getElem?_getD, List.getElem?_eq_none le_rfl, Option.getD_none]

structure Same (sc sc' : Scanner) : Prop where
  begin_eq : sc'.begin = sc.begin
  length_eq : sc'.text.length = sc.text.length

lemma Same.refl (sc : Scanner) : Same sc sc := ⟨rfl, rfl⟩

lemma Same.trans {sc'' : Scanner} (h : Same sc sc') (h' : Same sc' sc'') : Same sc sc'' :=
  ⟨h'.begin_eq.trans h.begin_eq, h'.length_eq.trans h.length_eq⟩

lemma Same.fin_eq (h : Same sc sc') : sc'.fin = sc.fin := by
  rw [fin, fin, h.begin_eq, h.length_eq]

structure Sound (sc : Scanner) : Prop where
  begin_le : sc.begin ≤ sc.curptr
  le_fin : sc.curptr ≤ sc.fin

structure Moves (sc sc' : Scanner) : Prop where
  same : Same sc sc'
  ge : sc.curptr ≤ sc'.curptr
  le_fin : sc'.curptr ≤ sc.fin

lemma Moves.sound (h : Moves sc sc') (hs : Sound sc) : Sound sc' := by
  refine ⟨?_, ?_⟩
  · rw [h.same.begin_eq]
    exact hs.begin_le.trans h.ge
  · rw [h.same.fin_eq]
    exact h.le_fin

lemma Moves.refl (hs : Sound sc) : Moves sc sc := ⟨.refl sc, le_rfl, hs.le_fin⟩

lemma whileLoop_ends (h1 : sc.begin ≤ s) (h2 : s ≤ sc.fin) (hn : sc.fin - s < n) :
    Ends (sc.whileLoop p n s) fun t => s ≤ t ∧ t ≤ sc.fin ∧ (s < sc.fin → p (sc.byte s) = true → s < t) := by
  induction n generalizing s with
  | zero => omega
  | succ n ih =>
    rw [whileLoop]
    by_cases hend : s = sc.fin
    · rw [if_pos hend]
      exact .ok ⟨le_rfl, h2, fun hlt => by omega⟩
    · rw [if_neg hend, byteAt_eq h1 h2]
      change Ends (if p (sc.byte s) = true then _ else _) _
      split_ifs with hp
      · refine (ih (by omega) (by omega) (by omega)).mono fun t ht => ⟨by omega, ht.2.1, fun _ _ => by omega⟩
      · exact .ok ⟨le_rfl, h2, fun _ hc => absurd hc hp⟩

lemma skipWhile_ends (h1 : sc.begin ≤ s) (h2 : s ≤ sc.fin) :
    Ends (sc.skipWhile p s) fun t => s ≤ t ∧ t ≤ sc.fin ∧ (s < sc.fin → p (sc.byte s) = true → s < t) :=
  whileLoop_ends h1 h2 (by omega)

lemma holdsAt_ends (h1 : sc.begin ≤ s) (h2 : s ≤ sc.fin) :
    Ends (sc.holdsAt p s) fun b => b = true → s < sc.fin ∧ p (sc.byte s) = true := by
  unfold holdsAt
  split_ifs with hend
  · exact .ok fun hc => by cases hc
  · rw [byteAt_eq h1 h2]
    exact .ok fun hp => ⟨by omega, hp⟩

lemma newLine_same (sc : Scanner) (s : ℕ) : Same sc (sc.newLine s) := ⟨rfl, rfl⟩

lemma newlineLoop_ends (h1 : sc.begin ≤ s) (h2 : s ≤ sc.fin) (hn : sc.fin - s < n) (hc : sc.curptr ≤ s) :
    Ends (newlineLoop n sc s) fun r =>
      Same sc r.1 ∧ s ≤ r.2 ∧ r.2 ≤ sc.fin ∧ sc.curptr ≤ r.1.curptr ∧ r.1.curptr ≤ r.2 := by
  induction n generalizing sc s with
  | zero => omega
  | succ n ih =>
    -- a newline moves the scanner itself, and the rest of the loop starts from there
    have hline : ∀ k, s < k → k ≤ sc.fin → Ends (newlineLoop n (sc.newLine k) k) fun r =>
        Same sc r.1 ∧ s ≤ r.2 ∧ r.2 ≤ sc.fin ∧ sc.curptr ≤ r.1.curptr ∧ r.1.curptr ≤ r.2 := fun k hk hfin => by
      have hsame := newLine_same sc k
      have hih := @ih (sc.newLine k) k (show sc.begin ≤ k by omega) hfin
        (show sc.fin - k < n by omega) le_rfl
      refine hih.mono fun r hr => ⟨hsame.trans hr.1, by omega, hr.2.2.1, ?_, hr.2.2.2.2⟩
      have hge : k ≤ r.1.curptr := hr.2.2.2.1
      omega
    rw [newlineLoop]
    by_cases hend : s = sc.fin
    · rw [if_pos hend]
      exact .ok ⟨.refl sc, le_rfl, h2, le_rfl, hc⟩
    · rw [if_neg hend, byteAt_eq h1 h2]
      change Ends (if sc.byte s = 13 then _ else _) _
      split_ifs with hcr hlast hlf hspace
      · exact .ok ⟨.refl sc, by simp only; omega, by simp only; omega, le_rfl, by simp only; omega⟩
      · rw [byteAt_eq (by omega) (by omega)]
        change Ends (newlineLoop n (sc.newLine (if sc.byte (s + 1) = 10 then s + 2 else s + 1))
          (if sc.byte (s + 1) = 10 then s + 2 else s + 1)) _
        exact hline _ (by split_ifs <;> omega) (by split_ifs <;> omega)
      · exact hline (s + 1) (by omega) (by omega)
      · refine (skipWhile_ends (by omega) (by omega)).bind fun t ht => ?_
        have hih := @ih sc t (by omega) ht.2.1 (by omega) (by omega)
        exact hih.mono fun r hr => ⟨hr.1, by omega, hr.2.2⟩
      · exact .ok ⟨.refl sc, le_rfl, h2, le_rfl, hc⟩

lemma foldHeader_ends (h1 : sc.begin ≤ s) (h2 : s < sc.fin) (hc : sc.curptr ≤ s) :
    Ends (sc.foldHeader s) (Moves sc) := by
  rw [foldHeader, byteAt_eq h1 h2.le]
  change Ends (sc.holdsAt (· = 10) (if sc.byte s = 13 then s + 1 else s) >>= _) _
  have ht : ∀ k, k = (if sc.byte s = 13 then s + 1 else s) → s ≤ k ∧ k ≤ sc.fin := fun k hk => by
    split_ifs at hk <;> omega
  generalize (if sc.byte s = 13 then s + 1 else s) = k at ht
  have hk := ht k rfl
  refine (holdsAt_ends (by omega) hk.2).bind fun feed hfeed => ?_
  have hu : ∀ u, u = (if feed = true then k + 1 else k) → s ≤ u ∧ u ≤ sc.fin := fun u hu => by
    split_ifs at hu with hf
    · have := (hfeed hf).1
      omega
    · omega
  change Ends (Scanner.holdsAt { sc with curptr := s, startLine := if feed = true then k + 1 else k } isSpace
    (if feed = true then k + 1 else k) >>= _) _
  generalize (if feed = true then k + 1 else k) = u at hu
  have hu := hu u rfl
  refine (@holdsAt_ends { sc with curptr := s, startLine := u } _ _ (show sc.begin ≤ u by omega)
    hu.2).bind fun space hspace => ?_
  split_ifs with hsp
  · have hlt : u < sc.fin := (hspace hsp).1
    refine (@skipWhile_ends { sc with curptr := s, startLine := u } _ _ (show sc.begin ≤ u + 1 by omega)
      (show u + 1 ≤ sc.fin by omega)).bind fun v hv => ?_
    have hv2 : v ≤ sc.fin := hv.2.1
    exact .ok ⟨⟨rfl, rfl⟩, by simp only; omega, hv2⟩
  · exact .ok ⟨⟨rfl, rfl⟩, hc, h2.le⟩

lemma Moves.of_same (h : Same sc sc') (hc : sc.curptr ≤ sc'.curptr) {r : Scanner} (hr : Moves sc' r) :
    Moves sc r :=
  ⟨h.trans hr.same, hc.trans hr.ge, hr.le_fin.trans h.fin_eq.le⟩

lemma skipNewlines_ends (h1 : sc.begin ≤ s) (h2 : s ≤ sc.fin) (hc : sc.curptr ≤ s) (newline : Bool) :
    Ends (sc.skipNewlines s newline) fun r =>
      Same sc r.1 ∧ s ≤ r.2 ∧ r.2 ≤ sc.fin ∧ sc.curptr ≤ r.1.curptr ∧ r.1.curptr ≤ r.2 := by
  unfold skipNewlines
  split_ifs
  · exact newlineLoop_ends h1 h2 (by omega) hc
  · exact .ok ⟨.refl sc, le_rfl, h2, le_rfl, hc⟩

lemma skipWhitespace_ends (hs : Sound sc) : Ends sc.skipWhitespace (Moves sc) := by
  obtain ⟨hbegin, hfin⟩ := hs
  rw [skipWhitespace]
  refine (skipWhile_ends hbegin hfin).bind fun s hrun => ?_
  refine (holdsAt_ends (by omega) hrun.2.1).bind fun newline _ => ?_
  refine (skipNewlines_ends (by omega) hrun.2.1 hrun.1 newline).bind fun ⟨sc', t⟩ ⟨hsame, hst, htfin, hge, hle⟩ => ?_
  simp only at hsame hst htfin hge hle
  have hfin' := hsame.fin_eq
  have hbegin' := hsame.begin_eq
  refine (holdsAt_ends (by omega) (by omega)).bind fun feed hfeed => ?_
  split_ifs with hfold
  · exact (foldHeader_ends (by omega) (hfeed hfold.1).1 hle).mono fun r hr => hr.of_same hsame hge
  · exact .ok ⟨⟨hsame.begin_eq, hsame.length_eq⟩, by simp only; omega, htfin⟩

lemma skipIf_ends (skip : Bool) (hs : Sound sc) : Ends (sc.skipIf skip) (Moves sc) := by
  unfold skipIf
  split_ifs
  · exact skipWhitespace_ends hs
  · exact .ok (.refl hs)

lemma settle_ends (skip : Bool) (hs : Sound sc) : Ends (sc.settle skip) (Moves sc) := by
  unfold settle
  split_ifs with heof
  · exact .ok (.refl hs)
  · rw [byteAt_eq hs.begin_le hs.le_fin]
    exact skipIf_ends _ hs

lemma settle_at (skip : Bool) (hs : Sound sc) (h1 : sc.curptr ≤ s) (h2 : s ≤ sc.fin) :
    Ends (settle { sc with curptr := s } skip) fun r => Moves sc r ∧ s ≤ r.curptr := by
  have hsound : Sound { sc with curptr := s } := ⟨hs.begin_le.trans h1, h2⟩
  exact (settle_ends skip hsound).mono fun r hr =>
    ⟨.of_same (show Same sc { sc with curptr := s } from ⟨rfl, rfl⟩) h1 hr, hr.ge⟩

lemma init_ends (bufstart : ℕ) (buf : Bytes) (options : UInt32) :
    Ends (init bufstart buf options) fun sc => sc.begin = bufstart ∧ sc.fin = bufstart + buf.length ∧ Sound sc := by
  have hs : Sound ⟨bufstart, buf, bufstart, 1, bufstart, options⟩ := ⟨le_rfl, Nat.le_add_right _ _⟩
  simp only [init]
  split_ifs
  · exact (skipWhitespace_ends hs).mono fun sc h => ⟨h.same.begin_eq, h.same.fin_eq, h.sound hs⟩
  · exact .ok ⟨rfl, rfl, hs⟩

end Scanner

open PjProject.ScanCursor.Scanner

def Token.Inside (sc : Scanner) (tok : Token) : Prop := sc.begin ≤ tok.ptr ∧ tok.ptr + tok.slen ≤ sc.fin

def Op.Takes (sc : Scanner) : Op → Prop
  | .get _ | .getUnescape _ | .getQuotes _ | .getChar | .getNewline => True
  | .getN n | .advanceN n _ => 0 < n
  | .getUntil stop => stop (sc.byte sc.curptr) = false
  | .skipWhitespace | .skipLine | .peek _ | .peekN _ | .strcmp _ => False

structure Keeps (sc : Scanner) (takes : Prop) (r : Scanner × Ending) : Prop where
  moves : Moves sc r.1
  token : ∀ tok, r.2 = .returned (some tok) → tok.Inside sc
  failed : r.2 = .syntaxErr → r.1 = sc
  advances : r.2 ≠ .syntaxErr → takes → sc.curptr < r.1.curptr

section Operations

variable {sc : Scanner} {takes : Prop} {s : ℕ}

lemma Keeps.error (hs : Sound sc) : Keeps sc takes (sc, .syntaxErr) :=
  ⟨.refl hs, fun _ h => (by cases h), fun _ => rfl, fun h => absurd rfl h⟩

lemma Keeps.plain {r : Scanner} (hr : Moves sc r) (h : takes → sc.curptr < r.curptr) :
    Keeps sc takes (r, .returned none) :=
  ⟨hr, fun _ h => (by cases h), fun h => (by cases h), fun _ => h⟩

lemma take_keeps (hs : Sound sc) (h1 : sc.curptr ≤ s) (h2 : s ≤ sc.fin) (h : takes → sc.curptr < s) :
    Ends (sc.take s) (Keeps sc takes) := by
  refine (settle_at _ hs h1 h2).bind fun r ⟨hr, hge⟩ => ?_
  refine .ok ⟨hr, fun tok htok => ?_, fun h => (by cases h), fun _ ht => (h ht).trans_le hge⟩
  cases htok
  exact ⟨hs.begin_le, by simp only; omega⟩

lemma skipLine_keeps (hs : Sound sc) : Ends sc.skipLine (Keeps sc False) := by
  unfold skipLine
  split_ifs with heof
  · exact .ok (.plain (.refl hs) False.elim)
  · refine (skipWhile_ends hs.begin_le hs.le_fin).bind fun s hrun => ?_
    split_ifs with hend
    · exact .ok (.plain ⟨⟨rfl, rfl⟩, hs.le_fin, le_rfl⟩ False.elim)
    · refine .ok (.plain ⟨newLine_same sc _, ?_, ?_⟩ False.elim)
      · change sc.curptr ≤ s + 1
        omega
      · change s + 1 ≤ sc.fin
        omega

lemma peek_keeps (hs : Sound sc) (p : UInt8 → Bool) : Ends (sc.peek p) (Keeps sc False) := by
  unfold peek
  split_ifs with heof
  · exact .ok (.error hs)
  · refine (skipWhile_ends hs.begin_le hs.le_fin).bind fun s hrun => ?_
    have hbegin := hs.begin_le
    rw [byteAt_eq (by omega) hrun.2.1]
    refine .ok ⟨.refl hs, fun tok htok => ?_, fun _ => rfl, fun _ h => h.elim⟩
    cases htok
    exact ⟨hbegin, by simp only; omega⟩

lemma peekN_keeps (hs : Sound sc) (len : ℕ) : Ends (sc.peekN len) (Keeps sc False) := by
  unfold peekN
  split_ifs with hlong
  · exact .ok (.error hs)
  · have hbegin := hs.begin_le
    rw [byteAt_eq (by omega) (by omega)]
    refine .ok ⟨.refl hs, fun tok htok => ?_, fun _ => rfl, fun _ h => h.elim⟩
    cases htok
    exact ⟨hbegin, by simp only; omega⟩

lemma get_keeps (hs : Sound sc) (spec : Cis) : Ends (sc.get spec) (Keeps sc True) := by
  unfold Scanner.get
  split_ifs with heof
  · exact .ok (.error hs)
  · rw [byteAt_eq hs.begin_le hs.le_fin]
    change Ends (if (!spec.has (sc.byte sc.curptr)) = true then _ else _) _
    split_ifs
    · exact .ok (.error hs)
    · have hbegin := hs.begin_le
      refine (skipWhile_ends (by omega) (by omega)).bind fun s hrun => ?_
      exact take_keeps hs (by omega) hrun.2.1 fun _ => by omega

lemma getUntil_keeps (hs : Sound sc) (stop : UInt8 → Bool) :
    Ends (sc.getUntil stop) (Keeps sc (stop (sc.byte sc.curptr) = false)) := by
  unfold getUntil
  split_ifs with heof
  · exact .ok (.error hs)
  · refine (skipWhile_ends hs.begin_le hs.le_fin).bind fun s ⟨hge, hle, hmove⟩ => ?_
    refine take_keeps hs hge hle fun hstop => hmove (by omega) ?_
    simp only [hstop, Bool.not_false]

lemma getN_keeps (hs : Sound sc) (n : ℕ) : Ends (sc.getN n) (Keeps sc (0 < n)) := by
  unfold getN
  split_ifs with hlong
  · exact .ok (.error hs)
  · exact take_keeps hs (by omega) (by omega) fun _ => by omega

lemma advanceN_keeps (hs : Sound sc) (n : ℕ) (skip : Bool) :
    Ends (sc.advanceN n skip) (Keeps sc (0 < n)) := by
  unfold advanceN
  split_ifs with hlong
  · exact .ok (.error hs)
  · refine (settle_at skip hs (by omega) (by omega)).bind fun r ⟨hr, hge⟩ => ?_
    exact .ok (.plain hr fun _ => by omega)

lemma strcmp_keeps (hs : Sound sc) (len : ℤ) : Ends (sc.strcmp len) (Keeps sc False) := by
  unfold strcmp
  split_ifs
  · exact .ok (.error hs)
  · exact .ok (.plain (.refl hs) False.elim)

lemma getChar_keeps (hs : Sound sc) : Ends sc.getChar (Keeps sc True) := by
  unfold getChar
  split_ifs with heof
  · exact .ok (.error hs)
  · rw [byteAt_eq hs.begin_le hs.le_fin]
    change Ends (if sc.byte sc.curptr = 0 then _ else _) _
    split_ifs
    · exact .ok (.error hs)
    · have hbegin := hs.begin_le
      have hmoved : Sound { sc with curptr := sc.curptr + 1 } :=
        ⟨show sc.begin ≤ sc.curptr + 1 by omega, show sc.curptr + 1 ≤ sc.fin by omega⟩
      refine (holdsAt_ends (show sc.begin ≤ sc.curptr + 1 by omega) (show sc.curptr + 1 ≤ sc.fin by omega)).bind
        fun space _ => ?_
      refine (skipIf_ends (space && sc.skipWs ≠ 0) hmoved).bind fun r hr => ?_
      have hge : sc.curptr + 1 ≤ r.curptr := hr.ge
      have hsame : Same sc { sc with curptr := sc.curptr + 1 } := ⟨rfl, rfl⟩
      exact .ok (.plain (.of_same hsame (Nat.le_succ _) hr) fun _ => by omega)

lemma eatFeed_ends (h1 : sc.begin ≤ s) (h2 : s ≤ sc.fin) :
    Ends (sc.eatFeed s) fun t => s ≤ t ∧ t ≤ sc.fin ∧ (s < sc.fin → sc.byte s = 10 → s < t) := by
  unfold eatFeed
  split_ifs with heof
  · exact .ok ⟨le_rfl, h2, fun h => by omega⟩
  · rw [byteAt_eq h1 h2]
    refine .ok ?_
    split_ifs with hfeed
    · exact ⟨by omega, by omega, fun _ _ => by omega⟩
    · exact ⟨le_rfl, h2, fun _ h => absurd h hfeed⟩

lemma getNewline_keeps (hs : Sound sc) : Ends sc.getNewline (Keeps sc True) := by
  unfold getNewline
  split_ifs with heof
  · exact .ok (.error hs)
  · rw [byteAt_eq hs.begin_le hs.le_fin]
    change Ends (if (!isNewline (sc.byte sc.curptr)) = true then _ else _) _
    by_cases hother : (!isNewline (sc.byte sc.curptr)) = true
    · rw [if_pos hother]
      exact .ok (.error hs)
    · rw [if_neg hother]
      have hbegin := hs.begin_le
      have hnewline : sc.byte sc.curptr ≠ 13 → sc.byte sc.curptr = 10 := by
        simpa [isNewline] using hother
      refine (eatFeed_ends (s := if sc.byte sc.curptr = 13 then sc.curptr + 1 else sc.curptr)
        (by split_ifs <;> omega) (by split_ifs <;> omega)).bind fun s hfed => ?_
      obtain ⟨hge, hle, hfeed⟩ := hfed
      have hlt : sc.curptr < s := by
        split_ifs at hge hfeed with hcr
        · omega
        · exact hfeed (by omega) (hnewline hcr)
      exact .ok (.plain ⟨newLine_same sc s, hlt.le, hle⟩ fun _ => hlt)

lemma backslashes_ends (hbegin : sc.begin ≤ sc.curptr) : ∀ r, r ≤ sc.fin → Ends (sc.backslashes r) fun _ => True := by
  intro r
  induction r with
  | zero => exact fun _ => .ok trivial
  | succ r ih =>
    intro hr
    unfold backslashes
    split_ifs with hin
    · rw [byteAt_eq (by omega) (by omega)]
      change Ends (if sc.byte r = 92 then _ else _) _
      split_ifs
      · exact (ih (by omega)).bind fun _ _ => .ok trivial
      · exact .ok trivial
    · exact .ok trivial

lemma quoteLoop_ends {n : ℕ} (endQuote : UInt8) (hbegin : sc.begin ≤ sc.curptr) (h1 : sc.curptr ≤ s) (h2 : s ≤ sc.fin)
    (hn : sc.fin - s < n) : Ends (sc.quoteLoop endQuote n s) fun t => s ≤ t ∧ t ≤ sc.fin := by
  induction n generalizing s with
  | zero => omega
  | succ n ih =>
    rw [quoteLoop]
    refine (skipWhile_ends (by omega) h2).bind fun t ht => ?_
    refine (holdsAt_ends (by omega) ht.2.1).bind fun quote hquote => ?_
    split_ifs with hq
    · have hlt := (hquote hq).1
      refine (backslashes_ends hbegin t ht.2.1).bind fun nbackslash _ => ?_
      split_ifs
      · exact .ok ⟨ht.1, ht.2.1⟩
      · exact (ih (by omega) (by omega) (by omega)).mono fun u hu => ⟨by omega, hu.2⟩
    · exact .ok ⟨ht.1, ht.2.1⟩

lemma getQuotes_keeps (hs : Sound sc) (quotes : List (UInt8 × UInt8)) :
    Ends (sc.getQuotes quotes) (Keeps sc True) := by
  unfold getQuotes
  split_ifs with heof
  · exact .ok (.error hs)
  · have hbegin := hs.begin_le
    rw [byteAt_eq hbegin hs.le_fin]
    simp only [ok_bind]
    cases quotes.find? (·.1 = sc.byte sc.curptr) with
    | none => exact .ok (.error hs)
    | some quote =>
      refine (quoteLoop_ends quote.2 hbegin (Nat.le_succ _) (by omega) (by omega)).bind fun s ht => ?_
      refine (holdsAt_ends (by omega) ht.2).bind fun closed hclosed => ?_
      split_ifs with hc
      · have hlt := (hclosed hc).1
        exact take_keeps hs (by omega) hlt fun _ => by omega
      · exact .ok (.error hs)

section Unescape

variable {spec : UInt8 → Bool} {dst src n : ℕ}

lemma put_ends (h1 : sc.begin ≤ dst) (h2 : dst < sc.fin) (c : UInt8) : Ends (sc.put dst c) (Same sc) := by
  rw [put, if_pos ⟨h1, h2⟩]
  exact .ok ⟨rfl, by simp⟩

lemma moveIf_ends (h1 : sc.begin ≤ dst) (h2 : dst ≤ src) (h3 : src + n ≤ sc.fin) :
    Ends (sc.moveIf dst src n) (Same sc) := by
  unfold moveIf
  split_ifs
  · rw [move, if_pos ⟨h1, by omega, by omega, h3⟩]
    refine .ok ⟨rfl, ?_⟩
    unfold fin at h3
    simp only [List.length_append, List.length_take, List.length_drop]
    omega
  · exact .ok (.refl sc)

lemma hexAt_ends (h1 : sc.begin ≤ s) : Ends (sc.hexAt s) fun r => r ≠ none → s + 3 ≤ sc.fin := by
  unfold hexAt
  split_ifs with hin
  · rw [byteAt_eq (by omega) (by omega), byteAt_eq (by omega) (by omega)]
    exact .ok fun _ => hin
  · exact .ok fun h => absurd rfl h

/-- What an inner part of the loop does: it goes on in the same buffer, and `dst` stays behind. -/
structure Copies (sc : Scanner) (s dst : ℕ) (r : Scanner × ℕ × ℕ) : Prop where
  same : Same sc r.1
  ge : s ≤ r.2.1
  le_fin : r.2.1 ≤ sc.fin
  dst_ge : dst ≤ r.2.2
  dst_le : r.2.2 ≤ r.2.1

lemma copyPercent_ends (h1 : sc.begin ≤ dst) (h2 : dst ≤ s) (h3 : s < sc.fin) :
    Ends (sc.copyPercent s dst) fun r => Copies sc s dst r ∧ s < r.2.1 := by
  rw [copyPercent, byteAt_eq (by omega) (by omega)]
  refine (put_ends h1 (by omega) _).bind fun sc' hsame => ?_
  have hfin := hsame.fin_eq
  have hbegin := hsame.begin_eq
  split_ifs with hlast
  · exact .ok ⟨⟨hsame, Nat.le_succ _, by simp only; omega, Nat.le_succ _, by simp only; omega⟩, Nat.lt_succ_self _⟩
  · rw [byteAt_eq (by omega) (by omega)]
    refine (put_ends (by omega) (by omega) _).bind fun sc'' hsame' => ?_
    exact .ok ⟨⟨hsame.trans hsame', Nat.le_add_right _ _, by simp only; omega, Nat.le_add_right _ _,
      by simp only; omega⟩, by simp only; omega⟩

lemma copyRun_ends (hspec : spec 0 = false) (h1 : sc.begin ≤ dst) (h2 : dst ≤ s) (h3 : s ≤ sc.fin) :
    Ends (copyRun spec sc s dst) fun r => Copies sc s dst r ∧ (spec (sc.byte s) = true → s < r.2.1) ∧
      (spec (sc.byte s) = false → r = (sc, s, dst)) := by
  rw [copyRun, byteAt_eq (by omega) h3]
  change Ends (if spec (sc.byte s) = true then _ else _) _
  split_ifs with hc
  · -- the class has no NUL, so that `s` is not at the end
    have hlt : s < sc.fin := by
      refine Nat.lt_of_le_of_ne h3 fun heq => ?_
      rw [heq, byte_fin, hspec] at hc
      cases hc
    refine (skipWhile_ends (by omega) (by omega)).bind fun t ht => ?_
    refine (moveIf_ends h1 h2 (by omega)).bind fun sc' hsame => ?_
    refine .ok ⟨⟨hsame, by simp only; omega, ht.2.1, by simp only; omega, by simp only; omega⟩,
      fun _ => by simp only; omega, fun hn => ?_⟩
    rw [hc] at hn
    cases hn
  · exact .ok ⟨⟨.refl sc, le_rfl, h3, le_rfl, h2⟩, fun h => absurd h hc, fun _ => rfl⟩

lemma unescapeLoop_ends (hspec : spec 0 = false) (h1 : sc.begin ≤ dst) (h2 : dst ≤ s) (h3 : s ≤ sc.fin)
    (hn : sc.fin - s < n) : Ends (unescapeLoop spec n sc s dst) fun r =>
      Copies sc s dst r ∧ (spec (sc.byte s) = true ∨ sc.byte s = 37 → s < r.2.1) := by
  induction n generalizing sc s dst with
  | zero => omega
  | succ n ih =>
    -- behind a copy that has moved on, the loop goes on or is left
    have hgo : ∀ r : Scanner × ℕ × ℕ, Copies sc s dst r → s < r.2.1 →
        Ends (r.1.holdsAt (· = 37) r.2.1 >>= fun more =>
          if more = true then unescapeLoop spec n r.1 r.2.1 r.2.2 else .ok r) fun r' =>
            Copies sc s dst r' ∧ (spec (sc.byte s) = true ∨ sc.byte s = 37 → s < r'.2.1) := fun r hr hlt => by
      have hfin := hr.same.fin_eq
      have hbegin := hr.same.begin_eq
      have hle := hr.le_fin
      have hge := hr.dst_ge
      refine (holdsAt_ends (by omega) (by omega)).bind fun more _ => ?_
      split_ifs
      · refine (ih (by omega) hr.dst_le (by omega) (by omega)).mono fun r' hr' => ?_
        obtain ⟨⟨hsame, hge', hle', hdst, hdst'⟩, -⟩ := hr'
        exact ⟨⟨hr.same.trans hsame, by omega, by omega, by omega, hdst'⟩, fun _ => by omega⟩
      · exact .ok ⟨hr, fun _ => hlt⟩
    rw [unescapeLoop, byteAt_eq (by omega) h3]
    change Ends (if sc.byte s = 37 then _ else _) _
    by_cases hpercent : sc.byte s = 37
    · have hlt : s < sc.fin := by
        refine Nat.lt_of_le_of_ne h3 fun heq => ?_
        rw [heq, byte_fin] at hpercent
        exact absurd hpercent (by decide)
      rw [if_pos hpercent]
      refine (hexAt_ends (by omega)).bind fun hex hhex => ?_
      cases hex with
      | none => exact (copyPercent_ends h1 h2 hlt).mono fun r hr => ⟨hr.1, fun _ => hr.2⟩
      | some b =>
        have hin := hhex (by simp)
        refine (put_ends h1 (by omega) b).bind fun sc' hsame => ?_
        have hfin := hsame.fin_eq
        have hbegin := hsame.begin_eq
        refine (copyRun_ends hspec (by omega) (by omega) (by omega)).bind fun r hr => ?_
        obtain ⟨⟨hrsame, hge, hle, hdst, hdst'⟩, -, -⟩ := hr
        exact hgo r ⟨hsame.trans hrsame, by omega, by omega, by omega, hdst'⟩ (by omega)
    · rw [if_neg hpercent]
      refine (copyRun_ends hspec h1 h2 h3).bind fun r hr => ?_
      obtain ⟨hcopies, hmove, hstay⟩ := hr
      by_cases hc : spec (sc.byte s) = true
      · exact hgo r hcopies (hmove hc)
      · obtain rfl := hstay (by simpa using hc)
        refine (holdsAt_ends (by omega) h3).bind fun more hmore => ?_
        split_ifs with hm
        · exact absurd (of_decide_eq_true (hmore hm).2) hpercent
        · exact .ok ⟨hcopies, fun h => absurd h (not_or.mpr ⟨hc, hpercent⟩)⟩

lemma getUnescape_keeps (hs : Sound sc) (spec : Cis) : Ends (sc.getUnescape spec) (Keeps sc True) := by
  unfold getUnescape
  split_ifs with heof
  · exact .ok (.error hs)
  · have hbegin := hs.begin_le
    rw [byteAt_eq hbegin hs.le_fin]
    change Ends (if (!spec.has (sc.byte sc.curptr)) = true ∧ sc.byte sc.curptr ≠ 37 then _ else _) _
    split_ifs with hother
    · exact .ok (.error hs)
    · have hfirst : spec.has (sc.byte sc.curptr) = true ∨ sc.byte sc.curptr = 37 := by
        by_contra hc
        rw [not_or, Bool.not_eq_true] at hc
        exact hother ⟨by rw [hc.1]; rfl, hc.2⟩
      refine (unescapeLoop_ends spec.noNul hbegin le_rfl hs.le_fin (by omega)).bind fun r hr => ?_
      obtain ⟨⟨hsame, hge, hle, hdst, hdst'⟩, hmove⟩ := hr
      have hlt := hmove hfirst
      have hmoved : Same sc { r.1 with curptr := r.2.1 } := ⟨hsame.begin_eq, hsame.length_eq⟩
      have hsound : Sound { r.1 with curptr := r.2.1 } := by
        refine ⟨?_, ?_⟩
        · change r.1.begin ≤ r.2.1
          rw [hsame.begin_eq]
          omega
        · change r.2.1 ≤ r.1.fin
          rw [hsame.fin_eq]
          exact hle
      refine (settle_ends _ hsound).bind fun r' hr' => ?_
      have hge' : r.2.1 ≤ r'.curptr := hr'.ge
      refine .ok ⟨.of_same hmoved hge hr', fun tok htok => ?_, fun h => (by cases h), fun _ _ => by simp only; omega⟩
      cases htok
      exact ⟨hbegin, show sc.curptr + (r.2.2 - sc.curptr) ≤ sc.fin by omega⟩

end Unescape

end Operations

def Safe (sc : Scanner) (op : Op) : Prop := Sound sc ∧ Ends (sc.perform op) (Keeps sc (op.Takes sc))

lemma perform_keeps {sc : Scanner} (hs : Sound sc) (op : Op) : Ends (sc.perform op) (Keeps sc (op.Takes sc)) := by
  cases op with
  | skipWhitespace => exact (skipWhitespace_ends hs).bind fun r hr => .ok (.plain hr False.elim)
  | skipLine => exact skipLine_keeps hs
  | peek p => exact peek_keeps hs p
  | peekN len => exact peekN_keeps hs len
  | get spec => exact get_keeps hs spec
  | getUnescape spec => exact getUnescape_keeps hs spec
  | getQuotes quotes => exact getQuotes_keeps hs quotes
  | getN n => exact getN_keeps hs n
  | getChar => exact getChar_keeps hs
  | getNewline => exact getNewline_keeps hs
  | getUntil stop => exact getUntil_keeps hs stop
  | advanceN n skip => exact advanceN_keeps hs n skip
  | strcmp len => exact strcmp_keeps hs len

lemma next_sound {sc : Scanner} (hs : Sound sc) (op : Op) : Same sc (sc.next op) ∧ Sound (sc.next op) := by
  obtain ⟨r, hr, hkeeps⟩ := perform_keeps hs op
  simp only [Scanner.next, hr]
  exact ⟨hkeeps.moves.same, hkeeps.moves.sound hs⟩

/-- The cursor never leaves the buffer, whatever is called in whatever order. -/
theorem scanner_cursor (bufstart : ℕ) (buf : Bytes) (options : UInt32) (ops : List Op) :
    Ends (Scanner.init bufstart buf options) fun sc => sc.begin = bufstart ∧ sc.fin = bufstart + buf.length ∧
      Guarded Scanner.next Safe sc ops ∧ (run Scanner.next sc ops).begin = bufstart ∧
      (run Scanner.next sc ops).fin = bufstart + buf.length ∧ Sound (run Scanner.next sc ops) := by
  refine (Scanner.init_ends bufstart buf options).mono fun sc ⟨hbegin, hfin, hs⟩ => ?_
  have hrun := @run_invariant _ _ Scanner.next (fun sc' => Same sc sc' ∧ Sound sc')
    (fun sc' op h => ⟨h.1.trans (next_sound h.2 op).1, (next_sound h.2 op).2⟩) sc ⟨.refl sc, hs⟩ ops
  refine ⟨hbegin, hfin, ?_, hrun.1.begin_eq.trans hbegin, hrun.1.fin_eq.trans hfin, hrun.2⟩
  exact @guarded_of_invariant _ _ Scanner.next Safe Sound
    (fun sc' op h => ⟨⟨h, perform_keeps h op⟩, (next_sound h op).2⟩) sc hs ops

/-- `pj_scan_get_until` returns an empty token and stays where it is in front of a character to stop at. -/
theorem get_until_stays :
    ¬ ∀ (bufstart : ℕ) (buf : Bytes) (options : UInt32) (stop : UInt8 → Bool) (sc sc' : Scanner) (out : Option Token),
      Scanner.init bufstart buf options = .ok sc → sc.perform (.getUntil stop) = .ok (sc', .returned out) →
        sc.curptr < sc'.curptr := by
  intro h
  exact absurd (h 8 [97, 98] 0 (· = 97) ⟨8, [97, 98], 8, 1, 8, 0⟩ ⟨8, [97, 98], 8, 1, 8, 0⟩ (some ⟨8, 0⟩) rfl rfl)
    (by decide)

end PjProject.ScanCursor
