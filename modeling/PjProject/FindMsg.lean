import PjProject.Scanner

/-!
# Finding a message in a stream

`pjsip_find_msg` looks for the blank line that ends the headers and for a
Content-Length header before it. What it answers about a message is decided by the
bytes of the message alone.
-/
namespace PjProject.FindMsg

open Scanner

inductive Status
  | success | epartialmsg | emissinghdr | einvalidhdr
  deriving DecidableEq

/-- `pj_strstr`, as an offset. -/
def strstr (sub : Bytes) : Bytes → Option ℕ
  | [] => none
  | c :: s => if sub.isPrefixOf (c :: s) then some 0 else (strstr sub s).map (· + 1)

/-- `pj_strchr`, as an offset. -/
def strchr (chr : UInt8) (s : Bytes) : Option ℕ := s.findIdx? (· = chr)

/-- `strtoi_validate` with non-negative bounds. -/
def strtoiValidate (str : Bytes) (minVal maxVal : ℕ) : Scan ℕ :=
  match strtol2 str with
  | .ok v => if v < minVal ∨ v > maxVal then throw .einval else pure v.toNat
  | .error _ => throw .einval

/-- `PJSIP_MIN_CONTENT_LENGTH`, `PJSIP_MAX_CONTENT_LENGTH` -/
def minContentLength : ℕ := 0

def maxContentLength : ℕ := 2 ^ 31 - 1

def contentLength (first : UInt8) : Scan ℕ := do
  if first = 67 ∨ first = 99 then advanceN 14
  else if first = 108 ∨ first = 76 then advanceN 1
  let colon ← getChar
  if colon ≠ 58 then throw .syntaxErr
  let clen ← get isDigit
  getNewline
  strtoiValidate clen minContentLength maxContentLength

/-- Whether the line at `line` looks like a Content-Length header or its short form. -/
def isContentLength (line : Bytes) : Bool :=
  let c := line.headD 0
  let d := line.tail.headD 0
  ((c = 67 || c = 99) && strnicmpEq 14 line (lit "Content-Length")) ||
    ((c = 108 || c = 76) && (d = 32 || d = 9 || d = 58))

/-- One pass of the header loop: the length, or the status to report if no other line has
a valid one. `n` is the distance from `line` to the end of the headers. -/
def checkLine (line : Bytes) (n : ℕ) (status : Status) : Except Status ℕ :=
  if isContentLength line then
    match (contentLength (line.headD 0)).run (init (line.take n) .wsHeader) with
    | .ok (len, _) => .ok len
    | .error .syntaxErr => .error .emissinghdr
    | .error .einval => .error .einvalidhdr
  else .error status

/-- The header loop of `pjsip_find_msg`, from the start of a line. Each pass moves on, so
that the distance to the end of the headers bounds their number. -/
def findLength : ℕ → Bytes → ℕ → Status → Except Status ℕ
  | 0, _, _, status => .error status
  | k + 1, line, n, status =>
    match checkLine line n status with
    | .ok len => .ok len
    | .error status =>
      match strchr 10 line with
      | none => .error status
      | some i =>
        if i < n then findLength k (line.drop (i + 1)) (n - (i + 1)) status else .error status

def findHeader (buf : Bytes) : Option (ℕ × Except Status ℕ) :=
  (strstr [10, 13, 10] buf).map fun pos => (pos,
    match strchr 10 buf with
    | none => .error .emissinghdr
    | some i =>
      if i < pos + 1 then
        findLength (pos + 2) (buf.drop (i + 1)) (pos + 1 - (i + 1)) .emissinghdr
      else .error .emissinghdr)

/-- `pjsip_find_msg`: the status and `*msg_size`. -/
def findMsg (buf : Bytes) (isDatagram : Bool) : Status × ℕ :=
  if isDatagram then (.success, buf.length)
  else
    match findHeader buf with
    | none => (.epartialmsg, buf.length)
    | some (_, .error status) => (status, buf.length)
    | some (pos, .ok len) =>
      (if pos + 3 + len ≤ buf.length then .success else .epartialmsg, pos + 3 + len)

lemma strnicmpEq_append {c : UInt8} {t : Bytes} (hc : ∀ d ∈ t, toLower d ≠ toLower c) (k : ℕ)
    {a : Bytes} (ha : c ∈ a) (x : Bytes) : strnicmpEq k (a ++ x) t = strnicmpEq k a t := by
  induction k generalizing a t with
  | zero => simp [strnicmpEq]
  | succ k ih =>
    cases a with
    | nil => simp at ha
    | cons b a =>
      cases t with
      | nil => rfl
      | cons d t =>
        simp only [List.cons_append, strnicmpEq]
        by_cases hbd : toLower b = toLower d
        · have hne : c ≠ b := by
            rintro rfl
            exact hc d (by simp) hbd.symm
          have ha' : c ∈ a := by simpa [hne] using ha
          rw [ih (fun e he => hc e (by simp [he])) ha']
        · simp [hbd]

variable {ln : Bytes}

lemma isContentLength_append (hcr : 13 ∈ ln) (hlen : 2 ≤ ln.length)
    (x : Bytes) : isContentLength (ln ++ x) = isContentLength ln := by
  obtain ⟨c, d, s, rfl⟩ : ∃ c d s, ln = c :: d :: s := by
    match ln, hlen with
    | c :: d :: s, _ => exact ⟨c, d, s, rfl⟩
  have := strnicmpEq_append (c := 13) (t := lit "Content-Length")
    (forall_mem_of_all (by decide)) 14 hcr x
  simp only [isContentLength, this]
  rfl

variable {n : ℕ}

lemma checkLine_append (hcr : ln[n]? = some 13) (hlen : n + 2 ≤ ln.length) (x : Bytes) (status : Status) :
    checkLine (ln ++ x) n status = checkLine ln n status := by
  have hhead : (ln ++ x).headD 0 = ln.headD 0 := by
    cases ln with
    | nil => simp at hcr
    | cons c s => rfl
  rw [checkLine, checkLine, isContentLength_append (List.mem_of_getElem? hcr) (by omega),
    List.take_append_of_le_length (by omega), hhead]

variable {s : Bytes}

lemma strchr_append_some {chr : UInt8} {i : ℕ} (h : strchr chr s = some i)
    (x : Bytes) : strchr chr (s ++ x) = some i := by
  simp [strchr, List.findIdx?_append, show s.findIdx? (· = chr) = some i from h]

lemma strchr_append_none {chr : UInt8} {x : Bytes} {i : ℕ} (h : strchr chr s = none)
    (h' : strchr chr (s ++ x) = some i) : s.length ≤ i := by
  simp only [strchr, List.findIdx?_append, show s.findIdx? (· = chr) = none from h,
    Option.none_or, Option.map_eq_some_iff] at h'
  obtain ⟨j, -, rfl⟩ := h'
  omega

variable {status : Status}

lemma findLength_append {k : ℕ} (hcr : ln[n]? = some 13) (hlen : n + 2 ≤ ln.length) (x : Bytes) :
    findLength k (ln ++ x) n status = findLength k ln n status := by
  induction k generalizing ln n status with
  | zero => rfl
  | succ k ih =>
    simp only [findLength, checkLine_append hcr hlen]
    cases checkLine ln n status with
    | ok len => rfl
    | error status =>
      cases hi : strchr 10 ln with
      | none =>
        cases hj : strchr 10 (ln ++ x) with
        | none => rfl
        | some j =>
          have := strchr_append_none hi hj
          simp [show ¬ j < n by omega]
      | some i =>
        rw [strchr_append_some hi]
        by_cases hin : i < n
        · simp only [if_pos hin]
          rw [List.drop_append_of_le_length (by omega)]
          refine ih ?_ ?_
          · rw [List.getElem?_drop, ← hcr]
            congr 1
            omega
          · rw [List.length_drop]
            omega
        · simp only [if_neg hin]

variable {pos : ℕ}

lemma strstr_bound {sub : Bytes} (h : strstr sub s = some pos) : sub <+: s.drop pos := by
  induction s generalizing pos with
  | nil => simp [strstr] at h
  | cons c s ih =>
    unfold strstr at h
    split_ifs at h with hp
    · cases h
      exact List.isPrefixOf_iff_prefix.1 hp
    · obtain ⟨q, hq, rfl⟩ := Option.map_eq_some_iff.1 h
      exact ih hq

lemma strstr_append {sub : Bytes} (h : strstr sub s = some pos) (x : Bytes) :
    strstr sub (s ++ x) = some pos := by
  induction s generalizing pos with
  | nil => simp [strstr] at h
  | cons c s ih =>
    simp only [strstr, List.cons_append] at h ⊢
    by_cases hp : sub.isPrefixOf (c :: s) = true
    · have hp' : sub.isPrefixOf (c :: (s ++ x)) = true := by
        rw [List.isPrefixOf_iff_prefix] at hp ⊢
        exact hp.trans (List.prefix_append (c :: s) x)
      rw [if_pos hp] at h
      rw [if_pos hp', h]
    · rw [if_neg hp] at h
      obtain ⟨q, hq, rfl⟩ := Option.map_eq_some_iff.1 h
      -- an occurrence that reaches into `x` would begin after the one found
      have hlen : sub.length ≤ s.length := by
        have := (strstr_bound hq).length_le
        rw [List.length_drop] at this
        omega
      have hp' : ¬ sub.isPrefixOf (c :: (s ++ x)) = true := by
        rw [List.isPrefixOf_iff_prefix] at hp ⊢
        intro hc
        refine hp (List.prefix_of_prefix_length_le hc (List.prefix_append (c :: s) x) ?_)
        rw [List.length_cons]
        omega
      rw [if_neg hp', ih hq, Option.map_some]

variable {buf : Bytes}

lemma findHeader_append {r : ℕ × Except Status ℕ} (h : findHeader buf = some r)
    (x : Bytes) : findHeader (buf ++ x) = some r := by
  obtain ⟨pos, hpos, rfl⟩ := Option.map_eq_some_iff.1 h
  have hsub := strstr_bound hpos
  have hlen : pos + 3 ≤ buf.length := by
    have := hsub.length_le
    simp only [List.length_cons, List.length_nil, List.length_drop] at this
    omega
  have hcr : buf[pos + 1]? = some 13 := by
    obtain ⟨t, ht⟩ := hsub
    rw [← List.getElem?_drop, ← ht]
    rfl
  rw [findHeader, strstr_append hpos, Option.map_some]
  congr 2
  cases hi : strchr 10 buf with
  | none =>
    cases hj : strchr 10 (buf ++ x) with
    | none => rfl
    | some j =>
      have := strchr_append_none hi hj
      simp [show ¬ j < pos + 1 by omega]
  | some i =>
    rw [strchr_append_some hi]
    by_cases hip : i < pos + 1
    · simp only [if_pos hip]
      rw [List.drop_append_of_le_length (by omega)]
      refine findLength_append ?_ ?_ x
      · rw [List.getElem?_drop, ← hcr]
        congr 1
        omega
      · rw [List.length_drop]
        omega
    · simp only [if_neg hip]

variable {st : Status}

lemma checkLine_error {line : Bytes} (hs : status ≠ .success)
    (h : checkLine line n status = .error st) : st ≠ .success := by
  unfold checkLine at h
  split_ifs at h
  · split at h <;> cases h <;> simp
  · cases h
    exact hs

lemma findLength_error {k : ℕ} {line : Bytes} (hs : status ≠ .success)
    (h : findLength k line n status = .error st) : st ≠ .success := by
  induction k generalizing line n status with
  | zero =>
    cases h
    exact hs
  | succ k ih =>
    simp only [findLength] at h
    cases hc : checkLine line n status with
    | ok len => simp [hc] at h
    | error status' =>
      have hs' := checkLine_error hs hc
      simp only [hc] at h
      split at h
      · cases h
        exact hs'
      · split_ifs at h
        · exact ih hs' h
        · cases h
          exact hs'

lemma findHeader_error (h : findHeader buf = some (pos, .error st)) : st ≠ .success := by
  obtain ⟨q, -, hq⟩ := Option.map_eq_some_iff.1 h
  simp only [Prod.mk.injEq] at hq
  obtain ⟨-, hq⟩ := hq
  split at hq
  · cases hq
    simp
  · split_ifs at hq
    · exact findLength_error (by simp) hq
    · cases hq
      simp

variable {m : Bytes}

lemma findMsg_success (h : findMsg m false = (.success, m.length)) :
    ∃ pos len, findHeader m = some (pos, .ok len) ∧ m.length = pos + 3 + len := by
  simp only [findMsg, Bool.false_eq_true, if_false] at h
  split at h
  · simp at h
  · rename_i pos status hs
    exact absurd (congrArg Prod.fst h) (findHeader_error hs)
  · rename_i pos len hs
    exact ⟨pos, len, hs, (congrArg Prod.snd h).symm⟩

lemma findMsg_size_le (h : findMsg buf false = (.success, n)) : n ≤ buf.length := by
  simp only [findMsg, Bool.false_eq_true, if_false] at h
  split at h
  · simp at h
  · exact (congrArg Prod.snd h).ge
  · split_ifs at h with hle
    · cases h
      exact hle
    · simp at h

lemma findMsg_append (h : findMsg m false = (.success, m.length)) (x : Bytes) :
    findMsg (m ++ x) false = (.success, m.length) := by
  obtain ⟨pos, len, hm, hlen⟩ := findMsg_success h
  simp only [findMsg, Bool.false_eq_true, if_false, findHeader_append hm x]
  rw [if_pos (by rw [List.length_append]; omega), hlen]

lemma findMsg_part {p : Bytes} (h : findMsg m false = (.success, m.length)) (hp : p <+: m)
    (hne : p ≠ m) : (findMsg p false).1 = .epartialmsg := by
  obtain ⟨pos, len, hm, hlen⟩ := findMsg_success h
  obtain ⟨y, rfl⟩ := hp
  have hy : 0 < y.length := List.length_pos_of_ne_nil (by rintro rfl; simp at hne)
  cases hh : findHeader p with
  | none => simp [findMsg, hh]
  | some r =>
    have hr := findHeader_append hh y
    rw [hm] at hr
    cases hr
    have hshort : ¬ pos + 3 + len ≤ p.length := by
      rw [List.length_append] at hlen
      omega
    simp [findMsg, hh, hshort]

end PjProject.FindMsg
