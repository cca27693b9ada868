import PjProject.SipParserProgress

/-!
# Values that are folded over several lines

The scanner skips the folding between two lines on its own, and `parse_generic_string_hdr`
joins two texts in each round of its loop. The next round starts with an empty value again,
so that only the lines of the last round are kept.
-/
namespace PjProject.SipParser

open Scanner PjProject.Parser

structure Line where
  text : Bytes
  nonempty : text ≠ []
  noNewline : ∀ c ∈ text, isNewline c = false
  start : ∀ c ∈ text.head?, isSpace c = false ∧ c ≠ 0

structure Indent where
  text : Bytes
  nonempty : text ≠ []
  blank : ∀ c ∈ text, isSpace c = true

structure Folded where
  first : Line
  more : List (Indent × Line)
  rest : Bytes
  next : rest.head?.any isSpace = false

def Folded.lines (f : Folded) : List Line := f.first :: f.more.map Prod.snd

def tailBytes (rest : Bytes) : List (Indent × Line) → Bytes
  | [] => 13 :: 10 :: rest
  | (i, l) :: more => 13 :: 10 :: (i.text ++ (l.text ++ tailBytes rest more))

def Folded.input (f : Folded) : Bytes := f.first.text ++ tailBytes f.rest f.more

def Folded.joined (f : Folded) : Bytes := [32].intercalate (f.lines.map Line.text)

section Lines

variable {rest : Bytes} (l : Line) (more : List (Indent × Line))

def Line.plain (l : Line) : Prop := 0 ∉ l.text

lemma Line.spec {l : Line} (h : l.plain) : ∀ c ∈ l.text, notNewline c = true := by
  intro c hc
  have hnl := l.noNewline c hc
  have h0 : c ≠ 0 := fun h0 => h (h0 ▸ hc)
  simp only [isNewline, Bool.or_eq_false_iff, decide_eq_false_iff_not] at hnl
  simp [notNewline, h0, hnl]

lemma Line.curptr_spec (s : Bytes) : notNewline (curptr ⟨l.text ++ s, .wsHeader⟩) = true ∧
    isEof ⟨l.text ++ s, .wsHeader⟩ = false ∧ isNewline (curptr ⟨l.text ++ s, .wsHeader⟩) = false := by
  cases ht : l.text with
  | nil => exact absurd ht l.nonempty
  | cons c t =>
    have hnl := l.noNewline c (by rw [ht]; exact List.mem_cons_self)
    have h0 := (l.start c (by rw [ht]; rfl)).2
    simp only [isNewline, Bool.or_eq_false_iff, decide_eq_false_iff_not] at hnl
    simp [curptr, isEof, notNewline, isNewline, h0, hnl]

lemma settle_tailBytes (hrest : rest.head?.any isSpace = false) :
    settle .wsHeader (tailBytes rest more) =
      match more with
      | [] => 13 :: 10 :: rest
      | (_, l) :: more => l.text ++ tailBytes rest more := by
  cases more with
  | nil => simp [tailBytes, settle, skipWhitespace, isProbablySpace, isSpace, isNewline, eat, hrest]
  | cons x more =>
    obtain ⟨i, l⟩ := x
    have hdrop : (i.text ++ (l.text ++ tailBytes rest more)).dropWhile isSpace
        = l.text ++ tailBytes rest more := by
      rw [List.dropWhile_append_of_pos i.blank]
      cases ht : l.text with
      | nil => exact absurd ht l.nonempty
      | cons c t =>
        have hc := (l.start c (by rw [ht]; rfl)).1
        simp [hc]
    have hhead : (i.text ++ (l.text ++ tailBytes rest more)).head?.any isSpace = true := by
      cases hi : i.text with
      | nil => exact absurd hi i.nonempty
      | cons c t => simpa using i.blank c (by rw [hi]; exact List.mem_cons_self)
    simp only [tailBytes]
    generalize i.text ++ (l.text ++ tailBytes rest more) = u at hdrop hhead
    simp [settle, skipWhitespace, isProbablySpace, isNewline, eat, hhead, hdrop,
      show isSpace 13 = false from rfl]

lemma get_line {l : Line} (h : l.plain) :
    (scan (get notNewline)).run ⟨l.text ++ tailBytes rest more, .wsHeader⟩ =
      (.ok l.text, ⟨settle .wsHeader (tailBytes rest more), .wsHeader⟩) := by
  have hstop : ∃ t, tailBytes rest more = 13 :: t := by
    cases more with
    | nil => exact ⟨_, rfl⟩
    | cons x more => exact ⟨_, rfl⟩
  obtain ⟨t, ht⟩ := hstop
  have htake : (l.text ++ tailBytes rest more).takeWhile notNewline = l.text := by
    rw [List.takeWhile_append_of_pos (Line.spec h), ht]
    simp [notNewline]
  have hdrop : (l.text ++ tailBytes rest more).dropWhile notNewline = tailBytes rest more := by
    rw [List.dropWhile_append_of_pos (Line.spec h), ht]
    simp [notNewline]
  refine scan_ok ?_
  simp [Scanner.get, htake, hdrop, l.nonempty]

lemma get_nul {l : Line} (h : ¬ l.plain) (s : Bytes) :
    ∃ a b, (scan (get notNewline)).run ⟨l.text ++ s, .wsHeader⟩ = (.ok a, ⟨0 :: b, .wsHeader⟩) := by
  obtain ⟨a, b, heq, hna⟩ := List.eq_append_cons_of_mem (not_not.mp h)
  have hspec : ∀ c ∈ a, notNewline c = true := by
    intro c hc
    have hnl := l.noNewline c (by rw [heq]; exact List.mem_append_left _ hc)
    have h0 : c ≠ 0 := fun h0 => hna (h0 ▸ hc)
    simp only [isNewline, Bool.or_eq_false_iff, decide_eq_false_iff_not] at hnl
    simp [notNewline, h0, hnl]
  have hne : a ≠ [] := by
    rintro rfl
    exact (l.start 0 (by rw [heq]; rfl)).2 rfl
  have htake : (l.text ++ s).takeWhile notNewline = a := by
    rw [heq, List.append_assoc, List.takeWhile_append_of_pos hspec]
    simp [notNewline]
  have hdrop : (l.text ++ s).dropWhile notNewline = 0 :: (b ++ s) := by
    rw [heq, List.append_assoc, List.dropWhile_append_of_pos hspec]
    simp [notNewline]
  refine ⟨a, b ++ s, scan_ok ?_⟩
  simp [Scanner.get, htake, hdrop, hne, settle, skipWhitespace, isSpace, isNewline]

end Lines

/-- The body of the loop of `parse_generic_string_hdr`. -/
def foldRound (_ : Bytes × Bool) : Parse (Bytes × Bool) := do
  let hvalue ← scan (get notNewline)
  let s ← look id
  if isEof s ∨ isNewline (curptr s) then pure (hvalue, false)
  else
    let next ← scan (get notNewline)
    pure (hvalue ++ 32 :: next, true)

def foldCond (x : Bytes × Bool) (s : State) : Bool := x.2 && notNewline (curptr s)

lemma parseGenericStringHdr_eq : parseGenericStringHdr = (do
    let x ← loop left foldCond foldRound ([], true)
    parseHdrEnd
    pure x.1) := rfl

lemma Strict.foldRound (x : Bytes × Bool) : Strict left (foldRound x) := by
  refine (Strict.get _).bind fun hvalue => (Safe.look _).bind fun s => Safe.ite (Safe.pure _) ?_
  exact (Strict.get _).toSafe.bind fun _ => Safe.pure _

section Rounds

variable {rest : Bytes} {l l' : Line} {i : Indent} {more : List (Indent × Line)} {x : Bytes × Bool}

lemma foldRound_last (hl : l.plain) (hrest : rest.head?.any isSpace = false) :
    (foldRound x).run ⟨l.text ++ tailBytes rest [], .wsHeader⟩ =
      (.ok (l.text, false), ⟨13 :: 10 :: rest, .wsHeader⟩) := by
  unfold foldRound
  rw [bind_ok (get_line [] hl), settle_tailBytes [] hrest]
  simp [curptr, isNewline]

lemma foldRound_pair (hl : l.plain) (hl' : l'.plain) (hrest : rest.head?.any isSpace = false) :
    (foldRound x).run ⟨l.text ++ tailBytes rest ((i, l') :: more), .wsHeader⟩ =
      (.ok (l.text ++ 32 :: l'.text, true), ⟨settle .wsHeader (tailBytes rest more), .wsHeader⟩) := by
  have hcur := l'.curptr_spec (tailBytes rest more)
  unfold foldRound
  rw [bind_ok (get_line _ hl), settle_tailBytes _ hrest]
  simp only [look_bind, id, hcur.2.1, hcur.2.2, Bool.false_eq_true, or_self, if_false]
  rw [bind_ok (get_line _ hl')]
  rfl

lemma foldRound_nul (hl : ¬ l.plain) (s : Bytes) :
    ∃ t, (foldRound x).run ⟨l.text ++ s, .wsHeader⟩ = (.throw .syntaxErr, t) := by
  obtain ⟨a, b, hget⟩ := get_nul hl s
  refine ⟨⟨0 :: b, .wsHeader⟩, ?_⟩
  unfold foldRound
  rw [bind_ok hget]
  simp only [look_bind, id, isEof, List.isEmpty_cons, Bool.false_eq_true, curptr, List.headD_cons,
    isNewline, false_or]
  rw [if_neg (by simp)]
  exact bind_throw (scan_error (by simp [Scanner.get, notNewline]))

lemma foldRound_nul_second (i : Indent) (more : List (Indent × Line)) (hl : l.plain)
    (hl' : ¬ l'.plain) (hrest : rest.head?.any isSpace = false) :
    ∃ v b, (foldRound x).run ⟨l.text ++ tailBytes rest ((i, l') :: more), .wsHeader⟩ =
      (.ok (v, true), ⟨0 :: b, .wsHeader⟩) := by
  have hcur := l'.curptr_spec (tailBytes rest more)
  obtain ⟨a, b, hget⟩ := get_nul hl' (tailBytes rest more)
  refine ⟨l.text ++ 32 :: a, b, ?_⟩
  unfold foldRound
  rw [bind_ok (get_line _ hl), settle_tailBytes _ hrest]
  simp only [look_bind, id, hcur.2.1, hcur.2.2, Bool.false_eq_true, or_self, if_false]
  rw [bind_ok hget]
  rfl

def lastLines : Line → List (Indent × Line) → Bytes
  | l, [] => l.text
  | l, [(_, l')] => l.text ++ 32 :: l'.text
  | _, _ :: (_, l') :: more => lastLines l' more

lemma foldCond_line (hx : x.2 = true) (s : Bytes) : foldCond x ⟨l.text ++ s, .wsHeader⟩ = true := by
  simp [foldCond, hx, (l.curptr_spec s).1]

lemma loop_plain (hrest : rest.head?.any isSpace = false) (hx : x.2 = true) (hl : l.plain)
    (hmore : ∀ y ∈ more, y.2.plain) :
    ∃ go, (loop left foldCond foldRound x).run ⟨l.text ++ tailBytes rest more, .wsHeader⟩ =
      (.ok (lastLines l more, go), ⟨13 :: 10 :: rest, .wsHeader⟩) := by
  -- The induction takes the lines two at a time, as the loop does.
  induction l, more using lastLines.induct generalizing x with
  | case1 l =>
    refine ⟨false, ?_⟩
    rw [loop_step Strict.foldRound (foldCond_line hx _) (foldRound_last hl hrest),
      loop_stop (by rfl)]
    rfl
  | case2 l i l' =>
    have hl' := hmore (i, l') (by simp)
    refine ⟨true, ?_⟩
    rw [loop_step Strict.foldRound (foldCond_line hx _) (foldRound_pair hl hl' hrest),
      settle_tailBytes [] hrest, loop_stop (by rfl)]
    rfl
  | case3 l y i l' more ih =>
    obtain ⟨iy, ly⟩ := y
    have hly := hmore (iy, ly) (by simp)
    have hl' := hmore (i, l') (by simp)
    rw [loop_step Strict.foldRound (foldCond_line hx _) (foldRound_pair hl hly hrest),
      settle_tailBytes _ hrest]
    exact ih rfl hl' fun z hz => hmore z (by simp [hz])

lemma throw_nul_first (hx : x.2 = true) (hl : ¬ l.plain) {s : Bytes} :
    ∃ t, (do let y ← loop left foldCond foldRound x; parseHdrEnd; pure y.1 : Parse Bytes).run
      ⟨l.text ++ s, .wsHeader⟩ = (.throw .syntaxErr, t) := by
  obtain ⟨t, ht⟩ := foldRound_nul (x := x) hl s
  exact ⟨t, bind_throw (loop_throw (foldCond_line hx _) ht)⟩

lemma throw_nul_second (hrest : rest.head?.any isSpace = false) (hx : x.2 = true) (hl : l.plain)
    (hl' : ¬ l'.plain) :
    ∃ t, (do let y ← loop left foldCond foldRound x; parseHdrEnd; pure y.1 : Parse Bytes).run
      ⟨l.text ++ tailBytes rest ((i, l') :: more), .wsHeader⟩ = (.throw .syntaxErr, t) := by
  obtain ⟨v, b, hround⟩ := foldRound_nul_second (x := x) i more hl hl' hrest
  have hstop : (loop left foldCond foldRound (v, true)).run ⟨0 :: b, .wsHeader⟩ =
      (.ok (v, true), ⟨0 :: b, .wsHeader⟩) := loop_stop rfl
  have hloop := (loop_step Strict.foldRound (foldCond_line hx _) hround).trans hstop
  refine ⟨⟨0 :: b, .wsHeader⟩, ?_⟩
  rw [bind_ok hloop]
  refine bind_throw ?_
  simp [parseHdrEnd, isEof, curptr, scan, getNewline, isNewline]

lemma throw_nul (hrest : rest.head?.any isSpace = false) (hx : x.2 = true)
    (hnul : ¬ l.plain ∨ ∃ y ∈ more, ¬ y.2.plain) :
    ∃ t, (do let y ← loop left foldCond foldRound x; parseHdrEnd; pure y.1 : Parse Bytes).run
      ⟨l.text ++ tailBytes rest more, .wsHeader⟩ = (.throw .syntaxErr, t) := by
  induction l, more using lastLines.induct generalizing x with
  | case1 l =>
    by_cases hl : l.plain
    · obtain ⟨y, hy, -⟩ := hnul.resolve_left (not_not.mpr hl)
      cases hy
    · exact throw_nul_first hx hl
  | case2 l i l' =>
    by_cases hl : l.plain
    · obtain ⟨y, hy, hny⟩ := hnul.resolve_left (not_not.mpr hl)
      obtain rfl := List.mem_singleton.mp hy
      exact throw_nul_second hrest hx hl hny
    · exact throw_nul_first hx hl
  | case3 l y i l' more ih =>
    by_cases hl : l.plain
    · obtain ⟨iy, ly⟩ := y
      by_cases hly : ly.plain
      · rw [bind_congr_run (loop_step Strict.foldRound (foldCond_line hx _)
          (foldRound_pair hl hly hrest)), settle_tailBytes _ hrest]
        refine ih rfl ?_
        obtain ⟨z, hz, hnz⟩ := hnul.resolve_left (not_not.mpr hl)
        simp only [List.mem_cons] at hz
        rcases hz with rfl | rfl | hz
        · exact absurd hly hnz
        · exact .inl hnz
        · exact .inr ⟨z, hz, hnz⟩
      · exact throw_nul_second hrest hx hl hly
    · exact throw_nul_first hx hl

end Rounds

lemma intercalate_cons_cons (a b : Bytes) (l : List Bytes) :
    [32].intercalate (a :: b :: l) = a ++ 32 :: [32].intercalate (b :: l) := by
  simp [List.intercalate, List.intersperse]

lemma lastLines_length (l : Line) (more : List (Indent × Line)) (h : 2 ≤ more.length) :
    (lastLines l more).length < ([32].intercalate ((l :: more.map Prod.snd).map Line.text)).length := by
  have hle : ∀ (l : Line) (more : List (Indent × Line)), (lastLines l more).length ≤
      ([32].intercalate ((l :: more.map Prod.snd).map Line.text)).length := by
    intro l more
    induction l, more using lastLines.induct with
    | case1 l => simp [lastLines, List.intercalate]
    | case2 l i l' => simp [lastLines, List.intercalate, List.intersperse]
    | case3 l y i l' more ih =>
      simp only [List.map_cons, intercalate_cons_cons, List.length_append, List.length_cons] at ih ⊢
      simp only [lastLines]
      omega
  obtain ⟨y, ⟨i, l'⟩, more, rfl⟩ : ∃ y z more', more = y :: z :: more' := by
    match more, h with
    | y :: z :: more', _ => exact ⟨y, z, more', rfl⟩
  have hrest := hle l' more
  simp only [List.map_cons, intercalate_cons_cons, List.length_append, List.length_cons] at hrest ⊢
  simp only [lastLines]
  omega

/-- The value of a header over several lines is the joined lines if and only if there are at
most two of them, without a NUL. -/
theorem unfolding_iff (f : Folded) :
    parseGenericStringHdr.run ⟨f.input, .wsHeader⟩ = (.ok f.joined, ⟨f.rest, .wsHeader⟩) ↔
      f.lines.length ≤ 2 ∧ ∀ l ∈ f.lines, l.plain := by
  rw [parseGenericStringHdr_eq]
  by_cases hplain : ∀ l ∈ f.lines, l.plain
  · have hfirst := hplain f.first (by simp [Folded.lines])
    have hmore : ∀ y ∈ f.more, y.2.plain := by
      intro y hy
      exact hplain y.2 (by simp only [Folded.lines, List.mem_cons]; exact .inr (List.mem_map_of_mem hy))
    obtain ⟨go, hloop⟩ := loop_plain (x := ([], true)) f.next rfl hfirst hmore
    have hend : parseHdrEnd.run ⟨13 :: 10 :: f.rest, .wsHeader⟩ = (.ok (), ⟨f.rest, .wsHeader⟩) := by
      simp [parseHdrEnd, isEof, curptr, scan, getNewline, isNewline, eat]
    have hrun : (do let y ← loop left foldCond foldRound ([], true); parseHdrEnd; pure y.1 :
        Parse Bytes).run ⟨f.input, .wsHeader⟩ = (.ok (lastLines f.first f.more), ⟨f.rest, .wsHeader⟩) := by
      rw [Folded.input, bind_ok hloop, bind_ok hend]
      rfl
    rw [hrun]
    constructor
    · intro heq
      have heq : lastLines f.first f.more = f.joined := by simpa using heq
      refine ⟨?_, hplain⟩
      by_contra hlen
      have hlong : 2 ≤ f.more.length := by
        simp only [Folded.lines, List.length_cons, List.length_map] at hlen
        omega
      have hlt := lastLines_length f.first f.more hlong
      rw [heq] at hlt
      exact absurd hlt (lt_irrefl _)
    · rintro ⟨hlen, -⟩
      have hjoin : lastLines f.first f.more = f.joined := by
        unfold Folded.joined Folded.lines at *
        rcases hm : f.more with _ | ⟨⟨i, l⟩, _ | ⟨_, _⟩⟩
        · simp [lastLines, List.intercalate]
        · simp [lastLines, List.intercalate, List.intersperse]
        · simp [hm] at hlen
      rw [hjoin]
  · obtain ⟨l, hl, hnl⟩ : ∃ l ∈ f.lines, ¬ l.plain := by simpa using hplain
    have hnul : ¬ f.first.plain ∨ ∃ y ∈ f.more, ¬ y.2.plain := by
      rcases List.mem_cons.mp hl with rfl | hl
      · exact .inl hnl
      · obtain ⟨y, hy, rfl⟩ := List.mem_map.mp hl
        exact .inr ⟨y, hy, hnl⟩
    obtain ⟨t, ht⟩ := throw_nul (x := ([], true)) f.next rfl hnul
    constructor
    · intro heq
      rw [Folded.input, ht] at heq
      cases heq
    · rintro ⟨-, hall⟩
      exact absurd hall hplain

def threeLines : Folded where
  first := ⟨lit "one", by decide, forall_mem_of_all (by decide), by rintro c ⟨⟩; decide⟩
  more := [(⟨[32], by decide, forall_mem_of_all (by decide)⟩,
      ⟨lit "two", by decide, forall_mem_of_all (by decide), by rintro c ⟨⟩; decide⟩),
    (⟨[9, 32], by decide, forall_mem_of_all (by decide)⟩,
      ⟨lit "three", by decide, forall_mem_of_all (by decide), by rintro c ⟨⟩; decide⟩)]
  rest := lit "To: x"
  next := by decide

/-- Only the third line is kept. -/
theorem unfolding_loses_lines : parseGenericStringHdr.run ⟨threeLines.input, .wsHeader⟩ ≠
      (.ok threeLines.joined, ⟨threeLines.rest, .wsHeader⟩) ∧
    parseGenericStringHdr.run ⟨threeLines.input, .wsHeader⟩ =
      (.ok (lit "three"), ⟨threeLines.rest, .wsHeader⟩) := by
  decide

end PjProject.SipParser
