import PjProject.JsonScalar

/-!
# Elements of JSON documents

The text of an element with its name and its children, and what the parser makes of it. The value that a
parser gives is part of the element that it is for, so that a text that is read otherwise makes this
element another one.
-/
namespace PjProject.Json

open Scanner SipParser PjProject.Parser

variable {children : Kind → Parse (List Elem)} {child : Parse Elem}

def nameText (name : Bytes) : Bytes :=
  if name = [] then []
  else 34 :: (escaped name ++ 34 :: 58 :: 32 :: spaces (nameMinLen - name.length))

def docText (indent : ℕ) : Elem → Bytes
  | .scalar name value => nameText name ++ (writeScalar value).flatten
  | .compound name type children =>
    nameText name ++ type.open :: 32 :: ((writeChildren indent type children).flatten ++ [type.close])

lemma writeName_flatten (indent : ℕ) (name : Bytes) :
    (writeName indent false name).flatten = (if name = [] then [] else spaces indent) ++ nameText name := by
  unfold writeName nameText
  by_cases hname : name = []
  · simp [hname]
  · by_cases hlen : name.length < nameMinLen
    · simp [hname, hlen, writeStringEscaped_flatten]
    · simp [hname, hlen, writeStringEscaped_flatten, spaces, Nat.sub_eq_zero_of_le (not_lt.1 hlen)]

variable {elem : Elem}

lemma elemWrite_named (indent : ℕ) (h : elem.name ≠ []) :
    (elemWrite indent false elem).flatten = spaces indent ++ docText indent elem := by
  cases elem with
  | scalar name value =>
    have hname : name ≠ [] := h
    simp [elemWrite, docText, writeName_flatten, hname]
  | compound name type children =>
    have hname : name ≠ [] := h
    simp [elemWrite, docText, writeName_flatten, hname]

lemma elemWrite_unnamed (indent : ℕ) (noName : Bool) (h : elem.name = []) :
    (elemWrite indent noName elem).flatten = docText indent elem := by
  cases elem with
  | scalar name value =>
    obtain rfl : name = [] := h
    simp [elemWrite, docText, writeName, nameText]
  | compound name type children =>
    obtain rfl : name = [] := h
    simp [elemWrite, docText, writeName, nameText]

lemma writeRest_flatten (indent : ℕ) (noName : Bool) (sep : Bytes) (last : List Bytes) (list : List Elem) :
    (writeRest indent noName sep last list).flatten =
      (list.flatMap fun elem => sep ++ (elemWrite indent noName elem).flatten) ++ last.flatten := by
  induction list with
  | nil => rfl
  | cons elem list ih => simp [writeRest, ih]

def Blanks (s : Bytes) : Prop := ∀ c ∈ s, isBlank c = true

lemma blanks_spaces (n : ℕ) : Blanks (spaces n) := by
  intro c hc
  obtain rfl := (List.mem_replicate.1 hc).2
  rfl

variable {list : List Elem}

lemma writeChildren_text (indent : ℕ) {type : Kind} {first : Elem}
    (hname : ∀ elem ∈ first :: list, elem.name = [] ↔ type = .array) :
    ∃ n lead sep last, Blanks lead ∧ Blanks sep ∧ Blanks last ∧
      (writeChildren indent type (first :: list)).flatten =
        lead ++ (docText n first ++ ((list.flatMap fun elem => 44 :: (sep ++ docText n elem)) ++ last)) := by
  cases type with
  | array =>
    have hunnamed : ∀ elem ∈ first :: list, elem.name = [] := fun elem h => (hname elem h).2 rfl
    refine ⟨indent, [], [32], [], by simp [Blanks], by simp [Blanks, isBlank, isSpace], by simp [Blanks], ?_⟩
    have hrest : (list.flatMap fun elem => [44, 32] ++ (elemWrite indent true elem).flatten) =
        list.flatMap fun elem => 44 :: ([32] ++ docText indent elem) := by
      refine List.flatMap_congr fun elem helem => ?_
      rw [elemWrite_unnamed indent true (hunnamed elem (by simp [helem]))]
      rfl
    rw [writeChildren, if_pos (hunnamed first (by simp)), List.flatten_append, writeRest_flatten,
      elemWrite_unnamed _ _ (hunnamed first (by simp))]
    simpa using hrest
  | obj =>
    have hnamed : ∀ elem ∈ first :: list, elem.name ≠ [] := fun elem h hnil => by cases (hname elem h).1 hnil
    refine ⟨deepen indent, 10 :: spaces (deepen indent), 10 :: spaces (deepen indent), 10 :: spaces indent,
      ?_, ?_, ?_, ?_⟩
    iterate 3
      intro c hc
      rcases List.mem_cons.1 hc with rfl | hc
      · rfl
      · exact blanks_spaces _ c hc
    have hrest : (list.flatMap fun elem => [44, 10] ++ (elemWrite (deepen indent) false elem).flatten) =
        list.flatMap fun elem => 44 :: (10 :: spaces (deepen indent) ++ docText (deepen indent) elem) := by
      refine List.flatMap_congr fun elem helem => ?_
      rw [elemWrite_named _ (hnamed elem (by simp [helem]))]
      rfl
    have hkind : decide (Kind.obj = Kind.array) = false := rfl
    rw [writeChildren, if_neg (hnamed first (by simp)), hkind, List.flatten_cons, List.flatten_append,
      List.flatten_append, writeRest_flatten, elemWrite_named _ (hnamed first (by simp)), hrest]
    simp

/-- What may stand behind an element, once blanks are skipped: another element, or the end of the children or
of the document. -/
def Follows (tail : Bytes) : Prop := ∀ c ∈ (skipBlank tail).head?, c = 44 ∨ c = 93 ∨ c = 125

variable {tail : Bytes}

lemma Follows.curptr (h : Follows tail) : curptr ⟨skipBlank tail, .off⟩ ∈ [0, 44, 93, (125 : UInt8)] := by
  unfold Follows at h
  cases hs : skipBlank tail with
  | nil => simp [SipParser.curptr]
  | cons c s =>
    rw [hs] at h
    rcases h c rfl with rfl | rfl | rfl <;> simp [SipParser.curptr]

lemma Follows.no_digit (h : Follows tail) : ∀ c ∈ tail.head?, floatSpec c = false := by
  intro c hc
  have hkind : ∀ c : UInt8, isBlank c = true → floatSpec c = false := by
    intro c hblank
    unfold isBlank isSpace isNewline at hblank
    simp only [Bool.or_eq_true, decide_eq_true_eq] at hblank
    rcases hblank with (rfl | rfl) | rfl | rfl <;> rfl
  by_cases hblank : isBlank c = true
  · exact hkind c hblank
  · cases tail with
    | nil => cases hc
    | cons d s =>
      obtain rfl := Option.some.inj hc
      unfold Follows at h
      rw [skipBlank_cons s (by simpa using hblank)] at h
      rcases h d rfl with rfl | rfl | rfl <;> rfl

variable {s : Bytes}

lemma token_getUntil (hs : s ≠ []) : (token (getUntil (· = 34))).run ⟨s, .off⟩ =
      (.ok (s.takeWhile (· ≠ 34)), ⟨skipBlank (s.dropWhile (· ≠ 34)), .off⟩) := by
  refine token_ok (scan_ok ?_)
  simp [getUntil, hs]

lemma parseName_quote (s tail : Bytes) : ∃ v, parseName.run ⟨34 :: (escaped s ++ 34 :: tail), .off⟩ =
        (nameOrValue (rawText s)).run ⟨skipBlank v, .off⟩ ∧
      (34 ∉ escaped (s.dropWhile (· = 32)) → v = tail) := by
  have hquote : curptr ⟨34 :: (escaped s ++ 34 :: tail), .off⟩ = 34 := rfl
  have hopen := token_getChar (escaped s ++ 34 :: tail) (c := 34) (by decide)
  rw [skipBlank_escaped] at hopen
  have htext := token_getUntil (s := escaped (s.dropWhile (· = 32)) ++ 34 :: tail) (by simp)
  rw [takeWhile_quote] at htext
  obtain ⟨v, hv, hown⟩ : ∃ v, (escaped (s.dropWhile (· = 32)) ++ 34 :: tail).dropWhile (· ≠ 34) = 34 :: v ∧
      (34 ∉ escaped (s.dropWhile (· = 32)) → v = tail) := by
    generalize escaped (s.dropWhile (· = 32)) = u
    induction u with
    | nil => exact ⟨tail, rfl, fun _ => rfl⟩
    | cons c u ih =>
      by_cases hc : c = 34
      · exact ⟨u ++ 34 :: tail, by simp [hc], fun h => absurd (by simp [hc]) h⟩
      · obtain ⟨v, hv, hown⟩ := ih
        exact ⟨v, by simpa [hc] using hv, fun h => hown fun hmem => h (List.mem_cons_of_mem _ hmem)⟩
  rw [hv, skipBlank_cons v (by decide)] at htext
  refine ⟨v, ?_, hown⟩
  rw [parseName, look_bind, if_pos hquote, bind_ok hopen, bind_ok htext, bind_ok (token_getChar v (by decide))]
  rfl

variable {name : Bytes} {t : State}

lemma nameOrValue_run {text value : Bytes} {s : State}
    (h : (nameOrValue text).run s = (.ok (name, value), t)) :
    (curptr s = 58 ∧ name = text ∧ value = []) ∨ (curptr s ≠ 58 ∧ name = [] ∧ value = text ∧ t = s) := by
  rw [nameOrValue, look_bind] at h
  split_ifs at h with hc
  · obtain ⟨_, u, _, hu⟩ := bind_eq_ok h
    cases hu
    exact .inl ⟨hc, rfl, rfl⟩
  · cases h
    exact .inr ⟨hc, rfl, rfl, rfl⟩

lemma Verbatim.ownQuote (h : Verbatim s) : 34 ∉ Json.escaped (s.dropWhile (· = 32)) := by
  rw [h.dropWhile, h.escaped]
  exact h.no_quote

lemma parseName_reads {v : Bytes} (hname : name ≠ []) (hv : skipBlank v = v) :
    Reads parseName (nameText name ++ v) (name, []) v (Verbatim name) := by
  have htext : nameText name ++ v =
      34 :: (escaped name ++ 34 :: (58 :: 32 :: (spaces (nameMinLen - name.length) ++ v))) := by
    simp [nameText, hname]
  obtain ⟨w, hrun, hown⟩ := parseName_quote name (58 :: 32 :: (spaces (nameMinLen - name.length) ++ v))
  rw [htext]
  constructor
  · intro hgood
    obtain rfl := hown hgood.ownQuote
    have hcolon := token_getChar (32 :: (spaces (nameMinLen - name.length) ++ v)) (c := 58) (by decide)
    have hpad : skipBlank (32 :: (spaces (nameMinLen - name.length) ++ v)) = v := by
      rw [← List.cons_append, skipBlank, List.dropWhile_append_of_pos]
      · exact hv
      · exact blanks_spaces (nameMinLen - name.length + 1)
    rw [hpad] at hcolon
    have hc : curptr ⟨58 :: 32 :: (spaces (nameMinLen - name.length) ++ v), .off⟩ = 58 := rfl
    rw [hrun, skipBlank_cons _ (by decide), (rawText_eq_iff name).2 hgood, nameOrValue, look_bind, if_pos hc,
      bind_ok hcolon]
    rfl
  · intro u hu
    rw [hrun] at hu
    rcases nameOrValue_run hu with ⟨-, heq, -⟩ | ⟨-, heq, -, -⟩
    · exact (rawText_eq_iff name).1 heq.symm
    · exact absurd heq hname

lemma parseValue_name {s : State}
    (h : (parseValue children name).run s = (.ok elem, t)) : elem.name = name := by
  rw [parseValue, look_bind] at h
  split_ifs at h
  case neg => cases h
  all_goals
    obtain ⟨_, u, _, hu⟩ := bind_eq_ok h
    cases hu
    rfl

lemma parseBehind_name {x : Bytes × Bytes} {s : State}
    (h : (parseBehind children x).run s = (.ok elem, t)) : elem.name = x.1 := by
  unfold parseBehind at h
  split_ifs at h
  · cases h
    rfl
  · exact parseValue_name h

lemma parseName_run {value : Bytes} {s : State} (h : parseName.run s = (.ok (name, value), t)) :
    name = [] ∨ value = [] := by
  rw [parseName, look_bind] at h
  split_ifs at h
  · obtain ⟨_, s1, _, h⟩ := bind_eq_ok h
    obtain ⟨text, s2, _, h⟩ := bind_eq_ok h
    obtain ⟨_, s3, _, h⟩ := bind_eq_ok h
    have h : (nameOrValue text).run s3 = _ := h
    rcases nameOrValue_run h with ⟨-, -, hvalue⟩ | ⟨-, hname, -, -⟩
    · exact .inr hvalue
    · exact .inl hname
  · cases h
    exact .inl rfl

lemma parseElemWith_named {elem : Elem} {v tail : Bytes} {good : Prop} (hname : elem.name ≠ [])
    (hv : skipBlank v = v) (h : Reads (parseValue children elem.name) v elem tail good) :
    Reads (parseElemWith children) (nameText elem.name ++ v) elem tail (Verbatim elem.name ∧ good) := by
  refine Reads.bind (f := parseBehind children) (parseName_reads hname hv) (fun _ => h) ?_
  rintro ⟨name, value⟩ s t hrun helem
  -- the name of the element is the one that was read, so that this was no value
  obtain rfl : elem.name = name := parseBehind_name helem
  obtain rfl := (parseName_run hrun).resolve_left hname
  rfl

lemma parseElemWith_unnamed {v : Bytes} {good : Prop} (hv : v.head? ≠ some 34)
    (h : Reads (parseValue children []) v elem tail good) : Reads (parseElemWith children) v elem tail good := by
  refine Reads.of_eq h ?_
  have hquote : curptr ⟨v, .off⟩ ≠ 34 := by
    cases v with
    | nil => simp [curptr]
    | cons c v => simpa [curptr] using hv
  have hname : parseName.run ⟨v, .off⟩ = (.ok ([], []), ⟨v, .off⟩) := by
    rw [parseName, look_bind, if_neg hquote]
    rfl
  rw [parseElemWith, bind_ok hname]
  rfl

lemma parseValue_follows (h : Follows tail) :
    (parseValue children name).run ⟨skipBlank tail, .off⟩ = (.throw .einval, ⟨skipBlank tail, .off⟩) := by
  have hkind : ∀ c ∈ [0, 44, 93, (125 : UInt8)],
      ¬ (floatSpec c ∨ c = 45) ∧ c ≠ 34 ∧ ¬ isAlpha c = true ∧ c ≠ 91 ∧ c ≠ 123 :=
    forall_mem_of_all (by decide)
  obtain ⟨hnum, hquote, halpha, harray, hobj⟩ := hkind _ h.curptr
  rw [parseValue, look_bind, if_neg hnum, if_neg hquote, if_neg halpha, if_neg harray, if_neg hobj]
  rfl

lemma parseElemWith_text {str : Bytes} (htail : Follows tail) :
    Reads (parseElemWith children) (34 :: (escaped str ++ 34 :: tail)) (.scalar [] (.string str)) (skipBlank tail)
      (str ≠ [] ∧ Verbatim str) := by
  obtain ⟨w, hrun, hown⟩ := parseName_quote str tail
  have hcolon : curptr ⟨skipBlank tail, .off⟩ ≠ 58 := by
    have hkind : ∀ c ∈ [0, 44, 93, (125 : UInt8)], c ≠ 58 := forall_mem_of_all (by decide)
    exact hkind _ htail.curptr
  constructor
  · rintro ⟨hne, hgood⟩
    obtain rfl := hown hgood.ownQuote
    have hname : parseName.run ⟨34 :: (escaped str ++ 34 :: w), .off⟩ =
        (.ok ([], str), ⟨skipBlank w, .off⟩) := by
      rw [hrun, (rawText_eq_iff str).2 hgood, nameOrValue, look_bind, if_neg hcolon]
      rfl
    rw [parseElemWith, bind_ok hname, parseBehind, if_pos hne]
    rfl
  · intro u hu
    rw [parseElemWith] at hu
    obtain ⟨⟨name, value⟩, t, hname, helem⟩ := bind_eq_ok hu
    obtain rfl : [] = name := parseBehind_name helem
    -- nothing but spaces: the quote that was read is the own one of the text
    have hspaces : rawText str = [] → w = tail := by
      intro hraw
      refine hown ?_
      rw [(rawText_eq_nil_iff str).1 hraw]
      simp
    rw [hrun] at hname
    rcases nameOrValue_run hname with ⟨hc, hnil, -⟩ | ⟨-, -, rfl, rfl⟩
    · rw [hspaces hnil.symm] at hc
      exact absurd hc hcolon
    · by_cases hraw : rawText str = []
      · rw [hraw, hspaces hraw] at helem
        cases (parseValue_follows htail).symm.trans helem
      · rw [parseBehind, if_pos hraw] at helem
        have htext : rawText str = str :=
          Scalar.string.inj (Elem.scalar.inj (Outcome.ok.inj (Prod.mk.inj helem).1)).2
        exact ⟨htext ▸ hraw, (rawText_eq_iff str).1 htext⟩

def Starts (c : UInt8) : Prop := isBlank c = false ∧ c ≠ 44 ∧ c ≠ 93 ∧ c ≠ 125

instance : DecidablePred Starts := fun c => inferInstanceAs (Decidable (isBlank c = false ∧ c ≠ 44 ∧ c ≠ 93 ∧ c ≠ 125))

lemma skipBlank_append {blanks : Bytes} (h : Blanks blanks) : skipBlank (blanks ++ s) = skipBlank s :=
  List.dropWhile_append_of_pos h

variable {c : UInt8}

lemma skipCommas_run {sep : Bytes} (hsep : Blanks sep) (hc : Starts c) :
    ∀ s' ∈ [c :: s, 44 :: (sep ++ c :: s)], skipCommas.run ⟨s', .off⟩ = (.ok (), ⟨c :: s, .off⟩) := by
  have hstop : skipCommas.run ⟨c :: s, .off⟩ = (.ok (), ⟨c :: s, .off⟩) :=
    loop_stop (by simp [curptr, hc.2.1])
  intro s' hs'
  rcases List.mem_cons.1 hs' with rfl | hs'
  · exact hstop
  · obtain rfl := List.mem_singleton.1 hs'
    have hcomma := token_getChar (sep ++ c :: s) (c := 44) (by decide)
    rw [skipBlank_append hsep, skipBlank_cons s hc.1] at hcomma
    have hround : (do
        let _ ← token getChar
        pure () : Parse Unit).run ⟨44 :: (sep ++ c :: s), .off⟩ = (.ok (), ⟨c :: s, .off⟩) := by
      rw [bind_ok hcomma]
      rfl
    exact (loop_step (fun _ => Strict.tokenChar.bind fun _ => Safe.pure _) rfl hround).trans hstop

lemma childRound_elem {sep : Bytes} (type : Kind) (list : List Elem) (hsep : Blanks sep)
    (hc : Starts c) (s' : Bytes) (hs' : s' ∈ [c :: s, 44 :: (sep ++ c :: s)]) :
    (childRound child type.close list).run ⟨s', .off⟩ =
      (child >>= fun elem => pure (.inl (list ++ [elem]))).run ⟨c :: s, .off⟩ := by
  have hclose : curptr ⟨c :: s, .off⟩ ≠ type.close := by
    cases type with
    | array => exact hc.2.2.1
    | obj => exact hc.2.2.2
  have hclose' : curptr ⟨s', .off⟩ ≠ type.close := by
    rcases List.mem_cons.1 hs' with rfl | hmem
    · exact hclose
    · obtain rfl := List.mem_singleton.1 hmem
      have hcomma : (44 : UInt8) ≠ type.close := by cases type <;> decide
      exact hcomma
  rw [childRound, look_bind, if_neg hclose', bind_ok (skipCommas_run hsep hc s' hs'), look_bind, if_neg hclose]

lemma childRound_keeps {endQuote : UInt8} {r : List Elem ⊕ List Elem} {s : State}
    (h : (childRound child endQuote list).run s = (.ok r, t)) :
    r = .inr list ∨ ∃ elem, r = .inl (list ++ [elem]) := by
  rw [childRound, look_bind] at h
  split_ifs at h
  · cases h
    exact .inl rfl
  · obtain ⟨_, u, _, h⟩ := bind_eq_ok h
    rw [look_bind] at h
    split_ifs at h
    · cases h
      exact .inl rfl
    · obtain ⟨elem, v, _, h⟩ := bind_eq_ok h
      cases h
      exact .inr ⟨elem, rfl⟩

lemma children_prefix {endQuote : UInt8} {result : List Elem} {s : State}
    (h : (forever left (childRound child endQuote) list).run s = (.ok result, t)) : list <+: result := by
  refine forever_keeps (I := fun l => list <+: l) (Q := fun l => list <+: l) ?_ ?_ (List.prefix_refl list) h
  · intro l s r t hl hr
    rcases childRound_keeps hr with heq | ⟨elem, heq⟩
    · cases heq
    · obtain rfl := Sum.inl.inj heq
      exact hl.trans (List.prefix_append l [elem])
  · intro l s r t hl hr
    rcases childRound_keeps hr with heq | ⟨elem, heq⟩
    · obtain rfl := Sum.inr.inj heq
      exact hl
    · cases heq

lemma children_step {sep t u : Bytes} {type : Kind}
    {good rest : Prop} (done : List Elem) (hchild : Strict left child) (hsep : Blanks sep) (hc : Starts c)
    (s' : Bytes) (hs' : s' ∈ [c :: s, 44 :: (sep ++ c :: s)]) (helem : Reads child (c :: s) elem t good)
    (hlist : Reads (forever left (childRound child type.close) (done ++ [elem])) t (done ++ elem :: list) u rest) :
    Reads (forever left (childRound child type.close) done) s' (done ++ elem :: list) u (good ∧ rest) := by
  have hadvance := Advances.childRound hchild type.close
  have hstep : (forever left (childRound child type.close) done).run ⟨s', .off⟩ =
      (child >>= fun elem => forever left (childRound child type.close) (done ++ [elem])).run ⟨c :: s, .off⟩ := by
    rw [forever_unfold hadvance, bind_congr_run (childRound_elem type done hsep hc s' hs'), bind_bind_run]
    rfl
  have hinj : ∀ e v w, child.run ⟨c :: s, .off⟩ = (.ok e, v) →
      (forever left (childRound child type.close) (done ++ [e])).run v = (.ok (done ++ elem :: list), w) →
      e = elem := by
    intro e v w _ hw
    have hprefix := children_prefix hw
    rw [List.prefix_append_right_inj] at hprefix
    exact (List.cons_prefix_cons.1 hprefix).1
  exact Reads.of_eq (Reads.bind helem (fun _ => hlist) hinj) hstep

lemma children_end {type : Kind} :
    Reads (forever left (childRound child type.close) list) (type.close :: tail) list (type.close :: tail) True := by
  have hclose : curptr ⟨type.close :: tail, .off⟩ = type.close := rfl
  refine Reads.of_run (forever_leave ?_)
  rw [childRound, look_bind, if_pos hclose]
  rfl

lemma close_follows (type : Kind) (tail : Bytes) : Follows (type.close :: tail) := by
  intro c hc
  cases type with
  | array =>
    obtain rfl := Option.some.inj hc
    exact .inr (.inl rfl)
  | obj =>
    obtain rfl := Option.some.inj hc
    exact .inr (.inr rfl)

lemma skipBlank_close (type : Kind) (tail : Bytes) : skipBlank (type.close :: tail) = type.close :: tail := by
  cases type <;> rfl

section Lists

variable {type : Kind} {text : Elem → Bytes} {good : Elem → Prop} {sep last : Bytes}

def restText (text : Elem → Bytes) (sep last : Bytes) (list : List Elem) : Bytes :=
  (list.flatMap fun elem => 44 :: (sep ++ text elem)) ++ last

lemma children_rest (type : Kind) (hchild : Strict left child) (hsep : Blanks sep) (hlast : Blanks last)
    (tail : Bytes) (list : List Elem) :
    ∀ done : List Elem, (∀ elem ∈ list, ∃ c s, text elem = c :: s ∧ Starts c) →
      (∀ elem ∈ list, ∀ rest, Follows rest → rest ≠ [] →
        Reads child (text elem ++ rest) elem (skipBlank rest) (good elem)) →
      Follows (restText text sep last list ++ type.close :: tail) ∧
      Reads (forever left (childRound child type.close) done)
        (skipBlank (restText text sep last list ++ type.close :: tail)) (done ++ list) (type.close :: tail)
        (∀ elem ∈ list, good elem) := by
  induction list with
  | nil =>
    intro done _ _
    have hskip : skipBlank (restText text sep last [] ++ type.close :: tail) = type.close :: tail := by
      rw [restText, List.flatMap_nil, List.nil_append, skipBlank_append hlast, skipBlank_close]
    refine ⟨?_, ?_⟩
    · have hfollows := close_follows type tail
      unfold Follows at hfollows ⊢
      rwa [hskip, ← skipBlank_close]
    · rw [hskip, List.append_nil]
      exact children_end.congr (by simp)
  | cons elem list ih =>
    intro done hstart hreads
    obtain ⟨hfollows, hlist⟩ := ih (done ++ [elem]) (fun e he => hstart e (by simp [he]))
      fun e he => hreads e (by simp [he])
    have htext : restText text sep last (elem :: list) ++ type.close :: tail =
        44 :: (sep ++ (text elem ++ (restText text sep last list ++ type.close :: tail))) := by
      simp [restText]
    obtain ⟨c, s, hc, hstarts⟩ := hstart elem (by simp)
    have helem := hreads elem (by simp) (restText text sep last list ++ type.close :: tail) hfollows (by simp)
    rw [List.append_assoc, List.singleton_append] at hlist
    rw [htext]
    refine ⟨fun d hd => .inl (Option.some.inj hd).symm, ?_⟩
    rw [skipBlank_cons _ (by decide)]
    rw [hc, List.cons_append] at helem ⊢
    refine (children_step done hchild hsep hstarts _ (by simp) helem hlist).congr ?_
    simp

lemma parseChildren_quotes {v tail : Bytes} {list : List Elem} {p : Prop}
    (h : Reads (forever left (childRound child type.close) []) (skipBlank v) list (type.close :: tail) p) :
    Reads (parseChildren child type) (type.open :: v) list (skipBlank tail) p := by
  have hopen := token_getChar v (c := type.open) (by cases type <;> decide)
  have hclose := token_getChar tail (c := type.close) (by cases type <;> decide)
  have hrun : (parseChildren child type).run ⟨type.open :: v, .off⟩ =
      (forever left (childRound child type.close) [] >>= fun list => do
        let _ ← token getChar
        pure list : Parse (List Elem)).run ⟨skipBlank v, .off⟩ := by
    rw [parseChildren, bind_ok hopen]
  refine (Reads.of_eq (Reads.bind h (u := skipBlank tail) (b := list) (fun _ => Reads.of_run ?_) ?_) hrun).congr
    (and_iff_left trivial)
  · rw [bind_ok hclose]
    rfl
  · intro other s t _ hother
    obtain ⟨_, u, _, hu⟩ := bind_eq_ok hother
    cases hu
    rfl

lemma parseChildren_reads {lead : Bytes} {first : Elem} {list : List Elem} (hchild : Strict left child)
    (hlead : Blanks lead) (hsep : Blanks sep) (hlast : Blanks last) (tail : Bytes)
    (hstart : ∀ elem ∈ first :: list, ∃ c s, text elem = c :: s ∧ Starts c)
    (hreads : ∀ elem ∈ first :: list, ∀ rest, Follows rest → rest ≠ [] →
      Reads child (text elem ++ rest) elem (skipBlank rest) (good elem)) : Reads (parseChildren child type)
      (type.open :: 32 :: (lead ++ (text first ++ (restText text sep last list ++ type.close :: tail))))
      (first :: list) (skipBlank tail) (∀ elem ∈ first :: list, good elem) := by
  obtain ⟨hfollows, hlist⟩ := children_rest type hchild hsep hlast tail list ([] ++ [first])
    (fun e he => hstart e (by simp [he])) fun e he => hreads e (by simp [he])
  obtain ⟨c, s, hc, hstarts⟩ := hstart first (by simp)
  have hfirst := hreads first (by simp) (restText text sep last list ++ type.close :: tail) hfollows (by simp)
  have hskip : skipBlank (32 :: (lead ++ (text first ++ (restText text sep last list ++ type.close :: tail)))) =
      text first ++ (restText text sep last list ++ type.close :: tail) := by
    have hlead' : Blanks (32 :: lead) := by
      intro d hd
      rcases List.mem_cons.1 hd with rfl | hd
      · rfl
      · exact hlead d hd
    rw [← List.cons_append, skipBlank_append hlead', hc, List.cons_append, skipBlank_cons _ hstarts.1]
  refine parseChildren_quotes ?_
  rw [hskip]
  rw [hc, List.cons_append] at hfirst ⊢
  refine (children_step [] hchild hsep hstarts _ (by simp) hfirst hlist).congr ?_
  simp

end Lists

end PjProject.Json
