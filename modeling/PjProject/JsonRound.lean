import PjProject.JsonElem

/-!
# The round trip of JSON documents

A document is read back if its names, and its texts without a name, are written as they are, and if it is not
one of the constants of four letters.
-/
namespace PjProject.Json

open Scanner SipParser PjProject.Parser

variable {children : Kind → Parse (List Elem)}

/-- A tree nested at most so deep, whose numbers are kept by a `float`, whose members of objects have names and
whose elements of arrays have none. -/
inductive Document : ℕ → Elem → Prop
  | scalar {levels : ℕ} {name : Bytes} {value : Scalar} (h : value.Exact) : Document levels (.scalar name value)
  | compound {levels : ℕ} {name : Bytes} {type : Kind} {list : List Elem}
      (hname : ∀ elem ∈ list, elem.name = [] ↔ type = .array) (h : ∀ elem ∈ list, Document levels elem) :
      Document (levels + 1) (.compound name type list)

inductive AsWritten : Elem → Prop
  | scalar {name : Bytes} {value : Scalar} (hname : Verbatim name)
      (h : name = [] → ∀ str, value = .string str → str ≠ [] ∧ Verbatim str) : AsWritten (.scalar name value)
  | compound {name : Bytes} {type : Kind} {list : List Elem} (hname : Verbatim name)
      (h : ∀ elem ∈ list, AsWritten elem) : AsWritten (.compound name type list)

def Elem.Short : Elem → Prop
  | .scalar _ value => value.Short
  | .compound _ _ _ => False

lemma AsWritten.name {elem : Elem} (h : AsWritten elem) : Verbatim elem.name := by
  cases h with
  | scalar hname _ => exact hname
  | compound hname _ => exact hname

lemma writeScalar_head {value : Scalar} (h : value.Exact) :
    ∃ c s, (writeScalar value).flatten = c :: s ∧ Starts c ∧ (c = 34 → ∃ str, value = .string str) := by
  cases value with
  | null => exact ⟨110, lit "ull", rfl, by decide, fun h => absurd h (by decide)⟩
  | bool isTrue =>
    cases isTrue with
    | true => exact ⟨116, lit "rue", rfl, by decide, fun h => absurd h (by decide)⟩
    | false => exact ⟨102, lit "alse", rfl, by decide, fun h => absurd h (by decide)⟩
  | number num =>
    obtain ⟨n, hn, rfl⟩ := h num rfl
    rw [writeScalar_number hn, printInt]
    split_ifs
    · exact ⟨45, utoa n.natAbs, rfl, by decide, fun h => absurd h (by decide)⟩
    · obtain ⟨d, s, hd⟩ := List.exists_cons_of_ne_nil (utoa_ne_nil n.natAbs)
      obtain ⟨hstarts, hquote⟩ : Starts d ∧ d ≠ 34 :=
        digit_cases (p := fun c => Starts c ∧ c ≠ 34) (by decide) (utoa_digits n.natAbs d (by simp [hd]))
      exact ⟨d, s, hd, hstarts, fun h => absurd h hquote⟩
  | string str => exact ⟨34, _, rfl, by decide, fun _ => ⟨str, rfl⟩⟩

variable {name : Bytes}

lemma nameText_named (h : name ≠ []) : ∃ s, nameText name = 34 :: s := ⟨_, if_neg h⟩

lemma docText_head {levels : ℕ} {elem : Elem} (indent : ℕ) (h : Document levels elem) :
    ∃ c s, docText indent elem = c :: s ∧ Starts c := by
  have hquote : Starts 34 := by decide
  cases h with
  | @scalar _ name value hvalue =>
    by_cases hname : name = []
    · subst hname
      obtain ⟨c, s, hc, hstarts, -⟩ := writeScalar_head hvalue
      exact ⟨c, s, hc, hstarts⟩
    · obtain ⟨s, hs⟩ := nameText_named hname
      exact ⟨34, s ++ (writeScalar value).flatten, by rw [docText, hs]; rfl, hquote⟩
  | @compound _ name type list _ _ =>
    by_cases hname : name = []
    · subst hname
      refine ⟨type.open, _, rfl, ?_⟩
      cases type <;> decide
    · obtain ⟨s, hs⟩ := nameText_named hname
      exact ⟨34, _, by rw [docText, hs]; rfl, hquote⟩

lemma parseElemWith_scalar {value : Scalar} {tail : Bytes} (indent : ℕ) (hvalue : value.Exact)
    (htail : Follows tail) :
    Reads (parseElemWith children) (docText indent (.scalar name value) ++ tail) (.scalar name value)
      (skipBlank tail) (AsWritten (.scalar name value) ∧ (tail = [] → ¬ value.Short)) := by
  have hread : Reads (parseValue children name) _ _ _ _ := parseValue_scalar name tail hvalue htail.no_digit
  obtain ⟨c, s, hc, hstarts, hquote⟩ := writeScalar_head hvalue
  have hv : skipBlank ((writeScalar value).flatten ++ tail) = (writeScalar value).flatten ++ tail := by
    rw [hc]
    exact skipBlank_cons (s ++ tail) hstarts.1
  rw [docText, List.append_assoc]
  by_cases hname : name = []
  · subst hname
    by_cases hstr : ∃ str, value = .string str
    · obtain ⟨str, rfl⟩ := hstr
      have htext : nameText [] ++ ((writeScalar (.string str)).flatten ++ tail) =
          34 :: (escaped str ++ 34 :: tail) := by
        simp [nameText, writeScalar, writeStringEscaped_flatten]
      rw [htext]
      refine (parseElemWith_text htail).congr
        ⟨fun h => ⟨.scalar verbatim_nil ?_, by simp [Scalar.Short]⟩, fun h => ?_⟩
      · rintro - other heq
        exact Scalar.string.inj heq ▸ h
      · cases h.1 with
        | scalar _ h => exact h rfl str rfl
    · have hhead : ((writeScalar value).flatten ++ tail).head? ≠ some 34 := by
        rw [hc]
        intro h
        exact hstr (hquote (Option.some.inj h))
      refine (parseElemWith_unnamed hhead hread).congr (and_iff_right (.scalar verbatim_nil ?_)).symm
      rintro - str rfl
      exact absurd ⟨str, rfl⟩ hstr
  · refine (@parseElemWith_named children (.scalar name value) _ _ _ hname hv hread).congr (and_congr_left' ?_)
    exact ⟨fun h => .scalar h fun hnil => absurd hnil hname, AsWritten.name⟩

lemma parseElemWith_compound {type : Kind} {list : List Elem} {tail v : Bytes} {p : Prop}
    (h : Reads (children type) (type.open :: v) list (skipBlank tail) p) :
    Reads (parseElemWith children) (nameText name ++ type.open :: v) (.compound name type list) (skipBlank tail)
      (Verbatim name ∧ p) := by
  have hread : Reads (parseValue children name) (type.open :: v) (.compound name type list) (skipBlank tail) p := by
    have hinj : Function.Injective (Elem.compound name type) := fun x y h => (Elem.compound.inj h).2.2
    refine Reads.of_eq (Reads.map hinj h) ?_
    cases type with
    | array =>
      have hc : curptr ⟨Kind.open .array :: v, .off⟩ = 91 := rfl
      rw [parseValue, look_bind, hc, if_neg (by decide), if_neg (by decide), if_neg (by decide), if_pos rfl]
    | obj =>
      have hc : curptr ⟨Kind.open .obj :: v, .off⟩ = 123 := rfl
      rw [parseValue, look_bind, hc, if_neg (by decide), if_neg (by decide), if_neg (by decide), if_neg (by decide),
        if_pos rfl]
  have hv : skipBlank (type.open :: v) = type.open :: v := by cases type <;> rfl
  by_cases hname : name = []
  · subst hname
    have hopen : type.open ≠ 34 := by cases type <;> decide
    have hhead : (type.open :: v).head? ≠ some 34 := fun h => hopen (Option.some.inj h)
    exact (parseElemWith_unnamed hhead hread).congr (and_iff_right verbatim_nil).symm
  · exact @parseElemWith_named children (.compound name type list) _ _ _ hname hv hread

lemma parseElem_reads (levels : ℕ) : ∀ (elem : Elem) (indent : ℕ) (tail : Bytes), Document levels elem →
    Follows tail → Reads (parseElem levels) (docText indent elem ++ tail) elem (skipBlank tail)
      (AsWritten elem ∧ (tail = [] → ¬ elem.Short)) := by
  induction levels with
  | zero =>
    intro elem indent tail h htail
    cases h with
    | scalar hvalue => exact parseElemWith_scalar indent hvalue htail
  | succ levels ih =>
    intro elem indent tail h htail
    cases h with
    | scalar hvalue => exact parseElemWith_scalar indent hvalue htail
    | @compound _ name type list hname hlist =>
      have hchildren : ∃ v, docText indent (.compound name type list) ++ tail = nameText name ++ type.open :: v ∧
          Reads (parseChildren (parseElem levels) type) (type.open :: v) list (skipBlank tail)
            (∀ elem ∈ list, AsWritten elem) := by
        cases list with
        | nil =>
          refine ⟨32 :: type.close :: tail, by simp [docText, writeChildren], parseChildren_quotes ?_⟩
          have hskip : skipBlank (32 :: type.close :: tail) = type.close :: tail := skipBlank_close type tail
          rw [hskip]
          exact children_end.congr (by simp)
        | cons first list =>
          obtain ⟨n, lead, sep, last, hlead, hsep, hlast, htext⟩ := writeChildren_text indent hname
          refine ⟨_, ?_, parseChildren_reads (Strict.parseElem levels) hlead hsep hlast tail
            (fun elem helem => docText_head n (hlist elem helem)) fun elem helem rest hrest hne => ?_⟩
          · rw [docText, htext]
            simp [restText]
          · exact (ih elem n rest (hlist elem helem) hrest).congr (and_iff_left fun hnil => absurd hnil hne)
      obtain ⟨v, htext, hreads⟩ := hchildren
      rw [htext]
      refine (parseElemWith_compound hreads).congr ⟨fun h => ⟨.compound h.1 h.2, fun _ h => h⟩, fun h => ?_⟩
      cases h.1 with
      | compound hverbatim hall => exact ⟨hverbatim, hall⟩

lemma elemWrite_flatten (elem : Elem) : (elemWrite 0 false elem).flatten = docText 0 elem := by
  by_cases hname : elem.name = []
  · exact elemWrite_unnamed 0 false hname
  · exact elemWrite_named 0 hname

lemma bufWriter_pieces (pieces : List Bytes) : ∀ data : BufWriterData, pieces.flatten.length + 1 < data.size →
    ∃ size, pieces.foldlM bufWriter data = .ok ⟨data.written ++ pieces.flatten, size⟩ := by
  induction pieces with
  | nil =>
    intro data _
    exact ⟨data.size, by simp [pure, Except.pure]⟩
  | cons piece pieces ih =>
    intro data h
    simp only [List.flatten_cons, List.length_append] at h
    obtain ⟨size, hsize⟩ := ih ⟨data.written ++ piece, data.size - piece.length⟩ (by simp only; omega)
    refine ⟨size, ?_⟩
    have hpiece : bufWriter data piece = .ok ⟨data.written ++ piece, data.size - piece.length⟩ :=
      if_neg (by omega)
    rw [List.foldlM_cons, hpiece]
    show pieces.foldlM bufWriter _ = _
    rw [hsize, List.flatten_cons, List.append_assoc]

lemma jsonWrite_ok (elem : Elem) {size : ℕ} (h : (docText 0 elem).length + 1 < size) :
    jsonWrite elem size = .ok (docText 0 elem) := by
  obtain ⟨left, hwrite⟩ := bufWriter_pieces (elemWrite 0 false elem) ⟨[], size⟩ (by rwa [elemWrite_flatten])
  rw [jsonWrite, jsonWritef, hwrite, elemWrite_flatten]
  rfl

/-- What is written into a buffer that is large enough is read back if and only if the names and the texts
without a name are written as they are, and the root is not a constant of four letters. -/
theorem round_trip_iff (elem : Elem) (h : Document maxNesting elem) :
    ∃ n, ∀ size, n ≤ size → ∃ buffer, jsonWrite elem size = .ok buffer ∧
      ((jsonParse buffer).1 = some elem ↔ AsWritten elem ∧ ¬ elem.Short) := by
  refine ⟨(docText 0 elem).length + 2, fun size hsize => ⟨docText 0 elem, jsonWrite_ok elem hsize, ?_⟩⟩
  have hreads := parseElem_reads maxNesting elem 0 [] h (fun c hc => by cases hc)
  obtain ⟨c, s, hc, hstarts⟩ := docText_head 0 h
  have hskip : skipBlank (docText 0 elem) = docText 0 elem := by
    rw [hc]
    exact skipBlank_cons s hstarts.1
  rw [List.append_nil] at hreads
  rw [jsonParse, if_neg (by simp [hc]), hskip]
  constructor
  · intro hroot
    cases hrun : (parseElem maxNesting).run ⟨docText 0 elem, .off⟩ with
    | mk o t =>
      rw [hrun] at hroot
      cases o with
      | ok root =>
        obtain rfl := Option.some.inj hroot
        exact (hreads.of_ok t hrun).imp_right fun hshort => hshort rfl
      | throw e => cases hroot
      | hang => cases hroot
  · rintro ⟨hwritten, hshort⟩
    rw [hreads.run ⟨hwritten, fun _ => hshort⟩]

/-- A setting with a user agent, whose value is escaped, is read back. -/
theorem settings_read_back :
    let settings : Elem := .compound [] .obj
      [.scalar (lit "port") (.number 5060), .scalar (lit "userAgent") (.string (lit "pjsua/2.0"))]
    ∃ n, ∀ size, n ≤ size → ∃ buffer, jsonWrite settings size = .ok buffer ∧
      ((jsonParse buffer).1 = some settings ↔ AsWritten settings ∧ ¬ settings.Short) := by
  refine round_trip_iff _ (show Document (255 + 1) _ from .compound ?_ ?_)
  · intro elem helem
    simp only [List.mem_cons, List.not_mem_nil, or_false] at helem
    rcases helem with rfl | rfl
    · exact iff_of_false (by decide) (by decide)
    · exact iff_of_false (by decide) (by decide)
  · intro elem helem
    simp only [List.mem_cons, List.not_mem_nil, or_false] at helem
    rcases helem with rfl | rfl
    · refine .scalar ?_
      rintro num ⟨⟩
      exact ⟨5060, by decide, by norm_num⟩
    · refine .scalar ?_
      rintro num ⟨⟩

/-- The slash in a list of codecs is escaped, and the escape is read as part of the name. -/
theorem codec_with_slash :
    Document maxNesting (.compound [] .array [.scalar [] (.string (lit "PCMU/8000"))]) ∧
      jsonWrite (.compound [] .array [.scalar [] (.string (lit "PCMU/8000"))]) 64 =
        .ok (lit "[ \"PCMU\\/8000\"]") ∧ (jsonParse (lit "[ \"PCMU\\/8000\"]")).1 =
        some (.compound [] .array [.scalar [] (.string (lit "PCMU\\/8000"))]) ∧
      Elem.compound [] .array [.scalar [] (.string (lit "PCMU\\/8000"))] ≠
        .compound [] .array [.scalar [] (.string (lit "PCMU/8000"))] := by
  refine ⟨show Document (255 + 1) _ from .compound ?_ ?_, by decide, by rfl, ?_⟩
  · intro elem helem
    obtain rfl := List.mem_singleton.1 helem
    exact iff_of_true rfl rfl
  · intro elem helem
    obtain rfl := List.mem_singleton.1 helem
    refine .scalar ?_
    rintro num ⟨⟩
  · intro h
    have hfirst := (List.cons.inj (Elem.compound.inj h).2.2).1
    exact absurd (Scalar.string.inj (Elem.scalar.inj hfirst).2) (by decide)

end PjProject.Json
