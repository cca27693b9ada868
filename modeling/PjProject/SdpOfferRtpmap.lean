import PjProject.SdpOffer

/-!
# The rtpmaps of an answer

What removing the unwanted formats and giving the others the payload types of the offer
does to the rtpmap attributes, and to the lookup of the rtpmap of one format.
-/
namespace PjProject.SdpOffer

open Sdp

def rtpmaps (attrs : List Attr) : List Attr := attrs.filter fun a => a.name = lit "rtpmap"

def isFor (fmt : Bytes) (a : Attr) : Bool := (fmtPt fmt).isSome && valuePt a.value = fmtPt fmt

lemma attrMatches_rtpmap (fmt : Bytes) (a : Attr) :
    attrMatches (lit "rtpmap") (some fmt) a = (decide (a.name = lit "rtpmap") && isFor fmt a) := rfl

lemma findAttr_rtpmap (attrs : List Attr) (fmt : Bytes) :
    findAttr attrs (lit "rtpmap") (some fmt) = (rtpmaps attrs).find? (isFor fmt) := by
  unfold findAttr rtpmaps
  rw [List.find?_filter]
  congr 1
  funext a
  simp [attrMatches_rtpmap]

lemma rtpmapOf_eq_find (attrs : List Attr) (fmt : Bytes) :
    rtpmapOf attrs fmt = ((rtpmaps attrs).find? (isFor fmt)).map fun a => getRtpmap a.value := by
  rw [rtpmapOf, findAttr_rtpmap]

lemma rtpmaps_modifyFirst {fmt : Bytes} {f : Attr → Attr} (hf : ∀ a, (f a).name = a.name)
    (attrs : List Attr) :
    rtpmaps (modifyFirst (attrMatches (lit "fmtp") (some fmt)) f attrs) = rtpmaps attrs := by
  induction attrs with
  | nil => rfl
  | cons a attrs ih =>
    unfold modifyFirst
    split_ifs with hm
    · have hname : a.name ≠ lit "rtpmap" := by rw [attrMatches_name hm]; decide
      simp [rtpmaps, hf, hname]
    · unfold rtpmaps at ih ⊢
      rw [List.filter_cons, List.filter_cons, ih]

lemma length_modifyFirst (q : Attr → Bool) (f : Attr → Attr) (attrs : List Attr) :
    (modifyFirst q f attrs).length = attrs.length := by
  induction attrs with
  | nil => rfl
  | cons a attrs ih =>
    unfold modifyFirst
    split_ifs
    · rfl
    · simp [ih]

structure SameLine (m m' : Media) : Prop where
  media : m'.media = m.media
  port : m'.port = m.port
  fmts : m'.fmts = m.fmts
  rtpmaps : rtpmaps m'.attrs = rtpmaps m.attrs
  length : m'.attrs.length = m.attrs.length

lemma reduceRed_sameLine (st : MatchState) (preanswer : Media) :
    SameLine preanswer (reduceRed st preanswer) := by
  unfold reduceRed
  dsimp only
  split
  · exact ⟨rfl, rfl, rfl, rfl, rfl⟩
  · split
    · exact ⟨rfl, rfl, rfl, rfl, rfl⟩
    · split_ifs
      · refine ⟨rfl, rfl, rfl, rtpmaps_modifyFirst ?_ _, length_modifyFirst _ _ _⟩
        intro a
        rfl
      · exact ⟨rfl, rfl, rfl, rfl, rfl⟩

lemma SameLine.filterTel {m m' : Media} (h : SameLine m m') (st : MatchState) :
    filterTel m' st = filterTel m st := by
  have hrate : telRate m' = telRate m := by
    funext p
    unfold telRate
    simp only [rtpmapOf_eq_find, h.rtpmaps]
  unfold SdpOffer.filterTel
  rw [hrate]

lemma rtpmaps_removeFound (attrs : List Attr) (fmt : Bytes) :
    rtpmaps (removeFound attrs (lit "rtpmap") fmt) = (rtpmaps attrs).eraseP (isFor fmt) := by
  induction attrs with
  | nil => rfl
  | cons a attrs ih =>
    unfold removeFound rtpmaps at ih ⊢
    rw [List.eraseP_cons, attrMatches_rtpmap]
    by_cases hname : a.name = lit "rtpmap"
    · cases hfor : isFor fmt a with
      | true => simp [hname, hfor]
      | false => simp [hname, hfor, ih]
    · simp [hname, ih]

lemma rtpmaps_removeFound_fmtp (attrs : List Attr) (fmt : Bytes) :
    rtpmaps (removeFound attrs (lit "fmtp") fmt) = rtpmaps attrs := by
  induction attrs with
  | nil => rfl
  | cons a attrs ih =>
    unfold removeFound rtpmaps at ih ⊢
    rw [List.eraseP_cons]
    cases hm : attrMatches (lit "fmtp") (some fmt) a with
    | true =>
      have hname : a.name ≠ lit "rtpmap" := by rw [attrMatches_name hm]; decide
      simp [hname]
    | false => simp only [cond_false, List.filter_cons, ih]

def eraseFor (fmts : List Bytes) (maps : List Attr) : List Attr :=
  fmts.foldl (fun maps fmt => maps.eraseP (isFor fmt)) maps

lemma rtpmaps_removeUnwanted (fmts : List Bytes) (attrs : List Attr) :
    rtpmaps (fmts.foldl removeFmtAttrs attrs) = eraseFor fmts (rtpmaps attrs) := by
  induction fmts generalizing attrs with
  | nil => rfl
  | cons fmt fmts ih =>
    rw [List.foldl_cons, ih, removeFmtAttrs, rtpmaps_removeFound_fmtp, rtpmaps_removeFound]
    rfl

/-- What one round of `apply_answer_symmetric_pt` does to the rtpmaps. -/
def move (acc : List Attr × List Attr) (p : Bytes × Bytes) : List Attr × List Attr :=
  if p.2 = p.1 then acc
  else
    match acc.1.find? (isFor p.2) with
    | none => acc
    | some a => (acc.1.eraseP (isFor p.2), acc.2 ++ [{ a with value := rewritePt a.value p.2 p.1 }])

lemma rtpmaps_append (as bs : List Attr) : rtpmaps (as ++ bs) = rtpmaps as ++ rtpmaps bs :=
  List.filter_append ..

variable {name : Bytes}

lemma rtpmaps_singleton_ne (h : name ≠ lit "rtpmap") (value : Bytes) : rtpmaps [⟨name, value⟩] = [] := by
  simp [rtpmaps, h]

lemma rtpmaps_singleton_eq (h : name = lit "rtpmap") (value : Bytes) :
    rtpmaps [⟨name, value⟩] = [⟨name, value⟩] := by
  simp [rtpmaps, h]

def movePt (acc : List Attr × List Attr) (p : Bytes × Bytes) : List Attr × List Attr :=
  match findAttr acc.1 (lit "rtpmap") (some p.2) with
  | none => acc
  | some a => (removeFound acc.1 (lit "rtpmap") p.2,
      acc.2 ++ [{ a with value := rewritePt a.value p.2 p.1 }])

lemma length_removeFound {attrs : List Attr} {fmt : Bytes} {a : Attr}
    (h : findAttr attrs name (some fmt) = some a) :
    (removeFound attrs name fmt).length + 1 = attrs.length := by
  have hmem := List.mem_of_find?_eq_some h
  have hpos := List.length_pos_of_mem hmem
  have := List.length_eraseP_of_mem hmem (List.find?_some h)
  unfold removeFound
  omega

lemma movePt_rtpmaps {acc : List Attr × List Attr} {p : Bytes × Bytes} (hne : p.2 ≠ p.1) :
    (rtpmaps (movePt acc p).1, rtpmaps (movePt acc p).2) = move (rtpmaps acc.1, rtpmaps acc.2) p := by
  unfold movePt move
  rw [if_neg hne, ← findAttr_rtpmap]
  cases h : findAttr acc.1 (lit "rtpmap") (some p.2) with
  | none => rfl
  | some a =>
    have hname : a.name = lit "rtpmap" := attrMatches_name (List.find?_some h)
    simp only [rtpmaps_removeFound, rtpmaps_append]
    rw [rtpmaps_singleton_eq hname]

lemma movePt_length (acc : List Attr × List Attr) (p : Bytes × Bytes) :
    (movePt acc p).1.length + (movePt acc p).2.length = acc.1.length + acc.2.length := by
  unfold movePt
  cases h : findAttr acc.1 (lit "rtpmap") (some p.2) with
  | none => rfl
  | some a =>
    have := length_removeFound h
    simp only [List.length_append, List.length_singleton]
    omega

lemma symmetricPt_cases (pairs : List (Bytes × Bytes)) (answer : Media)
    (acc : List Attr × List Attr) {p : Bytes × Bytes} (hne : p.2 ≠ p.1) :
    symmetricPt pairs answer acc p = movePt acc p ∨
    ∃ a value, findAttr (movePt acc p).1 (lit "fmtp") (some p.2) = some a ∧
      symmetricPt pairs answer acc p = (removeFound (movePt acc p).1 (lit "fmtp") p.2,
        (movePt acc p).2 ++ [{ a with value := value }]) := by
  unfold symmetricPt
  rw [if_neg hne]
  dsimp only
  cases hr : findAttr acc.1 (lit "rtpmap") (some p.2) with
  | none =>
    have hacc : movePt acc p = acc := by rw [movePt, hr]
    rw [hacc]
    cases h : findAttr acc.1 (lit "fmtp") (some p.2) with
    | none => exact .inl rfl
    | some a => exact .inr ⟨a, _, rfl, rfl⟩
  | some r =>
    have hacc : movePt acc p = (removeFound acc.1 (lit "rtpmap") p.2,
        acc.2 ++ [{ r with value := rewritePt r.value p.2 p.1 }]) := by rw [movePt, hr]
    rw [hacc]
    dsimp only
    cases h : findAttr (removeFound acc.1 (lit "rtpmap") p.2) (lit "fmtp") (some p.2) with
    | none => exact .inl rfl
    | some a => exact .inr ⟨a, _, rfl, rfl⟩

lemma symmetricPt_move (pairs : List (Bytes × Bytes)) (answer : Media)
    (acc : List Attr × List Attr) (p : Bytes × Bytes) :
    let acc' := symmetricPt pairs answer acc p
    (rtpmaps acc'.1, rtpmaps acc'.2) = move (rtpmaps acc.1, rtpmaps acc.2) p ∧
    acc'.1.length + acc'.2.length = acc.1.length + acc.2.length := by
  intro acc'
  by_cases hne : p.2 = p.1
  · have hacc' : acc' = acc := by
      change symmetricPt pairs answer acc p = acc
      unfold symmetricPt
      rw [if_pos hne]
    rw [hacc', move, if_pos hne]
    exact ⟨rfl, rfl⟩
  · rcases symmetricPt_cases pairs answer acc hne with heq | ⟨a, value, hfind, heq⟩
    · rw [show acc' = _ from heq]
      exact ⟨movePt_rtpmaps hne, movePt_length acc p⟩
    · rw [show acc' = _ from heq]
      have hname : a.name ≠ lit "rtpmap" := by
        rw [attrMatches_name (List.find?_some hfind)]
        decide
      have hlen := length_removeFound hfind
      have hlen' := movePt_length acc p
      constructor
      · rw [← movePt_rtpmaps hne, rtpmaps_removeFound_fmtp, rtpmaps_append,
          rtpmaps_singleton_ne hname, List.append_nil]
      · simp only [List.length_append, List.length_singleton]
        omega

lemma foldl_symmetricPt {pairs ps : List (Bytes × Bytes)} {answer : Media}
    (acc : List Attr × List Attr) :
    let acc' := ps.foldl (symmetricPt pairs answer) acc
    (rtpmaps acc'.1, rtpmaps acc'.2) = ps.foldl move (rtpmaps acc.1, rtpmaps acc.2) ∧
    acc'.1.length + acc'.2.length = acc.1.length + acc.2.length := by
  induction ps generalizing acc with
  | nil => exact ⟨rfl, rfl⟩
  | cons p ps ih =>
    obtain ⟨h1, h2⟩ := symmetricPt_move pairs answer acc p
    obtain ⟨h3, h4⟩ := ih (symmetricPt pairs answer acc p)
    rw [List.foldl_cons, List.foldl_cons]
    exact ⟨h3.trans (by rw [h1]), h4.trans h2⟩

lemma foldl_addAttr {as bs : List Attr} (h : as.length + bs.length ≤ maxSdpAttr) :
    bs.foldl addAttr as = as ++ bs := by
  induction bs generalizing as with
  | nil => simp
  | cons b bs ih =>
    have hroom : ¬ as.length ≥ maxSdpAttr := by
      simp only [List.length_cons] at h
      omega
    rw [List.foldl_cons, addAttr, if_neg hroom, ih]
    · simp
    · simp only [List.length_append, List.length_cons, List.length_nil] at h ⊢
      omega

lemma applyAnswerSymmetricPt_rtpmaps {answer : Media} {pairs : List (Bytes × Bytes)}
    (hroom : answer.attrs.length ≤ maxSdpAttr) : rtpmaps (applyAnswerSymmetricPt answer pairs).attrs =
      (pairs.foldl move (rtpmaps answer.attrs, [])).1 ++ (pairs.foldl move (rtpmaps answer.attrs, [])).2 := by
  obtain ⟨h1, h2⟩ := @foldl_symmetricPt pairs pairs answer (answer.attrs, [])
  unfold applyAnswerSymmetricPt
  dsimp only
  rw [foldl_addAttr (by simpa [h2] using hroom), rtpmaps_append]
  have h3 : rtpmaps ([] : List Attr) = [] := rfl
  rw [h3] at h1
  rw [← h1]

section Lookup

variable {maps : List Attr} {acc : List Attr × List Attr} {f g : Bytes} {p : Bytes × Bytes}
  {fmts : List Bytes} {ps : List (Bytes × Bytes)}

lemma isFor_congr (h : fmtPt f = fmtPt g) : isFor f = isFor g := by
  funext a
  simp [isFor, h]

lemma isFor_of_ne {a : Attr} (h : isFor f a = true) (hne : fmtPt g ≠ fmtPt f) : isFor g a = false := by
  simp only [isFor, Bool.and_eq_true, decide_eq_true_eq] at h
  simp [isFor, h.2, hne.symm]

lemma find?_eraseP_isFor (hne : fmtPt g ≠ fmtPt f) :
    (maps.eraseP (isFor g)).find? (isFor f) = maps.find? (isFor f) :=
  find?_eraseP_of_imp (fun _ ha => isFor_of_ne ha hne) maps

lemma find?_eraseFor (hne : ∀ g ∈ fmts, fmtPt g ≠ fmtPt f) :
    (eraseFor fmts maps).find? (isFor f) = maps.find? (isFor f) := by
  induction fmts generalizing maps with
  | nil => rfl
  | cons g fmts ih =>
    calc (eraseFor fmts (maps.eraseP (isFor g))).find? (isFor f)
        = (maps.eraseP (isFor g)).find? (isFor f) := ih fun g' hg' => hne g' (by simp [hg'])
      _ = maps.find? (isFor f) := find?_eraseP_isFor (hne g (by simp))

lemma eraseFor_sublist : (eraseFor fmts maps).Sublist maps := by
  induction fmts generalizing maps with
  | nil => exact List.Sublist.refl _
  | cons g fmts ih => exact ih.trans List.eraseP_sublist

lemma move_sublist : (move acc p).1.Sublist acc.1 := by
  unfold move
  split_ifs
  · exact List.Sublist.refl _
  · split
    · exact List.Sublist.refl _
    · exact List.eraseP_sublist

lemma foldl_move_sublist : (ps.foldl move acc).1.Sublist acc.1 := by
  induction ps generalizing acc with
  | nil => exact List.Sublist.refl _
  | cons p ps ih => exact ih.trans move_sublist

lemma move_fst_find? (hne : p.2 ≠ p.1 → fmtPt p.2 ≠ fmtPt f) :
    (move acc p).1.find? (isFor f) = acc.1.find? (isFor f) := by
  unfold move
  split_ifs with hp
  · rfl
  · split
    · rfl
    · exact find?_eraseP_isFor (hne hp)

lemma foldl_move_fst_find? (hne : ∀ p ∈ ps, p.2 ≠ p.1 → fmtPt p.2 ≠ fmtPt f) :
    (ps.foldl move acc).1.find? (isFor f) = acc.1.find? (isFor f) := by
  induction ps generalizing acc with
  | nil => rfl
  | cons p ps ih =>
    rw [List.foldl_cons, ih fun p' hp' => hne p' (by simp [hp']), move_fst_find? (hne p (by simp))]

def Misses (maps : List Attr) (f : Bytes) (p : Bytes × Bytes) : Prop :=
  p.2 ≠ p.1 → ∀ a ∈ maps, isFor p.2 a = true →
    isFor f { a with value := rewritePt a.value p.2 p.1 } = false

lemma move_snd_find? (hmiss : Misses acc.1 f p) : (move acc p).2.find? (isFor f) = acc.2.find? (isFor f) := by
  unfold move
  split_ifs with hp
  · rfl
  · split
    · rfl
    · rename_i a ha
      have hfor := hmiss hp a (List.mem_of_find?_eq_some ha) (List.find?_some ha)
      simp [List.find?_append, hfor]

lemma foldl_move_snd_find? (hsub : acc.1.Sublist maps) (hmiss : ∀ p ∈ ps, Misses maps f p) :
    (ps.foldl move acc).2.find? (isFor f) = acc.2.find? (isFor f) := by
  induction ps generalizing acc with
  | nil => rfl
  | cons p ps ih =>
    have hp : Misses acc.1 f p := fun hne a ha => hmiss p (by simp) hne a (hsub.subset ha)
    rw [List.foldl_cons, ih (move_sublist.trans hsub) fun p' hp' => hmiss p' (by simp [hp']),
      move_snd_find? hp]

lemma filter_eraseP_self {α : Type*} (q : α → Bool) (l : List α) :
    (l.eraseP q).filter q = (l.filter q).tail := by
  induction l with
  | nil => rfl
  | cons a l ih =>
    cases hq : q a with
    | true => simp [hq]
    | false => simp [hq, ih]

lemma eraseP_gone (hfew : (maps.filter (isFor f)).length ≤ 1) (heq : fmtPt g = fmtPt f) :
    (maps.eraseP (isFor g)).find? (isFor f) = none := by
  have hnil : (maps.eraseP (isFor f)).filter (isFor f) = [] := by
    rw [filter_eraseP_self, ← List.length_eq_zero_iff, List.length_tail]
    omega
  rw [isFor_congr heq, List.find?_eq_none]
  intro a ha hfor
  have : a ∈ (maps.eraseP (isFor f)).filter (isFor f) := List.mem_filter.2 ⟨ha, hfor⟩
  simp [hnil] at this

lemma find?_none_sublist {α : Type*} {q : α → Bool} {l l' : List α} (h : l.Sublist l')
    (hnone : l'.find? q = none) : l.find? q = none := by
  rw [List.find?_eq_none] at hnone ⊢
  exact fun a ha => hnone a (h.subset ha)

lemma eraseFor_gone (hfew : (maps.filter (isFor f)).length ≤ 1) (hg : g ∈ fmts)
    (heq : fmtPt g = fmtPt f) : (eraseFor fmts maps).find? (isFor f) = none := by
  induction fmts generalizing maps with
  | nil => simp at hg
  | cons x fmts ih =>
    rcases List.mem_cons.1 hg with rfl | hg'
    · have hsub : (eraseFor fmts (maps.eraseP (isFor g))).Sublist (maps.eraseP (isFor g)) :=
        eraseFor_sublist
      exact find?_none_sublist hsub (eraseP_gone hfew heq)
    · exact ih (((List.eraseP_sublist.filter _).length_le).trans hfew) hg'

lemma move_gone (hfew : (acc.1.filter (isFor f)).length ≤ 1) (hne : p.2 ≠ p.1)
    (heq : fmtPt p.2 = fmtPt f) : (move acc p).1.find? (isFor f) = none := by
  unfold move
  rw [if_neg hne]
  cases hfind : acc.1.find? (isFor p.2) with
  | none => exact isFor_congr heq ▸ hfind
  | some a => exact eraseP_gone hfew heq

lemma foldl_move_gone (hfew : (acc.1.filter (isFor f)).length ≤ 1) (hp : p ∈ ps)
    (hne : p.2 ≠ p.1) (heq : fmtPt p.2 = fmtPt f) : (ps.foldl move acc).1.find? (isFor f) = none := by
  induction ps generalizing acc with
  | nil => simp at hp
  | cons x ps ih =>
    rcases List.mem_cons.1 hp with rfl | hp'
    · have hsub : (ps.foldl move (move acc p)).1.Sublist (move acc p).1 := foldl_move_sublist
      exact find?_none_sublist hsub (move_gone hfew hne heq)
    · exact ih (((move_sublist.filter _).length_le).trans hfew) hp'

end Lookup

lemma strltrim_of_numeric {f : Bytes} (h : numeric f = true) : strltrim f = f := by
  cases f with
  | nil => rfl
  | cons c f =>
    have hc : isDigit c = true := by simpa [numeric] using h
    simp [strltrim, isSpaceChar_of_isDigit hc]

lemma fmtPt_eq_of_numeric {f : Bytes} (hn : numeric f = true) (hs : (fmtPt f).isSome) :
    fmtPt f = some (strtoul f % 2 ^ 32) := by
  cases f with
  | nil => simp [numeric] at hn
  | cons c f =>
    have hc : isDigit c = true := by simpa [numeric] using hn
    unfold fmtPt strtoul3 at hs ⊢
    rw [strltrim_of_numeric hn] at hs ⊢
    simp only [hc, Bool.true_eq_false, if_false] at hs ⊢
    cases hloop : strtoulLoop 0 (c :: f) with
    | error e => simp [hloop] at hs
    | ok w =>
      obtain ⟨hw, hle⟩ := strtoulLoop_ok (Nat.zero_le _) hloop
      have hmod : strtoul (c :: f) = w := by
        have hlt : w < 2 ^ 64 := by
          unfold maxUlong at hle
          omega
        change digitsFrom 0 (c :: f) % 2 ^ 64 = w
        rw [← hw, Nat.mod_eq_of_lt hlt]
      simp only [hmod]

lemma valuePt_spelled (f t : Bytes) :
    valuePt (f ++ 32 :: t) = if numeric f then some (strtoul f % 2 ^ 32) else none := by
  have htake : (f ++ 32 :: t).takeWhile isDigit = f.takeWhile isDigit := by
    induction f with
    | nil => rfl
    | cons c f ih => simp only [List.cons_append, List.takeWhile_cons, ih]
  have hhead : (f ++ 32 :: t).head?.any isDigit = numeric f := by
    cases f with
    | nil => rfl
    | cons c f => rfl
  unfold valuePt strtoul
  rw [hhead, htake]

lemma isSpace_of_csToken {c : UInt8} (h : csToken c = true) : Scanner.isSpace c = false := by
  by_contra hs
  have hc : c = 32 ∨ c = 9 := by
    simp only [Scanner.isSpace, Bool.not_eq_false, Bool.or_eq_true, decide_eq_true_eq] at hs
    exact hs
  rcases hc with rfl | rfl <;> revert h <;> decide

lemma get_token {f : Bytes} (hf : IsToken f) (t : Bytes) :
    (Scanner.get csToken).run (Scanner.init (f ++ 32 :: t) .ws) =
      .ok (f, ⟨Scanner.skipWhitespace .ws (32 :: t), .ws⟩) := by
  obtain ⟨hne, hall⟩ := hf
  have hinit : Scanner.init (f ++ 32 :: t) .ws = ⟨f ++ 32 :: t, .ws⟩ := by
    cases f with
    | nil => exact absurd rfl hne
    | cons c f =>
      have hc := isSpace_of_csToken (hall c (by simp))
      simp [Scanner.init, Scanner.skipWhitespace, hc]
  have h32 : csToken 32 = false := by decide
  have htake : (f ++ 32 :: t).takeWhile csToken = f := by
    rw [List.takeWhile_append_of_pos hall, List.takeWhile_cons, h32]
    simp
  have hdrop : (f ++ 32 :: t).dropWhile csToken = 32 :: t := by
    rw [List.dropWhile_append_of_pos hall, List.dropWhile_cons, h32]
    simp
  rw [hinit]
  simp only [Scanner.get, StateT.run, htake, hdrop, hne, if_false]
  rfl

lemma getRtpmap_token {f g : Bytes} (hf : IsToken f) (hg : IsToken g) (t : Bytes) :
    getRtpmap (f ++ 32 :: t) = getRtpmap (g ++ 32 :: t) := by
  have hname : ∀ {x : Bytes}, IsToken x →
      StateT.run (do let _ ← Scanner.get csToken; Scanner.get csToken : Scanner.Scan Bytes)
        (Scanner.init (x ++ 32 :: t) .ws) =
      (Scanner.get csToken).run ⟨Scanner.skipWhitespace .ws (32 :: t), .ws⟩ := by
    intro x hx
    rw [StateT.run_bind, get_token hx]
    rfl
  unfold getRtpmap
  dsimp only
  rw [hname hf, hname hg]

end PjProject.SdpOffer
