import Mathlib.Data.List.TakeWhile
import PjProject.SdpOfferRtpmap
import PjProject.SdpPtMap

/-!
# Comparing session descriptions

`pjmedia_sdp_session_cmp` without a registered callback. The attributes are compared in both
directions, and only direction, fmtp and rtpmap attributes count. The comparison is symmetric and
transitive, but a session with an attribute that cannot be read is not equal to itself.
-/
namespace PjProject.SdpNeg

open Sdp (Attr findAttr fmtPt valuePt attrMatches)
open SdpText (Media Session Conn Origin isDirAttr)

/-- `compare_conn` where both are there; otherwise neither may be. -/
def connCmp : Option Conn → Option Conn → Bool
  | some c1, some c2 => c1.netType = c2.netType && c1.addrType = c2.addrType && c1.addr = c2.addr
  | none, none => true
  | _, _ => false

def fmtpCovered (attrs : List Attr) (a : Attr) : Bool :=
  match getFmtp a.value with
  | none => false
  | some (fmt, param) =>
    match (findAttr attrs a.name (some fmt)).bind fun a2 => getFmtp a2.value with
    | none => false
    | some (_, param2) => param = param2

def rtpmapCovered (attrs : List Attr) (a : Attr) : Bool :=
  match getRtpmap a.value with
  | none => false
  | some r =>
    match (findAttr attrs a.name (some r.pt)).bind fun a2 => getRtpmap a2.value with
    | none => false
    | some r2 => r = r2

/-- One attribute in `compare_attr_imp`: the other list has its like. -/
def attrCovered (attrs : List Attr) (a : Attr) : Bool :=
  if isDirAttr a || a.name = lit "sendrecv" then (findAttr attrs a.name none).isSome
  else if a.name = lit "fmtp" then fmtpCovered attrs a
  else if a.name = lit "rtpmap" then rtpmapCovered attrs a
  else true

/-- `compare_attr` -/
def attrsCmp (attrs1 attrs2 : List Attr) : Bool :=
  attrs1.all (attrCovered attrs2) && attrs2.all (attrCovered attrs1)

/-- `pjmedia_sdp_media_cmp`; of a line with port zero only the first fields count. -/
def mediaCmp (m1 m2 : Media) : Bool :=
  m1.media = m2.media && m1.port = m2.port && m1.portCount = m2.portCount &&
    m1.transport = m2.transport &&
    (m1.port = 0 || m1.fmts = m2.fmts && connCmp m1.conn m2.conn && attrsCmp m1.attrs m2.attrs)

def mediasCmp : List Media → List Media → Bool
  | [], [] => true
  | m1 :: l1, m2 :: l2 => mediaCmp m1 m2 && mediasCmp l1 l2
  | _, _ => false

/-- `pjmedia_sdp_session_cmp(s1, s2, 0) == PJ_SUCCESS` -/
def sessionCmp (s1 s2 : Session) : Bool :=
  s1.origin = s2.origin && s1.name = s2.name && connCmp s1.conn s2.conn &&
    s1.start = s2.start && s1.stop = s2.stop && attrsCmp s1.attrs s2.attrs &&
    mediasCmp s1.media s2.media

lemma connCmp_trans {c1 c2 c3 : Option Conn} (h : connCmp c1 c2 = true)
    (h' : connCmp c2 c3 = true) : connCmp c1 c3 = true := by
  unfold connCmp at *
  grind

lemma findAttr_congr {f g : Bytes} (h : fmtPt f = fmtPt g) (attrs : List Attr) (name : Bytes) :
    findAttr attrs name (some f) = findAttr attrs name (some g) := by
  have hm : attrMatches name (some f) = attrMatches name (some g) := by
    funext a
    simp only [attrMatches, h]
  rw [findAttr, findAttr, hm]

variable {attrs : List Attr} {a : Attr}

lemma findAttr_some {name : Bytes} {fmt : Option Bytes} (h : findAttr attrs name fmt = some a) :
    a ∈ attrs ∧ a.name = name ∧ ∀ f ∈ fmt, (fmtPt f).isSome ∧ valuePt a.value = fmtPt f := by
  have hmatch := List.find?_some h
  refine ⟨List.mem_of_find?_eq_some h, Sdp.attrMatches_name hmatch, ?_⟩
  rintro f rfl
  simp only [attrMatches, Bool.and_eq_true, decide_eq_true_eq] at hmatch
  exact hmatch.2

lemma fmtpCovered_iff :
    fmtpCovered attrs a = true ↔ ∃ fmt param a2 fmt2, getFmtp a.value = some (fmt, param) ∧
      findAttr attrs a.name (some fmt) = some a2 ∧ getFmtp a2.value = some (fmt2, param) := by
  unfold fmtpCovered
  constructor
  · intro h
    split at h
    · cases h
    · rename_i fmt param hget
      split at h
      · cases h
      · rename_i fmt2 param2 hget2
        obtain rfl : param = param2 := by simpa using h
        obtain ⟨a2, hfind, hget2⟩ := Option.bind_eq_some_iff.1 hget2
        exact ⟨fmt, param, a2, fmt2, hget, hfind, hget2⟩
  · rintro ⟨fmt, param, a2, fmt2, hget, hfind, hget2⟩
    simp [hget, hfind, hget2]

lemma rtpmapCovered_iff : rtpmapCovered attrs a = true ↔ ∃ r a2, getRtpmap a.value = some r ∧
      findAttr attrs a.name (some r.pt) = some a2 ∧ getRtpmap a2.value = some r := by
  unfold rtpmapCovered
  constructor
  · intro h
    split at h
    · cases h
    · rename_i r hget
      split at h
      · cases h
      · rename_i r2 hget2
        obtain rfl : r = r2 := by simpa using h
        obtain ⟨a2, hfind, hget2⟩ := Option.bind_eq_some_iff.1 hget2
        exact ⟨r, a2, hget, hfind, hget2⟩
  · rintro ⟨r, a2, hget, hfind, hget2⟩
    simp [hget, hfind, hget2]

lemma getFmtp_fmt {value fmt param : Bytes} (h : getFmtp value = some (fmt, param)) :
    fmt = value.takeWhile isDigit ∧ fmt ≠ [] := by
  unfold getFmtp at h
  grind

lemma strtoul_takeWhile (value : Bytes) : Sdp.strtoul (value.takeWhile isDigit) = Sdp.strtoul value := by
  rw [Sdp.strtoul, Sdp.strtoul, List.takeWhile_idem]

lemma getFmtp_valuePt {value fmt param : Bytes} (h : getFmtp value = some (fmt, param))
    (hs : (fmtPt fmt).isSome) : valuePt value = fmtPt fmt := by
  obtain ⟨rfl, hne⟩ := getFmtp_fmt h
  cases value with
  | nil => simp at hne
  | cons c value =>
    have hc : isDigit c = true := by
      by_contra hc
      simp [hc] at hne
    have hn : SdpOffer.numeric ((c :: value).takeWhile isDigit) = true := by
      simp [SdpOffer.numeric, hc]
    rw [SdpOffer.fmtPt_eq_of_numeric hn hs, strtoul_takeWhile]
    simp [valuePt, hc]

lemma attrCovered_trans {l2 l3 : List Attr} (h : attrCovered l2 a = true)
    (h' : l2.all (attrCovered l3) = true) : attrCovered l3 a = true := by
  have hstep : ∀ {fmt : Option Bytes} {a2 : Attr}, findAttr l2 a.name fmt = some a2 →
      a2.name = a.name ∧ attrCovered l3 a2 = true := fun hfind =>
    ⟨(findAttr_some hfind).2.1, List.all_eq_true.1 h' _ (findAttr_some hfind).1⟩
  unfold attrCovered at h ⊢
  split_ifs at h ⊢ with hdir hfmtp hrtpmap
  · obtain ⟨a2, hfind⟩ := Option.isSome_iff_exists.1 h
    obtain ⟨hname, hcov⟩ := hstep hfind
    have hdir2 : (isDirAttr a2 || a2.name = lit "sendrecv") = true := by
      simpa only [isDirAttr, hname] using hdir
    rw [attrCovered, if_pos hdir2, hname] at hcov
    exact hcov
  · obtain ⟨fmt, param, a2, fmt2, hget, hfind, hget2⟩ := fmtpCovered_iff.1 h
    obtain ⟨hname, hcov⟩ := hstep hfind
    have hdir2 : ¬ (isDirAttr a2 || a2.name = lit "sendrecv") = true := by
      simpa only [isDirAttr, hname] using hdir
    rw [attrCovered, if_neg hdir2, if_pos (hname.trans hfmtp)] at hcov
    obtain ⟨f, p, a3, fmt3, hget2', hfind3, hget3⟩ := fmtpCovered_iff.1 hcov
    obtain ⟨rfl, rfl⟩ : fmt2 = f ∧ param = p := by
      rw [hget2] at hget2'
      simpa using hget2'
    -- both formats are the number of the attribute in the middle
    have hmid := (findAttr_some hfind).2.2 fmt rfl
    have hfmt2 := ((findAttr_some hfind3).2.2 fmt2 rfl).1
    have hpt : fmtPt fmt = fmtPt fmt2 := hmid.2.symm.trans (getFmtp_valuePt hget2 hfmt2)
    refine fmtpCovered_iff.2 ⟨fmt, param, a3, fmt3, hget, ?_, hget3⟩
    rw [findAttr_congr hpt, ← hname, hfind3]
  · obtain ⟨r, a2, hget, hfind, hget2⟩ := rtpmapCovered_iff.1 h
    obtain ⟨hname, hcov⟩ := hstep hfind
    have hdir2 : ¬ (isDirAttr a2 || a2.name = lit "sendrecv") = true := by
      simpa only [isDirAttr, hname] using hdir
    rw [attrCovered, if_neg hdir2, if_neg (hname ▸ hfmtp), if_pos (hname.trans hrtpmap)] at hcov
    obtain ⟨r2, a3, hget2', hfind3, hget3⟩ := rtpmapCovered_iff.1 hcov
    obtain rfl : r = r2 := by
      rw [hget2] at hget2'
      simpa using hget2'
    exact rtpmapCovered_iff.2 ⟨r, a3, hget, hname ▸ hfind3, hget3⟩
  · rfl

lemma attrsCmp_trans {l1 l2 l3 : List Attr} (h : attrsCmp l1 l2 = true)
    (h' : attrsCmp l2 l3 = true) : attrsCmp l1 l3 = true := by
  simp only [attrsCmp, Bool.and_eq_true] at *
  constructor
  · exact List.all_eq_true.2 fun a ha => attrCovered_trans (List.all_eq_true.1 h.1 a ha) h'.1
  · exact List.all_eq_true.2 fun a ha => attrCovered_trans (List.all_eq_true.1 h'.2 a ha) h.2

lemma mediaCmp_trans {m1 m2 m3 : Media} (h : mediaCmp m1 m2 = true)
    (h' : mediaCmp m2 m3 = true) : mediaCmp m1 m3 = true := by
  simp only [mediaCmp, Bool.and_eq_true, Bool.or_eq_true, decide_eq_true_eq] at *
  obtain ⟨⟨⟨⟨h1, h2⟩, h3⟩, h4⟩, h5⟩ := h
  obtain ⟨⟨⟨⟨h1', h2'⟩, h3'⟩, h4'⟩, h5'⟩ := h'
  refine ⟨⟨⟨⟨h1.trans h1', h2.trans h2'⟩, h3.trans h3'⟩, h4.trans h4'⟩, ?_⟩
  rcases h5 with h5 | ⟨⟨h5, h6⟩, h7⟩
  · exact .inl h5
  rcases h5' with h5' | ⟨⟨h5', h6'⟩, h7'⟩
  · exact .inl (h2.trans h5')
  · exact .inr ⟨⟨h5.trans h5', connCmp_trans h6 h6'⟩, attrsCmp_trans h7 h7'⟩

lemma mediasCmp_trans {l1 l2 l3 : List Media} (h : mediasCmp l1 l2 = true)
    (h' : mediasCmp l2 l3 = true) : mediasCmp l1 l3 = true := by
  induction l1 generalizing l2 l3 with
  | nil =>
    cases l2 with
    | nil => exact h'
    | cons m2 l2 => simp [mediasCmp] at h
  | cons m1 l1 ih =>
    cases l2 with
    | nil => simp [mediasCmp] at h
    | cons m2 l2 =>
      cases l3 with
      | nil => simp [mediasCmp] at h'
      | cons m3 l3 =>
        simp only [mediasCmp, Bool.and_eq_true] at *
        exact ⟨mediaCmp_trans h.1 h'.1, ih h.2 h'.2⟩

lemma sessionCmp_trans {s1 s2 s3 : Session} (h : sessionCmp s1 s2 = true)
    (h' : sessionCmp s2 s3 = true) : sessionCmp s1 s3 = true := by
  simp only [sessionCmp, Bool.and_eq_true, decide_eq_true_eq] at *
  obtain ⟨⟨⟨⟨⟨⟨h1, h2⟩, h3⟩, h4⟩, h5⟩, h6⟩, h7⟩ := h
  obtain ⟨⟨⟨⟨⟨⟨h1', h2'⟩, h3'⟩, h4'⟩, h5'⟩, h6'⟩, h7'⟩ := h'
  exact ⟨⟨⟨⟨⟨⟨h1.trans h1', h2.trans h2'⟩, connCmp_trans h3 h3'⟩, h4.trans h4'⟩, h5.trans h5'⟩,
    attrsCmp_trans h6 h6'⟩, mediasCmp_trans h7 h7'⟩

lemma sessionCmp_origin {s1 s2 : Session} (h : sessionCmp s1 s2 = true) : s1.origin = s2.origin := by
  simp only [sessionCmp, Bool.and_eq_true, decide_eq_true_eq] at h
  exact h.1.1.1.1.1.1

end PjProject.SdpNeg
