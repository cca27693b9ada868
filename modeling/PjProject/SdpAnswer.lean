import PjProject.ExchangeSort
import PjProject.Sdp

/-!
# Processing a remote answer

`process_answer` walks over the local offer and the remote answer and turns both into
the active descriptions of the session. Streams are later created with one index for
both, so that the two must be aligned; the theorem says exactly when they are.
-/
namespace PjProject.SdpAnswer

open Sdp

inductive Status
  | success | einvansmedia | einvanstp | eansnomedia | ebug | enomedia | einstate
  deriving DecidableEq

/-- `custom_fmt_match` with option 0: offer, format index, answer, format index. -/
abbrev FmtMatch := Media → ℕ → Media → ℕ → Bool

def withChannel (isAudio : Bool) (r : Rtpmap) : Rtpmap :=
  if isAudio ∧ r.param.length = 0 then { r with param := lit "1" } else r

def isAudio (m : Media) : Bool := m.media = lit "audio"

def rtpmapEq (audio : Bool) (o a : Rtpmap) : Bool :=
  let o := withChannel audio o
  let a := withChannel audio a
  stricmpEq o.encName a.encName && o.clockRate = a.clockRate && stricmpEq o.param a.param

/-- The payload type of an offered format: an `unsigned`. -/
def payloadType (fmt : Bytes) : ℕ := strtoul fmt % 2 ^ 32

/-- The first answer format that matches the `i`-th format of the offer. -/
def findMatching (cb : FmtMatch) (offer answer : Media) (i : ℕ) (fmt : Bytes) :
    Except Status (Option ℕ) :=
  if payloadType fmt < 96 then .ok (answer.fmts.findIdx? (· = fmt))
  else
    match rtpmapOf offer.attrs fmt with
    | none => .error .ebug
    | some o =>
      .ok ((List.range answer.fmts.length).find? fun j =>
        match rtpmapOf answer.attrs (answer.fmts.getD j []) with
        | none => false
        | some a => rtpmapEq (isAudio offer) o a && cb offer i answer j)

/-- The formats of the offer that have a match, each with the index of its match, the
others, and the offer without them. -/
structure Matched where
  kept : List (Bytes × ℕ)
  dropped : List Bytes
  offer : Media

/-- Remove all formats of the offer that have no matching answer. The formats before the
current one are those kept so far. -/
def matchFormats (cb : FmtMatch) (answer : Media) : Matched → List Bytes → Except Status Matched
  | r, [] => .ok r
  | r, fmt :: rest =>
    match findMatching cb r.offer answer r.kept.length fmt with
    | .error status => .error status
    | .ok none =>
      matchFormats cb answer
        { r with
          dropped := r.dropped ++ [fmt]
          offer := { r.offer with
            fmts := r.kept.map (·.1) ++ rest
            attrs := removeFmtAttrs r.offer.attrs fmt } } rest
    | .ok (some j) => matchFormats cb answer { r with kept := r.kept ++ [(fmt, j)] } rest

/-- Remove the unmatched formats of the answer. `priors` are the matched indices of the
formats of the offer from the current position on, `idx` the original index of the
current answer format. A format stays if it is the one matched at its position. -/
def dropUnmatched : List ℕ → ℕ → List Bytes → List Attr → List Bytes × List Attr
  | _, _, [], attrs => ([], attrs)
  | priors, idx, fmt :: rest, attrs =>
    match priors with
    | p :: ps =>
      if p = idx then
        let (fmts, attrs) := dropUnmatched ps (idx + 1) rest attrs
        (fmt :: fmts, attrs)
      else dropUnmatched priors (idx + 1) rest (removeFmtAttrs attrs fmt)
    | [] => dropUnmatched [] (idx + 1) rest (removeFmtAttrs attrs fmt)

/-- The choice of formats that `process_m_answer` makes for an active media line, after it
has adjusted the direction. -/
def chosen (cb : FmtMatch) (offer answer : Media) : Except Status Matched :=
  let offer := updateMediaDirection answer offer
  matchFormats cb answer ⟨[], [], offer⟩ offer.fmts

/-- The last part of `process_m_answer`: order the kept formats of the offer as in the
answer, and drop the formats of the answer that were not matched. -/
def applyChoice (r : Matched) (answer : Media) : Media × Media :=
  let sorted := ExchangeSort.sort (·.2) r.kept.length r.kept
  let left := dropUnmatched (sorted.map (·.2)) 0 answer.fmts answer.attrs
  ({ r.offer with fmts := sorted.map (·.1) }, { answer with fmts := left.1, attrs := left.2 })

def hasCommon (offer answer : Media) : Bool :=
  answer.fmts.any fun fmt => (answer.fmts.take offer.fmts.length).contains fmt

/-- `process_m_answer`: the status, and the two media lines as it leaves them. -/
def processMAnswer (cb : FmtMatch) (allowAsym : Bool) (offer answer : Media) :
    Status × Media × Media :=
  if answer.media ≠ offer.media then (.einvansmedia, offer, answer)
  else if answer.port = 0 then (.success, deactivate offer, answer)
  else if transportCmpEq answer.transport offer.transport = false then (.einvanstp, offer, answer)
  else if offer.port = 0 then (.success, offer, answer)
  else if allowAsym then
    let offer := updateMediaDirection answer offer
    if hasCommon offer answer then (.success, offer, answer) else (.eansnomedia, offer, answer)
  else
    match chosen cb offer answer with
    | .error status => (status, offer, answer)
    | .ok r =>
      if r.kept = [] then (.eansnomedia, r.offer, answer) else (.success, applyChoice r answer)

/-- The loop of `process_answer`, from the current positions in the offer and the answer.
A mismatch of the media type does not advance in the answer. -/
def processMedia (cb : FmtMatch) (allowAsym : Bool) (sessConn : Option Conn) :
    List Media → List Media → Except Status (List Media × List Media × Bool)
  | [], answers => .ok ([], answers, false)
  | offer :: offers, [] => do
    let (os, as, active) ← processMedia cb allowAsym sessConn offers []
    .ok (deactivate offer :: os, cloneDeactivate offer offer sessConn :: as, active)
  | offer :: offers, answer :: answers =>
    match processMAnswer cb allowAsym offer answer with
    | (.einvansmedia, o, _) => do
      let (os, as, active) ← processMedia cb allowAsym sessConn offers (answer :: answers)
      .ok (deactivate o :: os, as, active)
    | (.eansnomedia, o, a) => do
      let (os, as, active) ← processMedia cb allowAsym sessConn offers answers
      .ok (deactivate o :: os, deactivate a :: as, active)
    | (.success, o, a) => do
      let (os, as, active) ← processMedia cb allowAsym sessConn offers answers
      .ok (o :: os, a :: as, o.port ≠ 0 || active)
    | (status, _, _) => .error status

/-- `process_answer`: the active local and remote media. -/
def processAnswer (cb : FmtMatch) (allowAsym : Bool) (sessConn : Option Conn)
    (offer answer : List Media) : Except Status (List Media × List Media) :=
  match processMedia cb allowAsym sessConn offer answer with
  | .error status => .error status
  | .ok (os, as, active) => if active then .ok (os, as) else .error .enomedia

inductive NegState
  | null | localOffer | remoteOffer | waitNego | done
  deriving DecidableEq

/-- `pjmedia_sdp_neg`; `negRemoteSdp` is set in every state that waits for negotiation. -/
structure Neg where
  state : NegState
  hasRemoteAnswer : Bool
  answerWasRemote : Bool
  negLocalSdp : Option Session
  negRemoteSdp : Option Session
  activeLocalSdp : Option Session
  activeRemoteSdp : Option Session

/-- `pjmedia_sdp_neg_negotiate` when the remote party has answered. The state is done
whatever the outcome, and the active descriptions change on success only. -/
def negotiateAnswer (cb : FmtMatch) (allowAsym : Bool) (neg : Neg) : Status × Neg :=
  if neg.state ≠ .waitNego then (.einstate, neg)
  else
    match neg.negLocalSdp, neg.negRemoteSdp with
    | some loc, some rem =>
      let done := { neg with
        state := .done, answerWasRemote := neg.hasRemoteAnswer, hasRemoteAnswer := false
        negLocalSdp := none, negRemoteSdp := none }
      match processAnswer cb allowAsym loc.conn loc.media rem.media with
      | .error status => (status, done)
      | .ok (os, as) =>
        (.success, { done with
          activeLocalSdp := some { loc with media := os }
          activeRemoteSdp := some { rem with media := as } })
    | _, _ => (.ebug, neg)

/-- The formats whose index, counted from `idx`, is not listed. -/
def unmatched (js : List ℕ) : ℕ → List Bytes → List Bytes
  | _, [] => []
  | idx, fmt :: rest =>
    if idx ∈ js then unmatched js (idx + 1) rest else fmt :: unmatched js (idx + 1) rest

variable {js : List ℕ} {idx : ℕ}

lemma unmatched_congr {ks : List ℕ} (h : ∀ j, idx ≤ j → (j ∈ js ↔ j ∈ ks))
    (fmts : List Bytes) : unmatched js idx fmts = unmatched ks idx fmts := by
  induction fmts generalizing idx with
  | nil => rfl
  | cons fmt rest ih =>
    have hrest := @ih (idx + 1) fun j hj => h j (by omega)
    simp only [unmatched, h idx le_rfl, hrest]

lemma dropUnmatched_passed {p : ℕ} (h : p < idx) (ps : List ℕ) (fmts : List Bytes)
    (attrs : List Attr) : (dropUnmatched (p :: ps) idx fmts attrs).1 = [] := by
  induction fmts generalizing idx attrs with
  | nil => rfl
  | cons fmt rest ih =>
    have hne : p ≠ idx := by omega
    simp only [dropUnmatched, if_neg hne]
    exact ih (by omega) _

variable {fmts : List Bytes}

lemma dropUnmatched_distinct
    (hs : js.Pairwise (· < ·)) (hlo : ∀ j ∈ js, idx ≤ j) (hhi : ∀ j ∈ js, j < idx + fmts.length)
    (attrs : List Attr) : dropUnmatched js idx fmts attrs = (js.map fun j => fmts.getD (j - idx) [],
        (unmatched js idx fmts).foldl removeFmtAttrs attrs) := by
  induction fmts generalizing js idx attrs with
  | nil =>
    cases js with
    | nil => rfl
    | cons j js =>
      have h1 := hlo j (by simp)
      have h2 := hhi j (by simp)
      simp only [List.length_nil] at h2
      omega
  | cons fmt rest ih =>
    cases js with
    | nil =>
      have := @ih [] (idx + 1) List.Pairwise.nil (by simp) (by simp)
        (removeFmtAttrs attrs fmt)
      simp only [dropUnmatched, unmatched, List.not_mem_nil, if_false, List.foldl_cons, this]
      rfl
    | cons j js =>
      obtain ⟨hj, hjs⟩ := List.pairwise_cons.1 hs
      by_cases hji : j = idx
      · subst hji
        have htail := @ih js (j + 1) hjs (fun k hk => hj k hk)
          (fun k hk => by
            have := hhi k (by simp [hk])
            simp only [List.length_cons] at this
            omega) attrs
        have hcongr : unmatched (j :: js) (j + 1) rest = unmatched js (j + 1) rest := by
          refine unmatched_congr (fun k hk => ?_) rest
          simp [show k ≠ j by omega]
        have hmap : (js.map fun k => (fmt :: rest).getD (k - j) []) =
            js.map fun k => rest.getD (k - (j + 1)) [] := by
          refine List.map_congr_left fun k hk => ?_
          have hlt := hj k hk
          obtain ⟨d, rfl⟩ : ∃ d, k = j + 1 + d := ⟨k - (j + 1), by omega⟩
          simp [show j + 1 + d - j = d + 1 by omega]
        simp only [dropUnmatched, if_true, htail, unmatched, List.mem_cons, true_or, hcongr,
          List.map_cons, Nat.sub_self, List.getD_cons_zero, hmap]
      · have hlt : idx < j := by
          have := hlo j (by simp)
          omega
        have hall : ∀ k ∈ j :: js, idx + 1 ≤ k := by
          intro k hk
          rcases List.mem_cons.1 hk with rfl | hk
          · exact hlt
          · have := hj k hk
            omega
        have htail := @ih (j :: js) (idx + 1) hs hall
          (fun k hk => by
            have := hhi k hk
            simp only [List.length_cons] at this
            omega) (removeFmtAttrs attrs fmt)
        have hnot : idx ∉ j :: js := fun hm => by
          have := hall idx hm
          omega
        have hmap : ((j :: js).map fun k => (fmt :: rest).getD (k - idx) []) =
            (j :: js).map fun k => rest.getD (k - (idx + 1)) [] := by
          refine List.map_congr_left fun k hk => ?_
          have hlt := hall k hk
          obtain ⟨d, rfl⟩ : ∃ d, k = idx + 1 + d := ⟨k - (idx + 1), by omega⟩
          simp [show idx + 1 + d - idx = d + 1 by omega]
        simp only [dropUnmatched, if_neg hji, htail, unmatched, if_neg hnot, List.foldl_cons, hmap]

lemma dropUnmatched_length {attrs : List Attr} (hs : js.Pairwise (· ≤ ·))
    (hlen : (dropUnmatched js idx fmts attrs).1.length = js.length) : js.Pairwise (· < ·) := by
  induction fmts generalizing js idx attrs with
  | nil =>
    cases js with
    | nil => exact List.Pairwise.nil
    | cons j js => simp [dropUnmatched] at hlen
  | cons fmt rest ih =>
    cases js with
    | nil => exact List.Pairwise.nil
    | cons j js =>
      obtain ⟨hj, hjs⟩ := List.pairwise_cons.1 hs
      by_cases hji : j = idx
      · simp only [dropUnmatched, hji, if_true, List.length_cons, Nat.add_right_cancel_iff] at hlen
        refine List.pairwise_cons.2 ⟨fun k hk => ?_, ih hjs hlen⟩
        have hle := hj k hk
        by_contra hc
        have hkj : k = j := by omega
        -- a second format matched here: its index is passed over
        cases js with
        | nil => simp at hk
        | cons l ls =>
          have hl : l ≤ k := by
            rcases List.mem_cons.1 hk with rfl | hk
            · exact le_rfl
            · exact (List.pairwise_cons.1 hjs).1 k hk
          rw [dropUnmatched_passed (by omega) ls rest attrs] at hlen
          simp at hlen
      · simp only [dropUnmatched, if_neg hji] at hlen
        exact ih hs hlen

def FormatMatches (offer answer : Media) (f g : Bytes) : Prop :=
  if payloadType f < 96 then f = g
  else ∃ o a, rtpmapOf offer.attrs f = some o ∧ rtpmapOf answer.attrs g = some a ∧
    rtpmapEq (isAudio offer) o a = true

variable {cb : FmtMatch} {offer answer : Media}

lemma findMatching_some {i j : ℕ} {fmt : Bytes} (h : findMatching cb offer answer i fmt = .ok (some j)) :
    ∃ g, answer.fmts[j]? = some g ∧ FormatMatches offer answer fmt g := by
  unfold findMatching at h
  split_ifs at h with hpt
  · simp only [Except.ok.injEq, List.findIdx?_eq_some_iff_getElem] at h
    obtain ⟨hj, hg, -⟩ := h
    refine ⟨fmt, ?_, by simp [FormatMatches, hpt]⟩
    rw [List.getElem?_eq_getElem hj]
    simpa using hg
  · cases ho : rtpmapOf offer.attrs fmt with
    | none => simp [ho] at h
    | some o =>
      simp only [ho, Except.ok.injEq] at h
      have hj := List.mem_range.1 (List.mem_of_find?_eq_some h)
      have hm := List.find?_some h
      have hg : answer.fmts.getD j [] = answer.fmts[j] := by simp [hj]
      refine ⟨answer.fmts[j], List.getElem?_eq_getElem hj, ?_⟩
      rw [hg] at hm
      cases ha : rtpmapOf answer.attrs answer.fmts[j] with
      | none => simp [ha] at hm
      | some a =>
        simp only [ha, Bool.and_eq_true] at hm
        simp only [FormatMatches, if_neg hpt]
        exact ⟨o, a, ho, ha, hm.1⟩

variable {status : Status}

lemma findMatching_error {i : ℕ} {fmt : Bytes} (h : findMatching cb offer answer i fmt = .error status) :
    status = .ebug := by
  unfold findMatching at h
  split_ifs at h
  split at h
  · cases h
    rfl
  · cases h

variable {r : Matched}

lemma matchFormats_error (h : matchFormats cb answer r fmts = .error status) : status = .ebug := by
  induction fmts generalizing r with
  | nil => cases h
  | cons fmt rest ih =>
    simp only [matchFormats] at h
    split at h
    · rename_i st hst
      cases h
      exact findMatching_error hst
    · exact ih h
    · exact ih h

/-- The loop over the formats of the offer removes the attributes of those it drops, and
each format that it keeps matched, with the attributes that were there at that time. -/
structure Matched.Ok (answer offer : Media) (r : Matched) : Prop where
  attrs : r.offer.attrs = r.dropped.foldl removeFmtAttrs offer.attrs
  media : r.offer.media = offer.media
  port : r.offer.port = offer.port
  kept : ∀ p ∈ r.kept, ∃ ds g, ds <+: r.dropped ∧ answer.fmts[p.2]? = some g ∧
    FormatMatches { offer with attrs := ds.foldl removeFmtAttrs offer.attrs } answer p.1 g

lemma matchFormats_ok {r' : Matched} (hr : r.Ok answer offer) (h : matchFormats cb answer r fmts = .ok r') :
    r'.Ok answer offer := by
  induction fmts generalizing r with
  | nil =>
    cases h
    exact hr
  | cons fmt rest ih =>
    simp only [matchFormats] at h
    split at h
    · cases h
    · refine ih ?_ h
      refine ⟨?_, hr.media, hr.port, ?_⟩
      · simp [hr.attrs]
      · intro p hp
        obtain ⟨ds, g, hds, hg, hm⟩ := hr.kept p hp
        exact ⟨ds, g, hds.trans (List.prefix_append _ _), hg, hm⟩
    · rename_i j hj
      refine ih ?_ h
      refine ⟨hr.attrs, hr.media, hr.port, ?_⟩
      intro p hp
      rcases List.mem_append.1 hp with hp | hp
      · exact hr.kept p hp
      · obtain rfl := List.mem_singleton.1 hp
        obtain ⟨g, hg, hm⟩ := findMatching_some hj
        refine ⟨r.dropped, g, List.prefix_refl _, hg, ?_⟩
        rw [← hr.attrs]
        simpa only [FormatMatches, isAudio, hr.media] using hm

/-- Some format that is dropped, of the offer or of the answer, has the payload type of the
kept pair `p`, so that an rtpmap of the pair goes with it. -/
def SharesPayload (r : Matched) (answer : Media) (p : Bytes × ℕ) : Prop :=
  (∃ f ∈ r.dropped, fmtPt f = fmtPt p.1) ∨
  ∃ g ∈ unmatched (r.kept.map (·.2)) 0 answer.fmts, fmtPt g = fmtPt (answer.fmts.getD p.2 [])

def strip (r : Matched) (answer : Media) : Media :=
  { answer with
    attrs := (unmatched (r.kept.map (·.2)) 0 answer.fmts).foldl removeFmtAttrs answer.attrs }

/-- No two formats of the offer choose the same answer format, and where a dropped format
has the payload type of a kept dynamic one, another matching rtpmap is left. -/
def ChoosesApart (cb : FmtMatch) (offer answer : Media) : Prop :=
  ∀ r, chosen cb offer answer = .ok r →
    (r.kept.map (·.2)).Nodup ∧
    ∀ p ∈ r.kept, 96 ≤ payloadType p.1 → SharesPayload r answer p →
      FormatMatches r.offer (strip r answer) p.1 (answer.fmts.getD p.2 [])

def SameFormats (loc rem : Media) : Prop :=
  loc.fmts.length = rem.fmts.length ∧
  ∀ (k : ℕ) f g, loc.fmts[k]? = some f → rem.fmts[k]? = some g → FormatMatches loc rem f g

lemma chosen_ok (h : chosen cb offer answer = .ok r) : r.Ok answer (updateMediaDirection answer offer) := by
  refine matchFormats_ok ?_ h
  exact ⟨rfl, rfl, rfl, by simp⟩

lemma kept_matches (hr : r.Ok answer offer)
    {p : Bytes × ℕ} (hp : p ∈ r.kept) (hs : ¬ (96 ≤ payloadType p.1 ∧ SharesPayload r answer p)) :
    FormatMatches r.offer (strip r answer) p.1 (answer.fmts.getD p.2 []) := by
  obtain ⟨ds, g, hds, hg, hm⟩ := hr.kept p hp
  have hgd : answer.fmts.getD p.2 [] = g := by simp [hg]
  rw [hgd]
  unfold FormatMatches at hm ⊢
  split_ifs with hpt
  · rwa [if_pos hpt] at hm
  · rw [if_neg hpt] at hm
    obtain ⟨o, a, ho, ha, heq⟩ := hm
    have hns : ¬ SharesPayload r answer p := fun h => hs ⟨by omega, h⟩
    simp only [SharesPayload, hgd, not_or, not_exists, not_and] at hns
    refine ⟨o, a, ?_, ?_, ?_⟩
    · rw [hr.attrs, rtpmapOf_foldl_removeFmtAttrs hns.1]
      rwa [rtpmapOf_foldl_removeFmtAttrs fun f hf => hns.1 f (hds.subset hf)] at ho
    · rw [strip, rtpmapOf_foldl_removeFmtAttrs hns.2]
      exact ha
    · simpa only [isAudio, hr.media] using heq

lemma applyChoice_sameFormats (hr : r.Ok answer offer) :
    SameFormats (applyChoice r answer).1 (applyChoice r answer).2 ↔ (r.kept.map (·.2)).Nodup ∧ ∀ p ∈ r.kept,
      FormatMatches r.offer (strip r answer) p.1 (answer.fmts.getD p.2 []) := by
  have hperm := ExchangeSort.sort_perm (fun p : Bytes × ℕ => p.2) r.kept.length r.kept
  have hsorted := ExchangeSort.sort_sorted (fun p : Bytes × ℕ => p.2) (le_refl r.kept.length)
  dsimp only [applyChoice]
  generalize ExchangeSort.sort (fun p : Bytes × ℕ => p.2) r.kept.length r.kept = sorted at *
  have hle : (sorted.map (·.2)).Pairwise (· ≤ ·) := List.pairwise_map.2 hsorted
  have hnodup : (sorted.map (·.2)).Nodup ↔ (r.kept.map (·.2)).Nodup := (hperm.map _).nodup_iff
  -- with distinct indices the result is known
  have hleft : (sorted.map (·.2)).Pairwise (· < ·) →
      dropUnmatched (sorted.map (·.2)) 0 answer.fmts answer.attrs =
        (sorted.map fun p => answer.fmts.getD p.2 [], (strip r answer).attrs) := by
    intro hlt
    rw [dropUnmatched_distinct hlt (by simp)]
    · have hun : unmatched (sorted.map (·.2)) 0 answer.fmts =
          unmatched (r.kept.map (·.2)) 0 answer.fmts :=
        unmatched_congr (fun j _ => (hperm.map _).mem_iff) answer.fmts
      simp [strip, hun]
    · intro j hj
      obtain ⟨p, hp, rfl⟩ := List.mem_map.1 hj
      obtain ⟨-, g, -, hg, -⟩ := hr.kept p (hperm.mem_iff.1 hp)
      have := (List.getElem?_eq_some_iff.1 hg).1
      omega
  constructor
  · rintro ⟨hlen, hfmts⟩
    have hlt := dropUnmatched_length hle (by simpa using hlen.symm)
    rw [hleft hlt] at hfmts
    refine ⟨hnodup.1 (hlt.imp fun h => Nat.ne_of_lt h), fun p hp => ?_⟩
    obtain ⟨k, hk⟩ := List.mem_iff_getElem?.1 (hperm.mem_iff.2 hp)
    have := hfmts k p.1 (answer.fmts.getD p.2 []) (by simp [hk]) (by simp [hk])
    simpa only [FormatMatches, isAudio] using this
  · rintro ⟨hnd, hfmts⟩
    have hlt : (sorted.map (·.2)).Pairwise (· < ·) := by
      refine (hle.and (hnodup.2 hnd)).imp fun h => ?_
      exact lt_of_le_of_ne h.1 h.2
    rw [hleft hlt]
    refine ⟨by simp, fun k f g hf hg => ?_⟩
    simp only [List.getElem?_map, Option.map_eq_some_iff] at hf hg
    obtain ⟨p, hp, rfl⟩ := hf
    obtain ⟨q, hq, rfl⟩ := hg
    rw [hp] at hq
    obtain rfl := Option.some.inj hq
    have := hfmts p (hperm.mem_iff.1 (List.mem_of_getElem? hp))
    simpa only [FormatMatches, isAudio] using this

lemma choosesApart_iff (h : chosen cb offer answer = .ok r) : ChoosesApart cb offer answer ↔
    SameFormats (applyChoice r answer).1 (applyChoice r answer).2 := by
  rw [applyChoice_sameFormats (chosen_ok h)]
  constructor
  · intro hc
    obtain ⟨hnd, hs⟩ := hc r h
    refine ⟨hnd, fun p hp => ?_⟩
    by_cases hshare : 96 ≤ payloadType p.1 ∧ SharesPayload r answer p
    · exact hs p hp hshare.1 hshare.2
    · exact kept_matches (chosen_ok h) hp hshare
  · rintro ⟨hnd, hm⟩ r' hr'
    rw [h] at hr'
    cases hr'
    exact ⟨hnd, fun p hp _ _ => hm p hp⟩

def AlignedPair (allowAsym : Bool) (loc rem : Media) : Prop :=
  rem.media = loc.media ∧
  (loc.port ≠ 0 → rem.port ≠ 0 ∧ (allowAsym = false → SameFormats loc rem))

def Aligned (allowAsym : Bool) (locs rems : List Media) : Prop :=
  ∀ (i : ℕ) loc, locs[i]? = some loc → ∃ rem, rems[i]? = some rem ∧ AlignedPair allowAsym loc rem

def AnswersPair (cb : FmtMatch) (allowAsym : Bool) (offer answer : Media) : Prop :=
  answer.media = offer.media ∧
  (allowAsym = false → offer.port ≠ 0 → answer.port ≠ 0 → ChoosesApart cb offer answer)

def Answers (cb : FmtMatch) (allowAsym : Bool) (offers answers : List Media) : Prop :=
  ∀ (i : ℕ) offer answer, offers[i]? = some offer → answers[i]? = some answer →
    AnswersPair cb allowAsym offer answer

variable {allowAsym : Bool} {locs rems : List Media}

lemma aligned_cons {loc rem : Media} : Aligned allowAsym (loc :: locs) (rem :: rems) ↔
    AlignedPair allowAsym loc rem ∧ Aligned allowAsym locs rems := by
  constructor
  · intro h
    refine ⟨?_, fun i l hl => h (i + 1) l hl⟩
    obtain ⟨r, hr, hp⟩ := h 0 loc rfl
    cases hr
    exact hp
  · rintro ⟨hp, h⟩ i l hl
    cases i with
    | zero =>
      cases hl
      exact ⟨rem, rfl, hp⟩
    | succ i => exact h i l hl

variable {offers answers : List Media}

lemma answers_cons : Answers cb allowAsym (offer :: offers) (answer :: answers) ↔
    AnswersPair cb allowAsym offer answer ∧ Answers cb allowAsym offers answers := by
  constructor
  · intro h
    exact ⟨h 0 offer answer rfl rfl, fun i o a ho ha => h (i + 1) o a ho ha⟩
  · rintro ⟨hp, h⟩ i o a ho ha
    cases i with
    | zero =>
      cases ho
      cases ha
      exact hp
    | succ i => exact h i o a ho ha

lemma processMAnswer_media (cb : FmtMatch) (allowAsym : Bool) (offer answer : Media) :
    (processMAnswer cb allowAsym offer answer).2.1.media = offer.media ∧
    (processMAnswer cb allowAsym offer answer).2.2.media = answer.media := by
  have hdir := (updateMediaDirection_frame answer offer).1
  unfold processMAnswer
  dsimp only
  split_ifs <;> try exact ⟨rfl, rfl⟩
  · exact ⟨hdir, rfl⟩
  · exact ⟨hdir, rfl⟩
  · split
    · exact ⟨rfl, rfl⟩
    · rename_i r hr
      have hmedia := (chosen_ok hr).media.trans hdir
      split_ifs
      · exact ⟨hmedia, rfl⟩
      · exact ⟨hmedia, rfl⟩

lemma processMAnswer_cases (cb : FmtMatch) (allowAsym : Bool) (offer answer : Media) :
    match processMAnswer cb allowAsym offer answer with
    | (.einvansmedia, _, _) => answer.media ≠ offer.media
    | (.eansnomedia, _, _) => AnswersPair cb allowAsym offer answer
    | (.success, o, a) => AlignedPair allowAsym o a ↔ AnswersPair cb allowAsym offer answer
    | _ => True := by
  obtain ⟨hmedia, hport, -, -⟩ := updateMediaDirection_frame answer offer
  unfold processMAnswer
  dsimp only
  split_ifs with h1 h2 h3 h4 h5 h6
  · exact h1
  · rw [not_not] at h1
    simp [AlignedPair, AnswersPair, deactivate, h1, h2]
  · trivial
  · rw [not_not] at h1
    simp [AlignedPair, AnswersPair, h1, h4]
  · rw [not_not] at h1
    simp [AlignedPair, AnswersPair, h1, h2, h5, hmedia]
  · rw [not_not] at h1
    simp [AnswersPair, h1, h5]
  · rw [not_not] at h1
    have hfalse : allowAsym = false := by simpa using h5
    have hpair : ∀ r, chosen cb offer answer = .ok r →
        (AnswersPair cb allowAsym offer answer ↔
          SameFormats (applyChoice r answer).1 (applyChoice r answer).2) := by
      intro r hr
      rw [← choosesApart_iff hr]
      simp [AnswersPair, h1, h2, h4, hfalse]
    cases hr : chosen cb offer answer with
    | error status =>
      rw [matchFormats_error hr]
      trivial
    | ok r =>
      have hok := chosen_ok hr
      by_cases h6 : r.kept = []
      · simp only [if_pos h6]
        refine ⟨h1, fun _ _ _ r' hr' => ?_⟩
        rw [hr] at hr'
        cases hr'
        simp [h6]
      · simp only [if_neg h6]
        rw [hpair r hr]
        have hm : answer.media = r.offer.media := by rw [hok.media, hmedia, h1]
        have hp : r.offer.port ≠ 0 := by rwa [hok.port, hport]
        constructor
        · rintro ⟨-, h⟩
          exact (h hp).2 hfalse
        · exact fun h => ⟨hm, fun _ => ⟨h2, fun _ => h⟩⟩

variable {sessConn : Option Conn} {active : Bool}

lemma processMedia_cases (h : processMedia cb allowAsym sessConn (offer :: offers) (answer :: answers) =
      .ok (locs, rems, active)) : (answer.media ≠ offer.media ∧ ∃ loc locs' active',
      processMedia cb allowAsym sessConn offers (answer :: answers) = .ok (locs', rems, active') ∧
      locs = loc :: locs' ∧ loc.media = offer.media) ∨ (∃ loc rem locs' rems' active',
      processMedia cb allowAsym sessConn offers answers = .ok (locs', rems', active') ∧
      locs = loc :: locs' ∧ rems = rem :: rems' ∧ rem.media = answer.media ∧
      (AlignedPair allowAsym loc rem ↔ AnswersPair cb allowAsym offer answer)) := by
  have hmedia := processMAnswer_media cb allowAsym offer answer
  have hcases := processMAnswer_cases cb allowAsym offer answer
  simp only [processMedia] at h
  rcases hp : processMAnswer cb allowAsym offer answer with ⟨status, o, a⟩
  rw [hp] at h hmedia hcases
  cases status with
  | einvansmedia =>
    refine .inl ⟨hcases, ?_⟩
    dsimp only at h
    cases hrec : processMedia cb allowAsym sessConn offers (answer :: answers) with
    | error st => simp [hrec, bind, Except.bind] at h
    | ok res =>
      obtain ⟨locs', rems', active'⟩ := res
      simp only [hrec, bind, Except.bind, Except.ok.injEq, Prod.mk.injEq] at h
      obtain ⟨rfl, rfl, rfl⟩ := h
      exact ⟨_, _, _, rfl, rfl, hmedia.1⟩
  | eansnomedia =>
    dsimp only at h
    cases hrec : processMedia cb allowAsym sessConn offers answers with
    | error st => simp [hrec, bind, Except.bind] at h
    | ok res =>
      obtain ⟨locs', rems', active'⟩ := res
      simp only [hrec, bind, Except.bind, Except.ok.injEq, Prod.mk.injEq] at h
      obtain ⟨rfl, rfl, rfl⟩ := h
      refine .inr ⟨_, _, _, _, _, rfl, rfl, rfl, hmedia.2, ?_⟩
      have hpair : AnswersPair cb allowAsym offer answer := hcases
      have heq : a.media = o.media := by rw [hmedia.2, hmedia.1, hpair.1]
      exact iff_of_true ⟨heq, fun hz => absurd rfl hz⟩ hpair
  | success =>
    dsimp only at h
    cases hrec : processMedia cb allowAsym sessConn offers answers with
    | error st => simp [hrec, bind, Except.bind] at h
    | ok res =>
      obtain ⟨locs', rems', active'⟩ := res
      simp only [hrec, bind, Except.bind, Except.ok.injEq, Prod.mk.injEq] at h
      obtain ⟨rfl, rfl, rfl⟩ := h
      exact .inr ⟨_, _, _, _, _, rfl, rfl, rfl, hmedia.2, hcases⟩
  | einvanstp => cases h
  | ebug => cases h
  | enomedia => cases h
  | einstate => cases h

lemma processMedia_head
    (h : processMedia cb allowAsym sessConn offers (answer :: answers) = .ok (locs, rems, active)) :
    ∃ rem rems', rems = rem :: rems' ∧ rem.media = answer.media := by
  induction offers generalizing locs active with
  | nil =>
    cases h
    exact ⟨answer, answers, rfl, rfl⟩
  | cons offer offers ih =>
    rcases processMedia_cases h with ⟨-, loc, locs', active', hrec, -, -⟩ |
      ⟨loc, rem, locs', rems', active', -, -, rfl, hm, -⟩
    · exact ih hrec
    · exact ⟨rem, rems', rfl, hm⟩

lemma processMedia_aligned
    (h : processMedia cb allowAsym sessConn offers answers = .ok (locs, rems, active)) :
    Aligned allowAsym locs rems ↔ Answers cb allowAsym offers answers := by
  induction offers generalizing answers locs rems active with
  | nil =>
    cases h
    exact iff_of_true (fun i loc hl => by simp at hl) (fun i o a ho => by simp at ho)
  | cons offer offers ih =>
    cases answers with
    | nil =>
      simp only [processMedia] at h
      cases hrec : processMedia cb allowAsym sessConn offers [] with
      | error st => simp [hrec, bind, Except.bind] at h
      | ok res =>
        obtain ⟨locs', rems', active'⟩ := res
        simp only [hrec, bind, Except.bind, Except.ok.injEq, Prod.mk.injEq] at h
        obtain ⟨rfl, rfl, rfl⟩ := h
        have hmedia : (cloneDeactivate offer offer sessConn).media = offer.media := by
          unfold cloneDeactivate
          dsimp only
          split_ifs <;> rfl
        have hanswers : ∀ os, Answers cb allowAsym os [] := fun os i o a _ ha => by simp at ha
        rw [aligned_cons, ih hrec]
        exact iff_of_true ⟨⟨hmedia, fun hz => absurd rfl hz⟩, hanswers _⟩ (hanswers _)
    | cons answer answers =>
      rcases processMedia_cases h with ⟨hne, loc, locs', active', hrec, rfl, hloc⟩ |
        ⟨loc, rem, locs', rems', active', hrec, rfl, rfl, -, hpair⟩
      · -- a mismatch: the same answer line stays at this index
        obtain ⟨rem, rems', rfl, hrem⟩ := processMedia_head hrec
        rw [aligned_cons, answers_cons]
        refine iff_of_false ?_ fun hc => hne hc.1.1
        rintro ⟨hp, -⟩
        exact hne (by rw [← hrem, hp.1, hloc])
      · rw [aligned_cons, answers_cons, hpair, ih hrec]

lemma processMedia_error (h : processMedia cb allowAsym sessConn offers answers = .error status) :
    status ≠ .success := by
  have hbind : ∀ {os as : List Media} {k : List Media × List Media × Bool →
      Except Status (List Media × List Media × Bool)},
      (processMedia cb allowAsym sessConn os as = .error status → status ≠ .success) →
      (∀ r, ∃ r', k r = .ok r') →
      (processMedia cb allowAsym sessConn os as >>= k) = .error status → status ≠ .success := by
    intro os as k hrec hk h
    cases hp : processMedia cb allowAsym sessConn os as with
    | error st =>
      rw [hp] at h
      cases h
      exact hrec hp
    | ok r =>
      obtain ⟨r', hr'⟩ := hk r
      rw [hp] at h
      simp [bind, Except.bind, hr'] at h
  induction offers generalizing answers with
  | nil => simp [processMedia] at h
  | cons offer offers ih =>
    cases answers with
    | nil => exact hbind ih (fun r => ⟨_, rfl⟩) h
    | cons answer answers =>
      simp only [processMedia] at h
      split at h
      · exact hbind ih (fun r => ⟨_, rfl⟩) h
      · exact hbind ih (fun r => ⟨_, rfl⟩) h
      · exact hbind ih (fun r => ⟨_, rfl⟩) h
      · rename_i st _ _ _ _ hst _
        cases h
        exact hst

def plainMedia (media : String) (port : ℕ) : Media :=
  ⟨lit media, port, lit "RTP/AVP", [lit "0"], none, []⟩

def plainSession (media : List Media) : Session :=
  ⟨⟨lit "-", lit "IN", lit "IP4", lit "10.0.0.1"⟩, lit "-",
    some ⟨lit "IN", lit "IP4", lit "10.0.0.1"⟩, [], media⟩

def answered (offer answer : List Media) : Neg where
  state := .waitNego
  hasRemoteAnswer := true
  answerWasRemote := false
  negLocalSdp := some (plainSession offer)
  negRemoteSdp := some (plainSession answer)
  activeLocalSdp := none
  activeRemoteSdp := none

def noFmtMatch : FmtMatch := fun _ _ _ _ => true

def videoRejected : Neg :=
  answered [plainMedia "audio" 4000, plainMedia "video" 4002]
    [plainMedia "audio" 5000, plainMedia "video" 0]

end PjProject.SdpAnswer
