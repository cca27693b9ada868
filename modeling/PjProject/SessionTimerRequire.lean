import PjProject.PjString
import PjProject.SessionTimer

/-!
# The Require header of a 2xx response

`pjsip_timer_update_resp` on the headers of an outgoing response. The search for the tag stops
at the first tag that differs from it, since it takes a comparison that is not zero for a match:
the tag is added exactly when no other tag is there.
-/
namespace PjProject.SessionTimer

/-- `PJSIP_GENERIC_ARRAY_MAX_COUNT` -/
def maxTags : ℕ := 32

def strTimer : Bytes := lit "timer"

inductive Header
  | require (values : List Bytes)
  | sessExpires (hdr : SessExpires)
  | minSe (minSe : ℕ)
  | other (name value : Bytes)
deriving DecidableEq

/-- `pjsip_msg_find_hdr` for the Require header -/
def findRequire : List Header → Option (List Bytes)
  | [] => none
  | .require values :: _ => some values
  | _ :: hdrs => findRequire hdrs

def addTag (tag : Bytes) : List Header → List Header
  | [] => []
  | .require values :: hdrs => .require (values ++ [tag]) :: hdrs
  | hdr :: hdrs => hdr :: addTag tag hdrs

/-- `req_hdr_has_timer`, from the result of `pj_stricmp` as the code reads it. -/
def reqHdrHasTimer (values : List Bytes) : Bool := values.any fun v => !stricmpEq v strTimer

/-- The part of `pjsip_timer_update_resp` for a refresher that is the UAC. -/
def requireTimerTag (hdrs : List Header) : List Header :=
  match findRequire hdrs with
  | none => hdrs ++ [.require [strTimer]]
  | some values => if reqHdrHasTimer values then hdrs else addTag strTimer hdrs

def updateResp (t : Timer) (code : ℕ) (hdrs : List Header) : List Header :=
  if code / 100 = 2 then
    if t.active then
      let hdrs := hdrs ++ [.sessExpires t.seHdr]
      if t.refresher = .uac then requireTimerTag hdrs else hdrs
    else hdrs
  else if code = 422 then hdrs ++ [.minSe t.minSe]
  else hdrs

def requireTags (hdrs : List Header) : List Bytes := (findRequire hdrs).getD []

/-- How many of the tags are `timer`. -/
def timerTags (tags : List Bytes) : ℕ := tags.countP fun v => stricmpEq v strTimer

/-- What is asked of the first Require header: it has the tag once, with all the tags that it
had before, in its array. -/
structure TagOnce (before after : List Header) : Prop where
  once : ∃ tags, findRequire after = some tags ∧ timerTags tags = 1
  kept : requireTags before <+: requireTags after
  fits : (requireTags after).length ≤ maxTags

lemma findRequire_append (hdrs tail : List Header) :
    findRequire (hdrs ++ tail) = (findRequire hdrs).or (findRequire tail) := by
  induction hdrs with
  | nil => rfl
  | cons hdr hdrs ih =>
    cases hdr with
    | require values => rfl
    | sessExpires hdr => exact ih
    | minSe minSe => exact ih
    | other name value => exact ih

lemma findRequire_addTag (tag : Bytes) (hdrs : List Header) :
    findRequire (addTag tag hdrs) = (findRequire hdrs).map (· ++ [tag]) := by
  induction hdrs with
  | nil => rfl
  | cons hdr hdrs ih =>
    cases hdr with
    | require values => rfl
    | sessExpires hdr => exact ih
    | minSe minSe => exact ih
    | other name value => exact ih

def tagsAfter (tags : List Bytes) : List Bytes := if reqHdrHasTimer tags then tags else tags ++ [strTimer]

lemma findRequire_requireTimerTag (hdrs : List Header) :
    findRequire (requireTimerTag hdrs) = some (tagsAfter (requireTags hdrs)) := by
  unfold requireTimerTag requireTags tagsAfter
  cases h : findRequire hdrs with
  | none =>
    dsimp only
    rw [findRequire_append, h]
    rfl
  | some values =>
    dsimp only [Option.getD_some]
    split_ifs
    · exact h
    · rw [findRequire_addTag, h]
      rfl

section Update

variable {t : Timer} {code : ℕ} (hactive : t.active = true) (hrefresher : t.refresher = .uac)
  (hcode : code / 100 = 2)

include hactive hrefresher hcode

lemma findRequire_updateResp (hdrs : List Header) :
    findRequire (updateResp t code hdrs) = some (tagsAfter (requireTags hdrs)) := by
  unfold updateResp
  simp only [hcode, hactive, hrefresher, if_true]
  rw [findRequire_requireTimerTag]
  unfold requireTags
  rw [findRequire_append]
  simp [findRequire]

lemma findRequire_iterate (hdrs : List Header) (k : ℕ) :
    findRequire ((updateResp t code)^[k + 1] hdrs) = some (tagsAfter^[k + 1] (requireTags hdrs)) := by
  induction k with
  | zero => exact findRequire_updateResp hactive hrefresher hcode hdrs
  | succ k ih =>
    rw [Function.iterate_succ_apply', findRequire_updateResp hactive hrefresher hcode, requireTags, ih,
      Option.getD_some, Function.iterate_succ_apply' tagsAfter (k + 1)]

end Update

lemma strTimer_matches : stricmpEq strTimer strTimer = true := stricmpEq_refl _

variable {tags : List Bytes}

lemma tagsAfter_other (h : ∃ v ∈ tags, stricmpEq v strTimer = false) (k : ℕ) : tagsAfter^[k] tags = tags := by
  have hany : reqHdrHasTimer tags = true := by
    obtain ⟨v, hv, hne⟩ := h
    exact List.any_eq_true.mpr ⟨v, hv, by simp [hne]⟩
  have hfix : tagsAfter tags = tags := if_pos hany
  exact Function.iterate_fixed hfix k

lemma tagsAfter_timers (h : ∀ v ∈ tags, stricmpEq v strTimer = true) (k : ℕ) :
    tagsAfter^[k] tags = tags ++ List.replicate k strTimer := by
  induction k generalizing tags with
  | zero => simp
  | succ k ih =>
    have hnone : ¬ reqHdrHasTimer tags = true := by
      intro hany
      obtain ⟨v, hv, hne⟩ := List.any_eq_true.mp hany
      simp [h v hv] at hne
    have hall : ∀ v ∈ tags ++ [strTimer], stricmpEq v strTimer = true := by
      intro v hv
      rcases List.mem_append.mp hv with hv | hv
      · exact h v hv
      · rw [List.mem_singleton.mp hv]
        exact strTimer_matches
    rw [Function.iterate_succ_apply, tagsAfter, if_neg hnone, ih hall, List.append_assoc,
      List.replicate_succ, List.singleton_append]

lemma timerTags_all (h : ∀ v ∈ tags, stricmpEq v strTimer = true) :
    timerTags tags = tags.length := List.countP_eq_length.mpr h

/-- After `k + 1` calls the header is as it should be exactly when it had the tag once among other
tags, or had no tag and this was the only call. -/
theorem require_timer_iff (t : Timer) (code : ℕ) (hdrs : List Header) (k : ℕ) (hactive : t.active = true)
    (hrefresher : t.refresher = .uac) (hcode : code / 100 = 2) (hcap : (requireTags hdrs).length ≤ maxTags) :
    TagOnce hdrs ((updateResp t code)^[k + 1] hdrs) ↔ (requireTags hdrs = [] ∧ k = 0) ∨
        ((∃ v ∈ requireTags hdrs, stricmpEq v strTimer = false) ∧ timerTags (requireTags hdrs) = 1) := by
  have hfind := findRequire_iterate hactive hrefresher hcode hdrs k
  have htags : requireTags ((updateResp t code)^[k + 1] hdrs) = tagsAfter^[k + 1] (requireTags hdrs) := by
    rw [requireTags, hfind, Option.getD_some]
  by_cases hother : ∃ v ∈ requireTags hdrs, stricmpEq v strTimer = false
  · have hfix := tagsAfter_other hother (k + 1)
    rw [hfix] at hfind htags
    constructor
    · rintro ⟨⟨tags, htag, honce⟩, -, -⟩
      obtain rfl := Option.some.inj (hfind.symm.trans htag)
      exact .inr ⟨hother, honce⟩
    · rintro (⟨hnil, -⟩ | ⟨-, honce⟩)
      · obtain ⟨v, hv, -⟩ := hother
        rw [hnil] at hv
        cases hv
      · exact ⟨⟨_, hfind, honce⟩, by rw [htags], by rwa [htags]⟩
  · have hall : ∀ v ∈ requireTags hdrs, stricmpEq v strTimer = true := by
      intro v hv
      cases hs : stricmpEq v strTimer with
      | true => rfl
      | false => exact absurd ⟨v, hv, hs⟩ hother
    have hgrow := tagsAfter_timers hall (k + 1)
    rw [hgrow] at hfind htags
    have hcount : timerTags (requireTags hdrs ++ List.replicate (k + 1) strTimer) =
        (requireTags hdrs).length + (k + 1) := by
      unfold timerTags
      rw [List.countP_append, ← timerTags, timerTags_all hall, List.countP_replicate,
        if_pos strTimer_matches]
    constructor
    · rintro ⟨⟨tags, htag, honce⟩, -, -⟩
      obtain rfl := Option.some.inj (hfind.symm.trans htag)
      rw [hcount] at honce
      exact .inl ⟨List.eq_nil_of_length_eq_zero (by omega), by omega⟩
    · rintro (⟨hnil, rfl⟩ | ⟨hex, -⟩)
      · rw [hnil] at hfind htags hcount
        refine ⟨⟨_, hfind, hcount⟩, ?_, ?_⟩
        · rw [hnil]
          exact List.nil_prefix
        · rw [htags]
          decide
      · exact absurd hex hother

/-- A response without a Require header gets one. -/
theorem require_timer_iff_none : TagOnce [] ((updateResp ⟨true, 1800, 90, .uac, .uas, 0⟩ 200)^[1] []) :=
  (require_timer_iff ⟨true, 1800, 90, .uac, .uas, 0⟩ 200 [] 0 rfl rfl rfl (by decide)).mpr (.inl ⟨rfl, rfl⟩)

/-- A response that requires `100rel` is left without the tag. -/
theorem require_timer_missing :
    ¬ ∀ (t : Timer) (code : ℕ) (hdrs : List Header) (k : ℕ), t.active = true → t.refresher = .uac →
      code / 100 = 2 → (requireTags hdrs).length ≤ maxTags →
      TagOnce hdrs ((updateResp t code)^[k + 1] hdrs) := by
  intro h
  obtain ⟨⟨tags, htags, honce⟩, -, -⟩ :=
    h ⟨true, 1800, 90, .uac, .uas, 0⟩ 200 [.require [lit "100rel"]] 0 rfl rfl rfl (by decide)
  obtain rfl := Option.some.inj ((findRequire_iterate rfl rfl rfl _ 0).symm.trans htags)
  revert honce
  decide

end PjProject.SessionTimer
