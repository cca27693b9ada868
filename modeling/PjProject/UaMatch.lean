import PjProject.UaLayerLaw

/-!
# Which dialog gets a request

`mod_ua_on_rx_request` and `pjsip_ua_find_dialog`. Both find a dialog set by the local tag and then
the first of its dialogs with the remote tag; only the second looks at the Call-ID. In a run with new
local tags the dialogs of a set have one Call-ID, and `onRxRequest_delivered_iff` says when the first
is right.
-/
namespace PjProject.UaLayer
open Transition

inductive Method
  | ack | cancel | register | other
  deriving DecidableEq

/-- A request; `inviteDlg` is the dialog of the INVITE transaction that a CANCEL is for. -/
structure Request where
  method : Method
  callId : Bytes
  fromTag : Bytes
  toTag : Bytes
  inviteDlg : Option ℕ

/-- What becomes of a request: it is left to other modules, answered with 481 (or dropped), or
passed to a dialog. -/
inductive Outcome
  | unhandled | noDialog (answered : Bool) | passed (d : ℕ)
  deriving DecidableEq

variable {H : HashTable.Hashing TagRef}

namespace UserAgent

/-- `find_dlg_set_for_msg` for a request -/
def findDlgSetForMsg (ua : UserAgent H) (req : Request) : Option ℕ :=
  if req.method = .cancel then req.inviteDlg.bind fun d => (ua.dlg d).dlgSet else ua.lookup req.toTag

def findRemote (ua : UserAgent H) (s : ℕ) (tag : Bytes) : Option ℕ :=
  (ua.set s).dlgList.find? fun d => stricmpEq (ua.dlg d).remoteTag tag

def onRxRequest (ua : UserAgent H) (req : Request) : Outcome :=
  if req.toTag = [] ∧ req.method ≠ .cancel then .unhandled
  else if req.method = .register then .unhandled
  else
    match ua.findDlgSetForMsg req with
    | none => .noDialog (decide (req.method ≠ .ack))
    | some s =>
      match ua.findRemote s req.fromTag with
      | some d => .passed d
      | none =>
        match (ua.set s).dlgList with
        | first :: _ =>
          if (ua.dlg first).remoteTag ≠ [] then .noDialog (decide (req.method ≠ .ack)) else .passed first
        | [] => .noDialog (decide (req.method ≠ .ack))

def findDialog (ua : UserAgent H) (callId localTag remoteTag : Bytes) : Option ℕ :=
  match ua.lookup localTag with
  | none => none
  | some s =>
    match ua.findRemote s remoteTag with
    | none => none
    | some d => if (ua.dlg d).callId ≠ callId then none else some d

structure Matches (ua : UserAgent H) (callId localTag remoteTag : Bytes) (d : ℕ) : Prop where
  registered : ua.Registered d
  callId : (ua.dlg d).callId = callId
  localTag : stricmpEq (ua.dlg d).localTag localTag = true
  remoteTag : stricmpEq (ua.dlg d).remoteTag remoteTag = true

structure Delivered (ua : UserAgent H) (req : Request) : Prop where
  only : ∀ d, ua.onRxRequest req = .passed d → ua.Registered d ∧ (ua.dlg d).callId = req.callId ∧
    stricmpEq (ua.dlg d).localTag req.toTag = true ∧
    (stricmpEq (ua.dlg d).remoteTag req.fromTag = true ∨ (ua.dlg d).remoteTag = [])
  found : ∀ d, ua.Matches req.callId req.toTag req.fromTag d →
    (∃ d', ua.onRxRequest req = .passed d' ∧ ua.Matches req.callId req.toTag req.fromTag d') ∧
      ∃ d', ua.findDialog req.callId req.toTag req.fromTag = some d' ∧ ua.Matches req.callId req.toTag req.fromTag d'

def Waiting (ua : UserAgent H) (d : ℕ) : Prop :=
  (∃ s, (ua.dlg d).dlgSet = some s ∧ (ua.set s).dlgList.head? = some d) ∧ (ua.dlg d).remoteTag = []

/-- The Call-ID of the request is that of the dialogs whose tags it has, unless it is a REGISTER, and
then there is no dialog that it matches. -/
def RightCallId (ua : UserAgent H) (req : Request) : Prop :=
  if req.method = .register then ∀ d, ¬ ua.Matches req.callId req.toTag req.fromTag d
  else ∀ d, ua.Registered d → stricmpEq (ua.dlg d).localTag req.toTag = true →
    stricmpEq (ua.dlg d).remoteTag req.fromTag = true ∨ ua.Waiting d → (ua.dlg d).callId = req.callId

def SharedCallId (ua : UserAgent H) : Prop :=
  ∀ s, ∀ d ∈ (ua.set s).dlgList, ∀ d' ∈ (ua.set s).dlgList, (ua.dlg d).callId = (ua.dlg d').callId

variable {ua : UserAgent H} {d s : ℕ} {tag : Bytes}

lemma Indexed.lookup_iff (hH : CaseFolding H) (h : ua.Indexed) (hs : ua.lookup tag = some s) :
    d ∈ (ua.set s).dlgList ↔ ua.Registered d ∧ stricmpEq (ua.dlg d).localTag tag = true := by
  obtain ⟨huse, hsame⟩ := h.found hs
  have hkey : lowerAll (ua.set s).htKey.text = lowerAll tag := hH.lower _ _ (h.key_nonzero huse) hsame
  constructor
  · intro hd
    obtain ⟨-, -, hset, -, hlow⟩ := h.member s d hd
    exact ⟨⟨s, hset, hd⟩, stricmpEq_of_lower (hlow.trans hkey)⟩
  · rintro ⟨⟨t, ht, hd⟩, htag⟩
    obtain ⟨huse', -, -, htagged, hlow⟩ := h.member t d hd
    have heq : lowerAll (ua.dlg d).localTag = lowerAll tag := by
      simp only [stricmpEq, Bool.and_eq_true, decide_eq_true_eq] at htag
      exact lowerAll_eq_of_strnicmpEq htagged.nonzero htag.1 htag.2
    obtain rfl : t = s := h.eq_of_lower hH huse' huse (hlow.symm.trans (heq.trans hkey.symm))
    exact hd

lemma Indexed.lookup_of_registered (hH : CaseFolding H) (h : ua.Indexed)
    (hd : ua.Registered d) (htag : stricmpEq (ua.dlg d).localTag tag = true) :
    ∃ s, ua.lookup tag = some s ∧ (ua.dlg d).dlgSet = some s ∧ d ∈ (ua.set s).dlgList := by
  obtain ⟨s, hs, hmem⟩ := hd
  obtain ⟨huse, -, -, htagged, hlow⟩ := h.member s d hmem
  have heq : lowerAll (ua.dlg d).localTag = lowerAll tag := by
    simp only [stricmpEq, Bool.and_eq_true, decide_eq_true_eq] at htag
    exact lowerAll_eq_of_strnicmpEq htagged.nonzero htag.1 htag.2
  exact ⟨s, (h.consistent hH).mapped d s hs hmem tag heq.symm, hs, hmem⟩

lemma findRemote_some (h : ua.findRemote s tag = some d) :
    d ∈ (ua.set s).dlgList ∧ stricmpEq (ua.dlg d).remoteTag tag = true :=
  ⟨List.mem_of_find?_eq_some h, by simpa using List.find?_some h⟩

lemma findRemote_of_mem (hd : d ∈ (ua.set s).dlgList)
    (ht : stricmpEq (ua.dlg d).remoteTag tag = true) : ∃ d', ua.findRemote s tag = some d' := by
  refine Option.isSome_iff_exists.mp ?_
  unfold UserAgent.findRemote
  exact List.find?_isSome.mpr ⟨d, hd, ht⟩

lemma onRxRequest_passed_iff {ua : UserAgent H} {req : Request} (hto : req.toTag ≠ []) (hc : req.method ≠ .cancel)
    (hr : req.method ≠ .register) (d : ℕ) :
    ua.onRxRequest req = .passed d ↔ ∃ s, ua.lookup req.toTag = some s ∧ (ua.findRemote s req.fromTag = some d ∨
      ua.findRemote s req.fromTag = none ∧ (ua.set s).dlgList.head? = some d ∧ (ua.dlg d).remoteTag = []) := by
  unfold UserAgent.onRxRequest UserAgent.findDlgSetForMsg
  rw [if_neg (fun h => hto h.1), if_neg hr, if_neg hc]
  cases hs : ua.lookup req.toTag with
  | none => simp
  | some s =>
    cases hf : ua.findRemote s req.fromTag with
    | some d' => simp [hf]
    | none =>
      cases hl : (ua.set s).dlgList with
      | nil => simp [hf, hl]
      | cons first rest =>
        by_cases hne : (ua.dlg first).remoteTag = []
        · simp only [hf, hl, hne, ne_eq, not_true_eq_false, if_false, Outcome.passed.injEq, Option.some.injEq]
          constructor
          · rintro rfl
            exact ⟨s, rfl, .inr ⟨hf, by simp [hl], hne⟩⟩
          · rintro ⟨s', rfl, h | ⟨-, h, -⟩⟩
            · rw [hf] at h
              cases h
            · simpa [hl] using h
        · simp only [hf, hl, ne_eq, hne, not_false_eq_true, if_true, reduceCtorEq, Option.some.injEq, false_iff]
          rintro ⟨s', rfl, h | ⟨-, h, he⟩⟩
          · rw [hf] at h
            cases h
          · obtain rfl : first = d := by simpa [hl] using h
            exact hne he

lemma Indexed.delivered_iff (hH : CaseFolding H) (h : ua.Indexed) (hshared : ua.SharedCallId) {req : Request}
    (hto : req.toTag ≠ []) (hc : req.method ≠ .cancel) : ua.Delivered req ↔ ua.RightCallId req := by
  by_cases hr : req.method = .register
  · have hun : ua.onRxRequest req = .unhandled := by
      unfold UserAgent.onRxRequest
      rw [if_neg (fun h => hto h.1), if_pos hr]
    unfold UserAgent.RightCallId
    rw [if_pos hr]
    constructor
    · intro hd d hm
      obtain ⟨⟨d', hpass, -⟩, -⟩ := hd.found d hm
      rw [hun] at hpass
      cases hpass
    · intro hno
      refine ⟨fun d hpass => ?_, fun d hm => absurd hm (hno d)⟩
      rw [hun] at hpass
      cases hpass
  unfold UserAgent.RightCallId
  rw [if_neg hr]
  have hiff := fun d => @onRxRequest_passed_iff _ ua req hto hc hr d
  constructor
  · intro hdel d hreg hlocal hremote
    obtain ⟨s, hs, hset, hmem⟩ := h.lookup_of_registered hH hreg hlocal
    -- some dialog of the set gets the request, and its Call-ID is right
    have hsome : ∃ d' ∈ (ua.set s).dlgList, ua.onRxRequest req = .passed d' := by
      cases hf : ua.findRemote s req.fromTag with
      | some d' => exact ⟨d', (findRemote_some hf).1, (hiff d').mpr ⟨s, hs, .inl hf⟩⟩
      | none =>
        rcases hremote with hremote | ⟨⟨t, ht, hhead⟩, hempty⟩
        · obtain ⟨d', hd'⟩ := findRemote_of_mem hmem hremote
          rw [hf] at hd'
          cases hd'
        · rw [hset] at ht
          cases ht
          exact ⟨d, hmem, (hiff d).mpr ⟨s, hs, .inr ⟨hf, hhead, hempty⟩⟩⟩
    obtain ⟨d', hd', hpass⟩ := hsome
    rw [hshared s d hmem d' hd']
    exact (hdel.only d' hpass).2.1
  · intro hright
    refine ⟨?_, ?_⟩
    · intro d hpass
      obtain ⟨s, hs, hf | ⟨-, hhead, hempty⟩⟩ := (hiff d).mp hpass
      · obtain ⟨hmem, hremote⟩ := findRemote_some hf
        obtain ⟨hreg, hlocal⟩ := (h.lookup_iff hH hs).mp hmem
        exact ⟨hreg, hright d hreg hlocal (.inl hremote), hlocal, .inl hremote⟩
      · have hmem : d ∈ (ua.set s).dlgList := List.mem_of_head? hhead
        obtain ⟨hreg, hlocal⟩ := (h.lookup_iff hH hs).mp hmem
        have hset := (h.member s d hmem).2.2.1
        exact ⟨hreg, hright d hreg hlocal (.inr ⟨⟨s, hset, hhead⟩, hempty⟩), hlocal, .inr hempty⟩
    · intro d hm
      obtain ⟨s, hs, -, hmem⟩ := h.lookup_of_registered hH hm.registered hm.localTag
      obtain ⟨d', hf⟩ := findRemote_of_mem hmem hm.remoteTag
      obtain ⟨hmem', hremote⟩ := findRemote_some hf
      obtain ⟨hreg, hlocal⟩ := (h.lookup_iff hH hs).mp hmem'
      have hcall : (ua.dlg d').callId = req.callId := (hshared s d' hmem' d hmem).trans hm.callId
      have hmatch : ua.Matches req.callId req.toTag req.fromTag d' := ⟨hreg, hcall, hlocal, hremote⟩
      refine ⟨⟨d', (hiff d').mpr ⟨s, hs, .inl hf⟩, hmatch⟩, d', ?_, hmatch⟩
      unfold UserAgent.findDialog
      simp [hs, hf, hcall]

lemma setDlg_callId {dlg : Dialog} (h : dlg.callId = (ua.dlg d).callId) (b : ℕ) :
    ((ua.setDlg d dlg).dlg b).callId = (ua.dlg b).callId := by
  by_cases hb : b = d
  · subst hb
    simpa [UserAgent.setDlg] using h
  · simp [UserAgent.setDlg, hb]

lemma fillHval_callId (ua : UserAgent H) (d : ℕ) (key : TagRef) (b : ℕ) :
    ((ua.fillHval d key).dlg b).callId = (ua.dlg b).callId := by
  unfold UserAgent.fillHval
  simp only
  split_ifs
  · exact setDlg_callId (by simp) b
  · rfl

lemma fillHval_rest (ua : UserAgent H) (d : ℕ) (key : TagRef) : (ua.fillHval d key).set = ua.set := by
  unfold UserAgent.fillHval
  simp only
  split_ifs
  · rfl
  · rfl

lemma newSet_sets (ua : UserAgent H) (d : ℕ) :
    (∀ t, ((ua.newSet d).set t).dlgList = [d] ∨ (ua.newSet d).set t = ua.set t) ∧
      ∀ b, ((ua.newSet d).dlg b).callId = (ua.dlg b).callId := by
  obtain ⟨ua₁, s, halloc, hset, hdlg⟩ : ∃ ua₁ s, ua.allocDlgsetNode = (ua₁, s) ∧ ua₁.set = ua.set ∧ ua₁.dlg = ua.dlg := by
    unfold UserAgent.allocDlgsetNode
    cases ua.freeDlgsetNodes with
    | nil => exact ⟨_, _, rfl, rfl, rfl⟩
    | cons s rest => exact ⟨_, _, rfl, rfl, rfl⟩
  unfold UserAgent.newSet
  simp only [halloc]
  refine ⟨?_, ?_⟩
  · intro t
    by_cases hts : t = s
    · subst hts
      exact .inl (by simp [UserAgent.setSet, UserAgent.setDlg])
    · exact .inr (by simp [UserAgent.setSet, UserAgent.setDlg, hts, hset])
  · intro b
    rw [← hdlg]
    refine Eq.trans (setDlg_callId ?_ b) rfl
    rfl

lemma SharedCallId.createDlg (h : ua.Indexed) (hs : ua.SharedCallId) {dlg : Dialog}
    (hrole : dlg.role = .uac → ∀ s, ua.dlgTable.get ⟨ua.dlgCnt, dlg.localTag⟩ = some s →
      ∀ d ∈ (ua.set s).dlgList, (ua.dlg d).callId = dlg.callId) : (ua.createDlg dlg).SharedCallId := by
  set ua₁ : UserAgent H := { ua.setDlg ua.dlgCnt dlg with dlgCnt := ua.dlgCnt + 1 } with hua₁
  have hdlg : ua₁.dlg ua.dlgCnt = dlg := Function.update_self _ _ _
  have hother : ∀ b, b < ua.dlgCnt → ua₁.dlg b = ua.dlg b := fun b hb => Function.update_of_ne hb.ne _ _
  have hold : ∀ t, ∀ b ∈ (ua.set t).dlgList, (ua₁.dlg b).callId = (ua.dlg b).callId := by
    intro t b hb
    rw [hother b (h.member t b hb).2.1]
  have h₁ : ∀ t, ∀ b ∈ (ua.set t).dlgList, ∀ b' ∈ (ua.set t).dlgList, (ua₁.dlg b).callId = (ua₁.dlg b').callId := by
    intro t b hb b' hb'
    rw [hold t b hb, hold t b' hb']
    exact hs t b hb b' hb'
  have hnew : ∀ ua₂ : UserAgent H, ua₂.set = ua.set → (∀ b, (ua₂.dlg b).callId = (ua₁.dlg b).callId) →
      (ua₂.newSet ua.dlgCnt).SharedCallId := by
    intro ua₂ hset hcall t b hb b' hb'
    obtain ⟨hsets, hcalls⟩ := newSet_sets ua₂ ua.dlgCnt
    rw [hcalls, hcalls, hcall, hcall]
    rcases hsets t with ht | ht
    · rw [ht] at hb hb'
      rw [List.mem_singleton.mp hb, List.mem_singleton.mp hb']
    · rw [ht, hset] at hb hb'
      exact h₁ t b hb b' hb'
  change (ua₁.registerDlg ua.dlgCnt).SharedCallId
  unfold UserAgent.registerDlg
  rw [hdlg]
  by_cases hnil : dlg.localTag = []
  · rw [if_pos hnil]
    exact h₁
  rw [if_neg hnil]
  cases hr : dlg.role with
  | uas => exact hnew ua₁ rfl fun _ => rfl
  | uac =>
    have hkey : ua₁.tagRef ua.dlgCnt = ⟨ua.dlgCnt, dlg.localTag⟩ := by unfold UserAgent.tagRef; rw [hdlg]
    simp only [hkey]
    set ua₂ := ua₁.fillHval ua.dlgCnt ⟨ua.dlgCnt, dlg.localTag⟩
    have hset₂ : ua₂.set = ua.set := fillHval_rest _ _ _
    have hcall₂ : ∀ b, (ua₂.dlg b).callId = (ua₁.dlg b).callId := fillHval_callId _ _ _
    cases hg : ua₁.dlgTable.get ⟨ua.dlgCnt, dlg.localTag⟩ with
    | none => exact hnew ua₂ hset₂ hcall₂
    | some s =>
      intro t b hb b' hb'
      have hcall : ∀ b, ((((ua₂.assert (decide ((ua₂.set s).dlgList ≠ []))).setSet s
          { ua₂.set s with dlgList := (ua₂.set s).dlgList ++ [ua.dlgCnt] }).setDlg ua.dlgCnt
          { ua₂.dlg ua.dlgCnt with dlgSet := some s }).dlg b).callId = (ua₁.dlg b).callId := by
        intro b
        refine Eq.trans (setDlg_callId ?_ b) (hcall₂ b)
        rfl
      -- every member of the set that is joined has the Call-ID of the new dialog
      have hjoin : ∀ b ∈ (ua.set s).dlgList ++ [ua.dlgCnt], (ua₁.dlg b).callId = dlg.callId := by
        intro b hb
        rcases List.mem_append.mp hb with hb | hb
        · rw [hold s b hb]
          exact hrole hr s hg b hb
        · rw [List.mem_singleton.mp hb, hdlg]
      refine (hcall b).trans (Eq.trans ?_ (hcall b').symm)
      by_cases hts : t = s
      · subst hts
        have hlist : (((ua₂.assert (decide ((ua₂.set t).dlgList ≠ []))).setSet t
          { ua₂.set t with dlgList := (ua₂.set t).dlgList ++ [ua.dlgCnt] }).set t).dlgList = (ua.set t).dlgList ++ [ua.dlgCnt] := by
          simp [UserAgent.setSet, hset₂]
        exact (hjoin b (hlist ▸ hb)).trans (hjoin b' (hlist ▸ hb')).symm
      · have hlist : (((ua₂.assert (decide ((ua₂.set s).dlgList ≠ []))).setSet s
          { ua₂.set s with dlgList := (ua₂.set s).dlgList ++ [ua.dlgCnt] }).set t).dlgList = (ua.set t).dlgList := by
          simp [UserAgent.setSet, UserAgent.assert, hset₂, hts]
        exact h₁ t b (hlist ▸ hb) b' (hlist ▸ hb')

end UserAgent

open UserAgent

def Unique (ua : UserAgent H) : Input → Prop
  | .createUac _ localTag => 0 ∉ localTag ∧ ∀ d, ua.Registered d → lowerAll (ua.dlg d).localTag ≠ lowerAll localTag
  | .createUas _ localTag _ => 0 ∉ localTag ∧ ∀ d, ua.Registered d → lowerAll (ua.dlg d).localTag ≠ lowerAll localTag
  | _ => True

lemma Unique.fresh {ua : UserAgent H} {i : Input} (h : Unique ua i) : Fresh ua i := by
  cases i with
  | createUac callId localTag => exact h.1
  | createUas callId localTag remoteTag => exact h
  | fork first remoteTag => trivial
  | unregister d => trivial
  | setRemoteTag d remoteTag => trivial

lemma unregisterDlg_sets (ua : UserAgent H) (d : ℕ) :
    (∀ t, ∀ b ∈ ((ua.unregisterDlg d).set t).dlgList, b ∈ (ua.set t).dlgList) ∧
      ∀ b, ((ua.unregisterDlg d).dlg b).callId = (ua.dlg b).callId := by
  have hlist : ∀ (ua' : UserAgent H) (s : ℕ) (key : TagRef), ua'.set = Function.update ua.set s ⟨key, (ua.set s).dlgList.erase d⟩ →
      ∀ t, ∀ b ∈ (ua'.set t).dlgList, b ∈ (ua.set t).dlgList := by
    intro ua' s key hset t b hb
    rw [hset] at hb
    by_cases hts : t = s
    · subst hts
      rw [Function.update_self] at hb
      exact List.mem_of_mem_erase hb
    · rwa [Function.update_of_ne hts] at hb
  unfold UserAgent.unregisterDlg
  cases hs : (ua.dlg d).dlgSet with
  | none => exact ⟨fun _ _ hb => hb, fun _ => rfl⟩
  | some s =>
    simp only
    by_cases hmem : d ∉ (ua.set s).dlgList
    · rw [if_pos hmem]
      exact ⟨fun _ _ hb => hb, fun _ => rfl⟩
    rw [if_neg hmem]
    cases hl : (ua.set s).dlgList.erase d with
    | nil =>
      simp only
      refine ⟨hlist _ s (ua.set s).htKey ?_, fun b => fillHval_callId _ _ _ b⟩
      rw [hl]
      exact fillHval_rest _ _ _
    | cons keyDlg rest =>
      simp only
      split_ifs with hown
      · refine ⟨hlist _ s (ua.tagRef keyDlg) ?_, fun _ => rfl⟩
        change Function.update (Function.update ua.set s _) s _ = _
        rw [Function.update_idem, hl]
        rfl
      · refine ⟨hlist _ s (ua.set s).htKey ?_, fun _ => rfl⟩
        rw [hl]
        rfl

lemma step_sharedCallId (hH : CaseFolding H) (ua : UserAgent H) (i : Input) (h : ua.Indexed ∧ ua.SharedCallId) (hu : Unique ua i) :
    (step ua i).Indexed ∧ (step ua i).SharedCallId := by
  obtain ⟨hi, hs⟩ := h
  refine ⟨step_indexed hH ua i hi hu.fresh, ?_⟩
  cases i with
  | createUac callId localTag =>
    refine hs.createDlg hi fun _ s hget => ?_
    rw [hi.get_none hH hu.2] at hget
    cases hget
  | fork first remoteTag =>
    simp only [step]
    split_ifs with hfirst
    · obtain ⟨⟨t, -, hmem⟩, -⟩ := hfirst
      refine hs.createDlg hi fun _ s hget d hd => ?_
      -- the set that is found is that of the first dialog
      obtain ⟨huse, hsame⟩ := hi.found hget
      obtain ⟨huse', -, -, -, hlow⟩ := hi.member t first hmem
      have hkey := hH.lower _ _ (hi.key_nonzero huse) hsame
      obtain rfl : s = t := hi.eq_of_lower hH huse huse' (hkey.trans hlow)
      exact hs s d hd first hmem
    · exact hs
  | createUas callId localTag remoteTag =>
    exact hs.createDlg hi fun hr => by cases hr
  | unregister d =>
    simp only [step]
    split_ifs with hd
    · obtain ⟨hsets, hcalls⟩ := unregisterDlg_sets ua d
      intro t b hb b' hb'
      rw [hcalls, hcalls]
      exact hs t b (hsets t b hb) b' (hsets t b' hb')
    · exact hs
  | setRemoteTag d remoteTag =>
    intro t b hb b' hb'
    have hsame : { ua.dlg d with remoteTag := remoteTag }.callId = (ua.dlg d).callId := rfl
    have hcall := fun b => setDlg_callId hsame b
    exact (hcall b).trans ((hs t b hb b' hb').trans (hcall b').symm)

/-- A request with a To tag is delivered as it should be if and only if its Call-ID is that of the
dialogs whose tags it has (and it is not a REGISTER for a dialog), in every state that is reached with
new local tags. -/
theorem onRxRequest_delivered_iff (k0 k1 : UInt64) (size : ℕ) (is : List Input)
    (h : Guarded step Unique (initModule (tagHashing k0 k1) size) is) (req : Request) (hto : req.toTag ≠ [])
    (hc : req.method ≠ .cancel) : (run step (initModule (tagHashing k0 k1) size) is).Delivered req ↔
      (run step (initModule (tagHashing k0 k1) size) is).RightCallId req := by
  have hH := tagHashing_caseFolding k0 k1
  have hinit : (initModule (tagHashing k0 k1) size).Indexed ∧ (initModule (tagHashing k0 k1) size).SharedCallId :=
    ⟨initModule_indexed _ size, fun s d hd => by cases hd⟩
  obtain ⟨hi, hs⟩ := h.invariant (step_sharedCallId hH) hinit
  exact hi.delivered_iff hH hs hto hc

/-- A BYE for a dialog that a UAS made. -/
theorem onRxRequest_delivered_iff_bye :
    let is : List Input := [.createUas (lit "c1") (lit "a1") (lit "b1")]
    let req : Request := ⟨.other, lit "c1", lit "b1", lit "A1", none⟩
    Guarded step Unique (initModule (tagHashing 1 2) 31) is ∧
      ((run step (initModule (tagHashing 1 2) 31) is).Delivered req ↔
        (run step (initModule (tagHashing 1 2) 31) is).RightCallId req) ∧
      (run step (initModule (tagHashing 1 2) 31) is).onRxRequest req = .passed 0 := by
  intro is req
  have hsafe : Guarded step Unique (initModule (tagHashing 1 2) 31) is := by
    refine ⟨⟨by decide, ?_⟩, trivial⟩
    rintro d ⟨s, -, hd⟩
    cases hd
  exact ⟨hsafe, onRxRequest_delivered_iff 1 2 31 is hsafe req (by decide) (by decide), by decide +kernel⟩

/-- A BYE with the tags of that dialog and another Call-ID is passed to it. -/
theorem other_callId_delivered :
    let ua := run step (initModule (tagHashing 1 2) 31) [.createUas (lit "c1") (lit "a1") (lit "b1")]
    let req : Request := ⟨.other, lit "c2", lit "b1", lit "a1", none⟩
    ua.onRxRequest req = .passed 0 ∧ (ua.dlg 0).callId = lit "c1" ∧ ¬ ua.Delivered req ∧
      ua.findDialog req.callId req.toTag req.fromTag = none := by
  intro ua req
  have hpass : ua.onRxRequest req = .passed 0 := by decide +kernel
  have hcall : (ua.dlg 0).callId = lit "c1" := by decide +kernel
  refine ⟨hpass, hcall, fun hd => ?_, by decide +kernel⟩
  have := (hd.only 0 hpass).2.1
  rw [hcall] at this
  exact absurd this (by decide)

end PjProject.UaLayer
