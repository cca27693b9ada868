import Mathlib.Data.List.Chain
import PjProject.SdpAnswer
import PjProject.SdpNeg

/-!
# The version of the origin line

The sessions that a negotiator hands out, in their order: a session has the version of the one
before it if they are equal, and the next version otherwise. The version is taken from the active
session and compared with `last_sent`, so that this holds as long as the two have one version and
`last_sent` is what was handed out last. A failed negotiation breaks the first and a cancelled
offer the second.
-/
namespace PjProject.SdpNeg

open SdpText (Media Session Conn Origin)
open Transition

def Follows (s t : Session) : Prop :=
  sessionCmp s t = true ∨ t.origin.version = s.origin.version + 1

/-- The version that the session handed out by the step is made from; none where the step hands
out nothing. -/
def baseVersion (n : Neg) : Op → Option ℕ
  | .modifyLocalOffer2 _ loc =>
    if n.state = .done then some ((n.activeLocal.getD loc).origin.version) else none
  | .sendLocalOffer => if n.state = .done then n.activeLocal.map fun s => s.origin.version else none
  | .negotiate (some _) =>
    if n.state = .waitNego ∧ n.hasRemoteAnswer = false then
      (n.lastSent.or n.negLocal).map fun s => s.origin.version
    else none
  | _ => none

/-- `last_sent` is, or equals, what was handed out last. -/
def LastSentCurrent (n : Neg) : Prop :=
  ∀ s ∈ n.sent.getLast?, ∃ l ∈ n.lastSent, l = s ∨ sessionCmp s l = true

/-- A step that hands out a session does so with a current `last_sent` of the version it starts
from, and this is not the greatest version. -/
def VersionOk (n : Neg) (op : Op) : Prop :=
  ∀ v ∈ baseVersion n op,
    LastSentCurrent n ∧ (∀ l ∈ n.lastSent, l.origin.version = v) ∧ v + 1 < 2 ^ 64

instance (n : Neg) (op : Op) : Decidable (VersionOk n op) :=
  inferInstanceAs (Decidable (∀ v ∈ baseVersion n op,
    (∀ s ∈ n.sent.getLast?, ∃ l ∈ n.lastSent, l = s ∨ sessionCmp s l = true) ∧
      (∀ l ∈ n.lastSent, l.origin.version = v) ∧ v + 1 < 2 ^ 64))

lemma bumpVersion_follows {l s : Session} (hv : l.origin.version = s.origin.version)
    (hlt : s.origin.version + 1 < 2 ^ 64) : Follows l (bumpVersion (some l) s) := by
  unfold bumpVersion
  split_ifs with h
  · left
    simpa using h
  · right
    show (s.origin.version + 1) % 2 ^ 64 = l.origin.version + 1
    rw [Nat.mod_eq_of_lt hlt, hv]

lemma Follows.of_cmp {s l t : Session} (h : sessionCmp s l = true) (h' : Follows l t) : Follows s t := by
  rcases h' with h' | h'
  · exact .inl (sessionCmp_trans h h')
  · refine .inr ?_
    rw [h', sessionCmp_origin h]

@[simp] lemma assignPt_sent (cfg : Config) (n : Neg) (isOffer : Bool) (s : Session) :
    (n.assignPt cfg isOffer s).1.sent = n.sent := rfl

@[simp] lemma assignPt_origin (cfg : Config) (n : Neg) (isOffer : Bool) (s : Session) :
    (n.assignPt cfg isOffer s).2.origin = s.origin := rfl

lemma step_sent (cfg : Config) (n : Neg) (op : Op) : (step cfg n op).sent = n.sent ∨
      ∃ s, s.origin.version ∈ baseVersion n op ∧
        (step cfg n op).sent = n.sent ++ [bumpVersion n.lastSent s] := by
  have h := step_move cfg n op
  generalize step cfg n op = n' at h
  cases h with
  | offerAnew flag loc hst hv ha =>
    refine .inr ⟨(n.assignPt cfg true loc).2, ?_, rfl⟩
    simp [baseVersion, hst, ha]
  | offerAfter flag loc old media hst hv ha hf =>
    refine .inr ⟨(n.assignPt cfg true (offerFrom old loc media)).2, ?_, rfl⟩
    simp [baseVersion, hst, ha, offerFrom]
  | offerActive active last hst ha hl =>
    refine .inr ⟨active, ?_, rfl⟩
    simp [baseVersion, hst, ha]
  | localAnswer loc hst =>
    left
    unfold answerWith
    split <;> rfl
  | makeAnswer loc remote locals remotes hst ha hl hr =>
    refine .inr ⟨{ (n.assignPt cfg false { loc with media := locals }).2 with
      origin := { loc.origin with
        version := (n.lastSent.map fun l => l.origin.version).getD loc.origin.version } }, ?_, rfl⟩
    simp only [baseVersion, hst, ha, hl]
    cases n.lastSent <;> rfl
  | _ => exact .inl rfl

lemma step_follows (cfg : Config) {n : Neg} {op : Op} (h : n.sent.IsChain Follows)
    (hok : VersionOk n op) : (step cfg n op).sent.IsChain Follows := by
  rcases step_sent cfg n op with heq | ⟨s, hs, heq⟩
  · rw [heq]
    exact h
  · obtain ⟨hcur, hver, hlt⟩ := hok _ hs
    rw [heq]
    refine h.append (by simp) ?_
    intro x hx y hy
    obtain rfl : y = bumpVersion n.lastSent s := by simpa using hy.symm
    obtain ⟨l, hl, hxl⟩ := hcur x hx
    obtain hl : n.lastSent = some l := hl
    have hfollows := bumpVersion_follows (hver l hl) hlt
    rw [hl]
    rcases hxl with rfl | hxl
    · exact hfollows
    · exact hfollows.of_cmp hxl

lemma created_follows {n : Neg} (h : Created n) : n.sent.IsChain Follows := by
  rcases h with ⟨loc, h⟩ | ⟨initial, remote, h⟩
  · unfold createWLocalOffer at h
    split_ifs at h
    cases h
    simp
  · unfold createWRemoteOffer at h
    split_ifs at h
    cases initial with
    | none =>
      cases h
      simp [Neg.init]
    | some i =>
      dsimp only at h
      split_ifs at h
      cases h
      simp [Neg.init]

lemma Follows.pairwise {l : List Session} (h : l.IsChain Follows) :
    l.Pairwise fun s t => sessionCmp s t = true ∨ s.origin.version < t.origin.version := by
  have htrans : Trans (fun s t : Session => sessionCmp s t = true ∨
      s.origin.version < t.origin.version) (fun s t : Session => sessionCmp s t = true ∨
      s.origin.version < t.origin.version) (fun s t : Session => sessionCmp s t = true ∨
      s.origin.version < t.origin.version) := ⟨by
    rintro s t u (hst | hst) (htu | htu)
    · exact .inl (sessionCmp_trans hst htu)
    · exact .inr (sessionCmp_origin hst ▸ htu)
    · exact .inr (sessionCmp_origin htu ▸ hst)
    · exact .inr (hst.trans htu)⟩
  refine List.IsChain.pairwise (h.imp ?_)
  rintro s t (hst | hst)
  · exact .inl hst
  · right
    omega

/-- Of the sessions handed out in a run whose steps meet the condition, two of one version are
equal for `pjmedia_sdp_session_cmp`, and each has the version of the one before it or the next
one. -/
theorem origin_version_law (cfg : Config) {n : Neg} {ops : List Op} (hc : Created n)
    (hg : Guarded (step cfg) VersionOk n ops) : ((run (step cfg) n ops).sent.Pairwise fun s t =>
      s.origin.version = t.origin.version → sessionCmp s t = true) ∧
    (run (step cfg) n ops).sent.IsChain fun s t =>
      t.origin.version = s.origin.version ∨ t.origin.version = s.origin.version + 1 := by
  have hchain : (run (step cfg) n ops).sent.IsChain Follows :=
    @Guarded.invariant _ _ _ _ (fun n => n.sent.IsChain Follows)
      (fun _ _ h hok => step_follows cfg h hok) _ _ (created_follows hc) hg
  refine ⟨(Follows.pairwise hchain).imp ?_, hchain.imp ?_⟩
  · rintro s t (h | h) hv
    · exact h
    · omega
  · rintro s t (h | h)
    · exact .inl (sessionCmp_origin h ▸ rfl)
    · exact .inr h

def noCodecs : Config where
  audDynCodecs := []
  vidDynCodecs := none
  answerSymmetricPt := true
  aud_le := by decide
  vid_le := by simp

def audioLine (port : ℕ) : Media := ⟨lit "audio", port, 0, lit "RTP/AVP", [lit "0"], none, [], []⟩

def audioSession (name : String) (version port : ℕ) : Session where
  origin := ⟨lit "-", 1, version, lit "IN", lit "IP4", lit "10.0.0.1"⟩
  name := lit name
  conn := some ⟨lit "IN", lit "IP4", lit "10.0.0.1", 0, 0⟩
  bandw := []
  start := 0
  stop := 0
  attrs := []
  media := [audioLine port]

def offered (loc : Session) : Neg :=
  { Neg.init with
    state := .localOffer, initial := some loc, negLocal := some loc, lastSent := some loc
    sent := [loc] }

def establish : List Op :=
  [.setRemoteAnswer (audioSession "b" 1 5000), .negotiate (some ([audioLine 4000], [audioLine 5000]))]

def rejected (name : String) : List Op :=
  [.modifyLocalOffer2 false (audioSession name 1 4000), .setRemoteAnswer (audioSession "b" 1 0),
    .negotiate none]

/-- `process_answer` without a format matching callback. -/
def answerOf (offer answer : Session) :
    Except SdpAnswer.Status (List Sdp.Media × List Sdp.Media) :=
  SdpAnswer.processAnswer SdpAnswer.noFmtMatch false (forget offer).conn (forget offer).media
    (forget answer).media

lemma created_offered : Created (offered (audioSession "a" 1 4000)) :=
  .inl ⟨audioSession "a" 1 4000, rfl⟩

theorem origin_version_law_reoffer : (run (step noCodecs) (offered (audioSession "a" 1 4000))
      (establish ++ rejected "a2")).sent.Pairwise fun s t =>
        s.origin.version = t.origin.version → sessionCmp s t = true :=
  (origin_version_law noCodecs created_offered (by decide +kernel)).1

/-- A session is established, a second offer is answered with port zero and a third one is made:
the last two are different and have one version. -/
theorem failed_offer_reuses_version : answerOf (audioSession "a" 1 4000) (audioSession "b" 1 5000) =
      .ok ([forgetMedia (audioLine 4000)], [forgetMedia (audioLine 5000)]) ∧
    answerOf (audioSession "a2" 2 4000) (audioSession "b" 1 0) = .error .enomedia ∧
    ¬ ∀ (cfg : Config) (n : Neg) (ops : List Op), Created n → (run (step cfg) n ops).sent.Pairwise fun s t =>
        s.origin.version = t.origin.version → sessionCmp s t = true := by
  refine ⟨by decide +kernel, by decide +kernel, fun h => ?_⟩
  have hpair := h noCodecs (offered (audioSession "a" 1 4000))
    (establish ++ rejected "a2" ++ [.modifyLocalOffer2 false (audioSession "a3" 1 4000)])
    created_offered
  revert hpair
  decide +kernel

end PjProject.SdpNeg
