import PjProject.SessionTimer

/-!
# The bounds of the session timer

One end of a call, through any sequence of requests and responses, whatever their Session-Expires
and Min-SE headers say. Its interval stays at or above its minimum, and that at or above 90
seconds, so the delays that `start_timer` computes from it are in order.
-/
namespace PjProject.SessionTimer

open Transition

namespace Timer

def reqMinSe (t : Timer) : Option ℕ → ℕ
  | some minSe => max minSe t.minSe
  | none => t.minSe

lemma minSe_le_reqMinSe (t : Timer) (minSeHdr : Option ℕ) : t.minSe ≤ t.reqMinSe minSeHdr := by
  cases minSeHdr with
  | none => exact le_rfl
  | some minSe => exact le_max_right _ _

/-- `pjsip_timer_process_req` for a request with or without `Supported: timer`. -/
def processReqFrom (t : Timer) (force supported : Bool) (se : Option SessExpires) (minSeHdr : Option ℕ) :
    Option Timer :=
  let minSe := t.reqMinSe minSeHdr
  let kept := if t.asRefresher then Refresher.uas else .uac
  match se with
  | some hdr =>
    if hdr.sessExpires < minSe then none
    else
      let refresher := match hdr.refresher with
        | .uac => .uac
        | .uas => .uas
        | .unknown => if t.refresher ≠ .unknown then kept else if supported then .uac else .uas
      some { t with sessExpires := hdr.sessExpires, refresher := refresher, role := .uas, active := true }
  | none =>
    let t := if t.sessExpires < minSe then { t with sessExpires := minSe } else t
    if force = false then some { t with active := false }
    else
      let refresher := if t.refresher ≠ .unknown then kept else .uas
      some { t with refresher := refresher, role := .uas, active := true }

/-- The delays, in seconds, of the two timers that `start_timer` schedules. -/
structure Schedule where
  timer : ℤ
  expireTimer : Option ℤ
deriving DecidableEq

def refreshDelay (t : Timer) : ℤ := (t.sessExpires / 2 : ℕ)

def teardownDelay (t : Timer) : ℤ :=
  max ((t.sessExpires : ℤ) - 32) (t.sessExpires - t.sessExpires / 3 : ℕ)

def startTimer (t : Timer) : Schedule :=
  if t.asRefresher then ⟨t.refreshDelay, some t.sessExpires⟩ else ⟨t.teardownDelay, none⟩

/-- The interval is at or above the minimum, and that at or above `ABS_MIN_SE`. -/
structure Bounded (t : Timer) : Prop where
  absMinSe_le : absMinSe ≤ t.minSe
  minSe_le : t.minSe ≤ t.sessExpires

lemma bounded_init (s : Setting) : (initSession s).Bounded := ⟨s.absMinSe_le, s.minSe_le⟩

variable {t t' : Timer}

lemma Bounded.congr (h : t.Bounded) (hse : t'.sessExpires = t.sessExpires)
    (hmin : t'.minSe = t.minSe) : t'.Bounded := by
  refine ⟨?_, ?_⟩
  · rw [hmin]
    exact h.absMinSe_le
  · rw [hmin, hse]
    exact h.minSe_le

lemma Bounded.setSe (h : t.Bounded) (hmin : t'.minSe = t.minSe)
    (hse : t.minSe ≤ t'.sessExpires) : t'.Bounded := by
  refine ⟨?_, ?_⟩
  · rw [hmin]
    exact h.absMinSe_le
  · rw [hmin]
    exact hse

lemma Bounded.updateReq (h : t.Bounded) : t.updateReq.Bounded := by
  unfold Timer.updateReq
  split_ifs <;> exact h.congr rfl rfl

lemma Bounded.processReqFrom (h : t.Bounded) {force supported : Bool}
    {se : Option SessExpires} {minSeHdr : Option ℕ}
    (ht : t.processReqFrom force supported se minSeHdr = some t') : t'.Bounded := by
  have hmin := t.minSe_le_reqMinSe minSeHdr
  unfold Timer.processReqFrom at ht
  cases se with
  | some hdr =>
    dsimp only at ht
    by_cases hlt : hdr.sessExpires < t.reqMinSe minSeHdr
    · rw [if_pos hlt] at ht
      cases ht
    · rw [if_neg hlt] at ht
      obtain rfl := Option.some.inj ht
      exact h.setSe rfl (hmin.trans (not_lt.mp hlt))
  | none =>
    dsimp only at ht
    by_cases hlt : t.sessExpires < t.reqMinSe minSeHdr
    · simp only [if_pos hlt] at ht
      by_cases hforce : force = false
      · rw [if_pos hforce] at ht
        obtain rfl := Option.some.inj ht
        exact h.setSe rfl hmin
      · rw [if_neg hforce] at ht
        obtain rfl := Option.some.inj ht
        exact h.setSe rfl hmin
    · simp only [if_neg hlt] at ht
      by_cases hforce : force = false
      · rw [if_pos hforce] at ht
        obtain rfl := Option.some.inj ht
        exact h.congr rfl rfl
      · rw [if_neg hforce] at ht
        obtain rfl := Option.some.inj ht
        exact h.congr rfl rfl

lemma Bounded.process2xx (h : t.Bounded) (se : Option SessExpires) : (t.process2xx se).Bounded := by
  unfold Timer.process2xx
  cases se with
  | none => exact h.congr rfl rfl
  | some hdr =>
    by_cases hlow : hdr.sessExpires < t.minSe ∧ absMinSe ≤ hdr.sessExpires
    · simp only [if_pos hlow, le_refl, and_self, if_true]
      exact ⟨hlow.2, le_rfl⟩
    · by_cases hse : hdr.sessExpires ≤ t.sessExpires ∧ t.minSe ≤ hdr.sessExpires
      · simp only [if_neg hlow, if_pos hse]
        exact h.setSe rfl hse.2
      · simp only [if_neg hlow, if_neg hse]
        exact h.congr rfl rfl

end Timer

inductive TimerOp
  | sendRequest
  | sendResponse (m : Message) (code : ℕ)
  | request (supported : Bool) (se : Option SessExpires) (minSe : Option ℕ)
  | response (m : Message) (code : ℕ)

namespace Endpoint

/-- A request that `pjsip_timer_process_req` rejects leaves the timer as it is. -/
def timerStep (e : Endpoint) : TimerOp → Endpoint
  | .sendRequest => { e with timer := e.timer.updateReq }
  | .sendResponse _ _ => e
  | .request supported se minSe =>
    match e.timer.processReqFrom (e.requireTimer || e.alwaysUse) supported se minSe with
    | some timer => { e with timer := timer }
    | none => e
  | .response m code => (e.processResp m code).1

variable {e : Endpoint}

lemma processResp_bounded (h : e.timer.Bounded) (m : Message) (code : ℕ) :
    (e.processResp m code).1.timer.Bounded := by
  unfold processResp
  split
  · -- 422
    cases m.minSe with
    | none => exact h.congr rfl rfl
    | some minSe =>
      dsimp only
      split
      · split <;> exact h
      · refine ⟨h.absMinSe_le.trans (le_max_right _ _), ?_⟩
        dsimp only
        split_ifs with hlow
        · exact le_rfl
        · exact not_lt.mp hlow
  · split
    · -- 2xx
      split
      · exact h.congr rfl rfl
      · split
        · exact h.congr rfl rfl
        · exact h.process2xx m.se
    · exact h

lemma timerStep_bounded (h : e.timer.Bounded) (op : TimerOp) : (e.timerStep op).timer.Bounded := by
  cases op with
  | sendRequest => exact h.updateReq
  | sendResponse m code => exact h
  | request supported se minSe =>
    unfold timerStep
    dsimp only
    split
    · rename_i timer ht
      exact h.processReqFrom ht
    · exact h
  | response m code => exact processResp_bounded h m code

lemma run_bounded (ops : List TimerOp) (h : e.timer.Bounded) : (run timerStep e ops).timer.Bounded := by
  induction ops generalizing e with
  | nil => exact h
  | cons op ops ih => exact ih (timerStep_bounded h op)

/-- After any sequence of requests and responses the interval is within its bounds, a refresh
comes before the refreshee gives up, and that before the session expires. -/
theorem timer_bounds (e : Endpoint) (s : Setting) (ops : List TimerOp) :
    let t := (run timerStep { e with timer := .initSession s } ops).timer
    (90 ≤ t.minSe ∧ t.minSe ≤ t.sessExpires) ∧
      0 < t.refreshDelay ∧ t.refreshDelay < t.teardownDelay ∧ t.teardownDelay < t.sessExpires ∧
      t.startTimer = if t.asRefresher then ⟨t.refreshDelay, some t.sessExpires⟩ else ⟨t.teardownDelay, none⟩ := by
  intro t
  have h : t.Bounded := run_bounded ops (Timer.bounded_init s)
  obtain ⟨hmin, hse⟩ := h
  have habs : 90 ≤ t.minSe := hmin
  refine ⟨⟨habs, hse⟩, ?_, ?_, ?_, rfl⟩
  · unfold Timer.refreshDelay
    omega
  · unfold Timer.refreshDelay Timer.teardownDelay
    omega
  · unfold Timer.teardownDelay
    omega

end Endpoint

end PjProject.SessionTimer
