import PjProject.Dialog

/-!
# SIP dialog: the transaction counter

`tsx_count` is the number of transactions attached to the dialog, at every moment the
usages can look at it and however deep they call back into the dialog. A failed send
leaves no transaction behind that was not terminated.
-/
namespace PjProject.Dialog

open PjProject.Transaction (Role State Method)
open Dlg

/-- What is asked of an observation; `earlier` is the trace before it. -/
def Obs.Ok (earlier : List Obs) : Obs → Prop
  | .point count attached => count = attached
  | .dec count => 0 < count
  | .returned false (some i) => .terminated i ∈ earlier
  | _ => True

def Sound : List Obs → Prop
  | [] => True
  | o :: earlier => o.Ok earlier ∧ Sound earlier

lemma Sound.split {before after : List Obs} {o : Obs} (h : Sound (after ++ o :: before)) : o.Ok before := by
  induction after with
  | nil => exact h.1
  | cons a after ih => exact ih h.2

structure Counted (d : Dlg) : Prop where
  count : d.tsxCount = d.attached
  sound : Sound d.trace

structure Safe (f : Dlg → Dlg) : Prop where
  counted : ∀ d, Counted d → Counted (f d)
  keeps : ∀ d, d.trace <:+ (f d).trace

lemma Safe.ident : Safe id := ⟨fun _ h => h, fun _ => List.suffix_rfl⟩

lemma Safe.comp {f g : Dlg → Dlg} (hg : Safe g) (hf : Safe f) : Safe fun d => g (f d) :=
  ⟨fun d h => hg.counted _ (hf.counted d h), fun d => (hf.keeps d).trans (hg.keeps _)⟩

lemma Safe.ite {f g : Dlg → Dlg} {p : Dlg → Prop} [DecidablePred p] (hf : Safe f) (hg : Safe g) :
    Safe fun d => if p d then f d else g d := by
  constructor
  · intro d h
    split
    · exact hf.counted d h
    · exact hg.counted d h
  · intro d
    split
    · exact hf.keeps d
    · exact hg.keeps d

lemma Safe.observe {o : Obs} (ho : ∀ earlier, o.Ok earlier) : Safe (Dlg.observe o) :=
  ⟨fun d h => ⟨h.count, ho d.trace, h.sound⟩, fun _ => List.suffix_cons _ _⟩

lemma Safe.point : Safe Dlg.point :=
  ⟨fun _ h => ⟨h.count, h.count, h.sound⟩, fun _ => List.suffix_cons _ _⟩

variable {cb : Dlg → Dlg}

lemma Safe.usages (h : Safe cb) : Safe (Dlg.usages cb) := h.comp Safe.point

variable {i : ℕ}

lemma countP_modify {α : Type*} (p : α → Bool) (f : α → α) {l : List α} {a : α} (h : l[i]? = some a) :
    (l.modify i f).countP p + (p a).toNat = l.countP p + (p (f a)).toNat := by
  induction l generalizing i with
  | nil => simp at h
  | cons b l ih =>
    cases i with
    | zero =>
      obtain rfl : b = a := by simpa using h
      simp only [List.modify_zero_cons, List.countP_cons]
      cases p b <;> cases p (f b) <;> simp
    | succ i =>
      have := ih (i := i) (by simpa using h)
      simp only [List.modify_succ_cons, List.countP_cons]
      omega

lemma attached_modifyTsx {f : Tsx → Tsx} (hf : ∀ t, (f t).modData = t.modData) (i : ℕ)
    (d : Dlg) : (d.modifyTsx i f).attached = d.attached := by
  cases h : d.tsxs[i]? with
  | none =>
    rw [List.getElem?_eq_none_iff] at h
    simp [attached, modifyTsx, List.modify_eq_self h]
  | some t =>
    have := countP_modify (·.modData) f h
    rw [hf t] at this
    exact Nat.add_right_cancel this

lemma Safe.modifyTsx (f : Tsx → Tsx) (hf : ∀ t, (f t).modData = t.modData) (i : ℕ) :
    Safe (Dlg.modifyTsx i f) where
  counted d h := by
    refine ⟨?_, h.sound⟩
    rw [attached_modifyTsx hf]
    exact h.count
  keeps _ := List.suffix_rfl

lemma Safe.attachTsx (role : Role) : Safe (Dlg.attachTsx role) where
  counted d h := by
    refine ⟨?_, h.sound⟩
    have := h.count
    simp only [Dlg.attachTsx, attached, List.countP_append] at this ⊢
    simp [this]
  keeps _ := List.suffix_rfl

lemma tsxHas_iff {p : Tsx → Bool} {d : Dlg} :
    d.tsxHas i p = true ↔ ∃ t, d.tsxs[i]? = some t ∧ p t = true := by
  simp [tsxHas, Option.any_eq_true]

lemma Counted.detach {d : Dlg} (h : Counted d) {t : Tsx} (ht : d.tsxs[i]? = some t) (hm : t.modData = true) :
    Counted (d.decTsxCount.modifyTsx i fun t => { t with modData := false }) := by
  have hcount := countP_modify (·.modData) (fun t : Tsx => { t with modData := false }) ht
  have hpos := h.count
  simp only [hm, Bool.toNat_true, Bool.toNat_false] at hcount
  simp only [attached] at hpos
  refine ⟨?_, ?_, h.sound⟩
  · simp only [modifyTsx, decTsxCount, observe, attached]
    omega
  · change 0 < d.tsxCount
    omega

lemma Safe.pjsipDlgOnTsxState (hcb : Safe cb) (i : ℕ) : Safe (pjsipDlgOnTsxState cb i) := by
  constructor
  · intro d h
    have hu := hcb.usages.counted d h
    unfold Dialog.pjsipDlgOnTsxState
    dsimp only
    split
    next hif =>
      obtain ⟨t, ht, hp⟩ := tsxHas_iff.mp hif
      simp only [decide_eq_true_eq] at hp
      exact hu.detach ht hp.2
    next => exact hu
  · intro d
    have hu := hcb.usages.keeps d
    unfold Dialog.pjsipDlgOnTsxState
    dsimp only
    split
    · exact hu.trans (List.suffix_cons _ _)
    · exact hu

lemma Safe.modUaOnTsxState (hcb : Safe cb) (i : ℕ) : Safe (modUaOnTsxState cb i) :=
  (hcb.pjsipDlgOnTsxState i).ite Safe.ident

lemma Safe.tsxStateEntered (i : ℕ) (next : State) : Safe (tsxStateEntered i next) := by
  cases next
  case terminated => exact Safe.observe fun _ => trivial
  all_goals exact Safe.ident

lemma Safe.tsxSetState {rx : Dlg → Dlg} (hrx : Safe rx) (hcb : Safe cb) (i : ℕ)
    (next : State) : Safe (tsxSetState rx cb i next) :=
  (hcb.modUaOnTsxState i).comp (hrx.usages.comp
    ((Safe.tsxStateEntered i next).comp (Safe.modifyTsx _ (by intro; rfl) i)))

lemma Safe.tsxSetStatusCode (i code : ℕ) : Safe (tsxSetStatusCode i code) :=
  Safe.modifyTsx _ (by intro; rfl) i

lemma Safe.pjsipTsxTerminate (hcb : Safe cb) (i code : ℕ) : Safe (pjsipTsxTerminate cb i code) :=
  ((Safe.ident.tsxSetState hcb i .terminated).comp (Safe.tsxSetStatusCode i code)).ite Safe.ident

lemma terminated_mem_tsxSetState {rx : Dlg → Dlg} (hrx : Safe rx) (hcb : Safe cb) (i : ℕ)
    (d : Dlg) : .terminated i ∈ (tsxSetState rx cb i .terminated d).trace := by
  have hkeeps := ((hcb.modUaOnTsxState i).comp hrx.usages).keeps
    (tsxStateEntered i .terminated (d.modifyTsx i fun t => { t with state := .terminated }))
  exact hkeeps.subset (List.mem_cons_self)

lemma Safe.numberRequest (m : Method) : Safe (numberRequest m) where
  counted d h := by
    unfold Dialog.numberRequest
    split
    · exact ⟨h.count, trivial, h.sound⟩
    · exact h
  keeps d := by
    unfold Dialog.numberRequest
    split
    · exact List.suffix_cons _ _
    · exact List.suffix_rfl

lemma Safe.pjsipTsxSendMsg (hcb : Safe cb) (i : ℕ) (out : SendOutcome) :
    Safe fun d => (pjsipTsxSendMsg cb i d out).1 := by
  cases out with
  | sent => exact Safe.ident.tsxSetState hcb i .calling
  | failed code =>
    exact (Safe.ident.tsxSetState hcb i .terminated).comp (Safe.tsxSetStatusCode i code)
  | noTsx => exact Safe.tsxSetStatusCode i 503
  | refused => exact Safe.tsxSetStatusCode i 503

variable {again : Dlg → Dlg}

lemma terminated_mem_refused (hagain : Safe again) (d : Dlg) :
    let i := d.tsxs.length
    let d₁ := tsxSetStatusCode i 503 (d.attachTsx .uac)
    .terminated i ∈
      (pjsipTsxTerminate again i ((d₁.tsxs[i]?).elim 0 (·.statusCode)) d₁).trace := by
  intro i d₁
  have hnew : d₁.tsxs[i]? = some ⟨.uac, .null, 503, true⟩ := by
    simp [d₁, i, tsxSetStatusCode, modifyTsx, attachTsx]
  have hcond : 200 ≤ 503 ∧ d₁.tsxHas i (fun t => t.state.rank < State.terminated.rank) = true := by
    simp [tsxHas, hnew]
  simp only [hnew, Option.elim_some, pjsipTsxTerminate]
  rw [if_pos hcond]
  exact terminated_mem_tsxSetState Safe.ident hagain i _

lemma Safe.finishFailed (hagain : Safe again) (i : ℕ) (tsxCount : ℤ) :
    Safe (finishFailed again i tsxCount) := by
  constructor
  · intro d h
    unfold Dialog.finishFailed
    split
    · exact (hagain.pjsipTsxTerminate i _).counted d h
    · exact h
  · intro d
    unfold Dialog.finishFailed
    split
    · exact (hagain.pjsipTsxTerminate i _).keeps d
    · exact List.suffix_rfl

lemma terminated_mem_finishFailed (hcb : Safe cb) (hagain : Safe again)
    {out : SendOutcome} (hout : out ≠ .sent) (d : Dlg) :
    .terminated d.tsxs.length ∈ (finishFailed again d.tsxs.length (d.tsxCount + 1)
      (pjsipTsxSendMsg cb d.tsxs.length (d.attachTsx .uac) out).1).trace := by
  cases out with
  | sent => exact absurd rfl hout
  | failed code =>
    exact ((hagain.finishFailed _ _).keeps _).subset
      (terminated_mem_tsxSetState Safe.ident hcb _ _)
  | noTsx =>
    have hcount : (pjsipTsxSendMsg cb d.tsxs.length (d.attachTsx .uac) .noTsx).1.tsxCount =
      d.tsxCount + 1 := rfl
    rw [finishFailed, if_pos hcount]
    exact terminated_mem_refused hagain d
  | refused =>
    have hcount : (pjsipTsxSendMsg cb d.tsxs.length (d.attachTsx .uac) .refused).1.tsxCount =
      d.tsxCount + 1 := rfl
    rw [finishFailed, if_pos hcount]
    exact terminated_mem_refused hagain d

lemma pjsipTsxSendMsg_success (cb : Dlg → Dlg) (i : ℕ) (d : Dlg) (out : SendOutcome) :
    (pjsipTsxSendMsg cb i d out).2 = true ↔ out = .sent := by
  cases out <;> simp [pjsipTsxSendMsg]

lemma Safe.sendStatefully (hcb : Safe cb) (hagain : Safe again)
    (out : SendOutcome) : Safe (sendStatefully cb again out) := by
  have hsent (d : Dlg) := (hcb.pjsipTsxSendMsg d.tsxs.length out).comp (Safe.attachTsx .uac)
  constructor
  · intro d h
    rw [sendStatefully_eq]
    dsimp only
    split
    · have hdone := (hsent d).counted d h
      exact ⟨hdone.count, trivial, hdone.sound⟩
    next hfail =>
      rw [pjsipTsxSendMsg_success] at hfail
      have hdone := (hagain.finishFailed d.tsxs.length (d.tsxCount + 1)).counted _
        ((hsent d).counted d h)
      exact ⟨hdone.count, terminated_mem_finishFailed hcb hagain hfail d, hdone.sound⟩
  · intro d
    rw [sendStatefully_eq]
    dsimp only
    split
    · exact ((hsent d).keeps d).trans (List.suffix_cons _ _)
    · exact (((hagain.finishFailed d.tsxs.length (d.tsxCount + 1)).comp (hsent d)).keeps d).trans
        (List.suffix_cons _ _)

lemma Safe.pjsipDlgSendRequest (hcb : Safe cb) (hagain : Safe again)
    (m : Method) (out : SendOutcome) : Safe (pjsipDlgSendRequest cb again m out) := by
  have hack : Safe fun d : Dlg =>
      { d with ackSent := true }.observe (.returned (out = SendOutcome.sent) none) := by
    constructor
    · intro d h
      refine ⟨h.count, ?_, h.sound⟩
      by_cases hout : out = .sent <;> simp [Obs.Ok, hout]
    · intro d
      exact List.suffix_cons _ _
  have hnone : Safe (Dlg.observe (.returned false none)) := Safe.observe fun _ => trivial
  have hstateful : Safe fun d =>
      if out = .noTsx then d.observe (.returned false none)
      else Dialog.sendStatefully cb again out d :=
    hnone.ite (p := fun _ => out = .noTsx) (hcb.sendStatefully hagain out)
  exact (hstateful.ite (p := fun _ => m ≠ .ack) hack).comp (Safe.numberRequest m)

lemma Safe.execAll (cs : List Call) : Safe (execAll cs) := by
  apply execAll_rule Safe.ident (fun _ _ hf hg => hg.comp hf)
  · intro cb again m out hcb hagain
    exact Safe.point.comp (hcb.pjsipDlgSendRequest hagain m out)
  · intro cb i code hcb
    exact Safe.point.comp (hcb.pjsipTsxTerminate i code)
  · intro rx cb i code next hrx hcb
    exact Safe.point.comp ((hrx.tsxSetState hcb i next).comp (Safe.tsxSetStatusCode i code))

lemma Safe.exec (c : Call) : Safe (exec c) := Safe.execAll [c]

lemma Safe.elim {o : Option State} {f : State → Dlg → Dlg} (hf : ∀ next, Safe (f next)) :
    Safe fun d => o.elim d fun next => f next d := by
  cases o with
  | none => exact Safe.ident
  | some next => exact hf next

lemma Safe.pjsipTsxRecvMsg (r : RxRequest) (i : ℕ) : Safe (pjsipTsxRecvMsg r i) := by
  have hfeed (next : State) := Safe.ident.tsxSetState (Safe.execAll r.trying) i next
  exact (hfeed .trying).ite (Safe.elim hfeed)

lemma Safe.respondUnhandled (r : RxRequest) (i : ℕ) : Safe (respondUnhandled r i) := by
  have hrespond (next : State) := (Safe.ident.tsxSetState (Safe.execAll r.respond) i next).comp
    (Safe.tsxSetStatusCode i 500)
  exact (Safe.elim hrespond).ite Safe.ident

lemma Safe.acceptRequest (r : RxRequest) : Safe (acceptRequest r) := by
  have hremote : Safe fun d : Dlg => { d with remoteCseq := r.cseq } :=
    ⟨fun d h => ⟨h.count, h.sound⟩, fun d => List.suffix_rfl⟩
  have hpassed : Safe (Dlg.observe (.passed r.method r.cseq)) := Safe.observe fun _ => trivial
  have husage := (Safe.execAll r.usage).usages.comp hpassed
  have hstateful : Safe fun d : Dlg =>
      Dialog.respondUnhandled r d.tsxs.length (Dialog.pjsipTsxRecvMsg r d.tsxs.length
        (((d.attachTsx .uas).observe (.passed r.method r.cseq)).usages
          (Dialog.execAll r.usage))) := by
    have hparts (i : ℕ) := (Safe.respondUnhandled r i).comp
      ((Safe.pjsipTsxRecvMsg r i).comp (husage.comp (Safe.attachTsx .uas)))
    exact ⟨fun d => (hparts d.tsxs.length).counted d, fun d => (hparts d.tsxs.length).keeps d⟩
  exact ((hstateful.ite (p := fun _ => r.created = true) Safe.ident).ite
    (p := fun _ => (!r.hasTsx && r.method ≠ .ack) = true) husage).comp hremote

lemma Safe.pjsipDlgOnRxRequest (r : RxRequest) : Safe (pjsipDlgOnRxRequest r) :=
  Safe.ident.ite (Safe.point.comp (Safe.acceptRequest r))

lemma Safe.step (e : Input) : Safe fun d => step d e := by
  cases e with
  | call c => exact Safe.exec c
  | rxRequest r => exact Safe.pjsipDlgOnRxRequest r

lemma counted_empty (localCseq remoteCseq : ℤ) :
    Counted ⟨localCseq, remoteCseq, false, 0, [], []⟩ := ⟨rfl, trivial⟩

lemma registers_eq_true (tag : Guid) : registers tag = true := by
  have := tag.pos
  simp only [registers, ne_eq, decide_eq_true_eq]
  omega

lemma counted_create (c : Creation) : Counted (create c) := by
  cases c with
  | uac rand => exact counted_empty _ _
  | fork cseq => exact counted_empty _ _
  | uas rand cseq tag =>
    have hsafe := Safe.point.comp
      ((Safe.ident.tsxSetState Safe.ident 0 .trying).comp (Safe.attachTsx .uas))
    have hcounted := hsafe.counted _ (counted_empty (rand % 0x8000 : ℕ) cseq)
    simpa [create, createUasDialog, registers_eq_true tag] using hcounted

/-- In every run of a dialog, however the usages call back into it, `tsx_count` is the
number of transactions attached to the dialog, also whenever the usages look at it; it is
decremented only when positive; and when `pjsip_dlg_send_request` returns an error, the
transaction it created has been terminated before. -/
theorem dialog_tsx_count (c : Creation) (es : List Input) :
    let d := Transition.run step (create c) es
    d.tsxCount = d.attached ∧
      (∀ (count : ℤ) (attached : ℕ), .point count attached ∈ d.trace → count = attached) ∧
      (∀ count, .dec count ∈ d.trace → 0 < count) ∧
      ∀ before after i, d.trace = after ++ .returned false (some i) :: before →
        .terminated i ∈ before := by
  intro d
  have hd : Counted d :=
    Transition.run_invariant (fun s e h => (Safe.step e).counted s h) (counted_create c) es
  have hok (o : Obs) (ho : o ∈ d.trace) : ∃ before, o.Ok before := by
    obtain ⟨after, before, heq⟩ := List.append_of_mem ho
    have hsound := hd.sound
    rw [heq] at hsound
    exact ⟨before, hsound.split⟩
  refine ⟨hd.count, ?_, ?_, ?_⟩
  · intro count attached ho
    obtain ⟨before, h⟩ := hok _ ho
    exact h
  · intro count ho
    obtain ⟨before, h⟩ := hok _ ho
    exact h
  · intro before after i heq
    have hsound := hd.sound
    rw [heq] at hsound
    exact hsound.split (o := .returned false (some i))

end PjProject.Dialog
