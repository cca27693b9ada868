import PjProject.Dialog

/-!
# SIP dialog: the CSeq law

Received requests are checked against `remote.cseq` unless they are ACK or CANCEL, but
every one of them sets it. Replay protection holds in exactly those runs where no ACK or
CANCEL carries a lower number than the dialog has seen; the numbers of the outgoing
requests are consecutive in all runs.
-/
namespace PjProject.Dialog
open Transition

open PjProject.Transaction (Role State Method)
open Dlg

def takesNumber (m : Method) : Prop := m ≠ .ack ∧ m ≠ .cancel

instance (m : Method) : Decidable (takesNumber m) := inferInstanceAs (Decidable (_ ∧ _))

def numberedCseqs (trace : List Obs) : List ℤ :=
  trace.filterMap fun
    | .numbered cseq => some cseq
    | _ => none

def passedCseqs (trace : List Obs) : List ℤ :=
  trace.filterMap fun
    | .passed m cseq => if takesNumber m then some cseq else none
    | _ => none

structure Numbered (d : Dlg) : Prop where
  chain : (numberedCseqs d.trace).IsChain fun later earlier => later = int32 (earlier + 1)
  next : ∀ last ∈ (numberedCseqs d.trace).head?, d.localCseq = int32 (last + 1)

/-- What the usages and the transaction layer do with the CSeq data: nothing but number
outgoing requests. -/
structure Neutral (f : Dlg → Dlg) : Prop where
  remote : ∀ d, (f d).remoteCseq = d.remoteCseq
  passed : ∀ d, passedCseqs (f d).trace = passedCseqs d.trace
  numbered : ∀ d, Numbered d → Numbered (f d)

lemma Neutral.ident : Neutral id := ⟨fun _ => rfl, fun _ => rfl, fun _ h => h⟩

variable {f : Dlg → Dlg}

lemma Neutral.comp {g : Dlg → Dlg} (hg : Neutral g) (hf : Neutral f) :
    Neutral fun d => g (f d) where
  remote d := (hg.remote _).trans (hf.remote d)
  passed d := (hg.passed _).trans (hf.passed d)
  numbered d h := hg.numbered _ (hf.numbered d h)

lemma Neutral.ite {g : Dlg → Dlg} {p : Dlg → Prop} [DecidablePred p] (hf : Neutral f)
    (hg : Neutral g) : Neutral fun d => if p d then f d else g d := by
  constructor <;> intro d
  · split
    · exact hf.remote d
    · exact hg.remote d
  · split
    · exact hf.passed d
    · exact hg.passed d
  · intro h
    split
    · exact hf.numbered d h
    · exact hg.numbered d h

lemma Neutral.of_eq (hlocal : ∀ d, (f d).localCseq = d.localCseq)
    (hremote : ∀ d, (f d).remoteCseq = d.remoteCseq)
    (hnumbered : ∀ d, numberedCseqs (f d).trace = numberedCseqs d.trace)
    (hpassed : ∀ d, passedCseqs (f d).trace = passedCseqs d.trace) : Neutral f where
  remote := hremote
  passed := hpassed
  numbered d h := by
    refine ⟨?_, ?_⟩
    · rw [hnumbered]
      exact h.chain
    · rw [hnumbered, hlocal]
      exact h.next

lemma Neutral.point : Neutral Dlg.point :=
  .of_eq (fun _ => rfl) (fun _ => rfl) (fun _ => rfl) (fun _ => rfl)

lemma Neutral.returned (success : Bool) (created : Option ℕ) :
    Neutral (Dlg.observe (.returned success created)) :=
  .of_eq (fun _ => rfl) (fun _ => rfl) (fun _ => rfl) (fun _ => rfl)

variable (i : ℕ)

lemma Neutral.modifyTsx (f : Tsx → Tsx) : Neutral (Dlg.modifyTsx i f) :=
  .of_eq (fun _ => rfl) (fun _ => rfl) (fun _ => rfl) (fun _ => rfl)

lemma Neutral.attachTsx (role : Role) : Neutral (Dlg.attachTsx role) :=
  .of_eq (fun _ => rfl) (fun _ => rfl) (fun _ => rfl) (fun _ => rfl)

lemma Neutral.decTsxCount : Neutral Dlg.decTsxCount :=
  .of_eq (fun _ => rfl) (fun _ => rfl) (fun _ => rfl) (fun _ => rfl)

variable {cb : Dlg → Dlg}

lemma Neutral.usages (h : Neutral cb) : Neutral (Dlg.usages cb) :=
  h.comp .point

lemma Neutral.pjsipDlgOnTsxState (hcb : Neutral cb) (i : ℕ) : Neutral (pjsipDlgOnTsxState cb i) := by
  have hdetach : Neutral fun d =>
      if d.tsxHas i fun t => t.state = .terminated ∧ t.modData then
        d.decTsxCount.modifyTsx i fun t => { t with modData := false }
      else d :=
    ((Neutral.modifyTsx i _).comp .decTsxCount).ite .ident
  exact hdetach.comp hcb.usages

lemma Neutral.modUaOnTsxState (hcb : Neutral cb) (i : ℕ) : Neutral (modUaOnTsxState cb i) :=
  (hcb.pjsipDlgOnTsxState i).ite .ident

lemma Neutral.tsxStateEntered (next : State) : Neutral (tsxStateEntered i next) := by
  cases next
  case terminated =>
    exact .of_eq (fun _ => rfl) (fun _ => rfl) (fun _ => rfl) (fun _ => rfl)
  all_goals exact .ident

lemma Neutral.tsxSetState {rx : Dlg → Dlg} (hrx : Neutral rx) (hcb : Neutral cb) (i : ℕ)
    (next : State) : Neutral (tsxSetState rx cb i next) :=
  (hcb.modUaOnTsxState i).comp (hrx.usages.comp
    ((Neutral.tsxStateEntered i next).comp (.modifyTsx i _)))

lemma Neutral.tsxSetStatusCode (code : ℕ) : Neutral (tsxSetStatusCode i code) :=
  .modifyTsx i _

lemma Neutral.pjsipTsxTerminate (hcb : Neutral cb) (i code : ℕ) : Neutral (pjsipTsxTerminate cb i code) :=
  ((Neutral.ident.tsxSetState hcb i .terminated).comp (.tsxSetStatusCode i code)).ite .ident

lemma Neutral.pjsipTsxSendMsg (hcb : Neutral cb) (i : ℕ) (out : SendOutcome) :
    Neutral fun d => (pjsipTsxSendMsg cb i d out).1 := by
  cases out with
  | sent => exact Neutral.ident.tsxSetState hcb i .calling
  | failed code =>
    exact (Neutral.ident.tsxSetState hcb i .terminated).comp (.tsxSetStatusCode i code)
  | noTsx => exact .tsxSetStatusCode i 503
  | refused => exact .tsxSetStatusCode i 503

lemma Neutral.numberRequest (m : Method) : Neutral (numberRequest m) := by
  constructor <;> intro d <;> unfold Dialog.numberRequest
  · split <;> rfl
  · split <;> rfl
  · intro h
    split
    · refine ⟨?_, ?_⟩
      · change (d.localCseq :: numberedCseqs d.trace).IsChain _
        exact List.isChain_cons.mpr ⟨h.next, h.chain⟩
      · intro last hlast
        obtain rfl : d.localCseq = last := Option.some.inj hlast
        rfl
    · exact h

variable {again : Dlg → Dlg}

lemma Neutral.finishFailed (hagain : Neutral again) (i : ℕ)
    (tsxCount : ℤ) : Neutral (finishFailed again i tsxCount) := by
  have hcode (code : ℕ) := hagain.pjsipTsxTerminate i code
  have hterminate : Neutral fun d : Dlg =>
      Dialog.pjsipTsxTerminate again i ((d.tsxs[i]?).elim 0 (·.statusCode)) d :=
    ⟨fun d => (hcode _).remote d, fun d => (hcode _).passed d, fun d => (hcode _).numbered d⟩
  exact hterminate.ite .ident

lemma Neutral.sendStatefully (hcb : Neutral cb) (hagain : Neutral again)
    (out : SendOutcome) : Neutral (sendStatefully cb again out) := by
  have hsent (i : ℕ) := (hcb.pjsipTsxSendMsg i out).comp (Neutral.attachTsx .uac)
  have hok (i : ℕ) := (Neutral.returned true (some i)).comp (hsent i)
  have hfail (i : ℕ) (n : ℤ) :=
    (Neutral.returned false (some i)).comp ((hagain.finishFailed i n).comp (hsent i))
  constructor <;> intro d <;> rw [sendStatefully_eq] <;> dsimp only
  · split
    · exact (hok _).remote d
    · exact (hfail _ _).remote d
  · split
    · exact (hok _).passed d
    · exact (hfail _ _).passed d
  · intro h
    split
    · exact (hok _).numbered d h
    · exact (hfail _ _).numbered d h

lemma Neutral.pjsipDlgSendRequest (hcb : Neutral cb)
    (hagain : Neutral again) (m : Method) (out : SendOutcome) :
    Neutral (pjsipDlgSendRequest cb again m out) := by
  have hack : Neutral fun d : Dlg =>
      { d with ackSent := true }.observe (.returned (out = SendOutcome.sent) none) :=
    .of_eq (fun _ => rfl) (fun _ => rfl) (fun _ => rfl) (fun _ => rfl)
  have hstateful : Neutral fun d =>
      if out = .noTsx then d.observe (.returned false none)
      else Dialog.sendStatefully cb again out d :=
    (Neutral.returned false none).ite (p := fun _ => out = .noTsx) (hcb.sendStatefully hagain out)
  exact (hstateful.ite (p := fun _ => m ≠ .ack) hack).comp (Neutral.numberRequest m)

lemma Neutral.execAll (cs : List Call) : Neutral (execAll cs) := by
  apply execAll_rule Neutral.ident (fun _ _ hf hg => hg.comp hf)
  · intro cb again m out hcb hagain
    exact Neutral.point.comp (hcb.pjsipDlgSendRequest hagain m out)
  · intro cb i code hcb
    exact Neutral.point.comp (hcb.pjsipTsxTerminate i code)
  · intro rx cb i code next hrx hcb
    exact Neutral.point.comp ((hrx.tsxSetState hcb i next).comp (.tsxSetStatusCode i code))

lemma Neutral.elim {o : Option State} {f : State → Dlg → Dlg} (hf : ∀ next, Neutral (f next)) :
    Neutral fun d => o.elim d fun next => f next d := by
  cases o with
  | none => exact .ident
  | some next => exact hf next

variable (r : RxRequest)

lemma Neutral.pjsipTsxRecvMsg (i : ℕ) : Neutral (pjsipTsxRecvMsg r i) := by
  have hfeed (next : State) := Neutral.ident.tsxSetState (Neutral.execAll r.trying) i next
  exact (hfeed .trying).ite (Neutral.elim hfeed)

lemma Neutral.respondUnhandled (i : ℕ) : Neutral (respondUnhandled r i) := by
  have hrespond (next : State) :=
    (Neutral.ident.tsxSetState (Neutral.execAll r.respond) i next).comp
      (.tsxSetStatusCode i 500)
  exact (Neutral.elim hrespond).ite .ident

/-- Passing a request to the usages after `remote.cseq` was set to its number. -/
def passRequest (r : RxRequest) (d : Dlg) : Dlg :=
  { d with remoteCseq := r.cseq }.observe (.passed r.method r.cseq)

lemma passedCseqs_passRequest (d : Dlg) : passedCseqs (passRequest r d).trace =
      if takesNumber r.method then r.cseq :: passedCseqs d.trace else passedCseqs d.trace := by
  simp only [passRequest, observe, passedCseqs, List.filterMap_cons]
  split <;> simp_all

lemma acceptRequest_eq : (∀ d, acceptRequest r d = { d with remoteCseq :=r.cseq }) ∨
      ∃ f, Neutral f ∧ ∀ d, acceptRequest r d = f (passRequest r d) := by
  have husage := (Neutral.execAll r.usage).usages
  by_cases hnew : (!r.hasTsx && decide (r.method ≠ .ack)) = true
  · by_cases hcreated : r.created = true
    · have hparts (i : ℕ) := (Neutral.respondUnhandled r i).comp
        ((Neutral.pjsipTsxRecvMsg r i).comp (husage.comp (Neutral.attachTsx .uas)))
      refine .inr ⟨fun d => Dialog.respondUnhandled r d.tsxs.length
        (Dialog.pjsipTsxRecvMsg r d.tsxs.length
          ((d.attachTsx .uas).usages (Dialog.execAll r.usage))), ⟨?_, ?_, ?_⟩, ?_⟩
      · exact fun d => (hparts d.tsxs.length).remote d
      · exact fun d => (hparts d.tsxs.length).passed d
      · exact fun d => (hparts d.tsxs.length).numbered d
      · intro d
        unfold acceptRequest
        rw [if_pos hnew, if_pos hcreated]
        rfl
    · refine .inl fun d => ?_
      unfold acceptRequest
      rw [if_pos hnew, if_neg hcreated]
  · refine .inr ⟨_, husage, fun d => ?_⟩
    unfold acceptRequest
    rw [if_neg hnew]
    rfl

variable {d : Dlg}

lemma passRequest_numbered {r : RxRequest} (h : Numbered d) : Numbered (passRequest r d) :=⟨h.chain, h.next⟩

lemma onRxRequest_cases (d : Dlg) :
    (pjsipDlgOnRxRequest r d = d ∧ takesNumber r.method ∧ r.cseq ≤ d.remoteCseq) ∨
      ((takesNumber r.method → d.remoteCseq < r.cseq) ∧ (pjsipDlgOnRxRequest r d).remoteCseq = r.cseq ∧
        (passedCseqs (pjsipDlgOnRxRequest r d).trace = passedCseqs d.trace ∨ takesNumber r.method ∧
            passedCseqs (pjsipDlgOnRxRequest r d).trace = r.cseq :: passedCseqs d.trace)) := by
  by_cases hlow : r.cseq ≤ d.remoteCseq ∧ r.method ≠ .ack ∧ r.method ≠ .cancel
  · refine .inl ⟨?_, hlow.2, hlow.1⟩
    rw [pjsipDlgOnRxRequest, if_pos hlow]
  · have heq : pjsipDlgOnRxRequest r d = (acceptRequest r d).point := by
      rw [pjsipDlgOnRxRequest, if_neg hlow]
    refine .inr ⟨fun hm => lt_of_not_ge fun hle => hlow ⟨hle, hm⟩, ?_⟩
    rw [heq, Neutral.point.remote, Neutral.point.passed]
    obtain hnone | ⟨f, hf, hpass⟩ := acceptRequest_eq r
    · rw [hnone]
      exact ⟨rfl, .inl rfl⟩
    · rw [hpass, hf.remote, hf.passed, passedCseqs_passRequest]
      refine ⟨rfl, ?_⟩
      split
      next hm => exact .inr ⟨hm, rfl⟩
      next => exact .inl rfl

lemma onRxRequest_numbered (h : Numbered d) : Numbered (pjsipDlgOnRxRequest r d) := by
  unfold pjsipDlgOnRxRequest
  split
  · exact h
  · apply Neutral.point.numbered
    obtain hnone | ⟨f, hf, hpass⟩ := acceptRequest_eq r
    · rw [hnone]
      exact ⟨h.chain, h.next⟩
    · rw [hpass]
      exact hf.numbered _ (passRequest_numbered h)

/-- The condition on a step: a delivered ACK or CANCEL does not carry a lower number than
the dialog has seen. -/
def InOrder (d : Dlg) : Input → Prop
  | .rxRequest r => r.method = .ack ∨ r.method = .cancel → d.remoteCseq ≤ r.cseq
  | .call _ => True

/-- The law of the claim, over a run from `d`. -/
structure CseqLaw (d : Dlg) (es : List Input) : Prop where
  monotone : ∀ pre mid post, es = pre ++ mid ++ post →
    (run step d pre).remoteCseq ≤ (run step d (pre ++ mid)).remoteCseq
  once : (passedCseqs (run step d es).trace).Nodup
  consecutive : (numberedCseqs (run step d es).trace).IsChain
    fun later earlier => later = int32 (earlier + 1)

/-- The invariant of an orderly run: what was passed is not above `remote.cseq`. -/
structure Seen (d : Dlg) : Prop where
  le : ∀ cseq ∈ passedCseqs d.trace, cseq ≤ d.remoteCseq
  nodup : (passedCseqs d.trace).Nodup

variable {e : Input}

lemma step_remote_le (he : InOrder d e) : d.remoteCseq ≤ (step d e).remoteCseq := by
  cases e with
  | call c => exact ((Neutral.execAll [c]).remote d).ge
  | rxRequest r =>
    obtain ⟨heq, -⟩ | ⟨hlt, hremote, -⟩ := onRxRequest_cases r d
    · exact (congrArg remoteCseq heq).ge
    · change d.remoteCseq ≤ (pjsipDlgOnRxRequest r d).remoteCseq
      rw [hremote]
      by_cases hm : takesNumber r.method
      · exact (hlt hm).le
      · apply he
        unfold takesNumber at hm
        tauto

lemma step_seen (h : Seen d) (he : InOrder d e) : Seen (step d e) := by
  have hmono := step_remote_le he
  cases e with
  | call c =>
    have hpassed : passedCseqs (step d (.call c)).trace = passedCseqs d.trace :=
      (Neutral.execAll [c]).passed d
    refine ⟨?_, by rw [hpassed]; exact h.nodup⟩
    rw [hpassed]
    exact fun cseq hc => (h.le cseq hc).trans hmono
  | rxRequest r =>
    obtain ⟨heq, -⟩ | ⟨hlt, hremote, hpassed | ⟨hm, hpassed⟩⟩ := onRxRequest_cases r d
    · have hstep : step d (.rxRequest r) = d := heq
      rw [hstep]
      exact h
    · refine ⟨?_, hpassed.symm ▸ h.nodup⟩
      intro cseq hc
      exact (h.le cseq (hpassed ▸ hc)).trans hmono
    · refine ⟨?_, ?_⟩
      · intro cseq hc
        change cseq ∈ passedCseqs (pjsipDlgOnRxRequest r d).trace at hc
        change cseq ≤ (pjsipDlgOnRxRequest r d).remoteCseq
        rw [hpassed, List.mem_cons] at hc
        obtain rfl | hc := hc
        · exact hremote.ge
        · exact (h.le cseq hc).trans hmono
      · change (passedCseqs (pjsipDlgOnRxRequest r d).trace).Nodup
        rw [hpassed, List.nodup_cons]
        exact ⟨fun hmem => absurd (h.le _ hmem) (hlt hm).not_ge, h.nodup⟩

lemma step_numbered (h : Numbered d) : Numbered (step d e) := by
  cases e with
  | call c => exact (Neutral.execAll [c]).numbered d h
  | rxRequest r => exact onRxRequest_numbered r h

lemma run_remote_le {es : List Input} (h : Guarded step InOrder d es) :
    d.remoteCseq ≤ (run step d es).remoteCseq := by
  induction es generalizing d with
  | nil => exact le_rfl
  | cons e es ih => exact (step_remote_le h.1).trans (ih h.2)

lemma create_cseqs (c : Creation) : passedCseqs (create c).trace = [] ∧ Numbered (create c) := by
  cases c with
  | uac rand => exact ⟨rfl, ⟨.nil, by simp [create, numberedCseqs]⟩⟩
  | fork cseq => exact ⟨rfl, ⟨.nil, by simp [create, numberedCseqs]⟩⟩
  | uas rand cseq tag =>
    have hcreate : Neutral (createUasDialog tag) := by
      have htrying := Neutral.point.comp (Neutral.ident.tsxSetState Neutral.ident 0 .trying)
      have herror := Neutral.decTsxCount.comp (Neutral.ident.pjsipTsxTerminate 0 500)
      exact (htrying.ite (p := fun _ => registers tag = true) herror).comp (.attachTsx .uas)
    refine ⟨hcreate.passed _, hcreate.numbered _ ⟨.nil, by simp [numberedCseqs]⟩⟩

lemma step_remote_of_exempt {r : RxRequest}
    (hm : r.method = .ack ∨ r.method = .cancel) : (step d (.rxRequest r)).remoteCseq = r.cseq := by
  obtain ⟨-, hnumber, -⟩ | ⟨-, hremote, -⟩ := onRxRequest_cases r d
  · unfold takesNumber at hnumber
    tauto
  · exact hremote

/-- The CSeq law holds of a run exactly when no delivered ACK or CANCEL has a lower number
than the dialog has seen before it. -/
theorem cseqLaw_iff_inOrder (c : Creation) (es : List Input) :
    CseqLaw (create c) es ↔ Guarded step InOrder (create c) es := by
  obtain ⟨hpassed, hnumbered⟩ := create_cseqs c
  constructor
  · intro h
    refine guarded_iff.mpr ?_
    rintro pre e post rfl
    cases e with
    | call c => trivial
    | rxRequest r =>
      intro hm
      have hle := h.monotone pre [.rxRequest r] post (by simp)
      rwa [run_append, run_cons, run_nil,
        step_remote_of_exempt hm] at hle
  · intro h
    refine ⟨?_, ?_, ?_⟩
    · rintro pre mid post rfl
      rw [run_append]
      exact run_remote_le h.append.1.append.2
    · have hseen : Seen (create c) := ⟨by simp [hpassed], by simp [hpassed]⟩
      exact (h.invariant (fun _ _ => step_seen) hseen).nodup
    · exact (run_invariant (fun _ _ => step_numbered) hnumbered es).chain

def replayedDialog : Dlg := create (.uas 0 10 ⟨[48], by decide⟩)

def replayedUpdate : List Input :=
  let update : RxRequest := ⟨.other, 11, false, true, [], true, [], none, none, []⟩
  [.rxRequest update, .rxRequest { update with method := .ack, cseq := 10 }, .rxRequest update]

theorem replayed_update_passed_twice : passedCseqs (run step replayedDialog replayedUpdate).trace = [11, 11] ∧
      ¬ CseqLaw replayedDialog replayedUpdate := by
  have hpassed :
      passedCseqs (run step replayedDialog replayedUpdate).trace = [11, 11] := by
    decide +kernel
  refine ⟨hpassed, fun h => ?_⟩
  have honce := h.once
  rw [hpassed] at honce
  exact absurd honce (by decide)

end PjProject.Dialog
