import PjProject.WebsockRead

/-!
# Messages in fragments

A message is one data frame, or a data frame without `FIN` and the frames that continue it.
The frames of a message are put together in `frag_buf`, whose length alone says whether a
message is under way: a first fragment without bytes is forgotten, and a frame that is
skipped for its size leaves the fragments before it in place.
-/
namespace PjProject.WebSocket

open Transition (run Guarded)

def Opcode.startsMessage : Opcode → Bool
  | text | bin => true
  | _ => false

variable {op : Opcode}

lemma Opcode.startsMessage_iff : op.startsMessage = true ↔ op = .text ∨ op = .bin := by
  cases op <;> simp [Opcode.startsMessage]

def RxFrame.isData (f : RxFrame) : Bool := !f.masked && (f.opcode.startsMessage || f.opcode = .cont)

@[simp] lemma websockClose_fragBuf (ep : Endpoint) (code : ℕ) (reason : Bytes) :
    (websockClose ep code reason).fragBuf = ep.fragBuf := by
  unfold websockClose sendCloseFrame
  split_ifs <;> rfl

@[simp] lemma websockClose_callbacks (ep : Endpoint) (code : ℕ) (reason : Bytes) :
    (websockClose ep code reason).callbacks = ep.callbacks := by
  unfold websockClose sendCloseFrame
  split_ifs <;> rfl

@[simp] lemma websockClose_fragOpcode (ep : Endpoint) (code : ℕ) (reason : Bytes) :
    (websockClose ep code reason).fragOpcode = ep.fragOpcode := by
  unfold websockClose sendCloseFrame
  split_ifs <;> rfl

variable (app : App)

lemma notify_keeps (ep : Endpoint) (cb : Callback) :
    (notify app ep cb).callbacks = cb :: ep.callbacks ∧ (notify app ep cb).fragBuf = ep.fragBuf ∧
      (notify app ep cb).fragOpcode = ep.fragOpcode := by
  unfold notify
  cases h : app (cb :: ep.callbacks) <;> simp [h, websockDestroy]

def Endpoint.msgs (ep : Endpoint) : List (Opcode × Bytes) :=
  ep.callbacks.filterMap fun
    | .rxMsg opcode data => some (opcode, data)
    | .close _ _ => none

variable {ep ep' : Endpoint}

lemma msgs_cons_close {code : ℕ} {reason : Bytes}
    (h : ep'.callbacks = .close code reason :: ep.callbacks) : ep'.msgs = ep.msgs := by
  simp [Endpoint.msgs, h]

lemma msgs_cons_rxMsg {data : Bytes}
    (h : ep'.callbacks = .rxMsg op data :: ep.callbacks) : ep'.msgs = (op, data) :: ep.msgs := by
  simp [Endpoint.msgs, h]

def SameMessage (ep ep' : Endpoint) : Prop :=
  ep'.fragBuf = ep.fragBuf ∧ ep'.fragOpcode = ep.fragOpcode ∧ ep'.msgs = ep.msgs

lemma notify_close_same (code : ℕ) (reason : Bytes)
    (h : SameMessage ep ep') : SameMessage ep (notify app ep' (.close code reason)) := by
  obtain ⟨h1, h2, h3⟩ := notify_keeps app ep' (.close code reason)
  exact ⟨h2.trans h.1, h3.trans h.2.1, (msgs_cons_close h1).trans h.2.2⟩

lemma handleClose_same (ep : Endpoint) (payload : Bytes) : SameMessage ep (handleClose app ep payload) := by
  unfold handleClose
  dsimp only
  split_ifs
  · exact ⟨rfl, rfl, rfl⟩
  · exact notify_close_same app _ _ ⟨rfl, rfl, rfl⟩
  · exact ⟨rfl, rfl, rfl⟩
  · exact notify_close_same app _ _ ⟨rfl, rfl, rfl⟩

lemma failMasked_same (ep : Endpoint) : SameMessage ep (failMasked app ep) := by
  unfold failMasked
  dsimp only
  split_ifs
  · exact ⟨rfl, rfl, rfl⟩
  · exact notify_close_same app _ _ ⟨rfl, rfl, rfl⟩
  · exact ⟨rfl, rfl, rfl⟩
  · exact notify_close_same app _ _ ⟨rfl, rfl, rfl⟩

variable {f : RxFrame}

lemma rxFrame_control (ep : Endpoint) (hf : f.isData = false) : SameMessage ep (rxFrame app ep f).1 := by
  unfold rxFrame
  by_cases hm : f.masked = true
  · rw [if_pos hm]
    exact failMasked_same app ep
  · rw [if_neg hm]
    split_ifs
    · exact ⟨rfl, rfl, rfl⟩
    · cases ho : f.opcode with
      | cont => simp [RxFrame.isData, ho, hm] at hf
      | text => simp [RxFrame.isData, ho, hm, Opcode.startsMessage] at hf
      | bin => simp [RxFrame.isData, ho, hm, Opcode.startsMessage] at hf
      | close => exact handleClose_same app ep f.payload
      | ping =>
        simp only [handleFrame]
        split_ifs <;> exact ⟨rfl, rfl, rfl⟩
      | pong => exact ⟨rfl, rfl, rfl⟩
      | reserved code => exact ⟨rfl, rfl, rfl⟩

/-- What a data frame does to the message under way: it is forgotten, it grows, or it is
handed over. A message grows from nothing by a frame that starts one. -/
inductive Fragment (ep ep' : Endpoint) (f : RxFrame) (op : Opcode) : Prop
  | forgotten (buf : ep'.fragBuf = []) (msgs : ep'.msgs = ep.msgs)
  | grown (fin : f.fin = false) (buf : ep'.fragBuf = ep.fragBuf ++ f.payload)
      (opcode : ep'.fragOpcode = op) (msgs : ep'.msgs = ep.msgs)
  | ended (fin : f.fin = true) (buf : ep'.fragBuf = [])
      (msgs : ep'.msgs = (op, ep.fragBuf ++ f.payload) :: ep.msgs)

lemma addFragment_fragment {ep₀ : Endpoint} (hbuf : ep.fragBuf = ep₀.fragBuf) (hmsgs : ep.msgs = ep₀.msgs) :
    Fragment ep₀ (addFragment app ep f.fin f.payload) f ep.fragOpcode := by
  unfold addFragment
  split_ifs with hbig hfin
  · exact .forgotten rfl hmsgs
  · obtain ⟨h1, h2, -⟩ := notify_keeps app { ep with fragBuf := [] }
      (.rxMsg ep.fragOpcode (ep.fragBuf ++ f.payload))
    refine .ended hfin h2 ?_
    rw [msgs_cons_rxMsg h1, hbuf]
    exact congrArg _ hmsgs
  · refine .grown (by simpa using hfin) ?_ rfl hmsgs
    rw [← hbuf]

lemma handleData_fragment (ep : Endpoint) (f : RxFrame) (op : Opcode) :
    Fragment ep (handleData app ep f.fin op f.payload) f (if ep.fragBuf = [] then op else ep.fragOpcode) := by
  unfold handleData
  by_cases h0 : ep.fragBuf = []
  · simp only [h0, and_true, if_true]
    by_cases hfin : f.fin = true
    · obtain ⟨h1, h2, -⟩ := notify_keeps app ep (.rxMsg op f.payload)
      rw [if_pos hfin]
      exact .ended hfin (h2.trans h0) (by rw [msgs_cons_rxMsg h1, h0, List.nil_append])
    · rw [if_neg hfin]
      exact addFragment_fragment app h0.symm rfl
  · simp only [h0, and_false, if_false]
    exact addFragment_fragment app rfl rfl

lemma rxFrame_data (ep : Endpoint) (hf : f.isData = true)
    (hok : f.cut = true → ep.fragBufSize < f.payload.length → ep.fragBuf = []) :
    Fragment ep (rxFrame app ep f).1 f (if ep.fragBuf = [] then f.opcode else ep.fragOpcode) ∧
      (ep.fragBuf = [] → (rxFrame app ep f).1.fragBuf = [] ∧ (rxFrame app ep f).1.msgs = ep.msgs ∨
        f.opcode.startsMessage = true) := by
  have hm : f.masked = false := by
    by_contra hm
    simp [RxFrame.isData, hm] at hf
  unfold rxFrame
  rw [if_neg (by simp [hm])]
  by_cases hskip : f.cut = true ∧ ep.fragBufSize < f.payload.length
  · have h0 := hok hskip.1 hskip.2
    rw [if_pos hskip]
    exact ⟨.forgotten h0 rfl, fun _ => .inl ⟨h0, rfl⟩⟩
  · rw [if_neg hskip]
    cases ho : f.opcode with
    | text => exact ⟨handleData_fragment app ep f .text, fun _ => .inr rfl⟩
    | bin => exact ⟨handleData_fragment app ep f .bin, fun _ => .inr rfl⟩
    | cont =>
      simp only [handleFrame]
      by_cases h0 : ep.fragBuf = []
      · rw [if_pos h0]
        exact ⟨.forgotten h0 rfl, fun _ => .inl ⟨h0, rfl⟩⟩
      · rw [if_neg h0, if_neg h0]
        exact ⟨addFragment_fragment app rfl rfl, fun h => absurd h h0⟩
    | close => simp [RxFrame.isData, ho, hm, Opcode.startsMessage] at hf
    | ping => simp [RxFrame.isData, ho, hm, Opcode.startsMessage] at hf
    | pong => simp [RxFrame.isData, ho, hm, Opcode.startsMessage] at hf
    | reserved code => simp [RxFrame.isData, ho, hm, Opcode.startsMessage] at hf

def bytesOf (seg : List RxFrame) : Bytes := seg.flatMap RxFrame.payload

def Begins (op : Opcode) (seg : List RxFrame) : Prop :=
  (∃ f fs, seg = f :: fs ∧ f.opcode = op) ∧ op.startsMessage = true ∧ ∀ f ∈ seg, f.fin = false

/-- Among the data frames, this message is all of a stretch that begins with the frame that
starts it and ends with the first `FIN` from there. -/
def Whole (frames : List RxFrame) (m : Opcode × Bytes) : Prop :=
  ∃ before seg last after, frames.filter RxFrame.isData = before ++ (seg ++ [last]) ++ after ∧
    (∃ f fs, seg ++ [last] = f :: fs ∧ f.opcode = m.1) ∧ m.1.startsMessage = true ∧
    (∀ f ∈ seg, f.fin = false) ∧ last.fin = true ∧ m.2 = bytesOf (seg ++ [last])

lemma Whole.append {frames : List RxFrame} {m : Opcode × Bytes} (h : Whole frames m)
    (more : List RxFrame) : Whole (frames ++ more) m := by
  obtain ⟨before, seg, last, after, heq, h1, h2, h3, h4, h5⟩ := h
  refine ⟨before, seg, last, after ++ more.filter RxFrame.isData, ?_, h1, h2, h3, h4, h5⟩
  rw [List.filter_append, heq, List.append_assoc _ after]

/-- The fragments in the buffer are the latest data frames, and every message that was
handed over is whole. -/
structure Assembled (seen : List RxFrame) (ep : Endpoint) : Prop where
  under : ep.destroying = false → ep.fragBuf ≠ [] → ∃ before seg,
    seen.filter RxFrame.isData = before ++ seg ∧ Begins ep.fragOpcode seg ∧ ep.fragBuf = bytesOf seg
  whole : ∀ m ∈ ep.msgs, Whole seen m

def NotSkipped (ep : Endpoint) (f : RxFrame) : Prop :=
  f.isData = true → f.cut = true → ep.fragBufSize < f.payload.length → ep.fragBuf = []

lemma Assembled.begins {seen : List RxFrame} (h : Assembled seen ep)
    (hd : ep.destroying = false) (hf : f.isData = true)
    (hstart : ep.fragBuf = [] → f.opcode.startsMessage = true) :
    ∃ before seg, (seen ++ [f]).filter RxFrame.isData = before ++ (seg ++ [f]) ∧
      (∃ g gs, seg ++ [f] = g :: gs ∧ g.opcode = if ep.fragBuf = [] then f.opcode else ep.fragOpcode) ∧
      (if ep.fragBuf = [] then f.opcode else ep.fragOpcode).startsMessage = true ∧
      (∀ g ∈ seg, g.fin = false) ∧ ep.fragBuf ++ f.payload = bytesOf (seg ++ [f]) := by
  have hfilter : (seen ++ [f]).filter RxFrame.isData = seen.filter RxFrame.isData ++ [f] := by
    simp [List.filter_append, hf]
  by_cases h0 : ep.fragBuf = []
  · rw [if_pos h0]
    exact ⟨seen.filter RxFrame.isData, [], by simpa using hfilter, ⟨f, [], rfl, rfl⟩, hstart h0,
      by simp, by simp [h0, bytesOf]⟩
  · obtain ⟨before, seg, heq, ⟨⟨g, gs, hseg, hop⟩, hst, hfin⟩, hbuf⟩ := h.under hd h0
    rw [if_neg h0]
    refine ⟨before, seg, ?_, ⟨g, gs ++ [f], by simp [hseg], hop⟩, hst, hfin, by simp [hbuf, bytesOf]⟩
    rw [hfilter, heq, List.append_assoc]

lemma Assembled.deliver {seen : List RxFrame} (h : Assembled seen ep) (hok : NotSkipped ep f) : Assembled (seen ++ [f]) (deliver app ep f) := by
  have hold : ∀ m ∈ ep.msgs, Whole (seen ++ [f]) m := fun m hm => (h.whole m hm).append [f]
  unfold WebSocket.deliver
  by_cases hd : ep.destroying = true
  · rw [if_pos hd]
    exact ⟨fun hd' => absurd (hd.symm.trans hd') (by simp), hold⟩
  rw [if_neg hd]
  have hd' : ep.destroying = false := by simpa using hd
  by_cases hf : f.isData = true
  · obtain ⟨hfrag, hstart⟩ := rxFrame_data app ep hf (hok hf)
    -- either the frame is forgotten or it continues, or starts, a message
    by_cases hgone : ep.fragBuf = [] ∧ f.opcode.startsMessage = false
    · obtain ⟨h1, h2⟩ | h1 := hstart hgone.1
      · exact ⟨fun _ hne => absurd h1 hne, by rw [h2]; exact hold⟩
      · rw [hgone.2] at h1
        cases h1
    · obtain ⟨before, seg, heq, hhead, hst, hfin, hbytes⟩ := h.begins hd' hf fun h0 => by
        by_contra hs
        exact hgone ⟨h0, by simpa using hs⟩
      cases hfrag with
      | forgotten buf msgs => exact ⟨fun _ hne => absurd buf hne, by rw [msgs]; exact hold⟩
      | grown fin buf opcode msgs =>
        refine ⟨fun _ _ => ⟨before, seg ++ [f], heq, ⟨?_, ?_, ?_⟩, by rw [buf, hbytes]⟩, by rw [msgs]; exact hold⟩
        · rw [opcode]
          exact hhead
        · rw [opcode]
          exact hst
        · intro g hg
          rcases List.mem_append.1 hg with hg | hg
          · exact hfin g hg
          · rw [List.mem_singleton.1 hg, fin]
      | ended fin buf msgs =>
        refine ⟨fun _ hne => absurd buf hne, ?_⟩
        intro m hm
        rw [msgs, List.mem_cons] at hm
        rcases hm with rfl | hm
        · exact ⟨before, seg, f, [], by simpa using heq, hhead, hst, hfin, fin, hbytes⟩
        · exact hold m hm
  · obtain ⟨h1, h2, h3⟩ := rxFrame_control app ep (f := f) (by simpa using hf)
    have hfilter : (seen ++ [f]).filter RxFrame.isData = seen.filter RxFrame.isData := by
      simp [List.filter_append, hf]
    refine ⟨fun _ hne => ?_, by rw [h3]; exact hold⟩
    rw [h1] at hne
    rw [h1, h2, hfilter]
    exact h.under hd' hne

lemma Assembled.run (frames : List RxFrame) : ∀ {seen : List RxFrame} {ep : Endpoint},
    Assembled seen ep → Guarded (WebSocket.deliver app) NotSkipped ep frames →
    Assembled (seen ++ frames) (Transition.run (WebSocket.deliver app) ep frames) := by
  induction frames with
  | nil => intro seen ep h _; simpa using h
  | cons f frames ih =>
    intro seen ep h hg
    have := ih (h.deliver app hg.1) hg.2
    rwa [List.append_assoc] at this

lemma Assembled.fresh (maxRxMsgSize : ℕ) : Assembled [] (.fresh maxRxMsgSize) :=
  ⟨fun _ h => absurd rfl h, by simp [Endpoint.msgs, Endpoint.fresh]⟩

def RxFrame.isBetween (f : RxFrame) : Prop :=
  f.masked = false ∧ (f.opcode = .ping ∨ f.opcode = .pong ∨ (f.opcode = .cont ∧ f.fin = false))

def between (mid : List RxFrame) : Bytes :=
  bytesOf (mid.filter fun f => f.opcode = .cont)

lemma between_cons (f : RxFrame) (mid : List RxFrame) :
    between (f :: mid) = (if f.opcode = .cont then f.payload else []) ++ between mid := by
  by_cases h : f.opcode = .cont <;> simp [between, bytesOf, h]

lemma deliver_between (hd : ep.destroying = false) (hf : f.isBetween)
    (hfit : f.opcode = .cont → ep.fragBuf.length + f.payload.length ≤ ep.fragBufSize) :
    (deliver app ep f).destroying = false ∧ (deliver app ep f).fragBufSize = ep.fragBufSize ∧
      (deliver app ep f).fragOpcode = ep.fragOpcode ∧ (deliver app ep f).callbacks = ep.callbacks ∧
      (deliver app ep f).fragBuf =
        if ep.fragBuf = [] then [] else ep.fragBuf ++ if f.opcode = .cont then f.payload else [] := by
  obtain ⟨hm, hop⟩ := hf
  unfold deliver rxFrame
  rw [if_neg (by simp [hd]), if_neg (by simp [hm])]
  rcases hop with ho | ho | ⟨ho, hfin⟩
  · split_ifs <;> simp_all [handleFrame, sendPong]
  · split_ifs <;> simp_all [handleFrame]
  · have hle := hfit ho
    rw [if_neg (by omega)]
    by_cases h0 : ep.fragBuf = []
    · simp [handleFrame, ho, h0, hd]
    · simp [handleFrame, ho, h0, addFragment, not_lt.2 hle, hfin, hd]

lemma foldl_between (app : App) (mid : List RxFrame) : ∀ {ep : Endpoint}, ep.destroying = false →
    (∀ f ∈ mid, f.isBetween) → ep.fragBuf.length + (between mid).length ≤ ep.fragBufSize →
    (mid.foldl (deliver app) ep).destroying = false ∧
      (mid.foldl (deliver app) ep).fragBufSize = ep.fragBufSize ∧
      (mid.foldl (deliver app) ep).fragOpcode = ep.fragOpcode ∧
      (mid.foldl (deliver app) ep).callbacks = ep.callbacks ∧ (mid.foldl (deliver app) ep).fragBuf =
        if ep.fragBuf = [] then [] else ep.fragBuf ++ between mid := by
  induction mid with
  | nil =>
    intro ep hd _ _
    by_cases h0 : ep.fragBuf = [] <;> simp [hd, h0, between, bytesOf]
  | cons f mid ih =>
    intro ep hd hmid hfit
    rw [between_cons, List.length_append] at hfit
    obtain ⟨h1, h2, h3, h4, h5⟩ := deliver_between app hd (hmid f (by simp))
      fun ho => by rw [if_pos ho] at hfit; omega
    have hlen : (deliver app ep f).fragBuf.length + (between mid).length ≤
        (deliver app ep f).fragBufSize := by
      rw [h2, h5]
      split_ifs at hfit ⊢ <;> simp <;> omega
    obtain ⟨g1, g2, g3, g4, g5⟩ := ih h1 (fun g hg => hmid g (by simp [hg])) hlen
    rw [List.foldl_cons]
    refine ⟨g1, g2.trans h2, g3.trans h3, g4.trans h4, ?_⟩
    rw [g5, h5, between_cons]
    by_cases h0 : ep.fragBuf = []
    · simp [h0]
    · rw [if_neg h0, if_neg h0, if_neg (by simp [h0]), List.append_assoc]

lemma fragmented_message (hd : ep.destroying = false)
    (h0 : ep.fragBuf = []) (hop : op.startsMessage = true) (first last : Bytes)
    (cut cut' : Bool) {mid : List RxFrame} (hmid : ∀ f ∈ mid, f.isBetween)
    (hfit : (first ++ between mid ++ last).length ≤ ep.fragBufSize) :
    ((⟨false, false, op, first, cut⟩ :: (mid ++ [⟨false, true, .cont, last, cut'⟩])).foldl
      (deliver app) ep).callbacks = .rxMsg op (first ++ between mid ++ last) :: ep.callbacks ↔
    first ≠ [] := by
  simp only [List.length_append] at hfit
  -- the first frame
  have hfirst : deliver app ep ⟨false, false, op, first, cut⟩ =
      { ep with fragOpcode := op, fragBuf := first } := by
    have hbig : ¬ ep.fragBufSize < first.length := by omega
    rcases Opcode.startsMessage_iff.1 hop with rfl | rfl
    · simp [deliver, rxFrame, hd, handleFrame, handleData, h0, addFragment, hbig]
    · simp [deliver, rxFrame, hd, handleFrame, handleData, h0, addFragment, hbig]
  rw [List.foldl_cons, hfirst, List.foldl_append, List.foldl_cons, List.foldl_nil]
  obtain ⟨g1, g2, g3, g4, g5⟩ := @foldl_between app mid
    { ep with fragOpcode := op, fragBuf := first } hd hmid (by simp only; omega)
  generalize mid.foldl (deliver app) { ep with fragOpcode := op, fragBuf := first } = ep' at *
  simp only at g2 g3 g4 g5
  have hskip : ¬ (cut' = true ∧ ep'.fragBufSize < last.length) := by
    rw [g2]
    omega
  have hlast : deliver app ep' ⟨false, true, .cont, last, cut'⟩ =
      if ep'.fragBuf = [] then ep' else addFragment app ep' true last := by
    simp [deliver, rxFrame, g1, hskip, handleFrame]
  rw [hlast]
  by_cases hne : first = []
  · rw [g5, if_pos hne, if_pos rfl]
    simp [hne, g4]
  · rw [if_neg hne] at g5
    rw [if_neg (by simp [g5, hne])]
    have hbig : ¬ ep'.fragBufSize < ep'.fragBuf.length + last.length := by
      rw [g2, g5, List.length_append]
      omega
    rw [addFragment, if_neg hbig, if_pos rfl, (notify_keeps app _ _).1, g3, g4, g5]
    simp [hne]

/-- A message in fragments that fits reaches the application, once and with all its bytes,
exactly when its first fragment is not empty; and in every sequence of frames in which no
data frame is skipped for its size while a message is under way, each message that reaches
the application has all its fragments. -/
theorem reassembly_law (app : App) : (∀ (ep : Endpoint) (op : Opcode) (first last : Bytes) (cut cut' : Bool)
      (mid : List RxFrame), ep.destroying = false → ep.fragBuf = [] → op.startsMessage = true →
      (∀ f ∈ mid, f.isBetween) → (first ++ between mid ++ last).length ≤ ep.fragBufSize →
      (((⟨false, false, op, first, cut⟩ :: (mid ++ [⟨false, true, .cont, last, cut'⟩])).foldl
        (deliver app) ep).callbacks = .rxMsg op (first ++ between mid ++ last) :: ep.callbacks ↔
      first ≠ [])) ∧ ∀ (maxRxMsgSize : ℕ) (frames : List RxFrame),
      Guarded (deliver app) NotSkipped (.fresh maxRxMsgSize) frames →
      ∀ m ∈ (run (deliver app) (.fresh maxRxMsgSize) frames).msgs, Whole frames m := by
  refine ⟨?_, ?_⟩
  · intro ep op first last cut cut' mid hd h0 hop hmid hfit
    exact fragmented_message app hd h0 hop first last cut cut' hmid hfit
  · intro maxRxMsgSize frames hg
    exact ((Assembled.fresh maxRxMsgSize).run app frames hg).whole

/-- "AB" in two text fragments around a ping, and the same as a run that skips nothing. -/
theorem reassembly_law_ab : ([⟨false, false, .text, [65], false⟩, ⟨false, true, .ping, [], false⟩,
      ⟨false, true, .cont, [66], true⟩].foldl (deliver fun _ => .proceed) (.fresh 4)).callbacks =
      [.rxMsg .text [65, 66]] ∧
    Whole [⟨false, false, .text, [65], false⟩, ⟨false, true, .cont, [66], true⟩] (.text, [65, 66]) := by
  refine ⟨?_, ?_⟩
  · exact ((reassembly_law fun _ => .proceed).1 (.fresh 4) .text [65] [66] false true
      [⟨false, true, .ping, [], false⟩] rfl rfl rfl
      (by simp [RxFrame.isBetween]) (by decide)).2 (by decide)
  · exact (reassembly_law fun _ => .proceed).2 4
      [⟨false, false, .text, [65], false⟩, ⟨false, true, .cont, [66], true⟩]
      ⟨by simp [NotSkipped], ⟨by simp [NotSkipped, Endpoint.fresh, deliver, rxFrame, handleFrame, handleData, addFragment], trivial⟩⟩ _ (by decide)

/-- A first fragment without bytes is forgotten and its continuation ignored; and a
continuation that is skipped for its size is missing in the message that is handed over. -/
theorem reassembly_loses_fragments :
    (¬ ∀ (app : App) (ep : Endpoint) (op : Opcode) (first last : Bytes) (cut cut' : Bool)
      (mid : List RxFrame), ep.destroying = false → ep.fragBuf = [] → op.startsMessage = true →
      (∀ f ∈ mid, f.isBetween) → (first ++ between mid ++ last).length ≤ ep.fragBufSize →
      ((⟨false, false, op, first, cut⟩ :: (mid ++ [⟨false, true, .cont, last, cut'⟩])).foldl
        (deliver app) ep).callbacks = .rxMsg op (first ++ between mid ++ last) :: ep.callbacks) ∧
    ¬ ∀ (app : App) (maxRxMsgSize : ℕ) (frames : List RxFrame),
      ∀ m ∈ (run (deliver app) (.fresh maxRxMsgSize) frames).msgs, Whole frames m := by
  refine ⟨fun h => ?_, fun h => ?_⟩
  · have := h (fun _ => .proceed) (.fresh 4) .text [] [65] false false [] rfl rfl rfl (by simp) (by decide)
    revert this
    decide
  · let frames : List RxFrame := [⟨false, false, .text, [65], false⟩,
      ⟨false, false, .cont, [66, 67, 68], true⟩, ⟨false, true, .cont, [69], false⟩]
    have hw := h (fun _ => .proceed) 2 frames (.text, [65, 69]) (by decide)
    obtain ⟨before, seg, last, after, heq, ⟨g, gs, hhead, hop⟩, -, -, hlast, hbytes⟩ := hw
    rw [show frames.filter RxFrame.isData = frames from rfl] at heq
    -- only the last frame has `FIN`, and only the first starts a message
    have hafter : after = [] := by
      by_contra hne
      have hmem : last ∈ frames.dropLast := by
        rw [heq, List.dropLast_append_of_ne_nil hne]
        simp
      have hfin : ∀ f ∈ frames.dropLast, f.fin = false := by decide
      rw [hfin last hmem] at hlast
      cases hlast
    have hbefore : before = [] := by
      by_contra hne
      have hmem : g ∈ frames.tail := by
        rw [heq, List.append_assoc, List.tail_append_of_ne_nil hne, hhead]
        simp
      have hcont : ∀ f ∈ frames.tail, f.opcode = .cont := by decide
      rw [hcont g hmem] at hop
      cases hop
    rw [hbefore, hafter, List.nil_append, List.append_nil] at heq
    rw [← heq] at hbytes
    revert hbytes
    decide

end PjProject.WebSocket
