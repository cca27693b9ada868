import PjProject.WebsockCodec
import PjProject.WebsockFragment

/-!
# The end of a WebSocket connection

What comes after a CLOSE frame or a masked frame. The frames that a read hands to the endpoint depend on
the bytes alone, so the calls of the application are those of the frames, one after the other.
-/
namespace PjProject.WebSocket

open Transition

def RxFrame.ends (f : RxFrame) : Bool := f.masked || f.opcode = .close

/-- The frames that the second loop of `process_rx_frame` takes off the front of a buffer. -/
def framesFrom : ℕ → Bytes → List RxFrame
  | 0, _ => []
  | k + 1, data =>
    if data = [] then []
    else if isMasked data then [⟨true, false, .cont, [], false⟩]
    else
      match decodeFrameHeader data with
      | none => []
      | some (h, payload, consumed) =>
        let f : RxFrame := ⟨false, h.fin, h.opcode, payload, false⟩
        f :: if f.ends then [] else framesFrom k (data.drop consumed)

/-- The frames of one call of `process_rx_frame`. -/
def readFrames (ws : Websock) (data : Bytes) : List RxFrame :=
  if ws.destroying then []
  else if ws.rxPartial ∧ data ≠ [] then
    let copy := min data.length (ws.rxPartialTotal - ws.rxPartialGot)
    if ws.rxPartialGot + copy < ws.rxPartialTotal then []
    else
      match ws.rxPartialBuf.map (· ++ data.take copy) with
      | none => framesFrom data.length (data.drop copy)
      | some payload =>
        let f : RxFrame := ⟨false, ws.rxPartialFin, ws.rxPartialOp, payload, false⟩
        f :: if f.ends then [] else framesFrom data.length (data.drop copy)
  else framesFrom data.length data

def afterFrames (app : App) (ep : Endpoint) (fs : List RxFrame) : Endpoint :=
  fs.foldl (fun ep f => (rxFrame app ep f).1) ep

variable (app : App)

lemma rxFrame_whole (ep : Endpoint) (fin : Bool) (opcode : Opcode) (payload : Bytes) :
    rxFrame app ep ⟨false, fin, opcode, payload, false⟩ = handleFrame app ep fin opcode payload := by
  simp [rxFrame]

lemma handleFrame_goes_on (ep : Endpoint) (fin : Bool) (opcode : Opcode) (payload : Bytes) :
    (handleFrame app ep fin opcode payload).2 = !(RxFrame.mk false fin opcode payload false).ends := by
  cases opcode <;> rfl

lemma processFrames_frames (k : ℕ) : ∀ (ws : Websock) (data : Bytes),
    (processFrames app k ws data).1.toEndpoint = afterFrames app ws.toEndpoint (framesFrom k data) := by
  induction k with
  | zero => exact fun _ _ => rfl
  | succ k ih =>
    intro ws data
    rw [processFrames, framesFrom]
    by_cases hnil : data = []
    · rw [if_pos hnil, if_pos hnil]
      rfl
    · rw [if_neg hnil, if_neg hnil]
      by_cases hmask : isMasked data = true
      · rw [if_pos hmask, if_pos hmask]
        simp [afterFrames, rxFrame]
      · rw [if_neg hmask, if_neg hmask]
        cases hd : decodeFrameHeader data with
        | none =>
          dsimp only
          cases parseFrameHeader data with
          | none => rfl
          | some h =>
            dsimp only
            split_ifs <;> rfl
        | some r =>
          obtain ⟨h, payload, n⟩ := r
          dsimp only
          rw [handleFrame_goes_on, ← rxFrame_whole]
          cases hends : (RxFrame.mk false h.fin h.opcode payload false).ends with
          | true => rfl
          | false =>
            simp only [Bool.not_false, if_true, Bool.false_eq_true, if_false]
            rw [ih]
            rfl

lemma processRxFrame_frames (ws : Websock) (data : Bytes) :
    (processRxFrame app ws data).1.toEndpoint = afterFrames app ws.toEndpoint (readFrames ws data) := by
  unfold processRxFrame readFrames
  by_cases hdestroying : ws.destroying = true
  · rw [if_pos hdestroying, if_pos hdestroying]
    rfl
  · rw [if_neg hdestroying, if_neg hdestroying]
    by_cases hpart : ws.rxPartial = true ∧ data ≠ []
    · rw [if_pos hpart, if_pos hpart]
      dsimp only
      split_ifs with hcut
      · rfl
      · cases hbuf : ws.rxPartialBuf.map (· ++ data.take (min data.length (ws.rxPartialTotal - ws.rxPartialGot))) with
        | none => exact processFrames_frames app _ _ _
        | some payload =>
          dsimp only
          rw [handleFrame_goes_on, ← rxFrame_whole]
          cases hends : (RxFrame.mk false ws.rxPartialFin ws.rxPartialOp payload false).ends with
          | true => rfl
          | false =>
            simp only [Bool.not_false, if_true, Bool.false_eq_true, if_false]
            rw [processFrames_frames]
            rfl
    · rw [if_neg hpart, if_neg hpart]
      exact processFrames_frames app _ _ _

variable {f : RxFrame}

lemma ending_frame {rest rest' : List RxFrame}
    (h : (f :: if f.ends then [] else rest).any RxFrame.ends = true)
    (hrest : rest.any RxFrame.ends = true → rest' = rest) :
    (f :: if f.ends then [] else rest') = f :: if f.ends then [] else rest := by
  by_cases hends : f.ends = true
  · rw [if_pos hends, if_pos hends]
  · rw [if_neg hends, List.any_cons, eq_false_of_ne_true hends, Bool.false_or] at h
    rw [if_neg hends, if_neg hends, hrest h]

lemma framesFrom_append (extra : Bytes) (k : ℕ) : ∀ {k' : ℕ} (data : Bytes), k ≤ k' →
    (framesFrom k data).any RxFrame.ends = true → framesFrom k' (data ++ extra) = framesFrom k data := by
  induction k with
  | zero =>
    intro k' data _ h
    cases h
  | succ k ih =>
    intro k' data hk h
    obtain ⟨k', rfl⟩ : ∃ m, k' = m + 1 := ⟨k' - 1, by omega⟩
    rw [framesFrom] at h
    rw [framesFrom, framesFrom]
    by_cases hnil : data = []
    · rw [if_pos hnil] at h
      cases h
    · have happend : data ++ extra ≠ [] := by simp [hnil]
      rw [if_neg hnil] at h
      rw [if_neg happend, if_neg hnil]
      by_cases hmask : isMasked data = true
      · rw [if_pos hmask, if_pos (isMasked_append hmask extra)]
      · rw [if_neg hmask] at h
        cases hd : decodeFrameHeader data with
        | none =>
          rw [hd] at h
          cases h
        | some r =>
          obtain ⟨hdr, payload, n⟩ := r
          rw [hd] at h
          obtain ⟨hpos, hle⟩ := decodeFrameHeader_le hd
          have hsame : isMasked (data ++ extra) = isMasked data := by
            match data, hd with
            | _ :: _ :: _, _ => rfl
          rw [hsame, if_neg hmask, if_neg hmask, decodeFrameHeader_append hd]
          dsimp only at h ⊢
          rw [List.drop_append_of_le_length hle]
          exact ending_frame h (ih _ (by omega))

lemma readFrames_append (ws : Websock) (data extra : Bytes) (h : (readFrames ws data).any RxFrame.ends = true) :
    readFrames ws (data ++ extra) = readFrames ws data := by
  unfold readFrames at h ⊢
  by_cases hdestroying : ws.destroying = true
  · rw [if_pos hdestroying, if_pos hdestroying]
  · rw [if_neg hdestroying] at h
    rw [if_neg hdestroying, if_neg hdestroying]
    by_cases hpart : ws.rxPartial = true ∧ data ≠ []
    · have hlong : ws.rxPartial = true ∧ data ++ extra ≠ [] := ⟨hpart.1, by simp [hpart.2]⟩
      rw [if_pos hpart] at h
      rw [if_pos hpart, if_pos hlong]
      dsimp only at h ⊢
      by_cases hcut : ws.rxPartialGot + min data.length (ws.rxPartialTotal - ws.rxPartialGot) < ws.rxPartialTotal
      · rw [if_pos hcut] at h
        cases h
      · have hcopy : min (data ++ extra).length (ws.rxPartialTotal - ws.rxPartialGot) =
            min data.length (ws.rxPartialTotal - ws.rxPartialGot) := by
          rw [List.length_append]
          omega
        have hle : min data.length (ws.rxPartialTotal - ws.rxPartialGot) ≤ data.length := min_le_left _ _
        rw [if_neg hcut] at h
        rw [hcopy, if_neg hcut, if_neg hcut, List.take_append_of_le_length hle, List.drop_append_of_le_length hle]
        have hk : data.length ≤ (data ++ extra).length := by simp
        cases hbuf : ws.rxPartialBuf.map (· ++ data.take (min data.length (ws.rxPartialTotal - ws.rxPartialGot))) with
        | none =>
          rw [hbuf] at h
          exact framesFrom_append extra _ _ hk h
        | some payload =>
          rw [hbuf] at h
          exact ending_frame h (framesFrom_append extra _ _ hk)
    · rw [if_neg hpart] at h
      have hrx : ¬ ws.rxPartial = true := by
        intro hrx
        have hnil : data = [] := by
          by_contra hne
          exact hpart ⟨hrx, hne⟩
        rw [hnil] at h
        cases h
      rw [if_neg hpart, if_neg (fun hand => hrx hand.1)]
      exact framesFrom_append extra _ _ (by simp) h

/-- Whether a frame makes `handle_frame` call the application. -/
def reports (ep : Endpoint) (f : RxFrame) : Bool :=
  let fits := decide (ep.fragBuf.length + f.payload.length ≤ ep.fragBufSize)
  if f.masked then !ep.destroying
  else
    match f.opcode with
    | .close => !ep.destroying
    | .text => f.fin && (ep.fragBuf = [] || fits)
    | .bin => f.fin && (ep.fragBuf = [] || fits)
    | .cont => f.fin && (ep.fragBuf ≠ [] && fits)
    | _ => false

lemma notify_callbacks (ep : Endpoint) (cb : Callback) :
    (notify app ep cb).callbacks = cb :: ep.callbacks := by
  unfold notify
  dsimp only
  cases app (cb :: ep.callbacks) with
  | proceed => rfl
  | close code reason => exact websockClose_callbacks _ _ _
  | destroy => rfl

def Calls (called : Bool) (ep ep' : Endpoint) : Prop :=
  if called then ∃ cb, ep'.callbacks = cb :: ep.callbacks else ep'.callbacks = ep.callbacks

lemma addFragment_calls (ep : Endpoint) (fin : Bool) (payload : Bytes) :
    Calls (fin && decide (ep.fragBuf.length + payload.length ≤ ep.fragBufSize)) ep (addFragment app ep fin payload) := by
  unfold addFragment Calls
  by_cases hfits : ep.fragBuf.length + payload.length ≤ ep.fragBufSize
  · rw [if_neg (not_lt.2 hfits), decide_eq_true hfits, Bool.and_true]
    cases fin with
    | true => exact ⟨_, notify_callbacks app _ _⟩
    | false => exact rfl
  · rw [if_pos (not_le.1 hfits), decide_eq_false hfits, Bool.and_false]
    exact rfl

lemma handleData_calls (ep : Endpoint) (fin : Bool) (op : Opcode) (payload : Bytes) :
    Calls (fin && (decide (ep.fragBuf = []) || decide (ep.fragBuf.length + payload.length ≤ ep.fragBufSize))) ep
      (handleData app ep fin op payload) := by
  unfold handleData
  by_cases hfirst : ep.fragBuf = []
  · rw [decide_eq_true hfirst, Bool.true_or, Bool.and_true]
    cases fin with
    | true =>
      rw [if_pos ⟨rfl, hfirst⟩]
      exact ⟨_, notify_callbacks app _ _⟩
    | false =>
      rw [if_neg (fun hand => Bool.false_ne_true hand.1), if_pos hfirst]
      have hadd := addFragment_calls app { ep with fragOpcode := op } false payload
      exact hadd
  · rw [if_neg (fun hand => hfirst hand.2), if_neg hfirst, decide_eq_false hfirst, Bool.false_or]
    exact addFragment_calls app ep fin payload

variable {ep : Endpoint}

lemma told_calls {ep' : Endpoint} (cb : Callback) (hcallbacks : ep'.callbacks = ep.callbacks)
    (hdestroying : ep'.destroying = ep.destroying) :
    Calls (!ep.destroying) ep (if ep'.destroying then ep' else notify app ep' cb) := by
  unfold Calls
  rw [← hdestroying]
  cases ep'.destroying with
  | true => exact hcallbacks
  | false => exact ⟨cb, by rw [if_neg (by simp), notify_callbacks, hcallbacks]⟩

lemma handleClose_calls (ep : Endpoint) (payload : Bytes) :
    Calls (!ep.destroying) ep (handleClose app ep payload) := by
  refine told_calls app _ ?_ ?_
  · by_cases hopened : ep.state = .opened <;> simp [hopened, sendCloseFrame]
  · by_cases hopened : ep.state = .opened <;> simp [hopened, sendCloseFrame]

lemma failMasked_calls (ep : Endpoint) : Calls (!ep.destroying) ep (failMasked app ep) := by
  refine told_calls app _ ?_ ?_
  · by_cases hopened : ep.state = .opened <;> simp [hopened, sendCloseFrame]
  · by_cases hopened : ep.state = .opened <;> simp [hopened, sendCloseFrame]

lemma rxFrame_calls (ep : Endpoint) (hcut : f.cut = false) :
    Calls (reports ep f) ep (rxFrame app ep f).1 := by
  obtain ⟨masked, fin, opcode, payload, cut⟩ := f
  obtain rfl := hcut
  cases masked with
  | true => exact failMasked_calls app ep
  | false =>
    rw [rxFrame_whole]
    cases opcode with
    | cont =>
      unfold reports handleFrame
      dsimp only
      by_cases hfirst : ep.fragBuf = []
      · simp [hfirst, Calls]
      · simp only [Bool.false_eq_true, if_false, ne_eq, hfirst, not_false_eq_true, decide_true,
          Bool.true_and]
        exact addFragment_calls app ep fin payload
    | text => exact handleData_calls app ep fin .text payload
    | bin => exact handleData_calls app ep fin .bin payload
    | close => exact handleClose_calls app ep payload
    | ping =>
      unfold reports handleFrame Calls
      dsimp only
      simp only [Bool.false_eq_true, if_false]
      split_ifs <;> rfl
    | pong => exact rfl
    | reserved code => exact rfl

def Silent (app : App) : Endpoint → List RxFrame → Prop
  | _, [] => True
  | ep, f :: fs => reports ep f = false ∧ Silent app (rxFrame app ep f).1 fs

instance Silent.decidable (app : App) : ∀ (ep : Endpoint) (fs : List RxFrame), Decidable (Silent app ep fs)
  | _, [] => .isTrue trivial
  | ep, f :: fs =>
    have := Silent.decidable app (rxFrame app ep f).1 fs
    inferInstanceAs (Decidable (reports ep f = false ∧ Silent app (rxFrame app ep f).1 fs))

lemma framesFrom_whole (k : ℕ) : ∀ data : Bytes, ∀ f ∈ framesFrom k data, f.cut = false := by
  induction k with
  | zero => exact fun _ f hf => absurd hf List.not_mem_nil
  | succ k ih =>
    intro data f hf
    rw [framesFrom] at hf
    split_ifs at hf with hnil hmask
    · exact absurd hf List.not_mem_nil
    · rw [List.mem_singleton.1 hf]
    · cases hd : decodeFrameHeader data with
      | none =>
        rw [hd] at hf
        exact absurd hf List.not_mem_nil
      | some r =>
        rw [hd] at hf
        dsimp only at hf
        rcases List.mem_cons.1 hf with rfl | hf
        · rfl
        · split_ifs at hf
          · exact absurd hf List.not_mem_nil
          · exact ih _ f hf

lemma readFrames_whole (ws : Websock) (data : Bytes) : ∀ f ∈ readFrames ws data, f.cut = false := by
  intro f hf
  unfold readFrames at hf
  dsimp only at hf
  split_ifs at hf with hdestroying hpart hcut
  · exact absurd hf List.not_mem_nil
  · exact absurd hf List.not_mem_nil
  · cases hbuf : ws.rxPartialBuf.map (· ++ data.take (min data.length (ws.rxPartialTotal - ws.rxPartialGot))) with
    | none =>
      rw [hbuf] at hf
      exact framesFrom_whole _ _ f hf
    | some payload =>
      rw [hbuf] at hf
      dsimp only at hf
      rcases List.mem_cons.1 hf with rfl | hf
      · rfl
      · split_ifs at hf
        · exact absurd hf List.not_mem_nil
        · exact framesFrom_whole _ _ f hf
  · exact framesFrom_whole _ _ f hf

lemma afterFrames_calls (fs : List RxFrame) : ∀ ep : Endpoint, (∀ f ∈ fs, f.cut = false) →
    ep.callbacks <:+ (afterFrames app ep fs).callbacks ∧
      ((afterFrames app ep fs).callbacks = ep.callbacks ↔ Silent app ep fs) := by
  induction fs with
  | nil => exact fun ep _ => ⟨List.suffix_rfl, fun _ => trivial, fun _ => rfl⟩
  | cons f fs ih =>
    intro ep hwhole
    rw [List.forall_mem_cons] at hwhole
    obtain ⟨hsuffix, hiff⟩ := ih (rxFrame app ep f).1 hwhole.2
    have hcalls := rxFrame_calls app ep hwhole.1
    have hfold : afterFrames app ep (f :: fs) = afterFrames app (rxFrame app ep f).1 fs := rfl
    rw [hfold, Silent]
    unfold Calls at hcalls
    cases hr : reports ep f with
    | false =>
      rw [hr, if_neg (by simp)] at hcalls
      rw [hcalls] at hsuffix hiff
      exact ⟨hsuffix, fun h => ⟨rfl, hiff.1 h⟩, fun h => hiff.2 h.2⟩
    | true =>
      rw [hr, if_pos rfl] at hcalls
      obtain ⟨cb, hcb⟩ := hcalls
      rw [hcb] at hsuffix
      refine ⟨(List.suffix_cons cb _).trans hsuffix, fun h => ?_, fun h => absurd h.1 (by simp)⟩
      have hlen := hsuffix.length_le
      rw [h, List.length_cons] at hlen
      omega

lemma notify_closed (h : ep.state = .closed) (cb : Callback) : (notify app ep cb).state = .closed := by
  unfold notify
  dsimp only
  cases app (cb :: ep.callbacks) with
  | proceed => exact h
  | close code reason => simp [websockClose, h]
  | destroy => rfl

lemma addFragment_closed (h : ep.state = .closed) (fin : Bool) (payload : Bytes) :
    (addFragment app ep fin payload).state = .closed := by
  unfold addFragment
  split_ifs
  · exact h
  · refine notify_closed app ?_ _
    exact h
  · exact h

lemma told_closed (h : ep.state = .closed) (cb : Callback) :
    (if ep.destroying then ep else notify app ep cb).state = .closed := by
  split_ifs
  · exact h
  · exact notify_closed app h cb

lemma handleData_closed (h : ep.state = .closed) (fin : Bool) (op : Opcode)
    (payload : Bytes) : (handleData app ep fin op payload).state = .closed := by
  unfold handleData
  split_ifs
  · exact notify_closed app h _
  · refine addFragment_closed app ?_ fin payload
    exact h
  · exact addFragment_closed app h fin payload

lemma rxFrame_closed (h : ep.state = .closed ∨ f.ends = true)
    (hcut : f.cut = false) : (rxFrame app ep f).1.state = .closed := by
  obtain ⟨masked, fin, opcode, payload, cut⟩ := f
  obtain rfl := hcut
  cases masked with
  | true => exact told_closed app rfl _
  | false =>
    rw [rxFrame_whole]
    cases opcode with
    | close => exact told_closed app rfl _
    | cont =>
      have hst := h.resolve_right (by simp [RxFrame.ends])
      unfold handleFrame
      dsimp only
      split_ifs
      · exact hst
      · exact addFragment_closed app hst fin payload
    | text => exact handleData_closed app (h.resolve_right (by simp [RxFrame.ends])) fin .text payload
    | bin => exact handleData_closed app (h.resolve_right (by simp [RxFrame.ends])) fin .bin payload
    | ping =>
      have hst := h.resolve_right (by simp [RxFrame.ends])
      unfold handleFrame
      dsimp only
      split_ifs <;> exact hst
    | pong => exact h.resolve_right (by simp [RxFrame.ends])
    | reserved code => exact h.resolve_right (by simp [RxFrame.ends])

lemma afterFrames_closed (fs : List RxFrame) : ∀ ep : Endpoint, (∀ f ∈ fs, f.cut = false) →
    ep.state = .closed ∨ fs.any RxFrame.ends = true → (afterFrames app ep fs).state = .closed := by
  induction fs with
  | nil => exact fun ep _ h => h.resolve_right (by simp)
  | cons f fs ih =>
    intro ep hwhole h
    rw [List.forall_mem_cons] at hwhole
    refine ih _ hwhole.2 ?_
    rcases h with h | h
    · exact .inl (rxFrame_closed app (.inl h) hwhole.1)
    · rw [List.any_cons, Bool.or_eq_true] at h
      rcases h with h | h
      · exact .inl (rxFrame_closed app (.inr h) hwhole.1)
      · exact .inr h

/-- A connection: the socket and what is left in the read buffer, and whether a CLOSE frame or a masked one
was processed. -/
structure Conn where
  ws : Websock
  kept : Bytes
  ended : Bool

inductive NetEvent
  | data (chunk : Bytes)
  | error
  | close (statusCode : ℕ) (reason : Bytes)
  | destroy

/-- The part of `on_transport_data` for a read that fails, after the handshake. -/
def readError (app : App) (ep : Endpoint) : Endpoint :=
  let prevState := ep.state
  let ep := { ep with state := .closed }
  if prevState = .opened ∨ prevState = .closing then notify app ep (.close 0 []) else ep

def Conn.step (app : App) (c : Conn) : NetEvent → Conn
  | .data chunk =>
    let r := onDataRead app (c.ws, c.kept) chunk
    ⟨r.1, r.2, c.ended || (readFrames c.ws (c.kept ++ chunk)).any RxFrame.ends⟩
  | .error => { c with ws := { c.ws with toEndpoint := readError app c.ws.toEndpoint }, kept := [] }
  | .close statusCode reason =>
    { c with ws := { c.ws with toEndpoint := websockClose c.ws.toEndpoint statusCode reason } }
  | .destroy => { c with ws := { c.ws with toEndpoint := websockDestroy c.ws.toEndpoint } }

def Conn.fresh (maxRxMsgSize : ℕ) : Conn := ⟨.fresh maxRxMsgSize, [], false⟩

def Quiet (app : App) : Conn → NetEvent → Prop
  | c, .data chunk => c.ended = true → Silent app c.ws.toEndpoint (readFrames c.ws (c.kept ++ chunk))
  | _, _ => True

/-- Once the connection has ended, the application is not called any more, neither for the bytes behind in
the same read nor later. -/
def CloseIsFinal (app : App) (maxRxMsgSize : ℕ) (es : List NetEvent) : Prop :=
  (∀ xs ys, es = xs ++ ys → (run (Conn.step app) (.fresh maxRxMsgSize) xs).ended = true →
    (run (Conn.step app) (.fresh maxRxMsgSize) es).ws.callbacks =
      (run (Conn.step app) (.fresh maxRxMsgSize) xs).ws.callbacks) ∧
  ∀ xs chunk ys extra, es = xs ++ .data chunk :: ys →
    (readFrames (run (Conn.step app) (.fresh maxRxMsgSize) xs).ws
      ((run (Conn.step app) (.fresh maxRxMsgSize) xs).kept ++ chunk)).any RxFrame.ends = true →
    (run (Conn.step app) (.fresh maxRxMsgSize) (xs ++ [.data (chunk ++ extra)])).ws.callbacks =
      (run (Conn.step app) (.fresh maxRxMsgSize) (xs ++ [.data chunk])).ws.callbacks

lemma step_data_endpoint (c : Conn) (chunk : Bytes) : (c.step app (.data chunk)).ws.toEndpoint =
      afterFrames app c.ws.toEndpoint (readFrames c.ws (c.kept ++ chunk)) :=
  processRxFrame_frames app c.ws (c.kept ++ chunk)

def Conn.Sound (c : Conn) : Prop := c.ended = true → c.ws.state = .closed

variable {c : Conn}

lemma Conn.Sound.step (h : c.Sound) (e : NetEvent) : (c.step app e).Sound := by
  intro hended
  cases e with
  | data chunk =>
    rw [step_data_endpoint]
    refine afterFrames_closed app _ _ (readFrames_whole _ _) ?_
    have hor : (c.ended || (readFrames c.ws (c.kept ++ chunk)).any RxFrame.ends) = true := hended
    rw [Bool.or_eq_true] at hor
    exact hor.imp h id
  | error =>
    have hclosed : c.ws.state = .closed := h hended
    simp [Conn.step, readError, hclosed]
  | close code reason =>
    have hclosed : c.ws.state = .closed := h hended
    simp [Conn.step, websockClose, hclosed]
  | destroy => rfl

lemma run_sound (maxRxMsgSize : ℕ) (es : List NetEvent) :
    (run (Conn.step app) (.fresh maxRxMsgSize) es).Sound := by
  have h0 : (Conn.fresh maxRxMsgSize).Sound := fun h => by cases h
  exact @run_invariant _ _ _ Conn.Sound (fun _ e h => h.step app e) _ h0 es

lemma Conn.Sound.step_calls (h : c.Sound) (e : NetEvent) : c.ws.callbacks <:+ (c.step app e).ws.callbacks ∧
      (c.ended = true → ((c.step app e).ws.callbacks = c.ws.callbacks ↔ Quiet app c e)) := by
  cases e with
  | data chunk =>
    have hcalls := afterFrames_calls app _ c.ws.toEndpoint (readFrames_whole c.ws (c.kept ++ chunk))
    rw [← step_data_endpoint] at hcalls
    exact ⟨hcalls.1, fun hended => ⟨fun heq _ => hcalls.2.1 heq, fun hq => hcalls.2.2 (hq hended)⟩⟩
  | error =>
    refine ⟨?_, fun hended => ⟨fun _ => trivial, fun _ => ?_⟩⟩
    · simp only [Conn.step, readError]
      split_ifs
      · rw [notify_callbacks]
        exact List.suffix_cons _ _
      · exact List.suffix_rfl
    · have hclosed : c.ws.state = .closed := h hended
      simp [Conn.step, readError, hclosed]
  | close code reason =>
    have hsame := websockClose_callbacks c.ws.toEndpoint code reason
    exact ⟨by simp [Conn.step], fun _ => ⟨fun _ => trivial, fun _ => hsame⟩⟩
  | destroy => exact ⟨List.suffix_rfl, fun _ => ⟨fun _ => trivial, fun _ => rfl⟩⟩

lemma run_calls (es : List NetEvent) : ∀ {c : Conn}, c.Sound →
    c.ws.callbacks <:+ (run (Conn.step app) c es).ws.callbacks := by
  induction es with
  | nil => exact fun _ => List.suffix_rfl
  | cons e es ih => exact fun h => (h.step_calls app e).1.trans (ih (h.step app e))

lemma Conn.step_ended (h : c.ended = true) (e : NetEvent) : (c.step app e).ended = true := by
  cases e with
  | data chunk => simp [Conn.step, h]
  | error => exact h
  | close code reason => exact h
  | destroy => exact h

lemma run_quiet (es : List NetEvent) : ∀ {c : Conn}, c.Sound → c.ended = true →
    Guarded (Conn.step app) (Quiet app) c es → (run (Conn.step app) c es).ws.callbacks = c.ws.callbacks := by
  induction es with
  | nil => exact fun _ _ _ => rfl
  | cons e es ih =>
    intro c h hended hq
    rw [run_cons, ih (h.step app e) (Conn.step_ended app hended e) hq.2]
    exact ((h.step_calls app e).2 hended).2 hq.1

lemma step_data_append (c : Conn) (chunk extra : Bytes)
    (h : (readFrames c.ws (c.kept ++ chunk)).any RxFrame.ends = true) :
    (c.step app (.data (chunk ++ extra))).ws.toEndpoint = (c.step app (.data chunk)).ws.toEndpoint := by
  rw [step_data_endpoint, step_data_endpoint, ← List.append_assoc, readFrames_append _ _ _ h]

/-- A connection that has ended stays quiet exactly if no later read brings a frame that is reported. -/
theorem close_final_iff (app : App) (maxRxMsgSize : ℕ) (es : List NetEvent) :
    CloseIsFinal app maxRxMsgSize es ↔ Guarded (Conn.step app) (Quiet app) (.fresh maxRxMsgSize) es := by
  constructor
  · rintro ⟨hfinal, -⟩
    refine guarded_iff.2 fun pre e post hes => ?_
    have hsound := run_sound app maxRxMsgSize pre
    cases e with
    | data chunk =>
      intro hended
      have hall := hfinal pre (.data chunk :: post) hes hended
      have hstep := (hsound.step_calls app (.data chunk)).1
      have hrest := run_calls app post (hsound.step app (.data chunk))
      rw [hes, run_append, run_cons] at hall
      rw [hall] at hrest
      have heq := hrest.eq_of_length (le_antisymm hrest.length_le hstep.length_le)
      exact ((hsound.step_calls app (.data chunk)).2 hended).1 heq hended
    | error => trivial
    | close code reason => trivial
    | destroy => trivial
  · intro hq
    constructor
    · rintro xs ys rfl hended
      rw [run_append]
      exact run_quiet app ys (run_sound app maxRxMsgSize xs) hended hq.append.2
    · rintro xs chunk ys extra - hends
      rw [run_append, run_append]
      exact congrArg Endpoint.callbacks (step_data_append app _ chunk extra hends)

/-- A CLOSE frame in one read and a text message in the next. -/
theorem message_after_close :
    ¬ ∀ (app : App) (maxRxMsgSize : ℕ) (es : List NetEvent), CloseIsFinal app maxRxMsgSize es := by
  intro h
  have hcalls := (h (fun _ => .proceed) 64 [.data [0x88, 0], .data [0x81, 1, 65]]).1 [.data [0x88, 0]]
    [.data [0x81, 1, 65]] rfl (by decide)
  revert hcalls
  decide

end PjProject.WebSocket
