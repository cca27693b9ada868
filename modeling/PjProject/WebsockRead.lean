import PjProject.Websock
import PjProject.Transition

/-!
# WebSocket frames and socket reads

The frames of a byte stream are fixed by their headers. `Cursor` receives a stream one
whole frame at a time. The receive path of `Websock` calls the application as the cursor
does, as long as no read that ends a frame stops inside the next header and the socket is
not used any further after it was closed or destroyed.
-/
namespace PjProject.WebSocket

open Framing (split)

variable {b1 : UInt8} {rest : Bytes} {r : ℕ × ℕ}

lemma extendedLen_append
    (h : extendedLen b1 rest = some r) (x : Bytes) : extendedLen b1 (rest ++ x) = some r := by
  unfold extendedLen at h ⊢
  simp only [List.length_append] at *
  by_cases h6 : (b1 &&& 0x7F).toNat = 126
  · rw [if_pos h6] at h ⊢
    by_cases hl : rest.length < 2
    · simp [hl] at h
    · rw [if_neg hl] at h
      rw [if_neg (by omega), List.take_append_of_le_length (by omega)]
      exact h
  · rw [if_neg h6] at h ⊢
    by_cases h7 : (b1 &&& 0x7F).toNat = 127
    · rw [if_pos h7] at h ⊢
      by_cases hl : rest.length < 8
      · simp [hl] at h
      · rw [if_neg hl] at h
        rw [if_neg (by omega), List.take_append_of_le_length (by omega),
          List.drop_append_of_le_length (by omega),
          List.take_append_of_le_length (by simp; omega)]
        exact h
    · rw [if_neg h7] at h ⊢
      exact h

lemma extendedLen_pos (h : extendedLen b1 rest = some r) : 2 ≤ r.1 ∧ r.1 ≤ rest.length + 2 := by
  unfold extendedLen at h
  dsimp only at h
  split_ifs at h <;> cases h <;> simp <;> omega

variable {p : Bytes} {h : FrameHeader}

lemma parseFrameHeader_append (hp : parseFrameHeader p = some h)
    (x : Bytes) : parseFrameHeader (p ++ x) = some h := by
  match p, hp with
  | b0 :: b1 :: rest, hp =>
    simp only [parseFrameHeader, List.cons_append] at hp ⊢
    cases he : extendedLen b1 rest with
    | none => simp [he] at hp
    | some r =>
      have hpos := extendedLen_pos he
      simp only [he, extendedLen_append he x] at hp ⊢
      by_cases hm : hasMaskBit b1 = true
      · rw [if_pos hm] at hp ⊢
        by_cases hl : (b0 :: b1 :: rest).length < r.1 + 4
        · rw [if_pos hl] at hp
          cases hp
        · rw [if_neg hl] at hp
          have hdrop : (b0 :: b1 :: (rest ++ x)).drop r.1 = (b0 :: b1 :: rest).drop r.1 ++ x := by
            rw [← List.cons_append, ← List.cons_append,
              List.drop_append_of_le_length (by simp; omega)]
          rw [if_neg (by simp at hl ⊢; omega), hdrop,
            List.take_append_of_le_length (by simp at hl ⊢; omega)]
          exact hp
      · rw [if_neg hm] at hp ⊢
        exact hp

lemma parseFrameHeader_le (hp : parseFrameHeader p = some h) :
    2 ≤ h.hdrLen ∧ h.hdrLen ≤ p.length ∧ h.hasMask = isMasked p := by
  match p, hp with
  | b0 :: b1 :: rest, hp =>
    simp only [parseFrameHeader] at hp
    cases he : extendedLen b1 rest with
    | none => simp [he] at hp
    | some r =>
      have hpos := extendedLen_pos he
      simp only [he] at hp
      by_cases hm : hasMaskBit b1 = true
      · rw [if_pos hm] at hp
        by_cases hl : (b0 :: b1 :: rest).length < r.1 + 4
        · rw [if_pos hl] at hp
          cases hp
        · rw [if_neg hl] at hp
          cases hp
          simp [isMasked, hm] at hl ⊢
          omega
      · rw [if_neg hm] at hp
        cases hp
        simp [isMasked, hm]
        omega

lemma isMasked_append (hp : isMasked p = true) (x : Bytes) : isMasked (p ++ x) = true := by
  match p, hp with
  | _ :: _ :: _, hp => exact hp

def wireVerdict (buf : Bytes) : Framing.Verdict :=
  match parseFrameHeader buf with
  | some h => if buf.length < h.hdrLen + h.payloadLen then .more else .frame (h.hdrLen + h.payloadLen)
  | none => .more

variable {n : ℕ}

lemma wireVerdict_frame : wireVerdict p = .frame n ↔
      ∃ h, parseFrameHeader p = some h ∧ n = h.hdrLen + h.payloadLen ∧ n ≤ p.length := by
  unfold wireVerdict
  cases hp : parseFrameHeader p with
  | none => simp
  | some h =>
    by_cases hl : p.length < h.hdrLen + h.payloadLen
    · simp only [if_pos hl, reduceCtorEq, Option.some.injEq, exists_eq_left', false_iff]
      omega
    · simp only [if_neg hl, Framing.Verdict.frame.injEq, Option.some.injEq, exists_eq_left']
      omega

lemma extendedLen_take
    (h : extendedLen b1 rest = some r) (hn : r.1 ≤ n + 2) : extendedLen b1 (rest.take n) = some r := by
  have hpos := extendedLen_pos h
  unfold extendedLen at h ⊢
  simp only [List.length_take] at *
  by_cases h6 : (b1 &&& 0x7F).toNat = 126
  · rw [if_pos h6] at h ⊢
    by_cases hl : rest.length < 2
    · simp [hl] at h
    · rw [if_neg hl] at h
      cases h
      rw [if_neg (by simp at hn ⊢; omega), List.take_take, min_eq_left (by simp at hn; omega)]
  · rw [if_neg h6] at h ⊢
    by_cases h7 : (b1 &&& 0x7F).toNat = 127
    · rw [if_pos h7] at h ⊢
      by_cases hl : rest.length < 8
      · simp [hl] at h
      · rw [if_neg hl] at h
        by_cases hz : bigEndian (rest.take 4) ≠ 0
        · rw [if_pos hz] at h
          cases h
        · rw [if_neg hz] at h
          cases h
          simp only at hn
          rw [if_neg (by omega), List.take_take, min_eq_left (by omega), if_neg hz, List.drop_take,
            List.take_take, min_eq_left (by omega)]
    · rw [if_neg h7] at h ⊢
      exact h

lemma parseFrameHeader_take (hp : parseFrameHeader p = some h) (hn : h.hdrLen ≤ n) :
    parseFrameHeader (p.take n) = some h := by
  have h2 := (parseFrameHeader_le hp).1
  obtain ⟨m, rfl⟩ : ∃ m, n = m + 2 := ⟨n - 2, by omega⟩
  match p, hp with
  | b0 :: b1 :: rest, hp =>
    simp only [parseFrameHeader, List.take_succ_cons] at hp ⊢
    cases he : extendedLen b1 rest with
    | none => simp [he] at hp
    | some r =>
      have hpos := extendedLen_pos he
      simp only [he] at hp
      by_cases hm : hasMaskBit b1 = true
      · rw [if_pos hm] at hp
        by_cases hl : (b0 :: b1 :: rest).length < r.1 + 4
        · rw [if_pos hl] at hp
          cases hp
        · rw [if_neg hl] at hp
          cases hp
          simp only [List.length_cons] at hl hn
          have hdrop : (b0 :: b1 :: rest.take m).drop r.1 = ((b0 :: b1 :: rest).drop r.1).take (m + 2 - r.1) := by
            rw [← List.take_succ_cons, ← List.take_succ_cons, List.drop_take]
          simp only [extendedLen_take he (show r.1 ≤ m + 2 by omega), if_pos hm]
          rw [if_neg (by simp; omega), hdrop, List.take_take, min_eq_left (by omega)]
      · rw [if_neg hm] at hp
        cases hp
        simp only [extendedLen_take he hn, if_neg hm]

lemma wireVerdict_extends : Framing.Extends wireVerdict where
  pos := by
    intro p n h
    obtain ⟨hd, hp, rfl, -⟩ := wireVerdict_frame.1 h
    have := parseFrameHeader_le hp
    omega
  le := by
    intro p n h
    obtain ⟨_, _, _, hle⟩ := wireVerdict_frame.1 h
    exact hle
  append := by
    intro p n x h
    obtain ⟨hd, hp, rfl, hle⟩ := wireVerdict_frame.1 h
    exact wireVerdict_frame.2 ⟨hd, parseFrameHeader_append hp x, rfl, by simp; omega⟩
  take := by
    intro p n h
    obtain ⟨hd, hp, rfl, hle⟩ := wireVerdict_frame.1 h
    exact wireVerdict_frame.2 ⟨hd, parseFrameHeader_take hp (by omega), rfl, by simp; omega⟩
  good := by
    intro p
    unfold wireVerdict
    cases parseFrameHeader p with
    | none => simp
    | some h => by_cases hl : p.length < h.hdrLen + h.payloadLen <;> simp [hl]

lemma wireVerdict_more (h : wireVerdict p = .more) {hd : FrameHeader}
    (hp : parseFrameHeader p = some hd) : p.length < hd.hdrLen + hd.payloadLen := by
  by_contra hl
  have := wireVerdict_frame.2 ⟨hd, hp, rfl, not_lt.1 hl⟩
  rw [h] at this
  cases this

/-- A frame as it reaches the endpoint. Its payload is `cut` when it was collected over
several reads. -/
structure RxFrame where
  masked : Bool
  fin : Bool
  opcode : Opcode
  payload : Bytes
  cut : Bool
  deriving DecidableEq

def decodeFrame (bytes : Bytes) : Option RxFrame :=
  (decodeFrameHeader bytes).map fun d => ⟨d.1.hasMask, d.1.fin, d.1.opcode, d.2.1, false⟩

lemma decodeFrameHeader_frame (h : wireVerdict p = .frame n) :
    ∃ hd payload, decodeFrameHeader p = some (hd, payload, n) ∧ parseFrameHeader p = some hd ∧
      n = hd.hdrLen + hd.payloadLen ∧ (isMasked p = false → payload = (p.drop hd.hdrLen).take hd.payloadLen) ∧
      decodeFrame (p.take n) = some ⟨isMasked p, hd.fin, hd.opcode, payload, false⟩ := by
  obtain ⟨hd, hp, rfl, hle⟩ := wireVerdict_frame.1 h
  have hm := (parseFrameHeader_le hp).2.2
  have htake : (p.take (hd.hdrLen + hd.payloadLen)).drop hd.hdrLen =
      (p.drop hd.hdrLen).take hd.payloadLen := by
    rw [List.drop_take, Nat.add_sub_cancel_left]
  refine ⟨hd, _, by rw [decodeFrameHeader, hp]; simp [not_lt.2 hle]; rfl, hp, rfl, ?_, ?_⟩
  · intro hnm
    simp [hm, hnm]
  · rw [decodeFrame, decodeFrameHeader, parseFrameHeader_take hp (Nat.le_add_right ..)]
    simp [htake, hm, hle, List.take_take]

def rxFrame (app : App) (ep : Endpoint) (f : RxFrame) : Endpoint × Bool :=
  if f.masked then (failMasked app ep, false)
  else if f.cut ∧ ep.fragBufSize < f.payload.length then (ep, true)
  else handleFrame app ep f.fin f.opcode f.payload

def deliver (app : App) (ep : Endpoint) (f : RxFrame) : Endpoint :=
  if ep.destroying then ep else (rxFrame app ep f).1

variable {ep : Endpoint} (app : App)

lemma foldl_deliver_destroying (h : ep.destroying = true)
    (fs : List RxFrame) : fs.foldl (deliver app) ep = ep := by
  induction fs with
  | nil => rfl
  | cons f fs ih => rw [List.foldl_cons, deliver, if_pos h, ih]

/-- A receiver that gets whole frames: the endpoint, and the bytes of the frame that has
not arrived as a whole. -/
structure Cursor where
  ep : Endpoint
  cur : Bytes

def payloadBegun (cur : Bytes) : Bool :=
  match parseFrameHeader cur with
  | some h => h.hdrLen < cur.length
  | none => false

def markCut (cut : Bool) : List RxFrame → List RxFrame
  | [] => []
  | f :: fs => { f with cut := cut } :: fs

def arrivals (cur chunk : Bytes) : List RxFrame × Bytes :=
  let r := split wireVerdict (cur ++ chunk)
  (markCut (payloadBegun cur) (r.1.filterMap decodeFrame), r.2)

def Cursor.read (app : App) (c : Cursor) (chunk : Bytes) : Cursor :=
  ⟨(arrivals c.cur chunk).1.foldl (deliver app) c.ep, (arrivals c.cur chunk).2⟩

def Cursor.view (app : App) (c : Cursor) : Endpoint :=
  if c.ep.destroying = false ∧ isMasked c.cur then failMasked app c.ep else c.ep

def headerOnly (rest : Bytes) : Bool := !payloadBegun rest

/-- The frames of one read that come to the endpoint in turn: none follows one that closed
the socket, unless it is destroyed, and none follows a message that destroyed it. -/
def GoesOn (app : App) : Endpoint → List RxFrame → Bytes → Prop
  | ep, [], rest => isMasked rest = true → (failMasked app ep).destroying = true
  | ep, f :: fs, rest =>
    let r := rxFrame app ep f
    if r.1.destroying then r.2 = false ∨ fs = []
    else if r.2 then GoesOn app r.1 fs rest
    else fs = [] ∧ rest = []

instance GoesOn.decidable (app : App) :
    ∀ (ep : Endpoint) (fs : List RxFrame) (rest : Bytes), Decidable (GoesOn app ep fs rest)
  | ep, [], rest =>
    inferInstanceAs (Decidable (isMasked rest = true → (failMasked app ep).destroying = true))
  | ep, f :: fs, rest =>
    have := GoesOn.decidable app (rxFrame app ep f).1 fs rest
    inferInstanceAs (Decidable (if (rxFrame app ep f).1.destroying then
      (rxFrame app ep f).2 = false ∨ fs = []
      else if (rxFrame app ep f).2 then GoesOn app (rxFrame app ep f).1 fs rest
      else fs = [] ∧ rest = []))

def NotStranded (cur chunk : Bytes) : Prop :=
  (arrivals cur chunk).1 ≠ [] → headerOnly (arrivals cur chunk).2 →
    (arrivals cur chunk).2 = [] ∨ isMasked (arrivals cur chunk).2

instance (cur chunk : Bytes) : Decidable (NotStranded cur chunk) :=
  inferInstanceAs (Decidable (_ → _ → _))

def ReadOk (app : App) (c : Cursor) (chunk : Bytes) : Prop :=
  (c.view app).destroying = false →
    GoesOn app c.ep (arrivals c.cur chunk).1 (arrivals c.cur chunk).2 ∧ NotStranded c.cur chunk

instance (app : App) (c : Cursor) (chunk : Bytes) : Decidable (ReadOk app c chunk) :=
  inferInstanceAs (Decidable (_ → _))

/-- How the unfinished frame is kept: a header in the read buffer, a payload in the partial
buffer, unless it is skipped. -/
def Kept (ws : Websock) (kept rest : Bytes) : Prop :=
  (headerOnly rest = true ∧ ws.rxPartial = false ∧ kept = rest) ∨
  (kept = [] ∧ ws.rxPartial = true ∧ ∃ h, parseFrameHeader rest = some h ∧ h.hdrLen < rest.length ∧
    ws.rxPartialOp = h.opcode ∧ ws.rxPartialFin = h.fin ∧ ws.rxPartialTotal = h.payloadLen ∧
    ws.rxPartialGot = rest.length - h.hdrLen ∧
    ws.rxPartialBuf = if ws.fragBufSize < h.payloadLen then none else some (rest.drop h.hdrLen))

structure Sim (app : App) (ws : Websock) (kept : Bytes) (c : Cursor) : Prop where
  callbacks : ws.callbacks = (c.view app).callbacks
  destroying : ws.destroying = (c.view app).destroying
  alive : ws.destroying = false → ws.toEndpoint = c.ep ∧ isMasked c.cur = false ∧ Kept ws kept c.cur

variable {ws : Websock} {kept : Bytes}

lemma Kept.payload (hk : Kept ws kept rest)
    (hpar : parseFrameHeader rest = some h) (hlen : h.hdrLen < rest.length) :
    ws.rxPartial = true ∧ ws.rxPartialOp = h.opcode ∧ ws.rxPartialFin = h.fin ∧
      ws.rxPartialTotal = h.payloadLen ∧ ws.rxPartialGot = rest.length - h.hdrLen ∧
      ws.rxPartialBuf = if ws.fragBufSize < h.payloadLen then none else some (rest.drop h.hdrLen) := by
  rcases hk with ⟨hh, -, -⟩ | ⟨-, hp, h', hpar', -, hop, hfin, htot, hgot, hbuf⟩
  · simp only [headerOnly, payloadBegun, hpar] at hh
    simp [hlen] at hh
  · rw [hpar] at hpar'
    cases hpar'
    exact ⟨hp, hop, hfin, htot, hgot, hbuf⟩

lemma headerOnly_nil : headerOnly [] = true := rfl

lemma view_of_destroying (h : ep.destroying = true) (rest : Bytes) : (Cursor.mk ep rest).view app = ep := by
  simp [Cursor.view, h]

lemma view_of_unmasked (ep : Endpoint) (h : isMasked rest = false) : (Cursor.mk ep rest).view app = ep := by
  simp [Cursor.view, h]

lemma view_of_masked (hd : ep.destroying = false)
    (h : isMasked rest = true) : (Cursor.mk ep rest).view app = failMasked app ep := by
  simp [Cursor.view, h, hd]

lemma failMasked_destroying (h : ep.destroying = true) :
    (failMasked app ep).callbacks = ep.callbacks ∧ (failMasked app ep).destroying = true := by
  unfold failMasked sendCloseFrame
  split_ifs <;> simp_all

variable {c : Cursor}

lemma Sim.of_destroying {app : App}
    (hd : ws.destroying = true) (hv : c.ep.destroying = true) (hc : ws.callbacks = c.ep.callbacks) :
    Sim app ws kept c where
  callbacks := by rw [show c.view app = c.ep from view_of_destroying app hv c.cur]; exact hc
  destroying := by rw [show c.view app = c.ep from view_of_destroying app hv c.cur, hd, hv]
  alive := by simp [hd]

lemma processFrames_tail {k : ℕ} (ws : Websock) {buf : Bytes}
    (hk : buf.length ≤ k) (hp : ws.rxPartial = false) (hmore : wireVerdict buf = .more)
    (hgo : ws.destroying = false → isMasked buf = true → (failMasked app ws.toEndpoint).destroying = true) :
    ∃ kept, (processFrames app k ws buf).2 = kept.length ∧
      Sim app (processFrames app k ws buf).1 kept ⟨ws.toEndpoint, buf⟩ ∧ (kept = [] ∨ kept = buf) := by
  cases k with
  | zero =>
    obtain rfl := List.length_eq_zero_iff.1 (Nat.le_zero.1 hk)
    refine ⟨[], rfl, ⟨?_, ?_, fun _ => ⟨rfl, rfl, .inl ⟨headerOnly_nil, hp, rfl⟩⟩⟩, .inl rfl⟩
    · rw [view_of_unmasked app _ rfl]; rfl
    · rw [view_of_unmasked app _ rfl]; rfl
  | succ k =>
    rw [processFrames]
    by_cases h0 : buf = []
    · subst h0
      refine ⟨[], by simp, ⟨?_, ?_, fun _ => ⟨by simp, rfl, .inl ⟨headerOnly_nil, by simpa, rfl⟩⟩⟩,
        .inl rfl⟩
      · rw [view_of_unmasked app _ rfl]; simp
      · rw [view_of_unmasked app _ rfl]; simp
    · rw [if_neg h0]
      by_cases hm : isMasked buf = true
      · rw [if_pos hm]
        refine ⟨[], rfl, ?_, .inl rfl⟩
        by_cases hd : ws.destroying = true
        · exact Sim.of_destroying (failMasked_destroying app hd).2 hd (failMasked_destroying app hd).1
        · have hd' : ws.destroying = false := by simpa using hd
          have hdes := hgo hd' hm
          refine ⟨?_, ?_, fun h => absurd (hdes.symm.trans h) (by simp)⟩
          · rw [view_of_masked app hd' hm]
          · rw [view_of_masked app hd' hm]
      · have hm' : isMasked buf = false := by simpa using hm
        rw [if_neg hm]
        have hdec : decodeFrameHeader buf = none := by
          rw [decodeFrameHeader]
          cases hpar : parseFrameHeader buf with
          | none => rfl
          | some h => simp only [if_pos (wireVerdict_more hmore hpar)]
        rw [hdec]
        cases hpar : parseFrameHeader buf with
        | none =>
          have hh : headerOnly buf = true := by simp [headerOnly, payloadBegun, hpar]
          refine ⟨buf, rfl, ⟨?_, ?_, fun _ => ⟨rfl, hm', .inl ⟨hh, hp, rfl⟩⟩⟩, .inr rfl⟩
          · rw [view_of_unmasked app _ hm']
          · rw [view_of_unmasked app _ hm']
        | some h =>
          by_cases hle : buf.length ≤ h.hdrLen
          · have hh : headerOnly buf = true := by
              simp only [headerOnly, payloadBegun, hpar]
              simpa using hle
            simp only [if_pos hle]
            refine ⟨buf, rfl, ⟨?_, ?_, fun _ => ⟨rfl, hm', .inl ⟨hh, hp, rfl⟩⟩⟩, .inr rfl⟩
            · rw [view_of_unmasked app _ hm']
            · rw [view_of_unmasked app _ hm']
          · have hmask : h.hasMask = false := by rw [(parseFrameHeader_le hpar).2.2, hm']
            simp only [if_neg hle]
            refine ⟨[], rfl, ⟨?_, ?_, fun _ => ⟨rfl, hm', .inr ⟨rfl, rfl, h, hpar, not_le.1 hle, rfl,
              rfl, rfl, rfl, by simp [startPartial, hmask]⟩⟩⟩, .inl rfl⟩
            · rw [view_of_unmasked app _ hm']; rfl
            · rw [view_of_unmasked app _ hm']; rfl

lemma wireFrames_cons (h : wireVerdict p = .frame n) {f : RxFrame} (hf : decodeFrame (p.take n) = some f) :
    (split wireVerdict p).1.filterMap decodeFrame =
      f :: (split wireVerdict (p.drop n)).1.filterMap decodeFrame := by
  rw [Framing.split_frame wireVerdict_extends h, List.filterMap_cons_some hf]

lemma split_of_no_frames (h : (split wireVerdict p).1.filterMap decodeFrame = []) :
    wireVerdict p = .more ∧ (split wireVerdict p).2 = p := by
  cases hv : wireVerdict p with
  | more => exact ⟨rfl, by rw [Framing.split_more hv]⟩
  | bad => exact absurd hv (wireVerdict_extends.good p)
  | frame n =>
    obtain ⟨_, _, _, _, _, _, hf⟩ := decodeFrameHeader_frame hv
    rw [wireFrames_cons hv hf] at h
    cases h

def Follows (app : App) (out : Websock × ℕ) (c : Cursor) : Prop :=
  ∃ kept, out.2 = kept.length ∧ Sim app out.1 kept c ∧ (kept = [] ∨ kept = c.cur)

lemma processFrames_after (app : App) {k : ℕ} {ws : Websock} {buf : Bytes} (r : Endpoint × Bool)
    {fs : List RxFrame} {rest : Bytes} (hk : buf.length ≤ k) (hp : ws.rxPartial = false)
    (hfs : fs = (split wireVerdict buf).1.filterMap decodeFrame) (hr : rest = (split wireVerdict buf).2)
    (hgo : if r.1.destroying then r.2 = false ∨ fs = []
      else if r.2 then GoesOn app r.1 fs rest else fs = [] ∧ rest = [])
    (hnext : r.1.destroying = false → GoesOn app r.1 fs rest →
      Follows app (processFrames app k { ws with toEndpoint := r.1 } buf)
        ⟨fs.foldl (deliver app) r.1, rest⟩) :
    Follows app (if r.2 then processFrames app k { ws with toEndpoint := r.1 } buf
      else ({ ws with toEndpoint := r.1 }, 0)) ⟨fs.foldl (deliver app) r.1, rest⟩ := by
  by_cases hd : r.1.destroying = true
  · rw [if_pos hd] at hgo
    rw [foldl_deliver_destroying app hd]
    by_cases hg : r.2 = true
    · -- the message destroyed the socket, and only bytes of an unfinished frame follow
      have hfs0 : fs = [] := by simpa [hg] using hgo
      obtain ⟨hmore, hrest⟩ := split_of_no_frames (hfs.symm.trans hfs0)
      rw [if_pos hg, hr, hrest]
      exact processFrames_tail app { ws with toEndpoint := r.1 } hk hp hmore
        (fun hd' => absurd (hd.symm.trans hd') (by simp))
    · rw [if_neg hg]
      exact ⟨[], rfl, Sim.of_destroying hd hd rfl, .inl rfl⟩
  · rw [if_neg hd] at hgo
    by_cases hg : r.2 = true
    · rw [if_pos hg] at hgo ⊢
      exact hnext (by simpa using hd) hgo
    · rw [if_neg hg] at hgo ⊢
      obtain ⟨h1, h2⟩ := hgo
      rw [h1, h2]
      refine ⟨[], rfl, ⟨?_, ?_, fun _ => ⟨rfl, rfl, .inl ⟨headerOnly_nil, hp, rfl⟩⟩⟩, .inl rfl⟩
      · rw [view_of_unmasked app _ rfl]; rfl
      · rw [view_of_unmasked app _ rfl]; rfl

lemma processFrames_sim (buf : Bytes) : ∀ {k : ℕ} (ws : Websock), buf.length ≤ k →
    ws.rxPartial = false → ws.destroying = false →
    GoesOn app ws.toEndpoint ((split wireVerdict buf).1.filterMap decodeFrame) (split wireVerdict buf).2 →
    Follows app (processFrames app k ws buf)
      ⟨((split wireVerdict buf).1.filterMap decodeFrame).foldl (deliver app) ws.toEndpoint,
        (split wireVerdict buf).2⟩ := by
  induction buf using Framing.split_induction wireVerdict_extends with
  | more p hv =>
    intro k ws hk hp hd hgo
    rw [Framing.split_more hv] at hgo ⊢
    exact processFrames_tail app ws hk hp hv fun _ => hgo
  | frame p n hv ih =>
    intro k ws hk hp hd hgo
    obtain ⟨h, payload, hdec, -, -, -, hf⟩ := decodeFrameHeader_frame hv
    have hle := wireVerdict_extends.le p n hv
    have hpos := wireVerdict_extends.pos p n hv
    have hne : p ≠ [] := by
      rintro rfl
      simp at hle
      omega
    obtain ⟨k, rfl⟩ : ∃ m, k = m + 1 := ⟨k - 1, by
      have := List.length_pos_of_ne_nil hne
      omega⟩
    have hdrop : (p.drop n).length ≤ k := by
      rw [List.length_drop]
      omega
    have hrest : (split wireVerdict p).2 = (split wireVerdict (p.drop n)).2 := by
      rw [Framing.split_frame wireVerdict_extends hv]
    rw [wireFrames_cons hv hf, hrest] at hgo ⊢
    rw [List.foldl_cons, deliver, if_neg (by simp [hd]), processFrames, if_neg hne]
    have hafter := fun r => processFrames_after app r hdrop hp rfl rfl
    by_cases hm : isMasked p = true
    · have hrx : rxFrame app ws.toEndpoint ⟨isMasked p, h.fin, h.opcode, payload, false⟩ =
          (failMasked app ws.toEndpoint, false) := by simp [rxFrame, hm]
      rw [if_pos hm]
      rw [GoesOn, hrx] at hgo
      rw [hrx]
      exact hafter (failMasked app ws.toEndpoint, false) hgo
        (ih { ws with toEndpoint := failMasked app ws.toEndpoint } hdrop hp)
    · have hrx : rxFrame app ws.toEndpoint ⟨isMasked p, h.fin, h.opcode, payload, false⟩ =
          handleFrame app ws.toEndpoint h.fin h.opcode payload := by simp [rxFrame, hm]
      rw [if_neg hm, hdec]
      rw [GoesOn, hrx] at hgo
      rw [hrx]
      exact hafter (handleFrame app ws.toEndpoint h.fin h.opcode payload) hgo
        (ih { ws with toEndpoint := (handleFrame app ws.toEndpoint h.fin h.opcode payload).1 } hdrop hp)

lemma markCut_false {fs : List RxFrame} (h : ∀ f ∈ fs, f.cut = false) : markCut false fs = fs := by
  cases fs with
  | nil => rfl
  | cons f fs =>
    have := h f (by simp)
    cases f
    simp_all [markCut]

lemma decodeFrame_cut {bytes : Bytes} {f : RxFrame} (h : decodeFrame bytes = some f) : f.cut = false := by
  simp only [decodeFrame, Option.map_eq_some_iff] at h
  obtain ⟨_, _, rfl⟩ := h
  rfl

lemma arrivals_of_headerOnly {cur : Bytes} (h : headerOnly cur = true) (chunk : Bytes) :
    arrivals cur chunk = ((split wireVerdict (cur ++ chunk)).1.filterMap decodeFrame,
      (split wireVerdict (cur ++ chunk)).2) := by
  have hb : payloadBegun cur = false := by simpa [headerOnly] using h
  rw [arrivals, hb, markCut_false]
  intro f hf
  obtain ⟨b, -, hb⟩ := List.mem_filterMap.1 hf
  exact decodeFrame_cut hb

lemma Cursor.view_read_of_destroying (c : Cursor) (chunk : Bytes)
    (h : (c.view app).destroying = true) : (c.read app chunk).view app = c.view app := by
  by_cases hd : c.ep.destroying = true
  · rw [Cursor.read, foldl_deliver_destroying app hd, view_of_destroying app hd]
    exact (view_of_destroying app hd c.cur).symm
  · have hd' : c.ep.destroying = false := by simpa using hd
    have hm : isMasked c.cur = true := by
      by_contra hm
      rw [Cursor.view, if_neg (by simp [hm])] at h
      exact hd h
    have hv : c.view app = failMasked app c.ep := view_of_masked app hd' hm
    have hm' := isMasked_append hm chunk
    rw [hv] at h ⊢
    rw [Cursor.read, arrivals]
    cases hw : wireVerdict (c.cur ++ chunk) with
    | more =>
      rw [Framing.split_more hw]
      exact view_of_masked app hd' hm'
    | bad => exact absurd hw (wireVerdict_extends.good _)
    | frame n =>
      obtain ⟨hd2, payload, -, -, -, -, hf⟩ := decodeFrameHeader_frame hw
      rw [wireFrames_cons hw hf, markCut, List.foldl_cons, deliver, if_neg hd, rxFrame,
        if_pos hm', foldl_deliver_destroying app h, view_of_destroying app h]

lemma Sim.take {app : App} (hs : Sim app ws kept c) (hcase : kept = [] ∨ kept = c.cur) {buf : Bytes}
    (hbuf : headerOnly c.cur = true → c.cur = [] ∨ isMasked c.cur = true ∨ c.cur = buf) :
    Sim app ws (buf.take kept.length) c where
  callbacks := hs.callbacks
  destroying := hs.destroying
  alive := by
    intro hd
    obtain ⟨hep, hum, hkept⟩ := hs.alive hd
    refine ⟨hep, hum, ?_⟩
    have htake : buf.take kept.length = kept := by
      rcases hcase with rfl | rfl
      · rfl
      rcases hkept with ⟨hh, -, -⟩ | ⟨h0, -⟩
      · rcases hbuf hh with h0 | hm | hb
        · simp [h0]
        · rw [hum] at hm
          cases hm
        · simp [hb]
      · simp [h0]
    rw [htake]
    exact hkept

variable {chunk : Bytes}

lemma cut_frame {cur : Bytes} (hpar : parseFrameHeader cur = some h)
    (hlen : h.hdrLen < cur.length) (hmore : wireVerdict cur = .more) (hum : isMasked cur = false)
    (hfull : h.hdrLen + h.payloadLen ≤ cur.length + chunk.length) : arrivals cur chunk =
      (⟨false, h.fin, h.opcode,
        cur.drop h.hdrLen ++ chunk.take (h.payloadLen - (cur.length - h.hdrLen)), true⟩ ::
        (split wireVerdict (chunk.drop (h.payloadLen - (cur.length - h.hdrLen)))).1.filterMap decodeFrame,
      (split wireVerdict (chunk.drop (h.payloadLen - (cur.length - h.hdrLen)))).2) := by
  have hlt := wireVerdict_more hmore hpar
  have hpar' := parseFrameHeader_append hpar chunk
  have hw : wireVerdict (cur ++ chunk) = .frame (h.hdrLen + h.payloadLen) :=
    wireVerdict_frame.2 ⟨h, hpar', rfl, by simpa using hfull⟩
  have hm' : isMasked (cur ++ chunk) = false := by
    have h1 := (parseFrameHeader_le hpar').2.2
    have h2 := (parseFrameHeader_le hpar).2.2
    rw [← h1, h2, hum]
  have hbegun : payloadBegun cur = true := by simp [payloadBegun, hpar, hlen]
  obtain ⟨hd, payload, -, hpar2, -, hpay, hf⟩ := decodeFrameHeader_frame hw
  obtain rfl : hd = h := by
    rw [hpar'] at hpar2
    exact (Option.some.inj hpar2).symm
  have hsplit : cur.length + (hd.payloadLen - (cur.length - hd.hdrLen)) = hd.hdrLen + hd.payloadLen := by
    omega
  have hdrop : (cur ++ chunk).drop (hd.hdrLen + hd.payloadLen) =
      chunk.drop (hd.payloadLen - (cur.length - hd.hdrLen)) := by
    rw [← hsplit, List.drop_append, List.drop_eq_nil_of_le (Nat.le_add_right ..),
      Nat.add_sub_cancel_left, List.nil_append]
  have hp : payload = cur.drop hd.hdrLen ++ chunk.take (hd.payloadLen - (cur.length - hd.hdrLen)) := by
    rw [hpay hm', List.drop_append_of_le_length hlen.le, List.take_append, List.length_drop,
      List.take_of_length_le (by rw [List.length_drop]; omega)]
  rw [arrivals, wireFrames_cons hw hf, Framing.split_frame wireVerdict_extends hw, hdrop, hbegun,
    hm', markCut, hp]

lemma onDataRead_partial
    (hd : ws.destroying = false) (hep : ws.toEndpoint = c.ep) (hum : isMasked c.cur = false)
    (hkept : Kept ws [] c.cur) (hpar : parseFrameHeader c.cur = some h) (hlen : h.hdrLen < c.cur.length)
    (hc : c.cur.length + chunk.length < h.hdrLen + h.payloadLen) (hne : chunk ≠ []) :
    Sim app (onDataRead app (ws, []) chunk).1 (onDataRead app (ws, []) chunk).2 (c.read app chunk) := by
  obtain ⟨hp, hop, hfin, htot, hgot, hbuf⟩ := hkept.payload hpar hlen
  have hpar2 := parseFrameHeader_append hpar chunk
  have hmore : wireVerdict (c.cur ++ chunk) = .more := by
    simp [wireVerdict, hpar2, hc]
  have hread : c.read app chunk = ⟨c.ep, c.cur ++ chunk⟩ := by
    rw [Cursor.read, arrivals, Framing.split_more hmore]
    rfl
  have hum' : isMasked (c.cur ++ chunk) = false := by
    rw [← (parseFrameHeader_le hpar2).2.2, (parseFrameHeader_le hpar).2.2, hum]
  have hmin : min chunk.length (ws.rxPartialTotal - ws.rxPartialGot) = chunk.length := by
    rw [htot, hgot]
    omega
  have hdata : onDataRead app (ws, []) chunk =
      ({ ws with rxPartialBuf := ws.rxPartialBuf.map (· ++ chunk),
                 rxPartialGot := ws.rxPartialGot + chunk.length }, []) := by
    have hlt : ws.rxPartialGot + chunk.length < ws.rxPartialTotal := by
      rw [htot, hgot]
      omega
    simp [onDataRead, processRxFrame, hd, hp, hne, hmin, hlt]
  rw [hdata, hread]
  refine ⟨?_, ?_, fun _ => ⟨hep, hum', .inr ⟨rfl, hp, h, hpar2, ?_, hop, hfin, htot, ?_, ?_⟩⟩⟩
  · rw [view_of_unmasked app _ hum', ← hep]
  · rw [view_of_unmasked app _ hum', ← hep]
  · simp
    omega
  · simp only [hgot, List.length_append]
    omega
  · simp only [hbuf, List.drop_append_of_le_length hlen.le]
    split_ifs <;> rfl

lemma onDataRead_ends_partial (hd : ws.destroying = false) (hep : ws.toEndpoint = c.ep)
    (hum : isMasked c.cur = false) (hmore : wireVerdict c.cur = .more)
    (hkept : Kept ws [] c.cur) (hpar : parseFrameHeader c.cur = some h) (hlen : h.hdrLen < c.cur.length)
    (hc : h.hdrLen + h.payloadLen ≤ c.cur.length + chunk.length)
    (hgo : GoesOn app c.ep (arrivals c.cur chunk).1 (arrivals c.cur chunk).2)
    (hstr : NotStranded c.cur chunk) :
    Sim app (onDataRead app (ws, []) chunk).1 (onDataRead app (ws, []) chunk).2 (c.read app chunk) := by
  obtain ⟨hp, hop, hfin, htot, hgot, hbuf⟩ := hkept.payload hpar hlen
  have hlt := wireVerdict_more hmore hpar
  have harr := cut_frame hpar hlen hmore hum hc
  generalize hneed : h.payloadLen - (c.cur.length - h.hdrLen) = need at harr
  have hne : chunk ≠ [] := by
    rintro rfl
    simp at hc
    omega
  have hmin : min chunk.length (ws.rxPartialTotal - ws.rxPartialGot) = need := by
    rw [htot, hgot]
    omega
  have hdone : ¬ ws.rxPartialGot + need < ws.rxPartialTotal := by
    rw [htot, hgot]
    omega
  have hdrop : (chunk.drop need).length ≤ chunk.length := by simp
  have hplen : (c.cur.drop h.hdrLen ++ chunk.take need).length = h.payloadLen := by
    simp only [List.length_append, List.length_drop, List.length_take]
    omega
  rw [NotStranded, harr] at hstr
  rw [harr] at hgo
  have hfollow : Follows app (processRxFrame app ws chunk) (c.read app chunk) := by
    have hafter := fun r ws' (h' : Websock.rxPartial ws' = false) =>
      @processFrames_after app _ ws' _ r _ _ hdrop h' rfl rfl
    rw [Cursor.read, harr, List.foldl_cons, deliver, if_neg (by rw [← hep, hd]; simp), processRxFrame,
      if_neg (by simp [hd]), if_pos ⟨hp, hne⟩]
    simp only [hmin, if_neg hdone, GoesOn] at hgo ⊢
    by_cases hbig : ws.fragBufSize < h.payloadLen
    · have hrx : rxFrame app c.ep ⟨false, h.fin, h.opcode, c.cur.drop h.hdrLen ++ chunk.take need, true⟩ =
          (c.ep, true) := by
        simp only [rxFrame, hplen, ← hep]
        simp [hbig]
      simp only [hrx] at hgo ⊢
      rw [if_pos hbig] at hbuf
      simp only [hbuf, Option.map_none]
      rw [← hep] at hgo ⊢
      rw [if_neg (by simp [hd]), if_pos trivial] at hgo
      exact processFrames_sim app _ _ hdrop rfl hd hgo
    · have hrx : rxFrame app c.ep ⟨false, h.fin, h.opcode, c.cur.drop h.hdrLen ++ chunk.take need, true⟩ =
          handleFrame app c.ep h.fin h.opcode (c.cur.drop h.hdrLen ++ chunk.take need) := by
        simp only [rxFrame, hplen, ← hep]
        simp [hbig]
      simp only [hrx] at hgo ⊢
      rw [if_neg hbig] at hbuf
      simp only [hbuf, Option.map_some, hop, hfin]
      rw [← hep] at hgo ⊢
      set r := handleFrame app ws.toEndpoint h.fin h.opcode (c.cur.drop h.hdrLen ++ chunk.take need)
      set ws' : Websock := { ws with
        rxPartial := false
        rxPartialOp := h.opcode
        rxPartialFin := h.fin
        rxPartialGot := ws.rxPartialGot + need
        rxPartialBuf := some (c.cur.drop h.hdrLen ++ chunk.take need) }
      exact hafter r ws' rfl hgo (processFrames_sim app _ { ws' with toEndpoint := r.1 } hdrop rfl)
  obtain ⟨kept, hk, hsim, hcase⟩ := hfollow
  have hdata : onDataRead app (ws, []) chunk =
      ((processRxFrame app ws chunk).1, chunk.take kept.length) := by
    simp [onDataRead, hk]
  rw [hdata]
  apply hsim.take hcase
  intro hh
  rw [Cursor.read, harr] at hh ⊢
  rcases hstr (by simp) hh with h0 | hm
  · exact .inl h0
  · exact .inr (.inl hm)

lemma onDataRead_sim (chunk : Bytes)
    (hs : Sim app ws kept c) (hmore : wireVerdict c.cur = .more) (hok : ReadOk app c chunk) :
    Sim app (onDataRead app (ws, kept) chunk).1 (onDataRead app (ws, kept) chunk).2 (c.read app chunk) := by
  by_cases hd : ws.destroying = true
  · have hv : (c.view app).destroying = true := by rw [← hs.destroying, hd]
    have hview := Cursor.view_read_of_destroying app c chunk hv
    have hdata : onDataRead app (ws, kept) chunk = (ws, []) := by
      simp [onDataRead, processRxFrame, hd]
    rw [hdata]
    exact ⟨by rw [hview]; exact hs.callbacks, by rw [hview]; exact hs.destroying,
      fun h => absurd (hd.symm.trans h) (by simp)⟩
  · have hd' : ws.destroying = false := by simpa using hd
    obtain ⟨hep, hum, hkept⟩ := hs.alive hd'
    obtain ⟨hgo, hstr⟩ := hok (by rw [← hs.destroying, hd'])
    rcases id hkept with ⟨hh, hp, rfl⟩ | ⟨rfl, -, h, hpar, hlen, -⟩
    · -- a header, if anything, is in front of the new bytes
      have harr := arrivals_of_headerOnly hh chunk
      rw [harr] at hgo
      rw [← hep] at hgo
      obtain ⟨kept', hk, hsim, hcase⟩ := processFrames_sim app (c.cur ++ chunk) ws le_rfl hp hd' hgo
      have hdata : onDataRead app (ws, c.cur) chunk =
          ((processFrames app (c.cur ++ chunk).length ws (c.cur ++ chunk)).1,
            (c.cur ++ chunk).take kept'.length) := by
        simp [onDataRead, processRxFrame, hd', hp, ← hk]
      rw [hdata, Cursor.read, harr, ← hep]
      apply hsim.take hcase
      intro hrh
      rw [NotStranded, harr] at hstr
      by_cases hfs : (split wireVerdict (c.cur ++ chunk)).1.filterMap decodeFrame = []
      · exact .inr (.inr (split_of_no_frames hfs).2)
      · rcases hstr hfs hrh with h0 | hm
        · exact .inl h0
        · exact .inr (.inl hm)
    · have hlt := wireVerdict_more hmore hpar
      by_cases hchunk : chunk = []
      · subst hchunk
        have hsame : c.read app [] = c := by
          rw [Cursor.read, arrivals, List.append_nil, Framing.split_more hmore]
          rfl
        have hdata : onDataRead app (ws, []) [] = (ws, []) := by
          simp [onDataRead, processRxFrame, hd', processFrames]
        rw [hdata, hsame]
        exact hs
      · by_cases hc : chunk.length < h.payloadLen - (c.cur.length - h.hdrLen)
        · exact onDataRead_partial app hd' hep hum hkept hpar hlen (by omega) hchunk
        · exact onDataRead_ends_partial app hd' hep hum hmore hkept hpar hlen (by omega) hgo hstr

open Transition (run Guarded)

def Cursor.fresh (maxRxMsgSize : ℕ) : Cursor := ⟨.fresh maxRxMsgSize, []⟩

lemma Cursor.read_more (c : Cursor) (chunk : Bytes) : wireVerdict (c.read app chunk).cur = .more :=
  Framing.split_rest wireVerdict_extends _

lemma reads_sim (reads : List Bytes) : ∀ {ws : Websock} {kept : Bytes} {c : Cursor},
    Sim app ws kept c → wireVerdict c.cur = .more → Guarded (Cursor.read app) (ReadOk app) c reads →
    Sim app (reads.foldl (onDataRead app) (ws, kept)).1 (reads.foldl (onDataRead app) (ws, kept)).2
      (run (Cursor.read app) c reads) := by
  induction reads with
  | nil => exact fun hs _ _ => hs
  | cons chunk reads ih =>
    intro ws kept c hs hmore hg
    exact ih (onDataRead_sim app chunk hs hmore hg.1) (c.read_more app chunk) hg.2

lemma Sim.fresh (maxRxMsgSize : ℕ) : Sim app (.fresh maxRxMsgSize) [] (.fresh maxRxMsgSize) :=
  ⟨rfl, rfl, fun _ => ⟨rfl, rfl, .inl ⟨rfl, rfl, rfl⟩⟩⟩

def CutFits (c : Cursor) (chunk : Bytes) : Prop :=
  ∀ f ∈ (arrivals c.cur chunk).1, f.cut = true → f.payload.length ≤ c.ep.fragBufSize

instance (c : Cursor) (chunk : Bytes) : Decidable (CutFits c chunk) :=
  inferInstanceAs (Decidable (∀ f ∈ (arrivals c.cur chunk).1, _ → _))

lemma markCut_fits {cut : Bool} {fs : List RxFrame} (hcut : ∀ f ∈ fs, f.cut = false)
    (h : ∀ f ∈ markCut cut fs, f.cut = true → f.payload.length ≤ ep.fragBufSize) :
    (markCut cut fs).foldl (deliver app) ep = fs.foldl (deliver app) ep := by
  cases fs with
  | nil => rfl
  | cons f fs =>
    have hf : f.cut = false := hcut f (by simp)
    have hdel : deliver app ep { f with cut := cut } = deliver app ep f := by
      cases cut with
      | false => rw [← hf]
      | true =>
        have hle : f.payload.length ≤ ep.fragBufSize := h { f with cut := true } (by simp [markCut]) rfl
        simp [deliver, rxFrame, hf, not_lt.2 hle]
    rw [markCut, List.foldl_cons, List.foldl_cons, hdel]

lemma Cursor.run_eq (reads : List Bytes) : ∀ {c : Cursor}, wireVerdict c.cur = .more →
    Guarded (Cursor.read app) CutFits c reads → run (Cursor.read app) c reads =
      ⟨((split wireVerdict (c.cur ++ reads.flatten)).1.filterMap decodeFrame).foldl (deliver app) c.ep,
        (split wireVerdict (c.cur ++ reads.flatten)).2⟩ := by
  induction reads with
  | nil =>
    intro c hmore _
    simp [Framing.split_more hmore]
  | cons chunk reads ih =>
    intro c hmore hg
    have hread : c.read app chunk =
        ⟨((split wireVerdict (c.cur ++ chunk)).1.filterMap decodeFrame).foldl (deliver app) c.ep,
          (split wireVerdict (c.cur ++ chunk)).2⟩ := by
      rw [Cursor.read, arrivals, markCut_fits app _ hg.1]
      intro f hf
      obtain ⟨b, -, hb⟩ := List.mem_filterMap.1 hf
      exact decodeFrame_cut hb
    rw [Transition.run_cons, ih (c.read_more app chunk) hg.2, hread, List.flatten_cons, ← List.append_assoc,
      Framing.split_append wireVerdict_extends (c.cur ++ chunk)]
    simp [List.foldl_append]

def wholeReads (bytes : Bytes) : List Bytes :=
  (split wireVerdict bytes).1 ++
    if (split wireVerdict bytes).2 = [] then [] else [(split wireVerdict bytes).2]

lemma wholeReads_flatten (bytes : Bytes) : (wholeReads bytes).flatten = bytes := by
  have h := Framing.split_flatten wireVerdict_extends bytes
  rw [wholeReads, List.flatten_append]
  split_ifs with h0
  · rw [h0] at h
    exact h
  · simpa using h

lemma arrivals_whole {f : Bytes} (hf : wireVerdict f = .frame f.length) :
    ∃ a, decodeFrame f = some a ∧ a.cut = false ∧ arrivals [] f = ([a], []) := by
  obtain ⟨hd, payload, -, -, -, -, hdec⟩ := decodeFrameHeader_frame hf
  refine ⟨_, by simpa using hdec, rfl, ?_⟩
  rw [arrivals_of_headerOnly headerOnly_nil, List.nil_append, wireFrames_cons hf hdec,
    Framing.split_frame wireVerdict_extends hf]
  simp

lemma whole_frames_ok (hrest : wireVerdict rest = .more)
    (fs : List Bytes) : (∀ f ∈ fs, wireVerdict f = .frame f.length) → ∀ ep : Endpoint, (isMasked rest = true →
      ((Cursor.mk ((fs.filterMap decodeFrame).foldl (deliver app) ep) rest).view app).destroying = true) →
    Guarded (Cursor.read app) (fun c chunk => ReadOk app c chunk ∧ CutFits c chunk) ⟨ep, []⟩
      (fs ++ if rest = [] then [] else [rest]) := by
  induction fs with
  | nil =>
    intro _ ep hmask
    by_cases h0 : rest = []
    · rw [if_pos h0]
      trivial
    · have harr : arrivals [] rest = ([], rest) := by
        rw [arrivals, List.nil_append, Framing.split_more hrest]
        rfl
      rw [if_neg h0]
      refine ⟨⟨fun hd => ⟨?_, ?_⟩, ?_⟩, trivial⟩
      · rw [view_of_unmasked app ep rfl] at hd
        rw [harr]
        intro hm
        have hv := hmask hm
        rw [List.filterMap_nil, List.foldl_nil, view_of_masked app hd hm] at hv
        exact hv
      · rw [NotStranded, harr]
        exact fun h => absurd rfl h
      · rw [CutFits, harr]
        simp
  | cons f fs ih =>
    intro hw ep hmask
    obtain ⟨a, hdec, hcut, harr⟩ := arrivals_whole (hw f (by simp))
    have hread : Cursor.read app ⟨ep, []⟩ f = ⟨deliver app ep a, []⟩ := by
      rw [Cursor.read, harr]
      rfl
    rw [List.filterMap_cons_some hdec, List.foldl_cons] at hmask
    refine ⟨⟨fun _ => ⟨?_, ?_⟩, ?_⟩, ?_⟩
    · rw [harr]
      simp only [GoesOn]
      split_ifs
      · exact .inr trivial
      · exact fun hm => absurd hm (by simp [isMasked])
      · exact ⟨trivial, trivial⟩
    · rw [NotStranded, harr]
      exact fun _ _ => .inl rfl
    · rw [CutFits, harr]
      simp [hcut]
    · rw [hread]
      exact ih (fun g hg => hw g (by simp [hg])) _ hmask

/-- However the bytes of a stream are cut into reads, the application is called as if they
came one whole frame at a time, when no read that ends a frame stops inside the next header,
no frame that is cut is larger than a message may be, and nothing follows in the read on a
frame that closes the socket or on a message that destroys it. -/
theorem onDataRead_chunking (app : App) (maxRxMsgSize : ℕ) (reads : List Bytes)
    (h : Guarded (Cursor.read app) (fun c chunk => ReadOk app c chunk ∧ CutFits c chunk)
      (.fresh maxRxMsgSize) reads) : (reads.foldl (onDataRead app) (.fresh maxRxMsgSize, [])).1.callbacks =
      ((wholeReads reads.flatten).foldl (onDataRead app) (.fresh maxRxMsgSize, [])).1.callbacks := by
  obtain ⟨hok, hfits⟩ := h.and
  have hmore : wireVerdict (Cursor.fresh maxRxMsgSize).cur = .more := rfl
  have hsim := reads_sim app reads (Sim.fresh app maxRxMsgSize) hmore hok
  have hend := Cursor.run_eq app reads hmore hfits
  have hcur : (Cursor.fresh maxRxMsgSize).cur ++ reads.flatten = reads.flatten := rfl
  rw [hcur] at hend
  -- an unfinished masked frame has made the application destroy the socket
  have hmask : isMasked (split wireVerdict reads.flatten).2 = true →
      ((run (Cursor.read app) (.fresh maxRxMsgSize) reads).view app).destroying = true := by
    intro hm
    rw [← hsim.destroying]
    by_contra hd
    have hum := (hsim.alive (by simpa using hd)).2.1
    rw [hend] at hum
    rw [hm] at hum
    cases hum
  rw [hend] at hmask
  obtain ⟨hok', hfits'⟩ := (whole_frames_ok app
    (Framing.split_rest wireVerdict_extends reads.flatten) _
    (Framing.split_whole wireVerdict_extends reads.flatten) _ hmask).and
  have hsim' := reads_sim app (wholeReads reads.flatten) (Sim.fresh app maxRxMsgSize) hmore hok'
  have hend' := Cursor.run_eq app (wholeReads reads.flatten) hmore hfits'
  rw [wholeReads_flatten, hcur] at hend'
  rw [hsim.callbacks, hsim'.callbacks, hend, hend']

/-- A text message cut inside its header and inside its payload, and a binary one behind it. -/
theorem onDataRead_chunking_cut :
    ([[0x81], [3, 65], [66, 67], [0x82, 1, 68]].foldl (onDataRead fun _ => .proceed)
        (.fresh 64, [])).1.callbacks =
      ([[0x81, 3, 65, 66, 67], [0x82, 1, 68]].foldl (onDataRead fun _ => .proceed)
        (.fresh 64, [])).1.callbacks :=
  onDataRead_chunking (fun _ => .proceed) 64 [[0x81], [3, 65], [66, 67], [0x82, 1, 68]] (by decide)

/-- A read that ends a text frame and brings the first byte of a binary one: the byte that is
kept is the first of the text frame, and the second message is handed over as text. -/
theorem stranded_header_not_independent :
    ¬ ∀ (app : App) (maxRxMsgSize : ℕ) (reads : List Bytes), (∀ r ∈ reads, r ≠ []) →
      (reads.foldl (onDataRead app) (.fresh maxRxMsgSize, [])).1.callbacks =
        ((wholeReads reads.flatten).foldl (onDataRead app) (.fresh maxRxMsgSize, [])).1.callbacks := by
  intro h
  have := h (fun _ => .proceed) 64 [[0x81, 1, 65, 0x82], [1, 66]] (by decide)
  revert this
  decide

end PjProject.WebSocket
