import Mathlib.Data.List.TakeWhile
import PjProject.SdpText

/-!
# What the SDP parser yields

The fields of a parsed session hold no byte that would end them, its numbers fit their types
and its lists their arrays. The rules for a line parser say what its result satisfies and how
much of the text it reads at least.
-/
namespace PjProject.SdpText

open Scanner
open Sdp (Attr IsToken csToken maxSdpAttr addAttr)

section Rules

variable {α β : Type}

/-- Whatever the scan returns satisfies `P`, and if `reads` is set it reads something. -/
def Yields (x : Scan α) (reads : Bool) (P : α → Prop) : Prop :=
  ∀ text a sc', x.run ⟨text, .off⟩ = .ok (a, sc') →
    P a ∧ sc'.skipWs = .off ∧ sc'.rest.length + reads.toNat ≤ text.length

variable {x : Scan α} {f : α → Scan β}

lemma bind_ok {sc sc' : State} {a : α} (h : x.run sc = .ok (a, sc')) : (x >>= f).run sc = (f a).run sc' := by
  rw [StateT.run_bind, h]
  rfl

lemma bind_inv {sc : State} {r : β × State}
    (h : (x >>= f).run sc = .ok r) : ∃ a sc', x.run sc = .ok (a, sc') ∧ (f a).run sc' = .ok r := by
  rw [StateT.run_bind] at h
  cases hx : x.run sc with
  | error e => simp [hx, bind, Except.bind] at h
  | ok p => exact ⟨p.1, p.2, rfl, by simpa [hx, bind, Except.bind] using h⟩

variable {P : α → Prop}

lemma Yields.bind {r : Bool} {Q : β → Prop}
    (hx : Yields x false P) (hf : ∀ a, P a → Yields (f a) r Q) : Yields (x >>= f) r Q := by
  intro text b sc'' h
  obtain ⟨a, ⟨rest, opt⟩, h1, h2⟩ := bind_inv h
  obtain ⟨ha, rfl, hm⟩ := hx _ _ _ h1
  obtain ⟨hb, hoff, hn⟩ := hf a ha _ _ _ h2
  exact ⟨hb, hoff, hn.trans hm⟩

lemma Yields.bind_reads {Q : β → Prop}
    (hx : Yields x true P) (hf : ∀ a, P a → Yields (f a) false Q) : Yields (x >>= f) true Q := by
  intro text b sc'' h
  obtain ⟨a, ⟨rest, opt⟩, h1, h2⟩ := bind_inv h
  obtain ⟨ha, rfl, hm⟩ := hx _ _ _ h1
  obtain ⟨hb, hoff, hn⟩ := hf a ha _ _ _ h2
  exact ⟨hb, hoff, (Nat.add_le_add_right hn 1).trans hm⟩

lemma Yields.pure {a : α} (h : P a) : Yields (pure a) false P := by
  intro text a' sc' he
  obtain ⟨rfl, rfl⟩ : a = a' ∧ ⟨text, .off⟩ = sc' := by
    have he : (.ok (a, ⟨text, .off⟩) : Except Exc (α × State)) = .ok (a', sc') := he
    simpa using he
  exact ⟨h, rfl, le_rfl⟩

lemma Yields.throw {e : Exc} : Yields (throw e : Scan α) false P := by
  intro text a sc' h
  simp [MonadExcept.throw, throwThe, MonadExceptOf.throw, StateT.lift, StateT.run] at h

lemma Yields.ite {c : Prop} [Decidable c] {y : Scan α}
    (hx : Yields x false P) (hy : Yields y false P) : Yields (if c then x else y) false P := by
  split_ifs
  · exact hx
  · exact hy

end Rules

@[simp] lemma settle_off (s : Bytes) : settle .off s = s := by
  simp [settle]

lemma getUntil_yields (stop : UInt8 → Bool) :
    Yields (getUntil stop) false (fun x => ∀ c ∈ x, stop c = false) := by
  intro text x sc' h
  simp only [getUntil, StateT.run] at h
  split_ifs at h
  obtain ⟨rfl, rfl⟩ := Prod.mk.inj (Except.ok.inj h)
  refine ⟨?_, rfl, ?_⟩
  · intro c hc
    have := List.mem_takeWhile_imp hc
    simpa using this
  · rw [settle_off]
    exact (List.dropWhile_sublist _).length_le

lemma get_yields (spec : UInt8 → Bool) :
    Yields (Scanner.get spec) false (fun x => x ≠ [] ∧ ∀ c ∈ x, spec c = true) := by
  intro text x sc' h
  simp only [Scanner.get, StateT.run] at h
  split_ifs at h with hne
  obtain ⟨rfl, rfl⟩ := Prod.mk.inj (Except.ok.inj h)
  refine ⟨⟨hne, fun c hc => List.mem_takeWhile_imp hc⟩, rfl, ?_⟩
  rw [settle_off]
  exact (List.dropWhile_sublist _).length_le

lemma getChar_yields : Yields getChar false (fun _ => True) := by
  intro text c sc' h
  simp only [getChar, StateT.run] at h
  split at h
  · cases h
  · split_ifs at h
    obtain ⟨rfl, rfl⟩ := Prod.mk.inj (Except.ok.inj h)
    simp_all

lemma getNewline_yields : Yields getNewline false (fun _ => True) := by
  intro text c sc' h
  simp only [getNewline, StateT.run] at h
  split_ifs at h
  obtain ⟨-, rfl⟩ := Prod.mk.inj (Except.ok.inj h)
  have heat : ∀ (c : UInt8) (s : Bytes), (eat c s).length ≤ s.length := by
    intro c s
    cases s with
    | nil => simp [eat]
    | cons a s =>
      rw [eat]
      split_ifs <;> simp
  exact ⟨trivial, rfl, (heat _ _).trans (heat _ _)⟩

lemma advance_yields : Yields (advance 2) true (fun _ => True) := by
  intro text u sc' h
  simp only [advance, StateT.run] at h
  split_ifs at h with hlt
  obtain ⟨-, rfl⟩ := Prod.mk.inj (Except.ok.inj h)
  refine ⟨trivial, rfl, ?_⟩
  simp only [List.length_drop, Bool.toNat_true]
  omega

lemma skipLine_yields : Yields skipLine false (fun _ => True) := by
  intro text u sc' h
  obtain ⟨-, rfl⟩ := Prod.mk.inj (Except.ok.inj h)
  exact ⟨trivial, rfl, ((List.drop_sublist _ _).trans (List.dropWhile_sublist _)).length_le⟩

lemma atByte_yields (p : UInt8 → Bool) : Yields (atByte p) false (fun _ => True) := by
  intro text b sc' h
  obtain ⟨-, rfl⟩ := Prod.mk.inj (Except.ok.inj h)
  exact ⟨trivial, rfl, le_rfl⟩

lemma getState_yields : Yields (get : Scan State) false (fun _ => True) := by
  intro text b sc' h
  obtain ⟨-, rfl⟩ := Prod.mk.inj (Except.ok.inj h)
  exact ⟨trivial, rfl, le_rfl⟩

lemma checkEqual_yields : Yields checkEqual false (fun _ => True) := by
  intro text u sc' h
  simp only [checkEqual, StateT.run] at h
  split_ifs at h
  obtain ⟨-, rfl⟩ := Prod.mk.inj (Except.ok.inj h)
  exact ⟨trivial, rfl, le_rfl⟩

lemma number_yields (str : Bytes) : Yields (number str) false (fun v => v < 2 ^ 64) := by
  intro text v sc' h
  simp only [number, StateT.run] at h
  split at h
  · rename_i w hw
    obtain ⟨rfl, rfl⟩ := Prod.mk.inj (Except.ok.inj h)
    exact ⟨strtoul3_lt hw, rfl, le_rfl⟩
  · cases h

lemma numberUpTo_yields (max : ℕ) (str : Bytes) : Yields (numberUpTo max str) false (fun v => v ≤ max) := by
  unfold numberUpTo
  refine (number_yields str).bind fun v _ => ?_
  by_cases hv : v > max
  · rw [if_pos hv]
    exact .throw
  · rw [if_neg hv]
    exact .pure (not_lt.1 hv)

def Free (stop : UInt8 → Bool) (x : Bytes) : Prop := ∀ c ∈ x, stop c = false

structure Origin.Ok (o : Origin) : Prop where
  user : Free isBlank o.user
  id : o.id < 2 ^ 64
  version : o.version < 2 ^ 64
  netType : Free isBlank o.netType
  addrType : Free isBlank o.addrType
  addr : Free isLineSpace o.addr

structure Conn.Ok (c : Conn) : Prop where
  netType : Free isBlank c.netType
  addrType : Free isBlank c.addrType
  addr : Free isAddrEnd c.addr

structure Bandw.Ok (b : Bandw) : Prop where
  modifier : Free (· = 58) b.modifier
  value : b.value < 2 ^ 32

structure AttrOk (a : Attr) : Prop where
  name : IsToken a.name
  value : Free isNewline a.value

structure Media.Ok (m : Media) : Prop where
  media : IsToken m.media
  port : m.port ≤ 0xFFFF
  portCount : m.portCount < 2 ^ 32
  transport : Free isLineSpace m.transport
  fmts : ∀ f ∈ m.fmts, IsToken f
  fmtCount : m.fmts.length ≤ maxSdpFmt
  conn : ∀ c ∈ m.conn, c.Ok
  bandw : ∀ b ∈ m.bandw, b.Ok
  bandwCount : m.bandw.length ≤ maxSdpBandw
  attrs : ∀ a ∈ m.attrs, AttrOk a
  attrCount : m.attrs.length ≤ maxSdpAttr

structure Session.Ok (s : Session) : Prop where
  origin : s.origin.Ok
  name : Free isNewline s.name
  conn : ∀ c ∈ s.conn, c.Ok
  bandw : ∀ b ∈ s.bandw, b.Ok
  bandwCount : s.bandw.length ≤ maxSdpBandw
  start : s.start < 2 ^ 64
  stop : s.stop < 2 ^ 64
  attrs : ∀ a ∈ s.attrs, AttrOk a
  attrCount : s.attrs.length ≤ maxSdpAttr
  media : ∀ m ∈ s.media, m.Ok
  mediaCount : s.media.length ≤ maxSdpMedia

lemma parseVersion_yields : Yields parseVersion true (fun _ => True) := by
  intro text u sc' h
  obtain ⟨_, sc1, h1, h2⟩ := bind_inv h
  obtain ⟨_, sc2, h3, h4⟩ := bind_inv h2
  simp only [checkEqual, StateT.run] at h1
  split_ifs at h1 with heq
  obtain ⟨-, rfl⟩ := Prod.mk.inj (Except.ok.inj h1)
  simp only [checkZero, StateT.run] at h3
  split_ifs at h3
  obtain ⟨-, rfl⟩ := Prod.mk.inj (Except.ok.inj h3)
  obtain ⟨-, rfl⟩ := Prod.mk.inj (Except.ok.inj h4)
  refine ⟨trivial, rfl, ?_⟩
  -- the line has more than one byte, and all up to the newline is skipped
  cases text with
  | nil => simp at heq
  | cons c text =>
    have hle := (List.dropWhile_sublist (fun c : UInt8 => decide (c ≠ 10)) (l := text)).length_le
    by_cases hc : c = 10
    · simp [hc]
    · have hskip : (c :: text).dropWhile (fun c : UInt8 => decide (c ≠ 10)) =
          text.dropWhile (fun c : UInt8 => decide (c ≠ 10)) :=
        List.dropWhile_cons_of_pos (by simpa using hc)
      simp only [hskip, List.length_drop, List.length_cons, Bool.toNat_true]
      omega

lemma parseOrigin_yields : Yields parseOrigin true Origin.Ok := by
  unfold parseOrigin
  refine checkEqual_yields.bind fun _ _ => advance_yields.bind_reads fun _ _ => ?_
  refine (getUntil_yields _).bind fun user huser => getChar_yields.bind fun _ _ => ?_
  refine (getUntil_yields _).bind fun s _ => (number_yields s).bind fun id hid => ?_
  refine getChar_yields.bind fun _ _ => (getUntil_yields _).bind fun t _ => ?_
  refine (number_yields t).bind fun version hversion => getChar_yields.bind fun _ _ => ?_
  refine (getUntil_yields _).bind fun netType hnet => getChar_yields.bind fun _ _ => ?_
  refine (getUntil_yields _).bind fun addrType htype => getChar_yields.bind fun _ _ => ?_
  refine (getUntil_yields _).bind fun addr haddr => skipLine_yields.bind fun _ _ => ?_
  exact .pure ⟨huser, hid, hversion, hnet, htype, haddr⟩

lemma parseTime_yields : Yields parseTime true (fun t => t.1 < 2 ^ 64 ∧ t.2 < 2 ^ 64) := by
  unfold parseTime
  refine checkEqual_yields.bind fun _ _ => advance_yields.bind_reads fun _ _ => ?_
  refine (getUntil_yields _).bind fun s _ => (number_yields s).bind fun start hstart => ?_
  refine getChar_yields.bind fun _ _ => (getUntil_yields _).bind fun t _ => ?_
  refine (number_yields t).bind fun stop hstop => skipLine_yields.bind fun _ _ => ?_
  exact .pure ⟨hstart, hstop⟩

lemma parseGenericLine_yields : Yields parseGenericLine true (Free isNewline) := by
  unfold parseGenericLine
  refine checkEqual_yields.bind fun _ _ => advance_yields.bind_reads fun _ _ => ?_
  refine (getUntil_yields _).bind fun str hstr => getNewline_yields.bind fun _ _ => ?_
  exact .pure hstr

lemma parseMulticast_yields : Yields parseMulticast false (fun _ => True) := by
  unfold parseMulticast
  refine (atByte_yields _).bind fun _ _ => .ite ?_ (.pure trivial)
  refine getChar_yields.bind fun _ _ => (getUntil_yields _).bind fun s _ => ?_
  refine (atByte_yields _).bind fun _ _ => .ite ?_ ?_
  · refine (numberUpTo_yields 255 s).bind fun _ _ => getChar_yields.bind fun _ _ => ?_
    refine (getUntil_yields _).bind fun t _ => (numberUpTo_yields 255 t).bind fun _ _ => ?_
    exact .pure trivial
  · exact (numberUpTo_yields 255 s).bind fun _ _ => .pure trivial

lemma parseConnectionInfo_yields : Yields parseConnectionInfo true Conn.Ok := by
  unfold parseConnectionInfo
  refine advance_yields.bind_reads fun _ _ => ?_
  refine (getUntil_yields _).bind fun netType hnet => getChar_yields.bind fun _ _ => ?_
  refine (getUntil_yields _).bind fun addrType htype => getChar_yields.bind fun _ _ => ?_
  refine (getUntil_yields _).bind fun addr haddr => parseMulticast_yields.bind fun _ _ => ?_
  exact skipLine_yields.bind fun _ _ => .pure ⟨hnet, htype, haddr⟩

lemma parseBandwidthInfo_yields : Yields parseBandwidthInfo true Bandw.Ok := by
  unfold parseBandwidthInfo
  refine advance_yields.bind_reads fun _ _ => ?_
  refine (getUntil_yields _).bind fun modifier hmod => getChar_yields.bind fun _ _ => ?_
  refine (getUntil_yields _).bind fun s _ => (number_yields s).bind fun value _ => ?_
  exact skipLine_yields.bind fun _ _ => .pure ⟨hmod, Nat.mod_lt _ (by norm_num)⟩

lemma blank_yields : Yields blank false (fun _ => True) := by
  unfold blank
  exact getChar_yields.bind fun _ _ => .ite .throw (.pure trivial)

lemma parseFmts_yields (k : ℕ) : ∀ {fmts : List Bytes}, (∀ f ∈ fmts, IsToken f) → fmts.length ≤ maxSdpFmt →
    Yields (parseFmts k fmts) false (fun fs => (∀ f ∈ fs, IsToken f) ∧ fs.length ≤ maxSdpFmt) := by
  induction k with
  | zero => exact fun ht hl => .pure ⟨ht, hl⟩
  | succ k ih =>
    intro fmts ht hl
    rw [parseFmts]
    refine (atByte_yields _).bind fun _ _ => .ite ?_ (.pure ⟨ht, hl⟩)
    refine getChar_yields.bind fun _ _ => getState_yields.bind fun _ _ => ?_
    refine (atByte_yields _).bind fun _ _ => .ite (.pure ⟨ht, hl⟩) ?_
    refine (get_yields _).bind fun fmt hfmt => ih ?_ ?_
    · split_ifs
      · intro f hf
        rcases List.mem_append.1 hf with hf | hf
        · exact ht f hf
        · obtain rfl : f = fmt := by simpa using hf
          exact hfmt
      · exact ht
    · split_ifs with hlt
      · rw [List.length_append, List.length_singleton]
        exact hlt
      · exact hl

lemma parsePortCount_yields : Yields parsePortCount false (fun n => n < 2 ^ 32) := by
  unfold parsePortCount
  refine (atByte_yields _).bind fun _ _ => .ite ?_ (.pure (by norm_num))
  refine getChar_yields.bind fun _ _ => (get_yields _).bind fun s _ => ?_
  exact (number_yields s).bind fun _ _ => .pure (Nat.mod_lt _ (by norm_num))

lemma notEof_yields : Yields notEof false (fun _ => True) := by
  unfold notEof
  exact getState_yields.bind fun _ _ => .ite .throw (.pure trivial)

lemma parseMedia_yields : Yields parseMedia true Media.Ok := by
  unfold parseMedia
  refine checkEqual_yields.bind fun _ _ => advance_yields.bind_reads fun _ _ => ?_
  refine (get_yields _).bind fun media hmedia => blank_yields.bind fun _ _ => ?_
  refine (get_yields _).bind fun s _ => (numberUpTo_yields _ s).bind fun port hport => ?_
  refine notEof_yields.bind fun _ _ => parsePortCount_yields.bind fun count hcount => ?_
  refine blank_yields.bind fun _ _ => (getUntil_yields _).bind fun transport htr => ?_
  refine getState_yields.bind fun sc _ => ?_
  refine (parseFmts_yields _ (by simp) (by simp)).bind fun fmts hfmts => ?_
  refine skipLine_yields.bind fun _ _ => .pure ?_
  exact ⟨hmedia, hport, hcount, htr, hfmts.1, hfmts.2, by simp, by simp, by simp, by simp, by simp⟩

lemma skipColon_yields : Yields skipColon false (fun _ => True) := by
  unfold skipColon
  refine (atByte_yields _).bind fun _ _ => .ite ?_ (.pure trivial)
  exact getChar_yields.bind fun _ _ => .pure trivial

lemma parseAttrValue_yields : Yields parseAttrValue false (Free isNewline) := by
  unfold parseAttrValue
  refine getState_yields.bind fun _ _ => (atByte_yields _).bind fun _ _ => ?_
  exact .ite (.pure (by simp [Free])) (getUntil_yields _)

lemma parseAttr_yields : Yields parseAttr true AttrOk := by
  unfold parseAttr
  refine checkEqual_yields.bind fun _ _ => advance_yields.bind_reads fun _ _ => ?_
  refine (get_yields _).bind fun name hname => skipColon_yields.bind fun _ _ => ?_
  refine parseAttrValue_yields.bind fun value hvalue => skipLine_yields.bind fun _ _ => ?_
  exact .pure ⟨hname, hvalue⟩

lemma addAttr_ok {attrs : List Attr} {a : Attr} (ha : AttrOk a) (h : ∀ b ∈ attrs, AttrOk b)
    (hl : attrs.length ≤ maxSdpAttr) :
    (∀ b ∈ addAttr attrs a, AttrOk b) ∧ (addAttr attrs a).length ≤ maxSdpAttr := by
  unfold addAttr
  split_ifs with hlt
  · exact ⟨h, hl⟩
  · refine ⟨?_, by simp; omega⟩
    intro b hb
    rcases List.mem_append.1 hb with hb | hb
    · exact h b hb
    · obtain rfl : b = a := by simpa using hb
      exact ha

lemma addBandw_ok {bandw : List Bandw} {b : Bandw} (hb : b.Ok) (h : ∀ c ∈ bandw, c.Ok)
    (hl : bandw.length ≤ maxSdpBandw) :
    (∀ c ∈ addBandw bandw b, c.Ok) ∧ (addBandw bandw b).length ≤ maxSdpBandw := by
  unfold addBandw
  split_ifs with hlt
  · refine ⟨?_, by simp; omega⟩
    intro c hc
    rcases List.mem_append.1 hc with hc | hc
    · exact h c hc
    · obtain rfl : c = b := by simpa using hc
      exact hb
  · exact ⟨h, hl⟩

lemma modifyLast_append {α : Type*} (f : α → α) (l : List α) (a : α) :
    modifyLast f (l ++ [a]) = l ++ [f a] := by
  induction l with
  | nil => rfl
  | cons b l ih =>
    cases l with
    | nil => rfl
    | cons c l => exact congrArg (b :: ·) ih

lemma forall_modifyLast {α : Type*} {P : α → Prop} {f : α → α} {l : List α} (hf : ∀ a, P a → P (f a))
    (h : ∀ a ∈ l, P a) : (∀ a ∈ modifyLast f l, P a) ∧ (modifyLast f l).length = l.length := by
  rcases List.eq_nil_or_concat l with rfl | ⟨l', a, rfl⟩
  · exact ⟨h, rfl⟩
  · rw [List.concat_eq_append, modifyLast_append] at *
    refine ⟨?_, by simp⟩
    intro b hb
    rcases List.mem_append.1 hb with hb | hb
    · exact h b (by simp [hb])
    · obtain rfl : b = f a := by simpa using hb
      exact hf a (h a (by simp))

variable {p : Parsing}

lemma apply_ok (hp : p.session.Ok) {f : Session → Session} {g : Media → Media}
    (hf : ∀ s, s.Ok → (f s).Ok) (hg : ∀ m, m.Ok → (g m).Ok) : (p.apply f g).session.Ok := by
  obtain ⟨s, target⟩ := p
  cases target with
  | session => exact hf s hp
  | media =>
    obtain ⟨h1, h2⟩ := forall_modifyLast hg hp.media
    exact { hp with media := h1, mediaCount := h2 ▸ hp.mediaCount }
  | ignored => exact hp

lemma addMedia_ok (hp : p.session.Ok) {m : Media} (hm : m.Ok) : (p.addMedia m).session.Ok := by
  unfold Parsing.addMedia
  split_ifs with hlt
  · refine { hp with media := ?_, mediaCount := by simp; omega }
    intro n hn
    rcases List.mem_append.1 hn with hn | hn
    · exact hp.media n hn
    · obtain rfl : n = m := by simpa using hn
      exact hm
  · exact hp

variable {text rest : Bytes} {p' : Parsing}

lemma line_ok {α : Type} {e : SdpErr} {parser : Scan α} {r : Bool} {P : α → Prop}
    {use : α → Parsing} (hy : Yields parser r P) (hu : ∀ a, P a → (use a).session.Ok)
    (h : line e parser use text = .ok (p', rest)) : p'.session.Ok := by
  unfold line at h
  split at h
  · rename_i a sc hrun
    obtain ⟨rfl, -⟩ := Prod.mk.inj (Except.ok.inj h)
    exact hu a (hy _ _ _ hrun).1
  · cases h

lemma line_reads {α : Type} {e : SdpErr} {parser : Scan α} {P : α → Prop}
    {use : α → Parsing} (hy : Yields parser true P)
    (h : line e parser use text = .ok (p', rest)) : rest.length < text.length := by
  unfold line at h
  split at h
  · rename_i a sc hrun
    obtain ⟨-, rfl⟩ := Prod.mk.inj (Except.ok.inj h)
    exact (hy _ _ _ hrun).2.2
  · cases h

lemma parseLine_reads (hne : text ≠ [])
    (h : parseLine p text = .ok (p', rest)) : rest.length < text.length := by
  cases text with
  | nil => exact absurd rfl hne
  | cons c text =>
    rw [parseLine] at h
    cases hk : lineKind c <;> rw [hk] at h
    case attr => exact line_reads parseAttr_yields h
    case origin => exact line_reads parseOrigin_yields h
    case name => exact line_reads parseGenericLine_yields h
    case conn => exact line_reads parseConnectionInfo_yields h
    case time => exact line_reads parseTime_yields h
    case media => exact line_reads parseMedia_yields h
    case version => exact line_reads parseVersion_yields h
    case empty =>
      simp only at h
      split_ifs at h
      obtain ⟨-, rfl⟩ := Prod.mk.inj (Except.ok.inj h)
      simp
    case bandw => exact line_reads parseBandwidthInfo_yields h
    case other => exact line_reads parseGenericLine_yields h
    case invalid => cases h

lemma parseLines_fuel (k : ℕ) : ∀ {j : ℕ} {p : Parsing} {text : Bytes}, text.length ≤ j →
    text.length ≤ k → parseLines k p text = parseLines j p text := by
  induction k with
  | zero =>
    intro j p text _ hk
    obtain rfl : text = [] := List.length_eq_zero_iff.1 (by omega)
    cases j <;> simp [parseLines]
  | succ k ih =>
    intro j p text hj hk
    by_cases hne : text = []
    · subst hne
      cases j <;> simp [parseLines]
    · cases j with
      | zero => exact absurd (List.length_eq_zero_iff.1 (by omega)) hne
      | succ j =>
        rw [parseLines, parseLines, if_neg hne, if_neg hne]
        cases hl : parseLine p text with
        | error e => rfl
        | ok r =>
          have := parseLine_reads hne hl
          exact ih (by omega) (by omega)

lemma parseLine_ok (hp : p.session.Ok) (h : parseLine p text = .ok (p', rest)) : p'.session.Ok := by
  cases text with
  | nil =>
    obtain ⟨rfl, -⟩ := Prod.mk.inj (Except.ok.inj h)
    exact hp
  | cons c text =>
    rw [parseLine] at h
    cases hk : lineKind c with
    | attr =>
      rw [hk] at h
      refine line_ok parseAttr_yields (fun a ha => apply_ok hp ?_ ?_) h
      · intro s hs
        obtain ⟨h1, h2⟩ := addAttr_ok ha hs.attrs hs.attrCount
        exact { hs with attrs := h1, attrCount := h2 }
      · intro m hm
        obtain ⟨h1, h2⟩ := addAttr_ok ha hm.attrs hm.attrCount
        exact { hm with attrs := h1, attrCount := h2 }
    | origin =>
      rw [hk] at h
      refine line_ok parseOrigin_yields ?_ h
      intro o ho
      exact { hp with origin := ho }
    | name =>
      rw [hk] at h
      refine line_ok parseGenericLine_yields ?_ h
      intro n hn
      exact { hp with name := hn }
    | conn =>
      rw [hk] at h
      refine line_ok parseConnectionInfo_yields (fun c hc => apply_ok hp ?_ ?_) h
      · intro s hs
        exact { hs with conn := by simpa using hc }
      · intro m hm
        exact { hm with conn := by simpa using hc }
    | time =>
      rw [hk] at h
      refine line_ok parseTime_yields ?_ h
      intro t ht
      exact { hp with start := ht.1, stop := ht.2 }
    | media =>
      rw [hk] at h
      exact line_ok parseMedia_yields (fun m hm => addMedia_ok hp hm) h
    | version =>
      rw [hk] at h
      exact line_ok parseVersion_yields (fun _ _ => hp) h
    | empty =>
      rw [hk] at h
      simp only at h
      split_ifs at h
      obtain ⟨rfl, -⟩ := Prod.mk.inj (Except.ok.inj h)
      exact hp
    | bandw =>
      rw [hk] at h
      refine line_ok parseBandwidthInfo_yields (fun b hb => apply_ok hp ?_ ?_) h
      · intro s hs
        obtain ⟨h1, h2⟩ := addBandw_ok hb hs.bandw hs.bandwCount
        exact { hs with bandw := h1, bandwCount := h2 }
      · intro m hm
        obtain ⟨h1, h2⟩ := addBandw_ok hb hm.bandw hm.bandwCount
        exact { hm with bandw := h1, bandwCount := h2 }
    | other =>
      rw [hk] at h
      exact line_ok parseGenericLine_yields (fun _ _ => hp) h
    | invalid =>
      rw [hk] at h
      cases h

lemma parseLines_ok (k : ℕ) : ∀ {p : Parsing} {text : Bytes} {s : Session}, p.session.Ok →
    parseLines k p text = .ok s → s.Ok := by
  induction k with
  | zero =>
    intro p text s hp h
    exact Except.ok.inj h ▸ hp
  | succ k ih =>
    intro p text s hp h
    rw [parseLines] at h
    split_ifs at h
    · exact Except.ok.inj h ▸ hp
    · split at h
      · rename_i p' rest hline
        exact ih (parseLine_ok hp hline) h
      · cases h

lemma applyMediaDirection_ok {s : Session} (h : s.Ok) : (applyMediaDirection s).Ok := by
  unfold applyMediaDirection
  split
  · exact h
  · rename_i dir hdir
    have hok := h.attrs dir (List.mem_of_find?_eq_some hdir)
    refine { h with attrs := ?_, attrCount := ?_, media := ?_, mediaCount := by simpa using h.mediaCount }
    · intro a ha
      exact h.attrs a (List.mem_of_mem_eraseP ha)
    · exact (List.eraseP_sublist.length_le).trans h.attrCount
    · intro m hm
      obtain ⟨n, hn, rfl⟩ := List.mem_map.1 hm
      split_ifs
      · exact h.media n hn
      · obtain ⟨h1, h2⟩ := addAttr_ok hok (h.media n hn).attrs (h.media n hn).attrCount
        exact { h.media n hn with attrs := h1, attrCount := h2 }

lemma empty_ok : Session.empty.Ok := by
  refine ⟨⟨?_, ?_, ?_, ?_, ?_, ?_⟩, ?_, ?_, ?_, ?_, ?_, ?_, ?_, ?_, ?_, ?_⟩ <;> simp [Session.empty, Free]

lemma parse_ok {s : Session} (h : parse text = .ok s) : s.Ok := by
  unfold parse at h
  cases hl : parseLines (text.dropWhile isNewline).length ⟨Session.empty, .session⟩
      (text.dropWhile isNewline) with
  | error e => simp [hl, Except.map] at h
  | ok s' =>
    obtain rfl : applyMediaDirection s' = s := by simpa [hl, Except.map] using h
    exact applyMediaDirection_ok (parseLines_ok _ empty_ok hl)

end PjProject.SdpText
