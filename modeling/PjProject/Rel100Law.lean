import PjProject.Rel100
import PjProject.Transition

/-!
# Order of reliable provisional responses

The first response of the list is the one on the wire, those behind it wait, and RSeq numbers go
on without a gap from the one to the others. This holds as long as no first transmission is
refused: `on_retransmit` then returns without a timer.
-/
namespace PjProject.Reliable

open Transition

def Event.isAck : Event → Bool
  | .acked _ => true
  | _ => false

variable {log : List Event} {e : Event}

lemma unacked_of_other (hs : e.sentId = none) (ha : e.isAck = false) :
    unacked (log ++ [e]) = unacked log := by
  have hne : ∀ id, Event.acked id ≠ e := by
    rintro id rfl
    cases ha
  simp [unacked, hs, hne]

lemma sentRseq_of_other (h : e.sentRseq = none) :
    (log ++ [e]).filterMap Event.sentRseq = log.filterMap Event.sentRseq := by
  simp [h]

lemma unacked_sent {id rseq : ℕ} (h : .acked id ∉ log) :
    unacked (log ++ [.sent id rseq]) = unacked log ++ [id] := by
  simp [unacked, Event.sentId, h]

lemma unacked_acked (log : List Event) (a : ℕ) :
    unacked (log ++ [.acked a]) = (unacked log).filter (· ≠ a) := by
  simp only [unacked, List.filterMap_append, List.filterMap_cons, Event.sentId, List.filterMap_nil, List.append_nil,
    List.filter_filter, List.mem_append, List.mem_singleton, Event.acked.injEq, not_or]
  congr 1
  funext id
  simp [and_comm]

structure Log (calls : ℕ) (log : List Event) : Prop where
  one : (unacked log).length ≤ 1
  consecutive : (log.filterMap Event.sentRseq).IsChain fun a b => b = (a + 1) % 2 ^ 32
  after_prack : ∀ l₁ l₂ id ahead, log = l₁ ++ .final (some id) :: l₂ → .queued id ahead ∈ log →
    ∀ a ∈ ahead, .acked a ∈ l₁
  final_last : log.Pairwise fun a b => a.isFinal → b.isReliable = false
  queued_lt : ∀ id ahead, .queued id ahead ∈ log → id < calls
  final_lt : ∀ id, .final (some id) ∈ log → id < calls
  acked_lt : ∀ id, .acked id ∈ log → id < calls

variable {calls : ℕ}

lemma Log.mono (h : Log calls log) : Log (calls + 1) log :=
  { h with
    queued_lt := fun id ahead hq => (h.queued_lt id ahead hq).trans (Nat.lt_succ_self _)
    final_lt := fun id hf => (h.final_lt id hf).trans (Nat.lt_succ_self _)
    acked_lt := fun id ha => (h.acked_lt id ha).trans (Nat.lt_succ_self _) }

lemma pairwise_emit (h : log.Pairwise fun a b => a.isFinal → b.isReliable = false)
    (he : e.isReliable → ∀ i, .final i ∉ log) : (log ++ [e]).Pairwise fun a b => a.isFinal → b.isReliable = false := by
  refine List.pairwise_append.2 ⟨h, by simp, ?_⟩
  intro a ha b hb hf
  obtain rfl : b = e := by simpa using hb
  cases a with
  | final i =>
    by_contra hr
    exact he (by simpa using hr) i ha
  | _ => cases hf

lemma append_singleton_split {l₁ l₂ : List Event} {x : Event} (h : log ++ [e] = l₁ ++ x :: l₂) :
    (log = l₁ ∧ e = x) ∨ ∃ l₃, log = l₁ ++ x :: l₃ := by
  rcases List.eq_nil_or_concat l₂ with rfl | ⟨l₃, y, rfl⟩
  · obtain ⟨h1, h2⟩ := List.append_inj' h rfl
    exact .inl ⟨h1, by simpa using h2⟩
  · have h' : log ++ [e] = (l₁ ++ x :: l₃) ++ [y] := by simpa using h
    exact .inr ⟨l₃, (List.append_inj' h' rfl).1⟩

lemma Log.emit (h : Log calls log) (hf : e.isFinal = false)
    (hq : ∀ id ahead, e = .queued id ahead → id < calls ∧ .final (some id) ∉ log)
    (ha : ∀ id, e = .acked id → id < calls) (hone : (unacked (log ++ [e])).length ≤ 1)
    (hcons : ((log ++ [e]).filterMap Event.sentRseq).IsChain fun a b => b = (a + 1) % 2 ^ 32)
    (hlast : e.isReliable → ∀ i, .final i ∉ log) : Log calls (log ++ [e]) := by
  have hfin : ∀ i, e ≠ .final i := by
    rintro i rfl
    cases hf
  refine ⟨hone, hcons, ?_, pairwise_emit h.final_last hlast, ?_, ?_, ?_⟩
  · intro l₁ l₂ id ahead heq hin
    rcases append_singleton_split heq with ⟨-, he⟩ | ⟨l₃, hl⟩
    · exact absurd he (hfin _)
    rcases List.mem_append.1 hin with hin | hin
    · exact h.after_prack l₁ l₃ id ahead hl hin
    · exact absurd (by rw [hl]; simp) (hq id ahead (List.mem_singleton.1 hin).symm).2
  · intro id ahead hin
    rcases List.mem_append.1 hin with hin | hin
    · exact h.queued_lt id ahead hin
    · exact (hq id ahead (List.mem_singleton.1 hin).symm).1
  · intro id hin
    rcases List.mem_append.1 hin with hin | hin
    · exact h.final_lt id hin
    · exact absurd (List.mem_singleton.1 hin).symm (hfin _)
  · intro id hin
    rcases List.mem_append.1 hin with hin | hin
    · exact h.acked_lt id hin
    · exact ha id (List.mem_singleton.1 hin).symm

lemma Log.emit_final {i : Option ℕ} (h : Log calls log)
    (hi : ∀ id ∈ i, id < calls ∧ ∀ ahead, .queued id ahead ∈ log → ∀ a ∈ ahead, .acked a ∈ log) :
    Log calls (log ++ [.final i]) := by
  have hmem : ∀ id ahead, .queued id ahead ∈ log ++ [.final i] → .queued id ahead ∈ log := by
    intro id ahead hin
    simpa using hin
  refine ⟨?_, ?_, ?_, pairwise_emit h.final_last (by simp [Event.isReliable]),
    fun id ahead hin => h.queued_lt id ahead (hmem _ _ hin), ?_, fun id hin => h.acked_lt id (by simpa using hin)⟩
  · rw [unacked_of_other rfl rfl]
    exact h.one
  · rw [sentRseq_of_other rfl]
    exact h.consecutive
  · intro l₁ l₂ id ahead heq hin
    rcases append_singleton_split heq with ⟨rfl, he⟩ | ⟨l₃, hl⟩
    · cases he
      exact (hi id rfl).2 ahead (hmem _ _ hin)
    · exact h.after_prack l₁ l₃ id ahead hl (hmem _ _ hin)
  · intro id hin
    rcases List.mem_append.1 hin with hin | hin
    · exact h.final_lt id hin
    · have : i = some id := by simpa [eq_comm] using hin
      exact (hi id this).1

abbrev TxDataList.isProvisional (tl : TxDataList) : Prop := tl.tdata.code < 200

structure Line (s : Session) (u : UasState) (out : Option TxDataList) (waiting : List TxDataList) : Prop where
  list : u.txDataList = out.toList ++ waiting
  cseq : u.cseq = s.cseq
  out_code : ∀ x ∈ out, x.isProvisional
  ids : u.txDataList.Pairwise fun x y => x.id < y.id
  lt : ∀ x ∈ u.txDataList, x.id < s.calls
  acked : ∀ a, .acked a ∈ s.log → ∀ x ∈ u.txDataList, a < x.id
  ahead : ∀ x ∈ u.txDataList, ∀ ahead, .queued x.id ahead ∈ s.log → ∀ a ∈ ahead,
    .acked a ∈ s.log ∨ ∃ y ∈ u.txDataList, y.id = a ∧ a < x.id
  unacked : s.inviteTsx = .proceeding → unacked s.log = out.toList.map TxDataList.id
  rseqs : s.inviteTsx = .proceeding → (s.log.filterMap Event.sentRseq ++
    (waiting.filter (·.isProvisional)).map TxDataList.rseq ++ [u.rseq]).IsChain fun a b => b = (a + 1) % 2 ^ 32
  unfinished : s.inviteTsx = .proceeding → ∀ i, .final i ∉ s.log
  finished : (s.inviteTsx = .completed ∨ ∃ i, .final i ∈ s.log) → u.txDataList = []

structure Inv (s : Session) : Prop where
  log : Log s.calls s.log
  fresh : s.uas = none → s.log.filterMap Event.sentId = [] ∧ s.log.filterMap Event.sentRseq = [] ∧
    (s.inviteTsx = .proceeding → ∀ i, .final i ∉ s.log)
  held : ∀ u, s.uas = some u → ∃ out waiting, Line s u out waiting ∧ (out = none → waiting = []) ∧
    (u.timer = true ↔ out.isSome) ∧ (out.isSome → 0 < u.retransmitCount)

variable {u : UasState}

lemma line_nil {s : Session} (hc : u.cseq = s.cseq) (hl : u.txDataList = [])
    (ht : s.inviteTsx ≠ .proceeding) : Line s u none [] where
  list := by simp [hl]
  cseq := hc
  out_code := by simp
  ids := by simp [hl]
  lt := by simp [hl]
  acked := by simp [hl]
  ahead := by simp [hl]
  unacked := fun h => absurd h ht
  rseqs := fun h => absurd h ht
  unfinished := fun h => absurd h ht
  finished := fun _ => hl

lemma Line.congr {s s' : Session} {u' : UasState} {out : Option TxDataList} {waiting : List TxDataList}
    (h : Line s u out waiting) (hlist : u'.txDataList = u.txDataList) (hucseq : u'.cseq = u.cseq)
    (hrseq : u'.rseq = u.rseq) (hlog : s'.log = s.log) (htsx : s'.inviteTsx = s.inviteTsx) (hcseq : s'.cseq = s.cseq)
    (hcalls : s.calls ≤ s'.calls) : Line s' u' out waiting where
  list := hlist.trans h.list
  cseq := by rw [hucseq, hcseq, h.cseq]
  out_code := h.out_code
  ids := by rw [hlist]; exact h.ids
  lt := by rw [hlist]; exact fun x hx => (h.lt x hx).trans_le hcalls
  acked := by rw [hlist, hlog]; exact h.acked
  ahead := by rw [hlist, hlog]; exact h.ahead
  unacked := by rw [htsx, hlog]; exact h.unacked
  rseqs := by rw [htsx, hlog, hrseq]; exact h.rseqs
  unfinished := by rw [htsx, hlog]; exact h.unfinished
  finished := by rw [htsx, hlog, hlist]; exact h.finished

lemma Line.emit {s : Session} {out : Option TxDataList} {waiting : List TxDataList}
    (h : Line s u out waiting) (hs : e.sentId = none) (hr : e.sentRseq = none) (ha : e.isAck = false)
    (hf : e.isFinal = false) (hq : ∀ x ∈ u.txDataList, ∀ ahead, e ≠ .queued x.id ahead) :
    Line (s.emit e) u out waiting := by
  have hack : ∀ a, .acked a ∈ s.log ++ [e] ↔ .acked a ∈ s.log := by
    intro a
    have : Event.acked a ≠ e := by
      rintro rfl
      cases ha
    simp [this]
  have hfin : ∀ i, .final i ∈ s.log ++ [e] ↔ .final i ∈ s.log := by
    intro i
    have : Event.final i ≠ e := by
      rintro rfl
      cases hf
    simp [this]
  refine ⟨h.list, h.cseq, h.out_code, h.ids, h.lt, fun a => ?_, fun x hx ahead hin a hmem => ?_, fun ht => ?_, fun ht => ?_,
    fun ht i => ?_, ?_⟩
  · rw [Session.emit, hack]
    exact h.acked a
  · have hin' : .queued x.id ahead ∈ s.log := by
      rcases List.mem_append.1 hin with hin | hin
      · exact hin
      · exact absurd (List.mem_singleton.1 hin).symm (hq x hx ahead)
    rw [Session.emit, hack]
    exact h.ahead x hx ahead hin' a hmem
  · rw [Session.emit, unacked_of_other hs ha]
    exact h.unacked ht
  · rw [Session.emit, sentRseq_of_other hr]
    exact h.rseqs ht
  · rw [Session.emit, hfin]
    exact h.unfinished ht i
  · simp only [Session.emit, hfin]
    exact h.finished

lemma Line.ack {s : Session} {u u' : UasState} {tl : TxDataList} {waiting : List TxDataList}
    (h : Line s u (some tl) waiting) (hlist : u'.txDataList = waiting) (hcseq : u'.cseq = u.cseq)
    (hrseq : u'.rseq = u.rseq) : Line (s.emit (.acked tl.id)) u' none waiting := by
  have hl : u.txDataList = tl :: waiting := h.list
  have hids := h.ids
  rw [hl] at hids
  obtain ⟨hhead, htail⟩ := List.pairwise_cons.1 hids
  have hsub : ∀ x ∈ waiting, x ∈ u.txDataList := fun x hx => by rw [hl]; exact List.mem_cons_of_mem _ hx
  refine ⟨hlist, hcseq.trans h.cseq, by simp, by rw [hlist]; exact htail, ?_, ?_, ?_, ?_, ?_, ?_, ?_⟩
  · rw [hlist]
    exact fun x hx => h.lt x (hsub x hx)
  · rw [hlist]
    intro a ha x hx
    rcases List.mem_append.1 ha with ha | ha
    · exact h.acked a ha x (hsub x hx)
    · obtain rfl : a = tl.id := by simpa using ha
      exact hhead x hx
  · rw [hlist]
    intro x hx ahead hq a ha
    rcases h.ahead x (hsub x hx) ahead (by simpa [Session.emit] using hq) a ha with hin | ⟨y, hy, rfl, hlt⟩
    · exact .inl (List.mem_append_left _ hin)
    · rw [hl] at hy
      rcases List.mem_cons.1 hy with rfl | hy
      · exact .inl (by simp [Session.emit])
      · exact .inr ⟨y, hy, rfl, hlt⟩
  · intro ht
    simp only [Session.emit]
    rw [unacked_acked, h.unacked ht]
    simp
  · intro ht
    simp only [Session.emit]
    rw [sentRseq_of_other rfl, hrseq]
    exact h.rseqs ht
  · intro ht
    simpa [Session.emit] using h.unfinished ht
  · intro hf
    have := h.finished (by simpa [Session.emit] using hf)
    rw [hl] at this
    cases this

lemma Line.push {s : Session} {u u' : UasState} {x : TxDataList} {out : Option TxDataList}
    {waiting : List TxDataList} (h : Line s u out waiting) (hx : x.id = s.calls) (hacked : ∀ a, .acked a ∈ s.log → a < s.calls)
    (hlist : u'.txDataList = u.txDataList ++ [x]) (hcseq : u'.cseq = u.cseq)
    (hahead : ∀ ahead, .queued x.id ahead ∈ s.log → ∀ a ∈ ahead, ∃ y ∈ u.txDataList, y.id = a)
    (hrseq : (x.isProvisional ∧ x.rseq = u.rseq ∧ u'.rseq = (u.rseq + 1) % 2 ^ 32) ∨
      ¬ x.isProvisional ∧ u'.rseq = u.rseq) (hopen : s.inviteTsx ≠ .completed ∧ ∀ i, .final i ∉ s.log) :
    Line { s with calls := s.calls + 1 } u' out (waiting ++ [x]) := by
  refine ⟨by rw [hlist, h.list, List.append_assoc], hcseq.trans h.cseq, h.out_code, ?_, ?_, ?_, ?_, h.unacked, ?_,
    h.unfinished, ?_⟩
  · rw [hlist]
    refine List.pairwise_append.2 ⟨h.ids, by simp, ?_⟩
    intro y hy z hz
    obtain rfl : z = x := by simpa using hz
    rw [hx]
    exact h.lt y hy
  · rw [hlist]
    intro y hy
    rcases List.mem_append.1 hy with hy | hy
    · exact (h.lt y hy).trans (Nat.lt_succ_self _)
    · obtain rfl : y = x := by simpa using hy
      rw [hx]
      exact Nat.lt_succ_self _
  · rw [hlist]
    intro a ha y hy
    rcases List.mem_append.1 hy with hy | hy
    · exact h.acked a ha y hy
    · obtain rfl : y = x := by simpa using hy
      rw [hx]
      exact hacked a ha
  · rw [hlist]
    intro y hy ahead hq a ha
    rcases List.mem_append.1 hy with hy | hy
    · rcases h.ahead y hy ahead hq a ha with hin | ⟨z, hz, hza, hlt⟩
      · exact .inl hin
      · exact .inr ⟨z, List.mem_append_left _ hz, hza, hlt⟩
    · obtain rfl : y = x := by simpa using hy
      obtain ⟨z, hz, rfl⟩ := hahead ahead hq a ha
      exact .inr ⟨z, List.mem_append_left _ hz, rfl, by rw [hx]; exact h.lt z hz⟩
  · intro ht
    have hchain := h.rseqs ht
    rcases hrseq with ⟨hp, hr, hn⟩ | ⟨hp, hn⟩
    · rw [List.filter_append, List.filter_cons_of_pos (by simpa using hp), List.filter_nil, List.map_append, List.map_cons,
        List.map_nil, hr, hn, ← List.append_assoc]
      refine List.isChain_append.2 ⟨hchain, by simp, ?_⟩
      simp
    · rw [List.filter_append, List.filter_cons_of_neg (by simpa using hp), List.filter_nil, List.append_nil, hn]
      exact hchain
  · rintro (hc | ⟨i, hi⟩)
    · exact absurd hc hopen.1
    · exact absurd hi (hopen.2 i)

lemma Inv.of_nil {s : Session} (hlog : Log s.calls s.log) (hu : s.uas = some u) (hc : u.cseq = s.cseq)
    (hl : u.txDataList = []) (htimer : u.timer = false) (ht : s.inviteTsx ≠ .proceeding) : Inv s := by
  refine ⟨hlog, by simp [hu], ?_⟩
  intro v hv
  obtain rfl : u = v := by simpa [hu] using hv
  exact ⟨none, [], line_nil hc hl ht, fun _ => rfl, by simp [htimer], by simp⟩

lemma Inv.of_out {s : Session} {u : UasState} {x : TxDataList} {waiting : List TxDataList} (hlog : Log s.calls s.log)
    (hu : s.uas = some u) (h : Line s u (some x) waiting) (htimer : u.timer = true) (hcount : 0 < u.retransmitCount) :
    Inv s := by
  refine ⟨hlog, by simp [hu], ?_⟩
  intro v hv
  obtain rfl : u = v := by simpa [hu] using hv
  exact ⟨some x, waiting, h, by simp, by simp [htimer], fun _ => hcount⟩

namespace Session

variable {s : Session} {ok : Bool}

lemma onRetransmit_first {u : UasState} {tl : TxDataList} {rest : List TxDataList}
    (hlog : Log s.calls s.log) (h : Line s u none (tl :: rest)) (hcount : u.retransmitCount = 0)
    (hok : s.Accepts ok) : Inv (s.onRetransmit ok u) := by
  have hlist : u.txDataList = tl :: rest := h.list
  rcases hok with hnull | ⟨hproc, rfl⟩
  · simp only [onRetransmit, hnull, if_true]
    exact Inv.of_nil hlog rfl h.cseq rfl rfl (by simp [put, hnull])
  have hmem : tl ∈ u.txDataList := by simp [hlist]
  have hnoack : .acked tl.id ∉ s.log := fun hin => absurd (h.acked _ hin tl hmem) (lt_irrefl _)
  by_cases hfin : 200 ≤ tl.tdata.code
  · have hout : s.onRetransmit true u = ({ s with inviteTsx := .completed }.emit (.final (some tl.id))).put
        { u with timer := false, retransmitCount := 1, txDataList := [] } := by
      simp [onRetransmit, hproc, UasState.cancelTimer, hcount, hlist, sendMsg, hfin, transmitted,
        UasState.clearAllResponses, Nat.not_lt.2 hfin]
    rw [hout]
    refine Inv.of_nil ?_ rfl h.cseq rfl rfl (by simp [put, emit])
    refine hlog.emit_final ?_
    rintro id hid
    obtain rfl : tl.id = id := by simpa using hid
    refine ⟨h.lt tl hmem, fun ahead hq a ha => ?_⟩
    -- nothing is before it in the list
    rcases h.ahead tl hmem ahead hq a ha with hin | ⟨y, hy, rfl, hlt⟩
    · exact hin
    · have hids := h.ids
      rw [hlist] at hids hy
      rcases List.mem_cons.1 hy with rfl | hy
      · exact absurd hlt (lt_irrefl _)
      · exact absurd ((List.pairwise_cons.1 hids).1 y hy) (by omega)
  · have hlt : tl.tdata.code < 200 := Nat.not_le.1 hfin
    have hout : s.onRetransmit true u = (s.emit (.sent tl.id tl.rseq)).put { u with timer := true, retransmitCount := 1 } := by
      simp [onRetransmit, hproc, UasState.cancelTimer, hcount, hlist, sendMsg, transmitted, hlt, hfin, put, emit]
    have hrseqs := h.rseqs hproc
    rw [List.filter_cons_of_pos (by simpa using hlt), List.map_cons, ← List.singleton_append, ← List.append_assoc,
      List.append_assoc _ _ [u.rseq]] at hrseqs
    have hun : unacked (s.log ++ [.sent tl.id tl.rseq]) = [tl.id] := by
      rw [unacked_sent hnoack, h.unacked hproc]
      rfl
    have hsent : (s.log ++ [Event.sent tl.id tl.rseq]).filterMap Event.sentRseq =
        s.log.filterMap Event.sentRseq ++ [tl.rseq] := by
      simp [Event.sentRseq]
    rw [hout]
    refine @Inv.of_out _ _ tl rest ?_ rfl ⟨hlist, h.cseq, ?_, h.ids, h.lt, ?_, ?_, fun _ => hun, ?_, ?_, ?_⟩ rfl
      Nat.one_pos
    · refine hlog.emit rfl (by simp) (by simp) (by simp [hun]) ?_ fun _ => h.unfinished hproc
      rw [hsent]
      exact hrseqs.left_of_append
    · intro x hx
      obtain rfl : tl = x := by simpa using hx
      exact hlt
    · simpa [put, emit] using h.acked
    · simpa [put, emit] using h.ahead
    · intro _
      simp only [put, emit]
      rw [hsent, List.append_assoc]
      exact hrseqs
    · intro _
      simpa [put, emit] using h.unfinished hproc
    · rintro (hc | ⟨i, hi⟩)
      · simp [put, emit, hproc] at hc
      · exact absurd (by simpa [put, emit] using hi) (h.unfinished hproc i)

lemma onRetransmit_again {u : UasState} (h : Inv s) (hu : s.uas = some u)
    (htimer : u.timer = true) (hok : 6 ≤ u.retransmitCount → s.Accepts ok) : Inv (s.onRetransmit ok u) := by
  obtain ⟨out, waiting, hl, -, hout, hcount⟩ := h.held u hu
  obtain ⟨tl, rfl⟩ := Option.isSome_iff_exists.1 (hout.1 htimer)
  have hlist : u.txDataList = tl :: waiting := hl.list
  have hpos := hcount rfl
  have hcode : tl.tdata.code < 200 := hl.out_code tl rfl
  cases htsx : s.inviteTsx with
  | null =>
    simp only [onRetransmit, htsx, if_true]
    exact Inv.of_nil h.log rfl hl.cseq rfl rfl (by simp [put, htsx])
  | completed =>
    have := hl.finished (.inl htsx)
    rw [hlist] at this
    cases this
  | proceeding =>
    by_cases h6 : 6 ≤ u.retransmitCount
    · -- the response timed out, and 504 is sent
      obtain hc | ⟨-, rfl⟩ := hok h6
      · rw [htsx] at hc
        cases hc
      have heq : s.onRetransmit true u = (({ s with inviteTsx := .completed }.put
          { u with timer := false, retransmitCount := u.retransmitCount + 1, txDataList := [] }).emit (.final none)) := by
        simp [onRetransmit, htsx, UasState.cancelTimer, UasState.clearAllResponses, sendFinal, sendMsg, put, h6]
      rw [heq]
      refine Inv.of_nil ?_ rfl hl.cseq rfl rfl (by simp [put, emit])
      exact h.log.emit_final (by simp)
    · have heq : s.onRetransmit ok u = (s.emit (.resent tl.id)).put { u with timer := true, retransmitCount := u.retransmitCount + 1 } := by
        have h1 : u.retransmitCount ≠ 0 := by omega
        simp [onRetransmit, htsx, UasState.cancelTimer, hlist, h6, h1, Nat.not_le.2 hcode]
      rw [heq]
      refine Inv.of_out ?_ rfl ((hl.emit rfl rfl rfl rfl (by simp)).congr rfl rfl rfl rfl rfl rfl le_rfl) rfl (Nat.succ_pos _)
      refine h.log.emit rfl (by simp) (by simp) ?_ ?_ fun _ => hl.unfinished htsx
      · rw [unacked_of_other rfl rfl]
        exact h.log.one
      · rw [sentRseq_of_other rfl]
        exact h.log.consecutive

lemma call_inv (h : Inv s) : Inv { s with calls := s.calls + 1 } := by
  refine ⟨h.log.mono, h.fresh, fun u hu => ?_⟩
  obtain ⟨out, waiting, hl, h1, h2, h3⟩ := h.held u hu
  exact ⟨out, waiting, hl.congr rfl rfl rfl rfl rfl rfl (Nat.le_succ _), h1, h2, h3⟩

lemma Log.emit_call (h : Log s.calls s.log) : Log (s.calls + 1) (s.log ++ [.final (some s.calls)]) := by
  refine h.mono.emit_final ?_
  rintro id hid
  obtain rfl : s.calls = id := by simpa using hid
  exact ⟨Nat.lt_succ_self _, fun ahead hq => absurd (h.queued_lt _ ahead hq) (lt_irrefl _)⟩

lemma sendFinal_inv {s : Session} {u : UasState} {tdata : Response} {ok : Bool} (h : Inv s) (hu : s.uas = some u)
    (hcode : 200 ≤ tdata.code) (hok : u.txDataList ≠ [] → s.Accepts ok) :
    Inv (({ s with calls := s.calls + 1 }.put u.cancelTimer.clearAllResponses).sendFinal ok tdata (some s.calls)) := by
  obtain ⟨out, waiting, hl, hw, ht, hc⟩ := h.held u hu
  by_cases hsend : s.inviteTsx = .proceeding ∧ ok = true
  · have heq : ({ s with calls := s.calls + 1 }.put u.cancelTimer.clearAllResponses).sendFinal ok tdata (some s.calls) =
        ({ s with inviteTsx := .completed, calls := s.calls + 1 }.put u.cancelTimer.clearAllResponses).emit
          (.final (some s.calls)) := by
      simp [sendFinal, sendMsg, put, hsend, Nat.not_lt.2 hcode]
    rw [heq]
    exact Inv.of_nil (Log.emit_call h.log) rfl hl.cseq rfl rfl (by simp [put, emit])
  · have heq : ({ s with calls := s.calls + 1 }.put u.cancelTimer.clearAllResponses).sendFinal ok tdata (some s.calls) =
        { s with calls := s.calls + 1 }.put u.cancelTimer.clearAllResponses := by
      have : ¬ (({ s with calls := s.calls + 1 }.put u.cancelTimer.clearAllResponses).inviteTsx = .proceeding ∧ ok = true) := hsend
      simp only [sendFinal, sendMsg, if_neg this]
    rw [heq]
    by_cases hproc : s.inviteTsx = .proceeding
    · have hnil : u.txDataList = [] := by
        by_contra hne
        rcases hok hne with hnull | hboth
        · rw [hproc] at hnull
          cases hnull
        · exact hsend hboth
      have hnil' := hnil
      rw [hl.list] at hnil'
      obtain ⟨hout, rfl⟩ := List.append_eq_nil_iff.1 hnil'
      obtain rfl : out = none := by simpa using hout
      refine ⟨h.log.mono, by simp [put], ?_⟩
      intro v hv
      obtain rfl : u.cancelTimer.clearAllResponses = v := by simpa [put] using hv
      exact ⟨none, [], hl.congr hnil.symm rfl rfl rfl rfl rfl (Nat.le_succ _), fun _ => rfl, by
        simp [UasState.cancelTimer, UasState.clearAllResponses], by simp⟩
    · exact Inv.of_nil h.log.mono rfl hl.cseq rfl rfl hproc

variable {tdata : Response}

lemma sendFinal_inv_none (h : Inv s) (hu : s.uas = none)
    (hcode : 200 ≤ tdata.code) : Inv ({ s with calls := s.calls + 1 }.sendFinal ok tdata (some s.calls)) := by
  obtain ⟨h1, h2, h3⟩ := h.fresh hu
  by_cases hsend : s.inviteTsx = .proceeding ∧ ok = true
  · have heq : { s with calls := s.calls + 1 }.sendFinal ok tdata (some s.calls) =
        { s with inviteTsx := .completed, calls := s.calls + 1 }.emit (.final (some s.calls)) := by
      simp [sendFinal, sendMsg, hsend, Nat.not_lt.2 hcode]
    rw [heq]
    refine ⟨Log.emit_call h.log, fun _ => ⟨?_, ?_, by simp [emit]⟩, by simp [emit, hu]⟩
    · simp [emit, h1, Event.sentId]
    · simp [emit, h2, Event.sentRseq]
  · have heq : { s with calls := s.calls + 1 }.sendFinal ok tdata (some s.calls) = { s with calls := s.calls + 1 } := by
      simp only [sendFinal, sendMsg, if_neg hsend]
    rw [heq]
    exact call_inv h

lemma queue_inv {u : UasState} (h : Inv s) (hu : s.uas = some u)
    (hcode : 200 ≤ tdata.code) (hne : u.txDataList ≠ []) :
    Inv ((({ s with calls := s.calls + 1 } : Session).put
      { u with txDataList := u.txDataList ++ [⟨2 ^ 32 - 1, tdata, s.calls⟩] }).emit
        (.queued s.calls ((u.txDataList.filter fun tl => tl.tdata.code < 200).map TxDataList.id))) := by
  obtain ⟨out, waiting, hl, hw, ht, hc⟩ := h.held u hu
  cases out with
  | none => exact absurd (by rw [hl.list, hw rfl]; rfl) hne
  | some tl =>
  have hopen : s.inviteTsx ≠ .completed ∧ ∀ i, .final i ∉ s.log :=
    ⟨fun hc => hne (hl.finished (.inl hc)), fun i hi => hne (hl.finished (.inr ⟨i, hi⟩))⟩
  -- the log entry first, then the list
  have hl' : Line (s.emit (.queued s.calls ((u.txDataList.filter fun tl => tl.tdata.code < 200).map TxDataList.id))) u
      (some tl) waiting := by
    refine hl.emit rfl rfl rfl rfl ?_
    intro x hx ahead he
    have := hl.lt x hx
    simp only [Event.queued.injEq] at he
    omega
  have hq : ∀ ahead, .queued s.calls ahead ∈ (s.emit (.queued s.calls ((u.txDataList.filter
      fun tl => tl.tdata.code < 200).map TxDataList.id))).log → ∀ a ∈ ahead, ∃ y ∈ u.txDataList, y.id = a := by
    intro ahead hq a ha
    have hq' : ahead = (u.txDataList.filter fun tl => tl.tdata.code < 200).map TxDataList.id := by
      rcases List.mem_append.1 hq with hq | hq
      · exact absurd (h.log.queued_lt _ ahead hq) (lt_irrefl _)
      · simpa using hq
    rw [hq'] at ha
    obtain ⟨y, hy, rfl⟩ := List.mem_map.1 ha
    exact ⟨y, (List.mem_filter.1 hy).1, rfl⟩
  have hpush := @Line.push _ _ { u with txDataList := u.txDataList ++ [⟨2 ^ 32 - 1, tdata, s.calls⟩] }
    ⟨2 ^ 32 - 1, tdata, s.calls⟩ _ _ hl' rfl (fun a ha => h.log.acked_lt a (by simpa [emit] using ha)) rfl rfl hq
    (.inr ⟨by simpa using hcode, rfl⟩) ⟨hopen.1, by simpa [emit] using hopen.2⟩
  refine Inv.of_out ?_ rfl (hpush.congr rfl rfl rfl rfl rfl rfl le_rfl) (ht.2 rfl) (hc rfl)
  refine h.log.mono.emit rfl ?_ (by simp) ?_ ?_ (by simp [Event.isReliable])
  · intro id ahead he
    simp only [Event.queued.injEq] at he
    exact ⟨by rw [← he.1]; exact Nat.lt_succ_self _, fun hf => by have := h.log.final_lt id hf; omega⟩
  · rw [unacked_of_other rfl rfl]
    exact h.log.one
  · rw [sentRseq_of_other rfl]
    exact h.log.consecutive

lemma Inv.line_getD (h : Inv s) (rand : ℕ) :
    ∃ out waiting, Line s (s.uas.getD (s.newState rand)) out waiting ∧ (out = none → waiting = []) ∧
      ((s.uas.getD (s.newState rand)).timer = true ↔ out.isSome) ∧
      (out.isSome → 0 < (s.uas.getD (s.newState rand)).retransmitCount) := by
  cases hu : s.uas with
  | some u => exact h.held u hu
  | none =>
    obtain ⟨h1, h2, h3⟩ := h.fresh hu
    refine ⟨none, [], ⟨rfl, rfl, by simp, by simp [newState], by simp [newState], by simp [newState], by simp [newState],
      fun _ => ?_, fun _ => ?_, h3, fun _ => rfl⟩, fun _ => rfl, by simp [newState], by simp⟩
    · simp [unacked, h1]
    · simp [h2]

lemma provisional_inv {rand : ℕ} (h : Inv s) (hcode : tdata.code < 200)
    (hne : tdata.code ≠ 100) (hok : s.pending = [] → s.Accepts ok) : Inv (s.txResponse tdata rand ok) := by
  obtain ⟨out, waiting, hl, hw, ht, hc⟩ := Inv.line_getD h rand
  have hdiv : tdata.code / 100 ≠ 2 := by omega
  have hnot : ¬ 300 ≤ tdata.code := by omega
  have hcalls : ({ s with calls := s.calls + 1 } : Session).newState rand = s.newState rand := rfl
  set u := s.uas.getD (s.newState rand) with hu
  have hpend : s.pending = u.txDataList := by
    rw [hu]
    unfold pending
    cases s.uas <;> rfl
  rw [hpend] at hok
  have hcseq : ¬ s.cseq ≠ u.cseq := by simp [hl.cseq]
  simp only [txResponse, hne, hdiv, hnot, if_false, hcalls, ← hu, hcseq]
  by_cases hnil : u.txDataList = []
  · rw [if_neg (by simpa using hnil)]
    have hnil' := hnil
    rw [hl.list] at hnil'
    obtain ⟨hout, rfl⟩ := List.append_eq_nil_iff.1 hnil'
    obtain rfl : out = none := by simpa using hout
    rcases hok hnil with hnull | ⟨hproc, rfl⟩
    · simp only [onRetransmit, hnull, if_true]
      exact Inv.of_nil h.log.mono rfl hl.cseq rfl rfl (by simp [put])
    · have hpush := @Line.push _ _
        { u with rseq := (u.rseq + 1) % 2 ^ 32, txDataList := [⟨u.rseq, tdata, s.calls⟩], retransmitCount := 0 }
        ⟨u.rseq, tdata, s.calls⟩ _ _ hl rfl h.log.acked_lt (by rw [hnil]; rfl) rfl
        (fun ahead hq => absurd (h.log.queued_lt _ ahead hq) (lt_irrefl _)) (.inl ⟨hcode, rfl, rfl⟩)
        ⟨by simp [hproc], hl.unfinished hproc⟩
      exact onRetransmit_first h.log.mono hpush rfl (.inr ⟨hproc, rfl⟩)
  · rw [if_pos hnil]
    cases out with
    | none => exact absurd (by rw [hl.list, hw rfl]; rfl) hnil
    | some tl =>
    have hpush := @Line.push _ _
      { u with rseq := (u.rseq + 1) % 2 ^ 32, txDataList := u.txDataList ++ [⟨u.rseq, tdata, s.calls⟩] }
      ⟨u.rseq, tdata, s.calls⟩ _ _ hl rfl h.log.acked_lt rfl rfl
      (fun ahead hq => absurd (h.log.queued_lt _ ahead hq) (lt_irrefl _)) (.inl ⟨hcode, rfl, rfl⟩)
      ⟨fun hc => hnil (hl.finished (.inl hc)), fun i hi => hnil (hl.finished (.inr ⟨i, hi⟩))⟩
    exact Inv.of_out h.log.mono rfl (hpush.congr rfl rfl rfl rfl rfl rfl le_rfl) (ht.2 rfl) (hc rfl)

lemma txResponse_inv {rand : ℕ} (h : Inv s)
    (hsafe : Safe s (.txResponse tdata rand ok)) : Inv (s.txResponse tdata rand ok) := by
  obtain ⟨hprov, hfinal⟩ := hsafe
  by_cases h100 : tdata.code = 100
  · have heq : s.txResponse tdata rand ok = { s with calls := s.calls + 1 } := by
      simp only [txResponse, h100, if_true, sendMsg]
      by_cases hc : s.inviteTsx = .proceeding ∧ ok = true
      · simp [hc]
      · rw [if_neg hc]
        rfl
    rw [heq]
    exact call_inv h
  by_cases hlt : tdata.code < 200
  · exact provisional_inv h hlt h100 (hprov h100 hlt)
  have hcode : 200 ≤ tdata.code := Nat.not_lt.1 hlt
  have hok := hfinal hcode
  unfold pending at hok
  by_cases h2 : tdata.code / 100 = 2
  · have h300 : tdata.code < 300 := by omega
    cases hu : s.uas with
    | none =>
      simp only [txResponse, h100, if_false, h2, if_true, hu]
      rw [← hu]
      exact sendFinal_inv_none h hu hcode
    | some u =>
      rw [hu] at hok
      simp only [txResponse, h100, if_false, h2, if_true, hu]
      split_ifs with hsdp
      · rw [← hu]
        refine queue_inv h hu hcode ?_
        rintro hnil
        simp [UasState.hasSdp, hnil] at hsdp
      · rw [← hu]
        refine sendFinal_inv h hu hcode fun hne => hok hne fun _ tl htl => ?_
        simpa using fun hb => hsdp (List.any_eq_true.2 ⟨tl, htl, hb⟩)
  · have h300 : 300 ≤ tdata.code := by omega
    cases hu : s.uas with
    | none =>
      simp only [txResponse, h100, if_false, h2, h300, if_true, hu]
      rw [← hu]
      exact sendFinal_inv_none h hu hcode
    | some u =>
      rw [hu] at hok
      obtain ⟨out, waiting, hl, hw, ht, -⟩ := h.held u hu
      have hfin := @sendFinal_inv _ _ tdata ok h hu hcode fun hne => hok hne fun hlt => by omega
      simp only [txResponse, h100, if_false, h2, h300, if_true, hu]
      rw [← hu]
      split_ifs with htimer
      · exact hfin
      · -- without the timer the list is empty, and stays as it is
        have hsame : ({ s with calls := s.calls + 1 } : Session).put u.cancelTimer.clearAllResponses =
            { s with calls := s.calls + 1 } := by
          have hout : out = none := by
            by_contra hne
            exact htimer (ht.2 (Option.isSome_iff_ne_none.2 hne))
          have hnil : u.txDataList = [] := by rw [hl.list, hw hout, hout]; rfl
          have hu' : u.cancelTimer.clearAllResponses = u := by
            have htimer' : u.timer = false := by simpa using htimer
            simp only [UasState.cancelTimer, UasState.clearAllResponses, ← hnil, ← htimer']
          simp [put, hu', hu]
        rw [hsame] at hfin
        exact hfin

lemma onRxPrack_inv {rack : Option Bytes} (h : Inv s) (hsafe : Safe s (.rxPrack rack ok)) :
    Inv (s.onRxPrack rack ok) := by
  unfold onRxPrack
  cases hu : s.uas with
  | none => exact h
  | some u =>
  cases rack with
  | none => exact h
  | some r =>
  obtain ⟨out, waiting, hl, hw, ht, -⟩ := h.held u hu
  cases hlist : u.txDataList with
  | nil => simpa [hlist] using h
  | cons tl rest =>
  cases out with
  | none => rw [hl.list, hw rfl] at hlist; cases hlist
  | some x =>
  obtain ⟨rfl, rfl⟩ : x = tl ∧ waiting = rest := by
    rw [hl.list] at hlist
    simpa using hlist
  have hlog : Log s.calls (s.log ++ [.acked x.id]) := by
    refine h.log.emit rfl (by simp) ?_ ?_ ?_ (by simp [Event.isReliable])
    · intro id he
      obtain rfl : x.id = id := by simpa using he
      exact hl.lt x (by simp [hlist])
    · rw [unacked_acked]
      exact Nat.le_trans (List.length_filter_le ..) h.log.one
    · rw [sentRseq_of_other rfl]
      exact h.log.consecutive
  have hack := @Line.ack _ _ { u.cancelTimer with txDataList := waiting, retransmitCount := 0 } _ _ hl rfl rfl rfl
  simp only [hlist]
  split_ifs with hmatch hrest
  · -- the next response is sent
    obtain ⟨y, ys, rfl⟩ := List.exists_cons_of_ne_nil hrest
    refine onRetransmit_first hlog hack rfl ?_
    refine hsafe ⟨u, hu, x, by simp [hlist], r, rfl, hmatch⟩ ?_
    simp [pending, hu, hlist]
  · obtain rfl : waiting = [] := by simpa using hrest
    refine ⟨hlog, by simp [put], ?_⟩
    intro v hv
    obtain rfl := Option.some.inj hv
    exact ⟨none, [], hack.congr rfl rfl rfl rfl rfl rfl le_rfl, fun _ => rfl, by simp [UasState.cancelTimer], by simp⟩
  · exact h

end Session

lemma tsxGone_inv {s : Session} (h : Inv s) : Inv { s with inviteTsx := .null } := by
  refine ⟨h.log, fun hu => ⟨(h.fresh hu).1, (h.fresh hu).2.1, by simp⟩, fun u hu => ?_⟩
  obtain ⟨out, waiting, hl, hrest⟩ := h.held u hu
  refine ⟨out, waiting, ?_, hrest⟩
  exact { hl with
    unacked := by simp
    rseqs := by simp
    unfinished := by simp
    finished := fun hf => hl.finished (.inr (by simpa using hf)) }

lemma step_inv (s : Session) (i : Input) (h : Inv s) (hsafe : Safe s i) : Inv (step s i) := by
  cases i with
  | txResponse tdata rand ok => exact Session.txResponse_inv h hsafe
  | rxPrack rack ok => exact Session.onRxPrack_inv h hsafe
  | timerExpiry ok =>
    simp only [step]
    split
    · rename_i u hu
      split_ifs with ht
      · exact Session.onRetransmit_again h hu ht (hsafe u hu ht)
      · exact h
    · exact h
  | tsxGone => exact tsxGone_inv h
  | endSession =>
    cases hu : s.uas with
    | none =>
      have heq : step s .endSession = { s with inviteTsx := .null } := by simp [step, Session.endSession, hu]
      rw [heq]
      exact tsxGone_inv h
    | some u =>
      obtain ⟨out, waiting, hl, -⟩ := h.held u hu
      have heq : step s .endSession = { s.put u.cancelTimer.clearAllResponses with inviteTsx := .null } := by
        simp [step, Session.endSession, hu]
      rw [heq]
      exact Inv.of_nil h.log rfl hl.cseq rfl rfl (by simp)

lemma Inv.ordered {s : Session} (h : Inv s) : Ordered s := by
  refine ⟨h.log.one, h.log.consecutive, h.log.after_prack, h.log.final_last, ?_⟩
  intro u hu hne
  obtain ⟨out, waiting, hl, hw, ht, -⟩ := h.held u hu
  refine ht.2 (Option.isSome_iff_ne_none.2 ?_)
  rintro rfl
  exact hne (by rw [hl.list, hw rfl]; rfl)

lemma start_inv (cseq : ℤ) : Inv (start cseq) :=
  ⟨⟨by simp [start, unacked], by simp [start], by simp [start], by simp [start], by simp [start], by simp [start],
    by simp [start]⟩, by simp [start], by simp [start]⟩

/-- Reliable responses are sent in order, one at a time, in every run in which no first
transmission is refused. -/
theorem reliable_responses_ordered (cseq : ℤ) (is : List Input) (h : Guarded step Safe (start cseq) is) :
    Ordered (run step (start cseq) is) :=
  (h.invariant step_inv (start_inv cseq)).ordered

/-- A 183 with SDP, a 200 that waits for its PRACK, and the PRACK. -/
theorem reliable_responses_ordered_answer :
    let is : List Input := [.txResponse ⟨183, true⟩ 4 true, .txResponse ⟨200, true⟩ 0 true,
      .rxPrack (some (lit "5 1 INVITE")) true]
    Guarded step Safe (start 1) is ∧ Ordered (run step (start 1) is) := by
  have hsafe : Guarded step Safe (start 1) [.txResponse ⟨183, true⟩ 4 true, .txResponse ⟨200, true⟩ 0 true,
      .rxPrack (some (lit "5 1 INVITE")) true] :=
    ⟨⟨fun _ _ _ => .inr ⟨rfl, rfl⟩, fun _ _ _ => .inr ⟨rfl, rfl⟩⟩,
      ⟨fun _ _ _ => .inr ⟨rfl, rfl⟩, fun _ _ _ => .inr ⟨rfl, rfl⟩⟩, fun _ _ => .inr ⟨rfl, rfl⟩, trivial⟩
  exact ⟨hsafe, reliable_responses_ordered 1 _ hsafe⟩

/-- The first transmission of a 183 fails: it stays in the list without a timer, and so does the 200
that is put behind it. -/
theorem failed_transmission_strands :
    let s := run step (start 1) [.txResponse ⟨183, true⟩ 4 false, .txResponse ⟨200, true⟩ 0 true]
    s.pending.map (fun tl => tl.tdata.code) = [183, 200] ∧ s.uas.map UasState.timer = some false ∧ ¬ Ordered s := by
  refine ⟨by decide, by decide, fun h => ?_⟩
  exact absurd (h.timer _ rfl (by decide)) (by decide)

end PjProject.Reliable
