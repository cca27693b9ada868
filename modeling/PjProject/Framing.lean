import Mathlib.Tactic

/-!
# Reading frames from a stream that arrives in pieces

A stream is a sequence of gap symbols and frames. A reader is given a buffer and
returns the frames it found and the part of the buffer it keeps for the next piece.
A reader that is faithful on one buffer finds the same frames however the stream is
cut; `drain` is such a reader for every prefix-stable frame finder.
-/
namespace PjProject.Framing

variable {α : Type*}

inductive Item (α : Type*)
  | gap (a : α)
  | frame (m : List α)

def Item.symbols : Item α → List α
  | gap a => [a]
  | frame m => m

def stream (items : List (Item α)) : List α := items.flatMap Item.symbols

def Item.payload : Item α → Option (List α)
  | gap _ => none
  | frame m => some m

def frames (items : List (Item α)) : List (List α) := items.filterMap Item.payload

@[simp] lemma stream_nil : stream ([] : List (Item α)) = [] := rfl

@[simp] lemma stream_gap (a : α) (items : List (Item α)) : stream (.gap a :: items) = a :: stream items :=rfl

@[simp] lemma stream_frame (m : List α) (items : List (Item α)) :
    stream (.frame m :: items) = m ++ stream items := rfl

@[simp] lemma frames_nil : frames ([] : List (Item α)) = [] := rfl

@[simp] lemma frames_gap (a : α) (items : List (Item α)) : frames (.gap a :: items) = frames items :=rfl

@[simp] lemma frames_frame (m : List α) (items : List (Item α)) :
    frames (.frame m :: items) = m :: frames items := rfl

structure Code (α : Type*) where
  gap : α → Bool
  isFrame : List α → Prop
  start : ∀ m, isFrame m → ∃ a t, m = a :: t ∧ gap a = false

variable (C : Code α)

def Item.Valid : Item α → Prop
  | gap a => C.gap a = true
  | frame m => C.isFrame m

def Valid (items : List (Item α)) : Prop := ∀ i ∈ items, i.Valid C

variable {items : List (Item α)}

lemma Valid.tail {C : Code α} {i : Item α} (h : Valid C (i :: items)) :
    Valid C items := fun j hj => h j (by simp [hj])

lemma Valid.frame_start {C : Code α} {m : List α}
    (h : Valid C (.frame m :: items)) : ∃ a t, m = a :: t ∧ C.gap a = false := by
  have hm : (Item.frame m).Valid C := h _ (by simp)
  exact C.start m hm

lemma frames_of_stream_nil {C : Code α} (hv : Valid C items)
    (hs : stream items = []) : frames items = [] := by
  cases items with
  | nil => rfl
  | cons i is =>
    cases i with
    | gap a => simp at hs
    | frame m =>
      obtain ⟨a, t, rfl, -⟩ := hv.frame_start
      simp at hs

/-- On every buffer that begins a valid stream, the reader hands over the frames that
stand there, and what it keeps and what follows is a valid stream of the other frames. At
the end of the stream no frame is kept. -/
def Faithful (read : List α → List (List α) × List α) : Prop :=
  ∀ items buf rest, buf ≠ [] → Valid C items → buf ++ rest = stream items →
    ∃ items', Valid C items' ∧ (read buf).2 ++ rest = stream items' ∧
      (read buf).1 ++ frames items' = frames items ∧ (rest = [] → frames items' = [])

def feed (read : List α → List (List α) × List α) :
    List (List α) × List α → List α → List (List α) × List α
  | (out, kept), piece => (out ++ (read (kept ++ piece)).1, (read (kept ++ piece)).2)

/-- A faithful reader finds the frames of a valid stream however the stream is cut. -/
lemma feed_frames {C : Code α} {read : List α → List (List α) × List α}
    (hread : Faithful C read) (hv : Valid C items)
    {pieces : List (List α)} (hne : ∀ p ∈ pieces, p ≠ []) (hp : pieces.flatten = stream items) :
    (pieces.foldl (feed read) ([], [])).1 = frames items := by
  have key : ∀ (pieces : List (List α)) (items : List (Item α)) (out : List (List α))
      (kept : List α), Valid C items → (∀ p ∈ pieces, p ≠ []) →
      kept ++ pieces.flatten = stream items → (pieces = [] → frames items = []) →
      (pieces.foldl (feed read) (out, kept)).1 = out ++ frames items := by
    intro pieces
    induction pieces with
    | nil =>
      intro items out kept _ _ _ hend
      simp [hend rfl]
    | cons p ps ih =>
      intro items out kept hv hne hs _
      have hbuf : kept ++ p ≠ [] := by simp [hne p]
      obtain ⟨items', hv', hs', hout, hend⟩ := hread items (kept ++ p) ps.flatten hbuf hv
        (by simpa using hs)
      rw [List.foldl_cons, feed, ih items' _ _ hv' (fun q hq => hne q (by simp [hq])) hs'
        (fun h => hend (by simp [h]))]
      rw [List.append_assoc, hout]
  have hend : pieces = [] → frames items = [] := by
    rintro rfl
    exact frames_of_stream_nil hv hp.symm
  simpa using key pieces items [] [] hv hne (by simpa using hp) hend

variable {buf rest : List α}

lemma drop_gaps {C : Code α} (hv : Valid C items) (hs : buf ++ rest = stream items) :
    ∃ items', Valid C items' ∧ buf.dropWhile C.gap ++ rest = stream items' ∧ frames items' = frames items ∧
      (buf.dropWhile C.gap ≠ [] → ∃ m tl, items' = .frame m :: tl) := by
  induction buf generalizing items with
  | nil => exact ⟨items, hv, hs, rfl, by simp⟩
  | cons a buf ih =>
    cases items with
    | nil => simp at hs
    | cons i is =>
      cases i with
      | gap b =>
        simp only [stream_gap, List.cons_append, List.cons.injEq] at hs
        obtain ⟨rfl, hs⟩ := hs
        have hga : C.gap a = true := hv (.gap a) (by simp)
        rw [List.dropWhile_cons_of_pos hga, frames_gap]
        exact ih hv.tail hs
      | frame m =>
        obtain ⟨b, t, rfl, hb⟩ := hv.frame_start
        have hab : a = b := by simpa using congrArg List.head? hs
        have hd : (a :: buf).dropWhile C.gap = a :: buf := by simp [hab, hb]
        rw [hd]
        exact ⟨_, hv, hs, rfl, fun _ => ⟨_, _, rfl⟩⟩

inductive Verdict
  | frame (n : ℕ)
  | more
  | bad

structure Stable (next : List α → Verdict) : Prop where
  whole : ∀ m x, C.isFrame m → next (m ++ x) = .frame m.length
  part : ∀ m p, C.isFrame m → p ≠ [] → p <+: m → p ≠ m → next p = .more

def drain (gap : α → Bool) (next : List α → Verdict) :
    ℕ → List α → List (List α) × List α
  | 0, buf => ([], buf)
  | k + 1, buf =>
    let buf := buf.dropWhile gap
    if buf = [] then ([], [])
    else
      match next buf with
      | .frame n =>
        let (out, kept) := drain gap next k (buf.drop n)
        (buf.take n :: out, kept)
      | .more => ([], buf)
      | .bad => ([], [])

lemma frame_or_part {m tl : List α} (h : buf ++ rest = m ++ tl) :
    (∃ x, buf = m ++ x ∧ x ++ rest = tl) ∨ (buf <+: m ∧ buf ≠ m ∧ rest ≠ []) := by
  rcases List.append_eq_append_iff.1 h with ⟨y, rfl, rfl⟩ | ⟨x, rfl, rfl⟩
  · cases y with
    | nil => exact .inl ⟨[], by simp, by simp⟩
    | cons b y => exact .inr ⟨by simp, by simp, by simp⟩
  · exact .inl ⟨x, rfl, rfl⟩

lemma drain_spec {C : Code α} {next : List α → Verdict} (hn : Stable C next) {k : ℕ} (hk : buf.length ≤ k) (hv : Valid C items)
    (hs : buf ++ rest = stream items) :
    ∃ items', Valid C items' ∧ (drain C.gap next k buf).2 ++ rest = stream items' ∧
      (drain C.gap next k buf).1 ++ frames items' = frames items ∧ (rest = [] → frames items' = []) := by
  induction k generalizing buf items with
  | zero =>
    obtain rfl := List.length_eq_zero_iff.1 (Nat.le_zero.1 hk)
    refine ⟨items, hv, hs, by simp [drain], fun hr => frames_of_stream_nil hv ?_⟩
    simp [← hs, hr]
  | succ k ih =>
    obtain ⟨items', hv', hs', hf, hhead⟩ := drop_gaps hv hs
    simp only [drain]
    by_cases hb : buf.dropWhile C.gap = []
    · rw [if_pos hb]
      rw [hb] at hs'
      refine ⟨items', hv', hs', by simpa using hf, fun hr => frames_of_stream_nil hv' ?_⟩
      simp [← hs', hr]
    · rw [if_neg hb]
      obtain ⟨m, tl, rfl⟩ := hhead hb
      have hm : C.isFrame m := hv' (.frame m) (by simp)
      have hlen : (buf.dropWhile C.gap).length ≤ buf.length :=
        (List.dropWhile_suffix C.gap).length_le
      rw [stream_frame] at hs'
      rcases frame_or_part hs' with ⟨x, hx, hxs⟩ | ⟨hp, hpm, hr⟩
      · -- the frame stands at the front of the buffer: go on behind it
        obtain ⟨a, t, hat, -⟩ := hv'.frame_start
        have hmlen : 0 < m.length := by simp [hat]
        have hxk : x.length ≤ k := by
          rw [hx, List.length_append] at hlen
          omega
        obtain ⟨items'', hv'', hs'', hf'', hend⟩ := ih hxk hv'.tail hxs
        rw [hx, hn.whole m x hm]
        simp only [List.drop_left, List.take_left]
        refine ⟨items'', hv'', hs'', ?_, hend⟩
        rw [List.cons_append, hf'', ← hf, frames_frame]
      · rw [hn.part m _ hm hb hp hpm]
        exact ⟨_, hv', hs', by simpa using hf, fun h => absurd h hr⟩

lemma drain_faithful {C : Code α} {next : List α → Verdict} (hn : Stable C next) :
    Faithful C fun buf => drain C.gap next buf.length buf :=
  fun _ _ _ _ hv hs => drain_spec hn le_rfl hv hs

lemma drop_gap_word {C : Code α} {g b : List α} (hv : Valid C items)
    (hg : ∀ a ∈ g, C.gap a = true) (hs : g ++ b = stream items) :
    ∃ items', Valid C items' ∧ b = stream items' ∧ frames items' = frames items := by
  induction g generalizing items with
  | nil => exact ⟨items, hv, hs, rfl⟩
  | cons a g ih =>
    cases items with
    | nil => simp at hs
    | cons i is =>
      cases i with
      | gap c =>
        simp only [stream_gap, List.cons_append, List.cons.injEq] at hs
        rw [frames_gap]
        exact ih hv.tail (fun d hd => hg d (by simp [hd])) hs.2
      | frame m =>
        obtain ⟨c, t, rfl, hc⟩ := hv.frame_start
        have hac : a = c := by simpa using congrArg List.head? hs
        have := hg a (by simp)
        rw [hac, hc] at this
        cases this

/-- A reader may first drop leading gaps, or keep a buffer that is nothing but gaps. -/
lemma Faithful.of_gaps {C : Code α} {read read' : List α → List (List α) × List α} (hread : Faithful C read)
    (h : ∀ buf, buf ≠ [] → ∃ g b, buf = g ++ b ∧ (∀ a ∈ g, C.gap a = true) ∧
      ((b ≠ [] ∧ read' buf = read b) ∨ ((∀ a ∈ b, C.gap a = true) ∧ read' buf = ([], b)))) :
    Faithful C read' := by
  intro items buf rest hne hv hs
  obtain ⟨g, b, rfl, hg, hcase⟩ := h buf hne
  obtain ⟨items', hv', hs', hf⟩ := drop_gap_word hv hg (by simpa using hs)
  rcases hcase with ⟨hb, hr⟩ | ⟨hb, hr⟩
  · rw [hr]
    obtain ⟨items'', hv'', hs'', hf'', hend⟩ := hread items' b rest hb hv' hs'
    exact ⟨items'', hv'', hs'', hf''.trans hf, hend⟩
  · rw [hr]
    refine ⟨items', hv', hs', by simpa using hf, ?_⟩
    rintro rfl
    obtain ⟨items'', hv'', hs'', hf''⟩ := drop_gap_word hv' hb hs'
    rw [← hf'']
    exact frames_of_stream_nil hv'' hs''.symm

structure Extends (next : List α → Verdict) : Prop where
  pos : ∀ p n, next p = .frame n → 0 < n
  le : ∀ p n, next p = .frame n → n ≤ p.length
  append : ∀ p n x, next p = .frame n → next (p ++ x) = .frame n
  take : ∀ p n, next p = .frame n → next (p.take n) = .frame n
  good : ∀ p, next p ≠ .bad

def split (next : List α → Verdict) (buf : List α) : List (List α) × List α :=
  drain (fun _ => false) next buf.length buf

section Split

variable {next : List α → Verdict}

@[simp] lemma split_nil : split next [] = ([], []) := rfl

lemma drain_fuel (hn : Extends next) {k : ℕ} {buf : List α} (hk : buf.length ≤ k) :
    drain (fun _ => false) next k buf = split next buf := by
  have key : ∀ (n : ℕ) (buf : List α), buf.length ≤ n → ∀ k, buf.length ≤ k →
      drain (fun _ => false) next k buf = drain (fun _ => false) next n buf := by
    intro n
    induction n with
    | zero =>
      intro buf hn0 k _
      obtain rfl := List.length_eq_zero_iff.1 (Nat.le_zero.1 hn0)
      cases k <;> rfl
    | succ n ih =>
      intro buf hbn k hbk
      cases k with
      | zero =>
        obtain rfl := List.length_eq_zero_iff.1 (Nat.le_zero.1 hbk)
        rfl
      | succ k =>
        simp only [drain]
        split_ifs with h0
        · rfl
        · cases hv : next (buf.dropWhile fun _ => false) with
          | more => rfl
          | bad => rfl
          | frame m =>
            have hpos := hn.pos _ _ hv
            have hle := (List.dropWhile_suffix (fun _ => false) (l := buf)).length_le
            have hdrop : ((buf.dropWhile fun _ => false).drop m).length ≤ buf.length - 1 := by
              rw [List.length_drop]
              omega
            simp only [ih ((buf.dropWhile fun _ => false).drop m) (by omega) k (by omega)]
  exact key buf.length buf le_rfl k hk

lemma dropWhile_false (buf : List α) : (buf.dropWhile fun _ => false) = buf := by
  cases buf <;> simp

lemma split_frame (hn : Extends next) {p : List α} {n : ℕ} (h : next p = .frame n) :
    split next p = (p.take n :: (split next (p.drop n)).1, (split next (p.drop n)).2) := by
  have hpos := hn.pos p n h
  have hle := hn.le p n h
  cases p with
  | nil => simp at hle; omega
  | cons a p =>
    have hlen : ((a :: p).drop n).length ≤ p.length := by
      simp only [List.length_drop, List.length_cons] at hle ⊢
      omega
    rw [split, List.length_cons, drain]
    simp only [dropWhile_false, h, drain_fuel hn hlen]
    simp

lemma split_more {p : List α} (h : next p = .more) : split next p = ([], p) := by
  cases p with
  | nil => rfl
  | cons a p =>
    rw [split, List.length_cons, drain]
    simp only [dropWhile_false, h]
    simp

/-- The frames of a buffer, taken off in the order of its own recursion. -/
lemma split_induction (hn : Extends next) {P : List α → Prop} (more : ∀ p, next p = .more → P p)
    (frame : ∀ p n, next p = .frame n → P (p.drop n) → P p) (buf : List α) : P buf := by
  induction hlen : buf.length using Nat.strong_induction_on generalizing buf with
  | _ m ih =>
    cases hv : next buf with
    | more => exact more buf hv
    | bad => exact absurd hv (hn.good buf)
    | frame n =>
      have hpos := hn.pos buf n hv
      have hle := hn.le buf n hv
      apply frame buf n hv
      apply ih (buf.length - n) (by omega) _ (List.length_drop ..)

/-- Splitting in two steps, the second behind the frames of the first. -/
lemma split_append (hn : Extends next) (a b : List α) :
    split next (a ++ b) = ((split next a).1 ++ (split next ((split next a).2 ++ b)).1,
      (split next ((split next a).2 ++ b)).2) := by
  induction a using split_induction hn with
  | more p hv => rw [split_more hv]; simp
  | frame p n hv ih =>
    have hle := hn.le p n hv
    rw [split_frame hn hv, split_frame hn (hn.append p n b hv), List.drop_append_of_le_length hle,
      List.take_append_of_le_length hle, ih]
    simp

lemma split_rest (hn : Extends next) (buf : List α) : next (split next buf).2 = .more := by
  induction buf using split_induction hn with
  | more p hv => rw [split_more hv]; exact hv
  | frame p n hv ih => rw [split_frame hn hv]; exact ih

lemma split_whole (hn : Extends next) (buf : List α) :
    ∀ f ∈ (split next buf).1, next f = .frame f.length := by
  induction buf using split_induction hn with
  | more p hv => rw [split_more hv]; simp
  | frame p n hv ih =>
    rw [split_frame hn hv]
    intro f hf
    rcases List.mem_cons.1 hf with rfl | hf
    · rw [hn.take p n hv, List.length_take, min_eq_left (hn.le p n hv)]
    · exact ih f hf

lemma split_flatten (hn : Extends next) (buf : List α) :
    (split next buf).1.flatten ++ (split next buf).2 = buf := by
  induction buf using split_induction hn with
  | more p hv => rw [split_more hv]; simp
  | frame p n hv ih =>
    rw [split_frame hn hv]
    simp [List.flatten_cons, List.append_assoc, ih]

end Split

end PjProject.Framing
