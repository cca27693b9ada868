import PjProject.DnsCache

/-!
# What the response cache answers

`EventSound` says what may happen after a log of events. The reference counters are those of
`Counted`: an entry of the table counts once more than the callbacks that use it. What
`update_res_cache` does for one key is a `Change` of that key.
-/
namespace PjProject.DnsCache
open Dns (ResKey initResKey maxHostname)
open Transition

def Event.stored (key : ResKey) : Event → Option Acceptance
  | .accepted key' a => if key' = key ∧ ¬ (a.source = .response ∧ a.pkt.tc = true) then some a else none
  | _ => none

def lastAccepted (log : List Event) (key : ResKey) : Option Acceptance := (log.filterMap (Event.stored key)).getLast?

def Acceptance.Invalid (a : Acceptance) : Prop := a.pkt.ans = [] ∨ a.source = .response ∧ a.pkt.rcode ≠ 0

def Acceptance.Timely (a : Acceptance) (t : ℕ) : Prop :=
  if a.source = .added false then t < 0x7FFFFFFF * 1000
  else t < a.time + a.maxTtl * 1000 ∧ (a.Invalid → t < a.time + invalidTtl * 1000) ∧
    (¬ a.Invalid → ∀ rr ∈ a.pkt.ans, t < a.time + rr.ttl * 1000)

/-- A name is answered with the latest packet that was accepted for it, in time; an entry that a
callback is using is neither released nor reset. -/
def EventSound (log : List Event) : Event → Prop
  | .accepted _ _ => True
  | .delivered name type status pkt t =>
    ∃ a, lastAccepted log ⟨type, lowerAll name ++ List.replicate (maxHostname - name.length) 0⟩ = some a ∧
      pkt = packetDup a.pkt ∧ status = a.pkt.rcode ∧ (a.source = .response → a.pkt.tc = false) ∧ a.Timely t
  | .released _ used => used = false
  | .reset _ used => used = false

def LogSound (log : List Event) : Prop := ∀ pre e post, log = pre ++ e :: post → EventSound pre e

variable {e : Event}

lemma LogSound.snoc {log : List Event} (h : LogSound log) (he : EventSound log e) :
    LogSound (log ++ [e]) := by
  intro pre e' post heq
  rcases List.eq_nil_or_concat post with rfl | ⟨post', last, rfl⟩
  · obtain ⟨h1, h2⟩ := List.append_inj' heq rfl
    obtain rfl : e = e' := by simpa using h2
    rw [← h1]
    exact he
  · rw [List.concat_eq_append, ← List.cons_append, ← List.append_assoc] at heq
    obtain ⟨h1, -⟩ := List.append_inj' heq rfl
    exact h pre e' post' h1

def Event.Quiet : Event → Prop
  | .released _ used => used = false
  | .reset _ used => used = false
  | _ => False

lemma Event.Quiet.sound (h : e.Quiet) (log : List Event) : EventSound log e := by
  cases e with
  | accepted key a => exact h.elim
  | delivered name type status pkt t => exact h.elim
  | released a used => exact h
  | reset a used => exact h

lemma Event.Quiet.stored (h : e.Quiet) (key : ResKey) : e.stored key = none := by
  cases e with
  | accepted key' a => exact h.elim
  | delivered name type status pkt t => rfl
  | released a used => rfl
  | reset a used => rfl

lemma lastAccepted_snoc (log : List Event) (e : Event) (key : ResKey) :
    lastAccepted (log ++ [e]) key = (e.stored key).or (lastAccepted log key) := by
  unfold lastAccepted
  rw [List.filterMap_append]
  cases hs : e.stored key with
  | none => simp [hs]
  | some a => simp [hs]

structure Counted (c : Cache) : Prop where
  allocated : ∀ a ∈ c.running, a < c.brk
  table : ∀ key a, c.hrescache key = some a → a < c.brk ∧ (c.entry a).key = key ∧ (c.entry a).refCnt = c.running.count a + 1
  held : ∀ a ∈ c.running, (∀ key, c.hrescache key ≠ some a) → (c.entry a).refCnt = c.running.count a

variable {c : Cache} {key : ResKey} {a : ℕ}

lemma Counted.key_eq (h : Counted c) {key' : ResKey} (h1 : c.hrescache key = some a)
    (h2 : c.hrescache key' = some a) : key = key' := by
  rw [← (h.table key a h1).2.1, ← (h.table key' a h2).2.1]

structure Change (key : ResKey) (c c' : Cache) : Prop where
  running : c'.running = c.running
  now : c'.now = c.now
  maxTtl : c'.cacheMaxTtl = c.cacheMaxTtl
  other : ∀ key', key' ≠ key → c'.hrescache key' = c.hrescache key'
  entry : ∀ key', key' ≠ key → ∀ a, c.hrescache key' = some a → c'.entry a = c.entry a
  sound : LogSound c.log → LogSound c'.log
  accepted : ∀ key', lastAccepted c'.log key' = lastAccepted c.log key'

lemma Change.refl (key : ResKey) (c : Cache) : Change key c c :=
  ⟨rfl, rfl, rfl, fun _ _ => rfl, fun _ _ _ _ => rfl, id, fun _ => rfl⟩

lemma Change.trans {key : ResKey} {c c' c'' : Cache} (h : Change key c c') (h' : Change key c' c'') : Change key c c'' where
  running := h'.running.trans h.running
  now := h'.now.trans h.now
  maxTtl := h'.maxTtl.trans h.maxTtl
  other := fun key' hk => (h'.other key' hk).trans (h.other key' hk)
  entry := by
    intro key' hk a ha
    rw [h'.entry key' hk a (by rw [h.other key' hk]; exact ha), h.entry key' hk a ha]
  sound := fun hs => h'.sound (h.sound hs)
  accepted := fun key' => (h'.accepted key').trans (h.accepted key')

lemma Change.emit {c' : Cache} (h : Change key c c') (he : e.Quiet) : Change key c (c'.emit e) where
  running := h.running
  now := h.now
  maxTtl := h.maxTtl
  other := h.other
  entry := h.entry
  sound := fun hs => (h.sound hs).snoc (he.sound _)
  accepted := by
    intro key'
    unfold Cache.emit
    rw [lastAccepted_snoc, he.stored]
    exact h.accepted key'

lemma Counted.emit (h : Counted c) (e : Event) : Counted (c.emit e) := ⟨h.allocated, h.table, h.held⟩

/-- The counters when one reference to `a`, which is not in the table, is about to be dropped. -/
structure Loose (c : Cache) (a : ℕ) : Prop where
  allocated : ∀ b ∈ c.running, b < c.brk
  lt : a < c.brk
  table : ∀ key b, c.hrescache key = some b → b < c.brk ∧ (c.entry b).key = key ∧ (c.entry b).refCnt = c.running.count b + 1
  held : ∀ b ∈ c.running, b ≠ a → (∀ key, c.hrescache key ≠ some b) → (c.entry b).refCnt = c.running.count b
  out : ∀ key, c.hrescache key ≠ some a
  count : (c.entry a).refCnt = c.running.count a + 1

lemma decRef_refCnt (c : Cache) (a : ℕ) : ((c.decRef a).entry a).refCnt = (c.entry a).refCnt - 1 := by
  simp [Cache.decRef, Cache.setEntry]

lemma decRef_entry_ne {b : ℕ} (h : b ≠ a) : (c.decRef a).entry b = c.entry b := Function.update_of_ne h _ _

lemma decRef_entry (c : Cache) (a b : ℕ) :
    ((c.decRef a).entry b).key = (c.entry b).key ∧ ((c.decRef a).entry b).pkt = (c.entry b).pkt ∧
      ((c.decRef a).entry b).expiryTime = (c.entry b).expiryTime := by
  by_cases hba : b = a
  · simp [Cache.decRef, Cache.setEntry, hba]
  · rw [decRef_entry_ne hba]
    exact ⟨rfl, rfl, rfl⟩

lemma Loose.decRef (h : Loose c a) : Counted (c.decRef a) := by
  refine ⟨h.allocated, ?_, ?_⟩
  · intro key b hb
    rw [decRef_entry_ne (by rintro rfl; exact h.out key hb)]
    exact h.table key b hb
  · intro b hb hout
    by_cases hba : b = a
    · rw [hba, decRef_refCnt, h.count]
      rfl
    · rw [decRef_entry_ne hba]
      exact h.held b hb hba hout

lemma change_setEntry (key : ResKey) (e : CachedRes) (h : ∀ key', key' ≠ key → c.hrescache key' ≠ some a) :
    Change key c (c.setEntry a e) where
  running := rfl
  now := rfl
  maxTtl := rfl
  other := fun _ _ => rfl
  entry := by
    intro key' hk b hb
    exact Function.update_of_ne (by rintro rfl; exact h key' hk hb) _ _
  sound := id
  accepted := fun _ => rfl

lemma change_setRes (key : ResKey) (c : Cache) (a : Option ℕ) : Change key c (c.setRes key a) where
  running := rfl
  now := rfl
  maxTtl := rfl
  other := fun _ hk => Function.update_of_ne hk _ _
  entry := fun _ _ _ _ => rfl
  sound := id
  accepted := fun _ => rfl

lemma used_eq_false (h : c.running.count a = 0) : c.used a = false := by
  simpa [Cache.used] using List.count_eq_zero.mp h

lemma Loose.unref (h : Loose c a) (key : ResKey) : Counted (c.unref a) ∧ Change key c (c.unref a) := by
  have hch : Change key c (c.decRef a) := change_setEntry key _ (fun key' _ => h.out key')
  unfold Cache.unref
  by_cases hz : ((c.decRef a).entry a).refCnt = 0
  · simp only [if_pos hz]
    have hun : (c.decRef a).used a = false := by
      refine used_eq_false ?_
      rw [decRef_refCnt, h.count] at hz
      exact hz
    exact ⟨h.decRef.emit _, hch.emit hun⟩
  · simp only [if_neg hz]
    exact ⟨h.decRef, hch⟩

lemma Counted.loose (h : Counted c) (ha : c.hrescache key = some a) : Loose (c.setRes key none) a := by
  have hback : ∀ key' b, (c.setRes key none).hrescache key' = some b → key' ≠ key ∧ c.hrescache key' = some b := by
    intro key' b hb
    have hne : key' ≠ key := by
      rintro rfl
      simp [Cache.setRes] at hb
    exact ⟨hne, by simpa [Cache.setRes, hne] using hb⟩
  refine ⟨h.allocated, (h.table key a ha).1, ?_, ?_, ?_, (h.table key a ha).2.2⟩
  · intro key' b hb
    exact h.table key' b (hback key' b hb).2
  · intro b hb hba hout
    refine h.held b hb fun key' hk => ?_
    by_cases hkk : key' = key
    · rw [hkk, ha] at hk
      exact hba (Option.some.inj hk).symm
    · exact hout key' (by simpa [Cache.setRes, hkk] using hk)
  · intro key' hk
    obtain ⟨hne, hk'⟩ := hback key' a hk
    exact hne (h.key_eq hk' ha)

lemma setRes_none_counted (h : Counted c) (hk : c.hrescache key = none) : Counted (c.setRes key none) := by
  have : c.setRes key none = c := by
    unfold Cache.setRes
    rw [← hk, Function.update_eq_self]
  rw [this]
  exact h

lemma unref_hrescache (c : Cache) (a : ℕ) : (c.unref a).hrescache = c.hrescache := by
  unfold Cache.unref
  simp only
  split_ifs with hz
  · rfl
  · rfl

lemma unref_entry (c : Cache) (a b : ℕ) :
    ((c.unref a).entry b).pkt = (c.entry b).pkt ∧ ((c.unref a).entry b).expiryTime = (c.entry b).expiryTime := by
  unfold Cache.unref
  simp only
  split_ifs with hz
  · exact (decRef_entry c a b).2
  · exact (decRef_entry c a b).2

lemma evict_spec (h : Counted c) (key : ResKey) :
    Counted (c.evict key) ∧ Change key c (c.evict key) ∧ (c.evict key).hrescache key = none := by
  unfold Cache.evict
  cases hk : c.hrescache key with
  | none => exact ⟨setRes_none_counted h hk, change_setRes key c none, by simp [Cache.setRes]⟩
  | some a =>
    obtain ⟨h1, h2⟩ := (h.loose hk).unref key
    refine ⟨h1, (change_setRes key c none).trans h2, ?_⟩
    simp only [unref_hrescache]
    simp [Cache.setRes]

structure Ready (c : Cache) (key : ResKey) (a : ℕ) : Prop where
  counted : Counted c
  absent : c.hrescache key = none
  lt : a < c.brk
  out : ∀ key', c.hrescache key' ≠ some a
  unused : a ∉ c.running
  refCnt : (c.entry a).refCnt = 1

lemma Counted.allocEntry (h : Counted c) (hk : c.hrescache key = none) :
    Ready c.allocEntry.1 key c.allocEntry.2 ∧ Change key c c.allocEntry.1 := by
  have hout : ∀ key', c.hrescache key' ≠ some c.brk := fun key' hb => absurd (h.table key' _ hb).1 (lt_irrefl _)
  have hun : c.brk ∉ c.running := fun hb => absurd (h.allocated _ hb) (lt_irrefl _)
  have hother : ∀ b, b ≠ c.brk → c.allocEntry.1.entry b = c.entry b := fun b hb => Function.update_of_ne hb _ _
  have hch := change_setEntry key (.zeroed 1) (fun key' _ => hout key')
  refine ⟨⟨⟨?_, ?_, ?_⟩, hk, Nat.lt_succ_self _, hout, hun, ?_⟩, ⟨rfl, rfl, rfl, hch.other, hch.entry, id, fun _ => rfl⟩⟩
  · intro b hb
    exact Nat.lt_succ_of_lt (h.allocated b hb)
  · intro key' b hb
    rw [hother b (by rintro rfl; exact hout key' hb)]
    obtain ⟨h1, h2⟩ := h.table key' b hb
    exact ⟨Nat.lt_succ_of_lt h1, h2⟩
  · intro b hb hnot
    rw [hother b (by rintro rfl; exact hun hb)]
    exact h.held b hb hnot
  · simp [Cache.allocEntry, Cache.setEntry, CachedRes.zeroed]

lemma getEntry_spec (h : Counted c) (key : ResKey) :
    Ready (c.getEntry key).1 key (c.getEntry key).2 ∧ Change key c (c.getEntry key).1 := by
  unfold Cache.getEntry
  cases hk : c.hrescache key with
  | none => exact h.allocEntry hk
  | some a =>
    have hl := h.loose hk
    have habs : (c.setRes key none).hrescache key = none := by simp [Cache.setRes]
    have hch := change_setRes key c none
    by_cases hused : 1 < ((c.setRes key none).entry a).refCnt
    · simp only [if_pos hused]
      obtain ⟨h1, h2⟩ := hl.decRef.allocEntry (show ((c.setRes key none).decRef a).hrescache key = none from habs)
      exact ⟨h1, (hch.trans (change_setEntry key _ fun key' _ => hl.out key')).trans h2⟩
    · simp only [if_neg hused]
      have hzero : (c.setRes key none).running.count a = 0 := by
        have := hl.count
        omega
      have hnot : a ∉ c.running := List.count_eq_zero.mp hzero
      set c₁ := c.setRes key none
      have hother : ∀ b, b ≠ a → (c₁.resetEntry a).entry b = c₁.entry b := fun b hb => Function.update_of_ne hb _ _
      refine ⟨⟨⟨hl.allocated, ?_, ?_⟩, habs, hl.lt, hl.out, hnot, ?_⟩,
        (hch.trans (change_setEntry key _ fun key' _ => hl.out key')).emit (used_eq_false hzero)⟩
      · intro key' b hb
        rw [hother b (by rintro rfl; exact hl.out key' hb)]
        exact hl.table key' b hb
      · intro b hb hout
        have hba : b ≠ a := by
          rintro rfl
          exact hnot hb
        rw [hother b hba]
        exact hl.held b hb hba hout
      · have hcnt : ((c₁.resetEntry a).entry a).refCnt = (c₁.entry a).refCnt := by
          simp [Cache.resetEntry, Cache.emit, Cache.setEntry, CachedRes.zeroed]
        rw [hcnt, hl.count, hzero]

lemma Ready.store (h : Ready c key a) (expiryTime : ℕ) (pkt : Packet) :
    let e : CachedRes := { c.entry a with pkt := pkt, expiryTime := expiryTime, key := key }
    Counted ((c.setEntry a e).setRes key (some a)) ∧ Change key c ((c.setEntry a e).setRes key (some a)) := by
  intro e
  have hsame : ∀ b, b ≠ a → ((c.setEntry a e).setRes key (some a)).entry b = c.entry b := fun b hb => Function.update_of_ne hb _ _
  have hself : ((c.setEntry a e).setRes key (some a)).entry a = e := Function.update_self _ _ _
  have hcount : c.running.count a = 0 := List.count_eq_zero.mpr h.unused
  refine ⟨⟨h.counted.allocated, ?_, ?_⟩, (change_setEntry key e fun key' _ => h.out key').trans (change_setRes key _ _)⟩
  · intro key' b hb
    by_cases hkk : key' = key
    · rw [hkk] at hb
      obtain rfl : a = b := by simpa [Cache.setRes] using hb
      rw [hself]
      refine ⟨h.lt, hkk.symm, ?_⟩
      change (c.entry a).refCnt = c.running.count a + 1
      rw [h.refCnt, hcount]
    · have hb' : c.hrescache key' = some b := by simpa [Cache.setRes, Cache.setEntry, hkk] using hb
      rw [hsame b (by rintro rfl; exact h.out key' hb')]
      exact h.counted.table key' b hb'
  · intro b hb hout
    rw [hsame b (by rintro rfl; exact h.unused hb)]
    refine h.counted.held b hb fun key' hk => ?_
    have hkk : key' ≠ key := by
      rintro rfl
      rw [h.absent] at hk
      cases hk
    exact hout key' (by simpa [Cache.setRes, Cache.setEntry, hkk] using hk)

lemma updateResCache_spec (h : Counted c) (key : ResKey) (status : ℕ) (setExpiry : Bool) (pkt : Packet) :
    Counted (c.updateResCache key status setExpiry pkt) ∧ Change key c (c.updateResCache key status setExpiry pkt) ∧
      ∀ a, (c.updateResCache key status setExpiry pkt).hrescache key = some a →
        ((c.updateResCache key status setExpiry pkt).entry a).pkt = packetDup pkt ∧
        ((c.updateResCache key status setExpiry pkt).entry a).expiryTime =
          if setExpiry then c.now + c.entryTtl status setExpiry pkt * 1000 else 0x7FFFFFFF * 1000 := by
  have hfirst : ∃ c₁, c₁ = (if status ≠ 0 then c.evict key else c) ∧ Counted c₁ ∧ Change key c c₁ := by
    refine ⟨_, rfl, ?_⟩
    by_cases hs : status ≠ 0
    · rw [if_pos hs]
      exact ⟨(evict_spec h key).1, (evict_spec h key).2.1⟩
    · rw [if_neg hs]
      exact ⟨h, .refl key c⟩
  obtain ⟨c₁, hc₁, hcnt₁, hch₁⟩ := hfirst
  have httl : c₁.entryTtl status setExpiry pkt = c.entryTtl status setExpiry pkt := by
    unfold Cache.entryTtl
    rw [hch₁.maxTtl]
  unfold Cache.updateResCache
  simp only [← hc₁, httl]
  by_cases hz : c.entryTtl status setExpiry pkt = 0
  · simp only [if_pos hz]
    obtain ⟨h1, h2, h3⟩ := evict_spec hcnt₁ key
    refine ⟨h1, hch₁.trans h2, ?_⟩
    intro a ha
    rw [h3] at ha
    cases ha
  · simp only [if_neg hz]
    obtain ⟨hready, hch₂⟩ := getEntry_spec hcnt₁ key
    obtain ⟨h1, h2⟩ := hready.store
      (if setExpiry then (c₁.getEntry key).1.now + c.entryTtl status setExpiry pkt * 1000 else 0x7FFFFFFF * 1000) (packetDup pkt)
    refine ⟨h1, (hch₁.trans hch₂).trans h2, ?_⟩
    intro a ha
    obtain rfl : (c₁.getEntry key).2 = a := by simpa [Cache.setRes] using ha
    rw [hch₂.now, hch₁.now]
    simp [Cache.setRes, Cache.setEntry]

lemma minTtl_le_of_mem {ans : List Rr} {rr : Rr} (h : rr ∈ ans) : minTtl ans ≤ rr.ttl := by
  have hle : ∀ (l : List Rr) (m : ℕ),
      l.foldl (fun ttl rr => if rr.ttl < ttl then rr.ttl else ttl) m ≤ m ∧
      ∀ r ∈ l, l.foldl (fun ttl rr => if rr.ttl < ttl then rr.ttl else ttl) m ≤ r.ttl := by
    intro l
    induction l with
    | nil => simp
    | cons x l ih =>
      intro m
      obtain ⟨h1, h2⟩ := ih (if x.ttl < m then x.ttl else m)
      have hx : (if x.ttl < m then x.ttl else m) ≤ m ∧ (if x.ttl < m then x.ttl else m) ≤ x.ttl := by
        split_ifs <;> omega
      refine ⟨h1.trans hx.1, ?_⟩
      intro r hr
      rcases List.mem_cons.mp hr with rfl | hr
      · exact h1.trans hx.2
      · exact h2 r hr
  exact (hle ans _).2 rr h

/-- The entry has the latest packet that was accepted for its key, and is current for as long as
that may be answered. -/
def Stored (log : List Event) (key : ResKey) (e : CachedRes) : Prop :=
  ∃ a, lastAccepted log key = some a ∧ e.pkt = packetDup a.pkt ∧ (a.source = .response → a.pkt.tc = false) ∧
    ∀ t < e.expiryTime, a.Timely t

structure Inv (c : Cache) : Prop where
  counted : Counted c
  stored : ∀ key a, c.hrescache key = some a → Stored c.log key (c.entry a)
  sound : LogSound c.log

/-- The status with which `update_res_cache` is called for a packet. -/
def Acceptance.status (a : Acceptance) : ℕ := if a.source = .response then a.pkt.rcode else 0

/-- `set_expiry` of that call. -/
def Acceptance.setExpiry (a : Acceptance) : Bool := decide (a.source ≠ .added false)

lemma entryTtl_le_max (c : Cache) (status : ℕ) (setExpiry : Bool) (pkt : Packet) :
    c.entryTtl status setExpiry pkt ≤ c.cacheMaxTtl := by
  unfold Cache.entryTtl
  generalize (if setExpiry then _ else _ : ℕ) = ttl
  simp only
  split_ifs with h
  · exact le_rfl
  · exact not_lt.mp h

lemma entryTtl_le (c : Cache) (status : ℕ) (pkt : Packet) :
    c.entryTtl status true pkt ≤ if pkt.ans.length = 0 ∨ status ≠ 0 then invalidTtl else minTtl pkt.ans := by
  unfold Cache.entryTtl
  simp only [if_true]
  generalize (if pkt.ans.length = 0 ∨ status ≠ 0 then _ else _ : ℕ) = ttl
  split_ifs with h
  · exact h.le
  · exact le_rfl

lemma entryTtl_timely {a : Acceptance} (hmax : a.maxTtl = c.cacheMaxTtl) (htime : a.time = c.now) {t : ℕ}
    (ht : t < if a.setExpiry then c.now + c.entryTtl a.status a.setExpiry a.pkt * 1000 else 0x7FFFFFFF * 1000) :
    a.Timely t := by
  unfold Acceptance.Timely
  by_cases hs : a.source = .added false
  · rw [if_pos hs]
    have : a.setExpiry = false := by simp [Acceptance.setExpiry, hs]
    simpa [this] using ht
  · rw [if_neg hs]
    have hset : a.setExpiry = true := by simp [Acceptance.setExpiry, hs]
    have hinv : (a.pkt.ans.length = 0 ∨ a.status ≠ 0) ↔ a.Invalid := by
      unfold Acceptance.status Acceptance.Invalid
      by_cases hr : a.source = .response
      · simp [hr]
      · simp [hr]
    rw [hset, if_pos rfl] at ht
    have h1 := entryTtl_le_max c a.status true a.pkt
    have h2 := entryTtl_le c a.status a.pkt
    rw [hmax, htime]
    have hbound : ∀ m, c.entryTtl a.status true a.pkt ≤ m → t < c.now + m * 1000 := fun m hm =>
      lt_of_lt_of_le ht (Nat.add_le_add_left (Nat.mul_le_mul_right 1000 hm) _)
    refine ⟨hbound _ h1, ?_, ?_⟩
    · intro hi
      rw [if_pos (hinv.mpr hi)] at h2
      exact hbound _ h2
    · intro hi rr hrr
      rw [if_neg (fun hc => hi (hinv.mp hc))] at h2
      exact hbound _ (h2.trans (minTtl_le_of_mem hrr))

lemma accept_inv (h : Inv c) (key : ResKey) {a : Acceptance} (hmax : a.maxTtl = c.cacheMaxTtl)
    (htime : a.time = c.now) (htc : a.source = .response → a.pkt.tc = false) :
    Inv ((c.updateResCache key a.status a.setExpiry a.pkt).emit (.accepted key a)) := by
  obtain ⟨hcnt, hch, hnew⟩ := updateResCache_spec h.counted key a.status a.setExpiry a.pkt
  set c' := c.updateResCache key a.status a.setExpiry a.pkt
  refine ⟨hcnt.emit _, ?_, (hch.sound h.sound).snoc trivial⟩
  intro key' b hb
  change Stored (c'.log ++ [.accepted key a]) key' (c'.entry b)
  by_cases hkk : key' = key
  · subst hkk
    obtain ⟨hpkt, hexp⟩ := hnew b hb
    have hlast : lastAccepted (c'.log ++ [.accepted key' a]) key' = some a := by
      have : Event.stored key' (.accepted key' a) = some a := by
        simp only [Event.stored, true_and]
        refine if_pos ?_
        rintro ⟨hr, htrue⟩
        rw [htc hr] at htrue
        cases htrue
      rw [lastAccepted_snoc, this]
      rfl
    refine ⟨a, hlast, hpkt, htc, ?_⟩
    intro t ht
    rw [hexp] at ht
    exact entryTtl_timely hmax htime ht
  · have hb' : c.hrescache key' = some b := by
      rw [← hch.other key' hkk]
      exact hb
    obtain ⟨acc, hlast, hrest⟩ := h.stored key' b hb'
    rw [hch.entry key' hkk b hb']
    refine ⟨acc, ?_, hrest⟩
    have : Event.stored key' (.accepted key a) = none := by
      simp only [Event.stored]
      exact if_neg fun hk => hkk hk.1.symm
    rw [lastAccepted_snoc, this, Option.none_or, hch.accepted]
    exact hlast

lemma Inv.of_change {c' : Cache} (h : Inv c) (hch : Change key c c') (hcnt : Counted c')
    (hkey : ∀ a, c'.hrescache key = some a → c.hrescache key = some a ∧ (c'.entry a).pkt = (c.entry a).pkt ∧
      (c'.entry a).expiryTime = (c.entry a).expiryTime) : Inv c' := by
  refine ⟨hcnt, ?_, hch.sound h.sound⟩
  intro key' a ha
  by_cases hkk : key' = key
  · subst hkk
    obtain ⟨hold, hpkt, hexp⟩ := hkey a ha
    obtain ⟨acc, hlast, hrest⟩ := h.stored key' a hold
    refine ⟨acc, by rw [hch.accepted]; exact hlast, ?_⟩
    rw [hpkt, hexp]
    exact hrest
  · rw [hch.other key' hkk] at ha
    obtain ⟨acc, hlast, hrest⟩ := h.stored key' a ha
    rw [hch.entry key' hkk a ha]
    exact ⟨acc, by rw [hch.accepted]; exact hlast, hrest⟩

lemma evict_inv (h : Inv c) (key : ResKey) : Inv (c.evict key) := by
  obtain ⟨hcnt, hch, hnone⟩ := evict_spec h.counted key
  refine h.of_change hch hcnt fun a ha => ?_
  rw [hnone] at ha
  cases ha

lemma hold_inv (h : Inv c) (ha : c.hrescache key = some a) :
    Inv { c.setEntry a { c.entry a with refCnt := (c.entry a).refCnt + 1 } with running := a :: c.running } := by
  set c' : Cache := { c.setEntry a { c.entry a with refCnt := (c.entry a).refCnt + 1 } with running := a :: c.running }
  obtain ⟨hlt, hkey, hcnt⟩ := h.counted.table key a ha
  have hself : c'.entry a = { c.entry a with refCnt := (c.entry a).refCnt + 1 } := Function.update_self _ _ _
  have hother : ∀ b, b ≠ a → c'.entry b = c.entry b := fun b hb => Function.update_of_ne hb _ _
  have hcount : ∀ b, b ≠ a → c'.running.count b = c.running.count b := fun b hb => List.count_cons_of_ne hb.symm
  refine ⟨⟨?_, ?_, ?_⟩, ?_, h.sound⟩
  · intro b hb
    rcases List.mem_cons.mp hb with rfl | hb
    · exact hlt
    · exact h.counted.allocated b hb
  · intro key' b hb
    by_cases hba : b = a
    · rw [hba] at hb ⊢
      rw [hself]
      refine ⟨hlt, ?_, ?_⟩
      · exact (h.counted.table key' a hb).2.1
      · change (c.entry a).refCnt + 1 = (a :: c.running).count a + 1
        rw [List.count_cons_self, hcnt]
    · rw [hother b hba, hcount b hba]
      exact h.counted.table key' b hb
  · intro b hb hout
    have hba : b ≠ a := by
      rintro rfl
      exact hout key ha
    rw [hother b hba, hcount b hba]
    exact h.counted.held b ((List.mem_cons.mp hb).resolve_left hba) hout
  · intro key' b hb
    by_cases hba : b = a
    · rw [hba] at hb ⊢
      rw [hself]
      exact h.stored key' a hb
    · rw [hother b hba]
      exact h.stored key' b hb

lemma initResKey_eq {name : Bytes} {type : ℕ} (hn : name.length < maxHostname) (ht : type < 0xFFFF) :
    initResKey type name = ⟨type, lowerAll name ++ List.replicate (maxHostname - name.length) 0⟩ := by
  have htake : name.take (maxHostname - 1) = name := List.take_of_length_le (by omega)
  have hmod : type % 2 ^ 16 = type := Nat.mod_eq_of_lt (by omega)
  simp only [initResKey, htake, hmod]

lemma startQuery_inv (h : Inv c) (name : Bytes) (type : ℕ) (cb : Bool) : Inv (c.startQuery name type cb) := by
  unfold Cache.startQuery
  by_cases hbad : name.length = 0 ∨ maxHostname ≤ name.length ∨ type = 0 ∨ 0xFFFF ≤ type
  · simp only [if_pos hbad]
    exact h
  simp only [if_neg hbad]
  push Not at hbad
  cases hk : c.hrescache (initResKey type name) with
  | none => exact h
  | some a =>
    by_cases hnow : c.now < (c.entry a).expiryTime
    · simp only [if_pos hnow]
      have hhold := hold_inv h hk
      cases cb with
      | false => exact hhold
      | true =>
        obtain ⟨acc, hlast, hpkt, htc, htime⟩ := h.stored _ a hk
        rw [initResKey_eq hbad.2.1 hbad.2.2.2] at hlast
        refine ⟨hhold.counted.emit _, ?_, hhold.sound.snoc ?_⟩
        · intro key b hb
          obtain ⟨acc', hlast', hrest⟩ := hhold.stored key b hb
          refine ⟨acc', ?_, hrest⟩
          rw [← hlast']
          exact lastAccepted_snoc _ _ _
        · exact ⟨acc, hlast, hpkt, by rw [hpkt]; rfl, htc, htime _ hnow⟩
    · simp only [if_neg hnow]
      exact evict_inv h _

lemma callbackReturn_inv (h : Inv c) (a : ℕ) : Inv (c.callbackReturn a) := by
  unfold Cache.callbackReturn
  by_cases hin : a ∈ c.running
  swap
  · rw [if_neg hin]
    exact h
  rw [if_pos hin]
  set c₁ : Cache := { c with running := c.running.erase a } with hc₁
  have hself : c.running.count a = c₁.running.count a + 1 := by
    have hpos : 0 < c.running.count a := List.count_pos_iff.mpr hin
    change _ = (c.running.erase a).count a + 1
    rw [List.count_erase_self]
    omega
  have hother : ∀ b, b ≠ a → c₁.running.count b = c.running.count b := fun b hb => List.count_erase_of_ne hb
  have halloc : ∀ b ∈ c₁.running, b < c₁.brk := fun b hb => h.counted.allocated b (List.mem_of_mem_erase hb)
  have hstored : ∀ {key : ResKey}, Change key c₁ (c₁.unref a) →
      ∀ key b, (c₁.unref a).hrescache key = some b → Stored (c₁.unref a).log key ((c₁.unref a).entry b) := by
    intro key hch key' b hb
    rw [unref_hrescache] at hb
    obtain ⟨acc, hlast, hpkt, htc, htime⟩ := h.stored key' b hb
    obtain ⟨h1, h2⟩ := unref_entry c₁ a b
    exact ⟨acc, (hch.accepted key').trans hlast, h1.trans hpkt, htc, by rw [h2]; exact htime⟩
  by_cases hout : ∀ key, c.hrescache key ≠ some a
  · have hl : Loose c₁ a := by
      refine ⟨halloc, h.counted.allocated a hin, ?_, ?_, hout, ?_⟩
      · intro key b hb
        rw [hother b (by rintro rfl; exact hout key hb)]
        exact h.counted.table key b hb
      · intro b hb hba hb'
        rw [hother b hba]
        exact h.counted.held b (List.mem_of_mem_erase hb) hb'
      · rw [← hself]
        exact h.counted.held a hin hout
    obtain ⟨hcnt, hch⟩ := hl.unref ⟨0, []⟩
    exact ⟨hcnt, hstored hch, hch.sound h.sound⟩
  · push Not at hout
    obtain ⟨key, hkey⟩ := hout
    have hcnt := (h.counted.table key a hkey).2.2
    have hun : c₁.unref a = c₁.decRef a := by
      unfold Cache.unref
      refine if_neg ?_
      rw [decRef_refCnt]
      change ¬ (c.entry a).refCnt - 1 = 0
      omega
    have hch : Change key c₁ (c₁.unref a) := by
      rw [hun]
      exact change_setEntry key _ fun key' hne hk => hne (h.counted.key_eq hk hkey)
    refine ⟨?_, hstored hch, hch.sound h.sound⟩
    rw [hun]
    refine ⟨halloc, ?_, ?_⟩
    · intro key' b hb
      by_cases hba : b = a
      · rw [hba] at hb ⊢
        obtain ⟨h1, h2, h3⟩ := h.counted.table key' a hb
        refine ⟨h1, ?_, ?_⟩
        · rw [(decRef_entry c₁ a a).1]
          exact h2
        · rw [decRef_refCnt]
          change (c.entry a).refCnt - 1 = c₁.running.count a + 1
          omega
      · rw [decRef_entry_ne hba]
        change b < c.brk ∧ (c.entry b).key = key' ∧ (c.entry b).refCnt = c₁.running.count b + 1
        rw [hother b hba]
        exact h.counted.table key' b hb
    · intro b hb hb'
      have hba : b ≠ a := by
        rintro rfl
        exact hb' key hkey
      rw [decRef_entry_ne hba]
      change (c.entry b).refCnt = c₁.running.count b
      rw [hother b hba]
      exact h.counted.held b (List.mem_of_mem_erase hb) hb'

lemma saveResponse_inv (h : Inv c) (key : ResKey) (pkt : Packet) : Inv (c.saveResponse key pkt) := by
  unfold Cache.saveResponse
  cases htc : pkt.tc with
  | false =>
    simp only [if_true]
    exact accept_inv h key (a := ⟨pkt, .response, c.cacheMaxTtl, c.now⟩) rfl rfl fun _ => htc
  | true =>
    simp only [Bool.true_eq_false, if_false]
    refine ⟨h.counted.emit _, ?_, h.sound.snoc trivial⟩
    intro key' a ha
    obtain ⟨acc, hlast, hrest⟩ := h.stored key' a ha
    refine ⟨acc, ?_, hrest⟩
    have : Event.stored key' (.accepted key ⟨pkt, .response, c.cacheMaxTtl, c.now⟩) = none := by
      simp [Event.stored, htc]
    change lastAccepted (c.log ++ [_]) key' = some acc
    rw [lastAccepted_snoc, this]
    exact hlast

lemma addEntry_inv (h : Inv c) (pkt : Packet) (setTtl : Bool) : Inv (c.addEntry pkt setTtl) := by
  unfold Cache.addEntry
  by_cases hqr : pkt.qr = false
  · rw [if_pos hqr]
    exact h
  rw [if_neg hqr]
  cases Cache.packetKey pkt with
  | none => exact h
  | some key =>
    have hacc := accept_inv h key (a := ⟨pkt, .added setTtl, c.cacheMaxTtl, c.now⟩) rfl rfl fun hr => by cases hr
    cases setTtl with
    | true => exact hacc
    | false => exact hacc

lemma step_inv (c : Cache) (i : Input) (h : Inv c) : Inv (step c i) := by
  cases i with
  | startQuery name type cb => exact startQuery_inv h name type cb
  | callbackReturn a => exact callbackReturn_inv h a
  | response name type pkt => exact saveResponse_inv h _ pkt
  | addEntry pkt setTtl => exact addEntry_inv h pkt setTtl
  | setSettings cacheMaxTtl => exact ⟨⟨h.counted.allocated, h.counted.table, h.counted.held⟩, h.stored, h.sound⟩
  | clock now => exact ⟨⟨h.counted.allocated, h.counted.table, h.counted.held⟩, h.stored, h.sound⟩

lemma create_inv (cacheMaxTtl now : ℕ) : Inv (create cacheMaxTtl now) := by
  refine ⟨⟨by simp [create], by simp [create], by simp [create]⟩, by simp [create], ?_⟩
  intro pre e post heq
  exact absurd heq (by simp [create])

/-- The cache answers with the latest packet accepted for a name while it is current, and keeps its
entries while callbacks use them, in every run. -/
theorem cache_sound (cacheMaxTtl now : ℕ) (is : List Input) : LogSound (run step (create cacheMaxTtl now) is).log :=
  (run_invariant step_inv (create_inv cacheMaxTtl now) is).sound

/-- A truncated packet that was added is answered; one with an error is answered for longer than an
error of a name server is; and one that was added without a TTL does not expire. -/
theorem added_packets_answered :
    let rr : Rr := ⟨lit "a.b", 1, 1, 200, []⟩
    let truncated : Packet := ⟨true, true, 0, [], [rr], [], []⟩
    let failed : Packet := ⟨true, false, 3, [], [rr], [], []⟩
    Event.delivered (lit "A.b") 1 0 truncated 0 ∈
        (run step (create 300 0) [.addEntry truncated true, .startQuery (lit "A.b") 1 true]).log ∧
      Event.delivered (lit "a.b") 1 3 failed 100000 ∈
        (run step (create 300 0) [.addEntry failed true, .clock 100000, .startQuery (lit "a.b") 1 true]).log ∧
      Event.delivered (lit "a.b") 1 0 truncated 400000 ∈
        (run step (create 300 0) [.addEntry truncated false, .clock 400000, .startQuery (lit "a.b") 1 true]).log := by
  intro rr truncated failed
  refine ⟨by decide +kernel, by decide +kernel, by decide +kernel⟩

end PjProject.DnsCache
