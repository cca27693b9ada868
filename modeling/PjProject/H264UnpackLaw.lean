import PjProject.H264Unpack

/-!
# Only whole units in a picture

Between the packets of two units the bitstream is a row of whole units, with an
unfinished one behind it only after a loss (`Kept`); while the fragments of a unit
come in, it ends in the fragments so far (`Opened`). A loss leads from the second
to the first, and what the next packet does decides whether the unfinished unit
goes away or stays.
-/
namespace PjProject.H264

open Transition

lemma fu_type (octet : UInt8) : ((octet &&& 0x60) ||| nalTypeFuA) &&& 0x1F = nalTypeFuA :=
  eq_of_bits fun i hi => by interval_cases i <;> simp [nalTypeFuA]

section Header

variable {octet start stop : UInt8}

lemma fu_start (hs : start = 0x80 ∨ start = 0) (ht : stop = 0x40 ∨ stop = 0) :
    (start ||| stop ||| (octet &&& 0x1F)) &&& 0x80 = start := by
  rcases hs with rfl | rfl <;> rcases ht with rfl | rfl <;>
    exact eq_of_bits fun i hi => by interval_cases i <;> simp

lemma fu_stop (hs : start = 0x80 ∨ start = 0) (ht : stop = 0x40 ∨ stop = 0) :
    (start ||| stop ||| (octet &&& 0x1F)) &&& 0x40 = stop := by
  rcases hs with rfl | rfl <;> rcases ht with rfl | rfl <;>
    exact eq_of_bits fun i hi => by interval_cases i <;> simp

lemma fu_octet (hs : start = 0x80 ∨ start = 0) (ht : stop = 0x40 ∨ stop = 0) (ho : octet &&& 0x80 = 0) :
    ((((octet &&& 0x60) ||| nalTypeFuA) &&& 0x60) >>> 5) <<< 5 |||
      ((start ||| stop ||| (octet &&& 0x1F)) &&& 0x1F) = octet := by
  have h7 : octet.toBitVec[7] = false := by
    have hbit := congrArg (fun c : UInt8 => c.toBitVec.getLsbD 7) ho
    simpa using hbit
  rcases hs with rfl | rfl <;> rcases ht with rfl | rfl <;>
    exact eq_of_bits fun i hi => by interval_cases i <;> simp [nalTypeFuA, h7]

lemma receive_fragment (cfg : UnpackCfg) (s : Unpack) (chunk : Bytes) (hs : start = 0x80 ∨ start = 0)
    (ht : stop = 0x40 ∨ stop = 0) (ho : octet &&& 0x80 = 0) :
    receive cfg s (some (fragment octet start stop chunk)) =
      if cfg.bitsLen - s.resetSync.bits.length < chunk.length + 2 + cfg.unpackNalStart then
        { s.resetSync with prevLost := true }
      else if start = 0 ∧ s.resetSync.prevLost then
        { s.resetSync with bits := s.resetSync.bits.take s.resetSync.lastSyncPos }
      else
        let bits := s.resetSync.bits ++ (if start = 0 then [] else cfg.nalStartCode ++ [octet]) ++ chunk
        { bits := bits, prevLost := false
          lastSyncPos := if stop = 0 then s.resetSync.lastSyncPos else bits.length } := by
  have htype : nalType (fragment octet start stop chunk) = nalTypeFuA := fu_type octet
  simp only [receive, unpacketize]
  rw [if_neg (by simp [fragment]), htype, if_neg (by decide), if_neg (by decide), if_pos rfl]
  generalize s.resetSync = s
  have hlength : (fragment octet start stop chunk).length = chunk.length + 2 := rfl
  have hfirst : (fragment octet start stop chunk).getD 0 0 = (octet &&& 0x60) ||| nalTypeFuA := rfl
  have hheader : (fragment octet start stop chunk).getD 1 0 = start ||| stop ||| (octet &&& 0x1F) := rfl
  have hrest : (fragment octet start stop chunk).drop 2 = chunk := rfl
  simp only [unpackFuA, hlength, hfirst, hheader, hrest, fu_start hs ht, fu_stop hs ht, fu_octet hs ht ho]
  by_cases hroom : cfg.bitsLen - s.bits.length < chunk.length + 2 + cfg.unpackNalStart
  · rw [if_pos hroom, if_pos hroom]
  · rw [if_neg hroom, if_neg hroom]
    rcases hs with rfl | rfl
    · rcases ht with rfl | rfl <;> simp
    · by_cases hlost : s.prevLost = true
      · simp [hlost]
      · rcases ht with rfl | rfl <;> simp [hlost]

end Header

structure Kept (cfg : UnpackCfg) (s : Unpack) (nals : List Bytes) (junk : Bytes) : Prop where
  bits : s.bits = cfg.assemble nals ++ junk
  sync : s.bits ≠ [] → s.lastSyncPos = (cfg.assemble nals).length
  lost : junk ≠ [] → s.prevLost = true

structure Opened (cfg : UnpackCfg) (s : Unpack) (nals : List Bytes) (octet : UInt8) (part : Bytes) : Prop where
  bits : s.bits = cfg.assemble nals ++ (cfg.nalStartCode ++ octet :: part)
  sync : s.lastSyncPos = (cfg.assemble nals).length
  got : s.prevLost = false

@[simp] lemma resetSync_bits (s : Unpack) : s.resetSync.bits = s.bits := by
  unfold Unpack.resetSync
  split_ifs <;> rfl

@[simp] lemma resetSync_prevLost (s : Unpack) : s.resetSync.prevLost = s.prevLost := by
  unfold Unpack.resetSync
  split_ifs <;> rfl

lemma assemble_append (cfg : UnpackCfg) (nals more : List Bytes) :
    cfg.assemble (nals ++ more) = cfg.assemble nals ++ cfg.assemble more := List.flatMap_append

lemma assemble_one (cfg : UnpackCfg) (nal : Bytes) : cfg.assemble [nal] = cfg.nalStartCode ++ nal :=
  List.flatMap_singleton ..

variable {cfg : UnpackCfg} {s : Unpack} {nals : List Bytes} {junk : Bytes}

lemma Kept.sync_reset (h : Kept cfg s nals junk) : s.resetSync.lastSyncPos = (cfg.assemble nals).length := by
  unfold Unpack.resetSync
  split_ifs with hnil
  · have hlen := congrArg List.length h.bits
    rw [hnil, List.length_append] at hlen
    change 0 = _
    omega
  · exact h.sync fun hc => hnil (by rw [hc]; rfl)

lemma Kept.settled (h : Kept cfg s nals junk) (hs : ¬ s.Unfinished) : junk = [] := by
  by_cases hnil : s.bits = []
  · rw [h.bits] at hnil
    exact (List.append_eq_nil_iff.mp hnil).2
  · have hlen : s.bits.length = s.lastSyncPos := by
      by_contra hc
      exact hs ⟨hnil, hc⟩
    rw [h.sync hnil, h.bits, List.length_append] at hlen
    exact List.length_eq_zero_iff.mp (by omega)

lemma Kept.lose (h : Kept cfg s nals junk) : Kept cfg { s with prevLost := true } nals junk :=
  ⟨h.bits, h.sync, fun _ => rfl⟩

lemma Kept.reset (h : Kept cfg s nals junk) : Kept cfg s.resetSync nals junk :=
  ⟨by rw [resetSync_bits, h.bits], fun _ => h.sync_reset, by rw [resetSync_prevLost]; exact h.lost⟩

variable {part : Bytes}

lemma Opened.lose {octet : UInt8} (h : Opened cfg s nals octet part) :
    Kept cfg { s with prevLost := true } nals (cfg.nalStartCode ++ octet :: part) :=
  ⟨h.bits, fun _ => h.sync, fun _ => rfl⟩

lemma Opened.bits_ne_nil {octet : UInt8} (h : Opened cfg s nals octet part) : s.bits ≠ [] := by
  rw [h.bits]
  simp

lemma Opened.reset {octet : UInt8} (h : Opened cfg s nals octet part) : s.resetSync = s :=
  if_neg fun hl => h.bits_ne_nil (List.length_eq_zero_iff.mp hl)

variable {octet : UInt8}

lemma stopBit (rest : List Bytes) :
    (if rest = [] then (0x40 : UInt8) else 0) = 0x40 ∨ (if rest = [] then (0x40 : UInt8) else 0) = 0 := by
  split_ifs
  · exact .inl rfl
  · exact .inr rfl

lemma Kept.continuation (h : Kept cfg s nals junk) (hlost : s.prevLost = true) {stop : UInt8}
    (ht : stop = 0x40 ∨ stop = 0) (ho : octet &&& 0x80 = 0) (chunk : Bytes) :
    ∃ junk', Kept cfg (receive cfg s (some (fragment octet 0 stop chunk))) nals junk' ∧
      (receive cfg s (some (fragment octet 0 stop chunk))).prevLost = true := by
  rw [receive_fragment cfg s chunk (.inr rfl) ht ho]
  by_cases hroom : cfg.bitsLen - s.resetSync.bits.length < chunk.length + 2 + cfg.unpackNalStart
  · rw [if_pos hroom]
    exact ⟨junk, h.reset.lose, rfl⟩
  · rw [if_neg hroom, if_pos ⟨rfl, by simpa using hlost⟩]
    refine ⟨[], ⟨?_, fun _ => h.sync_reset, fun hc => absurd rfl hc⟩, by simpa using hlost⟩
    rw [h.sync_reset, resetSync_bits, h.bits, List.append_nil, List.take_left]

lemma Kept.continuations (ho : octet &&& 0x80 = 0) (chunks : List Bytes) :
    ∀ {s : Unpack} {junk : Bytes} (got : List Bool), Kept cfg s nals junk → s.prevLost = true →
      ∃ junk', Kept cfg (run (receive cfg) s (deliver (fragments octet 0 chunks) got)) nals junk' := by
  induction chunks with
  | nil => exact fun got h _ => ⟨_, by simpa [fragments, deliver] using h⟩
  | cons chunk rest ih =>
    intro s junk got h hlost
    cases got with
    | nil => exact ⟨_, by simpa [deliver] using h⟩
    | cons g got =>
      cases g with
      | false => exact ih got h.lose rfl
      | true =>
        obtain ⟨junk', h', hlost'⟩ := h.continuation hlost (stopBit rest) ho chunk
        exact ih got h' hlost'

lemma Opened.continuations (ho : octet &&& 0x80 = 0) (chunks : List Bytes) :
    ∀ {s : Unpack} {part : Bytes} (got : List Bool), Opened cfg s nals octet part → chunks ≠ [] →
      got.length = chunks.length →
      ∃ more junk, more.Sublist (if got.all id then [octet :: (part ++ chunks.flatten)] else []) ∧
        Kept cfg (run (receive cfg) s (deliver (fragments octet 0 chunks) got)) (nals ++ more) junk := by
  induction chunks with
  | nil => exact fun _ _ hne => absurd rfl hne
  | cons chunk rest ih =>
    intro s part got h _ hlen
    cases got with
    | nil => cases hlen
    | cons g got =>
      cases g with
      | false =>
        obtain ⟨junk, hk⟩ := Kept.continuations ho rest got h.lose rfl
        exact ⟨[], junk, by simp, by rw [List.append_nil]; exact hk⟩
      | true =>
        have hrun : run (receive cfg) s (deliver (fragments octet 0 (chunk :: rest)) (true :: got)) =
            run (receive cfg) (receive cfg s (some (fragment octet 0 (if rest = [] then 0x40 else 0) chunk)))
              (deliver (fragments octet 0 rest) got) := rfl
        rw [hrun, receive_fragment cfg s chunk (.inr rfl) (stopBit rest) ho, h.reset]
        by_cases hroom : cfg.bitsLen - s.bits.length < chunk.length + 2 + cfg.unpackNalStart
        · rw [if_pos hroom]
          obtain ⟨junk, hk⟩ := Kept.continuations ho rest got h.lose rfl
          exact ⟨[], junk, by simp, by rw [List.append_nil]; exact hk⟩
        · have hgot : ¬ ((0 : UInt8) = 0 ∧ s.prevLost = true) := by rw [h.got]; simp
          have hbits : s.bits ++ [] ++ chunk =
              cfg.assemble nals ++ (cfg.nalStartCode ++ octet :: (part ++ chunk)) := by
            simp [h.bits, List.append_assoc]
          rw [if_neg hroom, if_neg hgot, if_pos rfl]
          by_cases hlast : rest = []
          · -- the end bit: the unit is whole and becomes the last sync point
            subst hlast
            obtain rfl : got = [] := List.length_eq_zero_iff.mp (by simpa using hlen)
            refine ⟨[octet :: (part ++ chunk)], [], by simp, ?_, fun _ => ?_, fun hc => absurd rfl hc⟩
            · rw [assemble_append, assemble_one]
              exact hbits.trans (List.append_nil _).symm
            · rw [assemble_append, assemble_one]
              exact congrArg List.length hbits
          · rw [if_neg hlast]
            have hopen : Opened cfg ⟨s.lastSyncPos, false, s.bits ++ [] ++ chunk⟩ nals octet (part ++ chunk) :=
              ⟨hbits, h.sync, rfl⟩
            obtain ⟨more, junk, hmore, hk⟩ := ih got hopen hlast (by simpa using hlen)
            exact ⟨more, junk, by simpa [List.append_assoc] using hmore, hk⟩

def Leaves (cfg : UnpackCfg) (s' : Unpack) (nals whole : List Bytes) : Prop :=
  ∃ more junk, more.Sublist whole ∧ Kept cfg s' (nals ++ more) junk

lemma Kept.leaves (h : Kept cfg s nals junk) (whole : List Bytes) : Leaves cfg s nals whole :=
  ⟨[], junk, List.nil_sublist _, by rw [List.append_nil]; exact h⟩

lemma Kept.admitted (h : Kept cfg s nals junk) {p : Bytes} (hok : Admitted cfg s (some p)) (hlen : ¬ p.length < 2)
    (hnew : isContinuation p = false)
    (hroom : ¬ cfg.bitsLen - s.resetSync.bits.length < p.length + cfg.unpackNalStart) : junk = [] := by
  refine h.settled fun hs => ?_
  rw [resetSync_bits] at hroom
  rcases hok hs p rfl with hl | hc | hr
  · exact hlen hl
  · rw [hnew] at hc
    cases hc
  · exact hroom hr

lemma receive_fuA {chunks : List Bytes} (h : Kept cfg s nals junk) (ho : octet &&& 0x80 = 0)
    (h2 : 2 ≤ chunks.length) {got : List Bool} (hlen : got.length = chunks.length)
    (hok : Guarded (receive cfg) (Admitted cfg) s (deliver (fragments octet 0x80 chunks) got)) :
    Leaves cfg (run (receive cfg) s (deliver (fragments octet 0x80 chunks) got)) nals
      (if got.all id then [octet :: chunks.flatten] else []) := by
  obtain ⟨chunk, rest, rfl⟩ := List.exists_cons_of_length_pos (show 0 < chunks.length by omega)
  obtain ⟨g, got, rfl⟩ := List.exists_cons_of_length_pos (show 0 < got.length by omega)
  have hrest : rest ≠ [] := by
    rintro rfl
    simp at h2
  cases g with
  | false =>
    obtain ⟨junk', hk⟩ := Kept.continuations ho rest got h.lose rfl
    exact hk.leaves _
  | true =>
    have hrun : run (receive cfg) s (deliver (fragments octet 0x80 (chunk :: rest)) (true :: got)) =
        run (receive cfg) (receive cfg s (some (fragment octet 0x80 (if rest = [] then 0x40 else 0) chunk)))
          (deliver (fragments octet 0 rest) got) := rfl
    have hnew : isContinuation (fragment octet 0x80 (if rest = [] then 0x40 else 0) chunk) = false := by
      have hbit : (fragment octet 0x80 (if rest = [] then 0x40 else 0) chunk).getD 1 0 &&& 0x80 = 0x80 :=
        fu_start (.inl rfl) (stopBit rest)
      rw [isContinuation, hbit]
      simp
    rw [hrun, receive_fragment cfg s chunk (.inl rfl) (stopBit rest) ho]
    by_cases hroom : cfg.bitsLen - s.resetSync.bits.length < chunk.length + 2 + cfg.unpackNalStart
    · rw [if_pos hroom]
      obtain ⟨junk', hk⟩ := Kept.continuations ho rest got h.reset.lose rfl
      exact hk.leaves _
    · obtain rfl := h.admitted hok.1 (by simp [fragment]) hnew hroom
      rw [if_neg hroom, if_neg (by simp), if_neg (by decide), if_neg hrest]
      dsimp only
      rw [if_pos rfl]
      have hopen : Opened cfg ⟨s.resetSync.lastSyncPos, false,
          s.resetSync.bits ++ (cfg.nalStartCode ++ [octet]) ++ chunk⟩ nals octet chunk :=
        ⟨by simp [h.bits, List.append_assoc], h.sync_reset, rfl⟩
      obtain ⟨more, junk', hmore, hk⟩ := hopen.continuations ho rest got hrest (by simpa using hlen)
      exact ⟨more, junk', by simpa using hmore, hk⟩

lemma receive_single {nal : Bytes} (h : Kept cfg s nals junk) (ht : 1 ≤ nalType nal ∧ nalType nal ≤ 23)
    (hok : Admitted cfg s (some nal)) : Leaves cfg (receive cfg s (some nal)) nals [nal] := by
  have hnew : isContinuation nal = false := by
    have hne : nalType nal ≠ nalTypeFuA := by
      intro hc
      rw [hc] at ht
      exact absurd ht.2 (by decide)
    simp [isContinuation, hne]
  simp only [receive, unpacketize]
  by_cases hlen : nal.length < 2
  · rw [if_pos hlen]
    exact h.lose.leaves _
  · rw [if_neg hlen, if_pos ht, unpackSingle]
    by_cases hroom : cfg.bitsLen - s.resetSync.bits.length < nal.length + cfg.unpackNalStart
    · rw [if_pos hroom]
      exact h.reset.leaves _
    · obtain rfl := h.admitted hok hlen hnew hroom
      rw [if_neg hroom]
      have hbits : s.resetSync.bits ++ cfg.nalStartCode ++ nal = cfg.assemble (nals ++ [nal]) := by
        rw [assemble_append, assemble_one, resetSync_bits, h.bits, List.append_nil, List.append_assoc]
      exact ⟨[nal], [], List.Sublist.refl _, by rw [List.append_nil]; exact hbits,
        fun _ => congrArg List.length hbits, fun hc => absurd rfl hc⟩

lemma stapLoop_leaves {packed : List Bytes} (hsize : ∀ nal ∈ packed, nal.length ≤ 0xFFFF) :
    ∀ {n : ℕ} {s : Unpack} {nals : List Bytes}, Kept cfg s nals [] →
      ∃ more, more.Sublist packed ∧ Kept cfg (stapLoop cfg n s (packed.flatMap fun nal =>
        ByteOrder.put16 (UInt16.ofNat nal.length) ++ nal)).1 (nals ++ more) [] := by
  induction packed with
  | nil =>
    intro n s nals h
    refine ⟨[], List.Sublist.refl _, ?_⟩
    rw [List.append_nil]
    cases n <;> exact h
  | cons nal rest ih =>
    intro n s nals h
    have hstay : ∃ more, more.Sublist (nal :: rest) ∧ Kept cfg s (nals ++ more) [] :=
      ⟨[], List.nil_sublist _, by rw [List.append_nil]; exact h⟩
    cases n with
    | zero => exact hstay
    | succ n =>
      have hval : (UInt16.ofNat nal.length).toNat = nal.length := by
        have := hsize nal List.mem_cons_self
        simp only [UInt16.toNat_ofNat']
        omega
      have hdrop : ∀ tail : Bytes, (ByteOrder.put16 (UInt16.ofNat nal.length) ++ tail).drop 2 = tail :=
        fun tail => rfl
      rw [List.flatMap_cons, List.append_assoc]
      unfold stapLoop
      rw [ByteOrder.get16_put16, hval, hdrop]
      dsimp only
      rw [List.take_left, List.drop_left]
      split_ifs
      · exact hstay
      · exact hstay
      · exact hstay
      · have hbits : s.bits ++ cfg.nalStartCode ++ nal = cfg.assemble (nals ++ [nal]) := by
          rw [assemble_append, assemble_one, h.bits, List.append_nil, List.append_assoc]
        obtain ⟨more, hmore, hk⟩ := ih (fun x hx => hsize x (List.mem_cons_of_mem _ hx))
          (n := n) (s := ⟨(s.bits ++ cfg.nalStartCode ++ nal).length, s.prevLost, s.bits ++ cfg.nalStartCode ++ nal⟩)
          ⟨by rw [List.append_nil]; exact hbits, fun _ => congrArg List.length hbits,
            fun hc => absurd rfl hc⟩
        have hsplit : nals ++ nal :: more = nals ++ [nal] ++ more := by simp
        exact ⟨nal :: more, hmore.cons_cons nal, by rw [hsplit]; exact hk⟩

lemma receive_stapA {header : UInt8} {packed : List Bytes} (h : Kept cfg s nals junk)
    (hheader : header &&& 0x1F = nalTypeStapA) (hsize : ∀ nal ∈ packed, nal.length ≤ 0xFFFF)
    {payload : Bytes} (hp : payload = header :: packed.flatMap fun nal =>
      ByteOrder.put16 (UInt16.ofNat nal.length) ++ nal)
    (hok : Admitted cfg s (some payload)) : Leaves cfg (receive cfg s (some payload)) nals packed := by
  have htype : nalType payload = nalTypeStapA := by
    rw [hp]
    exact hheader
  have hnew : isContinuation payload = false := by
    rw [isContinuation, htype]
    rfl
  simp only [receive, unpacketize]
  by_cases hlen : payload.length < 2
  · rw [if_pos hlen]
    exact h.lose.leaves _
  · rw [if_neg hlen, htype, if_neg (by decide), if_pos rfl, unpackStapA]
    by_cases hroom : cfg.bitsLen - s.resetSync.bits.length < payload.length + 32
    · rw [if_pos hroom]
      exact h.reset.leaves _
    · have hstart := cfg.nalStart_le
      obtain rfl := h.admitted hok hlen hnew (by omega)
      obtain ⟨more, hmore, hk⟩ := stapLoop_leaves (n := payload.length) hsize h.reset
      rw [if_neg hroom, hp, List.drop_one, List.tail_cons, ← hp]
      generalize stapLoop cfg payload.length s.resetSync _ = r at hk ⊢
      obtain ⟨s', ok⟩ := r
      cases ok with
      | false => exact ⟨more, [], hmore, hk⟩
      | true => exact ⟨more, [], hmore, hk.bits, hk.sync, fun hc => absurd rfl hc⟩

lemma receive_sent {x : Sent × List Bool} (h : Kept cfg s nals junk) (hwf : x.1.WellFormed)
    (hlen : x.2.length = x.1.packets.length)
    (hok : Guarded (receive cfg) (Admitted cfg) s (deliver x.1.packets x.2)) :
    Leaves cfg (run (receive cfg) s (deliver x.1.packets x.2)) nals (if x.2.all id then x.1.nals else []) := by
  obtain ⟨sent, got⟩ := x
  cases sent with
  | fuA octet chunks =>
    have hfrag : ∀ (l : List Bytes) (start : UInt8), (fragments octet start l).length = l.length := by
      intro l
      induction l with
      | nil => exact fun _ => rfl
      | cons chunk rest ih => exact fun _ => congrArg (· + 1) (ih 0)
    exact receive_fuA h hwf.1 hwf.2 (hlen.trans (hfrag chunks 0x80)) hok
  | single nal =>
    obtain ⟨g, rfl⟩ := List.length_eq_one_iff.mp hlen
    cases g with
    | false => exact h.lose.leaves _
    | true => exact receive_single h hwf hok.1
  | stapA header packed =>
    obtain ⟨g, rfl⟩ := List.length_eq_one_iff.mp hlen
    cases g with
    | false => exact h.lose.leaves _
    | true => exact receive_stapA h hwf.1 hwf.2 rfl hok.1

lemma receive_picture {pic : Picture} : ∀ {s : Unpack} {nals : List Bytes} {junk : Bytes}, Kept cfg s nals junk →
    pic.WellFormed → Guarded (receive cfg) (Admitted cfg) s pic.events →
    Leaves cfg (run (receive cfg) s pic.events) nals pic.whole := by
  induction pic with
  | nil => exact fun h _ _ => h.leaves _
  | cons x pic ih =>
    intro s nals junk h hwf hok
    have hevents : Picture.events (x :: pic) = deliver x.1.packets x.2 ++ Picture.events pic :=
      List.flatMap_cons ..
    rw [hevents] at hok ⊢
    obtain ⟨hfirst, hrest⟩ := hok.append
    obtain ⟨hx, hxlen⟩ := hwf x List.mem_cons_self
    obtain ⟨more, junk', hmore, hk⟩ := receive_sent h hx hxlen hfirst
    obtain ⟨more', junk'', hmore', hk'⟩ := ih hk (fun y hy => hwf y (List.mem_cons_of_mem _ hy)) hrest
    refine ⟨more ++ more', junk'', hmore.append hmore', ?_⟩
    rw [run_append, ← List.append_assoc]
    exact hk'

lemma nalStartCode_length (cfg : UnpackCfg) : cfg.nalStartCode.length = cfg.unpackNalStart := by
  have h := cfg.nalStart_le
  simp only [UnpackCfg.nalStartCode, List.length_drop, List.length_cons, List.length_nil]
  omega

lemma stapLoop_length (cfg : UnpackCfg) {n : ℕ} : ∀ {s : Unpack} {q : Bytes}, s.bits.length ≤ cfg.bitsLen →
    (stapLoop cfg n s q).1.bits.length ≤ cfg.bitsLen := by
  induction n with
  | zero => exact fun h => h
  | succ n ih =>
    intro s q h
    unfold stapLoop
    dsimp only
    split_ifs with hend hhead hbody
    · exact h
    · exact h
    · exact h
    · refine ih ?_
      rw [List.length_append, List.length_append, List.length_take, nalStartCode_length]
      omega

lemma receive_length (cfg : UnpackCfg) {s : Unpack} (h : s.bits.length ≤ cfg.bitsLen) (payload : Option Bytes) :
    (receive cfg s payload).bits.length ≤ cfg.bitsLen := by
  cases payload with
  | none => exact h
  | some p =>
    have hr : s.resetSync.bits.length ≤ cfg.bitsLen := by rwa [resetSync_bits]
    simp only [receive, unpacketize]
    split_ifs with hlen hsingle hstap hfu
    · exact h
    · unfold unpackSingle
      split_ifs
      · exact hr
      · simp only [List.length_append, nalStartCode_length]
        omega
    · unfold unpackStapA
      split_ifs
      · exact hr
      · have hloop := stapLoop_length cfg (n := p.length) (q := p.drop 1) hr
        generalize stapLoop cfg p.length s.resetSync (p.drop 1) = r at hloop ⊢
        obtain ⟨s', ok⟩ := r
        cases ok <;> exact hloop
    · unfold unpackFuA
      dsimp only
      split_ifs
      · exact hr
      · exact (List.length_take_le' _ _).trans hr
      -- with and without the start bit, with and without the end bit
      all_goals
        simp only [List.length_append, List.length_drop, nalStartCode_length, List.length_cons, List.length_nil]
        omega
    · exact Nat.zero_le _

/-- Over every picture with any of its packets lost, from any state of the depacketizer: when nothing but
its continuation is written behind an unfinished unit, and none is left at the end, the bitstream is
made of units that were sent and of which nothing was lost. The buffer is never overrun. -/
theorem unpacketize_complete (cfg : UnpackCfg) (lastSyncPos : ℕ) (prevLost : Bool) {pic : Picture}
    (hwf : pic.WellFormed) (hok : Guarded (receive cfg) (Admitted cfg) ⟨lastSyncPos, prevLost, []⟩ pic.events)
    (hend : ¬ (run (receive cfg) ⟨lastSyncPos, prevLost, []⟩ pic.events).Unfinished) :
    (∃ nals : List Bytes, nals.Sublist pic.whole ∧
      (run (receive cfg) ⟨lastSyncPos, prevLost, []⟩ pic.events).bits = cfg.assemble nals) ∧
    ∀ payloads : List (Option Bytes),
      (run (receive cfg) ⟨lastSyncPos, prevLost, []⟩ payloads).bits.length ≤ cfg.bitsLen := by
  have h0 : Kept cfg ⟨lastSyncPos, prevLost, []⟩ [] [] :=
    ⟨rfl, fun hc => absurd rfl hc, fun hc => absurd rfl hc⟩
  obtain ⟨more, junk, hmore, hk⟩ := receive_picture h0 hwf hok
  refine ⟨⟨more, hmore, ?_⟩, @run_invariant _ _ (receive cfg) (fun s => s.bits.length ≤ cfg.bitsLen)
    (fun s p h => receive_length cfg h p) _ (Nat.zero_le _)⟩
  obtain rfl := hk.settled hend
  simpa using hk.bits

/-- A unit in three fragments of which the second is lost, and then an aggregation and a unit as it is:
the third fragment takes away what was left of the first. -/
def lossyPicture : Picture :=
  [(.fuA 0x65 [[1], [2], [3]], [true, false, true]), (.stapA 0x78 [[0x67, 4], [0x68]], [true]),
    (.single [0x41, 5], [true])]

theorem unpacketize_complete_lossy : (∃ nals : List Bytes, nals.Sublist lossyPicture.whole ∧
      (run (receive ⟨3, 100, by decide⟩) ⟨7, true, []⟩ lossyPicture.events).bits =
        UnpackCfg.assemble ⟨3, 100, by decide⟩ nals) ∧ ∀ payloads : List (Option Bytes),
      (run (receive ⟨3, 100, by decide⟩) ⟨7, true, []⟩ payloads).bits.length ≤ 100 :=
  unpacketize_complete ⟨3, 100, by decide⟩ 7 true (by decide) (by decide) (by decide)

def halfPicture : Picture := [(.fuA 0x65 [[1], [2]], [true, false]), (.single [0x41, 5], [true])]

theorem half_unit_stays : halfPicture.WellFormed ∧
      ¬ ∃ nals : List Bytes, (∀ nal ∈ nals, nal ∈ halfPicture.flatMap fun x => x.1.nals) ∧
        (run (receive ⟨3, 100, by decide⟩) ⟨0, false, []⟩ halfPicture.events).bits =
          UnpackCfg.assemble ⟨3, 100, by decide⟩ nals := by
  refine ⟨by decide, ?_⟩
  rintro ⟨nals, hmem, heq⟩
  have hbits : (run (receive ⟨3, 100, by decide⟩) ⟨0, false, []⟩ halfPicture.events).bits =
      [0, 0, 1, 0x65, 1, 0, 0, 1, 0x41, 5] := by decide
  rw [hbits] at heq
  cases nals with
  | nil => cases heq
  | cons nal rest =>
    have hnal : nal = [0x65, 1, 2] ∨ nal = [0x41, 5] := by
      simpa [halfPicture, Sent.nals] using hmem nal List.mem_cons_self
    rcases hnal with rfl | rfl <;> simp [UnpackCfg.assemble, UnpackCfg.nalStartCode] at heq

end PjProject.H264
