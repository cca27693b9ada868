import Mathlib.Data.List.TakeWhile
import PjProject.SrvResolverBuild

/-!
# The order of the targets

The array of `build_server_entries` while it is ordered. The name of an entry points to a buffer
inside the entry, so that a swap has to repair it. The array is the list of targets of the model,
position by position, and every name is the entry's own.
-/
namespace PjProject.SrvResolver

/-- `struct srv_target`; `nameAt` is the entry whose `target_buf` the name points to. -/
structure SrvTarget where
  targetBuf : Bytes
  nameAt : ℕ
  nameLen : ℕ
  port : ℕ
  priority : ℕ
  weight : ℕ
  sum : ℕ
deriving DecidableEq

/-- `target_name` of an entry. -/
def targetName (srv : List SrvTarget) (i : ℕ) : Option Bytes :=
  srv[i]?.bind fun s => srv[s.nameAt]?.map fun holder => holder.targetBuf.take s.nameLen

def saveEntries (cnt : ℕ) : List Answer → List SrvTarget
  | [] => []
  | .other :: rs => if cnt < maxSrv then saveEntries cnt rs else []
  | .srv prio weight port target :: rs =>
    if cnt < maxSrv then
      if target.length ≥ maxHostname ∨ target.length = 0 then saveEntries cnt rs
      else ⟨target, cnt, target.length, port, prio, weight, 0⟩ :: saveEntries (cnt + 1) rs
    else []

def swap (srv : List SrvTarget) (i k : ℕ) : List SrvTarget :=
  if i = k then srv
  else
    match srv[i]?, srv[k]? with
    | some a, some b => (srv.set i { b with nameAt := i }).set k { a with nameAt := k }
    | _, _ => srv

def priorityAt (srv : List SrvTarget) (i : ℕ) : ℕ := (srv[i]?.map SrvTarget.priority).getD 0

/-- The loop that looks for the lowest priority; `n` entries from `j` on are left. -/
def minIndex (srv : List SrvTarget) : ℕ → ℕ → ℕ → ℕ
  | 0, min, _ => min
  | n + 1, min, j =>
    if priorityAt srv j < priorityAt srv min then minIndex srv n j (j + 1) else minIndex srv n min (j + 1)

/-- The first pass, `n` rounds from `i` on. -/
def firstPass : ℕ → ℕ → List SrvTarget → List SrvTarget
  | 0, _, srv => srv
  | n + 1, i, srv => firstPass n (i + 1) (swap srv i (minIndex srv (srv.length - (i + 1)) i (i + 1)))

/-- The running sums of the entries of one priority: the entries with their sums, the last sum and
the number of entries. -/
def runningSums (priority : ℕ) : ℕ → List SrvTarget → List SrvTarget × ℕ × ℕ
  | sum, [] => ([], sum, 0)
  | sum, s :: srv =>
    if s.priority = priority then
      let sum := sum + s.weight
      match runningSums priority sum srv with
      | (rest, last, count) => ({ s with sum := sum } :: rest, last, count + 1)
    else (s :: srv, sum, 0)

/-- The first of `count` entries from `j` on whose sum reaches `r`. -/
def selectServer (srv : List SrvTarget) (r : ℕ) : ℕ → ℕ → Option ℕ
  | 0, _ => none
  | count + 1, j =>
    if ((srv[j]?.map SrvTarget.sum).getD 0) ≥ r then some j else selectServer srv r count (j + 1)

/-- The second pass, `n` rounds from `i` on. It fails with the assertion that a server was selected. -/
def secondPass (rand : ℕ → ℕ) : ℕ → ℕ → List SrvTarget → Option (List SrvTarget)
  | 0, _, srv => some srv
  | n + 1, i, srv =>
    match runningSums (priorityAt srv i) 0 (srv.drop i) with
    | (rest, sum, count) =>
      let srv := srv.take i ++ rest
      if count > 1 then
        match selectServer srv (rand i % (sum + 1)) count i with
        | none => none
        | some j => secondPass rand n (i + 1) (swap srv i j)
      else secondPass rand n (i + 1) srv

def repairNames (srv : List SrvTarget) : List SrvTarget :=
  srv.mapIdx fun i s => { s with nameAt := i }

def orderEntries (rand : ℕ → ℕ) (srv : List SrvTarget) : Option (List SrvTarget) :=
  (secondPass rand srv.length 0 (firstPass (srv.length - 1) 0 srv)).map repairNames

def SrvTarget.target (s : SrvTarget) : Target :=
  ⟨s.targetBuf.take s.nameLen, s.port, s.priority, s.weight, [], [], .null, .null⟩

lemma saveEntries_target (rs : List Answer) : ∀ cnt n, cnt + n = maxSrv →
    (saveEntries cnt rs).map SrvTarget.target = saveTargets n rs := by
  induction rs with
  | nil => intro cnt n _; cases n <;> rfl
  | cons r rs ih =>
    intro cnt n hn
    cases n with
    | zero =>
      have hfull : ¬cnt < maxSrv := by omega
      cases r <;> simp [saveEntries, saveTargets, hfull]
    | succ n =>
      have hroom : cnt < maxSrv := by omega
      cases r with
      | other =>
        rw [saveEntries, if_pos hroom, saveTargets]
        exact ih cnt (n + 1) hn
      | srv prio weight port target =>
        rw [saveEntries, if_pos hroom, saveTargets]
        by_cases hbad : maxHostname ≤ target.length ∨ target = []
        · rw [if_pos hbad, if_pos (by simpa [List.length_eq_zero_iff] using hbad)]
          exact ih cnt (n + 1) hn
        · rw [if_neg hbad, if_neg (by simpa [List.length_eq_zero_iff] using hbad), List.map_cons,
            ih (cnt + 1) n (by omega), SrvTarget.target, List.take_length]

variable {pre suf : List Target} {srv : List SrvTarget}

lemma swap_target {k : ℕ} (h : srv.map SrvTarget.target = pre ++ suf) (hk : k < suf.length) :
    (swap srv pre.length (pre.length + k)).map SrvTarget.target = pre ++ swapFront k suf := by
  have hlen := congrArg List.length h
  rw [List.length_map, List.length_append] at hlen
  cases suf with
  | nil => simp at hk
  | cons t suf =>
    cases k with
    | zero =>
      rw [Nat.add_zero, swap, if_pos rfl, swapFront]
      exact h
    | succ k =>
      rw [List.length_cons] at hk hlen
      have hget : ∀ n, (srv[n]?).map SrvTarget.target = (pre ++ t :: suf)[n]? := fun n => by
        rw [← h, List.getElem?_map]
      obtain ⟨a, ha⟩ : ∃ a, srv[pre.length]? = some a := ⟨_, List.getElem?_eq_getElem (by omega)⟩
      obtain ⟨b, hb⟩ : ∃ b, srv[pre.length + (k + 1)]? = some b := ⟨_, List.getElem?_eq_getElem (by omega)⟩
      have hta := hget pre.length
      have htb := hget (pre.length + (k + 1))
      rw [ha, List.getElem?_append_right le_rfl, Nat.sub_self] at hta
      rw [hb, List.getElem?_append_right (by omega), Nat.add_sub_cancel_left] at htb
      have hta' : a.target = t := Option.some.inj hta
      have htb' : suf[k]? = some b.target := htb.symm
      rw [swap, if_neg (by omega)]
      simp only [ha, hb]
      rw [List.map_set, List.map_set, h, List.set_append_right _ _ le_rfl, Nat.sub_self, List.set_cons_zero,
        List.set_append_right _ _ (by omega), Nat.add_sub_cancel_left, List.set_cons_succ, swapFront]
      simp only [htb']
      rw [← hta']
      rfl

lemma priorityAt_target (h : srv.map SrvTarget.target = pre ++ suf) (j : ℕ) :
    priorityAt srv (pre.length + j) = (suf[j]?.map Target.priority).getD 0 := by
  have hget : (srv[pre.length + j]?).map SrvTarget.target = suf[j]? := by
    rw [← List.getElem?_map, h, List.getElem?_append_right (by omega), Nat.add_sub_cancel_left]
  rw [priorityAt, ← hget]
  cases srv[pre.length + j]? <;> rfl

lemma minPriority_lt (ts : List Target) : ∀ min p j : ℕ, min < j → minPriority min p j ts < j + ts.length := by
  induction ts with
  | nil => intro min p j h; simpa [minPriority] using h
  | cons t ts ih =>
    intro min p j h
    rw [minPriority, List.length_cons]
    split_ifs
    · have := ih j t.priority (j + 1) (by omega)
      omega
    · have := ih min p (j + 1) (by omega)
      omega

lemma choosePriority_lt {t : Target} (ts : List Target) : choosePriority (t :: ts) < (t :: ts).length := by
  have := minPriority_lt ts 0 t.priority 1 Nat.zero_lt_one
  rw [choosePriority, List.length_cons]
  omega

lemma minIndex_target (h : srv.map SrvTarget.target = pre ++ suf) (rest : List Target) :
    ∀ {m j p : ℕ}, suf.drop j = rest → priorityAt srv (pre.length + m) = p →
      minIndex srv rest.length (pre.length + m) (pre.length + j) = pre.length + minPriority m p j rest := by
  induction rest with
  | nil => intro m j p _ _; rfl
  | cons t rest ih =>
    intro m j p hdrop hp
    have hj : suf[j]? = some t := by
      rw [← List.head?_drop, hdrop, List.head?_cons]
    have hrest : suf.drop (j + 1) = rest := by
      rw [← List.drop_drop, hdrop, List.drop_one, List.tail_cons]
    have ht : priorityAt srv (pre.length + j) = t.priority := by rw [priorityAt_target h, hj]; rfl
    rw [List.length_cons, minIndex, ht, hp, minPriority]
    split_ifs
    · exact ih hrest ht
    · exact ih hrest hp

lemma swapFront_cons (k : ℕ) (t : Target) (ts : List Target) : ∃ u us, swapFront k (t :: ts) = u :: us ∧
    us.length = ts.length := by
  cases k with
  | zero => exact ⟨t, ts, rfl, rfl⟩
  | succ k =>
    rw [swapFront]
    cases ts[k]? with
    | none => exact ⟨t, ts, rfl, rfl⟩
    | some u => exact ⟨u, ts.set k t, rfl, List.length_set⟩

lemma placeEach_cons {f : ℕ → List Target → ℕ} {n i : ℕ} {ts us : List Target} {u : Target}
    (h : swapFront (f i ts) ts = u :: us) : placeEach f (n + 1) i ts = u :: placeEach f n (i + 1) us := by
  rw [placeEach, h]

variable (n : ℕ)

lemma firstPass_target : ∀ (pre : List Target) {suf : List Target} {srv : List SrvTarget},
    srv.map SrvTarget.target = pre ++ suf → n ≤ suf.length →
    (firstPass n pre.length srv).map SrvTarget.target =
      pre ++ placeEach (fun _ us => choosePriority us) n pre.length suf := by
  induction n with
  | zero => intro pre suf srv h _; exact h
  | succ n ih =>
    intro pre suf srv h hn
    cases suf with
    | nil => simp at hn
    | cons t ts =>
      have hlen := congrArg List.length h
      rw [List.length_map, List.length_append, List.length_cons] at hlen
      have hmin : minIndex srv (srv.length - (pre.length + 1)) pre.length (pre.length + 1) =
          pre.length + choosePriority (t :: ts) := by
        have := minIndex_target h ts (m := 0) (j := 1) rfl (priorityAt_target h 0)
        rw [show srv.length - (pre.length + 1) = ts.length by omega]
        exact this
      obtain ⟨u, us, hswap, hus⟩ := swapFront_cons (choosePriority (t :: ts)) t ts
      have hnext := swap_target h (choosePriority_lt ts)
      rw [hswap, List.append_cons] at hnext
      rw [firstPass, hmin, placeEach_cons hswap]
      have hrec := ih _ hnext (by rw [List.length_cons] at hn; omega)
      rw [List.length_append, List.length_singleton] at hrec
      rw [hrec, List.append_assoc, List.singleton_append]

lemma placeEach_last {choose : ℕ → List Target → ℕ} (hchoose : ∀ i t, choose i [t] = 0) (n : ℕ) :
    ∀ {i : ℕ} {ts : List Target}, ts.length = n + 1 → placeEach choose n i ts = placeEach choose (n + 1) i ts := by
  induction n with
  | zero =>
    intro i ts hts
    obtain ⟨t, rfl⟩ := List.length_eq_one_iff.1 hts
    rw [placeEach_cons (show swapFront (choose i [t]) [t] = t :: [] by rw [hchoose]; rfl), placeEach, placeEach]
  | succ n ih =>
    intro i ts hts
    cases ts with
    | nil => simp at hts
    | cons t ts =>
      obtain ⟨u, us, hswap, hus⟩ := swapFront_cons (choose i (t :: ts)) t ts
      rw [placeEach_cons hswap, placeEach_cons hswap]
      rw [List.length_cons] at hts
      rw [ih (by omega)]

def group (p : ℕ) (ts : List Target) : List Target := ts.takeWhile fun u => u.priority = p

lemma runningSums_spec (p : ℕ) (srv : List SrvTarget) : ∀ sum,
    (runningSums p sum srv).1.map SrvTarget.target = srv.map SrvTarget.target ∧
      (runningSums p sum srv).2.1 = sum + ((group p (srv.map SrvTarget.target)).map Target.weight).sum ∧
      (runningSums p sum srv).2.2 = (group p (srv.map SrvTarget.target)).length := by
  induction srv with
  | nil => intro sum; exact ⟨rfl, rfl, rfl⟩
  | cons s srv ih =>
    intro sum
    obtain ⟨htargets, hlast, hcount⟩ := ih (sum + s.weight)
    have htarget : s.target.priority = s.priority := rfl
    rw [runningSums, List.map_cons, group, List.takeWhile_cons, htarget]
    by_cases hp : s.priority = p
    · subst hp
      simp only [if_true, decide_true, List.map_cons, List.sum_cons, List.length_cons]
      refine ⟨by rw [htargets]; rfl, ?_, by rw [hcount]; rfl⟩
      rw [hlast, group]
      exact Nat.add_assoc _ _ _
    · simp [hp]

lemma reach_lt (r : ℕ) (ts : List Target) : ∀ sum j : ℕ, sum < r ∨ ts ≠ [] →
    r ≤ sum + (ts.map Target.weight).sum → reach r sum j ts < j + ts.length := by
  induction ts with
  | nil =>
    intro sum j h hr
    simp at h hr
    omega
  | cons t ts ih =>
    intro sum j _ hr
    rw [List.map_cons, List.sum_cons] at hr
    rw [reach, List.length_cons]
    split_ifs with hnow
    · omega
    · have := ih (sum + t.weight) (j + 1) (.inl (by omega)) (by omega)
      omega

lemma selectServer_eq {p r : ℕ} (l : List SrvTarget) : ∀ (srv : List SrvTarget) (sum i j : ℕ),
    srv.drop i = (runningSums p sum l).1 → sum < r ∨ group p (l.map SrvTarget.target) ≠ [] →
    r ≤ sum + ((group p (l.map SrvTarget.target)).map Target.weight).sum →
    ∃ m, reach r sum j (group p (l.map SrvTarget.target)) = j + m ∧
      selectServer srv r (group p (l.map SrvTarget.target)).length i = some (i + m) := by
  induction l with
  | nil =>
    intro srv sum i j _ h hr
    simp [group] at h hr
    omega
  | cons s l ih =>
    intro srv sum i j hdrop h hr
    have htarget : s.target.priority = s.priority := rfl
    have hweight : s.target.weight = s.weight := rfl
    by_cases hp : s.priority = p
    · have hgroup : group p ((s :: l).map SrvTarget.target) = s.target :: group p (l.map SrvTarget.target) := by
        rw [group, List.map_cons, List.takeWhile_cons, htarget, hp]
        simp [group]
      rw [runningSums, if_pos hp] at hdrop
      have hhead : srv[i]? = some { s with sum := sum + s.weight } := by
        rw [← List.head?_drop, hdrop]
        rfl
      have htail : srv.drop (i + 1) = (runningSums p (sum + s.weight) l).1 := by
        rw [← List.drop_drop, hdrop]
        rfl
      rw [hgroup, List.map_cons, List.sum_cons, hweight] at hr
      rw [hgroup, reach, hweight, List.length_cons, selectServer, hhead]
      simp only [Option.map_some, Option.getD_some]
      by_cases hnow : r ≤ sum + s.weight
      · rw [if_pos hnow, if_pos hnow]
        exact ⟨0, rfl, rfl⟩
      · rw [if_neg hnow, if_neg hnow]
        obtain ⟨m, hm, hsel⟩ := ih srv (sum + s.weight) (i + 1) (j + 1) htail (.inl (by omega)) (by omega)
        exact ⟨m + 1, by rw [hm]; omega, by rw [hsel]; congr 1; omega⟩
    · have hgroup : group p ((s :: l).map SrvTarget.target) = [] := by
        rw [group, List.map_cons, List.takeWhile_cons, htarget]
        simp [hp]
      rw [hgroup] at h hr
      simp at h hr
      omega

variable (rand : ℕ → ℕ)

lemma secondPass_target (n : ℕ) : ∀ (pre : List Target) {suf : List Target} {srv : List SrvTarget},
    srv.map SrvTarget.target = pre ++ suf → n ≤ suf.length →
    ∃ srv', secondPass rand n pre.length srv = some srv' ∧ srv'.map SrvTarget.target =
      pre ++ placeEach (fun i us => elect (rand i) us) n pre.length suf := by
  induction n with
  | zero => intro pre suf srv h _; exact ⟨srv, rfl, h⟩
  | succ n ih =>
    intro pre suf srv h hn
    cases suf with
    | nil => simp at hn
    | cons t ts =>
      have hdrop : (srv.drop pre.length).map SrvTarget.target = t :: ts := by
        rw [List.map_drop, h, List.drop_left]
      have htake : (srv.take pre.length).map SrvTarget.target = pre := by
        rw [List.map_take, h, List.take_left]
      have htlen : (srv.take pre.length).length = pre.length := by
        have := congrArg List.length htake
        rwa [List.length_map] at this
      have hp : priorityAt srv pre.length = t.priority := priorityAt_target h 0
      obtain ⟨htargets, hsum, hcount⟩ := runningSums_spec t.priority (srv.drop pre.length) 0
      rw [hdrop] at htargets hsum hcount
      rw [Nat.zero_add] at hsum
      have hselect := selectServer_eq (p := t.priority)
        (r := rand pre.length % (((group t.priority (t :: ts)).map Target.weight).sum + 1))
        (srv.drop pre.length) (srv.take pre.length ++ (runningSums t.priority 0 (srv.drop pre.length)).1)
        0 pre.length 0 (List.drop_left' htlen) (by simp [hdrop, group])
        (by rw [hdrop, Nat.zero_add]; exact Nat.lt_succ_iff.1 (Nat.mod_lt _ (Nat.succ_pos _)))
      have hsums : (srv.take pre.length ++ (runningSums t.priority 0 (srv.drop pre.length)).1).map
          SrvTarget.target = pre ++ t :: ts := by
        rw [List.map_append, htake, htargets]
      have hcons : group t.priority (t :: ts) = t :: ts.takeWhile fun u => u.priority = t.priority := by
        simp [group]
      rw [hdrop] at hselect
      rw [List.length_cons] at hn
      rw [secondPass, hp]
      generalize runningSums t.priority 0 (srv.drop pre.length) = run at htargets hsum hcount hselect hsums
      obtain ⟨rest, sum, count⟩ := run
      simp only at htargets hsum hcount hselect hsums ⊢
      subst hsum hcount
      -- one round leaves the targets with the elected one in front
      have hround : ∀ {srv' : List SrvTarget} {u : Target} {us : List Target},
          swapFront (elect (rand pre.length) (t :: ts)) (t :: ts) = u :: us → us.length = ts.length →
          srv'.map SrvTarget.target = pre ++ u :: us →
          ∃ srv'', secondPass rand n (pre.length + 1) srv' = some srv'' ∧ srv''.map SrvTarget.target =
            pre ++ placeEach (fun i us => elect (rand i) us) (n + 1) pre.length (t :: ts) := by
        intro srv' u us hswap hus hsrv'
        rw [List.append_cons] at hsrv'
        obtain ⟨srv'', hpass, hmap⟩ := ih _ hsrv' (by omega)
        rw [List.length_append, List.length_singleton] at hpass hmap
        refine ⟨srv'', hpass, ?_⟩
        rw [hmap, placeEach_cons (f := fun i us => elect (rand i) us) hswap, List.append_assoc,
          List.singleton_append]
      by_cases hmany : (group t.priority (t :: ts)).length > 1
      · rw [if_pos hmany]
        obtain ⟨m, hm, hsel⟩ := hselect
        rw [Nat.zero_add] at hm
        have helect : elect (rand pre.length) (t :: ts) = m := by
          rw [← hm, elect, ← hcons]
          exact if_neg (not_le.2 hmany)
        have hmlt : m < (t :: ts).length := by
          have hlt := reach_lt (rand pre.length % (((group t.priority (t :: ts)).map Target.weight).sum + 1))
            (group t.priority (t :: ts)) 0 0 (.inr (by simp [hcons]))
            (by rw [Nat.zero_add]; exact Nat.lt_succ_iff.1 (Nat.mod_lt _ (Nat.succ_pos _)))
          have hle : (group t.priority (t :: ts)).length ≤ (t :: ts).length := (List.takeWhile_prefix _).length_le
          omega
        obtain ⟨u, us, hswap, hus⟩ := swapFront_cons m t ts
        have hnext := swap_target hsums hmlt
        rw [hswap] at hnext
        simp only [hsel]
        exact hround (by rw [helect, hswap]) hus hnext
      · rw [if_neg hmany]
        have helect : elect (rand pre.length) (t :: ts) = 0 := by
          rw [elect, ← hcons]
          exact if_pos (not_lt.1 hmany)
        exact hround (by rw [helect]; rfl) rfl hsums

lemma swapFront_get {k : ℕ} {t u : Target} {ts : List Target} (h : (t :: ts)[k]? = some u) :
    ∃ us, swapFront k (t :: ts) = u :: us ∧ (u.priority = t.priority →
      us.map Target.priority = ts.map Target.priority) := by
  cases k with
  | zero =>
    obtain rfl := Option.some.inj h
    exact ⟨ts, rfl, fun _ => rfl⟩
  | succ k =>
    rw [List.getElem?_cons_succ] at h
    refine ⟨ts.set k t, by rw [swapFront, h], fun hp => ?_⟩
    obtain ⟨hk, rfl⟩ := List.getElem?_eq_some_iff.1 h
    have hk' : k < (ts.map Target.priority).length := by rwa [List.length_map]
    have hget : (ts.map Target.priority)[k] = t.priority := by rw [List.getElem_map, hp]
    rw [List.map_set, ← hget, List.set_getElem_self hk']

lemma minPriority_spec (rest : List Target) : ∀ (ts : List Target) {m j : ℕ} {v : Target},
    ts.drop j = rest → ts[m]? = some v → (∀ x ∈ ts.take j, v.priority ≤ x.priority) →
    ∃ u, ts[minPriority m v.priority j rest]? = some u ∧ ∀ x ∈ ts, u.priority ≤ x.priority := by
  induction rest with
  | nil =>
    intro ts m j v hdrop hm hall
    refine ⟨v, hm, fun x hx => hall x ?_⟩
    rwa [List.take_of_length_le (List.drop_eq_nil_iff.1 hdrop)]
  | cons t rest ih =>
    intro ts m j v hdrop hm hall
    have hj : ts[j]? = some t := by rw [← List.head?_drop, hdrop, List.head?_cons]
    have hrest : ts.drop (j + 1) = rest := by rw [← List.drop_drop, hdrop, List.drop_one, List.tail_cons]
    have htake : ts.take (j + 1) = ts.take j ++ [t] := by rw [List.take_add_one, hj]; rfl
    rw [minPriority]
    split_ifs with hlt
    · refine ih _ hrest hj fun x hx => ?_
      rw [htake] at hx
      rcases List.mem_append.1 hx with hx | hx
      · exact hlt.le.trans (hall x hx)
      · rw [List.mem_singleton.1 hx]
    · refine ih _ hrest hm fun x hx => ?_
      rw [htake] at hx
      rcases List.mem_append.1 hx with hx | hx
      · exact hall x hx
      · rw [List.mem_singleton.1 hx]
        exact not_lt.1 hlt

lemma placeEach_sorted : ∀ (i : ℕ) (ts : List Target), ts.length = n →
    (placeEach (fun _ us => choosePriority us) n i ts).Pairwise fun a b => a.priority ≤ b.priority := by
  induction n with
  | zero =>
    intro i ts hts
    rw [List.length_eq_zero_iff.1 hts]
    exact .nil
  | succ n ih =>
    intro i ts hts
    cases ts with
    | nil => simp at hts
    | cons t ts =>
      obtain ⟨u, hu, hmin⟩ := minPriority_spec ts (t :: ts) (m := 0) (j := 1) rfl rfl (by simp)
      obtain ⟨us, hswap, -⟩ := swapFront_get (k := choosePriority (t :: ts)) hu
      have hperm := swapFront_perm (choosePriority (t :: ts)) (t :: ts)
      rw [hswap] at hperm
      rw [placeEach_cons hswap, List.pairwise_cons]
      constructor
      · intro x hx
        have hx' := (placeEach_perm _ n (i + 1) us).mem_iff.1 hx
        exact hmin x (hperm.mem_iff.1 (List.mem_cons_of_mem u hx'))
      · exact ih _ _ (by have := hperm.length_eq; simp at this hts; omega)

lemma elect_priority (rand : ℕ) (t : Target) (ts : List Target) :
    ∃ u, (t :: ts)[elect rand (t :: ts)]? = some u ∧ u.priority = t.priority := by
  have hcons : group t.priority (t :: ts) = t :: ts.takeWhile fun u => u.priority = t.priority := by
    simp [group]
  rw [elect, ← hcons]
  split_ifs with hone
  · exact ⟨t, rfl, rfl⟩
  have hlt := reach_lt (rand % (((group t.priority (t :: ts)).map Target.weight).sum + 1))
    (group t.priority (t :: ts)) 0 0 (.inr (by simp [hcons]))
    (by rw [Nat.zero_add]; exact Nat.lt_succ_iff.1 (Nat.mod_lt _ (Nat.succ_pos _)))
  rw [Nat.zero_add] at hlt
  have hmem := List.mem_takeWhile_imp (List.getElem_mem hlt)
  have hprefix : group t.priority (t :: ts) <+: t :: ts := List.takeWhile_prefix _
  exact ⟨_, List.prefix_iff_getElem?.1 hprefix _ hlt, of_decide_eq_true hmem⟩

lemma placeEach_priorities (n : ℕ) : ∀ {i : ℕ} {ts : List Target},
    (placeEach (fun i us => elect (rand i) us) n i ts).map Target.priority = ts.map Target.priority := by
  induction n with
  | zero => intro i ts; rfl
  | succ n ih =>
    intro i ts
    cases ts with
    | nil => rfl
    | cons t ts =>
      obtain ⟨u, hu, hp⟩ := elect_priority (rand i) t ts
      obtain ⟨us, hswap, hrest⟩ := swapFront_get hu
      rw [placeEach_cons (f := fun i us => elect (rand i) us) hswap, List.map_cons, ih, hrest hp, hp,
        List.map_cons]

lemma orderTargets_sorted (ts : List Target) :
    (orderTargets rand ts).Pairwise fun a b => a.priority ≤ b.priority := by
  have hsorted := placeEach_sorted ts.length 0 ts rfl
  rw [← List.pairwise_map (f := Target.priority) (R := (· ≤ ·))] at hsorted ⊢
  rw [orderTargets, placeEach_priorities]
  exact hsorted

structure SrvKey where
  name : Bytes
  port : ℕ
  priority : ℕ
  weight : ℕ
deriving DecidableEq

def Target.key (t : Target) : SrvKey := ⟨t.name, t.port, t.priority, t.weight⟩

def Answer.acceptable : Answer → Option SrvKey
  | .other => none
  | .srv prio weight port target =>
    if 0 < target.length ∧ target.length < maxHostname then some ⟨target, port, prio, weight⟩ else none

lemma saveTargets_keys (rs : List Answer) :
    (saveTargets n rs).map Target.key = (rs.filterMap Answer.acceptable).take n := by
  fun_induction saveTargets n rs with
  | case1 | case2 => simp
  | case3 n rs ih =>
    rw [List.filterMap_cons_none (show Answer.acceptable .other = none from rfl)]
    exact ih
  | case4 n prio weight port target rs hbad ih =>
    have hno : Answer.acceptable (.srv prio weight port target) = none := by
      refine if_neg ?_
      rintro ⟨h1, h2⟩
      rcases hbad with hlong | rfl
      · omega
      · simp at h1
    rw [List.filterMap_cons_none hno]
    exact ih
  | case5 n prio weight port target rs hgood ih =>
    have hyes : Answer.acceptable (.srv prio weight port target) = some ⟨target, port, prio, weight⟩ := by
      refine if_pos ⟨?_, ?_⟩
      · exact List.length_pos_of_ne_nil fun h => hgood (.inr h)
      · exact not_le.1 fun h => hgood (.inl h)
    rw [List.filterMap_cons_some hyes, List.take_succ_cons, List.map_cons, ih]
    rfl

lemma addExtra_keys (name : Bytes) (a : Addr) (ts : List Target) :
    (addExtra name a ts).1.map Target.key = ts.map Target.key := by
  induction ts with
  | nil => rfl
  | cons t ts ih =>
    simp only [addExtra]
    split
    · rw [List.map_cons, List.map_cons, ih]
      rfl
    · rw [List.map_cons, List.map_cons, ih]

lemma addExtras_keys (o : Opt) (rs : List Extra) (s : List Target × ℕ) :
    (addExtras o rs s).1.map Target.key = s.1.map Target.key := by
  fun_induction addExtras o rs s with
  | case1 s => rfl
  | case2 name a rs ts n hw us m heq ih =>
    have hx := addExtra_keys name a ts
    rw [heq] at hx
    exact ih.trans hx
  | case3 name a rs ts n hw ih => exact ih
  | case4 rs s ih => exact ih

lemma addLiterals_keys (lib : Lib) (o : Opt) (ts : List Target) :
    (addLiterals lib o ts).1.map Target.key = ts.map Target.key := by
  induction ts with
  | nil => rfl
  | cons t ts ih =>
    simp only [addLiterals]
    split
    · rw [List.map_cons, List.map_cons, ih]
    · split
      · rw [List.map_cons, List.map_cons, ih]
      · rw [List.map_cons, List.map_cons, ih]
        rfl

lemma buildServerEntries_keys (lib : Lib) (rand : ℕ → ℕ) (pkt : Packet) (j : Job) :
    (buildServerEntries lib rand pkt j).srv.map Target.key =
      (orderTargets rand (saveTargets maxSrv pkt.ans)).map Target.key := by
  unfold buildServerEntries
  dsimp only
  split_ifs with hnone
  · rw [hnone]
    rfl
  · rw [addLiterals_keys, addExtras_keys]

lemma orderEntries_target (srv : List SrvTarget) : ∃ srv', orderEntries rand srv = some (repairNames srv') ∧
      srv'.map SrvTarget.target = orderTargets rand (srv.map SrvTarget.target) := by
  have hfirst := firstPass_target (srv.length - 1) [] (List.nil_append (srv.map SrvTarget.target)).symm
    (by rw [List.length_map]; omega)
  rw [List.length_nil, List.nil_append] at hfirst
  have hall : placeEach (fun _ us => choosePriority us) (srv.length - 1) 0 (srv.map SrvTarget.target) =
      placeEach (fun _ us => choosePriority us) (srv.map SrvTarget.target).length 0 (srv.map SrvTarget.target) := by
    rw [List.length_map]
    cases hlen : srv.length with
    | zero => rfl
    | succ n => exact placeEach_last (fun _ _ => rfl) n (by rw [List.length_map, hlen])
  rw [hall] at hfirst
  have hperm := placeEach_perm (fun _ us => choosePriority us) (srv.map SrvTarget.target).length 0
    (srv.map SrvTarget.target)
  obtain ⟨srv', hpass, hmap⟩ := secondPass_target rand srv.length [] hfirst
    (by rw [hperm.length_eq, List.length_map])
  refine ⟨srv', ?_, ?_⟩
  · rw [List.length_nil] at hpass
    rw [orderEntries, hpass]
    rfl
  · rw [hmap, List.nil_append, orderTargets, List.length_map]
    rfl

def entryKey (srv : List SrvTarget) (i : ℕ) : Option SrvKey :=
  srv[i]?.bind fun s => (targetName srv i).map fun name => ⟨name, s.port, s.priority, s.weight⟩

lemma entryKey_repairNames (srv : List SrvTarget) (i : ℕ) :
    entryKey (repairNames srv) i = srv[i]?.map fun s => s.target.key := by
  have hget : (repairNames srv)[i]? = srv[i]?.map fun s => { s with nameAt := i } := by
    rw [repairNames, List.getElem?_mapIdx]
  cases hs : srv[i]? with
  | none => rw [entryKey, hget, hs]; rfl
  | some s =>
    rw [hs, Option.map_some] at hget
    rw [entryKey, targetName, hget, Option.bind_some, Option.bind_some, hget]
    rfl

/-- For every answer and all random numbers, the entries are the first acceptable answers in the
order of their priorities, each with its own name, and `host_resolved` counts those that have an
address; the assertion that a server was selected holds. -/
theorem server_entries_ordered (lib : Lib) (rand : ℕ → ℕ) (pkt : Packet) (j : Job) (h0 : j.hostResolved = 0) :
    (∃ srv, orderEntries rand (saveEntries 0 pkt.ans) = some srv ∧
      ∀ i, entryKey srv i = (buildServerEntries lib rand pkt j).srv[i]?.map Target.key) ∧
    ((buildServerEntries lib rand pkt j).srv.map Target.key).Perm
      ((pkt.ans.filterMap Answer.acceptable).take maxSrv) ∧
    (buildServerEntries lib rand pkt j).srv.Pairwise (fun a b => a.priority ≤ b.priority) ∧
    (buildServerEntries lib rand pkt j).hostResolved =
      (buildServerEntries lib rand pkt j).srv.countP fun t => t.addrs.length > 0 := by
  have hkeys := buildServerEntries_keys lib rand pkt j
  have hperm := orderTargets_perm rand (saveTargets maxSrv pkt.ans)
  refine ⟨?_, ?_, ?_, ?_⟩
  · obtain ⟨srv, horder, hmap⟩ := orderEntries_target rand (saveEntries 0 pkt.ans)
    rw [saveEntries_target pkt.ans 0 maxSrv (Nat.zero_add _)] at hmap
    refine ⟨_, horder, fun i => ?_⟩
    have hi : srv[i]?.map (fun s => s.target.key) = ((srv.map SrvTarget.target).map Target.key)[i]? := by
      rw [List.getElem?_map, List.getElem?_map, Option.map_map]
      rfl
    rw [entryKey_repairNames, hi, hmap, ← hkeys, List.getElem?_map]
  · rw [hkeys, ← saveTargets_keys]
    exact hperm.map Target.key
  · have hsorted := orderTargets_sorted rand (saveTargets maxSrv pkt.ans)
    have hprio : ∀ ts : List Target, ts.map Target.priority = (ts.map Target.key).map SrvKey.priority := fun ts => by
      rw [List.map_map]
      rfl
    rw [← List.pairwise_map (f := Target.priority) (R := (· ≤ ·))] at hsorted ⊢
    rw [hprio, hkeys, ← hprio]
    exact hsorted
  · obtain ⟨len, -, hcounted⟩ := buildServerEntries_counted lib rand pkt h0
    rw [hcounted.count]
    apply List.countP_congr
    intro t _
    simp [Target.hasAddr, List.length_pos_iff]

def threeTargets : Packet :=
  ⟨false, [.srv 1 5 5060 (lit "b"), .srv 0 1 5061 (lit "a"), .srv 0 9 5062 (lit "c")],
    [.addr (lit "c") ⟨false, 1⟩]⟩

def anyJob : Job := newJob ⟨false, false, false, false⟩ (lit "d") 5060

theorem server_entries_ordered_three :
    (buildServerEntries ⟨fun _ _ => none⟩ (fun _ => 7) threeTargets anyJob).hostResolved =
      (buildServerEntries ⟨fun _ _ => none⟩ (fun _ => 7) threeTargets anyJob).srv.countP
        fun t => t.addrs.length > 0 :=
  (server_entries_ordered ⟨fun _ _ => none⟩ (fun _ => 7) threeTargets anyJob rfl).2.2.2

end PjProject.SrvResolver
