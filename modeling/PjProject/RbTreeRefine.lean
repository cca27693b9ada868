import PjProject.RbTreeOps

/-!
# The red-black tree as an ordered map

Calls to the tree against a map from keys to nodes that is kept as a list. A caller of
`pj_rbtree_insert` writes the key into the node first; it does not write to the key of a node
that is in the tree, and it erases only nodes that are.
-/
namespace PjProject.RedBlack

open LinkedTree

variable {K : Type*}

inductive Call (K : Type*)
  | insert (element : ℕ) (key : K)
  | erase (node : ℕ)
  | find (key : K)

inductive Result
  | status (value : ℤ)
  | node (value : Option ℕ)
  deriving DecidableEq

abbrev Entries (K : Type*) := List (K × ℕ)

section Map

variable [DecidableEq K]

def Entries.lookup (m : Entries K) (key : K) : Option ℕ := (m.find? fun e => e.1 = key).map Prod.snd

def Entries.call (m : Entries K) : Call K → Entries K × Result
  | .insert element key =>
    if (m.lookup key).isSome then (m, .status (-1)) else ((key, element) :: m, .status 0)
  | .erase node => (m.filter fun e => e.2 ≠ node, .node (some node))
  | .find key => (m, .node (m.lookup key))

def Entries.run (m : Entries K) : List (Call K) → Entries K × List Result
  | [] => (m, [])
  | c :: cs => (((m.call c).1.run cs).1, (m.call c).2 :: ((m.call c).1.run cs).2)

def Entries.Allows (m : Entries K) : Call K → Prop
  | .insert element key => element ≠ 0 ∧ ∀ e ∈ m, e.2 = element → e.1 = key
  | .erase node => ∃ e ∈ m, e.2 = node
  | .find _ => True

def Entries.AllowsAll (m : Entries K) : List (Call K) → Prop
  | [] => True
  | c :: cs => m.Allows c ∧ (m.call c).1.AllowsAll cs

end Map

namespace RbTree

def call (comp : K → K → ℤ) (fuel : ℕ) (t : RbTree K) : Call K → Option (RbTree K × Result)
  | .insert element key => ((t.setKey element key).insert comp fuel element).map fun r => (r.1, .status r.2)
  | .erase node => (t.erase fuel node).map fun t => (t, .node (some node))
  | .find key => (t.find comp fuel key).map fun r => (t, .node r)

def run (comp : K → K → ℤ) (fuel : ℕ) (t : RbTree K) : List (Call K) → Option (RbTree K × List Result)
  | [] => some (t, [])
  | c :: cs => (t.call comp fuel c).bind fun r => (run comp fuel r.1 cs).map fun q => (q.1, r.2 :: q.2)

structure Implements (C : Comparator K) (t : RbTree K) (m : Entries K) : Prop where
  nodes : ∃ l, t.Holds C l ∧ (l.map fun x => (t.key x, x)).Perm m
  size : t.size = m.length % 2 ^ 32

variable {C : Comparator K} {t : RbTree K} {l : List ℕ}

lemma Holds.key_inj (h : t.Holds C l) {x y : ℕ} (hx : x ∈ l)
    (hy : y ∈ l) (hk : t.key x = t.key y) : x = y := by
  have hnd : (l.map t.key).Nodup := by
    refine List.pairwise_map.2 (h.ordered.imp ?_)
    intro a b hab he
    have := (C.eq_zero (t.key a) (t.key b)).2 he
    omega
  exact List.inj_on_of_nodup_map hnd hx hy hk

lemma Holds.setKey (h : t.Holds C l) {x : ℕ} {key : K} (hx : x ∈ l → t.key x = key) :
    (t.setKey x key).Holds C l ∧ ∀ y ∈ l, (t.setKey x key).key y = t.key y := by
  have hkey : ∀ y ∈ l, (t.setKey x key).key y = t.key y := by
    intro y hy
    by_cases hyx : y = x
    · subst hyx
      simp [RbTree.setKey, hx hy]
    · simp [RbTree.setKey, hyx]
  obtain ⟨s, hs, hn⟩ := h.shaped
  refine ⟨⟨⟨s, hs.of_links rfl, hn⟩, ?_, h.null, h.root⟩, hkey⟩
  refine h.ordered.imp_of_mem ?_
  intro a b ha hb hab
  rw [hkey a ha, hkey b hb]
  exact hab

variable [DecidableEq K] {m : Entries K}

lemma Holds.lookup (h : t.Holds C l)
    (hm : (l.map fun x => (t.key x, x)).Perm m) {y : ℕ} (hy : y ∈ l) : m.lookup (t.key y) = some y := by
  have hin : (t.key y, y) ∈ m := hm.mem_iff.1 (List.mem_map.2 ⟨y, hy, rfl⟩)
  have hsome : (m.find? fun e => e.1 = t.key y).isSome := by
    rw [List.find?_isSome]
    exact ⟨_, hin, by simp⟩
  obtain ⟨e, he⟩ := Option.isSome_iff_exists.1 hsome
  obtain ⟨x, hx, rfl⟩ := List.mem_map.1 (hm.mem_iff.2 (List.mem_of_find?_eq_some he))
  have hkey : t.key x = t.key y := by simpa using List.find?_some he
  rw [Entries.lookup, he, h.key_inj hx hy hkey]
  rfl

lemma lookup_eq_none (hm : (l.map fun x => (t.key x, x)).Perm m) {key : K} (hno : ∀ y ∈ l, t.key y ≠ key) :
    m.lookup key = none := by
  rw [Entries.lookup, Option.map_eq_none_iff, List.find?_eq_none]
  intro e he
  obtain ⟨x, hx, rfl⟩ := List.mem_map.1 (hm.mem_iff.2 he)
  simpa using hno x hx

variable {k : ℕ}

lemma Holds.find (h : t.Holds C l) (hm : (l.map fun x => (t.key x, x)).Perm m) (key : K) (hk : l.length < k) :
    t.find C.comp k key = some (m.lookup key) := by
  obtain ⟨s, hs, rfl⟩ := h.shaped
  unfold RbTree.find
  rw [hs.tree.root]
  rcases @findLoop_spec _ C t key s 0 k hs.tree.rep h.ordered hk with ⟨y, hy, rfl, heq⟩ | ⟨hno, heq⟩
  · rw [heq, h.lookup hm hy]
    simp [toNull, hs.tree.rep.ne_zero hy]
  · rw [heq, lookup_eq_none hm hno]
    rfl

lemma call_spec (h : t.Implements C m) {c : Call K} (hc : m.Allows c) (hk : m.length < k) :
    ∃ t', t.call C.comp k c = some (t', (m.call c).2) ∧ t'.Implements C (m.call c).1 := by
  obtain ⟨l, hl, hm⟩ := h.nodes
  have hlen : l.length = m.length := by
    rw [← hm.length_eq, List.length_map]
  cases c with
  | insert element key =>
    obtain ⟨h0, hown⟩ := hc
    obtain ⟨hl', hkeys⟩ := hl.setKey (fun hx => hown _ (hm.mem_iff.1 (List.mem_map.2 ⟨element, hx, rfl⟩)) rfl)
    have hself : (t.setKey element key).key element = key := by simp [RbTree.setKey]
    have hmap : l.map (fun x => ((t.setKey element key).key x, x)) = l.map fun x => (t.key x, x) :=
      List.map_congr_left fun x hx => by rw [hkeys x hx]
    have hm' := hmap ▸ hm
    rcases insert_spec hl' h0 (hlen ▸ hk) with ⟨⟨y, hy, hyk⟩, heq⟩ | ⟨hno, t', l₁, l₂, heq, rfl, hh, hkk, hsz⟩
    · have hlook := hl'.lookup hm' hy
      rw [hyk, hself] at hlook
      refine ⟨t.setKey element key, ?_, ?_⟩
      · simp [call, Entries.call, heq, hlook]
      · simp only [Entries.call, hlook, Option.isSome_some, if_true]
        exact ⟨⟨l, hl', hm'⟩, h.size⟩
    · rw [hself] at hno
      have hlook := lookup_eq_none hm' hno
      refine ⟨t', ?_, ?_⟩
      · simp [call, Entries.call, heq, hlook]
      · simp only [Entries.call, hlook, Option.isSome_none, Bool.false_eq_true, if_false]
        refine ⟨⟨_, hh, ?_⟩, ?_⟩
        · rw [hkk, List.map_append, List.map_cons, hself]
          refine List.perm_middle.trans (List.Perm.cons _ ?_)
          rw [← List.map_append]
          exact hm'
        · rw [hsz, show (t.setKey element key).size = t.size from rfl, h.size, List.length_cons, Nat.mod_add_mod]
  | erase node =>
    obtain ⟨e, he, rfl⟩ := hc
    obtain ⟨x, hx, rfl⟩ := List.mem_map.1 (hm.mem_iff.2 he)
    obtain ⟨t', l₁, l₂, heq, rfl, hh, hkk, hsz⟩ := erase_spec hl hx (hlen ▸ hk)
    refine ⟨t', by simp [call, Entries.call, heq], ?_⟩
    have hnd : (l₁ ++ x :: l₂).Nodup := by
      obtain ⟨s, hs, hn⟩ := hl.shaped
      rw [← hn]
      exact hs.tree.distinct
    have hfil : ((l₁ ++ x :: l₂).map fun y => (t.key y, y)).filter (fun e => e.2 ≠ x) =
        (l₁ ++ l₂).map fun y => (t.key y, y) := by
      obtain ⟨hx', -⟩ := List.nodup_cons.1 (List.nodup_middle.1 hnd)
      have hne : ∀ y ∈ l₁ ++ l₂, y ≠ x := by
        rintro y hy rfl
        exact hx' hy
      rw [List.filter_map, List.filter_append, List.filter_cons_of_neg (by simp), ← List.filter_append,
        List.filter_eq_self.2 fun y hy => by simpa using hne y hy]
    have hperm : ((l₁ ++ l₂).map fun y => (t.key y, y)).Perm (m.filter fun e => e.2 ≠ x) := by
      rw [← hfil]
      exact hm.filter _
    refine ⟨⟨_, hh, by rw [hkk]; exact hperm⟩, ?_⟩
    have hl2 : (m.filter fun e => e.2 ≠ x).length + 1 = m.length := by
      rw [← hperm.length_eq, ← hlen]
      simp
      omega
    rw [hsz, h.size, ← hl2]
    simp only [Entries.call]
    omega
  | find key =>
    exact ⟨t, by simp [call, Entries.call, hl.find hm key (hlen ▸ hk)], ⟨⟨l, hl, hm⟩, h.size⟩⟩

structure Agrees (C : Comparator K) (fuel : ℕ) (t : RbTree K) (m : Entries K) : Prop where
  find : ∀ key, t.find C.comp fuel key = some (m.lookup key)
  present : ∀ key node, m.lookup key = some node ↔ (key, node) ∈ m
  duplicate : ∀ element ≠ 0, (∃ e ∈ m, e.1 = t.key element) → t.insert C.comp fuel element = some (t, -1)
  size : t.size = m.length % 2 ^ 32
  walk : ∃ l, t.walk .left fuel = some l ∧ t.walk .right fuel = some l.reverse ∧
    l.Pairwise (fun x y => C.comp (t.key x) (t.key y) < 0) ∧ (l.map fun x => (t.key x, x)).Perm m ∧
    Linked t.toLinks l

lemma Implements.agrees (h : t.Implements C m) (hk : m.length < k) : t.Agrees C k m := by
  obtain ⟨l, hl, hm⟩ := h.nodes
  have hlen : l.length < k := by
    rw [← hm.length_eq, List.length_map] at hk
    exact hk
  refine ⟨fun key => hl.find hm key hlen, fun key node => ⟨fun hlook => ?_, fun hin => ?_⟩, ?_, h.size, ?_⟩
  · obtain ⟨e, he, rfl⟩ := Option.map_eq_some_iff.1 hlook
    have hkey : e.1 = key := by simpa using List.find?_some he
    rw [← hkey]
    exact List.mem_of_find?_eq_some he
  · obtain ⟨x, hx, heq⟩ := List.mem_map.1 (hm.mem_iff.2 hin)
    cases heq
    exact hl.lookup hm hx
  · rintro x hx0 ⟨e, he, hkey⟩
    obtain ⟨y, hy, rfl⟩ := List.mem_map.1 (hm.mem_iff.2 he)
    rcases insert_spec hl hx0 hlen with ⟨-, heq⟩ | ⟨hno, -⟩
    · exact heq
    · exact absurd hkey (hno y hy)
  · obtain ⟨s, hs, rfl⟩ := hl.shaped
    refine ⟨s.nodes .left, walk_spec hs hlen, ?_, hl.ordered, hm, hs.tree.linked⟩
    rw [walk_spec hs hlen, Shape.nodes_right]

lemma length_call_le (m : Entries K) (c : Call K) : (m.call c).1.length ≤ m.length + 1 := by
  cases c with
  | insert element key =>
    simp only [Entries.call]
    split_ifs <;> simp
  | erase node => exact Nat.le_trans (List.length_filter_le ..) (Nat.le_succ _)
  | find key => exact Nat.le_succ _

lemma run_spec (cs : List (Call K)) : ∀ {t : RbTree K} {m : Entries K},
    t.Implements C m → m.AllowsAll cs → m.length + cs.length < k →
    ∃ t', t.run C.comp k cs = some (t', (m.run cs).2) ∧ t'.Implements C (m.run cs).1 ∧ (m.run cs).1.length < k := by
  induction cs with
  | nil => exact fun h _ hk => ⟨_, rfl, h, by simpa [Entries.run] using hk⟩
  | cons c cs ih =>
    intro t m h hc hk
    obtain ⟨hc1, hc2⟩ := hc
    have hle := length_call_le m c
    rw [List.length_cons] at hk
    obtain ⟨t₁, h1, h2⟩ := call_spec h hc1 (by omega : m.length < k)
    obtain ⟨t', h3, h4, h5⟩ := ih h2 hc2 (by omega)
    exact ⟨t', by simp [run, h1, h3, Entries.run], h4, h5⟩

end RbTree

lemma init_implements (C : Comparator K) (memory : RbTree K) : (init memory).Implements C [] := by
  refine ⟨⟨[], ⟨⟨.leaf, ⟨⟨rfl, trivial, by simp [Shape.Distinct]⟩, ?_⟩, rfl⟩, by simp, ?_, ?_⟩, by simp⟩, rfl⟩
  · intro e
    simp [init]
  · simp [init]
  · simp [init]

/-- The tree is an ordered map, in every run of its operations. -/
theorem rbtree_refines_map [DecidableEq K] (C : Comparator K) (memory : RbTree K) (cs : List (Call K))
    (hcs : Entries.AllowsAll [] cs) (fuel : ℕ) (hfuel : cs.length < fuel) :
    ∃ t, (init memory).run C.comp fuel cs = some (t, (Entries.run [] cs).2) ∧
      t.Agrees C fuel (Entries.run [] cs).1 := by
  obtain ⟨t, h1, h2, h3⟩ := RbTree.run_spec cs (init_implements C memory) hcs (by simpa using hfuel)
  exact ⟨t, h1, h2.agrees h3⟩

def intComparator : Comparator ℤ where
  comp a b := a - b
  eq_zero a b := by omega
  swap a b := by omega
  trans a b c := by omega

theorem rbtree_refines_map_erase :
    let cs : List (Call ℤ) := [.insert 1 5, .insert 2 3, .insert 3 5, .insert 4 8, .erase 1, .find 5, .find 8]
    ∃ t, (init ⟨⟨fun _ => 7, fun _ _ => 7, 7⟩, fun _ => .red, fun _ => 0, 0⟩).run intComparator.comp 8 cs =
        some (t, (Entries.run [] cs).2) ∧ t.Agrees intComparator 8 (Entries.run [] cs).1 :=
  rbtree_refines_map intComparator _ _ (by simp [Entries.AllowsAll, Entries.Allows, Entries.call, Entries.lookup]) 8
    (by decide)

end PjProject.RedBlack
