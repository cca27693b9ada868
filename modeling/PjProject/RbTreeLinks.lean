import PjProject.RbTree

/-!
# The links of the red-black tree

Rotations and fixups keep the nodes and their order, whatever the colours are, so the links
stay those of a tree. Colours only decide which rotations are done, and that the loops end.
-/
namespace PjProject.RedBlack

open LinkedTree

variable {K : Type*}

namespace RbTree

section Writes

variable (t : RbTree K) (d : Side) (node value : ℕ)

@[simp] lemma setParent_parent (y : ℕ) :
    (t.setParent node value).parent y = if y = node then value else t.parent y := by
  simp [setParent, Function.update_apply]

@[simp] lemma setParent_child : (t.setParent node value).child = t.child := rfl

@[simp] lemma setParent_root : (t.setParent node value).root = t.root := rfl

@[simp] lemma setParent_color : (t.setParent node value).color = t.color := rfl

@[simp] lemma setParent_key : (t.setParent node value).key = t.key := rfl

@[simp] lemma setParent_size : (t.setParent node value).size = t.size := rfl

@[simp] lemma setChild_child (e : Side) (y : ℕ) :
    (t.setChild d node value).child e y = if e = d ∧ y = node then value else t.child e y := by
  by_cases he : e = d
  · subst he
    simp [setChild, Function.update_apply]
  · simp [setChild, he]

@[simp] lemma setChild_parent : (t.setChild d node value).parent = t.parent := rfl

@[simp] lemma setChild_root : (t.setChild d node value).root = t.root := rfl

@[simp] lemma setChild_color : (t.setChild d node value).color = t.color := rfl

@[simp] lemma setChild_key : (t.setChild d node value).key = t.key := rfl

@[simp] lemma setChild_size : (t.setChild d node value).size = t.size := rfl

@[simp] lemma setColor_toLinks (c : Color) : (t.setColor node c).toLinks = t.toLinks := rfl

@[simp] lemma setColor_color (c : Color) (y : ℕ) :
    (t.setColor node c).color y = if y = node then c else t.color y := by
  simp [setColor, Function.update_apply]

@[simp] lemma setColor_key (c : Color) : (t.setColor node c).key = t.key := rfl

@[simp] lemma setColor_size (c : Color) : (t.setColor node c).size = t.size := rfl

end Writes

def sideOf (t : RbTree K) (parent node : ℕ) : Side := if t.child .left parent = node then .left else .right

lemma replaceChild_fields (t : RbTree K) (parent old new : ℕ) :
    (t.replaceChild parent old new).parent = t.parent ∧ (∀ e y, (t.replaceChild parent old new).child e y =
        if parent ≠ 0 ∧ e = t.sideOf parent old ∧ y = parent then new else t.child e y) ∧
      (t.replaceChild parent old new).root = (if parent = 0 then new else t.root) ∧
      (t.replaceChild parent old new).color = t.color ∧ (t.replaceChild parent old new).key = t.key ∧
      (t.replaceChild parent old new).size = t.size := by
  unfold replaceChild sideOf
  by_cases h0 : parent = 0
  · simp [h0]
  · by_cases hl : t.child .left parent = old <;> simp [h0, hl]

variable {x : ℕ}

lemma rotate_fields (d : Side) (t : RbTree K) {r : ℕ} (hr : t.child d.other x = r) (h0 : r ≠ 0)
    (hb : t.child d r ≠ x) (hp : t.parent x ≠ x) :
    (∀ y, (t.rotate d x).parent y = if y = x then r else if y = r then t.parent x
      else if y = t.child d r ∧ t.child d r ≠ 0 then x else t.parent y) ∧
      (∀ e y, (t.rotate d x).child e y = if e = d ∧ y = r then x
        else if t.parent x ≠ 0 ∧ e = t.sideOf (t.parent x) x ∧ y = t.parent x then r
        else if e = d.other ∧ y = x then t.child d r else t.child e y) ∧
      (t.rotate d x).root = (if t.parent x = 0 then r else t.root) ∧
      (t.rotate d x).color = t.color ∧ (t.rotate d x).key = t.key ∧ (t.rotate d x).size = t.size := by
  -- the links before that of the parent is changed
  obtain ⟨u, hu, hup, huc, hur, hcol, hkey, hsize⟩ : ∃ u : RbTree K,
      t.rotate d x = ((u.replaceChild (t.parent x) x r).setChild d r x).setParent x r ∧
      (∀ y, u.parent y = if y = r then t.parent x
        else if y = t.child d r ∧ t.child d r ≠ 0 then x else t.parent y) ∧
      (∀ e y, u.child e y = if e = d.other ∧ y = x then t.child d r else t.child e y) ∧
      u.root = t.root ∧ u.color = t.color ∧ u.key = t.key ∧ u.size = t.size := by
    unfold rotate
    simp only [hr, if_neg h0]
    by_cases hz : t.child d r = 0
    · refine ⟨(t.setChild d.other x 0).setParent r (t.parent x), ?_, ?_, ?_, rfl, rfl, rfl, rfl⟩
      · simp [hz]
      · intro y
        simp [hz]
      · intro e y
        simp [hz]
    · refine ⟨((t.setChild d.other x (t.child d r)).setParent (t.child d r) x).setParent r (t.parent x),
        ?_, ?_, ?_, rfl, rfl, rfl, rfl⟩
      · simp [hz, Ne.symm hb]
      · intro y
        simp [hz]
      · intro e y
        simp
  have hside : u.sideOf (t.parent x) x = t.sideOf (t.parent x) x := by
    simp only [sideOf, huc, hp, and_false, if_false]
  obtain ⟨f1, f2, f3, f4, f5, f6⟩ := replaceChild_fields u (t.parent x) x r
  rw [hu]
  refine ⟨?_, ?_, ?_, ?_, ?_, ?_⟩
  · intro y
    simp only [setParent_parent, setChild_parent, f1, hup]
  · intro e y
    simp only [setParent_child, setChild_child, f2, huc, hside]
  · simp only [setParent_root, setChild_root, f3, hur]
  · simp only [setParent_color, setChild_color, f4, hcol]
  · simp only [setParent_key, setChild_key, f5, hkey]
  · simp only [setParent_size, setChild_size, f6, hsize]

variable {c : List Frame}

lemma sideOf_frame {t : RbTree K} {f : Frame}
    (h : RepFrames t.toLinks (f :: c) x) (hx : x ≠ 0) (hsib : x ∉ f.sibling) : t.sideOf f.ptr x = f.side := by
  obtain ⟨-, -, h3, h4, -⟩ := h
  have hne : t.child f.side.other f.ptr ≠ x := by
    rw [h4]
    rintro rfl
    exact hsib (Shape.ptr_mem fun he => hx (by rw [he]; rfl))
  unfold sideOf
  cases hs : f.side with
  | left =>
    rw [hs] at h3
    rw [if_pos h3]
  | right =>
    rw [hs] at hne
    exact if_neg hne

lemma relink_frames {t t' : RbTree K} {y : ℕ} (h : RepFrames t.toLinks c x) (hx0 : x ≠ 0)
    (hx : x ∉ frameNodes c) (hnd : (frameNodes c).Nodup) (hparent : ∀ z ∈ frameNodes c, t'.parent z = t.parent z)
    (hchild : ∀ z ∈ frameNodes c, ∀ e, t'.child e z =
      if top c ≠ 0 ∧ e = t.sideOf (top c) x ∧ z = top c then y else t.child e z)
    (hroot : t'.root = if top c = 0 then y else t.root) : RepFrames t'.toLinks c y := by
  refine h.congr hnd hparent ?_ ?_ ?_
  · intro z hz e hnot
    rw [hchild z hz, if_neg]
    rintro ⟨h1, h2, h3⟩
    cases c with
    | nil => exact h1 rfl
    | cons f c =>
      have hsib : x ∉ f.sibling := fun hin => hx (List.mem_cons_of_mem _ (List.mem_append_left _ hin))
      rw [top_cons, sideOf_frame h hx0 hsib] at h2
      exact hnot f (by simp) h2 h3
  · intro hne
    cases c with
    | nil => exact absurd rfl hne
    | cons f c => rw [hroot, top_cons, if_neg h.1]
  · cases c with
    | nil => simpa [holeLink] using hroot
    | cons f c =>
      have hsib : x ∉ f.sibling := fun hin => hx (List.mem_cons_of_mem _ (List.mem_append_left _ hin))
      rw [holeLink, hchild _ (by simp [frameNodes]), if_pos]
      exact ⟨h.1, by rw [top_cons, sideOf_frame h hx0 hsib], rfl⟩

lemma rotate_null {d : Side} {t : RbTree K} (h : t.child d.other x = 0) : t.rotate d x = t := by
  unfold rotate
  simp only [h, if_true]

/-- The tree has a shape, and `null_node` has no children. -/
structure Shaped (t : RbTree K) (s : Shape) : Prop where
  tree : Tree t.toLinks s
  null : ∀ e, t.child e 0 = 0

lemma rotate_shaped {d : Side} {t : RbTree K} {a b e : Shape} {r : ℕ}
    (hs : t.Shaped (plug (.join d a x (.join d b r e)) c)) :
    (t.rotate d x).Shaped (plug (.join d (.join d a x b) r e) c) ∧
      (t.rotate d x).color = t.color ∧ (t.rotate d x).key = t.key ∧ (t.rotate d x).size = t.size := by
  have h := hs.tree
  obtain ⟨hfr, hrep⟩ := h.plug
  obtain ⟨hx0, hxp, hxa, hxr, ha, hsub⟩ := (rep_join d).1 hrep
  obtain ⟨hr0, hrp, hrb, hre, hb, he⟩ := (rep_join d).1 hsub
  rw [Shape.ptr_join] at hxr hfr
  obtain ⟨hd1, hd2, hd3⟩ := distinct_plug.1 h.distinct
  obtain ⟨hxna, hxnr, hda, hdr, hdis⟩ := (Shape.distinct_join d).1 hd1
  obtain ⟨hrnb, hrne, hdb, hde, hdis'⟩ := (Shape.distinct_join d).1 hdr
  simp only [Shape.mem_join, not_or] at hxnr hd3 hdis
  obtain ⟨hxner, hxnb, hxne⟩ := hxnr
  have hxc : x ∉ frameNodes c := hd3 x (.inl rfl)
  have hrc : r ∉ frameNodes c := hd3 r (.inr (.inr (.inl rfl)))
  have hbx : b.ptr ≠ x := by
    rintro hb'
    exact hxnb (hb' ▸ Shape.ptr_mem fun hl => hx0 (by rw [← hb', hl]; rfl))
  have hbr : b ≠ .leaf → b.ptr ≠ r := fun hl hb' => hrnb (hb' ▸ Shape.ptr_mem hl)
  have hpx : top c ≠ x := top_ne hx0 hxc
  have hpr : top c ≠ r := top_ne hr0 hrc
  obtain ⟨f1, f2, f3, f4, f5, f6⟩ := rotate_fields d t hxr hr0 (by rw [hrb]; exact hbx) (by rw [hxp]; exact hpx)
  rw [hxp, hrb] at f1 f2
  rw [hxp] at f3
  have hparent : ∀ y, y ≠ x → y ≠ r → (b ≠ .leaf → y ≠ b.ptr) → (t.rotate d x).parent y = t.parent y := by
    intro y h1 h2 h3
    rw [f1, if_neg h1, if_neg h2, if_neg]
    rintro ⟨h4, h5⟩
    exact h3 (fun hl => h5 (by rw [hl]; rfl)) h4
  have hchild : ∀ y, y ≠ x → y ≠ r → (top c ≠ 0 → y ≠ top c) → ∀ s,
      (t.rotate d x).child s y = t.child s y := by
    intro y h1 h2 h3 s
    rw [f2, if_neg (by intro hc; exact h2 hc.2), if_neg (by intro hc; exact h3 hc.1 hc.2.2), if_neg (by intro hc; exact h1 hc.2)]
  have hsubtop : ∀ y, y ∉ frameNodes c → top c ≠ 0 → y ≠ top c := by
    rintro y hy hne rfl
    exact (top_eq_zero_or_mem c).elim hne hy
  refine ⟨⟨Tree.of_plug ?_ ?_ ?_, fun s => ?_⟩, f4, f5, f6⟩
  · rw [Shape.ptr_join]
    refine relink_frames hfr hx0 hxc hd2 ?_ ?_ f3
    · intro y hy
      refine hparent y (fun hyx => hxc (hyx ▸ hy)) (fun hyr => hrc (hyr ▸ hy)) ?_
      rintro hl rfl
      exact hd3 _ (.inr (.inr (.inr (.inl (Shape.ptr_mem hl))))) hy
    · intro y hy s
      rw [f2, if_neg (by intro hc; exact hrc (hc.2 ▸ hy))]
      congr 1
      rw [if_neg (by intro hc; exact hxc (hc.2 ▸ hy))]
  · refine (rep_join d).2 ⟨hr0, ?_, ?_, ?_, (rep_join d).2 ⟨hx0, ?_, ?_, ?_, ?_, ?_⟩, ?_⟩
    · rw [f1, if_neg (Ne.symm hxner), if_pos rfl]
    · rw [f2, if_pos ⟨rfl, rfl⟩, Shape.ptr_join]
    · rw [f2, if_neg (by simp), if_neg (by intro hc; exact hpr hc.2.2.symm), if_neg (by intro hc; exact hxner hc.2.symm), hre]
    · rw [f1, if_pos rfl]
    · rw [f2, if_neg (by intro hc; exact hxner hc.2), if_neg (by intro hc; exact hpx hc.2.2.symm), if_neg (by simp), hxa]
    · rw [f2, if_neg (by simp), if_neg (by intro hc; exact hpx hc.2.2.symm), if_pos ⟨rfl, rfl⟩]
    · have hya : ∀ y ∈ a, y ≠ x ∧ y ≠ r ∧ (b ≠ .leaf → y ≠ b.ptr) ∧ y ∉ frameNodes c := by
        intro y hy
        obtain ⟨g1, g2, g3⟩ := hdis y hy
        exact ⟨fun heq => hxna (heq ▸ hy), g1, fun hl heq => g2 (heq ▸ Shape.ptr_mem hl), hd3 y (.inr (.inl hy))⟩
      refine ha.congr hda (fun y hy => ?_) (fun y hy _ => ?_) fun hl => ?_
      · obtain ⟨g1, g2, -, g4⟩ := hya y hy
        exact hchild y g1 g2 (hsubtop y g4)
      · obtain ⟨g1, g2, g3, -⟩ := hya y hy
        exact hparent y g1 g2 g3
      · obtain ⟨g1, g2, g3, -⟩ := hya _ (Shape.ptr_mem hl)
        exact (hparent _ g1 g2 g3).trans (ha.parent_ptr hl)
    · have hyb : ∀ y ∈ b, y ≠ x ∧ y ≠ r ∧ y ∉ frameNodes c := fun y hy =>
        ⟨fun heq => hxnb (heq ▸ hy), fun heq => hrnb (heq ▸ hy), hd3 y (.inr (.inr (.inr (.inl hy))))⟩
      refine hb.congr hdb (fun y hy => ?_) (fun y hy hne => ?_) fun hl => ?_
      · obtain ⟨g1, g2, g3⟩ := hyb y hy
        exact hchild y g1 g2 (hsubtop y g3)
      · obtain ⟨g1, g2, -⟩ := hyb y hy
        exact hparent y g1 g2 fun _ => hne
      · have hb0 := hb.ne_zero (Shape.ptr_mem hl)
        rw [f1, if_neg hbx, if_neg (hbr hl), if_pos ⟨rfl, hb0⟩]
    · have hye : ∀ y ∈ e, y ≠ x ∧ y ≠ r ∧ (b ≠ .leaf → y ≠ b.ptr) ∧ y ∉ frameNodes c := by
        intro y hy
        exact ⟨fun heq => hxne (heq ▸ hy), fun heq => hrne (heq ▸ hy),
          fun hl heq => hdis' _ (Shape.ptr_mem hl) (heq ▸ hy), hd3 y (.inr (.inr (.inr (.inr hy))))⟩
      refine he.congr hde (fun y hy => ?_) (fun y hy _ => ?_) fun hl => ?_
      · obtain ⟨g1, g2, -, g4⟩ := hye y hy
        exact hchild y g1 g2 (hsubtop y g4)
      · obtain ⟨g1, g2, g3, -⟩ := hye y hy
        exact hparent y g1 g2 g3
      · obtain ⟨g1, g2, g3, -⟩ := hye _ (Shape.ptr_mem hl)
        exact (hparent _ g1 g2 g3).trans (he.parent_ptr hl)
  · have hnodes := nodes_plug_congr (Shape.nodes_rotate d .left a x b r e) c
    rw [Shape.Distinct, hnodes]
    exact h.distinct
  · exact (hchild 0 (Ne.symm hx0) (Ne.symm hr0) Ne.symm s).trans (hs.null s)

end RbTree

end PjProject.RedBlack
