import PjProject.LinkedTree
import Mathlib.Tactic

/-!
# The red-black tree

`pj_rbtree` over a memory of nodes. The address 0 is that of `null_node`, which is what every
missing link points to; its own links and colour are part of the memory and are written to as
the source does. Functions of the source that come in a left and a right form have the side as
an argument. A loop takes the number of rounds it may do, and gives `none` when they are used
up. The comparison function is an argument of the functions that call it.
-/
namespace PjProject.RedBlack

open LinkedTree

inductive Color
  | black | red
  deriving DecidableEq

/-- `pj_rbtree` with the nodes; `size` is an `unsigned`. -/
structure RbTree (K : Type*) extends Links where
  color : ℕ → Color
  key : ℕ → K
  size : ℕ

variable {K : Type*}

namespace RbTree

def setParent (t : RbTree K) (node value : ℕ) : RbTree K :=
  { t with parent := Function.update t.parent node value }

def setChild (t : RbTree K) (d : Side) (node value : ℕ) : RbTree K :=
  { t with child := Function.update t.child d (Function.update (t.child d) node value) }

def setColor (t : RbTree K) (node : ℕ) (value : Color) : RbTree K :=
  { t with color := Function.update t.color node value }

def setKey (t : RbTree K) (node : ℕ) (value : K) : RbTree K :=
  { t with key := Function.update t.key node value }

/-- Make the link of `parent` to `old`, or that of the tree, lead to `new`. -/
def replaceChild (t : RbTree K) (parent old new : ℕ) : RbTree K :=
  if parent ≠ 0 then
    if t.child .left parent = old then t.setChild .left parent new else t.setChild .right parent new
  else { t with root := new }

/-- `left_rotate` and `right_rotate`, to the side `d`. -/
def rotate (d : Side) (t : RbTree K) (node : ℕ) : RbTree K :=
  let rnode := t.child d.other node
  if rnode = 0 then t
  else
    let t := t.setChild d.other node (t.child d rnode)
    let t := if t.child d rnode ≠ 0 then t.setParent (t.child d rnode) node else t
    let parent := t.parent node
    let t := t.setParent rnode parent
    let t := t.replaceChild parent node rnode
    let t := t.setChild d rnode node
    t.setParent node rnode

/-- One round of `insert_fixup`, for a parent on the side `d`. -/
def insertCase (d : Side) (t : RbTree K) (node : ℕ) : RbTree K × ℕ :=
  let parent := t.parent node
  let temp := t.child d.other (t.parent parent)
  if t.color temp = .red then
    let t := t.setColor temp .black
    let node := parent
    let t := t.setColor node .black
    let node := t.parent node
    (t.setColor node .red, node)
  else
    let (t, node) :=
      if node = t.child d.other parent then (t.rotate d parent, parent) else (t, node)
    let temp := t.parent node
    let t := t.setColor temp .black
    let temp := t.parent temp
    let t := t.setColor temp .red
    (t.rotate d.other temp, node)

def insertLoop : ℕ → RbTree K → ℕ → Option (RbTree K)
  | 0, _, _ => none
  | k + 1, t, node =>
    if node ≠ t.root ∧ t.color (t.parent node) = .red then
      let parent := t.parent node
      let r :=
        if parent = t.child .left (t.parent parent) then t.insertCase .left node
        else t.insertCase .right node
      insertLoop k r.1 r.2
    else some t

def insertFixup (fuel : ℕ) (t : RbTree K) (node : ℕ) : Option (RbTree K) :=
  (insertLoop fuel t node).map fun t => t.setColor t.root .black

/-- The first part of a round of `delete_fixup`, for a node on the side `d`: a red sibling is
rotated up. The tree and the sibling. -/
def deleteSibling (d : Side) (t : RbTree K) (node : ℕ) : RbTree K × ℕ :=
  let temp := t.child d.other (t.parent node)
  if t.color temp = .red then
    let t := t.setColor temp .black
    let t := t.setColor (t.parent node) .red
    let t := t.rotate d (t.parent node)
    (t, t.child d.other (t.parent node))
  else (t, temp)

def deleteNephew (d : Side) (t : RbTree K) (node temp : ℕ) : RbTree K × ℕ :=
  if t.color (t.child d.other temp) = .black then
    let t := t.setColor (t.child d temp) .black
    let t := t.setColor temp .red
    let t := t.rotate d.other temp
    (t, t.child d.other (t.parent node))
  else (t, temp)

def deleteLast (d : Side) (t : RbTree K) (node temp : ℕ) : RbTree K :=
  let t := t.setColor temp (t.color (t.parent node))
  let t := t.setColor (t.child d.other temp) .black
  let t := t.setColor (t.parent node) .black
  t.rotate d (t.parent node)

/-- One round of `delete_fixup`. -/
def deleteCase (d : Side) (t : RbTree K) (node : ℕ) : RbTree K × ℕ :=
  let r := t.deleteSibling d node
  let t := r.1
  let temp := r.2
  if t.color (t.child d temp) = .black ∧ t.color (t.child d.other temp) = .black then
    (t.setColor temp .red, t.parent node)
  else
    let r := t.deleteNephew d node temp
    let t := r.1.deleteLast d node r.2
    (t, t.root)

def deleteLoop : ℕ → RbTree K → ℕ → Option (RbTree K × ℕ)
  | 0, _, _ => none
  | k + 1, t, node =>
    if node ≠ t.root ∧ t.color node = .black then
      let r :=
        if t.child .left (t.parent node) = node then t.deleteCase .left node
        else t.deleteCase .right node
      deleteLoop k r.1 r.2
    else some (t, node)

def deleteFixup (fuel : ℕ) (t : RbTree K) (node : ℕ) : Option (RbTree K) :=
  (deleteLoop fuel t node).map fun r => r.1.setColor r.2 .black

/-- The loops that go down to the last node on the side `d`. -/
def extreme (d : Side) : ℕ → RbTree K → ℕ → Option ℕ
  | 0, _, _ => none
  | k + 1, t, node => if t.child d node ≠ 0 then extreme d k t (t.child d node) else some node

/-- `null_node` is returned as `NULL`. -/
def toNull (node : ℕ) : Option ℕ := if node ≠ 0 then some node else none

/-- `pj_rbtree_first` and `pj_rbtree_last` -/
def first (d : Side) (fuel : ℕ) (t : RbTree K) : Option (Option ℕ) :=
  (t.extreme d fuel t.root).map toNull

/-- The loop of `pj_rbtree_next` that goes up. -/
def climb (d : Side) : ℕ → RbTree K → ℕ → ℕ → Option ℕ
  | 0, _, _, _ => none
  | k + 1, t, node, temp =>
    if temp ≠ 0 ∧ t.child d.other temp = node then climb d k t temp (t.parent temp) else some temp

/-- `pj_rbtree_next` and `pj_rbtree_prev` -/
def next (d : Side) (fuel : ℕ) (t : RbTree K) (node : ℕ) : Option (Option ℕ) :=
  if t.child d.other node ≠ 0 then (t.extreme d fuel (t.child d.other node)).map toNull
  else (t.climb d fuel node (t.parent node)).map toNull

/-- The walk from a node on by `pj_rbtree_next` or `pj_rbtree_prev`. -/
def walkFrom (d : Side) (fuel : ℕ) (t : RbTree K) : ℕ → Option ℕ → Option (List ℕ)
  | 0, _ => none
  | _ + 1, none => some []
  | k + 1, some node => (t.next d fuel node).bind fun n => (walkFrom d fuel t k n).map (node :: ·)

/-- The walk from `pj_rbtree_first` or `pj_rbtree_last` on. -/
def walk (d : Side) (fuel : ℕ) (t : RbTree K) : Option (List ℕ) :=
  (t.first d fuel).bind (t.walkFrom d fuel fuel)

/-- Where the search of `pj_rbtree_insert` ends. -/
inductive Search
  | found
  | below (parent : ℕ) (rv : ℤ)
  deriving DecidableEq

/-- The part of `pj_rbtree_insert` that links the node below `parent`. -/
def link (fuel : ℕ) (t : RbTree K) (element parent : ℕ) (rv : ℤ) : Option (RbTree K) :=
  let t := t.setColor element .red
  let t := (t.setChild .left element 0).setChild .right element 0
  if parent ≠ 0 then
    let t := t.setParent element parent
    let t := if rv < 0 then t.setChild .left parent element else t.setChild .right parent element
    t.insertFixup fuel element
  else
    let t := { t with root := element }
    let t := t.setParent element 0
    some (t.setColor element .black)

section Comp

variable (comp : K → K → ℤ)

def search : ℕ → RbTree K → K → ℕ → ℕ → ℤ → Option Search
  | 0, _, _, _, _, _ => none
  | k + 1, t, key, node, parent, rv =>
    if node ≠ 0 then
      let rv := comp key (t.key node)
      if rv = 0 then some .found
      else search k t key (if rv < 0 then t.child .left node else t.child .right node) node rv
    else some (.below parent rv)

def insert (fuel : ℕ) (t : RbTree K) (element : ℕ) : Option (RbTree K × ℤ) :=
  (t.search comp fuel (t.key element) t.root 0 0).bind fun
    | .found => some (t, -1)
    | .below parent rv =>
      (t.link fuel element parent rv).map fun t => ({ t with size := (t.size + 1) % 2 ^ 32 }, 0)

def findLoop : ℕ → RbTree K → K → ℕ → Option ℕ
  | 0, _, _, _ => none
  | k + 1, t, key, node =>
    if node ≠ 0 then
      let rv := comp key (t.key node)
      if rv = 0 then some node
      else findLoop k t key (if rv < 0 then t.child .left node else t.child .right node)
    else some node

/-- `pj_rbtree_find` -/
def find (fuel : ℕ) (t : RbTree K) (key : K) : Option (Option ℕ) :=
  (t.findLoop comp fuel key t.root).map toNull

end Comp

/-- `pj_rbtree_erase` up to its choice of the node to unlink, and that node. -/
def successor (fuel : ℕ) (t : RbTree K) (node : ℕ) : Option ℕ :=
  if t.child .left node = 0 ∨ t.child .right node = 0 then some node
  else t.extreme .left fuel (t.child .right node)

def unlink (t : RbTree K) (succ : ℕ) : RbTree K × ℕ :=
  let child := if t.child .left succ ≠ 0 then t.child .left succ else t.child .right succ
  let parent := t.parent succ
  let t := t.setParent child parent
  (t.replaceChild parent succ child, child)

/-- Give `succ` the links and the colour of `node`. -/
def takeLinks (t : RbTree K) (node succ : ℕ) : RbTree K :=
  let t := t.setParent succ (t.parent node)
  let t := t.setChild .left succ (t.child .left node)
  let t := t.setChild .right succ (t.child .right node)
  t.setColor succ (t.color node)

/-- Make `succ` the parent of a child that it has taken. -/
def adopt (t : RbTree K) (child succ : ℕ) : RbTree K := if child ≠ 0 then t.setParent child succ else t

/-- Put `succ` in the place of `node`. -/
def transplant (t : RbTree K) (node succ : ℕ) : RbTree K :=
  let t := t.takeLinks node succ
  let parent := t.parent node
  let t := if parent ≠ 0 then t.replaceChild parent node succ else t
  let t := t.adopt (t.child .left node) succ
  let t := t.adopt (t.child .right node) succ
  if t.root = node then { t with root := succ } else t

/-- `pj_rbtree_erase`, which returns `node`. The colour that decides on the fixup is read after
`succ` has taken that of `node`. -/
def erase (fuel : ℕ) (t : RbTree K) (node : ℕ) : Option (RbTree K) :=
  (t.successor fuel node).bind fun succ =>
    let (t, child) := t.unlink succ
    let t := if succ ≠ node then t.transplant node succ else t
    let fixed :=
      if t.color succ = .black then
        (if child ≠ 0 then t.deleteFixup fuel child else some t).map fun t => t.setColor 0 .black
      else some t
    fixed.map fun t => { t with size := (t.size + (2 ^ 32 - 1)) % 2 ^ 32 }

end RbTree

/-- `pj_rbtree_init`, in a memory that holds anything. -/
def init (memory : RbTree K) : RbTree K where
  root := 0
  size := 0
  parent := Function.update memory.parent 0 0
  child := fun d => Function.update (memory.child d) 0 0
  color := Function.update memory.color 0 .black
  key := memory.key

end PjProject.RedBlack
