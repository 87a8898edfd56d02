/-
Trees in memory whose nodes point at their children and at their parent.

`Focus` says that the memory holds a tree at the place of a zipper and the path above
it; moving the zipper changes nothing in memory.  The lemmas below say what the single
writes of a tree algorithm do to the pieces of a zipper.
-/

import Mathlib.Logic.Function.Basic
import Mathlib.Data.List.Perm.Basic
import NatPorte.Library.RedBlackTree

namespace LinkedTree

open RedBlackTree

structure Links (Ref : Type) where
  left : Option Ref
  right : Option Ref
  parent : Option Ref
  color : Color
  deriving DecidableEq, Repr

variable {Ref : Type}

namespace Links

def child (links : Links Ref) : Side → Option Ref
  | .left => links.left
  | .right => links.right

def setChild (links : Links Ref) (side : Side) (ref : Option Ref) : Links Ref :=
  match side with
  | .left => { links with left := ref }
  | .right => { links with right := ref }

/-- `near` at `side`, `far` at the other. -/
def branch (side : Side) (near far parent : Option Ref) (color : Color) : Links Ref :=
  match side with
  | .left => ⟨near, far, parent, color⟩
  | .right => ⟨far, near, parent, color⟩

variable {side : Side} {near far parent other : Option Ref} {color : Color}

@[simp] theorem child_branch_self : (branch side near far parent color).child side = near := by
  cases side <;> rfl

@[simp] theorem child_branch_opposite :
    (branch side near far parent color).child side.opposite = far := by
  cases side <;> rfl

@[simp] theorem child_branch_of_opposite :
    (branch side.opposite near far parent color).child side = far := by
  cases side <;> rfl

@[simp] theorem parent_branch : (branch side near far parent color).parent = parent := by
  cases side <;> rfl

@[simp] theorem color_branch : (branch side near far parent color).color = color := by
  cases side <;> rfl

@[simp] theorem setChild_branch_self :
    (branch side near far parent color).setChild side other =
      branch side other far parent color := by
  cases side <;> rfl

@[simp] theorem setChild_branch_opposite :
    (branch side near far parent color).setChild side.opposite other =
      branch side near other parent color := by
  cases side <;> rfl

@[simp] theorem setParent_branch :
    { branch side near far parent color with parent := other } =
      branch side near far other color := by
  cases side <;> rfl

@[simp] theorem setColor_branch {repainted : Color} :
    { branch side near far parent color with color := repainted } =
      branch side near far parent repainted := by
  cases side <;> rfl

end Links

/-- The links of every node, and the root. -/
structure Memory (Ref : Type) where
  links : Ref → Links Ref
  root : Option Ref

variable [DecidableEq Ref]

namespace Memory

def store (memory : Memory Ref) (ref : Ref) (links : Links Ref) : Memory Ref :=
  { memory with links := Function.update memory.links ref links }

def setChild (memory : Memory Ref) (ref : Ref) (side : Side) (child : Option Ref) : Memory Ref :=
  memory.store ref ((memory.links ref).setChild side child)

def setParent (memory : Memory Ref) (ref : Ref) (parent : Option Ref) : Memory Ref :=
  memory.store ref { memory.links ref with parent := parent }

def setColor (memory : Memory Ref) (ref : Ref) (color : Color) : Memory Ref :=
  memory.store ref { memory.links ref with color := color }

/-- A child, if there is one, gets its parent. -/
def adopt (memory : Memory Ref) (child parent : Option Ref) : Memory Ref :=
  match child with
  | none => memory
  | some child => memory.setParent child parent

/-- What points down at `old`, a child of `parent` or the root, points at `new`. -/
def relink (memory : Memory Ref) (parent : Option Ref) (old : Ref) (new : Option Ref) :
    Memory Ref :=
  match parent with
  | none => { memory with root := new }
  | some parent =>
      if (memory.links parent).left = some old then memory.setChild parent .left new
      else memory.setChild parent .right new

/-- Where `child` hangs below `parent`. -/
def sideOf (memory : Memory Ref) (parent : Ref) (child : Option Ref) : Side :=
  if (memory.links parent).left = child then .left else .right

variable (memory : Memory Ref) {ref other : Ref}

@[simp] theorem root_store (links : Links Ref) : (memory.store ref links).root = memory.root := rfl
@[simp] theorem root_setChild (side : Side) (child : Option Ref) :
    (memory.setChild ref side child).root = memory.root := rfl
@[simp] theorem root_setParent (parent : Option Ref) :
    (memory.setParent ref parent).root = memory.root := rfl
@[simp] theorem root_setColor (color : Color) :
    (memory.setColor ref color).root = memory.root := rfl

@[simp] theorem root_adopt (child parent : Option Ref) :
    (memory.adopt child parent).root = memory.root := by
  cases child <;> rfl

@[simp] theorem store_self (links : Links Ref) : (memory.store ref links).links ref = links :=
  Function.update_self ..

theorem store_other (different : other ≠ ref) (links : Links Ref) :
    (memory.store ref links).links other = memory.links other :=
  Function.update_of_ne different ..

@[simp] theorem setChild_self (side : Side) (child : Option Ref) :
    (memory.setChild ref side child).links ref = (memory.links ref).setChild side child :=
  store_self ..

@[simp] theorem setParent_self (parent : Option Ref) :
    (memory.setParent ref parent).links ref = { memory.links ref with parent := parent } :=
  store_self ..

@[simp] theorem setColor_self (color : Color) :
    (memory.setColor ref color).links ref = { memory.links ref with color := color } :=
  store_self ..

theorem setChild_other (different : other ≠ ref) (side : Side) (child : Option Ref) :
    (memory.setChild ref side child).links other = memory.links other :=
  store_other memory different _

theorem setParent_other (different : other ≠ ref) (parent : Option Ref) :
    (memory.setParent ref parent).links other = memory.links other :=
  store_other memory different _

theorem setColor_other (different : other ≠ ref) (color : Color) :
    (memory.setColor ref color).links other = memory.links other :=
  store_other memory different _

theorem adopt_other {child : Option Ref} (different : child ≠ some other) (parent : Option Ref) :
    (memory.adopt child parent).links other = memory.links other := by
  cases child with
  | none => rfl
  | some child => exact setParent_other memory (fun same => different (congrArg some same.symm)) _

theorem relink_other {parent : Option Ref} (different : parent ≠ some other) (old : Ref)
    (new : Option Ref) : (memory.relink parent old new).links other = memory.links other := by
  cases parent with
  | none => rfl
  | some parent =>
      have apart : other ≠ parent := fun same => different (congrArg some same.symm)
      rw [relink]
      split
      · exact setChild_other memory apart _ _
      · exact setChild_other memory apart _ _

end Memory

def Holds (links : Ref → Links Ref) (parent : Option Ref) : RefTree Ref → Prop
  | .leaf => True
  | .node color left ref right =>
      links ref = ⟨left.root, right.root, parent, color⟩ ∧
        Holds links (some ref) left ∧ Holds links (some ref) right

/-- The path above a subtree whose root is `hole`. -/
def HoldsPath (links : Ref → Links Ref) (hole : Option Ref) : Path Ref → Prop
  | [] => True
  | ⟨side, color, ref, sibling⟩ :: rest =>
      links ref = Links.branch side hole sibling.root (Path.parent rest) color ∧
        Holds links (some ref) sibling ∧ HoldsPath links (some ref) rest

def rootOf (hole : Option Ref) : Path Ref → Option Ref
  | [] => hole
  | frame :: rest => rootOf (some frame.ref) rest

def pathRefs : Path Ref → List Ref
  | [] => []
  | frame :: rest => frame.ref :: (frame.sibling.refs ++ pathRefs rest)

omit [DecidableEq Ref] in
theorem holds_branch {links : Ref → Links Ref} {parent : Option Ref} {side : Side} {color : Color}
    {near far : RefTree Ref} {ref : Ref} :
    Holds links parent (RefTree.branch side color near ref far) ↔
      links ref = Links.branch side near.root far.root parent color ∧
        Holds links (some ref) near ∧ Holds links (some ref) far := by
  cases side
  · exact Iff.rfl
  · exact and_congr_right fun _ => and_comm

section Frames

omit [DecidableEq Ref]

variable {links links' : Ref → Links Ref}

theorem Holds.frame {parent : Option Ref} {tree : RefTree Ref} (holds : Holds links parent tree)
    (same : ∀ ref ∈ tree.refs, links' ref = links ref) : Holds links' parent tree := by
  induction tree generalizing parent with
  | leaf => trivial
  | node color left ref right ihLeft ihRight =>
      obtain ⟨atRef, atLeft, atRight⟩ := holds
      refine ⟨?_, ihLeft atLeft ?_, ihRight atRight ?_⟩
      · rw [same ref (List.mem_append_right _ List.mem_cons_self)]
        exact atRef
      · intro other member
        exact same other (List.mem_append_left _ member)
      · intro other member
        exact same other (List.mem_append_right _ (List.mem_cons_of_mem ref member))

theorem HoldsPath.frame {hole : Option Ref} {path : Path Ref} (holds : HoldsPath links hole path)
    (same : ∀ ref ∈ pathRefs path, links' ref = links ref) : HoldsPath links' hole path := by
  induction path generalizing hole with
  | nil => trivial
  | cons frame rest ih =>
      obtain ⟨side, color, ref, sibling⟩ := frame
      obtain ⟨atRef, atSibling, atRest⟩ := holds
      refine ⟨?_, atSibling.frame ?_, ih atRest ?_⟩
      · rw [same ref List.mem_cons_self]
        exact atRef
      · intro other member
        exact same other (List.mem_cons_of_mem ref (List.mem_append_left _ member))
      · intro other member
        exact same other (List.mem_cons_of_mem ref (List.mem_append_right _ member))

theorem pathRefs_parent {path : Path Ref} {parent : Ref}
    (isParent : Path.parent path = some parent) : parent ∈ pathRefs path := by
  cases path with
  | nil => cases isParent
  | cons frame rest =>
      cases isParent
      exact List.mem_cons_self

theorem mem_pathRefs {inner outer : Path Ref} {side : Side} {color : Color} {ref : Ref}
    {sibling : RefTree Ref} : ref ∈ pathRefs (inner ++ ⟨side, color, ref, sibling⟩ :: outer) := by
  induction inner with
  | nil => exact List.mem_cons_self
  | cons frame rest ih => exact List.mem_cons_of_mem _ (List.mem_append_right _ ih)

theorem refs_plug_perm (tree : RefTree Ref) (path : Path Ref) :
    (Path.plug tree path).refs.Perm (tree.refs ++ pathRefs path) := by
  induction path generalizing tree with
  | nil =>
      rw [pathRefs, List.append_nil]
      exact List.Perm.refl _
  | cons frame rest ih =>
      obtain ⟨side, color, ref, sibling⟩ := frame
      refine (ih _).trans ?_
      have step : ((Frame.mk side color ref sibling).plug tree).refs.Perm
          (tree.refs ++ ref :: sibling.refs) := by
        cases side with
        | left => exact List.Perm.refl _
        | right =>
            change (sibling.refs ++ ref :: tree.refs).Perm (tree.refs ++ ref :: sibling.refs)
            refine List.perm_append_comm.trans ?_
            rw [List.cons_append]
            exact List.perm_middle.symm
      refine (step.append_right _).trans ?_
      rw [List.append_assoc, List.cons_append]
      exact List.Perm.refl _

end Frames

theorem Holds.adopt {memory : Memory Ref} {parent : Option Ref} {tree : RefTree Ref}
    (holds : Holds memory.links parent tree) (distinct : tree.refs.Nodup) (adopter : Option Ref) :
    Holds (memory.adopt tree.root adopter).links adopter tree := by
  cases tree with
  | leaf => trivial
  | node color left ref right =>
      obtain ⟨atRef, atLeft, atRight⟩ := holds
      obtain ⟨-, others, apart⟩ := List.nodup_append.mp distinct
      have notRight := (List.nodup_cons.mp others).1
      refine ⟨?_, atLeft.frame ?_, atRight.frame ?_⟩
      · change (memory.setParent ref adopter).links ref = _
        rw [Memory.setParent_self, atRef]
      · intro other member
        exact memory.setParent_other (apart other member ref List.mem_cons_self) adopter
      · intro other member
        exact memory.setParent_other (fun same : other = ref => notRight (same ▸ member)) adopter

theorem HoldsPath.relink {memory : Memory Ref} {path : Path Ref} {old : Ref}
    (holds : HoldsPath memory.links (some old) path) (distinct : (pathRefs path).Nodup)
    (outside : old ∉ pathRefs path) (new : Option Ref) :
    HoldsPath (memory.relink (Path.parent path) old new).links new path := by
  cases path with
  | nil => trivial
  | cons frame rest =>
      obtain ⟨side, color, ref, sibling⟩ := frame
      obtain ⟨atRef, atSibling, atRest⟩ := holds
      obtain ⟨notBelow, -⟩ := List.nodup_cons.mp distinct
      have step : memory.relink (Path.parent (⟨side, color, ref, sibling⟩ :: rest)) old new =
          memory.setChild ref side new := by
        rw [Path.parent_cons, Memory.relink, atRef]
        cases side with
        | left => exact if_pos rfl
        | right =>
            refine if_neg ?_
            intro isOld
            exact outside (List.mem_cons_of_mem ref (List.mem_append_left _ (RefTree.root_mem isOld)))
      rw [step]
      refine ⟨?_, atSibling.frame ?_, atRest.frame ?_⟩
      · rw [Memory.setChild_self, atRef, Links.setChild_branch_self]
      · intro other member
        refine memory.setChild_other ?_ side new
        rintro rfl
        exact notBelow (List.mem_append_left _ member)
      · intro other member
        refine memory.setChild_other ?_ side new
        rintro rfl
        exact notBelow (List.mem_append_right _ member)

theorem root_relink {memory : Memory Ref} {path : Path Ref} {old : Ref}
    (root : memory.root = rootOf (some old) path) (new : Option Ref) :
    (memory.relink (Path.parent path) old new).root = rootOf new path := by
  cases path with
  | nil => rfl
  | cons frame rest =>
      change (memory.relink (some frame.ref) old new).root = _
      rw [Memory.relink]
      split
      · exact root
      · exact root

structure Focus (memory : Memory Ref) (tree : RefTree Ref) (path : Path Ref) : Prop where
  subtree : Holds memory.links (Path.parent path) tree
  above : HoldsPath memory.links tree.root path
  rooted : memory.root = rootOf tree.root path
  distinct : (tree.refs ++ pathRefs path).Nodup

omit [DecidableEq Ref] in
theorem focus_up {memory : Memory Ref} {tree : RefTree Ref} {frame : Frame Ref} {rest : Path Ref} :
    Focus memory tree (frame :: rest) ↔ Focus memory (frame.plug tree) rest := by
  obtain ⟨side, color, ref, sibling⟩ := frame
  have same : (tree.refs ++ pathRefs (⟨side, color, ref, sibling⟩ :: rest)).Nodup ↔
      (((Frame.mk side color ref sibling).plug tree).refs ++ pathRefs rest).Nodup :=
    ((refs_plug_perm tree (⟨side, color, ref, sibling⟩ :: rest)).symm.trans
      (refs_plug_perm ((Frame.mk side color ref sibling).plug tree) rest)).nodup_iff
  constructor
  · intro focus
    obtain ⟨atRef, atSibling, atRest⟩ := focus.above
    constructor
    · exact holds_branch.mpr ⟨atRef, focus.subtree, atSibling⟩
    · rw [Frame.plug, RefTree.root_branch]
      exact atRest
    · rw [Frame.plug, RefTree.root_branch]
      exact focus.rooted
    · exact same.mp focus.distinct
  · intro focus
    obtain ⟨atRef, atTree, atSibling⟩ := holds_branch.mp focus.subtree
    have atRest := focus.above
    have root := focus.rooted
    rw [Frame.plug, RefTree.root_branch] at atRest root
    exact ⟨atTree, ⟨atRef, atSibling, atRest⟩, root, same.mpr focus.distinct⟩

omit [DecidableEq Ref] in
theorem focus_plug {memory : Memory Ref} {tree : RefTree Ref} {path : Path Ref} :
    Focus memory tree path ↔ Focus memory (Path.plug tree path) [] := by
  induction path generalizing tree with
  | nil => exact Iff.rfl
  | cons frame rest ih => exact focus_up.trans ih

omit [DecidableEq Ref] in
theorem focus_near {memory : Memory Ref} {path : Path Ref} {side : Side} {color : Color}
    {near far : RefTree Ref} {ref : Ref} :
    Focus memory (.branch side color near ref far) path ↔
      Focus memory near (⟨side, color, ref, far⟩ :: path) := by
  rw [focus_up, Frame.plug]

omit [DecidableEq Ref] in
theorem focus_far {memory : Memory Ref} {path : Path Ref} {side : Side} {color : Color}
    {near far : RefTree Ref} {ref : Ref} :
    Focus memory (.branch side color near ref far) path ↔
      Focus memory far (⟨side.opposite, color, ref, near⟩ :: path) := by
  rw [focus_up, Frame.plug, RefTree.branch_opposite]

omit [DecidableEq Ref] in
theorem focus_append {memory : Memory Ref} {tree : RefTree Ref} {inner outer : Path Ref} :
    Focus memory tree (inner ++ outer) ↔ Focus memory (Path.plug tree inner) outer := by
  rw [focus_plug, Path.plug_append, ← focus_plug]

section Focused

variable {memory : Memory Ref} {tree near far : RefTree Ref} {path : Path Ref} {side : Side}
  {color : Color} {ref : Ref}

omit [DecidableEq Ref] in
theorem Focus.links (focus : Focus memory (RefTree.branch side color near ref far) path) :
    memory.links ref = Links.branch side near.root far.root (Path.parent path) color :=
  (holds_branch.mp focus.subtree).1

omit [DecidableEq Ref] in
theorem Focus.parent_eq (focus : Focus memory tree path) (isRoot : tree.root = some ref) :
    (memory.links ref).parent = Path.parent path := by
  obtain ⟨near, far, shape⟩ := RefTree.branch_of_root isRoot .left
  rw [shape] at focus
  rw [focus.links, Links.parent_branch]

omit [DecidableEq Ref] in
theorem Focus.parent_links {rest : Path Ref} {sibling : RefTree Ref}
    (focus : Focus memory tree (⟨side, color, ref, sibling⟩ :: rest)) :
    memory.links ref = Links.branch side tree.root sibling.root (Path.parent rest) color :=
  focus.above.1

omit [DecidableEq Ref] in
theorem Focus.apart (focus : Focus memory (RefTree.branch side color near ref far) path) :
    ref ∉ near.refs ∧ ref ∉ far.refs ∧ ref ∉ pathRefs path ∧ near.refs.Nodup ∧ far.refs.Nodup ∧
      (pathRefs path).Nodup ∧ (∀ other ∈ near.refs, other ∉ far.refs ∧ other ∉ pathRefs path) ∧
      ∀ other ∈ far.refs, other ∉ pathRefs path := by
  obtain ⟨inTree, inPath, between⟩ := List.nodup_append.mp focus.distinct
  have outside : ∀ other, other ∈ (RefTree.branch side color near ref far).refs →
      other ∉ pathRefs path := fun other member above => between other member other above rfl
  have middle : ref ∉ near.refs ∧ ref ∉ far.refs ∧ near.refs.Nodup ∧ far.refs.Nodup ∧
      ∀ other ∈ near.refs, other ∉ far.refs := by
    cases side with
    | left =>
        obtain ⟨nearOnce, others, different⟩ := List.nodup_append.mp inTree
        obtain ⟨notFar, farOnce⟩ := List.nodup_cons.mp others
        exact ⟨fun member => different ref member ref List.mem_cons_self rfl, notFar, nearOnce,
          farOnce, fun other member inFar =>
            different other member other (List.mem_cons_of_mem ref inFar) rfl⟩
    | right =>
        obtain ⟨farOnce, others, different⟩ := List.nodup_append.mp inTree
        obtain ⟨notNear, nearOnce⟩ := List.nodup_cons.mp others
        exact ⟨notNear, fun member => different ref member ref List.mem_cons_self rfl, nearOnce,
          farOnce, fun other member inFar =>
            different other inFar other (List.mem_cons_of_mem ref member) rfl⟩
  obtain ⟨notNear, notFar, nearOnce, farOnce, nearFar⟩ := middle
  refine ⟨notNear, notFar, outside ref (RefTree.mem_refs_branch.mpr (.inl rfl)), nearOnce, farOnce,
    inPath, ?_, ?_⟩
  · intro other member
    exact ⟨nearFar other member, outside other (RefTree.mem_refs_branch.mpr (.inr (.inl member)))⟩
  · intro other member
    exact outside other (RefTree.mem_refs_branch.mpr (.inr (.inr member)))

theorem Focus.setColor (focus : Focus memory (RefTree.branch side color near ref far) path)
    (painted : Color) :
    Focus (memory.setColor ref painted) (RefTree.branch side painted near ref far) path := by
  obtain ⟨notNear, notFar, notPath, -⟩ := focus.apart
  obtain ⟨atRef, atNear, atFar⟩ := holds_branch.mp focus.subtree
  have elsewhere : ∀ other, other ≠ ref →
      (memory.setColor ref painted).links other = memory.links other :=
    fun other different => memory.setColor_other different painted
  constructor
  · refine holds_branch.mpr ⟨?_, atNear.frame ?_, atFar.frame ?_⟩
    · rw [Memory.setColor_self, atRef, Links.setColor_branch]
    · exact fun other member => elsewhere other (fun same => notNear (same ▸ member))
    · exact fun other member => elsewhere other (fun same => notFar (same ▸ member))
  · have atPath := focus.above
    rw [RefTree.root_branch] at atPath ⊢
    exact atPath.frame fun other member => elsewhere other (fun same => notPath (same ▸ member))
  · have root := focus.rooted
    rw [RefTree.root_branch] at root ⊢
    exact root
  · have distinct := focus.distinct
    cases side <;> exact distinct

/-- Which child of its parent a subtree is can be read off the parent's left link. -/
theorem Focus.sideOf_eq {rest : Path Ref} {sibling : RefTree Ref}
    (focus : Focus memory tree (⟨side, color, ref, sibling⟩ :: rest))
    (different : sibling.root ≠ tree.root) : memory.sideOf ref tree.root = side := by
  rw [Memory.sideOf, focus.parent_links]
  cases side with
  | left => exact if_pos rfl
  | right => exact if_neg different

omit [DecidableEq Ref] in
theorem Focus.sibling_root {rest : Path Ref} {sibling : RefTree Ref} {top : Ref}
    (focus : Focus memory tree (⟨side, color, ref, sibling⟩ :: rest))
    (isRoot : tree.root = some top) : sibling.root ≠ some top := by
  obtain ⟨-, -, -, -, -, -, apart, -⟩ := Focus.apart (focus_up.mp focus)
  exact fun inSibling => (apart top (RefTree.root_mem isRoot)).1 (RefTree.root_mem inSibling)

end Focused

/-- The memory holds a red-black tree of these references, in this order. -/
def Stores (memory : Memory Ref) (refs : List Ref) : Prop :=
  ∃ tree, Focus memory tree [] ∧ RedBlack tree ∧ tree.refs = refs

omit [DecidableEq Ref] in
theorem Stores.nodup {memory : Memory Ref} {refs : List Ref} (stores : Stores memory refs) :
    refs.Nodup := by
  obtain ⟨tree, focus, -, rfl⟩ := stores
  exact (List.nodup_append.mp focus.distinct).1

omit [DecidableEq Ref] in
theorem stores_empty (links : Ref → Links Ref) : Stores ⟨links, none⟩ [] :=
  ⟨.leaf, ⟨trivial, trivial, rfl, List.nodup_nil⟩, redBlack_leaf, rfl⟩

end LinkedTree
