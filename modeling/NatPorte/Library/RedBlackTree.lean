/-
Red-black trees of references, seen from any node.

A tree and the path above it form a zipper; the in-order list of the whole does not
depend on where the zipper stands.  The red-black conditions split along the zipper into
a condition on the subtree and one on the path, which is what a repair that walks
upwards has to restore.
-/

import Mathlib.Algebra.Group.Nat.Defs
import Mathlib.Data.Nat.Log
import Mathlib.Data.List.Nodup

namespace RedBlackTree

inductive Color where
  | black | red
  deriving DecidableEq, Repr

inductive Side where
  | left | right
  deriving DecidableEq, Repr

namespace Side

def opposite : Side → Side
  | .left => .right
  | .right => .left

@[simp] theorem opposite_opposite (side : Side) : side.opposite.opposite = side := by
  cases side <;> rfl

theorem eq_opposite {side other : Side} (different : side ≠ other) : side = other.opposite := by
  cases side <;> cases other <;> first | rfl | exact absurd rfl different

end Side

inductive RefTree (Ref : Type) where
  | leaf
  | node (color : Color) (left : RefTree Ref) (ref : Ref) (right : RefTree Ref)
  deriving Repr

/-- One step of the path above a subtree: the subtree hangs at `side` of `ref`. -/
structure Frame (Ref : Type) where
  side : Side
  color : Color
  ref : Ref
  sibling : RefTree Ref

/-- The innermost step comes first. -/
abbrev Path (Ref : Type) := List (Frame Ref)

variable {Ref : Type}

namespace RefTree

/-- An absent child counts as black. -/
def color : RefTree Ref → Color
  | .leaf => .black
  | .node color _ _ _ => color

def root : RefTree Ref → Option Ref
  | .leaf => none
  | .node _ _ ref _ => some ref

/-- The references in order. -/
def refs : RefTree Ref → List Ref
  | .leaf => []
  | .node _ left ref right => left.refs ++ ref :: right.refs

def depth : RefTree Ref → Nat
  | .leaf => 0
  | .node _ left _ right => max left.depth right.depth + 1

/-- A node with the subtree `near` at `side` and `far` at the other. -/
def branch (side : Side) (color : Color) (near : RefTree Ref) (ref : Ref) (far : RefTree Ref) :
    RefTree Ref :=
  match side with
  | .left => .node color near ref far
  | .right => .node color far ref near

def blacken : RefTree Ref → RefTree Ref
  | .leaf => .leaf
  | .node _ left ref right => .node .black left ref right

theorem branch_opposite (side : Side) (color : Color) (near : RefTree Ref) (ref : Ref)
    (far : RefTree Ref) :
    branch side.opposite color near ref far = branch side color far ref near := by
  cases side <;> rfl

@[simp] theorem root_branch (side : Side) (color : Color) (near : RefTree Ref) (ref : Ref)
    (far : RefTree Ref) : (branch side color near ref far).root = some ref := by
  cases side <;> rfl

@[simp] theorem color_branch (side : Side) (color : Color) (near : RefTree Ref) (ref : Ref)
    (far : RefTree Ref) : (branch side color near ref far).color = color := by
  cases side <;> rfl

@[simp] theorem refs_blacken (tree : RefTree Ref) : tree.blacken.refs = tree.refs := by
  cases tree <;> rfl

@[simp] theorem root_blacken (tree : RefTree Ref) : tree.blacken.root = tree.root := by
  cases tree <;> rfl

theorem refs_rotate {side : Side} {above below above' below' : Color} {near middle far : RefTree Ref}
    {left right : Ref} :
    (branch side above (branch side below near left middle) right far).refs =
      (branch side above' near left (branch side below' middle right far)).refs := by
  cases side <;> simp [branch, refs]

theorem refs_rotate_twice {side : Side} {above below inner above' below' inner' : Color}
    {near middle far last : RefTree Ref} {left top right : Ref} :
    (branch side above (branch side below near left (branch side inner middle top far)) right
        last).refs =
      (branch side above' (branch side below' near left middle) top
        (branch side inner' far right last)).refs := by
  cases side <;> simp [branch, refs]

theorem refs_branch_congr {side : Side} {color painted : Color} {near far near' far' : RefTree Ref}
    {ref : Ref} (sameNear : near.refs = near'.refs) (sameFar : far.refs = far'.refs) :
    (branch side color near ref far).refs = (branch side painted near' ref far').refs := by
  cases side <;> simp [branch, refs, sameNear, sameFar]

/-- The references of a tree, met on the way to `side`. -/
def along (side : Side) (tree : RefTree Ref) : List Ref :=
  match side with
  | .right => tree.refs
  | .left => tree.refs.reverse

theorem along_branch {side : Side} {color : Color} {near far : RefTree Ref} {ref : Ref} :
    along side (branch side color near ref far) = along side far ++ ref :: along side near := by
  cases side <;> simp [along, branch, refs]

theorem mem_refs_branch {side : Side} {color : Color} {near far : RefTree Ref} {ref other : Ref} :
    other ∈ (branch side color near ref far).refs ↔
      other = ref ∨ other ∈ near.refs ∨ other ∈ far.refs := by
  cases side
  · simp only [branch, refs, List.mem_append, List.mem_cons]
    exact or_left_comm
  · simp only [branch, refs, List.mem_append, List.mem_cons]
    exact ⟨fun member => member.elim (.inr ∘ .inr) (Or.imp_right .inl),
      fun member => member.elim (.inr ∘ .inl) (Or.elim · (.inr ∘ .inr) .inl)⟩

theorem root_mem {tree : RefTree Ref} {ref : Ref} (isRoot : tree.root = some ref) :
    ref ∈ tree.refs := by
  cases tree with
  | leaf => cases isRoot
  | node color left top right =>
      cases isRoot
      exact List.mem_append_right _ List.mem_cons_self

theorem root_eq_none {tree : RefTree Ref} : tree.root = none ↔ tree = .leaf := by
  cases tree <;> simp [root]

theorem branch_of_color {tree : RefTree Ref} (red : tree.color = .red) (side : Side) :
    ∃ near ref far, tree = branch side .red near ref far := by
  cases tree with
  | leaf => cases red
  | node color left ref right =>
      change color = .red at red
      subst red
      cases side
      · exact ⟨left, ref, right, rfl⟩
      · exact ⟨right, ref, left, rfl⟩

theorem branch_of_root {tree : RefTree Ref} {ref : Ref} (isRoot : tree.root = some ref)
    (side : Side) : ∃ near far, tree = branch side tree.color near ref far := by
  cases tree with
  | leaf => cases isRoot
  | node color left top right =>
      cases isRoot
      cases side
      · exact ⟨left, right, rfl⟩
      · exact ⟨right, left, rfl⟩

end RefTree

open RefTree

def Frame.plug (frame : Frame Ref) (tree : RefTree Ref) : RefTree Ref :=
  branch frame.side frame.color tree frame.ref frame.sibling

namespace Path

def plug (tree : RefTree Ref) : Path Ref → RefTree Ref
  | [] => tree
  | frame :: rest => plug (frame.plug tree) rest

/-- The node that the subtree hangs from. -/
def parent (path : Path Ref) : Option Ref := path.head?.map Frame.ref

/-- The references before the subtree, in order. -/
def before : Path Ref → List Ref
  | [] => []
  | ⟨.left, _, _, _⟩ :: rest => before rest
  | ⟨.right, _, ref, sibling⟩ :: rest => before rest ++ (sibling.refs ++ [ref])

/-- The references behind the subtree, in order. -/
def after : Path Ref → List Ref
  | [] => []
  | ⟨.left, _, ref, sibling⟩ :: rest => ref :: sibling.refs ++ after rest
  | ⟨.right, _, _, _⟩ :: rest => after rest

@[simp] theorem parent_nil : parent ([] : Path Ref) = none := rfl
@[simp] theorem parent_cons (frame : Frame Ref) (rest : Path Ref) :
    parent (frame :: rest) = some frame.ref := rfl

theorem plug_append (tree : RefTree Ref) (inner outer : Path Ref) :
    plug tree (inner ++ outer) = plug (plug tree inner) outer := by
  induction inner generalizing tree with
  | nil => rfl
  | cons frame rest ih => exact ih (frame.plug tree)

theorem refs_plug (tree : RefTree Ref) (path : Path Ref) :
    (plug tree path).refs = before path ++ (tree.refs ++ after path) := by
  induction path generalizing tree with
  | nil => simp [plug, before, after]
  | cons frame rest ih =>
      obtain ⟨side, color, ref, sibling⟩ := frame
      rw [plug, ih]
      cases side <;> simp [before, after, Frame.plug, branch, refs]

theorem refs_plug_congr {tree other : RefTree Ref} (same : tree.refs = other.refs)
    (path : Path Ref) : (plug tree path).refs = (plug other path).refs := by
  rw [refs_plug, refs_plug, same]

theorem before_append (inner outer : Path Ref) :
    before (inner ++ outer) = before outer ++ before inner := by
  induction inner with
  | nil => simp [before]
  | cons frame rest ih =>
      obtain ⟨side, color, ref, sibling⟩ := frame
      cases side <;> simp [before, ih]

theorem after_append (inner outer : Path Ref) :
    after (inner ++ outer) = after inner ++ after outer := by
  induction inner with
  | nil => simp [after]
  | cons frame rest ih =>
      obtain ⟨side, color, ref, sibling⟩ := frame
      cases side <;> simp [after, ih]

theorem before_of_left {path : Path Ref} (sides : ∀ frame ∈ path, frame.side = .left) :
    before path = [] := by
  induction path with
  | nil => rfl
  | cons frame rest ih =>
      obtain ⟨side, color, ref, sibling⟩ := frame
      cases sides _ List.mem_cons_self
      exact ih fun frame member => sides frame (List.mem_cons_of_mem _ member)

/-- The references that lie on `side` of the subtree, the nearest one first. -/
def beyond (side : Side) (path : Path Ref) : List Ref :=
  match side with
  | .right => after path
  | .left => (before path).reverse

@[simp] theorem beyond_nil (side : Side) : beyond side ([] : Path Ref) = [] := by
  cases side <;> rfl

theorem beyond_self {side : Side} {color : Color} {ref : Ref} {sibling : RefTree Ref}
    {rest : Path Ref} : beyond side (⟨side, color, ref, sibling⟩ :: rest) = beyond side rest := by
  cases side <;> rfl

theorem beyond_opposite {side : Side} {color : Color} {ref : Ref} {sibling : RefTree Ref}
    {rest : Path Ref} : beyond side (⟨side.opposite, color, ref, sibling⟩ :: rest) =
      ref :: (along side sibling ++ beyond side rest) := by
  cases side <;> simp [beyond, along, Side.opposite, after, before]

theorem along_plug_opposite {side : Side} {path : Path Ref}
    (sides : ∀ frame ∈ path, frame.side = side.opposite) {tree : RefTree Ref} {first : Ref}
    (isFirst : (along side tree).head? = some first) :
    (along side (plug tree path)).head? = some first := by
  induction path generalizing tree with
  | nil => exact isFirst
  | cons frame rest ih =>
      obtain ⟨side', color, ref, sibling⟩ := frame
      have isSide : side' = side.opposite := sides _ List.mem_cons_self
      subst isSide
      refine ih (fun frame member => sides frame (List.mem_cons_of_mem _ member)) ?_
      rw [Frame.plug, branch_opposite, along_branch, List.head?_append, isFirst]
      rfl

theorem depth_plug (tree : RefTree Ref) (path : Path Ref) :
    tree.depth + path.length ≤ (plug tree path).depth := by
  induction path generalizing tree with
  | nil => exact Nat.le_refl _
  | cons frame rest ih =>
      have deeper := ih (frame.plug tree)
      have step : tree.depth + 1 ≤ (frame.plug tree).depth := by
        obtain ⟨side, color, ref, sibling⟩ := frame
        cases side <;> simp only [Frame.plug, branch, depth] <;> omega
      rw [plug, List.length_cons]
      omega

theorem exists_plug {whole : RefTree Ref} {ref : Ref} (member : ref ∈ whole.refs) :
    ∃ color left right path, whole = plug (.node color left ref right) path := by
  induction whole with
  | leaf => cases member
  | node color left top right ihLeft ihRight =>
      rcases List.mem_append.mp member with inLeft | others
      · obtain ⟨color', left', right', path, placed⟩ := ihLeft inLeft
        refine ⟨color', left', right', path ++ [⟨.left, color, top, right⟩], ?_⟩
        rw [plug_append, ← placed]
        rfl
      · rcases List.mem_cons.mp others with rfl | inRight
        · exact ⟨color, left, right, [], rfl⟩
        · obtain ⟨color', left', right', path, placed⟩ := ihRight inRight
          refine ⟨color', left', right', path ++ [⟨.right, color, top, left⟩], ?_⟩
          rw [plug_append, ← placed]
          rfl

end Path

/-- No red node has a red child, and every way down meets `height` black nodes. -/
def Height : RefTree Ref → Nat → Prop
  | .leaf, height => height = 0
  | .node .red left _ right, height =>
      Height left height ∧ Height right height ∧ left.color = .black ∧ right.color = .black
  | .node .black _ _ _, 0 => False
  | .node .black left _ right, height + 1 => Height left height ∧ Height right height

/-- What is left to ask of a subtree of that height whose root has that color. -/
def Fits : Path Ref → Color → Nat → Prop
  | [], color, _ => color = .black
  | ⟨_, .red, _, sibling⟩ :: rest, color, height =>
      color = .black ∧ Height sibling height ∧ sibling.color = .black ∧ Fits rest .red height
  | ⟨_, .black, _, sibling⟩ :: rest, _, height =>
      Height sibling height ∧ Fits rest .black (height + 1)

def RedBlack (tree : RefTree Ref) : Prop := tree.color = .black ∧ ∃ height, Height tree height

theorem height_branch_red {side : Side} {near far : RefTree Ref} {ref : Ref} {height : Nat} :
    Height (branch side .red near ref far) height ↔
      Height near height ∧ Height far height ∧ near.color = .black ∧ far.color = .black := by
  cases side
  · exact Iff.rfl
  · exact ⟨fun ⟨far', near', farBlack, nearBlack⟩ => ⟨near', far', nearBlack, farBlack⟩,
      fun ⟨near', far', nearBlack, farBlack⟩ => ⟨far', near', farBlack, nearBlack⟩⟩

theorem height_branch_black {side : Side} {near far : RefTree Ref} {ref : Ref} {height : Nat} :
    Height (branch side .black near ref far) (height + 1) ↔
      Height near height ∧ Height far height := by
  cases side
  · exact Iff.rfl
  · exact and_comm

theorem height_leaf : Height (.leaf : RefTree Ref) 0 := rfl

theorem branch_of_height {tree : RefTree Ref} {height : Nat} (black : tree.color = .black)
    (tall : Height tree (height + 1)) (side : Side) :
    ∃ near ref far, tree = branch side .black near ref far ∧
      Height near height ∧ Height far height := by
  cases tree with
  | leaf => cases tall
  | node color left ref right =>
      change color = .black at black
      subst black
      cases side
      · exact ⟨left, ref, right, rfl, tall⟩
      · exact ⟨right, ref, left, rfl, tall.2, tall.1⟩

theorem Fits.weaken {path : Path Ref} {height : Nat} (fits : Fits path .red height) :
    Fits path .black height := by
  cases path with
  | nil => rfl
  | cons frame rest =>
      obtain ⟨side, color, ref, sibling⟩ := frame
      cases color with
      | red => cases fits.1
      | black => exact fits

theorem Fits.black {path : Path Ref} {color : Color} {height : Nat}
    (fits : Fits path color height) : Fits path .black height := by
  cases color with
  | black => exact fits
  | red => exact fits.weaken

theorem Fits.replace {inner outer : Path Ref} {side : Side} {color : Color} {ref : Ref}
    {sibling : RefTree Ref} {below : Color} {height : Nat}
    (fits : Fits (inner ++ ⟨side, color, ref, sibling⟩ :: outer) below height) (new : Ref) :
    Fits (inner ++ ⟨side, color, new, sibling⟩ :: outer) below height := by
  induction inner generalizing below height with
  | nil => cases color <;> exact fits
  | cons frame rest ih =>
      obtain ⟨side, color, ref, sibling⟩ := frame
      cases color with
      | red => exact ⟨fits.1, fits.2.1, fits.2.2.1, ih fits.2.2.2⟩
      | black => exact ⟨fits.1, ih fits.2⟩

theorem Fits.plug {tree : RefTree Ref} {path : Path Ref} {height : Nat}
    (tall : Height tree height) (fits : Fits path tree.color height) :
    RedBlack (Path.plug tree path) := by
  induction path generalizing tree height with
  | nil => exact ⟨fits, height, tall⟩
  | cons frame rest ih =>
      obtain ⟨side, color, ref, sibling⟩ := frame
      cases color with
      | red =>
          obtain ⟨black, sibTall, sibBlack, fits⟩ := fits
          refine @ih (branch side .red tree ref sibling) height ?_ ?_
          · exact height_branch_red.mpr ⟨tall, sibTall, black, sibBlack⟩
          · rw [color_branch]
            exact fits
      | black =>
          obtain ⟨sibTall, fits⟩ := fits
          refine @ih (branch side .black tree ref sibling) (height + 1) ?_ ?_
          · exact height_branch_black.mpr ⟨tall, sibTall⟩
          · rw [color_branch]
            exact fits

theorem RedBlack.fits {tree : RefTree Ref} {path : Path Ref}
    (whole : RedBlack (Path.plug tree path)) :
    ∃ height, Height tree height ∧ Fits path tree.color height := by
  induction path generalizing tree with
  | nil =>
      obtain ⟨black, height, tall⟩ := whole
      exact ⟨height, tall, black⟩
  | cons frame rest ih =>
      obtain ⟨side, color, ref, sibling⟩ := frame
      obtain ⟨height, tall, fits⟩ := @ih (branch side color tree ref sibling) whole
      rw [color_branch] at fits
      cases color with
      | red =>
          obtain ⟨near, far, nearBlack, farBlack⟩ := height_branch_red.mp tall
          exact ⟨height, near, nearBlack, far, farBlack, fits⟩
      | black =>
          cases height with
          | zero => cases side <;> cases tall
          | succ height =>
              obtain ⟨near, far⟩ := height_branch_black.mp tall
              exact ⟨height, near, far, fits⟩

theorem RedBlack.blacken_eq {tree : RefTree Ref} (whole : RedBlack tree) : tree.blacken = tree := by
  cases tree with
  | leaf => rfl
  | node color left ref right =>
      rw [show color = .black from whole.1]
      rfl

theorem Height.blacken {tree : RefTree Ref} {height : Nat} (tall : Height tree height)
    (red : tree.color = .red) : Height tree.blacken (height + 1) := by
  obtain ⟨near, ref, far, rfl⟩ := RefTree.branch_of_color red .left
  exact ⟨tall.1, tall.2.1⟩

theorem redBlack_leaf : RedBlack (.leaf : RefTree Ref) := ⟨rfl, 0, rfl⟩

theorem Height.size {tree : RefTree Ref} {height : Nat} (tall : Height tree height) :
    2 ^ height ≤ tree.refs.length + 1 := by
  induction tree generalizing height with
  | leaf =>
      rw [show height = 0 from tall]
      exact Nat.le_refl _
  | node color left ref right ihLeft ihRight =>
      rw [refs, List.length_append, List.length_cons]
      cases color with
      | red =>
          have bound := ihLeft tall.1
          omega
      | black =>
          cases height with
          | zero => cases tall
          | succ height =>
              have leftBound := ihLeft tall.1
              have rightBound := ihRight tall.2
              rw [Nat.pow_succ]
              omega

theorem Height.depth {tree : RefTree Ref} {height : Nat} (tall : Height tree height) :
    tree.depth ≤ 2 * height + if tree.color = .red then 1 else 0 := by
  induction tree generalizing height with
  | leaf => exact Nat.zero_le _
  | node color left ref right ihLeft ihRight =>
      cases color with
      | red =>
          obtain ⟨leftTall, rightTall, leftBlack, rightBlack⟩ := tall
          have leftBound := ihLeft leftTall
          have rightBound := ihRight rightTall
          rw [if_neg (by rw [leftBlack]; decide)] at leftBound
          rw [if_neg (by rw [rightBlack]; decide)] at rightBound
          simp only [RefTree.depth, RefTree.color, if_true]
          omega
      | black =>
          cases height with
          | zero => cases tall
          | succ height =>
              have leftBound := ihLeft tall.1
              have rightBound := ihRight tall.2
              have leftRed : (if left.color = .red then 1 else 0) ≤ 1 := by split <;> omega
              have rightRed : (if right.color = .red then 1 else 0) ≤ 1 := by split <;> omega
              simp only [RefTree.depth, RefTree.color, reduceCtorEq, if_false]
              omega

/-- A red-black tree of `n` nodes is at most twice as deep as the logarithm of `n + 1`. -/
theorem RedBlack.depth_le {tree : RefTree Ref} (whole : RedBlack tree) :
    tree.depth ≤ 2 * Nat.log 2 (tree.refs.length + 1) := by
  obtain ⟨black, height, tall⟩ := whole
  have deep := tall.depth
  rw [black, if_neg (by decide)] at deep
  have bound : height ≤ Nat.log 2 (tree.refs.length + 1) :=
    (Nat.le_log_iff_pow_le Nat.one_lt_two (Nat.succ_ne_zero _)).mpr tall.size
  omega

end RedBlackTree
