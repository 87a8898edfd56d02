/-
The red-black macros of structure.h.

`RB_GENERATE` is instantiated twice, with one comparison each; here a comparison is the
source's `cmp` with its first argument in place.  A function has no result where the
source would follow a NULL, and a loop has no result when its fuel is used up.  Where
two macros, or two branches of one, are mirror images, `side` tells them apart.
-/

import Mathlib.Data.List.Basic
import NatPorte.Library.LinkedTree

namespace NatPorte
namespace RedBlack

open RedBlackTree LinkedTree

variable {Ref : Type} [DecidableEq Ref]

def rbRotate (side : Side) (head : Memory Ref) (elm : Ref) : Option (Memory Ref) := do
  let tmp ← (head.links elm).child side.opposite
  let inner := (head.links tmp).child side
  let head := (head.setChild elm side.opposite inner).adopt inner (some elm)
  let parent := (head.links elm).parent
  let head := (head.setParent tmp parent).relink parent elm (some tmp)
  some ((head.setChild tmp side (some elm)).setParent elm (some tmp))

def rbRotateLeft (head : Memory Ref) (elm : Ref) : Option (Memory Ref) := rbRotate .left head elm
def rbRotateRight (head : Memory Ref) (elm : Ref) : Option (Memory Ref) := rbRotate .right head elm

def rbSetBlackred (head : Memory Ref) (black red : Ref) : Memory Ref :=
  (head.setColor black .black).setColor red .red

/-- `if (elm) RB_COLOR(elm, field) = color` -/
def paint (head : Memory Ref) (elm : Option Ref) (color : Color) : Memory Ref :=
  match elm with
  | none => head
  | some elm => head.setColor elm color

/-- `elm && RB_COLOR(elm, field) == RB_RED` -/
def isRed (head : Memory Ref) (elm : Option Ref) : Bool :=
  match elm with
  | none => false
  | some elm => (head.links elm).color = .red

/-! ### RB_INSERT -/

/-- The rotations, when the uncle is not red. -/
def rbInsertTurn (side : Side) (head : Memory Ref) (elm parent gparent : Ref) :
    Option (Memory Ref × Ref) :=
  if (head.links parent).child side.opposite = some elm then do
    let head ← rbRotate side head parent
    let head ← rbRotate side.opposite (rbSetBlackred head elm gparent) gparent
    some (head, parent)
  else do
    let head ← rbRotate side.opposite (rbSetBlackred head parent gparent) gparent
    some (head, elm)

/-- One round of `RB_INSERT_COLOR`, `parent` being the child of `gparent` at `side`;
the node to go on with. -/
def rbInsertRound (side : Side) (head : Memory Ref) (elm parent gparent : Ref) :
    Option (Memory Ref × Ref) :=
  match (head.links gparent).child side.opposite with
  | none => rbInsertTurn side head elm parent gparent
  | some tmp =>
      if (head.links tmp).color = .red then
        some (rbSetBlackred (head.setColor tmp .black) parent gparent, gparent)
      else rbInsertTurn side head elm parent gparent

def blackenRoot (head : Memory Ref) : Option (Memory Ref) := do
  let root ← head.root
  some (head.setColor root .black)

def rbInsertColor : Nat → Memory Ref → Ref → Option (Memory Ref)
  | 0, _, _ => none
  | fuel + 1, head, elm =>
      match (head.links elm).parent with
      | none => blackenRoot head
      | some parent =>
          if (head.links parent).color = .red then do
            let gparent ← (head.links parent).parent
            let (head, elm) ← rbInsertRound (head.sideOf gparent (some parent)) head elm parent gparent
            rbInsertColor fuel head elm
          else blackenRoot head

/-- Where the search of `RB_INSERT` ends: at a node with the same key, or below `parent`
with the sign of the last comparison. -/
inductive Search (Ref : Type) where
  | found (tmp : Ref)
  | missing (parent : Option Ref) (comp : Int)
  deriving Repr

def rbSearch (cmp : Ref → Int) (head : Memory Ref) :
    Nat → Option Ref → Option Ref → Int → Option (Search Ref)
  | 0, _, _, _ => none
  | _ + 1, none, parent, comp => some (.missing parent comp)
  | fuel + 1, some tmp, _, _ =>
      if cmp tmp < 0 then rbSearch cmp head fuel (head.links tmp).left (some tmp) (cmp tmp)
      else if cmp tmp > 0 then rbSearch cmp head fuel (head.links tmp).right (some tmp) (cmp tmp)
      else some (.found tmp)

/-- `RB_SET`, and the link from the parent or from the root. -/
def rbLink (head : Memory Ref) (elm : Ref) (parent : Option Ref) (comp : Int) : Memory Ref :=
  let head := head.store elm ⟨none, none, parent, .red⟩
  match parent with
  | none => { head with root := some elm }
  | some parent => head.setChild parent (if comp < 0 then .left else .right) (some elm)

/-- The node that has the key already, if any. -/
def rbInsert (fuel : Nat) (cmp : Ref → Int) (head : Memory Ref) (elm : Ref) :
    Option (Memory Ref × Option Ref) := do
  match ← rbSearch cmp head fuel head.root none 0 with
  | .found tmp => some (head, some tmp)
  | .missing parent comp =>
      let head ← rbInsertColor fuel (rbLink head elm parent comp) elm
      some (head, none)

/-! ### RB_REMOVE -/

/-- The start of a round of `RB_REMOVE_COLOR`: the sibling, made black. -/
def rbRemoveSibling (side : Side) (head : Memory Ref) (parent : Ref) :
    Option (Memory Ref × Ref) := do
  let tmp ← (head.links parent).child side.opposite
  if (head.links tmp).color = .red then do
    let head ← rbRotate side (rbSetBlackred head tmp parent) parent
    let tmp ← (head.links parent).child side.opposite
    some (head, tmp)
  else some (head, tmp)

/-- In the last round the sibling `tmp` has a red child; one on the near side is rotated
to the far side. -/
def rbRemoveBend (side : Side) (head : Memory Ref) (parent tmp : Ref) :
    Option (Memory Ref × Ref) :=
  if isRed head ((head.links tmp).child side.opposite) then some (head, tmp)
  else do
    let head := paint head ((head.links tmp).child side) .black
    let head ← rbRotate side.opposite (head.setColor tmp .red) tmp
    let tmp ← (head.links parent).child side.opposite
    some (head, tmp)

def rbRemoveTurn (side : Side) (head : Memory Ref) (parent tmp : Ref) : Option (Memory Ref) := do
  let (head, tmp) ← rbRemoveBend side head parent tmp
  let head := (head.setColor tmp (head.links parent).color).setColor parent .black
  rbRotate side (paint head ((head.links tmp).child side.opposite) .black) parent

def rbRemoveColor : Nat → Memory Ref → Option Ref → Option Ref → Option (Memory Ref)
  | 0, _, _, _ => none
  | fuel + 1, head, parent, elm =>
      if isRed head elm = false ∧ elm ≠ head.root then do
        let parent ← parent
        let side := head.sideOf parent elm
        let (head, tmp) ← rbRemoveSibling side head parent
        if isRed head (head.links tmp).left = false ∧ isRed head (head.links tmp).right = false then
          let head := head.setColor tmp .red
          rbRemoveColor fuel head (head.links parent).parent (some parent)
        else do
          let head ← rbRemoveTurn side head parent tmp
          some (paint head head.root .black)
      else some (paint head elm .black)

/-- `while (RB_LEFT(elm, field)) elm = RB_LEFT(elm, field)`, or to the right. -/
def rbEdge (side : Side) (head : Memory Ref) : Nat → Ref → Option Ref
  | 0, _ => none
  | fuel + 1, elm =>
      match (head.links elm).child side with
      | none => some elm
      | some next => rbEdge side head fuel next

/-- `child` takes the place of `elm` below `parent`. -/
def rbUnlink (head : Memory Ref) (elm : Ref) (child : Option Ref) : Memory Ref :=
  let parent := (head.links elm).parent
  (head.adopt child parent).relink parent elm child

/-- `elm`, taken out already, gets the links of `old` and its place. -/
def rbReplace (head : Memory Ref) (old elm : Ref) : Option (Memory Ref) := do
  let head := head.store elm (head.links old)
  let head := head.relink (head.links old).parent old (some elm)
  let left ← (head.links old).left
  let head := head.setParent left (some elm)
  some (head.adopt (head.links old).right (some elm))

/-- `do RB_AUGMENT(left); while ((left = RB_PARENT(left, field)) != NULL)`: `RB_AUGMENT` is
empty, so the way up leaves no trace. -/
def rbAugmentUp (head : Memory Ref) : Nat → Ref → Option Unit
  | 0, _ => none
  | fuel + 1, left =>
      match (head.links left).parent with
      | none => some ()
      | some parent => rbAugmentUp head fuel parent

/-- `if (parent)`, and then the way up. -/
def rbAugment (head : Memory Ref) (fuel : Nat) : Option Ref → Option Unit
  | none => some ()
  | some left => rbAugmentUp head fuel left

/-- A node with one child at most. -/
def rbRemoveOuter (fuel : Nat) (head : Memory Ref) (elm : Ref) (child : Option Ref) :
    Option (Memory Ref) :=
  let parent := (head.links elm).parent
  let color := (head.links elm).color
  let head := rbUnlink head elm child
  if color = .black then rbRemoveColor fuel head parent child else some head

/-- A node with two children: its successor `elm` takes its place. -/
def rbRemoveInner (fuel : Nat) (head : Memory Ref) (old elm : Ref) : Option (Memory Ref) := do
  let child := (head.links elm).right
  let parent := (head.links elm).parent
  let color := (head.links elm).color
  let head := rbUnlink head elm child
  let parent := if (head.links elm).parent = some old then some elm else parent
  let head ← rbReplace head old elm
  rbAugment head fuel parent
  if color = .black then rbRemoveColor fuel head parent child else some head

def rbRemove (fuel : Nat) (head : Memory Ref) (elm : Ref) : Option (Memory Ref) :=
  match (head.links elm).left, (head.links elm).right with
  | none, child => rbRemoveOuter fuel head elm child
  | some left, none => rbRemoveOuter fuel head elm (some left)
  | some _, some right => do
      let next ← rbEdge .left head fuel right
      rbRemoveInner fuel head elm next

/-! ### Searching and walking -/

def rbFind (cmp : Ref → Int) (head : Memory Ref) : Nat → Option Ref → Option (Option Ref)
  | 0, _ => none
  | _ + 1, none => some none
  | fuel + 1, some tmp =>
      if cmp tmp < 0 then rbFind cmp head fuel (head.links tmp).left
      else if cmp tmp > 0 then rbFind cmp head fuel (head.links tmp).right
      else some (some tmp)

/-- `RB_MIN` for `.left` and `RB_MAX` for `.right`. -/
def rbMinmax (side : Side) (fuel : Nat) (head : Memory Ref) : Option (Option Ref) :=
  match head.root with
  | none => some none
  | some root => (rbEdge side head fuel root).map some

def rbClimb (side : Side) (head : Memory Ref) : Nat → Ref → Option (Option Ref)
  | 0, _ => none
  | fuel + 1, elm =>
      match (head.links elm).parent with
      | none => some none
      | some parent =>
          if (head.links parent).child side = some elm then rbClimb side head fuel parent
          else some (some parent)

/-- `RB_NEXT` for `.right` and `RB_PREV` for `.left`. -/
def rbStep (side : Side) (fuel : Nat) (head : Memory Ref) (elm : Ref) : Option (Option Ref) :=
  match (head.links elm).child side with
  | some next => (rbEdge side.opposite head fuel next).map some
  | none =>
      match (head.links elm).parent with
      | none => rbClimb side head fuel elm
      | some parent =>
          if (head.links parent).child side.opposite = some elm then some (some parent)
          else rbClimb side head fuel elm

def rbNext (fuel : Nat) (head : Memory Ref) (elm : Ref) : Option (Option Ref) :=
  rbStep .right fuel head elm

def rbPrev (fuel : Nat) (head : Memory Ref) (elm : Ref) : Option (Option Ref) :=
  rbStep .left fuel head elm

/-- The nodes that `RB_FOREACH` visits from `x` on. -/
def rbForeachFrom (fuel : Nat) (head : Memory Ref) : Nat → Option Ref → Option (List Ref)
  | _, none => some []
  | 0, some _ => none
  | rounds + 1, some x => do
      let next ← rbNext fuel head x
      let rest ← rbForeachFrom fuel head rounds next
      some (x :: rest)

def rbForeach (fuel : Nat) (head : Memory Ref) : Option (List Ref) := do
  let first ← rbMinmax .left fuel head
  rbForeachFrom fuel head fuel first

section Rotation

variable {head : Memory Ref} {path : Path Ref} {side : Side}

theorem rbRotate_focus {outer inner : Color} {a b d : RefTree Ref} {elm tmp : Ref}
    (focus : Focus head (.branch side outer a elm (.branch side inner b tmp d)) path) :
    ∃ after, rbRotate side head elm = some after ∧
      Focus after (.branch side inner (.branch side outer a elm b) tmp d) path := by
  have below : Focus head (.branch side inner b tmp d) (⟨side.opposite, outer, elm, a⟩ :: path) := by
    rw [focus_up, Frame.plug, RefTree.branch_opposite]
    exact focus
  obtain ⟨atElm, holdsA, holdsInner⟩ := holds_branch.mp focus.subtree
  obtain ⟨atTmp, holdsB, holdsD⟩ := holds_branch.mp holdsInner
  have atPath := focus.above
  have rooted := focus.rooted
  rw [RefTree.root_branch] at atElm atPath rooted
  obtain ⟨tmpB, tmpD, tmpAbove, onceB, onceD, onceAbove, apartB, apartD⟩ := below.apart
  obtain ⟨elmAbove, onceOthers⟩ := List.nodup_cons.mp onceAbove
  obtain ⟨onceA, oncePath, apartA⟩ := List.nodup_append.mp onceOthers
  change tmp ∉ elm :: (a.refs ++ pathRefs path) at tmpAbove
  change elm ∉ a.refs ++ pathRefs path at elmAbove
  simp only [List.mem_cons, List.mem_append, not_or] at tmpAbove elmAbove
  obtain ⟨tmpElm, tmpA, tmpPath⟩ := tmpAbove
  obtain ⟨elmA, elmPath⟩ := elmAbove
  have inB : ∀ {other}, other ∈ b.refs → other ≠ elm ∧ other ∉ a.refs ∧ other ∉ pathRefs path := by
    intro other member
    have outside := (apartB other member).2
    change other ∉ elm :: (a.refs ++ pathRefs path) at outside
    simp only [List.mem_cons, List.mem_append, not_or] at outside
    exact outside
  have inD : ∀ {other}, other ∈ d.refs → other ≠ elm ∧ other ∉ a.refs ∧ other ∉ pathRefs path := by
    intro other member
    have outside := apartD other member
    change other ∉ elm :: (a.refs ++ pathRefs path) at outside
    simp only [List.mem_cons, List.mem_append, not_or] at outside
    exact outside
  have rootB : ∀ {other}, other ∉ b.refs → b.root ≠ some other :=
    fun outside isRoot => outside (RefTree.root_mem isRoot)
  have rootPath : ∀ {other}, other ∉ pathRefs path → Path.parent path ≠ some other :=
    fun outside isParent => outside (pathRefs_parent isParent)
  have elmB : elm ∉ b.refs := fun member => (inB member).1 rfl
  let one := head.setChild elm side.opposite b.root
  let two := one.adopt b.root (some elm)
  let three := two.setParent tmp (Path.parent path)
  let four := three.relink (Path.parent path) elm (some tmp)
  let five := four.setChild tmp side (some elm)
  let six := five.setParent elm (some tmp)
  have oneElm : one.links elm = Links.branch side a.root b.root (Path.parent path) outer := by
    rw [Memory.setChild_self, atElm, Links.setChild_branch_opposite]
  have twoElm : two.links elm = Links.branch side a.root b.root (Path.parent path) outer := by
    rw [Memory.adopt_other _ (rootB elmB), oneElm]
  have result : rbRotate side head elm = some six := by
    have parent : (two.links elm).parent = Path.parent path := by
      rw [twoElm, Links.parent_branch]
    have first : (head.links elm).child side.opposite = some tmp := by
      rw [atElm, Links.child_branch_opposite]
    have second : (head.links tmp).child side = b.root := by
      rw [atTmp, Links.child_branch_self]
    simp only [rbRotate, first, second, Option.bind_eq_bind, Option.bind_some]
    exact congrArg (fun parent => some
      ((((two.setParent tmp parent).relink parent elm (some tmp)).setChild tmp side
        (some elm)).setParent elm (some tmp))) parent
  -- what stands neither at `elm` nor at `tmp`, nor is linked anew, keeps its links
  have fixed : ∀ {other}, other ≠ elm → other ≠ tmp → other ∉ b.refs → other ∉ pathRefs path →
      six.links other = head.links other := by
    intro other notElm notTmp notB notPath
    rw [Memory.setParent_other _ notElm, Memory.setChild_other _ notTmp,
      Memory.relink_other _ (rootPath notPath), Memory.setParent_other _ notTmp,
      Memory.adopt_other _ (rootB notB), Memory.setChild_other _ notElm]
  refine ⟨six, result, ?_⟩
  constructor
  · refine holds_branch.mpr ⟨?_, holds_branch.mpr ⟨?_, holdsA.frame ?_, ?_⟩, holdsD.frame ?_⟩
    · rw [Memory.setParent_other _ tmpElm, Memory.setChild_self,
        Memory.relink_other _ (rootPath tmpPath), Memory.setParent_self,
        Memory.adopt_other _ (rootB tmpB), Memory.setChild_other _ tmpElm, atTmp,
        Links.setParent_branch, Links.setChild_branch_self, RefTree.root_branch]
    · rw [Memory.setParent_self, Memory.setChild_other _ (Ne.symm tmpElm),
        Memory.relink_other _ (rootPath elmPath), Memory.setParent_other _ (Ne.symm tmpElm), twoElm,
        Links.setParent_branch]
    · intro other member
      refine fixed ?_ ?_ ?_ ?_
      · exact fun same => elmA (same ▸ member)
      · exact fun same => tmpA (same ▸ member)
      · exact fun inside => (inB inside).2.1 member
      · exact fun inside => apartA other member other inside rfl
    · have adopted : Holds two.links (some elm) b := by
        refine Holds.adopt (holdsB.frame ?_) onceB (some elm)
        intro other member
        exact head.setChild_other (inB member).1 side.opposite b.root
      refine adopted.frame ?_
      intro other member
      have notTmp : other ≠ tmp := fun same => tmpB (same ▸ member)
      rw [Memory.setParent_other _ (inB member).1, Memory.setChild_other _ notTmp,
        Memory.relink_other _ (rootPath (inB member).2.2), Memory.setParent_other _ notTmp]
    · intro other member
      refine fixed (inD member).1 ?_ ?_ (inD member).2.2
      · exact fun same => tmpD (same ▸ member)
      · exact fun inside => (apartB other inside).1 member
  · rw [RefTree.root_branch]
    have before : HoldsPath three.links (some elm) path := by
      refine atPath.frame ?_
      intro other member
      have notTmp : other ≠ tmp := fun same => tmpPath (same ▸ member)
      have notElm : other ≠ elm := fun same => elmPath (same ▸ member)
      have notB : other ∉ b.refs := fun inside => (inB inside).2.2 member
      rw [Memory.setParent_other _ notTmp, Memory.adopt_other _ (rootB notB),
        Memory.setChild_other _ notElm]
    refine (before.relink oncePath elmPath (some tmp)).frame ?_
    intro other member
    have notTmp : other ≠ tmp := fun same => tmpPath (same ▸ member)
    have notElm : other ≠ elm := fun same => elmPath (same ▸ member)
    rw [Memory.setParent_other _ notElm, Memory.setChild_other _ notTmp]
  · rw [RefTree.root_branch, Memory.root_setParent, Memory.root_setChild]
    refine root_relink ?_ (some tmp)
    rw [Memory.root_setParent, Memory.root_adopt, Memory.root_setChild]
    exact rooted
  · have distinct := focus.distinct
    refine (List.Perm.nodup_iff ?_).mpr distinct
    refine List.Perm.append_right _ ?_
    cases side with
    | left => simp [RefTree.branch, RefTree.refs]
    | right => simp [RefTree.branch, RefTree.refs]

theorem rbRotate_opposite {outer inner : Color} {a b d : RefTree Ref} {elm tmp : Ref}
    (focus : Focus head (.branch side outer (.branch side inner d tmp b) elm a) path) :
    ∃ after, rbRotate side.opposite head elm = some after ∧
      Focus after (.branch side inner d tmp (.branch side outer b elm a)) path := by
  rw [← RefTree.branch_opposite side outer, ← RefTree.branch_opposite side inner] at focus
  obtain ⟨after, rotated, result⟩ := rbRotate_focus focus
  rw [RefTree.branch_opposite, RefTree.branch_opposite] at result
  exact ⟨after, rotated, result⟩

end Rotation

section Zipper

variable {head : Memory Ref} {path : Path Ref} {side : Side}

omit [DecidableEq Ref] in
theorem isRed_root {parent : Option Ref} {tree : RefTree Ref}
    (holds : Holds head.links parent tree) : isRed head tree.root = decide (tree.color = .red) := by
  cases tree with
  | leaf => rfl
  | node color left ref right =>
      change decide ((head.links ref).color = .red) = _
      rw [holds.1]
      rfl

theorem paint_focus {tree : RefTree Ref} (focus : Focus head tree path) :
    Focus (paint head tree.root .black) tree.blacken path := by
  cases tree with
  | leaf => exact focus
  | node color left ref right => exact @Focus.setColor _ _ _ _ _ _ .left _ _ focus .black

omit [DecidableEq Ref] in
theorem rbEdge_spec {tree : RefTree Ref} {parent : Option Ref} {elm : Ref} {fuel : Nat}
    (holds : Holds head.links parent tree) (isRoot : tree.root = some elm)
    (enough : tree.depth ≤ fuel) :
    ∃ color ref far inner, tree = Path.plug (.branch side color .leaf ref far) inner ∧
      (∀ frame ∈ inner, frame.side = side) ∧ rbEdge side head fuel elm = some ref := by
  induction fuel generalizing tree parent elm with
  | zero =>
      cases tree with
      | leaf => cases isRoot
      | node color left ref right => exact absurd enough (Nat.not_succ_le_zero _)
  | succ fuel ih =>
      obtain ⟨near, far, shape⟩ := RefTree.branch_of_root isRoot side
      generalize tree.color = color at shape
      subst shape
      obtain ⟨atElm, inNear, -⟩ := holds_branch.mp holds
      have shorter := Path.depth_plug near [⟨side, color, elm, far⟩]
      change near.depth + 1 ≤ (RefTree.branch side color near elm far).depth at shorter
      cases isNext : near.root with
      | none =>
          rw [RefTree.root_eq_none.mp isNext]
          refine ⟨color, elm, far, [], rfl, ?_, ?_⟩
          · intro frame member
            cases member
          · rw [rbEdge, atElm, Links.child_branch_self, isNext]
      | some next =>
          obtain ⟨color', ref, far', inner, rfl, sides, result⟩ :=
            ih inNear isNext (by omega)
          refine ⟨color', ref, far', inner ++ [⟨side, color, elm, far⟩], ?_, ?_, ?_⟩
          · rw [Path.plug_append]
            rfl
          · intro frame member
            rcases List.mem_append.mp member with inside | last
            · exact sides frame inside
            · rw [List.mem_singleton.mp last]
          · rw [rbEdge, atElm, Links.child_branch_self, isNext]
            exact result

end Zipper

/-- The same nodes in the same order, red-black again. -/
def Repaired (refs : List Ref) (result : Option (Memory Ref)) : Prop :=
  ∃ after, result = some after ∧ Stores after refs

/-- Enough fuel for every loop on a tree of that many nodes. -/
def steps (count : Nat) : Nat := 2 * Nat.log 2 (count + 1) + 1

omit [DecidableEq Ref] in
theorem focus_at {head : Memory Ref} {before after : List Ref} {elm : Ref}
    (stores : Stores head (before ++ elm :: after)) :
    ∃ color left right path, Focus head (.node color left elm right) path ∧
      RedBlack (Path.plug (.node color left elm right) path) ∧
      before = Path.before path ++ left.refs ∧ after = right.refs ++ Path.after path ∧
      max left.depth right.depth + 1 + path.length < steps (before ++ elm :: after).length := by
  have once := stores.nodup
  obtain ⟨tree, focus, redBlack, order⟩ := stores
  have member : elm ∈ tree.refs := by
    rw [order]
    exact List.mem_append_right _ List.mem_cons_self
  obtain ⟨color, left, right, path, rfl⟩ := Path.exists_plug member
  have deep := redBlack.depth_le
  have deeper := Path.depth_plug (.node color left elm right) path
  rw [RefTree.depth] at deeper
  rw [order] at deep
  have places := Path.refs_plug (.node color left elm right) path
  rw [order, RefTree.refs, List.append_assoc, ← List.append_assoc, List.cons_append] at places
  rw [places] at once
  have notBefore : elm ∉ Path.before path ++ left.refs := fun inside =>
    (List.nodup_append.mp once).2.2 elm inside elm List.mem_cons_self rfl
  have notAfter : elm ∉ right.refs ++ Path.after path :=
    (List.nodup_cons.mp (List.nodup_append.mp once).2.1).1
  obtain ⟨sameBefore, -, sameAfter⟩ :=
    (List.append_cons_inj_of_notMem notBefore notAfter).mp places.symm
  refine ⟨color, left, right, path, focus_plug.mpr focus, redBlack, sameBefore.symm,
    sameAfter.symm, ?_⟩
  rw [steps]
  omega

/-- Once the key is not behind a reference, it is before all that follow. -/
def Divided (cmp : Ref → Int) (refs : List Ref) : Prop :=
  refs.Pairwise fun first second => cmp first ≤ 0 → cmp second < 0

omit [DecidableEq Ref] in
theorem Divided.halves {cmp : Ref → Int} {color : Color} {left right : RefTree Ref} {ref : Ref}
    (divided : Divided cmp (RefTree.node color left ref right).refs) :
    Divided cmp left.refs ∧ Divided cmp right.refs ∧
      (0 ≤ cmp ref → ∀ other ∈ left.refs, 0 < cmp other) ∧
      (cmp ref ≤ 0 → ∀ other ∈ right.refs, cmp other < 0) := by
  obtain ⟨inLeft, others, across⟩ := List.pairwise_append.mp divided
  obtain ⟨behind, inRight⟩ := List.pairwise_cons.mp others
  refine ⟨inLeft, inRight, ?_, ?_⟩
  · intro notBelow other member
    by_contra notAbove
    have below := across other member ref List.mem_cons_self (Int.not_lt.mp notAbove)
    omega
  · intro notAbove other member
    exact behind other member notAbove

end RedBlack
end NatPorte
