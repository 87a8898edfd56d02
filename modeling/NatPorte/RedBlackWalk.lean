/-
Searching the red-black tree and walking through it.

A search sees the tree as the list of its references; a step to a neighbour is a step
along that list.
-/

import NatPorte.RedBlack

namespace NatPorte
namespace RedBlack

open RedBlackTree LinkedTree

variable {Ref : Type}

/-! ### RB_FIND -/

section Find

variable {head : Memory Ref} {tree : RefTree Ref} {parent : Option Ref} {cmp : Ref → Int}
  {refs : List Ref} {fuel : Nat}

theorem rbFind_tree (holds : Holds head.links parent tree) (divided : Divided cmp tree.refs)
    (enough : tree.depth < fuel) :
    rbFind cmp head fuel tree.root = some (tree.refs.find? fun ref => cmp ref = 0) := by
  induction tree generalizing parent fuel with
  | leaf =>
      obtain ⟨more, rfl⟩ := Nat.exists_eq_add_of_le' enough
      rfl
  | node color left ref right ihLeft ihRight =>
      obtain ⟨more, rfl⟩ := Nat.exists_eq_add_of_le' (Nat.zero_lt_of_lt enough)
      rw [RefTree.depth] at enough
      obtain ⟨atRef, inLeft, inRight⟩ := holds
      obtain ⟨dividedLeft, dividedRight, behind, before⟩ := divided.halves
      rw [RefTree.root, rbFind, atRef, RefTree.refs, List.find?_append]
      rcases Int.lt_trichotomy (cmp ref) 0 with less | same | greater
      · have others : (ref :: right.refs).find? (fun ref => cmp ref = 0) = none := by
          rw [List.find?_eq_none]
          intro other member
          rcases List.mem_cons.mp member with rfl | inside
          · simp only [decide_eq_true_eq]
            omega
          · have below := before (Int.le_of_lt less) other inside
            simp only [decide_eq_true_eq]
            omega
        rw [if_pos less, ihLeft inLeft dividedLeft (by omega), others, Option.or_none]
      · have others : left.refs.find? (fun ref => cmp ref = 0) = none := by
          rw [List.find?_eq_none]
          intro other member
          have above := behind (by omega) other member
          simp only [decide_eq_true_eq]
          omega
        rw [if_neg (by omega), if_neg (by omega), others, Option.none_or,
          List.find?_cons_of_pos (by simp [same])]
      · have others : left.refs.find? (fun ref => cmp ref = 0) = none := by
          rw [List.find?_eq_none]
          intro other member
          have above := behind (by omega) other member
          simp only [decide_eq_true_eq]
          omega
        rw [if_neg (by omega), if_pos (by omega), ihRight inRight dividedRight (by omega), others,
          Option.none_or, List.find?_cons_of_neg (by simp; omega)]

theorem rbFind_spec (stores : Stores head refs) (divided : Divided cmp refs)
    (enough : steps refs.length ≤ fuel) :
    rbFind cmp head fuel head.root = some (refs.find? fun ref => cmp ref = 0) := by
  obtain ⟨tree, focus, redBlack, rfl⟩ := stores
  have deep := redBlack.depth_le
  rw [steps] at enough
  have rooted : head.root = tree.root := focus.rooted
  rw [rooted]
  exact rbFind_tree focus.subtree divided (by omega)

end Find

/-! ### RB_NEXT and RB_PREV -/

section Step

variable {head : Memory Ref} {path : Path Ref} {tree near far : RefTree Ref} {side : Side}
  {color : Color} {elm : Ref} {refs before after : List Ref} {fuel : Nat}

theorem rbEdge_along {next : Ref} {parent : Option Ref} (holds : Holds head.links parent tree)
    (isRoot : tree.root = some next) (enough : tree.depth ≤ fuel) :
    rbEdge side.opposite head fuel next = (tree.along side).head? := by
  obtain ⟨color, ref, far, inner, rfl, sides, result⟩ :=
    @rbEdge_spec _ head side.opposite _ _ _ _ holds isRoot enough
  rw [result]
  refine (Path.along_plug_opposite sides ?_).symm
  rw [RefTree.branch_opposite, RefTree.along_branch]
  cases side <;> rfl

variable [DecidableEq Ref]

theorem rbClimb_spec (focus : Focus head tree path) (isRoot : tree.root = some elm)
    (enough : path.length < fuel) :
    rbClimb side head fuel elm = some (Path.beyond side path).head? := by
  induction path generalizing tree elm fuel with
  | nil =>
      obtain ⟨more, rfl⟩ := Nat.exists_eq_add_of_le' (Nat.zero_lt_of_lt enough)
      rw [rbClimb, focus.parent_eq isRoot, Path.beyond_nil]
      rfl
  | cons frame rest ih =>
      obtain ⟨more, rfl⟩ := Nat.exists_eq_add_of_le' (Nat.zero_lt_of_lt enough)
      obtain ⟨side', color, parent, sibling⟩ := frame
      have atElm : (head.links elm).parent = some parent := focus.parent_eq isRoot
      have atParent := focus.parent_links
      rw [rbClimb, atElm]
      by_cases same : side' = side
      · subst same
        have up := ih (focus_up.mp focus) (RefTree.root_branch ..)
          (Nat.lt_of_succ_lt_succ enough)
        simp only [atParent, Links.child_branch_self, isRoot, if_true]
        rw [up, Path.beyond_self]
      · have opposite := Side.eq_opposite same
        subst opposite
        have apart := focus.sibling_root isRoot
        have child : (head.links parent).child side = sibling.root := by
          rw [atParent, Links.child_branch_of_opposite]
        simp only [child, if_neg apart]
        rw [Path.beyond_opposite]
        rfl

theorem rbStep_spec (focus : Focus head (.branch side color near elm far) path)
    (shallow : near.depth ≤ fuel) (enough : path.length < fuel) :
    rbStep side fuel head elm = some (near.along side ++ Path.beyond side path).head? := by
  have atElm := focus.links
  have inNear := (holds_branch.mp focus.subtree).2.1
  rw [rbStep, atElm, Links.child_branch_self, Links.parent_branch]
  cases isNext : near.root with
  | some next =>
      have down := @rbEdge_along _ head near side fuel next _ inNear isNext shallow
      cases inOrder : near.along side with
      | nil =>
          cases near with
          | leaf => cases isNext
          | node nearColor left top right =>
              cases side <;> simp [RefTree.along, RefTree.refs] at inOrder
      | cons first others =>
          rw [inOrder] at down
          simp only [down]
          rfl
  | none =>
      have climb : rbClimb side head fuel elm = some (Path.beyond side path).head? :=
        rbClimb_spec focus (RefTree.root_branch ..) enough
      have empty : near.along side = [] := by
        rw [RefTree.root_eq_none.mp isNext]
        cases side <;> rfl
      rw [empty, List.nil_append]
      cases path with
      | nil => exact climb
      | cons frame rest =>
          obtain ⟨side', frameColor, parent, sibling⟩ := frame
          simp only [Path.parent_cons]
          split
          · next isChild =>
              have atParent := focus.parent_links
              by_cases same : side' = side
              · subst same
                rw [atParent, Links.child_branch_opposite] at isChild
                exact absurd isChild (focus.sibling_root (RefTree.root_branch ..))
              · have opposite := Side.eq_opposite same
                subst opposite
                rw [Path.beyond_opposite]
                rfl
          · exact climb

theorem rbNext_spec (stores : Stores head (before ++ elm :: after))
    (enough : steps (before ++ elm :: after).length ≤ fuel) :
    rbNext fuel head elm = some after.head? := by
  obtain ⟨color, left, right, path, focus, -, rfl, rfl, shallow⟩ := focus_at stores
  exact @rbStep_spec _ head path right left .right color elm fuel _ focus (by omega) (by omega)

theorem rbPrev_spec (stores : Stores head (before ++ elm :: after))
    (enough : steps (before ++ elm :: after).length ≤ fuel) :
    rbPrev fuel head elm = some before.getLast? := by
  obtain ⟨color, left, right, path, focus, -, rfl, rfl, shallow⟩ := focus_at stores
  have step := @rbStep_spec _ head path left right .left color elm fuel _ focus (by omega)
    (by omega)
  rw [rbPrev, step]
  change some (left.refs.reverse ++ (Path.before path).reverse).head? = _
  rw [← List.reverse_append, List.head?_reverse]

end Step

/-! ### RB_MIN, RB_MAX and RB_FOREACH -/

section Foreach

variable {head : Memory Ref} {refs before after : List Ref} {fuel : Nat}

theorem rbMinmax_spec (stores : Stores head refs) (enough : steps refs.length ≤ fuel) :
    rbMinmax .left fuel head = some refs.head? ∧ rbMinmax .right fuel head = some refs.getLast? := by
  obtain ⟨tree, focus, redBlack, rfl⟩ := stores
  have deep := redBlack.depth_le
  rw [steps] at enough
  have rooted : head.root = tree.root := focus.rooted
  rw [rbMinmax, rbMinmax, rooted]
  cases isRoot : tree.root with
  | none =>
      rw [RefTree.root_eq_none.mp isRoot]
      exact ⟨rfl, rfl⟩
  | some root =>
      have least := @rbEdge_along _ head tree .right fuel root _ focus.subtree isRoot (by omega)
      have greatest := @rbEdge_along _ head tree .left fuel root _ focus.subtree isRoot (by omega)
      change rbEdge .left head fuel root = tree.refs.head? at least
      change rbEdge .right head fuel root = tree.refs.reverse.head? at greatest
      rw [List.head?_reverse] at greatest
      have nonempty : tree.refs ≠ [] := List.ne_nil_of_mem (RefTree.root_mem isRoot)
      rw [List.head?_eq_some_head nonempty] at least ⊢
      rw [List.getLast?_eq_some_getLast nonempty] at greatest ⊢
      simp only [least, greatest]
      exact ⟨rfl, rfl⟩

variable [DecidableEq Ref]

theorem rbForeachFrom_spec (stores : Stores head (before ++ after))
    (enough : steps (before ++ after).length ≤ fuel) {rounds : Nat} (long : after.length ≤ rounds) :
    rbForeachFrom fuel head rounds after.head? = some after := by
  induction after generalizing before rounds with
  | nil => cases rounds <;> rfl
  | cons elm rest ih =>
      obtain ⟨more, rfl⟩ := Nat.exists_eq_add_of_le' (Nat.zero_lt_of_lt long)
      have next := rbNext_spec stores enough
      rw [List.append_cons] at stores enough
      have others := ih stores enough (Nat.le_of_succ_le_succ long)
      rw [List.head?_cons, rbForeachFrom, next]
      simp only [Option.bind_eq_bind, Option.bind_some, others]

theorem rbForeach_spec (stores : Stores head refs) (enough : steps refs.length ≤ fuel)
    (long : refs.length ≤ fuel) : rbForeach fuel head = some refs := by
  rw [rbForeach, (rbMinmax_spec stores enough).1]
  exact @rbForeachFrom_spec _ head [] refs fuel _ stores enough fuel long

end Foreach

end RedBlack
end NatPorte
