/-
Inserting into the red-black tree.

The loop climbs two steps a round, and at each round the zipper is red-black but for
the red node it stands at.
-/

import NatPorte.RedBlack

namespace NatPorte
namespace RedBlack

open RedBlackTree LinkedTree

variable {Ref : Type} [DecidableEq Ref]

section Insertion

variable {head : Memory Ref} {path rest : Path Ref} {side : Side} {height fuel : Nat}

theorem blackenRoot_focus {tree : RefTree Ref} {elm : Ref} (focus : Focus head tree path)
    (isRoot : tree.root = some elm) :
    ∃ after, blackenRoot head = some after ∧ Focus after (Path.plug tree path).blacken [] := by
  have whole := focus_plug.mp focus
  have nonempty : (Path.plug tree path).root ≠ none := by
    intro empty
    have refs := Path.refs_plug tree path
    rw [RefTree.root_eq_none.mp empty] at refs
    have member := List.mem_append_right (Path.before path)
      (List.mem_append_left (Path.after path) (RefTree.root_mem isRoot))
    rw [← refs] at member
    cases member
  obtain ⟨top, isTop⟩ := Option.ne_none_iff_exists'.mp nonempty
  have rooted := whole.rooted
  obtain ⟨near, far, shape⟩ := RefTree.branch_of_root isTop .left
  rw [isTop] at rooted
  change head.root = some top at rooted
  refine ⟨head.setColor top .black, ?_, ?_⟩
  · rw [blackenRoot, rooted]
    rfl
  · rw [shape] at whole ⊢
    exact whole.setColor .black

theorem raise_focus {x y uncle : RefTree Ref} {parent gparent : Ref}
    (focus : Focus head (.branch side .black (.branch side .red x parent y) gparent uncle) path) :
    ∃ after, rbRotate side.opposite (rbSetBlackred head parent gparent) gparent = some after ∧
      Focus after (.branch side .black x parent (.branch side .red y gparent uncle)) path := by
  have painted := focus_near.mpr ((focus_near.mp focus).setColor .black)
  exact rbRotate_opposite (painted.setColor .red)

theorem rbInsertTurn_outer {tree sibling uncle : RefTree Ref} {elm parent gparent : Ref}
    (focus : Focus head (.branch side .black (.branch side .red tree parent sibling) gparent uncle)
      path) (isRoot : tree.root = some elm) :
    ∃ after, rbInsertTurn side head elm parent gparent = some (after, elm) ∧
      Focus after (.branch side .black tree parent (.branch side .red sibling gparent uncle))
        path := by
  obtain ⟨after, rotated, result⟩ := raise_focus focus
  have below := focus_near.mp (focus_near.mp focus)
  have outer : (head.links parent).child side.opposite ≠ some elm := by
    rw [below.parent_links, Links.child_branch_opposite]
    exact below.sibling_root isRoot
  refine ⟨after, ?_, result⟩
  rw [rbInsertTurn, if_neg outer, rotated]
  rfl

theorem rbInsertTurn_inner {sibling near far uncle : RefTree Ref} {elm parent gparent : Ref}
    (focus : Focus head (.branch side .black
      (.branch side .red sibling parent (.branch side .red near elm far)) gparent uncle) path) :
    ∃ after, rbInsertTurn side head elm parent gparent = some (after, parent) ∧
      Focus after (.branch side .black (.branch side .red sibling parent near) elm
        (.branch side .red far gparent uncle)) path := by
  have below := focus_near.mp focus
  have inner : (head.links parent).child side.opposite = some elm := by
    rw [below.links, Links.child_branch_opposite, RefTree.root_branch]
  obtain ⟨middle, first, turned⟩ := rbRotate_focus below
  obtain ⟨after, second, result⟩ := raise_focus (focus_near.mpr turned)
  refine ⟨after, ?_, result⟩
  rw [rbInsertTurn, if_pos inner, first]
  exact congrArg (Option.bind · fun head => some (head, parent)) second

theorem rbInsertColor_stop {tree sibling : RefTree Ref} {elm parent : Ref}
    (focus : Focus head tree (⟨side, .black, parent, sibling⟩ :: rest))
    (isRoot : tree.root = some elm) (tall : Height tree height)
    (fits : Fits (⟨side, .black, parent, sibling⟩ :: rest) .black height) (enough : 0 < fuel) :
    Repaired (Path.plug tree (⟨side, .black, parent, sibling⟩ :: rest)).refs
      (rbInsertColor fuel head elm) := by
  obtain ⟨more, rfl⟩ := Nat.exists_eq_add_of_le' enough
  have atElm : (head.links elm).parent = some parent := focus.parent_eq isRoot
  have atParent : (head.links parent).color = .black := by
    rw [focus.parent_links, Links.color_branch]
  have whole : RedBlack (Path.plug tree (⟨side, .black, parent, sibling⟩ :: rest)) :=
    Fits.plug tall fits
  obtain ⟨after, painted, result⟩ := blackenRoot_focus focus isRoot
  rw [whole.blacken_eq] at result
  refine ⟨after, ?_, _, result, whole, rfl⟩
  rw [rbInsertColor, atElm]
  simp only [atParent, reduceCtorEq, if_false]
  exact painted

theorem rbInsertColor_repairs {tree : RefTree Ref} {elm : Ref} (focus : Focus head tree path)
    (isRoot : tree.root = some elm) (red : tree.color = .red) (tall : Height tree height)
    (fits : Fits path .black height) (enough : path.length < fuel) :
    Repaired (Path.plug tree path).refs (rbInsertColor fuel head elm) := by
  -- each round that goes on climbs two steps
  induction fuel using Nat.strong_induction_on generalizing head tree elm path height with
  | _ fuel ih =>
  match path, fits with
  | [], _ =>
      obtain ⟨more, rfl⟩ := Nat.exists_eq_add_of_le' (Nat.lt_of_le_of_lt (Nat.zero_le _) enough)
      obtain ⟨near, far, shape⟩ := RefTree.branch_of_root isRoot .left
      have atElm : (head.links elm).parent = none := focus.parent_eq isRoot
      obtain ⟨after, painted, result⟩ := blackenRoot_focus focus isRoot
      refine ⟨after, ?_, _, result, ⟨?_, height + 1, tall.blacken red⟩, RefTree.refs_blacken _⟩
      · rw [rbInsertColor, atElm]
        exact painted
      · rw [Path.plug, shape]
        rfl
  | ⟨side, .black, parent, sibling⟩ :: rest, fits =>
      exact rbInsertColor_stop focus isRoot tall fits (by omega)
  | ⟨inner, .red, parent, sibling⟩ :: [], fits => cases fits.2.2.2
  | ⟨inner, .red, parent, sibling⟩ :: ⟨side, .red, gparent, uncle⟩ :: rest, fits =>
      cases fits.2.2.2.1
  | ⟨inner, .red, parent, sibling⟩ :: ⟨side, .black, gparent, uncle⟩ :: rest, fits =>
      obtain ⟨-, sibTall, sibBlack, uncleTall, fits⟩ := fits
      obtain ⟨more, rfl⟩ := Nat.exists_eq_add_of_le' (Nat.lt_of_le_of_lt (Nat.zero_le _) enough)
      have atParent := focus.parent_links
      have above : Focus head (.branch inner .red tree parent sibling)
          (⟨side, .black, gparent, uncle⟩ :: rest) := focus_near.mpr focus
      have atGparent := above.parent_links
      have whichSide := above.sideOf_eq (by
        rw [RefTree.root_branch]
        exact above.sibling_root (RefTree.root_branch ..))
      have atElm : (head.links elm).parent = some parent := focus.parent_eq isRoot
      rw [RefTree.root_branch] at whichSide
      have unrolled : rbInsertColor (more + 1) head elm =
          (rbInsertRound side head elm parent gparent).bind
            fun result => rbInsertColor more result.1 result.2 := by
        rw [rbInsertColor, atElm]
        simp only [atParent, Links.color_branch, if_true, Links.parent_branch, Path.parent_cons,
          Option.bind_eq_bind, Option.bind_some, whichSide]
      have uncleAt : (head.links gparent).child side.opposite = uncle.root := by
        rw [atGparent, Links.child_branch_opposite]
      have family := focus_near.mpr above
      rw [unrolled, rbInsertRound, uncleAt]
      -- the rotations, whatever made them necessary
      have turn (uncleBlack : uncle.color = .black) :
          Repaired (Path.plug tree (⟨inner, .red, parent, sibling⟩ ::
            ⟨side, .black, gparent, uncle⟩ :: rest)).refs
            ((rbInsertTurn side head elm parent gparent).bind
              fun result => rbInsertColor more result.1 result.2) := by
        have left : 0 < more := by
          simp only [List.length_cons] at enough
          omega
        by_cases outer : inner = side
        · subst outer
          obtain ⟨after, turned, result⟩ := rbInsertTurn_outer family isRoot
          have done := rbInsertColor_stop (focus_near.mp result) isRoot tall
            ⟨height_branch_red.mpr ⟨sibTall, uncleTall, sibBlack, uncleBlack⟩, fits⟩ left
          have same : (Path.plug tree (⟨inner, .red, parent, sibling⟩ ::
              ⟨inner, .black, gparent, uncle⟩ :: rest)).refs =
              (Path.plug tree (⟨inner, .black, parent, .branch inner .red sibling gparent uncle⟩ ::
                rest)).refs := Path.refs_plug_congr RefTree.refs_rotate rest
          rw [turned, same]
          exact done
        · obtain ⟨near, top, far, rfl⟩ := RefTree.branch_of_color red side
          have opposite := Side.eq_opposite outer
          subst opposite
          rw [RefTree.root_branch] at isRoot
          cases isRoot
          obtain ⟨nearTall, farTall, nearBlack, farBlack⟩ := height_branch_red.mp tall
          rw [RefTree.branch_opposite] at family
          obtain ⟨after, turned, result⟩ := rbInsertTurn_inner family
          have done := rbInsertColor_stop (focus_near.mp result) (RefTree.root_branch ..)
            (height_branch_red.mpr ⟨sibTall, nearTall, sibBlack, nearBlack⟩)
            ⟨height_branch_red.mpr ⟨farTall, uncleTall, farBlack, uncleBlack⟩, fits⟩ left
          have same : (Path.plug (.branch side .red near elm far)
              (⟨side.opposite, .red, parent, sibling⟩ :: ⟨side, .black, gparent, uncle⟩ ::
                rest)).refs =
              (Path.plug (.branch side .red sibling parent near)
                (⟨side, .black, elm, .branch side .red far gparent uncle⟩ :: rest)).refs := by
            refine Path.refs_plug_congr ?_ rest
            simp only [Frame.plug, RefTree.branch_opposite]
            exact RefTree.refs_rotate_twice
          rw [turned, same]
          exact done
      cases uncle with
      | leaf => exact turn rfl
      | node uncleColor uncleLeft tmp uncleRight =>
          cases uncleColor with
          | black =>
              have atUncle := (focus_far.mp family).subtree.1
              simp only [RefTree.root, atUncle, reduceCtorEq, if_false]
              exact turn rfl
          | red =>
              have atUncle := (focus_far.mp family).subtree.1
              simp only [RefTree.root, atUncle, if_true, Option.bind_some]
              obtain ⟨uncleLeftTall, uncleRightTall, -⟩ := uncleTall
              have one := focus_far.mpr (@Focus.setColor _ _ _ _ _ _ .left _ _ (focus_far.mp family) .black)
              have two := focus_near.mpr ((focus_near.mp one).setColor .black)
              have three := two.setColor .red
              have done := ih more (Nat.lt_succ_self more) three (RefTree.root_branch ..)
                (RefTree.color_branch ..)
                (height_branch_red.mpr ⟨height_branch_black.mpr ⟨tall, sibTall⟩,
                  height_branch_black.mpr ⟨uncleLeftTall, uncleRightTall⟩,
                  RefTree.color_branch .., RefTree.color_branch ..⟩) fits
                (by simp only [List.length_cons] at enough; omega)
              have same : (Path.plug tree (⟨inner, .red, parent, sibling⟩ :: ⟨side, .black, gparent,
                  .node .red uncleLeft tmp uncleRight⟩ :: rest)).refs =
                  (Path.plug (.branch side .red (.branch inner .black tree parent sibling) gparent
                    (.branch .left .black uncleLeft tmp uncleRight)) rest).refs := by
                refine Path.refs_plug_congr ?_ rest
                cases inner <;> cases side <;> rfl
              rw [same]
              exact done

theorem rbLink_focus {elm : Ref} {comp : Int} (focus : Focus head .leaf path)
    (fresh : elm ∉ pathRefs path)
    (below : ∀ frame ∈ path.head?, frame.side = if comp < 0 then .left else .right) :
    Focus (rbLink head elm (Path.parent path) comp) (.node .red .leaf elm .leaf) path := by
  have once := List.nodup_append.mp focus.distinct
  cases path with
  | nil => exact ⟨⟨Memory.store_self .., trivial, trivial⟩, trivial, rfl, List.nodup_singleton elm⟩
  | cons frame rest =>
      obtain ⟨side, color, parent, sibling⟩ := frame
      have whichSide := below _ rfl
      change side = _ at whichSide
      obtain ⟨atParent, atSibling, atRest⟩ := focus.above
      have notParent : elm ≠ parent := fun same => fresh (same ▸ List.mem_cons_self)
      obtain ⟨parentOnce, -⟩ := List.nodup_cons.mp once.2.1
      have fixed : ∀ {other}, other ≠ parent → other ≠ elm →
          (rbLink head elm (some parent) comp).links other = head.links other := by
        intro other notBelow notElm
        rw [rbLink, Memory.setChild_other _ notBelow, Memory.store_other _ notElm]
      have elsewhere : ∀ {other}, other ∈ sibling.refs ++ pathRefs rest →
          (rbLink head elm (some parent) comp).links other = head.links other := by
        intro other member
        refine fixed ?_ ?_
        · exact fun same => parentOnce (same ▸ member)
        · exact fun same => fresh (same ▸ List.mem_cons_of_mem parent member)
      rw [Path.parent_cons]
      constructor
      · refine ⟨?_, trivial, trivial⟩
        rw [rbLink, Memory.setChild_other _ notParent, Memory.store_self]
        rfl
      · refine ⟨?_, atSibling.frame ?_, atRest.frame ?_⟩
        · rw [rbLink, Memory.setChild_self, Memory.store_other _ (Ne.symm notParent), atParent,
            ← whichSide, Links.setChild_branch_self]
          rfl
        · exact fun other member => elsewhere (List.mem_append_left _ member)
        · exact fun other member => elsewhere (List.mem_append_right _ member)
      · exact focus.rooted
      · exact List.nodup_cons.mpr ⟨fresh, once.2.1⟩

/-- The place of a key in the tree: between the references of a path. -/
structure Between (cmp : Ref → Int) (path : Path Ref) : Prop where
  before : ∀ ref ∈ Path.before path, 0 < cmp ref
  after : ∀ ref ∈ Path.after path, cmp ref < 0

omit [DecidableEq Ref] in
theorem between_nil (cmp : Ref → Int) : Between cmp [] := by
  constructor
  · intro ref member
    cases member
  · intro ref member
    cases member

omit [DecidableEq Ref] in
theorem Between.down {cmp : Ref → Int} {color : Color} {left right : RefTree Ref} {ref : Ref}
    (between : Between cmp path) (divided : Divided cmp (RefTree.node color left ref right).refs) :
    (cmp ref < 0 → Between cmp (⟨.left, color, ref, right⟩ :: path)) ∧
      (0 < cmp ref → Between cmp (⟨.right, color, ref, left⟩ :: path)) := by
  obtain ⟨-, -, inLeft, inRight⟩ := divided.halves
  constructor
  · intro below
    refine ⟨between.before, ?_⟩
    intro other member
    rcases List.mem_append.mp member with here | above
    · rcases List.mem_cons.mp here with rfl | inside
      · exact below
      · exact inRight (Int.le_of_lt below) other inside
    · exact between.after other above
  · intro above
    refine ⟨?_, between.after⟩
    intro other member
    rcases List.mem_append.mp member with outside | here
    · exact between.before other outside
    · rcases List.mem_append.mp here with inside | same
      · exact inLeft (Int.le_of_lt above) other inside
      · rw [List.mem_singleton.mp same]
        exact above

omit [DecidableEq Ref] in
theorem rbSearch_spec {cmp : Ref → Int} {tree : RefTree Ref} {comp : Int}
    (focus : Focus head tree path) (divided : Divided cmp tree.refs) (between : Between cmp path)
    (below : ∀ frame ∈ path.head?, frame.side = if comp < 0 then .left else .right)
    (enough : tree.depth < fuel) :
    (∃ tmp ∈ tree.refs, cmp tmp = 0 ∧
        rbSearch cmp head fuel tree.root (Path.parent path) comp = some (.found tmp)) ∨
      ∃ (path' : Path Ref) (comp' : Int), Focus head .leaf path' ∧ Between cmp path' ∧
        Path.plug .leaf path' = Path.plug tree path ∧
        (∀ frame ∈ path'.head?, frame.side = if comp' < 0 then .left else .right) ∧
        rbSearch cmp head fuel tree.root (Path.parent path) comp =
          some (.missing (Path.parent path') comp') := by
  induction tree generalizing path comp fuel with
  | leaf =>
      obtain ⟨more, rfl⟩ := Nat.exists_eq_add_of_le' enough
      exact .inr ⟨path, comp, focus, between, rfl, below, rfl⟩
  | node color left ref right ihLeft ihRight =>
      obtain ⟨more, rfl⟩ := Nat.exists_eq_add_of_le' (Nat.zero_lt_of_lt enough)
      rw [RefTree.depth] at enough
      obtain ⟨dividedLeft, dividedRight, -⟩ := divided.halves
      obtain ⟨toLeft, toRight⟩ := between.down divided
      have atRef : head.links ref = ⟨left.root, right.root, Path.parent path, color⟩ :=
        focus.subtree.1
      simp only [RefTree.root, rbSearch, atRef]
      rcases Int.lt_trichotomy (cmp ref) 0 with less | same | greater
      · rw [if_pos less]
        have inside : Focus head left (⟨.left, color, ref, right⟩ :: path) := focus_up.mpr focus
        have turned : ∀ frame ∈ ((⟨.left, color, ref, right⟩ : Frame Ref) :: path).head?,
            frame.side = if cmp ref < 0 then .left else .right := by
          intro frame isHead
          cases isHead
          exact (if_pos less).symm
        rcases ihLeft inside dividedLeft (toLeft less) turned
          (by omega : left.depth < more) with found | missing
        · obtain ⟨tmp, member, equal, result⟩ := found
          exact .inl ⟨tmp, List.mem_append_left _ member, equal, result⟩
        · exact .inr missing
      · rw [if_neg (by omega), if_neg (by omega)]
        exact .inl ⟨ref, List.mem_append_right _ List.mem_cons_self, same, rfl⟩
      · rw [if_neg (by omega), if_pos (by omega)]
        have inside : Focus head right (⟨.right, color, ref, left⟩ :: path) := focus_up.mpr focus
        have turned : ∀ frame ∈ ((⟨.right, color, ref, left⟩ : Frame Ref) :: path).head?,
            frame.side = if cmp ref < 0 then .left else .right := by
          intro frame isHead
          cases isHead
          exact (if_neg (by omega)).symm
        rcases ihRight inside dividedRight (toRight greater) turned
          (by omega : right.depth < more) with found | missing
        · obtain ⟨tmp, member, equal, result⟩ := found
          exact .inl ⟨tmp, List.mem_append_right _ (List.mem_cons_of_mem ref member), equal, result⟩
        · exact .inr missing

theorem rbInsert_spec {cmp : Ref → Int} {refs : List Ref} {elm : Ref} (stores : Stores head refs)
    (divided : Divided cmp refs) (known : elm ∈ refs → cmp elm = 0)
    (enough : steps refs.length ≤ fuel) :
    (∃ tmp ∈ refs, cmp tmp = 0 ∧ rbInsert fuel cmp head elm = some (head, some tmp)) ∨
      ∃ before after head', refs = before ++ after ∧ (∀ ref ∈ before, 0 < cmp ref) ∧
        (∀ ref ∈ after, cmp ref < 0) ∧ rbInsert fuel cmp head elm = some (head', none) ∧
        Stores head' (before ++ elm :: after) := by
  obtain ⟨tree, focus, redBlack, rfl⟩ := stores
  have deep := redBlack.depth_le
  rw [steps] at enough
  have rooted : head.root = tree.root := focus.rooted
  have outermost : ∀ frame ∈ ([] : Path Ref).head?,
      frame.side = if (0 : Int) < 0 then .left else .right := by
    intro frame isHead
    cases isHead
  rcases rbSearch_spec focus divided (between_nil cmp) outermost
    (by omega : tree.depth < fuel) with found | missing
  · obtain ⟨tmp, member, equal, result⟩ := found
    refine .inl ⟨tmp, member, equal, ?_⟩
    rw [Path.parent_nil] at result
    rw [rbInsert, rooted, result]
    rfl
  · obtain ⟨path, comp, atLeaf, between, whole, below, result⟩ := missing
    rw [Path.parent_nil] at result
    change Path.plug .leaf path = tree at whole
    subst whole
    have order := Path.refs_plug .leaf path
    rw [RefTree.refs, List.nil_append] at order
    have absent : elm ∉ (Path.plug .leaf path).refs := by
      intro member
      have equal := known member
      rw [order] at member
      rcases List.mem_append.mp member with inBefore | inAfter
      · have := between.before elm inBefore
        omega
      · have := between.after elm inAfter
        omega
    have fresh : elm ∉ pathRefs path :=
      fun member => absent ((refs_plug_perm .leaf path).mem_iff.mpr member)
    have linked := rbLink_focus atLeaf fresh below
    obtain ⟨height, tall, fits⟩ := redBlack.fits
    cases tall
    have short := Path.depth_plug .leaf path
    have shallow : path.length < fuel := by
      rw [RefTree.depth] at short
      omega
    obtain ⟨head', repaired, stores⟩ := rbInsertColor_repairs linked rfl rfl
      ⟨height_leaf, height_leaf, rfl, rfl⟩ fits shallow
    refine .inr ⟨Path.before path, Path.after path, head', order, between.before, between.after,
      ?_, ?_⟩
    · rw [rbInsert, rooted, result]
      simp only [Option.bind_eq_bind, Option.bind_some, repaired]
    · rw [Path.refs_plug] at stores
      exact stores

end Insertion

end RedBlack
end NatPorte
