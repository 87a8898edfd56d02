/-
Removing from the red-black tree.

The loop stands at a subtree that is one black node short, and goes up until a red node
can be painted black or a rotation makes up for it.
-/

import NatPorte.RedBlack

namespace NatPorte
namespace RedBlack

open RedBlackTree LinkedTree

variable {Ref : Type} [DecidableEq Ref]

/-! ### RB_REMOVE_COLOR -/

section Repair

variable {head : Memory Ref} {path rest : Path Ref} {side : Side} {color : Color}
  {tree sibling near far : RefTree Ref} {parent tmp : Ref} {height fuel : Nat}

/-- Where the round goes on: the sibling is black. -/
structure BlackSibling (head : Memory Ref) (tree : RefTree Ref) (side : Side) (color : Color)
    (parent : Ref) (near : RefTree Ref) (tmp : Ref) (far : RefTree Ref) (rest : Path Ref)
    (height : Nat) : Prop where
  focus : Focus head tree (⟨side, color, parent, .branch side .black near tmp far⟩ :: rest)
  nearTall : Height near height
  farTall : Height far height
  red : color = .red → Fits rest .red (height + 1)
  black : color = .black → Fits rest .black (height + 2)

theorem rbRemoveSibling_spec
    (focus : Focus head tree (⟨side, color, parent, sibling⟩ :: rest))
    (fits : Fits (⟨side, color, parent, sibling⟩ :: rest) .black (height + 1)) :
    ∃ after color' near tmp far rest', rbRemoveSibling side head parent = some (after, tmp) ∧
      BlackSibling after tree side color' parent near tmp far rest' height ∧
      (Path.plug tree (⟨side, color', parent, .branch side .black near tmp far⟩ :: rest')).refs =
        (Path.plug tree (⟨side, color, parent, sibling⟩ :: rest)).refs ∧
      (color' = .black → rest' = rest) := by
  have atSibling : (head.links parent).child side.opposite = sibling.root := by
    rw [focus.parent_links, Links.child_branch_opposite]
  have family := focus_near.mpr focus
  have inSibling := (focus_far.mp family).subtree
  have tall : Height sibling (height + 1) := by
    cases color with
    | red => exact fits.2.1
    | black => exact fits.1
  cases sibColor : sibling.color with
  | black =>
      obtain ⟨near, tmp, far, rfl, nearTall, farTall⟩ := branch_of_height sibColor tall side
      refine ⟨head, color, near, tmp, far, rest, ?_, ⟨focus, nearTall, farTall, ?_, ?_⟩, rfl,
        fun _ => rfl⟩
      · have atTmp := (holds_branch.mp inSibling).1
        simp only [rbRemoveSibling, atSibling, RefTree.root_branch, Option.bind_eq_bind,
          Option.bind_some, atTmp, Links.color_branch, reduceCtorEq, if_false]
      · rintro rfl
        exact fits.2.2.2
      · rintro rfl
        exact fits.2
  | red =>
      -- only below a black parent
      cases color with
      | red =>
          rw [fits.2.2.1] at sibColor
          cases sibColor
      | black =>
          obtain ⟨inner, top, outer, rfl⟩ := RefTree.branch_of_color sibColor side
          obtain ⟨innerTall, outerTall, innerBlack, -⟩ := height_branch_red.mp tall
          obtain ⟨near, tmp, far, rfl, nearTall, farTall⟩ :=
            branch_of_height innerBlack innerTall side
          have painted := focus_far.mpr ((focus_far.mp family).setColor .black)
          obtain ⟨after, rotated, result⟩ := rbRotate_focus (painted.setColor .red)
          have below := focus_near.mp (focus_near.mp result)
          refine ⟨after, .red, near, tmp, far, ⟨side, .black, top, outer⟩ :: rest, ?_,
            ⟨below, nearTall, farTall, fun _ => ⟨outerTall, fits.2⟩, ?_⟩, ?_, ?_⟩
          · have atTop := (holds_branch.mp inSibling).1
            have next : (after.links parent).child side.opposite = some tmp := by
              rw [below.parent_links, Links.child_branch_opposite, RefTree.root_branch]
            simp only [rbRemoveSibling, atSibling, RefTree.root_branch, Option.bind_eq_bind,
              Option.bind_some, atTop, Links.color_branch, if_true, rbSetBlackred, rotated, next]
          · intro isBlack
            cases isBlack
          · exact Path.refs_plug_congr RefTree.refs_rotate rest
          · intro isBlack
            cases isBlack

theorem rbRemoveBend_spec (here : BlackSibling head tree side color parent near tmp far rest height)
    (someRed : ¬(near.color = .black ∧ far.color = .black)) :
    ∃ after near' tmp' far', rbRemoveBend side head parent tmp = some (after, tmp') ∧
      BlackSibling after tree side color parent near' tmp' far' rest height ∧
      far'.color = .red ∧
      (RefTree.branch side .black near' tmp' far').refs =
        (RefTree.branch side .black near tmp far).refs := by
  have inSibling := focus_far.mp (focus_near.mpr here.focus)
  obtain ⟨atTmp, inNear, inFar⟩ := holds_branch.mp inSibling.subtree
  have farRed := isRed_root inFar
  cases farColor : far.color with
  | red =>
      refine ⟨head, near, tmp, far, ?_, here, farColor, rfl⟩
      rw [rbRemoveBend, atTmp, Links.child_branch_opposite, farRed, if_pos (by simp [farColor])]
  | black =>
      have nearColor : near.color = .red := by
        cases nearColor : near.color with
        | red => rfl
        | black => exact absurd ⟨nearColor, farColor⟩ someRed
      obtain ⟨x, top, y, rfl⟩ := RefTree.branch_of_color nearColor side
      obtain ⟨xTall, yTall, -, yBlack⟩ := height_branch_red.mp here.nearTall
      have painted := focus_near.mpr ((focus_near.mp inSibling).setColor .black)
      obtain ⟨after, rotated, result⟩ := rbRotate_opposite (painted.setColor .red)
      have below := focus_near.mp (focus_far.mpr result)
      refine ⟨after, x, top, .branch side .red y tmp far, ?_, ⟨below, xTall,
        height_branch_red.mpr ⟨yTall, here.farTall, yBlack, farColor⟩, here.red, here.black⟩,
        RefTree.color_branch .., RefTree.refs_rotate.symm⟩
      have next : (after.links parent).child side.opposite = some top := by
        rw [below.parent_links, Links.child_branch_opposite, RefTree.root_branch]
      rw [rbRemoveBend, atTmp, Links.child_branch_opposite, farRed, if_neg (by simp [farColor]),
        Links.child_branch_self, RefTree.root_branch]
      simp only [paint, rotated, Option.bind_eq_bind, Option.bind_some, next]

theorem rbRemoveTurn_spec (here : BlackSibling head tree side color parent near tmp far rest height)
    (tall : Height tree height) (someRed : ¬(near.color = .black ∧ far.color = .black)) :
    Repaired (Path.plug tree
        (⟨side, color, parent, .branch side .black near tmp far⟩ :: rest)).refs
      (rbRemoveTurn side head parent tmp) := by
  obtain ⟨bent, near', tmp', far', result, there, farRed, same⟩ := rbRemoveBend_spec here someRed
  obtain ⟨x, top, y, rfl⟩ := RefTree.branch_of_color farRed side
  obtain ⟨xTall, yTall, -, -⟩ := height_branch_red.mp there.farTall
  have family := focus_near.mpr there.focus
  have one := focus_far.mpr ((focus_far.mp family).setColor color)
  have two := focus_far.mp (one.setColor .black)
  have three := focus_far.mpr (focus_far.mpr ((focus_far.mp two).setColor .black))
  obtain ⟨after, rotated, turned⟩ := rbRotate_focus three
  have atParent : (bent.links parent).color = color := by
    rw [there.focus.parent_links, Links.color_branch]
  have atTmp := two.links
  refine ⟨after, ?_, _, focus_plug.mp turned, ?_, ?_⟩
  · rw [rbRemoveTurn, result]
    simp only [Option.bind_eq_bind, Option.bind_some, atParent, atTmp, Links.child_branch_opposite,
      RefTree.root_branch, paint]
    exact rotated
  · have nearTall : Height (.branch side .black tree parent near') (height + 1) :=
      height_branch_black.mpr ⟨tall, there.nearTall⟩
    have farTall : Height (.branch side .black x top y) (height + 1) :=
      height_branch_black.mpr ⟨xTall, yTall⟩
    cases color with
    | red =>
        refine Fits.plug (height_branch_red.mpr ⟨nearTall, farTall, RefTree.color_branch ..,
          RefTree.color_branch ..⟩) ?_
        rw [RefTree.color_branch]
        exact there.red rfl
    | black =>
        refine Fits.plug (height_branch_black.mpr ⟨nearTall, farTall⟩) ?_
        rw [RefTree.color_branch]
        exact there.black rfl
  · refine Path.refs_plug_congr ?_ rest
    calc (RefTree.branch side color (.branch side .black tree parent near') tmp'
          (.branch side .black x top y)).refs
        = (RefTree.branch side color tree parent
            (.branch side .black near' tmp' (.branch side .black x top y))).refs :=
          RefTree.refs_rotate
      _ = (RefTree.branch side color tree parent (.branch side .black near tmp far)).refs :=
          RefTree.refs_branch_congr rfl ((RefTree.refs_branch_congr rfl
            (RefTree.refs_branch_congr rfl rfl)).trans same)

omit [DecidableEq Ref] in
theorem root_above (focus : Focus head tree (⟨side, color, parent, sibling⟩ :: rest)) :
    tree.root ≠ head.root := by
  have rooted : ∀ (path : Path Ref) (ref : Ref), ∃ top, rootOf (some ref) path = some top ∧
      (top = ref ∨ top ∈ pathRefs path) := by
    intro path
    induction path with
    | nil => exact fun ref => ⟨ref, rfl, .inl rfl⟩
    | cons frame rest ih =>
        intro ref
        obtain ⟨top, isTop, place⟩ := ih frame.ref
        refine ⟨top, isTop, .inr ?_⟩
        rcases place with rfl | above
        · exact List.mem_cons_self
        · exact List.mem_cons_of_mem frame.ref (List.mem_append_right _ above)
  obtain ⟨top, isTop, place⟩ := rooted rest parent
  rw [focus.rooted]
  change tree.root ≠ rootOf (some parent) rest
  rw [isTop]
  intro same
  refine (List.nodup_append.mp focus.distinct).2.2 top (RefTree.root_mem same) top ?_ rfl
  rcases place with rfl | above
  · exact List.mem_cons_self
  · exact List.mem_cons_of_mem parent (List.mem_append_right _ above)

theorem rbRemoveColor_red (focus : Focus head tree path) (red : tree.color = .red)
    (tall : Height tree.blacken (height + 1)) (fits : Fits path .black (height + 1))
    (enough : 0 < fuel) (parent : Option Ref) :
    Repaired (Path.plug tree path).refs (rbRemoveColor fuel head parent tree.root) := by
  obtain ⟨more, rfl⟩ := Nat.exists_eq_add_of_le' enough
  have rootRed : isRed head tree.root = true := by
    rw [isRed_root focus.subtree, red]
    rfl
  refine ⟨paint head tree.root .black, ?_, _, focus_plug.mp (paint_focus focus), Fits.plug tall ?_,
    Path.refs_plug_congr (RefTree.refs_blacken tree) path⟩
  · rw [rbRemoveColor, if_neg (by simp [rootRed])]
  · obtain ⟨near, ref, far, rfl⟩ := RefTree.branch_of_color red .left
    exact fits

theorem rbRemoveColor_black (focus : Focus head tree path) (black : tree.color = .black)
    (tall : Height tree height) (fits : Fits path .black (height + 1))
    (enough : path.length < fuel) :
    Repaired (Path.plug tree path).refs (rbRemoveColor fuel head (Path.parent path) tree.root) := by
  induction path generalizing head tree height fuel with
  | nil =>
      obtain ⟨more, rfl⟩ := Nat.exists_eq_add_of_le' (Nat.zero_lt_of_lt enough)
      have atRoot : head.root = tree.root := focus.rooted
      have whole : RedBlack tree := ⟨black, height, tall⟩
      have painted := paint_focus focus
      rw [whole.blacken_eq] at painted
      refine ⟨_, ?_, tree, painted, whole, rfl⟩
      rw [rbRemoveColor, if_neg (by simp [atRoot])]
  | cons frame rest ih =>
      obtain ⟨side, color, parent, sibling⟩ := frame
      obtain ⟨more, rfl⟩ := Nat.exists_eq_add_of_le' (Nat.zero_lt_of_lt enough)
      rw [List.length_cons] at enough
      have rootBlack : isRed head tree.root = false := by
        rw [isRed_root focus.subtree, black]
        rfl
      have siblingTall : Height sibling (height + 1) := by
        cases color with
        | red => exact fits.2.1
        | black => exact fits.1
      have whichSide : head.sideOf parent tree.root = side := by
        refine focus.sideOf_eq ?_
        intro same
        cases tree with
        | leaf =>
            rw [RefTree.root_eq_none.mp same] at siblingTall
            cases siblingTall
        | node treeColor left top right => exact focus.sibling_root rfl same
      obtain ⟨after, color', near, tmp, far, rest', found, here, same, stay⟩ :=
        rbRemoveSibling_spec focus fits
      have inSibling := focus_far.mp (focus_near.mpr here.focus)
      obtain ⟨atTmp, inNear, inFar⟩ := holds_branch.mp inSibling.subtree
      have children : (isRed after (after.links tmp).left = false ∧
          isRed after (after.links tmp).right = false) ↔
          near.color = .black ∧ far.color = .black := by
        have nearRed := isRed_root inNear
        have farRed := isRed_root inFar
        rw [atTmp]
        cases side with
        | left => cases nearColor : near.color <;> cases farColor : far.color <;>
            simp [Links.branch, nearRed, farRed, nearColor, farColor]
        | right => cases nearColor : near.color <;> cases farColor : far.color <;>
            simp [Links.branch, nearRed, farRed, nearColor, farColor]
      have unrolled : rbRemoveColor (more + 1) head (some parent) tree.root =
          if near.color = .black ∧ far.color = .black then
            rbRemoveColor more (after.setColor tmp .red)
              ((after.setColor tmp .red).links parent).parent (some parent)
          else (rbRemoveTurn side after parent tmp).bind
            fun head => some (paint head head.root .black) := by
        rw [rbRemoveColor, if_pos ⟨rootBlack, root_above focus⟩]
        simp only [Option.bind_eq_bind, Option.bind_some, whichSide, found]
        exact if_congr children rfl rfl
      rw [Path.parent_cons, unrolled, ← same]
      by_cases bothBlack : near.color = .black ∧ far.color = .black
      · rw [if_pos bothBlack]
        have painted := focus_far.mpr (inSibling.setColor .red)
        have shorter : Height (.branch side .red near tmp far) height :=
          height_branch_red.mpr ⟨here.nearTall, here.farTall, bothBlack⟩
        have above : ((after.setColor tmp .red).links parent).parent = Path.parent rest' := by
          rw [painted.links, Links.parent_branch]
        have recolored : (Path.plug tree
            (⟨side, color', parent, .branch side .black near tmp far⟩ :: rest')).refs =
            (Path.plug (.branch side color' tree parent (.branch side .red near tmp far))
              rest').refs :=
          Path.refs_plug_congr
            (RefTree.refs_branch_congr rfl (RefTree.refs_branch_congr rfl rfl)) rest'
        rw [above, recolored, ← RefTree.root_branch side color' tree parent]
        cases color' with
        | red =>
            refine rbRemoveColor_red painted (RefTree.color_branch ..) ?_ (here.red rfl).weaken
              (by omega) _
            cases side with
            | left => exact ⟨tall, shorter⟩
            | right => exact ⟨shorter, tall⟩
        | black =>
            cases stay rfl
            exact ih painted (RefTree.color_branch ..) (height_branch_black.mpr ⟨tall, shorter⟩)
              (here.black rfl) (by omega)
      · rw [if_neg bothBlack]
        obtain ⟨turned, result, whole, focus', redBlack, order⟩ :=
          rbRemoveTurn_spec here tall bothBlack
        have final := paint_focus focus'
        rw [redBlack.blacken_eq] at final
        have atRoot : turned.root = whole.root := focus'.rooted
        refine ⟨_, ?_, whole, final, redBlack, order⟩
        rw [result, Option.bind_some, atRoot]

end Repair

/-! ### RB_REMOVE -/

section Unlink

variable {head : Memory Ref} {path : Path Ref} {side : Side} {color : Color}
  {child left right : RefTree Ref} {elm old : Ref}

omit [DecidableEq Ref] in
theorem root_ne {tree : RefTree Ref} (outside : elm ∉ tree.refs) : tree.root ≠ some elm :=
  fun isRoot => outside (RefTree.root_mem isRoot)

omit [DecidableEq Ref] in
theorem parent_ne (outside : elm ∉ pathRefs path) : Path.parent path ≠ some elm :=
  fun isParent => outside (pathRefs_parent isParent)

theorem rbUnlink_focus (focus : Focus head (.branch side color child elm .leaf) path) :
    Focus (rbUnlink head elm child.root) child path ∧
      (rbUnlink head elm child.root).links elm = head.links elm := by
  obtain ⟨notChild, -, notPath, childOnce, -, pathOnce, apart, -⟩ := focus.apart
  obtain ⟨atElm, inChild, -⟩ := holds_branch.mp focus.subtree
  have atPath := focus.above
  have rooted := focus.rooted
  rw [RefTree.root_branch] at atPath rooted
  have unlinked : rbUnlink head elm child.root =
      (head.adopt child.root (Path.parent path)).relink (Path.parent path) elm child.root := by
    rw [rbUnlink, atElm, Links.parent_branch]
  rw [unlinked]
  refine ⟨⟨?_, ?_, ?_, ?_⟩, ?_⟩
  · refine (inChild.adopt childOnce (Path.parent path)).frame ?_
    intro other member
    exact Memory.relink_other _ (parent_ne (apart other member).2) elm child.root
  · refine HoldsPath.relink (atPath.frame ?_) pathOnce notPath child.root
    intro other member
    exact Memory.adopt_other _ (root_ne fun inside => (apart other inside).2 member) _
  · refine root_relink ?_ child.root
    rw [Memory.root_adopt]
    exact rooted
  · refine List.nodup_append.mpr ⟨childOnce, pathOnce, ?_⟩
    rintro other inside _ above rfl
    exact (apart other inside).2 above
  · rw [Memory.relink_other _ (parent_ne notPath), Memory.adopt_other _ (root_ne notChild)]

/-- A node outside of the tree takes the place of `old`. -/
theorem rbReplace_focus {next : Ref} (focus : Focus head (.node color left old right) path)
    (isLeft : left.root = some next)
    (fresh : elm ∉ (RefTree.node color left old right).refs ++ pathRefs path) :
    ∃ after, rbReplace head old elm = some after ∧
      Focus after (.node color left elm right) path := by
  obtain ⟨oldLeft, oldRight, oldPath, leftOnce, rightOnce, pathOnce, apartLeft, apartRight⟩ :=
    @Focus.apart _ _ _ _ _ .left _ _ focus
  have inPath : elm ∉ pathRefs path := fun member => fresh (List.mem_append_right _ member)
  have inTree : elm ∉ (RefTree.node color left old right).refs :=
    fun member => fresh (List.mem_append_left _ member)
  rw [RefTree.refs, List.mem_append, List.mem_cons, not_or, not_or] at inTree
  obtain ⟨inLeft, notOld, inRight⟩ := inTree
  obtain ⟨atOld, holdsLeft, holdsRight⟩ := focus.subtree
  let one := head.store elm (head.links old)
  let two := one.relink (Path.parent path) old (some elm)
  let three := two.adopt left.root (some elm)
  let four := three.adopt right.root (some elm)
  have oneOld : one.links old = head.links old := Memory.store_other _ (Ne.symm notOld) _
  have twoOld : two.links old = head.links old := by
    rw [Memory.relink_other _ (parent_ne oldPath), oneOld]
  have threeOld : three.links old = head.links old := by
    rw [Memory.adopt_other _ (root_ne oldLeft), twoOld]
  refine ⟨four, ?_, ?_, ?_, ?_, ?_⟩
  · have relinked : one.relink (one.links old).parent old (some elm) = two := by
      rw [oneOld, atOld]
    have adopted : two.setParent next (some elm) = three := by
      change _ = two.adopt left.root (some elm)
      rw [isLeft]
      rfl
    change (((one.relink (one.links old).parent old (some elm)).links old).left.bind fun left =>
      some ((((one.relink (one.links old).parent old (some elm)).setParent left (some elm)).adopt
        ((((one.relink (one.links old).parent old (some elm)).setParent left (some elm)).links
          old).right) (some elm)))) = some four
    rw [relinked, twoOld, atOld, isLeft, Option.bind_some, adopted, threeOld, atOld]
  · refine ⟨?_, ?_, ?_⟩
    · rw [Memory.adopt_other _ (root_ne inRight), Memory.adopt_other _ (root_ne inLeft),
        Memory.relink_other _ (parent_ne inPath), Memory.store_self, atOld]
    · have before : Holds two.links (some old) left := by
        refine holdsLeft.frame ?_
        intro other member
        rw [Memory.relink_other _ (parent_ne (apartLeft other member).2),
          Memory.store_other _ (fun same : other = elm => inLeft (same ▸ member))]
      refine (before.adopt leftOnce (some elm)).frame ?_
      intro other member
      exact Memory.adopt_other _ (root_ne (apartLeft other member).1) _
    · refine Holds.adopt (holdsRight.frame ?_) rightOnce (some elm)
      intro other member
      have notLeft : other ∉ left.refs := fun inside => (apartLeft other inside).1 member
      rw [Memory.adopt_other _ (root_ne notLeft),
        Memory.relink_other _ (parent_ne (apartRight other member)),
        Memory.store_other _ (fun same : other = elm => inRight (same ▸ member))]
  · have before : HoldsPath one.links (some old) path := by
      refine focus.above.frame ?_
      intro other member
      exact Memory.store_other _ (fun same : other = elm => inPath (same ▸ member)) _
    refine (before.relink pathOnce oldPath (some elm)).frame ?_
    intro other member
    have notLeft : other ∉ left.refs := fun inside => (apartLeft other inside).2 member
    have notRight : other ∉ right.refs := fun inside => apartRight other inside member
    rw [Memory.adopt_other _ (root_ne notRight), Memory.adopt_other _ (root_ne notLeft)]
  · rw [Memory.root_adopt, Memory.root_adopt]
    have rooted : one.root = rootOf (some old) path := focus.rooted
    exact root_relink rooted (some elm)
  · have distinct := focus.distinct
    simp only [RefTree.refs, List.append_assoc, List.cons_append] at distinct fresh ⊢
    have once := List.nodup_middle.mp distinct
    refine List.nodup_middle.mpr (List.nodup_cons.mpr ⟨?_, (List.nodup_cons.mp once).2⟩)
    intro member
    refine fresh ?_
    rcases List.mem_append.mp member with inside | outside
    · exact List.mem_append_left _ inside
    · exact List.mem_append_right _ (List.mem_cons_of_mem old outside)

end Unlink

section Removal

variable {head : Memory Ref} {path : Path Ref} {side : Side} {color : Color}
  {child left right : RefTree Ref} {elm old : Ref} {height fuel : Nat}

/-- The child of a removed node stands in its place; a black node is made up for. -/
theorem rbRemoveColor_spec (focus : Focus head child path)
    (tall : Height (.branch side color child elm .leaf) height) (fits : Fits path color height)
    (enough : path.length < fuel) :
    Repaired (Path.plug child path).refs
      (if color = .black then rbRemoveColor fuel head (Path.parent path) child.root
        else some head) := by
  cases color with
  | red =>
      obtain ⟨childTall, -, childBlack, -⟩ := height_branch_red.mp tall
      refine ⟨head, if_neg (by decide), _, focus_plug.mp focus, Fits.plug childTall ?_, rfl⟩
      rw [childBlack]
      exact fits.weaken
  | black =>
      rw [if_pos rfl]
      cases height with
      | zero => cases side <;> cases tall
      | succ height =>
          obtain ⟨childTall, -⟩ := height_branch_black.mp tall
          cases childColor : child.color with
          | red =>
              exact rbRemoveColor_red focus childColor (childTall.blacken childColor) fits
                (Nat.zero_lt_of_lt enough) _
          | black => exact rbRemoveColor_black focus childColor childTall fits enough

theorem rbRemoveOuter_spec (focus : Focus head (.branch side color child elm .leaf) path)
    (redBlack : RedBlack (Path.plug (.branch side color child elm .leaf) path))
    (enough : path.length < fuel) :
    Repaired (Path.plug child path).refs (rbRemoveOuter fuel head elm child.root) := by
  obtain ⟨height, tall, fits⟩ := redBlack.fits
  rw [RefTree.color_branch] at fits
  obtain ⟨unlinked, -⟩ := rbUnlink_focus focus
  have atElm := focus.links
  rw [rbRemoveOuter, atElm, Links.parent_branch, Links.color_branch]
  exact rbRemoveColor_spec unlinked tall fits enough

omit [DecidableEq Ref] in
theorem rbAugmentUp_spec {tree : RefTree Ref} {ref : Ref} (focus : Focus head tree path)
    (isRoot : tree.root = some ref) (enough : path.length < fuel) :
    rbAugmentUp head fuel ref = some () := by
  induction path generalizing tree ref fuel with
  | nil =>
      obtain ⟨more, rfl⟩ := Nat.exists_eq_add_of_le' (Nat.zero_lt_of_lt enough)
      rw [rbAugmentUp, focus.parent_eq isRoot]
      rfl
  | cons frame rest ih =>
      obtain ⟨more, rfl⟩ := Nat.exists_eq_add_of_le' (Nat.zero_lt_of_lt enough)
      rw [rbAugmentUp, focus.parent_eq isRoot]
      exact ih (focus_up.mp focus) (RefTree.root_branch ..) (Nat.lt_of_succ_lt_succ enough)

omit [DecidableEq Ref] in
theorem rbAugment_spec {tree : RefTree Ref} (focus : Focus head tree path)
    (enough : path.length ≤ fuel) : rbAugment head fuel (Path.parent path) = some () := by
  cases path with
  | nil => rfl
  | cons frame rest =>
      exact rbAugmentUp_spec (focus_up.mp focus) (RefTree.root_branch ..)
        (Nat.lt_of_succ_le enough)

/-- The successor, which has no left child, takes the place of `old`. -/
theorem rbRemoveInner_spec {inner : Path Ref} {below : Color} {next : Ref}
    (focus : Focus head
      (.node color left old (Path.plug (.node below .leaf elm child) inner)) path)
    (redBlack : RedBlack (Path.plug
      (.node color left old (Path.plug (.node below .leaf elm child) inner)) path))
    (isLeft : left.root = some next) (enough : inner.length + path.length + 1 < fuel) :
    Repaired (Path.plug child (inner ++ ⟨.right, color, elm, left⟩ :: path)).refs
      (rbRemoveInner fuel head old elm) := by
  have atElm : Focus head (.branch .right below child elm .leaf)
      (inner ++ ⟨.right, color, old, left⟩ :: path) := focus_append.mpr (focus_up.mpr focus)
  have whole : RedBlack (Path.plug (.branch .right below child elm .leaf)
      (inner ++ ⟨.right, color, old, left⟩ :: path)) := by
    rw [Path.plug_append]
    exact redBlack
  obtain ⟨height, tall, fits⟩ := whole.fits
  rw [RefTree.color_branch] at fits
  obtain ⟨unlinked, kept⟩ := rbUnlink_focus atElm
  have fresh : elm ∉ (RefTree.node color left old (Path.plug child inner)).refs ++
      pathRefs path := by
    have same := refs_plug_perm child (inner ++ ⟨.right, color, old, left⟩ :: path)
    rw [Path.plug_append] at same
    have same' := (refs_plug_perm (.node color left old (Path.plug child inner)) path).symm.trans
      same
    obtain ⟨notChild, -, notPath, -⟩ := atElm.apart
    rw [same'.mem_iff, List.mem_append]
    exact fun place => place.elim notChild notPath
  obtain ⟨after, replaced, result⟩ :=
    rbReplace_focus (focus_up.mp (focus_append.mp unlinked)) isLeft fresh
  have there : Focus after child (inner ++ ⟨.right, color, elm, left⟩ :: path) :=
    focus_append.mpr (focus_up.mpr result)
  have links := atElm.links
  have parent : (if (head.links elm).parent = some old then some elm
      else (head.links elm).parent) =
      Path.parent (inner ++ ⟨.right, color, elm, left⟩ :: path) := by
    rw [links, Links.parent_branch]
    cases inner with
    | nil => exact if_pos rfl
    | cons frame rest =>
        refine if_neg ?_
        intro same
        have once := (List.nodup_append.mp atElm.distinct).2.1
        cases same
        exact (List.nodup_cons.mp once).1 (List.mem_append_right _ mem_pathRefs)
  have shallow : (inner ++ ⟨.right, color, elm, left⟩ :: path).length < fuel := by
    rw [List.length_append, List.length_cons]
    omega
  have done := rbRemoveColor_spec there tall (fits.replace elm) shallow
  have augmented := rbAugment_spec there (Nat.le_of_lt shallow)
  rw [← parent] at done augmented
  rw [rbRemoveInner]
  have child_eq : (head.links elm).right = child.root := by
    rw [links]
    rfl
  have color_eq : (head.links elm).color = below := by
    rw [links, Links.color_branch]
  simp only [child_eq, color_eq, kept, replaced, augmented, Option.bind_eq_bind,
    Option.bind_some]
  exact done

/-- The node is gone, the others are still there in order, and the tree is red-black. -/
theorem rbRemove_spec {refs : List Ref} (stores : Stores head refs) (member : elm ∈ refs)
    (enough : steps refs.length ≤ fuel) :
    Repaired (refs.erase elm) (rbRemove fuel head elm) := by
  obtain ⟨before, after, rfl⟩ := List.append_of_mem member
  have once := stores.nodup
  have notBefore : elm ∉ before := fun inside =>
    (List.nodup_append.mp once).2.2 elm inside elm List.mem_cons_self rfl
  obtain ⟨color, left, right, path, here, redBlack, rfl, rfl, shallow⟩ := focus_at stores
  have atElm : head.links elm = ⟨left.root, right.root, Path.parent path, color⟩ := here.subtree.1
  rw [List.erase_append_right _ notBefore, List.erase_cons_head, rbRemove, atElm]
  cases left with
  | leaf =>
      have done := @rbRemoveOuter_spec _ _ head path .right color right elm fuel here redBlack
        (by omega)
      rw [Path.refs_plug] at done
      rw [RefTree.refs, List.append_nil]
      exact done
  | node leftColor leftLeft next leftRight =>
      cases right with
      | leaf =>
          have done := @rbRemoveOuter_spec _ _ head path .left color
            (.node leftColor leftLeft next leftRight) elm fuel here redBlack (by omega)
          rw [Path.refs_plug, ← List.append_assoc] at done
          exact done
      | node rightColor rightLeft top rightRight =>
          obtain ⟨below, least, child, inner, shape, sides, result⟩ :=
            @rbEdge_spec _ head .left _ _ top fuel here.subtree.2.2 rfl (by omega)
          change _ = Path.plug (.node below .leaf least child) inner at shape
          have innerDeep := Path.depth_plug (.node below .leaf least child) inner
          rw [← shape] at innerDeep
          rw [RefTree.depth] at innerDeep
          have inOrder := Path.refs_plug (.node below .leaf least child) inner
          rw [← shape, Path.before_of_left sides] at inOrder
          rw [shape] at here redBlack
          have done := rbRemoveInner_spec here redBlack rfl
            (by omega : inner.length + path.length + 1 < fuel)
          rw [Path.refs_plug, Path.before_append, Path.before_of_left sides, Path.after_append]
            at done
          simp only [RefTree.root, result, Option.bind_eq_bind, Option.bind_some]
          rw [inOrder]
          simpa [Path.before, Path.after, RefTree.refs] using done

end Removal

end RedBlack
end NatPorte
