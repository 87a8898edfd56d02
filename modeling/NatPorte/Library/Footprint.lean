/-
Actions that read and write a part of a memory only.

A memory maps cells to values; an action answers and leaves a memory behind.  An
action is confined to a footprint when nothing outside it is written and neither
the answer nor what is written depends on anything outside.  Two actions with
disjoint footprints can be exchanged.
-/

import Mathlib.Data.Set.Basic

namespace Footprint

variable {Cell Value Answer Other : Type}

abbrev Action (Cell Value Answer : Type) := (Cell → Value) → Answer × (Cell → Value)

/-- `valid` says which memories the actions are run on. -/
structure Confined (valid : (Cell → Value) → Prop) (footprint : Set Cell)
    (action : Action Cell Value Answer) : Prop where
  keeps : ∀ memory, valid memory → valid (action memory).2
  frame : ∀ memory, valid memory → ∀ cell, cell ∉ footprint →
    (action memory).2 cell = memory cell
  agrees : ∀ left right, valid left → valid right →
    (∀ cell ∈ footprint, left cell = right cell) →
    (action left).1 = (action right).1 ∧
      ∀ cell ∈ footprint, (action left).2 cell = (action right).2 cell

namespace Confined

variable {valid : (Cell → Value) → Prop} {footprint otherFootprint : Set Cell}
  {action : Action Cell Value Answer} {other : Action Cell Value Other} {memory : Cell → Value}

theorem undisturbed (confined : Confined valid footprint action)
    (elsewhere : Confined valid otherFootprint other)
    (disjoint : ∀ cell ∈ footprint, cell ∉ otherFootprint) (sound : valid memory) :
    (action (other memory).2).1 = (action memory).1 ∧
      ∀ cell ∈ footprint, (action (other memory).2).2 cell = (action memory).2 cell := by
  apply confined.agrees
  · exact elsewhere.keeps memory sound
  · exact sound
  · intro cell inside
    exact elsewhere.frame memory sound cell (disjoint cell inside)

theorem commute (confined : Confined valid footprint action)
    (elsewhere : Confined valid otherFootprint other)
    (disjoint : ∀ cell ∈ footprint, cell ∉ otherFootprint) (sound : valid memory) :
    (other (action memory).2).2 = (action (other memory).2).2 := by
  have symmetric : ∀ cell ∈ otherFootprint, cell ∉ footprint :=
    fun cell inOther inside => disjoint cell inside inOther
  have mine := undisturbed confined elsewhere disjoint sound
  have theirs := undisturbed elsewhere confined symmetric sound
  have soundFirst := confined.keeps memory sound
  have soundOther := elsewhere.keeps memory sound
  funext cell
  by_cases inside : cell ∈ footprint
  · rw [elsewhere.frame _ soundFirst cell (disjoint cell inside), mine.2 cell inside]
  · by_cases inOther : cell ∈ otherFootprint
    · rw [theirs.2 cell inOther, confined.frame _ soundOther cell inside]
    · rw [elsewhere.frame _ soundFirst cell inOther, confined.frame _ sound cell inside,
        confined.frame _ soundOther cell inside, elsewhere.frame _ sound cell inOther]

end Confined

end Footprint
