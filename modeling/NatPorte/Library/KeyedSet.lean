/-
Keyed sets of references.

A set holds references; `keyOf` reads the key of one.  This is what a balanced
tree with a comparison on keys provides to its callers: find by key, insert
unless the key is taken, remove a reference.  No order and no shape is modelled.
-/

import Mathlib.Data.List.Nodup

namespace KeyedSet

variable {Ref Key : Type} {keyOf : Ref → Key} {set : List Ref} {key : Key} {ref : Ref}

def DistinctKeys (keyOf : Ref → Key) (set : List Ref) : Prop :=
  (set.map keyOf).Nodup

theorem DistinctKeys.congr {other : Ref → Key} (distinct : DistinctKeys keyOf set)
    (same : ∀ ref ∈ set, keyOf ref = other ref) : DistinctKeys other set := by
  rw [DistinctKeys, ← List.map_congr_left same]
  exact distinct

theorem DistinctKeys.nodup (distinct : DistinctKeys keyOf set) : set.Nodup :=
  List.Nodup.of_map keyOf distinct

theorem DistinctKeys.eq_of_key {left right : Ref} (distinct : DistinctKeys keyOf set)
    (leftIn : left ∈ set) (rightIn : right ∈ set) (same : keyOf left = keyOf right) :
    left = right :=
  List.inj_on_of_nodup_map distinct leftIn rightIn same

section Lookup

variable [DecidableEq Key]

def find (keyOf : Ref → Key) (set : List Ref) (key : Key) : Option Ref :=
  set.find? (fun ref => keyOf ref = key)

/-- The reference that already holds the key, if any, is reported and the set
stays as it is. -/
def insert (keyOf : Ref → Key) (set : List Ref) (ref : Ref) : List Ref × Option Ref :=
  match find keyOf set (keyOf ref) with
  | some holder => (set, some holder)
  | none => (ref :: set, none)

theorem mem_of_find (found : find keyOf set key = some ref) : ref ∈ set :=
  List.mem_of_find?_eq_some found

theorem key_of_find (found : find keyOf set key = some ref) : keyOf ref = key :=
  of_decide_eq_true (List.find?_some (p := fun ref => decide (keyOf ref = key)) found)

theorem find_eq_none : find keyOf set key = none ↔ ∀ ref ∈ set, keyOf ref ≠ key := by
  simp [find, List.find?_eq_none]

theorem DistinctKeys.find_eq_some (distinct : DistinctKeys keyOf set) :
    find keyOf set key = some ref ↔ ref ∈ set ∧ keyOf ref = key := by
  constructor
  · intro found
    exact ⟨mem_of_find found, key_of_find found⟩
  · rintro ⟨member, rfl⟩
    cases found : find keyOf set (keyOf ref) with
    | none => exact absurd rfl (find_eq_none.mp found ref member)
    | some holder =>
        rw [distinct.eq_of_key (mem_of_find found) member (key_of_find found)]

theorem insert_of_taken {holder : Ref} (taken : find keyOf set (keyOf ref) = some holder) :
    insert keyOf set ref = (set, some holder) := by
  rw [insert, taken]

theorem insert_of_free (free : find keyOf set (keyOf ref) = none) :
    insert keyOf set ref = (ref :: set, none) := by
  rw [insert, free]

theorem DistinctKeys.cons (distinct : DistinctKeys keyOf set)
    (free : find keyOf set (keyOf ref) = none) : DistinctKeys keyOf (ref :: set) := by
  rw [DistinctKeys, List.map_cons, List.nodup_cons]
  refine ⟨?_, distinct⟩
  intro taken
  obtain ⟨holder, member, same⟩ := List.mem_map.mp taken
  exact find_eq_none.mp free holder member same

end Lookup

section Removal

variable [DecidableEq Ref]

def remove (set : List Ref) (ref : Ref) : List Ref :=
  set.erase ref

@[simp] theorem remove_cons (set : List Ref) (ref : Ref) : remove (ref :: set) ref = set :=
  List.erase_cons_head ref set

theorem DistinctKeys.remove (distinct : DistinctKeys keyOf set) (ref : Ref) :
    DistinctKeys keyOf (remove set ref) :=
  List.Nodup.sublist (List.Sublist.map keyOf (List.erase_sublist ..)) distinct

theorem DistinctKeys.mem_remove {other : Ref} (distinct : DistinctKeys keyOf set) :
    other ∈ KeyedSet.remove set ref ↔ other ≠ ref ∧ other ∈ set :=
  List.Nodup.mem_erase_iff distinct.nodup

end Removal

end KeyedSet
