/-
Insertion-ordered objects.

An object maps keys to values; a new key goes to the end, an existing key keeps
its place.  `contents` flattens an object of lists, and the lemmas say how a
change of one value changes it as a multiset.
-/

import Mathlib.Data.List.Nodup
import Mathlib.Data.List.Perm.Basic

namespace ObjectMap

variable {Key Value : Type} [DecidableEq Key]

abbrev Object (Key Value : Type) := List (Key × Value)

def get : Object Key Value → Key → Option Value
  | [], _ => none
  | (name, value) :: rest, key => if name = key then some value else get rest key

def set : Object Key Value → Key → Value → Object Key Value
  | [], key, value => [(key, value)]
  | (name, old) :: rest, key, value =>
      if name = key then (name, value) :: rest else (name, old) :: set rest key value

def delete (object : Object Key Value) (key : Key) : Object Key Value :=
  object.filter fun pair => pair.1 ≠ key

def keys (object : Object Key Value) : List Key :=
  object.map Prod.fst

variable {object : Object Key Value} {key other : Key} {value : Value}

@[simp] theorem get_set_self (object : Object Key Value) (key : Key) (value : Value) :
    get (set object key value) key = some value := by
  induction object with
  | nil => simp [set, get]
  | cons pair rest ih =>
      rw [set]
      split
      · next same => rw [get, if_pos same]
      · next different => rw [get, if_neg different, ih]

theorem get_set_other (different : other ≠ key) :
    get (set object key value) other = get object other := by
  induction object with
  | nil =>
      exact if_neg (Ne.symm different)
  | cons pair rest ih =>
      rw [set]
      split
      · next same =>
          have missed : pair.1 ≠ other := by
            rw [same]
            exact Ne.symm different
          rw [get, get, if_neg missed, if_neg missed]
      · rw [get, get, ih]

theorem get_eq_none : get object key = none ↔ key ∉ keys object := by
  induction object with
  | nil => simp [get, keys]
  | cons pair rest ih =>
      simp only [keys] at ih
      by_cases same : pair.1 = key
      · simp [get, keys, same]
      · simp [get, keys, same, Ne.symm same, ih]

theorem mem_of_get (found : get object key = some value) : (key, value) ∈ object := by
  induction object with
  | nil => cases found
  | cons pair rest ih =>
      rw [get] at found
      split at found
      · next same =>
          cases found
          rw [← same]
          exact List.mem_cons_self
      · exact List.mem_cons_of_mem _ (ih found)

theorem get_of_mem (distinct : (keys object).Nodup) (member : (key, value) ∈ object) :
    get object key = some value := by
  induction object with
  | nil => cases member
  | cons pair rest ih =>
      obtain ⟨fresh, distinctRest⟩ := List.nodup_cons.mp distinct
      rcases List.mem_cons.mp member with rfl | inRest
      · rw [get, if_pos rfl]
      · have different : pair.1 ≠ key := by
          intro same
          exact fresh (same ▸ List.mem_map_of_mem (f := Prod.fst) inRest)
        rw [get, if_neg different, ih distinctRest inRest]

theorem keys_set_of_mem (member : key ∈ keys object) : keys (set object key value) = keys object := by
  induction object with
  | nil => cases member
  | cons pair rest ih =>
      rw [set]
      split
      · rfl
      · next different =>
          have inRest : key ∈ keys rest :=
            (List.mem_cons.mp member).resolve_left (Ne.symm different)
          exact congrArg (pair.1 :: ·) (ih inRest)

theorem set_of_new (fresh : key ∉ keys object) :
    set object key value = object ++ [(key, value)] := by
  induction object with
  | nil => rfl
  | cons pair rest ih =>
      have different : pair.1 ≠ key := fun same => fresh (List.mem_cons.mpr (.inl same.symm))
      have freshRest : key ∉ keys rest := fun inRest => fresh (List.mem_cons_of_mem _ inRest)
      rw [set, if_neg different, ih freshRest, List.cons_append]

theorem mem_keys_set : other ∈ keys (set object key value) ↔ other = key ∨ other ∈ keys object := by
  by_cases member : key ∈ keys object
  · rw [keys_set_of_mem member]
    constructor
    · exact .inr
    · rintro (rfl | inKeys)
      · exact member
      · exact inKeys
  · rw [set_of_new member, keys, List.map_append]
    simp [keys, or_comm]

theorem nodup_keys_set (distinct : (keys object).Nodup) : (keys (set object key value)).Nodup := by
  by_cases member : key ∈ keys object
  · rw [keys_set_of_mem member]
    exact distinct
  · rw [set_of_new member, keys, List.map_append]
    refine List.nodup_append.mpr ⟨distinct, List.nodup_singleton key, ?_⟩
    rintro old inKeys new isKey rfl
    have sameKey : old = key := List.mem_singleton.mp isKey
    exact member (sameKey ▸ inKeys)

theorem mem_set {pair : Key × Value} (member : pair ∈ set object key value) :
    pair = (key, value) ∨ pair ∈ object := by
  induction object with
  | nil => exact .inl (List.mem_singleton.mp member)
  | cons head rest ih =>
      rw [set] at member
      split at member
      · next same =>
          rcases List.mem_cons.mp member with rfl | inRest
          · exact .inl (by rw [same])
          · exact .inr (List.mem_cons_of_mem _ inRest)
      · rcases List.mem_cons.mp member with rfl | inRest
        · exact .inr List.mem_cons_self
        · exact (ih inRest).imp_right (List.mem_cons_of_mem _)

theorem mem_keys_delete : other ∈ keys (delete object key) ↔ other ∈ keys object ∧ other ≠ key := by
  simp only [keys, delete, List.mem_map, List.mem_filter, decide_eq_true_eq]
  constructor
  · rintro ⟨pair, ⟨member, different⟩, rfl⟩
    exact ⟨⟨pair, member, rfl⟩, different⟩
  · rintro ⟨⟨pair, member, rfl⟩, different⟩
    exact ⟨pair, ⟨member, different⟩, rfl⟩

theorem nodup_keys_delete (distinct : (keys object).Nodup) : (keys (delete object key)).Nodup :=
  List.Nodup.sublist (List.Sublist.map Prod.fst List.filter_sublist) distinct

theorem get_delete_other (different : other ≠ key) :
    get (delete object key) other = get object other := by
  induction object with
  | nil => rfl
  | cons pair rest ih =>
      simp only [delete] at ih
      by_cases same : pair.1 = key
      · have missed : pair.1 ≠ other := by
          rw [same]
          exact Ne.symm different
        simp only [delete, List.filter_cons, same, ne_eq, not_true_eq_false, decide_false,
          Bool.false_eq_true, if_false, ih]
        rw [get, if_neg missed]
      · simp only [delete, List.filter_cons, same, ne_eq, not_false_eq_true, decide_true, if_true]
        rw [get, get, ih]

theorem delete_set (object : Object Key Value) (key : Key) (value : Value) :
    delete (set object key value) key = delete object key := by
  induction object with
  | nil => simp [set, delete]
  | cons pair rest ih =>
      simp only [delete] at ih
      by_cases same : pair.1 = key
      · simp [set, delete, same]
      · rw [set, if_neg same]
        simp only [delete, List.filter_cons]
        rw [ih]

section Contents

variable {Item : Type} {lists : Object Key (List Item)}

def contents (lists : Object Key (List Item)) : List Item :=
  lists.flatMap Prod.snd

omit [DecidableEq Key] in
theorem mem_contents {item : Item} :
    item ∈ contents lists ↔ ∃ key list, (key, list) ∈ lists ∧ item ∈ list := by
  simp [contents]

theorem contents_set_new (fresh : key ∉ keys lists) (list : List Item) :
    contents (set lists key list) = contents lists ++ list := by
  rw [set_of_new fresh, contents, contents, List.flatMap_append]
  simp

theorem contents_set {old : List Item} (found : get lists key = some old) (new : List Item) :
    (contents (set lists key new) ++ old).Perm (contents lists ++ new) := by
  induction lists with
  | nil => cases found
  | cons pair rest ih =>
      rw [get] at found
      rw [set]
      split at found
      · next same =>
          cases found
          rw [if_pos same]
          change ((new ++ contents rest) ++ pair.2).Perm ((pair.2 ++ contents rest) ++ new)
          exact (List.perm_append_comm.trans (List.perm_append_comm.append_left _)).trans
            (List.append_assoc .. ▸ List.Perm.refl _)
      · next different =>
          rw [if_neg different]
          change ((pair.2 ++ contents (set rest key new)) ++ old).Perm
            ((pair.2 ++ contents rest) ++ new)
          rw [List.append_assoc, List.append_assoc]
          exact (ih found).append_left _

theorem contents_push {list : List Item} (found : get lists key = some list) (item : Item) :
    (contents (set lists key (list ++ [item]))).Perm (item :: contents lists) := by
  have moved := contents_set found (list ++ [item])
  have grouped : (contents lists ++ (list ++ [item])).Perm (item :: contents lists ++ list) := by
    rw [← List.append_assoc]
    exact List.perm_append_singleton item _
  exact (List.perm_append_right_iff list).mp (moved.trans grouped)

theorem contents_remove {before after : List Item} {item : Item}
    (found : get lists key = some (before ++ item :: after)) :
    (item :: contents (set lists key (before ++ after))).Perm (contents lists) := by
  have moved := contents_set found (before ++ after)
  have grouped : (contents (set lists key (before ++ after)) ++ (before ++ item :: after)).Perm
      (item :: contents (set lists key (before ++ after)) ++ (before ++ after)) :=
    (List.perm_middle.append_left _).trans List.perm_middle
  exact (List.perm_append_right_iff (before ++ after)).mp (grouped.symm.trans moved)

theorem mem_contents_delete (distinct : (keys lists).Nodup) {item : Item} :
    item ∈ contents lists ↔
      item ∈ (get lists key).getD [] ∨ item ∈ contents (delete lists key) := by
  constructor
  · intro member
    obtain ⟨name, list, inLists, inList⟩ := mem_contents.mp member
    by_cases same : name = key
    · subst same
      rw [get_of_mem distinct inLists]
      exact .inl inList
    · exact .inr (mem_contents.mpr
        ⟨name, list, List.mem_filter.mpr ⟨inLists, decide_eq_true same⟩, inList⟩)
  · intro listed
    rcases listed with here | elsewhere
    · cases found : get lists key with
      | none =>
          rw [found] at here
          cases here
      | some list =>
          rw [found] at here
          exact mem_contents.mpr ⟨key, list, mem_of_get found, here⟩
    · obtain ⟨name, list, inRest, inList⟩ := mem_contents.mp elsewhere
      exact mem_contents.mpr ⟨name, list, (List.mem_filter.mp inRest).1, inList⟩

theorem mem_contents_set (distinct : (keys lists).Nodup) {list : List Item} {item : Item} :
    item ∈ contents (set lists key list) ↔ item ∈ list ∨ item ∈ contents (delete lists key) := by
  rw [@mem_contents_delete _ _ key _ _ (nodup_keys_set distinct), get_set_self, delete_set]
  rfl

omit [DecidableEq Key] in
theorem keys_map_values {Other : Type} (change : Value → Other) (object : Object Key Value) :
    keys (object.map fun pair => (pair.1, change pair.2)) = keys object := by
  rw [keys, keys, List.map_map]
  rfl

omit [DecidableEq Key] in
theorem contents_map_filter (kept : Item → Bool) (lists : Object Key (List Item)) :
    contents (lists.map fun pair => (pair.1, pair.2.filter kept)) =
      (contents lists).filter kept := by
  rw [contents, contents, List.flatMap_map, List.filter_flatMap]

end Contents

end ObjectMap
