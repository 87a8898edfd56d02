/-
The NAT table on its red-black trees.

Structure.lean takes the red-black macros as keyed sets.  Here the functions of
structure.h run on the two trees, and every history of calls gets the same answers.
-/

import NatPorte.Structure
import NatPorte.RedBlackInsert
import NatPorte.RedBlackRemove
import NatPorte.RedBlackWalk

namespace NatPorte
namespace TreeTable

open RedBlackTree LinkedTree RedBlack KeyedSet StepSystem Structure

/-- Each node has one entry, `l2w_next` or `w2l_next`, in each of the two trees. -/
structure Trees where
  heap : Ptr → Node
  l2wHead : Memory Ptr
  w2lHead : Memory Ptr

/-- The body that `cmp_l2w` and `cmp_w2l` share. -/
def cmpKeys (lhs rhs : BitVec 64) : Int :=
  if lhs < rhs then -1 else if rhs < lhs then 1 else 0

def cmpL2w (lhs rhs : Node) : Int := cmpKeys lhs.l2wKey rhs.l2wKey
def cmpW2l (lhs rhs : Node) : Int := cmpKeys lhs.w2lKey rhs.w2lKey

namespace Trees

variable (trees : Trees)

def store (ptr : Ptr) (node : Node) : Trees :=
  { trees with heap := fun other => if other = ptr then node else trees.heap other }

end Trees

/-- `RB_INIT` clears the roots; what the entries hold is left as it is. -/
def sInit (heap : Ptr → Node) (l2wLinks w2lLinks : Ptr → Links Ptr) : Trees :=
  { heap := heap, l2wHead := ⟨l2wLinks, none⟩, w2lHead := ⟨w2lLinks, none⟩ }

def sInsert (fuel : Nat) (trees : Trees) (node : Ptr) : Option (Trees × Option Ptr) := do
  let (l2wHead, p) ←
    rbInsert fuel (fun tmp => cmpL2w (trees.heap node) (trees.heap tmp)) trees.l2wHead node
  match p with
  | some p => some ({ trees with l2wHead := l2wHead }, some p)
  | none => do
      let (w2lHead, p) ←
        rbInsert fuel (fun tmp => cmpW2l (trees.heap node) (trees.heap tmp)) trees.w2lHead node
      match p with
      | some p => do
          let l2wHead ← rbRemove fuel l2wHead node
          some ({ trees with l2wHead := l2wHead, w2lHead := w2lHead }, some p)
      | none => some ({ trees with l2wHead := l2wHead, w2lHead := w2lHead }, none)

def sDeleteForPoint (fuel : Nat) (trees : Trees) (node : Ptr) : Option (Trees × Option Ptr) := do
  let l2wHead ← rbRemove fuel trees.l2wHead node
  let w2lHead ← rbRemove fuel trees.w2lHead node
  some ({ trees with l2wHead := l2wHead, w2lHead := w2lHead }, some node)

def findL2w (fuel : Nat) (trees : Trees) (node : Node) : Option (Option Ptr) :=
  rbFind (fun tmp => cmpL2w node (trees.heap tmp)) trees.l2wHead fuel trees.l2wHead.root

def findW2l (fuel : Nat) (trees : Trees) (node : Node) : Option (Option Ptr) :=
  rbFind (fun tmp => cmpW2l node (trees.heap tmp)) trees.w2lHead fuel trees.w2lHead.root

def sDeleteForValue (fuel : Nat) (trees : Trees) (node : Node) :
    Option (Trees × Option Ptr) := do
  let nodeL2w ← findL2w fuel trees node
  let nodeW2l ← findW2l fuel trees node
  match nodeL2w, nodeW2l with
  | some nodeL2w, some nodeW2l =>
      if nodeL2w = nodeW2l then sDeleteForPoint fuel trees nodeL2w else some (trees, none)
  | _, _ => some (trees, none)

def countNode (fuel : Nat) (trees : Trees) : Option Nat :=
  (rbForeach fuel trees.l2wHead).map List.length

/-- A red-black tree of the same references, in the order of their keys. -/
def Indexes (keyOf : Ptr → BitVec 64) (head : Memory Ptr) (set : List Ptr) : Prop :=
  ∃ refs, Stores head refs ∧ refs.Perm set ∧ refs.Pairwise fun first second =>
    keyOf first < keyOf second

theorem steps_mono {count count' : Nat} (fewer : count' ≤ count) : steps count' ≤ steps count := by
  have log : Nat.log 2 (count' + 1) ≤ Nat.log 2 (count + 1) :=
    Nat.log_mono_right (Nat.succ_le_succ fewer)
  rw [steps, steps]
  omega

section Index

variable {keyOf other : Ptr → BitVec 64} {head : Memory Ptr} {set : List Ptr} {refs : List Ptr}
  {ptr : Ptr} {key : BitVec 64} {fuel : Nat}

theorem cmpKeys_eq_zero {lhs rhs : BitVec 64} : cmpKeys lhs rhs = 0 ↔ rhs = lhs := by
  simp only [cmpKeys, BitVec.lt_def, ← BitVec.toNat_inj]
  split
  · exact ⟨fun absurd => by omega, fun same => by omega⟩
  · split
    · exact ⟨fun absurd => by omega, fun same => by omega⟩
    · exact ⟨fun _ => by omega, fun _ => rfl⟩

theorem cmpKeys_pos {lhs rhs : BitVec 64} : 0 < cmpKeys lhs rhs ↔ rhs < lhs := by
  simp only [cmpKeys, BitVec.lt_def]
  split
  · exact ⟨fun absurd => by omega, fun above => by omega⟩
  · split
    · exact ⟨fun _ => ‹_›, fun _ => by omega⟩
    · exact ⟨fun absurd => by omega, fun above => absurd above ‹_›⟩

theorem cmpKeys_neg {lhs rhs : BitVec 64} : cmpKeys lhs rhs < 0 ↔ lhs < rhs := by
  simp only [cmpKeys]
  split
  · exact ⟨fun _ => ‹_›, fun _ => by omega⟩
  · split
    · exact ⟨fun absurd => by omega, fun below => absurd below ‹_›⟩
    · exact ⟨fun absurd => by omega, fun below => absurd below ‹_›⟩

theorem divided_of_sorted
    (sorted : refs.Pairwise fun first second => keyOf first < keyOf second) (key : BitVec 64) :
    Divided (fun tmp => cmpKeys key (keyOf tmp)) refs := by
  refine sorted.imp ?_
  intro first second before notAbove
  change cmpKeys key (keyOf first) ≤ 0 at notAbove
  have notLess : ¬keyOf first < key := fun less => by
    have := cmpKeys_pos.mpr less
    omega
  refine cmpKeys_neg.mpr ?_
  rw [BitVec.lt_def] at before notLess ⊢
  omega

theorem Indexes.distinct (indexes : Indexes keyOf head set) : DistinctKeys keyOf set := by
  obtain ⟨refs, -, perm, sorted⟩ := indexes
  refine (perm.map keyOf).nodup_iff.mp ?_
  rw [List.Nodup, List.pairwise_map]
  refine sorted.imp ?_
  intro first second before same
  rw [same, BitVec.lt_def] at before
  omega

theorem Indexes.congr (indexes : Indexes keyOf head set)
    (same : ∀ ptr ∈ set, keyOf ptr = other ptr) : Indexes other head set := by
  obtain ⟨refs, stores, perm, sorted⟩ := indexes
  refine ⟨refs, stores, perm, ?_⟩
  refine sorted.imp_of_mem ?_
  intro first second firstIn secondIn before
  rw [← same first (perm.mem_iff.mp firstIn), ← same second (perm.mem_iff.mp secondIn)]
  exact before

theorem Indexes.find (indexes : Indexes keyOf head set) (key : BitVec 64)
    (enough : steps set.length ≤ fuel) :
    rbFind (fun tmp => cmpKeys key (keyOf tmp)) head fuel head.root =
      some (KeyedSet.find keyOf set key) := by
  have distinct := indexes.distinct
  obtain ⟨refs, stores, perm, sorted⟩ := indexes
  rw [rbFind_spec stores (divided_of_sorted sorted key) (perm.length_eq ▸ enough)]
  have sameFind : (refs.find? fun ref => cmpKeys key (keyOf ref) = 0) =
      KeyedSet.find keyOf refs key := by
    simp only [KeyedSet.find, cmpKeys_eq_zero]
  have distinctRefs : DistinctKeys keyOf refs := (perm.map keyOf).nodup_iff.mpr distinct
  rw [sameFind]
  refine congrArg some (Option.ext ?_)
  intro ref
  rw [distinctRefs.find_eq_some, distinct.find_eq_some, perm.mem_iff]

theorem Indexes.insert (indexes : Indexes keyOf head set) (fresh : ptr ∉ set)
    (enough : steps set.length ≤ fuel) :
    ∃ head', rbInsert fuel (fun tmp => cmpKeys (keyOf ptr) (keyOf tmp)) head ptr =
        some (head', (KeyedSet.insert keyOf set ptr).2) ∧
      Indexes keyOf head' (KeyedSet.insert keyOf set ptr).1 := by
  have distinct := indexes.distinct
  have whole := indexes
  obtain ⟨refs, stores, perm, sorted⟩ := indexes
  have absent : ptr ∈ refs → cmpKeys (keyOf ptr) (keyOf ptr) = 0 := fun _ =>
    cmpKeys_eq_zero.mpr rfl
  rcases rbInsert_spec stores (divided_of_sorted sorted (keyOf ptr)) absent
    (perm.length_eq ▸ enough) with found | added
  · obtain ⟨tmp, member, same, result⟩ := found
    have taken : KeyedSet.find keyOf set (keyOf ptr) = some tmp :=
      distinct.find_eq_some.mpr ⟨perm.mem_iff.mp member, cmpKeys_eq_zero.mp same⟩
    rw [insert_of_taken taken]
    exact ⟨head, result, whole⟩
  · obtain ⟨before, after, head', rfl, above, below, result, stores'⟩ := added
    have free : KeyedSet.find keyOf set (keyOf ptr) = none := by
      rw [find_eq_none]
      intro tmp member same
      have equal := cmpKeys_eq_zero.mpr same
      rcases List.mem_append.mp (perm.mem_iff.mpr member) with inBefore | inAfter
      · have := above tmp inBefore
        omega
      · have := below tmp inAfter
        omega
    rw [insert_of_free free]
    refine ⟨head', result, before ++ ptr :: after, stores', ?_, ?_⟩
    · exact List.perm_middle.trans (perm.cons ptr)
    · obtain ⟨inBefore, inAfter, across⟩ := List.pairwise_append.mp sorted
      refine List.pairwise_append.mpr ⟨inBefore, List.pairwise_cons.mpr ⟨?_, inAfter⟩, ?_⟩
      · exact fun tmp member => cmpKeys_neg.mp (below tmp member)
      · intro tmp member second place
        rcases List.mem_cons.mp place with rfl | later
        · exact cmpKeys_pos.mp (above tmp member)
        · exact across tmp member second later

theorem Indexes.remove (indexes : Indexes keyOf head set) (member : ptr ∈ set)
    (enough : steps set.length ≤ fuel) :
    ∃ head', rbRemove fuel head ptr = some head' ∧
      Indexes keyOf head' (KeyedSet.remove set ptr) := by
  obtain ⟨refs, stores, perm, sorted⟩ := indexes
  obtain ⟨head', result, stores'⟩ := rbRemove_spec stores (perm.mem_iff.mpr member)
    (perm.length_eq ▸ enough)
  exact ⟨head', result, refs.erase ptr, stores', perm.erase ptr, sorted.sublist
    (List.erase_sublist ..)⟩

theorem Indexes.count (indexes : Indexes keyOf head set) (enough : steps set.length ≤ fuel)
    (long : set.length ≤ fuel) :
    (rbForeach fuel head).map List.length = some set.length := by
  obtain ⟨refs, stores, perm, sorted⟩ := indexes
  rw [rbForeach_spec stores (perm.length_eq ▸ enough) (perm.length_eq ▸ long),
    Option.map_some, perm.length_eq]

end Index

structure Represents (trees : Trees) (table : Table) : Prop where
  heap : trees.heap = table.heap
  l2w : Indexes table.l2wKeyOf trees.l2wHead table.l2w
  w2l : Indexes table.w2lKeyOf trees.w2lHead table.w2l

section Operations

variable {trees : Trees} {table : Table} {ptr : Ptr} {fuel count : Nat}

theorem sInit_represents (heap : Ptr → Node) (l2wLinks w2lLinks : Ptr → Links Ptr) :
    Represents (sInit heap l2wLinks w2lLinks) (Structure.sInit heap) where
  heap := rfl
  l2w := ⟨[], stores_empty l2wLinks, List.Perm.refl _, List.Pairwise.nil⟩
  w2l := ⟨[], stores_empty w2lLinks, List.Perm.refl _, List.Pairwise.nil⟩

theorem Represents.store (represents : Represents trees table) (node : Node)
    (keys : ptr ∈ table.l2w ∨ ptr ∈ table.w2l →
      node.l2wKey = (table.heap ptr).l2wKey ∧ node.w2lKey = (table.heap ptr).w2lKey) :
    Represents (trees.store ptr node) (table.store ptr node) := by
  have same : ∀ other, (other ∈ table.l2w ∨ other ∈ table.w2l) →
      ((table.store ptr node).heap other).l2wKey = (table.heap other).l2wKey ∧
        ((table.store ptr node).heap other).w2lKey = (table.heap other).w2lKey := by
    intro other member
    by_cases here : other = ptr
    · subst here
      rw [table.store_heap_self]
      exact keys member
    · rw [table.store_heap_other ptr other node here]
      exact ⟨rfl, rfl⟩
  refine ⟨?_, ?_, ?_⟩
  · change (fun other => if other = ptr then node else trees.heap other) = _
    rw [represents.heap]
    rfl
  · exact represents.l2w.congr fun other member => (same other (.inl member)).1.symm
  · exact represents.w2l.congr fun other member => (same other (.inr member)).2.symm

theorem findL2w_represents (represents : Represents trees table) (probe : Node)
    (enough : steps table.l2w.length ≤ fuel) :
    findL2w fuel trees probe = some (Structure.findL2w table probe) := by
  rw [findL2w, represents.heap]
  exact represents.l2w.find probe.l2wKey enough

theorem findW2l_represents (represents : Represents trees table) (probe : Node)
    (enough : steps table.w2l.length ≤ fuel) :
    findW2l fuel trees probe = some (Structure.findW2l table probe) := by
  rw [findW2l, represents.heap]
  exact represents.w2l.find probe.w2lKey enough

theorem sInsert_represents (represents : Represents trees table) (freshL2w : ptr ∉ table.l2w)
    (freshW2l : ptr ∉ table.w2l) (enoughL2w : steps (table.l2w.length + 1) ≤ fuel)
    (enoughW2l : steps table.w2l.length ≤ fuel) :
    ∃ after, sInsert fuel trees ptr = some (after, (Structure.sInsert table ptr).2) ∧
      Represents after (Structure.sInsert table ptr).1 := by
  obtain ⟨l2wHead, insertedL2w, l2w⟩ :=
    represents.l2w.insert freshL2w
      (Nat.le_trans (steps_mono (Nat.le_succ _)) enoughL2w)
  obtain ⟨w2lHead, insertedW2l, w2l⟩ := represents.w2l.insert freshW2l enoughW2l
  simp only [Table.l2wKeyOf] at insertedL2w
  simp only [Table.w2lKeyOf] at insertedW2l
  simp only [sInsert, cmpL2w, cmpW2l, represents.heap, insertedL2w, Option.bind_eq_bind,
    Option.bind_some]
  rw [Structure.sInsert]
  cases takenL2w : KeyedSet.find table.l2wKeyOf table.l2w (table.l2wKeyOf ptr) with
  | some holder =>
      rw [insert_of_taken takenL2w] at l2w ⊢
      exact ⟨_, rfl, rfl, l2w, represents.w2l⟩
  | none =>
      rw [insert_of_free takenL2w] at l2w ⊢
      simp only [insertedW2l, Option.bind_some]
      cases takenW2l : KeyedSet.find table.w2lKeyOf table.w2l (table.w2lKeyOf ptr) with
      | some holder =>
          rw [insert_of_taken takenW2l] at w2l ⊢
          obtain ⟨l2wHead', removed, l2w'⟩ := l2w.remove List.mem_cons_self enoughL2w
          simp only [removed, Option.bind_some]
          exact ⟨_, rfl, rfl, l2w', w2l⟩
      | none =>
          rw [insert_of_free takenW2l] at w2l ⊢
          exact ⟨_, rfl, rfl, l2w, w2l⟩

theorem sDeleteForPoint_represents (represents : Represents trees table)
    (inL2w : ptr ∈ table.l2w) (inW2l : ptr ∈ table.w2l)
    (enoughL2w : steps table.l2w.length ≤ fuel) (enoughW2l : steps table.w2l.length ≤ fuel) :
    ∃ after, sDeleteForPoint fuel trees ptr =
        some (after, (Structure.sDeleteForPoint table ptr).2) ∧
      Represents after (Structure.sDeleteForPoint table ptr).1 := by
  obtain ⟨l2wHead, removedL2w, l2w⟩ := represents.l2w.remove inL2w enoughL2w
  obtain ⟨w2lHead, removedW2l, w2l⟩ := represents.w2l.remove inW2l enoughW2l
  refine ⟨{ trees with l2wHead := l2wHead, w2lHead := w2lHead }, ?_, represents.heap, l2w, w2l⟩
  simp only [sDeleteForPoint, removedL2w, removedW2l, Option.bind_eq_bind, Option.bind_some]
  rfl

theorem sDeleteForValue_represents (represents : Represents trees table) (probe : Node)
    (enoughL2w : steps table.l2w.length ≤ fuel) (enoughW2l : steps table.w2l.length ≤ fuel) :
    ∃ after, sDeleteForValue fuel trees probe =
        some (after, (Structure.sDeleteForValue table probe).2) ∧
      Represents after (Structure.sDeleteForValue table probe).1 := by
  rw [sDeleteForValue_eq]
  simp only [sDeleteForValue, findL2w_represents represents probe enoughL2w,
    findW2l_represents represents probe enoughW2l, Option.bind_eq_bind, Option.bind_some]
  cases inL2w : Structure.findL2w table probe with
  | none => exact ⟨trees, rfl, represents⟩
  | some left =>
      cases inW2l : Structure.findW2l table probe with
      | none => exact ⟨trees, rfl, represents⟩
      | some right =>
          by_cases same : left = right
          · subst same
            simp only [if_true]
            exact sDeleteForPoint_represents represents (mem_of_find inL2w) (mem_of_find inW2l)
              enoughL2w enoughW2l
          · simp only [if_neg same]
            exact ⟨trees, rfl, represents⟩

theorem countNode_represents (represents : Represents trees table)
    (enough : steps table.l2w.length ≤ fuel) (long : table.l2w.length ≤ fuel) :
    countNode fuel trees = some table.l2w.length :=
  represents.l2w.count enough long

end Operations

/-! ### Whole histories -/

inductive Call where
  | sInsert (ptr : Ptr) (node : Node)
  | sDeleteForPoint (ptr : Ptr)
  | sDeleteForValue (probe : Node)
  | findL2w (probe : Node)
  | findW2l (probe : Node)
  | write (ptr : Ptr) (node : Node)
  | countNode

inductive Answer where
  | node (ptr : Option Ptr)
  | count (entries : Nat)
  | written
  deriving DecidableEq, Repr

/-- A fresh keyed node is filled in before it is inserted, only a node of the table is
deleted by reference, and a node of the table keeps its keys. -/
def tableAnswer (table : Table) : Call → Option (Table × Answer)
  | .sInsert ptr node =>
      if ptr ∉ table.l2w ∧ ptr ∉ table.w2l ∧ node.Keyed then
        let (after, p) := Structure.sInsert (table.store ptr node) ptr
        some (after, .node p)
      else none
  | .sDeleteForPoint ptr =>
      if ptr ∈ table.l2w then
        let (after, p) := Structure.sDeleteForPoint table ptr
        some (after, .node p)
      else none
  | .sDeleteForValue probe =>
      let (after, p) := Structure.sDeleteForValue table probe
      some (after, .node p)
  | .findL2w probe => some (table, .node (Structure.findL2w table probe))
  | .findW2l probe => some (table, .node (Structure.findW2l table probe))
  | .write ptr node =>
      if node.l2wKey = (table.heap ptr).l2wKey ∧ node.w2lKey = (table.heap ptr).w2lKey ∧
          node.Keyed then
        some (table.store ptr node, .written)
      else none
  | .countNode => some (table, .count table.l2w.length)

def treeAnswer (fuel : Nat) (trees : Trees) : Call → Option (Trees × Answer)
  | .sInsert ptr node => do
      let (after, p) ← sInsert fuel (trees.store ptr node) ptr
      some (after, .node p)
  | .sDeleteForPoint ptr => do
      let (after, p) ← sDeleteForPoint fuel trees ptr
      some (after, .node p)
  | .sDeleteForValue probe => do
      let (after, p) ← sDeleteForValue fuel trees probe
      some (after, .node p)
  | .findL2w probe => do
      let p ← findL2w fuel trees probe
      some (trees, .node p)
  | .findW2l probe => do
      let p ← findW2l fuel trees probe
      some (trees, .node p)
  | .write ptr node => some (trees.store ptr node, .written)
  | .countNode => do
      let count ← countNode fuel trees
      some (trees, .count count)

theorem lengths_eq {table : Table} (inv : TableInv table) :
    table.w2l.length = table.l2w.length :=
  ((List.perm_ext_iff_of_nodup inv.distinctW2l.nodup inv.distinctL2w.nodup).mpr fun ptr =>
    (inv.sameNodes ptr).symm).length_eq

theorem sInsert_length {table : Table} (inv : TableInv table) (ptr : Ptr) :
    (Structure.sInsert table ptr).1.l2w.length ≤ table.l2w.length + 1 := by
  rcases sInsert_cases inv ptr with ⟨_, _, _, result⟩ | ⟨_, _, _, result⟩ | ⟨_, _, result⟩
  · rw [result]
    exact Nat.le_succ _
  · rw [result]
    exact Nat.le_succ _
  · rw [result]
    exact Nat.le_refl _

theorem sDeleteForValue_length (table : Table) (probe : Node) :
    (Structure.sDeleteForValue table probe).1.l2w.length ≤ table.l2w.length := by
  rw [Structure.sDeleteForValue]
  split
  · split
    · exact List.length_erase_le
    · exact Nat.le_refl _
  · exact Nat.le_refl _

theorem treeAnswer_represents {trees : Trees} {table after : Table} {call : Call}
    {answer : Answer} {fuel : Nat} (inv : TableInv table) (represents : Represents trees table)
    (enough : steps (table.l2w.length + 1) ≤ fuel)
    (long : call = .countNode → table.l2w.length ≤ fuel)
    (answered : tableAnswer table call = some (after, answer)) :
    ∃ trees', treeAnswer fuel trees call = some (trees', answer) ∧ TableInv after ∧
      Represents trees' after ∧ after.l2w.length ≤ table.l2w.length + 1 := by
  have enoughL2w : steps table.l2w.length ≤ fuel :=
    Nat.le_trans (steps_mono (Nat.le_succ _)) enough
  have enoughW2l : steps table.w2l.length ≤ fuel := by
    rw [lengths_eq inv]
    exact enoughL2w
  cases call with
  | sInsert ptr node =>
      simp only [tableAnswer, Option.ite_none_right_eq_some] at answered
      obtain ⟨⟨freshL2w, freshW2l, keyed⟩, done⟩ := answered
      cases done
      have stored : Represents (trees.store ptr node) (table.store ptr node) :=
        represents.store node fun member => absurd member (not_or.mpr ⟨freshL2w, freshW2l⟩)
      have storedInv := inv.store_fresh node freshL2w
      obtain ⟨trees', result, represents'⟩ :=
        sInsert_represents stored freshL2w freshW2l enough enoughW2l
      refine ⟨trees', ?_, sInsert_inv storedInv freshL2w ?_, represents',
        sInsert_length storedInv ptr⟩
      · simp only [treeAnswer, result, Option.bind_eq_bind, Option.bind_some]
      · rw [Table.store_heap_self]
        exact keyed
  | sDeleteForPoint ptr =>
      simp only [tableAnswer, Option.ite_none_right_eq_some] at answered
      obtain ⟨inL2w, done⟩ := answered
      cases done
      obtain ⟨trees', result, represents'⟩ := sDeleteForPoint_represents represents inL2w
        ((inv.sameNodes ptr).mp inL2w) enoughL2w enoughW2l
      refine ⟨trees', ?_, sDeleteForPoint_inv inv ptr, represents',
        Nat.le_succ_of_le List.length_erase_le⟩
      simp only [treeAnswer, result, Option.bind_eq_bind, Option.bind_some]
  | sDeleteForValue probe =>
      simp only [tableAnswer, Option.some.injEq, Prod.mk.injEq] at answered
      obtain ⟨rfl, rfl⟩ := answered
      obtain ⟨trees', result, represents'⟩ :=
        sDeleteForValue_represents represents probe enoughL2w enoughW2l
      refine ⟨trees', ?_, sDeleteForValue_inv inv probe, represents',
        Nat.le_succ_of_le (sDeleteForValue_length table probe)⟩
      simp only [treeAnswer, result, Option.bind_eq_bind, Option.bind_some]
  | findL2w probe =>
      cases answered
      refine ⟨trees, ?_, inv, represents, Nat.le_succ _⟩
      simp only [treeAnswer, findL2w_represents represents probe enoughL2w, Option.bind_eq_bind,
        Option.bind_some]
  | findW2l probe =>
      cases answered
      refine ⟨trees, ?_, inv, represents, Nat.le_succ _⟩
      simp only [treeAnswer, findW2l_represents represents probe enoughW2l, Option.bind_eq_bind,
        Option.bind_some]
  | write ptr node =>
      simp only [tableAnswer, Option.ite_none_right_eq_some] at answered
      obtain ⟨⟨l2wKey, w2lKey, keyed⟩, done⟩ := answered
      cases done
      refine ⟨trees.store ptr node, rfl, inv.congr rfl rfl ?_ ?_,
        represents.store node fun _ => ⟨l2wKey, w2lKey⟩, Nat.le_succ _⟩
      · intro other member
        by_cases here : other = ptr
        · subst here
          rw [table.store_heap_self]
          exact ⟨l2wKey, w2lKey⟩
        · rw [table.store_heap_other ptr other node here]
          exact ⟨rfl, rfl⟩
      · intro other member
        by_cases here : other = ptr
        · subst here
          rw [table.store_heap_self]
          exact keyed
        · rw [table.store_heap_other ptr other node here]
          exact inv.keyed other member
  | countNode =>
      cases answered
      refine ⟨trees, ?_, inv, represents, Nat.le_succ _⟩
      simp only [treeAnswer, countNode_represents represents enoughL2w (long rfl),
        Option.bind_eq_bind, Option.bind_some]

/-- The trees of a history in which `left` calls are still to come. -/
structure Related (bound left : Nat) (trees : Trees) (table : Table) : Prop where
  inv : TableInv table
  represents : Represents trees table
  room : table.l2w.length + left ≤ bound

/-- Enough fuel for a history of so many calls. -/
structure Suffices (fuel calls : Nat) : Prop where
  deep : steps calls ≤ fuel
  long : calls ≤ fuel

theorem treeAnswer_follows {fuel bound : Nat} (enough : Suffices fuel bound) :
    Follows (treeAnswer fuel) tableAnswer (Related bound) := by
  intro left trees table call after answer related answered
  obtain ⟨inv, represents, room⟩ := related
  have deep : steps (table.l2w.length + 1) ≤ fuel :=
    Nat.le_trans (steps_mono (by omega)) enough.deep
  have long := enough.long
  obtain ⟨trees', result, inv', represents', grown⟩ :=
    treeAnswer_represents inv represents deep (fun _ => by omega) answered
  exact ⟨trees', result, inv', represents', by omega⟩

theorem history_related {heap : Ptr → Node} {calls : List Call} {table : Table}
    {answers : List Answer} {fuel : Nat} (l2wLinks w2lLinks : Ptr → Links Ptr)
    (allowed : replay tableAnswer (Structure.sInit heap) calls = some (table, answers))
    (enough : Suffices fuel calls.length) :
    ∃ trees, replay (treeAnswer fuel) (sInit heap l2wLinks w2lLinks) calls =
        some (trees, answers) ∧ Related calls.length 0 trees table := by
  refine (treeAnswer_follows enough).replay calls _ _ table answers ?_ allowed
  refine ⟨sInit_inv heap, sInit_represents heap l2wLinks w2lLinks, ?_⟩
  rw [Structure.sInit, List.length_nil, Nat.zero_add]

/-- Whatever the program does with the table, the two trees answer as two keyed sets: no
NULL is followed, every loop ends, and both trees are red-black and in the order of
their keys afterwards. -/
theorem trees_answer_as_sets (heap : Ptr → Node) (l2wLinks w2lLinks : Ptr → Links Ptr)
    (calls : List Call) (table : Table) (answers : List Answer)
    (allowed : replay tableAnswer (Structure.sInit heap) calls = some (table, answers))
    (fuel : Nat) (enough : Suffices fuel calls.length) :
    ∃ trees, replay (treeAnswer fuel) (sInit heap l2wLinks w2lLinks) calls =
        some (trees, answers) ∧
      trees.heap = table.heap ∧
      Indexes table.l2wKeyOf trees.l2wHead table.l2w ∧
      Indexes table.w2lKeyOf trees.w2lHead table.w2l := by
  obtain ⟨trees, result, related⟩ := history_related l2wLinks w2lLinks allowed enough
  exact ⟨trees, result, related.represents.heap, related.represents.l2w, related.represents.w2l⟩

private def sampleNode (host : BitVec 32) : Node :=
  let lan : Endpoint := { port := 80, ip := host }
  let wan : Endpoint := { port := 1024, ip := host }
  { ctime := 0, atime := 0, flags := .synSent, timerFlags := .loop, protocol := 6,
    wan := wan, lan := lan, l2wKey := packKey 6 lan, w2lKey := packKey 6 wan }

/-- Three nodes go in, a fourth is refused, one goes out. -/
private def sampleCalls : List Call :=
  [.sInsert 1 (sampleNode 7), .sInsert 2 (sampleNode 9), .sInsert 3 (sampleNode 8),
    .sInsert 4 (sampleNode 9), .countNode, .sDeleteForPoint 2, .findL2w (sampleNode 9),
    .sDeleteForValue (sampleNode 7), .findW2l (sampleNode 8)]

theorem trees_answer_as_sets_sample : ∃ trees,
    replay (treeAnswer 9) (sInit (fun _ => sampleNode 0) (fun _ => ⟨none, none, none, .red⟩)
      fun _ => ⟨none, none, none, .red⟩) sampleCalls =
        some (trees, [.node none, .node none, .node none, .node (some 2), .count 3, .node (some 2),
          .node none, .node (some 1), .node (some 3)]) := by
  obtain ⟨trees, result, -⟩ := trees_answer_as_sets (fun _ => sampleNode 0)
    (fun _ => ⟨none, none, none, .red⟩) (fun _ => ⟨none, none, none, .red⟩) sampleCalls _ _ rfl 9
    ⟨by decide, by decide⟩
  exact ⟨trees, result⟩

/-- A call other than a count takes, in each of its loops, at most twice the logarithm of
the number of entries. -/
theorem calls_are_logarithmic (heap : Ptr → Node) (l2wLinks w2lLinks : Ptr → Links Ptr)
    (calls : List Call) (table : Table) (answers : List Answer)
    (allowed : replay tableAnswer (Structure.sInit heap) calls = some (table, answers))
    (fuel : Nat) (enough : Suffices fuel calls.length) :
    ∃ trees, replay (treeAnswer fuel) (sInit heap l2wLinks w2lLinks) calls =
        some (trees, answers) ∧
      ∀ call after answer, call ≠ .countNode → tableAnswer table call = some (after, answer) →
        ∃ trees', treeAnswer (2 * Nat.log 2 (table.l2w.length + 2) + 1) trees call =
          some (trees', answer) := by
  obtain ⟨trees, result, related⟩ := history_related l2wLinks w2lLinks allowed enough
  refine ⟨trees, result, ?_⟩
  intro call after answer notCount answered
  obtain ⟨trees', answered', -⟩ := treeAnswer_represents related.inv related.represents
    (Nat.le_refl _) (fun isCount => absurd isCount notCount) answered
  exact ⟨trees', answered'⟩

theorem calls_are_logarithmic_sample : ∃ trees,
    replay (treeAnswer 9) (sInit (fun _ => sampleNode 0) (fun _ => ⟨none, none, none, .red⟩)
      fun _ => ⟨none, none, none, .red⟩) sampleCalls =
        some (trees, [.node none, .node none, .node none, .node (some 2), .count 3, .node (some 2),
          .node none, .node (some 1), .node (some 3)]) ∧
      ∃ trees', treeAnswer 3 trees (.sInsert 5 (sampleNode 5)) = some (trees', .node none) := by
  obtain ⟨trees, result, logarithmic⟩ := calls_are_logarithmic (fun _ => sampleNode 0)
    (fun _ => ⟨none, none, none, .red⟩) (fun _ => ⟨none, none, none, .red⟩) sampleCalls _ _ rfl 9
    ⟨by decide, by decide⟩
  obtain ⟨trees', answered⟩ := logarithmic (.sInsert 5 (sampleNode 5)) _ _
    (fun isCount => by cases isCount) rfl
  exact ⟨trees, result, trees', answered⟩

/-- `dump_tree` visits every entry once, by its LAN endpoint, and the steps forth and back
follow that order. -/
theorem entries_in_key_order (heap : Ptr → Node) (l2wLinks w2lLinks : Ptr → Links Ptr)
    (calls : List Call) (table : Table) (answers : List Answer)
    (allowed : replay tableAnswer (Structure.sInit heap) calls = some (table, answers))
    (fuel : Nat) (enough : Suffices fuel calls.length) :
    ∃ trees refs, replay (treeAnswer fuel) (sInit heap l2wLinks w2lLinks) calls =
        some (trees, answers) ∧
      rbForeach fuel trees.l2wHead = some refs ∧ refs.Perm table.l2w ∧
      (refs.Pairwise fun first second =>
        (table.heap first).l2wKey < (table.heap second).l2wKey) ∧
      ∀ before elm after, refs = before ++ elm :: after →
        rbNext fuel trees.l2wHead elm = some after.head? ∧
        rbPrev fuel trees.l2wHead elm = some before.getLast? := by
  obtain ⟨trees, result, related⟩ := history_related l2wLinks w2lLinks allowed enough
  obtain ⟨refs, stores, perm, sorted⟩ := related.represents.l2w
  have room := related.room
  have deep := enough.deep
  have long := enough.long
  have fewer : steps refs.length ≤ fuel := by
    rw [perm.length_eq]
    exact Nat.le_trans (steps_mono room) deep
  refine ⟨trees, refs, result, rbForeach_spec stores fewer ?_, perm, sorted, ?_⟩
  · rw [perm.length_eq]
    omega
  · rintro before elm after rfl
    exact ⟨rbNext_spec stores fewer, rbPrev_spec stores fewer⟩

theorem entries_in_key_order_sample : ∃ trees refs,
    replay (treeAnswer 9) (sInit (fun _ => sampleNode 0) (fun _ => ⟨none, none, none, .red⟩)
      fun _ => ⟨none, none, none, .red⟩) (sampleCalls.take 4) =
        some (trees, [.node none, .node none, .node none, .node (some 2)]) ∧
      rbForeach 9 trees.l2wHead = some refs ∧ refs.Perm [3, 2, 1] := by
  obtain ⟨trees, refs, result, visited, perm, -⟩ := entries_in_key_order (fun _ => sampleNode 0)
    (fun _ => ⟨none, none, none, .red⟩) (fun _ => ⟨none, none, none, .red⟩) (sampleCalls.take 4)
    _ _ rfl 9 ⟨by decide, by decide⟩
  exact ⟨trees, refs, result, visited, perm⟩

end TreeTable
end NatPorte
