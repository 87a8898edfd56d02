/-
The NAT table of structure.h.

A node lives in memory and is referenced by two trees, one keyed by the packed
LAN endpoint and one by the packed WAN endpoint.  The red-black macros are taken
as keyed sets; the locks are not modelled, each call below is one atomic step.
-/

import NatPorte.Library.KeyedSet
import NatPorte.Library.StepSystem
import NatPorte.TcpState

namespace NatPorte
namespace Structure

open KeyedSet StepSystem TcpState

/-- The anonymous `struct { in_port_t port; in_addr_t ip; }`, in network order. -/
structure Endpoint where
  port : BitVec 16
  ip : BitVec 32
  deriving DecidableEq, Repr

/-- `S_TIMER_*`. -/
inductive TimerFlags where
  | loop | close | silentClose
  deriving DecidableEq, Repr

structure Node where
  ctime : Int
  atime : Int
  flags : TcpFlag
  timerFlags : TimerFlags
  protocol : BitVec 8
  wan : Endpoint
  lan : Endpoint
  l2wKey : BitVec 64
  w2lKey : BitVec 64
  deriving DecidableEq, Repr

def protocolMask : BitVec 64 := 0xFFFF000000000000
def portMask : BitVec 64 := 0x0000FFFF00000000
def ipMask : BitVec 64 := 0x00000000FFFFFFFF

def getProtocolFromVarLan (var : BitVec 64) : BitVec 8 :=
  ((var &&& protocolMask) >>> 48).truncate 8

def getPortFromVarLan (var : BitVec 64) : BitVec 16 :=
  ((var &&& portMask) >>> 32).truncate 16

def getIpFromVarLan (var : BitVec 64) : BitVec 32 :=
  (var &&& ipMask).truncate 32

/-- The word that `var_lan` and `var_wan` build, each from its own endpoint. -/
def packKey (protocol : BitVec 8) (endpoint : Endpoint) : BitVec 64 :=
  let a := protocolMask &&& (protocol.zeroExtend 64 <<< 48)
  let b := portMask &&& (endpoint.port.zeroExtend 64 <<< 32)
  let c := ipMask &&& endpoint.ip.zeroExtend 64
  a ||| b ||| c

def varLan (node : Node) : BitVec 64 := packKey node.protocol node.lan
def varWan (node : Node) : BitVec 64 := packKey node.protocol node.wan

private theorem protocolMask_bit : ∀ i < 64, protocolMask.getLsbD i = decide (48 ≤ i) := by
  decide

private theorem portMask_bit : ∀ i < 64, portMask.getLsbD i = decide (32 ≤ i ∧ i < 48) := by
  decide

private theorem ipMask_bit : ∀ i < 64, ipMask.getLsbD i = decide (i < 32) := by
  decide

private theorem packKey_bit (protocol : BitVec 8) (endpoint : Endpoint) (i : Nat)
    (inWord : i < 64) :
    (packKey protocol endpoint).getLsbD i =
      if 48 ≤ i then protocol.getLsbD (i - 48)
      else if 32 ≤ i then endpoint.port.getLsbD (i - 32)
      else endpoint.ip.getLsbD i := by
  simp only [packKey, BitVec.getLsbD_or, BitVec.getLsbD_and, protocolMask_bit i inWord,
    portMask_bit i inWord, ipMask_bit i inWord, BitVec.getLsbD_shiftLeft, BitVec.getLsbD_setWidth]
  by_cases high : 48 ≤ i
  · have notMiddle : ¬i < 48 := by omega
    have notLow : ¬i < 32 := by omega
    have shifted : i - 48 < 64 := by omega
    simp [high, inWord, notMiddle, notLow, shifted]
  · by_cases middle : 32 ≤ i
    · have notLow : ¬i < 32 := by omega
      have below : i < 48 := by omega
      have shifted : i - 32 < 64 := by omega
      simp [high, inWord, middle, notLow, below, shifted]
    · have low : i < 32 := by omega
      simp [high, middle, inWord, low]

theorem getProtocol_packKey (protocol : BitVec 8) (endpoint : Endpoint) :
    getProtocolFromVarLan (packKey protocol endpoint) = protocol := by
  apply BitVec.eq_of_getLsbD_eq
  intro i inByte
  have bit := packKey_bit protocol endpoint (48 + i) (by omega)
  have mask := protocolMask_bit (48 + i) (by omega)
  rw [if_pos (Nat.le_add_right 48 i), Nat.add_sub_cancel_left] at bit
  simp [getProtocolFromVarLan, bit, mask, inByte]

theorem getPort_packKey (protocol : BitVec 8) (endpoint : Endpoint) :
    getPortFromVarLan (packKey protocol endpoint) = endpoint.port := by
  apply BitVec.eq_of_getLsbD_eq
  intro i inHalf
  have bit := packKey_bit protocol endpoint (32 + i) (by omega)
  have mask := portMask_bit (32 + i) (by omega)
  rw [if_neg (by omega), if_pos (Nat.le_add_right 32 i), Nat.add_sub_cancel_left] at bit
  have inPort : 32 + i < 48 := by omega
  simp [getPortFromVarLan, bit, mask, inHalf, inPort]

theorem getIp_packKey (protocol : BitVec 8) (endpoint : Endpoint) :
    getIpFromVarLan (packKey protocol endpoint) = endpoint.ip := by
  apply BitVec.eq_of_getLsbD_eq
  intro i inWord
  have bit := packKey_bit protocol endpoint i (by omega)
  have mask := ipMask_bit i (by omega)
  rw [if_neg (by omega), if_neg (by omega)] at bit
  simp [getIpFromVarLan, bit, mask, inWord]

theorem packKey_inj {protocol protocol' : BitVec 8} {endpoint endpoint' : Endpoint} :
    packKey protocol endpoint = packKey protocol' endpoint' ↔
      protocol = protocol' ∧ endpoint = endpoint' := by
  constructor
  · intro same
    have sameProtocol := congrArg getProtocolFromVarLan same
    have samePort := congrArg getPortFromVarLan same
    have sameIp := congrArg getIpFromVarLan same
    rw [getProtocol_packKey, getProtocol_packKey] at sameProtocol
    rw [getPort_packKey, getPort_packKey] at samePort
    rw [getIp_packKey, getIp_packKey] at sameIp
    cases endpoint
    cases endpoint'
    cases samePort
    cases sameIp
    exact ⟨sameProtocol, rfl⟩
  · rintro ⟨rfl, rfl⟩
    rfl

/-- A node's address. -/
abbrev Ptr := Nat

structure Table where
  heap : Ptr → Node
  l2w : List Ptr
  w2l : List Ptr

namespace Table

variable (table : Table)

def l2wKeyOf (ptr : Ptr) : BitVec 64 := (table.heap ptr).l2wKey
def w2lKeyOf (ptr : Ptr) : BitVec 64 := (table.heap ptr).w2lKey

/-- Write a node's memory. -/
def store (ptr : Ptr) (node : Node) : Table :=
  { table with heap := fun other => if other = ptr then node else table.heap other }

@[simp] theorem store_l2w (ptr : Ptr) (node : Node) : (table.store ptr node).l2w = table.l2w := rfl
@[simp] theorem store_w2l (ptr : Ptr) (node : Node) : (table.store ptr node).w2l = table.w2l := rfl
@[simp] theorem store_heap_self (ptr : Ptr) (node : Node) :
    (table.store ptr node).heap ptr = node := if_pos rfl

theorem store_heap_other (ptr other : Ptr) (node : Node) (different : other ≠ ptr) :
    (table.store ptr node).heap other = table.heap other := if_neg different

end Table

def sInit (heap : Ptr → Node) : Table :=
  { heap := heap, l2w := [], w2l := [] }

/-- `none` is the source's NULL: the node went into both trees. -/
def sInsert (table : Table) (node : Ptr) : Table × Option Ptr :=
  match insert table.l2wKeyOf table.l2w node with
  | (_, some p) => (table, some p)
  | (l2w, none) =>
      match insert table.w2lKeyOf table.w2l node with
      | (_, some p) => ({ table with l2w := remove l2w node }, some p)
      | (w2l, none) => ({ table with l2w := l2w, w2l := w2l }, none)

/-- `RB_REMOVE` returns the element it was given, so the source's comparison of
the two results always succeeds. -/
def sDeleteForPoint (table : Table) (node : Ptr) : Table × Option Ptr :=
  ({ table with l2w := remove table.l2w node, w2l := remove table.w2l node }, some node)

def sDeleteForValue (table : Table) (node : Node) : Table × Option Ptr :=
  match find table.l2wKeyOf table.l2w node.l2wKey, find table.w2lKeyOf table.w2l node.w2lKey with
  | some nodeL2w, some nodeW2l =>
      if nodeL2w = nodeW2l then sDeleteForPoint table nodeL2w else (table, none)
  | _, _ => (table, none)

def findL2w (table : Table) (node : Node) : Option Ptr :=
  find table.l2wKeyOf table.l2w node.l2wKey

def findW2l (table : Table) (node : Node) : Option Ptr :=
  find table.w2lKeyOf table.w2l node.w2lKey

/-! ### The two-index invariant -/

def Node.Keyed (node : Node) : Prop :=
  node.l2wKey = varLan node ∧ node.w2lKey = varWan node

instance (node : Node) : Decidable node.Keyed := inferInstanceAs (Decidable (_ ∧ _))

structure TableInv (table : Table) : Prop where
  sameNodes : ∀ ptr, ptr ∈ table.l2w ↔ ptr ∈ table.w2l
  keyed : ∀ ptr ∈ table.l2w, (table.heap ptr).Keyed
  distinctL2w : DistinctKeys table.l2wKeyOf table.l2w
  distinctW2l : DistinctKeys table.w2lKeyOf table.w2l

theorem sInit_inv (heap : Ptr → Node) : TableInv (sInit heap) where
  sameNodes := by simp [sInit]
  keyed := by simp [sInit]
  distinctL2w := List.nodup_nil
  distinctW2l := List.nodup_nil

/-- Memory that differs only outside the trees, or only in fields that the
keys do not depend on, carries the same invariant. -/
theorem TableInv.congr {table table' : Table} (inv : TableInv table)
    (l2w : table'.l2w = table.l2w) (w2l : table'.w2l = table.w2l)
    (keys : ∀ ptr ∈ table.l2w, (table'.heap ptr).l2wKey = (table.heap ptr).l2wKey ∧
      (table'.heap ptr).w2lKey = (table.heap ptr).w2lKey)
    (keyed : ∀ ptr ∈ table.l2w, (table'.heap ptr).Keyed) : TableInv table' where
  sameNodes := by
    rw [l2w, w2l]
    exact inv.sameNodes
  keyed := by
    rw [l2w]
    exact keyed
  distinctL2w := by
    rw [l2w]
    exact inv.distinctL2w.congr (fun ptr member => (keys ptr member).1.symm)
  distinctW2l := by
    rw [w2l]
    exact inv.distinctW2l.congr
      (fun ptr member => (keys ptr ((inv.sameNodes ptr).mpr member)).2.symm)

theorem TableInv.store_fresh {table : Table} (inv : TableInv table) {ptr : Ptr} (node : Node)
    (fresh : ptr ∉ table.l2w) : TableInv (table.store ptr node) := by
  have unchanged : ∀ other ∈ table.l2w, (table.store ptr node).heap other = table.heap other := by
    intro other member
    refine table.store_heap_other ptr other node ?_
    rintro rfl
    exact fresh member
  refine inv.congr rfl rfl ?_ ?_
  · intro other member
    rw [unchanged other member]
    exact ⟨rfl, rfl⟩
  · intro other member
    rw [unchanged other member]
    exact inv.keyed other member

section Operations

variable {table : Table} {ptr : Ptr}

theorem TableInv.l2wKey_eq (inv : TableInv table) (member : ptr ∈ table.l2w) :
    table.l2wKeyOf ptr = packKey (table.heap ptr).protocol (table.heap ptr).lan :=
  (inv.keyed ptr member).1

theorem TableInv.w2lKey_eq (inv : TableInv table) (member : ptr ∈ table.l2w) :
    table.w2lKeyOf ptr = packKey (table.heap ptr).protocol (table.heap ptr).wan :=
  (inv.keyed ptr member).2

theorem TableInv.eq_of_lan {left right : Ptr} (inv : TableInv table)
    (leftIn : left ∈ table.l2w) (rightIn : right ∈ table.l2w)
    (protocol : (table.heap left).protocol = (table.heap right).protocol)
    (lan : (table.heap left).lan = (table.heap right).lan) : left = right := by
  refine inv.distinctL2w.eq_of_key leftIn rightIn ?_
  rw [inv.l2wKey_eq leftIn, inv.l2wKey_eq rightIn, protocol, lan]

theorem TableInv.eq_of_wan {left right : Ptr} (inv : TableInv table)
    (leftIn : left ∈ table.l2w) (rightIn : right ∈ table.l2w)
    (protocol : (table.heap left).protocol = (table.heap right).protocol)
    (wan : (table.heap left).wan = (table.heap right).wan) : left = right := by
  refine inv.distinctW2l.eq_of_key ((inv.sameNodes left).mp leftIn)
    ((inv.sameNodes right).mp rightIn) ?_
  rw [inv.w2lKey_eq leftIn, inv.w2lKey_eq rightIn, protocol, wan]

theorem sInsert_cases (inv : TableInv table) (ptr : Ptr) :
    (∃ holder ∈ table.l2w, table.l2wKeyOf holder = table.l2wKeyOf ptr ∧
      sInsert table ptr = (table, some holder)) ∨
    (∃ holder ∈ table.l2w, table.w2lKeyOf holder = table.w2lKeyOf ptr ∧
      sInsert table ptr = (table, some holder)) ∨
    (find table.l2wKeyOf table.l2w (table.l2wKeyOf ptr) = none ∧
      find table.w2lKeyOf table.w2l (table.w2lKeyOf ptr) = none ∧
      sInsert table ptr =
        ({ table with l2w := ptr :: table.l2w, w2l := ptr :: table.w2l }, none)) := by
  cases inL2w : find table.l2wKeyOf table.l2w (table.l2wKeyOf ptr) with
  | some holder =>
      refine .inl ⟨holder, mem_of_find inL2w, key_of_find inL2w, ?_⟩
      rw [sInsert, insert_of_taken inL2w]
  | none =>
      refine .inr ?_
      cases inW2l : find table.w2lKeyOf table.w2l (table.w2lKeyOf ptr) with
      | some holder =>
          refine .inl ⟨holder, (inv.sameNodes holder).mpr (mem_of_find inW2l),
            key_of_find inW2l, ?_⟩
          rw [sInsert, insert_of_free inL2w, insert_of_taken inW2l]
          simp only [remove_cons]
      | none =>
          refine .inr ⟨rfl, rfl, ?_⟩
          rw [sInsert, insert_of_free inL2w, insert_of_free inW2l]

theorem sInsert_heap (table : Table) (ptr : Ptr) : (sInsert table ptr).1.heap = table.heap := by
  rw [sInsert]
  split
  · rfl
  · split <;> rfl

theorem sInsert_refused {holder : Ptr} (inv : TableInv table)
    (refused : (sInsert table ptr).2 = some holder) :
    holder ∈ table.l2w ∧ (sInsert table ptr).1 = table := by
  rcases sInsert_cases inv ptr with ⟨found, member, _, result⟩ | ⟨found, member, _, result⟩ |
    ⟨_, _, result⟩
  · rw [result] at refused ⊢
    cases refused
    exact ⟨member, rfl⟩
  · rw [result] at refused ⊢
    cases refused
    exact ⟨member, rfl⟩
  · rw [result] at refused
    cases refused

theorem sInsert_inv (inv : TableInv table) (fresh : ptr ∉ table.l2w)
    (keyed : (table.heap ptr).Keyed) : TableInv (sInsert table ptr).1 := by
  rcases sInsert_cases inv ptr with ⟨_, _, _, result⟩ | ⟨_, _, _, result⟩ |
    ⟨freeL2w, freeW2l, result⟩
  · rw [result]
    exact inv
  · rw [result]
    exact inv
  · rw [result]
    constructor
    · intro other
      simp only [List.mem_cons, inv.sameNodes other]
    · intro other member
      rcases List.mem_cons.mp member with rfl | member
      · exact keyed
      · exact inv.keyed other member
    · exact inv.distinctL2w.cons freeL2w
    · exact inv.distinctW2l.cons freeW2l

theorem sDeleteForPoint_inv (inv : TableInv table) (ptr : Ptr) :
    TableInv (sDeleteForPoint table ptr).1 where
  sameNodes := by
    intro other
    change other ∈ remove table.l2w ptr ↔ other ∈ remove table.w2l ptr
    rw [inv.distinctL2w.mem_remove, inv.distinctW2l.mem_remove, inv.sameNodes]
  keyed := by
    intro other member
    exact inv.keyed other (inv.distinctL2w.mem_remove.mp member).2
  distinctL2w := inv.distinctL2w.remove ptr
  distinctW2l := inv.distinctW2l.remove ptr

theorem sDeleteForValue_of_match (inv : TableInv table) (probe : Node) (member : ptr ∈ table.l2w)
    (l2w : table.l2wKeyOf ptr = probe.l2wKey) (w2l : table.w2lKeyOf ptr = probe.w2lKey) :
    sDeleteForValue table probe = sDeleteForPoint table ptr := by
  have inL2w := inv.distinctL2w.find_eq_some.mpr ⟨member, l2w⟩
  have inW2l := inv.distinctW2l.find_eq_some.mpr ⟨(inv.sameNodes ptr).mp member, w2l⟩
  simp only [sDeleteForValue, inL2w, inW2l, if_true]

theorem sDeleteForValue_of_no_match (probe : Node)
    (missing : ∀ ptr ∈ table.l2w, table.l2wKeyOf ptr = probe.l2wKey →
      table.w2lKeyOf ptr ≠ probe.w2lKey) :
    sDeleteForValue table probe = (table, none) := by
  rw [sDeleteForValue]
  split
  · next left right inL2w inW2l =>
      split
      · next same =>
          subst same
          exact absurd (key_of_find inW2l) (missing left (mem_of_find inL2w) (key_of_find inL2w))
      · rfl
  · rfl

theorem sDeleteForValue_eq (table : Table) (probe : Node) : sDeleteForValue table probe =
    match findL2w table probe, findW2l table probe with
    | some nodeL2w, some nodeW2l =>
        if nodeL2w = nodeW2l then sDeleteForPoint table nodeL2w else (table, none)
    | _, _ => (table, none) := rfl

theorem sDeleteForValue_some {probe : Node} (deleted : (sDeleteForValue table probe).2 = some ptr) :
    findL2w table probe = some ptr ∧ findW2l table probe = some ptr ∧
      sDeleteForValue table probe = sDeleteForPoint table ptr := by
  rw [sDeleteForValue_eq] at deleted ⊢
  cases inL2w : findL2w table probe with
  | none =>
      rw [inL2w] at deleted
      cases deleted
  | some left =>
      cases inW2l : findW2l table probe with
      | none =>
          rw [inL2w, inW2l] at deleted
          cases deleted
      | some right =>
          rw [inL2w, inW2l] at deleted
          by_cases same : left = right
          · subst same
            simp only [if_true] at deleted ⊢
            cases deleted
            exact ⟨rfl, rfl, rfl⟩
          · simp only [if_neg same] at deleted
            cases deleted

theorem sDeleteForValue_inv (inv : TableInv table) (probe : Node) :
    TableInv (sDeleteForValue table probe).1 := by
  rw [sDeleteForValue]
  split
  · split
    · exact sDeleteForPoint_inv inv _
    · exact inv
  · exact inv

end Operations

/-! ### Whole histories of the table -/

inductive TableCall where
  | sInsert (ptr : Ptr) (node : Node)
  | sDeleteForValue (probe : Node)
  | sDeleteForPoint (ptr : Ptr)

/-- The calls the program makes: a fresh keyed node is filled in before it is
inserted, and only a node of the table is deleted by reference. -/
def tableStep (table : Table) : TableCall → Option Table
  | .sInsert ptr node =>
      if ptr ∉ table.l2w ∧ ptr ∉ table.w2l ∧ node.Keyed then
        some (sInsert (table.store ptr node) ptr).1
      else none
  | .sDeleteForValue probe => some (sDeleteForValue table probe).1
  | .sDeleteForPoint ptr =>
      if ptr ∈ table.l2w ∨ ptr ∈ table.w2l then some (sDeleteForPoint table ptr).1 else none

abbrev ReachableTable (heap : Ptr → Node) (table : Table) : Prop :=
  Reachable tableStep (fun _ _ => True) (sInit heap) table

theorem reachableTable_inv {heap : Ptr → Node} {table : Table}
    (reached : ReachableTable heap table) : TableInv table := by
  refine reached.invariant (sInit_inv heap) ?_
  intro before call after inv _ stepped
  cases call with
  | sInsert ptr node =>
      simp only [tableStep] at stepped
      split at stepped
      · next allowed =>
          cases stepped
          obtain ⟨fresh, -, keyed⟩ := allowed
          refine sInsert_inv (inv.store_fresh node fresh) fresh ?_
          rw [Table.store_heap_self]
          exact keyed
      · cases stepped
  | sDeleteForValue probe =>
      cases stepped
      exact sDeleteForValue_inv inv probe
  | sDeleteForPoint ptr =>
      simp only [tableStep] at stepped
      split at stepped
      · cases stepped
        exact sDeleteForPoint_inv inv ptr
      · cases stepped

/-- In every state of the table both trees hold the same, correctly keyed nodes,
no endpoint is mapped twice, a refused insertion leaves no trace, and a deletion
by value removes exactly the node that matches both keys. -/
theorem two_index_table (heap : Ptr → Node) (table : Table) (reached : ReachableTable heap table) :
    (∀ ptr, ptr ∈ table.l2w ↔ ptr ∈ table.w2l) ∧
    table.l2w.Nodup ∧ table.w2l.Nodup ∧
    (∀ ptr ∈ table.l2w, (table.heap ptr).l2wKey = varLan (table.heap ptr) ∧
      (table.heap ptr).w2lKey = varWan (table.heap ptr)) ∧
    (∀ left ∈ table.l2w, ∀ right ∈ table.l2w, left ≠ right →
      (table.heap left).protocol = (table.heap right).protocol →
      (table.heap left).lan ≠ (table.heap right).lan ∧
      (table.heap left).wan ≠ (table.heap right).wan) ∧
    (∀ ptr node holder, ptr ∉ table.l2w → node.Keyed →
      (sInsert (table.store ptr node) ptr).2 = some holder →
      holder ∈ table.l2w ∧ (sInsert (table.store ptr node) ptr).1 = table.store ptr node) ∧
    (∀ probe ptr, ptr ∈ table.l2w → (table.heap ptr).l2wKey = probe.l2wKey →
      (table.heap ptr).w2lKey = probe.w2lKey →
      (sDeleteForValue table probe).2 = some ptr ∧
      (sDeleteForValue table probe).1.heap = table.heap ∧
      (∀ other, (other ∈ (sDeleteForValue table probe).1.l2w ↔
          other ∈ table.l2w ∧ other ≠ ptr) ∧
        (other ∈ (sDeleteForValue table probe).1.w2l ↔ other ∈ table.w2l ∧ other ≠ ptr))) ∧
    (∀ probe, (∀ ptr ∈ table.l2w, (table.heap ptr).l2wKey = probe.l2wKey →
      (table.heap ptr).w2lKey ≠ probe.w2lKey) → sDeleteForValue table probe = (table, none)) := by
  have inv := reachableTable_inv reached
  refine ⟨inv.sameNodes, inv.distinctL2w.nodup, inv.distinctW2l.nodup, inv.keyed, ?_, ?_, ?_, ?_⟩
  · intro left leftIn right rightIn different protocol
    exact ⟨fun lan => different (inv.eq_of_lan leftIn rightIn protocol lan),
      fun wan => different (inv.eq_of_wan leftIn rightIn protocol wan)⟩
  · intro ptr node holder fresh _ refused
    exact sInsert_refused (inv.store_fresh node fresh) refused
  · intro probe ptr member l2w w2l
    rw [sDeleteForValue_of_match inv probe member l2w w2l]
    refine ⟨rfl, rfl, fun other => ⟨?_, ?_⟩⟩
    · exact inv.distinctL2w.mem_remove.trans and_comm
    · exact inv.distinctW2l.mem_remove.trans and_comm
  · intro probe missing
    exact sDeleteForValue_of_no_match probe missing

private def sampleNode (host : BitVec 32) : Node :=
  let lan : Endpoint := { port := 80, ip := host }
  let wan : Endpoint := { port := 1024, ip := host }
  { ctime := 0, atime := 0, flags := .synSent, timerFlags := .loop, protocol := 6,
    wan := wan, lan := lan, l2wKey := packKey 6 lan, w2lKey := packKey 6 wan }

private def sampleTable : Table :=
  let one := (sInsert ((sInit fun _ => sampleNode 0).store 1 (sampleNode 7)) 1).1
  (sInsert (one.store 2 (sampleNode 9)) 2).1

private theorem sampleTable_reachable : ReachableTable (fun _ => sampleNode 0) sampleTable := by
  refine reachable_of_run [.sInsert 1 (sampleNode 7), .sInsert 2 (sampleNode 9)] .start ?_
  rfl

theorem two_index_table_two_nodes :
    sampleTable.l2w = [2, 1] ∧
      (sDeleteForValue sampleTable (sampleNode 7)).2 = some 1 ∧
      (sDeleteForValue sampleTable (sampleNode 8)) = (sampleTable, none) :=
  have settled := two_index_table _ sampleTable sampleTable_reachable
  ⟨by decide, (settled.2.2.2.2.2.2.1 (sampleNode 7) 1 (by decide) (by decide) (by decide)).1,
    settled.2.2.2.2.2.2.2 (sampleNode 8) (by decide)⟩

end Structure
end NatPorte
