/-
The ring queue of `ring.h`.

Slots live in one array; `push_point` and `pop_point` run around it and the slot
before `pop_point` always stays unused, which is how a full ring differs from an
empty one.  Every function below is the code between taking and releasing
`h->lock`, so a run of calls by any threads is a list of calls; `RingLock` has the
locks and shows it (`calls_ordered`).  The points are C `int`s: they stay below
`ring_size` (`points_lt`), which callers pass as an `int` too, so the additions
never leave the type.
-/

import NatPorte.Library.BoundedFifo

namespace NatPorte.Ring

/-- What a `char*` of a slot points at: the bytes, and the room malloc gave them.  Bytes
beyond the room were written outside of the block. -/
structure Block where
  room : Nat
  bytes : List (BitVec 8)
deriving DecidableEq, Repr

structure RingBuffer where
  buffer : Option Block
  size : Nat
  opaqueVal : BitVec 64
deriving DecidableEq, Repr

/-- `struct ring_handler`, less the lock and the condition variable. -/
structure RingHandler where
  popPoint : Nat
  pushPoint : Nat
  ringSize : Nat
  rbuf : List RingBuffer
deriving DecidableEq, Repr

inductive Code
  | ok
  | err
  | over
  | empty
  /-- `pthread_cond_wait`: the call has not returned. -/
  | waiting
deriving DecidableEq, Repr

def defaultRingSize : Nat := 10
def defaultBufSize : Nat := 65535

/-- malloc leaves `opaque` unset; `uninitialised` is whatever was there. -/
def ringInit (uninitialised : Nat → BitVec 64) (ringSize : Nat) : RingHandler :=
  let size := if ringSize = 0 then defaultRingSize else ringSize
  { popPoint := 0
    pushPoint := 0
    ringSize := size
    rbuf := (List.range size).map fun index => ⟨none, 0, uninitialised index⟩ }

def RingHandler.slot (h : RingHandler) (index : Nat) : RingBuffer :=
  h.rbuf.getD index ⟨none, 0, 0⟩

/-- What `ring_push` asks malloc for. -/
def blockRoom (optHostid : Bool) (size : Nat) : Nat := if optHostid then 4096 else size

/-- The slot `ring_push` leaves behind.  With no buffer or no size only the
opaque word is written and the slot keeps what it held. -/
def pushedSlot (optHostid : Bool) (held : RingBuffer)
    (buffer : Option (List (BitVec 8))) (size : Nat) (opaqueVal : BitVec 64) : RingBuffer :=
  match buffer with
  | some bytes =>
      if size ≠ 0 then
        ⟨some ⟨blockRoom optHostid size, bytes.take size⟩, size, opaqueVal⟩
      else { held with opaqueVal := opaqueVal }
  | none => { held with opaqueVal := opaqueVal }

/-- The guard of `ring_push` and `ring_s_push`, with its `&&`. -/
def rejectsSize (size : Nat) : Bool := size > defaultBufSize && size ≤ 0

/-- The common tail of the pushes: refuse when one slot is left, else store. -/
def putSlot (h : RingHandler) (item : RingBuffer) : RingHandler × Code :=
  let next := (h.pushPoint + 1) % h.ringSize
  if next = h.popPoint then (h, .over)
  else ({ h with rbuf := h.rbuf.set h.pushPoint item, pushPoint := next }, .ok)

def ringPush (optHostid : Bool) (h : RingHandler)
    (buffer : Option (List (BitVec 8))) (size : Nat) (opaqueVal : BitVec 64) :
    RingHandler × Code :=
  if rejectsSize size then (h, .err)
  else putSlot h (pushedSlot optHostid (h.slot h.pushPoint) buffer size opaqueVal)

def ringSPush (h : RingHandler) (r : RingBuffer) : RingHandler × Code :=
  if rejectsSize r.size then (h, .err) else putSlot h r

/-- The common body of the pops: hand out the oldest slot, clear it, advance.
The out parameters are the returned buffer; on an empty ring only `buffer` and
`size` are stored and the caller's opaque word is left alone. -/
def takeSlot (onEmpty : Code) (h : RingHandler) : RingHandler × Code × Option RingBuffer :=
  if h.pushPoint = h.popPoint then (h, onEmpty, none)
  else
    ({ h with
        rbuf := h.rbuf.set h.popPoint ⟨none, 0, 0⟩
        popPoint := (h.popPoint + 1) % h.ringSize }, .ok, some (h.slot h.popPoint))

def ringPop (h : RingHandler) : RingHandler × Code × Option RingBuffer := takeSlot .empty h

/-- One pass through `ring_pop_condblock_loop`. -/
def ringPopCondblock (h : RingHandler) : RingHandler × Code × Option RingBuffer :=
  takeSlot .waiting h

inductive Operation
  | push (buffer : Option (List (BitVec 8))) (size : Nat) (opaqueVal : BitVec 64)
  | sPush (r : RingBuffer)
  | pop
  | popCondblock
deriving DecidableEq, Repr

structure Call where
  thread : Nat
  operation : Operation
deriving DecidableEq, Repr

structure Answer where
  code : Code
  popped : Option RingBuffer
deriving DecidableEq, Repr

def answer (optHostid : Bool) (h : RingHandler) (call : Call) : RingHandler × Answer :=
  match call.operation with
  | .push buffer size opaqueVal =>
      let (after, code) := ringPush optHostid h buffer size opaqueVal
      (after, ⟨code, none⟩)
  | .sPush r =>
      let (after, code) := ringSPush h r
      (after, ⟨code, none⟩)
  | .pop =>
      let (after, code, popped) := ringPop h
      (after, ⟨code, popped⟩)
  | .popCondblock =>
      let (after, code, popped) := ringPopCondblock h
      (after, ⟨code, popped⟩)

/-- The copy of a packet that found a slot would leave its block. -/
def overruns (optHostid : Bool) (h : RingHandler) : Operation → Bool
  | .push (some _) size _ =>
      (h.pushPoint + 1) % h.ringSize ≠ h.popPoint && blockRoom optHostid size < size
  | _ => false

/-- One call of the program; nothing is certain any more once a copy overran. -/
def performed (optHostid : Bool) (h : RingHandler) (call : Call) :
    Option (RingHandler × Answer) :=
  if overruns optHostid h call.operation then none else some (answer optHostid h call)

/-! ### The bounded queue the ring stands for -/

structure Item where
  bytes : Option (List (BitVec 8))
  size : Nat
  opaqueVal : BitVec 64
deriving DecidableEq, Repr

def RingBuffer.item (r : RingBuffer) : Item :=
  { bytes := r.buffer.map Block.bytes, size := r.size, opaqueVal := r.opaqueVal }

/-- A push of nothing is `(NULL, 0)` with its opaque. -/
def Operation.item : Operation → Option Item
  | .push none _ opaqueVal => some { bytes := none, size := 0, opaqueVal := opaqueVal }
  | .push (some bytes) size opaqueVal =>
      if size = 0 then some { bytes := none, size := 0, opaqueVal := opaqueVal }
      else some { bytes := some (bytes.take size), size := size, opaqueVal := opaqueVal }
  | .sPush r => some r.item
  | .pop => none
  | .popCondblock => none

def Operation.action (operation : Operation) : BoundedFifo.Action Item :=
  match operation.item with
  | some item => .push item
  | none => .pop

structure Report where
  code : Code
  popped : Option Item
deriving DecidableEq, Repr

/-- What the caller can tell from an answer. -/
def Answer.report (given : Answer) : Report :=
  { code := given.code, popped := given.popped.map RingBuffer.item }

/-- How a queue outcome is reported by each call. -/
def Operation.report : Operation → BoundedFifo.Outcome Item → Report
  | _, .accepted => ⟨.ok, none⟩
  | _, .refused => ⟨.over, none⟩
  | _, .popped item => ⟨.ok, some item⟩
  | .popCondblock, .empty => ⟨.waiting, none⟩
  | _, .empty => ⟨.empty, none⟩

def fifoAnswer {capacity : Nat} (queue : BoundedFifo Item capacity) (call : Call) :
    BoundedFifo Item capacity × Report :=
  let (after, outcome) := queue.step call.operation.action
  (after, call.operation.report outcome)

/-- A packet of `ring_push` is no larger than its block. -/
def Operation.fits (optHostid : Bool) : Operation → Bool
  | .push (some _) size _ => !optHostid || size ≤ 4096
  | _ => true

/-- So is every packet that finds a place in the queue. -/
def Fitting (optHostid : Bool) {capacity : Nat} : BoundedFifo Item capacity → List Call → Prop
  | _, [] => True
  | queue, call :: rest =>
      (queue.items.length < capacity → call.operation.fits optHostid = true) ∧
        Fitting optHostid (fifoAnswer queue call).1 rest

def fittingDecidable (optHostid : Bool) {capacity : Nat} :
    (calls : List Call) → (queue : BoundedFifo Item capacity) →
      Decidable (Fitting optHostid queue calls)
  | [], _ => .isTrue trivial
  | _ :: rest, _ => @instDecidableAnd _ _ _ (fittingDecidable optHostid rest _)

instance (optHostid : Bool) {capacity : Nat} (queue : BoundedFifo Item capacity)
    (calls : List Call) : Decidable (Fitting optHostid queue calls) :=
  fittingDecidable optHostid calls queue

def position (n start offset : Nat) : Nat := (start + offset) % n

theorem position_lt {n : Nat} (positive : 0 < n) (start offset : Nat) :
    position n start offset < n :=
  Nat.mod_lt _ positive

theorem position_succ (n start offset : Nat) :
    (position n start offset + 1) % n = position n start (offset + 1) := by
  unfold position
  rw [Nat.mod_add_mod, Nat.add_assoc]

theorem position_advance (n start offset : Nat) :
    position n ((start + 1) % n) offset = position n start (offset + 1) := by
  unfold position
  rw [Nat.mod_add_mod, Nat.add_assoc, Nat.add_comm 1 offset]

theorem position_wrap {n start : Nat} (inside : start < n) : position n start n = start := by
  unfold position
  rw [Nat.add_mod_right, Nat.mod_eq_of_lt inside]

/-- Fewer than `n` steps never meet themselves again. -/
theorem position_injective {n start left right : Nat} (inside : start < n)
    (leftLt : left < n) (rightLt : right < n)
    (same : position n start left = position n start right) : left = right := by
  unfold position at same
  have reduce : ∀ offset, offset < n →
      (start + offset) % n = if start + offset < n then start + offset else start + offset - n := by
    intro offset offsetLt
    by_cases fits : start + offset < n
    · rw [if_pos fits, Nat.mod_eq_of_lt fits]
    · rw [if_neg fits, Nat.mod_eq_sub_mod (by omega), Nat.mod_eq_of_lt (by omega)]
  rw [reduce left leftLt, reduce right rightLt] at same
  split at same <;> split at same <;> omega

/-- The queue `items` is laid out from `popPoint` on, `pushPoint` is right behind
it, and every slot outside it has been cleared. -/
structure Represents (h : RingHandler) (items : List Item) : Prop where
  length : h.rbuf.length = h.ringSize
  room : items.length < h.ringSize
  popLt : h.popPoint < h.ringSize
  push : h.pushPoint = position h.ringSize h.popPoint items.length
  held : ∀ index item, items[index]? = some item →
    (h.slot (position h.ringSize h.popPoint index)).item = item
  cleared : ∀ index, items.length ≤ index → index < h.ringSize →
    (h.slot (position h.ringSize h.popPoint index)).buffer = none ∧
      (h.slot (position h.ringSize h.popPoint index)).size = 0

theorem Represents.points_lt {h : RingHandler} {items : List Item}
    (layout : Represents h items) : h.popPoint < h.ringSize ∧ h.pushPoint < h.ringSize := by
  refine ⟨layout.popLt, ?_⟩
  rw [layout.push]
  exact position_lt (by have := layout.popLt; omega) _ _

theorem slot_set_self (h : RingHandler) (index : Nat) (item : RingBuffer) (pushPoint : Nat)
    (inside : index < h.rbuf.length) :
    RingHandler.slot { h with rbuf := h.rbuf.set index item, pushPoint := pushPoint } index =
      item := by
  simp [RingHandler.slot, inside]

theorem slot_set_other (slots : List RingBuffer) (index other : Nat) (item : RingBuffer)
    (different : index ≠ other) :
    (slots.set index item).getD other ⟨none, 0, 0⟩ = slots.getD other ⟨none, 0, 0⟩ := by
  simp [List.getD_eq_getElem?_getD, different]

theorem Represents.full_iff {h : RingHandler} {items : List Item}
    (layout : Represents h items) :
    (h.pushPoint + 1) % h.ringSize = h.popPoint ↔ ¬items.length < h.ringSize - 1 := by
  have room := layout.room
  rw [layout.push, position_succ]
  constructor
  · intro wrapped notFull
    have zero : position h.ringSize h.popPoint 0 = h.popPoint :=
      Nat.mod_eq_of_lt layout.popLt
    have same := position_injective layout.popLt (by omega) (by omega)
      (wrapped.trans zero.symm)
    omega
  · intro full
    have last : items.length + 1 = h.ringSize := by omega
    rw [last]
    exact position_wrap layout.popLt

theorem Represents.empty_iff {h : RingHandler} {items : List Item}
    (layout : Represents h items) : h.pushPoint = h.popPoint ↔ items = [] := by
  have room := layout.room
  have zero : position h.ringSize h.popPoint 0 = h.popPoint := Nat.mod_eq_of_lt layout.popLt
  rw [layout.push]
  constructor
  · intro same
    have none := position_injective layout.popLt room (by omega) (same.trans zero.symm)
    exact List.eq_nil_of_length_eq_zero none
  · intro none
    rw [none]
    exact zero

theorem Represents.append {h : RingHandler} {items : List Item}
    (layout : Represents h items) (slot : RingBuffer) (space : items.length < h.ringSize - 1) :
    Represents { h with
        rbuf := h.rbuf.set h.pushPoint slot
        pushPoint := (h.pushPoint + 1) % h.ringSize } (items ++ [slot.item]) := by
  have popLt := layout.popLt
  have other : ∀ index, index < h.ringSize → index ≠ items.length →
      h.pushPoint ≠ position h.ringSize h.popPoint index := by
    intro index indexLt different same
    rw [layout.push] at same
    exact different (position_injective popLt layout.room indexLt same).symm
  refine
    { length := by simp [layout.length]
      room := by simp; omega
      popLt := popLt
      push := by rw [layout.push, position_succ, List.length_append]; rfl
      held := ?_
      cleared := ?_ }
  · intro index found present
    have bound : index < (items ++ [slot.item]).length := (List.getElem?_eq_some_iff.mp present).1
    rw [List.length_append, List.length_singleton] at bound
    by_cases old : index < items.length
    · rw [List.getElem?_append_left old] at present
      change ((h.rbuf.set h.pushPoint slot).getD _ _).item = found
      rw [slot_set_other _ _ _ _ (other index (by omega) (by omega))]
      exact layout.held index found present
    · have last : index = items.length := by omega
      subst last
      rw [List.getElem?_append_right (Nat.le_refl _), Nat.sub_self] at present
      cases present
      change ((h.rbuf.set h.pushPoint slot).getD (position h.ringSize h.popPoint _) _).item = _
      rw [← layout.push]
      exact congrArg RingBuffer.item (slot_set_self h h.pushPoint slot h.pushPoint (by
        rw [layout.length]; exact layout.points_lt.2))
  · intro index above below
    rw [List.length_append, List.length_singleton] at above
    change index < h.ringSize at below
    change ((h.rbuf.set h.pushPoint slot).getD _ _).buffer = none ∧
      ((h.rbuf.set h.pushPoint slot).getD _ _).size = 0
    rw [slot_set_other _ _ _ _ (other index below (by omega))]
    exact layout.cleared index (by omega) below

theorem Represents.take {h : RingHandler} {item : Item} {rest : List Item}
    (layout : Represents h (item :: rest)) :
    (h.slot h.popPoint).item = item ∧
      Represents { h with
        rbuf := h.rbuf.set h.popPoint ⟨none, 0, 0⟩
        popPoint := (h.popPoint + 1) % h.ringSize } rest := by
  have popLt := layout.popLt
  have room := layout.room
  rw [List.length_cons] at room
  have zero : position h.ringSize h.popPoint 0 = h.popPoint := Nat.mod_eq_of_lt popLt
  have first : (h.slot h.popPoint).item = item := by
    have held := layout.held 0 item rfl
    rwa [zero] at held
  have other : ∀ index, index + 1 < h.ringSize →
      h.popPoint ≠ position h.ringSize h.popPoint (index + 1) := by
    intro index indexLt same
    have none := position_injective popLt (by omega) indexLt (zero.trans same)
    omega
  refine ⟨first, ?_⟩
  refine
    { length := by simp [layout.length]
      room := by change rest.length < h.ringSize; omega
      popLt := Nat.mod_lt _ (by omega)
      push := by
        change h.pushPoint = position h.ringSize ((h.popPoint + 1) % h.ringSize) rest.length
        rw [position_advance, layout.push, List.length_cons]
      held := ?_
      cleared := ?_ }
  · intro index found present
    have bound : index < rest.length := (List.getElem?_eq_some_iff.mp present).1
    change ((h.rbuf.set h.popPoint ⟨none, 0, 0⟩).getD
      (position h.ringSize ((h.popPoint + 1) % h.ringSize) index) _).item = found
    rw [position_advance, slot_set_other _ _ _ _ (other index (by omega))]
    exact layout.held (index + 1) found present
  · intro index above below
    change index < h.ringSize at below
    change ((h.rbuf.set h.popPoint ⟨none, 0, 0⟩).getD
        (position h.ringSize ((h.popPoint + 1) % h.ringSize) index) _).buffer = none ∧
      ((h.rbuf.set h.popPoint ⟨none, 0, 0⟩).getD
        (position h.ringSize ((h.popPoint + 1) % h.ringSize) index) _).size = 0
    rw [position_advance]
    by_cases wraps : index + 1 = h.ringSize
    · -- the slot just handed out becomes the last free one
      rw [wraps, position_wrap popLt, List.getD_eq_getElem?_getD,
        List.getElem?_set_self (by rw [layout.length]; exact popLt)]
      exact ⟨rfl, rfl⟩
    · rw [slot_set_other _ _ _ _ (other index (by omega))]
      exact layout.cleared (index + 1) (by rw [List.length_cons]; omega) (by omega)

/-- A cleared slot is why a push of nothing comes out as `(NULL, 0)`. -/
theorem Represents.pushedSlot_item {h : RingHandler} {items : List Item}
    (layout : Represents h items) (optHostid : Bool)
    (buffer : Option (List (BitVec 8))) (size : Nat) (opaqueVal : BitVec 64) :
    (Operation.push buffer size opaqueVal).item =
      some (pushedSlot optHostid (h.slot h.pushPoint) buffer size opaqueVal).item := by
  obtain ⟨noBuffer, noSize⟩ := layout.cleared items.length (Nat.le_refl _) layout.room
  rw [← layout.push] at noBuffer noSize
  cases buffer with
  | none => simp only [Operation.item, pushedSlot, RingBuffer.item, noBuffer, noSize, Option.map]
  | some bytes =>
      by_cases packet : size = 0
      · simp only [Operation.item, pushedSlot, RingBuffer.item, noBuffer, noSize, packet,
          if_true, ne_eq, not_true_eq_false, if_false, Option.map]
      · simp only [Operation.item, pushedSlot, RingBuffer.item, packet, if_false, ne_eq,
          not_false_eq_true, if_true, Option.map]

theorem rejectsSize_eq_false (size : Nat) : rejectsSize size = false := by
  unfold rejectsSize defaultBufSize
  by_cases large : size > 65535
  · simp [large]; omega
  · simp [large]

theorem ringInit_represents (uninitialised : Nat → BitVec 64) (n : Nat) (positive : 1 ≤ n) :
    Represents (ringInit uninitialised n) [] := by
  have size : (ringInit uninitialised n).ringSize = n := if_neg (by omega)
  refine
    { length := by simp [ringInit]
      room := by rw [size]; exact positive
      popLt := by rw [size]; exact positive
      push := by rw [size]; exact (Nat.zero_mod n).symm
      held := by intro index item present; simp at present
      cleared := ?_ }
  intro index _ below
  rw [size] at below ⊢
  have start : position n (ringInit uninitialised n).popPoint index = index := by
    change (0 + index) % n = index
    rw [Nat.zero_add, Nat.mod_eq_of_lt below]
  rw [start]
  have notZero : n ≠ 0 := by omega
  simp [RingHandler.slot, ringInit, notZero, below]

/-! ### Refinement -/

theorem Represents.after_put {h : RingHandler} {n : Nat}
    {queue : BoundedFifo Item (n - 1)}
    (layout : Represents h queue.items) (size : h.ringSize = n) (slot : RingBuffer) :
    (putSlot h slot).2 = (if queue.items.length < n - 1 then Code.ok else Code.over) ∧
      Represents (putSlot h slot).1 (queue.step (.push slot.item)).1.items ∧
      (putSlot h slot).1.ringSize = n := by
  unfold putSlot
  by_cases space : queue.items.length < n - 1
  · have notFull : ¬(h.pushPoint + 1) % h.ringSize = h.popPoint := by
      rw [layout.full_iff, size]
      exact not_not_intro space
    simp only [if_neg notFull, if_pos space]
    refine ⟨trivial, ?_, size⟩
    rw [(queue.step_push_accepted slot.item space).2]
    exact layout.append slot (by rw [size]; exact space)
  · have full : (h.pushPoint + 1) % h.ringSize = h.popPoint := by
      rw [layout.full_iff, size]
      exact space
    simp only [if_pos full, if_neg space]
    refine ⟨trivial, ?_, size⟩
    rw [queue.step_push_refused slot.item space]
    exact layout

theorem Represents.after_take {h : RingHandler} {n : Nat}
    {queue : BoundedFifo Item (n - 1)}
    (layout : Represents h queue.items) (size : h.ringSize = n) (onEmpty : Code) :
    Answer.report ⟨(takeSlot onEmpty h).2.1, (takeSlot onEmpty h).2.2⟩ =
        (if queue.items = [] then ⟨onEmpty, none⟩ else ⟨Code.ok, queue.items.head?⟩) ∧
      Represents (takeSlot onEmpty h).1 (queue.step .pop).1.items ∧
      (takeSlot onEmpty h).1.ringSize = n := by
  unfold takeSlot
  cases front : queue.items with
  | nil =>
      simp only [if_pos (layout.empty_iff.mpr front), if_true]
      refine ⟨rfl, ?_, size⟩
      rw [queue.step_pop_empty front]
      exact layout
  | cons item rest =>
      have notEmpty : ¬h.pushPoint = h.popPoint := by
        rw [layout.empty_iff, front]
        exact List.cons_ne_nil item rest
      rw [front] at layout
      obtain ⟨oldest, shifted⟩ := layout.take
      simp only [if_neg notEmpty, Answer.report, Option.map_some, oldest, reduceCtorEq, if_false,
        List.head?_cons]
      refine ⟨trivial, ?_, size⟩
      rw [(queue.step_pop_cons front).2]
      exact shifted

theorem action_of_item {operation : Operation} {item : Item}
    (pushes : operation.item = some item) : operation.action = .push item := by
  unfold Operation.action
  rw [pushes]

theorem action_of_none {operation : Operation} (pops : operation.item = none) :
    operation.action = .pop := by
  unfold Operation.action
  rw [pops]

theorem Represents.push_call {optHostid : Bool} {h : RingHandler} {n : Nat}
    {queue : BoundedFifo Item (n - 1)}
    (layout : Represents h queue.items) (size : h.ringSize = n) (call : Call)
    (slot : RingBuffer) (pushes : call.operation.item = some slot.item)
    (unfolds : answer optHostid h call = ((putSlot h slot).1, ⟨(putSlot h slot).2, none⟩)) :
    (answer optHostid h call).2.report = (fifoAnswer queue call).2 ∧
      Represents (answer optHostid h call).1 (fifoAnswer queue call).1.items ∧
      (answer optHostid h call).1.ringSize = n := by
  obtain ⟨code, kept, sized⟩ := layout.after_put size slot
  simp only [unfolds, fifoAnswer, action_of_item pushes]
  refine ⟨?_, kept, sized⟩
  rw [Answer.report, code]
  by_cases space : queue.items.length < n - 1
  · rw [if_pos space, (queue.step_push_accepted slot.item space).1]
    cases call.operation <;> rfl
  · rw [if_neg space, queue.step_push_refused slot.item space]
    cases call.operation <;> rfl

theorem Represents.pop_call {optHostid : Bool} {h : RingHandler} {n : Nat}
    {queue : BoundedFifo Item (n - 1)}
    (layout : Represents h queue.items) (size : h.ringSize = n) (call : Call)
    (onEmpty : Code) (pops : call.operation.item = none)
    (reports : call.operation.report .empty = ⟨onEmpty, none⟩)
    (unfolds : answer optHostid h call =
      ((takeSlot onEmpty h).1, ⟨(takeSlot onEmpty h).2.1, (takeSlot onEmpty h).2.2⟩)) :
    (answer optHostid h call).2.report = (fifoAnswer queue call).2 ∧
      Represents (answer optHostid h call).1 (fifoAnswer queue call).1.items ∧
      (answer optHostid h call).1.ringSize = n := by
  obtain ⟨given, kept, sized⟩ := layout.after_take size onEmpty
  simp only [unfolds, fifoAnswer, action_of_none pops]
  refine ⟨?_, kept, sized⟩
  rw [given]
  cases front : queue.items with
  | nil =>
      rw [queue.step_pop_empty front]
      exact reports.symm
  | cons item rest =>
      rw [(queue.step_pop_cons front).1]
      cases call.operation <;> rfl

theorem Represents.call {h : RingHandler} {n : Nat} {queue : BoundedFifo Item (n - 1)}
    (layout : Represents h queue.items) (size : h.ringSize = n) (optHostid : Bool)
    (call : Call) :
    (answer optHostid h call).2.report = (fifoAnswer queue call).2 ∧
      Represents (answer optHostid h call).1 (fifoAnswer queue call).1.items ∧
      (answer optHostid h call).1.ringSize = n := by
  obtain ⟨thread, operation⟩ := call
  cases operation with
  | push buffer sizeArg opaqueVal =>
      refine layout.push_call size _ _ (layout.pushedSlot_item optHostid _ _ _) ?_
      simp only [answer, ringPush, rejectsSize_eq_false, Bool.false_eq_true, if_false]
  | sPush r =>
      refine layout.push_call size _ r rfl ?_
      simp only [answer, ringSPush, rejectsSize_eq_false, Bool.false_eq_true, if_false]
  | pop => exact layout.pop_call size _ .empty rfl rfl rfl
  | popCondblock => exact layout.pop_call size _ .waiting rfl rfl rfl

/-- The copy stays inside its block exactly when the call fits or finds no place. -/
theorem Represents.overruns_iff {optHostid : Bool} {h : RingHandler} {n : Nat}
    {queue : BoundedFifo Item (n - 1)} (layout : Represents h queue.items) (size : h.ringSize = n)
    (operation : Operation) :
    overruns optHostid h operation = false ↔
      (queue.items.length < n - 1 → operation.fits optHostid = true) := by
  have full := layout.full_iff
  rw [size] at full
  cases operation with
  | push buffer sizeArg opaqueVal =>
      cases buffer with
      | none => exact ⟨fun _ _ => rfl, fun _ => rfl⟩
      | some bytes =>
          by_cases space : queue.items.length < n - 1
          · have free : (h.pushPoint + 1) % n ≠ h.popPoint := fun same => full.mp same space
            cases optHostid <;> simp [overruns, Operation.fits, blockRoom, size, free, space]
          · simp [overruns, size, full.mpr space, space]
  | sPush r => exact ⟨fun _ _ => rfl, fun _ => rfl⟩
  | pop => exact ⟨fun _ _ => rfl, fun _ => rfl⟩
  | popCondblock => exact ⟨fun _ _ => rfl, fun _ => rfl⟩

/-- The items of the pushes that returned RING_OK, in call order. -/
def acceptedPushes : List Call → List Report → List Item
  | call :: calls, given :: reports =>
      match call.operation.item, given.code with
      | some item, .ok => item :: acceptedPushes calls reports
      | _, _ => acceptedPushes calls reports
  | _, _ => []

def handedOut (reports : List Report) : List Item := reports.filterMap Report.popped

theorem fifo_bookkeeping {capacity : Nat} (calls : List Call) :
    ∀ queue : BoundedFifo Item capacity,
      let outcomes := (StepSystem.trace BoundedFifo.step queue
        (calls.map fun call => call.operation.action)).1
      let reports := (StepSystem.trace fifoAnswer queue calls).1
      handedOut reports = BoundedFifo.poppedItems outcomes ∧
        acceptedPushes calls reports =
          BoundedFifo.acceptedItems (calls.map fun call => call.operation.action) outcomes := by
  induction calls with
  | nil => intro queue; exact ⟨rfl, rfl⟩
  | cons call rest ih =>
      intro queue
      obtain ⟨taken, accepted⟩ := ih (queue.step call.operation.action).1
      obtain ⟨thread, operation⟩ := call
      simp only [List.map_cons, StepSystem.trace, fifoAnswer] at taken accepted ⊢
      unfold handedOut at taken ⊢
      cases kind : operation.item with
      | some item =>
          simp only [action_of_item kind] at taken accepted ⊢
          by_cases space : queue.items.length < capacity
          · simp only [(queue.step_push_accepted item space).1, List.filterMap_cons,
              acceptedPushes, BoundedFifo.acceptedItems, BoundedFifo.poppedItems, kind]
            exact ⟨by cases operation <;> exact taken,
              by cases operation <;> exact congrArg (List.cons item) accepted⟩
          · simp only [queue.step_push_refused item space] at taken accepted ⊢
            simp only [List.filterMap_cons,
              acceptedPushes, BoundedFifo.acceptedItems, BoundedFifo.poppedItems, kind]
            exact ⟨by cases operation <;> exact taken, by cases operation <;> exact accepted⟩
      | none =>
          simp only [action_of_none kind] at taken accepted ⊢
          cases front : queue.items with
          | nil =>
              simp only [queue.step_pop_empty front] at taken accepted ⊢
              simp only [List.filterMap_cons,
                acceptedPushes, BoundedFifo.acceptedItems, BoundedFifo.poppedItems, kind]
              exact ⟨by cases operation <;> exact taken, accepted⟩
          | cons item others =>
              simp only [(queue.step_pop_cons front).1, List.filterMap_cons,
                acceptedPushes, BoundedFifo.acceptedItems, BoundedFifo.poppedItems, kind]
              exact ⟨by cases operation <;> exact congrArg (List.cons item) taken,
                accepted⟩

theorem handedOut_prefix (capacity : Nat) (calls : List Call) :
    let reports :=
      (StepSystem.trace fifoAnswer (BoundedFifo.empty : BoundedFifo Item capacity) calls).1
    handedOut reports <+: acceptedPushes calls reports := by
  intro reports
  obtain ⟨taken, accepted⟩ := fifo_bookkeeping calls
    (BoundedFifo.empty : BoundedFifo Item capacity)
  change handedOut reports = _ at taken
  change acceptedPushes calls reports = _ at accepted
  rw [taken, accepted]
  exact BoundedFifo.popped_prefix_accepted _

theorem putSlot_unchanged {h : RingHandler} {item : RingBuffer}
    (failed : (putSlot h item).2 ≠ .ok) : (putSlot h item).1 = h := by
  unfold putSlot at failed ⊢
  by_cases full : (h.pushPoint + 1) % h.ringSize = h.popPoint
  · simp only [if_pos full]
  · simp only [if_neg full] at failed
    exact absurd rfl failed

theorem takeSlot_unchanged {onEmpty : Code} {h : RingHandler}
    (failed : (takeSlot onEmpty h).2.1 ≠ .ok) : (takeSlot onEmpty h).1 = h := by
  unfold takeSlot at failed ⊢
  by_cases none : h.pushPoint = h.popPoint
  · simp only [if_pos none]
  · simp only [if_neg none] at failed
    exact absurd rfl failed

theorem answer_unchanged (optHostid : Bool) (h : RingHandler) (call : Call)
    (failed : (answer optHostid h call).2.code ≠ .ok) : (answer optHostid h call).1 = h := by
  obtain ⟨thread, operation⟩ := call
  cases operation with
  | push buffer size opaqueVal =>
      simp only [answer, ringPush, rejectsSize_eq_false, Bool.false_eq_true, if_false]
        at failed ⊢
      exact putSlot_unchanged failed
  | sPush r =>
      simp only [answer, ringSPush, rejectsSize_eq_false, Bool.false_eq_true, if_false]
        at failed ⊢
      exact putSlot_unchanged failed
  | pop => exact takeSlot_unchanged failed
  | popCondblock => exact takeSlot_unchanged failed

theorem Represents.replayed {optHostid : Bool} {n : Nat} (calls : List Call) :
    ∀ (h : RingHandler) (queue : BoundedFifo Item (n - 1)), Represents h queue.items →
      h.ringSize = n → Fitting optHostid queue calls →
      ∃ after answers, StepSystem.replay (performed optHostid) h calls = some (after, answers) ∧
        answers.map Answer.report = (StepSystem.trace fifoAnswer queue calls).1 ∧
        Represents after (StepSystem.trace fifoAnswer queue calls).2.items := by
  induction calls with
  | nil =>
      intro h queue layout size fitting
      exact ⟨h, [], rfl, rfl, layout⟩
  | cons call rest ih =>
      intro h queue layout size fitting
      obtain ⟨report, kept, sized⟩ := layout.call size optHostid call
      obtain ⟨after, answers, performs, reports, final⟩ := ih _ _ kept sized fitting.2
      have inside := (layout.overruns_iff size call.operation).mpr fitting.1
      refine ⟨after, (answer optHostid h call).2 :: answers, ?_, ?_, final⟩
      · rw [StepSystem.replay, performed, inside, if_neg Bool.false_ne_true]
        simp only [Option.bind_eq_bind, Option.bind_some, performs]
      · rw [List.map_cons, report, reports]
        rfl

theorem Represents.fitting {optHostid : Bool} {n : Nat} (calls : List Call) :
    ∀ (h : RingHandler) (queue : BoundedFifo Item (n - 1)) {after : RingHandler}
      {answers : List Answer}, Represents h queue.items → h.ringSize = n →
      StepSystem.replay (performed optHostid) h calls = some (after, answers) →
      Fitting optHostid queue calls := by
  induction calls with
  | nil =>
      intro h queue after answers layout size performs
      trivial
  | cons call rest ih =>
      intro h queue after answers layout size performs
      obtain ⟨-, kept, sized⟩ := layout.call size optHostid call
      rw [StepSystem.replay, performed] at performs
      cases inside : overruns optHostid h call.operation with
      | true =>
          rw [inside, if_pos rfl] at performs
          cases performs
      | false =>
          rw [inside, if_neg Bool.false_ne_true] at performs
          simp only [Option.bind_eq_bind, Option.bind_some, Option.bind_eq_some_iff] at performs
          obtain ⟨⟨final, others⟩, later, -⟩ := performs
          exact ⟨(layout.overruns_iff size call.operation).mp inside, ih _ _ kept sized later⟩

/-- A ring of `n` slots is a queue of `n - 1` items: the calls come to their end and are
answered like the queue's, the ring holds the queue's items, changes only on RING_OK, and
has handed out a prefix of what it accepted. -/
def RefinesFifo (optHostid : Bool) (uninitialised : Nat → BitVec 64) (n : Nat)
    (calls : List Call) : Prop :=
  let queue := StepSystem.trace fifoAnswer (BoundedFifo.empty : BoundedFifo Item (n - 1)) calls
  ∃ h answers,
    StepSystem.replay (performed optHostid) (ringInit uninitialised n) calls = some (h, answers) ∧
    answers.map Answer.report = queue.1 ∧ Represents h queue.2.items ∧
    (∀ call, (answer optHostid h call).2.code ≠ .ok → (answer optHostid h call).1 = h) ∧
    handedOut (answers.map Answer.report) <+: acceptedPushes calls (answers.map Answer.report)

theorem ring_refines_fifo (optHostid : Bool) (uninitialised : Nat → BitVec 64)
    (n : Nat) (positive : 1 ≤ n) (calls : List Call) :
    RefinesFifo optHostid uninitialised n calls ↔
      Fitting optHostid (BoundedFifo.empty : BoundedFifo Item (n - 1)) calls := by
  have empty := ringInit_represents uninitialised n positive
  have size : (ringInit uninitialised n).ringSize = n := if_neg (by omega)
  constructor
  · rintro ⟨h, answers, performs, -⟩
    exact Represents.fitting calls _ BoundedFifo.empty empty size performs
  · intro fitting
    obtain ⟨h, answers, performs, reports, final⟩ :=
      Represents.replayed calls _ BoundedFifo.empty empty size fitting
    refine ⟨h, answers, performs, reports, final, answer_unchanged optHostid h, ?_⟩
    rw [reports]
    exact handedOut_prefix (n - 1) calls

private def sampleCalls : List Call :=
  [⟨0, .push (some [1, 2, 3]) 2 9⟩, ⟨1, .push none 5 8⟩, ⟨0, .push (some [4]) 1 6⟩,
    ⟨2, .popCondblock⟩, ⟨1, .sPush ⟨none, 0, 4⟩⟩, ⟨2, .pop⟩]

theorem ring_refines_fifo_three :
    RefinesFifo true (fun _ => 7) 3 sampleCalls ∧ RefinesFifo false (fun _ => 7) 3 sampleCalls :=
  ⟨(ring_refines_fifo true (fun _ => 7) 3 (by decide) sampleCalls).mpr (by decide),
    (ring_refines_fifo false (fun _ => 7) 3 (by decide) sampleCalls).mpr (by decide)⟩

private def largePacket : List (BitVec 8) := List.replicate 5000 0

/-- With OPT_HOSTID a packet of 5000 bytes is copied into 4096. -/
theorem ring_refines_fifo_fails :
    ¬∀ (optHostid : Bool) (uninitialised : Nat → BitVec 64) (n : Nat), 1 ≤ n →
      ∀ calls : List Call, (∀ call ∈ calls, ∀ buffer size opaqueVal,
        call.operation = .push buffer size opaqueVal → size ≤ defaultBufSize) →
      RefinesFifo optHostid uninitialised n calls := by
  intro refines
  obtain ⟨h, answers, performs, -⟩ := refines true (fun _ => 0) 3 (by decide)
    [⟨0, .push (some largePacket) 5000 1⟩] (by
      intro call member buffer size opaqueVal pushes
      rw [List.mem_singleton.mp member] at pushes
      cases pushes
      decide)
  rw [StepSystem.replay, performed, if_pos (by rfl)] at performs
  cases performs

end NatPorte.Ring
