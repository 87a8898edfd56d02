/-
The ring operations with their lock, step by step and interleaved.

A thread in an operation is at one of the places where `h->lock` is taken or given
back, or where the ring is looked at or changed.  `pthread_cond_wait` gives the lock
back and takes it again before it returns; a sleeping thread may go on at any time,
which covers every signal and every spurious wakeup.
-/

import NatPorte.Library.RecursiveMutex
import NatPorte.Ring

namespace NatPorte
namespace RingLock

open NatPorte.Ring RecursiveMutex StepSystem

inductive Operation where
  | push (buffer : Option (List (BitVec 8))) (size : Nat) (opaqueVal : BitVec 64)
  | sPush (r : RingBuffer)
  | pop
  | popCondblock
  | sPop
  | sPopCondblock
  deriving DecidableEq, Repr

inductive Place where
  /-- in no operation; the last one and what it returned -/
  | outside (last : Option (Operation × Answer))
  /-- the lock is not taken yet -/
  | called (operation : Operation)
  /-- at the comparison of the two points -/
  | comparing (operation : Operation)
  /-- in `pthread_cond_wait` -/
  | asleep (operation : Operation)
  /-- at the second lock of `ring_s_pop` -/
  | again
  /-- at the slot that is written or taken -/
  | moving (operation : Operation)
  /-- at the last unlock -/
  | leaving (operation : Operation) (answer : Answer)
  deriving DecidableEq, Repr

def isOutside : Place → Bool
  | .outside _ => true
  | _ => false

/-- The guard in front of the lock. -/
def refused : Operation → Bool
  | .push _ size _ => rejectsSize size
  | .sPush r => rejectsSize r.size
  | _ => false

/-- What a push stores. -/
def stored (optHostid : Bool) (h : RingHandler) : Operation → Option RingBuffer
  | .push buffer size opaqueVal =>
      some (pushedSlot optHostid (h.slot h.pushPoint) buffer size opaqueVal)
  | .sPush r => some r
  | _ => none

/-- The comparison of the points, with the exits behind it. -/
def compare (h : RingHandler) (operation : Operation) : Effect × Place :=
  match operation with
  | .push _ _ _ | .sPush _ =>
      if (h.pushPoint + 1) % h.ringSize = h.popPoint then
        (.none, .leaving operation ⟨.over, none⟩)
      else (.none, .moving operation)
  | .pop =>
      if h.pushPoint = h.popPoint then (.none, .leaving operation ⟨.empty, none⟩)
      else (.none, .moving operation)
  | .sPop =>
      if h.pushPoint = h.popPoint then (.none, .leaving operation ⟨.empty, none⟩)
      else (.none, .again)
  | .popCondblock | .sPopCondblock =>
      if h.pushPoint = h.popPoint then (.unlock, .asleep operation)
      else (.none, .moving operation)

def next (optHostid : Bool) (h : RingHandler) : Place → Option (Effect × Place × RingHandler)
  | .outside _ => none
  | .called operation =>
      if refused operation then some (.none, .outside (some (operation, ⟨.err, none⟩)), h)
      else some (.lock, .comparing operation, h)
  | .comparing operation => some ((compare h operation).1, (compare h operation).2, h)
  | .asleep operation => some (.lock, .comparing operation, h)
  | .again => some (.lock, .moving .sPop, h)
  | .moving operation =>
      match stored optHostid h operation with
      | some item =>
          some (.none, .leaving operation ⟨.ok, none⟩,
            { h with
              rbuf := h.rbuf.set h.pushPoint item
              pushPoint := (h.pushPoint + 1) % h.ringSize })
      | none =>
          some (.none, .leaving operation ⟨.ok, some (h.slot h.popPoint)⟩,
            { h with
              rbuf := h.rbuf.set h.popPoint ⟨none, 0, 0⟩
              popPoint := (h.popPoint + 1) % h.ringSize })
  | .leaving operation answer => some (.unlock, .outside (some (operation, answer)), h)

def code (optHostid : Bool) : Code Place Operation RingHandler where
  start := .called
  idle := isOutside
  next := fun place h => next optHostid h place

/-- A push finds the ring full, a pop finds it empty. -/
def Stuck (h : RingHandler) : Operation → Prop
  | .push _ _ _ | .sPush _ => (h.pushPoint + 1) % h.ringSize = h.popPoint
  | .pop | .popCondblock | .sPop | .sPopCondblock => h.pushPoint = h.popPoint

instance stuckDecidable (h : RingHandler) (operation : Operation) :
    Decidable (Stuck h operation) :=
  match operation with
  | .push _ _ _ | .sPush _ => inferInstanceAs (Decidable (_ = h.popPoint))
  | .pop | .popCondblock | .sPop | .sPopCondblock => inferInstanceAs (Decidable (_ = h.popPoint))

/-- What an operation that is stuck does. -/
def givesUp : Operation → Effect × Place
  | .push buffer size opaqueVal => (.none, .leaving (.push buffer size opaqueVal) ⟨.over, none⟩)
  | .sPush r => (.none, .leaving (.sPush r) ⟨.over, none⟩)
  | .pop => (.none, .leaving .pop ⟨.empty, none⟩)
  | .sPop => (.none, .leaving .sPop ⟨.empty, none⟩)
  | .popCondblock => (.unlock, .asleep .popCondblock)
  | .sPopCondblock => (.unlock, .asleep .sPopCondblock)

/-- Where an operation that is not stuck goes. -/
def goesOn : Operation → Place
  | .sPop => .again
  | operation => .moving operation

theorem compare_eq (h : RingHandler) (operation : Operation) :
    compare h operation =
      if Stuck h operation then givesUp operation else (.none, goesOn operation) := by
  cases operation <;> rfl

/-- `ring_s_pop` has taken an item: its second lock is never given back. -/
def keepsLock (operation : Operation) (answer : Answer) : Bool :=
  operation = .sPop && answer.code = .ok

/-- How much deeper a thread holds the lock than at its call. -/
def level : Place → Nat
  | .outside none => 0
  | .outside (some (operation, answer)) => if keepsLock operation answer then 1 else 0
  | .called _ => 0
  | .comparing _ => 1
  | .asleep _ => 0
  | .again => 1
  | .moving operation => if operation = .sPop then 2 else 1
  | .leaving operation answer => if keepsLock operation answer then 2 else 1

theorem compare_follows (h : RingHandler) (operation : Operation) :
    (compare h operation).1.Follows 1 (level (compare h operation).2) := by
  rw [compare_eq]
  split
  · cases operation <;> rfl
  · cases operation <;> rfl

theorem levels (optHostid : Bool) : Levels (code optHostid) level := by
  constructor
  · intro operation
    rfl
  · intro place h effect after later moves
    change next optHostid h place = _ at moves
    cases place with
    | outside last => cases moves
    | called operation =>
        rw [next] at moves
        split at moves
        · cases moves
          simp [Effect.Follows, level, keepsLock]
        · cases moves
          rfl
    | comparing operation =>
        cases moves
        exact compare_follows h operation
    | asleep operation =>
        cases moves
        rfl
    | again =>
        cases moves
        rfl
    | moving operation =>
        cases operation <;> cases moves <;> rfl
    | leaving operation answer =>
        cases moves
        cases keeps : keepsLock operation answer
        · simp [Effect.Follows, level, keeps]
        · simp [Effect.Follows, level, keeps]

section Runs

variable {Thread : Type} [DecidableEq Thread] {optHostid : Bool} {h : RingHandler}
  {state : State Thread Place RingHandler}

/-- In every interleaving each operation gives back what it took, but for a
`ring_s_pop` that took an item. -/
theorem returned_depth {guard : State Thread Place RingHandler → Event Thread Operation → Prop}
    (reached : Reachable (step (code optHostid)) guard (initial h (.outside none)) state)
    {thread : Thread} {operation : Operation} {answer : Answer}
    (returned : state.place thread = .outside (some (operation, answer))) :
    state.mutex.depth thread =
      state.before thread + if keepsLock operation answer then 1 else 0 := by
  have placed := placed_reachable (levels optHostid) rfl reached thread
  rw [returned] at placed
  exact placed

/-- The step is not the comparison of a `ring_s_pop` that finds an item. -/
def FindsNothing (state : State Thread Place RingHandler) : Event Thread Operation → Prop
  | .call _ _ => True
  | .go thread => state.place thread = .comparing .sPop →
      state.store.pushPoint = state.store.popPoint

instance findsNothingDecidable (state : State Thread Place RingHandler)
    (event : Event Thread Operation) : Decidable (FindsNothing state event) :=
  match event with
  | .call _ _ => isTrue trivial
  | .go thread => inferInstanceAs (Decidable (state.place thread = .comparing .sPop →
      state.store.pushPoint = state.store.popPoint))

/-- The thread is on the way from that comparison, or has come back that way. -/
def doubled : Place → Bool
  | .outside none => false
  | .outside (some (operation, answer)) => keepsLock operation answer
  | .called _ => false
  | .comparing _ => false
  | .asleep _ => false
  | .again => true
  | .moving operation => operation = .sPop
  | .leaving operation answer => keepsLock operation answer

theorem compare_not_doubled {operation : Operation}
    (nothing : operation = .sPop → h.pushPoint = h.popPoint) :
    doubled (compare h operation).2 = false := by
  rw [compare_eq]
  split
  · cases operation <;> rfl
  · next free =>
      cases operation with
      | sPop => exact absurd (nothing rfl) free
      | _ => rfl

theorem next_not_doubled {place after : Place} {later : RingHandler} {effect : Effect}
    (single : doubled place = false)
    (nothing : place = .comparing .sPop → h.pushPoint = h.popPoint)
    (moves : next optHostid h place = some (effect, after, later)) : doubled after = false := by
  cases place with
  | outside last => cases moves
  | called operation =>
      rw [next] at moves
      split at moves
      · cases moves
        simp [doubled, keepsLock]
      · cases moves
        rfl
  | comparing operation =>
      cases moves
      exact compare_not_doubled (fun isPop => nothing (congrArg Place.comparing isPop))
  | asleep operation =>
      cases moves
      rfl
  | again => cases single
  | moving operation =>
      have other : operation ≠ .sPop := of_decide_eq_false single
      rw [next] at moves
      split at moves
      · cases moves
        simp [doubled, keepsLock, other]
      · cases moves
        simp [doubled, keepsLock, other]
  | leaving operation answer =>
      cases moves
      exact single

/-- Nobody is, or came back, one level too deep, and every call began with no level. -/
structure Balanced (state : State Thread Place RingHandler) : Prop where
  placed : Placed level state
  single : ∀ thread, doubled (state.place thread) = false
  clear : ∀ thread, state.before thread = 0

theorem Balanced.outside (balanced : Balanced state) {thread : Thread}
    (outside : isOutside (state.place thread) = true) : state.mutex.depth thread = 0 := by
  have placed := balanced.placed thread
  have single := balanced.single thread
  rw [balanced.clear thread] at placed
  cases place : state.place thread with
  | outside last =>
      rw [place] at placed single
      cases last with
      | none => exact placed
      | some last =>
          have notKept : keepsLock last.1 last.2 = false := single
          rw [level, notKept] at placed
          exact placed
  | _ =>
      rw [place] at outside
      cases outside

theorem balanced_step {after : State Thread Place RingHandler} {event : Event Thread Operation}
    (balanced : Balanced state) (nothing : FindsNothing state event)
    (stepped : step (code optHostid) state event = some after) : Balanced after := by
  constructor
  · exact placed_step (levels optHostid) balanced.placed (step_cases stepped)
  · apply places_step (fun place => doubled place = false) balanced.single ?_ ?_ stepped
    · intro operation
      rfl
    · intro thread effect place store goes moves
      rw [goes] at nothing
      exact next_not_doubled (balanced.single thread) nothing moves
  · cases step_cases stepped with
    | called thread operation isIdle =>
        exact (Function.forall_update_iff state.before fun _ depth => depth = 0).mpr
          ⟨balanced.outside isIdle, fun other _ => balanced.clear other⟩
    | went thread moves performed => exact balanced.clear

theorem balanced_initial (h : RingHandler) :
    Balanced (initial h (.outside none) : State Thread Place RingHandler) :=
  ⟨placed_initial rfl h, fun _ => rfl, fun _ => rfl⟩

/-- As long as no `ring_s_pop` finds an item, every operation that returned has given the
lock back as often as it took it, and with no operation in progress the lock is free. -/
theorem lock_released (optHostid : Bool) (h : RingHandler)
    (state : State Thread Place RingHandler)
    (reached : Reachable (step (code optHostid)) FindsNothing (initial h (.outside none)) state) :
    (∀ thread, isOutside (state.place thread) = true →
        state.mutex.depth thread = state.before thread) ∧
      ((∀ thread, isOutside (state.place thread) = true) → state.mutex = .free) := by
  have balanced : Balanced state := reached.invariant (balanced_initial h)
    (fun _ _ _ balanced nothing stepped => balanced_step balanced nothing stepped)
  constructor
  · intro thread outside
    rw [balanced.outside outside, balanced.clear thread]
  · intro outside
    exact Mutex.free_of_depth (fun thread => balanced.outside (outside thread))

end Runs

private def ring : RingHandler := ringInit (fun _ => 0) 3

private def packet : Operation := .push (some [69]) 1 7

/-- Thread 1 sleeps on the empty ring until thread 0 has pushed. -/
private def handover : List (Event Nat Operation) :=
  [.call 1 .popCondblock, .go 1, .go 1, .call 0 packet, .go 0, .go 0, .go 0, .go 0, .go 1, .go 1,
    .go 1, .go 1]

private def handedOver : State Nat Place RingHandler :=
  (run (step (code false)) (initial ring (.outside none)) handover).getD (initial ring (.outside none))

theorem lock_released_handover :
    handedOver.place 1 = .outside (some (.popCondblock, ⟨.ok, some ⟨some ⟨1, [69]⟩, 1, 7⟩⟩)) ∧
      handedOver.mutex.depth 1 = handedOver.before 1 :=
  ⟨rfl, (lock_released false ring handedOver (reachable_of_meets handover .start (by decide))).1 1
    rfl⟩

/-- Thread false pushes a packet and takes it back with `ring_s_pop`. -/
private def takenBack : List (Event Bool Operation) :=
  [.call false packet, .go false, .go false, .go false, .go false,
    .call false .sPop, .go false, .go false, .go false, .go false, .go false]

/-- Both threads are outside, and the lock is held for good. -/
theorem lock_kept_by_s_pop : ∃ state,
    Reachable (step (code false)) (fun _ _ => True) (initial ring (.outside none)) state ∧
      (∀ thread, isOutside (state.place thread) = true) ∧
      state.mutex.depth false ≠ state.before false ∧ state.mutex ≠ .free := by
  have replayed : run (step (code false)) (initial ring (.outside none)) takenBack =
      some ((run (step (code false)) (initial ring (.outside none)) takenBack).getD
        (initial ring (.outside none))) := rfl
  refine ⟨_, reachable_of_run takenBack .start replayed, ?_, ?_, ?_⟩
  · intro thread
    cases thread <;> rfl
  · decide
  · decide

/-! ### The calls in one order

Between its comparison and its move a thread holds the lock, so each operation acts on
the ring at one moment, as the same call alone would. -/

/-- The call without the lock; both `s` pops move what `ring_pop` moves. -/
def counterpart : Operation → Ring.Operation
  | .push buffer size opaqueVal => .push buffer size opaqueVal
  | .sPush r => .sPush r
  | .pop | .sPop => .pop
  | .popCondblock | .sPopCondblock => .popCondblock

/-- What the comparison has found still holds. -/
def Ready (h : RingHandler) : Place → Prop
  | .again => h.pushPoint ≠ h.popPoint
  | .moving (.push _ _ _) | .moving (.sPush _) => (h.pushPoint + 1) % h.ringSize ≠ h.popPoint
  | .moving _ => h.pushPoint ≠ h.popPoint
  | _ => True

/-- The thread knows its answer. -/
def answered : Place → Option (Operation × Answer)
  | .leaving operation given => some (operation, given)
  | .outside last => last
  | _ => none

section Order

variable {optHostid : Bool} {h later : RingHandler} {place after : Place} {effect : Effect}

theorem refused_eq_false (operation : Operation) : refused operation = false := by
  cases operation with
  | push buffer size opaqueVal => exact rejectsSize_eq_false size
  | sPush r => exact rejectsSize_eq_false r.size
  | _ => rfl

theorem compare_ready (h : RingHandler) (operation : Operation) :
    Ready h (compare h operation).2 := by
  rw [compare_eq]
  split
  · cases operation <;> trivial
  · next free => cases operation <;> exact free

theorem answered_goesOn (operation : Operation) : answered (goesOn operation) = none := by
  cases operation <;> rfl

/-- An operation goes on behind its comparison, or ends there as its call would. -/
theorem compare_answer (h : RingHandler) (operation : Operation) (thread : Nat) :
    answered (compare h operation).2 = none ∨
      (compare h operation).2 =
          .leaving operation (answer optHostid h ⟨thread, counterpart operation⟩).2 ∧
        (answer optHostid h ⟨thread, counterpart operation⟩).1 = h := by
  rw [compare_eq]
  by_cases stuck : Stuck h operation
  · rw [if_pos stuck]
    cases operation with
    | push buffer size opaqueVal =>
        have full : (h.pushPoint + 1) % h.ringSize = h.popPoint := stuck
        simp [givesUp, answer, counterpart, ringPush, rejectsSize_eq_false, putSlot, full]
    | sPush r =>
        have full : (h.pushPoint + 1) % h.ringSize = h.popPoint := stuck
        simp [givesUp, answer, counterpart, ringSPush, rejectsSize_eq_false, putSlot, full]
    | pop =>
        have empty : h.pushPoint = h.popPoint := stuck
        simp [givesUp, answer, counterpart, ringPop, takeSlot, empty]
    | sPop =>
        have empty : h.pushPoint = h.popPoint := stuck
        simp [givesUp, answer, counterpart, ringPop, takeSlot, empty]
    | popCondblock => exact .inl rfl
    | sPopCondblock => exact .inl rfl
  · rw [if_neg stuck]
    exact .inl (answered_goesOn operation)

theorem moving_answer {operation : Operation} (thread : Nat)
    (ready : Ready h (.moving operation)) :
    next optHostid h (.moving operation) =
      some (.none,
        .leaving operation (answer optHostid h ⟨thread, counterpart operation⟩).2,
        (answer optHostid h ⟨thread, counterpart operation⟩).1) := by
  cases operation with
  | push buffer size opaqueVal =>
      have space : (h.pushPoint + 1) % h.ringSize ≠ h.popPoint := ready
      simp [next, stored, answer, counterpart, ringPush, rejectsSize_eq_false, putSlot, space]
  | sPush r =>
      have space : (h.pushPoint + 1) % h.ringSize ≠ h.popPoint := ready
      simp [next, stored, answer, counterpart, ringSPush, rejectsSize_eq_false, putSlot, space]
  | pop =>
      have item : h.pushPoint ≠ h.popPoint := ready
      simp [next, stored, answer, counterpart, ringPop, takeSlot, item]
  | sPop =>
      have item : h.pushPoint ≠ h.popPoint := ready
      simp [next, stored, answer, counterpart, ringPop, takeSlot, item]
  | popCondblock =>
      have item : h.pushPoint ≠ h.popPoint := ready
      simp [next, stored, answer, counterpart, ringPopCondblock, takeSlot, item]
  | sPopCondblock =>
      have item : h.pushPoint ≠ h.popPoint := ready
      simp [next, stored, answer, counterpart, ringPopCondblock, takeSlot, item]

/-- A step either leaves the ring and all answers alone, or is the moment of one call. -/
theorem next_answer (thread : Nat) (ready : Ready h place)
    (moves : next optHostid h place = some (effect, after, later)) :
    (later = h ∧ (answered after = none ∨ answered after = answered place)) ∨
      ∃ operation, after = .leaving operation
          (answer optHostid h ⟨thread, counterpart operation⟩).2 ∧
        later = (answer optHostid h ⟨thread, counterpart operation⟩).1 := by
  cases place with
  | outside last => cases moves
  | called operation =>
      rw [next, refused_eq_false, if_neg Bool.false_ne_true] at moves
      cases moves
      exact .inl ⟨rfl, .inl rfl⟩
  | comparing operation =>
      cases moves
      rcases @compare_answer optHostid h operation thread with goesOn | ⟨ends, same⟩
      · exact .inl ⟨rfl, .inl goesOn⟩
      · exact .inr ⟨operation, ends, same.symm⟩
  | asleep operation =>
      cases moves
      exact .inl ⟨rfl, .inl rfl⟩
  | again =>
      cases moves
      exact .inl ⟨rfl, .inl rfl⟩
  | moving operation =>
      rw [moving_answer thread ready] at moves
      cases moves
      exact .inr ⟨operation, rfl, rfl⟩
  | leaving operation given =>
      cases moves
      exact .inl ⟨rfl, .inr rfl⟩

theorem next_ready (ready : Ready h place)
    (moves : next optHostid h place = some (effect, after, later)) : Ready later after := by
  cases place with
  | outside last => cases moves
  | called operation =>
      rw [next, refused_eq_false, if_neg Bool.false_ne_true] at moves
      cases moves
      trivial
  | comparing operation =>
      cases moves
      exact compare_ready h operation
  | asleep operation =>
      cases moves
      trivial
  | again =>
      cases moves
      exact ready
  | moving operation =>
      rw [moving_answer 0 ready] at moves
      cases moves
      trivial
  | leaving operation given =>
      cases moves
      trivial

theorem next_store (moves : next optHostid h place = some (effect, after, later)) :
    later = h ∨ 0 < level place := by
  cases place with
  | outside last => cases moves
  | called operation =>
      rw [next, refused_eq_false, if_neg Bool.false_ne_true] at moves
      cases moves
      exact .inl rfl
  | moving operation =>
      right
      rw [level]
      split <;> omega
  | _ =>
      cases moves
      exact .inl rfl

theorem ready_of_level (outside : level place = 0) : Ready h place := by
  cases place with
  | again => cases outside
  | moving operation =>
      rw [level] at outside
      split at outside <;> cases outside
  | _ => trivial

/-- The last call of a thread and its answer. -/
def lastOf (thread : Nat) (history : List (Call × Answer)) : Option (Call × Answer) :=
  (history.filter fun entry => entry.1.thread = thread).getLast?

theorem lastOf_concat (history : List (Call × Answer)) (entry : Call × Answer) :
    lastOf entry.1.thread (history ++ [entry]) = some entry := by
  simp [lastOf]

theorem lastOf_other {thread : Nat} {entry : Call × Answer} (different : entry.1.thread ≠ thread)
    (history : List (Call × Answer)) :
    lastOf thread (history ++ [entry]) = lastOf thread history := by
  simp [lastOf, different]

/-- The calls in `history`, one after the other, give the ring and every thread's answer. -/
structure Ordered (optHostid : Bool) (h : RingHandler) (state : State Nat Place RingHandler)
    (history : List (Call × Answer)) : Prop where
  replay : trace (answer optHostid) h (history.map Prod.fst) =
    (history.map Prod.snd, state.store)
  answers : ∀ thread operation given, answered (state.place thread) = some (operation, given) →
    lastOf thread history = some (⟨thread, counterpart operation⟩, given)

variable {state resulting : State Nat Place RingHandler} {history : List (Call × Answer)}

theorem ready_step (placed : Placed level state)
    (ready : ∀ thread, Ready state.store (state.place thread))
    (stepped : Stepped (code optHostid) state resulting) :
    ∀ thread, Ready resulting.store (resulting.place thread) := by
  cases stepped with
  | called thread operation isIdle =>
      exact (Function.forall_update_iff state.place fun _ place => Ready state.store place).mpr
        ⟨trivial, fun other _ => ready other⟩
  | @went thread effect place store mutex moves performed =>
      refine (Function.forall_update_iff state.place fun _ place => Ready store place).mpr
        ⟨next_ready (ready thread) moves, ?_⟩
      intro other different
      rcases next_store moves with unchanged | inside
      · rw [unchanged]
        exact ready other
      · -- the lock keeps every other thread away from the places that matter
        have outside : ¬ 0 < level (state.place other) :=
          fun deep => different (placed.exclusive deep inside)
        exact ready_of_level (Nat.eq_zero_of_not_pos outside)

theorem ordered_step (ready : ∀ thread, Ready state.store (state.place thread))
    (ordered : Ordered optHostid h state history)
    (stepped : Stepped (code optHostid) state resulting) :
    ∃ longer, Ordered optHostid h resulting longer := by
  cases stepped with
  | called thread operation isIdle =>
      refine ⟨history, ordered.replay, ?_⟩
      intro other known given knows
      by_cases same : other = thread
      · subst same
        simp only [Function.update_self] at knows
        cases knows
      · simp only [Function.update_of_ne same] at knows
        exact ordered.answers other known given knows
  | went thread moves performed =>
      rcases next_answer thread (ready thread) moves with ⟨unchanged, old⟩ | ⟨operation, left, acted⟩
      · refine ⟨history, ?_, ?_⟩
        · simp only [unchanged]
          exact ordered.replay
        · intro other known given knows
          by_cases same : other = thread
          · subst same
            simp only [Function.update_self] at knows
            rcases old with none | kept
            · rw [none] at knows
              cases knows
            · rw [kept] at knows
              exact ordered.answers other known given knows
          · simp only [Function.update_of_ne same] at knows
            exact ordered.answers other known given knows
      · -- this step is the moment of the call
        let call : Call := ⟨thread, counterpart operation⟩
        refine ⟨history ++ [(call, (answer optHostid state.store call).2)], ?_, ?_⟩
        · rw [List.map_append, List.map_append, List.map_singleton, List.map_singleton,
            trace_concat, ordered.replay, acted]
        · intro other known given knows
          by_cases same : other = thread
          · subst same
            simp only [Function.update_self, left] at knows
            cases knows
            exact lastOf_concat history (call, _)
          · simp only [Function.update_of_ne same] at knows
            rw [lastOf_other (Ne.symm same)]
            exact ordered.answers other known given knows

/-- What the order of the calls rests on. -/
structure InOrder (optHostid : Bool) (h : RingHandler) (state : State Nat Place RingHandler) :
    Prop where
  placed : Placed level state
  ready : ∀ thread, Ready state.store (state.place thread)
  order : ∃ history, Ordered optHostid h state history

theorem inOrder_initial (optHostid : Bool) (h : RingHandler) :
    InOrder optHostid h (initial h (.outside none)) := by
  constructor
  · exact placed_initial rfl h
  · intro thread
    trivial
  · refine ⟨[], rfl, ?_⟩
    intro thread operation given knows
    cases knows

theorem inOrder_step (inOrder : InOrder optHostid h state)
    (stepped : Stepped (code optHostid) state resulting) : InOrder optHostid h resulting := by
  obtain ⟨history, ordered⟩ := inOrder.order
  exact ⟨placed_step (levels optHostid) inOrder.placed stepped,
    ready_step inOrder.placed inOrder.ready stepped, ordered_step inOrder.ready ordered stepped⟩

/-- Every interleaving of the operations is some order of calls without the lock. -/
theorem calls_ordered {guard : State Nat Place RingHandler → Event Nat Operation → Prop}
    (reached : Reachable (step (code optHostid)) guard (initial h (.outside none)) state) :
    ∃ history, Ordered optHostid h state history :=
  (reached.invariant (inOrder_initial optHostid h)
    (fun _ _ _ inOrder _ stepped => inOrder_step inOrder (step_cases stepped))).order

end Order

end RingLock
end NatPorte
