/-
Threads that share a store behind one recursive mutex.

A thread is idle or walks through the code of the operation it called; each step may
lock or unlock the mutex, and locking waits while another thread holds it.  Where the
places of the code have levels that follow its locking, every thread's depth is, in
every interleaving, the depth at its call plus the level of its place.
-/

import Mathlib.Logic.Function.Basic
import NatPorte.Library.StepSystem

namespace RecursiveMutex

/-- The owner has locked the mutex once and then `again` more times. -/
inductive Mutex (Thread : Type) where
  | free
  | held (owner : Thread) (again : Nat)
  deriving DecidableEq, Repr

inductive Effect where
  | none | lock | unlock
  deriving DecidableEq, Repr

/-- The level behind a step. -/
def Effect.Follows : Effect → Nat → Nat → Prop
  | .none, before, after => after = before
  | .lock, before, after => after = before + 1
  | .unlock, before, after => before = after + 1

variable {Thread : Type} [DecidableEq Thread]

namespace Mutex

def depth : Mutex Thread → Thread → Nat
  | .free, _ => 0
  | .held owner again, thread => if owner = thread then again + 1 else 0

/-- No answer while another thread holds the mutex. -/
def lock : Mutex Thread → Thread → Option (Mutex Thread)
  | .free, thread => some (.held thread 0)
  | .held owner again, thread => if owner = thread then some (.held owner (again + 1)) else none

/-- Unlocking what the thread does not hold is an error that changes nothing. -/
def unlock : Mutex Thread → Thread → Mutex Thread
  | .free, _ => .free
  | .held owner again, thread =>
      if owner = thread then
        match again with
        | 0 => .free
        | again + 1 => .held owner again
      else .held owner again

def perform (mutex : Mutex Thread) (thread : Thread) : Effect → Option (Mutex Thread)
  | .none => some mutex
  | .lock => mutex.lock thread
  | .unlock => some (mutex.unlock thread)

variable {mutex after : Mutex Thread} {thread other : Thread}

theorem lock_depth (locked : mutex.lock thread = some after) :
    after.depth thread = mutex.depth thread + 1 ∧
      ∀ other, other ≠ thread → after.depth other = mutex.depth other := by
  cases mutex with
  | free =>
      cases locked
      constructor
      · simp [depth]
      · intro other different
        simp [depth, different.symm]
  | held owner again =>
      rw [lock] at locked
      split at locked
      · next same =>
          cases locked
          constructor
          · simp [depth, same]
          · intro other different
            simp [depth, same, different.symm]
      · cases locked

theorem unlock_depth (holds : 0 < mutex.depth thread) :
    (mutex.unlock thread).depth thread + 1 = mutex.depth thread ∧
      ∀ other, other ≠ thread → (mutex.unlock thread).depth other = mutex.depth other := by
  cases mutex with
  | free => cases holds
  | held owner again =>
      by_cases same : owner = thread
      · subst same
        cases again with
        | zero =>
            constructor
            · simp [unlock, depth]
            · intro other different
              simp [unlock, depth, different.symm]
        | succ again =>
            constructor
            · simp [unlock, depth]
            · intro other different
              simp [unlock, depth, different.symm]
      · simp [depth, same] at holds

theorem perform_depth {effect : Effect} {base level next : Nat}
    (performed : mutex.perform thread effect = some after) (follows : effect.Follows level next)
    (deep : mutex.depth thread = base + level) :
    after.depth thread = base + next ∧
      ∀ other, other ≠ thread → after.depth other = mutex.depth other := by
  cases effect with
  | none =>
      cases performed
      change next = level at follows
      rw [follows]
      exact ⟨deep, fun other _ => rfl⟩
  | lock =>
      obtain ⟨deeper, others⟩ := lock_depth performed
      change next = level + 1 at follows
      rw [deeper, deep, follows]
      exact ⟨rfl, others⟩
  | unlock =>
      cases performed
      change level = next + 1 at follows
      have holds : 0 < mutex.depth thread := by omega
      obtain ⟨less, others⟩ := unlock_depth holds
      exact ⟨by omega, others⟩

theorem depth_exclusive (left : 0 < mutex.depth thread) (right : 0 < mutex.depth other) :
    thread = other := by
  cases mutex with
  | free => cases left
  | held owner again =>
      rw [depth] at left right
      split at left
      · next ownerLeft =>
          split at right
          · next ownerRight => exact ownerLeft.symm.trans ownerRight
          · cases right
      · cases left

theorem free_of_depth (none : ∀ thread, mutex.depth thread = 0) : mutex = .free := by
  cases mutex with
  | free => rfl
  | held owner again =>
      have owned := none owner
      rw [depth, if_pos rfl] at owned
      cases owned

end Mutex

structure Code (Place Operation Store : Type) where
  start : Operation → Place
  idle : Place → Bool
  next : Place → Store → Option (Effect × Place × Store)

structure State (Thread Place Store : Type) where
  mutex : Mutex Thread
  store : Store
  place : Thread → Place
  /-- the thread's depth when it made its last call -/
  before : Thread → Nat

inductive Event (Thread Operation : Type) where
  | call (thread : Thread) (operation : Operation)
  | go (thread : Thread)
  deriving DecidableEq, Repr

section Threads

variable {Place Operation Store : Type} (code : Code Place Operation Store)

def step (state : State Thread Place Store) :
    Event Thread Operation → Option (State Thread Place Store)
  | .call thread operation =>
      if code.idle (state.place thread) then
        some
          { state with
            place := Function.update state.place thread (code.start operation)
            before := Function.update state.before thread (state.mutex.depth thread) }
      else none
  | .go thread =>
      match code.next (state.place thread) state.store with
      | none => none
      | some (effect, place, store) =>
          match state.mutex.perform thread effect with
          | none => none
          | some mutex =>
              some
                { state with
                  mutex := mutex
                  store := store
                  place := Function.update state.place thread place }

/-- Nobody has called anything yet. -/
def initial (store : Store) (idle : Place) : State Thread Place Store :=
  { mutex := .free, store := store, place := fun _ => idle, before := fun _ => 0 }

/-- Every step of the code changes the level as it changes the depth. -/
structure Levels (level : Place → Nat) : Prop where
  start : ∀ operation, level (code.start operation) = 0
  follows : ∀ place store effect after next,
    code.next place store = some (effect, after, next) → effect.Follows (level place) (level after)

/-- What one step can be. -/
inductive Stepped (state : State Thread Place Store) : State Thread Place Store → Prop where
  | called (thread : Thread) (operation : Operation) (isIdle : code.idle (state.place thread)) :
      Stepped state
        { state with
          place := Function.update state.place thread (code.start operation)
          before := Function.update state.before thread (state.mutex.depth thread) }
  | went (thread : Thread) {effect : Effect} {place : Place} {store : Store}
      {mutex : Mutex Thread}
      (moves : code.next (state.place thread) state.store = some (effect, place, store))
      (performed : state.mutex.perform thread effect = some mutex) :
      Stepped state
        { state with
          mutex := mutex
          store := store
          place := Function.update state.place thread place }

variable {code} {state after : State Thread Place Store}

theorem step_cases {event : Event Thread Operation} (stepped : step code state event = some after) :
    Stepped code state after := by
  cases event with
  | call thread operation =>
      rw [step] at stepped
      split at stepped
      · next isIdle =>
          cases stepped
          exact .called thread operation isIdle
      · cases stepped
  | go thread =>
      rw [step] at stepped
      split at stepped
      · cases stepped
      · next moves =>
          split at stepped
          · cases stepped
          · next performed =>
              cases stepped
              exact .went thread moves performed

/-- What holds where a thread starts and where it goes on to holds of every thread. -/
theorem places_step (good : Place → Prop) {event : Event Thread Operation}
    (all : ∀ thread, good (state.place thread)) (start : ∀ operation, good (code.start operation))
    (moved : ∀ {thread : Thread} {effect : Effect} {place : Place} {store : Store},
      event = .go thread →
      code.next (state.place thread) state.store = some (effect, place, store) → good place)
    (stepped : step code state event = some after) : ∀ thread, good (after.place thread) := by
  cases event with
  | call thread operation =>
      rw [step] at stepped
      split at stepped
      · cases stepped
        exact (Function.forall_update_iff state.place fun _ place => good place).mpr
          ⟨start operation, fun other _ => all other⟩
      · cases stepped
  | go thread =>
      rw [step] at stepped
      split at stepped
      · cases stepped
      · next moves =>
          split at stepped
          · cases stepped
          · cases stepped
            exact (Function.forall_update_iff state.place fun _ place => good place).mpr
              ⟨moved rfl moves, fun other _ => all other⟩

/-- The depth of every thread, read off its place. -/
def Placed (level : Place → Nat) (state : State Thread Place Store) : Prop :=
  ∀ thread, state.mutex.depth thread = state.before thread + level (state.place thread)

theorem placed_initial {level : Place → Nat} {idle : Place} (outside : level idle = 0)
    (store : Store) : Placed level (initial store idle : State Thread Place Store) := by
  intro thread
  change 0 = 0 + level idle
  rw [outside]

theorem placed_step {level : Place → Nat} (levels : Levels code level)
    (placed : Placed level state) (stepped : Stepped code state after) : Placed level after := by
  intro other
  cases stepped with
  | called thread operation isIdle =>
      change state.mutex.depth other = Function.update state.before thread _ other +
        level (Function.update state.place thread (code.start operation) other)
      by_cases same : other = thread
      · subst same
        rw [Function.update_self, Function.update_self, levels.start operation]
        rfl
      · rw [Function.update_of_ne same, Function.update_of_ne same]
        exact placed other
  | @went thread effect place store mutex moves performed =>
      obtain ⟨moved, others⟩ := Mutex.perform_depth performed
        (levels.follows _ _ _ _ _ moves) (placed thread)
      change mutex.depth other =
        state.before other + level (Function.update state.place thread place other)
      by_cases same : other = thread
      · subst same
        rw [Function.update_self]
        exact moved
      · rw [Function.update_of_ne same, others other same]
        exact placed other

theorem placed_reachable {level : Place → Nat} (levels : Levels code level) {idle : Place}
    (outside : level idle = 0) {store : Store}
    {guard : State Thread Place Store → Event Thread Operation → Prop}
    (reached : StepSystem.Reachable (step code) guard (initial store idle) state) :
    Placed level state :=
  reached.invariant (placed_initial outside store)
    (fun _ _ _ placed _ stepped => placed_step levels placed (step_cases stepped))

theorem Placed.exclusive {level : Place → Nat} (placed : Placed level state)
    {left right : Thread} (leftInside : 0 < level (state.place left))
    (rightInside : 0 < level (state.place right)) : left = right := by
  have leftHolds : 0 < state.mutex.depth left := by
    rw [placed left]
    exact Nat.add_pos_right _ leftInside
  have rightHolds : 0 < state.mutex.depth right := by
    rw [placed right]
    exact Nat.add_pos_right _ rightInside
  exact Mutex.depth_exclusive leftHolds rightHolds

end Threads

end RecursiveMutex
