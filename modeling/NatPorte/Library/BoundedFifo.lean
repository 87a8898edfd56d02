import NatPorte.Library.StepSystem

/-
Bounded first-in first-out queues.

The bound is part of the queue, so an overfull queue cannot be built.  The
history theorem compares the pushes a run accepted with the items it handed
out: the difference is exactly what is still queued.
-/

structure BoundedFifo (Item : Type) (capacity : Nat) where
  items : List Item
  bounded : items.length ≤ capacity

namespace BoundedFifo

variable {Item : Type} {capacity : Nat}

def empty : BoundedFifo Item capacity := ⟨[], Nat.zero_le capacity⟩

inductive Action (Item : Type)
  | push (item : Item)
  | pop

inductive Outcome (Item : Type)
  | accepted
  | refused
  | popped (item : Item)
  | empty

/-- A full queue refuses and an empty one reports so; neither changes. -/
def step (queue : BoundedFifo Item capacity) :
    Action Item → BoundedFifo Item capacity × Outcome Item
  | .push item =>
      if room : queue.items.length < capacity then
        (⟨queue.items ++ [item], by rw [List.length_append]; exact room⟩, .accepted)
      else (queue, .refused)
  | .pop =>
      match found : queue.items with
      | [] => (queue, .empty)
      | item :: rest =>
          (⟨rest, by
            have bound := queue.bounded
            rw [found, List.length_cons] at bound
            omega⟩, .popped item)

theorem step_push_accepted (queue : BoundedFifo Item capacity) (item : Item)
    (room : queue.items.length < capacity) :
    (queue.step (.push item)).2 = .accepted ∧
      (queue.step (.push item)).1.items = queue.items ++ [item] := by
  simp only [step, dif_pos room, and_self]

theorem step_push_refused (queue : BoundedFifo Item capacity) (item : Item)
    (full : ¬queue.items.length < capacity) :
    queue.step (.push item) = (queue, .refused) := by
  simp only [step, dif_neg full]

theorem step_pop_empty (queue : BoundedFifo Item capacity) (none : queue.items = []) :
    queue.step .pop = (queue, .empty) := by
  obtain ⟨items, bounded⟩ := queue
  cases none
  rfl

theorem step_pop_cons (queue : BoundedFifo Item capacity) {item : Item} {rest : List Item}
    (front : queue.items = item :: rest) :
    (queue.step .pop).2 = .popped item ∧ (queue.step .pop).1.items = rest := by
  obtain ⟨items, bounded⟩ := queue
  cases front
  exact ⟨rfl, rfl⟩

/-- The items of the pushes that were accepted, oldest first. -/
def acceptedItems : List (Action Item) → List (Outcome Item) → List Item
  | .push item :: actions, .accepted :: outcomes => item :: acceptedItems actions outcomes
  | _ :: actions, _ :: outcomes => acceptedItems actions outcomes
  | _, _ => []

def poppedItems : List (Outcome Item) → List Item
  | [] => []
  | .popped item :: outcomes => item :: poppedItems outcomes
  | _ :: outcomes => poppedItems outcomes

/-- One step moves an item from the accepted side to the popped side or leaves
both alone; the induction carries the items still queued. -/
theorem history (actions : List (Action Item)) :
    ∀ queue : BoundedFifo Item capacity,
      queue.items ++ acceptedItems actions (StepSystem.trace step queue actions).1 =
        poppedItems (StepSystem.trace step queue actions).1 ++
          (StepSystem.trace step queue actions).2.items := by
  induction actions with
  | nil =>
      intro queue
      exact List.append_nil queue.items
  | cons action rest ih =>
      intro queue
      have later := ih (queue.step action).1
      cases action with
      | push item =>
          by_cases room : queue.items.length < capacity
          · obtain ⟨answer, grown⟩ := queue.step_push_accepted item room
            simp only [StepSystem.trace, answer, acceptedItems, poppedItems]
            rw [grown, List.append_assoc] at later
            exact later
          · have refused := queue.step_push_refused item room
            rw [refused] at later
            simp only [StepSystem.trace, refused, acceptedItems, poppedItems]
            exact later
      | pop =>
          cases front : queue.items with
          | nil =>
              have still := queue.step_pop_empty front
              rw [still, front] at later
              simp only [StepSystem.trace, still, acceptedItems, poppedItems]
              exact later
          | cons item others =>
              obtain ⟨answer, shrunk⟩ := queue.step_pop_cons front
              rw [shrunk] at later
              simp only [StepSystem.trace, answer, acceptedItems, poppedItems,
                List.cons_append]
              exact congrArg (List.cons item) later

theorem popped_prefix_accepted (actions : List (Action Item)) :
    poppedItems (StepSystem.trace step (empty : BoundedFifo Item capacity) actions).1 <+:
      acceptedItems actions (StepSystem.trace step (empty : BoundedFifo Item capacity) actions).1 :=
  ⟨_, (history actions empty).symm⟩

end BoundedFifo
