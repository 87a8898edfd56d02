/-
Computations that record the memory ranges they touch.

A logged computation carries its value and the ranges it has read or written, in
order.  A program's logged twin computes the same value as the program; what it may
touch is then settled step by step, one equivalence for each way of combining.
-/

namespace Accesses

structure Range where
  start : Nat
  length : Nat
  deriving DecidableEq, Repr

def Range.Inside (range : Range) (size : Nat) : Prop :=
  ∀ offset, range.start ≤ offset → offset < range.start + range.length → offset < size

theorem Range.inside_iff (range : Range) (size : Nat) :
    range.Inside size ↔ range.length = 0 ∨ range.start + range.length ≤ size := by
  constructor
  · intro inside
    by_cases empty : range.length = 0
    · exact .inl empty
    · have last := inside (range.start + range.length - 1) (by omega) (by omega)
      omega
  · intro bound offset low high
    omega

structure Logged (Value : Type) where
  value : Value
  ranges : List Range

namespace Logged

variable {Value Next : Type}

instance : Monad Logged where
  pure value := { value := value, ranges := [] }
  bind first next :=
    { value := (next first.value).value, ranges := first.ranges ++ (next first.value).ranges }

def access (start length : Nat) (value : Value) : Logged Value :=
  { value := value, ranges := [{ start := start, length := length }] }

def Inside (size : Nat) (logged : Logged Value) : Prop :=
  ∀ range ∈ logged.ranges, range.Inside size

@[simp] theorem value_pure (value : Value) : (pure value : Logged Value).value = value := rfl

@[simp] theorem value_access (start length : Nat) (value : Value) :
    (access start length value).value = value := rfl

@[simp] theorem value_bind (first : Logged Value) (next : Value → Logged Next) :
    (first >>= next).value = (next first.value).value := rfl

@[simp] theorem value_ite (condition : Prop) [Decidable condition] (yes no : Logged Value) :
    (if condition then yes else no).value = if condition then yes.value else no.value :=
  apply_ite Logged.value condition yes no

theorem inside_pure (size : Nat) (value : Value) : Inside size (pure value) := by
  intro range member
  cases member

theorem inside_access (size start length : Nat) (value : Value) :
    Inside size (access start length value) ↔ length = 0 ∨ start + length ≤ size := by
  rw [Inside, access]
  simp only [List.mem_singleton, forall_eq]
  exact Range.inside_iff _ size

theorem inside_bind (size : Nat) (first : Logged Value) (next : Value → Logged Next) :
    Inside size (first >>= next) ↔ Inside size first ∧ Inside size (next first.value) := by
  change (∀ range ∈ first.ranges ++ (next first.value).ranges, range.Inside size) ↔ _
  simp only [List.mem_append, or_imp, forall_and]
  rfl

theorem inside_ite (size : Nat) (condition : Prop) [Decidable condition] (yes no : Logged Value) :
    Inside size (if condition then yes else no) ↔
      (condition → Inside size yes) ∧ (¬condition → Inside size no) := by
  by_cases holds : condition
  · simp only [holds, if_true, true_implies, not_true, false_implies, and_true]
  · simp only [holds, if_false, false_implies, not_false_iff, true_implies, true_and]

end Logged

end Accesses
