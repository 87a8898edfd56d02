/-
Labelled step systems with partial steps.

A step function refuses an event by returning `none`.  Reachability carries a
guard on the state before each step, so a theorem about guarded runs names
exactly the inputs it needs.  The second half replays total machines that
answer every input with one output, and compares two of them by a simulation.
-/

namespace StepSystem

variable {State Event : Type}

/-- Replay events in order; the first refused event refuses the whole run. -/
def run (step : State → Event → Option State) : State → List Event → Option State
  | state, [] => some state
  | state, event :: rest =>
      match step state event with
      | none => none
      | some after => run step after rest

/-- States reached from `start` by steps whose guard held when they were taken. -/
inductive Reachable (step : State → Event → Option State)
    (guard : State → Event → Prop) (start : State) : State → Prop
  | start : Reachable step guard start start
  | next {before after : State} (event : Event) :
      Reachable step guard start before → guard before event →
      step before event = some after → Reachable step guard start after

variable {step : State → Event → Option State} {guard : State → Event → Prop} {start : State}

theorem Reachable.invariant {Invariant : State → Prop}
    (atStart : Invariant start)
    (preserved : ∀ before event after, Invariant before → guard before event →
      step before event = some after → Invariant after)
    {state : State} (reached : Reachable step guard start state) : Invariant state := by
  induction reached with
  | start => exact atStart
  | next event _ guarded stepped ih => exact preserved _ event _ ih guarded stepped

theorem run_step {before middle : State} {event : Event} (stepped : step before event = some middle)
    (rest : List Event) : run step before (event :: rest) = run step middle rest := by
  rw [run, stepped]

/-- Every step of a replay meets the guard. -/
def meets (step : State → Event → Option State) (guard : State → Event → Prop)
    [∀ state event, Decidable (guard state event)] : State → List Event → Bool
  | _, [] => true
  | state, event :: rest =>
      decide (guard state event) &&
        match step state event with
        | none => true
        | some after => meets step guard after rest

theorem reachable_of_meets [∀ state event, Decidable (guard state event)] (events : List Event)
    {before : State} (reached : Reachable step guard start before)
    (allowed : meets step guard before events = true) :
    Reachable step guard start ((run step before events).getD before) := by
  suffices replayed : ∀ after, run step before events = some after →
      Reachable step guard start after by
    cases result : run step before events with
    | none => exact reached
    | some after => exact replayed after result
  induction events generalizing before with
  | nil =>
      intro after replayed
      cases replayed
      exact reached
  | cons event rest ih =>
      intro after replayed
      rw [meets, Bool.and_eq_true, decide_eq_true_eq] at allowed
      rw [run] at replayed
      cases stepped : step before event with
      | none =>
          rw [stepped] at replayed
          cases replayed
      | some middle =>
          rw [stepped] at replayed allowed
          exact ih (.next event reached allowed.1 stepped) allowed.2 after replayed

theorem meets_trivial (events : List Event) (before : State) :
    meets step (fun _ _ => True) before events = true := by
  induction events generalizing before with
  | nil => rfl
  | cons event rest ih =>
      rw [meets, Bool.and_eq_true]
      refine ⟨rfl, ?_⟩
      cases step before event with
      | none => rfl
      | some after => exact ih after

/-- Every property of unguarded reachability can be refuted by one replayed run. -/
theorem reachable_of_run (events : List Event) {before after : State}
    (reached : Reachable step (fun _ _ => True) start before)
    (replayed : run step before events = some after) :
    Reachable step (fun _ _ => True) start after := by
  have result := reachable_of_meets events reached (meets_trivial events before)
  rw [replayed] at result
  exact result

/-- A run in which every step decreases a measure is no longer than the measure. -/
theorem run_length_le {measure : State → Nat} {Internal : Event → Prop}
    (decreases : ∀ before event after, Internal event → step before event = some after →
      measure after < measure before) (events : List Event) :
    ∀ before after, (∀ event ∈ events, Internal event) → run step before events = some after →
      events.length + measure after ≤ measure before := by
  induction events with
  | nil =>
      intro before after _ replayed
      cases replayed
      exact Nat.le_of_eq (Nat.zero_add _)
  | cons event rest ih =>
      intro before after internal replayed
      rw [run] at replayed
      cases stepped : step before event with
      | none =>
          rw [stepped] at replayed
          cases replayed
      | some middle =>
          rw [stepped] at replayed
          have less := decreases before event middle (internal event List.mem_cons_self) stepped
          have later := ih middle after
            (fun event member => internal event (List.mem_cons_of_mem _ member)) replayed
          rw [List.length_cons]
          omega

variable {Machine Spec Input Output : Type}

/-- Outputs in input order, and the state the machine is left in. -/
def trace (answer : Machine → Input → Machine × Output) :
    Machine → List Input → List Output × Machine
  | machine, [] => ([], machine)
  | machine, input :: rest =>
      let (after, output) := answer machine input
      let (outputs, final) := trace answer after rest
      (output :: outputs, final)

theorem trace_concat (answer : Machine → Input → Machine × Output) (inputs : List Input)
    (input : Input) (machine : Machine) :
    trace answer machine (inputs ++ [input]) =
      ((trace answer machine inputs).1 ++ [(answer (trace answer machine inputs).2 input).2],
        (answer (trace answer machine inputs).2 input).1) := by
  induction inputs generalizing machine with
  | nil => rfl
  | cons first rest ih =>
      have later := ih (answer machine first).1
      change ((answer machine first).2 ::
        (trace answer (answer machine first).1 (rest ++ [input])).1,
        (trace answer (answer machine first).1 (rest ++ [input])).2) = _
      rw [later]
      rfl

/-- A step-for-step simulation: related states give the same answer and stay
related. -/
structure Simulates (concrete : Machine → Input → Machine × Output)
    (abstract : Spec → Input → Spec × Output) (related : Machine → Spec → Prop) : Prop where
  answers : ∀ machine spec input, related machine spec →
    (concrete machine input).2 = (abstract spec input).2
  stays : ∀ machine spec input, related machine spec →
    related (concrete machine input).1 (abstract spec input).1

theorem Simulates.trace {concrete : Machine → Input → Machine × Output}
    {abstract : Spec → Input → Spec × Output} {related : Machine → Spec → Prop}
    (simulates : Simulates concrete abstract related) (inputs : List Input) :
    ∀ machine spec, related machine spec →
      (StepSystem.trace concrete machine inputs).1 = (StepSystem.trace abstract spec inputs).1 ∧
      related (StepSystem.trace concrete machine inputs).2
        (StepSystem.trace abstract spec inputs).2 := by
  induction inputs with
  | nil =>
      intro machine spec matched
      exact ⟨rfl, matched⟩
  | cons input rest ih =>
      intro machine spec matched
      have later := ih _ _ (simulates.stays machine spec input matched)
      refine ⟨?_, later.2⟩
      change (concrete machine input).2 :: _ = (abstract spec input).2 :: _
      rw [simulates.answers machine spec input matched, later.1]

/-- Outputs in input order, unless some input is not answered. -/
def replay (answer : Machine → Input → Option (Machine × Output)) :
    Machine → List Input → Option (Machine × List Output)
  | machine, [] => some (machine, [])
  | machine, input :: rest => do
      let (after, output) ← answer machine input
      let (final, outputs) ← replay answer after rest
      some (final, output :: outputs)

/-- Whatever the abstract machine answers, the concrete one answers too; `left` inputs
are still to come. -/
def Follows (concrete : Machine → Input → Option (Machine × Output))
    (abstract : Spec → Input → Option (Spec × Output)) (related : Nat → Machine → Spec → Prop) :
    Prop :=
  ∀ left machine spec input spec' output, related (left + 1) machine spec →
    abstract spec input = some (spec', output) →
    ∃ machine', concrete machine input = some (machine', output) ∧ related left machine' spec'

theorem Follows.replay {concrete : Machine → Input → Option (Machine × Output)}
    {abstract : Spec → Input → Option (Spec × Output)} {related : Nat → Machine → Spec → Prop}
    (follows : Follows concrete abstract related) (inputs : List Input) :
    ∀ machine spec final outputs, related inputs.length machine spec →
      StepSystem.replay abstract spec inputs = some (final, outputs) →
      ∃ machine', StepSystem.replay concrete machine inputs = some (machine', outputs) ∧
        related 0 machine' final := by
  induction inputs with
  | nil =>
      intro machine spec final outputs matched answered
      cases answered
      exact ⟨machine, rfl, matched⟩
  | cons input rest ih =>
      intro machine spec final outputs matched answered
      simp only [StepSystem.replay, Option.bind_eq_bind, Option.bind_eq_some_iff, Prod.exists,
        Option.some.injEq, Prod.mk.injEq] at answered
      obtain ⟨spec', output, first, final', others, later, rfl, rfl⟩ := answered
      obtain ⟨machine', step, matched'⟩ := follows _ machine spec input spec' output matched first
      obtain ⟨machine'', steps, matched''⟩ := ih machine' spec' final' others matched' later
      refine ⟨machine'', ?_, matched''⟩
      rw [StepSystem.replay, step]
      simp only [Option.bind_eq_bind, Option.bind_some, steps]

end StepSystem
