import Mathlib.Init

/-!
# Guarded runs of a partial step function

A step function may refuse an event in a state.  A guard names the events that
are considered in a state.  `Run step guard` is reachability by executed steps
whose events the guard admits; an invariant of such steps holds along every run.
-/

namespace RPhoto.Library

variable {State Event : Type}

/-- Reachability by finitely many executed steps, each admitted by the guard. -/
inductive Run (step : Event → State → Option State) (guard : Event → State → Prop) :
    State → State → Prop where
  | refl (state : State) : Run step guard state state
  | tail {first middle last : State} (event : Event)
      (before : Run step guard first middle)
      (admitted : guard event middle)
      (executed : step event middle = some last) :
      Run step guard first last

namespace Run

variable {step : Event → State → Option State} {guard : Event → State → Prop}

theorem single {first last : State} (event : Event) (admitted : guard event first)
    (executed : step event first = some last) : Run step guard first last :=
  .tail event (.refl first) admitted executed

theorem trans {first middle last : State} (before : Run step guard first middle)
    (after : Run step guard middle last) : Run step guard first last := by
  induction after with
  | refl => exact before
  | tail event _ admitted executed ih => exact .tail event ih admitted executed

/-- What every admitted step preserves holds along every run. -/
theorem invariant {Holds : State → Prop}
    (preserved : ∀ {event : Event} {before after : State},
      guard event before → step event before = some after → Holds before → Holds after)
    {first last : State} (run : Run step guard first last) (initial : Holds first) :
    Holds last := by
  induction run with
  | refl => exact initial
  | tail event _ admitted executed ih => exact preserved admitted executed ih

end Run

/-- Execute a list of events, refusing the list when one of them is refused. -/
def runEvents (step : Event → State → Option State) : List Event → State → Option State
  | [], state => some state
  | event :: rest, state => (step event state).bind (runEvents step rest)

/-- Every event of the list is admitted in the state it is executed in. -/
def Admitted (step : Event → State → Option State) (guard : Event → State → Prop) :
    List Event → State → Prop
  | [], _ => True
  | event :: rest, state =>
      guard event state ∧ ∀ next, step event state = some next → Admitted step guard rest next

/-- Guards that agree in every state admit the same lists. -/
theorem admitted_congr {step : Event → State → Option State} {guard other : Event → State → Prop}
    (same : ∀ event state, guard event state ↔ other event state) (events : List Event)
    (state : State) : Admitted step guard events state ↔ Admitted step other events state := by
  induction events generalizing state with
  | nil => exact Iff.rfl
  | cons event rest ih =>
      exact and_congr (same event state)
        (forall_congr' fun next => imp_congr_right fun _ => ih next)

/-- A guard that does not look at the state admits a list event by event. -/
theorem Admitted.of_forall {step : Event → State → Option State} {guard : Event → Prop}
    {events : List Event} (all : ∀ event ∈ events, guard event) (state : State) :
    Admitted step (fun event _ => guard event) events state := by
  induction events generalizing state with
  | nil => trivial
  | cons event rest ih =>
      exact ⟨all event List.mem_cons_self, fun next _ =>
        ih (fun other member => all other (List.mem_cons_of_mem _ member)) next⟩

/-- An executed list of admitted events is a run. -/
theorem Run.ofEvents {step : Event → State → Option State} {guard : Event → State → Prop}
    {events : List Event} {first last : State} (admitted : Admitted step guard events first)
    (executed : runEvents step events first = some last) : Run step guard first last := by
  induction events generalizing first with
  | nil =>
      cases executed
      exact .refl _
  | cons event rest ih =>
      obtain ⟨middle, here, there⟩ := Option.bind_eq_some_iff.mp executed
      exact (Run.single event admitted.1 here).trans (ih (admitted.2 middle here) there)

/-- Execute a list of events, refusing it when the guard does not admit one of them. -/
def checkedRun (step : Event → State → Option State) (guard : Event → State → Prop)
    [∀ event state, Decidable (guard event state)] : List Event → State → Option State
  | [], state => some state
  | event :: rest, state =>
      if guard event state then (step event state).bind (checkedRun step guard rest) else none

/-- A checked list of events is a run. -/
theorem Run.ofChecked {step : Event → State → Option State} {guard : Event → State → Prop}
    [∀ event state, Decidable (guard event state)] {events : List Event} {first last : State}
    (executed : checkedRun step guard events first = some last) :
    Run step guard first last := by
  induction events generalizing first with
  | nil =>
      cases executed
      exact .refl _
  | cons event rest ih =>
      obtain ⟨admitted, executed⟩ := Option.ite_none_right_eq_some.mp executed
      obtain ⟨middle, here, there⟩ := Option.bind_eq_some_iff.mp executed
      exact (Run.single event admitted here).trans (ih there)

end RPhoto.Library
