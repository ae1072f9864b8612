import Mathlib.Data.List.Basic
import RPhoto.Library.Run

/-!
# Holding a resource

A resource is held by one party at most.  Uses of it are in turn when it is taken
only while it is free and given back only while it is held.  A state that
remembers in a bit whether it holds the resource, and makes exactly the uses that
a change of the bit asks for, uses the resource in turn along every run.
-/

namespace RPhoto.Library

/-- A use of a resource. -/
inductive Use where
  | take
  | giveBack
deriving DecidableEq, Repr

/-- Whether the resource is held after uses in turn; a use out of turn has no result. -/
def heldAfter : Bool → List Use → Option Bool
  | held, [] => some held
  | false, .take :: rest => heldAfter true rest
  | true, .giveBack :: rest => heldAfter false rest
  | false, .giveBack :: _ | true, .take :: _ => none

/-- How often the resource is taken minus how often it is given back. -/
def balance (uses : List Use) : Int := (uses.count .take : Int) - (uses.count .giveBack : Int)

/-- The uses that a change between free and held asks for. -/
def turn : Bool → Bool → List Use
  | false, true => [.take]
  | true, false => [.giveBack]
  | false, false | true, true => []

section Uses

variable {held after : Bool} {uses : List Use}

@[simp] theorem balance_nil : balance [] = 0 := rfl

theorem balance_cons_take (uses : List Use) : balance (.take :: uses) = balance uses + 1 := by
  simp only [balance, List.count_cons_self, List.count_cons_of_ne (show Use.take ≠ .giveBack by
    decide)]
  omega

theorem balance_cons_giveBack (uses : List Use) :
    balance (.giveBack :: uses) = balance uses - 1 := by
  simp only [balance, List.count_cons_self, List.count_cons_of_ne (show Use.giveBack ≠ .take by
    decide)]
  omega

theorem heldAfter_append (held : Bool) (first second : List Use) :
    heldAfter held (first ++ second) =
      (heldAfter held first).bind fun middle => heldAfter middle second := by
  induction first generalizing held with
  | nil => rfl
  | cons use rest ih =>
      cases held with
      | false =>
          cases use with
          | take => exact ih true
          | giveBack => rfl
      | true =>
          cases use with
          | take => rfl
          | giveBack => exact ih false

@[simp] theorem heldAfter_turn (before after : Bool) :
    heldAfter before (turn before after) = some after := by
  cases before <;> cases after <;> rfl

/-- Uses in turn are balanced up to what is held before and after them. -/
theorem balance_of_heldAfter (inTurn : heldAfter held uses = some after) :
    balance uses + (if held then 1 else 0) = if after then 1 else 0 := by
  induction uses generalizing held with
  | nil =>
      cases inTurn
      exact Int.zero_add _
  | cons use rest ih =>
      cases held with
      | false =>
          cases use with
          | take =>
              have later := ih inTurn
              rw [balance_cons_take]
              simpa using later
          | giveBack => cases inTurn
      | true =>
          cases use with
          | take => cases inTurn
          | giveBack =>
              have later := ih inTurn
              rw [balance_cons_giveBack]
              simpa using later

/-- From a free resource, every beginning of uses in turn has taken it once more at most. -/
theorem balance_of_prefix (inTurn : heldAfter false uses = some after) {begun : List Use}
    (beginning : begun <+: uses) : balance begun = 0 ∨ balance begun = 1 := by
  obtain ⟨rest, rfl⟩ := beginning
  rw [heldAfter_append] at inTurn
  obtain ⟨middle, before, _⟩ := Option.bind_eq_some_iff.mp inTurn
  have balanced := balance_of_heldAfter before
  cases middle with
  | false => exact .inl (by simpa using balanced)
  | true => exact .inr (by simpa using balanced)

end Uses

/-- A state with the uses that have been made so far. -/
structure Watched (State : Type) where
  state : State
  uses : List Use
deriving DecidableEq, Repr

namespace Watched

variable {State Event : Type}

/-- A change of the state that uses nothing. -/
def change (watched : Watched State) (method : State → State) : Watched State :=
  { watched with state := method watched.state }

/-- A change of the state with the uses that the change of the bit asks for. -/
def follow (held : State → Bool) (watched : Watched State) (next : State) : Watched State where
  state := next
  uses := watched.uses ++ turn (held watched.state) (held next)

/-- The uses are in turn, and the bit tells what is held after them. -/
def InTurn (held : State → Bool) (watched : Watched State) : Prop :=
  heldAfter false watched.uses = some (held watched.state)

variable {held : State → Bool} {watched : Watched State} {next : State}

theorem InTurn.follow (inTurn : watched.InTurn held) (next : State) :
    (watched.follow held next).InTurn held := by
  unfold InTurn Watched.follow
  rw [heldAfter_append, inTurn]
  exact heldAfter_turn ..

theorem InTurn.balance_eq (inTurn : watched.InTurn held) :
    balance watched.uses = if held watched.state then 1 else 0 := by
  simpa using balance_of_heldAfter inTurn

theorem InTurn.balance_one_iff (inTurn : watched.InTurn held) :
    balance watched.uses = 1 ↔ held watched.state = true := by
  rw [inTurn.balance_eq]
  cases held watched.state <;> decide

/-- A method that keeps the bit makes no use. -/
theorem change_eq_follow {method : State → State}
    (kept : held (method watched.state) = held watched.state) :
    watched.change method = watched.follow held (method watched.state) := by
  unfold change follow
  rw [kept]
  cases held watched.state <;> simp [turn]

@[simp] theorem follow_self (watched : Watched State) :
    watched.follow held watched.state = watched := by
  unfold follow
  cases held watched.state <;> simp [turn]

theorem follow_change {method : State → State} (kept : held (method next) = held next) :
    (watched.follow held next).change method = watched.follow held (method next) := by
  unfold change follow
  rw [kept]

theorem change_follow {method : State → State}
    (kept : held (method watched.state) = held watched.state) (next : State) :
    (watched.change method).follow held next = watched.follow held next := by
  unfold change follow
  rw [kept]

/-- A refused event is refused either way. -/
theorem follow_guarded {refused : Prop} [Decidable refused] {after : Watched State}
    (same : after = watched.follow held next) :
    (if refused then none else some after) =
      (if refused then none else some next).map (watched.follow held) := by
  subst same
  split <;> rfl

section Steps

/-- How a resource is used along the runs that begin without it; some events leave it free. -/
structure Disciplined (held : State → Bool)
    (step : Event → Watched State → Option (Watched State)) (leavesFree : Event → Prop) :
    Prop where
  balanced : ∀ {first : State} {last : Watched State}, held first = false →
    Run step (fun _ _ => True) ⟨first, []⟩ last →
      ∀ begun, begun <+: last.uses → balance begun = 0 ∨ balance begun = 1
  bit : ∀ {first : State} {last : Watched State}, held first = false →
    Run step (fun _ _ => True) ⟨first, []⟩ last →
      (balance last.uses = 1 ↔ held last.state = true)
  left : ∀ {first : State} {middle last : Watched State} {event : Event}, held first = false →
    Run step (fun _ _ => True) ⟨first, []⟩ middle → leavesFree event →
      step event middle = some last → balance last.uses = 0

variable {step : Event → Watched State → Option (Watched State)}
  {plain : Event → State → Option State} {guard : Event → Watched State → Prop}

/-- A step that follows the changes of the bit uses the resource in turn along every run. -/
theorem InTurn.run
    (follows : ∀ event watched,
      step event watched = (plain event watched.state).map (watched.follow held))
    {first last : Watched State} (run : Run step guard first last)
    (inTurn : first.InTurn held) : last.InTurn held := by
  refine run.invariant (fun {event before after} _ executed before => ?_) inTurn
  rw [follows] at executed
  obtain ⟨next, _, rfl⟩ := Option.map_eq_some_iff.mp executed
  exact before.follow next

theorem disciplined_of_follows {leavesFree : Event → Prop}
    (follows : ∀ event watched,
      step event watched = (plain event watched.state).map (watched.follow held))
    (clears : ∀ {event : Event} {before after : State}, leavesFree event →
      plain event before = some after → held after = false) :
    Disciplined held step leavesFree := by
  have start {first : State} (free : held first = false) :
      (⟨first, []⟩ : Watched State).InTurn held := congrArg some free.symm
  constructor
  · intro first last free run begun beginning
    exact balance_of_prefix (InTurn.run follows run (start free)) beginning
  · intro first last free run
    exact (InTurn.run follows run (start free)).balance_one_iff
  · intro first middle last event free run leaves executed
    have inTurn := InTurn.run follows run (start free)
    rw [follows] at executed
    obtain ⟨next, plainly, rfl⟩ := Option.map_eq_some_iff.mp executed
    rw [(inTurn.follow next).balance_eq]
    exact if_neg (Bool.eq_false_iff.mp (clears leaves plainly))

end Steps

end Watched

end RPhoto.Library
