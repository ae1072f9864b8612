import Mathlib.Data.List.Basic
import RPhoto.Library.Run

/-!
# Recorded conditions

States that keep a growing record of what was done in them.  A condition on the
entries of the record is assumed once, of everything a run adds to the record; a
step that keeps an invariant under the condition passes both on.
-/

namespace RPhoto.Library

variable {State Entry : Type}

section Keeps

variable (record : State → List Entry) (Fine : Entry → Prop)

/-- What the record of one state adds to the record of an earlier one. -/
def added (first last : State) : List Entry :=
  (record last).drop (record first).length

/-- Every entry added between two states is fine. -/
def AllFine (first last : State) : Prop := ∀ entry ∈ added record first last, Fine entry

/--
Going from `first` to `last` extends the record, and leads from `Before` to
`After` when everything added is fine.
-/
structure Keeps (Before After : State → Prop) (first last : State) : Prop where
  grows : record first ++ added record first last = record last
  holds : AllFine record Fine first last → Before first → After last

variable {record Fine} {Before Middle After : State → Prop} {first middle last : State}

theorem added_of_append {entries : List Entry} (appended : record last = record first ++ entries) :
    added record first last = entries := by
  rw [added, appended, List.drop_left]

theorem added_self (state : State) : added record state state = [] :=
  added_of_append (List.append_nil _).symm

theorem added_trans (front : record first ++ added record first middle = record middle)
    (back : record middle ++ added record middle last = record last) :
    added record first last = added record first middle ++ added record middle last :=
  added_of_append (by rw [← List.append_assoc, front, back])

theorem Keeps.refl (state : State) (imp : Before state → After state) :
    Keeps record Fine Before After state state :=
  ⟨by rw [added_self, List.append_nil], fun _ => imp⟩

theorem Keeps.trans (front : Keeps record Fine Before Middle first middle)
    (back : Keeps record Fine Middle After middle last) :
    Keeps record Fine Before After first last := by
  have parts := added_trans front.grows back.grows
  refine ⟨by rw [parts, ← List.append_assoc, front.grows, back.grows], fun fine before => ?_⟩
  have frontFine : AllFine record Fine first middle :=
    fun entry member => fine entry (parts ▸ List.mem_append_left _ member)
  have backFine : AllFine record Fine middle last :=
    fun entry member => fine entry (parts ▸ List.mem_append_right _ member)
  exact back.holds backFine (front.holds frontFine before)

/-- A change that does not touch the record. -/
theorem Keeps.silent (same : record last = record first) (imp : Before first → After last) :
    Keeps record Fine Before After first last :=
  have appended : record last = record first ++ [] := by rw [same, List.append_nil]
  ⟨by rw [added_of_append appended, same, List.append_nil], fun _ => imp⟩

/-- A change that adds one entry; the entry is known to be fine. -/
theorem Keeps.entry {entry : Entry} (appended : record last = record first ++ [entry])
    (imp : Fine entry → Before first → After last) :
    Keeps record Fine Before After first last where
  grows := by rw [added_of_append appended, appended]
  holds := fun fine => imp (fine entry (by simp [added_of_append appended]))

theorem Keeps.mono {Before' After' : State → Prop}
    (keeps : Keeps record Fine Before After first last)
    (before : Before' first → Before first) (after : After last → After' last) :
    Keeps record Fine Before' After' first last :=
  ⟨keeps.grows, fun fine known => after (keeps.holds fine (before known))⟩

/-- A fact that does not depend on the state is carried along. -/
theorem Keeps.carry (keeps : Keeps record Fine Before After first last) (fact : Prop) :
    Keeps record Fine (fun state => Before state ∧ fact) (fun state => After state ∧ fact)
      first last :=
  ⟨keeps.grows, fun fine known => ⟨keeps.holds fine known.1, known.2⟩⟩

/-- What each of several starting points leads to, their union leads to. -/
theorem Keeps.union {Index : Type} [Nonempty Index] {Start : Index → State → Prop}
    (each : ∀ index, Keeps record Fine (Start index) After first last) :
    Keeps record Fine (fun state => ∃ index, Start index state) After first last :=
  ⟨(each (Classical.arbitrary Index)).grows, fun fine ⟨index, known⟩ =>
    (each index).holds fine known⟩

end Keeps

/-- Along a run whose steps keep an invariant, fine additions give the invariant. -/
theorem Run.keeps {Event : Type} {step : Event → State → Option State}
    {guard : Event → State → Prop} {record : State → List Entry} {Fine : Entry → Prop}
    {Invariant : State → Prop}
    (keeps : ∀ {event : Event} {before after : State},
      guard event before → step event before = some after →
        Keeps record Fine Invariant Invariant before after)
    {first last : State} (run : Run step guard first last) :
    Keeps record Fine Invariant Invariant first last := by
  induction run with
  | refl => exact .refl _ id
  | tail event _ admitted executed ih => exact ih.trans (keeps admitted executed)

end RPhoto.Library
