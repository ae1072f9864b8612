import Mathlib.Algebra.BigOperators.Group.List.Basic
import Mathlib.Tactic.Linarith

/-!
# Checked arithmetic

Signed integers of 32 bits, where a value outside the range has no result.  A
checked computation is known by the condition under which it has a result and by
the result it then has; computations one after the other need both conditions.
A processor that does not check wraps a value around.  Squares that are added up
from zero stay in the range exactly when their sum does.
-/

namespace RPhoto.Library

/-- The largest signed integer of 32 bits. -/
def maxInt : Int := 2147483647

/-- The value is a signed integer of 32 bits. -/
def FitsInt (value : Int) : Prop := -maxInt - 1 ≤ value ∧ value ≤ maxInt

instance (value : Int) : Decidable (FitsInt value) := inferInstanceAs (Decidable (_ ∧ _))

def checked (value : Int) : Option Int := if FitsInt value then some value else none

variable {First Second : Type}

/-- The computation has a result exactly when the condition holds, and then this one. -/
def Computes (call : Option First) (fits : Prop) (value : First) : Prop :=
  ∀ result, call = some result ↔ fits ∧ result = value

namespace Computes

variable {call : Option First} {fits other : Prop} {value : First}

theorem eq_some_iff (computes : Computes call fits value) : call = some value ↔ fits := by
  rw [computes]
  exact and_iff_left rfl

theorem of_eq_some (found : call = some value) : Computes call True value := by
  intro result
  rw [found, Option.some.injEq, true_and]
  exact eq_comm

theorem of_eq_none (missing : call = none) (never : ¬fits) : Computes call fits value := by
  intro result
  rw [missing]
  exact iff_of_false (Option.some_ne_none result).symm fun both => never both.1

theorem congr (computes : Computes call fits value) (same : fits ↔ other) :
    Computes call other value := by
  intro result
  rw [computes, same]

theorem bind {next : First → Option Second} {nextFits : Prop} {last : Second}
    (computes : Computes call fits value) (then_computes : Computes (next value) nextFits last) :
    Computes (call.bind next) (fits ∧ nextFits) last := by
  intro result
  rw [Option.bind_eq_some_iff]
  constructor
  · rintro ⟨middle, before, after⟩
    obtain ⟨holds, rfl⟩ := (computes middle).mp before
    obtain ⟨nextHolds, rfl⟩ := (then_computes result).mp after
    exact ⟨⟨holds, nextHolds⟩, rfl⟩
  · rintro ⟨⟨holds, nextHolds⟩, rfl⟩
    exact ⟨value, computes.eq_some_iff.mpr holds, then_computes.eq_some_iff.mpr nextHolds⟩

/-- What holds of a result. -/
theorem exists_iff (computes : Computes call fits value) (holds : First → Prop) :
    (∃ result, call = some result ∧ holds result) ↔ fits ∧ holds value := by
  constructor
  · rintro ⟨result, found, held⟩
    obtain ⟨fit, rfl⟩ := (computes result).mp found
    exact ⟨fit, held⟩
  · rintro ⟨fit, held⟩
    exact ⟨value, computes.eq_some_iff.mpr fit, held⟩

/-- A result that is used without a further check. -/
theorem map (computes : Computes call fits value) (use : First → Second) :
    Computes (call.map use) fits (use value) := by
  rw [Option.map_eq_bind]
  exact (@bind _ _ _ _ _ (some ∘ use) _ _ computes (of_eq_some rfl)).congr (and_iff_left trivial)

end Computes

theorem checked_computes (value : Int) : Computes (checked value) (FitsInt value) value := by
  intro result
  unfold checked
  rw [Option.ite_none_right_eq_some, Option.some.injEq]
  exact and_congr_right fun _ => eq_comm

/-! ## Values outside the range -/

/-- What a sum or a product leaves in 32 bits. -/
def wrapped (value : Int) : Int := value.bmod 4294967296

/-- What a conversion from a real number leaves: a value outside the range becomes the least. -/
def converted (value : Int) : Int := if FitsInt value then value else -maxInt - 1

theorem wrapped_of_fits {value : Int} (fits : FitsInt value) : wrapped value = value := by
  unfold FitsInt maxInt at fits
  exact Int.bmod_eq_of_le (by omega) (by omega)

theorem converted_of_checked {value result : Int} (found : checked value = some result) :
    converted value = result := by
  obtain ⟨fits, rfl⟩ := (checked_computes value result).mp found
  exact if_pos fits

/-! ## Sums of squares -/

/-- Add the squares of differences to a sum. -/
def addSquares : Int → List Int → Option Int
  | sum, [] => some sum
  | sum, difference :: rest =>
      (checked difference).bind fun difference =>
        (checked (difference * difference)).bind fun square =>
          (checked (sum + square)).bind fun sum => addSquares sum rest

/-- The sum of the squares. -/
def squares (differences : List Int) : Int :=
  (differences.map fun difference => difference * difference).sum

@[simp] theorem squares_nil : squares [] = 0 := rfl

@[simp] theorem squares_cons (difference : Int) (rest : List Int) :
    squares (difference :: rest) = difference * difference + squares rest := by
  rw [squares, List.map_cons, List.sum_cons, squares]

theorem squares_nonneg (differences : List Int) : 0 ≤ squares differences := by
  induction differences with
  | nil => exact le_rfl
  | cons difference rest ih =>
      rw [squares_cons]
      exact add_nonneg (mul_self_nonneg difference) ih

/-- A square is at least as large as its root. -/
theorem fitsInt_of_square {difference : Int} (fits : difference * difference ≤ maxInt) :
    FitsInt difference ∧ FitsInt (difference * difference) := by
  have square := mul_self_nonneg difference
  unfold FitsInt maxInt at *
  refine ⟨⟨?_, ?_⟩, by omega, fits⟩ <;> nlinarith

theorem addSquares_cons (sum difference : Int) (rest : List Int) {fits : Prop} {value : Int}
    (later : Computes (addSquares (sum + difference * difference) rest) fits value) :
    Computes (addSquares sum (difference :: rest))
      (FitsInt difference ∧ FitsInt (difference * difference) ∧
        FitsInt (sum + difference * difference) ∧ fits) value :=
  (checked_computes difference).bind ((checked_computes _).bind ((checked_computes _).bind later))

/-- The sum of all squares tells whether every step stays in the range. -/
theorem addSquares_computes {sum : Int} (nonneg : 0 ≤ sum) (fits : sum ≤ maxInt)
    (differences : List Int) :
    Computes (addSquares sum differences) (sum + squares differences ≤ maxInt)
      (sum + squares differences) := by
  induction differences generalizing sum with
  | nil =>
      rw [squares_nil, add_zero]
      exact (Computes.of_eq_some rfl).congr (iff_of_true trivial fits)
  | cons difference rest ih =>
      have square := mul_self_nonneg difference
      have more := squares_nonneg rest
      rw [squares_cons, ← add_assoc]
      by_cases small : sum + difference * difference ≤ maxInt
      · have own := fitsInt_of_square (show difference * difference ≤ maxInt by omega)
        have whole : FitsInt (sum + difference * difference) :=
          ⟨by unfold maxInt; omega, small⟩
        refine (addSquares_cons sum difference rest (ih (by omega) small)).congr ?_
        exact ⟨fun all => all.2.2.2, fun later => ⟨own.1, own.2, whole, later⟩⟩
      · have never : ¬FitsInt (sum + difference * difference) := fun whole => small whole.2
        have missing : Computes ((checked (sum + difference * difference)).bind fun sum =>
            addSquares sum rest) False (sum + difference * difference + squares rest) := by
          refine Computes.of_eq_none ?_ not_false
          rw [checked, if_neg never, Option.bind_none]
        have turn : Computes (addSquares sum (difference :: rest)) _ _ :=
          (checked_computes difference).bind ((checked_computes _).bind missing)
        exact turn.congr (iff_of_false (fun all => all.2.2) (by omega))

end RPhoto.Library
