import Mathlib.Data.Nat.Init
import Mathlib.Tactic.Ring

/-!
# Reflections of an initial segment

`reflect n` reverses the numbers below `n` and keeps the others.  Reflecting the
places of a finer scale reflects the coarser places they belong to, and reverses
the position inside each reflected one.
-/

namespace RPhoto.Library

def reflect (count place : Nat) : Nat := if place < count then count - 1 - place else place

theorem reflect_of_lt {count place : Nat} (inside : place < count) :
    reflect count place = count - 1 - place := if_pos inside

theorem reflect_of_le {count place : Nat} (beyond : count ≤ place) :
    reflect count place = place := if_neg (Nat.not_lt.mpr beyond)

@[simp] theorem reflect_zero (place : Nat) : reflect 0 place = place :=
  reflect_of_le (Nat.zero_le place)

@[simp] theorem reflect_lt_count (count place : Nat) :
    reflect count place < count ↔ place < count := by
  unfold reflect
  split <;> omega

@[simp] theorem reflect_reflect (count place : Nat) :
    reflect count (reflect count place) = place := by
  by_cases inside : place < count
  · rw [reflect_of_lt inside, reflect_of_lt (by omega)]
    omega
  · rw [reflect_of_le (Nat.le_of_not_lt inside), reflect_of_le (Nat.le_of_not_lt inside)]

/-- A segment that contains the reflected one is kept. -/
theorem reflect_lt {count limit place : Nat} (within : count ≤ limit) (inside : place < limit) :
    reflect count place < limit := by
  unfold reflect
  split <;> omega

/-- On the finer scale the coarser place is reflected. -/
theorem reflect_div {step : Nat} (positive : 0 < step) (count place : Nat) :
    reflect (count * step) place / step = reflect count (place / step) := by
  have splitting := Nat.div_add_mod place step
  have small := Nat.mod_lt place positive
  by_cases inside : place / step < count
  · have fine : place < count * step := (Nat.div_lt_iff_lt_mul positive).mp inside
    rw [reflect_of_lt inside, reflect_of_lt fine]
    obtain ⟨rest, rfl⟩ : ∃ rest, count = place / step + 1 + rest := Nat.exists_eq_add_of_le inside
    have position : (place / step + 1 + rest) * step - 1 - place =
        rest * step + (step - 1 - place % step) := by
      have expanded : (place / step + 1 + rest) * step =
          step * (place / step) + step + rest * step := by ring
      omega
    rw [position, Nat.mul_comm rest step, Nat.mul_add_div positive, Nat.div_eq_of_lt (by omega)]
    omega
  · have coarse : count ≤ place / step := Nat.le_of_not_lt inside
    have fine : count * step ≤ place := (Nat.le_div_iff_mul_le positive).mp coarse
    rw [reflect_of_le coarse, reflect_of_le fine]

/-- On the finer scale the position inside a reflected place is reversed. -/
theorem reflect_mod {step : Nat} (positive : 0 < step) (count place : Nat) :
    reflect (count * step) place % step =
      if place / step < count then step - 1 - place % step else place % step := by
  have splitting := Nat.div_add_mod place step
  have small := Nat.mod_lt place positive
  split
  · rename_i inside
    have fine : place < count * step := (Nat.div_lt_iff_lt_mul positive).mp inside
    rw [reflect_of_lt fine]
    obtain ⟨rest, rfl⟩ : ∃ rest, count = place / step + 1 + rest := Nat.exists_eq_add_of_le inside
    have position : (place / step + 1 + rest) * step - 1 - place =
        rest * step + (step - 1 - place % step) := by
      have expanded : (place / step + 1 + rest) * step =
          step * (place / step) + step + rest * step := by ring
      omega
    rw [position, Nat.mul_comm rest step, Nat.mul_add_mod, Nat.mod_eq_of_lt (by omega)]
  · rename_i outside
    have fine : count * step ≤ place :=
      (Nat.le_div_iff_mul_le positive).mp (Nat.le_of_not_lt outside)
    rw [reflect_of_le fine]

end RPhoto.Library
