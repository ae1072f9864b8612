import Mathlib.Algebra.BigOperators.Group.List.Basic
import Mathlib.Tactic.Linarith

/-!
# Shares of an amount

An amount is shared in the proportion of parts that are not negative, and every
share is truncated.  The shares add up to the amount less than one unit a part
short of it.
-/

namespace RPhoto.Library

/-- The share of one part of a total, truncated towards zero. -/
def share (amount total part : Int) : Int := (part * amount).tdiv total

section Share

variable {amount total part : Int} {parts : List Int}

theorem share_bounds (positive : 0 < total) (nonneg : 0 ≤ amount) (partNonneg : 0 ≤ part) :
    0 ≤ share amount total part ∧ total * share amount total part ≤ part * amount ∧
      part * amount + 1 ≤ total * share amount total part + total := by
  have product : 0 ≤ part * amount := mul_nonneg partNonneg nonneg
  have below := Int.emod_nonneg (part * amount) positive.ne'
  have above := Int.emod_lt_of_pos (part * amount) positive
  have whole := Int.mul_ediv_add_emod (part * amount) total
  rw [share, Int.tdiv_eq_ediv_of_nonneg product]
  refine ⟨Int.ediv_nonneg product positive.le, ?_, ?_⟩
  · omega
  · omega

theorem shares_nonneg (positive : 0 < total) (nonneg : 0 ≤ amount)
    (partsNonneg : ∀ part ∈ parts, 0 ≤ part) :
    ∀ width ∈ parts.map (share amount total), 0 ≤ width := by
  intro width member
  obtain ⟨part, partMember, rfl⟩ := List.mem_map.mp member
  exact (share_bounds positive nonneg (partsNonneg part partMember)).1

/-- The shares of all parts, measured in units of the total. -/
theorem shares_bounds (positive : 0 < total) (nonneg : 0 ≤ amount)
    (partsNonneg : ∀ part ∈ parts, 0 ≤ part) :
    total * (parts.map (share amount total)).sum ≤ parts.sum * amount ∧
      parts.sum * amount + parts.length ≤
        total * (parts.map (share amount total)).sum + total * parts.length := by
  induction parts with
  | nil => simp
  | cons part rest ih =>
      obtain ⟨_, low, high⟩ :=
        share_bounds positive nonneg (partsNonneg part List.mem_cons_self)
      obtain ⟨restLow, restHigh⟩ :=
        ih fun other member => partsNonneg other (List.mem_cons_of_mem part member)
      simp only [List.map_cons, List.sum_cons, List.length_cons, mul_add, add_mul]
      push_cast
      constructor <;> linarith

/-- The amount is shared up to less than one unit a part. -/
theorem shares_sum (positive : 0 < parts.sum) (nonneg : 0 ≤ amount)
    (partsNonneg : ∀ part ∈ parts, 0 ≤ part) :
    (parts.map (share amount parts.sum)).sum ≤ amount ∧
      amount - parts.length < (parts.map (share amount parts.sum)).sum := by
  obtain ⟨low, high⟩ := shares_bounds positive nonneg partsNonneg
  have counted : 0 < (parts.length : Int) := by
    have filled : parts ≠ [] := by
      rintro rfl
      exact absurd positive (lt_irrefl 0)
    exact Int.natCast_pos.mpr (List.length_pos_iff.mpr filled)
  constructor
  · exact le_of_mul_le_mul_left low positive
  · have scaled : parts.sum * amount <
        parts.sum * ((parts.map (share amount parts.sum)).sum + parts.length) := by
      rw [mul_add]
      linarith
    have := lt_of_mul_lt_mul_left scaled positive.le
    omega

end Share

end RPhoto.Library
