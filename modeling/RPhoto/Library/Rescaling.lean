import RPhoto.Library.Truncation
import Mathlib.Algebra.BigOperators.Group.List.Basic

/-!
# Repeated rescaling

A length that is measured at one scale is converted to another scale and
truncated.  Every conversion takes away less than one unit of the scale it leads
to, and a sequence of conversions takes away at most the sum of these units.
-/

namespace RPhoto.Library

/-- A length measured at one scale, in whole units of another. -/
def rescale (before after : ℚ) (length : Int) : Int := truncate (length * (after / before))

/-- A length converted from scale to scale. -/
def rescaleAll : ℚ → List ℚ → Int → Int
  | _, [], length => length
  | before, after :: rest, length => rescaleAll after rest (rescale before after length)

/-- One unit of every scale in the list. -/
def unitsOf (scales : List ℚ) : ℚ := (scales.map fun scale => 1 / scale).sum

section Rescale

variable {before after : ℚ} {length : Int}

theorem rescale_nonneg (beforePositive : 0 < before) (afterPositive : 0 < after)
    (nonneg : 0 ≤ length) : 0 ≤ rescale before after length :=
  truncate_nonneg (by positivity)

@[simp] theorem rescale_self (positive : 0 < before) : rescale before before length = length := by
  rw [rescale, div_self positive.ne', mul_one, truncate_intCast]

/-- Converting parts apart gives no more than converting the whole. -/
theorem rescale_add_le {other : Int} (beforePositive : 0 < before) (afterPositive : 0 < after)
    (nonneg : 0 ≤ length) (otherNonneg : 0 ≤ other) :
    rescale before after length + rescale before after other ≤
      rescale before after (length + other) := by
  have apart := truncate_add_le
    (show (0 : ℚ) ≤ length * (after / before) by positivity)
    (show (0 : ℚ) ≤ other * (after / before) by positivity)
  rwa [← add_mul, ← Int.cast_add] at apart

/-- What fits in a length at one scale fits in it at the other. -/
theorem rescale_le_enlarge {size : Nat} (beforePositive : 0 < before) (afterPositive : 0 < after)
    (nonneg : 0 ≤ length) (fits : length ≤ enlarge before size) :
    rescale before after length ≤ enlarge after size := by
  have real : (length : ℚ) ≤ size * before :=
    (le_enlarge_iff beforePositive (Int.natCast_nonneg size)).mp fits
  rw [le_enlarge_iff afterPositive (Int.natCast_nonneg size)]
  calc (rescale before after length : ℚ) ≤ length * (after / before) :=
        truncate_le (by positivity)
    _ ≤ size * before * (after / before) := by gcongr
    _ = size * after := by field_simp

/-- One conversion takes away less than one unit of the new scale. -/
theorem rescale_bounds (beforePositive : 0 < before) (afterPositive : 0 < after)
    (nonneg : 0 ≤ length) :
    (rescale before after length : ℚ) / after ≤ length / before ∧
      (length : ℚ) / before ≤ rescale before after length / after + 1 / after := by
  have real : (0 : ℚ) ≤ length * (after / before) := by positivity
  have whole : (length : ℚ) * (after / before) / after = length / before := by field_simp
  constructor
  · rw [← whole]
    exact div_le_div_of_nonneg_right (truncate_le real) afterPositive.le
  · rw [← whole, ← add_div]
    exact div_le_div_of_nonneg_right (lt_truncate_add_one real).le afterPositive.le

end Rescale

/-- All conversions together take away at most one unit of every scale they lead to. -/
theorem rescaleAll_bounds {before : ℚ} {scales : List ℚ} {length : Int}
    (positive : 0 < before) (allPositive : ∀ scale ∈ scales, 0 < scale) (nonneg : 0 ≤ length) :
    (rescaleAll before scales length : ℚ) / scales.getLastD before ≤ length / before ∧
      (length : ℚ) / before ≤
        rescaleAll before scales length / scales.getLastD before + unitsOf scales := by
  induction scales generalizing before length with
  | nil => simp [rescaleAll, unitsOf]
  | cons after rest ih =>
      have afterPositive := allPositive after List.mem_cons_self
      have restPositive : ∀ scale ∈ rest, 0 < scale :=
        fun scale member => allPositive scale (List.mem_cons_of_mem after member)
      obtain ⟨stepBelow, stepAbove⟩ := rescale_bounds positive afterPositive nonneg
      obtain ⟨below, above⟩ :=
        ih afterPositive restPositive (rescale_nonneg positive afterPositive nonneg)
      rw [List.getLastD_cons, rescaleAll]
      have units : unitsOf (after :: rest) = 1 / after + unitsOf rest := by simp [unitsOf]
      rw [units]
      exact ⟨below.trans stepBelow, by linarith⟩

/-- Back at the first scale, a length has lost at most its units of the scales in between. -/
theorem rescaleAll_back {before : ℚ} {scales : List ℚ} {length : Int} (positive : 0 < before)
    (allPositive : ∀ scale ∈ scales, 0 < scale) (back : scales.getLastD before = before)
    (nonneg : 0 ≤ length) :
    rescaleAll before scales length ≤ length ∧
      (length : ℚ) - rescaleAll before scales length ≤ before * unitsOf scales := by
  obtain ⟨below, above⟩ := rescaleAll_bounds positive allPositive nonneg
  rw [back] at below above
  constructor
  · exact_mod_cast (div_le_div_iff_of_pos_right positive).mp below
  · rw [div_le_iff₀ positive] at above
    have whole : ((rescaleAll before scales length : ℚ) / before + unitsOf scales) * before =
        rescaleAll before scales length + before * unitsOf scales := by field_simp
    linarith

end RPhoto.Library
