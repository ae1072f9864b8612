import Mathlib.Data.Rat.Floor
import Mathlib.Tactic.Linarith
import Mathlib.Tactic.Positivity
import Mathlib.Tactic.FieldSimp

/-!
# Truncation of rational lengths

Converting a rational number to an integer drops its fraction.  A length can be
enlarged or reduced by a ratio of at least one and truncated afterwards; the two
operations are inverse to each other up to one unit.
-/

namespace RPhoto.Library

/-- The integer part of a rational number, rounded towards zero. -/
def truncate (value : ℚ) : Int := value.num.tdiv value.den

theorem truncate_of_nonneg {value : ℚ} (nonneg : 0 ≤ value) : truncate value = ⌊value⌋ := by
  rw [truncate, Int.tdiv_eq_ediv_of_nonneg (Rat.num_nonneg.mpr nonneg), Rat.floor_def']

theorem truncate_neg (value : ℚ) : truncate (-value) = -truncate value := by
  simp [truncate]

@[simp] theorem truncate_intCast (value : Int) : truncate (value : ℚ) = value := by
  simp [truncate]

@[simp] theorem truncate_zero : truncate 0 = 0 := by
  simpa using truncate_intCast 0

theorem truncate_nonneg {value : ℚ} (nonneg : 0 ≤ value) : 0 ≤ truncate value := by
  rw [truncate_of_nonneg nonneg]
  exact Int.floor_nonneg.mpr nonneg

theorem le_truncate_iff {value : ℚ} (nonneg : 0 ≤ value) {bound : Int} :
    bound ≤ truncate value ↔ (bound : ℚ) ≤ value := by
  rw [truncate_of_nonneg nonneg, Int.le_floor]

theorem truncate_le {value : ℚ} (nonneg : 0 ≤ value) : (truncate value : ℚ) ≤ value :=
  (le_truncate_iff nonneg).mp le_rfl

theorem lt_truncate_add_one {value : ℚ} (nonneg : 0 ≤ value) :
    value < (truncate value : ℚ) + 1 := by
  rw [truncate_of_nonneg nonneg]
  exact Int.lt_floor_add_one value

theorem truncate_mono {first second : ℚ} (nonneg : 0 ≤ first) (below : first ≤ second) :
    truncate first ≤ truncate second := by
  rw [le_truncate_iff (nonneg.trans below)]
  exact (truncate_le nonneg).trans below

/-- Truncation keeps the order of negative numbers as well. -/
theorem truncate_le_truncate {first second : ℚ} (below : first ≤ second) :
    truncate first ≤ truncate second := by
  rcases le_total 0 first with nonneg | negative
  · exact truncate_mono nonneg below
  rcases le_total 0 second with nonneg | nonpos
  · have opposite : 0 ≤ truncate (-first) := truncate_nonneg (neg_nonneg.mpr negative)
    rw [truncate_neg] at opposite
    exact (neg_nonneg.mp opposite).trans (truncate_nonneg nonneg)
  · have opposite := truncate_mono (neg_nonneg.mpr nonpos) (neg_le_neg below)
    rw [truncate_neg, truncate_neg] at opposite
    exact neg_le_neg_iff.mp opposite

/-- A positive length that a factor below one leaves is shorter. -/
theorem truncate_mul_lt {length : Int} {factor : ℚ} (nonneg : 0 ≤ factor) (below : factor < 1)
    (positive : 0 < truncate (length * factor)) : truncate (length * factor) < length := by
  have real : (0 : ℚ) < length := by
    by_contra nonpos
    have cut := truncate_le_truncate (mul_nonpos_of_nonpos_of_nonneg (not_lt.mp nonpos) nonneg)
    rw [truncate_zero] at cut
    exact absurd positive (not_lt.mpr cut)
  have shorter : (length : ℚ) * factor < length := mul_lt_of_lt_one_right real below
  exact_mod_cast (truncate_le (mul_nonneg real.le nonneg)).trans_lt shorter

/-- Two numbers truncated apart make no more than their sum truncated. -/
theorem truncate_add_le {first second : ℚ} (firstNonneg : 0 ≤ first)
    (secondNonneg : 0 ≤ second) :
    truncate first + truncate second ≤ truncate (first + second) := by
  rw [le_truncate_iff (add_nonneg firstNonneg secondNonneg)]
  push_cast
  exact add_le_add (truncate_le firstNonneg) (truncate_le secondNonneg)

/-- A length enlarged by a ratio. -/
def enlarge (ratio : ℚ) (length : Int) : Int := truncate (length * ratio)

/-- A length reduced by a ratio. -/
def reduce (ratio : ℚ) (length : Int) : Int := truncate (length / ratio)

section Lengths

variable {ratio : ℚ} {length other : Int}

theorem le_enlarge_iff (positive : 0 < ratio) (nonneg : 0 ≤ length) :
    other ≤ enlarge ratio length ↔ (other : ℚ) ≤ length * ratio := by
  have real : (0 : ℚ) ≤ length := Int.cast_nonneg nonneg
  exact le_truncate_iff (mul_nonneg real positive.le)

theorem le_reduce_iff (positive : 0 < ratio) (nonneg : 0 ≤ length) :
    other ≤ reduce ratio length ↔ (other : ℚ) * ratio ≤ length := by
  have real : (0 : ℚ) ≤ length := Int.cast_nonneg nonneg
  rw [reduce, le_truncate_iff (by positivity), le_div_iff₀ positive]

theorem enlarge_nonneg (positive : 0 < ratio) (nonneg : 0 ≤ length) :
    0 ≤ enlarge ratio length := by
  have real : (0 : ℚ) ≤ length := Int.cast_nonneg nonneg
  rw [le_enlarge_iff positive nonneg]
  simpa using mul_nonneg real positive.le

theorem reduce_nonneg (positive : 0 < ratio) (nonneg : 0 ≤ length) :
    0 ≤ reduce ratio length := by
  rw [le_reduce_iff positive nonneg]
  simpa using (Int.cast_nonneg nonneg : (0 : ℚ) ≤ length)

/-- Enlarging undoes at most what reducing took away. -/
theorem enlarge_le_of_le_reduce (positive : 0 < ratio) (nonneg : 0 ≤ length)
    (otherNonneg : 0 ≤ other) (below : other ≤ reduce ratio length) :
    enlarge ratio other ≤ length := by
  have real : (0 : ℚ) ≤ other * ratio :=
    mul_nonneg (Int.cast_nonneg otherNonneg) positive.le
  have fits : (other : ℚ) * ratio ≤ length := (le_reduce_iff positive nonneg).mp below
  exact_mod_cast (truncate_le real).trans fits

/-- Reducing takes away at least what enlarging added. -/
theorem reduce_le_of_le_enlarge (positive : 0 < ratio) (nonneg : 0 ≤ length)
    (otherNonneg : 0 ≤ other) (below : other ≤ enlarge ratio length) :
    reduce ratio other ≤ length := by
  have real : (0 : ℚ) ≤ other / ratio :=
    div_nonneg (Int.cast_nonneg otherNonneg) positive.le
  have fits : (other : ℚ) / ratio ≤ length := by
    rw [div_le_iff₀ positive]
    exact (le_enlarge_iff positive nonneg).mp below
  exact_mod_cast (truncate_le real).trans fits

theorem le_enlarge (atLeast : 1 ≤ ratio) (nonneg : 0 ≤ length) :
    length ≤ enlarge ratio length := by
  have real : (0 : ℚ) ≤ length := Int.cast_nonneg nonneg
  rw [le_enlarge_iff (by linarith) nonneg]
  nlinarith

theorem reduce_le (atLeast : 1 ≤ ratio) (nonneg : 0 ≤ length) :
    reduce ratio length ≤ length :=
  reduce_le_of_le_enlarge (by linarith) nonneg nonneg (le_enlarge atLeast nonneg)

/-- What a ratio adds to a length is never less than what it takes away, up to one unit. -/
theorem twice_le_enlarge_add_reduce (atLeast : 1 ≤ ratio) (nonneg : 0 ≤ length) :
    2 * length ≤ enlarge ratio length + reduce ratio length + 1 := by
  have positive : 0 < ratio := by linarith
  have real : (0 : ℚ) ≤ length := Int.cast_nonneg nonneg
  have up : (length : ℚ) * ratio < enlarge ratio length + 1 :=
    lt_truncate_add_one (by positivity)
  have down : (length : ℚ) / ratio < reduce ratio length + 1 :=
    lt_truncate_add_one (by positivity)
  have balance : 2 * (length : ℚ) ≤ length * ratio + length / ratio := by
    have square : 0 ≤ (length : ℚ) * (ratio - 1) ^ 2 / ratio := by positivity
    have expand : (length : ℚ) * (ratio - 1) ^ 2 / ratio =
        length * ratio + length / ratio - 2 * length := by
      field_simp
      ring
    linarith
  have strict : ((2 * length : Int) : ℚ) <
      ((enlarge ratio length + reduce ratio length + 2 : Int) : ℚ) := by
    push_cast
    linarith
  have := Int.cast_lt.mp strict
  omega

theorem enlarge_mono (positive : 0 < ratio) (nonneg : 0 ≤ other) (below : other ≤ length) :
    enlarge ratio other ≤ enlarge ratio length := by
  rw [le_enlarge_iff positive (nonneg.trans below)]
  exact ((le_enlarge_iff positive nonneg).mp le_rfl).trans
    (mul_le_mul_of_nonneg_right (Int.cast_le.mpr below) positive.le)

theorem reduce_mono (positive : 0 < ratio) (nonneg : 0 ≤ other) (below : other ≤ length) :
    reduce ratio other ≤ reduce ratio length := by
  rw [le_reduce_iff positive (nonneg.trans below)]
  exact ((le_reduce_iff positive nonneg).mp le_rfl).trans (Int.cast_le.mpr below)

theorem reduce_lt (above : 1 < ratio) (positive : 0 < length) : reduce ratio length < length := by
  have real : (0 : ℚ) < length := Int.cast_pos.mpr positive
  rw [← not_le, le_reduce_iff (by linarith) positive.le, not_le]
  nlinarith

/-- Reducing a length that an enlarged one does not exceed loses one unit at most. -/
theorem sub_one_le_reduce (atLeast : 1 ≤ ratio) (nonneg : 0 ≤ other)
    (below : enlarge ratio other ≤ length) : other - 1 ≤ reduce ratio length := by
  have positive : 0 < ratio := by linarith
  have short : ¬length + 1 ≤ enlarge ratio other := by omega
  rw [le_enlarge_iff positive nonneg] at short
  rw [le_reduce_iff positive ((enlarge_nonneg positive nonneg).trans below)]
  push_cast at short ⊢
  linarith

/-- What reducing and enlarging leave exceeds a bound when a multiple of the ratio does. -/
theorem lt_enlarge_reduce_iff {bound : Int} (positive : 0 < ratio) (nonneg : 0 ≤ length) :
    bound < enlarge ratio (reduce ratio length) ↔
      ∃ whole : Int, ((bound + 1 : Int) : ℚ) ≤ whole * ratio ∧ (whole : ℚ) * ratio ≤ length := by
  have reduced := reduce_nonneg positive nonneg
  rw [← Int.add_one_le_iff, le_enlarge_iff positive reduced]
  constructor
  · intro beyond
    exact ⟨reduce ratio length, beyond, (le_reduce_iff positive nonneg).mp le_rfl⟩
  · rintro ⟨whole, beyond, fits⟩
    have least : (whole : ℚ) ≤ reduce ratio length :=
      Int.cast_le.mpr ((le_reduce_iff positive nonneg).mpr fits)
    exact beyond.trans (mul_le_mul_of_nonneg_right least positive.le)

/-- What enlarging, cutting and reducing leave exceeds a bound when a whole length stands between
the enlarged ones. -/
theorem lt_reduce_min_iff {bound room : Int} (positive : 0 < ratio) (nonneg : 0 ≤ length)
    (wide : 0 ≤ room) :
    bound < reduce ratio (min (enlarge ratio length) room) ↔
      ∃ whole : Int, whole ≤ room ∧ ((bound + 1 : Int) : ℚ) * ratio ≤ whole ∧
        (whole : ℚ) ≤ length * ratio := by
  have cut : 0 ≤ min (enlarge ratio length) room :=
    le_min (enlarge_nonneg positive nonneg) wide
  rw [← Int.add_one_le_iff, le_reduce_iff positive cut]
  constructor
  · intro beyond
    exact ⟨_, min_le_right _ _, beyond, (le_enlarge_iff positive nonneg).mp (min_le_left _ _)⟩
  · rintro ⟨whole, fits, beyond, below⟩
    have least : whole ≤ min (enlarge ratio length) room :=
      le_min ((le_enlarge_iff positive nonneg).mpr below) fits
    exact beyond.trans (Int.cast_le.mpr least)

end Lengths

section Fields

variable {K : Type} [Field K] [LinearOrder K] [FloorRing K]

/-- The integer part of a number of any field with a floor, rounded towards zero. -/
def towardZero (value : K) : Int := if 0 ≤ value then ⌊value⌋ else ⌈value⌉

/-- Rounding a length towards zero after half a unit is taken off gives a length that is no
longer. -/
theorem towardZero_sub_half [IsStrictOrderedRing K] {value : K} (nonneg : 0 ≤ value) :
    0 ≤ towardZero (value - 1 / 2) ∧ (towardZero (value - 1 / 2) : K) ≤ value := by
  unfold towardZero
  split
  · rename_i half
    constructor
    · exact Int.floor_nonneg.mpr half
    · linarith [Int.floor_le (value - 1 / 2)]
  · rename_i half
    have above : -1 < value - 1 / 2 := by linarith
    have zero : ⌈value - 1 / 2⌉ = 0 := Int.ceil_eq_zero_iff.mpr ⟨above, (not_le.mp half).le⟩
    rw [zero]
    exact ⟨le_rfl, by simpa using nonneg⟩

end Fields

end RPhoto.Library
