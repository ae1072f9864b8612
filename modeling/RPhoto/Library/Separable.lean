import Mathlib.Algebra.BigOperators.Ring.Finset
import Mathlib.Analysis.SpecialFunctions.Trigonometric.Basic

/-!
# Separable transforms of waves with a parity

A square of coefficients is turned into a square of samples by summing products of
two waves, one along the rows and one along the columns.  When a wave read backwards
is the wave of its frequency's parity, changing the signs of the odd frequencies along
an axis reverses the samples along it; transposing coefficients transposes samples.
The cosines of the discrete cosine transform have this parity.
-/

namespace RPhoto.Library

variable {Ring : Type} [CommRing Ring] {size : Nat}

/-- A wave of even frequency is symmetric, one of odd frequency antisymmetric. -/
def HasParity (wave : Fin size → Fin size → Ring) : Prop :=
  ∀ frequency position,
    wave frequency position.rev = (-1) ^ frequency.val * wave frequency position

/-- The samples of a square of coefficients. -/
def synthesis (wave : Fin size → Fin size → Ring) (coefficient : Fin size → Fin size → Ring)
    (row column : Fin size) : Ring :=
  ∑ down, ∑ across, coefficient down across * (wave down row * wave across column)

variable {wave : Fin size → Fin size → Ring}

theorem synthesis_congr {first second : Fin size → Fin size → Ring}
    (same : ∀ down across, first down across = second down across) (row column : Fin size) :
    synthesis wave first row column = synthesis wave second row column := by
  unfold synthesis
  simp only [same]

/-- Changing the signs of the odd frequencies across reverses the columns. -/
theorem synthesis_across (parity : HasParity wave) (coefficient : Fin size → Fin size → Ring)
    (row column : Fin size) :
    synthesis wave (fun down across => (-1) ^ across.val * coefficient down across) row column =
      synthesis wave coefficient row column.rev := by
  unfold synthesis
  refine Finset.sum_congr rfl fun down _ => Finset.sum_congr rfl fun across _ => ?_
  rw [parity across column]
  ring

/-- Changing the signs of the odd frequencies down reverses the rows. -/
theorem synthesis_down (parity : HasParity wave) (coefficient : Fin size → Fin size → Ring)
    (row column : Fin size) :
    synthesis wave (fun down across => (-1) ^ down.val * coefficient down across) row column =
      synthesis wave coefficient row.rev column := by
  unfold synthesis
  refine Finset.sum_congr rfl fun down _ => Finset.sum_congr rfl fun across _ => ?_
  rw [parity down row]
  ring

theorem synthesis_transposed (coefficient : Fin size → Fin size → Ring)
    (row column : Fin size) :
    synthesis wave (fun down across => coefficient across down) row column =
      synthesis wave coefficient column row := by
  unfold synthesis
  rw [Finset.sum_comm]
  refine Finset.sum_congr rfl fun down _ => Finset.sum_congr rfl fun across _ => ?_
  rw [mul_comm (wave across row)]

/-- The scaled cosines of the discrete cosine transform of a size. -/
noncomputable def cosineWave (size : Nat) (frequency position : Fin size) : ℝ :=
  Real.sqrt (((if frequency.val = 0 then 1 else 2 : Nat) : ℝ) / size) *
    Real.cos (((2 * position.val + 1 : Nat) : ℝ) * frequency.val * Real.pi / (2 * size : Nat))

theorem cosineWave_hasParity (size : Nat) : HasParity (cosineWave size) := by
  intro frequency position
  have positive : (size : ℝ) ≠ 0 := by
    have nonempty : 0 < size := position.pos
    exact_mod_cast Nat.ne_of_gt nonempty
  have back : ((position.rev.val : Nat) : ℝ) = size - 1 - position.val := by
    have sum : position.rev.val + (position.val + 1) = size := by
      rw [Fin.val_rev]
      exact Nat.sub_add_cancel position.isLt
    have cast : ((position.rev.val : Nat) : ℝ) + (position.val + 1) = size := by
      exact_mod_cast sum
    linarith
  have angle : ((2 * position.rev.val + 1 : Nat) : ℝ) * frequency.val * Real.pi / (2 * size : Nat) =
      frequency.val * Real.pi -
        ((2 * position.val + 1 : Nat) : ℝ) * frequency.val * Real.pi / (2 * size : Nat) := by
    push_cast
    rw [back]
    field_simp
    ring
  unfold cosineWave
  rw [angle, Real.cos_nat_mul_pi_sub]
  ring

end RPhoto.Library
