import RPhoto.Library.Truncation
import Mathlib.Analysis.Real.Pi.Bounds
import Mathlib.Analysis.SpecialFunctions.Trigonometric.Arctan

/-!
# The zone kept by an inclination correction

After a rotation the corners of the picture are blank.  `OnImageInclin` proposes
the zone of the wanted proportions that avoids them.  It computes one size from
the height of the source and one from its width, drops a size that breaks the
other constraint, and keeps the one with the larger area.
-/

namespace RPhoto.Editing

open RPhoto.Library

/-- A width and a height before rounding. -/
structure ZoneSize (K : Type) where
  width : K
  height : K
deriving DecidableEq

section Size

variable {K : Type} [Field K] [LinearOrder K]

/-- The size computed by height: `ch1` and `cw1`. -/
def sizeByHeight (sy rat c s : K) : ZoneSize K :=
  let ch1 := sy / (rat * s + c)
  ⟨ch1 * rat, ch1⟩

/-- The size computed by width: `ch2` and `cw2`. -/
def sizeByWidth (sx rat c s : K) : ZoneSize K :=
  let ch2 := sx / (s + rat * c)
  ⟨ch2 * rat, ch2⟩

/-- The choice of `OnImageInclin` between the two sizes, for the cosine and the sine of the
absolute value of the angle. -/
def inclinationSize (sx sy rat c s : K) : ZoneSize K :=
  let first := sizeByHeight sy rat c s
  let second := sizeByWidth sx rat c s
  let first := if first.width * c + first.height * s > sx then ⟨0, 0⟩ else first
  let second := if second.width * s + second.height * c > sy then ⟨0, 0⟩ else second
  if first.height * first.width ≥ second.height * second.width then first else second

/-- A zone that avoids the blank corners of the rotated picture. -/
structure InsideRotated (sx sy c s width height : K) : Prop where
  across : width * c + height * s ≤ sx
  down : width * s + height * c ≤ sy

/-- The largest zone of the given proportions that avoids the blank corners. -/
structure LargestInside (sx sy rat c s : K) (size : ZoneSize K) : Prop where
  nonzero : size ≠ ⟨0, 0⟩
  proportional : size.width = rat * size.height
  inside : InsideRotated sx sy c s size.width size.height
  largest : ∀ height, InsideRotated sx sy c s (rat * height) height → height ≤ size.height

variable [IsStrictOrderedRing K] {sx sy rat c s : K}

/-- Of the zones of one proportion, those inside are the ones below both computed heights. -/
theorem insideRotated_iff (ratPositive : 0 < rat) (cPositive : 0 < c) (sNonneg : 0 ≤ s)
    (height : K) :
    InsideRotated sx sy c s (rat * height) height ↔
      height ≤ (sizeByHeight sy rat c s).height ∧ height ≤ (sizeByWidth sx rat c s).height := by
  have byHeight : 0 < rat * s + c := by positivity
  have byWidth : 0 < s + rat * c := by positivity
  simp only [sizeByHeight, sizeByWidth, le_div_iff₀ byHeight, le_div_iff₀ byWidth]
  constructor
  · rintro ⟨across, down⟩
    constructor
    · linarith
    · linarith
  · rintro ⟨down, across⟩
    constructor
    · linarith
    · linarith

/-- The size computed by height breaks the other constraint when it is the larger one. -/
theorem sizeByHeight_across (ratPositive : 0 < rat) (cPositive : 0 < c) (sNonneg : 0 ≤ s) :
    (sizeByHeight sy rat c s).width * c + (sizeByHeight sy rat c s).height * s > sx ↔
      (sizeByWidth sx rat c s).height < (sizeByHeight sy rat c s).height := by
  have byWidth : 0 < s + rat * c := by positivity
  simp only [sizeByWidth, div_lt_iff₀ byWidth]
  have expanded : (sizeByHeight sy rat c s).width * c + (sizeByHeight sy rat c s).height * s =
      (sizeByHeight sy rat c s).height * (s + rat * c) := by
    simp only [sizeByHeight]
    ring
  rw [gt_iff_lt, expanded]

/-- The size computed by width likewise. -/
theorem sizeByWidth_down (ratPositive : 0 < rat) (cPositive : 0 < c) (sNonneg : 0 ≤ s) :
    (sizeByWidth sx rat c s).width * s + (sizeByWidth sx rat c s).height * c > sy ↔
      (sizeByHeight sy rat c s).height < (sizeByWidth sx rat c s).height := by
  have byHeight : 0 < rat * s + c := by positivity
  simp only [sizeByHeight, div_lt_iff₀ byHeight]
  have expanded : (sizeByWidth sx rat c s).width * s + (sizeByWidth sx rat c s).height * c =
      (sizeByWidth sx rat c s).height * (rat * s + c) := by
    simp only [sizeByWidth]
    ring
  rw [gt_iff_lt, expanded]

/-- The choice is the size of smaller height: the other one has been dropped. -/
theorem inclinationSize_eq (sxPositive : 0 < sx) (syPositive : 0 < sy) (ratPositive : 0 < rat)
    (cPositive : 0 < c) (sNonneg : 0 ≤ s) :
    inclinationSize sx sy rat c s =
      if (sizeByHeight sy rat c s).height ≤ (sizeByWidth sx rat c s).height
      then sizeByHeight sy rat c s else sizeByWidth sx rat c s := by
  have firstArea : 0 < (sizeByHeight sy rat c s).height * (sizeByHeight sy rat c s).width := by
    simp only [sizeByHeight]
    positivity
  have secondArea : 0 < (sizeByWidth sx rat c s).height * (sizeByWidth sx rat c s).width := by
    simp only [sizeByWidth]
    positivity
  simp only [inclinationSize, sizeByHeight_across ratPositive cPositive sNonneg,
    sizeByWidth_down ratPositive cPositive sNonneg]
  rcases lt_trichotomy (sizeByHeight sy rat c s).height (sizeByWidth sx rat c s).height with
    lower | equal | higher
  · rw [if_neg lower.asymm, if_pos lower, if_pos lower.le, mul_zero, if_pos firstArea.le]
  · have same : (sizeByHeight sy rat c s).width = (sizeByWidth sx rat c s).width :=
      congrArg (· * rat) equal
    rw [if_neg equal.not_gt, if_neg equal.not_lt, if_pos equal.le, equal, same, if_pos le_rfl]
  · rw [if_pos higher, if_neg higher.asymm, if_neg higher.not_ge, mul_zero,
      if_neg (not_le.mpr secondArea)]

/-- The chosen height is the smaller one, and the width is in proportion. -/
theorem inclinationSize_min (sxPositive : 0 < sx) (syPositive : 0 < sy) (ratPositive : 0 < rat)
    (cPositive : 0 < c) (sNonneg : 0 ≤ s) :
    (inclinationSize sx sy rat c s).height =
        min (sizeByHeight sy rat c s).height (sizeByWidth sx rat c s).height ∧
      (inclinationSize sx sy rat c s).width = rat * (inclinationSize sx sy rat c s).height := by
  rw [inclinationSize_eq sxPositive syPositive ratPositive cPositive sNonneg]
  split
  · rename_i lower
    exact ⟨(min_eq_left lower).symm, mul_comm _ _⟩
  · rename_i higher
    exact ⟨(min_eq_right (not_le.mp higher).le).symm, mul_comm _ _⟩

/-- The size chosen before rounding, in any ordered field. -/
theorem inclinationSize_largestInside (sxPositive : 0 < sx) (syPositive : 0 < sy)
    (ratPositive : 0 < rat) (cPositive : 0 < c) (sNonneg : 0 ≤ s) :
    LargestInside sx sy rat c s (inclinationSize sx sy rat c s) := by
  obtain ⟨height, width⟩ :=
    inclinationSize_min sxPositive syPositive ratPositive cPositive sNonneg
  have inside (height : K) := @insideRotated_iff K _ _ _ sx sy rat c s ratPositive cPositive
    sNonneg height
  constructor
  · intro zero
    have firstPositive : 0 < (sizeByHeight sy rat c s).height := by
      simp only [sizeByHeight]
      positivity
    have secondPositive : 0 < (sizeByWidth sx rat c s).height := by
      simp only [sizeByWidth]
      positivity
    have positive := lt_min firstPositive secondPositive
    rw [← height, zero] at positive
    exact lt_irrefl 0 positive
  · exact width
  · rw [width, inside, height]
    exact ⟨min_le_left _ _, min_le_right _ _⟩
  · intro other fits
    rw [height]
    exact le_min ((inside other).mp fits).1 ((inside other).mp fits).2

/-- A smaller zone of non-negative size avoids the blank corners too. -/
theorem InsideRotated.mono {width height lessWide lessHigh : K}
    (inside : InsideRotated sx sy c s width height) (cNonneg : 0 ≤ c) (sNonneg : 0 ≤ s)
    (narrower : lessWide ≤ width) (lower : lessHigh ≤ height) :
    InsideRotated sx sy c s lessWide lessHigh where
  across := (add_le_add (mul_le_mul_of_nonneg_right narrower cNonneg)
    (mul_le_mul_of_nonneg_right lower sNonneg)).trans inside.across
  down := (add_le_add (mul_le_mul_of_nonneg_right narrower sNonneg)
    (mul_le_mul_of_nonneg_right lower cNonneg)).trans inside.down

end Size

section Pixels

variable {K : Type} [Field K] [LinearOrder K] [FloorRing K]

/-- The integers `cw` and `ch`. -/
def ZoneSize.toPixels (size : ZoneSize K) : Int × Int :=
  (towardZero (size.width - 1 / 2), towardZero (size.height - 1 / 2))

variable [IsStrictOrderedRing K] {sx sy rat c s : K}

/-- The integer size is not negative and avoids the blank corners. -/
theorem LargestInside.toPixels_inside {size : ZoneSize K}
    (largest : LargestInside sx sy rat c s size) (sxPositive : 0 < sx) (syPositive : 0 < sy)
    (ratPositive : 0 < rat) (cPositive : 0 < c) (sNonneg : 0 ≤ s) :
    0 ≤ size.toPixels.1 ∧ 0 ≤ size.toPixels.2 ∧
      InsideRotated sx sy c s size.toPixels.1 size.toPixels.2 := by
  have heightNonneg : 0 ≤ size.height := by
    apply largest.largest
    constructor
    · simpa using sxPositive.le
    · simpa using syPositive.le
  have widthNonneg : 0 ≤ size.width := by
    rw [largest.proportional]
    positivity
  obtain ⟨wide, narrower⟩ := towardZero_sub_half widthNonneg
  obtain ⟨high, lower⟩ := towardZero_sub_half heightNonneg
  exact ⟨wide, high, largest.inside.mono cPositive.le sNonneg narrower lower⟩

end Pixels

/-! ## The proportions and the angle of the handler -/

section Proportions

variable {K : Type} [Field K] [LinearOrder K]

/-- `rat`, from `GetRatio`, `GetOrientation` and the size of the source. -/
def inclinationRatio (ratio : K) (orientation : Int) (sx sy : K) : K :=
  let rat := if ratio > 0 then ratio else sx / sy
  let rat := if rat = 0 then 1 else rat
  let rat := if rat < 1 then 1 / rat else rat
  if orientation = -1 then 1 / rat
  else if orientation = 1 then rat
  else if sy > sx then 1 / rat else rat

theorem inclinationRatio_pos [IsStrictOrderedRing K] {sx sy : K} (ratio : K) (orientation : Int)
    (sxPositive : 0 < sx) (syPositive : 0 < sy) :
    0 < inclinationRatio ratio orientation sx sy := by
  have chosen : 0 < if ratio > 0 then ratio else sx / sy := by
    split
    · assumption
    · positivity
  unfold inclinationRatio
  generalize (if ratio > 0 then ratio else sx / sy) = rat at chosen
  have normalized : 0 < if rat < 1 then 1 / rat else rat := by
    split
    · positivity
    · exact chosen
  simp only [if_neg chosen.ne']
  generalize (if rat < 1 then 1 / rat else rat) = rat at normalized
  have inverse : 0 < 1 / rat := by positivity
  split_ifs <;> assumption

end Proportions

/-- `PI`. -/
noncomputable def piValue : ℝ := 3.141592653589793

/-- `angle`, from the extent of the line. -/
noncomputable def inclinationAngle (dx dy : Int) : ℝ :=
  let angle := Real.arctan (dy / dx)
  let angle := if angle > piValue / 4 then angle - piValue / 2 else angle
  if angle < -piValue / 4 then angle + piValue / 2 else angle

/-- The zone proposed after an inclination correction, in pixels of the image. -/
noncomputable def inclinationZone (ratio : ℝ) (orientation dx dy sx sy : Int) : Int × Int :=
  let angle := inclinationAngle dx dy
  let rat := inclinationRatio ratio orientation (sx : ℝ) sy
  (inclinationSize (sx : ℝ) sy rat (Real.cos |angle|) (Real.sin |angle|)).toPixels

theorem piValue_lt_pi : piValue < Real.pi :=
  lt_trans (by norm_num [piValue]) Real.pi_gt_d20

/-- The angle is brought into the range the size formulas are made for. -/
theorem abs_inclinationAngle_le (dx dy : Int) : |inclinationAngle dx dy| ≤ Real.pi / 4 := by
  have lower := Real.neg_pi_div_two_lt_arctan (dy / dx)
  have upper := Real.arctan_lt_pi_div_two (dy / dx)
  have below := piValue_lt_pi
  have close : Real.pi < 3 * piValue / 2 :=
    Real.pi_lt_d20.trans (by norm_num [piValue])
  unfold inclinationAngle
  generalize Real.arctan (dy / dx) = angle at lower upper
  rw [abs_le]
  dsimp only
  split_ifs <;> constructor <;> linarith

theorem cos_sin_of_abs_le {angle : ℝ} (range : |angle| ≤ Real.pi / 4) :
    0 < Real.cos |angle| ∧ 0 ≤ Real.sin |angle| := by
  have pi := Real.pi_pos
  have nonneg := abs_nonneg angle
  constructor
  · exact Real.cos_pos_of_mem_Ioo ⟨by linarith, by linarith⟩
  · exact Real.sin_nonneg_of_nonneg_of_le_pi nonneg (by linarith)

/-- A size that is the largest one inside the picture turned by `angle`, and whose integer part
still avoids the blank corners. -/
structure AvoidsBlank (sx sy : Int) (rat angle : ℝ) (size : ZoneSize ℝ) : Prop where
  largest : LargestInside (sx : ℝ) sy rat (Real.cos |angle|) (Real.sin |angle|) size
  wide : 0 ≤ size.toPixels.1
  high : 0 ≤ size.toPixels.2
  inside : InsideRotated (sx : ℝ) sy (Real.cos |angle|) (Real.sin |angle|) size.toPixels.1
    size.toPixels.2

/-- `OnImageInclin` chooses such a size. -/
theorem inclinationSize_correct (sx sy : Int) (rat angle : ℝ) (sxPositive : 0 < sx)
    (syPositive : 0 < sy) (ratPositive : 0 < rat) (range : |angle| ≤ Real.pi / 4) :
    AvoidsBlank sx sy rat angle
      (inclinationSize (sx : ℝ) sy rat (Real.cos |angle|) (Real.sin |angle|)) := by
  obtain ⟨cPositive, sNonneg⟩ := cos_sin_of_abs_le range
  have sxReal : (0 : ℝ) < sx := Int.cast_pos.mpr sxPositive
  have syReal : (0 : ℝ) < sy := Int.cast_pos.mpr syPositive
  have largest :=
    inclinationSize_largestInside sxReal syReal ratPositive cPositive sNonneg
  obtain ⟨wide, high, inside⟩ :=
    largest.toPixels_inside sxReal syReal ratPositive cPositive sNonneg
  exact ⟨largest, wide, high, inside⟩

/-- A picture of 400 by 300 pixels turned by a sixth of the allowed angle. -/
theorem inclinationSize_correct_landscape :
    AvoidsBlank 400 300 (4 / 3) (Real.pi / 24)
      (inclinationSize ((400 : Int) : ℝ) (300 : Int) (4 / 3) (Real.cos |Real.pi / 24|)
        (Real.sin |Real.pi / 24|)) := by
  apply inclinationSize_correct 400 300 (4 / 3) (Real.pi / 24)
  · decide
  · decide
  · norm_num
  · rw [abs_of_pos (by positivity)]
    linarith [Real.pi_pos]

/-- Whatever the line, the ratio and the orientation, the proposed zone avoids the blank
corners. -/
theorem inclinationZone_inside (ratio : ℝ) (orientation dx dy : Int) {sx sy : Int}
    (sxPositive : 0 < sx) (syPositive : 0 < sy) :
    let zone := inclinationZone ratio orientation dx dy sx sy
    let angle := inclinationAngle dx dy
    0 ≤ zone.1 ∧ 0 ≤ zone.2 ∧
      InsideRotated (sx : ℝ) sy (Real.cos |angle|) (Real.sin |angle|) zone.1 zone.2 := by
  obtain ⟨cPositive, sNonneg⟩ := cos_sin_of_abs_le (abs_inclinationAngle_le dx dy)
  have sxReal : (0 : ℝ) < sx := Int.cast_pos.mpr sxPositive
  have syReal : (0 : ℝ) < sy := Int.cast_pos.mpr syPositive
  have ratPositive := inclinationRatio_pos ratio orientation sxReal syReal
  have largest := inclinationSize_largestInside sxReal syReal ratPositive cPositive sNonneg
  exact largest.toPixels_inside sxReal syReal ratPositive cPositive sNonneg

end RPhoto.Editing
