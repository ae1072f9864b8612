import RPhoto.Tracker.LineMouse

/-!
# Clamping the points of a line

`AdjustLineTrackerMax` compares both coordinates of both points with the sides of
the max rect.  A row below the max rect is replaced by one that is counted from
the left side of the max rect and not from its top; the replacement lies in the
max rect only when the origin of the max rect is near enough to the diagonal.
-/

namespace RPhoto.Tracker

/-! ## One coordinate -/

/-- The adjustment brings a value into the interval, leaves the values of the interval alone and
has nothing left to do afterwards. -/
structure Clamps (low high : Int) (adjust : Int → Int) (value : Int) : Prop where
  inside : low ≤ adjust value ∧ adjust value ≤ high
  kept : low ≤ value → value ≤ high → adjust value = value
  twice : adjust (adjust value) = adjust value

section Coordinate

variable {low high replacement value : Int}

theorem clampCoordinate_of_inside (after : low ≤ value) (before : value ≤ high) :
    clampCoordinate low high replacement value = value := by
  unfold clampCoordinate
  rw [if_neg (not_lt.mpr after)]
  exact if_neg (not_lt.mpr before)

theorem clampCoordinate_of_lt (ordered : low ≤ high) (early : value < low) :
    clampCoordinate low high replacement value = low := by
  unfold clampCoordinate
  rw [if_pos early]
  exact if_neg (not_lt.mpr ordered)

theorem clampCoordinate_of_gt (ordered : low ≤ high) (late : high < value) :
    clampCoordinate low high replacement value = replacement := by
  unfold clampCoordinate
  rw [if_neg (not_lt.mpr (ordered.trans late.le))]
  exact if_pos late

/-- The replacement matters for the values after the interval alone. -/
theorem clampCoordinate_clamps_iff (ordered : low ≤ high) :
    Clamps low high (clampCoordinate low high replacement) value ↔
      (high < value → low ≤ replacement ∧ replacement ≤ high) := by
  constructor
  · intro clamps late
    have inside := clamps.inside
    rwa [clampCoordinate_of_gt ordered late] at inside
  · intro fits
    have inside : low ≤ clampCoordinate low high replacement value ∧
        clampCoordinate low high replacement value ≤ high := by
      rcases lt_or_ge value low with early | after
      · rw [clampCoordinate_of_lt ordered early]
        exact ⟨le_rfl, ordered⟩
      rcases le_or_gt value high with before | late
      · rw [clampCoordinate_of_inside after before]
        exact ⟨after, before⟩
      · rw [clampCoordinate_of_gt ordered late]
        exact fits late
    exact ⟨inside, clampCoordinate_of_inside, clampCoordinate_of_inside inside.1 inside.2⟩

/-- An interval whose stop replaces the values after it. -/
theorem clampCoordinate_clamps (ordered : low ≤ high) :
    Clamps low high (clampCoordinate low high high) value :=
  (clampCoordinate_clamps_iff ordered).mpr fun _ => ⟨ordered, le_rfl⟩

end Coordinate

/-! ## The points -/

/-- The point lies in the rectangle, whose sides are included. -/
def Rect.Holds (rect : Rect) (point : Point) : Prop :=
  (rect.x ≤ point.x ∧ point.x ≤ rect.x + rect.width) ∧
    (rect.y ≤ point.y ∧ point.y ≤ rect.y + rect.height)

/-- The coordinates of a point that lie between the sides of the rectangle are those of the
other point. -/
def Rect.Agree (rect : Rect) (point other : Point) : Prop :=
  (rect.x ≤ point.x → point.x ≤ rect.x + rect.width → other.x = point.x) ∧
    (rect.y ≤ point.y → point.y ≤ rect.y + rect.height → other.y = point.y)

/-- A point that is not below the rectangle, or the row counted from the left side is one of the
rectangle. -/
def Rect.RowFits (rect : Rect) (point : Point) : Prop :=
  point.y ≤ rect.y + rect.height ∨ (rect.y - rect.height ≤ rect.x ∧ rect.x ≤ rect.y)

instance (rect : Rect) (point : Point) : Decidable (rect.RowFits point) :=
  inferInstanceAs (Decidable (_ ∨ _))

namespace WxLineTracker

/-- The adjustment of a point is the adjustment of its coordinates. -/
theorem adjustPoint_of_sized {maxRect : Rect} (sized : maxRect.Sized) (point : Point) :
    adjustPoint maxRect point =
      ⟨clampCoordinate maxRect.x (maxRect.x + maxRect.width) (maxRect.x + maxRect.width) point.x,
        clampCoordinate maxRect.y (maxRect.y + maxRect.height) (maxRect.x + maxRect.height)
          point.y⟩ := by
  unfold adjustPoint
  exact if_neg (by unfold Rect.Sized at sized; omega)

/-- What the adjustment of one point is for. -/
structure PointClamped (maxRect : Rect) (point : Point) : Prop where
  inside : maxRect.Holds (adjustPoint maxRect point)
  kept : maxRect.Agree point (adjustPoint maxRect point)
  twice : adjustPoint maxRect (adjustPoint maxRect point) = adjustPoint maxRect point

theorem pointClamped_iff {maxRect : Rect} (sized : maxRect.Sized) (point : Point) :
    PointClamped maxRect point ↔ maxRect.RowFits point := by
  have columns : Clamps maxRect.x (maxRect.x + maxRect.width)
      (clampCoordinate maxRect.x (maxRect.x + maxRect.width) (maxRect.x + maxRect.width))
        point.x :=
    clampCoordinate_clamps (le_add_of_nonneg_right sized.1)
  have rows := @clampCoordinate_clamps_iff maxRect.y (maxRect.y + maxRect.height)
    (maxRect.x + maxRect.height) point.y (le_add_of_nonneg_right sized.2)
  have fits : maxRect.RowFits point ↔ (maxRect.y + maxRect.height < point.y →
      maxRect.y ≤ maxRect.x + maxRect.height ∧
        maxRect.x + maxRect.height ≤ maxRect.y + maxRect.height) := by
    unfold Rect.RowFits
    omega
  rw [fits, ← rows]
  constructor
  · rintro ⟨inside, kept, twice⟩
    simp only [adjustPoint_of_sized sized, Point.mk.injEq] at inside kept twice
    exact ⟨inside.2, kept.2, twice.2⟩
  · intro clamped
    constructor
    · rw [adjustPoint_of_sized sized]
      exact ⟨columns.inside, clamped.inside⟩
    · rw [adjustPoint_of_sized sized]
      exact ⟨columns.kept, clamped.kept⟩
    · simp only [adjustPoint_of_sized sized, columns.twice, clamped.twice]

/-! ## The line -/

/-- What the adjustment of a line is for: both points lie in the max rect, what was between its
sides has not changed, and a second adjustment changes nothing. -/
structure LineClamped (tracker : WxLineTracker) (first last : Point) : Prop where
  inside : tracker.maxRect.Holds (tracker.adjustLineTracker first last).1 ∧
    tracker.maxRect.Holds (tracker.adjustLineTracker first last).2
  kept : tracker.maxRect.Agree first (tracker.adjustLineTracker first last).1 ∧
    tracker.maxRect.Agree last (tracker.adjustLineTracker first last).2
  twice : tracker.adjustLineTracker (tracker.adjustLineTracker first last).1
      (tracker.adjustLineTracker first last).2 = tracker.adjustLineTracker first last

variable {tracker : WxLineTracker} {first last : Point}

/-- The two points of a line are adjusted apart. -/
theorem lineClamped_iff_points :
    tracker.LineClamped first last ↔
      PointClamped tracker.maxRect first ∧ PointClamped tracker.maxRect last := by
  constructor
  · intro clamped
    obtain ⟨firstTwice, lastTwice⟩ := Prod.mk.inj clamped.twice
    exact ⟨⟨clamped.inside.1, clamped.kept.1, firstTwice⟩,
      ⟨clamped.inside.2, clamped.kept.2, lastTwice⟩⟩
  · rintro ⟨clampedFirst, clampedLast⟩
    exact ⟨⟨clampedFirst.inside, clampedLast.inside⟩, ⟨clampedFirst.kept, clampedLast.kept⟩,
      Prod.ext clampedFirst.twice clampedLast.twice⟩

/-- A line is clamped exactly when no point of it is moved to a row outside the max rect. -/
theorem adjustLineTracker_clamps_iff (sized : tracker.maxRect.Sized) (first last : Point) :
    tracker.LineClamped first last ↔
      tracker.maxRect.RowFits first ∧ tracker.maxRect.RowFits last := by
  rw [lineClamped_iff_points, pointClamped_iff sized, pointClamped_iff sized]

/-- A line tracker with a max rect. -/
def bounded (maxRect : Rect) : WxLineTracker :=
  { create .topLeft .bottomRight with
    toRectTracker := { RectTracker.create with maxRect } }

/-- A line that leaves a max rect at the origin. -/
theorem line_clamped_at_origin :
    (bounded ⟨0, 0, 640, 480⟩).LineClamped ⟨-5, 700⟩ ⟨900, 20⟩ :=
  (adjustLineTracker_clamps_iff (by decide) ⟨-5, 700⟩ ⟨900, 20⟩).mpr (by decide)

/-- Below a max rect that lies to the right of the diagonal a point stays below it. -/
theorem line_left_below :
    ¬(bounded ⟨50, 0, 10, 10⟩).LineClamped ⟨55, 5⟩ ⟨55, 100⟩ := by
  intro clamped
  exact absurd clamped.inside.2.2.2 (by decide)

/-- A max rect whose origin lies on the diagonal clamps every line. -/
theorem lineClamped_of_diagonal (sized : tracker.maxRect.Sized)
    (diagonal : tracker.maxRect.x = tracker.maxRect.y) (first last : Point) :
    tracker.LineClamped first last := by
  have fits (point : Point) : tracker.maxRect.RowFits point := by
    have nonneg := sized.2
    unfold Rect.RowFits
    omega
  rw [lineClamped_iff_points, pointClamped_iff sized, pointClamped_iff sized]
  exact ⟨fits first, fits last⟩

end WxLineTracker

end RPhoto.Tracker
