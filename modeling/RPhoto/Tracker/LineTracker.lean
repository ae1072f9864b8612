import RPhoto.Tracker.RectTracker

/-!
# The line tracker

`wxLineTracker` of `src/lib/wxRectTracker`.  It keeps its line as a rectangle and
the two corners of it where the line begins and ends.  The clipping is the one of
the rectangle tracker, which knows nothing of the corners.  The mouse and the
keys are left out.
-/

namespace RPhoto.Tracker

open RPhoto.Library

/-- The state of `wxLineTracker`. -/
structure LineTracker where
  rect : Rect
  maxRect : Rect
  beginHandler : Handler
  endHandler : Handler
deriving DecidableEq, Repr

/-- The span between two positions, both included. -/
def spanBetween (first last : Int) : Span := ⟨min first last, |last - first| + 1⟩

/-- The rectangle that `wxRect` makes of two points. -/
def rectBetween (first last : Point) : Rect :=
  .ofSpans (spanBetween first.x last.x) (spanBetween first.y last.y)

/-- The corners where a line between two points begins and ends. -/
def lineHandlers (first last : Point) : Handler × Handler :=
  if first.x ≤ last.x then
    if first.y ≤ last.y then (.topLeft, .bottomRight) else (.bottomLeft, .topRight)
  else
    if first.y ≤ last.y then (.topRight, .bottomLeft) else (.bottomRight, .topLeft)

/-- `GetPosHandler`. -/
def Rect.posHandler (rect : Rect) (handler : Handler) : Point :=
  let right := rect.x + (rect.width - 1)
  let bottom := rect.y + (rect.height - 1)
  let middle := rect.x + rect.width.tdiv 2
  let center := rect.y + rect.height.tdiv 2
  match handler with
  | .topMid => ⟨middle, rect.y⟩
  | .midRight => ⟨right, center⟩
  | .bottomMid => ⟨middle, bottom⟩
  | .midLeft => ⟨rect.x, center⟩
  | .topLeft => ⟨rect.x, rect.y⟩
  | .topRight => ⟨right, rect.y⟩
  | .bottomRight => ⟨right, bottom⟩
  | .bottomLeft => ⟨rect.x, bottom⟩
  | .outside | .none => ⟨-1, -1⟩

namespace LineTracker

def posBegin (tracker : LineTracker) : Point := tracker.rect.posHandler tracker.beginHandler

def posEnd (tracker : LineTracker) : Point := tracker.rect.posHandler tracker.endHandler

/-- The extent `dx, dy` of the line. -/
def extent (tracker : LineTracker) : Int × Int :=
  (tracker.posEnd.x - tracker.posBegin.x, tracker.posEnd.y - tracker.posBegin.y)

/-- `SetTrackerPosition`, which does not look at the max rect. -/
def setTrackerPosition (tracker : LineTracker) (first last : Point) : LineTracker :=
  { tracker with
    rect := rectBetween first last
    beginHandler := (lineHandlers first last).1
    endHandler := (lineHandlers first last).2 }

/-- `wxRectTracker::AdjustTrackerRect`, which the line tracker inherits. -/
def adjustTrackerRect (tracker : LineTracker) : Rect :=
  if tracker.maxRect.width < 0 ∨ tracker.maxRect.height < 0 then tracker.rect
  else
    .ofSpans
      (Span.confine true tracker.maxRect.horizontal tracker.rect.horizontal)
      (Span.confine true tracker.maxRect.vertical tracker.rect.vertical)

/-- `wxRectTracker::Update`, which `SetMaxRect` and `Disable` call. -/
def update (tracker : LineTracker) : LineTracker :=
  { tracker with rect := tracker.adjustTrackerRect }

/-- `SetMaxRect`. -/
def setMaxRect (tracker : LineTracker) (maxRect : Rect) : LineTracker :=
  update { tracker with maxRect := ⟨maxRect.x, maxRect.y, |maxRect.width|, |maxRect.height|⟩ }

/-- The point at a scale. -/
def scalePoint (point : Point) (factor : ℚ) : Point :=
  ⟨truncate (point.x * factor), truncate (point.y * factor)⟩

/-- The half of `AdjustTrackerSize` for the line: at the new scale, between the new bounds. -/
def adjustTrackerSize (tracker : LineTracker) (ratio : ℚ) (image scaled : Rect) : LineTracker :=
  let tracker := tracker.setMaxRect image
  let tracker :=
    if ratio > 0 then
      tracker.setTrackerPosition (scalePoint tracker.posBegin ratio)
        (scalePoint tracker.posEnd ratio)
    else tracker
  tracker.setMaxRect scaled

variable {tracker : LineTracker}

/-! ## The points of a line -/

/-- A drawn line begins and ends at the points it was drawn between. -/
theorem pos_setTrackerPosition (tracker : LineTracker) (first last : Point) :
    (tracker.setTrackerPosition first last).posBegin = first ∧
      (tracker.setTrackerPosition first last).posEnd = last := by
  have right (a b : Int) : min a b + (|b - a| + 1 - 1) = max a b := by
    rcases le_total a b with le | le
    · rw [min_eq_left le, max_eq_right le, abs_of_nonneg (by omega)]
      omega
    · rw [min_eq_right le, max_eq_left le, abs_of_nonpos (by omega)]
      omega
  unfold posBegin posEnd setTrackerPosition lineHandlers rectBetween spanBetween
  simp only [Rect.ofSpans]
  split_ifs with column row row <;> simp only [Rect.posHandler, right] <;>
    constructor <;> cases first <;> cases last <;> simp only [Point.mk.injEq] at * <;> omega

@[simp] theorem posBegin_setTrackerPosition (first last : Point) :
    (tracker.setTrackerPosition first last).posBegin = first :=
  (pos_setTrackerPosition tracker first last).1

@[simp] theorem posEnd_setTrackerPosition (first last : Point) :
    (tracker.setTrackerPosition first last).posEnd = last :=
  (pos_setTrackerPosition tracker first last).2

@[simp] theorem setTrackerPosition_maxRect (first last : Point) :
    (tracker.setTrackerPosition first last).maxRect = tracker.maxRect := rfl

@[simp] theorem setTrackerPosition_rect (first last : Point) :
    (tracker.setTrackerPosition first last).rect = rectBetween first last := rfl

/-- Two corners that a drawn line can have. -/
def Diagonal (tracker : LineTracker) : Prop :=
  match tracker.beginHandler, tracker.endHandler with
  | .topLeft, .bottomRight | .bottomLeft, .topRight | .topRight, .bottomLeft
  | .bottomRight, .topLeft => True
  | _, _ => False

instance (tracker : LineTracker) : Decidable tracker.Diagonal := by
  unfold Diagonal
  split <;> infer_instance

theorem spanBetween_ends {span : Span} (positive : 0 < span.length) :
    spanBetween span.start (span.start + (span.length - 1)) = span ∧
      spanBetween (span.start + (span.length - 1)) span.start = span := by
  unfold spanBetween
  constructor
  · rw [min_eq_left (by omega), abs_of_nonneg (by omega)]
    ext <;> simp
  · rw [min_eq_right (by omega), abs_of_nonpos (by omega)]
    ext <;> simp

/-- The rectangle of a line is the one between its two points. -/
theorem rectBetween_pos (diagonal : tracker.Diagonal) (wide : 0 < tracker.rect.width)
    (high : 0 < tracker.rect.height) :
    rectBetween tracker.posBegin tracker.posEnd = tracker.rect := by
  obtain ⟨right, left⟩ := @spanBetween_ends tracker.rect.horizontal wide
  obtain ⟨down, up⟩ := @spanBetween_ends tracker.rect.vertical high
  simp only [Rect.horizontal, Rect.vertical] at right left down up
  unfold Diagonal at diagonal
  unfold rectBetween posBegin posEnd
  split at diagonal
  · rename_i first last
    rw [first, last]
    simp only [Rect.posHandler, right, down, Rect.ofSpans]
  · rename_i first last
    rw [first, last]
    simp only [Rect.posHandler, right, up, Rect.ofSpans]
  · rename_i first last
    rw [first, last]
    simp only [Rect.posHandler, left, down, Rect.ofSpans]
  · rename_i first last
    rw [first, last]
    simp only [Rect.posHandler, left, up, Rect.ofSpans]
  · exact diagonal.elim

/-! ## Clipping -/

/-- A line inside the max rect stays as it is. -/
theorem update_of_inside (inside : tracker.rect.Inside tracker.maxRect) :
    tracker.update = tracker := by
  unfold update adjustTrackerRect
  split
  · rfl
  · rw [Span.confine_of_within inside.1, Span.confine_of_within inside.2]
    rfl

theorem setMaxRect_maxRect {maxRect : Rect} (tracker : LineTracker) (sized : maxRect.Sized) :
    (tracker.setMaxRect maxRect).maxRect = maxRect := by
  show (⟨_, _, |maxRect.width|, |maxRect.height|⟩ : Rect) = maxRect
  rw [abs_of_nonneg sized.1, abs_of_nonneg sized.2]

theorem setMaxRect_of_inside {maxRect : Rect} (sized : maxRect.Sized)
    (inside : tracker.rect.Inside maxRect) :
    tracker.setMaxRect maxRect = { tracker with maxRect } := by
  unfold setMaxRect
  rw [abs_of_nonneg sized.1, abs_of_nonneg sized.2]
  exact update_of_inside inside

@[simp] theorem scalePoint_one (point : Point) : scalePoint point 1 = point := by
  simp [scalePoint]

/-- A line that is not scaled and lies inside both bounds keeps its points. -/
theorem adjustTrackerSize_one {image scaled : Rect} (diagonal : tracker.Diagonal)
    (wide : 0 < tracker.rect.width) (high : 0 < tracker.rect.height) (imageSized : image.Sized)
    (scaledSized : scaled.Sized) (inImage : tracker.rect.Inside image)
    (inScaled : tracker.rect.Inside scaled) :
    (tracker.adjustTrackerSize 1 image scaled).posBegin = tracker.posBegin ∧
      (tracker.adjustTrackerSize 1 image scaled).posEnd = tracker.posEnd := by
  have between := rectBetween_pos diagonal wide high
  have whole : (tracker.adjustTrackerSize 1 image scaled) =
      { tracker.setTrackerPosition tracker.posBegin tracker.posEnd with maxRect := scaled } := by
    unfold adjustTrackerSize
    rw [setMaxRect_of_inside imageSized inImage]
    simp only [gt_iff_lt, one_pos, if_true, scalePoint_one]
    apply setMaxRect_of_inside scaledSized
    show (rectBetween tracker.posBegin tracker.posEnd).Inside scaled
    rw [between]
    exact inScaled
  rw [whole]
  exact pos_setTrackerPosition tracker tracker.posBegin tracker.posEnd

end LineTracker

end RPhoto.Tracker
