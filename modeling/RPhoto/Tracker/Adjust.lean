import RPhoto.Tracker.Proportion

/-!
# What adjusting a rectangle does

The first clipping brings a rectangle that meets the max rect inside it.  The
first ratio pass then lengthens or shortens one side, the second clipping cuts
that side to the room there is, and the second ratio pass must find a rectangle
that is not larger.  It fails to in two ways: when the only sides it finds are
longer ones, and when the size that marks a rectangle as too far away is nearer
than the other rectangle.
-/

namespace RPhoto.Tracker

open RPhoto.Library

/-- The handlers in the middle of a side. -/
def Handler.mid : Handler → Bool
  | topMid | bottomMid | midRight | midLeft => true
  | _ => false

namespace RectTrackerRatio

/-! ## Distances -/

/-- A moved side counts a second time. -/
def sideWeight (moved : Bool) : Int := if moved then 2 else 1

theorem dist_width (rect : Rect) (moved : Bool) (width : Int) :
    calcRectDist rect (.ofSpans (rect.horizontal.resized moved width) rect.vertical) =
      sideWeight moved * ((rect.width - width) * (rect.width - width)) := by
  cases moved <;>
    simp only [calcRectDist, Rect.ofSpans, Rect.horizontal, Rect.vertical, Span.resized, Span.stop,
      sideWeight, if_true, if_false, Bool.false_eq_true] <;>
    ring

theorem dist_height (rect : Rect) (moved : Bool) (height : Int) :
    calcRectDist rect (.ofSpans rect.horizontal (rect.vertical.resized moved height)) =
      sideWeight moved * ((rect.height - height) * (rect.height - height)) := by
  cases moved <;>
    simp only [calcRectDist, Rect.ofSpans, Rect.horizontal, Rect.vertical, Span.resized, Span.stop,
      sideWeight, if_true, if_false, Bool.false_eq_true] <;>
    ring

theorem calcRectDist_nonneg (r1 r2 : Rect) : 0 ≤ calcRectDist r1 r2 := by
  unfold calcRectDist
  have := mul_self_nonneg (r1.x - r2.x)
  have := mul_self_nonneg (r1.y - r2.y)
  have := mul_self_nonneg (r1.width - r2.width)
  have := mul_self_nonneg (r1.height - r2.height)
  omega

@[simp] theorem calcRectDist_self (rect : Rect) : calcRectDist rect rect = 0 := by
  simp [calcRectDist]

theorem eq_of_calcRectDist {r1 r2 : Rect} (zero : calcRectDist r1 r2 = 0) : r1 = r2 := by
  unfold calcRectDist at zero
  have x := mul_self_nonneg (r1.x - r2.x)
  have y := mul_self_nonneg (r1.y - r2.y)
  have width := mul_self_nonneg (r1.width - r2.width)
  have height := mul_self_nonneg (r1.height - r2.height)
  have := mul_self_eq_zero.mp (show (r1.x - r2.x) * (r1.x - r2.x) = 0 by omega)
  have := mul_self_eq_zero.mp (show (r1.y - r2.y) * (r1.y - r2.y) = 0 by omega)
  have := mul_self_eq_zero.mp (show (r1.width - r2.width) * (r1.width - r2.width) = 0 by omega)
  have := mul_self_eq_zero.mp (show (r1.height - r2.height) * (r1.height - r2.height) = 0 by omega)
  cases r1
  cases r2
  simp only [Rect.mk.injEq] at *
  omega

@[simp] theorem calcRectNearer_left (rect other : Rect) :
    calcRectNearer rect rect other = rect := by
  have := calcRectDist_nonneg rect other
  rw [calcRectNearer, calcRectDist_self, if_neg (by omega)]

@[simp] theorem calcRectNearer_right (rect other : Rect) :
    calcRectNearer rect other rect = rect := by
  unfold calcRectNearer
  split
  · rfl
  case isFalse farther =>
    have := calcRectDist_nonneg rect other
    rw [calcRectDist_self] at farther
    exact (eq_of_calcRectDist (by omega)).symm

theorem calcRectNearer_mem (rect first second : Rect) :
    calcRectNearer rect first second = first ∨ calcRectNearer rect first second = second := by
  unfold calcRectNearer
  split <;> simp

/-- The nearer rectangle is no farther than either. -/
theorem calcRectNearer_nearest (rect first second : Rect) :
    calcRectDist rect (calcRectNearer rect first second) ≤ calcRectDist rect first ∧
      calcRectDist rect (calcRectNearer rect first second) ≤ calcRectDist rect second := by
  unfold calcRectNearer
  split
  · rename_i nearer
    exact ⟨nearer.le, le_rfl⟩
  · rename_i farther
    exact ⟨le_rfl, not_lt.mp farther⟩

variable {tracker next : RectTrackerRatio} {rect : Rect} {handler : Handler}

/-- What `Update` makes of a rectangle depends on the max rect and on the settings alone. -/
theorem adjustTrackerRect_congr (maxRect : next.maxRect = tracker.maxRect)
    (ratio : next.ratio = tracker.ratio) (orientation : next.orientation = tracker.orientation)
    (fixedWidth : next.fixedWidth = tracker.fixedWidth)
    (fixedHeight : next.fixedHeight = tracker.fixedHeight) (rect : Rect) (handler : Handler) :
    next.adjustTrackerRect rect handler = tracker.adjustTrackerRect rect handler := by
  cases next
  cases tracker
  dsimp only at maxRect ratio orientation fixedWidth fixedHeight
  subst maxRect ratio orientation fixedWidth fixedHeight
  rfl

/-! ## The two rectangles of a ratio pass -/

/-- Choosing between two rectangles that differ in one side is choosing the side. -/
theorem chooseOrientation_eq {shape : Int → Rect} {size weight : Int} (weighs : 0 < weight)
    (dist : ∀ side,
      calcRectDist rect (shape side) = weight * ((size - side) * (size - side)))
    (port land : Int) :
    tracker.chooseOrientation rect (shape port) (shape land) =
      shape (chooseSide tracker.orientation size port land) := by
  simp only [chooseOrientation, chooseSide, calcRectNearer, dist,
    mul_lt_mul_iff_right₀ weighs, apply_ite shape]

theorem sideWeight_pos (moved : Bool) : 0 < sideWeight moved := by
  cases moved <;> decide

/-- Another width, from the left or from the right side. -/
theorem withWidth_eq (rect : Rect) (left : Bool) (width : Int) :
    ({ rect with x := if left then rect.x + (rect.width - width) else rect.x, width } : Rect) =
      .ofSpans (rect.horizontal.resized left width) rect.vertical := by
  cases left <;>
    simp [Rect.ofSpans, Rect.horizontal, Rect.vertical, Span.resized, Span.stop]
  omega

/-- Another height, from the top or from the bottom. -/
theorem withHeight_eq (rect : Rect) (top : Bool) (height : Int) :
    ({ rect with y := if top then rect.y + (rect.height - height) else rect.y, height } : Rect) =
      .ofSpans rect.horizontal (rect.vertical.resized top height) := by
  cases top <;>
    simp [Rect.ofSpans, Rect.horizontal, Rect.vertical, Span.resized, Span.stop]
  omega

theorem rectWidth_eq (tracker : RectTrackerRatio) (rect : Rect) (handler : Handler) :
    tracker.rectWidth rect handler =
      .ofSpans (rect.horizontal.resized handler.left (tracker.widthFor rect.width rect.height))
        rect.vertical := by
  simp only [rectWidth, withWidth_eq]
  exact chooseOrientation_eq (sideWeight_pos handler.left) (dist_width rect handler.left) _ _

theorem rectHeight_eq (tracker : RectTrackerRatio) (rect : Rect) (handler : Handler) :
    tracker.rectHeight rect handler =
      .ofSpans rect.horizontal
        (rect.vertical.resized handler.top (tracker.heightFor rect.width rect.height)) := by
  simp only [rectHeight, withHeight_eq]
  exact chooseOrientation_eq (sideWeight_pos handler.top) (dist_height rect handler.top) _ _

/-- A pass over the width leaves a rectangle in ratio. -/
theorem inRatio_rectWidth (rect : Rect) (handler : Handler) :
    tracker.InRatio (tracker.rectWidth rect handler) := by
  rw [rectWidth_eq]
  exact .inl (by simpa [Rect.ofSpans, Rect.vertical] using widthFor_idem)

theorem inRatio_rectHeight (rect : Rect) (handler : Handler) :
    tracker.InRatio (tracker.rectHeight rect handler) := by
  rw [rectHeight_eq]
  exact .inr (by simpa [Rect.ofSpans, Rect.horizontal] using heightFor_idem)

@[simp] theorem rectWidth_width (rect : Rect) (handler : Handler) :
    (tracker.rectWidth rect handler).width = tracker.widthFor rect.width rect.height := by
  rw [rectWidth_eq]
  exact Span.resized_length

@[simp] theorem rectHeight_height (rect : Rect) (handler : Handler) :
    (tracker.rectHeight rect handler).height = tracker.heightFor rect.width rect.height := by
  rw [rectHeight_eq]
  exact Span.resized_length

/-- One of the two rectangles of a rectangle in ratio is the rectangle itself. -/
theorem InRatio.fixed (inRatio : tracker.InRatio rect) (handler : Handler) :
    tracker.rectWidth rect handler = rect ∨ tracker.rectHeight rect handler = rect := by
  rcases inRatio with width | height
  · left
    rw [rectWidth_eq, width]
    exact congrArg (Rect.ofSpans · rect.vertical) Span.resized_self
  · right
    rw [rectHeight_eq, height]
    exact congrArg (Rect.ofSpans rect.horizontal) Span.resized_self

/-! ## The ratio passes -/

/-- The first pass of a handler that is not in the middle of a side. -/
theorem firstPass_eq (positive : 0 < tracker.ratio) (corner : handler.mid = false) (rect : Rect) :
    tracker.adjustTrackerRectRatio rect handler true =
      calcRectNearer rect (tracker.rectHeight rect handler) (tracker.rectWidth rect handler) := by
  unfold adjustTrackerRectRatio
  rw [if_neg (not_le.mpr positive)]
  cases handler <;> first | rfl | simp [Handler.mid] at corner

/-- The second pass of such a handler. -/
theorem secondPass_eq (positive : 0 < tracker.ratio) (corner : handler.mid = false) (rect : Rect) :
    tracker.adjustTrackerRectRatio rect handler false =
      calcRectNearer rect
        (if rect.height < tracker.heightFor rect.width rect.height then
          { tracker.rectHeight rect handler with height := farSize }
        else tracker.rectHeight rect handler)
        (if rect.width < tracker.widthFor rect.width rect.height then
          { tracker.rectWidth rect handler with width := farSize }
        else tracker.rectWidth rect handler) := by
  unfold adjustTrackerRectRatio
  rw [if_neg (not_le.mpr positive), ← rectWidth_width rect handler,
    ← rectHeight_height rect handler]
  cases handler <;> first | rfl | simp [Handler.mid] at corner

/-- Both passes leave a rectangle in ratio as it is. -/
theorem pass_of_inRatio (positive : 0 < tracker.ratio) (corner : handler.mid = false)
    (inRatio : tracker.InRatio rect) (expand : Bool) :
    tracker.adjustTrackerRectRatio rect handler expand = rect := by
  have width := @rectWidth_width tracker rect handler
  have height := @rectHeight_height tracker rect handler
  cases expand with
  | true =>
      rw [firstPass_eq positive corner]
      rcases inRatio.fixed handler with fixed | fixed <;> rw [fixed] <;> simp
  | false =>
      rw [secondPass_eq positive corner]
      rcases inRatio.fixed handler with fixed | fixed
      · rw [fixed] at width
        rw [← width, if_neg (lt_irrefl rect.width), fixed, calcRectNearer_right]
      · rw [fixed] at height
        rw [← height, if_neg (lt_irrefl rect.height), fixed, calcRectNearer_left]

/-- The first pass yields one of the two rectangles. -/
theorem firstPass_mem (positive : 0 < tracker.ratio) (rect : Rect) (handler : Handler) :
    tracker.adjustTrackerRectRatio rect handler true = tracker.rectHeight rect handler ∨
      tracker.adjustTrackerRectRatio rect handler true = tracker.rectWidth rect handler := by
  cases mid : handler.mid with
  | false =>
      rw [firstPass_eq positive mid]
      exact calcRectNearer_mem rect (tracker.rectHeight rect handler)
        (tracker.rectWidth rect handler)
  | true =>
      unfold adjustTrackerRectRatio
      rw [if_neg (not_le.mpr positive)]
      cases handler with
      | topMid | bottomMid => exact .inr rfl
      | midRight | midLeft => exact .inl rfl
      | _ => simp [Handler.mid] at mid

/-- So the first pass yields a rectangle in ratio. -/
theorem inRatio_firstPass (positive : 0 < tracker.ratio) (rect : Rect) (handler : Handler) :
    tracker.InRatio (tracker.adjustTrackerRectRatio rect handler true) := by
  rcases firstPass_mem positive rect handler with chosen | chosen <;> rw [chosen]
  · exact inRatio_rectHeight rect handler
  · exact inRatio_rectWidth rect handler

end RectTrackerRatio

end RPhoto.Tracker
