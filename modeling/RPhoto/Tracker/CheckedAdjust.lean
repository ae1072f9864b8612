import RPhoto.Library.Checked
import RPhoto.Tracker.RatioConstraint

/-!
# Adjusting with integers of 32 bits

`CalcRectDist`, `CalcRectNearer` and the two passes of `AdjustTrackerRect` once
more, with a check at every conversion of a `double` and at every difference,
product and sum of a distance.  A checked computation that comes to an end has
the result of the unchecked one.  Positions are still unbounded.
-/

namespace RPhoto.Tracker

open RPhoto.Library

namespace RectTrackerRatio

/-- `CalcRectDist`, whose sum is an `int`. -/
def checkedDist (r1 r2 : Rect) : Option Int :=
  addSquares 0 [r1.x - r2.x, r1.y - r2.y, r1.width - r2.width, r1.height - r2.height]

/-- `CalcRectNearer`. -/
def checkedNearer (rr r1 r2 : Rect) : Option Rect :=
  (checkedDist rr r2).bind fun second =>
    (checkedDist rr r1).map fun first => if second < first then r2 else r1

/-- Portrait or landscape? -/
def checkedOrientation (tracker : RectTrackerRatio) (curRect rectPort rectLand : Rect) :
    Option Rect :=
  if tracker.orientation = -1 then some rectLand
  else if tracker.orientation = 1 then some rectPort
  else checkedNearer curRect rectPort rectLand

/-- `rectWidth` of `AdjustTrackerRectRatio`. -/
def checkedRectWidth (tracker : RectTrackerRatio) (curRect : Rect) (handler : Handler) :
    Option Rect :=
  (checked (truncate (curRect.height * tracker.ratio))).bind fun portWidth =>
    (checked (truncate (curRect.height / tracker.ratio))).bind fun landWidth =>
      let moved (width : Int) : Int :=
        if handler.left then curRect.x + (curRect.width - width) else curRect.x
      tracker.checkedOrientation curRect
        { curRect with x := moved portWidth, width := portWidth }
        { curRect with x := moved landWidth, width := landWidth }

/-- `rectHeight` of `AdjustTrackerRectRatio`. -/
def checkedRectHeight (tracker : RectTrackerRatio) (curRect : Rect) (handler : Handler) :
    Option Rect :=
  (checked (truncate (curRect.width / tracker.ratio))).bind fun portHeight =>
    (checked (truncate (curRect.width * tracker.ratio))).bind fun landHeight =>
      let moved (height : Int) : Int :=
        if handler.top then curRect.y + (curRect.height - height) else curRect.y
      tracker.checkedOrientation curRect
        { curRect with y := moved portHeight, height := portHeight }
        { curRect with y := moved landHeight, height := landHeight }

/-- The rectangle that `AdjustTrackerRectRatio` takes. -/
def checkedPick (curRect rectWidth rectHeight : Rect) (handler : Handler) (expand : Bool) :
    Option Rect :=
  match handler with
  | .topMid | .bottomMid => some (if expand then rectWidth else rectHeight)
  | .midRight | .midLeft => some (if expand then rectHeight else rectWidth)
  | _ =>
      if expand then checkedNearer curRect rectHeight rectWidth
      else
        checkedNearer curRect
          (if curRect.height < rectHeight.height then { rectHeight with height := farSize }
            else rectHeight)
          (if curRect.width < rectWidth.width then { rectWidth with width := farSize }
            else rectWidth)

/-- `AdjustTrackerRectRatio`. -/
def checkedRatio (tracker : RectTrackerRatio) (curRect : Rect) (handler : Handler)
    (expand : Bool) : Option Rect :=
  if tracker.ratio ≤ 0 then some curRect
  else
    (tracker.checkedRectWidth curRect handler).bind fun rectWidth =>
      (tracker.checkedRectHeight curRect handler).bind fun rectHeight =>
        checkedPick curRect rectWidth rectHeight handler expand

/-- `AdjustTrackerRect`. -/
def checkedAdjust (tracker : RectTrackerRatio) (curRect : Rect) (handler : Handler) :
    Option Rect :=
  let curRect := tracker.adjustTrackerRectMax curRect handler
  let curRect :=
    if tracker.fixedWidth > 0 ∧ tracker.fixedHeight > 0 then
      tracker.adjustTrackerRectFixed curRect
    else curRect
  if tracker.ratio > 0 then
    (tracker.checkedRatio curRect handler true).bind fun curRect =>
      tracker.checkedRatio (tracker.adjustTrackerRectMax curRect handler) handler false
  else some curRect

/-! ## Distances -/

theorem checkedDist_computes (r1 r2 : Rect) :
    Computes (checkedDist r1 r2) (calcRectDist r1 r2 ≤ maxInt) (calcRectDist r1 r2) := by
  have sum : 0 + squares [r1.x - r2.x, r1.y - r2.y, r1.width - r2.width, r1.height - r2.height] =
      calcRectDist r1 r2 := by
    simp only [squares_cons, squares_nil, calcRectDist]
    ring
  have added := addSquares_computes le_rfl (by decide)
    [r1.x - r2.x, r1.y - r2.y, r1.width - r2.width, r1.height - r2.height]
  rwa [sum] at added

/-- Both distances from a rectangle are in the range. -/
def BothNear (rr r1 r2 : Rect) : Prop :=
  calcRectDist rr r2 ≤ maxInt ∧ calcRectDist rr r1 ≤ maxInt

theorem checkedNearer_computes (rr r1 r2 : Rect) :
    Computes (checkedNearer rr r1 r2) (BothNear rr r1 r2) (calcRectNearer rr r1 r2) :=
  (checkedDist_computes rr r2).bind ((checkedDist_computes rr r1).map _)

/-- The checked rectangle is one of the two, and no farther than either. -/
theorem checkedNearer_nearest {rr r1 r2 near : Rect} (found : checkedNearer rr r1 r2 = some near) :
    (near = r1 ∨ near = r2) ∧ calcRectDist rr near ≤ calcRectDist rr r1 ∧
      calcRectDist rr near ≤ calcRectDist rr r2 := by
  obtain ⟨_, rfl⟩ := (checkedNearer_computes rr r1 r2 near).mp found
  exact ⟨calcRectNearer_mem rr r1 r2, calcRectNearer_nearest rr r1 r2⟩

variable {tracker : RectTrackerRatio} {rect : Rect} {handler : Handler} {expand : Bool}

/-! ## One pass -/

/-- An orientation that is asked for needs no distance. -/
def Oriented (tracker : RectTrackerRatio) : Prop :=
  tracker.orientation = -1 ∨ tracker.orientation = 1

theorem checkedOrientation_computes (curRect rectPort rectLand : Rect) :
    Computes (tracker.checkedOrientation curRect rectPort rectLand)
      (tracker.Oriented ∨ BothNear curRect rectPort rectLand)
      (tracker.chooseOrientation curRect rectPort rectLand) := by
  unfold checkedOrientation chooseOrientation
  by_cases landscape : tracker.orientation = -1
  · rw [if_pos landscape, if_pos landscape]
    exact (Computes.of_eq_some rfl).congr (iff_of_true trivial (.inl (.inl landscape)))
  rw [if_neg landscape, if_neg landscape]
  by_cases portrait : tracker.orientation = 1
  · rw [if_pos portrait, if_pos portrait]
    exact (Computes.of_eq_some rfl).congr (iff_of_true trivial (.inl (.inr portrait)))
  rw [if_neg portrait, if_neg portrait]
  refine (checkedNearer_computes curRect rectPort rectLand).congr ?_
  exact (or_iff_right fun oriented => oriented.elim landscape portrait).symm

/-- What a change of one side adds to the distance. -/
def sideDist (moved : Bool) (size side : Int) : Int :=
  sideWeight moved * ((size - side) * (size - side))

/-- What the two widths for a height ask of the range. -/
def WidthFits (tracker : RectTrackerRatio) (rect : Rect) (handler : Handler) : Prop :=
  FitsInt (enlarge tracker.ratio rect.height) ∧ FitsInt (reduce tracker.ratio rect.height) ∧
    (tracker.Oriented ∨
      sideDist handler.left rect.width (reduce tracker.ratio rect.height) ≤ maxInt ∧
        sideDist handler.left rect.width (enlarge tracker.ratio rect.height) ≤ maxInt)

/-- What the two heights for a width ask of the range. -/
def HeightFits (tracker : RectTrackerRatio) (rect : Rect) (handler : Handler) : Prop :=
  FitsInt (reduce tracker.ratio rect.width) ∧ FitsInt (enlarge tracker.ratio rect.width) ∧
    (tracker.Oriented ∨
      sideDist handler.top rect.height (enlarge tracker.ratio rect.width) ≤ maxInt ∧
        sideDist handler.top rect.height (reduce tracker.ratio rect.width) ≤ maxInt)

theorem checkedRectWidth_computes (tracker : RectTrackerRatio) (rect : Rect)
    (handler : Handler) :
    Computes (tracker.checkedRectWidth rect handler) (tracker.WidthFits rect handler)
      (tracker.rectWidth rect handler) := by
  have chosen := @checkedOrientation_computes tracker rect
    (.ofSpans (rect.horizontal.resized handler.left (enlarge tracker.ratio rect.height))
      rect.vertical)
    (.ofSpans (rect.horizontal.resized handler.left (reduce tracker.ratio rect.height))
      rect.vertical)
  unfold BothNear at chosen
  rw [dist_width, dist_width, ← withWidth_eq, ← withWidth_eq] at chosen
  exact (checked_computes _).bind ((checked_computes _).bind chosen)

theorem checkedRectHeight_computes (tracker : RectTrackerRatio) (rect : Rect)
    (handler : Handler) :
    Computes (tracker.checkedRectHeight rect handler) (tracker.HeightFits rect handler)
      (tracker.rectHeight rect handler) := by
  have chosen := @checkedOrientation_computes tracker rect
    (.ofSpans rect.horizontal (rect.vertical.resized handler.top (reduce tracker.ratio rect.width)))
    (.ofSpans rect.horizontal
      (rect.vertical.resized handler.top (enlarge tracker.ratio rect.width)))
  unfold BothNear at chosen
  rw [dist_height, dist_height, ← withHeight_eq, ← withHeight_eq] at chosen
  exact (checked_computes _).bind ((checked_computes _).bind chosen)

/-- What the last choice of a pass asks of the range. -/
def PickFits (tracker : RectTrackerRatio) (rect : Rect) (handler : Handler) (expand : Bool) :
    Prop :=
  let width := tracker.widthFor rect.width rect.height
  let height := tracker.heightFor rect.width rect.height
  handler.mid = true ∨
    (if ¬expand ∧ rect.width < width then markedDist handler.left rect.width width
      else sideDist handler.left rect.width width) ≤ maxInt ∧
    (if ¬expand ∧ rect.height < height then markedDist handler.top rect.height height
      else sideDist handler.top rect.height height) ≤ maxInt

theorem checkedPick_corner (corner : handler.mid = false) (expand : Bool)
    (rect rectWidth rectHeight : Rect) :
    checkedPick rect rectWidth rectHeight handler expand =
      if expand then checkedNearer rect rectHeight rectWidth
      else
        checkedNearer rect
          (if rect.height < rectHeight.height then { rectHeight with height := farSize }
            else rectHeight)
          (if rect.width < rectWidth.width then { rectWidth with width := farSize }
            else rectWidth) := by
  cases handler <;> first | rfl | cases corner

theorem checkedPick_computes (positive : 0 < tracker.ratio) (rect : Rect) (handler : Handler)
    (expand : Bool) :
    Computes
      (checkedPick rect (tracker.rectWidth rect handler) (tracker.rectHeight rect handler)
        handler expand)
      (tracker.PickFits rect handler expand)
      (tracker.adjustTrackerRectRatio rect handler expand) := by
  cases mid : handler.mid with
  | true =>
      have picked : checkedPick rect (tracker.rectWidth rect handler)
          (tracker.rectHeight rect handler) handler expand =
            some (tracker.adjustTrackerRectRatio rect handler expand) := by
        unfold adjustTrackerRectRatio
        rw [if_neg (not_le.mpr positive)]
        cases handler <;> first | rfl | cases mid
      exact (Computes.of_eq_some picked).congr (iff_of_true trivial (.inl mid))
  | false =>
      have notMid : ¬handler.mid = true := Bool.eq_false_iff.mp mid
      rw [checkedPick_corner mid]
      cases expand with
      | true =>
          rw [firstPass_eq positive mid]
          refine (checkedNearer_computes _ _ _).congr ?_
          unfold BothNear PickFits
          rw [dist_rectWidth, dist_rectHeight]
          simp [notMid, sideDist]
      | false =>
          rw [secondPass_eq positive mid, rectWidth_width, rectHeight_height]
          refine (checkedNearer_computes _ _ _).congr ?_
          unfold BothNear PickFits
          rw [apply_ite (calcRectDist rect), apply_ite (calcRectDist rect),
            dist_rectWidth, dist_rectHeight, dist_marked_rectWidth, dist_marked_rectHeight]
          simp [notMid, sideDist]

/-- What one pass asks of the range. -/
structure PassFits (tracker : RectTrackerRatio) (rect : Rect) (handler : Handler)
    (expand : Bool) : Prop where
  width : tracker.WidthFits rect handler
  height : tracker.HeightFits rect handler
  pick : tracker.PickFits rect handler expand

theorem checkedRatio_computes (positive : 0 < tracker.ratio) (rect : Rect) (handler : Handler)
    (expand : Bool) :
    Computes (tracker.checkedRatio rect handler expand) (tracker.PassFits rect handler expand)
      (tracker.adjustTrackerRectRatio rect handler expand) := by
  unfold checkedRatio
  rw [if_neg (not_le.mpr positive)]
  refine ((checkedRectWidth_computes tracker rect handler).bind
    ((checkedRectHeight_computes tracker rect handler).bind
      (checkedPick_computes positive rect handler expand))).congr ?_
  exact ⟨fun ⟨width, height, pick⟩ => ⟨width, height, pick⟩,
    fun fits => ⟨fits.width, fits.height, fits.pick⟩⟩

theorem PassFits.of_size {other : Rect} (fits : tracker.PassFits rect handler expand)
    (width : other.width = rect.width) (height : other.height = rect.height) :
    tracker.PassFits other handler expand := by
  obtain ⟨byWidth, byHeight, pick⟩ := fits
  constructor
  · unfold WidthFits
    rw [width, height]
    exact byWidth
  · unfold HeightFits
    rw [width, height]
    exact byHeight
  · unfold PickFits
    rw [width, height]
    exact pick

/-! ## Both passes -/

/-- The rectangle of the first pass. -/
def startRect (tracker : RectTrackerRatio) (rect : Rect) (handler : Handler) : Rect :=
  let rect := tracker.adjustTrackerRectMax rect handler
  if tracker.fixedWidth > 0 ∧ tracker.fixedHeight > 0 then tracker.adjustTrackerRectFixed rect
  else rect

/-- The rectangle of the second pass. -/
def secondRect (tracker : RectTrackerRatio) (rect : Rect) (handler : Handler) : Rect :=
  tracker.adjustTrackerRectMax
    (tracker.adjustTrackerRectRatio (tracker.startRect rect handler) handler true) handler

theorem adjust_of_ratio (positive : 0 < tracker.ratio) (rect : Rect) (handler : Handler) :
    tracker.adjustTrackerRect rect handler =
      tracker.adjustTrackerRectRatio (tracker.secondRect rect handler) handler false :=
  if_pos positive

/-- Both passes find the sides and the distances that they compute in the range. -/
def RangeFits (tracker : RectTrackerRatio) (rect : Rect) (handler : Handler) : Prop :=
  0 < tracker.ratio →
    tracker.PassFits (tracker.startRect rect handler) handler true ∧
      tracker.PassFits (tracker.secondRect rect handler) handler false

theorem checkedAdjust_computes (tracker : RectTrackerRatio) (rect : Rect) (handler : Handler) :
    Computes (tracker.checkedAdjust rect handler) (tracker.RangeFits rect handler)
      (tracker.adjustTrackerRect rect handler) := by
  by_cases positive : 0 < tracker.ratio
  · have checked : tracker.checkedAdjust rect handler =
        (tracker.checkedRatio (tracker.startRect rect handler) handler true).bind fun curRect =>
          tracker.checkedRatio (tracker.adjustTrackerRectMax curRect handler) handler false :=
      if_pos positive
    rw [adjust_of_ratio positive, checked]
    exact ((checkedRatio_computes positive _ handler true).bind
      (checkedRatio_computes positive _ handler false)).congr
        ⟨fun fits _ => fits, fun fits => fits positive⟩
  · have same : tracker.checkedAdjust rect handler =
        some (tracker.adjustTrackerRect rect handler) := by
      unfold checkedAdjust adjustTrackerRect
      dsimp only
      rw [if_neg positive, if_neg positive]
    exact (Computes.of_eq_some same).congr (iff_of_true trivial fun other => absurd other positive)

/-- Adjusting stays in the range of an `int`: the checked computation has the result of the
unchecked one. -/
def StaysInRange (tracker : RectTrackerRatio) (rect : Rect) (handler : Handler) : Prop :=
  tracker.checkedAdjust rect handler = some (tracker.adjustTrackerRect rect handler)

instance (tracker : RectTrackerRatio) (rect : Rect) (handler : Handler) :
    Decidable (tracker.StaysInRange rect handler) :=
  inferInstanceAs (Decidable (_ = _))

theorem staysInRange_iff_rangeFits :
    tracker.StaysInRange rect handler ↔ tracker.RangeFits rect handler :=
  (checkedAdjust_computes tracker rect handler).eq_some_iff

instance (tracker : RectTrackerRatio) (rect : Rect) (handler : Handler) :
    Decidable (tracker.RangeFits rect handler) :=
  decidable_of_iff _ staysInRange_iff_rangeFits

/-- The max rect and the settings decide, as for the unchecked computation. -/
theorem checkedAdjust_congr {next : RectTrackerRatio} (maxRect : next.maxRect = tracker.maxRect)
    (ratio : next.ratio = tracker.ratio) (orientation : next.orientation = tracker.orientation)
    (fixedWidth : next.fixedWidth = tracker.fixedWidth)
    (fixedHeight : next.fixedHeight = tracker.fixedHeight) (rect : Rect) (handler : Handler) :
    next.checkedAdjust rect handler = tracker.checkedAdjust rect handler := by
  cases next
  cases tracker
  dsimp only at maxRect ratio orientation fixedWidth fixedHeight
  subst maxRect ratio orientation fixedWidth fixedHeight
  rfl

theorem rangeFits_congr {next : RectTrackerRatio} (maxRect : next.maxRect = tracker.maxRect)
    (ratio : next.ratio = tracker.ratio) (orientation : next.orientation = tracker.orientation)
    (fixedWidth : next.fixedWidth = tracker.fixedWidth)
    (fixedHeight : next.fixedHeight = tracker.fixedHeight) (rect : Rect) (handler : Handler) :
    next.RangeFits rect handler ↔ tracker.RangeFits rect handler := by
  rw [← staysInRange_iff_rangeFits, ← staysInRange_iff_rangeFits, StaysInRange, StaysInRange,
    checkedAdjust_congr maxRect ratio orientation fixedWidth fixedHeight,
    adjustTrackerRect_congr maxRect ratio orientation fixedWidth fixedHeight]

theorem startRect_of_inside (unfixed : tracker.fixedWidth = -1) (set : tracker.maxRect.Sized)
    (inside : rect.Inside tracker.maxRect) (handler : Handler) :
    tracker.startRect rect handler = rect := by
  unfold startRect
  dsimp only
  rw [max_of_inside set inside, if_neg (by omega)]

theorem staysInRange_iff (unfixed : tracker.fixedWidth = -1) (positive : 0 < tracker.ratio)
    (set : tracker.maxRect.Sized) (inside : rect.Inside tracker.maxRect) (handler : Handler) :
    tracker.StaysInRange rect handler ↔
      tracker.PassFits rect handler true ∧
        tracker.PassFits (tracker.secondRect rect handler) handler false := by
  have start := startRect_of_inside unfixed set inside handler
  rw [staysInRange_iff_rangeFits, RangeFits, start]
  exact ⟨fun fits => fits positive, fun fits _ => fits⟩

/-! ## Update -/

/-- `Update`. -/
def checkedUpdate (tracker : RectTrackerRatio) : Option RectTrackerRatio :=
  (tracker.checkedAdjust tracker.rect .outside).map fun curRect =>
    { tracker with
      curRect
      rect := if curRect ≠ tracker.rect then curRect else tracker.rect }

/-- `Update` finds everything in the range. -/
def UpdateInRange (tracker : RectTrackerRatio) : Prop :=
  tracker.RangeFits tracker.rect .outside

instance (tracker : RectTrackerRatio) : Decidable tracker.UpdateInRange :=
  inferInstanceAs (Decidable (RangeFits ..))

theorem checkedUpdate_computes (tracker : RectTrackerRatio) :
    Computes tracker.checkedUpdate tracker.UpdateInRange tracker.update :=
  (checkedAdjust_computes tracker tracker.rect .outside).map _

/-- `Update` finds everything in the range, and leaves the rectangle as it is. -/
def Remains (tracker : RectTrackerRatio) : Prop :=
  tracker.checkedAdjust tracker.rect .outside = some tracker.rect

instance (tracker : RectTrackerRatio) : Decidable tracker.Remains :=
  inferInstanceAs (Decidable (_ = _))

theorem Remains.adjust (remains : tracker.Remains) :
    tracker.adjustTrackerRect tracker.rect .outside = tracker.rect :=
  ((checkedAdjust_computes tracker tracker.rect .outside _).mp remains).2.symm

end RectTrackerRatio

end RPhoto.Tracker
