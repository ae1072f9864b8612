import RPhoto.Library.Run
import RPhoto.Tracker.BaseTracker
import RPhoto.Tracker.LineTracker

/-!
# The line tracker under the mouse

`wxLineTracker` with everything it inherits from `wxRectTracker` and with its
mouse and its keys.  The line is kept twice: as the rectangle with two tagged
corners, and as the two working points of a drag.  The methods of the base class
that are not virtual call each other there: `SetMaxRect` and `Disable` clip the
rectangle of the line, while the `Update` of the line tracker itself only repaints.
-/

namespace RPhoto.Tracker

open RPhoto.Library
open RectTrackerRatio (Key)

/-- `RT_LINE_HANDLER`; the hit test never returns `RT_LINE_HANDLER_OUTSIDE`. -/
inductive LineHandler where
  | none
  | atBegin
  | atEnd
  | onLine
deriving DecidableEq, Repr

namespace LineHandler

/-- The bit `RT_LINE_HANDLER_BEGIN`. -/
def first : LineHandler → Bool
  | atBegin | onLine => true
  | none | atEnd => false

/-- The bit `RT_LINE_HANDLER_END`. -/
def last : LineHandler → Bool
  | atEnd | onLine => true
  | none | atBegin => false

end LineHandler

/-- The state of `wxLineTracker`. -/
structure WxLineTracker extends RectTracker where
  curBegin : Point
  curEnd : Point
  beginHandler : Handler
  endHandler : Handler
deriving DecidableEq, Repr

/-- `NormalizeRect`. -/
def normalizeRect (rect : Rect) : Rect :=
  let rect :=
    if rect.width < 0 then { rect with x := rect.x + rect.width, width := -rect.width } else rect
  if rect.height < 0 then { rect with y := rect.y + rect.height, height := -rect.height } else rect

/-- The two comparisons of one coordinate with its interval in `AdjustLineTrackerMax`. -/
def clampCoordinate (low high replacement value : Int) : Int :=
  let value := if value < low then low else value
  if value > high then replacement else value

namespace WxLineTracker

/-- The state the constructors leave; they do not set the corners. -/
def create (beginHandler endHandler : Handler) : WxLineTracker where
  toRectTracker := .create
  curBegin := ⟨0, 0⟩
  curEnd := ⟨0, 0⟩
  beginHandler
  endHandler

def posBegin (tracker : WxLineTracker) : Point := tracker.rect.posHandler tracker.beginHandler

def posEnd (tracker : WxLineTracker) : Point := tracker.rect.posHandler tracker.endHandler

/-- `SetTrackerPosition`. -/
def setTrackerPosition (tracker : WxLineTracker) (first last : Point) : WxLineTracker :=
  { tracker with
    rect := normalizeRect (rectBetween first last)
    beginHandler := (lineHandlers first last).1
    endHandler := (lineHandlers first last).2 }

/-- The numerator of the distance from a position to the line: how far it lies beside it. -/
def beside (first last position : Point) : Int :=
  -(position.x - first.x) * (last.y - first.y) + (position.y - first.y) * (last.x - first.x)

/-- `HitTest`. -/
def hitTest (tracker : WxLineTracker) (position : Point) : LineHandler :=
  let z := tracker.handlerWidth
  let hit := tracker.toRectTracker.hitTest position
  if hit = tracker.endHandler then .atEnd
  else if hit = tracker.beginHandler then .atBegin
  else
    let cross := beside tracker.posBegin tracker.posEnd position
    let xab := tracker.posEnd.x - tracker.posBegin.x
    let yab := tracker.posEnd.y - tracker.posBegin.y
    if (xab ≠ 0 ∨ yab ≠ 0) ∧
        ((cross * cross : Int) : ℚ) / ((xab * xab + yab * yab : Int) : ℚ) <
          ((z * z : Int) : ℚ) then .onLine
    else .none

/-- `AdjustLineTrackerMax` for one of the points; below the max rect a row is replaced by one
that is counted from the left side of the max rect. -/
def adjustPoint (maxRect : Rect) (point : Point) : Point :=
  if maxRect.width < 0 ∨ maxRect.height < 0 then point
  else
    ⟨clampCoordinate maxRect.x (maxRect.x + maxRect.width) (maxRect.x + maxRect.width) point.x,
      clampCoordinate maxRect.y (maxRect.y + maxRect.height) (maxRect.x + maxRect.height) point.y⟩

/-- `AdjustLineTracker`, which does not look at the handler. -/
def adjustLineTracker (tracker : WxLineTracker) (first last : Point) : Point × Point :=
  (adjustPoint tracker.maxRect first, adjustPoint tracker.maxRect last)

/-- The calls of the methods that the line tracker inherits. -/
def inherited (tracker : WxLineTracker) (method : RectTracker → RectTracker) : WxLineTracker :=
  { tracker with toRectTracker := method tracker.toRectTracker }

/-- The working points after an arrow key. -/
def keyedPoints (tracker : WxLineTracker) (key : Key) (controlDown shiftDown : Bool) :
    Point × Point :=
  let (dx, dy) := key.move (if controlDown then 10 else 1)
  let last : Point := ⟨tracker.curEnd.x + dx, tracker.curEnd.y + dy⟩
  if shiftDown then (tracker.curBegin, last)
  else (⟨tracker.curBegin.x + dx, tracker.curBegin.y + dy⟩, last)

/-- Adjust two points and take them as the working points. -/
def workWith (tracker : WxLineTracker) (points : Point × Point) : WxLineTracker :=
  let (curBegin, curEnd) := tracker.adjustLineTracker points.1 points.2
  { tracker with curBegin, curEnd }

/-- The working points become the line. -/
def commit (tracker : WxLineTracker) : WxLineTracker :=
  tracker.setTrackerPosition tracker.curBegin tracker.curEnd

/-- `OnKey`. -/
def onKey (tracker : WxLineTracker) (key : Key) (controlDown shiftDown : Bool) : WxLineTracker :=
  if tracker.state.disabled then tracker
  else
    match key with
    | .escape =>
        if tracker.state.mouseCaptured then
          { tracker with state := { tracker.state with mouseCaptured := false } }
        else tracker.inherited .hide
    | .other => tracker
    | key => (tracker.workWith (tracker.keyedPoints key controlDown shiftDown)).commit

/-- The first motion of a drag takes the line as the working points, unless the press has
already marked the drag. -/
def beginDrag (tracker : WxLineTracker) : WxLineTracker :=
  if tracker.state.dragging then tracker
  else
    { tracker with
      state := { tracker.state with dragging := true }
      curBegin := tracker.posBegin
      curEnd := tracker.posEnd }

/-- The working points a motion to a position asks for. -/
def draggedPoints (tracker : WxLineTracker) (position : Point) : Point × Point :=
  let hit := tracker.hitTest tracker.leftClick
  let dx := position.x - tracker.leftClick.x
  let dy := position.y - tracker.leftClick.y
  (if hit.first then ⟨tracker.posBegin.x + dx, tracker.posBegin.y + dy⟩ else tracker.curBegin,
    if hit.last then ⟨tracker.posEnd.x + dx, tracker.posEnd.y + dy⟩ else tracker.curEnd)

/-- The branch of `OnMouseMotion` for a drag. -/
def dragTo (tracker : WxLineTracker) (position : Point) : WxLineTracker :=
  let tracker := tracker.beginDrag
  tracker.workWith (tracker.draggedPoints position)

/-- `OnMouseMotion`. -/
def onMouseMotion (tracker : WxLineTracker) (position : Point) (isDragging leftIsDown : Bool) :
    WxLineTracker :=
  if tracker.state.disabled then tracker
  else
    let tracker := if isDragging ∧ leftIsDown then tracker.dragTo position else tracker
    { tracker with
      state := { tracker.state with mouseCaptured := tracker.state.mouseCaptured ∧ leftIsDown } }

/-- `OnMouseLeftDown`. -/
def onMouseLeftDown (tracker : WxLineTracker) (position : Point) : WxLineTracker :=
  let tracker := tracker.inherited fun base => base.onMouseLeftDown position
  if tracker.hitTest tracker.leftClick = .none then
    commit { tracker with curBegin := tracker.leftClick, curEnd := tracker.leftClick }
  else tracker

/-- `OnMouseLeftUp`. -/
def onMouseLeftUp (tracker : WxLineTracker) : WxLineTracker :=
  let tracker := { tracker with state := { tracker.state with mouseCaptured := false } }
  if tracker.state.dragging then
    let tracker := tracker.commit
    { tracker with state := { tracker.state with dragging := false } }
  else tracker

/-! ## Events -/

/-- What happens to a line tracker. -/
inductive Event where
  | leftDown (position : Point)
  | motion (position : Point) (isDragging leftIsDown : Bool)
  | leftUp
  | key (key : Key) (controlDown shiftDown : Bool)
  | setTrackerPosition (first last : Point)
  | setTrackerRect (rect : Rect)
  | setUnscrolledRect (rect : Rect)
  | hide
  | enable
  | disable
  | setMaxRect (maxRect : Rect)
  | setHandlesWidth (handlesWidth : Int)
deriving DecidableEq, Repr

/-- A disabled tracker gets no mouse and key events. -/
def step (event : Event) (tracker : WxLineTracker) : Option WxLineTracker :=
  match event with
  | .leftDown position =>
      if tracker.state.disabled then none else some (tracker.onMouseLeftDown position)
  | .motion position isDragging leftIsDown =>
      if tracker.state.disabled then none
      else some (tracker.onMouseMotion position isDragging leftIsDown)
  | .leftUp => if tracker.state.disabled then none else some tracker.onMouseLeftUp
  | .key key controlDown shiftDown =>
      if tracker.state.disabled then none else some (tracker.onKey key controlDown shiftDown)
  | .setTrackerPosition first last => some (tracker.setTrackerPosition first last)
  | .setTrackerRect rect => some (tracker.inherited fun base => base.setTrackerRect rect)
  | .setUnscrolledRect rect => some (tracker.inherited fun base => base.setUnscrolledRect rect)
  | .hide => some (tracker.inherited .hide)
  | .enable => some (tracker.inherited .enable)
  | .disable => some (tracker.inherited .disable)
  | .setMaxRect maxRect => some (tracker.inherited fun base => base.setMaxRect maxRect)
  | .setHandlesWidth handlesWidth =>
      some (tracker.inherited fun base => base.setHandlesWidth handlesWidth)

/-! ## The line as the image box sees it -/

/-- The line tracker without its mouse. -/
def line (tracker : WxLineTracker) : LineTracker where
  rect := tracker.rect
  maxRect := tracker.maxRect
  beginHandler := tracker.beginHandler
  endHandler := tracker.endHandler

variable {tracker : WxLineTracker} {first last : Point}

@[simp] theorem line_posBegin : tracker.line.posBegin = tracker.posBegin := rfl

@[simp] theorem line_posEnd : tracker.line.posEnd = tracker.posEnd := rfl

/-- The rectangle of two points has no negative side. -/
@[simp] theorem normalizeRect_between (first last : Point) :
    normalizeRect (rectBetween first last) = rectBetween first last := by
  have wide : ¬(rectBetween first last).width < 0 := by
    have := abs_nonneg (last.x - first.x)
    simp only [rectBetween, spanBetween, Rect.width_ofSpans]
    omega
  have high : ¬(rectBetween first last).height < 0 := by
    have := abs_nonneg (last.y - first.y)
    simp only [rectBetween, spanBetween, Rect.height_ofSpans]
    omega
  unfold normalizeRect
  simp only [if_neg wide, if_neg high]

@[simp] theorem setTrackerPosition_rect (first last : Point) :
    (tracker.setTrackerPosition first last).rect = rectBetween first last :=
  normalizeRect_between first last

theorem setTrackerPosition_line (tracker : WxLineTracker) (first last : Point) :
    (tracker.setTrackerPosition first last).line =
      tracker.line.setTrackerPosition first last := by
  unfold line LineTracker.setTrackerPosition
  rw [setTrackerPosition_rect]
  rfl

/-! ## The points of a line -/

@[simp] theorem posBegin_setTrackerPosition :
    (tracker.setTrackerPosition first last).posBegin = first := by
  rw [← line_posBegin, setTrackerPosition_line, LineTracker.posBegin_setTrackerPosition]

@[simp] theorem posEnd_setTrackerPosition :
    (tracker.setTrackerPosition first last).posEnd = last := by
  rw [← line_posEnd, setTrackerPosition_line, LineTracker.posEnd_setTrackerPosition]

/-- The two points of a line are read back, and setting them again changes nothing. -/
theorem position_roundTrip (tracker : WxLineTracker) (first last : Point) :
    let drawn := tracker.setTrackerPosition first last
    drawn.posBegin = first ∧ drawn.posEnd = last ∧
      drawn.setTrackerPosition drawn.posBegin drawn.posEnd = drawn := by
  refine ⟨posBegin_setTrackerPosition, posEnd_setTrackerPosition, ?_⟩
  rw [posBegin_setTrackerPosition, posEnd_setTrackerPosition]
  rfl

/-! ## The corners of a line -/

/-- A line has been set: the corners are those of a line between two points. -/
def LineSet (tracker : WxLineTracker) : Prop :=
  ∃ first last, lineHandlers first last = (tracker.beginHandler, tracker.endHandler)

theorem lineSet_setTrackerPosition (tracker : WxLineTracker) (first last : Point) :
    (tracker.setTrackerPosition first last).LineSet :=
  ⟨first, last, rfl⟩

/-- A line begins and ends in opposite corners. -/
theorem LineSet.cases (drawn : tracker.LineSet) :
    tracker.beginHandler = .topLeft ∧ tracker.endHandler = .bottomRight ∨
      tracker.beginHandler = .bottomLeft ∧ tracker.endHandler = .topRight ∨
      tracker.beginHandler = .topRight ∧ tracker.endHandler = .bottomLeft ∨
      tracker.beginHandler = .bottomRight ∧ tracker.endHandler = .topLeft := by
  obtain ⟨first, last, tags⟩ := drawn
  unfold lineHandlers at tags
  split_ifs at tags <;> obtain ⟨beginning, ending⟩ := Prod.mk.inj tags <;>
    simp [← beginning, ← ending]

/-- The corners change only with the line. -/
theorem LineSet.of_tags {next : WxLineTracker} (drawn : tracker.LineSet)
    (beginHandler : next.beginHandler = tracker.beginHandler)
    (endHandler : next.endHandler = tracker.endHandler) : next.LineSet := by
  obtain ⟨first, last, tags⟩ := drawn
  exact ⟨first, last, by rw [beginHandler, endHandler, tags]⟩

end WxLineTracker

end RPhoto.Tracker
