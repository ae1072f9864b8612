import RPhoto.Library.Truncation
import RPhoto.Tracker.Rect

/-!
# The rectangle tracker

`wxRectTracker` and `wxRectTrackerRatio` of `src/lib/wxRectTracker`.  Positions
are the unscrolled ones, `int` is unbounded and `double` is an exact rational
number.  The distances of `CalcRectDist` can leave the range of an `int`:
`RPhoto.Tracker.CheckedAdjust` computes them with 32 bits and gives the condition
under which the unbounded computation is that of the code.  The cursor, the drawing
and the mask of the drawn handlers are left out.
-/

namespace RPhoto.Tracker

open RPhoto.Library

/-- `NullRect`, the rectangle of a hidden tracker. -/
def nullRect : Rect := ⟨0, 0, -1, -1⟩

/-- `RT_HANDLER`. -/
inductive Handler where
  | outside
  | none
  | topMid
  | midRight
  | bottomMid
  | midLeft
  | topLeft
  | topRight
  | bottomRight
  | bottomLeft
deriving DecidableEq, Repr

namespace Handler

/-- The bit `RT_HANDLER_TOP_MID`; `RT_HANDLER_OUTSIDE` is `-1` and has every bit. -/
def top : Handler → Bool
  | outside | topMid | topLeft | topRight => true
  | _ => false

/-- The bit `RT_HANDLER_MID_RIGHT`. -/
def right : Handler → Bool
  | outside | midRight | topRight | bottomRight => true
  | _ => false

/-- The bit `RT_HANDLER_BOTTOM_MID`. -/
def bottom : Handler → Bool
  | outside | bottomMid | bottomLeft | bottomRight => true
  | _ => false

/-- The bit `RT_HANDLER_MID_LEFT`. -/
def left : Handler → Bool
  | outside | midLeft | topLeft | bottomLeft => true
  | _ => false

/-- Exchange the bits for the left and the right side. -/
def flipHorizontal : Handler → Handler
  | midRight => midLeft
  | midLeft => midRight
  | topLeft => topRight
  | topRight => topLeft
  | bottomRight => bottomLeft
  | bottomLeft => bottomRight
  | handler => handler

/-- Exchange the bits for the top and the bottom side. -/
def flipVertical : Handler → Handler
  | topMid => bottomMid
  | bottomMid => topMid
  | topLeft => bottomLeft
  | topRight => bottomRight
  | bottomRight => topRight
  | bottomLeft => topLeft
  | handler => handler

end Handler

/-- The state of `wxRectTrackerRatio`. -/
structure RectTrackerRatio where
  rect : Rect
  maxRect : Rect
  prevRect : Rect
  curRect : Rect
  leftClick : Point
  dragging : Bool
  mouseCaptured : Bool
  disabled : Bool
  ratio : ℚ
  orientation : Int
  fixedWidth : Int
  fixedHeight : Int
deriving DecidableEq, Repr

/-- `m_iHandlerWidth`. -/
def handlerWidth : Int := 5

namespace RectTrackerRatio

/-- The state the constructors leave. -/
def create : RectTrackerRatio where
  rect := nullRect
  maxRect := nullRect
  prevRect := ⟨0, 0, 0, 0⟩
  curRect := ⟨0, 0, 0, 0⟩
  leftClick := ⟨0, 0⟩
  dragging := false
  mouseCaptured := false
  disabled := false
  ratio := 0
  orientation := 0
  fixedWidth := -1
  fixedHeight := -1

def isShown (tracker : RectTrackerRatio) : Bool := tracker.rect ≠ nullRect

def isFixedSize (tracker : RectTrackerRatio) : Bool := tracker.fixedWidth ≠ -1

def hitTest (tracker : RectTrackerRatio) (position : Point) : Handler :=
  let z := handlerWidth
  let w := tracker.rect.width
  let h := tracker.rect.height
  let x := position.x - tracker.rect.x
  let y := position.y - tracker.rect.y
  if y < 0 ∨ y > h ∨ x < 0 ∨ x > w then .outside
  else if y ≤ h ∧ y ≥ h - z then
    if x ≥ w - z ∧ x ≤ w then .bottomRight
    else if x ≥ (w - z).tdiv 2 ∧ x ≤ (w + z).tdiv 2 then .bottomMid
    else if x ≥ 0 ∧ x ≤ z then .bottomLeft
    else .none
  else if y ≥ (h - z).tdiv 2 ∧ y ≤ (h + z).tdiv 2 then
    if x ≥ w - z ∧ x ≤ w then .midRight
    else if x ≥ 0 ∧ x ≤ z then .midLeft
    else .none
  else if y ≥ 0 ∧ y ≤ z then
    if x ≥ w - z ∧ x ≤ w then .topRight
    else if x ≥ (w - z).tdiv 2 ∧ x ≤ (w + z).tdiv 2 then .topMid
    else if x ≥ 0 ∧ x ≤ z then .topLeft
    else .none
  else .none

/-- `AdjustTrackerRectMax`: the same two steps for the columns and for the rows. -/
def adjustTrackerRectMax (tracker : RectTrackerRatio) (curRect : Rect) (handler : Handler) :
    Rect :=
  if tracker.maxRect.width < 0 ∨ tracker.maxRect.height < 0 then curRect
  else
    .ofSpans
      (Span.confine (handler ≠ .none) tracker.maxRect.horizontal curRect.horizontal)
      (Span.confine (handler ≠ .none) tracker.maxRect.vertical curRect.vertical)

def calcRectDist (r1 r2 : Rect) : Int :=
  (r1.x - r2.x) * (r1.x - r2.x) + (r1.y - r2.y) * (r1.y - r2.y) +
    (r1.width - r2.width) * (r1.width - r2.width) +
    (r1.height - r2.height) * (r1.height - r2.height)

def calcRectNearer (rr r1 r2 : Rect) : Rect :=
  if calcRectDist rr r2 < calcRectDist rr r1 then r2 else r1

/-- Portrait or landscape? -/
def chooseOrientation (tracker : RectTrackerRatio) (curRect rectPort rectLand : Rect) : Rect :=
  if tracker.orientation = -1 then rectLand
  else if tracker.orientation = 1 then rectPort
  else calcRectNearer curRect rectPort rectLand

/-- `rectWidth` of `AdjustTrackerRectRatio`: the width follows the height. -/
def rectWidth (tracker : RectTrackerRatio) (curRect : Rect) (handler : Handler) : Rect :=
  let portWidth := truncate (curRect.height * tracker.ratio)
  let landWidth := truncate (curRect.height / tracker.ratio)
  let moved (width : Int) : Int :=
    if handler.left then curRect.x + (curRect.width - width) else curRect.x
  tracker.chooseOrientation curRect
    { curRect with x := moved portWidth, width := portWidth }
    { curRect with x := moved landWidth, width := landWidth }

/-- `rectHeight` of `AdjustTrackerRectRatio`: the height follows the width. -/
def rectHeight (tracker : RectTrackerRatio) (curRect : Rect) (handler : Handler) : Rect :=
  let portHeight := truncate (curRect.width / tracker.ratio)
  let landHeight := truncate (curRect.width * tracker.ratio)
  let moved (height : Int) : Int :=
    if handler.top then curRect.y + (curRect.height - height) else curRect.y
  tracker.chooseOrientation curRect
    { curRect with y := moved portHeight, height := portHeight }
    { curRect with y := moved landHeight, height := landHeight }

/-- The size that is to mark a rectangle as too far away. -/
def farSize : Int := -12000

def adjustTrackerRectRatio (tracker : RectTrackerRatio) (curRect : Rect) (handler : Handler)
    (expand : Bool) : Rect :=
  if tracker.ratio ≤ 0 then curRect
  else
    let rectWidth := tracker.rectWidth curRect handler
    let rectHeight := tracker.rectHeight curRect handler
    match handler with
    | .topMid | .bottomMid => if expand then rectWidth else rectHeight
    | .midRight | .midLeft => if expand then rectHeight else rectWidth
    | _ =>
        if expand then calcRectNearer curRect rectHeight rectWidth
        else
          calcRectNearer curRect
            (if curRect.height < rectHeight.height then { rectHeight with height := farSize }
              else rectHeight)
            (if curRect.width < rectWidth.width then { rectWidth with width := farSize }
              else rectWidth)

/-- One direction of `AdjustTrackerRectFixed`. -/
def adjustSpanFixed (bounds span : Span) (size : Int) : Span :=
  let start := span.start + (span.length - size)
  let start := if start < bounds.start then bounds.start else start
  let start := if start + size > bounds.stop then bounds.stop - size else start
  ⟨start, size⟩

def adjustTrackerRectFixed (tracker : RectTrackerRatio) (curRect : Rect) : Rect :=
  .ofSpans
    (adjustSpanFixed tracker.maxRect.horizontal curRect.horizontal tracker.fixedWidth)
    (adjustSpanFixed tracker.maxRect.vertical curRect.vertical tracker.fixedHeight)

def adjustTrackerRect (tracker : RectTrackerRatio) (curRect : Rect) (handler : Handler) : Rect :=
  let curRect := tracker.adjustTrackerRectMax curRect handler
  let curRect :=
    if tracker.fixedWidth > 0 ∧ tracker.fixedHeight > 0 then
      tracker.adjustTrackerRectFixed curRect
    else curRect
  if tracker.ratio > 0 then
    let curRect := tracker.adjustTrackerRectRatio curRect handler true
    -- Second pass, for a rectangle that the first one has put out of the max rect.
    let curRect := tracker.adjustTrackerRectMax curRect handler
    tracker.adjustTrackerRectRatio curRect handler false
  else curRect

def update (tracker : RectTrackerRatio) : RectTrackerRatio :=
  let curRect := tracker.adjustTrackerRect tracker.rect .outside
  { tracker with
    curRect
    rect := if curRect ≠ tracker.rect then curRect else tracker.rect }

/-- The max rect that `SetMaxRect` stores. -/
def withMaxRect (tracker : RectTrackerRatio) (maxRect : Rect) : RectTrackerRatio :=
  { tracker with
    maxRect :=
      { maxRect with
        height := if maxRect.height < 0 then -maxRect.height else maxRect.height
        width := if maxRect.width < 0 then -maxRect.width else maxRect.width } }

def setMaxRect (tracker : RectTrackerRatio) (maxRect : Rect) : RectTrackerRatio :=
  update (tracker.withMaxRect maxRect)

def hide (tracker : RectTrackerRatio) : RectTrackerRatio :=
  { tracker with rect := nullRect, prevRect := nullRect }

def enable (tracker : RectTrackerRatio) : RectTrackerRatio :=
  { tracker with disabled := false }

def disable (tracker : RectTrackerRatio) : RectTrackerRatio :=
  { update { tracker with mouseCaptured := false } with disabled := true }

def setRatio (tracker : RectTrackerRatio) (ratio : ℚ) : RectTrackerRatio :=
  { tracker with
    fixedWidth := -1
    fixedHeight := -1
    ratio := if 0 < ratio ∧ ratio < 1 then 1 / ratio else ratio }

def setFixedSize (tracker : RectTrackerRatio) (width height : Int) : RectTrackerRatio :=
  if (tracker.orientation = -1 ∧ width > height) ∨ (tracker.orientation = 1 ∧ width < height) then
    { tracker with fixedWidth := height, fixedHeight := width }
  else { tracker with fixedWidth := width, fixedHeight := height }

def setOrientation (tracker : RectTrackerRatio) (orientation : Int) : RectTrackerRatio :=
  let tracker := { tracker with orientation }
  if tracker.fixedWidth ≠ -1 then tracker.setFixedSize tracker.fixedWidth tracker.fixedHeight
  else tracker

/-- The keys `OnKey` distinguishes. -/
inductive Key where
  | escape
  | left
  | up
  | right
  | down
  | other
deriving DecidableEq, Repr

/-- `dx` and `dy` of `OnKey`. -/
def Key.move (incr : Int) : Key → Int × Int
  | .left => (-incr, 0)
  | .up => (0, -incr)
  | .right => (incr, 0)
  | .down => (0, incr)
  | .escape | .other => (0, 0)

/-- The rectangle and the handler an arrow key asks for. -/
def keyedRect (tracker : RectTrackerRatio) (key : Key) (controlDown shiftDown : Bool) :
    Rect × Handler :=
  let (dx, dy) := key.move (if controlDown then 10 else 1)
  if shiftDown then
    ({ tracker.rect with width := tracker.rect.width + dx, height := tracker.rect.height + dy },
      if dx = 0 then .bottomMid else .midRight)
  else ({ tracker.rect with x := tracker.rect.x + dx, y := tracker.rect.y + dy }, .none)

def onKey (tracker : RectTrackerRatio) (key : Key) (controlDown shiftDown : Bool) :
    RectTrackerRatio :=
  if tracker.disabled ∨ ¬tracker.isShown then tracker
  else if tracker.rect.width ≤ 0 ∨ tracker.rect.height ≤ 0 then tracker
  else
    match key with
    | .escape =>
        if tracker.mouseCaptured then update { tracker with mouseCaptured := false }
        else tracker.hide
    | .other => tracker
    | key =>
        let (tmpRect, handler) := tracker.keyedRect key controlDown shiftDown
        update { tracker with rect := tracker.adjustTrackerRect tmpRect handler }

/-- Move the sides of a rectangle that the bits of the handler name. -/
def dragSides (curRect : Rect) (hit : Handler) (dx dy : Int) : Rect :=
  if hit = .outside then
    { curRect with width := curRect.width + dx, height := curRect.height + dy }
  else if hit = .none then
    { curRect with x := curRect.x + dx, y := curRect.y + dy }
  else
    let curRect := if hit.right then { curRect with width := curRect.width + dx } else curRect
    let curRect := if hit.bottom then { curRect with height := curRect.height + dy } else curRect
    let curRect :=
      if hit.left then { curRect with x := curRect.x + dx, width := curRect.width - dx }
      else curRect
    if hit.top then { curRect with y := curRect.y + dy, height := curRect.height - dy }
    else curRect

/-- Turn a rectangle dragged over its opposite side the right way round. -/
def correctOrientation (curRect : Rect) (hit : Handler) : Rect × Handler :=
  let (curRect, hit) :=
    if curRect.width < 0 then
      ({ curRect with width := -curRect.width, x := curRect.x + curRect.width },
        hit.flipHorizontal)
    else (curRect, hit)
  if curRect.height < 0 then
    ({ curRect with height := -curRect.height, y := curRect.y + curRect.height },
      hit.flipVertical)
  else (curRect, hit)

/-- The rectangle and the handler a drag to a position asks for. -/
def draggedRect (tracker : RectTrackerRatio) (position : Point) : Rect × Handler :=
  let click := tracker.leftClick
  let hit := tracker.hitTest click
  let (curRect, hit) :=
    if hit ≠ .outside then (tracker.rect, hit)
    else ((⟨click.x, click.y, 1, 1⟩ : Rect), .bottomRight)
  correctOrientation (dragSides curRect hit (position.x - click.x) (position.y - click.y)) hit

def onMouseMotion (tracker : RectTrackerRatio) (position : Point) (isDragging leftIsDown : Bool) :
    RectTrackerRatio :=
  if tracker.disabled then tracker
  else
    let tracker :=
      if isDragging ∧ tracker.dragging then
        let (curRect, hit) := tracker.draggedRect position
        let curRect := tracker.adjustTrackerRect curRect hit
        { tracker with curRect, prevRect := curRect }
      else tracker
    { tracker with mouseCaptured := tracker.mouseCaptured ∧ leftIsDown }

def onMouseLeftDown (tracker : RectTrackerRatio) (position : Point) : RectTrackerRatio :=
  let tracker := { tracker with dragging := true, leftClick := position }
  let tracker := if tracker.hitTest position = .outside then update tracker.hide else tracker
  { tracker with mouseCaptured := true }

def onMouseLeftUp (tracker : RectTrackerRatio) : RectTrackerRatio :=
  let tracker := { tracker with mouseCaptured := false }
  if tracker.dragging then
    update { tracker with rect := tracker.prevRect, dragging := false, leftClick := ⟨0, 0⟩ }
  else tracker

end RectTrackerRatio

end RPhoto.Tracker
