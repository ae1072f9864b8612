import RPhoto.Tracker.Selection

/-!
# The plain rectangle tracker

`wxRectTracker` of `src/lib/wxRectTracker`, the base class of the tracker with a
ratio, with the bits of its state and any width of its handlers.  Under the width
the constructor gives them, it is the tracker with a ratio whose ratio and fixed
size are off.
-/

namespace RPhoto.Tracker

open RPhoto.Library

/-- The bits of `RT_STATE`. -/
structure RtState where
  dragging : Bool
  mouseCaptured : Bool
  disabled : Bool
  firstDrag : Bool
deriving DecidableEq, Repr

/-- The state of `wxRectTracker`. -/
structure RectTracker where
  rect : Rect
  maxRect : Rect
  prevRect : Rect
  curRect : Rect
  leftClick : Point
  state : RtState
  handlerWidth : Int
deriving DecidableEq, Repr

namespace RectTracker

open RectTrackerRatio (Key)

/-- The state the constructor leaves. -/
def create : RectTracker where
  rect := nullRect
  maxRect := nullRect
  prevRect := ⟨0, 0, 0, 0⟩
  curRect := ⟨0, 0, 0, 0⟩
  leftClick := ⟨0, 0⟩
  state := ⟨false, false, false, false⟩
  handlerWidth := 5

def isShown (tracker : RectTracker) : Bool := tracker.rect ≠ nullRect

def hitTest (tracker : RectTracker) (position : Point) : Handler :=
  let z := tracker.handlerWidth
  let w := tracker.rect.width
  let h := tracker.rect.height
  let x := position.x - tracker.rect.x
  let y := position.y - tracker.rect.y
  if y < 0 ∨ y > h ∨ x < 0 ∨ x > w then .outside
  else if y ≤ h ∧ y ≥ h - z then
    if x ≥ w - z ∧ x ≤ w then .bottomRight
    else if x ≥ (w - z).tdiv 2 ∧ x ≤ (w + z).tdiv 2 then .bottomMid
    else if x ≥ 0 ∧ x ≤ z then .bottomLeft
    else .none
  else if y ≥ (h - z).tdiv 2 ∧ y ≤ (h + z).tdiv 2 then
    if x ≥ w - z ∧ x ≤ w then .midRight
    else if x ≥ 0 ∧ x ≤ z then .midLeft
    else .none
  else if y ≥ 0 ∧ y ≤ z then
    if x ≥ w - z ∧ x ≤ w then .topRight
    else if x ≥ (w - z).tdiv 2 ∧ x ≤ (w + z).tdiv 2 then .topMid
    else if x ≥ 0 ∧ x ≤ z then .topLeft
    else .none
  else .none

def adjustTrackerRectMax (tracker : RectTracker) (curRect : Rect) (handler : Handler) : Rect :=
  if tracker.maxRect.width < 0 ∨ tracker.maxRect.height < 0 then curRect
  else
    .ofSpans
      (Span.confine (handler ≠ .none) tracker.maxRect.horizontal curRect.horizontal)
      (Span.confine (handler ≠ .none) tracker.maxRect.vertical curRect.vertical)

def adjustTrackerRect (tracker : RectTracker) (curRect : Rect) (handler : Handler) : Rect :=
  tracker.adjustTrackerRectMax curRect handler

def setUnscrolledRect (tracker : RectTracker) (rect : Rect) : RectTracker :=
  { tracker with rect }

def setTrackerRect (tracker : RectTracker) (rect : Rect) : RectTracker :=
  { tracker with rect }

def update (tracker : RectTracker) : RectTracker :=
  let curRect := tracker.adjustTrackerRect tracker.rect .outside
  let tracker := { tracker with curRect }
  if curRect ≠ tracker.rect then tracker.setUnscrolledRect curRect else tracker

def setMaxRect (tracker : RectTracker) (maxRect : Rect) : RectTracker :=
  update
    { tracker with
      maxRect :=
        { maxRect with
          height := if maxRect.height < 0 then -maxRect.height else maxRect.height
          width := if maxRect.width < 0 then -maxRect.width else maxRect.width } }

def setHandlesWidth (tracker : RectTracker) (handlesWidth : Int) : RectTracker :=
  update { tracker with handlerWidth := handlesWidth }

def hide (tracker : RectTracker) : RectTracker :=
  { tracker with rect := nullRect, prevRect := nullRect }

def enable (tracker : RectTracker) : RectTracker :=
  { tracker with state := { tracker.state with disabled := false } }

def disable (tracker : RectTracker) : RectTracker :=
  let tracker := update { tracker with state := { tracker.state with mouseCaptured := false } }
  { tracker with state := { tracker.state with disabled := true } }

/-- The rectangle and the handler an arrow key asks for. -/
def keyedRect (tracker : RectTracker) (key : Key) (controlDown shiftDown : Bool) :
    Rect × Handler :=
  let (dx, dy) := key.move (if controlDown then 10 else 1)
  if shiftDown then
    ({ tracker.rect with width := tracker.rect.width + dx, height := tracker.rect.height + dy },
      if dx = 0 then .bottomMid else .midRight)
  else ({ tracker.rect with x := tracker.rect.x + dx, y := tracker.rect.y + dy }, .none)

def onKey (tracker : RectTracker) (key : Key) (controlDown shiftDown : Bool) : RectTracker :=
  if tracker.state.disabled ∨ ¬tracker.isShown then tracker
  else if tracker.rect.width ≤ 0 ∨ tracker.rect.height ≤ 0 then tracker
  else
    match key with
    | .escape =>
        if tracker.state.mouseCaptured then
          update { tracker with state := { tracker.state with mouseCaptured := false } }
        else tracker.hide
    | .other => tracker
    | key =>
        let (tmpRect, handler) := tracker.keyedRect key controlDown shiftDown
        update (tracker.setUnscrolledRect (tracker.adjustTrackerRect tmpRect handler))

/-- The rectangle and the handler a drag to a position asks for. -/
def draggedRect (tracker : RectTracker) (position : Point) : Rect × Handler :=
  let click := tracker.leftClick
  let hit := tracker.hitTest click
  let (curRect, hit) :=
    if hit ≠ .outside then (tracker.rect, hit)
    else ((⟨click.x, click.y, 1, 1⟩ : Rect), .bottomRight)
  RectTrackerRatio.correctOrientation
    (RectTrackerRatio.dragSides curRect hit (position.x - click.x) (position.y - click.y)) hit

def onMouseMotion (tracker : RectTracker) (position : Point) (isDragging leftIsDown : Bool) :
    RectTracker :=
  if tracker.state.disabled then tracker
  else
    let tracker :=
      if isDragging ∧ tracker.state.dragging then
        let (curRect, hit) := tracker.draggedRect position
        let curRect := tracker.adjustTrackerRect curRect hit
        { tracker with
          state := { tracker.state with firstDrag := true }
          curRect
          prevRect := curRect }
      else tracker
    { tracker with
      state :=
        { tracker.state with mouseCaptured := tracker.state.mouseCaptured ∧ leftIsDown } }

def onMouseLeftDown (tracker : RectTracker) (position : Point) : RectTracker :=
  let tracker :=
    { tracker with state := { tracker.state with dragging := true }, leftClick := position }
  let tracker := if tracker.hitTest position = .outside then update tracker.hide else tracker
  { tracker with state := { tracker.state with mouseCaptured := true } }

/-- `OnMouseLeftUp`, which toggles the bit of the first drag. -/
def onMouseLeftUp (tracker : RectTracker) : RectTracker :=
  let tracker := { tracker with state := { tracker.state with mouseCaptured := false } }
  if tracker.state.dragging then
    let tracker := tracker.setUnscrolledRect tracker.prevRect
    update
      { tracker with
        state :=
          { tracker.state with dragging := false, firstDrag := !tracker.state.firstDrag }
        leftClick := ⟨0, 0⟩ }
  else tracker

/-! ## Events -/

/-- What happens to a plain tracker. -/
inductive Event where
  | leftDown (position : Point)
  | motion (position : Point) (isDragging leftIsDown : Bool)
  | leftUp
  | key (key : Key) (controlDown shiftDown : Bool)
  | setTrackerRect (rect : Rect)
  | setUnscrolledRect (rect : Rect)
  | update
  | hide
  | enable
  | disable
  | setMaxRect (maxRect : Rect)
  | setHandlesWidth (handlesWidth : Int)
deriving DecidableEq, Repr

/-- A disabled tracker gets no mouse and key events. -/
def step (event : Event) (tracker : RectTracker) : Option RectTracker :=
  match event with
  | .leftDown position =>
      if tracker.state.disabled then none else some (tracker.onMouseLeftDown position)
  | .motion position isDragging leftIsDown =>
      if tracker.state.disabled then none
      else some (tracker.onMouseMotion position isDragging leftIsDown)
  | .leftUp => if tracker.state.disabled then none else some tracker.onMouseLeftUp
  | .key key controlDown shiftDown =>
      if tracker.state.disabled then none else some (tracker.onKey key controlDown shiftDown)
  | .setTrackerRect rect => some (tracker.setTrackerRect rect)
  | .setUnscrolledRect rect => some (tracker.setUnscrolledRect rect)
  | .update => some tracker.update
  | .hide => some tracker.hide
  | .enable => some tracker.enable
  | .disable => some tracker.disable
  | .setMaxRect maxRect => some (tracker.setMaxRect maxRect)
  | .setHandlesWidth handlesWidth => some (tracker.setHandlesWidth handlesWidth)

/-! ## The tracker with a ratio -/

/-- The tracker with a ratio whose ratio and fixed size are off. -/
def asRatio (tracker : RectTracker) : RectTrackerRatio where
  rect := tracker.rect
  maxRect := tracker.maxRect
  prevRect := tracker.prevRect
  curRect := tracker.curRect
  leftClick := tracker.leftClick
  dragging := tracker.state.dragging
  mouseCaptured := tracker.state.mouseCaptured
  disabled := tracker.state.disabled
  ratio := 0
  orientation := 0
  fixedWidth := -1
  fixedHeight := -1

/-- The events of both trackers. -/
def Event.asRatio : Event → Option RectTrackerRatio.Event
  | .leftDown position => some (.leftDown position)
  | .motion position isDragging leftIsDown => some (.motion position isDragging leftIsDown)
  | .leftUp => some .leftUp
  | .key pressed controlDown shiftDown => some (.key pressed controlDown shiftDown)
  | .update => some .update
  | .hide => some .hide
  | .enable => some .enable
  | .disable => some .disable
  | .setMaxRect maxRect => some (.setMaxRect maxRect)
  | .setTrackerRect _ | .setUnscrolledRect _ | .setHandlesWidth _ => none

variable {tracker : RectTracker}

theorem hitTest_asRatio (width : tracker.handlerWidth = Tracker.handlerWidth) (position : Point) :
    tracker.asRatio.hitTest position = tracker.hitTest position := by
  unfold hitTest RectTrackerRatio.hitTest
  rw [width]
  rfl

theorem adjust_asRatio (rect : Rect) (handler : Handler) :
    tracker.asRatio.adjustTrackerRect rect handler = tracker.adjustTrackerRect rect handler :=
  RectTrackerRatio.adjust_unfixed rfl rect handler

/-- Both branches of `Update` store the adjusted rectangle. -/
theorem update_eq (tracker : RectTracker) :
    tracker.update =
      { tracker with
        rect := tracker.adjustTrackerRect tracker.rect .outside
        curRect := tracker.adjustTrackerRect tracker.rect .outside } := by
  unfold update setUnscrolledRect
  dsimp only
  split_ifs with changed
  · rfl
  · rw [not_not.mp changed]

theorem update_asRatio (tracker : RectTracker) :
    tracker.asRatio.update = tracker.update.asRatio := by
  have adjusted : tracker.asRatio.adjustTrackerRect tracker.asRatio.rect .outside =
      tracker.adjustTrackerRect tracker.rect .outside := adjust_asRatio tracker.rect .outside
  rw [update_eq]
  unfold RectTrackerRatio.update
  dsimp only
  rw [adjusted]
  split_ifs with changed
  · rfl
  · rw [not_not.mp changed]
    rfl

theorem draggedRect_asRatio (width : tracker.handlerWidth = Tracker.handlerWidth)
    (position : Point) :
    tracker.asRatio.draggedRect position = tracker.draggedRect position := by
  have same : tracker.asRatio.hitTest tracker.asRatio.leftClick =
      tracker.hitTest tracker.leftClick := hitTest_asRatio width tracker.leftClick
  unfold draggedRect RectTrackerRatio.draggedRect
  dsimp only
  rw [same]
  rfl

theorem leftDown_asRatio (width : tracker.handlerWidth = Tracker.handlerWidth)
    (position : Point) :
    tracker.asRatio.onMouseLeftDown position = (tracker.onMouseLeftDown position).asRatio := by
  have pressed := @hitTest_asRatio
    { tracker with state := { tracker.state with dragging := true }, leftClick := position }
    width position
  have hidden := update_asRatio (hide
    { tracker with state := { tracker.state with dragging := true }, leftClick := position })
  unfold onMouseLeftDown RectTrackerRatio.onMouseLeftDown
  dsimp only
  split_ifs with first second second
  · exact congrArg (fun base : RectTrackerRatio => { base with mouseCaptured := true }) hidden
  · exact absurd (pressed.symm.trans first) second
  · exact absurd (pressed.trans second) first
  · rfl

theorem motion_asRatio (width : tracker.handlerWidth = Tracker.handlerWidth)
    (position : Point) (isDragging leftIsDown : Bool) :
    tracker.asRatio.onMouseMotion position isDragging leftIsDown =
      (tracker.onMouseMotion position isDragging leftIsDown).asRatio := by
  have adjusted : tracker.asRatio.adjustTrackerRect (tracker.asRatio.draggedRect position).1
      (tracker.asRatio.draggedRect position).2 =
        tracker.adjustTrackerRect (tracker.draggedRect position).1
          (tracker.draggedRect position).2 := by
    rw [draggedRect_asRatio width, adjust_asRatio]
  unfold onMouseMotion RectTrackerRatio.onMouseMotion
  dsimp only
  rw [adjusted]
  by_cases off : tracker.state.disabled = true
  · rw [if_pos off]
    exact if_pos off
  · rw [if_neg off]
    refine (if_neg off).trans ?_
    by_cases drag : isDragging = true ∧ tracker.state.dragging = true
    · have same : isDragging = true ∧ tracker.asRatio.dragging = true := drag
      simp only [if_pos drag, if_pos same]
      rfl
    · have same : ¬(isDragging = true ∧ tracker.asRatio.dragging = true) := drag
      simp only [if_neg drag, if_neg same]
      rfl

theorem leftUp_asRatio (tracker : RectTracker) :
    tracker.asRatio.onMouseLeftUp = tracker.onMouseLeftUp.asRatio := by
  unfold onMouseLeftUp RectTrackerRatio.onMouseLeftUp
  dsimp only
  split_ifs with first second second
  · exact update_asRatio
      { tracker with
        rect := tracker.prevRect
        state := ⟨false, false, tracker.state.disabled, !tracker.state.firstDrag⟩
        leftClick := ⟨0, 0⟩ }
  · exact absurd first second
  · exact absurd second first
  · rfl

theorem key_asRatio (tracker : RectTracker) (key : Key) (controlDown shiftDown : Bool) :
    tracker.asRatio.onKey key controlDown shiftDown =
      (tracker.onKey key controlDown shiftDown).asRatio := by
  have moved : RectTrackerRatio.update { tracker.asRatio with
        rect := tracker.asRatio.adjustTrackerRect
          (tracker.asRatio.keyedRect key controlDown shiftDown).1
          (tracker.asRatio.keyedRect key controlDown shiftDown).2 } =
      (update (tracker.setUnscrolledRect (tracker.adjustTrackerRect
        (tracker.keyedRect key controlDown shiftDown).1
        (tracker.keyedRect key controlDown shiftDown).2))).asRatio := by
    rw [adjust_asRatio]
    exact update_asRatio (tracker.setUnscrolledRect (tracker.adjustTrackerRect
      (tracker.keyedRect key controlDown shiftDown).1
      (tracker.keyedRect key controlDown shiftDown).2))
  unfold onKey RectTrackerRatio.onKey
  by_cases off : tracker.state.disabled = true ∨ ¬tracker.isShown = true
  · rw [if_pos off]
    exact if_pos off
  by_cases empty : tracker.rect.width ≤ 0 ∨ tracker.rect.height ≤ 0
  · rw [if_neg off, if_pos empty]
    exact (if_neg off).trans (if_pos empty)
  rw [if_neg off, if_neg empty]
  refine (if_neg off).trans ((if_neg empty).trans ?_)
  cases key with
  | escape =>
      by_cases captured : tracker.state.mouseCaptured = true
      · simp only [if_pos captured]
        refine (if_pos captured).trans ?_
        exact update_asRatio
          { tracker with state := { tracker.state with mouseCaptured := false } }
      · simp only [if_neg captured]
        exact if_neg captured
  | other => rfl
  | left | up | right | down => exact moved

/-- Both trackers do the same. -/
theorem step_asRatio (width : tracker.handlerWidth = Tracker.handlerWidth) {event : Event}
    {common : RectTrackerRatio.Event} (both : event.asRatio = some common) :
    RectTrackerRatio.step common tracker.asRatio = (step event tracker).map asRatio := by
  have guarded {next : RectTracker} {other : RectTrackerRatio} (same : other = next.asRatio) :
      (if tracker.asRatio.disabled then none else some other) =
        (if tracker.state.disabled then none else some next).map asRatio := by
    rw [same, apply_ite (Option.map asRatio)]
    rfl
  cases event with
  | leftDown position =>
      cases both
      exact guarded (leftDown_asRatio width position)
  | motion position isDragging leftIsDown =>
      cases both
      exact guarded (motion_asRatio width position isDragging leftIsDown)
  | leftUp =>
      cases both
      exact guarded (leftUp_asRatio tracker)
  | key pressed controlDown shiftDown =>
      cases both
      exact guarded (key_asRatio tracker pressed controlDown shiftDown)
  | setTrackerRect rect => cases both
  | setUnscrolledRect rect => cases both
  | update =>
      cases both
      exact congrArg some (update_asRatio tracker)
  | hide =>
      cases both
      rfl
  | enable =>
      cases both
      rfl
  | disable =>
      cases both
      exact congrArg some (congrArg (fun base : RectTrackerRatio => { base with disabled := true })
        (update_asRatio
          { tracker with state := { tracker.state with mouseCaptured := false } }))
  | setMaxRect maxRect =>
      cases both
      exact congrArg some (update_asRatio
        { tracker with
          maxRect :=
            { maxRect with
              height := if maxRect.height < 0 then -maxRect.height else maxRect.height
              width := if maxRect.width < 0 then -maxRect.width else maxRect.width } })
  | setHandlesWidth handlesWidth => cases both

end RectTracker

end RPhoto.Tracker
