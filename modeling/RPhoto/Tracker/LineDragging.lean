import Mathlib.Logic.Function.Iterate
import RPhoto.Tracker.LineDrawing

/-!
# Dragging a line

The press marks the drag before the first motion asks whether it is marked, so the
motion does not take the line as the working points.  A drag of one end moves the
working point of that end and clips the other one, which is left over from whatever
was done before; the release makes a line of the two.
-/

namespace RPhoto.Tracker

open RPhoto.Library

/-- The point moved by a displacement. -/
def Point.moved (point : Point) (dx dy : Int) : Point := ⟨point.x + dx, point.y + dy⟩

namespace WxLineTracker

/-! ## The gesture -/

/-- A motion: the position, whether a button drags, whether the left one is down. -/
abbrev Motion := Point × Bool × Bool

/-- The press and the motions after it. -/
def dragEvents (press : Point) (motions : List Motion) : List Event :=
  .leftDown press :: motions.map fun motion => .motion motion.1 motion.2.1 motion.2.2

/-- The motions that move the working points. -/
def drags (motions : List Motion) : Nat :=
  motions.countP fun motion => motion.2.1 && motion.2.2

/-- A drag of one end keeps the other, and a drag of the line moves both ends alike before
they are clipped. -/
structure DragKeeps (tracker : WxLineTracker) (press : Point) (held released : WxLineTracker) :
    Prop where
  atBegin : tracker.hitTest press = .atBegin → released.posEnd = tracker.posEnd
  atEnd : tracker.hitTest press = .atEnd → released.posBegin = tracker.posBegin
  onLine : tracker.hitTest press = .onLine → ∀ dx dy,
    held.draggedPoints (press.moved dx dy) =
      (tracker.posBegin.moved dx dy, tracker.posEnd.moved dx dy)

/-- The working point of the other end, clipped with each motion, is that end; a press on the
line is also one in its rectangle. -/
structure Agrees (tracker : WxLineTracker) (press : Point) (count : Nat) : Prop where
  atBegin : tracker.hitTest press = .atBegin →
    (adjustPoint tracker.maxRect)^[count] tracker.curEnd = tracker.posEnd
  atEnd : tracker.hitTest press = .atEnd →
    (adjustPoint tracker.maxRect)^[count] tracker.curBegin = tracker.posBegin
  onLine : tracker.hitTest press = .onLine → tracker.toRectTracker.hitTest press ≠ .outside

variable {tracker start held next : WxLineTracker} {press position : Point} {count : Nat}

/-! ## The motions -/

/-- The hit test looks at the rectangle, its handles and its corners. -/
theorem hitTest_congr (rect : next.rect = tracker.rect)
    (handlerWidth : next.handlerWidth = tracker.handlerWidth)
    (beginHandler : next.beginHandler = tracker.beginHandler)
    (endHandler : next.endHandler = tracker.endHandler) (position : Point) :
    next.hitTest position = tracker.hitTest position := by
  unfold hitTest posBegin posEnd RectTracker.hitTest
  rw [rect, handlerWidth, beginHandler, endHandler]

/-- What the motions of a drag leave of the state after the press. -/
structure Held (start : WxLineTracker) (count : Nat) (tracker : WxLineTracker) : Prop where
  rect : tracker.rect = start.rect
  maxRect : tracker.maxRect = start.maxRect
  handlerWidth : tracker.handlerWidth = start.handlerWidth
  beginHandler : tracker.beginHandler = start.beginHandler
  endHandler : tracker.endHandler = start.endHandler
  leftClick : tracker.leftClick = start.leftClick
  dragging : tracker.state.dragging = true
  curBegin : (start.hitTest start.leftClick).first = false →
    tracker.curBegin = (adjustPoint start.maxRect)^[count] start.curBegin
  curEnd : (start.hitTest start.leftClick).last = false →
    tracker.curEnd = (adjustPoint start.maxRect)^[count] start.curEnd

namespace Held

theorem refl (dragging : start.state.dragging = true) : Held start 0 start :=
  ⟨rfl, rfl, rfl, rfl, rfl, rfl, dragging, fun _ => rfl, fun _ => rfl⟩

theorem hitTest (held : Held start count tracker) (position : Point) :
    tracker.hitTest position = start.hitTest position :=
  hitTest_congr held.rect held.handlerWidth held.beginHandler held.endHandler position

theorem posBegin (held : Held start count tracker) : tracker.posBegin = start.posBegin := by
  unfold WxLineTracker.posBegin
  rw [held.rect, held.beginHandler]

theorem posEnd (held : Held start count tracker) : tracker.posEnd = start.posEnd := by
  unfold WxLineTracker.posEnd
  rw [held.rect, held.endHandler]

/-- One more motion with the button down. -/
theorem dragTo (held : Held start count tracker) (position : Point) :
    Held start (count + 1) (tracker.dragTo position) := by
  have marked : tracker.beginDrag = tracker := if_pos held.dragging
  unfold WxLineTracker.dragTo
  rw [marked]
  refine ⟨held.rect, held.maxRect, held.handlerWidth, held.beginHandler, held.endHandler,
    held.leftClick, held.dragging, fun untouched => ?_, fun untouched => ?_⟩
  · rw [← held.leftClick, ← held.hitTest] at untouched
    show adjustPoint tracker.maxRect (tracker.draggedPoints position).1 = _
    simp only [draggedPoints, untouched, Bool.false_eq_true, if_false]
    rw [held.curBegin (by rwa [← held.leftClick, ← held.hitTest]), held.maxRect,
      Function.iterate_succ_apply']
  · rw [← held.leftClick, ← held.hitTest] at untouched
    show adjustPoint tracker.maxRect (tracker.draggedPoints position).2 = _
    simp only [draggedPoints, untouched, Bool.false_eq_true, if_false]
    rw [held.curEnd (by rwa [← held.leftClick, ← held.hitTest]), held.maxRect,
      Function.iterate_succ_apply']

/-- The mouse capture is no concern of the drag. -/
theorem of_capture (held : Held start count tracker) (mouseCaptured : Bool) :
    Held start count { tracker with state := { tracker.state with mouseCaptured } } :=
  ⟨held.rect, held.maxRect, held.handlerWidth, held.beginHandler, held.endHandler,
    held.leftClick, held.dragging, held.curBegin, held.curEnd⟩

theorem motion (held : Held start count tracker) {motion : Motion}
    (executed : step (.motion motion.1 motion.2.1 motion.2.2) tracker = some next) :
    Held start (count + drags [motion]) next := by
  obtain ⟨position, isDragging, leftIsDown⟩ := motion
  obtain ⟨enabled, same⟩ := Option.ite_none_left_eq_some.mp executed
  rw [← Option.some.inj same]
  unfold onMouseMotion
  rw [if_neg enabled]
  cases isDragging <;> cases leftIsDown
  · exact held.of_capture _
  · exact held.of_capture _
  · exact held.of_capture _
  · exact (held.dragTo position).of_capture _

/-- The motions of a drag, one after the other. -/
theorem motions (held : Held start count tracker) {motions : List Motion}
    (executed : runEvents step
      (motions.map fun motion => .motion motion.1 motion.2.1 motion.2.2) tracker = some next) :
    Held start (count + drags motions) next := by
  induction motions generalizing tracker count with
  | nil =>
      cases executed
      exact held
  | cons motion rest ih =>
      obtain ⟨middle, here, there⟩ := Option.bind_eq_some_iff.mp executed
      have parts : drags ([motion] ++ rest) = drags [motion] + drags rest := List.countP_append
      have later := ih (held.motion here) there
      rwa [Nat.add_assoc, ← parts] at later

end Held

/-! ## The press -/

/-- A press on an end or on the line inside its rectangle marks the drag. -/
theorem leftDown_on (inside : tracker.toRectTracker.hitTest press ≠ .outside)
    (hit : tracker.hitTest press ≠ .none) :
    tracker.onMouseLeftDown press =
      { tracker with
        state := { tracker.state with dragging := true, mouseCaptured := true }
        leftClick := press } := by
  have pressed : RectTracker.hitTest
      { tracker.toRectTracker with
        state := { tracker.state with dragging := true }
        leftClick := press } press ≠ .outside := inside
  have base : tracker.toRectTracker.onMouseLeftDown press =
      { tracker.toRectTracker with
        state := { tracker.state with dragging := true, mouseCaptured := true }
        leftClick := press } := by
    unfold RectTracker.onMouseLeftDown
    simp only [if_neg pressed]
  unfold onMouseLeftDown inherited
  dsimp only
  rw [base]
  exact if_neg hit

theorem LineSet.inside_of_atBegin (drawn : tracker.LineSet)
    (hit : tracker.hitTest press = .atBegin) : tracker.toRectTracker.hitTest press ≠ .outside := by
  rw [(hitTest_eq_atBegin_iff drawn.distinct press).mp hit]
  exact Handler.ne_outside drawn.corners.1

theorem LineSet.inside_of_atEnd (drawn : tracker.LineSet)
    (hit : tracker.hitTest press = .atEnd) : tracker.toRectTracker.hitTest press ≠ .outside := by
  rw [(hitTest_eq_atEnd_iff tracker press).mp hit]
  exact Handler.ne_outside drawn.corners.2

/-- A press outside the rectangle leaves a point or a hidden line. -/
theorem leftDown_off (outside : tracker.toRectTracker.hitTest press = .outside) :
    (tracker.onMouseLeftDown press).leftClick = press ∧
      (tracker.onMouseLeftDown press).state.dragging = true ∧
      ((tracker.onMouseLeftDown press).posBegin = (tracker.onMouseLeftDown press).posEnd ∨
        (tracker.onMouseLeftDown press).rect.width < 0 ∧
          (tracker.onMouseLeftDown press).beginHandler = tracker.beginHandler ∧
          (tracker.onMouseLeftDown press).endHandler = tracker.endHandler) := by
  obtain ⟨rect, -, -, leftClick⟩ := leftDown_outside outside
  have dragging : (tracker.toRectTracker.onMouseLeftDown press).state.dragging = true := by
    have pressed : RectTracker.hitTest
        { tracker.toRectTracker with
          state := { tracker.state with dragging := true }
          leftClick := press } press = .outside := outside
    unfold RectTracker.onMouseLeftDown
    simp only [if_pos pressed, RectTracker.update_eq]
    rfl
  have wide : (tracker.toRectTracker.onMouseLeftDown press).rect.width < 0 := by
    rw [rect]
    exact (hiddenRect_negative tracker.maxRect).1
  unfold onMouseLeftDown
  dsimp only
  split_ifs
  · exact ⟨leftClick, dragging,
      .inl (posBegin_setTrackerPosition.trans posEnd_setTrackerPosition.symm)⟩
  · exact ⟨leftClick, dragging, .inr ⟨wide, rfl, rfl⟩⟩

/-! ## The release -/

theorem leftUp_points (dragging : held.state.dragging = true) :
    held.onMouseLeftUp.posBegin = held.curBegin ∧ held.onMouseLeftUp.posEnd = held.curEnd := by
  unfold onMouseLeftUp
  simp only [if_pos dragging]
  let released : WxLineTracker := { held with state := { held.state with mouseCaptured := false } }
  exact ⟨@posBegin_setTrackerPosition released _ _, @posEnd_setTrackerPosition released _ _⟩

/-! ## The line as a whole -/

/-- Only a hit on the line moves both points with the pointer. -/
theorem onLine_of_moved {first last : Point}
    (moved : ∀ dx dy, held.draggedPoints (press.moved dx dy) =
      (first.moved dx dy, last.moved dx dy)) : held.hitTest held.leftClick = .onLine := by
  have columns (dx : Int) :=
    congrArg (fun points : Point × Point => (points.1.x, points.2.x)) (moved dx 0)
  have still := columns 0
  have shifted := columns 1
  cases hit : held.hitTest held.leftClick with
  | onLine => rfl
  | none | atBegin | atEnd =>
      simp only [draggedPoints, hit, LineHandler.first, LineHandler.last, Bool.false_eq_true,
        if_false, if_true, Point.moved, Prod.mk.injEq] at still shifted
      omega

/-- A line that can be hit has two ends. -/
theorem apart_of_onLine (hit : tracker.hitTest position = .onLine) :
    tracker.posBegin ≠ tracker.posEnd := by
  intro same
  unfold hitTest at hit
  simp only [same, sub_self, ne_eq, not_true_eq_false, or_self, false_and, if_false] at hit
  split_ifs at hit

/-- The ends of a line tell the width of its rectangle. -/
theorem LineSet.width_eq (drawn : tracker.LineSet)
    (beginHandler : next.beginHandler = tracker.beginHandler)
    (endHandler : next.endHandler = tracker.endHandler)
    (posBegin : next.posBegin = tracker.posBegin)
    (posEnd : next.posEnd = tracker.posEnd) : next.rect.width = tracker.rect.width := by
  have columns : next.posEnd.x - next.posBegin.x = tracker.posEnd.x - tracker.posBegin.x := by
    rw [posBegin, posEnd]
  unfold WxLineTracker.posBegin WxLineTracker.posEnd at columns
  rw [beginHandler, endHandler] at columns
  rcases drawn.cases with ⟨beginning, ending⟩ | ⟨beginning, ending⟩ | ⟨beginning, ending⟩ |
    ⟨beginning, ending⟩ <;>
    rw [beginning, ending] at columns <;> simp only [Rect.posHandler] at columns <;> omega

/-- A press outside the rectangle of a line does not take hold of the line. -/
theorem Held.not_moved (held : Held (tracker.onMouseLeftDown press) count next)
    (drawn : tracker.LineSet) (sized : 0 ≤ tracker.rect.width)
    (outside : tracker.toRectTracker.hitTest press = .outside) :
    ¬∀ dx dy, next.draggedPoints (press.moved dx dy) =
      (tracker.posBegin.moved dx dy, tracker.posEnd.moved dx dy) := by
  intro moved
  obtain ⟨leftClick, -, shape⟩ := leftDown_off outside
  have hit := onLine_of_moved moved
  have click : next.leftClick = press := held.leftClick.trans leftClick
  rw [click] at hit
  have still := moved 0 0
  unfold draggedPoints at still
  simp only [click, hit, LineHandler.first, LineHandler.last, if_true, Point.moved, add_zero,
    sub_self, Prod.mk.injEq] at still
  rcases shape with point | ⟨wide, beginHandler, endHandler⟩
  · rw [held.hitTest] at hit
    exact apart_of_onLine hit point
  · have width := drawn.width_eq beginHandler endHandler (held.posBegin.symm.trans still.1)
      (held.posEnd.symm.trans still.2)
    omega

/-! ## The drag -/

/-- A drag that starts at an end or on the line inside its rectangle. -/
theorem Held.keeps_iff (held : Held (tracker.onMouseLeftDown press) count next)
    (inside : tracker.toRectTracker.hitTest press ≠ .outside)
    (hit : tracker.hitTest press ≠ .none) :
    DragKeeps tracker press next next.onMouseLeftUp ↔ tracker.Agrees press count := by
  obtain ⟨posBegin, posEnd⟩ := leftUp_points held.dragging
  have same (position : Point) : next.hitTest position = tracker.hitTest position := by
    rw [held.hitTest, leftDown_on inside hit]
    rfl
  have beginning : next.posBegin = tracker.posBegin := by
    rw [held.posBegin, leftDown_on inside hit]
    rfl
  have ending : next.posEnd = tracker.posEnd := by
    rw [held.posEnd, leftDown_on inside hit]
    rfl
  have click : next.leftClick = press := by
    rw [held.leftClick, leftDown_on inside hit]
  have curBegin := held.curBegin
  have curEnd := held.curEnd
  rw [← held.hitTest, ← held.leftClick, same, click, leftDown_on inside hit] at curBegin curEnd
  constructor
  · intro keeps
    refine ⟨fun atBegin => ?_, fun atEnd => ?_, fun _ => inside⟩
    · rw [← keeps.atBegin atBegin, posEnd]
      exact (curEnd (by rw [atBegin]; rfl)).symm
    · rw [← keeps.atEnd atEnd, posBegin]
      exact (curBegin (by rw [atEnd]; rfl)).symm
  · intro agrees
    refine ⟨fun atBegin => ?_, fun atEnd => ?_, fun onLine dx dy => ?_⟩
    · rw [← agrees.atBegin atBegin, posEnd]
      exact curEnd (by rw [atBegin]; rfl)
    · rw [← agrees.atEnd atEnd, posBegin]
      exact curBegin (by rw [atEnd]; rfl)
    · unfold draggedPoints
      rw [click, same, onLine, beginning, ending]
      simp [LineHandler.first, LineHandler.last, Point.moved]

/-- In every state with a line inside the max rect, whatever the motions: a drag keeps the other
end, or moves the line, exactly when the working points agree and the press is in the rectangle. -/
theorem drag_keeps_iff {released : WxLineTracker} {motions : List Motion} (drawn : tracker.Drawn)
    (inside : tracker.rect.Inside tracker.maxRect)
    (moved : runEvents step (dragEvents press motions) tracker = some held)
    (executed : step .leftUp held = some released) :
    DragKeeps tracker press held released ↔ tracker.Agrees press (drags motions) := by
  obtain ⟨start, pressed, dragged⟩ := Option.bind_eq_some_iff.mp moved
  obtain ⟨-, down⟩ := Option.ite_none_left_eq_some.mp pressed
  obtain ⟨-, up⟩ := Option.ite_none_left_eq_some.mp executed
  rw [← Option.some.inj down] at dragged
  rw [← Option.some.inj up]
  have lineSet := drawn.lineSet
  by_cases outside : tracker.toRectTracker.hitTest press = .outside
  · have kept := (Held.refl (leftDown_off outside).2.1).motions dragged
    have notBegin (hit : tracker.hitTest press = .atBegin) : False :=
      lineSet.inside_of_atBegin hit outside
    have notEnd (hit : tracker.hitTest press = .atEnd) : False :=
      lineSet.inside_of_atEnd hit outside
    have notLine := kept.not_moved lineSet inside.sized.1 outside
    constructor
    · exact fun keeps => ⟨fun hit => (notBegin hit).elim, fun hit => (notEnd hit).elim,
        fun hit => (notLine (keeps.onLine hit)).elim⟩
    · exact fun agrees => ⟨fun hit => (notBegin hit).elim, fun hit => (notEnd hit).elim,
        fun hit => (agrees.onLine hit outside).elim⟩
  · by_cases hit : tracker.hitTest press = .none
    · constructor
      · exact fun _ => ⟨by simp [hit], by simp [hit], by simp [hit]⟩
      · exact fun _ => ⟨by simp [hit], by simp [hit], by simp [hit]⟩
    · have marked : (tracker.onMouseLeftDown press).state.dragging = true := by
        rw [leftDown_on outside hit]
      have kept := (Held.refl marked).motions dragged
      rw [Nat.zero_add] at kept
      exact kept.keeps_iff outside hit

/-! ## Working points that agree -/

/-- A corner of a line inside the max rect is not clipped. -/
theorem adjustPoint_posHandler {rect maxRect : Rect} {handler : Handler}
    (corner : handler.corner = true) (wide : 0 < rect.width) (high : 0 < rect.height)
    (inside : rect.Inside maxRect) :
    adjustPoint maxRect (rect.posHandler handler) = rect.posHandler handler := by
  obtain ⟨⟨-, left, right⟩, -, top, bottom⟩ := inside
  simp only [Rect.horizontal, Rect.vertical, Span.stop] at left right top bottom
  have within {low high other value : Int} (above : low ≤ value) (below : value ≤ high) :
      clampCoordinate low high other value = value := by
    unfold clampCoordinate
    rw [if_neg (not_lt.mpr above), if_neg (not_lt.mpr below)]
  unfold adjustPoint
  split_ifs
  · rfl
  · cases handler with
    | topLeft | topRight | bottomRight | bottomLeft =>
        simp only [Rect.posHandler, Point.mk.injEq]
        exact ⟨within (by omega) (by omega), within (by omega) (by omega)⟩
    | outside | none | topMid | midRight | bottomMid | midLeft =>
        simp [Handler.corner] at corner

/-- The ends of a line inside the max rect can be dragged as often as the pointer moves when the
working points are its ends, as they are after a drag. -/
theorem LineSet.agrees (drawn : tracker.LineSet) (wide : 0 < tracker.rect.width)
    (high : 0 < tracker.rect.height) (inside : tracker.rect.Inside tracker.maxRect)
    (curBegin : tracker.curBegin = tracker.posBegin) (curEnd : tracker.curEnd = tracker.posEnd)
    (within : tracker.toRectTracker.hitTest press ≠ .outside) (count : Nat) :
    tracker.Agrees press count := by
  have begins := adjustPoint_posHandler drawn.corners.1 wide high inside
  have ends := adjustPoint_posHandler drawn.corners.2 wide high inside
  refine ⟨fun _ => ?_, fun _ => ?_, fun _ => within⟩
  · rw [curEnd]
    exact Function.iterate_fixed ends count
  · rw [curBegin]
    exact Function.iterate_fixed begins count

/-- The line drawn in the image, with the working points of the drag that drew it. -/
def draggedLine : WxLineTracker :=
  setTrackerPosition { drawnLine with curBegin := ⟨10, 10⟩, curEnd := ⟨30, 20⟩ } ⟨10, 10⟩ ⟨30, 20⟩

/-- Its end is dragged by two motions. -/
theorem draggedLine_kept :
    let held :=
      ((draggedLine.onMouseLeftDown ⟨28, 19⟩).onMouseMotion ⟨50, 40⟩ true true).onMouseMotion
        ⟨60, 50⟩ true true
    DragKeeps draggedLine ⟨28, 19⟩ held held.onMouseLeftUp ↔ draggedLine.Agrees ⟨28, 19⟩ 2 :=
  @drag_keeps_iff _ _ _ _ [(⟨50, 40⟩, true, true), (⟨60, 50⟩, true, true)]
    ⟨_, _, _, .refl _⟩ (by decide) (by decide +kernel) (by decide +kernel)

/-- The line as `SetTrackerPosition` leaves it: dragging its end carries its begin away. -/
theorem drawnLine_begin_jumps :
    drawnLine.Drawn ∧ drawnLine.rect.Inside drawnLine.maxRect ∧
      drawnLine.hitTest ⟨28, 19⟩ = .atEnd ∧ drawnLine.posBegin = ⟨10, 10⟩ ∧
      ((runEvents step
        (dragEvents ⟨28, 19⟩ [(⟨50, 40⟩, true, true)] ++ [.leftUp]) drawnLine).map posBegin) =
          some ⟨0, 0⟩ := by
  refine ⟨drawnLine_drawn, ?_⟩
  decide +kernel

end WxLineTracker

end RPhoto.Tracker
