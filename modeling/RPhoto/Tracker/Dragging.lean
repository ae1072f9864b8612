import RPhoto.Tracker.BaseTracker

/-!
# Dragging

A press takes hold of a handler, of the inside or of nothing, and every motion
afterwards computes the rectangle from the press alone.  The touched edges follow
the pointer, also over the untouched ones: turning the rectangle the right way round
and clipping it to the max rect leave the span between the two edges and the bounds.
-/

namespace RPhoto.Tracker

open RPhoto.Library
open RectTrackerRatio (dragSides correctOrientation)

/-! ## The rule -/

/-- The rectangle between the edges of a rectangle after some of them are moved. -/
def Rect.stretched (rect : Rect) (hit : Handler) (dx dy : Int) : Rect :=
  .ofSpans
    (Span.between (if hit.left then rect.x + dx else rect.x)
      (if hit.right then rect.horizontal.stop + dx else rect.horizontal.stop))
    (Span.between (if hit.top then rect.y + dy else rect.y)
      (if hit.bottom then rect.vertical.stop + dy else rect.vertical.stop))

/-- The rectangle between two points. -/
def Rect.cornered (first second : Point) : Rect :=
  .ofSpans (Span.between first.x second.x) (Span.between first.y second.y)

/-- What a drag from a press to a position makes of a rectangle. -/
def dragRule (bounds rect : Rect) (hit : Handler) (press position : Point) : Rect :=
  let dx := position.x - press.x
  let dy := position.y - press.y
  match hit with
  | .none => Rect.slid bounds (rect.moved dx dy)
  | .outside => Rect.inter bounds (Rect.cornered press ⟨press.x + (1 + dx), press.y + (1 + dy)⟩)
  | hit => Rect.inter bounds (rect.stretched hit dx dy)

/-- A drag keeps the edges that its handler does not touch; a new rectangle keeps the press. -/
structure KeepsEdges (rect : Rect) (hit : Handler) (press : Point) (curRect : Rect) : Prop where
  outside : hit = .outside →
    curRect.horizontal.EndsAt press.x ∧ curRect.vertical.EndsAt press.y
  left : hit ≠ .outside → hit ≠ .none → hit.left = false → curRect.horizontal.EndsAt rect.x
  right : hit ≠ .outside → hit ≠ .none → hit.right = false →
    curRect.horizontal.EndsAt rect.horizontal.stop
  top : hit ≠ .outside → hit ≠ .none → hit.top = false → curRect.vertical.EndsAt rect.y
  bottom : hit ≠ .outside → hit ≠ .none → hit.bottom = false →
    curRect.vertical.EndsAt rect.vertical.stop

/-! ## One motion -/

variable {rect bounds : Rect} {hit : Handler}

/-- Turning a rectangle the right way round takes each span between its own ends. -/
theorem correctOrientation_fst (rect : Rect) (hit : Handler) :
    (correctOrientation rect hit).1 =
      .ofSpans (Span.between rect.x rect.horizontal.stop)
        (Span.between rect.y rect.vertical.stop) := by
  obtain ⟨x, y, width, height⟩ := rect
  unfold correctOrientation
  by_cases turned : width < 0 <;> by_cases upside : height < 0 <;>
    simp only [turned, upside, if_true, if_false, Rect.ofSpans, Span.between, Rect.horizontal,
      Rect.vertical, Span.stop, Rect.mk.injEq] <;>
    omega

/-- Dragging sides moves the edges that the handler touches. -/
theorem dragSides_oriented (shown : hit ≠ .outside) (resizing : hit ≠ .none) (dx dy : Int) :
    (correctOrientation (dragSides rect hit dx dy) hit).1 = rect.stretched hit dx dy := by
  rw [correctOrientation_fst]
  unfold Rect.stretched
  cases hit <;>
    simp only [ne_eq, not_true_eq_false] at shown resizing <;>
    simp only [dragSides, Handler.left, Handler.right, Handler.top, Handler.bottom, if_true,
      if_false, reduceCtorEq, Bool.false_eq_true, Rect.horizontal, Rect.vertical, Span.stop] <;>
    congr 2 <;> omega

theorem dragRule_resizing (shown : hit ≠ .outside) (resizing : hit ≠ .none)
    (press position : Point) :
    dragRule bounds rect hit press position =
      Rect.inter bounds (rect.stretched hit (position.x - press.x) (position.y - press.y)) := by
  cases hit <;> first | rfl | simp only [ne_eq, not_true_eq_false] at shown resizing

/-- The edges that a handler does not touch lie in the bounds, and so does the press. -/
theorem keepsEdges_dragRule (inside : rect.Inside bounds) {press : Point}
    (columns : bounds.x ≤ press.x ∧ press.x ≤ bounds.horizontal.stop)
    (rows : bounds.y ≤ press.y ∧ press.y ≤ bounds.vertical.stop) (position : Point) :
    KeepsEdges rect hit press (dragRule bounds rect hit press position) := by
  constructor
  · rintro rfl
    exact ⟨Span.endsAt_inter columns.1 columns.2, Span.endsAt_inter rows.1 rows.2⟩
  · intro shown resizing untouched
    rw [dragRule_resizing shown resizing, Rect.stretched, untouched]
    exact inside.1.endsAt_start _
  · intro shown resizing untouched
    rw [dragRule_resizing shown resizing, Rect.stretched, untouched]
    exact inside.1.endsAt_stop _
  · intro shown resizing untouched
    rw [dragRule_resizing shown resizing, Rect.stretched, untouched]
    exact inside.2.endsAt_start _
  · intro shown resizing untouched
    rw [dragRule_resizing shown resizing, Rect.stretched, untouched]
    exact inside.2.endsAt_stop _

namespace RectTracker

variable {start tracker : RectTracker}

theorem adjust_resizing (set : tracker.maxRect.Sized) {handler : Handler}
    (resizing : handler ≠ .none) (rect : Rect) :
    tracker.adjustTrackerRect rect handler = Rect.inter tracker.maxRect rect := by
  unfold adjustTrackerRect adjustTrackerRectMax Rect.inter
  rw [if_neg (by unfold Rect.Sized at set; omega), decide_eq_true resizing, Span.confine_cut,
    Span.confine_cut]

theorem adjust_moving (set : tracker.maxRect.Sized) (rect : Rect) :
    tracker.adjustTrackerRect rect .none = Rect.slid tracker.maxRect rect := by
  unfold adjustTrackerRect adjustTrackerRectMax Rect.slid
  rw [if_neg (by unfold Rect.Sized at set; omega), ← Span.confine_slide, ← Span.confine_slide]
  rfl

/-! ## A drag -/

/-- What a motion computes with, from the press to the release. -/
structure Held (start : RectTracker) (press : Point) (tracker : RectTracker) : Prop where
  maxRect : tracker.maxRect = start.maxRect
  leftClick : tracker.leftClick = press
  hit : tracker.hitTest press = start.hitTest press
  rect : start.hitTest press ≠ .outside → tracker.rect = start.rect
  dragging : tracker.state.dragging = true
  enabled : tracker.state.disabled = false

/-- A rectangle of negative width has no inside. -/
theorem hitTest_negative (negative : tracker.rect.width < 0) (position : Point) :
    tracker.hitTest position = .outside := by
  unfold hitTest
  refine if_pos ?_
  omega

/-- A press outside hides the rectangle, so it stays outside. -/
theorem Held.press (enabled : start.state.disabled = false) (set : start.maxRect.Sized)
    (press : Point) : Held start press (start.onMouseLeftDown press) := by
  unfold onMouseLeftDown
  dsimp only
  split_ifs with outside
  · have hidden : (start.adjustTrackerRect nullRect .outside).width < 0 := by
      rw [adjust_resizing set (by decide)]
      simp only [Rect.inter, Rect.width_ofSpans, Span.inter, Rect.horizontal, nullRect, Span.stop]
      omega
    rw [update_eq]
    exact ⟨rfl, rfl, (hitTest_negative hidden press).trans outside.symm,
      fun shown => absurd outside shown, rfl, enabled⟩
  · exact ⟨rfl, rfl, rfl, fun _ => rfl, rfl, enabled⟩

theorem Held.motion {press : Point} (held : Held start press tracker) (position : Point)
    (isDragging leftIsDown : Bool) :
    Held start press (tracker.onMouseMotion position isDragging leftIsDown) := by
  obtain ⟨maxRect, leftClick, hit, rect, dragging, enabled⟩ := held
  unfold onMouseMotion
  dsimp only
  split_ifs <;> exact ⟨maxRect, leftClick, hit, rect, dragging, enabled⟩

/-- A motion of the mouse. -/
structure Motion where
  position : Point
  isDragging : Bool
  leftIsDown : Bool

def moveAll (tracker : RectTracker) (motions : List Motion) : RectTracker :=
  motions.foldl (fun tracker motion =>
    tracker.onMouseMotion motion.position motion.isDragging motion.leftIsDown) tracker

theorem Held.moveAll {press : Point} (held : Held start press tracker) (motions : List Motion) :
    Held start press (tracker.moveAll motions) := by
  induction motions generalizing tracker with
  | nil => exact held
  | cons motion rest ih =>
      exact ih (held.motion motion.position motion.isDragging motion.leftIsDown)

/-- Whatever motions came before, a motion follows the rule. -/
theorem Held.curRect {press : Point} (held : Held start press tracker)
    (inside : start.rect.Inside start.maxRect) (position : Point) (leftIsDown : Bool) :
    (tracker.onMouseMotion position true leftIsDown).curRect =
      dragRule start.maxRect start.rect (start.hitTest press) press position := by
  have set : start.maxRect.Sized :=
    ⟨inside.1.1.trans inside.1.length_le, inside.2.1.trans inside.2.length_le⟩
  obtain ⟨maxRect, leftClick, hit, rect, dragging, enabled⟩ := held
  have computed : (tracker.onMouseMotion position true leftIsDown).curRect =
      tracker.adjustTrackerRect (tracker.draggedRect position).1
        (tracker.draggedRect position).2 := by
    unfold onMouseMotion
    rw [enabled, dragging]
    rfl
  rw [computed]
  unfold draggedRect
  dsimp only
  rw [leftClick, hit]
  rw [← maxRect] at set
  by_cases outside : start.hitTest press = .outside
  · -- A new rectangle grows from the press.
    rw [if_neg (not_not.mpr outside)]
    dsimp only
    rw [adjust_resizing set (RectTrackerRatio.correctOrientation_resizing _ (by decide)),
      dragSides_oriented (by decide) (by decide), maxRect, outside]
    refine congrArg (Rect.inter start.maxRect) (congrArg₂ Rect.ofSpans ?_ ?_)
    · exact congrArg (Span.between press.x) (add_assoc press.x 1 _)
    · exact congrArg (Span.between press.y) (add_assoc press.y 1 _)
  rw [if_pos outside, rect outside]
  dsimp only
  by_cases moving : start.hitTest press = .none
  · -- The rectangle keeps its sides.
    rw [moving, RectTrackerRatio.correctOrientation_of_sized
      (show Rect.Sized (dragSides start.rect .none _ _) from inside.sized), adjust_moving set,
      maxRect]
    rfl
  · rw [adjust_resizing set (RectTrackerRatio.correctOrientation_resizing _ moving),
      dragSides_oriented outside moving, maxRect]
    exact (dragRule_resizing outside moving _ _).symm

/-- Every motion of a drag computes the rectangle of the rule, and the edges are kept. -/
theorem drag_follows_rule (tracker : RectTracker) (press position : Point)
    (motions : List Motion) (leftIsDown : Bool) (enabled : tracker.state.disabled = false)
    (inside : tracker.rect.Inside tracker.maxRect)
    (columns : tracker.maxRect.x ≤ press.x ∧ press.x ≤ tracker.maxRect.horizontal.stop)
    (rows : tracker.maxRect.y ≤ press.y ∧ press.y ≤ tracker.maxRect.vertical.stop) :
    (((tracker.onMouseLeftDown press).moveAll motions).onMouseMotion
        position true leftIsDown).curRect =
      dragRule tracker.maxRect tracker.rect (tracker.hitTest press) press position ∧
    KeepsEdges tracker.rect (tracker.hitTest press) press
      (((tracker.onMouseLeftDown press).moveAll motions).onMouseMotion
        position true leftIsDown).curRect := by
  have set : tracker.maxRect.Sized :=
    ⟨inside.1.1.trans inside.1.length_le, inside.2.1.trans inside.2.length_le⟩
  have rule := ((Held.press enabled set press).moveAll motions).curRect inside position leftIsDown
  refine ⟨rule, ?_⟩
  rw [rule]
  exact keepsEdges_dragRule inside columns rows position

/-- A selection in an image of 100 by 80 pixels. -/
def selecting : RectTracker :=
  { create with rect := ⟨20, 20, 40, 30⟩, maxRect := ⟨0, 0, 100, 80⟩ }

/-- The corner at the bottom right is dragged over the left side and out of the image. -/
theorem crossing_follows_rule :
    (((selecting.onMouseLeftDown ⟨60, 50⟩).moveAll [⟨⟨70, 60⟩, true, true⟩]).onMouseMotion
        ⟨-7, 300⟩ true true).curRect =
      dragRule selecting.maxRect selecting.rect (selecting.hitTest ⟨60, 50⟩) ⟨60, 50⟩ ⟨-7, 300⟩ ∧
    KeepsEdges selecting.rect (selecting.hitTest ⟨60, 50⟩) ⟨60, 50⟩
      (((selecting.onMouseLeftDown ⟨60, 50⟩).moveAll [⟨⟨70, 60⟩, true, true⟩]).onMouseMotion
        ⟨-7, 300⟩ true true).curRect :=
  drag_follows_rule selecting ⟨60, 50⟩ ⟨-7, 300⟩ [⟨⟨70, 60⟩, true, true⟩] true (by decide)
    (by decide) (by decide) (by decide)

example : dragRule ⟨0, 0, 100, 80⟩ ⟨20, 20, 40, 30⟩ .bottomRight ⟨60, 50⟩ ⟨-7, 300⟩ =
    ⟨0, 20, 20, 60⟩ := by
  decide

end RectTracker

end RPhoto.Tracker
