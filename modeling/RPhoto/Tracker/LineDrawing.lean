import RPhoto.Tracker.Dragging
import RPhoto.Tracker.LineGrab

/-!
# Drawing a new line

A press outside the rectangle of a line is handled twice.  The base class hides the
rectangle and clips what is hidden.  Then the hit test of the line measures how far
the pointer is from the infinite line through two corners of the hidden rectangle,
the ones where the old line began and ended; only far from it a new line starts.
-/

namespace RPhoto.Tracker

open RPhoto.Library

/-- The rectangle of a tracker that has been hidden and updated. -/
def hiddenRect (maxRect : Rect) : Rect :=
  if maxRect.width < 0 ∨ maxRect.height < 0 then nullRect else Rect.inter maxRect nullRect

theorem RectTracker.hide_update_rect (tracker : RectTracker) :
    tracker.hide.update.rect = hiddenRect tracker.maxRect := by
  rw [update_eq]
  unfold adjustTrackerRect adjustTrackerRectMax hiddenRect Rect.inter
  rw [← Span.confine_cut, ← Span.confine_cut]
  rfl

/-- Clipped or not, it has negative sides. -/
theorem hiddenRect_negative (maxRect : Rect) :
    (hiddenRect maxRect).width < 0 ∧ (hiddenRect maxRect).height < 0 := by
  unfold hiddenRect
  split
  · decide
  · simp only [Rect.inter, Span.inter, Rect.width_ofSpans, Rect.height_ofSpans, Rect.horizontal,
      Rect.vertical, nullRect, Span.stop]
    omega

/-- A max rect around the origin does not clip it. -/
theorem hiddenRect_of_origin {maxRect : Rect} (left : maxRect.x ≤ 0)
    (right : -1 ≤ maxRect.x + maxRect.width) (top : maxRect.y ≤ 0)
    (bottom : -1 ≤ maxRect.y + maxRect.height) : hiddenRect maxRect = nullRect := by
  unfold hiddenRect
  split
  · rfl
  · simp only [Rect.inter, Span.inter, Rect.ofSpans, Rect.horizontal, Rect.vertical, nullRect,
      Span.stop, Rect.mk.injEq]
    omega

namespace WxLineTracker

variable {tracker next : WxLineTracker} {position : Point}

/-! ## What happens to the corners -/

theorem LineSet.workWith (drawn : tracker.LineSet) (points : Point × Point) :
    (tracker.workWith points).LineSet :=
  drawn.of_tags rfl rfl

theorem lineSet_commit (tracker : WxLineTracker) : tracker.commit.LineSet :=
  lineSet_setTrackerPosition tracker tracker.curBegin tracker.curEnd

theorem LineSet.onKey (drawn : tracker.LineSet) (key : RectTrackerRatio.Key)
    (controlDown shiftDown : Bool) : (tracker.onKey key controlDown shiftDown).LineSet := by
  unfold WxLineTracker.onKey
  by_cases off : tracker.state.disabled = true
  · rw [if_pos off]
    exact drawn
  rw [if_neg off]
  cases key with
  | escape =>
      dsimp only
      split
      · exact drawn.of_tags rfl rfl
      · exact drawn.of_tags rfl rfl
  | other => exact drawn
  | left | up | right | down => exact lineSet_commit _

theorem LineSet.onMouseMotion (drawn : tracker.LineSet) (position : Point)
    (isDragging leftIsDown : Bool) :
    (tracker.onMouseMotion position isDragging leftIsDown).LineSet := by
  have begun : tracker.beginDrag.LineSet := by
    unfold beginDrag
    split_ifs
    · exact drawn
    · exact drawn.of_tags rfl rfl
  unfold WxLineTracker.onMouseMotion
  dsimp only
  split_ifs
  · exact drawn
  · exact (begun.workWith (tracker.beginDrag.draggedPoints position)).of_tags rfl rfl
  · exact drawn.of_tags rfl rfl

theorem LineSet.onMouseLeftDown (drawn : tracker.LineSet) (position : Point) :
    (tracker.onMouseLeftDown position).LineSet := by
  unfold WxLineTracker.onMouseLeftDown
  dsimp only
  split_ifs
  · exact lineSet_commit _
  · exact drawn.of_tags rfl rfl

theorem LineSet.onMouseLeftUp (drawn : tracker.LineSet) : tracker.onMouseLeftUp.LineSet := by
  unfold WxLineTracker.onMouseLeftUp
  dsimp only
  split_ifs
  · exact (lineSet_commit _).of_tags rfl rfl
  · exact drawn.of_tags rfl rfl

/-- Once a line has been set, there is one. -/
theorem LineSet.step {event : Event} (drawn : tracker.LineSet)
    (executed : step event tracker = some next) : next.LineSet := by
  cases event with
  | leftDown position =>
      obtain ⟨-, same⟩ := Option.ite_none_left_eq_some.mp executed
      exact Option.some.inj same ▸ drawn.onMouseLeftDown position
  | motion position isDragging leftIsDown =>
      obtain ⟨-, same⟩ := Option.ite_none_left_eq_some.mp executed
      exact Option.some.inj same ▸ drawn.onMouseMotion position isDragging leftIsDown
  | leftUp =>
      obtain ⟨-, same⟩ := Option.ite_none_left_eq_some.mp executed
      exact Option.some.inj same ▸ drawn.onMouseLeftUp
  | key key controlDown shiftDown =>
      obtain ⟨-, same⟩ := Option.ite_none_left_eq_some.mp executed
      exact Option.some.inj same ▸ drawn.onKey key controlDown shiftDown
  | setTrackerPosition first last =>
      exact Option.some.inj executed ▸ lineSet_setTrackerPosition tracker first last
  | setTrackerRect | setUnscrolledRect | hide | enable | disable | setMaxRect | setHandlesWidth =>
      exact Option.some.inj executed ▸ drawn.of_tags rfl rfl

/-- Reachable states in which a line has been set. -/
def Drawn (tracker : WxLineTracker) : Prop :=
  ∃ base first last, Run step (fun _ _ => True) (setTrackerPosition base first last) tracker

theorem Drawn.lineSet (drawn : tracker.Drawn) : tracker.LineSet := by
  obtain ⟨base, first, last, run⟩ := drawn
  exact run.invariant (fun _ executed drawn => drawn.step executed)
    (lineSet_setTrackerPosition base first last)

/-! ## A press outside -/

/-- The position is as far from the line through the hidden corners as a handle is wide. -/
def Misses (tracker : WxLineTracker) (position : Point) : Prop :=
  let first := (hiddenRect tracker.maxRect).posHandler tracker.beginHandler
  let last := (hiddenRect tracker.maxRect).posHandler tracker.endHandler
  tracker.handlerWidth * tracker.handlerWidth *
      ((last.x - first.x) * (last.x - first.x) + (last.y - first.y) * (last.y - first.y)) ≤
    beside first last position * beside first last position

instance (tracker : WxLineTracker) (position : Point) : Decidable (tracker.Misses position) :=
  inferInstanceAs (Decidable (_ ≤ _))

/-- The line is a single point, and so are the working points. -/
structure IsPoint (tracker : WxLineTracker) (position : Point) : Prop where
  posBegin : tracker.posBegin = position
  posEnd : tracker.posEnd = position
  curBegin : tracker.curBegin = position
  curEnd : tracker.curEnd = position

/-- The corners of a hidden rectangle lie apart. -/
theorem LineSet.apart (drawn : tracker.LineSet) (wide : tracker.rect.width < 0) :
    tracker.posEnd.x - tracker.posBegin.x ≠ 0 := by
  unfold posBegin posEnd
  rcases drawn.cases with ⟨beginning, ending⟩ | ⟨beginning, ending⟩ | ⟨beginning, ending⟩ |
    ⟨beginning, ending⟩ <;>
    rw [beginning, ending] <;> simp only [Rect.posHandler] <;> omega

/-- The hit test of a hidden line measures the distance alone. -/
theorem LineSet.hitTest_hidden (drawn : tracker.LineSet) (wide : tracker.rect.width < 0)
    (position : Point) :
    tracker.hitTest position = .none ↔
      tracker.handlerWidth * tracker.handlerWidth *
          ((tracker.posEnd.x - tracker.posBegin.x) * (tracker.posEnd.x - tracker.posBegin.x) +
            (tracker.posEnd.y - tracker.posBegin.y) * (tracker.posEnd.y - tracker.posBegin.y)) ≤
        beside tracker.posBegin tracker.posEnd position *
          beside tracker.posBegin tracker.posEnd position := by
  have apart := drawn.apart wide
  have outside := RectTracker.hitTest_negative wide position
  have tags : Handler.outside ≠ tracker.endHandler ∧ Handler.outside ≠ tracker.beginHandler := by
    rcases drawn.cases with ⟨beginning, ending⟩ | ⟨beginning, ending⟩ | ⟨beginning, ending⟩ |
      ⟨beginning, ending⟩ <;>
      rw [beginning, ending] <;> decide
  have positive : 0 < (tracker.posEnd.x - tracker.posBegin.x) *
        (tracker.posEnd.x - tracker.posBegin.x) +
      (tracker.posEnd.y - tracker.posBegin.y) * (tracker.posEnd.y - tracker.posBegin.y) :=
    Int.add_pos_of_pos_of_nonneg (mul_self_pos.mpr apart) (mul_self_nonneg _)
  unfold hitTest
  simp only [outside, if_neg tags.1, if_neg tags.2, apart, not_false_eq_true, ne_eq, true_or,
    true_and, ite_eq_right_iff, reduceCtorEq, imp_false, not_lt]
  rw [le_div_iff₀ (Int.cast_pos.mpr positive)]
  exact_mod_cast Iff.rfl

/-- What the base class makes of a press outside. -/
theorem leftDown_outside {base : RectTracker} (outside : base.hitTest position = .outside) :
    (base.onMouseLeftDown position).rect = hiddenRect base.maxRect ∧
      (base.onMouseLeftDown position).maxRect = base.maxRect ∧
      (base.onMouseLeftDown position).handlerWidth = base.handlerWidth ∧
      (base.onMouseLeftDown position).leftClick = position := by
  have pressed : RectTracker.hitTest
      { base with state := { base.state with dragging := true }, leftClick := position } position =
        .outside := outside
  unfold RectTracker.onMouseLeftDown
  simp only [if_pos pressed]
  refine ⟨RectTracker.hide_update_rect _, ?_, ?_, ?_⟩ <;> rw [RectTracker.update_eq] <;> rfl

/-- A press outside starts a new line at the pointer exactly when it misses the hidden line. -/
theorem LineSet.isPoint_iff (drawn : tracker.LineSet)
    (outside : tracker.toRectTracker.hitTest position = .outside) :
    (tracker.onMouseLeftDown position).IsPoint position ↔ tracker.Misses position := by
  obtain ⟨rect, maxRect, handlerWidth, leftClick⟩ := leftDown_outside outside
  unfold WxLineTracker.onMouseLeftDown Misses
  generalize pressed : tracker.inherited (fun base => base.onMouseLeftDown position) = hidden
  have base : hidden.toRectTracker = tracker.toRectTracker.onMouseLeftDown position := by
    rw [← pressed]
    rfl
  have beginning : hidden.beginHandler = tracker.beginHandler := by
    rw [← pressed]
    rfl
  have ending : hidden.endHandler = tracker.endHandler := by
    rw [← pressed]
    rfl
  rw [← base] at rect maxRect handlerWidth leftClick
  have wide : hidden.rect.width < 0 := by
    rw [rect]
    exact (hiddenRect_negative tracker.maxRect).1
  have hiddenDrawn : hidden.LineSet := drawn.of_tags beginning ending
  have tested := hiddenDrawn.hitTest_hidden wide position
  unfold posBegin posEnd at tested
  rw [rect, beginning, ending, handlerWidth] at tested
  dsimp only
  rw [leftClick]
  by_cases missed : hidden.hitTest position = .none
  · rw [if_pos missed]
    exact iff_of_true
      ⟨posBegin_setTrackerPosition, posEnd_setTrackerPosition, rfl, rfl⟩ (tested.mp missed)
  · rw [if_neg missed]
    refine iff_of_false (fun point => hiddenDrawn.apart wide ?_) (mt tested.mpr missed)
    rw [point.posBegin, point.posEnd, sub_self]

/-- In every state with a line, an enabled tracker starts a new line at a press outside exactly
when the press misses the hidden line. -/
theorem press_draws_iff (drawn : tracker.Drawn)
    (outside : tracker.toRectTracker.hitTest position = .outside)
    (pressed : WxLineTracker.step (.leftDown position) tracker = some next) :
    next.IsPoint position ↔ tracker.Misses position := by
  obtain ⟨-, same⟩ := Option.ite_none_left_eq_some.mp pressed
  rw [← Option.some.inj same]
  exact drawn.lineSet.isPoint_iff outside

/-- In a max rect around the origin the hidden line runs along one of two diagonals. -/
theorem LineSet.misses_iff (drawn : tracker.LineSet) (left : tracker.maxRect.x ≤ 0)
    (right : -1 ≤ tracker.maxRect.x + tracker.maxRect.width) (top : tracker.maxRect.y ≤ 0)
    (bottom : -1 ≤ tracker.maxRect.y + tracker.maxRect.height) (position : Point) :
    tracker.Misses position ↔
      if tracker.beginHandler = .topLeft ∨ tracker.beginHandler = .bottomRight then
        2 * (tracker.handlerWidth * tracker.handlerWidth) ≤
          (position.x - position.y) * (position.x - position.y)
      else
        2 * (tracker.handlerWidth * tracker.handlerWidth) ≤
          (position.x + position.y + 2) * (position.x + position.y + 2) := by
  unfold Misses beside
  rw [hiddenRect_of_origin left right top bottom]
  rcases drawn.cases with ⟨beginning, ending⟩ | ⟨beginning, ending⟩ | ⟨beginning, ending⟩ |
    ⟨beginning, ending⟩ <;>
    rw [beginning, ending] <;>
    simp only [Rect.posHandler, nullRect, reduceCtorEq, or_self, or_true, true_or, if_true,
      if_false] <;>
    constructor <;> intro far <;> linarith

/-- A line drawn in an image of 100 by 80 pixels. -/
def drawnLine : WxLineTracker :=
  setTrackerPosition ((create .none .none).inherited fun base => base.setMaxRect ⟨0, 0, 100, 80⟩)
    ⟨10, 10⟩ ⟨30, 20⟩

theorem drawnLine_drawn : drawnLine.Drawn := ⟨_, _, _, .refl _⟩

theorem drawnLine_redrawn :
    (drawnLine.onMouseLeftDown ⟨60, 10⟩).IsPoint ⟨60, 10⟩ ↔ drawnLine.Misses ⟨60, 10⟩ :=
  press_draws_iff drawnLine_drawn (by decide +kernel) rfl

/-- A press on the diagonal of the image hides that line and starts no new one. -/
theorem drawnLine_lost :
    drawnLine.Drawn ∧ drawnLine.toRectTracker.hitTest ⟨60, 60⟩ = .outside ∧
      step (.leftDown ⟨60, 60⟩) drawnLine = some (drawnLine.onMouseLeftDown ⟨60, 60⟩) ∧
      (drawnLine.onMouseLeftDown ⟨60, 60⟩).posBegin = ⟨0, 0⟩ ∧
      (drawnLine.onMouseLeftDown ⟨60, 60⟩).posEnd = ⟨-2, -2⟩ ∧
      ¬(drawnLine.onMouseLeftDown ⟨60, 60⟩).IsPoint ⟨60, 60⟩ := by
  refine ⟨drawnLine_drawn, by decide +kernel, rfl, by decide +kernel, by decide +kernel, ?_⟩
  intro point
  exact absurd point.posBegin (by decide +kernel)

end WxLineTracker

end RPhoto.Tracker
