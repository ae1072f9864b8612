import RPhoto.Tracker.LineMouse

/-!
# Grabbing an end of a line

The hit test of the line asks the hit test of its rectangle, which looks for the
bottom edge before the middle and for the middle before the top, and for the right
side before the middle and the left.  A side that is not longer than the handles
belongs to the bottom or to the right alone, so a line that is nearly horizontal or
nearly vertical has a corner that is never reported.
-/

namespace RPhoto.Tracker

open RPhoto.Library

/-- The handlers at the corners. -/
def Handler.corner : Handler → Bool
  | topLeft | topRight | bottomRight | bottomLeft => true
  | _ => false

theorem Handler.ne_outside {handler : Handler} (corner : handler.corner = true) :
    handler ≠ .outside := by
  rintro rfl
  cases corner

/-- A half that is not positive, rounded towards zero. -/
theorem half_nonpos_iff (length : Int) : length.tdiv 2 ≤ 0 ↔ length ≤ 1 := by
  rcases le_total 0 length with nonneg | nonpos
  · rw [Int.tdiv_eq_ediv_of_nonneg nonneg]
    omega
  · have opposite : 0 ≤ (-length).tdiv 2 := Int.tdiv_nonneg (by omega) (by decide)
    rw [Int.neg_tdiv] at opposite
    omega

/-- The rectangle between two points reports a corner on its left or top edge only when the
edge is longer than a handle. -/
theorem RectTracker.hitTest_corner {tracker : RectTracker} {handler : Handler}
    (corner : handler.corner = true) (wide : 1 ≤ tracker.rect.width)
    (high : 1 ≤ tracker.rect.height) (handle : 1 ≤ tracker.handlerWidth) :
    tracker.hitTest (tracker.rect.posHandler handler) = handler ↔
      (handler.left = true → tracker.handlerWidth + 1 < tracker.rect.width) ∧
        (handler.top = true → tracker.handlerWidth + 1 < tracker.rect.height) := by
  have columns := half_nonpos_iff (tracker.rect.width - tracker.handlerWidth)
  have rows := half_nonpos_iff (tracker.rect.height - tracker.handlerWidth)
  have right : 0 ≤ (tracker.rect.width + tracker.handlerWidth).tdiv 2 :=
    Int.tdiv_nonneg (by omega) (by decide)
  have below : 0 ≤ (tracker.rect.height + tracker.handlerWidth).tdiv 2 :=
    Int.tdiv_nonneg (by omega) (by decide)
  unfold hitTest Rect.posHandler
  cases handler with
  | bottomRight =>
      -- The bottom comes first and in it the right side.
      refine iff_of_true ?_ ⟨nofun, nofun⟩
      dsimp only
      rw [if_neg (by omega), if_pos (by omega), if_pos (by omega)]
  | topLeft | topRight | bottomLeft =>
      simp only [Handler.left, Handler.top, true_imp_iff, Bool.false_eq_true, false_imp_iff,
        true_and, and_true, sub_self, add_sub_cancel_left]
      grind
  | outside | none | topMid | midRight | bottomMid | midLeft => simp [Handler.corner] at corner

namespace WxLineTracker

variable {tracker : WxLineTracker} {first last position : Point}

/-- The end is asked for first. -/
theorem hitTest_eq_atEnd_iff (tracker : WxLineTracker) (position : Point) :
    tracker.hitTest position = .atEnd ↔
      tracker.toRectTracker.hitTest position = tracker.endHandler := by
  unfold hitTest
  dsimp only
  split_ifs with ending beginning beside
  · exact iff_of_true rfl ending
  · exact iff_of_false nofun ending
  · exact iff_of_false nofun ending
  · exact iff_of_false nofun ending

theorem hitTest_eq_atBegin_iff (distinct : tracker.beginHandler ≠ tracker.endHandler)
    (position : Point) :
    tracker.hitTest position = .atBegin ↔
      tracker.toRectTracker.hitTest position = tracker.beginHandler := by
  unfold hitTest
  dsimp only
  split_ifs with ending beginning beside
  · exact iff_of_false nofun fun other => distinct (other.symm.trans ending)
  · exact iff_of_true rfl beginning
  · exact iff_of_false nofun beginning
  · exact iff_of_false nofun beginning

theorem LineSet.corners (drawn : tracker.LineSet) :
    tracker.beginHandler.corner = true ∧ tracker.endHandler.corner = true := by
  rcases drawn.cases with ⟨beginning, ending⟩ | ⟨beginning, ending⟩ | ⟨beginning, ending⟩ |
    ⟨beginning, ending⟩ <;>
    rw [beginning, ending] <;> decide

theorem LineSet.distinct (drawn : tracker.LineSet) :
    tracker.beginHandler ≠ tracker.endHandler := by
  rcases drawn.cases with ⟨beginning, ending⟩ | ⟨beginning, ending⟩ | ⟨beginning, ending⟩ |
    ⟨beginning, ending⟩ <;>
    rw [beginning, ending] <;> decide

/-- One of the two ends lies on the left and one on the top edge. -/
theorem LineSet.grabbed_iff (drawn : tracker.LineSet) (wide : 1 ≤ tracker.rect.width)
    (high : 1 ≤ tracker.rect.height) (handle : 1 ≤ tracker.handlerWidth) :
    (tracker.hitTest tracker.posBegin = .atBegin ∧ tracker.hitTest tracker.posEnd = .atEnd) ↔
      tracker.handlerWidth + 1 < tracker.rect.width ∧
        tracker.handlerWidth + 1 < tracker.rect.height := by
  have atCorner {handler : Handler} (corner : handler.corner = true) :=
    @RectTracker.hitTest_corner tracker.toRectTracker handler corner wide high handle
  rw [hitTest_eq_atBegin_iff drawn.distinct, hitTest_eq_atEnd_iff]
  unfold posBegin posEnd
  rcases drawn.cases with ⟨beginning, ending⟩ | ⟨beginning, ending⟩ | ⟨beginning, ending⟩ |
    ⟨beginning, ending⟩ <;>
    rw [beginning, ending, atCorner rfl, atCorner rfl] <;>
    simp [Handler.left, Handler.top, and_comm]

/-- Both ends can be grabbed exactly when the line is wider and higher than a handle. -/
theorem ends_grabbed_iff (tracker : WxLineTracker) (handle : 1 ≤ tracker.handlerWidth)
    (first last : Point) :
    ((tracker.setTrackerPosition first last).hitTest first = .atBegin ∧
        (tracker.setTrackerPosition first last).hitTest last = .atEnd) ↔
      tracker.handlerWidth < |last.x - first.x| ∧ tracker.handlerWidth < |last.y - first.y| := by
  have columns := abs_nonneg (last.x - first.x)
  have rows := abs_nonneg (last.y - first.y)
  have width : (tracker.setTrackerPosition first last).rect.width = |last.x - first.x| + 1 :=
    congrArg Rect.width (setTrackerPosition_rect first last)
  have height : (tracker.setTrackerPosition first last).rect.height = |last.y - first.y| + 1 :=
    congrArg Rect.height (setTrackerPosition_rect first last)
  have grabbed := (lineSet_setTrackerPosition tracker first last).grabbed_iff (by omega)
    (by omega) handle
  rw [posBegin_setTrackerPosition, posEnd_setTrackerPosition, width, height] at grabbed
  refine grabbed.trans (and_congr ?_ ?_)
  · exact add_lt_add_iff_right 1
  · exact add_lt_add_iff_right 1

/-- A line tracker with the handles of the constructor. -/
def drawnTracker : WxLineTracker := create .none .none

theorem slanted_grabbed :
    (drawnTracker.setTrackerPosition ⟨10, 10⟩ ⟨30, 20⟩).hitTest ⟨10, 10⟩ = .atBegin ∧
      (drawnTracker.setTrackerPosition ⟨10, 10⟩ ⟨30, 20⟩).hitTest ⟨30, 20⟩ = .atEnd :=
  (ends_grabbed_iff drawnTracker (by decide) ⟨10, 10⟩ ⟨30, 20⟩).mpr (by decide)

/-- The left end of a line of 101 by 3 pixels is taken for a point of the line. -/
theorem level_not_grabbed :
    2 * drawnTracker.handlerWidth < |(110 : Int) - 10| ∧
      (drawnTracker.setTrackerPosition ⟨10, 10⟩ ⟨110, 12⟩).hitTest ⟨10, 10⟩ = .onLine := by
  decide +kernel

end WxLineTracker

end RPhoto.Tracker
