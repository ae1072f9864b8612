import RPhoto.Library.Run
import RPhoto.Tracker.BaseTracker

/-!
# Clicking

The release commits the rectangle that the last drag computed and toggles the bits
of the drag.  A click without a motion computes no rectangle, so it commits an old
one, and it sets the bit of the first drag that was clear, or clears it.
-/

namespace RPhoto.Tracker

open RPhoto.Library

namespace RectTracker

variable {tracker : RectTracker} {position : Point}

/-- A press and a release without a motion in between. -/
def click (tracker : RectTracker) (position : Point) : RectTracker :=
  (tracker.onMouseLeftDown position).onMouseLeftUp

/-- A click on the selection commits the rectangle of the last drag. -/
theorem click_eq (shown : tracker.hitTest position ≠ .outside) :
    tracker.click position =
      update
        { tracker with
          rect := tracker.prevRect
          state := ⟨false, false, tracker.state.disabled, !tracker.state.firstDrag⟩
          leftClick := ⟨0, 0⟩ } := by
  have hit : ({ tracker with
      state := { tracker.state with dragging := true }
      leftClick := position } : RectTracker).hitTest position ≠ .outside := shown
  unfold click onMouseLeftDown
  simp only [if_neg hit]
  rfl

/-- The selection stays exactly when the rectangle of the last drag is adjusted to it. -/
theorem click_rect_iff (shown : tracker.hitTest position ≠ .outside) :
    (tracker.click position).rect = tracker.rect ↔
      tracker.adjustTrackerRect tracker.prevRect .outside = tracker.rect := by
  rw [click_eq shown, update_eq]
  rfl

/-- The release of a drag leaves such a selection. -/
theorem leftUp_committed (dragging : tracker.state.dragging = true) :
    tracker.onMouseLeftUp.adjustTrackerRect tracker.onMouseLeftUp.prevRect .outside =
      tracker.onMouseLeftUp.rect := by
  unfold onMouseLeftUp
  simp only [if_pos dragging, update_eq]
  rfl

/-- So a click right after a drag commits the same rectangle once more. -/
theorem click_after_drag (dragging : tracker.state.dragging = true)
    (shown : tracker.onMouseLeftUp.hitTest position ≠ .outside) :
    (tracker.onMouseLeftUp.click position).rect = tracker.onMouseLeftUp.rect :=
  (click_rect_iff shown).mpr (leftUp_committed dragging)

theorem click_firstDrag (shown : tracker.hitTest position ≠ .outside) :
    (tracker.click position).state.firstDrag = !tracker.state.firstDrag := by
  rw [click_eq shown, update_eq]

/-- No click on the selection leaves the rectangle and the state as they were. -/
theorem click_disturbs (tracker : RectTracker) (position : Point)
    (shown : tracker.hitTest position ≠ .outside) :
    ¬((tracker.click position).rect = tracker.rect ∧
      (tracker.click position).state = tracker.state) := by
  rintro ⟨-, state⟩
  have toggled := click_firstDrag shown
  rw [state] at toggled
  exact (Bool.eq_not_self _).mp toggled

/-- A selection is drawn and moved with an arrow key. -/
def keyed : List Event :=
  [.setMaxRect ⟨0, 0, 100, 80⟩, .leftDown ⟨10, 10⟩, .motion ⟨50, 40⟩ true true, .leftUp,
    .key .right true false]

/-- The state `keyed` ends in. -/
def keyedAway : RectTracker where
  rect := ⟨20, 10, 41, 31⟩
  maxRect := ⟨0, 0, 100, 80⟩
  prevRect := ⟨10, 10, 41, 31⟩
  curRect := ⟨20, 10, 41, 31⟩
  leftClick := ⟨0, 0⟩
  state := ⟨false, false, false, false⟩
  handlerWidth := 5

theorem keyedAway_disturbed :
    ¬((keyedAway.click ⟨35, 25⟩).rect = keyedAway.rect ∧
      (keyedAway.click ⟨35, 25⟩).state = keyedAway.state) :=
  click_disturbs keyedAway ⟨35, 25⟩ (by decide)

/-- A click on it puts the selection back where the drag left it. -/
theorem keyed_selection_jumps :
    runEvents step keyed create = some keyedAway ∧ keyedAway.state.disabled = false ∧
      keyedAway.hitTest ⟨35, 25⟩ ≠ .outside ∧
      (keyedAway.click ⟨35, 25⟩).rect ≠ keyedAway.rect ∧
      (keyedAway.click ⟨35, 25⟩).state ≠ keyedAway.state := by
  decide +kernel

end RectTracker

end RPhoto.Tracker
