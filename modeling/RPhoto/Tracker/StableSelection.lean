import RPhoto.Tracker.Selection
import RPhoto.Tracker.WrappedAdjust

/-!
# A settled selection is stable

Without fixed size the second ratio pass leaves a rectangle in ratio, or marks a
side as too far away.  So a rectangle that an update leaves inside the max rect
is in ratio: a further update leaves it, and the passes do not touch its size
while it is moved.  The distances of the passes are sums in an `int`, so both
updates must find them in its range.
-/

namespace RPhoto.Tracker

open RPhoto.Library

namespace RectTrackerRatio

variable {tracker : RectTrackerRatio} {rect : Rect} {handler : Handler}

/-- A rectangle without a marked side leaves the second pass in ratio. -/
theorem inRatio_secondPass (positive : 0 < tracker.ratio) (corner : handler.mid = false)
    (sized : (tracker.adjustTrackerRectRatio rect handler false).Sized) :
    tracker.InRatio (tracker.adjustTrackerRectRatio rect handler false) := by
  have unmarked : ¬0 ≤ farSize := by decide
  rw [secondPass_eq positive corner] at sized ⊢
  split_ifs at sized ⊢ with tall broad broad
  · rcases calcRectNearer_mem rect { tracker.rectHeight rect handler with height := farSize }
      { tracker.rectWidth rect handler with width := farSize } with chosen | chosen <;>
      rw [chosen] at sized
    · exact absurd sized.2 unmarked
    · exact absurd sized.1 unmarked
  · rcases calcRectNearer_mem rect { tracker.rectHeight rect handler with height := farSize }
      (tracker.rectWidth rect handler) with chosen | chosen <;> rw [chosen] at sized ⊢
    · exact absurd sized.2 unmarked
    · exact inRatio_rectWidth rect handler
  · rcases calcRectNearer_mem rect (tracker.rectHeight rect handler)
      { tracker.rectWidth rect handler with width := farSize } with chosen | chosen <;>
      rw [chosen] at sized ⊢
    · exact inRatio_rectHeight rect handler
    · exact absurd sized.1 unmarked
  · rcases calcRectNearer_mem rect (tracker.rectHeight rect handler)
      (tracker.rectWidth rect handler) with chosen | chosen <;> rw [chosen]
    · exact inRatio_rectHeight rect handler
    · exact inRatio_rectWidth rect handler

/-- What adjusting leaves inside the max rect is placed. -/
theorem placed_of_adjusted (unfixed : tracker.fixedWidth = -1) (corner : handler.mid = false)
    (inside : (tracker.adjustTrackerRect rect handler).Inside tracker.maxRect) :
    tracker.Placed (tracker.adjustTrackerRect rect handler) := by
  refine ⟨inside.sized, fun _ => inside, fun positive => ?_⟩
  have sized := inside.sized
  rw [adjust_unfixed unfixed, if_pos positive] at sized ⊢
  exact inRatio_secondPass positive corner sized

/-- A placed rectangle that is moved comes back inside the max rect with its size. -/
theorem adjust_slid (unfixed : tracker.fixedWidth = -1) (set : tracker.maxRect.Sized)
    (placed : tracker.Placed rect) (dx dy : Int) :
    tracker.adjustTrackerRect (rect.moved dx dy) .none =
      .slid tracker.maxRect (rect.moved dx dy) := by
  have clipped : tracker.adjustTrackerRectMax (rect.moved dx dy) .none =
      .slid tracker.maxRect (rect.moved dx dy) := by
    rw [max_set set]
    exact congrArg₂ Rect.ofSpans (Span.confine_slide ..) (Span.confine_slide ..)
  have inside := placed.inside set
  obtain ⟨slid, -, -⟩ := max_slide set (rect.moved dx dy) placed.sized
    inside.1.length_le inside.2.length_le
  rw [clipped] at slid
  rw [adjust_unfixed unfixed, clipped]
  split_ifs with positive
  · have inRatio : tracker.InRatio (.slid tracker.maxRect (rect.moved dx dy)) :=
      (placed.inRatio positive).of_size rfl rfl
    rw [pass_of_inRatio positive rfl inRatio, max_of_inside set slid,
      pass_of_inRatio positive rfl inRatio]
  · rfl

/-- What an update leaves inside the max rect is placed. -/
theorem placed_of_updated (unfixed : tracker.fixedWidth = -1)
    (inside : tracker.update.rect.Inside tracker.maxRect) :
    tracker.update.Placed tracker.update.rect := by
  rw [update_rect] at inside ⊢
  exact (placed_of_adjusted unfixed rfl inside).carry rfl rfl rfl

/-- A selection that an update leaves inside the max rect is left by the next update too, and
moving it keeps its size, as long as nothing leaves the range of an `int`. -/
theorem settled_selection_stable (tracker : RectTrackerRatio)
    (unfixed : tracker.isFixedSize = false) (set : tracker.maxRect.Sized)
    (inside : tracker.update.rect.Inside tracker.maxRect) :
    tracker.update.update.rect = tracker.update.rect ∧
      ∀ dx dy : Int,
        tracker.update.adjustTrackerRect (tracker.update.rect.moved dx dy) .none =
          .slid tracker.maxRect (tracker.update.rect.moved dx dy) := by
  have width : tracker.fixedWidth = -1 := by simpa [isFixedSize] using unfixed
  have placed := placed_of_updated width inside
  constructor
  · rw [update_rect]
    exact adjust_of_placed width placed
  · intro dx dy
    exact @adjust_slid tracker.update _ width set placed dx dy

/-! ## In the range of an `int` -/

/-- A distance is not longer when no side is moved. -/
theorem sideDist_unmoved (size side : Int) :
    sideDist false size side ≤ sideDist true size side := by
  have square := mul_self_nonneg (size - side)
  simp only [sideDist, sideWeight, if_true, if_false, Bool.false_eq_true]
  omega

theorem markedDist_unmoved (size side : Int) :
    markedDist false size side ≤ markedDist true size side := by
  have square := mul_self_nonneg (size - side)
  simp only [markedDist, sideWeight, if_true, if_false, Bool.false_eq_true]
  omega

/-- A pass that stays in the range for `Update` does so for a move. -/
theorem PassFits.moving {expand : Bool} (fits : tracker.PassFits rect .outside expand) :
    tracker.PassFits rect .none expand := by
  obtain ⟨⟨portWidth, landWidth, widths⟩, ⟨portHeight, landHeight, heights⟩, pick⟩ := fits
  refine ⟨⟨portWidth, landWidth, widths.imp_right ?_⟩,
    ⟨portHeight, landHeight, heights.imp_right ?_⟩, .inr ?_⟩
  · exact And.imp (sideDist_unmoved ..).trans (sideDist_unmoved ..).trans
  · exact And.imp (sideDist_unmoved ..).trans (sideDist_unmoved ..).trans
  · obtain ⟨width, height⟩ := pick.resolve_left Bool.false_ne_true
    constructor
    · refine le_trans ?_ width
      split
      · exact markedDist_unmoved ..
      · exact sideDist_unmoved ..
    · refine le_trans ?_ height
      split
      · exact markedDist_unmoved ..
      · exact sideDist_unmoved ..

/-- A placed rectangle for which `Update` stays in the range is moved in the range. -/
theorem slid_inRange (unfixed : tracker.fixedWidth = -1) (set : tracker.maxRect.Sized)
    (placed : tracker.Placed rect) (fits : tracker.RangeFits rect .outside) (dx dy : Int) :
    tracker.RangeFits (rect.moved dx dy) .none := by
  intro positive
  have inside := placed.inside set
  have inRatio := placed.inRatio positive
  have start := startRect_of_inside unfixed set inside .outside
  have second : tracker.secondRect rect .outside = rect := by
    unfold secondRect
    rw [start, pass_of_inRatio positive rfl inRatio, max_of_inside set inside]
  obtain ⟨first, last⟩ := fits positive
  rw [start] at first
  rw [second] at last
  have moved : tracker.startRect (rect.moved dx dy) .none =
      tracker.adjustTrackerRectMax (rect.moved dx dy) .none := by
    unfold startRect
    dsimp only
    rw [if_neg (by omega)]
  have slid := max_none_size set (rect.moved dx dy)
  have again : tracker.secondRect (rect.moved dx dy) .none =
      tracker.adjustTrackerRectMax
        (tracker.adjustTrackerRectMax (rect.moved dx dy) .none) .none := by
    unfold secondRect
    rw [moved, pass_of_inRatio positive rfl (inRatio.of_size slid.1 slid.2)]
  have settled := max_none_size set (tracker.adjustTrackerRectMax (rect.moved dx dy) .none)
  rw [moved, again]
  exact ⟨first.moving.of_size slid.1 slid.2,
    last.moving.of_size (settled.1.trans slid.1) (settled.2.trans slid.2)⟩

/-- The checked `Update` has a result, and one inside the max rect is left by the next `Update`
and keeps its size wherever it is moved. -/
def KeepsSettled (tracker : RectTrackerRatio) : Prop :=
  ∃ next, tracker.checkedUpdate = some next ∧
    (next.rect.Inside next.maxRect →
      (∃ again, next.checkedUpdate = some again ∧ again.rect = next.rect) ∧
        ∀ dx dy : Int, next.checkedAdjust (next.rect.moved dx dy) .none =
          some (.slid next.maxRect (next.rect.moved dx dy)))

/-- A selection that an update leaves inside the max rect is left by the next update too, and
moving it keeps its size, exactly when the distances of both updates are in the range. -/
theorem settled_selection_stable_iff (tracker : RectTrackerRatio)
    (unfixed : tracker.isFixedSize = false) (set : tracker.maxRect.Sized) :
    tracker.KeepsSettled ↔
      tracker.UpdateInRange ∧
        (tracker.update.rect.Inside tracker.maxRect → tracker.update.UpdateInRange) := by
  have width : tracker.fixedWidth = -1 := by simpa [isFixedSize] using unfixed
  constructor
  · rintro ⟨next, updated, stable⟩
    obtain ⟨inRange, rfl⟩ := (checkedUpdate_computes tracker next).mp updated
    refine ⟨inRange, fun inside => ?_⟩
    obtain ⟨⟨again, repeated, _⟩, _⟩ := stable inside
    exact ((checkedUpdate_computes tracker.update again).mp repeated).1
  · rintro ⟨inRange, settled⟩
    refine ⟨tracker.update, (checkedUpdate_computes tracker).eq_some_iff.mpr inRange, ?_⟩
    intro inside
    obtain ⟨rests, slides⟩ := settled_selection_stable tracker unfixed set inside
    refine ⟨⟨tracker.update.update, ?_, rests⟩, fun dx dy => ?_⟩
    · exact (checkedUpdate_computes tracker.update).eq_some_iff.mpr (settled inside)
    · have fits := @slid_inRange tracker.update _ width set (placed_of_updated width inside)
        (settled inside) dx dy
      rw [(checkedAdjust_computes tracker.update _ .none).eq_some_iff.mpr fits]
      exact congrArg some (slides dx dy)

/-- A processor that wraps around then has the same stable selection. -/
theorem KeepsSettled.wrapped (kept : tracker.KeepsSettled)
    (inside : tracker.wrappedUpdate.rect.Inside tracker.maxRect) :
    tracker.wrappedUpdate.wrappedUpdate.rect = tracker.wrappedUpdate.rect ∧
      ∀ dx dy : Int,
        tracker.wrappedUpdate.wrappedAdjust (tracker.wrappedUpdate.rect.moved dx dy) .none =
          .slid tracker.maxRect (tracker.wrappedUpdate.rect.moved dx dy) := by
  obtain ⟨next, updated, stable⟩ := kept
  have same := wrappedUpdate_of_checked updated
  have bounds : next.maxRect = tracker.maxRect := by
    rw [← same]
    rfl
  rw [same] at inside ⊢
  obtain ⟨⟨again, repeated, rests⟩, slides⟩ := stable (bounds ▸ inside)
  rw [wrappedUpdate_of_checked repeated]
  exact ⟨rests, fun dx dy => bounds ▸ wrappedAdjust_of_checked (slides dx dy)⟩

/-- A framed selection that was dragged beyond the right side. -/
def offRight : RectTrackerRatio :=
  { framed with rect := ⟨80, 10, 40, 60⟩ }

theorem offRight_stable : offRight.KeepsSettled :=
  (settled_selection_stable_iff offRight (by decide) (by decide)).mpr (by decide +kernel)

/-- A wide part of an image of 4000 by 3000 pixels, to be brought into the ratio twelve to one. -/
def widePart : RectTrackerRatio :=
  { create with rect := ⟨857, 1436, 3077, 1380⟩, maxRect := ⟨0, 0, 4000, 3000⟩, ratio := 12 }

/-- The distances wrap around: what one `Update` leaves inside the image the next one takes out
of it. -/
theorem widePart_unstable :
    widePart.isFixedSize = false ∧ widePart.maxRect.Sized ∧ ¬widePart.KeepsSettled ∧
      widePart.wrappedUpdate.rect = ⟨3700, 0, 234, 2816⟩ ∧
      widePart.wrappedUpdate.rect.Inside widePart.maxRect ∧
      widePart.wrappedUpdate.wrappedUpdate.rect = ⟨0, -44392, 3934, -12000⟩ := by
  refine ⟨by decide, by decide, fun kept => ?_, by decide +kernel, by decide +kernel,
    by decide +kernel⟩
  obtain ⟨next, updated, _⟩ := kept
  have none : widePart.checkedUpdate = none := by decide +kernel
  exact Option.some_ne_none next (updated.symm.trans none)

end RectTrackerRatio

end RPhoto.Tracker
