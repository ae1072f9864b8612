import RPhoto.Tracker.FixedSize

/-!
# The crop zone and the image

The zone to crop is the rectangle of the tracker divided by the scale.  The
rectangle lies in the scaled image, whose sides are truncated, and its position and
its size are truncated once more.  These roundings all go the same way and never
add up to a pixel too many.  A fixed size is placed in the image itself.
-/

namespace RPhoto.Tracker

open RPhoto.Library

/-- A part of the bounds, divided by the scale of the bounds. -/
theorem reduce_within {scale : ℚ} {size : Nat} {span : Span} (positive : 0 < scale)
    (within : span.Within ⟨0, enlarge scale size⟩) :
    0 ≤ reduce scale span.start ∧
      reduce scale span.start + reduce scale span.length ≤ size := by
  obtain ⟨length, start, stop⟩ := within
  simp only [Span.stop, zero_add] at start stop
  have startReal : (0 : ℚ) ≤ span.start / scale := by positivity
  have lengthReal : (0 : ℚ) ≤ span.length / scale := by positivity
  refine ⟨truncate_nonneg startReal, ?_⟩
  calc reduce scale span.start + reduce scale span.length
      ≤ reduce scale (span.start + span.length) := by
        have apart := truncate_add_le startReal lengthReal
        rwa [← add_div, ← Int.cast_add] at apart
    _ ≤ size := reduce_le_of_le_enlarge positive (by omega) (by omega) stop

namespace RatioImageBox

/-- A rectangle in the image, in its own pixels. -/
structure InImage (box : RatioImageBox) (zone : Rect) : Prop where
  x : 0 ≤ zone.x
  y : 0 ≤ zone.y
  right : zone.x + zone.width ≤ box.imageWidth
  bottom : zone.y + zone.height ≤ box.imageHeight

variable {box : RatioImageBox}

/-- The rectangle of the tracker, divided by the scale. -/
theorem scaled_inImage (positive : 0 < box.scale)
    (inside : box.rectTracker.rect.Inside (box.scaledRect box.scale)) :
    box.InImage
      ⟨truncate (box.rectTracker.rect.x / box.scale), truncate (box.rectTracker.rect.y / box.scale),
        truncate (box.rectTracker.rect.width / box.scale),
        truncate (box.rectTracker.rect.height / box.scale)⟩ := by
  have columns := @reduce_within box.scale box.imageWidth _ positive inside.1
  have rows := @reduce_within box.scale box.imageHeight _ positive inside.2
  exact ⟨columns.1, rows.1, columns.2, rows.2⟩

/-- A size that is not longer than the bounds is put between them, even a negative one. -/
theorem adjustSpanFixed_bounds {bounds : Span} {size : Int} (fits : size ≤ bounds.length)
    (span : Span) :
    bounds.start ≤ (RectTrackerRatio.adjustSpanFixed bounds span size).start ∧
      (RectTrackerRatio.adjustSpanFixed bounds span size).start + size ≤ bounds.stop := by
  simp only [RectTrackerRatio.adjustSpanFixed, Span.stop]
  split_ifs <;> omega

/-- A fixed size that the image has room for is put into the image. -/
theorem fixed_inImage (fits : box.RequestFits) (rect : Rect) :
    box.InImage
      (((box.rectTracker.setMaxRect box.imageRect).setFixedSize
        box.originalWidth box.originalHeight).adjustTrackerRectFixed rect) := by
  rw [zoneTracker_eq]
  have columns := @adjustSpanFixed_bounds box.imageRect.horizontal _ fits.1 rect.horizontal
  have rows := @adjustSpanFixed_bounds box.imageRect.vertical _ fits.2 rect.vertical
  simp only [Rect.horizontal, Rect.vertical, imageRect, Span.stop, zero_add] at columns rows
  exact ⟨columns.1, rows.1, columns.2, rows.2⟩

/-- The zone to crop lies in the image. -/
theorem selectedZone_inImage (box : RatioImageBox) (positive : 0 < box.scale)
    (inside : box.rectTracker.rect.Inside (box.scaledRect box.scale))
    (fits : box.rectTracker.isFixedSize = false ∨ box.RequestFits) :
    box.InImage box.getSelectedZone.2 := by
  unfold RatioImageBox.getSelectedZone
  dsimp only
  rw [if_neg (not_lt.mpr positive.le)]
  split_ifs with contracted
  · rcases fits with unfixed | fits
    · exact absurd contracted.1 (by simp [unfixed])
    · exact fixed_inImage fits _
  · exact scaled_inImage positive inside

/-- A box with a selection at two thirds of the size of its image. -/
def contracted : RatioImageBox :=
  { cropped with
    scale := 2 / 3
    rectTracker := { cropped.rectTracker with rect := ⟨53, 33, 13, 20⟩ } }

theorem contracted_inImage : contracted.InImage contracted.getSelectedZone.2 :=
  selectedZone_inImage contracted (by decide +kernel) (by decide +kernel) (.inr (by decide))

end RatioImageBox

end RPhoto.Tracker
