import RPhoto.Library.Rescaling
import RPhoto.Tracker.FixedSize

/-!
# Repeated zooming

Without ratio and without fixed size no clipping touches a selection while the
scale changes: every change converts its four numbers to the new scale.  Each
conversion drops a fraction of a pixel, so a sequence of changes that comes back
to its first scale wears the selection down.
-/

namespace RPhoto.Tracker

open RPhoto.Library

namespace RectTrackerRatio

variable {tracker : RectTrackerRatio} {rect maxRect : Rect}

/-- Without ratio, a rectangle inside the max rect is placed. -/
theorem placed_of_inside (noRatio : tracker.ratio ≤ 0) (inside : rect.Inside tracker.maxRect) :
    tracker.Placed rect :=
  ⟨inside.sized, fun _ => inside, fun positive => absurd noRatio (not_le.mpr positive)⟩

/-- An update leaves it. -/
theorem update_of_inside (unfixed : tracker.fixedWidth = -1) (noRatio : tracker.ratio ≤ 0)
    (inside : tracker.rect.Inside tracker.maxRect) : tracker.update.rect = tracker.rect := by
  rw [update_rect]
  exact adjust_of_placed unfixed (placed_of_inside noRatio inside)

/-- So does a max rect it lies in. -/
theorem setMaxRect_of_inside (unfixed : tracker.fixedWidth = -1) (noRatio : tracker.ratio ≤ 0)
    (sized : maxRect.Sized) (inside : tracker.rect.Inside maxRect) :
    (tracker.setMaxRect maxRect).rect = tracker.rect ∧
      (tracker.setMaxRect maxRect).maxRect = maxRect := by
  unfold setMaxRect
  rw [withMaxRect_of_sized sized]
  constructor
  · have placed : { tracker with maxRect }.Placed tracker.rect := placed_of_inside noRatio inside
    rw [update_rect]
    exact adjust_of_placed unfixed placed
  · rfl

end RectTrackerRatio

namespace RatioImageBox

/-- A change of the scale, with the scale the window has after it. -/
inductive Zoom where
  | onResize (curScale : ℚ)
  | setScale (newScale : ℚ)
deriving DecidableEq, Repr

def Zoom.scale : Zoom → ℚ
  | onResize scale | setScale scale => scale

def zoom (box : RatioImageBox) : Zoom → RatioImageBox
  | .onResize curScale => box.onResize curScale
  | .setScale newScale => box.setScale newScale

/-- A sequence of changes. -/
def zoomAll (box : RatioImageBox) (zooms : List Zoom) : RatioImageBox := zooms.foldl zoom box

/-- The selection lies in the scaled image, and neither a ratio nor a fixed size bears on it. -/
structure FreeSelection (box : RatioImageBox) : Prop where
  unfixed : box.rectTracker.fixedWidth = -1
  noRatio : box.rectTracker.ratio ≤ 0
  positive : 0 < box.scale
  atMost : box.scale ≤ 1
  inside : box.rectTracker.rect.Inside (box.scaledRect box.scale)

variable {box : RatioImageBox} {scale : ℚ}

/-! ## One change -/

theorem enlarge_le_size (size : Nat) (positive : 0 < scale) (atMost : scale ≤ 1) :
    enlarge scale size ≤ size := by
  have real : (size : ℚ) * scale ≤ size := mul_le_of_le_one_right (Nat.cast_nonneg size) atMost
  have below := truncate_le (show (0 : ℚ) ≤ size * scale by positivity)
  exact_mod_cast below.trans real

/-- What lies in the scaled image lies in the image. -/
theorem inside_imageRect {rect : Rect} (positive : 0 < scale) (atMost : scale ≤ 1)
    (inside : rect.Inside (box.scaledRect scale)) : rect.Inside box.imageRect := by
  have width := enlarge_le_size box.imageWidth positive atMost
  have height := enlarge_le_size box.imageHeight positive atMost
  obtain ⟨⟨wide, left, right⟩, ⟨high, top, bottom⟩⟩ := inside
  exact ⟨⟨wide, left, right.trans (Int.add_le_add_left width 0)⟩,
    ⟨high, top, bottom.trans (Int.add_le_add_left height 0)⟩⟩

/-- A span of the scaled image is converted to one of the image at the new scale. -/
theorem rescale_within {before after : ℚ} {size : Nat} {span : Span}
    (beforePositive : 0 < before) (afterPositive : 0 < after)
    (within : span.Within ⟨0, enlarge before size⟩) :
    Span.Within ⟨rescale before after span.start, rescale before after span.length⟩
      ⟨0, enlarge after size⟩ := by
  obtain ⟨length, start, stop⟩ := within
  simp only [Span.stop, zero_add] at start stop
  refine ⟨rescale_nonneg beforePositive afterPositive length,
    rescale_nonneg beforePositive afterPositive start, ?_⟩
  simp only [Span.stop, zero_add]
  exact (rescale_add_le beforePositive afterPositive start length).trans
    (rescale_le_enlarge beforePositive afterPositive (by omega) stop)

theorem FreeSelection.scaleRect_inside (free : box.FreeSelection) (positive : 0 < scale) :
    (scaleRect box.rectTracker.rect (scale / box.scale)).Inside (box.scaledRect scale) :=
  ⟨@rescale_within box.scale scale box.imageWidth _ free.positive positive free.inside.1,
    @rescale_within box.scale scale box.imageHeight _ free.positive positive free.inside.2⟩

/-- Between the bounds of the whole image the four numbers are converted. -/
theorem FreeSelection.scaleTracker_rect (free : box.FreeSelection) (positive : 0 < scale)
    (atMost : scale ≤ 1) :
    (box.scaleTracker (scale / box.scale)).rect =
      scaleRect box.rectTracker.rect (scale / box.scale) := by
  obtain ⟨kept, whole⟩ := RectTrackerRatio.setMaxRect_of_inside free.unfixed free.noRatio
    (imageRect_sized box) (inside_imageRect free.positive free.atMost free.inside)
  have factor : scale / box.scale ≠ 0 := (div_pos positive free.positive).ne'
  unfold scaleTracker
  simp only [ne_eq, factor, not_false_eq_true, if_true]
  rw [kept]
  refine RectTrackerRatio.update_of_inside free.unfixed free.noRatio ?_
  show (scaleRect box.rectTracker.rect (scale / box.scale)).Inside
    (box.rectTracker.setMaxRect box.imageRect).maxRect
  rw [whole]
  exact inside_imageRect positive atMost (free.scaleRect_inside positive)

/-- `AdjustTrackerSize` converts the four numbers and clips nothing. -/
theorem FreeSelection.adjustTrackerSize (free : box.FreeSelection) (positive : 0 < scale)
    (atMost : scale ≤ 1) :
    let zoomed := RatioImageBox.adjustTrackerSize { box with scale } (scale / box.scale)
    zoomed.FreeSelection ∧ zoomed.rectTracker.maxRect = box.scaledRect scale ∧
      zoomed.rectTracker.rect = scaleRect box.rectTracker.rect (scale / box.scale) := by
  have inside := free.scaleRect_inside positive
  have converted := free.scaleTracker_rect positive atMost
  have mode := scaleTracker_mode box (scale / box.scale)
  have unfixed : (box.scaleTracker (scale / box.scale)).fixedWidth = -1 :=
    mode.fixedWidth.trans free.unfixed
  obtain ⟨kept, bounds⟩ := RectTrackerRatio.setMaxRect_of_inside unfixed
    (mode.ratio.trans_le free.noRatio) (scaledRect_sized box positive)
    (by rw [converted]; exact inside)
  have tracker : (RatioImageBox.adjustTrackerSize { box with scale }
      (scale / box.scale)).rectTracker =
        (box.scaleTracker (scale / box.scale)).setMaxRect (box.scaledRect scale) :=
    if_neg (by
      show ¬decide ((box.scaleTracker (scale / box.scale)).fixedWidth ≠ -1) = true
      simp [unfixed])
  have rect := (congrArg RectTrackerRatio.rect tracker).trans (kept.trans converted)
  refine ⟨⟨?_, ?_, positive, atMost, ?_⟩, ?_, rect⟩
  · rw [tracker]
    exact unfixed
  · rw [tracker]
    exact mode.ratio.trans_le free.noRatio
  · rw [rect]
    exact inside
  · rw [tracker]
    exact bounds

/-- A change of the scale converts the four numbers. -/
theorem FreeSelection.zoom (free : box.FreeSelection) {change : Zoom}
    (positive : 0 < change.scale) (atMost : change.scale ≤ 1) :
    (box.zoom change).FreeSelection ∧ (box.zoom change).scale = change.scale ∧
      (box.zoom change).rectTracker.rect =
        scaleRect box.rectTracker.rect (change.scale / box.scale) := by
  cases change with
  | setScale scale =>
      obtain ⟨zoomed, -, rect⟩ := free.adjustTrackerSize positive atMost
      have same : box.zoom (.setScale scale) =
          RatioImageBox.adjustTrackerSize { box with scale } (scale / box.scale) :=
        if_pos free.positive
      rw [same]
      exact ⟨zoomed, rfl, rect⟩
  | onResize scale =>
      by_cases unchanged : box.scale = scale
      · have same : box.zoom (.onResize scale) = box := by
          show (if _ then _ else _ : RatioImageBox) = box
          rw [if_neg fun resized => resized.2.2 unchanged, ← unchanged]
        rw [same]
        refine ⟨free, unchanged, ?_⟩
        show box.rectTracker.rect = scaleRect box.rectTracker.rect (scale / box.scale)
        rw [← unchanged, div_self free.positive.ne']
        simp [scaleRect]
      · obtain ⟨zoomed, -, rect⟩ := free.adjustTrackerSize positive atMost
        have same : box.zoom (.onResize scale) =
            RatioImageBox.adjustTrackerSize { box with scale } (scale / box.scale) :=
          if_pos ⟨positive, free.positive, unchanged⟩
        rw [same]
        exact ⟨zoomed, rfl, rect⟩

/-! ## A sequence of changes -/

/-- A rectangle with its four numbers converted from scale to scale. -/
def rescaleRect (before : ℚ) (scales : List ℚ) (rect : Rect) : Rect :=
  ⟨rescaleAll before scales rect.x, rescaleAll before scales rect.y,
    rescaleAll before scales rect.width, rescaleAll before scales rect.height⟩

theorem FreeSelection.zoomAll {zooms : List Zoom} (free : box.FreeSelection)
    (scales : ∀ change ∈ zooms, 0 < change.scale ∧ change.scale ≤ 1) :
    (box.zoomAll zooms).scale = (zooms.map Zoom.scale).getLastD box.scale ∧
      (box.zoomAll zooms).rectTracker.rect =
        rescaleRect box.scale (zooms.map Zoom.scale) box.rectTracker.rect := by
  induction zooms generalizing box with
  | nil => exact ⟨rfl, rfl⟩
  | cons change rest ih =>
      obtain ⟨positive, atMost⟩ := scales change List.mem_cons_self
      obtain ⟨zoomed, scale, rect⟩ := free.zoom positive atMost
      obtain ⟨restScale, restRect⟩ :=
        ih zoomed fun other member => scales other (List.mem_cons_of_mem change member)
      rw [scale] at restScale restRect
      rw [rect] at restRect
      refine ⟨?_, restRect⟩
      rw [List.map_cons, List.getLastD_cons]
      exact restScale

/-- No number of the rectangle has grown, and none has lost more than the bound. -/
structure WornBy (bound : ℚ) (before after : Rect) : Prop where
  x : after.x ≤ before.x ∧ (before.x : ℚ) - after.x ≤ bound
  y : after.y ≤ before.y ∧ (before.y : ℚ) - after.y ≤ bound
  width : after.width ≤ before.width ∧ (before.width : ℚ) - after.width ≤ bound
  height : after.height ≤ before.height ∧ (before.height : ℚ) - after.height ≤ bound

/-- Back at its first scale the selection has lost at most a pixel of every scale it was
converted to. -/
theorem zooming_wears (box : RatioImageBox) (zooms : List Zoom) (free : box.FreeSelection)
    (scales : ∀ change ∈ zooms, 0 < change.scale ∧ change.scale ≤ 1)
    (back : (box.zoomAll zooms).scale = box.scale) :
    WornBy (box.scale * unitsOf (zooms.map Zoom.scale)) box.rectTracker.rect
      (box.zoomAll zooms).rectTracker.rect := by
  obtain ⟨last, rect⟩ := free.zoomAll scales
  rw [last] at back
  have positive : ∀ scale ∈ zooms.map Zoom.scale, 0 < scale := by
    intro scale member
    obtain ⟨change, inZooms, rfl⟩ := List.mem_map.mp member
    exact (scales change inZooms).1
  rw [rect]
  exact ⟨rescaleAll_back free.positive positive back free.inside.1.2.1,
    rescaleAll_back free.positive positive back free.inside.2.2.1,
    rescaleAll_back free.positive positive back free.inside.1.1,
    rescaleAll_back free.positive positive back free.inside.2.1⟩

/-- A selection of 9 by 9 pixels, 9 pixels from the left side of its image. -/
def framedBox : RatioImageBox :=
  { create with
    imageWidth := 20
    imageHeight := 20
    rectTracker :=
      { RectTrackerRatio.create with rect := ⟨9, 0, 9, 9⟩, maxRect := ⟨0, 0, 20, 20⟩ } }

/-- Three times to seven tenths of the size of the image and back. -/
def threeRoundTrips : List Zoom :=
  [.setScale (7 / 10), .onResize 1, .setScale (7 / 10), .onResize 1, .setScale (7 / 10),
    .onResize 1]

theorem framedBox_free : framedBox.FreeSelection :=
  ⟨rfl, le_rfl, by decide +kernel, by decide +kernel, by decide +kernel⟩

theorem threeRoundTrips_wear :
    WornBy (framedBox.scale * unitsOf (threeRoundTrips.map Zoom.scale))
      framedBox.rectTracker.rect (framedBox.zoomAll threeRoundTrips).rectTracker.rect :=
  zooming_wears framedBox threeRoundTrips framedBox_free (by decide +kernel) (by decide +kernel)

/-- What one round trip to the smallest scale of the sequence can take away. -/
def roundTripBound (box : RatioImageBox) (zooms : List Zoom) : ℚ :=
  1 + box.scale / (zooms.map Zoom.scale).foldl min box.scale

/-- The first two round trips take one pixel each of the position and the third takes two: more
is gone than one round trip can take. -/
theorem threeRoundTrips_exceed :
    framedBox.FreeSelection ∧
      (∀ change ∈ threeRoundTrips, 0 < change.scale ∧ change.scale ≤ 1) ∧
      (framedBox.zoomAll threeRoundTrips).scale = framedBox.scale ∧
      ¬|(framedBox.rectTracker.rect.x : ℚ) -
          (framedBox.zoomAll threeRoundTrips).rectTracker.rect.x| ≤
        framedBox.roundTripBound threeRoundTrips :=
  ⟨framedBox_free, by decide +kernel, by decide +kernel, by decide +kernel⟩

end RatioImageBox

end RPhoto.Tracker
