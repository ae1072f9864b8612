import RPhoto.Tracker.CropZone
import RPhoto.Tracker.PassEnds
import RPhoto.Tracker.Zooming

/-!
# Reading the crop zone

Below the scale one, reading the zone of a fixed-size crop sets the max rect to the
image and the fixed size to the requested one, and puts both back.  Each max rect is
set with an update, the first under the scaled size and the second under the
requested one, so the tracker has its settings back and its selection has been
adjusted to a size it is not to have.  With a ratio the first update moves only what
the second one does not look at, unless a scaled size that is longer than the max
rect makes it take a marked rectangle.
-/

namespace RPhoto.Tracker

open RPhoto.Library

namespace RectTrackerRatio

variable {tracker : RectTrackerRatio} {rect : Rect}

/-- The tracker with other limits and another fixed size. -/
def restricted (tracker : RectTrackerRatio) (maxRect : Rect) (size : Int × Int) :
    RectTrackerRatio :=
  { tracker with maxRect, fixedWidth := size.1, fixedHeight := size.2 }

/-- An update leaves the selection unchanged. -/
def Rests (tracker : RectTrackerRatio) : Prop := tracker.update.rect = tracker.rect

instance (tracker : RectTrackerRatio) : Decidable tracker.Rests :=
  inferInstanceAs (Decidable (_ = _))

theorem Rests.still (rests : tracker.Rests) :
    tracker.adjustTrackerRect tracker.rect .outside = tracker.rect := by
  rw [← update_rect]
  exact rests

/-! ## A wider max rect -/

/-- Bounds at the same origin with longer sides. -/
structure Widens (bounds wider : Rect) : Prop where
  x : wider.x = bounds.x
  y : wider.y = bounds.y
  width : bounds.width ≤ wider.width
  height : bounds.height ≤ wider.height

theorem confine_widened {bounds wider span : Span} (start : wider.start = bounds.start)
    (longer : bounds.length ≤ wider.length) (ends : span.stop ≤ bounds.stop) :
    Span.confine true wider span = Span.confine true bounds span := by
  simp only [Span.confine_cut, Span.inter, Span.stop] at ends ⊢
  rw [start, min_eq_left ends, min_eq_left (by omega)]

theorem fixedStop_widened {bounds wider : Span} {stop size : Int}
    (start : wider.start = bounds.start) (longer : bounds.length ≤ wider.length)
    (fits : size ≤ bounds.length) (ends : stop ≤ bounds.stop) :
    fixedStop wider stop size = fixedStop bounds stop size := by
  simp only [fixedStop, Span.stop] at ends ⊢
  omega

/-- Wider bounds clip a rectangle that ends in the bounds the same way. -/
theorem max_widened (set : tracker.maxRect.Sized) {wider : Rect}
    (widens : Widens tracker.maxRect wider) (ends : EndsIn rect tracker.maxRect)
    (size : Int × Int) :
    (tracker.restricted wider size).adjustTrackerRectMax rect .outside =
      tracker.adjustTrackerRectMax rect .outside := by
  have wide : (tracker.restricted wider size).maxRect.Sized :=
    ⟨set.1.trans widens.width, set.2.trans widens.height⟩
  rw [max_set set, max_set wide]
  exact congrArg₂ Rect.ofSpans (confine_widened widens.x widens.width ends.1)
    (confine_widened widens.y widens.height ends.2)

/-- A rectangle that ends in the max rect starts from the same rectangle in wider bounds, unless
a size does not fit. -/
theorem startRect_widened (set : tracker.maxRect.Sized) {wider : Rect}
    (widens : Widens tracker.maxRect wider) (ends : EndsIn rect tracker.maxRect)
    (fits : 0 < tracker.fixedWidth ∧ 0 < tracker.fixedHeight →
      tracker.fixedWidth ≤ tracker.maxRect.width ∧ tracker.fixedHeight ≤ tracker.maxRect.height) :
    (tracker.restricted wider (tracker.fixedWidth, tracker.fixedHeight)).startRect rect .outside =
      tracker.startRect rect .outside := by
  have wide : (tracker.restricted wider (tracker.fixedWidth, tracker.fixedHeight)).maxRect.Sized :=
    ⟨set.1.trans widens.width, set.2.trans widens.height⟩
  by_cases sized : 0 < tracker.fixedWidth ∧ 0 < tracker.fixedHeight
  · obtain ⟨narrower, lower⟩ := fits sized
    have columns := @fixedStop_widened tracker.maxRect.horizontal wider.horizontal
      rect.horizontal.stop tracker.fixedWidth widens.x widens.width narrower ends.1
    have rows := @fixedStop_widened tracker.maxRect.vertical wider.vertical
      rect.vertical.stop tracker.fixedHeight widens.y widens.height lower ends.2
    rw [startRect_sized set sized, ← columns, ← rows]
    exact startRect_sized wide sized rect
  · have columns := @confine_widened tracker.maxRect.horizontal wider.horizontal rect.horizontal
      widens.x widens.width ends.1
    have rows := @confine_widened tracker.maxRect.vertical wider.vertical rect.vertical
      widens.y widens.height ends.2
    rw [startRect_unsized set sized, ← columns, ← rows]
    exact startRect_unsized wide sized rect

theorem endsIn_start (set : tracker.maxRect.Sized) (rect : Rect) :
    EndsIn (tracker.startRect rect .outside) tracker.maxRect := by
  by_cases sized : 0 < tracker.fixedWidth ∧ 0 < tracker.fixedHeight
  · exact endsIn_startRect set sized rect
  · rw [startRect_unsized set sized]
    exact ⟨(Span.stop_confine_cut ..).trans_le (min_le_right _ _),
      (Span.stop_confine_cut ..).trans_le (min_le_right _ _)⟩

/-- So it is adjusted in the same way. -/
theorem adjust_widened (positive : 0 < tracker.ratio) (set : tracker.maxRect.Sized) {wider : Rect}
    (widens : Widens tracker.maxRect wider) (ends : EndsIn rect tracker.maxRect)
    (fits : 0 < tracker.fixedWidth ∧ 0 < tracker.fixedHeight →
      tracker.fixedWidth ≤ tracker.maxRect.width ∧ tracker.fixedHeight ≤ tracker.maxRect.height) :
    (tracker.restricted wider (tracker.fixedWidth, tracker.fixedHeight)).adjustTrackerRect
        rect .outside =
      tracker.adjustTrackerRect rect .outside := by
  have start := startRect_widened set widens ends fits
  have starts := endsIn_start set rect
  have passed := stops_firstPass positive (tracker.startRect rect .outside)
  have second : (tracker.restricted wider
      (tracker.fixedWidth, tracker.fixedHeight)).secondRect rect .outside =
        tracker.secondRect rect .outside := by
    unfold secondRect
    rw [start]
    exact max_widened set widens ⟨passed.1.trans_le starts.1, passed.2.trans_le starts.2⟩ _
  have whole := @adjust_of_ratio
    (tracker.restricted wider (tracker.fixedWidth, tracker.fixedHeight)) positive rect .outside
  rw [whole, second, adjust_of_ratio positive]
  rfl

/-! ## A size that is too long for the max rect -/

section Overlong

variable {length wider size larger stop first : Int}

/-- An end that the first update keeps is the same for the second one. -/
theorem fixedStop_kept (fits : size < larger) (within : larger ≤ length) (wide : length ≤ wider)
    (ends : stop ≤ length) (kept : first = fixedStop ⟨0, wider⟩ stop size) :
    fixedStop ⟨0, length⟩ first larger = fixedStop ⟨0, length⟩ stop larger := by
  simp only [fixedStop, Span.stop] at kept ⊢
  omega

/-- So is an end that the larger size covers. -/
theorem fixedStop_covered (fits : size < larger) (within : larger ≤ length)
    (wide : length ≤ wider) (covered : stop ≤ larger)
    (pulled : first < fixedStop ⟨0, wider⟩ stop size) :
    fixedStop ⟨0, length⟩ first larger = fixedStop ⟨0, length⟩ stop larger := by
  simp only [fixedStop, Span.stop] at pulled ⊢
  omega

/-- Any other end is lost with a mark. -/
theorem fixedStop_lost (fits : size < larger) (within : larger ≤ length) (wide : length ≤ wider)
    (ends : stop ≤ length) (uncovered : larger < stop)
    (pulled : first < fixedStop ⟨0, wider⟩ stop size) :
    fixedStop ⟨0, length⟩ first larger < stop := by
  simp only [fixedStop, Span.stop] at pulled ⊢
  omega

end Overlong

/-! ## Without a ratio -/

theorem adjust_plain_sized (noRatio : tracker.ratio ≤ 0)
    (sized : 0 < tracker.fixedWidth ∧ 0 < tracker.fixedHeight) (rect : Rect) :
    tracker.adjustTrackerRect rect .outside =
      tracker.adjustTrackerRectFixed (tracker.adjustTrackerRectMax rect .outside) := by
  unfold adjustTrackerRect
  dsimp only
  rw [if_neg (not_lt.mpr noRatio), if_pos sized]

theorem adjust_plain_unsized (noRatio : tracker.ratio ≤ 0)
    (unsized : ¬(0 < tracker.fixedWidth ∧ 0 < tracker.fixedHeight)) (rect : Rect) :
    tracker.adjustTrackerRect rect .outside = tracker.adjustTrackerRectMax rect .outside := by
  unfold adjustTrackerRect
  dsimp only
  rw [if_neg (not_lt.mpr noRatio), if_neg unsized]

/-- A rectangle that clipping leaves unchanged lies between the bounds, with any size. -/
theorem between_of_clipped (set : tracker.maxRect.Sized)
    (clipped : tracker.adjustTrackerRectMax rect .outside = rect) :
    (tracker.maxRect.x ≤ rect.x ∧ tracker.maxRect.y ≤ rect.y) ∧
      EndsIn rect tracker.maxRect := by
  rw [max_set set] at clipped
  have x := congrArg Rect.x clipped
  have y := congrArg Rect.y clipped
  have width := congrArg Rect.width clipped
  have height := congrArg Rect.height clipped
  simp only [Rect.ofSpans, Span.confine_cut, Span.inter, ne_eq, reduceCtorEq,
    not_false_eq_true, decide_true, Rect.horizontal, Rect.vertical, Span.stop] at x y width height
  simp only [EndsIn, Rect.horizontal, Rect.vertical, Span.stop]
  omega

/-- A rectangle between the bounds that has the fixed size gets its own position. -/
theorem fixed_self_iff (between : tracker.maxRect.x ≤ rect.x ∧ tracker.maxRect.y ≤ rect.y)
    (ends : EndsIn rect tracker.maxRect) :
    tracker.adjustTrackerRectFixed rect = rect ↔
      rect.width = tracker.fixedWidth ∧ rect.height = tracker.fixedHeight := by
  constructor
  · intro same
    exact ⟨(congrArg Rect.width same).symm, (congrArg Rect.height same).symm⟩
  · rintro ⟨width, height⟩
    simp only [EndsIn, Rect.horizontal, Rect.vertical, Span.stop] at ends
    have columns : adjustSpanFixed tracker.maxRect.horizontal rect.horizontal tracker.fixedWidth =
        rect.horizontal := by
      simp only [adjustSpanFixed, Rect.horizontal, Span.stop, Span.mk.injEq]
      split_ifs <;> omega
    have rows : adjustSpanFixed tracker.maxRect.vertical rect.vertical tracker.fixedHeight =
        rect.vertical := by
      simp only [adjustSpanFixed, Rect.vertical, Span.stop, Span.mk.injEq]
      split_ifs <;> omega
    exact congrArg₂ Rect.ofSpans columns rows

theorem setMaxRect_restricted (tracker : RectTrackerRatio) (sized : rect.Sized) :
    tracker.setMaxRect rect =
      (tracker.restricted rect (tracker.fixedWidth, tracker.fixedHeight)).update := by
  unfold setMaxRect
  rw [withMaxRect_of_sized sized]
  rfl

theorem setFixedSize_restricted (tracker : RectTrackerRatio) (width height : Int) :
    tracker.setFixedSize width height =
      tracker.restricted tracker.maxRect (exchangeSides tracker.orientation width height) :=
  setFixedSize_eq tracker width height

/-- The settings and the rectangle of two trackers agree. -/
structure Untouched (tracker next : RectTrackerRatio) : Prop where
  rect : next.rect = tracker.rect
  maxRect : next.maxRect = tracker.maxRect
  fixedWidth : next.fixedWidth = tracker.fixedWidth
  fixedHeight : next.fixedHeight = tracker.fixedHeight
  ratio : next.ratio = tracker.ratio

/-- Truncated sides are exchanged when the sides are. -/
theorem exchangeSides_truncate {factor : ℚ} (nonneg : 0 ≤ factor)
    (orientation width height : Int) :
    exchangeSides orientation (truncate (width * factor)) (truncate (height * factor)) =
      (truncate ((exchangeSides orientation width height).1 * factor),
        truncate ((exchangeSides orientation width height).2 * factor)) := by
  have order {first second : Int} (below : first ≤ second) :
      truncate (first * factor) ≤ truncate (second * factor) :=
    truncate_le_truncate (mul_le_mul_of_nonneg_right (Int.cast_le.mpr below) nonneg)
  unfold exchangeSides
  rcases lt_trichotomy width height with below | rfl | below
  · have := order below.le
    split_ifs <;> first | rfl | (simp only [Prod.mk.injEq]; omega)
  · split_ifs <;> rfl
  · have := order below.le
    split_ifs <;> first | rfl | (simp only [Prod.mk.injEq]; omega)

/-- Two updates in a row, with other settings each. -/
theorem update_twice (tracker : RectTrackerRatio) (first second : Rect)
    (firstSize secondSize : Int × Int) :
    (((tracker.restricted first firstSize).update.restricted second secondSize).update).rect =
      (tracker.restricted second secondSize).adjustTrackerRect
        ((tracker.restricted first firstSize).adjustTrackerRect tracker.rect .outside)
        .outside := by
  have settings (rect : Rect) :
      ((tracker.restricted first firstSize).update.restricted second secondSize).adjustTrackerRect
          rect .outside =
        (tracker.restricted second secondSize).adjustTrackerRect rect .outside :=
    @adjustTrackerRect_congr (tracker.restricted second secondSize)
      ((tracker.restricted first firstSize).update.restricted second secondSize)
      rfl rfl rfl rfl rfl rect .outside
  rw [update_rect, settings]
  exact congrArg ((tracker.restricted second secondSize).adjustTrackerRect · .outside)
    (update_rect (tracker.restricted first firstSize))

end RectTrackerRatio

namespace RatioImageBox

open RectTrackerRatio (Untouched Widens EndsIn fixedStop)

variable {box : RatioImageBox}

/-- The tracker has the limits and the fixed size of the scale, and its selection is at rest. -/
structure Steady (box : RatioImageBox) : Prop where
  positive : 0 < box.scale
  atMost : box.scale ≤ 1
  maxRect : box.rectTracker.maxRect = box.scaledRect box.scale
  fixedWidth : box.rectTracker.isFixedSize = true →
    box.rectTracker.fixedWidth = truncate (box.requested.1 * box.scale)
  fixedHeight : box.rectTracker.isFixedSize = true →
    box.rectTracker.fixedHeight = truncate (box.requested.2 * box.scale)
  rests : box.rectTracker.Rests

/-- The tracker with the image for its max rect. -/
def wholeImage (box : RatioImageBox) : RectTrackerRatio :=
  box.rectTracker.restricted box.imageRect
    (box.rectTracker.fixedWidth, box.rectTracker.fixedHeight)

/-- The tracker with the size asked for, unscaled. -/
def fullSize (box : RatioImageBox) : RectTrackerRatio :=
  box.rectTracker.restricted box.rectTracker.maxRect box.requested

/-- The tracker after its two updates. -/
def readjusted (box : RatioImageBox) : RectTrackerRatio :=
  (box.wholeImage.update.restricted box.rectTracker.maxRect box.requested).update

/-- The scaled size has two sides. -/
def FixedSized (box : RatioImageBox) : Prop :=
  0 < box.rectTracker.fixedWidth ∧ 0 < box.rectTracker.fixedHeight

/-- Where a scaled size is longer than the max rect and the selection ends beyond the size asked
for in the other direction, the first update takes no rectangle that is marked in that one. -/
def Unmarked (box : RatioImageBox) : Prop :=
  let second := box.wholeImage.secondRect box.rectTracker.rect .outside
  box.FixedSized →
    (box.rectTracker.maxRect.width < box.rectTracker.fixedWidth →
      box.requested.2 < box.rectTracker.rect.vertical.stop → ¬box.wholeImage.TakesTall second) ∧
    (box.rectTracker.maxRect.height < box.rectTracker.fixedHeight →
      box.requested.1 < box.rectTracker.rect.horizontal.stop → ¬box.wholeImage.TakesBroad second)

instance (box : RatioImageBox) : Decidable box.Unmarked :=
  inferInstanceAs (Decidable (_ ∧ _ → (_ → _ → _) ∧ (_ → _ → _)))

/--
The selections that survive both updates.  Without a ratio they have the size asked
for, if that is a size.  With a ratio they rest under the size asked for as well, and
neither a mark of the first update nor the range of an `int` comes in between.
-/
structure KeepsSelection (box : RatioImageBox) : Prop where
  plain : box.rectTracker.ratio ≤ 0 → 0 < box.requested.1 → 0 < box.requested.2 →
    box.rectTracker.rect.width = box.requested.1 ∧
      box.rectTracker.rect.height = box.requested.2
  rests : 0 < box.rectTracker.ratio → box.fullSize.Rests
  unmarked : 0 < box.rectTracker.ratio → box.Unmarked
  inRange : 0 < box.rectTracker.ratio →
    box.wholeImage.UpdateInRange ∧ box.fullSize.UpdateInRange

theorem Steady.zone_tracker (steady : box.Steady) (fixed : box.rectTracker.isFixedSize = true)
    (below : box.scale < 1) :
    box.getSelectedZone.1.rectTracker =
      box.readjusted.restricted box.rectTracker.maxRect
        (box.rectTracker.fixedWidth, box.rectTracker.fixedHeight) := by
  have sides : RectTrackerRatio.exchangeSides box.rectTracker.orientation
      (truncate (box.originalWidth * box.scale)) (truncate (box.originalHeight * box.scale)) =
        (box.rectTracker.fixedWidth, box.rectTracker.fixedHeight) := by
    rw [RectTrackerRatio.exchangeSides_truncate steady.positive.le, steady.fixedWidth fixed,
      steady.fixedHeight fixed]
    rfl
  unfold RatioImageBox.getSelectedZone
  dsimp only
  rw [if_neg (not_lt.mpr steady.positive.le), if_pos ⟨fixed, below⟩]
  rw [RectTrackerRatio.setMaxRect_restricted _ (imageRect_sized box),
    RectTrackerRatio.setFixedSize_restricted,
    RectTrackerRatio.setMaxRect_restricted _ (scaledRect_sized box steady.positive),
    RectTrackerRatio.setFixedSize_restricted]
  unfold readjusted
  rw [steady.maxRect]
  exact congrArg (RectTrackerRatio.restricted _ (box.scaledRect box.scale)) sides

/-- The settings come back, so the selection decides. -/
theorem Steady.untouched_iff (steady : box.Steady) (fixed : box.rectTracker.isFixedSize = true)
    (below : box.scale < 1) :
    Untouched box.rectTracker box.getSelectedZone.1.rectTracker ↔
      box.readjusted.rect = box.rectTracker.rect := by
  rw [steady.zone_tracker fixed below]
  constructor
  · exact Untouched.rect
  · intro rect
    exact ⟨rect, rfl, rfl, rfl, rfl⟩

/-- The image is wider than it is below the scale one. -/
theorem Steady.widens (steady : box.Steady) :
    Widens box.rectTracker.maxRect box.imageRect := by
  rw [steady.maxRect]
  exact ⟨rfl, rfl, enlarge_le_size _ steady.positive steady.atMost,
    enlarge_le_size _ steady.positive steady.atMost⟩

theorem Steady.sized (steady : box.Steady) : box.rectTracker.maxRect.Sized := by
  rw [steady.maxRect]
  exact scaledRect_sized box steady.positive

theorem readjusted_rect (box : RatioImageBox) :
    box.readjusted.rect =
      box.fullSize.adjustTrackerRect
        (box.wholeImage.adjustTrackerRect box.rectTracker.rect .outside) .outside :=
  RectTrackerRatio.update_twice box.rectTracker box.imageRect box.rectTracker.maxRect _ _

/-- Once the first update changes nothing, the second one decides. -/
theorem readjusted_of_rests (rests : box.wholeImage.Rests) :
    box.readjusted.rect = box.rectTracker.rect ↔ box.fullSize.Rests := by
  have still : box.wholeImage.adjustTrackerRect box.rectTracker.rect .outside =
      box.rectTracker.rect :=
    (RectTrackerRatio.update_rect box.wholeImage).symm.trans rests
  unfold RectTrackerRatio.Rests
  rw [readjusted_rect, still, RectTrackerRatio.update_rect]
  rfl

theorem Steady.still (steady : box.Steady) :
    box.rectTracker.adjustTrackerRect box.rectTracker.rect .outside = box.rectTracker.rect := by
  rw [← RectTrackerRatio.update_rect]
  exact steady.rests

/-- The scaled size is shorter than the one asked for, so the second update changes the size. -/
theorem Steady.plain_sized (steady : box.Steady) (fixed : box.rectTracker.isFixedSize = true)
    (below : box.scale < 1) (noRatio : box.rectTracker.ratio ≤ 0)
    (sized : 0 < box.rectTracker.fixedWidth ∧ 0 < box.rectTracker.fixedHeight) :
    box.readjusted.rect = box.rectTracker.rect ↔
      (0 < box.requested.1 → 0 < box.requested.2 →
        box.rectTracker.rect.width = box.requested.1 ∧
          box.rectTracker.rect.height = box.requested.2) := by
  have wide := sized.1
  have high := sized.2
  rw [steady.fixedWidth fixed] at wide
  rw [steady.fixedHeight fixed] at high
  have narrower := truncate_mul_lt steady.positive.le below wide
  have lower := truncate_mul_lt steady.positive.le below high
  have still := steady.still
  rw [RectTrackerRatio.adjust_plain_sized noRatio sized] at still
  have width : box.rectTracker.rect.width = truncate (box.requested.1 * box.scale) :=
    (congrArg Rect.width still).symm.trans (steady.fixedWidth fixed)
  have asked : 0 < box.requested.1 ∧ 0 < box.requested.2 :=
    ⟨wide.trans narrower, high.trans lower⟩
  have other : box.readjusted.rect.width = box.requested.1 := by
    rw [readjusted_rect, @RectTrackerRatio.adjust_plain_sized box.fullSize noRatio asked]
    rfl
  constructor
  · intro same
    rw [same] at other
    omega
  · intro kept
    have := (kept asked.1 asked.2).1
    omega

/-- Without a scaled size the selection is clipped, and only its size can differ. -/
theorem Steady.plain_unsized (steady : box.Steady) (noRatio : box.rectTracker.ratio ≤ 0)
    (unsized : ¬(0 < box.rectTracker.fixedWidth ∧ 0 < box.rectTracker.fixedHeight)) :
    box.readjusted.rect = box.rectTracker.rect ↔
      (0 < box.requested.1 → 0 < box.requested.2 →
        box.rectTracker.rect.width = box.requested.1 ∧
          box.rectTracker.rect.height = box.requested.2) := by
  have clipped := steady.still
  rw [RectTrackerRatio.adjust_plain_unsized noRatio unsized] at clipped
  obtain ⟨between, ends⟩ := RectTrackerRatio.between_of_clipped steady.sized clipped
  have rests : box.wholeImage.Rests :=
    calc box.wholeImage.update.rect
        = box.wholeImage.adjustTrackerRect box.rectTracker.rect .outside :=
          RectTrackerRatio.update_rect box.wholeImage
      _ = box.wholeImage.adjustTrackerRectMax box.rectTracker.rect .outside :=
          @RectTrackerRatio.adjust_plain_unsized box.wholeImage noRatio unsized _
      _ = box.rectTracker.adjustTrackerRectMax box.rectTracker.rect .outside :=
          RectTrackerRatio.max_widened steady.sized steady.widens ends _
      _ = box.rectTracker.rect := clipped
  rw [readjusted_of_rests rests]
  unfold RectTrackerRatio.Rests
  rw [RectTrackerRatio.update_rect]
  by_cases asked : 0 < box.requested.1 ∧ 0 < box.requested.2
  · have adjusted : box.fullSize.adjustTrackerRect box.rectTracker.rect .outside =
        box.fullSize.adjustTrackerRectFixed box.rectTracker.rect :=
      (@RectTrackerRatio.adjust_plain_sized box.fullSize noRatio asked _).trans
        (congrArg box.fullSize.adjustTrackerRectFixed clipped)
    have self := @RectTrackerRatio.fixed_self_iff box.fullSize _ between ends
    rw [← adjusted] at self
    exact self.trans ⟨fun same _ _ => same, fun kept => kept asked.1 asked.2⟩
  · have adjusted : box.fullSize.adjustTrackerRect box.rectTracker.rect .outside =
        box.rectTracker.rect :=
      (@RectTrackerRatio.adjust_plain_unsized box.fullSize noRatio asked _).trans clipped
    exact ⟨fun _ wide high => absurd ⟨wide, high⟩ asked, fun _ => adjusted⟩

theorem Steady.plain (steady : box.Steady) (fixed : box.rectTracker.isFixedSize = true)
    (below : box.scale < 1) (noRatio : box.rectTracker.ratio ≤ 0) :
    box.readjusted.rect = box.rectTracker.rect ↔
      (0 < box.requested.1 → 0 < box.requested.2 →
        box.rectTracker.rect.width = box.requested.1 ∧
          box.rectTracker.rect.height = box.requested.2) := by
  by_cases sized : 0 < box.rectTracker.fixedWidth ∧ 0 < box.rectTracker.fixedHeight
  · exact steady.plain_sized fixed below noRatio sized
  · exact steady.plain_unsized noRatio sized

/-! ## With a ratio -/

theorem Steady.wholeSized (steady : box.Steady) : box.wholeImage.maxRect.Sized :=
  ⟨steady.sized.1.trans steady.widens.width, steady.sized.2.trans steady.widens.height⟩

/-- A scaled size with two sides is shorter than the size asked for. -/
theorem Steady.shorter (steady : box.Steady) (fixed : box.rectTracker.isFixedSize = true)
    (below : box.scale < 1) (sized : box.FixedSized) :
    box.rectTracker.fixedWidth < box.requested.1 ∧
      box.rectTracker.fixedHeight < box.requested.2 := by
  obtain ⟨wide, high⟩ := sized
  rw [steady.fixedWidth fixed] at wide ⊢
  rw [steady.fixedHeight fixed] at high ⊢
  exact ⟨truncate_mul_lt steady.positive.le below wide,
    truncate_mul_lt steady.positive.le below high⟩

/-- The first rectangle under the size asked for. -/
theorem fullSize_start (steady : box.Steady) (asked : 0 < box.requested.1 ∧ 0 < box.requested.2)
    (rect : Rect) :
    box.fullSize.startRect rect .outside =
      box.fullSize.fixedBefore
        (fixedStop ⟨0, box.rectTracker.maxRect.width⟩ rect.horizontal.stop box.requested.1)
        (fixedStop ⟨0, box.rectTracker.maxRect.height⟩ rect.vertical.stop box.requested.2) := by
  have start := @RectTrackerRatio.startRect_sized box.fullSize steady.sized asked rect
  have bounds := steady.maxRect
  rw [start]
  show box.fullSize.fixedBefore (fixedStop box.rectTracker.maxRect.horizontal _ _)
    (fixedStop box.rectTracker.maxRect.vertical _ _) = _
  rw [bounds]
  rfl

/-- The ends that the first update looks at. -/
theorem wholeImage_start (steady : box.Steady) (sized : box.FixedSized) (rect : Rect) :
    box.wholeImage.startRect rect .outside =
      box.wholeImage.fixedBefore
        (fixedStop ⟨0, box.imageWidth⟩ rect.horizontal.stop box.rectTracker.fixedWidth)
        (fixedStop ⟨0, box.imageHeight⟩ rect.vertical.stop box.rectTracker.fixedHeight) :=
  @RectTrackerRatio.startRect_sized box.wholeImage steady.wholeSized sized rect

theorem Steady.still_endsIn (steady : box.Steady) (ratio : 0 < box.rectTracker.ratio) :
    EndsIn box.rectTracker.rect box.rectTracker.maxRect :=
  RectTrackerRatio.endsIn_of_still ratio steady.sized steady.still

/-- Where the scaled size fits, the first update changes nothing. -/
theorem Steady.whole_still (steady : box.Steady) (ratio : 0 < box.rectTracker.ratio)
    (fits : box.FixedSized → box.rectTracker.fixedWidth ≤ box.rectTracker.maxRect.width ∧
      box.rectTracker.fixedHeight ≤ box.rectTracker.maxRect.height) :
    box.wholeImage.adjustTrackerRect box.rectTracker.rect .outside = box.rectTracker.rect :=
  (RectTrackerRatio.adjust_widened ratio steady.sized steady.widens (steady.still_endsIn ratio)
    fits).trans steady.still

/-- The columns of a size that is longer than the rows of the max rect. -/
theorem Steady.columns_same (steady : box.Steady) (ratio : 0 < box.rectTracker.ratio)
    (sized : box.FixedSized) (shorter : box.rectTracker.fixedWidth < box.requested.1)
    (unmarked : box.requested.1 < box.rectTracker.maxRect.width →
      box.requested.1 < box.rectTracker.rect.horizontal.stop →
        ¬box.wholeImage.TakesBroad (box.wholeImage.secondRect box.rectTracker.rect .outside)) :
    fixedStop ⟨0, box.rectTracker.maxRect.width⟩
        (box.wholeImage.adjustTrackerRect box.rectTracker.rect .outside).horizontal.stop
        box.requested.1 =
      fixedStop ⟨0, box.rectTracker.maxRect.width⟩ box.rectTracker.rect.horizontal.stop
        box.requested.1 := by
  rcases le_or_gt box.rectTracker.maxRect.width box.requested.1 with covers | within
  · rw [RectTrackerRatio.fixedStop_covering covers, RectTrackerRatio.fixedStop_covering covers]
  have ends : box.rectTracker.rect.horizontal.stop ≤ box.rectTracker.maxRect.width := by
    have before := (steady.still_endsIn ratio).1
    rw [steady.maxRect] at before ⊢
    exact before.trans_eq (zero_add _)
  have right := @RectTrackerRatio.right_adjust box.wholeImage ratio steady.wholeSized sized
    box.rectTracker.rect
  rw [wholeImage_start steady sized, RectTrackerRatio.right_fixedBefore] at right
  split_ifs at right with broad
  · refine RectTrackerRatio.fixedStop_covered shorter within.le steady.widens.width ?_ right
    by_contra uncovered
    exact unmarked within (not_le.mp uncovered) broad
  · exact RectTrackerRatio.fixedStop_kept shorter within.le steady.widens.width ends right

theorem Steady.rows_same (steady : box.Steady) (ratio : 0 < box.rectTracker.ratio)
    (sized : box.FixedSized) (shorter : box.rectTracker.fixedHeight < box.requested.2)
    (unmarked : box.requested.2 < box.rectTracker.maxRect.height →
      box.requested.2 < box.rectTracker.rect.vertical.stop →
        ¬box.wholeImage.TakesTall (box.wholeImage.secondRect box.rectTracker.rect .outside)) :
    fixedStop ⟨0, box.rectTracker.maxRect.height⟩
        (box.wholeImage.adjustTrackerRect box.rectTracker.rect .outside).vertical.stop
        box.requested.2 =
      fixedStop ⟨0, box.rectTracker.maxRect.height⟩ box.rectTracker.rect.vertical.stop
        box.requested.2 := by
  rcases le_or_gt box.rectTracker.maxRect.height box.requested.2 with covers | within
  · rw [RectTrackerRatio.fixedStop_covering covers, RectTrackerRatio.fixedStop_covering covers]
  have ends : box.rectTracker.rect.vertical.stop ≤ box.rectTracker.maxRect.height := by
    have before := (steady.still_endsIn ratio).2
    rw [steady.maxRect] at before ⊢
    exact before.trans_eq (zero_add _)
  have bottom := @RectTrackerRatio.bottom_adjust box.wholeImage ratio steady.wholeSized sized
    box.rectTracker.rect
  rw [wholeImage_start steady sized, RectTrackerRatio.bottom_fixedBefore] at bottom
  split_ifs at bottom with tall
  · refine RectTrackerRatio.fixedStop_covered shorter within.le steady.widens.height ?_ bottom
    by_contra uncovered
    exact unmarked within (not_le.mp uncovered) tall
  · exact RectTrackerRatio.fixedStop_kept shorter within.le steady.widens.height ends bottom

/-- Without a mark the second update starts from the same rectangle as without the first one. -/
theorem Steady.same_start (steady : box.Steady) (fixed : box.rectTracker.isFixedSize = true)
    (below : box.scale < 1) (ratio : 0 < box.rectTracker.ratio) (unmarked : box.Unmarked) :
    box.fullSize.startRect
        (box.wholeImage.adjustTrackerRect box.rectTracker.rect .outside) .outside =
      box.fullSize.startRect box.rectTracker.rect .outside := by
  by_cases fits : box.FixedSized → box.rectTracker.fixedWidth ≤ box.rectTracker.maxRect.width ∧
      box.rectTracker.fixedHeight ≤ box.rectTracker.maxRect.height
  · rw [steady.whole_still ratio fits]
  simp only [not_forall, not_and_or, not_le] at fits
  obtain ⟨sized, overlong⟩ := fits
  obtain ⟨narrower, lower⟩ := steady.shorter fixed below sized
  obtain ⟨tall, broad⟩ := unmarked sized
  have asked : 0 < box.requested.1 ∧ 0 < box.requested.2 :=
    ⟨sized.1.trans narrower, sized.2.trans lower⟩
  have columns := steady.columns_same ratio sized narrower fun within =>
    broad (overlong.resolve_left (narrower.trans within).asymm)
  have rows := steady.rows_same ratio sized lower fun within =>
    tall (overlong.resolve_right (lower.trans within).asymm)
  rw [fullSize_start steady asked, fullSize_start steady asked, columns, rows]

/-- With a mark the selection loses an end. -/
theorem Steady.lost (steady : box.Steady) (fixed : box.rectTracker.isFixedSize = true)
    (below : box.scale < 1) (ratio : 0 < box.rectTracker.ratio) (marked : ¬box.Unmarked) :
    box.readjusted.rect ≠ box.rectTracker.rect := by
  simp only [Unmarked, not_forall, not_and_or, not_not] at marked
  obtain ⟨sized, marked⟩ := marked
  obtain ⟨narrower, lower⟩ := steady.shorter fixed below sized
  have asked : 0 < box.requested.1 ∧ 0 < box.requested.2 :=
    ⟨sized.1.trans narrower, sized.2.trans lower⟩
  have ends := steady.still_endsIn ratio
  have columns : box.rectTracker.maxRect.horizontal.stop = box.rectTracker.maxRect.width := by
    rw [steady.maxRect]
    exact zero_add _
  have rows : box.rectTracker.maxRect.vertical.stop = box.rectTracker.maxRect.height := by
    rw [steady.maxRect]
    exact zero_add _
  rw [EndsIn, columns, rows] at ends
  intro same
  rw [readjusted_rect] at same
  have right := @RectTrackerRatio.right_adjust_le box.fullSize ratio steady.sized asked
    (box.wholeImage.adjustTrackerRect box.rectTracker.rect .outside)
  have bottom := @RectTrackerRatio.bottom_adjust_le box.fullSize ratio steady.sized asked
    (box.wholeImage.adjustTrackerRect box.rectTracker.rect .outside)
  rw [same, fullSize_start steady asked, RectTrackerRatio.right_fixedBefore] at right
  rw [same, fullSize_start steady asked, RectTrackerRatio.bottom_fixedBefore] at bottom
  rcases marked with ⟨_, uncovered, tall⟩ | ⟨_, uncovered, broad⟩
  · have pulled := @RectTrackerRatio.bottom_adjust box.wholeImage ratio steady.wholeSized sized
      box.rectTracker.rect
    rw [if_pos tall, wholeImage_start steady sized, RectTrackerRatio.bottom_fixedBefore] at pulled
    have away := RectTrackerRatio.fixedStop_lost lower (uncovered.le.trans ends.2)
      steady.widens.height ends.2 uncovered pulled
    exact absurd bottom (not_le.mpr away)
  · have pulled := @RectTrackerRatio.right_adjust box.wholeImage ratio steady.wholeSized sized
      box.rectTracker.rect
    rw [if_pos broad, wholeImage_start steady sized, RectTrackerRatio.right_fixedBefore] at pulled
    have away := RectTrackerRatio.fixedStop_lost narrower (uncovered.le.trans ends.1)
      steady.widens.width ends.1 uncovered pulled
    exact absurd right (not_le.mpr away)

theorem Steady.ratio_iff (steady : box.Steady) (fixed : box.rectTracker.isFixedSize = true)
    (below : box.scale < 1) (ratio : 0 < box.rectTracker.ratio) :
    box.readjusted.rect = box.rectTracker.rect ↔ box.Unmarked ∧ box.fullSize.Rests := by
  by_cases unmarked : box.Unmarked
  · have same := @RectTrackerRatio.adjust_of_start box.fullSize _ _ ratio
      (steady.same_start fixed below ratio unmarked)
    rw [readjusted_rect, same, and_iff_right unmarked, RectTrackerRatio.Rests,
      RectTrackerRatio.update_rect]
    rfl
  · exact iff_of_false (steady.lost fixed below ratio unmarked) fun both => unmarked both.1

/-! ## In the range of an `int` -/

/-- `GetSelectedZone`, with a check in each of its updates. -/
def checkedZone (box : RatioImageBox) : Option (RatioImageBox × Rect) :=
  let ratio := if box.scale < 0 then -box.scale else box.scale
  let tracker := box.rectTracker
  let rect : Rect :=
    ⟨truncate (tracker.rect.x / ratio), truncate (tracker.rect.y / ratio),
      truncate (tracker.rect.width / ratio), truncate (tracker.rect.height / ratio)⟩
  if tracker.isFixedSize ∧ ratio < 1 then
    (tracker.withMaxRect box.imageRect).checkedUpdate.bind fun tracker =>
      let tracker := tracker.setFixedSize box.originalWidth box.originalHeight
      let rect := tracker.adjustTrackerRectFixed rect
      (tracker.withMaxRect (box.scaledRect ratio)).checkedUpdate.map fun tracker =>
        let tracker :=
          tracker.setFixedSize
            (truncate (box.originalWidth * ratio)) (truncate (box.originalHeight * ratio))
        ({ box with rectTracker := tracker }, rect)
  else some (box, rect)

theorem checkedZone_computes (box : RatioImageBox) :
    Computes box.checkedZone box.ZoneInRange box.getSelectedZone := by
  unfold checkedZone getSelectedZone ZoneInRange
  dsimp only
  generalize (if box.scale < 0 then -box.scale else box.scale) = ratio
  split_ifs with contracted
  · refine ((RectTrackerRatio.checkedUpdate_computes _).bind
      ((RectTrackerRatio.checkedUpdate_computes _).map _)).congr ?_
    exact ⟨fun fits _ => fits, fun fits => fits contracted⟩
  · exact (Computes.of_eq_some rfl).congr
      (iff_of_true trivial fun other => absurd other contracted)

/-- Both updates stay in the range as they do for the selection itself. -/
theorem Steady.zoneInRange_iff (steady : box.Steady) (fixed : box.rectTracker.isFixedSize = true)
    (below : box.scale < 1) (ratio : 0 < box.rectTracker.ratio) (unmarked : box.Unmarked) :
    box.ZoneInRange ↔ box.wholeImage.UpdateInRange ∧ box.fullSize.UpdateInRange := by
  have first : box.rectTracker.withMaxRect box.imageRect = box.wholeImage := by
    rw [RectTrackerRatio.withMaxRect_of_sized (imageRect_sized box)]
    rfl
  have second : ((box.rectTracker.setMaxRect box.imageRect).setFixedSize box.originalWidth
      box.originalHeight).withMaxRect (box.scaledRect box.scale) =
        box.wholeImage.update.restricted box.rectTracker.maxRect box.requested := by
    rw [RectTrackerRatio.setMaxRect_restricted _ (imageRect_sized box),
      RectTrackerRatio.setFixedSize_restricted,
      RectTrackerRatio.withMaxRect_of_sized (scaledRect_sized box steady.positive),
      steady.maxRect]
    rfl
  have same := RectTrackerRatio.rangeFits_of_start
    (steady.same_start fixed below ratio unmarked)
  have again : (box.wholeImage.update.restricted box.rectTracker.maxRect
      box.requested).UpdateInRange ↔ box.fullSize.UpdateInRange := by
    have moved : box.wholeImage.update.rect =
        box.wholeImage.adjustTrackerRect box.rectTracker.rect .outside :=
      RectTrackerRatio.update_rect box.wholeImage
    rw [← moved] at same
    exact (@RectTrackerRatio.rangeFits_congr box.fullSize
      (box.wholeImage.update.restricted box.rectTracker.maxRect box.requested)
      rfl rfl rfl rfl rfl _ .outside).trans same
  unfold ZoneInRange
  dsimp only
  rw [if_neg (not_lt.mpr steady.positive.le), first, second, again]
  exact ⟨fun fits => fits ⟨fixed, below⟩, fun fits _ => fits⟩

/-- Without a ratio there is nothing to leave the range. -/
theorem zoneInRange_of_noRatio (noRatio : box.rectTracker.ratio ≤ 0) : box.ZoneInRange :=
  fun _ => ⟨fun positive => absurd noRatio (not_le.mpr positive),
    fun positive => absurd noRatio (not_le.mpr (by
      rw [RectTrackerRatio.setFixedSize_eq] at positive
      exact positive))⟩

/-- A square image at half its size, selected as a whole by a fixed size in ratio. -/
def filled : RatioImageBox where
  imageWidth := 20
  imageHeight := 20
  scale := 1 / 2
  originalWidth := 20
  originalHeight := 20
  rectTracker :=
    { RectTrackerRatio.create with
      rect := ⟨0, 0, 10, 10⟩
      maxRect := ⟨0, 0, 10, 10⟩
      ratio := 1
      fixedWidth := 10
      fixedHeight := 10 }

/-- A fixed size at half the size of the image. -/
def halved : List Event := [.setImage 100 80 (1 / 2), .setFixedSize 30 20]

/-- The state `halved` ends in. -/
def halvedBox : RatioImageBox where
  imageWidth := 100
  imageHeight := 80
  scale := 1 / 2
  originalWidth := 30
  originalHeight := 20
  rectTracker :=
    { RectTrackerRatio.create with
      rect := ⟨0, 0, 15, 10⟩
      maxRect := ⟨0, 0, 50, 40⟩
      curRect := ⟨0, 0, 15, 10⟩
      fixedWidth := 15
      fixedHeight := 10 }

end RatioImageBox

end RPhoto.Tracker
