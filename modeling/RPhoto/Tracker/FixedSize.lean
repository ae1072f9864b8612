import RPhoto.Tracker.ImageBox

/-!
# The fixed-size crop

In fixed-size mode every update of the tracker gives its rectangle the fixed
size, unless a ratio of an earlier mode is still in force and the size is not in
that ratio.  Below the scale one, the selected zone is readjusted to the
requested size.  At the scale one it is the rectangle of the tracker, so the
tracker itself must have the requested size, and its rectangle must have been
updated since, with distances in the range of an `int`.
-/

namespace RPhoto.Tracker

open RPhoto.Library

namespace RectTrackerRatio

variable {tracker next : RectTrackerRatio} {rect : Rect}

/-! ## Updates in fixed-size mode -/

theorem adjustSpanFixed_within {bounds : Span} {size : Int} (nonneg : 0 ≤ size)
    (fits : size ≤ bounds.length) (span : Span) :
    (adjustSpanFixed bounds span size).Within bounds := by
  simp only [adjustSpanFixed, Span.Within, Span.stop]
  split_ifs <;> omega

/-- A fixed size that fits is given to every rectangle, inside the max rect. -/
theorem adjustFixed_inside (width : 0 ≤ tracker.fixedWidth) (height : 0 ≤ tracker.fixedHeight)
    (narrower : tracker.fixedWidth ≤ tracker.maxRect.width)
    (lower : tracker.fixedHeight ≤ tracker.maxRect.height) (rect : Rect) :
    (tracker.adjustTrackerRectFixed rect).Inside tracker.maxRect :=
  ⟨adjustSpanFixed_within width narrower _, adjustSpanFixed_within height lower _⟩

/-- The ratio is off, or the size is in ratio. -/
def RatioKeeps (tracker : RectTrackerRatio) (width height : Int) : Prop :=
  0 < tracker.ratio → tracker.InRatio ⟨0, 0, width, height⟩

instance (tracker : RectTrackerRatio) (width height : Int) :
    Decidable (tracker.RatioKeeps width height) :=
  inferInstanceAs (Decidable (_ → _))

/-- The rectangle has the fixed size and lies inside the max rect. -/
structure Exact (tracker : RectTrackerRatio) : Prop where
  width : tracker.rect.width = tracker.fixedWidth
  height : tracker.rect.height = tracker.fixedHeight
  inside : tracker.rect.Inside tracker.maxRect

/-- The settings with which an update makes the rectangle exact. -/
structure Fixing (tracker : RectTrackerRatio) : Prop where
  width : 0 < tracker.fixedWidth
  height : 0 < tracker.fixedHeight
  narrower : tracker.fixedWidth ≤ tracker.maxRect.width
  lower : tracker.fixedHeight ≤ tracker.maxRect.height
  ratio : tracker.RatioKeeps tracker.fixedWidth tracker.fixedHeight

theorem Fixing.adjust (fixing : tracker.Fixing) (rect : Rect) :
    (tracker.adjustTrackerRect rect .outside).Inside tracker.maxRect ∧
      (tracker.adjustTrackerRect rect .outside).width = tracker.fixedWidth ∧
      (tracker.adjustTrackerRect rect .outside).height = tracker.fixedHeight := by
  have inside := adjustFixed_inside fixing.width.le fixing.height.le fixing.narrower fixing.lower
    (tracker.adjustTrackerRectMax rect .outside)
  have set : tracker.maxRect.Sized :=
    ⟨fixing.width.le.trans fixing.narrower, fixing.height.le.trans fixing.lower⟩
  have same : tracker.adjustTrackerRect rect .outside =
      tracker.adjustTrackerRectFixed (tracker.adjustTrackerRectMax rect .outside) := by
    simp only [adjustTrackerRect, if_pos (And.intro fixing.width fixing.height), gt_iff_lt]
    split_ifs with positive
    · have inRatio : tracker.InRatio
          (tracker.adjustTrackerRectFixed (tracker.adjustTrackerRectMax rect .outside)) :=
        (fixing.ratio positive).of_size rfl rfl
      rw [pass_of_inRatio positive rfl inRatio, max_of_inside set inside,
        pass_of_inRatio positive rfl inRatio]
    · rfl
  rw [same]
  exact ⟨inside, rfl, rfl⟩

theorem Fixing.update (fixing : tracker.Fixing) : tracker.update.Exact := by
  obtain ⟨inside, width, height⟩ := fixing.adjust tracker.rect
  refine ⟨?_, ?_, ?_⟩ <;> rw [update_rect]
  · exact width
  · exact height
  · exact inside

/-! ## Inputs -/

/-- What an update depends on besides the rectangle. -/
structure SameSettings (tracker next : RectTrackerRatio) : Prop where
  maxRect : next.maxRect = tracker.maxRect
  ratio : next.ratio = tracker.ratio
  orientation : next.orientation = tracker.orientation
  fixedWidth : next.fixedWidth = tracker.fixedWidth
  fixedHeight : next.fixedHeight = tracker.fixedHeight

theorem SameSettings.refl (tracker : RectTrackerRatio) : SameSettings tracker tracker :=
  ⟨rfl, rfl, rfl, rfl, rfl⟩

/-- The ratio and the orientation decide. -/
theorem RatioKeeps.congr {width height : Int} (keeps : tracker.RatioKeeps width height)
    (ratio : next.ratio = tracker.ratio) (orientation : next.orientation = tracker.orientation) :
    next.RatioKeeps width height := by
  unfold RatioKeeps InRatio widthFor heightFor at keeps ⊢
  rw [ratio, orientation]
  exact keeps

theorem Fixing.carry (fixing : tracker.Fixing) (same : SameSettings tracker next) :
    next.Fixing := by
  obtain ⟨width, height, narrower, lower, ratio⟩ := fixing
  unfold RatioKeeps InRatio widthFor heightFor at ratio
  constructor <;>
    simpa only [RatioKeeps, InRatio, widthFor, heightFor, same.maxRect, same.ratio,
      same.orientation, same.fixedWidth, same.fixedHeight]

/-- The mouse and key events. -/
def Event.isInput : Event → Bool
  | .leftDown _ | .motion .. | .leftUp | .key .. => true
  | _ => false

/-- How the rectangle of a tracker moves: it stays, it is hidden, or it is updated. -/
inductive Moves (tracker next : RectTrackerRatio) : Prop where
  | stays (rect : next.rect = tracker.rect)
  | hides (rect : next.rect = nullRect)
  | updates (base : RectTrackerRatio) (same : SameSettings tracker base)
      (rect : next.rect = base.update.rect)

theorem update_moves {base : RectTrackerRatio} (same : SameSettings tracker base) :
    SameSettings tracker base.update ∧ Moves tracker base.update :=
  ⟨⟨same.maxRect, same.ratio, same.orientation, same.fixedWidth, same.fixedHeight⟩,
    .updates base same rfl⟩

/-- A mouse or key event keeps the settings and moves the rectangle. -/
theorem input_moves {event : Event} (input : event.isInput = true)
    (executed : step event tracker = some next) :
    SameSettings tracker next ∧ Moves tracker next := by
  cases event with
  | leftDown position =>
      obtain ⟨-, done⟩ := Option.ite_none_left_eq_some.mp executed
      cases done
      unfold onMouseLeftDown
      dsimp only
      split_ifs
      · exact ⟨⟨rfl, rfl, rfl, rfl, rfl⟩,
          .updates (hide { tracker with dragging := true, leftClick := position })
            ⟨rfl, rfl, rfl, rfl, rfl⟩ rfl⟩
      · exact ⟨⟨rfl, rfl, rfl, rfl, rfl⟩, .stays rfl⟩
  | motion position isDragging leftIsDown =>
      obtain ⟨-, done⟩ := Option.ite_none_left_eq_some.mp executed
      cases done
      unfold onMouseMotion
      dsimp only
      split_ifs <;> exact ⟨⟨rfl, rfl, rfl, rfl, rfl⟩, .stays rfl⟩
  | leftUp =>
      obtain ⟨-, done⟩ := Option.ite_none_left_eq_some.mp executed
      cases done
      unfold onMouseLeftUp
      dsimp only
      split_ifs
      · exact update_moves ⟨rfl, rfl, rfl, rfl, rfl⟩
      · exact ⟨⟨rfl, rfl, rfl, rfl, rfl⟩, .stays rfl⟩
  | key key controlDown shiftDown =>
      obtain ⟨-, done⟩ := Option.ite_none_left_eq_some.mp executed
      cases done
      unfold onKey
      by_cases skipped : tracker.disabled = true ∨ ¬tracker.isShown = true
      · rw [if_pos skipped]
        exact ⟨.refl tracker, .stays rfl⟩
      by_cases empty : tracker.rect.width ≤ 0 ∨ tracker.rect.height ≤ 0
      · rw [if_neg skipped, if_pos empty]
        exact ⟨.refl tracker, .stays rfl⟩
      rw [if_neg skipped, if_neg empty]
      cases key with
      | escape =>
          by_cases captured : tracker.mouseCaptured = true
          · simp only [captured, if_true]
            exact update_moves ⟨rfl, rfl, rfl, rfl, rfl⟩
          · simp only [captured, Bool.false_eq_true, if_false]
            exact ⟨⟨rfl, rfl, rfl, rfl, rfl⟩, .hides rfl⟩
      | other => exact ⟨.refl tracker, .stays rfl⟩
      | left | up | right | down => exact update_moves ⟨rfl, rfl, rfl, rfl, rfl⟩
  | hide | update | enable | disable | setMaxRect | setRatio | setOrientation =>
      simp [Event.isInput] at input

/-- A rectangle that is shown with a positive size is exact. -/
def ShownExact (tracker : RectTrackerRatio) : Prop :=
  0 < tracker.rect.width → 0 < tracker.rect.height → tracker.Exact

/-- Moving the rectangle keeps what is shown exact. -/
theorem Fixing.moves (fixing : tracker.Fixing) (same : SameSettings tracker next)
    (moves : Moves tracker next) (exact : tracker.ShownExact) : next.ShownExact := by
  intro wide high
  cases moves with
  | stays rect =>
      rw [rect] at wide high
      obtain ⟨width, height, inside⟩ := exact wide high
      constructor <;> rw [rect]
      · exact width.trans same.fixedWidth.symm
      · exact height.trans same.fixedHeight.symm
      · exact same.maxRect ▸ inside
  | hides rect =>
      rw [rect] at wide
      exact absurd wide (by decide)
  | updates base baseSame rect =>
      obtain ⟨width, height, inside⟩ := (fixing.carry baseSame).update
      constructor <;> rw [rect]
      · exact width.trans (baseSame.fixedWidth.trans same.fixedWidth.symm)
      · exact height.trans (baseSame.fixedHeight.trans same.fixedHeight.symm)
      · exact (baseSame.maxRect.trans same.maxRect.symm) ▸ inside

/-! ## Settings after the setters -/

/-- The sides of a size, exchanged when the orientation asks for it. -/
def exchangeSides (orientation width height : Int) : Int × Int :=
  if (orientation = -1 ∧ width > height) ∨ (orientation = 1 ∧ width < height) then
    (height, width)
  else (width, height)

/-- A forced orientation orders the sides, whatever was done to them before. -/
theorem exchangeSides_again {orientation : Int} (forced : orientation = -1 ∨ orientation = 1)
    (earlier width height : Int) :
    exchangeSides orientation (exchangeSides earlier width height).1
      (exchangeSides earlier width height).2 = exchangeSides orientation width height := by
  unfold exchangeSides
  rcases forced with rfl | rfl <;> split_ifs <;> simp_all <;> omega

theorem exchangeSides_positive {orientation width height : Int} (wide : 0 < width)
    (high : 0 < height) :
    0 < (exchangeSides orientation width height).1 ∧
      0 < (exchangeSides orientation width height).2 := by
  unfold exchangeSides
  split_ifs
  · exact ⟨high, wide⟩
  · exact ⟨wide, high⟩

theorem setFixedSize_eq (tracker : RectTrackerRatio) (width height : Int) :
    tracker.setFixedSize width height =
      { tracker with
        fixedWidth := (exchangeSides tracker.orientation width height).1
        fixedHeight := (exchangeSides tracker.orientation width height).2 } := by
  unfold setFixedSize exchangeSides
  split_ifs <;> rfl

theorem withMaxRect_of_sized (sized : rect.Sized) :
    tracker.withMaxRect rect = { tracker with maxRect := rect } := by
  unfold withMaxRect
  rw [if_neg (not_lt.mpr sized.1), if_neg (not_lt.mpr sized.2)]

end RectTrackerRatio

namespace RatioImageBox

open RectTrackerRatio (exchangeSides)

variable {box next : RatioImageBox}

/-! ## Events -/

/-- The operations of the box and the inputs of its tracker. -/
inductive Event where
  | setRatio (ratio : ℚ)
  | setFixedSize (width height : Int)
  | setOrientation (orientation : Int)
  | setScale (newScale : ℚ)
  | onResize (curScale : ℚ)
  | setImage (width height : Nat) (scale : ℚ)
  | trackerReset
  | getSelectedZone
  | input (event : RectTrackerRatio.Event)
deriving DecidableEq, Repr

def step (event : Event) (box : RatioImageBox) : Option RatioImageBox :=
  match event with
  | .setRatio ratio => some (box.setRatio ratio)
  | .setFixedSize width height => some (box.setFixedSize width height)
  | .setOrientation orientation => some (box.setOrientation orientation)
  | .setScale newScale => some (box.setScale newScale)
  | .onResize curScale => some (box.onResize curScale)
  | .setImage width height scale => some (box.setImage width height scale)
  | .trackerReset => some box.trackerReset
  | .getSelectedZone => some box.getSelectedZone.1
  | .input event =>
      if event.isInput then
        (RectTrackerRatio.step event box.rectTracker).map fun rectTracker =>
          { box with rectTracker }
      else none

/-- The size asked for, in the orientation asked for. -/
def requested (box : RatioImageBox) : Int × Int :=
  exchangeSides box.rectTracker.orientation box.originalWidth box.originalHeight

/-- The image has room for the size asked for. -/
def RequestFits (box : RatioImageBox) : Prop :=
  box.requested.1 ≤ box.imageWidth ∧ box.requested.2 ≤ box.imageHeight

instance (box : RatioImageBox) : Decidable box.RequestFits :=
  inferInstanceAs (Decidable (_ ∧ _))

/-- Fixed sizes are positive and scales are at most one. -/
def Proper : Event → Prop
  | .setFixedSize width height => 0 < width ∧ 0 < height
  | .setScale scale | .onResize scale | .setImage _ _ scale => 0 < scale ∧ scale ≤ 1
  | _ => True

instance : (event : Event) → Decidable (Proper event)
  | .setFixedSize .. | .setScale _ | .onResize _ | .setImage .. =>
      inferInstanceAs (Decidable (_ ∧ _))
  | .setRatio _ | .setOrientation _ | .trackerReset | .getSelectedZone | .input _ =>
      inferInstanceAs (Decidable True)

/--
What keeps the tracker in step with the size asked for at the scale one: no zoom
reaches that scale in fixed-size mode, no ratio changes the size, and the
orientation is not given up after it has exchanged the sides.
-/
def InStep (event : Event) (box : RatioImageBox) : Prop :=
  match event with
  | .setFixedSize width height =>
      box.scale = 1 → box.rectTracker.maxRect ≠ nullRect ∧
        box.rectTracker.RatioKeeps
          (exchangeSides box.rectTracker.orientation width height).1
          (exchangeSides box.rectTracker.orientation width height).2
  | .setOrientation orientation =>
      box.rectTracker.isFixedSize = true → box.scale = 1 →
        (orientation = -1 ∨ orientation = 1 ∨
          (box.rectTracker.fixedWidth = box.originalWidth ∧
            box.rectTracker.fixedHeight = box.originalHeight)) ∧
        RectTrackerRatio.RatioKeeps { box.rectTracker with orientation }
          (exchangeSides orientation box.originalWidth box.originalHeight).1
          (exchangeSides orientation box.originalWidth box.originalHeight).2
  | .setScale scale | .onResize scale | .setImage _ _ scale =>
      box.rectTracker.isFixedSize = true → scale = 1 → box.scale = 1
  | _ => True

instance (event : Event) (box : RatioImageBox) : Decidable (InStep event box) :=
  match event with
  | .setFixedSize .. => inferInstanceAs (Decidable (_ → _ ∧ _))
  | .setOrientation _ => inferInstanceAs (Decidable (_ → _ → _ ∧ _))
  | .setScale _ | .onResize _ | .setImage .. => inferInstanceAs (Decidable (_ → _ → _))
  | .setRatio _ | .trackerReset | .getSelectedZone | .input _ =>
      inferInstanceAs (Decidable True)

/-- The three updates of `AdjustTrackerSize` stay in the range of an `int`. -/
def ResizeInRange (box : RatioImageBox) (ratio : ℚ) : Prop :=
  let whole := box.rectTracker.setMaxRect box.imageRect
  (box.rectTracker.withMaxRect box.imageRect).UpdateInRange ∧
    (ratio ≠ 0 →
      RectTrackerRatio.UpdateInRange { whole with rect := scaleRect whole.rect ratio }) ∧
    ((box.scaleTracker ratio).withMaxRect (box.scaledRect box.scale)).UpdateInRange

instance (box : RatioImageBox) (ratio : ℚ) : Decidable (box.ResizeInRange ratio) :=
  inferInstanceAs (Decidable (_ ∧ (_ → _) ∧ _))

/-- The two updates of `GetSelectedZone` do. -/
def ZoneInRange (box : RatioImageBox) : Prop :=
  let ratio := if box.scale < 0 then -box.scale else box.scale
  box.rectTracker.isFixedSize = true ∧ ratio < 1 →
    (box.rectTracker.withMaxRect box.imageRect).UpdateInRange ∧
      (((box.rectTracker.setMaxRect box.imageRect).setFixedSize
        box.originalWidth box.originalHeight).withMaxRect (box.scaledRect ratio)).UpdateInRange

instance (box : RatioImageBox) : Decidable box.ZoneInRange :=
  inferInstanceAs (Decidable (_ ∧ _ → _ ∧ _))

/-- The operations whose updates all stay in the range. -/
def InRange (event : Event) (box : RatioImageBox) : Prop :=
  match event with
  | .setRatio ratio => (box.rectTracker.setRatio ratio).UpdateInRange
  | .setFixedSize width height =>
      (box.rectTracker.setFixedSize
        (truncate (width * box.scale)) (truncate (height * box.scale))).UpdateInRange
  | .setOrientation orientation => (box.rectTracker.setOrientation orientation).UpdateInRange
  | .setScale scale =>
      0 < box.scale → ResizeInRange { box with scale } (scale / box.scale)
  | .onResize scale =>
      0 < scale → 0 < box.scale → box.scale ≠ scale →
        ResizeInRange { box with scale } (scale / box.scale)
  | .setImage width height scale =>
      (box.rectTracker.withMaxRect
        (scaledRect { box with imageWidth := width, imageHeight := height } scale)).UpdateInRange
  | .trackerReset => True
  | .getSelectedZone => box.ZoneInRange
  | .input event => RectTrackerRatio.InRange event box.rectTracker

instance (event : Event) (box : RatioImageBox) : Decidable (InRange event box) :=
  match event with
  | .setRatio _ | .setFixedSize .. | .setOrientation _ | .setImage .. =>
      inferInstanceAs (Decidable (RectTrackerRatio.UpdateInRange _))
  | .setScale _ => inferInstanceAs (Decidable (_ → _))
  | .onResize _ => inferInstanceAs (Decidable (_ → _ → _ → _))
  | .trackerReset => inferInstanceAs (Decidable True)
  | .getSelectedZone => inferInstanceAs (Decidable (ZoneInRange _))
  | .input _ => inferInstanceAs (Decidable (RectTrackerRatio.InRange ..))

/-- Proper operations that keep the tracker in step and every distance in the range. -/
def Admitted (event : Event) (box : RatioImageBox) : Prop :=
  Proper event ∧ InStep event box ∧ InRange event box

instance (event : Event) (box : RatioImageBox) : Decidable (Admitted event box) :=
  inferInstanceAs (Decidable (_ ∧ _ ∧ _))

/-! ## What every step keeps -/

/-- The tracker has the size asked for, the whole image and no ratio against that. -/
structure Asked (box : RatioImageBox) : Prop where
  fixedWidth : box.rectTracker.fixedWidth = box.requested.1
  fixedHeight : box.rectTracker.fixedHeight = box.requested.2
  maxRect : box.rectTracker.maxRect = box.imageRect
  ratio : box.rectTracker.RatioKeeps box.requested.1 box.requested.2

/-- The settings are right for the next update. -/
structure Ready (box : RatioImageBox) : Prop where
  positive : 0 < box.scale
  atMost : box.scale ≤ 1
  bounded : box.rectTracker.maxRect = nullRect ∨
    box.rectTracker.maxRect = box.scaledRect box.scale
  sized : box.rectTracker.isFixedSize = true → 0 < box.originalWidth ∧ 0 < box.originalHeight
  asked : box.rectTracker.isFixedSize = true → box.scale = 1 → box.Asked

/-- What the tracker shows is exact as well. -/
structure Kept (box : RatioImageBox) : Prop extends Ready box where
  exact : box.rectTracker.isFixedSize = true → box.scale = 1 → box.RequestFits →
    box.rectTracker.ShownExact

theorem create_kept : create.Kept :=
  ⟨⟨by decide +kernel, le_rfl, .inl rfl, fun fixed => absurd fixed (by decide),
    fun fixed => absurd fixed (by decide)⟩, fun fixed => absurd fixed (by decide)⟩

theorem scaledRect_sized (box : RatioImageBox) {scale : ℚ} (positive : 0 < scale) :
    (box.scaledRect scale).Sized :=
  ⟨truncate_nonneg (by positivity), truncate_nonneg (by positivity)⟩

@[simp] theorem scaledRect_one (box : RatioImageBox) : box.scaledRect 1 = box.imageRect := by
  have whole (side : Nat) : truncate (side : ℚ) = side := truncate_intCast side
  simp [scaledRect, imageRect, whole]

theorem imageRect_sized (box : RatioImageBox) : box.imageRect.Sized :=
  ⟨Int.natCast_nonneg _, Int.natCast_nonneg _⟩

/-- With the size asked for, an update makes the rectangle exact where that fits. -/
theorem Asked.fixing (asked : box.Asked) (sized : 0 < box.originalWidth ∧ 0 < box.originalHeight)
    (fits : box.RequestFits) : box.rectTracker.Fixing := by
  have sides := @RectTrackerRatio.exchangeSides_positive box.rectTracker.orientation _ _
    sized.1 sized.2
  constructor
  · exact asked.fixedWidth ▸ sides.1
  · exact asked.fixedHeight ▸ sides.2
  · rw [asked.fixedWidth, asked.maxRect]
    exact fits.1
  · rw [asked.fixedHeight, asked.maxRect]
    exact fits.2
  · rw [asked.fixedWidth, asked.fixedHeight]
    exact asked.ratio

/-! ## Steps -/

section SameSettings

open RectTrackerRatio (SameSettings)

variable {tracker : RectTrackerRatio}

theorem isFixedSize_of_same (same : SameSettings box.rectTracker tracker)
    (fixed : tracker.isFixedSize = true) : box.rectTracker.isFixedSize = true := by
  unfold RectTrackerRatio.isFixedSize at fixed ⊢
  rw [← same.fixedWidth]
  exact fixed

theorem requested_of_same (same : SameSettings box.rectTracker tracker) :
    requested { box with rectTracker := tracker } = box.requested :=
  congrArg (exchangeSides · box.originalWidth box.originalHeight) same.orientation

theorem requestFits_of_same (same : SameSettings box.rectTracker tracker)
    (fits : RequestFits { box with rectTracker := tracker }) : box.RequestFits := by
  unfold RequestFits at fits
  rw [requested_of_same same] at fits
  exact fits

/-- The settings of the tracker are all that has to be right. -/
theorem Ready.carry (ready : box.Ready) (same : SameSettings box.rectTracker tracker) :
    Ready { box with rectTracker := tracker } := by
  refine ⟨ready.positive, ready.atMost, ?_, fun fixed => ?_, fun fixed one => ?_⟩
  · exact ready.bounded.imp same.maxRect.trans same.maxRect.trans
  · exact ready.sized (isFixedSize_of_same same fixed)
  · have asked := ready.asked (isFixedSize_of_same same fixed) one
    constructor
    · exact same.fixedWidth.trans (asked.fixedWidth.trans
        (congrArg Prod.fst (requested_of_same same).symm))
    · exact same.fixedHeight.trans (asked.fixedHeight.trans
        (congrArg Prod.snd (requested_of_same same).symm))
    · exact same.maxRect.trans asked.maxRect
    · rw [requested_of_same same]
      exact asked.ratio.congr same.ratio same.orientation

/-- A step of the tracker that keeps the settings and moves the rectangle. -/
theorem Kept.moves (kept : box.Kept) (same : SameSettings box.rectTracker tracker)
    (moves : RectTrackerRatio.Moves box.rectTracker tracker) :
    Kept { box with rectTracker := tracker } := by
  refine ⟨kept.toReady.carry same, fun fixed one fits => ?_⟩
  have before := isFixedSize_of_same same fixed
  have fits := requestFits_of_same same fits
  have fixing := (kept.asked before one).fixing (kept.sized before) fits
  exact fixing.moves same moves (kept.exact before one fits)

/-- An update makes ready settings take effect. -/
theorem Ready.update (ready : box.Ready) :
    Kept { box with rectTracker := box.rectTracker.update } := by
  have same : SameSettings box.rectTracker box.rectTracker.update := ⟨rfl, rfl, rfl, rfl, rfl⟩
  refine ⟨ready.carry same, fun fixed one fits _ _ => ?_⟩
  have before := isFixedSize_of_same same fixed
  exact ((ready.asked before one).fixing (ready.sized before)
    (requestFits_of_same same fits)).update

end SameSettings

theorem Kept.setRatio (kept : box.Kept) (ratio : ℚ) : (box.setRatio ratio).Kept := by
  have loose : (box.rectTracker.setRatio ratio).isFixedSize = false := rfl
  have ready : Ready { box with rectTracker := box.rectTracker.setRatio ratio } :=
    ⟨kept.positive, kept.atMost, kept.bounded, fun fixed => by simp [loose] at fixed,
      fun fixed => by simp [loose] at fixed⟩
  exact ready.update

theorem maxRect_at_one (ready : box.Ready) (one : box.scale = 1)
    (set : box.rectTracker.maxRect ≠ nullRect) : box.rectTracker.maxRect = box.imageRect := by
  have scaled := ready.bounded.resolve_left set
  rwa [one, scaledRect_one] at scaled

theorem Kept.setFixedSize (kept : box.Kept) {width height : Int} (wide : 0 < width)
    (high : 0 < height) (inStep : InStep (.setFixedSize width height) box) :
    (box.setFixedSize width height).Kept := by
  have ready : Ready
      { box with
        originalWidth := width
        originalHeight := height
        rectTracker := box.rectTracker.setFixedSize
          (truncate (width * box.scale)) (truncate (height * box.scale)) } := by
    rw [RectTrackerRatio.setFixedSize_eq]
    refine ⟨kept.positive, kept.atMost, kept.bounded, fun _ => ⟨wide, high⟩, fun _ one => ?_⟩
    have one : box.scale = 1 := one
    obtain ⟨set, ratio⟩ := inStep one
    have maxRect := maxRect_at_one kept.toReady one set
    simp only [one, mul_one, truncate_intCast]
    exact ⟨rfl, rfl, maxRect, ratio⟩
  exact ready.update

theorem Kept.setOrientation (kept : box.Kept) {orientation : Int}
    (inStep : InStep (.setOrientation orientation) box) :
    (box.setOrientation orientation).Kept := by
  have ready : Ready
      { box with rectTracker := box.rectTracker.setOrientation orientation } := by
    by_cases fixed : box.rectTracker.isFixedSize = true
    · have width : box.rectTracker.fixedWidth ≠ -1 := by
        simpa [RectTrackerRatio.isFixedSize] using fixed
      simp only [RectTrackerRatio.setOrientation, if_pos width]
      rw [RectTrackerRatio.setFixedSize_eq]
      refine ⟨kept.positive, kept.atMost, kept.bounded, fun _ => kept.sized fixed,
        fun _ one => ?_⟩
      obtain ⟨regained, ratio⟩ := inStep fixed one
      have asked := kept.asked fixed one
      have sides : exchangeSides orientation box.rectTracker.fixedWidth
          box.rectTracker.fixedHeight =
            exchangeSides orientation box.originalWidth box.originalHeight := by
        rcases or_assoc.mpr regained with forced | ⟨same, also⟩
        · rw [asked.fixedWidth, asked.fixedHeight]
          exact RectTrackerRatio.exchangeSides_again forced _ _ _
        · rw [same, also]
      exact ⟨congrArg Prod.fst sides, congrArg Prod.snd sides, asked.maxRect, ratio⟩
    · have width : box.rectTracker.fixedWidth = -1 := by
        simpa [RectTrackerRatio.isFixedSize] using fixed
      simp only [RectTrackerRatio.setOrientation, width, ne_eq, not_true_eq_false, if_false]
      exact ⟨kept.positive, kept.atMost, kept.bounded,
        fun other => by simp [RectTrackerRatio.isFixedSize] at other,
        fun other => by simp [RectTrackerRatio.isFixedSize] at other⟩
  exact ready.update

theorem Kept.setImage (kept : box.Kept) {width height : Nat} {scale : ℚ} (positive : 0 < scale)
    (atMost : scale ≤ 1) (inStep : InStep (.setImage width height scale) box) :
    (box.setImage width height scale).Kept := by
  have sized := scaledRect_sized { box with imageWidth := width, imageHeight := height, scale }
    positive
  have ready : Ready
      { box with
        imageWidth := width
        imageHeight := height
        scale
        rectTracker := box.rectTracker.withMaxRect
          (scaledRect { box with imageWidth := width, imageHeight := height, scale } scale) } := by
    rw [RectTrackerRatio.withMaxRect_of_sized sized]
    refine ⟨positive, atMost, .inr rfl, kept.sized, fun fixed one => ?_⟩
    have asked := kept.asked fixed (inStep fixed one)
    refine ⟨asked.fixedWidth, asked.fixedHeight, ?_, asked.ratio⟩
    have one : scale = 1 := one
    rw [one]
    exact scaledRect_one _
  exact ready.update

/-- The settings a tracker keeps when its max rect is set. -/
structure SameMode (tracker next : RectTrackerRatio) : Prop where
  ratio : next.ratio = tracker.ratio
  orientation : next.orientation = tracker.orientation
  fixedWidth : next.fixedWidth = tracker.fixedWidth
  fixedHeight : next.fixedHeight = tracker.fixedHeight

/-- Setting the scaled image as the max rect of a tracker in the same mode. -/
theorem Kept.bounds (kept : box.Kept) {scale : ℚ} (positive : 0 < scale) (atMost : scale ≤ 1)
    (inStep : box.rectTracker.isFixedSize = true → scale = 1 → box.scale = 1)
    {tracker : RectTrackerRatio} (mode : SameMode box.rectTracker tracker) :
    Kept { box with
      scale, rectTracker := tracker.setMaxRect (box.scaledRect scale) } := by
  have ready : Ready { box with
      scale, rectTracker := tracker.withMaxRect (box.scaledRect scale) } := by
    rw [RectTrackerRatio.withMaxRect_of_sized (scaledRect_sized box positive)]
    have before (fixed : tracker.isFixedSize = true) : box.rectTracker.isFixedSize = true := by
      unfold RectTrackerRatio.isFixedSize at fixed ⊢
      rw [← mode.fixedWidth]
      exact fixed
    refine ⟨positive, atMost, .inr rfl, fun fixed => kept.sized (before fixed),
      fun fixed one => ?_⟩
    have asked := kept.asked (before fixed) (inStep (before fixed) one)
    have request := congrArg (exchangeSides · box.originalWidth box.originalHeight)
      mode.orientation
    have one : scale = 1 := one
    constructor
    · exact mode.fixedWidth.trans (asked.fixedWidth.trans (congrArg Prod.fst request).symm)
    · exact mode.fixedHeight.trans (asked.fixedHeight.trans (congrArg Prod.snd request).symm)
    · rw [one]
      exact scaledRect_one box
    · have ratio := asked.ratio
      simp only [requested] at ratio ⊢
      rw [mode.orientation]
      exact ratio.congr mode.ratio rfl
  exact ready.update

/-- A zoom sets the scaled size without an update; at the scale one it is the old size. -/
theorem Kept.rescale (kept : box.Kept) :
    Kept { box with
      rectTracker :=
        if box.rectTracker.isFixedSize then
          box.rectTracker.setFixedSize
            (truncate (box.originalWidth * box.scale)) (truncate (box.originalHeight * box.scale))
        else box.rectTracker } := by
  by_cases fixed : box.rectTracker.isFixedSize = true
  · rw [if_pos fixed, RectTrackerRatio.setFixedSize_eq]
    by_cases one : box.scale = 1
    · have asked := kept.asked fixed one
      simp only [one, mul_one, truncate_intCast]
      have width : (exchangeSides box.rectTracker.orientation box.originalWidth
        box.originalHeight).1 = box.rectTracker.fixedWidth := asked.fixedWidth.symm
      have height : (exchangeSides box.rectTracker.orientation box.originalWidth
        box.originalHeight).2 = box.rectTracker.fixedHeight := asked.fixedHeight.symm
      rw [width, height, ← one]
      exact kept
    · exact ⟨⟨kept.positive, kept.atMost, kept.bounded, fun _ => kept.sized fixed,
        fun _ other => absurd other one⟩, fun _ other => absurd other one⟩
  · rw [if_neg fixed]
    exact kept

theorem scaleTracker_mode (box : RatioImageBox) (ratio : ℚ) :
    SameMode box.rectTracker (box.scaleTracker ratio) := by
  unfold scaleTracker
  dsimp only
  split_ifs
  · exact ⟨rfl, rfl, rfl, rfl⟩
  · exact ⟨rfl, rfl, rfl, rfl⟩

/-- A zoom keeps the box in step. -/
theorem Kept.adjustTrackerSize (kept : box.Kept) {scale : ℚ} (positive : 0 < scale)
    (atMost : scale ≤ 1)
    (inStep : box.rectTracker.isFixedSize = true → scale = 1 → box.scale = 1) (ratio : ℚ) :
    (RatioImageBox.adjustTrackerSize { box with scale } ratio).Kept := by
  have mode : SameMode box.rectTracker (scaleTracker { box with scale } ratio) :=
    scaleTracker_mode { box with scale } ratio
  exact (kept.bounds positive atMost inStep mode).rescale

theorem Kept.onResize (kept : box.Kept) {scale : ℚ} (positive : 0 < scale)
    (atMost : scale ≤ 1) (inStep : InStep (.onResize scale) box) :
    (box.onResize scale).Kept := by
  unfold RatioImageBox.onResize
  dsimp only
  by_cases same : box.scale = scale
  · rw [if_neg fun resized => resized.2.2 same, ← same]
    exact kept
  · rw [if_pos ⟨positive, kept.positive, same⟩]
    exact kept.adjustTrackerSize positive atMost inStep _

theorem Kept.setScale (kept : box.Kept) {scale : ℚ} (positive : 0 < scale)
    (atMost : scale ≤ 1) (inStep : InStep (.setScale scale) box) :
    (box.setScale scale).Kept := by
  unfold RatioImageBox.setScale
  dsimp only
  rw [if_pos kept.positive]
  exact kept.adjustTrackerSize positive atMost inStep _

theorem Kept.trackerReset (kept : box.Kept) : box.trackerReset.Kept := by
  have same : RectTrackerRatio.SameSettings box.rectTracker
      { box.rectTracker with rect := ⟨0, 0, 0, 0⟩ } := ⟨rfl, rfl, rfl, rfl, rfl⟩
  exact ⟨kept.toReady.carry same, fun _ _ _ wide => absurd wide (lt_irrefl 0)⟩

/-- The tracker that reads the zone, in the image at its own size. -/
theorem zoneTracker_eq (box : RatioImageBox) :
    (box.rectTracker.setMaxRect box.imageRect).setFixedSize
        box.originalWidth box.originalHeight =
      { (box.rectTracker.setMaxRect box.imageRect) with
        maxRect := box.imageRect
        fixedWidth := box.requested.1
        fixedHeight := box.requested.2 } := by
  rw [RectTrackerRatio.setFixedSize_eq]
  unfold RectTrackerRatio.setMaxRect
  rw [RectTrackerRatio.withMaxRect_of_sized (imageRect_sized box)]
  rfl

/-- Below the scale one, reading the zone leaves another rectangle and the same bounds. -/
theorem Kept.getSelectedZone (kept : box.Kept) : box.getSelectedZone.1.Kept := by
  unfold RatioImageBox.getSelectedZone
  dsimp only
  rw [if_neg (not_lt.mpr kept.positive.le)]
  split_ifs with contracted
  · rw [RectTrackerRatio.setFixedSize_eq, RectTrackerRatio.setMaxRect,
      RectTrackerRatio.withMaxRect_of_sized (scaledRect_sized box kept.positive)]
    have below : box.scale ≠ 1 := contracted.2.ne
    exact ⟨⟨kept.positive, kept.atMost, .inr rfl, fun _ => kept.sized contracted.1,
      fun _ one => absurd one below⟩, fun _ one => absurd one below⟩
  · exact kept

theorem Kept.input (kept : box.Kept) {event : RectTrackerRatio.Event}
    {tracker : RectTrackerRatio} (input : event.isInput = true)
    (executed : RectTrackerRatio.step event box.rectTracker = some tracker) :
    Kept { box with rectTracker := tracker } := by
  obtain ⟨same, moves⟩ := RectTrackerRatio.input_moves input executed
  exact kept.moves same moves

/-- Every admitted step keeps the box. -/
theorem step_kept {event : Event} (admitted : Admitted event box)
    (executed : step event box = some next) (kept : box.Kept) : next.Kept := by
  obtain ⟨proper, inStep, -⟩ := admitted
  cases event with
  | setRatio ratio =>
      cases executed
      exact kept.setRatio ratio
  | setFixedSize width height =>
      cases executed
      exact kept.setFixedSize proper.1 proper.2 inStep
  | setOrientation orientation =>
      cases executed
      exact kept.setOrientation inStep
  | setScale scale =>
      cases executed
      exact kept.setScale proper.1 proper.2 inStep
  | onResize scale =>
      cases executed
      exact kept.onResize proper.1 proper.2 inStep
  | setImage width height scale =>
      cases executed
      exact kept.setImage proper.1 proper.2 inStep
  | trackerReset =>
      cases executed
      exact kept.trackerReset
  | getSelectedZone =>
      cases executed
      exact kept.getSelectedZone
  | input event =>
      obtain ⟨input, executed⟩ := Option.ite_none_right_eq_some.mp executed
      obtain ⟨tracker, received, rfl⟩ := Option.map_eq_some_iff.mp executed
      exact kept.input input received

/-! ## The selected zone -/

/-- The zone has the size asked for and lies in the image. -/
theorem Kept.zone (kept : box.Kept) (fixed : box.rectTracker.isFixedSize = true)
    (wide : 0 < box.rectTracker.rect.width) (high : 0 < box.rectTracker.rect.height)
    (fits : box.RequestFits) :
    box.getSelectedZone.2.width = box.requested.1 ∧
      box.getSelectedZone.2.height = box.requested.2 ∧
      box.getSelectedZone.2.Inside box.imageRect := by
  unfold RatioImageBox.getSelectedZone
  dsimp only
  rw [if_neg (not_lt.mpr kept.positive.le)]
  rcases kept.atMost.lt_or_eq with below | one
  · -- The rectangle is readjusted to the size asked for.
    rw [if_pos ⟨fixed, below⟩, zoneTracker_eq]
    obtain ⟨wide, high⟩ := @RectTrackerRatio.exchangeSides_positive
      box.rectTracker.orientation _ _ (kept.sized fixed).1 (kept.sized fixed).2
    exact ⟨rfl, rfl, RectTrackerRatio.adjustFixed_inside wide.le high.le fits.1 fits.2 _⟩
  · -- The rectangle of the tracker is the zone.
    rw [if_neg fun contracted => contracted.2.ne one]
    simp only [one, div_one, truncate_intCast]
    obtain ⟨width, height, inside⟩ := kept.exact fixed one fits wide high
    have asked := kept.asked fixed one
    exact ⟨width.trans asked.fixedWidth, height.trans asked.fixedHeight, asked.maxRect ▸ inside⟩

/-- In every admitted run the zone of a fixed-size crop has the size asked for. -/
theorem fixed_zone_exact {last : RatioImageBox} (run : Run step Admitted create last)
    (fixed : last.rectTracker.isFixedSize = true)
    (wide : 0 < last.rectTracker.rect.width) (high : 0 < last.rectTracker.rect.height)
    (fits : last.RequestFits) :
    last.getSelectedZone.2.width = last.requested.1 ∧
      last.getSelectedZone.2.height = last.requested.2 ∧
      last.getSelectedZone.2.Inside last.imageRect := by
  have kept : last.Kept := run.invariant step_kept create_kept
  exact kept.zone fixed wide high fits

/-- Crop to a fixed size below the scale one, then at that scale, upright, and move the crop. -/
def cropping : List Event :=
  [.setImage 100 80 (1 / 2), .setFixedSize 30 20, .getSelectedZone, .setRatio 0, .setScale 1,
    .setFixedSize 30 20, .setOrientation (-1), .input (.leftDown ⟨10, 10⟩),
    .input (.motion ⟨200, 60⟩ true true), .input .leftUp]

/-- The state `cropping` ends in. -/
def cropped : RatioImageBox where
  imageWidth := 100
  imageHeight := 80
  scale := 1
  originalWidth := 30
  originalHeight := 20
  rectTracker :=
    { RectTrackerRatio.create with
      rect := ⟨80, 50, 20, 30⟩
      maxRect := ⟨0, 0, 100, 80⟩
      prevRect := ⟨80, 50, 20, 30⟩
      curRect := ⟨80, 50, 20, 30⟩
      orientation := -1
      fixedWidth := 20
      fixedHeight := 30 }

theorem cropped_zone_exact :
    cropped.getSelectedZone.2.width = cropped.requested.1 ∧
      cropped.getSelectedZone.2.height = cropped.requested.2 ∧
      cropped.getSelectedZone.2.Inside cropped.imageRect :=
  fixed_zone_exact
    (Run.ofChecked
      (show checkedRun step Admitted cropping create = some cropped by decide +kernel))
    (by decide) (by decide) (by decide) (by decide)

/-- A fixed size after a ratio, for an image at its own size. -/
def ratioFirst : List Event :=
  [.setImage 100 80 1, .setRatio (4 / 3), .setFixedSize 30 20]

/-- The ratio of the earlier mode still changes the size. -/
theorem ratio_shrinks_fixed_zone :
    ∃ last, Run step (fun event _ => Proper event) create last ∧
      last.rectTracker.isFixedSize = true ∧ 0 < last.rectTracker.rect.width ∧
      0 < last.rectTracker.rect.height ∧ last.RequestFits ∧
      ¬(last.getSelectedZone.2.width = last.requested.1 ∧
        last.getSelectedZone.2.height = last.requested.2 ∧
        last.getSelectedZone.2.Inside last.imageRect) := by
  refine ⟨{ cropped with
      rectTracker :=
        { RectTrackerRatio.create with
          rect := ⟨4, 0, 26, 20⟩
          maxRect := ⟨0, 0, 100, 80⟩
          curRect := ⟨4, 0, 26, 20⟩
          ratio := 4 / 3
          fixedWidth := 30
          fixedHeight := 20 } },
    Run.ofChecked (?_ : checkedRun step _ ratioFirst _ = _), by decide, by decide, by decide,
    by decide, ?_⟩ <;>
    decide +kernel

/-- A zoom to the scale one leaves the rectangle of the smaller scale. -/
example : (runEvents step [.setImage 100 80 (1 / 2), .setFixedSize 30 20, .setScale 1]
    create).map (·.getSelectedZone.2) = some ⟨15, 10, 15, 10⟩ := by
  decide +kernel

end RatioImageBox

end RPhoto.Tracker
