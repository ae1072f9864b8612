import RPhoto.Editing.SampleWorld
import RPhoto.Editing.Screen

/-!
# The round trip of a snapshot

Restoring a snapshot sends its two rectangles through the setters of the image box.
As long as these neither move nor rescale them, what was saved is put back, except
for two things a snapshot does not keep: the corners where the line begins and ends,
and a comment that is being edited.
-/

namespace RPhoto.Editing

open RPhoto.Library RPhoto.Tracker

variable {Pixels : Type} {tracker next : RectTrackerRatio} {rect maxRect : Rect}

/-! ## Rectangles at rest -/

/-- The settings of a tracker that decide where a rectangle is at rest. -/
structure SameSettings (next tracker : RectTrackerRatio) : Prop where
  ratio : next.ratio = tracker.ratio
  orientation : next.orientation = tracker.orientation
  fixedWidth : next.fixedWidth = tracker.fixedWidth
  fixedHeight : next.fixedHeight = tracker.fixedHeight

theorem SameSettings.refl (tracker : RectTrackerRatio) : SameSettings tracker tracker :=
  ⟨rfl, rfl, rfl, rfl⟩

/-- Trackers with the same settings have the same rectangles at rest. -/
theorem AtRest.carry (rest : AtRest tracker rect maxRect) (settings : SameSettings next tracker) :
    AtRest next rect maxRect := by
  refine Eq.trans ?_ rest
  exact @RectTrackerRatio.adjustTrackerRect_congr { tracker with maxRect } { next with maxRect } rfl
    settings.ratio settings.orientation settings.fixedWidth settings.fixedHeight rect .outside

theorem AtRest.update (rest : AtRest tracker rect maxRect) (settings : SameSettings next tracker)
    (bounds : next.maxRect = maxRect) (shown : next.rect = rect) : next.update.rect = rect := by
  rw [RectTrackerRatio.update_rect, shown]
  subst bounds
  exact rest.carry settings

theorem setMaxRect_maxRect (tracker : RectTrackerRatio) (sized : maxRect.Sized) :
    (tracker.setMaxRect maxRect).maxRect = maxRect := by
  show (tracker.withMaxRect maxRect).maxRect = maxRect
  simp only [RectTrackerRatio.withMaxRect, if_neg (not_lt.mpr sized.1),
    if_neg (not_lt.mpr sized.2)]

theorem AtRest.setMaxRect (rest : AtRest tracker rect maxRect)
    (settings : SameSettings next tracker) (sized : maxRect.Sized) (shown : next.rect = rect) :
    (next.setMaxRect maxRect).rect = rect := by
  have bounds : (next.withMaxRect maxRect).maxRect = maxRect := by
    simp only [RectTrackerRatio.withMaxRect, if_neg (not_lt.mpr sized.1),
      if_neg (not_lt.mpr sized.2)]
  have same : SameSettings (next.withMaxRect maxRect) tracker :=
    ⟨settings.ratio, settings.orientation, settings.fixedWidth, settings.fixedHeight⟩
  exact rest.update same bounds shown

@[simp] theorem scaleRect_one (rect : Rect) : RatioImageBox.scaleRect rect 1 = rect := by
  simp [RatioImageBox.scaleRect]

/-! ## The setters of the box -/

section Setters

variable {box : DisplayBox} {width height : Nat} {scale : ℚ}

theorem imageRect_sized (box : RatioImageBox) : box.imageRect.Sized :=
  ⟨Int.natCast_nonneg _, Int.natCast_nonneg _⟩

theorem scaledRect_sized (box : RatioImageBox) (nonneg : 0 ≤ scale) :
    (box.scaledRect scale).Sized := by
  constructor
  · exact truncate_nonneg (mul_nonneg (Nat.cast_nonneg _) nonneg)
  · exact truncate_nonneg (mul_nonneg (Nat.cast_nonneg _) nonneg)

/-- An image is never shown larger than it is. -/
theorem displayScale_le_one (box : DisplayBox) (width height : Nat) :
    box.displayScale width height ≤ 1 := by
  unfold DisplayBox.displayScale
  split
  · exact le_rfl
  · cases box.scaleV with
    | realSize => exact le_rfl
    | fitToPageIfLarger =>
        dsimp only
        split
        · exact le_rfl
        · rename_i larger
          exact not_lt.mp larger

/-- What is inside the displayed image is inside the image. -/
theorem inside_imageRect (box : RatioImageBox) (nonneg : 0 ≤ scale) (atMost : scale ≤ 1)
    (inside : rect.Inside (box.scaledRect scale)) : rect.Inside box.imageRect := by
  have shorter (length : Nat) : truncate (length * scale) ≤ length := by
    have real : (0 : ℚ) ≤ length := Nat.cast_nonneg _
    have below := truncate_mono (mul_nonneg real nonneg) (mul_le_of_le_one_right real atMost)
    exact below.trans_eq (truncate_intCast length)
  have wide := shorter box.imageWidth
  have high := shorter box.imageHeight
  obtain ⟨columns, rows⟩ := inside
  simp only [Span.Within, Span.stop, Rect.horizontal, Rect.vertical,
    RatioImageBox.scaledRect] at columns rows
  constructor <;>
    simp only [Span.Within, Span.stop, Rect.horizontal, Rect.vertical,
      RatioImageBox.imageRect] <;>
    omega

theorem setModeInclinaison_rect (state : Bool)
    (rest : AtRest box.rectTracker box.rectTracker.rect box.rectTracker.maxRect) :
    (box.setModeInclinaison state).rectTracker.rect = box.rectTracker.rect := by
  cases state with
  | true =>
      apply @AtRest.update _ { box.rectTracker with mouseCaptured := false } _ _ rest
      · exact ⟨rfl, rfl, rfl, rfl⟩
      · rfl
      · rfl
  | false => rfl

theorem setModeInclinaison_settings (box : DisplayBox) (state : Bool) :
    SameSettings (box.setModeInclinaison state).rectTracker box.rectTracker := by
  cases state <;> exact ⟨rfl, rfl, rfl, rfl⟩

theorem setModeInclinaison_line (state : Bool)
    (inside : box.lineTracker.rect.Inside box.lineTracker.maxRect) :
    (box.setModeInclinaison state).lineTracker = box.lineTracker := by
  cases state with
  | true => rfl
  | false => exact LineTracker.update_of_inside inside

theorem setScale_scale (box : RatioImageBox) (scale : ℚ) : (box.setScale scale).scale = scale := by
  unfold RatioImageBox.setScale
  dsimp only
  split <;> rfl

/-- Going from a scale to the same scale leaves a rectangle that is at rest at both sizes. -/
theorem setScale_rect (positive : 0 < box.scale)
    (inImage : AtRest box.rectTracker box.rectTracker.rect box.imageRect)
    (inScaled : AtRest box.rectTracker box.rectTracker.rect (box.scaledRect box.scale)) :
    (box.toRatioImageBox.setScale box.scale).rectTracker.rect = box.rectTracker.rect := by
  have same : box.scale / box.scale = 1 := div_self positive.ne'
  have image := inImage.setMaxRect (SameSettings.refl _) (imageRect_sized box.toRatioImageBox) rfl
  have scaled : (box.toRatioImageBox.scaleTracker 1).rect = box.rectTracker.rect := by
    unfold RatioImageBox.scaleTracker
    dsimp only
    rw [if_pos one_ne_zero, scaleRect_one]
    apply inImage.update
    · exact ⟨rfl, rfl, rfl, rfl⟩
    · exact setMaxRect_maxRect box.rectTracker (imageRect_sized box.toRatioImageBox)
    · exact image
  have settings : SameSettings (box.toRatioImageBox.scaleTracker 1) box.rectTracker := by
    unfold RatioImageBox.scaleTracker
    rw [if_pos one_ne_zero]
    exact ⟨rfl, rfl, rfl, rfl⟩
  have last := inScaled.setMaxRect settings
    (scaledRect_sized box.toRatioImageBox positive.le) scaled
  unfold RatioImageBox.setScale
  dsimp only
  rw [if_pos positive, same]
  unfold RatioImageBox.adjustTrackerSize
  dsimp only
  refine Eq.trans ?_ last
  unfold RectTrackerRatio.setFixedSize
  split_ifs <;> rfl

/-- So does it leave the points of a line inside the displayed image. -/
theorem setScale_line {scaleV : ScaleSetting} (positive : 0 < box.scale)
    (same : DisplayBox.displayScale { box with scaleV } box.imageWidth box.imageHeight = box.scale)
    (atMost : box.scale ≤ 1) (diagonal : box.lineTracker.Diagonal)
    (wide : 0 < box.lineTracker.rect.width) (high : 0 < box.lineTracker.rect.height)
    (inside : box.lineTracker.rect.Inside (box.scaledRect box.scale)) :
    (box.setScale scaleV).lineTracker.posBegin = box.lineTracker.posBegin ∧
      (box.setScale scaleV).lineTracker.posEnd = box.lineTracker.posEnd := by
  have line : (box.setScale scaleV).lineTracker =
      box.lineTracker.adjustTrackerSize 1 box.imageRect (box.scaledRect box.scale) := by
    unfold DisplayBox.setScale
    dsimp only
    rw [if_pos positive, same, div_self positive.ne']
  rw [line]
  apply LineTracker.adjustTrackerSize_one diagonal wide high
  · exact imageRect_sized box.toRatioImageBox
  · exact scaledRect_sized box.toRatioImageBox positive.le
  · exact inside_imageRect box.toRatioImageBox positive.le atMost inside
  · exact inside

end Setters

/-! ## The round trip -/

section RoundTrip

variable {wx : Wx Pixels} {size : Image Pixels → Nat × Nat} {saved now back : Screen Pixels}

/-- The same window and the same settings, and the files of the snapshot are still there. -/
structure SameSession (saved now : Screen Pixels) : Prop where
  originalExists : now.frame.files.Holds saved.frame.sOriginalFilename
  fileExists : now.frame.files.Holds saved.frame.sFilename
  pageWidth : now.box.pageWidth = saved.box.pageWidth
  pageHeight : now.box.pageHeight = saved.box.pageHeight
  ratio : now.box.rectTracker.ratio = saved.box.rectTracker.ratio
  orientation : now.box.rectTracker.orientation = saved.box.rectTracker.orientation
  originalWidth : now.box.originalWidth = saved.box.originalWidth
  originalHeight : now.box.originalHeight = saved.box.originalHeight

/-- The restored image is shown at the scale it had, and the saved rectangles lie where the
trackers leave them. -/
structure Unclamped (wx : Wx Pixels) (size : Image Pixels → Nat × Nat)
    (saved now : Screen Pixels) : Prop where
  sameSize : shownSize size ((ScreenImage.save saved).restoredImage wx now.frame.files) =
    (saved.box.imageWidth, saved.box.imageHeight)
  shown : saved.box.displayScale saved.box.imageWidth saved.box.imageHeight = saved.box.scale
  sameScale : now.box.displayScale saved.box.imageWidth saved.box.imageHeight = saved.box.scale
  positive : 0 < saved.box.scale
  restImage : AtRest now.box.rectTracker saved.box.rectTracker.rect saved.box.imageRect
  restScaled : AtRest now.box.rectTracker saved.box.rectTracker.rect
    (saved.box.scaledRect saved.box.scale)
  drawn : now.box.lineTracker.Diagonal
  wide : 0 < saved.box.lineTracker.rect.width
  high : 0 < saved.box.lineTracker.rect.height
  inside : saved.box.lineTracker.rect.Inside (saved.box.scaledRect saved.box.scale)

/-- The corners of the line tracker in use are those of the saved line. -/
def KeepsCorners (saved now : Screen Pixels) : Prop :=
  saved.box.lineTracker.rect.posHandler now.box.lineTracker.beginHandler =
      saved.box.lineTracker.posBegin ∧
    saved.box.lineTracker.rect.posHandler now.box.lineTracker.endHandler =
      saved.box.lineTracker.posEnd

instance (saved now : Screen Pixels) : Decidable (KeepsCorners saved now) :=
  inferInstanceAs (Decidable (_ ∧ _))

/-- The box in which the saved rectangles have been set. -/
def rectsSet (saved now : Screen Pixels) : DisplayBox :=
  DisplayBox.setUnscrolledRects
    (now.box.setImage saved.box.imageWidth saved.box.imageHeight)
    saved.box.rectTracker.rect saved.box.lineTracker.rect

theorem Unclamped.restoreBox (unclamped : Unclamped wx size saved now) :
    (ScreenImage.save saved).restoreBox wx size now.frame.files now.box =
      ((rectsSet saved now).setModeInclinaison saved.frame.isInclinaison).setScale
        saved.box.scaleV := by
  unfold ScreenImage.restoreBox
  rw [unclamped.sameSize]
  rfl

/-- The box after `SetUnscrolledRect` has the size, the scale and the rectangles of the saved
one, and the settings and the corners of the present one. -/
structure LikeSaved (saved now : Screen Pixels) (box : DisplayBox) : Prop where
  imageWidth : box.imageWidth = saved.box.imageWidth
  imageHeight : box.imageHeight = saved.box.imageHeight
  scale : box.scale = saved.box.scale
  pageWidth : box.pageWidth = now.box.pageWidth
  pageHeight : box.pageHeight = now.box.pageHeight
  rect : box.rectTracker.rect = saved.box.rectTracker.rect
  settings : SameSettings box.rectTracker now.box.rectTracker
  line : box.lineTracker =
    { now.box.lineTracker with
      rect := saved.box.lineTracker.rect
      maxRect := saved.box.scaledRect saved.box.scale }

theorem Unclamped.rectsSet_like (unclamped : Unclamped wx size saved now) :
    LikeSaved saved now (rectsSet saved now) ∧
      (rectsSet saved now).rectTracker.maxRect = saved.box.scaledRect saved.box.scale := by
  have scale : (rectsSet saved now).scale = saved.box.scale := unclamped.sameScale
  have sized := @scaledRect_sized saved.box.scale saved.box.toRatioImageBox unclamped.positive.le
  have bounds : RatioImageBox.scaledRect
      { now.box.toRatioImageBox with
        imageWidth := saved.box.imageWidth
        imageHeight := saved.box.imageHeight
        scale := now.box.displayScale saved.box.imageWidth saved.box.imageHeight }
      (now.box.displayScale saved.box.imageWidth saved.box.imageHeight) =
        saved.box.scaledRect saved.box.scale := by
    rw [unclamped.sameScale]
    rfl
  have line : (rectsSet saved now).lineTracker =
      { now.box.lineTracker with
        rect := saved.box.lineTracker.rect
        maxRect := saved.box.scaledRect saved.box.scale } := by
    have stored := LineTracker.setMaxRect_maxRect now.box.lineTracker sized
    simp only [rectsSet, DisplayBox.setUnscrolledRects, DisplayBox.setImage,
      DisplayBox.updateTracker, bounds]
    rw [stored]
    rfl
  constructor
  · exact ⟨rfl, rfl, scale, rfl, rfl, rfl, ⟨rfl, rfl, rfl, rfl⟩, line⟩
  · refine Eq.trans ?_ (setMaxRect_maxRect now.box.rectTracker sized)
    rw [← bounds]
    rfl

/-- The mode changes none of that. -/
theorem Unclamped.moded_like (unclamped : Unclamped wx size saved now) (state : Bool) :
    LikeSaved saved now ((rectsSet saved now).setModeInclinaison state) := by
  obtain ⟨like, bounds⟩ := unclamped.rectsSet_like
  have rect : ((rectsSet saved now).setModeInclinaison state).rectTracker.rect =
      saved.box.rectTracker.rect := by
    refine (setModeInclinaison_rect state ?_).trans like.rect
    rw [like.rect, bounds]
    exact unclamped.restScaled.carry like.settings
  have line : ((rectsSet saved now).setModeInclinaison state).lineTracker =
      (rectsSet saved now).lineTracker := by
    apply setModeInclinaison_line
    rw [like.line]
    exact unclamped.inside
  have settings := setModeInclinaison_settings (rectsSet saved now) state
  refine ⟨?_, ?_, ?_, ?_, ?_, rect, ?_, line.trans like.line⟩
  · cases state <;> exact like.imageWidth
  · cases state <;> exact like.imageHeight
  · cases state <;> exact like.scale
  · cases state <;> exact like.pageWidth
  · cases state <;> exact like.pageHeight
  · exact ⟨settings.ratio.trans like.settings.ratio,
      settings.orientation.trans like.settings.orientation,
      settings.fixedWidth.trans like.settings.fixedWidth,
      settings.fixedHeight.trans like.settings.fixedHeight⟩

/-- What the setters leave: the saved rectangle, and the points that the present corners give. -/
theorem Unclamped.boxBack (unclamped : Unclamped wx size saved now)
    (session : SameSession saved now) :
    let box := (ScreenImage.save saved).restoreBox wx size now.frame.files now.box
    box.scale = saved.box.scale ∧ box.scaleV = saved.box.scaleV ∧
      box.rectTracker.rect = saved.box.rectTracker.rect ∧
      box.lineTracker.posBegin =
        saved.box.lineTracker.rect.posHandler now.box.lineTracker.beginHandler ∧
      box.lineTracker.posEnd =
        saved.box.lineTracker.rect.posHandler now.box.lineTracker.endHandler := by
  have like := unclamped.moded_like saved.frame.isInclinaison
  rw [unclamped.restoreBox]
  generalize (rectsSet saved now).setModeInclinaison saved.frame.isInclinaison = box at like
  have positive : 0 < box.scale := by
    rw [like.scale]
    exact unclamped.positive
  have atMost : box.scale ≤ 1 := by
    rw [like.scale, ← unclamped.shown]
    exact displayScale_le_one _ _ _
  have newScale : DisplayBox.displayScale { box with scaleV := saved.box.scaleV }
      box.imageWidth box.imageHeight = box.scale := by
    rw [like.imageWidth, like.imageHeight, like.scale, ← unclamped.shown]
    unfold DisplayBox.displayScale
    dsimp only
    rw [like.pageWidth, like.pageHeight, session.pageWidth, session.pageHeight]
  have image : box.imageRect = saved.box.imageRect := by
    simp only [RatioImageBox.imageRect, like.imageWidth, like.imageHeight]
  have scaled : box.scaledRect box.scale = saved.box.scaledRect saved.box.scale := by
    simp only [RatioImageBox.scaledRect, like.imageWidth, like.imageHeight, like.scale]
  have rest {maxRect : Rect}
      (atRest : AtRest now.box.rectTracker saved.box.rectTracker.rect maxRect) :
      AtRest box.rectTracker box.rectTracker.rect maxRect := by
    rw [like.rect]
    exact atRest.carry like.settings
  have shown : box.lineTracker.rect = saved.box.lineTracker.rect := by
    rw [like.line]
  have diagonal : box.lineTracker.Diagonal := by
    rw [like.line]
    exact unclamped.drawn
  refine ⟨(setScale_scale box.toRatioImageBox _).trans (newScale.trans like.scale), rfl, ?_, ?_⟩
  · have kept := @setScale_rect box positive (image ▸ rest unclamped.restImage)
      (scaled ▸ rest unclamped.restScaled)
    have chosen : (box.setScale saved.box.scaleV).rectTracker =
        (box.toRatioImageBox.setScale box.scale).rectTracker := by
      rw [← newScale]
      rfl
    rw [chosen, kept, like.rect]
  · have points := setScale_line positive newScale atMost diagonal
      (shown ▸ unclamped.wide) (shown ▸ unclamped.high)
      (by
        rw [shown, scaled]
        exact unclamped.inside)
    rw [points.1, points.2, like.line]
    exact ⟨rfl, rfl⟩

theorem samePosition_self {scale : ℚ} (positive : 0 < scale) (position : Int) :
    SamePosition scale scale position position := by
  unfold SamePosition
  rw [sub_self, abs_zero]
  exact (one_div_pos.mpr positive).le

/-- The files of the snapshot are there. -/
theorem SameSession.filesExist (session : SameSession saved now) :
    (ScreenImage.save saved).toRpImage.FilesExist now.frame.files :=
  ⟨session.originalExists, session.fileExists⟩

end RoundTrip

/-! ## A small screen -/

/-- Every image of the small world has 100 by 80 pixels. -/
def sampleSize : Image Jpeg.Bytes → Nat × Nat := fun _ => (100, 80)

/-- The box of the small screen with a selection and a line. -/
def sampleBox (scaleV : ScaleSetting) (scale : ℚ) (first last : Point) : DisplayBox where
  imageWidth := 100
  imageHeight := 80
  scale := scale
  originalWidth := 0
  originalHeight := 0
  rectTracker := { RectTrackerRatio.create with rect := ⟨10, 10, 20, 20⟩ }
  scaleV := scaleV
  pageWidth := 50
  pageHeight := 50
  lineTracker :=
    LineTracker.setTrackerPosition ⟨nullRect, nullRect, .none, .none⟩ first last

/-- A photo without a lossless mode, in the inclination mode, shown in its own size. -/
def lineScreen (first last : Point) : Screen Jpeg.Bytes where
  frame :=
    { emptyFrame sampleFiles with
      sOriginalFilename := photoA
      sFilename := photoA
      image := some ⟨[1], []⟩
      isInclinaison := true }
  box := sampleBox .realSize 1 first last

theorem photoA_held : sampleFiles.Holds photoA := by decide

theorem lineScreen_session (first last other next : Point) :
    SameSession (lineScreen first last) (lineScreen other next) :=
  ⟨photoA_held, photoA_held, rfl, rfl, rfl, rfl, rfl, rfl⟩

/-- A selection saved at half the size is halved again where the image is shown in full. -/
example :
    ((sampleBox .realSize 1 ⟨1, 1⟩ ⟨5, 5⟩).setUnscrolledRects ⟨10, 10, 20, 20⟩
      ⟨1, 1, 5, 5⟩ |>.setModeInclinaison false |>.setScale .fitToPageIfLarger).rectTracker.rect =
        ⟨5, 5, 10, 10⟩ := by
  decide +kernel

end RPhoto.Editing
