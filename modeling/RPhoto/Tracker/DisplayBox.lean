import RPhoto.Tracker.ImageBox
import RPhoto.Tracker.LineTracker

/-!
# The image box in its window

The image box with its scale setting, the size of its window and the line
tracker.  The program sets the scale to the size of the image or fits an image
that is larger than the window to it.  An image that is not valid has no size.
-/

namespace RPhoto.Tracker

open RPhoto.Library

/-- `m_scaleV`, for the two values the program sets. -/
inductive ScaleSetting where
  | realSize
  | fitToPageIfLarger
deriving DecidableEq, Repr

/-- The state of `wxRatioImageBox` and of its window. -/
structure DisplayBox extends RatioImageBox where
  scaleV : ScaleSetting
  pageWidth : Int
  pageHeight : Int
  lineTracker : LineTracker
deriving DecidableEq, Repr

/-- The scale that fits an image to the window; a window without a size leaves `scFIT_TO_PAGE`. -/
def fitToPage (pageWidth pageHeight : Int) (width height : Nat) : ℚ :=
  if pageWidth = 0 ∨ pageHeight = 0 then -1
  else
    let scale : ℚ := pageWidth / width
    if scale > pageHeight / height then pageHeight / height else scale

namespace DisplayBox

/-- `UpdateScaleValue` with the limit of `UpdatePaintBox`. -/
def displayScale (box : DisplayBox) (width height : Nat) : ℚ :=
  if width = 0 ∨ height = 0 then 1
  else
    match box.scaleV with
    | .realSize => 1
    | .fitToPageIfLarger =>
        let scale := fitToPage box.pageWidth box.pageHeight width height
        if scale > 1 then 1 else scale

/-- `UpdateTracker`, which sets the max rect of both trackers. -/
def updateTracker (box : DisplayBox) : DisplayBox :=
  { box with
    toRatioImageBox := box.toRatioImageBox.updateTracker
    lineTracker := box.lineTracker.setMaxRect (box.scaledRect box.scale) }

/-- `SetImage`. -/
def setImage (box : DisplayBox) (width height : Nat) : DisplayBox :=
  updateTracker
    { box with
      imageWidth := width
      imageHeight := height
      scale := box.displayScale width height }

/-- `LoadFile`; a load that fails leaves the scale. -/
def loadFile (box : DisplayBox) (loads : Bool) (width height : Nat) : DisplayBox :=
  if loads then box.setImage width height
  else updateTracker { box with imageWidth := width, imageHeight := height }

/-- `TrackerReset`. -/
def trackerReset (box : DisplayBox) : DisplayBox :=
  { box with
    toRatioImageBox := box.toRatioImageBox.trackerReset
    lineTracker := { box.lineTracker with rect := ⟨0, 0, 0, 0⟩ } }

/-- `SetScale`. -/
def setScale (box : DisplayBox) (scaleV : ScaleSetting) : DisplayBox :=
  let newScale := displayScale { box with scaleV } box.imageWidth box.imageHeight
  { box with
    scaleV
    toRatioImageBox := box.toRatioImageBox.setScale newScale
    lineTracker :=
      if box.scale > 0 then
        box.lineTracker.adjustTrackerSize (newScale / box.scale) box.imageRect
          (box.scaledRect newScale)
      else box.lineTracker }

/-- `SetModeInclinaison`: disabling a tracker updates it, enabling one does not. -/
def setModeInclinaison (box : DisplayBox) (state : Bool) : DisplayBox :=
  if state then { box with rectTracker := box.rectTracker.disable }
  else
    { box with
      rectTracker := box.rectTracker.enable
      lineTracker := box.lineTracker.update }

/-- `GetSelectedZone`. -/
def getSelectedZone (box : DisplayBox) : DisplayBox × Rect :=
  let zone := box.toRatioImageBox.getSelectedZone
  ({ box with toRatioImageBox := zone.1 }, zone.2)

/-- The two `SetUnscrolledRect` calls of a restored snapshot. -/
def setUnscrolledRects (box : DisplayBox) (rect line : Rect) : DisplayBox :=
  { box with
    rectTracker := { box.rectTracker with rect }
    lineTracker := { box.lineTracker with rect := line } }

/-! ## The selected zone -/

/-- `GetSelectedZone` returns a zone that can be cropped. -/
def Selects (box : DisplayBox) : Prop :=
  0 < box.getSelectedZone.2.width ∧ 0 < box.getSelectedZone.2.height

instance (box : DisplayBox) : Decidable box.Selects :=
  inferInstanceAs (Decidable (_ ∧ _))

/-- No fixed size is forced on the selected zone, whatever image is shown. -/
def Unforced (box : DisplayBox) : Prop :=
  box.rectTracker.isFixedSize = false ∨ (box.scaleV = .realSize ∧ box.scale = 1)

instance (box : DisplayBox) : Decidable box.Unforced :=
  inferInstanceAs (Decidable (_ ∨ _))

variable {box next : DisplayBox}

/-- The scale, its setting and the fixed size decide. -/
theorem Unforced.congr (unforced : box.Unforced)
    (fixedWidth : next.rectTracker.fixedWidth = box.rectTracker.fixedWidth)
    (scaleV : next.scaleV = box.scaleV) (scale : next.scale = box.scale) : next.Unforced := by
  unfold Unforced RectTrackerRatio.isFixedSize at *
  rw [fixedWidth, scaleV, scale]
  exact unforced

theorem Unforced.setImage (unforced : box.Unforced) (width height : Nat) :
    (box.setImage width height).Unforced := by
  rcases unforced with unfixed | ⟨realSize, -⟩
  · exact .inl unfixed
  · right
    refine ⟨realSize, ?_⟩
    show box.displayScale width height = 1
    unfold displayScale
    rw [realSize]
    exact ite_self 1

theorem Unforced.loadFile (unforced : box.Unforced) (loads : Bool) (width height : Nat) :
    (box.loadFile loads width height).Unforced := by
  cases loads with
  | true => exact unforced.setImage width height
  | false => exact unforced

/-- Reading the selected zone forces no fixed size at the scale in force. -/
def Free (box : DisplayBox) : Prop :=
  ¬(box.rectTracker.isFixedSize = true ∧
    (if box.scale < 0 then -box.scale else box.scale) < 1)

instance (box : DisplayBox) : Decidable box.Free :=
  inferInstanceAs (Decidable (¬_))

theorem Unforced.free (unforced : box.Unforced) : box.Free := by
  rintro ⟨fixed, smaller⟩
  rcases unforced with unfixed | ⟨-, one⟩
  · exact Bool.false_ne_true (unfixed.symm.trans fixed)
  · rw [one] at smaller
    exact absurd smaller (by decide)

/-- So reading it changes nothing. -/
theorem Free.getSelectedZone (free : box.Free) : box.getSelectedZone.1 = box := by
  unfold DisplayBox.getSelectedZone RatioImageBox.getSelectedZone
  dsimp only
  rw [if_neg free]

theorem Unforced.getSelectedZone (unforced : box.Unforced) : box.getSelectedZone.1 = box :=
  unforced.free.getSelectedZone

/-- After `TrackerReset` nothing is selected. -/
theorem Free.trackerReset_selects (free : box.Free) : ¬box.trackerReset.Selects := by
  have zone : box.trackerReset.getSelectedZone.2 = ⟨0, 0, 0, 0⟩ := by
    unfold DisplayBox.getSelectedZone RatioImageBox.getSelectedZone
    dsimp only
    refine (congrArg Prod.snd (if_neg free)).trans ?_
    simp [trackerReset, RatioImageBox.trackerReset]
  rintro ⟨wide, -⟩
  rw [zone] at wide
  exact lt_irrefl 0 wide

theorem Unforced.trackerReset_selects (unforced : box.Unforced) : ¬box.trackerReset.Selects :=
  unforced.free.trackerReset_selects

/-- The selection is the one that `TrackerReset` leaves, and no size is fixed. -/
def Cleared (box : DisplayBox) : Prop :=
  box.rectTracker.rect = ⟨0, 0, 0, 0⟩ ∧ box.rectTracker.fixedWidth = -1

instance (box : DisplayBox) : Decidable box.Cleared :=
  inferInstanceAs (Decidable (_ ∧ _))

theorem Cleared.unforced (cleared : box.Cleared) : box.Unforced := by
  left
  simp [RectTrackerRatio.isFixedSize, cleared.2]

theorem Cleared.not_selects (cleared : box.Cleared) : ¬box.Selects := by
  have same : box.trackerReset.toRatioImageBox = box.toRatioImageBox := by
    show { box.toRatioImageBox with rectTracker := { box.rectTracker with rect := ⟨0, 0, 0, 0⟩ } } =
      box.toRatioImageBox
    rw [← cleared.1]
  have reset : box.getSelectedZone.2 = box.trackerReset.getSelectedZone.2 :=
    congrArg (fun box : RatioImageBox => box.getSelectedZone.2) same.symm
  have unselected := cleared.unforced.trackerReset_selects
  unfold Selects at *
  rwa [reset]

/-- An empty rectangle in the corner of a max rect is placed there. -/
theorem placed_empty {tracker : RectTrackerRatio} (corner : tracker.maxRect.x = 0)
    (corner' : tracker.maxRect.y = 0) : tracker.Placed ⟨0, 0, 0, 0⟩ := by
  refine ⟨by decide, ?_, ?_⟩
  · rintro ⟨wide, high⟩
    constructor <;>
      simp only [Span.Within, Span.stop, Rect.horizontal, Rect.vertical, corner, corner'] <;>
      omega
  · intro _
    left
    simp [RectTrackerRatio.widthFor, chooseSide, enlarge, reduce]

/-- It stays there when the max rect changes, so a file can be loaded. -/
theorem Cleared.updateTracker (cleared : box.Cleared) : box.updateTracker.Cleared := by
  refine ⟨?_, cleared.2⟩
  show (box.rectTracker.setMaxRect (box.scaledRect box.scale)).rect = _
  unfold RectTrackerRatio.setMaxRect
  rw [RectTrackerRatio.update_rect]
  show (box.rectTracker.withMaxRect (box.scaledRect box.scale)).adjustTrackerRect
    box.rectTracker.rect .outside = _
  rw [cleared.1]
  exact RectTrackerRatio.adjust_of_placed cleared.2 (placed_empty rfl rfl)

theorem Cleared.loadFile (cleared : box.Cleared) (loads : Bool) (width height : Nat) :
    (box.loadFile loads width height).Cleared := by
  cases loads with
  | true => exact Cleared.updateTracker cleared
  | false => exact Cleared.updateTracker cleared

end DisplayBox

end RPhoto.Tracker
