import RPhoto.Tracker.Selection

/-!
# The image box

`wxRatioImageBox` of `src/src/RatioImageBox.cpp` with its rectangle tracker.
The scale is the zoom factor the window ends up with; a window that fits the
image to the page gives a new one with every image.  The line tracker and the
scrolling are left out.
-/

namespace RPhoto.Tracker

open RPhoto.Library

/-- The state of `wxRatioImageBox`. -/
structure RatioImageBox where
  imageWidth : Nat
  imageHeight : Nat
  scale : ℚ
  originalWidth : Int
  originalHeight : Int
  rectTracker : RectTrackerRatio
deriving DecidableEq, Repr

namespace RatioImageBox

/-- The state the constructors leave. -/
def create : RatioImageBox where
  imageWidth := 2
  imageHeight := 2
  scale := 1
  originalWidth := 0
  originalHeight := 0
  rectTracker := RectTrackerRatio.create

/-- The image at its own size. -/
def imageRect (box : RatioImageBox) : Rect := ⟨0, 0, box.imageWidth, box.imageHeight⟩

/-- The image at a scale. -/
def scaledRect (box : RatioImageBox) (scale : ℚ) : Rect :=
  ⟨0, 0, truncate (box.imageWidth * scale), truncate (box.imageHeight * scale)⟩

def setRatio (box : RatioImageBox) (ratio : ℚ) : RatioImageBox :=
  { box with rectTracker := (box.rectTracker.setRatio ratio).update }

def setOrientation (box : RatioImageBox) (orientation : Int) : RatioImageBox :=
  { box with rectTracker := (box.rectTracker.setOrientation orientation).update }

def setFixedSize (box : RatioImageBox) (width height : Int) : RatioImageBox :=
  { box with
    originalWidth := width
    originalHeight := height
    rectTracker :=
      (box.rectTracker.setFixedSize
        (truncate (width * box.scale)) (truncate (height * box.scale))).update }

/-- Every component times a factor. -/
def scaleRect (rect : Rect) (factor : ℚ) : Rect :=
  ⟨truncate (rect.x * factor), truncate (rect.y * factor),
    truncate (rect.width * factor), truncate (rect.height * factor)⟩

/-- The first half of `AdjustTrackerSize`: the rectangle at the new scale. -/
def scaleTracker (box : RatioImageBox) (ratio : ℚ) : RectTrackerRatio :=
  -- Back to the maximal size, so that the new rectangle fits.
  let tracker := box.rectTracker.setMaxRect box.imageRect
  if ratio ≠ 0 then
    RectTrackerRatio.update { tracker with rect := scaleRect tracker.rect ratio }
  else tracker

def adjustTrackerSize (box : RatioImageBox) (ratio : ℚ) : RatioImageBox :=
  let tracker := (box.scaleTracker ratio).setMaxRect (box.scaledRect box.scale)
  { box with
    rectTracker :=
      if tracker.isFixedSize then
        tracker.setFixedSize
          (truncate (box.originalWidth * box.scale)) (truncate (box.originalHeight * box.scale))
      else tracker }

/-- `OnResize`, with the scale the window has after it. -/
def onResize (box : RatioImageBox) (curScale : ℚ) : RatioImageBox :=
  let prevScale := box.scale
  let box := { box with scale := curScale }
  if curScale > 0 ∧ prevScale > 0 ∧ prevScale ≠ curScale then
    box.adjustTrackerSize (curScale / prevScale)
  else box

/-- `SetScale`, with the scale the window has after it. -/
def setScale (box : RatioImageBox) (newScale : ℚ) : RatioImageBox :=
  let prevScale := box.scale
  let box := { box with scale := newScale }
  if prevScale > 0 then box.adjustTrackerSize (newScale / prevScale) else box

def updateTracker (box : RatioImageBox) : RatioImageBox :=
  { box with rectTracker := box.rectTracker.setMaxRect (box.scaledRect box.scale) }

/-- `SetImage`, with the scale the window has for the new image. -/
def setImage (box : RatioImageBox) (width height : Nat) (scale : ℚ) : RatioImageBox :=
  updateTracker { box with imageWidth := width, imageHeight := height, scale }

/-- `TrackerReset` sets the rectangle without an update. -/
def trackerReset (box : RatioImageBox) : RatioImageBox :=
  { box with rectTracker := { box.rectTracker with rect := ⟨0, 0, 0, 0⟩ } }

/-- `GetSelectedZone`, which readjusts the rectangle as if the scale were one. -/
def getSelectedZone (box : RatioImageBox) : RatioImageBox × Rect :=
  let ratio := if box.scale < 0 then -box.scale else box.scale
  let tracker := box.rectTracker
  let rect : Rect :=
    ⟨truncate (tracker.rect.x / ratio), truncate (tracker.rect.y / ratio),
      truncate (tracker.rect.width / ratio), truncate (tracker.rect.height / ratio)⟩
  if tracker.isFixedSize ∧ ratio < 1 then
    let tracker := tracker.setMaxRect box.imageRect
    let tracker := tracker.setFixedSize box.originalWidth box.originalHeight
    let rect := tracker.adjustTrackerRectFixed rect
    let tracker := tracker.setMaxRect (box.scaledRect ratio)
    let tracker :=
      tracker.setFixedSize
        (truncate (box.originalWidth * ratio)) (truncate (box.originalHeight * ratio))
    ({ box with rectTracker := tracker }, rect)
  else (box, rect)

end RatioImageBox

end RPhoto.Tracker
