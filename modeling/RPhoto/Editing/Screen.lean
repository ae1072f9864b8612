import RPhoto.Editing.UndoHistory
import RPhoto.Tracker.DisplayBox

/-!
# The screen

The document frame together with its image box, and the whole snapshot: besides
the document it keeps the two tracker rectangles, in pixels of the display, and the
scale setting.  The corners of the line are not kept.
-/

namespace RPhoto.Editing

open RPhoto.Jpeg RPhoto.Library RPhoto.Tracker

variable {Pixels : Type}

/-- The frame and its image box. -/
structure Screen (Pixels : Type) where
  frame : Frame Pixels
  box : DisplayBox

/-- `GetWidth` and `GetHeight`; an image that is not valid has no size. -/
def shownSize (size : Image Pixels → Nat × Nat) (image : Option (Image Pixels)) : Nat × Nat :=
  match image with
  | some image => size image
  | none => (0, 0)

/-- `rpImage` with its fields for the image box. -/
structure ScreenImage (Pixels : Type) extends RpImage Pixels where
  rectTracker : Rect
  lineTracker : Rect
  scale : ScaleSetting

/-- `rpImage::save`. -/
def ScreenImage.save (screen : Screen Pixels) : ScreenImage Pixels where
  toRpImage := .save screen.frame.toDocument
  rectTracker := screen.box.rectTracker.rect
  lineTracker := screen.box.lineTracker.rect
  scale := screen.box.scaleV

/-- The calls of `rpImage::restore` on the image box. -/
def ScreenImage.restoreBox (wx : Wx Pixels) (size : Image Pixels → Nat × Nat)
    (snapshot : ScreenImage Pixels) (files : FileStore FileName Bytes) (box : DisplayBox) :
    DisplayBox :=
  let (width, height) := shownSize size (snapshot.restoredImage wx files)
  let box := box.setImage width height
  let box := box.setUnscrolledRects snapshot.rectTracker snapshot.lineTracker
  let box := box.setModeInclinaison snapshot.isInclinaison
  box.setScale snapshot.scale

/-- `rpImage::restore`. -/
def ScreenImage.restore (wx : Wx Pixels) (size : Image Pixels → Nat × Nat)
    (snapshot : ScreenImage Pixels) (screen : Screen Pixels) : Option (Screen Pixels) :=
  (snapshot.toRpImage.restore wx screen.frame).map fun frame =>
    { frame, box := snapshot.restoreBox wx size screen.frame.files screen.box }

/-! ## What the user sees again -/

/-- Two positions in the image, in display pixels of the same or of different scales, are the
same up to one pixel of the second display. -/
def SamePosition (before after : ℚ) (position other : Int) : Prop :=
  |position / before - other / after| ≤ 1 / after

/-- The two boxes select the same zone of the image. -/
structure SameZone (before after : DisplayBox) : Prop where
  x : SamePosition before.scale after.scale before.rectTracker.rect.x after.rectTracker.rect.x
  y : SamePosition before.scale after.scale before.rectTracker.rect.y after.rectTracker.rect.y
  width : SamePosition before.scale after.scale before.rectTracker.rect.width
    after.rectTracker.rect.width
  height : SamePosition before.scale after.scale before.rectTracker.rect.height
    after.rectTracker.rect.height

/-- What was saved has been put back. -/
structure PutsBack (saved back : Screen Pixels) : Prop where
  sOriginalFilename : back.frame.sOriginalFilename = saved.frame.sOriginalFilename
  sFilename : back.frame.sFilename = saved.frame.sFilename
  bTemp : back.frame.bTemp = saved.frame.bTemp
  bDirty : back.frame.bDirty = saved.frame.bDirty
  bJPEGlossless : back.frame.bJPEGlossless = saved.frame.bJPEGlossless
  image : saved.frame.bJPEGlossless = false → back.frame.image = saved.frame.image
  mode : back.frame.isInclinaison = saved.frame.isInclinaison
  scaleSetting : back.box.scaleV = saved.box.scaleV
  lineBegin : back.box.lineTracker.posBegin = saved.box.lineTracker.posBegin
  lineEnd : back.box.lineTracker.posEnd = saved.box.lineTracker.posEnd
  zone : SameZone saved.box back.box

/-! ## Rectangles at rest -/

/-- `Update` in a max rect leaves a rectangle as it is. -/
def AtRest (tracker : RectTrackerRatio) (rect maxRect : Rect) : Prop :=
  RectTrackerRatio.adjustTrackerRect { tracker with maxRect } rect .outside = rect

instance (tracker : RectTrackerRatio) (rect maxRect : Rect) :
    Decidable (AtRest tracker rect maxRect) :=
  inferInstanceAs (Decidable (_ = _))

end RPhoto.Editing
