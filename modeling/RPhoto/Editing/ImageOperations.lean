import RPhoto.Editing.LosslessTools

/-!
# Image operations

The handlers of the image menu.  Each has a lossless branch, which runs jpegtran
on a temporary copy, and a lossy one, which replaces the displayed image between
`BEGIN_IMAGE_MANIP` and `END_IMAGE_MANIP`.
-/

namespace RPhoto.Editing

open RPhoto.Jpeg RPhoto.Library RPhoto.Tracker

variable {Pixels : Type}

/-- `BEGIN_IMAGE_MANIP`: an undo point, and the options of the image are kept. -/
def beginImageManip (env : Environment Pixels) (frame : Frame Pixels) : Frame Pixels :=
  let frame := imageUndoPoint env frame
  { frame with
    imageOpts :=
      match frame.image with
      | some image => getImageOptions image.options
      | none => [] }

/-- The displayed image with the kept options it does not have. -/
def withImageOptions (saved : Options) (image : Option (Image Pixels)) :
    Option (Image Pixels) :=
  image.map fun image => { image with options := setImageOptions saved image.options }

/-- `END_IMAGE_MANIP`. -/
def endImageManip (frame : Frame Pixels) : Frame Pixels :=
  updateControlsState { frame with image := withImageOptions frame.imageOpts frame.image }

/-- `SetImage` of a transformation of the displayed image. -/
def setTransformed (wx : Wx Pixels) (transform : Transform) (frame : Frame Pixels) :
    Frame Pixels :=
  { frame with image := frame.image.map (wx.transform transform) }

/-- A lossy manipulation. -/
def imageManip (wx : Wx Pixels) (env : Environment Pixels) (transform : Transform)
    (frame : Frame Pixels) : Frame Pixels :=
  endImageManip (setTransformed wx transform (beginImageManip env frame))

/-- The branch on the lossless flag that the handlers share. -/
def losslessOrManip (wx : Wx Pixels) (env : Environment Pixels) (command : JpegtranCommand)
    (transform : Transform) (frame : Frame Pixels) : Frame Pixels :=
  if frame.bJPEGlossless then (callJPEGTranTryPerfect wx env command frame).1
  else imageManip wx env transform frame

/-- `OnImageCrop`; without a selected zone it only reports that. -/
def onImageCrop (wx : Wx Pixels) (env : Environment Pixels) (frame : Frame Pixels) :
    Frame Pixels :=
  let cropZone := (env frame).selectedZone
  if 0 < cropZone.width ∧ 0 < cropZone.height then
    losslessOrManip wx env (.crop cropZone) (.getSubImage cropZone) (dirty frame)
  else frame

/-- `OnImageRotateLeft`. -/
def onImageRotateLeft (wx : Wx Pixels) (env : Environment Pixels) (frame : Frame Pixels) :
    Frame Pixels :=
  losslessOrManip wx env .rotate270 (.rotate90 false) (dirty frame)

/-- `OnImageRotateRight`. -/
def onImageRotateRight (wx : Wx Pixels) (env : Environment Pixels) (frame : Frame Pixels) :
    Frame Pixels :=
  losslessOrManip wx env .rotate90 (.rotate90 true) (dirty frame)

/-- `OnImageFlipHorizontal`. -/
def onImageFlipHorizontal (wx : Wx Pixels) (env : Environment Pixels) (frame : Frame Pixels) :
    Frame Pixels :=
  losslessOrManip wx env .flipHorizontal (.mirror true) (dirty frame)

/-- `OnImageFlipVertical`; unlike the other handlers it does not call `Dirty`. -/
def onImageFlipVertical (wx : Wx Pixels) (env : Environment Pixels) (frame : Frame Pixels) :
    Frame Pixels :=
  losslessOrManip wx env .flipVertical (.mirror false) frame

/-- `OnImageJPEGOptimize`. -/
def onImageJPEGOptimize (wx : Wx Pixels) (env : Environment Pixels) (frame : Frame Pixels) :
    Frame Pixels :=
  let frame := dirty frame
  if frame.bJPEGlossless then (callJPEGTranTryPerfect wx env .optimize frame).1 else frame

/-- `OnImageJPEGProgressive`; it does not call `Dirty` either. -/
def onImageJPEGProgressive (wx : Wx Pixels) (env : Environment Pixels) (frame : Frame Pixels) :
    Frame Pixels :=
  if frame.bJPEGlossless then (callJPEGTranTryPerfect wx env .progressive frame).1 else frame

/-- Whether the line tracker is enabled and its line defines an angle. -/
def definesAngle (env : Environment Pixels) (frame : Frame Pixels) : Bool :=
  let (dx, dy) := (env frame).line
  frame.isInclinaison && dx ≠ 0 && dy ≠ 0 && dx ≠ -1 && dy ≠ -1

/-- `OnImageInclin` up to its automatic crop; the lossless flag is not looked at. -/
def inclineImage (wx : Wx Pixels) (env : Environment Pixels) (frame : Frame Pixels) :
    Frame Pixels :=
  let (dx, dy) := (env frame).line
  let frame := beginImageManip env (frame.record .inclination)
  let frame := setTransformed wx (.rotate dx dy) frame
  dirty (endImageManip { frame with isInclinaison := false })

/-- `OnImageInclin`. -/
def onImageInclin (wx : Wx Pixels) (env : Environment Pixels) (frame : Frame Pixels) :
    Frame Pixels :=
  if definesAngle env frame then
    let frame := inclineImage wx env frame
    if (env frame).bAutoRotateCrop then onImageCrop wx env frame else frame
  else frame

/-- `OnToolAction`. -/
def onToolAction (wx : Wx Pixels) (env : Environment Pixels) (frame : Frame Pixels) :
    Frame Pixels :=
  if frame.isInclinaison then onImageInclin wx env frame else onImageCrop wx env frame

/-- `OnModeInclin`; entering the mode switches the lossless mode off. -/
def onModeInclin (wx : Wx Pixels) (env : Environment Pixels) (frame : Frame Pixels) :
    Frame Pixels :=
  if frame.isInclinaison then updateControlsState (onImageInclin wx env frame)
  else
    let frame := { frame with isInclinaison := true }
    updateControlsState (if frame.bJPEGlossless then onToggleJPEGLossless frame else frame)

/-- `OnModeCrop`; leaving the inclination mode does not switch the lossless mode on again. -/
def onModeCrop (wx : Wx Pixels) (env : Environment Pixels) (frame : Frame Pixels) :
    Frame Pixels :=
  if frame.isInclinaison then updateControlsState { frame with isInclinaison := false }
  else updateControlsState (onImageCrop wx env frame)

/-- The part of `Resize` after the size has been found: an undo point, then the lossless mode
goes off. -/
def resize (wx : Wx Pixels) (env : Environment Pixels) (destWidth destHeight : Int)
    (frame : Frame Pixels) : Frame Pixels :=
  let frame := dirty (beginImageManip env frame)
  let frame := if frame.bJPEGlossless then onToggleJPEGLossless frame else frame
  endImageManip (setTransformed wx (.scale destWidth destHeight) frame)

/-- The call of wrjpgcom, and whether it returned 0. -/
def callWrjpgcom (wx : Wx Pixels) (env : Environment Pixels) (oldFilename : FileName)
    (frame : Frame Pixels) : Frame Pixels × Bool :=
  let written := (frame.files.content oldFilename).map fun data =>
    (env frame).wrjpgcom data (wx.toBytes frame.textComment)
  let succeeded := written.any fun result => result.1 = 0
  ({ frame.record (.wrjpgcom succeeded) with
      files := writeOutcome frame.sFilename (written.map Prod.snd) frame.files },
    succeeded)

/-- The lossless branch of `OnImageWriteComment`; a failing wrjpgcom is followed by a copy. -/
def writeCommentLossless (wx : Wx Pixels) (env : Environment Pixels) (frame : Frame Pixels) :
    Frame Pixels :=
  let frame := imageUndoPoint env frame
  let oldFilename := sourceFilename frame.toDocument
  let (frame, succeeded) := callWrjpgcom wx env oldFilename (switchToTemp env frame)
  updateControlsState
    (if succeeded then boxLoadFile wx frame.sFilename frame
      else copyFile env oldFilename frame.sFilename frame)

/-- The lossy branch of `OnImageWriteComment`. -/
def writeCommentOption (wx : Wx Pixels) (env : Environment Pixels) (frame : Frame Pixels) :
    Frame Pixels :=
  let frame := beginImageManip env frame
  let str64 := encodeBase64 0 (wx.toBytes frame.textComment)
  endImageManip
    { frame with
      image := frame.image.map fun image =>
        { image with options := image.options.setOption .com str64 } }

/-- The branch on the lossless flag in `OnImageWriteComment`. -/
def writeComment (wx : Wx Pixels) (env : Environment Pixels) (frame : Frame Pixels) :
    Frame Pixels :=
  if frame.bJPEGlossless then writeCommentLossless wx env frame
  else writeCommentOption wx env frame

/-- `OnImageWriteComment`. -/
def onImageWriteComment (wx : Wx Pixels) (env : Environment Pixels) (frame : Frame Pixels) :
    Frame Pixels :=
  if frame.textCommentModified then
    let frame := writeComment wx env (dirty frame)
    updateControlsState { frame with textCommentModified := false }
  else frame

/-- The user types a comment. -/
def editComment (text : Text) (frame : Frame Pixels) : Frame Pixels :=
  updateControlsState { frame with textComment := text, textCommentModified := true }

/-! ## After the undo point -/

section Begun

variable {wx : Wx Pixels} {env : Environment Pixels} {frame : Frame Pixels}
  {motive : Frame Pixels → Frame Pixels → Prop}

@[simp]
theorem beginImageManip_bJPEGlossless :
    (beginImageManip env frame).bJPEGlossless = frame.bJPEGlossless :=
  imageUndoPoint_bJPEGlossless env frame

@[simp]
theorem beginImageManip_image : (beginImageManip env frame).image = frame.image :=
  imageUndoPoint_image env frame

theorem beginImageManip_calls :
    (beginImageManip env frame).calls = (imageUndoPoint env frame).calls := by
  unfold beginImageManip
  generalize imageUndoPoint env frame = pointed
  rfl

theorem beginImageManip_sOriginalFilename :
    (beginImageManip env frame).sOriginalFilename = frame.sOriginalFilename :=
  imageUndoPoint_sOriginalFilename env frame

/-- A lossy manipulation does to the frame after its undo point what it does to any frame. -/
theorem imageManip_elim {transform : Transform}
    (acts : ∀ begun, motive begun (endImageManip (setTransformed wx transform begun))) :
    motive (beginImageManip env frame) (imageManip wx env transform frame) :=
  acts (beginImageManip env frame)

/-- An inclination does, in the mode it leaves. -/
theorem inclineImage_elim
    (acts : ∀ begun dx dy, motive begun
      (dirty (endImageManip { setTransformed wx (.rotate dx dy) begun with
        isInclinaison := false }))) :
    motive (beginImageManip env (frame.record .inclination)) (inclineImage wx env frame) :=
  acts (beginImageManip env (frame.record .inclination)) (env frame).line.1 (env frame).line.2

/-- A resize does, to a lossy frame and to one that becomes lossy. -/
theorem resize_elim {destWidth destHeight : Int}
    (lossy : ∀ begun, begun.bJPEGlossless = false → motive begun
      (endImageManip (setTransformed wx (.scale destWidth destHeight) (dirty begun))))
    (lossless : ∀ begun, begun.bJPEGlossless = true → motive begun
      (endImageManip (setTransformed wx (.scale destWidth destHeight)
        (onToggleJPEGLossless (dirty begun))))) :
    motive (beginImageManip env frame) (resize wx env destWidth destHeight frame) := by
  unfold resize
  generalize beginImageManip env frame = begun
  dsimp only
  split_ifs with flag
  · exact lossless begun flag
  · exact lossy begun (Bool.eq_false_iff.mpr flag)

/-- The undo point is the only call of an inclination, after the record of it. -/
theorem inclineImage_calls :
    (inclineImage wx env frame).calls = (imageUndoPoint env (frame.record .inclination)).calls :=
  inclineImage_elim (motive := fun begun last =>
    begun.calls = (imageUndoPoint env (frame.record .inclination)).calls →
      last.calls = (imageUndoPoint env (frame.record .inclination)).calls)
    (fun _ _ _ same => same) beginImageManip_calls

theorem inclineImage_sOriginalFilename :
    (inclineImage wx env frame).sOriginalFilename = frame.sOriginalFilename :=
  inclineImage_elim (motive := fun begun last =>
    begun.sOriginalFilename = frame.sOriginalFilename →
      last.sOriginalFilename = frame.sOriginalFilename)
    (fun _ _ _ same => same) beginImageManip_sOriginalFilename

/-- The undo point is the only call of a resize. -/
theorem resize_calls {destWidth destHeight : Int} :
    (resize wx env destWidth destHeight frame).calls = (imageUndoPoint env frame).calls :=
  resize_elim (motive := fun begun last =>
    begun.calls = (imageUndoPoint env frame).calls → last.calls = (imageUndoPoint env frame).calls)
    (fun _ _ same => same) (fun _ _ same => same) beginImageManip_calls

end Begun

end RPhoto.Editing
