import RPhoto.Editing.LoadSave
import RPhoto.Editing.Screen

/-!
# Operations on the screen

The clean-up of a document together with what its tools do to the image box.  The
selection and the line of the box decide whether a tool acts; a tool that succeeds
resets them, loading a document selects a new zone or none, and a correction of
the inclination proposes one.  Each operation does to the document what the
operation of the same name on the frame does.
-/

namespace RPhoto.Editing

open RPhoto.Jpeg RPhoto.Library RPhoto.Tracker

variable {Pixels : Type}

/-- The functions on images, and the floating-point computation of `OnImageInclin`. -/
structure Display (Pixels : Type) extends Wx Pixels where
  /-- `GetWidth` and `GetHeight`. -/
  size : Image Pixels → Nat × Nat
  /-- `cw` and `ch`, for a ratio, an orientation, the line and the size of the source. -/
  inclinedSize : ℚ → Int → Int × Int → Nat × Nat → Int × Int

/-- The answers with the setting that only the image box needs. -/
structure ScreenEnv extends Env where
  bAutoSelectMax : Bool
  /-- Whether wrjpgcom returns on a file; the header scan of some files never ends. -/
  wrjpgcomReturns : Bytes → Bytes → Bool

/-- The answers in every state of the screen. -/
abbrev World (Pixels : Type) := Screen Pixels → ScreenEnv

/-- The answers that the frame gets: the zone and the line are those of the box. -/
def World.environment (world : World Pixels) (box : DisplayBox) : Environment Pixels :=
  fun frame =>
    { (world { frame, box }).toEnv with
      selectedZone := box.getSelectedZone.2
      line := box.lineTracker.extent }

/-- Every call of wrjpgcom returns. -/
def World.CommentsReturn (world : World Pixels) : Prop :=
  ∀ screen data comment, (world screen).wrjpgcomReturns data comment = true

namespace Screen

/-- The box after `SetImage` of the image of the frame. -/
def setImage (display : Display Pixels) (frame : Frame Pixels) (box : DisplayBox) : DisplayBox :=
  let (width, height) := shownSize display.size frame.image
  box.setImage width height

/-- The box after `LoadFile` of the working file into the frame. -/
def loadFile (display : Display Pixels) (frame : Frame Pixels) (box : DisplayBox) : DisplayBox :=
  let (width, height) := shownSize display.size frame.image
  let loads := ((frame.files.content frame.sFilename).bind display.decode).isSome
  box.loadFile loads width height

/-- The box after a tool call: a tool that succeeds is followed by `LoadFile` and
`TrackerReset`. -/
def afterTool (display : Display Pixels) (box : DisplayBox)
    (called : Frame Pixels × Bool) : Screen Pixels where
  frame := called.1
  box := if called.2 then (loadFile display called.1 box).trackerReset else box

/-- A lossy manipulation: `SetImage` and `TrackerReset`. -/
def imageManip (display : Display Pixels) (env : Environment Pixels) (transform : Transform)
    (screen : Screen Pixels) : Screen Pixels :=
  let frame := Editing.imageManip display.toWx env transform screen.frame
  { frame, box := (setImage display frame screen.box).trackerReset }

/-- `OnImageCrop`. -/
def onImageCrop (display : Display Pixels) (world : World Pixels) (screen : Screen Pixels) :
    Screen Pixels :=
  let env := world.environment screen.box
  let (box, cropZone) := screen.box.getSelectedZone
  if 0 < cropZone.width ∧ 0 < cropZone.height then
    let frame := dirty screen.frame
    if frame.bJPEGlossless then
      afterTool display box (callJPEGTranTryPerfect display.toWx env (.crop cropZone) frame)
    else imageManip display env (.getSubImage cropZone) { frame, box }
  else { screen with box }

/-- The zone proposed in the middle of a rotated image, in pixels of the display. -/
def proposedZone (size : Int × Int) (box : DisplayBox) : Rect where
  x := truncate ((box.imageWidth - size.1) / 2 * box.scale + 1 / 2)
  y := truncate ((box.imageHeight - size.2) / 2 * box.scale + 1 / 2)
  width := truncate (size.1 * box.scale - 1 / 2)
  height := truncate (size.2 * box.scale - 1 / 2)

/-- The box of an inclination correction that leaves the frame. -/
def inclineBox (display : Display Pixels) (frame : Frame Pixels) (box : DisplayBox) :
    DisplayBox :=
  let tracker := box.rectTracker
  let size := display.inclinedSize tracker.ratio tracker.orientation box.lineTracker.extent
    (box.imageWidth, box.imageHeight)
  let box :=
    { box with lineTracker := box.lineTracker.setTrackerPosition ⟨0, 0⟩ ⟨0, 0⟩ }
  let box := (setImage display frame box).setModeInclinaison false
  { box with
    rectTracker :=
      RectTrackerRatio.update { box.rectTracker with rect := proposedZone size box } }

/-- `OnImageInclin` up to its automatic crop. -/
def inclineImage (display : Display Pixels) (world : World Pixels) (screen : Screen Pixels) :
    Screen Pixels :=
  let frame :=
    Editing.inclineImage display.toWx (world.environment screen.box) screen.frame
  { frame, box := inclineBox display frame screen.box }

/-- `OnImageInclin`. -/
def onImageInclin (display : Display Pixels) (world : World Pixels) (screen : Screen Pixels) :
    Screen Pixels :=
  if definesAngle (world.environment screen.box) screen.frame then
    let screen := inclineImage display world screen
    if (world screen).bAutoRotateCrop then onImageCrop display world screen else screen
  else screen

/-- `OnToolAction`. -/
def onToolAction (display : Display Pixels) (world : World Pixels) (screen : Screen Pixels) :
    Screen Pixels :=
  if screen.frame.isInclinaison then onImageInclin display world screen
  else onImageCrop display world screen

/-- The automatic crop of `ImageCleanup`. -/
def autoCrop (display : Display Pixels) (world : World Pixels) (screen : Screen Pixels) :
    Screen Pixels :=
  if (world screen).bAutoCrop then onToolAction display world screen else screen

/-- Whether the wrjpgcom that a lossless comment calls succeeds. -/
def wrjpgcomSucceeds (wx : Wx Pixels) (env : Environment Pixels) (frame : Frame Pixels) : Bool :=
  let frame := imageUndoPoint env frame
  (callWrjpgcom wx env (sourceFilename frame.toDocument) (switchToTemp env frame)).2

/-- `OnImageWriteComment`: only a lossless one loads a file into the box, which keeps its
selection. -/
def onImageWriteComment (display : Display Pixels) (world : World Pixels)
    (screen : Screen Pixels) : Screen Pixels :=
  let env := world.environment screen.box
  let frame := Editing.onImageWriteComment display.toWx env screen.frame
  let loads := screen.frame.textCommentModified && screen.frame.bJPEGlossless &&
    wrjpgcomSucceeds display.toWx env (dirty screen.frame)
  { frame, box := if loads then loadFile display frame screen.box else screen.box }

/-- Whether the wrjpgcom that a lossless comment calls returns; without a file to open it does. -/
def wrjpgcomEnds (display : Display Pixels) (world : World Pixels) (screen : Screen Pixels) :
    Bool :=
  let env := world.environment screen.box
  let frame := imageUndoPoint env (dirty screen.frame)
  let oldFilename := sourceFilename frame.toDocument
  let frame := switchToTemp env frame
  (frame.files.content oldFilename).all fun data =>
    (world { screen with frame }).wrjpgcomReturns data (display.toBytes frame.textComment)

/-- The pending comment is written before a save, if that is wanted; the call that never
returns has no result. -/
def writePendingComment (display : Display Pixels) (world : World Pixels)
    (screen : Screen Pixels) : Option (Screen Pixels) :=
  if screen.frame.textCommentModified &&
      ((world screen).bAutoSave || (world screen).writeComment) then
    if screen.frame.bJPEGlossless && !wrjpgcomEnds display world screen then none
    else some (onImageWriteComment display world screen)
  else some screen

/-- The selection after a load with `AutoSelectMax`: the largest one, in the middle, unless a
fixed size exceeds the image. -/
def selectMax (box : DisplayBox) : DisplayBox :=
  let tracker := RectTrackerRatio.update
    { box.rectTracker with rect := ⟨0, 0, 1000000, 1000000⟩ }
  let centered : Rect :=
    { tracker.rect with
      x := (tracker.maxRect.width - tracker.rect.width).tdiv 2
      y := (tracker.maxRect.height - tracker.rect.height).tdiv 2 }
  let box :=
    { box with rectTracker := RectTrackerRatio.update { tracker with rect := centered } }
  if (tracker.fixedHeight > 0 ∧ tracker.fixedWidth > 0) ∧ (centered.x < 0 ∨ centered.y < 0) then
    box.trackerReset
  else box

/-- The part of `ImageLoad` that replaces the document. -/
def openImage (display : Display Pixels) (world : World Pixels) (name : FileName)
    (original : Bool) (screen : Screen Pixels) : Screen Pixels :=
  let frame := Editing.openImage display.toWx name original screen.frame
  let box := loadFile display frame screen.box
  { frame
    box := if (world screen).bAutoSelectMax && !frame.isInclinaison then selectMax box
      else box.trackerReset }

/-- The automatic rotation at the end of `ImageLoad`. -/
def autoRotate (display : Display Pixels) (world : World Pixels) (screen : Screen Pixels) :
    Screen Pixels :=
  let frame := screen.frame
  if (world screen).bAutoRot && frame.iOrientation ≠ 1 && !frame.isAutorotating then
    let frame := { frame.record .autorotate with isAutorotating := true }
    let rotated := afterTool display screen.box
      (callJHead display.toWx (world.environment screen.box) .autorot frame)
    { rotated with frame := { rotated.frame with isAutorotating := false } }
  else screen

/-- An operation of the frame that leaves the box alone. -/
def onFrame (world : World Pixels) (screen : Screen Pixels)
    (operation : Environment Pixels → Frame Pixels → Frame Pixels) : Screen Pixels :=
  { screen with frame := operation (world.environment screen.box) screen.frame }

mutual

/-- `ImageLoad`. -/
def imageLoad (display : Display Pixels) (world : World Pixels) :
    Nat → FileName → Bool → Screen Pixels → Option (Screen Pixels)
  | 0, _, _, _ => none
  | fuel + 1, name, original, screen =>
      if screen.frame.isFileLoading then some screen
      else do
        let screen := screen.onFrame world fun env frame =>
          imageUndoPoint env { frame.record (.imageLoad name) with isFileLoading := true }
        let (screen, cleaned) ← imageCleanup display world fuel screen
        let screen := if cleaned then openImage display world name original screen else screen
        some (autoRotate display world (screen.onFrame world fun _ frame => endLoading frame))

/-- `ImageCleanup`; the result is false when the user cancels. -/
def imageCleanup (display : Display Pixels) (world : World Pixels) :
    Nat → Screen Pixels → Option (Screen Pixels × Bool)
  | 0, _ => none
  | fuel + 1, screen =>
      let screen := autoCrop display world screen
      let answers := world screen
      if screen.frame.bDirty && answers.bAutoSave then
        if answers.sAutoSaveFolder = .empty ∧ answers.sAutoSaveSuffix = "" then do
          let screen ← onFileSave display world fuel screen
          some (screen, true)
        else do
          let name := autoSaveName screen.frame.sOriginalFilename answers.sAutoSaveFolder
            answers.sAutoSaveSuffix
          let screen ← imageSaveAs display world fuel name screen
          some (screen, true)
      else if screen.frame.bDirty then
        match answers.saveAnswer with
        | .yes => do
            let screen ← onFileSave display world fuel screen
            some (screen, true)
        | .no => some (screen.onFrame world fun _ frame => { frame with bDirty := false }, true)
        | .cancel => some (screen, false)
      else some (screen, true)

/-- `OnFileSave`. -/
def onFileSave (display : Display Pixels) (world : World Pixels) :
    Nat → Screen Pixels → Option (Screen Pixels)
  | 0, _ => none
  | fuel + 1, screen =>
      if screen.frame.sFilename = noFile then some screen
      else do
        let screen ← writePendingComment display world screen
        if !(world screen).isFileWritable screen.frame.sOriginalFilename then
          onFileSaveAs display world fuel screen
        else if screen.frame.bJPEGlossless then some (screen.onFrame world saveLossless)
        else
          let screen := screen.onFrame world (saveLossy display.toWx)
          if screen.frame.isFileLoading then some screen
          else imageLoad display world fuel screen.frame.sFilename false screen

/-- `OnFileSaveAs`. -/
def onFileSaveAs (display : Display Pixels) (world : World Pixels) :
    Nat → Screen Pixels → Option (Screen Pixels)
  | 0, _ => none
  | fuel + 1, screen =>
      let name := (world screen).selectedFile
      if name = noFile then some screen
      else do
        let screen ← imageSaveAs display world fuel name screen
        imageLoad display world fuel screen.frame.sFilename false screen

/-- `ImageSaveAs`. -/
def imageSaveAs (display : Display Pixels) (world : World Pixels) :
    Nat → FileName → Screen Pixels → Option (Screen Pixels)
  | 0, _, _ => none
  | fuel + 1, name, screen =>
      if name = noFile then some screen
      else do
        let written := screen.onFrame world fun env frame =>
          writeAs display.toWx env name (leaveTemp frame)
        let (screen, _) ← imageCleanup display world fuel written
        some (screen.onFrame world fun _ frame =>
          { frame with sFilename := name, sOriginalFilename := name })

end

/-! ## The document of an operation -/

variable {display : Display Pixels} {world : World Pixels} {screen : Screen Pixels}

/-- The crop does to the document what it does in the frame. -/
theorem onImageCrop_frame (display : Display Pixels) (world : World Pixels)
    (screen : Screen Pixels) :
    (onImageCrop display world screen).frame =
      Editing.onImageCrop display.toWx (world.environment screen.box) screen.frame := by
  unfold onImageCrop Editing.onImageCrop losslessOrManip
  dsimp only [World.environment]
  split_ifs <;> rfl

theorem onImageWriteComment_frame (display : Display Pixels) (world : World Pixels)
    (screen : Screen Pixels) :
    (onImageWriteComment display world screen).frame =
      Editing.onImageWriteComment display.toWx (world.environment screen.box) screen.frame := rfl

theorem wrjpgcomEnds_of_returns (returns : world.CommentsReturn) (screen : Screen Pixels) :
    wrjpgcomEnds display world screen = true := by
  unfold wrjpgcomEnds
  dsimp only
  cases Library.FileStore.content _ _ with
  | none => rfl
  | some data => exact returns _ _ _

theorem writePendingComment_of_returns (returns : world.CommentsReturn)
    (screen : Screen Pixels) :
    writePendingComment display world screen =
      some (if screen.frame.textCommentModified &&
          ((world screen).bAutoSave || (world screen).writeComment) then
        onImageWriteComment display world screen
      else screen) := by
  unfold writePendingComment
  rw [wrjpgcomEnds_of_returns returns, Bool.not_true, Bool.and_false,
    if_neg Bool.false_ne_true]
  split <;> rfl

/-- An inclination correction does, up to its automatic crop. -/
theorem inclineImage_frame (display : Display Pixels) (world : World Pixels)
    (screen : Screen Pixels) :
    (inclineImage display world screen).frame =
      Editing.inclineImage display.toWx (world.environment screen.box) screen.frame := rfl

theorem openImage_frame (display : Display Pixels) (world : World Pixels) (name : FileName)
    (original : Bool) (screen : Screen Pixels) :
    (openImage display world name original screen).frame =
      Editing.openImage display.toWx name original screen.frame := rfl

theorem autoRotate_frame (display : Display Pixels) (world : World Pixels)
    (screen : Screen Pixels) :
    (autoRotate display world screen).frame =
      Editing.autoRotate display.toWx (world.environment screen.box) screen.frame := by
  obtain ⟨frame, box⟩ := screen
  unfold autoRotate Editing.autoRotate
  dsimp only
  split
  · rename_i rotates
    exact (if_pos rotates).symm
  · rename_i stays
    exact (if_neg stays).symm

end Screen

end RPhoto.Editing
