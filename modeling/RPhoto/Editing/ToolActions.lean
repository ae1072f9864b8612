import RPhoto.Editing.ScreenOperations

/-!
# When a tool acts

Whether the clean-up crops, turns or saves something depends on four flags of the
document and on the image box.  A crop that succeeds leaves nothing selected, and a
correction of the inclination leaves its mode.
-/

namespace RPhoto.Editing

open RPhoto.Jpeg RPhoto.Library RPhoto.Tracker

variable {Pixels : Type}

/-- The flags that decide what a clean-up does. -/
structure Flags where
  isInclinaison : Bool
  textCommentModified : Bool
  bJPEGlossless : Bool
  bDirty : Bool
deriving DecidableEq

def Frame.flags (frame : Frame Pixels) : Flags where
  isInclinaison := frame.isInclinaison
  textCommentModified := frame.textCommentModified
  bJPEGlossless := frame.bJPEGlossless
  bDirty := frame.bDirty

/-- The flags together with the box. -/
structure View extends Flags where
  box : DisplayBox
deriving DecidableEq

def Screen.view (screen : Screen Pixels) : View where
  toFlags := screen.frame.flags
  box := screen.box

/-! ## Flags of the operations of the frame -/

section Flags

variable {wx : Wx Pixels} {env : Environment Pixels} {frame : Frame Pixels}

@[simp] theorem flags_imageUndoPoint (env : Environment Pixels) (frame : Frame Pixels) :
    (imageUndoPoint env frame).flags = frame.flags := by
  simp [Frame.flags]

@[simp] theorem flags_clean (frame : Frame Pixels) :
    (clean frame).flags = { frame.flags with bDirty := frame.textCommentModified } := by
  simp [clean, updateControlsState, Frame.flags]

@[simp] theorem flags_copyToTemp (env : Environment Pixels) (frame : Frame Pixels) :
    (copyToTemp env frame).1.flags = frame.flags := by
  have switched (frame : Frame Pixels) : (switchToTemp env frame).flags = frame.flags := rfl
  unfold copyToTemp
  dsimp only
  split
  · exact (switched _).trans (flags_imageUndoPoint env frame)
  · exact (switched _).trans (flags_imageUndoPoint env frame)

/-- A tool call that is made in a dirty document keeps the flags. -/
theorem flags_applyTool (call : Bool → Call) (output : Option Bytes)
    (isDirty : frame.flags.bDirty = true) :
    (applyTool wx call output frame).1.flags = frame.flags := by
  have shown : frame.bDirty = true := isDirty
  cases output with
  | none => simp [applyTool, Frame.flags, updateControlsState, Frame.record, shown]
  | some data =>
      simp [applyTool, Frame.flags, updateControlsState, Frame.record, boxLoadFile, shown]

theorem flags_callJPEGTranTryPerfect (command : JpegtranCommand)
    (isDirty : frame.flags.bDirty = true) :
    (callJPEGTranTryPerfect wx env command frame).1.flags = frame.flags := by
  have copied := flags_copyToTemp env frame
  unfold callJPEGTranTryPerfect
  dsimp only
  split
  · rw [flags_applyTool _ _ (by rw [copied, isDirty]), copied]
  · exact copied

/-- A tool call without a pending comment keeps them too. -/
theorem flags_applyTool_settled (call : Bool → Call) (output : Option Bytes)
    (settled : frame.flags.textCommentModified = false) :
    (applyTool wx call output frame).1.flags = frame.flags := by
  have shown : frame.textCommentModified = false := settled
  cases output with
  | none => simp [applyTool, Frame.flags, updateControlsState, Frame.record, shown]
  | some data =>
      simp [applyTool, Frame.flags, updateControlsState, Frame.record, boxLoadFile, shown]

theorem flags_callJHead (command : JheadCommand)
    (settled : frame.flags.textCommentModified = false) :
    (callJHead wx env command frame).1.flags = frame.flags := by
  have copied := flags_copyToTemp env frame
  unfold callJHead
  dsimp only
  split
  · rw [flags_applyTool_settled _ _ (by rw [copied, settled]), copied]
  · exact copied

theorem flags_imageManip (transform : Transform) (isDirty : frame.flags.bDirty = true) :
    (imageManip wx env transform frame).flags = frame.flags := by
  have shown : frame.bDirty = true := isDirty
  simp [imageManip, endImageManip, setTransformed, beginImageManip, updateControlsState,
    Frame.flags, shown]

@[simp] theorem flags_inclineImage (wx : Wx Pixels) (env : Environment Pixels)
    (frame : Frame Pixels) :
    (inclineImage wx env frame).flags =
      { frame.flags with isInclinaison := false, bDirty := true } := by
  simp [inclineImage, endImageManip, setTransformed, beginImageManip, updateControlsState,
    Frame.flags, dirty, Frame.record]

theorem flags_onImageWriteComment (pending : frame.flags.textCommentModified = true) :
    (onImageWriteComment wx env frame).flags =
      { frame.flags with textCommentModified := false, bDirty := true } := by
  have shown : frame.textCommentModified = true := pending
  unfold onImageWriteComment writeComment
  rw [if_pos shown]
  split
  · unfold writeCommentLossless
    dsimp only
    split
    · simp [updateControlsState, Frame.flags, boxLoadFile, Frame.record, callWrjpgcom,
        switchToTemp, createTempFile, dirty]
    · simp [updateControlsState, Frame.flags, copyFile, Frame.record, callWrjpgcom,
        switchToTemp, createTempFile, dirty]
  · simp [writeCommentOption, endImageManip, beginImageManip, updateControlsState, Frame.flags,
      dirty]

theorem flags_endLoading (settled : frame.flags.textCommentModified = false) :
    (endLoading frame).flags = frame.flags := by
  have shown : frame.textCommentModified = false := settled
  simp [endLoading, updateControlsState, Frame.flags, shown]

/-- Every way to save leaves the document dirty exactly when a comment is pending. -/
@[simp] theorem flags_writeAs (wx : Wx Pixels) (env : Environment Pixels) (name : FileName)
    (frame : Frame Pixels) :
    (writeAs wx env name (leaveTemp frame)).flags =
      { frame.flags with bDirty := frame.textCommentModified } := by
  unfold writeAs
  rw [flags_clean]
  split <;> rfl

@[simp] theorem flags_saveLossless (env : Environment Pixels) (frame : Frame Pixels) :
    (saveLossless env frame).flags =
      { frame.flags with bDirty := frame.textCommentModified } := by
  unfold saveLossless
  rw [flags_clean]
  split <;> rfl

@[simp] theorem flags_saveLossy (wx : Wx Pixels) (env : Environment Pixels)
    (frame : Frame Pixels) :
    (saveLossy wx env frame).flags =
      { frame.flags with bDirty := frame.textCommentModified } := by
  unfold saveLossy
  exact flags_clean _

end Flags

/-! ## Whether a tool acts -/

/-- The line defines an angle. -/
def Slanted (box : DisplayBox) : Prop :=
  let (dx, dy) := box.lineTracker.extent
  dx ≠ 0 ∧ dy ≠ 0 ∧ dx ≠ -1 ∧ dy ≠ -1

instance (box : DisplayBox) : Decidable (Slanted box) :=
  inferInstanceAs (Decidable (_ ∧ _ ∧ _ ∧ _))

/-- The tool of the mode finds a line that defines an angle, or a zone to crop. -/
def View.ToolActs (view : View) : Prop :=
  if view.isInclinaison then Slanted view.box else view.box.Selects

instance (view : View) : Decidable view.ToolActs := by
  unfold View.ToolActs
  infer_instance

/-- The box after a tool has found nothing: in the crop mode it has read the selected zone. -/
def reading (isInclinaison : Bool) (box : DisplayBox) : DisplayBox :=
  if isInclinaison then box else box.getSelectedZone.1

/-- The tool finds nothing, however often it looks. -/
def View.Idles (view : View) : Prop :=
  ∀ times, ¬View.ToolActs { view with box := (reading view.isInclinaison)^[times] view.box }

theorem View.Idles.not_acts {view : View} (idles : view.Idles) : ¬view.ToolActs := idles 0

theorem View.Idles.reading {view : View} (idles : view.Idles) :
    View.Idles { view with box := Editing.reading view.isInclinaison view.box } := by
  intro times
  have later := idles (times + 1)
  rwa [Function.iterate_succ_apply] at later

/-- Where no fixed size is forced, it is enough to look once. -/
theorem View.idles_of_free {view : View} (idle : ¬view.ToolActs)
    (free : view.isInclinaison = false → view.box.Free) : view.Idles := by
  have same : Editing.reading view.isInclinaison view.box = view.box := by
    unfold Editing.reading
    split
    · rfl
    · rename_i cropMode
      exact (free (Bool.eq_false_iff.mpr cropMode)).getSelectedZone
  intro times
  rw [Function.iterate_fixed same]
  exact idle

namespace Screen

variable {display : Display Pixels} {world : World Pixels} {screen : Screen Pixels}

theorem definesAngle_iff (world : World Pixels) (screen : Screen Pixels) :
    definesAngle (world.environment screen.box) screen.frame = true ↔
      screen.frame.isInclinaison = true ∧ Slanted screen.box := by
  unfold definesAngle Slanted
  dsimp only [World.environment]
  generalize screen.box.lineTracker.extent = line
  obtain ⟨dx, dy⟩ := line
  simp [and_assoc]

/-- The crop branches on the selection. -/
theorem onImageCrop_eq (display : Display Pixels) (world : World Pixels)
    (screen : Screen Pixels) :
    onImageCrop display world screen =
      if screen.box.Selects then
        if screen.frame.bJPEGlossless then
          afterTool display screen.box.getSelectedZone.1
            (callJPEGTranTryPerfect display.toWx (world.environment screen.box)
              (.crop screen.box.getSelectedZone.2) (dirty screen.frame))
        else
          imageManip display (world.environment screen.box)
            (.getSubImage screen.box.getSelectedZone.2)
            { frame := dirty screen.frame, box := screen.box.getSelectedZone.1 }
      else { screen with box := screen.box.getSelectedZone.1 } := rfl

/-- A tool that does not act only reads the selected zone. -/
theorem onToolAction_of_idle (idle : ¬screen.view.ToolActs) :
    onToolAction display world screen =
      { screen with box := reading screen.frame.isInclinaison screen.box } := by
  unfold View.ToolActs at idle
  unfold onToolAction reading
  split
  · rename_i inclination
    rw [if_pos (show screen.view.isInclinaison = true from inclination)] at idle
    have noAngle : ¬definesAngle (world.environment screen.box) screen.frame = true :=
      fun angle => idle ((definesAngle_iff world screen).mp angle).2
    unfold onImageInclin
    rw [if_neg noAngle]
  · rename_i cropMode
    rw [if_neg (show ¬screen.view.isInclinaison = true from cropMode)] at idle
    rw [onImageCrop_eq]
    exact if_neg idle

/-- The image that a lossy manipulation leaves. -/
def manipulated (wx : Wx Pixels) (transform : Transform) (image : Option (Image Pixels)) :
    Option (Image Pixels) :=
  image.bind fun image =>
    withImageOptions (getImageOptions image.options) (some (wx.transform transform image))

/-- The box that a lossy crop leaves. -/
def croppedBox (display : Display Pixels) (image : Option (Image Pixels)) (box : DisplayBox) :
    DisplayBox :=
  let (box, cropZone) := box.getSelectedZone
  let (width, height) :=
    shownSize display.size (manipulated display.toWx (.getSubImage cropZone) image)
  (box.setImage width height).trackerReset

/-- The document that a correction of the inclination shows. -/
def correctedImage (display : Display Pixels) (screen : Screen Pixels) : Option (Image Pixels) :=
  let (dx, dy) := screen.box.lineTracker.extent
  manipulated display.toWx (.rotate dx dy) screen.frame.image

/-- The box that it leaves, with the proposed zone. -/
def correctedBox (display : Display Pixels) (screen : Screen Pixels) : DisplayBox :=
  inclineBox display { screen.frame with image := correctedImage display screen } screen.box

/-- The kept options are those of the image that is transformed. -/
theorem withImageOptions_begun (wx : Wx Pixels) (env : Environment Pixels)
    (transform : Transform) (frame : Frame Pixels) :
    withImageOptions (beginImageManip env frame).imageOpts
        ((beginImageManip env frame).image.map (wx.transform transform)) =
      manipulated wx transform frame.image := by
  rw [beginImageManip_image]
  unfold beginImageManip manipulated
  dsimp only
  rw [imageUndoPoint_image]
  cases frame.image <;> rfl

theorem inclineImage_image (display : Display Pixels) (world : World Pixels)
    (screen : Screen Pixels) :
    (inclineImage display world screen).frame.image = correctedImage display screen := by
  have same := withImageOptions_begun display.toWx (world.environment screen.box)
    (.rotate screen.box.lineTracker.extent.1 screen.box.lineTracker.extent.2)
    (screen.frame.record .inclination)
  exact same

/-- A lossy crop dirties the document. -/
theorem onImageCrop_view (selects : screen.box.Selects)
    (lossy : screen.frame.bJPEGlossless = false) :
    (onImageCrop display world screen).view =
      { screen.view with
        bDirty := true
        box := croppedBox display screen.frame.image screen.box } := by
  rw [onImageCrop_eq, if_pos selects, lossy, if_neg Bool.false_ne_true]
  have flags := @flags_imageManip _ display.toWx (world.environment screen.box)
    (dirty screen.frame) (.getSubImage screen.box.getSelectedZone.2) rfl
  have image : (Editing.imageManip display.toWx (world.environment screen.box)
      (.getSubImage screen.box.getSelectedZone.2) (dirty screen.frame)).image =
        manipulated display.toWx (.getSubImage screen.box.getSelectedZone.2)
          screen.frame.image :=
    withImageOptions_begun display.toWx (world.environment screen.box) _ (dirty screen.frame)
  refine congrArg₂ View.mk flags ?_
  show (setImage display (Editing.imageManip _ _ _ _) screen.box.getSelectedZone.1).trackerReset = _
  unfold setImage croppedBox
  rw [image]

/-- It resets the selection, unless a fixed size is forced on it. -/
theorem onImageCrop_lossy (selects : screen.box.Selects)
    (lossy : screen.frame.bJPEGlossless = false) (unforced : screen.box.Unforced) :
    ∃ width height, (onImageCrop display world screen).view =
      { screen.view with
        bDirty := true
        box := (screen.box.setImage width height).trackerReset } := by
  have box : croppedBox display screen.frame.image screen.box =
      (screen.box.getSelectedZone.1.setImage _ _).trackerReset := rfl
  rw [unforced.getSelectedZone] at box
  rw [onImageCrop_view selects lossy, box]
  exact ⟨_, _, rfl⟩

/-- A lossless crop calls jpegtran in a dirty document. -/
theorem onImageCrop_lossless (selects : screen.box.Selects)
    (lossless : screen.frame.bJPEGlossless = true) (free : screen.box.Free) :
    onImageCrop display world screen =
      afterTool display screen.box
        (callJPEGTranTryPerfect display.toWx (world.environment screen.box)
          (.crop screen.box.getSelectedZone.2) (dirty screen.frame)) := by
  rw [onImageCrop_eq, if_pos selects, if_pos lossless, free.getSelectedZone]

/-- A correction of the inclination dirties the document and leaves the mode. -/
theorem inclineImage_view (display : Display Pixels) (world : World Pixels)
    (screen : Screen Pixels) :
    (inclineImage display world screen).view =
      { screen.view with
        isInclinaison := false
        bDirty := true
        box := correctedBox display screen } := by
  have image := inclineImage_image display world screen
  refine congrArg₂ View.mk (flags_inclineImage _ _ _) ?_
  show inclineBox display (inclineImage display world screen).frame screen.box = _
  unfold correctedBox inclineBox setImage
  rw [image]

end Screen

/-! ## Boxes on which no fixed size is forced -/

namespace Screen

variable {box : DisplayBox}

/-- The proposed zone does not change that. -/
theorem unforced_inclineBox (unforced : box.Unforced) (display : Display Pixels)
    (frame : Frame Pixels) : (inclineBox display frame box).Unforced := by
  have line : DisplayBox.Unforced
      { box with lineTracker := box.lineTracker.setTrackerPosition ⟨0, 0⟩ ⟨0, 0⟩ } := unforced
  have image := line.setImage (shownSize display.size frame.image).1
    (shownSize display.size frame.image).2
  exact DisplayBox.Unforced.congr image rfl rfl rfl

/-- A tool that succeeds loads its file and resets the trackers. -/
theorem afterTool_box (display : Display Pixels) (box : DisplayBox)
    {called : Frame Pixels × Bool} (succeeded : called.2 = true) :
    ∃ loads width height,
      (afterTool display box called).box = (box.loadFile loads width height).trackerReset := by
  unfold afterTool
  rw [if_pos succeeded]
  exact ⟨_, _, _, rfl⟩

end Screen

end RPhoto.Editing
