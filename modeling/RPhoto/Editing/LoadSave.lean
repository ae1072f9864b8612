import RPhoto.Editing.ImageOperations

/-!
# Loading and saving

`ImageLoad`, `ImageCleanup`, `OnFileSave`, `OnFileSaveAs` and `ImageSaveAs` call
each other.  The fuel bounds the depth of these calls; without fuel there is no
result.
-/

namespace RPhoto.Editing

open RPhoto.Jpeg RPhoto.Library

variable {Pixels : Type}

/-- The part of `ImageLoad` that replaces the document. -/
def openImage (wx : Wx Pixels) (name : FileName) (original : Bool) (frame : Frame Pixels) :
    Frame Pixels :=
  let replaces := !frame.bTemp || original
  let frame := boxLoadFile wx name
    { frame with
      sFilename := name
      sOriginalFilename := if replaces then name else frame.sOriginalFilename
      bTemp := if replaces then false else frame.bTemp }
  { imageUpdateExif wx { frame with iOrientation := 1 } with bJPEGlossless := isJPEGFile name }

/-- The automatic rotation at the end of `ImageLoad`. -/
def autoRotate (wx : Wx Pixels) (env : Environment Pixels) (frame : Frame Pixels) :
    Frame Pixels :=
  if (env frame).bAutoRot && frame.iOrientation ≠ 1 && !frame.isAutorotating then
    let frame := (frame.record .autorotate)
    let frame := (callJHead wx env .autorot { frame with isAutorotating := true }).1
    { frame with isAutorotating := false }
  else frame

/-- The decimal digits `SetOption` stores for a number. -/
def formatInt (value : Int) : Text := value.repr.toList

/-- `SaveFile` of the displayed image; the working file's name decides on the format. -/
def saveImage (wx : Wx Pixels) (env : Environment Pixels) (name : FileName)
    (frame : Frame Pixels) : Frame Pixels :=
  let jpeg := isJPEGFile frame.sFilename
  let image := frame.image.map fun image =>
    if jpeg then
      { image with options := image.options.setOption .quality (formatInt (env frame).quality) }
    else image
  let data := image.bind (wx.encode (if jpeg then .jpeg else .byExtension name))
  let written := if (env frame).saveFails || name = noFile then none else data
  { frame.record (.saveFile written.isSome) with
    image := image
    files := writeOutcome name written frame.files }

/-- The pending comment is written before a save, if that is wanted. -/
def writePendingComment (wx : Wx Pixels) (env : Environment Pixels) (frame : Frame Pixels) :
    Frame Pixels :=
  if frame.textCommentModified && ((env frame).bAutoSave || (env frame).writeComment) then
    onImageWriteComment wx env frame
  else frame

/-- A lossy save goes back from the temporary file to the original. -/
def leaveTemp (frame : Frame Pixels) : Frame Pixels :=
  { frame with
    sFilename := if frame.bTemp then frame.sOriginalFilename else frame.sFilename
    bTemp := false }

/-- The lossless branch of `OnFileSave`; the result of the copy is not looked at. -/
def saveLossless (env : Environment Pixels) (frame : Frame Pixels) : Frame Pixels :=
  clean <|
    if frame.sFilename ≠ frame.sOriginalFilename then
      copyFile env frame.sFilename frame.sOriginalFilename frame
    else frame

/-- The lossy branch of `OnFileSave`, up to its load. -/
def saveLossy (wx : Wx Pixels) (env : Environment Pixels) (frame : Frame Pixels) :
    Frame Pixels :=
  let frame := leaveTemp frame
  clean (saveImage wx env frame.sFilename frame)

/-- The two branches of `ImageSaveAs`. -/
def writeAs (wx : Wx Pixels) (env : Environment Pixels) (name : FileName)
    (frame : Frame Pixels) : Frame Pixels :=
  clean <|
    if !frame.bDirty && frame.bJPEGlossless && isJPEGFile frame.sOriginalFilename &&
        isJPEGFile name then
      copyFile env frame.sFilename name frame
    else saveImage wx env name frame

/-- The end of a load: `UpdateControlsState`, `END_IMAGE`, and the load is over. -/
def endLoading (frame : Frame Pixels) : Frame Pixels :=
  { updateControlsState (updateControlsState frame) with isFileLoading := false }

/-- The automatic crop of `ImageCleanup`. -/
def autoCrop (wx : Wx Pixels) (env : Environment Pixels) (frame : Frame Pixels) : Frame Pixels :=
  if (env frame).bAutoCrop then onToolAction wx env frame else frame

mutual

/-- `ImageLoad`. -/
def imageLoad (wx : Wx Pixels) (env : Environment Pixels) :
    Nat → FileName → Bool → Frame Pixels → Option (Frame Pixels)
  | 0, _, _, _ => none
  | fuel + 1, name, original, frame =>
      if frame.isFileLoading then some frame
      else do
        let frame := { frame.record (.imageLoad name) with isFileLoading := true }
        let (frame, cleaned) ← imageCleanup wx env fuel (imageUndoPoint env frame)
        let frame := if cleaned then openImage wx name original frame else frame
        some (autoRotate wx env (endLoading frame))

/-- `ImageCleanup`; the result is false when the user cancels. -/
def imageCleanup (wx : Wx Pixels) (env : Environment Pixels) :
    Nat → Frame Pixels → Option (Frame Pixels × Bool)
  | 0, _ => none
  | fuel + 1, frame =>
      let frame := autoCrop wx env frame
      let answers := env frame
      if frame.bDirty && answers.bAutoSave then
        if answers.sAutoSaveFolder = .empty ∧ answers.sAutoSaveSuffix = "" then do
          let frame ← onFileSave wx env fuel frame
          some (frame, true)
        else do
          let name :=
            autoSaveName frame.sOriginalFilename answers.sAutoSaveFolder answers.sAutoSaveSuffix
          let frame ← imageSaveAs wx env fuel name frame
          some (frame, true)
      else if frame.bDirty then
        match answers.saveAnswer with
        | .yes => do
            let frame ← onFileSave wx env fuel frame
            some (frame, true)
        | .no => some ({ frame with bDirty := false }, true)
        | .cancel => some (frame, false)
      else some (frame, true)

/-- `OnFileSave`. -/
def onFileSave (wx : Wx Pixels) (env : Environment Pixels) :
    Nat → Frame Pixels → Option (Frame Pixels)
  | 0, _ => none
  | fuel + 1, frame =>
      if frame.sFilename = noFile then some frame
      else
        let frame := writePendingComment wx env frame
        if !(env frame).isFileWritable frame.sOriginalFilename then onFileSaveAs wx env fuel frame
        else if frame.bJPEGlossless then some (saveLossless env frame)
        else
          let frame := saveLossy wx env frame
          if frame.isFileLoading then some frame
          else imageLoad wx env fuel frame.sFilename false frame

/-- `OnFileSaveAs`. -/
def onFileSaveAs (wx : Wx Pixels) (env : Environment Pixels) :
    Nat → Frame Pixels → Option (Frame Pixels)
  | 0, _ => none
  | fuel + 1, frame =>
      let name := (env frame).selectedFile
      if name = noFile then some frame
      else do
        let frame ← imageSaveAs wx env fuel name frame
        imageLoad wx env fuel frame.sFilename false frame

/-- `ImageSaveAs`. -/
def imageSaveAs (wx : Wx Pixels) (env : Environment Pixels) :
    Nat → FileName → Frame Pixels → Option (Frame Pixels)
  | 0, _, _ => none
  | fuel + 1, name, frame =>
      if name = noFile then some frame
      else do
        let (frame, _) ← imageCleanup wx env fuel (writeAs wx env name (leaveTemp frame))
        some { frame with sFilename := name, sOriginalFilename := name }

end

/-! ## How the calls end -/

section Ends

variable (wx : Wx Pixels) (env : Environment Pixels) (fuel : Nat) (frame : Frame Pixels)

/-- `ImageLoad` does nothing during a load, or cleans up and opens the file if that succeeds. -/
inductive LoadEnd (name : FileName) (original : Bool) : Frame Pixels → Prop where
  | busy (loading : frame.isFileLoading = true) : LoadEnd name original frame
  | load {cleanedFrame : Frame Pixels} {cleaned : Bool} (idle : frame.isFileLoading = false)
      (cleanup : imageCleanup wx env fuel
        (imageUndoPoint env { frame.record (.imageLoad name) with isFileLoading := true }) =
          some (cleanedFrame, cleaned)) :
      LoadEnd name original (autoRotate wx env (endLoading
        (if cleaned then openImage wx name original cleanedFrame else cleanedFrame)))

/-- `ImageCleanup` saves a dirty document, drops its changes or is cancelled. -/
inductive CleanupEnd : Frame Pixels → Bool → Prop where
  | save {after : Frame Pixels} (isDirty : (autoCrop wx env frame).bDirty = true)
      (wanted : (env (autoCrop wx env frame)).bAutoSave = true ∨
        (env (autoCrop wx env frame)).saveAnswer = .yes)
      (save : onFileSave wx env fuel (autoCrop wx env frame) = some after) :
      CleanupEnd after true
  | saveAs {after : Frame Pixels} {name : FileName}
      (isDirty : (autoCrop wx env frame).bDirty = true)
      (autoSave : (env (autoCrop wx env frame)).bAutoSave = true)
      (save : imageSaveAs wx env fuel name (autoCrop wx env frame) = some after) :
      CleanupEnd after true
  | drop (isDirty : (autoCrop wx env frame).bDirty = true)
      (declined : (env (autoCrop wx env frame)).saveAnswer = .no) :
      CleanupEnd { autoCrop wx env frame with bDirty := false } true
  | cancelled (isDirty : (autoCrop wx env frame).bDirty = true)
      (answer : (env (autoCrop wx env frame)).saveAnswer = .cancel) :
      CleanupEnd (autoCrop wx env frame) false
  | clean (isClean : (autoCrop wx env frame).bDirty = false) :
      CleanupEnd (autoCrop wx env frame) true

/-- `OnFileSave` after the pending comment: another name for a file that is not writable, a copy
in lossless mode, and else a lossy save that is loaded again unless a load is going on. -/
inductive SaveEnd (commented : Frame Pixels) : Frame Pixels → Prop where
  | saveAs {after : Frame Pixels}
      (unwritable : (env commented).isFileWritable commented.sOriginalFilename = false)
      (save : onFileSaveAs wx env fuel commented = some after) : SaveEnd commented after
  | lossless (writable : (env commented).isFileWritable commented.sOriginalFilename = true)
      (flag : commented.bJPEGlossless = true) : SaveEnd commented (saveLossless env commented)
  | lossy (writable : (env commented).isFileWritable commented.sOriginalFilename = true)
      (flag : commented.bJPEGlossless = false)
      (loading : (saveLossy wx env commented).isFileLoading = true) :
      SaveEnd commented (saveLossy wx env commented)
  | reload {after : Frame Pixels}
      (writable : (env commented).isFileWritable commented.sOriginalFilename = true)
      (flag : commented.bJPEGlossless = false)
      (idle : (saveLossy wx env commented).isFileLoading = false)
      (load : imageLoad wx env fuel (saveLossy wx env commented).sFilename false
        (saveLossy wx env commented) = some after) :
      SaveEnd commented after

/-- `OnFileSaveAs` saves under the selected name and loads what it has saved. -/
inductive SaveAsEnd : Frame Pixels → Prop where
  | unselected (noName : (env frame).selectedFile = noFile) : SaveAsEnd frame
  | load {saved after : Frame Pixels} (named : (env frame).selectedFile ≠ noFile)
      (save : imageSaveAs wx env fuel (env frame).selectedFile frame = some saved)
      (load : imageLoad wx env fuel saved.sFilename false saved = some after) :
      SaveAsEnd after

/-- `ImageSaveAs` writes the file, cleans up and takes the new name. -/
inductive ImageSaveAsEnd (name : FileName) : Frame Pixels → Prop where
  | unnamed (noName : name = noFile) : ImageSaveAsEnd name frame
  | save {cleanedFrame : Frame Pixels} {cleaned : Bool} (named : name ≠ noFile)
      (cleanup : imageCleanup wx env fuel (writeAs wx env name (leaveTemp frame)) =
        some (cleanedFrame, cleaned)) :
      ImageSaveAsEnd name { cleanedFrame with sFilename := name, sOriginalFilename := name }

variable {wx env fuel frame} {after : Frame Pixels}

theorem imageLoad_ends {name : FileName} {original : Bool}
    (load : imageLoad wx env (fuel + 1) name original frame = some after) :
    LoadEnd wx env fuel frame name original after := by
  simp only [imageLoad] at load
  split at load
  · rename_i loading
    cases load
    exact .busy loading
  · rename_i idle
    obtain ⟨⟨cleanedFrame, cleaned⟩, cleanup, rest⟩ := Option.bind_eq_some_iff.mp load
    cases rest
    exact .load (Bool.eq_false_iff.mpr idle) cleanup

theorem imageCleanup_ends {cleaned : Bool}
    (cleanup : imageCleanup wx env (fuel + 1) frame = some (after, cleaned)) :
    CleanupEnd wx env fuel frame after cleaned := by
  simp only [imageCleanup] at cleanup
  split at cleanup
  · rename_i asked
    obtain ⟨isDirty, autoSave⟩ := Bool.and_eq_true_iff.mp asked
    split at cleanup
    · obtain ⟨saved, save, ended⟩ := Option.bind_eq_some_iff.mp cleanup
      cases ended
      exact .save isDirty (.inl autoSave) save
    · obtain ⟨saved, save, ended⟩ := Option.bind_eq_some_iff.mp cleanup
      cases ended
      exact .saveAs isDirty autoSave save
  · split at cleanup
    · rename_i isDirty
      split at cleanup
      · rename_i yes
        obtain ⟨saved, save, ended⟩ := Option.bind_eq_some_iff.mp cleanup
        cases ended
        exact .save isDirty (.inr yes) save
      · rename_i no
        cases cleanup
        exact .drop isDirty no
      · rename_i cancel
        cases cleanup
        exact .cancelled isDirty cancel
    · rename_i isClean
      cases cleanup
      exact .clean (Bool.eq_false_iff.mpr isClean)

/-- Without a name there is nothing to save. -/
theorem onFileSave_ends (save : onFileSave wx env (fuel + 1) frame = some after) :
    frame.sFilename = noFile ∧ after = frame ∨
      frame.sFilename ≠ noFile ∧
        SaveEnd wx env fuel (writePendingComment wx env frame) after := by
  simp only [onFileSave] at save
  split at save
  · rename_i noName
    cases save
    exact .inl ⟨noName, rfl⟩
  · rename_i named
    refine .inr ⟨named, ?_⟩
    split at save
    · rename_i unwritable
      exact .saveAs (by simpa using unwritable) save
    · rename_i allowed
      have writable : (env (writePendingComment wx env frame)).isFileWritable
          (writePendingComment wx env frame).sOriginalFilename = true := by simpa using allowed
      split at save
      · rename_i flag
        cases save
        exact .lossless writable flag
      · rename_i lossy
        have flag := Bool.eq_false_iff.mpr lossy
        split at save
        · rename_i loading
          cases save
          exact .lossy writable flag loading
        · rename_i idle
          exact .reload writable flag (Bool.eq_false_iff.mpr idle) save

theorem onFileSaveAs_ends (save : onFileSaveAs wx env (fuel + 1) frame = some after) :
    SaveAsEnd wx env fuel frame after := by
  simp only [onFileSaveAs] at save
  split at save
  · rename_i noName
    cases save
    exact .unselected noName
  · rename_i named
    obtain ⟨saved, saves, load⟩ := Option.bind_eq_some_iff.mp save
    exact .load named saves load

theorem imageSaveAs_ends {name : FileName}
    (save : imageSaveAs wx env (fuel + 1) name frame = some after) :
    ImageSaveAsEnd wx env fuel frame name after := by
  simp only [imageSaveAs] at save
  split at save
  · rename_i noName
    cases save
    exact .unnamed noName
  · rename_i named
    obtain ⟨⟨cleanedFrame, cleaned⟩, cleanup, ended⟩ := Option.bind_eq_some_iff.mp save
    cases ended
    exact .save named cleanup

end Ends

end RPhoto.Editing
