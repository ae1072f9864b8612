import RPhoto.Editing.SampleWorld
import RPhoto.Library.Recorded

/-!
# The lossless flag over whole runs

While the lossless flag is set the displayed image is the decoding of the working
file, so a save may copy that file.  Nested loads and saves break this for a
while; what holds throughout them is only that a load is going on or not, and the
load that ends them shows its file again.
-/

namespace RPhoto.Editing

open RPhoto.Jpeg RPhoto.Library

variable {Pixels : Type}

/-- In lossless mode the displayed image is the decoding of the working file. -/
def ShowsFile (wx : Wx Pixels) (document : Document Pixels) : Prop :=
  document.bJPEGlossless = true →
    document.image = (document.files.content document.sFilename).bind wx.decode

/--
The conditions on the calls of a run: copies, tools and loads succeed, no
inclination is applied in lossless mode, and an undo point in lossless mode drops
no entry that owns the working file.
-/
def CallTrusted (entry : Call × Document Pixels) : Prop :=
  match entry.1 with
  | .copyFile succeeded | .jpegtran _ succeeded | .jhead succeeded => succeeded = true
  | .wrjpgcom succeeded | .loadFile succeeded => succeeded = true
  | .inclination => entry.2.bJPEGlossless = false
  | .undoPoint limit =>
      entry.2.bJPEGlossless = true →
        ∀ dropped ∈ droppedEntries limit entry.2, dropped.owner ≠ some entry.2.sFilename
  | .createTempFileName _ | .saveFile _ | .imageLoad _ | .autorotate => True

instance : (entry : Call × Document Pixels) → Decidable (CallTrusted entry)
  | (.copyFile succeeded, _) | (.jpegtran _ succeeded, _) | (.jhead succeeded, _)
  | (.wrjpgcom succeeded, _) | (.loadFile succeeded, _) =>
      inferInstanceAs (Decidable (succeeded = true))
  | (.inclination, document) => inferInstanceAs (Decidable (document.bJPEGlossless = false))
  | (.undoPoint limit, document) =>
      inferInstanceAs (Decidable (document.bJPEGlossless = true →
        ∀ dropped ∈ droppedEntries limit document, dropped.owner ≠ some document.sFilename))
  | (.createTempFileName _, _) | (.saveFile _, _) | (.imageLoad _, _) | (.autorotate, _) =>
      instDecidableTrue

/-- The frame between two calls: it shows its file if that is asked for, and a load is going on
or not. -/
structure ShownFrame (wx : Wx Pixels) (shows loading : Bool) (frame : Frame Pixels) : Prop where
  shown : shows = true → ShowsFile wx frame.toDocument
  isLoading : frame.isFileLoading = loading

/-- Going from one frame to another shows the file, given trusted calls. -/
abbrev KeepsShown (wx : Wx Pixels) (shows shows' loading : Bool) (first last : Frame Pixels) :
    Prop :=
  Keeps Frame.calls CallTrusted (ShownFrame wx shows loading) (ShownFrame wx shows' loading)
    first last

section Steps

variable {wx : Wx Pixels} {shows loading : Bool} {first last frame : Frame Pixels}

/-- The parts of a frame the shown file depends on. -/
def shownFile (frame : Frame Pixels) :=
  (frame.files, frame.sFilename, frame.bJPEGlossless, frame.image, frame.isFileLoading)

theorem ShownFrame.congr (known : ShownFrame wx shows loading first)
    (same : shownFile last = shownFile first) : ShownFrame wx shows loading last := by
  simp only [shownFile, Prod.mk.injEq] at same
  obtain ⟨files, name, lossless, image, isLoading⟩ := same
  refine ⟨fun asked flag => ?_, isLoading.trans known.isLoading⟩
  rw [image, files, name]
  exact known.shown asked (lossless ▸ flag)

theorem ShownFrame.relax (known : ShownFrame wx true loading frame) :
    ShownFrame wx shows loading frame :=
  ⟨fun _ => known.shown rfl, known.isLoading⟩

theorem ShownFrame.hide (known : ShownFrame wx shows loading frame) :
    ShownFrame wx false loading frame :=
  ⟨fun asked => (nomatch asked), known.isLoading⟩

theorem keepsShown_relax (keeps : KeepsShown wx shows true loading first last) :
    KeepsShown wx shows shows loading first last :=
  keeps.mono id ShownFrame.relax

theorem keepsShown_quiet (calls : last.calls = first.calls)
    (same : shownFile last = shownFile first) : KeepsShown wx shows shows loading first last :=
  .silent calls fun known => known.congr same

/-- A change to a lossy document, whose image need not be in a file. -/
theorem keepsShown_lossy {shows' : Bool} (calls : last.calls = first.calls)
    (isLoading : last.isFileLoading = first.isFileLoading)
    (lossy : last.bJPEGlossless = false) : KeepsShown wx shows shows' loading first last :=
  .silent calls fun known =>
    ⟨fun _ flag => absurd (lossy.symm.trans flag) Bool.false_ne_true,
      isLoading.trans known.isLoading⟩

/-- Without anything to show only the load in progress matters. -/
theorem keepsShown_hidden {entry : Call × Document Pixels}
    (calls : last.calls = first.calls ++ [entry])
    (isLoading : last.isFileLoading = first.isFileLoading) :
    KeepsShown wx shows false loading first last :=
  .entry calls fun _ known => ⟨fun asked => (nomatch asked), isLoading.trans known.isLoading⟩

variable (wx) (env : Environment Pixels) (frame)

theorem keepsShown_updateControlsState :
    KeepsShown wx shows shows loading frame (updateControlsState frame) :=
  keepsShown_quiet rfl rfl

theorem keepsShown_dirty : KeepsShown wx shows shows loading frame (dirty frame) :=
  keepsShown_quiet rfl rfl

/-- An undo point keeps the working file of a lossless document. -/
theorem keepsShown_imageUndoPoint :
    KeepsShown wx shows shows loading frame (imageUndoPoint env frame) := by
  unfold imageUndoPoint
  split
  · exact .refl frame id
  · refine .entry rfl fun trusted known => ⟨fun asked flag => ?_, known.isLoading⟩
    have kept := content_undoPoint (trusted flag)
    exact (known.shown asked flag).trans (congrArg (Option.bind · wx.decode) kept.symm)

/-! ## Tools and loads -/

theorem keepsShown_switchToTemp :
    KeepsShown wx shows false loading frame (switchToTemp env frame) :=
  keepsShown_hidden rfl rfl

/-- A load of the working file shows it. -/
theorem keepsShown_boxLoadFile :
    KeepsShown wx shows true loading frame (boxLoadFile wx frame.sFilename frame) := by
  refine .entry rfl fun loads known => ⟨fun _ _ => ?_, known.isLoading⟩
  obtain ⟨decoded, decodes⟩ := Option.isSome_iff_exists.mp loads
  change loadedImage wx frame.sFilename frame.toDocument =
    (frame.files.content frame.sFilename).bind wx.decode
  rw [loadedImage, decodes]

/-- A copy that succeeds does not leave the function. -/
theorem keepsShown_copyToTemp :
    Keeps Frame.calls CallTrusted (ShownFrame wx shows loading)
      (fun last => ShownFrame wx false loading last ∧ (copyToTemp env frame).2 = true)
      frame (copyToTemp env frame).1 := by
  refine ((keepsShown_imageUndoPoint wx frame env).trans
    (keepsShown_switchToTemp wx _ env)).trans ?_
  unfold copyToTemp
  dsimp only
  split
  · exact .entry rfl fun _ known => ⟨⟨fun asked => (nomatch asked), known.isLoading⟩, rfl⟩
  · exact .entry rfl fun succeeded known =>
      ⟨⟨fun asked => (nomatch asked), known.isLoading⟩, succeeded⟩

/-- A tool that succeeds is followed by a load of the working file. -/
theorem keepsShown_applyTool (call : Bool → Call) (output : Option Bytes)
    (trusts : ∀ succeeded (document : Document Pixels),
      CallTrusted (call succeeded, document) → succeeded = true) :
    KeepsShown wx shows true loading frame (applyTool wx call output frame).1 := by
  cases output with
  | none =>
      exact .entry rfl fun trusted _ =>
        absurd (trusts false frame.toDocument trusted) Bool.false_ne_true
  | some data =>
      let toolFrame : Frame Pixels :=
        { frame.record (call true) with files := frame.files.write frame.sFilename data }
      have written : KeepsShown wx shows false loading frame toolFrame :=
        keepsShown_hidden rfl rfl
      exact (written.trans (keepsShown_boxLoadFile wx toolFrame)).trans
        (keepsShown_updateControlsState wx _)

theorem keepsShown_callJPEGTranTryPerfect (command : JpegtranCommand) :
    KeepsShown wx shows true loading frame (callJPEGTranTryPerfect wx env command frame).1 := by
  have copied := @keepsShown_copyToTemp _ wx shows loading frame env
  unfold callJPEGTranTryPerfect
  dsimp only
  split
  · exact (copied.mono id And.left).trans
      (keepsShown_applyTool wx _ (.jpegtran command) _ fun _ _ trusted => trusted)
  · rename_i left
    exact copied.mono id fun known => absurd known.2 left

theorem keepsShown_callJHead (command : JheadCommand) :
    KeepsShown wx shows true loading frame (callJHead wx env command frame).1 := by
  have copied := @keepsShown_copyToTemp _ wx shows loading frame env
  unfold callJHead
  dsimp only
  split
  · exact (copied.mono id And.left).trans
      (keepsShown_applyTool wx _ .jhead _ fun _ _ trusted => trusted)
  · rename_i left
    exact copied.mono id fun known => absurd known.2 left

/-! ## Image operations -/

theorem keepsShown_beginImageManip :
    KeepsShown wx shows shows loading frame (beginImageManip env frame) :=
  (keepsShown_imageUndoPoint wx frame env).trans (keepsShown_quiet rfl rfl)

/-- A lossy manipulation of a lossy document. -/
theorem keepsShown_imageManip (lossy : frame.bJPEGlossless = false) (transform : Transform) :
    KeepsShown wx shows true loading frame (imageManip wx env transform frame) := by
  refine (keepsShown_beginImageManip wx frame env).trans ?_
  refine imageManip_elim (motive := fun begun last =>
    begun.bJPEGlossless = false → KeepsShown wx shows true loading begun last) ?_
    (beginImageManip_bJPEGlossless.trans lossy)
  intro begun flag
  exact keepsShown_lossy rfl rfl flag

theorem keepsShown_losslessOrManip (command : JpegtranCommand) (transform : Transform) :
    KeepsShown wx shows true loading frame (losslessOrManip wx env command transform frame) := by
  unfold losslessOrManip
  split
  · exact keepsShown_callJPEGTranTryPerfect wx frame env command
  · rename_i lossy
    exact keepsShown_imageManip wx frame env (Bool.eq_false_iff.mpr lossy) transform

theorem keepsShown_dirty_losslessOrManip (command : JpegtranCommand) (transform : Transform) :
    KeepsShown wx shows true loading frame
      (losslessOrManip wx env command transform (dirty frame)) :=
  (keepsShown_dirty wx frame).trans (keepsShown_losslessOrManip wx _ env command transform)

theorem keepsShown_onImageCrop :
    KeepsShown wx shows shows loading frame (onImageCrop wx env frame) := by
  unfold onImageCrop
  dsimp only
  split
  · exact keepsShown_relax (keepsShown_dirty_losslessOrManip wx frame env _ _)
  · exact .refl frame id

theorem keepsShown_onImageJPEGOptimize :
    KeepsShown wx shows shows loading frame (onImageJPEGOptimize wx env frame) := by
  refine (keepsShown_dirty wx frame).trans ?_
  unfold onImageJPEGOptimize
  dsimp only
  split
  · exact keepsShown_relax (keepsShown_callJPEGTranTryPerfect wx _ env .optimize)
  · exact .refl _ id

theorem keepsShown_onImageJPEGProgressive :
    KeepsShown wx shows shows loading frame (onImageJPEGProgressive wx env frame) := by
  unfold onImageJPEGProgressive
  split
  · exact keepsShown_relax (keepsShown_callJPEGTranTryPerfect wx frame env .progressive)
  · exact .refl frame id

/-- An inclination leaves a lossy document: it is applied in lossy mode only. -/
theorem keepsShown_inclineImage :
    KeepsShown wx shows true loading frame (inclineImage wx env frame) := by
  have recorded : Keeps Frame.calls CallTrusted (ShownFrame wx shows loading)
      (fun last => ShownFrame wx shows loading last ∧ frame.bJPEGlossless = false)
      frame (frame.record .inclination) :=
    .entry rfl fun lossy known => ⟨known.congr rfl, lossy⟩
  refine (recorded.trans ((keepsShown_beginImageManip wx _ env).carry _)).trans ?_
  refine inclineImage_elim (motive := fun begun last =>
    begun.bJPEGlossless = frame.bJPEGlossless →
      Keeps Frame.calls CallTrusted
        (fun known => ShownFrame wx shows loading known ∧ frame.bJPEGlossless = false)
        (ShownFrame wx true loading) begun last) ?_ beginImageManip_bJPEGlossless
  intro begun dx dy same
  refine .silent rfl fun known => ⟨fun _ flag => ?_, known.1.isLoading⟩
  exact absurd ((same.trans known.2).symm.trans flag) Bool.false_ne_true

theorem keepsShown_onImageInclin :
    KeepsShown wx shows shows loading frame (onImageInclin wx env frame) := by
  have inclined : KeepsShown wx shows shows loading frame (inclineImage wx env frame) :=
    keepsShown_relax (keepsShown_inclineImage wx frame env)
  unfold onImageInclin
  dsimp only
  split
  · split
    · exact inclined.trans (keepsShown_onImageCrop wx _ env)
    · exact inclined
  · exact .refl frame id

theorem keepsShown_onToolAction :
    KeepsShown wx shows shows loading frame (onToolAction wx env frame) := by
  unfold onToolAction
  split
  · exact keepsShown_onImageInclin wx frame env
  · exact keepsShown_onImageCrop wx frame env

/-- Entering the inclination mode leaves the lossless one. -/
theorem keepsShown_onModeInclin :
    KeepsShown wx shows shows loading frame (onModeInclin wx env frame) := by
  unfold onModeInclin
  dsimp only
  split
  · exact (keepsShown_onImageInclin wx frame env).trans (keepsShown_updateControlsState wx _)
  · split
    · rename_i flag
      exact keepsShown_lossy rfl rfl (by simp [updateControlsState, onToggleJPEGLossless, flag])
    · exact keepsShown_quiet rfl rfl

theorem keepsShown_onModeCrop :
    KeepsShown wx shows shows loading frame (onModeCrop wx env frame) := by
  unfold onModeCrop
  split
  · exact keepsShown_quiet rfl rfl
  · exact (keepsShown_onImageCrop wx frame env).trans (keepsShown_updateControlsState wx _)

/-- A resize leaves a lossy document. -/
theorem keepsShown_resize (destWidth destHeight : Int) :
    KeepsShown wx shows true loading frame (resize wx env destWidth destHeight frame) := by
  refine (keepsShown_beginImageManip wx frame env).trans ?_
  apply resize_elim (motive := KeepsShown wx shows true loading)
  · intro begun lossy
    exact keepsShown_lossy rfl rfl lossy
  · intro begun lossless
    exact keepsShown_lossy rfl rfl (congrArg (!·) lossless)

theorem keepsShown_writeCommentLossless :
    KeepsShown wx shows true loading frame (writeCommentLossless wx env frame) := by
  have pointed := (@keepsShown_imageUndoPoint _ wx shows loading frame env).trans
    (keepsShown_switchToTemp wx _ env)
  have called : Keeps Frame.calls CallTrusted (ShownFrame wx false loading)
      (fun last => ShownFrame wx false loading last ∧
        (callWrjpgcom wx env (sourceFilename (imageUndoPoint env frame).toDocument)
          (switchToTemp env (imageUndoPoint env frame))).2 = true)
      (switchToTemp env (imageUndoPoint env frame))
      (callWrjpgcom wx env (sourceFilename (imageUndoPoint env frame).toDocument)
        (switchToTemp env (imageUndoPoint env frame))).1 :=
    .entry rfl fun succeeded known => ⟨⟨fun asked => (nomatch asked), known.isLoading⟩, succeeded⟩
  refine (pointed.trans called).trans ?_
  unfold writeCommentLossless
  dsimp only
  split
  · exact ((keepsShown_boxLoadFile wx _).mono And.left id).trans
      (keepsShown_updateControlsState wx _)
  · rename_i fails
    exact .trans (.entry rfl fun _ known => absurd known.2 fails)
      (keepsShown_updateControlsState wx _)

theorem keepsShown_writeComment :
    KeepsShown wx shows true loading frame (writeComment wx env frame) := by
  unfold writeComment
  split
  · exact keepsShown_writeCommentLossless wx frame env
  · rename_i lossy
    exact (keepsShown_beginImageManip wx frame env).trans (keepsShown_lossy rfl rfl
      ((imageUndoPoint_bJPEGlossless env frame).trans (Bool.eq_false_iff.mpr lossy)))

theorem keepsShown_onImageWriteComment :
    KeepsShown wx shows shows loading frame (onImageWriteComment wx env frame) := by
  unfold onImageWriteComment
  split
  · exact keepsShown_relax (((keepsShown_dirty wx frame).trans
      (keepsShown_writeComment wx _ env)).trans (keepsShown_quiet rfl rfl))
  · exact .refl frame id

/-! ## Undo and redo -/

/-- The newest entry is a snapshot, and dropping it would not remove the working file. -/
def RestoresSafely (document : Document Pixels) (entries : List (RpUndo Pixels)) : Prop :=
  match entries.getLast? with
  | none => True
  | some (.image snapshot) =>
      snapshot.FilesExist document.files ∨ snapshot.owner ≠ some document.sFilename
  | some (.move _) => False

instance (document : Document Pixels) (entries : List (RpUndo Pixels)) :
    Decidable (RestoresSafely document entries) := by
  unfold RestoresSafely
  split <;> infer_instance

variable {wx frame env}

/-- A restored lossless snapshot reads its image from the working file. -/
theorem ShownFrame.restored {snapshot : RpImage Pixels} (known : ShownFrame wx shows loading first)
    (files : last.files = first.files) (name : last.sFilename = snapshot.sFilename)
    (lossless : last.bJPEGlossless = snapshot.bJPEGlossless)
    (image : last.image = snapshot.restoredImage wx first.files)
    (isLoading : last.isFileLoading = first.isFileLoading) : ShownFrame wx shows loading last := by
  refine ⟨fun _ flag => ?_, isLoading.trans known.isLoading⟩
  rw [image, files, name]
  exact if_pos (lossless ▸ flag)

/-- A dropped snapshot that does not own the working file leaves it. -/
theorem ShownFrame.drop {snapshot : RpImage Pixels} (known : ShownFrame wx shows loading first)
    (notOwned : snapshot.owner ≠ some first.sFilename)
    (files : last.files = snapshot.destroy false first.files)
    (name : last.sFilename = first.sFilename)
    (lossless : last.bJPEGlossless = first.bJPEGlossless) (image : last.image = first.image)
    (isLoading : last.isFileLoading = first.isFileLoading) : ShownFrame wx shows loading last := by
  refine ⟨fun asked flag => ?_, isLoading.trans known.isLoading⟩
  have kept : (destroyAll [.image snapshot] first.files).content first.sFilename =
      first.files.content first.sFilename :=
    content_destroyAll_of_notOwned fun entry member => by
      cases List.mem_singleton.mp member
      exact notOwned
  rw [image, files, name, known.shown asked (lossless ▸ flag)]
  exact congrArg (Option.bind · wx.decode) kept.symm

theorem keepsShown_onImageUndo (safe : RestoresSafely frame.toDocument frame.historyUndo) :
    KeepsShown wx shows shows loading frame (onImageUndo wx env frame) := by
  refine .silent onImageUndo_calls fun known => onImageUndo_elim known
    (fun older snapshot newest filesExist => ?_) (fun older snapshot newest missing => ?_)
    fun older action newest => ?_
  · exact known.restored rfl rfl rfl rfl rfl
  · simp only [RestoresSafely, newest, List.getLast?_append, List.getLast?_singleton,
      Option.some_or] at safe
    exact known.drop (safe.resolve_left missing) rfl rfl rfl rfl rfl
  · simp [RestoresSafely, newest] at safe

theorem keepsShown_onImageRedo (safe : RestoresSafely frame.toDocument frame.historyRedo) :
    KeepsShown wx shows shows loading frame (onImageRedo wx env frame) := by
  refine .silent onImageRedo_calls fun known => onImageRedo_elim known
    (fun later snapshot newest filesExist => ?_) (fun later snapshot newest missing => ?_)
    fun later action newest => ?_
  · exact known.restored rfl rfl rfl rfl rfl
  · simp only [RestoresSafely, newest, List.getLast?_append, List.getLast?_singleton,
      Option.some_or] at safe
    exact known.drop (safe.resolve_left missing) rfl rfl rfl rfl rfl
  · simp [RestoresSafely, newest] at safe

end Steps

/-! ## Loading and saving -/

section LoadSave

variable (wx : Wx Pixels) (env : Environment Pixels) {shows loading : Bool}
  {frame after : Frame Pixels} {fuel : Nat}

theorem keepsShown_openImage (name : FileName) (original : Bool) :
    KeepsShown wx shows true loading frame (openImage wx name original frame) := by
  refine .entry rfl fun loads known => ⟨fun _ _ => ?_, known.isLoading⟩
  obtain ⟨decoded, decodes⟩ := Option.isSome_iff_exists.mp loads
  change loadedImage wx name _ = (frame.files.content name).bind wx.decode
  rw [loadedImage, decodes]

theorem keepsShown_autoCrop :
    KeepsShown wx shows shows loading frame (autoCrop wx env frame) := by
  unfold autoCrop
  split
  · exact keepsShown_onToolAction wx frame env
  · exact .refl frame id

theorem keepsShown_autoRotate :
    KeepsShown wx shows shows loading frame (autoRotate wx env frame) := by
  unfold autoRotate
  split
  · have recorded : KeepsShown wx shows shows loading frame
        { frame.record .autorotate with isAutorotating := true } :=
      .entry rfl fun _ known => known.congr rfl
    exact keepsShown_relax ((recorded.trans (keepsShown_callJHead wx _ env .autorot)).trans
      (keepsShown_quiet rfl rfl))
  · exact .refl frame id

theorem keepsShown_writePendingComment :
    KeepsShown wx shows shows loading frame (writePendingComment wx env frame) := by
  unfold writePendingComment
  split
  · exact keepsShown_onImageWriteComment wx frame env
  · exact .refl frame id

/-- A lossless save overwrites another file than the working one. -/
theorem keepsShown_saveLossless :
    KeepsShown wx shows shows loading frame (saveLossless env frame) := by
  have copied : ∀ source destination, destination ≠ frame.sFilename →
      KeepsShown wx shows shows loading frame (copyFile env source destination frame) := by
    intro source destination other
    refine .entry rfl fun _ known => ⟨fun asked flag => ?_, known.isLoading⟩
    refine (known.shown asked flag).trans (congrArg (Option.bind · wx.decode) ?_)
    change _ = (writeOutcome destination _ frame.files).content frame.sFilename
    cases (copyOutcome (env frame).copyFault destination (frame.files.content source)).1 with
    | none => rfl
    | some data => exact (FileStore.content_write_of_ne (Ne.symm other)).symm
  unfold saveLossless
  split
  · rename_i different
    exact (copied _ _ (Ne.symm different)).trans (keepsShown_quiet rfl rfl)
  · exact keepsShown_quiet rfl rfl

theorem keepsShown_leaveTemp :
    KeepsShown wx shows false loading frame (leaveTemp frame) :=
  .silent rfl fun known => ⟨fun asked => (nomatch asked), known.isLoading⟩

theorem keepsShown_writeAs {name : FileName} :
    KeepsShown wx shows false loading frame (writeAs wx env name frame) := by
  unfold writeAs
  split <;> exact keepsShown_hidden rfl rfl

theorem keepsShown_saveLossy :
    KeepsShown wx shows false loading frame (saveLossy wx env frame) :=
  (keepsShown_leaveTemp wx).trans (keepsShown_hidden rfl rfl)

theorem keepsShown_saveLossy_of_lossy (lossy : frame.bJPEGlossless = false) :
    KeepsShown wx shows true loading frame (saveLossy wx env frame) :=
  (keepsShown_saveLossy wx env).trans (keepsShown_lossy rfl rfl lossy)

/-- A cancelled cleanup has only cropped. -/
theorem imageCleanup_cancelled
    (cleanup : imageCleanup wx env fuel frame = some (after, false)) :
    after = autoCrop wx env frame ∧ (env after).saveAnswer = .cancel := by
  cases fuel with
  | zero => cases cleanup
  | succ fuel =>
      cases imageCleanup_ends cleanup with
      | cancelled _ answer => exact ⟨rfl, answer⟩

/-- The nested loads and saves with this much fuel end as they began: loading or not. -/
structure EndsLoads (fuel : Nat) : Prop where
  load : ∀ {loading : Bool} {frame after : Frame Pixels} {name : FileName} {original : Bool},
    imageLoad wx env fuel name original frame = some after →
      KeepsShown wx false false loading frame after
  cleanup : ∀ {loading : Bool} {frame after : Frame Pixels} {cleaned : Bool},
    imageCleanup wx env fuel frame = some (after, cleaned) →
      KeepsShown wx false false loading frame after
  save : ∀ {loading : Bool} {frame after : Frame Pixels},
    onFileSave wx env fuel frame = some after → KeepsShown wx false false loading frame after
  saveAs : ∀ {loading : Bool} {frame after : Frame Pixels},
    onFileSaveAs wx env fuel frame = some after → KeepsShown wx false false loading frame after
  imageSaveAs : ∀ {loading : Bool} {frame after : Frame Pixels} {name : FileName},
    imageSaveAs wx env fuel name frame = some after →
      KeepsShown wx false false loading frame after

section Nested

variable {wx env} (ends : EndsLoads wx env fuel)

include ends in
theorem endsLoads_imageLoad {name : FileName} {original : Bool}
    (load : imageLoad wx env (fuel + 1) name original frame = some after) :
    KeepsShown wx false false loading frame after := by
  cases imageLoad_ends load with
  | busy => exact .refl frame id
  | @load cleanedFrame cleaned idle cleanup =>
      have begins : Keeps Frame.calls CallTrusted (ShownFrame wx false false)
          (ShownFrame wx false true) frame
          { frame.record (.imageLoad name) with isFileLoading := true } :=
        .entry rfl fun _ _ => ⟨fun asked => (nomatch asked), rfl⟩
      have cleans :=
        (begins.trans (keepsShown_imageUndoPoint wx _ env)).trans (ends.cleanup cleanup)
      have whole : KeepsShown wx false false false frame
          (autoRotate wx env (endLoading
            (if cleaned then openImage wx name original cleanedFrame else cleanedFrame))) := by
        refine .trans ?_ (keepsShown_autoRotate wx env)
        cases cleaned with
        | true =>
            exact (cleans.trans (keepsShown_openImage wx name original)).trans
              (.silent rfl fun _ => ⟨fun asked => (nomatch asked), rfl⟩)
        | false =>
            exact cleans.trans (.silent rfl fun _ => ⟨fun asked => (nomatch asked), rfl⟩)
      refine ⟨whole.grows, fun trusted known => ?_⟩
      have notLoading : loading = false := known.isLoading.symm.trans idle
      subst notLoading
      exact whole.holds trusted known

include ends in
theorem endsLoads_imageCleanup {cleaned : Bool}
    (cleanup : imageCleanup wx env (fuel + 1) frame = some (after, cleaned)) :
    KeepsShown wx false false loading frame after := by
  refine (keepsShown_autoCrop wx env).trans ?_
  cases imageCleanup_ends cleanup with
  | save _ _ save => exact ends.save save
  | saveAs _ _ save => exact ends.imageSaveAs save
  | drop => exact keepsShown_quiet rfl rfl
  | cancelled => exact .refl _ id
  | clean => exact .refl _ id

include ends in
theorem endsLoads_onFileSaveAs
    (save : onFileSaveAs wx env (fuel + 1) frame = some after) :
    KeepsShown wx false false loading frame after := by
  cases onFileSaveAs_ends save with
  | unselected => exact .refl frame id
  | load _ save load => exact (ends.imageSaveAs save).trans (ends.load load)

include ends in
theorem endsLoads_imageSaveAs {name : FileName}
    (save : imageSaveAs wx env (fuel + 1) name frame = some after) :
    KeepsShown wx false false loading frame after := by
  cases imageSaveAs_ends save with
  | unnamed => exact .refl frame id
  | save _ cleanup =>
      refine .trans ?_ ((ends.cleanup cleanup).trans (.silent rfl fun known =>
        ⟨fun asked => (nomatch asked), known.isLoading⟩))
      exact (keepsShown_leaveTemp wx).trans (keepsShown_writeAs wx env)

include ends in
theorem endsLoads_onFileSave
    (save : onFileSave wx env (fuel + 1) frame = some after) :
    KeepsShown wx false false loading frame after := by
  rcases onFileSave_ends save with ⟨_, rfl⟩ | ⟨_, ended⟩
  · exact .refl _ id
  · refine (keepsShown_writePendingComment wx env).trans ?_
    cases ended with
    | saveAs _ save => exact ends.saveAs save
    | lossless => exact keepsShown_saveLossless wx env
    | lossy => exact keepsShown_saveLossy wx env
    | reload _ _ _ load => exact (keepsShown_saveLossy wx env).trans (ends.load load)

end Nested

/-- With every fuel nested loads and saves end as they began. -/
theorem endsLoads (fuel : Nat) : EndsLoads wx env fuel := by
  induction fuel with
  | zero =>
      exact {
        load := fun load => (nomatch load)
        cleanup := fun cleanup => (nomatch cleanup)
        save := fun save => (nomatch save)
        saveAs := fun save => (nomatch save)
        imageSaveAs := fun save => (nomatch save) }
  | succ fuel ih =>
      exact {
        load := endsLoads_imageLoad ih
        cleanup := endsLoads_imageCleanup ih
        save := endsLoads_onFileSave ih
        saveAs := endsLoads_onFileSaveAs ih
        imageSaveAs := endsLoads_imageSaveAs ih }

/-- No question of a cleanup is cancelled. -/
def NeverCancelled (env : Environment Pixels) : Prop :=
  ∀ frame, (env frame).saveAnswer ≠ .cancel

variable {wx env}

/-- A load shows its file; a cancelled one shows what was shown before. -/
theorem keepsShown_imageLoad {name : FileName} {original : Bool}
    (shownBefore : shows = true ∨ NeverCancelled env)
    (load : imageLoad wx env fuel name original frame = some after) :
    KeepsShown wx shows true false frame after := by
  cases fuel with
  | zero => cases load
  | succ fuel =>
      cases imageLoad_ends load with
      | busy isLoading =>
          refine .refl frame fun known => ?_
          exact absurd (known.isLoading.symm.trans isLoading) Bool.false_ne_true
      | @load cleanedFrame cleaned _ cleanup =>
          have begins : Keeps Frame.calls CallTrusted (ShownFrame wx shows false)
              (ShownFrame wx shows true) frame
              { frame.record (.imageLoad name) with isFileLoading := true } :=
            .entry rfl fun _ known => ⟨known.shown, rfl⟩
          have pointed := begins.trans (keepsShown_imageUndoPoint wx _ env)
          have ended : ∀ {loaded : Frame Pixels}, Keeps Frame.calls CallTrusted
              (ShownFrame wx true true) (ShownFrame wx true false) loaded (endLoading loaded) :=
            .silent rfl fun known => ⟨known.shown, rfl⟩
          refine .trans ?_ (keepsShown_autoRotate wx env)
          cases cleaned with
          | true =>
              have hidden := pointed.mono id (ShownFrame.hide)
              exact ((hidden.trans ((endsLoads wx env fuel).cleanup cleanup)).trans
                (keepsShown_openImage wx name original)).trans ended
          | false =>
              obtain ⟨rfl, cancelled⟩ := imageCleanup_cancelled wx env cleanup
              rcases shownBefore with rfl | never
              · exact (pointed.trans (keepsShown_autoCrop wx env)).trans ended
              · exact absurd cancelled (never _)

/-- Every original is writable. -/
def AlwaysWritable (env : Environment Pixels) : Prop :=
  ∀ frame, (env frame).isFileWritable frame.sOriginalFilename = true

/-- A save shows its file, unless it becomes a save under another name that is not reloaded. -/
theorem keepsShown_onFileSave (reloads : NeverCancelled env ∨ AlwaysWritable env)
    (save : onFileSave wx env fuel frame = some after) :
    KeepsShown wx true true false frame after := by
  cases fuel with
  | zero => cases save
  | succ fuel =>
      rcases onFileSave_ends save with ⟨_, rfl⟩ | ⟨_, ended⟩
      · exact .refl _ id
      · refine (keepsShown_writePendingComment wx env).trans ?_
        cases ended with
        | saveAs unwritable save =>
            have never : NeverCancelled env := reloads.resolve_right fun writable => by
              simp [writable _] at unwritable
            cases fuel with
            | zero => cases save
            | succ fuel =>
                cases onFileSaveAs_ends save with
                | unselected => exact .refl _ id
                | load _ save load =>
                    exact (((endsLoads wx env fuel).imageSaveAs save).mono
                      ShownFrame.hide id).trans (keepsShown_imageLoad (.inr never) load)
        | lossless => exact keepsShown_saveLossless wx env
        | lossy _ flag => exact keepsShown_saveLossy_of_lossy wx env flag
        | reload _ flag _ load =>
            exact (keepsShown_saveLossy_of_lossy wx env flag).trans
              (keepsShown_imageLoad (.inl rfl) load)

theorem writeComment_bJPEGlossless (frame : Frame Pixels) :
    (writeComment wx env frame).bJPEGlossless = frame.bJPEGlossless := by
  have pointed := imageUndoPoint_bJPEGlossless env frame
  unfold writeComment
  split
  · unfold writeCommentLossless
    dsimp only
    split <;> exact pointed
  · exact pointed

theorem writePendingComment_bJPEGlossless (frame : Frame Pixels) :
    (writePendingComment wx env frame).bJPEGlossless = frame.bJPEGlossless := by
  unfold writePendingComment
  split
  · unfold onImageWriteComment
    split
    · exact writeComment_bJPEGlossless (dirty frame)
    · rfl
  · rfl

/-- The original decodes to the displayed image, and only a pending comment is dirty. -/
structure SavedFrame (wx : Wx Pixels) (frame : Frame Pixels) : Prop where
  image : frame.image = (frame.files.content frame.sOriginalFilename).bind wx.decode
  clean : frame.bDirty = frame.textCommentModified

/-- The copy of the working file over the original, if there is anything to copy. -/
theorem keeps_saveLossless (flag : frame.bJPEGlossless = true) :
    Keeps Frame.calls CallTrusted (ShownFrame wx true loading) (SavedFrame wx) frame
      (saveLossless env frame) := by
  unfold saveLossless
  split
  · rename_i different
    refine .entry rfl fun succeeded known => ⟨?_, rfl⟩
    obtain ⟨data, present, copied⟩ := copyOutcome_succeeded succeeded
    have files : (copyFile env frame.sFilename frame.sOriginalFilename frame).files =
        frame.files.write frame.sOriginalFilename data := by
      simp only [copyFile, copied, writeOutcome]
    change frame.image = ((copyFile env frame.sFilename frame.sOriginalFilename frame).files.content
      frame.sOriginalFilename).bind wx.decode
    rw [files, FileStore.content_write_self, ← present]
    exact known.shown rfl flag
  · rename_i same
    refine .silent rfl fun known => ⟨?_, rfl⟩
    have name : frame.sOriginalFilename = frame.sFilename := (not_not.mp same).symm
    change frame.image = (frame.files.content frame.sOriginalFilename).bind wx.decode
    rw [name]
    exact known.shown rfl flag

/-- A lossless save leaves an original that decodes to the displayed image. -/
theorem keeps_lossless_onFileSave (writable : AlwaysWritable env)
    (named : frame.sFilename ≠ noFile) (flag : frame.bJPEGlossless = true)
    (save : onFileSave wx env fuel frame = some after) :
    Keeps Frame.calls CallTrusted (ShownFrame wx true loading) (SavedFrame wx) frame after := by
  cases fuel with
  | zero => cases save
  | succ fuel =>
      have commented := (@writePendingComment_bJPEGlossless _ wx env frame).trans flag
      obtain ⟨_, ended⟩ := (onFileSave_ends save).resolve_left fun unnamed => named unnamed.1
      cases ended with
      | saveAs unwritable => simp [writable _] at unwritable
      | lossless =>
          exact (keepsShown_writePendingComment wx env).trans (keeps_saveLossless commented)
      | lossy _ lossy => exact absurd (lossy.symm.trans commented) Bool.false_ne_true
      | reload _ lossy => exact absurd (lossy.symm.trans commented) Bool.false_ne_true

end LoadSave

/-! ## Runs -/

/--
The operations of a run: undo and redo restore safely, and a save does not
become a save under another name whose reload is cancelled.
-/
def FlagTrusted (action : Action Pixels) (frame : Frame Pixels) : Prop :=
  match action.event with
  | .imageUndo => RestoresSafely frame.toDocument frame.historyUndo
  | .imageRedo => RestoresSafely frame.toDocument frame.historyRedo
  | .fileSave => NeverCancelled action.env ∨ AlwaysWritable action.env
  | .loadFile _ | .fileOpen _ | .fileReload | .fileSaveAs => False
  | .fileMove _ | .fileNameEndEdit _ _ | .toggleJPEGLossless => False
  | _ => True

/-- Every such operation shows the working file in lossless mode. -/
theorem keepsShown_perform {wx : Wx Pixels} {action : Action Pixels}
    {before after : Frame Pixels} (trusted : FlagTrusted action before)
    (performed : perform wx action before = some after) :
    KeepsShown wx true true false before after := by
  obtain ⟨event, env, fuel⟩ := action
  cases event with
  | imageLoad name original => exact keepsShown_imageLoad (.inl rfl) performed
  | loadFile name => exact trusted.elim
  | fileOpen name => exact trusted.elim
  | fileReload => exact trusted.elim
  | fileSave => exact keepsShown_onFileSave trusted performed
  | fileSaveAs => exact trusted.elim
  | fileMove folder => exact trusted.elim
  | fileNameEndEdit treePath label => exact trusted.elim
  | imageUndo =>
      cases performed
      exact keepsShown_onImageUndo trusted
  | imageRedo =>
      cases performed
      exact keepsShown_onImageRedo trusted
  | toolAction =>
      cases performed
      exact keepsShown_onToolAction wx before env
  | modeInclin =>
      cases performed
      exact keepsShown_onModeInclin wx before env
  | modeCrop =>
      cases performed
      exact keepsShown_onModeCrop wx before env
  | imageCrop =>
      cases performed
      exact keepsShown_onImageCrop wx before env
  | imageRotateLeft =>
      cases performed
      exact keepsShown_dirty_losslessOrManip wx before env _ _
  | imageRotateRight =>
      cases performed
      exact keepsShown_dirty_losslessOrManip wx before env _ _
  | imageFlipHorizontal =>
      cases performed
      exact keepsShown_dirty_losslessOrManip wx before env _ _
  | imageFlipVertical =>
      cases performed
      exact keepsShown_losslessOrManip wx before env _ _
  | imageJPEGOptimize =>
      cases performed
      exact keepsShown_onImageJPEGOptimize wx before env
  | imageJPEGProgressive =>
      cases performed
      exact keepsShown_onImageJPEGProgressive wx before env
  | imageInclin =>
      cases performed
      exact keepsShown_onImageInclin wx before env
  | resize destWidth destHeight =>
      cases performed
      exact keepsShown_resize wx before env destWidth destHeight
  | editComment text =>
      cases performed
      exact keepsShown_quiet rfl rfl
  | imageWriteComment =>
      cases performed
      exact keepsShown_onImageWriteComment wx before env
  | toggleJPEGLossless => exact trusted.elim

/--
In every run whose calls are trusted a lossless document shows its working file,
and a save of it leaves an original that decodes to the displayed image.
-/
theorem lossless_shows_file (wx : Wx Pixels) {first last : Frame Pixels}
    (shows : ShowsFile wx first.toDocument) (idle : first.isFileLoading = false)
    (run : Run (perform wx) FlagTrusted first last)
    (trusted : AllFine Frame.calls CallTrusted first last) (flag : last.bJPEGlossless = true) :
    last.image = (last.files.content last.sFilename).bind wx.decode ∧
      ∀ (env : Environment Pixels) (fuel : Nat) (saved : Frame Pixels),
        AlwaysWritable env → last.sFilename ≠ noFile →
          onFileSave wx env fuel last = some saved →
            AllFine Frame.calls CallTrusted last saved → SavedFrame wx saved := by
  have known : ShownFrame wx true false last :=
    (Run.keeps (fun guarded performed => keepsShown_perform guarded performed) run).holds trusted
      ⟨fun _ => shows, idle⟩
  refine ⟨known.shown rfl flag, fun env fuel saved writable named save fine => ?_⟩
  exact (keeps_lossless_onFileSave writable named flag save).holds fine known

/-- A load, two lossless edits with an undo, an inclination in lossy mode, and a second load. -/
def trustedEdits : List Event :=
  [.imageLoad photoA true, .imageRotateLeft, .imageFlipVertical, .imageUndo, .modeInclin,
    .imageInclin, .imageLoad photoB true, .imageRotateRight]

theorem trustedEdits_show_file :
    (sampleFrame 10 trustedEdits).image =
        ((sampleFrame 10 trustedEdits).files.content
          (sampleFrame 10 trustedEdits).sFilename).bind sampleWx.decode ∧
      SavedFrame sampleWx (sampleFrame 10 (trustedEdits ++ [.fileSave])) := by
  have step := fun (first middle last : Frame Bytes) (event : Event) =>
    @Run.tail _ _ (perform sampleWx) FlagTrusted first middle last ⟨event, sampleEnv 10, 3⟩
  have run : Run (perform sampleWx) FlagTrusted (emptyFrame sampleFiles)
      (sampleFrame 10 trustedEdits) :=
    step _ _ _ .imageRotateRight (step _ _ _ (.imageLoad photoB true)
      (step _ _ _ .imageInclin (step _ _ _ .modeInclin (step _ _ _ .imageUndo
        (step _ _ _ .imageFlipVertical (step _ _ _ .imageRotateLeft
          (step _ _ _ (.imageLoad photoA true) (.refl _) trivial rfl) trivial rfl) trivial rfl)
          (Or.inl ⟨by decide, by decide⟩) rfl) trivial rfl) trivial rfl) trivial rfl) trivial rfl
  have both := lossless_shows_file sampleWx (fun flag => absurd flag Bool.false_ne_true) rfl run
    (by unfold AllFine; decide) rfl
  exact ⟨both.1, both.2 (sampleEnv 10) 3 _ (fun _ => rfl) (by decide) rfl
    (by unfold AllFine; decide)⟩

/-- The lossless flag comes back with a load in inclination mode, and the inclination ignores it:
the image is no longer the file, and a save forgets it. -/
theorem inclination_not_in_file :
    (sampleRun 10 [.imageLoad photoA true, .modeInclin, .imageLoad photoB true,
        .imageInclin, .fileSave]).isSome ∧
      (sampleFrame 10 [.imageLoad photoA true, .modeInclin, .imageLoad photoB true,
        .imageInclin]).bJPEGlossless = true ∧
      ¬ ShowsFile sampleWx (sampleFrame 10 [.imageLoad photoA true, .modeInclin,
        .imageLoad photoB true, .imageInclin]).toDocument ∧
      (sampleFrame 10 [.imageLoad photoA true, .modeInclin, .imageLoad photoB true,
        .imageInclin, .fileSave]).bDirty = false ∧
      ¬ SavedFrame sampleWx (sampleFrame 10 [.imageLoad photoA true, .modeInclin,
        .imageLoad photoB true, .imageInclin, .fileSave]) := by
  refine ⟨rfl, rfl, fun shows => ?_, rfl, fun saved => ?_⟩
  · have same := shows rfl
    cases same
  · have same := saved.image
    cases same

end RPhoto.Editing
