import RPhoto.Editing.Ownership
import RPhoto.Editing.SampleWorld
import RPhoto.Library.Recorded

/-!
# Temporary files over whole runs

Every operation on the document keeps used temporary files on disk, as long as its
undo points cut cleanly.  The operations record their undo points, so a condition
on the record of a run is enough.
-/

namespace RPhoto.Editing

open RPhoto.Jpeg RPhoto.Library

variable {Pixels : Type}

section Photos

variable (Photo : FileName → Prop)

/--
The conditions on the calls of a run: undo points cut cleanly, a new temporary
file gets a name that is not on disk, only photos are loaded, and no automatic
rotation starts while `m_bTemp` is set for a photo.
-/
def CallFine (entry : Call × Document Pixels) : Prop :=
  match entry.1 with
  | .undoPoint limit => UndoPointClean limit entry.2
  | .createTempFileName name => name ≠ noFile ∧ ¬ entry.2.files.Holds name
  | .imageLoad name => Photo name
  | .autorotate => entry.2.bTemp = true → ¬ Photo entry.2.sFilename
  | _ => True

instance [DecidablePred Photo] :
    (entry : Call × Document Pixels) → Decidable (CallFine Photo entry)
  | (.undoPoint limit, document) => inferInstanceAs (Decidable (UndoPointClean limit document))
  | (.createTempFileName name, document) =>
      inferInstanceAs (Decidable (name ≠ noFile ∧ ¬ document.files.Holds name))
  | (.imageLoad name, _) => inferInstanceAs (Decidable (Photo name))
  | (.autorotate, document) =>
      inferInstanceAs (Decidable (document.bTemp = true → ¬ Photo document.sFilename))
  | (.copyFile _, _) | (.jpegtran _ _, _) | (.jhead _, _) | (.wrjpgcom _, _) | (.loadFile _, _)
  | (.saveFile _, _) | (.inclination, _) => instDecidableTrue

/--
The frame between two calls: temporary files are held, there is nothing to redo
if that is asked for, and a load is going on or not.
-/
structure HeldFrame (strict loading : Bool) (frame : Frame Pixels) : Prop where
  held : TemporariesHeld Photo frame.toDocument
  noRedo : strict = true → frame.historyRedo = []
  isLoading : frame.isFileLoading = loading

/-- Going from one frame to another keeps held temporaries, given fine calls. -/
abbrev KeepsHeld (strict strict' loading : Bool) (first last : Frame Pixels) : Prop :=
  Keeps Frame.calls (CallFine Photo) (HeldFrame Photo strict loading)
    (HeldFrame Photo strict' loading) first last

end Photos

/-- The parts of a frame the temporary files depend on, the files apart. -/
def names (frame : Frame Pixels) :=
  (frame.sOriginalFilename, frame.sFilename, frame.bTemp, frame.historyUndo, frame.historyRedo,
    frame.isFileLoading)

/-- No file disappears. -/
def FilesGrow (before after : FileStore FileName Bytes) : Prop :=
  ∀ name, before.Holds name → after.Holds name

theorem FilesGrow.refl (files : FileStore FileName Bytes) : FilesGrow files files :=
  fun _ => id

theorem filesGrow_write (files : FileStore FileName Bytes) (name : FileName) (data : Bytes) :
    FilesGrow files (files.write name data) :=
  fun _ held => held.write name data

theorem filesGrow_writeOutcome (name : FileName) (outcome : Option Bytes)
    (files : FileStore FileName Bytes) : FilesGrow files (writeOutcome name outcome files) := by
  cases outcome with
  | none => exact .refl files
  | some data => exact filesGrow_write files name data

variable {Photo : FileName → Prop} {strict loading : Bool} {first last : Frame Pixels}

theorem HeldFrame.congr (held : HeldFrame Photo strict loading first)
    (grow : FilesGrow first.files last.files) (same : names last = names first) :
    HeldFrame Photo strict loading last := by
  simp only [names, Prod.mk.injEq] at same
  obtain ⟨original, name, temp, undo, redo, isLoading⟩ := same
  exact {
    held := held.held.congr grow original name temp undo redo
    noRedo := fun asked => redo.trans (held.noRedo asked)
    isLoading := isLoading.trans held.isLoading }

/-- A change of other parts of the frame. -/
theorem keeps_quiet (calls : last.calls = first.calls) (grow : FilesGrow first.files last.files)
    (same : names last = names first) : KeepsHeld Photo strict strict loading first last :=
  .silent calls fun held => held.congr grow same

/-- A call that only adds to the files. -/
theorem keeps_call {entry : Call × Document Pixels} (calls : last.calls = first.calls ++ [entry])
    (grow : FilesGrow first.files last.files) (same : names last = names first) :
    KeepsHeld Photo strict strict loading first last :=
  .entry calls fun _ held => held.congr grow same

/-- What holds with nothing to redo holds anyway. -/
theorem keeps_relax {strict' : Bool} (keeps : KeepsHeld Photo strict true loading first last) :
    KeepsHeld Photo strict strict' loading first last :=
  keeps.mono id fun held => ⟨held.held, fun _ => held.noRedo rfl, held.isLoading⟩

section Operations

variable (noPhoto : ¬ Photo noFile) (wx : Wx Pixels) (env : Environment Pixels)
  (frame : Frame Pixels)

theorem keeps_updateControlsState :
    KeepsHeld Photo strict strict loading frame (updateControlsState frame) :=
  keeps_quiet rfl (.refl _) rfl

theorem keeps_dirty : KeepsHeld Photo strict strict loading frame (dirty frame) :=
  keeps_quiet rfl (.refl _) rfl

include noPhoto in
/-- A recorded undo point is clean, and leaves nothing to redo. -/
theorem keeps_imageUndoPoint :
    KeepsHeld Photo strict true loading frame (imageUndoPoint env frame) := by
  unfold imageUndoPoint
  split
  · rename_i unopened
    exact .refl frame fun held => absurd (unopened ▸ held.held.current.1) noPhoto
  · exact .entry rfl fun clean held =>
        ⟨TemporariesHeld.undoPoint held.held clean, fun _ => rfl,
          held.isLoading⟩

/-- The new working file is a fresh one. -/
theorem keeps_switchToTemp :
    KeepsHeld Photo true true loading frame (switchToTemp env frame) := by
  refine .entry rfl fun fine held => ?_
  obtain ⟨named, fresh⟩ := fine
  have files : (switchToTemp env frame).files =
      frame.files.write (switchToTemp env frame).sFilename [] := if_neg named
  refine ⟨held.held.switch (held.noRedo rfl) rfl (held.noRedo rfl) ?_
    ⟨held.held.current.1, fun temp => nomatch temp⟩ ?_, held.noRedo, held.isLoading⟩
  · rw [files]
    exact filesGrow_write _ _ _
  · rintro name owner
    cases owner
    refine ⟨fresh, ?_⟩
    rw [files]
    exact FileStore.holds_write_self _ _ _

theorem keeps_copyFile (source destination : FileName) :
    KeepsHeld Photo strict strict loading frame (copyFile env source destination frame) :=
  keeps_call rfl (filesGrow_writeOutcome _ _ _) rfl

theorem keeps_manualCopy (source destination : FileName) :
    KeepsHeld Photo strict strict loading frame (manualCopy env source destination frame).1 :=
  keeps_call rfl (filesGrow_writeOutcome _ _ _) rfl

theorem keeps_boxLoadFile (name : FileName) :
    KeepsHeld Photo strict strict loading frame (boxLoadFile wx name frame) :=
  keeps_call rfl (.refl _) rfl

theorem keeps_applyTool (call : Bool → Call) (output : Option Bytes) :
    KeepsHeld Photo strict strict loading frame (applyTool wx call output frame).1 := by
  cases output with
  | none => exact keeps_call rfl (.refl _) rfl
  | some data =>
      have written : KeepsHeld Photo strict strict loading frame
          { frame.record (call true) with files := frame.files.write frame.sFilename data } :=
        keeps_call rfl (filesGrow_write _ _ _) rfl
      exact (written.trans (keeps_boxLoadFile wx _ frame.sFilename)).trans
        (keeps_updateControlsState _)

include noPhoto in
theorem keeps_copyToTemp :
    KeepsHeld Photo strict true loading frame (copyToTemp env frame).1 := by
  refine ((keeps_imageUndoPoint noPhoto env frame).trans (keeps_switchToTemp env _)).trans ?_
  unfold copyToTemp
  dsimp only
  split
  · exact keeps_copyFile env _ _ _
  · exact keeps_manualCopy env _ _ _

include noPhoto in
theorem keeps_callJPEGTranTryPerfect (command : JpegtranCommand) :
    KeepsHeld Photo strict true loading frame
      (callJPEGTranTryPerfect wx env command frame).1 := by
  unfold callJPEGTranTryPerfect
  dsimp only
  split
  · exact (keeps_copyToTemp noPhoto env frame).trans (keeps_applyTool wx _ _ _)
  · exact keeps_copyToTemp noPhoto env frame

include noPhoto in
theorem keeps_callJHead (command : JheadCommand) :
    KeepsHeld Photo strict true loading frame (callJHead wx env command frame).1 := by
  unfold callJHead
  dsimp only
  split
  · exact (keeps_copyToTemp noPhoto env frame).trans (keeps_applyTool wx _ _ _)
  · exact keeps_copyToTemp noPhoto env frame

/-! ### Image operations -/

include noPhoto in
theorem keeps_beginImageManip :
    KeepsHeld Photo strict true loading frame (beginImageManip env frame) :=
  (keeps_imageUndoPoint noPhoto env frame).trans (keeps_quiet rfl (.refl _) rfl)

theorem keeps_endImageManip :
    KeepsHeld Photo strict strict loading frame (endImageManip frame) :=
  keeps_quiet rfl (.refl _) rfl

theorem keeps_setTransformed (transform : Transform) :
    KeepsHeld Photo strict strict loading frame (setTransformed wx transform frame) :=
  keeps_quiet rfl (.refl _) rfl

include noPhoto in
theorem keeps_imageManip (transform : Transform) :
    KeepsHeld Photo strict true loading frame (imageManip wx env transform frame) :=
  ((keeps_beginImageManip noPhoto env frame).trans (keeps_setTransformed wx _ transform)).trans
    (keeps_endImageManip _)

include noPhoto in
theorem keeps_losslessOrManip (command : JpegtranCommand) (transform : Transform) :
    KeepsHeld Photo strict strict loading frame
      (losslessOrManip wx env command transform frame) := by
  unfold losslessOrManip
  split
  · exact keeps_relax (keeps_callJPEGTranTryPerfect noPhoto wx env frame command)
  · exact keeps_relax (keeps_imageManip noPhoto wx env frame transform)

include noPhoto in
theorem keeps_dirty_losslessOrManip (command : JpegtranCommand) (transform : Transform) :
    KeepsHeld Photo strict strict loading frame
      (losslessOrManip wx env command transform (dirty frame)) :=
  (keeps_dirty frame).trans (keeps_losslessOrManip noPhoto wx env _ command transform)

include noPhoto in
theorem keeps_onImageCrop :
    KeepsHeld Photo strict strict loading frame (onImageCrop wx env frame) := by
  unfold onImageCrop
  dsimp only
  split
  · exact keeps_dirty_losslessOrManip noPhoto wx env frame _ _
  · exact .refl frame id

include noPhoto in
theorem keeps_onImageJPEGOptimize :
    KeepsHeld Photo strict strict loading frame (onImageJPEGOptimize wx env frame) := by
  unfold onImageJPEGOptimize
  dsimp only
  split
  · exact (keeps_dirty frame).trans
      (keeps_relax (keeps_callJPEGTranTryPerfect noPhoto wx env _ .optimize))
  · exact keeps_dirty frame

include noPhoto in
theorem keeps_onImageJPEGProgressive :
    KeepsHeld Photo strict strict loading frame (onImageJPEGProgressive wx env frame) := by
  unfold onImageJPEGProgressive
  split
  · exact keeps_relax (keeps_callJPEGTranTryPerfect noPhoto wx env frame .progressive)
  · exact .refl frame id

include noPhoto in
theorem keeps_inclineImage :
    KeepsHeld Photo strict true loading frame (inclineImage wx env frame) := by
  have leaves : ∀ rotated : Frame Pixels, KeepsHeld Photo true true loading rotated
      (dirty (endImageManip { rotated with isInclinaison := false })) :=
    fun _ => keeps_quiet rfl (.refl _) rfl
  have recorded : KeepsHeld Photo strict strict loading frame (frame.record .inclination) :=
    keeps_call rfl (.refl _) rfl
  exact ((recorded.trans (keeps_beginImageManip noPhoto env _)).trans
    (keeps_setTransformed wx _ _)).trans (leaves _)

include noPhoto in
theorem keeps_onImageInclin :
    KeepsHeld Photo strict strict loading frame (onImageInclin wx env frame) := by
  unfold onImageInclin
  dsimp only
  split
  · split
    · exact keeps_relax ((keeps_inclineImage noPhoto wx env frame).trans
        (keeps_onImageCrop noPhoto wx env _))
    · exact keeps_relax (keeps_inclineImage noPhoto wx env frame)
  · exact .refl frame id

include noPhoto in
theorem keeps_onToolAction :
    KeepsHeld Photo strict strict loading frame (onToolAction wx env frame) := by
  unfold onToolAction
  split
  · exact keeps_onImageInclin noPhoto wx env frame
  · exact keeps_onImageCrop noPhoto wx env frame

include noPhoto in
theorem keeps_onModeInclin :
    KeepsHeld Photo strict strict loading frame (onModeInclin wx env frame) := by
  unfold onModeInclin
  dsimp only
  split
  · exact (keeps_onImageInclin noPhoto wx env frame).trans (keeps_updateControlsState _)
  · split <;> exact keeps_quiet rfl (.refl _) rfl

include noPhoto in
theorem keeps_onModeCrop :
    KeepsHeld Photo strict strict loading frame (onModeCrop wx env frame) := by
  unfold onModeCrop
  split
  · exact keeps_quiet rfl (.refl _) rfl
  · exact (keeps_onImageCrop noPhoto wx env frame).trans (keeps_updateControlsState _)

include noPhoto in
theorem keeps_resize (destWidth destHeight : Int) :
    KeepsHeld Photo strict strict loading frame
      (resize wx env destWidth destHeight frame) := by
  refine keeps_relax ((keeps_beginImageManip noPhoto env frame).trans ?_)
  apply resize_elim (motive := KeepsHeld Photo true true loading)
  · intro begun _
    exact keeps_quiet rfl (.refl _) rfl
  · intro begun _
    exact keeps_quiet rfl (.refl _) rfl

theorem keeps_callWrjpgcom (oldFilename : FileName) :
    KeepsHeld Photo strict strict loading frame (callWrjpgcom wx env oldFilename frame).1 :=
  keeps_call rfl (filesGrow_writeOutcome _ _ _) rfl

include noPhoto in
theorem keeps_writeCommentLossless :
    KeepsHeld Photo strict true loading frame (writeCommentLossless wx env frame) := by
  refine ((keeps_imageUndoPoint noPhoto env frame).trans (keeps_switchToTemp env _)).trans
    ((keeps_callWrjpgcom wx env _ (sourceFilename (imageUndoPoint env frame).toDocument)).trans ?_)
  unfold writeCommentLossless
  dsimp only
  split
  · exact (keeps_boxLoadFile wx _ _).trans (keeps_updateControlsState _)
  · exact (keeps_copyFile env _ _ _).trans (keeps_updateControlsState _)

include noPhoto in
theorem keeps_writeComment :
    KeepsHeld Photo strict true loading frame (writeComment wx env frame) := by
  unfold writeComment
  split
  · exact keeps_writeCommentLossless noPhoto wx env frame
  · exact (keeps_beginImageManip noPhoto env frame).trans (keeps_quiet rfl (.refl _) rfl)

include noPhoto in
theorem keeps_onImageWriteComment :
    KeepsHeld Photo strict strict loading frame (onImageWriteComment wx env frame) := by
  unfold onImageWriteComment
  split
  · exact keeps_relax (((keeps_dirty frame).trans (keeps_writeComment noPhoto wx env _)).trans
      (keeps_quiet rfl (.refl _) rfl))
  · exact .refl frame id

/-! ### Undo and redo -/

theorem keeps_onImageUndo :
    KeepsHeld Photo strict false loading frame (onImageUndo wx env frame) :=
  .silent onImageUndo_calls fun held =>
    ⟨held.held.imageUndo.1, fun asked => (nomatch asked),
      held.held.imageUndo.2.trans held.isLoading⟩

theorem keeps_onImageRedo :
    KeepsHeld Photo strict false loading frame (onImageRedo wx env frame) :=
  .silent onImageRedo_calls fun held =>
    ⟨held.held.imageRedo.1, fun asked => (nomatch asked),
      held.held.imageRedo.2.trans held.isLoading⟩

end Operations

/-! ## Loading -/

/-- No cleanup in this world saves a file. -/
structure NoSave (env : Environment Pixels) : Prop where
  autoSave : ∀ frame, (env frame).bAutoSave = false
  saveAnswer : ∀ frame, (env frame).saveAnswer ≠ .yes

/-- The document closed on a photo. -/
def closeOn (name : FileName) (frame : Frame Pixels) : Frame Pixels :=
  { frame with sFilename := name, sOriginalFilename := name, bTemp := false }

/--
The frame after a load: closing it on a photo holds the temporary files, and so
does the frame itself unless `m_bTemp` stayed set for the photo.
-/
structure Loaded (Photo : FileName → Prop) (original loading : Bool) (frame : Frame Pixels) :
    Prop where
  photo : Photo frame.sOriginalFilename
  closes : ∀ name, Photo name → HeldFrame Photo true loading (closeOn name frame)
  held : HeldFrame Photo true loading frame ∨
    original = false ∧ frame.bTemp = true ∧ Photo frame.sFilename

theorem HeldFrame.loaded (held : HeldFrame Photo true loading first) (original : Bool) :
    Loaded Photo original loading first where
  photo := held.held.current.1
  closes := fun _ photo =>
    ⟨held.held.switch (held.noRedo rfl) rfl (held.noRedo rfl) (fun _ => id)
      ⟨photo, fun _ => photo⟩ (fun _ owner => (nomatch owner)), held.noRedo, held.isLoading⟩
  held := .inl held

theorem HeldFrame.endLoading (held : HeldFrame Photo strict true first) :
    HeldFrame Photo strict false (endLoading first) :=
  ⟨held.held.congr (fun _ => id) rfl rfl rfl rfl rfl, held.noRedo, rfl⟩

theorem Loaded.endLoading {original : Bool} (loaded : Loaded Photo original true first) :
    Loaded Photo original false (endLoading first) where
  photo := loaded.photo
  closes := fun name photo => (loaded.closes name photo).endLoading.congr (.refl _) rfl
  held := loaded.held.imp HeldFrame.endLoading id

section Loading

variable (noPhoto : ¬ Photo noFile) (wx : Wx Pixels) (env : Environment Pixels)

/-- The loaded photo becomes the document, except that `m_bTemp` may stay set. -/
theorem loaded_openImage {name : FileName} (photo : Photo name) (original : Bool)
    (held : HeldFrame Photo true loading first) :
    Loaded Photo original loading (openImage wx name original first) := by
  have closed := (held.loaded original).closes name photo
  have parts : names (openImage wx name original first) =
      (if !first.bTemp || original then name else first.sOriginalFilename, name,
        if !first.bTemp || original then false else first.bTemp, first.historyUndo,
        first.historyRedo, first.isFileLoading) := rfl
  cases replaces : !first.bTemp || original with
  | true =>
      have same : names (openImage wx name original first) = names (closeOn name first) := by
        rw [parts, replaces]
        rfl
      have opened : HeldFrame Photo _ loading (openImage wx name original first) :=
        closed.congr (.refl _) same
      exact opened.loaded original
  | false =>
      simp only [replaces, Bool.false_eq_true, if_false] at parts
      simp only [names, Prod.mk.injEq] at parts
      obtain ⟨sOriginal, sFilename, temp, undo, redo, isLoading⟩ := parts
      simp only [Bool.or_eq_false_iff, Bool.not_eq_false'] at replaces
      refine ⟨sOriginal ▸ held.held.current.1, fun other otherPhoto => ?_,
        .inr ⟨replaces.2, temp.trans replaces.1, sFilename ▸ photo⟩⟩
      exact ((held.loaded original).closes other otherPhoto).congr (.refl _)
        (by simp [names, closeOn, undo, redo, isLoading])

include noPhoto in
theorem keeps_autoRotate (original : Bool) (frame : Frame Pixels) :
    Keeps Frame.calls (CallFine Photo) (Loaded Photo original false)
      (Loaded Photo original false) frame (autoRotate wx env frame) := by
  unfold autoRotate
  split
  · have recorded : Keeps Frame.calls (CallFine Photo) (Loaded Photo original false)
        (HeldFrame Photo true false) frame
        { frame.record .autorotate with isAutorotating := true } := by
      refine .entry rfl fun fine loaded => ?_
      have held : HeldFrame Photo true false frame := loaded.held.resolve_right
        fun bad => fine bad.2.1 bad.2.2
      exact held.congr (.refl _) rfl
    refine (recorded.trans (keeps_callJHead noPhoto wx env _ .autorot)).trans
      (.silent rfl fun held => ?_)
    have rested : HeldFrame Photo true false
        { (callJHead wx env .autorot _).1 with isAutorotating := false } :=
      held.congr (.refl _) rfl
    exact rested.loaded original
  · exact .refl frame id

include noPhoto in
theorem keeps_autoCrop (frame : Frame Pixels) :
    KeepsHeld Photo strict strict loading frame (autoCrop wx env frame) := by
  unfold autoCrop
  split
  · exact keeps_onToolAction noPhoto wx env frame
  · exact .refl frame id

/-- Without a save a cleanup crops, and may forget that the document is dirty. -/
theorem imageCleanup_noSave (noSave : NoSave env) {fuel : Nat} {frame after : Frame Pixels}
    {cleaned : Bool} (cleanup : imageCleanup wx env fuel frame = some (after, cleaned)) :
    after = autoCrop wx env frame ∨ after = { autoCrop wx env frame with bDirty := false } := by
  cases fuel with
  | zero => cases cleanup
  | succ fuel =>
      cases imageCleanup_ends cleanup with
      | save _ wanted =>
          rcases wanted with autoSave | yes
          · exact absurd ((noSave.autoSave _).symm.trans autoSave) Bool.false_ne_true
          · exact absurd yes (noSave.saveAnswer _)
      | saveAs _ autoSave =>
          exact absurd ((noSave.autoSave _).symm.trans autoSave) Bool.false_ne_true
      | drop => exact .inr rfl
      | cancelled => exact .inl rfl
      | clean => exact .inl rfl

include noPhoto in
theorem keeps_imageCleanup (noSave : NoSave env) {fuel : Nat} {frame after : Frame Pixels}
    {cleaned : Bool} (cleanup : imageCleanup wx env fuel frame = some (after, cleaned)) :
    KeepsHeld Photo strict strict loading frame after := by
  refine (keeps_autoCrop noPhoto wx env frame).trans ?_
  rcases imageCleanup_noSave wx env noSave cleanup with rfl | rfl
  · exact .refl _ id
  · exact keeps_quiet rfl (.refl _) rfl

include noPhoto in
/-- A load leaves a frame that holds the temporary files, or can be closed on a photo. -/
theorem keeps_imageLoad (noSave : NoSave env) {fuel : Nat} {name : FileName} {original : Bool}
    {frame after : Frame Pixels}
    (load : imageLoad wx env fuel name original frame = some after) :
    Keeps Frame.calls (CallFine Photo) (HeldFrame Photo strict false)
      (fun after => Loaded Photo original false after ∧ Photo name) frame after := by
  cases fuel with
  | zero => cases load
  | succ fuel =>
      cases imageLoad_ends load with
      | busy isLoading =>
          exact .refl frame fun held => absurd (held.isLoading ▸ isLoading) Bool.false_ne_true
      | @load cleanedFrame cleaned _ cleanup =>
          have recorded : Keeps Frame.calls (CallFine Photo) (HeldFrame Photo strict false)
              (fun after => HeldFrame Photo strict true after ∧ Photo name) frame
              { frame.record (.imageLoad name) with isFileLoading := true } :=
            .entry rfl fun photo held =>
              ⟨⟨held.held.congr (fun _ => id) rfl rfl rfl rfl rfl, held.noRedo, rfl⟩, photo⟩
          have pointed : KeepsHeld Photo strict true true _ _ :=
            keeps_imageUndoPoint noPhoto env
              { frame.record (.imageLoad name) with isFileLoading := true }
          have cleans :=
            (pointed.trans (keeps_imageCleanup noPhoto wx env noSave cleanup)).carry (Photo name)
          refine (recorded.trans cleans).trans (.trans ?_
            ((keeps_autoRotate noPhoto wx env original _).carry (Photo name)))
          cases cleaned with
          | true =>
              exact .entry rfl fun _ known =>
                ⟨(loaded_openImage wx known.2 original known.1).endLoading, known.2⟩
          | false => exact .silent rfl fun known => ⟨(known.1.loaded original).endLoading, known.2⟩

end Loading

/-! ## Runs -/

/-- The operations that do not save, move or delete a photo; a load makes its file the original. -/
def Event.KeepsFiles : Event → Prop
  | .fileSave | .fileSaveAs | .fileMove _ | .fileNameEndEdit _ _ => False
  | .imageLoad _ original => original = true
  | _ => True

instance (event : Event) : Decidable event.KeepsFiles := by
  unfold Event.KeepsFiles
  split <;> infer_instance

/-- The actions of a run without saves. -/
def EditsOnly (action : Action Pixels) : Prop :=
  action.event.KeepsFiles ∧ NoSave action.env

/-- A file has been opened, nothing has been done with it, and its photo is on disk. -/
structure Opened (frame : Frame Pixels) : Prop where
  original : frame.files.Holds frame.sOriginalFilename
  name : frame.sFilename = frame.sOriginalFilename
  notTemp : frame.bTemp = false
  undo : frame.historyUndo = []
  redo : frame.historyRedo = []
  notLoading : frame.isFileLoading = false

theorem Opened.heldFrame {frame : Frame Pixels} (opened : Opened frame) :
    HeldFrame frame.files.Holds false false frame := by
  have line : timeline frame.toDocument = [none] := by
    simp [timeline, opened.undo, opened.redo, currentOwner, opened.notTemp]
  refine ⟨?_, fun asked => absurd asked Bool.false_ne_true, opened.notLoading⟩
  exact {
    photos := fun _ => id
    unowned := fun name _ member => by simp [line] at member
    owned := fun name member => by simp [line] at member
    stretched := line ▸ stretched_singleton none
    current := ⟨opened.original, fun _ => opened.name ▸ opened.original⟩
    entries := fun snapshot member => by simp [opened.undo, opened.redo] at member
    noMoves := fun action member => by simp [opened.undo, opened.redo] at member }

theorem keeps_loadFile (noPhoto : ¬ Photo noFile) (wx : Wx Pixels) {env : Environment Pixels}
    (noSave : NoSave env) {fuel : Nat} {name : FileName} {frame after : Frame Pixels}
    (load : imageLoad wx env fuel name true frame = some after) :
    KeepsHeld Photo false false false frame after :=
  (keeps_imageLoad noPhoto wx env noSave load).mono id fun known =>
    ⟨(known.1.held.resolve_right fun bad => (nomatch bad.1)).held, fun asked => (nomatch asked),
      (known.1.held.resolve_right fun bad => (nomatch bad.1)).isLoading⟩

/-- Every operation of a run without saves keeps used temporary files. -/
theorem keeps_perform (noPhoto : ¬ Photo noFile) (wx : Wx Pixels) {action : Action Pixels}
    (edits : EditsOnly action) {before after : Frame Pixels}
    (performed : perform wx action before = some after) :
    KeepsHeld Photo false false false before after := by
  obtain ⟨event, env, fuel⟩ := action
  obtain ⟨keepsFiles, noSave⟩ := edits
  cases event with
  | imageLoad name original =>
      cases keepsFiles
      exact keeps_loadFile noPhoto wx noSave performed
  | loadFile name =>
      obtain ⟨⟨cleanedFrame, cleaned⟩, cleanup, rest⟩ := Option.bind_eq_some_iff.mp performed
      refine (keeps_imageCleanup noPhoto wx env noSave cleanup).trans ?_
      cases cleaned with
      | true => exact keeps_loadFile noPhoto wx noSave rest
      | false =>
          cases rest
          exact .refl _ id
  | fileOpen name =>
      simp only [perform, onFileOpen] at performed
      split at performed
      · cases performed
        exact .refl _ id
      · obtain ⟨⟨cleanedFrame, cleaned⟩, cleanup, rest⟩ := Option.bind_eq_some_iff.mp performed
        refine (keeps_imageCleanup noPhoto wx env noSave cleanup).trans ?_
        cases cleaned with
        | true =>
            obtain ⟨loaded, load, closed⟩ := Option.bind_eq_some_iff.mp rest
            cases closed
            exact keeps_relax ((keeps_imageLoad noPhoto wx env noSave load).trans
              (.silent rfl fun known => known.1.closes name known.2))
        | false =>
            cases rest
            exact .refl _ id
  | fileReload =>
      obtain ⟨loaded, load, closed⟩ := Option.bind_eq_some_iff.mp performed
      cases closed
      have cleared : KeepsHeld Photo false false false before { before with bDirty := false } :=
        keeps_quiet rfl (.refl _) rfl
      exact keeps_relax ((cleared.trans (keeps_imageLoad noPhoto wx env noSave load)).trans
        (.silent rfl fun known => known.1.closes loaded.sOriginalFilename known.1.photo))
  | fileSave => exact keepsFiles.elim
  | fileSaveAs => exact keepsFiles.elim
  | fileMove folder => exact keepsFiles.elim
  | fileNameEndEdit treePath label => exact keepsFiles.elim
  | imageUndo =>
      cases performed
      exact keeps_onImageUndo wx env before
  | imageRedo =>
      cases performed
      exact keeps_onImageRedo wx env before
  | toolAction =>
      cases performed
      exact keeps_onToolAction noPhoto wx env before
  | modeInclin =>
      cases performed
      exact keeps_onModeInclin noPhoto wx env before
  | modeCrop =>
      cases performed
      exact keeps_onModeCrop noPhoto wx env before
  | imageCrop =>
      cases performed
      exact keeps_onImageCrop noPhoto wx env before
  | imageRotateLeft =>
      cases performed
      exact keeps_dirty_losslessOrManip noPhoto wx env before _ _
  | imageRotateRight =>
      cases performed
      exact keeps_dirty_losslessOrManip noPhoto wx env before _ _
  | imageFlipHorizontal =>
      cases performed
      exact keeps_dirty_losslessOrManip noPhoto wx env before _ _
  | imageFlipVertical =>
      cases performed
      exact keeps_losslessOrManip noPhoto wx env before _ _
  | imageJPEGOptimize =>
      cases performed
      exact keeps_onImageJPEGOptimize noPhoto wx env before
  | imageJPEGProgressive =>
      cases performed
      exact keeps_onImageJPEGProgressive noPhoto wx env before
  | imageInclin =>
      cases performed
      exact keeps_onImageInclin noPhoto wx env before
  | resize destWidth destHeight =>
      cases performed
      exact keeps_resize noPhoto wx env before destWidth destHeight
  | editComment text =>
      cases performed
      exact keeps_quiet rfl (.refl _) rfl
  | imageWriteComment =>
      cases performed
      exact keeps_onImageWriteComment noPhoto wx env before
  | toggleJPEGLossless =>
      cases performed
      exact keeps_quiet rfl (.refl _) rfl

/--
In every run of loads, image operations, undos and redos whose calls are fine, the
working file and the files of all history entries are on disk as last written.
-/
theorem temporaries_intact (wx : Wx Pixels) {first last : Frame Pixels}
    (unnamed : first.files.content noFile = none) (opened : Opened first)
    (run : Run (perform wx) (fun action _ => EditsOnly action) first last)
    (fine : AllFine Frame.calls (CallFine first.files.Holds) first last) :
    last.files.Intact last.sFilename ∧
      ∀ snapshot, .image snapshot ∈ last.historyUndo ++ last.historyRedo →
        last.files.Intact snapshot.sFilename := by
  have noPhoto : ¬ first.files.Holds noFile := fun held => held unnamed
  have held := (Run.keeps (fun edits performed => keeps_perform noPhoto wx edits performed)
    run).holds fine opened.heldFrame
  exact ⟨held.held.holds_sFilename.intact,
    fun snapshot member => (held.held.holds_snapshot member).intact⟩

/-- The frame of the small world in which the photo has been opened. -/
def openedFrame : Frame Bytes := sampleFrame 10 [.imageLoad photoA true]

theorem opened_openedFrame : Opened openedFrame where
  original := by decide
  name := rfl
  notTemp := rfl
  undo := rfl
  redo := rfl
  notLoading := rfl

theorem noSave_sampleEnv (limit : Nat) : NoSave (sampleEnv limit) :=
  ⟨fun _ => rfl, fun _ answer => (nomatch answer)⟩

/-- The actions of the small world for a list of events. -/
def sampleActions (limit : Nat) (events : List Event) : List (Action Bytes) :=
  events.map fun event => ⟨event, sampleEnv limit, 3⟩

theorem sampleActions_editOnly {events : List Event} (limit : Nat)
    (keeps : ∀ event ∈ events, event.KeepsFiles) :
    ∀ action ∈ sampleActions limit events, EditsOnly action := by
  intro action member
  obtain ⟨event, inEvents, rfl⟩ := List.mem_map.mp member
  exact ⟨keeps event inEvents, noSave_sampleEnv limit⟩

/-- Edits whose undo points cut cleanly: two lossless operations, an undo, a redo, a resize. -/
def cleanEdits : List Event :=
  [.imageRotateLeft, .imageFlipHorizontal, .imageUndo, .imageRedo, .resize 2 2]

theorem cleanEdits_intact :
    (sampleFrame 10 (.imageLoad photoA true :: cleanEdits)).files.Intact
        (sampleFrame 10 (.imageLoad photoA true :: cleanEdits)).sFilename ∧
      ∀ snapshot, .image snapshot ∈
          (sampleFrame 10 (.imageLoad photoA true :: cleanEdits)).historyUndo ++
            (sampleFrame 10 (.imageLoad photoA true :: cleanEdits)).historyRedo →
        (sampleFrame 10 (.imageLoad photoA true :: cleanEdits)).files.Intact
          snapshot.sFilename := by
  have edits : ∀ event ∈ cleanEdits, event.KeepsFiles := by decide
  have run : Run (perform sampleWx) (fun action _ => EditsOnly action) openedFrame
      (sampleFrame 10 (.imageLoad photoA true :: cleanEdits)) :=
    Run.ofEvents (Admitted.of_forall (sampleActions_editOnly 10 edits) _) rfl
  exact temporaries_intact sampleWx (by decide) opened_openedFrame run
    (by unfold AllFine; decide)

/-- A rotation, a resize, and an undo leave the document and the redo list on one temporary
file; the next undo point removes it. -/
theorem undoPoint_removes_workingFile :
    (sampleRun 10 [.imageLoad photoA true, .imageRotateLeft, .resize 2 2, .imageUndo,
        .resize 3 3]).isSome ∧
      ¬ (sampleFrame 10 [.imageLoad photoA true, .imageRotateLeft, .resize 2 2, .imageUndo,
        .resize 3 3]).files.Intact
          (sampleFrame 10 [.imageLoad photoA true, .imageRotateLeft, .resize 2 2, .imageUndo,
            .resize 3 3]).sFilename := by
  refine ⟨rfl, fun ⟨data, present, _⟩ => ?_⟩
  cases present

end RPhoto.Editing
