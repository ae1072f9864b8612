import RPhoto.Editing.ScreenOperations

/-!
# The documents of the screen

What the box shows decides only whether a tool acts.  In a world without automatic
crops, whose answers do not depend on the box, the five calls that save and load
give on the screen the documents they give in the frame, as long as wrjpgcom returns.
-/

namespace RPhoto.Editing

open RPhoto.Jpeg RPhoto.Library RPhoto.Tracker

variable {Pixels : Type}

/-- The world answers as the environment does, whatever the box shows. -/
def World.Ignores (world : World Pixels) (env : Environment Pixels) : Prop :=
  ∀ screen, (world screen).toEnv = env screen.frame

namespace Screen

variable {display : Display Pixels} {world : World Pixels} {screen : Screen Pixels}

section Ignores

variable {env : Environment Pixels} (ignores : world.Ignores env)
include ignores

/-- What the box adds are the zone and the line. -/
theorem environment_of_ignores (box : DisplayBox) :
    world.environment box = fun frame =>
      { env frame with
        selectedZone := box.getSelectedZone.2
        line := box.lineTracker.extent } := by
  funext frame
  unfold World.environment
  rw [ignores]

theorem imageUndoPoint_of_ignores (box : DisplayBox) (frame : Frame Pixels) :
    imageUndoPoint (world.environment box) frame = imageUndoPoint env frame := by
  rw [environment_of_ignores ignores]
  rfl

theorem saveLossless_of_ignores (box : DisplayBox) (frame : Frame Pixels) :
    saveLossless (world.environment box) frame = saveLossless env frame := by
  rw [environment_of_ignores ignores]
  rfl

theorem saveLossy_of_ignores (wx : Wx Pixels) (box : DisplayBox) (frame : Frame Pixels) :
    saveLossy wx (world.environment box) frame = saveLossy wx env frame := by
  rw [environment_of_ignores ignores]
  rfl

theorem writeAs_of_ignores (wx : Wx Pixels) (box : DisplayBox) (name : FileName)
    (frame : Frame Pixels) :
    writeAs wx (world.environment box) name frame = writeAs wx env name frame := by
  rw [environment_of_ignores ignores]
  rfl

theorem autoRotate_of_ignores (screen : Screen Pixels) :
    (autoRotate display world screen).frame =
      Editing.autoRotate display.toWx env screen.frame := by
  rw [autoRotate_frame, environment_of_ignores ignores]
  rfl

theorem writePendingComment_of_ignores (returns : world.CommentsReturn) (screen : Screen Pixels) :
    ∃ next, writePendingComment display world screen = some next ∧
      next.frame = Editing.writePendingComment display.toWx env screen.frame := by
  have written : Editing.onImageWriteComment display.toWx (world.environment screen.box)
      screen.frame = Editing.onImageWriteComment display.toWx env screen.frame := by
    rw [environment_of_ignores ignores]
    rfl
  rw [writePendingComment_of_returns returns]
  refine ⟨_, rfl, ?_⟩
  unfold Editing.writePendingComment
  rw [← written, ← onImageWriteComment_frame, ← ignores]
  split <;> rfl

/-- The five calls give the documents of the frame. -/
structure SameDocuments (display : Display Pixels) (world : World Pixels)
    (env : Environment Pixels) (fuel : Nat) : Prop where
  imageLoad : ∀ name original screen,
    (imageLoad display world fuel name original screen).map Screen.frame =
      Editing.imageLoad display.toWx env fuel name original screen.frame
  imageCleanup : ∀ screen,
    (imageCleanup display world fuel screen).map (fun result => (result.1.frame, result.2)) =
      Editing.imageCleanup display.toWx env fuel screen.frame
  onFileSave : ∀ screen, (onFileSave display world fuel screen).map Screen.frame =
    Editing.onFileSave display.toWx env fuel screen.frame
  onFileSaveAs : ∀ screen, (onFileSaveAs display world fuel screen).map Screen.frame =
    Editing.onFileSaveAs display.toWx env fuel screen.frame
  imageSaveAs : ∀ name screen, (imageSaveAs display world fuel name screen).map Screen.frame =
    Editing.imageSaveAs display.toWx env fuel name screen.frame

variable {fuel : Nat}

/-! Each call, when the calls it makes give the documents of the frame. -/

theorem imageLoad_document (ih : SameDocuments display world env fuel) :
    ∀ name original screen,
      (imageLoad display world (fuel + 1) name original screen).map Screen.frame =
        Editing.imageLoad display.toWx env (fuel + 1) name original screen.frame := by
  intro name original screen
  rw [imageLoad, Editing.imageLoad]
  split
  · rfl
  · dsimp only
    have begun := ih.imageCleanup (screen.onFrame world fun env frame =>
      imageUndoPoint env { frame.record (.imageLoad name) with isFileLoading := true })
    have undo := imageUndoPoint_of_ignores ignores screen.box
      { screen.frame.record (.imageLoad name) with isFileLoading := true }
    simp only [onFrame] at begun ⊢
    rw [undo] at begun ⊢
    rw [← begun]
    cases imageCleanup display world fuel _ with
    | none => rfl
    | some result =>
        show some (autoRotate display world _).frame = some _
        rw [autoRotate_of_ignores ignores]
        cases result.2 <;> rfl

theorem imageCleanup_document (noCrop : ∀ frame, (env frame).bAutoCrop = false)
    (ih : SameDocuments display world env fuel) :
    ∀ screen,
      (imageCleanup display world (fuel + 1) screen).map
          (fun result => (result.1.frame, result.2)) =
        Editing.imageCleanup display.toWx env (fuel + 1) screen.frame := by
  intro screen
  have still : autoCrop display world screen = screen := by
    unfold autoCrop
    rw [ignores, noCrop, if_neg Bool.false_ne_true]
  have stillFrame : Editing.autoCrop display.toWx env screen.frame = screen.frame := by
    unfold Editing.autoCrop
    rw [noCrop, if_neg Bool.false_ne_true]
  rw [imageCleanup, Editing.imageCleanup, still, stillFrame, ignores]
  dsimp only
  split
  · split
    · rw [← ih.onFileSave screen]
      cases onFileSave display world fuel screen <;> rfl
    · rw [← ih.imageSaveAs _ screen]
      cases imageSaveAs display world fuel _ screen <;> rfl
  · split
    · cases (env screen.frame).saveAnswer with
      | yes =>
          dsimp only
          rw [← ih.onFileSave screen]
          cases onFileSave display world fuel screen <;> rfl
      | no => rfl
      | cancel => rfl
    · rfl

theorem onFileSave_document (returns : world.CommentsReturn)
    (ih : SameDocuments display world env fuel) :
    ∀ screen, (onFileSave display world (fuel + 1) screen).map Screen.frame =
      Editing.onFileSave display.toWx env (fuel + 1) screen.frame := by
  intro screen
  rw [onFileSave, Editing.onFileSave]
  split
  · rfl
  · obtain ⟨next, commented, frame⟩ :=
      @writePendingComment_of_ignores _ display _ _ ignores returns screen
    dsimp only
    rw [commented, ← frame, Option.bind_eq_bind, Option.bind_some, ignores]
    split
    · exact ih.onFileSaveAs _
    · split
      · exact congrArg some (saveLossless_of_ignores ignores _ _)
      · have saved := saveLossy_of_ignores ignores display.toWx next.box next.frame
        rw [← saved]
        split
        · rename_i loading
          exact (if_pos loading).symm
        · rename_i loading
          exact (ih.imageLoad _ _ _).trans (if_neg loading).symm

theorem onFileSaveAs_document (ih : SameDocuments display world env fuel) :
    ∀ screen, (onFileSaveAs display world (fuel + 1) screen).map Screen.frame =
      Editing.onFileSaveAs display.toWx env (fuel + 1) screen.frame := by
  intro screen
  rw [onFileSaveAs, Editing.onFileSaveAs, ignores]
  split
  · rfl
  · have saved := ih.imageSaveAs (env screen.frame).selectedFile screen
    rw [← saved]
    cases imageSaveAs display world fuel (env screen.frame).selectedFile screen with
    | none => rfl
    | some result => exact ih.imageLoad _ _ _

theorem imageSaveAs_document (ih : SameDocuments display world env fuel) :
    ∀ name screen, (imageSaveAs display world (fuel + 1) name screen).map Screen.frame =
      Editing.imageSaveAs display.toWx env (fuel + 1) name screen.frame := by
  intro name screen
  rw [imageSaveAs, Editing.imageSaveAs]
  split
  · rfl
  · dsimp only
    have written := writeAs_of_ignores ignores display.toWx screen.box name
      (leaveTemp screen.frame)
    have cleaned := ih.imageCleanup (screen.onFrame world fun env frame =>
      writeAs display.toWx env name (leaveTemp frame))
    simp only [onFrame] at cleaned ⊢
    rw [written] at cleaned ⊢
    rw [← cleaned]
    cases imageCleanup display world fuel _ <;> rfl

/--
Without automatic crops, and where wrjpgcom returns, the clean-up does to the document what
it does in the frame.  The induction is on the depth of the calls.
-/
theorem sameDocuments (returns : world.CommentsReturn)
    (noCrop : ∀ frame, (env frame).bAutoCrop = false) (fuel : Nat) :
    SameDocuments display world env fuel := by
  induction fuel with
  | zero =>
      constructor
      · intro name original screen
        rw [imageLoad, Editing.imageLoad]
        rfl
      · intro screen
        rw [imageCleanup, Editing.imageCleanup]
        rfl
      · intro screen
        rw [onFileSave, Editing.onFileSave]
        rfl
      · intro screen
        rw [onFileSaveAs, Editing.onFileSaveAs]
        rfl
      · intro name screen
        rw [imageSaveAs, Editing.imageSaveAs]
        rfl
  | succ fuel ih =>
      exact ⟨imageLoad_document ignores ih, imageCleanup_document ignores noCrop ih,
        onFileSave_document ignores returns ih, onFileSaveAs_document ignores ih,
        imageSaveAs_document ignores ih⟩

end Ignores

end Screen

end RPhoto.Editing
