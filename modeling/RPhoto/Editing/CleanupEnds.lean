import RPhoto.Editing.CleanupReturns
import RPhoto.Jpeg.HeaderScan

/-!
# When every clean-up returns

A clean-up that finds nothing to save returns at once.  Otherwise a pending comment
must be written by the save, or the document is dirty again after each write, and the
wrjpgcom of a lossless one must come to the end of its header scan; and a crop must
not be left to jpegtran, which leaves the selection when it fails.  In the worst world
the user saves again and again, nothing can be written in place, and the tools fail.
-/

namespace RPhoto.Editing

open RPhoto.Jpeg RPhoto.Library RPhoto.Tracker

variable {Pixels : Type}

/-- wrjpgcom returns where it does not open its files or its header scan ends
(`returns_iff`, `runsOn_code`), and a temporary file is a new one. -/
structure World.Genuine (world : World Pixels) : Prop where
  wrjpgcom : ∀ screen data comment, (world screen).wrjpgcomReturns data comment = true ↔
    (((world screen).wrjpgcom data comment).1 = 0 → Reaches (data.drop 2))
  createTempFileName : ∀ screen, (world screen).createTempFileName = noFile ∨
    (world screen).createTempFileName ≠ sourceFilename screen.frame.toDocument

/-! ## The header scan of the working file -/

/-- An undo point removes the files that the redo list owns. -/
theorem present_of_imageUndoPoint {env : Environment Pixels} {frame : Frame Pixels}
    {name : FileName} {data : Bytes}
    (present : (imageUndoPoint env frame).files.content name = some data) :
    frame.files.content name = some data ∧ (frame.sOriginalFilename ≠ noFile →
      ∀ entry ∈ frame.historyRedo, entry.owner ≠ some name) := by
  refine ⟨content_of_content_imageUndoPoint present, ?_⟩
  intro named entry member owned
  unfold imageUndoPoint at present
  rw [if_neg named] at present
  have cleared : (destroyAll frame.historyRedo frame.files).content name = some data :=
    content_of_content_destroyAll present
  rw [content_destroyAll_of_owned member owned] at cleared
  cases cleared

/-- The header scan of the working file ends, unless the redo list owns the file. -/
def ScanEnds (frame : Frame Pixels) : Prop :=
  ∀ data, frame.files.content (sourceFilename frame.toDocument) = some data →
    (frame.sOriginalFilename ≠ noFile → ∀ entry ∈ frame.historyRedo,
      entry.owner ≠ some (sourceFilename frame.toDocument)) → Reaches (data.drop 2)

/-- A correction of the inclination keeps the working file. -/
theorem ScanEnds.inclineImage {wx : Wx Pixels} {env : Environment Pixels} {frame : Frame Pixels}
    (scanned : ScanEnds frame) : ScanEnds (Editing.inclineImage wx env frame) := by
  have names : sourceFilename (Editing.inclineImage wx env frame).toDocument =
      sourceFilename frame.toDocument := by
    unfold sourceFilename
    simp [Editing.inclineImage, endImageManip, setTransformed, beginImageManip,
      updateControlsState, dirty, Frame.record]
  intro data present _
  rw [names] at present
  have begun : (imageUndoPoint env (frame.record .inclination)).files.content
      (sourceFilename frame.toDocument) = some data := present
  obtain ⟨here, free⟩ := present_of_imageUndoPoint begun
  exact scanned data here free

namespace Screen

variable {display : Display Pixels} {world : World Pixels} {settings : Settings}
  {screen : Screen Pixels}

theorem sourceFilename_imageUndoPoint (env : Environment Pixels) (frame : Frame Pixels) :
    sourceFilename (imageUndoPoint env (dirty frame)).toDocument =
      sourceFilename frame.toDocument := by
  unfold sourceFilename
  simp [dirty, updateControlsState]

/-- The switch to a new temporary file leaves the working file. -/
theorem content_switchToTemp (genuine : world.Genuine) (box : DisplayBox)
    (frame : Frame Pixels) :
    (switchToTemp (world.environment box) frame).files.content
        (sourceFilename frame.toDocument) =
      frame.files.content (sourceFilename frame.toDocument) := by
  have fresh := genuine.createTempFileName
    { frame := { frame with sFilename := sourceFilename frame.toDocument, bTemp := true }, box }
  unfold switchToTemp createTempFile
  dsimp only
  split
  · rfl
  · rename_i named
    exact FileStore.content_write_of_ne (fresh.resolve_left named).symm

/-- So the wrjpgcom of a lossless comment returns. -/
theorem wrjpgcomEnds_of_scanEnds (genuine : world.Genuine) (scanned : ScanEnds screen.frame) :
    wrjpgcomEnds display world screen = true := by
  unfold wrjpgcomEnds
  dsimp only
  rw [content_switchToTemp genuine, sourceFilename_imageUndoPoint, Option.all_eq_true]
  intro data present
  obtain ⟨here, free⟩ := present_of_imageUndoPoint present
  exact (genuine.wrjpgcom _ data _).mpr fun _ => scanned data here free

/-- The clean-up ends in every world with these settings. -/
def AlwaysReturns (display : Display Pixels) (settings : Settings) (screen : Screen Pixels) :
    Prop :=
  ∀ world : World Pixels, world.Follows settings → world.Genuine →
    Returns (imageCleanup display world · screen) fun _ => True

/-- The clean-up turns or crops the image. -/
def Acts (settings : Settings) (view : View) : Prop :=
  settings.bAutoCrop = true ∧ view.ToolActs

/-- The clean-up finds something to save. -/
def Saves (settings : Settings) (view : View) : Prop :=
  view.bDirty = true ∨ Acts settings view

/-- The view that a correction of the inclination leaves. -/
def correctedView (display : Display Pixels) (screen : Screen Pixels) : View :=
  { screen.view with
    isInclinaison := false
    bDirty := true
    box := correctedBox display screen }

/--
What is saved can be followed.  The save writes a pending comment, whose header scan
ends; a tool that does not act stays idle; and a tool that acts is lossy and leaves
nothing to crop.  A zone that a correction of the inclination proposes is cropped at
once, or later while no load selects another one.
-/
structure Ends (display : Display Pixels) (settings : Settings) (screen : Screen Pixels) :
    Prop where
  inPlace : screen.frame.textCommentModified = true → settings.SavesInPlace
  scanned : screen.frame.textCommentModified = true → screen.frame.bJPEGlossless = true →
    ScanEnds screen.frame
  idle : ¬Acts settings screen.view → Still display settings screen.view
  cropped : Acts settings screen.view → screen.frame.isInclinaison = false →
    screen.frame.bJPEGlossless = false ∧
      View.Idles
        { screen.view with box := croppedBox display screen.frame.image screen.box }
  proposed : Acts settings screen.view → screen.frame.isInclinaison = true →
    (correctedBox display screen).Selects → screen.frame.bJPEGlossless = false ∧
      if settings.bAutoRotateCrop then
        View.Idles
          { correctedView display screen with
            box := croppedBox display (correctedImage display screen)
              (correctedBox display screen) }
      else screen.box.Unforced ∧ settings.bAutoSelectMax = false
  corrected : Acts settings screen.view → screen.frame.isInclinaison = true →
    ¬(correctedBox display screen).Selects →
      Still display settings (correctedView display screen)

/-! ## What the automatic tool does to the document -/

theorem autoCrop_frame_of_idle (follows : world.Follows settings)
    (idle : ¬Acts settings screen.view) :
    (autoCrop display world screen).frame = screen.frame := by
  rw [autoCrop_of_idle follows fun crops acts => idle ⟨crops, acts⟩]

/-- A crop dirties the document and keeps its comment. -/
theorem onImageCrop_flags (selects : screen.box.Selects) :
    (onImageCrop display world screen).frame.flags =
      { screen.frame.flags with bDirty := true } := by
  rw [onImageCrop_eq, if_pos selects]
  split
  · exact flags_callJPEGTranTryPerfect _ rfl
  · exact flags_imageManip _ rfl

theorem onImageCrop_frame_of_unselected (unselected : ¬screen.box.Selects) :
    (onImageCrop display world screen).frame = screen.frame := by
  rw [onImageCrop_eq, if_neg unselected]

/-- A tool that acts dirties the document and keeps its comment. -/
theorem autoCrop_flags_of_acts (follows : world.Follows settings)
    (acts : Acts settings screen.view) :
    (autoCrop display world screen).frame.bDirty = true ∧
      (autoCrop display world screen).frame.textCommentModified =
        screen.frame.textCommentModified := by
  obtain ⟨crops, acts⟩ := acts
  unfold autoCrop onToolAction
  rw [follows.bAutoCrop, crops, if_pos rfl]
  unfold View.ToolActs at acts
  split at acts
  · rename_i inclination
    rw [if_pos (show screen.frame.isInclinaison = true from inclination)]
    unfold onImageInclin
    rw [if_pos ((definesAngle_iff world screen).mpr ⟨inclination, acts⟩)]
    have flags : (inclineImage display world screen).frame.flags =
        { screen.frame.flags with isInclinaison := false, bDirty := true } :=
      flags_inclineImage _ _ _
    dsimp only
    generalize inclineImage display world screen = inclined at flags
    split
    · by_cases selects : inclined.box.Selects
      · have cropped := @onImageCrop_flags _ display world inclined selects
        rw [flags] at cropped
        exact ⟨congrArg (·.bDirty) cropped, congrArg (·.textCommentModified) cropped⟩
      · rw [onImageCrop_frame_of_unselected selects]
        exact ⟨congrArg (·.bDirty) flags, congrArg (·.textCommentModified) flags⟩
    · exact ⟨congrArg (·.bDirty) flags, congrArg (·.textCommentModified) flags⟩
  · rename_i cropMode
    rw [if_neg (show ¬screen.frame.isInclinaison = true from cropMode)]
    have cropped := @onImageCrop_flags _ display world screen acts
    exact ⟨congrArg (·.bDirty) cropped, congrArg (·.textCommentModified) cropped⟩

/-- In any case the document is dirty when there is something to save. -/
theorem autoCrop_flags (follows : world.Follows settings) (saves : Saves settings screen.view) :
    (autoCrop display world screen).frame.bDirty = true ∧
      (autoCrop display world screen).frame.textCommentModified =
        screen.frame.textCommentModified := by
  by_cases acts : Acts settings screen.view
  · exact autoCrop_flags_of_acts follows acts
  · rw [autoCrop_frame_of_idle follows acts]
    exact ⟨saves.resolve_right acts, rfl⟩

/-! ## Clean-ups that end -/

/-- Nothing to save: the first call returns. -/
theorem imageCleanup_of_not_saves (follows : world.Follows settings)
    (nothing : ¬Saves settings screen.view) :
    Returns (imageCleanup display world · screen) fun _ => True := by
  have idle : ¬Acts settings screen.view := fun acts => nothing (.inr acts)
  have same := @autoCrop_frame_of_idle _ display world settings screen follows idle
  refine @Returns.result _ _ _ (autoCrop display world screen, true) ?_ trivial
  intro fuel
  rw [imageCleanup_succ follows fuel screen rfl, same, if_neg]
  exact fun isDirty => nothing (.inl isDirty)

/-- What a tool leaves still is saved. -/
theorem Still.saves {next : Screen Pixels} (still : Still display settings next.view)
    (follows : world.Follows settings) (genuine : world.Genuine)
    (acted : Screen.autoCrop display world screen = next)
    (inPlace : next.frame.textCommentModified = true → settings.SavesInPlace)
    (scanned : next.frame.textCommentModified = true → next.frame.bJPEGlossless = true →
      ScanEnds next.frame) :
    Returns (Screen.imageCleanup display world · screen) fun _ => True := by
  apply (stillPlan follows).imageCleanup follows acted still
  · exact fun pending _ => inPlace pending
  · exact fun pending lossless => wrjpgcomEnds_of_scanEnds genuine (scanned pending lossless)

/-- So is a lossy crop after which the tool is idle. -/
theorem saves_of_cropped {next : Screen Pixels} (follows : world.Follows settings)
    (genuine : world.Genuine)
    (acted : Screen.autoCrop display world screen = onImageCrop display world next)
    (lossy : next.frame.bJPEGlossless = false)
    (selects : next.box.Selects)
    (idles : View.Idles
      { next.view with box := croppedBox display next.frame.image next.box })
    (inPlace : next.frame.textCommentModified = true → settings.SavesInPlace) :
    Returns (Screen.imageCleanup display world · screen) fun _ => True := by
  have view := @onImageCrop_view _ display world next selects lossy
  have still : Still display settings (onImageCrop display world next).view := by
    intro _
    rw [view]
    refine ⟨idles, ?_⟩
    exact fun _ lossless => absurd (lossy.symm.trans lossless) Bool.false_ne_true
  apply still.saves follows genuine acted
  · exact fun pending => inPlace ((congrArg (·.textCommentModified) view).symm.trans pending)
  · intro _ lossless
    have flag := (congrArg (·.bJPEGlossless) view).symm.trans lossless
    exact absurd (lossy.symm.trans flag) Bool.false_ne_true

theorem slanted_of_acts (acts : Acts settings screen.view)
    (inclination : screen.frame.isInclinaison = true) : Slanted screen.box := by
  have tool := acts.2
  unfold View.ToolActs at tool
  rwa [if_pos (show screen.view.isInclinaison = true from inclination)] at tool

/-- In the inclination mode the tool is the correction, which crops if that is wanted. -/
theorem autoCrop_of_inclination (follows : world.Follows settings)
    (acts : Acts settings screen.view) (inclination : screen.frame.isInclinaison = true) :
    autoCrop display world screen =
      if settings.bAutoRotateCrop then
        onImageCrop display world (inclineImage display world screen)
      else inclineImage display world screen := by
  have slanted := slanted_of_acts acts inclination
  unfold autoCrop onToolAction onImageInclin
  rw [follows.bAutoCrop, acts.1, if_pos rfl, inclination, if_pos rfl,
    if_pos ((definesAngle_iff world screen).mpr ⟨inclination, slanted⟩)]
  dsimp only
  rw [follows.bAutoRotateCrop]

/-- In the crop mode the tool is the crop. -/
theorem autoCrop_of_cropMode (follows : world.Follows settings)
    (crops : settings.bAutoCrop = true) (cropMode : screen.frame.isInclinaison = false) :
    autoCrop display world screen = onImageCrop display world screen := by
  unfold autoCrop onToolAction
  rw [follows.bAutoCrop, crops, if_pos rfl, cropMode, if_neg Bool.false_ne_true]

/-- A proposed zone that is cropped later is saved before. -/
theorem ready_of_proposed (lossy : screen.frame.bJPEGlossless = false)
    (unforced : screen.box.Unforced) : Ready (inclineImage display world screen).view := by
  rw [inclineImage_view]
  exact ⟨rfl, unforced_inclineBox unforced display _, lossy⟩

/-- The corrections of the inclination. -/
theorem Ends.inclined (ends : Ends display settings screen) (follows : world.Follows settings)
    (genuine : world.Genuine) (acts : Acts settings screen.view)
    (inclination : screen.frame.isInclinaison = true) :
    Returns (imageCleanup display world · screen) fun _ => True := by
  have acted := @autoCrop_of_inclination _ display _ _ _ follows acts inclination
  have view := inclineImage_view display world screen
  have box : (inclineImage display world screen).box = correctedBox display screen :=
    congrArg (·.box) view
  have inPlace : (inclineImage display world screen).frame.textCommentModified = true →
      settings.SavesInPlace :=
    fun pending => ends.inPlace ((congrArg (·.textCommentModified) view).symm.trans pending)
  by_cases selects : (correctedBox display screen).Selects
  · obtain ⟨lossy, left⟩ := ends.proposed acts inclination selects
    split at left
    · rename_i rotates
      rw [if_pos rotates] at acted
      apply saves_of_cropped follows genuine acted
        ((congrArg (·.bJPEGlossless) view).trans lossy) (by rwa [box]) _ inPlace
      rw [box, inclineImage_image, view]
      exact left
    · rename_i waits
      rw [if_neg waits] at acted
      obtain ⟨unforced, noSelection⟩ := left
      have ready := @ready_of_proposed _ display world screen lossy unforced
      apply (readyPlan follows acts.1 noSelection).imageCleanup follows acted ready
      · exact fun pending _ => inPlace pending
      · exact fun _ lossless => absurd (ready.lossy.symm.trans lossless) Bool.false_ne_true
  · have still := ends.corrected acts inclination selects
    have scanned : (inclineImage display world screen).frame.textCommentModified = true →
        (inclineImage display world screen).frame.bJPEGlossless = true →
          ScanEnds (inclineImage display world screen).frame := by
      intro pending lossless
      exact (ends.scanned ((congrArg (·.textCommentModified) view).symm.trans pending)
        ((congrArg (·.bJPEGlossless) view).symm.trans lossless)).inclineImage
    split at acted
    · -- The crop only reads the zone again.
      rw [onImageCrop_eq, box, if_neg selects] at acted
      have stillNext : Still display settings
          (View.mk (inclineImage display world screen).view.toFlags
            (correctedBox display screen).getSelectedZone.1) := by
        rw [view]
        exact still.reading
      exact Still.saves stillNext follows genuine acted inPlace scanned
    · have stillNext : Still display settings (inclineImage display world screen).view := by
        rw [view]
        exact still
      exact stillNext.saves follows genuine acted inPlace scanned

theorem Ends.imageCleanup (ends : Ends display settings screen)
    (follows : world.Follows settings) (genuine : world.Genuine) :
    Returns (imageCleanup display world · screen) fun _ => True := by
  by_cases acts : Acts settings screen.view
  · cases mode : screen.frame.isInclinaison with
    | false =>
        obtain ⟨lossy, idles⟩ := ends.cropped acts mode
        have selects : screen.box.Selects := (toolActs_of_cropMode mode).mp acts.2
        exact saves_of_cropped follows genuine (autoCrop_of_cropMode follows acts.1 mode)
          lossy selects idles ends.inPlace
    | true => exact ends.inclined follows genuine acts mode
  · obtain ⟨box, acted, still⟩ := (ends.idle acts).autoCrop follows
    exact Still.saves still follows genuine acted ends.inPlace ends.scanned

/-- A screen that can be followed is cleaned up in every world. -/
theorem alwaysReturns_of_ends
    (ends : Saves settings screen.view → Ends display settings screen) :
    AlwaysReturns display settings screen := by
  intro world follows genuine
  by_cases saves : Saves settings screen.view
  · exact (ends saves).imageCleanup follows genuine
  · exact imageCleanup_of_not_saves follows saves

end Screen

end RPhoto.Editing
