import RPhoto.Editing.CleanupEnds
import RPhoto.Editing.SnapshotRoundTrip

/-!
# Clean-ups without end

In the worst world a comment that the save does not write, and a selection that
jpegtran does not crop, are still there after every write.  The clean-up after the
write finds them and writes again.
-/

namespace RPhoto.Editing

open RPhoto.Jpeg RPhoto.Library RPhoto.Tracker

variable {Pixels : Type}

/-- The document has its names, as after every load. -/
def Named (frame : Frame Pixels) : Prop :=
  frame.sFilename ≠ noFile ∧ frame.sOriginalFilename.fullName ≠ ""

instance (frame : Frame Pixels) : Decidable (Named frame) :=
  inferInstanceAs (Decidable (_ ∧ _))

theorem splitFullName_ne_nil {fullName : String} (named : fullName ≠ "") :
    (splitFullName fullName).1 ≠ [] := by
  unfold splitFullName
  split
  · exact fun none => absurd (List.reverse_eq_nil_iff.mp none) (List.cons_ne_nil _ _)
  · exact fun none => named (String.toList_eq_nil_iff.mp none)

/-- An automatic save under another name has a name. -/
theorem autoSaveName_named {original : FileName} {folder : AutoSaveFolder} {suffix : String}
    (named : original.fullName ≠ "") : autoSaveName original folder suffix ≠ noFile := by
  have fullName : (autoSaveName original folder suffix).fullName =
      (original.appendName suffix).fullName := by
    cases folder <;> rfl
  have letters : (original.appendName suffix).fullName ≠ "" := by
    intro empty
    have none := String.ofList_eq_empty_iff.mp empty
    simp only [List.append_eq_nil_iff] at none
    exact splitFullName_ne_nil named none.1.1
  intro unnamed
  exact letters (fullName.symm.trans (congrArg FileName.fullName unnamed))

/-! ## Names that stay -/

section Names

variable {wx : Wx Pixels} {env : Environment Pixels} {frame : Frame Pixels}

theorem Named.congr {next : Frame Pixels} (named : Named frame)
    (working : next.sFilename = frame.sFilename)
    (original : next.sOriginalFilename = frame.sOriginalFilename) : Named next := by
  unfold Named
  rw [working, original]
  exact named

theorem Named.imageUndoPoint (named : Named frame) : Named (imageUndoPoint env frame) :=
  named.congr (imageUndoPoint_sFilename env frame) (imageUndoPoint_sOriginalFilename env frame)

/-- A new temporary file has a name. -/
theorem Named.copyToTemp (named : Named frame)
    (creates : ∀ frame, (env frame).createTempFileName ≠ noFile) :
    Named (copyToTemp env frame).1 := by
  have original : (Editing.imageUndoPoint env frame).sOriginalFilename.fullName ≠ "" :=
    named.imageUndoPoint.2
  unfold Editing.copyToTemp
  dsimp only
  split
  · exact ⟨creates _, original⟩
  · exact ⟨creates _, original⟩

theorem Named.applyTool (named : Named frame) (call : Bool → Call) (output : Option Bytes) :
    Named (applyTool wx call output frame).1 := by
  cases output with
  | none => exact named
  | some data => exact named

theorem Named.callJPEGTranTryPerfect (named : Named frame)
    (creates : ∀ frame, (env frame).createTempFileName ≠ noFile) (command : JpegtranCommand) :
    Named (callJPEGTranTryPerfect wx env command frame).1 := by
  have copied := named.copyToTemp creates
  unfold Editing.callJPEGTranTryPerfect
  dsimp only
  split
  · exact copied.applyTool _ _
  · exact copied

theorem Named.imageManip (named : Named frame) (transform : Transform) :
    Named (imageManip wx env transform frame) :=
  named.congr (imageUndoPoint_sFilename env frame) (imageUndoPoint_sOriginalFilename env frame)

theorem Named.inclineImage (named : Named frame) : Named (inclineImage wx env frame) := by
  apply named.congr
  · simp [Editing.inclineImage, endImageManip, setTransformed, beginImageManip,
      updateControlsState, dirty, Frame.record]
  · simp [Editing.inclineImage, endImageManip, setTransformed, beginImageManip,
      updateControlsState, dirty, Frame.record]

theorem Named.onImageWriteComment (named : Named frame)
    (creates : ∀ frame, (env frame).createTempFileName ≠ noFile) :
    Named (onImageWriteComment wx env frame) := by
  have isDirty : Named (dirty frame) := named
  have original : (Editing.imageUndoPoint env (dirty frame)).sOriginalFilename.fullName ≠ "" :=
    isDirty.imageUndoPoint.2
  unfold Editing.onImageWriteComment writeComment
  split
  · split
    · unfold writeCommentLossless
      dsimp only
      split
      · exact ⟨creates _, original⟩
      · exact ⟨creates _, original⟩
    · apply isDirty.congr
      · exact imageUndoPoint_sFilename env (dirty frame)
      · exact imageUndoPoint_sOriginalFilename env (dirty frame)
  · exact named

theorem Named.workingFilename (named : Named frame) :
    workingFilename frame.toDocument ≠ noFile := by
  unfold Editing.workingFilename
  split
  · exact fun unnamed => named.2 (congrArg FileName.fullName unnamed)
  · exact named.1

theorem Named.writeAs (named : Named frame) (name : FileName) :
    Named (writeAs wx env name (leaveTemp frame)) := by
  unfold Editing.writeAs
  split
  · exact ⟨named.workingFilename, named.2⟩
  · exact ⟨named.workingFilename, named.2⟩

theorem Named.saveLossy (named : Named frame) : Named (saveLossy wx env frame) :=
  ⟨named.workingFilename, named.2⟩

end Names

namespace Screen

variable {display : Display Pixels} {world : World Pixels} {settings : Settings}
  {screen : Screen Pixels}

/-! ## The worst world -/

/--
Nothing can be written in place, jpegtran and wrjpgcom fail, and the user wants to
save, but not the comment.
-/
def worstEnv (settings : Settings) : ScreenEnv where
  undoHistory := 0
  bAutoCrop := settings.bAutoCrop
  bAutoSave := settings.bAutoSave
  bAutoRot := false
  bAutoRotateCrop := settings.bAutoRotateCrop
  bAutoSelectMax := settings.bAutoSelectMax
  sAutoSaveFolder := settings.sAutoSaveFolder
  sAutoSaveSuffix := settings.sAutoSaveSuffix
  quality := 80
  selectedZone := ⟨0, 0, 0, 0⟩
  line := (0, 0)
  writeComment := false
  saveAnswer := .yes
  selectedFile := ⟨[], "copy.jpg"⟩
  createTempFileName := ⟨[], "temporary"⟩
  isFileWritable := fun _ => false
  copyFault := none
  openFails := false
  createFails := false
  readFails := fun _ => false
  writeStops := fun _ => none
  saveFails := false
  renameFails := false
  jpegtran := fun _ _ _ => none
  jhead := fun _ _ => none
  wrjpgcom := fun _ _ => (1, [])
  wrjpgcomReturns := fun _ _ => true

/-- A temporary file that is not the working file. -/
def temporaryFile (document : Document Pixels) : FileName :=
  if sourceFilename document = ⟨[], "temporary"⟩ then ⟨[], "another"⟩ else ⟨[], "temporary"⟩

theorem temporaryFile_ne_noFile (document : Document Pixels) :
    temporaryFile document ≠ noFile := by
  unfold temporaryFile
  split
  · decide
  · decide

theorem temporaryFile_ne_source (document : Document Pixels) :
    temporaryFile document ≠ sourceFilename document := by
  unfold temporaryFile
  split
  · rename_i same
    rw [same]
    decide
  · rename_i different
    exact Ne.symm different

def worstWorld (settings : Settings) : World Pixels := fun screen =>
  { worstEnv settings with createTempFileName := temporaryFile screen.frame.toDocument }

theorem worstWorld_follows (settings : Settings) :
    (worstWorld settings : World Pixels).Follows settings :=
  ⟨fun _ => rfl, fun _ => rfl, fun _ => rfl, fun _ => rfl, fun _ => rfl, fun _ => rfl⟩

theorem worstWorld_genuine (settings : Settings) :
    (worstWorld settings : World Pixels).Genuine where
  wrjpgcom := fun _ _ _ => ⟨fun _ failed => absurd failed Int.one_ne_zero, fun _ => rfl⟩
  createTempFileName := fun screen => .inr (temporaryFile_ne_source screen.frame.toDocument)

theorem worstWorld_creates (settings : Settings) (screen : Screen Pixels) :
    (worstWorld settings screen).createTempFileName ≠ noFile :=
  temporaryFile_ne_noFile screen.frame.toDocument

/-- jpegtran fails. -/
theorem worstWorld_jpegtran (wx : Wx Pixels) (settings : Settings) (box : DisplayBox)
    (command : JpegtranCommand) (frame : Frame Pixels) :
    (callJPEGTranTryPerfect wx ((worstWorld settings).environment box) command frame).2 =
      false := by
  unfold callJPEGTranTryPerfect
  dsimp only
  split
  · have fails (source : Option Bytes) (copied : Frame Pixels) :
        jpegtranOutput ((worstWorld settings).environment box copied) command source = none := by
      cases source <;> rfl
    rw [fails]
    rfl
  · rfl

/-- wrjpgcom fails. -/
theorem worstWorld_wrjpgcom (wx : Wx Pixels) (settings : Settings) (box : DisplayBox)
    (frame : Frame Pixels) :
    wrjpgcomSucceeds wx ((worstWorld settings).environment box) frame = false := by
  unfold wrjpgcomSucceeds callWrjpgcom
  dsimp only
  cases Library.FileStore.content _ _ <;> rfl

theorem worstWorld_wrjpgcomEnds (display : Display Pixels) (settings : Settings)
    (screen : Screen Pixels) : wrjpgcomEnds display (worstWorld settings) screen = true := by
  unfold wrjpgcomEnds
  dsimp only
  cases Library.FileStore.content _ _ <;> rfl

/-! ## What is still there -/

/-- A lossless selection. -/
structure Uncropped (view : View) : Prop where
  cropMode : view.isInclinaison = false
  lossless : view.bJPEGlossless = true
  selects : view.box.Selects
  free : view.box.Free

/-- A comment that the save does not write, or a selection that jpegtran does not crop. -/
def Stuck (settings : Settings) (view : View) : Prop :=
  (view.textCommentModified = true ∧ ¬settings.SavesInPlace) ∨
    (settings.bAutoCrop = true ∧ Uncropped view)

/-- A named document that is saved and has something stuck. -/
structure Trapped (settings : Settings) (screen : Screen Pixels) : Prop where
  named : Named screen.frame
  stuck : Stuck settings screen.view

/-- A failing jpegtran leaves the selection. -/
theorem Uncropped.onImageCrop (uncropped : Uncropped screen.view) :
    (onImageCrop display (worstWorld settings) screen).view =
      { screen.view with bDirty := true } := by
  rw [onImageCrop_lossless uncropped.selects uncropped.lossless uncropped.free]
  unfold afterTool
  rw [worstWorld_jpegtran, if_neg Bool.false_ne_true]
  exact congrArg (View.mk · screen.box) (flags_callJPEGTranTryPerfect _ rfl)

/-- The frame gets its temporary files from the screen. -/
theorem environment_creates (creates : ∀ screen, (world screen).createTempFileName ≠ noFile)
    (box : DisplayBox) (frame : Frame Pixels) :
    (world.environment box frame).createTempFileName ≠ noFile :=
  creates { frame, box }

theorem Named.onImageCrop (named : Named screen.frame)
    (creates : ∀ screen, (world screen).createTempFileName ≠ noFile) :
    Named (Screen.onImageCrop display world screen).frame := by
  have isDirty : Named (dirty screen.frame) := named
  rw [onImageCrop_eq]
  split
  · split
    · exact isDirty.callJPEGTranTryPerfect (environment_creates creates screen.box) _
    · exact isDirty.imageManip _
  · exact named

theorem Named.autoCrop (named : Named screen.frame)
    (creates : ∀ screen, (world screen).createTempFileName ≠ noFile) :
    Named (Screen.autoCrop display world screen).frame := by
  unfold Screen.autoCrop onToolAction onImageInclin
  split
  · split
    · split
      · have inclined : Named (Screen.inclineImage display world screen).frame :=
          Editing.Named.inclineImage named
        dsimp only
        split
        · exact Named.onImageCrop inclined creates
        · exact inclined
      · exact named
    · exact Named.onImageCrop named creates
  · exact named

/-- So the tool of a clean-up leaves what is stuck. -/
theorem Trapped.autoCrop (trapped : Trapped settings screen)
    (saves : Saves settings screen.view) :
    Trapped settings (autoCrop display (worstWorld settings) screen) := by
  refine ⟨Named.autoCrop trapped.named (worstWorld_creates settings), ?_⟩
  rcases trapped.stuck with ⟨pending, elsewhere⟩ | ⟨crops, uncropped⟩
  · left
    exact ⟨(autoCrop_flags (worstWorld_follows settings) saves).2.trans pending, elsewhere⟩
  · right
    rw [autoCrop_of_cropMode (worstWorld_follows settings) crops uncropped.cropMode,
      uncropped.onImageCrop]
    exact ⟨crops, uncropped.cropMode, uncropped.lossless, uncropped.selects, uncropped.free⟩

/-- The comment is refused, or wrjpgcom fails and loads nothing. -/
theorem Trapped.writePendingComment (trapped : Trapped settings screen)
    (place : settings.SavesInPlace ∨ settings.bAutoSave = false) :
    ∃ next, writePendingComment display (worstWorld settings) screen = some next ∧
      Trapped settings next := by
  unfold Screen.writePendingComment
  split
  · rename_i writes
    simp only [Bool.and_eq_true] at writes
    obtain ⟨pending, wanted⟩ := writes
    have returns : ¬(screen.frame.bJPEGlossless &&
        !wrjpgcomEnds display (worstWorld settings) screen) = true := by
      rw [worstWorld_wrjpgcomEnds, Bool.not_true, Bool.and_false]
      exact Bool.false_ne_true
    rw [if_neg returns]
    refine ⟨_, rfl, ?_⟩
    have autoSave : settings.bAutoSave = true := (Bool.or_false _).symm.trans wanted
    have inPlace := place.resolve_right fun off =>
      Bool.false_ne_true (off.symm.trans autoSave)
    refine ⟨Named.onImageWriteComment trapped.named
      (environment_creates (worstWorld_creates settings) screen.box), ?_⟩
    rcases trapped.stuck with ⟨-, elsewhere⟩ | ⟨crops, uncropped⟩
    · exact absurd inPlace elsewhere
    · right
      have box : (Screen.onImageWriteComment display (worstWorld settings) screen).box =
          screen.box := by
        unfold Screen.onImageWriteComment
        dsimp only
        rw [worstWorld_wrjpgcom, Bool.and_false, if_neg Bool.false_ne_true]
      rw [onImageWriteComment_view pending, box]
      exact ⟨crops, uncropped.cropMode, uncropped.lossless, uncropped.selects, uncropped.free⟩
  · exact ⟨screen, rfl, trapped⟩

/-- After a write it makes the next clean-up save again. -/
theorem Trapped.writtenAs (trapped : Trapped settings screen) (name : FileName) :
    Trapped settings (writtenAs display (worstWorld settings) name screen) ∧
      Saves settings (Screen.writtenAs display (worstWorld settings) name screen).view := by
  have named : Named (Screen.writtenAs display (worstWorld settings) name screen).frame :=
    Editing.Named.writeAs trapped.named name
  have view := view_writtenAs display (worstWorld settings) name screen
  rcases trapped.stuck with ⟨pending, elsewhere⟩ | ⟨crops, uncropped⟩
  · refine ⟨⟨named, .inl ⟨?_, elsewhere⟩⟩, .inl ?_⟩
    · rw [view]
      exact pending
    · rw [view]
      exact pending
  · refine ⟨⟨named, .inr ⟨crops, ?_⟩⟩, .inr ⟨crops, ?_⟩⟩
    · rw [view]
      exact ⟨uncropped.cropMode, uncropped.lossless, uncropped.selects, uncropped.free⟩
    · rw [view]
      exact (toolActs_of_cropMode uncropped.cropMode).mpr uncropped.selects

/-! ## Calls without a result -/

/-- Fewer calls than `fuel` are not enough for any clean-up of a trapped screen. -/
def EndlessBelow (display : Display Pixels) (settings : Settings) (fuel : Nat) : Prop :=
  ∀ less, less < fuel → ∀ screen : Screen Pixels, Trapped settings screen →
    Saves settings screen.view →
      imageCleanup display (worstWorld settings) less screen = none

theorem EndlessBelow.mono {fuel less : Nat} (endless : EndlessBelow display settings fuel)
    (fewer : less ≤ fuel) : EndlessBelow display settings less :=
  fun calls below => endless calls (Nat.lt_of_lt_of_le below fewer)

/-- A save under another name cleans up. -/
theorem EndlessBelow.imageSaveAs {fuel : Nat} (endless : EndlessBelow display settings fuel)
    (trapped : Trapped settings screen) {name : FileName} (named : name ≠ noFile) :
    imageSaveAs display (worstWorld settings) fuel name screen = none := by
  cases fuel with
  | zero => rw [Screen.imageSaveAs]
  | succ fuel =>
      obtain ⟨still, saves⟩ := @Trapped.writtenAs _ display settings screen trapped name
      rw [imageSaveAs_succ fuel name screen named,
        endless fuel (Nat.lt_succ_self fuel) _ still saves]
      rfl

theorem EndlessBelow.onFileSaveAs {fuel : Nat} (endless : EndlessBelow display settings fuel)
    (trapped : Trapped settings screen) :
    onFileSaveAs display (worstWorld settings) fuel screen = none := by
  cases fuel with
  | zero => rw [Screen.onFileSaveAs]
  | succ fuel =>
      have selected : (worstWorld settings screen).selectedFile ≠ noFile := by
        show (⟨[], "copy.jpg"⟩ : FileName) ≠ noFile
        decide
      rw [onFileSaveAs_succ fuel screen selected,
        (endless.mono (Nat.le_succ fuel)).imageSaveAs trapped selected]
      rfl

/-- A document that cannot be written in place is saved under another name. -/
theorem EndlessBelow.onFileSave {fuel : Nat} (endless : EndlessBelow display settings fuel)
    (trapped : Trapped settings screen)
    (place : settings.SavesInPlace ∨ settings.bAutoSave = false) :
    onFileSave display (worstWorld settings) fuel screen = none := by
  cases fuel with
  | zero => rw [Screen.onFileSave]
  | succ fuel =>
      obtain ⟨next, commented, still⟩ :=
        @Trapped.writePendingComment _ display _ _ trapped place
      rw [onFileSave_succ fuel screen trapped.named.1 commented]
      refine (if_neg Bool.false_ne_true).trans ?_
      exact (endless.mono (Nat.le_succ fuel)).onFileSaveAs still

/-- A clean-up whose tool leaves a trapped document saves it. -/
theorem EndlessBelow.imageCleanup {fuel : Nat} (endless : EndlessBelow display settings fuel)
    (acted : Trapped settings (Screen.autoCrop display (worstWorld settings) screen))
    (isDirty : (Screen.autoCrop display (worstWorld settings) screen).frame.bDirty = true) :
    imageCleanup display (worstWorld settings) (fuel + 1) screen = none := by
  rw [imageCleanup_succ (worstWorld_follows settings) fuel screen rfl, isDirty, if_pos rfl]
  by_cases inPlace : settings.SavesInPlace
  · rw [if_pos inPlace, endless.onFileSave acted (.inl inPlace)]
    rfl
  · rw [if_neg inPlace]
    cases autoSave : settings.bAutoSave with
    | true =>
        rw [if_pos rfl, endless.imageSaveAs acted (autoSaveName_named acted.named.2)]
        rfl
    | false =>
        rw [if_neg Bool.false_ne_true]
        show (Screen.onFileSave display (worstWorld settings) fuel _).bind _ = none
        rw [endless.onFileSave acted (.inr autoSave)]
        rfl

/-- No number of calls is enough. -/
theorem imageCleanup_endless (fuel : Nat) : EndlessBelow display settings fuel := by
  induction fuel with
  | zero => exact fun less below => absurd below (Nat.not_lt_zero less)
  | succ fuel endless =>
      intro less below screen trapped saves
      cases less with
      | zero => rw [imageCleanup]
      | succ less =>
          have inside := endless.mono (Nat.le_of_lt (Nat.lt_of_succ_lt_succ below))
          exact inside.imageCleanup (trapped.autoCrop saves)
            (autoCrop_flags (worstWorld_follows settings) saves).1

/-- So a clean-up whose tool leaves a trapped document does not return in the worst world. -/
theorem not_alwaysReturns_of_acted
    (acted : Trapped settings (autoCrop display (worstWorld settings) screen))
    (isDirty : (autoCrop display (worstWorld settings) screen).frame.bDirty = true) :
    ¬AlwaysReturns display settings screen := by
  intro returns
  obtain ⟨fuel, result, returned, -⟩ :=
    (returns (worstWorld settings) (worstWorld_follows settings)
      (worstWorld_genuine settings)).exists_fuel
  cases fuel with
  | zero =>
      rw [imageCleanup] at returned
      cases returned
  | succ fuel =>
      rw [(imageCleanup_endless fuel).imageCleanup acted isDirty] at returned
      cases returned

theorem Trapped.not_alwaysReturns (trapped : Trapped settings screen)
    (saves : Saves settings screen.view) : ¬AlwaysReturns display settings screen :=
  not_alwaysReturns_of_acted (trapped.autoCrop saves)
    (autoCrop_flags (worstWorld_follows settings) saves).1

/-- A lossless zone that a correction of the inclination proposes is not cropped either. -/
theorem not_alwaysReturns_of_proposed (named : Named screen.frame)
    (acts : Acts settings screen.view) (inclination : screen.frame.isInclinaison = true)
    (selects : (correctedBox display screen).Selects) (free : (correctedBox display screen).Free)
    (lossless : screen.frame.bJPEGlossless = true) :
    ¬AlwaysReturns display settings screen := by
  have follows := @worstWorld_follows Pixels settings
  have acted := @autoCrop_of_inclination _ display _ _ _ follows acts inclination
  have view := inclineImage_view display (worstWorld settings) screen
  have uncropped : Uncropped (inclineImage display (worstWorld settings) screen).view := by
    rw [view]
    exact ⟨rfl, lossless, selects, free⟩
  refine not_alwaysReturns_of_acted ⟨Named.autoCrop named (worstWorld_creates settings), ?_⟩
    (autoCrop_flags_of_acts follows acts).1
  right
  rw [acted]
  split
  · rw [uncropped.onImageCrop]
    exact ⟨acts.1, uncropped.cropMode, uncropped.lossless, uncropped.selects, uncropped.free⟩
  · exact ⟨acts.1, uncropped⟩

/-! ## A call that does not return -/

/-- The undo list is long enough, and wrjpgcom opens its files. -/
def scanningWorld (settings : Settings) (undoHistory : Nat) : World Pixels := fun screen =>
  { worstWorld settings screen with
    undoHistory
    wrjpgcom := fun data _ => (0, data)
    wrjpgcomReturns := fun data _ => decide (Reaches (data.drop 2)) }

theorem scanningWorld_follows (settings : Settings) (undoHistory : Nat) :
    (scanningWorld settings undoHistory : World Pixels).Follows settings :=
  ⟨fun _ => rfl, fun _ => rfl, fun _ => rfl, fun _ => rfl, fun _ => rfl, fun _ => rfl⟩

theorem scanningWorld_genuine (settings : Settings) (undoHistory : Nat) :
    (scanningWorld settings undoHistory : World Pixels).Genuine where
  wrjpgcom := fun _ _ _ => ⟨fun ends _ => of_decide_eq_true ends,
    fun reaches => decide_eq_true (reaches rfl)⟩
  createTempFileName := fun screen => .inr (temporaryFile_ne_source screen.frame.toDocument)

/-- An undo list with room drops nothing. -/
theorem limitUndo_files {limit : Nat} {frame : Frame Pixels}
    (room : frame.historyUndo.length ≤ limit) : (limitUndo limit frame).files = frame.files := by
  unfold limitUndo
  dsimp only
  rw [Nat.sub_eq_zero_of_le room, List.take_zero]
  rfl

/-- So the files that the redo list does not own are kept. -/
theorem content_imageUndoPoint {env : Environment Pixels} {frame : Frame Pixels}
    {name : FileName} (room : frame.historyUndo.length + 1 ≤ (env frame).undoHistory)
    (free : ∀ entry ∈ frame.historyRedo, entry.owner ≠ some name) :
    (imageUndoPoint env frame).files.content name = frame.files.content name := by
  unfold imageUndoPoint
  split
  · rfl
  · dsimp only
    rw [limitUndo_files]
    · exact content_destroyAll_of_notOwned free
    · simpa [appendUndo, clearRedo, Frame.record] using room

/-- wrjpgcom opens the working file and scans it for ever. -/
theorem scanningWorld_endless (display : Display Pixels) (settings : Settings)
    (named : Named screen.frame) (endless : ¬ScanEnds screen.frame) (box : DisplayBox) :
    wrjpgcomEnds display (scanningWorld settings (screen.frame.historyUndo.length + 1))
      { screen with box } = false := by
  simp only [ScanEnds, not_forall] at endless
  obtain ⟨data, present, free, never⟩ := endless
  have hasOriginal : screen.frame.sOriginalFilename ≠ noFile := fun unnamed =>
    named.2 (congrArg FileName.fullName unnamed)
  have kept := @content_imageUndoPoint _
    ((scanningWorld settings (screen.frame.historyUndo.length + 1)).environment box)
    (dirty screen.frame) (sourceFilename screen.frame.toDocument) (Nat.le_refl _)
    (free hasOriginal)
  have here : (dirty screen.frame).files.content (sourceFilename screen.frame.toDocument) =
      some data := present
  unfold wrjpgcomEnds
  dsimp only
  rw [content_switchToTemp (scanningWorld_genuine settings _), sourceFilename_imageUndoPoint,
    kept, here]
  exact decide_eq_false never

/-- So a pending comment is not written. -/
theorem not_alwaysReturns_of_scan (named : Named screen.frame)
    (saves : Saves settings screen.view) (idle : ¬Acts settings screen.view)
    (inPlace : settings.SavesInPlace) (pending : screen.frame.textCommentModified = true)
    (lossless : screen.frame.bJPEGlossless = true) (endless : ¬ScanEnds screen.frame) :
    ¬AlwaysReturns display settings screen := by
  intro returns
  have follows := @scanningWorld_follows Pixels settings (screen.frame.historyUndo.length + 1)
  have isDirty : screen.frame.bDirty = true := saves.resolve_right idle
  have acted := @autoCrop_of_idle _ display _ _ _ follows fun crops acts => idle ⟨crops, acts⟩
  have never := scanningWorld_endless display settings named endless
  obtain ⟨fuel, result, returned, -⟩ := (returns _ follows (scanningWorld_genuine _ _)).exists_fuel
  revert acted
  generalize (if settings.bAutoCrop then reading screen.frame.isInclinaison screen.box
    else screen.box) = box
  intro acted
  have unwritten : writePendingComment display
      (scanningWorld settings (screen.frame.historyUndo.length + 1)) { screen with box } =
        none := by
    unfold writePendingComment
    dsimp only
    rw [pending, lossless, never box, follows.bAutoSave, inPlace.1]
    rfl
  have unsaved (fuel : Nat) : onFileSave display
      (scanningWorld settings (screen.frame.historyUndo.length + 1)) fuel { screen with box } =
        none := by
    cases fuel with
    | zero => rw [onFileSave]
    | succ fuel =>
        rw [onFileSave, if_neg named.1, unwritten]
        rfl
  cases fuel with
  | zero =>
      rw [imageCleanup] at returned
      cases returned
  | succ fuel =>
      rw [imageCleanup_succ follows fuel screen acted, if_pos isDirty, if_pos inPlace,
        unsaved fuel] at returned
      cases returned

/--
What a clean-up needs to return in every world: a pending comment is saved in place and
its header scan ends, and what is cropped without a fixed size is lossy.
-/
structure Needs (display : Display Pixels) (settings : Settings) (screen : Screen Pixels) :
    Prop where
  inPlace : screen.frame.textCommentModified = true → settings.SavesInPlace
  scanned : ¬Acts settings screen.view → screen.frame.textCommentModified = true →
    screen.frame.bJPEGlossless = true → ScanEnds screen.frame
  cropped : Acts settings screen.view → screen.frame.isInclinaison = false →
    screen.box.Free → screen.frame.bJPEGlossless = false
  proposed : Acts settings screen.view → screen.frame.isInclinaison = true →
    (correctedBox display screen).Selects → (correctedBox display screen).Free →
      screen.frame.bJPEGlossless = false

theorem needs_of_alwaysReturns (named : Named screen.frame)
    (returns : AlwaysReturns display settings screen) (saves : Saves settings screen.view) :
    Needs display settings screen := by
  have inPlace : screen.frame.textCommentModified = true → settings.SavesInPlace := by
    intro pending
    by_contra elsewhere
    have trapped : Trapped settings screen := ⟨named, .inl ⟨pending, elsewhere⟩⟩
    exact trapped.not_alwaysReturns saves returns
  refine ⟨inPlace, ?_, ?_, ?_⟩
  · intro idle pending lossless
    by_contra endless
    exact not_alwaysReturns_of_scan named saves idle (inPlace pending) pending lossless endless
      returns
  · intro acts cropMode free
    rw [← Bool.not_eq_true]
    intro lossless
    have selects : screen.box.Selects := (toolActs_of_cropMode cropMode).mp acts.2
    have trapped : Trapped settings screen :=
      ⟨named, .inr ⟨acts.1, cropMode, lossless, selects, free⟩⟩
    exact trapped.not_alwaysReturns saves returns
  · intro acts inclination selects free
    rw [← Bool.not_eq_true]
    intro lossless
    exact not_alwaysReturns_of_proposed named acts inclination selects free lossless returns

/-- The small world with the sizes of its images. -/
def sampleDisplay : Display Bytes where
  toWx := sampleWx
  size := sampleSize
  inclinedSize := fun _ _ _ size => (size.1, size.2)

/-- A lossless photo with a selection. -/
def selectedPhoto : Screen Bytes where
  frame :=
    { emptyFrame sampleFiles with
      sOriginalFilename := photoA
      sFilename := photoA
      bJPEGlossless := true
      image := some ⟨[1], []⟩ }
  box := sampleBox .realSize 1 ⟨0, 0⟩ ⟨0, 0⟩

/-- The photo in a given file while its comment is edited. -/
def commentedPhoto (file : Bytes) : Screen Bytes :=
  { selectedPhoto with
    frame :=
      { selectedPhoto.frame with
        files := sampleFiles.write photoA file
        textCommentModified := true
        bDirty := true } }

/-- A header with nothing in it. -/
def shortFile : Bytes := [0xFF, 0xD8, 0xFF, 0xD9]

/-- Automatic saves next to the original or over it, without automatic crops. -/
def autoSaving (suffix : String) : Settings where
  bAutoCrop := false
  bAutoSave := true
  bAutoRotateCrop := false
  bAutoSelectMax := false
  sAutoSaveFolder := .empty
  sAutoSaveSuffix := suffix

/-- Automatic crops without automatic saves. -/
def autoCropping : Settings :=
  { autoSaving "" with bAutoCrop := true, bAutoSave := false }

end Screen

end RPhoto.Editing
