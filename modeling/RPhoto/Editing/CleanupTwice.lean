import RPhoto.Editing.EndlessCleanup

/-!
# Two clean-ups in a row

Opening a document cleans up before `ImageLoad`, which cleans up again.  The second
clean-up does nothing when the first one leaves a clean document in which the tool of
the mode finds nothing.  A selection that appears while the first one saves, or that
a correction of the inclination proposes, is only found by the second.
-/

namespace RPhoto.Editing

open RPhoto.Jpeg RPhoto.Library RPhoto.Tracker

variable {Pixels : Type}

/-- The tools and the writes succeed, and the user does not cancel. -/
structure World.Succeeds (world : World Pixels) : Prop where
  answers : ∀ screen, (world screen).saveAnswer ≠ .cancel
  isFileWritable : ∀ screen name, (world screen).isFileWritable name = true
  copyFault : ∀ screen, (world screen).copyFault = none
  saveFails : ∀ screen, (world screen).saveFails = false
  createTempFileName : ∀ screen, (world screen).createTempFileName ≠ noFile
  jpegtran : ∀ screen attempt command data,
    ((world screen).jpegtran attempt command data).isSome = true
  jhead : ∀ screen command data, ((world screen).jhead command data).isSome = true
  wrjpgcom : ∀ screen data comment, ((world screen).wrjpgcom data comment).1 = 0
  wrjpgcomReturns : world.CommentsReturn

namespace Screen

variable {display : Display Pixels} {world : World Pixels} {settings : Settings}
  {screen : Screen Pixels}

/-- The same pixels, files, dirty flag and mode. -/
structure SameDocument (once twice : Frame Pixels) : Prop where
  image : twice.image = once.image
  files : twice.files = once.files
  bDirty : twice.bDirty = once.bDirty
  isInclinaison : twice.isInclinaison = once.isInclinaison

/-- A second clean-up leaves the document that the first one leaves. -/
def Idempotent (display : Display Pixels) (settings : Settings) (screen : Screen Pixels) : Prop :=
  ∀ world again : World Pixels, world.Follows settings → again.Follows settings →
    world.Succeeds → again.Succeeds →
      Returns (imageCleanup display world · screen) fun once =>
        Returns (imageCleanup display again · once.1) fun twice =>
          SameDocument once.1.frame twice.1.frame

/-! ## Tools that succeed -/

/-- jpegtran gets a file to work on. -/
theorem jpegtran_succeeds (succeeds : world.Succeeds) (wx : Wx Pixels) (box : DisplayBox)
    (command : JpegtranCommand) (frame : Frame Pixels) :
    (callJPEGTranTryPerfect wx (world.environment box) command frame).2 = true := by
  have writable (frame : Frame Pixels) (name : FileName) :
      (world.environment box frame).isFileWritable name = true := succeeds.isFileWritable _ name
  have named (frame : Frame Pixels) : (world.environment box frame).createTempFileName ≠ noFile :=
    succeeds.createTempFileName _
  have noFault (frame : Frame Pixels) : (world.environment box frame).copyFault = none :=
    succeeds.copyFault _
  have runs (frame : Frame Pixels) (data : Bytes) :
      (jpegtranOutput (world.environment box frame) command (some data)).isSome = true := by
    have output := succeeds.jpegtran { frame, box } .perfect command data
    obtain ⟨written, output⟩ := Option.isSome_iff_exists.mp output
    have first : (world.environment box frame).jpegtran .perfect command data = some written :=
      output
    simp [jpegtranOutput, first]
  have copied : (copyToTemp (world.environment box) frame).2 = true := by
    simp [copyToTemp, writable]
  have content : ((copyToTemp (world.environment box) frame).1.files.content
      (copyToTemp (world.environment box) frame).1.sFilename).isSome = true := by
    simp only [copyToTemp, writable, if_true, copyFile, noFault, switchToTemp, createTempFile,
      Frame.record, if_neg (named _)]
    cases Library.FileStore.content _ (sourceFilename _) with
    | none => simp [copyOutcome, writeOutcome]
    | some data => simp [copyOutcome, writeOutcome, named]
  obtain ⟨data, content⟩ := Option.isSome_iff_exists.mp content
  unfold callJPEGTranTryPerfect
  dsimp only
  rw [copied, if_pos rfl, content]
  obtain ⟨output, ran⟩ := Option.isSome_iff_exists.mp
    (runs (copyToTemp (world.environment box) frame).1 data)
  rw [ran]
  rfl

/-- A crop dirties the document and resets the trackers of a box that is like the old one. -/
theorem onImageCrop_reset (display : Display Pixels) (succeeds : world.Succeeds)
    (selects : screen.box.Selects) (unforced : screen.box.Unforced) :
    ∃ loaded : DisplayBox, loaded.Unforced ∧
      loaded.rectTracker.fixedWidth = screen.box.rectTracker.fixedWidth ∧
      (onImageCrop display world screen).view =
        { screen.view with bDirty := true, box := loaded.trackerReset } := by
  cases lossless : screen.frame.bJPEGlossless with
  | false =>
      obtain ⟨width, height, view⟩ :=
        @onImageCrop_lossy _ display world screen selects lossless unforced
      exact ⟨screen.box.setImage width height, unforced.setImage width height, rfl, view⟩
  | true =>
      have called := @onImageCrop_lossless _ display world screen selects lossless unforced.free
      have succeeded := jpegtran_succeeds succeeds display.toWx screen.box
        (.crop screen.box.getSelectedZone.2) (dirty screen.frame)
      obtain ⟨loads, width, height, box⟩ := afterTool_box display screen.box succeeded
      refine ⟨screen.box.loadFile loads width height, unforced.loadFile loads width height,
        ?_, ?_⟩
      · cases loads <;> rfl
      · have flags : (onImageCrop display world screen).frame.flags =
            { screen.frame.flags with bDirty := true } := onImageCrop_flags selects
        have both : (onImageCrop display world screen).view =
            View.mk (onImageCrop display world screen).frame.flags
              (onImageCrop display world screen).box := rfl
        rw [both, flags, called, box]
        rfl

/-! ## What a save keeps -/

/-- A lossy document that is saved through `OnFileSave` is loaded again. -/
def Reloads (settings : Settings) (view : View) : Prop :=
  view.bJPEGlossless = false ∧ (settings.bAutoSave = true → settings.SavesInPlace)

/-- A load leaves nothing for the tool of the mode. -/
def LoadsNothing (settings : Settings) (view : View) : Prop :=
  settings.bAutoCrop = true →
    if view.isInclinaison then ¬Slanted view.box.trackerReset
    else view.box.Unforced ∧ settings.bAutoSelectMax = false

/-- The automatic tool finds nothing. -/
def Quiet (settings : Settings) (view : View) : Prop :=
  settings.bAutoCrop = true → view.Idles

/-- A save leaves nothing for the tool of the mode. -/
structure Calm (display : Display Pixels) (settings : Settings) (view : View) : Prop where
  still : Still display settings view
  loads : Reloads settings view → LoadsNothing settings view

/-- The same mode, without a new comment or a forced size. -/
structure Keeps (settings : Settings) (before after : View) : Prop where
  mode : after.isInclinaison = before.isInclinaison
  comment : after.textCommentModified = true → before.textCommentModified = true
  unforced : settings.bAutoCrop = true → before.box.Unforced → after.box.Unforced

/-- A quiet and clean document in the same mode. -/
structure Settles (settings : Settings) (before after : View) : Prop
    extends Keeps settings before after where
  quiet : Quiet settings after
  clean : after.bDirty = false

theorem Keeps.trans {first second third : View} (keeps : Keeps settings first second)
    (next : Keeps settings second third) : Keeps settings first third :=
  ⟨next.mode.trans keeps.mode, fun pending => keeps.comment (next.comment pending),
    fun crops unforced => next.unforced crops (keeps.unforced crops unforced)⟩

theorem Still.quiet {view : View} (still : Still display settings view) : Quiet settings view :=
  fun crops => (still crops).1

theorem Settles.of_view {before after : View} (quiet : Quiet settings before)
    (view : after = { before with bDirty := false }) : Settles settings before after := by
  subst view
  exact ⟨⟨rfl, id, fun _ unforced => unforced⟩, quiet, rfl⟩

theorem Keeps.settles {first second third : View} (keeps : Keeps settings first second)
    (next : Settles settings second third) : Settles settings first third :=
  ⟨keeps.trans next.toKeeps, next.quiet, next.clean⟩

/-- A clean-up of a quiet and clean document only reads the selected zone. -/
theorem Quiet.imageCleanup (quiet : Quiet settings screen.view)
    (follows : world.Follows settings) (clean : screen.frame.bDirty = false) :
    Returns (Screen.imageCleanup display world · screen) fun result =>
      result.1.frame = screen.frame ∧ Settles settings screen.view result.1.view := by
  refine .result (imageCleanup_of_idle follows (fun crops => (quiet crops).not_acts) clean)
    ⟨rfl, ⟨rfl, id, ?_⟩, ?_, clean⟩
  · intro crops unforced
    have same : reading screen.frame.isInclinaison screen.box = screen.box := by
      have unread : screen.box.getSelectedZone.1 = screen.box := unforced.getSelectedZone
      unfold reading
      rw [unread, ite_self]
    rw [if_pos crops, same]
    exact unforced
  · intro crops
    rw [if_pos crops]
    exact (quiet crops).reading

/-- The corners of the line decide whether its reset defines an angle. -/
theorem slanted_loadFile (box : DisplayBox) (loads : Bool) (width height : Nat) :
    Slanted (box.loadFile loads width height).trackerReset ↔ Slanted box.trackerReset := by
  cases loads <;> exact Iff.rfl

/-- After `TrackerReset` the tool of the mode finds nothing. -/
theorem idles_of_reset {view : View} {box : DisplayBox} (reset : view.box = box.trackerReset)
    (straight : view.isInclinaison = true → ¬Slanted box.trackerReset)
    (unforced : view.isInclinaison = false → box.Unforced) : view.Idles := by
  apply View.idles_of_free
  · unfold View.ToolActs
    rw [reset]
    split
    · rename_i inclination
      exact straight inclination
    · rename_i cropMode
      exact (unforced (Bool.eq_false_iff.mpr cropMode)).trackerReset_selects
  · intro cropMode
    rw [reset]
    exact (unforced cropMode).free

/-! ## Loads that settle -/

/-- A clean document without a comment whose load leaves nothing for the tool. -/
structure Loadable (settings : Settings) (view : View) : Prop where
  quiet : Quiet settings view
  clean : view.bDirty = false
  settled : view.textCommentModified = false
  loads : LoadsNothing settings view

theorem LoadsNothing.straight {view : View} (loads : LoadsNothing settings view)
    (crops : settings.bAutoCrop = true) (inclination : view.isInclinaison = true) :
    ¬Slanted view.box.trackerReset := by
  have nothing := loads crops
  rwa [if_pos inclination] at nothing

theorem LoadsNothing.unforced {view : View} (loads : LoadsNothing settings view)
    (crops : settings.bAutoCrop = true) (cropMode : view.isInclinaison = false) :
    view.box.Unforced ∧ settings.bAutoSelectMax = false := by
  have nothing := loads crops
  rwa [cropMode, if_neg Bool.false_ne_true] at nothing

/-- So looking for a selection changes nothing. -/
theorem LoadsNothing.unread {view : View} (loads : LoadsNothing settings view)
    (crops : settings.bAutoCrop = true) : reading view.isInclinaison view.box = view.box := by
  unfold reading
  split
  · rfl
  · rename_i cropMode
    exact (loads.unforced crops (Bool.eq_false_iff.mpr cropMode)).1.getSelectedZone

/-- A box that has been loaded and reset leaves nothing for the tool. -/
theorem LoadsNothing.idles {before after : View} (nothing : LoadsNothing settings before)
    (crops : settings.bAutoCrop = true) (mode : after.isInclinaison = before.isInclinaison)
    {loads : Bool} {width height : Nat}
    (reset : after.box = (before.box.loadFile loads width height).trackerReset) :
    after.Idles := by
  apply idles_of_reset reset
  · intro inclination
    rw [slanted_loadFile]
    exact nothing.straight crops (mode.symm.trans inclination)
  · intro cropMode
    exact (nothing.unforced crops (mode.symm.trans cropMode)).1.loadFile loads width height

/-- The end of a load keeps it so. -/
theorem Loadable.endLoad (loadable : Loadable settings screen.view) :
    Settles settings screen.view (endLoad display world screen).view := by
  obtain ⟨flags, box⟩ := endLoad_view display world loadable.settled
  have mode := congrArg (·.isInclinaison) flags
  refine ⟨⟨mode, fun pending => (congrArg (·.textCommentModified) flags).symm.trans pending, ?_⟩,
    ?_, (congrArg (·.bDirty) flags).trans loadable.clean⟩
  · intro crops unforced
    show (Screen.endLoad display world screen).box.Unforced
    rcases box with same | ⟨loads, width, height, reset⟩
    · rw [same]
      exact unforced
    · rw [reset]
      exact unforced.loadFile loads width height
  · intro crops
    rcases box with same | ⟨loads, width, height, reset⟩
    · have view : (Screen.endLoad display world screen).view = screen.view :=
        congrArg₂ View.mk flags same
      rw [view]
      exact loadable.quiet crops
    · exact loadable.loads.idles crops mode reset

/-- The replacement of the document loads and resets. -/
theorem LoadsNothing.openImage_box (nothing : LoadsNothing settings screen.view)
    (follows : world.Follows settings) (crops : settings.bAutoCrop = true) (name : FileName)
    (original : Bool) :
    ∃ loads width height, (openImage display world name original screen).box =
      (screen.box.loadFile loads width height).trackerReset := by
  unfold openImage
  dsimp only
  rw [follows.bAutoSelectMax]
  split
  · rename_i selects
    simp only [Bool.and_eq_true, Bool.not_eq_true'] at selects
    have noSelection := (nothing.unforced crops selects.2).2
    exact absurd (noSelection.symm.trans selects.1) Bool.false_ne_true
  · exact ⟨_, _, _, rfl⟩

/-- It leaves a document that can be loaded again. -/
theorem Loadable.openImage (loadable : Loadable settings screen.view)
    (follows : world.Follows settings) (name : FileName) (original : Bool) :
    Loadable settings (openImage display world name original screen).view := by
  have reset (crops : settings.bAutoCrop = true) :=
    @LoadsNothing.openImage_box _ display _ _ _ loadable.loads follows crops name original
  refine ⟨?_, loadable.clean, rfl, ?_⟩
  · intro crops
    obtain ⟨loads, width, height, reset⟩ := reset crops
    exact loadable.loads.idles crops rfl reset
  · intro crops
    obtain ⟨loads, width, height, reset⟩ := reset crops
    show if screen.view.isInclinaison then
      ¬Slanted (Screen.openImage display world name original screen).box.trackerReset
      else (Screen.openImage display world name original screen).box.Unforced ∧ _
    rw [reset]
    split
    · rename_i inclination
      have straight := loadable.loads.straight crops inclination
      exact fun slanted => straight ((slanted_loadFile _ loads width height).mp slanted)
    · rename_i cropMode
      obtain ⟨unforced, noSelection⟩ :=
        loadable.loads.unforced crops (Bool.eq_false_iff.mpr cropMode)
      exact ⟨unforced.loadFile loads width height, noSelection⟩

/-- A load whose clean-up settles leaves a settled screen. -/
theorem imageLoad_settles (follows : world.Follows settings) (name : FileName) (original : Bool)
    (quiet : screen.frame.isFileLoading = true → Settles settings screen.view screen.view)
    (cleaned : Returns (imageCleanup display world · (beginLoad world name screen))
      fun result => Loadable settings result.1.view ∧
        Settles settings screen.view result.1.view) :
    Returns (imageLoad display world · name original screen)
      fun result => Settles settings screen.view result.view := by
  cases loading : screen.frame.isFileLoading with
  | true => exact .result (fun fuel => by simp [imageLoad, loading]) (quiet loading)
  | false =>
      refine .step (fun fuel => imageLoad_succ fuel name original screen loading) ?_
      apply cleaned.map
      rintro ⟨result, accepted⟩ ⟨loadable, settles⟩
      cases accepted with
      | false => exact settles.toKeeps.settles loadable.endLoad
      | true =>
          have opened := @Loadable.openImage _ display _ _ _ loadable follows name original
          have keeps : Keeps settings result.view
              (Screen.openImage display world name original result).view := by
            refine ⟨rfl, ?_, ?_⟩
            · exact fun pending => absurd (opened.settled.symm.trans pending) Bool.false_ne_true
            · intro crops unforced
              obtain ⟨loads, width, height, reset⟩ :=
                @LoadsNothing.openImage_box _ display _ _ _ loadable.loads follows crops name
                  original
              show (Screen.openImage display world name original result).box.Unforced
              rw [reset]
              exact unforced.loadFile loads width height
          exact (settles.toKeeps.trans keeps).settles opened.endLoad

/-- A loadable screen is loaded without a tool. -/
theorem Loadable.imageLoad (loadable : Loadable settings screen.view)
    (follows : world.Follows settings) (name : FileName) (original : Bool) :
    Returns (imageLoad display world · name original screen)
      fun result => Settles settings screen.view result.view := by
  have begun := view_beginLoad world name screen
  have same : Settles settings screen.view screen.view :=
    .of_view loadable.quiet (by rw [← loadable.clean])
  apply imageLoad_settles follows name original fun _ => same
  have flags : (beginLoad world name screen).frame.flags = screen.frame.flags :=
    congrArg (·.toFlags) begun
  refine .result (imageCleanup_of_idle follows ?_ ?_) ?_
  · rw [begun]
    exact fun crops => (loadable.quiet crops).not_acts
  · exact (congrArg (·.bDirty) begun).trans loadable.clean
  · have view : View.mk (beginLoad world name screen).frame.flags
        (if settings.bAutoCrop then
          reading (beginLoad world name screen).frame.isInclinaison screen.box
        else screen.box) = screen.view := by
      have mode : (beginLoad world name screen).frame.isInclinaison =
          screen.view.isInclinaison := congrArg (·.isInclinaison) flags
      rw [flags, mode]
      split
      · rename_i crops
        have unread : reading screen.view.isInclinaison screen.box = screen.box :=
          loadable.loads.unread crops
        rw [unread]
        rfl
      · rfl
    show Loadable settings (View.mk _ _) ∧ Settles settings screen.view (View.mk _ _)
    rw [show (beginLoad world name screen).box = screen.box from rfl, view]
    exact ⟨loadable, same⟩

/-! ## Saves that settle -/

/-- A comment that is written keeps the mode, and in a lossy document the box. -/
theorem writePendingComment_keeps {next : Screen Pixels}
    (commented : writePendingComment display world screen = some next) :
    Keeps settings screen.view next.view ∧
      next.view.bJPEGlossless = screen.view.bJPEGlossless ∧
        (screen.view.bJPEGlossless = false → next.box = screen.box) := by
  unfold writePendingComment at commented
  split at commented
  · rename_i writes
    simp only [Bool.and_eq_true] at writes
    split at commented
    · cases commented
    · obtain rfl := Option.some.inj commented
      have view := @onImageWriteComment_view _ display world screen writes.1
      have box := onImageWriteComment_box display world screen
      refine ⟨⟨congrArg (·.isInclinaison) view, fun _ => writes.1, ?_⟩,
        congrArg (·.bJPEGlossless) view, ?_⟩
      · intro _ unforced
        show (onImageWriteComment display world screen).box.Unforced
        rcases box with same | ⟨-, loads, size, -, loaded⟩
        · rw [same]
          exact unforced
        · rw [loaded]
          exact unforced.loadFile loads size.1 size.2
      · intro lossy
        rcases box with same | ⟨lossless, -⟩
        · exact same
        · exact absurd (lossy.symm.trans lossless) Bool.false_ne_true
  · obtain rfl := Option.some.inj commented
    exact ⟨⟨rfl, id, fun _ unforced => unforced⟩, rfl, fun _ => rfl⟩

/-- A calm document stays calm when its comment is written. -/
theorem Calm.writePendingComment (calm : Calm display settings screen.view)
    (follows : world.Follows settings) (succeeds : world.Succeeds)
    (autoSave : screen.frame.textCommentModified = true → (world screen).bAutoSave = true) :
    ∃ next, writePendingComment display world screen = some next ∧
      Calm display settings next.view ∧ next.frame.textCommentModified = false ∧
        Keeps settings screen.view next.view := by
  obtain ⟨next, commented, still, settled⟩ :=
    (@stillPlan _ display _ _ follows).writePendingComment calm.still autoSave
      fun _ _ => wrjpgcomEnds_of_returns succeeds.wrjpgcomReturns screen
  obtain ⟨keeps, lossless, box⟩ := @writePendingComment_keeps _ _ _ settings _ _ commented
  refine ⟨next, commented, ⟨still, ?_⟩, settled, keeps⟩
  rintro ⟨lossy, place⟩ crops
  have before : screen.view.bJPEGlossless = false := lossless.symm.trans lossy
  have nothing := calm.loads ⟨before, place⟩ crops
  rw [keeps.mode]
  show if screen.view.isInclinaison then ¬Slanted next.box.trackerReset
    else next.box.Unforced ∧ _
  rw [box before]
  exact nothing

/-- It stays calm when its tool looks for something to do. -/
theorem Calm.reads (calm : Calm display settings screen.view) (follows : world.Follows settings) :
    ∃ box, autoCrop display world screen = { screen with box } ∧
      Calm display settings { screen.view with box } := by
  refine ⟨_, autoCrop_of_idle follows fun crops => (calm.still crops).1.not_acts, ?_⟩
  split
  · refine ⟨calm.still.reading, ?_⟩
    intro reloads crops
    have unread : reading screen.frame.isInclinaison screen.box = screen.box :=
      (calm.loads reloads).unread crops
    rw [unread]
    exact calm.loads reloads crops
  · exact calm

/-- `OnFileSave` settles a calm document. -/
theorem Calm.onFileSave (calm : Calm display settings screen.view)
    (follows : world.Follows settings) (succeeds : world.Succeeds)
    (named : screen.frame.sFilename ≠ noFile)
    (place : settings.bAutoSave = true → settings.SavesInPlace)
    (autoSave : screen.frame.textCommentModified = true → settings.bAutoSave = true) :
    Returns (onFileSave display world · screen)
      fun result => Settles settings screen.view result.view := by
  obtain ⟨written, commented, calmer, settled, keeps⟩ :=
    calm.writePendingComment follows succeeds fun pending =>
      (follows.bAutoSave screen).trans (autoSave pending)
  refine .step (fun fuel => onFileSave_succ fuel screen named commented) ?_
  rw [succeeds.isFileWritable]
  cases lossless : written.frame.bJPEGlossless with
  | true =>
      have view := view_saveLossless world written
      rw [settled] at view
      have saved := Settles.of_view calmer.still.quiet view
      exact .pure (keeps.settles saved)
  | false =>
      have view := view_saveLossy display world written
      rw [settled] at view
      have saved := Settles.of_view calmer.still.quiet view
      have loadable : Loadable settings
          (written.onFrame world (saveLossy display.toWx)).view := by
        rw [view]
        exact ⟨calmer.still.quiet, rfl, settled, calmer.loads ⟨lossless, place⟩⟩
      generalize written.onFrame world (saveLossy display.toWx) = stored at view saved loadable
      have whole : Settles settings screen.view stored.view :=
        keeps.settles saved
      cases stored.frame.isFileLoading with
      | true => exact .pure whole
      | false =>
          have loaded := @Loadable.imageLoad _ display _ _ _ loadable follows
            stored.frame.sFilename false
          exact loaded.mono fun _ settles => whole.toKeeps.settles settles

/-- So does a save under another name. -/
theorem Quiet.imageSaveAs (quiet : Quiet settings screen.view) (follows : world.Follows settings)
    (settled : screen.frame.textCommentModified = false) {name : FileName}
    (named : name ≠ noFile) :
    Returns (imageSaveAs display world · name screen)
      fun result => Settles settings screen.view result.view := by
  have view := view_writtenAs display world name screen
  rw [settled] at view
  refine .step (fun fuel => imageSaveAs_succ fuel name screen named) ?_
  apply @Returns.map _ _ _ fun result => Settles settings screen.view result.1.view
  · have written : Quiet settings (writtenAs display world name screen).view := by
      rw [view]
      exact quiet
    have clean : (writtenAs display world name screen).frame.bDirty = false :=
      congrArg (·.bDirty) view
    apply (written.imageCleanup follows clean).mono
    rintro result ⟨-, settles⟩
    exact (Settles.of_view quiet view).toKeeps.settles settles
  · intro result settles
    exact settles

/-- A clean-up settles what its tool leaves calm. -/
theorem Calm.imageCleanup {next : Screen Pixels} (calm : Calm display settings next.view)
    (follows : world.Follows settings) (succeeds : world.Succeeds)
    (acted : autoCrop display world screen = next) (named : Named next.frame)
    (inPlace : next.frame.bDirty = true → next.frame.textCommentModified = true →
      settings.SavesInPlace) :
    Returns (imageCleanup display world · screen)
      fun result => Settles settings next.view result.1.view := by
  have spends := fun fuel =>
    @imageCleanup_succ _ display world settings follows fuel screen next acted
  cases isDirty : next.frame.bDirty with
  | false =>
      simp only [isDirty, Bool.false_eq_true, if_false] at spends
      exact .result spends (.of_view calm.still.quiet (by rw [← isDirty]; rfl))
  | true =>
      simp only [isDirty, if_true] at spends
      by_cases place : settings.SavesInPlace
      · simp only [if_pos place] at spends
        refine .step spends (Returns.map ?_ fun _ settles => settles)
        exact calm.onFileSave follows succeeds named.1 (fun _ => place) fun _ => place.1
      · simp only [if_neg place] at spends
        have settled : next.frame.textCommentModified = false := by
          rw [← Bool.not_eq_true]
          exact fun pending => place (inPlace isDirty pending)
        cases autoSave : settings.bAutoSave with
        | true =>
            simp only [autoSave, if_true] at spends
            refine .step spends (Returns.map ?_ fun _ settles => settles)
            exact calm.still.quiet.imageSaveAs follows settled (autoSaveName_named named.2)
        | false =>
            simp only [autoSave, Bool.false_eq_true, if_false] at spends
            cases answer : (world next).saveAnswer with
            | yes =>
                simp only [answer] at spends
                refine .step spends (Returns.map ?_ fun _ settles => settles)
                apply calm.onFileSave follows succeeds named.1
                · intro on
                  exact absurd (autoSave.symm.trans on) Bool.false_ne_true
                · intro pending
                  exact absurd (settled.symm.trans pending) Bool.false_ne_true
            | no =>
                simp only [answer] at spends
                exact .result spends (.of_view calm.still.quiet rfl)
            | cancel => exact absurd answer (succeeds.answers next)

/-! ## Tools that leave a calm document -/

/--
Where the first clean-up saves: the document is named and a pending comment is saved in
place; a tool that does not act stays idle, and one that acts meets no fixed size and,
with a lossless comment, a selection in the crop mode; a load that follows leaves
nothing for the tool; and what a correction of the inclination proposes is nothing, or
cropped at once, or by the clean-up of an automatic lossy save.
-/
structure Steady (display : Display Pixels) (settings : Settings) (screen : Screen Pixels) :
    Prop where
  named : Named screen.frame
  inPlace : screen.frame.textCommentModified = true → settings.SavesInPlace
  still : ¬Acts settings screen.view → Still display settings screen.view
  unforced : Acts settings screen.view → screen.box.Unforced
  commented : Acts settings screen.view → screen.frame.textCommentModified = true →
    screen.frame.bJPEGlossless = true →
      screen.frame.isInclinaison = false ∧ screen.box.rectTracker.fixedWidth = -1
  loads : settings.bAutoCrop = true → Reloads settings screen.view →
    if screen.frame.isInclinaison = true ∧ ¬Slanted screen.box then
      ¬Slanted screen.box.trackerReset
    else screen.box.Unforced ∧ settings.bAutoSelectMax = false
  inclined : Acts settings screen.view → screen.frame.isInclinaison = true →
    settings.bAutoRotateCrop = true ∨ ¬(correctedBox display screen).Selects ∨
      (screen.frame.bJPEGlossless = false ∧ settings.bAutoSave = true ∧
        screen.frame.isFileLoading = false)

/-- Nothing is turned: the document is calm as it is. -/
theorem Steady.calm (steady : Steady display settings screen)
    (idle : ¬Acts settings screen.view) : Calm display settings screen.view := by
  refine ⟨steady.still idle, ?_⟩
  intro reloads crops
  have idle : ¬screen.view.ToolActs := fun acts => idle ⟨crops, acts⟩
  have loads := steady.loads crops reloads
  split
  · rename_i inclination
    have straight : ¬Slanted screen.box := by
      unfold View.ToolActs at idle
      rwa [if_pos inclination] at idle
    rwa [if_pos ⟨inclination, straight⟩] at loads
  · rename_i cropMode
    rwa [if_neg fun both => cropMode both.1] at loads

/-- A reset selection without a fixed size stays reset when a comment is loaded. -/
theorem still_of_cleared {view : View} (cropMode : view.isInclinaison = false)
    (unselected : ¬view.box.Selects) (unforced : view.box.Unforced)
    (cleared : view.textCommentModified = true → view.bJPEGlossless = true → view.box.Cleared) :
    Still display settings view := by
  have isUnselected : Unselected view := ⟨cropMode, unselected, unforced⟩
  intro _
  refine ⟨View.idles_of_free isUnselected.not_acts fun _ => unforced.free, ?_⟩
  intro pending lossless times loads size _
  have loaded := (cleared pending lossless).loadFile loads size.1 size.2
  rw [Function.iterate_fixed isUnselected.reading]
  apply View.idles_of_free
  · intro acts
    unfold View.ToolActs at acts
    rw [if_neg (by rw [cropMode]; exact Bool.false_ne_true)] at acts
    exact loaded.not_selects acts
  · exact fun _ => loaded.unforced.free

/-- A document in which nothing is selected is calm, and so is one that has been cropped. -/
theorem calm_of_unselected {view : View} (cropMode : view.isInclinaison = false)
    (unselected : ¬view.box.Selects) (unforced : view.box.Unforced)
    (cleared : view.textCommentModified = true → view.bJPEGlossless = true → view.box.Cleared)
    (loads : Reloads settings view → settings.bAutoSelectMax = false) :
    Calm display settings view := by
  refine ⟨still_of_cleared cropMode unselected unforced cleared, ?_⟩
  intro reloads _
  rw [cropMode, if_neg Bool.false_ne_true]
  exact ⟨unforced, loads reloads⟩

/-- A crop leaves a calm document, whether it finds a selection or not. -/
theorem calm_onImageCrop (display : Display Pixels) (succeeds : world.Succeeds)
    (cropMode : screen.frame.isInclinaison = false) (unforced : screen.box.Unforced)
    (commented : screen.frame.textCommentModified = true →
      screen.frame.bJPEGlossless = true →
        screen.box.Selects ∧ screen.box.rectTracker.fixedWidth = -1)
    (loads : Reloads settings screen.view → settings.bAutoSelectMax = false) :
    Calm display settings (onImageCrop display world screen).view ∧
      (onImageCrop display world screen).frame.textCommentModified =
        screen.frame.textCommentModified ∧
      (onImageCrop display world screen).frame.isInclinaison = false ∧
      (onImageCrop display world screen).box.Unforced := by
  by_cases selects : screen.box.Selects
  · obtain ⟨loaded, free, fixedWidth, view⟩ :=
      @onImageCrop_reset _ world screen display succeeds selects unforced
    have box : (onImageCrop display world screen).box = loaded.trackerReset :=
      congrArg (·.box) view
    refine ⟨?_, congrArg (·.textCommentModified) view,
      (congrArg (·.isInclinaison) view).trans cropMode, ?_⟩
    · rw [view]
      apply calm_of_unselected cropMode free.trackerReset_selects free
      · exact fun pending lossless =>
          ⟨rfl, fixedWidth.trans (commented pending lossless).2⟩
      · exact loads
    · rw [box]
      exact free
  · have same : onImageCrop display world screen = screen := by
      rw [onImageCrop_eq, if_neg selects, unforced.getSelectedZone]
    rw [same]
    refine ⟨calm_of_unselected cropMode selects unforced ?_ loads, rfl, cropMode, unforced⟩
    exact fun pending lossless => absurd (commented pending lossless).1 selects

/-- So a clean-up that crops a lossy document settles it. -/
theorem Ready.settles (ready : Ready screen.view) (follows : world.Follows settings)
    (succeeds : world.Succeeds) (crops : settings.bAutoCrop = true) (named : Named screen.frame)
    (settled : screen.frame.textCommentModified = false)
    (loads : Reloads settings screen.view → settings.bAutoSelectMax = false) :
    Returns (Screen.imageCleanup display world · screen) fun result =>
      Quiet settings result.1.view ∧ result.1.view.bDirty = false ∧
        result.1.view.isInclinaison = false ∧ result.1.view.textCommentModified = false ∧
          result.1.box.Unforced := by
  obtain ⟨calm, comment, cropMode, unforced⟩ :=
    @calm_onImageCrop _ world settings screen display succeeds ready.cropMode ready.unforced
      (fun pending => absurd (settled.symm.trans pending) Bool.false_ne_true) loads
  have settledAfter := comment.trans settled
  have cleaned := calm.imageCleanup follows succeeds (ready.autoCrop follows crops)
    (Named.onImageCrop named succeeds.createTempFileName) fun _ pending =>
      absurd (settledAfter.symm.trans pending) Bool.false_ne_true
  refine cleaned.mono fun result settles =>
    ⟨settles.quiet, settles.clean, settles.mode.trans cropMode, ?_,
      settles.unforced crops unforced⟩
  rw [← Bool.not_eq_true]
  exact fun pending => absurd (settledAfter.symm.trans (settles.comment pending))
    Bool.false_ne_true

/-- A comment that is written into the options of an image changes neither the names nor the
load that is going on. -/
theorem writePendingComment_lossy {next : Screen Pixels}
    (commented : writePendingComment display world screen = some next)
    (named : Named screen.frame) (lossy : screen.frame.bJPEGlossless = false) :
    Named next.frame ∧ next.frame.isFileLoading = screen.frame.isFileLoading := by
  unfold writePendingComment at commented
  rw [lossy, Bool.false_and, if_neg Bool.false_ne_true] at commented
  split at commented
  · rename_i writes
    simp only [Bool.and_eq_true] at writes
    obtain rfl := Option.some.inj commented
    have written : (onImageWriteComment display world screen).frame =
        updateControlsState { writeCommentOption display.toWx (world.environment screen.box)
          (dirty screen.frame) with textCommentModified := false } := by
      rw [onImageWriteComment_frame]
      unfold Editing.onImageWriteComment writeComment
      have branch : ¬(dirty screen.frame).bJPEGlossless = true := by
        rw [show (dirty screen.frame).bJPEGlossless = false from lossy]
        exact Bool.false_ne_true
      rw [if_pos writes.1, if_neg branch]
    rw [written]
    constructor
    · apply named.congr
      · exact imageUndoPoint_sFilename (world.environment screen.box) (dirty screen.frame)
      · exact imageUndoPoint_sOriginalFilename (world.environment screen.box) (dirty screen.frame)
    · exact imageUndoPoint_isFileLoading (world.environment screen.box) (dirty screen.frame)
  · obtain rfl := Option.some.inj commented
    exact ⟨named, rfl⟩

theorem Named.beginLoad (named : Named screen.frame) (name : FileName) :
    Named (beginLoad world name screen).frame := by
  have loading : Named { screen.frame.record (.imageLoad name) with isFileLoading := true } :=
    named
  exact @Editing.Named.imageUndoPoint _ (world.environment screen.box) _ loading

/-- The load of a ready document crops it first. -/
theorem Ready.imageLoad (ready : Ready screen.view) (follows : world.Follows settings)
    (succeeds : world.Succeeds) (crops : settings.bAutoCrop = true)
    (noSelection : settings.bAutoSelectMax = false) (named : Named screen.frame)
    (settled : screen.frame.textCommentModified = false)
    (idle : screen.frame.isFileLoading = false) (name : FileName) (original : Bool) :
    Returns (Screen.imageLoad display world · name original screen)
      fun result => Settles settings screen.view result.view := by
  apply imageLoad_settles follows
  · exact fun loading => absurd (idle.symm.trans loading) Bool.false_ne_true
  · have begun := view_beginLoad world name screen
    have readyBegun : Ready (beginLoad world name screen).view := by
      rw [begun]
      exact ready
    apply (readyBegun.settles follows succeeds crops ?_ ?_ fun _ => noSelection).mono
    · rintro result ⟨quiet, clean, cropMode, settledAfter, unforced⟩
      have nothing : LoadsNothing settings result.1.view := by
        intro _
        rw [cropMode, if_neg Bool.false_ne_true]
        exact ⟨unforced, noSelection⟩
      refine ⟨⟨quiet, clean, settledAfter, nothing⟩, ⟨?_, ?_, fun _ _ => unforced⟩, quiet, clean⟩
      · exact cropMode.trans ready.cropMode.symm
      · exact fun pending => absurd (settledAfter.symm.trans pending) Bool.false_ne_true
    · exact Named.beginLoad named name
    · exact (congrArg (·.textCommentModified) begun).trans settled

/-- So its lossy save settles it. -/
theorem Ready.onFileSave (ready : Ready screen.view) (follows : world.Follows settings)
    (succeeds : world.Succeeds) (crops : settings.bAutoCrop = true)
    (autoSave : settings.bAutoSave = true) (noSelection : settings.bAutoSelectMax = false)
    (named : Named screen.frame) (idle : screen.frame.isFileLoading = false) :
    Returns (Screen.onFileSave display world · screen) fun result =>
      Quiet settings result.view ∧ result.view.bDirty = false := by
  obtain ⟨written, commented, readyWritten, settled⟩ :=
    (@readyPlan _ display _ _ follows crops noSelection).writePendingComment ready
      (fun _ => (follows.bAutoSave screen).trans autoSave)
      fun _ _ => wrjpgcomEnds_of_returns succeeds.wrjpgcomReturns screen
  obtain ⟨names, loading⟩ := writePendingComment_lossy commented named ready.lossy
  refine .step (fun fuel => onFileSave_succ fuel screen named.1 commented) ?_
  rw [succeeds.isFileWritable]
  have view := view_saveLossy display world written
  rw [settled] at view
  have namesStored : Named (written.onFrame world (saveLossy display.toWx)).frame :=
    names.saveLossy
  have loadingStored : (written.onFrame world (saveLossy display.toWx)).frame.isFileLoading =
      false := loading.trans idle
  cases lossless : written.frame.bJPEGlossless with
  | true => exact absurd (readyWritten.lossy.symm.trans lossless) Bool.false_ne_true
  | false =>
      revert view namesStored loadingStored
      generalize written.onFrame world (saveLossy display.toWx) = stored
      intro view namesStored loadingStored
      have readyStored : Ready stored.view := by
        rw [view]
        exact ⟨readyWritten.cropMode, readyWritten.unforced, readyWritten.lossy⟩
      have settledStored := (congrArg (·.textCommentModified) view).trans settled
      cases busy : stored.frame.isFileLoading with
      | true => exact absurd (loadingStored.symm.trans busy) Bool.false_ne_true
      | false =>
          have loaded := @Ready.imageLoad _ display _ _ _ readyStored follows succeeds crops
            noSelection namesStored settledStored busy stored.frame.sFilename false
          exact loaded.mono fun _ settles => ⟨settles.quiet, settles.clean⟩

/-- A save under another name crops in its clean-up. -/
theorem Ready.imageSaveAs (ready : Ready screen.view) (follows : world.Follows settings)
    (succeeds : world.Succeeds) (crops : settings.bAutoCrop = true) (named : Named screen.frame)
    (settled : screen.frame.textCommentModified = false)
    (elsewhere : ¬Reloads settings screen.view) {name : FileName} (isNamed : name ≠ noFile) :
    Returns (Screen.imageSaveAs display world · name screen) fun result =>
      Quiet settings result.view ∧ result.view.bDirty = false := by
  have view := view_writtenAs display world name screen
  have readyWritten : Ready (writtenAs display world name screen).view := by
    rw [view]
    exact ⟨ready.cropMode, ready.unforced, ready.lossy⟩
  have names : Named (writtenAs display world name screen).frame := named.writeAs name
  refine .step (fun fuel => imageSaveAs_succ fuel name screen isNamed) ?_
  apply (readyWritten.settles follows succeeds crops names ?_ ?_).map
  · rintro result ⟨quiet, clean, -⟩
    exact ⟨quiet, clean⟩
  · exact (congrArg (·.textCommentModified) view).trans settled
  · intro reloads
    rw [view] at reloads
    exact absurd reloads elsewhere

/-- An automatic save of a ready document settles it. -/
theorem Ready.automaticSave {next : Screen Pixels} (ready : Ready next.view)
    (follows : world.Follows settings) (succeeds : world.Succeeds)
    (crops : settings.bAutoCrop = true) (autoSave : settings.bAutoSave = true)
    (acted : Screen.autoCrop display world screen = next) (named : Named next.frame)
    (isDirty : next.frame.bDirty = true) (idle : next.frame.isFileLoading = false)
    (inPlace : next.frame.textCommentModified = true → settings.SavesInPlace)
    (loads : Reloads settings next.view → settings.bAutoSelectMax = false) :
    Returns (Screen.imageCleanup display world · screen) fun result =>
      Quiet settings result.1.view ∧ result.1.view.bDirty = false := by
  have spends := fun fuel =>
    @imageCleanup_succ _ display world settings follows fuel screen next acted
  simp only [isDirty, if_true] at spends
  by_cases place : settings.SavesInPlace
  · simp only [if_pos place] at spends
    have saved := @Ready.onFileSave _ display _ _ _ ready follows succeeds crops autoSave
      (loads ⟨ready.lossy, fun _ => place⟩) named idle
    exact .step spends (saved.map fun _ both => both)
  · simp only [if_neg place, autoSave, if_true] at spends
    have settled : next.frame.textCommentModified = false := by
      rw [← Bool.not_eq_true]
      exact fun pending => place (inPlace pending)
    have isNamed := @autoSaveName_named next.frame.sOriginalFilename settings.sAutoSaveFolder
      settings.sAutoSaveSuffix named.2
    have saved := @Ready.imageSaveAs _ display _ _ _ ready follows succeeds crops named settled
      (fun reloads => place (reloads.2 autoSave)) _ isNamed
    exact .step spends (saved.map fun _ both => both)

/-! ## The second clean-up -/

/-- With a tool that acts, a load that follows selects nothing. -/
theorem Steady.noSelection (steady : Steady display settings screen)
    (acts : Acts settings screen.view) (reloads : Reloads settings screen.view) :
    settings.bAutoSelectMax = false := by
  have loads := steady.loads acts.1 reloads
  rw [if_neg] at loads
  · exact loads.2
  · exact fun both => both.2 (slanted_of_acts acts both.1)

/-- The tool acts in the crop mode. -/
theorem Steady.settles_crop (steady : Steady display settings screen)
    (follows : world.Follows settings) (succeeds : world.Succeeds)
    (acts : Acts settings screen.view) (cropMode : screen.frame.isInclinaison = false) :
    Returns (imageCleanup display world · screen) fun result =>
      Quiet settings result.1.view ∧ result.1.view.bDirty = false := by
  have selects : screen.box.Selects := (toolActs_of_cropMode cropMode).mp acts.2
  obtain ⟨calm, comment, -⟩ := @calm_onImageCrop _ world settings screen display succeeds
    cropMode (steady.unforced acts)
    (fun pending lossless => ⟨selects, (steady.commented acts pending lossless).2⟩)
    (steady.noSelection acts)
  have named := @Named.onImageCrop _ display _ _ steady.named succeeds.createTempFileName
  have acted := @autoCrop_of_cropMode _ display _ _ _ follows acts.1 cropMode
  have cleaned := calm.imageCleanup follows succeeds acted named fun _ pending =>
    steady.inPlace (comment.symm.trans pending)
  exact cleaned.mono fun _ settles => ⟨settles.quiet, settles.clean⟩

theorem inclineImage_isFileLoading (display : Display Pixels) (world : World Pixels)
    (screen : Screen Pixels) :
    (inclineImage display world screen).frame.isFileLoading = screen.frame.isFileLoading := by
  simp [inclineImage_frame, Editing.inclineImage, endImageManip, setTransformed, beginImageManip,
    updateControlsState, dirty, Frame.record]

/-- The tool corrects an inclination. -/
theorem Steady.settles_inclination (steady : Steady display settings screen)
    (follows : world.Follows settings) (succeeds : world.Succeeds)
    (acts : Acts settings screen.view) (inclination : screen.frame.isInclinaison = true) :
    Returns (imageCleanup display world · screen) fun result =>
      Quiet settings result.1.view ∧ result.1.view.bDirty = false := by
  have loads := steady.noSelection acts
  have view := inclineImage_view display world screen
  have names : Named (inclineImage display world screen).frame :=
    Editing.Named.inclineImage steady.named
  have free : (inclineImage display world screen).box.Unforced :=
    unforced_inclineBox (steady.unforced acts) display _
  have loading := inclineImage_isFileLoading display world screen
  have acted := @autoCrop_of_inclination _ display _ _ _ follows acts inclination
  revert acted
  generalize inclineImage display world screen = inclined at view names free loading
  intro acted
  have cropMode : inclined.frame.isInclinaison = false := congrArg (·.isInclinaison) view
  have box : inclined.box = correctedBox display screen := congrArg (·.box) view
  have comment : inclined.frame.textCommentModified = screen.frame.textCommentModified :=
    congrArg (·.textCommentModified) view
  have same : Reloads settings inclined.view ↔ Reloads settings screen.view := by
    rw [view]
    exact Iff.rfl
  have uncommented : inclined.frame.textCommentModified = true →
      inclined.frame.bJPEGlossless = true → False := by
    intro pending lossless
    have cropMode := (steady.commented acts (comment.symm.trans pending)
      ((congrArg (·.bJPEGlossless) view).symm.trans lossless)).1
    exact absurd (cropMode.symm.trans inclination) Bool.false_ne_true
  cases rotates : settings.bAutoRotateCrop with
  | true =>
      rw [rotates, if_pos rfl] at acted
      obtain ⟨calm, kept, -⟩ := @calm_onImageCrop _ world settings inclined display succeeds
        cropMode free (fun pending lossless => (uncommented pending lossless).elim)
        fun reloads => loads (same.mp reloads)
      have named := @Named.onImageCrop _ display _ _ names succeeds.createTempFileName
      have cleaned := calm.imageCleanup follows succeeds acted named fun _ pending =>
        steady.inPlace (comment.symm.trans (kept.symm.trans pending))
      exact cleaned.mono fun _ settles => ⟨settles.quiet, settles.clean⟩
  | false =>
      rw [rotates, if_neg Bool.false_ne_true] at acted
      have waits := (steady.inclined acts inclination).resolve_left
        (by rw [rotates]; exact Bool.false_ne_true)
      rcases waits with unselected | ⟨lossy, autoSave, idle⟩
      · rw [← box] at unselected
        have calm : Calm display settings inclined.view :=
          calm_of_unselected cropMode unselected free
            (fun pending lossless => (uncommented pending lossless).elim)
            fun reloads => loads (same.mp reloads)
        have cleaned := calm.imageCleanup follows succeeds acted names fun _ pending =>
          steady.inPlace (comment.symm.trans pending)
        exact cleaned.mono fun _ settles => ⟨settles.quiet, settles.clean⟩
      · have ready : Ready inclined.view :=
          ⟨cropMode, free, (congrArg (·.bJPEGlossless) view).trans lossy⟩
        exact ready.automaticSave follows succeeds acts.1 autoSave acted names
          (congrArg (·.bDirty) view) (loading.trans idle)
          (fun pending => steady.inPlace (comment.symm.trans pending))
          fun reloads => loads (same.mp reloads)

/-- The first clean-up leaves a clean document and nothing for the tool of its mode. -/
theorem imageCleanup_settles (follows : world.Follows settings) (succeeds : world.Succeeds)
    (idles : ¬Acts settings screen.view → Quiet settings screen.view)
    (steady : Saves settings screen.view → Steady display settings screen) :
    Returns (imageCleanup display world · screen) fun result =>
      Quiet settings result.1.view ∧ result.1.view.bDirty = false := by
  by_cases acts : Acts settings screen.view
  · cases mode : screen.frame.isInclinaison with
    | false => exact (steady (.inr acts)).settles_crop follows succeeds acts mode
    | true => exact (steady (.inr acts)).settles_inclination follows succeeds acts mode
  · cases isDirty : screen.frame.bDirty with
    | false =>
        apply ((idles acts).imageCleanup follows isDirty).mono
        exact fun _ both => ⟨both.2.quiet, both.2.clean⟩
    | true =>
        have steady := steady (.inl isDirty)
        obtain ⟨box, acted, calm⟩ := (steady.calm acts).reads follows
        have cleaned := calm.imageCleanup follows succeeds acted steady.named
          fun _ => steady.inPlace
        exact cleaned.mono fun _ settles => ⟨settles.quiet, settles.clean⟩

/-- So a second clean-up changes nothing. -/
theorem idempotent_of_steady (idles : ¬Acts settings screen.view → Quiet settings screen.view)
    (steady : Saves settings screen.view → Steady display settings screen) :
    Idempotent display settings screen := by
  intro world again follows followsAgain succeeds _
  apply (imageCleanup_settles follows succeeds idles steady).mono
  rintro once ⟨quiet, clean⟩
  apply (quiet.imageCleanup followsAgain clean).mono
  rintro twice ⟨same, -⟩
  rw [same]
  exact ⟨rfl, rfl, rfl, rfl⟩

/-! ## Comments that are refused -/

/-- Everything works, and the user gives one answer and does not want the comment written. -/
def workingEnv (settings : Settings) (answer : Answer) : ScreenEnv :=
  { worstEnv settings with
    saveAnswer := answer
    isFileWritable := fun _ => true
    jpegtran := fun _ _ data => some data
    jhead := fun _ data => some data
    wrjpgcom := fun data _ => (0, data) }

def workingWorld (settings : Settings) (answer : Answer) : World Pixels :=
  fun _ => workingEnv settings answer

theorem workingWorld_follows (settings : Settings) (answer : Answer) :
    (workingWorld settings answer : World Pixels).Follows settings :=
  ⟨fun _ => rfl, fun _ => rfl, fun _ => rfl, fun _ => rfl, fun _ => rfl, fun _ => rfl⟩

theorem workingWorld_succeeds (settings : Settings) {answer : Answer}
    (decided : answer ≠ .cancel) :
    (workingWorld settings answer : World Pixels).Succeeds where
  answers := fun _ => decided
  isFileWritable := fun _ _ => rfl
  copyFault := fun _ => rfl
  saveFails := fun _ => rfl
  createTempFileName := by
    intro screen
    show (⟨[], "temporary"⟩ : FileName) ≠ noFile
    decide
  jpegtran := fun _ _ _ _ => rfl
  jhead := fun _ _ _ => rfl
  wrjpgcom := fun _ _ _ => rfl
  wrjpgcomReturns := fun _ _ _ => rfl

theorem autoCrop_of_off (follows : world.Follows settings)
    (noCrop : settings.bAutoCrop = false) : autoCrop display world screen = screen := by
  unfold autoCrop
  rw [follows.bAutoCrop, noCrop]
  rfl

/-- A pending comment is saved elsewhere again and again, whatever the world does. -/
theorem imageCleanup_of_pending (follows : world.Follows settings)
    (noCrop : settings.bAutoCrop = false) (autoSave : settings.bAutoSave = true)
    (elsewhere : ¬settings.SavesInPlace) (fuel : Nat) {screen : Screen Pixels}
    (named : Named screen.frame) (isDirty : screen.frame.bDirty = true)
    (pending : screen.frame.textCommentModified = true) :
    imageCleanup display world fuel screen = none := by
  induction fuel using Nat.strong_induction_on generalizing screen with
  | _ fuel ih =>
      cases fuel with
      | zero => rw [imageCleanup]
      | succ fuel =>
          have same : autoCrop display world screen = screen := autoCrop_of_off follows noCrop
          have isNamed := @autoSaveName_named screen.frame.sOriginalFilename
            settings.sAutoSaveFolder settings.sAutoSaveSuffix named.2
          rw [imageCleanup_succ follows fuel screen same, isDirty, if_pos rfl, if_neg elsewhere,
            if_pos autoSave]
          generalize autoSaveName screen.frame.sOriginalFilename settings.sAutoSaveFolder
            settings.sAutoSaveSuffix = name at isNamed ⊢
          cases fuel with
          | zero =>
              rw [imageSaveAs]
              rfl
          | succ fuel =>
              have view := view_writtenAs display world name screen
              have names : Named (writtenAs display world name screen).frame := named.writeAs name
              have again := ih fuel (by omega) names ((congrArg (·.bDirty) view).trans pending)
                ((congrArg (·.textCommentModified) view).trans pending)
              rw [imageSaveAs_succ fuel name screen isNamed, again]
              rfl

theorem beginLoad_isFileLoading (world : World Pixels) (name : FileName)
    (screen : Screen Pixels) : (beginLoad world name screen).frame.isFileLoading = true :=
  imageUndoPoint_isFileLoading (world.environment screen.box)
    { screen.frame.record (.imageLoad name) with isFileLoading := true }

section Refused

variable (asks : settings.bAutoSave = false) (named : Named screen.frame)
  (pending : screen.frame.textCommentModified = true)
include asks pending

theorem refused_writePendingComment :
    writePendingComment display (workingWorld settings .yes) screen = some screen := by
  unfold writePendingComment
  rw [pending]
  show (if (settings.bAutoSave || false) = true then _ else some screen) = some screen
  rw [asks]
  rfl

include named

/-- A save that refuses the comment and does not load leaves the document dirty. -/
theorem refused_onFileSave_unloaded
    (unloaded : screen.frame.bJPEGlossless = true ∨ screen.frame.isFileLoading = true) :
    Returns (onFileSave display (workingWorld settings .yes) · screen)
      fun result => result.frame.bDirty = true := by
  have refused := @refused_writePendingComment _ display settings screen asks pending
  refine .step (fun fuel => onFileSave_succ fuel screen named.1 refused) ?_
  have view := view_saveLossless (workingWorld settings .yes) screen
  have viewLossy := view_saveLossy display (workingWorld settings .yes) screen
  show Returns (fun fuel => if screen.frame.bJPEGlossless then _ else _) _
  cases lossless : screen.frame.bJPEGlossless with
  | true => exact .pure ((congrArg (·.bDirty) view).trans pending)
  | false =>
      have loading := unloaded.resolve_left (by rw [lossless]; exact Bool.false_ne_true)
      have busy : (screen.onFrame (workingWorld settings .yes)
          (saveLossy display.toWx)).frame.isFileLoading = true := loading
      simp only [Bool.false_eq_true, if_false, busy, if_true]
      exact .pure ((congrArg (·.bDirty) viewLossy).trans pending)

omit named pending in
/-- So does a clean-up that asks. -/
theorem refused_imageCleanup (noCrop : settings.bAutoCrop = false)
    (isDirty : screen.frame.bDirty = true)
    (saved : Returns (onFileSave display (workingWorld settings .yes) · screen)
      fun result => result.frame.bDirty = true) :
    Returns (imageCleanup display (workingWorld settings .yes) · screen)
      fun result => result.1.frame.bDirty = true ∧ result.2 = true := by
  have follows := @workingWorld_follows Pixels settings .yes
  have same : autoCrop display (workingWorld settings .yes) screen = screen :=
    autoCrop_of_off follows noCrop
  have asked : ¬settings.SavesInPlace := fun place =>
    Bool.false_ne_true (asks.symm.trans place.1)
  have spends := fun fuel => @imageCleanup_succ _ display _ settings follows fuel screen screen same
  simp only [isDirty, if_true, if_neg asked, asks, Bool.false_eq_true, if_false] at spends
  exact .step spends (saved.map fun _ stays => ⟨stays, rfl⟩)

/-- A load clears the comment, but the document stays dirty. -/
theorem refused_onFileSave (noCrop : settings.bAutoCrop = false) :
    Returns (onFileSave display (workingWorld settings .yes) · screen)
      fun result => result.frame.bDirty = true := by
  by_cases unloaded : screen.frame.bJPEGlossless = true ∨ screen.frame.isFileLoading = true
  · exact refused_onFileSave_unloaded asks named pending unloaded
  · simp only [not_or, Bool.not_eq_true] at unloaded
    obtain ⟨lossy, idle⟩ := unloaded
    have refused := @refused_writePendingComment _ display settings screen asks pending
    refine .step (fun fuel => onFileSave_succ fuel screen named.1 refused) ?_
    have view := view_saveLossy display (workingWorld settings .yes) screen
    have names : Named (screen.onFrame (workingWorld settings .yes)
        (saveLossy display.toWx)).frame := named.saveLossy
    have still : (screen.onFrame (workingWorld settings .yes)
        (saveLossy display.toWx)).frame.isFileLoading = false := idle
    show Returns (fun fuel => if screen.frame.bJPEGlossless then _ else _) _
    simp only [lossy, Bool.false_eq_true, if_false, still]
    revert view names still
    generalize screen.onFrame (workingWorld settings .yes) (saveLossy display.toWx) = stored
    intro view names still
    refine .step (fun fuel => imageLoad_succ fuel _ false stored still) ?_
    have begun := (view_beginLoad (workingWorld settings .yes) stored.frame.sFilename stored).trans
      view
    have saved := @refused_onFileSave_unloaded _ display settings
      (beginLoad (workingWorld settings .yes) stored.frame.sFilename stored) asks
      (Named.beginLoad names _) ((congrArg (·.textCommentModified) begun).trans pending)
      (.inr (beginLoad_isFileLoading _ _ stored))
    have cleaned := refused_imageCleanup asks noCrop ((congrArg (·.bDirty) begun).trans pending)
      saved
    apply cleaned.map
    rintro ⟨result, accepted⟩ ⟨isDirty, rfl⟩
    rw [if_pos rfl]
    have opened : (Screen.openImage display (workingWorld settings .yes) stored.frame.sFilename
        false result).frame.textCommentModified = false := rfl
    have flags := (endLoad_view display (workingWorld settings .yes) opened).1
    exact (congrArg (·.bDirty) flags).trans isDirty

end Refused

/-- A dirty document whose comment is not saved in place is not idempotent. -/
theorem not_idempotent_of_pending (noCrop : settings.bAutoCrop = false)
    (named : Named screen.frame) (isDirty : screen.frame.bDirty = true)
    (pending : screen.frame.textCommentModified = true) (elsewhere : ¬settings.SavesInPlace) :
    ¬Idempotent display settings screen := by
  intro idempotent
  have followsYes := @workingWorld_follows Pixels settings .yes
  have followsNo := @workingWorld_follows Pixels settings .no
  have succeedsYes := @workingWorld_succeeds Pixels settings .yes (by decide)
  have succeedsNo := @workingWorld_succeeds Pixels settings .no (by decide)
  have returns := idempotent _ _ followsYes followsNo succeedsYes succeedsNo
  cases autoSave : settings.bAutoSave with
  | true =>
      obtain ⟨fuel, once, returned, -⟩ := returns.exists_fuel
      rw [imageCleanup_of_pending followsYes noCrop autoSave elsewhere fuel named isDirty
        pending] at returned
      cases returned
  | false =>
      have saved := @refused_onFileSave _ display _ _ autoSave named pending noCrop
      have dirtied := refused_imageCleanup autoSave noCrop isDirty saved
      obtain ⟨-, once, -, same, stays, -⟩ := (returns.and dirtied).exists_fuel
      obtain ⟨fuel, twice, again, agrees⟩ := same.exists_fuel
      cases fuel with
      | zero => rw [imageCleanup] at again; cases again
      | succ fuel =>
          have idle : autoCrop display (workingWorld settings .no) once.1 = once.1 :=
            autoCrop_of_off followsNo noCrop
          rw [imageCleanup_succ followsNo fuel once.1 idle, stays, if_pos rfl, if_neg elsewhere,
            autoSave, if_neg Bool.false_ne_true] at again
          cases again
          exact Bool.false_ne_true (agrees.bDirty.trans stays)

/-- A photo with a slanted line in the inclination mode. -/
def slantedPhoto : Screen Bytes := lineScreen ⟨2, 8⟩ ⟨8, 2⟩

/-- The first clean-up turns it, when the user does not want to save it. -/
def turnedPhoto : Screen Bytes :=
  (inclineImage sampleDisplay (workingWorld autoCropping .no) slantedPhoto).onFrame
    (workingWorld autoCropping .no) fun _ frame => { frame with bDirty := false }

end Screen

end RPhoto.Editing
