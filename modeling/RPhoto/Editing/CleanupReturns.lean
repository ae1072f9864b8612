import RPhoto.Editing.SaveAs
import RPhoto.Editing.ToolActions
import RPhoto.Library.Fuel

/-!
# Clean-ups that return

`ImageCleanup` runs the tool of the mode and saves; a save writes, cleans up again
and may load, which cleans up once more.  The calls end when every clean-up after
a write finds less to do: a tool that has acted finds nothing selected, and a
written document is clean unless a comment is pending.
-/

namespace RPhoto.Editing

open RPhoto.Jpeg RPhoto.Library RPhoto.Tracker

variable {Pixels : Type}

/-- The settings that a clean-up looks at. -/
structure Settings where
  bAutoCrop : Bool
  bAutoSave : Bool
  bAutoRotateCrop : Bool
  bAutoSelectMax : Bool
  sAutoSaveFolder : AutoSaveFolder
  sAutoSaveSuffix : String
deriving DecidableEq

/-- The settings do not change while the clean-up runs. -/
structure World.Follows (world : World Pixels) (settings : Settings) : Prop where
  bAutoCrop : ∀ screen, (world screen).bAutoCrop = settings.bAutoCrop
  bAutoSave : ∀ screen, (world screen).bAutoSave = settings.bAutoSave
  bAutoRotateCrop : ∀ screen, (world screen).bAutoRotateCrop = settings.bAutoRotateCrop
  bAutoSelectMax : ∀ screen, (world screen).bAutoSelectMax = settings.bAutoSelectMax
  sAutoSaveFolder : ∀ screen, (world screen).sAutoSaveFolder = settings.sAutoSaveFolder
  sAutoSaveSuffix : ∀ screen, (world screen).sAutoSaveSuffix = settings.sAutoSaveSuffix

/-- Automatic saves go to the original, and so through `OnFileSave`. -/
def Settings.SavesInPlace (settings : Settings) : Prop :=
  settings.bAutoSave = true ∧ settings.sAutoSaveFolder = .empty ∧ settings.sAutoSaveSuffix = ""

instance (settings : Settings) : Decidable settings.SavesInPlace :=
  inferInstanceAs (Decidable (_ ∧ _ ∧ _))

namespace Screen

variable {display : Display Pixels} {world : World Pixels} {settings : Settings}
  {Before After Final : View → Prop}

/-! ## The calls, one unit of fuel at a time -/

/-- The start of `ImageLoad`. -/
def beginLoad (world : World Pixels) (name : FileName) (screen : Screen Pixels) :
    Screen Pixels :=
  screen.onFrame world fun env frame =>
    imageUndoPoint env { frame.record (.imageLoad name) with isFileLoading := true }

/-- The end of `ImageLoad`. -/
def endLoad (display : Display Pixels) (world : World Pixels) (screen : Screen Pixels) :
    Screen Pixels :=
  autoRotate display world (screen.onFrame world fun _ frame => endLoading frame)

/-- What `ImageSaveAs` writes. -/
def writtenAs (display : Display Pixels) (world : World Pixels) (name : FileName)
    (screen : Screen Pixels) : Screen Pixels :=
  screen.onFrame world fun env frame => writeAs display.toWx env name (leaveTemp frame)

/-- The document takes the new name. -/
def renamed (name : FileName) (screen : Screen Pixels) : Screen Pixels :=
  { screen with
    frame := { screen.frame with sFilename := name, sOriginalFilename := name } }

theorem imageLoad_succ (fuel : Nat) (name : FileName) (original : Bool)
    (screen : Screen Pixels) (idle : screen.frame.isFileLoading = false) :
    imageLoad display world (fuel + 1) name original screen =
      (imageCleanup display world fuel (beginLoad world name screen)).bind fun result =>
        some (endLoad display world
          (if result.2 then openImage display world name original result.1 else result.1)) := by
  rw [imageLoad, idle, if_neg Bool.false_ne_true]
  exact congrArg (Option.bind _) (funext fun ⟨_, _⟩ => rfl)

theorem imageSaveAs_succ (fuel : Nat) (name : FileName) (screen : Screen Pixels)
    (named : name ≠ noFile) :
    imageSaveAs display world (fuel + 1) name screen =
      (imageCleanup display world fuel (writtenAs display world name screen)).bind
        fun result => some (renamed name result.1) := by
  rw [imageSaveAs, if_neg named]
  exact congrArg (Option.bind _) (funext fun ⟨_, _⟩ => rfl)

theorem onFileSave_succ (fuel : Nat) (screen : Screen Pixels)
    (named : screen.frame.sFilename ≠ noFile) {next : Screen Pixels}
    (commented : writePendingComment display world screen = some next) :
    onFileSave display world (fuel + 1) screen =
      if (world next).isFileWritable next.frame.sOriginalFilename then
        if next.frame.bJPEGlossless then some (next.onFrame world saveLossless)
        else if (next.onFrame world (saveLossy display.toWx)).frame.isFileLoading then
          some (next.onFrame world (saveLossy display.toWx))
        else
          imageLoad display world fuel
            (next.onFrame world (saveLossy display.toWx)).frame.sFilename false
            (next.onFrame world (saveLossy display.toWx))
      else onFileSaveAs display world fuel next := by
  rw [onFileSave, if_neg named, commented]
  show (if !(world next).isFileWritable next.frame.sOriginalFilename then _ else _) = _
  cases (world next).isFileWritable next.frame.sOriginalFilename <;> rfl

theorem onFileSaveAs_succ (fuel : Nat) (screen : Screen Pixels)
    (named : (world screen).selectedFile ≠ noFile) :
    onFileSaveAs display world (fuel + 1) screen =
      (imageSaveAs display world fuel (world screen).selectedFile screen).bind fun screen =>
        imageLoad display world fuel screen.frame.sFilename false screen := by
  rw [onFileSaveAs, if_neg named]
  rfl

/-- The clean-up after its tool. -/
theorem imageCleanup_succ (follows : world.Follows settings) (fuel : Nat)
    (screen : Screen Pixels) {next : Screen Pixels}
    (acted : autoCrop display world screen = next) :
    imageCleanup display world (fuel + 1) screen =
      if next.frame.bDirty then
        if settings.SavesInPlace then
          (onFileSave display world fuel next).bind fun saved => some (saved, true)
        else if settings.bAutoSave then
          (imageSaveAs display world fuel
            (autoSaveName next.frame.sOriginalFilename settings.sAutoSaveFolder
              settings.sAutoSaveSuffix) next).bind fun saved => some (saved, true)
        else
          match (world next).saveAnswer with
          | .yes => (onFileSave display world fuel next).bind fun saved => some (saved, true)
          | .no => some (next.onFrame world fun _ frame => { frame with bDirty := false }, true)
          | .cancel => some (next, false)
      else some (next, true) := by
  subst acted
  rw [imageCleanup]
  dsimp only
  rw [follows.bAutoSave, follows.sAutoSaveFolder, follows.sAutoSaveSuffix]
  cases (autoCrop display world screen).frame.bDirty with
  | false => rfl
  | true =>
      cases autoSave : settings.bAutoSave with
      | false =>
          rw [if_neg (fun inPlace : settings.SavesInPlace =>
            Bool.false_ne_true (autoSave.symm.trans inPlace.1))]
          rfl
      | true =>
          by_cases inPlace : settings.sAutoSaveFolder = .empty ∧ settings.sAutoSaveSuffix = ""
          · rw [if_pos (show settings.SavesInPlace from ⟨autoSave, inPlace⟩)]
            exact if_pos inPlace
          · rw [if_neg (fun whole : settings.SavesInPlace => inPlace whole.2)]
            exact if_neg inPlace

@[simp] theorem view_saveLossless (world : World Pixels) (screen : Screen Pixels) :
    (screen.onFrame world saveLossless).view =
      { screen.view with bDirty := screen.frame.textCommentModified } :=
  congrArg (View.mk · screen.box) (flags_saveLossless _ _)

@[simp] theorem view_saveLossy (display : Display Pixels) (world : World Pixels)
    (screen : Screen Pixels) :
    (screen.onFrame world (saveLossy display.toWx)).view =
      { screen.view with bDirty := screen.frame.textCommentModified } :=
  congrArg (View.mk · screen.box) (flags_saveLossy _ _ _)

@[simp] theorem view_beginLoad (world : World Pixels) (name : FileName)
    (screen : Screen Pixels) : (beginLoad world name screen).view = screen.view :=
  congrArg (View.mk · screen.box) (flags_imageUndoPoint _ _)

@[simp] theorem view_writtenAs (display : Display Pixels) (world : World Pixels)
    (name : FileName) (screen : Screen Pixels) :
    (writtenAs display world name screen).view =
      { screen.view with bDirty := screen.frame.textCommentModified } :=
  congrArg (View.mk · screen.box) (flags_writeAs _ _ _ _)

@[simp] theorem view_renamed (name : FileName) (screen : Screen Pixels) :
    (renamed name screen).view = screen.view := rfl

/--
What saves rely on.  `Before` holds of the screens that are saved, `After` of those that
the clean-up after a write leaves, and `Final` of the results.
-/
structure SavePlan (display : Display Pixels) (world : World Pixels)
    (Before After Final : View → Prop) : Prop where
  written : ∀ {view}, Before view → Before { view with bDirty := false }
  commented : ∀ {screen}, Before (view screen) → screen.frame.textCommentModified = true →
    Before (onImageWriteComment display world screen).view
  cleaned : ∀ {screen}, Before (view screen) → screen.frame.textCommentModified = false →
    screen.frame.bDirty = false →
    Returns (imageCleanup display world · screen) fun result => After result.1.view
  again : ∀ {screen}, After (view screen) →
    Returns (imageCleanup display world · screen) fun result => After result.1.view
  kept : ∀ {view}, Before view → Final view
  left : ∀ {view}, After view → Final view
  opened : ∀ {screen name original}, After (view screen) →
    Final (endLoad display world (openImage display world name original screen)).view
  refused : ∀ {screen}, After (view screen) → Final (endLoad display world screen).view

namespace SavePlan

variable {screen : Screen Pixels}

/-- A load cleans up first. -/
theorem imageLoad (plan : SavePlan display world Before After Final) (name : FileName)
    (original : Bool) (kept : Final screen.view)
    (cleaned : Returns (imageCleanup display world · (beginLoad world name screen))
      fun result => After result.1.view) :
    Returns (Screen.imageLoad display world · name original screen)
      fun result => Final result.view := by
  cases loading : screen.frame.isFileLoading with
  | true => exact .result (fun fuel => by simp [Screen.imageLoad, loading]) kept
  | false =>
      refine .step (fun fuel => imageLoad_succ fuel name original screen loading) ?_
      apply cleaned.map
      intro result holds
      split
      · exact plan.opened holds
      · exact plan.refused holds

/-- `ImageSaveAs` writes and cleans up. -/
theorem imageSaveAs (plan : SavePlan display world Before After Final) (name : FileName)
    (before : Before screen.view) (settled : screen.frame.textCommentModified = false)
    (named : name ≠ noFile) :
    Returns (Screen.imageSaveAs display world · name screen) fun result => After result.view := by
  have view := view_writtenAs display world name screen
  rw [settled] at view
  refine .step (fun fuel => imageSaveAs_succ fuel name screen named) ?_
  apply @Returns.map _ _ _ fun result => After result.1.view
  · apply plan.cleaned
    · rw [view]
      exact plan.written before
    · exact (congrArg (·.textCommentModified) view).trans settled
    · exact congrArg (·.bDirty) view
  · intro result holds
    exact holds

/-- So it returns under any name. -/
theorem saveAs (plan : SavePlan display world Before After Final) {name : FileName}
    (before : Before screen.view) (settled : screen.frame.textCommentModified = false) :
    Returns (Screen.imageSaveAs display world · name screen) fun result => Final result.view := by
  by_cases unnamed : name = noFile
  · exact .result (fun fuel => by simp [Screen.imageSaveAs, unnamed]) (plan.kept before)
  · exact (plan.imageSaveAs name before settled unnamed).mono fun _ after => plan.left after

/-- `OnFileSaveAs` writes under the selected name and loads it. -/
theorem onFileSaveAs (plan : SavePlan display world Before After Final)
    (before : Before screen.view) (settled : screen.frame.textCommentModified = false) :
    Returns (Screen.onFileSaveAs display world · screen) fun result => Final result.view := by
  by_cases cancelled : (world screen).selectedFile = noFile
  · exact .result (fun fuel => by simp [Screen.onFileSaveAs, cancelled]) (plan.kept before)
  · refine .step (fun fuel => onFileSaveAs_succ fuel screen cancelled) ?_
    apply (plan.imageSaveAs _ before settled cancelled).bind
    intro result after
    apply plan.imageLoad result.frame.sFilename false (plan.left after)
    apply plan.again
    rw [view_beginLoad]
    exact after

/-- The comment is no longer pending when the document is written. -/
theorem writePendingComment (plan : SavePlan display world Before After Final)
    (before : Before screen.view)
    (autoSave : screen.frame.textCommentModified = true → (world screen).bAutoSave = true)
    (ends : screen.frame.textCommentModified = true → screen.frame.bJPEGlossless = true →
      wrjpgcomEnds display world screen = true) :
    ∃ next, Screen.writePendingComment display world screen = some next ∧
      Before next.view ∧ next.frame.textCommentModified = false := by
  unfold Screen.writePendingComment
  cases pending : screen.frame.textCommentModified with
  | false =>
      rw [Bool.false_and, if_neg Bool.false_ne_true]
      exact ⟨screen, rfl, before, pending⟩
  | true =>
      have returns :
          ¬(screen.frame.bJPEGlossless && !wrjpgcomEnds display world screen) = true := by
        simp only [Bool.and_eq_true, Bool.not_eq_true']
        rintro ⟨lossless, never⟩
        exact Bool.false_ne_true (never.symm.trans (ends pending lossless))
      rw [autoSave pending, Bool.true_or, Bool.true_and, if_pos rfl, if_neg returns]
      refine ⟨_, rfl, plan.commented before pending, ?_⟩
      exact congrArg (·.textCommentModified) (@flags_onImageWriteComment _ display.toWx
        (world.environment screen.box) screen.frame pending)

/-- `OnFileSave`, unless a pending comment may be refused or its call may not return. -/
theorem onFileSave (plan : SavePlan display world Before After Final)
    (before : Before screen.view)
    (autoSave : screen.frame.textCommentModified = true → (world screen).bAutoSave = true)
    (ends : screen.frame.textCommentModified = true → screen.frame.bJPEGlossless = true →
      wrjpgcomEnds display world screen = true) :
    Returns (Screen.onFileSave display world · screen) fun result => Final result.view := by
  by_cases unnamed : screen.frame.sFilename = noFile
  · exact .result (fun fuel => by simp [Screen.onFileSave, unnamed]) (plan.kept before)
  · obtain ⟨screen, commented, before, settled⟩ := plan.writePendingComment before autoSave ends
    refine .step (fun fuel => onFileSave_succ fuel _ unnamed commented) ?_
    cases (world screen).isFileWritable screen.frame.sOriginalFilename with
    | false => exact plan.onFileSaveAs before settled
    | true =>
        cases lossless : screen.frame.bJPEGlossless with
        | true =>
            refine .pure (plan.kept ?_)
            rw [view_saveLossless, settled]
            exact plan.written before
        | false =>
            have view := view_saveLossy display world screen
            rw [settled] at view
            have saved : Before (screen.onFrame world (saveLossy display.toWx)).view := by
              rw [view]
              exact plan.written before
            generalize screen.onFrame world (saveLossy display.toWx) = screen at view saved
            cases loading : screen.frame.isFileLoading with
            | true => exact .pure (plan.kept saved)
            | false =>
                have begun := view_beginLoad world screen.frame.sFilename screen
                apply plan.imageLoad screen.frame.sFilename false (plan.kept saved)
                apply plan.cleaned
                · rw [begun]
                  exact saved
                · exact (congrArg (·.textCommentModified) (begun.trans view)).trans settled
                · exact congrArg (·.bDirty) (begun.trans view)

/-- The clean-up after its tool, where a pending comment is saved in place if at all. -/
theorem imageCleanup (plan : SavePlan display world Before After Final)
    (follows : world.Follows settings) {next : Screen Pixels}
    (acted : autoCrop display world screen = next) (before : Before next.view)
    (inPlace : next.frame.textCommentModified = true → next.frame.bDirty = true →
      settings.SavesInPlace)
    (ends : next.frame.textCommentModified = true → next.frame.bJPEGlossless = true →
      wrjpgcomEnds display world next = true) :
    Returns (Screen.imageCleanup display world · screen) fun result => Final result.1.view := by
  have spends := fun fuel =>
    @imageCleanup_succ _ display world settings follows fuel screen next acted
  cases isDirty : next.frame.bDirty with
  | false =>
      simp only [isDirty, Bool.false_eq_true, if_false] at spends
      exact .result spends (plan.kept before)
  | true =>
      simp only [isDirty, if_true] at spends
      by_cases place : settings.SavesInPlace
      · simp only [if_pos place] at spends
        refine .step spends (Returns.map (plan.onFileSave before ?_ ends) fun _ final => final)
        intro _
        exact (follows.bAutoSave next).trans place.1
      · simp only [if_neg place] at spends
        have settled : next.frame.textCommentModified = false := by
          rw [← Bool.not_eq_true]
          exact fun pending => place (inPlace pending isDirty)
        cases autoSave : settings.bAutoSave with
        | true =>
            simp only [autoSave, if_true] at spends
            exact .step spends (Returns.map (plan.saveAs before settled) fun _ final => final)
        | false =>
            simp only [autoSave, Bool.false_eq_true, if_false] at spends
            cases answer : (world next).saveAnswer with
            | yes =>
                simp only [answer] at spends
                refine .step spends
                  (Returns.map (plan.onFileSave before ?_ ends) fun _ final => final)
                exact fun pending => absurd (settled.symm.trans pending) Bool.false_ne_true
            | no =>
                simp only [answer] at spends
                exact .result spends (plan.kept (plan.written before))
            | cancel =>
                simp only [answer] at spends
                exact .result spends (plan.kept before)

/-- Without a pending comment a save calls no wrjpgcom. -/
theorem cleanup_of_settled (plan : SavePlan display world Before After Final)
    (follows : world.Follows settings) {next : Screen Pixels}
    (acted : autoCrop display world screen = next) (before : Before next.view)
    (settled : next.frame.textCommentModified = false) :
    Returns (Screen.imageCleanup display world · screen) fun result => Final result.1.view := by
  apply plan.imageCleanup follows acted before
  · exact fun pending => absurd (settled.symm.trans pending) Bool.false_ne_true
  · exact fun pending => absurd (settled.symm.trans pending) Bool.false_ne_true

end SavePlan

/-! ## Screens whose tool finds nothing to do -/

/-- What `LoadFile` may find: a file it can decode, or one that leaves what a failed load does. -/
inductive Loads (display : Display Pixels) : Bool → Nat × Nat → Prop
  | decoded {data : Bytes} {image : Image Pixels} (decodes : display.decode data = some image) :
      Loads display true (display.size image)
  | failed (image : Option (Image Pixels)) :
      Loads display false (shownSize display.size (display.loadFailed image))

/-- Nothing is turned or cropped automatically, not even after a comment has been written. -/
def Still (display : Display Pixels) (settings : Settings) (view : View) : Prop :=
  settings.bAutoCrop = true → view.Idles ∧
    (view.textCommentModified = true → view.bJPEGlossless = true →
      ∀ times loads size, Loads display loads size → View.Idles
        { view with
          box := ((reading view.isInclinaison)^[times] view.box).loadFile loads size.1 size.2 })

variable {screen : Screen Pixels}

theorem Still.reading {view : View} (still : Still display settings view) :
    Still display settings { view with box := reading view.isInclinaison view.box } := by
  intro crops
  obtain ⟨idles, loaded⟩ := still crops
  refine ⟨idles.reading, ?_⟩
  intro pending lossless times loads size found
  have later := loaded pending lossless (times + 1) loads size found
  rwa [Function.iterate_succ_apply] at later

/-- A tool that does not act only reads the selected zone. -/
theorem autoCrop_of_idle (follows : world.Follows settings)
    (idle : settings.bAutoCrop = true → ¬screen.view.ToolActs) :
    autoCrop display world screen = { screen with
      box := if settings.bAutoCrop then reading screen.frame.isInclinaison screen.box
        else screen.box } := by
  unfold autoCrop
  rw [follows.bAutoCrop]
  cases crops : settings.bAutoCrop with
  | false => rfl
  | true => exact onToolAction_of_idle (idle crops)

/-- So a still screen stays still. -/
theorem Still.autoCrop (still : Still display settings screen.view)
    (follows : world.Follows settings) :
    ∃ box, Screen.autoCrop display world screen = { screen with box } ∧
      Still display settings { screen.view with box } := by
  refine ⟨_, autoCrop_of_idle follows fun crops => (still crops).1.not_acts, ?_⟩
  split
  · exact still.reading
  · exact still

/-- When the document is clean, nothing else happens. -/
theorem imageCleanup_of_idle (follows : world.Follows settings)
    (idle : settings.bAutoCrop = true → ¬screen.view.ToolActs)
    (clean : screen.frame.bDirty = false) (fuel : Nat) :
    imageCleanup display world (fuel + 1) screen = some ({ screen with
      box := if settings.bAutoCrop then reading screen.frame.isInclinaison screen.box
        else screen.box }, true) := by
  rw [imageCleanup_succ follows fuel screen (autoCrop_of_idle follows idle), if_neg]
  exact fun isDirty => Bool.false_ne_true (clean.symm.trans isDirty)

theorem Still.imageCleanup (still : Still display settings screen.view)
    (follows : world.Follows settings) (clean : screen.frame.bDirty = false) :
    Returns (Screen.imageCleanup display world · screen) fun result =>
      ∃ box, result = ({ screen with box }, true) ∧
        Still display settings { screen.view with box } := by
  refine .result (imageCleanup_of_idle follows (fun crops => (still crops).1.not_acts) clean)
    ⟨_, rfl, ?_⟩
  split
  · exact still.reading
  · exact still

theorem loads_loadedImage (display : Display Pixels) (name : FileName)
    (document : Document Pixels) :
    Loads display ((document.files.content name).bind display.decode).isSome
      (shownSize display.size (loadedImage display.toWx name document)) := by
  unfold loadedImage
  cases decodes : (document.files.content name).bind display.decode with
  | none => exact .failed document.image
  | some image =>
      obtain ⟨data, -, decoded⟩ := Option.bind_eq_some_iff.mp decodes
      exact .decoded decoded

/-- A comment is written into the option of the image, or it loads a file into the box. -/
theorem onImageWriteComment_box (display : Display Pixels) (world : World Pixels)
    (screen : Screen Pixels) :
    (onImageWriteComment display world screen).box = screen.box ∨
      screen.frame.bJPEGlossless = true ∧ ∃ loads size, Loads display loads size ∧
        (onImageWriteComment display world screen).box =
          screen.box.loadFile loads size.1 size.2 := by
  unfold onImageWriteComment
  dsimp only
  split
  · rename_i written
    simp only [Bool.and_eq_true] at written
    obtain ⟨⟨pending, lossless⟩, succeeded⟩ := written
    refine .inr ⟨lossless, ?_⟩
    unfold Editing.onImageWriteComment writeComment writeCommentLossless
    rw [if_pos pending, if_pos (show (dirty screen.frame).bJPEGlossless = true from lossless)]
    unfold wrjpgcomSucceeds at succeeded
    dsimp only at succeeded ⊢
    rw [succeeded, if_pos rfl]
    generalize (callWrjpgcom _ _ _ _).1 = frame
    exact ⟨_, _, loads_loadedImage display frame.sFilename frame.toDocument, rfl⟩
  · exact .inl rfl

theorem onImageWriteComment_view (pending : screen.frame.textCommentModified = true) :
    (onImageWriteComment display world screen).view =
      { screen.view with
        textCommentModified := false
        bDirty := true
        box := (onImageWriteComment display world screen).box } :=
  congrArg (View.mk · _) (flags_onImageWriteComment pending)

/-- Saving a still screen needs no tool. -/
theorem stillPlan (follows : world.Follows settings) :
    SavePlan display world (Still display settings)
      (fun view => Still display settings view ∧ view.textCommentModified = false ∧
        view.bDirty = false)
      (fun _ => True) where
  written := fun still => still
  commented := by
    intro screen still pending crops
    obtain ⟨idles, loaded⟩ := still crops
    rw [onImageWriteComment_view pending]
    refine ⟨?_, fun pending => absurd pending Bool.false_ne_true⟩
    rcases onImageWriteComment_box display world screen with same | ⟨lossless, loads⟩
    · rw [same]
      exact idles
    · obtain ⟨loads, size, found, box⟩ := loads
      rw [box]
      exact loaded pending lossless 0 loads size found
  cleaned := by
    intro screen still settled clean
    apply (still.imageCleanup follows clean).mono
    rintro _ ⟨box, rfl, stillAfter⟩
    exact ⟨stillAfter, settled, clean⟩
  again := by
    rintro screen ⟨still, settled, clean⟩
    apply (still.imageCleanup follows clean).mono
    rintro _ ⟨box, rfl, stillAfter⟩
    exact ⟨stillAfter, settled, clean⟩
  kept := fun _ => trivial
  left := fun _ => trivial
  opened := fun _ => trivial
  refused := fun _ => trivial

/-! ## Screens in the crop mode -/

/-- Nothing is selected in the crop mode. -/
structure Unselected (view : View) : Prop where
  cropMode : view.isInclinaison = false
  unselected : ¬view.box.Selects
  unforced : view.box.Unforced

/-- And no comment is pending. -/
structure Idle (view : View) : Prop extends Unselected view where
  settled : view.textCommentModified = false

variable {view : View}

theorem toolActs_of_cropMode (cropMode : view.isInclinaison = false) :
    view.ToolActs ↔ view.box.Selects := by
  unfold View.ToolActs
  rw [cropMode, if_neg Bool.false_ne_true]

/-- Looking for a selection changes nothing. -/
theorem Unselected.reading (unselected : Unselected view) :
    reading view.isInclinaison view.box = view.box := by
  unfold Editing.reading
  rw [unselected.cropMode, if_neg Bool.false_ne_true]
  exact unselected.unforced.getSelectedZone

theorem Unselected.not_acts (unselected : Unselected view) : ¬view.ToolActs := by
  rw [toolActs_of_cropMode unselected.cropMode]
  exact unselected.unselected

theorem Unselected.autoCrop (unselected : Unselected screen.view)
    (follows : world.Follows settings) : autoCrop display world screen = screen := by
  rw [autoCrop_of_idle follows fun _ => unselected.not_acts]
  have same : Editing.reading screen.frame.isInclinaison screen.box = screen.box :=
    unselected.reading
  rw [same, ite_self]

theorem Unselected.imageCleanup (unselected : Unselected screen.view)
    (follows : world.Follows settings) (clean : screen.frame.bDirty = false) (fuel : Nat) :
    imageCleanup display world (fuel + 1) screen = some (screen, true) := by
  rw [imageCleanup_succ follows fuel screen (unselected.autoCrop follows), if_neg]
  exact fun isDirty => Bool.false_ne_true (clean.symm.trans isDirty)

/-- The end of a load keeps the flags; a rotation resets the trackers. -/
theorem endLoad_view (display : Display Pixels) (world : World Pixels)
    (settled : screen.frame.textCommentModified = false) :
    (endLoad display world screen).frame.flags = screen.frame.flags ∧
      ((endLoad display world screen).box = screen.box ∨ ∃ loads width height,
        (endLoad display world screen).box =
          (screen.box.loadFile loads width height).trackerReset) := by
  have ended := @flags_endLoading _ screen.frame settled
  unfold endLoad autoRotate
  dsimp only
  split
  · generalize rotates : callJHead display.toWx _ _ _ = called
    have flags : called.1.flags = screen.frame.flags := by
      rw [← rotates, flags_callJHead _ ?_]
      · exact ended
      · exact (congrArg (·.textCommentModified) ended).trans settled
    refine ⟨flags, ?_⟩
    cases succeeded : called.2 with
    | true => exact .inr (afterTool_box display screen.box succeeded)
    | false =>
        left
        unfold afterTool
        rw [succeeded]
        rfl
  · exact ⟨ended, .inl rfl⟩

theorem Idle.endLoad (idle : Idle screen.view) : Idle (endLoad display world screen).view := by
  obtain ⟨flags, box⟩ := endLoad_view display world idle.settled
  have cropMode := (congrArg (·.isInclinaison) flags).trans idle.cropMode
  have settled := (congrArg (·.textCommentModified) flags).trans idle.settled
  refine ⟨⟨cropMode, ?_, ?_⟩, settled⟩
  · show ¬(Screen.endLoad display world screen).box.Selects
    rcases box with same | ⟨loads, width, height, reset⟩
    · rw [same]
      exact idle.unselected
    · rw [reset]
      exact (idle.unforced.loadFile loads width height).trackerReset_selects
  · show (Screen.endLoad display world screen).box.Unforced
    rcases box with same | ⟨loads, width, height, reset⟩
    · rw [same]
      exact idle.unforced
    · rw [reset]
      exact idle.unforced.loadFile loads width height

/-- A document that has been opened without `AutoSelectMax` has nothing selected. -/
theorem Idle.openImage (idle : Idle screen.view) (follows : world.Follows settings)
    (noSelection : settings.bAutoSelectMax = false) (name : FileName) (original : Bool) :
    Idle (openImage display world name original screen).view := by
  have loaded : (loadFile display (Editing.openImage display.toWx name original screen.frame)
      screen.box).Unforced := idle.unforced.loadFile _ _ _
  have box : (Screen.openImage display world name original screen).box =
      (loadFile display (Editing.openImage display.toWx name original screen.frame)
        screen.box).trackerReset := by
    unfold Screen.openImage
    dsimp only
    rw [follows.bAutoSelectMax, noSelection, Bool.false_and, if_neg Bool.false_ne_true]
  refine ⟨⟨idle.cropMode, ?_, ?_⟩, rfl⟩
  · show ¬(Screen.openImage display world name original screen).box.Selects
    rw [box]
    exact loaded.trackerReset_selects
  · show (Screen.openImage display world name original screen).box.Unforced
    rw [box]
    exact loaded

/-- Saving an idle screen leaves an idle screen, if a load selects nothing. -/
theorem idlePlan (follows : world.Follows settings)
    (noSelection : settings.bAutoSelectMax = false) :
    SavePlan display world Idle (fun view => Idle view ∧ view.bDirty = false) Idle where
  written := fun idle => ⟨⟨idle.cropMode, idle.unselected, idle.unforced⟩, idle.settled⟩
  commented := fun idle pending =>
    absurd (idle.settled.symm.trans pending) Bool.false_ne_true
  cleaned := fun idle _ clean => .result (idle.imageCleanup follows clean) ⟨idle, clean⟩
  again := fun idle => .result (idle.1.imageCleanup follows idle.2) ⟨idle.1, idle.2⟩
  kept := fun idle => idle
  left := fun idle => idle.1
  opened := fun idle => (idle.1.openImage follows noSelection _ _).endLoad
  refused := fun idle => idle.1.endLoad

/-- A lossless mode that is off, and no inclination. -/
structure Ready (view : View) : Prop where
  cropMode : view.isInclinaison = false
  unforced : view.box.Unforced
  lossy : view.bJPEGlossless = false

/-- The crop of a ready screen leaves nothing selected. -/
theorem Ready.onImageCrop (ready : Ready screen.view) :
    Unselected (onImageCrop display world screen).view ∧
      (onImageCrop display world screen).view.textCommentModified =
        screen.view.textCommentModified ∧
      (onImageCrop display world screen).view.bJPEGlossless = false := by
  have unforced : screen.box.Unforced := ready.unforced
  by_cases selects : screen.box.Selects
  · obtain ⟨width, height, view⟩ :=
      @onImageCrop_lossy _ display world screen selects ready.lossy unforced
    have reset := unforced.setImage width height
    rw [view]
    exact ⟨⟨ready.cropMode, reset.trackerReset_selects, reset⟩, rfl, ready.lossy⟩
  · rw [onImageCrop_eq, if_neg selects, unforced.getSelectedZone]
    exact ⟨⟨ready.cropMode, selects, unforced⟩, rfl, ready.lossy⟩

/-- So does the automatic crop. -/
theorem Ready.autoCrop (ready : Ready screen.view) (follows : world.Follows settings)
    (crops : settings.bAutoCrop = true) :
    autoCrop display world screen = Screen.onImageCrop display world screen := by
  have cropMode : screen.frame.isInclinaison = false := ready.cropMode
  unfold Screen.autoCrop onToolAction
  rw [follows.bAutoCrop, crops, if_pos rfl, cropMode, if_neg Bool.false_ne_true]

/-- Saving a ready screen crops it, and after that it is idle. -/
theorem readyPlan (follows : world.Follows settings) (crops : settings.bAutoCrop = true)
    (noSelection : settings.bAutoSelectMax = false) :
    SavePlan display world Ready Idle (fun _ => True) where
  written := fun ready => ⟨ready.cropMode, ready.unforced, ready.lossy⟩
  commented := by
    intro screen ready pending
    rw [onImageWriteComment_view pending]
    refine ⟨ready.cropMode, ?_, ready.lossy⟩
    rcases onImageWriteComment_box display world screen with same | ⟨lossless, -⟩
    · rw [same]
      exact ready.unforced
    · exact absurd (ready.lossy.symm.trans lossless) Bool.false_ne_true
  cleaned := by
    intro screen ready settled _
    obtain ⟨unselected, comment, -⟩ := @Ready.onImageCrop _ display world screen ready
    have idle : Idle (Screen.onImageCrop display world screen).view :=
      ⟨unselected, comment.trans settled⟩
    exact (idlePlan follows noSelection).cleanup_of_settled follows
      (ready.autoCrop follows crops) idle idle.settled
  again := fun idle => (idlePlan follows noSelection).cleanup_of_settled follows
    (idle.autoCrop follows) idle idle.settled
  kept := fun _ => trivial
  left := fun _ => trivial
  opened := fun _ => trivial
  refused := fun _ => trivial

end Screen

end RPhoto.Editing
