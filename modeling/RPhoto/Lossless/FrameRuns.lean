import RPhoto.Editing.FailedLossless
import RPhoto.Editing.ToolActions
import RPhoto.Lossless.Restoring
import RPhoto.Tracker.CropZone

/-!
# The lossless buttons of the frame

The frame copies the file it works on to a new temporary one and has jpegtran transform
that.  When the copy is complete and decodes silently, the handler of a rotation or a flip
leaves the turned picture there, and that of a crop the selected zone; the original file
and every file no dropped history entry owns stay as they were.
-/

namespace RPhoto.Lossless

open RPhoto.Jpeg RPhoto.Library RPhoto.Tracker
open RPhoto.Editing (JpegtranCommand Attempt Environment Frame Wx Screen Display World copyToTemp
  callJPEGTranTryPerfect dirty droppedEntries sourceFilename newTempName switched sourceWritable
  CopiesAll)

variable {Pixels : Type}

/-- The temporary files that the undo point of a lossless call removes. -/
def Drops (env : Environment Pixels) (frame : Frame Pixels) (name : Editing.FileName) : Prop :=
  ∃ entry ∈ droppedEntries (env frame).undoHistory frame.toDocument, entry.owner = some name

/--
A lossless call on a file with this content: the temporary file is a new one, it gets the
whole content, no file in use belongs to a dropped history entry, and the tool the frame
calls is the program.
-/
structure RunsOn (system : System) (env : Environment Pixels) (frame : Frame Pixels)
    (filename : Text) (data : Bytes) : Prop where
  source : frame.files.content (sourceFilename frame.toDocument) = some data
  original : frame.files.Holds frame.sOriginalFilename
  sourceKept : ¬Drops env frame (sourceFilename frame.toDocument)
  originalKept : ¬Drops env frame frame.sOriginalFilename
  newFile : newTempName env frame ≠ Editing.noFile ∧ ¬frame.files.Holds (newTempName env frame)
  copies : CopiesAll (env (switched env frame)) (sourceWritable env frame) data
  copied : (copyToTemp env frame).2 = true
  jpegtran : (env (copyToTemp env frame).1).jpegtran = system.jpegtran filename
  named : filename.head? ≠ some '-'
  opens : system.opens filename = true

/--
A handler that has left this file as the one to work on.  The original is untouched, and so
is every other file, but for the temporary ones of dropped history entries.
-/
structure Leaves (env : Environment Pixels) (before after : Frame Pixels) (output : Bytes) :
    Prop where
  content : after.files.content after.sFilename = some output
  working : after.bTemp = true
  named : after.sOriginalFilename = before.sOriginalFilename
  original : after.files.content before.sOriginalFilename =
    before.files.content before.sOriginalFilename
  others : ∀ name, name ≠ after.sFilename → ¬Drops env before name →
    after.files.content name = before.files.content name

variable {system : System} {wx : Wx Pixels} {env : Environment Pixels} {frame : Frame Pixels}
  {filename : Text} {data : Bytes} {image : Image} {command : JpegtranCommand}

instance (env : Environment Pixels) (frame : Frame Pixels) (name : Editing.FileName) :
    Decidable (Drops env frame name) :=
  inferInstanceAs (Decidable (∃ _ ∈ _, _ = _))

/-- A file that no dropped entry owns survives the undo point. -/
theorem content_imageUndoPoint {name : Editing.FileName} (kept : ¬Drops env frame name) :
    (Editing.imageUndoPoint env frame).files.content name = frame.files.content name := by
  unfold Editing.imageUndoPoint
  split
  · rfl
  · refine Editing.content_undoPoint fun entry member owned => kept ⟨entry, ?_, owned⟩
    exact member

/-- The copy leaves every file but the new one as the undo point did. -/
theorem copyToTemp_content_of_ne {name : Editing.FileName} (other : name ≠ newTempName env frame) :
    (copyToTemp env frame).1.files.content name =
      (Editing.imageUndoPoint env frame).files.content name := by
  have outcome : ∀ (written : Option Bytes) (files : FileStore Editing.FileName Bytes),
      (Editing.writeOutcome (newTempName env frame) written files).content name =
        files.content name := by
    intro written files
    cases written with
    | none => rfl
    | some content => exact FileStore.content_write_of_ne other
  rw [Editing.copyToTemp_fst]
  refine (outcome _ _).trans ?_
  rw [Editing.switched_files]
  split
  · rfl
  · exact FileStore.content_write_of_ne other

/-- The temporary file gets what the working file held. -/
theorem RunsOn.content (runs : RunsOn system env frame filename data) :
    (copyToTemp env frame).1.files.content (newTempName env frame) = some data := by
  have fresh : ¬(Editing.imageUndoPoint env frame).files.Holds (newTempName env frame) := by
    intro held
    obtain ⟨found, present⟩ := Option.ne_none_iff_exists'.mp held
    refine runs.newFile.2 (Option.ne_none_iff_exists'.mpr ⟨found, ?_⟩)
    exact Editing.content_of_content_imageUndoPoint present
  rw [Editing.copyToTemp_content runs.newFile.1 fresh, content_imageUndoPoint runs.sourceKept,
    runs.source]
  exact congrArg some
    ((Editing.fillOutcome_eq_iff _ _ data runs.newFile.1).mpr (.inr runs.copies))

/-- The frame gives the whole content to the tool. -/
theorem RunsOn.called (runs : RunsOn system env frame filename data) :
    callJPEGTranTryPerfect wx env command frame =
      Editing.applyTool wx (.jpegtran command)
        (Editing.jpegtranOutput (env (copyToTemp env frame).1) command (some data))
        (copyToTemp env frame).1 := by
  unfold callJPEGTranTryPerfect
  dsimp only
  rw [if_pos runs.copied, Editing.copyToTemp_sFilename env frame, runs.content]

/-- The tool gives what the two runs of the program leave. -/
theorem RunsOn.tool (runs : RunsOn system env frame filename data) (selects : Selects command)
    (quiet : ∀ found, system.read data = some found → found.2 = false)
    (encodes : ∀ attempt, system.Encodes (commandSwitches attempt command filename) data)
    {files : Files} (present : files.content filename = some data) {output : Bytes}
    (ran : system.tryPerfect command filename files = (files.write filename output, true)) :
    Editing.jpegtranOutput (env (copyToTemp env frame).1) command (some data) = some output := by
  have agrees := tryPerfect_output runs.jpegtran selects runs.named present quiet runs.opens
    encodes
  rw [ran] at agrees
  cases tool : Editing.jpegtranOutput (env (copyToTemp env frame).1) command (some data) with
  | none =>
      rw [tool] at agrees
      cases (Prod.ext_iff.mp agrees).2
  | some found =>
      rw [tool] at agrees
      have written := congrArg (fun store => store.content filename) (Prod.ext_iff.mp agrees).1
      simp only [FileStore.content_write_self] at written
      exact written.symm

/-- No file but the new one changes, except those of dropped history entries. -/
theorem applied_content_of_ne {name : Editing.FileName} (other : name ≠ newTempName env frame)
    (kept : ¬Drops env frame name) (output : Bytes) :
    ((copyToTemp env frame).1.files.write (copyToTemp env frame).1.sFilename output).content name =
      frame.files.content name := by
  rw [FileStore.content_write_of_ne (Editing.copyToTemp_sFilename env frame ▸ other),
    copyToTemp_content_of_ne other, content_imageUndoPoint kept]

/-- What the two runs of the program leave is what the frame's call leaves. -/
theorem RunsOn.leaves (runs : RunsOn system env frame filename data)
    (selects : Selects command)
    (quiet : ∀ found, system.read data = some found → found.2 = false)
    (encodes : ∀ attempt, system.Encodes (commandSwitches attempt command filename) data)
    {files : Files} (present : files.content filename = some data) {output : Bytes}
    (ran : system.tryPerfect command filename files = (files.write filename output, true)) :
    Leaves env frame (callJPEGTranTryPerfect wx env command frame).1 output := by
  have name := Editing.copyToTemp_sFilename env frame
  have first := Editing.copyToTemp_fst env frame
  have apart : frame.sOriginalFilename ≠ newTempName env frame := by
    intro same
    exact runs.newFile.2 (same ▸ runs.original)
  rw [runs.called, runs.tool selects quiet encodes present ran]
  exact {
    content := FileStore.content_write_self _ _ _
    working := by
      change (copyToTemp env frame).1.bTemp = true
      rw [first]
      rfl
    named := by
      change (copyToTemp env frame).1.sOriginalFilename = _
      rw [first]
      exact Editing.imageUndoPoint_sOriginalFilename env frame
    original := applied_content_of_ne apart runs.originalKept output
    others := fun other different kept => applied_content_of_ne (name ▸ different) kept output }

/-- The file the runs are about, alone. -/
def alone (filename : Text) (data : Bytes) : Files :=
  .ofContent fun name => if name = filename then some data else none

theorem alone_content (filename : Text) (data : Bytes) :
    (alone filename data).content filename = some data := if_pos rfl

theorem quiet_of_decodes (decodes : system.read data = some (image, false)) :
    ∀ found, system.read data = some found → found.2 = false := by
  intro found read
  rw [decodes] at read
  cases read
  rfl

/-! ## Rotations and flips -/

/-- The buttons for rotations and flips. -/
inductive TurnButton where
  | rotateLeft
  | rotateRight
  | flipHorizontal
  | flipVertical

namespace TurnButton

/-- The handler of a button. -/
def handler (button : TurnButton) (wx : Wx Pixels) (env : Environment Pixels) :
    Frame Pixels → Frame Pixels :=
  match button with
  | rotateLeft => Editing.onImageRotateLeft wx env
  | rotateRight => Editing.onImageRotateRight wx env
  | flipHorizontal => Editing.onImageFlipHorizontal wx env
  | flipVertical => Editing.onImageFlipVertical wx env

/-- The frame a handler makes its call in; the vertical flip does not mark it as dirty. -/
def calling (button : TurnButton) (frame : Frame Pixels) : Frame Pixels :=
  match button with
  | flipVertical => frame
  | _ => dirty frame

def asked : TurnButton → JpegtranCommand
  | rotateLeft => .rotate270
  | rotateRight => .rotate90
  | flipHorizontal => .flipHorizontal
  | flipVertical => .flipVertical

theorem turns (button : TurnButton) : Turns button.asked := by
  cases button <;> decide

theorem handler_lossless (button : TurnButton) (wx : Wx Pixels) (env : Environment Pixels)
    (lossless : frame.bJPEGlossless = true) :
    button.handler wx env frame =
      (callJPEGTranTryPerfect wx env button.asked (button.calling frame)).1 := by
  cases button <;> exact if_pos lossless

end TurnButton

/--
A lossless rotation or flip leaves in the new working file the turned picture of the file
it was pressed on, cut back on mirrored edges.
-/
theorem lossless_button_turns (button : TurnButton) (lossless : frame.bJPEGlossless = true)
    (runs : RunsOn system env (button.calling frame) filename data)
    (decodes : system.read data = some (image, false)) (tables : copiesCriticalParameters image)
    (fits : image.header.Fits none)
    (rereads : ∀ attempt,
      system.Rereads (commandSwitches attempt button.asked filename) data) :
    ∃ output shown plain,
      Leaves env (button.calling frame) (button.handler wx env frame) output ∧
      system.read output = some (shown, false) ∧
      jtransform (.only (commandTransform button.asked)) system.memory
        (image.kept (commandTransform button.asked)) = some plain ∧
      SamePicture plain shown := by
  obtain ⟨⟨selects, -⟩, sequential, -⟩ := button.turns.plain
  have present := alone_content filename data
  obtain ⟨output, result, shown, -, ran, -, turned, read, same⟩ :=
    tryPerfect_turns button.turns runs.named present runs.opens decodes tables fits rereads
  have keptTables : copiesCriticalParameters (image.kept (commandTransform button.asked)) :=
    tables
  obtain ⟨plain, ranPlain, turnsPlain⟩ :=
    turns_only keptTables (commandTransform button.asked) system.memory
  refine ⟨output, shown, plain, ?_, read, ranPlain, (turnsPlain.same turned).trans same⟩
  rw [button.handler_lossless wx env lossless]
  exact runs.leaves selects (quiet_of_decodes decodes)
    (fun attempt => (rereads attempt).encodes sequential decodes fits) present ran

/-- A frame that shows a photo, and the program working on its copy. -/
def sampleFrame : Frame Bytes :=
  { Editing.emptyFrame (.ofContent fun name => if name = Editing.photoA then some [] else none) with
    sOriginalFilename := Editing.photoA
    sFilename := Editing.photoA
    bJPEGlossless := true }

def sampleEnvironment : Environment Bytes := fun frame =>
  { Editing.sampleEnv 10 frame with
    jpegtran := (sampleSystem sampleImage false).jpegtran "/tmp/rphoto".toList }

theorem sampleFrame_runs (button : TurnButton) :
    RunsOn (sampleSystem sampleImage false) sampleEnvironment (button.calling sampleFrame)
      "/tmp/rphoto".toList [] := by
  cases button <;>
    exact ⟨by decide +kernel, by decide +kernel, by decide +kernel, by decide +kernel,
      by decide +kernel, trivial, by decide +kernel, rfl, by decide, rfl⟩

theorem lossless_button_turns_sample :
    ∃ output shown plain,
      Leaves sampleEnvironment (dirty sampleFrame)
        (Editing.onImageRotateRight Editing.sampleWx sampleEnvironment sampleFrame) output ∧
      (sampleSystem sampleImage false).read output = some (shown, false) ∧
      jtransform (.only .rot90) sampleMemory (sampleImage.kept .rot90) = some plain ∧
      SamePicture plain shown :=
  lossless_button_turns .rotateRight rfl (sampleFrame_runs .rotateRight) rfl (by decide +kernel)
    (by decide) fun attempt => sampleSystem_rereads sampleImage false (by decide) attempt _ _

/-! ## Crops -/

/-- Pictures that are the same within their frame have the same pixels there. -/
theorem SamePicture.pixel {first second : Image} (same : SamePicture first second)
    (expands : first.header.Expands) {ci row column : Nat}
    (known : ci < first.header.numComponents) (inRows : row < first.header.imageHeight)
    (inColumns : column < first.header.imageWidth) :
    first.pixel ci row column = second.pixel ci row column := by
  have sampled := first.sampling_pos known
  have across := expands.across ci known
  have down := expands.down ci known
  have wide : 0 < first.header.expandX ci := by
    refine @Nat.pos_of_mul_pos_right _ (first.header.compInfo ci).hSampFactor ?_
    rw [across]
    exact Header.one_le_largest _
  have high : 0 < first.header.expandY ci := by
    refine @Nat.pos_of_mul_pos_right _ (first.header.compInfo ci).vSampFactor ?_
    rw [down]
    exact Header.one_le_largest _
  have blockRow : row / (dctSize * first.header.expandY ci) < first.header.heightInBlocks ci := by
    refine block_in_frame (Nat.mul_pos (by decide) high) sampled.2 ?_ inRows
    rw [← down]
    ring
  have blockColumn : column / (dctSize * first.header.expandX ci) <
      first.header.widthInBlocks ci := by
    refine block_in_frame (Nat.mul_pos (by decide) wide) sampled.1 ?_ inColumns
    rw [← across]
    ring
  unfold Image.pixel tiled
  rw [← same.header, same.quantTable ci known,
    same.block ci known _ blockRow _ blockColumn]

/-- A zone inside the picture. -/
structure Selected (image : Image) (zone : Rect) : Prop where
  width : 0 < zone.width
  height : 0 < zone.height
  left : 0 ≤ zone.x
  top : 0 ≤ zone.y
  right : zone.x + zone.width ≤ image.header.imageWidth
  bottom : zone.y + zone.height ≤ image.header.imageHeight

theorem cropAxis_selected {full : Nat} {offset size : Int} (positive : 0 < size)
    (nonneg : 0 ≤ offset) (inside : offset + size ≤ full) :
    cropAxis full size.toNat .pos offset.toNat .pos = some (offset.toNat, size.toNat) := by
  unfold cropAxis
  simp only [reduceCtorEq, if_false]
  rw [if_neg (by omega), if_neg (by omega)]

/-- A zone inside the picture passes the tests of the first attempt. -/
theorem Selected.accepts {zone : Rect} (selected : Selected image zone)
    (tables : copiesCriticalParameters image) :
    Accepts image (commandSwitches .perfect (.crop zone) filename).option
      (regionAt (uncropped image.header.dimensions .none) zone.x.toNat zone.width.toNat
        zone.y.toNat zone.height.toNat) := by
  refine ⟨fun fails => fails.2 rfl, ?_, tables⟩
  unfold requestWorkspace croppedRegion
  change (cropped (uncropped image.header.dimensions .none) (.ofRect zone)).map _ = _
  unfold cropped
  have across := cropAxis_selected selected.width selected.left selected.right
  have down := cropAxis_selected selected.height selected.top selected.bottom
  change ((cropAxis image.header.imageWidth zone.width.toNat .pos zone.x.toNat .pos).bind
    fun x => (cropAxis image.header.imageHeight zone.height.toNat .pos zone.y.toNat .pos).bind
      fun y => _).map _ = _
  rw [across, down]
  rfl

/-- The numbers of a zone inside a picture are small. -/
theorem Selected.selects {zone : Rect} (selected : Selected image zone) :
    Selects (.crop zone) ∧ Begins (.crop zone) := by
  have width := image.setUp.width.2
  have height := image.setUp.height.2
  have right := selected.right
  have bottom := selected.bottom
  have left := selected.left
  have top := selected.top
  have wide := selected.width
  have high := selected.height
  unfold jpegMaxDimension at width height
  exact ⟨⟨⟨wide, by omega⟩, ⟨high, by omega⟩, by omega, by omega⟩, left, top⟩

/-- The geometry that is written for a zone inside a picture is read back. -/
theorem Selected.parses {zone : Rect} (selected : Selected image zone) :
    jtransformParseCropSpec (cropArgument zone) = some (.ofRect zone) := by
  obtain ⟨selects, begins⟩ := selected.selects
  rw [parseCropSpec_cropArgument ⟨selected.width.le, selects.1.2⟩
    ⟨selected.height.le, selects.2.1.2⟩ selects.2.2.1 selects.2.2.2]
  exact if_pos begins

/-- In lossless mode the handler of a crop has the selected zone cropped. -/
theorem onImageCrop_lossless {display : Display Pixels} {world : World Pixels}
    {screen : Screen Pixels} (selects : screen.box.Selects)
    (lossless : screen.frame.bJPEGlossless = true) :
    (Screen.onImageCrop display world screen).frame =
      (callJPEGTranTryPerfect display.toWx (world.environment screen.box)
        (.crop screen.box.getSelectedZone.2) (dirty screen.frame)).1 := by
  rw [Screen.onImageCrop_eq, if_pos selects, if_pos lossless]
  rfl

/--
The image box shows the picture, with a selection in its max rect and without a fixed size
that the picture has no room for.
-/
structure ShowsSelection (box : DisplayBox) (image : Image) : Prop where
  width : box.imageWidth = image.header.imageWidth
  height : box.imageHeight = image.header.imageHeight
  scale : 0 < box.scale
  inside : box.rectTracker.rect.Inside (box.scaledRect box.scale)
  fits : box.rectTracker.isFixedSize = false ∨ box.RequestFits
  selects : box.Selects

/-- The zone to crop lies in the picture. -/
theorem ShowsSelection.selected {box : DisplayBox} (shows : ShowsSelection box image) :
    Selected image box.getSelectedZone.2 := by
  obtain ⟨x, y, right, bottom⟩ :=
    RatioImageBox.selectedZone_inImage box.toRatioImageBox shows.scale shows.inside shows.fits
  exact ⟨shows.selects.1, shows.selects.2, x, y, shows.width ▸ right, shows.height ▸ bottom⟩

/--
A lossless crop leaves in the new working file the zone selected in the image box, and what
lies to its left and above it in the same iMCU.
-/
theorem lossless_button_crops {display : Display Pixels} {world : World Pixels}
    {screen : Screen Pixels} (lossless : screen.frame.bJPEGlossless = true)
    (shows : ShowsSelection screen.box image)
    (runs : RunsOn system (world.environment screen.box) (dirty screen.frame) filename data)
    (decodes : system.read data = some (image, false)) (tables : copiesCriticalParameters image)
    (fits : image.header.Fits none) (expands : image.header.Expands)
    (rereads : ∀ attempt, system.Rereads
      (commandSwitches attempt (.crop screen.box.getSelectedZone.2) filename) data) :
    let zone := screen.box.getSelectedZone.2
    let region := uncropped image.header.dimensions .none
    jtransformParseCropSpec (cropArgument zone) = some (.ofRect zone) ∧
    ∃ output shown,
      Leaves (world.environment screen.box) (dirty screen.frame)
        (Screen.onImageCrop display world screen).frame output ∧
      system.read output = some (shown, false) ∧
      shown.header.imageWidth = zone.width.toNat + zone.x.toNat % region.mcuWidth ∧
      shown.header.imageHeight = zone.height.toNat + zone.y.toNat % region.mcuHeight ∧
      ∀ ci < image.header.numComponents, ∀ row < shown.header.imageHeight,
        ∀ column < shown.header.imageWidth,
          shown.pixel ci row column =
            image.pixel ci (zone.y.toNat / region.mcuHeight * region.mcuHeight + row)
              (zone.x.toNat / region.mcuWidth * region.mcuWidth + column) := by
  intro zone region
  have selected : Selected image zone := shows.selected
  obtain ⟨selects, begins⟩ := selected.selects
  have sequential : JpegtranCommand.crop zone ≠ .progressive := fun same => nomatch same
  have accepts := @Selected.accepts filename image zone selected tables
  have present := alone_content filename data
  obtain ⟨output, result, shown, ran, -, turned, read, same⟩ :=
    subCallJPEGTran_accepts selects begins sequential runs.named present runs.opens decodes fits
      accepts (rereads .perfect)
  have perfect : system.tryPerfect (.crop zone) filename (alone filename data) =
      ((alone filename data).write filename output, true) := by
    unfold System.tryPerfect
    rw [ran]
    rfl
  have left := @RunsOn.leaves _ _ display.toWx _ _ _ _ _ runs selects (quiet_of_decodes decodes)
    (fun attempt => (rereads attempt).encodes sequential decodes fits) _ present _ perfect
  obtain ⟨width, height⟩ := turned.size
  have counted : result.header.numComponents = image.header.numComponents := by
    rw [turned.header]
    exact adjust_numComponents _ _ _
  have expandsResult : result.header.Expands := turned.header ▸ expands.adjust _ _
  refine ⟨selected.parses, output, shown, ?_, read, ?_, ?_,
    fun ci known row inRows column inColumns => ?_⟩
  · rw [onImageCrop_lossless shows.selects lossless]
    exact left
  · rw [← same.header, width]
    rfl
  · rw [← same.header, height]
    rfl
  · rw [← same.header] at inRows inColumns
    rw [← same.pixel expandsResult (counted.symm ▸ known) inRows inColumns]
    exact turned.pixel_region accepts.inside expands known inRows inColumns

/-- The photo on the screen at half its size, with a selection. -/
def sampleScreen : Screen Bytes where
  frame := sampleFrame
  box :=
    { imageWidth := 16
      imageHeight := 12
      scale := 1 / 2
      originalWidth := 0
      originalHeight := 0
      rectTracker := { RectTrackerRatio.create with rect := ⟨4, 1, 3, 2⟩ }
      scaleV := .fitToPageIfLarger
      pageWidth := 8
      pageHeight := 6
      lineTracker := ⟨nullRect, nullRect, .none, .none⟩ }

def sampleDisplay : Display Bytes where
  toWx := Editing.sampleWx
  size := fun _ => (16, 12)
  inclinedSize := fun _ _ _ size => (size.1, size.2)

def sampleWorld : World Bytes := fun screen =>
  { sampleEnvironment screen.frame with
    bAutoSelectMax := false
    wrjpgcomReturns := fun _ _ => true }

theorem sampleScreen_shows : ShowsSelection sampleScreen.box sampleImage :=
  ⟨rfl, rfl, by decide +kernel, by decide +kernel, .inl rfl, by decide +kernel⟩

theorem sampleScreen_zone : sampleScreen.box.getSelectedZone.2 = ⟨8, 2, 6, 4⟩ := by
  decide +kernel

theorem sampleScreen_runs :
    RunsOn (sampleSystem sampleImage false) (sampleWorld.environment sampleScreen.box)
      (dirty sampleScreen.frame) "/tmp/rphoto".toList [] where
  source := by decide +kernel
  original := by decide +kernel
  sourceKept := by decide +kernel
  originalKept := by decide +kernel
  newFile := by decide +kernel
  copies := trivial
  copied := by decide +kernel
  jpegtran := rfl
  named := by decide
  opens := rfl

theorem lossless_button_crops_sample :
    let zone : Rect := ⟨8, 2, 6, 4⟩
    let region := uncropped sampleImage.header.dimensions .none
    jtransformParseCropSpec (cropArgument zone) = some (.ofRect zone) ∧
    ∃ output shown,
      Leaves (sampleWorld.environment sampleScreen.box) (dirty sampleScreen.frame)
        (Screen.onImageCrop sampleDisplay sampleWorld sampleScreen).frame output ∧
      (sampleSystem sampleImage false).read output = some (shown, false) ∧
      shown.header.imageWidth = 6 + 8 % region.mcuWidth ∧
      shown.header.imageHeight = 4 + 2 % region.mcuHeight ∧
      ∀ ci < 2, ∀ row < shown.header.imageHeight, ∀ column < shown.header.imageWidth,
        shown.pixel ci row column =
          sampleImage.pixel ci (2 / region.mcuHeight * region.mcuHeight + row)
            (8 / region.mcuWidth * region.mcuWidth + column) := by
  have known : JpegtranCommand.crop sampleScreen.box.getSelectedZone.2 ∈ sampleCommands := by
    rw [sampleScreen_zone]
    decide
  have crops := @lossless_button_crops Bytes (sampleSystem sampleImage false)
    "/tmp/rphoto".toList [] sampleImage sampleDisplay sampleWorld sampleScreen rfl
    sampleScreen_shows sampleScreen_runs rfl (by decide +kernel) (by decide) sampleImage_expands
    fun attempt => sampleSystem_rereads sampleImage false known attempt _ _
  rw [sampleScreen_zone] at crops
  exact crops

end RPhoto.Lossless
