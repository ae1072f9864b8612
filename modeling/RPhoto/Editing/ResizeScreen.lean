import RPhoto.Editing.EndlessCleanup
import RPhoto.Editing.ResizeRequest

/-!
# What a request does to the screen

A request that `Resize` accepts sets an undo point, marks the document dirty and ends the
lossless mode, whether or not a number could be read from it.  Only a percentage that
is not positive, two sides that give no size and a request of no form are refused.
-/

namespace RPhoto.Editing

open RPhoto.Jpeg RPhoto.Library RPhoto.Tracker

variable {Pixels : Type}

/-- How requests are read, and the lengths of the test files of an image. -/
structure Resizer (Pixels : Type) extends RequestReader where
  fileSizes : Image Pixels → FileSizes

/-- What `Resize` reads; a missing file is as short as an empty one. -/
def Screen.resizeContext (resizer : Resizer Pixels) (display : Display Pixels)
    (screen : Screen Pixels) : ResizeContext where
  curWidth := (shownSize display.size screen.frame.image).1
  curHeight := (shownSize display.size screen.frame.image).2
  ratio := screen.box.rectTracker.ratio
  porl := screen.box.rectTracker.orientation
  sizes := (screen.frame.image.map resizer.fileSizes).getD ⟨fun _ => 0, 0⟩
  fileLength := ((screen.frame.files.content screen.frame.sFilename).map List.length).getD 0

/-- The end of `Resize`: the trackers are reset and the image is scaled. -/
def Screen.scaleImage (display : Display Pixels) (world : World Pixels)
    (destWidth destHeight : Int) (screen : Screen Pixels) : Screen Pixels :=
  let frame := Editing.resize display.toWx (world.environment screen.box) destWidth destHeight
    screen.frame
  let box :=
    { screen.box with lineTracker := screen.box.lineTracker.setTrackerPosition ⟨0, 0⟩ ⟨0, 0⟩ }
  { frame, box := setImage display frame box.trackerReset }

/-- The search of `Resize` tests its condition this often at most. -/
def searchTests : Nat := lastLevel + 1

/-- `Resize`; after an undefined step nothing is known. -/
def Screen.resize (resizer : Resizer Pixels) (display : Display Pixels) (world : World Pixels)
    (request : Text) (screen : Screen Pixels) : Option (Screen Pixels × Bool) :=
  match destination resizer.toRequestReader searchTests (screen.resizeContext resizer display)
      request with
  | some .refused => some (screen, false)
  | some (.size destWidth destHeight) =>
      some (screen.scaleImage display world destWidth destHeight, true)
  | some .undefined | none => none

/-! ## The formats -/

/-- The formats that the prompt for a size and the error messages describe. -/
def RequestReader.Documented (reader : RequestReader) (request : Text) : Prop :=
  if '%' ∈ request then
    reader.reads (beforeFirst '%' request) = true ∧ reader.number (beforeFirst '%' request) > 0
  else if 'x' ∈ request then
    let width := beforeFirst 'x' request
    let height := beforeFirst ' ' (afterFirst 'x' request)
    (reader.reads width = true ∧ reader.reads height = true) ∧
      (reader.number width > 0 ∨ reader.number height > 0)
  else
    ∃ digits rest, request = digits ++ reader.kb ++ rest ∧
      reader.reads digits = true ∧ reader.number digits > 0

/-- `Resize` returns false and has changed nothing. -/
def Screen.Rejects (resizer : Resizer Pixels) (display : Display Pixels) (world : World Pixels)
    (request : Text) (screen : Screen Pixels) : Prop :=
  screen.resize resizer display world request = some (screen, false)

/-- The requests in no documented format that are stopped: a percentage that can be read, sides
that give no size, and everything without a mark. -/
def ResizeContext.Stops (reader : RequestReader) (context : ResizeContext) (request : Text) :
    Prop :=
  ¬(context.ratio = 0 ∧ context.curHeight = 0) ∧
    if '%' ∈ request then reader.reads (beforeFirst '%' request) = true
    else if 'x' ∈ request then
      let lNum := reader.number (beforeFirst 'x' request)
      let lDenom := reader.number (beforeFirst ' ' (afterFirst 'x' request))
      (lNum ≤ 0 ∧ lDenom ≤ 0) ∨ ((lNum ≤ 0 ∨ lDenom ≤ 0) ∧ context.ratioInForce ≤ 0)
    else ¬reader.kb <:+: request

/-! ## The search ends -/

variable {reader : RequestReader} {context : ResizeContext} {request : Text}

theorem kbRatio_ends (sizes : FileSizes) (fileLength : Nat) (lNum : Int) :
    ∃ ratio, kbRatio searchTests sizes fileLength lNum = some ratio := by
  unfold kbRatio detectRatio
  dsimp only
  split_ifs with long both
  · obtain ⟨final, found⟩ := @loop_ends sizes (lNum * 1024) searchTests .whole
      (Nat.lt_succ_of_le (Nat.sub_le _ _))
    rw [cellSearch_whole] at found
    rw [found]
    exact ⟨_, rfl⟩
  · exact ⟨1, rfl⟩
  · exact ⟨1, rfl⟩

/-- `Resize` comes to a decision about every request. -/
theorem destination_ends (reader : RequestReader) (context : ResizeContext) (request : Text) :
    ∃ found, destination reader searchTests context request = some found := by
  unfold destination fileSize
  dsimp only
  split_ifs
  · exact ⟨_, rfl⟩
  · exact ⟨_, rfl⟩
  · exact ⟨_, rfl⟩
  · exact ⟨_, rfl⟩
  · obtain ⟨ratio, found⟩ := kbRatio_ends context.sizes context.fileLength
      (reader.number (beforeFirst 'k' request))
    rw [found]
    exact ⟨_, rfl⟩
  · exact ⟨_, rfl⟩

/-! ## What is refused -/

theorem size_not_refused (destWidth destHeight : Int) :
    Destination.size destWidth destHeight ≠ .refused := by
  intro same
  cases same

theorem undefined_not_refused : Destination.undefined ≠ .refused := by
  intro same
  cases same

/-- A percentage is refused when it can be read and is not positive. -/
theorem percentSize_refused_iff (request : Text) :
    percentSize reader context request = .refused ↔
      reader.reads (beforeFirst '%' request) = true ∧
        ¬reader.number (beforeFirst '%' request) > 0 := by
  unfold percentSize
  dsimp only
  split_ifs with reads positive holds
  · exact iff_of_false not_false fun stopped => stopped.2 positive
  · exact iff_of_false not_false fun stopped => stopped.2 positive
  · exact iff_of_true rfl ⟨reads, positive⟩
  · exact iff_of_false not_false fun stopped => reads stopped.1

/-- Two sides are refused when neither is positive, or one is not and the ratio is not. -/
theorem givenSize_refused_iff (ratio : ℚ) (lNum lDenom : Int) :
    givenSize reader ratio lNum lDenom = .refused ↔
      (lNum ≤ 0 ∧ lDenom ≤ 0) ∨ ((lNum ≤ 0 ∨ lDenom ≤ 0) ∧ ratio ≤ 0) := by
  unfold givenSize
  dsimp only
  by_cases both : lNum > 0 ∧ lDenom > 0
  · rw [if_pos both]
    exact iff_of_false (size_not_refused _ _) (by omega)
  rw [if_neg both]
  by_cases positive : ratio > 0
  · have sign : ¬ratio ≤ 0 := not_le.mpr positive
    simp only [positive, and_true, sign, and_false, or_false]
    split_ifs with num holds denom holds
    · exact iff_of_false not_false fun stopped => stopped.1.not_gt num
    · exact iff_of_false not_false fun stopped => stopped.1.not_gt num
    · exact iff_of_false not_false fun stopped => stopped.2.not_gt denom
    · exact iff_of_false not_false fun stopped => stopped.2.not_gt denom
    · exact iff_of_true rfl ⟨not_lt.mp num, not_lt.mp denom⟩
  · rw [if_neg (fun both => positive both.2), if_neg (fun both => positive both.2)]
    exact iff_of_true rfl (.inr ⟨by omega, not_lt.mp positive⟩)

theorem adjusted_refused_iff (found : Destination) :
    context.adjusted found = .refused ↔ found = .refused := by
  cases found with
  | refused => exact Iff.rfl
  | undefined => exact Iff.rfl
  | size destWidth destHeight =>
      rw [ResizeContext.adjusted_size]
      split_ifs
      · exact iff_of_false not_false not_false
      · exact Iff.rfl

/-- A file size is never refused. -/
theorem fileSize_not_refused (fuel : Nat) (request : Text) :
    fileSize reader fuel context request ≠ some .refused := by
  unfold fileSize
  dsimp only
  split_ifs
  · intro same
    cases same
  · intro same
    obtain ⟨ratio, -, scaled⟩ := Option.map_eq_some_iff.mp same
    unfold ResizeContext.scaled at scaled
    dsimp only at scaled
    split_ifs at scaled

/-- `Resize` refuses and leaves the screen, or scales the image and returns true. -/
theorem resize_eq_some_iff (resizer : Resizer Pixels) (display : Display Pixels)
    (world : World Pixels) (request : Text) (screen after : Screen Pixels) (accepted : Bool) :
    screen.resize resizer display world request = some (after, accepted) ↔
      (destination resizer.toRequestReader searchTests (screen.resizeContext resizer display)
          request = some .refused ∧ after = screen ∧ accepted = false) ∨
        ∃ destWidth destHeight,
          destination resizer.toRequestReader searchTests (screen.resizeContext resizer display)
              request = some (.size destWidth destHeight) ∧
            after = screen.scaleImage display world destWidth destHeight ∧ accepted = true := by
  unfold Screen.resize
  constructor
  · intro ran
    split at ran
    · rename_i refused
      cases ran
      exact .inl ⟨refused, rfl, rfl⟩
    · rename_i destWidth destHeight size
      cases ran
      exact .inr ⟨destWidth, destHeight, size, rfl, rfl⟩
    · cases ran
    · cases ran
  · rintro (⟨refused, rfl, rfl⟩ | ⟨destWidth, destHeight, size, rfl, rfl⟩)
    · rw [refused]
    · rw [size]

/-- Nothing but a refusal leaves the screen and returns false. -/
theorem resize_rejects_iff (resizer : Resizer Pixels) (display : Display Pixels)
    (world : World Pixels) (request : Text) (screen : Screen Pixels) :
    screen.Rejects resizer display world request ↔
      destination resizer.toRequestReader searchTests (screen.resizeContext resizer display)
        request = some .refused := by
  unfold Screen.Rejects
  rw [resize_eq_some_iff]
  constructor
  · rintro (⟨refused, -, -⟩ | ⟨destWidth, destHeight, -, -, flag⟩)
    · exact refused
    · cases flag
  · intro refused
    exact .inl ⟨refused, rfl, rfl⟩

/-- A request in no documented format is refused exactly when it is stopped. -/
theorem destination_refused_iff (undocumented : ¬reader.Documented request) (fuel : Nat) :
    destination reader fuel context request = some .refused ↔ context.Stops reader request := by
  unfold RequestReader.Documented at undocumented
  unfold destination ResizeContext.Stops fixedSize
  by_cases divides : context.ratio = 0 ∧ context.curHeight = 0
  · rw [if_pos divides]
    exact iff_of_false (fun same => undefined_not_refused (Option.some.inj same))
      fun stopped => stopped.1 divides
  rw [if_neg divides]
  refine Iff.trans ?_ (and_iff_right divides).symm
  by_cases percent : '%' ∈ request
  · rw [if_pos percent, not_and] at undocumented
    rw [if_pos percent, if_pos percent, Option.some.injEq, percentSize_refused_iff]
    exact ⟨fun stopped => stopped.1, fun reads => ⟨reads, undocumented reads⟩⟩
  rw [if_neg percent, if_neg percent]
  by_cases sides : 'x' ∈ request
  · rw [if_pos sides, if_pos sides, Option.some.injEq, adjusted_refused_iff, givenSize_refused_iff]
  rw [if_neg sides, if_neg sides]
  split_ifs with kilobytes
  · exact iff_of_false (fileSize_not_refused fuel request) fun stopped => stopped kilobytes
  · exact iff_of_true rfl kilobytes

/-- In no documented format, a request is rejected without effect exactly when it is stopped. -/
theorem resize_rejects_undocumented_iff (resizer : Resizer Pixels) (display : Display Pixels)
    (world : World Pixels) (request : Text) (screen : Screen Pixels)
    (undocumented : ¬resizer.Documented request) :
    screen.Rejects resizer display world request ↔
      (screen.resizeContext resizer display).Stops resizer.toRequestReader request := by
  rw [resize_rejects_iff, destination_refused_iff undocumented]

/-! ## The photo of the small world -/

/-- The small world, with test files of one byte. -/
def sampleResizer : Resizer Bytes where
  toRequestReader := decimalReader 64
  fileSizes := fun _ => ⟨fun _ => 1, 1⟩

/-- The small world with ten undo points. -/
def sampleWorld : World Bytes := fun screen =>
  { sampleEnv 10 screen.frame with bAutoSelectMax := false, wrjpgcomReturns := fun _ _ => true }

theorem zeroSides_rejected :
    Screen.selectedPhoto.Rejects sampleResizer Screen.sampleDisplay sampleWorld "0x0".toList :=
  (resize_rejects_undocumented_iff sampleResizer Screen.sampleDisplay sampleWorld "0x0".toList
    Screen.selectedPhoto (by
      intro documented
      exact absurd documented.2 (by decide))).mpr ⟨by decide, .inl (by decide)⟩

/-- A percentage that cannot be read marks the photo dirty, sets an undo point and ends the
lossless mode. -/
theorem unreadablePercent_accepted :
    ¬sampleResizer.Documented "abc%".toList ∧
      ¬Screen.selectedPhoto.Rejects sampleResizer Screen.sampleDisplay sampleWorld "abc%".toList ∧
      (Screen.selectedPhoto.resize sampleResizer Screen.sampleDisplay sampleWorld
          "abc%".toList).any fun after =>
        after.2 && after.1.frame.bDirty && !after.1.frame.bJPEGlossless &&
          after.1.frame.historyUndo.length = 1 := by
  refine ⟨?_, ?_, by decide⟩
  · intro documented
    exact absurd documented.1 (by decide)
  · intro rejected
    have accepted : (Screen.selectedPhoto.resize sampleResizer Screen.sampleDisplay sampleWorld
        "abc%".toList).map Prod.snd = some true := by decide
    rw [rejected] at accepted
    cases accepted

end RPhoto.Editing
