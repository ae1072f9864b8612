import RPhoto.Editing.ResizeScreen
import RPhoto.Editing.UndoRestores

/-!
# The resize combo box

A size that is entered, in the combo box or in the dialog of the menu, is resized to and then
appended to the list; `OnResizeEnter` then calls `OnResizeChange`, which resizes once more to
the entry that is still selected.
-/

namespace RPhoto.Editing

open RPhoto.Jpeg RPhoto.Library RPhoto.Tracker

variable {Pixels : Type}

/-- The entries of the combo box, and the index of the selected one or -1. -/
structure ResizeCombo where
  items : List Text
  selection : Int
deriving DecidableEq

/-- `GetStringSelection`. -/
def ResizeCombo.stringSelection (combo : ResizeCombo) : Text :=
  if combo.selection < 0 then [] else combo.items.getD combo.selection.toNat []

/-- `Append`, which leaves the selection. -/
def ResizeCombo.append (combo : ResizeCombo) (item : Text) : ResizeCombo :=
  { combo with items := combo.items ++ [item] }

/-- The identifier and the selection of a `wxCommandEvent`. -/
structure CommandEvent where
  id : Int
  selection : Int

def widgetRatioCombo : Int := 30001

def widgetResizeCombo : Int := 30002

/-- A new `wxCommandEvent`. -/
def CommandEvent.empty : CommandEvent := ⟨0, 0⟩

/-- The screen with the combo box, and a record of the requests that have scaled the image.
No operation reads the record. -/
structure ResizeDesk (Pixels : Type) where
  combo : ResizeCombo
  screen : Screen Pixels
  scalings : List Text

namespace ResizeDesk

section Handlers

variable (resizer : Resizer Pixels) (display : Display Pixels) (world : World Pixels)

/-- `Resize` on the screen of the desk. -/
def resize (request : Text) (desk : ResizeDesk Pixels) : Option (ResizeDesk Pixels × Bool) :=
  (desk.screen.resize resizer display world request).map fun resized =>
    ({ desk with
        screen := resized.1
        scalings := if resized.2 then desk.scalings ++ [request] else desk.scalings },
      resized.2)

/-- `SetSelection`. -/
def select (selection : Int) (desk : ResizeDesk Pixels) : ResizeDesk Pixels :=
  { desk with combo := { desk.combo with selection } }

/-- `Append`. -/
def append (item : Text) (desk : ResizeDesk Pixels) : ResizeDesk Pixels :=
  { desk with combo := desk.combo.append item }

/-- `OnResizeChange`; it asks for the identifier of the ratio combo box. -/
def onResizeChange (event : CommandEvent) (desk : ResizeDesk Pixels) :
    Option (ResizeDesk Pixels) :=
  let sel := if event.id = widgetRatioCombo then event.selection else desk.combo.selection
  if sel > 0 then
    (desk.resize resizer display world desk.combo.stringSelection).map fun resized =>
      resized.1.select sel
  else some desk

/-- `OnResizeEnter`. -/
def onResizeEnter (request : Text) (desk : ResizeDesk Pixels) : Option (ResizeDesk Pixels) :=
  (desk.resize resizer display world request).bind fun resized =>
    let changed :=
      if resized.2 then
        (resized.1.append request).onResizeChange resizer display world .empty
      else some resized.1
    changed.map fun desk => desk.select 0

/-- `OnImageResize`, for the text that the user gives. -/
def onImageResize (request : Text) (desk : ResizeDesk Pixels) : Option (ResizeDesk Pixels) :=
  if request = [] then some desk else desk.onResizeEnter resizer display world request

end Handlers

end ResizeDesk

/-- What happens to the combo box and the screen. -/
inductive ComboEvent (Pixels : Type) where
  /-- An entry of the list is chosen. -/
  | choose (selection : Int)
  /-- A size is typed and entered; the typing leaves some selection. -/
  | enter (request : Text) (selection : Int)
  /-- A size is given in the dialog. -/
  | imageResize (request : Text)
  /-- A document is loaded. -/
  | imageLoad (screen : Screen Pixels)
  /-- The list is filled again. -/
  | configure (items : List Text)
  /-- Any other operation on the screen. -/
  | operate (screen : Screen Pixels)

/-- An event with the answers of the world. -/
structure ComboAction (Pixels : Type) where
  event : ComboEvent Pixels
  world : World Pixels

/-- Perform an action. -/
def ResizeDesk.perform (resizer : Resizer Pixels) (display : Display Pixels)
    (action : ComboAction Pixels) (desk : ResizeDesk Pixels) : Option (ResizeDesk Pixels) :=
  match action.event with
  | .choose selection =>
      (desk.select selection).onResizeChange resizer display action.world
        ⟨widgetResizeCombo, selection⟩
  | .enter request selection =>
      (desk.select selection).onResizeEnter resizer display action.world request
  | .imageResize request => desk.onImageResize resizer display action.world request
  | .imageLoad screen => some ({ desk with screen }.select 0)
  | .configure items => some { desk with combo := ⟨items, -1⟩ }
  | .operate screen => some { desk with screen }

/-! ## What is wanted -/

/-- Entering a size does what one `Resize` to it does to the screen, and nothing more. -/
def ResizeDesk.EntersOnce (resizer : Resizer Pixels) (display : Display Pixels)
    (world : World Pixels) (request : Text) (desk : ResizeDesk Pixels) : Prop :=
  (desk.onResizeEnter resizer display world request).map (fun after =>
      (after.screen, after.scalings)) =
    (desk.resize resizer display world request).map fun resized =>
      (resized.1.screen, resized.1.scalings)

/-- No entry but the first is selected, or the request gives no size, or the selected entry is
refused for an image of that size. -/
def ResizeDesk.Unselected (resizer : Resizer Pixels) (display : Display Pixels)
    (world : World Pixels) (request : Text) (desk : ResizeDesk Pixels) : Prop :=
  desk.combo.selection ≤ 0 ∨
    ∀ destWidth destHeight,
      destination resizer.toRequestReader searchTests (desk.screen.resizeContext resizer display)
          request = some (.size destWidth destHeight) →
        destination resizer.toRequestReader searchTests
            ((desk.screen.scaleImage display world destWidth destHeight).resizeContext resizer
              display)
            (desk.combo.append request).stringSelection = some .refused

/-- The desk in which an action enters a size, and the size. -/
def ComboEvent.entry : ComboEvent Pixels → ResizeDesk Pixels →
    Option (Text × ResizeDesk Pixels)
  | .enter request selection, desk => some (request, desk.select selection)
  | .imageResize request, desk => if request = [] then none else some (request, desk)
  | _, _ => none

/-- What holds of every size that is entered by an action. -/
def AtEntry (wanted : World Pixels → Text → ResizeDesk Pixels → Prop)
    (action : ComboAction Pixels) (desk : ResizeDesk Pixels) : Prop :=
  ∀ entered, action.event.entry desk = some entered →
    wanted action.world entered.1 entered.2

/-! ## One entry -/

section Entry

variable (resizer : Resizer Pixels) (display : Display Pixels) (world : World Pixels)

theorem onResizeChange_empty (desk : ResizeDesk Pixels) :
    desk.onResizeChange resizer display world .empty =
      if desk.combo.selection > 0 then
        (desk.resize resizer display world desk.combo.stringSelection).map fun resized =>
          resized.1.select desk.combo.selection
      else some desk := by
  unfold ResizeDesk.onResizeChange
  rw [if_neg (show ¬CommandEvent.empty.id = widgetRatioCombo by decide)]

/-- The desk after a size has been accepted and appended. -/
def ResizeDesk.entered (request : Text) (after : Screen Pixels) (desk : ResizeDesk Pixels) :
    ResizeDesk Pixels :=
  ⟨desk.combo.append request, after, desk.scalings ++ [request]⟩

theorem onResizeEnter_accepted {request : Text} {desk : ResizeDesk Pixels}
    {after : Screen Pixels}
    (first : desk.screen.resize resizer display world request = some (after, true)) :
    desk.onResizeEnter resizer display world request =
      ((desk.entered request after).onResizeChange resizer display world .empty).map
        fun changed => changed.select 0 := by
  have resized : desk.resize resizer display world request =
      some ({ desk with screen := after, scalings := desk.scalings ++ [request] }, true) := by
    unfold ResizeDesk.resize
    rw [first]
    rfl
  unfold ResizeDesk.onResizeEnter
  rw [resized]
  rfl

/-- The second `Resize` leaves the screen and the record as they are exactly when it refuses. -/
theorem resize_again_iff (desk : ResizeDesk Pixels) (request : Text) :
    ((desk.resize resizer display world request).map fun resized =>
        (resized.1.screen, resized.1.scalings)) = some (desk.screen, desk.scalings) ↔
      desk.screen.Rejects resizer display world request := by
  unfold ResizeDesk.resize Screen.Rejects
  cases second : desk.screen.resize resizer display world request with
  | none => exact iff_of_false (fun same => by cases same) (fun same => by cases same)
  | some resized =>
      obtain ⟨after, accepted⟩ := resized
      rcases (resize_eq_some_iff resizer display world request _ after accepted).mp second with
        ⟨-, same, refused⟩ | ⟨destWidth, destHeight, -, -, scaled⟩
      · rw [refused, same]
        exact iff_of_true rfl rfl
      · rw [scaled]
        constructor
        · intro same
          have longer := congrArg (fun pair => pair.2.length) (Option.some.inj same)
          simp at longer
        · intro same
          exact Bool.noConfusion (congrArg Prod.snd (Option.some.inj same))

/-- A size is resized to once exactly when nothing else is selected. -/
theorem entersOnce_iff (request : Text) (desk : ResizeDesk Pixels) :
    desk.EntersOnce resizer display world request ↔
      desk.Unselected resizer display world request := by
  unfold ResizeDesk.EntersOnce ResizeDesk.Unselected
  cases first : desk.screen.resize resizer display world request with
  | none =>
      refine iff_of_true ?_ (.inr fun destWidth destHeight size => ?_)
      · simp [ResizeDesk.onResizeEnter, ResizeDesk.resize, first]
      · unfold Screen.resize at first
        rw [size] at first
        cases first
  | some resized =>
      obtain ⟨after, accepted⟩ := resized
      rcases (resize_eq_some_iff resizer display world request _ after accepted).mp first with
        ⟨refused, -, rfl⟩ | ⟨destWidth, destHeight, size, scaled, rfl⟩
      · refine iff_of_true ?_ (.inr fun destWidth destHeight size => ?_)
        · simp [ResizeDesk.onResizeEnter, ResizeDesk.resize, first, ResizeDesk.select]
        · cases refused.symm.trans size
      · have once : (desk.resize resizer display world request).map (fun resized =>
            (resized.1.screen, resized.1.scalings)) =
              some (after, desk.scalings ++ [request]) := by
          unfold ResizeDesk.resize
          rw [first]
          rfl
        have appended : (desk.entered request after).combo.selection = desk.combo.selection :=
          rfl
        rw [once, onResizeEnter_accepted resizer display world first, onResizeChange_empty,
          appended]
        by_cases selected : desk.combo.selection > 0
        · have again := resize_again_iff resizer display world (desk.entered request after)
            (desk.combo.append request).stringSelection
          rw [if_pos selected, Option.map_map, Option.map_map]
          refine (again.trans (resize_rejects_iff resizer display world _ _)).trans ?_
          constructor
          · intro refused
            right
            intro otherWidth otherHeight same
            cases size.symm.trans same
            rw [← scaled]
            exact refused
          · rintro (unselected | refused)
            · exact absurd selected (not_lt.mpr unselected)
            · have rejects := refused destWidth destHeight size
              rw [← scaled] at rejects
              exact rejects
        · rw [if_neg selected]
          exact iff_of_true rfl (.inl (not_lt.mp selected))

/-! ## What one entry does -/

theorem resize_image (wx : Wx Pixels) (env : Environment Pixels) (destWidth destHeight : Int)
    (frame : Frame Pixels) :
    (Editing.resize wx env destWidth destHeight frame).image.map Image.pixels =
      frame.image.map fun image => (wx.transform (.scale destWidth destHeight) image).pixels := by
  have scaled (saved : Options) (image : Option (Image Pixels)) :
      (withImageOptions saved (image.map (wx.transform (.scale destWidth destHeight)))).map
          Image.pixels =
        image.map fun image => (wx.transform (.scale destWidth destHeight) image).pixels := by
    unfold withImageOptions
    rw [Option.map_map, Option.map_map]
    rfl
  refine resize_elim (motive := fun begun last => begun.image = frame.image →
    last.image.map Image.pixels = frame.image.map fun image =>
      (wx.transform (.scale destWidth destHeight) image).pixels) ?_ ?_
    beginImageManip_image
  · intro begun _ same
    rw [← same]
    exact scaled begun.imageOpts begun.image
  · intro begun _ same
    rw [← same]
    exact scaled begun.imageOpts begun.image

/-- One call of `Resize` sets at most one undo point. -/
theorem undoPoints_scaleImage (destWidth destHeight : Int) (screen : Screen Pixels) :
    undoPoints screen.frame (screen.scaleImage display world destWidth destHeight).frame ≤ 1 := by
  have calls := @resize_calls _ display.toWx (world.environment screen.box) screen.frame destWidth
    destHeight
  have same : undoPoints screen.frame (screen.scaleImage display world destWidth destHeight).frame =
      undoPoints screen.frame (imageUndoPoint (world.environment screen.box) screen.frame) := by
    unfold undoPoints added Screen.scaleImage
    rw [calls]
  rw [same]
  by_cases opened : screen.frame.sOriginalFilename = noFile
  · have unmarked : imageUndoPoint (world.environment screen.box) screen.frame = screen.frame :=
      if_pos opened
    rw [undoPoints_of_calls_eq (congrArg Frame.calls unmarked)]
    exact zero_le_one
  · exact (undoPoints_imageUndoPoint opened).le

/-- A size that is entered once is refused and leaves the screen, or scales the image to the size
that is asked for with at most one undo point. -/
theorem ResizeDesk.EntersOnce.effect {request : Text} {desk after : ResizeDesk Pixels}
    (once : desk.EntersOnce resizer display world request)
    (entered : desk.onResizeEnter resizer display world request = some after) :
    (after.screen = desk.screen ∧ after.scalings = desk.scalings) ∨
      ∃ destWidth destHeight,
        destination resizer.toRequestReader searchTests
            (desk.screen.resizeContext resizer display) request =
          some (.size destWidth destHeight) ∧
        after.screen.frame.image.map Image.pixels = desk.screen.frame.image.map (fun image =>
          (display.transform (.scale destWidth destHeight) image).pixels) ∧
        undoPoints desk.screen.frame after.screen.frame ≤ 1 ∧
        after.scalings = desk.scalings ++ [request] := by
  unfold ResizeDesk.EntersOnce ResizeDesk.resize at once
  rw [entered, Option.map_map] at once
  obtain ⟨⟨screen, accepted⟩, ran, pair⟩ := Option.map_eq_some_iff.mp once.symm
  have scalings := congrArg Prod.snd pair
  have same : screen = after.screen := congrArg Prod.fst pair
  rcases (resize_eq_some_iff resizer display world request _ screen accepted).mp ran with
    ⟨-, kept, rfl⟩ | ⟨destWidth, destHeight, size, scaled, rfl⟩
  · exact .inl ⟨same.symm.trans kept, scalings.symm⟩
  · rw [← same, scaled]
    exact .inr ⟨destWidth, destHeight, size, resize_image _ _ _ _ _,
      undoPoints_scaleImage display world destWidth destHeight desk.screen, scalings.symm⟩

end Entry

/-- In every run, each size that is entered is resized to once exactly when, each time, nothing
else is selected. -/
theorem entries_once_iff (resizer : Resizer Pixels) (display : Display Pixels)
    (actions : List (ComboAction Pixels)) (start : ResizeDesk Pixels) :
    Admitted (ResizeDesk.perform resizer display)
        (AtEntry fun world request desk => desk.EntersOnce resizer display world request)
        actions start ↔
      Admitted (ResizeDesk.perform resizer display)
        (AtEntry fun world request desk => desk.Unselected resizer display world request)
        actions start :=
  admitted_congr (fun action _ => forall_congr' fun entered => imp_congr_right fun _ =>
    entersOnce_iff resizer display action.world entered.1 entered.2) actions start

/-! ## Runs that choose nothing -/

/-- Nothing but the first entry is chosen, or left selected by typing. -/
def ComboEvent.ChoosesNothing : ComboEvent Pixels → Prop
  | .choose selection | .enter _ selection => selection ≤ 0
  | .imageResize _ | .imageLoad _ | .configure _ | .operate _ => True

section Unchosen

variable {resizer : Resizer Pixels} {display : Display Pixels}

/-- Entering a size selects the first entry. -/
theorem onResizeEnter_selection {world : World Pixels} {request : Text}
    {desk after : ResizeDesk Pixels}
    (entered : desk.onResizeEnter resizer display world request = some after) :
    after.combo.selection = 0 := by
  unfold ResizeDesk.onResizeEnter at entered
  obtain ⟨resized, -, entered⟩ := Option.bind_eq_some_iff.mp entered
  obtain ⟨changed, -, selected⟩ := Option.map_eq_some_iff.mp entered
  cases selected
  rfl

/-- Without a choice nothing but the first entry gets selected. -/
theorem perform_selection {action : ComboAction Pixels} {desk after : ResizeDesk Pixels}
    (chooses : action.event.ChoosesNothing)
    (executed : desk.perform resizer display action = some after)
    (unselected : desk.combo.selection ≤ 0) : after.combo.selection ≤ 0 := by
  obtain ⟨event, world⟩ := action
  cases event with
  | choose selection =>
      have nothing : ¬(desk.select selection).combo.selection > 0 := not_lt.mpr chooses
      have kept : (desk.select selection).onResizeChange resizer display world
          ⟨widgetResizeCombo, selection⟩ = some (desk.select selection) := if_neg nothing
      cases kept.symm.trans executed
      exact chooses
  | enter request selection => exact (onResizeEnter_selection executed).le
  | imageResize request =>
      by_cases empty : request = []
      · have kept : desk.onImageResize resizer display world request = some desk := if_pos empty
        cases kept.symm.trans executed
        exact unselected
      · have entered : desk.onImageResize resizer display world request =
            desk.onResizeEnter resizer display world request := if_neg empty
        exact (onResizeEnter_selection (entered.symm.trans executed)).le
  | imageLoad screen =>
      cases executed
      exact le_rfl
  | configure items =>
      cases executed
      show (-1 : Int) ≤ 0
      decide
  | operate screen =>
      cases executed
      exact unselected

/-- As long as nothing is chosen from the list, every size is resized to once. -/
theorem unchosen_entersOnce {start desk : ResizeDesk Pixels}
    (run : Run (ResizeDesk.perform resizer display)
      (fun action _ => action.event.ChoosesNothing) start desk)
    (unselected : start.combo.selection ≤ 0) (world : World Pixels) (request : Text) :
    desk.EntersOnce resizer display world request :=
  (entersOnce_iff resizer display world request desk).mpr
    (.inl (run.invariant perform_selection unselected))

end Unchosen

/-! ## A run of one choice and one entry -/

/-- Images that are their size. -/
def sizeDisplay : Display (Nat × Nat) where
  decode := fun _ => none
  loadFailed := id
  encode := fun _ _ => none
  transform := fun transform image =>
    match transform with
    | .scale width height => { image with pixels := (width.toNat, height.toNat) }
    | _ => image
  orientation := fun _ => none
  toBytes := fun _ => []
  ofBytes := fun _ => []
  size := Image.pixels
  inclinedSize := fun _ _ _ size => (size.1, size.2)

def sizeResizer : Resizer (Nat × Nat) where
  toRequestReader := decimalReader 64
  fileSizes := fun _ => ⟨fun _ => 1, 1⟩

def sizeWorld : World (Nat × Nat) := fun _ =>
  { sampleEnv 10 (emptyFrame sampleFiles) with
    bAutoSelectMax := false
    wrjpgcomReturns := fun _ _ => true }

/-- A photo of 640 by 480 with three sizes to choose from. -/
def sizeDesk : ResizeDesk (Nat × Nat) where
  combo := ⟨["Select new size".toList, "50% (Percentage)".toList, "800x0 (With ratio)".toList], 0⟩
  screen :=
    { frame :=
        { emptyFrame sampleFiles with
          sOriginalFilename := photoA
          sFilename := photoA
          image := some ⟨(640, 480), []⟩ }
      box := sampleBox .realSize 1 ⟨0, 0⟩ ⟨0, 0⟩ }
  scalings := []

/-- The desk after 50% has been chosen. -/
def halvedDesk : ResizeDesk (Nat × Nat) :=
  (ResizeDesk.perform sizeResizer sizeDisplay ⟨.choose 1, sizeWorld⟩ sizeDesk).getD sizeDesk

/-- A size entered while 50% is selected is halved. -/
theorem entered_size_halved :
    (halvedDesk.onImageResize sizeResizer sizeDisplay sizeWorld "200x150".toList).bind
        (fun desk => desk.screen.frame.image.map Image.pixels) = some (100, 75) ∧
      ¬Admitted (ResizeDesk.perform sizeResizer sizeDisplay)
        (AtEntry fun world request desk =>
          desk.EntersOnce sizeResizer sizeDisplay world request)
        [⟨.choose 1, sizeWorld⟩, ⟨.imageResize "200x150".toList, sizeWorld⟩] sizeDesk := by
  refine ⟨by decide +kernel, fun admitted => ?_⟩
  have chosen : ResizeDesk.perform sizeResizer sizeDisplay ⟨.choose 1, sizeWorld⟩ sizeDesk =
      some halvedDesk := rfl
  have once := (admitted.2 halvedDesk chosen).1 ("200x150".toList, halvedDesk) rfl
  have counts := congrArg (Option.map fun pair => pair.2.length) once
  exact absurd counts (by decide +kernel)

end RPhoto.Editing
