import RPhoto.Editing.Screen
import RPhoto.Tracker.CheckedAdjust

/-!
# Undo and redo on the screen

The two lists with whole entries: a snapshot holds the rectangles of both trackers
and the scale setting besides the document.  An undo saves them and sends those of
the restored snapshot through the setters of the image box; an action leaves the box
alone.  The document of the screen is the one that the frame alone would have.
-/

namespace RPhoto.Editing

open RPhoto.Jpeg RPhoto.Library RPhoto.Tracker

variable {Pixels : Type}

/-- An entry of the lists, with its fields for the image box. -/
inductive ScreenUndo (Pixels : Type) where
  | image (snapshot : ScreenImage Pixels)
  | move (action : RpMove)

/-- The entry without them. -/
def ScreenUndo.entry : ScreenUndo Pixels → RpUndo Pixels
  | image snapshot => .image snapshot.toRpImage
  | move action => .move action

/-- The screen with the whole entries of `m_HistoryUndo` and `m_HistoryRedo`. -/
structure ScreenHistory (Pixels : Type) extends Screen Pixels where
  undoEntries : List (ScreenUndo Pixels)
  redoEntries : List (ScreenUndo Pixels)
  undo_eq : undoEntries.map ScreenUndo.entry = frame.historyUndo
  redo_eq : redoEntries.map ScreenUndo.entry = frame.historyRedo

/-- What an undo or a redo of an entry adds to the other list. -/
def carried (document : Document Pixels) : Option (RpUndo Pixels) → List (RpUndo Pixels)
  | none => []
  | some (.image _) => [.image (.save document)]
  | some (.move action) => [.image (.save document), .move action]

section Frame

variable (wx : Wx Pixels) (env : Environment Pixels) (frame : Frame Pixels)

theorem onImageUndo_historyUndo :
    (onImageUndo wx env frame).historyUndo = frame.historyUndo.dropLast := by
  unfold onImageUndo
  split
  · rename_i empty
    rw [List.getLast?_eq_none_iff.mp empty]
    rfl
  · dsimp only
    split <;> rfl
  · rfl

theorem onImageUndo_historyRedo :
    (onImageUndo wx env frame).historyRedo =
      frame.historyRedo ++ carried frame.toDocument frame.historyUndo.getLast? := by
  unfold onImageUndo
  split
  · rename_i empty
    rw [empty]
    exact (List.append_nil _).symm
  · rename_i snapshot newest
    rw [newest]
    dsimp only
    split
    · rename_i restored known
      unfold RpImage.restore at known
      split at known
      · cases known
        rfl
      · cases known
    · rfl
  · rename_i action newest
    rw [newest]
    exact List.append_assoc ..

theorem onImageRedo_historyRedo :
    (onImageRedo wx env frame).historyRedo = frame.historyRedo.dropLast := by
  unfold onImageRedo
  split
  · rename_i empty
    rw [List.getLast?_eq_none_iff.mp empty]
    rfl
  · dsimp only
    split <;> rfl
  · rfl

theorem onImageRedo_historyUndo :
    (onImageRedo wx env frame).historyUndo =
      frame.historyUndo ++ carried frame.toDocument frame.historyRedo.getLast? := by
  unfold onImageRedo
  split
  · rename_i empty
    rw [empty]
    exact (List.append_nil _).symm
  · rename_i snapshot newest
    rw [newest]
    dsimp only
    split
    · rename_i restored known
      unfold RpImage.restore at known
      split at known
      · cases known
        rfl
      · cases known
    · rfl
  · rename_i action newest
    rw [newest]
    exact List.append_assoc ..

end Frame

namespace ScreenHistory

/-- The box after `restore` of an entry; a snapshot that has lost a file leaves it alone. -/
def restoredBox (wx : Wx Pixels) (size : Image Pixels → Nat × Nat) (screen : Screen Pixels) :
    Option (ScreenUndo Pixels) → DisplayBox
  | some (.image snapshot) =>
      if snapshot.FilesExist screen.frame.files then
        snapshot.restoreBox wx size screen.frame.files screen.box
      else screen.box
  | some (.move _) | none => screen.box

/-- What goes to the other list: a snapshot of the screen, and an action that is restored. -/
def carriedEntries (screen : Screen Pixels) :
    Option (ScreenUndo Pixels) → List (ScreenUndo Pixels)
  | none => []
  | some (.image _) => [.image (.save screen)]
  | some (.move action) => [.image (.save screen), .move action]

theorem carriedEntries_entry (screen : Screen Pixels) (newest : Option (ScreenUndo Pixels)) :
    (carriedEntries screen newest).map ScreenUndo.entry =
      carried screen.frame.toDocument (newest.map ScreenUndo.entry) := by
  cases newest with
  | none => rfl
  | some entry => cases entry <;> rfl

/-- `OnImageUndo`. -/
def onImageUndo (wx : Wx Pixels) (size : Image Pixels → Nat × Nat) (env : Environment Pixels)
    (history : ScreenHistory Pixels) : ScreenHistory Pixels where
  frame := Editing.onImageUndo wx env history.frame
  box := restoredBox wx size history.toScreen history.undoEntries.getLast?
  undoEntries := history.undoEntries.dropLast
  redoEntries := history.redoEntries ++
    carriedEntries history.toScreen history.undoEntries.getLast?
  undo_eq := by
    rw [onImageUndo_historyUndo, List.map_dropLast, history.undo_eq]
  redo_eq := by
    rw [onImageUndo_historyRedo, List.map_append, history.redo_eq, carriedEntries_entry,
      ← List.getLast?_map, history.undo_eq]

/-- `OnImageRedo`. -/
def onImageRedo (wx : Wx Pixels) (size : Image Pixels → Nat × Nat) (env : Environment Pixels)
    (history : ScreenHistory Pixels) : ScreenHistory Pixels where
  frame := Editing.onImageRedo wx env history.frame
  box := restoredBox wx size history.toScreen history.redoEntries.getLast?
  undoEntries := history.undoEntries ++
    carriedEntries history.toScreen history.redoEntries.getLast?
  redoEntries := history.redoEntries.dropLast
  undo_eq := by
    rw [onImageRedo_historyUndo, List.map_append, history.undo_eq, carriedEntries_entry,
      ← List.getLast?_map, history.redo_eq]
  redo_eq := by
    rw [onImageRedo_historyRedo, List.map_dropLast, history.redo_eq]

/-- Undo and redo restore a snapshot as `rpImage::restore` does. -/
theorem restore_toScreen {wx : Wx Pixels} {size : Image Pixels → Nat × Nat}
    {screen restored : Screen Pixels} {snapshot : ScreenImage Pixels}
    (returned : snapshot.restore wx size screen = some restored) :
    restoredBox wx size screen (some (.image snapshot)) = restored.box := by
  unfold ScreenImage.restore RpImage.restore at returned
  unfold restoredBox RpImage.FilesExist
  split at returned
  · rename_i filesExist
    cases returned
    exact if_pos filesExist
  · cases returned

/-- A frame whose snapshots all have the same rectangles and scale setting. -/
def ofFrame (frame : Frame Pixels) (box : DisplayBox) (rectTracker lineTracker : Rect)
    (scale : ScaleSetting) : ScreenHistory Pixels where
  frame := frame
  box := box
  undoEntries := frame.historyUndo.map fun
    | .image snapshot => .image ⟨snapshot, rectTracker, lineTracker, scale⟩
    | .move action => .move action
  redoEntries := frame.historyRedo.map fun
    | .image snapshot => .image ⟨snapshot, rectTracker, lineTracker, scale⟩
    | .move action => .move action
  undo_eq := by
    rw [List.map_map]
    refine List.map_id'' (fun entry => ?_) _
    cases entry <;> rfl
  redo_eq := by
    rw [List.map_map]
    refine List.map_id'' (fun entry => ?_) _
    cases entry <;> rfl

end ScreenHistory

end RPhoto.Editing
