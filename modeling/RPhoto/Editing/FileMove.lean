import RPhoto.Editing.UndoHistory

/-!
# Moving and renaming the photo

`OnFileMove` and `OnFileNameEndEdit` rename the photo on disk at once and put the
action into the undo list.  Neither clears the redo list.
-/

namespace RPhoto.Editing

open RPhoto.Library

variable {Pixels : Type}

/-- Carry out a move and remember it. -/
def performMove (env : Environment Pixels) (move : RpMove) (frame : Frame Pixels) :
    Frame Pixels :=
  let frame := move.save env frame
  updateControlsState { frame with historyUndo := frame.historyUndo ++ [.move move] }

/-- The destination of a move into a folder: the folder with the name of the photo. -/
def moveDestination (folder : List String) (document : Document Pixels) : FileName :=
  ⟨folder, document.sOriginalFilename.fullName⟩

/-- `OnFileMove`, with the folder selected in the move tree, if any. -/
def onFileMove (env : Environment Pixels) (folder : Option (List String))
    (frame : Frame Pixels) : Frame Pixels :=
  match folder with
  | none => frame
  | some folder =>
      performMove env ⟨frame.sOriginalFilename, moveDestination folder frame.toDocument⟩ frame

/--
`OnFileNameEndEdit` for the item of the photo, with the path of the tree and the
new label; the result tells whether the label was vetoed.  An existing file of the
new name is reported and vetoed, but the renaming goes on.
-/
def onFileNameEndEdit (env : Environment Pixels) (treePath : FileName) (label : String)
    (frame : Frame Pixels) : Frame Pixels × Bool :=
  let frame := { frame with isFileLoading := false }
  if isIllegalLabel label then (frame, true)
  else
    let newName : FileName := ⟨treePath.path, label⟩
    let vetoed := decide (frame.files.Holds newName)
    (performMove env ⟨frame.sOriginalFilename, newName⟩ frame, vetoed)

end RPhoto.Editing
