import RPhoto.Editing.MoveSafety

/-!
# Renames that fail

None of the handlers that move the photo looks at the result of `wxRenameFile`.
When it fails, the photo stays where it was, but the document takes the new name
and the move goes from one list to the other as if it had been done.
-/

namespace RPhoto.Editing

open RPhoto.Jpeg RPhoto.Library

variable {Pixels : Type}

/-- The move an entry stands for. -/
def RpUndo.action : RpUndo Pixels → Option RpMove
  | .image _ => none
  | .move action => some action

/-- The moves that a list records as done or as undone. -/
def recordedMoves (entries : List (RpUndo Pixels)) : List RpMove :=
  entries.filterMap RpUndo.action

theorem recordedMoves_append (front back : List (RpUndo Pixels)) :
    recordedMoves (front ++ back) = recordedMoves front ++ recordedMoves back :=
  List.filterMap_append

/-- What a rename that fails is to leave as it was. -/
structure Unmoved (before after : Document Pixels) : Prop where
  sOriginalFilename : after.sOriginalFilename = before.sOriginalFilename
  sFilename : after.sFilename = before.sFilename
  photo : after.files.content after.sOriginalFilename =
    before.files.content before.sOriginalFilename
  undo : recordedMoves after.historyUndo = recordedMoves before.historyUndo
  redo : recordedMoves after.historyRedo = recordedMoves before.historyRedo

/-- `wxRenameFile` reports a failure: the system refuses the rename, or there is no source. -/
def RenameFails (env : Environment Pixels) (operation : MoveOperation) (frame : Frame Pixels)
    (source : FileName) : Prop :=
  (env (operation.renameFrame frame)).renameFails = true ∨ ¬frame.files.Holds source

variable {wx : Wx Pixels} {env : Environment Pixels} {fuel : Nat} {operation : MoveOperation}
  {frame after : Frame Pixels} {source destination : FileName}

/-- Carrying out a move leaves its name in the document and its entry in the undo list. -/
theorem performMove_records (env : Environment Pixels) (move : RpMove) (frame : Frame Pixels) :
    (performMove env move frame).sOriginalFilename = move.sDestFilename ∧
      recordedMoves (performMove env move frame).historyUndo =
        recordedMoves frame.historyUndo ++ [move] :=
  ⟨rfl, recordedMoves_append frame.historyUndo [.move move]⟩

/-- A move operation takes the name of the destination and records a move at the end of a list. -/
theorem perform_move_records
    (request : operation.request frame.toDocument = some (source, destination))
    (performed : perform wx ⟨operation.event, env, fuel⟩ frame = some after) :
    after.sOriginalFilename = destination ∧ ∃ action,
      recordedMoves after.historyUndo = recordedMoves frame.historyUndo ++ [action] ∨
        recordedMoves after.historyRedo = recordedMoves frame.historyRedo ++ [action] := by
  cases operation with
  | fileMove folder =>
      cases request
      cases performed
      have done := performMove_records env
        ⟨frame.sOriginalFilename, moveDestination folder frame.toDocument⟩ frame
      exact ⟨done.1, _, .inl done.2⟩
  | fileNameEndEdit treePath label =>
      simp only [MoveOperation.request] at request
      split at request
      · cases request
      · rename_i legal
        cases request
        simp only [MoveOperation.event, perform, onFileNameEndEdit, if_neg legal,
          Option.some.injEq] at performed
        subst performed
        have done := performMove_records env
          ⟨frame.sOriginalFilename, ⟨treePath.path, label⟩⟩ { frame with isFileLoading := false }
        exact ⟨done.1, _, .inl done.2⟩
  | imageUndo =>
      simp only [MoveOperation.request] at request
      split at request
      · rename_i action newest
        cases request
        simp only [MoveOperation.event, perform, onImageUndo, newest, Option.some.injEq]
          at performed
        subst performed
        refine ⟨rfl, action, .inr ?_⟩
        -- the snapshot that was put into the redo list first is not a move
        show recordedMoves ((frame.historyRedo ++ [_]) ++ [_]) = _
        rw [recordedMoves_append, recordedMoves_append]
        exact congrArg (· ++ [action]) (List.append_nil _)
      · cases request
  | imageRedo =>
      simp only [MoveOperation.request] at request
      split at request
      · rename_i action newest
        cases request
        simp only [MoveOperation.event, perform, onImageRedo, newest, Option.some.injEq]
          at performed
        subst performed
        refine ⟨rfl, action, .inl ?_⟩
        show recordedMoves ((frame.historyUndo ++ [_]) ++ [_]) = _
        rw [recordedMoves_append, recordedMoves_append]
        exact congrArg (· ++ [action]) (List.append_nil _)
      · cases request

/-- A rename that fails changes no file. -/
theorem perform_files_of_renameFails
    (request : operation.request frame.toDocument = some (source, destination))
    (performed : perform wx ⟨operation.event, env, fuel⟩ frame = some after)
    (failed : RenameFails env operation frame source) : after.files = frame.files := by
  rw [perform_move_files wx env fuel request performed]
  rcases failed with refused | absent
  · exact if_pos refused
  · rw [FileStore.rename_of_absent (not_not.mp absent), ite_self]

/-- One more move in either list is not what was recorded before. -/
theorem Unmoved.not_recorded {before after : Document Pixels} (unmoved : Unmoved before after)
    (action : RpMove) :
    ¬ (recordedMoves after.historyUndo = recordedMoves before.historyUndo ++ [action] ∨
        recordedMoves after.historyRedo = recordedMoves before.historyRedo ++ [action]) := by
  rintro (recorded | recorded)
  · have longer := congrArg List.length (recorded.symm.trans unmoved.undo)
    simp at longer
  · have longer := congrArg List.length (recorded.symm.trans unmoved.redo)
    simp at longer

/--
Whatever the move and whatever the reason of the failure: the files are as before,
and the document is not.  It has the name of the destination, and the move is
recorded in the undo list, or in the redo list after an undo.
-/
theorem failed_rename_moves
    (request : operation.request frame.toDocument = some (source, destination))
    (performed : perform wx ⟨operation.event, env, fuel⟩ frame = some after)
    (failed : RenameFails env operation frame source) :
    after.files = frame.files ∧ after.sOriginalFilename = destination ∧
      ¬ Unmoved frame.toDocument after.toDocument := by
  obtain ⟨renamed, action, recorded⟩ := perform_move_records request performed
  refine ⟨perform_files_of_renameFails request performed failed, renamed, ?_⟩
  intro unmoved
  exact unmoved.not_recorded action recorded

/-- The small world, with a system that refuses to rename. -/
def refusingEnv : Environment Jpeg.Bytes := fun frame =>
  { sampleEnv 10 frame with renameFails := true }

/-- A photo opened in the small world. -/
def openedSample : Frame Jpeg.Bytes := sampleFrame 10 [.imageLoad photoA true]

/-- The same photo after a move that the system refused. -/
def unmovedSample : Frame Jpeg.Bytes :=
  onFileMove refusingEnv (some ["c"]) openedSample

/-- A refused move into an empty folder. -/
theorem refused_move_moves :
    unmovedSample.files = openedSample.files ∧
      unmovedSample.sOriginalFilename = ⟨["c"], "p.jpg"⟩ ∧
      ¬ Unmoved openedSample.toDocument unmovedSample.toDocument :=
  @failed_rename_moves _ sampleWx refusingEnv 3 (.fileMove ["c"]) openedSample unmovedSample
    photoA ⟨["c"], "p.jpg"⟩ rfl rfl (.inl rfl)

/-- After a refused move the document names a file that does not exist. -/
theorem refused_move_loses_photo :
    perform sampleWx ⟨.fileMove (some ["c"]), refusingEnv, 3⟩ openedSample = some unmovedSample ∧
      openedSample.files.content openedSample.sOriginalFilename = some [1] ∧
      unmovedSample.files.content photoA = some [1] ∧
      unmovedSample.files.content unmovedSample.sOriginalFilename = none ∧
      ¬ Unmoved openedSample.toDocument unmovedSample.toDocument := by
  refine ⟨rfl, by decide, by decide, by decide, fun unmoved => ?_⟩
  exact absurd unmoved.sOriginalFilename (by decide)

end RPhoto.Editing
