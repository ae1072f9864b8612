import RPhoto.Editing.SampleWorld

/-!
# Moves and the files on disk

A move, a renaming, and the undo or redo of one of them, all end in one call of
`wxRenameFile`.  The call destroys a file exactly when it finds another file at
the destination, which none of the four handlers prevents.
-/

namespace RPhoto.Editing

open RPhoto.Library

variable {Pixels : Type}

/-- What a move may do to the files: at most bring the source to an empty destination. -/
structure MoveSafe (source destination : FileName)
    (before after : FileStore FileName Jpeg.Bytes) : Prop where
  others : ∀ path, path ≠ source → path ≠ destination →
    after.content path = before.content path
  kept : ∀ data, before.content source = some data →
    after.content source = some data ∨ after.content destination = some data
  refused : before.Holds destination → ∀ path, after.content path = before.content path

/-- The operations that move the photo on disk. -/
inductive MoveOperation where
  | fileMove (folder : List String)
  | fileNameEndEdit (treePath : FileName) (label : String)
  | imageUndo
  | imageRedo

/-- The event of a move operation. -/
def MoveOperation.event : MoveOperation → Event
  | .fileMove folder => .fileMove (some folder)
  | .fileNameEndEdit treePath label => .fileNameEndEdit treePath label
  | .imageUndo => .imageUndo
  | .imageRedo => .imageRedo

/-- The source and the destination of the rename an operation asks for, if it moves the photo. -/
def MoveOperation.request (operation : MoveOperation) (document : Document Pixels) :
    Option (FileName × FileName) :=
  match operation with
  | .fileMove folder => some (document.sOriginalFilename, moveDestination folder document)
  | .fileNameEndEdit treePath label =>
      if isIllegalLabel label then none
      else some (document.sOriginalFilename, ⟨treePath.path, label⟩)
  | .imageUndo =>
      match document.historyUndo.getLast? with
      | some (.move action) => some (action.sDestFilename, action.sSourceFilename)
      | _ => none
  | .imageRedo =>
      match document.historyRedo.getLast? with
      | some (.move action) => some (action.sDestFilename, action.sSourceFilename)
      | _ => none

/-- The frame in which the operation calls `wxRenameFile`. -/
def MoveOperation.renameFrame (operation : MoveOperation) (frame : Frame Pixels) :
    Frame Pixels :=
  match operation with
  | .fileMove _ => { frame with isFileLoading := true }
  | .fileNameEndEdit _ _ => { frame with isFileLoading := true }
  | .imageUndo => { appendRedo frame with isFileLoading := true }
  | .imageRedo => { appendUndo frame with isFileLoading := true }

/-- The files after a move operation: one rename, unless the system refuses it. -/
theorem perform_move_files (wx : Wx Pixels) (env : Environment Pixels) (fuel : Nat)
    {operation : MoveOperation} {frame after : Frame Pixels} {source destination : FileName}
    (request : operation.request frame.toDocument = some (source, destination))
    (performed : perform wx ⟨operation.event, env, fuel⟩ frame = some after) :
    after.files =
      if (env (operation.renameFrame frame)).renameFails then frame.files
      else frame.files.rename source destination := by
  cases operation with
  | fileMove folder =>
      cases request
      cases performed
      rfl
  | fileNameEndEdit treePath label =>
      simp only [MoveOperation.request] at request
      split at request
      · cases request
      · rename_i legal
        cases request
        simp only [MoveOperation.event, perform, onFileNameEndEdit, if_neg legal,
          Option.some.injEq] at performed
        subst performed
        rfl
  | imageUndo =>
      simp only [MoveOperation.request] at request
      split at request
      · rename_i action newest
        cases request
        simp only [MoveOperation.event, perform, onImageUndo, newest, Option.some.injEq]
          at performed
        subst performed
        rfl
      · cases request
  | imageRedo =>
      simp only [MoveOperation.request] at request
      split at request
      · rename_i action newest
        cases request
        simp only [MoveOperation.event, perform, onImageRedo, newest, Option.some.injEq]
          at performed
        subst performed
        rfl
      · cases request

theorem MoveSafe.refl (source destination : FileName)
    (files : FileStore FileName Jpeg.Bytes) : MoveSafe source destination files files where
  others := fun _ _ _ => rfl
  kept := fun _ present => .inl present
  refused := fun _ _ => rfl

/-- Renaming to an empty destination is safe. -/
theorem moveSafe_rename {files : FileStore FileName Jpeg.Bytes} {source destination : FileName}
    (different : source ≠ destination) (free : ¬ files.Holds destination) :
    MoveSafe source destination files (files.rename source destination) where
  others := fun _ notSource notDestination =>
    FileStore.rename_content_of_ne notSource notDestination
  kept := fun _ present => .inr (FileStore.rename_content_destination different present)
  refused := fun held => absurd held free

/-- Renaming over another file is not safe. -/
theorem not_moveSafe_rename {files : FileStore FileName Jpeg.Bytes}
    {source destination : FileName} (different : source ≠ destination)
    (present : files.Holds source) (clash : files.Holds destination) :
    ¬ MoveSafe source destination files (files.rename source destination) := by
  intro safe
  have unchanged := safe.refused clash source
  rw [FileStore.rename_content_source different present] at unchanged
  exact present unchanged.symm

/--
A move, a renaming, and the undo or redo of one of them keep every file exactly
when they do not rename the photo over another file.
-/
theorem move_safe_iff (wx : Wx Pixels) (env : Environment Pixels) (fuel : Nat)
    {operation : MoveOperation} {frame after : Frame Pixels} {source destination : FileName}
    (request : operation.request frame.toDocument = some (source, destination))
    (performed : perform wx ⟨operation.event, env, fuel⟩ frame = some after) :
    MoveSafe source destination frame.files after.files ↔
      ¬ (source ≠ destination ∧ frame.files.Holds source ∧ frame.files.Holds destination ∧
        (env (operation.renameFrame frame)).renameFails = false) := by
  rw [perform_move_files wx env fuel request performed]
  by_cases fails : (env (operation.renameFrame frame)).renameFails = true
  · simpa [fails] using MoveSafe.refl source destination frame.files
  · have allowed : (env (operation.renameFrame frame)).renameFails = false := by simpa using fails
    rw [if_neg fails]
    by_cases same : source = destination
    · subst same
      simpa using MoveSafe.refl source source frame.files
    · by_cases present : frame.files.Holds source
      · by_cases clash : frame.files.Holds destination
        · simp only [same, present, clash, allowed, ne_eq, not_false_eq_true, and_self,
            not_true_eq_false, iff_false]
          exact not_moveSafe_rename same present clash
        · simpa [clash] using moveSafe_rename same clash
      · have absent : frame.files.content source = none := not_not.mp present
        rw [FileStore.rename_of_absent absent]
        simpa [present] using MoveSafe.refl source destination frame.files

/-- The condition at work: moving a photo into a folder without a file of its name. -/
theorem move_safe_to_free_folder :
    MoveSafe photoA ⟨["c"], "p.jpg"⟩ (sampleFrame 10 [.imageLoad photoA true]).files
      (sampleFrame 10 [.imageLoad photoA true, .fileMove (some ["c"])]).files :=
  (@move_safe_iff _ sampleWx (sampleEnv 10) 3 (.fileMove ["c"])
    (sampleFrame 10 [.imageLoad photoA true]) _ _ _ rfl rfl).mpr (by decide)

/-- A photo moved into a folder with a file of its name replaces that file. -/
theorem move_over_existing_file :
    ∃ frame after : Frame Jpeg.Bytes,
      sampleRun 10 [.imageLoad photoA true] = some frame ∧
      perform sampleWx ⟨.fileMove (some ["b"]), sampleEnv 10, 3⟩ frame = some after ∧
      frame.files.content photoB = some [2] ∧
      after.files.content photoB = some [1] ∧
      ¬ MoveSafe photoA photoB frame.files after.files := by
  refine ⟨_, _, rfl, rfl, by decide, by decide, fun safe => ?_⟩
  exact absurd (safe.refused (by decide) photoB) (by decide)

end RPhoto.Editing
