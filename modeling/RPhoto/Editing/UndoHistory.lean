import RPhoto.Editing.Frame

/-!
# Undo points, undo and redo

`rpImage` and `rpMove` with their two lists.  The lists own their entries: an
entry that is dropped runs its destructor, which removes the temporary file of
a snapshot.  `bKeepFiles` is false for every entry of a list; `restore` sets it on
the entry it has put back, which is then deleted.
-/

namespace RPhoto.Editing

open RPhoto.Jpeg RPhoto.Library

variable {Pixels : Type}

/-- `rpImage::save`. -/
def RpImage.save (document : Document Pixels) : RpImage Pixels where
  sOriginalFilename := document.sOriginalFilename
  sFilename := document.sFilename
  bTemp := document.bTemp
  bDirty := document.bDirty
  bJPEGlossless := document.bJPEGlossless
  image := if document.bJPEGlossless then none else document.image
  isInclinaison := document.isInclinaison
  image_of_lossless := fun lossless => if_pos lossless

/-- `rpImage::~rpImage`. -/
def RpImage.destroy (bKeepFiles : Bool) (snapshot : RpImage Pixels)
    (files : FileStore FileName Bytes) : FileStore FileName Bytes :=
  if !bKeepFiles && snapshot.bTemp then files.remove snapshot.sFilename else files

/-- The destructor of a list entry. -/
def RpUndo.destroy (files : FileStore FileName Bytes) : RpUndo Pixels → FileStore FileName Bytes
  | .image snapshot => snapshot.destroy false files
  | .move _ => files

/-- The destructors of dropped entries, oldest first. -/
def destroyAll (entries : List (RpUndo Pixels)) (files : FileStore FileName Bytes) :
    FileStore FileName Bytes :=
  entries.foldl RpUndo.destroy files

/-- The image a snapshot puts back: a lossless one reads its file again. -/
def RpImage.restoredImage (wx : Wx Pixels) (files : FileStore FileName Bytes)
    (snapshot : RpImage Pixels) : Option (Image Pixels) :=
  if snapshot.bJPEGlossless then (files.content snapshot.sFilename).bind wx.decode
  else snapshot.image

/-- `rpImage::restore`; it gives up when one of the two files is missing. -/
def RpImage.restore (wx : Wx Pixels) (snapshot : RpImage Pixels) (frame : Frame Pixels) :
    Option (Frame Pixels) :=
  if frame.files.Holds snapshot.sOriginalFilename ∧ frame.files.Holds snapshot.sFilename then
    some <| imageUpdateExif wx <| updateControlsState
      { frame with
        sOriginalFilename := snapshot.sOriginalFilename
        sFilename := snapshot.sFilename
        bTemp := snapshot.bTemp
        bDirty := snapshot.bDirty
        bJPEGlossless := snapshot.bJPEGlossless
        image := snapshot.restoredImage wx frame.files
        isInclinaison := snapshot.isInclinaison }
  else none

/-- `wxRenameFile`, which replaces an existing destination. -/
def renameFile (env : Environment Pixels) (source destination : FileName)
    (frame : Frame Pixels) : Frame Pixels :=
  { frame with
    files := if (env frame).renameFails then frame.files
      else frame.files.rename source destination }

/-- The common body of `rpMove::save` and `rpMove::restore`. -/
def renamePhoto (env : Environment Pixels) (source destination : FileName)
    (frame : Frame Pixels) : Frame Pixels :=
  let frame := renameFile env source destination { frame with isFileLoading := true }
  { frame with
    sOriginalFilename := destination
    sFilename := if frame.sFilename = source then destination else frame.sFilename
    isFileLoading := false }

/-- `rpMove::save`. -/
def RpMove.save (env : Environment Pixels) (move : RpMove) (frame : Frame Pixels) :
    Frame Pixels :=
  renamePhoto env move.sSourceFilename move.sDestFilename frame

/-- `rpMove::restore`. -/
def RpMove.restore (env : Environment Pixels) (move : RpMove) (frame : Frame Pixels) :
    Frame Pixels :=
  renamePhoto env move.sDestFilename move.sSourceFilename frame

/-- `m_HistoryRedo.Clear`. -/
def clearRedo (frame : Frame Pixels) : Frame Pixels :=
  { frame with
    files := destroyAll frame.historyRedo frame.files
    historyRedo := [] }

/-- The loop of `imageUndoPoint` that deletes the first entries above the limit. -/
def limitUndo (limit : Nat) (frame : Frame Pixels) : Frame Pixels :=
  let excess := frame.historyUndo.length - limit
  { frame with
    files := destroyAll (frame.historyUndo.take excess) frame.files
    historyUndo := frame.historyUndo.drop excess }

/-- Append a snapshot of the document to the undo list. -/
def appendUndo (frame : Frame Pixels) : Frame Pixels :=
  { frame with historyUndo := frame.historyUndo ++ [.image (.save frame.toDocument)] }

/-- Append a snapshot of the document to the redo list. -/
def appendRedo (frame : Frame Pixels) : Frame Pixels :=
  { frame with historyRedo := frame.historyRedo ++ [.image (.save frame.toDocument)] }

/-- `imageUndoPoint`. -/
def imageUndoPoint (env : Environment Pixels) (frame : Frame Pixels) : Frame Pixels :=
  if frame.sOriginalFilename = noFile then frame
  else
    let limit := (env frame).undoHistory
    limitUndo limit (appendUndo (clearRedo (frame.record (.undoPoint limit))))

/-- `OnImageUndo`. -/
def onImageUndo (wx : Wx Pixels) (env : Environment Pixels) (frame : Frame Pixels) :
    Frame Pixels :=
  match frame.historyUndo.getLast? with
  | none => frame
  | some (.image snapshot) =>
      let frame := appendRedo frame
      match snapshot.restore wx frame with
      | some restored =>
          updateControlsState { restored with historyUndo := frame.historyUndo.dropLast }
      | none =>
          updateControlsState
            { frame with
              files := snapshot.destroy false frame.files
              historyUndo := frame.historyUndo.dropLast }
  | some (.move action) =>
      let frame := action.restore env (appendRedo frame)
      updateControlsState
        { frame with
          historyRedo := frame.historyRedo ++ [.move action]
          historyUndo := frame.historyUndo.dropLast }

/-- `OnImageRedo`; an action is restored here too, not repeated. -/
def onImageRedo (wx : Wx Pixels) (env : Environment Pixels) (frame : Frame Pixels) :
    Frame Pixels :=
  match frame.historyRedo.getLast? with
  | none => frame
  | some (.image snapshot) =>
      let frame := appendUndo frame
      match snapshot.restore wx frame with
      | some restored =>
          updateControlsState { restored with historyRedo := frame.historyRedo.dropLast }
      | none =>
          updateControlsState
            { frame with
              files := snapshot.destroy false frame.files
              historyRedo := frame.historyRedo.dropLast }
  | some (.move action) =>
      let frame := action.restore env (appendUndo frame)
      updateControlsState
        { frame with
          historyUndo := frame.historyUndo ++ [.move action]
          historyRedo := frame.historyRedo.dropLast }

/-! ## What the destructors remove -/

/-- The temporary file a snapshot removes when it is dropped. -/
def RpImage.owner (snapshot : RpImage Pixels) : Option FileName :=
  if snapshot.bTemp then some snapshot.sFilename else none

/-- The temporary file an entry removes when it is dropped. -/
def RpUndo.owner : RpUndo Pixels → Option FileName
  | .image snapshot => snapshot.owner
  | .move _ => none

theorem RpUndo.destroy_eq (files : FileStore FileName Bytes) (entry : RpUndo Pixels) :
    RpUndo.destroy files entry =
      match entry.owner with
      | some name => files.remove name
      | none => files := by
  cases entry with
  | image snapshot =>
      cases temp : snapshot.bTemp <;>
        simp [RpUndo.destroy, RpImage.destroy, RpUndo.owner, RpImage.owner, temp]
  | move action => rfl

@[simp]
theorem written_destroyAll (entries : List (RpUndo Pixels)) (files : FileStore FileName Bytes) :
    (destroyAll entries files).written = files.written := by
  induction entries generalizing files with
  | nil => rfl
  | cons entry rest ih =>
      refine (ih _).trans ?_
      rw [RpUndo.destroy_eq]
      split <;> simp

/-- What is on disk after the destructors was there before. -/
theorem content_of_content_destroyAll {entries : List (RpUndo Pixels)}
    {files : FileStore FileName Bytes} {name : FileName} {data : Bytes}
    (present : (destroyAll entries files).content name = some data) :
    files.content name = some data := by
  induction entries generalizing files with
  | nil => exact present
  | cons entry rest ih =>
      have earlier := ih present
      rw [RpUndo.destroy_eq] at earlier
      split at earlier
      · exact FileStore.content_of_content_remove earlier
      · exact earlier

/-- A file that no dropped entry owns stays as it is. -/
theorem content_destroyAll_of_notOwned {entries : List (RpUndo Pixels)}
    {files : FileStore FileName Bytes} {name : FileName}
    (notOwned : ∀ entry ∈ entries, entry.owner ≠ some name) :
    (destroyAll entries files).content name = files.content name := by
  induction entries generalizing files with
  | nil => rfl
  | cons entry rest ih =>
      refine (ih fun other member => notOwned other (List.mem_cons_of_mem _ member)).trans ?_
      rw [RpUndo.destroy_eq]
      split
      · rename_i owned ownedEq
        refine FileStore.content_remove_of_ne fun same => notOwned entry List.mem_cons_self ?_
        rw [ownedEq, same]
      · rfl

/-- A file that a dropped entry owns is removed. -/
theorem content_destroyAll_of_owned {entries : List (RpUndo Pixels)}
    {files : FileStore FileName Bytes} {name : FileName} {entry : RpUndo Pixels}
    (member : entry ∈ entries) (owned : entry.owner = some name) :
    (destroyAll entries files).content name = none := by
  obtain ⟨before, after, rfl⟩ := List.append_of_mem member
  by_contra present
  obtain ⟨data, present⟩ := Option.ne_none_iff_exists'.mp present
  unfold destroyAll at present
  rw [List.foldl_append, List.foldl_cons] at present
  have left := content_of_content_destroyAll present
  rw [RpUndo.destroy_eq, owned] at left
  simp at left

/-! ## What an undo point changes -/

section UndoPoint

variable (env : Environment Pixels) (frame : Frame Pixels)

/-- An undo point touches the files, the histories and the record of calls, nothing else. -/
theorem imageUndoPoint_eq :
    imageUndoPoint env frame =
      { frame with
        files := (imageUndoPoint env frame).files
        historyUndo := (imageUndoPoint env frame).historyUndo
        historyRedo := (imageUndoPoint env frame).historyRedo
        calls := (imageUndoPoint env frame).calls } := by
  unfold imageUndoPoint
  split <;> rfl

@[simp]
theorem imageUndoPoint_sOriginalFilename :
    (imageUndoPoint env frame).sOriginalFilename = frame.sOriginalFilename := by
  rw [imageUndoPoint_eq]

@[simp]
theorem imageUndoPoint_sFilename :
    (imageUndoPoint env frame).sFilename = frame.sFilename := by
  rw [imageUndoPoint_eq]

@[simp]
theorem imageUndoPoint_bTemp : (imageUndoPoint env frame).bTemp = frame.bTemp := by
  rw [imageUndoPoint_eq]

@[simp]
theorem imageUndoPoint_bDirty : (imageUndoPoint env frame).bDirty = frame.bDirty := by
  rw [imageUndoPoint_eq]

@[simp]
theorem imageUndoPoint_bJPEGlossless :
    (imageUndoPoint env frame).bJPEGlossless = frame.bJPEGlossless := by
  rw [imageUndoPoint_eq]

@[simp]
theorem imageUndoPoint_image : (imageUndoPoint env frame).image = frame.image := by
  rw [imageUndoPoint_eq]

@[simp]
theorem imageUndoPoint_isInclinaison :
    (imageUndoPoint env frame).isInclinaison = frame.isInclinaison := by
  rw [imageUndoPoint_eq]

@[simp]
theorem imageUndoPoint_textComment :
    (imageUndoPoint env frame).textComment = frame.textComment := by
  rw [imageUndoPoint_eq]

@[simp]
theorem imageUndoPoint_textCommentModified :
    (imageUndoPoint env frame).textCommentModified = frame.textCommentModified := by
  rw [imageUndoPoint_eq]

@[simp]
theorem imageUndoPoint_isFileLoading :
    (imageUndoPoint env frame).isFileLoading = frame.isFileLoading := by
  rw [imageUndoPoint_eq]

@[simp]
theorem written_imageUndoPoint :
    (imageUndoPoint env frame).files.written = frame.files.written := by
  unfold imageUndoPoint
  split
  · rfl
  · simp [limitUndo, appendUndo, clearRedo, Frame.record]

variable {env frame}

theorem content_of_content_imageUndoPoint {name : FileName} {data : Bytes}
    (present : (imageUndoPoint env frame).files.content name = some data) :
    frame.files.content name = some data := by
  unfold imageUndoPoint at present
  split at present
  · exact present
  · exact content_of_content_destroyAll (content_of_content_destroyAll present)

end UndoPoint

/-! ## The lists after an undo point -/

/-- The undo list of an undo point before the limit applies. -/
def appended (frame : Frame Pixels) : List (RpUndo Pixels) :=
  frame.historyUndo ++ [.image (RpImage.save frame.toDocument)]

theorem undoPoint_historyUndo (limit : Nat) (frame : Frame Pixels) :
    (limitUndo limit (appendUndo (clearRedo frame))).historyUndo =
      (appended frame).drop ((appended frame).length - limit) := rfl

/-- The entries after an undo point: entries of the undo list, and the new snapshot. -/
theorem mem_undoPoint {limit : Nat} {frame : Frame Pixels} {entry : RpUndo Pixels}
    (member : entry ∈ (limitUndo limit (appendUndo (clearRedo frame))).historyUndo ++
      (limitUndo limit (appendUndo (clearRedo frame))).historyRedo) :
    entry ∈ frame.historyUndo ∨ entry = .image (RpImage.save frame.toDocument) := by
  have inAppended : entry ∈ appended frame := by
    refine List.mem_of_mem_drop (i := (appended frame).length - limit) ?_
    rw [undoPoint_historyUndo] at member
    exact (List.mem_append.mp member).resolve_right List.not_mem_nil
  simpa [appended] using inAppended

/-- The entries an undo point drops: the redo list, and the oldest entries above the limit. -/
def droppedEntries (limit : Nat) (document : Document Pixels) : List (RpUndo Pixels) :=
  let entries := document.historyUndo ++ [.image (RpImage.save document)]
  document.historyRedo ++ entries.take (entries.length - limit)

/-- A file that no dropped entry owns survives an undo point. -/
theorem content_undoPoint {limit : Nat} {frame : Frame Pixels} {name : FileName}
    (notOwned : ∀ entry ∈ droppedEntries limit frame.toDocument, entry.owner ≠ some name) :
    (limitUndo limit (appendUndo (clearRedo frame))).files.content name =
      frame.files.content name := by
  have redone : ∀ entry ∈ frame.historyRedo, entry.owner ≠ some name :=
    fun entry member => notOwned entry (List.mem_append_left _ member)
  have oldest : ∀ entry ∈ (appended frame).take ((appended frame).length - limit),
      entry.owner ≠ some name :=
    fun entry member => notOwned entry (List.mem_append_right _ member)
  exact (content_destroyAll_of_notOwned oldest).trans (content_destroyAll_of_notOwned redone)

/-- A dropped entry is an entry of the histories or the new snapshot. -/
theorem mem_droppedEntries {limit : Nat} {document : Document Pixels} {entry : RpUndo Pixels}
    (member : entry ∈ droppedEntries limit document) :
    entry ∈ document.historyUndo ++ document.historyRedo ∨
      entry = .image (RpImage.save document) := by
  rcases List.mem_append.mp member with inRedo | inFront
  · exact .inl (List.mem_append_right _ inRedo)
  · rcases List.mem_append.mp (List.mem_of_mem_take inFront) with inUndo | isNew
    · exact .inl (List.mem_append_left _ inUndo)
    · exact .inr (List.mem_singleton.mp isNew)

@[simp]
theorem written_undoPoint (limit : Nat) (frame : Frame Pixels) :
    (limitUndo limit (appendUndo (clearRedo frame))).files.written = frame.files.written := by
  simp [limitUndo, appendUndo, clearRedo]

/-! ## Undo and redo of a snapshot -/

/-- Both files of a snapshot are on disk. -/
def RpImage.FilesExist (files : FileStore FileName Bytes) (snapshot : RpImage Pixels) : Prop :=
  files.Holds snapshot.sOriginalFilename ∧ files.Holds snapshot.sFilename

instance (files : FileStore FileName Bytes) (snapshot : RpImage Pixels) :
    Decidable (snapshot.FilesExist files) :=
  inferInstanceAs (Decidable (_ ∧ _))

/-- The document a restored snapshot leaves, its histories apart. -/
def restoredFrame (wx : Wx Pixels) (snapshot : RpImage Pixels) (frame : Frame Pixels) :
    Frame Pixels :=
  imageUpdateExif wx <| updateControlsState
    { frame with
      sOriginalFilename := snapshot.sOriginalFilename
      sFilename := snapshot.sFilename
      bTemp := snapshot.bTemp
      bDirty := snapshot.bDirty
      bJPEGlossless := snapshot.bJPEGlossless
      image := snapshot.restoredImage wx frame.files
      isInclinaison := snapshot.isInclinaison }

theorem restore_of_filesExist {wx : Wx Pixels} {snapshot : RpImage Pixels} {frame : Frame Pixels}
    (filesExist : snapshot.FilesExist frame.files) :
    snapshot.restore wx frame = some (restoredFrame wx snapshot frame) :=
  if_pos filesExist

theorem restore_of_not_filesExist {wx : Wx Pixels} {snapshot : RpImage Pixels}
    {frame : Frame Pixels} (missing : ¬ snapshot.FilesExist frame.files) :
    snapshot.restore wx frame = none :=
  if_neg missing

section Calls

variable {wx : Wx Pixels} {env : Environment Pixels} {frame : Frame Pixels}

/-- Undoing a snapshot. -/
theorem onImageUndo_image {older : List (RpUndo Pixels)} {snapshot : RpImage Pixels}
    (newest : frame.historyUndo = older ++ [.image snapshot])
    (filesExist : snapshot.FilesExist frame.files) :
    onImageUndo wx env frame =
      updateControlsState
        { restoredFrame wx snapshot (appendRedo frame) with historyUndo := older } := by
  have last : frame.historyUndo.getLast? = some (.image snapshot) := by simp [newest]
  simp only [onImageUndo, last]
  have there : snapshot.FilesExist (appendRedo frame).files := filesExist
  rw [restore_of_filesExist there]
  simp [appendRedo, newest]

/-- Undoing a snapshot that has lost a file only drops it. -/
theorem onImageUndo_missing {older : List (RpUndo Pixels)} {snapshot : RpImage Pixels}
    (newest : frame.historyUndo = older ++ [.image snapshot])
    (missing : ¬ snapshot.FilesExist frame.files) :
    onImageUndo wx env frame =
      updateControlsState
        { appendRedo frame with
          files := snapshot.destroy false frame.files
          historyUndo := older } := by
  have last : frame.historyUndo.getLast? = some (.image snapshot) := by simp [newest]
  simp only [onImageUndo, last]
  have lost : ¬ snapshot.FilesExist (appendRedo frame).files := missing
  rw [restore_of_not_filesExist lost]
  simp [appendRedo, newest]

/-- Undoing a move. -/
theorem onImageUndo_move {older : List (RpUndo Pixels)} {action : RpMove}
    (newest : frame.historyUndo = older ++ [.move action]) :
    onImageUndo wx env frame =
      updateControlsState
        { action.restore env (appendRedo frame) with
          historyRedo := (action.restore env (appendRedo frame)).historyRedo ++ [.move action]
          historyUndo := older } := by
  have last : frame.historyUndo.getLast? = some (.move action) := by simp [newest]
  simp only [onImageUndo, last]
  simp [appendRedo, RpMove.restore, renamePhoto, renameFile, newest]

theorem onImageUndo_nil (empty : frame.historyUndo = []) : onImageUndo wx env frame = frame := by
  simp [onImageUndo, empty]

/-- Redoing a snapshot. -/
theorem onImageRedo_image {later : List (RpUndo Pixels)} {snapshot : RpImage Pixels}
    (newest : frame.historyRedo = later ++ [.image snapshot])
    (filesExist : snapshot.FilesExist frame.files) :
    onImageRedo wx env frame =
      updateControlsState
        { restoredFrame wx snapshot (appendUndo frame) with historyRedo := later } := by
  have last : frame.historyRedo.getLast? = some (.image snapshot) := by simp [newest]
  simp only [onImageRedo, last]
  have there : snapshot.FilesExist (appendUndo frame).files := filesExist
  rw [restore_of_filesExist there]
  simp [appendUndo, newest]

/-- Redoing a snapshot that has lost a file only drops it. -/
theorem onImageRedo_missing {later : List (RpUndo Pixels)} {snapshot : RpImage Pixels}
    (newest : frame.historyRedo = later ++ [.image snapshot])
    (missing : ¬ snapshot.FilesExist frame.files) :
    onImageRedo wx env frame =
      updateControlsState
        { appendUndo frame with
          files := snapshot.destroy false frame.files
          historyRedo := later } := by
  have last : frame.historyRedo.getLast? = some (.image snapshot) := by simp [newest]
  simp only [onImageRedo, last]
  have lost : ¬ snapshot.FilesExist (appendUndo frame).files := missing
  rw [restore_of_not_filesExist lost]
  simp [appendUndo, newest]

/-- Redoing a move. -/
theorem onImageRedo_move {later : List (RpUndo Pixels)} {action : RpMove}
    (newest : frame.historyRedo = later ++ [.move action]) :
    onImageRedo wx env frame =
      updateControlsState
        { action.restore env (appendUndo frame) with
          historyUndo := (action.restore env (appendUndo frame)).historyUndo ++ [.move action]
          historyRedo := later } := by
  have last : frame.historyRedo.getLast? = some (.move action) := by simp [newest]
  simp only [onImageRedo, last]
  simp [appendUndo, RpMove.restore, renamePhoto, renameFile, newest]

theorem onImageRedo_nil (empty : frame.historyRedo = []) : onImageRedo wx env frame = frame := by
  simp [onImageRedo, empty]

/-- What an undo can do: nothing, restore a snapshot, drop one, or restore a move. -/
theorem onImageUndo_elim {motive : Frame Pixels → Prop} (nothing : motive frame)
    (restored : ∀ older snapshot, frame.historyUndo = older ++ [.image snapshot] →
      snapshot.FilesExist frame.files →
      motive (updateControlsState
        { restoredFrame wx snapshot (appendRedo frame) with historyUndo := older }))
    (dropped : ∀ older snapshot, frame.historyUndo = older ++ [.image snapshot] →
      ¬ snapshot.FilesExist frame.files →
      motive (updateControlsState
        { appendRedo frame with
          files := snapshot.destroy false frame.files
          historyUndo := older }))
    (moved : ∀ older action, frame.historyUndo = older ++ [.move action] →
      motive (updateControlsState
        { action.restore env (appendRedo frame) with
          historyRedo := (action.restore env (appendRedo frame)).historyRedo ++ [.move action]
          historyUndo := older })) :
    motive (onImageUndo wx env frame) := by
  rcases List.eq_nil_or_concat frame.historyUndo with empty | ⟨older, entry, newest⟩
  · rwa [onImageUndo_nil empty]
  · rw [List.concat_eq_append] at newest
    cases entry with
    | move action =>
        rw [onImageUndo_move newest]
        exact moved older action newest
    | image snapshot =>
        by_cases filesExist : snapshot.FilesExist frame.files
        · rw [onImageUndo_image newest filesExist]
          exact restored older snapshot newest filesExist
        · rw [onImageUndo_missing newest filesExist]
          exact dropped older snapshot newest filesExist

/-- What a redo can do: nothing, restore a snapshot, drop one, or restore a move. -/
theorem onImageRedo_elim {motive : Frame Pixels → Prop} (nothing : motive frame)
    (restored : ∀ later snapshot, frame.historyRedo = later ++ [.image snapshot] →
      snapshot.FilesExist frame.files →
      motive (updateControlsState
        { restoredFrame wx snapshot (appendUndo frame) with historyRedo := later }))
    (dropped : ∀ later snapshot, frame.historyRedo = later ++ [.image snapshot] →
      ¬ snapshot.FilesExist frame.files →
      motive (updateControlsState
        { appendUndo frame with
          files := snapshot.destroy false frame.files
          historyRedo := later }))
    (moved : ∀ later action, frame.historyRedo = later ++ [.move action] →
      motive (updateControlsState
        { action.restore env (appendUndo frame) with
          historyUndo := (action.restore env (appendUndo frame)).historyUndo ++ [.move action]
          historyRedo := later })) :
    motive (onImageRedo wx env frame) := by
  rcases List.eq_nil_or_concat frame.historyRedo with empty | ⟨later, entry, newest⟩
  · rwa [onImageRedo_nil empty]
  · rw [List.concat_eq_append] at newest
    cases entry with
    | move action =>
        rw [onImageRedo_move newest]
        exact moved later action newest
    | image snapshot =>
        by_cases filesExist : snapshot.FilesExist frame.files
        · rw [onImageRedo_image newest filesExist]
          exact restored later snapshot newest filesExist
        · rw [onImageRedo_missing newest filesExist]
          exact dropped later snapshot newest filesExist

/-- An undo makes no recorded call. -/
@[simp]
theorem onImageUndo_calls : (onImageUndo wx env frame).calls = frame.calls :=
  onImageUndo_elim (motive := fun after => after.calls = frame.calls) rfl
    (fun _ _ _ _ => rfl) (fun _ _ _ _ => rfl) fun _ _ _ => rfl

/-- A redo makes no recorded call. -/
@[simp]
theorem onImageRedo_calls : (onImageRedo wx env frame).calls = frame.calls :=
  onImageRedo_elim (motive := fun after => after.calls = frame.calls) rfl
    (fun _ _ _ _ => rfl) (fun _ _ _ _ => rfl) fun _ _ _ => rfl

end Calls

end RPhoto.Editing
