import RPhoto.Editing.ScreenHistory
import RPhoto.Editing.SnapshotRoundTrip

/-!
# Redo after undo

`OnImageUndo` followed by `OnImageRedo` gives the document and both lists back
when the newest undo entry is a snapshot that the two calls can pass through
unchanged.  It never does so for a move: the redo restores the action once more,
and both calls leave a snapshot behind.  The rectangles of a snapshot pass through
the setters of the image box, which may clamp them or rescale them.
-/

namespace RPhoto.Editing

open RPhoto.Jpeg RPhoto.Library RPhoto.Tracker

variable {Pixels : Type}

/-- The same photo on disk, the same document and the same histories. -/
structure SameHistory (before after : Document Pixels) : Prop where
  content : after.files.content = before.files.content
  sOriginalFilename : after.sOriginalFilename = before.sOriginalFilename
  sFilename : after.sFilename = before.sFilename
  bTemp : after.bTemp = before.bTemp
  bJPEGlossless : after.bJPEGlossless = before.bJPEGlossless
  image : after.image = before.image
  historyUndo : after.historyUndo = before.historyUndo
  historyRedo : after.historyRedo = before.historyRedo

/-- Every file the snapshots of the undo list name is on disk. -/
def NamedFilesExist (document : Document Pixels) : Prop :=
  ∀ snapshot, .image snapshot ∈ document.historyUndo → snapshot.FilesExist document.files

/-- What `OnImageUndo` followed by `OnImageRedo` does. -/
def undoRedo (wx : Wx Pixels) (env : Environment Pixels) (frame : Frame Pixels) :
    Frame Pixels :=
  onImageRedo wx env (onImageUndo wx env frame)

/-- What the two calls need to pass through a snapshot and back. -/
structure Reversible (wx : Wx Pixels) (document : Document Pixels) (snapshot : RpImage Pixels) :
    Prop where
  /-- The snapshot of the document can be restored. -/
  filesExist : (RpImage.save document).FilesExist document.files
  /-- The displayed image of a lossless document is the decoding of its file. -/
  shown : document.bJPEGlossless = true →
    document.image = (document.files.content document.sFilename).bind wx.decode
  /-- A pending comment does not make the restored snapshot dirty. -/
  clean : document.textCommentModified = true → snapshot.bDirty = true

/-! ## Snapshots -/

/-- A snapshot of a restored snapshot is the same one, up to a pending comment. -/
theorem save_restoredFrame_eq_iff (wx : Wx Pixels) (snapshot : RpImage Pixels)
    (frame : Frame Pixels) :
    RpImage.save (restoredFrame wx snapshot frame).toDocument = snapshot ↔
      (frame.textCommentModified = true → snapshot.bDirty = true) := by
  obtain ⟨original, name, temp, wasDirty, lossless, image, mode, noImage⟩ := snapshot
  have imageKept : (if lossless = true then none
      else (RpImage.mk original name temp wasDirty lossless image mode noImage).restoredImage wx
        frame.files) = image := by
    cases lossless with
    | true => exact (noImage rfl).symm
    | false => rfl
  cases wasDirty <;>
    simp [RpImage.save, restoredFrame, imageUpdateExif, updateControlsState, imageKept]

/-- Restoring the snapshot of a document shows its image, or the decoding of its file. -/
theorem restoredImage_save_eq_iff (wx : Wx Pixels) (document : Document Pixels) :
    (RpImage.save document).restoredImage wx document.files = document.image ↔
      (document.bJPEGlossless = true →
        document.image = (document.files.content document.sFilename).bind wx.decode) := by
  cases lossless : document.bJPEGlossless <;>
    simp [RpImage.restoredImage, RpImage.save, lossless, eq_comm]

/-! ## The two calls -/

section Calls

variable {wx : Wx Pixels} {env : Environment Pixels} {frame : Frame Pixels}
  {older : List (RpUndo Pixels)}

/-- Undoing and redoing a move leaves one entry too many in the undo list. -/
theorem undoRedo_move_length {action : RpMove}
    (newest : frame.historyUndo = older ++ [.move action]) :
    (undoRedo wx env frame).historyUndo.length = frame.historyUndo.length + 1 := by
  have undone := @onImageUndo_move _ wx env _ _ _ newest
  have redoList : (onImageUndo wx env frame).historyRedo =
      (frame.historyRedo ++ [.image (RpImage.save frame.toDocument)]) ++ [.move action] := by
    rw [undone]
    rfl
  rw [undoRedo, onImageRedo_move redoList, undone]
  simp [updateControlsState, RpMove.restore, renamePhoto, renameFile, appendUndo, newest]

/-- The snapshot a redo takes of an undone document. -/
theorem save_onImageUndo_image {snapshot : RpImage Pixels}
    (newest : frame.historyUndo = older ++ [.image snapshot])
    (filesExist : snapshot.FilesExist frame.files) :
    RpImage.save (onImageUndo wx env frame).toDocument = snapshot ↔
      (frame.textCommentModified = true → snapshot.bDirty = true) := by
  rw [onImageUndo_image newest filesExist]
  have settled : RpImage.save (updateControlsState
      { restoredFrame wx snapshot (appendRedo frame) with historyUndo := older }).toDocument =
      RpImage.save (restoredFrame wx snapshot (appendRedo frame)).toDocument := by
    simp only [RpImage.save, updateControlsState, restoredFrame, imageUpdateExif, Bool.or_false]
    rfl
  rw [settled, save_restoredFrame_eq_iff]
  rfl

/-- When the files of the document exist, redoing is a matter of its image and of the entry. -/
theorem undoRedo_image_iff_of_filesExist {snapshot : RpImage Pixels}
    (newest : frame.historyUndo = older ++ [.image snapshot])
    (filesExist : snapshot.FilesExist frame.files)
    (present : (RpImage.save frame.toDocument).FilesExist frame.files) :
    SameHistory frame.toDocument (undoRedo wx env frame).toDocument ↔
      (RpImage.save frame.toDocument).restoredImage wx frame.files = frame.image ∧
        RpImage.save (onImageUndo wx env frame).toDocument = snapshot := by
  have undone := @onImageUndo_image _ wx env _ _ _ newest filesExist
  have redone : undoRedo wx env frame =
      updateControlsState
        { restoredFrame wx (RpImage.save frame.toDocument)
            (appendUndo (onImageUndo wx env frame)) with
          historyRedo := frame.historyRedo } :=
    onImageRedo_image (by rw [undone]; rfl) (by rw [undone]; exact present)
  have undoList : (undoRedo wx env frame).historyUndo =
      older ++ [.image (RpImage.save (onImageUndo wx env frame).toDocument)] := by
    rw [redone, undone]
    rfl
  have image : (undoRedo wx env frame).image =
      (RpImage.save frame.toDocument).restoredImage wx frame.files := by
    rw [redone, undone]
    rfl
  constructor
  · intro same
    refine ⟨image ▸ same.image, ?_⟩
    have lists := undoList ▸ same.historyUndo
    rw [newest, List.append_cancel_left_eq] at lists
    simpa using lists
  · rintro ⟨shown, kept⟩
    refine ⟨?_, ?_, ?_, ?_, ?_, image.trans shown, ?_, ?_⟩
    · rw [redone, undone]
      rfl
    · rw [redone]
      rfl
    · rw [redone]
      rfl
    · rw [redone]
      rfl
    · rw [redone]
      rfl
    · rw [undoList, kept, newest]
    · rw [redone]
      rfl

/-- Without the files of the document the redo cannot bring its names back. -/
theorem not_sameHistory_of_missing {snapshot : RpImage Pixels}
    (newest : frame.historyUndo = older ++ [.image snapshot])
    (filesExist : snapshot.FilesExist frame.files)
    (missing : ¬ (RpImage.save frame.toDocument).FilesExist frame.files) :
    ¬ SameHistory frame.toDocument (undoRedo wx env frame).toDocument := by
  have undone := @onImageUndo_image _ wx env _ _ _ newest filesExist
  have newestRedo : (onImageUndo wx env frame).historyRedo =
      frame.historyRedo ++ [.image (RpImage.save frame.toDocument)] := by
    rw [undone]
    rfl
  have stillMissing :
      ¬ (RpImage.save frame.toDocument).FilesExist (onImageUndo wx env frame).files := by
    rw [undone]
    exact missing
  have redone : undoRedo wx env frame = _ := onImageRedo_missing newestRedo stillMissing
  intro same
  have original : snapshot.sOriginalFilename = frame.sOriginalFilename := by
    rw [← same.sOriginalFilename, redone, undone]
    rfl
  have name : snapshot.sFilename = frame.sFilename := by
    rw [← same.sFilename, redone, undone]
    rfl
  refine missing ⟨?_, ?_⟩
  · change frame.files.Holds frame.sOriginalFilename
    rw [← original]
    exact filesExist.1
  · change frame.files.Holds frame.sFilename
    rw [← name]
    exact filesExist.2

/-- For a snapshot the two calls are inverse exactly when it is reversible. -/
theorem undoRedo_image_iff {snapshot : RpImage Pixels}
    (newest : frame.historyUndo = older ++ [.image snapshot])
    (filesExist : snapshot.FilesExist frame.files) :
    SameHistory frame.toDocument (undoRedo wx env frame).toDocument ↔
      Reversible wx frame.toDocument snapshot := by
  by_cases present : (RpImage.save frame.toDocument).FilesExist frame.files
  · rw [undoRedo_image_iff_of_filesExist newest filesExist present,
      restoredImage_save_eq_iff, save_onImageUndo_image newest filesExist]
    exact ⟨fun known => ⟨present, known.1, known.2⟩, fun known => ⟨known.shown, known.clean⟩⟩
  · exact iff_of_false (not_sameHistory_of_missing newest filesExist present)
      fun known => present known.filesExist

end Calls

/-- The document comes back exactly when the newest undo entry is a snapshot, not a move, and
the document is reversible. -/
theorem sameHistory_iff (wx : Wx Pixels) (env : Environment Pixels) (frame : Frame Pixels)
    (nonempty : frame.historyUndo ≠ []) (filesExist : NamedFilesExist frame.toDocument) :
    SameHistory frame.toDocument (undoRedo wx env frame).toDocument ↔
      ∃ snapshot, frame.historyUndo.getLast? = some (.image snapshot) ∧
        Reversible wx frame.toDocument snapshot := by
  obtain ⟨older, entry, newest⟩ := (List.eq_nil_or_concat frame.historyUndo).resolve_left nonempty
  rw [List.concat_eq_append] at newest
  have last : frame.historyUndo.getLast? = some entry := by simp [newest]
  cases entry with
  | image snapshot =>
      have named : .image snapshot ∈ frame.historyUndo := by simp [newest]
      rw [undoRedo_image_iff newest (filesExist snapshot named)]
      simp [last]
  | move action =>
      refine iff_of_false (fun same => ?_) fun ⟨snapshot, isImage, _⟩ => ?_
      · have longer := @undoRedo_move_length _ wx env _ _ _ newest
        rw [same.historyUndo] at longer
        omega
      · rw [last] at isImage
        cases isImage

/-! ## The rectangles of a snapshot -/

/-- The line after the half of `AdjustTrackerSize` that draws it at another scale. -/
def redrawn (tracker : LineTracker) (factor : ℚ) : LineTracker :=
  if factor > 0 then
    tracker.setTrackerPosition (LineTracker.scalePoint tracker.posBegin factor)
      (LineTracker.scalePoint tracker.posEnd factor)
  else tracker

/-- Neither the mode nor a scale moves the selection. -/
structure SelectionStays (box : DisplayBox) (isInclinaison : Bool) (newScale : ℚ) : Prop where
  disabled : isInclinaison = true → box.rectTracker.Remains
  whole : 0 < box.scale → (box.rectTracker.withMaxRect box.imageRect).Remains
  rescaled : 0 < box.scale →
    RatioImageBox.scaleRect box.rectTracker.rect (newScale / box.scale) = box.rectTracker.rect
  displayed : 0 < box.scale → (box.rectTracker.withMaxRect (box.scaledRect newScale)).Remains

/-- Neither of them moves the line. -/
structure LineStays (box : DisplayBox) (isInclinaison : Bool) (newScale : ℚ) : Prop where
  enabled : isInclinaison = false → box.lineTracker.update.rect = box.lineTracker.rect
  whole : 0 < box.scale →
    (box.lineTracker.setMaxRect box.imageRect).rect = box.lineTracker.rect
  displayed : 0 < box.scale →
    ((redrawn box.lineTracker (newScale / box.scale)).setMaxRect (box.scaledRect newScale)).rect =
      box.lineTracker.rect

/-- The box that shows the image of a snapshot at the scale in force, with its rectangles. -/
def ScreenImage.shownBox (wx : Wx Pixels) (size : Image Pixels → Nat × Nat)
    (snapshot : ScreenImage Pixels) (files : FileStore FileName Bytes) (box : DisplayBox) :
    DisplayBox :=
  let (width, height) := shownSize size (snapshot.restoredImage wx files)
  (box.setImage width height).setUnscrolledRects snapshot.rectTracker snapshot.lineTracker

/-- The setters leave both rectangles of the snapshot. -/
def ScreenImage.RectsStay (wx : Wx Pixels) (size : Image Pixels → Nat × Nat)
    (snapshot : ScreenImage Pixels) (files : FileStore FileName Bytes) (box : DisplayBox) : Prop :=
  let shown := snapshot.shownBox wx size files box
  let newScale := DisplayBox.displayScale { shown with scaleV := snapshot.scale }
    shown.imageWidth shown.imageHeight
  SelectionStays shown snapshot.isInclinaison newScale ∧
    LineStays shown snapshot.isInclinaison newScale

section Rects

variable {tracker next : RectTrackerRatio} {maxRect : Rect}

theorem Remains.carry (remains : (tracker.withMaxRect maxRect).Remains)
    (settings : SameSettings next tracker) (same : next.rect = tracker.rect) :
    (next.withMaxRect maxRect).Remains := by
  unfold RectTrackerRatio.Remains at remains ⊢
  have checked := @RectTrackerRatio.checkedAdjust_congr (tracker.withMaxRect maxRect)
    (next.withMaxRect maxRect) rfl settings.ratio settings.orientation settings.fixedWidth
    settings.fixedHeight next.rect .outside
  refine checked.trans ?_
  rw [same]
  exact remains.trans (congrArg some same.symm)

theorem Remains.setMaxRect (remains : (tracker.withMaxRect maxRect).Remains) :
    (tracker.setMaxRect maxRect).rect = tracker.rect := by
  unfold RectTrackerRatio.setMaxRect
  rw [RectTrackerRatio.update_rect]
  exact remains.adjust

/-- A selection that rests in the whole image, and is not rescaled, stays. -/
theorem scaleTracker_stays {box : RatioImageBox} {ratio : ℚ}
    (whole : (box.rectTracker.withMaxRect box.imageRect).Remains)
    (rescaled : RatioImageBox.scaleRect box.rectTracker.rect ratio = box.rectTracker.rect) :
    (box.scaleTracker ratio).rect = box.rectTracker.rect := by
  have kept := Remains.setMaxRect whole
  unfold RatioImageBox.scaleTracker
  dsimp only
  split
  · have adjusted : (box.rectTracker.withMaxRect box.imageRect).adjustTrackerRect
        box.rectTracker.rect .outside = box.rectTracker.rect := whole.adjust
    rw [kept, rescaled, RectTrackerRatio.update_rect]
    refine Eq.trans ?_ adjusted
    exact @RectTrackerRatio.adjustTrackerRect_congr (box.rectTracker.withMaxRect box.imageRect)
      { box.rectTracker.setMaxRect box.imageRect with rect := box.rectTracker.rect }
      rfl rfl rfl rfl rfl _ _
  · exact kept

theorem scaleTracker_settings (box : RatioImageBox) (ratio : ℚ) :
    SameSettings (box.scaleTracker ratio) box.rectTracker := by
  unfold RatioImageBox.scaleTracker
  dsimp only
  split <;> exact ⟨rfl, rfl, rfl, rfl⟩

/-- A selection that rests at the new size too is left by `SetScale`. -/
theorem setScale_stays {box : RatioImageBox} {newScale : ℚ}
    (whole : 0 < box.scale → (box.rectTracker.withMaxRect box.imageRect).Remains)
    (rescaled : 0 < box.scale →
      RatioImageBox.scaleRect box.rectTracker.rect (newScale / box.scale) = box.rectTracker.rect)
    (displayed : 0 < box.scale →
      (box.rectTracker.withMaxRect (box.scaledRect newScale)).Remains) :
    (box.setScale newScale).rectTracker.rect = box.rectTracker.rect := by
  unfold RatioImageBox.setScale
  dsimp only
  split
  case isFalse => rfl
  case isTrue positive =>
    have half := @scaleTracker_stays { box with scale := newScale } _ (whole positive)
      (rescaled positive)
    have settings := scaleTracker_settings { box with scale := newScale } (newScale / box.scale)
    have last := Remains.setMaxRect (Remains.carry (displayed positive) settings half)
    unfold RatioImageBox.adjustTrackerSize RectTrackerRatio.setFixedSize
    dsimp only
    refine Eq.trans ?_ (last.trans half)
    split_ifs <;> rfl

/-- The line is drawn again between its points. -/
theorem adjustTrackerSize_stays {line : LineTracker} {factor : ℚ} {image scaled : Rect}
    (whole : (line.setMaxRect image).rect = line.rect)
    (displayed : ((redrawn line factor).setMaxRect scaled).rect = line.rect) :
    (line.adjustTrackerSize factor image scaled).rect = line.rect := by
  refine Eq.trans ?_ displayed
  have kept : line.setMaxRect image =
      { line with maxRect := (line.setMaxRect image).maxRect } := by
    conv_rhs => rw [← whole]
    rfl
  unfold LineTracker.adjustTrackerSize redrawn
  rw [kept]
  split_ifs <;> rfl

/-- A mode that leaves a rectangle leaves the box as `SetScale` finds it. -/
theorem SelectionStays.mode {box : DisplayBox} {isInclinaison : Bool} {newScale : ℚ}
    (stays : SelectionStays box isInclinaison newScale) :
    (box.setModeInclinaison isInclinaison).rectTracker.rect = box.rectTracker.rect := by
  cases isInclinaison with
  | true =>
      have adjusted := (stays.disabled rfl).adjust
      show (RectTrackerRatio.update { box.rectTracker with mouseCaptured := false }).rect = _
      rw [RectTrackerRatio.update_rect]
      refine Eq.trans ?_ adjusted
      exact @RectTrackerRatio.adjustTrackerRect_congr box.rectTracker
        { box.rectTracker with mouseCaptured := false } rfl rfl rfl rfl rfl _ _
  | false => rfl

theorem LineStays.mode {box : DisplayBox} {isInclinaison : Bool} {newScale : ℚ}
    (stays : LineStays box isInclinaison newScale) :
    (box.setModeInclinaison isInclinaison).lineTracker = box.lineTracker := by
  cases isInclinaison with
  | true => rfl
  | false =>
      have kept := stays.enabled rfl
      show box.lineTracker.update = box.lineTracker
      unfold LineTracker.update at kept ⊢
      dsimp only at kept
      rw [kept]

/-- The mode and the scale leave both rectangles. -/
theorem setters_stay {box : DisplayBox} {isInclinaison : Bool} {scaleV : ScaleSetting}
    (selection : SelectionStays box isInclinaison
      (DisplayBox.displayScale { box with scaleV } box.imageWidth box.imageHeight))
    (line : LineStays box isInclinaison
      (DisplayBox.displayScale { box with scaleV } box.imageWidth box.imageHeight)) :
    ((box.setModeInclinaison isInclinaison).setScale scaleV).rectTracker.rect =
        box.rectTracker.rect ∧
      ((box.setModeInclinaison isInclinaison).setScale scaleV).lineTracker.rect =
        box.lineTracker.rect := by
  have rect := selection.mode
  have settings := setModeInclinaison_settings box isInclinaison
  have lineKept := line.mode
  have image : (box.setModeInclinaison isInclinaison).imageRect = box.imageRect := by
    cases isInclinaison <;> rfl
  have size : (box.setModeInclinaison isInclinaison).scaledRect = box.scaledRect := by
    cases isInclinaison <;> rfl
  have scale : (box.setModeInclinaison isInclinaison).scale = box.scale := by
    cases isInclinaison <;> rfl
  have newScale : DisplayBox.displayScale
      { box.setModeInclinaison isInclinaison with scaleV }
      (box.setModeInclinaison isInclinaison).imageWidth
      (box.setModeInclinaison isInclinaison).imageHeight =
        DisplayBox.displayScale { box with scaleV } box.imageWidth box.imageHeight := by
    cases isInclinaison <;> rfl
  unfold DisplayBox.setScale
  dsimp only
  rw [newScale, lineKept, scale, image, size]
  constructor
  · refine (setScale_stays ?_ ?_ ?_).trans rect
    · intro positive
      rw [image]
      exact Remains.carry (selection.whole (scale ▸ positive)) settings rect
    · intro positive
      rw [rect, scale]
      exact selection.rescaled (scale ▸ positive)
    · intro positive
      rw [size]
      exact Remains.carry (selection.displayed (scale ▸ positive)) settings rect
  · split
    · rename_i positive
      exact adjustTrackerSize_stays (line.whole positive) (line.displayed positive)
    · rfl

/-- A snapshot whose rectangles stay is the one that is saved after its restoration. -/
theorem restoreBox_stays {wx : Wx Pixels} {size : Image Pixels → Nat × Nat}
    {snapshot : ScreenImage Pixels} {files : FileStore FileName Bytes} {box : DisplayBox}
    (stay : snapshot.RectsStay wx size files box) :
    (snapshot.restoreBox wx size files box).rectTracker.rect = snapshot.rectTracker ∧
      (snapshot.restoreBox wx size files box).lineTracker.rect = snapshot.lineTracker ∧
      (snapshot.restoreBox wx size files box).scaleV = snapshot.scale := by
  have setters := setters_stay stay.1 stay.2
  exact ⟨setters.1, setters.2, rfl⟩

end Rects

/-! ## The whole entries -/

/-- The same document and the same entries. -/
structure SameEntries (before after : ScreenHistory Pixels) : Prop where
  document : SameHistory before.frame.toDocument after.frame.toDocument
  undoEntries : after.undoEntries = before.undoEntries
  redoEntries : after.redoEntries = before.redoEntries

/-- What `OnImageUndo` followed by `OnImageRedo` does on the screen. -/
def screenUndoRedo (wx : Wx Pixels) (size : Image Pixels → Nat × Nat) (env : Environment Pixels)
    (history : ScreenHistory Pixels) : ScreenHistory Pixels :=
  (history.onImageUndo wx size env).onImageRedo wx size env

section Screen

variable {wx : Wx Pixels} {size : Image Pixels → Nat × Nat} {env : Environment Pixels}
  {history : ScreenHistory Pixels}

/-- The entry that a redo takes of a screen whose snapshot was restored. -/
theorem screenUndoRedo_entries {snapshot : ScreenImage Pixels}
    (newest : history.undoEntries.getLast? = some (.image snapshot)) :
    (screenUndoRedo wx size env history).undoEntries =
        history.undoEntries.dropLast ++
          [.image (.save (history.onImageUndo wx size env).toScreen)] ∧
      (screenUndoRedo wx size env history).redoEntries = history.redoEntries := by
  have redo : (history.onImageUndo wx size env).redoEntries =
      history.redoEntries ++ [.image (.save history.toScreen)] := by
    show history.redoEntries ++ ScreenHistory.carriedEntries _ history.undoEntries.getLast? = _
    rw [newest]
    rfl
  constructor
  · show history.undoEntries.dropLast ++ ScreenHistory.carriedEntries _
      (history.onImageUndo wx size env).redoEntries.getLast? = _
    rw [redo, List.getLast?_concat]
    rfl
  · show (history.onImageUndo wx size env).redoEntries.dropLast = _
    rw [redo, List.dropLast_concat]

/-- A reversible snapshot whose rectangles stay comes back as it was. -/
theorem save_screenUndo {snapshot : ScreenImage Pixels}
    (newest : history.undoEntries.getLast? = some (.image snapshot))
    (filesExist : snapshot.FilesExist history.frame.files)
    (saved : RpImage.save (onImageUndo wx env history.frame).toDocument = snapshot.toRpImage)
    (stay : snapshot.RectsStay wx size history.frame.files history.box) :
    ScreenImage.save (history.onImageUndo wx size env).toScreen = snapshot := by
  have box : (history.onImageUndo wx size env).box =
      snapshot.restoreBox wx size history.frame.files history.box := by
    show ScreenHistory.restoredBox wx size history.toScreen history.undoEntries.getLast? = _
    rw [newest]
    exact if_pos filesExist
  obtain ⟨rect, line, scale⟩ := restoreBox_stays stay
  unfold ScreenImage.save
  rw [box, rect, line, scale]
  show ScreenImage.mk (RpImage.save (onImageUndo wx env history.frame).toDocument) _ _ _ = _
  rw [saved]

end Screen

/--
An undo followed by a redo gives everything back only when the newest undo entry is a
snapshot, not a move, and the document is reversible; and it does so when, besides, the
setters of the image box leave the rectangles of that snapshot.
-/
theorem undoRedo_inverse (wx : Wx Pixels) (size : Image Pixels → Nat × Nat)
    (env : Environment Pixels) (history : ScreenHistory Pixels)
    (nonempty : history.undoEntries ≠ [])
    (filesExist : NamedFilesExist history.frame.toDocument) :
    (SameEntries history (screenUndoRedo wx size env history) →
      ∃ snapshot, history.undoEntries.getLast? = some (.image snapshot) ∧
        Reversible wx history.frame.toDocument snapshot.toRpImage) ∧
    ∀ snapshot, history.undoEntries.getLast? = some (.image snapshot) →
      Reversible wx history.frame.toDocument snapshot.toRpImage →
      snapshot.RectsStay wx size history.frame.files history.box →
        SameEntries history (screenUndoRedo wx size env history) := by
  have entries : history.frame.historyUndo ≠ [] := by
    rw [← history.undo_eq]
    exact fun empty => nonempty (List.map_eq_nil_iff.mp empty)
  have document := sameHistory_iff wx env history.frame entries filesExist
  have last : history.frame.historyUndo.getLast? =
      history.undoEntries.getLast?.map ScreenUndo.entry := by
    rw [← history.undo_eq, List.getLast?_map]
  constructor
  · intro same
    obtain ⟨snapshot, newest, reversible⟩ := document.mp same.document
    rw [last] at newest
    obtain ⟨entry, isLast, isImage⟩ := Option.map_eq_some_iff.mp newest
    cases entry with
    | image whole =>
        cases isImage
        exact ⟨whole, isLast, reversible⟩
    | move action => cases isImage
  · intro snapshot newest reversible stay
    have isImage : history.frame.historyUndo.getLast? = some (.image snapshot.toRpImage) := by
      rw [last, newest]
      rfl
    obtain ⟨older, split⟩ := List.getLast?_eq_some_iff.mp isImage
    have present := filesExist snapshot.toRpImage (List.mem_of_getLast? isImage)
    have saved := (@save_onImageUndo_image _ wx env _ _ _ split present).mpr reversible.clean
    obtain ⟨undo, redo⟩ := @screenUndoRedo_entries _ wx size env _ _ newest
    refine ⟨document.mpr ⟨snapshot.toRpImage, isImage, reversible⟩, ?_, redo⟩
    rw [undo, save_screenUndo newest present saved stay]
    exact List.dropLast_append_getLast? _ newest

/-- The small document in a box of half the size. -/
def sampleHistory (events : List Event) : ScreenHistory Bytes :=
  .ofFrame (sampleFrame 10 events) (sampleBox .fitToPageIfLarger (1 / 2) ⟨2, 8⟩ ⟨8, 2⟩)
    ⟨10, 10, 20, 20⟩ ⟨2, 2, 7, 7⟩ .fitToPageIfLarger

/-- A rotated photo comes back through undo and redo, and so does its undo point. -/
theorem undoRedo_rotation :
    SameEntries (sampleHistory [.imageLoad photoA true, .imageRotateLeft])
      (screenUndoRedo sampleWx sampleSize (sampleEnv 10)
        (sampleHistory [.imageLoad photoA true, .imageRotateLeft])) := by
  refine (undoRedo_inverse sampleWx sampleSize (sampleEnv 10) _ (by decide) ?_).2 _ rfl
    ⟨by decide, by decide, by decide⟩ ?_
  · intro snapshot member
    cases List.mem_singleton.mp member
    decide
  · refine ⟨⟨?_, ?_, ?_, ?_⟩, ?_, ?_, ?_⟩ <;> decide +kernel

/-- Where the image is shown in full, the selection of the undo point comes back halved. -/
example :
    (screenUndoRedo sampleWx sampleSize (sampleEnv 10)
      (.ofFrame (sampleFrame 10 [.imageLoad photoA true, .imageRotateLeft])
        (sampleBox .realSize 1 ⟨2, 8⟩ ⟨8, 2⟩) ⟨10, 10, 20, 20⟩ ⟨2, 2, 7, 7⟩
        .fitToPageIfLarger)).undoEntries.map (fun
          | .image snapshot => snapshot.rectTracker
          | .move _ => nullRect) = [⟨5, 5, 10, 10⟩] := by
  decide +kernel

/-- A photo moved to another folder stays in its old folder after undo and redo. -/
theorem undoRedo_move_fails :
    (sampleHistory [.imageLoad photoA true, .fileMove (some ["c"])]).frame.files.content
        ⟨["c"], "p.jpg"⟩ = some [1] ∧
      (screenUndoRedo sampleWx sampleSize (sampleEnv 10)
        (sampleHistory [.imageLoad photoA true, .fileMove (some ["c"])])).frame.files.content
        ⟨["c"], "p.jpg"⟩ = none ∧
      ¬ SameEntries (sampleHistory [.imageLoad photoA true, .fileMove (some ["c"])])
        (screenUndoRedo sampleWx sampleSize (sampleEnv 10)
          (sampleHistory [.imageLoad photoA true, .fileMove (some ["c"])])) := by
  refine ⟨by decide, by decide, fun same => ?_⟩
  exact absurd same.document.sOriginalFilename (by decide)

end RPhoto.Editing
