import RPhoto.Editing.UndoHistory
import RPhoto.Library.Stretches

/-!
# Ownership of temporary files

Several history entries and the document may name the same temporary file, and
each of these entries removes it when it is dropped.  Laid out in a line (the undo
list, the document, the redo list from its newest entry on) the users of one file
stand together, so an undo point takes a used file away only where it cuts between
two neighbours that name the same file.
-/

namespace RPhoto.Editing

open RPhoto.Jpeg RPhoto.Library

variable {Pixels : Type}

/-- The temporary file the document works on. -/
def currentOwner (document : Document Pixels) : Option FileName :=
  if document.bTemp then some document.sFilename else none

/-- The temporary files along the undo list, the document and the redo list. -/
def timeline (document : Document Pixels) : List (Option FileName) :=
  document.historyUndo.map RpUndo.owner ++ currentOwner document ::
    document.historyRedo.reverse.map RpUndo.owner

/-- The owners up to and with the document. -/
def past (document : Document Pixels) : List (Option FileName) :=
  document.historyUndo.map RpUndo.owner ++ [currentOwner document]

/-- The owners the redo list adds. -/
def future (document : Document Pixels) : List (Option FileName) :=
  document.historyRedo.reverse.map RpUndo.owner

/--
The two cuts of an undo point: clearing the redo list cuts behind the document,
and the limit cuts off the oldest entries, the new snapshot of the document
included.  Neither cut separates two neighbours that name the same file.
-/
def UndoPointClean (limit : Nat) (document : Document Pixels) : Prop :=
  let excess := (past document).length - limit
  CutClean (past document) (future document) ∧
    CutClean ((past document).take excess)
      ((past document).drop excess ++ [currentOwner document])

instance (limit : Nat) (document : Document Pixels) : Decidable (UndoPointClean limit document) :=
  inferInstanceAs (Decidable (_ ∧ _))

section Photos

variable (Photo : FileName → Prop)

/-- The original is a photo, and so is the working file unless it is a temporary one. -/
def OnPhoto (sOriginalFilename sFilename : FileName) (bTemp : Bool) : Prop :=
  Photo sOriginalFilename ∧ (bTemp = false → Photo sFilename)

/-- Photos and used temporary files are on disk and apart, and uses of one file stand together. -/
structure TemporariesHeld (document : Document Pixels) : Prop where
  photos : ∀ name, Photo name → document.files.Holds name
  unowned : ∀ name, Photo name → some name ∉ timeline document
  owned : ∀ name, some name ∈ timeline document → document.files.Holds name
  stretched : Stretched (timeline document)
  current : OnPhoto Photo document.sOriginalFilename document.sFilename document.bTemp
  entries : ∀ snapshot, .image snapshot ∈ document.historyUndo ++ document.historyRedo →
    OnPhoto Photo snapshot.sOriginalFilename snapshot.sFilename snapshot.bTemp
  noMoves : ∀ action, .move action ∉ document.historyUndo ++ document.historyRedo

end Photos

/-! ## The line of owners -/

theorem timeline_eq (document : Document Pixels) :
    timeline document = past document ++ future document := by
  simp [timeline, past, future]

@[simp]
theorem owner_save (document : Document Pixels) :
    RpUndo.owner (.image (RpImage.save document)) = currentOwner document := rfl

theorem mem_owners {entries : List (RpUndo Pixels)} {entry : RpUndo Pixels} {name : FileName}
    (member : entry ∈ entries) (owner : entry.owner = some name) :
    some name ∈ entries.map RpUndo.owner :=
  owner ▸ List.mem_map_of_mem member

namespace TemporariesHeld

variable {Photo : FileName → Prop} {document after : Document Pixels}

/-- The line of owners stays, and no file disappears. -/
theorem of_timeline (held : TemporariesHeld Photo document)
    (files : ∀ name, document.files.Holds name → after.files.Holds name)
    (line : timeline after = timeline document)
    (current : OnPhoto Photo after.sOriginalFilename after.sFilename after.bTemp)
    (entries : ∀ snapshot, .image snapshot ∈ after.historyUndo ++ after.historyRedo →
      OnPhoto Photo snapshot.sOriginalFilename snapshot.sFilename snapshot.bTemp)
    (noMoves : ∀ action, .move action ∉ after.historyUndo ++ after.historyRedo) :
    TemporariesHeld Photo after where
  photos := fun name photo => files name (held.photos name photo)
  unowned := by
    rw [line]
    exact held.unowned
  owned := by
    rw [line]
    exact fun name member => files name (held.owned name member)
  stretched := by
    rw [line]
    exact held.stretched
  current := current
  entries := entries
  noMoves := noMoves

/-- Only the files may change, and none may disappear. -/
theorem congr (held : TemporariesHeld Photo document)
    (files : ∀ name, document.files.Holds name → after.files.Holds name)
    (original : after.sOriginalFilename = document.sOriginalFilename)
    (name : after.sFilename = document.sFilename) (temp : after.bTemp = document.bTemp)
    (undo : after.historyUndo = document.historyUndo)
    (redo : after.historyRedo = document.historyRedo) : TemporariesHeld Photo after := by
  refine held.of_timeline files ?_ ?_ ?_ ?_
  · simp [timeline, currentOwner, name, temp, undo, redo]
  · rw [original, name, temp]
    exact held.current
  · rw [undo, redo]
    exact held.entries
  · rw [undo, redo]
    exact held.noMoves

/-- The document works on a file that is on disk. -/
theorem holds_sFilename (held : TemporariesHeld Photo document) :
    document.files.Holds document.sFilename := by
  cases temp : document.bTemp with
  | false => exact held.photos _ (held.current.2 temp)
  | true => exact held.owned _ (by simp [timeline, currentOwner, temp])

theorem holds_snapshot (held : TemporariesHeld Photo document) {snapshot : RpImage Pixels}
    (member : .image snapshot ∈ document.historyUndo ++ document.historyRedo) :
    document.files.Holds snapshot.sFilename := by
  cases temp : snapshot.bTemp with
  | false => exact held.photos _ ((held.entries snapshot member).2 temp)
  | true =>
      have owner : RpUndo.owner (.image snapshot) = some snapshot.sFilename := by
        simp [RpUndo.owner, RpImage.owner, temp]
      refine held.owned _ ?_
      rcases List.mem_append.mp member with inUndo | inRedo
      · exact List.mem_append_left _ (mem_owners inUndo owner)
      · exact List.mem_append_right _
          (List.mem_cons_of_mem _ (mem_owners (List.mem_reverse.mpr inRedo) owner))

/-! ### Undo points -/

theorem owners_appended (frame : Frame Pixels) :
    (appended frame).map RpUndo.owner = past frame.toDocument := by
  simp [appended, past]

/-- The undo list is longer by the snapshot, the redo list is empty, and the limit cuts. -/
theorem undoPoint_timeline (limit : Nat) (frame : Frame Pixels) :
    timeline (limitUndo limit (appendUndo (clearRedo frame))).toDocument =
      (past frame.toDocument).drop ((past frame.toDocument).length - limit) ++
        [currentOwner frame.toDocument] := by
  have lengths : (appended frame).length = (past frame.toDocument).length := by
    rw [← owners_appended, List.length_map]
  rw [timeline, undoPoint_historyUndo, List.map_drop, owners_appended, lengths]
  rfl

/-- A file that neither the redo list nor the dropped entries own survives the undo point. -/
theorem undoPoint_content {limit : Nat} {frame : Frame Pixels} {name : FileName}
    (notRedone : some name ∉ future frame.toDocument)
    (notDropped : some name ∉
      (past frame.toDocument).take ((past frame.toDocument).length - limit)) :
    (limitUndo limit (appendUndo (clearRedo frame))).files.content name =
      frame.files.content name := by
  have lengths : (appended frame).length = (past frame.toDocument).length := by
    rw [← owners_appended, List.length_map]
  have dropped : ∀ entry ∈ (appended frame).take ((appended frame).length - limit),
      entry.owner ≠ some name := by
    intro entry member owner
    refine notDropped ?_
    rw [← owners_appended, ← List.map_take, List.length_map]
    exact mem_owners member owner
  have redone : ∀ entry ∈ frame.historyRedo, entry.owner ≠ some name := by
    intro entry member owner
    exact notRedone (mem_owners (List.mem_reverse.mpr member) owner)
  exact (content_destroyAll_of_notOwned dropped).trans (content_destroyAll_of_notOwned redone)

/-- An undo point whose cuts are clean removes no file that is still used. -/
theorem undoPoint {limit : Nat} {frame : Frame Pixels}
    (held : TemporariesHeld Photo frame.toDocument)
    (clean : UndoPointClean limit frame.toDocument) :
    TemporariesHeld Photo (limitUndo limit (appendUndo (clearRedo frame))).toDocument := by
  have line : Stretched (past frame.toDocument ++ future frame.toDocument) :=
    timeline_eq frame.toDocument ▸ held.stretched
  have redoFree : SplitFree (past frame.toDocument) (future frame.toDocument) :=
    line.splitFree clean.1
  have doubled : Stretched (past frame.toDocument ++ [currentOwner frame.toDocument]) :=
    line.front.concat (.inr (.inl (by simp [past])))
  have shape : past frame.toDocument ++ [currentOwner frame.toDocument] =
      (past frame.toDocument).take ((past frame.toDocument).length - limit) ++
        ((past frame.toDocument).drop ((past frame.toDocument).length - limit) ++
          [currentOwner frame.toDocument]) := by
    rw [← List.append_assoc, List.take_append_drop]
  rw [shape] at doubled
  have dropFree := doubled.splitFree clean.2
  have inPast : ∀ name, some name ∈
      (past frame.toDocument).drop ((past frame.toDocument).length - limit) ++
        [currentOwner frame.toDocument] → some name ∈ past frame.toDocument := by
    intro name member
    rcases List.mem_append.mp member with kept | isCurrent
    · exact List.mem_of_mem_drop kept
    · exact List.mem_append_right _ isCurrent
  have usedContent : ∀ name, some name ∈
      (past frame.toDocument).drop ((past frame.toDocument).length - limit) ++
        [currentOwner frame.toDocument] →
      (limitUndo limit (appendUndo (clearRedo frame))).files.content name =
        frame.files.content name := by
    intro name member
    exact undoPoint_content (redoFree name (inPast name member))
      fun dropped => dropFree name dropped member
  have photoContent : ∀ name, Photo name →
      (limitUndo limit (appendUndo (clearRedo frame))).files.content name =
        frame.files.content name := by
    intro name photo
    have free := held.unowned name photo
    rw [timeline_eq] at free
    exact undoPoint_content (fun member => free (List.mem_append_right _ member))
      fun member => free (List.mem_append_left _ (List.mem_of_mem_take member))
  exact {
    photos := fun name photo => by
      rw [FileStore.Holds, photoContent name photo]
      exact held.photos name photo
    unowned := fun name photo member => by
      rw [undoPoint_timeline] at member
      refine held.unowned name photo ?_
      rw [timeline_eq]
      exact List.mem_append_left _ (inPast name member)
    owned := fun name member => by
      rw [undoPoint_timeline] at member
      rw [FileStore.Holds, usedContent name member]
      refine held.owned name ?_
      rw [timeline_eq]
      exact List.mem_append_left _ (inPast name member)
    stretched := by
      rw [undoPoint_timeline]
      exact doubled.back
    current := held.current
    entries := fun snapshot member => by
      rcases mem_undoPoint member with inUndo | isCurrent
      · exact held.entries snapshot (List.mem_append_left _ inUndo)
      · cases isCurrent
        exact held.current
    noMoves := fun action member => by
      rcases mem_undoPoint member with inUndo | isCurrent
      · exact held.noMoves action (List.mem_append_left _ inUndo)
      · cases isCurrent }

/-! ### A new working file -/

/-- With nothing to redo the document may change to a photo or to a new temporary file. -/
theorem switch (held : TemporariesHeld Photo document)
    (noRedo : document.historyRedo = []) (undo : after.historyUndo = document.historyUndo)
    (redo : after.historyRedo = [])
    (files : ∀ name, document.files.Holds name → after.files.Holds name)
    (current : OnPhoto Photo after.sOriginalFilename after.sFilename after.bTemp)
    (fresh : ∀ name, currentOwner after = some name →
      ¬ document.files.Holds name ∧ after.files.Holds name) :
    TemporariesHeld Photo after := by
  have lineBefore : timeline document =
      document.historyUndo.map RpUndo.owner ++ [currentOwner document] := by
    simp [timeline, noRedo]
  have lineAfter : timeline after =
      document.historyUndo.map RpUndo.owner ++ [currentOwner after] := by
    simp [timeline, undo, redo]
  have older : ∀ name, some name ∈ document.historyUndo.map RpUndo.owner →
      some name ∈ timeline document := fun name member =>
    lineBefore ▸ List.mem_append_left _ member
  have cases : ∀ name, some name ∈ timeline after →
      some name ∈ document.historyUndo.map RpUndo.owner ∨ currentOwner after = some name := by
    intro name member
    rw [lineAfter] at member
    exact (List.mem_append.mp member).imp id fun isCurrent =>
      (List.mem_singleton.mp isCurrent).symm
  exact {
    photos := fun name photo => files name (held.photos name photo)
    unowned := fun name photo member => by
      rcases cases name member with inUndo | isCurrent
      · exact held.unowned name photo (older name inUndo)
      · exact (fresh name isCurrent).1 (held.photos name photo)
    owned := fun name member => by
      rcases cases name member with inUndo | isCurrent
      · exact files name (held.owned name (older name inUndo))
      · exact (fresh name isCurrent).2
    stretched := by
      have front : Stretched (document.historyUndo.map RpUndo.owner) :=
        (lineBefore ▸ held.stretched).front
      rw [lineAfter]
      refine front.concat ?_
      cases owner : currentOwner after with
      | none => exact .inl rfl
      | some name =>
          exact .inr (.inr fun member => (fresh name owner).1 (held.owned name (older name member)))
    current := current
    entries := fun snapshot member => held.entries snapshot (by
      rw [undo, redo] at member
      rwa [noRedo])
    noMoves := fun action member => held.noMoves action (by
      rw [undo, redo] at member
      rwa [noRedo]) }

/-! ### Undo and redo -/

theorem filesExist (held : TemporariesHeld Photo document) {snapshot : RpImage Pixels}
    (member : .image snapshot ∈ document.historyUndo ++ document.historyRedo) :
    snapshot.FilesExist document.files :=
  ⟨held.photos _ (held.entries snapshot member).1, held.holds_snapshot member⟩

/-- What the entries of the shifted lists are: entries of the lists before, or the document. -/
theorem shifted {snapshot : RpImage Pixels} (held : TemporariesHeld Photo document)
    (member : .image snapshot ∈ document.historyUndo ++ document.historyRedo)
    (names : after.sOriginalFilename = snapshot.sOriginalFilename ∧
      after.sFilename = snapshot.sFilename ∧ after.bTemp = snapshot.bTemp)
    (files : after.files = document.files) (line : timeline after = timeline document)
    (lists : ∀ entry, entry ∈ after.historyUndo ++ after.historyRedo →
      entry ∈ document.historyUndo ++ document.historyRedo ∨
        entry = .image (RpImage.save document)) :
    TemporariesHeld Photo after := by
  refine held.of_timeline (fun _ present => files ▸ present) line ?_ ?_ ?_
  · rw [names.1, names.2.1, names.2.2]
    exact held.entries snapshot member
  · intro other otherMember
    rcases lists _ otherMember with before | isCurrent
    · exact held.entries other before
    · cases isCurrent
      exact held.current
  · intro action actionMember
    rcases lists _ actionMember with before | isCurrent
    · exact held.noMoves action before
    · cases isCurrent

/-- The document moves one place back in the line. -/
theorem shiftBack {snapshot : RpImage Pixels} (held : TemporariesHeld Photo document)
    (undo : document.historyUndo = after.historyUndo ++ [.image snapshot])
    (redo : after.historyRedo = document.historyRedo ++ [.image (RpImage.save document)])
    (names : after.sOriginalFilename = snapshot.sOriginalFilename ∧
      after.sFilename = snapshot.sFilename ∧ after.bTemp = snapshot.bTemp)
    (files : after.files = document.files) : TemporariesHeld Photo after := by
  refine held.shifted (by simp [undo]) names files ?_ ?_
  · have here : currentOwner after = RpUndo.owner (.image snapshot) := by
      rw [currentOwner, names.2.1, names.2.2]
      rfl
    simp [timeline, undo, redo, here]
  · intro entry member
    simp only [redo, undo, List.mem_append, List.mem_singleton] at member ⊢
    grind

/-- The document moves one place forward in the line. -/
theorem shiftForward {snapshot : RpImage Pixels} (held : TemporariesHeld Photo document)
    (redo : document.historyRedo = after.historyRedo ++ [.image snapshot])
    (undo : after.historyUndo = document.historyUndo ++ [.image (RpImage.save document)])
    (names : after.sOriginalFilename = snapshot.sOriginalFilename ∧
      after.sFilename = snapshot.sFilename ∧ after.bTemp = snapshot.bTemp)
    (files : after.files = document.files) : TemporariesHeld Photo after := by
  refine held.shifted (by simp [redo]) names files ?_ ?_
  · have here : currentOwner after = RpUndo.owner (.image snapshot) := by
      rw [currentOwner, names.2.1, names.2.2]
      rfl
    simp [timeline, undo, redo, here]
  · intro entry member
    simp only [redo, undo, List.mem_append, List.mem_singleton] at member ⊢
    grind

variable {wx : Wx Pixels} {env : Environment Pixels} {frame : Frame Pixels}

/-- An undo keeps used temporary files, and does not end a load. -/
theorem imageUndo (held : TemporariesHeld Photo frame.toDocument) :
    TemporariesHeld Photo (onImageUndo wx env frame).toDocument ∧
      (onImageUndo wx env frame).isFileLoading = frame.isFileLoading := by
  refine onImageUndo_elim (motive := fun after => TemporariesHeld Photo after.toDocument ∧
    after.isFileLoading = frame.isFileLoading) ⟨held, rfl⟩ ?_ ?_ ?_
  · intro older snapshot newest _
    exact ⟨held.shiftBack newest rfl ⟨rfl, rfl, rfl⟩ rfl, rfl⟩
  · intro older snapshot newest missing
    exact absurd (held.filesExist (by simp [newest])) missing
  · intro older action newest
    exact absurd (by simp [newest]) (held.noMoves action)

/-- A redo keeps used temporary files, and does not end a load. -/
theorem imageRedo (held : TemporariesHeld Photo frame.toDocument) :
    TemporariesHeld Photo (onImageRedo wx env frame).toDocument ∧
      (onImageRedo wx env frame).isFileLoading = frame.isFileLoading := by
  refine onImageRedo_elim (motive := fun after => TemporariesHeld Photo after.toDocument ∧
    after.isFileLoading = frame.isFileLoading) ⟨held, rfl⟩ ?_ ?_ ?_
  · intro later snapshot newest _
    exact ⟨held.shiftForward newest rfl ⟨rfl, rfl, rfl⟩ rfl, rfl⟩
  · intro later snapshot newest missing
    exact absurd (held.filesExist (by simp [newest])) missing
  · intro later action newest
    exact absurd (by simp [newest]) (held.noMoves action)

end TemporariesHeld

end RPhoto.Editing
