import RPhoto.Editing.SampleWorld
import RPhoto.Library.Recorded

/-!
# The dirty flag over whole runs

A document that is not dirty shows the photo on disk.  The invariant says the same
of every history entry, since an undo or a redo puts back the flag of its entry
together with the image.  A lossless entry keeps no image, so the file it names
has to decode to the photo; such files are written only before an entry names them.
-/

namespace RPhoto.Editing

open RPhoto.Jpeg RPhoto.Library

variable {Pixels : Type}

section Photos

variable (wx : Wx Pixels) (photoFiles : FileName → Option Bytes)

/-- The image is the decoding of the photo. -/
def IsPhoto (sOriginalFilename : FileName) (image : Option (Image Pixels)) : Prop :=
  ∃ decoded, (photoFiles sOriginalFilename).bind wx.decode = some decoded ∧ image = some decoded

/-- A snapshot that is not dirty restores the photo, and no snapshot owns a photo. -/
structure SoundSnapshot (written : FileName → Option Bytes) (snapshot : RpImage Pixels) :
    Prop where
  notPhoto : snapshot.bTemp = true → photoFiles snapshot.sFilename = none
  file : snapshot.bDirty = false →
    IsPhoto wx photoFiles snapshot.sOriginalFilename ((written snapshot.sFilename).bind wx.decode)
  image : snapshot.bDirty = false → snapshot.bJPEGlossless = false →
    IsPhoto wx photoFiles snapshot.sOriginalFilename snapshot.image

/-- The photos are on disk as they were, and all snapshots are sound. -/
structure SoundHistory (document : Document Pixels) : Prop where
  photos : ∀ name data, photoFiles name = some data → document.files.content name = some data
  entries : ∀ snapshot, .image snapshot ∈ document.historyUndo ++ document.historyRedo →
    SoundSnapshot wx photoFiles document.files.written snapshot

/-- The document shows the photo unless it is dirty; it is dirty if that is asked for. -/
structure SoundFrame (must : Bool) (frame : Frame Pixels) : Prop where
  history : SoundHistory wx photoFiles frame.toDocument
  notPhoto : frame.bTemp = true → photoFiles frame.sFilename = none
  file : frame.bDirty = false →
    IsPhoto wx photoFiles frame.sOriginalFilename
      ((frame.files.written frame.sFilename).bind wx.decode)
  image : frame.bDirty = false → IsPhoto wx photoFiles frame.sOriginalFilename frame.image
  isDirty : must = true → frame.bDirty = true

/-- No history entry names the working file, which is not a photo. -/
def Unshared (document : Document Pixels) : Prop :=
  photoFiles document.sFilename = none ∧
    ∀ snapshot, .image snapshot ∈ document.historyUndo ++ document.historyRedo →
      snapshot.sFilename ≠ document.sFilename

/--
A lossless operation has named its new working file and will copy the source to
it: the source of a document that is not dirty decodes to the photo.
-/
structure SwitchedFrame (source : FileName) (must : Bool) (frame : Frame Pixels) : Prop where
  history : SoundHistory wx photoFiles frame.toDocument
  unshared : Unshared photoFiles frame.toDocument
  source : frame.bDirty = false → ∀ data, frame.files.content source = some data →
    IsPhoto wx photoFiles frame.sOriginalFilename (wx.decode data)
  image : frame.bDirty = false → IsPhoto wx photoFiles frame.sOriginalFilename frame.image
  isDirty : must = true → frame.bDirty = true

end Photos

/--
The conditions on the calls of a run: a new temporary file has a name that is not
on disk and that nothing names, and a document that is not dirty is copied
without a fault.
-/
def CallClean (entry : Call × Document Pixels) : Prop :=
  match entry.1 with
  | .createTempFileName name =>
      name ≠ noFile ∧ ¬ entry.2.files.Holds name ∧ name ≠ entry.2.sFilename ∧
        ∀ undo ∈ entry.2.historyUndo ++ entry.2.historyRedo,
          match undo with
          | .image snapshot => snapshot.sFilename ≠ name
          | .move _ => True
  | .copyFile succeeded => entry.2.bDirty = false → succeeded = true
  | _ => True

/-- The name is not that of a snapshot. -/
def RpUndo.Avoids (name : FileName) : RpUndo Pixels → Prop
  | .image snapshot => snapshot.sFilename ≠ name
  | .move _ => True

instance (name : FileName) : (undo : RpUndo Pixels) → Decidable (undo.Avoids name)
  | .image snapshot => inferInstanceAs (Decidable (snapshot.sFilename ≠ name))
  | .move _ => instDecidableTrue

instance : (entry : Call × Document Pixels) → Decidable (CallClean entry)
  | (.createTempFileName name, document) =>
      inferInstanceAs (Decidable (name ≠ noFile ∧ ¬ document.files.Holds name ∧
        name ≠ document.sFilename ∧
          ∀ undo ∈ document.historyUndo ++ document.historyRedo, undo.Avoids name))
  | (.copyFile succeeded, document) =>
      inferInstanceAs (Decidable (document.bDirty = false → succeeded = true))
  | (.undoPoint _, _) | (.jpegtran _ _, _) | (.jhead _, _) | (.wrjpgcom _, _) | (.loadFile _, _)
  | (.saveFile _, _) | (.imageLoad _, _) | (.autorotate, _) | (.inclination, _) =>
      instDecidableTrue

section Steps

variable {wx : Wx Pixels} {photoFiles : FileName → Option Bytes} {must must' : Bool}
  {source : FileName} {first last frame : Frame Pixels}

/-- Going from one frame to another keeps the flag sound, given clean calls. -/
abbrev KeepsSound (wx : Wx Pixels) (photoFiles : FileName → Option Bytes) (must must' : Bool)
    (first last : Frame Pixels) : Prop :=
  Keeps Frame.calls CallClean (SoundFrame wx photoFiles must) (SoundFrame wx photoFiles must')
    first last

/-- The histories stay, and the written files that entries name stay. -/
theorem SoundHistory.congr {document after : Document Pixels}
    (history : SoundHistory wx photoFiles document)
    (kept : ∀ name data, photoFiles name = some data → document.files.content name = some data →
      after.files.content name = some data)
    (undo : after.historyUndo = document.historyUndo)
    (redo : after.historyRedo = document.historyRedo)
    (written : ∀ snapshot, .image snapshot ∈ document.historyUndo ++ document.historyRedo →
      after.files.written snapshot.sFilename = document.files.written snapshot.sFilename) :
    SoundHistory wx photoFiles after where
  photos := fun name data photo => kept name data photo (history.photos name data photo)
  entries := by
    rw [undo, redo]
    intro snapshot member
    have sound := history.entries snapshot member
    refine ⟨sound.notPhoto, fun notDirty => ?_, sound.image⟩
    rw [written snapshot member]
    exact sound.file notDirty

/-- A write to an unshared working file touches no photo and no file of an entry. -/
theorem SoundHistory.write (history : SoundHistory wx photoFiles first.toDocument)
    (unshared : Unshared photoFiles first.toDocument) (data : Bytes)
    (files : last.files = first.files.write first.sFilename data)
    (undo : last.historyUndo = first.historyUndo) (redo : last.historyRedo = first.historyRedo) :
    SoundHistory wx photoFiles last.toDocument := by
  refine history.congr (fun name photoData photo present => ?_) undo redo
    (fun snapshot member => ?_)
  · have different : name ≠ first.sFilename := fun same => by
      rw [same, unshared.1] at photo
      cases photo
    rw [files, FileStore.content_write_of_ne different, present]
  · rw [files, FileStore.written_write_of_ne (unshared.2 snapshot member)]

/-- A snapshot whose temporary file is no photo owns no photo. -/
theorem notOwner_of_photo {snapshot : RpImage Pixels} {name : FileName} {data : Bytes}
    (notPhoto : snapshot.bTemp = true → photoFiles snapshot.sFilename = none)
    (photo : photoFiles name = some data) : snapshot.owner ≠ some name := by
  intro owner
  unfold RpImage.owner at owner
  split at owner
  · rename_i temp
    cases owner
    rw [notPhoto temp] at photo
    cases photo
  · cases owner

/-- The snapshot of a sound document is sound. -/
theorem SoundFrame.save (sound : SoundFrame wx photoFiles must frame) :
    SoundSnapshot wx photoFiles frame.files.written (RpImage.save frame.toDocument) where
  notPhoto := sound.notPhoto
  file := sound.file
  image := by
    intro notDirty lossy
    have shown : (RpImage.save frame.toDocument).image = frame.image :=
      if_neg (Bool.eq_false_iff.mp lossy)
    rw [shown]
    exact sound.image notDirty

/-- Entries may go, and the snapshot of the document may join them. -/
theorem SoundFrame.exchange (sound : SoundFrame wx photoFiles must first)
    (kept : ∀ name data, photoFiles name = some data → first.files.content name = some data →
      last.files.content name = some data)
    (written : last.files.written = first.files.written)
    (members : ∀ entry ∈ last.historyUndo ++ last.historyRedo,
      entry ∈ first.historyUndo ++ first.historyRedo ∨
        entry = .image (RpImage.save first.toDocument)) :
    SoundHistory wx photoFiles last.toDocument where
  photos := fun name data photo => kept name data photo (sound.history.photos name data photo)
  entries := by
    intro snapshot member
    rw [written]
    rcases members _ member with earlier | isNew
    · exact sound.history.entries snapshot earlier
    · cases isNew
      exact sound.save

/-- The parts of a frame a sound flag depends on. -/
def shownParts (frame : Frame Pixels) :=
  (frame.files, frame.sOriginalFilename, frame.sFilename, frame.bTemp, frame.image,
    frame.historyUndo, frame.historyRedo)

/-- A change of other parts; the flag may be raised. -/
theorem SoundFrame.congr (sound : SoundFrame wx photoFiles must first)
    (same : shownParts last = shownParts first)
    (raised : first.bDirty = true → last.bDirty = true) : SoundFrame wx photoFiles must last := by
  simp only [shownParts, Prod.mk.injEq] at same
  obtain ⟨files, original, name, temp, image, undo, redo⟩ := same
  have notDirty : last.bDirty = false → first.bDirty = false := fun clean =>
    Bool.eq_false_iff.mpr fun dirty => Bool.eq_false_iff.mp clean (raised dirty)
  refine ⟨sound.history.congr (fun _ _ _ present => files ▸ present) undo redo
    (fun _ _ => by rw [files]), ?_, ?_, ?_, fun asked => raised (sound.isDirty asked)⟩
  · rw [temp, name]
    exact sound.notPhoto
  · intro clean
    rw [files, original, name]
    exact sound.file (notDirty clean)
  · intro clean
    rw [image, original]
    exact sound.image (notDirty clean)

theorem SoundFrame.updated (sound : SoundFrame wx photoFiles must first) :
    SoundFrame wx photoFiles must (updateControlsState first) :=
  sound.congr rfl fun dirty => by simp [updateControlsState, dirty]

/-- In a dirty document the image may change too. -/
theorem SoundFrame.dirtied (sound : SoundFrame wx photoFiles must first)
    (files : last.files = first.files) (name : last.sFilename = first.sFilename)
    (temp : last.bTemp = first.bTemp) (undo : last.historyUndo = first.historyUndo)
    (redo : last.historyRedo = first.historyRedo) (isDirty : last.bDirty = true) :
    SoundFrame wx photoFiles must' last where
  history := sound.history.congr (fun _ _ _ present => files ▸ present) undo redo
    (fun _ _ => by rw [files])
  notPhoto := by
    rw [temp, name]
    exact sound.notPhoto
  file := fun clean => absurd (clean.symm.trans isDirty) Bool.false_ne_true
  image := fun clean => absurd (clean.symm.trans isDirty) Bool.false_ne_true
  isDirty := fun _ => isDirty

theorem SoundFrame.weaken (sound : SoundFrame wx photoFiles must frame) :
    SoundFrame wx photoFiles false frame :=
  ⟨sound.history, sound.notPhoto, sound.file, sound.image, fun asked => nomatch asked⟩

theorem keepsSound_weaken (keeps : KeepsSound wx photoFiles must must' first last) :
    KeepsSound wx photoFiles must false first last :=
  keeps.mono id SoundFrame.weaken

/-- What a copy leaves at the working file touches nothing else. -/
theorem SwitchedFrame.fill (switched : SwitchedFrame wx photoFiles source must first)
    {outcome : Option Bytes} (succeeds : first.bDirty = false →
      ∃ data, first.files.content source = some data ∧ outcome = some data)
    (files : last.files = writeOutcome first.sFilename outcome first.files)
    (same : last.toDocument = { first.toDocument with files := last.files }) :
    SoundFrame wx photoFiles must last ∧ Unshared photoFiles last.toDocument := by
  have unshared : Unshared photoFiles last.toDocument := by
    rw [same]
    exact switched.unshared
  have notPhoto : photoFiles last.sFilename = none := unshared.1
  refine ⟨?_, unshared⟩
  have history : SoundHistory wx photoFiles last.toDocument := by
    cases outcome with
    | none =>
        rw [same, files]
        exact switched.history
    | some data =>
        exact switched.history.write switched.unshared data files (by rw [same]) (by rw [same])
  have clean : last.bDirty = first.bDirty := by rw [same]
  have original : last.sOriginalFilename = first.sOriginalFilename := by rw [same]
  have name : last.sFilename = first.sFilename := by rw [same]
  have image : last.image = first.image := by rw [same]
  refine ⟨history, fun _ => notPhoto, fun notDirty => ?_, fun notDirty => ?_, fun asked => ?_⟩
  · rw [clean] at notDirty
    obtain ⟨data, present, rfl⟩ := succeeds notDirty
    have written : last.files.written last.sFilename = some data := by
      rw [files, name]
      exact FileStore.written_write_self _ _ _
    rw [written, original]
    exact switched.source notDirty data present
  · rw [clean] at notDirty
    rw [image, original]
    exact switched.image notDirty
  · rw [clean]
    exact switched.isDirty asked

/-- In a dirty document any image may be loaded. -/
theorem SwitchedFrame.loaded {name : FileName}
    (switched : SwitchedFrame wx photoFiles source true frame) :
    SoundFrame wx photoFiles true (boxLoadFile wx name frame) := by
  have isDirty : (boxLoadFile wx name frame).bDirty = true := switched.isDirty rfl
  exact {
    history := switched.history.congr (fun _ _ _ => id) rfl rfl fun _ _ => rfl
    notPhoto := fun _ => switched.unshared.1
    file := fun clean => absurd (clean.symm.trans isDirty) Bool.false_ne_true
    image := fun clean => absurd (clean.symm.trans isDirty) Bool.false_ne_true
    isDirty := fun _ => isDirty }

/-- A jpegtran command leaves the decoding of every file as it was. -/
def KeepsDecoding (wx : Wx Pixels) (env : Environment Pixels) (command : JpegtranCommand) : Prop :=
  ∀ (frame : Frame Pixels) (attempt : Attempt) (data output : Bytes),
    (env frame).jpegtran attempt command data = some output → wx.decode output = wx.decode data

theorem KeepsDecoding.jpegtranOutput {env : Environment Pixels} {command : JpegtranCommand}
    (keeps : KeepsDecoding wx env command) {frame : Frame Pixels} {source : Option Bytes}
    {data : Bytes} (output : jpegtranOutput (env frame) command source = some data) :
    ∃ input, source = some input ∧ wx.decode data = wx.decode input := by
  obtain ⟨input, rfl, attempts⟩ := Option.bind_eq_some_iff.mp output
  refine ⟨input, rfl, ?_⟩
  split at attempts
  · rename_i perfect
    cases attempts
    exact keeps frame _ _ _ perfect
  · exact keeps frame _ _ _ attempts

/-! ## Undo points and the new working file -/

variable (wx photoFiles) (env : Environment Pixels) (frame)

/-- An undo point drops no photo and adds a sound snapshot. -/
theorem keepsSound_imageUndoPoint :
    KeepsSound wx photoFiles must must frame (imageUndoPoint env frame) := by
  unfold imageUndoPoint
  split
  · exact .refl frame id
  · refine .entry rfl fun _ sound => ?_
    let pointed := limitUndo (env frame).undoHistory
      (appendUndo (clearRedo (frame.record (.undoPoint (env frame).undoHistory))))
    have files : pointed.files.written = frame.files.written := written_undoPoint _ _
    have history : SoundHistory wx photoFiles pointed.toDocument := by
      refine sound.exchange (fun name data photo present => ?_) files fun entry member =>
        (mem_undoPoint member).imp_left (List.mem_append_left _)
      refine (content_undoPoint fun entry dropped => ?_).trans present
      rcases mem_droppedEntries dropped with member | rfl
      · cases entry with
        | image snapshot =>
            exact notOwner_of_photo (sound.history.entries snapshot member).notPhoto photo
        | move action => exact fun owner => nomatch owner
      · exact notOwner_of_photo sound.notPhoto photo
    refine ⟨history, sound.notPhoto, ?_, sound.image, sound.isDirty⟩
    intro notDirty
    have shown := sound.file notDirty
    rw [← files] at shown
    exact shown

/-- The new name is unshared, and the old file is the source of the copy. -/
theorem keepsSound_switchToTemp :
    Keeps Frame.calls CallClean (SoundFrame wx photoFiles must)
      (SwitchedFrame wx photoFiles (sourceFilename frame.toDocument) must)
      frame (switchToTemp env frame) := by
  refine .entry rfl fun fine sound => ?_
  have named : (switchToTemp env frame).sFilename ≠ noFile := fine.1
  have fresh : ¬ frame.files.Holds (switchToTemp env frame).sFilename := fine.2.1
  have notSource : (switchToTemp env frame).sFilename ≠ sourceFilename frame.toDocument :=
    fine.2.2.1
  have files : (switchToTemp env frame).files =
      frame.files.write (switchToTemp env frame).sFilename [] := if_neg named
  have notPhoto : photoFiles (switchToTemp env frame).sFilename = none := by
    cases photo : photoFiles (switchToTemp env frame).sFilename with
    | none => rfl
    | some data =>
        have present := sound.history.photos _ data photo
        exact absurd (FileStore.holds_iff.mpr ⟨data, present⟩) fresh
  have unshared : Unshared photoFiles (switchToTemp env frame).toDocument :=
    ⟨notPhoto, fun snapshot member => fine.2.2.2 (.image snapshot) member⟩
  refine ⟨sound.history.congr (fun name data photo present => ?_) rfl rfl
    (fun snapshot member => ?_), unshared, ?_, sound.image, sound.isDirty⟩
  · have different : name ≠ (switchToTemp env frame).sFilename := fun same => by
      rw [same, notPhoto] at photo
      cases photo
    rw [files, FileStore.content_write_of_ne different, present]
  · rw [files, FileStore.written_write_of_ne (unshared.2 snapshot member)]
  · intro notDirty data present
    rw [files, FileStore.content_write_of_ne (Ne.symm notSource)] at present
    have file := sound.file notDirty
    cases temp : frame.bTemp with
    | true =>
        have source : sourceFilename frame.toDocument = frame.sFilename := if_pos temp
        rw [source] at present
        rw [frame.files.content_written present] at file
        exact file
    | false =>
        have source : sourceFilename frame.toDocument = frame.sOriginalFilename :=
          if_neg (Bool.eq_false_iff.mp temp)
        rw [source] at present
        obtain ⟨decoded, known, _⟩ := file
        obtain ⟨photoData, photo, decodes⟩ := Option.bind_eq_some_iff.mp known
        rw [sound.history.photos _ _ photo] at present
        cases present
        exact ⟨decoded, known, decodes⟩

/-! ## Filling the working file -/

theorem keepsSound_copyFile (source : FileName) :
    Keeps Frame.calls CallClean (SwitchedFrame wx photoFiles source must)
      (fun last => SoundFrame wx photoFiles must last ∧ Unshared photoFiles last.toDocument)
      frame (copyFile env source frame.sFilename frame) :=
  .entry rfl fun fine switched => switched.fill
    (fun notDirty => copyOutcome_succeeded (fine notDirty)) rfl rfl

theorem keepsSound_manualCopy (source : FileName) :
    Keeps Frame.calls CallClean (SwitchedFrame wx photoFiles source must)
      (fun last => SoundFrame wx photoFiles must last ∧ Unshared photoFiles last.toDocument)
      frame (manualCopy env source frame.sFilename frame).1 :=
  .entry rfl fun fine switched => switched.fill
    (fun notDirty => manualOutcome_succeeded (fine notDirty)) rfl rfl

theorem keepsSound_copyToTemp :
    Keeps Frame.calls CallClean (SoundFrame wx photoFiles must)
      (fun last => SoundFrame wx photoFiles must last ∧ Unshared photoFiles last.toDocument)
      frame (copyToTemp env frame).1 := by
  refine ((keepsSound_imageUndoPoint wx photoFiles frame env).trans
    (keepsSound_switchToTemp wx photoFiles _ env)).trans ?_
  unfold copyToTemp
  dsimp only
  split
  · exact keepsSound_copyFile wx photoFiles _ env _
  · exact keepsSound_manualCopy wx photoFiles _ env _

/-- A tool is run on the working file; unless the document is dirty it keeps the decoding. -/
theorem keepsSound_applyTool (call : Bool → Call) (output : Option Bytes)
    (same : must = false → ∀ data, output = some data →
      ∃ input, frame.files.content frame.sFilename = some input ∧
        wx.decode data = wx.decode input) :
    Keeps Frame.calls CallClean
      (fun frame => SoundFrame wx photoFiles must frame ∧ Unshared photoFiles frame.toDocument)
      (SoundFrame wx photoFiles must) frame (applyTool wx call output frame).1 := by
  cases output with
  | none =>
      have recorded : Keeps Frame.calls CallClean
          (fun frame => SoundFrame wx photoFiles must frame ∧ Unshared photoFiles frame.toDocument)
          (SoundFrame wx photoFiles must) frame (frame.record (call false)) :=
        .entry rfl fun _ known => known.1.congr rfl id
      exact recorded.trans (.silent rfl SoundFrame.updated)
  | some data =>
      let toolFrame : Frame Pixels :=
        { frame.record (call true) with files := frame.files.write frame.sFilename data }
      have written : Keeps Frame.calls CallClean
          (fun frame => SoundFrame wx photoFiles must frame ∧ Unshared photoFiles frame.toDocument)
          (fun last => SoundFrame wx photoFiles must last ∧
            (last.bDirty = false → IsPhoto wx photoFiles last.sOriginalFilename (wx.decode data)))
          frame toolFrame := by
        refine .entry rfl fun _ ⟨sound, unshared⟩ => ?_
        have decodes : toolFrame.bDirty = false →
            IsPhoto wx photoFiles toolFrame.sOriginalFilename (wx.decode data) := by
          intro notDirty
          have needless : must = false := Bool.eq_false_iff.mpr fun asked =>
            absurd (notDirty.symm.trans (sound.isDirty asked)) Bool.false_ne_true
          obtain ⟨input, present, sameImage⟩ := same needless data rfl
          have file := sound.file notDirty
          rw [frame.files.content_written present] at file
          rw [sameImage]
          exact file
        refine ⟨⟨sound.history.write unshared data rfl rfl rfl, fun _ => unshared.1,
          fun notDirty => ?_, sound.image, sound.isDirty⟩, decodes⟩
        have present : toolFrame.files.written toolFrame.sFilename = some data :=
          FileStore.written_write_self _ _ _
        rw [present]
        exact decodes notDirty
      have loaded : Keeps Frame.calls CallClean
          (fun last => SoundFrame wx photoFiles must last ∧
            (last.bDirty = false → IsPhoto wx photoFiles last.sOriginalFilename (wx.decode data)))
          (SoundFrame wx photoFiles must) toolFrame
          (boxLoadFile wx toolFrame.sFilename toolFrame) := by
        refine .entry rfl fun _ ⟨sound, decodes⟩ =>
          ⟨sound.history.congr (fun _ _ _ => id) rfl rfl fun _ _ => rfl, sound.notPhoto,
            sound.file, fun notDirty => ?_, sound.isDirty⟩
        obtain ⟨decoded, known, decodesTo⟩ := decodes notDirty
        refine ⟨decoded, known, ?_⟩
        have present : toolFrame.files.content toolFrame.sFilename = some data :=
          FileStore.content_write_self _ _ _
        simp [boxLoadFile, loadedImage, present, decodesTo]
      exact (written.trans loaded).trans (.silent rfl SoundFrame.updated)

theorem keepsSound_callJPEGTranTryPerfect (command : JpegtranCommand)
    (quiet : must = false → KeepsDecoding wx env command) :
    KeepsSound wx photoFiles must must frame (callJPEGTranTryPerfect wx env command frame).1 := by
  have copied := @keepsSound_copyToTemp _ wx photoFiles must frame env
  unfold callJPEGTranTryPerfect
  dsimp only
  split
  · exact copied.trans (keepsSound_applyTool wx photoFiles _ _ _ fun needless _ output =>
      (quiet needless).jpegtranOutput output)
  · exact copied.mono id And.left

/-! ## Image operations -/

theorem keepsSound_updateControlsState :
    KeepsSound wx photoFiles must must frame (updateControlsState frame) :=
  .silent rfl SoundFrame.updated

/-- From a call of `Dirty` on the image is free to change. -/
theorem keepsSound_dirty : KeepsSound wx photoFiles must true frame (dirty frame) :=
  .silent rfl fun sound => sound.dirtied rfl rfl rfl rfl rfl rfl

theorem keepsSound_beginImageManip :
    KeepsSound wx photoFiles must must frame (beginImageManip env frame) :=
  (keepsSound_imageUndoPoint wx photoFiles frame env).trans
    (.silent rfl fun sound => sound.congr rfl id)

theorem keepsSound_imageManip (transform : Transform) :
    KeepsSound wx photoFiles true true frame (imageManip wx env transform frame) := by
  refine (keepsSound_beginImageManip wx photoFiles frame env).trans ?_
  refine imageManip_elim (motive := KeepsSound wx photoFiles true true) fun begun => ?_
  refine .silent rfl fun sound => sound.dirtied rfl rfl rfl rfl rfl ?_
  have isDirty := sound.isDirty rfl
  simp [endImageManip, setTransformed, updateControlsState, isDirty]

theorem keepsSound_losslessOrManip (command : JpegtranCommand) (transform : Transform) :
    KeepsSound wx photoFiles true true frame (losslessOrManip wx env command transform frame) := by
  unfold losslessOrManip
  split
  · exact keepsSound_callJPEGTranTryPerfect wx photoFiles frame env command fun needless =>
      (nomatch needless)
  · exact keepsSound_imageManip wx photoFiles frame env transform

/-- The handlers that call `Dirty` first. -/
theorem keepsSound_dirty_losslessOrManip (command : JpegtranCommand) (transform : Transform) :
    KeepsSound wx photoFiles must true frame
      (losslessOrManip wx env command transform (dirty frame)) :=
  (keepsSound_dirty wx photoFiles frame).trans
    (keepsSound_losslessOrManip wx photoFiles _ env command transform)

/-- `OnImageFlipVertical` relies on a flag that is already raised. -/
theorem keepsSound_onImageFlipVertical (isDirty : frame.bDirty = true) :
    KeepsSound wx photoFiles must true frame (onImageFlipVertical wx env frame) :=
  (keepsSound_losslessOrManip wx photoFiles frame env .flipVertical (.mirror false)).mono
    (fun sound => { sound with isDirty := fun _ => isDirty }) id

theorem keepsSound_onImageCrop :
    KeepsSound wx photoFiles must must frame (onImageCrop wx env frame) := by
  unfold onImageCrop
  dsimp only
  split
  · exact (keepsSound_dirty_losslessOrManip wx photoFiles frame env _ _).mono id
      fun sound => { sound with isDirty := fun _ => sound.isDirty rfl }
  · exact .refl frame id

theorem keepsSound_onImageJPEGOptimize :
    KeepsSound wx photoFiles must true frame (onImageJPEGOptimize wx env frame) := by
  refine (keepsSound_dirty wx photoFiles frame).trans ?_
  unfold onImageJPEGOptimize
  dsimp only
  split
  · exact keepsSound_callJPEGTranTryPerfect wx photoFiles _ env .optimize fun needless =>
      (nomatch needless)
  · exact .refl _ id

/-- `OnImageJPEGProgressive` leaves the flag alone, and so it must leave the image alone. -/
theorem keepsSound_onImageJPEGProgressive (keepsDecoding : KeepsDecoding wx env .progressive) :
    KeepsSound wx photoFiles must must frame (onImageJPEGProgressive wx env frame) := by
  unfold onImageJPEGProgressive
  split
  · exact keepsSound_callJPEGTranTryPerfect wx photoFiles frame env .progressive
      fun _ => keepsDecoding
  · exact .refl frame id

theorem keepsSound_inclineImage :
    KeepsSound wx photoFiles must true frame (inclineImage wx env frame) := by
  have recorded : KeepsSound wx photoFiles must must frame (frame.record .inclination) :=
    .entry rfl fun _ sound => sound.congr rfl id
  refine (recorded.trans (keepsSound_beginImageManip wx photoFiles _ env)).trans ?_
  exact inclineImage_elim (motive := KeepsSound wx photoFiles must true) fun _ _ _ =>
    .silent rfl fun sound => sound.dirtied rfl rfl rfl rfl rfl rfl

theorem keepsSound_onImageInclin :
    KeepsSound wx photoFiles must must frame (onImageInclin wx env frame) := by
  have inclined : KeepsSound wx photoFiles must must frame (inclineImage wx env frame) :=
    (keepsSound_inclineImage wx photoFiles frame env).mono id
      fun sound => { sound with isDirty := fun _ => sound.isDirty rfl }
  unfold onImageInclin
  dsimp only
  split
  · split
    · exact inclined.trans (keepsSound_onImageCrop wx photoFiles _ env)
    · exact inclined
  · exact .refl frame id

theorem keepsSound_onToolAction :
    KeepsSound wx photoFiles must must frame (onToolAction wx env frame) := by
  unfold onToolAction
  split
  · exact keepsSound_onImageInclin wx photoFiles frame env
  · exact keepsSound_onImageCrop wx photoFiles frame env

theorem keepsSound_onModeInclin :
    KeepsSound wx photoFiles must must frame (onModeInclin wx env frame) := by
  have enters : ∀ entered : Frame Pixels, shownParts entered = shownParts frame →
      entered.calls = frame.calls → (frame.bDirty = true → entered.bDirty = true) →
      KeepsSound wx photoFiles must must frame (updateControlsState entered) :=
    fun _ same calls raised => .silent calls fun sound => (sound.congr same raised).updated
  unfold onModeInclin
  dsimp only
  split
  · exact (keepsSound_onImageInclin wx photoFiles frame env).trans
      (keepsSound_updateControlsState wx photoFiles _)
  · split
    · exact enters _ rfl rfl fun dirty => by simp [onToggleJPEGLossless, updateControlsState, dirty]
    · exact enters _ rfl rfl id

theorem keepsSound_onModeCrop :
    KeepsSound wx photoFiles must must frame (onModeCrop wx env frame) := by
  unfold onModeCrop
  split
  · refine .silent rfl fun sound => SoundFrame.updated ?_
    exact sound.congr rfl id
  · exact (keepsSound_onImageCrop wx photoFiles frame env).trans
      (keepsSound_updateControlsState wx photoFiles _)

theorem keepsSound_resize (destWidth destHeight : Int) :
    KeepsSound wx photoFiles must true frame (resize wx env destWidth destHeight frame) := by
  refine (keepsSound_beginImageManip wx photoFiles frame env).trans ?_
  apply resize_elim (motive := KeepsSound wx photoFiles must true)
  · intro begun _
    exact .silent rfl fun sound => sound.dirtied rfl rfl rfl rfl rfl rfl
  · intro begun _
    exact .silent rfl fun sound => sound.dirtied rfl rfl rfl rfl rfl rfl

theorem keepsSound_callWrjpgcom (source : FileName) :
    Keeps Frame.calls CallClean (SwitchedFrame wx photoFiles source true)
      (SwitchedFrame wx photoFiles source true) frame (callWrjpgcom wx env source frame).1 := by
  refine .entry rfl fun _ switched => ?_
  have impossible : ∀ {property : Prop}, frame.bDirty = false → property := fun notDirty =>
    absurd (notDirty.symm.trans (switched.isDirty rfl)) Bool.false_ne_true
  have filled : SoundFrame wx photoFiles true (callWrjpgcom wx env source frame).1 ∧
      Unshared photoFiles (callWrjpgcom wx env source frame).1.toDocument :=
    switched.fill impossible rfl rfl
  obtain ⟨sound, unshared⟩ := filled
  exact ⟨sound.history, unshared, impossible, impossible, sound.isDirty⟩

/-- The comment is written in a dirty document, whose image is free to change. -/
theorem keepsSound_writeCommentLossless :
    KeepsSound wx photoFiles true true frame (writeCommentLossless wx env frame) := by
  have pointed := @keepsSound_imageUndoPoint _ wx photoFiles true frame env
  refine ((pointed.trans (keepsSound_switchToTemp wx photoFiles _ env)).trans
    (keepsSound_callWrjpgcom wx photoFiles _ env _)).trans ?_
  unfold writeCommentLossless
  dsimp only
  split
  · exact .entry rfl fun _ switched => switched.loaded.updated
  · exact ((keepsSound_copyFile wx photoFiles _ env _).mono id And.left).trans
      (keepsSound_updateControlsState wx photoFiles _)

theorem keepsSound_writeComment :
    KeepsSound wx photoFiles true true frame (writeComment wx env frame) := by
  unfold writeComment
  split
  · exact keepsSound_writeCommentLossless wx photoFiles frame env
  · refine (keepsSound_beginImageManip wx photoFiles frame env).trans
      (.silent rfl fun sound => ?_)
    refine sound.dirtied rfl rfl rfl rfl rfl ?_
    have isDirty := sound.isDirty rfl
    simp [writeCommentOption, endImageManip, updateControlsState, isDirty]

theorem keepsSound_onImageWriteComment :
    KeepsSound wx photoFiles must must frame (onImageWriteComment wx env frame) := by
  unfold onImageWriteComment
  split
  · refine ((keepsSound_dirty wx photoFiles frame).trans
      (keepsSound_writeComment wx photoFiles _ env)).trans (.silent rfl fun sound => ?_)
    have isDirty := sound.isDirty rfl
    exact sound.dirtied rfl rfl rfl rfl rfl (by simp [updateControlsState, isDirty])
  · exact .refl frame id

/-! ## Undo and redo -/

/-- The entry is a snapshot. -/
def RpUndo.isImage : RpUndo Pixels → Bool
  | .image _ => true
  | .move _ => false

variable {wx photoFiles env frame}

/-- A restored snapshot brings its own soundness. -/
theorem SoundSnapshot.restored {snapshot : RpImage Pixels}
    (sound : SoundSnapshot wx photoFiles first.files.written snapshot)
    (filesExist : snapshot.FilesExist first.files)
    (history : SoundHistory wx photoFiles last.toDocument) (files : last.files = first.files)
    (original : last.sOriginalFilename = snapshot.sOriginalFilename)
    (name : last.sFilename = snapshot.sFilename) (temp : last.bTemp = snapshot.bTemp)
    (raised : snapshot.bDirty = true → last.bDirty = true)
    (image : last.image = snapshot.restoredImage wx first.files) :
    SoundFrame wx photoFiles false last := by
  have notDirty : last.bDirty = false → snapshot.bDirty = false := fun clean =>
    Bool.eq_false_iff.mpr fun dirty => Bool.eq_false_iff.mp clean (raised dirty)
  refine ⟨history, ?_, ?_, ?_, fun asked => nomatch asked⟩
  · rw [temp, name]
    exact sound.notPhoto
  · intro clean
    rw [original, files, name]
    exact sound.file (notDirty clean)
  · intro clean
    rw [original, image]
    cases lossless : snapshot.bJPEGlossless with
    | false =>
        have kept : snapshot.restoredImage wx first.files = snapshot.image :=
          if_neg (Bool.eq_false_iff.mp lossless)
        rw [kept]
        exact sound.image (notDirty clean) lossless
    | true =>
        have read : snapshot.restoredImage wx first.files =
            (first.files.content snapshot.sFilename).bind wx.decode := if_pos lossless
        rw [read, filesExist.2.content_eq_written]
        exact sound.file (notDirty clean)

/-- The destructor of a sound snapshot removes no photo. -/
theorem SoundSnapshot.destroyed {snapshot : RpImage Pixels} {written : FileName → Option Bytes}
    (sound : SoundSnapshot wx photoFiles written snapshot) {files : FileStore FileName Bytes}
    {name : FileName} {data : Bytes} (photo : photoFiles name = some data)
    (present : files.content name = some data) :
    (snapshot.destroy false files).content name = some data := by
  have kept : (destroyAll [.image snapshot] files).content name = files.content name :=
    content_destroyAll_of_notOwned fun entry member => by
      cases List.mem_singleton.mp member
      exact notOwner_of_photo sound.notPhoto photo
  exact kept.trans present

/-- Dropping a sound snapshot that has lost a file. -/
theorem SoundFrame.drop (sound : SoundFrame wx photoFiles must first) {snapshot : RpImage Pixels}
    (entry : SoundSnapshot wx photoFiles first.files.written snapshot)
    (files : last.files = snapshot.destroy false first.files)
    (members : ∀ entry ∈ last.historyUndo ++ last.historyRedo,
      entry ∈ first.historyUndo ++ first.historyRedo ∨
        entry = .image (RpImage.save first.toDocument))
    (same : last.toDocument = { first.toDocument with
      files := last.files
      historyUndo := last.historyUndo
      historyRedo := last.historyRedo }) :
    SoundFrame wx photoFiles must last := by
  have written : last.files.written = first.files.written := by
    rw [files]
    exact written_destroyAll [.image snapshot] first.files
  have history := sound.exchange
    (fun _ _ photo present => by rw [files]; exact entry.destroyed photo present) written members
  have original : last.sOriginalFilename = first.sOriginalFilename := by rw [same]
  have name : last.sFilename = first.sFilename := by rw [same]
  have temp : last.bTemp = first.bTemp := by rw [same]
  have clean : last.bDirty = first.bDirty := by rw [same]
  have image : last.image = first.image := by rw [same]
  refine ⟨history, ?_, ?_, ?_, ?_⟩
  · rw [temp, name]
    exact sound.notPhoto
  · rw [clean, original, written, name]
    exact sound.file
  · rw [clean, original, image]
    exact sound.image
  · rw [clean]
    exact sound.isDirty

theorem keepsSound_onImageUndo (newestIsImage : frame.historyUndo.getLast?.all RpUndo.isImage) :
    KeepsSound wx photoFiles false false frame (onImageUndo wx env frame) := by
  refine .silent onImageUndo_calls fun sound => ?_
  have members : ∀ (older : List (RpUndo Pixels)) (snapshot : RpImage Pixels),
      frame.historyUndo = older ++ [.image snapshot] →
      ∀ entry ∈ older ++ (frame.historyRedo ++ [.image (RpImage.save frame.toDocument)]),
        entry ∈ frame.historyUndo ++ frame.historyRedo ∨
          entry = .image (RpImage.save frame.toDocument) := by
    intro older snapshot newest entry member
    rw [newest]
    rcases List.mem_append.mp member with past | member
    · exact .inl (List.mem_append_left _ (List.mem_append_left _ past))
    · rcases List.mem_append.mp member with future | saved
      · exact .inl (List.mem_append_right _ future)
      · exact .inr (List.mem_singleton.mp saved)
  refine onImageUndo_elim sound (fun older snapshot newest filesExist => ?_)
    (fun older snapshot newest missing => ?_) fun older action newest => by
      simp [newest, RpUndo.isImage] at newestIsImage
  · refine (sound.history.entries snapshot (by simp [newest])).restored filesExist
      (sound.exchange (fun _ _ _ => id) rfl (members older snapshot newest))
      rfl rfl rfl rfl (fun dirty => ?_) rfl
    simp [updateControlsState, restoredFrame, imageUpdateExif, dirty]
  · refine SoundFrame.updated ?_
    exact sound.drop (sound.history.entries snapshot (by simp [newest])) rfl
      (members older snapshot newest) rfl

theorem keepsSound_onImageRedo (newestIsImage : frame.historyRedo.getLast?.all RpUndo.isImage) :
    KeepsSound wx photoFiles false false frame (onImageRedo wx env frame) := by
  refine .silent onImageRedo_calls fun sound => ?_
  have members : ∀ (later : List (RpUndo Pixels)) (snapshot : RpImage Pixels),
      frame.historyRedo = later ++ [.image snapshot] →
      ∀ entry ∈ (frame.historyUndo ++ [.image (RpImage.save frame.toDocument)]) ++ later,
        entry ∈ frame.historyUndo ++ frame.historyRedo ∨
          entry = .image (RpImage.save frame.toDocument) := by
    intro later snapshot newest entry member
    rw [newest]
    rcases List.mem_append.mp member with member | future
    · rcases List.mem_append.mp member with past | saved
      · exact .inl (List.mem_append_left _ past)
      · exact .inr (List.mem_singleton.mp saved)
    · exact .inl (List.mem_append_right _ (List.mem_append_left _ future))
  refine onImageRedo_elim sound (fun later snapshot newest filesExist => ?_)
    (fun later snapshot newest missing => ?_) fun later action newest => by
      simp [newest, RpUndo.isImage] at newestIsImage
  · refine (sound.history.entries snapshot (by simp [newest])).restored filesExist
      (sound.exchange (fun _ _ _ => id) rfl (members later snapshot newest))
      rfl rfl rfl rfl (fun dirty => ?_) rfl
    simp [updateControlsState, restoredFrame, imageUpdateExif, dirty]
  · refine SoundFrame.updated ?_
    exact sound.drop (sound.history.entries snapshot (by simp [newest])) rfl
      (members later snapshot newest) rfl

end Steps

/-! ## Runs -/

/--
An image operation that keeps the flag sound: a vertical flip needs a dirty
document, a progressive jpegtran keeps the decoding, and no move is undone or
redone.
-/
def FlagSafe (wx : Wx Pixels) (action : Action Pixels) (frame : Frame Pixels) : Prop :=
  match action.event with
  | .imageFlipVertical => frame.bDirty = true
  | .imageJPEGProgressive => KeepsDecoding wx action.env .progressive
  | .imageUndo => frame.historyUndo.getLast?.all RpUndo.isImage = true
  | .imageRedo => frame.historyRedo.getLast?.all RpUndo.isImage = true
  | .imageLoad _ _ | .loadFile _ | .fileOpen _ | .fileReload => False
  | .fileSave | .fileSaveAs | .fileMove _ | .fileNameEndEdit _ _ => False
  | _ => True

/-- Every such operation keeps the flag sound. -/
theorem keepsSound_perform (wx : Wx Pixels) (photoFiles : FileName → Option Bytes)
    {action : Action Pixels} {before after : Frame Pixels}
    (safe : FlagSafe wx action before) (performed : perform wx action before = some after) :
    KeepsSound wx photoFiles false false before after := by
  obtain ⟨event, env, fuel⟩ := action
  cases event with
  | imageLoad name original => exact safe.elim
  | loadFile name => exact safe.elim
  | fileOpen name => exact safe.elim
  | fileReload => exact safe.elim
  | fileSave => exact safe.elim
  | fileSaveAs => exact safe.elim
  | fileMove folder => exact safe.elim
  | fileNameEndEdit treePath label => exact safe.elim
  | imageUndo =>
      cases performed
      exact keepsSound_onImageUndo safe
  | imageRedo =>
      cases performed
      exact keepsSound_onImageRedo safe
  | toolAction =>
      cases performed
      exact keepsSound_onToolAction wx photoFiles before env
  | modeInclin =>
      cases performed
      exact keepsSound_onModeInclin wx photoFiles before env
  | modeCrop =>
      cases performed
      exact keepsSound_onModeCrop wx photoFiles before env
  | imageCrop =>
      cases performed
      exact keepsSound_onImageCrop wx photoFiles before env
  | imageRotateLeft =>
      cases performed
      exact keepsSound_weaken (keepsSound_dirty_losslessOrManip wx photoFiles before env _ _)
  | imageRotateRight =>
      cases performed
      exact keepsSound_weaken (keepsSound_dirty_losslessOrManip wx photoFiles before env _ _)
  | imageFlipHorizontal =>
      cases performed
      exact keepsSound_weaken (keepsSound_dirty_losslessOrManip wx photoFiles before env _ _)
  | imageFlipVertical =>
      cases performed
      exact keepsSound_weaken (keepsSound_onImageFlipVertical wx photoFiles before env safe)
  | imageJPEGOptimize =>
      cases performed
      exact keepsSound_weaken (keepsSound_onImageJPEGOptimize wx photoFiles before env)
  | imageJPEGProgressive =>
      cases performed
      exact keepsSound_onImageJPEGProgressive wx photoFiles before env safe
  | imageInclin =>
      cases performed
      exact keepsSound_onImageInclin wx photoFiles before env
  | resize destWidth destHeight =>
      cases performed
      exact keepsSound_weaken (keepsSound_resize wx photoFiles before env destWidth destHeight)
  | editComment text =>
      cases performed
      exact .silent rfl fun sound => sound.dirtied rfl rfl rfl rfl rfl (by
        simp [editComment, updateControlsState])
  | imageWriteComment =>
      cases performed
      exact keepsSound_onImageWriteComment wx photoFiles before env
  | toggleJPEGLossless =>
      cases performed
      exact .silent rfl fun sound => sound.congr rfl fun dirty => by
        simp [onToggleJPEGLossless, updateControlsState, dirty]

/-- The names of all originals a document knows. -/
def originals (document : Document Pixels) : List FileName :=
  document.sOriginalFilename :: (document.historyUndo ++ document.historyRedo).filterMap fun
    | .image snapshot => some snapshot.sOriginalFilename
    | .move _ => none

/-- The photos of a document. -/
def photosOf (document : Document Pixels) (name : FileName) : Option Bytes :=
  if name ∈ originals document then document.files.content name else none

/-- A file has just been loaded; the entries of earlier documents are sound. -/
structure FreshlyLoaded (wx : Wx Pixels) (frame : Frame Pixels) : Prop where
  name : frame.sFilename = frame.sOriginalFilename
  notTemp : frame.bTemp = false
  image : IsPhoto wx (photosOf frame.toDocument) frame.sOriginalFilename frame.image
  entries : ∀ snapshot, .image snapshot ∈ frame.historyUndo ++ frame.historyRedo →
    SoundSnapshot wx (photosOf frame.toDocument) frame.files.written snapshot

theorem FreshlyLoaded.sound {wx : Wx Pixels} {frame : Frame Pixels}
    (fresh : FreshlyLoaded wx frame) :
    SoundFrame wx (photosOf frame.toDocument) false frame := by
  have kept : ∀ name data, photosOf frame.toDocument name = some data →
      frame.files.content name = some data := by
    intro name data photo
    unfold photosOf at photo
    split at photo
    · exact photo
    · cases photo
  refine ⟨⟨kept, fresh.entries⟩, fun temp => ?_, fun _ => ?_, fun _ => fresh.image,
    fun asked => nomatch asked⟩
  · exact absurd (fresh.notTemp.symm.trans temp) Bool.false_ne_true
  · obtain ⟨decoded, known, _⟩ := fresh.image
    obtain ⟨data, photo, decodes⟩ := Option.bind_eq_some_iff.mp known
    refine ⟨decoded, known, ?_⟩
    rw [fresh.name, frame.files.content_written (kept _ _ photo)]
    exact decodes

/--
In every run of image operations after a load, a document that is not dirty
shows the decoding of its original file on disk.
-/
theorem clean_shows_original (wx : Wx Pixels) {first last : Frame Pixels}
    (fresh : FreshlyLoaded wx first)
    (run : Run (perform wx) (FlagSafe wx) first last)
    (fine : AllFine Frame.calls CallClean first last) (clean : last.bDirty = false) :
    last.image = (last.files.content last.sOriginalFilename).bind wx.decode := by
  have sound := (Run.keeps (fun safe performed =>
    keepsSound_perform wx (photosOf first.toDocument) safe performed) run).holds fine fresh.sound
  obtain ⟨decoded, known, shown⟩ := sound.image clean
  obtain ⟨data, photo, decodes⟩ := Option.bind_eq_some_iff.mp known
  rw [shown, sound.history.photos _ _ photo]
  exact decodes.symm

theorem freshlyLoaded_sample :
    FreshlyLoaded sampleWx (sampleFrame 10 [.imageLoad photoA true]) where
  name := rfl
  notTemp := rfl
  image := ⟨⟨[1], []⟩, rfl, rfl⟩
  entries := fun _ member => nomatch member

theorem progressive_sampleEnv : KeepsDecoding sampleWx (sampleEnv 10) .progressive := by
  intro frame attempt data output produced
  cases produced
  rfl

/-- A progressive conversion and a rotation, both undone. -/
theorem progressive_undone :
    (sampleFrame 10 [.imageLoad photoA true, .imageJPEGProgressive, .imageRotateLeft,
        .imageUndo, .imageUndo]).image =
      ((sampleFrame 10 [.imageLoad photoA true, .imageJPEGProgressive, .imageRotateLeft,
        .imageUndo, .imageUndo]).files.content
        (sampleFrame 10 [.imageLoad photoA true, .imageJPEGProgressive, .imageRotateLeft,
          .imageUndo, .imageUndo]).sOriginalFilename).bind sampleWx.decode := by
  refine clean_shows_original sampleWx freshlyLoaded_sample ?_ (by unfold AllFine; decide) rfl
  have step := fun (first middle last : Frame Bytes) (event : Event) =>
    @Run.tail _ _ (perform sampleWx) (FlagSafe sampleWx) first middle last
      ⟨event, sampleEnv 10, 3⟩
  exact step _ _ _ .imageUndo (step _ _ _ .imageUndo (step _ _ _ .imageRotateLeft
    (step _ _ _ .imageJPEGProgressive (.refl _) progressive_sampleEnv rfl) trivial rfl) rfl rfl)
    rfl rfl

/-- A vertical flip of a freshly loaded photo changes the image and leaves the flag. -/
theorem flipVertical_leaves_flag :
    (sampleRun 10 [.imageLoad photoA true, .imageFlipVertical]).isSome ∧
      (sampleFrame 10 [.imageLoad photoA true, .imageFlipVertical]).bDirty = false ∧
      (sampleFrame 10 [.imageLoad photoA true, .imageFlipVertical]).image ≠
        ((sampleFrame 10 [.imageLoad photoA true, .imageFlipVertical]).files.content
          (sampleFrame 10 [.imageLoad photoA true, .imageFlipVertical]).sOriginalFilename).bind
          sampleWx.decode :=
  ⟨rfl, rfl, by decide⟩

end RPhoto.Editing
