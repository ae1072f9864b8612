import RPhoto.Editing.LosslessFlag

/-!
# Undoing several operations

Each image operation sets one undo point, whose snapshot describes the document
before the operation.  A lossless snapshot keeps no pixels, so the proof follows
the files: the working files that snapshots name are written once and removed by
no later undo point, since the limit cuts off older entries only.
-/

namespace RPhoto.Editing

open RPhoto.Jpeg RPhoto.Library

variable {Pixels : Type}

/-- The image operations; a comment is typed first, an inclination enters its mode first. -/
inductive Operation where
  | crop
  | rotateLeft
  | rotateRight
  | flipHorizontal
  | flipVertical
  | inclination
  | resize (destWidth destHeight : Int)
  | comment (text : Text)
deriving DecidableEq

/-- Perform an image operation. -/
def Operation.perform (wx : Wx Pixels) (env : Environment Pixels) (frame : Frame Pixels) :
    Operation → Frame Pixels
  | .crop => onImageCrop wx env frame
  | .rotateLeft => onImageRotateLeft wx env frame
  | .rotateRight => onImageRotateRight wx env frame
  | .flipHorizontal => onImageFlipHorizontal wx env frame
  | .flipVertical => onImageFlipVertical wx env frame
  | .inclination => onImageInclin wx env (onModeInclin wx env frame)
  | .resize destWidth destHeight => Editing.resize wx env destWidth destHeight frame
  | .comment text => onImageWriteComment wx env (editComment text frame)

/-- The number of undo points recorded between two frames. -/
def undoPoints (first last : Frame Pixels) : Nat :=
  (added Frame.calls first last).countP fun entry =>
    match entry.1 with
    | .undoPoint _ => true
    | _ => false

/-- Perform operations one after another, each in its own world. -/
def performAll (wx : Wx Pixels) (operations : List (Operation × Environment Pixels))
    (frame : Frame Pixels) : Frame Pixels :=
  operations.foldl (fun frame step => step.1.perform wx step.2 frame) frame

/-- Undo as often as there are worlds to undo in. -/
def undoAll (wx : Wx Pixels) (envs : List (Environment Pixels)) (frame : Frame Pixels) :
    Frame Pixels :=
  envs.foldl (fun frame env => onImageUndo wx env frame) frame

/-- Every operation records one undo point, at the same limit. -/
def RecordsOnce (wx : Wx Pixels) (limit : Nat) :
    List (Operation × Environment Pixels) → Frame Pixels → Prop
  | [], _ => True
  | (operation, env) :: rest, frame =>
      (∀ frame, (env frame).undoHistory = limit) ∧
        undoPoints frame (operation.perform wx env frame) = 1 ∧
          RecordsOnce wx limit rest (operation.perform wx env frame)

/--
The conditions on the calls of a run: copies, tools and loads succeed, and a new
temporary file has a name that is not on disk and that no history entry owns.
-/
def CallDone (entry : Call × Document Pixels) : Prop :=
  match entry.1 with
  | .copyFile succeeded | .jpegtran _ succeeded | .jhead succeeded => succeeded = true
  | .wrjpgcom succeeded | .loadFile succeeded => succeeded = true
  | .createTempFileName name =>
      name ≠ noFile ∧ ¬ entry.2.files.Holds name ∧
        ∀ undo ∈ entry.2.historyUndo ++ entry.2.historyRedo, undo.owner ≠ some name
  | .undoPoint _ | .saveFile _ | .imageLoad _ | .autorotate | .inclination => True

instance : (entry : Call × Document Pixels) → Decidable (CallDone entry)
  | (.copyFile succeeded, _) | (.jpegtran _ succeeded, _) | (.jhead succeeded, _)
  | (.wrjpgcom succeeded, _) | (.loadFile succeeded, _) =>
      inferInstanceAs (Decidable (succeeded = true))
  | (.createTempFileName name, document) =>
      inferInstanceAs (Decidable (name ≠ noFile ∧ ¬ document.files.Holds name ∧
        ∀ undo ∈ document.historyUndo ++ document.historyRedo, undo.owner ≠ some name))
  | (.undoPoint _, _) | (.saveFile _, _) | (.imageLoad _, _) | (.autorotate, _)
  | (.inclination, _) => instDecidableTrue

/-! ## The marks of a run -/

/-- An operation, the document it was applied to, and the snapshot its undo point took. -/
structure Mark (Pixels : Type) where
  operation : Operation
  document : Document Pixels
  snapshot : RpImage Pixels

/-- The undo entry of a mark. -/
def Mark.entry (mark : Mark Pixels) : RpUndo Pixels := .image mark.snapshot

/-- The files a snapshot needs. -/
def RpImage.names (snapshot : RpImage Pixels) : List FileName :=
  [snapshot.sOriginalFilename, snapshot.sFilename]

/-- Restoring the snapshot gives the document back; an inclination has left the lossless mode. -/
structure Mark.Restores (wx : Wx Pixels) (files : FileStore FileName Bytes)
    (mark : Mark Pixels) : Prop where
  original : mark.snapshot.sOriginalFilename = mark.document.sOriginalFilename
  name : mark.snapshot.sFilename = mark.document.sFilename
  temp : mark.snapshot.bTemp = mark.document.bTemp
  lossless : mark.snapshot.bJPEGlossless =
    (mark.document.bJPEGlossless && decide (mark.operation ≠ .inclination))
  image : mark.snapshot.restoredImage wx files = mark.document.image
  content : files.content mark.snapshot.sFilename =
    mark.document.files.content mark.document.sFilename

/-- The files that the document and the snapshots of its marks need. -/
def needed (marks : List (Mark Pixels)) (document : Document Pixels) : List FileName :=
  document.sOriginalFilename :: document.sFilename ::
    marks.flatMap fun mark => mark.snapshot.names

/--
The newest undo entries are the snapshots of the marks, in order.  All needed
files are on disk, and no older entry and no redo entry owns one of them.  The
inclination mode is on or off.
-/
structure Trail (wx : Wx Pixels) (inclining : Bool) (marks : List (Mark Pixels))
    (frame : Frame Pixels) : Prop where
  opened : frame.sOriginalFilename ≠ noFile
  mode : frame.isInclinaison = inclining
  history : ∃ older, frame.historyUndo = older ++ marks.map Mark.entry ∧
    ∀ entry ∈ older ++ frame.historyRedo, ∀ name ∈ needed marks frame.toDocument,
      entry.owner ≠ some name
  held : ∀ name ∈ needed marks frame.toDocument, frame.files.Holds name
  restores : ∀ mark ∈ marks, mark.Restores wx frame.files

/-- The trail of a document that shows its file in lossless mode. -/
structure ShownTrail (wx : Wx Pixels) (inclining : Bool) (marks : List (Mark Pixels))
    (frame : Frame Pixels) : Prop extends Trail wx inclining marks frame where
  shown : ShowsFile wx frame.toDocument

/-- The working file is a new one that no snapshot needs. -/
structure NewFileTrail (wx : Wx Pixels) (inclining : Bool) (marks : List (Mark Pixels))
    (frame : Frame Pixels) : Prop extends Trail wx inclining marks frame where
  unshared : frame.sFilename ∉
    frame.sOriginalFilename :: marks.flatMap fun mark => mark.snapshot.names

/-- Going from one frame to another follows the trail, given calls that are done. -/
abbrev KeepsTrail (wx : Wx Pixels) (inclining inclining' : Bool) (marks marks' : List (Mark Pixels))
    (first last : Frame Pixels) : Prop :=
  Keeps Frame.calls CallDone (ShownTrail wx inclining marks) (ShownTrail wx inclining' marks')
    first last

section Marks

variable {wx : Wx Pixels} {inclining : Bool} {marks : List (Mark Pixels)}
  {first last frame : Frame Pixels}

/-- A mark needs its two files only. -/
theorem Mark.Restores.congr {files after : FileStore FileName Bytes} {mark : Mark Pixels}
    (restores : mark.Restores wx files)
    (same : after.content mark.snapshot.sFilename = files.content mark.snapshot.sFilename) :
    mark.Restores wx after where
  original := restores.original
  name := restores.name
  temp := restores.temp
  lossless := restores.lossless
  image := by
    rw [← restores.image]
    simp only [RpImage.restoredImage, same]
  content := same.trans restores.content

theorem mem_needed_snapshot {document : Document Pixels} {mark : Mark Pixels} {name : FileName}
    (member : mark ∈ marks) (named : name ∈ mark.snapshot.names) :
    name ∈ needed marks document :=
  List.mem_cons_of_mem _ (List.mem_cons_of_mem _ (List.mem_flatMap.mpr ⟨mark, member, named⟩))

theorem sFilename_mem_names (snapshot : RpImage Pixels) :
    snapshot.sFilename ∈ snapshot.names := by
  simp [RpImage.names]

/-- The needed files keep their contents; the mode may change. -/
theorem Trail.congr {inclining' : Bool} (trail : Trail wx inclining marks first)
    (files : ∀ name ∈ needed marks first.toDocument,
      last.files.content name = first.files.content name)
    (original : last.sOriginalFilename = first.sOriginalFilename)
    (name : last.sFilename = first.sFilename)
    (undo : last.historyUndo = first.historyUndo) (redo : last.historyRedo = first.historyRedo)
    (mode : last.isInclinaison = inclining') : Trail wx inclining' marks last := by
  have same : needed marks last.toDocument = needed marks first.toDocument := by
    simp only [needed, original, name]
  refine ⟨original ▸ trail.opened, mode, ?_, ?_, fun mark member => ?_⟩
  · rw [undo, redo, same]
    exact trail.history
  · rw [same]
    intro needs member
    rw [FileStore.Holds, files needs member]
    exact trail.held needs member
  · exact (trail.restores mark member).congr
      (files _ (mem_needed_snapshot member (sFilename_mem_names _)))

/-! ## Undo points -/

/-- The frame in which an operation sets its undo point: the document it was called on, apart
from the flags and the comment. -/
structure Prepared (operation : Operation) (document : Document Pixels) (frame : Frame Pixels) :
    Prop where
  files : frame.files = document.files
  original : frame.sOriginalFilename = document.sOriginalFilename
  name : frame.sFilename = document.sFilename
  temp : frame.bTemp = document.bTemp
  image : frame.image = document.image
  lossless : frame.bJPEGlossless =
    (document.bJPEGlossless && decide (operation ≠ .inclination))

/-- The mark of an undo point. -/
def Prepared.mark {operation : Operation} {document : Document Pixels} {frame : Frame Pixels}
    (_ : Prepared operation document frame) : Mark Pixels :=
  ⟨operation, document, RpImage.save frame.toDocument⟩

/-- The snapshot restores the document as long as the working file stays. -/
theorem Prepared.restores {operation : Operation} {document : Document Pixels}
    (prepared : Prepared operation document frame) (shown : ShowsFile wx frame.toDocument)
    {files : FileStore FileName Bytes}
    (same : files.content frame.sFilename = frame.files.content frame.sFilename) :
    prepared.mark.Restores wx files where
  original := prepared.original
  name := prepared.name
  temp := prepared.temp
  lossless := prepared.lossless
  image := by
    refine Eq.trans ?_ prepared.image
    change (if frame.bJPEGlossless then (files.content frame.sFilename).bind wx.decode
      else if frame.bJPEGlossless then none else frame.image) = frame.image
    cases flag : frame.bJPEGlossless with
    | true =>
        rw [if_pos rfl, same]
        exact (shown flag).symm
    | false => rfl
  content := by
    change files.content frame.sFilename = _
    rw [same, prepared.files, prepared.name]
    rfl

/-- A snapshot of the document needs no further files. -/
theorem mem_needed_concat {mark : Mark Pixels} {document : Document Pixels}
    (names : mark.snapshot.names = [document.sOriginalFilename, document.sFilename])
    {name : FileName} :
    name ∈ needed (marks ++ [mark]) document ↔ name ∈ needed marks document := by
  simp only [needed, List.flatMap_append, List.flatMap_cons, List.flatMap_nil, List.append_nil,
    List.mem_cons, List.mem_append, names, List.not_mem_nil, or_false]
  tauto

/-- Up to the limit an undo point drops older entries only. -/
theorem droppedEntries_of_short {limit : Nat} {document : Document Pixels}
    {older newer : List (RpUndo Pixels)} (undo : document.historyUndo = older ++ newer)
    (short : newer.length < limit) :
    ∃ excess ≤ older.length,
      (document.historyUndo ++ [RpUndo.image (RpImage.save document)]).length - limit = excess ∧
        droppedEntries limit document = document.historyRedo ++ older.take excess := by
  refine ⟨_, ?_, rfl, ?_⟩
  · simp only [undo, List.length_append, List.length_singleton]
    omega
  · rw [droppedEntries, undo, List.append_assoc, List.take_append_of_le_length]
    simp only [List.length_append, List.length_singleton]
    omega

variable (wx) in
/-- An undo point below the limit adds its mark to the trail. -/
theorem keepsTrail_imageUndoPoint {operation : Operation} {document : Document Pixels}
    (prepared : Prepared operation document frame) (env : Environment Pixels) {limit : Nat}
    (limited : (env frame).undoHistory = limit) (short : marks.length < limit) :
    KeepsTrail wx inclining inclining marks (marks ++ [prepared.mark]) frame
      (imageUndoPoint env frame) := by
  unfold imageUndoPoint
  split
  · rename_i unopened
    exact .refl frame fun trail => absurd unopened trail.opened
  · refine .entry rfl fun _ trail => ?_
    rw [limited]
    obtain ⟨older, undo, free⟩ := trail.history
    obtain ⟨excess, within, length, dropped⟩ := droppedEntries_of_short undo
      (by simpa using short)
    let pointed := limitUndo limit (appendUndo (clearRedo (frame.record (.undoPoint limit))))
    have sameNeeded : ∀ {name}, name ∈ needed (marks ++ [prepared.mark]) pointed.toDocument ↔
        name ∈ needed marks frame.toDocument := mem_needed_concat rfl
    have content : ∀ name ∈ needed marks frame.toDocument,
        pointed.files.content name = frame.files.content name := by
      intro name member
      refine content_undoPoint fun entry isDropped => ?_
      have isFree : entry ∈ older ++ frame.historyRedo := by
        have inDropped : entry ∈ frame.historyRedo ++ older.take excess := dropped ▸ isDropped
        rcases List.mem_append.mp inDropped with inRedo | inOlder
        · exact List.mem_append_right _ inRedo
        · exact List.mem_append_left _ (List.mem_of_mem_take inOlder)
      exact free entry isFree name member
    have named : frame.sFilename ∈ needed marks frame.toDocument :=
      List.mem_cons_of_mem _ List.mem_cons_self
    have newest : pointed.historyUndo = older.drop excess ++
        (marks ++ [prepared.mark]).map Mark.entry := by
      have kept : pointed.historyUndo =
          (frame.historyUndo ++ [RpUndo.image (RpImage.save frame.toDocument)]).drop excess := by
        rw [← length]
        rfl
      rw [kept, undo, List.append_assoc, List.drop_append_of_le_length within, List.map_append]
      rfl
    refine ⟨⟨trail.opened, trail.mode, ⟨older.drop excess, newest, ?_⟩, ?_, ?_⟩, ?_⟩
    · intro entry member name isNeeded
      have inOlder : entry ∈ older.drop excess :=
        (List.mem_append.mp member).resolve_right List.not_mem_nil
      exact free entry (List.mem_append_left _ (List.mem_of_mem_drop inOlder)) name
        (sameNeeded.mp isNeeded)
    · intro name isNeeded
      have wasNeeded := sameNeeded.mp isNeeded
      rw [FileStore.Holds, content name wasNeeded]
      exact trail.held name wasNeeded
    · intro mark member
      rcases List.mem_append.mp member with earlier | isNew
      · exact (trail.restores mark earlier).congr
          (content _ (mem_needed_snapshot earlier (sFilename_mem_names _)))
      · cases List.mem_singleton.mp isNew
        exact prepared.restores trail.shown (content _ named)
    · intro flag
      exact (trail.shown flag).trans
        (congrArg (Option.bind · wx.decode) (content _ named).symm)

/-! ## The new working file -/

/-- A write to a working file that no snapshot needs. -/
theorem NewFileTrail.write (trail : NewFileTrail wx inclining marks first)
    (outcome : Option Bytes)
    (files : last.files = writeOutcome first.sFilename outcome first.files)
    (same : last.toDocument = { first.toDocument with files := last.files }) :
    NewFileTrail wx inclining marks last := by
  have original : last.sOriginalFilename = first.sOriginalFilename := by rw [same]
  have name : last.sFilename = first.sFilename := by rw [same]
  have undo : last.historyUndo = first.historyUndo := by rw [same]
  have redo : last.historyRedo = first.historyRedo := by rw [same]
  have mode : last.isInclinaison = first.isInclinaison := by rw [same]
  have sameNeeded : needed marks last.toDocument = needed marks first.toDocument := by
    simp only [needed, original, name]
  have others : ∀ other, other ≠ first.sFilename →
      last.files.content other = first.files.content other := by
    intro other different
    rw [files]
    cases outcome with
    | none => rfl
    | some data => exact FileStore.content_write_of_ne different
  refine ⟨⟨original ▸ trail.opened, mode.trans trail.mode, ?_, ?_, fun mark member => ?_⟩,
    ?_⟩
  · rw [undo, redo, sameNeeded]
    exact trail.history
  · rw [sameNeeded]
    intro needs member
    have held := trail.held needs member
    rw [files]
    cases outcome with
    | none => exact held
    | some data => exact held.write _ _
  · refine (trail.restores mark member).congr (others _ fun shared => trail.unshared ?_)
    rw [← shared]
    exact List.mem_cons_of_mem _ (List.mem_flatMap.mpr ⟨mark, member, sFilename_mem_names _⟩)
  · rw [original, name]
    exact trail.unshared

variable (wx marks frame) (env : Environment Pixels)

/-- A load of the working file shows it. -/
theorem keepsTrail_boxLoadFile :
    Keeps Frame.calls CallDone (NewFileTrail wx inclining marks) (ShownTrail wx inclining marks)
      frame (boxLoadFile wx frame.sFilename frame) := by
  refine .entry rfl fun loads trail => ?_
  refine ⟨trail.toTrail.congr (fun _ _ => rfl) rfl rfl rfl rfl trail.mode, fun _ => ?_⟩
  obtain ⟨decoded, decodes⟩ := Option.isSome_iff_exists.mp loads
  change loadedImage wx frame.sFilename frame.toDocument =
    (frame.files.content frame.sFilename).bind wx.decode
  rw [loadedImage, decodes]

/-- The new name is not on disk, so no snapshot needs it; and no entry owns it. -/
theorem keepsTrail_switchToTemp :
    Keeps Frame.calls CallDone (ShownTrail wx inclining marks) (NewFileTrail wx inclining marks)
      frame (switchToTemp env frame) := by
  refine .entry rfl fun fine trail => ?_
  have named : (switchToTemp env frame).sFilename ≠ noFile := fine.1
  have fresh : ¬ frame.files.Holds (switchToTemp env frame).sFilename := fine.2.1
  have unowned : ∀ entry ∈ frame.historyUndo ++ frame.historyRedo,
      entry.owner ≠ some (switchToTemp env frame).sFilename := fine.2.2
  have files : (switchToTemp env frame).files =
      frame.files.write (switchToTemp env frame).sFilename [] := if_neg named
  have other : ∀ name ∈ needed marks frame.toDocument,
      name ≠ (switchToTemp env frame).sFilename :=
    fun name member same => fresh (same ▸ trail.held name member)
  have cases : ∀ name ∈ needed marks (switchToTemp env frame).toDocument,
      name = (switchToTemp env frame).sFilename ∨ name ∈ needed marks frame.toDocument := by
    intro name member
    simp only [needed, List.mem_cons] at member ⊢
    tauto
  obtain ⟨older, undo, free⟩ := trail.history
  refine ⟨⟨trail.opened, trail.mode, ⟨older, undo, ?_⟩, ?_, fun mark member => ?_⟩, ?_⟩
  · intro entry member name isNeeded
    rcases cases name isNeeded with rfl | wasNeeded
    · refine unowned entry ?_
      rw [undo]
      rcases List.mem_append.mp member with inOlder | inRedo
      · exact List.mem_append_left _ (List.mem_append_left _ inOlder)
      · exact List.mem_append_right _ inRedo
    · exact free entry member name wasNeeded
  · intro name isNeeded
    rw [files]
    rcases cases name isNeeded with rfl | wasNeeded
    · exact FileStore.holds_write_self _ _ _
    · exact (trail.held name wasNeeded).write _ _
  · refine (trail.restores mark member).congr ?_
    rw [files]
    exact FileStore.content_write_of_ne
      (other _ (mem_needed_snapshot member (sFilename_mem_names _)))
  · intro shared
    refine other _ ?_ rfl
    simp only [needed, List.mem_cons] at shared ⊢
    tauto

/-- A copy that succeeds does not leave the function. -/
theorem keepsTrail_copy (source : FileName) (writable : Bool) :
    Keeps Frame.calls CallDone (NewFileTrail wx inclining marks)
      (fun last => NewFileTrail wx inclining marks last ∧
        (if writable then (copyFile env source frame.sFilename frame, true)
          else manualCopy env source frame.sFilename frame).2 = true)
      frame
      (if writable then (copyFile env source frame.sFilename frame, true)
        else manualCopy env source frame.sFilename frame).1 := by
  cases writable with
  | true => exact .entry rfl fun _ trail => ⟨trail.write _ rfl rfl, rfl⟩
  | false => exact .entry rfl fun succeeded trail => ⟨trail.write _ rfl rfl, succeeded⟩

/-- A tool that succeeds is followed by a load of the working file. -/
theorem keepsTrail_applyTool (call : Bool → Call) (output : Option Bytes)
    (trusts : ∀ succeeded (document : Document Pixels),
      CallDone (call succeeded, document) → succeeded = true) :
    Keeps Frame.calls CallDone (NewFileTrail wx inclining marks) (ShownTrail wx inclining marks)
      frame (applyTool wx call output frame).1 := by
  have updated : ∀ loaded : Frame Pixels,
      KeepsTrail wx inclining inclining marks marks loaded (updateControlsState loaded) :=
    fun _ => .silent rfl fun trail =>
      ⟨trail.toTrail.congr (fun _ _ => rfl) rfl rfl rfl rfl trail.mode, trail.shown⟩
  cases output with
  | none =>
      exact .entry rfl fun done _ =>
        absurd (trusts false frame.toDocument done) Bool.false_ne_true
  | some data =>
      let toolFrame : Frame Pixels :=
        { frame.record (call true) with files := frame.files.write frame.sFilename data }
      have written : Keeps Frame.calls CallDone (NewFileTrail wx inclining marks)
          (NewFileTrail wx inclining marks) frame toolFrame :=
        .entry rfl fun _ trail => trail.write (some data) rfl rfl
      exact (written.trans (keepsTrail_boxLoadFile wx marks toolFrame)).trans (updated _)

/-- What follows the undo point of a jpegtran call. -/
theorem keepsTrail_callJPEGTranTryPerfect (command : JpegtranCommand) :
    KeepsTrail wx inclining inclining marks marks (imageUndoPoint env frame)
      (callJPEGTranTryPerfect wx env command frame).1 := by
  have copied : Keeps Frame.calls CallDone (ShownTrail wx inclining marks)
      (fun last => NewFileTrail wx inclining marks last ∧ (copyToTemp env frame).2 = true)
      (imageUndoPoint env frame) (copyToTemp env frame).1 :=
    (keepsTrail_switchToTemp wx marks _ env).trans (keepsTrail_copy wx marks _ env _ _)
  unfold callJPEGTranTryPerfect
  dsimp only
  split
  · exact (copied.mono id And.left).trans
      (keepsTrail_applyTool wx marks _ (.jpegtran command) _ fun _ _ done => done)
  · rename_i left
    exact copied.mono id fun known => absurd known.2 left

/-! ## Image operations -/

variable {wx marks frame env}

/-- A change to a lossy document that leaves its files and histories alone. -/
theorem keepsTrail_lossy {inclining' : Bool} (calls : last.calls = first.calls)
    (files : last.files = first.files)
    (original : last.sOriginalFilename = first.sOriginalFilename)
    (name : last.sFilename = first.sFilename)
    (undo : last.historyUndo = first.historyUndo) (redo : last.historyRedo = first.historyRedo)
    (mode : first.isInclinaison = inclining → last.isInclinaison = inclining')
    (lossy : last.bJPEGlossless = false) :
    KeepsTrail wx inclining inclining' marks marks first last :=
  .silent calls fun trail =>
    ⟨trail.toTrail.congr (fun _ _ => by rw [files]) original name undo redo (mode trail.mode),
      fun flag => absurd (lossy.symm.trans flag) Bool.false_ne_true⟩

/-- A change of other parts of the frame. -/
theorem keepsTrail_quiet (calls : last.calls = first.calls)
    (same : shownFile last = shownFile first)
    (original : last.sOriginalFilename = first.sOriginalFilename)
    (undo : last.historyUndo = first.historyUndo) (redo : last.historyRedo = first.historyRedo)
    (mode : last.isInclinaison = first.isInclinaison) :
    KeepsTrail wx inclining inclining marks marks first last := by
  simp only [shownFile, Prod.mk.injEq] at same
  obtain ⟨files, name, lossless, image, _⟩ := same
  refine .silent calls fun trail =>
    ⟨trail.toTrail.congr (fun _ _ => by rw [files]) original name undo redo
      (mode.trans trail.mode), fun flag => ?_⟩
  rw [image, files, name]
  exact trail.shown (lossless ▸ flag)

/-- A lossy operation keeps the options of the image after its undo point. -/
theorem keepsTrail_beginImageManip :
    KeepsTrail wx inclining inclining marks marks (imageUndoPoint env frame)
      (beginImageManip env frame) := by
  unfold beginImageManip
  generalize imageUndoPoint env frame = pointed
  exact keepsTrail_quiet rfl rfl rfl rfl rfl rfl

/-- What follows the undo point of an operation with both branches. -/
theorem keepsTrail_losslessOrManip (command : JpegtranCommand) (transform : Transform) :
    KeepsTrail wx inclining inclining marks marks (imageUndoPoint env frame)
      (losslessOrManip wx env command transform frame) := by
  unfold losslessOrManip
  split
  · exact keepsTrail_callJPEGTranTryPerfect wx marks frame env command
  · rename_i lossy
    refine keepsTrail_beginImageManip.trans ?_
    refine imageManip_elim (motive := fun begun last => begun.bJPEGlossless = false →
      KeepsTrail wx inclining inclining marks marks begun last) ?_
      (beginImageManip_bJPEGlossless.trans (Bool.eq_false_iff.mpr lossy))
    intro begun flag
    exact keepsTrail_lossy rfl rfl rfl rfl rfl rfl id flag

/-- What follows the undo point of a resize. -/
theorem keepsTrail_resize (destWidth destHeight : Int) :
    KeepsTrail wx inclining inclining marks marks (imageUndoPoint env frame)
      (resize wx env destWidth destHeight frame) := by
  refine keepsTrail_beginImageManip.trans ?_
  apply resize_elim (motive := KeepsTrail wx inclining inclining marks marks)
  · intro begun lossy
    exact keepsTrail_lossy rfl rfl rfl rfl rfl rfl id lossy
  · intro begun lossless
    exact keepsTrail_lossy rfl rfl rfl rfl rfl rfl id (congrArg (!·) lossless)

/-- What follows the undo point of a comment. -/
theorem keepsTrail_writeComment :
    KeepsTrail wx inclining inclining marks marks (imageUndoPoint env frame)
      (writeComment wx env frame) := by
  unfold writeComment
  split
  · have called : Keeps Frame.calls CallDone (NewFileTrail wx inclining marks)
        (fun last => NewFileTrail wx inclining marks last ∧
          (callWrjpgcom wx env (sourceFilename (imageUndoPoint env frame).toDocument)
            (switchToTemp env (imageUndoPoint env frame))).2 = true)
        (switchToTemp env (imageUndoPoint env frame))
        (callWrjpgcom wx env (sourceFilename (imageUndoPoint env frame).toDocument)
          (switchToTemp env (imageUndoPoint env frame))).1 :=
      .entry rfl fun succeeded trail => ⟨trail.write _ rfl rfl, succeeded⟩
    refine ((keepsTrail_switchToTemp wx marks _ env).trans called).trans ?_
    unfold writeCommentLossless
    dsimp only
    split
    · exact ((keepsTrail_boxLoadFile wx marks _).mono And.left id).trans
        (keepsTrail_quiet rfl rfl rfl rfl rfl rfl)
    · rename_i fails
      exact .trans
        (.entry rfl fun _ known => absurd known.2 fails)
        (keepsTrail_quiet rfl rfl rfl rfl rfl rfl)
  · rename_i lossy
    exact keepsTrail_lossy rfl rfl rfl rfl rfl rfl id
      ((imageUndoPoint_bJPEGlossless env frame).trans (Bool.eq_false_iff.mpr lossy))

/-! ## One undo point for each operation -/

theorem undoPoints_of_calls_eq (calls : last.calls = first.calls) : undoPoints first last = 0 := by
  have nothing : added Frame.calls first last = [] :=
    added_of_append (by rw [calls, List.append_nil])
  rw [undoPoints, nothing, List.countP_nil]

theorem undoPoints_congr (calls : first.calls = frame.calls) :
    undoPoints first last = undoPoints frame last := by
  rw [undoPoints, undoPoints, added, added, calls]

theorem undoPoints_trans {middle : Frame Pixels}
    (front : first.calls ++ added Frame.calls first middle = middle.calls)
    (back : middle.calls ++ added Frame.calls middle last = last.calls) :
    undoPoints first last = undoPoints first middle + undoPoints middle last := by
  rw [undoPoints, added_trans front back, List.countP_append]
  rfl

theorem undoPoints_imageUndoPoint (opened : frame.sOriginalFilename ≠ noFile) :
    undoPoints frame (imageUndoPoint env frame) = 1 := by
  have recorded : added Frame.calls frame (imageUndoPoint env frame) =
      [(.undoPoint (env frame).undoHistory, frame.toDocument)] := by
    refine added_of_append ?_
    rw [imageUndoPoint, if_neg opened]
    rfl
  rw [undoPoints, recorded]
  rfl

/-- The trail after an operation: one more mark, for this operation on this document. -/
def Marked (wx : Wx Pixels) (marks : List (Mark Pixels)) (operation : Operation)
    (document : Document Pixels) (last : Frame Pixels) : Prop :=
  ∃ mark : Mark Pixels, mark.operation = operation ∧ mark.document = document ∧
    ShownTrail wx false (marks ++ [mark]) last

/-- An operation prepares its undo point, sets it, and does its work. -/
theorem keepsTrail_marked {operation : Operation} {limit : Nat} {middle : Frame Pixels}
    {inclining' : Bool} {document : Document Pixels}
    (prepared : Prepared operation document middle)
    (before : KeepsTrail wx inclining inclining' marks marks first middle)
    (after : ∀ marks, KeepsTrail wx inclining' false marks marks (imageUndoPoint env middle) last)
    (limited : ∀ frame, (env frame).undoHistory = limit) (short : marks.length < limit) :
    Keeps Frame.calls CallDone (ShownTrail wx inclining marks)
      (Marked wx marks operation document) first last :=
  ((before.trans (keepsTrail_imageUndoPoint wx prepared env (limited middle) short)).trans
    (after _)).mono id fun trail => ⟨prepared.mark, rfl, rfl, trail⟩

/-- An operation that raises the dirty flag before its undo point. -/
theorem keepsTrail_dirty_losslessOrManip {operation : Operation} {limit : Nat}
    (lossless : operation ≠ .inclination) (command : JpegtranCommand) (transform : Transform)
    (limited : ∀ frame, (env frame).undoHistory = limit) (short : marks.length < limit) :
    Keeps Frame.calls CallDone (ShownTrail wx false marks)
      (Marked wx marks operation frame.toDocument) frame
      (losslessOrManip wx env command transform (dirty frame)) := by
  have prepared : Prepared operation frame.toDocument (dirty frame) :=
    ⟨rfl, rfl, rfl, rfl, rfl, by simp [lossless, dirty, updateControlsState]⟩
  exact keepsTrail_marked prepared (keepsTrail_quiet rfl rfl rfl rfl rfl rfl)
    (fun _ => keepsTrail_losslessOrManip command transform) limited short

/-- Entering the inclination mode prepares an inclination. -/
theorem prepared_onModeInclin (cropMode : frame.isInclinaison = false) :
    Prepared .inclination frame.toDocument ((onModeInclin wx env frame).record .inclination) ∧
      (onModeInclin wx env frame).isInclinaison = true ∧
      (onModeInclin wx env frame).historyUndo = frame.historyUndo ∧
      (onModeInclin wx env frame).historyRedo = frame.historyRedo ∧
      (onModeInclin wx env frame).calls = frame.calls := by
  have enters : onModeInclin wx env frame =
      { frame with
        isInclinaison := true
        bJPEGlossless := false
        bDirty := (onModeInclin wx env frame).bDirty } := by
    unfold onModeInclin
    rw [if_neg (Bool.eq_false_iff.mp cropMode)]
    cases flag : frame.bJPEGlossless <;>
      simp [onToggleJPEGLossless, updateControlsState]
  rw [enters]
  exact ⟨⟨rfl, rfl, rfl, rfl, rfl, by simp [Frame.record]⟩, rfl, rfl, rfl, rfl⟩

theorem keepsTrail_inclineImage {limit : Nat} (cropMode : frame.isInclinaison = false)
    (limited : ∀ frame, (env frame).undoHistory = limit) (short : marks.length < limit) :
    Keeps Frame.calls CallDone (ShownTrail wx false marks)
      (Marked wx marks .inclination frame.toDocument) frame
      (inclineImage wx env (onModeInclin wx env frame)) := by
  obtain ⟨prepared, mode, undo, redo, calls⟩ := prepared_onModeInclin cropMode
  generalize onModeInclin wx env frame = entered at prepared mode undo redo calls ⊢
  have lossy : entered.bJPEGlossless = false := prepared.lossless.trans (by simp)
  have enters : KeepsTrail wx false true marks marks frame entered :=
    keepsTrail_lossy calls prepared.files prepared.original prepared.name undo redo
      (fun _ => mode) lossy
  have records : KeepsTrail wx true true marks marks entered (entered.record .inclination) :=
    .entry rfl fun _ trail =>
      ⟨trail.toTrail.congr (fun _ _ => rfl) rfl rfl rfl rfl trail.mode, trail.shown⟩
  have leaves : ∀ marks, KeepsTrail wx true false marks marks
      (imageUndoPoint env (entered.record .inclination)) (inclineImage wx env entered) := by
    intro marks
    refine keepsTrail_beginImageManip.trans ?_
    refine inclineImage_elim (motive := fun begun last => begun.bJPEGlossless = false →
      KeepsTrail wx true false marks marks begun last) ?_
      (beginImageManip_bJPEGlossless.trans lossy)
    intro begun dx dy flag
    exact keepsTrail_lossy rfl rfl rfl rfl rfl rfl (fun _ => rfl) flag
  exact keepsTrail_marked prepared (enters.trans records) leaves limited short

/-- The operations with both branches record an undo point. -/
theorem undoPoints_losslessOrManip (opened : frame.sOriginalFilename ≠ noFile)
    (command : JpegtranCommand) (transform : Transform) :
    0 < undoPoints frame (losslessOrManip wx env command transform frame) := by
  have points : KeepsShown wx false false false frame (imageUndoPoint env frame) :=
    keepsShown_imageUndoPoint wx frame env
  have works : KeepsTrail wx false false [] [] (imageUndoPoint env frame)
      (losslessOrManip wx env command transform frame) :=
    keepsTrail_losslessOrManip command transform
  rw [undoPoints_trans points.grows works.grows, undoPoints_imageUndoPoint opened]
  omega

theorem undoPoints_inclineImage (opened : frame.sOriginalFilename ≠ noFile) :
    0 < undoPoints frame (inclineImage wx env frame) := by
  have records : KeepsShown wx false false false frame (frame.record .inclination) :=
    keepsShown_hidden rfl rfl
  have points : KeepsShown wx false false false (frame.record .inclination)
      (imageUndoPoint env (frame.record .inclination)) :=
    keepsShown_imageUndoPoint wx _ env
  have counted : undoPoints frame (imageUndoPoint env (frame.record .inclination)) =
      undoPoints frame (frame.record .inclination) + 1 := by
    rw [undoPoints_trans records.grows points.grows]
    exact congrArg _ (undoPoints_imageUndoPoint opened)
  have same : undoPoints frame (inclineImage wx env frame) =
      undoPoints frame (imageUndoPoint env (frame.record .inclination)) := by
    unfold undoPoints added
    rw [inclineImage_calls]
  omega

/-- An inclination that records one undo point is not followed by its automatic crop. -/
theorem onImageInclin_once (opened : frame.sOriginalFilename ≠ noFile)
    (once : undoPoints frame (onImageInclin wx env frame) = 1) :
    onImageInclin wx env frame = inclineImage wx env frame := by
  have inclines : KeepsShown wx false true false frame (inclineImage wx env frame) :=
    keepsShown_inclineImage wx frame env
  have inclined : 0 < undoPoints frame (inclineImage wx env frame) :=
    undoPoints_inclineImage opened
  have stillOpened : (inclineImage wx env frame).sOriginalFilename ≠ noFile :=
    fun none => opened (inclineImage_sOriginalFilename.symm.trans none)
  unfold onImageInclin at once ⊢
  dsimp only at once ⊢
  split at once
  · rename_i angle
    rw [if_pos angle]
    split at once
    · rename_i autoCrops
      rw [if_pos autoCrops]
      generalize inclineImage wx env frame = middle at inclines inclined stillOpened once ⊢
      unfold onImageCrop at once ⊢
      dsimp only at once ⊢
      split at once
      · have dirties : KeepsShown wx false false false middle (dirty middle) :=
          keepsShown_dirty wx middle
        have crops : KeepsShown wx false true false (dirty middle)
            (losslessOrManip wx env _ _ (dirty middle)) :=
          keepsShown_losslessOrManip wx (dirty middle) env (.crop (env middle).selectedZone)
            (.getSubImage (env middle).selectedZone)
        have dirtyOpened : (dirty middle).sOriginalFilename ≠ noFile := stillOpened
        have second := @undoPoints_losslessOrManip _ wx (dirty middle) env dirtyOpened
          (.crop (env middle).selectedZone) (.getSubImage (env middle).selectedZone)
        rw [undoPoints_trans inclines.grows ((dirties.trans crops).grows),
          undoPoints_trans dirties.grows crops.grows] at once
        omega
      · rename_i noZone
        rw [if_neg noZone]
    · rename_i noCrop
      rw [if_neg noCrop]
  · rw [undoPoints_of_calls_eq rfl] at once
    cases once

/-- An operation that records one undo point adds its mark to the trail. -/
theorem keepsTrail_operation (operation : Operation) {limit : Nat}
    (limited : ∀ frame, (env frame).undoHistory = limit) (short : marks.length < limit)
    (once : undoPoints frame (operation.perform wx env frame) = 1) :
    Keeps Frame.calls CallDone (ShownTrail wx false marks)
      (Marked wx marks operation frame.toDocument) frame (operation.perform wx env frame) := by
  cases operation with
  | crop =>
      simp only [Operation.perform, onImageCrop] at once ⊢
      split at once
      · rename_i zone
        rw [if_pos zone]
        exact keepsTrail_dirty_losslessOrManip (by decide) _ _ limited short
      · rw [undoPoints_of_calls_eq rfl] at once
        cases once
  | rotateLeft => exact keepsTrail_dirty_losslessOrManip (by decide) _ _ limited short
  | rotateRight => exact keepsTrail_dirty_losslessOrManip (by decide) _ _ limited short
  | flipHorizontal => exact keepsTrail_dirty_losslessOrManip (by decide) _ _ limited short
  | flipVertical =>
      have prepared : Prepared .flipVertical frame.toDocument frame :=
        ⟨rfl, rfl, rfl, rfl, rfl, by simp⟩
      exact keepsTrail_marked prepared (.refl frame id)
        (fun _ => keepsTrail_losslessOrManip .flipVertical (.mirror false)) limited short
  | inclination =>
      have enters : KeepsShown wx false false false frame (onModeInclin wx env frame) :=
        keepsShown_onModeInclin wx frame env
      have inclines : KeepsShown wx false false false (onModeInclin wx env frame)
          (onImageInclin wx env (onModeInclin wx env frame)) :=
        keepsShown_onImageInclin wx _ env
      refine ⟨(enters.trans inclines).grows, fun fine trail => ?_⟩
      obtain ⟨prepared, _, _, _, calls⟩ :=
        prepared_onModeInclin trail.mode
      have opened : (onModeInclin wx env frame).sOriginalFilename ≠ noFile :=
        prepared.original ▸ trail.opened
      simp only [Operation.perform] at once fine ⊢
      rw [undoPoints_congr calls.symm] at once
      rw [onImageInclin_once opened once] at fine ⊢
      exact (keepsTrail_inclineImage trail.mode limited short).holds fine trail
  | resize destWidth destHeight =>
      have prepared : Prepared (.resize destWidth destHeight) frame.toDocument frame :=
        ⟨rfl, rfl, rfl, rfl, rfl, by simp⟩
      exact keepsTrail_marked prepared (.refl frame id)
        (fun _ => keepsTrail_resize destWidth destHeight) limited short
  | comment text =>
      have prepared : Prepared (.comment text) frame.toDocument (dirty (editComment text frame)) :=
        ⟨rfl, rfl, rfl, rfl, rfl, by simp [dirty, editComment, updateControlsState]⟩
      have modified : (editComment text frame).textCommentModified = true := rfl
      simp only [Operation.perform, onImageWriteComment]
      rw [if_pos modified]
      exact keepsTrail_marked prepared (keepsTrail_quiet rfl rfl rfl rfl rfl rfl)
        (fun _ => keepsTrail_writeComment.trans (keepsTrail_quiet rfl rfl rfl rfl rfl rfl))
        limited short

end Marks

/-! ## Runs of operations -/

section Runs

variable {wx : Wx Pixels} {marks : List (Mark Pixels)} {frame : Frame Pixels}

/-- The documents the operations are applied to. -/
def documents (wx : Wx Pixels) :
    List (Operation × Environment Pixels) → Frame Pixels → List (Document Pixels)
  | [], _ => []
  | (operation, env) :: rest, frame =>
      frame.toDocument :: documents wx rest (operation.perform wx env frame)

theorem getElem?_documents {operations : List (Operation × Environment Pixels)} {index : Nat}
    (within : index < operations.length) :
    (documents wx operations frame)[index]? =
      some (performAll wx (operations.take index) frame).toDocument := by
  induction operations generalizing index frame with
  | nil => exact absurd within (Nat.not_lt_zero _)
  | cons step rest ih =>
      cases index with
      | zero => rfl
      | succ index => exact ih (Nat.lt_of_succ_lt_succ within)

/-- Below the limit a run of operations adds a mark for each of them. -/
theorem keepsTrail_performAll {limit : Nat} {operations : List (Operation × Environment Pixels)}
    (once : RecordsOnce wx limit operations frame)
    (short : marks.length + operations.length ≤ limit) :
    Keeps Frame.calls CallDone (ShownTrail wx false marks)
      (fun last => ∃ more : List (Mark Pixels),
        more.map Mark.operation = operations.map Prod.fst ∧
          more.map Mark.document = documents wx operations frame ∧
            ShownTrail wx false (marks ++ more) last)
      frame (performAll wx operations frame) := by
  induction operations generalizing marks frame with
  | nil => exact .refl frame fun trail => ⟨[], rfl, rfl, by rwa [List.append_nil]⟩
  | cons step rest ih =>
      obtain ⟨operation, env⟩ := step
      obtain ⟨limited, here, later⟩ := once
      simp only [List.length_cons] at short
      have nonempty : Nonempty (Mark Pixels) :=
        ⟨operation, frame.toDocument, RpImage.save frame.toDocument⟩
      refine (keepsTrail_operation operation limited (by omega) here).trans
        (Keeps.union fun mark => ?_)
      have shorter : (marks ++ [mark]).length + rest.length ≤ limit := by
        simp only [List.length_append, List.length_singleton]
        omega
      have rested := (ih later shorter).carry
        (mark.operation = operation ∧ mark.document = frame.toDocument)
      refine rested.mono (fun ⟨done, on, trail⟩ => ⟨trail, done, on⟩)
        fun ⟨⟨more, performed, before, trail⟩, done, on⟩ => ⟨mark :: more, ?_, ?_, ?_⟩
      · simp only [List.map_cons, done, performed]
      · simp only [List.map_cons, on, before]
        rfl
      · rwa [List.append_assoc] at trail

/-! ## Undoing -/

/-- The newest undo entries restore the documents of their marks. -/
structure Undoable (wx : Wx Pixels) (marks : List (Mark Pixels)) (frame : Frame Pixels) :
    Prop where
  history : ∃ older, frame.historyUndo = older ++ marks.map Mark.entry
  restores : ∀ mark ∈ marks,
    mark.snapshot.FilesExist frame.files ∧ mark.Restores wx frame.files

theorem Trail.undoable {inclining : Bool} (trail : Trail wx inclining marks frame) :
    Undoable wx marks frame where
  history := trail.history.imp fun _ known => known.1
  restores := fun mark member =>
    ⟨⟨trail.held _ (mem_needed_snapshot member List.mem_cons_self),
      trail.held _ (mem_needed_snapshot member (sFilename_mem_names _))⟩,
      trail.restores mark member⟩

/-- The pixels, the names, the working file and whether it is temporary. -/
structure SameDocument (document : Document Pixels) (frame : Frame Pixels) : Prop where
  image : frame.image = document.image
  original : frame.sOriginalFilename = document.sOriginalFilename
  name : frame.sFilename = document.sFilename
  content : frame.files.content frame.sFilename = document.files.content document.sFilename
  temp : frame.bTemp = document.bTemp

/-- The document of the mark is back. -/
def Returned (mark : Mark Pixels) (frame : Frame Pixels) : Prop :=
  SameDocument mark.document frame ∧ frame.bJPEGlossless =
    (mark.document.bJPEGlossless && decide (mark.operation ≠ .inclination))

/-- One undo brings the document of the newest mark back, and leaves the files alone. -/
theorem undo_newest {mark : Mark Pixels} {env : Environment Pixels}
    (undoable : Undoable wx (marks ++ [mark]) frame) :
    Undoable wx marks (onImageUndo wx env frame) ∧ Returned mark (onImageUndo wx env frame) := by
  obtain ⟨older, undo⟩ := undoable.history
  obtain ⟨filesExist, restores⟩ :=
    undoable.restores mark (List.mem_append_right _ List.mem_cons_self)
  have newest : frame.historyUndo =
      (older ++ marks.map Mark.entry) ++ [.image mark.snapshot] := by
    rw [undo, List.map_append, ← List.append_assoc]
    rfl
  rw [onImageUndo_image newest filesExist]
  refine ⟨⟨⟨older, rfl⟩, fun other member =>
    undoable.restores other (List.mem_append_left _ member)⟩, ?_, restores.lossless⟩
  exact {
    image := restores.image
    original := restores.original
    name := restores.name
    content := restores.content
    temp := restores.temp }

/-- As many undos as there are marks from one on bring the document of that mark back. -/
theorem undoAll_marks {front back : List (Mark Pixels)} {mark : Mark Pixels}
    {envs : List (Environment Pixels)} (undoable : Undoable wx (front ++ mark :: back) frame)
    (count : envs.length = back.length + 1) : Returned mark (undoAll wx envs frame) := by
  induction envs generalizing back frame with
  | nil => cases count
  | cons env rest ih =>
      rcases List.eq_nil_or_concat back with rfl | ⟨earlier, newest, rfl⟩
      · have noRest : rest = [] := List.length_eq_zero_iff.mp (Nat.succ_injective count)
        subst noRest
        exact (undo_newest undoable).2
      · rw [List.concat_eq_append] at undoable count
        have split : front ++ mark :: (earlier ++ [newest]) =
            (front ++ mark :: earlier) ++ [newest] := by simp
        refine ih (undo_newest (split ▸ undoable)).1 ?_
        simpa using count

/-! ## Undoing after a load -/

/-- A photo has just been loaded in crop mode; no older entry owns it. -/
structure LoadedPhoto (wx : Wx Pixels) (frame : Frame Pixels) : Prop where
  opened : frame.sOriginalFilename ≠ noFile
  notTemp : frame.bTemp = false
  name : frame.sFilename = frame.sOriginalFilename
  onDisk : frame.files.Holds frame.sOriginalFilename
  image : frame.image = (frame.files.content frame.sFilename).bind wx.decode
  cropMode : frame.isInclinaison = false
  unowned : ∀ entry ∈ frame.historyUndo ++ frame.historyRedo,
    entry.owner ≠ some frame.sOriginalFilename

theorem LoadedPhoto.trail (loaded : LoadedPhoto wx frame) : ShownTrail wx false [] frame := by
  have needs : ∀ name ∈ needed [] frame.toDocument, name = frame.sOriginalFilename := by
    intro name member
    simpa [needed, loaded.name] using member
  refine ⟨⟨loaded.opened, loaded.cropMode, ⟨frame.historyUndo, ?_, ?_⟩, ?_, ?_⟩,
    fun _ => loaded.image⟩
  · exact (List.append_nil _).symm
  · intro entry member name isNeeded
    rw [needs name isNeeded]
    exact loaded.unowned entry member
  · intro name isNeeded
    rw [needs name isNeeded]
    exact loaded.onDisk
  · exact fun mark member => nomatch member

/--
After operations that each record one undo point, and at most as many undos, the
document is the one before the first operation undone.  The lossless flag is off
if that operation is an inclination, which has switched it off.
-/
theorem undo_restores (wx : Wx Pixels) {frame : Frame Pixels} (loaded : LoadedPhoto wx frame)
    (operations : List (Operation × Environment Pixels)) (envs : List (Environment Pixels))
    {limit : Nat} (short : operations.length ≤ limit)
    (once : RecordsOnce wx limit operations frame)
    (done : AllFine Frame.calls CallDone frame (performAll wx operations frame))
    (undone : envs.length ≤ operations.length) :
    SameDocument
        (performAll wx (operations.take (operations.length - envs.length)) frame).toDocument
        (undoAll wx envs (performAll wx operations frame)) ∧
      (undoAll wx envs (performAll wx operations frame)).bJPEGlossless =
        ((performAll wx (operations.take (operations.length - envs.length)) frame).bJPEGlossless &&
          decide ((operations[operations.length - envs.length]?).map Prod.fst ≠
            some .inclination)) := by
  obtain ⟨marks, sameOperations, sameDocuments, trail⟩ :=
    (keepsTrail_performAll once (by simpa using short)).holds done loaded.trail
  rw [List.nil_append] at trail
  have length : marks.length = operations.length := by
    simpa using congrArg List.length sameOperations
  cases envs with
  | nil =>
      simp only [List.length_nil, Nat.sub_zero, List.take_length, List.getElem?_length]
      exact ⟨⟨rfl, rfl, rfl, rfl, rfl⟩, (Bool.and_true _).symm⟩
  | cons env rest =>
      simp only [List.length_cons] at undone ⊢
      have within : operations.length - (rest.length + 1) < operations.length := by omega
      generalize atIndex : operations.length - (rest.length + 1) = index at within ⊢
      have inMarks : index < marks.length := length ▸ within
      have splits : marks = marks.take index ++ marks[index] :: marks.drop (index + 1) := by
        rw [List.cons_getElem_drop_succ, List.take_append_drop]
      have document : marks[index].document =
          (performAll wx (operations.take index) frame).toDocument := by
        have known := congrArg (·[index]?) sameDocuments
        simpa [getElem?_documents within, inMarks] using known
      have operation : (operations[index]?).map Prod.fst = some marks[index].operation := by
        have known := congrArg (·[index]?) sameOperations
        simpa [inMarks] using known.symm
      have returned : Returned marks[index]
          (undoAll wx (env :: rest) (performAll wx operations frame)) := by
        refine undoAll_marks
          (splits ▸ trail.toTrail.undoable) ?_
        simp only [List.length_cons, List.length_drop]
        omega
      obtain ⟨same, lossless⟩ := returned
      rw [document] at same lossless
      refine ⟨same, lossless.trans ?_⟩
      simp [operation]

theorem loadedPhoto_sample :
    LoadedPhoto sampleWx (sampleFrame 3 [.imageLoad photoA true]) where
  opened := by decide
  notTemp := rfl
  name := rfl
  onDisk := by decide
  image := rfl
  cropMode := rfl
  unowned := fun _ member => nomatch member

/-- A lossless rotation, a lossless comment and a resize. -/
def sampleOperations : List (Operation × Environment Bytes) :=
  [(.rotateLeft, sampleEnv 3), (.comment ['c'], sampleEnv 3), (.resize 2 2, sampleEnv 3)]

/-- The comment and the resize are undone. -/
theorem undo_restores_rotation :
    SameDocument
        (performAll sampleWx (sampleOperations.take 1)
          (sampleFrame 3 [.imageLoad photoA true])).toDocument
        (undoAll sampleWx [sampleEnv 3, sampleEnv 3]
          (performAll sampleWx sampleOperations (sampleFrame 3 [.imageLoad photoA true]))) ∧
      (undoAll sampleWx [sampleEnv 3, sampleEnv 3]
        (performAll sampleWx sampleOperations
          (sampleFrame 3 [.imageLoad photoA true]))).bJPEGlossless =
        ((performAll sampleWx (sampleOperations.take 1)
          (sampleFrame 3 [.imageLoad photoA true])).bJPEGlossless &&
          decide ((sampleOperations[1]?).map Prod.fst ≠ some .inclination)) := by
  have once : RecordsOnce sampleWx 3 sampleOperations
      (sampleFrame 3 [.imageLoad photoA true]) :=
    ⟨fun _ => rfl, by decide, fun _ => rfl, by decide, fun _ => rfl, by decide, trivial⟩
  exact undo_restores sampleWx loadedPhoto_sample sampleOperations [sampleEnv 3, sampleEnv 3]
    (by decide) once (by unfold AllFine; decide) (by decide)

/-- An inclination entered in lossless mode and undone leaves the lossy mode. -/
theorem undo_inclination_lossy :
    LoadedPhoto sampleWx (sampleFrame 3 [.imageLoad photoA true]) ∧
      RecordsOnce sampleWx 3 [(.inclination, sampleEnv 3)]
        (sampleFrame 3 [.imageLoad photoA true]) ∧
      (sampleFrame 3 [.imageLoad photoA true]).bJPEGlossless = true ∧
      (undoAll sampleWx [sampleEnv 3] (performAll sampleWx [(.inclination, sampleEnv 3)]
        (sampleFrame 3 [.imageLoad photoA true]))).bJPEGlossless = false :=
  ⟨loadedPhoto_sample, ⟨fun _ => rfl, by decide, trivial⟩, rfl, rfl⟩

end Runs

end RPhoto.Editing
