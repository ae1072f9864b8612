import RPhoto.Editing.SampleWorld

/-!
# Failed lossless operations

A lossless call names its new temporary file as the working file before the file
is filled.  When the call then fails, the document is intact exactly when the
whole old content had reached the temporary file.
-/

namespace RPhoto.Editing

open RPhoto.Jpeg RPhoto.Library

variable {Pixels : Type}

/-- The two functions that run a tool on a temporary copy. -/
inductive LosslessCall where
  | jpegtran (command : JpegtranCommand)
  | jhead (command : JheadCommand)

/-- Run `CallJPEGTranTryPerfect` or `CallJHead`. -/
def LosslessCall.run (wx : Wx Pixels) (env : Environment Pixels) (call : LosslessCall)
    (frame : Frame Pixels) : Frame Pixels × Bool :=
  match call with
  | .jpegtran command => callJPEGTranTryPerfect wx env command frame
  | .jhead command => callJHead wx env command frame

/-- The image is the same, and the working file holds what the source held. -/
structure DocumentIntact (before after : Frame Pixels) : Prop where
  image : after.image = before.image
  content : after.files.content after.sFilename =
    before.files.content (sourceFilename before.toDocument)

/-! ## What reaches the temporary file -/

/-- Every block from the given read on is read and written in full. -/
def BlocksCopied (readFails : Nat → Bool) (writeStops : Nat → Option Nat) :
    Nat → List Bytes → Prop
  | _, [] => True
  | index, block :: rest =>
      readFails index = false ∧ (∀ count, writeStops index = some count → block.length ≤ count) ∧
        BlocksCopied readFails writeStops (index + 1) rest

/-- The copy of these bytes meets no fault before the last of them is written. -/
def CopiesAll (env : Env) (writable : Bool) (data : Bytes) : Prop :=
  if writable then
    match env.copyFault with
    | none => True
    | some .opening => False
    | some (.stopped count) => data.length ≤ count
  else
    env.openFails = false ∧ env.createFails = false ∧
      BlocksCopied env.readFails env.writeStops 0 (readBlocks data.length data)

theorem readBlocks_ne_nil {fuel : Nat} {data block : Bytes}
    (present : block ∈ readBlocks fuel data) : block ≠ [] := by
  induction fuel generalizing data with
  | zero => exact absurd present List.not_mem_nil
  | succ fuel ih =>
      cases data with
      | nil => exact absurd present List.not_mem_nil
      | cons byte rest =>
          rcases List.mem_cons.mp present with rfl | later
          · simp [bufferSize]
          · exact ih later

/-- The copy loop writes everything exactly when no block meets a fault. -/
theorem copyBlocks_eq_iff {readFails : Nat → Bool} {writeStops : Nat → Option Nat}
    {blocks : List Bytes} (filled : ∀ block ∈ blocks, block ≠ []) (index : Nat)
    (written : Bytes) :
    (copyBlocks readFails writeStops index blocks written).1 = written ++ blocks.flatten ↔
      BlocksCopied readFails writeStops index blocks := by
  induction blocks generalizing index written with
  | nil => simp [copyBlocks, BlocksCopied]
  | cons block rest ih =>
      have blockPos : 0 < block.length :=
        List.length_pos_iff.mpr (filled block List.mem_cons_self)
      have later := ih (fun other member => filled other (List.mem_cons_of_mem _ member))
        (index + 1) (written ++ block)
      have whole : written ++ (block :: rest).flatten = written ++ block ++ rest.flatten := by simp
      cases fails : readFails index with
      | true =>
          simp only [copyBlocks, BlocksCopied, fails, if_true, whole]
          simp only [reduceCtorEq, false_and, iff_false, List.append_assoc]
          intro same
          have lengths := congrArg List.length same
          simp only [List.length_append] at lengths
          omega
      | false =>
          cases stops : writeStops index with
          | none => simpa [copyBlocks, BlocksCopied, fails, stops] using later
          | some count =>
              by_cases short : count < block.length
              · simp only [copyBlocks, BlocksCopied, fails, stops, short, if_true, whole]
                refine ⟨fun same => ?_, fun copied => ?_⟩
                · have lengths := congrArg List.length same
                  simp only [Bool.false_eq_true, if_false, List.length_append,
                    List.length_take] at lengths
                  omega
                · have enough := copied.2.1 count rfl
                  omega
              · simpa [copyBlocks, BlocksCopied, fails, stops, short, Nat.not_lt.mp short]
                  using later

/-- What the copy leaves at a destination, by `wxCopyFile` or by hand. -/
def fillOutcome (env : Env) (writable : Bool) (destination : FileName)
    (source : Option Bytes) : Option Bytes :=
  if writable then (copyOutcome env.copyFault destination source).1
  else (manualOutcome env destination source).1

/-- A new temporary file ends up with the whole data exactly when the copy meets no fault. -/
theorem fillOutcome_eq_iff (env : Env) (writable : Bool) {destination : FileName} (data : Bytes)
    (named : destination ≠ noFile) :
    (fillOutcome env writable destination (some data)).getD [] = data ↔
      data = [] ∨ CopiesAll env writable data := by
  cases writable with
  | true =>
      simp only [fillOutcome, copyOutcome, CopiesAll, if_true, if_neg named]
      rcases env.copyFault with _ | _ | count
      · simp
      · simp [eq_comm]
      · simp only [Option.getD_some, List.take_eq_self_iff]
        refine ⟨.inr, fun enough => ?_⟩
        rcases enough with rfl | enough
        · simp
        · exact enough
  | false =>
      simp only [fillOutcome, manualOutcome, CopiesAll, Bool.false_eq_true, if_false]
      by_cases blocked : env.openFails = true ∨ env.createFails = true
      · have faults :
            (env.openFails || env.createFails || decide (destination = noFile)) = true := by
          rcases blocked with opening | creation <;> simp [*]
        rw [if_pos faults]
        refine ⟨fun empty => .inl (by simpa using empty.symm), fun copied => ?_⟩
        rcases copied with rfl | ⟨opens, creates, _⟩
        · rfl
        · simp [opens, creates] at blocked
      · obtain ⟨opens, creates⟩ := not_or.mp blocked
        have free :
            (env.openFails || env.createFails || decide (destination = noFile)) = false := by
          simp [opens, creates, named]
        have filled : ∀ block ∈ readBlocks data.length data, block ≠ [] :=
          fun block present => readBlocks_ne_nil present
        have loop := @copyBlocks_eq_iff env.readFails env.writeStops _ filled 0 []
        rw [List.nil_append, flatten_readBlocks (Nat.le_refl _)] at loop
        simp only [free, Bool.false_eq_true, if_false, Option.getD_some, loop]
        refine ⟨fun copied => .inr ⟨by simpa using opens, by simpa using creates, copied⟩,
          fun copied => ?_⟩
        rcases copied with rfl | ⟨_, _, copied⟩
        · exact trivial
        · exact copied

/-! ## The call up to its failure -/

section Failure

variable (env : Environment Pixels) (frame : Frame Pixels)

/-- The frame after the switch to the temporary file. -/
def switched : Frame Pixels := switchToTemp env (imageUndoPoint env frame)

/-- The answer of `CreateTempFileName`. -/
def newTempName : FileName := (switched env frame).sFilename

/-- Whether the source is copied by `wxCopyFile`. -/
def sourceWritable : Bool :=
  (env (switched env frame)).isFileWritable (sourceFilename frame.toDocument)

@[simp]
theorem sourceFilename_imageUndoPoint :
    sourceFilename (imageUndoPoint env frame).toDocument = sourceFilename frame.toDocument := by
  simp [sourceFilename]

/-- The copy step: only the files and the record of calls change after the switch. -/
theorem copyToTemp_fst :
    (copyToTemp env frame).1 =
      { switched env frame with
        files := writeOutcome (newTempName env frame)
          (fillOutcome (env (switched env frame)) (sourceWritable env frame)
            (newTempName env frame)
            ((switched env frame).files.content (sourceFilename frame.toDocument)))
          (switched env frame).files
        calls := (copyToTemp env frame).1.calls } := by
  cases writable : sourceWritable env frame with
  | true =>
      have asked : (env (switchToTemp env (imageUndoPoint env frame))).isFileWritable
          (sourceFilename frame.toDocument) = true := writable
      simp [copyToTemp, asked, copyFile, fillOutcome, switched, newTempName, Frame.record]
  | false =>
      have asked : (env (switchToTemp env (imageUndoPoint env frame))).isFileWritable
          (sourceFilename frame.toDocument) = false := writable
      simp [copyToTemp, asked, manualCopy, fillOutcome, switched, newTempName, Frame.record]

@[simp]
theorem copyToTemp_sFilename : (copyToTemp env frame).1.sFilename = newTempName env frame := by
  rw [copyToTemp_fst]
  rfl

@[simp]
theorem copyToTemp_image : (copyToTemp env frame).1.image = frame.image := by
  rw [copyToTemp_fst]
  simp [switched, switchToTemp, createTempFile, Frame.record]

theorem switched_files :
    (switched env frame).files =
      if newTempName env frame = noFile then (imageUndoPoint env frame).files
      else (imageUndoPoint env frame).files.write (newTempName env frame) [] := rfl

variable {env frame}

/-- A failing call leaves the frame as the copy made it. -/
theorem run_false {wx : Wx Pixels} {call : LosslessCall} {after : Frame Pixels}
    (failed : call.run wx env frame = (after, false)) :
    after.files = (copyToTemp env frame).1.files ∧
      after.sFilename = newTempName env frame ∧ after.image = frame.image := by
  have copied : ∀ (record : Bool → Call) (output : Option Bytes),
      (if (copyToTemp env frame).2 then applyTool wx record output (copyToTemp env frame).1
        else ((copyToTemp env frame).1, false)) = (after, false) →
      after.files = (copyToTemp env frame).1.files ∧
        after.sFilename = newTempName env frame ∧ after.image = frame.image := by
    intro record output ended
    split at ended
    · cases output with
      | some data => simp [applyTool] at ended
      | none =>
          simp only [applyTool, Prod.mk.injEq, and_true] at ended
          subst ended
          exact ⟨rfl, copyToTemp_sFilename env frame, copyToTemp_image env frame⟩
    · cases ended
      exact ⟨rfl, copyToTemp_sFilename env frame, copyToTemp_image env frame⟩
  cases call with
  | jpegtran command => exact copied _ _ failed
  | jhead command => exact copied _ _ failed

/-- A named temporary file ends up with what the copy brought from the source. -/
theorem copyToTemp_content (named : newTempName env frame ≠ noFile)
    (fresh : ¬ (imageUndoPoint env frame).files.Holds (newTempName env frame)) :
    (copyToTemp env frame).1.files.content (newTempName env frame) =
      some (match (imageUndoPoint env frame).files.content (sourceFilename frame.toDocument) with
        | some data =>
            (fillOutcome (env (switched env frame)) (sourceWritable env frame)
              (newTempName env frame) (some data)).getD []
        | none => []) := by
  have filled : ∀ source : Option Bytes,
      (writeOutcome (newTempName env frame)
        (fillOutcome (env (switched env frame)) (sourceWritable env frame)
          (newTempName env frame) source) (switched env frame).files).content
          (newTempName env frame) =
        some ((fillOutcome (env (switched env frame)) (sourceWritable env frame)
          (newTempName env frame) source).getD []) := by
    intro source
    cases fillOutcome (env (switched env frame)) (sourceWritable env frame)
      (newTempName env frame) source with
    | some data => simp [writeOutcome]
    | none => simp [writeOutcome, switched_files, named]
  rw [copyToTemp_fst]
  refine (filled _).trans (congrArg some ?_)
  rw [switched_files, if_neg named]
  cases present : (imageUndoPoint env frame).files.content (sourceFilename frame.toDocument) with
  | some data =>
      have different : sourceFilename frame.toDocument ≠ newTempName env frame := fun same =>
        fresh (by rw [← same]; simp [FileStore.Holds, present])
      rw [FileStore.content_write_of_ne different, present]
  | none =>
      by_cases same : sourceFilename frame.toDocument = newTempName env frame
      · rw [same, FileStore.content_write_self]
        exact (fillOutcome_eq_iff _ _ [] named).mpr (.inl rfl)
      · rw [FileStore.content_write_of_ne same, present]
        cases writable : sourceWritable env frame <;>
          simp [fillOutcome, copyOutcome, manualOutcome]

end Failure

theorem fillOutcome_unnamed (env : Env) (writable : Bool) (source : Option Bytes) :
    fillOutcome env writable noFile source = none := by
  cases writable <;> cases source <;> simp [fillOutcome, copyOutcome, manualOutcome]

/-- Without a name for the temporary file nothing is copied. -/
theorem copyToTemp_content_unnamed {env : Environment Pixels} {frame : Frame Pixels}
    (unnamed : frame.files.content noFile = none) (noName : newTempName env frame = noFile) :
    (copyToTemp env frame).1.files.content (newTempName env frame) = none := by
  rw [copyToTemp_fst, noName]
  simp only [fillOutcome_unnamed, writeOutcome, switched_files, noName, if_true]
  cases pointed : (imageUndoPoint env frame).files.content noFile with
  | none => rfl
  | some data =>
      have earlier := content_of_content_imageUndoPoint pointed
      rw [unnamed] at earlier
      cases earlier

/--
The whole old content reaches the temporary file: the file gets a name, the undo
point leaves the source alone, and the copy meets no fault before the last byte.
An empty source needs no copy, and a missing one is matched by a missing name.
-/
def CopiedBeforeFailure (env : Environment Pixels) (frame : Frame Pixels) : Prop :=
  match frame.files.content (sourceFilename frame.toDocument) with
  | none => newTempName env frame = noFile
  | some data =>
      newTempName env frame ≠ noFile ∧
        (data = [] ∨
          (imageUndoPoint env frame).files.Holds (sourceFilename frame.toDocument) ∧
            CopiesAll (env (switched env frame)) (sourceWritable env frame) data)

/--
A failed lossless call leaves the document intact exactly when the whole old
content had reached the temporary file.  The empty name is no file, and a new
temporary file is not one that is on disk.
-/
theorem failedLossless_intact_iff (wx : Wx Pixels) (env : Environment Pixels)
    (call : LosslessCall) {frame after : Frame Pixels}
    (unnamed : frame.files.content noFile = none)
    (fresh : newTempName env frame ≠ noFile →
      ¬ (imageUndoPoint env frame).files.Holds (newTempName env frame))
    (failed : call.run wx env frame = (after, false)) :
    DocumentIntact frame after ↔ CopiedBeforeFailure env frame := by
  obtain ⟨files, name, image⟩ := run_false failed
  have onContent : DocumentIntact frame after ↔
      (copyToTemp env frame).1.files.content (newTempName env frame) =
        frame.files.content (sourceFilename frame.toDocument) := by
    rw [← files, ← name]
    exact ⟨fun intact => intact.content, fun content => ⟨image, content⟩⟩
  rw [onContent, CopiedBeforeFailure]
  by_cases named : newTempName env frame = noFile
  · rw [copyToTemp_content_unnamed unnamed named]
    cases frame.files.content (sourceFilename frame.toDocument) <;> simp [named]
  · rw [copyToTemp_content named (fresh named)]
    cases before : frame.files.content (sourceFilename frame.toDocument) with
    | none => simp [named]
    | some data =>
        simp only [Option.some.injEq, named, not_false_eq_true, true_and, ne_eq]
        cases pointed : (imageUndoPoint env frame).files.content
          (sourceFilename frame.toDocument) with
        | some found =>
            have same : found = data := by
              have earlier := content_of_content_imageUndoPoint pointed
              rw [before] at earlier
              exact (Option.some.inj earlier).symm
            subst same
            simpa [FileStore.Holds, pointed] using
              fillOutcome_eq_iff (env (switched env frame)) (sourceWritable env frame) found named
        | none => simp [FileStore.Holds, pointed, eq_comm]

/-- A full disk: copies are cut before their first byte, and jpegtran rejects empty files. -/
def fullDiskEnv : Environment Bytes := fun frame =>
  { sampleEnv 10 frame with
    copyFault := some (.stopped 0)
    jpegtran := fun _ _ data => if data = [] then none else some (data ++ [100]) }

/-- A world in which only jpegtran fails. -/
def noJpegtranEnv : Environment Bytes := fun frame =>
  { sampleEnv 10 frame with jpegtran := fun _ _ _ => none }

/-- When only the tool fails the working file is a whole copy of the photo. -/
theorem noJpegtran_intact :
    DocumentIntact (sampleFrame 10 [.imageLoad photoA true])
      ((LosslessCall.jpegtran .rotate90).run sampleWx noJpegtranEnv
        (sampleFrame 10 [.imageLoad photoA true])).1 :=
  (failedLossless_intact_iff sampleWx noJpegtranEnv (.jpegtran .rotate90) (by decide)
    (fun _ => by decide) rfl).mpr ⟨by decide, .inr ⟨by decide, trivial⟩⟩

/-- On a full disk a failed rotation leaves an empty working file, and saving then copies it
over the photo. -/
theorem fullDisk_loses_photo :
    ∃ after saved : Frame Bytes,
      (LosslessCall.jpegtran .rotate90).run sampleWx fullDiskEnv
        (sampleFrame 10 [.imageLoad photoA true]) = (after, false) ∧
      ¬ DocumentIntact (sampleFrame 10 [.imageLoad photoA true]) after ∧
      perform sampleWx ⟨.fileSave, sampleEnv 10, 3⟩ after = some saved ∧
      saved.files.content photoA = some [] := by
  refine ⟨_, _, rfl, fun intact => ?_, rfl, by decide⟩
  exact absurd intact.content (by decide)

end RPhoto.Editing
