import RPhoto.Editing.UndoHistory

/-!
# Lossless operations on temporary copies

`CallJPEGTranTryPerfect` and `CallJHead` switch the document to a new temporary
file, fill it with the old one, run their tool on it and load the result.  A
writable source is copied by `wxCopyFile`, whose result is not looked at; any
other source is copied in a loop that leaves the function at its first failure.
-/

namespace RPhoto.Editing

open RPhoto.Jpeg RPhoto.Library

variable {Pixels : Type}

/-- `wxFileName::CreateTempFileName`: a new empty file, unless it fails. -/
def createTempFile (env : Environment Pixels) (frame : Frame Pixels) : Frame Pixels :=
  let name := (env frame).createTempFileName
  { frame.record (.createTempFileName name) with
    files := if name = noFile then frame.files else frame.files.write name []
    sFilename := name }

/-- What `wxCopyFile` leaves at the destination, if it writes there, and its result. -/
def copyOutcome (fault : Option CopyFault) (destination : FileName) (source : Option Bytes) :
    Option Bytes × Bool :=
  match source with
  | none => (none, false)
  | some data =>
      if destination = noFile then (none, false)
      else
        match fault with
        | none => (some data, true)
        | some .opening => (none, false)
        | some (.stopped count) => (some (data.take count), false)

/-- Write a file if there is something to write. -/
def writeOutcome (name : FileName) (outcome : Option Bytes)
    (files : FileStore FileName Bytes) : FileStore FileName Bytes :=
  match outcome with
  | some data => files.write name data
  | none => files

/-- `wxCopyFile`, overwriting the destination. -/
def copyFile (env : Environment Pixels) (source destination : FileName)
    (frame : Frame Pixels) : Frame Pixels :=
  let outcome := copyOutcome (env frame).copyFault destination (frame.files.content source)
  { frame.record (.copyFile outcome.2) with
    files := writeOutcome destination outcome.1 frame.files }

/-- `WXSIZEOF(buf)`. -/
def bufferSize : Nat := 4096

/-- The blocks successive reads deliver; the fuel bounds their number. -/
def readBlocks : Nat → Bytes → List Bytes
  | 0, _ => []
  | _ + 1, [] => []
  | fuel + 1, rest => rest.take bufferSize :: readBlocks fuel (rest.drop bufferSize)

/-- The copy loop: read number `index` and the following ones, and the bytes written before. -/
def copyBlocks (readFails : Nat → Bool) (writeStops : Nat → Option Nat) :
    Nat → List Bytes → Bytes → Bytes × Bool
  | index, [], written => (written, !readFails index)
  | index, block :: rest, written =>
      if readFails index then (written, false)
      else
        match writeStops index with
        | some count =>
            if count < block.length then (written ++ block.take count, false)
            else copyBlocks readFails writeStops (index + 1) rest (written ++ block)
        | none => copyBlocks readFails writeStops (index + 1) rest (written ++ block)

/-- What the manual copy leaves at the destination, if it creates it, and whether it finishes. -/
def manualOutcome (env : Env) (destination : FileName) (source : Option Bytes) :
    Option Bytes × Bool :=
  match source with
  | none => (none, false)
  | some data =>
      if env.openFails || env.createFails || destination = noFile then (none, false)
      else
        let copied := copyBlocks env.readFails env.writeStops 0 (readBlocks data.length data) []
        (some copied.1, copied.2)

/-- The copy of a source that is not writable. -/
def manualCopy (env : Environment Pixels) (source destination : FileName)
    (frame : Frame Pixels) : Frame Pixels × Bool :=
  let outcome := manualOutcome (env frame) destination (frame.files.content source)
  ({ frame.record (.copyFile outcome.2) with
      files := writeOutcome destination outcome.1 frame.files },
    outcome.2)

/-- The file a lossless operation starts from. -/
def sourceFilename (document : Document Pixels) : FileName :=
  if document.bTemp then document.sFilename else document.sOriginalFilename

/-- The name switch of the lossless operations: the old name is `sourceFilename`. -/
def switchToTemp (env : Environment Pixels) (frame : Frame Pixels) : Frame Pixels :=
  createTempFile env { frame with sFilename := sourceFilename frame.toDocument, bTemp := true }

/-- The part the two tool calls share; the result is false at an early return. -/
def copyToTemp (env : Environment Pixels) (frame : Frame Pixels) : Frame Pixels × Bool :=
  let frame := imageUndoPoint env frame
  let oldFilename := sourceFilename frame.toDocument
  let frame := switchToTemp env frame
  if (env frame).isFileWritable oldFilename then
    (copyFile env oldFilename frame.sFilename frame, true)
  else manualCopy env oldFilename frame.sFilename frame

/-- The output of the first attempt of jpegtran that succeeds; a failing one leaves the file. -/
def jpegtranOutput (env : Env) (command : JpegtranCommand) (source : Option Bytes) :
    Option Bytes :=
  source.bind fun data =>
    match env.jpegtran .perfect command data with
    | some output => some output
    | none => env.jpegtran .trim command data

/-- Run a tool on the working file and load what it wrote. -/
def applyTool (wx : Wx Pixels) (call : Bool → Call) (output : Option Bytes)
    (frame : Frame Pixels) : Frame Pixels × Bool :=
  let frame := frame.record (call output.isSome)
  match output with
  | some data =>
      let frame := { frame with files := frame.files.write frame.sFilename data }
      (updateControlsState (boxLoadFile wx frame.sFilename frame), true)
  | none => (updateControlsState frame, false)

/-- `CallJPEGTranTryPerfect`. -/
def callJPEGTranTryPerfect (wx : Wx Pixels) (env : Environment Pixels)
    (command : JpegtranCommand) (frame : Frame Pixels) : Frame Pixels × Bool :=
  let (frame, copied) := copyToTemp env frame
  if copied then
    applyTool wx (.jpegtran command)
      (jpegtranOutput (env frame) command (frame.files.content frame.sFilename)) frame
  else (frame, false)

/-- `CallJHead`. -/
def callJHead (wx : Wx Pixels) (env : Environment Pixels) (command : JheadCommand)
    (frame : Frame Pixels) : Frame Pixels × Bool :=
  let (frame, copied) := copyToTemp env frame
  if copied then
    applyTool wx .jhead
      ((frame.files.content frame.sFilename).bind ((env frame).jhead command)) frame
  else (frame, false)

/-! ## Copies that succeed -/

theorem flatten_readBlocks {fuel : Nat} {data : Bytes} (enough : data.length ≤ fuel) :
    (readBlocks fuel data).flatten = data := by
  induction fuel generalizing data with
  | zero => simpa [readBlocks] using (List.length_eq_zero_iff.mp (Nat.le_zero.mp enough)).symm
  | succ fuel ih =>
      cases data with
      | nil => rfl
      | cons byte rest =>
          have shorter : ((byte :: rest).drop bufferSize).length ≤ fuel := by
            simp only [List.length_drop, List.length_cons, bufferSize] at enough ⊢
            omega
          rw [readBlocks, List.flatten_cons, ih shorter, List.take_append_drop]
          simp

/-- A copy loop that finishes has written every block. -/
theorem copyBlocks_finished {readFails : Nat → Bool} {writeStops : Nat → Option Nat}
    {blocks : List Bytes} {index : Nat} {written : Bytes}
    (finished : (copyBlocks readFails writeStops index blocks written).2 = true) :
    (copyBlocks readFails writeStops index blocks written).1 = written ++ blocks.flatten := by
  induction blocks generalizing index written with
  | nil => simp [copyBlocks]
  | cons block rest ih =>
      rw [copyBlocks] at finished ⊢
      split at finished
      · cases finished
      · rename_i reads
        rw [if_neg reads]
        split at finished
        · split at finished
          · cases finished
          · rename_i whole
            rw [if_neg whole, ih finished, List.flatten_cons, List.append_assoc]
        · rw [ih finished, List.flatten_cons, List.append_assoc]

/-- A `wxCopyFile` that succeeds has written its source. -/
theorem copyOutcome_succeeded {fault : Option CopyFault} {destination : FileName}
    {source : Option Bytes} (succeeded : (copyOutcome fault destination source).2 = true) :
    ∃ data, source = some data ∧ (copyOutcome fault destination source).1 = some data := by
  cases source with
  | none => cases succeeded
  | some data =>
      refine ⟨data, rfl, ?_⟩
      unfold copyOutcome at succeeded ⊢
      dsimp only at succeeded ⊢
      split at succeeded
      · cases succeeded
      · rename_i named
        rw [if_neg named]
        rcases fault with _ | _ | count
        · rfl
        · cases succeeded
        · cases succeeded

/-- A manual copy that finishes has written its source. -/
theorem manualOutcome_succeeded {env : Env} {destination : FileName} {source : Option Bytes}
    (succeeded : (manualOutcome env destination source).2 = true) :
    ∃ data, source = some data ∧ (manualOutcome env destination source).1 = some data := by
  cases source with
  | none => cases succeeded
  | some data =>
      refine ⟨data, rfl, ?_⟩
      unfold manualOutcome at succeeded ⊢
      dsimp only at succeeded ⊢
      split at succeeded
      · cases succeeded
      · rename_i opens
        rw [if_neg opens, copyBlocks_finished succeeded, List.nil_append,
          flatten_readBlocks (Nat.le_refl _)]

end RPhoto.Editing
