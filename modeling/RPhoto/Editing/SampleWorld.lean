import RPhoto.Editing.Events

/-!
# A small world

Concrete image functions and answers for runs on given files.  The pixels of an
image are the bytes of its file, tools and transformations append one byte (a
progressive jpegtran keeps the file), and a lossy save prepends one.  A new
temporary file takes the first number that no earlier temporary file of the session
had.
-/

namespace RPhoto.Editing

open RPhoto.Jpeg RPhoto.Library

/-- Files that hold data are images without options. -/
def sampleWx : Wx Bytes where
  decode := fun data => if data = [] then none else some ⟨data, []⟩
  loadFailed := id
  encode := fun _ image => some (0 :: image.pixels)
  transform := fun _ image => { image with pixels := image.pixels ++ [200] }
  orientation := fun _ => none
  toBytes := fun text => text.map fun c => UInt8.ofNat c.toNat
  ofBytes := fun data => data.map fun byte => Char.ofNat byte.toNat

/-- The number of temporary files the session has asked for. -/
def tempCount (frame : Frame Bytes) : Nat :=
  (frame.calls.filter fun call =>
    match call.1 with
    | .createTempFileName _ => true
    | _ => false).length

def tempName (number : Nat) : FileName :=
  ⟨["tmp"], String.ofList ("rph".toList ++ List.replicate number 'x')⟩

/-- A world in which everything succeeds and the user declines every question. -/
def sampleEnv (limit : Nat) : Environment Bytes := fun frame =>
  { undoHistory := limit
    bAutoCrop := false
    bAutoSave := false
    bAutoRot := false
    bAutoRotateCrop := false
    sAutoSaveFolder := .empty
    sAutoSaveSuffix := ""
    quality := 80
    selectedZone := ⟨0, 0, 1, 1⟩
    line := (2, 3)
    writeComment := false
    saveAnswer := .no
    selectedFile := noFile
    createTempFileName := tempName (tempCount frame)
    isFileWritable := fun _ => true
    copyFault := none
    openFails := false
    createFails := false
    readFails := fun _ => false
    writeStops := fun _ => none
    saveFails := false
    renameFails := false
    jpegtran := fun _ command data =>
      some (if command = .progressive then data else data ++ [100])
    jhead := fun _ data => some (data ++ [101])
    wrjpgcom := fun data comment => (0, data ++ comment) }

def photoA : FileName := ⟨["a"], "p.jpg"⟩

def photoB : FileName := ⟨["b"], "p.jpg"⟩

/-- Two folders that hold different photos of the same name. -/
def sampleFiles : FileStore FileName Bytes :=
  .ofContent fun name =>
    if name = photoA then some [1] else if name = photoB then some [2] else none

/-- Perform events of the small world from the frame without a document. -/
def sampleRun (limit : Nat) (events : List Event) : Option (Frame Bytes) :=
  runEvents (perform sampleWx) (events.map fun event => ⟨event, sampleEnv limit, 3⟩)
    (emptyFrame sampleFiles)

/-- The frame such a run ends in. -/
def sampleFrame (limit : Nat) (events : List Event) : Frame Bytes :=
  (sampleRun limit events).getD (emptyFrame sampleFiles)

end RPhoto.Editing
