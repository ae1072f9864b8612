import RPhoto.Editing.FileMove
import RPhoto.Editing.LoadSave
import RPhoto.Library.Run

/-!
# Events

The user's operations on the document as one step function.  A step carries the
answers of the world during it and the fuel for the mutual calls of loading and
saving; it is refused when the fuel runs out.
-/

namespace RPhoto.Editing

open RPhoto.Jpeg RPhoto.Library

variable {Pixels : Type}

/-- `LoadFile` and `OnDirCtrlChange`: clean up, then load as a new original. -/
def loadFile (wx : Wx Pixels) (env : Environment Pixels) (fuel : Nat) (name : FileName)
    (frame : Frame Pixels) : Option (Frame Pixels) := do
  let (frame, cleaned) ← imageCleanup wx env fuel frame
  if cleaned then imageLoad wx env fuel name true frame else some frame

/-- `OnFileOpen`, with the selected name. -/
def onFileOpen (wx : Wx Pixels) (env : Environment Pixels) (fuel : Nat) (name : FileName)
    (frame : Frame Pixels) : Option (Frame Pixels) :=
  if name = noFile then some frame
  else do
    let (frame, cleaned) ← imageCleanup wx env fuel frame
    if cleaned then
      let frame ← imageLoad wx env fuel name false frame
      some { frame with sFilename := name, sOriginalFilename := name, bTemp := false }
    else some frame

/-- `OnFileReload`. -/
def onFileReload (wx : Wx Pixels) (env : Environment Pixels) (fuel : Nat)
    (frame : Frame Pixels) : Option (Frame Pixels) := do
  let frame ← imageLoad wx env fuel frame.sOriginalFilename false { frame with bDirty := false }
  some { frame with sFilename := frame.sOriginalFilename, bTemp := false }

/-- The operations of the user. -/
inductive Event where
  | imageLoad (name : FileName) (original : Bool)
  | loadFile (name : FileName)
  | fileOpen (name : FileName)
  | fileReload
  | fileSave
  | fileSaveAs
  | fileMove (folder : Option (List String))
  | fileNameEndEdit (treePath : FileName) (label : String)
  | imageUndo
  | imageRedo
  | toolAction
  | modeInclin
  | modeCrop
  | imageCrop
  | imageRotateLeft
  | imageRotateRight
  | imageFlipHorizontal
  | imageFlipVertical
  | imageJPEGOptimize
  | imageJPEGProgressive
  | imageInclin
  | resize (destWidth destHeight : Int)
  | editComment (text : Text)
  | imageWriteComment
  | toggleJPEGLossless
deriving DecidableEq

/-- An operation with the answers of the world and the fuel it runs with. -/
structure Action (Pixels : Type) where
  event : Event
  env : Environment Pixels
  fuel : Nat

/-- Perform an action. -/
def perform (wx : Wx Pixels) (action : Action Pixels) (frame : Frame Pixels) :
    Option (Frame Pixels) :=
  let env := action.env
  let fuel := action.fuel
  match action.event with
  | .imageLoad name original => imageLoad wx env fuel name original frame
  | .loadFile name => loadFile wx env fuel name frame
  | .fileOpen name => onFileOpen wx env fuel name frame
  | .fileReload => onFileReload wx env fuel frame
  | .fileSave => onFileSave wx env fuel frame
  | .fileSaveAs => onFileSaveAs wx env fuel frame
  | .fileMove folder => some (onFileMove env folder frame)
  | .fileNameEndEdit treePath label => some (onFileNameEndEdit env treePath label frame).1
  | .imageUndo => some (onImageUndo wx env frame)
  | .imageRedo => some (onImageRedo wx env frame)
  | .toolAction => some (onToolAction wx env frame)
  | .modeInclin => some (onModeInclin wx env frame)
  | .modeCrop => some (onModeCrop wx env frame)
  | .imageCrop => some (onImageCrop wx env frame)
  | .imageRotateLeft => some (onImageRotateLeft wx env frame)
  | .imageRotateRight => some (onImageRotateRight wx env frame)
  | .imageFlipHorizontal => some (onImageFlipHorizontal wx env frame)
  | .imageFlipVertical => some (onImageFlipVertical wx env frame)
  | .imageJPEGOptimize => some (onImageJPEGOptimize wx env frame)
  | .imageJPEGProgressive => some (onImageJPEGProgressive wx env frame)
  | .imageInclin => some (onImageInclin wx env frame)
  | .resize destWidth destHeight => some (resize wx env destWidth destHeight frame)
  | .editComment text => some (editComment text frame)
  | .imageWriteComment => some (onImageWriteComment wx env frame)
  | .toggleJPEGLossless => some (onToggleJPEGLossless frame)

/-- The frame before a first file is opened. -/
def emptyFrame (files : FileStore FileName Bytes) : Frame Pixels where
  files := files
  sOriginalFilename := noFile
  sFilename := noFile
  bTemp := false
  bDirty := false
  bJPEGlossless := false
  image := none
  isInclinaison := false
  textComment := []
  textCommentModified := false
  iOrientation := 1
  isFileLoading := false
  isAutorotating := false
  imageOpts := []
  historyUndo := []
  historyRedo := []
  calls := []

end RPhoto.Editing
