import RPhoto.Editing.FileName
import RPhoto.Jpeg.Base64
import RPhoto.Library.FileStore
import RPhoto.Tracker.Rect

/-!
# The document frame

The state of `RatioFrame` that the document operations read and write, the
wxWidgets image functions, and the answers of the user and of the system.
An answer may depend on the whole state, and so on everything done before.
-/

namespace RPhoto.Editing

open RPhoto.Jpeg RPhoto.Library RPhoto.Tracker

/-- A `wxImage`: its pixels and its options. -/
structure Image (Pixels : Type) where
  pixels : Pixels
  options : Options
deriving DecidableEq

/-- The pixel operations the program applies to the displayed image. -/
inductive Transform where
  | getSubImage (zone : Rect)
  | rotate90 (clockwise : Bool)
  | mirror (horizontally : Bool)
  | rotate (dx dy : Int)
  | scale (width height : Int)
deriving DecidableEq

/-- How `SaveFile` chooses the format. -/
inductive ImageType where
  | jpeg
  | byExtension (name : FileName)
deriving DecidableEq

/-- The wxWidgets and libexif functions on images and texts. -/
structure Wx (Pixels : Type) where
  /-- `wxImage::LoadFile` on the bytes of a file. -/
  decode : Bytes → Option (Image Pixels)
  /-- What a failed `LoadFile` leaves of the image it was called on. -/
  loadFailed : Option (Image Pixels) → Option (Image Pixels)
  /-- `wxImage::SaveFile`. -/
  encode : ImageType → Image Pixels → Option Bytes
  transform : Transform → Image Pixels → Image Pixels
  /-- The orientation tag libexif finds in the `APP1` option. -/
  orientation : Image Pixels → Option Int
  /-- The conversions of `m_sComEncoding`. -/
  toBytes : Text → Bytes
  ofBytes : Bytes → Text

/-- The arguments of jpegtran. -/
inductive JpegtranCommand where
  | crop (zone : Rect)
  | rotate270
  | rotate90
  | flipHorizontal
  | flipVertical
  | optimize
  | progressive
deriving DecidableEq

/-- The two attempts of `CallJPEGTranTryPerfect`. -/
inductive Attempt where
  | perfect
  | trim
deriving DecidableEq

/-- The arguments of jhead. -/
inductive JheadCommand where
  | autorot
deriving DecidableEq

/-- How a copy can fail: before the destination is touched, or after some of its bytes. -/
inductive CopyFault where
  | opening
  | stopped (count : Nat)
deriving DecidableEq

/-- The answers to the save question of `ImageCleanup`. -/
inductive Answer where
  | yes
  | no
  | cancel
deriving DecidableEq

/-- A file copy, a tool or a load the frame asked for, an undo point it set, an inclination. -/
inductive Call where
  | undoPoint (limit : Nat)
  | createTempFileName (name : FileName)
  | copyFile (succeeded : Bool)
  | jpegtran (command : JpegtranCommand) (succeeded : Bool)
  | jhead (succeeded : Bool)
  | wrjpgcom (succeeded : Bool)
  | loadFile (succeeded : Bool)
  | saveFile (succeeded : Bool)
  | imageLoad (name : FileName)
  | autorotate
  | inclination
deriving DecidableEq

/-- A snapshot of the document; a lossless one keeps no pixels.  Its fields for the image box,
the two rectangles and the scale setting, are those of `ScreenImage`. -/
structure RpImage (Pixels : Type) where
  sOriginalFilename : FileName
  sFilename : FileName
  bTemp : Bool
  bDirty : Bool
  bJPEGlossless : Bool
  image : Option (Image Pixels)
  isInclinaison : Bool
  image_of_lossless : bJPEGlossless = true → image = none

/-- A move or a renaming of the photo on disk. -/
structure RpMove where
  sSourceFilename : FileName
  sDestFilename : FileName
deriving DecidableEq

/-- An entry of the undo or the redo list. -/
inductive RpUndo (Pixels : Type) where
  | image (snapshot : RpImage Pixels)
  | move (action : RpMove)

/-- The files, the displayed document and its histories, whose newest entry is the last one. -/
structure Document (Pixels : Type) where
  files : FileStore FileName Bytes
  sOriginalFilename : FileName
  sFilename : FileName
  bTemp : Bool
  bDirty : Bool
  bJPEGlossless : Bool
  image : Option (Image Pixels)
  isInclinaison : Bool
  textComment : Text
  textCommentModified : Bool
  iOrientation : Int
  isFileLoading : Bool
  isAutorotating : Bool
  imageOpts : Options
  historyUndo : List (RpUndo Pixels)
  historyRedo : List (RpUndo Pixels)

/-- The document with a record of its calls, each with the document it was made in.
No operation reads the record. -/
structure Frame (Pixels : Type) extends Document Pixels where
  calls : List (Call × Document Pixels)

/-- The settings, the answers of the user and the behaviour of the system at one moment. -/
structure Env where
  /-- `Main/UndoHistory`. -/
  undoHistory : Nat
  bAutoCrop : Bool
  bAutoSave : Bool
  bAutoRot : Bool
  /-- `Main/AutoRotateCrop`. -/
  bAutoRotateCrop : Bool
  sAutoSaveFolder : AutoSaveFolder
  sAutoSaveSuffix : String
  /-- `JPEG/Quality`. -/
  quality : Int
  /-- `GetSelectedZone`. -/
  selectedZone : Rect
  /-- The extent `dx, dy` of the line tracker. -/
  line : Int × Int
  /-- Whether the user wants a pending comment written. -/
  writeComment : Bool
  saveAnswer : Answer
  /-- `wxFileSelector`; no file when it is cancelled. -/
  selectedFile : FileName
  /-- `wxFileName::CreateTempFileName`; no file when it fails. -/
  createTempFileName : FileName
  isFileWritable : FileName → Bool
  copyFault : Option CopyFault
  openFails : Bool
  createFails : Bool
  readFails : Nat → Bool
  writeStops : Nat → Option Nat
  saveFails : Bool
  renameFails : Bool
  jpegtran : Attempt → JpegtranCommand → Bytes → Option Bytes
  jhead : JheadCommand → Bytes → Option Bytes
  /-- The return code of wrjpgcom and what it wrote, where it returns (`Jpeg.returns_iff`). -/
  wrjpgcom : Bytes → Bytes → Int × Bytes

/-- The answers in every state. -/
abbrev Environment (Pixels : Type) := Frame Pixels → Env

variable {Pixels : Type}

/-- Record a call with the document it is made in. -/
def Frame.record (call : Call) (frame : Frame Pixels) : Frame Pixels :=
  { frame with calls := frame.calls ++ [(call, frame.toDocument)] }

/-- `UpdateControlsState`: a pending comment makes the document dirty. -/
def updateControlsState (frame : Frame Pixels) : Frame Pixels :=
  { frame with bDirty := frame.bDirty || frame.textCommentModified }

/-- `Dirty`. -/
def dirty (frame : Frame Pixels) : Frame Pixels :=
  updateControlsState { frame with bDirty := true }

/-- `Clean`. -/
def clean (frame : Frame Pixels) : Frame Pixels :=
  updateControlsState { frame with bDirty := false }

/-- `OnToggleJPEGLossless`. -/
def onToggleJPEGLossless (frame : Frame Pixels) : Frame Pixels :=
  updateControlsState { frame with bJPEGlossless := !frame.bJPEGlossless }

/-- The value of an option of the displayed image. -/
def imageOption (image : Option (Image Pixels)) (name : OptionName) : Option Text :=
  image.bind fun image => image.options.getOption name

/-- `imageUpdateExif`: show the comment of the image and read its orientation. -/
def imageUpdateExif (wx : Wx Pixels) (frame : Frame Pixels) : Frame Pixels :=
  { frame with
    textComment :=
      match imageOption frame.image .com with
      | some com => wx.ofBytes (decodeBase64 com)
      | none => []
    textCommentModified := false
    iOrientation :=
      match imageOption frame.image (.app 1), frame.image.bind wx.orientation with
      | some _, some orientation => orientation
      | _, _ => frame.iOrientation }

/-- The image `LoadFile` leaves in the image box. -/
def loadedImage (wx : Wx Pixels) (name : FileName) (document : Document Pixels) :
    Option (Image Pixels) :=
  match (document.files.content name).bind wx.decode with
  | some image => some image
  | none => wx.loadFailed document.image

/-- `m_pImageBox->LoadFile`. -/
def boxLoadFile (wx : Wx Pixels) (name : FileName) (frame : Frame Pixels) : Frame Pixels :=
  let loads := ((frame.files.content name).bind wx.decode).isSome
  { frame.record (.loadFile loads) with image := loadedImage wx name frame.toDocument }

end RPhoto.Editing
