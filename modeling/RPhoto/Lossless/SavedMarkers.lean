import RPhoto.Jpeg.Markers
import RPhoto.Library.Run
import RPhoto.Lossless.ExifReading
import RPhoto.Lossless.JpegtranPlaces
import RPhoto.Lossless.Switches

/-!
# Markers through the transcoder

The decoder learns the density of a picture from its JFIF marker, and guesses its color
space from the JFIF and Adobe markers or else from the names of its components.  The
transcoder keeps the markers of its source in a list, writes a JFIF or an Adobe marker
of its own where the color space has one, and copies the list without markers of the
kind just written.  A list that begins with Exif data stops the JFIF marker instead, and
has the size in that data adjusted.

`jpeg_read_coefficients` reads to the end of the file: markers between the scans are in
the list, although the color space has been guessed before the first scan.
-/

namespace RPhoto.Lossless

open RPhoto.Jpeg RPhoto.Library

/-! ## What the decoder learns -/

/-- `jpeg_marker_struct`: a marker with all bytes its length field allows. -/
structure SavedMarker where
  marker : MarkerCode
  data : Bytes
  fits : data.length ≤ 65533

/-- The fields of a JFIF marker. -/
structure JFIFInfo where
  sawJFIFMarker : Bool
  majorVersion : UInt8
  minorVersion : UInt8
  densityUnit : UInt8
  xDensity : Nat
  yDensity : Nat
  deriving DecidableEq

/-- The fields of an Adobe marker. -/
structure AdobeInfo where
  sawAdobeMarker : Bool
  adobeTransform : UInt8
  deriving DecidableEq

structure MarkerInfo where
  jfif : JFIFInfo
  adobe : AdobeInfo
  deriving DecidableEq

/-- `get_soi`: the assumptions before any marker. -/
def getSOI : MarkerInfo := ⟨⟨false, 1, 1, 0, 1, 1⟩, ⟨false, 0⟩⟩

/-- The five bytes `JFIF` and zero. -/
def jfifLetters : Bytes := [0x4A, 0x46, 0x49, 0x46, 0]

/-- The five bytes `Adobe`. -/
def adobeLetters : Bytes := [0x41, 0x64, 0x6F, 0x62, 0x65]

/-- The six bytes `Exif` and two zeros. -/
def exifLetters : Bytes := [0x45, 0x78, 0x69, 0x66, 0, 0]

/-- `APP0_DATA_LEN`. -/
def app0DataLen : Nat := 14

/-- `APP14_DATA_LEN`. -/
def app14DataLen : Nat := 12

/-- `APPN_DATA_LEN`. -/
def appnDataLen : Nat := 14

/-- Two bytes as a number, the high one first. -/
def twoBytes (data : Bytes) (index : Nat) : Nat :=
  (data.getD index 0).toNat * 256 + (data.getD (index + 1) 0).toNat

/-- `examine_app0`. -/
def examineApp0 (info : JFIFInfo) (data : Bytes) : JFIFInfo :=
  if app0DataLen ≤ data.length ∧ jfifLetters <+: data then
    { sawJFIFMarker := true
      majorVersion := data.getD 5 0
      minorVersion := data.getD 6 0
      densityUnit := data.getD 7 0
      xDensity := twoBytes data 8
      yDensity := twoBytes data 10 }
  else info

/-- `examine_app14`. -/
def examineApp14 (info : AdobeInfo) (data : Bytes) : AdobeInfo :=
  if app14DataLen ≤ data.length ∧ adobeLetters <+: data then
    { sawAdobeMarker := true
      adobeTransform := data.getD 11 0 }
  else info

/-- `save_marker` and `get_interesting_appn`, which looks at the first bytes only. -/
def processMarker (saves : MarkerCode → Bool) (info : MarkerInfo) (marker : SavedMarker) :
    MarkerInfo :=
  let data := if saves marker.marker then marker.data else marker.data.take appnDataLen
  match marker.marker with
  | .app 0 => { info with jfif := examineApp0 info.jfif data }
  | .app 14 => { info with adobe := examineApp14 info.adobe data }
  | _ => info

/-- What `read_markers` learns from the markers of a file. -/
def readMarkers (saves : MarkerCode → Bool) (markers : List SavedMarker) : MarkerInfo :=
  markers.foldl (processMarker saves) getSOI

/-- `J_COLOR_SPACE`. -/
inductive ColorSpace where
  | unknown
  | grayscale
  | rgb
  | yCbCr
  | cmyk
  | ycck
  deriving DecidableEq

/-- `default_decompress_parms`. -/
def guessColorSpace (header : Header) (info : MarkerInfo) : ColorSpace :=
  if header.numComponents = 1 then .grayscale
  else if header.numComponents = 3 then
    if info.jfif.sawJFIFMarker then .yCbCr
    else if info.adobe.sawAdobeMarker then
      if info.adobe.adobeTransform = 0 then .rgb
      else .yCbCr
    else
      let cid := fun ci => (header.compInfo ci).componentId
      if cid 0 = 1 ∧ cid 1 = 2 ∧ cid 2 = 3 then .yCbCr
      else if cid 0 = 82 ∧ cid 1 = 71 ∧ cid 2 = 66 then .rgb
      else .yCbCr
  else if header.numComponents = 4 then
    if info.adobe.sawAdobeMarker then
      if info.adobe.adobeTransform = 0 then .cmyk
      else .ycck
    else .cmyk
  else .unknown

/-! ## What the encoder writes -/

/-- `jpeg_set_colorspace`: whether a JFIF marker is written. -/
def ColorSpace.writesJFIF : ColorSpace → Bool
  | .grayscale | .yCbCr => true
  | _ => false

/-- `jpeg_set_colorspace`: whether an Adobe marker is written. -/
def ColorSpace.writesAdobe : ColorSpace → Bool
  | .rgb | .cmyk | .ycck => true
  | _ => false

/-- `emit_2bytes`. -/
def emit2Bytes (value : Nat) : Bytes := [.ofNat (value / 256), .ofNat value]

/-- `jpeg_set_defaults` and the end of `jpeg_copy_critical_parameters`. -/
def copyJFIF (source : JFIFInfo) : JFIFInfo :=
  if source.sawJFIFMarker then
    if source.majorVersion = 1 then source
    else { source with majorVersion := 1, minorVersion := 1 }
  else getSOI.jfif

/-- `emit_jfif_app0`. -/
def emitJFIF (info : JFIFInfo) : SavedMarker where
  marker := .app 0
  data := jfifLetters ++ [info.majorVersion, info.minorVersion, info.densityUnit] ++
    emit2Bytes info.xDensity ++ emit2Bytes info.yDensity ++ [0, 0]
  fits := Nat.le_of_ble_eq_true rfl

/-- `emit_adobe_app14`. -/
def emitAdobe (space : ColorSpace) : SavedMarker where
  marker := .app 14
  data := adobeLetters ++ emit2Bytes 100 ++ emit2Bytes 0 ++ emit2Bytes 0 ++
    [match space with
      | .yCbCr => 1
      | .ycck => 2
      | _ => 0]
  fits := Nat.le_of_ble_eq_true rfl

/-! ## The list of markers -/

/-- `jcopy_markers_setup`: the markers that are saved. -/
def CopyOption.saves (copyoption : CopyOption) : MarkerCode → Bool
  | .com => copyoption ≠ .none
  | .app _ => copyoption = .all

namespace SavedMarker

/-- The test for a duplicate JFIF marker. -/
def isJFIF (marker : SavedMarker) : Bool := marker.marker = .app 0 ∧ jfifLetters <+: marker.data

/-- The test for a duplicate Adobe marker. -/
def isAdobe (marker : SavedMarker) : Bool :=
  marker.marker = .app 14 ∧ adobeLetters <+: marker.data

def isExif (marker : SavedMarker) : Bool := marker.marker = .app 1 ∧ exifLetters <+: marker.data

/-- `adjust_exif_parameters` on the TIFF structure of a marker. -/
def adjusted (marker : SavedMarker) (newWidth newHeight : Nat) : Option SavedMarker :=
  match Exif.adjustExifParameters (marker.data.drop 6) newWidth newHeight with
  | some data =>
      if fits : (marker.data.take 6 ++ data).length ≤ 65533 then
        some { marker with data := marker.data.take 6 ++ data, fits }
      else none
  | none => none

end SavedMarker

/-- The list begins with Exif data. -/
def beginsWithExif (markers : List SavedMarker) : Bool := markers.head?.any SavedMarker.isExif

/-- `jcopy_markers_execute`. -/
def jcopyMarkersExecute (writeJFIFHeader writeAdobeMarker : Bool) (markers : List SavedMarker) :
    List SavedMarker :=
  markers.filter fun marker =>
    !(writeJFIFHeader && marker.isJFIF) && !(writeAdobeMarker && marker.isAdobe)

/-- The markers of a file, before its first scan and between its scans. -/
structure FileMarkers where
  before : List SavedMarker
  between : List SavedMarker

/-- `marker_list`, when the whole file has been read. -/
def FileMarkers.saved (file : FileMarkers) (copyoption : CopyOption) : List SavedMarker :=
  (file.before ++ file.between).filter fun marker => copyoption.saves marker.marker

/-- The color space of a file, known before its first scan. -/
def FileMarkers.colorSpace (file : FileMarkers) (header : Header) (copyoption : CopyOption) :
    ColorSpace :=
  guessColorSpace header (readMarkers copyoption.saves file.before)

/-- The part of `jtransform_adjust_parameters` about Exif data. -/
def adjustExif (source destination : Header) (markers : List SavedMarker) :
    Option (List SavedMarker) :=
  match markers with
  | [] => some []
  | first :: rest =>
      if first.isExif ∧ (destination.imageWidth ≠ source.imageWidth ∨
          destination.imageHeight ≠ source.imageHeight) then
        (first.adjusted destination.imageWidth destination.imageHeight).map (· :: rest)
      else some (first :: rest)

/-- The markers of the file `jpegtran` writes. -/
def transcodeMarkers (copyoption : CopyOption) (source destination : Header)
    (file : FileMarkers) : Option FileMarkers :=
  let space := file.colorSpace source copyoption
  let info := readMarkers copyoption.saves (file.before ++ file.between)
  let saved := file.saved copyoption
  let writeJFIFHeader := space.writesJFIF && !beginsWithExif saved
  (adjustExif source destination saved).map fun markers =>
    { before :=
        (if writeJFIFHeader then [emitJFIF (copyJFIF info.jfif)] else []) ++
          (if space.writesAdobe then [emitAdobe space] else []) ++
          jcopyMarkersExecute writeJFIFHeader space.writesAdobe markers
      between := [] }

/-- One run of the program: how it transforms, what it copies, its script and its memory. -/
structure Transcoding where
  option : TransformOption
  copyoption : CopyOption
  scanInfo : ScanInfo
  memory : Nat → Plane Block

/-- A file as an image and its markers, through one run. -/
def transcodeFile (run : Transcoding) (file : Image × FileMarkers) :
    Option (Image × FileMarkers) := do
  let image ← jpegtran run.option run.scanInfo run.memory file.1
  let markers ← transcodeMarkers run.copyoption file.1.header image.header file.2
  some (image, markers)

end RPhoto.Lossless
