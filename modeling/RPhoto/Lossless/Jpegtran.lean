import RPhoto.Lossless.Routines
import RPhoto.Lossless.TransformInfo
import Mathlib.Data.Fintype.Basic
import Mathlib.Logic.Function.Basic

/-!
# The lossless transcoder

An image as its coefficients: the header of a JPEG file, the quantization table each
component is decoded with, and the blocks of each component.  `jtransform` computes the
header of the destination from that of the source, runs the routine of the
transformation on every component, and hands the arrays to the encoder, which reads
every row of every iMCU.  `jpegtran` adds the encoder's tests of its scans.  The entropy
coder is left out, which loses nothing but refuses coefficients it has no code for; so
are the fields copied unchanged that no transformation reads.
-/

namespace RPhoto.Lossless

open RPhoto.Library

/-- `JQUANT_TBL`, by row and column. -/
abbrev QuantTable := Fin 8 → Fin 8 → Nat

def QuantTable.transposed (table : QuantTable) : QuantTable := fun row column => table column row

/-- The fields of `jpeg_component_info` a header gives. -/
@[ext] structure Component where
  componentId : Nat
  hSampFactor : Nat
  vSampFactor : Nat
  quantTblNo : Nat
  deriving DecidableEq

/-- `NUM_QUANT_TBLS`. -/
def numQuantTbls : Nat := 4

/-- `JPEG_MAX_DIMENSION`. -/
def jpegMaxDimension : Nat := 65500

/-- `MAX_COMPONENTS`. -/
def maxComponents : Nat := 10

/-- `MAX_SAMP_FACTOR`. -/
def maxSampFactor : Nat := 4

/-- The frame of a JPEG file: its size, its components and its quantization tables. -/
@[ext] structure Header where
  imageWidth : Nat
  imageHeight : Nat
  numComponents : Nat
  compInfo : Nat → Component
  quantTblPtrs : Fin numQuantTbls → Option QuantTable

namespace Header

variable (header : Header)

/-- The loop of `initial_setup` over the sampling factors. -/
def largest (factor : Component → Nat) : Nat :=
  (List.range header.numComponents).foldl
    (fun current ci => max current (factor (header.compInfo ci))) 1

def maxHSampFactor : Nat := header.largest Component.hSampFactor
def maxVSampFactor : Nat := header.largest Component.vSampFactor

/-- The tests of `initial_setup`, of the decoder as of the encoder. -/
structure SetUp : Prop where
  width : 0 < header.imageWidth ∧ header.imageWidth ≤ jpegMaxDimension
  height : 0 < header.imageHeight ∧ header.imageHeight ≤ jpegMaxDimension
  components : 0 < header.numComponents ∧ header.numComponents ≤ maxComponents
  sampling : ∀ ci < header.numComponents,
    (0 < (header.compInfo ci).hSampFactor ∧ (header.compInfo ci).hSampFactor ≤ maxSampFactor) ∧
    0 < (header.compInfo ci).vSampFactor ∧ (header.compInfo ci).vSampFactor ≤ maxSampFactor

instance : Decidable header.SetUp :=
  decidable_of_iff
    ((0 < header.imageWidth ∧ header.imageWidth ≤ jpegMaxDimension) ∧
      (0 < header.imageHeight ∧ header.imageHeight ≤ jpegMaxDimension) ∧
      (0 < header.numComponents ∧ header.numComponents ≤ maxComponents) ∧
      ∀ ci < header.numComponents,
        (0 < (header.compInfo ci).hSampFactor ∧
          (header.compInfo ci).hSampFactor ≤ maxSampFactor) ∧
        0 < (header.compInfo ci).vSampFactor ∧
          (header.compInfo ci).vSampFactor ≤ maxSampFactor)
    ⟨fun ⟨width, height, components, sampling⟩ => ⟨width, height, components, sampling⟩,
      fun ⟨width, height, components, sampling⟩ => ⟨width, height, components, sampling⟩⟩

/-- `width_in_blocks` and `height_in_blocks` of a component. -/
def widthInBlocks (ci : Nat) : Nat :=
  divRoundUp (header.imageWidth * (header.compInfo ci).hSampFactor)
    (header.maxHSampFactor * dctSize)

def heightInBlocks (ci : Nat) : Nat :=
  divRoundUp (header.imageHeight * (header.compInfo ci).vSampFactor)
    (header.maxVSampFactor * dctSize)

/-- `total_iMCU_rows`. -/
def totalIMCURows : Nat := divRoundUp header.imageHeight (header.maxVSampFactor * dctSize)

def dimensions : Dimensions :=
  ⟨header.imageWidth, header.imageHeight, header.numComponents, header.maxHSampFactor,
    header.maxVSampFactor⟩

end Header

/--
A JPEG image as coefficients.  Every component occurs in a scan, so it has the
quantization table its slot held then.
-/
structure Image where
  header : Header
  setUp : header.SetUp
  progressiveMode : Bool
  quantTable : Nat → QuantTable
  block : Nat → Plane Block

/-- `jround_up`. -/
def jroundUp (value step : Nat) : Nat := divRoundUp value step * step

/-- The array of a component after `jpeg_read_coefficients`, padded to full iMCUs. -/
def Image.array (image : Image) (ci : Nat) : VirtualArray :=
  let component := image.header.compInfo ci
  let rows := jroundUp (image.header.heightInBlocks ci) component.vSampFactor
  { layout :=
      { blocksPerRow := jroundUp (image.header.widthInBlocks ci) component.hSampFactor
        rowsInArray := rows
        maxAccess :=
          if image.progressiveMode then component.vSampFactor * 3
          else component.vSampFactor
        preZero := true }
    firstUndefRow := rows
    block := image.block ci }

/-- The table in the slot a component names. -/
def Header.slotQuant (header : Header) (ci : Nat) : Option QuantTable :=
  if slot : (header.compInfo ci).quantTblNo < numQuantTbls then
    header.quantTblPtrs ⟨(header.compInfo ci).quantTblNo, slot⟩
  else none

/-- The tests of `jpeg_copy_critical_parameters`: no slot was used again for another table. -/
def copiesCriticalParameters (image : Image) : Prop :=
  ∀ ci < image.header.numComponents, image.header.slotQuant ci = some (image.quantTable ci)

instance (image : Image) : Decidable (copiesCriticalParameters image) :=
  inferInstanceAs (Decidable (∀ ci < image.header.numComponents, _ = _))

/-- `transpose_critical_parameters`. -/
def transposeCriticalParameters (header : Header) : Header :=
  { header with
    compInfo := fun ci =>
      { header.compInfo ci with
        hSampFactor := (header.compInfo ci).vSampFactor
        vSampFactor := (header.compInfo ci).hSampFactor }
    quantTblPtrs := fun slot => (header.quantTblPtrs slot).map QuantTable.transposed }

/-- The sampling factors of a single component are forced to one. -/
def normalizeSampling (header : Header) : Header :=
  if header.numComponents = 1 then
    { header with
      compInfo := fun ci => { header.compInfo ci with hSampFactor := 1, vSampFactor := 1 } }
  else header

/-- `jtransform_adjust_parameters`, the part that sets the frame of the destination. -/
def adjustParameters (header : Header) (transform : Transform) (info : TransformInfo) :
    Header :=
  let resized := { normalizeSampling header with
    imageWidth := info.outputWidth
    imageHeight := info.outputHeight }
  if transform.transposes then transposeCriticalParameters resized else resized

/-- What the routines read for a component. -/
def settingOf (source destination : Header) (info : TransformInfo) (ci : Nat) : Setting where
  imageWidth := source.imageWidth
  imageHeight := source.imageHeight
  maxHSampFactor := destination.maxHSampFactor
  maxVSampFactor := destination.maxVSampFactor
  hSampFactor := (destination.compInfo ci).hSampFactor
  vSampFactor := (destination.compInfo ci).vSampFactor
  widthInBlocks := destination.widthInBlocks ci
  heightInBlocks := destination.heightInBlocks ci
  xCropOffset := info.xCropOffset
  yCropOffset := info.yCropOffset

/-- The workspace array requested for a component. -/
def workspaceArray (destination : Header) (info : TransformInfo) (ci : Nat)
    (memory : Nat → Plane Block) : VirtualArray :=
  let component := destination.compInfo ci
  VirtualArray.request
    { blocksPerRow := divRoundUp info.outputWidth info.mcuWidth * component.hSampFactor
      rowsInArray := divRoundUp info.outputHeight info.mcuHeight * component.vSampFactor
      maxAccess := component.vSampFactor
      preZero := false } (memory ci)

/-- `jtransform_execute_transform` on one component, giving the array to be written. -/
def executeTransform (transform : Transform) (setting : Setting)
    (source destination : VirtualArray) : Option VirtualArray :=
  match transform with
  | .none =>
      if setting.xCropOffset ≠ 0 ∨ setting.yCropOffset ≠ 0 then doCrop setting source destination
      else some source
  | .flipH =>
      if setting.yCropOffset ≠ 0 then doFlipH setting source destination
      else doFlipHNoCrop setting source
  | .flipV => doFlipV setting source destination
  | .transpose => doTranspose setting source destination
  | .transverse => doTransverse setting source destination
  | .rot90 => doRot90 setting source destination
  | .rot180 => doRot180 setting source destination
  | .rot270 => doRot270 setting source destination

/-- `compress_output` on one component: every block of its width in every iMCU row is read. -/
def compressOutput (header : Header) (ci : Nat) (array : VirtualArray) : Option Unit :=
  let component := header.compInfo ci
  upTo header.totalIMCURows (fun iMCURow _ => do
    let array ← array.access (iMCURow * component.vSampFactor) component.vSampFactor false
    upTo component.vSampFactor (fun yindex _ =>
      upTo (header.widthInBlocks ci) (fun column _ => do
        let _ ← array.read (iMCURow * component.vSampFactor) component.vSampFactor yindex column
        some ()) ()) ()) ()

/-- The arrays of all components, transformed and read by the encoder. -/
def transformArrays (image : Image) (header : Header) (option : TransformOption)
    (info : TransformInfo) (memory : Nat → Plane Block) : Option (Nat → VirtualArray) :=
  upTo header.numComponents (fun ci arrays => do
    let array ← executeTransform option.transform
      (settingOf image.header header info ci) (image.array ci)
      (workspaceArray header info ci memory)
    compressOutput header ci array
    some (Function.update arrays ci array)) image.array

/-- The test of `-perfect` in the main program. -/
def failsPerfect (header : Header) (option : TransformOption) : Prop :=
  option.perfect ∧ ¬perfectTransform header.imageWidth header.imageHeight
    (header.maxHSampFactor * dctSize) (header.maxVSampFactor * dctSize) option.transform

instance (header : Header) (option : TransformOption) :
    Decidable (failsPerfect header option) := inferInstanceAs (Decidable (_ ∧ _))

/--
What the main program does between its decoder and its encoder, from one image to
another: the calls of the `jtransform` functions and the tests around them.
-/
def jtransform (option : TransformOption) (memory : Nat → Plane Block) (image : Image) :
    Option Image :=
  if failsPerfect image.header option then none
  else
    (requestWorkspace image.header.dimensions option).bind fun info =>
      if copiesCriticalParameters image then
        let header := adjustParameters image.header option.transform info
        if setUp : header.SetUp then
          (transformArrays image header option info memory).map fun arrays =>
            { header
              setUp
              -- the switches decide how the encoder writes its scans
              progressiveMode := false
              quantTable := fun ci => (header.slotQuant ci).getD fun _ _ => 0
              block := fun ci => (arrays ci).block }
        else none
      else none

/-- `MAX_COMPS_IN_SCAN`. -/
def maxCompsInScan : Nat := 4

/-- `C_MAX_BLOCKS_IN_MCU`. -/
def cMaxBlocksInMCU : Nat := 10

/-- `scan_info`: the components of every scan of a validated script, if there is one. -/
abbrev ScanInfo := Option (List (List Nat))

namespace Header

/-- `select_scan_parameters`: without a script a single scan of all components. -/
def scans (header : Header) (scanInfo : ScanInfo) : List (List Nat) :=
  match scanInfo with
  | none => [List.range header.numComponents]
  | some script => script

/--
The tests of `select_scan_parameters` and `per_scan_setup`.  A scan of one component
has one block in an MCU, whatever its sampling factors are.
-/
def ScanFits (header : Header) (scan : List Nat) : Prop :=
  scan.length = 1 ∨
    (0 < scan.length ∧ scan.length ≤ maxCompsInScan) ∧
      (scan.map fun ci => (header.compInfo ci).hSampFactor * (header.compInfo ci).vSampFactor).sum ≤
        cMaxBlocksInMCU

instance (header : Header) (scan : List Nat) : Decidable (header.ScanFits scan) :=
  inferInstanceAs (Decidable (_ ∨ (_ ∧ _) ∧ _))

/-- The encoder can set up every one of its scans. -/
def Fits (header : Header) (scanInfo : ScanInfo) : Prop :=
  ∀ scan ∈ header.scans scanInfo, header.ScanFits scan

instance (header : Header) (scanInfo : ScanInfo) : Decidable (header.Fits scanInfo) :=
  inferInstanceAs (Decidable (∀ _ ∈ _, _))

end Header

/-- The main program of `jpegtran`, from one image to another, up to its entropy coder. -/
def jpegtran (option : TransformOption) (scanInfo : ScanInfo) (memory : Nat → Plane Block)
    (image : Image) : Option Image :=
  (jtransform option memory image).bind fun result =>
    if result.header.Fits scanInfo then some result else none

/-- A picture of 16 by 12 pixels in luminance and half as wide chrominance. -/
def sampleImage : Image where
  header :=
    { imageWidth := 16
      imageHeight := 12
      numComponents := 2
      compInfo := fun ci => if ci = 0 then ⟨1, 2, 1, 0⟩ else ⟨2, 1, 1, 1⟩
      quantTblPtrs := fun slot => some fun _ _ => slot.val + 1 }
  setUp := by decide
  progressiveMode := false
  quantTable := fun ci _ _ => ci + 1
  block := fun ci row column u v => ci + 2 * row + 3 * column + 5 * u.val + 7 * v.val

end RPhoto.Lossless
