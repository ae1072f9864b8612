import RPhoto.Lossless.Block

/-!
# The transformation requested

The transformations and their crop specification, and the size of the image that will
come out.  The crop region's upper left corner is moved to an iMCU boundary; its lower
right corner stays.  Trimming drops the partial iMCUs of an edge that is mirrored,
when the output reaches that edge and has a full iMCU.
-/

namespace RPhoto.Lossless

open RPhoto.Library

/-- `JXFORM_CODE`. -/
inductive Transform where
  | none
  | flipH
  | flipV
  | transpose
  | transverse
  | rot90
  | rot180
  | rot270
  deriving DecidableEq

namespace Transform

/-- The transformations that exchange rows and columns. -/
def transposes : Transform → Bool
  | transpose | transverse | rot90 | rot270 => true
  | none | flipH | flipV | rot180 => false

/-- The transformations that mirror the destination along x, after transposing. -/
def mirrorsX : Transform → Bool
  | flipH | transverse | rot90 | rot180 => true
  | none | flipV | transpose | rot270 => false

/-- The transformations that mirror the destination along y, after transposing. -/
def mirrorsY : Transform → Bool
  | flipV | transverse | rot180 | rot270 => true
  | none | flipH | transpose | rot90 => false

/-- The turn of a plane whose mirrorable zone has these columns and rows. -/
def turn (transform : Transform) (columns rows : Nat) : Turn :=
  ⟨transform.transposes, if transform.mirrorsX then columns else 0,
    if transform.mirrorsY then rows else 0⟩

end Transform

/-- `JCROP_CODE`. -/
inductive CropCode where
  | unset
  | pos
  | neg
  deriving DecidableEq

/-- The crop parameters of `jpeg_transform_info`. -/
structure CropSpec where
  cropWidth : Nat
  cropWidthSet : CropCode
  cropHeight : Nat
  cropHeightSet : CropCode
  cropXOffset : Nat
  cropXOffsetSet : CropCode
  cropYOffset : Nat
  cropYOffsetSet : CropCode
  deriving DecidableEq

/-- The options of `jpeg_transform_info`; grayscale is never forced. -/
structure TransformOption where
  transform : Transform
  perfect : Bool
  trim : Bool
  crop : Option CropSpec
  deriving DecidableEq

/-- What `srcinfo` says of the image before its coefficients are read. -/
structure Dimensions where
  imageWidth : Nat
  imageHeight : Nat
  numComponents : Nat
  maxHSampFactor : Nat
  maxVSampFactor : Nat

/-- The workspace part of `jpeg_transform_info`. -/
structure TransformInfo where
  outputWidth : Nat
  outputHeight : Nat
  xCropOffset : Nat
  yCropOffset : Nat
  maxHSampFactor : Nat
  maxVSampFactor : Nat

namespace TransformInfo

/-- The iMCU of the destination, in pixels. -/
def mcuWidth (info : TransformInfo) : Nat := info.maxHSampFactor * dctSize
def mcuHeight (info : TransformInfo) : Nat := info.maxVSampFactor * dctSize

end TransformInfo

/-- `trim_right_edge`. -/
def trimRightEdge (info : TransformInfo) (fullWidth : Nat) : TransformInfo :=
  let mcuCols := info.outputWidth / info.mcuWidth
  if 0 < mcuCols ∧ info.xCropOffset + mcuCols = fullWidth / info.mcuWidth then
    { info with outputWidth := mcuCols * info.mcuWidth }
  else info

/-- `trim_bottom_edge`. -/
def trimBottomEdge (info : TransformInfo) (fullHeight : Nat) : TransformInfo :=
  let mcuRows := info.outputHeight / info.mcuHeight
  if 0 < mcuRows ∧ info.yCropOffset + mcuRows = fullHeight / info.mcuHeight then
    { info with outputHeight := mcuRows * info.mcuHeight }
  else info

/-- The output before cropping and trimming. -/
def uncropped (source : Dimensions) (transform : Transform) : TransformInfo :=
  if transform.transposes then
    { outputWidth := source.imageHeight
      outputHeight := source.imageWidth
      xCropOffset := 0
      yCropOffset := 0
      maxHSampFactor := if source.numComponents = 1 then 1 else source.maxVSampFactor
      maxVSampFactor := if source.numComponents = 1 then 1 else source.maxHSampFactor }
  else
    { outputWidth := source.imageWidth
      outputHeight := source.imageHeight
      xCropOffset := 0
      yCropOffset := 0
      maxHSampFactor := if source.numComponents = 1 then 1 else source.maxHSampFactor
      maxVSampFactor := if source.numComponents = 1 then 1 else source.maxVSampFactor }

/-- The crop region along one axis: its offset and its size, refused outside the image. -/
def cropAxis (full size : Nat) (sizeSet : CropCode) (offset : Nat) (offsetSet : CropCode) :
    Option (Nat × Nat) :=
  let offset := if offsetSet = .unset then 0 else offset
  if full ≤ offset then .none
  else
    let size := if sizeSet = .unset then full - offset else size
    if size = 0 ∨ full < size ∨ full - size < offset then .none
    else
      -- a negative offset is measured from the far edge
      some (if offsetSet = .neg then full - size - offset else offset, size)

/--
The cropping part of `jtransform_request_workspace`.  There the tests of both axes
stand side by side; every one that fails ends in the same error exit.
-/
def cropped (info : TransformInfo) (spec : CropSpec) : Option TransformInfo := do
  let (xoffset, width) ← cropAxis info.outputWidth spec.cropWidth spec.cropWidthSet
    spec.cropXOffset spec.cropXOffsetSet
  let (yoffset, height) ← cropAxis info.outputHeight spec.cropHeight spec.cropHeightSet
    spec.cropYOffset spec.cropYOffsetSet
  some { info with
    outputWidth := width + xoffset % info.mcuWidth
    outputHeight := height + yoffset % info.mcuHeight
    xCropOffset := xoffset / info.mcuWidth
    yCropOffset := yoffset / info.mcuHeight }

/-- The trimming part of `jtransform_request_workspace`. -/
def trimmed (source : Dimensions) (transform : Transform) (info : TransformInfo) :
    TransformInfo :=
  match transform with
  | .none | .transpose => info
  | .flipH => trimRightEdge info source.imageWidth
  | .flipV => trimBottomEdge info source.imageHeight
  | .transverse =>
      trimBottomEdge (trimRightEdge info source.imageHeight) source.imageWidth
  | .rot90 => trimRightEdge info source.imageHeight
  | .rot180 => trimBottomEdge (trimRightEdge info source.imageWidth) source.imageHeight
  | .rot270 => trimBottomEdge info source.imageWidth

/-- The output before trimming, refused for a crop region that is not inside the image. -/
def croppedRegion (source : Dimensions) (option : TransformOption) : Option TransformInfo :=
  match option.crop with
  | .none => some (uncropped source option.transform)
  | some spec => cropped (uncropped source option.transform) spec

/-- `jtransform_request_workspace`; the arrays it requests follow from the result. -/
def requestWorkspace (source : Dimensions) (option : TransformOption) :
    Option TransformInfo :=
  (croppedRegion source option).map fun info =>
    if option.trim then trimmed source option.transform info else info

/-- `jtransform_perfect_transform`. -/
def perfectTransform (imageWidth imageHeight mcuWidth mcuHeight : Nat) (transform : Transform) :
    Bool :=
  match transform with
  | .flipH | .rot270 => imageWidth % mcuWidth == 0
  | .flipV | .rot90 => imageHeight % mcuHeight == 0
  | .transverse | .rot180 => imageWidth % mcuWidth == 0 && imageHeight % mcuHeight == 0
  | .none | .transpose => true

/-- The size of the source in the frame of the destination. -/
def fullWidth (source : Dimensions) (transform : Transform) : Nat :=
  (uncropped source transform).outputWidth

def fullHeight (source : Dimensions) (transform : Transform) : Nat :=
  (uncropped source transform).outputHeight

/-- A region of the destination frame that is not empty and lies inside the image. -/
structure Inside (source : Dimensions) (transform : Transform) (info : TransformInfo) :
    Prop where
  width : 0 < info.outputWidth
  height : 0 < info.outputHeight
  right : info.xCropOffset * info.mcuWidth + info.outputWidth ≤ fullWidth source transform
  bottom : info.yCropOffset * info.mcuHeight + info.outputHeight ≤ fullHeight source transform
  maxHSampFactor : info.maxHSampFactor = (uncropped source transform).maxHSampFactor
  maxVSampFactor : info.maxVSampFactor = (uncropped source transform).maxVSampFactor

/-- What the tests of a crop region along an axis let through. -/
theorem cropAxis_inside {full size offset : Nat} {sizeSet offsetSet : CropCode}
    {region : Nat × Nat} (found : cropAxis full size sizeSet offset offsetSet = some region) :
    0 < region.2 ∧ region.1 + region.2 ≤ full := by
  unfold cropAxis at found
  dsimp only at found
  generalize (if offsetSet = .unset then 0 else offset) = start at found
  generalize (if sizeSet = .unset then full - start else size) = extent at found
  split at found
  · cases found
  · split at found
    · cases found
    · cases found
      dsimp only
      split
      · omega
      · omega

theorem uncropped_inside {source : Dimensions} (width : 0 < source.imageWidth)
    (height : 0 < source.imageHeight) (transform : Transform) :
    Inside source transform (uncropped source transform) := by
  have positive : 0 < (uncropped source transform).outputWidth ∧
      0 < (uncropped source transform).outputHeight := by
    unfold uncropped
    cases transform.transposes with
    | false => exact ⟨width, height⟩
    | true => exact ⟨height, width⟩
  have noOffset : (uncropped source transform).xCropOffset = 0 ∧
      (uncropped source transform).yCropOffset = 0 := by
    unfold uncropped
    cases transform.transposes with
    | false => exact ⟨rfl, rfl⟩
    | true => exact ⟨rfl, rfl⟩
  refine ⟨positive.1, positive.2, ?_, ?_, rfl, rfl⟩
  · rw [noOffset.1, Nat.zero_mul, Nat.zero_add]
    exact Nat.le_refl _
  · rw [noOffset.2, Nat.zero_mul, Nat.zero_add]
    exact Nat.le_refl _

/-- A crop region keeps its lower right corner when its upper left corner is aligned. -/
theorem cropped_inside {source : Dimensions} {transform : Transform} {info : TransformInfo}
    {spec : CropSpec} (found : cropped (uncropped source transform) spec = some info) :
    Inside source transform info := by
  obtain ⟨across, foundX, found⟩ := Option.bind_eq_some_iff.mp found
  obtain ⟨down, foundY, found⟩ := Option.bind_eq_some_iff.mp found
  cases found
  have insideX := cropAxis_inside foundX
  have insideY := cropAxis_inside foundY
  have splitX := Nat.div_add_mod across.1 (uncropped source transform).mcuWidth
  have splitY := Nat.div_add_mod down.1 (uncropped source transform).mcuHeight
  rw [Nat.mul_comm] at splitX splitY
  refine ⟨?_, ?_, ?_, ?_, rfl, rfl⟩
  · exact Nat.lt_of_lt_of_le insideX.1 (Nat.le_add_right _ _)
  · exact Nat.lt_of_lt_of_le insideY.1 (Nat.le_add_right _ _)
  · refine Nat.le_trans ?_ insideX.2
    change across.1 / (uncropped source transform).mcuWidth *
      (uncropped source transform).mcuWidth + (across.2 + across.1 %
      (uncropped source transform).mcuWidth) ≤ _
    omega
  · refine Nat.le_trans ?_ insideY.2
    change down.1 / (uncropped source transform).mcuHeight *
      (uncropped source transform).mcuHeight + (down.2 + down.1 %
      (uncropped source transform).mcuHeight) ≤ _
    omega

theorem Inside.trimRightEdge {source : Dimensions} {transform : Transform}
    {info : TransformInfo} (inside : Inside source transform info) (limit : Nat) :
    Inside source transform (trimRightEdge info limit) := by
  unfold Lossless.trimRightEdge
  dsimp only
  split
  · rename_i edge
    have kept := Nat.div_mul_le_self info.outputWidth info.mcuWidth
    have width : 0 < info.mcuWidth := by
      rcases Nat.eq_zero_or_pos info.mcuWidth with empty | positive
      · rw [empty, Nat.div_zero] at edge
        exact absurd edge.1 (Nat.lt_irrefl 0)
      · exact positive
    refine ⟨Nat.mul_pos edge.1 width, inside.height, ?_, inside.bottom, inside.maxHSampFactor,
      inside.maxVSampFactor⟩
    exact Nat.le_trans (Nat.add_le_add_left kept _) inside.right
  · exact inside

theorem Inside.trimBottomEdge {source : Dimensions} {transform : Transform}
    {info : TransformInfo} (inside : Inside source transform info) (limit : Nat) :
    Inside source transform (trimBottomEdge info limit) := by
  unfold Lossless.trimBottomEdge
  dsimp only
  split
  · rename_i edge
    have kept := Nat.div_mul_le_self info.outputHeight info.mcuHeight
    have height : 0 < info.mcuHeight := by
      rcases Nat.eq_zero_or_pos info.mcuHeight with empty | positive
      · rw [empty, Nat.div_zero] at edge
        exact absurd edge.1 (Nat.lt_irrefl 0)
      · exact positive
    refine ⟨inside.width, Nat.mul_pos edge.1 height, inside.right, ?_, inside.maxHSampFactor,
      inside.maxVSampFactor⟩
    exact Nat.le_trans (Nat.add_le_add_left kept _) inside.bottom
  · exact inside

theorem Inside.trimmed {source : Dimensions} {transform : Transform} {info : TransformInfo}
    (inside : Inside source transform info) :
    Inside source transform (trimmed source transform info) := by
  cases transform with
  | none => exact inside
  | transpose => exact inside
  | flipH => exact inside.trimRightEdge _
  | rot90 => exact inside.trimRightEdge _
  | flipV => exact inside.trimBottomEdge _
  | rot270 => exact inside.trimBottomEdge _
  | transverse => exact (inside.trimRightEdge _).trimBottomEdge _
  | rot180 => exact (inside.trimRightEdge _).trimBottomEdge _

theorem croppedRegion_inside {source : Dimensions} {option : TransformOption}
    {info : TransformInfo} (width : 0 < source.imageWidth) (height : 0 < source.imageHeight)
    (found : croppedRegion source option = some info) :
    Inside source option.transform info := by
  unfold croppedRegion at found
  split at found
  · cases found
    exact uncropped_inside width height option.transform
  · exact cropped_inside found

/-- The region asked for is never empty and never leaves the image. -/
theorem requestWorkspace_inside {source : Dimensions} {option : TransformOption}
    {info : TransformInfo} (width : 0 < source.imageWidth) (height : 0 < source.imageHeight)
    (found : requestWorkspace source option = some info) :
    Inside source option.transform info := by
  obtain ⟨region, foundRegion, rfl⟩ := Option.map_eq_some_iff.mp found
  have inside := croppedRegion_inside width height foundRegion
  split
  · exact inside.trimmed
  · exact inside

end RPhoto.Lossless
