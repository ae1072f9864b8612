import RPhoto.Lossless.Jpegtran
import RPhoto.Lossless.InPlaceFlip

/-!
# The transcoder places every block

Every transformation of every image that passes the tests is carried out: no access
is refused, no routine and no encoder leaves its arrays, and the destination consists
of the turned planes of the source's blocks, begun at the crop offset.
-/

namespace RPhoto.Lossless

open RPhoto.Library

namespace Header

variable {header : Header}

theorem one_le_largest (factor : Component → Nat) : 1 ≤ header.largest factor := by
  have grows : ∀ (list : List Nat) (start : Nat),
      start ≤ list.foldl (fun current ci => max current (factor (header.compInfo ci))) start := by
    intro list
    induction list with
    | nil => exact fun start => Nat.le_refl start
    | cons ci rest ih => exact fun start => Nat.le_trans (Nat.le_max_left _ _) (ih _)
  exact grows _ 1

/-- A single component has the largest factors. -/
theorem largest_single (factor : Component → Nat) (single : header.numComponents = 1)
    (positive : 0 < factor (header.compInfo 0)) :
    header.largest factor = factor (header.compInfo 0) := by
  unfold largest
  rw [single]
  exact Nat.max_eq_right positive

end Header

section Adjusted

variable (header : Header) (transform : Transform) (info : TransformInfo)

theorem adjust_numComponents :
    (adjustParameters header transform info).numComponents = header.numComponents := by
  unfold adjustParameters normalizeSampling
  cases transform.transposes <;> by_cases single : header.numComponents = 1 <;>
    simp [single, transposeCriticalParameters]

theorem adjust_imageWidth :
    (adjustParameters header transform info).imageWidth = info.outputWidth := by
  unfold adjustParameters
  cases transform.transposes <;> rfl

theorem adjust_imageHeight :
    (adjustParameters header transform info).imageHeight = info.outputHeight := by
  unfold adjustParameters
  cases transform.transposes <;> rfl

theorem adjust_quantTblNo (ci : Nat) :
    ((adjustParameters header transform info).compInfo ci).quantTblNo =
      (header.compInfo ci).quantTblNo := by
  unfold adjustParameters normalizeSampling
  cases transform.transposes <;> by_cases single : header.numComponents = 1 <;>
    simp [single, transposeCriticalParameters]

/-- The sampling factors of the destination: forced to one, exchanged, or copied. -/
theorem adjust_hSampFactor (ci : Nat) :
    ((adjustParameters header transform info).compInfo ci).hSampFactor =
      if header.numComponents = 1 then 1
      else if transform.transposes then (header.compInfo ci).vSampFactor
      else (header.compInfo ci).hSampFactor := by
  unfold adjustParameters normalizeSampling
  cases transform.transposes <;> by_cases single : header.numComponents = 1 <;>
    simp [single, transposeCriticalParameters]

theorem adjust_vSampFactor (ci : Nat) :
    ((adjustParameters header transform info).compInfo ci).vSampFactor =
      if header.numComponents = 1 then 1
      else if transform.transposes then (header.compInfo ci).hSampFactor
      else (header.compInfo ci).vSampFactor := by
  unfold adjustParameters normalizeSampling
  cases transform.transposes <;> by_cases single : header.numComponents = 1 <;>
    simp [single, transposeCriticalParameters]

/-- The largest factors the encoder computes are those the region was aligned to. -/
theorem adjust_maxHSampFactor :
    (adjustParameters header transform info).maxHSampFactor =
      (uncropped header.dimensions transform).maxHSampFactor := by
  unfold Header.maxHSampFactor Header.largest
  simp only [adjust_numComponents, adjust_hSampFactor]
  unfold uncropped Header.dimensions
  by_cases single : header.numComponents = 1
  · cases transform.transposes <;> simp [single]
  · cases transform.transposes <;>
      simp [single, Header.maxHSampFactor, Header.maxVSampFactor, Header.largest]

theorem adjust_maxVSampFactor :
    (adjustParameters header transform info).maxVSampFactor =
      (uncropped header.dimensions transform).maxVSampFactor := by
  unfold Header.maxVSampFactor Header.largest
  simp only [adjust_numComponents, adjust_vSampFactor]
  unfold uncropped Header.dimensions
  by_cases single : header.numComponents = 1
  · cases transform.transposes <;> simp [single]
  · cases transform.transposes <;>
      simp [single, Header.maxHSampFactor, Header.maxVSampFactor, Header.largest]

/-- The table in a slot is transposed along. -/
theorem adjust_quantTblPtrs (slot : Fin numQuantTbls) :
    (adjustParameters header transform info).quantTblPtrs slot =
      (header.quantTblPtrs slot).map fun table =>
        if transform.transposes then table.transposed else table := by
  unfold adjustParameters normalizeSampling
  cases transform.transposes <;> by_cases single : header.numComponents = 1 <;>
    simp [single, transposeCriticalParameters]

theorem adjust_slotQuant (ci : Nat) :
    (adjustParameters header transform info).slotQuant ci =
      (header.slotQuant ci).map fun table =>
        if transform.transposes then table.transposed else table := by
  unfold Header.slotQuant
  simp only [adjust_quantTblNo, adjust_quantTblPtrs]
  split
  · rfl
  · rfl

end Adjusted

/-- The encoder reads every block of an array that covers the frame and is defined. -/
theorem compressOutput_reads {header : Header} {ci : Nat} {array : VirtualArray}
    (rows : header.totalIMCURows * (header.compInfo ci).vSampFactor ≤ array.layout.rowsInArray)
    (defined : header.totalIMCURows * (header.compInfo ci).vSampFactor ≤ array.firstUndefRow)
    (columns : header.widthInBlocks ci ≤ array.layout.blocksPerRow)
    (access : (header.compInfo ci).vSampFactor ≤ array.layout.maxAccess) :
    compressOutput header ci array = some () := by
  have ends : ∃ state, compressOutput header ci array = some state ∧ True := by
    unfold compressOutput
    refine upTo_rule (fun _ _ => True) (fun iMCURow below _ _ => ?_) trivial
    have room : iMCURow * (header.compInfo ci).vSampFactor + (header.compInfo ci).vSampFactor ≤
        header.totalIMCURows * (header.compInfo ci).vSampFactor := by
      rw [← Nat.add_one_mul]
      exact Nat.mul_le_mul_right _ below
    rw [VirtualArray.access_defined (Nat.le_trans room defined) (Nat.le_trans room rows) access]
    refine upTo_rule (fun _ _ => True) (fun yindex inRow _ _ => ?_) trivial
    refine upTo_rule (fun _ _ => True) (fun column inColumns _ _ => ?_) trivial
    rw [VirtualArray.read_of_lt inRow (Nat.lt_of_lt_of_le inColumns columns)]
    exact ⟨(), rfl, trivial⟩
  obtain ⟨state, ran, -⟩ := ends
  exact ran

section Frame

variable {image : Image} {transform : Transform} {info : TransformInfo}

theorem Image.sampling_pos (image : Image) {ci : Nat} (known : ci < image.header.numComponents) :
    0 < (image.header.compInfo ci).hSampFactor ∧ 0 < (image.header.compInfo ci).vSampFactor :=
  ⟨(image.setUp.sampling ci known).1.1, (image.setUp.sampling ci known).2.1⟩

/-- The frame of the destination passes the encoder's own tests. -/
theorem adjust_setUp (inside : Inside image.header.dimensions transform info) :
    (adjustParameters image.header transform info).SetUp := by
  have right := inside.right
  have bottom := inside.bottom
  have width := image.setUp.width
  have height := image.setUp.height
  have within : info.outputWidth ≤ jpegMaxDimension ∧ info.outputHeight ≤ jpegMaxDimension := by
    unfold fullWidth uncropped Header.dimensions at right
    unfold fullHeight uncropped Header.dimensions at bottom
    cases transposes : transform.transposes with
    | false =>
        simp only [transposes, Bool.false_eq_true, if_false] at right bottom
        omega
    | true =>
        simp only [transposes, if_true] at right bottom
        omega
  refine ⟨?_, ?_, ?_, ?_⟩
  · rw [adjust_imageWidth]
    exact ⟨inside.width, within.1⟩
  · rw [adjust_imageHeight]
    exact ⟨inside.height, within.2⟩
  · rw [adjust_numComponents]
    exact image.setUp.components
  · rw [adjust_numComponents]
    intro ci known
    have sampled := image.setUp.sampling ci known
    rw [adjust_hSampFactor, adjust_vSampFactor]
    by_cases single : image.header.numComponents = 1
    · simp only [if_pos single]
      exact ⟨⟨by decide, by decide⟩, by decide, by decide⟩
    · simp only [if_neg single]
      cases transform.transposes with
      | false => exact sampled
      | true => exact ⟨sampled.2, sampled.1⟩

theorem mcuWidth_eq (inside : Inside image.header.dimensions transform info) :
    (adjustParameters image.header transform info).maxHSampFactor * dctSize =
      info.mcuWidth := by
  unfold TransformInfo.mcuWidth
  rw [adjust_maxHSampFactor, inside.maxHSampFactor]

theorem mcuHeight_eq (inside : Inside image.header.dimensions transform info) :
    (adjustParameters image.header transform info).maxVSampFactor * dctSize =
      info.mcuHeight := by
  unfold TransformInfo.mcuHeight
  rw [adjust_maxVSampFactor, inside.maxVSampFactor]

theorem mcu_pos (inside : Inside image.header.dimensions transform info) :
    0 < info.mcuWidth ∧ 0 < info.mcuHeight := by
  rw [← mcuWidth_eq inside, ← mcuHeight_eq inside]
  exact ⟨Nat.mul_pos (Header.one_le_largest _) (by decide),
    Nat.mul_pos (Header.one_le_largest _) (by decide)⟩

theorem Header.mcu_pos (header : Header) :
    0 < header.maxHSampFactor * dctSize ∧ 0 < header.maxVSampFactor * dctSize :=
  ⟨Nat.mul_pos (one_le_largest _) (by decide), Nat.mul_pos (one_le_largest _) (by decide)⟩

/-- The array of a component holds all blocks of its full and partial iMCUs. -/
theorem array_blocksPerRow (image : Image) {ci : Nat} (known : ci < image.header.numComponents) :
    (image.array ci).layout.blocksPerRow =
      divRoundUp image.header.imageWidth (image.header.maxHSampFactor * dctSize) *
        (image.header.compInfo ci).hSampFactor := by
  unfold Image.array jroundUp Header.widthInBlocks
  dsimp only
  rw [divRoundUp_divRoundUp (image.sampling_pos known).1 image.header.mcu_pos.1]

theorem array_rowsInArray (image : Image) {ci : Nat} (known : ci < image.header.numComponents) :
    (image.array ci).layout.rowsInArray =
      divRoundUp image.header.imageHeight (image.header.maxVSampFactor * dctSize) *
        (image.header.compInfo ci).vSampFactor := by
  unfold Image.array jroundUp Header.heightInBlocks
  dsimp only
  rw [divRoundUp_divRoundUp (image.sampling_pos known).2 image.header.mcu_pos.2]

theorem array_maxAccess (image : Image) (ci : Nat) :
    (image.header.compInfo ci).vSampFactor ≤ (image.array ci).layout.maxAccess := by
  unfold Image.array
  dsimp only
  split
  · exact Nat.le_mul_of_pos_right _ (by decide)
  · exact Nat.le_refl _

theorem array_few (image : Image) {ci : Nat} (known : ci < image.header.numComponents) :
    (image.array ci).layout.rowsInArray < 2 ^ 32 ∧
      (image.array ci).layout.blocksPerRow < 2 ^ 32 := by
  have sampled := image.setUp.sampling ci known
  have width := image.setUp.width.2
  have height := image.setUp.height.2
  unfold maxSampFactor at sampled
  unfold jpegMaxDimension at width height
  have across := divRoundUp_le_self image.header.mcu_pos.1 image.header.imageWidth
  have down := divRoundUp_le_self image.header.mcu_pos.2 image.header.imageHeight
  rw [array_blocksPerRow image known, array_rowsInArray image known]
  constructor
  · exact Nat.lt_of_le_of_lt
      (Nat.mul_le_mul (Nat.le_trans down height) sampled.2.2) (by decide)
  · exact Nat.lt_of_le_of_lt
      (Nat.mul_le_mul (Nat.le_trans across width) sampled.1.2) (by decide)

/-- Counted in single blocks, the iMCUs of a single component hold no fewer blocks. -/
theorem single_cover {factor : Nat} (positive : 0 < factor) (full : Nat) :
    divRoundUp full (1 * dctSize) ≤ divRoundUp full (factor * dctSize) * factor := by
  rw [divRoundUp_le_iff (by decide), Nat.one_mul, Nat.mul_assoc]
  exact le_divRoundUp_mul (Nat.mul_pos positive (by decide)) full

/-- The padded size of a component in the destination's groups of blocks. -/
theorem paddedWidth_eq (inside : Inside image.header.dimensions transform info) {ci : Nat}
    (known : ci < image.header.numComponents) :
    (settingOf image.header (adjustParameters image.header transform info) info
      ci).paddedWidth =
      divRoundUp info.outputWidth info.mcuWidth *
        ((adjustParameters image.header transform info).compInfo ci).hSampFactor := by
  have sampled := (adjust_setUp inside).sampling ci (by rw [adjust_numComponents]; exact known)
  unfold Setting.paddedWidth settingOf Header.widthInBlocks
  dsimp only
  rw [mcuWidth_eq inside, adjust_imageWidth,
    divRoundUp_divRoundUp sampled.1.1 (mcu_pos inside).1]

theorem paddedHeight_eq (inside : Inside image.header.dimensions transform info) {ci : Nat}
    (known : ci < image.header.numComponents) :
    (settingOf image.header (adjustParameters image.header transform info) info
      ci).paddedHeight =
      divRoundUp info.outputHeight info.mcuHeight *
        ((adjustParameters image.header transform info).compInfo ci).vSampFactor := by
  have sampled := (adjust_setUp inside).sampling ci (by rw [adjust_numComponents]; exact known)
  unfold Setting.paddedHeight settingOf Header.heightInBlocks
  dsimp only
  rw [mcuHeight_eq inside, adjust_imageHeight,
    divRoundUp_divRoundUp sampled.2.1 (mcu_pos inside).2]

/-- A region that starts at whole iMCUs lies in the padded image. -/
theorem region_covered {offset mcu output full factor : Nat} (positive : 0 < mcu)
    (within : offset * mcu + output ≤ full) :
    offset * factor + divRoundUp output mcu * factor ≤ divRoundUp full mcu * factor := by
  rw [← Nat.add_mul, ← divRoundUp_add_mul positive]
  exact Nat.mul_le_mul_right factor (divRoundUp_mono positive within)

/-- Without transposition the source array covers the whole image in destination blocks. -/
theorem covers_straight (inside : Inside image.header.dimensions transform info) {ci : Nat}
    (known : ci < image.header.numComponents) (straight : transform.transposes = false) :
    divRoundUp (fullWidth image.header.dimensions transform) info.mcuWidth *
        ((adjustParameters image.header transform info).compInfo ci).hSampFactor ≤
      (image.array ci).layout.blocksPerRow ∧
    divRoundUp (fullHeight image.header.dimensions transform) info.mcuHeight *
        ((adjustParameters image.header transform info).compInfo ci).vSampFactor ≤
      (image.array ci).layout.rowsInArray ∧
    ((adjustParameters image.header transform info).compInfo ci).vSampFactor ≤
      (image.array ci).layout.maxAccess := by
  have sampled := image.sampling_pos known
  have access := array_maxAccess image ci
  rw [array_blocksPerRow image known, array_rowsInArray image known, adjust_hSampFactor,
    adjust_vSampFactor, ← mcuWidth_eq inside, ← mcuHeight_eq inside, adjust_maxHSampFactor,
    adjust_maxVSampFactor]
  unfold fullWidth fullHeight uncropped Header.dimensions
  by_cases single : image.header.numComponents = 1
  · obtain rfl : ci = 0 := by omega
    have largestH := Header.largest_single Component.hSampFactor single sampled.1
    have largestV := Header.largest_single Component.vSampFactor single sampled.2
    unfold Header.maxHSampFactor Header.maxVSampFactor
    rw [largestH, largestV]
    simp only [straight, single, Bool.false_eq_true, if_false, if_true, Nat.mul_one]
    exact ⟨single_cover sampled.1 _, single_cover sampled.2 _,
      Nat.le_trans sampled.2 access⟩
  · simp only [straight, single, Bool.false_eq_true, if_false]
    exact ⟨Nat.le_refl _, Nat.le_refl _, access⟩

/-- With transposition it covers it with rows and columns exchanged. -/
theorem covers_transposed (inside : Inside image.header.dimensions transform info)
    {ci : Nat} (known : ci < image.header.numComponents)
    (transposed : transform.transposes = true) :
    divRoundUp (fullWidth image.header.dimensions transform) info.mcuWidth *
        ((adjustParameters image.header transform info).compInfo ci).hSampFactor ≤
      (image.array ci).layout.rowsInArray ∧
    divRoundUp (fullHeight image.header.dimensions transform) info.mcuHeight *
        ((adjustParameters image.header transform info).compInfo ci).vSampFactor ≤
      (image.array ci).layout.blocksPerRow ∧
    ((adjustParameters image.header transform info).compInfo ci).hSampFactor ≤
      (image.array ci).layout.maxAccess := by
  have sampled := image.sampling_pos known
  have access := array_maxAccess image ci
  rw [array_blocksPerRow image known, array_rowsInArray image known, adjust_hSampFactor,
    adjust_vSampFactor, ← mcuWidth_eq inside, ← mcuHeight_eq inside, adjust_maxHSampFactor,
    adjust_maxVSampFactor]
  unfold fullWidth fullHeight uncropped Header.dimensions
  by_cases single : image.header.numComponents = 1
  · obtain rfl : ci = 0 := by omega
    have largestH := Header.largest_single Component.hSampFactor single sampled.1
    have largestV := Header.largest_single Component.vSampFactor single sampled.2
    unfold Header.maxHSampFactor Header.maxVSampFactor
    rw [largestH, largestV]
    simp only [transposed, single, if_true, Nat.mul_one]
    exact ⟨single_cover sampled.2 _, single_cover sampled.1 _,
      Nat.le_trans sampled.2 access⟩
  · simp only [transposed, single, if_true, if_false]
    exact ⟨Nat.le_refl _, Nat.le_refl _, access⟩

/-- The zone a transformation may mirror in a component: its blocks in full iMCUs. -/
def turnOf (source : Header) (transform : Transform) (info : TransformInfo) (ci : Nat) : Turn :=
  transform.turn
    (fullWidth source.dimensions transform / info.mcuWidth *
      ((adjustParameters source transform info).compInfo ci).hSampFactor)
    (fullHeight source.dimensions transform / info.mcuHeight *
      ((adjustParameters source transform info).compInfo ci).vSampFactor)

/-- An array the encoder can read in full, with the wanted blocks in the frame. -/
structure Written (header : Header) (ci : Nat) (wanted : Nat × Nat → Block)
    (array : VirtualArray) : Prop where
  rows : header.totalIMCURows * (header.compInfo ci).vSampFactor ≤ array.layout.rowsInArray
  defined : header.totalIMCURows * (header.compInfo ci).vSampFactor ≤ array.firstUndefRow
  columns : header.widthInBlocks ci ≤ array.layout.blocksPerRow
  access : (header.compInfo ci).vSampFactor ≤ array.layout.maxAccess
  block : ∀ row < header.heightInBlocks ci, ∀ column < header.widthInBlocks ci,
    array.block row column = wanted (row, column)

theorem adjust_totalIMCURows (inside : Inside image.header.dimensions transform info) :
    (adjustParameters image.header transform info).totalIMCURows =
      divRoundUp info.outputHeight info.mcuHeight := by
  unfold Header.totalIMCURows
  rw [mcuHeight_eq inside, adjust_imageHeight]

theorem sampling_pos (inside : Inside image.header.dimensions transform info) {ci : Nat}
    (known : ci < image.header.numComponents) :
    0 < ((adjustParameters image.header transform info).compInfo ci).hSampFactor ∧
      0 < ((adjustParameters image.header transform info).compInfo ci).vSampFactor := by
  have sampled := (adjust_setUp inside).sampling ci (by rw [adjust_numComponents]; exact known)
  exact ⟨sampled.1.1, sampled.2.1⟩

/-- A workspace array filled by a routine can be written. -/
theorem Result.written (inside : Inside image.header.dimensions transform info) {ci : Nat}
    (known : ci < image.header.numComponents) {memory : Nat → Plane Block} {columns : Nat}
    {wanted : Nat × Nat → Block} {array : VirtualArray}
    (wide : (adjustParameters image.header transform info).widthInBlocks ci ≤ columns)
    (result : Result
      (settingOf image.header (adjustParameters image.header transform info) info ci)
      columns wanted
      (workspaceArray (adjustParameters image.header transform info) info ci memory)
      array) :
    Written (adjustParameters image.header transform info) ci wanted array := by
  have sampled := sampling_pos inside known
  have padded := paddedHeight_eq inside known
  have width := paddedWidth_eq inside known
  have across := Setting.width_le_padded
    (settingOf image.header (adjustParameters image.header transform info) info ci)
    sampled.1
  have down := Setting.height_le_padded
    (settingOf image.header (adjustParameters image.header transform info) info ci)
    sampled.2
  refine ⟨?_, ?_, ?_, ?_, fun row inRows column inColumns => ?_⟩
  · rw [result.layout, adjust_totalIMCURows inside]
    exact Nat.le_refl _
  · rw [result.defined, padded, adjust_totalIMCURows inside]
  · rw [result.layout]
    rw [width] at across
    exact across
  · rw [result.layout]
    exact Nat.le_refl _
  · exact result.block row (Nat.lt_of_lt_of_le inRows down) column
      (Nat.lt_of_lt_of_le inColumns wide)

theorem supplies_straight (inside : Inside image.header.dimensions transform info)
    {ci : Nat} (known : ci < image.header.numComponents)
    (straight : transform.transposes = false) {zoneX zoneY : Nat}
    (within : zoneX ≤ fullWidth image.header.dimensions transform / info.mcuWidth)
    (withinY : zoneY ≤ fullHeight image.header.dimensions transform / info.mcuHeight) :
    Supplies
      (settingOf image.header (adjustParameters image.header transform info) info ci)
      zoneX zoneY (image.array ci) := by
  obtain ⟨columns, rows, access⟩ := covers_straight inside known straight
  have right := @region_covered _ _ _ _
    ((adjustParameters image.header transform info).compInfo ci).hSampFactor
    (mcu_pos inside).1 inside.right
  have bottom := @region_covered _ _ _ _
    ((adjustParameters image.header transform info).compInfo ci).vSampFactor
    (mcu_pos inside).2 inside.bottom
  have width := paddedWidth_eq inside known
  have height := paddedHeight_eq inside known
  have across := Setting.width_le_padded
    (settingOf image.header (adjustParameters image.header transform info) info ci)
    (sampling_pos inside known).1
  refine ⟨Nat.le_refl _, access, ?_, ?_, ?_, ?_, array_few image known⟩
  · rw [height]
    exact Nat.le_trans bottom rows
  · refine Nat.le_trans (Nat.add_le_add_left across _) ?_
    rw [width]
    exact Nat.le_trans right columns
  · exact Nat.le_trans
      (Nat.mul_le_mul_right _ (Nat.le_trans withinY (div_le_divRoundUp _ _))) rows
  · exact Nat.le_trans
      (Nat.mul_le_mul_right _ (Nat.le_trans within (div_le_divRoundUp _ _))) columns

theorem supplies_transposed (inside : Inside image.header.dimensions transform info)
    {ci : Nat} (known : ci < image.header.numComponents)
    (transposed : transform.transposes = true) {zoneX zoneY : Nat}
    (within : zoneX ≤ fullWidth image.header.dimensions transform / info.mcuWidth)
    (withinY : zoneY ≤ fullHeight image.header.dimensions transform / info.mcuHeight) :
    SuppliesTransposed
      (settingOf image.header (adjustParameters image.header transform info) info ci)
      zoneX zoneY (image.array ci) := by
  obtain ⟨rows, columns, access⟩ := covers_transposed inside known transposed
  have right := @region_covered _ _ _ _
    ((adjustParameters image.header transform info).compInfo ci).hSampFactor
    (mcu_pos inside).1 inside.right
  have bottom := @region_covered _ _ _ _
    ((adjustParameters image.header transform info).compInfo ci).vSampFactor
    (mcu_pos inside).2 inside.bottom
  refine ⟨Nat.le_refl _, access, ?_, ?_, ?_, ?_, array_few image known⟩
  · rw [paddedWidth_eq inside known]
    exact Nat.le_trans right rows
  · rw [paddedHeight_eq inside known]
    exact Nat.le_trans bottom columns
  · exact Nat.le_trans
      (Nat.mul_le_mul_right _ (Nat.le_trans within (div_le_divRoundUp _ _))) rows
  · exact Nat.le_trans
      (Nat.mul_le_mul_right _ (Nat.le_trans withinY (div_le_divRoundUp _ _))) columns

/-- A requested workspace array receives what any routine writes. -/
theorem workspace_receives (inside : Inside image.header.dimensions transform info)
    {ci : Nat} (known : ci < image.header.numComponents) (memory : Nat → Plane Block)
    {columns : Nat}
    (narrow : columns ≤
      (settingOf image.header (adjustParameters image.header transform info) info
        ci).paddedWidth) :
    Receives
      (settingOf image.header (adjustParameters image.header transform info) info ci)
      columns
      (workspaceArray (adjustParameters image.header transform info) info ci
        memory) := by
  refine ⟨rfl, rfl, ?_, ?_, Nat.le_refl _⟩
  · rw [paddedWidth_eq inside known] at narrow
    exact narrow
  · rw [paddedHeight_eq inside known]
    exact Nat.le_refl _

/-- A straight routine leaves an array to be written. -/
theorem straight_written (inside : Inside image.header.dimensions transform info)
    {ci : Nat} (known : ci < image.header.numComponents)
    (straight : transform.transposes = false) (memory : Nat → Plane Block)
    {zoneX zoneY : Nat}
    (within : zoneX ≤ fullWidth image.header.dimensions transform / info.mcuWidth)
    (withinY : zoneY ≤ fullHeight image.header.dimensions transform / info.mcuHeight) :
    let header := adjustParameters image.header transform info
    let setting := settingOf image.header header info ci
    ∃ array,
      straightZones setting (zoneX * setting.hSampFactor) (zoneY * setting.vSampFactor)
        (image.array ci) (workspaceArray header info ci memory) = some array ∧
      Written header ci
        (placed setting ⟨false, zoneX * setting.hSampFactor, zoneY * setting.vSampFactor⟩
          (image.array ci)) array := by
  intro header setting
  have narrow := setting.width_le_padded (sampling_pos inside known).1
  obtain ⟨array, ran, result⟩ := straightZones_places (sampling_pos inside known).2
    (workspace_receives inside known memory narrow)
    (supplies_straight inside known straight within withinY)
  exact ⟨array, ran, result.written inside known (Nat.le_refl _)⟩

/-- A transposing routine leaves an array to be written. -/
theorem transposing_written (inside : Inside image.header.dimensions transform info)
    {ci : Nat} (known : ci < image.header.numComponents)
    (transposed : transform.transposes = true) (memory : Nat → Plane Block)
    {zoneX zoneY : Nat}
    (within : zoneX ≤ fullWidth image.header.dimensions transform / info.mcuWidth)
    (withinY : zoneY ≤ fullHeight image.header.dimensions transform / info.mcuHeight) :
    let header := adjustParameters image.header transform info
    let setting := settingOf image.header header info ci
    ∃ array,
      transposingZones setting (zoneX * setting.hSampFactor) (zoneY * setting.vSampFactor)
        (image.array ci) (workspaceArray header info ci memory) = some array ∧
      Written header ci
        (placed setting ⟨true, zoneX * setting.hSampFactor, zoneY * setting.vSampFactor⟩
          (image.array ci)) array := by
  intro header setting
  have narrow := setting.width_le_padded (sampling_pos inside known).1
  obtain ⟨array, ran, result⟩ := transposingZones_places (sampling_pos inside known).2
    (workspace_receives inside known memory (Nat.le_refl _))
    (supplies_transposed inside known transposed within withinY)
  exact ⟨array, ran, result.written inside known narrow⟩

/-- An array that stands in for the workspace: the source's own, long enough and complete. -/
theorem own_written (inside : Inside image.header.dimensions transform info) {ci : Nat}
    (known : ci < image.header.numComponents) {zoneX zoneY : Nat}
    {wanted : Nat × Nat → Block} {array : VirtualArray}
    (supplies : Supplies
      (settingOf image.header (adjustParameters image.header transform info) info ci)
      zoneX zoneY (image.array ci))
    (layout : array.layout = (image.array ci).layout) (complete : array.Complete)
    (block : ∀ row <
      (adjustParameters image.header transform info).heightInBlocks ci,
      ∀ column < (adjustParameters image.header transform info).widthInBlocks ci,
      array.block row column = wanted (row, column)) :
    Written (adjustParameters image.header transform info) ci wanted array := by
  have rows := Nat.le_trans (Nat.le_add_left _ _) supplies.rows
  rw [paddedHeight_eq inside known, ← adjust_totalIMCURows inside, ← layout] at rows
  have columns := Nat.le_trans (Nat.le_add_left _ _) supplies.columns
  rw [← layout] at columns
  have access := supplies.access
  rw [← layout] at access
  exact ⟨rows, Nat.le_trans rows complete, columns, access, block⟩

theorem zones_straight (inside : Inside image.header.dimensions transform info) (ci : Nat)
    (straight : transform.transposes = false) :
    let setting := settingOf image.header
      (adjustParameters image.header transform info) info ci
    setting.mcuCols setting.imageWidth =
        fullWidth image.header.dimensions transform / info.mcuWidth ∧
      setting.mcuRows setting.imageHeight =
        fullHeight image.header.dimensions transform / info.mcuHeight := by
  unfold settingOf Setting.mcuCols Setting.mcuRows fullWidth fullHeight uncropped
    Header.dimensions
  dsimp only
  rw [mcuWidth_eq inside, mcuHeight_eq inside, straight]
  exact ⟨rfl, rfl⟩

theorem zones_transposed (inside : Inside image.header.dimensions transform info)
    (ci : Nat) (transposed : transform.transposes = true) :
    let setting := settingOf image.header
      (adjustParameters image.header transform info) info ci
    setting.mcuCols setting.imageHeight =
        fullWidth image.header.dimensions transform / info.mcuWidth ∧
      setting.mcuRows setting.imageWidth =
        fullHeight image.header.dimensions transform / info.mcuHeight := by
  unfold settingOf Setting.mcuCols Setting.mcuRows fullWidth fullHeight uncropped
    Header.dimensions
  dsimp only
  rw [mcuWidth_eq inside, mcuHeight_eq inside, transposed]
  exact ⟨rfl, rfl⟩

/-- Every transformation leaves, for each component, the turned blocks to be written. -/
theorem executeTransform_written
    (inside : Inside image.header.dimensions transform info) {ci : Nat}
    (known : ci < image.header.numComponents) (memory : Nat → Plane Block) :
    let header := adjustParameters image.header transform info
    let setting := settingOf image.header header info ci
    ∃ array,
      executeTransform transform setting (image.array ci)
        (workspaceArray header info ci memory) = some array ∧
      Written header ci
        (placed setting (turnOf image.header transform info ci) (image.array ci))
        array := by
  intro header setting
  have all := Nat.le_refl (fullWidth image.header.dimensions transform / info.mcuWidth)
  have allRows := Nat.le_refl (fullHeight image.header.dimensions transform / info.mcuHeight)
  have none := Nat.zero_le (fullWidth image.header.dimensions transform / info.mcuWidth)
  have noRows := Nat.zero_le (fullHeight image.header.dimensions transform / info.mcuHeight)
  cases transform with
  | none =>
      by_cases moved : setting.xCropOffset ≠ 0 ∨ setting.yCropOffset ≠ 0
      · obtain ⟨array, ran, written⟩ := straight_written inside known rfl memory none noRows
        rw [Nat.zero_mul, Nat.zero_mul] at ran written
        refine ⟨array, (if_pos moved).trans ?_, written⟩
        rw [doCrop_eq]
        exact ran
      · -- nothing moves: the encoder reads the source's own array
        have still : setting.xCropOffset = 0 ∧ setting.yCropOffset = 0 := by omega
        refine ⟨image.array ci, if_neg moved, own_written inside known
          (supplies_straight inside known rfl none noRows) rfl (Nat.le_refl _) ?_⟩
        intro row inRows column inColumns
        have unmoved : setting.xCropBlocks = 0 ∧ setting.yCropBlocks = 0 := by
          simp [Setting.xCropBlocks, Setting.yCropBlocks, still]
        unfold placed
        rw [unmoved.1, unmoved.2, Nat.zero_add, Nat.zero_add]
        exact (congrFun (congrFun (turned_still _) row) column).symm
  | flipH =>
      have zone := (zones_straight inside ci rfl).1
      by_cases down : setting.yCropOffset ≠ 0
      · obtain ⟨array, ran, written⟩ := straight_written inside known rfl memory all noRows
        rw [Nat.zero_mul] at ran written
        refine ⟨array, (if_pos down).trans ?_, written⟩
        rw [doFlipH_eq, zone]
        exact ran
      · have supplies := supplies_straight inside known rfl all noRows
        obtain ⟨array, ran, layout, complete, block⟩ := doFlipHNoCrop_places
          (show setting.yCropOffset = 0 by omega) (zone.symm ▸ supplies)
        rw [zone] at block
        refine ⟨array, (if_neg down).trans ran, own_written inside known supplies layout complete
          fun row inRows column inColumns => block row ?_ column inColumns⟩
        exact Nat.lt_of_lt_of_le inRows
          (setting.height_le_padded (sampling_pos inside known).2)
  | flipV =>
      obtain ⟨array, ran, written⟩ := straight_written inside known rfl memory none allRows
      rw [Nat.zero_mul] at ran written
      refine ⟨array, ?_, written⟩
      change doFlipV setting _ _ = _
      rw [doFlipV_eq, (zones_straight inside ci rfl).2]
      exact ran
  | rot180 =>
      obtain ⟨array, ran, written⟩ := straight_written inside known rfl memory all allRows
      refine ⟨array, ?_, written⟩
      change doRot180 setting _ _ = _
      rw [doRot180_eq, (zones_straight inside ci rfl).1, (zones_straight inside ci rfl).2]
      exact ran
  | transpose =>
      obtain ⟨array, ran, written⟩ := transposing_written inside known rfl memory none noRows
      rw [Nat.zero_mul, Nat.zero_mul] at ran written
      refine ⟨array, ?_, written⟩
      change doTranspose setting _ _ = _
      rw [doTranspose_eq]
      exact ran
  | rot90 =>
      obtain ⟨array, ran, written⟩ := transposing_written inside known rfl memory all noRows
      rw [Nat.zero_mul] at ran written
      refine ⟨array, ?_, written⟩
      change doRot90 setting _ _ = _
      rw [doRot90_eq, (zones_transposed inside ci rfl).1]
      exact ran
  | rot270 =>
      obtain ⟨array, ran, written⟩ := transposing_written inside known rfl memory none allRows
      rw [Nat.zero_mul] at ran written
      refine ⟨array, ?_, written⟩
      change doRot270 setting _ _ = _
      rw [doRot270_eq, (zones_transposed inside ci rfl).2]
      exact ran
  | transverse =>
      obtain ⟨array, ran, written⟩ := transposing_written inside known rfl memory all allRows
      refine ⟨array, ?_, written⟩
      change doTransverse setting _ _ = _
      rw [doTransverse_eq, (zones_transposed inside ci rfl).1,
        (zones_transposed inside ci rfl).2]
      exact ran

end Frame

/-- What the transcoder lets through: a perfect transformation if asked for one, a crop
region inside the image, and tables that can be written again. -/
structure Accepts (image : Image) (option : TransformOption) (info : TransformInfo) : Prop where
  perfect : ¬failsPerfect image.header option
  region : requestWorkspace image.header.dimensions option = some info
  tables : copiesCriticalParameters image

/-- The destination of a transformation: turned tables, turned planes of blocks. -/
structure Turned (transform : Transform) (info : TransformInfo) (source result : Image) :
    Prop where
  header : result.header = adjustParameters source.header transform info
  quantTable : ∀ ci < source.header.numComponents,
    result.quantTable ci =
      if transform.transposes then (source.quantTable ci).transposed else source.quantTable ci
  block : ∀ ci < source.header.numComponents,
    ∀ row < result.header.heightInBlocks ci, ∀ column < result.header.widthInBlocks ci,
      result.block ci row column =
        turned (turnOf source.header transform info ci) (source.block ci)
          (info.yCropOffset * (result.header.compInfo ci).vSampFactor + row)
          (info.xCropOffset * (result.header.compInfo ci).hSampFactor + column)

variable {image result : Image} {option : TransformOption} {info : TransformInfo}
  {memory : Nat → Plane Block}

theorem Accepts.inside (accepts : Accepts image option info) :
    Inside image.header.dimensions option.transform info :=
  requestWorkspace_inside image.setUp.width.1 image.setUp.height.1 accepts.region

/-- The loop over the components. -/
theorem transformArrays_written
    (inside : Inside image.header.dimensions option.transform info) :
    let header := adjustParameters image.header option.transform info
    ∃ arrays, transformArrays image header option info memory = some arrays ∧
      ∀ ci < image.header.numComponents, Written header ci
        (placed (settingOf image.header header info ci)
          (turnOf image.header option.transform info ci) (image.array ci)) (arrays ci) := by
  intro header
  unfold transformArrays
  rw [show header.numComponents = image.header.numComponents from adjust_numComponents _ _ _]
  refine upTo_rule (fun count (arrays : Nat → VirtualArray) =>
      ∀ ci < count, Written header ci (placed (settingOf image.header header info ci)
        (turnOf image.header option.transform info ci) (image.array ci)) (arrays ci))
    (fun ci known arrays before => ?_) fun ci none => absurd none (Nat.not_lt_zero ci)
  obtain ⟨array, ran, written⟩ := executeTransform_written inside known memory
  have read := compressOutput_reads written.rows written.defined written.columns written.access
  refine ⟨Function.update arrays ci array, ?_, fun other earlier => ?_⟩
  · rw [ran]
    simp only [Option.bind_eq_bind, Option.bind_some, header, read]
  · rcases Nat.lt_succ_iff_lt_or_eq.mp earlier with done | rfl
    · rw [Function.update_of_ne (Nat.ne_of_lt done)]
      exact before other done
    · rw [Function.update_self]
      exact written

/-- What is let through is carried out. -/
theorem Accepts.turns (accepts : Accepts image option info) (memory : Nat → Plane Block) :
    ∃ result, jtransform option memory image = some result ∧
      Turned option.transform info image result := by
  have inside := accepts.inside
  obtain ⟨arrays, ran, written⟩ := @transformArrays_written image option info memory inside
  have setUp := adjust_setUp inside
  refine ⟨⟨_, setUp, false,
    fun ci => ((adjustParameters image.header option.transform info).slotQuant ci).getD
      fun _ _ => 0, fun ci => (arrays ci).block⟩, ?_, rfl, fun ci known => ?_,
    fun ci known => (written ci known).block⟩
  · unfold jtransform
    rw [if_neg accepts.perfect, accepts.region, Option.bind_some, if_pos accepts.tables]
    dsimp only
    rw [dif_pos setUp, ran]
    rfl
  · dsimp only
    rw [adjust_slotQuant, accepts.tables ci known]
    rfl

/-- What comes out was let through. -/
theorem accepts_of_jtransform (ran : jtransform option memory image = some result) :
    ∃ info, Accepts image option info := by
  unfold jtransform at ran
  split at ran
  · cases ran
  · rename_i perfect
    obtain ⟨info, region, ran⟩ := Option.bind_eq_some_iff.mp ran
    split at ran
    · rename_i tables
      exact ⟨info, perfect, region, tables⟩
    · cases ran

theorem turned_of_jtransform (ran : jtransform option memory image = some result) :
    ∃ info, Accepts image option info ∧ Turned option.transform info image result := by
  obtain ⟨info, accepts⟩ := accepts_of_jtransform ran
  obtain ⟨other, also, turns⟩ := accepts.turns memory
  obtain rfl : other = result := Option.some.inj (also.symm.trans ran)
  exact ⟨info, accepts, turns⟩

/-- The encoder's tests of its scans come after the transformation. -/
theorem jpegtran_eq_some {scanInfo : ScanInfo} :
    jpegtran option scanInfo memory image = some result ↔
      jtransform option memory image = some result ∧ result.header.Fits scanInfo := by
  unfold jpegtran
  rw [Option.bind_eq_some_iff]
  constructor
  · rintro ⟨found, ran, fits⟩
    split at fits
    · cases fits
      exact ⟨ran, by assumption⟩
    · cases fits
  · rintro ⟨ran, fits⟩
    exact ⟨result, ran, if_pos fits⟩

theorem turned_of_jpegtran {scanInfo : ScanInfo}
    (ran : jpegtran option scanInfo memory image = some result) :
    ∃ info, Accepts image option info ∧ Turned option.transform info image result :=
  turned_of_jtransform (jpegtran_eq_some.mp ran).1

/-- A transformation does not change how many blocks a single scan has in an MCU. -/
theorem Header.Fits.adjust {header : Header} (fits : header.Fits none) (transform : Transform)
    (info : TransformInfo) : (adjustParameters header transform info).Fits none := by
  intro scan listed
  cases List.mem_singleton.mp listed
  rw [adjust_numComponents]
  by_cases single : header.numComponents = 1
  · exact .inl (by rw [single]; rfl)
  · have blocks : ∀ ci, ((adjustParameters header transform info).compInfo ci).hSampFactor *
          ((adjustParameters header transform info).compInfo ci).vSampFactor =
        (header.compInfo ci).hSampFactor * (header.compInfo ci).vSampFactor := by
      intro ci
      rw [adjust_hSampFactor, adjust_vSampFactor, if_neg single, if_neg single]
      cases transform.transposes with
      | false => rfl
      | true => exact Nat.mul_comm _ _
    unfold Header.ScanFits
    simp only [blocks]
    exact fits _ List.mem_cons_self

/-- What is let through is written in a single scan, if the scan of the source could be. -/
theorem Accepts.runs (accepts : Accepts image option info) (fits : image.header.Fits none)
    (memory : Nat → Plane Block) : ∃ result, jpegtran option none memory image = some result := by
  obtain ⟨result, ran, turns⟩ := accepts.turns memory
  refine ⟨result, jpegtran_eq_some.mpr ⟨ran, ?_⟩⟩
  rw [turns.header]
  exact fits.adjust option.transform info

/--
For every image, every option, every script and whatever the requested memory held: the
transcoder ends with the turned planes, or one of its three tests fails or the encoder
cannot set up one of its scans.
-/
theorem jpegtran_places (option : TransformOption) (scanInfo : ScanInfo)
    (memory : Nat → Plane Block) (image : Image) :
    (∃ info result, Accepts image option info ∧ result.header.Fits scanInfo ∧
      jpegtran option scanInfo memory image = some result ∧
      Turned option.transform info image result) ∨
    (jpegtran option scanInfo memory image = none ∧
      ∀ info, Accepts image option info →
        ¬(adjustParameters image.header option.transform info).Fits scanInfo) := by
  cases ran : jpegtran option scanInfo memory image with
  | some result =>
      obtain ⟨info, accepts, turns⟩ := turned_of_jpegtran ran
      exact .inl ⟨info, result, accepts, (jpegtran_eq_some.mp ran).2, rfl, turns⟩
  | none =>
      refine .inr ⟨rfl, fun info accepts fits => ?_⟩
      obtain ⟨result, done, turns⟩ := accepts.turns memory
      have wrote := jpegtran_eq_some.mpr ⟨done, turns.header ▸ fits⟩
      rw [ran] at wrote
      cases wrote

/--
The horizontal flip in place, run when no rows are cropped away, leaves the blocks the
flip into a separate array would.
-/
theorem flips_agree (accepts : Accepts image option info) (flip : option.transform = .flipH)
    (atTop : info.yCropOffset = 0) (memory : Nat → Plane Block) {ci : Nat}
    (known : ci < image.header.numComponents) :
    let header := adjustParameters image.header .flipH info
    let setting := settingOf image.header header info ci
    ∃ own separate, doFlipHNoCrop setting (image.array ci) = some own ∧
      doFlipH setting (image.array ci) (workspaceArray header info ci memory) = some separate ∧
      ∀ row < header.heightInBlocks ci, ∀ column < header.widthInBlocks ci,
        own.block row column = separate.block row column := by
  intro header setting
  have inside : Inside image.header.dimensions .flipH info := flip ▸ accepts.inside
  have zone := (zones_straight inside ci rfl).1
  have all := Nat.le_refl (fullWidth image.header.dimensions .flipH / info.mcuWidth)
  have noRows := Nat.zero_le (fullHeight image.header.dimensions .flipH / info.mcuHeight)
  have supplies := supplies_straight inside known rfl all noRows
  obtain ⟨own, ranOwn, -, -, ownBlock⟩ := doFlipHNoCrop_places
    (show setting.yCropOffset = 0 from atTop) (zone.symm ▸ supplies)
  obtain ⟨separate, ranSeparate, written⟩ :=
    straight_written inside known rfl memory all noRows
  rw [Nat.zero_mul] at ranSeparate written
  refine ⟨own, separate, ranOwn, ?_, fun row inRows column inColumns => ?_⟩
  · rw [doFlipH_eq, zone]
    exact ranSeparate
  · have padded := Nat.lt_of_lt_of_le inRows
      (setting.height_le_padded (sampling_pos inside known).2)
    rw [ownBlock row padded column inColumns, written.block row inRows column inColumns, zone]

/-- A picture of two iMCUs and a half, in whose first component an iMCU is two blocks wide. -/
def broadImage : Image :=
  { sampleImage with
    header := { sampleImage.header with imageWidth := 40 }
    setUp := by decide }

/-- A flip of which the columns from the second iMCU on are kept. -/
def broadFlip : TransformOption :=
  ⟨.flipH, false, false, some ⟨20, .pos, 12, .pos, 20, .pos, 0, .pos⟩⟩

theorem flips_agree_sample :
    let info : TransformInfo := ⟨24, 12, 1, 0, 2, 1⟩
    let header := adjustParameters broadImage.header .flipH info
    let setting := settingOf broadImage.header header info 0
    ∃ own separate, doFlipHNoCrop setting (broadImage.array 0) = some own ∧
      doFlipH setting (broadImage.array 0)
        (workspaceArray header info 0 fun _ _ _ _ _ => 9) = some separate ∧
      ∀ row < header.heightInBlocks 0, ∀ column < header.widthInBlocks 0,
        own.block row column = separate.block row column :=
  @flips_agree broadImage broadFlip ⟨24, 12, 1, 0, 2, 1⟩
    ⟨by decide, rfl, by decide +kernel⟩ rfl rfl (fun _ _ _ _ _ => 9) 0 (by decide)

end RPhoto.Lossless
