import RPhoto.Lossless.Pixels

/-!
# The picture after perfect, trimmed and cropped transformations

To an ideal decoder a transformation that was found perfect turns the whole picture.  A
trimmed one turns what it keeps, and drops less than an iMCU on an edge it mirrors; an
edge shorter than an iMCU is kept and stays unmirrored.  A crop keeps the region asked
for, which lies in the frame of the turned picture, and less than an iMCU to its left and
above it.
-/

namespace RPhoto.Lossless

open RPhoto.Library

variable {source : Dimensions} {option : TransformOption} {info : TransformInfo}

/-- What trimming leaves of a length, mirrored or not. -/
def keptLength (mirrored : Bool) (mcu full : Nat) : Nat :=
  if mirrored ∧ mcu ≤ full then full / mcu * mcu else full

theorem trimRightEdge_uncropped {region : TransformInfo} {full : Nat}
    (positive : 0 < region.mcuWidth) (whole : region.outputWidth = full)
    (atEdge : region.xCropOffset = 0) :
    trimRightEdge region full =
      { region with outputWidth := keptLength true region.mcuWidth full } := by
  subst whole
  unfold trimRightEdge keptLength
  dsimp only
  have counted : ∀ count, region.xCropOffset + count = count := by
    intro count
    rw [atEdge, Nat.zero_add]
  rw [counted]
  by_cases fits : region.mcuWidth ≤ region.outputWidth
  · rw [if_pos ⟨Nat.div_pos fits positive, rfl⟩, if_pos ⟨rfl, fits⟩]
  · rw [if_neg fun both => fits (Nat.div_pos_iff.mp both.1).2, if_neg fun both => fits both.2]

theorem trimBottomEdge_uncropped {region : TransformInfo} {full : Nat}
    (positive : 0 < region.mcuHeight) (whole : region.outputHeight = full)
    (atEdge : region.yCropOffset = 0) :
    trimBottomEdge region full =
      { region with outputHeight := keptLength true region.mcuHeight full } := by
  subst whole
  unfold trimBottomEdge keptLength
  dsimp only
  have counted : ∀ count, region.yCropOffset + count = count := by
    intro count
    rw [atEdge, Nat.zero_add]
  rw [counted]
  by_cases fits : region.mcuHeight ≤ region.outputHeight
  · rw [if_pos ⟨Nat.div_pos fits positive, rfl⟩, if_pos ⟨rfl, fits⟩]
  · rw [if_neg fun both => fits (Nat.div_pos_iff.mp both.1).2, if_neg fun both => fits both.2]

/-- Without a crop region the output begins at the corner and is trimmed where mirrored. -/
theorem request_uncropped (uncroppedOption : option.crop = none)
    (positive : 0 < (uncropped source option.transform).mcuWidth ∧
      0 < (uncropped source option.transform).mcuHeight)
    (found : requestWorkspace source option = some info) :
    info = { uncropped source option.transform with
      outputWidth := keptLength (option.trim && option.transform.mirrorsX)
        (uncropped source option.transform).mcuWidth (fullWidth source option.transform)
      outputHeight := keptLength (option.trim && option.transform.mirrorsY)
        (uncropped source option.transform).mcuHeight
        (fullHeight source option.transform) } := by
  unfold requestWorkspace croppedRegion at found
  rw [uncroppedOption] at found
  simp only [Option.map_some, Option.some.injEq] at found
  subst found
  obtain ⟨transform, perfect, trim, crop⟩ := option
  have offset : (uncropped source transform).xCropOffset = 0 ∧
      (uncropped source transform).yCropOffset = 0 := by
    unfold uncropped
    cases transform.transposes <;> exact ⟨rfl, rfl⟩
  cases trim with
  | false => rfl
  | true =>
      dsimp only at positive ⊢
      cases transform with
      | none => rfl
      | transpose => rfl
      | flipH => exact trimRightEdge_uncropped positive.1 rfl offset.1
      | rot90 => exact trimRightEdge_uncropped positive.1 rfl offset.1
      | flipV => exact trimBottomEdge_uncropped positive.2 rfl offset.2
      | rot270 => exact trimBottomEdge_uncropped positive.2 rfl offset.2
      | transverse =>
          exact (congrArg (trimBottomEdge · _)
            (trimRightEdge_uncropped positive.1 rfl offset.1)).trans
            (trimBottomEdge_uncropped positive.2 rfl offset.2)
      | rot180 =>
          exact (congrArg (trimBottomEdge · _)
            (trimRightEdge_uncropped positive.1 rfl offset.1)).trans
            (trimBottomEdge_uncropped positive.2 rfl offset.2)

/-- A perfect transformation mirrors no edge with a partial iMCU. -/
theorem perfect_whole {header : Header} {transform : Transform} {info : TransformInfo}
    (inside : Inside header.dimensions transform info)
    (perfect : perfectTransform header.imageWidth header.imageHeight
      (header.maxHSampFactor * dctSize) (header.maxVSampFactor * dctSize) transform = true) :
    (transform.mirrorsX = true → info.mcuWidth ∣ fullWidth header.dimensions transform) ∧
      (transform.mirrorsY = true → info.mcuHeight ∣ fullHeight header.dimensions transform) := by
  have smaller : ∀ {factor length : Nat}, length % (factor * dctSize) = 0 →
      (if header.numComponents = 1 then 1 else factor) * dctSize ∣ length := by
    intro factor length whole
    split
    · exact Nat.dvd_trans (Nat.mul_dvd_mul_right (Nat.one_dvd factor) dctSize)
        (Nat.dvd_of_mod_eq_zero whole)
    · exact Nat.dvd_of_mod_eq_zero whole
  unfold TransformInfo.mcuWidth TransformInfo.mcuHeight fullWidth fullHeight
  rw [inside.maxHSampFactor, inside.maxVSampFactor]
  cases transform with
  | none => exact ⟨(fun mirrors => nomatch mirrors), fun mirrors => nomatch mirrors⟩
  | transpose => exact ⟨(fun mirrors => nomatch mirrors), fun mirrors => nomatch mirrors⟩
  | flipH => exact ⟨fun _ => smaller (beq_iff_eq.mp perfect), fun mirrors => nomatch mirrors⟩
  | rot90 => exact ⟨fun _ => smaller (beq_iff_eq.mp perfect), fun mirrors => nomatch mirrors⟩
  | flipV => exact ⟨(fun mirrors => nomatch mirrors), fun _ => smaller (beq_iff_eq.mp perfect)⟩
  | rot270 => exact ⟨(fun mirrors => nomatch mirrors), fun _ => smaller (beq_iff_eq.mp perfect)⟩
  | transverse =>
      have both := Bool.and_eq_true_iff.mp perfect
      exact ⟨fun _ => smaller (beq_iff_eq.mp both.2), fun _ => smaller (beq_iff_eq.mp both.1)⟩
  | rot180 =>
      have both := Bool.and_eq_true_iff.mp perfect
      exact ⟨fun _ => smaller (beq_iff_eq.mp both.1), fun _ => smaller (beq_iff_eq.mp both.2)⟩

theorem Transform.turn_congr {transform : Transform} {columns rows other others : Nat}
    (same : transform.mirrorsX = true → columns = other)
    (sameRows : transform.mirrorsY = true → rows = others) :
    transform.turn columns rows = transform.turn other others := by
  unfold Transform.turn
  cases mirrorsX : transform.mirrorsX <;> cases mirrorsY : transform.mirrorsY
  · rfl
  · rw [sameRows mirrorsY]; rfl
  · rw [same mirrorsX]; rfl
  · rw [same mirrorsX, sameRows mirrorsY]

/-- The iMCU of a region is that of the uncropped output. -/
theorem Inside.mcu_eq {transform : Transform} (inside : Inside source transform info) :
    info.mcuWidth = (uncropped source transform).mcuWidth ∧
      info.mcuHeight = (uncropped source transform).mcuHeight := by
  unfold TransformInfo.mcuWidth TransformInfo.mcuHeight
  rw [inside.maxHSampFactor, inside.maxVSampFactor]
  exact ⟨rfl, rfl⟩

section Picture

variable {image result : Image} {scanInfo : ScanInfo} {memory : Nat → Plane Block}

theorem uncropped_mcu_pos (image : Image) (transform : Transform) :
    0 < (uncropped image.header.dimensions transform).mcuWidth ∧
      0 < (uncropped image.header.dimensions transform).mcuHeight :=
  mcu_pos (uncropped_inside image.setUp.width.1 image.setUp.height.1 transform)

theorem Turned.size {transform : Transform} (turns : Turned transform info image result) :
    result.header.imageWidth = info.outputWidth ∧
      result.header.imageHeight = info.outputHeight := by
  rw [turns.header]
  exact ⟨adjust_imageWidth _ _ _, adjust_imageHeight _ _ _⟩

/-- Uncropped, a pixel comes from where the turn of the mirrored zones takes it. -/
theorem pixel_uncropped (uncroppedOption : option.crop = none) (expands : image.header.Expands)
    (accepts : Accepts image option info) (turns : Turned option.transform info image result)
    {ci row column : Nat} (known : ci < image.header.numComponents)
    (inRows : row < result.header.imageHeight) (inColumns : column < result.header.imageWidth) :
    result.pixel ci row column =
      turnedPoints (pixelTurn image.header option.transform info) (image.pixel ci) row
        column := by
  have request := request_uncropped uncroppedOption
    (uncropped_mcu_pos image option.transform) accepts.region
  have offset : info.xCropOffset = 0 ∧ info.yCropOffset = 0 := by
    rw [request]
    unfold uncropped
    cases option.transform.transposes <;> exact ⟨rfl, rfl⟩
  have here := turns.pixel accepts.inside expands known inRows inColumns
  rw [offset.1, offset.2, Nat.zero_mul, Nat.zero_mul, Nat.zero_add, Nat.zero_add] at here
  exact here

theorem keptLength_whole {mirrored trim : Bool} {mcu full : Nat}
    (whole : mirrored = true → mcu ∣ full) : keptLength (trim && mirrored) mcu full = full := by
  unfold keptLength
  split
  · rename_i kept
    exact Nat.div_mul_cancel (whole (Bool.and_eq_true_iff.mp kept.1).2)
  · rfl

theorem sampleImage_expands : sampleImage.header.Expands :=
  ⟨by decide +kernel, by decide +kernel⟩

/-- A transformation found perfect turns the whole picture, pixel for pixel. -/
theorem perfect_picture (perfect : option.perfect = true) (uncroppedOption : option.crop = none)
    (expands : image.header.Expands)
    (ran : jpegtran option scanInfo memory image = some result) :
    result.header.imageWidth =
        (if option.transform.transposes then image.header.imageHeight
          else image.header.imageWidth) ∧
      result.header.imageHeight =
        (if option.transform.transposes then image.header.imageWidth
          else image.header.imageHeight) ∧
      ∀ ci < image.header.numComponents, ∀ row < result.header.imageHeight,
        ∀ column < result.header.imageWidth,
        result.pixel ci row column =
          turnedPoints
            (option.transform.turn result.header.imageWidth result.header.imageHeight)
            (image.pixel ci) row column := by
  obtain ⟨info, accepts, turns⟩ := turned_of_jpegtran ran
  have request := request_uncropped uncroppedOption
    (uncropped_mcu_pos image option.transform) accepts.region
  have found : perfectTransform image.header.imageWidth image.header.imageHeight
      (image.header.maxHSampFactor * dctSize) (image.header.maxVSampFactor * dctSize)
      option.transform = true := by
    by_contra imperfect
    exact accepts.perfect ⟨perfect, imperfect⟩
  obtain ⟨wholeX, wholeY⟩ := perfect_whole accepts.inside found
  have same := accepts.inside.mcu_eq
  obtain ⟨width, height⟩ := turns.size
  have outputWidth : info.outputWidth =
      fullWidth image.header.dimensions option.transform := by
    rw [request]
    exact keptLength_whole (same.1 ▸ wholeX)
  have outputHeight : info.outputHeight =
      fullHeight image.header.dimensions option.transform := by
    rw [request]
    exact keptLength_whole (same.2 ▸ wholeY)
  refine ⟨?_, ?_, fun ci known row inRows column inColumns => ?_⟩
  · rw [width, outputWidth]
    unfold fullWidth uncropped Header.dimensions
    cases option.transform.transposes <;> rfl
  · rw [height, outputHeight]
    unfold fullHeight uncropped Header.dimensions
    cases option.transform.transposes <;> rfl
  · rw [pixel_uncropped uncroppedOption expands accepts turns known inRows inColumns]
    unfold pixelTurn
    rw [width, outputWidth, height, outputHeight]
    rw [Transform.turn_congr (fun mirrors => Nat.div_mul_cancel (wholeX mirrors))
      (fun mirrors => Nat.div_mul_cancel (wholeY mirrors))]

theorem perfect_picture_sample :
    ∃ result, jpegtran ⟨.flipH, true, false, none⟩ none (fun _ _ _ _ _ => 9) sampleImage =
        some result ∧
      result.header.imageWidth = 16 ∧ result.header.imageHeight = 12 ∧
      ∀ ci < 2, ∀ row < result.header.imageHeight, ∀ column < result.header.imageWidth,
        result.pixel ci row column =
          turnedPoints (Transform.flipH.turn result.header.imageWidth result.header.imageHeight)
            (sampleImage.pixel ci) row column := by
  obtain ⟨result, ran⟩ := @Accepts.runs sampleImage ⟨.flipH, true, false, none⟩ _
    ⟨by decide +kernel, rfl, by decide +kernel⟩ (by decide) fun _ _ _ _ _ => 9
  exact ⟨result, ran, perfect_picture rfl rfl sampleImage_expands ran⟩

/-- Trimming drops less than an iMCU. -/
theorem lt_keptLength_add {mirrored : Bool} {mcu full : Nat} (positive : 0 < mcu) :
    full < keptLength mirrored mcu full + mcu := by
  unfold keptLength
  split
  · have split := Nat.div_add_mod full mcu
    have small := Nat.mod_lt full positive
    rw [Nat.mul_comm] at split
    omega
  · omega

/-- A trimmed transformation turns exactly the picture it keeps. -/
theorem trimmed_picture (trim : option.trim = true) (uncroppedOption : option.crop = none)
    (expands : image.header.Expands)
    (ran : jpegtran option scanInfo memory image = some result) :
    let region := uncropped image.header.dimensions option.transform
    (result.header.imageWidth =
        keptLength option.transform.mirrorsX region.mcuWidth region.outputWidth ∧
      region.outputWidth < result.header.imageWidth + region.mcuWidth) ∧
    (result.header.imageHeight =
        keptLength option.transform.mirrorsY region.mcuHeight region.outputHeight ∧
      region.outputHeight < result.header.imageHeight + region.mcuHeight) ∧
    ∀ ci < image.header.numComponents, ∀ row < result.header.imageHeight,
      ∀ column < result.header.imageWidth,
      result.pixel ci row column =
        turnedPoints
          (option.transform.turn
            (if region.mcuWidth ≤ region.outputWidth then result.header.imageWidth else 0)
            (if region.mcuHeight ≤ region.outputHeight then result.header.imageHeight else 0))
          (image.pixel ci) row column := by
  intro region
  obtain ⟨info, accepts, turns⟩ := turned_of_jpegtran ran
  have positive := uncropped_mcu_pos image option.transform
  have request := request_uncropped uncroppedOption positive accepts.region
  obtain ⟨width, height⟩ := turns.size
  have outputWidth : info.outputWidth =
      keptLength option.transform.mirrorsX region.mcuWidth region.outputWidth := by
    rw [request, trim, Bool.true_and]
    rfl
  have outputHeight : info.outputHeight =
      keptLength option.transform.mirrorsY region.mcuHeight region.outputHeight := by
    rw [request, trim, Bool.true_and]
    rfl
  have zone : ∀ {mirrored : Bool} {mcu full : Nat}, 0 < mcu → mirrored = true →
      full / mcu * mcu = if mcu ≤ full then keptLength mirrored mcu full else 0 := by
    rintro mirrored mcu full some_pixel rfl
    unfold keptLength
    by_cases fits : mcu ≤ full
    · rw [if_pos fits, if_pos ⟨rfl, fits⟩]
    · rw [if_neg fits, Nat.div_eq_of_lt (Nat.lt_of_not_le fits), Nat.zero_mul]
  have shortX : region.outputWidth < info.outputWidth + region.mcuWidth := by
    rw [outputWidth]
    exact lt_keptLength_add positive.1
  have shortY : region.outputHeight < info.outputHeight + region.mcuHeight := by
    rw [outputHeight]
    exact lt_keptLength_add positive.2
  rw [width, height]
  refine ⟨⟨outputWidth, shortX⟩, ⟨outputHeight, shortY⟩,
    fun ci known row inRows column inColumns => ?_⟩
  rw [outputWidth, outputHeight]
  rw [← height] at inRows
  rw [← width] at inColumns
  rw [pixel_uncropped uncroppedOption expands accepts turns known inRows inColumns]
  unfold pixelTurn
  rw [accepts.inside.mcu_eq.1, accepts.inside.mcu_eq.2]
  exact congrArg (fun turn => turnedPoints turn (image.pixel ci) row column)
    (Transform.turn_congr (fun mirrors => zone positive.1 mirrors)
      (fun mirrors => zone positive.2 mirrors))

theorem trimmed_picture_sample :
    ∃ result, jpegtran ⟨.rot90, false, true, none⟩ none (fun _ _ _ _ _ => 9) sampleImage =
        some result ∧
      let region := uncropped sampleImage.header.dimensions .rot90
      (result.header.imageWidth = keptLength true region.mcuWidth region.outputWidth ∧
        region.outputWidth < result.header.imageWidth + region.mcuWidth) ∧
      (result.header.imageHeight = keptLength false region.mcuHeight region.outputHeight ∧
        region.outputHeight < result.header.imageHeight + region.mcuHeight) ∧
      ∀ ci < 2, ∀ row < result.header.imageHeight, ∀ column < result.header.imageWidth,
        result.pixel ci row column =
          turnedPoints
            (Transform.rot90.turn
              (if region.mcuWidth ≤ region.outputWidth then result.header.imageWidth else 0)
              (if region.mcuHeight ≤ region.outputHeight then result.header.imageHeight else 0))
            (sampleImage.pixel ci) row column := by
  obtain ⟨result, ran⟩ := @Accepts.runs sampleImage ⟨.rot90, false, true, none⟩ _
    ⟨by decide +kernel, rfl, by decide +kernel⟩ (by decide) fun _ _ _ _ _ => 9
  exact ⟨result, ran, trimmed_picture rfl rfl sampleImage_expands ran⟩

/-- The region a crop asks for, moved to an iMCU corner. -/
def regionAt (region : TransformInfo) (x width y height : Nat) : TransformInfo :=
  { region with
    outputWidth := width + x % region.mcuWidth
    outputHeight := height + y % region.mcuHeight
    xCropOffset := x / region.mcuWidth
    yCropOffset := y / region.mcuHeight }

/-- The pixels of a crop region and of what it is extended by, in the turned picture. -/
theorem Turned.pixel_region {transform : Transform} {x width y height : Nat}
    (turns : Turned transform
      (regionAt (uncropped image.header.dimensions transform) x width y height) image result)
    (inside : Inside image.header.dimensions transform
      (regionAt (uncropped image.header.dimensions transform) x width y height))
    (expands : image.header.Expands) {ci row column : Nat}
    (known : ci < image.header.numComponents) (inRows : row < result.header.imageHeight)
    (inColumns : column < result.header.imageWidth) :
    let full := uncropped image.header.dimensions transform
    result.pixel ci row column =
      turnedPoints
        (transform.turn (full.outputWidth / full.mcuWidth * full.mcuWidth)
          (full.outputHeight / full.mcuHeight * full.mcuHeight))
        (image.pixel ci) (y / full.mcuHeight * full.mcuHeight + row)
        (x / full.mcuWidth * full.mcuWidth + column) :=
  turns.pixel inside expands known inRows inColumns

/--
A crop keeps the region asked for, which lies in the frame of the turned picture, and
what lies to its left and above it in the same iMCU.
-/
theorem cropped_picture {spec : CropSpec} (cropOption : option.crop = some spec)
    (untrimmed : option.trim = false) (expands : image.header.Expands)
    (ran : jpegtran option scanInfo memory image = some result) :
    let full := uncropped image.header.dimensions option.transform
    ∃ x width y height,
      cropAxis full.outputWidth spec.cropWidth spec.cropWidthSet spec.cropXOffset
        spec.cropXOffsetSet = some (x, width) ∧
      cropAxis full.outputHeight spec.cropHeight spec.cropHeightSet spec.cropYOffset
        spec.cropYOffsetSet = some (y, height) ∧
      result.header.imageWidth = width + x % full.mcuWidth ∧
      result.header.imageHeight = height + y % full.mcuHeight ∧
      ∀ ci < image.header.numComponents, ∀ row < result.header.imageHeight,
        ∀ column < result.header.imageWidth,
        result.pixel ci row column =
          turnedPoints
            (option.transform.turn (full.outputWidth / full.mcuWidth * full.mcuWidth)
              (full.outputHeight / full.mcuHeight * full.mcuHeight))
            (image.pixel ci) (y / full.mcuHeight * full.mcuHeight + row)
            (x / full.mcuWidth * full.mcuWidth + column) := by
  intro full
  obtain ⟨info, accepts, turns⟩ := turned_of_jpegtran ran
  have inside := accepts.inside
  obtain ⟨region, foundRegion, same⟩ := Option.map_eq_some_iff.mp accepts.region
  rw [untrimmed, if_neg Bool.false_ne_true] at same
  subst same
  unfold croppedRegion at foundRegion
  rw [cropOption] at foundRegion
  obtain ⟨⟨x, width⟩, foundX, rest⟩ := Option.bind_eq_some_iff.mp foundRegion
  obtain ⟨⟨y, height⟩, foundY, rest⟩ := Option.bind_eq_some_iff.mp rest
  cases rest
  obtain ⟨outputWidth, outputHeight⟩ := turns.size
  exact ⟨x, width, y, height, foundX, foundY, outputWidth, outputHeight,
    fun ci known row inRows column inColumns =>
      turns.pixel_region inside expands known inRows inColumns⟩

/-- A quarter turn, from the fourth row and the tenth column of the turned picture on. -/
def sampleCrop : CropSpec := ⟨2, .pos, 5, .pos, 9, .pos, 3, .neg⟩

theorem cropped_picture_sample :
    ∃ result, jpegtran ⟨.rot90, false, false, some sampleCrop⟩ none (fun _ _ _ _ _ => 9)
        sampleImage = some result ∧
      let full := uncropped sampleImage.header.dimensions .rot90
      ∃ x width y height,
        cropAxis 12 2 .pos 9 .pos = some (x, width) ∧
        cropAxis 16 5 .pos 3 .neg = some (y, height) ∧
        result.header.imageWidth = width + x % full.mcuWidth ∧
        result.header.imageHeight = height + y % full.mcuHeight ∧
        ∀ ci < 2, ∀ row < result.header.imageHeight, ∀ column < result.header.imageWidth,
          result.pixel ci row column =
            turnedPoints
              (Transform.rot90.turn (full.outputWidth / full.mcuWidth * full.mcuWidth)
                (full.outputHeight / full.mcuHeight * full.mcuHeight))
              (sampleImage.pixel ci) (y / full.mcuHeight * full.mcuHeight + row)
              (x / full.mcuWidth * full.mcuWidth + column) := by
  obtain ⟨result, ran⟩ := @Accepts.runs sampleImage ⟨.rot90, false, false, some sampleCrop⟩ _
    ⟨by decide +kernel, rfl, by decide +kernel⟩ (by decide) fun _ _ _ _ _ => 9
  exact ⟨result, ran, @cropped_picture ⟨.rot90, false, false, some sampleCrop⟩ _ _ _ _ sampleCrop
    rfl rfl sampleImage_expands ran⟩

end Picture

/-! ## Pictures without partial iMCUs -/

/-- Both sides are whole iMCUs. -/
structure Header.Whole (header : Header) : Prop where
  width : header.maxHSampFactor * dctSize ∣ header.imageWidth
  height : header.maxVSampFactor * dctSize ∣ header.imageHeight

theorem Header.Whole.uncropped {header : Header} (whole : header.Whole) (transform : Transform) :
    (uncropped header.dimensions transform).mcuWidth ∣ fullWidth header.dimensions transform ∧
      (Lossless.uncropped header.dimensions transform).mcuHeight ∣
        fullHeight header.dimensions transform := by
  have smaller : ∀ {factor length : Nat}, factor * dctSize ∣ length →
      (if header.numComponents = 1 then 1 else factor) * dctSize ∣ length := by
    intro factor length divides
    split
    · exact Nat.dvd_trans (Nat.mul_dvd_mul_right (Nat.one_dvd factor) dctSize) divides
    · exact divides
  unfold fullWidth fullHeight TransformInfo.mcuWidth TransformInfo.mcuHeight Lossless.uncropped
  cases transform.transposes with
  | false => exact ⟨smaller whole.width, smaller whole.height⟩
  | true => exact ⟨smaller whole.height, smaller whole.width⟩

/-- A transformation leaves whole iMCUs whole. -/
theorem Header.Whole.adjust {header : Header} (whole : header.Whole) (transform : Transform) :
    (adjustParameters header transform
      (Lossless.uncropped header.dimensions transform)).Whole := by
  obtain ⟨width, height⟩ := whole.uncropped transform
  refine ⟨?_, ?_⟩
  · rw [adjust_maxHSampFactor, adjust_imageWidth]
    exact width
  · rw [adjust_maxVSampFactor, adjust_imageHeight]
    exact height

theorem Header.Whole.perfect {header : Header} (whole : header.Whole) (transform : Transform) :
    perfectTransform header.imageWidth header.imageHeight (header.maxHSampFactor * dctSize)
      (header.maxVSampFactor * dctSize) transform = true := by
  have width := Nat.mod_eq_zero_of_dvd whole.width
  have height := Nat.mod_eq_zero_of_dvd whole.height
  unfold perfectTransform
  cases transform <;> simp [width, height]

/-- On whole iMCUs a transformation passes the tests of either attempt, and cuts nothing. -/
theorem Header.Whole.accepts {image : Image} (whole : image.header.Whole)
    (uncroppedOption : option.crop = none) (tables : copiesCriticalParameters image) :
    Accepts image option (Lossless.uncropped image.header.dimensions option.transform) := by
  obtain ⟨wholeX, wholeY⟩ := whole.uncropped option.transform
  refine ⟨fun fails => fails.2 (whole.perfect option.transform), ?_, tables⟩
  obtain ⟨info, found⟩ : ∃ info, requestWorkspace image.header.dimensions option = some info := by
    unfold requestWorkspace croppedRegion
    rw [uncroppedOption]
    exact ⟨_, rfl⟩
  have request := request_uncropped uncroppedOption
    (uncropped_mcu_pos image option.transform) found
  rw [keptLength_whole fun _ => wholeX, keptLength_whole fun _ => wholeY] at request
  rw [found, request]
  rfl

end RPhoto.Lossless
