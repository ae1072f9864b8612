import RPhoto.Lossless.JpegtranPlaces
import RPhoto.Library.Separable

/-!
# The picture behind the coefficients

What an ideal decoder shows: each block, dequantized with its component's table and put
through the exact inverse cosine transform, is a square of samples, and each sample is
repeated over the pixels it stands for.  The decoders of the library round inside the
transform and by default interpolate between samples, so what they show of a turned
picture is not exactly what they show of the other one, turned.  On the scale of pixels
the transcoder turns the whole picture, except that partial iMCUs on a mirrored edge stay
in place.
-/

namespace RPhoto.Lossless

open RPhoto.Library

/-- The samples of a block, dequantized with a table and transformed exactly. -/
noncomputable def samples (table : QuantTable) (block : Block) (row column : Fin 8) : ℝ :=
  synthesis (cosineWave 8) (fun down across => (block down across : ℝ) * table down across) row
    column

theorem neg_one_pow_parity (index : Fin 8) :
    ((-1 : ℝ) ^ index.val) = if isOdd index then -1 else 1 := by
  unfold isOdd
  rcases Nat.even_or_odd index.val with even | odd
  · rw [even.neg_one_pow]
    simp [Nat.even_iff.mp even]
  · rw [odd.neg_one_pow]
    simp [Nat.odd_iff.mp odd]

/-- Mirroring a block along x reverses its columns of samples. -/
theorem samples_mirrored_x (table : QuantTable) (block : Block) (row column : Fin 8) :
    samples table (block.mirrored true false) row column =
      samples table block row column.rev := by
  unfold samples
  rw [← synthesis_across (cosineWave_hasParity 8)]
  refine synthesis_congr (fun down across => ?_) row column
  rw [Block.mirrored_x, neg_one_pow_parity]
  unfold Block.negateOddColumns
  cases isOdd across <;> simp

theorem samples_mirrored_y (table : QuantTable) (block : Block) (row column : Fin 8) :
    samples table (block.mirrored false true) row column =
      samples table block row.rev column := by
  unfold samples
  rw [← synthesis_down (cosineWave_hasParity 8)]
  refine synthesis_congr (fun down across => ?_) row column
  rw [Block.mirrored_y, neg_one_pow_parity]
  unfold Block.negateOddRows
  cases isOdd down <;> simp

theorem samples_mirrored (table : QuantTable) (block : Block) (x y : Bool)
    (row column : Fin 8) :
    samples table (block.mirrored x y) row column =
      samples table block (if y then row.rev else row) (if x then column.rev else column) := by
  have split : block.mirrored x y = (block.mirrored false y).mirrored x false := by
    rw [Block.mirrored_mirrored]
    cases x <;> cases y <;> rfl
  rw [split]
  cases x with
  | false =>
      cases y with
      | false => simp
      | true => simpa using samples_mirrored_y table block row column
  | true =>
      rw [samples_mirrored_x]
      cases y with
      | false => simp
      | true => simpa using samples_mirrored_y table block row column.rev

/-- Transposing block and table transposes the samples. -/
theorem samples_transposed (table : QuantTable) (block : Block) (row column : Fin 8) :
    samples table.transposed block.transposed row column = samples table block column row :=
  synthesis_transposed (fun down across => (block down across : ℝ) * table down across) row
    column

/-- The pixels of a block whose samples are repeated over a height and a width. -/
noncomputable def blockTile (table : QuantTable) (tall broad : Nat) (block : Block)
    (row column : Nat) : ℝ :=
  samples table block (Fin.ofNat 8 (row / tall)) (Fin.ofNat 8 (column / broad))

/-- The sample a reversed pixel belongs to. -/
theorem ofNat_within {step position : Nat} (positive : 0 < step) (reversed : Bool)
    (inside : position < dctSize * step) :
    Fin.ofNat 8 (within reversed (dctSize * step) position / step) =
      if reversed then (Fin.ofNat 8 (position / step)).rev else Fin.ofNat 8 (position / step) := by
  cases reversed with
  | false => rfl
  | true =>
      have small : position / step < dctSize := (Nat.div_lt_iff_lt_mul positive).mpr inside
      have coarse := reflect_div positive dctSize position
      rw [reflect_of_lt inside, reflect_of_lt small] at coarse
      apply Fin.ext
      simp only [within, if_true, Fin.val_rev, Fin.val_ofNat, coarse]
      unfold dctSize at small ⊢
      omega

theorem blockTile_turns (transposes : Bool) (table : QuantTable) {tall broad : Nat}
    (high : 0 < tall) (wide : 0 < broad) :
    TilesTurn transposes
      (if transposes then blockTile table broad tall else blockTile table tall broad)
      (blockTile (if transposes then table.transposed else table) tall broad)
      (dctSize * tall) (dctSize * broad) := by
  intro x y block row inRow column inColumn
  have rows := ofNat_within high y inRow
  have columns := ofNat_within wide x inColumn
  cases transposes with
  | false =>
      simp only [Bool.false_eq_true, if_false]
      unfold blockTile
      rw [rows, columns]
      exact samples_mirrored table block x y _ _
  | true =>
      simp only [if_true]
      unfold blockTile
      rw [rows, columns]
      refine (samples_mirrored _ _ x y _ _).trans ?_
      exact samples_transposed table block _ _

namespace Header

variable (header : Header)

/-- How many pixels a sample of a component is repeated over, across and down. -/
def expandX (ci : Nat) : Nat := header.maxHSampFactor / (header.compInfo ci).hSampFactor
def expandY (ci : Nat) : Nat := header.maxVSampFactor / (header.compInfo ci).vSampFactor

/-- The sampling the decoder can expand by repetition: factors that divide the largest. -/
structure Expands : Prop where
  across : ∀ ci < header.numComponents,
    header.expandX ci * (header.compInfo ci).hSampFactor = header.maxHSampFactor
  down : ∀ ci < header.numComponents,
    header.expandY ci * (header.compInfo ci).vSampFactor = header.maxVSampFactor

end Header

/-- The plane of pixels of a component. -/
noncomputable def Image.pixel (image : Image) (ci : Nat) : Plane ℝ :=
  tiled (blockTile (image.quantTable ci) (image.header.expandY ci) (image.header.expandX ci))
    (dctSize * image.header.expandY ci) (dctSize * image.header.expandX ci) (image.block ci)

variable {image result : Image} {transform : Transform} {info : TransformInfo}

/-- The pixels the destination repeats a sample over are those of the source, turned. -/
theorem adjust_expand (image : Image) (transform : Transform) (info : TransformInfo) {ci : Nat}
    (known : ci < image.header.numComponents) :
    (adjustParameters image.header transform info).expandX ci =
        (if transform.transposes then image.header.expandY ci else image.header.expandX ci) ∧
      (adjustParameters image.header transform info).expandY ci =
        (if transform.transposes then image.header.expandX ci else image.header.expandY ci) := by
  unfold Header.expandX Header.expandY
  rw [adjust_maxHSampFactor, adjust_maxVSampFactor, adjust_hSampFactor, adjust_vSampFactor]
  unfold uncropped Header.dimensions
  have sampled := image.sampling_pos known
  by_cases single : image.header.numComponents = 1
  · obtain rfl : ci = 0 := by omega
    have largestH := Header.largest_single Component.hSampFactor single sampled.1
    have largestV := Header.largest_single Component.vSampFactor single sampled.2
    unfold Header.maxHSampFactor Header.maxVSampFactor
    rw [largestH, largestV, Nat.div_self sampled.1, Nat.div_self sampled.2]
    cases transform.transposes <;> simp [single]
  · cases transform.transposes <;> simp [single]

theorem Header.Expands.adjust (expands : image.header.Expands) (transform : Transform)
    (info : TransformInfo) : (adjustParameters image.header transform info).Expands := by
  have both : ∀ ci < image.header.numComponents,
      (adjustParameters image.header transform info).expandX ci *
          ((adjustParameters image.header transform info).compInfo ci).hSampFactor =
        (adjustParameters image.header transform info).maxHSampFactor ∧
      (adjustParameters image.header transform info).expandY ci *
          ((adjustParameters image.header transform info).compInfo ci).vSampFactor =
        (adjustParameters image.header transform info).maxVSampFactor := by
    intro ci known
    have sampled := image.sampling_pos known
    have across := expands.across ci known
    have down := expands.down ci known
    obtain ⟨expandX, expandY⟩ := adjust_expand image transform info known
    rw [expandX, expandY, adjust_maxHSampFactor, adjust_maxVSampFactor, adjust_hSampFactor,
      adjust_vSampFactor]
    unfold uncropped Header.dimensions
    by_cases single : image.header.numComponents = 1
    · obtain rfl : ci = 0 := by omega
      have largestH := Header.largest_single Component.hSampFactor single sampled.1
      have largestV := Header.largest_single Component.vSampFactor single sampled.2
      unfold Header.expandX Header.expandY Header.maxHSampFactor Header.maxVSampFactor
      rw [largestH, largestV, Nat.div_self sampled.1, Nat.div_self sampled.2]
      cases transform.transposes <;> simp [single]
    · cases transform.transposes with
      | false => simpa [single] using ⟨across, down⟩
      | true => simpa [single] using ⟨down, across⟩
  refine ⟨fun ci known => ?_, fun ci known => ?_⟩
  · exact (both ci (by rw [adjust_numComponents] at known; exact known)).1
  · exact (both ci (by rw [adjust_numComponents] at known; exact known)).2

/-- A pixel of a region begun at whole iMCUs lies that many blocks further. -/
theorem block_of_pixel {offset factor step mcu pixel : Nat} (positive : 0 < step)
    (whole : mcu = factor * step) :
    (offset * mcu + pixel) / step = offset * factor + pixel / step ∧
      (offset * mcu + pixel) % step = pixel % step := by
  have regrouped : offset * mcu + pixel = pixel + offset * factor * step := by
    rw [whole, Nat.mul_assoc, Nat.add_comm]
  rw [regrouped, Nat.add_mul_div_right _ _ positive, Nat.add_mul_mod_self_right, Nat.add_comm]
  exact ⟨rfl, rfl⟩

/-- A pixel of the frame lies in a block of the frame. -/
theorem block_in_frame {length factor step mcu pixel : Nat} (positive : 0 < step)
    (some_block : 0 < factor) (whole : mcu = factor * step) (inside : pixel < length) :
    pixel / step < divRoundUp (length * factor) mcu := by
  rw [lt_divRoundUp_iff (whole ▸ Nat.mul_pos some_block positive), whole, Nat.mul_comm factor,
    ← Nat.mul_assoc]
  refine Nat.mul_lt_mul_of_pos_right ?_ some_block
  exact Nat.lt_of_le_of_lt (Nat.div_mul_le_self pixel step) inside

/-- The zone of the picture a transformation may mirror: its full iMCUs, in pixels. -/
def pixelTurn (source : Header) (transform : Transform) (info : TransformInfo) : Turn :=
  transform.turn (fullWidth source.dimensions transform / info.mcuWidth * info.mcuWidth)
    (fullHeight source.dimensions transform / info.mcuHeight * info.mcuHeight)

/-- On the scale of the pixels of a component its blocks turn as the picture. -/
theorem turnOf_scaled {ci across down : Nat}
    (width : info.mcuWidth =
      ((adjustParameters image.header transform info).compInfo ci).hSampFactor * across)
    (height : info.mcuHeight =
      ((adjustParameters image.header transform info).compInfo ci).vSampFactor * down) :
    (turnOf image.header transform info ci).scaled across down =
      pixelTurn image.header transform info := by
  unfold turnOf pixelTurn Transform.turn Turn.scaled
  cases transform.mirrorsX <;> cases transform.mirrorsY <;>
    simp only [Bool.false_eq_true, if_false, if_true, Nat.zero_mul, Nat.mul_assoc, ← width,
      ← height]

/-- Every pixel of the destination is the pixel of the source the turn takes it from. -/
theorem Turned.pixel (turns : Turned transform info image result)
    (inside : Inside image.header.dimensions transform info) (expands : image.header.Expands)
    {ci row column : Nat} (known : ci < image.header.numComponents)
    (inRows : row < result.header.imageHeight) (inColumns : column < result.header.imageWidth) :
    result.pixel ci row column =
      turnedPoints (pixelTurn image.header transform info) (image.pixel ci)
        (info.yCropOffset * info.mcuHeight + row) (info.xCropOffset * info.mcuWidth + column) := by
  have header := turns.header
  have knownHere : ci < result.header.numComponents := by
    rw [header, adjust_numComponents]
    exact known
  have expandsHere : result.header.Expands := header ▸ expands.adjust transform info
  have sampled := result.sampling_pos knownHere
  have across := expandsHere.across ci knownHere
  have down := expandsHere.down ci knownHere
  have wide : 0 < result.header.expandX ci := by
    refine @Nat.pos_of_mul_pos_right _ (result.header.compInfo ci).hSampFactor ?_
    rw [across]
    exact Header.one_le_largest _
  have high : 0 < result.header.expandY ci := by
    refine @Nat.pos_of_mul_pos_right _ (result.header.compInfo ci).vSampFactor ?_
    rw [down]
    exact Header.one_le_largest _
  have mcuWidth : info.mcuWidth =
      (result.header.compInfo ci).hSampFactor * (dctSize * result.header.expandX ci) := by
    rw [← mcuWidth_eq inside, ← header, ← across]
    ring
  have mcuHeight : info.mcuHeight =
      (result.header.compInfo ci).vSampFactor * (dctSize * result.header.expandY ci) := by
    rw [← mcuHeight_eq inside, ← header, ← down]
    ring
  have stepX : 0 < dctSize * result.header.expandX ci := Nat.mul_pos (by decide) wide
  have stepY : 0 < dctSize * result.header.expandY ci := Nat.mul_pos (by decide) high
  have blockRow : row / (dctSize * result.header.expandY ci) <
      result.header.heightInBlocks ci := by
    have found := block_in_frame stepY sampled.2 mcuHeight inRows
    rw [← mcuHeight_eq inside, ← header] at found
    exact found
  have blockColumn : column / (dctSize * result.header.expandX ci) <
      result.header.widthInBlocks ci := by
    have found := block_in_frame stepX sampled.1 mcuWidth inColumns
    rw [← mcuWidth_eq inside, ← header] at found
    exact found
  obtain ⟨rowBlock, rowInside⟩ := @block_of_pixel info.yCropOffset _ _ _ row stepY mcuHeight
  obtain ⟨columnBlock, columnInside⟩ :=
    @block_of_pixel info.xCropOffset _ _ _ column stepX mcuWidth
  obtain ⟨expandX, expandY⟩ := adjust_expand image transform info known
  rw [← header] at expandX expandY
  have tiles := blockTile_turns transform.transposes (image.quantTable ci) high wide
  calc result.pixel ci row column
      = tiled (blockTile (result.quantTable ci) (result.header.expandY ci)
            (result.header.expandX ci)) (dctSize * result.header.expandY ci)
          (dctSize * result.header.expandX ci)
          (turned (turnOf image.header transform info ci) (image.block ci))
          (info.yCropOffset * info.mcuHeight + row)
          (info.xCropOffset * info.mcuWidth + column) := by
        unfold Image.pixel tiled
        rw [rowBlock, rowInside, columnBlock, columnInside,
          turns.block ci known _ blockRow _ blockColumn]
    _ = _ := by
        rw [turns.quantTable ci known]
        refine (tiled_turned stepY stepX tiles _ _ _).trans ?_
        rw [turnOf_scaled (header ▸ mcuWidth) (header ▸ mcuHeight)]
        unfold Image.pixel
        have same : (turnOf image.header transform info ci).transposes = transform.transposes :=
          rfl
        rw [same]
        cases transposes : transform.transposes with
        | false =>
            rw [transposes] at expandX expandY
            simp only [Bool.false_eq_true, if_false] at expandX expandY ⊢
            rw [expandX, expandY]
        | true =>
            rw [transposes] at expandX expandY
            simp only [if_true] at expandX expandY ⊢
            rw [expandX, expandY]

end RPhoto.Lossless
