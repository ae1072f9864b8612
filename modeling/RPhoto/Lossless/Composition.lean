import RPhoto.Lossless.JpegtranPlaces

/-!
# Transformations one after the other

Without cropping and trimming the transformations compose like the symmetries of a
square, on every image and with its partial edge iMCUs: the routines that combine a
mirroring with a transposition place the edge blocks as the two steps would, and a
transformation followed by its inverse restores every coefficient, whatever a decoder
finds in the blocks outside the frame of the file written in between.
-/

namespace RPhoto.Lossless

open RPhoto.Library

namespace Transform

/-- The transformation that transposes or not and then mirrors along the axes. -/
def ofFlags : Bool → Bool → Bool → Transform
  | false, false, false => none
  | false, true, false => flipH
  | false, false, true => flipV
  | false, true, true => rot180
  | true, false, false => transpose
  | true, true, false => rot90
  | true, false, true => rot270
  | true, true, true => transverse

/-- The transformation that does one and then another. -/
def andThen (first second : Transform) : Transform :=
  ofFlags (first.transposes != second.transposes)
    ((if second.transposes then first.mirrorsY else first.mirrorsX) != second.mirrorsX)
    ((if second.transposes then first.mirrorsX else first.mirrorsY) != second.mirrorsY)

theorem transposes_ofFlags (t x y : Bool) : (ofFlags t x y).transposes = t := by
  cases t <;> cases x <;> cases y <;> rfl

theorem mirrorsX_ofFlags (t x y : Bool) : (ofFlags t x y).mirrorsX = x := by
  cases t <;> cases x <;> cases y <;> rfl

theorem mirrorsY_ofFlags (t x y : Bool) : (ofFlags t x y).mirrorsY = y := by
  cases t <;> cases x <;> cases y <;> rfl

/-- A quarter turn is a transposition and a horizontal flip. -/
example : transpose.andThen flipH = rot90 := rfl

/-- Turning right and then left changes nothing. -/
example : rot90.andThen rot270 = none := rfl

end Transform

/-- The option of a transformation alone. -/
def TransformOption.only (transform : Transform) : TransformOption :=
  ⟨transform, false, false, none⟩

/-- One axis of a component: the image's length, the iMCU along it and the blocks in one. -/
structure Axis where
  length : Nat
  mcu : Nat
  factor : Nat

namespace Axis

/-- The blocks of the full iMCUs. -/
def zone (axis : Axis) : Nat := axis.length / axis.mcu * axis.factor

/-- The blocks of the component along the axis. -/
def blocks (axis : Axis) : Nat := divRoundUp (axis.length * axis.factor) axis.mcu

theorem zone_le_blocks {axis : Axis} (positive : 0 < axis.mcu) : axis.zone ≤ axis.blocks := by
  unfold zone blocks
  have whole := divRoundUp_mul positive (axis.length / axis.mcu * axis.factor)
  rw [← whole, Nat.mul_right_comm]
  exact divRoundUp_mono positive (Nat.mul_le_mul_right _ (Nat.div_mul_le_self _ _))

end Axis

namespace Header

variable (header : Header)

/-- The axes of a component, a single component being counted in single blocks. -/
def axisX (ci : Nat) : Axis :=
  ⟨header.imageWidth, (if header.numComponents = 1 then 1 else header.maxHSampFactor) * dctSize,
    if header.numComponents = 1 then 1 else (header.compInfo ci).hSampFactor⟩

def axisY (ci : Nat) : Axis :=
  ⟨header.imageHeight,
    (if header.numComponents = 1 then 1 else header.maxVSampFactor) * dctSize,
    if header.numComponents = 1 then 1 else (header.compInfo ci).vSampFactor⟩

theorem axis_pos (ci : Nat) : 0 < (header.axisX ci).mcu ∧ 0 < (header.axisY ci).mcu := by
  unfold axisX axisY
  constructor
  · exact Nat.mul_pos (by split; exacts [Nat.one_pos, one_le_largest _]) (by decide)
  · exact Nat.mul_pos (by split; exacts [Nat.one_pos, one_le_largest _]) (by decide)

/-- The header of the destination of a transformation alone. -/
def after (transform : Transform) : Header :=
  adjustParameters header transform (uncropped header.dimensions transform)

variable {header}

/-- A transposition exchanges the axes. -/
theorem axisX_after (transform : Transform) (ci : Nat) :
    (header.after transform).axisX ci =
      if transform.transposes then header.axisY ci else header.axisX ci := by
  unfold after axisX axisY
  rw [adjust_numComponents, adjust_imageWidth, adjust_maxHSampFactor, adjust_hSampFactor]
  unfold uncropped dimensions
  by_cases single : header.numComponents = 1
  · cases transform.transposes <;> simp [single]
  · cases transform.transposes <;> simp [single]

theorem axisY_after (transform : Transform) (ci : Nat) :
    (header.after transform).axisY ci =
      if transform.transposes then header.axisX ci else header.axisY ci := by
  unfold after axisX axisY
  rw [adjust_numComponents, adjust_imageHeight, adjust_maxVSampFactor, adjust_vSampFactor]
  unfold uncropped dimensions
  by_cases single : header.numComponents = 1
  · cases transform.transposes <;> simp [single]
  · cases transform.transposes <;> simp [single]

/-- After any transformation the frame in blocks is that of the axes. -/
theorem widthInBlocks_after (transform : Transform) (ci : Nat) :
    (header.after transform).widthInBlocks ci = ((header.after transform).axisX ci).blocks := by
  unfold widthInBlocks axisX Axis.blocks after
  dsimp only
  rw [adjust_numComponents, adjust_maxHSampFactor, adjust_hSampFactor]
  by_cases single : header.numComponents = 1
  · unfold uncropped dimensions
    cases transform.transposes <;> simp [single]
  · simp [single]

theorem heightInBlocks_after (transform : Transform) (ci : Nat) :
    (header.after transform).heightInBlocks ci =
      ((header.after transform).axisY ci).blocks := by
  unfold heightInBlocks axisY Axis.blocks after
  dsimp only
  rw [adjust_numComponents, adjust_maxVSampFactor, adjust_vSampFactor]
  by_cases single : header.numComponents = 1
  · unfold uncropped dimensions
    cases transform.transposes <;> simp [single]
  · simp [single]

/-- The turn of a transformation alone mirrors the zones of the destination's axes. -/
theorem turnOf_after (transform : Transform) (ci : Nat) :
    turnOf header transform (uncropped header.dimensions transform) ci =
      transform.turn ((header.after transform).axisX ci).zone
        ((header.after transform).axisY ci).zone := by
  unfold turnOf Axis.zone axisX axisY after fullWidth fullHeight TransformInfo.mcuWidth
    TransformInfo.mcuHeight
  dsimp only
  rw [adjust_numComponents, adjust_imageWidth, adjust_imageHeight, adjust_maxHSampFactor,
    adjust_maxVSampFactor, adjust_hSampFactor, adjust_vSampFactor]
  by_cases single : header.numComponents = 1
  · unfold uncropped dimensions
    cases transform.transposes <;> simp [single]
  · simp [single]

theorem componentId_after (transform : Transform) (ci : Nat) :
    ((header.after transform).compInfo ci).componentId = (header.compInfo ci).componentId := by
  unfold after adjustParameters normalizeSampling
  cases transform.transposes <;> by_cases single : header.numComponents = 1 <;>
    simp [single, transposeCriticalParameters]

theorem imageWidth_after (transform : Transform) :
    (header.after transform).imageWidth =
      if transform.transposes then header.imageHeight else header.imageWidth := by
  unfold after
  rw [adjust_imageWidth]
  unfold uncropped dimensions
  cases transform.transposes <;> rfl

theorem imageHeight_after (transform : Transform) :
    (header.after transform).imageHeight =
      if transform.transposes then header.imageWidth else header.imageHeight := by
  unfold after
  rw [adjust_imageHeight]
  unfold uncropped dimensions
  cases transform.transposes <;> rfl

/-- The headers of two transformations are that of the composed one. -/
theorem after_after (first second : Transform) :
    (header.after first).after second = header.after (first.andThen second) := by
  have transposes : (first.andThen second).transposes =
      (first.transposes != second.transposes) := Transform.transposes_ofFlags _ _ _
  have count : ∀ transform, (header.after transform).numComponents = header.numComponents :=
    fun transform => adjust_numComponents _ _ _
  refine Header.ext ?_ ?_ ?_ ?_ ?_
  · simp only [imageWidth_after, imageHeight_after, transposes]
    cases first.transposes <;> cases second.transposes <;> rfl
  · simp only [imageWidth_after, imageHeight_after, transposes]
    cases first.transposes <;> cases second.transposes <;> rfl
  · unfold after
    simp only [adjust_numComponents]
  · funext ci
    refine Component.ext ?_ ?_ ?_ ?_
    · simp only [componentId_after]
    · unfold after
      simp only [adjust_hSampFactor, adjust_vSampFactor, adjust_numComponents, transposes]
      by_cases single : header.numComponents = 1
      · simp [single]
      · cases first.transposes <;> cases second.transposes <;> simp [single]
    · unfold after
      simp only [adjust_hSampFactor, adjust_vSampFactor, adjust_numComponents, transposes]
      by_cases single : header.numComponents = 1
      · simp [single]
      · cases first.transposes <;> cases second.transposes <;> simp [single]
    · unfold after
      simp only [adjust_quantTblNo]
  · funext slot
    unfold after
    simp only [adjust_quantTblPtrs, Option.map_map, transposes]
    cases header.quantTblPtrs slot with
    | none => rfl
    | some table => cases first.transposes <;> cases second.transposes <;> rfl

end Header

/-- The same picture: what a decoder reads within the frame. -/
structure SamePicture (first second : Image) : Prop where
  header : first.header = second.header
  quantTable : ∀ ci < first.header.numComponents, first.quantTable ci = second.quantTable ci
  block : ∀ ci < first.header.numComponents, ∀ row < first.header.heightInBlocks ci,
    ∀ column < first.header.widthInBlocks ci,
      first.block ci row column = second.block ci row column

theorem SamePicture.symm {first second : Image} (same : SamePicture first second) :
    SamePicture second first where
  header := same.header.symm
  quantTable := fun ci known => (same.quantTable ci (same.header ▸ known)).symm
  block := fun ci known row inRows column inColumns =>
    (same.block ci (same.header ▸ known) row (same.header ▸ inRows) column
      (same.header ▸ inColumns)).symm

theorem SamePicture.trans {first second third : Image} (same : SamePicture first second)
    (also : SamePicture second third) : SamePicture first third where
  header := same.header.trans also.header
  quantTable := fun ci known =>
    (same.quantTable ci known).trans (also.quantTable ci (same.header ▸ known))
  block := fun ci known row inRows column inColumns =>
    (same.block ci known row inRows column inColumns).trans
      (also.block ci (same.header ▸ known) row (same.header ▸ inRows) column
        (same.header ▸ inColumns))

/-- Two destinations of the same transformation show the same picture. -/
theorem Turned.same {transform : Transform} {info : TransformInfo} {source first second : Image}
    (turns : Turned transform info source first) (also : Turned transform info source second) :
    SamePicture first second := by
  have header : first.header = second.header := turns.header.trans also.header.symm
  have known : ∀ ci < first.header.numComponents, ci < source.header.numComponents := by
    intro ci counted
    rw [turns.header, adjust_numComponents] at counted
    exact counted
  refine ⟨header, fun ci counted => ?_, fun ci counted row inRows column inColumns => ?_⟩
  · rw [turns.quantTable ci (known ci counted), also.quantTable ci (known ci counted)]
  · rw [turns.block ci (known ci counted) row inRows column inColumns,
      also.block ci (known ci counted) row (header ▸ inRows) column (header ▸ inColumns), header]

/-- Zones of the same length along an axis merge into one or cancel. -/
theorem merge_zones (first second : Bool) (zone : Nat) :
    Turn.merge (if first then zone else 0) (if second then zone else 0) =
      if first != second then zone else 0 := by
  unfold Turn.merge
  by_cases empty : zone = 0
  · cases first <;> cases second <;> simp [empty]
  · cases first <;> cases second <;> simp [empty]

theorem matching_zones (first second : Bool) (zone : Nat) :
    Turn.Matching (if first then zone else 0) (if second then zone else 0) := by
  unfold Turn.Matching
  cases first <;> cases second <;> simp

section Steps

variable {header : Header}

/-- The turns of two transformations compose to that of the composed one. -/
theorem turns_andThen (first second : Transform) (ci : Nat) :
    let one := turnOf header first (uncropped header.dimensions first) ci
    let other := turnOf (header.after first) second
      (uncropped (header.after first).dimensions second) ci
    Turn.Compatible one other ∧
      one.andThen other =
        turnOf header (first.andThen second)
          (uncropped header.dimensions (first.andThen second)) ci := by
  have columns : ((header.after (first.andThen second)).axisX ci).zone =
      if second.transposes then ((header.after first).axisY ci).zone
      else ((header.after first).axisX ci).zone := by
    rw [← Header.after_after, Header.axisX_after]
    cases second.transposes <;> rfl
  have rows : ((header.after (first.andThen second)).axisY ci).zone =
      if second.transposes then ((header.after first).axisX ci).zone
      else ((header.after first).axisY ci).zone := by
    rw [← Header.after_after, Header.axisY_after]
    cases second.transposes <;> rfl
  have otherColumns : (((header.after first).after second).axisX ci).zone =
      ((header.after (first.andThen second)).axisX ci).zone := by rw [Header.after_after]
  have otherRows : (((header.after first).after second).axisY ci).zone =
      ((header.after (first.andThen second)).axisY ci).zone := by rw [Header.after_after]
  have transposes : (first.andThen second).transposes =
      (first.transposes != second.transposes) := Transform.transposes_ofFlags _ _ _
  have mirrorsX : (first.andThen second).mirrorsX =
      ((if second.transposes then first.mirrorsY else first.mirrorsX) != second.mirrorsX) :=
    Transform.mirrorsX_ofFlags _ _ _
  have mirrorsY : (first.andThen second).mirrorsY =
      ((if second.transposes then first.mirrorsX else first.mirrorsY) != second.mirrorsY) :=
    Transform.mirrorsY_ofFlags _ _ _
  intro one other
  have oneIs : one = first.turn ((header.after first).axisX ci).zone
      ((header.after first).axisY ci).zone := Header.turnOf_after first ci
  have otherIs : other = second.turn ((header.after (first.andThen second)).axisX ci).zone
      ((header.after (first.andThen second)).axisY ci).zone := by
    rw [← otherColumns, ← otherRows]
    exact Header.turnOf_after second ci
  rw [oneIs, otherIs, Header.turnOf_after, columns, rows]
  unfold Transform.turn
  rw [mirrorsX, mirrorsY, transposes]
  constructor
  · constructor
    · unfold Turn.columnsBefore
      cases second.transposes <;> exact matching_zones _ _ _
    · unfold Turn.rowsBefore
      cases second.transposes <;> exact matching_zones _ _ _
  · unfold Turn.andThen Turn.columnsBefore Turn.rowsBefore
    cases second.transposes <;>
      simp only [Bool.false_eq_true, if_false, if_true, merge_zones]

end Steps

variable {image first : Image} {memory : Nat → Plane Block}

/-- A transformation alone is refused only for its tables. -/
theorem accepts_only (tables : copiesCriticalParameters image) (transform : Transform) :
    Accepts image (.only transform) (uncropped image.header.dimensions transform) := by
  refine ⟨fun fails => ?_, rfl, tables⟩
  exact Bool.false_ne_true fails.1

/-- Inside the frame of a transformation alone a reflected place stays inside it. -/
theorem reflected_in_frame {header : Header} {transform : Transform} {ci row column : Nat}
    (inRows : row < (header.after transform).heightInBlocks ci)
    (inColumns : column < (header.after transform).widthInBlocks ci) :
    let turn := turnOf header transform (uncropped header.dimensions transform) ci
    reflect turn.columns column < (header.after transform).widthInBlocks ci ∧
      reflect turn.rows row < (header.after transform).heightInBlocks ci := by
  intro turn
  have turnIs : turn = transform.turn ((header.after transform).axisX ci).zone
      ((header.after transform).axisY ci).zone := Header.turnOf_after transform ci
  have positive := (header.after transform).axis_pos ci
  rw [Header.widthInBlocks_after] at inColumns ⊢
  rw [Header.heightInBlocks_after] at inRows ⊢
  rw [turnIs]
  unfold Transform.turn
  constructor
  · refine reflect_lt ?_ inColumns
    dsimp only
    split
    · exact Axis.zone_le_blocks positive.1
    · exact Nat.zero_le _
  · refine reflect_lt ?_ inRows
    dsimp only
    split
    · exact Axis.zone_le_blocks positive.2
    · exact Nat.zero_le _

/-- What a transformation alone writes into the frame. -/
theorem block_only {transform : Transform} {result : Image}
    (turns : Turned transform (uncropped image.header.dimensions transform) image result)
    {ci row column : Nat} (known : ci < image.header.numComponents)
    (inRows : row < (image.header.after transform).heightInBlocks ci)
    (inColumns : column < (image.header.after transform).widthInBlocks ci) :
    result.block ci row column =
      turned (turnOf image.header transform (uncropped image.header.dimensions transform) ci)
        (image.block ci) row column := by
  have header : result.header = image.header.after transform := turns.header
  have here := turns.block ci known row (header ▸ inRows) column (header ▸ inColumns)
  have offset : (uncropped image.header.dimensions transform).xCropOffset = 0 ∧
      (uncropped image.header.dimensions transform).yCropOffset = 0 := by
    unfold uncropped
    cases transform.transposes <;> exact ⟨rfl, rfl⟩
  rw [offset.1, offset.2, Nat.zero_mul, Nat.zero_mul, Nat.zero_add, Nat.zero_add] at here
  exact here

/-- The file written by a transformation can be transformed again. -/
theorem SamePicture.tables {transform : Transform} {result reread : Image}
    (tables : copiesCriticalParameters image)
    (turns : Turned transform (uncropped image.header.dimensions transform) image result)
    (same : SamePicture result reread) : copiesCriticalParameters reread := by
  intro ci known
  have header : result.header = image.header.after transform := turns.header
  have count : result.header.numComponents = image.header.numComponents := by
    rw [header]
    exact adjust_numComponents _ _ _
  rw [← same.header] at known ⊢
  rw [← same.quantTable ci known]
  rw [count] at known
  rw [turns.quantTable ci known, header]
  unfold Header.after
  rw [adjust_slotQuant, tables ci known]
  rfl

/-- A transformation alone is carried out on every image whose tables can be copied. -/
theorem turns_only (tables : copiesCriticalParameters image) (transform : Transform)
    (memory : Nat → Plane Block) :
    ∃ result, jtransform (.only transform) memory image = some result ∧
      Turned transform (uncropped image.header.dimensions transform) image result :=
  (accepts_only tables transform).turns memory

/-- A transposition exchanges the sides of the frame. -/
theorem frame_after (header : Header) (earlier later : Transform) (ci : Nat) :
    (((header.after earlier).after later).heightInBlocks ci =
        if later.transposes then (header.after earlier).widthInBlocks ci
        else (header.after earlier).heightInBlocks ci) ∧
      (((header.after earlier).after later).widthInBlocks ci =
        if later.transposes then (header.after earlier).heightInBlocks ci
        else (header.after earlier).widthInBlocks ci) := by
  rw [@Header.heightInBlocks_after (header.after earlier), @Header.widthInBlocks_after
    (header.after earlier), @Header.axisX_after (header.after earlier),
    @Header.axisY_after (header.after earlier), @Header.heightInBlocks_after header,
    @Header.widthInBlocks_after header]
  cases later.transposes <;> exact ⟨rfl, rfl⟩

/-- Blocks known within the frame of the first step are all the second step takes. -/
theorem turned_within_frame {header : Header} {earlier later : Transform} {ci row column : Nat}
    {plane other : Plane Block}
    (same : ∀ row < (header.after earlier).heightInBlocks ci,
      ∀ column < (header.after earlier).widthInBlocks ci, plane row column = other row column)
    (inRows : row < ((header.after earlier).after later).heightInBlocks ci)
    (inColumns : column < ((header.after earlier).after later).widthInBlocks ci) :
    let turn := turnOf (header.after earlier) later
      (uncropped (header.after earlier).dimensions later) ci
    turned turn plane row column = turned turn other row column := by
  intro turn
  obtain ⟨insideColumns, insideRows⟩ := reflected_in_frame inRows inColumns
  obtain ⟨height, width⟩ := frame_after header earlier later ci
  refine turned_congr ?_
  have transposes : turn.transposes = later.transposes := rfl
  rw [transposes]
  cases kind : later.transposes with
  | false =>
      simp only [kind, Bool.false_eq_true, if_false] at height width
      exact same _ (height ▸ insideRows) _ (width ▸ insideColumns)
  | true =>
      simp only [kind, if_true] at height width
      exact same _ (width ▸ insideColumns) _ (height ▸ insideRows)

/-- Two steps give the picture of the composed transformation. -/
theorem composed_picture {earlier later : Transform} {first reread second direct : Image}
    (turns : Turned earlier (uncropped image.header.dimensions earlier) image first)
    (same : SamePicture first reread)
    (turnsAgain : Turned later (uncropped reread.header.dimensions later) reread second)
    (turnsDirect : Turned (earlier.andThen later)
      (uncropped image.header.dimensions (earlier.andThen later)) image direct) :
    SamePicture second direct := by
  have firstHeader : first.header = image.header.after earlier := turns.header
  have rereadHeader : reread.header = image.header.after earlier :=
    same.header.symm.trans firstHeader
  have secondHeader : second.header = (image.header.after earlier).after later :=
    rereadHeader ▸ turnsAgain.header
  have directHeader : direct.header = image.header.after (earlier.andThen later) :=
    turnsDirect.header
  have counted : ∀ ci, ci < second.header.numComponents →
      ci < image.header.numComponents ∧ ci < first.header.numComponents ∧
        ci < reread.header.numComponents := by
    intro ci known
    rw [secondHeader] at known
    unfold Header.after at known
    rw [adjust_numComponents, adjust_numComponents] at known
    rw [rereadHeader, firstHeader]
    unfold Header.after
    rw [adjust_numComponents]
    exact ⟨known, known, known⟩
  refine ⟨?_, fun ci some_component => ?_, fun ci some_component row inRows column inColumns => ?_⟩
  · rw [secondHeader, directHeader, Header.after_after]
  · obtain ⟨known, knownFirst, knownReread⟩ := counted ci some_component
    have transposes : (earlier.andThen later).transposes =
        (earlier.transposes != later.transposes) := Transform.transposes_ofFlags _ _ _
    rw [turnsAgain.quantTable ci knownReread, ← same.quantTable ci knownFirst,
      turns.quantTable ci known, turnsDirect.quantTable ci known, transposes]
    cases earlier.transposes <;> cases later.transposes <;> rfl
  · obtain ⟨known, knownFirst, knownReread⟩ := counted ci some_component
    rw [secondHeader] at inRows inColumns
    obtain ⟨compatible, composed⟩ := @turns_andThen image.header earlier later ci
    have written : ∀ row < (image.header.after earlier).heightInBlocks ci,
        ∀ column < (image.header.after earlier).widthInBlocks ci,
        reread.block ci row column =
          turned (turnOf image.header earlier (uncropped image.header.dimensions earlier) ci)
            (image.block ci) row column := by
      intro row inRows column inColumns
      rw [← same.block ci knownFirst row (firstHeader ▸ inRows) column (firstHeader ▸ inColumns)]
      exact block_only turns known inRows inColumns
    calc second.block ci row column
        = turned (turnOf (image.header.after earlier) later
            (uncropped (image.header.after earlier).dimensions later) ci)
            (reread.block ci) row column := by
          rw [block_only turnsAgain knownReread (rereadHeader ▸ inRows)
            (rereadHeader ▸ inColumns), rereadHeader]
      _ = turned (turnOf (image.header.after earlier) later
            (uncropped (image.header.after earlier).dimensions later) ci)
            (turned (turnOf image.header earlier
              (uncropped image.header.dimensions earlier) ci) (image.block ci)) row column :=
          turned_within_frame written inRows inColumns
      _ = turned (turnOf image.header (earlier.andThen later)
            (uncropped image.header.dimensions (earlier.andThen later)) ci)
            (image.block ci) row column := by
          rw [turned_turned compatible, composed]
      _ = direct.block ci row column :=
          (block_only turnsDirect known (Header.after_after earlier later ▸ inRows)
            (Header.after_after earlier later ▸ inColumns)).symm

/--
Two transformations, the second of the file the first has written, give the picture of
the composed transformation.
-/
theorem transformations_compose (tables : copiesCriticalParameters image)
    (earlier later : Transform) (memory : Nat → Plane Block) :
    ∃ first, jtransform (.only earlier) memory image = some first ∧
      ∀ reread, SamePicture first reread →
        ∃ second direct, jtransform (.only later) memory reread = some second ∧
          jtransform (.only (earlier.andThen later)) memory image = some direct ∧
          SamePicture second direct := by
  obtain ⟨first, ran, turns⟩ := turns_only tables earlier memory
  refine ⟨first, ran, fun reread same => ?_⟩
  obtain ⟨second, ranAgain, turnsAgain⟩ :=
    turns_only (same.tables tables turns) later memory
  obtain ⟨direct, ranDirect, turnsDirect⟩ :=
    turns_only tables (earlier.andThen later) memory
  exact ⟨second, direct, ranAgain, ranDirect, composed_picture turns same turnsAgain turnsDirect⟩

theorem transformations_compose_sample :
    ∃ first, jtransform (.only .rot90) (fun _ _ _ _ _ => 9) sampleImage = some first ∧
      ∀ reread, SamePicture first reread →
        ∃ second direct,
          jtransform (.only .rot270) (fun _ _ _ _ _ => 9) reread = some second ∧
          jtransform (.only (Transform.rot90.andThen .rot270)) (fun _ _ _ _ _ => 9) sampleImage =
            some direct ∧
          SamePicture second direct :=
  transformations_compose (by decide +kernel) .rot90 .rot270 fun _ _ _ _ _ => 9

end RPhoto.Lossless
