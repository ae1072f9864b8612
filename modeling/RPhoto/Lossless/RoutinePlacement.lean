import RPhoto.Lossless.RoutineLoops

/-!
# Where the routines place the blocks

Every routine turns the plane of source blocks: it transposes it or not, reflects the
full iMCU columns and rows it mirrors, and starts at the crop offset.  The half turn
and the transverse transposition mirror both zones; the other routines of their
families are the cases where a zone is empty.  A source array that covers the crop
region and the mirrored zones is never read outside its bounds.
-/

namespace RPhoto.Lossless

open RPhoto.Library

/-- `do_rot_180` for any mirrored zones. -/
def straightZones (setting : Setting) (compWidth compHeight : Nat)
    (source destination : VirtualArray) : Option VirtualArray :=
  straightRoutine setting
    (fun dstBlkY =>
      if setting.yCropBlocks + dstBlkY < compHeight then
        jdimensionSub (jdimensionSub (jdimensionSub compHeight setting.yCropBlocks) dstBlkY)
          setting.vSampFactor
      else dstBlkY + setting.yCropBlocks)
    (fun dstBlkY offsetY dstBlkX =>
      if setting.yCropBlocks + dstBlkY < compHeight then
        if setting.xCropBlocks + dstBlkX < compWidth then
          ⟨setting.vSampFactor - offsetY - 1,
            jdimensionSub (jdimensionSub (jdimensionSub compWidth setting.xCropBlocks) dstBlkX)
              1,
            Block.negateAlternately⟩
        else
          ⟨setting.vSampFactor - offsetY - 1, setting.xCropBlocks + dstBlkX,
            Block.negateOddRows⟩
      else if setting.xCropBlocks + dstBlkX < compWidth then
        ⟨offsetY,
          jdimensionSub (jdimensionSub (jdimensionSub compWidth setting.xCropBlocks) dstBlkX) 1,
          Block.negateOddColumns⟩
      else ⟨offsetY, dstBlkX + setting.xCropBlocks, id⟩) source destination

/-- `do_transverse` for any mirrored zones. -/
def transposingZones (setting : Setting) (compWidth compHeight : Nat)
    (source destination : VirtualArray) : Option VirtualArray :=
  transposingRoutine setting
    (fun dstBlkX =>
      if setting.xCropBlocks + dstBlkX < compWidth then
        jdimensionSub (jdimensionSub (jdimensionSub compWidth setting.xCropBlocks) dstBlkX)
          setting.hSampFactor
      else dstBlkX + setting.xCropBlocks)
    (fun dstBlkY offsetY dstBlkX offsetX =>
      if setting.yCropBlocks + dstBlkY < compHeight then
        if setting.xCropBlocks + dstBlkX < compWidth then
          ⟨setting.hSampFactor - offsetX - 1,
            jdimensionSub (jdimensionSub (jdimensionSub (jdimensionSub compHeight
              setting.yCropBlocks) dstBlkY) offsetY) 1,
            fun block => block.transposed.negateAlternately⟩
        else
          ⟨offsetX,
            jdimensionSub (jdimensionSub (jdimensionSub (jdimensionSub compHeight
              setting.yCropBlocks) dstBlkY) offsetY) 1,
            fun block => block.transposed.negateOddRows⟩
      else if setting.xCropBlocks + dstBlkX < compWidth then
        ⟨setting.hSampFactor - offsetX - 1, dstBlkY + offsetY + setting.yCropBlocks,
          fun block => block.transposed.negateOddColumns⟩
      else ⟨offsetX, dstBlkY + offsetY + setting.yCropBlocks, Block.transposed⟩)
    source destination

section Members

variable (setting : Setting)

theorem doCrop_eq : doCrop setting = straightZones setting 0 0 := by
  funext source destination
  simp [doCrop, straightZones, Nat.add_comm]

theorem doFlipH_eq :
    doFlipH setting =
      straightZones setting (setting.mcuCols setting.imageWidth * setting.hSampFactor) 0 := by
  funext source destination
  simp [doFlipH, straightZones]

theorem doFlipV_eq :
    doFlipV setting =
      straightZones setting 0 (setting.mcuRows setting.imageHeight * setting.vSampFactor) := by
  funext source destination
  simp [doFlipV, straightZones, Nat.add_comm]

theorem doRot180_eq :
    doRot180 setting =
      straightZones setting (setting.mcuCols setting.imageWidth * setting.hSampFactor)
        (setting.mcuRows setting.imageHeight * setting.vSampFactor) := rfl

theorem doTranspose_eq : doTranspose setting = transposingZones setting 0 0 := by
  funext source destination
  simp [doTranspose, transposingZones]

theorem doRot90_eq :
    doRot90 setting =
      transposingZones setting (setting.mcuCols setting.imageHeight * setting.hSampFactor)
        0 := by
  funext source destination
  simp [doRot90, transposingZones]

theorem doRot270_eq :
    doRot270 setting =
      transposingZones setting 0
        (setting.mcuRows setting.imageWidth * setting.vSampFactor) := by
  funext source destination
  simp [doRot270, transposingZones]

theorem doTransverse_eq :
    doTransverse setting =
      transposingZones setting (setting.mcuCols setting.imageHeight * setting.hSampFactor)
        (setting.mcuRows setting.imageWidth * setting.vSampFactor) := rfl

end Members

/-- Three wrapping differences that do not wrap. -/
theorem jdimensionSub_three {total first second third : Nat}
    (enough : first + second + third ≤ total) (bounded : total < 2 ^ 32) :
    jdimensionSub (jdimensionSub (jdimensionSub total first) second) third =
      total - first - second - third := by
  have one : jdimensionSub total first = total - first :=
    jdimensionSub_of_le (by omega) bounded
  have two : jdimensionSub (total - first) second = total - first - second :=
    jdimensionSub_of_le (by omega) (by omega)
  rw [one, two, jdimensionSub_of_le (by omega) (by omega)]

theorem jdimensionSub_four {total first second third fourth : Nat}
    (enough : first + second + third + fourth ≤ total) (bounded : total < 2 ^ 32) :
    jdimensionSub (jdimensionSub (jdimensionSub (jdimensionSub total first) second) third)
      fourth = total - first - second - third - fourth := by
  rw [jdimensionSub_three (by omega) bounded, jdimensionSub_of_le (by omega) (by omega)]

/-- Along an axis gone through group by group: the rows granted for a group. -/
inductive GroupSource (crop zone step place start : Nat) : Prop where
  | mirrored (within : crop + place < zone) (room : start + step ≤ zone)
      (reflected : ∀ offset < step, crop + (place + offset) < zone ∧
        start + (step - offset - 1) = reflect zone (crop + (place + offset)))
  | copied (beyond : ¬crop + place < zone) (same : start = place + crop)
      (kept : ∀ offset, ¬crop + (place + offset) < zone ∧
        reflect zone (crop + (place + offset)) = start + offset)

/-- A group of places lies inside the zone of whole groups or outside it. -/
theorem groupSource {crop zone step place skipped count group : Nat}
    (cropWhole : crop = skipped * step) (zoneWhole : zone = count * step)
    (placeWhole : place = group * step) (bounded : zone < 2 ^ 32) :
    GroupSource crop zone step place
      (if crop + place < zone then
        jdimensionSub (jdimensionSub (jdimensionSub zone crop) place) step
      else place + crop) := by
  by_cases within : crop + place < zone
  · have whole : crop + place + step ≤ zone := by
      rw [cropWhole, zoneWhole, placeWhole, ← Nat.add_mul] at within
      rw [cropWhole, zoneWhole, placeWhole, ← Nat.add_mul, ← Nat.add_one_mul]
      exact Nat.mul_le_mul_right step (Nat.lt_of_mul_lt_mul_right within)
    rw [if_pos within, jdimensionSub_three whole bounded]
    refine .mirrored within (by omega) fun offset inGroup => ?_
    have inside : crop + (place + offset) < zone := by omega
    refine ⟨inside, ?_⟩
    rw [reflect_of_lt inside]
    omega
  · rw [if_neg within]
    refine .copied within rfl fun offset => ⟨by omega, ?_⟩
    rw [reflect_of_le (by omega)]
    omega

/-- Along an axis gone through place by place. -/
theorem placeSource {crop zone place : Nat} (within : crop + place < zone)
    (bounded : zone < 2 ^ 32) :
    jdimensionSub (jdimensionSub (jdimensionSub zone crop) place) 1 =
      reflect zone (crop + place) := by
  rw [jdimensionSub_three (by omega) bounded, reflect_of_lt within]
  omega

theorem group_room {group limit step : Nat} (below : group < divRoundUp limit step) :
    group * step + step ≤ divRoundUp limit step * step := by
  rw [← Nat.add_one_mul]
  exact Nat.mul_le_mul_right step below

/-- The plane of source blocks, turned and begun at the crop offset. -/
def placed (setting : Setting) (turn : Turn) (source : VirtualArray) : Nat × Nat → Block :=
  fun place => turned turn source.block (setting.yCropBlocks + place.1)
    (setting.xCropBlocks + place.2)

/-- The source of a straight routine covers the crop region and the mirrored zones. -/
structure Supplies (setting : Setting) (zoneX zoneY : Nat) (source : VirtualArray) : Prop where
  complete : source.Complete
  access : setting.vSampFactor ≤ source.layout.maxAccess
  rows : setting.yCropBlocks + setting.paddedHeight ≤ source.layout.rowsInArray
  columns : setting.xCropBlocks + setting.widthInBlocks ≤ source.layout.blocksPerRow
  zoneRows : zoneY * setting.vSampFactor ≤ source.layout.rowsInArray
  zoneColumns : zoneX * setting.hSampFactor ≤ source.layout.blocksPerRow
  few : source.layout.rowsInArray < 2 ^ 32 ∧ source.layout.blocksPerRow < 2 ^ 32

/-- The source of a transposing routine covers them with rows and columns exchanged. -/
structure SuppliesTransposed (setting : Setting) (zoneX zoneY : Nat) (source : VirtualArray) :
    Prop where
  complete : source.Complete
  access : setting.hSampFactor ≤ source.layout.maxAccess
  rows : setting.xCropBlocks + setting.paddedWidth ≤ source.layout.rowsInArray
  columns : setting.yCropBlocks + setting.paddedHeight ≤ source.layout.blocksPerRow
  zoneRows : zoneX * setting.hSampFactor ≤ source.layout.rowsInArray
  zoneColumns : zoneY * setting.vSampFactor ≤ source.layout.blocksPerRow
  few : source.layout.rowsInArray < 2 ^ 32 ∧ source.layout.blocksPerRow < 2 ^ 32

/-- The wanted block, from the source place it is reflected to. -/
theorem placed_straight {setting : Setting} {columns rows : Nat} {source : VirtualArray}
    {place : Nat × Nat} {alongX alongY : Bool} {row column : Nat}
    (inColumns : decide (setting.xCropBlocks + place.2 < columns) = alongX)
    (inRows : decide (setting.yCropBlocks + place.1 < rows) = alongY)
    (fromRow : reflect rows (setting.yCropBlocks + place.1) = row)
    (fromColumn : reflect columns (setting.xCropBlocks + place.2) = column) :
    placed setting ⟨false, columns, rows⟩ source place =
      (source.cell (row, column)).mirrored alongX alongY := by
  subst inColumns inRows fromRow fromColumn
  rfl

theorem placed_transposing {setting : Setting} {columns rows : Nat} {source : VirtualArray}
    {place : Nat × Nat} {alongX alongY : Bool} {row column : Nat}
    (inColumns : decide (setting.xCropBlocks + place.2 < columns) = alongX)
    (inRows : decide (setting.yCropBlocks + place.1 < rows) = alongY)
    (fromRow : reflect columns (setting.xCropBlocks + place.2) = row)
    (fromColumn : reflect rows (setting.yCropBlocks + place.1) = column) :
    placed setting ⟨true, columns, rows⟩ source place =
      (source.cell (row, column)).transposed.mirrored alongX alongY := by
  subst inColumns inRows fromRow fromColumn
  rfl

/-- The loops of a straight routine fill the destination with the turned source. -/
theorem straightZones_places {setting : Setting} {zoneX zoneY : Nat}
    {source destination : VirtualArray} (positive : 0 < setting.vSampFactor)
    (receives : Receives setting setting.widthInBlocks destination)
    (supplies : Supplies setting zoneX zoneY source) :
    ∃ result,
      straightZones setting (zoneX * setting.hSampFactor) (zoneY * setting.vSampFactor) source
        destination = some result ∧
      Result setting setting.widthInBlocks
        (placed setting
          ⟨false, zoneX * setting.hSampFactor, zoneY * setting.vSampFactor⟩ source)
        destination result := by
  have zoneRows := supplies.zoneRows
  have zoneColumns := supplies.zoneColumns
  have few := supplies.few
  have wide := supplies.columns
  have rowsOf := fun group => @groupSource setting.yCropBlocks (zoneY * setting.vSampFactor)
    setting.vSampFactor (group * setting.vSampFactor) _ _ group rfl rfl rfl (by omega)
  refine straightRoutine_fills positive receives
    ⟨supplies.complete, supplies.access, fun group below => ?_,
      fun group below offsetY inGroup dstBlkX inside => ?_⟩
  · have room := Nat.le_trans
      (Nat.add_le_add_left (group_room below) setting.yCropBlocks) supplies.rows
    rcases rowsOf group with ⟨_, start, _⟩ | ⟨_, start, _⟩
    · omega
    · omega
  · by_cases inColumns : setting.xCropBlocks + dstBlkX < zoneX * setting.hSampFactor
    · have column := placeSource inColumns (by omega)
      have columnRoom := (reflect_lt_count _ _).mpr inColumns
      rcases rowsOf group with ⟨inRows, -, reflected⟩ | ⟨beyond, -, kept⟩
      · obtain ⟨inZone, row⟩ := reflected offsetY inGroup
        simp only [if_pos inRows, if_pos inColumns, column] at row ⊢
        refine ⟨by omega, by omega, ?_⟩
        rw [placed_straight (decide_eq_true inColumns) (decide_eq_true inZone) row.symm rfl,
          Block.mirrored_both]
      · obtain ⟨outside, row⟩ := kept offsetY
        simp only [if_neg beyond, if_pos inColumns, column] at row ⊢
        refine ⟨inGroup, by omega, ?_⟩
        rw [placed_straight (decide_eq_true inColumns) (decide_eq_false outside) row rfl,
          Block.mirrored_x]
    · have column := reflect_of_le (Nat.le_of_not_lt inColumns)
      rcases rowsOf group with ⟨inRows, -, reflected⟩ | ⟨beyond, -, kept⟩
      · obtain ⟨inZone, row⟩ := reflected offsetY inGroup
        simp only [if_pos inRows, if_neg inColumns] at row ⊢
        refine ⟨by omega, by omega, ?_⟩
        rw [placed_straight (decide_eq_false inColumns) (decide_eq_true inZone) row.symm column,
          Block.mirrored_y]
      · obtain ⟨outside, row⟩ := kept offsetY
        simp only [if_neg beyond, if_neg inColumns] at row ⊢
        refine ⟨inGroup, by omega, ?_⟩
        rw [placed_straight (decide_eq_false inColumns) (decide_eq_false outside) row column,
          Block.mirrored_neither, Nat.add_comm dstBlkX]
        rfl

/-- The loops of a transposing routine fill the destination with the turned source. -/
theorem transposingZones_places {setting : Setting} {zoneX zoneY : Nat}
    {source destination : VirtualArray} (positive : 0 < setting.vSampFactor)
    (receives : Receives setting setting.paddedWidth destination)
    (supplies : SuppliesTransposed setting zoneX zoneY source) :
    ∃ result,
      transposingZones setting (zoneX * setting.hSampFactor) (zoneY * setting.vSampFactor)
        source destination = some result ∧
      Result setting setting.paddedWidth
        (placed setting
          ⟨true, zoneX * setting.hSampFactor, zoneY * setting.vSampFactor⟩ source)
        destination result := by
  have zoneRows := supplies.zoneRows
  have zoneColumns := supplies.zoneColumns
  have few := supplies.few
  have columnsOf := fun group => @groupSource setting.xCropBlocks
    (zoneX * setting.hSampFactor) setting.hSampFactor (group * setting.hSampFactor) _ _ group
    rfl rfl rfl (by omega)
  have rowsOf := fun group => @groupSource setting.yCropBlocks
    (zoneY * setting.vSampFactor) setting.vSampFactor (group * setting.vSampFactor) _ _ group
    rfl rfl rfl (by omega)
  refine transposingRoutine_fills positive receives
    ⟨supplies.complete, supplies.access, fun group below => ?_,
      fun rows below offsetY inRowGroup columns across offsetX inColumnGroup => ?_⟩
  · have room := Nat.le_trans
      (Nat.add_le_add_left (group_room below) setting.xCropBlocks) supplies.rows
    rcases columnsOf group with ⟨_, start, _⟩ | ⟨_, start, _⟩
    · omega
    · omega
  · have room := Nat.le_trans
      (Nat.add_le_add_left (group_room below) setting.yCropBlocks) supplies.columns
    rcases rowsOf rows with ⟨inRows, -, reflectedRows⟩ | ⟨rowsBeyond, -, keptRows⟩
    · obtain ⟨inRowZone, -⟩ := reflectedRows offsetY inRowGroup
      have column := @jdimensionSub_four (zoneY * setting.vSampFactor) setting.yCropBlocks
        (rows * setting.vSampFactor) offsetY 1 (by omega) (by omega)
      have fromColumn : reflect (zoneY * setting.vSampFactor)
          (setting.yCropBlocks + (rows * setting.vSampFactor + offsetY)) =
          zoneY * setting.vSampFactor - setting.yCropBlocks - rows * setting.vSampFactor -
            offsetY - 1 := by
        rw [reflect_of_lt inRowZone]
        omega
      rcases columnsOf columns with ⟨inColumns, -, reflected⟩ | ⟨beyond, -, kept⟩
      · obtain ⟨inZone, row⟩ := reflected offsetX inColumnGroup
        simp only [if_pos inRows, if_pos inColumns, column] at row ⊢
        refine ⟨by omega, by omega, ?_⟩
        rw [placed_transposing (decide_eq_true inZone) (decide_eq_true inRowZone) row.symm
          fromColumn, Block.mirrored_both]
      · obtain ⟨outside, row⟩ := kept offsetX
        simp only [if_pos inRows, if_neg beyond, column] at row ⊢
        refine ⟨inColumnGroup, by omega, ?_⟩
        rw [placed_transposing (decide_eq_false outside) (decide_eq_true inRowZone) row
          fromColumn, Block.mirrored_y]
    · have outsideRows := (keptRows offsetY).1
      have fromColumn : reflect (zoneY * setting.vSampFactor)
          (setting.yCropBlocks + (rows * setting.vSampFactor + offsetY)) =
          rows * setting.vSampFactor + offsetY + setting.yCropBlocks := by
        rw [reflect_of_le (Nat.le_of_not_lt outsideRows)]
        omega
      rcases columnsOf columns with ⟨inColumns, -, reflected⟩ | ⟨beyond, -, kept⟩
      · obtain ⟨inZone, row⟩ := reflected offsetX inColumnGroup
        simp only [if_neg rowsBeyond, if_pos inColumns] at row ⊢
        refine ⟨by omega, by omega, ?_⟩
        rw [placed_transposing (decide_eq_true inZone) (decide_eq_false outsideRows) row.symm
          fromColumn, Block.mirrored_x]
      · obtain ⟨outside, row⟩ := kept offsetX
        simp only [if_neg rowsBeyond, if_neg beyond] at row ⊢
        refine ⟨inColumnGroup, by omega, ?_⟩
        rw [placed_transposing (decide_eq_false outside) (decide_eq_false outsideRows) row
          fromColumn, Block.mirrored_neither]

end RPhoto.Lossless
