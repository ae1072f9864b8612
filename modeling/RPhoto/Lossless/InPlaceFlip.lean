import RPhoto.Lossless.RoutinePlacement

/-!
# The horizontal flip in place

Without a vertical crop the blocks of a row are swapped pairwise in the source array
itself and the part to be kept is then moved to the left, block after block.  A swap
meets blocks no earlier swap has touched, the middle one being swapped with itself,
and a move reads to the right of everything moved before.  The rows end as those of
the flip into a separate array.
-/

namespace RPhoto.Lossless

open RPhoto.Library

/-- The plane of blocks with the mirrorable columns flipped. -/
def flipped (compWidth : Nat) (array : VirtualArray) : Nat × Nat → Block :=
  fun place => turned ⟨false, compWidth, 0⟩ array.block place.1 place.2

theorem flipped_of_lt {compWidth row column : Nat} (array : VirtualArray)
    (within : column < compWidth) :
    flipped compWidth array (row, column) =
      (array.cell (row, compWidth - 1 - column)).negateOddColumns := by
  unfold flipped turned
  simp only [reflect_of_lt within, reflect_zero, decide_eq_true within]
  exact Block.mirrored_x _

theorem flipped_of_le {compWidth row column : Nat} (array : VirtualArray)
    (beyond : compWidth ≤ column) :
    flipped compWidth array (row, column) = array.cell (row, column) := by
  unfold flipped turned
  simp only [reflect_of_le beyond, reflect_zero,
    decide_eq_false (Nat.not_lt.mpr beyond)]
  exact Block.mirrored_neither _

/-- The parts of an array an in-place step keeps. -/
def SameFrame (before after : VirtualArray) : Prop :=
  after.layout = before.layout ∧ after.firstUndefRow = before.firstUndefRow

section Row

variable {numRows offset : Nat}

/-- A swap exchanges two blocks of a row, mirrored; a block may be swapped with itself. -/
theorem swapMirrored_paints {array : VirtualArray} {column other : Nat}
    (wanted : Nat × Nat → Block) (startRow : Nat) (granted : offset < numRows)
    (inside : column < array.layout.blocksPerRow) (otherInside : other < array.layout.blocksPerRow)
    (first : wanted (startRow + offset, column) =
      (array.cell (startRow + offset, other)).negateOddColumns)
    (second : wanted (startRow + offset, other) =
      (array.cell (startRow + offset, column)).negateOddColumns) :
    ∃ next, swapMirrored startRow numRows offset column other array = some next ∧
      Paints VirtualArray.cell wanted
        ({(startRow + offset, column)} ∪ {(startRow + offset, other)}) array next ∧
      SameFrame array next := by
  obtain ⟨middle, written, early, layout, undefined⟩ :=
    VirtualArray.write_paints wanted startRow granted inside
  obtain ⟨next, rewritten, late, nextLayout, nextUndefined⟩ :=
    VirtualArray.write_paints wanted startRow granted
      (show other < middle.layout.blocksPerRow from layout ▸ otherInside)
  refine ⟨next, ?_, early.trans late, nextLayout.trans layout,
    nextUndefined.trans undefined⟩
  unfold swapMirrored
  rw [VirtualArray.read_of_lt granted inside, VirtualArray.read_of_lt granted otherInside]
  simp only [Option.bind_eq_bind, Option.bind_some, ← first, ← second, written, rewritten]

/-- The swaps of a row mirror its full iMCU columns. -/
theorem swaps_paint {array : VirtualArray} {compWidth : Nat} (startRow : Nat)
    (granted : offset < numRows) (within : compWidth ≤ array.layout.blocksPerRow)
    (few : compWidth < 2 ^ 32) :
    ∃ next, upTo (divRoundUp compWidth 2) (fun blkX array =>
        swapMirrored startRow numRows offset blkX
          (jdimensionSub (jdimensionSub compWidth blkX) 1) array) array = some next ∧
      Paints VirtualArray.cell (flipped compWidth array)
        {place | place.1 = startRow + offset} array next ∧ SameFrame array next := by
  have counted := fun index => lt_divRoundUp_iff (show 0 < 2 by decide) index compWidth
  obtain ⟨next, ran, paints, frame⟩ := @upTo_paints _ _ _ VirtualArray.cell
    (flipped compWidth array)
    (fun index => {(startRow + offset, index)} ∪ {(startRow + offset, compWidth - 1 - index)})
    (fun _ state => SameFrame array state) (divRoundUp compWidth 2)
    (fun blkX array => swapMirrored startRow numRows offset blkX
      (jdimensionSub (jdimensionSub compWidth blkX) 1) array) array
    (fun index below state frame earlier => by
      have half := (counted index).mp below
      have first := jdimensionSub_of_le (show index ≤ compWidth by omega) few
      have last := jdimensionSub_of_le (show 1 ≤ compWidth - index by omega) (by omega)
      have other : compWidth - index - 1 = compWidth - 1 - index := by omega
      have back : compWidth - 1 - (compWidth - 1 - index) = index := by omega
      -- neither block of the pair has been swapped before
      have untouched : ∀ column, index ≤ column → column ≤ compWidth - 1 - index →
          state.cell (startRow + offset, column) = array.cell (startRow + offset, column) := by
        intro column low high
        refine earlier.outside _ ?_
        rintro ⟨before, earlierIndex, member | member⟩
        · have same := (Prod.mk.inj (Set.mem_singleton_iff.mp member)).2
          omega
        · have same := (Prod.mk.inj (Set.mem_singleton_iff.mp member)).2
          omega
      have right : index < state.layout.blocksPerRow := by
        rw [frame.1]
        omega
      have left : compWidth - 1 - index < state.layout.blocksPerRow := by
        rw [frame.1]
        omega
      rw [first, last, other]
      obtain ⟨next, stepped, here, nextFrame⟩ := swapMirrored_paints
        (flipped compWidth array) startRow granted right left
        (by rw [flipped_of_lt array (by omega), untouched _ (by omega) (by omega)])
        (by rw [flipped_of_lt array (by omega), back, untouched _ (by omega) (by omega)])
      exact ⟨next, stepped, here, nextFrame.1.trans frame.1, nextFrame.2.trans frame.2⟩)
    ⟨rfl, rfl⟩
  refine ⟨next, ran, ⟨?_, ?_⟩, frame⟩
  · rintro ⟨row, column⟩ same
    obtain rfl : row = startRow + offset := same
    by_cases mirrored : column < compWidth
    · refine paints.inside _ ?_
      by_cases left : column * 2 < compWidth
      · exact ⟨column, (counted column).mpr left, .inl rfl⟩
      · refine ⟨compWidth - 1 - column, (counted _).mpr (by omega), .inr ?_⟩
        rw [Set.mem_singleton_iff, Prod.mk.injEq]
        exact ⟨rfl, by omega⟩
    · rw [flipped_of_le array (Nat.le_of_not_lt mirrored)]
      refine paints.outside _ ?_
      rintro ⟨index, below, member | member⟩
      · have half := (counted index).mp below
        have same := (Prod.mk.inj (Set.mem_singleton_iff.mp member)).2
        omega
      · have half := (counted index).mp below
        have same := (Prod.mk.inj (Set.mem_singleton_iff.mp member)).2
        omega
  · rintro ⟨row, column⟩ otherRow
    refine paints.outside _ ?_
    rintro ⟨index, below, member | member⟩
    · exact otherRow (Prod.mk.inj (Set.mem_singleton_iff.mp member)).1
    · exact otherRow (Prod.mk.inj (Set.mem_singleton_iff.mp member)).1

/-- Moving the kept part of a row to the left, over a positive distance. -/
theorem moves_paint {array : VirtualArray} {skipped width : Nat} (startRow : Nat)
    (positive : 0 < skipped) (granted : offset < numRows)
    (within : skipped + width ≤ array.layout.blocksPerRow) :
    ∃ next, upTo width (fun blkX array =>
        copyBlock startRow numRows offset (blkX + skipped) blkX array) array = some next ∧
      Paints VirtualArray.cell (fun place => array.cell (place.1, place.2 + skipped))
        (band (startRow + offset) (startRow + offset + 1) width) array next ∧
      SameFrame array next := by
  obtain ⟨next, ran, paints, frame⟩ := @upTo_paints _ _ _ VirtualArray.cell
    (fun place => array.cell (place.1, place.2 + skipped))
    (fun blkX => {(startRow + offset, blkX)})
    (fun _ state => SameFrame array state) width
    (fun blkX array => copyBlock startRow numRows offset (blkX + skipped) blkX array) array
    (fun blkX below state frame earlier => by
      have untouched : state.cell (startRow + offset, blkX + skipped) =
          array.cell (startRow + offset, blkX + skipped) := by
        refine earlier.outside _ ?_
        rintro ⟨before, earlierIndex, member⟩
        have same := (Prod.mk.inj (Set.mem_singleton_iff.mp member)).2
        omega
      have readable : blkX + skipped < state.layout.blocksPerRow := by
        rw [frame.1]
        omega
      obtain ⟨next, written, here, layout, undefined⟩ :=
        VirtualArray.write_paints (fun place => array.cell (place.1, place.2 + skipped))
          startRow granted (show blkX < state.layout.blocksPerRow by omega)
      refine ⟨next, ?_, here, layout.trans frame.1, undefined.trans frame.2⟩
      unfold copyBlock
      rw [VirtualArray.read_of_lt granted readable, untouched]
      exact written)
    ⟨rfl, rfl⟩
  exact ⟨next, ran, painted_places _ _ ▸ paints, frame⟩

end Row

/-- What the flip in place leaves in a row: the kept part first. -/
def leftJustified (setting : Setting) (compWidth : Nat) (array : VirtualArray) :
    Nat × Nat → Block :=
  fun place =>
    if place.2 < setting.widthInBlocks then
      flipped compWidth array (place.1, place.2 + setting.xCropBlocks)
    else flipped compWidth array place

/-- The swaps and moves of one row. -/
theorem row_paints {setting : Setting} {array : VirtualArray} {offset compWidth : Nat}
    (startRow : Nat) (granted : offset < setting.vSampFactor)
    (within : compWidth ≤ array.layout.blocksPerRow) (few : compWidth < 2 ^ 32)
    (kept : setting.xCropBlocks + setting.widthInBlocks ≤ array.layout.blocksPerRow) :
    ∃ next, flipRow setting compWidth startRow offset array = some next ∧
      Paints VirtualArray.cell (leftJustified setting compWidth array)
        {place | place.1 = startRow + offset} array next ∧ SameFrame array next := by
  obtain ⟨middle, swapped, mirrored, frame⟩ := swaps_paint startRow granted within few
  unfold flipRow
  rw [swapped]
  by_cases moved : 0 < setting.xCropBlocks
  · obtain ⟨next, ran, paints, nextFrame⟩ := moves_paint startRow moved granted
      (frame.1 ▸ kept)
    refine ⟨next, ?_, ⟨?_, ?_⟩, nextFrame.1.trans frame.1, nextFrame.2.trans frame.2⟩
    · simp only [Option.bind_eq_bind, Option.bind_some, if_pos moved]
      exact ran
    · rintro ⟨row, column⟩ same
      obtain rfl : row = startRow + offset := same
      unfold leftJustified
      split
      · rename_i inside
        rw [paints.inside _ ⟨Nat.le_refl _, Nat.lt_succ_self _, inside⟩]
        exact mirrored.inside _ rfl
      · rename_i outside
        rw [paints.outside _ fun member => outside member.2.2]
        exact mirrored.inside _ rfl
    · rintro ⟨row, column⟩ otherRow
      have elsewhere : (row, column) ∉ band (startRow + offset) (startRow + offset + 1)
          setting.widthInBlocks := by
        rintro ⟨low, high, -⟩
        exact otherRow (Nat.le_antisymm (Nat.le_of_lt_succ high) low)
      rw [paints.outside _ elsewhere]
      exact mirrored.outside _ otherRow
  · refine ⟨middle, ?_, ⟨?_, mirrored.outside⟩, frame⟩
    · simp only [Option.bind_eq_bind, Option.bind_some, if_neg moved]
    · intro place same
      have unmoved : setting.xCropBlocks = 0 := Nat.eq_zero_of_not_pos moved
      rw [mirrored.inside place same]
      simp [leftJustified, unmoved]

/-- A row of the array not painted yet is flipped as it was at first. -/
theorem leftJustified_congr {setting : Setting} {compWidth : Nat} {array other : VirtualArray}
    {row : Nat} (same : ∀ column, array.cell (row, column) = other.cell (row, column))
    (column : Nat) :
    leftJustified setting compWidth array (row, column) =
      leftJustified setting compWidth other (row, column) := by
  have flips : ∀ column, flipped compWidth array (row, column) =
      flipped compWidth other (row, column) := by
    intro column
    refine turned_congr ?_
    exact same (reflect compWidth column)
  simp only [leftJustified, flips]

theorem painted_whole_rows (first count : Nat) :
    painted (fun offset => {place : Nat × Nat | place.1 = first + offset}) count =
      {place | first ≤ place.1 ∧ place.1 < first + count} := by
  ext ⟨r, c⟩
  constructor
  · rintro ⟨offset, below, same⟩
    obtain rfl : r = first + offset := same
    exact ⟨Nat.le_add_right _ _, Nat.add_lt_add_left below _⟩
  · rintro ⟨low, high⟩
    exact ⟨r - first, by simp only at low high; omega,
      (Nat.add_sub_cancel' low).symm⟩

theorem painted_row_groups (step count : Nat) :
    painted (fun group => {place : Nat × Nat | group * step ≤ place.1 ∧
      place.1 < group * step + step}) count = {place | place.1 < count * step} := by
  ext ⟨r, c⟩
  constructor
  · rintro ⟨group, below, low, high⟩
    have bounded : (group + 1) * step ≤ count * step := Nat.mul_le_mul_right step below
    rw [Nat.add_one_mul] at bounded
    exact Nat.lt_of_lt_of_le high bounded
  · intro high
    simp only [Set.mem_ofPred_eq] at high
    have positive : 0 < step := by
      rcases Nat.eq_zero_or_pos step with rfl | positive
      · simp at high
      · exact positive
    have next := (Nat.div_lt_iff_lt_mul positive).mp (Nat.lt_succ_self (r / step))
    rw [Nat.succ_mul] at next
    exact ⟨r / step, (Nat.div_lt_iff_lt_mul positive).mpr high, Nat.div_mul_le_self r step, next⟩

/-- The access to a group of rows and the flips of its rows. -/
theorem group_paints {setting : Setting} {array : VirtualArray} {startRow compWidth : Nat}
    (complete : array.Complete) (access : setting.vSampFactor ≤ array.layout.maxAccess)
    (room : startRow + setting.vSampFactor ≤ array.layout.rowsInArray)
    (within : compWidth ≤ array.layout.blocksPerRow) (few : compWidth < 2 ^ 32)
    (kept : setting.xCropBlocks + setting.widthInBlocks ≤ array.layout.blocksPerRow) :
    ∃ next, flipGroup setting compWidth startRow array = some next ∧
      Paints VirtualArray.cell (leftJustified setting compWidth array)
        {place | startRow ≤ place.1 ∧ place.1 < startRow + setting.vSampFactor} array next ∧
      SameFrame array next := by
  unfold flipGroup
  rw [complete.access room access true, ← painted_whole_rows]
  refine upTo_paints _ _ _ (fun _ inner => SameFrame array inner)
    (fun offsetY inGroup inner frame earlier => ?_) ⟨rfl, rfl⟩
  obtain ⟨next, ran, here, nextFrame⟩ :=
    row_paints startRow inGroup (frame.1 ▸ within) few (frame.1 ▸ kept)
  refine ⟨next, ran, ⟨?_, here.outside⟩, nextFrame.1.trans frame.1, nextFrame.2.trans frame.2⟩
  rintro ⟨row, column⟩ same
  obtain rfl : row = startRow + offsetY := same
  rw [here.inside _ rfl]
  refine leftJustified_congr (fun column => earlier.outside _ ?_) column
  rw [painted_whole_rows]
  rintro ⟨-, high⟩
  exact Nat.lt_irrefl _ high

/-- The flip in place leaves, in the columns kept, what a separate array would receive. -/
theorem doFlipHNoCrop_places {setting : Setting} {array : VirtualArray}
    (atTop : setting.yCropOffset = 0)
    (supplies : Supplies setting (setting.mcuCols setting.imageWidth) 0 array) :
    ∃ result, doFlipHNoCrop setting array = some result ∧
      result.layout = array.layout ∧ result.Complete ∧
      ∀ row < setting.paddedHeight, ∀ column < setting.widthInBlocks,
        result.block row column =
          placed setting
            ⟨false, setting.mcuCols setting.imageWidth * setting.hSampFactor, 0⟩ array
            (row, column) := by
  have atTopBlocks : setting.yCropBlocks = 0 := by simp [Setting.yCropBlocks, atTop]
  have zone := supplies.zoneColumns
  have few := supplies.few
  have rows := supplies.rows
  rw [atTopBlocks, Nat.zero_add] at rows
  generalize width : setting.mcuCols setting.imageWidth * setting.hSampFactor = compWidth at zone
  have stays : ∀ state, SameFrame array state → state.Complete := by
    rintro state ⟨layout, undefined⟩
    unfold VirtualArray.Complete
    rw [layout, undefined]
    exact supplies.complete
  have flips : ∃ result, doFlipHNoCrop setting array = some result ∧
      Paints VirtualArray.cell (leftJustified setting compWidth array)
        (painted (fun group => {place | group * setting.vSampFactor ≤ place.1 ∧
          place.1 < group * setting.vSampFactor + setting.vSampFactor})
          (divRoundUp setting.heightInBlocks setting.vSampFactor)) array result ∧
      SameFrame array result := by
    unfold doFlipHNoCrop upToBy
    rw [width]
    refine upTo_paints _ _ _ (fun _ state => SameFrame array state)
      (fun group below state frame earlier => ?_) ⟨rfl, rfl⟩
    obtain ⟨next, ran, here, nextFrame⟩ := group_paints (stays state frame)
      (frame.1 ▸ supplies.access)
      (frame.1 ▸ Nat.le_trans (group_room below) rows) (frame.1 ▸ zone) (by omega)
      (frame.1 ▸ supplies.columns)
    refine ⟨next, ran, ⟨?_, here.outside⟩, nextFrame.1.trans frame.1,
      nextFrame.2.trans frame.2⟩
    rintro ⟨row, column⟩ inGroup
    rw [here.inside _ inGroup]
    -- no earlier group has touched this row
    refine leftJustified_congr (fun column => earlier.outside _ ?_) column
    rw [painted_row_groups]
    exact Nat.not_lt.mpr inGroup.1
  obtain ⟨result, ran, paints, frame⟩ := flips
  refine ⟨result, ran, frame.1, stays result frame, fun row inRows column inColumns => ?_⟩
  rw [painted_row_groups] at paints
  have here : result.cell (row, column) = leftJustified setting compWidth array (row, column) :=
    paints.inside (row, column) inRows
  have justified : leftJustified setting compWidth array (row, column) =
      flipped compWidth array (row, column + setting.xCropBlocks) := if_pos inColumns
  refine (here.trans justified).trans ?_
  unfold flipped placed
  rw [atTopBlocks, Nat.zero_add, Nat.add_comm column]

end RPhoto.Lossless
