import RPhoto.Lossless.Routines

/-!
# What the loops of the routines fill

A routine that finds, for each destination block, a source block inside the rows it
was granted runs to its end and leaves the wanted block in every place of the
destination it goes through: all rows of the groups of rows, and the columns up to
the width (for a routine that transposes, to the end of the last group of columns).
-/

namespace RPhoto.Lossless

open RPhoto.Library

namespace Setting

variable (setting : Setting)

/-- The height in blocks, filled up to whole groups of rows. -/
def paddedHeight : Nat :=
  divRoundUp setting.heightInBlocks setting.vSampFactor * setting.vSampFactor

/-- The width in blocks, filled up to whole groups of columns. -/
def paddedWidth : Nat :=
  divRoundUp setting.widthInBlocks setting.hSampFactor * setting.hSampFactor

theorem height_le_padded (positive : 0 < setting.vSampFactor) :
    setting.heightInBlocks ≤ setting.paddedHeight := le_divRoundUp_mul positive _

theorem width_le_padded (positive : 0 < setting.hSampFactor) :
    setting.widthInBlocks ≤ setting.paddedWidth := le_divRoundUp_mul positive _

end Setting

/-- A destination array as it was requested, with room for what a routine writes. -/
structure Receives (setting : Setting) (columns : Nat) (destination : VirtualArray) : Prop where
  fresh : destination.layout.preZero = false
  undefined : destination.firstUndefRow = 0
  columns : columns ≤ destination.layout.blocksPerRow
  rows : setting.paddedHeight ≤ destination.layout.rowsInArray
  access : setting.vSampFactor ≤ destination.layout.maxAccess

/-- The places of the rows from the first to before the last, in the first columns. -/
def band (first last columns : Nat) : Set (Nat × Nat) :=
  {place | first ≤ place.1 ∧ place.1 < last ∧ place.2 < columns}

theorem painted_places (row columns : Nat) :
    painted (fun column => {(row, column)}) columns = band row (row + 1) columns := by
  ext ⟨r, c⟩
  constructor
  · rintro ⟨column, below, member⟩
    obtain ⟨rfl, rfl⟩ := Prod.mk.inj (Set.mem_singleton_iff.mp member)
    exact ⟨Nat.le_refl _, Nat.lt_succ_self _, below⟩
  · rintro ⟨low, high, inside⟩
    have same : r = row := Nat.le_antisymm (Nat.le_of_lt_succ high) low
    exact ⟨c, inside, by simp [same]⟩

theorem painted_groups (row step groups : Nat) :
    painted (fun group => {place | place.1 = row ∧ group * step ≤ place.2 ∧
      place.2 < (group + 1) * step}) groups = band row (row + 1) (groups * step) := by
  ext ⟨r, c⟩
  constructor
  · rintro ⟨group, below, same, low, high⟩
    have bounded : (group + 1) * step ≤ groups * step := Nat.mul_le_mul_right step below
    exact ⟨Nat.le_of_eq same.symm, by simp only at same; omega, Nat.lt_of_lt_of_le high bounded⟩
  · rintro ⟨low, high, inside⟩
    have same : r = row := Nat.le_antisymm (Nat.le_of_lt_succ high) low
    have positive : 0 < step := by
      rcases Nat.eq_zero_or_pos step with rfl | positive
      · simp at inside
      · exact positive
    refine ⟨c / step, (Nat.div_lt_iff_lt_mul positive).mpr inside, same,
      Nat.div_mul_le_self c step, ?_⟩
    exact (Nat.div_lt_iff_lt_mul positive).mp (Nat.lt_succ_self _)

/-- The places of a group of columns in one row. -/
theorem painted_group (row group step : Nat) :
    painted (fun offset => {(row, group * step + offset)}) step =
      {place | place.1 = row ∧ group * step ≤ place.2 ∧ place.2 < (group + 1) * step} := by
  ext ⟨r, c⟩
  have expanded := Nat.add_one_mul group step
  constructor
  · rintro ⟨offset, below, member⟩
    obtain ⟨rfl, rfl⟩ := Prod.mk.inj (Set.mem_singleton_iff.mp member)
    exact ⟨rfl, Nat.le_add_right _ _, by simp only; omega⟩
  · rintro ⟨same, low, high⟩
    simp only at same low high
    refine ⟨c - group * step, by omega, ?_⟩
    rw [Set.mem_singleton_iff, same, Nat.add_sub_cancel' low]

theorem painted_rows (first columns count : Nat) :
    painted (fun offset => band (first + offset) (first + offset + 1) columns) count =
      band first (first + count) columns := by
  ext ⟨r, c⟩
  constructor
  · rintro ⟨offset, below, low, high, inside⟩
    refine ⟨?_, ?_, inside⟩
    · simp only at low ⊢
      omega
    · simp only at high ⊢
      omega
  · rintro ⟨low, high, inside⟩
    simp only at low high
    refine ⟨r - first, by omega, ?_, ?_, inside⟩
    · simp only
      omega
    · simp only
      omega

theorem painted_bands (step columns count : Nat) :
    painted (fun group => band (group * step) (group * step + step) columns) count =
      band 0 (count * step) columns := by
  ext ⟨r, c⟩
  constructor
  · rintro ⟨group, below, low, high, inside⟩
    have bounded : (group + 1) * step ≤ count * step := Nat.mul_le_mul_right step below
    have expanded := Nat.add_one_mul group step
    refine ⟨Nat.zero_le _, ?_, inside⟩
    simp only at high ⊢
    omega
  · rintro ⟨-, high, inside⟩
    have positive : 0 < step := by
      rcases Nat.eq_zero_or_pos step with rfl | positive
      · simp at high
      · exact positive
    have next := (Nat.div_lt_iff_lt_mul positive).mp (Nat.lt_succ_self (r / step))
    rw [Nat.succ_mul] at next
    exact ⟨r / step, (Nat.div_lt_iff_lt_mul positive).mpr high, Nat.div_mul_le_self r step,
      next, inside⟩

/-- Painting that keeps the layout of the array and the rows it has defined. -/
structure Fills (wanted : Nat × Nat → Block) (region : Set (Nat × Nat))
    (before after : VirtualArray) : Prop where
  paints : Paints VirtualArray.cell wanted region before after
  layout : after.layout = before.layout
  undefined : after.firstUndefRow = before.firstUndefRow

variable {wanted : Nat × Nat → Block}

/-- A loop whose every step fills its region fills them all. -/
theorem upTo_fills (region : Nat → Set (Nat × Nat)) {whole : Set (Nat × Nat)} {count : Nat}
    {body : Nat → VirtualArray → Option VirtualArray} {first : VirtualArray}
    (together : painted region count = whole)
    (each : ∀ index < count, ∀ array : VirtualArray, array.layout = first.layout →
      ∃ next, body index array = some next ∧ Fills wanted (region index) array next) :
    ∃ last, upTo count body first = some last ∧ Fills wanted whole first last := by
  obtain ⟨last, ran, paints, layout, undefined⟩ :=
    upTo_paints VirtualArray.cell wanted region
      (fun _ array => array.layout = first.layout ∧ array.firstUndefRow = first.firstUndefRow)
      (fun index below array ready _ => by
        obtain ⟨next, stepped, fills⟩ := each index below array ready.1
        exact ⟨next, stepped, fills.paints, fills.layout.trans ready.1,
          fills.undefined.trans ready.2⟩)
      ⟨rfl, rfl⟩
  exact ⟨last, ran, together ▸ paints, layout, undefined⟩

theorem write_fills {array : VirtualArray} {startRow numRows offset column : Nat}
    {block : Block} (row : offset < numRows) (inside : column < array.layout.blocksPerRow)
    (right : block = wanted (startRow + offset, column)) :
    ∃ next, array.write startRow numRows offset column block = some next ∧
      Fills wanted {(startRow + offset, column)} array next := by
  obtain ⟨next, written, paints, layout, undefined⟩ :=
    VirtualArray.write_paints wanted startRow row inside
  exact ⟨next, right ▸ written, paints, layout, undefined⟩

/-- The result of a routine: the wanted block everywhere in a band of defined rows. -/
structure Result (setting : Setting) (columns : Nat) (wanted : Nat × Nat → Block)
    (destination result : VirtualArray) : Prop where
  layout : result.layout = destination.layout
  defined : result.firstUndefRow = setting.paddedHeight
  block : ∀ row < setting.paddedHeight, ∀ column < columns,
    result.block row column = wanted (row, column)

/-- The loop over the groups of destination rows, each accessed and then filled. -/
theorem groups_fill {setting : Setting} {columns : Nat} {destination : VirtualArray}
    (positive : 0 < setting.vSampFactor) (receives : Receives setting columns destination)
    {rest : Nat → VirtualArray → Option VirtualArray}
    (each : ∀ group < divRoundUp setting.heightInBlocks setting.vSampFactor,
      ∀ array : VirtualArray, array.layout = destination.layout →
      ∃ next, rest (group * setting.vSampFactor) array = some next ∧
        Fills wanted (band (group * setting.vSampFactor)
          (group * setting.vSampFactor + setting.vSampFactor) columns) array next) :
    ∃ result, upToBy setting.vSampFactor setting.heightInBlocks (fun dstBlkY destination => do
        let destination ← destination.access dstBlkY setting.vSampFactor true
        rest dstBlkY destination) destination = some result ∧
      Result setting columns wanted destination result := by
  obtain ⟨result, ran, paints, layout, undefined⟩ :=
    @upTo_paints _ _ _ VirtualArray.cell wanted
      (fun group => band (group * setting.vSampFactor)
          (group * setting.vSampFactor + setting.vSampFactor) columns)
      (fun group array => array.layout = destination.layout ∧
        array.firstUndefRow = group * setting.vSampFactor)
      (divRoundUp setting.heightInBlocks setting.vSampFactor)
      (fun group (destination : VirtualArray) => do
        let destination ← destination.access (group * setting.vSampFactor)
          setting.vSampFactor true
        rest (group * setting.vSampFactor) destination) destination
      (fun group below array ready _ => by
        have room : group * setting.vSampFactor + setting.vSampFactor ≤
            destination.layout.rowsInArray := by
          rw [← Nat.succ_mul]
          exact Nat.le_trans (Nat.mul_le_mul_right _ below) receives.rows
        have granted := VirtualArray.access_next
          (ready.1 ▸ receives.fresh) ready.2 (ready.1 ▸ room) (ready.1 ▸ receives.access) positive
        obtain ⟨next, ran, fills⟩ := each group below
          { array with
            firstUndefRow := group * setting.vSampFactor + setting.vSampFactor } ready.1
        refine ⟨next, ?_, ⟨fills.paints.inside, fills.paints.outside⟩,
          fills.layout.trans ready.1, ?_⟩
        · rw [granted]
          exact ran
        · rw [fills.undefined, Nat.succ_mul])
      ⟨rfl, by rw [receives.undefined, Nat.zero_mul]⟩
  refine ⟨result, ran, layout, undefined, fun row high column inside => ?_⟩
  refine paints.inside (row, column) ?_
  rw [painted_bands]
  exact ⟨Nat.zero_le _, high, inside⟩

/-- What a straight routine needs of the source blocks it takes. -/
structure StraightTakes (setting : Setting) (start : Nat → Nat)
    (origin : Nat → Nat → Nat → Origin) (source : VirtualArray)
    (wanted : Nat × Nat → Block) : Prop where
  complete : source.Complete
  access : setting.vSampFactor ≤ source.layout.maxAccess
  granted : ∀ group < divRoundUp setting.heightInBlocks setting.vSampFactor,
    start (group * setting.vSampFactor) + setting.vSampFactor ≤ source.layout.rowsInArray
  taken : ∀ group < divRoundUp setting.heightInBlocks setting.vSampFactor,
    ∀ offsetY < setting.vSampFactor, ∀ dstBlkX < setting.widthInBlocks,
      (origin (group * setting.vSampFactor) offsetY dstBlkX).offset < setting.vSampFactor ∧
      (origin (group * setting.vSampFactor) offsetY dstBlkX).column <
        source.layout.blocksPerRow ∧
      (origin (group * setting.vSampFactor) offsetY dstBlkX).change
        (source.cell (start (group * setting.vSampFactor) +
            (origin (group * setting.vSampFactor) offsetY dstBlkX).offset,
          (origin (group * setting.vSampFactor) offsetY dstBlkX).column)) =
        wanted (group * setting.vSampFactor + offsetY, dstBlkX)

theorem straightRoutine_fills {setting : Setting} {start : Nat → Nat}
    {origin : Nat → Nat → Nat → Origin} {source destination : VirtualArray}
    (positive : 0 < setting.vSampFactor)
    (receives : Receives setting setting.widthInBlocks destination)
    (takes : StraightTakes setting start origin source wanted) :
    ∃ result, straightRoutine setting start origin source destination = some result ∧
      Result setting setting.widthInBlocks wanted destination result := by
  unfold straightRoutine
  refine groups_fill positive receives fun group below array layout => ?_
  have granted := takes.complete.access (takes.granted group below) takes.access false
  dsimp only
  rw [granted]
  refine upTo_fills _ (painted_rows _ _ _) fun offsetY inGroup row rowLayout => ?_
  refine upTo_fills _ (painted_places _ _) fun dstBlkX inside current currentLayout => ?_
  obtain ⟨offset, column, right⟩ := takes.taken group below offsetY inGroup dstBlkX inside
  have room : dstBlkX < current.layout.blocksPerRow := by
    rw [currentLayout, rowLayout, layout]
    exact Nat.lt_of_lt_of_le inside receives.columns
  obtain ⟨next, written, fills⟩ := write_fills inGroup room right
  refine ⟨next, ?_, fills⟩
  simp only [VirtualArray.read_of_lt offset column]
  exact written

/-- What a transposing routine needs of the source blocks it takes. -/
structure TransposingTakes (setting : Setting) (start : Nat → Nat)
    (origin : Nat → Nat → Nat → Nat → Origin) (source : VirtualArray)
    (wanted : Nat × Nat → Block) : Prop where
  complete : source.Complete
  access : setting.hSampFactor ≤ source.layout.maxAccess
  granted : ∀ group < divRoundUp setting.widthInBlocks setting.hSampFactor,
    start (group * setting.hSampFactor) + setting.hSampFactor ≤ source.layout.rowsInArray
  taken : ∀ rows < divRoundUp setting.heightInBlocks setting.vSampFactor,
    ∀ offsetY < setting.vSampFactor,
    ∀ columns < divRoundUp setting.widthInBlocks setting.hSampFactor,
    ∀ offsetX < setting.hSampFactor,
      (origin (rows * setting.vSampFactor) offsetY (columns * setting.hSampFactor)
        offsetX).offset < setting.hSampFactor ∧
      (origin (rows * setting.vSampFactor) offsetY (columns * setting.hSampFactor)
        offsetX).column < source.layout.blocksPerRow ∧
      (origin (rows * setting.vSampFactor) offsetY (columns * setting.hSampFactor)
        offsetX).change
        (source.cell (start (columns * setting.hSampFactor) +
            (origin (rows * setting.vSampFactor) offsetY (columns * setting.hSampFactor)
              offsetX).offset,
          (origin (rows * setting.vSampFactor) offsetY (columns * setting.hSampFactor)
            offsetX).column)) =
        wanted (rows * setting.vSampFactor + offsetY, columns * setting.hSampFactor + offsetX)

theorem transposingRoutine_fills {setting : Setting} {start : Nat → Nat}
    {origin : Nat → Nat → Nat → Nat → Origin} {source destination : VirtualArray}
    (positive : 0 < setting.vSampFactor)
    (receives : Receives setting setting.paddedWidth destination)
    (takes : TransposingTakes setting start origin source wanted) :
    ∃ result, transposingRoutine setting start origin source destination = some result ∧
      Result setting setting.paddedWidth wanted destination result := by
  unfold transposingRoutine
  refine groups_fill positive receives fun rows below array layout => ?_
  refine upTo_fills _ (painted_rows _ _ _) fun offsetY inGroup row rowLayout => ?_
  refine upTo_fills _ (painted_groups _ setting.hSampFactor _)
    fun columns across current currentLayout => ?_
  have granted := takes.complete.access (takes.granted columns across) takes.access false
  dsimp only
  rw [granted]
  refine upTo_fills _ (painted_group _ _ _) fun offsetX inColumns inner innerLayout => ?_
  obtain ⟨offset, column, right⟩ :=
    takes.taken rows below offsetY inGroup columns across offsetX inColumns
  have room : columns * setting.hSampFactor + offsetX < inner.layout.blocksPerRow := by
    have bounded : columns * setting.hSampFactor + setting.hSampFactor ≤
        setting.paddedWidth := by
      rw [← Nat.succ_mul]
      exact Nat.mul_le_mul_right _ across
    have wide := receives.columns
    rw [innerLayout, currentLayout, rowLayout, layout]
    omega
  obtain ⟨next, written, fills⟩ := write_fills inGroup room right
  refine ⟨next, ?_, fills⟩
  simp only [VirtualArray.read_of_lt offset column]
  exact written

end RPhoto.Lossless
