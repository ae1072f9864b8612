import RPhoto.Editing.ResizeRequest

/-!
# Sizes that the image can be scaled to

`Resize` truncates each side by itself and checks neither for 0 nor for a size that
is too large.  For each form of a request the numbers it is given decide whether
both sides come out between 1 and the largest `int`.
-/

namespace RPhoto.Editing

open RPhoto.Jpeg RPhoto.Library

/-! ## What is wanted -/

/-- A side that `wxImage::Scale` can be asked for. -/
def PossibleSide (side : Int) : Prop := 1 ≤ side ∧ side < 2 ^ 31

/-- The image is left alone, or scaled to a size that is possible. -/
def Destination.Possible : Destination → Prop
  | .refused => True
  | .undefined => False
  | .size destWidth destHeight => PossibleSide destWidth ∧ PossibleSide destHeight

def ResizeContext.AsksPossible (reader : RequestReader) (context : ResizeContext)
    (request : Text) : Prop :=
  ∀ fuel found, destination reader fuel context request = some found → found.Possible

/-! ## The requests that do -/

/-- A percentage of the side is a pixel at least, and the product fits. -/
def PercentFits (reader : RequestReader) (lNum : Int) (side : Nat) : Prop :=
  reader.Holds (side * lNum) ∧ 100 ≤ side * lNum ∧ side * lNum < 100 * 2 ^ 31

/-- The given sides are in range, and so is a side that the ratio makes of one of them. -/
def GivenFits (ratio : ℚ) (lNum lDenom : Int) : Prop :=
  if lNum > 0 ∧ lDenom > 0 then lNum < 2 ^ 31 ∧ lDenom < 2 ^ 31
  else if lNum > 0 ∧ ratio > 0 then lNum < 2 ^ 31 ∧ ratio ≤ lNum ∧ lNum < 2 ^ 31 * ratio
  else if lDenom > 0 ∧ ratio > 0 then
    lDenom < 2 ^ 31 ∧ 1 ≤ lDenom * ratio ∧ lDenom * ratio < 2 ^ 31
  else True

/-- The size measured last is not near the target, and the middle of the cell is too large. -/
def GoesLower (sizes : FileSizes) (sizeTarget : Int) (cell : DyadicCell) : Prop :=
  ¬NearTarget sizeTarget (sizes.measured cell) ∧ sizeTarget < sizes.rescaled cell.middle

/-- The size measured last is not near the target, and the middle of the cell is too small. -/
def GoesUpper (sizes : FileSizes) (sizeTarget : Int) (cell : DyadicCell) : Prop :=
  ¬NearTarget sizeTarget (sizes.measured cell) ∧ sizes.rescaled cell.middle < sizeTarget

/-- The sizes lead the search down to a cell and no further. -/
structure LeadsTo (sizes : FileSizes) (sizeTarget : Int) (cell : DyadicCell) : Prop where
  level_le : cell.level ≤ lastLevel
  start : cell.ancestor 0 = .whole
  descends : cell.Descends (GoesLower sizes sizeTarget) (GoesUpper sizes sizeTarget)
  stops : NearTarget sizeTarget (sizes.measured cell) ∨ cell.level = lastLevel ∨
    sizes.rescaled cell.middle = sizeTarget

/-- The target fits, and 0.9 times the middle of a cell that the sizes lead to leaves a pixel of
each side. -/
def ResizeContext.FileSizeFits (reader : RequestReader) (context : ResizeContext) (lNum : Int) :
    Prop :=
  reader.Holds (lNum * 1024) ∧
    (context.Searches (lNum * 1024) →
      reader.Holds (lNum * 1024 * 2) ∧
        ∀ cell, LeadsTo context.sizes (lNum * 1024) cell →
          1 ≤ context.curWidth * (cell.middle * (90 / 100)) ∧
            1 ≤ context.curHeight * (cell.middle * (90 / 100)))

/-- The numbers of a request are in the range that its form allows. -/
def ResizeContext.RequestFits (reader : RequestReader) (context : ResizeContext)
    (request : Text) : Prop :=
  if '%' ∈ request then
    let percent := beforeFirst '%' request
    reader.reads percent = true → reader.number percent > 0 →
      PercentFits reader (reader.number percent) context.curWidth ∧
        PercentFits reader (reader.number percent) context.curHeight
  else if 'x' ∈ request then
    GivenFits context.ratioInForce (reader.number (beforeFirst 'x' request))
      (reader.number (beforeFirst ' ' (afterFirst 'x' request)))
  else
    reader.kb <:+: request →
      context.FileSizeFits reader (reader.number (beforeFirst 'k' request))

variable {reader : RequestReader} {context : ResizeContext}

/-! ## Sides in range -/

theorem PossibleSide.holds (wide : 32 ≤ reader.bits) {side : Int} (possible : PossibleSide side) :
    reader.Holds side := by
  have larger : (2 : Int) ^ 31 ≤ 2 ^ (reader.bits - 1) :=
    pow_le_pow_right₀ (by norm_num) (by omega)
  exact ⟨(neg_nonpos.mpr (by positivity)).trans (by linarith [possible.1]),
    possible.2.trans_le larger⟩

/-- A truncated side is in range exactly when the side is. -/
theorem possibleSide_truncate_iff {side : ℚ} :
    PossibleSide (truncate side) ↔ 1 ≤ side ∧ side < 2 ^ 31 := by
  unfold PossibleSide
  rcases le_total 0 side with nonneg | nonpos
  · have least := @le_truncate_iff side nonneg 1
    have most := @le_truncate_iff side nonneg (2 ^ 31)
    rw [least, ← not_le, most, not_le]
    push_cast
    exact Iff.rfl
  · constructor
    · rintro ⟨least, -⟩
      have cut := truncate_le_truncate nonpos
      have zero : truncate 0 = 0 := truncate_intCast 0
      omega
    · rintro ⟨least, -⟩
      linarith

/-- A guard that possible sides pass changes nothing. -/
theorem guarded_possible_iff {guard : Prop} [Decidable guard] {destWidth destHeight : Int}
    (passes : PossibleSide destWidth → PossibleSide destHeight → guard) :
    (if guard then Destination.size destWidth destHeight else .undefined).Possible ↔
      PossibleSide destWidth ∧ PossibleSide destHeight := by
  split_ifs with passed
  · exact Iff.rfl
  · exact ⟨fun possible => possible.elim, fun sides => absurd (passes sides.1 sides.2) passed⟩

theorem adjusted_possible_iff (context : ResizeContext) (found : Destination) :
    (context.adjusted found).Possible ↔ found.Possible := by
  cases found with
  | refused => exact Iff.rfl
  | undefined => exact Iff.rfl
  | size destWidth destHeight =>
      rw [ResizeContext.adjusted_size]
      split_ifs
      · exact and_comm
      · exact Iff.rfl

/-! ## Percentages -/

theorem possibleSide_hundredth_iff {product : Int} (nonneg : 0 ≤ product) :
    PossibleSide (product.tdiv 100) ↔ 100 ≤ product ∧ product < 100 * 2 ^ 31 := by
  unfold PossibleSide
  rw [Int.tdiv_eq_ediv_of_nonneg nonneg]
  omega

/-- A side between 1 and 65535. -/
structure ImageSide (side : Nat) : Prop where
  positive : 1 ≤ side
  small : side ≤ 65535

theorem ImageSide.possible {side : Nat} (image : ImageSide side) : PossibleSide side := by
  have positive := image.positive
  have small := image.small
  unfold PossibleSide
  omega

theorem percentSize_possible_iff (width : ImageSide context.curWidth)
    (height : ImageSide context.curHeight) (request : Text) :
    (percentSize reader context request).Possible ↔
      (reader.reads (beforeFirst '%' request) = true →
        reader.number (beforeFirst '%' request) > 0 →
          PercentFits reader (reader.number (beforeFirst '%' request)) context.curWidth ∧
            PercentFits reader (reader.number (beforeFirst '%' request)) context.curHeight) := by
  unfold percentSize
  dsimp only
  generalize reader.number (beforeFirst '%' request) = lNum
  split_ifs with reads positive holds
  · have wide : (0 : Int) ≤ context.curWidth * lNum :=
      mul_nonneg (Int.natCast_nonneg _) positive.le
    have high : (0 : Int) ≤ context.curHeight * lNum :=
      mul_nonneg (Int.natCast_nonneg _) positive.le
    have sides : (Destination.size ((context.curWidth * lNum).tdiv 100)
        ((context.curHeight * lNum).tdiv 100)).Possible ↔
        (100 ≤ context.curWidth * lNum ∧ context.curWidth * lNum < 100 * 2 ^ 31) ∧
          (100 ≤ context.curHeight * lNum ∧ context.curHeight * lNum < 100 * 2 ^ 31) :=
      and_congr (possibleSide_hundredth_iff wide) (possibleSide_hundredth_iff high)
    rw [sides]
    constructor
    · rintro ⟨widthFits, heightFits⟩ - -
      exact ⟨⟨holds.1, widthFits⟩, ⟨holds.2, heightFits⟩⟩
    · intro fits
      exact ⟨(fits reads positive).1.2, (fits reads positive).2.2⟩
  · exact ⟨fun possible => possible.elim,
      fun fits => absurd ⟨(fits reads positive).1.1, (fits reads positive).2.1⟩ holds⟩
  · exact ⟨fun _ _ other => absurd other positive, fun _ => trivial⟩
  · exact ⟨fun _ other => absurd other reads, fun _ => ⟨width.possible, height.possible⟩⟩

/-! ## Sides that are given -/

theorem possibleSide_of_pos {side : Int} (positive : side > 0) :
    PossibleSide side ↔ side < 2 ^ 31 :=
  and_iff_right positive

theorem givenSize_possible_iff (wide : 32 ≤ reader.bits) (ratio : ℚ) (lNum lDenom : Int) :
    (givenSize reader ratio lNum lDenom).Possible ↔ GivenFits ratio lNum lDenom := by
  unfold givenSize GivenFits
  dsimp only
  by_cases both : lNum > 0 ∧ lDenom > 0
  · rw [if_pos both, if_pos both]
    exact and_congr (possibleSide_of_pos both.1) (possibleSide_of_pos both.2)
  rw [if_neg both, if_neg both]
  by_cases num : lNum > 0 ∧ ratio > 0
  · rw [if_pos num, if_pos num, guarded_possible_iff (fun _ side => side.holds wide),
      possibleSide_of_pos num.1, possibleSide_truncate_iff, one_le_div num.2, div_lt_iff₀ num.2]
  rw [if_neg num, if_neg num]
  by_cases denom : lDenom > 0 ∧ ratio > 0
  · rw [if_pos denom, if_pos denom, guarded_possible_iff (fun side _ => side.holds wide),
      possibleSide_of_pos denom.1, possibleSide_truncate_iff, and_comm]
  · rw [if_neg denom, if_neg denom]
    exact Iff.rfl

/-! ## File sizes -/

section Search

variable {sizes : FileSizes} {sizeTarget : Int} {cell : DyadicCell}

/-- The search comes down to a cell that the sizes lead to, and ends with its middle. -/
theorem LeadsTo.loop (leads : LeadsTo sizes sizeTarget cell) :
    ∃ fuel final, SizeSearch.loop sizes sizeTarget fuel (cellSearch sizes .whole) = some final ∧
      final.ratio = cell.middle := by
  have down : ∀ level < cell.level,
      (cellSearch sizes (cell.ancestor level)).Continues sizeTarget ∧
        (cellSearch sizes (cell.ancestor level)).next sizes sizeTarget =
          cellSearch sizes (cell.ancestor (level + 1)) := by
    intro level above
    have shallow : level < lastLevel := above.trans_le leads.level_le
    rw [cellSearch_continues_iff, next_cellSearch]
    rcases leads.descends level above with ⟨⟨far, large⟩, half⟩ | ⟨⟨far, little⟩, half⟩
    · rw [if_pos large, half]
      exact ⟨⟨far, shallow⟩, rfl⟩
    · rw [if_neg little.not_gt, if_pos little, half]
      exact ⟨⟨far, shallow⟩, rfl⟩
  have descent := loop_descent cell down 2 (Nat.zero_le cell.level)
  rw [leads.start] at descent
  refine ⟨2 + (cell.level - 0), ?_⟩
  rw [descent, SizeSearch.loop]
  split_ifs with continues
  · -- only meeting the target can end a search that goes on from here
    obtain ⟨far, shallow⟩ := (cellSearch_continues_iff sizes sizeTarget cell).mp continues
    have met : sizes.rescaled cell.middle = sizeTarget := by
      rcases leads.stops with near | last | met
      · exact absurd near far
      · omega
      · exact met
    rw [next_cellSearch, if_neg met.not_gt, if_neg met.not_lt, SizeSearch.loop,
      if_neg (not_continues_exactSearch sizes cell)]
    exact ⟨_, rfl, rfl⟩
  · exact ⟨_, rfl, rfl⟩

/-- The search ends in a cell that the sizes lead to. -/
theorem loop_leadsTo {fuel : Nat} {final : SizeSearch} (level_le : cell.level ≤ lastLevel)
    (start : cell.ancestor 0 = .whole)
    (descends : cell.Descends (GoesLower sizes sizeTarget) (GoesUpper sizes sizeTarget))
    (found : SizeSearch.loop sizes sizeTarget fuel (cellSearch sizes cell) = some final) :
    ∃ stop, LeadsTo sizes sizeTarget stop ∧ final.ratio = stop.middle := by
  induction fuel generalizing cell with
  | zero => cases found
  | succ fuel ih =>
      rw [SizeSearch.loop] at found
      split at found
      · rename_i continues
        obtain ⟨far, shallow⟩ := (cellSearch_continues_iff sizes sizeTarget cell).mp continues
        rw [next_cellSearch] at found
        split at found
        · rename_i large
          refine @ih cell.lower shallow ?_ (descends.lower ⟨far, large⟩) found
          rw [DyadicCell.ancestor_half rfl (DyadicCell.lower_parent cell) (Nat.zero_le _), start]
        · rename_i notLarge
          split at found
          · rename_i little
            refine @ih cell.upper shallow ?_ (descends.upper ⟨far, little⟩) found
            rw [DyadicCell.ancestor_half rfl (DyadicCell.upper_parent cell) (Nat.zero_le _), start]
          · rename_i notLittle
            have met : sizes.rescaled cell.middle = sizeTarget :=
              le_antisymm (not_lt.mp notLarge) (not_lt.mp notLittle)
            cases fuel with
            | zero => cases found
            | succ fuel =>
                rw [SizeSearch.loop, if_neg (not_continues_exactSearch sizes cell)] at found
                cases found
                exact ⟨cell, ⟨level_le, start, descends, .inr (.inr met)⟩, rfl⟩
      · rename_i stops
        cases found
        refine ⟨cell, ⟨level_le, start, descends, ?_⟩, rfl⟩
        rw [cellSearch_continues_iff, not_and_or, not_not] at stops
        rcases stops with near | deep
        · exact .inl near
        · exact .inr (.inl (le_antisymm level_le (not_lt.mp deep)))

end Search

theorem scaled_possible_iff (wide : 32 ≤ reader.bits) (ratio : ℚ) :
    (context.scaled reader ratio).Possible ↔
      (1 ≤ context.curWidth * ratio ∧ context.curWidth * ratio < 2 ^ 31) ∧
        (1 ≤ context.curHeight * ratio ∧ context.curHeight * ratio < 2 ^ 31) := by
  unfold ResizeContext.scaled
  dsimp only
  rw [guarded_possible_iff (fun width height => ⟨width.holds wide, height.holds wide⟩),
    possibleSide_truncate_iff, possibleSide_truncate_iff]

theorem ImageSide.shrunk {side : Nat} (image : ImageSide side) {ratio : ℚ} (nonneg : 0 ≤ ratio)
    (atMost : ratio ≤ 1) : (side : ℚ) * ratio < 2 ^ 31 := by
  have small : (side : ℚ) ≤ 65535 := by exact_mod_cast image.small
  calc (side : ℚ) * ratio ≤ 65535 * 1 := mul_le_mul small atMost nonneg (by norm_num)
    _ < 2 ^ 31 := by norm_num

/-- A file that needs no search keeps the size of the image. -/
theorem kbRatio_of_not_searches {lNum : Int} (fuel : Nat)
    (done : ¬context.Searches (lNum * 1024)) :
    kbRatio fuel context.sizes context.fileLength lNum = some 1 := by
  unfold kbRatio detectRatio
  dsimp only
  split_ifs with long both
  · rw [Bool.and_eq_true, Bool.not_eq_true', Bool.not_eq_true', decide_eq_false_iff_not,
      decide_eq_false_iff_not] at both
    exact absurd ⟨long, both.1, both.2⟩ done
  · rfl
  · rfl

theorem kbRatio_of_searches {lNum : Int} (fuel : Nat) (searches : context.Searches (lNum * 1024)) :
    kbRatio fuel context.sizes context.fileLength lNum =
      (SizeSearch.loop context.sizes (lNum * 1024) fuel (cellSearch context.sizes .whole)).map
        fun search => search.ratio * (90 / 100) := by
  obtain ⟨long, enough, small⟩ := searches
  unfold kbRatio detectRatio
  dsimp only
  rw [if_pos long, decide_eq_false enough, decide_eq_false small, cellSearch_whole]
  rfl

/-- The ratio of a search makes the image smaller. -/
theorem LeadsTo.ratio_le_one {sizes : FileSizes} {sizeTarget : Int} {cell : DyadicCell}
    (leads : LeadsTo sizes sizeTarget cell) : cell.middle * (90 / 100) ≤ 1 := by
  have inside := DyadicCell.right_le_one (DyadicCell.inside_of_ancestor_zero leads.start)
  linarith [cell.middle_pos, cell.middle_lt_right]

theorem fileSize_possible_iff (wide : 32 ≤ reader.bits) (width : ImageSide context.curWidth)
    (height : ImageSide context.curHeight) (request : Text) :
    (∀ fuel found, fileSize reader fuel context request = some found → found.Possible) ↔
      context.FileSizeFits reader (reader.number (beforeFirst 'k' request)) := by
  unfold fileSize ResizeContext.FileSizeFits
  dsimp only
  generalize reader.number (beforeFirst 'k' request) = lNum
  by_cases overflows : ¬reader.Holds (lNum * 1024) ∨
      (context.Searches (lNum * 1024) ∧ ¬reader.Holds (lNum * 1024 * 2))
  · simp only [if_pos overflows]
    constructor
    · intro possible
      exact (possible 0 .undefined rfl).elim
    · rintro ⟨holds, doubled⟩
      rcases overflows with large | ⟨searches, large⟩
      · exact absurd holds large
      · exact absurd (doubled searches).1 large
  simp only [if_neg overflows]
  rw [not_or, not_not, not_and, not_not] at overflows
  refine Iff.trans ?_ (and_iff_right overflows.1).symm
  by_cases searches : context.Searches (lNum * 1024)
  · simp only [kbRatio_of_searches _ searches, Option.map_map]
    constructor
    · intro possible _
      refine ⟨overflows.2 searches, ?_⟩
      intro cell leads
      obtain ⟨fuel, final, found, middle⟩ := leads.loop
      have scaled := possible fuel (context.scaled reader (final.ratio * (90 / 100))) (by
        rw [found]
        rfl)
      rw [scaled_possible_iff wide, middle] at scaled
      exact ⟨scaled.1.1, scaled.2.1⟩
    · intro fits fuel found same
      obtain ⟨final, run, scaled⟩ := Option.map_eq_some_iff.mp same
      obtain ⟨cell, leads, middle⟩ := loop_leadsTo (Nat.zero_le lastLevel) rfl
        DyadicCell.descends_whole run
      obtain ⟨widthFits, heightFits⟩ := (fits searches).2 cell leads
      have nonneg : 0 ≤ cell.middle * (90 / 100) := mul_nonneg cell.middle_pos.le (by norm_num)
      rw [← scaled, Function.comp_apply, scaled_possible_iff wide, middle]
      exact ⟨⟨widthFits, width.shrunk nonneg leads.ratio_le_one⟩,
        heightFits, height.shrunk nonneg leads.ratio_le_one⟩
  · simp only [kbRatio_of_not_searches _ searches]
    refine ⟨fun _ other => absurd other searches, fun _ fuel found same => ?_⟩
    have least : (1 : ℚ) ≤ context.curWidth ∧ (1 : ℚ) ≤ context.curHeight :=
      ⟨by exact_mod_cast width.positive, by exact_mod_cast height.positive⟩
    rw [← Option.some.inj same, scaled_possible_iff wide]
    exact ⟨⟨by rw [mul_one]; exact least.1, width.shrunk zero_le_one le_rfl⟩,
      by rw [mul_one]; exact least.2, height.shrunk zero_le_one le_rfl⟩

/-! ## Every request -/

/-- A request asks for a possible size exactly when its numbers are in range. -/
theorem asksPossible_iff (reader : RequestReader) (context : ResizeContext) (request : Text)
    (bits : reader.bits = 32 ∨ reader.bits = 64) (width : ImageSide context.curWidth)
    (height : ImageSide context.curHeight) :
    context.AsksPossible reader request ↔ context.RequestFits reader request := by
  have wide : 32 ≤ reader.bits := by omega
  have divides : ¬(context.ratio = 0 ∧ context.curHeight = 0) :=
    fun zero => absurd zero.2 (Nat.ne_of_gt height.positive)
  unfold ResizeContext.AsksPossible ResizeContext.RequestFits destination
  simp only [if_neg divides]
  split_ifs with percent fixed kilobytes
  · rw [← percentSize_possible_iff width height]
    exact ⟨fun possible => possible 0 _ rfl,
      fun possible _ found same => Option.some.inj same ▸ possible⟩
  · rw [← givenSize_possible_iff wide, ← adjusted_possible_iff context]
    exact ⟨fun possible => possible 0 _ rfl,
      fun possible _ found same => Option.some.inj same ▸ possible⟩
  · rw [fileSize_possible_iff wide width height]
    exact ⟨fun fits _ => fits, fun fits => fits kilobytes⟩
  · refine ⟨fun _ present => absurd present kilobytes, fun _ _ found same => ?_⟩
    cases same
    exact trivial

/-- An image of 50 by 50. -/
def thumbnail : ResizeContext := ⟨50, 50, 0, 0, ⟨fun _ => 0, 0⟩, 0⟩

theorem halfThumbnail_possible : thumbnail.AsksPossible (decimalReader 64) "50%".toList :=
  (asksPossible_iff (decimalReader 64) thumbnail "50%".toList (.inr rfl) ⟨by decide, by decide⟩
    ⟨by decide, by decide⟩).mpr fun _ _ => ⟨⟨by decide, by decide, by decide⟩,
      ⟨by decide, by decide, by decide⟩⟩

/-- One percent of 50 is no pixel. -/
theorem onePercent_impossible :
    destination (decimalReader 64) 0 thumbnail "1%".toList = some (.size 0 0) ∧
      ¬thumbnail.AsksPossible (decimalReader 64) "1%".toList := by
  have nothing : destination (decimalReader 64) 0 thumbnail "1%".toList = some (.size 0 0) := by
    decide +kernel
  refine ⟨nothing, fun possible => ?_⟩
  exact absurd (possible 0 (.size 0 0) nothing).1.1 (by decide)

end RPhoto.Editing
