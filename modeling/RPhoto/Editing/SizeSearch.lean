import RPhoto.Library.Dyadic
import Mathlib.Data.Rat.Cast.Order
import Mathlib.Tactic.NormNum

/-!
# Resizing to a file size

For a size in kilobytes `Resize` looks for a ratio by bisection: it saves the
image rescaled by the ratio and compares the length of the file with the target.
It moves to the next ratio before it tests whether the last file was close
enough, and so applies a ratio whose file it has not seen.
-/

namespace RPhoto.Editing

open RPhoto.Library

/-- The lengths of the test files: of the image rescaled by a ratio, and of one pixel. -/
structure FileSizes where
  rescaled : ℚ → Nat
  smallest : Nat

/-- The variables of the search loop. -/
structure SizeSearch where
  sizeCur : Nat
  minratio : ℚ
  maxratio : ℚ
  ratio : ℚ
  oldratio : ℚ
deriving DecidableEq

/-- `sizeTarget * 2 / 100`. -/
def sizeTolerance (sizeTarget : Int) : Int := (sizeTarget * 2).tdiv 100

/-- The condition of the search loop. -/
def SizeSearch.Continues (sizeTarget : Int) (search : SizeSearch) : Prop :=
  |search.sizeCur - sizeTarget| > sizeTolerance sizeTarget ∧
    |search.oldratio - search.ratio| > 1 / 1000

instance (sizeTarget : Int) (search : SizeSearch) : Decidable (search.Continues sizeTarget) :=
  inferInstanceAs (Decidable (_ ∧ _))

/-- The body of the search loop. -/
def SizeSearch.next (sizes : FileSizes) (sizeTarget : Int) (search : SizeSearch) : SizeSearch :=
  let sizeCur := sizes.rescaled search.ratio
  let oldratio := search.ratio
  if sizeCur > sizeTarget then
    ⟨sizeCur, search.minratio, search.ratio, (search.ratio + search.minratio) / 2, oldratio⟩
  else if sizeCur < sizeTarget then
    ⟨sizeCur, search.ratio, search.maxratio, (search.ratio + search.maxratio) / 2, oldratio⟩
  else ⟨sizeCur, search.minratio, search.maxratio, search.ratio, oldratio⟩

/-- The search loop; the fuel bounds the number of its tests. -/
def SizeSearch.loop (sizes : FileSizes) (sizeTarget : Int) :
    Nat → SizeSearch → Option SizeSearch
  | 0, _ => none
  | fuel + 1, search =>
      if search.Continues sizeTarget then loop sizes sizeTarget fuel (search.next sizes sizeTarget)
      else some search

/-- The detection of the ratio, for a file that is too long. -/
def detectRatio (fuel : Nat) (sizes : FileSizes) (sizeTarget : Int) : Option ℚ :=
  let maxok := !decide (sizes.rescaled 1 < sizeTarget)
  let minok := !decide (sizes.smallest > sizeTarget)
  if maxok && minok then
    (SizeSearch.loop sizes sizeTarget fuel ⟨sizes.smallest, 0, 1, 1 / 2, 1⟩).map
      fun search => search.ratio * (90 / 100)
  else some 1

/-- The ratio `Resize` applies for a size of `lNum` kilobytes; the file on disk decides whether
it has to look for one. -/
def kbRatio (fuel : Nat) (sizes : FileSizes) (fileLength : Nat) (lNum : Int) : Option ℚ :=
  let sizeTarget := lNum * 1024
  if fileLength > sizeTarget then detectRatio fuel sizes sizeTarget else some 1

/-! ## The cells of the search -/

/-- The size at the left end of a cell. -/
def FileSizes.atLeft (sizes : FileSizes) (cell : DyadicCell) : Nat :=
  if cell.index = 0 then sizes.smallest else sizes.rescaled cell.left

/-- The size the search measured last when it comes to a cell. -/
def FileSizes.measured (sizes : FileSizes) (cell : DyadicCell) : Nat :=
  if cell.level = 0 then sizes.smallest
  else if cell.index % 2 = 1 then sizes.rescaled cell.left
  else sizes.rescaled cell.right

/-- The loop when it has narrowed the ratio down to a cell. -/
def cellSearch (sizes : FileSizes) (cell : DyadicCell) : SizeSearch where
  sizeCur := sizes.measured cell
  minratio := cell.left
  maxratio := cell.right
  ratio := cell.middle
  oldratio := if cell.index % 2 = 1 then cell.left else cell.right

/-- The levels a cell can have before the ratio moves by less than a thousandth. -/
def lastLevel : Nat := 9

/-- The size measured last is near the target. -/
def NearTarget (sizeTarget : Int) (size : Nat) : Prop :=
  |size - sizeTarget| ≤ sizeTolerance sizeTarget

variable {sizes : FileSizes} {sizeTarget : Int} {cell : DyadicCell}

theorem cellSearch_whole (sizes : FileSizes) :
    cellSearch sizes .whole = ⟨sizes.smallest, 0, 1, 1 / 2, 1⟩ := by
  simp [cellSearch, FileSizes.measured, DyadicCell.middle, DyadicCell.whole_left,
    DyadicCell.whole_right]
  simp [DyadicCell.whole]

/-- The ratio has moved by half the width of the cell. -/
theorem abs_oldratio_sub_ratio (sizes : FileSizes) (cell : DyadicCell) :
    |(cellSearch sizes cell).oldratio - (cellSearch sizes cell).ratio| =
      1 / 2 ^ (cell.level + 1) := by
  have width := cell.right_sub_left
  have half : (1 : ℚ) / 2 ^ (cell.level + 1) = (cell.right - cell.left) / 2 := by
    rw [width, pow_succ]
    field_simp
  have below := cell.left_lt_right
  rw [half]
  simp only [cellSearch, DyadicCell.middle]
  split
  · rw [abs_of_nonpos (by linarith)]
    ring
  · rw [abs_of_nonneg (by linarith)]
    ring

/-- The loop goes on from a cell as long as the last size is not near the target and the cell
is wide enough. -/
theorem cellSearch_continues_iff (sizes : FileSizes) (sizeTarget : Int) (cell : DyadicCell) :
    (cellSearch sizes cell).Continues sizeTarget ↔
      ¬NearTarget sizeTarget (sizes.measured cell) ∧ cell.level < lastLevel := by
  have wide : (1 : ℚ) / 2 ^ (cell.level + 1) > 1 / 1000 ↔ cell.level < lastLevel := by
    rw [gt_iff_lt, one_div_lt_one_div (by norm_num) (by positivity)]
    have powers : (2 : ℚ) ^ (cell.level + 1) < 1000 ↔ 2 ^ (cell.level + 1) < 1000 := by
      exact_mod_cast Iff.rfl
    rw [powers]
    constructor
    · intro small
      by_contra deep
      have : 2 ^ 10 ≤ 2 ^ (cell.level + 1) :=
        Nat.pow_le_pow_right (by decide) (by unfold lastLevel at deep; omega)
      omega
    · intro shallow
      have : 2 ^ (cell.level + 1) ≤ 2 ^ 9 :=
        Nat.pow_le_pow_right (by decide) (by unfold lastLevel at shallow; omega)
      omega
  rw [SizeSearch.Continues, abs_oldratio_sub_ratio, wide, NearTarget, not_le]
  rfl

theorem lower_index_even (cell : DyadicCell) : ¬cell.lower.index % 2 = 1 := by
  simp [DyadicCell.lower]

theorem upper_index_odd (cell : DyadicCell) : cell.upper.index % 2 = 1 := by
  simp [DyadicCell.upper, Nat.add_mod]

@[simp] theorem measured_lower (sizes : FileSizes) (cell : DyadicCell) :
    sizes.measured cell.lower = sizes.rescaled cell.middle := by
  have deeper : cell.lower.level ≠ 0 := Nat.succ_ne_zero _
  rw [FileSizes.measured, if_neg deeper, if_neg (lower_index_even cell), DyadicCell.lower_right]

@[simp] theorem measured_upper (sizes : FileSizes) (cell : DyadicCell) :
    sizes.measured cell.upper = sizes.rescaled cell.middle := by
  have deeper : cell.upper.level ≠ 0 := Nat.succ_ne_zero _
  rw [FileSizes.measured, if_neg deeper, if_pos (upper_index_odd cell), DyadicCell.upper_left]

/-- The loop when it has met the target in the middle of a cell. -/
def exactSearch (sizes : FileSizes) (cell : DyadicCell) : SizeSearch :=
  ⟨sizes.rescaled cell.middle, cell.left, cell.right, cell.middle, cell.middle⟩

/-- One turn of the loop goes to one half of the cell, unless it meets the target. -/
theorem next_cellSearch (sizes : FileSizes) (sizeTarget : Int) (cell : DyadicCell) :
    (cellSearch sizes cell).next sizes sizeTarget =
      if sizes.rescaled cell.middle > sizeTarget then cellSearch sizes cell.lower
      else if sizes.rescaled cell.middle < sizeTarget then cellSearch sizes cell.upper
      else exactSearch sizes cell := by
  have lower : cellSearch sizes cell.lower =
      ⟨sizes.rescaled cell.middle, cell.left, cell.middle, (cell.middle + cell.left) / 2,
        cell.middle⟩ := by
    rw [cellSearch, measured_lower, if_neg (lower_index_even cell), DyadicCell.lower_middle,
      DyadicCell.lower_left, DyadicCell.lower_right, add_comm]
  have upper : cellSearch sizes cell.upper =
      ⟨sizes.rescaled cell.middle, cell.middle, cell.right, (cell.middle + cell.right) / 2,
        cell.middle⟩ := by
    rw [cellSearch, measured_upper, if_pos (upper_index_odd cell), DyadicCell.upper_middle,
      DyadicCell.upper_left, DyadicCell.upper_right]
  rw [lower, upper]
  rfl

/-- The loop does not go on once it has met the target. -/
theorem not_continues_exactSearch (sizes : FileSizes) (cell : DyadicCell) :
    ¬(exactSearch sizes cell).Continues sizeTarget := by
  rintro ⟨-, moves⟩
  simp [exactSearch] at moves
  norm_num at moves

/-! ## What the search finds -/

/-- The files get no smaller when the image is rescaled by a larger ratio. -/
structure FileSizes.Growing (sizes : FileSizes) : Prop where
  mono : ∀ {first second : ℚ}, 0 < first → first ≤ second → second ≤ 1 →
    sizes.rescaled first ≤ sizes.rescaled second
  smallest : ∀ {ratio : ℚ}, 0 < ratio → ratio ≤ 1 → sizes.smallest ≤ sizes.rescaled ratio

/-- A size too far below the target to stop at. -/
def FarBelow (sizeTarget : Int) (size : Nat) : Prop :=
  size < sizeTarget - sizeTolerance sizeTarget

/-- What the search knows when it comes to a cell: the target lies between the sizes at its
two ends, and the left end of its parent was too small. -/
structure Brackets (sizes : FileSizes) (sizeTarget : Int) (cell : DyadicCell) : Prop where
  inside : cell.index < 2 ^ cell.level
  level_le : cell.level ≤ lastLevel
  left : 0 < cell.level → sizes.atLeft cell < sizeTarget
  parent : 0 < cell.level → FarBelow sizeTarget (sizes.atLeft cell.parent)
  right : sizeTarget < sizes.rescaled cell.right

/-- The search stops in a cell, for what it knows of its left end alone. -/
def StopsAtLeft (sizes : FileSizes) (sizeTarget : Int) (cell : DyadicCell) : Prop :=
  if cell.level = 0 then ¬FarBelow sizeTarget sizes.smallest
  else
    FarBelow sizeTarget (sizes.atLeft cell.parent) ∧ sizes.atLeft cell < sizeTarget ∧
      (cell.level = lastLevel ∨ ¬FarBelow sizeTarget (sizes.atLeft cell))

/-- Near the smallest image the sizes jump over the target and its tolerance in less than
0.9 times the half of a cell in which the search stops. -/
def JumpsPast (sizes : FileSizes) (sizeTarget : Int) : Prop :=
  ∃ cell : DyadicCell, cell.level ≤ lastLevel ∧ cell.index < 5 ∧ cell.index < 2 ^ cell.level ∧
    StopsAtLeft sizes sizeTarget cell ∧
    102 * sizeTarget < 100 * sizes.rescaled (cell.middle * (90 / 100))

theorem FileSizes.Growing.atLeft_le (growing : sizes.Growing) {ratio : ℚ} (positive : 0 < ratio)
    (beyond : cell.left ≤ ratio) (atMost : ratio ≤ 1) :
    sizes.atLeft cell ≤ sizes.rescaled ratio := by
  unfold FileSizes.atLeft
  split
  · exact growing.smallest positive atMost
  · rename_i later
    exact growing.mono (DyadicCell.left_pos (Nat.pos_of_ne_zero later)) beyond atMost

theorem FileSizes.atLeft_of_pos {cell : DyadicCell} (later : 0 < cell.index) :
    sizes.atLeft cell = sizes.rescaled cell.left :=
  if_neg later.ne'

/-- Of two cells the one further left has no larger size at its left end. -/
theorem FileSizes.Growing.atLeft_mono (growing : sizes.Growing) {first second : DyadicCell}
    (before : first.left ≤ second.left) (inside : second.index < 2 ^ second.level) :
    sizes.atLeft first ≤ sizes.atLeft second := by
  by_cases start : second.index = 0
  · have zero : second.left = 0 := by simp [DyadicCell.left, start]
    have first_zero : first.index = 0 := by
      by_contra later
      have := DyadicCell.left_pos (Nat.pos_of_ne_zero later)
      linarith
    simp [FileSizes.atLeft, start, first_zero]
  · have later := Nat.pos_of_ne_zero start
    rw [FileSizes.atLeft_of_pos later]
    exact growing.atLeft_le (DyadicCell.left_pos later) before
      (second.left_lt_right.le.trans (DyadicCell.right_le_one inside))

@[simp] theorem atLeft_lower (sizes : FileSizes) (cell : DyadicCell) :
    sizes.atLeft cell.lower = sizes.atLeft cell := by
  have start : cell.lower.index = 0 ↔ cell.index = 0 := by simp [DyadicCell.lower]
  simp only [FileSizes.atLeft, start, DyadicCell.lower_left]

@[simp] theorem atLeft_upper (sizes : FileSizes) (cell : DyadicCell) :
    sizes.atLeft cell.upper = sizes.rescaled cell.middle := by
  rw [FileSizes.atLeft_of_pos (Nat.succ_pos _), DyadicCell.upper_left]

/-- The size measured last is the one at the left end of the cell, or else the one at the right
end, and then the left end is that of the parent. -/
theorem measured_eq_or (sizes : FileSizes) {cell : DyadicCell}
    (inside : cell.index < 2 ^ cell.level) :
    sizes.measured cell = sizes.atLeft cell ∨
      0 < cell.level ∧ sizes.atLeft cell = sizes.atLeft cell.parent ∧
        sizes.measured cell = sizes.rescaled cell.right := by
  by_cases top : cell.level = 0
  · have start : cell.index = 0 := by
      rw [top] at inside
      omega
    left
    simp [FileSizes.atLeft, FileSizes.measured, start, top]
  · have deeper := Nat.pos_of_ne_zero top
    rcases DyadicCell.eq_half_of_parent deeper with half | half
    · right
      refine ⟨deeper, ?_, ?_⟩
      · conv_lhs => rw [half, atLeft_lower]
      · rw [half, measured_lower, DyadicCell.lower_right]
    · left
      rw [half, atLeft_upper, measured_upper]

/-! ## Sizes and the tolerance -/

theorem sizeTolerance_nonneg (nonneg : 0 ≤ sizeTarget) : 0 ≤ sizeTolerance sizeTarget :=
  Int.tdiv_nonneg (by omega) (by omega)

/-- A size that is not above the target is near it unless it is far below. -/
theorem nearTarget_iff_of_le {size : Nat} (atMost : (size : Int) ≤ sizeTarget) :
    NearTarget sizeTarget size ↔ ¬FarBelow sizeTarget size := by
  have distance : |(size : Int) - sizeTarget| = sizeTarget - size := by
    rw [abs_of_nonpos (by omega)]
    omega
  rw [NearTarget, FarBelow, distance]
  omega

/-- More than 1.02 times the target is not near it. -/
theorem not_near_of_past {size : Nat} (nonneg : 0 ≤ sizeTarget)
    (past : 102 * sizeTarget < 100 * size) : ¬NearTarget sizeTarget size := by
  have distance : |(size : Int) - sizeTarget| = size - sizeTarget := abs_of_nonneg (by omega)
  have tolerance : sizeTolerance sizeTarget = sizeTarget * 2 / 100 :=
    Int.tdiv_eq_ediv_of_nonneg (by omega)
  rw [NearTarget, distance, tolerance]
  omega

theorem FarBelow.lt {size : Nat} (nonneg : 0 ≤ sizeTarget) (far : FarBelow sizeTarget size) :
    size < sizeTarget := by
  have := sizeTolerance_nonneg nonneg
  unfold FarBelow at far
  omega

theorem FarBelow.of_le {first second : Nat} (far : FarBelow sizeTarget second)
    (atMost : first ≤ second) : FarBelow sizeTarget first := by
  unfold FarBelow at far ⊢
  omega

/-! ## The run of the loop -/

/-- The loop ends, whatever the sizes. -/
theorem loop_ends (sizes : FileSizes) (sizeTarget : Int) {fuel : Nat} {cell : DyadicCell}
    (enough : lastLevel - cell.level < fuel) :
    ∃ final, SizeSearch.loop sizes sizeTarget fuel (cellSearch sizes cell) = some final := by
  induction fuel generalizing cell with
  | zero => omega
  | succ fuel ih =>
      rw [SizeSearch.loop]
      split
      · rename_i continues
        have shallow := ((cellSearch_continues_iff sizes sizeTarget cell).mp continues).2
        rw [next_cellSearch]
        split
        · apply ih
          show lastLevel - (cell.level + 1) < fuel
          omega
        · split
          · apply ih
            show lastLevel - (cell.level + 1) < fuel
            omega
          · obtain ⟨rest, more⟩ := Nat.exists_eq_succ_of_ne_zero (show fuel ≠ 0 by omega)
            rw [more, SizeSearch.loop, if_neg (not_continues_exactSearch sizes cell)]
            exact ⟨_, rfl⟩
      · exact ⟨_, rfl⟩

/-- The result does not depend on the fuel. -/
theorem loop_unique {first second : Nat} {search a b : SizeSearch}
    (foundFirst : SizeSearch.loop sizes sizeTarget first search = some a)
    (foundSecond : SizeSearch.loop sizes sizeTarget second search = some b) : a = b := by
  induction first generalizing second search with
  | zero => cases foundFirst
  | succ first ih =>
      cases second with
      | zero => cases foundSecond
      | succ second =>
          rw [SizeSearch.loop] at foundFirst foundSecond
          split at foundFirst
          · rename_i continues
            rw [if_pos continues] at foundSecond
            exact ih foundFirst foundSecond
          · rename_i stops
            rw [if_neg stops] at foundSecond
            exact Option.some.inj (foundFirst.symm.trans foundSecond)

/-- When each cell above leads to the next one, the loop comes down to the cell. -/
theorem loop_descent (cell : DyadicCell)
    (down : ∀ level < cell.level,
      (cellSearch sizes (cell.ancestor level)).Continues sizeTarget ∧
        (cellSearch sizes (cell.ancestor level)).next sizes sizeTarget =
          cellSearch sizes (cell.ancestor (level + 1)))
    (fuel : Nat) {level : Nat} (above : level ≤ cell.level) :
    SizeSearch.loop sizes sizeTarget (fuel + (cell.level - level))
        (cellSearch sizes (cell.ancestor level)) =
      SizeSearch.loop sizes sizeTarget fuel (cellSearch sizes cell) := by
  obtain ⟨depth, levels⟩ := Nat.exists_eq_add_of_le above
  induction depth generalizing level with
  | zero =>
      have same : level = cell.level := levels.symm
      rw [same, DyadicCell.ancestor_self, Nat.sub_self, Nat.add_zero]
  | succ depth ih =>
      obtain ⟨continues, next⟩ := down level (by omega)
      have turns : fuel + (cell.level - level) = fuel + (cell.level - (level + 1)) + 1 := by omega
      rw [turns, SizeSearch.loop, if_pos continues, next]
      exact ih (by omega) (by omega)

section Growing

variable (growing : sizes.Growing) (minok : (sizes.smallest : Int) ≤ sizeTarget)

include minok

theorem target_nonneg : 0 ≤ sizeTarget :=
  (Int.natCast_nonneg sizes.smallest).trans minok

/-- When the loop goes on from a cell, the left end of the cell was too small. -/
theorem Brackets.farBelow (brackets : Brackets sizes sizeTarget cell)
    (continues : (cellSearch sizes cell).Continues sizeTarget) :
    FarBelow sizeTarget (sizes.atLeft cell) := by
  have notNear := ((cellSearch_continues_iff sizes sizeTarget cell).mp continues).1
  rcases measured_eq_or sizes brackets.inside with last | ⟨deeper, inherited, -⟩
  · have atMost : (sizes.atLeft cell : Int) ≤ sizeTarget := by
      by_cases top : cell.level = 0
      · rw [← last]
        simpa [FileSizes.measured, top] using minok
      · exact (brackets.left (Nat.pos_of_ne_zero top)).le
    rw [last, nearTarget_iff_of_le atMost, not_not] at notNear
    exact notNear
  · rw [inherited]
    exact brackets.parent deeper

/-- The loop keeps the target between the sizes at the ends of its cell. -/
theorem Brackets.step (brackets : Brackets sizes sizeTarget cell)
    (continues : (cellSearch sizes cell).Continues sizeTarget) :
    (sizeTarget < sizes.rescaled cell.middle → Brackets sizes sizeTarget cell.lower) ∧
      (sizes.rescaled cell.middle < sizeTarget → Brackets sizes sizeTarget cell.upper) := by
  have far := brackets.farBelow minok continues
  have shallow := ((cellSearch_continues_iff sizes sizeTarget cell).mp continues).2
  have inside := brackets.inside
  have wider : 2 ^ (cell.level + 1) = 2 * 2 ^ cell.level := by
    rw [pow_succ, mul_comm]
  constructor
  · intro above
    constructor
    · show 2 * cell.index < 2 ^ (cell.level + 1)
      omega
    · exact shallow
    · intro _
      rw [atLeft_lower]
      exact far.lt (target_nonneg minok)
    · intro _
      rwa [DyadicCell.lower_parent]
    · rwa [DyadicCell.lower_right]
  · intro below
    constructor
    · show 2 * cell.index + 1 < 2 ^ (cell.level + 1)
      omega
    · exact shallow
    · intro _
      rwa [atLeft_upper]
    · intro _
      rwa [DyadicCell.upper_parent]
    · rw [DyadicCell.upper_right]
      exact brackets.right

/-- Where the loop ends: at the target itself, or in a cell around it. -/
theorem loop_cases {fuel : Nat} {final : SizeSearch} (brackets : Brackets sizes sizeTarget cell)
    (found : SizeSearch.loop sizes sizeTarget fuel (cellSearch sizes cell) = some final) :
    (0 < final.ratio ∧ final.ratio ≤ 1 ∧ sizes.rescaled final.ratio = sizeTarget) ∨
      ∃ stop, Brackets sizes sizeTarget stop ∧ final = cellSearch sizes stop ∧
        ¬(cellSearch sizes stop).Continues sizeTarget := by
  induction fuel generalizing cell with
  | zero => cases found
  | succ fuel ih =>
      rw [SizeSearch.loop] at found
      split at found
      · rename_i continues
        obtain ⟨lower, upper⟩ := brackets.step minok continues
        rw [next_cellSearch] at found
        split at found
        · rename_i above
          exact ih (lower above) found
        · rename_i notAbove
          split at found
          · rename_i below
            exact ih (upper below) found
          · rename_i notBelow
            left
            cases fuel with
            | zero => cases found
            | succ fuel =>
                rw [SizeSearch.loop, if_neg (not_continues_exactSearch sizes cell)] at found
                cases found
                exact ⟨cell.middle_pos, cell.middle_lt_right.le.trans
                  (DyadicCell.right_le_one brackets.inside),
                  le_antisymm (not_lt.mp notAbove) (not_lt.mp notBelow)⟩
      · rename_i stops
        cases found
        exact .inr ⟨cell, brackets, rfl, stops⟩

/-- Where the left end decides, the loop does stop. -/
theorem StopsAtLeft.not_continues (stops : StopsAtLeft sizes sizeTarget cell)
    (inside : cell.index < 2 ^ cell.level) :
    ¬(cellSearch sizes cell).Continues sizeTarget := by
  rw [cellSearch_continues_iff]
  rintro ⟨notNear, shallow⟩
  unfold StopsAtLeft at stops
  split at stops
  · rename_i top
    apply notNear
    rw [FileSizes.measured, if_pos top, nearTarget_iff_of_le minok]
    exact stops
  · obtain ⟨parentFar, below, deepest | notFar⟩ := stops
    · omega
    · rcases measured_eq_or sizes inside with last | ⟨-, inherited, -⟩
      · apply notNear
        rw [last, nearTarget_iff_of_le below.le]
        exact notFar
      · rw [inherited] at notFar
        exact notFar parentFar

include growing

/-- One turn of the loop on the way down to a cell with a jump past the target. -/
theorem next_ancestor (stops : StopsAtLeft sizes sizeTarget cell)
    (level_le : cell.level ≤ lastLevel)
    (inside : cell.index < 2 ^ cell.level)
    (past : 102 * sizeTarget < 100 * sizes.rescaled (cell.middle * (90 / 100))) {level : Nat}
    (above : level < cell.level) :
    (cellSearch sizes (cell.ancestor level)).Continues sizeTarget ∧
      (cellSearch sizes (cell.ancestor level)).next sizes sizeTarget =
        cellSearch sizes (cell.ancestor (level + 1)) := by
  have nonneg := target_nonneg minok
  have jumpPositive : 0 < cell.middle * (90 / 100) := mul_pos cell.middle_pos (by norm_num)
  have jumpBefore : cell.middle * (90 / 100) ≤ cell.right := by
    linarith [cell.middle_pos, cell.middle_lt_right]
  have top : cell.level ≠ 0 := by omega
  rw [StopsAtLeft, if_neg top] at stops
  obtain ⟨parentFar, below, -⟩ := stops
  -- the sizes to the right of the jump are past the target
  have pastBeyond : ∀ ratio, cell.right ≤ ratio → ratio ≤ 1 →
      102 * sizeTarget < 100 * sizes.rescaled ratio := by
    intro ratio beyond atMost
    have := growing.mono jumpPositive (jumpBefore.trans beyond) atMost
    omega
  have ancestorInside := DyadicCell.ancestor_inside above.le inside
  have contains := @DyadicCell.ancestor_contains cell level above.le
  have parentInside : cell.parent.index < 2 ^ cell.parent.level := by
    rw [DyadicCell.parent_eq_ancestor (Nat.pos_of_ne_zero top)]
    exact DyadicCell.ancestor_inside (by omega) inside
  constructor
  · rw [cellSearch_continues_iff]
    refine ⟨?_, by rw [DyadicCell.ancestor_level]; omega⟩
    rcases measured_eq_or sizes ancestorInside with last | ⟨-, -, last⟩
    · have far := parentFar.of_le
        (growing.atLeft_mono (DyadicCell.ancestor_left_le_parent above) parentInside)
      rw [last, nearTarget_iff_of_le (far.lt nonneg).le, not_not]
      exact far
    · rw [last]
      exact not_near_of_past nonneg
        (pastBeyond _ contains.2 (DyadicCell.right_le_one ancestorInside))
  · have nextInside := DyadicCell.ancestor_inside (Nat.succ_le_of_lt above) inside
    have nextContains := DyadicCell.ancestor_contains (Nat.succ_le_of_lt above)
    rw [next_cellSearch]
    rcases DyadicCell.ancestor_succ above with half | half
    · have beyond := pastBeyond _ nextContains.2 (DyadicCell.right_le_one nextInside)
      rw [half, DyadicCell.lower_right] at beyond
      rw [half, if_pos (by omega)]
    · have before := growing.atLeft_mono nextContains.1 inside
      rw [half, atLeft_upper] at before
      rw [half, if_neg (by omega), if_pos (by omega)]

/-- The loop comes down to every cell with a jump past the target. -/
theorem loop_ancestor (stops : StopsAtLeft sizes sizeTarget cell)
    (level_le : cell.level ≤ lastLevel) (inside : cell.index < 2 ^ cell.level)
    (past : 102 * sizeTarget < 100 * sizes.rescaled (cell.middle * (90 / 100))) (fuel : Nat)
    {level : Nat} (above : level ≤ cell.level) :
    SizeSearch.loop sizes sizeTarget (fuel + (cell.level - level))
        (cellSearch sizes (cell.ancestor level)) =
      SizeSearch.loop sizes sizeTarget fuel (cellSearch sizes cell) :=
  loop_descent cell
    (fun _ outer => next_ancestor growing minok stops level_le inside past outer) fuel above

omit minok in
/-- From the sixth cell of a level on, 0.9 times the middle is left of the cell. -/
theorem rescaled_le_atLeft (later : 5 ≤ cell.index) (inside : cell.index < 2 ^ cell.level) :
    sizes.rescaled (cell.middle * (90 / 100)) ≤ sizes.atLeft cell := by
  have width : 0 < cell.right - cell.left := by linarith [cell.left_lt_right]
  have lefts : cell.left = cell.index * (cell.right - cell.left) := by
    rw [cell.right_sub_left, DyadicCell.left]
    ring
  have fifth : 5 * (cell.right - cell.left) ≤ cell.left := by
    have indices : (5 : ℚ) ≤ cell.index := by exact_mod_cast later
    calc 5 * (cell.right - cell.left) ≤ cell.index * (cell.right - cell.left) :=
          mul_le_mul_of_nonneg_right indices width.le
      _ = cell.left := lefts.symm
  have positive : 0 < cell.index := by omega
  rw [FileSizes.atLeft_of_pos positive]
  apply growing.mono
  · exact mul_pos cell.middle_pos (by norm_num)
  · unfold DyadicCell.middle
    linarith
  · exact cell.left_lt_right.le.trans (DyadicCell.right_le_one inside)

/-- A cell in which the loop stops and misses the target by more than the tolerance is one of
the first five of its level, and its left end decides. -/
theorem Brackets.jumpsPast (brackets : Brackets sizes sizeTarget cell)
    (stops : ¬(cellSearch sizes cell).Continues sizeTarget)
    (past : 102 * sizeTarget < 100 * sizes.rescaled (cell.middle * (90 / 100))) :
    JumpsPast sizes sizeTarget := by
  have nonneg := target_nonneg minok
  have jumpPositive : 0 < cell.middle * (90 / 100) := mul_pos cell.middle_pos (by norm_num)
  have beyond : sizes.rescaled (cell.middle * (90 / 100)) ≤ sizes.rescaled cell.right := by
    apply growing.mono jumpPositive
    · linarith [cell.middle_pos, cell.middle_lt_right]
    · exact DyadicCell.right_le_one brackets.inside
  have near : cell.level < lastLevel → NearTarget sizeTarget (sizes.atLeft cell) := by
    intro shallow
    rw [cellSearch_continues_iff] at stops
    have last : NearTarget sizeTarget (sizes.measured cell) := by
      by_contra notNear
      exact stops ⟨notNear, shallow⟩
    rcases measured_eq_or sizes brackets.inside with left | ⟨-, -, right⟩
    · rwa [← left]
    · rw [right] at last
      exact absurd last (not_near_of_past nonneg (by omega))
  refine ⟨cell, brackets.level_le, ?_, brackets.inside, ?_, past⟩
  · by_contra later
    have deeper : 0 < cell.level := by
      by_contra top
      have inside := brackets.inside
      rw [Nat.eq_zero_of_not_pos top] at inside
      omega
    have := rescaled_le_atLeft growing (by omega) brackets.inside
    have := brackets.left deeper
    omega
  · unfold StopsAtLeft
    split
    · rename_i top
      have start : sizes.atLeft cell = sizes.smallest := by
        have inside := brackets.inside
        rw [top] at inside
        exact if_pos (by omega)
      rw [← nearTarget_iff_of_le minok, ← start]
      exact near (by rw [top]; decide)
    · rename_i top
      have deeper := Nat.pos_of_ne_zero top
      refine ⟨brackets.parent deeper, brackets.left deeper, ?_⟩
      by_cases shallow : cell.level < lastLevel
      · right
        rw [← nearTarget_iff_of_le (brackets.left deeper).le]
        exact near shallow
      · exact .inl (le_antisymm brackets.level_le (not_lt.mp shallow))

/-- The search ends, and its ratio keeps to the tolerance exactly when the sizes do not jump
past it near the smallest image. -/
theorem detectRatio_within_iff (maxok : sizeTarget < sizes.rescaled 1) :
    (∃ fuel ratio, detectRatio fuel sizes sizeTarget = some ratio ∧
      100 * (sizes.rescaled ratio : Int) ≤ 102 * sizeTarget) ↔ ¬JumpsPast sizes sizeTarget := by
  have start (fuel : Nat) : detectRatio fuel sizes sizeTarget =
      (SizeSearch.loop sizes sizeTarget fuel (cellSearch sizes .whole)).map
        fun search => search.ratio * (90 / 100) := by
    have enough : ¬((sizes.rescaled 1 : Int) < sizeTarget) := by omega
    have small : ¬((sizes.smallest : Int) > sizeTarget) := by omega
    simp [detectRatio, cellSearch_whole, enough, small]
  constructor
  · rintro ⟨fuel, ratio, found, within⟩ ⟨cell, level_le, -, inside, stops, past⟩
    rw [start] at found
    obtain ⟨final, ended, ratioEq⟩ := Option.map_eq_some_iff.mp found
    have comes := loop_ancestor growing minok stops level_le inside past 1 (Nat.zero_le _)
    rw [DyadicCell.ancestor_zero inside, SizeSearch.loop,
      if_neg (stops.not_continues minok inside)] at comes
    rw [loop_unique ended comes] at ratioEq
    subst ratioEq
    have : 102 * sizeTarget < 100 * sizes.rescaled ((cellSearch sizes cell).ratio * (90 / 100)) :=
      past
    omega
  · intro noJump
    have whole : Brackets sizes sizeTarget .whole :=
      ⟨by decide, by decide, fun top => absurd top (by decide),
        fun top => absurd top (by decide), by rwa [DyadicCell.whole_right]⟩
    obtain ⟨final, ended⟩ :=
      loop_ends sizes sizeTarget (show lastLevel - DyadicCell.whole.level < 10 by decide)
    refine ⟨10, final.ratio * (90 / 100), by rw [start, ended]; rfl, ?_⟩
    rcases loop_cases minok whole ended with
      ⟨positive, atMost, exact⟩ | ⟨stop, brackets, rfl, stops⟩
    · have reduced : sizes.rescaled (final.ratio * (90 / 100)) ≤ sizes.rescaled final.ratio :=
        growing.mono (mul_pos positive (by norm_num)) (by linarith) atMost
      have nonneg := target_nonneg minok
      omega
    · by_contra past
      exact noJump (brackets.jumpsPast growing minok stops (not_le.mp past))

end Growing

/--
The ratio applied for a size of `lNum` kilobytes: the search for it ends, and the
size of the result keeps to the tolerance exactly when the sizes do not jump past
it near the smallest image.
-/
theorem kbRatio_within_iff (sizes : FileSizes) (fileLength : Nat) (lNum : Int)
    (growing : sizes.Growing) (tooLong : fileLength > lNum * 1024)
    (minok : (sizes.smallest : Int) ≤ lNum * 1024) (maxok : lNum * 1024 < sizes.rescaled 1) :
    (∃ fuel ratio, kbRatio fuel sizes fileLength lNum = some ratio ∧
      100 * (sizes.rescaled ratio : Int) ≤ 102 * (lNum * 1024)) ↔
      ¬JumpsPast sizes (lNum * 1024) := by
  simp only [kbRatio, if_pos tooLong]
  exact detectRatio_within_iff growing minok maxok

/-- Files of one size up to a ratio and of another beyond it. -/
def stepSizes (edge : ℚ) (small large : Nat) : FileSizes where
  rescaled := fun ratio => if ratio ≤ edge then small else large
  smallest := small

theorem stepSizes_growing {edge : ℚ} {small large : Nat} (ordered : small ≤ large) :
    (stepSizes edge small large).Growing where
  mono := by
    intro first second _ below _
    simp only [stepSizes]
    split_ifs
    · exact le_rfl
    · exact ordered
    · rename_i beyond within
      exact absurd (below.trans within) beyond
    · exact le_rfl
  smallest := by
    intro ratio _ _
    simp only [stepSizes]
    split_ifs
    · exact le_rfl
    · exact ordered

/-- A picture whose smallest version has a kilobyte of headers. -/
def headerSizes : FileSizes := stepSizes (1 / 4) 1010 50000

/-- A picture of half a kilobyte up to three quarters of its size. -/
def lateSizes : FileSizes := stepSizes (3 / 4) 500 50000

/-- The smallest version is within the tolerance, the image at 0.45 of its size is not. -/
theorem headerSizes_jumps : JumpsPast headerSizes (1 * 1024) := by
  refine ⟨.whole, by decide, by decide, by decide, ?_, ?_⟩
  · show ¬((1010 : Nat) : Int) < 1 * 1024 - sizeTolerance (1 * 1024)
    decide
  · norm_num [headerSizes, stepSizes, DyadicCell.middle]

/-- Near the smallest image the files of this picture are all of half a kilobyte. -/
theorem lateSizes_smooth : ¬JumpsPast lateSizes (1 * 1024) := by
  rintro ⟨cell, -, early, -, stops, past⟩
  have left : lateSizes.atLeft cell = 500 ∨ lateSizes.atLeft cell = 50000 := by
    unfold FileSizes.atLeft
    simp only [lateSizes, stepSizes]
    split_ifs <;> simp
  have far : FarBelow (1 * 1024) 500 := show ((500 : Nat) : Int) < _ by decide
  unfold StopsAtLeft at stops
  split_ifs at stops with top
  · exact stops far
  · obtain ⟨-, below, deep | near⟩ := stops
    · have narrow : cell.middle ≤ 5 / 512 := by
        have index : (cell.index : ℚ) ≤ 4 := by exact_mod_cast Nat.le_of_lt_succ early
        simp only [DyadicCell.middle, DyadicCell.left, DyadicCell.right, deep, lastLevel]
        norm_num
        linarith
      have small : lateSizes.rescaled (cell.middle * (90 / 100)) = 500 := if_pos (by linarith)
      rw [small] at past
      exact absurd past (by decide)
    · rcases left with small | large
      · rw [small] at near
        exact near far
      · rw [large] at below
        exact absurd below (by decide)

/--
The condition at work for a size of one kilobyte: the one search makes no turn, and the
other closes in on three quarters.
-/
theorem kbRatio_headerSizes :
    (¬∃ fuel ratio, kbRatio fuel headerSizes 50000 1 = some ratio ∧
      100 * (headerSizes.rescaled ratio : Int) ≤ 102 * (1 * 1024)) ∧
    ∃ fuel ratio, kbRatio fuel lateSizes 50000 1 = some ratio ∧
      100 * (lateSizes.rescaled ratio : Int) ≤ 102 * (1 * 1024) := by
  constructor
  · have maxok : (1 * 1024 : Int) < headerSizes.rescaled 1 := by norm_num [headerSizes, stepSizes]
    rw [kbRatio_within_iff headerSizes 50000 1 (stepSizes_growing (by decide)) (by decide)
      (by decide) maxok, not_not]
    exact headerSizes_jumps
  · have maxok : (1 * 1024 : Int) < lateSizes.rescaled 1 := by norm_num [lateSizes, stepSizes]
    exact (kbRatio_within_iff lateSizes 50000 1 (stepSizes_growing (by decide)) (by decide)
      (by decide) maxok).mpr lateSizes_smooth

/-- The search for a size of one kilobyte makes no turn and applies 0.45. -/
theorem headerSizes_resized :
    headerSizes.Growing ∧ (headerSizes.smallest : Int) ≤ 1 * 1024 ∧
      (1 * 1024 : Int) < headerSizes.rescaled 1 ∧
      kbRatio 1 headerSizes 50000 1 = some (45 / 100) ∧
      ¬100 * (headerSizes.rescaled (45 / 100) : Int) ≤ 102 * (1 * 1024) := by
  refine ⟨stepSizes_growing (by decide), by decide, by norm_num [headerSizes, stepSizes], ?_, ?_⟩
  · have tooLong : ((50000 : Nat) : Int) > 1 * 1024 := by decide
    have maxok : ¬(headerSizes.rescaled 1 : Int) < 1 * 1024 := by norm_num [headerSizes, stepSizes]
    have minok : ¬(headerSizes.smallest : Int) > 1 * 1024 := by decide
    have stops : ¬SizeSearch.Continues (1 * 1024) ⟨headerSizes.smallest, 0, 1, 1 / 2, 1⟩ :=
      fun continues => absurd continues.1 (by decide)
    rw [kbRatio, if_pos tooLong, detectRatio, decide_eq_false maxok, decide_eq_false minok,
      SizeSearch.loop, if_neg stops]
    norm_num
  · norm_num [headerSizes, stepSizes]

end RPhoto.Editing
