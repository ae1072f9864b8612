import Mathlib.Algebra.Order.Field.Rat
import Mathlib.Tactic.FieldSimp
import Mathlib.Tactic.Linarith
import Mathlib.Tactic.Positivity
import Mathlib.Tactic.Ring

/-!
# Dyadic cells

Halving the interval from 0 to 1 again and again gives the dyadic cells.  The
cell of index `j` on level `k` goes from `j / 2 ^ k` to `(j + 1) / 2 ^ k`.
-/

namespace RPhoto.Library

/-- One of the cells that halving produces. -/
structure DyadicCell where
  level : Nat
  index : Nat
deriving DecidableEq, Repr

namespace DyadicCell

/-- The whole interval. -/
def whole : DyadicCell := ⟨0, 0⟩

def left (cell : DyadicCell) : ℚ := cell.index / 2 ^ cell.level

def right (cell : DyadicCell) : ℚ := (cell.index + 1) / 2 ^ cell.level

def middle (cell : DyadicCell) : ℚ := (cell.left + cell.right) / 2

/-- The half below the middle. -/
def lower (cell : DyadicCell) : DyadicCell := ⟨cell.level + 1, 2 * cell.index⟩

/-- The half above the middle. -/
def upper (cell : DyadicCell) : DyadicCell := ⟨cell.level + 1, 2 * cell.index + 1⟩

/-- The cell on a given level that a cell lies in. -/
def ancestor (cell : DyadicCell) (level : Nat) : DyadicCell :=
  ⟨level, cell.index / 2 ^ (cell.level - level)⟩

/-- The cell that a cell is a half of. -/
def parent (cell : DyadicCell) : DyadicCell := ⟨cell.level - 1, cell.index / 2⟩

@[simp] theorem whole_left : whole.left = 0 := by simp [left, whole]

@[simp] theorem whole_right : whole.right = 1 := by simp [right, whole]

@[simp] theorem lower_left (cell : DyadicCell) : cell.lower.left = cell.left := by
  simp only [left, lower, pow_succ]
  push_cast
  field_simp

@[simp] theorem lower_right (cell : DyadicCell) : cell.lower.right = cell.middle := by
  simp only [right, lower, middle, left, pow_succ]
  push_cast
  field_simp
  ring

@[simp] theorem upper_left (cell : DyadicCell) : cell.upper.left = cell.middle := by
  simp only [right, upper, middle, left, pow_succ]
  push_cast
  field_simp
  ring

@[simp] theorem upper_right (cell : DyadicCell) : cell.upper.right = cell.right := by
  simp only [right, upper, pow_succ]
  push_cast
  field_simp
  ring

theorem lower_middle (cell : DyadicCell) :
    cell.lower.middle = (cell.left + cell.middle) / 2 := by
  rw [middle, lower_left, lower_right]

theorem upper_middle (cell : DyadicCell) :
    cell.upper.middle = (cell.middle + cell.right) / 2 := by
  rw [middle, upper_left, upper_right]

@[simp] theorem lower_parent (cell : DyadicCell) : cell.lower.parent = cell := by
  simp [lower, parent]

@[simp] theorem upper_parent (cell : DyadicCell) : cell.upper.parent = cell := by
  have half : (2 * cell.index + 1) / 2 = cell.index := by omega
  simp [upper, parent, half]

/-- Below the whole interval every cell is one of the halves of its parent. -/
theorem eq_half_of_parent {cell : DyadicCell} (deeper : 0 < cell.level) :
    cell = cell.parent.lower ∨ cell = cell.parent.upper := by
  rcases cell with ⟨level, index⟩
  have above : level - 1 + 1 = level := Nat.sub_add_cancel deeper
  simp only [parent, lower, upper, above, mk.injEq, true_and]
  omega

theorem right_sub_left (cell : DyadicCell) : cell.right - cell.left = 1 / 2 ^ cell.level := by
  simp only [right, left]
  field_simp
  ring

theorem left_nonneg (cell : DyadicCell) : 0 ≤ cell.left := by
  unfold left
  positivity

theorem left_lt_right (cell : DyadicCell) : cell.left < cell.right := by
  have width : 0 < cell.right - cell.left := by
    rw [right_sub_left]
    positivity
  linarith

theorem left_lt_middle (cell : DyadicCell) : cell.left < cell.middle := by
  have := cell.left_lt_right
  unfold middle
  linarith

theorem middle_lt_right (cell : DyadicCell) : cell.middle < cell.right := by
  have := cell.left_lt_right
  unfold middle
  linarith

theorem middle_pos (cell : DyadicCell) : 0 < cell.middle :=
  cell.left_nonneg.trans_lt cell.left_lt_middle

theorem left_pos {cell : DyadicCell} (later : 0 < cell.index) : 0 < cell.left := by
  unfold left
  positivity

/-- A cell of the whole interval ends at 1 at the latest. -/
theorem right_le_one {cell : DyadicCell} (inside : cell.index < 2 ^ cell.level) :
    cell.right ≤ 1 := by
  unfold right
  rw [div_le_one (by positivity)]
  exact_mod_cast inside

@[simp] theorem ancestor_level (cell : DyadicCell) (level : Nat) :
    (cell.ancestor level).level = level := rfl

@[simp] theorem ancestor_self (cell : DyadicCell) : cell.ancestor cell.level = cell := by
  simp [ancestor]

theorem ancestor_zero {cell : DyadicCell} (inside : cell.index < 2 ^ cell.level) :
    cell.ancestor 0 = whole := by
  simp [ancestor, whole, Nat.div_eq_of_lt inside]

theorem inside_of_ancestor_zero {cell : DyadicCell} (start : cell.ancestor 0 = whole) :
    cell.index < 2 ^ cell.level := by
  have outside : cell.index / 2 ^ cell.level = 0 := congrArg DyadicCell.index start
  rcases Nat.div_eq_zero_iff.mp outside with empty | inside
  · exact absurd empty (by positivity)
  · exact inside

/-- On the way down to a cell, one goes into the lower or the upper half. -/
theorem ancestor_succ {cell : DyadicCell} {level : Nat} (above : level < cell.level) :
    cell.ancestor (level + 1) = (cell.ancestor level).lower ∨
      cell.ancestor (level + 1) = (cell.ancestor level).upper := by
  have steps : cell.level - level = cell.level - (level + 1) + 1 := by omega
  have halves : cell.index / 2 ^ (cell.level - level) =
      cell.index / 2 ^ (cell.level - (level + 1)) / 2 := by
    rw [steps, pow_succ, Nat.div_div_eq_div_mul]
  simp only [ancestor, lower, upper, mk.injEq, true_and, halves]
  omega

theorem ancestor_ancestor {cell : DyadicCell} {level below : Nat} (above : level ≤ below)
    (inner : below ≤ cell.level) : (cell.ancestor below).ancestor level = cell.ancestor level := by
  have steps : cell.level - level = cell.level - below + (below - level) := by omega
  simp only [ancestor, mk.injEq, true_and]
  rw [Nat.div_div_eq_div_mul, ← pow_add, ← steps]

theorem parent_eq_ancestor {cell : DyadicCell} (deeper : 0 < cell.level) :
    cell.parent = cell.ancestor (cell.level - 1) := by
  have step : cell.level - (cell.level - 1) = 1 := by omega
  simp [parent, ancestor, step]

theorem ancestor_inside {cell : DyadicCell} {level : Nat} (above : level ≤ cell.level)
    (inside : cell.index < 2 ^ cell.level) :
    (cell.ancestor level).index < 2 ^ (cell.ancestor level).level := by
  show cell.index / 2 ^ (cell.level - level) < 2 ^ level
  rw [Nat.div_lt_iff_lt_mul (by positivity), ← pow_add, Nat.add_sub_cancel' above]
  exact inside

/-- A cell lies in each of its ancestors. -/
theorem ancestor_contains {cell : DyadicCell} {level : Nat} (above : level ≤ cell.level) :
    (cell.ancestor level).left ≤ cell.left ∧ cell.right ≤ (cell.ancestor level).right := by
  obtain ⟨depth, levels⟩ := Nat.exists_eq_add_of_le above
  induction depth generalizing level with
  | zero =>
      have same : level = cell.level := levels.symm
      rw [same, ancestor_self]
      exact ⟨le_rfl, le_rfl⟩
  | succ depth ih =>
      obtain ⟨left, right⟩ := @ih (level + 1) (by omega) (by omega)
      rcases @ancestor_succ cell level (by omega) with half | half
      · rw [half, lower_left] at left
        rw [half, lower_right] at right
        exact ⟨left, right.trans (middle_lt_right _).le⟩
      · rw [half, upper_left] at left
        rw [half, upper_right] at right
        exact ⟨(left_lt_middle _).le.trans left, right⟩

/-- The parent of a cell lies in each ancestor above it. -/
theorem ancestor_left_le_parent {cell : DyadicCell} {level : Nat} (above : level < cell.level) :
    (cell.ancestor level).left ≤ cell.parent.left := by
  have inner : level ≤ cell.level - 1 := by omega
  have outer : cell.level - 1 ≤ cell.level := by omega
  have contained : level ≤ (cell.ancestor (cell.level - 1)).level := inner
  rw [parent_eq_ancestor (by omega), ← ancestor_ancestor inner outer]
  exact (ancestor_contains contained).1

/-- Below a cell, the way down to one of its halves is the way down to the cell. -/
theorem ancestor_half {cell half : DyadicCell} (levels : half.level = cell.level + 1)
    (parent : half.parent = cell) {level : Nat} (above : level ≤ cell.level) :
    half.ancestor level = cell.ancestor level := by
  have outer : half.ancestor cell.level = cell := by
    rw [← parent, parent_eq_ancestor (by omega)]
    rfl
  calc half.ancestor level = (half.ancestor cell.level).ancestor level :=
        (ancestor_ancestor above (by omega)).symm
    _ = cell.ancestor level := by rw [outer]

/-- A search that halves the interval comes down to a cell: above the cell it always goes into
the half that the cell lies in. -/
def Descends (intoLower intoUpper : DyadicCell → Prop) (cell : DyadicCell) : Prop :=
  ∀ level < cell.level,
    (intoLower (cell.ancestor level) ∧ cell.ancestor (level + 1) = (cell.ancestor level).lower) ∨
      (intoUpper (cell.ancestor level) ∧
        cell.ancestor (level + 1) = (cell.ancestor level).upper)

section Descends

variable {intoLower intoUpper : DyadicCell → Prop} {cell : DyadicCell}

theorem descends_whole : whole.Descends intoLower intoUpper := by
  intro level above
  exact absurd above (Nat.not_lt_zero level)

theorem Descends.lower (descends : cell.Descends intoLower intoUpper) (into : intoLower cell) :
    cell.lower.Descends intoLower intoUpper := by
  intro level above
  have inner : level ≤ cell.level := Nat.lt_succ_iff.mp above
  rw [ancestor_half rfl (lower_parent cell) inner]
  rcases inner.lt_or_eq with outer | last
  · rw [ancestor_half rfl (lower_parent cell) outer]
    exact descends level outer
  · left
    rw [last, ancestor_self]
    exact ⟨into, ancestor_self cell.lower⟩

theorem Descends.upper (descends : cell.Descends intoLower intoUpper) (into : intoUpper cell) :
    cell.upper.Descends intoLower intoUpper := by
  intro level above
  have inner : level ≤ cell.level := Nat.lt_succ_iff.mp above
  rw [ancestor_half rfl (upper_parent cell) inner]
  rcases inner.lt_or_eq with outer | last
  · rw [ancestor_half rfl (upper_parent cell) outer]
    exact descends level outer
  · right
    rw [last, ancestor_self]
    exact ⟨into, ancestor_self cell.upper⟩

end Descends

end DyadicCell

end RPhoto.Library
