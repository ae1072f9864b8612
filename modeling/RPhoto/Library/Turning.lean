import RPhoto.Library.Reflection

/-!
# Turned planes

A plane gives each row and column a cell.  A turn may transpose the plane and then
reflects an initial zone of its columns and one of its rows; a zone of nothing
reflects nothing.  Cells have an inside that turns along: mirroring along the two
axes and transposing act on a cell as the symmetries of a square do.  Turns compose
when the zones they reflect along one axis are the same or one of them is empty, and
a plane of tiles turns by turning the plane of its cells and every tile.
-/

namespace RPhoto.Library

/-- The symmetries of a square, acting on the inside of a cell. -/
class Mirrorable (Cell : Type) where
  mirror : Bool → Bool → Cell → Cell
  swap : Cell → Cell
  mirror_neither : ∀ cell, mirror false false cell = cell
  mirror_mirror : ∀ x y x' y' cell,
    mirror x' y' (mirror x y cell) = mirror (x != x') (y != y') cell
  swap_swap : ∀ cell, swap (swap cell) = cell
  swap_mirror : ∀ x y cell, swap (mirror x y cell) = mirror y x (swap cell)

/-- A plane of cells, by row and column. -/
abbrev Plane (Cell : Type) := Nat → Nat → Cell

/-- A transposition or none, and the columns and rows that are reflected after it. -/
@[ext] structure Turn where
  transposes : Bool
  columns : Nat
  rows : Nat
  deriving DecidableEq

namespace Turn

/-- The turn that changes nothing. -/
def still : Turn := ⟨false, 0, 0⟩

/-- Two zones reflected along one axis are reflected as one, or cancel. -/
def merge (first second : Nat) : Nat :=
  if first = 0 then second else if second = 0 then first else 0

/-- The zone of the first turn that lies along the columns after the second. -/
def columnsBefore (first second : Turn) : Nat :=
  if second.transposes then first.rows else first.columns

def rowsBefore (first second : Turn) : Nat :=
  if second.transposes then first.columns else first.rows

def andThen (first second : Turn) : Turn :=
  ⟨first.transposes != second.transposes, merge (first.columnsBefore second) second.columns,
    merge (first.rowsBefore second) second.rows⟩

/-- Zones that can be reflected one after the other. -/
def Matching (first second : Nat) : Prop := first = 0 ∨ second = 0 ∨ first = second

structure Compatible (first second : Turn) : Prop where
  columns : Matching (first.columnsBefore second) second.columns
  rows : Matching (first.rowsBefore second) second.rows

theorem reflect_merge {first second : Nat} (matching : Matching first second) (place : Nat) :
    reflect first (reflect second place) = reflect (merge first second) place := by
  unfold merge
  rcases matching with rfl | rfl | rfl
  · simp
  · by_cases empty : first = 0
    · simp [empty]
    · simp [empty]
  · by_cases empty : first = 0
    · simp [empty]
    · simp [empty]

theorem lt_merge {first second : Nat} (matching : Matching first second) (place : Nat) :
    (decide (reflect second place < first) != decide (place < second)) =
      decide (place < merge first second) := by
  unfold merge
  rcases matching with rfl | rfl | rfl
  · simp
  · by_cases empty : first = 0
    · simp [empty]
    · simp [empty]
  · by_cases empty : first = 0
    · simp [empty]
    · simp [empty]

end Turn

variable {Cell : Type} [Mirrorable Cell]

/-- The turned plane. -/
def turned (turn : Turn) (plane : Plane Cell) : Plane Cell := fun row column =>
  Mirrorable.mirror (decide (column < turn.columns)) (decide (row < turn.rows))
    (if turn.transposes then
      Mirrorable.swap (plane (reflect turn.columns column) (reflect turn.rows row))
    else plane (reflect turn.rows row) (reflect turn.columns column))

theorem turned_still (plane : Plane Cell) : turned Turn.still plane = plane := by
  funext row column
  simp [turned, Turn.still, Mirrorable.mirror_neither]

/-- One turn after another is the composed turn. -/
theorem turned_turned {first second : Turn} (compatible : first.Compatible second)
    (plane : Plane Cell) :
    turned second (turned first plane) = turned (first.andThen second) plane := by
  funext row column
  obtain ⟨firstTransposes, firstColumns, firstRows⟩ := first
  obtain ⟨secondTransposes, secondColumns, secondRows⟩ := second
  have alongColumns := compatible.columns
  have alongRows := compatible.rows
  have columns := Turn.lt_merge alongColumns column
  have rows := Turn.lt_merge alongRows row
  unfold turned Turn.andThen
  dsimp only
  rw [← columns, ← rows, ← Turn.reflect_merge alongColumns, ← Turn.reflect_merge alongRows]
  cases secondTransposes with
  | false =>
      cases firstTransposes with
      | false => simp [Turn.columnsBefore, Turn.rowsBefore, Mirrorable.mirror_mirror]
      | true => simp [Turn.columnsBefore, Turn.rowsBefore, Mirrorable.mirror_mirror]
  | true =>
      cases firstTransposes with
      | false =>
          simp [Turn.columnsBefore, Turn.rowsBefore, Mirrorable.mirror_mirror,
            Mirrorable.swap_mirror]
      | true =>
          simp [Turn.columnsBefore, Turn.rowsBefore, Mirrorable.mirror_mirror,
            Mirrorable.swap_mirror, Mirrorable.swap_swap]

/-- Planes that agree where the turn takes a cell from turn to the same cell. -/
theorem turned_congr {turn : Turn} {plane other : Plane Cell} {row column : Nat}
    (same : if turn.transposes then
        plane (reflect turn.columns column) (reflect turn.rows row) =
          other (reflect turn.columns column) (reflect turn.rows row)
      else plane (reflect turn.rows row) (reflect turn.columns column) =
        other (reflect turn.rows row) (reflect turn.columns column)) :
    turned turn plane row column = turned turn other row column := by
  unfold turned
  cases transposes : turn.transposes with
  | false =>
      rw [transposes] at same
      simpa using congrArg _ same
  | true =>
      rw [transposes] at same
      simpa using congrArg _ (congrArg Mirrorable.swap same)

/-- The turn of a plane of points, which have no inside. -/
def turnedPoints {Point : Type} (turn : Turn) (plane : Plane Point) : Plane Point :=
  fun row column =>
    if turn.transposes then plane (reflect turn.columns column) (reflect turn.rows row)
    else plane (reflect turn.rows row) (reflect turn.columns column)

/-- The turn on the scale of tiles that are this wide and this high. -/
def Turn.scaled (turn : Turn) (width height : Nat) : Turn :=
  ⟨turn.transposes, turn.columns * width, turn.rows * height⟩

/-- The points of a plane whose cells are seen through tiles of this height and width. -/
def tiled {Point : Type} (tile : Cell → Nat → Nat → Point) (height width : Nat)
    (plane : Plane Cell) : Plane Point :=
  fun row column =>
    tile (plane (row / height) (column / width)) (row % height) (column % width)

/-- A position inside a tile, reversed or not. -/
def within (reversed : Bool) (size position : Nat) : Nat :=
  if reversed then size - 1 - position else position

/-- The tiles of the target show the turned insides of the cells the source's tiles show. -/
def TilesTurn {Point : Type} (transposes : Bool) (source target : Cell → Nat → Nat → Point)
    (height width : Nat) : Prop :=
  ∀ x y cell, ∀ row < height, ∀ column < width,
    target (Mirrorable.mirror x y (if transposes then Mirrorable.swap cell else cell)) row
        column =
      if transposes then source cell (within x width column) (within y height row)
      else source cell (within y height row) (within x width column)

/-- The points of a turned plane are the turned points of the plane. -/
theorem tiled_turned {Point : Type} {turn : Turn} {source target : Cell → Nat → Nat → Point}
    {height width : Nat} (high : 0 < height) (wide : 0 < width)
    (turns : TilesTurn turn.transposes source target height width) (plane : Plane Cell)
    (row column : Nat) :
    tiled target height width (turned turn plane) row column =
      turnedPoints (turn.scaled width height)
        (if turn.transposes then tiled source width height plane
          else tiled source height width plane) row column := by
  have rows := reflect_div high turn.rows row
  have rowsInside := reflect_mod high turn.rows row
  have columns := reflect_div wide turn.columns column
  have columnsInside := reflect_mod wide turn.columns column
  obtain ⟨transposes, zoneColumns, zoneRows⟩ := turn
  have tiles := turns (decide (column / width < zoneColumns)) (decide (row / height < zoneRows))
  unfold tiled turned turnedPoints Turn.scaled
  cases transposes with
  | false =>
      simp only [Bool.false_eq_true, if_false] at tiles ⊢
      rw [tiles _ _ (Nat.mod_lt row high) _ (Nat.mod_lt column wide), rows, columns, rowsInside,
        columnsInside]
      simp only [within, decide_eq_true_eq]
  | true =>
      simp only [if_true] at tiles ⊢
      rw [tiles _ _ (Nat.mod_lt row high) _ (Nat.mod_lt column wide), rows, columns, rowsInside,
        columnsInside]
      simp only [within, decide_eq_true_eq]

end RPhoto.Library
