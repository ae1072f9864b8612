import RPhoto.Library.Turning
import Mathlib.Data.Int.Basic

/-!
# Blocks of transform coefficients

A block holds the 64 coefficients of one transform, `block row column` at index
`row * DCTSIZE + column`.  The loops over the coefficients of a block copy it,
transpose it, or change signs: mirroring the samples of a block negates its odd
columns or its odd rows.  A coefficient is a `short`, and -32768 has no negative one.
The corner coefficient, which can have any value, is never negated; anywhere else a
progressive scan can leave -32768, but the encoder refuses it as it refuses 32768, so
integers serve.
-/

namespace RPhoto.Lossless

/-- `DCTSIZE`: the rows and columns of a block. -/
def dctSize : Nat := 8

/-- `JBLOCK`. -/
abbrev Block := Fin 8 → Fin 8 → Int

def isOdd (index : Fin 8) : Bool := index.val % 2 == 1

namespace Block

/-- Copy the even columns, copy the odd ones with sign change. -/
def negateOddColumns (block : Block) : Block :=
  fun row column => if isOdd column then -block row column else block row column

/-- Copy the even rows, copy the odd ones with sign change. -/
def negateOddRows (block : Block) : Block :=
  fun row column => if isOdd row then -block row column else block row column

/-- For an even row negate every odd column, for an odd row every even column. -/
def negateAlternately (block : Block) : Block :=
  fun row column =>
    if isOdd row then (if isOdd column then block row column else -block row column)
    else (if isOdd column then -block row column else block row column)

/-- `dst_ptr[j*DCTSIZE+i] = src_ptr[i*DCTSIZE+j]`. -/
def transposed (block : Block) : Block := fun row column => block column row

/-- The sign changes that mirror the samples of a block along x, along y, or both. -/
def mirrored (alongX alongY : Bool) (block : Block) : Block :=
  fun row column =>
    if (alongX && isOdd column) != (alongY && isOdd row) then -block row column
    else block row column

@[simp] theorem mirrored_neither (block : Block) : block.mirrored false false = block := by
  funext row column
  simp [mirrored]

theorem mirrored_x (block : Block) : block.mirrored true false = block.negateOddColumns := by
  funext row column
  simp [mirrored, negateOddColumns]

theorem mirrored_y (block : Block) : block.mirrored false true = block.negateOddRows := by
  funext row column
  simp [mirrored, negateOddRows]

theorem mirrored_both (block : Block) : block.mirrored true true = block.negateAlternately := by
  funext row column
  unfold mirrored negateAlternately
  cases isOdd row <;> cases isOdd column <;> rfl

/-- Mirroring twice along an axis undoes itself. -/
@[simp] theorem mirrored_mirrored (x y x' y' : Bool) (block : Block) :
    (block.mirrored x y).mirrored x' y' = block.mirrored (x != x') (y != y') := by
  funext row column
  unfold mirrored
  cases x <;> cases y <;> cases x' <;> cases y' <;> cases isOdd row <;>
    cases isOdd column <;> simp

@[simp] theorem transposed_transposed (block : Block) : block.transposed.transposed = block :=
  rfl

/-- Transposing exchanges the axes of a mirroring. -/
theorem transposed_mirrored (x y : Bool) (block : Block) :
    (block.mirrored x y).transposed = block.transposed.mirrored y x := by
  funext row column
  unfold transposed mirrored
  cases x <;> cases y <;> cases isOdd row <;> cases isOdd column <;> rfl

end Block

instance : Library.Mirrorable Block where
  mirror := Block.mirrored
  swap := Block.transposed
  mirror_neither := Block.mirrored_neither
  mirror_mirror := Block.mirrored_mirrored
  swap_swap := Block.transposed_transposed
  swap_mirror := Block.transposed_mirrored

end RPhoto.Lossless
