import RPhoto.Lossless.Block
import RPhoto.Library.Painting

/-!
# Virtual block arrays

The memory manager's arrays of coefficient blocks.  Access is granted to a few rows
at a time and refused, by the error exit, outside the array, for more rows than were
announced, past undefined rows to a writer, and on undefined rows to a reader.  The
rows granted are then read and written without a check, so a place outside them is
given no result here.  Which part of an array is in memory does not show in its
contents and is left out.
-/

namespace RPhoto.Lossless

/-- The fields of a virtual array that are fixed when it is requested. -/
structure Layout where
  blocksPerRow : Nat
  rowsInArray : Nat
  maxAccess : Nat
  preZero : Bool
  deriving DecidableEq

/-- `jvirt_barray_control`. -/
structure VirtualArray where
  layout : Layout
  firstUndefRow : Nat
  block : Nat → Nat → Block

namespace VirtualArray

/-- `request_virt_barray`, realized in memory that holds anything. -/
def request (layout : Layout) (memory : Nat → Nat → Block) : VirtualArray :=
  ⟨layout, 0, memory⟩

/-- `jzero_far` on the rows from the first to before the last. -/
def zeroRows (array : VirtualArray) (first last : Nat) : VirtualArray :=
  { array with
    block := fun row column =>
      if first ≤ row ∧ row < last then fun _ _ => 0 else array.block row column }

/-- `access_virt_barray`. -/
def access (array : VirtualArray) (startRow numRows : Nat) (writable : Bool) :
    Option VirtualArray :=
  let endRow := startRow + numRows
  if array.layout.rowsInArray < endRow ∨ array.layout.maxAccess < numRows then none
  else if array.firstUndefRow < endRow then
    if array.firstUndefRow < startRow ∧ writable then none
    else
      let undefRow := if array.firstUndefRow < startRow then startRow else array.firstUndefRow
      let marked := if writable then { array with firstUndefRow := endRow } else array
      if array.layout.preZero then some (marked.zeroRows undefRow endRow)
      else if writable then some marked
      else none
  else some array

/-- `buffer[offset][column]`, for the rows granted from the start row. -/
def read (array : VirtualArray) (startRow numRows offset column : Nat) : Option Block :=
  if offset < numRows ∧ column < array.layout.blocksPerRow then
    some (array.block (startRow + offset) column)
  else none

/-- Write the block `buffer[offset][column]`. -/
def write (array : VirtualArray) (startRow numRows offset column : Nat) (block : Block) :
    Option VirtualArray :=
  if offset < numRows ∧ column < array.layout.blocksPerRow then
    some { array with
      block := fun row place =>
        if row = startRow + offset ∧ place = column then block else array.block row place }
  else none

/-- Every row holds its data, as after reading a whole file. -/
def Complete (array : VirtualArray) : Prop := array.layout.rowsInArray ≤ array.firstUndefRow

/-- The block of a cell, a row and a column. -/
def cell (array : VirtualArray) (place : Nat × Nat) : Block := array.block place.1 place.2

variable {array : VirtualArray} {startRow numRows offset column : Nat}

/-- Among the defined rows every access of few enough rows is granted. -/
theorem access_defined (defined : startRow + numRows ≤ array.firstUndefRow)
    (inside : startRow + numRows ≤ array.layout.rowsInArray)
    (few : numRows ≤ array.layout.maxAccess) (writable : Bool) :
    array.access startRow numRows writable = some array := by
  have granted : ¬(array.layout.rowsInArray < startRow + numRows ∨
      array.layout.maxAccess < numRows) := by omega
  unfold VirtualArray.access
  rw [if_neg granted, if_neg (Nat.not_lt.mpr defined)]

theorem Complete.access (complete : array.Complete)
    (inside : startRow + numRows ≤ array.layout.rowsInArray)
    (few : numRows ≤ array.layout.maxAccess) (writable : Bool) :
    array.access startRow numRows writable = some array :=
  access_defined (Nat.le_trans inside complete) inside few writable

/-- A writer is granted the rows that follow the defined ones, which become defined. -/
theorem access_next (fresh : array.layout.preZero = false)
    (next : array.firstUndefRow = startRow)
    (inside : startRow + numRows ≤ array.layout.rowsInArray)
    (few : numRows ≤ array.layout.maxAccess) (some_row : 0 < numRows) :
    array.access startRow numRows true =
      some { array with firstUndefRow := startRow + numRows } := by
  have granted : ¬(array.layout.rowsInArray < startRow + numRows ∨
      array.layout.maxAccess < numRows) := by omega
  have undefined : array.firstUndefRow < startRow + numRows := by omega
  have not_past : ¬(array.firstUndefRow < startRow ∧ true = true) := by omega
  unfold VirtualArray.access
  rw [if_neg granted, if_pos undefined, if_neg not_past, fresh]
  rfl

theorem read_of_lt (row : offset < numRows) (inside : column < array.layout.blocksPerRow) :
    array.read startRow numRows offset column =
      some (array.cell (startRow + offset, column)) :=
  if_pos ⟨row, inside⟩

/-- Writing a wanted block paints its cell. -/
theorem write_paints (wanted : Nat × Nat → Block) (startRow : Nat) (row : offset < numRows)
    (inside : column < array.layout.blocksPerRow) :
    ∃ next, array.write startRow numRows offset column (wanted (startRow + offset, column)) =
        some next ∧
      Library.Paints cell wanted {(startRow + offset, column)} array next ∧
      next.layout = array.layout ∧ next.firstUndefRow = array.firstUndefRow := by
  refine ⟨_, if_pos ⟨row, inside⟩, ⟨?_, ?_⟩, rfl, rfl⟩
  · rintro place rfl
    exact if_pos ⟨rfl, rfl⟩
  · intro place other
    refine if_neg fun same => other ?_
    exact Prod.ext same.1 same.2

end VirtualArray

end RPhoto.Lossless
