import RPhoto.Lossless.VirtualArray

/-!
# The transformation routines

The loops that fill the blocks of one component of the destination from the blocks of
the source.  Crop, flips and half turn go through the rows of both arrays in step;
transposition, quarter turns and transverse transposition read a row of the
destination from a column of the source.  Partial iMCUs at a right or bottom edge
that is mirrored stay where they are.  Counters and offsets are unsigned numbers of
32 bits whose differences wrap; their sums and products stay far below the limit.
-/

namespace RPhoto.Lossless

open RPhoto.Library

/-- The difference of two `JDIMENSION` values. -/
def jdimensionSub (value other : Nat) : Nat := (value + 2 ^ 32 - other) % 2 ^ 32

theorem jdimensionSub_of_le {value other : Nat} (le : other ≤ value)
    (bounded : value < 2 ^ 32) : jdimensionSub value other = value - other := by
  unfold jdimensionSub
  omega

/-- What a routine reads for one component, beside the arrays. -/
structure Setting where
  /-- `srcinfo->image_width` and `srcinfo->image_height` -/
  imageWidth : Nat
  imageHeight : Nat
  /-- of the destination, like all that follows -/
  maxHSampFactor : Nat
  maxVSampFactor : Nat
  hSampFactor : Nat
  vSampFactor : Nat
  widthInBlocks : Nat
  heightInBlocks : Nat
  xCropOffset : Nat
  yCropOffset : Nat

namespace Setting

variable (setting : Setting)

def xCropBlocks : Nat := setting.xCropOffset * setting.hSampFactor
def yCropBlocks : Nat := setting.yCropOffset * setting.vSampFactor

/-- The full iMCU columns of a source of this width, counted in destination iMCUs. -/
def mcuCols (width : Nat) : Nat := width / (setting.maxHSampFactor * dctSize)
def mcuRows (height : Nat) : Nat := height / (setting.maxVSampFactor * dctSize)

end Setting

/-- Where a destination block comes from: a row and column of the rows granted. -/
structure Origin where
  offset : Nat
  column : Nat
  change : Block → Block

/--
The loops of the routines that do not transpose.  `start` is the first source row for
a group of destination rows, `origin` says where each block of the group comes from.
A source read ahead of its data would be zeroed again at each access.
-/
def straightRoutine (setting : Setting) (start : Nat → Nat) (origin : Nat → Nat → Nat → Origin)
    (source destination : VirtualArray) : Option VirtualArray :=
  upToBy setting.vSampFactor setting.heightInBlocks (fun dstBlkY destination => do
    let destination ← destination.access dstBlkY setting.vSampFactor true
    let source ← source.access (start dstBlkY) setting.vSampFactor false
    upTo setting.vSampFactor (fun offsetY destination =>
      upTo setting.widthInBlocks (fun dstBlkX destination => do
        let taken := origin dstBlkY offsetY dstBlkX
        let block ← source.read (start dstBlkY) setting.vSampFactor taken.offset taken.column
        destination.write dstBlkY setting.vSampFactor offsetY dstBlkX (taken.change block))
        destination) destination) destination

/--
The loops of the routines that transpose.  The rows of the source granted belong to a
group of destination columns.
-/
def transposingRoutine (setting : Setting) (start : Nat → Nat)
    (origin : Nat → Nat → Nat → Nat → Origin) (source destination : VirtualArray) :
    Option VirtualArray :=
  upToBy setting.vSampFactor setting.heightInBlocks (fun dstBlkY destination => do
    let destination ← destination.access dstBlkY setting.vSampFactor true
    upTo setting.vSampFactor (fun offsetY destination =>
      upToBy setting.hSampFactor setting.widthInBlocks (fun dstBlkX destination => do
        let source ← source.access (start dstBlkX) setting.hSampFactor false
        upTo setting.hSampFactor (fun offsetX destination => do
          let taken := origin dstBlkY offsetY dstBlkX offsetX
          let block ← source.read (start dstBlkX) setting.hSampFactor taken.offset taken.column
          destination.write dstBlkY setting.vSampFactor offsetY (dstBlkX + offsetX)
            (taken.change block)) destination) destination) destination) destination

section

variable (setting : Setting)

/-- `do_crop`; the blocks of a row are copied by one call there. -/
def doCrop (source destination : VirtualArray) : Option VirtualArray :=
  straightRoutine setting (fun dstBlkY => dstBlkY + setting.yCropBlocks)
    (fun _ offsetY dstBlkX => ⟨offsetY, setting.xCropBlocks + dstBlkX, id⟩) source destination

/-- `do_flip_h`. -/
def doFlipH (source destination : VirtualArray) : Option VirtualArray :=
  let compWidth := setting.mcuCols setting.imageWidth * setting.hSampFactor
  straightRoutine setting (fun dstBlkY => dstBlkY + setting.yCropBlocks)
    (fun _ offsetY dstBlkX =>
      if setting.xCropBlocks + dstBlkX < compWidth then
        ⟨offsetY,
          jdimensionSub (jdimensionSub (jdimensionSub compWidth setting.xCropBlocks) dstBlkX) 1,
          Block.negateOddColumns⟩
      else ⟨offsetY, dstBlkX + setting.xCropBlocks, id⟩) source destination

/-- `do_flip_v`. -/
def doFlipV (source destination : VirtualArray) : Option VirtualArray :=
  let compHeight := setting.mcuRows setting.imageHeight * setting.vSampFactor
  straightRoutine setting
    (fun dstBlkY =>
      if setting.yCropBlocks + dstBlkY < compHeight then
        jdimensionSub (jdimensionSub (jdimensionSub compHeight setting.yCropBlocks) dstBlkY)
          setting.vSampFactor
      else dstBlkY + setting.yCropBlocks)
    (fun dstBlkY offsetY dstBlkX =>
      if setting.yCropBlocks + dstBlkY < compHeight then
        ⟨setting.vSampFactor - offsetY - 1, setting.xCropBlocks + dstBlkX, Block.negateOddRows⟩
      else ⟨offsetY, setting.xCropBlocks + dstBlkX, id⟩) source destination

/-- `do_rot_180`. -/
def doRot180 (source destination : VirtualArray) : Option VirtualArray :=
  let compWidth := setting.mcuCols setting.imageWidth * setting.hSampFactor
  let compHeight := setting.mcuRows setting.imageHeight * setting.vSampFactor
  straightRoutine setting
    (fun dstBlkY =>
      if setting.yCropBlocks + dstBlkY < compHeight then
        jdimensionSub (jdimensionSub (jdimensionSub compHeight setting.yCropBlocks) dstBlkY)
          setting.vSampFactor
      else dstBlkY + setting.yCropBlocks)
    (fun dstBlkY offsetY dstBlkX =>
      if setting.yCropBlocks + dstBlkY < compHeight then
        if setting.xCropBlocks + dstBlkX < compWidth then
          -- the blocks that can be mirrored both ways
          ⟨setting.vSampFactor - offsetY - 1,
            jdimensionSub (jdimensionSub (jdimensionSub compWidth setting.xCropBlocks) dstBlkX)
              1,
            Block.negateAlternately⟩
        else
          ⟨setting.vSampFactor - offsetY - 1, setting.xCropBlocks + dstBlkX,
            Block.negateOddRows⟩
      else if setting.xCropBlocks + dstBlkX < compWidth then
        ⟨offsetY,
          jdimensionSub (jdimensionSub (jdimensionSub compWidth setting.xCropBlocks) dstBlkX) 1,
          Block.negateOddColumns⟩
      else ⟨offsetY, dstBlkX + setting.xCropBlocks, id⟩) source destination

/-- `do_transpose`. -/
def doTranspose (source destination : VirtualArray) : Option VirtualArray :=
  transposingRoutine setting (fun dstBlkX => dstBlkX + setting.xCropBlocks)
    (fun dstBlkY offsetY _ offsetX =>
      ⟨offsetX, dstBlkY + offsetY + setting.yCropBlocks, Block.transposed⟩) source destination

/-- `do_rot_90`. -/
def doRot90 (source destination : VirtualArray) : Option VirtualArray :=
  let compWidth := setting.mcuCols setting.imageHeight * setting.hSampFactor
  transposingRoutine setting
    (fun dstBlkX =>
      if setting.xCropBlocks + dstBlkX < compWidth then
        jdimensionSub (jdimensionSub (jdimensionSub compWidth setting.xCropBlocks) dstBlkX)
          setting.hSampFactor
      else dstBlkX + setting.xCropBlocks)
    (fun dstBlkY offsetY dstBlkX offsetX =>
      if setting.xCropBlocks + dstBlkX < compWidth then
        ⟨setting.hSampFactor - offsetX - 1, dstBlkY + offsetY + setting.yCropBlocks,
          fun block => block.transposed.negateOddColumns⟩
      else ⟨offsetX, dstBlkY + offsetY + setting.yCropBlocks, Block.transposed⟩)
    source destination

/-- `do_rot_270`. -/
def doRot270 (source destination : VirtualArray) : Option VirtualArray :=
  let compHeight := setting.mcuRows setting.imageWidth * setting.vSampFactor
  transposingRoutine setting (fun dstBlkX => dstBlkX + setting.xCropBlocks)
    (fun dstBlkY offsetY _ offsetX =>
      if setting.yCropBlocks + dstBlkY < compHeight then
        ⟨offsetX,
          jdimensionSub (jdimensionSub (jdimensionSub (jdimensionSub compHeight
            setting.yCropBlocks) dstBlkY) offsetY) 1,
          fun block => block.transposed.negateOddRows⟩
      else ⟨offsetX, dstBlkY + offsetY + setting.yCropBlocks, Block.transposed⟩)
    source destination

/-- `do_transverse`. -/
def doTransverse (source destination : VirtualArray) : Option VirtualArray :=
  let compWidth := setting.mcuCols setting.imageHeight * setting.hSampFactor
  let compHeight := setting.mcuRows setting.imageWidth * setting.vSampFactor
  transposingRoutine setting
    (fun dstBlkX =>
      if setting.xCropBlocks + dstBlkX < compWidth then
        jdimensionSub (jdimensionSub (jdimensionSub compWidth setting.xCropBlocks) dstBlkX)
          setting.hSampFactor
      else dstBlkX + setting.xCropBlocks)
    (fun dstBlkY offsetY dstBlkX offsetX =>
      if setting.yCropBlocks + dstBlkY < compHeight then
        if setting.xCropBlocks + dstBlkX < compWidth then
          ⟨setting.hSampFactor - offsetX - 1,
            jdimensionSub (jdimensionSub (jdimensionSub (jdimensionSub compHeight
              setting.yCropBlocks) dstBlkY) offsetY) 1,
            fun block => block.transposed.negateAlternately⟩
        else
          -- right-edge blocks are mirrored in y only
          ⟨offsetX,
            jdimensionSub (jdimensionSub (jdimensionSub (jdimensionSub compHeight
              setting.yCropBlocks) dstBlkY) offsetY) 1,
            fun block => block.transposed.negateOddRows⟩
      else if setting.xCropBlocks + dstBlkX < compWidth then
        -- bottom-edge blocks are mirrored in x only
        ⟨setting.hSampFactor - offsetX - 1, dstBlkY + offsetY + setting.yCropBlocks,
          fun block => block.transposed.negateOddColumns⟩
      else ⟨offsetX, dstBlkY + offsetY + setting.yCropBlocks, Block.transposed⟩)
    source destination

/-- Swap two blocks of a row, changing the signs of the odd columns. -/
def swapMirrored (startRow numRows offset column other : Nat) (array : VirtualArray) :
    Option VirtualArray := do
  let first ← array.read startRow numRows offset column
  let second ← array.read startRow numRows offset other
  let array ← array.write startRow numRows offset column second.negateOddColumns
  array.write startRow numRows offset other first.negateOddColumns

/-- `jcopy_block_row` on one block of the row. -/
def copyBlock (startRow numRows offset column other : Nat) (array : VirtualArray) :
    Option VirtualArray := do
  let block ← array.read startRow numRows offset column
  array.write startRow numRows offset other block

/-- What `do_flip_h_no_crop` does to one of the rows granted. -/
def flipRow (compWidth startRow offsetY : Nat) (array : VirtualArray) :
    Option VirtualArray := do
  -- as long as `blk_x * 2 < comp_width`
  let array ← upTo (divRoundUp compWidth 2) (fun blkX array =>
    swapMirrored startRow setting.vSampFactor offsetY blkX
      (jdimensionSub (jdimensionSub compWidth blkX) 1) array) array
  if 0 < setting.xCropBlocks then
    -- left-justify the portion to be kept
    upTo setting.widthInBlocks (fun blkX array =>
      copyBlock startRow setting.vSampFactor offsetY (blkX + setting.xCropBlocks) blkX array)
      array
  else some array

/-- The body of the loop of `do_flip_h_no_crop` over the groups of rows. -/
def flipGroup (compWidth blkY : Nat) (array : VirtualArray) : Option VirtualArray := do
  let array ← array.access blkY setting.vSampFactor true
  upTo setting.vSampFactor (flipRow setting compWidth blkY) array

/-- `do_flip_h_no_crop`: the flip in place, for no vertical crop. -/
def doFlipHNoCrop (array : VirtualArray) : Option VirtualArray :=
  let compWidth := setting.mcuCols setting.imageWidth * setting.hSampFactor
  upToBy setting.vSampFactor setting.heightInBlocks (flipGroup setting compWidth) array

end

end RPhoto.Lossless
