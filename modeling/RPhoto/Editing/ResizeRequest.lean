import RPhoto.Editing.SizeSearch
import RPhoto.Jpeg.Options
import RPhoto.Library.Fields
import RPhoto.Library.Truncation

/-!
# Requests to resize

What `Resize` makes of a request before it changes anything: the size to scale the
image to.  The request is read as a percentage, as two sides or as a file size.  A
`long` has a number of bits, and a product or a conversion that does not fit into
it has no defined result.
-/

namespace RPhoto.Editing

open RPhoto.Jpeg RPhoto.Library

/-- How requests are read. -/
structure RequestReader where
  /-- The value that `wxString::ToLong` stores, if it stores one, and its result. -/
  toLong : Text → Option Int × Bool
  /-- The translation of `kb`. -/
  kb : Text
  /-- The bits of a `long`. -/
  bits : Nat

/-- The value fits into a `long`. -/
def RequestReader.Holds (reader : RequestReader) (value : Int) : Prop :=
  -2 ^ (reader.bits - 1) ≤ value ∧ value < 2 ^ (reader.bits - 1)

instance (reader : RequestReader) (value : Int) : Decidable (reader.Holds value) :=
  inferInstanceAs (Decidable (_ ∧ _))

/-- The variable after `ToLong`; it starts at 0. -/
def RequestReader.number (reader : RequestReader) (text : Text) : Int :=
  (reader.toLong text).1.getD 0

/-- Whether `ToLong` returns true. -/
def RequestReader.reads (reader : RequestReader) (text : Text) : Bool := (reader.toLong text).2

/-- A reader of unsigned decimal numerals; what does not fit is neither read nor stored. -/
def decimalReader (bits : Nat) : RequestReader where
  toLong text :=
    if text ≠ [] ∧ text.all Char.isDigit ∧ Nat.ofDigitChars 10 text 0 < 2 ^ (bits - 1) then
      (some (Nat.ofDigitChars 10 text 0 : Int), true)
    else (none, false)
  kb := ['k', 'b']
  bits := bits

/-- What `Resize` reads of the image, its file and the image box. -/
structure ResizeContext where
  curWidth : Nat
  curHeight : Nat
  /-- `GetRatio`. -/
  ratio : ℚ
  /-- `GetOrientation`. -/
  porl : Int
  /-- The lengths of the test files for a file size. -/
  sizes : FileSizes
  /-- The length of the working file. -/
  fileLength : Nat

/-- What `Resize` does with a request; it is undefined when it divides by 0 or leaves the range
of a `long`. -/
inductive Destination where
  | refused
  | undefined
  | size (destWidth destHeight : Int)
deriving DecidableEq, Repr

/-- The selected ratio, or the quotient of the sides, which is an integer. -/
def ResizeContext.ratioInForce (context : ResizeContext) : ℚ :=
  if context.ratio = 0 then ((context.curWidth : Int).tdiv context.curHeight : Int)
  else context.ratio

/-- A number followed by `%`; one that cannot be read leaves the size as it is. -/
def percentSize (reader : RequestReader) (context : ResizeContext) (request : Text) :
    Destination :=
  let lNum := reader.number (beforeFirst '%' request)
  if reader.reads (beforeFirst '%' request) then
    if lNum > 0 then
      let width := context.curWidth * lNum
      let height := context.curHeight * lNum
      if reader.Holds width ∧ reader.Holds height then .size (width.tdiv 100) (height.tdiv 100)
      else .undefined
    else .refused
  else .size context.curWidth context.curHeight

/-- The two sides, or one of them and the ratio. -/
def givenSize (reader : RequestReader) (ratio : ℚ) (lNum lDenom : Int) : Destination :=
  if lNum > 0 ∧ lDenom > 0 then .size lNum lDenom
  else if lNum > 0 ∧ ratio > 0 then
    let destHeight := truncate (lNum / ratio)
    if reader.Holds destHeight then .size lNum destHeight else .undefined
  else if lDenom > 0 ∧ ratio > 0 then
    let destWidth := truncate (lDenom * ratio)
    if reader.Holds destWidth then .size destWidth lDenom else .undefined
  else .refused

/-- Adjust portrait or landscape: the sides are exchanged. -/
def ResizeContext.Swaps (context : ResizeContext) (destWidth destHeight : Int) : Prop :=
  (context.porl = 0 ∧
      ((context.curWidth > context.curHeight ∧ destWidth < destHeight) ∨
        (context.curWidth < context.curHeight ∧ destWidth > destHeight))) ∨
    (context.porl > 0 ∧ destWidth < destHeight) ∨
    (context.porl < 0 ∧ destWidth > destHeight)

instance (context : ResizeContext) (destWidth destHeight : Int) :
    Decidable (context.Swaps destWidth destHeight) :=
  inferInstanceAs (Decidable (_ ∨ _ ∨ _))

def ResizeContext.adjusted (context : ResizeContext) : Destination → Destination
  | .size destWidth destHeight =>
      if context.Swaps destWidth destHeight then .size destHeight destWidth
      else .size destWidth destHeight
  | other => other

theorem ResizeContext.adjusted_size (context : ResizeContext) (destWidth destHeight : Int) :
    context.adjusted (.size destWidth destHeight) =
      if context.Swaps destWidth destHeight then .size destHeight destWidth
      else .size destWidth destHeight := rfl

/-- Two numbers with an `x` between them; one that cannot be read counts as stored. -/
def fixedSize (reader : RequestReader) (context : ResizeContext) (request : Text) :
    Destination :=
  context.adjusted
    (givenSize reader context.ratioInForce
      (reader.number (beforeFirst 'x' request))
      (reader.number (beforeFirst ' ' (afterFirst 'x' request))))

/-- The search computes twice the target to find its tolerance. -/
def ResizeContext.Searches (context : ResizeContext) (sizeTarget : Int) : Prop :=
  context.fileLength > sizeTarget ∧ ¬context.sizes.rescaled 1 < sizeTarget ∧
    ¬context.sizes.smallest > sizeTarget

instance (context : ResizeContext) (sizeTarget : Int) : Decidable (context.Searches sizeTarget) :=
  inferInstanceAs (Decidable (_ ∧ _ ∧ _))

/-- The sides times the ratio that was found for a file size. -/
def ResizeContext.scaled (reader : RequestReader) (context : ResizeContext) (ratio : ℚ) :
    Destination :=
  let destWidth := truncate (context.curWidth * ratio)
  let destHeight := truncate (context.curHeight * ratio)
  if reader.Holds destWidth ∧ reader.Holds destHeight then .size destWidth destHeight
  else .undefined

/-- A number followed by `kb`, whatever it is. -/
def fileSize (reader : RequestReader) (fuel : Nat) (context : ResizeContext) (request : Text) :
    Option Destination :=
  let lNum := reader.number (beforeFirst 'k' request)
  let sizeTarget := lNum * 1024
  if ¬reader.Holds sizeTarget ∨
      (context.Searches sizeTarget ∧ ¬reader.Holds (sizeTarget * 2)) then
    some .undefined
  else (kbRatio fuel context.sizes context.fileLength lNum).map (context.scaled reader)

/-- The size that `Resize` scales the image to; the fuel is for the search. -/
def destination (reader : RequestReader) (fuel : Nat) (context : ResizeContext)
    (request : Text) : Option Destination :=
  if context.ratio = 0 ∧ context.curHeight = 0 then some .undefined
  else if '%' ∈ request then some (percentSize reader context request)
  else if 'x' ∈ request then some (fixedSize reader context request)
  else if reader.kb <:+: request then fileSize reader fuel context request
  else some .refused

end RPhoto.Editing
