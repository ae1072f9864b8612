import RPhoto.Jpeg.Options
import RPhoto.Lossless.TransformInfo
import RPhoto.Tracker.Rect

/-!
# The text of a crop region

`jtransform_parse_crop_spec` reads `<width>x<height>{+-}<xoffset>{+-}<yoffset>`, where
every element can be omitted but an x offset before a y offset.  Numbers are read into
unsigned integers of 32 bits and wrap.  What it accepts is exactly this notation.
-/

namespace RPhoto.Lossless

open RPhoto.Jpeg RPhoto.Tracker

/-- The values of `JDIMENSION`. -/
def jdimensionRange : Nat := 2 ^ 32

/-- `jt_read_integer`: the number and what follows it. -/
def jtReadInteger (text : Text) : Option (Nat × Text) :=
  let digits := text.takeWhile Char.isDigit
  if digits = [] then none
  else
    some (digits.foldl (fun val ch => (val * 10 + (ch.toNat - '0'.toNat)) % jdimensionRange) 0,
      text.dropWhile Char.isDigit)

/--
An element of the specification, if the text begins like one.  The first character of
a number belongs to it; the mark before an offset or a height does not.
-/
def readElement (begins : Char → Bool) (marked : Bool) (code : Char → CropCode) (text : Text) :
    Option ((Nat × CropCode) × Text) :=
  match text with
  | [] => some ((0, .unset), [])
  | ch :: rest =>
      if begins ch then
        (jtReadInteger (if marked then rest else ch :: rest)).map fun read =>
          ((read.1, code ch), read.2)
      else some ((0, .unset), ch :: rest)

def isMark (ch : Char) : Bool := ch = 'x' || ch = 'X'

def isSign (ch : Char) : Bool := ch = '+' || ch = '-'

def signCode (ch : Char) : CropCode := if ch = '-' then .neg else .pos

def readWidth : Text → Option ((Nat × CropCode) × Text) :=
  readElement Char.isDigit false fun _ => .pos

def readHeight : Text → Option ((Nat × CropCode) × Text) :=
  readElement isMark true fun _ => .pos

def readOffset : Text → Option ((Nat × CropCode) × Text) :=
  readElement isSign true signCode

/-- `jtransform_parse_crop_spec`; what is not set is never read. -/
def jtransformParseCropSpec (spec : Text) : Option CropSpec := do
  let (width, spec) ← readWidth spec
  let (height, spec) ← readHeight spec
  let (xoffset, spec) ← readOffset spec
  let (yoffset, spec) ← readOffset spec
  if spec = [] then
    some ⟨width.1, width.2, height.1, height.2, xoffset.1, xoffset.2, yoffset.1, yoffset.2⟩
  else none

/-! ## Numbers -/

/-- The digits of a number. -/
structure Digits where
  text : Text
  filled : text ≠ []
  digits : ∀ ch ∈ text, ch.isDigit = true

namespace Digits

/-- The value of the digits, where it wraps. -/
def value (number : Digits) : Nat := Nat.ofDigitChars 10 number.text 0 % jdimensionRange

/-- The decimal digits of a value. -/
def ofNat (value : Nat) : Digits where
  text := Nat.toDigits 10 value
  filled := Nat.toDigits_ne_nil
  digits := fun _ member => Nat.isDigit_of_mem_toDigits (by decide) (by decide) member

theorem value_ofNat {value : Nat} (small : value < jdimensionRange) :
    (ofNat value).value = value := by
  unfold Digits.value ofNat
  rw [Nat.ofDigitChars_ten_toDigits, Nat.mod_eq_of_lt small]

end Digits

/-- A text that does not continue a number. -/
def Ends (text : Text) : Prop := ∀ ch ∈ text.head?, ch.isDigit = false

theorem fold_wraps (text : Text) (first : Nat) :
    text.foldl (fun val ch => (val * 10 + (ch.toNat - '0'.toNat)) % jdimensionRange)
        (first % jdimensionRange) =
      Nat.ofDigitChars 10 text first % jdimensionRange := by
  induction text generalizing first with
  | nil => rfl
  | cons ch rest ih =>
      rw [List.foldl_cons, Nat.ofDigitChars_cons, Nat.mul_comm 10, ← ih]
      congr 1
      rw [Nat.add_mod, Nat.mod_mul_mod, ← Nat.add_mod]

theorem takeWhile_digits (number : Digits) {rest : Text} (ends : Ends rest) :
    (number.text ++ rest).takeWhile Char.isDigit = number.text ∧
      (number.text ++ rest).dropWhile Char.isDigit = rest := by
  rw [List.takeWhile_append_of_pos number.digits, List.dropWhile_append_of_pos number.digits]
  cases rest with
  | nil => exact ⟨List.append_nil _, rfl⟩
  | cons ch rest =>
      have stops : ¬ch.isDigit = true := by
        rw [ends ch rfl]
        exact Bool.false_ne_true
      rw [List.takeWhile_cons_of_neg stops, List.dropWhile_cons_of_neg stops]
      exact ⟨List.append_nil _, rfl⟩

/-- A number is read to its end. -/
theorem jtReadInteger_digits (number : Digits) {rest : Text} (ends : Ends rest) :
    jtReadInteger (number.text ++ rest) = some (number.value, rest) := by
  obtain ⟨taken, dropped⟩ := takeWhile_digits number ends
  unfold jtReadInteger
  rw [taken, dropped]
  dsimp only
  rw [if_neg number.filled]
  exact congrArg (fun value => some (value, rest)) (fold_wraps number.text 0)

/-- What is read is a number. -/
theorem digits_of_jtReadInteger {text rest : Text} {value : Nat}
    (read : jtReadInteger text = some (value, rest)) :
    ∃ number : Digits, text = number.text ++ rest ∧ value = number.value ∧ Ends rest := by
  unfold jtReadInteger at read
  dsimp only at read
  split at read
  · cases read
  · rename_i filled
    have ends : Ends (text.dropWhile Char.isDigit) := by
      intro ch first
      have stops := List.head?_dropWhile_not Char.isDigit text
      rw [Option.mem_def.mp first] at stops
      exact stops
    let number : Digits := ⟨text.takeWhile Char.isDigit, filled, fun ch member =>
      List.all_eq_true.mp List.all_takeWhile ch member⟩
    have whole : text = number.text ++ text.dropWhile Char.isDigit :=
      List.takeWhile_append_dropWhile.symm
    cases read
    exact ⟨number, whole, fold_wraps number.text 0, ends⟩

/-- A text that begins with no digit is no number. -/
theorem jtReadInteger_of_ends {text : Text} (ends : Ends text) : jtReadInteger text = none := by
  unfold jtReadInteger
  dsimp only
  rw [if_pos]
  cases text with
  | nil => rfl
  | cons ch rest =>
      refine List.takeWhile_cons_of_neg ?_
      rw [ends ch rfl]
      exact Bool.false_ne_true

/-! ## The notation -/

/-- An element with its mark. -/
def markedText : Option (Char × Digits) → Text
  | none => []
  | some (mark, number) => mark :: number.text

/-- What is read of an element. -/
def elementValue (code : Char → CropCode) : Option (Char × Digits) → Nat × CropCode
  | none => (0, .unset)
  | some (mark, number) => (number.value, code mark)

/-- What follows an element is no part of it. -/
def Stops (begins : Char → Bool) (element : Option (Char × Digits)) (rest : Text) : Prop :=
  match element with
  | none => ∀ ch ∈ rest.head?, begins ch = false
  | some _ => Ends rest

/-- A crop region as it is written: an x offset must be given before a y offset. -/
structure Geometry where
  width : Option Digits
  height : Option (Char × Digits)
  xoffset : Option (Char × Digits)
  yoffset : Option (Char × Digits)
  heightMark : ∀ element ∈ height, isMark element.1 = true
  xoffsetSign : ∀ element ∈ xoffset, isSign element.1 = true
  yoffsetSign : ∀ element ∈ yoffset, isSign element.1 = true
  ordered : xoffset = none → yoffset = none

namespace Geometry

def widthText : Option Digits → Text
  | none => []
  | some number => number.text

def widthValue : Option Digits → Nat × CropCode
  | none => (0, .unset)
  | some number => (number.value, .pos)

def text (geometry : Geometry) : Text :=
  widthText geometry.width ++ (markedText geometry.height ++
    (markedText geometry.xoffset ++ markedText geometry.yoffset))

def spec (geometry : Geometry) : CropSpec :=
  let width := widthValue geometry.width
  let height := elementValue (fun _ => .pos) geometry.height
  let xoffset := elementValue signCode geometry.xoffset
  let yoffset := elementValue signCode geometry.yoffset
  ⟨width.1, width.2, height.1, height.2, xoffset.1, xoffset.2, yoffset.1, yoffset.2⟩

end Geometry

section Elements

variable {begins : Char → Bool} {code : Char → CropCode} {text rest : Text}

/-- An element is read when it is written and what follows does not belong to it. -/
theorem readElement_marked (element : Option (Char × Digits))
    (begun : ∀ written ∈ element, begins written.1 = true) (stops : Stops begins element rest) :
    readElement begins true code (markedText element ++ rest) =
      some (elementValue code element, rest) := by
  rcases element with _ | ⟨mark, number⟩
  · cases rest with
    | nil => rfl
    | cons ch rest =>
        unfold readElement
        simp only [markedText, List.nil_append, stops ch rfl, Bool.false_eq_true, if_false]
        rfl
  · unfold readElement
    simp only [markedText, List.cons_append, begun _ rfl, if_true]
    rw [jtReadInteger_digits number stops]
    rfl

/-- What is read is an element with what follows. -/
theorem marked_of_readElement {found : Nat × CropCode}
    (read : readElement begins true code text = some (found, rest)) :
    ∃ element : Option (Char × Digits), (∀ written ∈ element, begins written.1 = true) ∧
      text = markedText element ++ rest ∧ found = elementValue code element ∧
      Stops begins element rest := by
  unfold readElement at read
  split at read
  · cases read
    exact ⟨none, (fun _ none => nomatch none), rfl, rfl, fun _ none => nomatch none⟩
  · rename_i ch following
    split at read
    · rename_i begun
      rw [if_pos rfl] at read
      obtain ⟨⟨value, after⟩, number, same⟩ := Option.map_eq_some_iff.mp read
      obtain ⟨digits, whole, rfl, ends⟩ := digits_of_jtReadInteger number
      cases same
      refine ⟨some (ch, digits), ?_, ?_, rfl, ends⟩
      · rintro _ ⟨⟩
        exact begun
      · rw [whole]
        rfl
    · rename_i other
      cases read
      refine ⟨none, (fun _ none => nomatch none), rfl, rfl, ?_⟩
      rintro _ ⟨⟩
      exact Bool.eq_false_iff.mpr other

theorem readWidth_digits (width : Option Digits) (ends : Ends rest) :
    readWidth (Geometry.widthText width ++ rest) = some (Geometry.widthValue width, rest) := by
  unfold readWidth readElement
  rcases width with _ | number
  · cases rest with
    | nil => rfl
    | cons ch rest =>
        simp only [Geometry.widthText, List.nil_append, ends ch rfl, Bool.false_eq_true,
          if_false]
        rfl
  · have read := jtReadInteger_digits number ends
    obtain ⟨ch, following, whole⟩ := List.exists_cons_of_ne_nil number.filled
    have digit : ch.isDigit = true := number.digits ch (whole ▸ List.mem_cons_self)
    unfold Geometry.widthText
    rw [whole] at read
    simp only [whole, List.cons_append, digit, if_true]
    rw [if_neg Bool.false_ne_true, ← List.cons_append, read]
    rfl

theorem digits_of_readWidth {found : Nat × CropCode}
    (read : readWidth text = some (found, rest)) :
    ∃ width : Option Digits, text = Geometry.widthText width ++ rest ∧
      found = Geometry.widthValue width ∧ Ends rest := by
  unfold readWidth readElement at read
  split at read
  · cases read
    exact ⟨none, rfl, rfl, fun _ none => nomatch none⟩
  · rename_i ch following
    split at read
    · rw [if_neg Bool.false_ne_true] at read
      obtain ⟨⟨value, after⟩, number, same⟩ := Option.map_eq_some_iff.mp read
      obtain ⟨digits, whole, rfl, ends⟩ := digits_of_jtReadInteger number
      cases same
      exact ⟨some digits, whole, rfl, ends⟩
    · rename_i other
      cases read
      refine ⟨none, rfl, rfl, ?_⟩
      rintro _ ⟨⟩
      exact Bool.eq_false_iff.mpr other

end Elements

theorem isDigit_of_isMark {ch : Char} (mark : isMark ch = true) : ch.isDigit = false := by
  unfold isMark at mark
  rcases Bool.or_eq_true_iff.mp mark with small | capital
  · rw [of_decide_eq_true small]
    decide
  · rw [of_decide_eq_true capital]
    decide

theorem isDigit_of_isSign {ch : Char} (sign : isSign ch = true) :
    ch.isDigit = false ∧ isMark ch = false := by
  unfold isSign at sign
  rcases Bool.or_eq_true_iff.mp sign with plus | minus
  · rw [of_decide_eq_true plus]
    decide
  · rw [of_decide_eq_true minus]
    decide

/-- A property of every mark an element may have and of what follows it holds of the head. -/
theorem head_marked {property : Char → Prop} {element : Option (Char × Digits)} {rest : Text}
    (marks : ∀ written ∈ element, property written.1) (follows : ∀ ch ∈ rest.head?, property ch) :
    ∀ ch ∈ (markedText element ++ rest).head?, property ch := by
  rcases element with _ | ⟨mark, number⟩
  · exact follows
  · rintro _ ⟨⟩
    exact marks _ rfl

/-- Every text in the notation is accepted with the values it gives. -/
theorem Geometry.parses (geometry : Geometry) :
    jtransformParseCropSpec geometry.text = some geometry.spec := by
  obtain ⟨width, height, xoffset, yoffset, heightMark, xoffsetSign, yoffsetSign, ordered⟩ :=
    geometry
  have last : ∀ {property : Char → Prop}, (∀ written ∈ yoffset, property written.1) →
      ∀ ch ∈ (markedText yoffset).head?, property ch := by
    intro property signs
    have heads := @head_marked property yoffset [] signs fun _ none => nomatch none
    rwa [List.append_nil] at heads
  have signs : ∀ {property : Char → Prop}, (∀ ch, isSign ch = true → property ch) →
      ∀ ch ∈ (markedText xoffset ++ markedText yoffset).head?, property ch := by
    intro property sign
    exact head_marked (fun written member => sign _ (xoffsetSign written member))
      (last fun written member => sign _ (yoffsetSign written member))
  have afterWidth : Ends (markedText height ++ (markedText xoffset ++ markedText yoffset)) :=
    head_marked (fun written member => isDigit_of_isMark (heightMark written member))
      (signs fun _ sign => (isDigit_of_isSign sign).1)
  have afterHeight : Stops isMark height (markedText xoffset ++ markedText yoffset) := by
    cases height with
    | none => exact signs fun _ sign => (isDigit_of_isSign sign).2
    | some written => exact signs fun _ sign => (isDigit_of_isSign sign).1
  have afterX : Stops isSign xoffset (markedText yoffset) := by
    cases xoffset with
    | none =>
        rw [ordered rfl]
        exact fun _ none => nomatch none
    | some written =>
        exact last fun written member => (isDigit_of_isSign (yoffsetSign written member)).1
  have afterY : Stops isSign yoffset [] := by
    cases yoffset with
    | none => exact fun _ none => nomatch none
    | some written => exact fun _ none => nomatch none
  have readY := @readElement_marked isSign signCode [] yoffset yoffsetSign afterY
  rw [List.append_nil] at readY
  unfold jtransformParseCropSpec Geometry.text readHeight readOffset
  dsimp only
  rw [readWidth_digits width afterWidth]
  simp only [Option.bind_eq_bind, Option.bind_some]
  rw [readElement_marked height heightMark afterHeight]
  simp only [Option.bind_some]
  rw [readElement_marked xoffset xoffsetSign afterX]
  simp only [Option.bind_some]
  rw [readY]
  rfl

/-- A crop specification is accepted exactly when it is written in the notation. -/
theorem parseCropSpec_eq_some_iff (text : Text) (spec : CropSpec) :
    jtransformParseCropSpec text = some spec ↔
      ∃ geometry : Geometry, geometry.text = text ∧ geometry.spec = spec := by
  constructor
  · intro parsed
    obtain ⟨⟨width, afterWidth⟩, readWidth, parsed⟩ := Option.bind_eq_some_iff.mp parsed
    obtain ⟨⟨height, afterHeight⟩, readHeight, parsed⟩ := Option.bind_eq_some_iff.mp parsed
    obtain ⟨⟨xoffset, afterX⟩, readX, parsed⟩ := Option.bind_eq_some_iff.mp parsed
    obtain ⟨⟨yoffset, afterY⟩, readY, parsed⟩ := Option.bind_eq_some_iff.mp parsed
    obtain ⟨number, whole, rfl, -⟩ := digits_of_readWidth readWidth
    obtain ⟨tall, mark, rest, rfl, -⟩ := marked_of_readElement readHeight
    obtain ⟨across, signX, restX, rfl, stops⟩ := marked_of_readElement readX
    obtain ⟨down, signY, restY, rfl, -⟩ := marked_of_readElement readY
    dsimp only at parsed whole rest restX restY readY
    split at parsed
    · rename_i finished
      cases parsed
      subst finished
      rw [List.append_nil] at restY
      have ordered : across = none → down = none := by
        -- an offset alone is the x offset
        rintro rfl
        rcases down with _ | ⟨sign, digits⟩
        · rfl
        · have none := stops sign (by rw [restY]; rfl)
          rw [signY _ rfl] at none
          exact absurd none Bool.false_ne_true.symm
      refine ⟨⟨number, tall, across, down, mark, signX, signY, ordered⟩, ?_, rfl⟩
      rw [whole, rest, restX, restY]
      rfl
    · cases parsed
  · rintro ⟨geometry, rfl, rfl⟩
    exact geometry.parses

/-! ## The regions RPhoto asks for -/

/-- The conversion `%d`. -/
def decimal (value : Int) : Text :=
  if value < 0 then '-' :: Nat.toDigits 10 value.natAbs else Nat.toDigits 10 value.natAbs

/-- The argument of `-crop` that `OnImageCrop` formats. -/
def cropArgument (zone : Rect) : Text :=
  decimal zone.width ++ 'x' :: (decimal zone.height ++
    '+' :: (decimal zone.x ++ '+' :: decimal zone.y))

/-- The region with its upper left corner and its size. -/
def CropSpec.ofRect (zone : Rect) : CropSpec :=
  ⟨zone.width.toNat, .pos, zone.height.toNat, .pos, zone.x.toNat, .pos, zone.y.toNat, .pos⟩

theorem decimal_of_nonneg {value : Int} (nonneg : 0 ≤ value) :
    decimal value = (Digits.ofNat value.toNat).text := by
  unfold decimal Digits.ofNat
  rw [if_neg (by omega)]
  congr 1
  omega

theorem decimal_of_neg {value : Int} (neg : value < 0) (rest : Text) :
    Ends (decimal value ++ rest) := by
  unfold decimal
  rw [if_pos neg]
  rintro _ ⟨⟩
  decide

/-- An `int` that is not negative fits into a `JDIMENSION`. -/
theorem value_of_int {value : Int} (nonneg : 0 ≤ value) (small : value < 2 ^ 31) :
    (Digits.ofNat value.toNat).value = value.toNat :=
  Digits.value_ofNat (by unfold jdimensionRange; omega)

/-- A negative offset is no crop specification. -/
theorem readOffset_of_neg {value : Int} (neg : value < 0) (rest : Text) :
    readOffset ('+' :: (decimal value ++ rest)) = none := by
  unfold readOffset readElement
  simp only [show isSign '+' = true from by decide, if_true]
  rw [jtReadInteger_of_ends (decimal_of_neg neg rest)]
  rfl

theorem readOffset_of_nonneg {value : Int} (nonneg : 0 ≤ value) (small : value < 2 ^ 31)
    {rest : Text} (ends : Ends rest) :
    readOffset ('+' :: (decimal value ++ rest)) = some ((value.toNat, .pos), rest) := by
  have read := @readElement_marked isSign signCode rest
    (some ('+', Digits.ofNat value.toNat)) (by rintro _ ⟨⟩; rfl) ends
  unfold elementValue markedText at read
  dsimp only at read
  rw [value_of_int nonneg small, ← decimal_of_nonneg nonneg] at read
  exact read

/--
The selection RPhoto formats is read back as the region it means, and refused when it
begins left of the picture or above it.
-/
theorem parseCropSpec_cropArgument {zone : Rect} (width : 0 ≤ zone.width ∧ zone.width < 2 ^ 31)
    (height : 0 ≤ zone.height ∧ zone.height < 2 ^ 31) (x : zone.x < 2 ^ 31)
    (y : zone.y < 2 ^ 31) :
    jtransformParseCropSpec (cropArgument zone) =
      if 0 ≤ zone.x ∧ 0 ≤ zone.y then some (.ofRect zone) else none := by
  have ends : ∀ {ch : Char} {rest : Text}, ch.isDigit = false → Ends (ch :: rest) := by
    rintro ch rest stops _ ⟨⟩
    exact stops
  have readHeight : ∀ rest, Ends rest →
      readHeight ('x' :: (decimal zone.height ++ rest)) =
        some ((zone.height.toNat, .pos), rest) := by
    intro rest ends
    have read := @readElement_marked isMark (fun _ => .pos) rest
      (some ('x', Digits.ofNat zone.height.toNat)) (by rintro _ ⟨⟩; rfl) ends
    unfold elementValue markedText at read
    dsimp only at read
    rw [value_of_int height.1 height.2, ← decimal_of_nonneg height.1] at read
    exact read
  have readWidth : ∀ rest, Ends rest →
      readWidth (decimal zone.width ++ rest) = some ((zone.width.toNat, .pos), rest) := by
    intro rest ends
    have read := readWidth_digits (some (Digits.ofNat zone.width.toNat)) ends
    unfold Geometry.widthText Geometry.widthValue at read
    dsimp only at read
    rw [value_of_int width.1 width.2, ← decimal_of_nonneg width.1] at read
    exact read
  unfold jtransformParseCropSpec cropArgument
  rw [readWidth _ (ends (by decide))]
  simp only [Option.bind_eq_bind, Option.bind_some]
  rw [readHeight _ (ends (by decide))]
  simp only [Option.bind_some]
  by_cases left : zone.x < 0
  · rw [readOffset_of_neg left, if_neg (by omega)]
    rfl
  · rw [readOffset_of_nonneg (by omega) x (ends (by decide))]
    simp only [Option.bind_some]
    by_cases above : zone.y < 0
    · have read := readOffset_of_neg above []
      rw [List.append_nil] at read
      rw [read, if_neg (by omega)]
      rfl
    · have read := @readOffset_of_nonneg zone.y (by omega) y [] fun _ none => nomatch none
      rw [List.append_nil] at read
      rw [read, if_pos (by omega)]
      rfl

end RPhoto.Lossless
