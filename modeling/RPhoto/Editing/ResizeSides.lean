import RPhoto.Editing.ResizeRequest
import Mathlib.Tactic.LinearCombination
import Mathlib.Tactic.Zify

/-!
# Resizing with one side given

A request with one side and a 0 takes the other side from the ratio.  Without a
selected ratio `Resize` divides the sides of the image as integers: the quotient is 0
for a portrait image, which is refused, and drops the remainder for the others.
-/

namespace RPhoto.Editing

open RPhoto.Jpeg RPhoto.Library

/-! ## The requests -/

/-- The decimal digits of a number. -/
def numeral (value : Nat) : Text := Nat.toDigits 10 value

/-- A request with one side, `Wx0` or `0xH`. -/
inductive OneSide where
  | width (value : Nat)
  | height (value : Nat)
deriving DecidableEq, Repr

def OneSide.value : OneSide → Nat
  | .width value | .height value => value

def OneSide.request : OneSide → Text
  | .width value => numeral value ++ 'x' :: numeral 0
  | .height value => numeral 0 ++ 'x' :: numeral value

/-- `ToLong` reads the numerals that fit into a `long` and stores no others. -/
def RequestReader.ReadsNumerals (reader : RequestReader) : Prop :=
  ∀ value : Nat, reader.toLong (numeral value) =
    if reader.Holds value then (some (value : Int), true) else (none, false)

/-! ## What is wanted -/

/-- The request is accepted and the new size has the proportions of the image, to within one
pixel. -/
def ResizeContext.KeepsProportion (context : ResizeContext) (found : Option Destination) : Prop :=
  ∃ destWidth destHeight : Int, found = some (.size destWidth destHeight) ∧
    |destWidth * context.curHeight - destHeight * context.curWidth| ≤
      max (context.curWidth : Int) context.curHeight

/-- The request is accepted and the larger new side is the ratio times the smaller one, to
within the ratio. -/
def ResizeContext.KeepsRatio (context : ResizeContext) (found : Option Destination) : Prop :=
  ∃ destWidth destHeight : Int, found = some (.size destWidth destHeight) ∧
    |((max destWidth destHeight : Int) : ℚ) - context.ratio * (min destWidth destHeight : Int)| ≤
      context.ratio

/-- Neither the image nor the selected ratio is distorted. -/
def ResizeContext.Undistorted (context : ResizeContext) (found : Option Destination) : Prop :=
  if context.ratio = 0 then context.KeepsProportion found else context.KeepsRatio found

/-- Both sides fit into a `long`, and the remainder that the division drops makes no difference
of a pixel. -/
def ResizeContext.SideFits (reader : RequestReader) (context : ResizeContext) (side : OneSide) :
    Prop :=
  let quotient := context.curWidth / context.curHeight
  let remainder := context.curWidth % context.curHeight
  reader.Holds side.value ∧
    if context.ratio = 0 then
      context.curHeight ≤ context.curWidth ∧
        match side with
        | .width value =>
            value / quotient * remainder ≤ context.curWidth + value % quotient * context.curHeight
        | .height value =>
            reader.Holds (value * quotient) ∧ value * remainder ≤ context.curWidth
    else
      match side with
      | .width _ => True
      | .height value => reader.Holds (truncate (value * context.ratio))

variable {reader : RequestReader} {context : ResizeContext}

/-! ## Reading the request -/

theorem numeral_digits {mark : Char} (noDigit : mark.isDigit = false) (value : Nat) :
    mark ∉ numeral value := by
  intro member
  have digit := Nat.isDigit_of_mem_toDigits (by decide) (by decide) member
  exact Bool.false_ne_true (noDigit.symm.trans digit)

theorem RequestReader.ReadsNumerals.number (numerals : reader.ReadsNumerals) {value : Nat}
    (holds : reader.Holds value) : reader.number (numeral value) = value := by
  unfold RequestReader.number
  rw [numerals value, if_pos holds]
  rfl

/-- A number that does not fit counts as 0. -/
theorem RequestReader.ReadsNumerals.number_of_not (numerals : reader.ReadsNumerals) {value : Nat}
    (large : ¬reader.Holds value) : reader.number (numeral value) = 0 := by
  unfold RequestReader.number
  rw [numerals value, if_neg large]
  rfl

theorem RequestReader.holds_zero (reader : RequestReader) : reader.Holds 0 := by
  constructor
  · exact neg_nonpos.mpr (by positivity)
  · positivity

theorem RequestReader.Holds.of_le {value bound : Int} (holds : reader.Holds bound)
    (nonneg : 0 ≤ value) (atMost : value ≤ bound) : reader.Holds value :=
  ⟨reader.holds_zero.1.trans nonneg, atMost.trans_lt holds.2⟩

/-- Two numerals with an `x` between them are read as two sides. -/
theorem destination_sides (reader : RequestReader) (high : 1 ≤ context.curHeight)
    (first second : Nat) (fuel : Nat) :
    destination reader fuel context (numeral first ++ 'x' :: numeral second) =
      some (context.adjusted (givenSize reader context.ratioInForce
        (reader.number (numeral first)) (reader.number (numeral second)))) := by
  have noPercent : '%' ∉ numeral first ++ 'x' :: numeral second := by
    rw [List.mem_append, List.mem_cons]
    rintro (early | same | late)
    · exact numeral_digits (by decide) first early
    · exact absurd same (by decide)
    · exact numeral_digits (by decide) second late
  have hasX : 'x' ∈ numeral first ++ 'x' :: numeral second :=
    List.mem_append_right _ List.mem_cons_self
  have divides : ¬(context.ratio = 0 ∧ context.curHeight = 0) :=
    fun zero => absurd zero.2 (Nat.ne_of_gt high)
  unfold destination fixedSize
  rw [if_neg divides, if_neg noPercent, if_pos hasX,
    beforeFirst_append (numeral_digits (by decide) first),
    afterFirst_append (numeral_digits (by decide) first),
    beforeFirst_of_absent (numeral_digits (by decide) second)]

theorem destination_width (numerals : reader.ReadsNumerals) (high : 1 ≤ context.curHeight)
    {value : Nat} (holds : reader.Holds value) (fuel : Nat) :
    destination reader fuel context (OneSide.width value).request =
      some (context.adjusted (givenSize reader context.ratioInForce value (0 : Nat))) := by
  rw [← numerals.number holds, ← numerals.number reader.holds_zero]
  exact destination_sides reader high value 0 fuel

theorem destination_height (numerals : reader.ReadsNumerals) (high : 1 ≤ context.curHeight)
    {value : Nat} (holds : reader.Holds value) (fuel : Nat) :
    destination reader fuel context (OneSide.height value).request =
      some (context.adjusted (givenSize reader context.ratioInForce (0 : Nat) value)) := by
  rw [← numerals.number holds, ← numerals.number reader.holds_zero]
  exact destination_sides reader high 0 value fuel

/-- A side that does not fit into a `long` leaves two zeros. -/
theorem destination_large (numerals : reader.ReadsNumerals) (high : 1 ≤ context.curHeight)
    {side : OneSide} (large : ¬reader.Holds side.value) (fuel : Nat) :
    destination reader fuel context side.request = some .refused := by
  have zero := numerals.number reader.holds_zero
  have zeros : givenSize reader context.ratioInForce 0 0 = .refused := by
    unfold givenSize
    rw [if_neg (by omega), if_neg (by omega), if_neg (by omega)]
  cases side with
  | width value =>
      have lost := @RequestReader.ReadsNumerals.number_of_not reader numerals value large
      unfold OneSide.request
      dsimp only
      rw [destination_sides reader high, lost, zero, Nat.cast_zero, zeros]
      rfl
  | height value =>
      have lost := @RequestReader.ReadsNumerals.number_of_not reader numerals value large
      unfold OneSide.request
      dsimp only
      rw [destination_sides reader high, lost, zero, Nat.cast_zero, zeros]
      rfl

/-! ## A selected ratio -/

theorem givenSize_width {ratio : ℚ} {value : Nat} (positive : 1 ≤ value) (ratioPositive : 0 < ratio)
    (holds : reader.Holds (truncate ((value : Int) / ratio))) :
    givenSize reader ratio value (0 : Nat) = .size value (truncate ((value : Int) / ratio)) := by
  have wide : (value : Int) > 0 := by omega
  unfold givenSize
  dsimp only
  rw [if_neg (fun both => absurd both.2 (by decide)), if_pos ⟨wide, ratioPositive⟩, if_pos holds]

theorem givenSize_height {ratio : ℚ} {value : Nat} (positive : 1 ≤ value)
    (ratioPositive : 0 < ratio) :
    givenSize reader ratio (0 : Nat) value =
      if reader.Holds (truncate ((value : Int) * ratio)) then
        .size (truncate ((value : Int) * ratio)) value
      else .undefined := by
  have high : (value : Int) > 0 := by omega
  unfold givenSize
  dsimp only
  rw [if_neg (fun both => absurd both.1 (by decide)),
    if_neg (fun both => absurd both.1 (by decide)), if_pos ⟨high, ratioPositive⟩]

/-- The order of the sides does not matter for the ratio. -/
theorem keepsRatio_adjusted {first second : Int}
    (close : |((max first second : Int) : ℚ) - context.ratio * (min first second : Int)| ≤
      context.ratio) :
    context.KeepsRatio (some (context.adjusted (.size first second))) := by
  rw [ResizeContext.adjusted_size]
  split_ifs with swaps
  · refine ⟨second, first, rfl, ?_⟩
    rwa [max_comm, min_comm]
  · exact ⟨first, second, rfl, close⟩

theorem RequestReader.holds_divided {value : Nat} {ratio : ℚ} (atLeast : 1 ≤ ratio)
    (holds : reader.Holds value) : reader.Holds (truncate ((value : Int) / ratio)) :=
  holds.of_le (reduce_nonneg (by linarith) (Int.natCast_nonneg value))
    (reduce_le atLeast (Int.natCast_nonneg value))

/-- The width divided by a selected ratio. -/
theorem ratio_width (atLeast : 1 ≤ context.ratio) {value : Nat} (positive : 1 ≤ value)
    (holds : reader.Holds value) :
    context.KeepsRatio
      (some (context.adjusted (givenSize reader context.ratio value (0 : Nat)))) := by
  have ratioPositive : 0 < context.ratio := by linarith
  have real : (0 : ℚ) ≤ (value : Int) / context.ratio := by positivity
  rw [givenSize_width positive ratioPositive (reader.holds_divided atLeast holds)]
  have below : truncate ((value : Int) / context.ratio) ≤ value :=
    reduce_le atLeast (Int.natCast_nonneg value)
  apply keepsRatio_adjusted
  rw [max_eq_left below, min_eq_right below]
  have lower := truncate_le real
  have upper := lt_truncate_add_one real
  rw [le_div_iff₀ ratioPositive] at lower
  rw [div_lt_iff₀ ratioPositive] at upper
  rw [abs_le]
  constructor <;> linarith

/-- The height times a selected ratio. -/
theorem ratio_height_iff (atLeast : 1 ≤ context.ratio) {value : Nat} (positive : 1 ≤ value) :
    context.KeepsRatio
        (some (context.adjusted (givenSize reader context.ratio (0 : Nat) value))) ↔
      reader.Holds (truncate ((value : Int) * context.ratio)) := by
  have ratioPositive : 0 < context.ratio := by linarith
  have real : (0 : ℚ) ≤ (value : Int) * context.ratio := by positivity
  rw [givenSize_height positive ratioPositive]
  split_ifs with holds
  · refine ⟨fun _ => holds, fun _ => ?_⟩
    have above : (value : Int) ≤ truncate ((value : Int) * context.ratio) :=
      le_enlarge atLeast (Int.natCast_nonneg value)
    apply keepsRatio_adjusted
    rw [max_eq_left above, min_eq_right above]
    have lower := truncate_le real
    have upper := lt_truncate_add_one real
    rw [abs_le]
    constructor <;> linarith
  · refine ⟨?_, fun other => absurd other holds⟩
    rintro ⟨destWidth, destHeight, found, -⟩
    cases found

/-! ## The proportions of the image -/

theorem ratioInForce_unset (unset : context.ratio = 0) :
    context.ratioInForce = ((context.curWidth / context.curHeight : Nat) : ℚ) := by
  unfold ResizeContext.ratioInForce
  rw [if_pos unset]
  rfl

/-- The quotient of a portrait image is 0, so one side is refused. -/
theorem givenSize_portrait {first second : Nat} (one : first = 0 ∨ second = 0) :
    givenSize reader 0 first second = .refused := by
  unfold givenSize
  rw [if_neg (by omega), if_neg (fun both => absurd both.2 (lt_irrefl 0)),
    if_neg (fun both => absurd both.2 (lt_irrefl 0))]

/-- An image that is not a portrait keeps the width first. -/
theorem not_swaps (automatic : context.porl = 0) (landscape : context.curHeight ≤ context.curWidth)
    {destWidth destHeight : Int} (ordered : destHeight ≤ destWidth) :
    ¬context.Swaps destWidth destHeight := by
  unfold ResizeContext.Swaps
  omega

theorem keepsProportion_adjusted_iff (automatic : context.porl = 0)
    (landscape : context.curHeight ≤ context.curWidth) {destWidth destHeight : Int}
    (ordered : destHeight ≤ destWidth) :
    context.KeepsProportion (some (context.adjusted (.size destWidth destHeight))) ↔
      |destWidth * context.curHeight - destHeight * context.curWidth| ≤ context.curWidth := by
  have longer : max (context.curWidth : Int) context.curHeight = context.curWidth :=
    max_eq_left (Int.ofNat_le.mpr landscape)
  unfold ResizeContext.KeepsProportion
  rw [ResizeContext.adjusted_size, if_neg (not_swaps automatic landscape ordered), longer]
  constructor
  · rintro ⟨width, height, same, close⟩
    cases same
    exact close
  · intro close
    exact ⟨destWidth, destHeight, rfl, close⟩

theorem truncate_divided (value quotient : Nat) :
    truncate ((value : Int) / (quotient : ℚ)) = (value / quotient : Nat) := by
  rw [truncate_of_nonneg (by positivity), Rat.floor_intCast_div_natCast]
  rfl

theorem truncate_multiplied (value quotient : Nat) :
    truncate ((value : Int) * (quotient : ℚ)) = (value * quotient : Nat) := by
  have whole : ((value : Int) : ℚ) * (quotient : ℚ) = ((value * quotient : Nat) : Int) := by
    push_cast
    rfl
  rw [whole, truncate_intCast]

/-- The error of a width is what its remainder makes up for the remainder of the sides. -/
theorem width_error (value width height : Nat) :
    (value : Int) * height - (value / (width / height) : Nat) * width =
      (value % (width / height) : Nat) * height -
        (value / (width / height) : Nat) * (width % height : Nat) := by
  have side : (width : Int) = height * (width / height : Nat) + (width % height : Nat) := by
    exact_mod_cast (Nat.div_add_mod width height).symm
  have request : (value : Int) = (width / height : Nat) * (value / (width / height) : Nat) +
      (value % (width / height) : Nat) := by
    exact_mod_cast (Nat.div_add_mod value (width / height)).symm
  calc (value : Int) * height - (value / (width / height) : Nat) * width
      = ((width / height : Nat) * (value / (width / height) : Nat) +
            (value % (width / height) : Nat)) * height -
          (value / (width / height) : Nat) *
            (height * (width / height : Nat) + (width % height : Nat)) := by
        rw [← side, ← request]
    _ = (value % (width / height) : Nat) * height -
          (value / (width / height) : Nat) * (width % height : Nat) := by ring

/-- The width divided by the quotient of the sides. -/
theorem proportion_width_iff (automatic : context.porl = 0) (high : 1 ≤ context.curHeight)
    (landscape : context.curHeight ≤ context.curWidth) {value : Nat} (positive : 1 ≤ value)
    (holds : reader.Holds value) :
    context.KeepsProportion (some (context.adjusted
        (givenSize reader (context.curWidth / context.curHeight : Nat) value (0 : Nat)))) ↔
      value / (context.curWidth / context.curHeight) * (context.curWidth % context.curHeight) ≤
        context.curWidth +
          value % (context.curWidth / context.curHeight) * context.curHeight := by
  have quotient : 1 ≤ context.curWidth / context.curHeight :=
    (Nat.one_le_div_iff high).mpr landscape
  have real : (1 : ℚ) ≤ (context.curWidth / context.curHeight : Nat) := by exact_mod_cast quotient
  rw [givenSize_width positive (by linarith) (reader.holds_divided real holds), truncate_divided,
    keepsProportion_adjusted_iff automatic landscape
      (Int.ofNat_le.mpr (Nat.div_le_self value _)), width_error]
  -- The remainder of the width is less than the quotient, so it adds less than a width.
  have small : value % (context.curWidth / context.curHeight) * context.curHeight ≤
      context.curWidth := by
    calc value % (context.curWidth / context.curHeight) * context.curHeight
        ≤ context.curWidth / context.curHeight * context.curHeight :=
          Nat.mul_le_mul_right _ (Nat.mod_lt _ quotient).le
      _ ≤ context.curWidth := Nat.div_mul_le_self _ _
  rw [abs_le]
  zify at small ⊢
  constructor
  · rintro ⟨lower, -⟩
    linarith
  · intro close
    constructor
    · linarith
    · have : (0 : Int) ≤ (value / (context.curWidth / context.curHeight) : Nat) *
        (context.curWidth % context.curHeight : Nat) := by positivity
      push_cast at this
      linarith

/-- The height times the quotient of the sides. -/
theorem proportion_height_iff (automatic : context.porl = 0) (high : 1 ≤ context.curHeight)
    (landscape : context.curHeight ≤ context.curWidth) {value : Nat} (positive : 1 ≤ value) :
    context.KeepsProportion (some (context.adjusted
        (givenSize reader (context.curWidth / context.curHeight : Nat) (0 : Nat) value))) ↔
      reader.Holds (value * (context.curWidth / context.curHeight) : Nat) ∧
        value * (context.curWidth % context.curHeight) ≤ context.curWidth := by
  have quotient : 1 ≤ context.curWidth / context.curHeight :=
    (Nat.one_le_div_iff high).mpr landscape
  have real : (0 : ℚ) < (context.curWidth / context.curHeight : Nat) := by exact_mod_cast quotient
  rw [givenSize_height positive real, truncate_multiplied]
  split_ifs with holds
  · rw [keepsProportion_adjusted_iff automatic landscape
      (Int.ofNat_le.mpr (Nat.le_mul_of_pos_right value quotient))]
    have error : ((value * (context.curWidth / context.curHeight) : Nat) : Int) *
        context.curHeight - value * context.curWidth =
          -((value * (context.curWidth % context.curHeight) : Nat) : Int) := by
      have side := Nat.div_add_mod context.curWidth context.curHeight
      zify at side
      push_cast
      linear_combination (value : Int) * side
    rw [error, abs_neg, abs_of_nonneg (Int.natCast_nonneg _)]
    exact ⟨fun close => ⟨holds, Int.ofNat_le.mp close⟩, fun fits => Int.ofNat_le.mpr fits.2⟩
  · refine ⟨?_, fun fits => absurd fits.1 holds⟩
    rintro ⟨destWidth, destHeight, found, -⟩
    cases found

theorem refused_not_proportion : ¬context.KeepsProportion (some .refused) := by
  rintro ⟨destWidth, destHeight, found, -⟩
  cases found

theorem refused_distorted (context : ResizeContext) : ¬context.Undistorted (some .refused) := by
  unfold ResizeContext.Undistorted
  split_ifs
  · exact refused_not_proportion
  · rintro ⟨destWidth, destHeight, found, -⟩
    cases found

/-- Without a selected ratio a portrait image is refused. -/
theorem destination_portrait (numerals : reader.ReadsNumerals) (high : 1 ≤ context.curHeight)
    {side : OneSide} (holds : reader.Holds side.value) (unset : context.ratio = 0)
    (portrait : context.curWidth < context.curHeight) (fuel : Nat) :
    destination reader fuel context side.request = some .refused := by
  have zero : context.ratioInForce = 0 := by
    rw [ratioInForce_unset unset, Nat.div_eq_of_lt portrait]
    rfl
  cases side with
  | width value =>
      rw [@destination_width reader context numerals high value holds fuel, zero,
        givenSize_portrait (.inr rfl)]
      rfl
  | height value =>
      rw [@destination_height reader context numerals high value holds fuel, zero,
        givenSize_portrait (.inl rfl)]
      rfl

/-- A side that fits is undistorted exactly when the dropped remainder makes no difference. -/
theorem held_undistorted_iff (numerals : reader.ReadsNumerals) {side : OneSide}
    (high : 1 ≤ context.curHeight) (positive : 1 ≤ side.value) (holds : reader.Holds side.value)
    (setting : (context.ratio = 0 ∧ context.porl = 0) ∨ 1 ≤ context.ratio) (fuel : Nat) :
    context.Undistorted (destination reader fuel context side.request) ↔
      context.SideFits reader side := by
  unfold ResizeContext.Undistorted ResizeContext.SideFits
  dsimp only
  refine Iff.trans ?_ (and_iff_right holds).symm
  rcases setting with ⟨unset, automatic⟩ | atLeast
  · rw [if_pos unset, if_pos unset]
    by_cases landscape : context.curHeight ≤ context.curWidth
    · refine Iff.trans ?_ (and_iff_right landscape).symm
      cases side with
      | width value =>
          rw [@destination_width reader context numerals high value holds fuel,
            ratioInForce_unset unset]
          exact proportion_width_iff automatic high landscape positive holds
      | height value =>
          rw [@destination_height reader context numerals high value holds fuel,
            ratioInForce_unset unset]
          exact proportion_height_iff automatic high landscape positive
    · rw [destination_portrait numerals high holds unset (not_le.mp landscape)]
      exact iff_of_false refused_not_proportion fun fits => landscape fits.1
  · have set : context.ratio ≠ 0 := by linarith
    have inForce : context.ratioInForce = context.ratio := if_neg set
    rw [if_neg set, if_neg set]
    cases side with
    | width value =>
        rw [@destination_width reader context numerals high value holds fuel, inForce]
        exact ⟨fun _ => trivial, fun _ => ratio_width atLeast positive holds⟩
    | height value =>
        rw [@destination_height reader context numerals high value holds fuel, inForce]
        exact ratio_height_iff atLeast positive

/-- One side is accepted and undistorted exactly when it fits. -/
theorem oneSide_undistorted_iff (reader : RequestReader) (fuel : Nat) (context : ResizeContext)
    (side : OneSide) (numerals : reader.ReadsNumerals) (high : 1 ≤ context.curHeight)
    (positive : 1 ≤ side.value)
    (setting : (context.ratio = 0 ∧ context.porl = 0) ∨ 1 ≤ context.ratio) :
    context.Undistorted (destination reader fuel context side.request) ↔
      context.SideFits reader side := by
  by_cases holds : reader.Holds side.value
  · exact held_undistorted_iff numerals high positive holds setting fuel
  · rw [destination_large numerals high holds]
    exact iff_of_false (refused_distorted context) fun fits => holds fits.1

theorem decimalReader_readsNumerals (bits : Nat) : (decimalReader bits).ReadsNumerals := by
  intro value
  have digits : (numeral value).all Char.isDigit = true := List.all_eq_true.mpr
    (fun _ member => Nat.isDigit_of_mem_toDigits (by decide) (by decide) member)
  have read : Nat.ofDigitChars 10 (numeral value) 0 = value := Nat.ofDigitChars_ten_toDigits
  unfold decimalReader
  dsimp only
  rw [read]
  by_cases small : value < 2 ^ (bits - 1)
  · have holds : (decimalReader bits).Holds value :=
      ⟨(neg_nonpos.mpr (by positivity)).trans (Int.natCast_nonneg value), by exact_mod_cast small⟩
    rw [if_pos ⟨Nat.toDigits_ne_nil, digits, small⟩]
    exact (if_pos holds).symm
  · have large : ¬(decimalReader bits).Holds value := by
      intro holds
      exact small (by exact_mod_cast holds.2)
    rw [if_neg (fun read => small read.2.2)]
    exact (if_neg large).symm

/-- An image of 640 by 480 without a selected ratio, and with the ratio 4/3. -/
def fourThirds (ratio : ℚ) : ResizeContext := ⟨640, 480, ratio, 0, ⟨fun _ => 0, 0⟩, 0⟩

theorem threeHundred_undistorted :
    (fourThirds (4 / 3)).Undistorted
      (destination (decimalReader 64) 0 (fourThirds (4 / 3)) (OneSide.width 300).request) :=
  (oneSide_undistorted_iff (decimalReader 64) 0 (fourThirds (4 / 3)) (.width 300)
    (decimalReader_readsNumerals 64) (by decide) (by decide)
    (.inr (by norm_num [fourThirds]))).mpr ⟨by decide, by norm_num [fourThirds]⟩

/-- The width of 320 makes a square of the image without a selected ratio. -/
theorem halfWidth_distorted :
    destination (decimalReader 64) 0 (fourThirds 0) "320x0".toList = some (.size 320 320) ∧
      ¬(fourThirds 0).Undistorted
        (destination (decimalReader 64) 0 (fourThirds 0) "320x0".toList) := by
  have square : destination (decimalReader 64) 0 (fourThirds 0) "320x0".toList =
      some (.size 320 320) := by decide +kernel
  refine ⟨square, ?_⟩
  rw [square]
  rintro ⟨destWidth, destHeight, found, close⟩
  cases found
  exact absurd close (by decide)

end RPhoto.Editing
