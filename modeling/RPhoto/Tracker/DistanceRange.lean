import RPhoto.Tracker.CheckedAdjust

/-!
# When the distances stay in range

A ratio lengthens the longer side of the max rect.  As long as the result stays
below `32768`, every distance between rectangles in the max rect and what the
passes make of them is an `int`; from there on the rectangle of that side alone,
taken by a corner, is too far from its own candidate.  A side that the
orientation does not lengthen only has to survive its conversion.
-/

namespace RPhoto.Tracker

open RPhoto.Library

/-- A side of a rectangle inside an ordinary max rect. -/
def ShortSide (side : Int) : Prop := 0 ≤ side ∧ side < 32768

theorem ShortSide.fitsInt {side : Int} (short : ShortSide side) : FitsInt side := by
  unfold ShortSide at short
  unfold FitsInt maxInt
  omega

/-! ## Sides that grow towards one another -/

section Grown

variable {ratio : ℚ} {short length chosen : Int}

/-- A side that can be lengthened at all is not lengthened beyond an `int` a second time. -/
theorem enlarge_enlarge_le (atLeast : 1 ≤ ratio) (nonneg : 0 ≤ length)
    (grown : enlarge ratio length < 32768) :
    enlarge ratio (enlarge ratio length) ≤ maxInt := by
  have positive : 0 < ratio := by linarith
  have grownNonneg : 0 ≤ enlarge ratio length := enlarge_nonneg positive nonneg
  rcases nonneg.eq_or_lt with zero | some
  · subst zero
    simp [enlarge, maxInt]
  · have small : ratio < 32768 := by
      have one : enlarge ratio 1 < 32768 := (enlarge_mono positive (by omega) some).trans_lt grown
      rw [← not_le, le_enlarge_iff positive (by omega), not_le] at one
      simpa using one
    have real : ((enlarge ratio length : Int) : ℚ) ≤ 32767 := by
      exact_mod_cast Int.le_of_lt_add_one grown
    have realNonneg : (0 : ℚ) ≤ (enlarge ratio length : Int) := Int.cast_nonneg grownNonneg
    refine Int.le_of_lt_add_one ?_
    rw [← not_le, le_enlarge_iff positive grownNonneg, not_le]
    unfold maxInt
    push_cast
    nlinarith

/-- A side that grows by no more than the other one has left does not grow far. -/
theorem growth_lt (atLeast : 1 ≤ ratio) (shortNonneg : 0 ≤ short)
    (grown : enlarge ratio length - short ≤ length - reduce ratio short) (nonneg : 0 ≤ length) :
    ((enlarge ratio length - short : Int) - 1 : ℚ) * ratio <
      (enlarge ratio length - short : Int) + 1 := by
  have positive : 0 < ratio := by linarith
  have real : (0 : ℚ) ≤ length := Int.cast_nonneg nonneg
  have shortReal : (0 : ℚ) ≤ short := Int.cast_nonneg shortNonneg
  have whole : (length : ℚ) * ratio < enlarge ratio length + 1 :=
    lt_truncate_add_one (by positivity)
  have part : (short : ℚ) / ratio < reduce ratio short + 1 :=
    lt_truncate_add_one (by positivity)
  have bounded : ((reduce ratio short : Int) : ℚ) ≤ length - (enlarge ratio length - short) := by
    exact_mod_cast (show reduce ratio short ≤ length - (enlarge ratio length - short) by omega)
  rw [div_lt_iff₀ positive] at part
  push_cast
  nlinarith

/-- The ratio of two sides of which one has to grow only a little is small. -/
theorem ratio_le_of_growth (atLeast : 1 ≤ ratio) (shortNonneg : 0 ≤ short)
    (shortGrown : enlarge ratio short < 32768) (nonneg : 0 ≤ length)
    (longer : short < enlarge ratio length)
    (grown : enlarge ratio length - short ≤ length - reduce ratio short) : ratio ≤ 13571 := by
  have positive : 0 < ratio := by linarith
  by_contra large
  have large : 13571 < ratio := not_le.mp large
  have growth := growth_lt atLeast shortNonneg grown nonneg
  have one : enlarge ratio length - short = 1 := by
    by_contra more
    have two : (2 : ℚ) ≤ (enlarge ratio length - short : Int) := by
      exact_mod_cast (show 2 ≤ enlarge ratio length - short by omega)
    nlinarith
  have some : 1 ≤ length := by
    by_contra none
    have zero : length = 0 := by omega
    subst zero
    have same : enlarge ratio 0 = 0 := by simp [enlarge]
    omega
  have least : 13571 ≤ enlarge ratio length := by
    rw [le_enlarge_iff positive nonneg]
    have real : (1 : ℚ) ≤ length := by exact_mod_cast some
    push_cast
    nlinarith
  have wide : (13570 : ℚ) ≤ short := by
    exact_mod_cast (show 13570 ≤ short by omega)
  rw [← not_le, le_enlarge_iff positive shortNonneg, not_le] at shortGrown
  push_cast at shortGrown
  nlinarith

/-- A side that was lengthened because the other one would have changed more can be lengthened
again. -/
theorem enlarge_of_growth (atLeast : 1 ≤ ratio) (shortNonneg : 0 ≤ short)
    (shortGrown : enlarge ratio short < 32768) (nonneg : 0 ≤ length)
    (longer : short < enlarge ratio length)
    (grown : enlarge ratio length - short ≤ length - reduce ratio short) :
    enlarge ratio (enlarge ratio length) ≤ length + 46340 := by
  have positive : 0 < ratio := by linarith
  have small := ratio_le_of_growth atLeast shortNonneg shortGrown nonneg longer grown
  have growth := growth_lt atLeast shortNonneg grown nonneg
  have reduced := reduce_nonneg positive shortNonneg
  have bounded : ((enlarge ratio length - short : Int) : ℚ) ≤ length := by
    exact_mod_cast (show enlarge ratio length - short ≤ length by omega)
  rw [← not_le, le_enlarge_iff positive shortNonneg, not_le] at shortGrown
  refine Int.le_of_lt_add_one ?_
  rw [← not_le, le_enlarge_iff positive (enlarge_nonneg positive nonneg), not_le]
  push_cast at *
  nlinarith

/-- The longer of the two sides that a side can get is in reach after either choice. -/
theorem enlarge_chosen_le (atLeast : 1 ≤ ratio) (shortNonneg : 0 ≤ short)
    (shortGrown : enlarge ratio short < 32768) (nonneg : 0 ≤ length)
    (either : chosen = enlarge ratio length ∨ chosen = reduce ratio length)
    (near : (short - chosen) * (short - chosen) ≤
      (length - reduce ratio short) * (length - reduce ratio short)) :
    enlarge ratio chosen ≤ length + 46340 := by
  have positive : 0 < ratio := by linarith
  rcases either with rfl | rfl
  · rcases le_or_gt (enlarge ratio length) short with shorter | longer
    · have below := enlarge_mono positive (enlarge_nonneg positive nonneg) shorter
      omega
    · have short_le := reduce_le_of_le_enlarge positive nonneg shortNonneg longer.le
      refine enlarge_of_growth atLeast shortNonneg shortGrown nonneg longer ?_
      rw [mul_self_le_mul_self_iff (by omega) (by omega)]
      linarith
  · have back := enlarge_le_of_le_reduce positive nonneg (reduce_nonneg positive nonneg) le_rfl
    omega

end Grown

namespace RectTrackerRatio

/-! ## Distances between short sides -/

section Distances

variable {moved : Bool} {size side : Int}

theorem sideDist_le (moved : Bool) (sizeShort : ShortSide size) (sideShort : ShortSide side) :
    sideDist moved size side ≤ maxInt := by
  obtain ⟨sizeNonneg, sizeBelow⟩ := sizeShort
  obtain ⟨sideNonneg, sideBelow⟩ := sideShort
  have square : (size - side) * (size - side) ≤ 32767 * 32767 :=
    abs_le_iff_mul_self_le.mp (by rw [abs_le, abs_of_pos (by decide)]; omega)
  unfold sideDist sideWeight maxInt
  cases moved <;> simp only [if_true, if_false, Bool.false_eq_true] <;> omega

/-- A side that is not moved may grow farther. -/
theorem sideDist_fixed_le (sizeShort : ShortSide size) (nonneg : 0 ≤ side)
    (near : side ≤ size + 46340) : sideDist false size side ≤ maxInt := by
  obtain ⟨sizeNonneg, sizeBelow⟩ := sizeShort
  have square : (size - side) * (size - side) ≤ 46340 * 46340 :=
    abs_le_iff_mul_self_le.mp (by rw [abs_le, abs_of_pos (by decide)]; omega)
  unfold sideDist sideWeight maxInt
  simp only [if_false, Bool.false_eq_true]
  omega

/-- A candidate that is moved, has its side lengthened and is marked. -/
theorem markedDist_le (sizeShort : ShortSide size) (longer : size < side)
    (near : moved = true → side < 32768) : markedDist moved size side ≤ maxInt := by
  obtain ⟨sizeNonneg, sizeBelow⟩ := sizeShort
  unfold markedDist sideWeight farSize maxInt
  cases moved with
  | true =>
      have near := near rfl
      simp only [if_true]
      nlinarith
  | false =>
      simp only [if_false, Bool.false_eq_true]
      nlinarith

/-- Only a side that ends below `32768` is an `int` away from nothing when it is moved. -/
theorem lt_of_sideDist_zero (nonneg : 0 ≤ side) (near : sideDist true 0 side ≤ maxInt) :
    side < 32768 := by
  unfold sideDist sideWeight maxInt at near
  simp only [if_true] at near
  nlinarith

/-- A candidate of the last choice, marked when it is too long for the second pass. -/
theorem picked_le {expand : Bool} (sizeShort : ShortSide size) (nonneg : 0 ≤ side)
    (near : expand = true ∨ moved = true → side < 32768) :
    (if ¬expand ∧ size < side then markedDist moved size side
      else sideDist moved size side) ≤ maxInt := by
  split
  · rename_i marked
    exact markedDist_le sizeShort marked.2 fun isMoved => near (.inr isMoved)
  · rename_i kept
    refine sideDist_le moved sizeShort ⟨nonneg, ?_⟩
    cases expand with
    | true => exact near (.inl rfl)
    | false =>
        have shorter : side ≤ size := not_lt.mp fun longer => kept ⟨Bool.false_ne_true, longer⟩
        exact shorter.trans_lt sizeShort.2

end Distances

/-! ## The sides that follow from short ones -/

section Sides

variable {ratio : ℚ} {moved : Bool} {size short length chosen : Int} {oriented : Prop}

theorem reduce_short (atLeast : 1 ≤ ratio) (lengthShort : ShortSide length) :
    ShortSide (reduce ratio length) :=
  ⟨reduce_nonneg (by linarith) lengthShort.1,
    (reduce_le atLeast lengthShort.1).trans_lt lengthShort.2⟩

/-- Only the longer of the two sides can leave the range. -/
theorem sideFits_iff (atLeast : 1 ≤ ratio) (sizeShort : ShortSide size)
    (lengthShort : ShortSide length) (moved : Bool) (oriented : Prop) :
    (FitsInt (enlarge ratio length) ∧ FitsInt (reduce ratio length) ∧
        (oriented ∨ sideDist moved size (reduce ratio length) ≤ maxInt ∧
          sideDist moved size (enlarge ratio length) ≤ maxInt)) ↔
      enlarge ratio length ≤ maxInt ∧
        (oriented ∨ sideDist moved size (enlarge ratio length) ≤ maxInt) := by
  have reduced := reduce_short atLeast lengthShort
  have nonneg : 0 ≤ enlarge ratio length := enlarge_nonneg (by linarith) lengthShort.1
  have near := sideDist_le moved sizeShort reduced
  constructor
  · rintro ⟨grown, _, distances⟩
    exact ⟨grown.2, distances.imp_right And.right⟩
  · rintro ⟨grown, distance⟩
    have whole : FitsInt (enlarge ratio length) := ⟨by unfold maxInt; omega, grown⟩
    exact ⟨whole, reduced.fitsInt, distance.imp_right fun far => ⟨near, far⟩⟩

/-- A side that has been chosen can be lengthened when its choice does not lengthen it, or
keeps the distances small. -/
theorem regrown_fits (atLeast : 1 ≤ ratio) (shortNonneg : 0 ≤ short)
    (lengthShort : ShortSide length)
    (either : chosen = enlarge ratio length ∨ chosen = reduce ratio length)
    (forced : oriented → chosen = reduce ratio length ∨ enlarge ratio length < 32768)
    (nearest : ¬oriented → enlarge ratio short < 32768 ∧
      (short - chosen) * (short - chosen) ≤
        (length - reduce ratio short) * (length - reduce ratio short)) :
    enlarge ratio chosen ≤ maxInt ∧
      (oriented ∨ sideDist false length (enlarge ratio chosen) ≤ maxInt) := by
  have positive : 0 < ratio := by linarith
  have below := lengthShort.2
  have back := enlarge_le_of_le_reduce positive lengthShort.1
    (reduce_nonneg positive lengthShort.1) le_rfl
  by_cases asked : oriented
  · refine ⟨?_, .inl asked⟩
    rcases either with rfl | rfl
    · rcases forced asked with same | grown
      · rw [same]
        unfold maxInt
        omega
      · exact enlarge_enlarge_le atLeast lengthShort.1 grown
    · unfold maxInt
      omega
  · obtain ⟨shortGrown, near⟩ := nearest asked
    have chosenNonneg : 0 ≤ chosen := by
      rcases either with rfl | rfl
      · exact enlarge_nonneg positive lengthShort.1
      · exact reduce_nonneg positive lengthShort.1
    have reach := enlarge_chosen_le atLeast shortNonneg shortGrown lengthShort.1 either near
    have far := sideDist_fixed_le lengthShort (enlarge_nonneg positive chosenNonneg) reach
    exact ⟨by unfold maxInt; omega, .inr far⟩

end Sides

/-! ## One pass -/

/-- How far a ratio may lengthen a height into a width. -/
def widthLimit (orientation : Int) : Int := if orientation = -1 then 2147483648 else 32768

/-- How far a ratio may lengthen a width into a height. -/
def heightLimit (orientation : Int) : Int := if orientation = 1 then 2147483648 else 32768

/-- The sides are short, and so are the ones that the ratio makes of them. -/
structure SidesFit (tracker : RectTrackerRatio) (width height : Int) : Prop where
  wide : ShortSide width
  high : ShortSide height
  widthGrown : enlarge tracker.ratio height < widthLimit tracker.orientation
  heightGrown : enlarge tracker.ratio width < heightLimit tracker.orientation

variable {tracker : RectTrackerRatio} {rect other : Rect} {handler : Handler}
  {width height : Int}

theorem SidesFit.mono (fit : tracker.SidesFit width height) (atLeast : 1 ≤ tracker.ratio)
    {narrow low : Int} (narrowNonneg : 0 ≤ narrow) (narrower : narrow ≤ width)
    (lowNonneg : 0 ≤ low) (lower : low ≤ height) : tracker.SidesFit narrow low where
  wide := ⟨narrowNonneg, narrower.trans_lt fit.wide.2⟩
  high := ⟨lowNonneg, lower.trans_lt fit.high.2⟩
  widthGrown := (enlarge_mono (by linarith) lowNonneg lower).trans_lt fit.widthGrown
  heightGrown := (enlarge_mono (by linarith) narrowNonneg narrower).trans_lt fit.heightGrown

theorem SidesFit.width_le (fit : tracker.SidesFit width height) :
    enlarge tracker.ratio height ≤ maxInt := by
  have below := fit.widthGrown
  unfold widthLimit at below
  unfold maxInt
  split at below <;> omega

theorem SidesFit.height_le (fit : tracker.SidesFit width height) :
    enlarge tracker.ratio width ≤ maxInt := by
  have below := fit.heightGrown
  unfold heightLimit at below
  unfold maxInt
  split at below <;> omega

/-- The width that is chosen for a height is short as well. -/
theorem SidesFit.widthFor_short (fit : tracker.SidesFit width height)
    (atLeast : 1 ≤ tracker.ratio) : ShortSide (tracker.widthFor width height) := by
  by_cases landscape : tracker.orientation = -1
  · rw [widthFor, chooseSide, if_pos landscape]
    exact reduce_short atLeast fit.high
  · have below := fit.widthGrown
    rw [widthLimit, if_neg landscape] at below
    exact ⟨widthFor_nonneg (by linarith) fit.high.1,
      (widthFor_le atLeast fit.high.1).trans_lt below⟩

theorem SidesFit.heightFor_short (fit : tracker.SidesFit width height)
    (atLeast : 1 ≤ tracker.ratio) : ShortSide (tracker.heightFor width height) := by
  by_cases portrait : tracker.orientation = 1
  · have side : tracker.heightFor width height = reduce tracker.ratio width := by
      rw [heightFor, chooseSide, if_neg (by omega), if_pos portrait]
    rw [side]
    exact reduce_short atLeast fit.wide
  · have below := fit.heightGrown
    rw [heightLimit, if_neg portrait] at below
    exact ⟨heightFor_nonneg (by linarith) fit.wide.1,
      (heightFor_le atLeast fit.wide.1).trans_lt below⟩

/-- Without an orientation both lengthened sides are short. -/
theorem SidesFit.grown_short (fit : tracker.SidesFit width height)
    (free : ¬tracker.Oriented) :
    enlarge tracker.ratio height < 32768 ∧ enlarge tracker.ratio width < 32768 := by
  have widthGrown := fit.widthGrown
  have heightGrown := fit.heightGrown
  rw [widthLimit, if_neg fun landscape => free (.inl landscape)] at widthGrown
  rw [heightLimit, if_neg fun portrait => free (.inr portrait)] at heightGrown
  exact ⟨widthGrown, heightGrown⟩

theorem widthFits_iff (atLeast : 1 ≤ tracker.ratio) (wide : ShortSide rect.width)
    (high : ShortSide rect.height) (handler : Handler) :
    tracker.WidthFits rect handler ↔
      enlarge tracker.ratio rect.height ≤ maxInt ∧
        (tracker.Oriented ∨
          sideDist handler.left rect.width (enlarge tracker.ratio rect.height) ≤ maxInt) :=
  sideFits_iff atLeast wide high handler.left tracker.Oriented

theorem heightFits_iff (atLeast : 1 ≤ tracker.ratio) (wide : ShortSide rect.width)
    (high : ShortSide rect.height) (handler : Handler) :
    tracker.HeightFits rect handler ↔
      enlarge tracker.ratio rect.width ≤ maxInt ∧
        (tracker.Oriented ∨
          sideDist handler.top rect.height (enlarge tracker.ratio rect.width) ≤ maxInt) := by
  rw [← sideFits_iff atLeast high wide handler.top tracker.Oriented, HeightFits, and_left_comm,
    and_comm (a := sideDist handler.top rect.height (enlarge tracker.ratio rect.width) ≤ maxInt)]

/-- The widths for a height that fits stay in the range, whatever the short width is. -/
theorem SidesFit.widthFits (fit : tracker.SidesFit width height) (atLeast : 1 ≤ tracker.ratio)
    (wide : ShortSide rect.width) (same : rect.height = height) (handler : Handler) :
    tracker.WidthFits rect handler := by
  subst same
  have nonneg : 0 ≤ enlarge tracker.ratio rect.height :=
    enlarge_nonneg (by linarith) fit.high.1
  rw [widthFits_iff atLeast wide fit.high]
  refine ⟨fit.width_le, or_iff_not_imp_left.mpr fun free => ?_⟩
  exact sideDist_le _ wide ⟨nonneg, (fit.grown_short free).1⟩

theorem SidesFit.heightFits (fit : tracker.SidesFit width height) (atLeast : 1 ≤ tracker.ratio)
    (high : ShortSide rect.height) (same : rect.width = width) (handler : Handler) :
    tracker.HeightFits rect handler := by
  subst same
  have nonneg : 0 ≤ enlarge tracker.ratio rect.width :=
    enlarge_nonneg (by linarith) fit.wide.1
  rw [heightFits_iff atLeast fit.wide high]
  refine ⟨fit.height_le, or_iff_not_imp_left.mpr fun free => ?_⟩
  exact sideDist_le _ high ⟨nonneg, (fit.grown_short free).2⟩

/-- A pass over short sides stays in the range. -/
theorem SidesFit.passFits (fit : tracker.SidesFit rect.width rect.height)
    (atLeast : 1 ≤ tracker.ratio) (handler : Handler) (expand : Bool) :
    tracker.PassFits rect handler expand := by
  have newWidth := fit.widthFor_short atLeast
  have newHeight := fit.heightFor_short atLeast
  constructor
  · exact fit.widthFits atLeast fit.wide rfl handler
  · exact fit.heightFits atLeast fit.high rfl handler
  · exact .inr ⟨picked_le fit.wide newWidth.1 fun _ => newWidth.2,
      picked_le fit.high newHeight.1 fun _ => newHeight.2⟩

/-! ## The second pass -/

/-- Whatever the last choice marks is near when no side is moved. -/
theorem pickFits_none (positive : 0 < tracker.ratio) (wide : ShortSide rect.width)
    (high : ShortSide rect.height) : tracker.PickFits rect .none false :=
  .inr ⟨picked_le wide (widthFor_nonneg positive high.1) fun moved =>
      moved.elim (absurd · Bool.false_ne_true) (absurd · Bool.false_ne_true),
    picked_le high (heightFor_nonneg positive wide.1) fun moved =>
      moved.elim (absurd · Bool.false_ne_true) (absurd · Bool.false_ne_true)⟩

/-- A moved rectangle whose width was chosen for its height stays in the range. -/
theorem SidesFit.second_of_width (fit : tracker.SidesFit rect.width rect.height)
    (atLeast : 1 ≤ tracker.ratio) (nearer : tracker.WidthNearer rect .none) :
    tracker.PassFits (tracker.rectWidth rect .none) .none false := by
  have positive : 0 < tracker.ratio := by linarith
  have width : (tracker.rectWidth rect .none).width =
      tracker.widthFor rect.width rect.height := rectWidth_width rect .none
  have height : (tracker.rectWidth rect .none).height = rect.height := by
    rw [rectWidth_eq]
    rfl
  have wide : ShortSide (tracker.rectWidth rect .none).width := by
    rw [width]
    exact fit.widthFor_short atLeast
  have high : ShortSide (tracker.rectWidth rect .none).height := by
    rw [height]
    exact fit.high
  constructor
  · exact fit.widthFits atLeast wide height .none
  · rw [heightFits_iff atLeast wide high, width, height]
    refine regrown_fits atLeast fit.wide.1 fit.high (chooseSide_mem ..) ?_ ?_
    · rintro (landscape | portrait)
      · exact .inl (if_pos landscape)
      · have grown := fit.widthGrown
        rw [widthLimit, if_neg (by omega)] at grown
        exact .inr grown
    · intro free
      refine ⟨(fit.grown_short free).2, ?_⟩
      have nearest := chooseSide_nearest (fun landscape => free (.inl landscape))
        (fun portrait => free (.inr portrait)) rect.height
        (reduce tracker.ratio rect.width) (enlarge tracker.ratio rect.width)
      simp only [WidthNearer, sideWeight, Handler.left, Handler.top, Bool.false_eq_true, if_false,
        one_mul] at nearer
      exact nearer.le.trans nearest.1
  · exact pickFits_none positive wide high

/-- A moved rectangle whose height was chosen for its width stays in the range. -/
theorem SidesFit.second_of_height (fit : tracker.SidesFit rect.width rect.height)
    (atLeast : 1 ≤ tracker.ratio) (farther : ¬tracker.WidthNearer rect .none) :
    tracker.PassFits (tracker.rectHeight rect .none) .none false := by
  have positive : 0 < tracker.ratio := by linarith
  have height : (tracker.rectHeight rect .none).height =
      tracker.heightFor rect.width rect.height := rectHeight_height rect .none
  have width : (tracker.rectHeight rect .none).width = rect.width := by
    rw [rectHeight_eq]
    rfl
  have wide : ShortSide (tracker.rectHeight rect .none).width := by
    rw [width]
    exact fit.wide
  have high : ShortSide (tracker.rectHeight rect .none).height := by
    rw [height]
    exact fit.heightFor_short atLeast
  constructor
  · rw [widthFits_iff atLeast wide high, width, height]
    refine regrown_fits atLeast fit.high.1 fit.wide (chooseSide_mem ..).symm ?_ ?_
    · rintro (landscape | portrait)
      · have grown := fit.heightGrown
        rw [heightLimit, if_neg (by omega)] at grown
        exact .inr grown
      · exact .inl ((if_neg (by omega)).trans (if_pos portrait))
    · intro free
      refine ⟨(fit.grown_short free).1, ?_⟩
      have nearest := chooseSide_nearest (fun landscape => free (.inl landscape))
        (fun portrait => free (.inr portrait)) rect.width
        (enlarge tracker.ratio rect.height) (reduce tracker.ratio rect.height)
      simp only [WidthNearer, sideWeight, Handler.left, Handler.top, Bool.false_eq_true, if_false,
        one_mul, not_lt] at farther
      exact farther.trans nearest.2
  · exact fit.heightFits atLeast high width .none
  · exact pickFits_none positive wide high

/-- A rectangle inside a max rect whose sides fit stays in the range. -/
theorem staysInRange_of_sidesFit (unfixed : tracker.fixedWidth = -1)
    (atLeast : 1 ≤ tracker.ratio) (set : tracker.maxRect.Sized)
    (fit : tracker.SidesFit tracker.maxRect.width tracker.maxRect.height)
    (inside : rect.Inside tracker.maxRect) (handler : Handler) :
    tracker.StaysInRange rect handler := by
  have positive : 0 < tracker.ratio := by linarith
  have small {rect : Rect} (inside : rect.Inside tracker.maxRect) :
      tracker.SidesFit rect.width rect.height :=
    fit.mono atLeast inside.1.1 inside.1.length_le inside.2.1 inside.2.length_le
  rw [staysInRange_iff unfixed positive set inside]
  refine ⟨(small inside).passFits atLeast handler true, ?_⟩
  unfold secondRect
  rw [startRect_of_inside unfixed set inside]
  by_cases moving : handler = .none
  · subst moving
    rw [firstPass_nearer positive rfl]
    split
    · rename_i nearer
      have sides := max_none_size set (tracker.rectWidth rect .none)
      exact ((small inside).second_of_width atLeast nearer).of_size sides.1 sides.2
    · rename_i farther
      have sides := max_none_size set (tracker.rectHeight rect .none)
      exact ((small inside).second_of_height atLeast farther).of_size sides.1 sides.2
  · exact (small (clipped_firstPass_inside positive set moving inside)).passFits atLeast
      handler false

/-! ## The longer sides of the max rect -/

/-- A corner that gives a rectangle without width the one for its height. -/
theorem widthGrown_of_passFits (high : ShortSide height) (atLeast : 1 ≤ tracker.ratio) {x y : Int}
    (fits : tracker.PassFits ⟨x, y, 0, height⟩ .topLeft true) :
    enlarge tracker.ratio height < widthLimit tracker.orientation := by
  have nonneg : 0 ≤ enlarge tracker.ratio height := enlarge_nonneg (by linarith) high.1
  unfold widthLimit
  split
  · have whole := fits.width.1.2
    unfold maxInt at whole
    exact Int.lt_add_one_of_le whole
  · rename_i notLandscape
    by_cases portrait : tracker.orientation = 1
    · have pick := (fits.pick.resolve_left Bool.false_ne_true).1
      have side : tracker.widthFor 0 height = enlarge tracker.ratio height := by
        rw [widthFor, chooseSide, if_neg notLandscape, if_pos portrait]
      rw [if_neg fun marked => marked.1 rfl, side] at pick
      exact lt_of_sideDist_zero nonneg pick
    · have distances := fits.width.2.2.resolve_left fun asked => asked.elim notLandscape portrait
      exact lt_of_sideDist_zero nonneg distances.2

/-- A corner that gives a rectangle without height the one for its width. -/
theorem heightGrown_of_passFits (wide : ShortSide width) (atLeast : 1 ≤ tracker.ratio) {x y : Int}
    (fits : tracker.PassFits ⟨x, y, width, 0⟩ .topLeft true) :
    enlarge tracker.ratio width < heightLimit tracker.orientation := by
  have nonneg : 0 ≤ enlarge tracker.ratio width := enlarge_nonneg (by linarith) wide.1
  unfold heightLimit
  split
  · have whole := fits.height.2.1.2
    unfold maxInt at whole
    exact Int.lt_add_one_of_le whole
  · rename_i notPortrait
    by_cases landscape : tracker.orientation = -1
    · have pick := (fits.pick.resolve_left Bool.false_ne_true).2
      have side : tracker.heightFor width 0 = enlarge tracker.ratio width := by
        rw [heightFor, chooseSide, if_pos landscape]
      rw [if_neg fun marked => marked.1 rfl, side] at pick
      exact lt_of_sideDist_zero nonneg pick
    · have distances := fits.height.2.2.resolve_left fun asked => asked.elim landscape notPortrait
      exact lt_of_sideDist_zero nonneg distances.1

/-- Every rectangle inside the max rect stays in the range exactly when the sides of the max
rect fit. -/
theorem staysInRange_iff_sidesFit (unfixed : tracker.fixedWidth = -1)
    (atLeast : 1 ≤ tracker.ratio) (wide : ShortSide tracker.maxRect.width)
    (high : ShortSide tracker.maxRect.height) :
    (∀ rect handler, rect.Inside tracker.maxRect → tracker.StaysInRange rect handler) ↔
      tracker.SidesFit tracker.maxRect.width tracker.maxRect.height := by
  have positive : 0 < tracker.ratio := by linarith
  have set : tracker.maxRect.Sized := ⟨wide.1, high.1⟩
  constructor
  · intro all
    have upright : (⟨tracker.maxRect.x, tracker.maxRect.y, 0, tracker.maxRect.height⟩ :
        Rect).Inside tracker.maxRect :=
      ⟨⟨le_rfl, le_rfl, add_le_add_right wide.1 _⟩, ⟨high.1, le_rfl, le_rfl⟩⟩
    have level : (⟨tracker.maxRect.x, tracker.maxRect.y, tracker.maxRect.width, 0⟩ :
        Rect).Inside tracker.maxRect :=
      ⟨⟨wide.1, le_rfl, le_rfl⟩, ⟨le_rfl, le_rfl, add_le_add_right high.1 _⟩⟩
    have uprightFits := (staysInRange_iff unfixed positive set upright .topLeft).mp
      (all _ .topLeft upright)
    have levelFits := (staysInRange_iff unfixed positive set level .topLeft).mp
      (all _ .topLeft level)
    exact ⟨wide, high, widthGrown_of_passFits high atLeast uprightFits.1,
      heightGrown_of_passFits wide atLeast levelFits.1⟩
  · intro fit rect handler inside
    exact staysInRange_of_sidesFit unfixed atLeast set fit inside handler

/-! ## The ratio the user gives -/

/-- The ratio of two positive numbers is set as the longer to the shorter one. -/
theorem setRatio_fraction (tracker : RectTrackerRatio) {num denom : Int} (numPositive : 0 < num)
    (denomPositive : 0 < denom) :
    (tracker.setRatio (num / denom)).ratio = (max num denom : Int) / (min num denom : Int) := by
  have numReal : (0 : ℚ) < num := Int.cast_pos.mpr numPositive
  have denomReal : (0 : ℚ) < denom := Int.cast_pos.mpr denomPositive
  have positive : (0 : ℚ) < num / denom := div_pos numReal denomReal
  unfold setRatio
  rcases lt_or_ge num denom with below | above
  · have lower : (num : ℚ) / denom < 1 := (div_lt_one denomReal).mpr (Int.cast_lt.mpr below)
    rw [max_eq_right below.le, min_eq_left below.le]
    exact (if_pos ⟨positive, lower⟩).trans (one_div_div _ _)
  · have upper : 1 ≤ (num : ℚ) / denom := (one_le_div denomReal).mpr (Int.cast_le.mpr above)
    rw [max_eq_left above, min_eq_right above]
    exact if_neg fun both => absurd both.2 (not_lt.mpr upper)

/-- A length enlarged by a fraction, in whole numbers. -/
theorem enlarge_fraction_lt_iff {long short length limit : Int} (longPositive : 0 < long)
    (shortPositive : 0 < short) (nonneg : 0 ≤ length) :
    enlarge (long / short) length < limit ↔ length * long < limit * short := by
  have longReal : (0 : ℚ) < long := Int.cast_pos.mpr longPositive
  have shortReal : (0 : ℚ) < short := Int.cast_pos.mpr shortPositive
  rw [← not_le, le_enlarge_iff (div_pos longReal shortReal) nonneg, not_le, mul_div_assoc',
    div_lt_iff₀ shortReal]
  exact_mod_cast Iff.rfl

/-- The nearer rectangle is found whenever the distances stay in the range.  For a ratio of two
positive numbers and a max rect with sides up to `32767` they do, for every handler and every
rectangle inside, exactly when the longer side that the ratio makes of a side of the max rect
stays below its limit. -/
theorem distances_in_range_iff (tracker : RectTrackerRatio) {num denom : Int}
    (numPositive : 0 < num) (denomPositive : 0 < denom) (set : tracker.maxRect.Sized)
    (wide : tracker.maxRect.width ≤ 32767) (high : tracker.maxRect.height ≤ 32767) :
    (∀ rr r1 r2 near, checkedNearer rr r1 r2 = some near →
      (near = r1 ∨ near = r2) ∧ calcRectDist rr near ≤ calcRectDist rr r1 ∧
        calcRectDist rr near ≤ calcRectDist rr r2) ∧
    ((∀ rect handler, rect.Inside tracker.maxRect →
        (tracker.setRatio (num / denom)).StaysInRange rect handler) ↔
      tracker.maxRect.height * max num denom <
          widthLimit tracker.orientation * min num denom ∧
        tracker.maxRect.width * max num denom <
          heightLimit tracker.orientation * min num denom) := by
  refine ⟨fun rr r1 r2 near found => checkedNearer_nearest found, ?_⟩
  have longPositive : 0 < max num denom := lt_max_of_lt_left numPositive
  have shortPositive : 0 < min num denom := lt_min numPositive denomPositive
  have ratio := setRatio_fraction tracker numPositive denomPositive
  have atLeast : 1 ≤ (tracker.setRatio (num / denom)).ratio := by
    rw [ratio, one_le_div (Int.cast_pos.mpr shortPositive)]
    exact Int.cast_le.mpr min_le_max
  have wideShort : ShortSide tracker.maxRect.width := ⟨set.1, Int.lt_add_one_of_le wide⟩
  have highShort : ShortSide tracker.maxRect.height := ⟨set.2, Int.lt_add_one_of_le high⟩
  have whole := @staysInRange_iff_sidesFit (tracker.setRatio (num / denom)) rfl atLeast
    wideShort highShort
  refine whole.trans ?_
  rw [← enlarge_fraction_lt_iff longPositive shortPositive set.2,
    ← enlarge_fraction_lt_iff longPositive shortPositive set.1, ← ratio]
  exact ⟨fun fit => ⟨fit.widthGrown, fit.heightGrown⟩,
    fun grown => ⟨wideShort, highShort, grown.1, grown.2⟩⟩

/-- A tracker over a large image, shown in its own size. -/
def largeTracker : RectTrackerRatio :=
  { RectTrackerRatio.create with maxRect := ⟨0, 0, 20000, 20000⟩ }

/-- The condition at work: three to two lengthens a side to `30000`. -/
theorem three_to_two_in_range :
    (largeTracker.setRatio (3 / 2)).StaysInRange ⟨0, 0, 0, 20000⟩ .topLeft :=
  (distances_in_range_iff largeTracker (by decide) (by decide) (by decide) (by decide)
    (by decide)).2.mpr (by decide) ⟨0, 0, 0, 20000⟩ .topLeft (by decide)

/-- Two to one lengthens a side to `40000`, and twice the square is no `int`. -/
theorem two_to_one_out_of_range :
    ¬∀ rect handler, rect.Inside largeTracker.maxRect →
      (largeTracker.setRatio (2 / 1)).StaysInRange rect handler := by
  intro all
  have short := all ⟨0, 0, 0, 20000⟩ .topLeft (by decide)
  exact absurd short (by decide +kernel)

end RectTrackerRatio

end RPhoto.Tracker
