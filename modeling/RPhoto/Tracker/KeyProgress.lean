import RPhoto.Tracker.RatioConstraint
import RPhoto.Tracker.StableSelection

/-!
# Growing a selection with the keys

Shift and an arrow lengthen one side of the selection.  With a ratio the first
pass derives the other side from the lengthened one, and the second pass derives
the lengthened side back from the other.  Both derivations truncate, so what the
key has added can be lost again.  The result is the one of the code as long as the
distances of the key and of the update after it are in the range of an `int`.
-/

namespace RPhoto.Tracker

open RPhoto.Library

/-- Which way the longer side of a resized selection lies: along the key or across it because
the orientation asks for it, or across it because that is nearer. -/
inductive Lie where
  | along
  | across
  | nearAcross
deriving DecidableEq, Repr

section Sides

variable {ratio : ℚ} {size other grown room : Int}

/-- The side of the key after both passes, from the lengthened side and the room across. -/
def endSide (ratio : ℚ) (grown room : Int) : Lie → Int
  | .along => enlarge ratio (reduce ratio grown)
  | .across => reduce ratio (min (enlarge ratio grown) room)
  | .nearAcross =>
      if (enlarge ratio grown = grown ∨ room = grown) ∧
          enlarge ratio grown + reduce ratio grown < 2 * grown then enlarge ratio grown
      else reduce ratio (min (enlarge ratio grown) room)

/-- Some whole shorter side stands for a longer one between the old and the lengthened side. -/
def GainsAlong (ratio : ℚ) (size grown : Int) : Prop :=
  ∃ whole : Int, ((size + 1 : Int) : ℚ) ≤ whole * ratio ∧ (whole : ℚ) * ratio ≤ grown

/-- Some whole longer side, for which there is room, stands for a shorter one between them. -/
def GainsAcross (ratio : ℚ) (size grown room : Int) : Prop :=
  ∃ whole : Int, whole ≤ room ∧ ((size + 1 : Int) : ℚ) * ratio ≤ whole ∧
    (whole : ℚ) ≤ grown * ratio

/-- The lengthened side becomes the side of a square, which keeps it or turns. -/
def GainsSquare (ratio : ℚ) (size grown room : Int) : Prop :=
  size < grown ∧ (enlarge ratio grown = grown ∨ room = grown) ∧
    enlarge ratio grown + reduce ratio grown < 2 * grown

/-- When the key lengthens a side for good. -/
def Gains (ratio : ℚ) (size grown room : Int) : Lie → Prop
  | .along => GainsAlong ratio size grown
  | .across => GainsAcross ratio size grown room
  | .nearAcross => GainsSquare ratio size grown room ∨ GainsAcross ratio size grown room

theorem GainsAcross.lt (positive : 0 < ratio) (gains : GainsAcross ratio size grown room) :
    size < grown := by
  obtain ⟨whole, _, beyond, below⟩ := gains
  have next : ((size + 1 : Int) : ℚ) ≤ grown :=
    le_of_mul_le_mul_right (beyond.trans below) positive
  exact Int.add_one_le_iff.mp (Int.cast_le.mp next)

/-- Two lengths in ratio, one way or the other. -/
def SidesMatch (ratio : ℚ) (size other : Int) : Prop :=
  (size = reduce ratio other ∨ size = enlarge ratio other) ∨
    (other = reduce ratio size ∨ other = enlarge ratio size)

theorem SidesMatch.symm (sides : SidesMatch ratio size other) : SidesMatch ratio other size :=
  Or.symm sides

/-- A selection with one side to be lengthened, the other side and the room for the two: the
larger side with the increment fits along the key or across it. -/
structure Growth (ratio : ℚ) (size other incr length room : Int) : Prop where
  above : 1 < ratio
  sizePositive : 0 < size
  otherPositive : 0 < other
  incrPositive : 0 < incr
  sizeFits : size ≤ length
  otherFits : other ≤ room
  sidesMatch : SidesMatch ratio size other
  larger :
    (max size other + incr ≤ length ∧ reduce ratio (max size other + incr) ≤ room) ∨
      (reduce ratio (max size other + incr) ≤ length ∧ max size other + incr ≤ room)

/-- The side across is nearer for the other side. -/
def Nearer (ratio : ℚ) (other grown : Int) : Prop :=
  enlarge ratio grown + reduce ratio grown ≤ 2 * other

theorem Nearer.le (atLeast : 1 ≤ ratio) (nonneg : 0 ≤ grown) (nearer : Nearer ratio other grown) :
    grown ≤ other := by
  have balance := twice_le_enlarge_add_reduce atLeast nonneg
  unfold Nearer at nearer
  omega

namespace Growth

variable {incr length : Int} (growth : Growth ratio size other incr length room)

include growth

theorem positive : 0 < ratio := by
  have := growth.above
  linarith

theorem grown_pos : 0 < min (size + incr) length := by
  have := growth.sizePositive
  have := growth.incrPositive
  have := growth.sizeFits
  omega

/-- The side across that follows from the lengthened side fits. -/
theorem reduce_le_room : reduce ratio (min (size + incr) length) ≤ room := by
  have short := growth.grown_pos.le
  have larger : min (size + incr) length ≤ max size other + incr := by omega
  rcases growth.larger with ⟨_, across⟩ | ⟨_, across⟩
  · exact (reduce_mono growth.positive short larger).trans across
  · exact (reduce_le growth.above.le short).trans (larger.trans across)

/-- A square that turns was lengthened by the whole increment and has room to turn. -/
theorem enlarge_le_length (nearer : Nearer ratio other (min (size + incr) length))
    (square : room = min (size + incr) length)
    (turns : enlarge ratio (min (size + incr) length) + reduce ratio (min (size + incr) length) <
      2 * min (size + incr) length) :
    enlarge ratio (min (size + incr) length) ≤ length := by
  have below := nearer.le growth.above.le growth.grown_pos.le
  have fits := growth.otherFits
  have grows := growth.incrPositive
  have same : min (size + incr) length = other := by omega
  rw [same] at turns ⊢
  rcases growth.larger with ⟨along, _⟩ | ⟨_, across⟩
  · have added : size + incr = other := by omega
    have least : size - 1 ≤ reduce ratio other := by
      rcases growth.sidesMatch with (least | most) | (least | most)
      · omega
      · have up := le_enlarge growth.above.le growth.otherPositive.le
        omega
      · have down := reduce_le growth.above.le growth.sizePositive.le
        omega
      · exact sub_one_le_reduce growth.above.le growth.sizePositive.le most.ge
    omega
  · omega

theorem endSide_le {lie : Lie}
    (nearer : lie = .nearAcross → Nearer ratio other (min (size + incr) length)) :
    endSide ratio (min (size + incr) length) room lie ≤ length := by
  have nonneg := growth.grown_pos.le
  have fits : min (size + incr) length ≤ length := min_le_right _ _
  have roomy : 0 ≤ room := growth.otherPositive.le.trans growth.otherFits
  have cut : reduce ratio (min (enlarge ratio (min (size + incr) length)) room) ≤ length :=
    (reduce_le_of_le_enlarge growth.positive nonneg
      (le_min (enlarge_nonneg growth.positive nonneg) roomy) (min_le_left _ _)).trans fits
  cases lie with
  | along =>
      exact (enlarge_le_of_le_reduce growth.positive nonneg
        (reduce_nonneg growth.positive nonneg) le_rfl).trans fits
  | across => exact cut
  | nearAcross =>
      rw [endSide]
      split_ifs with square
      · rcases square.1 with steady | edge
        · exact steady.trans_le fits
        · exact growth.enlarge_le_length (nearer rfl) edge square.2
      · exact cut

theorem lt_endSide_iff {lie : Lie}
    (nearer : lie = .nearAcross → Nearer ratio other (min (size + incr) length)) :
    size < endSide ratio (min (size + incr) length) room lie ↔
      Gains ratio size (min (size + incr) length) room lie := by
  have nonneg := growth.grown_pos.le
  have roomy : 0 ≤ room := growth.otherPositive.le.trans growth.otherFits
  cases lie with
  | along => exact lt_enlarge_reduce_iff growth.positive nonneg
  | across => exact lt_reduce_min_iff growth.positive nonneg roomy
  | nearAcross =>
      have below := (nearer rfl).le growth.above.le nonneg
      have up := le_enlarge growth.above.le nonneg
      have sizeFits := growth.sizeFits
      have otherFits := growth.otherFits
      have grows := growth.incrPositive
      rw [endSide, Gains, GainsSquare]
      split_ifs with square
      · constructor
        · intro longer
          refine Or.inl ⟨?_, square⟩
          -- Without growth there would be room for the larger side in neither direction.
          rcases square.1 with steady | edge
          · omega
          · rcases growth.larger with ⟨along, _⟩ | ⟨_, across⟩
            · omega
            · omega
        · rintro (grown | across)
          · omega
          · exact (across.lt growth.positive).trans_le up
      · rw [lt_reduce_min_iff growth.positive nonneg roomy]
        exact ⟨Or.inr, fun gains => gains.resolve_left fun grown => square grown.2⟩

end Growth

end Sides

/-! ## The choice without an orientation -/

section Choice

variable {orientation size short long : Int}

/-- A longer portrait side is chosen up to the middle of the two. -/
theorem chooseSide_nearer_port (notLand : orientation ≠ -1) (notPort : orientation ≠ 1)
    (ordered : short ≤ long) :
    chooseSide orientation size long short = if long + short ≤ 2 * size then long else short := by
  simp only [chooseSide, notLand, notPort, if_false]
  split_ifs with nearer near near
  · nlinarith
  · rfl
  · rfl
  · nlinarith

/-- A longer landscape side is chosen beyond the middle. -/
theorem chooseSide_nearer_land (notLand : orientation ≠ -1) (notPort : orientation ≠ 1)
    (ordered : short ≤ long) :
    chooseSide orientation size short long = if long + short < 2 * size then long else short := by
  simp only [chooseSide, notLand, notPort, if_false]
  split_ifs with nearer near near
  · rfl
  · nlinarith
  · nlinarith
  · rfl

/-- A second pass picks the longer of two sides while their middle is below the lengthened side,
and the shorter while it is above. -/
structure Picks (ratio : ℚ) (grown : Int) (second : Int → Int) : Prop where
  longer : ∀ {across : Int}, 0 ≤ across → enlarge ratio across + reduce ratio across < 2 * grown →
    second across = enlarge ratio across
  shorter : ∀ {across : Int}, 0 ≤ across →
    2 * grown < enlarge ratio across + reduce ratio across → second across = reduce ratio across

namespace Picks

variable {ratio : ℚ} {grown room : Int} {second : Int → Int} (picks : Picks ratio grown second)
  (above : 1 < ratio) (positive : 0 < grown)

include picks above positive

theorem along : second (reduce ratio grown) = endSide ratio grown room .along := by
  have real : 0 < ratio := by linarith
  have down := reduce_lt above positive
  have short := reduce_nonneg real positive.le
  have lower := enlarge_le_of_le_reduce real positive.le short le_rfl
  have least := reduce_le above.le short
  exact picks.longer short (by omega)

/-- Only a square can lie in the middle; what is picked there is left to the caller. -/
theorem nearAcross (fits : grown ≤ room)
    (tie : min (enlarge ratio grown) room = grown →
      enlarge ratio grown + reduce ratio grown = 2 * grown → second grown = reduce ratio grown) :
    second (min (enlarge ratio grown) room) = endSide ratio grown room .nearAcross := by
  have up := le_enlarge above.le positive.le
  have cut : 0 ≤ min (enlarge ratio grown) room := by omega
  have middle := twice_le_enlarge_add_reduce above.le cut
  rw [endSide]
  by_cases square : min (enlarge ratio grown) room = grown
  · have turns : enlarge ratio grown = grown ∨ room = grown := by omega
    rw [square]
    rcases lt_trichotomy (enlarge ratio grown + reduce ratio grown) (2 * grown) with
      below | level | beyond
    · rw [if_pos ⟨turns, below⟩, picks.longer positive.le below]
    · rw [if_neg (by omega), tie square level]
    · rw [if_neg (by omega), picks.shorter positive.le beyond]
  · rw [if_neg (by omega), picks.shorter cut (by omega)]

end Picks

end Choice

namespace RectTrackerRatio

variable {tracker : RectTrackerRatio} {grown other room : Int}

/-- How a selection lies to the key that moves its right side. -/
def rightLie (tracker : RectTrackerRatio) (grown height : Int) : Lie :=
  if tracker.orientation = 1 then .along
  else if tracker.orientation = -1 then .across
  else if enlarge tracker.ratio grown + reduce tracker.ratio grown < 2 * height then .nearAcross
  else .along

/-- How it lies to the key that moves its bottom side; here the middle counts as nearer. -/
def downLie (tracker : RectTrackerRatio) (grown width : Int) : Lie :=
  if tracker.orientation = -1 then .along
  else if tracker.orientation = 1 then .across
  else if enlarge tracker.ratio grown + reduce tracker.ratio grown ≤ 2 * width then .nearAcross
  else .along

theorem rightLie_nearer (near : tracker.rightLie grown other = .nearAcross) :
    Nearer tracker.ratio other grown := by
  unfold rightLie at near
  split_ifs at near with _ _ closer
  exact closer.le

theorem downLie_nearer (near : tracker.downLie grown other = .nearAcross) :
    Nearer tracker.ratio other grown := by
  unfold downLie at near
  split_ifs at near with _ _ closer
  exact closer

theorem picks_widthFor (above : 1 < tracker.ratio) (notPort : tracker.orientation ≠ 1)
    (notLand : tracker.orientation ≠ -1) :
    Picks tracker.ratio grown (tracker.widthFor grown) where
  longer := fun {across} nonneg below => by
    rw [widthFor, chooseSide_nearer_port notLand notPort
      ((reduce_le above.le nonneg).trans (le_enlarge above.le nonneg)), if_pos below.le]
  shorter := fun {across} nonneg beyond => by
    rw [widthFor, chooseSide_nearer_port notLand notPort
      ((reduce_le above.le nonneg).trans (le_enlarge above.le nonneg)), if_neg (by omega)]

theorem picks_heightFor (above : 1 < tracker.ratio) (notPort : tracker.orientation ≠ 1)
    (notLand : tracker.orientation ≠ -1) :
    Picks tracker.ratio grown (tracker.heightFor · grown) where
  longer := fun {across} nonneg below => by
    rw [heightFor, chooseSide_nearer_land notLand notPort
      ((reduce_le above.le nonneg).trans (le_enlarge above.le nonneg)), if_pos below]
  shorter := fun {across} nonneg beyond => by
    rw [heightFor, chooseSide_nearer_land notLand notPort
      ((reduce_le above.le nonneg).trans (le_enlarge above.le nonneg)), if_neg (by omega)]

/-- The height that the first pass derives, cut to its room, and the width that the second pass
derives from it. -/
theorem widthFor_heightFor (above : 1 < tracker.ratio) (positive : 0 < grown)
    (fits : other ≤ room) (reduced : reduce tracker.ratio grown ≤ room) :
    tracker.widthFor grown (min (tracker.heightFor grown other) room) =
      endSide tracker.ratio grown room (tracker.rightLie grown other) := by
  have up := le_enlarge above.le positive.le
  have down := reduce_lt above positive
  have middle := twice_le_enlarge_add_reduce above.le positive.le
  by_cases notPort : tracker.orientation = 1
  · have first : tracker.heightFor grown other = reduce tracker.ratio grown := by
      simp [heightFor, chooseSide, notPort]
    rw [first, min_eq_left reduced, rightLie, if_pos notPort, endSide]
    simp [widthFor, chooseSide, notPort]
  by_cases notLand : tracker.orientation = -1
  · have first : tracker.heightFor grown other = enlarge tracker.ratio grown := by
      simp [heightFor, chooseSide, notLand]
    rw [first, rightLie, if_neg notPort, if_pos notLand, endSide]
    simp [widthFor, chooseSide, notLand]
  have picks := @picks_widthFor tracker grown above notPort notLand
  have first := @chooseSide_nearer_land _ other _ _ notLand notPort (down.le.trans up)
  rw [heightFor, first, rightLie, if_neg notPort, if_neg notLand]
  split_ifs with nearer
  · -- The other side is beyond the middle and fits, so a square is not in the middle.
    exact picks.nearAcross above positive (by omega) fun square level => by omega
  · rw [min_eq_left reduced]
    exact picks.along above positive

/-- The same with the sides exchanged. -/
theorem heightFor_widthFor (above : 1 < tracker.ratio) (positive : 0 < grown)
    (fits : other ≤ room) (reduced : reduce tracker.ratio grown ≤ room) :
    tracker.heightFor (min (tracker.widthFor other grown) room) grown =
      endSide tracker.ratio grown room (tracker.downLie grown other) := by
  have up := le_enlarge above.le positive.le
  have down := reduce_lt above positive
  have middle := twice_le_enlarge_add_reduce above.le positive.le
  by_cases notLand : tracker.orientation = -1
  · have first : tracker.widthFor other grown = reduce tracker.ratio grown := by
      simp [widthFor, chooseSide, notLand]
    rw [first, min_eq_left reduced, downLie, if_pos notLand, endSide]
    simp [heightFor, chooseSide, notLand]
  by_cases notPort : tracker.orientation = 1
  · have first : tracker.widthFor other grown = enlarge tracker.ratio grown := by
      simp [widthFor, chooseSide, notPort]
    rw [first, downLie, if_neg notLand, if_pos notPort, endSide]
    simp [heightFor, chooseSide, notPort]
  have picks := @picks_heightFor tracker grown above notPort notLand
  have first := @chooseSide_nearer_port _ other _ _ notLand notPort (down.le.trans up)
  rw [widthFor, first, downLie, if_neg notLand, if_neg notPort]
  split_ifs with nearer
  · refine picks.nearAcross above positive (by omega) fun _ level => ?_
    rw [heightFor, chooseSide_nearer_land notLand notPort (down.le.trans up), if_neg (by omega)]
  · rw [min_eq_left reduced]
    exact picks.along above positive

/-! ## A selection that `Update` leaves alone -/

variable {rect : Rect} {handler : Handler}

/-- An unmarked result of the second pass has not left its rectangle. -/
theorem secondPass_inside_of_sized (positive : 0 < tracker.ratio) (corner : handler.mid = false)
    (inside : rect.Inside tracker.maxRect)
    (sized : (tracker.adjustTrackerRectRatio rect handler false).Sized) :
    (tracker.adjustTrackerRectRatio rect handler false).Inside tracker.maxRect := by
  have byWidth (fits : ¬rect.width < tracker.widthFor rect.width rect.height) :
      (tracker.rectWidth rect handler).Inside tracker.maxRect := by
    rw [rectWidth_eq]
    exact inside_resized_width inside (widthFor_nonneg positive inside.2.1)
      ((not_lt.mp fits).trans (width_le_columns inside _))
  have byHeight (fits : ¬rect.height < tracker.heightFor rect.width rect.height) :
      (tracker.rectHeight rect handler).Inside tracker.maxRect := by
    rw [rectHeight_eq]
    exact inside_resized_height inside (heightFor_nonneg positive inside.1.1)
      ((not_lt.mp fits).trans (height_le_rows inside _))
  by_cases far : tracker.MarkFar rect handler
  · refine (secondPass_inside positive corner inside far ?_).1
    by_contra longer
    simp only [not_or, not_le] at longer
    exact secondPass_of_both_longer positive corner longer.1 longer.2 sized
  · exact absurd sized (secondPass_of_not_markFar positive corner far)

/-- A selection with a corner in the max rect that `Update` leaves alone is placed. -/
theorem placed_of_unchanged (unfixed : tracker.fixedWidth = -1) (positive : 0 < tracker.ratio)
    (set : tracker.maxRect.Sized) (sized : rect.Sized) (meets : rect.Meets tracker.maxRect)
    (unchanged : tracker.adjustTrackerRect rect .outside = rect) : tracker.Placed rect := by
  have clipped := @max_inside tracker rect .outside set (by decide) sized meets
  have passed := @clipped_firstPass_inside tracker _ .outside positive set (by decide) clipped
  have adjusted := adjust_unfixed unfixed rect .outside
  rw [if_pos positive, unchanged] at adjusted
  have inside : (tracker.adjustTrackerRect rect .outside).Inside tracker.maxRect := by
    rw [unchanged, adjusted]
    exact secondPass_inside_of_sized positive rfl passed (adjusted ▸ sized)
  rw [← unchanged]
  exact placed_of_adjusted unfixed rfl inside

/-! ## The key -/

/-- The number of pixels an arrow key moves a side. -/
def keyIncrement (controlDown : Bool) : Int := if controlDown then 10 else 1

/-- A rectangle of the ratio with this larger side fits from the corner of the selection, one
way or the other. -/
def FitsLarger (tracker : RectTrackerRatio) (larger : Int) : Prop :=
  (⟨tracker.rect.x, tracker.rect.y, larger, reduce tracker.ratio larger⟩ : Rect).Inside
      tracker.maxRect ∨
    (⟨tracker.rect.x, tracker.rect.y, reduce tracker.ratio larger, larger⟩ : Rect).Inside
      tracker.maxRect

instance (tracker : RectTrackerRatio) (larger : Int) : Decidable (tracker.FitsLarger larger) :=
  inferInstanceAs (Decidable (_ ∨ _))

/-- A shown selection that `Update` leaves alone, with room for a larger one. -/
structure Growable (tracker : RectTrackerRatio) (incr : Int) : Prop where
  enabled : tracker.disabled = false
  unfixed : tracker.isFixedSize = false
  above : 1 < tracker.ratio
  wide : 0 < tracker.rect.width
  high : 0 < tracker.rect.height
  unchanged : tracker.update.rect = tracker.rect
  larger : tracker.FitsLarger (max tracker.rect.width tracker.rect.height + incr)

/-- When Shift and the right arrow make the selection wider. -/
def RightGains (tracker : RectTrackerRatio) (incr : Int) : Prop :=
  let grown := min (tracker.rect.width + incr) (tracker.columns tracker.rect false)
  Gains tracker.ratio tracker.rect.width grown (tracker.rows tracker.rect false)
    (tracker.rightLie grown tracker.rect.height)

/-- When Shift and the down arrow make it taller. -/
def DownGains (tracker : RectTrackerRatio) (incr : Int) : Prop :=
  let grown := min (tracker.rect.height + incr) (tracker.rows tracker.rect false)
  Gains tracker.ratio tracker.rect.height grown (tracker.columns tracker.rect false)
    (tracker.downLie grown tracker.rect.width)

/-- Both passes for a lengthened width. -/
theorem adjust_midRight (unfixed : tracker.fixedWidth = -1) (positive : 0 < tracker.ratio)
    (set : tracker.maxRect.Sized) (inside : rect.Inside tracker.maxRect) {width grown height : Int}
    (lengthened : grown = min width (tracker.columns rect false)) (nonneg : 0 ≤ grown)
    (derived : height = min (tracker.heightFor grown rect.height) (tracker.rows rect false)) :
    tracker.adjustTrackerRect { rect with width } .midRight =
      ⟨rect.x, rect.y, tracker.widthFor grown height, height⟩ := by
  have clipped : tracker.adjustTrackerRectMax { rect with width } .midRight =
      { rect with width := grown } := by
    rw [lengthened]
    exact max_resized_width set (by decide) inside false width
  have kept : ({ rect with width := grown } : Rect).Inside tracker.maxRect :=
    @inside_resized_width _ _ inside false grown nonneg (lengthened.trans_le (min_le_right _ _))
  have first : tracker.adjustTrackerRectRatio { rect with width := grown } .midRight true =
      { rect with width := grown, height := tracker.heightFor grown rect.height } := by
    rw [adjustTrackerRectRatio, if_neg (not_le.mpr positive)]
    exact rectHeight_eq ..
  have cut : tracker.adjustTrackerRectMax
      { rect with width := grown, height := tracker.heightFor grown rect.height } .midRight =
        { rect with width := grown, height } := by
    rw [derived]
    exact max_resized_height set (by decide) kept false _
  rw [adjust_unfixed unfixed, if_pos positive, clipped, first, cut, adjustTrackerRectRatio,
    if_neg (not_le.mpr positive)]
  exact rectWidth_eq ..

/-- Both passes for a lengthened height. -/
theorem adjust_bottomMid (unfixed : tracker.fixedWidth = -1) (positive : 0 < tracker.ratio)
    (set : tracker.maxRect.Sized) (inside : rect.Inside tracker.maxRect) {height grown width : Int}
    (lengthened : grown = min height (tracker.rows rect false)) (nonneg : 0 ≤ grown)
    (derived : width = min (tracker.widthFor rect.width grown) (tracker.columns rect false)) :
    tracker.adjustTrackerRect { rect with height } .bottomMid =
      ⟨rect.x, rect.y, width, tracker.heightFor width grown⟩ := by
  have clipped : tracker.adjustTrackerRectMax { rect with height } .bottomMid =
      { rect with height := grown } := by
    rw [lengthened]
    exact max_resized_height set (by decide) inside false height
  have kept : ({ rect with height := grown } : Rect).Inside tracker.maxRect :=
    @inside_resized_height _ _ inside false grown nonneg (lengthened.trans_le (min_le_right _ _))
  have first : tracker.adjustTrackerRectRatio { rect with height := grown } .bottomMid true =
      { rect with width := tracker.widthFor rect.width grown, height := grown } := by
    rw [adjustTrackerRectRatio, if_neg (not_le.mpr positive)]
    exact rectWidth_eq ..
  have cut : tracker.adjustTrackerRectMax
      { rect with width := tracker.widthFor rect.width grown, height := grown } .bottomMid =
        { rect with width, height := grown } := by
    rw [derived]
    exact max_resized_width set (by decide) kept false _
  rw [adjust_unfixed unfixed, if_pos positive, clipped, first, cut, adjustTrackerRectRatio,
    if_neg (not_le.mpr positive)]
  exact rectHeight_eq ..

namespace Growable

variable {incr : Int} (growable : tracker.Growable incr)

include growable

theorem fixedWidth : tracker.fixedWidth = -1 := by
  simpa [isFixedSize] using growable.unfixed

theorem positive : 0 < tracker.ratio := by
  have := growable.above
  linarith

theorem sized : tracker.rect.Sized := ⟨growable.wide.le, growable.high.le⟩

theorem larger_pos (grows : 0 < incr) :
    0 < max tracker.rect.width tracker.rect.height + incr := by
  have := growable.wide
  omega

theorem set (grows : 0 < incr) : tracker.maxRect.Sized := by
  have nonneg := reduce_nonneg growable.positive (growable.larger_pos grows).le
  have longer := growable.larger_pos grows
  rcases growable.larger with fits | fits <;>
    simp only [Rect.Inside, Span.Within, Span.stop, Rect.horizontal, Rect.vertical, Rect.Sized]
      at fits ⊢ <;>
    omega

theorem meets (grows : 0 < incr) : tracker.rect.Meets tracker.maxRect := by
  have nonneg := reduce_nonneg growable.positive (growable.larger_pos grows).le
  have longer := growable.larger_pos grows
  have wide := growable.wide
  have high := growable.high
  rcases growable.larger with fits | fits <;>
    simp only [Rect.Inside, Rect.Meets, Span.Within, Span.Meets, Span.stop, Rect.horizontal,
      Rect.vertical] at fits ⊢ <;>
    omega

theorem placed (grows : 0 < incr) : tracker.Placed tracker.rect := by
  refine placed_of_unchanged growable.fixedWidth growable.positive (growable.set grows)
    growable.sized (growable.meets grows) ?_
  rw [← update_rect]
  exact growable.unchanged

theorem inside (grows : 0 < incr) : tracker.rect.Inside tracker.maxRect :=
  (growable.placed grows).inside (growable.set grows)

/-- The larger rectangle in terms of the room to the right and below. -/
theorem fits_room :
    (max tracker.rect.width tracker.rect.height + incr ≤ tracker.columns tracker.rect false ∧
        reduce tracker.ratio (max tracker.rect.width tracker.rect.height + incr) ≤
          tracker.rows tracker.rect false) ∨
      (reduce tracker.ratio (max tracker.rect.width tracker.rect.height + incr) ≤
          tracker.columns tracker.rect false ∧
        max tracker.rect.width tracker.rect.height + incr ≤ tracker.rows tracker.rect false) := by
  refine growable.larger.imp ?_ ?_ <;>
    simp only [Rect.Inside, Span.Within, Span.stop, Rect.horizontal, Rect.vertical, columns, rows,
      Span.room, Bool.false_eq_true, if_false] <;>
    omega

theorem sidesMatch (grows : 0 < incr) :
    SidesMatch tracker.ratio tracker.rect.width tracker.rect.height := by
  rcases (growable.placed grows).inRatio growable.positive with width | height
  · rcases chooseSide_mem tracker.orientation tracker.rect.width
      (enlarge tracker.ratio tracker.rect.height) (reduce tracker.ratio tracker.rect.height)
      with chosen | chosen
    · exact Or.inl (Or.inr (width.symm.trans chosen))
    · exact Or.inl (Or.inl (width.symm.trans chosen))
  · rcases chooseSide_mem tracker.orientation tracker.rect.height
      (reduce tracker.ratio tracker.rect.width) (enlarge tracker.ratio tracker.rect.width)
      with chosen | chosen
    · exact Or.inr (Or.inl (height.symm.trans chosen))
    · exact Or.inr (Or.inr (height.symm.trans chosen))

theorem rightGrowth (grows : 0 < incr) :
    Growth tracker.ratio tracker.rect.width tracker.rect.height incr
      (tracker.columns tracker.rect false) (tracker.rows tracker.rect false) where
  above := growable.above
  sizePositive := growable.wide
  otherPositive := growable.high
  incrPositive := grows
  sizeFits := width_le_columns (growable.inside grows) false
  otherFits := height_le_rows (growable.inside grows) false
  sidesMatch := growable.sidesMatch grows
  larger := growable.fits_room

theorem downGrowth (grows : 0 < incr) :
    Growth tracker.ratio tracker.rect.height tracker.rect.width incr
      (tracker.rows tracker.rect false) (tracker.columns tracker.rect false) where
  above := growable.above
  sizePositive := growable.high
  otherPositive := growable.wide
  incrPositive := grows
  sizeFits := height_le_rows (growable.inside grows) false
  otherFits := width_le_columns (growable.inside grows) false
  sidesMatch := (growable.sidesMatch grows).symm
  larger := by
    rw [max_comm]
    exact growable.fits_room.symm.imp And.symm And.symm

theorem active : ¬(tracker.disabled = true ∨ ¬tracker.isShown = true) := by
  have shown : tracker.rect ≠ nullRect := by
    intro hidden
    exact nullRect_unsized (hidden ▸ growable.sized)
  simp [growable.enabled, isShown, shown]

theorem nonempty : ¬(tracker.rect.width ≤ 0 ∨ tracker.rect.height ≤ 0) := by
  have := growable.wide
  have := growable.high
  omega

/-- An arrow key whose rectangle is adjusted to a placed one leaves that one. -/
theorem onKey_rect {key : Key} (arrow : key = .right ∨ key = .down) {controlDown : Bool}
    {asked rect : Rect} {handler : Handler}
    (keyed : tracker.keyedRect key controlDown true = (asked, handler))
    (adjusted : tracker.adjustTrackerRect asked handler = rect) (placed : tracker.Placed rect) :
    (tracker.onKey key controlDown true).rect = rect := by
  have active := growable.active
  have nonempty := growable.nonempty
  have updated : (RectTrackerRatio.update { tracker with rect }).rect = rect := by
    rw [update_rect]
    exact adjust_of_placed growable.fixedWidth (placed.carry rfl rfl rfl)
  rcases arrow with rfl | rfl
  · unfold RectTrackerRatio.onKey
    rw [if_neg active, if_neg nonempty]
    dsimp only
    rw [keyed, adjusted]
    exact updated
  · unfold RectTrackerRatio.onKey
    rw [if_neg active, if_neg nonempty]
    dsimp only
    rw [keyed, adjusted]
    exact updated

end Growable

theorem keyIncrement_pos (controlDown : Bool) : 0 < keyIncrement controlDown := by
  cases controlDown <;> decide

theorem keyedRect_right (tracker : RectTrackerRatio) (controlDown : Bool) :
    tracker.keyedRect .right controlDown true =
      ({ tracker.rect with width := tracker.rect.width + keyIncrement controlDown },
        .midRight) := by
  cases controlDown <;> simp [keyedRect, Key.move, keyIncrement]

theorem keyedRect_down (tracker : RectTrackerRatio) (controlDown : Bool) :
    tracker.keyedRect .down controlDown true =
      ({ tracker.rect with height := tracker.rect.height + keyIncrement controlDown },
        .bottomMid) := by
  cases controlDown <;> simp [keyedRect, Key.move, keyIncrement]

/-- A rectangle in ratio that grows from the corner of one in the max rect and has the room. -/
theorem placed_grown (inside : rect.Inside tracker.maxRect) {width height : Int} (wide : 0 ≤ width)
    (narrow : width ≤ tracker.columns rect false) (high : 0 ≤ height)
    (low : height ≤ tracker.rows rect false)
    (inRatio : tracker.InRatio ⟨rect.x, rect.y, width, height⟩) :
    tracker.Placed ⟨rect.x, rect.y, width, height⟩ := by
  have tall : ({ rect with height } : Rect).Inside tracker.maxRect :=
    @inside_resized_height _ _ inside false height high low
  have within : (⟨rect.x, rect.y, width, height⟩ : Rect).Inside tracker.maxRect :=
    @inside_resized_width _ _ tall false width wide narrow
  exact ⟨within.sized, fun _ => within, fun _ => inRatio⟩

/-- The width after Shift and the right arrow. -/
theorem onKey_right {controlDown : Bool}
    (growable : tracker.Growable (keyIncrement controlDown)) :
    (tracker.onKey .right controlDown true).rect.width =
      endSide tracker.ratio
        (min (tracker.rect.width + keyIncrement controlDown) (tracker.columns tracker.rect false))
        (tracker.rows tracker.rect false)
        (tracker.rightLie
          (min (tracker.rect.width + keyIncrement controlDown)
            (tracker.columns tracker.rect false))
          tracker.rect.height) := by
  have grows := keyIncrement_pos controlDown
  have inside := growable.inside grows
  have growth := growable.rightGrowth grows
  have nonneg := growth.grown_pos.le
  have fits := growth.endSide_le (@rightLie_nearer tracker _ tracker.rect.height)
  generalize lengthened : min (tracker.rect.width + keyIncrement controlDown)
    (tracker.columns tracker.rect false) = grown at nonneg fits ⊢
  have sides := @widthFor_heightFor tracker grown tracker.rect.height
    (tracker.rows tracker.rect false) growable.above (lengthened ▸ growth.grown_pos)
    growth.otherFits (lengthened ▸ growth.reduce_le_room)
  have adjusted := adjust_midRight growable.fixedWidth growable.positive (growable.set grows)
    inside lengthened.symm nonneg rfl
  rw [← sides] at fits ⊢
  have high : 0 ≤ min (tracker.heightFor grown tracker.rect.height)
      (tracker.rows tracker.rect false) :=
    le_min (heightFor_nonneg growable.positive nonneg) (growable.high.le.trans growth.otherFits)
  have placed := placed_grown inside (widthFor_nonneg growable.positive high) fits high
    (min_le_right _ _) (Or.inl widthFor_idem)
  rw [growable.onKey_rect (Or.inl rfl) (keyedRect_right ..) adjusted placed]

/-- The height after Shift and the down arrow. -/
theorem onKey_down {controlDown : Bool}
    (growable : tracker.Growable (keyIncrement controlDown)) :
    (tracker.onKey .down controlDown true).rect.height =
      endSide tracker.ratio
        (min (tracker.rect.height + keyIncrement controlDown) (tracker.rows tracker.rect false))
        (tracker.columns tracker.rect false)
        (tracker.downLie
          (min (tracker.rect.height + keyIncrement controlDown)
            (tracker.rows tracker.rect false))
          tracker.rect.width) := by
  have grows := keyIncrement_pos controlDown
  have inside := growable.inside grows
  have growth := growable.downGrowth grows
  have nonneg := growth.grown_pos.le
  have fits := growth.endSide_le (@downLie_nearer tracker _ tracker.rect.width)
  generalize lengthened : min (tracker.rect.height + keyIncrement controlDown)
    (tracker.rows tracker.rect false) = grown at nonneg fits ⊢
  have sides := @heightFor_widthFor tracker grown tracker.rect.width
    (tracker.columns tracker.rect false) growable.above (lengthened ▸ growth.grown_pos)
    growth.otherFits (lengthened ▸ growth.reduce_le_room)
  have adjusted := adjust_bottomMid growable.fixedWidth growable.positive (growable.set grows)
    inside lengthened.symm nonneg rfl
  rw [← sides] at fits ⊢
  have wide : 0 ≤ min (tracker.widthFor tracker.rect.width grown)
      (tracker.columns tracker.rect false) :=
    le_min (widthFor_nonneg growable.positive nonneg) (growable.wide.le.trans growth.otherFits)
  have placed := placed_grown inside wide (min_le_right _ _)
    (heightFor_nonneg growable.positive wide) fits (Or.inr heightFor_idem)
  rw [growable.onKey_rect (Or.inr rfl) (keyedRect_down ..) adjusted placed]

/-- Shift with the right arrow, in unbounded integers. -/
theorem onKey_right_grows_iff {controlDown : Bool}
    (growable : tracker.Growable (keyIncrement controlDown)) :
    tracker.rect.width < (tracker.onKey .right controlDown true).rect.width ↔
      tracker.RightGains (keyIncrement controlDown) := by
  rw [onKey_right growable]
  exact (growable.rightGrowth (keyIncrement_pos controlDown)).lt_endSide_iff rightLie_nearer

theorem onKey_down_grows_iff {controlDown : Bool}
    (growable : tracker.Growable (keyIncrement controlDown)) :
    tracker.rect.height < (tracker.onKey .down controlDown true).rect.height ↔
      tracker.DownGains (keyIncrement controlDown) := by
  rw [onKey_down growable]
  exact (growable.downGrowth (keyIncrement_pos controlDown)).lt_endSide_iff downLie_nearer

/-! ## In the range of an `int` -/

/-- `OnKey`. -/
def checkedOnKey (tracker : RectTrackerRatio) (key : Key) (controlDown shiftDown : Bool) :
    Option RectTrackerRatio :=
  if tracker.disabled ∨ ¬tracker.isShown then some tracker
  else if tracker.rect.width ≤ 0 ∨ tracker.rect.height ≤ 0 then some tracker
  else
    match key with
    | .escape =>
        if tracker.mouseCaptured then checkedUpdate { tracker with mouseCaptured := false }
        else some tracker.hide
    | .other => some tracker
    | key =>
        let (tmpRect, handler) := tracker.keyedRect key controlDown shiftDown
        (tracker.checkedAdjust tmpRect handler).bind fun rect =>
          checkedUpdate { tracker with rect }

/-- An arrow key has a result exactly when its two adjustments stay in the range. -/
theorem checkedOnKey_computes {key : Key} (arrow : key = .right ∨ key = .down)
    {incr : Int} (growable : tracker.Growable incr) (controlDown shiftDown : Bool) :
    Computes (tracker.checkedOnKey key controlDown shiftDown)
      (tracker.KeyInRange key controlDown shiftDown)
      (tracker.onKey key controlDown shiftDown) := by
  have active := growable.active
  have nonempty := growable.nonempty
  have asked : Computes
      ((tracker.checkedAdjust (tracker.keyedRect key controlDown shiftDown).1
        (tracker.keyedRect key controlDown shiftDown).2).bind fun rect =>
          checkedUpdate { tracker with rect })
      (tracker.KeyInRange key controlDown shiftDown)
      (update { tracker with
        rect := tracker.adjustTrackerRect (tracker.keyedRect key controlDown shiftDown).1
          (tracker.keyedRect key controlDown shiftDown).2 }) :=
    (checkedAdjust_computes tracker _ _).bind (checkedUpdate_computes _)
  unfold checkedOnKey onKey
  rw [if_neg active, if_neg nonempty, if_neg active, if_neg nonempty]
  rcases arrow with rfl | rfl
  · exact asked
  · exact asked

/--
Shift with the right or the down arrow lengthens the side of a selection that
`Update` leaves alone exactly when no distance leaves the range of an `int` and both
truncations leave something of the increment.
-/
theorem shift_arrow_grows_iff {controlDown : Bool}
    (growable : tracker.Growable (keyIncrement controlDown)) :
    ((∃ next, tracker.checkedOnKey .right controlDown true = some next ∧
          tracker.rect.width < next.rect.width) ↔
        tracker.KeyInRange .right controlDown true ∧
          tracker.RightGains (keyIncrement controlDown)) ∧
      ((∃ next, tracker.checkedOnKey .down controlDown true = some next ∧
          tracker.rect.height < next.rect.height) ↔
        tracker.KeyInRange .down controlDown true ∧
          tracker.DownGains (keyIncrement controlDown)) := by
  constructor
  · have computed := checkedOnKey_computes (.inl rfl) growable controlDown true
    rw [← onKey_right_grows_iff growable]
    exact computed.exists_iff (fun next => tracker.rect.width < next.rect.width)
  · have computed := checkedOnKey_computes (.inr rfl) growable controlDown true
    rw [← onKey_down_grows_iff growable]
    exact computed.exists_iff (fun next => tracker.rect.height < next.rect.height)

/-- A selection with the ratio of three to two in an image of a hundred pixels. -/
def smallSelection (width height : Int) : RectTrackerRatio :=
  { create with rect := ⟨0, 0, width, height⟩, maxRect := ⟨0, 0, 100, 100⟩, ratio := 3 / 2 }

theorem smallSelection_growable {incr : Int} (fits : (smallSelection 3 2).FitsLarger (3 + incr)) :
    (smallSelection 3 2).Growable incr :=
  ⟨rfl, by decide, by decide +kernel, by decide, by decide, by decide +kernel, fits⟩

/-- Ten pixels more in each direction: a shorter side of eight pixels stands for a longer one of
twelve. -/
theorem smallSelection_grows :
    (∃ next, (smallSelection 3 2).checkedOnKey .right true true = some next ∧
        (smallSelection 3 2).rect.width < next.rect.width) ∧
      ∃ next, (smallSelection 3 2).checkedOnKey .down true true = some next ∧
        (smallSelection 3 2).rect.height < next.rect.height := by
  have right : (smallSelection 3 2).rightLie 13 2 = .along := by decide +kernel
  have down : (smallSelection 3 2).downLie 12 3 = .along := by decide +kernel
  have wider : Gains (3 / 2) 3 13 100 ((smallSelection 3 2).rightLie 13 2) := by
    rw [right]
    exact ⟨8, by norm_num, by norm_num⟩
  have taller : Gains (3 / 2) 2 12 100 ((smallSelection 3 2).downLie 12 3) := by
    rw [down]
    exact ⟨8, by norm_num, by norm_num⟩
  have both := @shift_arrow_grows_iff (smallSelection 3 2) true
    (smallSelection_growable (by decide +kernel))
  exact ⟨both.1.mpr ⟨by decide +kernel, wider⟩, both.2.mpr ⟨by decide +kernel, taller⟩⟩

/-- One pixel more in the width is truncated away. -/
theorem smallSelection_stays :
    (smallSelection 3 2).Growable 1 ∧
      ((smallSelection 3 2).checkedOnKey .right false true).map (·.rect) = some ⟨0, 0, 3, 2⟩ ∧
      ¬∃ next, (smallSelection 3 2).checkedOnKey .right false true = some next ∧
        (smallSelection 3 2).rect.width < next.rect.width := by
  have stays : ((smallSelection 3 2).checkedOnKey .right false true).map (·.rect) =
      some ⟨0, 0, 3, 2⟩ := by
    decide +kernel
  refine ⟨smallSelection_growable (by decide +kernel), stays, ?_⟩
  rintro ⟨next, pressed, wider⟩
  rw [pressed, Option.map_some, Option.some.injEq] at stays
  rw [stays] at wider
  exact absurd wider (by decide)

end RectTrackerRatio

end RPhoto.Tracker
