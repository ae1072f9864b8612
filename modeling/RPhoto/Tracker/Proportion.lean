import RPhoto.Tracker.RectTracker
import Mathlib.Tactic.Ring

/-!
# The side that follows from the ratio

The ratio leaves two widths for a height and two heights for a width, one for
each orientation.  The tracker takes the one its orientation asks for, or the
nearer one.  A side that has been chosen once is chosen again.  A rectangle for
which both sides come out longer is a square.
-/

namespace RPhoto.Tracker

open RPhoto.Library

/-- The side for the portrait or for the landscape orientation, or the nearer one. -/
def chooseSide (orientation size port land : Int) : Int :=
  if orientation = -1 then land
  else if orientation = 1 then port
  else if (size - land) * (size - land) < (size - port) * (size - port) then land
  else port

section ChooseSide

variable {orientation size port land : Int}

theorem chooseSide_mem (orientation size port land : Int) :
    chooseSide orientation size port land = port ∨
      chooseSide orientation size port land = land := by
  unfold chooseSide
  split_ifs <;> simp

/-- A chosen side is its own choice. -/
theorem chooseSide_idem (orientation size port land : Int) :
    chooseSide orientation (chooseSide orientation size port land) port land =
      chooseSide orientation size port land := by
  have square := mul_self_nonneg (land - port)
  by_cases landscape : orientation = -1
  · simp [chooseSide, landscape]
  by_cases portrait : orientation = 1
  · simp [chooseSide, portrait]
  rcases chooseSide_mem orientation size port land with chosen | chosen <;> rw [chosen]
  · simp only [chooseSide, landscape, portrait, if_false]
    exact if_neg (by nlinarith)
  · simp only [chooseSide, landscape, portrait, if_false]
    refine ite_eq_left_iff.mpr fun near => ?_
    have zero : (land - port) * (land - port) = 0 := by linarith
    have := mul_self_eq_zero.mp zero
    omega

/-- A longer landscape side is chosen when it is asked for or strictly nearer. -/
theorem of_land (longer : port < land)
    (chosen : chooseSide orientation size port land = land) :
    orientation ≠ 1 ∧ (orientation ≠ -1 → port + land < 2 * size) := by
  unfold chooseSide at chosen
  split_ifs at chosen with landscape portrait nearer
  · exact ⟨by omega, fun other => absurd landscape other⟩
  · omega
  · exact ⟨portrait, fun _ => by nlinarith⟩
  · omega

/-- A longer portrait side is chosen when it is asked for or not farther. -/
theorem of_port (longer : land < port)
    (chosen : chooseSide orientation size port land = port) :
    orientation ≠ -1 ∧ (orientation ≠ 1 → port + land ≤ 2 * size) := by
  unfold chooseSide at chosen
  split_ifs at chosen with landscape portrait nearer
  · omega
  · exact ⟨landscape, fun other => absurd portrait other⟩
  · omega
  · exact ⟨landscape, fun _ => by nlinarith⟩

/-- Without an orientation the chosen side is the nearest. -/
theorem chooseSide_nearest (notLand : orientation ≠ -1) (notPort : orientation ≠ 1)
    (size port land : Int) :
    (size - chooseSide orientation size port land) *
          (size - chooseSide orientation size port land) ≤ (size - port) * (size - port) ∧
      (size - chooseSide orientation size port land) *
          (size - chooseSide orientation size port land) ≤ (size - land) * (size - land) := by
  unfold chooseSide
  rw [if_neg notLand, if_neg notPort]
  split
  · rename_i nearer
    exact ⟨nearer.le, le_rfl⟩
  · rename_i farther
    exact ⟨le_rfl, not_lt.mp farther⟩

end ChooseSide

namespace RectTrackerRatio

/-- The width that `rectWidth` gives to a rectangle. -/
def widthFor (tracker : RectTrackerRatio) (width height : Int) : Int :=
  chooseSide tracker.orientation width
    (enlarge tracker.ratio height) (reduce tracker.ratio height)

/-- The height that `rectHeight` gives to a rectangle. -/
def heightFor (tracker : RectTrackerRatio) (width height : Int) : Int :=
  chooseSide tracker.orientation height
    (reduce tracker.ratio width) (enlarge tracker.ratio width)

/-- One of the two sides is the one that follows from the other. -/
def InRatio (tracker : RectTrackerRatio) (rect : Rect) : Prop :=
  tracker.widthFor rect.width rect.height = rect.width ∨
    tracker.heightFor rect.width rect.height = rect.height

instance (tracker : RectTrackerRatio) (rect : Rect) : Decidable (tracker.InRatio rect) :=
  inferInstanceAs (Decidable (_ ∨ _))

/-- Neither orientation is asked for, and the nearer side of a square is the longer one. -/
def Unsteady (tracker : RectTrackerRatio) (size : Int) : Prop :=
  tracker.orientation ≠ -1 ∧ tracker.orientation ≠ 1 ∧
    size < enlarge tracker.ratio size ∧
    enlarge tracker.ratio size + reduce tracker.ratio size < 2 * size

instance (tracker : RectTrackerRatio) (size : Int) : Decidable (tracker.Unsteady size) :=
  inferInstanceAs (Decidable (_ ∧ _ ∧ _ ∧ _))

variable {tracker : RectTrackerRatio} {width height : Int}

theorem widthFor_idem : tracker.widthFor (tracker.widthFor width height) height =
    tracker.widthFor width height :=
  chooseSide_idem ..

theorem heightFor_idem : tracker.heightFor width (tracker.heightFor width height) =
    tracker.heightFor width height :=
  chooseSide_idem ..

theorem widthFor_nonneg (positive : 0 < tracker.ratio) (nonneg : 0 ≤ height) :
    0 ≤ tracker.widthFor width height := by
  rcases chooseSide_mem tracker.orientation width
    (enlarge tracker.ratio height) (reduce tracker.ratio height) with chosen | chosen
  · exact (enlarge_nonneg positive nonneg).trans_eq chosen.symm
  · exact (reduce_nonneg positive nonneg).trans_eq chosen.symm

theorem heightFor_nonneg (positive : 0 < tracker.ratio) (nonneg : 0 ≤ width) :
    0 ≤ tracker.heightFor width height := by
  rcases chooseSide_mem tracker.orientation height
    (reduce tracker.ratio width) (enlarge tracker.ratio width) with chosen | chosen
  · exact (reduce_nonneg positive nonneg).trans_eq chosen.symm
  · exact (enlarge_nonneg positive nonneg).trans_eq chosen.symm

theorem widthFor_le (atLeast : 1 ≤ tracker.ratio) (nonneg : 0 ≤ height) :
    tracker.widthFor width height ≤ enlarge tracker.ratio height := by
  have up := le_enlarge atLeast nonneg
  have down := reduce_le atLeast nonneg
  rcases chooseSide_mem tracker.orientation width
    (enlarge tracker.ratio height) (reduce tracker.ratio height) with chosen | chosen
  · exact chosen.le
  · exact chosen.trans_le (down.trans up)

theorem heightFor_le (atLeast : 1 ≤ tracker.ratio) (nonneg : 0 ≤ width) :
    tracker.heightFor width height ≤ enlarge tracker.ratio width := by
  have up := le_enlarge atLeast nonneg
  have down := reduce_le atLeast nonneg
  rcases chooseSide_mem tracker.orientation height
    (reduce tracker.ratio width) (enlarge tracker.ratio width) with chosen | chosen
  · exact chosen.trans_le (down.trans up)
  · exact chosen.le

/-- A width that the reduced height does not reach is the enlarged height. -/
theorem widthFor_longer {bound : Int} (short : reduce tracker.ratio height ≤ bound)
    (longer : bound < tracker.widthFor width height) :
    tracker.widthFor width height = enlarge tracker.ratio height ∧
      tracker.orientation ≠ -1 ∧
      (tracker.orientation ≠ 1 →
        enlarge tracker.ratio height + reduce tracker.ratio height ≤ 2 * width) := by
  rcases chooseSide_mem tracker.orientation width
    (enlarge tracker.ratio height) (reduce tracker.ratio height) with chosen | chosen
  · rw [widthFor, chosen] at longer
    exact ⟨chosen, of_port (by omega) chosen⟩
  · rw [widthFor, chosen] at longer
    omega

/-- A height that the reduced width does not reach is the enlarged width. -/
theorem heightFor_longer {bound : Int} (short : reduce tracker.ratio width ≤ bound)
    (longer : bound < tracker.heightFor width height) :
    tracker.heightFor width height = enlarge tracker.ratio width ∧
      tracker.orientation ≠ 1 ∧
      (tracker.orientation ≠ -1 →
        enlarge tracker.ratio width + reduce tracker.ratio width < 2 * height) := by
  rcases chooseSide_mem tracker.orientation height
    (reduce tracker.ratio width) (enlarge tracker.ratio width) with chosen | chosen
  · rw [heightFor, chosen] at longer
    omega
  · rw [heightFor, chosen] at longer
    have near := of_land (by omega) chosen
    exact ⟨chosen, near.1, fun other => by have := near.2 other; omega⟩

/-- Both sides come out longer only for an unsteady square. -/
theorem both_longer (atLeast : 1 ≤ tracker.ratio) (wide : 0 ≤ width) (high : 0 ≤ height)
    (widthLonger : width < tracker.widthFor width height)
    (heightLonger : height < tracker.heightFor width height) :
    width = height ∧ tracker.Unsteady width := by
  have positive : 0 < tracker.ratio := by linarith
  have shorts : reduce tracker.ratio height ≤ width ∧ reduce tracker.ratio width ≤ height := by
    rcases le_total width height with upright | level
    · have short := (reduce_le atLeast wide).trans upright
      have tall := (heightFor_longer short heightLonger).1
      exact ⟨reduce_le_of_le_enlarge positive wide high (by omega), short⟩
    · have short := (reduce_le atLeast high).trans level
      have broad := (widthFor_longer short widthLonger).1
      exact ⟨short, reduce_le_of_le_enlarge positive high wide (by omega)⟩
  obtain ⟨broad, notLand, nearWidth⟩ := widthFor_longer shorts.1 widthLonger
  obtain ⟨tall, notPort, nearHeight⟩ := heightFor_longer shorts.2 heightLonger
  have nearWidth := nearWidth notPort
  have nearHeight := nearHeight notLand
  have balanceWidth := twice_le_enlarge_add_reduce atLeast wide
  have balanceHeight := twice_le_enlarge_add_reduce atLeast high
  have square : width = height := by omega
  subst square
  exact ⟨rfl, notLand, notPort, by omega, nearHeight⟩

/--
A height chosen for a width that was itself chosen for the old height, and cut
afterwards, is not longer than the old one unless the rectangle is an unsteady square.
-/
theorem height_after_width (atLeast : 1 ≤ tracker.ratio) (high : 0 ≤ height)
    {newWidth : Int} (nonneg : 0 ≤ newWidth)
    (cut : newWidth ≤ tracker.widthFor width height)
    (kept : newWidth = tracker.widthFor width height ∨ width ≤ newWidth)
    (longer : height < tracker.heightFor newWidth height) :
    width = height ∧ newWidth = height ∧ tracker.Unsteady height := by
  have positive : 0 < tracker.ratio := by linarith
  have short : reduce tracker.ratio newWidth ≤ height :=
    reduce_le_of_le_enlarge positive high nonneg (cut.trans (widthFor_le atLeast high))
  obtain ⟨tall, notPort, nearHeight⟩ := heightFor_longer short longer
  have broad : reduce tracker.ratio height < tracker.widthFor width height := by
    by_contra narrow
    have := enlarge_le_of_le_reduce positive high nonneg (by omega : newWidth ≤ _)
    omega
  obtain ⟨chosen, notLand, nearWidth⟩ := widthFor_longer le_rfl broad
  have nearWidth := nearWidth notPort
  have nearHeight := nearHeight notLand
  have balance := twice_le_enlarge_add_reduce atLeast high
  have balanceNew := twice_le_enlarge_add_reduce atLeast nonneg
  have above := le_enlarge atLeast high
  have square : newWidth = height := by omega
  subst square
  exact ⟨by omega, rfl, notLand, notPort, by omega, nearHeight⟩

/-- The same with the sides exchanged. -/
theorem width_after_height (atLeast : 1 ≤ tracker.ratio) (wide : 0 ≤ width)
    {newHeight : Int} (nonneg : 0 ≤ newHeight)
    (cut : newHeight ≤ tracker.heightFor width height)
    (kept : newHeight = tracker.heightFor width height ∨ height ≤ newHeight)
    (longer : width < tracker.widthFor width newHeight) :
    height = width ∧ newHeight = width ∧ tracker.Unsteady width := by
  have positive : 0 < tracker.ratio := by linarith
  have short : reduce tracker.ratio newHeight ≤ width :=
    reduce_le_of_le_enlarge positive wide nonneg (cut.trans (heightFor_le atLeast wide))
  obtain ⟨broad, notLand, nearWidth⟩ := widthFor_longer short longer
  have tall : reduce tracker.ratio width < tracker.heightFor width height := by
    by_contra low
    have := enlarge_le_of_le_reduce positive wide nonneg (by omega : newHeight ≤ _)
    omega
  obtain ⟨chosen, notPort, nearHeight⟩ := heightFor_longer le_rfl tall
  have nearWidth := nearWidth notPort
  have nearHeight := nearHeight notLand
  have balance := twice_le_enlarge_add_reduce atLeast wide
  have balanceNew := twice_le_enlarge_add_reduce atLeast nonneg
  have above := le_enlarge atLeast wide
  have square : newHeight = width := by omega
  subst square
  exact ⟨by omega, rfl, notLand, notPort, by omega, nearHeight.trans_eq (by omega)⟩

/-- When a chosen width is cut and both sides then come out longer, nothing has changed. -/
theorem square_of_cut_width (atLeast : 1 ≤ tracker.ratio) (wide : 0 ≤ width) (high : 0 ≤ height)
    {newWidth : Int} (kept : width ≤ newWidth) (cut : newWidth < tracker.widthFor width height)
    (widthLonger : newWidth < tracker.widthFor newWidth height)
    (heightLonger : height < tracker.heightFor newWidth height) :
    width = height ∧ newWidth = height ∧ tracker.Unsteady height := by
  obtain ⟨square, unsteady⟩ :=
    both_longer atLeast (wide.trans kept) high widthLonger heightLonger
  subst square
  have near := (widthFor_longer (reduce_le atLeast high) cut).2.2 unsteady.2.1
  have balance := twice_le_enlarge_add_reduce atLeast high
  exact ⟨by omega, rfl, unsteady⟩

/-- The same with the sides exchanged. -/
theorem square_of_cut_height (atLeast : 1 ≤ tracker.ratio) (wide : 0 ≤ width) (high : 0 ≤ height)
    {newHeight : Int} (kept : height ≤ newHeight)
    (cut : newHeight < tracker.heightFor width height)
    (widthLonger : width < tracker.widthFor width newHeight)
    (heightLonger : newHeight < tracker.heightFor width newHeight) :
    height = width ∧ newHeight = width ∧ tracker.Unsteady width := by
  obtain ⟨square, unsteady⟩ :=
    both_longer atLeast wide (high.trans kept) widthLonger heightLonger
  subst square
  have near := (heightFor_longer (reduce_le atLeast wide) cut).2.2 unsteady.1
  have balance := twice_le_enlarge_add_reduce atLeast wide
  exact ⟨by omega, rfl, unsteady⟩

end RectTrackerRatio

end RPhoto.Tracker
