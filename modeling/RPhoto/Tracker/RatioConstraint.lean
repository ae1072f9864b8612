import RPhoto.Tracker.Placement

/-!
# The ratio constraint

A rectangle inside the max rect is adjusted to one that is still inside and in
ratio unless it is a stuck square, or the mark of a rectangle that is too far
away is nearer than the other rectangle.  Both can be read off the sides of the
rectangle and the room around it, and both do spoil the result.
-/

namespace RPhoto.Tracker

open RPhoto.Library

/-- One side follows from the other in an orientation that is allowed. -/
def SidesInRatio (ratio : ℚ) (orientation : Int) (rect : Rect) : Prop :=
  (orientation = 0 ∨ orientation = 1) ∧
      (rect.height = reduce ratio rect.width ∨ rect.width = enlarge ratio rect.height) ∨
    (orientation = 0 ∨ orientation = -1) ∧
      (rect.height = enlarge ratio rect.width ∨ rect.width = reduce ratio rect.height)

namespace RectTrackerRatio

variable {tracker : RectTrackerRatio} {rect : Rect} {handler : Handler}

/-- The chosen side is one that the orientation allows. -/
theorem chooseSide_oriented {orientation : Int}
    (oriented : orientation = -1 ∨ orientation = 0 ∨ orientation = 1) (size port land : Int) :
    (orientation = 0 ∨ orientation = 1) ∧ chooseSide orientation size port land = port ∨
      (orientation = 0 ∨ orientation = -1) ∧ chooseSide orientation size port land = land := by
  unfold chooseSide
  rcases oriented with landscape | free | portrait
  · exact .inr ⟨.inr landscape, if_pos landscape⟩
  · rw [if_neg (by omega), if_neg (by omega)]
    split
    · exact .inr ⟨.inl free, rfl⟩
    · exact .inl ⟨.inl free, rfl⟩
  · exact .inl ⟨.inr portrait, by rw [if_neg (by omega), if_pos portrait]⟩

/-- The sides that the tracker chooses follow from one another. -/
theorem InRatio.sides (inRatio : tracker.InRatio rect)
    (oriented : tracker.orientation = -1 ∨ tracker.orientation = 0 ∨ tracker.orientation = 1) :
    SidesInRatio tracker.ratio tracker.orientation rect := by
  rcases inRatio with width | height
  · rw [widthFor] at width
    rcases chooseSide_oriented oriented rect.width (enlarge tracker.ratio rect.height)
      (reduce tracker.ratio rect.height) with ⟨allowed, chosen⟩ | ⟨allowed, chosen⟩
    · exact .inl ⟨allowed, .inr (width.symm.trans chosen)⟩
    · exact .inr ⟨allowed, .inr (width.symm.trans chosen)⟩
  · rw [heightFor] at height
    rcases chooseSide_oriented oriented rect.height (reduce tracker.ratio rect.width)
      (enlarge tracker.ratio rect.width) with ⟨allowed, chosen⟩ | ⟨allowed, chosen⟩
    · exact .inl ⟨allowed, .inl (height.symm.trans chosen)⟩
    · exact .inr ⟨allowed, .inl (height.symm.trans chosen)⟩

/-! ## The mark in lengths -/

/-- How far a candidate is when one side, which may be moved, changes and is then marked. -/
def markedDist (moved : Bool) (size side : Int) : Int :=
  (sideWeight moved - 1) * ((size - side) * (size - side)) + (size - farSize) * (size - farSize)

/-- A candidate that is marked is farther than the other one. -/
def MarkBeyond (tracker : RectTrackerRatio) (handler : Handler) (width height : Int) : Prop :=
  let newWidth := tracker.widthFor width height
  let newHeight := tracker.heightFor width height
  (height < newHeight → newWidth ≤ width →
    sideWeight handler.left * ((width - newWidth) * (width - newWidth)) <
      markedDist handler.top height newHeight) ∧
  (width < newWidth → newHeight ≤ height →
    sideWeight handler.top * ((height - newHeight) * (height - newHeight)) ≤
      markedDist handler.left width newWidth)

instance (tracker : RectTrackerRatio) (handler : Handler) (width height : Int) :
    Decidable (tracker.MarkBeyond handler width height) :=
  inferInstanceAs (Decidable ((_ → _ → _) ∧ (_ → _ → _)))

/-- The rectangle with another width is nearer than the one with another height. -/
def WidthNearer (tracker : RectTrackerRatio) (rect : Rect) (handler : Handler) : Prop :=
  let newWidth := tracker.widthFor rect.width rect.height
  let newHeight := tracker.heightFor rect.width rect.height
  sideWeight handler.left * ((rect.width - newWidth) * (rect.width - newWidth)) <
    sideWeight handler.top * ((rect.height - newHeight) * (rect.height - newHeight))

instance (tracker : RectTrackerRatio) (rect : Rect) (handler : Handler) :
    Decidable (tracker.WidthNearer rect handler) :=
  inferInstanceAs (Decidable (_ < _))

/-- Where the nearer side does not fit, the marks do their work for the side cut to its room. -/
def CutMarkBeyond (tracker : RectTrackerRatio) (rect : Rect) (handler : Handler) : Prop :=
  if tracker.WidthNearer rect handler then
    tracker.columns rect handler.left < tracker.widthFor rect.width rect.height →
      tracker.MarkBeyond handler (tracker.columns rect handler.left) rect.height
  else
    tracker.rows rect handler.top < tracker.heightFor rect.width rect.height →
      tracker.MarkBeyond handler rect.width (tracker.rows rect handler.top)

instance (tracker : RectTrackerRatio) (rect : Rect) (handler : Handler) :
    Decidable (tracker.CutMarkBeyond rect handler) :=
  inferInstanceAs (Decidable (if tracker.WidthNearer rect handler then _ → _ else _ → _))

theorem dist_rectWidth (rect : Rect) (handler : Handler) :
    calcRectDist rect (tracker.rectWidth rect handler) =
      sideWeight handler.left *
        ((rect.width - tracker.widthFor rect.width rect.height) *
          (rect.width - tracker.widthFor rect.width rect.height)) := by
  rw [rectWidth_eq, dist_width]

theorem dist_rectHeight (rect : Rect) (handler : Handler) :
    calcRectDist rect (tracker.rectHeight rect handler) =
      sideWeight handler.top *
        ((rect.height - tracker.heightFor rect.width rect.height) *
          (rect.height - tracker.heightFor rect.width rect.height)) := by
  rw [rectHeight_eq, dist_height]

theorem dist_marked_rectHeight (rect : Rect) (handler : Handler) :
    calcRectDist rect { tracker.rectHeight rect handler with height := farSize } =
      markedDist handler.top rect.height (tracker.heightFor rect.width rect.height) := by
  rw [rectHeight_eq]
  cases handler.top <;>
    simp only [calcRectDist, markedDist, Rect.ofSpans, Rect.horizontal, Rect.vertical,
      Span.resized, Span.stop, sideWeight, if_true, if_false, Bool.false_eq_true] <;>
    ring

theorem dist_marked_rectWidth (rect : Rect) (handler : Handler) :
    calcRectDist rect { tracker.rectWidth rect handler with width := farSize } =
      markedDist handler.left rect.width (tracker.widthFor rect.width rect.height) := by
  rw [rectWidth_eq]
  cases handler.left <;>
    simp only [calcRectDist, markedDist, Rect.ofSpans, Rect.horizontal, Rect.vertical,
      Span.resized, Span.stop, sideWeight, if_true, if_false, Bool.false_eq_true] <;>
    ring

theorem markFar_iff (rect : Rect) (handler : Handler) :
    tracker.MarkFar rect handler ↔ tracker.MarkBeyond handler rect.width rect.height := by
  simp only [MarkFar, MarkBeyond, rectWidth_width, rectHeight_height, dist_rectWidth,
    dist_rectHeight, dist_marked_rectHeight, dist_marked_rectWidth]

/-- The marks never matter for a rectangle in ratio. -/
theorem InRatio.markFar (inRatio : tracker.InRatio rect) (sized : rect.Sized) :
    tracker.MarkFar rect handler := by
  have width := @rectWidth_width tracker rect handler
  have height := @rectHeight_height tracker rect handler
  rcases inRatio.fixed handler with fixed | fixed
  · constructor
    · intro _ _
      have := dist_marked_height rect (tracker.rectHeight rect handler) sized.2
      rw [fixed, calcRectDist_self]
      omega
    · intro longer
      rw [fixed] at longer
      exact absurd longer (lt_irrefl _)
  · constructor
    · intro longer
      rw [fixed] at longer
      exact absurd longer (lt_irrefl _)
    · intro _ _
      have := dist_marked_width rect (tracker.rectWidth rect handler) sized.1
      rw [fixed, calcRectDist_self]
      omega

/-- The first pass of a corner takes the nearer of the two rectangles. -/
theorem firstPass_nearer (positive : 0 < tracker.ratio) (corner : handler.mid = false)
    (rect : Rect) :
    tracker.adjustTrackerRectRatio rect handler true =
      if tracker.WidthNearer rect handler then tracker.rectWidth rect handler
      else tracker.rectHeight rect handler := by
  rw [firstPass_eq positive corner, calcRectNearer, dist_rectWidth, dist_rectHeight]
  rfl

/-- After the first pass of a corner the marks are judged by the sides of the input. -/
theorem markFar_firstPass_iff (positive : 0 < tracker.ratio) (set : tracker.maxRect.Sized)
    (corner : handler.mid = false) (resizing : handler ≠ .none)
    (inside : rect.Inside tracker.maxRect) :
    tracker.MarkFar
        (tracker.adjustTrackerRectMax
          (tracker.adjustTrackerRectRatio rect handler true) handler) handler ↔
      tracker.CutMarkBeyond rect handler := by
  rw [firstPass_nearer positive corner, CutMarkBeyond]
  by_cases nearer : tracker.WidthNearer rect handler
  · rw [if_pos nearer, if_pos nearer]
    by_cases fits : tracker.widthFor rect.width rect.height ≤ tracker.columns rect handler.left
    · have kept : (tracker.rectWidth rect handler).Inside tracker.maxRect := by
        rw [rectWidth_eq]
        exact inside_resized_width inside (widthFor_nonneg positive inside.2.1) fits
      have far : tracker.MarkFar (tracker.rectWidth rect handler) handler :=
        (inRatio_rectWidth rect handler).markFar kept.sized
      rw [max_of_inside set kept]
      exact ⟨fun _ short => absurd fits (not_le.mpr short), fun _ => far⟩
    · rw [rectWidth_eq, max_resized_width set resizing inside, min_eq_right (by omega), markFar_iff,
        Rect.width_ofSpans, Rect.height_ofSpans, Span.resized_length, Rect.length_vertical]
      exact ⟨fun beyond _ => beyond, fun beyond => beyond (not_le.mp fits)⟩
  · rw [if_neg nearer, if_neg nearer]
    by_cases fits : tracker.heightFor rect.width rect.height ≤ tracker.rows rect handler.top
    · have kept : (tracker.rectHeight rect handler).Inside tracker.maxRect := by
        rw [rectHeight_eq]
        exact inside_resized_height inside (heightFor_nonneg positive inside.1.1) fits
      have far : tracker.MarkFar (tracker.rectHeight rect handler) handler :=
        (inRatio_rectHeight rect handler).markFar kept.sized
      rw [max_of_inside set kept]
      exact ⟨fun _ short => absurd fits (not_le.mpr short), fun _ => far⟩
    · rw [rectHeight_eq, max_resized_height set resizing inside, min_eq_right (by omega),
        markFar_iff, Rect.width_ofSpans, Rect.height_ofSpans, Span.resized_length,
        Rect.length_horizontal]
      exact ⟨fun beyond _ => beyond, fun beyond => beyond (not_le.mp fits)⟩

/-! ## What spoils the result -/

/-- A rectangle that has the marked size has a negative side. -/
theorem not_sized_of_marked {result : Rect}
    (marked : result.height = farSize ∨ result.width = farSize) : ¬result.Sized := by
  rintro ⟨wide, high⟩
  unfold farSize at marked
  omega

/-- A mark that is nearer than the other rectangle is taken. -/
theorem secondPass_of_not_markFar (positive : 0 < tracker.ratio) (corner : handler.mid = false)
    (near : ¬tracker.MarkFar rect handler) :
    ¬(tracker.adjustTrackerRectRatio rect handler false).Sized := by
  apply not_sized_of_marked
  rw [secondPass_eq positive corner]
  simp only [MarkFar, rectWidth_width, rectHeight_height, not_and_or, not_forall, exists_prop]
    at near
  rcases near with ⟨tall, narrow, beyond⟩ | ⟨broad, low, beyond⟩
  · left
    rw [if_pos tall, if_neg (not_lt.mpr narrow), calcRectNearer, if_neg beyond]
  · right
    rw [if_neg (not_lt.mpr low), if_pos broad, calcRectNearer, if_pos (not_le.mp beyond)]

/-- When both sides come out longer, one of the two marks is taken. -/
theorem secondPass_of_both_longer (positive : 0 < tracker.ratio) (corner : handler.mid = false)
    (broad : rect.width < tracker.widthFor rect.width rect.height)
    (tall : rect.height < tracker.heightFor rect.width rect.height) :
    ¬(tracker.adjustTrackerRectRatio rect handler false).Sized := by
  apply not_sized_of_marked
  rw [secondPass_eq positive corner, if_pos tall, if_pos broad]
  rcases calcRectNearer_mem rect { tracker.rectHeight rect handler with height := farSize }
    { tracker.rectWidth rect handler with width := farSize } with chosen | chosen
  · exact .inl (congrArg Rect.height chosen)
  · exact .inr (congrArg Rect.width chosen)

theorem clip_rectWidth (set : tracker.maxRect.Sized) (resizing : handler ≠ .none)
    (inside : rect.Inside tracker.maxRect) (edge : tracker.columns rect handler.left = rect.width)
    (longer : rect.width ≤ tracker.widthFor rect.width rect.height) :
    tracker.adjustTrackerRectMax (tracker.rectWidth rect handler) handler = rect := by
  rw [rectWidth_eq, max_resized_width set resizing inside, edge, min_eq_right longer]
  exact congrArg (Rect.ofSpans · rect.vertical) Span.resized_self

theorem clip_rectHeight (set : tracker.maxRect.Sized) (resizing : handler ≠ .none)
    (inside : rect.Inside tracker.maxRect) (edge : tracker.rows rect handler.top = rect.height)
    (longer : rect.height ≤ tracker.heightFor rect.width rect.height) :
    tracker.adjustTrackerRectMax (tracker.rectHeight rect handler) handler = rect := by
  rw [rectHeight_eq, max_resized_height set resizing inside, edge, min_eq_right longer]
  exact congrArg (Rect.ofSpans rect.horizontal) Span.resized_self

/-- Both sides of a stuck square come out longer. -/
theorem StuckSquare.longer (stuck : tracker.StuckSquare rect handler) :
    rect.width < tracker.widthFor rect.width rect.height ∧
      rect.height < tracker.heightFor rect.width rect.height := by
  obtain ⟨square, unsteady, -⟩ := stuck
  have growing := unsteady.2.2.1
  rw [← square, unsteady.longer.1, unsteady.longer.2]
  exact ⟨growing, growing⟩

/-- The first pass and the clipping leave a stuck square as it is. -/
theorem StuckSquare.firstPass (positive : 0 < tracker.ratio) (set : tracker.maxRect.Sized)
    (resizing : handler ≠ .none) (inside : rect.Inside tracker.maxRect)
    (stuck : tracker.StuckSquare rect handler) :
    tracker.adjustTrackerRectMax
      (tracker.adjustTrackerRectRatio rect handler true) handler = rect := by
  obtain ⟨broad, tall⟩ := stuck.longer
  obtain ⟨square, unsteady, room⟩ := stuck
  have first := unsteady.nearer_iff square handler
  cases mid : handler.mid with
  | true =>
      unfold adjustTrackerRectRatio
      rw [if_neg (not_le.mpr positive)]
      cases handler with
      | topMid | bottomMid => exact clip_rectWidth set resizing inside room.1 broad.le
      | midLeft | midRight => exact clip_rectHeight set resizing inside room.1 tall.le
      | _ => simp [Handler.mid] at mid
  | false =>
      rw [firstPass_eq positive mid, calcRectNearer]
      cases handler with
      | topMid | bottomMid | midLeft | midRight => simp [Handler.mid] at mid
      | topRight =>
          rw [if_pos (first.mpr ⟨rfl, rfl⟩)]
          exact clip_rectWidth set resizing inside room broad.le
      | _ =>
          rw [if_neg (fun nearer => by simpa [Handler.top, Handler.left] using first.mp nearer)]
          exact clip_rectHeight set resizing inside room tall.le

/-- A stuck square does not stay in the max rect. -/
theorem StuckSquare.secondPass (positive : 0 < tracker.ratio)
    (stuck : tracker.StuckSquare rect handler) :
    ¬(tracker.adjustTrackerRectRatio rect handler false).Inside tracker.maxRect := by
  obtain ⟨broad, tall⟩ := stuck.longer
  cases mid : handler.mid with
  | false =>
      intro inside
      exact secondPass_of_both_longer positive mid broad tall inside.sized
  | true =>
      obtain ⟨square, unsteady, room⟩ := stuck
      unfold adjustTrackerRectRatio
      rw [if_neg (not_le.mpr positive)]
      intro inside
      cases handler with
      | topMid | bottomMid =>
          simp only [Bool.false_eq_true, if_false, rectHeight_eq] at inside
          have fits := inside.2.le_room_of_resized
          rw [← square, unsteady.longer.2] at fits
          exact absurd fits (not_le.mpr room.2)
      | midLeft | midRight =>
          simp only [Bool.false_eq_true, if_false, rectWidth_eq] at inside
          have fits := inside.1.le_room_of_resized
          rw [← square, unsteady.longer.1] at fits
          exact absurd fits (not_le.mpr room.2)
      | _ => simp [Handler.mid] at mid

/--
A rectangle inside the max rect stays inside and gets its ratio exactly when it is
not a stuck square and, for a handler that is not in the middle of a side, the mark
is beyond the side that is cut.
-/
theorem adjust_inRatio_iff (unfixed : tracker.fixedWidth = -1) (atLeast : 1 ≤ tracker.ratio)
    (oriented : tracker.orientation = -1 ∨ tracker.orientation = 0 ∨ tracker.orientation = 1)
    (set : tracker.maxRect.Sized) (resizing : handler ≠ .none)
    (inside : rect.Inside tracker.maxRect) :
    (tracker.adjustTrackerRect rect handler).Inside tracker.maxRect ∧
        SidesInRatio tracker.ratio tracker.orientation (tracker.adjustTrackerRect rect handler) ↔
      ¬tracker.StuckSquare rect handler ∧
        (handler.mid = false → tracker.CutMarkBeyond rect handler) := by
  have positive : 0 < tracker.ratio := by linarith
  have adjusted : tracker.adjustTrackerRect rect handler =
      tracker.adjustTrackerRectRatio
        (tracker.adjustTrackerRectMax
          (tracker.adjustTrackerRectRatio rect handler true) handler) handler false := by
    rw [adjust_unfixed unfixed, if_pos positive, max_of_inside set inside]
  rw [adjusted]
  constructor
  · rintro ⟨placed, -⟩
    constructor
    · intro stuck
      rw [stuck.firstPass positive set resizing inside] at placed
      exact stuck.secondPass positive placed
    · intro corner
      rw [← markFar_firstPass_iff positive set corner resizing inside]
      by_contra near
      exact secondPass_of_not_markFar positive corner near placed.sized
  · rintro ⟨free, beyond⟩
    have placed := match mid : handler.mid with
      | true => mid_inside atLeast set mid inside free
      | false => corner_inside atLeast set mid resizing inside free
          ((markFar_firstPass_iff positive set mid resizing inside).mpr (beyond mid))
    exact ⟨placed.1, placed.2.sides oriented⟩

/-- A tracker with the ratio of 23 to 20 and an image of 10 by 10 pixels. -/
def smallTracker : RectTrackerRatio :=
  (RectTrackerRatio.create.setRatio (23 / 20)).withMaxRect ⟨0, 0, 10, 10⟩

/-- The condition at work: a square with room to its right. -/
theorem adjust_inRatio_smaller :
    (smallTracker.adjustTrackerRect ⟨2, 2, 6, 6⟩ .bottomRight).Inside smallTracker.maxRect ∧
      SidesInRatio smallTracker.ratio smallTracker.orientation
        (smallTracker.adjustTrackerRect ⟨2, 2, 6, 6⟩ .bottomRight) :=
  (adjust_inRatio_iff rfl (by decide +kernel) (.inr (.inl rfl)) (by decide +kernel) (by decide)
    (by decide +kernel)).mpr (by decide +kernel)

/-- The whole of that image gets the marked height. -/
theorem adjust_marks_whole :
    1 ≤ smallTracker.ratio ∧ smallTracker.fixedWidth = -1 ∧ smallTracker.orientation = 0 ∧
      (⟨0, 0, 10, 10⟩ : Rect).Inside smallTracker.maxRect ∧
      (smallTracker.adjustTrackerRect ⟨0, 0, 10, 10⟩ .outside).height = farSize ∧
      ¬(smallTracker.adjustTrackerRect ⟨0, 0, 10, 10⟩ .outside).Inside smallTracker.maxRect := by
  decide +kernel

end RectTrackerRatio

end RPhoto.Tracker
