import RPhoto.Tracker.Adjust

/-!
# Rectangles the tracker can fit

A rectangle with sides and without fixed size is adjusted to one inside the max
rect, and in ratio, unless one of two things happens.  A square that leaves no
room for the longer side the ratio asks for is stuck.  And the size `-12000`
marks a rectangle as far away only as long as the other one is nearer.
-/

namespace RPhoto.Tracker

open RPhoto.Library

namespace RectTrackerRatio

variable {tracker : RectTrackerRatio} {rect : Rect} {handler : Handler}

/-! ## Clipping -/

theorem max_unset (unset : ¬tracker.maxRect.Sized) (rect : Rect) (handler : Handler) :
    tracker.adjustTrackerRectMax rect handler = rect := by
  refine if_pos ?_
  unfold Rect.Sized at unset
  omega

theorem max_set (set : tracker.maxRect.Sized) (rect : Rect) (handler : Handler) :
    tracker.adjustTrackerRectMax rect handler =
      .ofSpans
        (Span.confine (handler ≠ .none) tracker.maxRect.horizontal rect.horizontal)
        (Span.confine (handler ≠ .none) tracker.maxRect.vertical rect.vertical) := by
  refine if_neg ?_
  unfold Rect.Sized at set
  omega

theorem max_inside (set : tracker.maxRect.Sized) (resizing : handler ≠ .none)
    (sized : rect.Sized) (meets : rect.Meets tracker.maxRect) :
    (tracker.adjustTrackerRectMax rect handler).Inside tracker.maxRect := by
  rw [max_set set, decide_eq_true resizing]
  exact ⟨Span.confine_within sized.1 set.1 meets.1, Span.confine_within sized.2 set.2 meets.2⟩

theorem max_of_inside (set : tracker.maxRect.Sized) (inside : rect.Inside tracker.maxRect)
    (handler : Handler) : tracker.adjustTrackerRectMax rect handler = rect := by
  rw [max_set set, Span.confine_of_within inside.1, Span.confine_of_within inside.2,
    Rect.ofSpans_spans]

/-- Moving a rectangle keeps its sides. -/
theorem max_none_size (set : tracker.maxRect.Sized) (rect : Rect) :
    (tracker.adjustTrackerRectMax rect .none).width = rect.width ∧
      (tracker.adjustTrackerRectMax rect .none).height = rect.height := by
  rw [max_set set]
  constructor
  · exact congrArg Span.length (Span.confine_slide ..)
  · exact congrArg Span.length (Span.confine_slide ..)

/-- Moving a rectangle slides it back between the bounds. -/
theorem max_slide (set : tracker.maxRect.Sized) (rect : Rect) (sized : rect.Sized)
    (narrower : rect.width ≤ tracker.maxRect.width)
    (lower : rect.height ≤ tracker.maxRect.height) :
    (tracker.adjustTrackerRectMax rect .none).Inside tracker.maxRect ∧
      (tracker.adjustTrackerRectMax rect .none).width = rect.width ∧
      (tracker.adjustTrackerRectMax rect .none).height = rect.height := by
  refine ⟨?_, max_none_size set rect⟩
  rw [max_set set]
  exact ⟨Span.slide_within sized.1 narrower, Span.slide_within sized.2 lower⟩

/-- The length a rectangle can get in the max rect, to the left or to the right. -/
def columns (tracker : RectTrackerRatio) (rect : Rect) (left : Bool) : Int :=
  Span.room left tracker.maxRect.horizontal rect.horizontal

/-- The length a rectangle can get in the max rect, to the top or to the bottom. -/
def rows (tracker : RectTrackerRatio) (rect : Rect) (top : Bool) : Int :=
  Span.room top tracker.maxRect.vertical rect.vertical

theorem max_resized_width (set : tracker.maxRect.Sized) (resizing : handler ≠ .none)
    (inside : rect.Inside tracker.maxRect) (left : Bool) (width : Int) :
    tracker.adjustTrackerRectMax
        (.ofSpans (rect.horizontal.resized left width) rect.vertical) handler =
      .ofSpans (rect.horizontal.resized left (min width (tracker.columns rect left)))
        rect.vertical := by
  rw [max_set set, decide_eq_true resizing, Rect.horizontal_ofSpans, Rect.vertical_ofSpans,
    Span.confine_resized inside.1, Span.confine_of_within inside.2]
  rfl

theorem max_resized_height (set : tracker.maxRect.Sized) (resizing : handler ≠ .none)
    (inside : rect.Inside tracker.maxRect) (top : Bool) (height : Int) :
    tracker.adjustTrackerRectMax
        (.ofSpans rect.horizontal (rect.vertical.resized top height)) handler =
      .ofSpans rect.horizontal
        (rect.vertical.resized top (min height (tracker.rows rect top))) := by
  rw [max_set set, decide_eq_true resizing, Rect.horizontal_ofSpans, Rect.vertical_ofSpans,
    Span.confine_resized inside.2, Span.confine_of_within inside.1]
  rfl

theorem inside_resized_width (inside : rect.Inside tracker.maxRect) {left : Bool} {width : Int}
    (nonneg : 0 ≤ width) (fits : width ≤ tracker.columns rect left) :
    (Rect.ofSpans (rect.horizontal.resized left width) rect.vertical).Inside tracker.maxRect :=
  ⟨inside.1.resized nonneg fits, inside.2⟩

theorem inside_resized_height (inside : rect.Inside tracker.maxRect) {top : Bool} {height : Int}
    (nonneg : 0 ≤ height) (fits : height ≤ tracker.rows rect top) :
    (Rect.ofSpans rect.horizontal (rect.vertical.resized top height)).Inside tracker.maxRect :=
  ⟨inside.1, inside.2.resized nonneg fits⟩

theorem width_le_columns (inside : rect.Inside tracker.maxRect) (left : Bool) :
    rect.width ≤ tracker.columns rect left :=
  inside.1.length_le_room

theorem height_le_rows (inside : rect.Inside tracker.maxRect) (top : Bool) :
    rect.height ≤ tracker.rows rect top :=
  inside.2.length_le_room

/-! ## What a rectangle needs -/

/-- The max rect has no room for the longer side of a square, where the handler asks for it. -/
def NoRoom (tracker : RectTrackerRatio) (square : Rect) : Handler → Prop
  | .topMid =>
      tracker.columns square false = square.width ∧
        tracker.rows square true < enlarge tracker.ratio square.width
  | .bottomMid =>
      tracker.columns square false = square.width ∧
        tracker.rows square false < enlarge tracker.ratio square.width
  | .midLeft =>
      tracker.rows square false = square.height ∧
        tracker.columns square true < enlarge tracker.ratio square.width
  | .midRight =>
      tracker.rows square false = square.height ∧
        tracker.columns square false < enlarge tracker.ratio square.width
  | .topRight => tracker.columns square false = square.width
  | .topLeft | .outside => tracker.rows square true = square.height
  | .bottomLeft | .bottomRight | .none => tracker.rows square false = square.height

instance (tracker : RectTrackerRatio) (square : Rect) :
    (handler : Handler) → Decidable (tracker.NoRoom square handler)
  | .topMid | .bottomMid | .midLeft | .midRight => inferInstanceAs (Decidable (_ ∧ _))
  | .topRight | .topLeft | .outside | .bottomLeft | .bottomRight | .none =>
      inferInstanceAs (Decidable (_ = _))

/-- A square whose nearer side in ratio is the longer one, with no room for it. -/
def StuckSquare (tracker : RectTrackerRatio) (rect : Rect) (handler : Handler) : Prop :=
  rect.width = rect.height ∧ tracker.Unsteady rect.width ∧ tracker.NoRoom rect handler

instance (tracker : RectTrackerRatio) (rect : Rect) (handler : Handler) :
    Decidable (tracker.StuckSquare rect handler) :=
  inferInstanceAs (Decidable (_ ∧ _ ∧ _))

/-- A rectangle marked as far away is farther than the other one. -/
def MarkFar (tracker : RectTrackerRatio) (rect : Rect) (handler : Handler) : Prop :=
  let rectWidth := tracker.rectWidth rect handler
  let rectHeight := tracker.rectHeight rect handler
  (rect.height < rectHeight.height → rectWidth.width ≤ rect.width →
    calcRectDist rect rectWidth < calcRectDist rect { rectHeight with height := farSize }) ∧
  (rect.width < rectWidth.width → rectHeight.height ≤ rect.height →
    calcRectDist rect rectHeight ≤ calcRectDist rect { rectWidth with width := farSize })

instance (tracker : RectTrackerRatio) (rect : Rect) (handler : Handler) :
    Decidable (tracker.MarkFar rect handler) :=
  inferInstanceAs (Decidable (_ ∧ _))

/-- What the ratio asks of a rectangle and a handler, once the max rect is set. -/
def RatioFits (tracker : RectTrackerRatio) (rect : Rect) (handler : Handler) : Prop :=
  tracker.maxRect.Sized → 0 < tracker.ratio →
    let clipped := tracker.adjustTrackerRectMax rect handler
    ¬tracker.StuckSquare clipped handler ∧
      (handler.mid = false →
        tracker.MarkFar
          (tracker.adjustTrackerRectMax
            (tracker.adjustTrackerRectRatio clipped handler true) handler)
          handler)

instance (tracker : RectTrackerRatio) (rect : Rect) (handler : Handler) :
    Decidable (tracker.RatioFits rect handler) :=
  inferInstanceAs (Decidable (_ → _ → _ ∧ _))

/-- A rectangle the tracker may show. -/
structure Placed (tracker : RectTrackerRatio) (rect : Rect) : Prop where
  sized : rect.Sized
  inside : tracker.maxRect.Sized → rect.Inside tracker.maxRect
  inRatio : 0 < tracker.ratio → tracker.InRatio rect

/-! ## The second pass -/

theorem secondPass_inside (positive : 0 < tracker.ratio) (corner : handler.mid = false)
    (inside : rect.Inside tracker.maxRect) (far : tracker.MarkFar rect handler)
    (some : tracker.widthFor rect.width rect.height ≤ rect.width ∨
      tracker.heightFor rect.width rect.height ≤ rect.height) :
    (tracker.adjustTrackerRectRatio rect handler false).Inside tracker.maxRect ∧
      tracker.InRatio (tracker.adjustTrackerRectRatio rect handler false) := by
  have byWidth (fits : tracker.widthFor rect.width rect.height ≤ rect.width) :
      (tracker.rectWidth rect handler).Inside tracker.maxRect := by
    rw [rectWidth_eq]
    exact inside_resized_width inside (widthFor_nonneg positive inside.2.1)
      (fits.trans (width_le_columns inside _))
  have byHeight (fits : tracker.heightFor rect.width rect.height ≤ rect.height) :
      (tracker.rectHeight rect handler).Inside tracker.maxRect := by
    rw [rectHeight_eq]
    exact inside_resized_height inside (heightFor_nonneg positive inside.1.1)
      (fits.trans (height_le_rows inside _))
  simp only [MarkFar, rectWidth_width, rectHeight_height] at far
  rw [secondPass_eq positive corner]
  split_ifs with tall broad broad
  · omega
  · have near := far.1 tall (by omega)
    rw [calcRectNearer, if_pos near]
    exact ⟨byWidth (by omega), inRatio_rectWidth rect handler⟩
  · have near := far.2 broad (by omega)
    rw [calcRectNearer, if_neg (not_lt.mpr near)]
    exact ⟨byHeight (by omega), inRatio_rectHeight rect handler⟩
  · rcases calcRectNearer_mem rect (tracker.rectHeight rect handler)
      (tracker.rectWidth rect handler) with chosen | chosen <;> rw [chosen]
    · exact ⟨byHeight (by omega), inRatio_rectHeight rect handler⟩
    · exact ⟨byWidth (by omega), inRatio_rectWidth rect handler⟩

/-! ## A handler at a corner -/

/-- Both sides of an unsteady square grow. -/
theorem Unsteady.longer {size : Int} (unsteady : tracker.Unsteady size) :
    tracker.widthFor size size = enlarge tracker.ratio size ∧
      tracker.heightFor size size = enlarge tracker.ratio size := by
  obtain ⟨notLand, notPort, longer, near⟩ := unsteady
  have nearer : (size - enlarge tracker.ratio size) * (size - enlarge tracker.ratio size) <
      (size - reduce tracker.ratio size) * (size - reduce tracker.ratio size) := by
    nlinarith
  simp only [widthFor, heightFor, chooseSide, notLand, notPort, if_false, if_pos nearer,
    if_neg nearer.asymm, and_self]

/-- For an unsteady square the top right corner alone prefers the width. -/
theorem Unsteady.nearer_iff (square : rect.width = rect.height)
    (unsteady : tracker.Unsteady rect.width) (handler : Handler) :
    calcRectDist rect (tracker.rectWidth rect handler) <
        calcRectDist rect (tracker.rectHeight rect handler) ↔
      handler.top = true ∧ handler.left = false := by
  have apart : 0 < (rect.width - enlarge tracker.ratio rect.width) *
      (rect.width - enlarge tracker.ratio rect.width) := by
    have := unsteady.2.2.1
    nlinarith
  rw [rectWidth_eq, rectHeight_eq, dist_width, dist_height, ← square, unsteady.longer.1,
    unsteady.longer.2]
  cases handler.top <;> cases handler.left <;> simp [sideWeight] <;> omega

theorem noRoom_of_columns (corner : handler.mid = false)
    (topRight : handler.top = true ∧ handler.left = false)
    (edge : tracker.columns rect handler.left = rect.width) : tracker.NoRoom rect handler := by
  cases handler with
  | topRight => exact edge
  | topMid => simp [Handler.mid] at corner
  | _ => simp [Handler.top, Handler.left] at topRight

theorem noRoom_of_rows (corner : handler.mid = false)
    (other : ¬(handler.top = true ∧ handler.left = false))
    (edge : tracker.rows rect handler.top = rect.height) : tracker.NoRoom rect handler := by
  cases handler with
  | topRight => simp [Handler.top, Handler.left] at other
  | topMid | bottomMid | midLeft | midRight => simp [Handler.mid] at corner
  | _ => exact edge

theorem corner_inside (atLeast : 1 ≤ tracker.ratio) (set : tracker.maxRect.Sized)
    (corner : handler.mid = false) (resizing : handler ≠ .none)
    (inside : rect.Inside tracker.maxRect) (free : ¬tracker.StuckSquare rect handler)
    (far : tracker.MarkFar
      (tracker.adjustTrackerRectMax
        (tracker.adjustTrackerRectRatio rect handler true) handler) handler) :
    (tracker.adjustTrackerRectRatio
        (tracker.adjustTrackerRectMax
          (tracker.adjustTrackerRectRatio rect handler true) handler)
        handler false).Inside tracker.maxRect ∧
      tracker.InRatio
        (tracker.adjustTrackerRectRatio
          (tracker.adjustTrackerRectMax
            (tracker.adjustTrackerRectRatio rect handler true) handler)
          handler false) := by
  have positive : 0 < tracker.ratio := by linarith
  have wide : 0 ≤ rect.width := inside.1.1
  have high : 0 ≤ rect.height := inside.2.1
  have room := width_le_columns inside handler.left
  have space := height_le_rows inside handler.top
  rw [firstPass_eq positive corner, calcRectNearer] at far ⊢
  split_ifs at far ⊢ with nearer
  · -- The width follows the height; the max rect may cut it.
    by_cases fits : tracker.widthFor rect.width rect.height ≤ tracker.columns rect handler.left
    · have kept : (tracker.rectWidth rect handler).Inside tracker.maxRect := by
        rw [rectWidth_eq]
        exact inside_resized_width inside (widthFor_nonneg positive high) fits
      rw [max_of_inside set kept, pass_of_inRatio positive corner (inRatio_rectWidth rect handler)]
      exact ⟨kept, inRatio_rectWidth rect handler⟩
    · rw [rectWidth_eq, max_resized_width set resizing inside, min_eq_right (by omega)] at far ⊢
      refine secondPass_inside positive corner
        (inside_resized_width inside (wide.trans room) le_rfl) far ?_
      by_contra longer
      simp only [not_or, not_le] at longer
      simp only [Rect.width_ofSpans, Rect.height_ofSpans, Span.resized_length,
        Rect.length_vertical] at longer
      obtain ⟨square, edge, unsteady⟩ :=
        square_of_cut_width atLeast wide high room (not_le.mp fits) longer.1 longer.2
      rw [← square] at unsteady edge
      refine free ⟨square, unsteady, ?_⟩
      exact noRoom_of_columns corner ((unsteady.nearer_iff square handler).mp nearer) edge
  · -- The height follows the width.
    by_cases fits : tracker.heightFor rect.width rect.height ≤ tracker.rows rect handler.top
    · have kept : (tracker.rectHeight rect handler).Inside tracker.maxRect := by
        rw [rectHeight_eq]
        exact inside_resized_height inside (heightFor_nonneg positive wide) fits
      rw [max_of_inside set kept, pass_of_inRatio positive corner (inRatio_rectHeight rect handler)]
      exact ⟨kept, inRatio_rectHeight rect handler⟩
    · rw [rectHeight_eq, max_resized_height set resizing inside, min_eq_right (by omega)] at far ⊢
      refine secondPass_inside positive corner
        (inside_resized_height inside (high.trans space) le_rfl) far ?_
      by_contra longer
      simp only [not_or, not_le] at longer
      simp only [Rect.width_ofSpans, Rect.height_ofSpans, Span.resized_length,
        Rect.length_horizontal] at longer
      obtain ⟨square, edge, unsteady⟩ :=
        square_of_cut_height atLeast wide high space (not_le.mp fits) longer.1 longer.2
      have even := square.symm
      rw [← square] at edge
      refine free ⟨even, unsteady, ?_⟩
      rw [unsteady.nearer_iff even handler] at nearer
      exact noRoom_of_rows corner nearer edge

/-! ## A handler in the middle of a side -/

/-- The width follows the old height and is cut; the height then follows the width. -/
theorem rectHeight_inside (atLeast : 1 ≤ tracker.ratio) (set : tracker.maxRect.Sized)
    (resizing : handler ≠ .none) (inside : rect.Inside tracker.maxRect)
    (left : handler.left = false)
    (free : rect.width = rect.height → tracker.Unsteady rect.width →
      tracker.columns rect false = rect.width →
        enlarge tracker.ratio rect.width ≤ tracker.rows rect handler.top) :
    (tracker.rectHeight
      (tracker.adjustTrackerRectMax (tracker.rectWidth rect handler) handler)
      handler).Inside tracker.maxRect := by
  have positive : 0 < tracker.ratio := by linarith
  have wide : 0 ≤ rect.width := inside.1.1
  have high : 0 ≤ rect.height := inside.2.1
  have room := width_le_columns inside false
  have chosen : 0 ≤ tracker.widthFor rect.width rect.height := widthFor_nonneg positive high
  rw [rectWidth_eq, left, max_resized_width set resizing inside, rectHeight_eq]
  have nonneg : 0 ≤ min (tracker.widthFor rect.width rect.height) (tracker.columns rect false) :=
    le_min chosen (wide.trans room)
  refine inside_resized_height (inside_resized_width inside nonneg (min_le_right _ _))
    (heightFor_nonneg positive nonneg) ?_
  simp only [Rect.width_ofSpans, Rect.height_ofSpans, Span.resized_length, Rect.length_vertical]
  change _ ≤ tracker.rows rect handler.top
  by_contra longer
  have space := height_le_rows inside handler.top
  obtain ⟨square, cut, unsteady⟩ :=
    height_after_width atLeast high nonneg (min_le_left _ _) (by omega) (by omega)
  rw [cut, unsteady.longer.2] at longer
  rw [square, unsteady.longer.1] at cut
  have growing := unsteady.2.2.1
  rw [← square] at unsteady longer
  exact longer (free square unsteady (by omega))

/-- The height follows the old width and is cut; the width then follows the height. -/
theorem rectWidth_inside (atLeast : 1 ≤ tracker.ratio) (set : tracker.maxRect.Sized)
    (resizing : handler ≠ .none) (inside : rect.Inside tracker.maxRect)
    (top : handler.top = false)
    (free : rect.width = rect.height → tracker.Unsteady rect.width →
      tracker.rows rect false = rect.height →
        enlarge tracker.ratio rect.width ≤ tracker.columns rect handler.left) :
    (tracker.rectWidth
      (tracker.adjustTrackerRectMax (tracker.rectHeight rect handler) handler)
      handler).Inside tracker.maxRect := by
  have positive : 0 < tracker.ratio := by linarith
  have wide : 0 ≤ rect.width := inside.1.1
  have high : 0 ≤ rect.height := inside.2.1
  have space := height_le_rows inside false
  have chosen : 0 ≤ tracker.heightFor rect.width rect.height := heightFor_nonneg positive wide
  rw [rectHeight_eq, top, max_resized_height set resizing inside, rectWidth_eq]
  have nonneg : 0 ≤ min (tracker.heightFor rect.width rect.height) (tracker.rows rect false) :=
    le_min chosen (high.trans space)
  refine inside_resized_width (inside_resized_height inside nonneg (min_le_right _ _))
    (widthFor_nonneg positive nonneg) ?_
  simp only [Rect.width_ofSpans, Rect.height_ofSpans, Span.resized_length, Rect.length_horizontal]
  change _ ≤ tracker.columns rect handler.left
  by_contra longer
  have room := width_le_columns inside handler.left
  obtain ⟨square, cut, unsteady⟩ :=
    width_after_height atLeast wide nonneg (min_le_left _ _) (by omega) (by omega)
  rw [cut, unsteady.longer.1] at longer
  rw [square, unsteady.longer.2] at cut
  have growing := unsteady.2.2.1
  exact longer (free square.symm unsteady (by omega))

theorem mid_inside (atLeast : 1 ≤ tracker.ratio) (set : tracker.maxRect.Sized)
    (mid : handler.mid = true) (inside : rect.Inside tracker.maxRect)
    (free : ¬tracker.StuckSquare rect handler) :
    (tracker.adjustTrackerRectRatio
        (tracker.adjustTrackerRectMax
          (tracker.adjustTrackerRectRatio rect handler true) handler)
        handler false).Inside tracker.maxRect ∧
      tracker.InRatio
        (tracker.adjustTrackerRectRatio
          (tracker.adjustTrackerRectMax
            (tracker.adjustTrackerRectRatio rect handler true) handler)
          handler false) := by
  have positive : ¬tracker.ratio ≤ 0 := by linarith
  unfold adjustTrackerRectRatio
  simp only [if_neg positive]
  cases handler with
  | topMid | bottomMid =>
      refine ⟨rectHeight_inside atLeast set (by decide) inside rfl fun square unsteady edge => ?_,
        inRatio_rectHeight _ _⟩
      by_contra short
      exact free ⟨square, unsteady, edge, not_le.mp short⟩
  | midLeft | midRight =>
      refine ⟨rectWidth_inside atLeast set (by decide) inside rfl fun square unsteady edge => ?_,
        inRatio_rectWidth _ _⟩
      by_contra short
      exact free ⟨square, unsteady, edge, not_le.mp short⟩
  | _ => simp [Handler.mid] at mid

end RectTrackerRatio

end RPhoto.Tracker
