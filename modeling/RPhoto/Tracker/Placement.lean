import RPhoto.Tracker.Fits

/-!
# Placing the selection

Without fixed size, adjusting places a rectangle that fits, moves a placed one
back inside the max rect, and leaves a placed one as it is.  The hidden
rectangle stays hidden when the max rect holds the origin and the ratio is
below two.
-/

namespace RPhoto.Tracker

open RPhoto.Library

namespace RectTrackerRatio

variable {tracker : RectTrackerRatio} {rect : Rect} {handler : Handler}

theorem adjust_unfixed (unfixed : tracker.fixedWidth = -1) (rect : Rect) (handler : Handler) :
    tracker.adjustTrackerRect rect handler =
      if 0 < tracker.ratio then
        tracker.adjustTrackerRectRatio
          (tracker.adjustTrackerRectMax
            (tracker.adjustTrackerRectRatio
              (tracker.adjustTrackerRectMax rect handler) handler true) handler)
          handler false
      else tracker.adjustTrackerRectMax rect handler := by
  simp [adjustTrackerRect, unfixed]

/-- The first pass keeps the sides of a rectangle from being negative. -/
theorem rectWidth_sized (positive : 0 < tracker.ratio) (sized : rect.Sized)
    (handler : Handler) : (tracker.rectWidth rect handler).Sized := by
  rw [rectWidth_eq]
  exact ⟨by simpa using widthFor_nonneg positive sized.2, sized.2⟩

theorem rectHeight_sized (positive : 0 < tracker.ratio) (sized : rect.Sized)
    (handler : Handler) : (tracker.rectHeight rect handler).Sized := by
  rw [rectHeight_eq]
  exact ⟨sized.1, by simpa using heightFor_nonneg positive sized.1⟩

theorem firstPass_sized (positive : 0 < tracker.ratio) (sized : rect.Sized)
    (handler : Handler) : (tracker.adjustTrackerRectRatio rect handler true).Sized := by
  rcases firstPass_mem positive rect handler with chosen | chosen <;> rw [chosen]
  · exact rectHeight_sized positive sized handler
  · exact rectWidth_sized positive sized handler

/-- Two passes without a max rect. -/
theorem passes_sized (positive : 0 < tracker.ratio) (sized : rect.Sized) (handler : Handler) :
    (tracker.adjustTrackerRectRatio
        (tracker.adjustTrackerRectRatio rect handler true) handler false).Sized ∧
      tracker.InRatio
        (tracker.adjustTrackerRectRatio
          (tracker.adjustTrackerRectRatio rect handler true) handler false) := by
  cases mid : handler.mid with
  | false =>
      rw [pass_of_inRatio positive mid (inRatio_firstPass positive rect handler)]
      exact ⟨firstPass_sized positive sized handler, inRatio_firstPass positive rect handler⟩
  | true =>
      unfold adjustTrackerRectRatio
      simp only [if_neg (not_le.mpr positive)]
      cases handler with
      | topMid | bottomMid =>
          exact ⟨rectHeight_sized positive (rectWidth_sized positive sized _) _,
            inRatio_rectHeight _ _⟩
      | midLeft | midRight =>
          exact ⟨rectWidth_sized positive (rectHeight_sized positive sized _) _,
            inRatio_rectWidth _ _⟩
      | _ => simp [Handler.mid] at mid

/-- The ratio is off or its normalised value. -/
def Normal (tracker : RectTrackerRatio) : Prop := tracker.ratio ≤ 0 ∨ 1 ≤ tracker.ratio

theorem Normal.atLeast (normal : tracker.Normal) (positive : 0 < tracker.ratio) :
    1 ≤ tracker.ratio :=
  normal.resolve_left (not_le.mpr positive)

/-- Adjusting places every rectangle that fits. -/
theorem adjust_placed (normal : tracker.Normal) (unfixed : tracker.fixedWidth = -1)
    (resizing : handler ≠ .none) (sized : rect.Sized)
    (meets : tracker.maxRect.Sized → rect.Meets tracker.maxRect)
    (fits : tracker.RatioFits rect handler) :
    tracker.Placed (tracker.adjustTrackerRect rect handler) := by
  rw [adjust_unfixed unfixed]
  by_cases set : tracker.maxRect.Sized
  · have inside := max_inside set resizing sized (meets set)
    split_ifs with positive
    · obtain ⟨free, far⟩ := fits set positive
      have atLeast := normal.atLeast positive
      have placed := match mid : handler.mid with
        | true => mid_inside atLeast set mid inside free
        | false => corner_inside atLeast set mid resizing inside free (far mid)
      exact ⟨placed.1.sized, fun _ => placed.1, fun _ => placed.2⟩
    · exact ⟨inside.sized, fun _ => inside, fun other => absurd other positive⟩
  · simp only [max_unset set]
    split_ifs with positive
    · have placed := passes_sized positive sized handler
      exact ⟨placed.1, fun other => absurd other set, fun _ => placed.2⟩
    · exact ⟨sized, fun other => absurd other set, fun other => absurd other positive⟩

theorem InRatio.of_size {other : Rect} (inRatio : tracker.InRatio rect)
    (width : other.width = rect.width) (height : other.height = rect.height) :
    tracker.InRatio other := by
  unfold InRatio
  rw [width, height]
  exact inRatio

/-- Moving a placed rectangle places it. -/
theorem adjust_moved (unfixed : tracker.fixedWidth = -1) (placed : tracker.Placed rect)
    (moved : Rect) (width : moved.width = rect.width) (height : moved.height = rect.height) :
    tracker.Placed (tracker.adjustTrackerRect moved .none) := by
  have sized : moved.Sized := by
    unfold Rect.Sized
    rw [width, height]
    exact placed.sized
  have ratio (positive : 0 < tracker.ratio) : tracker.InRatio moved :=
    (placed.inRatio positive).of_size width height
  rw [adjust_unfixed unfixed]
  by_cases set : tracker.maxRect.Sized
  · have inside := placed.inside set
    obtain ⟨slid, slidWidth, slidHeight⟩ := max_slide set moved sized
      (width.trans_le inside.1.length_le) (height.trans_le inside.2.length_le)
    split_ifs with positive
    · have slidRatio := (ratio positive).of_size slidWidth slidHeight
      rw [pass_of_inRatio positive rfl slidRatio, max_of_inside set slid,
        pass_of_inRatio positive rfl slidRatio]
      exact ⟨slid.sized, fun _ => slid, fun _ => slidRatio⟩
    · exact ⟨slid.sized, fun _ => slid, fun other => absurd other positive⟩
  · simp only [max_unset set]
    split_ifs with positive
    · rw [pass_of_inRatio positive rfl (ratio positive),
        pass_of_inRatio positive rfl (ratio positive)]
      exact ⟨sized, fun other => absurd other set, fun _ => ratio positive⟩
    · exact ⟨sized, fun other => absurd other set, fun other => absurd other positive⟩

/-- A placed rectangle stays. -/
theorem adjust_of_placed (unfixed : tracker.fixedWidth = -1) (placed : tracker.Placed rect) :
    tracker.adjustTrackerRect rect .outside = rect := by
  have clipped : tracker.adjustTrackerRectMax rect .outside = rect := by
    by_cases set : tracker.maxRect.Sized
    · exact max_of_inside set (placed.inside set) _
    · exact max_unset set ..
  rw [adjust_unfixed unfixed, clipped]
  split_ifs with positive
  · rw [pass_of_inRatio positive rfl (placed.inRatio positive), clipped,
      pass_of_inRatio positive rfl (placed.inRatio positive)]
  · rfl

/-! ## The hidden rectangle -/

/-- Where the hidden rectangle stays hidden. -/
def HiddenFits (tracker : RectTrackerRatio) : Prop :=
  tracker.ratio < 2 ∧
    (tracker.maxRect.Sized →
      tracker.maxRect.x ≤ 0 ∧ -1 ≤ tracker.maxRect.x + tracker.maxRect.width ∧
        tracker.maxRect.y ≤ 0 ∧ -1 ≤ tracker.maxRect.y + tracker.maxRect.height)

instance (tracker : RectTrackerRatio) : Decidable tracker.HiddenFits :=
  inferInstanceAs (Decidable (_ ∧ (_ → _)))

/-- Below two, a ratio makes nothing longer of the size `-1`. -/
theorem enlarge_hidden {ratio : ℚ} (atLeast : 1 ≤ ratio) (below : ratio < 2) :
    enlarge ratio (-1) = -1 := by
  have floor : ⌊ratio⌋ = 1 := Int.floor_eq_iff.mpr ⟨by simpa using atLeast, by norm_num; linarith⟩
  rw [enlarge, show ((-1 : Int) : ℚ) * ratio = -ratio by push_cast; ring, truncate_neg,
    truncate_of_nonneg (by linarith), floor]

theorem inRatio_hidden (atLeast : 1 ≤ tracker.ratio) (below : tracker.ratio < 2) :
    tracker.InRatio nullRect := by
  have side := enlarge_hidden atLeast below
  by_cases landscape : tracker.orientation = -1
  · exact .inr (by simp [heightFor, chooseSide, landscape, nullRect, side])
  · left
    have nonneg := mul_self_nonneg (-1 - reduce tracker.ratio (-1))
    simp only [widthFor, chooseSide, landscape, nullRect, side, if_false]
    split_ifs with portrait nearer
    · rfl
    · omega
    · rfl

theorem max_hidden (fits : tracker.HiddenFits) :
    tracker.adjustTrackerRectMax nullRect .outside = nullRect := by
  by_cases set : tracker.maxRect.Sized
  · obtain ⟨x, columns, y, rows⟩ := fits.2 set
    rw [max_set set]
    simp only [ne_eq, reduceCtorEq, not_false_eq_true, decide_true, Span.confine_cut, Span.inter,
      Rect.ofSpans, Rect.horizontal, Rect.vertical, Span.stop, nullRect, Rect.mk.injEq]
    omega
  · exact max_unset set ..

theorem adjust_hidden (normal : tracker.Normal) (unfixed : tracker.fixedWidth = -1)
    (fits : tracker.HiddenFits) :
    tracker.adjustTrackerRect nullRect .outside = nullRect := by
  rw [adjust_unfixed unfixed, max_hidden fits]
  split_ifs with positive
  · have inRatio := inRatio_hidden (normal.atLeast positive) fits.1
    rw [pass_of_inRatio positive rfl inRatio, max_hidden fits,
      pass_of_inRatio positive rfl inRatio]
  · rfl

/-! ## The mark -/

theorem dist_marked_height (rect other : Rect) (nonneg : 0 ≤ rect.height) :
    12000 * 12000 ≤ calcRectDist rect { other with height := farSize } := by
  unfold calcRectDist farSize
  have := mul_self_nonneg (rect.x - other.x)
  have := mul_self_nonneg (rect.y - other.y)
  have := mul_self_nonneg (rect.width - other.width)
  nlinarith

theorem dist_marked_width (rect other : Rect) (nonneg : 0 ≤ rect.width) :
    12000 * 12000 ≤ calcRectDist rect { other with width := farSize } := by
  unfold calcRectDist farSize
  have := mul_self_nonneg (rect.x - other.x)
  have := mul_self_nonneg (rect.y - other.y)
  have := mul_self_nonneg (rect.height - other.height)
  nlinarith

/-- What the first pass leaves is inside the max rect once it is clipped again. -/
theorem clipped_firstPass_inside (positive : 0 < tracker.ratio) (set : tracker.maxRect.Sized)
    (resizing : handler ≠ .none) (inside : rect.Inside tracker.maxRect) :
    (tracker.adjustTrackerRectMax
      (tracker.adjustTrackerRectRatio rect handler true) handler).Inside tracker.maxRect := by
  have wide : 0 ≤ rect.width := inside.1.1
  have high : 0 ≤ rect.height := inside.2.1
  rcases firstPass_mem positive rect handler with chosen | chosen <;> rw [chosen]
  · rw [rectHeight_eq, max_resized_height set resizing inside]
    exact inside_resized_height inside
      (le_min (heightFor_nonneg positive wide) (high.trans (height_le_rows inside _)))
      (min_le_right _ _)
  · rw [rectWidth_eq, max_resized_width set resizing inside]
    exact inside_resized_width inside
      (le_min (widthFor_nonneg positive high) (wide.trans (width_le_columns inside _)))
      (min_le_right _ _)

end RectTrackerRatio

end RPhoto.Tracker
