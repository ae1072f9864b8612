import RPhoto.Tracker.FixedSize

/-!
# Where an update puts the ends

`Update` works from the right and the bottom end of a rectangle: a fixed size is
put before them, and the ratio passes keep them, unless the second pass takes a
rectangle that is marked as too long.  So what an update makes of a rectangle with
a fixed size depends on its ends alone, and no update with a ratio moves an end
beyond the max rect.
-/

namespace RPhoto.Tracker

open RPhoto.Library

namespace RectTrackerRatio

variable {tracker : RectTrackerRatio} {rect other bounds : Rect}

/-! ## The ends of the first rectangle -/

/-- The rectangle ends before the bounds do. -/
def EndsIn (rect bounds : Rect) : Prop :=
  rect.horizontal.stop ≤ bounds.horizontal.stop ∧ rect.vertical.stop ≤ bounds.vertical.stop

/-- Where a span of a fixed size ends. -/
def fixedStop (bounds : Span) (stop size : Int) : Int :=
  min (max (min stop bounds.stop) (bounds.start + size)) bounds.stop

/-- The rectangle of the fixed size with these ends. -/
def fixedBefore (tracker : RectTrackerRatio) (right bottom : Int) : Rect :=
  .ofSpans ⟨right - tracker.fixedWidth, tracker.fixedWidth⟩
    ⟨bottom - tracker.fixedHeight, tracker.fixedHeight⟩

@[simp] theorem right_fixedBefore (right bottom : Int) :
    (tracker.fixedBefore right bottom).horizontal.stop = right :=
  sub_add_cancel right tracker.fixedWidth

@[simp] theorem bottom_fixedBefore (right bottom : Int) :
    (tracker.fixedBefore right bottom).vertical.stop = bottom :=
  sub_add_cancel bottom tracker.fixedHeight

theorem fixedStop_le (bounds : Span) (stop size : Int) :
    fixedStop bounds stop size ≤ bounds.stop :=
  min_le_right _ _

theorem start_le_fixedStop {bounds : Span} (nonneg : 0 ≤ bounds.length) (stop : Int) {size : Int}
    (sized : 0 ≤ size) : bounds.start ≤ fixedStop bounds stop size := by
  simp only [fixedStop, Span.stop]
  omega

/-- A size as long as the bounds ends where they do. -/
theorem fixedStop_covering {bounds : Span} {size : Int} (covers : bounds.length ≤ size)
    (stop : Int) : fixedStop bounds stop size = bounds.stop := by
  simp only [fixedStop, Span.stop]
  omega

theorem adjustSpanFixed_confined (bounds span : Span) (size : Int) :
    adjustSpanFixed bounds (Span.confine true bounds span) size =
      ⟨fixedStop bounds span.stop size - size, size⟩ := by
  have stop := Span.stop_confine_cut bounds span
  simp only [adjustSpanFixed, fixedStop, Span.stop, Span.mk.injEq, and_true] at stop ⊢
  split_ifs <;> omega

/-- The first pass starts from the fixed size, put before the ends. -/
theorem startRect_sized (set : tracker.maxRect.Sized)
    (sized : 0 < tracker.fixedWidth ∧ 0 < tracker.fixedHeight) (rect : Rect) :
    tracker.startRect rect .outside =
      tracker.fixedBefore
        (fixedStop tracker.maxRect.horizontal rect.horizontal.stop tracker.fixedWidth)
        (fixedStop tracker.maxRect.vertical rect.vertical.stop tracker.fixedHeight) := by
  unfold startRect
  dsimp only
  rw [if_pos sized, max_set set]
  exact congrArg₂ Rect.ofSpans (adjustSpanFixed_confined ..) (adjustSpanFixed_confined ..)

theorem startRect_unsized (set : tracker.maxRect.Sized)
    (unsized : ¬(0 < tracker.fixedWidth ∧ 0 < tracker.fixedHeight)) (rect : Rect) :
    tracker.startRect rect .outside =
      .ofSpans (Span.confine true tracker.maxRect.horizontal rect.horizontal)
        (Span.confine true tracker.maxRect.vertical rect.vertical) := by
  unfold startRect
  dsimp only
  rw [if_neg unsized, max_set set]
  rfl

/-- Adjusting looks at nothing but that rectangle. -/
theorem adjust_of_start (positive : 0 < tracker.ratio)
    (same : tracker.startRect rect .outside = tracker.startRect other .outside) :
    tracker.adjustTrackerRect rect .outside = tracker.adjustTrackerRect other .outside := by
  rw [adjust_of_ratio positive, adjust_of_ratio positive, secondRect, secondRect, same]

/-- So does the range of what it computes. -/
theorem rangeFits_of_start
    (same : tracker.startRect rect .outside = tracker.startRect other .outside) :
    tracker.RangeFits rect .outside ↔ tracker.RangeFits other .outside := by
  unfold RangeFits secondRect
  rw [same]

/-! ## The passes -/

/-- A pass from the right and the bottom keeps the ends. -/
theorem stops_rectWidth (rect : Rect) :
    (tracker.rectWidth rect .outside).horizontal.stop = rect.horizontal.stop ∧
      (tracker.rectWidth rect .outside).vertical = rect.vertical := by
  rw [rectWidth_eq]
  exact ⟨Span.stop_resized, rfl⟩

theorem stops_rectHeight (rect : Rect) :
    (tracker.rectHeight rect .outside).horizontal = rect.horizontal ∧
      (tracker.rectHeight rect .outside).vertical.stop = rect.vertical.stop := by
  rw [rectHeight_eq]
  exact ⟨rfl, Span.stop_resized⟩

theorem stops_firstPass (positive : 0 < tracker.ratio) (rect : Rect) :
    (tracker.adjustTrackerRectRatio rect .outside true).horizontal.stop = rect.horizontal.stop ∧
      (tracker.adjustTrackerRectRatio rect .outside true).vertical.stop = rect.vertical.stop := by
  rcases firstPass_mem positive rect .outside with chosen | chosen <;> rw [chosen]
  · have ends := @stops_rectHeight tracker rect
    exact ⟨congrArg Span.stop ends.1, ends.2⟩
  · have ends := @stops_rectWidth tracker rect
    exact ⟨ends.1, congrArg Span.stop ends.2⟩

/-- The width that the second pass considers, marked when it is too long. -/
def markedWidth (tracker : RectTrackerRatio) (rect : Rect) : Rect :=
  if rect.width < tracker.widthFor rect.width rect.height then
    { tracker.rectWidth rect .outside with width := farSize }
  else tracker.rectWidth rect .outside

/-- The height that it considers. -/
def markedHeight (tracker : RectTrackerRatio) (rect : Rect) : Rect :=
  if rect.height < tracker.heightFor rect.width rect.height then
    { tracker.rectHeight rect .outside with height := farSize }
  else tracker.rectHeight rect .outside

/-- The second pass of `Update` takes the rectangle that is marked as too tall. -/
def TakesTall (tracker : RectTrackerRatio) (rect : Rect) : Prop :=
  rect.height < tracker.heightFor rect.width rect.height ∧
    calcRectDist rect (tracker.markedHeight rect) ≤ calcRectDist rect (tracker.markedWidth rect)

/-- It takes the rectangle that is marked as too broad. -/
def TakesBroad (tracker : RectTrackerRatio) (rect : Rect) : Prop :=
  rect.width < tracker.widthFor rect.width rect.height ∧
    calcRectDist rect (tracker.markedWidth rect) < calcRectDist rect (tracker.markedHeight rect)

instance (tracker : RectTrackerRatio) (rect : Rect) : Decidable (tracker.TakesTall rect) :=
  inferInstanceAs (Decidable (_ ∧ _))

instance (tracker : RectTrackerRatio) (rect : Rect) : Decidable (tracker.TakesBroad rect) :=
  inferInstanceAs (Decidable (_ ∧ _))

/-- The marked rectangle with the other width keeps the rows, the one with the other height the
columns. -/
theorem markedWidth_vertical (rect : Rect) :
    (tracker.markedWidth rect).vertical = rect.vertical := by
  unfold markedWidth
  split_ifs
  · exact (stops_rectWidth rect).2
  · exact (stops_rectWidth rect).2

theorem markedHeight_horizontal (rect : Rect) :
    (tracker.markedHeight rect).horizontal = rect.horizontal := by
  unfold markedHeight
  split_ifs
  · exact (stops_rectHeight rect).1
  · exact (stops_rectHeight rect).1

/-- A mark pulls the end back by the length it replaces. -/
theorem markedHeight_stop (longer : rect.height < tracker.heightFor rect.width rect.height) :
    (tracker.markedHeight rect).vertical.stop =
      rect.vertical.stop - tracker.heightFor rect.width rect.height + farSize := by
  have ends := (@stops_rectHeight tracker rect).2
  have side := @rectHeight_height tracker rect .outside
  unfold markedHeight
  rw [if_pos longer]
  simp only [Rect.vertical, Span.stop] at ends ⊢
  omega

theorem markedWidth_stop (longer : rect.width < tracker.widthFor rect.width rect.height) :
    (tracker.markedWidth rect).horizontal.stop =
      rect.horizontal.stop - tracker.widthFor rect.width rect.height + farSize := by
  have ends := (@stops_rectWidth tracker rect).1
  have side := @rectWidth_width tracker rect .outside
  unfold markedWidth
  rw [if_pos longer]
  simp only [Rect.horizontal, Span.stop] at ends ⊢
  omega

theorem secondPass_marked (positive : 0 < tracker.ratio) (rect : Rect) :
    tracker.adjustTrackerRectRatio rect .outside false =
      calcRectNearer rect (tracker.markedHeight rect) (tracker.markedWidth rect) :=
  secondPass_eq positive rfl rect

/-- The second pass keeps the bottom end, or takes the mark. -/
theorem bottom_secondPass (positive : 0 < tracker.ratio) (rect : Rect) :
    (tracker.adjustTrackerRectRatio rect .outside false).vertical.stop =
      if tracker.TakesTall rect then
        rect.vertical.stop - tracker.heightFor rect.width rect.height + farSize
      else rect.vertical.stop := by
  rw [secondPass_marked positive, calcRectNearer]
  by_cases near : calcRectDist rect (tracker.markedWidth rect) <
      calcRectDist rect (tracker.markedHeight rect)
  · rw [if_pos near, if_neg fun tall => absurd near (not_lt.mpr tall.2)]
    exact congrArg Span.stop (markedWidth_vertical rect)
  rw [if_neg near]
  by_cases longer : rect.height < tracker.heightFor rect.width rect.height
  · rw [if_pos ⟨longer, not_lt.mp near⟩]
    exact markedHeight_stop longer
  · rw [if_neg fun tall => longer tall.1, markedHeight, if_neg longer]
    exact (stops_rectHeight rect).2

/-- It keeps the right end, or takes the mark. -/
theorem right_secondPass (positive : 0 < tracker.ratio) (rect : Rect) :
    (tracker.adjustTrackerRectRatio rect .outside false).horizontal.stop =
      if tracker.TakesBroad rect then
        rect.horizontal.stop - tracker.widthFor rect.width rect.height + farSize
      else rect.horizontal.stop := by
  rw [secondPass_marked positive, calcRectNearer]
  by_cases near : calcRectDist rect (tracker.markedWidth rect) <
      calcRectDist rect (tracker.markedHeight rect)
  · rw [if_pos near]
    by_cases longer : rect.width < tracker.widthFor rect.width rect.height
    · rw [if_pos ⟨longer, near⟩]
      exact markedWidth_stop longer
    · rw [if_neg fun broad => longer broad.1, markedWidth, if_neg longer]
      exact (stops_rectWidth rect).1
  · rw [if_neg near, if_neg fun broad => near broad.2]
    exact congrArg Span.stop (markedHeight_horizontal rect)

/-! ## An update with a fixed size -/

/-- The first rectangle of a fixed size ends in the max rect. -/
theorem endsIn_startRect (set : tracker.maxRect.Sized)
    (sized : 0 < tracker.fixedWidth ∧ 0 < tracker.fixedHeight) (rect : Rect) :
    EndsIn (tracker.startRect rect .outside) tracker.maxRect := by
  rw [startRect_sized set sized, EndsIn, right_fixedBefore, bottom_fixedBefore]
  exact ⟨fixedStop_le .., fixedStop_le ..⟩

/-- The second pass finds the same ends, and sides that are not negative. -/
theorem secondRect_ends (positive : 0 < tracker.ratio) (set : tracker.maxRect.Sized)
    (sized : 0 < tracker.fixedWidth ∧ 0 < tracker.fixedHeight) (rect : Rect) :
    (tracker.secondRect rect .outside).horizontal.stop =
        (tracker.startRect rect .outside).horizontal.stop ∧
      (tracker.secondRect rect .outside).vertical.stop =
        (tracker.startRect rect .outside).vertical.stop ∧
      (tracker.secondRect rect .outside).Sized := by
  have ends := endsIn_startRect set sized rect
  have starts : tracker.maxRect.x ≤ (tracker.startRect rect .outside).horizontal.stop ∧
      tracker.maxRect.y ≤ (tracker.startRect rect .outside).vertical.stop := by
    rw [startRect_sized set sized, right_fixedBefore, bottom_fixedBefore]
    exact ⟨@start_le_fixedStop tracker.maxRect.horizontal set.1 _ _ sized.1.le,
      @start_le_fixedStop tracker.maxRect.vertical set.2 _ _ sized.2.le⟩
  have sides : (tracker.startRect rect .outside).Sized := by
    rw [startRect_sized set sized]
    exact ⟨sized.1.le, sized.2.le⟩
  have passed := firstPass_sized positive sides .outside
  obtain ⟨right, bottom⟩ := stops_firstPass positive (tracker.startRect rect .outside)
  unfold secondRect
  rw [max_set set]
  simp only [ne_eq, reduceCtorEq, not_false_eq_true, decide_true, Span.confine_cut, Span.inter,
    Rect.horizontal_ofSpans, Rect.vertical_ofSpans, Rect.Sized, Rect.width_ofSpans,
    Rect.height_ofSpans]
  simp only [EndsIn, Rect.Sized, Rect.horizontal, Rect.vertical, Span.stop] at *
  omega

/-- The bottom end after an update. -/
theorem bottom_adjust (positive : 0 < tracker.ratio) (set : tracker.maxRect.Sized)
    (sized : 0 < tracker.fixedWidth ∧ 0 < tracker.fixedHeight) (rect : Rect) :
    if tracker.TakesTall (tracker.secondRect rect .outside) then
      (tracker.adjustTrackerRect rect .outside).vertical.stop <
        (tracker.startRect rect .outside).vertical.stop
    else
      (tracker.adjustTrackerRect rect .outside).vertical.stop =
        (tracker.startRect rect .outside).vertical.stop := by
  obtain ⟨-, bottom, -, high⟩ := secondRect_ends positive set sized rect
  rw [adjust_of_ratio positive, bottom_secondPass positive, bottom]
  split_ifs with tall
  · have longer := tall.1
    unfold farSize
    omega
  · rfl

/-- The right end after an update. -/
theorem right_adjust (positive : 0 < tracker.ratio) (set : tracker.maxRect.Sized)
    (sized : 0 < tracker.fixedWidth ∧ 0 < tracker.fixedHeight) (rect : Rect) :
    if tracker.TakesBroad (tracker.secondRect rect .outside) then
      (tracker.adjustTrackerRect rect .outside).horizontal.stop <
        (tracker.startRect rect .outside).horizontal.stop
    else
      (tracker.adjustTrackerRect rect .outside).horizontal.stop =
        (tracker.startRect rect .outside).horizontal.stop := by
  obtain ⟨right, -, wide, -⟩ := secondRect_ends positive set sized rect
  rw [adjust_of_ratio positive, right_secondPass positive, right]
  split_ifs with broad
  · have longer := broad.1
    unfold farSize
    omega
  · rfl

theorem bottom_adjust_le (positive : 0 < tracker.ratio) (set : tracker.maxRect.Sized)
    (sized : 0 < tracker.fixedWidth ∧ 0 < tracker.fixedHeight) (rect : Rect) :
    (tracker.adjustTrackerRect rect .outside).vertical.stop ≤
      (tracker.startRect rect .outside).vertical.stop := by
  have bottom := bottom_adjust positive set sized rect
  split_ifs at bottom
  · exact bottom.le
  · exact bottom.le

theorem right_adjust_le (positive : 0 < tracker.ratio) (set : tracker.maxRect.Sized)
    (sized : 0 < tracker.fixedWidth ∧ 0 < tracker.fixedHeight) (rect : Rect) :
    (tracker.adjustTrackerRect rect .outside).horizontal.stop ≤
      (tracker.startRect rect .outside).horizontal.stop := by
  have right := right_adjust positive set sized rect
  split_ifs at right
  · exact right.le
  · exact right.le

/-- What an update makes of a fixed size ends in the max rect. -/
theorem endsIn_adjust (positive : 0 < tracker.ratio) (set : tracker.maxRect.Sized)
    (sized : 0 < tracker.fixedWidth ∧ 0 < tracker.fixedHeight) (rect : Rect) :
    EndsIn (tracker.adjustTrackerRect rect .outside) tracker.maxRect := by
  have ends := endsIn_startRect set sized rect
  exact ⟨(right_adjust_le positive set sized rect).trans ends.1,
    (bottom_adjust_le positive set sized rect).trans ends.2⟩

/-! ## A rectangle without a fixed size that an update leaves -/

/-- The rectangle of the second pass ends in the max rect. -/
theorem endsIn_secondRect (set : tracker.maxRect.Sized) (rect : Rect) :
    EndsIn (tracker.secondRect rect .outside) tracker.maxRect := by
  unfold secondRect
  rw [max_set set]
  exact ⟨(Span.stop_confine_cut ..).trans_le (min_le_right _ _),
    (Span.stop_confine_cut ..).trans_le (min_le_right _ _)⟩

/-- A span that starts and ends behind the bounds is cut to a negative length. -/
theorem confine_behind {bounds span : Span} (nonneg : 0 ≤ bounds.length)
    (starts : bounds.stop ≤ span.start) (ends : bounds.stop ≤ span.stop) :
    Span.confine true bounds span = ⟨span.start, bounds.stop - span.start⟩ := by
  simp only [Span.confine_cut, Span.inter, Span.stop, Span.mk.injEq] at starts ends ⊢
  omega

/-- What is cut to the bounds once stays. -/
theorem confine_again (bounds span : Span) :
    Span.confine true bounds (Span.confine true bounds span) = Span.confine true bounds span := by
  simp only [Span.confine_cut, Span.inter, Span.stop, Span.mk.injEq]
  omega

/-- A length put before the stop of the bounds is cut to theirs. -/
theorem length_confine_resized {bounds span : Span} (ends : span.stop = bounds.stop)
    (length : Int) :
    (Span.confine true bounds (span.resized true length)).length = min length bounds.length := by
  simp only [Span.confine_cut, Span.inter, Span.resized, if_true, Span.stop] at ends ⊢
  omega

/-- The second pass after a first one over the height. -/
theorem secondRect_of_height (set : tracker.maxRect.Sized)
    (chosen : tracker.adjustTrackerRectRatio (tracker.startRect rect .outside) .outside true =
      tracker.rectHeight (tracker.startRect rect .outside) .outside) :
    tracker.secondRect rect .outside =
      .ofSpans
        (Span.confine true tracker.maxRect.horizontal (tracker.startRect rect .outside).horizontal)
        (Span.confine true tracker.maxRect.vertical
          ((tracker.startRect rect .outside).vertical.resized true
            (tracker.heightFor (tracker.startRect rect .outside).width
              (tracker.startRect rect .outside).height))) := by
  unfold secondRect
  rw [chosen, rectHeight_eq, max_set set]
  rfl

theorem secondRect_of_width (set : tracker.maxRect.Sized)
    (chosen : tracker.adjustTrackerRectRatio (tracker.startRect rect .outside) .outside true =
      tracker.rectWidth (tracker.startRect rect .outside) .outside) :
    tracker.secondRect rect .outside =
      .ofSpans
        (Span.confine true tracker.maxRect.horizontal
          ((tracker.startRect rect .outside).horizontal.resized true
            (tracker.widthFor (tracker.startRect rect .outside).width
              (tracker.startRect rect .outside).height)))
        (Span.confine true tracker.maxRect.vertical
          (tracker.startRect rect .outside).vertical) := by
  unfold secondRect
  rw [chosen, rectWidth_eq, max_set set]
  rfl

/-- A mark cannot put the bottom end of such a rectangle beyond the max rect: the first pass
would have found the longer side already. -/
theorem bottom_of_unsized (positive : 0 < tracker.ratio) (set : tracker.maxRect.Sized)
    (unsized : ¬(0 < tracker.fixedWidth ∧ 0 < tracker.fixedHeight))
    (still : tracker.adjustTrackerRect rect .outside = rect) :
    rect.vertical.stop ≤ tracker.maxRect.vertical.stop := by
  by_contra beyond
  have ends := (endsIn_secondRect set rect).2
  have passed := adjust_of_ratio positive rect .outside
  have bottom := bottom_secondPass positive (tracker.secondRect rect .outside)
  rw [still] at passed
  rw [← passed] at bottom
  by_cases tall : tracker.TakesTall (tracker.secondRect rect .outside)
  swap
  · rw [if_neg tall] at bottom
    exact beyond (bottom.trans_le ends)
  rw [if_pos tall] at bottom
  have longer := tall.1
  have marked : rect.vertical.stop = rect.y + farSize := by
    have height : rect.height = farSize := by
      rw [passed, secondPass_marked positive, calcRectNearer, if_neg (not_lt.mpr tall.2),
        markedHeight, if_pos longer]
    rw [← height]
    rfl
  -- The rectangle starts below the max rect, so clipping gives it a negative height.
  have bounded := set.2
  have behind := @confine_behind tracker.maxRect.vertical rect.vertical bounded
    (by simp only [Rect.vertical, farSize] at marked beyond ⊢; omega) (by omega)
  have start := startRect_unsized set unsized rect
  have rows : (tracker.startRect rect .outside).vertical =
      Span.confine true tracker.maxRect.vertical rect.vertical := by
    rw [start, Rect.vertical_ofSpans]
  have columns : (tracker.startRect rect .outside).horizontal =
      Span.confine true tracker.maxRect.horizontal rect.horizontal := by
    rw [start, Rect.horizontal_ofSpans]
  rcases firstPass_mem positive (tracker.startRect rect .outside) .outside with chosen | chosen
  · have second := secondRect_of_height set chosen
    have width : (tracker.secondRect rect .outside).width =
        (tracker.startRect rect .outside).width := by
      rw [second, Rect.width_ofSpans, columns, confine_again, ← columns]
      rfl
    have height : (tracker.secondRect rect .outside).height =
        min (tracker.heightFor (tracker.startRect rect .outside).width
          (tracker.startRect rect .outside).height) tracker.maxRect.height := by
      rw [second, Rect.height_ofSpans]
      refine length_confine_resized ?_ _
      rw [rows, behind]
      simp only [Span.stop]
      omega
    have found : (tracker.secondRect rect .outside).height =
        tracker.heightFor (tracker.startRect rect .outside).width
          (tracker.startRect rect .outside).height := by
      unfold farSize at *
      omega
    rw [width, found, heightFor_idem] at longer
    exact lt_irrefl _ longer
  · have second := congrArg Rect.vertical (secondRect_of_width set chosen)
    rw [Rect.vertical_ofSpans, rows, confine_again, behind] at second
    have height : (tracker.secondRect rect .outside).height =
        tracker.maxRect.vertical.stop - rect.y := congrArg Span.length second
    have stop : (tracker.secondRect rect .outside).vertical.stop =
        tracker.maxRect.vertical.stop := by
      rw [second]
      simp only [Span.stop, Rect.vertical]
      omega
    omega

/-- Nor the right end. -/
theorem right_of_unsized (positive : 0 < tracker.ratio) (set : tracker.maxRect.Sized)
    (unsized : ¬(0 < tracker.fixedWidth ∧ 0 < tracker.fixedHeight))
    (still : tracker.adjustTrackerRect rect .outside = rect) :
    rect.horizontal.stop ≤ tracker.maxRect.horizontal.stop := by
  by_contra beyond
  have ends := (endsIn_secondRect set rect).1
  have passed := adjust_of_ratio positive rect .outside
  have right := right_secondPass positive (tracker.secondRect rect .outside)
  rw [still] at passed
  rw [← passed] at right
  by_cases broad : tracker.TakesBroad (tracker.secondRect rect .outside)
  swap
  · rw [if_neg broad] at right
    exact beyond (right.trans_le ends)
  rw [if_pos broad] at right
  have longer := broad.1
  have marked : rect.horizontal.stop = rect.x + farSize := by
    have width : rect.width = farSize := by
      rw [passed, secondPass_marked positive, calcRectNearer, if_pos broad.2, markedWidth,
        if_pos longer]
    rw [← width]
    rfl
  have bounded := set.1
  have behind := @confine_behind tracker.maxRect.horizontal rect.horizontal bounded
    (by simp only [Rect.horizontal, farSize] at marked beyond ⊢; omega) (by omega)
  have start := startRect_unsized set unsized rect
  have rows : (tracker.startRect rect .outside).vertical =
      Span.confine true tracker.maxRect.vertical rect.vertical := by
    rw [start, Rect.vertical_ofSpans]
  have columns : (tracker.startRect rect .outside).horizontal =
      Span.confine true tracker.maxRect.horizontal rect.horizontal := by
    rw [start, Rect.horizontal_ofSpans]
  rcases firstPass_mem positive (tracker.startRect rect .outside) .outside with chosen | chosen
  · have second := congrArg Rect.horizontal (secondRect_of_height set chosen)
    rw [Rect.horizontal_ofSpans, columns, confine_again, behind] at second
    have width : (tracker.secondRect rect .outside).width =
        tracker.maxRect.horizontal.stop - rect.x := congrArg Span.length second
    have stop : (tracker.secondRect rect .outside).horizontal.stop =
        tracker.maxRect.horizontal.stop := by
      rw [second]
      simp only [Span.stop, Rect.horizontal]
      omega
    omega
  · have second := secondRect_of_width set chosen
    have height : (tracker.secondRect rect .outside).height =
        (tracker.startRect rect .outside).height := by
      rw [second, Rect.height_ofSpans, rows, confine_again, ← rows]
      rfl
    have width : (tracker.secondRect rect .outside).width =
        min (tracker.widthFor (tracker.startRect rect .outside).width
          (tracker.startRect rect .outside).height) tracker.maxRect.width := by
      rw [second, Rect.width_ofSpans]
      refine length_confine_resized ?_ _
      rw [columns, behind]
      simp only [Span.stop]
      omega
    have found : (tracker.secondRect rect .outside).width =
        tracker.widthFor (tracker.startRect rect .outside).width
          (tracker.startRect rect .outside).height := by
      unfold farSize at *
      omega
    rw [height, found, widthFor_idem] at longer
    exact lt_irrefl _ longer

/-- A rectangle that an update with a ratio leaves ends in the max rect. -/
theorem endsIn_of_still (positive : 0 < tracker.ratio) (set : tracker.maxRect.Sized)
    (still : tracker.adjustTrackerRect rect .outside = rect) : EndsIn rect tracker.maxRect := by
  by_cases sized : 0 < tracker.fixedWidth ∧ 0 < tracker.fixedHeight
  · rw [← still]
    exact endsIn_adjust positive set sized rect
  · exact ⟨right_of_unsized positive set sized still, bottom_of_unsized positive set sized still⟩

end RectTrackerRatio

end RPhoto.Tracker
