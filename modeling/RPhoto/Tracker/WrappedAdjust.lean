import RPhoto.Tracker.CheckedAdjust

/-!
# Adjusting with integers that wrap around

The passes of `AdjustTrackerRect` as a processor with integers of 32 bits makes
them: the sum of a distance wraps around, and a `double` outside the range is
converted to the least `int`.  Where the checked passes have a result it is this
one; elsewhere the language leaves it open, and this is what is seen.
-/

namespace RPhoto.Tracker

open RPhoto.Library

namespace RectTrackerRatio

/-- `CalcRectDist`. -/
def wrappedDist (r1 r2 : Rect) : Int := wrapped (calcRectDist r1 r2)

/-- `CalcRectNearer`. -/
def wrappedNearer (rr r1 r2 : Rect) : Rect :=
  if wrappedDist rr r2 < wrappedDist rr r1 then r2 else r1

/-- Portrait or landscape? -/
def wrappedOrientation (tracker : RectTrackerRatio) (curRect rectPort rectLand : Rect) : Rect :=
  if tracker.orientation = -1 then rectLand
  else if tracker.orientation = 1 then rectPort
  else wrappedNearer curRect rectPort rectLand

/-- `rectWidth` of `AdjustTrackerRectRatio`. -/
def wrappedRectWidth (tracker : RectTrackerRatio) (curRect : Rect) (handler : Handler) : Rect :=
  let portWidth := converted (truncate (curRect.height * tracker.ratio))
  let landWidth := converted (truncate (curRect.height / tracker.ratio))
  let moved (width : Int) : Int :=
    if handler.left then curRect.x + (curRect.width - width) else curRect.x
  tracker.wrappedOrientation curRect
    { curRect with x := moved portWidth, width := portWidth }
    { curRect with x := moved landWidth, width := landWidth }

/-- `rectHeight` of `AdjustTrackerRectRatio`. -/
def wrappedRectHeight (tracker : RectTrackerRatio) (curRect : Rect) (handler : Handler) : Rect :=
  let portHeight := converted (truncate (curRect.width / tracker.ratio))
  let landHeight := converted (truncate (curRect.width * tracker.ratio))
  let moved (height : Int) : Int :=
    if handler.top then curRect.y + (curRect.height - height) else curRect.y
  tracker.wrappedOrientation curRect
    { curRect with y := moved portHeight, height := portHeight }
    { curRect with y := moved landHeight, height := landHeight }

/-- The rectangle that `AdjustTrackerRectRatio` takes. -/
def wrappedPick (curRect rectWidth rectHeight : Rect) (handler : Handler) (expand : Bool) : Rect :=
  match handler with
  | .topMid | .bottomMid => if expand then rectWidth else rectHeight
  | .midRight | .midLeft => if expand then rectHeight else rectWidth
  | _ =>
      if expand then wrappedNearer curRect rectHeight rectWidth
      else
        wrappedNearer curRect
          (if curRect.height < rectHeight.height then { rectHeight with height := farSize }
            else rectHeight)
          (if curRect.width < rectWidth.width then { rectWidth with width := farSize }
            else rectWidth)

/-- `AdjustTrackerRectRatio`. -/
def wrappedRatio (tracker : RectTrackerRatio) (curRect : Rect) (handler : Handler)
    (expand : Bool) : Rect :=
  if tracker.ratio ≤ 0 then curRect
  else
    wrappedPick curRect (tracker.wrappedRectWidth curRect handler)
      (tracker.wrappedRectHeight curRect handler) handler expand

/-- `AdjustTrackerRect`. -/
def wrappedAdjust (tracker : RectTrackerRatio) (curRect : Rect) (handler : Handler) : Rect :=
  let curRect := tracker.adjustTrackerRectMax curRect handler
  let curRect :=
    if tracker.fixedWidth > 0 ∧ tracker.fixedHeight > 0 then
      tracker.adjustTrackerRectFixed curRect
    else curRect
  if tracker.ratio > 0 then
    let curRect := tracker.wrappedRatio curRect handler true
    let curRect := tracker.adjustTrackerRectMax curRect handler
    tracker.wrappedRatio curRect handler false
  else curRect

/-- `Update`. -/
def wrappedUpdate (tracker : RectTrackerRatio) : RectTrackerRatio :=
  let curRect := tracker.wrappedAdjust tracker.rect .outside
  { tracker with
    curRect
    rect := if curRect ≠ tracker.rect then curRect else tracker.rect }

/-! ## Where nothing wraps around -/

variable {tracker next : RectTrackerRatio} {rr r1 r2 curRect result : Rect} {handler : Handler}
  {expand : Bool}

theorem wrappedDist_of_checked {distance : Int} (found : checkedDist r1 r2 = some distance) :
    wrappedDist r1 r2 = distance := by
  obtain ⟨near, rfl⟩ := (checkedDist_computes r1 r2 distance).mp found
  refine wrapped_of_fits ⟨?_, near⟩
  have x := mul_self_nonneg (r1.x - r2.x)
  have y := mul_self_nonneg (r1.y - r2.y)
  have width := mul_self_nonneg (r1.width - r2.width)
  have height := mul_self_nonneg (r1.height - r2.height)
  unfold calcRectDist maxInt
  omega

theorem wrappedNearer_of_checked (found : checkedNearer rr r1 r2 = some result) :
    wrappedNearer rr r1 r2 = result := by
  obtain ⟨second, toSecond, rest⟩ := Option.bind_eq_some_iff.mp found
  obtain ⟨first, toFirst, chosen⟩ := Option.map_eq_some_iff.mp rest
  unfold wrappedNearer
  rw [wrappedDist_of_checked toSecond, wrappedDist_of_checked toFirst]
  exact chosen

theorem wrappedOrientation_of_checked {rectPort rectLand : Rect}
    (found : tracker.checkedOrientation curRect rectPort rectLand = some result) :
    tracker.wrappedOrientation curRect rectPort rectLand = result := by
  unfold checkedOrientation at found
  unfold wrappedOrientation
  split_ifs at found ⊢
  · exact Option.some.inj found
  · exact Option.some.inj found
  · exact wrappedNearer_of_checked found

theorem wrappedRectWidth_of_checked
    (found : tracker.checkedRectWidth curRect handler = some result) :
    tracker.wrappedRectWidth curRect handler = result := by
  obtain ⟨portWidth, port, rest⟩ := Option.bind_eq_some_iff.mp found
  obtain ⟨landWidth, land, chosen⟩ := Option.bind_eq_some_iff.mp rest
  unfold wrappedRectWidth
  rw [converted_of_checked port, converted_of_checked land]
  exact wrappedOrientation_of_checked chosen

theorem wrappedRectHeight_of_checked
    (found : tracker.checkedRectHeight curRect handler = some result) :
    tracker.wrappedRectHeight curRect handler = result := by
  obtain ⟨portHeight, port, rest⟩ := Option.bind_eq_some_iff.mp found
  obtain ⟨landHeight, land, chosen⟩ := Option.bind_eq_some_iff.mp rest
  unfold wrappedRectHeight
  rw [converted_of_checked port, converted_of_checked land]
  exact wrappedOrientation_of_checked chosen

theorem wrappedPick_of_checked {rectWidth rectHeight : Rect}
    (found : checkedPick curRect rectWidth rectHeight handler expand = some result) :
    wrappedPick curRect rectWidth rectHeight handler expand = result := by
  cases mid : handler.mid with
  | true => cases handler <;> first | exact Option.some.inj found | cases mid
  | false =>
      rw [checkedPick_corner mid] at found
      cases expand <;> cases handler <;>
        first | exact wrappedNearer_of_checked found | cases mid

theorem wrappedRatio_of_checked
    (found : tracker.checkedRatio curRect handler expand = some result) :
    tracker.wrappedRatio curRect handler expand = result := by
  unfold checkedRatio at found
  unfold wrappedRatio
  split_ifs at found ⊢
  · exact Option.some.inj found
  · obtain ⟨rectWidth, byHeight, rest⟩ := Option.bind_eq_some_iff.mp found
    obtain ⟨rectHeight, byWidth, picked⟩ := Option.bind_eq_some_iff.mp rest
    rw [wrappedRectWidth_of_checked byHeight, wrappedRectHeight_of_checked byWidth]
    exact wrappedPick_of_checked picked

/-- A checked computation that comes to an end is the one of the processor. -/
theorem wrappedAdjust_of_checked
    (found : tracker.checkedAdjust curRect handler = some result) :
    tracker.wrappedAdjust curRect handler = result := by
  unfold checkedAdjust at found
  unfold wrappedAdjust
  dsimp only at found ⊢
  split at found
  · rename_i positive
    obtain ⟨middle, first, second⟩ := Option.bind_eq_some_iff.mp found
    rw [if_pos positive, wrappedRatio_of_checked first]
    exact wrappedRatio_of_checked second
  · rename_i off
    rw [if_neg off]
    exact Option.some.inj found

theorem wrappedUpdate_of_checked (found : tracker.checkedUpdate = some next) :
    tracker.wrappedUpdate = next := by
  obtain ⟨adjusted, inRange, done⟩ := Option.map_eq_some_iff.mp found
  unfold wrappedUpdate
  rw [wrappedAdjust_of_checked inRange]
  exact done

end RectTrackerRatio

end RPhoto.Tracker
