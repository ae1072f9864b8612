import RPhoto.Library.Run
import RPhoto.Tracker.CheckedAdjust

/-!
# The selection and the image

A run of the tracker is made of mouse and key events and of calls.  As long as
what the tracker is asked to fit can be fitted, with distances in the range of an
`int`, the selection is hidden or lies inside the max rect.  A drag turned over
its opposite side keeps one corner of the selection, so it needs no guard of its
own.
-/

namespace RPhoto.Tracker

open RPhoto.Library

namespace RectTrackerRatio

variable {tracker next : RectTrackerRatio} {rect : Rect} {hit : Handler}

/-! ## Events -/

/-- What happens to a tracker without fixed size. -/
inductive Event where
  | leftDown (position : Point)
  | motion (position : Point) (isDragging leftIsDown : Bool)
  | leftUp
  | key (key : Key) (controlDown shiftDown : Bool)
  | hide
  | update
  | enable
  | disable
  | setMaxRect (maxRect : Rect)
  | setRatio (ratio : ℚ)
  | setOrientation (orientation : Int)
deriving DecidableEq, Repr

/-- A disabled tracker gets no mouse and key events; each setter is followed by `Update`. -/
def step (event : Event) (tracker : RectTrackerRatio) : Option RectTrackerRatio :=
  match event with
  | .leftDown position =>
      if tracker.disabled then none else some (tracker.onMouseLeftDown position)
  | .motion position isDragging leftIsDown =>
      if tracker.disabled then none
      else some (tracker.onMouseMotion position isDragging leftIsDown)
  | .leftUp => if tracker.disabled then none else some tracker.onMouseLeftUp
  | .key key controlDown shiftDown =>
      if tracker.disabled then none else some (tracker.onKey key controlDown shiftDown)
  | .hide => some tracker.hide
  | .update => some (update tracker)
  | .enable => some tracker.enable
  | .disable => some tracker.disable
  | .setMaxRect maxRect => some (tracker.setMaxRect maxRect)
  | .setRatio ratio => some (update (tracker.setRatio ratio))
  | .setOrientation orientation => some (update (tracker.setOrientation orientation))

/-- `Update` can place the rectangle of the tracker. -/
def UpdateFits (tracker : RectTrackerRatio) : Prop :=
  (tracker.rect = nullRect → tracker.HiddenFits) ∧
    (tracker.rect ≠ nullRect →
      (tracker.maxRect.Sized → tracker.rect.Meets tracker.maxRect) ∧
        tracker.RatioFits tracker.rect .outside)

instance (tracker : RectTrackerRatio) : Decidable tracker.UpdateFits :=
  inferInstanceAs (Decidable ((_ → _) ∧ (_ → (_ → _) ∧ _)))

/-- What a drag asks for fits; a new selection must meet the max rect. -/
def DragFits (tracker : RectTrackerRatio) (position : Point) : Prop :=
  (tracker.hitTest tracker.leftClick = .outside → tracker.maxRect.Sized →
    (tracker.draggedRect position).1.Meets tracker.maxRect) ∧
  (tracker.hitTest tracker.leftClick ≠ .none →
    tracker.RatioFits (tracker.draggedRect position).1 (tracker.draggedRect position).2)

instance (tracker : RectTrackerRatio) (position : Point) :
    Decidable (tracker.DragFits position) :=
  inferInstanceAs (Decidable ((_ → _ → _) ∧ (_ → _)))

/-- What a key asks for when it changes the size has no negative side and fits. -/
def KeyFits (tracker : RectTrackerRatio) (key : Key) (controlDown : Bool) : Prop :=
  (tracker.keyedRect key controlDown true).1.Sized ∧
    tracker.RatioFits (tracker.keyedRect key controlDown true).1
      (tracker.keyedRect key controlDown true).2

instance (tracker : RectTrackerRatio) (key : Key) (controlDown : Bool) :
    Decidable (tracker.KeyFits key controlDown) :=
  inferInstanceAs (Decidable (_ ∧ _))

/-- The events whose rectangles the tracker can fit. -/
def Fitting (event : Event) (tracker : RectTrackerRatio) : Prop :=
  match event with
  | .leftDown position => tracker.hitTest position = .outside → tracker.HiddenFits
  | .motion position isDragging _ =>
      isDragging = true → tracker.dragging = true → tracker.DragFits position
  | .leftUp => tracker.dragging = true → UpdateFits { tracker with rect := tracker.prevRect }
  | .key key controlDown shiftDown =>
      shiftDown = true → key.move 1 ≠ (0, 0) → 0 < tracker.rect.width → 0 < tracker.rect.height →
        tracker.KeyFits key controlDown
  | .hide | .enable => True
  | .update | .disable => tracker.rect = nullRect → tracker.HiddenFits
  | .setMaxRect maxRect => UpdateFits (tracker.withMaxRect maxRect)
  | .setRatio ratio => UpdateFits (tracker.setRatio ratio)
  | .setOrientation orientation => UpdateFits (tracker.setOrientation orientation)

instance (event : Event) (tracker : RectTrackerRatio) : Decidable (Fitting event tracker) :=
  match event with
  | .leftDown _ => inferInstanceAs (Decidable (_ → _))
  | .motion .. => inferInstanceAs (Decidable (_ → _ → _))
  | .leftUp => inferInstanceAs (Decidable (_ → _))
  | .key .. => inferInstanceAs (Decidable (_ → _ → _ → _ → _))
  | .hide | .enable => inferInstanceAs (Decidable True)
  | .update | .disable => inferInstanceAs (Decidable (_ → _))
  | .setMaxRect _ | .setRatio _ | .setOrientation _ => inferInstanceAs (Decidable (UpdateFits _))

/-- What an arrow key asks for and the update after it stay in the range. -/
def KeyInRange (tracker : RectTrackerRatio) (key : Key) (controlDown shiftDown : Bool) : Prop :=
  let keyed := tracker.keyedRect key controlDown shiftDown
  tracker.RangeFits keyed.1 keyed.2 ∧
    UpdateInRange { tracker with rect := tracker.adjustTrackerRect keyed.1 keyed.2 }

instance (tracker : RectTrackerRatio) (key : Key) (controlDown shiftDown : Bool) :
    Decidable (tracker.KeyInRange key controlDown shiftDown) :=
  inferInstanceAs (Decidable (_ ∧ _))

/-- The events for which `AdjustTrackerRect` computes with an `int` what the model computes. -/
def InRange (event : Event) (tracker : RectTrackerRatio) : Prop :=
  match event with
  | .leftDown position => tracker.hitTest position = .outside → UpdateInRange tracker.hide
  | .motion position isDragging _ =>
      isDragging = true → tracker.dragging = true →
        tracker.RangeFits (tracker.draggedRect position).1 (tracker.draggedRect position).2
  | .leftUp => tracker.dragging = true → UpdateInRange { tracker with rect := tracker.prevRect }
  | .key .escape _ _ => tracker.mouseCaptured = true → UpdateInRange tracker
  | .key .other _ _ => True
  | .key key controlDown shiftDown =>
      0 < tracker.rect.width → 0 < tracker.rect.height →
        tracker.KeyInRange key controlDown shiftDown
  | .hide | .enable => True
  | .update | .disable => UpdateInRange tracker
  | .setMaxRect maxRect => UpdateInRange (tracker.withMaxRect maxRect)
  | .setRatio ratio => UpdateInRange (tracker.setRatio ratio)
  | .setOrientation orientation => UpdateInRange (tracker.setOrientation orientation)

instance (event : Event) (tracker : RectTrackerRatio) : Decidable (InRange event tracker) :=
  match event with
  | .leftDown _ => inferInstanceAs (Decidable (_ → _))
  | .motion .. => inferInstanceAs (Decidable (_ → _ → _))
  | .leftUp => inferInstanceAs (Decidable (_ → _))
  | .key .escape _ _ => inferInstanceAs (Decidable (_ → _))
  | .key .other _ _ => inferInstanceAs (Decidable True)
  | .key .left _ _ | .key .up _ _ | .key .right _ _ | .key .down _ _ =>
      inferInstanceAs (Decidable (_ → _ → _))
  | .hide | .enable => inferInstanceAs (Decidable True)
  | .update | .disable => inferInstanceAs (Decidable (UpdateInRange _))
  | .setMaxRect _ | .setRatio _ | .setOrientation _ =>
      inferInstanceAs (Decidable (UpdateInRange _))

/-- The events that the tracker can fit and that leave every distance in the range. -/
def Admitted (event : Event) (tracker : RectTrackerRatio) : Prop :=
  Fitting event tracker ∧ InRange event tracker

instance (event : Event) (tracker : RectTrackerRatio) : Decidable (Admitted event tracker) :=
  inferInstanceAs (Decidable (_ ∧ _))

/-! ## What every step keeps -/

/-- The selection is hidden or placed, and so is what a release may restore. -/
structure Settled (tracker : RectTrackerRatio) : Prop where
  normal : tracker.Normal
  unfixed : tracker.fixedWidth = -1
  remembered : tracker.prevRect = nullRect ∨ tracker.prevRect.Sized
  placed : tracker.rect = nullRect ∨ tracker.Placed tracker.rect

theorem create_settled : create.Settled :=
  ⟨.inl le_rfl, rfl, .inr (by decide), .inl rfl⟩

@[simp] theorem update_rect (tracker : RectTrackerRatio) :
    tracker.update.rect = tracker.adjustTrackerRect tracker.rect .outside := by
  unfold update
  dsimp only
  split_ifs with same
  · rfl
  · exact (not_not.mp same).symm

/-- Where a rectangle may be depends on the max rect and on the ratio alone. -/
theorem Placed.carry (placed : tracker.Placed rect) (maxRect : next.maxRect = tracker.maxRect)
    (ratio : next.ratio = tracker.ratio) (orientation : next.orientation = tracker.orientation) :
    next.Placed rect := by
  refine ⟨placed.sized, fun set => ?_, fun positive => ?_⟩
  · rw [maxRect] at set ⊢
    exact placed.inside set
  · rw [ratio] at positive
    have inRatio := placed.inRatio positive
    unfold InRatio widthFor heightFor at inRatio ⊢
    rw [ratio, orientation]
    exact inRatio

theorem nullRect_unsized : ¬nullRect.Sized := by
  decide

/-- `Update` settles a tracker whose rectangle fits. -/
theorem update_settled (normal : tracker.Normal) (unfixed : tracker.fixedWidth = -1)
    (remembered : tracker.prevRect = nullRect ∨ tracker.prevRect.Sized)
    (sized : tracker.rect = nullRect ∨ tracker.rect.Sized) (fits : tracker.UpdateFits) :
    tracker.update.Settled := by
  refine ⟨normal, unfixed, remembered, ?_⟩
  rw [update_rect]
  rcases sized with hidden | sized
  · left
    rw [hidden]
    exact adjust_hidden normal unfixed (fits.1 hidden)
  · have shown : tracker.rect ≠ nullRect := by
      intro hidden
      exact nullRect_unsized (hidden ▸ sized)
    obtain ⟨meets, ratio⟩ := fits.2 shown
    exact .inr ((adjust_placed normal unfixed (by decide) sized meets ratio).carry rfl rfl rfl)

/-- `Update` keeps a settled tracker settled. -/
theorem Settled.update (settled : tracker.Settled)
    (hidden : tracker.rect = nullRect → tracker.HiddenFits) : tracker.update.Settled := by
  refine ⟨settled.normal, settled.unfixed, settled.remembered, ?_⟩
  rw [update_rect]
  rcases settled.placed with null | placed
  · left
    rw [null]
    exact adjust_hidden settled.normal settled.unfixed (hidden null)
  · right
    rw [adjust_of_placed settled.unfixed placed]
    exact placed.carry rfl rfl rfl

theorem Settled.hide (settled : tracker.Settled) : tracker.hide.Settled :=
  ⟨settled.normal, settled.unfixed, .inl rfl, .inl rfl⟩

theorem setRatio_normal (tracker : RectTrackerRatio) (ratio : ℚ) :
    (tracker.setRatio ratio).Normal := by
  unfold Normal setRatio
  dsimp only
  split_ifs with proper
  · exact .inr ((one_le_div proper.1).mpr proper.2.le)
  · rcases le_or_gt ratio 0 with off | positive
    · exact .inl off
    · exact .inr (not_lt.mp fun below => proper ⟨positive, below⟩)

theorem setOrientation_unfixed (unfixed : tracker.fixedWidth = -1) (orientation : Int) :
    tracker.setOrientation orientation = { tracker with orientation } := by
  simp [setOrientation, unfixed]

theorem hitTest_hidden (hidden : tracker.rect = nullRect) (position : Point) :
    tracker.hitTest position = .outside := by
  unfold hitTest
  rw [hidden]
  refine if_pos ?_
  simp only [nullRect]
  omega

/-! ## Drags -/

theorem correctOrientation_sized (rect : Rect) (hit : Handler) :
    (correctOrientation rect hit).1.Sized := by
  unfold correctOrientation Rect.Sized
  dsimp only
  split_ifs <;> dsimp only at * <;> omega

theorem correctOrientation_of_sized (sized : rect.Sized) (hit : Handler) :
    correctOrientation rect hit = (rect, hit) := by
  simp only [correctOrientation, if_neg (not_lt.mpr sized.1), if_neg (not_lt.mpr sized.2)]

theorem correctOrientation_resizing (rect : Rect) (resizing : hit ≠ .none) :
    (correctOrientation rect hit).2 ≠ .none := by
  unfold correctOrientation
  dsimp only
  split_ifs <;> cases hit <;> simp_all [Handler.flipHorizontal, Handler.flipVertical]

/-- A dragged side leaves the opposite one in place, on whichever side of it it ends. -/
theorem drag_meets {bounds : Rect} (inside : rect.Inside bounds) (shown : hit ≠ .outside)
    (resizing : hit ≠ .none) (dx dy : Int) :
    (correctOrientation (dragSides rect hit dx dy) hit).1.Meets bounds := by
  simp only [Rect.Inside, Span.Within, Span.stop, Rect.horizontal, Rect.vertical] at inside
  cases hit <;>
    simp only [ne_eq, not_true_eq_false] at shown resizing <;>
    simp only [correctOrientation, dragSides, Handler.left, Handler.right, Handler.top,
      Handler.bottom, Rect.Meets, Span.Meets, Span.stop, Rect.horizontal, Rect.vertical,
      if_true, if_false, reduceCtorEq, Bool.false_eq_true] <;>
    split_ifs <;> dsimp only at * <;> omega

/-- A drag of the shown rectangle starts from the handler that was hit. -/
theorem draggedRect_shown (shown : tracker.hitTest tracker.leftClick ≠ .outside)
    (position : Point) :
    tracker.draggedRect position =
      correctOrientation
        (dragSides tracker.rect (tracker.hitTest tracker.leftClick)
          (position.x - tracker.leftClick.x) (position.y - tracker.leftClick.y))
        (tracker.hitTest tracker.leftClick) := by
  simp only [draggedRect, if_pos shown]

/-- What a drag asks for is a rectangle to be placed, or the placed one moved. -/
theorem draggedRect_cases (settled : tracker.Settled) {position : Point}
    (newMeets : tracker.hitTest tracker.leftClick = .outside → tracker.maxRect.Sized →
      (tracker.draggedRect position).1.Meets tracker.maxRect) :
    ((tracker.draggedRect position).2 ≠ .none ∧ (tracker.draggedRect position).1.Sized ∧
        (tracker.maxRect.Sized → (tracker.draggedRect position).1.Meets tracker.maxRect) ∧
        tracker.hitTest tracker.leftClick ≠ .none) ∨
      (tracker.Placed tracker.rect ∧ (tracker.draggedRect position).2 = .none ∧
        (tracker.draggedRect position).1.width = tracker.rect.width ∧
        (tracker.draggedRect position).1.height = tracker.rect.height) := by
  by_cases new : tracker.hitTest tracker.leftClick = .outside
  · -- A new selection grows from the press.
    refine .inl ⟨?_, ?_, newMeets new, by rw [new]; decide⟩
    · simp only [draggedRect, new, ne_eq, not_true_eq_false, if_false]
      exact correctOrientation_resizing _ (by decide)
    · exact correctOrientation_sized _ _
  have placed := settled.placed.resolve_left fun hidden => new (hitTest_hidden hidden _)
  rw [draggedRect_shown new]
  by_cases moving : tracker.hitTest tracker.leftClick = .none
  · -- The selection moves as it is.
    rw [moving, correctOrientation_of_sized
      (show Rect.Sized (dragSides tracker.rect .none _ _) from placed.sized)]
    exact .inr ⟨placed, rfl, rfl, rfl⟩
  · exact .inl ⟨correctOrientation_resizing _ moving, correctOrientation_sized _ _,
      fun set => drag_meets (placed.inside set) new moving _ _, moving⟩

/-- What a drag remembers for the release is placed. -/
theorem drag_placed (settled : tracker.Settled) {position : Point}
    (fits : tracker.DragFits position) :
    tracker.Placed (tracker.adjustTrackerRect (tracker.draggedRect position).1
      (tracker.draggedRect position).2) := by
  rcases draggedRect_cases settled fits.1 with ⟨resizing, sized, meets, hit⟩ |
    ⟨placed, moving, width, height⟩
  · exact adjust_placed settled.normal settled.unfixed resizing sized meets (fits.2 hit)
  · rw [moving]
    exact adjust_moved settled.unfixed placed _ width height

/-! ## Steps -/

theorem Settled.onMouseLeftDown (settled : tracker.Settled) {position : Point}
    (hidden : tracker.hitTest position = .outside → tracker.HiddenFits) :
    (tracker.onMouseLeftDown position).Settled := by
  have pressed : Settled { tracker with dragging := true, leftClick := position } :=
    ⟨settled.normal, settled.unfixed, settled.remembered,
      settled.placed.imp_right fun placed => placed.carry rfl rfl rfl⟩
  unfold RectTrackerRatio.onMouseLeftDown
  dsimp only
  split_ifs with outside
  · have updated := pressed.hide.update fun _ => hidden outside
    exact ⟨updated.normal, updated.unfixed, updated.remembered,
      updated.placed.imp_right fun placed => placed.carry rfl rfl rfl⟩
  · exact ⟨pressed.normal, pressed.unfixed, pressed.remembered,
      pressed.placed.imp_right fun placed => placed.carry rfl rfl rfl⟩

theorem Settled.onMouseMotion (settled : tracker.Settled) {position : Point}
    {isDragging : Bool} (leftIsDown : Bool)
    (fits : isDragging = true → tracker.dragging = true → tracker.DragFits position) :
    (tracker.onMouseMotion position isDragging leftIsDown).Settled := by
  unfold RectTrackerRatio.onMouseMotion
  dsimp only
  split_ifs with disabled dragging
  · exact settled
  · exact ⟨settled.normal, settled.unfixed,
      .inr (drag_placed settled (fits dragging.1 dragging.2)).sized,
      settled.placed.imp_right fun placed => placed.carry rfl rfl rfl⟩
  · exact ⟨settled.normal, settled.unfixed, settled.remembered,
      settled.placed.imp_right fun placed => placed.carry rfl rfl rfl⟩

theorem Settled.onMouseLeftUp (settled : tracker.Settled)
    (fits : tracker.dragging = true → UpdateFits { tracker with rect := tracker.prevRect }) :
    tracker.onMouseLeftUp.Settled := by
  unfold RectTrackerRatio.onMouseLeftUp
  dsimp only
  split_ifs with dragging
  · exact update_settled settled.normal settled.unfixed settled.remembered settled.remembered
      (fits dragging)
  · exact ⟨settled.normal, settled.unfixed, settled.remembered,
      settled.placed.imp_right fun placed => placed.carry rfl rfl rfl⟩

/-- A placed rectangle stays placed under `Update`. -/
theorem update_of_placed (normal : tracker.Normal) (unfixed : tracker.fixedWidth = -1)
    (remembered : tracker.prevRect = nullRect ∨ tracker.prevRect.Sized)
    (placed : tracker.Placed rect) : (update { tracker with rect }).Settled := by
  refine ⟨normal, unfixed, remembered, .inr ?_⟩
  rw [update_rect]
  have kept : { tracker with rect }.adjustTrackerRect rect .outside = rect :=
    adjust_of_placed unfixed (placed.carry rfl rfl rfl)
  rw [kept]
  exact placed.carry rfl rfl rfl

/-- An arrow key moves the placed rectangle or asks for one that fits. -/
theorem keyed_placed (settled : tracker.Settled) (placed : tracker.Placed tracker.rect)
    {key : Key} {controlDown shiftDown : Bool}
    (fits : shiftDown = true → tracker.KeyFits key controlDown) :
    tracker.Placed (tracker.adjustTrackerRect (tracker.keyedRect key controlDown shiftDown).1
      (tracker.keyedRect key controlDown shiftDown).2) := by
  cases shiftDown with
  | false => exact adjust_moved settled.unfixed placed _ rfl rfl
  | true =>
      obtain ⟨sized, ratioFits⟩ := fits rfl
      have resizing : (tracker.keyedRect key controlDown true).2 ≠ .none := by
        simp only [keyedRect, if_true]
        split_ifs <;> simp
      refine adjust_placed settled.normal settled.unfixed resizing sized (fun set => ?_) ratioFits
      -- The start of both spans stays inside the max rect.
      have inside := placed.inside set
      simp only [Rect.Inside, Rect.Meets, Rect.Sized, Span.Within, Span.Meets, Span.stop,
        Rect.horizontal, Rect.vertical, keyedRect, if_true] at inside sized ⊢
      omega

theorem Settled.onKey (settled : tracker.Settled) {key : Key} {controlDown shiftDown : Bool}
    (fits : shiftDown = true → key.move 1 ≠ (0, 0) → 0 < tracker.rect.width →
      0 < tracker.rect.height → tracker.KeyFits key controlDown) :
    (tracker.onKey key controlDown shiftDown).Settled := by
  unfold RectTrackerRatio.onKey
  by_cases skipped : tracker.disabled = true ∨ ¬tracker.isShown = true
  · rw [if_pos skipped]
    exact settled
  by_cases empty : tracker.rect.width ≤ 0 ∨ tracker.rect.height ≤ 0
  · rw [if_neg skipped, if_pos empty]
    exact settled
  rw [if_neg skipped, if_neg empty]
  have shown : tracker.rect ≠ nullRect := by
    simp only [isShown, not_or, decide_eq_true_eq, not_not] at skipped
    exact skipped.2
  have placed := settled.placed.resolve_left shown
  have resized (arrow : key.move 1 ≠ (0, 0)) :
      (RectTrackerRatio.update { tracker with
        rect := tracker.adjustTrackerRect (tracker.keyedRect key controlDown shiftDown).1
          (tracker.keyedRect key controlDown shiftDown).2 }).Settled :=
    update_of_placed settled.normal settled.unfixed settled.remembered
      (keyed_placed settled placed fun shift => fits shift arrow (by omega) (by omega))
  cases key with
  | escape =>
      dsimp only
      split_ifs with captured
      · have released : Settled { tracker with mouseCaptured := false } :=
          ⟨settled.normal, settled.unfixed, settled.remembered, .inr (placed.carry rfl rfl rfl)⟩
        exact released.update fun hidden => absurd hidden shown
      · exact settled.hide
  | other => exact settled
  | left | up | right | down => exact resized (by decide)

/-- Every admitted step keeps the tracker settled. -/
theorem step_settled {event : Event} (fitting : Fitting event tracker)
    (executed : step event tracker = some next) (settled : tracker.Settled) : next.Settled := by
  cases event with
  | leftDown position =>
      obtain ⟨-, done⟩ := Option.ite_none_left_eq_some.mp executed
      cases done
      exact settled.onMouseLeftDown fitting
  | motion position isDragging leftIsDown =>
      obtain ⟨-, done⟩ := Option.ite_none_left_eq_some.mp executed
      cases done
      exact settled.onMouseMotion leftIsDown fitting
  | leftUp =>
      obtain ⟨-, done⟩ := Option.ite_none_left_eq_some.mp executed
      cases done
      exact settled.onMouseLeftUp fitting
  | key key controlDown shiftDown =>
      obtain ⟨-, done⟩ := Option.ite_none_left_eq_some.mp executed
      cases done
      exact settled.onKey fitting
  | hide =>
      cases executed
      exact settled.hide
  | update =>
      cases executed
      exact settled.update fitting
  | enable =>
      cases executed
      exact ⟨settled.normal, settled.unfixed, settled.remembered,
        settled.placed.imp_right fun placed => placed.carry rfl rfl rfl⟩
  | disable =>
      cases executed
      have released : Settled { tracker with mouseCaptured := false } :=
        ⟨settled.normal, settled.unfixed, settled.remembered,
          settled.placed.imp_right fun placed => placed.carry rfl rfl rfl⟩
      have updated := released.update fitting
      exact ⟨updated.normal, updated.unfixed, updated.remembered,
        updated.placed.imp_right fun placed => placed.carry rfl rfl rfl⟩
  | setMaxRect maxRect =>
      cases executed
      exact update_settled settled.normal settled.unfixed settled.remembered
        (settled.placed.imp_right Placed.sized) fitting
  | setRatio ratio =>
      cases executed
      exact update_settled (setRatio_normal tracker ratio) rfl settled.remembered
        (settled.placed.imp_right Placed.sized) fitting
  | setOrientation orientation =>
      cases executed
      have same := setOrientation_unfixed settled.unfixed orientation
      simp only [Fitting] at fitting
      rw [same] at fitting ⊢
      exact update_settled settled.normal settled.unfixed settled.remembered
        (settled.placed.imp_right Placed.sized) fitting

/-- In every admitted run the selection is hidden or inside the max rect, once that is set. -/
theorem selection_inside {last : RectTrackerRatio} (run : Run step Admitted create last)
    (set : last.maxRect.Sized) : last.rect = nullRect ∨ last.rect.Inside last.maxRect := by
  have settled : last.Settled :=
    run.invariant (fun admitted => step_settled admitted.1) create_settled
  exact settled.placed.imp_right fun placed => placed.inside set

/-- Frame a part of an image, give it a ratio, shrink it and drag one corner over the other. -/
def framing : List Event :=
  [.setMaxRect ⟨0, 0, 100, 80⟩, .setRatio (3 / 2), .leftDown ⟨10, 10⟩,
    .motion ⟨120, 60⟩ true true, .leftUp, .key .left true true, .setOrientation (-1),
    .leftDown ⟨30, 30⟩, .motion ⟨10, 90⟩ true true, .leftUp]

/-- The state `framing` ends in. -/
def framed : RectTrackerRatio :=
  { create with
    rect := ⟨0, 30, 30, 45⟩
    maxRect := ⟨0, 0, 100, 80⟩
    prevRect := ⟨0, 30, 30, 45⟩
    curRect := ⟨0, 30, 30, 45⟩
    ratio := 3 / 2
    orientation := -1 }

theorem framed_selection_inside :
    framed.rect = nullRect ∨ framed.rect.Inside framed.maxRect :=
  selection_inside
    (Run.ofChecked (show checkedRun step Admitted framing create = some framed by decide +kernel))
    (by decide)

/-- Press and drag beside the image. -/
def besideImage : List Event :=
  [.setMaxRect ⟨0, 0, 10, 10⟩, .leftDown ⟨20, 20⟩, .motion ⟨25, 25⟩ true true, .leftUp]

/-- A drag beside the image selects a rectangle with negative sides there. -/
theorem selection_beside_image :
    ∃ last, Run step (fun _ _ => True) create last ∧ last.maxRect.Sized ∧
      ¬(last.rect = nullRect ∨ last.rect.Inside last.maxRect) := by
  refine ⟨{ create with
      rect := ⟨20, 20, -10, -10⟩
      maxRect := ⟨0, 0, 10, 10⟩
      prevRect := ⟨20, 20, -10, -10⟩
      curRect := ⟨20, 20, -10, -10⟩ }, Run.ofChecked (?_ : checkedRun step _ besideImage _ = _),
    by decide, by decide⟩
  decide +kernel

/-- A ratio for the whole of a square image selects a rectangle with a marked side. -/
example : (runEvents step [.setMaxRect ⟨0, 0, 10, 10⟩, .leftDown ⟨0, 0⟩,
    .motion ⟨9, 9⟩ true true, .leftUp, .setRatio (23 / 20)] create).map (·.rect) =
      some ⟨0, -1, 10, -12000⟩ := by
  decide +kernel

end RectTrackerRatio

end RPhoto.Tracker
