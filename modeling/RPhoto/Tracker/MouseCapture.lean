import RPhoto.Library.Holding
import RPhoto.Tracker.LineMouse

/-!
# The capture of the mouse

The handlers of `wxRectTracker` and `wxLineTracker` with their calls of
`CaptureMouse` and `ReleaseMouse`.  The bit of the capture is toggled at every
release; a release is made only where the bit is set and a capture only where it
is not, so that the calls are those the changes of the bit ask for.
-/

namespace RPhoto.Tracker

open RPhoto.Library
open RectTrackerRatio (Key)

/-- `m_wnd->CaptureMouse()`. -/
def captureMouse : Use := .take

/-- `m_wnd->ReleaseMouse()`. -/
def releaseMouse : Use := .giveBack

/-! ## The rectangle tracker -/

namespace RectTracker

/-- `RT_STATE_MOUSE_CAPTURED` is set. -/
def captured (tracker : RectTracker) : Bool := tracker.state.mouseCaptured

/-- `m_state ^= RT_STATE_MOUSE_CAPTURED`. -/
def toggleCaptured (tracker : RectTracker) : RectTracker :=
  { tracker with state := { tracker.state with mouseCaptured := !tracker.state.mouseCaptured } }

/-- Release the mouse and toggle the bit. -/
def release (watched : Watched RectTracker) : Watched RectTracker where
  state := watched.state.toggleCaptured
  uses := watched.uses ++ [releaseMouse]

/-- Release the mouse when the bit is set. -/
def releaseCaptured (watched : Watched RectTracker) : Watched RectTracker :=
  if watched.state.captured then release watched else watched

/-- Capture the mouse when the bit is not set. -/
def captureFree (watched : Watched RectTracker) : Watched RectTracker :=
  if ¬watched.state.captured then
    { state :=
        { watched.state with state := { watched.state.state with mouseCaptured := true } }
      uses := watched.uses ++ [captureMouse] }
  else watched

/-- `OnKey`. -/
def watchedKey (watched : Watched RectTracker) (key : Key) (controlDown shiftDown : Bool) :
    Watched RectTracker :=
  if watched.state.state.disabled ∨ ¬watched.state.isShown then watched
  else if watched.state.rect.width ≤ 0 ∨ watched.state.rect.height ≤ 0 then watched
  else
    match key with
    | .escape =>
        if watched.state.captured then (release watched).change update
        else watched.change hide
    | .other => watched
    | key =>
        watched.change fun tracker =>
          let (tmpRect, handler) := tracker.keyedRect key controlDown shiftDown
          update (tracker.setUnscrolledRect (tracker.adjustTrackerRect tmpRect handler))

/-- The branch of `OnMouseMotion` for a drag. -/
def dragTo (tracker : RectTracker) (position : Point) : RectTracker :=
  let (curRect, hit) := tracker.draggedRect position
  let curRect := tracker.adjustTrackerRect curRect hit
  { tracker with
    state := { tracker.state with firstDrag := true }
    curRect
    prevRect := curRect }

/-- `OnMouseMotion`. -/
def watchedMotion (watched : Watched RectTracker) (position : Point)
    (isDragging leftIsDown : Bool) : Watched RectTracker :=
  if watched.state.state.disabled then watched
  else
    let watched :=
      if isDragging ∧ watched.state.state.dragging then
        watched.change fun tracker => tracker.dragTo position
      else watched
    if ¬leftIsDown ∧ watched.state.captured then release watched else watched

/-- `OnMouseLeftDown`. -/
def watchedLeftDown (watched : Watched RectTracker) (position : Point) : Watched RectTracker :=
  let watched := watched.change fun tracker =>
    { tracker with state := { tracker.state with dragging := true }, leftClick := position }
  let watched :=
    if watched.state.hitTest position = .outside then (watched.change hide).change update
    else watched
  captureFree watched

/-- `OnMouseLeftUp`. -/
def watchedLeftUp (watched : Watched RectTracker) : Watched RectTracker :=
  let watched := releaseCaptured watched
  if watched.state.state.dragging then
    watched.change fun tracker =>
      let tracker := tracker.setUnscrolledRect tracker.prevRect
      update
        { tracker with
          state :=
            { tracker.state with dragging := false, firstDrag := !tracker.state.firstDrag }
          leftClick := ⟨0, 0⟩ }
  else watched

/-- `Disable`. -/
def watchedDisable (watched : Watched RectTracker) : Watched RectTracker :=
  ((releaseCaptured watched).change update).change fun tracker =>
    { tracker with state := { tracker.state with disabled := true } }

/-- The tracker and its calls after an event or a call. -/
def watchedStep (event : Event) (watched : Watched RectTracker) : Option (Watched RectTracker) :=
  match event with
  | .leftDown position =>
      if watched.state.state.disabled then none else some (watchedLeftDown watched position)
  | .motion position isDragging leftIsDown =>
      if watched.state.state.disabled then none
      else some (watchedMotion watched position isDragging leftIsDown)
  | .leftUp => if watched.state.state.disabled then none else some (watchedLeftUp watched)
  | .key key controlDown shiftDown =>
      if watched.state.state.disabled then none
      else some (watchedKey watched key controlDown shiftDown)
  | .setTrackerRect rect => some (watched.change fun tracker => tracker.setTrackerRect rect)
  | .setUnscrolledRect rect => some (watched.change fun tracker => tracker.setUnscrolledRect rect)
  | .update => some (watched.change update)
  | .hide => some (watched.change hide)
  | .enable => some (watched.change enable)
  | .disable => some (watchedDisable watched)
  | .setMaxRect maxRect => some (watched.change fun tracker => tracker.setMaxRect maxRect)
  | .setHandlesWidth handlesWidth =>
      some (watched.change fun tracker => tracker.setHandlesWidth handlesWidth)

/-! ## What the handlers call -/

/-- The tracker with a given bit. -/
def withCaptured (tracker : RectTracker) (mouseCaptured : Bool) : RectTracker :=
  { tracker with state := { tracker.state with mouseCaptured } }

variable {watched : Watched RectTracker}

@[simp] theorem captured_withCaptured (tracker : RectTracker) (mouseCaptured : Bool) :
    (tracker.withCaptured mouseCaptured).captured = mouseCaptured := rfl

@[simp] theorem captured_update (tracker : RectTracker) :
    tracker.update.captured = tracker.captured := by
  rw [update_eq]
  rfl

theorem withCaptured_self {tracker : RectTracker} {mouseCaptured : Bool}
    (bit : tracker.captured = mouseCaptured) : tracker.withCaptured mouseCaptured = tracker := by
  subst bit
  rfl

theorem release_eq (set : watched.state.captured = true) :
    release watched = watched.follow captured (watched.state.withCaptured false) := by
  have bit : watched.state.state.mouseCaptured = true := set
  unfold release Watched.follow toggleCaptured
  rw [set, bit]
  rfl

/-- Releasing a mouse that may be captured leaves it free. -/
theorem releaseCaptured_eq (watched : Watched RectTracker) :
    releaseCaptured watched = watched.follow captured (watched.state.withCaptured false) := by
  unfold releaseCaptured
  split
  · rename_i set
    exact release_eq set
  · rename_i unset
    rw [withCaptured_self (Bool.eq_false_iff.mpr unset), Watched.follow_self]

/-- Capturing a mouse that may be captured leaves it captured. -/
theorem captureFree_eq (watched : Watched RectTracker) :
    captureFree watched = watched.follow captured (watched.state.withCaptured true) := by
  unfold captureFree
  split
  · rename_i unset
    unfold Watched.follow
    rw [Bool.eq_false_iff.mpr unset]
    rfl
  · rename_i set
    rw [withCaptured_self (not_not.mp set), Watched.follow_self]

theorem watchedKey_eq (watched : Watched RectTracker) (key : Key)
    (controlDown shiftDown : Bool) :
    watchedKey watched key controlDown shiftDown =
      watched.follow captured (watched.state.onKey key controlDown shiftDown) := by
  unfold watchedKey onKey
  by_cases off : watched.state.state.disabled = true ∨ ¬watched.state.isShown = true
  · rw [if_pos off, if_pos off, Watched.follow_self]
  by_cases empty : watched.state.rect.width ≤ 0 ∨ watched.state.rect.height ≤ 0
  · rw [if_neg off, if_pos empty, if_neg off, if_pos empty, Watched.follow_self]
  rw [if_neg off, if_neg empty, if_neg off, if_neg empty]
  cases key with
  | escape =>
      by_cases set : watched.state.captured = true
      · refine (if_pos set).trans ?_
        rw [release_eq set, Watched.follow_change (captured_update _)]
        exact congrArg (watched.follow captured) (if_pos set).symm
      · refine (if_neg set).trans ?_
        rw [@Watched.change_eq_follow _ captured watched hide rfl]
        exact congrArg (watched.follow captured) (if_neg set).symm
  | other => exact (Watched.follow_self watched).symm
  | left | up | right | down => exact Watched.change_eq_follow (captured_update _)

/-- The end of a motion releases a mouse whose button is not down. -/
theorem motionEnd_eq (watched : Watched RectTracker) (leftIsDown : Bool) :
    (if ¬leftIsDown ∧ watched.state.captured then release watched else watched) =
      watched.follow captured
        (watched.state.withCaptured (watched.state.captured ∧ leftIsDown)) := by
  split
  · rename_i abuse
    rw [release_eq abuse.2]
    simp [abuse.1]
  · rename_i fine
    have bit : watched.state.captured = decide (watched.state.captured ∧ leftIsDown) := by
      cases set : watched.state.captured <;> cases leftIsDown <;> simp_all
    rw [withCaptured_self bit, Watched.follow_self]

theorem watchedMotion_eq (watched : Watched RectTracker) (position : Point)
    (isDragging leftIsDown : Bool) :
    watchedMotion watched position isDragging leftIsDown =
      watched.follow captured (watched.state.onMouseMotion position isDragging leftIsDown) := by
  unfold watchedMotion onMouseMotion
  by_cases off : watched.state.state.disabled = true
  · rw [if_pos off, if_pos off, Watched.follow_self]
  rw [if_neg off, if_neg off]
  dsimp only
  rw [motionEnd_eq]
  by_cases drag : isDragging = true ∧ watched.state.state.dragging = true
  · simp only [if_pos drag]
    exact @Watched.change_follow _ captured watched (fun tracker => tracker.dragTo position) rfl _
  · simp only [if_neg drag]
    rfl

theorem watchedLeftDown_eq (watched : Watched RectTracker) (position : Point) :
    watchedLeftDown watched position =
      watched.follow captured (watched.state.onMouseLeftDown position) := by
  unfold watchedLeftDown onMouseLeftDown
  dsimp only
  rw [captureFree_eq]
  split_ifs with first second second
  · rw [Watched.change_follow (captured_update _)]
    exact @Watched.change_follow _ captured watched _ rfl _
  · exact absurd first second
  · exact absurd second first
  · exact @Watched.change_follow _ captured watched _ rfl _

theorem watchedLeftUp_eq (watched : Watched RectTracker) :
    watchedLeftUp watched = watched.follow captured watched.state.onMouseLeftUp := by
  unfold watchedLeftUp onMouseLeftUp
  rw [releaseCaptured_eq]
  refine (if_congr Iff.rfl (Watched.follow_change (captured_update _)) rfl).trans ?_
  exact (apply_ite (watched.follow captured) _ _ _).symm

theorem watchedDisable_eq (watched : Watched RectTracker) :
    watchedDisable watched = watched.follow captured watched.state.disable := by
  unfold watchedDisable
  rw [releaseCaptured_eq, Watched.follow_change (captured_update _), Watched.follow_change rfl]
  rfl

/-- A step makes the calls that the change of the bit asks for. -/
theorem watchedStep_eq (event : Event) (watched : Watched RectTracker) :
    watchedStep event watched =
      (step event watched.state).map (watched.follow captured) := by
  cases event with
  | leftDown position => exact Watched.follow_guarded (watchedLeftDown_eq watched position)
  | motion position isDragging leftIsDown =>
      exact Watched.follow_guarded (watchedMotion_eq watched position isDragging leftIsDown)
  | leftUp => exact Watched.follow_guarded (watchedLeftUp_eq watched)
  | key key controlDown shiftDown =>
      exact Watched.follow_guarded (watchedKey_eq watched key controlDown shiftDown)
  | disable => exact congrArg some (watchedDisable_eq watched)
  | setTrackerRect rect | setUnscrolledRect rect | hide | enable =>
      exact congrArg some (Watched.change_eq_follow rfl)
  | update | setMaxRect maxRect | setHandlesWidth handlesWidth =>
      exact congrArg some (Watched.change_eq_follow (captured_update _))

/-- The events after which the mouse is free. -/
def Event.LeavesFree : Event → Prop
  | .leftUp | .disable => True
  | .motion _ _ leftIsDown => leftIsDown = false
  | _ => False

theorem captured_leftUp (tracker : RectTracker) : tracker.onMouseLeftUp.captured = false := by
  unfold onMouseLeftUp
  dsimp only
  split
  · exact captured_update _
  · rfl

theorem captured_disable (tracker : RectTracker) : tracker.disable.captured = false :=
  captured_update (tracker.withCaptured false)

/-- A motion without the left button leaves the mouse of an enabled tracker free. -/
theorem captured_motion {tracker : RectTracker} (enabled : ¬tracker.state.disabled = true)
    (position : Point) (isDragging : Bool) :
    (tracker.onMouseMotion position isDragging false).captured = false := by
  unfold onMouseMotion
  rw [if_neg enabled]
  exact decide_eq_false fun both => Bool.false_ne_true both.2

theorem free_after {event : Event} {before after : RectTracker} (leaves : event.LeavesFree)
    (executed : step event before = some after) : after.captured = false := by
  cases event with
  | leftUp =>
      obtain ⟨_, up⟩ := Option.ite_none_left_eq_some.mp executed
      cases up
      exact captured_leftUp before
  | disable =>
      cases executed
      exact captured_disable before
  | motion position isDragging leftIsDown =>
      obtain ⟨enabled, moved⟩ := Option.ite_none_left_eq_some.mp executed
      cases moved
      cases leaves
      exact captured_motion enabled position isDragging
  | _ => cases leaves

end RectTracker

/-! ## The line tracker -/

namespace WxLineTracker

/-- `RT_STATE_MOUSE_CAPTURED` is set. -/
def captured (tracker : WxLineTracker) : Bool := tracker.toRectTracker.captured

/-- The part of the base class, with the calls. -/
def basePart (watched : Watched WxLineTracker) : Watched RectTracker where
  state := watched.state.toRectTracker
  uses := watched.uses

/-- A method that the line tracker inherits, with its calls. -/
def lifted (watched : Watched WxLineTracker)
    (method : Watched RectTracker → Watched RectTracker) : Watched WxLineTracker :=
  let base := method (basePart watched)
  { state := { watched.state with toRectTracker := base.state }, uses := base.uses }

/-- `OnKey`, whose `Update` only repaints. -/
def watchedKey (watched : Watched WxLineTracker) (key : Key) (controlDown shiftDown : Bool) :
    Watched WxLineTracker :=
  if watched.state.state.disabled then watched
  else
    match key with
    | .escape =>
        if watched.state.captured then lifted watched RectTracker.release
        else watched.change fun tracker => tracker.inherited .hide
    | .other => watched
    | key =>
        watched.change fun tracker =>
          (tracker.workWith (tracker.keyedPoints key controlDown shiftDown)).commit

/-- `OnMouseMotion`. -/
def watchedMotion (watched : Watched WxLineTracker) (position : Point)
    (isDragging leftIsDown : Bool) : Watched WxLineTracker :=
  if watched.state.state.disabled then watched
  else
    let watched :=
      if isDragging ∧ leftIsDown then watched.change fun tracker => tracker.dragTo position
      else watched
    if ¬leftIsDown ∧ watched.state.captured then lifted watched RectTracker.release else watched

/-- `OnMouseLeftDown`. -/
def watchedLeftDown (watched : Watched WxLineTracker) (position : Point) :
    Watched WxLineTracker :=
  let watched := lifted watched fun base => RectTracker.watchedLeftDown base position
  if watched.state.hitTest watched.state.leftClick = .none then
    watched.change fun tracker =>
      commit { tracker with curBegin := tracker.leftClick, curEnd := tracker.leftClick }
  else watched

/-- `OnMouseLeftUp`. -/
def watchedLeftUp (watched : Watched WxLineTracker) : Watched WxLineTracker :=
  let watched := lifted watched RectTracker.releaseCaptured
  if watched.state.state.dragging then
    watched.change fun tracker =>
      let tracker := tracker.commit
      { tracker with state := { tracker.state with dragging := false } }
  else watched

/-- What happens to a line tracker, with the calls of its `Update`. -/
inductive Call where
  | event (event : Event)
  | update
deriving DecidableEq, Repr

/-- `Update` only repaints the window. -/
def stepCall (call : Call) (tracker : WxLineTracker) : Option WxLineTracker :=
  match call with
  | .event event => step event tracker
  | .update => some tracker

/-- The tracker and its calls after an event or a call. -/
def watchedStep (call : Call) (watched : Watched WxLineTracker) :
    Option (Watched WxLineTracker) :=
  match call with
  | .event (.leftDown position) =>
      if watched.state.state.disabled then none else some (watchedLeftDown watched position)
  | .event (.motion position isDragging leftIsDown) =>
      if watched.state.state.disabled then none
      else some (watchedMotion watched position isDragging leftIsDown)
  | .event .leftUp =>
      if watched.state.state.disabled then none else some (watchedLeftUp watched)
  | .event (.key key controlDown shiftDown) =>
      if watched.state.state.disabled then none
      else some (watchedKey watched key controlDown shiftDown)
  | .event (.setTrackerPosition first last) =>
      some (watched.change fun tracker => tracker.setTrackerPosition first last)
  | .event (.setTrackerRect rect) =>
      some (watched.change fun tracker => tracker.inherited fun base => base.setTrackerRect rect)
  | .event (.setUnscrolledRect rect) =>
      some (watched.change fun tracker => tracker.inherited fun base =>
        base.setUnscrolledRect rect)
  | .event .hide => some (watched.change fun tracker => tracker.inherited .hide)
  | .event .enable => some (watched.change fun tracker => tracker.inherited .enable)
  | .event .disable => some (lifted watched RectTracker.watchedDisable)
  | .event (.setMaxRect maxRect) =>
      some (watched.change fun tracker => tracker.inherited fun base => base.setMaxRect maxRect)
  | .event (.setHandlesWidth handlesWidth) =>
      some (watched.change fun tracker => tracker.inherited fun base =>
        base.setHandlesWidth handlesWidth)
  | .update => some watched

/-! ## What its handlers call -/

/-- What an inherited method calls is what the base class calls. -/
theorem lifted_eq (watched : Watched WxLineTracker)
    {method : Watched RectTracker → Watched RectTracker} (plain : RectTracker → RectTracker)
    (same : method (basePart watched) =
      (basePart watched).follow RectTracker.captured (plain watched.state.toRectTracker)) :
    lifted watched method = watched.follow captured (watched.state.inherited plain) := by
  unfold lifted
  rw [same]
  rfl

theorem watchedKey_eq (watched : Watched WxLineTracker) (key : Key)
    (controlDown shiftDown : Bool) :
    watchedKey watched key controlDown shiftDown =
      watched.follow captured (watched.state.onKey key controlDown shiftDown) := by
  unfold watchedKey onKey
  by_cases off : watched.state.state.disabled = true
  · rw [if_pos off, if_pos off, Watched.follow_self]
  rw [if_neg off, if_neg off]
  cases key with
  | escape =>
      by_cases set : watched.state.captured = true
      · have released := lifted_eq watched (fun base => base.withCaptured false)
          (RectTracker.release_eq set)
        refine (if_pos set).trans (released.trans ?_)
        exact congrArg (watched.follow captured) (if_pos set).symm
      · have hidden := @Watched.change_eq_follow _ captured watched
          (fun tracker => tracker.inherited .hide) rfl
        refine (if_neg set).trans (hidden.trans ?_)
        exact congrArg (watched.follow captured) (if_neg set).symm
  | other => exact (Watched.follow_self watched).symm
  | left | up | right | down => exact Watched.change_eq_follow rfl

theorem motionEnd_eq (watched : Watched WxLineTracker) (leftIsDown : Bool) :
    (if ¬leftIsDown ∧ watched.state.captured then lifted watched RectTracker.release
      else watched) =
      watched.follow captured
        (watched.state.inherited fun base => base.withCaptured (base.captured ∧ leftIsDown)) := by
  rw [← lifted_eq watched (fun base => base.withCaptured (base.captured ∧ leftIsDown))
    (RectTracker.motionEnd_eq (basePart watched) leftIsDown)]
  unfold lifted
  dsimp only
  split_ifs with first second second
  · rfl
  · exact absurd first second
  · exact absurd second first
  · rfl

theorem watchedMotion_eq (watched : Watched WxLineTracker) (position : Point)
    (isDragging leftIsDown : Bool) :
    watchedMotion watched position isDragging leftIsDown =
      watched.follow captured (watched.state.onMouseMotion position isDragging leftIsDown) := by
  have dragged : (watched.state.dragTo position).captured = watched.state.captured := by
    unfold dragTo beginDrag
    split <;> rfl
  unfold watchedMotion onMouseMotion
  by_cases off : watched.state.state.disabled = true
  · rw [if_pos off, if_pos off, Watched.follow_self]
  rw [if_neg off, if_neg off]
  dsimp only
  rw [motionEnd_eq]
  by_cases drag : isDragging = true ∧ leftIsDown = true
  · simp only [if_pos drag]
    exact @Watched.change_follow _ captured watched (fun tracker => tracker.dragTo position)
      dragged _
  · simp only [if_neg drag]
    rfl

theorem watchedLeftDown_eq (watched : Watched WxLineTracker) (position : Point) :
    watchedLeftDown watched position =
      watched.follow captured (watched.state.onMouseLeftDown position) := by
  unfold watchedLeftDown onMouseLeftDown
  rw [lifted_eq watched (fun base => base.onMouseLeftDown position)
    (RectTracker.watchedLeftDown_eq (basePart watched) position)]
  refine (if_congr Iff.rfl (Watched.follow_change rfl) rfl).trans ?_
  exact (apply_ite (watched.follow captured) _ _ _).symm

theorem watchedLeftUp_eq (watched : Watched WxLineTracker) :
    watchedLeftUp watched = watched.follow captured watched.state.onMouseLeftUp := by
  unfold watchedLeftUp onMouseLeftUp
  rw [lifted_eq watched (fun base => base.withCaptured false)
    (RectTracker.releaseCaptured_eq (basePart watched))]
  refine (if_congr Iff.rfl (Watched.follow_change rfl) rfl).trans ?_
  exact (apply_ite (watched.follow captured) _ _ _).symm

/-- A step makes the calls that the change of the bit asks for. -/
theorem watchedStep_eq (call : Call) (watched : Watched WxLineTracker) :
    watchedStep call watched =
      (stepCall call watched.state).map (watched.follow captured) := by
  have clipped {method : RectTracker → RectTracker}
      (kept : (method watched.state.toRectTracker).captured = watched.state.captured) :
      some (watched.change fun tracker => tracker.inherited method) =
        some (watched.follow captured (watched.state.inherited method)) :=
    congrArg some (@Watched.change_eq_follow _ captured watched
      (fun tracker => tracker.inherited method) kept)
  cases call with
  | update => exact congrArg some (Watched.follow_self watched).symm
  | event event =>
      cases event with
      | leftDown position => exact Watched.follow_guarded (watchedLeftDown_eq watched position)
      | motion position isDragging leftIsDown =>
          exact Watched.follow_guarded (watchedMotion_eq watched position isDragging leftIsDown)
      | leftUp => exact Watched.follow_guarded (watchedLeftUp_eq watched)
      | key key controlDown shiftDown =>
          exact Watched.follow_guarded (watchedKey_eq watched key controlDown shiftDown)
      | disable =>
          exact congrArg some (lifted_eq watched .disable
            (RectTracker.watchedDisable_eq (basePart watched)))
      | setTrackerPosition first last => exact congrArg some (Watched.change_eq_follow rfl)
      | setTrackerRect rect | setUnscrolledRect rect | hide | enable => exact clipped rfl
      | setMaxRect maxRect | setHandlesWidth handlesWidth =>
          exact clipped (RectTracker.captured_update _)

/-- The calls after which the mouse is free. -/
def Call.LeavesFree : Call → Prop
  | .event .leftUp | .event .disable => True
  | .event (.motion _ _ leftIsDown) => leftIsDown = false
  | _ => False

theorem captured_leftUp (tracker : WxLineTracker) : tracker.onMouseLeftUp.captured = false := by
  unfold onMouseLeftUp
  dsimp only
  split <;> rfl

/-- A motion without the left button leaves the mouse of an enabled tracker free. -/
theorem captured_motion {tracker : WxLineTracker} (enabled : ¬tracker.state.disabled = true)
    (position : Point) (isDragging : Bool) :
    (tracker.onMouseMotion position isDragging false).captured = false := by
  unfold onMouseMotion
  rw [if_neg enabled]
  exact decide_eq_false fun both => Bool.false_ne_true both.2

theorem free_after {call : Call} {before after : WxLineTracker} (leaves : call.LeavesFree)
    (executed : stepCall call before = some after) : after.captured = false := by
  cases call with
  | update => cases leaves
  | event event =>
      cases event with
      | leftUp =>
          obtain ⟨_, up⟩ := Option.ite_none_left_eq_some.mp executed
          cases up
          exact captured_leftUp before
      | disable =>
          cases executed
          exact RectTracker.captured_disable before.toRectTracker
      | motion position isDragging leftIsDown =>
          obtain ⟨enabled, moved⟩ := Option.ite_none_left_eq_some.mp executed
          cases moved
          cases leaves
          exact captured_motion enabled position isDragging
      | _ => cases leaves

end WxLineTracker

/-- Both trackers capture and release the mouse in turn, and the bit of the capture tells whether
the mouse is captured. -/
theorem mouse_capture_disciplined :
    Watched.Disciplined RectTracker.captured RectTracker.watchedStep
        RectTracker.Event.LeavesFree ∧
      Watched.Disciplined WxLineTracker.captured WxLineTracker.watchedStep
        WxLineTracker.Call.LeavesFree :=
  ⟨Watched.disciplined_of_follows RectTracker.watchedStep_eq RectTracker.free_after,
    Watched.disciplined_of_follows WxLineTracker.watchedStep_eq WxLineTracker.free_after⟩

/-- A press, Escape, a press and the end of the selection. -/
example :
    (runEvents RectTracker.watchedStep
      [.setTrackerRect ⟨10, 10, 40, 30⟩, .leftDown ⟨20, 20⟩, .key .escape false false,
        .leftDown ⟨20, 20⟩, .disable, .hide]
      ⟨RectTracker.create, []⟩).map (fun watched => watched.uses) =
        some [captureMouse, releaseMouse, captureMouse, releaseMouse] := by
  decide

end RPhoto.Tracker
