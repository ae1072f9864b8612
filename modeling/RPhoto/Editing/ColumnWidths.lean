import RPhoto.Library.Run
import RPhoto.Library.Shares
import Mathlib.Algebra.Order.BigOperators.Group.List

/-!
# The widths of the columns

`wxListCtrlResize` of `src/lib/wxmisc` shares the width of its window among its
columns in the proportion of their last widths, and takes what the user adds to a
column from the next one.  Nothing keeps the widths from reaching a sum of zero,
by which the next size event divides, nor the width of the scroll bar from
exceeding that of the window, nor a column from taking more than the next one has.
The width of a column is the one that was set last, and `int` is unbounded.
-/

namespace RPhoto.Editing

open RPhoto.Library

/-- The columns of `wxListCtrlResize` and its member. -/
structure ListCtrlResize where
  widths : List Int
  lastWidth : Int
deriving DecidableEq, Repr

/-- The division of the size event; a divisor of zero has no result. -/
def divide (dividend divisor : Int) : Option Int :=
  if divisor = 0 then none else some (dividend.tdiv divisor)

namespace ListCtrlResize

def getColumnWidth (list : ListCtrlResize) (column : Nat) : Int := list.widths.getD column 0

def setColumnWidth (list : ListCtrlResize) (column : Nat) (width : Int) : ListCtrlResize :=
  { list with widths := list.widths.set column width }

/-- `lcib`: the width of the window without the scroll bar. -/
def lcib (vscroll : Int) (width : Nat) (countPerPage itemCount : Int) : Int :=
  if countPerPage < itemCount then width - vscroll else width

/-- `OnSize`. -/
def onSize (list : ListCtrlResize) (lcib : Int) : Option ListCtrlResize := do
  let ltot := list.widths.sum
  let widths ← list.widths.mapM fun width => divide (width * lcib) ltot
  pure { list with widths }

def onListBeginResize (list : ListCtrlResize) (column : Nat) : ListCtrlResize :=
  { list with lastWidth := list.getColumnWidth column }

def onListEndResize (list : ListCtrlResize) (column : Nat) : ListCtrlResize :=
  if (column : Int) < (list.widths.length : Int) - 1 then
    list.setColumnWidth (column + 1)
      (list.getColumnWidth (column + 1) - (list.getColumnWidth column - list.lastWidth))
  else list

/-- What happens to the list: it gets a size, or the user drags a column to a width. -/
inductive Event where
  | size (width : Nat) (countPerPage itemCount : Int)
  | drag (column width : Nat)
deriving DecidableEq, Repr

/-- Between the two events of a drag the control itself gives the column its width. -/
def drag (list : ListCtrlResize) (column width : Nat) : ListCtrlResize :=
  ((list.onListBeginResize column).setColumnWidth column width).onListEndResize column

/--
A division by zero has no next state.  The products of the size event fit into an `int` while
the window and the columns are at most 46340 pixels wide.
-/
def step (vscroll : Int) (event : Event) (list : ListCtrlResize) : Option ListCtrlResize :=
  match event with
  | .size width countPerPage itemCount =>
      list.onSize (lcib vscroll width countPerPage itemCount)
  | .drag column width => some (list.drag column width)

/-! ## What is asked of the widths -/

/-- No width is negative. -/
def NonNegative (list : ListCtrlResize) : Prop := ∀ width ∈ list.widths, 0 ≤ width

instance (list : ListCtrlResize) : Decidable list.NonNegative :=
  inferInstanceAs (Decidable (∀ width ∈ list.widths, 0 ≤ width))

/-- The widths make up the available one, up to less than one unit a column. -/
def Fills (list : ListCtrlResize) (lcib : Int) : Prop :=
  list.widths.sum ≤ lcib ∧ lcib - list.widths.length < list.widths.sum

/-- An event does what it is for: it does not divide by zero, it leaves no negative width, and
after a size event the widths make up the available one. -/
def Succeeds (vscroll : Int) (event : Event) (list : ListCtrlResize) : Prop :=
  ∃ after, step vscroll event list = some after ∧ after.NonNegative ∧
    match event with
    | .size width countPerPage itemCount =>
        after.Fills (lcib vscroll width countPerPage itemCount)
    | .drag _ _ => True

/-- The columns have a width to share, the scroll bar is not wider than the window, and a column
takes from the next one what that has. -/
def Shareable (vscroll : Int) (event : Event) (list : ListCtrlResize) : Prop :=
  match event with
  | .size width countPerPage itemCount =>
      0 < list.widths.sum ∧ 0 ≤ lcib vscroll width countPerPage itemCount
  | .drag column width =>
      column + 1 < list.widths.length →
        (width : Int) ≤ list.getColumnWidth column + list.getColumnWidth (column + 1)

instance (vscroll : Int) (event : Event) (list : ListCtrlResize) :
    Decidable (Shareable vscroll event list) :=
  match event with
  | .size .. => inferInstanceAs (Decidable (_ ∧ _))
  | .drag .. => inferInstanceAs (Decidable (_ → _))

/-! ## A size event -/

section Size

variable {list after : ListCtrlResize} {available : Int}

/-- A size event with something to share shares the width. -/
theorem onSize_of_ne (shared : list.widths.sum ≠ 0) (available : Int) :
    list.onSize available =
      some { list with widths := list.widths.map (share available list.widths.sum) } := by
  have divided (widths : List Int) :
      widths.mapM (fun width => divide (width * available) list.widths.sum) =
        some (widths.map (share available list.widths.sum)) := by
    induction widths with
    | nil => rfl
    | cons width rest ih =>
        rw [List.mapM_cons, ih, divide, if_neg shared]
        rfl
  unfold onSize
  dsimp only
  rw [divided]
  rfl

/-- A size event with nothing to share divides by zero as soon as there is a column. -/
theorem onSize_of_zero (nothing : list.widths.sum = 0) (filled : list.widths ≠ [])
    (available : Int) : list.onSize available = none := by
  obtain ⟨width, rest, shape⟩ := List.exists_cons_of_ne_nil filled
  have divided : list.widths.mapM
      (fun width => divide (width * available) list.widths.sum) = none := by
    rw [nothing, shape, List.mapM_cons]
    rfl
  unfold onSize
  dsimp only
  rw [divided]
  rfl

/-- A shared width leaves no negative width and makes up the available one. -/
theorem onSize_fills (nonNegative : list.NonNegative) (shared : 0 < list.widths.sum)
    (nonneg : 0 ≤ available) :
    ∃ after, list.onSize available = some after ∧ after.NonNegative ∧ after.Fills available := by
  refine ⟨_, onSize_of_ne shared.ne' available, shares_nonneg shared nonneg nonNegative, ?_⟩
  unfold Fills
  rw [List.length_map]
  exact shares_sum shared nonneg nonNegative

/-- And only so: nothing to share fails, and so does a width below zero. -/
theorem shared_of_fills (nonNegative : list.NonNegative)
    (executed : list.onSize available = some after) (afterNonNegative : after.NonNegative)
    (fills : after.Fills available) : 0 < list.widths.sum ∧ 0 ≤ available := by
  have nonneg : 0 ≤ available := (List.sum_nonneg afterNonNegative).trans fills.1
  refine ⟨?_, nonneg⟩
  by_contra none
  have nothing : list.widths.sum = 0 :=
    le_antisymm (not_lt.mp none) (List.sum_nonneg nonNegative)
  by_cases filled : list.widths = []
  · -- Without a column nothing is divided, and the width is not made up.
    have bare : after.widths = [] := by
      unfold onSize at executed
      rw [filled] at executed
      cases executed
      rfl
    obtain ⟨_, short⟩ := fills
    rw [bare] at short
    simp at short
    omega
  · rw [onSize_of_zero nothing filled] at executed
    cases executed

end Size

/-! ## A drag -/

section Drag

variable {list : ListCtrlResize} {column width : Nat}

/-- The next column gives what the dragged one takes. -/
theorem drag_widths (next : column + 1 < list.widths.length) (width : Nat) :
    (list.drag column width).widths =
      (list.widths.set column width).set (column + 1)
        (list.getColumnWidth (column + 1) - (width - list.getColumnWidth column)) := by
  have dragged : (list.widths.set column (width : Int)).getD column 0 = width := by
    rw [List.getD_eq_getElem?_getD, List.getElem?_set_self (by omega)]
    rfl
  have beside : (list.widths.set column (width : Int)).getD (column + 1) 0 =
      list.widths.getD (column + 1) 0 := by
    rw [List.getD_eq_getElem?_getD, List.getElem?_set_ne (by omega), List.getD_eq_getElem?_getD]
  unfold drag onListEndResize onListBeginResize setColumnWidth getColumnWidth
  dsimp only
  rw [if_pos (by rw [List.length_set]; omega), dragged, beside]

/-- The last column takes from nobody. -/
theorem drag_last (last : ¬column + 1 < list.widths.length) (width : Nat) :
    (list.drag column width).widths = list.widths.set column width := by
  unfold drag onListEndResize onListBeginResize setColumnWidth
  dsimp only
  rw [if_neg (by rw [List.length_set]; omega)]

theorem drag_nonNegative_iff (nonNegative : list.NonNegative) (column width : Nat) :
    (list.drag column width).NonNegative ↔
      (column + 1 < list.widths.length →
        (width : Int) ≤ list.getColumnWidth column + list.getColumnWidth (column + 1)) := by
  have own : ∀ other ∈ list.widths.set column (width : Int), 0 ≤ other := by
    intro other member
    rcases List.mem_or_eq_of_mem_set member with old | rfl
    · exact nonNegative other old
    · exact Int.natCast_nonneg width
  by_cases next : column + 1 < list.widths.length
  · unfold NonNegative
    rw [drag_widths next]
    constructor
    · intro after _
      have given := after _ (List.mem_set (by rwa [List.length_set]) _)
      omega
    · intro enough other member
      rcases List.mem_or_eq_of_mem_set member with old | rfl
      · exact own other old
      · have := enough next
        omega
  · unfold NonNegative
    rw [drag_last next]
    exact ⟨fun _ last => absurd last next, fun _ => own⟩

end Drag

/-! ## Whole runs -/

variable {vscroll : Int} {event : Event} {list after first last : ListCtrlResize}

/-- From widths that are not negative, an event does what it is for exactly when there is enough
to share. -/
theorem succeeds_iff (nonNegative : list.NonNegative) (event : Event) :
    Succeeds vscroll event list ↔ Shareable vscroll event list := by
  cases event with
  | size width countPerPage itemCount =>
      constructor
      · rintro ⟨after, executed, afterNonNegative, fills⟩
        exact shared_of_fills nonNegative executed afterNonNegative fills
      · rintro ⟨shared, nonneg⟩
        exact onSize_fills nonNegative shared nonneg
  | drag column width =>
      rw [Shareable, ← drag_nonNegative_iff nonNegative]
      constructor
      · rintro ⟨after, executed, afterNonNegative, _⟩
        cases executed
        exact afterNonNegative
      · intro afterNonNegative
        exact ⟨_, rfl, afterNonNegative, trivial⟩

/-- An event that has enough to share leaves no negative width. -/
theorem NonNegative.step (shareable : Shareable vscroll event list)
    (executed : ListCtrlResize.step vscroll event list = some after)
    (nonNegative : list.NonNegative) : after.NonNegative := by
  obtain ⟨result, found, resultNonNegative, _⟩ := (succeeds_iff nonNegative event).mpr shareable
  cases executed.symm.trans found
  exact resultNonNegative

/--
As long as every event has enough to share, no width is negative, and the next event
does what it is for exactly when it has enough to share as well.
-/
theorem widths_shared (positive : ∀ width ∈ first.widths, 0 < width)
    (run : Run (step vscroll) (Shareable vscroll) first last) :
    last.NonNegative ∧ ∀ event, Succeeds vscroll event last ↔ Shareable vscroll event last := by
  have nonNegative : last.NonNegative :=
    run.invariant NonNegative.step fun width member => (positive width member).le
  exact ⟨nonNegative, succeeds_iff nonNegative⟩

/-- Three columns that are dragged and shrunk. -/
theorem widths_shared_three :
    NonNegative ⟨[70, 37, 32], 100⟩ ∧
      ∀ event, Succeeds 16 event ⟨[70, 37, 32], 100⟩ ↔ Shareable 16 event ⟨[70, 37, 32], 100⟩ :=
  @widths_shared 16 ⟨[100, 100, 60], 0⟩ _ (by decide)
    (@Run.ofChecked _ _ _ _ _ [.drag 0 130, .size 140 4 4] _ _ (by decide))

/-- A window without width, a window that is narrower than its scroll bar, and a drag over the
next column. -/
theorem widths_degenerate :
    (step 16 (.size 0 10 5) ⟨[100], 0⟩).bind (step 16 (.size 300 10 5)) = none ∧
      (step 16 (.size 10 5 20) ⟨[100, 50], 0⟩) = some ⟨[-4, -2], 0⟩ ∧
      (step 16 (.drag 0 200) ⟨[100, 50], 0⟩) = some ⟨[200, -50], 100⟩ := by
  decide

end ListCtrlResize

end RPhoto.Editing
