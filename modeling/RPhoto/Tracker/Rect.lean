import RPhoto.Library.Span

/-!
# Rectangles

`wxRect` with its integer origin and size.  The width and the height may be
negative; the hidden tracker rectangle has the size `-1, -1`.  A rectangle is
a horizontal and a vertical span.
-/

namespace RPhoto.Tracker

open RPhoto.Library

/-- `wxPoint`. -/
structure Point where
  x : Int
  y : Int
deriving DecidableEq, Repr

/-- `wxRect`. -/
structure Rect where
  x : Int
  y : Int
  width : Int
  height : Int
deriving DecidableEq, Repr

namespace Rect

def horizontal (rect : Rect) : Span := ⟨rect.x, rect.width⟩

def vertical (rect : Rect) : Span := ⟨rect.y, rect.height⟩

/-- The rectangle with given sides. -/
def ofSpans (horizontal vertical : Span) : Rect :=
  ⟨horizontal.start, vertical.start, horizontal.length, vertical.length⟩

@[simp] theorem horizontal_ofSpans (columns rows : Span) :
    (ofSpans columns rows).horizontal = columns := rfl

@[simp] theorem vertical_ofSpans (columns rows : Span) :
    (ofSpans columns rows).vertical = rows := rfl

@[simp] theorem width_ofSpans (columns rows : Span) :
    (ofSpans columns rows).width = columns.length := rfl

@[simp] theorem height_ofSpans (columns rows : Span) :
    (ofSpans columns rows).height = rows.length := rfl

@[simp] theorem length_horizontal (rect : Rect) : rect.horizontal.length = rect.width := rfl

@[simp] theorem length_vertical (rect : Rect) : rect.vertical.length = rect.height := rfl

@[simp] theorem ofSpans_spans (rect : Rect) : ofSpans rect.horizontal rect.vertical = rect := rfl

/-- A rectangle without a negative side. -/
def Sized (rect : Rect) : Prop := 0 ≤ rect.width ∧ 0 ≤ rect.height

instance (rect : Rect) : Decidable rect.Sized :=
  inferInstanceAs (Decidable (_ ∧ _))

/-- A rectangle without a negative side that does not leave the bounds. -/
def Inside (rect bounds : Rect) : Prop :=
  rect.horizontal.Within bounds.horizontal ∧ rect.vertical.Within bounds.vertical

instance (rect bounds : Rect) : Decidable (rect.Inside bounds) :=
  inferInstanceAs (Decidable (_ ∧ _))

/-- Two rectangles share a point or touch each other. -/
def Meets (rect bounds : Rect) : Prop :=
  rect.horizontal.Meets bounds.horizontal ∧ rect.vertical.Meets bounds.vertical

instance (rect bounds : Rect) : Decidable (rect.Meets bounds) :=
  inferInstanceAs (Decidable (_ ∧ _))

/-- The rectangle moved by a displacement. -/
def moved (rect : Rect) (dx dy : Int) : Rect :=
  { rect with x := rect.x + dx, y := rect.y + dy }

/-- The rectangle of the same size inside the bounds that is moved as little as possible. -/
def slid (bounds rect : Rect) : Rect :=
  .ofSpans (Span.slid bounds.horizontal rect.horizontal)
    (Span.slid bounds.vertical rect.vertical)

/-- What a rectangle and the bounds have in common. -/
def inter (bounds rect : Rect) : Rect :=
  .ofSpans (Span.inter bounds.horizontal rect.horizontal)
    (Span.inter bounds.vertical rect.vertical)

theorem Inside.sized {rect bounds : Rect} (inside : rect.Inside bounds) : rect.Sized :=
  ⟨inside.1.1, inside.2.1⟩

end Rect

end RPhoto.Tracker
