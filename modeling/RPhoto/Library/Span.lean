import Mathlib.Init

/-!
# Spans of integer positions

A span has a start and a length, which may be negative.  Confining a span to
bounds either cuts its length or slides it.  A span inside the bounds can be
given another length from its start or from its stop; confining it again then
cuts the length to the room the bounds leave.
-/

namespace RPhoto.Library

/-- A run of integer positions. -/
@[ext] structure Span where
  start : Int
  length : Int
deriving DecidableEq, Repr

namespace Span

/-- The position after the last one of the span. -/
def stop (span : Span) : Int := span.start + span.length

/-- The span has a length and does not leave the bounds. -/
def Within (span bounds : Span) : Prop :=
  0 ≤ span.length ∧ bounds.start ≤ span.start ∧ span.stop ≤ bounds.stop

instance (span bounds : Span) : Decidable (span.Within bounds) :=
  inferInstanceAs (Decidable (_ ∧ _ ∧ _))

/-- Two spans share a position or lie next to each other. -/
def Meets (span bounds : Span) : Prop :=
  span.start ≤ bounds.stop ∧ bounds.start ≤ span.stop

instance (span bounds : Span) : Decidable (span.Meets bounds) :=
  inferInstanceAs (Decidable (_ ∧ _))

/-- Bring a span back between the bounds: first past the start, then before the stop. -/
def confine (cut : Bool) (bounds span : Span) : Span :=
  let span :=
    if span.start < bounds.start then
      { start := bounds.start
        length := if cut then span.length - (bounds.start - span.start) else span.length }
    else span
  if bounds.stop < span.stop then
    let length := if cut then bounds.stop - span.start else span.length
    { start := bounds.stop - length, length }
  else span

/-- The span between the bounds that has the same length and is moved as little as possible. -/
def slid (bounds span : Span) : Span :=
  ⟨min (max span.start bounds.start) (bounds.stop - span.length), span.length⟩

/-- The span from one position to another, whichever comes first. -/
def between (first second : Int) : Span := ⟨min first second, max first second - min first second⟩

/-- What a span and the bounds have in common. -/
def inter (bounds span : Span) : Span :=
  ⟨max span.start bounds.start, min span.stop bounds.stop - max span.start bounds.start⟩

/-- The position is an end of the span. -/
def EndsAt (span : Span) (position : Int) : Prop :=
  span.start = position ∨ span.stop = position

/-- Another length for a span, whose stop or whose start stays in place. -/
def resized (fromStop : Bool) (span : Span) (length : Int) : Span :=
  if fromStop then ⟨span.stop - length, length⟩ else ⟨span.start, length⟩

/-- The length a span can grow to between the bounds. -/
def room (fromStop : Bool) (bounds span : Span) : Int :=
  if fromStop then span.stop - bounds.start else bounds.stop - span.start

variable {cut fromStop : Bool} {bounds span : Span} {length : Int}

namespace Within

theorem length_le (within : span.Within bounds) : span.length ≤ bounds.length := by
  simp only [Within, stop] at within
  omega

theorem meets (within : span.Within bounds) : span.Meets bounds := by
  simp only [Within, Meets, stop] at within ⊢
  omega

/-- The length of a span is part of its room. -/
theorem length_le_room (within : span.Within bounds) :
    span.length ≤ room fromStop bounds span := by
  simp only [Within, room, stop] at within ⊢
  split <;> omega

/-- A span inside the bounds stays inside them as long as it has room. -/
theorem resized (within : span.Within bounds) (nonneg : 0 ≤ length)
    (fits : length ≤ room fromStop bounds span) :
    (resized fromStop span length).Within bounds := by
  simp only [Within, room, stop, Span.resized] at within fits ⊢
  cases fromStop <;> simp_all <;> omega

/-- And only that long. -/
theorem le_room_of_resized (within : (Span.resized fromStop span length).Within bounds) :
    length ≤ room fromStop bounds span := by
  simp only [Within, room, stop, Span.resized] at within ⊢
  cases fromStop <;> simp_all <;> omega

end Within

@[simp] theorem resized_length : (resized fromStop span length).length = length := by
  unfold resized
  split <;> rfl

/-- A length from the stop keeps the stop. -/
@[simp] theorem stop_resized : (resized true span length).stop = span.stop := by
  simp only [resized, stop, if_true]
  omega

@[simp] theorem resized_self : resized fromStop span span.length = span := by
  cases fromStop <;> simp [resized, stop]

/-- Cutting keeps what the span and the bounds have in common. -/
theorem confine_cut (bounds span : Span) : confine true bounds span = inter bounds span := by
  unfold inter
  by_cases early : span.start < bounds.start <;>
    simp only [confine, stop, early, if_true, if_false] <;>
    split <;> ext <;> grind

theorem stop_confine_cut (bounds span : Span) :
    (confine true bounds span).stop = min span.stop bounds.stop := by
  rw [confine_cut]
  simp only [inter, stop]
  omega

theorem between_comm (first second : Int) : between first second = between second first := by
  unfold between
  rw [Int.min_comm, Int.max_comm]

/-- The end of a span that lies in the bounds is an end of the common part. -/
theorem endsAt_inter {first second : Int} (after : bounds.start ≤ first)
    (before : first ≤ bounds.stop) : (inter bounds (between first second)).EndsAt first := by
  simp only [EndsAt, inter, between, stop] at before ⊢
  omega

/-- A span inside the bounds whose stop is moved keeps its start, and the other way round. -/
theorem Within.endsAt_start (within : span.Within bounds) (other : Int) :
    (inter bounds (between span.start other)).EndsAt span.start := by
  obtain ⟨nonneg, after, before⟩ := within
  exact endsAt_inter after (by simp only [stop] at before ⊢; omega)

theorem Within.endsAt_stop (within : span.Within bounds) (other : Int) :
    (inter bounds (between other span.stop)).EndsAt span.stop := by
  obtain ⟨nonneg, after, before⟩ := within
  rw [between_comm]
  exact endsAt_inter (by simp only [stop] at before ⊢; omega) before

/-- Sliding keeps the length; the stop of the bounds wins over their start. -/
theorem confine_slide (bounds span : Span) : confine false bounds span = slid bounds span := by
  unfold slid
  by_cases early : span.start < bounds.start <;>
    simp only [confine, stop, early, if_true, if_false, Bool.false_eq_true] <;>
    split <;> ext <;> grind

theorem confine_of_within (within : span.Within bounds) :
    confine cut bounds span = span := by
  obtain ⟨_, after, before⟩ := within
  simp only [confine, if_neg (show ¬span.start < bounds.start by omega)]
  exact if_neg (by omega)

/-- Cutting a span that meets the bounds leaves a part of it. -/
theorem confine_within (nonneg : 0 ≤ span.length) (bounded : 0 ≤ bounds.length)
    (meets : span.Meets bounds) : (confine true bounds span).Within bounds := by
  rw [confine_cut]
  simp only [inter, Within, Meets, stop] at meets ⊢
  omega

/-- A span that is not longer than the bounds can be slid between them. -/
theorem slide_within (nonneg : 0 ≤ span.length) (shorter : span.length ≤ bounds.length) :
    (confine false bounds span).Within bounds := by
  rw [confine_slide]
  simp only [slid, Within, stop]
  omega

/-- Confining a resized span cuts its new length to the room there is. -/
theorem confine_resized (within : span.Within bounds) :
    confine true bounds (resized fromStop span length) =
      resized fromStop span (min length (room fromStop bounds span)) := by
  rw [confine_cut]
  simp only [inter, Within, room, stop, resized] at within ⊢
  cases fromStop <;> simp only [if_true, if_false, Bool.false_eq_true, Span.mk.injEq] <;> omega

end Span

end RPhoto.Library
