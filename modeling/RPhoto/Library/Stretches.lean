import Mathlib.Data.List.Basic

/-!
# Lists whose names form stretches

A line of entries gives each entry a name or none.  In a stretched line the
entries of one name stand together, so a cut that does not fall inside a stretch
leaves no name on both of its sides.
-/

namespace RPhoto.Library

variable {Name : Type}

/-- No name stands on both sides. -/
def SplitFree (left right : List (Option Name)) : Prop :=
  ∀ name, some name ∈ left → some name ∉ right

/-- The two entries next to the cut do not share a name. -/
def CutClean (left right : List (Option Name)) : Prop :=
  ∀ name, left.getLast? = some (some name) → right.head? ≠ some (some name)

/-- The same, read off the two entries. -/
theorem cutClean_iff {left right : List (Option Name)} :
    CutClean left right ↔
      left.getLast?.join = none ∨ left.getLast?.join ≠ right.head?.join := by
  unfold CutClean
  rcases left.getLast? with _ | _ | last <;> rcases right.head? with _ | _ | first <;>
    simp [eq_comm]

instance [DecidableEq Name] (left right : List (Option Name)) :
    Decidable (CutClean left right) :=
  decidable_of_iff' _ cutClean_iff

/-- Only a cut inside a stretch of one name leaves that name on both sides. -/
def Stretched (line : List (Option Name)) : Prop :=
  ∀ left right, line = left ++ right → CutClean left right → SplitFree left right

theorem Stretched.splitFree {left right : List (Option Name)}
    (stretched : Stretched (left ++ right)) (clean : CutClean left right) :
    SplitFree left right :=
  stretched left right rfl clean

theorem stretched_singleton (entry : Option Name) : Stretched [entry] := by
  intro left right shape _ name inLeft inRight
  have total : left.length + right.length = 1 := by
    rw [← List.length_append, ← shape, List.length_singleton]
  have leftPos := List.length_pos_of_mem inLeft
  have rightPos := List.length_pos_of_mem inRight
  omega

/-- The front part of a stretched line is stretched. -/
theorem Stretched.front {first second : List (Option Name)}
    (stretched : Stretched (first ++ second)) : Stretched first := by
  rintro left right rfl clean name inLeft inRight
  refine stretched left (right ++ second) (List.append_assoc _ _ _) ?_ name inLeft
    (List.mem_append_left _ inRight)
  intro shared atEnd atStart
  have nonempty : right ≠ [] := List.ne_nil_of_mem inRight
  rw [List.head?_append_of_ne_nil right nonempty] at atStart
  exact clean shared atEnd atStart

/-- The back part of a stretched line is stretched. -/
theorem Stretched.back {first second : List (Option Name)}
    (stretched : Stretched (first ++ second)) : Stretched second := by
  rintro left right rfl clean name inLeft inRight
  refine stretched (first ++ left) right (List.append_assoc _ _ _).symm ?_ name
    (List.mem_append_right _ inLeft) inRight
  intro shared atEnd atStart
  have nonempty : left ≠ [] := List.ne_nil_of_mem inLeft
  rw [List.getLast?_append_of_ne_nil first nonempty] at atEnd
  exact clean shared atEnd atStart

/--
A line grows by an entry without a name, by an entry named like its last one, or
by an entry whose name it does not hold yet.
-/
theorem Stretched.concat {line : List (Option Name)} {entry : Option Name}
    (stretched : Stretched line)
    (extends_ : entry = none ∨ line.getLast? = some entry ∨ entry ∉ line) :
    Stretched (line ++ [entry]) := by
  intro left right shape clean name inLeft inRight
  rcases List.eq_nil_or_concat right with rfl | ⟨rest, last, rfl⟩
  · exact List.not_mem_nil inRight
  · rw [List.concat_eq_append] at clean inRight
    rw [List.concat_eq_append, ← List.append_assoc] at shape
    obtain ⟨lineShape, lastShape⟩ := List.append_inj' shape rfl
    cases lastShape
    subst lineShape
    have cleanInner : rest ≠ [] → CutClean left rest := by
      intro nonempty shared atEnd atStart
      refine clean shared atEnd ?_
      rwa [List.head?_append_of_ne_nil rest nonempty]
    rcases List.mem_append.mp inRight with inRest | isLast
    · exact stretched left rest rfl (cleanInner (List.ne_nil_of_mem inRest)) name inLeft inRest
    · have named : some name = entry := List.mem_singleton.mp isLast
      rcases extends_ with unnamed | repeats | fresh
      · rw [unnamed] at named
        cases named
      · by_cases nonempty : rest = []
        · subst nonempty
          rw [List.append_nil] at repeats
          exact clean name (repeats.trans (by rw [named])) (by rw [List.nil_append, named]; rfl)
        · rw [List.getLast?_append_of_ne_nil left nonempty] at repeats
          have inRest : some name ∈ rest := by
            rw [named]
            exact List.mem_of_getLast? repeats
          exact stretched left rest rfl (cleanInner nonempty) name inLeft inRest
      · exact fresh (named ▸ List.mem_append_left _ inLeft)

end RPhoto.Library
