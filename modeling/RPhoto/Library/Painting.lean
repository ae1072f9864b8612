import Mathlib.Data.Set.Basic

/-!
# Loops that paint cells

Counted loops whose body may have no result, and the rule for the loops that fill
an array.  A step paints a region: every cell of the region then holds the value
wanted there, every other cell what it held.  Steps one after the other paint the
union of their regions, and so does a loop.
-/

namespace RPhoto.Library

variable {State Cell Value : Type}

/-- The loop `for (index = 0; index < count; index++)`, ended by a step without result. -/
def upTo (count : Nat) (body : Nat → State → Option State) (state : State) : Option State :=
  (List.range count).foldlM (fun current index => body index current) state

/-- The quotient rounded up. -/
def divRoundUp (value step : Nat) : Nat := (value + step - 1) / step

/-- The loop `for (index = 0; index < limit; index += step)`. -/
def upToBy (step limit : Nat) (body : Nat → State → Option State) (state : State) :
    Option State :=
  upTo (divRoundUp limit step) (fun index => body (index * step)) state

/-- The multiples of the step counted by the quotient rounded up are those below the limit. -/
theorem lt_divRoundUp_iff {step : Nat} (positive : 0 < step) (index limit : Nat) :
    index < divRoundUp limit step ↔ index * step < limit := by
  unfold divRoundUp
  rw [Nat.lt_div_iff_mul_lt positive]
  omega

theorem le_divRoundUp_mul {step : Nat} (positive : 0 < step) (limit : Nat) :
    limit ≤ divRoundUp limit step * step :=
  Nat.le_of_not_lt fun below =>
    Nat.lt_irrefl _ ((lt_divRoundUp_iff positive _ limit).mpr below)

theorem divRoundUp_le_iff {step : Nat} (positive : 0 < step) (limit count : Nat) :
    divRoundUp limit step ≤ count ↔ limit ≤ count * step := by
  rw [← not_lt, lt_divRoundUp_iff positive, not_lt]

theorem divRoundUp_mul {step : Nat} (positive : 0 < step) (count : Nat) :
    divRoundUp (count * step) step = count := by
  refine Nat.le_antisymm ((divRoundUp_le_iff positive _ _).mpr (Nat.le_refl _)) ?_
  exact Nat.le_of_mul_le_mul_right (le_divRoundUp_mul positive _) positive

theorem divRoundUp_mono {step first second : Nat} (positive : 0 < step) (le : first ≤ second) :
    divRoundUp first step ≤ divRoundUp second step :=
  (divRoundUp_le_iff positive _ _).mpr (Nat.le_trans le (le_divRoundUp_mul positive second))

/-- The full steps are among those counted. -/
theorem div_le_divRoundUp (value step : Nat) : value / step ≤ divRoundUp value step := by
  rcases Nat.eq_zero_or_pos step with rfl | positive
  · simp
  · exact Nat.div_le_div_right (by omega)

theorem divRoundUp_le_self {step : Nat} (positive : 0 < step) (value : Nat) :
    divRoundUp value step ≤ value :=
  (divRoundUp_le_iff positive _ _).mpr (Nat.le_mul_of_pos_right value positive)

/-- Whole steps in front are counted each. -/
theorem divRoundUp_add_mul {step : Nat} (positive : 0 < step) (count value : Nat) :
    divRoundUp (count * step + value) step = count + divRoundUp value step := by
  unfold divRoundUp
  have regrouped : count * step + value + step - 1 = value + step - 1 + count * step := by omega
  rw [regrouped, Nat.add_mul_div_right _ _ positive, Nat.add_comm]

/-- Steps and length in finer units count the same. -/
theorem divRoundUp_mul_mul {parts step : Nat} (some_part : 0 < parts) (positive : 0 < step)
    (value : Nat) : divRoundUp (value * parts) (parts * step) = divRoundUp value step := by
  have finer : 0 < parts * step := Nat.mul_pos some_part positive
  refine Nat.le_antisymm ?_ ?_
  · rw [divRoundUp_le_iff finer, Nat.mul_left_comm, Nat.mul_comm parts]
    exact Nat.mul_le_mul_right parts (le_divRoundUp_mul positive value)
  · rw [divRoundUp_le_iff positive]
    have covered := le_divRoundUp_mul finer (value * parts)
    rw [Nat.mul_left_comm, Nat.mul_comm parts] at covered
    exact Nat.le_of_mul_le_mul_right covered some_part

/-- Rounding up in parts of a step and then to whole steps is rounding up to whole steps. -/
theorem divRoundUp_divRoundUp {parts step : Nat} (some_part : 0 < parts) (positive : 0 < step)
    (value : Nat) :
    divRoundUp (divRoundUp (value * parts) step) parts = divRoundUp value step := by
  refine Nat.le_antisymm ?_ ?_
  · rw [divRoundUp_le_iff some_part, divRoundUp_le_iff positive, Nat.mul_right_comm]
    exact Nat.mul_le_mul_right parts (le_divRoundUp_mul positive value)
  · rw [divRoundUp_le_iff positive]
    have inner := le_divRoundUp_mul positive (value * parts)
    have outer := Nat.mul_le_mul_right step
      (le_divRoundUp_mul some_part (divRoundUp (value * parts) step))
    refine Nat.le_of_mul_le_mul_right ?_ some_part
    rw [Nat.mul_right_comm]
    exact Nat.le_trans inner outer

/-- What every step preserves, counting along, holds after the loop, and the loop ends. -/
theorem upTo_rule (Holds : Nat → State → Prop) {count : Nat}
    {body : Nat → State → Option State}
    (each : ∀ index < count, ∀ state, Holds index state →
      ∃ next, body index state = some next ∧ Holds (index + 1) next)
    {first : State} (initial : Holds 0 first) :
    ∃ last, upTo count body first = some last ∧ Holds count last := by
  induction count with
  | zero => exact ⟨first, rfl, initial⟩
  | succ count ih =>
      obtain ⟨middle, ran, held⟩ := ih fun index below =>
        each index (Nat.lt_succ_of_lt below)
      obtain ⟨last, stepped, holds⟩ := each count (Nat.lt_succ_self count) middle held
      refine ⟨last, ?_, holds⟩
      unfold upTo at ran ⊢
      rw [List.range_succ, List.foldlM_append, ran]
      simp [stepped]

/-- The cells of the region hold the wanted values afterwards, the others what they held. -/
structure Paints (view : State → Cell → Value) (wanted : Cell → Value) (region : Set Cell)
    (before after : State) : Prop where
  inside : ∀ cell ∈ region, view after cell = wanted cell
  outside : ∀ cell ∉ region, view after cell = view before cell

/-- The cells painted by the first steps of a loop. -/
def painted (region : Nat → Set Cell) (count : Nat) : Set Cell :=
  {cell | ∃ index < count, cell ∈ region index}

theorem painted_succ (region : Nat → Set Cell) (count : Nat) :
    painted region (count + 1) = painted region count ∪ region count := by
  ext cell
  constructor
  · rintro ⟨index, below, member⟩
    rcases Nat.lt_succ_iff_lt_or_eq.mp below with earlier | rfl
    · exact .inl ⟨index, earlier, member⟩
    · exact .inr member
  · rintro (⟨index, below, member⟩ | member)
    · exact ⟨index, Nat.lt_succ_of_lt below, member⟩
    · exact ⟨count, Nat.lt_succ_self count, member⟩

namespace Paints

variable {view : State → Cell → Value} {wanted : Cell → Value}

theorem refl (state : State) : Paints view wanted ∅ state state :=
  ⟨fun _ member => member.elim, fun _ _ => rfl⟩

theorem trans {first second : Set Cell} {before middle after : State}
    (early : Paints view wanted first before middle)
    (late : Paints view wanted second middle after) :
    Paints view wanted (first ∪ second) before after := by
  refine ⟨fun cell member => ?_, fun cell beyond => ?_⟩
  · by_cases again : cell ∈ second
    · exact late.inside cell again
    · rw [late.outside cell again]
      exact early.inside cell (member.resolve_right again)
  · rw [late.outside cell fun member => beyond (.inr member)]
    exact early.outside cell fun member => beyond (.inl member)

end Paints

/--
A loop whose every step paints its region paints them all.  A step may rely on what
the earlier steps have left unpainted.
-/
theorem upTo_paints (view : State → Cell → Value) (wanted : Cell → Value)
    (region : Nat → Set Cell) (Ready : Nat → State → Prop) {count : Nat}
    {body : Nat → State → Option State} {first : State}
    (each : ∀ index < count, ∀ state, Ready index state →
      Paints view wanted (painted region index) first state →
      ∃ next, body index state = some next ∧
        Paints view wanted (region index) state next ∧ Ready (index + 1) next)
    (ready : Ready 0 first) :
    ∃ last, upTo count body first = some last ∧
      Paints view wanted (painted region count) first last ∧ Ready count last := by
  have none_yet : painted region 0 = ∅ := by
    ext cell
    simp [painted]
  refine upTo_rule (fun index state =>
    Paints view wanted (painted region index) first state ∧ Ready index state) ?_ ?_
  · rintro index below state ⟨paints, held⟩
    obtain ⟨next, stepped, here, nextReady⟩ := each index below state held paints
    refine ⟨next, stepped, ?_, nextReady⟩
    rw [painted_succ]
    exact paints.trans here
  · rw [none_yet]
    exact ⟨Paints.refl first, ready⟩

end RPhoto.Library
