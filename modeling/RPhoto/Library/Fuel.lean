import Mathlib.Init

/-!
# Calls with fuel

A recursive function that is given fuel has no result without enough of it.  A call
returns when all large amounts of fuel give one and the same result.
-/

namespace RPhoto.Library

variable {Result Other : Type}

/-- With enough fuel the call has a result, always the same one, which satisfies `post`. -/
def Returns (call : Nat → Option Result) (post : Result → Prop) : Prop :=
  ∃ result, post result ∧ ∃ enough, ∀ fuel, enough ≤ fuel → call fuel = some result

namespace Returns

variable {call : Nat → Option Result} {post : Result → Prop}

theorem exists_fuel (returns : Returns call post) :
    ∃ fuel result, call fuel = some result ∧ post result := by
  obtain ⟨result, holds, enough, settled⟩ := returns
  exact ⟨enough, result, settled enough (Nat.le_refl enough), holds⟩

/-- A result that needs no fuel. -/
theorem pure {result : Result} (holds : post result) : Returns (fun _ => some result) post :=
  ⟨result, holds, 0, fun _ _ => rfl⟩

/-- A result that needs one unit of fuel. -/
theorem result {result : Result} (gives : ∀ fuel, call (fuel + 1) = some result)
    (holds : post result) : Returns call post := by
  refine ⟨result, holds, 1, ?_⟩
  intro fuel large
  obtain ⟨less, rfl⟩ := Nat.exists_eq_add_of_le' large
  exact gives less

theorem mono {weaker : Result → Prop} (returns : Returns call post)
    (implies : ∀ result, post result → weaker result) : Returns call weaker := by
  obtain ⟨result, holds, settled⟩ := returns
  exact ⟨result, implies result holds, settled⟩

/-- All that is known of a call is known of one result. -/
theorem and {other : Result → Prop} (returns : Returns call post)
    (also : Returns call other) : Returns call fun result => post result ∧ other result := by
  obtain ⟨result, holds, enough, settled⟩ := returns
  obtain ⟨same, others, more, settledAlso⟩ := also
  have agree := (settled (max enough more) (Nat.le_max_left ..)).symm.trans
    (settledAlso (max enough more) (Nat.le_max_right ..))
  cases agree
  exact ⟨result, ⟨holds, others⟩, enough, settled⟩

/-- One call spends one unit of fuel on what it does. -/
theorem step {body : Nat → Option Result} (spends : ∀ fuel, call (fuel + 1) = body fuel)
    (returns : Returns body post) : Returns call post := by
  obtain ⟨result, holds, enough, settled⟩ := returns
  refine ⟨result, holds, enough + 1, ?_⟩
  intro fuel large
  obtain ⟨less, rfl⟩ := Nat.exists_eq_add_of_le' large
  rw [← Nat.add_assoc, spends]
  exact settled (less + enough) (by omega)

/-- Two calls one after the other. -/
theorem bind {rest : Nat → Result → Option Other} {after : Other → Prop}
    (first : Returns call post)
    (next : ∀ result, post result → Returns (fun fuel => rest fuel result) after) :
    Returns (fun fuel => (call fuel).bind (rest fuel)) after := by
  obtain ⟨middle, holds, enough, settled⟩ := first
  obtain ⟨result, afterwards, more, settledAfter⟩ := next middle holds
  refine ⟨result, afterwards, max enough more, ?_⟩
  intro fuel large
  show (call fuel).bind (rest fuel) = some result
  rw [settled fuel (by omega), Option.bind_some]
  exact settledAfter fuel (by omega)

/-- The result of a call is used without a further call. -/
theorem map {use : Result → Other} {after : Other → Prop} (first : Returns call post)
    (implies : ∀ result, post result → after (use result)) :
    Returns (fun fuel => (call fuel).bind fun result => some (use result)) after :=
  first.bind fun result holds => pure (implies result holds)

end Returns

end RPhoto.Library
