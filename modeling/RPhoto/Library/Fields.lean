import Mathlib.Data.List.Infix

/-!
# Fields of a list

The parts of a list before and after the first occurrence of a mark.  Without
the mark the whole list comes before it and nothing after it.  A list is either
without the mark, or a field, a mark and the rest of the list; what is true of
the first kind and passes from the rest to the whole is true of every list.
-/

namespace RPhoto.Library

variable {α : Type} [DecidableEq α]

def beforeFirst (mark : α) (list : List α) : List α := list.takeWhile (· ≠ mark)

def afterFirst (mark : α) (list : List α) : List α := (list.dropWhile (· ≠ mark)).tail

variable {mark : α} {first rest : List α}

/-- A mark ends the field before it. -/
theorem beforeFirst_append (absent : mark ∉ first) (rest : List α) :
    beforeFirst mark (first ++ mark :: rest) = first := by
  induction first with
  | nil => simp [beforeFirst]
  | cons head tail ih =>
      have other : head ≠ mark := fun same => absent (same ▸ List.mem_cons_self)
      have later := ih fun member => absent (List.mem_cons_of_mem head member)
      unfold beforeFirst at later ⊢
      rw [List.cons_append, List.takeWhile_cons, if_pos (by simpa using other), later]

theorem afterFirst_append (absent : mark ∉ first) (rest : List α) :
    afterFirst mark (first ++ mark :: rest) = rest := by
  induction first with
  | nil => simp [afterFirst]
  | cons head tail ih =>
      have other : head ≠ mark := fun same => absent (same ▸ List.mem_cons_self)
      have later := ih fun member => absent (List.mem_cons_of_mem head member)
      unfold afterFirst at later ⊢
      rw [List.cons_append, List.dropWhile_cons, if_pos (by simpa using other), later]

theorem beforeFirst_of_absent (absent : mark ∉ first) : beforeFirst mark first = first := by
  induction first with
  | nil => rfl
  | cons head tail ih =>
      have other : head ≠ mark := fun same => absent (same ▸ List.mem_cons_self)
      have later := ih fun member => absent (List.mem_cons_of_mem head member)
      unfold beforeFirst at later ⊢
      rw [List.takeWhile_cons, if_pos (by simpa using other), later]

/-! ## The fields that are not empty -/

/-- The induction over the fields of a list. -/
theorem field_induction (mark : α) {motive : List α → Prop}
    (last : ∀ list, mark ∉ list → motive list)
    (field : ∀ first rest, mark ∉ first → motive rest → motive (first ++ mark :: rest))
    (list : List α) : motive list := by
  induction size : list.length using Nat.strong_induction_on generalizing list with
  | _ size ih =>
      by_cases marked : mark ∈ list
      · obtain ⟨first, rest, rfl, absent⟩ := List.eq_append_cons_of_mem marked
        refine field first rest absent (ih rest.length ?_ rest rfl)
        rw [← size, List.length_append, List.length_cons]
        omega
      · exact last list marked

/-- The fields between the marks, without the empty ones. -/
def fields (mark : α) (list : List α) : List (List α) :=
  (list.splitOn mark).filter (· ≠ [])

@[simp] theorem fields_nil (mark : α) : fields mark [] = [] := by
  rw [fields, List.splitOn_nil]
  exact List.filter_eq_nil_iff.mpr (by simp)

theorem fields_of_absent (absent : mark ∉ first) (filled : first ≠ []) :
    fields mark first = [first] := by
  rw [fields, List.splitOn_eq_singleton absent]
  exact List.filter_eq_self.mpr (by simpa using filled)

theorem fields_append (absent : mark ∉ first) (filled : first ≠ []) (rest : List α) :
    fields mark (first ++ mark :: rest) = first :: fields mark rest := by
  rw [fields, List.splitOn_append_cons_self_of_not_mem absent]
  exact List.filter_cons_of_pos (by simpa using filled)

theorem fields_cons_mark (mark : α) (rest : List α) :
    fields mark (mark :: rest) = fields mark rest := by
  have split := List.splitOn_append_cons_self_of_not_mem (a := mark) List.not_mem_nil rest
  rw [List.nil_append] at split
  rw [fields, split]
  exact List.filter_cons_of_neg (by simp)

/-- No field contains the mark. -/
theorem absent_of_mem_fields {list field : List α} (member : field ∈ fields mark list) :
    mark ∉ field := by
  induction list using field_induction mark with
  | last list absent =>
      by_cases filled : list = []
      · subst filled
        rw [fields_nil] at member
        cases member
      · rw [fields_of_absent absent filled, List.mem_singleton] at member
        rwa [member]
  | field first rest absent ih =>
      by_cases filled : first = []
      · subst filled
        rw [List.nil_append, fields_cons_mark] at member
        exact ih member
      · rw [fields_append absent filled, List.mem_cons] at member
        rcases member with rfl | later
        · exact absent
        · exact ih later

/-! ## Empty fields -/

/-- No field but the last one is empty: the list does not start with the mark, and no mark
follows another. -/
def OnlyLastEmpty (mark : α) (list : List α) : Prop :=
  ¬[mark] <+: list ∧ ¬[mark, mark] <:+: list

instance (mark : α) (list : List α) : Decidable (OnlyLastEmpty mark list) :=
  inferInstanceAs (Decidable (_ ∧ _))

section Marks

omit [DecidableEq α]

theorem onlyLastEmpty_of_absent (absent : mark ∉ first) : OnlyLastEmpty mark first :=
  ⟨fun leading => absent (leading.subset List.mem_cons_self),
    fun doubled => absent (doubled.subset List.mem_cons_self)⟩

theorem not_onlyLastEmpty_cons (mark : α) (rest : List α) : ¬OnlyLastEmpty mark (mark :: rest) :=
  fun only => only.1 (List.prefix_append [mark] rest)

/-- Two marks in a row after a field are the leading mark of the rest or two marks in the rest. -/
theorem doubled_append (absent : mark ∉ first) (rest : List α) :
    [mark, mark] <:+: first ++ mark :: rest ↔
      [mark] <+: rest ∨ [mark, mark] <:+: rest := by
  induction first with
  | nil =>
      rw [List.nil_append, List.infix_cons_iff, List.cons_prefix_cons, and_iff_right rfl]
  | cons head tail ih =>
      have other : mark ≠ head := fun same => absent (same ▸ List.mem_cons_self)
      have later := ih fun member => absent (List.mem_cons_of_mem head member)
      rw [List.cons_append, List.infix_cons_iff, List.cons_prefix_cons, later]
      exact or_iff_right fun starts => other starts.1

theorem onlyLastEmpty_append (absent : mark ∉ first) (filled : first ≠ []) (rest : List α) :
    OnlyLastEmpty mark (first ++ mark :: rest) ↔ OnlyLastEmpty mark rest := by
  have kept : ¬[mark] <+: first ++ mark :: rest := by
    obtain ⟨head, tail, rfl⟩ := List.exists_cons_of_ne_nil filled
    rw [List.cons_append, List.cons_prefix_cons]
    exact fun starts => absent (starts.1 ▸ List.mem_cons_self)
  unfold OnlyLastEmpty
  rw [doubled_append absent, not_or, and_iff_right kept]

end Marks

end RPhoto.Library
