import Mathlib.Algebra.GroupWithZero.Nat
import Mathlib.Data.List.Basic

/-!
# Image options

A `wxImage` carries named options with text values.  The extended JPEG handler
keeps the marker segments of a file in the options `APP0` to `APP15` and `COM`,
and `wxImageOpt` carries these options over an image manipulation.
-/

namespace RPhoto.Jpeg

/-- The characters of a `wxString`. -/
abbrev Text := List Char

/-- The indices of the `APP` markers have literals. -/
instance appIndices : NeZero (16 : Nat) := ⟨Nat.succ_ne_zero 15⟩

/-- The option names the program uses, and any other one. -/
inductive OptionName where
  | app (index : Fin 16)
  | com
  | unknown
  | quality
  | other (name : String)
deriving DecidableEq, Repr

/-- The options of an image, in the order in which they were first set. -/
abbrev Options := List (OptionName × Text)

namespace Options

/-- `GetOption`; an absent option has no value. -/
def getOption (options : Options) (name : OptionName) : Option Text :=
  options.lookup name

/-- `HasOption`. -/
def hasOption (options : Options) (name : OptionName) : Bool :=
  (options.getOption name).isSome

/-- `SetOption`: replace the value of the option or add the option at the end. -/
def setOption : Options → OptionName → Text → Options
  | [], name, value => [(name, value)]
  | (present, old) :: rest, name, value =>
      if present = name then (present, value) :: rest
      else (present, old) :: setOption rest name value

@[simp]
theorem getOption_nil (name : OptionName) : getOption [] name = none := rfl

@[simp]
theorem getOption_setOption_self (options : Options) (name : OptionName) (value : Text) :
    (options.setOption name value).getOption name = some value := by
  induction options with
  | nil => simp [setOption, getOption]
  | cons entry rest ih =>
      obtain ⟨present, old⟩ := entry
      by_cases same : present = name
      · simp [setOption, getOption, same]
      · simpa [setOption, getOption, same, List.lookup_cons, beq_false_of_ne (Ne.symm same)]
          using ih

theorem getOption_setOption_of_ne {options : Options} {name other : OptionName} {value : Text}
    (different : other ≠ name) :
    (options.setOption name value).getOption other = options.getOption other := by
  induction options with
  | nil => simp [setOption, getOption, List.lookup_cons, beq_false_of_ne different]
  | cons entry rest ih =>
      obtain ⟨present, old⟩ := entry
      by_cases same : present = name
      · subst same
        simp [setOption, getOption, List.lookup_cons, beq_false_of_ne different]
      · simp only [setOption, if_neg same]
        unfold getOption at ih ⊢
        rw [List.lookup_cons, List.lookup_cons, ih]

end Options

/-- `wxImageOpt::idsToSave`. -/
def idsToSave : List OptionName :=
  [.app 0, .app 1, .app 2, .app 3, .app 4, .app 5, .app 6, .app 7, .app 8, .app 9, .app 10,
    .app 11, .app 12, .app 13, .app 14, .app 15, .com]

/-- `wxImageOpt::getImageOptions`: the options to save that the image has. -/
def getImageOptions (options : Options) : Options :=
  idsToSave.filterMap fun id => (options.getOption id).map fun value => (id, value)

/-- `wxImageOpt::setImageOptions`, with its default `overwrite = false`. -/
def setImageOptions (saved : Options) (options : Options) : Options :=
  saved.foldl
    (fun options entry =>
      if options.hasOption entry.1 then options else options.setOption entry.1 entry.2)
    options

/-! ## Options carried over a manipulation -/

/-- The saved options are found under the names they were saved for. -/
theorem getOption_saved (options : Options) (ids : List OptionName) (name : OptionName) :
    Options.getOption
        (ids.filterMap fun id => (options.getOption id).map fun value => (id, value)) name =
      if name ∈ ids then options.getOption name else none := by
  induction ids with
  | nil => rfl
  | cons id rest ih =>
      by_cases same : name = id
      · subst same
        cases present : options.getOption name with
        | none =>
            rw [List.filterMap_cons_none (by rw [present]; rfl), ih, if_pos List.mem_cons_self,
              present, ite_self]
        | some value =>
            rw [List.filterMap_cons_some (by rw [present]; rfl), if_pos List.mem_cons_self,
              Options.getOption, List.lookup_cons_self]
      · have elsewhere : (name ∈ id :: rest) = (name ∈ rest) := by simp [same]
        simp only [elsewhere, ← ih]
        cases present : options.getOption id with
        | none => rw [List.filterMap_cons_none (by rw [present]; rfl)]
        | some value =>
            rw [List.filterMap_cons_some (by rw [present]; rfl), Options.getOption,
              List.lookup_cons, beq_false_of_ne same]
            rfl

theorem getOption_getImageOptions {options : Options} {id : OptionName}
    (toSave : id ∈ idsToSave) :
    (getImageOptions options).getOption id = options.getOption id :=
  (getOption_saved options idsToSave id).trans (if_pos toSave)

/-- Saved options fill what an image does not have, and replace nothing. -/
theorem getOption_setImageOptions (saved options : Options) (name : OptionName) :
    (setImageOptions saved options).getOption name =
      (options.getOption name).or (saved.getOption name) := by
  induction saved generalizing options with
  | nil => exact (Option.or_none).symm
  | cons entry rest ih =>
      obtain ⟨id, value⟩ := entry
      refine (ih _).trans ?_
      dsimp only
      by_cases same : name = id
      · subst same
        have saved : Options.getOption ((name, value) :: rest) name = some value :=
          List.lookup_cons_self
        rw [saved]
        cases present : options.getOption name with
        | none =>
            rw [if_neg (by simp [Options.hasOption, present]), Options.getOption_setOption_self]
            rfl
        | some kept =>
            rw [if_pos (by simp [Options.hasOption, present]), present]
            rfl
      · have saved : Options.getOption ((id, value) :: rest) name =
            Options.getOption rest name := by
          rw [Options.getOption, List.lookup_cons, beq_false_of_ne same]
          rfl
        rw [saved]
        split
        · rfl
        · rw [Options.getOption_setOption_of_ne same]

/-- Where a manipulation kept an option or lost it, the saved options restore it. -/
theorem getOption_carried {source options : Options} {id : OptionName} (toSave : id ∈ idsToSave)
    (carried : options.getOption id = none ∨ options.getOption id = source.getOption id) :
    (setImageOptions (getImageOptions source) options).getOption id = source.getOption id := by
  rw [getOption_setImageOptions, getOption_getImageOptions toSave]
  rcases carried with lost | kept
  · rw [lost, Option.none_or]
  · rw [kept, Option.or_self]

end RPhoto.Jpeg
