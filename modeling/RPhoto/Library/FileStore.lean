import Mathlib.Logic.Function.Basic

/-!
# File stores

A file store maps paths to contents.  Besides the present contents it remembers,
for every path, the data of the last write to it, and carries the proof that a
file which is present holds exactly that data.  A reader of the store can then
speak about the bytes a file was last written with even after its removal.
-/

namespace RPhoto.Library

/-- Files by path, with the data last written under each path. -/
structure FileStore (Path Content : Type) where
  content : Path → Option Content
  written : Path → Option Content
  content_written : ∀ {path : Path} {data : Content},
    content path = some data → written path = some data

namespace FileStore

variable {Path Content : Type}

/-- A store in which nothing has happened since its files were written. -/
def ofContent (content : Path → Option Content) : FileStore Path Content :=
  ⟨content, content, id⟩

@[simp]
theorem content_ofContent (content : Path → Option Content) :
    (ofContent content).content = content := rfl

/-- The file is present. -/
def Holds (store : FileStore Path Content) (path : Path) : Prop :=
  store.content path ≠ none

instance (store : FileStore Path Content) (path : Path) :
    Decidable (store.Holds path) :=
  decidable_of_iff ((store.content path).isSome = true)
    (by unfold Holds; cases store.content path <;> simp)

/-- The file is present with the data it was last written with. -/
def Intact (store : FileStore Path Content) (path : Path) : Prop :=
  ∃ data, store.content path = some data ∧ store.written path = some data

theorem holds_iff {store : FileStore Path Content} {path : Path} :
    store.Holds path ↔ ∃ data, store.content path = some data :=
  Option.ne_none_iff_exists'

/-- Presence is enough: a present file has never lost its last write. -/
theorem Holds.intact {store : FileStore Path Content} {path : Path}
    (held : store.Holds path) : store.Intact path := by
  obtain ⟨data, present⟩ := holds_iff.mp held
  exact ⟨data, present, store.content_written present⟩

theorem Holds.content_eq_written {store : FileStore Path Content} {path : Path}
    (held : store.Holds path) : store.content path = store.written path := by
  obtain ⟨data, present, written⟩ := held.intact
  rw [present, written]

variable [DecidableEq Path]

/-- Create or overwrite a file. -/
def write (store : FileStore Path Content) (path : Path) (data : Content) :
    FileStore Path Content where
  content := Function.update store.content path (some data)
  written := Function.update store.written path (some data)
  content_written := by
    intro other found present
    by_cases same : other = path
    · subst same
      simpa using present
    · simp only [Function.update_of_ne same] at present ⊢
      exact store.content_written present

/-- Remove a file; removing an absent one does nothing. -/
def remove (store : FileStore Path Content) (path : Path) : FileStore Path Content where
  content := Function.update store.content path none
  written := store.written
  content_written := by
    intro other found present
    by_cases same : other = path
    · subst same
      simp at present
    · rw [Function.update_of_ne same] at present
      exact store.content_written present

/-- Rename a file over whatever the destination held; an absent source and a
source equal to the destination change nothing. -/
def rename (store : FileStore Path Content) (source destination : Path) :
    FileStore Path Content :=
  if source = destination then store
  else
    match store.content source with
    | none => store
    | some data => (store.write destination data).remove source

/-- Only the last of two writes to a file remains. -/
@[simp]
theorem write_write (store : FileStore Path Content) (path : Path) (first second : Content) :
    (store.write path first).write path second = store.write path second := by
  unfold write
  simp only [Function.update_idem]

@[simp]
theorem content_write_self (store : FileStore Path Content) (path : Path) (data : Content) :
    (store.write path data).content path = some data := by
  simp [write]

theorem content_write_of_ne {store : FileStore Path Content} {path other : Path} {data : Content}
    (different : other ≠ path) : (store.write path data).content other = store.content other := by
  simp [write, different]

@[simp]
theorem written_write_self (store : FileStore Path Content) (path : Path) (data : Content) :
    (store.write path data).written path = some data := by
  simp [write]

theorem written_write_of_ne {store : FileStore Path Content} {path other : Path} {data : Content}
    (different : other ≠ path) : (store.write path data).written other = store.written other := by
  simp [write, different]

@[simp]
theorem written_remove (store : FileStore Path Content) (path : Path) :
    (store.remove path).written = store.written := rfl

@[simp]
theorem content_remove_self (store : FileStore Path Content) (path : Path) :
    (store.remove path).content path = none := by
  simp [remove]

theorem content_remove_of_ne {store : FileStore Path Content} {path other : Path}
    (different : other ≠ path) : (store.remove path).content other = store.content other := by
  simp [remove, different]

/-- A removal never brings a file or other data into being. -/
theorem content_of_content_remove {store : FileStore Path Content} {path other : Path}
    {data : Content} (present : (store.remove path).content other = some data) :
    store.content other = some data := by
  by_cases same : other = path
  · subst same
    simp at present
  · rwa [content_remove_of_ne same] at present

theorem holds_write_self (store : FileStore Path Content) (path : Path) (data : Content) :
    (store.write path data).Holds path := by
  simp [Holds]

theorem Holds.write {store : FileStore Path Content} {other : Path} (held : store.Holds other)
    (path : Path) (data : Content) : (store.write path data).Holds other := by
  by_cases same : other = path
  · subst same
    exact store.holds_write_self other data
  · rwa [Holds, content_write_of_ne same]

theorem rename_content_of_ne {store : FileStore Path Content} {source destination other : Path}
    (notSource : other ≠ source) (notDestination : other ≠ destination) :
    (store.rename source destination).content other = store.content other := by
  unfold rename
  split
  · rfl
  · split
    · rfl
    · rw [content_remove_of_ne notSource, content_write_of_ne notDestination]

/-- A rename between two different paths moves the content of a present source. -/
theorem rename_content_destination {store : FileStore Path Content} {source destination : Path}
    {data : Content} (different : source ≠ destination)
    (present : store.content source = some data) :
    (store.rename source destination).content destination = some data := by
  simp only [rename, if_neg different, present]
  rw [content_remove_of_ne (Ne.symm different), content_write_self]

theorem rename_content_source {store : FileStore Path Content} {source destination : Path}
    (different : source ≠ destination) (held : store.Holds source) :
    (store.rename source destination).content source = none := by
  obtain ⟨data, present⟩ := holds_iff.mp held
  simp [rename, different, present]

theorem rename_of_absent {store : FileStore Path Content} {source destination : Path}
    (absent : store.content source = none) : store.rename source destination = store := by
  unfold rename
  split
  · rfl
  · rw [absent]

@[simp]
theorem rename_self (store : FileStore Path Content) (path : Path) :
    store.rename path path = store := by
  simp [rename]

end FileStore

end RPhoto.Library
