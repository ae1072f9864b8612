import Mathlib.Data.List.Basic

/-!
# File names

The program keeps paths in a `wxString` and takes them apart with `wxFileName`.
A file name is modelled as its directories and its full name; the extension and
the name proper are read off the full name as `wxFileName` does.
-/

namespace RPhoto.Editing

/-- A path split into its directories and its last component. -/
structure FileName where
  path : List String
  fullName : String
deriving DecidableEq, Repr

/-- The empty string. -/
def noFile : FileName := ⟨[], ""⟩

/-- `wxFileName::SplitPath` on a full name; a leading dot does not start an extension. -/
def splitFullName (fullName : String) : List Char × Option (List Char) :=
  match fullName.toList.reverse.span (· ≠ '.') with
  | (ext, _ :: first :: name) => ((first :: name).reverse, some ext.reverse)
  | _ => (fullName.toList, none)

/-- `GetExt`, in lower case. -/
def FileName.lowerExt (file : FileName) : List Char :=
  ((splitFullName file.fullName).2.getD []).map Char.toLower

/-- `RatioFrame::isJPEGFile`. -/
def isJPEGFile (file : FileName) : Bool :=
  file.lowerExt = "jpeg".toList || file.lowerExt = "jpg".toList

/-- `SetName (GetName () + suffix)`. -/
def FileName.appendName (file : FileName) (suffix : String) : FileName :=
  let (name, ext) := splitFullName file.fullName
  let dotExt := match ext with
    | some ext => '.' :: ext
    | none => []
  { file with fullName := String.ofList (name ++ suffix.toList ++ dotExt) }

/-- One directory component of `wxFileName::Normalize`. -/
def normalizeStep (directories : List String) (component : String) : List String :=
  if component = "." then directories
  else if component = ".." then directories.dropLast
  else directories ++ [component]

/-- `wxFileName::Normalize` on the directories of an absolute path. -/
def normalize (directories : List String) : List String :=
  directories.foldl normalizeStep []

/-- `m_sAutoSaveFolder`. -/
inductive AutoSaveFolder where
  | empty
  | absolute (path : List String)
  | relative (path : List String)
deriving DecidableEq, Repr

/-- The destination `ImageCleanup` computes for an automatic save. -/
def autoSaveName (original : FileName) (folder : AutoSaveFolder) (suffix : String) : FileName :=
  let named := original.appendName suffix
  match folder with
  | .empty => named
  | .absolute path => { named with path := path }
  | .relative path => { named with path := normalize (named.path ++ path) }

/-- The legality test of a new label in `OnFileNameEndEdit`. -/
def isIllegalLabel (label : String) : Bool :=
  label = "" || label = "." || label = ".." || '/' ∈ label.toList

example : isJPEGFile ⟨["photos"], "Beach.JPG"⟩ = true := by decide

example : isJPEGFile ⟨["photos"], ".jpg"⟩ = false := by decide

example :
    autoSaveName ⟨["home", "photos"], "a.jpg"⟩ (.relative ["..", "kept"]) "-crop" =
      ⟨["home", "kept"], "a-crop.jpg"⟩ := by
  decide

end RPhoto.Editing
