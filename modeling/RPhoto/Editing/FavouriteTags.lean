import RPhoto.Jpeg.Options
import RPhoto.Library.Fields
import RPhoto.Library.Fuel

/-!
# The favourite tags

The loop of `imageUpdateExif` that fills the list of the favourite tags from the
setting `JPEG/FavExif`.  An empty field is taken for the last one: the loop then
inserts the whole rest of the setting as one row, commas included, and ends.
-/

namespace RPhoto.Editing

open RPhoto.Jpeg (Text)
open RPhoto.Library

/-- `RPHOTO_DEFAULT_EXIF_FAVORITES`. -/
def defaultExifFavorites : Text :=
  ("DateTime,ExposureTime,FocalLength,FNumber,ISOSpeedRatings,Flash,ExposureBiasValue," ++
    "MaxApertureValue,Orientation,PixelXDimension,PixelYDimension,Make,Model,Copyright," ++
    "ImageDescription,Contrast,Saturation,Sharpness").toList

/-- The row of one turn of the loop. -/
def favCur (favExif : Text) : Text :=
  let favCur := beforeFirst ',' favExif
  if favCur = [] then favExif else favCur

/-- The loop that inserts the rows. -/
def insertFavourites : Nat → Text → List Text → Option (List Text)
  | 0, _, _ => none
  | fuel + 1, favExif, rows =>
      if favExif.length > 0 then
        insertFavourites fuel (favExif.drop ((favCur favExif).length + 1))
          (rows ++ [favCur favExif])
      else some rows

/-- The text of the setting; one that is not set has the default. -/
def favExif (setting : Option Text) : Text := setting.getD defaultExifFavorites

/-- The rows of the list of favourites, which is emptied before. -/
def favouriteRows (fuel : Nat) (setting : Option Text) : Option (List Text) :=
  insertFavourites fuel (favExif setting) []

/-! ## One turn of the loop -/

section Turns

variable {first : Text} {rows : List Text}

theorem insert_nil (fuel : Nat) (rows : List Text) :
    insertFavourites (fuel + 1) [] rows = some rows := rfl

/-- A turn takes one row from a text that is not empty. -/
theorem insert_turn (fuel : Nat) (filled : first ≠ []) (rows : List Text) :
    insertFavourites (fuel + 1) first rows =
      insertFavourites fuel (first.drop ((favCur first).length + 1)) (rows ++ [favCur first]) :=
  if_pos (List.length_pos_iff.mpr filled)

theorem favCur_of_absent (absent : ',' ∉ first) : favCur first = first := by
  unfold favCur
  rw [beforeFirst_of_absent absent]
  exact ite_eq_right_iff.mpr fun _ => rfl

theorem favCur_append (absent : ',' ∉ first) (filled : first ≠ []) (rest : Text) :
    favCur (first ++ ',' :: rest) = first := by
  unfold favCur
  rw [beforeFirst_append absent]
  exact if_neg filled

/-- An empty field is taken for the last one. -/
theorem favCur_cons_mark (rest : Text) : favCur (',' :: rest) = ',' :: rest := rfl

/-- A row that is the whole text is the last one. -/
theorem insert_last (filled : first ≠ []) (whole : favCur first = first) (rows : List Text) :
    Returns (fun fuel => insertFavourites fuel first rows) (· = rows ++ [first]) := by
  refine Returns.step (fun fuel => insert_turn fuel filled rows) ?_
  rw [whole, List.drop_eq_nil_of_le (Nat.le_succ _)]
  exact Returns.result (fun fuel => insert_nil fuel _) rfl

/-- A field that is not empty becomes a row, and the loop goes on after its comma. -/
theorem insert_field (absent : ',' ∉ first) (filled : first ≠ []) (rest : Text)
    {post : List Text → Prop}
    (later : Returns (fun fuel => insertFavourites fuel rest (rows ++ [first])) post) :
    Returns (fun fuel => insertFavourites fuel (first ++ ',' :: rest) rows) post := by
  refine Returns.step (fun fuel => insert_turn fuel (by simp) rows) ?_
  have after : (first ++ ',' :: rest).drop (first.length + 1) = rest := by
    rw [← List.drop_drop, List.drop_left]
    rfl
  rwa [favCur_append absent filled, after]

end Turns

/-! ## The whole loop -/

/-- The loop ends; what it inserts are the fields exactly when only the last field is empty. -/
theorem insert_returns (text : Text) :
    ∃ added, (added = fields ',' text ↔ OnlyLastEmpty ',' text) ∧
      ∀ rows, Returns (fun fuel => insertFavourites fuel text rows) (· = rows ++ added) := by
  induction text using field_induction ',' with
  | last text absent =>
      have only := onlyLastEmpty_of_absent absent
      by_cases filled : text = []
      · subst filled
        refine ⟨[], ⟨fun _ => only, fun _ => (fields_nil ',').symm⟩, fun rows => ?_⟩
        exact Returns.result (fun fuel => insert_nil fuel rows) (List.append_nil rows).symm
      · refine ⟨[text], ⟨fun _ => only, fun _ => (fields_of_absent absent filled).symm⟩, ?_⟩
        exact insert_last filled (favCur_of_absent absent)
  | field first rest absent ih =>
      by_cases filled : first = []
      · -- The whole rest becomes a row, and it has a comma.
        subst filled
        refine ⟨[',' :: rest], iff_of_false ?_ (not_onlyLastEmpty_cons ',' rest),
          insert_last (List.cons_ne_nil _ _) (favCur_cons_mark rest)⟩
        intro same
        have row : ',' :: rest ∈ fields ',' (',' :: rest) := same ▸ List.mem_cons_self
        exact absent_of_mem_fields row List.mem_cons_self
      · obtain ⟨added, exact_iff, returns⟩ := ih
        refine ⟨first :: added, ?_, fun rows => insert_field absent filled rest ?_⟩
        · rw [fields_append absent filled, onlyLastEmpty_append absent filled, ← exact_iff]
          exact ⟨fun same => (List.cons.inj same).2, fun same => same ▸ rfl⟩
        · have inserted := returns (rows ++ [first])
          rwa [List.append_assoc, List.singleton_append] at inserted

/-- The loop over the favourites ends for every setting, and its rows are the fields that are not
empty exactly when the setting has no empty field before the last one. -/
theorem favouriteRows_eq_fields_iff (setting : Option Text) :
    Returns (fun fuel => favouriteRows fuel setting) (fun _ => True) ∧
      (Returns (fun fuel => favouriteRows fuel setting) (· = fields ',' (favExif setting)) ↔
        OnlyLastEmpty ',' (favExif setting)) := by
  obtain ⟨added, exact_iff, returns⟩ := insert_returns (favExif setting)
  have inserted := returns []
  refine ⟨inserted.mono fun _ _ => trivial, ?_⟩
  rw [← exact_iff]
  constructor
  · intro listed
    obtain ⟨rows, both, _⟩ := inserted.and listed
    exact both.1.symm.trans both.2
  · intro same
    exact inserted.mono fun rows found => found.trans same

/-- Two commas in a row leave a row with a comma. -/
theorem favouriteRows_doubled_comma :
    ¬Returns (fun fuel => favouriteRows fuel (some ['a', ',', ',', 'b']))
      (· = fields ',' (favExif (some ['a', ',', ',', 'b']))) := by
  intro listed
  have found : Returns (fun fuel => favouriteRows fuel (some ['a', ',', ',', 'b']))
      (· = [['a'], [',', 'b']]) :=
    @insert_field ['a'] [] (by decide) (by decide) [',', 'b'] _
      (insert_last (by decide) (favCur_cons_mark ['b']) [['a']])
  obtain ⟨rows, both, _⟩ := found.and listed
  exact absurd (both.1.symm.trans both.2) (by decide)

end RPhoto.Editing
