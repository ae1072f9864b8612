import Mathlib.Logic.Relation
import RPhoto.Lossless.Composition
import RPhoto.Lossless.MarkersKept

/-!
# Markers along runs of the transcoder

A file may be turned and cropped any number of times.  Its color space stays what it was;
its density and its other markers do when all markers are copied, and duplicates of the
markers the encoder writes do not accumulate.  Exif data at the front of the file gives
the size of the picture all along, if it has done so once.
-/

namespace RPhoto.Lossless

open RPhoto.Jpeg RPhoto.Library

variable {run : Transcoding} {first last before after : Image × FileMarkers}
variable {marker changed : SavedMarker} {markers : List SavedMarker} {file output : FileMarkers}
variable {source destination : Header} {copyoption : CopyOption}

theorem transcodeFile_eq_some (executed : transcodeFile run before = some after) :
    jpegtran run.option run.scanInfo run.memory before.1 = some after.1 ∧
      transcodeMarkers run.copyoption before.1.header after.1.header before.2 = some after.2 := by
  obtain ⟨image, ran, executed⟩ := Option.bind_eq_some_iff.mp executed
  obtain ⟨markers, copied, same⟩ := Option.bind_eq_some_iff.mp executed
  cases same
  exact ⟨ran, copied⟩

/-- The components keep their number and their names. -/
theorem components_kept {option : TransformOption} {scanInfo : ScanInfo}
    {memory : Nat → Plane Block} {image result : Image}
    (ran : jpegtran option scanInfo memory image = some result) :
    result.header.numComponents = image.header.numComponents ∧
      ∀ ci, (result.header.compInfo ci).componentId = (image.header.compInfo ci).componentId := by
  obtain ⟨info, -, turned⟩ := turned_of_jpegtran ran
  rw [turned.header]
  refine ⟨adjust_numComponents _ _ _, fun ci => ?_⟩
  unfold adjustParameters normalizeSampling
  cases option.transform.transposes <;> by_cases single : image.header.numComponents = 1 <;>
    simp [single, transposeCriticalParameters]

/-- A transformation of the whole picture is carried out, whatever the markers are. -/
theorem transcodes {image : Image} (tables : copiesCriticalParameters image)
    (fits : image.header.Fits none) (transform : Transform) (copyoption : CopyOption)
    (memory : Nat → Plane Block) (markers : FileMarkers) :
    ∃ result, transcodeFile ⟨.only transform, copyoption, none, memory⟩ (image, markers) =
      some result := by
  obtain ⟨result, ran⟩ := (accepts_only tables transform).runs fits memory
  obtain ⟨saved, adjusts, -⟩ :=
    adjustExif_gives image.header result.header (markers.saved copyoption)
  have copied : (transcodeMarkers copyoption image.header result.header markers).isSome := by
    unfold transcodeMarkers
    dsimp only
    rw [adjusts]
    rfl
  obtain ⟨output, copied⟩ := Option.isSome_iff_exists.mp copied
  exact ⟨(result, output), Option.bind_eq_some_iff.mpr ⟨result, ran,
    Option.bind_eq_some_iff.mpr ⟨output, copied, rfl⟩⟩⟩

/-- A picture in three colors. -/
def sampleColors : Image :=
  { sampleImage with
    header := { sampleImage.header with
      numComponents := 3
      compInfo := fun ci => if ci = 0 then ⟨1, 2, 1, 0⟩ else ⟨ci + 1, 1, 1, 1⟩ }
    setUp := by decide
    quantTable := fun ci _ _ => if ci = 0 then 1 else 2 }

/-- Exif data, a JFIF marker and a comment. -/
def sampleMarkers : FileMarkers where
  before :=
    [⟨.app 1, exifLetters ++ Exif.sampleTIFF, by decide⟩,
      emitJFIF ⟨true, 1, 2, 1, 300, 300⟩, ⟨.com, [104, 105], by decide⟩]
  between := []

theorem sampleColors_tables : copiesCriticalParameters sampleColors := by decide +kernel

theorem sampleMarkers_quiet : sampleMarkers.QuietBetween := fun _ member => nomatch member

/-! ## The color space and the density -/

/-- However a file is transcoded, a decoder takes it for a picture in the same color space. -/
theorem color_space_kept (quiet : first.2.QuietBetween)
    (runs : Run transcodeFile (fun _ _ => True) first last) (copyoption : CopyOption) :
    last.2.colorSpace last.1.header copyoption =
      first.2.colorSpace first.1.header copyoption := by
  rw [colorSpace_eq, colorSpace_eq]
  refine (@Run.invariant _ _ _ _ (fun file => file.2.QuietBetween ∧
    guessColorSpace file.1.header file.2.info = guessColorSpace first.1.header first.2.info)
    ?_ _ _ runs ⟨quiet, rfl⟩).2
  rintro run before after - executed ⟨calm, same⟩
  obtain ⟨ran, copied⟩ := transcodeFile_eq_some executed
  obtain ⟨count, names⟩ := components_kept ran
  exact ⟨output_quiet copied,
    (guess_congr _ count names).trans ((colorSpace_step calm copied).trans same)⟩

theorem color_space_kept_sample :
    ∃ result, transcodeFile ⟨.only .rot90, .comments, none, fun _ _ _ _ _ => 9⟩
        (sampleColors, sampleMarkers) = some result ∧
      result.2.colorSpace result.1.header .all = .yCbCr := by
  obtain ⟨result, ran⟩ := transcodes sampleColors_tables (by decide) .rot90 .comments
    (fun _ _ _ _ _ => 9) sampleMarkers
  exact ⟨result, ran, color_space_kept sampleMarkers_quiet (.single _ trivial ran) .all⟩

/-- When every run copies all markers the density stays. -/
theorem density_kept (quiet : first.2.QuietBetween)
    (runs : Run transcodeFile (fun run _ => run.copyoption = .all) first last) :
    last.2.info.jfif.density = first.2.info.jfif.density := by
  refine (@Run.invariant _ _ _ _ (fun file => file.2.QuietBetween ∧
    file.2.info.jfif.density = first.2.info.jfif.density) ?_ _ _ runs ⟨quiet, rfl⟩).2
  rintro run before after all executed ⟨calm, same⟩
  obtain ⟨-, copied⟩ := transcodeFile_eq_some executed
  rw [all] at copied
  exact ⟨output_quiet copied, (density_step calm copied).trans same⟩

theorem density_kept_sample :
    ∃ result, transcodeFile ⟨.only .rot90, .all, none, fun _ _ _ _ _ => 9⟩
        (sampleColors, sampleMarkers) = some result ∧
      result.2.info.jfif.density = (1, 300, 300) := by
  obtain ⟨result, ran⟩ := transcodes sampleColors_tables (by decide) .rot90 .all
    (fun _ _ _ _ _ => 9) sampleMarkers
  exact ⟨result, ran, density_kept sampleMarkers_quiet (.single _ rfl ran)⟩

/-! ## The size in Exif data -/

/-- All markers of a file. -/
def FileMarkers.all (file : FileMarkers) : List SavedMarker := file.before ++ file.between

/-- In Exif data at the front of the file the SubIFD comes after the entry that points at it. -/
def FileMarkers.SubIFDAfter (file : FileMarkers) : Prop :=
  ∀ marker, file.all.head? = some marker → marker.isExif = true →
    Exif.SubIFDFollows (marker.data.drop 6)

/-- Exif data at the front of the file gives the size of the picture. -/
def RecordsItsSize (file : Image × FileMarkers) : Prop :=
  ∀ marker, file.2.all.head? = some marker → marker.isExif = true →
    Exif.RecordsSize (marker.data.drop 6) file.1.header.imageWidth file.1.header.imageHeight

theorem not_exif_of_other (other : marker.marker ≠ .app 1) : marker.isExif = false :=
  decide_eq_false fun exif => other exif.1

/-- Without duplicates to leave out, all markers are copied. -/
theorem copies_all (markers : List SavedMarker) :
    jcopyMarkersExecute false false markers = markers := by
  refine List.filter_eq_self.mpr fun marker _ => ?_
  rfl

/-- Exif data at the front is that of the source, with the size it had or with a new one. -/
theorem front_adjusted {adjusted : List SavedMarker}
    (adjusts : adjustExif source destination markers = some adjusted)
    (front : adjusted.head? = some changed) (exif : changed.isExif = true) :
    ∃ first, markers.head? = some first ∧ first.isExif = true ∧
      (changed = first ∧ destination.imageWidth = source.imageWidth ∧
          destination.imageHeight = source.imageHeight ∨
        Resized destination.imageWidth destination.imageHeight first changed) := by
  obtain ⟨same, gives, alternatives⟩ := adjustExif_gives source destination markers
  cases gives.symm.trans adjusts
  rcases alternatives with ⟨rfl, unchanged⟩ | ⟨first, resized, rest, rfl, isExif, rfl, resizes⟩
  · exact ⟨changed, front, exif, .inl ⟨rfl,
      unchanged ((Option.any_eq_true _ _).mpr ⟨changed, front, exif⟩)⟩⟩
  · cases front
    exact ⟨first, rfl, isExif, .inr resizes⟩

/-- Exif data at the front of what is written stands in front of what is copied. -/
theorem written_front {writeJFIF writeAdobe : Bool} {info : JFIFInfo} {space : ColorSpace}
    (front : (writtenMarkers writeJFIF writeAdobe info space markers).head? = some marker)
    (exif : marker.isExif = true) : markers.head? = some marker := by
  have ours : ∀ own : SavedMarker, own.marker ≠ .app 1 → own ≠ marker := by
    rintro own other rfl
    exact Bool.false_ne_true ((not_exif_of_other other).symm.trans exif)
  unfold writtenMarkers at front
  cases writeJFIF with
  | true =>
      refine absurd (Option.some.inj front) (ours _ ?_)
      exact show MarkerCode.app 0 ≠ .app 1 by decide
  | false =>
      cases writeAdobe with
      | true =>
          refine absurd (Option.some.inj front) (ours _ ?_)
          exact show MarkerCode.app 14 ≠ .app 1 by decide
      | false =>
          rw [copies_all] at front
          exact front

/-- Exif data at the front of the result comes from the front of the source. -/
theorem front_exif (call : transcodeMarkers copyoption source destination file = some output)
    (front : output.all.head? = some changed) (exif : changed.isExif = true) :
    ∃ first, file.all.head? = some first ∧ first.isExif = true ∧
      (changed = first ∧ destination.imageWidth = source.imageWidth ∧
          destination.imageHeight = source.imageHeight ∨
        Resized destination.imageWidth destination.imageHeight first changed) := by
  obtain ⟨markers, adjusts, between, written⟩ := transcodeMarkers_eq_some call
  rw [FileMarkers.all, between, List.append_nil, written] at front
  obtain ⟨first, head, isExif, how⟩ := front_adjusted adjusts (written_front front exif) exif
  have all := copies_all_of_exif ((Option.any_eq_true _ _).mpr ⟨first, head, isExif⟩)
  rw [all, saved_all] at head
  exact ⟨first, head, isExif, how⟩

theorem Resized.exif {newWidth newHeight : Nat}
    (resized : Resized newWidth newHeight marker changed) (exif : marker.isExif = true) :
    changed.isExif = true := by
  obtain ⟨code, letters⟩ := of_decide_eq_true exif
  refine decide_eq_true ⟨resized.code.trans code, ?_⟩
  rw [← @isPrefix_take _ _ 6 (by decide), resized.letters, isPrefix_take (by decide)]
  exact letters

theorem sampleMarkers_after : sampleMarkers.SubIFDAfter := by
  intro marker front exif
  cases front
  exact Exif.sampleTIFF_follows

theorem sampleMarkers_records : RecordsItsSize (sampleColors, sampleMarkers) := by
  intro marker front exif
  cases front
  have entries : Exif.exifEntries Exif.sampleTIFF = (false, [24, 36]) := by decide +kernel
  have width : Exif.read16 false Exif.sampleTIFF 24 = .ok 0xA002 := by decide +kernel
  have height : Exif.read16 false Exif.sampleTIFF 36 = .ok 0xA003 := by decide +kernel
  change Exif.RecordsSize Exif.sampleTIFF 16 12
  rw [Exif.RecordsSize, entries]
  rintro entry member value ⟨tagnum, read, size⟩
  rcases List.mem_cons.mp member with rfl | member
  · cases width.symm.trans read
    cases size
    decide +kernel
  · cases List.mem_singleton.mp member
    cases height.symm.trans read
    cases size
    decide +kernel

/-- A marker of neither kind the encoder writes. -/
def SavedMarker.isOther (marker : SavedMarker) : Bool := !marker.isJFIF && !marker.isAdobe

/-- Exif data whose size has been set any number of times. -/
def SizesSet : SavedMarker → SavedMarker → Prop :=
  Relation.ReflTransGen fun marker changed =>
    ∃ newWidth newHeight, Resized newWidth newHeight marker changed

/-- The same markers, byte for byte but for the size in Exif data at the front. -/
inductive FrontSized : List SavedMarker → List SavedMarker → Prop where
  | same (markers : List SavedMarker) : FrontSized markers markers
  | sized {first changed : SavedMarker} (rest : List SavedMarker) (exif : first.isExif = true)
      (sizes : SizesSet first changed) : FrontSized (first :: rest) (changed :: rest)

theorem not_duplicate_of_exif (exif : marker.isExif = true) :
    marker.isOther = true ∧ marker.isJFIF = false ∧ marker.isAdobe = false := by
  obtain ⟨-, -, jfif, adobe⟩ := not_tells_of_app1 (of_decide_eq_true exif).1
  unfold SavedMarker.isOther
  rw [jfif, adobe]
  exact ⟨rfl, rfl, rfl⟩

/-- Adjusting the size leaves the markers of the encoder's kinds alone. -/
theorem adjustExif_duplicates {adjusted : List SavedMarker}
    (adjusts : adjustExif source destination markers = some adjusted) :
    adjusted.filter SavedMarker.isJFIF = markers.filter SavedMarker.isJFIF ∧
      adjusted.filter SavedMarker.isAdobe = markers.filter SavedMarker.isAdobe := by
  obtain ⟨same, gives, alternatives⟩ := adjustExif_gives source destination markers
  cases gives.symm.trans adjusts
  rcases alternatives with ⟨rfl, -⟩ | ⟨first, resized, rest, rfl, isExif, rfl, resizes⟩
  · exact ⟨rfl, rfl⟩
  · obtain ⟨-, jfif, adobe⟩ := not_duplicate_of_exif isExif
    obtain ⟨-, noJFIF, noAdobe⟩ := not_duplicate_of_exif (resizes.exif isExif)
    constructor
    · rw [List.filter_cons_of_neg (Bool.eq_false_iff.mp jfif),
        List.filter_cons_of_neg (Bool.eq_false_iff.mp noJFIF)]
    · rw [List.filter_cons_of_neg (Bool.eq_false_iff.mp adobe),
        List.filter_cons_of_neg (Bool.eq_false_iff.mp noAdobe)]

section Written

variable (writeJFIF writeAdobe : Bool) (info : JFIFInfo) (space : ColorSpace)
  (markers : List SavedMarker)

theorem emitJFIF_kind : (emitJFIF info).isJFIF = true ∧ (emitJFIF info).isAdobe = false :=
  ⟨decide_eq_true ⟨rfl, _, rfl⟩, rfl⟩

theorem emitAdobe_kind : (emitAdobe space).isJFIF = false ∧ (emitAdobe space).isAdobe = true :=
  ⟨rfl, decide_eq_true ⟨rfl, _, rfl⟩⟩

theorem written_other :
    (writtenMarkers writeJFIF writeAdobe info space markers).filter SavedMarker.isOther =
      markers.filter SavedMarker.isOther := by
  have copied : (jcopyMarkersExecute writeJFIF writeAdobe markers).filter SavedMarker.isOther =
      markers.filter SavedMarker.isOther := by
    unfold jcopyMarkersExecute
    rw [List.filter_filter]
    refine List.filter_congr fun marker _ => ?_
    unfold SavedMarker.isOther
    cases marker.isJFIF <;> cases marker.isAdobe <;> simp
  unfold writtenMarkers
  rw [List.filter_append, List.filter_append, copied]
  cases writeJFIF <;> cases writeAdobe <;>
    simp [SavedMarker.isOther, emitJFIF_kind, emitAdobe_kind]

theorem not_both (marker : SavedMarker) : marker.isJFIF = false ∨ marker.isAdobe = false := by
  cases jfif : marker.isJFIF with
  | false => exact .inl rfl
  | true => exact .inr (decide_eq_false fun adobe =>
      absurd ((of_decide_eq_true jfif).1.symm.trans adobe.1) (by decide))

/-- The JFIF markers of the result: the one written, or else those there were. -/
theorem written_jfifs :
    (writtenMarkers writeJFIF writeAdobe info space markers).filter SavedMarker.isJFIF =
      if writeJFIF then [emitJFIF info] else markers.filter SavedMarker.isJFIF := by
  have copied : (jcopyMarkersExecute writeJFIF writeAdobe markers).filter SavedMarker.isJFIF =
      markers.filter fun marker => !writeJFIF && marker.isJFIF := by
    unfold jcopyMarkersExecute
    rw [List.filter_filter]
    refine List.filter_congr fun marker _ => ?_
    rcases not_both marker with jfif | adobe
    · simp [jfif]
    · cases writeJFIF <;> simp [adobe]
  unfold writtenMarkers
  rw [List.filter_append, List.filter_append, copied]
  cases writeJFIF <;> cases writeAdobe <;> simp [emitJFIF_kind, emitAdobe_kind]

theorem written_adobes :
    (writtenMarkers writeJFIF writeAdobe info space markers).filter SavedMarker.isAdobe =
      if writeAdobe then [emitAdobe space] else markers.filter SavedMarker.isAdobe := by
  have copied : (jcopyMarkersExecute writeJFIF writeAdobe markers).filter SavedMarker.isAdobe =
      markers.filter fun marker => !writeAdobe && marker.isAdobe := by
    unfold jcopyMarkersExecute
    rw [List.filter_filter]
    refine List.filter_congr fun marker _ => ?_
    rcases not_both marker with jfif | adobe
    · cases writeAdobe <;> simp [jfif]
    · simp [adobe]
  unfold writtenMarkers
  rw [List.filter_append, List.filter_append, copied]
  cases writeJFIF <;> cases writeAdobe <;> simp [emitJFIF_kind, emitAdobe_kind]

end Written

/--
The markers a file has after any number of runs: all that are not the encoder's own, in
their order and byte for byte but for the size in Exif data at the front, and at most one
of each of the encoder's unless there were more.
-/
structure MarkersKept (source result : FileMarkers) : Prop where
  others : ∃ sized, FrontSized source.all sized ∧
    result.all.filter SavedMarker.isOther = sized.filter SavedMarker.isOther
  jfif : (result.all.filter SavedMarker.isJFIF).length ≤
    max 1 (source.all.filter SavedMarker.isJFIF).length
  adobe : (result.all.filter SavedMarker.isAdobe).length ≤
    max 1 (source.all.filter SavedMarker.isAdobe).length

/-- The other markers of a file, of which only the first of the list can be at its front. -/
structure Follows (sized : List SavedMarker) (file : FileMarkers) : Prop where
  others : file.all.filter SavedMarker.isOther = sized.filter SavedMarker.isOther
  front : ∀ marker, file.all.head? = some marker → marker.isExif = true →
    sized.head? = some marker

/-- The list that the markers of the next file follow. -/
theorem Follows.step {sized : List SavedMarker} (follows : Follows sized file)
    (call : transcodeMarkers .all source destination file = some output) :
    ∃ next, (next = sized ∨ ∃ first changed rest newWidth newHeight, sized = first :: rest ∧
        first.isExif = true ∧ Resized newWidth newHeight first changed ∧ next = changed :: rest) ∧
      Follows next output := by
  obtain ⟨markers, adjusts, between, written⟩ := transcodeMarkers_eq_some call
  rw [saved_all] at adjusts
  have all : output.all = output.before := by
    rw [FileMarkers.all, between, List.append_nil]
  obtain ⟨same, gives, alternatives⟩ := adjustExif_gives source destination file.all
  cases gives.symm.trans adjusts
  rcases alternatives with ⟨rfl, -⟩ | ⟨first, changed, rest, listed, exif, rfl, resizes⟩
  · refine ⟨sized, .inl rfl, ?_, fun marker front isExif => ?_⟩
    · rw [all, written, written_other]
      exact follows.others
    · rw [all, written] at front
      exact follows.front marker (written_front front isExif) isExif
  · have others := follows.others
    have front := follows.front first (by rw [listed]; rfl) exif
    obtain ⟨tail, rfl⟩ := List.head?_eq_some_iff.mp front
    obtain ⟨isOther, -, -⟩ := not_duplicate_of_exif exif
    obtain ⟨stillOther, -, -⟩ := not_duplicate_of_exif (resizes.exif exif)
    rw [listed, List.filter_cons_of_pos isOther, List.filter_cons_of_pos isOther] at others
    refine ⟨changed :: tail, .inr ⟨first, changed, tail, _, _, rfl, exif, resizes, rfl⟩, ?_,
      fun marker front isExif => ?_⟩
    · rw [all, written, written_other, List.filter_cons_of_pos stillOther,
        List.filter_cons_of_pos stillOther, (List.cons.inj others).2]
    · rw [all, written] at front
      exact (written_front front isExif : some changed = some marker)

theorem FrontSized.step {sized next : List SavedMarker} (kept : FrontSized markers sized)
    (steps : next = sized ∨ ∃ first changed rest newWidth newHeight, sized = first :: rest ∧
      first.isExif = true ∧ Resized newWidth newHeight first changed ∧ next = changed :: rest) :
    FrontSized markers next := by
  rcases steps with rfl | ⟨first, changed, rest, newWidth, newHeight, rfl, exif, resizes, rfl⟩
  · exact kept
  · cases kept with
    | same => exact .sized rest exif (.single ⟨newWidth, newHeight, resizes⟩)
    | sized _ isExif sizes => exact .sized rest isExif (sizes.tail ⟨newWidth, newHeight, resizes⟩)

/-- One run adds at most the encoder's own marker of each kind. -/
theorem duplicates_step (call : transcodeMarkers .all source destination file = some output) :
    (output.all.filter SavedMarker.isJFIF).length ≤
        max 1 (file.all.filter SavedMarker.isJFIF).length ∧
      (output.all.filter SavedMarker.isAdobe).length ≤
        max 1 (file.all.filter SavedMarker.isAdobe).length := by
  obtain ⟨markers, adjusts, between, written⟩ := transcodeMarkers_eq_some call
  rw [saved_all] at adjusts
  obtain ⟨jfif, adobe⟩ := adjustExif_duplicates adjusts
  have all : output.all = output.before := by
    rw [FileMarkers.all, between, List.append_nil]
  constructor
  · rw [all, written, written_jfifs, jfif]
    split_ifs
    · exact Nat.le_max_left 1 _
    · exact Nat.le_max_right 1 _
  · rw [all, written, written_adobes, adobe]
    split_ifs
    · exact Nat.le_max_left 1 _
    · exact Nat.le_max_right 1 _

/-- No run that copies all markers loses one, and duplicates do not accumulate. -/
theorem markers_kept (runs : Run transcodeFile (fun run _ => run.copyoption = .all) first last) :
    MarkersKept first.2 last.2 := by
  suffices followed : (∃ sized, FrontSized first.2.all sized ∧ Follows sized last.2) ∧
      (last.2.all.filter SavedMarker.isJFIF).length ≤
        max 1 (first.2.all.filter SavedMarker.isJFIF).length ∧
      (last.2.all.filter SavedMarker.isAdobe).length ≤
        max 1 (first.2.all.filter SavedMarker.isAdobe).length by
    obtain ⟨⟨sized, kept, follows⟩, jfif, adobe⟩ := followed
    exact ⟨⟨sized, kept, follows.others⟩, jfif, adobe⟩
  refine @Run.invariant _ _ _ _ (fun file =>
    (∃ sized, FrontSized first.2.all sized ∧ Follows sized file.2) ∧
      (file.2.all.filter SavedMarker.isJFIF).length ≤
        max 1 (first.2.all.filter SavedMarker.isJFIF).length ∧
      (file.2.all.filter SavedMarker.isAdobe).length ≤
        max 1 (first.2.all.filter SavedMarker.isAdobe).length) ?_ _ _ runs
    ⟨⟨_, .same _, rfl, fun _ front _ => front⟩, Nat.le_max_right _ _, Nat.le_max_right _ _⟩
  rintro run before after all executed ⟨⟨sized, kept, follows⟩, fewJFIF, fewAdobe⟩
  obtain ⟨-, copied⟩ := transcodeFile_eq_some executed
  rw [all] at copied
  obtain ⟨next, steps, followsNext⟩ := follows.step copied
  obtain ⟨jfif, adobe⟩ := duplicates_step copied
  exact ⟨⟨next, kept.step steps, followsNext⟩, by omega, by omega⟩

theorem markers_kept_sample :
    ∃ result, transcodeFile ⟨.only .rot90, .all, none, fun _ _ _ _ _ => 9⟩
        (sampleColors, sampleMarkers) = some result ∧ MarkersKept sampleMarkers result.2 := by
  obtain ⟨result, ran⟩ := transcodes sampleColors_tables (by decide) .rot90 .all
    (fun _ _ _ _ _ => 9) sampleMarkers
  exact ⟨result, ran, @markers_kept (sampleColors, sampleMarkers) result (.single _ rfl ran)⟩

end RPhoto.Lossless
