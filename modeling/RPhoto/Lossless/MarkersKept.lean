import RPhoto.Lossless.SavedMarkers

/-!
# What the markers tell, before and after

A decoder learns from the markers of a transcoded file what it has learnt from those of
the source, however often the file is transcoded: the same color space and, when all
markers are copied, the same density.  Exif data at the front of the markers gives the
size of the picture after every run if it has given it before the first.
-/

namespace RPhoto.Lossless

open RPhoto.Jpeg RPhoto.Library

/-! ## Folds over the markers -/

namespace SavedMarker

/-- A JFIF marker the decoder learns from. -/
def tellsJFIF (marker : SavedMarker) : Bool :=
  marker.marker = .app 0 ∧ app0DataLen ≤ marker.data.length ∧ jfifLetters <+: marker.data

/-- An Adobe marker the decoder learns from. -/
def tellsAdobe (marker : SavedMarker) : Bool :=
  marker.marker = .app 14 ∧ app14DataLen ≤ marker.data.length ∧ adobeLetters <+: marker.data

end SavedMarker

def stepJFIF (info : JFIFInfo) (marker : SavedMarker) : JFIFInfo :=
  if marker.marker = .app 0 then examineApp0 info marker.data else info

def stepAdobe (info : AdobeInfo) (marker : SavedMarker) : AdobeInfo :=
  if marker.marker = .app 14 then examineApp14 info marker.data else info

theorem getD_take {data : Bytes} {index bound : Nat} (within : index < bound) :
    (data.take bound).getD index 0 = data.getD index 0 := by
  rw [List.getD_eq_getElem?_getD, List.getD_eq_getElem?_getD, List.getElem?_take_of_lt within]

theorem isPrefix_take {letters data : Bytes} {bound : Nat} (short : letters.length ≤ bound) :
    letters <+: data.take bound ↔ letters <+: data := by
  rw [List.prefix_take_iff]
  exact and_iff_left short

/-- The first bytes are all that is looked at. -/
theorem examineApp0_take (info : JFIFInfo) (data : Bytes) :
    examineApp0 info (data.take appnDataLen) = examineApp0 info data := by
  have long : app0DataLen ≤ (data.take appnDataLen).length ↔ app0DataLen ≤ data.length := by
    rw [List.length_take, app0DataLen, appnDataLen]
    omega
  refine if_congr (and_congr long (isPrefix_take (by decide))) ?_ rfl
  simp (disch := decide) only [twoBytes, getD_take]

theorem examineApp14_take (info : AdobeInfo) (data : Bytes) :
    examineApp14 info (data.take appnDataLen) = examineApp14 info data := by
  have long : app14DataLen ≤ (data.take appnDataLen).length ↔ app14DataLen ≤ data.length := by
    rw [List.length_take, app14DataLen, appnDataLen]
    omega
  refine if_congr (and_congr long (isPrefix_take (by decide))) ?_ rfl
  rw [getD_take (by decide)]

theorem processMarker_eq (saves : MarkerCode → Bool) (info : MarkerInfo) (marker : SavedMarker) :
    processMarker saves info marker =
      ⟨stepJFIF info.jfif marker, stepAdobe info.adobe marker⟩ := by
  obtain ⟨code, data, fits⟩ := marker
  by_cases zero : code = .app 0
  · subst zero
    refine congrArg (MarkerInfo.mk · info.adobe) ?_
    split_ifs
    · rfl
    · exact examineApp0_take info.jfif data
  · by_cases fourteen : code = .app 14
    · subst fourteen
      refine congrArg (MarkerInfo.mk info.jfif) ?_
      split_ifs
      · rfl
      · exact examineApp14_take info.adobe data
    · unfold processMarker stepJFIF stepAdobe
      rw [if_neg zero, if_neg fourteen]
      cases code with
      | com => rfl
      | app index =>
          fin_cases index <;> first | rfl | exact absurd rfl zero | exact absurd rfl fourteen

theorem readMarkers_eq (saves : MarkerCode → Bool) (markers : List SavedMarker) :
    readMarkers saves markers =
      ⟨markers.foldl stepJFIF getSOI.jfif, markers.foldl stepAdobe getSOI.adobe⟩ := by
  unfold readMarkers
  generalize getSOI = info
  induction markers generalizing info with
  | nil => rfl
  | cons marker markers ih => rw [List.foldl_cons, ih, processMarker_eq]; rfl

theorem stepJFIF_silent {marker : SavedMarker} (silent : marker.tellsJFIF = false)
    (info : JFIFInfo) : stepJFIF info marker = info := by
  unfold stepJFIF examineApp0
  split_ifs with code tells
  · exact absurd (decide_eq_true ⟨code, tells⟩) (Bool.eq_false_iff.mp silent)
  · rfl
  · rfl

theorem stepAdobe_silent {marker : SavedMarker} (silent : marker.tellsAdobe = false)
    (info : AdobeInfo) : stepAdobe info marker = info := by
  unfold stepAdobe examineApp14
  split_ifs with code tells
  · exact absurd (decide_eq_true ⟨code, tells⟩) (Bool.eq_false_iff.mp silent)
  · rfl
  · rfl

theorem isJFIF_of_tells {marker : SavedMarker} (tells : marker.tellsJFIF = true) :
    marker.isJFIF = true :=
  have all := of_decide_eq_true tells
  decide_eq_true ⟨all.1, all.2.2⟩

theorem isAdobe_of_tells {marker : SavedMarker} (tells : marker.tellsAdobe = true) :
    marker.isAdobe = true :=
  have all := of_decide_eq_true tells
  decide_eq_true ⟨all.1, all.2.2⟩

section Folds

variable {Info : Type} {step : Info → SavedMarker → Info} {tells keeps : SavedMarker → Bool}
variable (ignores : ∀ marker, tells marker = false → ∀ info, step info marker = info)
include ignores

/-- Markers that tell nothing change nothing. -/
theorem foldl_silent {markers : List SavedMarker} (silent : ∀ marker ∈ markers,
    tells marker = false) (info : Info) : markers.foldl step info = info := by
  induction markers with
  | nil => rfl
  | cons marker markers ih =>
      rw [List.foldl_cons, ignores marker (silent marker List.mem_cons_self)]
      exact ih fun other member => silent other (List.mem_cons_of_mem _ member)

/-- Markers that tell nothing can be left out. -/
theorem foldl_filter_telling (telling : ∀ marker, tells marker = true → keeps marker = true)
    (markers : List SavedMarker) (info : Info) :
    (markers.filter keeps).foldl step info = markers.foldl step info := by
  induction markers generalizing info with
  | nil => rfl
  | cons marker markers ih =>
      rw [List.foldl_cons]
      cases kept : keeps marker with
      | false =>
          have silent : tells marker = false :=
            Bool.eq_false_iff.mpr fun tells => Bool.eq_false_iff.mp kept (telling marker tells)
          rw [List.filter_cons_of_neg (by simp [kept]), ih, ignores marker silent]
      | true => rw [List.filter_cons_of_pos kept, List.foldl_cons, ih]

end Folds

/-! ## The markers written -/

variable {marker changed : SavedMarker} {markers : List SavedMarker} {file output : FileMarkers}
variable {source destination : Header} {copyoption : CopyOption}

theorem not_tells_of_app1 (code : marker.marker = .app 1) :
    marker.tellsJFIF = false ∧ marker.tellsAdobe = false ∧ marker.isJFIF = false ∧
      marker.isAdobe = false := by
  unfold SavedMarker.tellsJFIF SavedMarker.tellsAdobe SavedMarker.isJFIF SavedMarker.isAdobe
  rw [code]
  exact ⟨rfl, rfl, rfl, rfl⟩

/-- Exif data with another size: its letters stay and so does its length. -/
structure Resized (newWidth newHeight : Nat) (marker changed : SavedMarker) : Prop where
  code : changed.marker = marker.marker
  letters : changed.data.take 6 = marker.data.take 6
  length : changed.data.length = marker.data.length
  content : Exif.adjustExifParameters (marker.data.drop 6) newWidth newHeight =
    some (changed.data.drop 6)

theorem adjusted_resizes (exif : marker.isExif = true) (newWidth newHeight : Nat) :
    ∃ changed, marker.adjusted newWidth newHeight = some changed ∧
      Resized newWidth newHeight marker changed := by
  obtain ⟨data, call, adjusted⟩ :=
    Exif.adjustExifParameters_adjusts (marker.data.drop 6) newWidth newHeight
  have long : 6 ≤ marker.data.length := (of_decide_eq_true exif).2.length_le
  have size : (marker.data.take 6).length = 6 := by
    rw [List.length_take]
    omega
  have length : (marker.data.take 6 ++ data).length = marker.data.length := by
    rw [List.length_append, size, adjusted.length, List.length_drop]
    omega
  have fits : (marker.data.take 6 ++ data).length ≤ 65533 := length.trans_le marker.fits
  refine ⟨⟨marker.marker, marker.data.take 6 ++ data, fits⟩, ?_, rfl, ?_, length, ?_⟩
  · unfold SavedMarker.adjusted
    rw [call]
    exact dif_pos fits
  · exact List.take_left' size
  · rw [call, List.drop_left' size]

/-- The list is as it was, or the Exif data at its front has another size. -/
theorem adjustExif_gives (source destination : Header) (markers : List SavedMarker) :
    ∃ after, adjustExif source destination markers = some after ∧
      (after = markers ∧ (beginsWithExif markers = true →
          destination.imageWidth = source.imageWidth ∧
            destination.imageHeight = source.imageHeight) ∨
        ∃ first changed rest, markers = first :: rest ∧ first.isExif = true ∧
          after = changed :: rest ∧
          Resized destination.imageWidth destination.imageHeight first changed) := by
  cases markers with
  | nil => exact ⟨[], rfl, .inl ⟨rfl, fun exif => nomatch exif⟩⟩
  | cons first rest =>
      by_cases changes : first.isExif = true ∧ (destination.imageWidth ≠ source.imageWidth ∨
          destination.imageHeight ≠ source.imageHeight)
      · obtain ⟨changed, call, resized⟩ :=
          adjusted_resizes changes.1 destination.imageWidth destination.imageHeight
        refine ⟨changed :: rest, ?_, .inr ⟨first, changed, rest, rfl, changes.1, rfl, resized⟩⟩
        rw [adjustExif, if_pos changes, call]
        rfl
      · refine ⟨first :: rest, if_neg changes, .inl ⟨rfl, fun exif => ?_⟩⟩
        constructor <;>
        · by_contra other
          exact changes ⟨exif, by simp [other]⟩

/-- A change of the Exif data tells a decoder nothing new. -/
theorem adjustExif_folds {after : List SavedMarker}
    (call : adjustExif source destination markers = some after) :
    (∀ info, after.foldl stepJFIF info = markers.foldl stepJFIF info) ∧
      ∀ info, after.foldl stepAdobe info = markers.foldl stepAdobe info := by
  obtain ⟨same, gives, alternatives⟩ := adjustExif_gives source destination markers
  cases gives.symm.trans call
  rcases alternatives with ⟨rfl, -⟩ | ⟨first, changed, rest, rfl, exif, rfl, resized⟩
  · exact ⟨fun _ => rfl, fun _ => rfl⟩
  · have code := (of_decide_eq_true exif).1
    have silent := not_tells_of_app1 code
    have still := not_tells_of_app1 (resized.code.trans code)
    constructor
    · intro info
      rw [List.foldl_cons, List.foldl_cons, stepJFIF_silent silent.1, stepJFIF_silent still.1]
    · intro info
      rw [List.foldl_cons, List.foldl_cons, stepAdobe_silent silent.2.1,
        stepAdobe_silent still.2.1]

/-- Copying without duplicates of a kind leaves none of the kind; else it keeps them all. -/
theorem copied_jfif (writeJFIF writeAdobe : Bool) (markers : List SavedMarker)
    (info : JFIFInfo) :
    (jcopyMarkersExecute writeJFIF writeAdobe markers).foldl stepJFIF info =
      if writeJFIF then info else markers.foldl stepJFIF info := by
  cases writeJFIF with
  | true =>
      refine foldl_silent (fun _ => stepJFIF_silent) (fun marker member => ?_) info
      refine Bool.eq_false_iff.mpr fun tells => ?_
      have kept := (List.mem_filter.mp member).2
      rw [isJFIF_of_tells tells] at kept
      exact Bool.false_ne_true kept
  | false =>
      refine foldl_filter_telling (fun _ => stepJFIF_silent) (fun marker tells => ?_) markers info
      have code := (of_decide_eq_true tells).1
      have other : marker.isAdobe = false := by
        unfold SavedMarker.isAdobe
        rw [code]
        rfl
      simp [other]

theorem copied_adobe (writeJFIF writeAdobe : Bool) (markers : List SavedMarker)
    (info : AdobeInfo) :
    (jcopyMarkersExecute writeJFIF writeAdobe markers).foldl stepAdobe info =
      if writeAdobe then info else markers.foldl stepAdobe info := by
  cases writeAdobe with
  | true =>
      refine foldl_silent (fun _ => stepAdobe_silent) (fun marker member => ?_) info
      refine Bool.eq_false_iff.mpr fun tells => ?_
      have kept := (List.mem_filter.mp member).2
      rw [isAdobe_of_tells tells] at kept
      simp at kept
  | false =>
      refine foldl_filter_telling (fun _ => stepAdobe_silent) (fun marker tells => ?_) markers info
      have code := (of_decide_eq_true tells).1
      have other : marker.isJFIF = false := by
        unfold SavedMarker.isJFIF
        rw [code]
        rfl
      simp [other]

/-! ## What a marker of the encoder tells -/

/-- The densities fit into two bytes. -/
def JFIFInfo.Short (info : JFIFInfo) : Prop := info.xDensity < 65536 ∧ info.yDensity < 65536

theorem twoBytes_lt (data : Bytes) (index : Nat) : twoBytes data index < 65536 := by
  have high := (data.getD index 0).toNat_lt
  have low := (data.getD (index + 1) 0).toNat_lt
  unfold twoBytes
  omega

theorem foldl_short (markers : List SavedMarker) {info : JFIFInfo} (short : info.Short) :
    (markers.foldl stepJFIF info).Short := by
  induction markers generalizing info with
  | nil => exact short
  | cons marker markers ih =>
      refine ih ?_
      unfold stepJFIF examineApp0
      split_ifs
      · exact ⟨twoBytes_lt _ 8, twoBytes_lt _ 10⟩
      · exact short
      · exact short

theorem twoBytes_emit {value : Nat} (short : value < 65536) :
    (UInt8.ofNat (value / 256)).toNat * 256 + (UInt8.ofNat value).toNat = value := by
  rw [UInt8.toNat_ofNat', UInt8.toNat_ofNat']
  omega

/-- The decoder learns what the encoder has been told. -/
theorem stepJFIF_emit {info : JFIFInfo} (short : info.Short) (before : JFIFInfo) :
    stepJFIF before (emitJFIF info) = { info with sawJFIFMarker := true } := by
  have told : stepJFIF before (emitJFIF info) =
      { sawJFIFMarker := true
        majorVersion := info.majorVersion
        minorVersion := info.minorVersion
        densityUnit := info.densityUnit
        xDensity := (UInt8.ofNat (info.xDensity / 256)).toNat * 256 +
          (UInt8.ofNat info.xDensity).toNat
        yDensity := (UInt8.ofNat (info.yDensity / 256)).toNat * 256 +
          (UInt8.ofNat info.yDensity).toNat } := rfl
  rw [told, twoBytes_emit short.1, twoBytes_emit short.2]

theorem copyJFIF_short {info : JFIFInfo} (short : info.Short) : (copyJFIF info).Short := by
  unfold copyJFIF
  split_ifs
  · exact short
  · exact short
  · exact ⟨by decide, by decide⟩

/-- The color transform byte of a color space. -/
def ColorSpace.transformCode : ColorSpace → UInt8
  | .yCbCr => 1
  | .ycck => 2
  | _ => 0

theorem stepAdobe_emit (space : ColorSpace) (before : AdobeInfo) :
    stepAdobe before (emitAdobe space) = ⟨true, space.transformCode⟩ := by
  cases space <;> rfl

section Written

variable (writeJFIF writeAdobe : Bool) (info : JFIFInfo) (space : ColorSpace)

/-- The markers written: those of the encoder, then the copied ones. -/
def writtenMarkers (markers : List SavedMarker) : List SavedMarker :=
  (if writeJFIF then [emitJFIF info] else []) ++ (if writeAdobe then [emitAdobe space] else []) ++
    jcopyMarkersExecute writeJFIF writeAdobe markers

variable {info}

theorem written_jfif (short : info.Short) (markers : List SavedMarker) (before : JFIFInfo) :
    (writtenMarkers writeJFIF writeAdobe info space markers).foldl stepJFIF before =
      if writeJFIF then { info with sawJFIFMarker := true }
      else markers.foldl stepJFIF before := by
  have adobe : ∀ told : JFIFInfo,
      (if writeAdobe then [emitAdobe space] else []).foldl stepJFIF told = told := by
    intro told
    cases writeAdobe <;> rfl
  unfold writtenMarkers
  rw [List.foldl_append, List.foldl_append, adobe, copied_jfif]
  cases writeJFIF with
  | false => rfl
  | true => exact stepJFIF_emit short before

theorem written_adobe (info : JFIFInfo) (markers : List SavedMarker) (before : AdobeInfo) :
    (writtenMarkers writeJFIF writeAdobe info space markers).foldl stepAdobe before =
      if writeAdobe then ⟨true, space.transformCode⟩ else markers.foldl stepAdobe before := by
  have jfif : ∀ told : AdobeInfo,
      (if writeJFIF then [emitJFIF info] else []).foldl stepAdobe told = told := by
    intro told
    cases writeJFIF <;> rfl
  unfold writtenMarkers
  rw [List.foldl_append, List.foldl_append, jfif, copied_adobe]
  cases writeAdobe with
  | false => rfl
  | true => exact stepAdobe_emit space before

end Written

/-! ## One run -/

/-- Nothing between the scans that a decoder would learn from. -/
def FileMarkers.QuietBetween (file : FileMarkers) : Prop :=
  ∀ marker ∈ file.between, marker.tellsJFIF = false ∧ marker.tellsAdobe = false

/-- What the markers before the first scan tell. -/
def FileMarkers.info (file : FileMarkers) : MarkerInfo := readMarkers (fun _ => true) file.before

theorem readMarkers_saves (saves : MarkerCode → Bool) (markers : List SavedMarker) :
    readMarkers saves markers = readMarkers (fun _ => true) markers := by
  rw [readMarkers_eq, readMarkers_eq]

theorem colorSpace_eq (file : FileMarkers) (header : Header) (copyoption : CopyOption) :
    file.colorSpace header copyoption = guessColorSpace header file.info := by
  unfold FileMarkers.colorSpace FileMarkers.info
  rw [readMarkers_saves]

/-- Markers between the scans do not change what has been learnt. -/
theorem info_of_quiet (quiet : file.QuietBetween) (saves : MarkerCode → Bool) :
    readMarkers saves (file.before ++ file.between) = file.info := by
  unfold FileMarkers.info
  rw [readMarkers_eq, readMarkers_eq, List.foldl_append, List.foldl_append,
    foldl_silent (fun _ => stepJFIF_silent) fun marker member => (quiet marker member).1,
    foldl_silent (fun _ => stepAdobe_silent) fun marker member => (quiet marker member).2]

theorem saved_all (file : FileMarkers) : file.saved .all = file.before ++ file.between := by
  refine List.filter_eq_self.mpr fun marker _ => ?_
  cases marker.marker <;> rfl

/-- Without the option for all markers only comments are saved. -/
theorem saved_comments (some : copyoption ≠ .all) (member : marker ∈ file.saved copyoption) :
    marker.marker = .com := by
  have saves := (List.mem_filter.mp member).2
  cases code : marker.marker with
  | com => rfl
  | app index =>
      rw [code] at saves
      exact absurd (of_decide_eq_true saves) some

theorem not_tells_of_com (code : marker.marker = .com) :
    marker.tellsJFIF = false ∧ marker.tellsAdobe = false ∧ marker.isExif = false := by
  unfold SavedMarker.tellsJFIF SavedMarker.tellsAdobe SavedMarker.isExif
  rw [code]
  exact ⟨rfl, rfl, rfl⟩

/-- What the saved markers tell: everything or nothing. -/
theorem saved_info (quiet : file.QuietBetween) (copyoption : CopyOption) :
    readMarkers (fun _ => true) (file.saved copyoption) =
      if copyoption = .all then file.info else getSOI := by
  split_ifs with all
  · rw [all, saved_all, info_of_quiet quiet]
  · rw [readMarkers_eq,
      foldl_silent (fun _ => stepJFIF_silent) fun marker member =>
        (not_tells_of_com (saved_comments all member)).1,
      foldl_silent (fun _ => stepAdobe_silent) fun marker member =>
        (not_tells_of_com (saved_comments all member)).2.1]

theorem copies_all_of_exif (exif : beginsWithExif (file.saved copyoption) = true) :
    copyoption = .all := by
  by_contra some
  obtain ⟨first, head, isExif⟩ := (Option.any_eq_true _ _).mp exif
  have comment := not_tells_of_com (saved_comments some (List.mem_of_mem_head? head))
  exact Bool.false_ne_true (comment.2.2.symm.trans isExif)

/-- Whether a JFIF marker is written. -/
def FileMarkers.writesJFIF (file : FileMarkers) (header : Header) (copyoption : CopyOption) :
    Bool :=
  (file.colorSpace header copyoption).writesJFIF && !beginsWithExif (file.saved copyoption)

theorem transcodeMarkers_eq_some
    (call : transcodeMarkers copyoption source destination file = some output) :
    ∃ markers, adjustExif source destination (file.saved copyoption) = some markers ∧
      output.between = [] ∧
      output.before = writtenMarkers (file.writesJFIF source copyoption)
        (file.colorSpace source copyoption).writesAdobe
        (copyJFIF (readMarkers copyoption.saves (file.before ++ file.between)).jfif)
        (file.colorSpace source copyoption) markers := by
  obtain ⟨markers, adjusts, same⟩ := Option.map_eq_some_iff.mp call
  cases same
  exact ⟨markers, adjusts, rfl, rfl⟩

/-- What a decoder learns from the result: what was written, or else what was copied. -/
theorem transcoded_info (quiet : file.QuietBetween)
    (call : transcodeMarkers copyoption source destination file = some output) :
    output.info =
      ⟨if file.writesJFIF source copyoption then
          { copyJFIF file.info.jfif with sawJFIFMarker := true }
        else if copyoption = .all then file.info.jfif else getSOI.jfif,
      if (file.colorSpace source copyoption).writesAdobe then
          ⟨true, (file.colorSpace source copyoption).transformCode⟩
        else if copyoption = .all then file.info.adobe else getSOI.adobe⟩ := by
  obtain ⟨markers, adjusts, -, before⟩ := transcodeMarkers_eq_some call
  have short : (copyJFIF file.info.jfif).Short := by
    rw [FileMarkers.info, readMarkers_eq]
    exact copyJFIF_short (foldl_short file.before ⟨by decide, by decide⟩)
  have copied := saved_info quiet copyoption
  rw [readMarkers_eq] at copied
  have jfif : (file.saved copyoption).foldl stepJFIF getSOI.jfif =
      (if copyoption = .all then file.info else getSOI).jfif := congrArg MarkerInfo.jfif copied
  have adobe : (file.saved copyoption).foldl stepAdobe getSOI.adobe =
      (if copyoption = .all then file.info else getSOI).adobe := congrArg MarkerInfo.adobe copied
  have folds := adjustExif_folds adjusts
  rw [info_of_quiet quiet] at before
  have told : output.info = readMarkers (fun _ => true) output.before := rfl
  rw [told, before, readMarkers_eq, written_jfif _ _ _ short, written_adobe, folds.1, folds.2, jfif,
    adobe]
  split_ifs <;> rfl

theorem output_quiet (call : transcodeMarkers copyoption source destination file = some output) :
    output.QuietBetween := by
  obtain ⟨markers, -, between, -⟩ := transcodeMarkers_eq_some call
  unfold FileMarkers.QuietBetween
  rw [between]
  exact fun _ member => nomatch member

/-! ## The color space -/

variable {header other : Header} {info : MarkerInfo}

/-- What a color space says about the number of components and the markers. -/
theorem guess_meaning (header : Header) (info : MarkerInfo) :
    match guessColorSpace header info with
    | .grayscale => header.numComponents = 1
    | .rgb => header.numComponents = 3 ∧ info.jfif.sawJFIFMarker = false
    | .yCbCr => header.numComponents = 3
    | .cmyk | .ycck => header.numComponents = 4
    | .unknown =>
        header.numComponents ≠ 1 ∧ header.numComponents ≠ 3 ∧ header.numComponents ≠ 4 := by
  unfold guessColorSpace
  dsimp only
  split_ifs <;> simp_all

/-- The guess is about the number of components and their names. -/
theorem guess_congr (info : MarkerInfo) (count : other.numComponents = header.numComponents)
    (names : ∀ ci, (other.compInfo ci).componentId = (header.compInfo ci).componentId) :
    guessColorSpace other info = guessColorSpace header info := by
  unfold guessColorSpace
  simp only [count, names]

/-- An Adobe marker written for a color space leads to the guess again. -/
theorem guess_adobe (writes : (guessColorSpace header info).writesAdobe = true) {jfif : JFIFInfo}
    (silent : info.jfif.sawJFIFMarker = false → jfif.sawJFIFMarker = false) :
    guessColorSpace header ⟨jfif, ⟨true, (guessColorSpace header info).transformCode⟩⟩ =
      guessColorSpace header info := by
  have means := guess_meaning header info
  cases space : guessColorSpace header info with
  | rgb =>
      rw [space] at means
      simp [guessColorSpace, means.1, silent means.2, ColorSpace.transformCode]
  | cmyk =>
      rw [space] at means
      simp [guessColorSpace, means, ColorSpace.transformCode]
  | ycck =>
      rw [space] at means
      simp [guessColorSpace, means, ColorSpace.transformCode]
  | unknown | grayscale | yCbCr =>
      rw [space] at writes
      exact absurd writes (by decide)

/-- So does a JFIF marker. -/
theorem guess_jfif (writes : (guessColorSpace header info).writesJFIF = true) {jfif : JFIFInfo}
    (saw : jfif.sawJFIFMarker = true) (adobe : AdobeInfo) :
    guessColorSpace header ⟨jfif, adobe⟩ = guessColorSpace header info := by
  have means := guess_meaning header info
  cases space : guessColorSpace header info with
  | grayscale =>
      rw [space] at means
      simp [guessColorSpace, means]
  | yCbCr =>
      rw [space] at means
      simp [guessColorSpace, means, saw]
  | unknown | rgb | cmyk | ycck =>
      rw [space] at writes
      exact absurd writes (by decide)

/-- Other numbers of components have no color space. -/
theorem guess_unknown (none : guessColorSpace header info = .unknown) (told : MarkerInfo) :
    guessColorSpace header told = .unknown := by
  have means := guess_meaning header info
  rw [none] at means
  simp [guessColorSpace, means]

/-- The result of one run is taken for a picture in the same color space. -/
theorem colorSpace_step (quiet : file.QuietBetween)
    (call : transcodeMarkers copyoption source destination file = some output) :
    guessColorSpace source output.info = guessColorSpace source file.info := by
  have told := transcoded_info quiet call
  rw [FileMarkers.writesJFIF, colorSpace_eq] at told
  rw [told]
  by_cases adobe : (guessColorSpace source file.info).writesAdobe = true
  · have noJFIF : (guessColorSpace source file.info).writesJFIF = false := by
      cases space : guessColorSpace source file.info <;> rw [space] at adobe <;>
        first | rfl | exact absurd adobe (by decide)
    rw [noJFIF, Bool.false_and, if_neg Bool.false_ne_true, if_pos adobe]
    refine guess_adobe adobe fun silent => ?_
    split_ifs
    · exact silent
    · rfl
  · rw [if_neg adobe]
    by_cases jfif : (guessColorSpace source file.info).writesJFIF = true
    · by_cases exif : beginsWithExif (file.saved copyoption) = true
      · have all := copies_all_of_exif exif
        rw [exif, Bool.not_true, Bool.and_false, if_neg Bool.false_ne_true, if_pos all, if_pos all]
      · rw [jfif, Bool.true_and, if_pos (by simpa using exif)]
        exact guess_jfif jfif rfl _
    · have none : guessColorSpace source file.info = .unknown := by
        cases space : guessColorSpace source file.info <;> rw [space] at adobe jfif <;>
          first | rfl | exact absurd rfl adobe | exact absurd rfl jfif
      rw [none]
      exact guess_unknown none _

/-! ## The density -/

def JFIFInfo.density (info : JFIFInfo) : UInt8 × Nat × Nat :=
  (info.densityUnit, info.xDensity, info.yDensity)

/-- Without a JFIF marker nothing has been learnt. -/
theorem jfif_of_unseen (unseen : file.info.jfif.sawJFIFMarker = false) :
    file.info.jfif = getSOI.jfif := by
  have found : ∀ (markers : List SavedMarker) (info : JFIFInfo),
      (markers.foldl stepJFIF info).sawJFIFMarker = false → markers.foldl stepJFIF info = info := by
    intro markers
    induction markers with
    | nil => exact fun _ _ => rfl
    | cons marker markers ih =>
        intro info none
        have later := ih _ none
        rw [List.foldl_cons] at none ⊢
        rw [later] at none ⊢
        unfold stepJFIF examineApp0 at none ⊢
        split_ifs at none ⊢
        · rfl
        · rfl
  rw [FileMarkers.info, readMarkers_eq] at unseen ⊢
  exact found file.before getSOI.jfif unseen

theorem copyJFIF_density (seen : file.info.jfif.sawJFIFMarker = true ∨
    file.info.jfif = getSOI.jfif) :
    (copyJFIF file.info.jfif).density = file.info.jfif.density := by
  unfold copyJFIF
  split_ifs with saw one
  · rfl
  · rfl
  · rcases seen with seen | same
    · exact absurd seen saw
    · rw [same]

/-- When all markers are copied, so is the density. -/
theorem density_step (quiet : file.QuietBetween)
    (call : transcodeMarkers .all source destination file = some output) :
    output.info.jfif.density = file.info.jfif.density := by
  have seen : file.info.jfif.sawJFIFMarker = true ∨ file.info.jfif = getSOI.jfif := by
    cases saw : file.info.jfif.sawJFIFMarker with
    | true => exact .inl rfl
    | false => exact .inr (jfif_of_unseen saw)
  rw [transcoded_info quiet call, if_pos rfl]
  dsimp only
  split_ifs
  · exact copyJFIF_density seen
  · rfl

end RPhoto.Lossless
