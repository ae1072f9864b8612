import Mathlib.Data.List.DropRight
import RPhoto.Jpeg.Base64

/-!
# Marker segments through the extended JPEG handler

`LoadFile` turns every saved marker segment into base64 text and joins the texts
of one marker with `#` in an image option.  `SaveFile` takes the options apart
again and writes one segment for each text.  The two sides each have their own
table of the seventeen markers.
-/

namespace RPhoto.Jpeg

/-- The seventeen marker codes: `M_APP0` to `M_APP15` and `M_COM`. -/
inductive MarkerCode where
  | app (index : Fin 16)
  | com
deriving DecidableEq, Repr

/-- A marker segment of a JPEG file; its length field leaves at most 65533 bytes of payload. -/
structure Segment where
  code : MarkerCode
  payload : Bytes
  nonempty : payload ≠ []
  fits : payload.length ≤ 65533

/-- A marker with its bytes, as libjpeg hands it over. -/
abbrev Marker := MarkerCode × Bytes

/-- The payloads of one marker code, in order. -/
def payloads (code : MarkerCode) (markers : List Marker) : List Bytes :=
  (markers.filter fun marker => marker.1 = code).map Prod.snd

def Segment.marker (segment : Segment) : Marker := (segment.code, segment.payload)

/-! ## Loading -/

/-- The `jpeg_save_markers` calls of `LoadFile`, with their length limits. -/
def saveMarkers : List (MarkerCode × Nat) :=
  [(.app 0, 32000), (.app 1, 32000), (.app 2, 32000), (.app 3, 32000), (.app 4, 32000),
    (.app 5, 32000), (.app 6, 32000), (.app 7, 32000), (.app 8, 32000), (.app 9, 32000),
    (.app 10, 32000), (.app 11, 32000), (.app 12, 32000), (.app 13, 32000), (.app 14, 32000),
    (.app 15, 32000), (.com, 32000)]

/-- `marker_list`: the segments of the requested codes, each cut to the limit of its code. -/
def markerList (segments : List Segment) : List Marker :=
  segments.filterMap fun segment =>
    (saveMarkers.lookup segment.code).map fun limit => (segment.code, segment.payload.take limit)

/-- The switch over the marker codes in `LoadFile`. -/
def markerName : MarkerCode → OptionName
  | .app 0 => .app 0
  | .app 1 => .app 1
  | .app 2 => .app 2
  | .app 3 => .app 3
  | .app 4 => .app 4
  | .app 5 => .app 5
  | .app 6 => .app 6
  | .app 7 => .app 7
  | .app 8 => .app 8
  | .app 9 => .app 9
  | .app 10 => .app 10
  | .app 11 => .app 11
  | .app 12 => .app 12
  | .app 13 => .app 13
  | .app 14 => .app 14
  | .app 15 => .app 15
  | .com => .com
  | _ => .unknown

/-- The body of the marker loop of `LoadFile`. -/
def storeMarker (options : Options) (marker : Marker) : Options :=
  let name := markerName marker.1
  let value := encodeBase64 marker.2.length marker.2
  match options.getOption name with
  | some present => options.setOption name (present ++ '#' :: value)
  | none => options.setOption name value

/-- The marker options of an image loaded from a file with these segments. -/
def loadMarkers (segments : List Segment) : Options :=
  (markerList segments).foldl storeMarker []

/-! ## Saving -/

/-- `wxStringTokenizer` on `#` in the mode `wxTOKEN_RET_EMPTY`: trailing empty tokens are lost. -/
def tokens (text : Text) : List Text :=
  (text.splitOn '#').rdropWhile List.isEmpty

/-- `SAVE_OPTION(name, index)`. -/
def saveOption (options : Options) (name : OptionName) (index : MarkerCode) : List Marker :=
  match options.getOption name with
  | some value => (tokens value).map fun str => (index, decodeBase64 str)
  | none => []

/-- The `SAVE_OPTION` lines of `SaveFile`. -/
def saveOptions : List (OptionName × MarkerCode) :=
  [(.app 0, .app 0), (.app 1, .app 1), (.app 2, .app 2), (.app 3, .app 3), (.app 4, .app 4),
    (.app 5, .app 5), (.app 6, .app 6), (.app 7, .app 7), (.app 8, .app 8), (.app 9, .app 9),
    (.app 10, .app 11), (.app 11, .app 11), (.app 12, .app 12), (.app 13, .app 13),
    (.app 14, .app 14), (.app 15, .app 15), (.com, .com)]

/-- The segments `SaveFile` writes for the options of an image. -/
def writeMarkers (options : Options) : List Marker :=
  saveOptions.flatMap fun row => saveOption options row.1 row.2

/-! ## The two tables -/

@[simp]
theorem saveMarkers_lookup (code : MarkerCode) : saveMarkers.lookup code = some 32000 := by
  cases code with
  | app index => fin_cases index <;> rfl
  | com => rfl

@[simp]
theorem markerName_app (index : Fin 16) : markerName (.app index) = .app index := by
  fin_cases index <;> rfl

@[simp]
theorem markerName_com : markerName .com = .com := rfl

theorem markerName_injective : Function.Injective markerName := by
  intro first second same
  cases first <;> cases second <;> simp_all

theorem markerList_eq (segments : List Segment) :
    markerList segments =
      segments.map fun segment => (segment.code, segment.payload.take 32000) := by
  simp [markerList, List.filterMap_eq_map']

/-! ## Joined texts -/

/-- What an option holds after one more text. -/
def joinText : Option Text → Text → Option Text
  | some present, text => some (present ++ '#' :: text)
  | none, text => some text

theorem foldl_joinText_some (present : Text) (texts : List Text) :
    texts.foldl joinText (some present) = some (['#'].intercalate (present :: texts)) := by
  induction texts generalizing present with
  | nil => simp
  | cons text rest ih =>
      rw [List.foldl_cons, joinText, ih]
      cases rest with
      | nil => simp
      | cons next others => simp

theorem foldl_joinText_none {texts : List Text} (nonempty : texts ≠ []) :
    texts.foldl joinText none = some (['#'].intercalate texts) := by
  cases texts with
  | nil => exact absurd rfl nonempty
  | cons text rest => exact foldl_joinText_some text rest

/-- The tokenizer takes joined texts apart when none of them is empty or holds a separator. -/
theorem tokens_intercalate {texts : List Text} (nonempty : texts ≠ [])
    (plain : ∀ text ∈ texts, '#' ∉ text ∧ text ≠ []) :
    tokens (['#'].intercalate texts) = texts := by
  have split : (['#'].intercalate texts).splitOn '#' = texts :=
    List.splitOn_intercalate '#' (fun text present => (plain text present).1) nonempty
  rw [tokens, split, List.rdropWhile_eq_self_iff]
  intro _
  simpa using (plain _ (List.getLast_mem nonempty)).2

/-! ## One option through loading and saving -/

def markerText (marker : Marker) : Text := encodeBase64 marker.2.length marker.2

theorem getOption_storeMarker (options : Options) (marker : Marker) (code : MarkerCode) :
    (storeMarker options marker).getOption (markerName code) =
      if marker.1 = code then joinText (options.getOption (markerName code)) (markerText marker)
      else options.getOption (markerName code) := by
  by_cases same : marker.1 = code
  · subst same
    rw [if_pos rfl]
    simp only [storeMarker]
    split <;> rename_i found <;> simp [found, joinText, markerText]
  · have different : markerName code ≠ markerName marker.1 := fun equal =>
      same (markerName_injective equal.symm)
    rw [if_neg same]
    simp only [storeMarker]
    split <;> exact Options.getOption_setOption_of_ne different

/-- The option of a code collects the texts of the segments of that code. -/
theorem getOption_foldl_storeMarker (markers : List Marker) (options : Options)
    (code : MarkerCode) :
    (markers.foldl storeMarker options).getOption (markerName code) =
      ((payloads code markers).map fun data => encodeBase64 data.length data).foldl joinText
        (options.getOption (markerName code)) := by
  induction markers generalizing options with
  | nil => rfl
  | cons marker rest ih =>
      rw [List.foldl_cons, ih, getOption_storeMarker]
      by_cases same : marker.1 = code <;> simp [payloads, same, markerText]

theorem tokens_of_payloads {data : List Bytes} (nonempty : data ≠ [])
    (filled : ∀ payload ∈ data, payload ≠ []) :
    tokens (['#'].intercalate (data.map fun payload => encodeBase64 payload.length payload)) =
      data.map encodeGroups := by
  have texts : (data.map fun payload => encodeBase64 payload.length payload) =
      data.map encodeGroups :=
    List.map_congr_left fun payload present => encodeBase64_length (filled payload present)
  rw [texts]
  refine tokens_intercalate (by simpa using nonempty) fun text present => ?_
  obtain ⟨payload, member, rfl⟩ := List.mem_map.mp present
  exact ⟨fun separator => (encoded_of_mem_encodeGroups separator).2.1 rfl,
    encodeGroups_ne_nil (filled payload member)⟩

/-- Saving the option of a loaded code writes the payloads of that code, under the row's code. -/
theorem saveOption_loaded (markers : List Marker) (code index : MarkerCode)
    (filled : ∀ payload ∈ payloads code markers, payload ≠ []) :
    saveOption (markers.foldl storeMarker []) (markerName code) index =
      (payloads code markers).map fun payload => (index, payload) := by
  rw [saveOption, getOption_foldl_storeMarker, Options.getOption_nil]
  by_cases nonempty : payloads code markers = []
  · simp [nonempty]
  · rw [foldl_joinText_none (by simpa using nonempty)]
    simp only [tokens_of_payloads nonempty filled, List.map_map]
    exact List.map_congr_left fun payload _ => by simp [decodeBase64_encodeGroups]

/-! ## The round trip -/

/-- The code under which `SaveFile` writes the segments of a code: `APP10` goes out as `APP11`. -/
def savedCode : MarkerCode → MarkerCode
  | .app 10 => .app 11
  | code => code

def markerCodes : List MarkerCode := saveMarkers.map Prod.fst

theorem saveOptions_eq :
    saveOptions = markerCodes.map fun code => (markerName code, savedCode code) := rfl

theorem savedCode_of_ne {code : MarkerCode} (different : code ≠ .app 10) :
    savedCode code = code := by
  unfold savedCode
  split
  · exact absurd rfl different
  · rfl

theorem savedCode_ne_app10 (code : MarkerCode) : savedCode code ≠ .app 10 := by
  by_cases app10 : code = .app 10
  · subst app10
    decide
  · rwa [savedCode_of_ne app10]

theorem mem_markerCodes (code : MarkerCode) : code ∈ markerCodes := by
  cases code with
  | app index => fin_cases index <;> decide
  | com => decide

theorem nodup_markerCodes : markerCodes.Nodup := by decide

theorem flatMap_select {Entry : Type} {codes : List MarkerCode} (distinct : codes.Nodup)
    {code : MarkerCode} (member : code ∈ codes) (entries : MarkerCode → List Entry) :
    (codes.flatMap fun other => if other = code then entries other else []) = entries code := by
  induction codes with
  | nil => exact absurd member List.not_mem_nil
  | cons head rest ih =>
      obtain ⟨absent, restDistinct⟩ := List.nodup_cons.mp distinct
      rw [List.flatMap_cons]
      rcases List.mem_cons.mp member with rfl | inRest
      · have others : ∀ other ∈ rest, (if other = code then entries other else []) = [] :=
          fun other present =>
            if_neg fun same : other = code => absent (same ▸ present)
        rw [if_pos rfl, List.flatMap_congr others]
        simp
      · have different : head ≠ code := fun same => absent (same ▸ inRest)
        rw [if_neg different, List.nil_append, ih restDistinct inRest]

theorem payloads_map_pair (code index : MarkerCode) (data : List Bytes) :
    payloads code (data.map fun payload => (index, payload)) =
      if index = code then data else [] := by
  by_cases same : index = code <;> simp [payloads, List.filter_map, Function.comp_def, same]

theorem payloads_flatMap {Row : Type} (code : MarkerCode) (rows : List Row)
    (write : Row → List Marker) :
    payloads code (rows.flatMap write) = rows.flatMap fun row => payloads code (write row) := by
  simp [payloads, List.filter_flatMap, List.map_flatMap]

theorem payloads_markerList (code : MarkerCode) (segments : List Segment) :
    payloads code (markerList segments) =
      (payloads code (segments.map Segment.marker)).map fun payload => payload.take 32000 := by
  rw [markerList_eq]
  induction segments with
  | nil => rfl
  | cons segment rest ih =>
      by_cases same : segment.code = code <;> simpa [payloads, Segment.marker, same] using ih

theorem mem_payloads {code : MarkerCode} {payload : Bytes} {segments : List Segment} :
    payload ∈ payloads code (segments.map Segment.marker) ↔
      ∃ segment ∈ segments, segment.code = code ∧ segment.payload = payload := by
  simp [payloads, Segment.marker, and_assoc]

theorem markerList_filled (code : MarkerCode) (segments : List Segment) :
    ∀ payload ∈ payloads code (markerList segments), payload ≠ [] := by
  intro payload present
  rw [payloads_markerList] at present
  obtain ⟨whole, member, rfl⟩ := List.mem_map.mp present
  obtain ⟨segment, _, _, rfl⟩ := mem_payloads.mp member
  simpa using segment.nonempty

/-- What is written for a code: the delivered payloads of every code saved under it. -/
theorem payloads_writeMarkers (code : MarkerCode) (segments : List Segment) :
    payloads code (writeMarkers (loadMarkers segments)) =
      markerCodes.flatMap fun other =>
        if savedCode other = code then payloads other (markerList segments) else [] := by
  rw [writeMarkers, saveOptions_eq, List.flatMap_map, payloads_flatMap]
  refine List.flatMap_congr fun other _ => ?_
  rw [loadMarkers, saveOption_loaded _ _ _ (markerList_filled other segments), payloads_map_pair]

/-- Without `APP10` segments every code is written with its own delivered payloads. -/
theorem payloads_writeMarkers_of_noApp10 {segments : List Segment}
    (noApp10 : payloads (.app 10) (markerList segments) = []) (code : MarkerCode) :
    payloads code (writeMarkers (loadMarkers segments)) = payloads code (markerList segments) := by
  rw [payloads_writeMarkers]
  rw [← flatMap_select nodup_markerCodes (mem_markerCodes code)
    fun other => payloads other (markerList segments)]
  refine List.flatMap_congr fun other _ => ?_
  by_cases app10 : other = .app 10
  · subst app10
    simp [noApp10]
  · rw [savedCode_of_ne app10]

theorem payloads_app10_writeMarkers (segments : List Segment) :
    payloads (.app 10) (writeMarkers (loadMarkers segments)) = [] := by
  rw [payloads_writeMarkers]
  simp [savedCode_ne_app10]

/--
The metadata of a file survives loading and saving exactly when the file has no
`APP10` segment and no segment longer than the loading limit.
-/
theorem metadata_roundTrip_iff (segments : List Segment) :
    (∀ code, payloads code (writeMarkers (loadMarkers segments)) =
        payloads code (segments.map Segment.marker)) ↔
      ∀ segment ∈ segments, segment.code ≠ .app 10 ∧ segment.payload.length ≤ 32000 := by
  constructor
  · intro kept
    have noApp10 : payloads (.app 10) (segments.map Segment.marker) = [] := by
      rw [← kept, payloads_app10_writeMarkers]
    have delivered : payloads (.app 10) (markerList segments) = [] := by
      rw [payloads_markerList, noApp10, List.map_nil]
    intro segment present
    refine ⟨fun app10 => ?_, ?_⟩
    · have member := mem_payloads.mpr ⟨segment, present, app10, rfl⟩
      rw [noApp10] at member
      exact List.not_mem_nil member
    · have cut := kept segment.code
      rw [payloads_writeMarkers_of_noApp10 delivered, payloads_markerList] at cut
      have whole : segment.payload.take 32000 = segment.payload :=
        List.map_inj_left.mp (cut.trans (List.map_id _).symm) _
          (mem_payloads.mpr ⟨segment, present, rfl, rfl⟩)
      exact (List.take_eq_self_iff _).mp whole
  · intro good code
    have uncut : ∀ code', payloads code' (markerList segments) =
        payloads code' (segments.map Segment.marker) := by
      intro code'
      rw [payloads_markerList]
      refine (List.map_congr_left fun payload present => ?_).trans (List.map_id _)
      obtain ⟨segment, member, _, rfl⟩ := mem_payloads.mp present
      exact List.take_of_length_le (good segment member).2
    have noApp10 : payloads (.app 10) (markerList segments) = [] := by
      rw [uncut]
      refine List.eq_nil_iff_forall_not_mem.mpr fun payload present => ?_
      obtain ⟨segment, member, app10, _⟩ := mem_payloads.mp present
      exact (good segment member).1 app10
    rw [payloads_writeMarkers_of_noApp10 noApp10, uncut]

/-- A file with one `APP10` segment of three bytes. -/
def app10File : List Segment := [⟨.app 10, [1, 2, 3], by decide, by decide⟩]

/-- Its segment is gone after loading and saving; an `APP11` segment stands in its place. -/
theorem app10File_loses_segment :
    payloads (.app 10) (writeMarkers (loadMarkers app10File)) ≠
        payloads (.app 10) (app10File.map Segment.marker) ∧
      payloads (.app 11) (writeMarkers (loadMarkers app10File)) = [[1, 2, 3]] := by
  decide

end RPhoto.Jpeg
