import RPhoto.Jpeg.Markers

/-!
# The two readers of a marker option

`SaveFile` splits the value of an option at `#` and decodes each part, while
`imageUpdateExif` decodes the comment option as a whole.  The decoder drops the
separators and every part is a number of complete groups, so both readers see
the payloads that were stored.
-/

namespace RPhoto.Jpeg

/-- The base64 texts of repeated markers, as `LoadFile` joins them in one option. -/
def joinedText (data : List Bytes) : Text :=
  ['#'].intercalate (data.map fun payload => encodeBase64 payload.length payload)

/-! ## Complete groups -/

theorem four_dvd_length_encodeGroups (src : Bytes) : 4 ∣ (encodeGroups src).length := by
  induction src using encodeGroups.induct with
  | case1 => simp [encodeGroups]
  | case2 b1 => simp [encodeGroups]
  | case3 b1 b2 => simp [encodeGroups]
  | case4 b1 b2 b3 rest ih =>
      simp only [encodeGroups, List.length_cons]
      omega

/-- A number of complete groups is decoded apart from what follows them. -/
theorem decodeGroups_append {left : Text} (complete : 4 ∣ left.length) (right : Text) :
    decodeGroups (left ++ right) = decodeGroups left ++ decodeGroups right := by
  induction left using decodeGroups.induct with
  | case1 => rfl
  | case2 c1 => exact absurd complete (by simp)
  | case3 c1 c2 => exact absurd complete (by simp)
  | case4 c1 c2 c3 => exact absurd complete (by simp)
  | case5 c1 c2 c3 c4 rest ih =>
      have restComplete : 4 ∣ rest.length := by
        simp only [List.length_cons] at complete
        omega
      simp only [List.cons_append, decodeGroups]
      rw [ih restComplete, List.append_assoc]

theorem decodeGroups_flatten (data : List Bytes) :
    decodeGroups (data.map encodeGroups).flatten = data.flatten := by
  induction data with
  | nil => rfl
  | cons payload rest ih =>
      rw [List.map_cons, List.flatten_cons, List.flatten_cons,
        decodeGroups_append (four_dvd_length_encodeGroups payload), decodeGroups_encodeGroups, ih]

/-! ## The separators -/

/-- A filter that drops the separator leaves the concatenated texts. -/
theorem filter_intercalate {Symbol : Type} {separator : Symbol} {keep : Symbol → Bool}
    (dropped : keep separator = false) {texts : List (List Symbol)}
    (kept : ∀ text ∈ texts, ∀ symbol ∈ text, keep symbol = true) :
    ([separator].intercalate texts).filter keep = texts.flatten := by
  induction texts with
  | nil => rfl
  | cons text rest ih =>
      have whole : text.filter keep = text :=
        List.filter_eq_self.mpr (kept text List.mem_cons_self)
      have others := ih fun other member => kept other (List.mem_cons_of_mem _ member)
      cases rest with
      | nil => simpa using whole
      | cons next more => simpa [whole, dropped] using others

theorem mem_intercalate {Symbol : Type} {separator symbol : Symbol} {texts : List (List Symbol)}
    (present : symbol ∈ [separator].intercalate texts) :
    symbol = separator ∨ ∃ text ∈ texts, symbol ∈ text := by
  induction texts with
  | nil => simp at present
  | cons text rest ih =>
      cases rest with
      | nil => exact Or.inr ⟨text, List.mem_cons_self, by simpa using present⟩
      | cons next more =>
          have places : symbol ∈ text ∨ symbol = separator ∨
              symbol ∈ [separator].intercalate (next :: more) := by
            simpa using present
          rcases places with here | atSeparator | later
          · exact Or.inr ⟨text, List.mem_cons_self, here⟩
          · exact Or.inl atSeparator
          · rcases ih later with atSeparator | ⟨other, member, inside⟩
            · exact Or.inl atSeparator
            · exact Or.inr ⟨other, List.mem_cons_of_mem _ member, inside⟩

/-! ## Both readers -/

theorem joinedText_eq {data : List Bytes} (filled : ∀ payload ∈ data, payload ≠ []) :
    joinedText data = ['#'].intercalate (data.map encodeGroups) := by
  rw [joinedText]
  exact congrArg _ (List.map_congr_left fun payload present =>
    encodeBase64_length (filled payload present))

/-- What the decoder keeps of the joined texts are the texts alone. -/
theorem counted_joinedText {data : List Bytes} (filled : ∀ payload ∈ data, payload ≠ []) :
    ((joinedText data).takeWhile (· ≠ '\x00')).filter isBase64 =
      (data.map encodeGroups).flatten := by
  rw [joinedText_eq filled]
  have noNul : (['#'].intercalate (data.map encodeGroups)).takeWhile (· ≠ '\x00') =
      ['#'].intercalate (data.map encodeGroups) := by
    refine List.takeWhile_eq_self_iff.mpr fun c present => ?_
    rcases mem_intercalate present with rfl | ⟨text, member, inside⟩
    · decide
    · obtain ⟨payload, _, rfl⟩ := List.mem_map.mp member
      simpa using (encoded_of_mem_encodeGroups inside).2.2
  rw [noNul]
  refine filter_intercalate (by decide) fun text member c inside => ?_
  obtain ⟨payload, _, rfl⟩ := List.mem_map.mp member
  exact (encoded_of_mem_encodeGroups inside).1

theorem decodeBase64_joinedText {data : List Bytes} (filled : ∀ payload ∈ data, payload ≠ []) :
    decodeBase64 (joinedText data) = data.flatten := by
  rw [decodeBase64, counted_joinedText filled, decodeGroups_flatten]

theorem map_decodeBase64_tokens {data : List Bytes} (nonempty : data ≠ [])
    (filled : ∀ payload ∈ data, payload ≠ []) :
    (tokens (joinedText data)).map decodeBase64 = data := by
  rw [joinedText, tokens_of_payloads nonempty filled, List.map_map]
  refine (List.map_congr_left fun payload _ => ?_).trans (List.map_id data)
  exact decodeBase64_encodeGroups payload

/-- Storing payloads under one code joins their texts in the option of that code. -/
theorem stored_joinedText {data : List Bytes} (nonempty : data ≠ []) (code : MarkerCode) :
    ((data.map fun payload => (code, payload)).foldl storeMarker []).getOption
      (markerName code) = some (joinedText data) := by
  rw [getOption_foldl_storeMarker, Options.getOption_nil, payloads_map_pair, if_pos rfl]
  exact foldl_joinText_none (by simpa using nonempty)

/--
The option of repeated markers is their texts joined by `#`: taken apart at the
separators it gives back the payloads, and decoded as a whole their concatenation.
-/
theorem markerOption_codec {data : List Bytes} (nonempty : data ≠ [])
    (sized : ∀ payload ∈ data, 1 ≤ payload.length ∧ payload.length ≤ 32000)
    (code : MarkerCode) :
    ((data.map fun payload => (code, payload)).foldl storeMarker []).getOption
        (markerName code) = some (joinedText data) ∧
      (tokens (joinedText data)).map decodeBase64 = data ∧
      decodeBase64 (joinedText data) = data.flatten := by
  have filled : ∀ payload ∈ data, payload ≠ [] := fun payload present =>
    List.length_pos_iff.mp (sized payload present).1
  exact ⟨stored_joinedText nonempty code, map_decodeBase64_tokens nonempty filled,
    decodeBase64_joinedText filled⟩

/-- Three comments, with padding inside the joined text. -/
theorem threeComments_codec :
    decodeBase64 (joinedText [[65], [66, 67], [68, 69, 70]]) = [65, 66, 67, 68, 69, 70] :=
  (markerOption_codec (by decide) (by decide) .com).2.2

end RPhoto.Jpeg
