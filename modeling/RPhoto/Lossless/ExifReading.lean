import RPhoto.Lossless.ExifSize

/-!
# Reading the size and adjusting it again

The adjustment leaves the tags of the directory alone and, where the directory comes
after the entry that points at it, everything its search reads.  So a second adjustment
finds the same entries, and a reader of the data finds the size last written.
-/

namespace RPhoto.Lossless.Exif

open RPhoto.Jpeg

variable {Value Next : Type} {data : Bytes} {call : Except Stop Value} {isMotorola : Bool}
variable {index offset newWidth newHeight newValue entry : Nat}

/-! ## Adjusting again -/

variable {entries : List Nat} {middle result other : Bytes} {width height : Nat}

theorem sizeOf?_isSome (newWidth newHeight width height tagnum : Nat) :
    (sizeOf? newWidth newHeight tagnum).isSome = (sizeOf? width height tagnum).isSome := by
  unfold sizeOf?
  split_ifs <;> rfl

theorem SizeEntry.other_size (width height : Nat)
    (sized : SizeEntry isMotorola newWidth newHeight data entry newValue) :
    ∃ value, SizeEntry isMotorola width height data entry value := by
  obtain ⟨tagnum, read, size⟩ := sized
  have known : (sizeOf? width height tagnum).isSome := by
    rw [sizeOf?_isSome width height newWidth newHeight, size]
    rfl
  obtain ⟨value, size⟩ := Option.isSome_iff_exists.mp known
  exact ⟨value, tagnum, read, size⟩

/-- Different entries do not overlap. -/
def EntriesApart (entries : List Nat) : Prop :=
  ∀ entry ∈ entries, ∀ other ∈ entries, entry = other ∨ entry + 12 ≤ other ∨ other + 12 ≤ entry

theorem entriesFrom_step {length numberOfTags : Nat}
    (member : entry ∈ entriesFrom length numberOfTags offset) :
    ∃ before, entry = offset + 12 * before := by
  induction numberOfTags generalizing offset with
  | zero => exact absurd member List.not_mem_nil
  | succ numberOfTags ih =>
      rw [entriesFrom] at member
      split_ifs at member with within
      · rcases List.mem_cons.mp member with rfl | later
        · exact ⟨0, rfl⟩
        · obtain ⟨before, rfl⟩ := ih later
          exact ⟨before + 1, by omega⟩
      · exact absurd member List.not_mem_nil

theorem exifEntries_apart (data : Bytes) : EntriesApart (exifEntries data).2 := by
  unfold exifEntries
  rcases exifDirectory data with stop | ⟨isMotorola, numberOfTags, offset⟩
  · exact fun _ member => absurd member List.not_mem_nil
  · intro entry member other among
    obtain ⟨before, rfl⟩ := entriesFrom_step member
    obtain ⟨later, rfl⟩ := entriesFrom_step among
    omega

theorem Adjusted.tag_kept (adjusted : Adjusted isMotorola newWidth newHeight entries data result)
    (apart : EntriesApart entries) (member : entry ∈ entries) :
    SizeEntry isMotorola width height result entry newValue ↔
      SizeEntry isMotorola width height data entry newValue := by
  refine SizeEntry.congr fun i above below => adjusted.kept i fun other among _ _ => ?_
  have places := apart entry member other among
  omega

theorem Adjusted.trans (first : Adjusted isMotorola width height entries data middle)
    (second : Adjusted isMotorola newWidth newHeight entries middle result)
    (apart : EntriesApart entries) :
    Adjusted isMotorola newWidth newHeight entries data result := by
  refine ⟨second.length.trans first.length, ?_, ?_⟩
  · intro entry member newValue sized
    exact second.written entry member newValue ((first.tag_kept apart member).mpr sized)
  · intro index away
    rw [second.kept index fun entry member newValue sized =>
      away entry member newValue ((first.tag_kept apart member).mp sized)]
    refine first.kept index fun entry member value sized => ?_
    obtain ⟨newValue, sized⟩ := sized.other_size newWidth newHeight
    exact away entry member newValue sized

theorem Adjusted.unique (first : Adjusted isMotorola newWidth newHeight entries data result)
    (second : Adjusted isMotorola newWidth newHeight entries data other) : result = other := by
  refine List.ext_getElem? fun index => ?_
  by_cases inside : ∃ entry ∈ entries, ∃ newValue,
      SizeEntry isMotorola newWidth newHeight data entry newValue ∧
        entry + 2 ≤ index ∧ index < entry + 12
  · obtain ⟨entry, member, newValue, sized, above, below⟩ := inside
    obtain ⟨k, rfl⟩ := Nat.exists_eq_add_of_le above
    rw [first.written entry member newValue sized k (by omega),
      second.written entry member newValue sized k (by omega)]
  · have away : ∀ entry ∈ entries, ∀ newValue,
        SizeEntry isMotorola newWidth newHeight data entry newValue →
          index < entry + 2 ∨ entry + 12 ≤ index := by
      intro entry member newValue sized
      by_contra within
      exact inside ⟨entry, member, newValue, sized, by omega, by omega⟩
    rw [first.kept index away, second.kept index away]

/--
The call accesses nothing outside the data and gives the one list of bytes that has the
bytes of the new size in the entries of the size and those of the data everywhere else.
-/
theorem only_size_changes (data : Bytes) (newWidth newHeight : Nat) :
    ∃ result, adjustExifParameters data newWidth newHeight = some result ∧
      ∀ other, other = result ↔
        Adjusted (exifEntries data).1 newWidth newHeight (exifEntries data).2 data other := by
  obtain ⟨result, call, adjusted⟩ := adjustExifParameters_adjusts data newWidth newHeight
  refine ⟨result, call, fun other => ⟨?_, fun adjustedToo => adjustedToo.unique adjusted⟩⟩
  rintro rfl
  exact adjusted

/-! ## Reading the size -/

/-- What the one call gives, the other gives as well. -/
def Carries (call next : Except Stop Value) : Prop := ∀ value, call = .ok value → next = .ok value

theorem Carries.bind {again : Except Stop Value} {next follow : Value → Except Stop Next}
    (first : Carries call again)
    (rest : ∀ value, call = .ok value → Carries (next value) (follow value)) :
    Carries (call >>= next) (again >>= follow) := by
  intro result gives
  obtain ⟨value, found, gives⟩ := bind_eq_ok.mp gives
  exact bind_eq_ok.mpr ⟨value, first value found, rest value found result gives⟩

theorem demand_carries (holds : Bool) : Carries (demand data holds) (demand other holds) :=
  fun _ passes => demand_eq_ok.mpr (demand_eq_ok.mp passes)

theorem octet_carries (same : data[index]? = other[index]?) :
    Carries (octet data index) (octet other index) :=
  fun _ gives => octet_eq_ok.mpr (same ▸ octet_eq_ok.mp gives)

theorem read16_carries (same : ∀ i, offset ≤ i → i < offset + 2 → data[i]? = other[i]?) :
    Carries (read16 isMotorola data offset) (read16 isMotorola other offset) :=
  fun _ gives => read16_congr same ▸ gives

theorem readOffset_carries (same : ∀ i, offset ≤ i → i < offset + 4 → data[i]? = other[i]?) :
    Carries (readOffset isMotorola data offset) (readOffset isMotorola other offset) := by
  cases isMotorola <;>
    exact (octet_carries (same _ (by omega) (by omega))).bind fun _ _ =>
      (demand_carries _).bind fun _ _ =>
      (octet_carries (same _ (by omega) (by omega))).bind fun _ _ =>
      (demand_carries _).bind fun _ _ =>
      read16_carries fun i above below => same i (by omega) (by omega)

theorem readDirectory_eq_ok {place numberOfTags : Nat}
    (found : readDirectory isMotorola data place = .ok (numberOfTags, offset)) :
    2 ≤ offset ∧ readOffset isMotorola data place = .ok (offset - 2) ∧
      offset - 2 ≤ data.length - 2 ∧ read16 isMotorola data (offset - 2) = .ok numberOfTags := by
  obtain ⟨start, read, found⟩ := bind_eq_ok.mp found
  obtain ⟨_, holds, found⟩ := bind_eq_ok.mp found
  obtain ⟨count, counted, same⟩ := bind_eq_ok.mp found
  cases same
  exact ⟨by omega, read, of_decide_eq_true (demand_eq_ok.mp holds), counted⟩

theorem readDirectory_carries {place numberOfTags : Nat} (length : data.length = other.length)
    (found : readDirectory isMotorola data place = .ok (numberOfTags, offset))
    (pointer : ∀ i, place ≤ i → i < place + 4 → data[i]? = other[i]?)
    (count : ∀ i, offset - 2 ≤ i → i < offset → data[i]? = other[i]?) :
    readDirectory isMotorola other place = .ok (numberOfTags, offset) := by
  obtain ⟨positive, read, bounded, counted⟩ := readDirectory_eq_ok found
  refine bind_eq_ok.mpr ⟨offset - 2, readOffset_carries pointer _ read, ?_⟩
  refine bind_eq_ok.mpr ⟨(), demand_eq_ok.mpr (decide_eq_true (length ▸ bounded)), ?_⟩
  refine bind_eq_ok.mpr ⟨numberOfTags, ?_, ?_⟩
  · exact read16_carries (fun i above below => count i above (by omega)) _ counted
  · rw [Nat.sub_add_cancel positive]

theorem searchSubIFD_carries {numberOfTags firstoffset place : Nat}
    (length : data.length = other.length)
    (same : ∀ i < place + 2, data[i]? = other[i]?)
    (found : searchSubIFD isMotorola data numberOfTags firstoffset = .ok place) :
    searchSubIFD isMotorola other numberOfTags firstoffset = .ok place := by
  induction numberOfTags generalizing firstoffset with
  | zero => exact nomatch found
  | succ numberOfTags ih =>
      have before := (searchSubIFD_bounded found).1
      obtain ⟨_, holds, found⟩ := bind_eq_ok.mp found
      obtain ⟨tagnum, read, found⟩ := bind_eq_ok.mp found
      have again := read16_carries (fun i _ below => same i (by omega)) _ read
      refine bind_eq_ok.mpr ⟨(), ?_, bind_eq_ok.mpr ⟨tagnum, again, ?_⟩⟩
      · exact demand_eq_ok.mpr (length ▸ demand_eq_ok.mp holds)
      · split_ifs at found ⊢ with here
        · exact found
        · exact ih found

/-- The search reads nothing after the entry it finds. -/
theorem findSubIFD_carries {place : Nat} (length : data.length = other.length)
    (same : ∀ i < place + 12, data[i]? = other[i]?)
    (found : findSubIFD data = .ok (isMotorola, place)) :
    findSubIFD other = .ok (isMotorola, place) := by
  obtain ⟨long, ordered, marked, numberOfTags, firstoffset, directory, searched⟩ :=
    findSubIFD_eq_ok found
  have before := (searchSubIFD_bounded searched).1
  have order : byteOrder other = .ok isMotorola := by
    refine (octet_carries (same 0 (by omega))).bind (fun first _ => ?_) _ ordered
    refine (octet_carries (same 1 (by omega))).bind fun second _ => ?_
    intro value gives
    split_ifs at gives ⊢ with intel motorola
    · exact gives
    · exact gives
  have mark : checkTagMark isMotorola other = .ok () := by
    revert marked
    cases isMotorola <;>
      exact (octet_carries (same _ (by omega))).bind (fun _ _ => (demand_carries _).bind fun _ _ =>
        (octet_carries (same _ (by omega))).bind fun _ _ => demand_carries _) ()
  have reread := readDirectory_carries length directory
    (fun i _ below => same i (by omega)) fun i _ below => same i (by omega)
  refine bind_eq_ok.mpr ⟨(), demand_eq_ok.mpr (decide_eq_true (length ▸ long)), ?_⟩
  refine bind_eq_ok.mpr ⟨isMotorola, order, bind_eq_ok.mpr ⟨(), mark, ?_⟩⟩
  refine bind_eq_ok.mpr ⟨_, reread, bind_eq_ok.mpr ⟨place, ?_, rfl⟩⟩
  exact searchSubIFD_carries length (fun i below => same i (by omega)) searched

/-- The SubIFD comes after the entry that points at it. -/
def SubIFDFollows (data : Bytes) : Prop :=
  ∀ isMotorola place numberOfTags offset, findSubIFD data = .ok (isMotorola, place) →
    readDirectory isMotorola data (place + 8) = .ok (numberOfTags, offset) →
      place + 12 ≤ offset - 2

/-- The entries of the size give this width and height. -/
def RecordsSize (data : Bytes) (width height : Nat) : Prop :=
  ∀ entry ∈ (exifEntries data).2, ∀ value,
    SizeEntry (exifEntries data).1 width height data entry value →
      readOffset (exifEntries data).1 data (entry + 8) = .ok value

theorem exifDirectory_eq_ok {numberOfTags : Nat}
    (found : exifDirectory data = .ok (isMotorola, numberOfTags, offset)) :
    ∃ place, findSubIFD data = .ok (isMotorola, place) ∧
      readDirectory isMotorola data (place + 8) = .ok (numberOfTags, offset) ∧
      2 ≤ numberOfTags := by
  obtain ⟨⟨order, place⟩, search, found⟩ := bind_eq_ok.mp found
  obtain ⟨⟨count, first⟩, directory, found⟩ := bind_eq_ok.mp found
  obtain ⟨_, holds, same⟩ := bind_eq_ok.mp found
  cases same
  exact ⟨place, search, directory, of_decide_eq_true (demand_eq_ok.mp holds)⟩

/-- A directory is found in the same place, with as many entries, after an adjustment. -/
theorem Adjusted.directory {numberOfTags place : Nat}
    (adjusted : Adjusted isMotorola newWidth newHeight
      (entriesFrom data.length numberOfTags offset) data result)
    (search : findSubIFD data = .ok (isMotorola, place))
    (found : readDirectory isMotorola data (place + 8) = .ok (numberOfTags, offset))
    (follows : place + 12 ≤ offset - 2) :
    findSubIFD result = .ok (isMotorola, place) ∧
      readDirectory isMotorola result (place + 8) = .ok (numberOfTags, offset) := by
  have same : ∀ i < offset, data[i]? = result[i]? := by
    intro i below
    refine (adjusted.kept i fun entry member _ _ => ?_).symm
    have bound := (entriesFrom_bounds member).1
    omega
  refine ⟨findSubIFD_carries adjusted.length.symm (fun i below => same i (by omega)) search, ?_⟩
  exact readDirectory_carries adjusted.length.symm found (fun i _ below => same i (by omega))
    fun i _ below => same i below

/-- The entries are the same after an adjustment, in the same places. -/
theorem Adjusted.sameEntries
    (adjusted : Adjusted (exifEntries data).1 newWidth newHeight (exifEntries data).2 data result)
    (follows : SubIFDFollows data) :
    exifEntries result = exifEntries data ∧ SubIFDFollows result := by
  rcases exifDirectory_safe data with stops | ⟨⟨order, numberOfTags, offset⟩, found⟩
  · have none : exifEntries data = (false, []) := by
      rw [exifEntries, stops]
    rw [none] at adjusted
    cases adjusted.unique .nothing
    exact ⟨rfl, follows⟩
  · have listed : exifEntries data = (order, entriesFrom data.length numberOfTags offset) := by
      rw [exifEntries, found]
    rw [listed] at adjusted ⊢
    obtain ⟨place, search, directory, several⟩ := exifDirectory_eq_ok found
    have after := follows order place numberOfTags offset search directory
    obtain ⟨again, reread⟩ := adjusted.directory search directory after
    constructor
    · have same : exifDirectory result = .ok (order, numberOfTags, offset) :=
        bind_eq_ok.mpr ⟨_, again, bind_eq_ok.mpr ⟨_, reread,
          bind_eq_ok.mpr ⟨(), demand_eq_ok.mpr (decide_eq_true several), rfl⟩⟩⟩
      rw [exifEntries, same, ← adjusted.length]
    · intro other spot count first search directory
      cases again.symm.trans search
      cases reread.symm.trans directory
      exact after

/-- A new value of 16 bits is read back. -/
theorem readOffset_entryOctets (short : newValue < 65536)
    (written : ∀ k < 10, data[entry + 2 + k]? = (entryOctets isMotorola newValue)[k]?) :
    readOffset isMotorola data (entry + 8) = .ok newValue := by
  have sixth := written 6 (by decide)
  have seventh := written 7 (by decide)
  have eighth := written 8 (by decide)
  have ninth := written 9 (by decide)
  have high : newValue / 256 % 256 = newValue / 256 := by omega
  have value : newValue / 256 * 256 + newValue % 256 = newValue := by omega
  cases isMotorola with
  | false =>
      refine bind_eq_ok.mpr ⟨_, octet_eq_ok.mpr ninth, bind_eq_ok.mpr ⟨(), rfl, ?_⟩⟩
      refine bind_eq_ok.mpr ⟨_, octet_eq_ok.mpr eighth, bind_eq_ok.mpr ⟨(), rfl, ?_⟩⟩
      refine bind_eq_ok.mpr ⟨_, octet_eq_ok.mpr sixth, ?_⟩
      refine bind_eq_ok.mpr ⟨_, octet_eq_ok.mpr seventh, congrArg _ ?_⟩
      change (UInt8.ofNat (newValue / 256)).toNat * 256 + (UInt8.ofNat newValue).toNat = newValue
      rw [UInt8.toNat_ofNat', UInt8.toNat_ofNat', high, value]
  | true =>
      refine bind_eq_ok.mpr ⟨_, octet_eq_ok.mpr sixth, bind_eq_ok.mpr ⟨(), rfl, ?_⟩⟩
      refine bind_eq_ok.mpr ⟨_, octet_eq_ok.mpr seventh, bind_eq_ok.mpr ⟨(), rfl, ?_⟩⟩
      refine bind_eq_ok.mpr ⟨_, octet_eq_ok.mpr eighth, ?_⟩
      refine bind_eq_ok.mpr ⟨_, octet_eq_ok.mpr ninth, congrArg _ ?_⟩
      change (UInt8.ofNat (newValue / 256)).toNat * 256 + (UInt8.ofNat newValue).toNat = newValue
      rw [UInt8.toNat_ofNat', UInt8.toNat_ofNat', high, value]

theorem sizeOf?_small {tagnum value : Nat} (shortWidth : width < 65536)
    (shortHeight : height < 65536) (size : sizeOf? width height tagnum = some value) :
    value < 65536 := by
  unfold sizeOf? at size
  split_ifs at size
  · cases size
    exact shortWidth
  · cases size
    exact shortHeight

/-- What the call has written is read back as the size of the picture. -/
theorem adjustExifParameters_records (follows : SubIFDFollows data) (shortWidth : width < 65536)
    (shortHeight : height < 65536) (call : adjustExifParameters data width height = some result) :
    RecordsSize result width height ∧ SubIFDFollows result := by
  obtain ⟨_, gives, adjusted⟩ := adjustExifParameters_adjusts data width height
  cases gives.symm.trans call
  obtain ⟨same, after⟩ := adjusted.sameEntries follows
  refine ⟨?_, after⟩
  rw [RecordsSize, same]
  intro entry member value sized
  have before := (adjusted.tag_kept (exifEntries_apart data) member).mp sized
  obtain ⟨tagnum, -, size⟩ := sized
  exact readOffset_entryOctets (sizeOf?_small shortWidth shortHeight size)
    (adjusted.written entry member value before)

/-- Of two adjustments only the second one leaves a trace. -/
theorem adjustExifParameters_again (follows : SubIFDFollows data)
    (call : adjustExifParameters data width height = some middle) (newWidth newHeight : Nat) :
    adjustExifParameters middle newWidth newHeight =
      adjustExifParameters data newWidth newHeight := by
  obtain ⟨_, gives, first⟩ := adjustExifParameters_adjusts data width height
  cases gives.symm.trans call
  obtain ⟨result, last, second⟩ := adjustExifParameters_adjusts middle newWidth newHeight
  obtain ⟨other, once, direct⟩ := adjustExifParameters_adjusts data newWidth newHeight
  rw [(first.sameEntries follows).1] at second
  rw [last, once, (first.trans second (exifEntries_apart data)).unique direct]

/-- One adjustment after the other. -/
def adjustInTurn (data : Bytes) (sizes : List (Nat × Nat)) : Option Bytes :=
  sizes.foldlM (fun data size => adjustExifParameters data size.1 size.2) data

/-- After any number of adjustments the data is as if only the last one had been made. -/
theorem last_size_counts (follows : SubIFDFollows data) (sizes : List (Nat × Nat))
    (last : Nat × Nat) :
    adjustInTurn data (sizes ++ [last]) = adjustExifParameters data last.1 last.2 := by
  unfold adjustInTurn
  induction sizes generalizing data with
  | nil =>
      rw [List.nil_append, List.foldlM_cons]
      exact bind_pure _
  | cons size sizes ih =>
      obtain ⟨middle, call, adjusted⟩ := adjustExifParameters_adjusts data size.1 size.2
      rw [List.cons_append, List.foldlM_cons, call]
      exact (ih (adjusted.sameEntries follows).2).trans
        (adjustExifParameters_again follows call last.1 last.2)

/-- A structure in Intel order, with a directory of one entry and one of the size. -/
def sampleTIFF : Bytes :=
  [0x49, 0x49, 0x2A, 0, 8, 0, 0, 0,
    1, 0, 0x69, 0x87, 4, 0, 1, 0, 0, 0, 22, 0, 0, 0,
    2, 0, 0x02, 0xA0, 3, 0, 1, 0, 0, 0, 16, 0, 0, 0, 0x03, 0xA0, 3, 0, 1, 0, 0, 0, 12, 0, 0, 0]

theorem sampleTIFF_follows : SubIFDFollows sampleTIFF := by
  intro isMotorola place numberOfTags offset search directory
  have found : findSubIFD sampleTIFF = .ok (false, 10) := by decide +kernel
  cases found.symm.trans search
  have listed : readDirectory false sampleTIFF 18 = .ok (2, 24) := by decide +kernel
  cases listed.symm.trans directory
  decide

theorem last_size_counts_sample :
    adjustInTurn sampleTIFF [(12, 16), (8, 8), (300, 7)] = adjustExifParameters sampleTIFF 300 7 :=
  last_size_counts sampleTIFF_follows [(12, 16), (8, 8)] (300, 7)

end RPhoto.Lossless.Exif
