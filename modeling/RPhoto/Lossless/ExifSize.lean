import RPhoto.Jpeg.Base64

/-!
# The size recorded in Exif data

`adjust_exif_parameters` works on the bytes of a TIFF structure from a file, which can
be anything: it looks for the ExifSubIFD entry of the first directory, follows its
offset, and writes a new width and height into the entries `ExifImageWidth` and
`ExifImageHeight` of the directory found there.  Offsets have 16 bits and lengths 32,
so that no sum of the two overflows.

Reads and writes outside the data would be undefined.  None happens, and no byte
changes but the last ten of the entries of the size.
-/

namespace RPhoto.Lossless.Exif

open RPhoto.Jpeg

/-! ## The directories of a TIFF structure -/

/-- What ends a call before its end: a `return`, or an access outside the data. -/
inductive Stop where
  | returned (data : Bytes)
  | outside
  deriving DecidableEq

variable {Value Next : Type}

/-- `GETJOCTET`. -/
def octet (data : Bytes) (index : Nat) : Except Stop UInt8 :=
  match data[index]? with
  | some value => .ok value
  | none => .error .outside

/-- The call returns unless the condition holds. -/
def demand (data : Bytes) (holds : Bool) : Except Stop Unit :=
  if holds then .ok () else .error (.returned data)

/-- The byte order: `is_motorola`. -/
def byteOrder (data : Bytes) : Except Stop Bool := do
  let first ← octet data 0
  let second ← octet data 1
  if first = 0x49 ∧ second = 0x49 then .ok false
  else if first = 0x4D ∧ second = 0x4D then .ok true
  else .error (.returned data)

def checkTagMark (isMotorola : Bool) (data : Bytes) : Except Stop Unit := do
  if isMotorola then
    demand data ((← octet data 2) = 0)
    demand data ((← octet data 3) = 0x2A)
  else
    demand data ((← octet data 3) = 0)
    demand data ((← octet data 2) = 0x2A)

/-- Two bytes of the data as a number. -/
def read16 (isMotorola : Bool) (data : Bytes) (offset : Nat) : Except Stop Nat := do
  let first ← octet data offset
  let second ← octet data (offset + 1)
  .ok (if isMotorola then first.toNat * 256 + second.toNat else second.toNat * 256 + first.toNat)

/-- Four bytes of the data as an offset, whose upper half has to be zero. -/
def readOffset (isMotorola : Bool) (data : Bytes) (offset : Nat) : Except Stop Nat := do
  if isMotorola then
    demand data ((← octet data offset) = 0)
    demand data ((← octet data (offset + 1)) = 0)
    read16 true data (offset + 2)
  else
    demand data ((← octet data (offset + 3)) = 0)
    demand data ((← octet data (offset + 2)) = 0)
    read16 false data offset

/-- An offset to a directory, with the number of entries there; the entries follow. -/
def readDirectory (isMotorola : Bool) (data : Bytes) (place : Nat) : Except Stop (Nat × Nat) := do
  let offset ← readOffset isMotorola data place
  demand data (offset ≤ data.length - 2)
  let numberOfTags ← read16 isMotorola data offset
  .ok (numberOfTags, offset + 2)

/-- The search for the ExifSubIFD entry. -/
def searchSubIFD (isMotorola : Bool) (data : Bytes) : Nat → Nat → Except Stop Nat
  | 0, _ => .error (.returned data)
  | numberOfTags + 1, firstoffset => do
      demand data (firstoffset ≤ data.length - 12)
      let tagnum ← read16 isMotorola data firstoffset
      if tagnum = 0x8769 then .ok firstoffset
      else searchSubIFD isMotorola data numberOfTags (firstoffset + 12)

/-- The byte order and the place of the ExifSubIFD entry. -/
def findSubIFD (data : Bytes) : Except Stop (Bool × Nat) := do
  demand data (12 ≤ data.length)
  let isMotorola ← byteOrder data
  checkTagMark isMotorola data
  let (numberOfTags, firstoffset) ← readDirectory isMotorola data 4
  let place ← searchSubIFD isMotorola data numberOfTags firstoffset
  .ok (isMotorola, place)

/-! ## Writing the size -/

/-- The bytes of an entry after its tag: one unsigned long, of which 16 bits are set. -/
def entryOctets (isMotorola : Bool) (newValue : Nat) : Bytes :=
  if isMotorola then [0, 4, 0, 0, 0, 1, 0, 0, .ofNat (newValue / 256), .ofNat newValue]
  else [4, 0, 1, 0, 0, 0, .ofNat newValue, .ofNat (newValue / 256), 0, 0]

/-- One assignment after the other. -/
def storeOctets : Nat → Bytes → Bytes → Except Stop Bytes
  | _, [], data => .ok data
  | index, value :: values, data =>
      if index < data.length then storeOctets (index + 1) values (data.set index value)
      else .error .outside

/-- The new value of a tag, if it is one of the two of the size. -/
def sizeOf? (newWidth newHeight tagnum : Nat) : Option Nat :=
  if tagnum = 0xA002 then some newWidth else if tagnum = 0xA003 then some newHeight else none

/-- The body of the loop over the entries. -/
def adjustEntry (isMotorola : Bool) (newWidth newHeight offset : Nat) (data : Bytes) :
    Except Stop Bytes := do
  let tagnum ← read16 isMotorola data offset
  match sizeOf? newWidth newHeight tagnum with
  | some newValue => storeOctets (offset + 2) (entryOctets isMotorola newValue) data
  | none => .ok data

/-- The loop over the entries of the SubIFD. -/
def adjustEntries (isMotorola : Bool) (newWidth newHeight : Nat) :
    Nat → Nat → Bytes → Except Stop Bytes
  | 0, _, data => .ok data
  | numberOfTags + 1, offset, data => do
      demand data (offset ≤ data.length - 12)
      let data ← adjustEntry isMotorola newWidth newHeight offset data
      adjustEntries isMotorola newWidth newHeight numberOfTags (offset + 12) data

/-- The data after the call, unless it has accessed something outside. -/
def afterwards : Except Stop Bytes → Option Bytes
  | .ok data => some data
  | .error (.returned data) => some data
  | .error .outside => none

/-- The byte order, the number of entries and the first entry of the SubIFD. -/
def exifDirectory (data : Bytes) : Except Stop (Bool × Nat × Nat) := do
  let (isMotorola, place) ← findSubIFD data
  let (numberOfTags, offset) ← readDirectory isMotorola data (place + 8)
  demand data (2 ≤ numberOfTags)
  .ok (isMotorola, numberOfTags, offset)

/-- `adjust_exif_parameters`. -/
def adjustExifParameters (data : Bytes) (newWidth newHeight : Nat) : Option Bytes :=
  afterwards do
    let (isMotorola, numberOfTags, offset) ← exifDirectory data
    adjustEntries isMotorola newWidth newHeight numberOfTags offset data

/-! ## The entries of the size -/

/-- The entries the loop visits. -/
def entriesFrom (length : Nat) : Nat → Nat → List Nat
  | 0, _ => []
  | numberOfTags + 1, offset =>
      if offset ≤ length - 12 then offset :: entriesFrom length numberOfTags (offset + 12) else []

/-- The byte order and the entries of the SubIFD; none if it is not found. -/
def exifEntries (data : Bytes) : Bool × List Nat :=
  match exifDirectory data with
  | .ok (isMotorola, numberOfTags, offset) =>
      (isMotorola, entriesFrom data.length numberOfTags offset)
  | .error _ => (false, [])

/-- The entry has a tag of the size, with this value. -/
def SizeEntry (isMotorola : Bool) (newWidth newHeight : Nat) (data : Bytes)
    (entry newValue : Nat) : Prop :=
  ∃ tagnum, read16 isMotorola data entry = .ok tagnum ∧
    sizeOf? newWidth newHeight tagnum = some newValue

/-- Bytes written one after the other from an index on. -/
structure Overwritten (index : Nat) (values data result : Bytes) : Prop where
  length : result.length = data.length
  written : ∀ k < values.length, result[index + k]? = values[k]?
  kept : ∀ other, other < index ∨ index + values.length ≤ other → result[other]? = data[other]?

/-- The size is written into the entries of its tags; every other byte is as it was. -/
structure Adjusted (isMotorola : Bool) (newWidth newHeight : Nat) (entries : List Nat)
    (data result : Bytes) : Prop where
  length : result.length = data.length
  written : ∀ entry ∈ entries, ∀ newValue,
    SizeEntry isMotorola newWidth newHeight data entry newValue →
      ∀ k < 10, result[entry + 2 + k]? = (entryOctets isMotorola newValue)[k]?
  kept : ∀ index, (∀ entry ∈ entries, ∀ newValue,
    SizeEntry isMotorola newWidth newHeight data entry newValue →
      index < entry + 2 ∨ entry + 12 ≤ index) → result[index]? = data[index]?

/-! ## Nothing outside the data -/

/-- The call gives a value or returns; it accesses nothing outside the data. -/
def Safe (data : Bytes) (call : Except Stop Value) : Prop :=
  call = .error (.returned data) ∨ ∃ value, call = .ok value

variable {data : Bytes} {call : Except Stop Value} {isMotorola : Bool} {index offset : Nat}

theorem Safe.ok (value : Value) : Safe data (.ok value : Except Stop Value) :=
  .inr ⟨value, rfl⟩

theorem Safe.returned : Safe data (.error (.returned data) : Except Stop Value) := .inl rfl

theorem Safe.bind {next : Value → Except Stop Next} (safe : Safe data call)
    (follows : ∀ value, call = .ok value → Safe data (next value)) :
    Safe data (call >>= next) := by
  rcases safe with stops | ⟨value, gives⟩
  · rw [stops]
    exact .inl rfl
  · rw [gives]
    exact follows value gives

theorem bind_eq_ok {next : Value → Except Stop Next} {result : Next} :
    call >>= next = .ok result ↔ ∃ value, call = .ok value ∧ next value = .ok result := by
  cases call with
  | error stop => exact iff_of_false (fun h => nomatch h) fun ⟨_, h, _⟩ => nomatch h
  | ok value =>
      refine ⟨fun gives => ⟨value, rfl, gives⟩, ?_⟩
      rintro ⟨_, same, gives⟩
      cases same
      exact gives

theorem demand_eq_ok {holds : Bool} : demand data holds = .ok () ↔ holds = true := by
  cases holds with
  | false => exact iff_of_false (fun h => nomatch h) (fun h => nomatch h)
  | true => exact iff_of_true rfl rfl

theorem demand_safe (data : Bytes) (holds : Bool) : Safe data (demand data holds) := by
  cases holds with
  | false => exact .inl rfl
  | true => exact .inr ⟨(), rfl⟩

theorem octet_eq_ok {value : UInt8} : octet data index = .ok value ↔ data[index]? = some value := by
  unfold octet
  cases data[index]? with
  | none => exact iff_of_false (fun h => nomatch h) (fun h => nomatch h)
  | some found => rw [Except.ok.injEq, Option.some.injEq]

theorem octet_gives (within : index < data.length) : ∃ value, octet data index = .ok value :=
  ⟨data[index], octet_eq_ok.mpr (List.getElem?_eq_getElem within)⟩

theorem octet_safe (within : index < data.length) : Safe data (octet data index) :=
  .inr (octet_gives within)

theorem read16_gives (isMotorola : Bool) (within : offset + 1 < data.length) :
    ∃ value, read16 isMotorola data offset = .ok value := by
  obtain ⟨first, gives⟩ := octet_gives (show offset < data.length by omega)
  obtain ⟨second, follows⟩ := octet_gives within
  exact ⟨_, bind_eq_ok.mpr ⟨first, gives, bind_eq_ok.mpr ⟨second, follows, rfl⟩⟩⟩

theorem read16_safe (within : offset + 1 < data.length) :
    Safe data (read16 isMotorola data offset) := .inr (read16_gives isMotorola within)

theorem byteOrder_safe (long : 12 ≤ data.length) : Safe data (byteOrder data) := by
  refine (octet_safe (by omega)).bind fun first _ => ?_
  refine (octet_safe (by omega)).bind fun second _ => ?_
  split_ifs
  · exact .ok false
  · exact .ok true
  · exact .returned

theorem checkTagMark_safe (long : 12 ≤ data.length) :
    Safe data (checkTagMark isMotorola data) := by
  cases isMotorola <;>
    exact (octet_safe (by omega)).bind fun _ _ => (demand_safe _ _).bind fun _ _ =>
      (octet_safe (by omega)).bind fun _ _ => demand_safe _ _

theorem readOffset_safe (within : offset + 3 < data.length) :
    Safe data (readOffset isMotorola data offset) := by
  cases isMotorola <;>
    exact (octet_safe (by omega)).bind fun _ _ => (demand_safe _ _).bind fun _ _ =>
      (octet_safe (by omega)).bind fun _ _ => (demand_safe _ _).bind fun _ _ =>
        read16_safe (by omega)

theorem readDirectory_safe (long : 12 ≤ data.length) (within : offset + 3 < data.length) :
    Safe data (readDirectory isMotorola data offset) := by
  refine (readOffset_safe within).bind fun found _ => ?_
  refine (demand_safe _ _).bind fun _ holds => ?_
  have bounded : found ≤ data.length - 2 := of_decide_eq_true (demand_eq_ok.mp holds)
  exact (read16_safe (by omega)).bind fun _ _ => .ok _

theorem searchSubIFD_safe (long : 12 ≤ data.length) (numberOfTags firstoffset : Nat) :
    Safe data (searchSubIFD isMotorola data numberOfTags firstoffset) := by
  induction numberOfTags generalizing firstoffset with
  | zero => exact .returned
  | succ numberOfTags ih =>
      refine (demand_safe _ _).bind fun _ holds => ?_
      have bounded : firstoffset ≤ data.length - 12 := of_decide_eq_true (demand_eq_ok.mp holds)
      refine (read16_safe (by omega)).bind fun tagnum _ => ?_
      split_ifs
      · exact .ok firstoffset
      · exact ih (firstoffset + 12)

/-- The entry found is inside the data. -/
theorem searchSubIFD_bounded {numberOfTags firstoffset place : Nat}
    (found : searchSubIFD isMotorola data numberOfTags firstoffset = .ok place) :
    firstoffset ≤ place ∧ place ≤ data.length - 12 := by
  induction numberOfTags generalizing firstoffset with
  | zero => exact nomatch found
  | succ numberOfTags ih =>
      obtain ⟨_, holds, found⟩ := bind_eq_ok.mp found
      have bounded : firstoffset ≤ data.length - 12 := of_decide_eq_true (demand_eq_ok.mp holds)
      obtain ⟨tagnum, -, found⟩ := bind_eq_ok.mp found
      split_ifs at found with same
      · cases found
        exact ⟨Nat.le_refl _, bounded⟩
      · have further := ih found
        exact ⟨by omega, further.2⟩

theorem findSubIFD_safe (data : Bytes) : Safe data (findSubIFD data) := by
  refine (demand_safe _ _).bind fun _ holds => ?_
  have long : 12 ≤ data.length := of_decide_eq_true (demand_eq_ok.mp holds)
  refine (byteOrder_safe long).bind fun isMotorola _ => ?_
  refine (checkTagMark_safe long).bind fun _ _ => ?_
  refine (readDirectory_safe long (by omega)).bind fun first _ => ?_
  exact (searchSubIFD_safe long first.1 first.2).bind fun place _ => .ok _

/-- The steps of a search that has found the entry. -/
theorem findSubIFD_eq_ok {place : Nat} (found : findSubIFD data = .ok (isMotorola, place)) :
    12 ≤ data.length ∧ byteOrder data = .ok isMotorola ∧ checkTagMark isMotorola data = .ok () ∧
      ∃ numberOfTags firstoffset,
        readDirectory isMotorola data 4 = .ok (numberOfTags, firstoffset) ∧
        searchSubIFD isMotorola data numberOfTags firstoffset = .ok place := by
  obtain ⟨_, holds, found⟩ := bind_eq_ok.mp found
  obtain ⟨order, ordered, found⟩ := bind_eq_ok.mp found
  obtain ⟨_, marked, found⟩ := bind_eq_ok.mp found
  obtain ⟨first, directory, found⟩ := bind_eq_ok.mp found
  obtain ⟨place, searched, same⟩ := bind_eq_ok.mp found
  cases same
  exact ⟨of_decide_eq_true (demand_eq_ok.mp holds), ordered, marked, first.1, first.2, directory,
    searched⟩

theorem findSubIFD_bounded {place : Nat} (found : findSubIFD data = .ok (isMotorola, place)) :
    12 ≤ data.length ∧ place ≤ data.length - 12 := by
  obtain ⟨long, -, -, numberOfTags, firstoffset, -, searched⟩ := findSubIFD_eq_ok found
  exact ⟨long, (searchSubIFD_bounded searched).2⟩

theorem exifDirectory_safe (data : Bytes) : Safe data (exifDirectory data) := by
  refine (findSubIFD_safe data).bind fun found gives => ?_
  obtain ⟨long, bounded⟩ := findSubIFD_bounded gives
  refine (readDirectory_safe long (by omega)).bind fun directory _ => ?_
  exact (demand_safe _ _).bind fun _ _ => .ok _

/-! ## The loop over the entries -/

variable {newWidth newHeight newValue entry : Nat}

theorem entryOctets_length (isMotorola : Bool) (newValue : Nat) :
    (entryOctets isMotorola newValue).length = 10 := by
  cases isMotorola <;> rfl

theorem storeOctets_overwrites {values : Bytes} (within : index + values.length ≤ data.length) :
    ∃ result, storeOctets index values data = .ok result ∧
      Overwritten index values data result := by
  induction values generalizing index data with
  | nil => exact ⟨data, rfl, rfl, fun k short => absurd short (Nat.not_lt_zero k), fun _ _ => rfl⟩
  | cons value values ih =>
      rw [List.length_cons] at within
      have inside : index < data.length := by omega
      obtain ⟨result, stored, length, written, kept⟩ :=
        @ih (data.set index value) (index + 1) (by rw [List.length_set]; omega)
      refine ⟨result, ?_, ?_, ?_, ?_⟩
      · rw [storeOctets, if_pos inside]
        exact stored
      · rw [length, List.length_set]
      · intro k short
        cases k with
        | zero =>
            rw [Nat.add_zero, kept index (by omega), List.getElem?_set_self inside]
            rfl
        | succ k =>
            rw [List.length_cons] at short
            rw [List.getElem?_cons_succ, ← written k (by omega)]
            congr 1
            omega
      · intro other away
        rw [List.length_cons] at away
        rw [kept other (by omega), List.getElem?_set_ne (by omega)]

/-- Reads agree where the data does. -/
theorem read16_congr {other : Bytes}
    (same : ∀ i, offset ≤ i → i < offset + 2 → data[i]? = other[i]?) :
    read16 isMotorola data offset = read16 isMotorola other offset := by
  unfold read16 octet
  rw [same offset (by omega) (by omega), same (offset + 1) (by omega) (by omega)]

theorem SizeEntry.congr {other : Bytes}
    (same : ∀ i, entry ≤ i → i < entry + 2 → data[i]? = other[i]?) :
    SizeEntry isMotorola newWidth newHeight data entry newValue ↔
      SizeEntry isMotorola newWidth newHeight other entry newValue := by
  unfold SizeEntry
  rw [read16_congr same]

theorem entriesFrom_bounds {length numberOfTags : Nat}
    (member : entry ∈ entriesFrom length numberOfTags offset) :
    offset ≤ entry ∧ entry ≤ length - 12 := by
  induction numberOfTags generalizing offset with
  | zero => exact absurd member List.not_mem_nil
  | succ numberOfTags ih =>
      rw [entriesFrom] at member
      split_ifs at member with within
      · rcases List.mem_cons.mp member with rfl | later
        · exact ⟨Nat.le_refl _, within⟩
        · have bounds := ih later
          exact ⟨by omega, bounds.2⟩
      · exact absurd member List.not_mem_nil

/-- What one turn of the loop does to the data. -/
theorem adjustEntry_adjusts (isMotorola : Bool) (newWidth newHeight : Nat)
    (long : 12 ≤ data.length) (within : offset ≤ data.length - 12) :
    ∃ result, adjustEntry isMotorola newWidth newHeight offset data = .ok result ∧
      Adjusted isMotorola newWidth newHeight [offset] data result := by
  obtain ⟨tagnum, read⟩ := read16_gives isMotorola (show offset + 1 < data.length by omega)
  have only : ∀ entry ∈ [offset], ∀ newValue,
      SizeEntry isMotorola newWidth newHeight data entry newValue →
        entry = offset ∧ sizeOf? newWidth newHeight tagnum = some newValue := by
    rintro entry member newValue ⟨found, again, size⟩
    cases List.mem_singleton.mp member
    cases read.symm.trans again
    exact ⟨rfl, size⟩
  cases size : sizeOf? newWidth newHeight tagnum with
  | none =>
      refine ⟨data, bind_eq_ok.mpr ⟨tagnum, read, by rw [size]⟩, rfl, ?_, fun _ _ => rfl⟩
      intro entry member newValue sized
      exact absurd ((only entry member newValue sized).2.symm.trans size) (Option.some_ne_none _)
  | some newValue =>
      have fits : offset + 2 + (entryOctets isMotorola newValue).length ≤ data.length := by
        rw [entryOctets_length]
        omega
      obtain ⟨result, stored, length, written, kept⟩ := storeOctets_overwrites fits
      rw [entryOctets_length] at written kept
      refine ⟨result, bind_eq_ok.mpr ⟨tagnum, read, by rw [size]; exact stored⟩, length, ?_, ?_⟩
      · intro entry member other sized
        obtain ⟨rfl, same⟩ := only entry member other sized
        cases size.symm.trans same
        exact written
      · intro index away
        have outside := away offset (List.mem_singleton_self offset) newValue ⟨tagnum, read, size⟩
        exact kept index (by omega)

/-- Entries after the ones already adjusted. -/
theorem Adjusted.cons {entries : List Nat} {middle result : Bytes}
    (first : Adjusted isMotorola newWidth newHeight [offset] data middle)
    (rest : Adjusted isMotorola newWidth newHeight entries middle result)
    (after : ∀ entry ∈ entries, offset + 12 ≤ entry) :
    Adjusted isMotorola newWidth newHeight (offset :: entries) data result := by
  have later : ∀ entry ∈ entries, ∀ newValue,
      SizeEntry isMotorola newWidth newHeight data entry newValue ↔
        SizeEntry isMotorola newWidth newHeight middle entry newValue := by
    intro entry member newValue
    refine SizeEntry.congr fun i above _ => (first.kept i ?_).symm
    intro other single _ _
    have bound := after entry member
    cases List.mem_singleton.mp single
    omega
  refine ⟨rest.length.trans first.length, ?_, ?_⟩
  · intro entry member newValue sized k short
    rcases List.mem_cons.mp member with rfl | member
    · rw [← first.written entry (List.mem_singleton_self entry) newValue sized k short]
      refine rest.kept _ fun other among _ _ => ?_
      have bound := after other among
      omega
    · exact rest.written entry member newValue ((later entry member newValue).mp sized) k short
  · intro index away
    rw [rest.kept index fun entry member newValue sized =>
        away entry (List.mem_cons_of_mem _ member) newValue
          ((later entry member newValue).mpr sized)]
    refine first.kept index fun entry member newValue sized => ?_
    cases List.mem_singleton.mp member
    exact away offset List.mem_cons_self newValue sized

theorem Adjusted.nothing : Adjusted isMotorola newWidth newHeight [] data data :=
  ⟨rfl, fun _ member => (nomatch member), fun _ _ => rfl⟩

theorem adjustEntries_adjusts (isMotorola : Bool) (newWidth newHeight : Nat)
    (long : 12 ≤ data.length) (numberOfTags offset : Nat) :
    ∃ result,
      afterwards (adjustEntries isMotorola newWidth newHeight numberOfTags offset data) =
        some result ∧
      Adjusted isMotorola newWidth newHeight (entriesFrom data.length numberOfTags offset) data
        result := by
  induction numberOfTags generalizing offset data with
  | zero => exact ⟨data, rfl, .nothing⟩
  | succ numberOfTags ih =>
      rw [entriesFrom]
      by_cases within : offset ≤ data.length - 12
      · obtain ⟨middle, turned, first⟩ :=
          adjustEntry_adjusts isMotorola newWidth newHeight long within
        obtain ⟨result, looped, rest⟩ := @ih middle (by rw [first.length]; exact long) (offset + 12)
        rw [first.length] at rest
        rw [if_pos within]
        refine ⟨result, ?_, first.cons rest fun entry member => (entriesFrom_bounds member).1⟩
        have passed : demand data (offset ≤ data.length - 12) = .ok () :=
          demand_eq_ok.mpr (decide_eq_true within)
        rw [adjustEntries, passed]
        change afterwards (adjustEntry isMotorola newWidth newHeight offset data >>= _) = _
        rw [turned]
        exact looped
      · rw [if_neg within]
        have stops : demand data (offset ≤ data.length - 12) = .error (.returned data) := by
          rw [demand, if_neg (by simpa using within)]
        refine ⟨data, ?_, .nothing⟩
        rw [adjustEntries, stops]
        rfl

/--
Whatever bytes it is given, the call accesses nothing outside them, and only the entries
of the size change.
-/
theorem adjustExifParameters_adjusts (data : Bytes) (newWidth newHeight : Nat) :
    ∃ result, adjustExifParameters data newWidth newHeight = some result ∧
      Adjusted (exifEntries data).1 newWidth newHeight (exifEntries data).2 data result := by
  unfold adjustExifParameters exifEntries
  rcases exifDirectory_safe data with stops | ⟨⟨isMotorola, numberOfTags, offset⟩, found⟩
  · rw [stops]
    exact ⟨data, rfl, .nothing⟩
  · have long : 12 ≤ data.length := by
      obtain ⟨_, search, -⟩ := bind_eq_ok.mp found
      exact (findSubIFD_bounded search).1
    rw [found]
    exact adjustEntries_adjusts isMotorola newWidth newHeight long numberOfTags offset

end RPhoto.Lossless.Exif
