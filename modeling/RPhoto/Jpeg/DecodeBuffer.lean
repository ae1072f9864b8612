import RPhoto.Jpeg.Base64

/-!
# The buffer of the decoder

`DecodeBase64` allocates one byte more than its string has characters, and the
last byte is for the terminating zero.  An incomplete last group is decoded as
if it were completed, so the shortest strings write more bytes than they have
characters.
-/

namespace RPhoto.Jpeg

/-- `wxStringBase64::DecodeBase64` on an ASCII string: its buffer, what it writes and returns. -/
structure DecodeRun where
  size : Nat
  written : Bytes
  len : Nat

def decodeRun (str : Text) : DecodeRun :=
  let decoded := decodeBase64 str
  ⟨str.length + 1, decoded ++ [0], decoded.length⟩

/-- The writes stay in the buffer and the assertion about the length holds. -/
def DecodeRun.InBuffer (run : DecodeRun) (str : Text) : Prop :=
  run.written.length ≤ run.size ∧ run.len ≤ str.length

instance (run : DecodeRun) (str : Text) : Decidable (run.InBuffer str) :=
  inferInstanceAs (Decidable (_ ∧ _))

/-- The characters that `decode_base64` copies: the base64 ones in front of a NUL. -/
def counted (src : Text) : Text := (src.takeWhile (· ≠ '\x00')).filter isBase64

theorem inBuffer_iff (str : Text) :
    (decodeRun str).InBuffer str ↔ (decodeGroups (counted str)).length ≤ str.length := by
  simp [DecodeRun.InBuffer, decodeRun, decodeBase64, counted]

theorem length_counted_le (str : Text) : (counted str).length ≤ str.length :=
  (List.length_filter_le _ _).trans (List.takeWhile_prefix _).length_le

/-- A string as long as its counted characters consists of them. -/
theorem counted_eq_self {str : Text} (whole : (counted str).length = str.length) :
    counted str = str := by
  have sub : (counted str).Sublist str :=
    List.filter_sublist.trans (List.takeWhile_prefix _).sublist
  exact sub.eq_of_length whole

/-! ## How many bytes are written -/

/-- Padding signs in the third and the fourth place of a group take one byte each. -/
theorem length_decodeGroup (c1 c2 c3 c4 : Char) :
    (decodeGroup c1 c2 c3 c4).length =
      1 + (if c3 ≠ '=' then 1 else 0) + (if c4 ≠ '=' then 1 else 0) := by
  by_cases third : c3 = '=' <;> by_cases fourth : c4 = '=' <;> simp [decodeGroup, third, fourth]

theorem length_decodeGroup_le (c1 c2 c3 c4 : Char) : (decodeGroup c1 c2 c3 c4).length ≤ 3 := by
  rw [length_decodeGroup]
  split_ifs <;> omega

/-- Every started group writes at most three bytes. -/
theorem length_decodeGroups_le (src : Text) :
    (decodeGroups src).length ≤ 3 * ((src.length + 3) / 4) := by
  induction src using decodeGroups.induct with
  | case1 => simp [decodeGroups]
  | case2 c1 => simpa [decodeGroups] using length_decodeGroup_le c1 'A' 'A' 'A'
  | case3 c1 c2 => simpa [decodeGroups] using length_decodeGroup_le c1 c2 'A' 'A'
  | case4 c1 c2 c3 => simpa [decodeGroups] using length_decodeGroup_le c1 c2 c3 'A'
  | case5 c1 c2 c3 c4 rest ih =>
      have first := length_decodeGroup_le c1 c2 c3 c4
      simp only [decodeGroups, List.length_append, List.length_cons]
      omega

/-- From six characters on, and for three and four, the groups fit in their own characters. -/
theorem length_decodeGroups_fits {src : Text} (one : src.length ≠ 1) (two : src.length ≠ 2)
    (five : src.length ≠ 5) : (decodeGroups src).length ≤ src.length := by
  have bound := length_decodeGroups_le src
  omega

/-- One or two characters are completed to a group without padding. -/
theorem length_decodeGroups_short {src : Text} (short : src.length = 1 ∨ src.length = 2) :
    (decodeGroups src).length = 3 := by
  rcases short with one | two
  · obtain ⟨c1, rfl⟩ := List.length_eq_one_iff.mp one
    simp [decodeGroups, length_decodeGroup]
  · obtain ⟨c1, c2, rfl⟩ := List.length_eq_two.mp two
    simp [decodeGroups, length_decodeGroup]

theorem exists_five {src : Text} (five : src.length = 5) :
    ∃ c1 c2 c3 c4 c5, src = [c1, c2, c3, c4, c5] := by
  obtain ⟨c1, rest, rfl⟩ := List.exists_cons_of_length_eq_add_one five
  obtain ⟨c2, others, rfl⟩ := List.exists_cons_of_length_eq_add_one (Nat.succ.inj five)
  obtain ⟨c3, c4, c5, rfl⟩ := List.length_eq_three.mp (Nat.succ.inj (Nat.succ.inj five))
  exact ⟨c1, c2, c3, c4, c5, rfl⟩

/-- The padding signs of the first group of five characters make room for the second one. -/
theorem length_decodeGroups_five {src : Text} (five : src.length = 5) :
    (decodeGroups src).length ≤ 5 ↔ src[2]? = some '=' ∨ src[3]? = some '=' := by
  obtain ⟨c1, c2, c3, c4, c5, rfl⟩ := exists_five five
  by_cases third : c3 = '=' <;> by_cases fourth : c4 = '=' <;>
    simp [decodeGroups, length_decodeGroup, third, fourth]

/-! ## The strings that fit -/

/--
Room for the completed last group: one or two base64 characters stand in a string
of at least three characters, and five base64 characters with nothing else have a
padding sign in the third or the fourth place.
-/
def HasRoom (str : Text) : Prop :=
  ((counted str).length = 1 ∨ (counted str).length = 2 → 3 ≤ str.length) ∧
    ((counted str).length = 5 → str.length = 5 → str[2]? = some '=' ∨ str[3]? = some '=')

/-- The decoder stays in its buffer, and its assertion holds, exactly for the strings with room. -/
theorem decode_inBuffer_iff (str : Text) : (decodeRun str).InBuffer str ↔ HasRoom str := by
  rw [inBuffer_iff]
  by_cases short : (counted str).length = 1 ∨ (counted str).length = 2
  · have notFive : (counted str).length ≠ 5 := by omega
    simp [HasRoom, short, notFive, length_decodeGroups_short short]
  by_cases five : (counted str).length = 5
  · by_cases whole : str.length = 5
    · have same : counted str = str := counted_eq_self (five.trans whole.symm)
      have known := length_decodeGroups_five (same ▸ five : str.length = 5)
      simp only [HasRoom, same, whole] at known ⊢
      simpa using known
    · have longer : 6 ≤ str.length := by
        have bound := length_counted_le str
        omega
      have written := length_decodeGroups_le (counted str)
      refine iff_of_true (by omega) ⟨fun few => absurd few short, fun _ same => absurd same whole⟩
  · have fits : (decodeGroups (counted str)).length ≤ (counted str).length :=
      length_decodeGroups_fits (by omega) (by omega) five
    refine iff_of_true (fits.trans (length_counted_le str))
      ⟨fun few => absurd few short, fun same => absurd same five⟩

/-- A single letter makes the decoder write three bytes and the zero into a buffer of two. -/
theorem letter_overflows :
    (decodeRun ['A']).written = [0, 0, 0, 0] ∧ (decodeRun ['A']).size = 2 ∧
      ¬ (decodeRun ['A']).InBuffer ['A'] := by
  decide

end RPhoto.Jpeg
