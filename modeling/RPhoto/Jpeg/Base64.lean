import Mathlib.Data.List.TakeWhile
import Mathlib.Data.UInt
import Mathlib.Tactic.FinCases
import RPhoto.Jpeg.Options

/-!
# Base64 strings

The codec behind `wxStringBase64`: three bytes become four characters, and the
decoder first drops every character that is not a base64 one.
-/

namespace RPhoto.Jpeg

abbrev Bytes := List UInt8

/-- Base64 encode one sextet. -/
def encode (u : UInt8) : Char :=
  if u < 26 then Char.ofNat ('A'.toNat + u.toNat)
  else if u < 52 then Char.ofNat ('a'.toNat + (u - 26).toNat)
  else if u < 62 then Char.ofNat ('0'.toNat + (u - 52).toNat)
  else if u = 62 then '+'
  else '/'

/-- Decode a base64 character; every other character counts as a slash. -/
def decode (c : Char) : UInt8 :=
  if 'A' ≤ c ∧ c ≤ 'Z' then UInt8.ofNat (c.toNat - 'A'.toNat)
  else if 'a' ≤ c ∧ c ≤ 'z' then UInt8.ofNat (c.toNat - 'a'.toNat + 26)
  else if '0' ≤ c ∧ c ≤ '9' then UInt8.ofNat (c.toNat - '0'.toNat + 52)
  else if c = '+' then 62
  else 63

/-- Whether a character is a base64 one, padding included. -/
def isBase64 (c : Char) : Bool :=
  ('A' ≤ c ∧ c ≤ 'Z') ∨ ('a' ≤ c ∧ c ≤ 'z') ∨ ('0' ≤ c ∧ c ≤ '9') ∨ c = '+' ∨ c = '/' ∨ c = '='

/-! The four sextets of a group of three bytes. -/

def sextet4 (b1 : UInt8) : UInt8 := b1 >>> 2

def sextet5 (b1 b2 : UInt8) : UInt8 := ((b1 &&& 0x3) <<< 4) ||| (b2 >>> 4)

def sextet6 (b2 b3 : UInt8) : UInt8 := ((b2 &&& 0xf) <<< 2) ||| (b3 >>> 6)

def sextet7 (b3 : UInt8) : UInt8 := b3 &&& 0x3f

/-- The body of the encoding loop; missing bytes are zero and padded. -/
def encodeGroups : Bytes → Text
  | [] => []
  | [b1] => [encode (sextet4 b1), encode (sextet5 b1 0), '=', '=']
  | [b1, b2] => [encode (sextet4 b1), encode (sextet5 b1 b2), encode (sextet6 b2 0), '=']
  | b1 :: b2 :: b3 :: rest =>
      encode (sextet4 b1) :: encode (sextet5 b1 b2) :: encode (sextet6 b2 b3) ::
        encode (sextet7 b3) :: encodeGroups rest

/-- `strlen`. -/
def strlen (src : Bytes) : Nat := (src.takeWhile (· ≠ 0)).length

/-- `encode_base64`: a size of zero stands for the length of a C string. -/
def encodeBase64 (size : Nat) (src : Bytes) : Text :=
  encodeGroups (src.take (if size = 0 then strlen src else size))

/-- The bytes of one group of four characters. -/
def decodeGroup (c1 c2 c3 c4 : Char) : Bytes :=
  let b1 := decode c1
  let b2 := decode c2
  let b3 := decode c3
  let b4 := decode c4
  ((b1 <<< 2) ||| (b2 >>> 4)) ::
    ((if c3 ≠ '=' then [((b2 &&& 0xf) <<< 4) ||| (b3 >>> 2)] else []) ++
      (if c4 ≠ '=' then [((b3 &&& 0x3) <<< 6) ||| b4] else []))

/-- The body of the decoding loop; missing characters count as `A`. -/
def decodeGroups : Text → Bytes
  | [] => []
  | [c1] => decodeGroup c1 'A' 'A' 'A'
  | [c1, c2] => decodeGroup c1 c2 'A' 'A'
  | [c1, c2, c3] => decodeGroup c1 c2 c3 'A'
  | c1 :: c2 :: c3 :: c4 :: rest => decodeGroup c1 c2 c3 c4 ++ decodeGroups rest

/-- `decode_base64`: the part before a NUL, without the characters that are not base64. -/
def decodeBase64 (src : Text) : Bytes :=
  decodeGroups ((src.takeWhile (· ≠ '\x00')).filter isBase64)

/-! ## The sextets of a group determine its bytes -/

theorem sextet4_lt (b1 : UInt8) : sextet4 b1 < 64 := by
  rw [UInt8.lt_iff_toNat_lt]
  have byte := b1.toNat_lt
  simp [sextet4, Nat.shiftRight_eq_div_pow]
  omega

theorem sextet5_lt (b1 b2 : UInt8) : sextet5 b1 b2 < 64 := by
  rw [UInt8.lt_iff_toNat_lt]
  have byte := b2.toNat_lt
  have low : b1.toNat &&& 3 ≤ 3 := Nat.and_le_right
  simp [sextet5, Nat.shiftRight_eq_div_pow, Nat.shiftLeft_eq]
  exact Nat.or_lt_two_pow (n := 6) (by omega) (by omega)

theorem sextet6_lt (b2 b3 : UInt8) : sextet6 b2 b3 < 64 := by
  rw [UInt8.lt_iff_toNat_lt]
  have byte := b3.toNat_lt
  have low : b2.toNat &&& 15 ≤ 15 := Nat.and_le_right
  simp [sextet6, Nat.shiftRight_eq_div_pow, Nat.shiftLeft_eq]
  exact Nat.or_lt_two_pow (n := 6) (by omega) (by omega)

theorem sextet7_lt (b3 : UInt8) : sextet7 b3 < 64 := by
  rw [UInt8.lt_iff_toNat_lt]
  have low : b3.toNat &&& 63 ≤ 63 := Nat.and_le_right
  simpa [sextet7] using Nat.lt_succ_of_le low

/-- Two bytes with the same eight bits are equal. -/
theorem byte_eq_of_bits {a b : UInt8} (bits : ∀ i : Fin 8, a.toBitVec[i] = b.toBitVec[i]) :
    a = b :=
  UInt8.toBitVec_inj.1 (BitVec.eq_of_getElem_eq fun i bound => bits ⟨i, bound⟩)

theorem reassemble_first (b1 b2 : UInt8) :
    (sextet4 b1 <<< 2) ||| (sextet5 b1 b2 >>> 4) = b1 := by
  refine byte_eq_of_bits fun i => ?_
  fin_cases i <;> simp [sextet4, sextet5]

theorem reassemble_second (b1 b2 b3 : UInt8) :
    ((sextet5 b1 b2 &&& 0xf) <<< 4) ||| (sextet6 b2 b3 >>> 2) = b2 := by
  refine byte_eq_of_bits fun i => ?_
  fin_cases i <;> simp [sextet5, sextet6]

theorem reassemble_third (b2 b3 : UInt8) :
    ((sextet6 b2 b3 &&& 0x3) <<< 6) ||| sextet7 b3 = b3 := by
  refine byte_eq_of_bits fun i => ?_
  fin_cases i <;> simp [sextet6, sextet7]

/-! ## Round trip -/

theorem decode_encode_fin : ∀ u : Fin 64,
    decode (encode (UInt8.ofNat u)) = UInt8.ofNat u := by
  decide

theorem encode_fin : ∀ u : Fin 64,
    isBase64 (encode (UInt8.ofNat u)) = true ∧ encode (UInt8.ofNat u) ≠ '=' ∧
      encode (UInt8.ofNat u) ≠ '#' ∧ encode (UInt8.ofNat u) ≠ '\x00' := by
  decide

theorem decode_encode {u : UInt8} (sextet : u < 64) : decode (encode u) = u := by
  simpa using decode_encode_fin ⟨u.toNat, sextet⟩

theorem encode_ne_padding {u : UInt8} (sextet : u < 64) : encode u ≠ '=' := by
  simpa using (encode_fin ⟨u.toNat, sextet⟩).2.1

/-- The characters the encoder writes: base64 ones, none of them a `#` or a NUL. -/
def Encoded (c : Char) : Prop := isBase64 c = true ∧ c ≠ '#' ∧ c ≠ '\x00'

theorem encoded_encode {u : UInt8} (sextet : u < 64) : Encoded (encode u) := by
  have known := encode_fin ⟨u.toNat, sextet⟩
  simp only [UInt8.ofNat_toNat] at known
  exact ⟨known.1, known.2.2.1, known.2.2.2⟩

theorem encoded_padding : Encoded '=' := by
  unfold Encoded
  decide

theorem encoded_of_mem_encodeGroups {src : Bytes} {c : Char} (present : c ∈ encodeGroups src) :
    Encoded c := by
  induction src using encodeGroups.induct with
  | case1 => simp [encodeGroups] at present
  | case2 b1 =>
      simp only [encodeGroups, List.mem_cons, List.not_mem_nil, or_false] at present
      rcases present with rfl | rfl | rfl | rfl
      · exact encoded_encode (sextet4_lt b1)
      · exact encoded_encode (sextet5_lt b1 0)
      · exact encoded_padding
      · exact encoded_padding
  | case3 b1 b2 =>
      simp only [encodeGroups, List.mem_cons, List.not_mem_nil, or_false] at present
      rcases present with rfl | rfl | rfl | rfl
      · exact encoded_encode (sextet4_lt b1)
      · exact encoded_encode (sextet5_lt b1 b2)
      · exact encoded_encode (sextet6_lt b2 0)
      · exact encoded_padding
  | case4 b1 b2 b3 rest ih =>
      simp only [encodeGroups, List.mem_cons] at present
      rcases present with rfl | rfl | rfl | rfl | inRest
      · exact encoded_encode (sextet4_lt b1)
      · exact encoded_encode (sextet5_lt b1 b2)
      · exact encoded_encode (sextet6_lt b2 b3)
      · exact encoded_encode (sextet7_lt b3)
      · exact ih inRest

theorem decodeGroups_encodeGroups (src : Bytes) : decodeGroups (encodeGroups src) = src := by
  induction src using encodeGroups.induct with
  | case1 => rfl
  | case2 b1 =>
      simp [encodeGroups, decodeGroups, decodeGroup, decode_encode (sextet4_lt b1),
        decode_encode (sextet5_lt b1 0), reassemble_first]
  | case3 b1 b2 =>
      simp [encodeGroups, decodeGroups, decodeGroup, decode_encode (sextet4_lt b1),
        decode_encode (sextet5_lt b1 b2), decode_encode (sextet6_lt b2 0),
        encode_ne_padding (sextet6_lt b2 0), reassemble_first, reassemble_second]
  | case4 b1 b2 b3 rest ih =>
      simp [encodeGroups, decodeGroups, decodeGroup, decode_encode (sextet4_lt b1),
        decode_encode (sextet5_lt b1 b2), decode_encode (sextet6_lt b2 b3),
        decode_encode (sextet7_lt b3), encode_ne_padding (sextet6_lt b2 b3),
        encode_ne_padding (sextet7_lt b3), reassemble_first, reassemble_second,
        reassemble_third, ih]

/-- The decoder ignores nothing of an encoded text. -/
theorem filter_encodeGroups (src : Bytes) :
    ((encodeGroups src).takeWhile (· ≠ '\x00')).filter isBase64 = encodeGroups src := by
  have noNul : (encodeGroups src).takeWhile (· ≠ '\x00') = encodeGroups src :=
    List.takeWhile_eq_self_iff.mpr fun c present => by
      simpa using (encoded_of_mem_encodeGroups present).2.2
  rw [noNul]
  exact List.filter_eq_self.mpr fun c present => (encoded_of_mem_encodeGroups present).1

/-- Decoding gives back what was encoded, whatever the bytes and their number. -/
theorem decodeBase64_encodeGroups (src : Bytes) : decodeBase64 (encodeGroups src) = src := by
  rw [decodeBase64, filter_encodeGroups, decodeGroups_encodeGroups]

/-- A buffer encoded with its own size, as the marker loader does. -/
theorem encodeBase64_length {src : Bytes} (nonempty : src ≠ []) :
    encodeBase64 src.length src = encodeGroups src := by
  simp [encodeBase64, List.length_eq_zero_iff, nonempty]

theorem encodeGroups_ne_nil {src : Bytes} (nonempty : src ≠ []) : encodeGroups src ≠ [] := by
  cases src using encodeGroups.fun_cases with
  | case1 => exact absurd rfl nonempty
  | case2 => simp [encodeGroups]
  | case3 => simp [encodeGroups]
  | case4 => simp [encodeGroups]

end RPhoto.Jpeg
