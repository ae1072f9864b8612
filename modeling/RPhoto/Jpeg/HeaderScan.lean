import RPhoto.Jpeg.CommentWriter

/-!
# The header scan

After a marker has been found, its parameters are passed; then the next one is
searched.  A scan that comes to the end of the file never returns: the search
for the next marker reads `EOF` for ever.  So `wrjpgcom` returns exactly when
the scan reaches a marker that ends it, and it then returns 0 whatever the file
starts with.
-/

namespace RPhoto.Jpeg

variable {fuel : Nat} {keepCOM : Bool} {marker byte : UInt8} {garbage rest data out : Bytes}

/-! ## Single bytes -/

@[simp] theorem nextByte_nil (out : Bytes) : nextByte ⟨[], out⟩ = (eof, ⟨[], out⟩) := rfl

@[simp] theorem nextByte_cons (byte : UInt8) (rest out : Bytes) :
    nextByte ⟨byte :: rest, out⟩ = ((byte.toNat : Int), ⟨rest, out⟩) := rfl

@[simp] theorem nextByte_infile (streams : Streams) :
    (nextByte streams).2.infile = streams.infile.tail := by
  obtain ⟨infile, outfile⟩ := streams
  cases infile <;> rfl

theorem ofInt_toNat (byte : UInt8) : UInt8.ofInt (byte.toNat : Int) = byte := by
  have small := byte.toNat_lt
  rw [UInt8.ofInt, Int.emod_eq_of_lt (by omega) (by omega)]
  exact UInt8.ofNat_toNat

@[simp] theorem putByte_toNat (byte : UInt8) (data out : Bytes) :
    putByte (byte.toNat : Int) ⟨data, out⟩ = ⟨data, out ++ [byte]⟩ := by
  rw [putByte, ofInt_toNat]

@[simp] theorem putByte_infile (c : Int) (streams : Streams) :
    (putByte c streams).infile = streams.infile := rfl

theorem toNat_eq_ff : (byte.toNat : Int) = 0xFF ↔ byte = 0xFF := by
  rw [← UInt8.toNat_inj]
  exact Int.ofNat_inj

/-! ## The next marker -/

/-- The input starts with bytes that are not `FF`, then padding, then a marker. -/
def NextMarker (data : Bytes) (marker : UInt8) (rest : Bytes) : Prop :=
  ∃ garbage padding, 0xFF ∉ garbage ∧ marker ≠ 0xFF ∧
    data = garbage ++ 0xFF :: (List.replicate padding 0xFF ++ marker :: rest)

theorem skipGarbage_found (clean : 0xFF ∉ garbage) (enough : garbage.length < fuel) :
    let first := read1Byte ⟨garbage ++ 0xFF :: rest, out⟩
    skipGarbage fuel first.1 first.2 = some ⟨rest, out⟩ := by
  induction garbage generalizing fuel with
  | nil =>
      obtain ⟨fuel, rfl⟩ := Nat.exists_eq_add_one.mpr enough
      rfl
  | cons byte garbage ih =>
      rw [List.mem_cons, not_or] at clean
      obtain ⟨fuel, rfl⟩ := Nat.exists_eq_add_one.mpr (Nat.zero_lt_of_lt enough)
      have other : ¬(byte.toNat : Int) = 0xFF := fun same => clean.1 (toNat_eq_ff.mp same).symm
      exact (if_neg other).trans (ih clean.2 (Nat.lt_of_succ_lt_succ enough))

theorem skipPadding_found {padding : Nat} (code : marker ≠ 0xFF) (enough : padding < fuel) :
    skipPadding fuel ⟨List.replicate padding 0xFF ++ marker :: rest, out⟩ =
      some ((marker.toNat : Int), ⟨rest, out⟩) := by
  induction padding generalizing fuel with
  | zero =>
      obtain ⟨fuel, rfl⟩ := Nat.exists_eq_add_one.mpr enough
      exact if_neg (mt toNat_eq_ff.mp code)
  | succ padding ih =>
      obtain ⟨fuel, rfl⟩ := Nat.exists_eq_add_one.mpr (Nat.zero_lt_of_lt enough)
      have more := ih (Nat.lt_of_succ_lt_succ enough)
      rw [List.replicate_succ, List.cons_append, skipPadding, read1Byte, nextByte_cons]
      exact (if_pos rfl).trans more

theorem nextMarker_found (next : NextMarker data marker rest) (enough : data.length ≤ fuel) :
    nextMarker fuel ⟨data, out⟩ = some ((marker.toNat : Int), ⟨rest, out⟩) := by
  obtain ⟨garbage, padding, clean, code, rfl⟩ := next
  simp only [List.length_append, List.length_cons, List.length_replicate] at enough
  have skipped := @skipGarbage_found fuel garbage (List.replicate padding 0xFF ++ marker :: rest)
    out clean (by omega)
  exact (congrArg (Option.bind · (skipPadding fuel)) skipped).trans
    (skipPadding_found code (by omega))

/-- The search for `FF` ends only at such a byte. -/
theorem skipGarbage_cases {streams : Streams} :
    let first := read1Byte ⟨data, out⟩
    skipGarbage fuel first.1 first.2 = some streams →
    ∃ garbage rest, 0xFF ∉ garbage ∧ data = garbage ++ 0xFF :: rest ∧ streams = ⟨rest, out⟩ := by
  induction fuel generalizing data with
  | zero => exact fun found => nomatch found
  | succ fuel ih =>
      intro first found
      cases data with
      | nil =>
          -- At the end of the file the same state comes back.
          obtain ⟨garbage, rest, _, ends, _⟩ := @ih [] found
          exact absurd ends.symm (List.append_ne_nil_of_right_ne_nil _ (List.cons_ne_nil _ _))
      | cons byte data =>
          by_cases code : byte = 0xFF
          · subst code
            exact ⟨[], data, by simp, rfl, (Option.some.inj found).symm⟩
          · have other : ¬(byte.toNat : Int) = 0xFF := mt toNat_eq_ff.mp code
            obtain ⟨garbage, rest, clean, rfl, last⟩ := ih ((if_neg other).symm.trans found)
            exact ⟨byte :: garbage, rest, by simp [clean, Ne.symm code], rfl, last⟩

/-- The padding ends at a marker or at the end of the file. -/
theorem skipPadding_cases {c : Int} {streams : Streams}
    (found : skipPadding fuel ⟨data, out⟩ = some (c, streams)) :
    (∃ padding marker rest, marker ≠ 0xFF ∧
      data = List.replicate padding 0xFF ++ marker :: rest ∧ c = marker.toNat ∧
        streams = ⟨rest, out⟩) ∨
      c = eof ∧ streams = ⟨[], out⟩ := by
  induction fuel generalizing data with
  | zero => cases found
  | succ fuel ih =>
      cases data with
      | nil =>
          injection found with pair
          injection pair with ends last
          exact .inr ⟨ends.symm, last.symm⟩
      | cons byte data =>
          by_cases code : byte = 0xFF
          · subst code
            refine (ih found).imp_left ?_
            rintro ⟨padding, marker, rest, other, rfl, here, last⟩
            exact ⟨padding + 1, marker, rest, other, rfl, here, last⟩
          · have other : ¬(byte.toNat : Int) = 0xFF := mt toNat_eq_ff.mp code
            have pair := Option.some.inj ((if_neg other).symm.trans found)
            injection pair with here last
            exact .inl ⟨0, byte, data, code, rfl, here.symm, last.symm⟩

theorem nextMarker_cases {c : Int} {streams : Streams}
    (found : nextMarker fuel ⟨data, out⟩ = some (c, streams)) :
    (∃ marker rest, NextMarker data marker rest ∧ c = marker.toNat ∧ streams = ⟨rest, out⟩) ∨
      c = eof ∧ streams = ⟨[], out⟩ := by
  obtain ⟨middle, skipped, padded⟩ := Option.bind_eq_some_iff.mp found
  obtain ⟨garbage, rest, clean, rfl, rfl⟩ := skipGarbage_cases skipped
  refine (skipPadding_cases padded).imp_left ?_
  rintro ⟨padding, marker, rest, code, rfl, here, last⟩
  exact ⟨marker, rest, ⟨garbage, padding, clean, code, rfl⟩, here, last⟩

/-! ## Parameters -/

/-- The number of bytes that follow a length field. -/
def parameterLength (high low : UInt8) : Nat :=
  (((UInt32.ofInt high.toNat <<< 8) + UInt32.ofInt low.toNat) - 2).toNat

theorem read2Bytes_cons (high low : UInt8) (rest out : Bytes) :
    read2Bytes ⟨high :: low :: rest, out⟩ =
      ((UInt32.ofInt high.toNat <<< 8) + UInt32.ofInt low.toNat, ⟨rest, out⟩) := rfl

@[simp] theorem write2Bytes_infile (val : UInt32) (streams : Streams) :
    (write2Bytes val streams).infile = streams.infile := rfl

@[simp] theorem read2Bytes_infile (streams : Streams) :
    (read2Bytes streams).2.infile = streams.infile.drop 2 := by
  change (nextByte (nextByte streams).2).2.infile = _
  rw [nextByte_infile, nextByte_infile, ← List.drop_one, ← List.drop_one, List.drop_drop]

theorem copyBytes_infile (length : Nat) (streams : Streams) :
    (copyBytes length streams).infile = streams.infile.drop length := by
  induction length generalizing streams with
  | zero => rfl
  | succ length ih =>
      refine (ih _).trans ?_
      change (nextByte streams).2.infile.drop length = _
      rw [nextByte_infile, ← List.drop_one, List.drop_drop, Nat.add_comm]

theorem skipBytes_infile (length : Nat) (streams : Streams) :
    (skipBytes length streams).infile = streams.infile.drop length := by
  induction length generalizing streams with
  | zero => rfl
  | succ length ih =>
      refine (ih _).trans ?_
      change (nextByte streams).2.infile.drop length = _
      rw [nextByte_infile, ← List.drop_one, List.drop_drop, Nat.add_comm]

/-- Copied or skipped, the parameters are passed. -/
theorem copyVariable_infile (streams : Streams) :
    (copyVariable streams).infile =
      (streams.infile.drop 2).drop ((read2Bytes streams).1 - 2).toNat := by
  unfold copyVariable
  dsimp only
  rw [copyBytes_infile, write2Bytes_infile, read2Bytes_infile]

theorem skipVariable_infile (streams : Streams) :
    (skipVariable streams).infile =
      (streams.infile.drop 2).drop ((read2Bytes streams).1 - 2).toNat := by
  unfold skipVariable
  dsimp only
  rw [skipBytes_infile, read2Bytes_infile]

theorem passMarker_cons {marker : Int} (other : marker ≠ markerSOS) (high low : UInt8)
    (rest out : Bytes) :
    (passMarker keepCOM marker ⟨high :: low :: rest, out⟩).infile =
      rest.drop (parameterLength high low) := by
  rw [passMarker, if_neg other]
  split_ifs
  · exact copyVariable_infile _
  · exact skipVariable_infile _
  · exact copyVariable_infile _

/-- Without a length field the scan is at the end of the file. -/
theorem passMarker_short {marker : Int} (other : marker ≠ markerSOS) (short : data.length < 2)
    (out : Bytes) : (passMarker keepCOM marker ⟨data, out⟩).infile = [] := by
  have nothing : data.drop 2 = [] := List.drop_eq_nil_of_le (Nat.le_of_lt short)
  rw [passMarker, if_neg other]
  split_ifs
  · rw [copyVariable_infile]
    exact (congrArg (List.drop _) nothing).trans List.drop_nil
  · rw [skipVariable_infile]
    exact (congrArg (List.drop _) nothing).trans List.drop_nil
  · rw [copyVariable_infile]
    exact (congrArg (List.drop _) nothing).trans List.drop_nil

/-! ## The scan -/

/-- The scan of an input reaches a marker that ends it before the end of the file. -/
inductive Reaches : Bytes → Prop
  | ends {data rest : Bytes} {marker : UInt8} (next : NextMarker data marker rest)
      (last : EndsScan marker.toNat) : Reaches data
  | standalone {data rest : Bytes} {marker : UInt8} (next : NextMarker data marker rest)
      (sos : (marker.toNat : Int) = markerSOS) (later : Reaches rest) : Reaches data
  | parameters {data skipped rest : Bytes} {marker high low : UInt8}
      (next : NextMarker data marker (high :: low :: (skipped ++ rest)))
      (other : ¬EndsScan marker.toNat) (sos : (marker.toNat : Int) ≠ markerSOS)
      (length : skipped.length = parameterLength high low) (later : Reaches rest) : Reaches data

theorem NextMarker.length_lt (next : NextMarker data marker rest) :
    rest.length < data.length := by
  obtain ⟨garbage, padding, _, _, rfl⟩ := next
  simp only [List.length_append, List.length_cons, List.length_replicate]
  omega

theorem not_endsScan_sos {marker : Int} (sos : marker = markerSOS) : ¬EndsScan marker := by
  subst sos
  decide

/-- The scan that reaches a last marker returns. -/
theorem scanMarkers_of_reaches (reaches : Reaches data) {fuel : Nat} {out : Bytes}
    (enough : data.length < fuel) :
    ∃ result, scanMarkers keepCOM fuel ⟨data, out⟩ = some result := by
  induction reaches generalizing fuel out with
  | ends next last =>
      obtain ⟨fuel, rfl⟩ := Nat.exists_eq_add_one.mpr (Nat.zero_lt_of_lt enough)
      rw [scanMarkers, nextMarker_found next (Nat.le_of_lt_succ enough)]
      exact ⟨_, if_pos last⟩
  | @standalone data rest marker next sos later ih =>
      obtain ⟨fuel, rfl⟩ := Nat.exists_eq_add_one.mpr (Nat.zero_lt_of_lt enough)
      have shorter := next.length_lt
      obtain ⟨result, scanned⟩ := @ih fuel out (by omega)
      refine ⟨result, ?_⟩
      rw [scanMarkers, nextMarker_found next (Nat.le_of_lt_succ enough)]
      refine (if_neg (not_endsScan_sos sos)).trans ?_
      rw [passMarker, if_pos sos]
      exact scanned
  | @parameters data skipped rest marker high low next other sos length later ih =>
      obtain ⟨fuel, rfl⟩ := Nat.exists_eq_add_one.mpr (Nat.zero_lt_of_lt enough)
      have shorter := next.length_lt
      simp only [List.length_cons, List.length_append] at shorter
      let passed := passMarker keepCOM marker.toNat ⟨high :: low :: (skipped ++ rest), out⟩
      have left : passed.infile = rest := by
        rw [passMarker_cons sos, ← length, List.drop_left]
      obtain ⟨result, scanned⟩ := @ih fuel passed.outfile (by omega)
      refine ⟨result, ?_⟩
      rw [scanMarkers, nextMarker_found next (Nat.le_of_lt_succ enough)]
      refine (if_neg other).trans ?_
      rw [← left] at scanned
      exact scanned

theorem NextMarker.ne_nil (next : NextMarker data marker rest) : data ≠ [] :=
  List.ne_nil_of_length_pos (Nat.zero_lt_of_lt next.length_lt)

theorem not_reaches_nil : ¬Reaches [] := fun reaches =>
  match reaches with
  | .ends next _ | .standalone next _ _ | .parameters next _ _ _ _ => next.ne_nil rfl

/-- A scan that returns has reached a last marker. -/
theorem reaches_of_scanMarkers {result : Int × Streams}
    (scanned : scanMarkers keepCOM fuel ⟨data, out⟩ = some result) : Reaches data := by
  induction fuel generalizing data out with
  | zero => cases scanned
  | succ fuel ih =>
      obtain ⟨⟨c, streams⟩, found, scanned⟩ := Option.bind_eq_some_iff.mp scanned
      have later (next : ¬EndsScan c) :
          Reaches (passMarker keepCOM c streams).infile :=
        ih ((if_neg next).symm.trans scanned)
      rcases nextMarker_cases found with ⟨marker, rest, next, rfl, rfl⟩ | ⟨rfl, rfl⟩
      · by_cases last : EndsScan marker.toNat
        · exact .ends next last
        have later := later last
        by_cases sos : (marker.toNat : Int) = markerSOS
        · rw [passMarker, if_pos sos] at later
          exact .standalone next sos later
        -- Parameters that are cut short leave nothing to reach a marker in.
        rcases rest with _ | ⟨high, _ | ⟨low, tail⟩⟩
        · have nothing := @passMarker_short keepCOM [] _ sos (by decide) out
          exact absurd (nothing ▸ later) not_reaches_nil
        · have nothing := @passMarker_short keepCOM [high] _ sos (Nat.lt_succ_self 1) out
          exact absurd (nothing ▸ later) not_reaches_nil
        · rw [passMarker_cons sos] at later
          by_cases whole : parameterLength high low ≤ tail.length
          · rw [← List.take_append_drop (parameterLength high low) tail] at next
            exact .parameters next last sos (List.length_take_of_le whole) later
          · rw [List.drop_eq_nil_of_le (by omega)] at later
            exact absurd later not_reaches_nil
      · have nothing := later (by decide)
        rw [passMarker_short (by decide) (by simp)] at nothing
        exact absurd nothing not_reaches_nil

instance (data : Bytes) : Decidable (Reaches data) :=
  decidable_of_iff ((scanMarkers false (data.length + 1) ⟨data, []⟩).isSome = true) <| by
    rw [Option.isSome_iff_exists]
    constructor
    · rintro ⟨result, scanned⟩
      exact reaches_of_scanMarkers scanned
    · exact fun reaches => scanMarkers_of_reaches reaches (Nat.lt_succ_self _)

/-! ## Returning -/

variable {comment : Bytes}

/-- A call with both files open. -/
def runsOn (fuel : Nat) (file comment : Bytes) (keepCOM : Bool) : Option (Int × Bytes) :=
  wrjpgcom fuel (.opened file) (.opened ()) (some comment) keepCOM

theorem scanJPEGHeader_eq (fuel : Nat) (file : Bytes) :
    scanJPEGHeader fuel keepCOM ⟨file, []⟩ =
      scanMarkers keepCOM fuel ⟨file.drop 2, [0xFF, 0xD8]⟩ := by
  match file with
  | [] | [_] | _ :: _ :: _ => rfl

/-- `wrjpgcom` returns exactly when the scan reaches a last marker. -/
theorem returns_iff {file : Bytes} :
    (∃ fuel result, runsOn fuel file comment keepCOM = some result) ↔ Reaches (file.drop 2) := by
  constructor
  · rintro ⟨fuel, result, returned⟩
    obtain ⟨scan, scanned, _⟩ := Option.bind_eq_some_iff.mp returned
    rw [scanJPEGHeader_eq] at scanned
    exact reaches_of_scanMarkers scanned
  · intro reaches
    obtain ⟨⟨marker, streams⟩, scanned⟩ :=
      @scanMarkers_of_reaches keepCOM _ reaches _ [0xFF, 0xD8] (Nat.lt_succ_self _)
    rw [← scanJPEGHeader_eq] at scanned
    exact ⟨_, _, congrArg (Option.bind · _) scanned⟩

theorem runsOn_code {file : Bytes} {result : Int × Bytes}
    (returned : runsOn fuel file comment keepCOM = some result) : result.1 = 0 := by
  obtain ⟨scan, _, last⟩ := Option.bind_eq_some_iff.mp returned
  exact (congrArg Prod.fst (Option.some.inj last)).symm

/-- `wrjpgcom` returns, and with 0 only for a JPEG file whose scan reaches a last marker. -/
def ReportsOn (file comment : Bytes) (keepCOM : Bool) : Prop :=
  (∃ fuel result, runsOn fuel file comment keepCOM = some result) ∧
    ∀ fuel out, runsOn fuel file comment keepCOM = some (0, out) →
      ∃ body, file = 0xFF :: 0xD8 :: body ∧ Reaches body

/--
`wrjpgcom` returns with a code that fits the file exactly for the files that start
with `FF D8` and whose scan reaches a last marker: no other file is reported, since the
call returns 0 or does not return.
-/
theorem reportsOn_iff (file comment : Bytes) (keepCOM : Bool) :
    ReportsOn file comment keepCOM ↔
      ∃ body, file = 0xFF :: 0xD8 :: body ∧ Reaches body := by
  constructor
  · rintro ⟨⟨fuel, ⟨code, out⟩, returned⟩, reported⟩
    obtain rfl : code = 0 := runsOn_code returned
    exact reported fuel out returned
  · rintro ⟨body, rfl, reaches⟩
    exact ⟨returns_iff.mpr reaches, fun _ _ _ => ⟨body, rfl, reaches⟩⟩

/-- The call on an empty file never returns. -/
theorem not_reportsOn_empty : ¬ReportsOn [] [0x41] false := by
  rintro ⟨returns, _⟩
  exact not_reaches_nil (returns_iff.mp returns)

end RPhoto.Jpeg
