import RPhoto.Jpeg.HeaderScan

/-!
# Inserting a comment

The header of a JPEG file is a list of segments with padding between them.  On a
file with such a header `wrjpgcom` copies the segments, each with one `FF`, and
puts the comment in a segment of its own in front of the last marker.  The
length field has 16 bits, and the length of the comment is not checked.
-/

namespace RPhoto.Jpeg

/-! ## Headers -/

/-- The segments of a header, the marker that ends it and the bytes after that marker. -/
inductive Header : Bytes → List (UInt8 × Bytes) → UInt8 → Bytes → Prop
  | final (padding : Nat) {marker : UInt8} (ends : EndsScan marker.toNat) (rest : Bytes) :
      Header (0xFF :: (List.replicate padding 0xFF ++ marker :: rest)) [] marker rest
  | segment (padding : Nat) {marker high low last : UInt8} {payload data rest : Bytes}
      {segments : List (UInt8 × Bytes)} (code : marker ≠ 0xFF)
      (other : ¬EndsScan marker.toNat) (sos : (marker.toNat : Int) ≠ markerSOS)
      (length : high.toNat * 256 + low.toNat = payload.length + 2)
      (later : Header data segments last rest) :
      Header
        (0xFF :: (List.replicate padding 0xFF ++ marker :: high :: low :: (payload ++ data)))
        ((marker, payload) :: segments) last rest

/-- A JPEG file with a header. -/
def WellFormed (file : Bytes) (segments : List (UInt8 × Bytes)) (last : UInt8) (rest : Bytes) :
    Prop :=
  ∃ body, file = 0xFF :: 0xD8 :: body ∧ Header body segments last rest

variable {fuel padding : Nat} {keepCOM : Bool} {marker high low last : UInt8}
  {payload data rest out comment file : Bytes} {segments : List (UInt8 × Bytes)}

theorem ends_ne_ff (ends : EndsScan marker.toNat) : marker ≠ 0xFF := by
  rintro rfl
  exact absurd ends (by decide)

theorem nextMarker_padded (code : marker ≠ 0xFF) (padding : Nat) (rest : Bytes) :
    NextMarker (0xFF :: (List.replicate padding 0xFF ++ marker :: rest)) marker rest :=
  ⟨[], padding, List.not_mem_nil, code, rfl⟩

theorem NextMarker.unique {marker' : UInt8} {rest' : Bytes} (first : NextMarker data marker rest)
    (second : NextMarker data marker' rest') : marker = marker' ∧ rest = rest' := by
  have one := @nextMarker_found data.length marker rest data [] first le_rfl
  have other := @nextMarker_found data.length marker' rest' data [] second le_rfl
  have same := Option.some.inj (one.symm.trans other)
  rw [Prod.mk.injEq, Int.ofNat_inj, UInt8.toNat_inj, Streams.mk.injEq] at same
  exact ⟨same.1, same.2.1⟩

/-- A file has one header at most. -/
theorem Header.unique {segments' : List (UInt8 × Bytes)} {last' : UInt8} {rest' : Bytes}
    (first : Header data segments last rest) (second : Header data segments' last' rest') :
    segments = segments' ∧ last = last' ∧ rest = rest' := by
  induction first generalizing segments' with
  | @final padding marker ends rest =>
      have next := nextMarker_padded (ends_ne_ff ends) padding rest
      generalize 0xFF :: (List.replicate padding 0xFF ++ marker :: rest) = data at second next
      cases second with
      | final padding' ends' =>
          exact ⟨rfl, next.unique (nextMarker_padded (ends_ne_ff ends') padding' _)⟩
      | segment padding' code' other' =>
          have same := (next.unique (nextMarker_padded code' padding' _)).1
          exact absurd (same ▸ ends) other'
  | @segment padding marker high low last payload data rest segments code other sos length _ ih =>
      have next := nextMarker_padded code padding (high :: low :: (payload ++ data))
      generalize 0xFF :: (List.replicate padding 0xFF ++ marker :: high :: low ::
        (payload ++ data)) = front at second next
      cases second with
      | final padding' ends' =>
          have same := (next.unique (nextMarker_padded (ends_ne_ff ends') padding' _)).1
          exact absurd (same ▸ ends') other
      | segment padding' code' other' sos' length' later' =>
          obtain ⟨rfl, same⟩ := next.unique (nextMarker_padded code' padding' _)
          simp only [List.cons.injEq] at same
          obtain ⟨rfl, rfl, same⟩ := same
          obtain ⟨rfl, rfl⟩ := List.append_inj same (by omega)
          obtain ⟨rfl, lastSame, restSame⟩ := ih later'
          exact ⟨rfl, lastSame, restSame⟩

/-- No payload is longer than its length field allows. -/
theorem Header.payload_le (header : Header data segments last rest) :
    ∀ segment ∈ segments, segment.2.length ≤ 65533 := by
  induction header with
  | final => exact fun _ member => absurd member List.not_mem_nil
  | @segment _ marker high low _ payload _ _ _ _ _ _ length _ ih =>
      have first := high.toNat_lt
      have second := low.toNat_lt
      refine List.forall_mem_cons.mpr ⟨?_, ih⟩
      change payload.length ≤ 65533
      omega

theorem Header.ends (header : Header data segments last rest) : EndsScan last.toNat := by
  induction header with
  | final _ ends => exact ends
  | segment _ _ _ _ _ _ ih => exact ih

/-- Bytes that put segments in front of any header. -/
def Prefixes (bytes : Bytes) (segments : List (UInt8 × Bytes)) : Prop :=
  ∀ ⦃data more last rest⦄, Header data more last rest →
    Header (bytes ++ data) (segments ++ more) last rest

theorem Prefixes.nil : Prefixes [] [] := fun _ _ _ _ header => header

theorem Prefixes.append {first second : Bytes} {front back : List (UInt8 × Bytes)}
    (earlier : Prefixes first front) (later : Prefixes second back) :
    Prefixes (first ++ second) (front ++ back) := by
  intro data more last rest header
  rw [List.append_assoc, List.append_assoc]
  exact earlier (later header)

theorem prefixes_segment (code : marker ≠ 0xFF) (other : ¬EndsScan marker.toNat)
    (sos : (marker.toNat : Int) ≠ markerSOS)
    (length : high.toNat * 256 + low.toNat = payload.length + 2) :
    Prefixes (0xFF :: marker :: high :: low :: payload) [(marker, payload)] :=
  fun _ _ _ _ header => .segment 0 code other sos length header

/-! ## Segments as they are written -/

/-- A segment that the scan passes. -/
structure Passable (segment : UInt8 × Bytes) : Prop where
  code : segment.1 ≠ 0xFF
  other : ¬EndsScan segment.1.toNat
  sos : (segment.1.toNat : Int) ≠ markerSOS
  short : segment.2.length ≤ 65533

theorem Header.passable (header : Header data segments last rest) :
    ∀ segment ∈ segments, Passable segment := by
  have short := header.payload_le
  induction header with
  | final => exact fun _ member => absurd member List.not_mem_nil
  | segment _ code other sos _ _ ih =>
      rw [List.forall_mem_cons] at short ⊢
      exact ⟨⟨code, other, sos, short.1⟩, ih short.2⟩

/-- A segment with one `FF` and its length field. -/
def segmentBytes (segment : UInt8 × Bytes) : Bytes :=
  0xFF :: segment.1 :: UInt8.ofNat ((segment.2.length + 2) / 256) ::
    UInt8.ofNat (segment.2.length + 2) :: segment.2

def render (segments : List (UInt8 × Bytes)) : Bytes := segments.flatMap segmentBytes

theorem render_append (front back : List (UInt8 × Bytes)) :
    render (front ++ back) = render front ++ render back :=
  List.flatMap_append

theorem render_singleton (segment : UInt8 × Bytes) : render [segment] = segmentBytes segment :=
  List.flatMap_singleton ..

/-- The length field determines its two bytes. -/
theorem segmentBytes_eq (length : high.toNat * 256 + low.toNat = payload.length + 2) :
    segmentBytes (marker, payload) = 0xFF :: marker :: high :: low :: payload := by
  have first := high.toNat_lt
  have second := low.toNat_lt
  have front : UInt8.ofNat ((payload.length + 2) / 256) = high := by
    rw [← UInt8.toNat_inj, UInt8.toNat_ofNat']
    omega
  have back : UInt8.ofNat (payload.length + 2) = low := by
    rw [← UInt8.toNat_inj, UInt8.toNat_ofNat']
    omega
  rw [segmentBytes, front, back]

theorem Passable.prefixes {segment : UInt8 × Bytes} (passable : Passable segment) :
    Prefixes (segmentBytes segment) [segment] := by
  refine prefixes_segment passable.code passable.other passable.sos ?_
  have short := passable.short
  rw [UInt8.toNat_ofNat', UInt8.toNat_ofNat']
  omega

theorem prefixes_render (passable : ∀ segment ∈ segments, Passable segment) :
    Prefixes (render segments) segments := by
  induction segments with
  | nil => exact Prefixes.nil
  | cons segment rest ih =>
      rw [List.forall_mem_cons] at passable
      exact passable.1.prefixes.append (ih passable.2)

/-! ## Length fields -/

theorem ofInt_toNat32 (byte : UInt8) : (UInt32.ofInt (byte.toNat : Int)).toNat = byte.toNat := by
  have small := byte.toNat_lt
  have residue : (byte.toNat : Int) % 2 ^ 32 = byte.toNat :=
    Int.emod_eq_of_lt (by omega) (by omega)
  rw [UInt32.ofInt, residue, Int.toNat_natCast]
  refine UInt32.toNat_ofNat_of_lt ?_
  change byte.toNat < 4294967296
  omega

theorem lengthField_toNat (high low : UInt8) :
    ((UInt32.ofInt high.toNat <<< 8) + UInt32.ofInt low.toNat).toNat =
      high.toNat * 256 + low.toNat := by
  have first := high.toNat_lt
  have second := low.toNat_lt
  have shift : (8 : UInt32).toNat % 32 = 8 := rfl
  rw [UInt32.toNat_add, UInt32.toNat_shiftLeft, ofInt_toNat32, ofInt_toNat32, shift,
    Nat.shiftLeft_eq]
  omega

theorem parameterLength_eq (length : high.toNat * 256 + low.toNat = payload.length + 2) :
    parameterLength high low = payload.length := by
  have value := lengthField_toNat high low
  have two : (2 : UInt32).toNat = 2 := rfl
  rw [parameterLength, UInt32.toNat_sub_of_le]
  · omega
  · rw [UInt32.le_iff_toNat_le]
    omega

theorem ofInt_lowByte (val : UInt32) :
    UInt8.ofInt ((val &&& 0xFF).toNat : Int) = UInt8.ofNat val.toNat := by
  have mask : (0xFF : UInt32).toNat = 2 ^ 8 - 1 := rfl
  rw [UInt32.toNat_and, mask, Nat.and_two_pow_sub_one_eq_mod, ← UInt8.toNat_inj, UInt8.ofInt,
    UInt8.toNat_ofNat', UInt8.toNat_ofNat']
  omega

theorem write2Bytes_eq (val : UInt32) (data out : Bytes) :
    write2Bytes val ⟨data, out⟩ =
      ⟨data, out ++ [UInt8.ofNat (val.toNat / 256), UInt8.ofNat val.toNat]⟩ := by
  have shift : (8 : UInt32).toNat % 32 = 8 := rfl
  have highByte : (val >>> 8).toNat = val.toNat / 256 := by
    rw [UInt32.toNat_shiftRight, shift, Nat.shiftRight_eq_div_pow]
  rw [write2Bytes, putByte, putByte, ofInt_lowByte, ofInt_lowByte, highByte, List.append_assoc]
  rfl

/-- A length field is written back as it was read. -/
theorem write2Bytes_lengthField (high low : UInt8) (data out : Bytes) :
    write2Bytes ((UInt32.ofInt high.toNat <<< 8) + UInt32.ofInt low.toNat) ⟨data, out⟩ =
      ⟨data, out ++ [high, low]⟩ := by
  have first := high.toNat_lt
  have second := low.toNat_lt
  have front : UInt8.ofNat ((high.toNat * 256 + low.toNat) / 256) = high := by
    rw [← UInt8.toNat_inj, UInt8.toNat_ofNat']
    omega
  have back : UInt8.ofNat (high.toNat * 256 + low.toNat) = low := by
    rw [← UInt8.toNat_inj, UInt8.toNat_ofNat']
    omega
  rw [write2Bytes_eq, lengthField_toNat, front, back]

/-! ## Copying the header -/

theorem copyBytes_payload (payload rest out : Bytes) :
    copyBytes payload.length ⟨payload ++ rest, out⟩ = ⟨rest, out ++ payload⟩ := by
  induction payload generalizing out with
  | nil => rw [List.append_nil]; rfl
  | cons byte payload ih =>
      change copyBytes payload.length (putByte (byte.toNat : Int) ⟨payload ++ rest, out⟩) = _
      rw [putByte_toNat, ih, List.append_assoc]
      rfl

theorem skipBytes_payload (payload rest out : Bytes) :
    skipBytes payload.length ⟨payload ++ rest, out⟩ = ⟨rest, out⟩ := by
  induction payload with
  | nil => rfl
  | cons byte payload ih => exact ih

theorem copyVariable_segment (length : high.toNat * 256 + low.toNat = payload.length + 2)
    (data out : Bytes) :
    copyVariable ⟨high :: low :: (payload ++ data), out⟩ =
      ⟨data, out ++ high :: low :: payload⟩ := by
  unfold copyVariable
  rw [read2Bytes_cons]
  dsimp only
  rw [write2Bytes_lengthField]
  refine (congrArg (copyBytes · _) (parameterLength_eq length)).trans ?_
  rw [copyBytes_payload, List.append_assoc]
  rfl

theorem skipVariable_segment (length : high.toNat * 256 + low.toNat = payload.length + 2)
    (data out : Bytes) :
    skipVariable ⟨high :: low :: (payload ++ data), out⟩ = ⟨data, out⟩ :=
  (congrArg (skipBytes · _) (parameterLength_eq length)).trans (skipBytes_payload ..)

theorem writeMarker_toNat (marker : UInt8) (data out : Bytes) :
    writeMarker (marker.toNat : Int) ⟨data, out⟩ = ⟨data, out ++ [0xFF, marker]⟩ := by
  have first : putByte 0xFF ⟨data, out⟩ = ⟨data, out ++ [0xFF]⟩ := putByte_toNat 0xFF data out
  rw [writeMarker, first, putByte_toNat, List.append_assoc]
  rfl

/-- The segments that `keep_COM` leaves. -/
def keptSegments (keepCOM : Bool) (segments : List (UInt8 × Bytes)) : List (UInt8 × Bytes) :=
  if keepCOM then segments else segments.filter fun segment => (segment.1.toNat : Int) ≠ markerCOM

theorem Header.kept (header : Header data segments last rest) (keepCOM : Bool) :
    ∀ segment ∈ keptSegments keepCOM segments, Passable segment := by
  intro segment member
  cases keepCOM with
  | true => exact header.passable segment member
  | false => exact header.passable segment (List.mem_of_mem_filter member)

/-- A segment is copied, unless it is a comment to be discarded. -/
theorem passMarker_segment (sos : (marker.toNat : Int) ≠ markerSOS)
    (length : high.toNat * 256 + low.toNat = payload.length + 2) (data out : Bytes) :
    passMarker keepCOM marker.toNat ⟨high :: low :: (payload ++ data), out⟩ =
      ⟨data, out ++ render (keptSegments keepCOM [(marker, payload)])⟩ := by
  have copies : copyVariable (writeMarker marker.toNat ⟨high :: low :: (payload ++ data), out⟩) =
      ⟨data, out ++ render [(marker, payload)]⟩ := by
    rw [writeMarker_toNat, copyVariable_segment length, render_singleton, segmentBytes_eq length,
      List.append_assoc]
    rfl
  unfold passMarker keptSegments
  rw [if_neg sos]
  cases keepCOM with
  | true => rw [if_pos rfl, if_pos rfl, ite_self, copies]
  | false =>
      rw [if_neg Bool.false_ne_true, if_neg Bool.false_ne_true]
      by_cases comment : (marker.toNat : Int) = markerCOM
      · rw [if_pos comment, skipVariable_segment length]
        simp [comment, render]
      · rw [if_neg comment, copies]
        simp [comment]

theorem keptSegments_cons (segment : UInt8 × Bytes) :
    keptSegments keepCOM (segment :: segments) =
      keptSegments keepCOM [segment] ++ keptSegments keepCOM segments := by
  cases keepCOM with
  | true => rfl
  | false =>
      simp only [keptSegments, Bool.false_eq_true, if_false]
      exact List.filter_append [segment] segments

/-- The scan of a header copies the kept segments and stops behind the last marker. -/
theorem scanMarkers_header (header : Header data segments last rest) {fuel : Nat} {out : Bytes}
    (enough : data.length < fuel) :
    scanMarkers keepCOM fuel ⟨data, out⟩ =
      some ((last.toNat : Int), ⟨rest, out ++ render (keptSegments keepCOM segments)⟩) := by
  induction header generalizing fuel out with
  | @final padding marker ends rest =>
      obtain ⟨fuel, rfl⟩ := Nat.exists_eq_add_one.mpr (Nat.zero_lt_of_lt enough)
      have next := nextMarker_padded (ends_ne_ff ends) padding rest
      have nothing : render (keptSegments keepCOM []) = [] := by cases keepCOM <;> rfl
      rw [scanMarkers, nextMarker_found next (Nat.le_of_lt_succ enough), nothing, List.append_nil]
      exact if_pos ends
  | @segment padding marker high low last payload data rest segments code other sos length _ ih =>
      obtain ⟨fuel, rfl⟩ := Nat.exists_eq_add_one.mpr (Nat.zero_lt_of_lt enough)
      have next := nextMarker_padded code padding (high :: low :: (payload ++ data))
      have shorter : data.length < fuel := by
        simp only [List.length_cons, List.length_append] at enough
        omega
      rw [scanMarkers, nextMarker_found next (Nat.le_of_lt_succ enough)]
      refine (if_neg other).trans ?_
      have parts : keptSegments keepCOM ((marker, payload) :: segments) =
          keptSegments keepCOM [(marker, payload)] ++ keptSegments keepCOM segments :=
        keptSegments_cons _
      rw [passMarker_segment sos length, ih shorter, parts, render_append, List.append_assoc]

/-! ## The comment segment -/

/-- The comment's own segment; there is none for an empty comment. -/
def commentSegments (comment : Bytes) : List (UInt8 × Bytes) :=
  if comment = [] then [] else [(0xFE, comment)]

theorem writeText_eq (text data out : Bytes) :
    writeText text ⟨data, out⟩ = ⟨data, out ++ text⟩ := by
  induction text generalizing out with
  | nil => rw [List.append_nil]; rfl
  | cons byte text ih =>
      change writeText text (putByte (byte.toNat : Int) ⟨data, out⟩) = _
      rw [putByte_toNat, ih, List.append_assoc]
      rfl

theorem cString_eq (noNul : 0 ∉ comment) : cString comment = comment :=
  List.takeWhile_eq_self_iff.mpr fun _ member =>
    decide_eq_true fun zero => noNul (zero ▸ member)

theorem commentLength_toNat (short : comment.length ≤ 65533) :
    (UInt32.ofNat comment.length).toNat = comment.length :=
  UInt32.toNat_ofNat_of_lt (Nat.lt_of_le_of_lt short (by decide))

theorem commentSegments_passable (short : comment.length ≤ 65533) :
    ∀ segment ∈ commentSegments comment, Passable segment := by
  have code : (0xFE : UInt8) ≠ 0xFF := by decide
  have other : ¬EndsScan (0xFE : UInt8).toNat := by decide
  have sos : ((0xFE : UInt8).toNat : Int) ≠ markerSOS := by decide
  intro segment member
  unfold commentSegments at member
  split_ifs at member
  · exact absurd member List.not_mem_nil
  · rw [List.mem_singleton.mp member]
    exact ⟨code, other, sos, short⟩

/-- A comment that its length field can count is put in a segment of its own. -/
theorem insertComment_eq (short : (cString comment).length ≤ 65533) (data out : Bytes) :
    insertComment comment ⟨data, out⟩ =
      ⟨data, out ++ render (commentSegments (cString comment))⟩ := by
  have counted := commentLength_toNat short
  unfold insertComment commentSegments
  generalize cString comment = text at short counted ⊢
  by_cases empty : text = []
  · subst empty
    rw [if_pos rfl]
    exact congrArg _ (List.append_nil out).symm
  · have positive : 0 < UInt32.ofNat text.length := by
      rw [UInt32.lt_iff_toNat_lt, counted]
      exact List.length_pos_iff.mpr empty
    have field : (UInt32.ofNat text.length + 2).toNat = text.length + 2 := by
      have two : (2 : UInt32).toNat = 2 := rfl
      rw [UInt32.toNat_add, counted, two]
      omega
    have marked : writeMarker markerCOM ⟨data, out⟩ = ⟨data, out ++ [0xFF, 0xFE]⟩ :=
      writeMarker_toNat 0xFE data out
    rw [if_neg empty, if_pos positive, counted, List.take_length, marked, write2Bytes_eq, field,
      writeText_eq, render_singleton, List.append_assoc, List.append_assoc]
    rfl

/-! ## The commented file -/

/-- The bytes of a file with these segments, each with one `FF` and no garbage. -/
def jpegFile (segments : List (UInt8 × Bytes)) (last : UInt8) (rest : Bytes) : Bytes :=
  0xFF :: 0xD8 :: (render segments ++ 0xFF :: last :: rest)

theorem wellFormed_jpegFile (passable : ∀ segment ∈ segments, Passable segment)
    (ends : EndsScan last.toNat) (rest : Bytes) :
    WellFormed (jpegFile segments last rest) segments last rest := by
  refine ⟨_, rfl, ?_⟩
  have header := prefixes_render passable (.final 0 ends rest)
  rwa [List.append_nil] at header

/-- The bytes that `wrjpgcom` puts for a file with a header. -/
theorem runsOn_wellFormed (wellFormed : WellFormed file segments last rest)
    (short : (cString comment).length ≤ 65533) (keepCOM : Bool) {fuel : Nat}
    (enough : file.length ≤ fuel) :
    runsOn fuel file comment keepCOM =
      some (0, jpegFile (keptSegments keepCOM segments ++ commentSegments (cString comment))
        last rest) := by
  obtain ⟨body, rfl, header⟩ := wellFormed
  have larger : body.length < fuel := by
    simp only [List.length_cons] at enough
    omega
  have scanned := @scanMarkers_header keepCOM _ _ _ _ header fuel [0xFF, 0xD8] larger
  refine (congrArg (Option.bind · _) ((scanJPEGHeader_eq ..).trans scanned)).trans ?_
  change some ((0 : Int),
    (copyRestOfFile (writeMarker last.toNat (insertComment comment _))).2) = _
  rw [insertComment_eq short, writeMarker_toNat, copyRestOfFile, jpegFile, render_append]
  simp only [List.append_assoc, List.cons_append, List.nil_append]

/-- On a file with a header `wrjpgcom` writes a file with the kept segments and the comment. -/
def InsertsComment (keepCOM : Bool) (file comment : Bytes) (segments : List (UInt8 × Bytes))
    (last : UInt8) (rest : Bytes) : Prop :=
  ∃ fuel out, runsOn fuel file comment keepCOM = some (0, out) ∧
    WellFormed out (keptSegments keepCOM segments ++ commentSegments comment) last rest

theorem insertsComment_of_short (wellFormed : WellFormed file segments last rest)
    (noNul : 0 ∉ comment) (short : comment.length ≤ 65533) (keepCOM : Bool) :
    InsertsComment keepCOM file comment segments last rest := by
  have text : cString comment = comment := cString_eq noNul
  have put := runsOn_wellFormed wellFormed (text.symm ▸ short) keepCOM le_rfl
  rw [text] at put
  obtain ⟨body, rfl, header⟩ := wellFormed
  refine ⟨_, _, put, wellFormed_jpegFile ?_ header.ends rest⟩
  intro segment member
  rcases List.mem_append.mp member with kept | added
  · exact header.kept keepCOM segment kept
  · exact commentSegments_passable short segment added

theorem short_of_insertsComment
    (inserts : InsertsComment keepCOM file comment segments last rest) :
    comment.length ≤ 65533 := by
  obtain ⟨_, _, _, _, _, header⟩ := inserts
  by_cases empty : comment = []
  · rw [empty]
    exact Nat.zero_le _
  · have member : (0xFE, comment) ∈ commentSegments comment := by
      rw [commentSegments, if_neg empty]
      exact List.mem_singleton_self _
    exact header.payload_le _ (List.mem_append_right _ member)

/--
On a file with a header and a comment without zero bytes, `wrjpgcom` inserts the
comment exactly when it has at most 65533 bytes.
-/
theorem insertsComment_iff (wellFormed : WellFormed file segments last rest)
    (noNul : 0 ∉ comment) (keepCOM : Bool) :
    InsertsComment keepCOM file comment segments last rest ↔ comment.length ≤ 65533 :=
  ⟨short_of_insertsComment, fun short => insertsComment_of_short wellFormed noNul short keepCOM⟩

/-- A file with one empty `APP0` segment that ends without a picture. -/
def tablesFile : Bytes := [0xFF, 0xD8, 0xFF, 0xFF, 0xE0, 0x00, 0x02, 0xFF, 0xD9]

theorem tablesFile_wellFormed : WellFormed tablesFile [(0xE0, [])] 0xD9 [] :=
  have ends : Header [0xFF, 0xD9] [] 0xD9 [] := .final 0 (by decide) []
  ⟨_, rfl, @Header.segment 1 0xE0 0 2 _ [] _ _ _ (by decide) (by decide) (by decide) rfl ends⟩

theorem tablesFile_commented :
    InsertsComment false tablesFile [0x68, 0x69] [(0xE0, [])] 0xD9 [] ↔
      [0x68, 0x69].length ≤ 65533 :=
  insertsComment_iff tablesFile_wellFormed (by decide) false

/-- A comment of 65534 bytes does not get its segment. -/
theorem tablesFile_long_comment :
    WellFormed tablesFile [(0xE0, [])] 0xD9 [] ∧
      0 ∉ (List.replicate 65534 0x41 : Bytes) ∧
      ¬InsertsComment false tablesFile (List.replicate 65534 0x41) [(0xE0, [])] 0xD9 [] := by
  refine ⟨tablesFile_wellFormed, ?_, fun inserts => ?_⟩
  · exact fun member => absurd (List.eq_of_mem_replicate member) (by decide)
  · have short := short_of_insertsComment inserts
    rw [List.length_replicate] at short
    omega

end RPhoto.Jpeg
