import RPhoto.Jpeg.CommentInsertion
import RPhoto.Library.Fuel

/-!
# Replacing a comment twice

Without `keep_COM` the scan drops every comment segment, and what it writes is
parsed back segment by segment.  A second replacement therefore finds the
segments that the first one kept, and the comment of the first is dropped.
-/

namespace RPhoto.Jpeg

open RPhoto.Library

variable {file : Bytes} {segments : List (UInt8 × Bytes)} {last : UInt8} {rest : Bytes}

/-- Dropping the comments again drops the one that was put. -/
theorem keptSegments_replaced (segments : List (UInt8 × Bytes)) (comment : Bytes) :
    keptSegments false (keptSegments false segments ++ commentSegments comment) =
      keptSegments false segments := by
  have dropped : keptSegments false (commentSegments comment) = [] := by
    unfold commentSegments
    split_ifs
    · rfl
    · rfl
  have again : keptSegments false (keptSegments false segments) = keptSegments false segments := by
    simp [keptSegments]
  calc keptSegments false (keptSegments false segments ++ commentSegments comment)
      = keptSegments false (keptSegments false segments) ++
          keptSegments false (commentSegments comment) := by simp [keptSegments]
    _ = keptSegments false segments := by rw [again, dropped, List.append_nil]

/-- What a call with `keep_COM` off leaves of a file with a header. -/
def replaced (segments : List (UInt8 × Bytes)) (last : UInt8) (rest comment : Bytes) : Bytes :=
  jpegFile (keptSegments false segments ++ commentSegments (cString comment)) last rest

theorem cString_length_le (comment : Bytes) : (cString comment).length ≤ comment.length :=
  (List.takeWhile_prefix _).length_le

theorem wellFormed_replaced (wellFormed : WellFormed file segments last rest) {comment : Bytes}
    (short : comment.length ≤ 65533) :
    WellFormed (replaced segments last rest comment)
      (keptSegments false segments ++ commentSegments (cString comment)) last rest := by
  obtain ⟨body, rfl, header⟩ := wellFormed
  refine wellFormed_jpegFile (fun segment member => ?_) header.ends rest
  rcases List.mem_append.mp member with kept | added
  · exact header.kept false segment kept
  · exact commentSegments_passable ((cString_length_le comment).trans short) segment added

theorem returns_replaced (wellFormed : WellFormed file segments last rest) {comment : Bytes}
    (short : comment.length ≤ 65533) :
    Returns (fun fuel => runsOn fuel file comment false)
      (· = (0, replaced segments last rest comment)) :=
  ⟨_, rfl, file.length, fun _ enough =>
    runsOn_wellFormed wellFormed ((cString_length_le comment).trans short) false enough⟩

/--
On a file with a header both replacements of a comment return 0, and the second one
leaves the bytes that it would have left of the file itself.
-/
theorem replacement_twice (wellFormed : WellFormed file segments last rest)
    {first second : Bytes} (firstShort : first.length ≤ 65533)
    (secondShort : second.length ≤ 65533) :
    ∃ once twice,
      Returns (fun fuel => runsOn fuel file first false) (· = (0, once)) ∧
      Returns (fun fuel => runsOn fuel once second false) (· = (0, twice)) ∧
      Returns (fun fuel => runsOn fuel file second false) (· = (0, twice)) := by
  have again := returns_replaced (wellFormed_replaced wellFormed firstShort) secondShort
  have same : replaced (keptSegments false segments ++ commentSegments (cString first)) last rest
      second = replaced segments last rest second := by
    rw [replaced, keptSegments_replaced, replaced]
  rw [same] at again
  exact ⟨_, _, returns_replaced wellFormed firstShort, again,
    returns_replaced wellFormed secondShort⟩

/-- Two comments, one of them with marker codes in it, on a file that ends without a picture. -/
theorem tablesFile_replaced_twice :
    ∃ once twice,
      Returns (fun fuel => runsOn fuel tablesFile [0xFF, 0xD9] false) (· = (0, once)) ∧
      Returns (fun fuel => runsOn fuel once [0x68, 0x69] false) (· = (0, twice)) ∧
      Returns (fun fuel => runsOn fuel tablesFile [0x68, 0x69] false) (· = (0, twice)) :=
  replacement_twice tablesFile_wellFormed (by decide) (by decide)

end RPhoto.Jpeg
