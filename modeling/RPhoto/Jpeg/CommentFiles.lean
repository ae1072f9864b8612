import RPhoto.Jpeg.CommentInsertion
import RPhoto.Library.Stdio

/-!
# The files of the comment writer

`wrjpgcom` was made from a program that ended with `exit`, which closes every
stream.  As a function it opens `infile` and `outfile` and returns without
closing them, so the caller loads a file whose last bytes are still in a buffer.
-/

namespace RPhoto.Jpeg

open RPhoto.Library

variable {capacity : Nat}

/-- How a call ends: its code, the bytes it has put, and the streams it has opened. -/
structure Finish (capacity : Nat) where
  code : Int
  put : Bytes
  infile : Option (Stream capacity UInt8)
  outfile : Option (Stream capacity UInt8)

/-- `wrjpgcom` with its two streams; no path closes one, and every `PUTBYTE` goes to `outfile`. -/
def wrjpgcomStreams (capacity fuel : Nat) (infn : FileArgument Bytes) (outfn : FileArgument Unit)
    (comment : Option Bytes) (keepCOM : Bool) : Option (Finish capacity) :=
  match comment, infn, outfn with
  | none, _, _ => some ⟨-1, [], none, none⟩
  | some _, .null, _ => some ⟨-2, [], none, none⟩
  | some _, _, .null => some ⟨-3, [], none, none⟩
  | some _, .unopened, _ => some ⟨-4, [], none, none⟩
  | some _, .opened data, .unopened => some ⟨-5, [], some (.openRead data), none⟩
  | some comment, .opened data, .opened () => do
      let (marker, streams) ← scanJPEGHeader fuel keepCOM ⟨data, []⟩
      let streams := writeMarker marker (insertComment comment streams)
      let bytes := (copyRestOfFile streams).outfile
      some ⟨0, bytes, some (.openRead data), some (Stream.openWrite.put bytes)⟩

namespace Finish

/-- Nothing is left open, and after a success all that was put is on disk. -/
structure Complete (finish : Finish capacity) : Prop where
  infileClosed : ∀ stream ∈ finish.infile, stream.isOpen = false
  outfileClosed : ∀ stream ∈ finish.outfile, stream.isOpen = false
  onDisk : finish.code = 0 → ∃ stream ∈ finish.outfile, stream.disk = finish.put

/-- The same ending with the opened streams closed. -/
def closed (finish : Finish capacity) : Finish capacity :=
  { finish with
    infile := finish.infile.map Stream.close
    outfile := finish.outfile.map Stream.close }

theorem not_complete_of_open {finish : Finish capacity} {stream : Stream capacity UInt8}
    (opened : finish.infile = some stream) (isOpen : stream.isOpen = true) :
    ¬finish.Complete := by
  intro complete
  have shut := complete.infileClosed stream opened
  rw [isOpen] at shut
  exact Bool.noConfusion shut

end Finish

/-- The arguments for which the call returns before it opens a file. -/
def OpensNothing (infn : FileArgument Bytes) (outfn : FileArgument Unit)
    (comment : Option Bytes) : Prop :=
  comment = none ∨ infn = .null ∨ outfn = .null ∨ infn = .unopened

/-- The arguments for which the header scan never ends. -/
def ScansForever (infn : FileArgument Bytes) (outfn : FileArgument Unit) : Prop :=
  ∃ data, infn = .opened data ∧ outfn = .opened () ∧ ¬Reaches (data.drop 2)

variable {fuel : Nat} {infn : FileArgument Bytes} {outfn : FileArgument Unit}
  {comment : Option Bytes} {keepCOM : Bool} {finish : Finish capacity}

/-- The call with its streams returns and puts the same as the call without them. -/
theorem wrjpgcomStreams_result :
    (wrjpgcomStreams capacity fuel infn outfn comment keepCOM).map
        (fun finish => (finish.code, finish.put)) =
      wrjpgcom fuel infn outfn comment keepCOM := by
  rcases comment with _ | comment
  · rfl
  rcases infn with _ | _ | data <;> rcases outfn with _ | _ | ⟨⟨⟩⟩ <;> try rfl
  exact Option.map_bind ..

/-! ## Which streams are open -/

theorem wrjpgcomStreams_nothing (nothing : OpensNothing infn outfn comment)
    (returned : wrjpgcomStreams capacity fuel infn outfn comment keepCOM = some finish) :
    finish.code ≠ 0 ∧ finish.infile = none ∧ finish.outfile = none := by
  rcases comment with _ | comment
  · cases returned
    exact ⟨by simp, rfl, rfl⟩
  rcases infn with _ | _ | data <;> rcases outfn with _ | _ | ⟨⟨⟩⟩
  case opened.unopened => simp [OpensNothing] at nothing
  case opened.opened => simp [OpensNothing] at nothing
  all_goals
    cases returned
    exact ⟨by simp, rfl, rfl⟩

/-- A call that gets past `fopen` of the input has a comment and two names. -/
theorem opens_cases (opens : ¬OpensNothing infn outfn comment) :
    ∃ text data, comment = some text ∧ infn = .opened data ∧ outfn ≠ .null := by
  simp only [OpensNothing, not_or] at opens
  obtain ⟨given, named, target, openable⟩ := opens
  obtain ⟨text, present⟩ := Option.ne_none_iff_exists'.mp given
  cases infn with
  | null => exact absurd rfl named
  | unopened => exact absurd rfl openable
  | opened data => exact ⟨text, data, present, rfl, target⟩

/-- Such a call leaves the input open, whatever it returns. -/
theorem wrjpgcomStreams_infile (opens : ¬OpensNothing infn outfn comment)
    (returned : wrjpgcomStreams capacity fuel infn outfn comment keepCOM = some finish) :
    ∃ data, finish.infile = some (.openRead data) := by
  obtain ⟨text, data, rfl, rfl, target⟩ := opens_cases opens
  refine ⟨data, ?_⟩
  cases outfn with
  | null => exact absurd rfl target
  | unopened =>
      cases returned
      rfl
  | opened file =>
      obtain ⟨scan, _, last⟩ := Option.bind_eq_some_iff.mp returned
      cases last
      rfl

/-- A success has put its bytes to a fresh stream. -/
theorem wrjpgcomStreams_outfile (success : finish.code = 0)
    (returned : wrjpgcomStreams capacity fuel infn outfn comment keepCOM = some finish) :
    finish.outfile = some (Stream.openWrite.put finish.put) := by
  rcases comment with _ | comment
  · cases returned
    exact absurd success (by simp)
  rcases infn with _ | _ | data <;> rcases outfn with _ | _ | ⟨⟨⟩⟩
  case opened.opened =>
    obtain ⟨scan, _, last⟩ := Option.bind_eq_some_iff.mp returned
    cases last
    rfl
  all_goals
    cases returned
    exact absurd success (by simp)

/-- The call returns unless its scan goes on for ever. -/
theorem wrjpgcomStreams_returns (opens : ¬OpensNothing infn outfn comment)
    (scans : ¬ScansForever infn outfn) :
    ∃ fuel finish, wrjpgcomStreams capacity fuel infn outfn comment keepCOM = some finish := by
  obtain ⟨text, data, rfl, rfl, target⟩ := opens_cases opens
  cases outfn with
  | null => exact absurd rfl target
  | unopened => exact ⟨0, _, rfl⟩
  | opened file =>
      have reaches : Reaches (data.drop 2) :=
        not_not.mp fun endless => scans ⟨data, rfl, rfl, endless⟩
      obtain ⟨fuel, result, ran⟩ := (@returns_iff keepCOM text data).mpr reaches
      rw [runsOn, ← @wrjpgcomStreams_result capacity] at ran
      obtain ⟨finish, returned, _⟩ := Option.map_eq_some_iff.mp ran
      exact ⟨fuel, finish, returned⟩

theorem wrjpgcomStreams_endless (opens : ¬OpensNothing infn outfn comment)
    (scans : ScansForever infn outfn) :
    wrjpgcomStreams capacity fuel infn outfn comment keepCOM ≠ some finish := by
  obtain ⟨data, rfl, rfl, endless⟩ := scans
  obtain ⟨text, rfl⟩ := Option.ne_none_iff_exists'.mp fun missing => opens (Or.inl missing)
  intro returned
  have ran : runsOn fuel data text keepCOM = some (finish.code, finish.put) := by
    rw [runsOn, ← @wrjpgcomStreams_result capacity, returned]
    rfl
  exact endless (returns_iff.mp ⟨fuel, _, ran⟩)

/-! ## Completeness -/

/-- After a success the file is complete on disk when its bytes fill the buffer without a rest. -/
theorem onDisk_iff (success : finish.code = 0)
    (returned : wrjpgcomStreams capacity fuel infn outfn comment keepCOM = some finish) :
    (∃ stream ∈ finish.outfile, stream.disk = finish.put) ↔
      capacity + 1 ∣ finish.put.length := by
  rw [wrjpgcomStreams_outfile success returned]
  simpa using Stream.disk_put_eq_iff finish.put

/-- Closing what a call has opened is all that is missing. -/
theorem complete_closed
    (returned : wrjpgcomStreams capacity fuel infn outfn comment keepCOM = some finish) :
    finish.closed.Complete := by
  refine ⟨?_, ?_, fun success => ?_⟩
  · intro stream member
    obtain ⟨opened, _, rfl⟩ := Option.map_eq_some_iff.mp member
    rfl
  · intro stream member
    obtain ⟨opened, _, rfl⟩ := Option.map_eq_some_iff.mp member
    rfl
  · have succeeded : finish.code = 0 := success
    have outfile := wrjpgcomStreams_outfile succeeded returned
    refine ⟨_, congrArg (Option.map Stream.close) outfile, ?_⟩
    exact Stream.contents_put Stream.openWrite finish.put

/--
A call leaves nothing open, and after a success nothing in a buffer, exactly when it
opens no file at all or when its scan of the input never ends.
-/
theorem wrjpgcom_complete_iff (capacity : Nat) (infn : FileArgument Bytes)
    (outfn : FileArgument Unit) (comment : Option Bytes) (keepCOM : Bool) :
    (∀ fuel (finish : Finish capacity),
        wrjpgcomStreams capacity fuel infn outfn comment keepCOM = some finish →
        finish.Complete) ↔
      OpensNothing infn outfn comment ∨ ScansForever infn outfn := by
  by_cases nothing : OpensNothing infn outfn comment
  · refine iff_of_true (fun fuel finish returned => ?_) (Or.inl nothing)
    obtain ⟨code, noInfile, noOutfile⟩ := wrjpgcomStreams_nothing nothing returned
    exact ⟨by simp [noInfile], by simp [noOutfile], fun success => absurd success code⟩
  by_cases endless : ScansForever infn outfn
  · exact iff_of_true (fun fuel finish returned =>
      absurd returned (wrjpgcomStreams_endless nothing endless)) (Or.inr endless)
  · refine iff_of_false (fun complete => ?_) (by simp [nothing, endless])
    obtain ⟨fuel, finish, returned⟩ :=
      @wrjpgcomStreams_returns capacity _ _ _ keepCOM nothing endless
    obtain ⟨data, opened⟩ := wrjpgcomStreams_infile nothing returned
    exact Finish.not_complete_of_open opened rfl (complete fuel finish returned)

/-- A commented file of fourteen bytes is empty on disk when the call returns 0. -/
theorem tablesFile_unflushed :
    ∃ finish, wrjpgcomStreams 511 9 (.opened tablesFile) (.opened ()) (some [0x68, 0x69]) false =
        some finish ∧
      finish.code = 0 ∧ finish.put.length = 14 ∧ finish.outfile.map Stream.disk = some [] ∧
      ¬finish.Complete := by
  refine ⟨_, rfl, rfl, rfl, rfl, ?_⟩
  exact Finish.not_complete_of_open rfl rfl

end RPhoto.Jpeg
