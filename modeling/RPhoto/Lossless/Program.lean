import RPhoto.Editing.SampleWorld
import RPhoto.Lossless.Composition
import RPhoto.Lossless.PictureKept
import RPhoto.Lossless.Switches

/-!
# The program and its two runs

`jpegtran` as RPhoto runs it, from its command line and the files to its exit status.
The input file is closed before the output file is opened, so both can be the same.
Reading the coefficients and markers of a file and writing them is left to a codec.

The tests of the transformation come before the output file is opened.  A script of scans
is read, and the scans are set up, after it.

`CallJPEGTranTryPerfect` takes every exit status but 0 for a failure and runs the
program a second time.  A failure before the output is opened leaves the file; but a
source that decodes with warnings ends with another status after it has been replaced,
and is transformed again.
-/

namespace RPhoto.Lossless

open RPhoto.Jpeg RPhoto.Library
open RPhoto.Editing (JpegtranCommand Attempt Env)

/-- The files, by their paths. -/
abbrev Files := FileStore Text Bytes

/-- What surrounds the transformations. -/
structure System where
  /-- `jpeg_read_header` and `jpeg_read_coefficients`: an image, and whether there were warnings. -/
  read : Bytes → Option (Image × Bool)
  /-- The script of `-progressive` or of a `-scans` file, if it can be read and is valid. -/
  script : Switches → Header → Option (List (List Nat))
  /-- The entropy coder and the markers copied from the source; nothing at an error. -/
  write : Switches → Bytes → Image → Option Bytes
  /-- What is in the output file when the program stops after opening it. -/
  stopped : Switches → Bytes → Bytes
  /-- Whether a file can be opened for writing. -/
  opens : Text → Bool
  /-- What the requested memory holds. -/
  memory : Nat → Plane Block

/-- The exit status. -/
inductive Exit where
  | success
  | failure
  | warning
  deriving DecidableEq

/-- The transformation options the switches set. -/
def Switches.option (switches : Switches) : TransformOption :=
  ⟨switches.transform, switches.perfect, switches.trim, switches.crop⟩

/-- The tests before the output file is opened. -/
def passesTests (option : TransformOption) (image : Image) : Bool :=
  decide (¬failsPerfect image.header option) &&
    ((requestWorkspace image.header.dimensions option).isSome &&
      decide (copiesCriticalParameters image))

/-- The second `parse_switches`, when the output file is open: it sets up the scans. -/
def System.scanInfo (system : System) (switches : Switches) (header : Header) :
    Option ScanInfo :=
  if switches.simpleProgressive ∨ switches.scansarg.isSome then
    (system.script switches header).map some
  else some none

/-- The image that reaches the entropy coder. -/
def System.turned (system : System) (switches : Switches) (image : Image) : Option Image :=
  (system.scanInfo switches image.header).bind fun scanInfo =>
    jpegtran switches.option scanInfo system.memory image

/-- What is written for an image, unless the program stops. -/
def System.encoded (system : System) (switches : Switches) (source : Bytes) (image : Image) :
    Option Bytes :=
  (system.turned switches image).bind (system.write switches source)

/-- What the program does with its input. -/
def System.transcode (system : System) (switches : Switches) (source : Bytes)
    (outfilename : Text) (files : Files) : Files × Exit :=
  match system.read source with
  | none => (files, .failure)
  | some (image, warned) =>
      if passesTests switches.option image && system.opens outfilename then
        -- from here on the output file has been emptied
        match system.encoded switches source image with
        | none => (files.write outfilename (system.stopped switches source), .failure)
        | some data => (files.write outfilename data, if warned then .warning else .success)
      else (files, .failure)

/-- `main`, with an input and an output file named. -/
def System.main (system : System) (args : List Text) (files : Files) : Files × Exit :=
  match parseSwitches args .initial with
  | some (switches, [input]) =>
      match switches.outfilename, files.content input with
      | some outfilename, some source => system.transcode switches source outfilename files
      | _, _ => (files, .failure)
  | _ => (files, .failure)

/-- `subCallJPEGTran`: whether the program ends with status 0. -/
def System.subCallJPEGTran (system : System) (attempt : Attempt) (command : JpegtranCommand)
    (filename : Text) (files : Files) : Files × Bool :=
  let ran := system.main (commandLine attempt command filename) files
  (ran.1, ran.2 = .success)

/-- The two runs of `CallJPEGTranTryPerfect`. -/
def System.tryPerfect (system : System) (command : JpegtranCommand) (filename : Text)
    (files : Files) : Files × Bool :=
  let (files, rc) := system.subCallJPEGTran .perfect command filename files
  if rc then (files, true) else system.subCallJPEGTran .trim command filename files

/-- What becomes of the source, if it can be read and transformed. -/
def System.transformed (system : System) (switches : Switches) (source : Bytes) :
    Option (Image × Bool) :=
  (system.read source).bind fun found =>
    (system.turned switches found.1).map fun result => (result, found.2)

/-- One run as the frame sees it: what it writes, if it succeeds. -/
def System.jpegtran (system : System) (filename : Text) (attempt : Attempt)
    (command : JpegtranCommand) (data : Bytes) : Option Bytes :=
  (parseSwitches (commandLine attempt command filename) .initial).bind fun parsed =>
    (system.read data).bind fun found => system.encoded parsed.1 data found.1

/-- Only the command for a progressive file has a script. -/
theorem turned_commandSwitches {command : JpegtranCommand} (sequential : command ≠ .progressive)
    (system : System) (attempt : Attempt) (filename : Text) (image : Image) :
    system.turned (commandSwitches attempt command filename) image =
      jpegtran (commandSwitches attempt command filename).option none system.memory image := by
  unfold System.turned System.scanInfo
  rw [if_neg]
  · rfl
  · rintro (progressive | scans)
    · exact sequential (of_decide_eq_true progressive)
    · cases scans

/-- A file written for this source, transformed, decodes silently to the same picture. -/
def System.Rereads (system : System) (switches : Switches) (source : Bytes) : Prop :=
  ∀ result warned, system.transformed switches source = some (result, warned) →
    ∃ output reread, system.write switches source result = some output ∧
      system.read output = some (reread, false) ∧ SamePicture result reread

/-! ## A small system -/

/-- A picture of 16 by 16 pixels. -/
def wholeImage : Image :=
  { sampleImage with
    header := { sampleImage.header with imageHeight := 16 }
    setUp := by decide }

def sampleMemory : Nat → Plane Block := fun _ _ _ _ _ => 9

/-- Commands, and the options of their attempts. -/
def sampleCommands : List JpegtranCommand := [.rotate90, .rotate270, .crop ⟨8, 2, 6, 4⟩]

def sampleOptions : List TransformOption :=
  sampleCommands.flatMap fun command =>
    [(commandSwitches .perfect command []).option, (commandSwitches .trim command []).option]

/-- An option as a byte of a file. -/
def sampleCode (option : TransformOption) : UInt8 := .ofNat (sampleOptions.idxOf option)

def sampleOption (code : UInt8) : TransformOption :=
  sampleOptions.getD code.toNat (.only .none)

/-- The picture after the steps listed in a file, the last one first. -/
def sampleTurns (first : Image) : Bytes → Option Image
  | [] => some first
  | code :: rest =>
      (sampleTurns first rest).bind (jpegtran (sampleOption code) none sampleMemory)

/-- A file lists the steps its picture has gone through; the first has warnings or not. -/
def sampleSystem (first : Image) (warned : Bool) : System where
  read := fun data => (sampleTurns first data).map fun image => (image, data = [] && warned)
  script := fun _ _ => none
  write := fun switches source _ => some (sampleCode switches.option :: source)
  stopped := fun _ _ => []
  opens := fun _ => true
  memory := sampleMemory

def sampleFiles : Files :=
  .ofContent fun name => if name = "/tmp/rphoto".toList then some [] else none

theorem wholeImage_whole : wholeImage.header.Whole := by
  refine ⟨?_, ?_⟩ <;> decide +kernel

theorem sampleSystem_rereads (first : Image) (warned : Bool) {command : JpegtranCommand}
    (known : command ∈ sampleCommands) (attempt : Attempt) (filename : Text)
    (source : Bytes) :
    (sampleSystem first warned).Rereads (commandSwitches attempt command filename) source := by
  intro result flag found
  obtain ⟨⟨image, flag⟩, read, mapped⟩ := Option.bind_eq_some_iff.mp found
  obtain ⟨_, turned, same⟩ := Option.map_eq_some_iff.mp read
  cases same
  obtain ⟨_, ran, same⟩ := Option.map_eq_some_iff.mp mapped
  cases same
  have sequential : command ≠ .progressive := by
    rintro rfl
    exact absurd known (by decide)
  rw [turned_commandSwitches sequential] at ran
  have listed : sampleOption (sampleCode (commandSwitches attempt command filename).option) =
      (commandSwitches attempt command filename).option := by
    simp only [sampleCommands, List.mem_cons, List.not_mem_nil, or_false] at known
    rcases known with rfl | rfl | rfl <;> cases attempt <;> rfl
  have next : sampleTurns first
      (sampleCode (commandSwitches attempt command filename).option :: source) = some result := by
    rw [sampleTurns, turned, Option.bind_some, listed]
    exact ran
  refine ⟨_, result, rfl, ?_, rfl, fun _ _ => rfl, fun _ _ _ _ _ _ => rfl⟩
  change (sampleTurns first _).map _ = _
  rw [next]
  rfl

/-! ## What the tests let through -/

variable {system : System} {image : Image} {option : TransformOption}

theorem passesTests_iff : passesTests option image = true ↔ ∃ info, Accepts image option info := by
  unfold passesTests
  rw [Bool.and_eq_true, Bool.and_eq_true, decide_eq_true_iff, decide_eq_true_iff,
    Option.isSome_iff_exists]
  constructor
  · rintro ⟨perfect, ⟨info, region⟩, tables⟩
    exact ⟨info, perfect, region, tables⟩
  · rintro ⟨info, accepts⟩
    exact ⟨accepts.perfect, ⟨info, accepts.region⟩, accepts.tables⟩

/-- The transformation itself never fails once the output file has been opened. -/
theorem passesTests_eq_isSome (memory : Nat → Plane Block) :
    passesTests option image = (jtransform option memory image).isSome := by
  refine Bool.eq_iff_iff.mpr (passesTests_iff.trans ?_)
  rw [Option.isSome_iff_exists]
  constructor
  · rintro ⟨info, accepts⟩
    obtain ⟨result, ran, -⟩ := accepts.turns memory
    exact ⟨result, ran⟩
  · rintro ⟨result, ran⟩
    exact accepts_of_jtransform ran

/-- What reaches the entropy coder has passed the tests. -/
theorem passesTests_of_turned {switches : Switches} {result : Image}
    (turned : system.turned switches image = some result) :
    passesTests switches.option image = true := by
  obtain ⟨scanInfo, -, ran⟩ := Option.bind_eq_some_iff.mp turned
  rw [passesTests_eq_isSome system.memory, (jpegtran_eq_some.mp ran).1]
  rfl

/-- A source that is transformed is written to the output file, if it can be opened. -/
theorem transcode_of_transformed {switches : Switches} {source : Bytes} {result : Image}
    {warned : Bool} (found : system.transformed switches source = some (result, warned))
    {output : Bytes} (written : system.write switches source result = some output)
    {outfilename : Text} (opens : system.opens outfilename = true) (files : Files) :
    system.transcode switches source outfilename files =
      (files.write outfilename output, if warned then .warning else .success) := by
  obtain ⟨⟨image, warnings⟩, decodes, mapped⟩ := Option.bind_eq_some_iff.mp found
  obtain ⟨_, turned, same⟩ := Option.map_eq_some_iff.mp mapped
  cases same
  unfold System.transcode System.encoded
  rw [decodes]
  dsimp only
  rw [passesTests_of_turned turned, opens, turned, Option.bind_some, written]
  rfl

/-- A source that fails one of the tests leaves the files as they were. -/
theorem transcode_of_refused {switches : Switches} {source : Bytes} {warned : Bool}
    (decodes : system.read source = some (image, warned))
    (refused : passesTests switches.option image = false) (outfilename : Text) (files : Files) :
    system.transcode switches source outfilename files = (files, .failure) := by
  unfold System.transcode
  rw [decodes]
  dsimp only
  rw [refused]
  rfl

/--
A run that has passed its tests and opened its output file, and stops then: a script
cannot be read or is not valid, a scan cannot be set up, or the entropy coder gives up.
-/
structure System.StopsLate (system : System) (switches : Switches) (source : Bytes)
    (outfilename : Text) (image : Image) (files after : Files) : Prop where
  decodes : ∃ warned, system.read source = some (image, warned)
  passes : passesTests switches.option image = true
  opens : system.opens outfilename = true
  stops : system.encoded switches source image = none
  changed : after = files.write outfilename (system.stopped switches source)

/-- A failing run has touched no file, or has stopped after opening its output. -/
theorem failing_transcode (switches : Switches) (source : Bytes) (outfilename : Text)
    (files : Files)
    (failed : (system.transcode switches source outfilename files).2 = .failure) :
    (system.transcode switches source outfilename files).1 = files ∨
      ∃ image, system.StopsLate switches source outfilename image files
        (system.transcode switches source outfilename files).1 := by
  unfold System.transcode at failed ⊢
  cases decodes : system.read source with
  | none => exact .inl rfl
  | some found =>
      obtain ⟨image, warned⟩ := found
      rw [decodes] at failed
      dsimp only at failed ⊢
      split at failed
      · rename_i begun
        obtain ⟨passes, opens⟩ := Bool.and_eq_true_iff.mp begun
        rw [if_pos begun]
        cases written : system.encoded switches source image with
        | none => exact .inr ⟨image, ⟨warned, decodes⟩, passes, opens, written, rfl⟩
        | some data =>
            rw [written] at failed
            cases warned <;> cases failed
      · rename_i refused
        rw [if_neg refused]
        exact .inl rfl

/-- A command line that names a script of scans, which is looked for too late. -/
def scriptLine : List Text :=
  ["-outfile".toList, "/tmp/rphoto".toList, "-scans".toList, "/tmp/none".toList,
    "/tmp/rphoto".toList]

section Runs

variable {command : JpegtranCommand} {filename : Text} {files : Files} {data : Bytes}

/-- What a run of RPhoto's leaves, by what becomes of the file's image. -/
theorem subCallJPEGTran_eq (attempt : Attempt) (selects : Selects command)
    (begins : Begins command) (named : filename.head? ≠ some '-')
    (present : files.content filename = some data) :
    system.subCallJPEGTran attempt command filename files =
      let ran := system.transcode (commandSwitches attempt command filename) data filename files
      (ran.1, decide (ran.2 = .success)) := by
  have parsed := (parseSwitches_commandLine attempt selects named).1 begins
  unfold System.subCallJPEGTran System.main
  rw [parsed]
  dsimp only [commandSwitches]
  rw [present]

/-- An image of this source that passes the tests is written. -/
def System.Encodes (system : System) (switches : Switches) (source : Bytes) : Prop :=
  ∀ image warned, system.read source = some (image, warned) →
    passesTests switches.option image = true →
      ∃ output, system.encoded switches source image = some output

/-- A run on a file that decodes without warnings fails or succeeds as a whole. -/
theorem subCallJPEGTran_quiet (attempt : Attempt) (selects : Selects command)
    (named : filename.head? ≠ some '-') (present : files.content filename = some data)
    (quiet : ∀ found, system.read data = some found → found.2 = false)
    (opens : system.opens filename = true)
    (encodes : system.Encodes (commandSwitches attempt command filename) data) :
    system.subCallJPEGTran attempt command filename files =
      match system.jpegtran filename attempt command data with
      | some output => (files.write filename output, true)
      | none => (files, false) := by
  obtain ⟨inside, outside⟩ := parseSwitches_commandLine attempt selects named
  unfold System.jpegtran
  by_cases begins : Begins command
  · rw [subCallJPEGTran_eq attempt selects begins named present, inside begins, Option.bind_some]
    unfold System.transcode
    cases decodes : system.read data with
    | none => rfl
    | some found =>
        obtain ⟨image, warned⟩ := found
        obtain rfl : warned = false := quiet _ decodes
        rw [Option.bind_some]
        dsimp only
        cases passes : passesTests (commandSwitches attempt command filename).option image with
        | false =>
            have refused : system.encoded (commandSwitches attempt command filename) data image =
                none := by
              by_contra written
              obtain ⟨output, written⟩ := Option.ne_none_iff_exists'.mp written
              obtain ⟨result, turned, -⟩ := Option.bind_eq_some_iff.mp written
              exact Bool.false_ne_true (passes.symm.trans (passesTests_of_turned turned))
            rw [refused]
            rfl
        | true =>
            obtain ⟨output, written⟩ := encodes image false decodes passes
            rw [opens, written]
            rfl
  · rw [outside begins]
    unfold System.subCallJPEGTran System.main
    rw [outside begins]
    rfl

/--
What the frame takes jpegtran for: on a file that decodes without warnings the two runs
leave the output of the first one that succeeds, or the file as it was.
-/
theorem tryPerfect_output {env : Env} (runs : env.jpegtran = system.jpegtran filename)
    (selects : Selects command) (named : filename.head? ≠ some '-')
    (present : files.content filename = some data)
    (quiet : ∀ found, system.read data = some found → found.2 = false)
    (opens : system.opens filename = true)
    (encodes : ∀ attempt, system.Encodes (commandSwitches attempt command filename) data) :
    system.tryPerfect command filename files =
      match Editing.jpegtranOutput env command (some data) with
      | some output => (files.write filename output, true)
      | none => (files, false) := by
  have run := fun attempt => subCallJPEGTran_quiet attempt selects named present quiet opens
    (encodes attempt)
  unfold System.tryPerfect Editing.jpegtranOutput
  rw [Option.bind_some, runs, run .perfect]
  cases system.jpegtran filename .perfect command data with
  | some output => rfl
  | none => exact run .trim

/-- What a source that can be coded in a single scan becomes, when it passes the tests. -/
theorem transformed_of_accepts (sequential : command ≠ .progressive) {attempt : Attempt}
    {warned : Bool} {info : TransformInfo} (decodes : system.read data = some (image, warned))
    (fits : image.header.Fits none)
    (accepts : Accepts image (commandSwitches attempt command filename).option info) :
    ∃ result,
      system.transformed (commandSwitches attempt command filename) data =
        some (result, warned) ∧
      Turned (commandTransform command) info image result := by
  obtain ⟨result, ran, turns⟩ := accepts.turns system.memory
  refine ⟨result, ?_, turns⟩
  unfold System.transformed
  rw [decodes, Option.bind_some, turned_commandSwitches sequential]
  dsimp only
  rw [jpegtran_eq_some.mpr ⟨ran, turns.header ▸ fits.adjust _ _⟩]
  rfl

theorem System.Rereads.encodes (sequential : command ≠ .progressive) {attempt : Attempt}
    {warned : Bool} (decodes : system.read data = some (image, warned))
    (fits : image.header.Fits none)
    (rereads : system.Rereads (commandSwitches attempt command filename) data) :
    system.Encodes (commandSwitches attempt command filename) data := by
  intro other flag found passes
  cases decodes.symm.trans found
  obtain ⟨info, accepts⟩ := passesTests_iff.mp passes
  obtain ⟨result, turned, -⟩ := transformed_of_accepts sequential decodes fits accepts
  obtain ⟨output, -, written, -⟩ := rereads result warned turned
  obtain ⟨_, same, mapped⟩ := Option.bind_eq_some_iff.mp turned
  cases decodes.symm.trans same
  obtain ⟨_, reached, same⟩ := Option.map_eq_some_iff.mp mapped
  cases same
  exact ⟨output, Option.bind_eq_some_iff.mpr ⟨result, reached, written⟩⟩

/-- A run that passes its tests replaces the file, with an exit status of its own. -/
theorem subCallJPEGTran_accepts (selects : Selects command) (begins : Begins command)
    (sequential : command ≠ .progressive) (named : filename.head? ≠ some '-')
    (present : files.content filename = some data) (opens : system.opens filename = true)
    {attempt : Attempt} {warned : Bool} {info : TransformInfo}
    (decodes : system.read data = some (image, warned)) (fits : image.header.Fits none)
    (accepts : Accepts image (commandSwitches attempt command filename).option info)
    (rereads : system.Rereads (commandSwitches attempt command filename) data) :
    ∃ output result reread,
      system.subCallJPEGTran attempt command filename files =
        (files.write filename output, !warned) ∧
      system.jpegtran filename attempt command data = some output ∧
      Turned (commandTransform command) info image result ∧
      system.read output = some (reread, false) ∧ SamePicture result reread := by
  obtain ⟨result, turned, turns⟩ := transformed_of_accepts sequential decodes fits accepts
  obtain ⟨output, reread, written, read, same⟩ := rereads result warned turned
  refine ⟨output, result, reread, ?_, ?_, turns, read, same⟩
  · rw [subCallJPEGTran_eq attempt selects begins named present,
      transcode_of_transformed turned written opens]
    cases warned <;> rfl
  · obtain ⟨_, found, mapped⟩ := Option.bind_eq_some_iff.mp turned
    cases decodes.symm.trans found
    obtain ⟨_, reached, same⟩ := Option.map_eq_some_iff.mp mapped
    cases same
    refine Option.bind_eq_some_iff.mpr
      ⟨_, (parseSwitches_commandLine attempt selects named).1 begins, ?_⟩
    exact Option.bind_eq_some_iff.mpr
      ⟨_, decodes, Option.bind_eq_some_iff.mpr ⟨result, reached, written⟩⟩

/-! ## Rotations and flips -/

/-- A command of the buttons for rotations and flips. -/
def Turns (command : JpegtranCommand) : Prop := commandTransform command ≠ .none

instance (command : JpegtranCommand) : Decidable (Turns command) :=
  inferInstanceAs (Decidable (_ ≠ _))

theorem Turns.plain (turns : Turns command) :
    (Selects command ∧ Begins command) ∧ command ≠ .progressive ∧ commandCrop command = none := by
  cases command with
  | crop zone => exact absurd rfl turns
  | optimize => exact absurd rfl turns
  | progressive => exact absurd rfl turns
  | _ => exact ⟨⟨trivial, trivial⟩, (fun same => nomatch same), rfl⟩

/-! ## Sources that decode with warnings -/

/--
A source of whole iMCUs that decodes with warnings is transformed by both runs: a
rotation turns it upside down, a flip gives it back as it was, and both are taken for a
success.
-/
theorem warned_twice (turns : Turns command) (named : filename.head? ≠ some '-')
    (present : files.content filename = some data) (opens : system.opens filename = true)
    (decodes : system.read data = some (image, true)) (tables : copiesCriticalParameters image)
    (fits : image.header.Fits none) (whole : image.header.Whole)
    (rereads : system.Rereads (commandSwitches .perfect command filename) data)
    (rereadsAgain : ∀ output, system.jpegtran filename .perfect command data = some output →
      system.Rereads (commandSwitches .trim command filename) output) :
    ∃ output twice direct,
      system.tryPerfect command filename files = (files.write filename output, true) ∧
      system.read output = some (twice, false) ∧
      jtransform (.only ((commandTransform command).andThen (commandTransform command)))
        system.memory image = some direct ∧
      SamePicture twice direct := by
  obtain ⟨⟨selects, begins⟩, sequential, uncroppedCommand⟩ := turns.plain
  obtain ⟨output, first, reread, ran, gives, turnsOnce, read, same⟩ :=
    subCallJPEGTran_accepts selects begins sequential named present opens decodes fits
      (whole.accepts uncroppedCommand tables) rereads
  have header : reread.header = adjustParameters image.header (commandTransform command)
      (uncropped image.header.dimensions (commandTransform command)) :=
    same.header.symm.trans turnsOnce.header
  have wholeAgain : reread.header.Whole := header ▸ whole.adjust (commandTransform command)
  obtain ⟨final, second, twice, ranAgain, -, turnsAgain, readAgain, sameAgain⟩ :=
    subCallJPEGTran_accepts selects begins sequential named
      (files.content_write_self filename output) opens read (header ▸ fits.adjust _ _)
      (wholeAgain.accepts uncroppedCommand (same.tables tables turnsOnce))
      (rereadsAgain output gives)
  obtain ⟨direct, ranDirect, turnsDirect⟩ := turns_only tables
    ((commandTransform command).andThen (commandTransform command)) system.memory
  refine ⟨final, twice, direct, ?_, readAgain, ranDirect,
    sameAgain.symm.trans (composed_picture turnsOnce same turnsAgain turnsDirect)⟩
  unfold System.tryPerfect
  rw [ran]
  simp only [Bool.not_true, Bool.false_eq_true, if_false]
  rw [ranAgain, files.write_write]
  rfl

theorem warned_twice_sample :
    ∃ output twice direct,
      (sampleSystem wholeImage true).tryPerfect .rotate90 "/tmp/rphoto".toList sampleFiles =
        (sampleFiles.write "/tmp/rphoto".toList output, true) ∧
      (sampleSystem wholeImage true).read output = some (twice, false) ∧
      jtransform (.only (Transform.rot90.andThen .rot90)) sampleMemory wholeImage =
        some direct ∧
      SamePicture twice direct :=
  @warned_twice (sampleSystem wholeImage true) wholeImage .rotate90 "/tmp/rphoto".toList
    sampleFiles [] (by decide) (by decide) (by decide +kernel) rfl rfl (by decide +kernel)
    (by decide) wholeImage_whole
    (sampleSystem_rereads wholeImage true (by decide) .perfect _ _)
    fun output _ => sampleSystem_rereads wholeImage true (by decide) .trim _ output

end Runs

end RPhoto.Lossless
