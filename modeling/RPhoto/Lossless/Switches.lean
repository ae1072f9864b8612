import RPhoto.Editing.Frame
import RPhoto.Lossless.CropText

/-!
# The command line of jpegtran

`parse_switches` reads switches whose names may be abbreviated down to a number of
characters given with each test.  The tests are made one after the other, and the
abbreviations are long enough for their order not to matter.  RPhoto's arguments are
read as it means them.
-/

namespace RPhoto.Lossless

open RPhoto.Jpeg RPhoto.Tracker
open RPhoto.Editing (JpegtranCommand Attempt)

/-- The characters of the argument found in the keyword, if the argument is a prefix. -/
def matchedChars : Text → Text → Option Nat
  | [], _ => some 0
  | _ :: _, [] => none
  | ca :: arg, ck :: keyword =>
      if ca.toLower = ck then (matchedChars arg keyword).map (· + 1) else none

/-- `keymatch`: a prefix of the keyword, in either case, long enough to be unique. -/
def keymatch (arg keyword : Text) (minchars : Nat) : Bool :=
  match matchedChars arg keyword with
  | some nmatched => decide (minchars ≤ nmatched)
  | none => false

/-- The switches of `parse_switches`. -/
inductive Switch where
  | arithmetic
  | copy
  | crop
  | debug
  | flip
  | grayscale
  | maxmemory
  | optimize
  | outfile
  | perfect
  | progressive
  | restart
  | rotate
  | scans
  | transpose
  | transverse
  | trim
  deriving DecidableEq

/-- A test of an argument against a keyword. -/
structure Test (α : Type) where
  meaning : α
  keyword : Text
  minchars : Nat

/-- The first test that succeeds. -/
def firstMatch {α : Type} (tests : List (Test α)) (arg : Text) : Option α :=
  (tests.find? fun test => keymatch arg test.keyword test.minchars).map Test.meaning

/-- The tests of `parse_switches`, in their order. -/
def switchTests : List (Test Switch) :=
  [⟨.arithmetic, "arithmetic".toList, 1⟩, ⟨.copy, "copy".toList, 2⟩, ⟨.crop, "crop".toList, 2⟩,
    ⟨.debug, "debug".toList, 1⟩, ⟨.debug, "verbose".toList, 1⟩, ⟨.flip, "flip".toList, 1⟩,
    ⟨.grayscale, "grayscale".toList, 1⟩, ⟨.grayscale, "greyscale".toList, 1⟩,
    ⟨.maxmemory, "maxmemory".toList, 3⟩, ⟨.optimize, "optimize".toList, 1⟩,
    ⟨.optimize, "optimise".toList, 1⟩, ⟨.outfile, "outfile".toList, 4⟩,
    ⟨.perfect, "perfect".toList, 2⟩, ⟨.progressive, "progressive".toList, 2⟩,
    ⟨.restart, "restart".toList, 1⟩, ⟨.rotate, "rotate".toList, 2⟩, ⟨.scans, "scans".toList, 1⟩,
    ⟨.transpose, "transpose".toList, 1⟩, ⟨.transverse, "transverse".toList, 6⟩,
    ⟨.trim, "trim".toList, 3⟩]

/-- `JCOPY_OPTION`. -/
inductive CopyOption where
  | none
  | comments
  | all
  deriving DecidableEq

def copyTests : List (Test CopyOption) :=
  [⟨.none, "none".toList, 1⟩, ⟨.comments, "comments".toList, 1⟩, ⟨.all, "all".toList, 1⟩]

def flipTests : List (Test Transform) :=
  [⟨.flipH, "horizontal".toList, 1⟩, ⟨.flipV, "vertical".toList, 1⟩]

def rotateTests : List (Test Transform) :=
  [⟨.rot90, "90".toList, 2⟩, ⟨.rot180, "180".toList, 3⟩, ⟨.rot270, "270".toList, 3⟩]

/-- What the switches set. -/
structure Switches where
  outfilename : Option Text
  copyoption : CopyOption
  transform : Transform
  trim : Bool
  perfect : Bool
  forceGrayscale : Bool
  crop : Option CropSpec
  optimizeCoding : Bool
  simpleProgressive : Bool
  /-- The restart interval, in rows or in MCUs. -/
  restart : Option (Nat × Bool)
  scansarg : Option Text
  deriving DecidableEq

/-- The defaults set by `parse_switches`. -/
def Switches.initial : Switches where
  outfilename := none
  copyoption := .comments
  transform := .none
  trim := false
  perfect := false
  forceGrayscale := false
  crop := none
  optimizeCoding := false
  simpleProgressive := false
  restart := none
  scansarg := none

/-- `select_transform`: one image transformation at a time. -/
def selectTransform (transform : Transform) (switches : Switches) : Option Switches :=
  if switches.transform = .none ∨ switches.transform = transform then
    some { switches with transform }
  else none

/-- The characters `sscanf` skips. -/
def isSpace (ch : Char) : Bool :=
  ch = ' ' || ch = '\t' || ch = '\n' || ch = '\r' || ch.toNat = 11 || ch.toNat = 12

/-- `sscanf` with `%ld%c`, for numbers that fit; the character stays `x` at the end. -/
def scanLong (text : Text) : Option (Int × Char) :=
  let text := text.dropWhile isSpace
  let unsigned := if text.head? = some '-' ∨ text.head? = some '+' then text.tail else text
  let digits := unsigned.takeWhile Char.isDigit
  if digits = [] then none
  else
    let value : Int := Nat.ofDigitChars 10 digits 0
    some (if text.head? = some '-' then -value else value,
      (unsigned.dropWhile Char.isDigit).head?.getD 'x')

/-- The switches that take the next argument. -/
def takesArgument : Switch → Bool
  | .copy | .crop | .flip | .maxmemory | .outfile | .restart | .rotate | .scans => true
  | _ => false

/-- A switch with its argument; the result is nothing where the program ends. -/
def applyArgument (switch : Switch) (arg : Text) (switches : Switches) : Option Switches :=
  match switch with
  | .copy => (firstMatch copyTests arg).map fun copyoption => { switches with copyoption }
  | .crop => (jtransformParseCropSpec arg).map fun spec => { switches with crop := some spec }
  | .flip => (firstMatch flipTests arg).bind (selectTransform · switches)
  | .maxmemory => (scanLong arg).map fun _ => switches
  | .outfile => some { switches with outfilename := some arg }
  | .restart =>
      (scanLong arg).bind fun read =>
        if read.1 < 0 ∨ 65535 < read.1 then none
        else some { switches with restart := some (read.1.toNat, read.2 = 'b' || read.2 = 'B') }
  | .rotate => (firstMatch rotateTests arg).bind (selectTransform · switches)
  | .scans => some { switches with scansarg := some arg }
  | _ => none

/-- A switch without an argument. -/
def applySwitch (switch : Switch) (switches : Switches) : Option Switches :=
  match switch with
  | .debug => some switches
  | .grayscale => some { switches with forceGrayscale := true }
  | .optimize => some { switches with optimizeCoding := true }
  | .perfect => some { switches with perfect := true }
  | .progressive => some { switches with simpleProgressive := true }
  | .transpose => selectTransform .transpose switches
  | .transverse => selectTransform .transverse switches
  | .trim => some { switches with trim := true }
  -- arithmetic coding is not supported
  | _ => none

/-- The loop of `parse_switches`: the switches, and the arguments from the first file name. -/
def parseSwitches : List Text → Switches → Option (Switches × List Text)
  | [], switches => some (switches, [])
  | arg :: rest, switches =>
      if arg.head? = some '-' then
        match firstMatch switchTests arg.tail with
        | none => none
        | some switch =>
            if takesArgument switch then
              match rest with
              | [] => none
              | value :: rest => (applyArgument switch value switches).bind (parseSwitches rest)
            else (applySwitch switch switches).bind (parseSwitches rest)
      else some (switches, arg :: rest)

/-! ## The order of the tests -/

theorem matchedChars_eq_some {arg keyword : Text} {nmatched : Nat}
    (found : matchedChars arg keyword = some nmatched) :
    nmatched = arg.length ∧ arg.map Char.toLower <+: keyword := by
  induction arg generalizing keyword nmatched with
  | nil =>
      cases found
      exact ⟨rfl, List.nil_prefix⟩
  | cons ca arg ih =>
      cases keyword with
      | nil => cases found
      | cons ck keyword =>
          unfold matchedChars at found
          split at found
          · rename_i same
            obtain ⟨shorter, rest, rfl⟩ := Option.map_eq_some_iff.mp found
            obtain ⟨rfl, begins⟩ := ih rest
            refine ⟨rfl, ?_⟩
            rw [List.map_cons, same]
            exact List.cons_prefix_cons.mpr ⟨rfl, begins⟩
          · cases found

/-- A match begins the keyword with at least the characters asked for. -/
theorem take_of_keymatch {arg keyword : Text} {minchars : Nat}
    (found : keymatch arg keyword minchars = true) :
    minchars ≤ arg.length ∧ ∀ count ≤ arg.length,
      keyword.take count = (arg.map Char.toLower).take count := by
  unfold keymatch at found
  split at found
  · rename_i nmatched counted
    obtain ⟨rfl, begins⟩ := matchedChars_eq_some counted
    refine ⟨of_decide_eq_true found, fun count within => ?_⟩
    obtain ⟨rest, rfl⟩ := begins
    exact List.take_append_of_le_length (by rw [List.length_map]; exact within)
  · cases found

/-- Tests whose keywords differ within the characters both ask for, or mean the same. -/
def Apart {α : Type} (tests : List (Test α)) : Prop :=
  ∀ first ∈ tests, ∀ second ∈ tests, first.meaning = second.meaning ∨
    first.keyword.take (max first.minchars second.minchars) ≠
      second.keyword.take (max first.minchars second.minchars)

instance {α : Type} [DecidableEq α] (tests : List (Test α)) : Decidable (Apart tests) :=
  inferInstanceAs (Decidable (∀ first ∈ tests, ∀ second ∈ tests, _ ∨ _))

/-- Two tests an argument passes mean the same. -/
theorem Apart.meaning {α : Type} {tests : List (Test α)} (apart : Apart tests) {arg : Text}
    {first second : Test α} (known : first ∈ tests) (also : second ∈ tests)
    (matchesFirst : keymatch arg first.keyword first.minchars = true)
    (matchesSecond : keymatch arg second.keyword second.minchars = true) :
    first.meaning = second.meaning := by
  obtain ⟨long, begins⟩ := take_of_keymatch matchesFirst
  obtain ⟨longer, alsoBegins⟩ := take_of_keymatch matchesSecond
  rcases apart first known second also with same | differ
  · exact same
  · have within := Nat.max_le.mpr ⟨long, longer⟩
    exact absurd ((begins _ within).trans (alsoBegins _ within).symm) differ

/-- Tests that are apart can be made in any order. -/
theorem Apart.firstMatch_perm {α : Type} {tests other : List (Test α)} (apart : Apart tests)
    (order : other.Perm tests) (arg : Text) : firstMatch other arg = firstMatch tests arg := by
  unfold firstMatch
  cases here : tests.find? fun test => keymatch arg test.keyword test.minchars with
  | none =>
      rw [List.find?_eq_none.mpr fun test known =>
        List.find?_eq_none.mp here test (order.mem_iff.mp known)]
  | some test =>
      have known := List.mem_of_find?_eq_some here
      have passes := List.find?_some here
      cases there : other.find? fun test => keymatch arg test.keyword test.minchars with
      | none => exact absurd passes (List.find?_eq_none.mp there test (order.mem_iff.mpr known))
      | some found =>
          have alsoPasses := List.find?_some there
          exact congrArg some (apart.meaning (order.mem_iff.mp (List.mem_of_find?_eq_some there))
            known alsoPasses passes)

theorem switchTests_apart : Apart switchTests := by decide +kernel

theorem valueTests_apart : Apart copyTests ∧ Apart flipTests ∧ Apart rotateTests := by decide

/-- No abbreviation is ambiguous: the tests could be made in any order. -/
theorem switches_in_any_order {tests : List (Test Switch)} (order : tests.Perm switchTests)
    (arg : Text) : firstMatch tests arg = firstMatch switchTests arg :=
  switchTests_apart.firstMatch_perm order arg

theorem switches_in_any_order_sample :
    firstMatch switchTests.reverse "TRANSV".toList = firstMatch switchTests "TRANSV".toList :=
  switches_in_any_order (List.reverse_perm switchTests) "TRANSV".toList

/-! ## The arguments RPhoto passes -/

/-- The text of a command, as the handlers of the image menu write it, cut at its blank. -/
def commandWords : JpegtranCommand → List Text
  | .crop zone => ["-crop".toList, cropArgument zone]
  | .rotate270 => ["-rotate".toList, "270".toList]
  | .rotate90 => ["-rotate".toList, "90".toList]
  | .flipHorizontal => ["-flip".toList, "horizontal".toList]
  | .flipVertical => ["-flip".toList, "vertical".toList]
  | .optimize => ["-optimize".toList]
  | .progressive => ["-progressive".toList]

def attemptWord : Attempt → Text
  | .perfect => "-perfect".toList
  | .trim => "-trim".toList

/-- The command line of `subCallJPEGTran`, after the path of the program. -/
def commandLine (attempt : Attempt) (command : JpegtranCommand) (filename : Text) : List Text :=
  ["-copy".toList, "all".toList, attemptWord attempt] ++ commandWords command ++
    ["-outfile".toList, filename, filename]

/-- The transformation a command asks for. -/
def commandTransform : JpegtranCommand → Transform
  | .rotate270 => .rot270
  | .rotate90 => .rot90
  | .flipHorizontal => .flipH
  | .flipVertical => .flipV
  | .crop _ | .optimize | .progressive => .none

/-- The crop region a command asks for. -/
def commandCrop : JpegtranCommand → Option CropSpec
  | .crop zone => some (.ofRect zone)
  | _ => none

/-- What a command means to set. -/
def commandSwitches (attempt : Attempt) (command : JpegtranCommand) (filename : Text) :
    Switches :=
  { Switches.initial with
    outfilename := some filename
    copyoption := .all
    transform := commandTransform command
    perfect := attempt = .perfect
    trim := attempt = .trim
    crop := commandCrop command
    optimizeCoding := command = .optimize
    simpleProgressive := command = .progressive }

/-- The selection of a crop is one `OnImageCrop` passes on, with numbers that are `int`. -/
def Selects : JpegtranCommand → Prop
  | .crop zone =>
      (0 < zone.width ∧ zone.width < 2 ^ 31) ∧ (0 < zone.height ∧ zone.height < 2 ^ 31) ∧
        zone.x < 2 ^ 31 ∧ zone.y < 2 ^ 31
  | _ => True

/-- The selection begins inside the picture. -/
def Begins : JpegtranCommand → Prop
  | .crop zone => 0 ≤ zone.x ∧ 0 ≤ zone.y
  | _ => True

section Reading

variable {arg value filename : Text} {rest : List Text} {switch : Switch} {switches : Switches}

theorem parseSwitches_argument (marked : arg.head? = some '-')
    (named : firstMatch switchTests arg.tail = some switch)
    (takes : takesArgument switch = true) :
    parseSwitches (arg :: value :: rest) switches =
      (applyArgument switch value switches).bind (parseSwitches rest) := by
  rw [parseSwitches.eq_def]
  dsimp only
  rw [if_pos marked, named]
  dsimp only
  rw [if_pos takes]

theorem parseSwitches_switch (marked : arg.head? = some '-')
    (named : firstMatch switchTests arg.tail = some switch)
    (alone : takesArgument switch = false) :
    parseSwitches (arg :: rest) switches =
      (applySwitch switch switches).bind (parseSwitches rest) := by
  rw [parseSwitches.eq_def]
  dsimp only
  rw [if_pos marked, named]
  dsimp only
  rw [if_neg (by rw [alone]; exact Bool.false_ne_true)]

/-- The name of a file is where the switches end. -/
theorem parseSwitches_file (named : filename.head? ≠ some '-') :
    parseSwitches ["-outfile".toList, filename, filename] switches =
      some ({ switches with outfilename := some filename }, [filename]) := by
  rw [@parseSwitches_argument _ _ _ .outfile switches rfl (by decide +kernel) rfl]
  change parseSwitches [filename] _ = _
  unfold parseSwitches
  rw [if_neg named]

/-- What `subCallJPEGTran` and `CallJPEGTranTryPerfect` put before a command. -/
theorem parseSwitches_attempt (attempt : Attempt) :
    parseSwitches ("-copy".toList :: "all".toList :: attemptWord attempt :: rest) .initial =
      parseSwitches rest
        { Switches.initial with
          copyoption := .all
          perfect := attempt = .perfect
          trim := attempt = .trim } := by
  rw [@parseSwitches_argument _ _ _ .copy _ rfl (by decide +kernel) rfl]
  change parseSwitches (attemptWord attempt :: rest) _ = _
  cases attempt with
  | perfect =>
      rw [@parseSwitches_switch _ _ .perfect _ rfl (by decide +kernel) rfl]
      rfl
  | trim =>
      rw [@parseSwitches_switch _ _ .trim _ rfl (by decide +kernel) rfl]
      rfl

theorem parseSwitches_rotate (plain : switches.transform = .none) {transform : Transform}
    (named : firstMatch rotateTests value = some transform) :
    parseSwitches ("-rotate".toList :: value :: rest) switches =
      parseSwitches rest { switches with transform } := by
  rw [@parseSwitches_argument _ _ _ .rotate _ rfl (by decide +kernel) rfl]
  unfold applyArgument
  dsimp only
  rw [named, Option.bind_some]
  unfold selectTransform
  rw [if_pos (.inl plain), Option.bind_some]

theorem parseSwitches_flip (plain : switches.transform = .none) {transform : Transform}
    (named : firstMatch flipTests value = some transform) :
    parseSwitches ("-flip".toList :: value :: rest) switches =
      parseSwitches rest { switches with transform } := by
  rw [@parseSwitches_argument _ _ _ .flip _ rfl (by decide +kernel) rfl]
  unfold applyArgument
  dsimp only
  rw [named, Option.bind_some]
  unfold selectTransform
  rw [if_pos (.inl plain), Option.bind_some]

end Reading

/--
jpegtran reads RPhoto's command line as the command means it, and refuses it for a
selection that begins outside the picture.
-/
theorem parseSwitches_commandLine (attempt : Attempt) {command : JpegtranCommand}
    {filename : Text} (selects : Selects command) (named : filename.head? ≠ some '-') :
    (Begins command →
      parseSwitches (commandLine attempt command filename) .initial =
        some (commandSwitches attempt command filename, [filename])) ∧
    (¬Begins command → parseSwitches (commandLine attempt command filename) .initial = none) := by
  unfold commandLine
  simp only [List.cons_append, List.nil_append]
  rw [parseSwitches_attempt]
  cases command with
  | crop zone =>
      obtain ⟨width, height, x, y⟩ := selects
      unfold commandWords
      simp only [List.cons_append, List.nil_append]
      rw [@parseSwitches_argument _ _ _ .crop _ rfl (by decide +kernel) rfl]
      unfold applyArgument
      dsimp only
      rw [parseCropSpec_cropArgument ⟨Int.le_of_lt width.1, width.2⟩
        ⟨Int.le_of_lt height.1, height.2⟩ x y]
      refine ⟨fun (begins : 0 ≤ zone.x ∧ 0 ≤ zone.y) => ?_,
        fun (outside : ¬(0 ≤ zone.x ∧ 0 ≤ zone.y)) => ?_⟩
      · rw [if_pos begins, Option.map_some, Option.bind_some, parseSwitches_file named]
        rfl
      · rw [if_neg outside]
        rfl
  | rotate270 =>
      refine ⟨fun _ => ?_, fun never => absurd trivial never⟩
      unfold commandWords
      simp only [List.cons_append, List.nil_append]
      rw [parseSwitches_rotate rfl (by decide : firstMatch rotateTests _ = some .rot270),
        parseSwitches_file named]
      rfl
  | rotate90 =>
      refine ⟨fun _ => ?_, fun never => absurd trivial never⟩
      unfold commandWords
      simp only [List.cons_append, List.nil_append]
      rw [parseSwitches_rotate rfl (by decide : firstMatch rotateTests _ = some .rot90),
        parseSwitches_file named]
      rfl
  | flipHorizontal =>
      refine ⟨fun _ => ?_, fun never => absurd trivial never⟩
      unfold commandWords
      simp only [List.cons_append, List.nil_append]
      rw [parseSwitches_flip rfl (by decide : firstMatch flipTests _ = some .flipH),
        parseSwitches_file named]
      rfl
  | flipVertical =>
      refine ⟨fun _ => ?_, fun never => absurd trivial never⟩
      unfold commandWords
      simp only [List.cons_append, List.nil_append]
      rw [parseSwitches_flip rfl (by decide : firstMatch flipTests _ = some .flipV),
        parseSwitches_file named]
      rfl
  | optimize =>
      refine ⟨fun _ => ?_, fun never => absurd trivial never⟩
      unfold commandWords
      simp only [List.cons_append, List.nil_append]
      rw [@parseSwitches_switch _ _ .optimize _ rfl (by decide +kernel) rfl]
      unfold applySwitch
      dsimp only
      rw [Option.bind_some, parseSwitches_file named]
      rfl
  | progressive =>
      refine ⟨fun _ => ?_, fun never => absurd trivial never⟩
      unfold commandWords
      simp only [List.cons_append, List.nil_append]
      rw [@parseSwitches_switch _ _ .progressive _ rfl (by decide +kernel) rfl]
      unfold applySwitch
      dsimp only
      rw [Option.bind_some, parseSwitches_file named]
      rfl

end RPhoto.Lossless
