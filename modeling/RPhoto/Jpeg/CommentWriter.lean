import RPhoto.Jpeg.Base64

/-!
# The comment writer

The functions of `src/src/wrjpgcom.inc`.  An error only prints a message, so the
end of the file keeps being returned as `EOF` and every caller goes on with it.
A loop that waits for a byte has fuel; without fuel there is no result.
-/

namespace RPhoto.Jpeg

/-- The bytes left to read from `infile`, and the bytes put to `outfile`. -/
structure Streams where
  infile : Bytes
  outfile : Bytes
deriving DecidableEq, Repr

/-- `EOF`. -/
def eof : Int := -1

/-- `NEXTBYTE`. -/
def nextByte (streams : Streams) : Int × Streams :=
  match streams.infile with
  | [] => (eof, streams)
  | byte :: rest => (byte.toNat, { streams with infile := rest })

/-- `PUTBYTE`; `putc` converts its argument to `unsigned char`. -/
def putByte (c : Int) (streams : Streams) : Streams :=
  { streams with outfile := streams.outfile ++ [UInt8.ofInt c] }

/-- `read_1_byte`. -/
def read1Byte (streams : Streams) : Int × Streams := nextByte streams

/-- `read_2_bytes`. -/
def read2Bytes (streams : Streams) : UInt32 × Streams :=
  let (c1, streams) := nextByte streams
  let (c2, streams) := nextByte streams
  ((UInt32.ofInt c1 <<< 8) + UInt32.ofInt c2, streams)

/-- `write_1_byte`. -/
def write1Byte (c : Int) (streams : Streams) : Streams := putByte c streams

/-- `write_2_bytes`. -/
def write2Bytes (val : UInt32) (streams : Streams) : Streams :=
  putByte (val &&& 0xFF).toNat (putByte ((val >>> 8) &&& 0xFF).toNat streams)

/-- `write_marker`. -/
def writeMarker (marker : Int) (streams : Streams) : Streams :=
  putByte marker (putByte 0xFF streams)

/-- `copy_rest_of_file`. -/
def copyRestOfFile (streams : Streams) : Streams :=
  ⟨[], streams.outfile ++ streams.infile⟩

/-- `M_SOF0` to `M_SOF15`; `C4`, `C8` and `CC` are not among them. -/
def sofMarkers : List Int :=
  [0xC0, 0xC1, 0xC2, 0xC3, 0xC5, 0xC6, 0xC7, 0xC9, 0xCA, 0xCB, 0xCD, 0xCE, 0xCF]

def markerSOI : Int := 0xD8

def markerEOI : Int := 0xD9

def markerSOS : Int := 0xDA

def markerCOM : Int := 0xFE

/-- The first loop of `next_marker`, with the byte it has read. -/
def skipGarbage : Nat → Int → Streams → Option Streams
  | 0, _, _ => none
  | fuel + 1, c, streams =>
      if c = 0xFF then some streams
      else
        let (c, streams) := read1Byte streams
        skipGarbage fuel c streams

/-- The second loop of `next_marker`. -/
def skipPadding : Nat → Streams → Option (Int × Streams)
  | 0, _ => none
  | fuel + 1, streams =>
      let (c, streams) := read1Byte streams
      if c = 0xFF then skipPadding fuel streams else some (c, streams)

/-- `next_marker`. -/
def nextMarker (fuel : Nat) (streams : Streams) : Option (Int × Streams) := do
  let (c, streams) := read1Byte streams
  let streams ← skipGarbage fuel c streams
  skipPadding fuel streams

/-- `first_marker`, which goes on when the file does not start with `FF D8`. -/
def firstMarker (streams : Streams) : Int × Streams :=
  let (_, streams) := nextByte streams
  nextByte streams

/-- The loop of `copy_variable`. -/
def copyBytes : Nat → Streams → Streams
  | 0, streams => streams
  | length + 1, streams =>
      let (c, streams) := read1Byte streams
      copyBytes length (write1Byte c streams)

/-- `copy_variable`; a length below 2 wraps around. -/
def copyVariable (streams : Streams) : Streams :=
  let (length, streams) := read2Bytes streams
  copyBytes (length - 2).toNat (write2Bytes length streams)

/-- The loop of `skip_variable`. -/
def skipBytes : Nat → Streams → Streams
  | 0, streams => streams
  | length + 1, streams => skipBytes length (read1Byte streams).2

/-- `skip_variable`. -/
def skipVariable (streams : Streams) : Streams :=
  let (length, streams) := read2Bytes streams
  skipBytes (length - 2).toNat streams

/-- The markers that end the scan. -/
def EndsScan (marker : Int) : Prop := marker ∈ sofMarkers ∨ marker = markerEOI

instance (marker : Int) : Decidable (EndsScan marker) := inferInstanceAs (Decidable (_ ∨ _))

/-- What the switch of `scan_JPEG_header` does with a marker that does not end the scan. -/
def passMarker (keepCOM : Bool) (marker : Int) (streams : Streams) : Streams :=
  if marker = markerSOS then streams
  else if marker = markerCOM then
    if keepCOM then copyVariable (writeMarker marker streams) else skipVariable streams
  else copyVariable (writeMarker marker streams)

/-- The loop of `scan_JPEG_header`. -/
def scanMarkers (keepCOM : Bool) : Nat → Streams → Option (Int × Streams)
  | 0, _ => none
  | fuel + 1, streams => do
      let (marker, streams) ← nextMarker fuel streams
      if EndsScan marker then some (marker, streams)
      else scanMarkers keepCOM fuel (passMarker keepCOM marker streams)

/-- `scan_JPEG_header`. -/
def scanJPEGHeader (fuel : Nat) (keepCOM : Bool) (streams : Streams) :
    Option (Int × Streams) :=
  scanMarkers keepCOM fuel (writeMarker markerSOI (firstMarker streams).2)

/-- The characters of a C string. -/
def cString (buffer : Bytes) : Bytes := buffer.takeWhile (· ≠ 0)

/-- The loop that puts the comment. -/
def writeText : Bytes → Streams → Streams
  | [], streams => streams
  | byte :: text, streams => writeText text (write1Byte byte.toNat streams)

/-- The comment segment, if there is a comment; the length is an `unsigned int`. -/
def insertComment (comment : Bytes) (streams : Streams) : Streams :=
  let commentLength := UInt32.ofNat (cString comment).length
  if 0 < commentLength then
    writeText ((cString comment).take commentLength.toNat)
      (write2Bytes (commentLength + 2) (writeMarker markerCOM streams))
  else streams

/-- A file name: `NULL`, a name that `fopen` fails on, or one that it opens. -/
inductive FileArgument (Opened : Type) where
  | null
  | unopened
  | opened (file : Opened)

/-- `wrjpgcom`: its return code and the bytes it puts. -/
def wrjpgcom (fuel : Nat) (infn : FileArgument Bytes) (outfn : FileArgument Unit)
    (comment : Option Bytes) (keepCOM : Bool) : Option (Int × Bytes) :=
  match comment, infn, outfn with
  | none, _, _ => some (-1, [])
  | some _, .null, _ => some (-2, [])
  | some _, _, .null => some (-3, [])
  | some _, .unopened, _ => some (-4, [])
  | some _, _, .unopened => some (-5, [])
  | some comment, .opened data, .opened () => do
      let (marker, streams) ← scanJPEGHeader fuel keepCOM ⟨data, []⟩
      let streams := writeMarker marker (insertComment comment streams)
      some (0, (copyRestOfFile streams).outfile)

end RPhoto.Jpeg
