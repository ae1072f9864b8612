import Mathlib.Data.Nat.Basic
import Mathlib.Order.Defs.LinearOrder

/-!
# Buffered streams

A stream that is written keeps its last bytes in a buffer.  They reach the disk
when the buffer is full and when the stream is closed, and in no other way.
-/

namespace RPhoto.Library

/-- A stream: what its file holds on disk and what its buffer still keeps. -/
structure Stream (capacity : Nat) (Byte : Type) where
  disk : List Byte
  buffer : List Byte
  isOpen : Bool
  room : buffer.length ≤ capacity

namespace Stream

variable {capacity : Nat} {Byte : Type}

/-- `fopen` of a file to be read. -/
def openRead (data : List Byte) : Stream capacity Byte := ⟨data, [], true, Nat.zero_le _⟩

/-- `fopen` of a file to be written, which is cut to nothing. -/
def openWrite : Stream capacity Byte := ⟨[], [], true, Nat.zero_le _⟩

/-- `putc`: a byte for which the buffer has no room takes the buffer to the disk. -/
def putc (stream : Stream capacity Byte) (byte : Byte) : Stream capacity Byte :=
  if free : stream.buffer.length < capacity then
    { stream with
      buffer := stream.buffer ++ [byte]
      room := by rwa [List.length_append] }
  else
    { stream with
      disk := stream.disk ++ (stream.buffer ++ [byte])
      buffer := []
      room := Nat.zero_le _ }

/-- `fclose`. -/
def close (stream : Stream capacity Byte) : Stream capacity Byte :=
  ⟨stream.disk ++ stream.buffer, [], false, Nat.zero_le _⟩

/-- All bytes of a stream, on disk or not. -/
def contents (stream : Stream capacity Byte) : List Byte := stream.disk ++ stream.buffer

@[simp] theorem contents_openWrite : (openWrite : Stream capacity Byte).contents = [] := rfl

@[simp] theorem isOpen_openRead (data : List Byte) :
    (openRead data : Stream capacity Byte).isOpen = true := rfl

@[simp] theorem isOpen_close (stream : Stream capacity Byte) : stream.close.isOpen = false := rfl

@[simp] theorem disk_close (stream : Stream capacity Byte) :
    stream.close.disk = stream.contents := rfl

@[simp] theorem contents_putc (stream : Stream capacity Byte) (byte : Byte) :
    (stream.putc byte).contents = stream.contents ++ [byte] := by
  unfold putc
  split_ifs <;> simp [contents]

/-- The disk is written in whole buffers. -/
theorem dvd_disk_putc {stream : Stream capacity Byte} (blocks : capacity + 1 ∣ stream.disk.length)
    (byte : Byte) : capacity + 1 ∣ (stream.putc byte).disk.length := by
  unfold putc
  split_ifs with free
  · exact blocks
  · have full : stream.buffer.length = capacity := le_antisymm stream.room (not_lt.mp free)
    rw [List.length_append, List.length_append, full, List.length_singleton]
    exact Nat.dvd_add blocks (Nat.dvd_refl _)

/-! ## Many bytes -/

/-- A loop that puts bytes. -/
def put (stream : Stream capacity Byte) (bytes : List Byte) : Stream capacity Byte :=
  bytes.foldl putc stream

theorem contents_put (stream : Stream capacity Byte) (bytes : List Byte) :
    (stream.put bytes).contents = stream.contents ++ bytes := by
  induction bytes generalizing stream with
  | nil => exact (List.append_nil _).symm
  | cons byte rest ih =>
      have later := ih (stream.putc byte)
      rwa [contents_putc, List.append_assoc] at later

theorem dvd_disk_put {stream : Stream capacity Byte} (blocks : capacity + 1 ∣ stream.disk.length)
    (bytes : List Byte) : capacity + 1 ∣ (stream.put bytes).disk.length := by
  induction bytes generalizing stream with
  | nil => exact blocks
  | cons byte rest ih => exact ih (dvd_disk_putc blocks byte)

/-- What was put is on disk exactly when it fills the buffer a whole number of times. -/
theorem disk_put_eq_iff (bytes : List Byte) :
    ((openWrite : Stream capacity Byte).put bytes).disk = bytes ↔ capacity + 1 ∣ bytes.length := by
  have whole : ((openWrite : Stream capacity Byte).put bytes).contents = bytes :=
    contents_put openWrite bytes
  have blocks : capacity + 1 ∣ ((openWrite : Stream capacity Byte).put bytes).disk.length :=
    dvd_disk_put (Nat.dvd_zero _) bytes
  have room := ((openWrite : Stream capacity Byte).put bytes).room
  generalize (openWrite : Stream capacity Byte).put bytes = stream at whole blocks room ⊢
  rw [contents] at whole
  constructor
  · intro same
    rwa [same] at blocks
  · intro multiple
    rw [← whole, List.length_append] at multiple
    have nothing : stream.buffer.length = 0 :=
      Nat.eq_zero_of_dvd_of_lt ((Nat.dvd_add_right blocks).mp multiple) (Nat.lt_succ_of_le room)
    rwa [List.length_eq_zero_iff.mp nothing, List.append_nil] at whole

end Stream

end RPhoto.Library
