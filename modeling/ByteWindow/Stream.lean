import ByteWindow.Host

/-!
# Sequential streams

A reader delivers the next bytes of some data, and nothing more at its end.  A cursor is
a reader that can also be moved and asked for its position.  A stream is what the pool
works with: it can be read, told to skip bytes, and closed.

A reader becomes a stream in one of two ways.  Either it skips by reading bytes and
throwing them away, or, if it is a cursor, it skips by moving.
-/

namespace ByteWindow

/-- Something that delivers bytes one after the other. -/
class ByteReader (ρ : Type) where
  /-- Deliver at most the given number of bytes.  Nothing at all means the end. -/
  read : ρ -> Host -> Nat -> Except IoError (List UInt8) × ρ × Host
  /-- Throw the reader away. -/
  discard : ρ -> Host -> Host := fun _ host => host

/-- A reader with a position. -/
class ByteCursor (ρ : Type) extends ByteReader ρ where
  /-- Move, and report the new position. -/
  seek : ρ -> Host -> SeekTarget -> Except IoError Nat × ρ × Host
  /-- Report the position. -/
  tell : ρ -> Host -> Except IoError Nat × ρ × Host

/-- A stream that can be parked between reads. -/
class Stream (τ : Type) where
  /-- Deliver at most the given number of bytes.  Nothing at all means the end. -/
  read : τ -> Host -> Nat -> Except IoError (List UInt8) × τ × Host
  /-- Skip at most the given number of bytes, and report how many were skipped. -/
  skip : τ -> Host -> Nat -> Except IoError Nat × τ × Host
  /-- Close the stream.  It cannot be used afterwards, even if closing it failed. -/
  close : τ -> Host -> Except IoError Unit × Host

/-- Something that opens streams at the start of the same data. -/
class StreamFactory (φ : Type) (τ : outParam Type) where
  openStream : φ -> Host -> Except IoError τ × φ × Host

/-- The number of bytes that are read at once to be thrown away. -/
def discardChunk : Nat := 8192

/-!
## Skipping by reading
-/

/-- A reader as a stream: bytes are skipped by reading them. -/
structure Discarding (ρ : Type) where
  reader : ρ

namespace Discarding

variable {ρ : Type} [ByteReader ρ]

/-- Read and throw away until nothing remains or the data ends.  Interrupted reads are
repeated until patience runs out; any other failure is reported and hides what was skipped
before. -/
def discardBytes (reader : ρ) (host : Host) (skipped remaining patience : Nat) :
    Except IoError Nat × ρ × Host :=
  if remaining = 0 then
    (.ok skipped, reader, host)
  else
    match ByteReader.read reader host (min remaining discardChunk) with
    | (.ok [], reader, host) => (.ok skipped, reader, host)
    | (.ok (byte :: rest), reader, host) =>
        let n := (byte :: rest).length
        discardBytes reader host (skipped + n) (remaining - n) patience
    | (.error cause, reader, host) =>
        match cause.isInterrupted, patience with
        | true, patience + 1 => discardBytes reader host skipped remaining patience
        | _, _ => (.error cause, reader, host)
termination_by (remaining, patience)
decreasing_by
  all_goals simp_wf
  · exact Prod.Lex.left _ _ (by omega)
  · exact Prod.Lex.right _ (by omega)

instance : Stream (Discarding ρ) where
  read s host length :=
    match ByteReader.read s.reader host length with
    | (result, reader, host) => (result, { reader }, host)
  skip s host n :=
    match discardBytes s.reader host 0 n host.patience with
    | (result, reader, host) => (result, { reader }, host)
  close s host := (.ok (), ByteReader.discard s.reader host)

end Discarding

/-!
## Skipping by moving
-/

/-- A cursor as a stream: bytes are skipped by moving. -/
structure Jumping (ρ : Type) where
  cursor : ρ

namespace Jumping

variable {ρ : Type} [ByteCursor ρ]

/-- The longest way that a cursor moves at once. -/
def longestJump : Nat := 0x7fffffffffffffff

/-- Move forward and report by how much the position grew. -/
def jump (cursor : ρ) (host : Host) (n : Nat) : Except IoError Nat × ρ × Host :=
  match ByteCursor.tell cursor host with
  | (.error cause, cursor, host) => (.error cause, cursor, host)
  | (.ok start, cursor, host) =>
      match ByteCursor.seek cursor host (.current (min n longestJump)) with
      | (.error cause, cursor, host) => (.error cause, cursor, host)
      | (.ok reached, cursor, host) => (.ok (reached - start), cursor, host)

instance : Stream (Jumping ρ) where
  read s host length :=
    match ByteReader.read s.cursor host length with
    | (result, cursor, host) => (result, { cursor }, host)
  skip s host n :=
    match jump s.cursor host n with
    | (result, cursor, host) => (result, { cursor }, host)
  close s host := (.ok (), ByteReader.discard s.cursor host)

end Jumping
end ByteWindow
