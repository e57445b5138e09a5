import ByteWindow.Source
import ByteWindow.Stream

/-!
# Sources over a single cursor

A cursor serves positional reads if every read first moves it.  Cursors are not trusted:
after each move the position is checked twice, by what the move reports and by asking,
and after a read it is checked that the cursor stands right behind the bytes that were
read.  What does not check out is tried again, three times in all.
-/

namespace ByteWindow

/-- A source over a cursor, until it is released. -/
structure SeekThenRead (ρ : Type) where
  cursor : Option ρ
  size : Nat

namespace SeekThenRead

variable {ρ : Type} [ByteCursor ρ]

/-- How often a move or a read is tried. -/
def maxAttempts : Nat := 3

/-- The cursor never arrived at a position. -/
def notSettled (position : Nat) : IoError :=
  { kind := .other
    text := s!"cursor did not settle at {position} after {maxAttempts} seeks" }

/-- The cursor was never where it should be after a read. -/
def unstable (position : Nat) : IoError :=
  { kind := .other, text := s!"unstable cursor while reading at {position}" }

/-- The size of the source is where the cursor says the data ends. -/
def ofCursor (cursor : ρ) (host : Host) : Except Error (SeekThenRead ρ) × Host :=
  match ByteCursor.seek cursor host (.fromEnd 0) with
  | (.ok size, cursor, host) => (.ok { cursor := some cursor, size }, host)
  | (.error cause, _, host) => (.error (.io cause), host)

/-- Move the cursor to a position and make sure that it is there. -/
def settle (position : Nat) : Nat -> ρ -> Host -> Except IoError Unit × ρ × Host
  | 0, cursor, host => (.error (notSettled position), cursor, host)
  | attempts + 1, cursor, host =>
      match ByteCursor.seek cursor host (.start position) with
      | (.error cause, cursor, host) => (.error cause, cursor, host)
      | (.ok reported, cursor, host) =>
          if reported = position then
            match ByteCursor.tell cursor host with
            | (.error cause, cursor, host) => (.error cause, cursor, host)
            | (.ok actual, cursor, host) =>
                if actual = position then (.ok (), cursor, host)
                else settle position attempts cursor host
          else
            settle position attempts cursor host

/-- Read at a position until the cursor stands right behind what was read.  An attempt
that does not check out leaves its bytes in the buffer. -/
def readSettled (position : Nat) :
    Nat -> ρ -> Host -> List UInt8 -> Reading (Option Nat) ρ
  | 0, cursor, host, buffer => .failed (.io (unstable position)) buffer cursor host
  | attempts + 1, cursor, host, buffer =>
      match settle position maxAttempts cursor host with
      | (.error cause, cursor, host) => .failed (.io cause) buffer cursor host
      | (.ok (), cursor, host) =>
          match ByteReader.read cursor host buffer.length with
          | (.error cause, cursor, host) => .failed (.io cause) buffer cursor host
          | (.ok piece, cursor, host) =>
              match ByteCursor.tell cursor host with
              | (.error cause, cursor, host) =>
                  .failed (.io cause) (overlay piece buffer) cursor host
              | (.ok actual, cursor, host) =>
                  if actual = position + piece.length then
                    .deliveredOrEnd piece buffer cursor host
                  else
                    readSettled position attempts cursor host (overlay piece buffer)

/-- Read one byte at a position.  Where the cursor stands afterwards does not matter. -/
def readByteSettled (position : Nat) (cursor : ρ) (host : Host) :
    Except Error (Option UInt8) × ρ × Host :=
  match settle position maxAttempts cursor host with
  | (.error cause, cursor, host) => (.error (.io cause), cursor, host)
  | (.ok (), cursor, host) =>
      match ByteReader.read cursor host 1 with
      | (.error cause, cursor, host) => (.error (.io cause), cursor, host)
      | (.ok piece, cursor, host) => (.ok piece.head?, cursor, host)

instance : Source (SeekThenRead ρ) where
  release s host :=
    match s.cursor with
    | none => (.ok (), s, host)
    | some cursor => (.ok (), { s with cursor := none }, ByteReader.discard cursor host)
  size := SeekThenRead.size
  readAt s host position buffer :=
    match s.cursor with
    | none => .failed .released buffer s host
    | some cursor =>
        let reading := readSettled position maxAttempts cursor host buffer
        { reading with source := { s with cursor := some reading.source } }
  readByteAt s host position :=
    match s.cursor with
    | none => (.error .released, s, host)
    | some cursor =>
        match readByteSettled position cursor host with
        | (result, cursor, host) => (result, { s with cursor := some cursor }, host)

end SeekThenRead
end ByteWindow
