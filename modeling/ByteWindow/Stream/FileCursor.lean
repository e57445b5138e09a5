import ByteWindow.Stream

/-!
# Open files as cursors and as streams

A file cursor is an open file with a position.  A buffered file is a cursor that fetches
bytes in larger pieces and hands them out from there.
-/

namespace ByteWindow

/-- An open file and the position up to which it was read. -/
structure FileCursor where
  file : FileId
  position : Nat
  deriving Inhabited

namespace FileCursor

/-- The next bytes of the file. -/
def read (s : FileCursor) (host : Host) (length : Nat) :
    Except IoError (List UInt8) × FileCursor × Host :=
  match host.disk.readAt s.file s.position length with
  | .ok piece => (.ok piece, { s with position := s.position + piece.length }, host)
  | .error cause => (.error cause, s, host)

/-- Move to a position, which has to lie below the limit of positions. -/
def moveTo (s : FileCursor) (host : Host) (target : Int) :
    Except IoError Nat × FileCursor × Host :=
  if 0 ≤ target ∧ target < Disk.positionLimit then
    (.ok target.toNat, { s with position := target.toNat }, host)
  else
    (.error IoError.invalidArgument, s, host)

/-- Move relative to the start, to the end or to the present position. -/
def seek (s : FileCursor) (host : Host) :
    SeekTarget -> Except IoError Nat × FileCursor × Host
  | .start position => s.moveTo host position
  | .fromEnd distance => s.moveTo host (host.disk.size s.file + distance)
  | .current distance => s.moveTo host (s.position + distance)

instance : ByteCursor FileCursor where
  read := read
  seek := seek
  tell s host := (.ok s.position, s, host)

end FileCursor

/-!
## Buffered files
-/

/-- A file cursor and the bytes that were fetched from it and not yet handed out. -/
structure BufferedFile where
  cursor : FileCursor
  pending : List UInt8 := []
  deriving Inhabited

namespace BufferedFile

/-- The number of bytes fetched at once. -/
def capacity : Nat := 8192

/-- Hand out fetched bytes. -/
def handOut (s : BufferedFile) (length : Nat) : List UInt8 × BufferedFile :=
  (s.pending.take length, { s with pending := s.pending.drop length })

/-- Read a buffered file.  A request as large as the buffer goes straight to the file if
no fetched bytes are left. -/
def read (s : BufferedFile) (host : Host) (length : Nat) :
    Except IoError (List UInt8) × BufferedFile × Host :=
  match s.pending with
  | _ :: _ =>
      let (piece, s) := s.handOut length
      (.ok piece, s, host)
  | [] =>
      if capacity ≤ length then
        match s.cursor.read host length with
        | (result, cursor, host) => (result, { s with cursor }, host)
      else
        match s.cursor.read host capacity with
        | (.ok fetched, cursor, host) =>
            let (piece, s) := handOut { cursor, pending := fetched } length
            (.ok piece, s, host)
        | (.error cause, cursor, host) => (.error cause, { s with cursor }, host)

instance : ByteReader BufferedFile where
  read := read

end BufferedFile

/-- Opens buffered files by name. -/
structure NamedFile where
  name : String
  deriving Inhabited

instance : StreamFactory NamedFile (Discarding BufferedFile) where
  openStream s host :=
    match host.disk.openFile s.name with
    | .ok file => (.ok { reader := { cursor := { file, position := 0 } } }, s, host)
    | .error cause => (.error cause, s, host)

end ByteWindow
