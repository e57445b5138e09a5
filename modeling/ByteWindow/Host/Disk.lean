import ByteWindow.Bytes
import ByteWindow.Error.Io

/-!
# Named files

A disk maps names to files and files to contents.  Replacing the contents of a named
file keeps the file, so everybody who has it open sees the new bytes.  Removing a name
leaves the file to those who have it open.
-/

namespace ByteWindow

/-- A file, apart from any name it may have. -/
abbrev FileId := Nat

/-- The files of a system. -/
structure Disk where
  /-- The file behind each name. -/
  names : List (String × FileId) := []
  /-- The bytes of each file. -/
  contents : Array (Array UInt8) := #[]
  deriving Inhabited

namespace Disk

/-- Positions within files stay below this limit. -/
def positionLimit : Nat := 0x8000000000000000

/-- The file with a given name. -/
def find? (disk : Disk) (name : String) : Option FileId :=
  disk.names.lookup name

/-- The bytes of a file; a file that never existed has none. -/
def bytes (disk : Disk) (file : FileId) : Array UInt8 :=
  disk.contents.getD file #[]

/-- The size of a file in bytes. -/
def size (disk : Disk) (file : FileId) : Nat :=
  (disk.bytes file).size

/-- Open a file by name. -/
def openFile (disk : Disk) (name : String) : Except IoError FileId :=
  match disk.find? name with
  | some file => .ok file
  | none => .error IoError.notFound

/-- Give a named file new contents.  A name that is not in use gets a new file. -/
def store (disk : Disk) (name : String) (bytes : Array UInt8) : Disk :=
  match disk.find? name with
  | some file => { disk with contents := disk.contents.setIfInBounds file bytes }
  | none =>
      { names := (name, disk.contents.size) :: disk.names
        contents := disk.contents.push bytes }

/-- Remove a name. -/
def remove (disk : Disk) (name : String) : Disk :=
  { disk with names := disk.names.filter fun entry => entry.1 != name }

/-- The most bytes that one read delivers. -/
def readLimit : Nat := 0x7ffff000

theorem readLimit_pos : 0 < readLimit := by decide

/-- Read at most `length` bytes of a file at `position`.  The read has to end below the
limit of positions, and fails for no other reason.  At or past the end of the file it delivers
nothing; before, all that it was asked for and that the file has, up to the limit of one read. -/
def readAt (disk : Disk) (file : FileId) (position length : Nat) :
    Except IoError (List UInt8) :=
  if position + length < positionLimit then
    .ok (slice (disk.bytes file) position (min length readLimit))
  else
    .error IoError.invalidArgument

end Disk
end ByteWindow
