import ByteWindow.Source

/-!
# Files read by position

A positional source reads an open file without any cursor.  Its size is that of the file
when the source was made.
-/

namespace ByteWindow

/-- A source that reads an open file by position, until it is released. -/
structure Positional where
  file : Option FileId
  size : Nat
  deriving Inhabited

namespace Positional

/-- Read an open file by position. -/
def ofFile (disk : Disk) (file : FileId) : Positional :=
  { file := some file, size := disk.size file }

instance : Source Positional where
  release s host := (.ok (), { s with file := none }, host)
  size := Positional.size
  readAt s host position buffer :=
    match s.file with
    | none => .failed .released buffer s host
    | some file =>
        match host.disk.readAt file position buffer.length with
        | .ok piece => .deliveredOrEnd piece buffer s host
        | .error cause => .failed (.io cause) buffer s host

end Positional
end ByteWindow
