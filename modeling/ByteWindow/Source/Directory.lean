import ByteWindow.Source

/-!
# Directories opened for reading

The system opens a directory like a file and gives it a size, but it refuses every read.
-/

namespace ByteWindow

/-- A source over an open directory. -/
structure Directory where
  size : Nat
  deriving Inhabited

namespace Directory

/-- A directory that takes up one block on the disk. -/
def oneBlock : Directory := { size := 4096 }

instance : Source Directory where
  release s host := (.ok (), s, host)
  size := Directory.size
  readAt s host _ buffer := .failed (.io IoError.isDirectory) buffer s host

end Directory
end ByteWindow
