import ByteWindow.Host.Disk

/-!
# Paths

A path leads through directories, step by step, to a file or to a directory.  It starts
at the root or at the working directory.  Beside the directories that the names on the
disk pass through, there are the working directory and all directories above it; what
else these hold is not known, so no step leads there.

A step out of a file is refused, even one that would stay in place, and so are steps and
paths that are too long.  The first step that is refused decides about the path.
-/

namespace ByteWindow

/-- A place among the directories: the steps that lead there, the last one first. -/
structure Place where
  /-- Whether the steps start at the root, or else at the working directory. -/
  fromRoot : Bool
  steps : List String
  deriving DecidableEq, Inhabited

namespace Place

/-- The step that leads one directory up. -/
def upward : String := ".."

/-- The name of a place: its steps in order. -/
def name (place : Place) : String :=
  let relative := "/".intercalate place.steps.reverse
  if place.fromRoot then "/" ++ relative else relative

/-- One step down. -/
def child (place : Place) (step : String) : Place :=
  { place with steps := step :: place.steps }

/-- One step up.  The root is above itself; the way up from the working directory is
remembered, as the name of that directory is not known. -/
def parent (place : Place) : Place :=
  match place.steps with
  | [] => if place.fromRoot then place else place.child upward
  | last :: earlier =>
      if last = upward then place.child upward else { place with steps := earlier }

end Place

/-- What a path leads to. -/
inductive Entry
  | directory (place : Place)
  | file (name : String)
  deriving DecidableEq, Inhabited

namespace Disk

/-- The length of the longest step, in bytes. -/
def longestStep : Nat := 255

/-- The length of the longest path, in bytes. -/
def longestPath : Nat := 4095

/-- Whether a place is a directory: the starting points and all that is above them are,
and so is every place on the way to a name. -/
def hasDirectory (disk : Disk) (place : Place) : Bool :=
  place.steps.all (· == Place.upward) ||
    disk.names.any fun entry => entry.1.startsWith (place.name ++ "/")

/-- Take one step out of a directory. -/
def step (disk : Disk) (place : Place) (step : String) : Except IoError Entry :=
  if step = "" ∨ step = "." then
    .ok (.directory place)
  else if step = Place.upward then
    .ok (.directory place.parent)
  else if longestStep < step.utf8ByteSize then
    .error IoError.nameTooLong
  else if (disk.find? (place.child step).name).isSome then
    .ok (.file (place.child step).name)
  else if disk.hasDirectory (place.child step) then
    .ok (.directory (place.child step))
  else
    .error IoError.notFound

/-- Take steps in order. -/
def walk (disk : Disk) : Entry -> List String -> Except IoError Entry
  | entry, [] => .ok entry
  | .file _, _ :: _ => .error IoError.notDirectory
  | .directory place, step :: rest =>
      match disk.step place step with
      | .ok entry => disk.walk entry rest
      | .error cause => .error cause

/-- Follow a path.  An empty path leads nowhere. -/
def locate (disk : Disk) (path : String) : Except IoError Entry :=
  if path = "" then
    .error IoError.notFound
  else if longestPath < path.utf8ByteSize then
    .error IoError.nameTooLong
  else
    let start : Place := { fromRoot := path.startsWith "/", steps := [] }
    disk.walk (.directory start) (path.splitOn "/")

end Disk
end ByteWindow
