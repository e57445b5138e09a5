/-!
# Failures reported by the system

A failure that comes from outside the library, from a file or from a stream, is a
class and the text that describes it.  Programs branch on the class; people read the
text.  A failure known by its system code has a fixed class and a fixed text.
-/

namespace ByteWindow

/-- The classes into which outside failures are sorted. -/
inductive IoKind
  | notFound
  | permissionDenied
  | interrupted
  | unexpectedEof
  | invalidInput
  | invalidData
  | wouldBlock
  | brokenPipe
  | timedOut
  | writeZero
  | inputOutput
  | tooManyOpenFiles
  | notADirectory
  | isADirectory
  | invalidFilename
  | uncategorized
  | other
  deriving DecidableEq, Inhabited

namespace IoKind

/-- The name under which a class is reported. -/
def name : IoKind -> String
  | notFound => "NotFound"
  | permissionDenied => "PermissionDenied"
  | interrupted => "Interrupted"
  | unexpectedEof => "UnexpectedEof"
  | invalidInput => "InvalidInput"
  | invalidData => "InvalidData"
  | wouldBlock => "WouldBlock"
  | brokenPipe => "BrokenPipe"
  | timedOut => "TimedOut"
  | writeZero => "WriteZero"
  | inputOutput => "InputOutputError"
  | tooManyOpenFiles => "TooManyOpenFiles"
  | notADirectory => "NotADirectory"
  | isADirectory => "IsADirectory"
  | invalidFilename => "InvalidFilename"
  | uncategorized => "Uncategorized"
  | other => "Other"

/-- All classes, in the order of their declaration. -/
def all : List IoKind :=
  [notFound, permissionDenied, interrupted, unexpectedEof, invalidInput, invalidData,
    wouldBlock, brokenPipe, timedOut, writeZero, inputOutput, tooManyOpenFiles,
    notADirectory, isADirectory, invalidFilename, uncategorized, other]

/-- The class with a given name. -/
def ofName? (name : String) : Option IoKind :=
  all.find? fun kind => kind.name == name

end IoKind

/-- An outside failure: its class and its description. -/
structure IoError where
  kind : IoKind
  text : String
  deriving DecidableEq, Inhabited

namespace IoError

/-- The class and the bare description that belong to a system code. -/
def describeCode : Nat -> IoKind × String
  | 2 => (.notFound, "No such file or directory")
  | 5 => (.inputOutput, "Input/output error")
  | 9 => (.uncategorized, "Bad file descriptor")
  | 13 => (.permissionDenied, "Permission denied")
  | 19 => (.uncategorized, "No such device")
  | 20 => (.notADirectory, "Not a directory")
  | 21 => (.isADirectory, "Is a directory")
  | 22 => (.invalidInput, "Invalid argument")
  | 24 => (.tooManyOpenFiles, "Too many open files")
  | 32 => (.brokenPipe, "Broken pipe")
  | 36 => (.invalidFilename, "File name too long")
  | code => (.uncategorized, s!"Unknown error {code}")

/-- The failure with a given system code; its text ends with the code. -/
def ofCode (code : Nat) : IoError :=
  let (kind, text) := describeCode code
  { kind, text := s!"{text} (os error {code})" }

/-- No file has the requested name. -/
def notFound : IoError := ofCode 2

/-- What is not a file cannot be mapped into memory. -/
def noDevice : IoError := ofCode 19

/-- A path goes on behind a file. -/
def notDirectory : IoError := ofCode 20

/-- A directory has no bytes to read. -/
def isDirectory : IoError := ofCode 21

/-- A position or a length lies outside what the system accepts. -/
def invalidArgument : IoError := ofCode 22

/-- A path, or a step of it, is longer than the system accepts. -/
def nameTooLong : IoError := ofCode 36

/-- An interrupted operation did nothing and may be tried again. -/
def isInterrupted (e : IoError) : Bool :=
  e.kind == .interrupted

end IoError
end ByteWindow
