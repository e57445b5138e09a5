import ByteWindow.Error.Basic

/-!
# Errors as sequential consumers see them

Consumers that read byte by byte know only the classes of outside failures.  A failure
of the system is handed to them as it is.  Any other error is wrapped under the class
that describes it best, so that its text and its kind stay available.
-/

namespace ByteWindow

/-- A failure in the vocabulary of sequential consumers. -/
inductive ConsumerError
  | plain (cause : IoError)
  | wrapped (error : Error)
  deriving Inhabited

namespace ConsumerError

/-- The class under which an error is wrapped.  A cancelled read counts as interrupted. -/
def wrappedKind : Error -> IoKind
  | .unexpectedEof _ _ => .unexpectedEof
  | .outOfBounds _ => .invalidInput
  | .cancelled => .interrupted
  | _ => .other

/-- The class that a consumer branches on. -/
def kind : ConsumerError -> IoKind
  | plain cause => cause.kind
  | wrapped error => wrappedKind error

/-- The text that a consumer shows. -/
def message : ConsumerError -> String
  | plain cause => cause.text
  | wrapped error => error.message

/-- An interrupted consumer tries again. -/
def isInterrupted (e : ConsumerError) : Bool :=
  e.kind == .interrupted

/-- Hand an error to a consumer. -/
def ofError : Error -> ConsumerError
  | .io cause => plain cause
  | error => wrapped error

/-- Take a consumer's failure back as a failure of the system. -/
def toError (e : ConsumerError) : Error :=
  .io { kind := e.kind, text := e.message }

end ConsumerError
end ByteWindow
