import ByteWindow.Error.Io

/-!
# Errors of sources and views

Every operation of the library fails with a value of one type.  Most causes are leaves;
`multiple` collects what went wrong when several parts were released together.
The first failure is the primary one, and each later failure is suppressed onto it.
-/

namespace ByteWindow

/-- A request that does not fit: a region of a larger whole, or a read into a buffer. -/
inductive Bounds
  | region (dataLength start length : Nat)
  | read (sourcePosition sourceLength destPosition destLength : Nat)
  deriving DecidableEq, Inhabited

/-- The numbers of the request that did not fit. -/
def Bounds.message : Bounds -> String
  | region dataLength start length =>
      s!"dataLength={dataLength}; regionStart={start}; regionLength={length}"
  | read sourcePosition sourceLength destPosition destLength =>
      s!"srcPos={sourcePosition}, srcLen={sourceLength}, " ++
        s!"destPos={destPosition}, destLen={destLength}"

/-- Why an operation failed. -/
inductive Error
  /-- The request does not fit; asking again cannot help. -/
  | outOfBounds (bounds : Bounds)
  /-- The source ended at a position although more bytes were promised. -/
  | unexpectedEof (position expected : Nat)
  /-- The system failed. -/
  | io (cause : IoError)
  /-- A size or a position does not fit into a narrower type. -/
  | overflow (value : Nat) (target : String)
  /-- The resource was given back before. -/
  | released
  /-- An abandoned read closed the channel to the file. -/
  | cancelled
  /-- Several parts failed; the first failure is primary. -/
  | multiple (primary : Error) (suppressed : List Error)
  deriving Inhabited

namespace Error

/-- The name of the kind of an error. -/
def name : Error -> String
  | outOfBounds _ => "OutOfBounds"
  | unexpectedEof _ _ => "UnexpectedEof"
  | io _ => "Io"
  | overflow _ _ => "Overflow"
  | released => "Released"
  | cancelled => "Cancelled"
  | multiple _ _ => "Multiple"

/-- The text shown for an error.  Of several failures the primary one speaks. -/
def message : Error -> String
  | outOfBounds bounds => s!"Index out of bounds: {bounds.message}"
  | unexpectedEof position expected =>
      s!"Unexpected end of data at {position}, expected {expected} bytes"
  | io cause => s!"IO error: {cause.text}"
  | overflow value target => s!"Overflow: {value} does not fit into {target}"
  | released => "Attempt to use an already released resource"
  | cancelled => "Read was cancelled, the underlying channel is closed"
  | multiple primary suppressed => s!"{primary.message} (+{suppressed.length} suppressed)"

/-- Whether a request did not fit. -/
def isOutOfBounds : Error -> Bool
  | outOfBounds _ => true
  | _ => false

/-- Whether the source ended too early. -/
def isUnexpectedEof : Error -> Bool
  | unexpectedEof _ _ => true
  | _ => false

/-- The failure of the system behind an error, if there is one. -/
def cause? : Error -> Option IoError
  | io cause => some cause
  | _ => none

/-!
## Collecting failures
-/

/-- Put a later failure under an earlier one.  A collection grows at its end; its primary
failure stays in place. -/
def suppress : Error -> Error -> Error
  | multiple primary suppressed, later => multiple primary (suppressed ++ [later])
  | primary, later => multiple primary [later]

/-- The failures that were put under an error. -/
def suppressed : Error -> List Error
  | multiple _ suppressed => suppressed
  | _ => []

/-- Put a list of later failures under an earlier one, in their order. -/
def suppressAll (first : Error) (later : List Error) : Error :=
  later.foldl suppress first

/-- Success if nothing failed; otherwise the first failure with the others under it. -/
def aggregate : List Error -> Except Error Unit
  | [] => .ok ()
  | first :: later => .error (first.suppressAll later)

@[simp] theorem suppressAll_cons (first next : Error) (later : List Error) :
    first.suppressAll (next :: later) = (first.suppress next).suppressAll later := rfl

theorem aggregate_cons (first : Error) (later : List Error) :
    aggregate (first :: later) = .error (first.suppressAll later) := rfl

end Error
end ByteWindow
