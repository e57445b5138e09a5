import ByteWindow.Shared

/-!
# Views

A view is a window of a shared source: the bytes from an offset on, up to a size.  It
checks each request against its window before the source sees it, and it turns
positions within the window into positions of the source.  Views of the same source are
closed one by one, and the source is released with the last of them.
-/

namespace ByteWindow

/-- A region has to end within the whole. -/
def checkRegion (total start length : Nat) : Except Error Unit :=
  if start + length ≤ total then .ok ()
  else .error (.outOfBounds (.region total start length))

/-- A window of a source. -/
structure View where
  /-- Where the window starts in the source. -/
  offset : Nat
  /-- How many bytes the window shows. -/
  size : Nat
  closed : Bool := false
  deriving DecidableEq, Inhabited

namespace View

/-- A view of `length` bytes of a source of `total` bytes; without a length, of the rest
of the source. -/
def select? (total offset : Nat) (length : Option Nat) : Except Error View :=
  match length with
  | some length =>
      match checkRegion total offset length with
      | .ok () => .ok { offset, size := length }
      | .error error => .error error
  | none =>
      if offset ≤ total then .ok { offset, size := total - offset }
      else .error (.outOfBounds (.region total offset 0))

/-- Whether a view can be used: neither closed itself nor without its source. -/
def isOpen {σ α : Type} (view : View) (shared : Shared σ α) : Bool :=
  !view.closed && shared.isOpen

/-!
## Bounds of requests
-/

/-- How many bytes to ask for when `max` bytes at most are to be read at a position into
a buffer from `offset` on; `none` past the end. -/
def requestLength (view : View) (bufferLength position offset max : Nat) :
    Except Error (Option Nat) :=
  if bufferLength < offset then
    .error (.outOfBounds (.read position view.size offset bufferLength))
  else
    let wanted := min max (bufferLength - offset)
    if wanted = 0 ∧ position ≤ view.size then .ok (some 0)
    else if view.size ≤ position then .ok none
    else .ok (some (min (view.size - position) wanted))

/-- How many bytes there are to read from a position on, `max` at most. -/
def availableLength (view : View) (position max : Nat) : Except Error Nat :=
  if view.size < position then
    .error (.outOfBounds (.read position view.size 0 max))
  else
    .ok (min (view.size - position) max)

/-- The source ended at a position within the view. -/
def unexpectedEof (view : View) (position : Nat) : Error :=
  .unexpectedEof position view.size

/-!
## Views of views
-/

variable {σ α : Type}

/-- A view of `length` bytes of a view, which shares its source. -/
def section? (view : View) (shared : Shared σ α) (position length : Nat) :
    Except Error View × Shared σ α :=
  if view.closed then
    (.error .released, shared)
  else
    match checkRegion view.size position length with
    | .error error => (.error error, shared)
    | .ok () =>
        match shared.retain with
        | (.error error, shared) => (.error error, shared)
        | (.ok (), shared) =>
            (.ok { offset := view.offset + position, size := length }, shared)

/-- A view of the rest of a view from a position on.  The position is checked first, even
if the view is closed. -/
def sectionFrom? (view : View) (shared : Shared σ α) (position : Nat) :
    Except Error View × Shared σ α :=
  if position ≤ view.size then
    view.section? shared position (view.size - position)
  else
    (.error (.outOfBounds (.region view.size position 0)), shared)

/-!
## The end of a view
-/

variable [Releasable σ] [Listener α σ]

/-- Close a view; it cannot be closed twice. -/
def close (view : View) (shared : Shared σ α) (host : Host) :
    Except Error Unit × View × Shared σ α × Host :=
  if view.closed then
    (.error .released, view, shared, host)
  else
    match shared.close host with
    | (result, shared, host) => (result, { view with closed := true }, shared, host)

/-- Let a view go out of use.  It is closed unless it was closed before, and a failure is
only noted. -/
def drop (view : View) (shared : Shared σ α) (host : Host) : Shared σ α × Host :=
  match view.close shared host with
  | (.ok (), _, shared, host) => (shared, host)
  | (.error error, _, shared, host) =>
      (shared, if view.closed then host else host.note (.dropFailed error.message))

/-- The text shown for a view: its window, and the ownership of its source. -/
def describe (view : View) (shared : Shared σ α) : String :=
  s!"RandomAccessData \x7b offset: {view.offset}, size: {view.size}, " ++
    s!"closed: {view.closed}, shared: {shared.describe} \x7d"

end View
end ByteWindow
