import ByteWindow.View

/-!
# Reading through a view

A plain read asks the source once and takes what it gives.  A full read goes on until
all requested bytes are there; it fails if the source ends, or if the source delivers
nothing three times in a row.  All reads exist in two modes, which differ only in how
the source is asked.
-/

namespace ByteWindow
namespace View

variable {σ : Type} [Source σ]

/-- How many reads in a row may deliver nothing. -/
def maxIdleReads : Nat := 3

/-!
## Plain reads
-/

/-- Ask the source for `length` bytes of a buffer from `offset` on. -/
def readInto (mode : Mode) (view : View) (s : σ) (host : Host) (buffer : List UInt8)
    (position offset length : Nat) : Reading (Option Nat) σ :=
  let reading :=
    Source.readVia mode s host (view.offset + position) ((buffer.drop offset).take length)
  { reading with
    buffer := buffer.take offset ++ reading.buffer ++ buffer.drop (offset + length) }

/-- Read at most `max` bytes at a position into a buffer from `offset` on. -/
def read (mode : Mode) (view : View) (s : σ) (host : Host) (buffer : List UInt8)
    (position offset max : Nat) : Reading (Option Nat) σ :=
  if view.closed then
    .failed .released buffer s host
  else
    match view.requestLength buffer.length position offset max with
    | .error error => .failed error buffer s host
    | .ok none => .nothing buffer s host
    | .ok (some 0) => .delivered [] buffer s host
    | .ok (some length) => view.readInto mode s host buffer position offset length

theorem read_eq_readInto {view : View} (hopen : view.closed = false) (mode : Mode) (s : σ)
    (host : Host) {buffer : List UInt8} {position offset max length : Nat}
    (hrequest : view.requestLength buffer.length position offset max = .ok (some length))
    (hlength : length ≠ 0) :
    view.read mode s host buffer position offset max =
      view.readInto mode s host buffer position offset length := by
  unfold read
  rw [hopen, hrequest, if_neg Bool.false_ne_true]
  cases length with
  | zero => exact absurd rfl hlength
  | succ n => rfl

/-- Read at a position into a whole buffer. -/
def readAt (view : View) (s : σ) (host : Host) (position : Nat) (buffer : List UInt8) :
    Reading (Option Nat) σ :=
  view.read .blocking s host buffer position 0 buffer.length

/-- Read the byte at a position; there is none past the end. -/
def readByteAt (view : View) (s : σ) (host : Host) (position : Nat) :
    Except Error (Option UInt8) × σ × Host :=
  if view.closed then
    (.error .released, s, host)
  else if view.size ≤ position then
    (.ok none, s, host)
  else
    match Source.readByteAt s host (view.offset + position) with
    | (.ok none, s, host) => (.error (view.unexpectedEof position), s, host)
    | (result, s, host) => (result, s, host)

/-!
## Full reads
-/

/-- Fill the rest of a buffer from a position of the view on.  The bytes that are already
there stand in `done` in reverse order; `remaining` bytes are to come, and `idle` reads
in a row delivered nothing so far. -/
def fillRemaining (mode : Mode) (view : View) (s : σ) (host : Host)
    (done rest : List UInt8) (position remaining idle : Nat) : Reading Unit σ :=
  if remaining = 0 then
    { outcome := .ok (), buffer := done.reverseAux rest, source := s, host }
  else
    let reading := Source.readVia mode s host (view.offset + position) rest
    match reading.outcome with
    | .error error =>
        .failed error (done.reverseAux reading.buffer) reading.source reading.host
    | .ok none =>
        .failed (view.unexpectedEof position) (done.reverseAux reading.buffer)
          reading.source reading.host
    | .ok (some 0) =>
        if idle + 1 < maxIdleReads then
          fillRemaining mode view reading.source reading.host done reading.buffer
            position remaining (idle + 1)
        else
          .failed (view.unexpectedEof position) (done.reverseAux reading.buffer)
            reading.source reading.host
    | .ok (some (n + 1)) =>
        fillRemaining mode view reading.source reading.host
          ((reading.buffer.take (n + 1)).reverseAux done) (reading.buffer.drop (n + 1))
          (position + (n + 1)) (remaining - (n + 1)) 0
termination_by (remaining, maxIdleReads - idle)
decreasing_by
  all_goals simp_wf
  · exact Prod.Lex.right _ (by omega)
  · exact Prod.Lex.left _ _ (by omega)

/-- Fill a whole buffer from a position of the view on. -/
def fill (mode : Mode) (view : View) (s : σ) (host : Host) (position : Nat)
    (buffer : List UInt8) : Reading Unit σ :=
  view.fillRemaining mode s host [] buffer position buffer.length 0

/-- Read at a position into a buffer from `offset` on until `max` bytes are there, or as
many as the buffer holds and the view has. -/
def readFully (mode : Mode) (view : View) (s : σ) (host : Host) (buffer : List UInt8)
    (position offset max : Nat) : Reading (Option Nat) σ :=
  if view.closed then
    .failed .released buffer s host
  else
    match view.requestLength buffer.length position offset max with
    | .error error => .failed error buffer s host
    | .ok none => .nothing buffer s host
    | .ok (some 0) => .delivered [] buffer s host
    | .ok (some length) =>
        let reading := view.fill mode s host position ((buffer.drop offset).take length)
        { outcome := reading.outcome.map fun _ => some length
          buffer := buffer.take offset ++ reading.buffer ++ buffer.drop (offset + length)
          source := reading.source
          host := reading.host }

/-- Read `max` bytes from a position on, or all there are if they are fewer. -/
def readFrom (mode : Mode) (view : View) (s : σ) (host : Host) (position max : Nat) :
    Except Error (List UInt8) × σ × Host :=
  if view.closed then
    (.error .released, s, host)
  else
    match view.availableLength position max with
    | .error error => (.error error, s, host)
    | .ok length =>
        let reading := view.fill mode s host position (List.replicate length 0)
        (reading.outcome.map fun _ => reading.buffer, reading.source, reading.host)

/-- Read the whole view. -/
def readAll (mode : Mode) (view : View) (s : σ) (host : Host) :
    Except Error (List UInt8) × σ × Host :=
  view.readFrom mode s host 0 view.size

end View
end ByteWindow
