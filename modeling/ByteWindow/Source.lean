import ByteWindow.Host
import ByteWindow.Error.Basic

/-!
# Sources of bytes

A source knows its size and can be read at any position.  A read is given a buffer and
hands it back; its outcome says how many bytes at the front of the buffer are new, or
that the source has no data at that position.

Reading without blocking takes two steps.  Starting a read either finishes it or leaves
a task that has to be finished or abandoned later.  Most sources finish at once.
-/

namespace ByteWindow

/-- What a read leaves behind. -/
structure Reading (α σ : Type) where
  outcome : Except Error α
  buffer : List UInt8
  source : σ
  host : Host

/-- The outcome of reading `read` bytes when `requested` were asked for.  Nothing at all
means that there is no more data, unless nothing was asked for. -/
def endIfNothing (read requested : Nat) : Option Nat :=
  if read = 0 ∧ 0 < requested then none else some read

namespace Reading

variable {α σ : Type}

/-- A read that failed before it touched the buffer. -/
def failed (error : Error) (buffer : List UInt8) (source : σ) (host : Host) : Reading α σ :=
  { outcome := .error error, buffer, source, host }

/-- A read that found no data. -/
def nothing (buffer : List UInt8) (source : σ) (host : Host) : Reading (Option Nat) σ :=
  { outcome := .ok none, buffer, source, host }

/-- A read that delivered a piece to the front of the buffer. -/
def delivered (piece buffer : List UInt8) (source : σ) (host : Host) :
    Reading (Option Nat) σ :=
  { outcome := .ok (some piece.length), buffer := overlay piece buffer, source, host }

/-- A read that delivered a piece, where an empty piece means the end of the data. -/
def deliveredOrEnd (piece buffer : List UInt8) (source : σ) (host : Host) :
    Reading (Option Nat) σ :=
  { outcome := .ok (endIfNothing piece.length buffer.length)
    buffer := overlay piece buffer, source, host }

/-- The byte that a read into a buffer of one byte delivered. -/
def singleByte (reading : Reading (Option Nat) σ) :
    Except Error (Option UInt8) × σ × Host :=
  match reading.outcome with
  | .ok (some 1) => (.ok reading.buffer.head?, reading.source, reading.host)
  | .ok _ => (.ok none, reading.source, reading.host)
  | .error error => (.error error, reading.source, reading.host)

end Reading

/-- A read of a file that was started and not yet finished. -/
structure ReadTask where
  file : FileId
  position : Nat
  length : Nat
  deriving DecidableEq, Inhabited

/-- What starting a read comes to. -/
inductive Started (σ : Type)
  | finished (reading : Reading (Option Nat) σ)
  | waiting (task : ReadTask) (source : σ) (host : Host)

/-- Something that holds resources and gives them back. -/
class Releasable (σ : Type) where
  /-- Give the resources back.  By default there are none. -/
  release : σ -> Host -> Except Error Unit × σ × Host := fun s host => (.ok (), s, host)

/-- A source of bytes that can be read at any position. -/
class Source (σ : Type) extends Releasable σ where
  /-- The declared size in bytes. -/
  size : σ -> Nat
  /-- Read into a buffer at a position. -/
  readAt : σ -> Host -> Nat -> List UInt8 -> Reading (Option Nat) σ
  /-- Read one byte at a position: by default into a buffer of one byte. -/
  readByteAt : σ -> Host -> Nat -> Except Error (Option UInt8) × σ × Host :=
    fun s host position => (readAt s host position [0]).singleByte
  /-- Start a read that need not block: by default it blocks and finishes. -/
  startRead : σ -> Host -> Nat -> List UInt8 -> Started σ :=
    fun s host position buffer => .finished (readAt s host position buffer)
  /-- Finish a started read: by default by carrying it out. -/
  finishRead : ReadTask -> σ -> Host -> List UInt8 -> Reading (Option Nat) σ :=
    fun task s host buffer => readAt s host task.position buffer
  /-- Abandon a started read: by default nobody minds. -/
  abandonRead : σ -> Host -> σ × Host := fun s host => (s, host)
  /-- Throw a source away that was never opened to readers. -/
  discard : σ -> Host -> Host := fun _ host => host

/-- Whether a caller blocks on a read or starts it and waits. -/
inductive Mode
  | blocking
  | awaited
  deriving DecidableEq, Inhabited

namespace Source

variable {σ : Type} [Source σ]

/-- Start a read and wait until it is finished. -/
def readAwaited (s : σ) (host : Host) (position : Nat) (buffer : List UInt8) :
    Reading (Option Nat) σ :=
  match startRead s host position buffer with
  | .finished reading => reading
  | .waiting task s host => finishRead task s host buffer

/-- Read at a position in the given mode. -/
def readVia : Mode -> σ -> Host -> Nat -> List UInt8 -> Reading (Option Nat) σ
  | .blocking => readAt
  | .awaited => readAwaited

@[simp] theorem readVia_blocking : readVia (σ := σ) .blocking = readAt := rfl

@[simp] theorem readVia_awaited : readVia (σ := σ) .awaited = readAwaited := rfl

end Source
end ByteWindow
