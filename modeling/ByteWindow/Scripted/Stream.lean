import ByteWindow.Stream
import ByteWindow.Scripted.Script

/-!
# Scripted streams

Streams of two sorts, and the factories that number and open them.  A numbered reader
delivers its data up to a fault; it can also be moved, well or badly.  A numbered stream
skips, reads and closes as its scripts say.
-/

namespace ByteWindow
namespace Scripted

/-!
## Numbered readers
-/

/-- How a numbered reader obeys a move. -/
inductive SeekHabit
  /-- It goes where it is told, also past the end. -/
  | obedient
  /-- It does not go past the end. -/
  | clamped
  /-- It stays. -/
  | stuck
  /-- It takes one step back. -/
  | backward
  deriving Inhabited

/-- A reader that says its number in what is recorded of it. -/
structure NumberedReader where
  number : Nat
  data : Array UInt8
  position : Nat := 0
  /-- The most bytes that a read delivers. -/
  chunk : Option Nat := none
  /-- Faults by ascending position; only the first one counts. -/
  faults : List Fault := []
  habit : SeekHabit := .obedient
  deriving Inhabited

namespace NumberedReader

/-- Deliver bytes of the data. -/
def deliver (s : NumberedReader) (host : Host) (length : Nat) (cap : Option Nat) :
    Except IoError (List UInt8) × NumberedReader × Host :=
  let piece := copyAt s.data s.position length cap
  (.ok piece, { s with position := s.position + piece.length }, host)

/-- Read up to the first fault; at the fault fail. -/
def read (s : NumberedReader) (host : Host) (length : Nat) :
    Except IoError (List UInt8) × NumberedReader × Host :=
  match s.faults with
  | [] => s.deliver host length s.chunk
  | fault :: rest =>
      if fault.position ≤ s.position then
        (.error fault.cause, if fault.once then { s with faults := rest } else s, host)
      else
        let room := fault.position - s.position
        s.deliver host length (some (min (s.chunk.getD room) room))

/-- The target of a move lies outside of all positions. -/
def outOfRange : IoError :=
  { kind := .invalidInput, text := "seek out of range" }

/-- The position that a move is aimed at. -/
def target (s : NumberedReader) : SeekTarget -> Int
  | .start position => position
  | .fromEnd distance => s.data.size + distance
  | .current distance => s.position + distance

/-- Move, as the habit is. -/
def seek (s : NumberedReader) (host : Host) (aim : SeekTarget) :
    Except IoError Nat × NumberedReader × Host :=
  let host := host.record (.streamSought s.number aim)
  let target := s.target aim
  if 0 ≤ target ∧ target ≤ largestPosition then
    let position :=
      match s.habit with
      | .obedient => target.toNat
      | .clamped => min target.toNat s.data.size
      | .stuck => s.position
      | .backward => s.position - 1
    (.ok position, { s with position }, host)
  else
    (.error outOfRange, s, host)

instance : ByteCursor NumberedReader where
  read := read
  discard s host := host.record (.closed s.number)
  seek := seek
  tell s host := (.ok s.position, s, host)

end NumberedReader

/-!
## Numbered streams
-/

/-- A reply to a skip. -/
inductive SkipReply
  | normal
  /-- Skip at most so many bytes. -/
  | atMost (n : Nat)
  /-- Report more bytes than were skipped. -/
  | over (extra : Nat)
  /-- Skip past the end. -/
  | blind
  | fail (cause : IoError)
  deriving Inhabited

/-- A reply to a read of a numbered stream. -/
inductive PullReply
  /-- Deliver at most so many bytes, or as many as usual. -/
  | deliver (cap : Option Nat)
  | fail (cause : IoError)

instance : Inhabited PullReply := ⟨.deliver none⟩

/-- A stream whose calls follow scripts. -/
structure NumberedStream where
  number : Nat
  data : Array UInt8
  position : Nat := 0
  /-- The most bytes that a normal read delivers. -/
  chunk : Option Nat := none
  skips : List SkipReply := []
  reads : List PullReply := []
  /-- The failure of closing, if it fails. -/
  closeError : Option IoError := none
  deriving Inhabited

namespace NumberedStream

/-- Skip as the script says. -/
def skip (s : NumberedStream) (host : Host) (n : Nat) :
    Except IoError Nat × NumberedStream × Host :=
  let (reply, skips) := nextReply .normal s.skips
  let left := s.data.size - s.position
  let (result, moved) : Except IoError Nat × Nat :=
    match reply with
    | .normal => (.ok (min n left), min n left)
    | .atMost m => (.ok (min (min n left) m), min (min n left) m)
    | .over extra => (.ok (min n left + extra), min n left)
    | .blind => (.ok n, n)
    | .fail cause => (.error cause, 0)
  (result, { s with skips, position := clampPosition (s.position + moved) },
    host.record (.streamSkipped s.number n (.ofExcept result)))

/-- Read as the script says. -/
def read (s : NumberedStream) (host : Host) (length : Nat) :
    Except IoError (List UInt8) × NumberedStream × Host :=
  let (reply, reads) := nextReply (.deliver none) s.reads
  match reply with
  | .deliver cap =>
      let piece := copyAt s.data s.position length (cap.orElse fun _ => s.chunk)
      (.ok piece, { s with reads, position := s.position + piece.length },
        host.record (.streamRead s.number length (.count piece.length)))
  | .fail cause =>
      (.error cause, { s with reads }, host.record (.streamRead s.number length .failed))

/-- Close as the script says. -/
def close (s : NumberedStream) (host : Host) : Except IoError Unit × Host :=
  match s.closeError with
  | none => (.ok (), host.record (.closed s.number))
  | some cause => (.error cause, host.record (.closeFailed s.number))

instance : Stream NumberedStream where
  read := read
  skip := skip
  close := close

end NumberedStream

/-!
## Factories
-/

/-- Opens streams and counts them; a failed opening uses up a number. -/
structure NumberingFactory (τ : Type) where
  /-- The number of the next stream. -/
  next : Nat := 0
  /-- The stream with a number, if it can be opened. -/
  make : Nat -> Except IoError τ

instance (τ : Type) : StreamFactory (NumberingFactory τ) τ where
  openStream s host :=
    let number := s.next
    let s := { s with next := number + 1 }
    match s.make number with
    | .ok stream => (.ok stream, s, host.record (.opened number))
    | .error cause => (.error cause, s, host.record (.openFailed number))

end Scripted
end ByteWindow
