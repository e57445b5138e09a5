import ByteWindow.Source
import ByteWindow.Stream

/-!
# Random access over pooled streams

Streams can only go forward.  A pool keeps streams parked at the positions that they have
reached.  A read takes up the parked stream that is closest before its position, or opens
a new one, skips to the position, reads, and parks the stream where it now stands.

At most a fixed number of streams stays parked.  When there are too many, the streams
that are furthest along give way.  A stream that has reached the declared end, or that
failed, is closed and not parked again.
-/

namespace ByteWindow

/-- A pool of streams over the same data. -/
structure Pool (φ τ : Type) where
  factory : φ
  /-- The declared size of the data. -/
  size : Nat
  /-- How many streams may stay parked. -/
  capacity : Nat
  /-- The parked streams with their positions, in ascending order. -/
  parked : List (Nat × τ) := []

namespace Pool

variable {φ τ : Type}

/-!
## The parked streams
-/

/-- Take out the last stream that is parked at or before a position. -/
def takeFloor (position : Nat) : List (Nat × τ) -> Option (Nat × τ) × List (Nat × τ)
  | [] => (none, [])
  | (reached, stream) :: rest =>
      if reached ≤ position then
        match takeFloor position rest with
        | (some found, rest) => (some found, (reached, stream) :: rest)
        | (none, rest) => (some (reached, stream), rest)
      else
        (none, (reached, stream) :: rest)

/-- Put a stream in at its position.  A stream that was parked there has to leave. -/
def putIn (position : Nat) (stream : τ) : List (Nat × τ) -> Option τ × List (Nat × τ)
  | [] => (none, [(position, stream)])
  | (reached, other) :: rest =>
      if reached < position then
        match putIn position stream rest with
        | (replaced, rest) => (replaced, (reached, other) :: rest)
      else if reached = position then
        (some other, (position, stream) :: rest)
      else
        (none, (position, stream) :: (reached, other) :: rest)

/-- The positions of the parked streams. -/
def positions (pool : Pool φ τ) : List Nat :=
  pool.parked.map Prod.fst

/-!
## Closing streams
-/

variable [Stream τ]

/-- Close a stream; a failure is only noted. -/
def closeQuietly (stream : τ) (host : Host) : Host :=
  match Stream.close stream host with
  | (.ok (), host) => host
  | (.error cause, host) => host.note (.closeFailed cause.text)

/-- Close streams in order; failures are only noted. -/
def closeAllQuietly (streams : List τ) (host : Host) : Host :=
  streams.foldl (fun host stream => closeQuietly stream host) host

/-- Close streams in order and collect the failures. -/
def closeAll : List τ -> Host -> List Error × Host
  | [], host => ([], host)
  | stream :: rest, host =>
      match Stream.close stream host with
      | (.ok (), host) => closeAll rest host
      | (.error cause, host) =>
          match closeAll rest host with
          | (errors, host) => (.io cause :: errors, host)

/-!
## Skipping
-/

/-- How many skips in a row may achieve nothing. -/
def maxIdleSkips : Nat := 3

/-- Skip until nothing remains.  The stream started at `start` and has `total` bytes to
skip in all; `idle` skips in a row achieved nothing so far. -/
def skipRemaining (start total : Nat) (stream : τ) (host : Host) (remaining idle : Nat) :
    Except Error Unit × τ × Host :=
  if remaining = 0 then
    (.ok (), stream, host)
  else
    match Stream.skip stream host remaining with
    | (.error cause, stream, host) => (.error (.io cause), stream, host)
    | (.ok 0, stream, host) =>
        if idle + 1 < maxIdleSkips then
          skipRemaining start total stream host remaining (idle + 1)
        else
          (.error (.unexpectedEof (start + (total - remaining)) (start + total)),
            stream, host)
    | (.ok (skipped + 1), stream, host) =>
        skipRemaining start total stream host (remaining - (skipped + 1)) 0
termination_by (remaining, maxIdleSkips - idle)
decreasing_by
  all_goals simp_wf
  · exact Prod.Lex.right _ (by omega)
  · exact Prod.Lex.left _ _ (by omega)

/-- Skip exactly `n` bytes of a stream that stands at `start`. -/
def skipFully (start n : Nat) (stream : τ) (host : Host) : Except Error Unit × τ × Host :=
  skipRemaining start n stream host n 0

/-!
## Reading
-/

variable [StreamFactory φ τ]

/-- Take up the parked stream closest before a position, or open a new one. -/
def checkOut (pool : Pool φ τ) (host : Host) (position : Nat) :
    Except Error (Nat × τ) × Pool φ τ × Host :=
  match takeFloor position pool.parked with
  | (some (reached, stream), parked) =>
      (.ok (reached, stream), { pool with parked },
        host.note (.reusingStream reached position))
  | (none, _) =>
      match StreamFactory.openStream pool.factory (host.note (.openingStream position)) with
      | (.ok stream, factory, host) => (.ok (0, stream), { pool with factory }, host)
      | (.error cause, factory, host) => (.error (.io cause), { pool with factory }, host)

/-- Park a stream.  Whoever was parked at the same position is closed first, then the
streams that are too many, the furthest one first. -/
def park (pool : Pool φ τ) (host : Host) (position : Nat) (stream : τ) : Pool φ τ × Host :=
  match putIn position stream pool.parked with
  | (replaced, parked) =>
      let evicted := (parked.drop pool.capacity).reverse
      let host := evicted.foldl (fun host entry => host.note (.evictingStream entry.1)) host
      ({ pool with parked := parked.take pool.capacity },
        closeAllQuietly (replaced.toList ++ evicted.map Prod.snd) host)

/-- Bring a stream that stands at `start` to a position and read there. -/
def readCheckedOut (start position length : Nat) (stream : τ) (host : Host) :
    Except Error (List UInt8) × τ × Host :=
  match skipFully start (position - start) stream host with
  | (.error error, stream, host) => (.error error, stream, host)
  | (.ok (), stream, host) =>
      match Stream.read stream host length with
      | (.ok piece, stream, host) => (.ok piece, stream, host)
      | (.error cause, stream, host) => (.error (.io cause), stream, host)

/-- Close a stream that failed.  A failure to close goes under the first failure. -/
def closeFailed (error : Error) (stream : τ) (host : Host) : Error × Host :=
  match Stream.close stream host with
  | (.ok (), host) => (error, host)
  | (.error cause, host) => (error.suppress (.io cause), host)

/-- Read at a position.  A stream that delivers nothing is at its end and is closed. -/
def readAt (pool : Pool φ τ) (host : Host) (position : Nat) (buffer : List UInt8) :
    Reading (Option Nat) (Pool φ τ) :=
  match pool.checkOut host position with
  | (.error error, pool, host) => .failed error buffer pool host
  | (.ok (start, stream), pool, host) =>
      match readCheckedOut start position buffer.length stream host with
      | (.error error, stream, host) =>
          match closeFailed error stream host with
          | (error, host) => .failed error buffer pool host
      | (.ok piece, stream, host) =>
          if piece = [] ∧ buffer ≠ [] then
            .nothing buffer pool (closeQuietly stream host)
          else if pool.size ≤ position + piece.length then
            .delivered piece buffer pool (closeQuietly stream host)
          else
            match pool.park host (position + piece.length) stream with
            | (pool, host) => .delivered piece buffer pool host

/-- Close all parked streams in the order of their positions. -/
def release (pool : Pool φ τ) (host : Host) : Except Error Unit × Pool φ τ × Host :=
  match closeAll (pool.parked.map Prod.snd) host with
  | (errors, host) => (Error.aggregate errors, { pool with parked := [] }, host)

instance : Source (Pool φ τ) where
  release := release
  size := Pool.size
  readAt := readAt

end Pool
end ByteWindow
