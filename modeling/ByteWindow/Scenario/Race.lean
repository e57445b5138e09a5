import ByteWindow.View.Read

/-!
# Races of started reads

Several reads are started in order before any of them is finished.  Then some are
abandoned, or the source goes away, and in the end the remaining reads are finished in
order.
-/

namespace ByteWindow

/-- What happens between the start and the end of a race. -/
inductive RaceMove
  /-- The read with this number is abandoned, if it still waits. -/
  | abandon (read : Nat)
  /-- The source is closed. -/
  | close
  deriving Inhabited

/-- A read in a race. -/
inductive Entrant
  /-- The read has its outcome; it had to wait for it or not. -/
  | settled (waited : Bool) (outcome : Except Error (Option Nat)) (buffer : List UInt8)
  /-- The read waits for the first `length` bytes of its buffer. -/
  | waiting (task : ReadTask) (length : Nat) (buffer : List UInt8)
  /-- The read was abandoned while it waited. -/
  | abandoned (buffer : List UInt8)
  deriving Inhabited

namespace Entrant

variable {σ : Type} [Source σ]

/-- Start a read of the source into the first `length` bytes of a buffer. -/
def start (s : σ) (host : Host) (position length : Nat) (buffer : List UInt8) :
    Entrant × σ × Host :=
  match Source.startRead s host position (buffer.take length) with
  | .finished reading =>
      (.settled false reading.outcome (reading.buffer ++ buffer.drop length),
        reading.source, reading.host)
  | .waiting task s host => (.waiting task length buffer, s, host)

/-- Start a read of a view.  What needs no source is settled at once. -/
def startIn (view : View) (s : σ) (host : Host) (position : Nat) (buffer : List UInt8) :
    Entrant × σ × Host :=
  if view.closed then
    (.settled false (.error .released) buffer, s, host)
  else
    match view.requestLength buffer.length position 0 buffer.length with
    | .error error => (.settled false (.error error) buffer, s, host)
    | .ok none => (.settled false (.ok none) buffer, s, host)
    | .ok (some 0) => (.settled false (.ok (some 0)) buffer, s, host)
    | .ok (some length) => start s host (view.offset + position) length buffer

/-- Abandon a read that waits. -/
def abandon (entrant : Entrant) (s : σ) (host : Host) : Entrant × σ × Host :=
  match entrant with
  | .waiting _ _ buffer =>
      match Source.abandonRead s host with
      | (s, host) => (.abandoned buffer, s, host)
  | _ => (entrant, s, host)

/-- Finish a read that waits. -/
def finish (entrant : Entrant) (s : σ) (host : Host) : Entrant × σ × Host :=
  match entrant with
  | .waiting task length buffer =>
      let reading := Source.finishRead task s host (buffer.take length)
      (.settled true reading.outcome (reading.buffer ++ buffer.drop length),
        reading.source, reading.host)
  | _ => (entrant, s, host)

/-- Abandon the read with a number. -/
def abandonAt (entrants : List Entrant) (number : Nat) (s : σ) (host : Host) :
    List Entrant × σ × Host :=
  match entrants[number]? with
  | none => (entrants, s, host)
  | some entrant =>
      match entrant.abandon s host with
      | (entrant, s, host) => (entrants.set number entrant, s, host)

/-- Finish all reads that wait, in order. -/
def finishAll : List Entrant -> σ -> Host -> List Entrant × σ × Host
  | [], s, host => ([], s, host)
  | entrant :: rest, s, host =>
      match entrant.finish s host with
      | (entrant, s, host) =>
          match finishAll rest s host with
          | (rest, s, host) => (entrant :: rest, s, host)

end Entrant

/-- The reads of a race after it, and the answers to the moves. -/
structure RaceResult where
  reads : List Entrant
  moves : List (Except Error Unit)
  deriving Inhabited

end ByteWindow
