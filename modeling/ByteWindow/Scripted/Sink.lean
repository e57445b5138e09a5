import ByteWindow.View.Transfer
import ByteWindow.Scripted.Script

/-!
# Scripted sinks

A sink that takes a limited number of bytes at once, stops taking any at a position, or
fails at a position.  A sink that is waited for deals with interruptions by itself.
-/

namespace ByteWindow
namespace Scripted

/-- A sink with limits and faults. -/
structure ScriptedSink where
  /-- The most bytes taken at once. -/
  limit : Option Nat := none
  /-- Where the sink stops taking bytes. -/
  fullAt : Option Nat := none
  fault : Option Fault := none
  flushError : Option IoError := none
  /-- All bytes that were taken. -/
  received : Array UInt8 := #[]
  /-- How many bytes each write took that did not fail. -/
  writes : Array Nat := #[]
  /-- How often the sink was flushed. -/
  flushes : Nat := 0
  deriving Inhabited

namespace ScriptedSink

/-- The first bytes, up to a limit if there is one. -/
def upTo (limit : Option Nat) (bytes : List UInt8) : List UInt8 :=
  match limit with
  | none => bytes
  | some limit => bytes.take limit

/-- Take bytes, but none past the position where the sink is full. -/
def take (s : ScriptedSink) (bytes : List UInt8) : Except IoError Nat × ScriptedSink :=
  let taken := upTo (s.fullAt.map fun position => position - s.received.size) bytes
  (.ok taken.length,
    { s with received := s.received ++ taken, writes := s.writes.push taken.length })

/-- Take bytes up to the fault; at the fault fail. -/
def write (s : ScriptedSink) (bytes : List UInt8) : Except IoError Nat × ScriptedSink :=
  let offered := upTo s.limit bytes
  match s.fault with
  | none => s.take offered
  | some fault =>
      if fault.position ≤ s.received.size then
        (.error fault.cause, if fault.once then { s with fault := none } else s)
      else
        s.take (offered.take (fault.position - s.received.size))

/-- Count the flush, and fail if the script says so. -/
def flush (s : ScriptedSink) : Except IoError Unit × ScriptedSink :=
  (match s.flushError with
    | none => .ok ()
    | some cause => .error cause, { s with flushes := s.flushes + 1 })

instance : Sink ScriptedSink where
  write := write
  flush := flush

end ScriptedSink

/-- A scripted sink that is waited for. -/
structure AwaitedSink where
  scripted : ScriptedSink
  deriving Inhabited

namespace AwaitedSink

/-- Offer bytes, and offer them again if that was interrupted. -/
def write (s : AwaitedSink) (bytes : List UInt8) : Except IoError Nat × AwaitedSink :=
  match s.scripted.write bytes with
  | (.ok n, scripted) => (.ok n, { scripted })
  | (.error cause, scripted) =>
      if cause.isInterrupted then
        let (result, scripted) := scripted.write bytes
        (result, { scripted })
      else
        (.error cause, { scripted })

instance : Sink AwaitedSink where
  write := write
  flush s :=
    let (result, scripted) := s.scripted.flush
    (result, { scripted })

end AwaitedSink
end Scripted
end ByteWindow
