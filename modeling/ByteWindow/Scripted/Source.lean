import ByteWindow.Source
import ByteWindow.Scripted.Script

/-!
# Scripted sources

A source that declares any size it likes, delivers its data in small pieces, and reports
no data, empty reads or failures wherever its script says so.
-/

namespace ByteWindow
namespace Scripted

/-- A reply to a read. -/
inductive SourceReply
  /-- Deliver as much as usual. -/
  | normal
  /-- Report that there is no data. -/
  | nothing
  /-- Deliver no bytes. -/
  | empty
  /-- Deliver at most this many bytes. -/
  | atMost (n : Nat)
  | fail (error : Error)
  deriving Inhabited

/-- A source whose reads follow a script. -/
structure ScriptedSource where
  data : Array UInt8
  /-- The declared size. -/
  size : Nat
  /-- The most bytes that a normal read delivers. -/
  chunk : Option Nat := none
  replies : List SourceReply := []
  /-- The failure of a release, if it fails. -/
  releaseError : Option Error := none
  deriving Inhabited

namespace ScriptedSource

/-- Deliver at most `cap` bytes of the data; past its end there is nothing. -/
def deliver (s : ScriptedSource) (host : Host) (position : Nat) (buffer : List UInt8)
    (cap : Option Nat) : Reading (Option Nat) ScriptedSource :=
  if s.data.size ≤ position then
    .nothing buffer s host
  else
    .delivered (copyAt s.data position buffer.length cap) buffer s host

/-- Answer a read as the script says. -/
def answer (s : ScriptedSource) (host : Host) (position : Nat) (buffer : List UInt8) :
    Reading (Option Nat) ScriptedSource :=
  let (reply, replies) := nextReply .normal s.replies
  let s := { s with replies }
  match reply with
  | .normal => s.deliver host position buffer s.chunk
  | .nothing => .nothing buffer s host
  | .empty => .delivered [] buffer s host
  | .atMost n => s.deliver host position buffer (some n)
  | .fail error => .failed error buffer s host

/-- How a read ended, for the record. -/
def endingOf : Except Error (Option Nat) -> Ending
  | .ok (some n) => .count n
  | .ok none => .nothing
  | .error _ => .failed

instance : Source ScriptedSource where
  release s host :=
    (match s.releaseError with
      | none => .ok ()
      | some error => .error error, s, host.record .released)
  size := ScriptedSource.size
  readAt s host position buffer :=
    let reading := s.answer host position buffer
    { reading with
      host := reading.host.record
        (.readAt position buffer.length (endingOf reading.outcome)) }

end ScriptedSource

/-!
## Sources that are only released
-/

/-- Something that can only be released.  A silent one does it without a record. -/
structure Releasing where
  silent : Bool := false
  releaseError : Option Error := none
  deriving Inhabited

instance : Releasable Releasing where
  release s host :=
    if s.silent then
      (.ok (), s, host)
    else
      (match s.releaseError with
        | none => .ok ()
        | some error => .error error, s, host.record .released)

end Scripted
end ByteWindow
