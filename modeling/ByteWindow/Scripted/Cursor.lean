import ByteWindow.Stream
import ByteWindow.Scripted.Script

/-!
# Scripted cursors

A cursor that can ignore moves, land beside its target, misreport its position and drift
after reads, as its scripts say.
-/

namespace ByteWindow
namespace Scripted

/-- A reply to a move. -/
inductive SeekReply
  | normal
  /-- Stay, and report the position. -/
  | ignore
  /-- Stay, and report the target. -/
  | lie
  /-- Land beside the target. -/
  | offBy (distance : Int)
  | fail (cause : IoError)
  deriving Inhabited

/-- A reply to the question for the position. -/
inductive TellReply
  | normal
  /-- Report a place beside the position. -/
  | offBy (distance : Int)
  | fail (cause : IoError)
  deriving Inhabited

/-- A reply to a read. -/
inductive ReadReply
  /-- Deliver at most so many bytes, or as many as usual, and move on afterwards. -/
  | deliver (cap : Option Nat) (drift : Int)
  | fail (cause : IoError)

instance : Inhabited ReadReply := ⟨.deliver none 0⟩

/-- A cursor whose calls follow scripts. -/
structure ScriptedCursor where
  data : Array UInt8
  position : Nat := 0
  /-- The most bytes that a normal read delivers. -/
  chunk : Option Nat := none
  seeks : List SeekReply := []
  tells : List TellReply := []
  reads : List ReadReply := []
  deriving Inhabited

namespace ScriptedCursor

/-- The position that a move is aimed at. -/
def target (s : ScriptedCursor) : SeekTarget -> Nat
  | .start position => clampPosition position
  | .fromEnd distance => clampPosition (s.data.size + distance)
  | .current distance => clampPosition (s.position + distance)

/-- Move as the script says. -/
def seek (s : ScriptedCursor) (host : Host) (aim : SeekTarget) :
    Except IoError Nat × ScriptedCursor × Host :=
  let (reply, seeks) := nextReply .normal s.seeks
  let s := { s with seeks }
  let target := s.target aim
  let (result, position) : Except IoError Nat × Nat :=
    match reply with
    | .normal => (.ok target, target)
    | .ignore => (.ok s.position, s.position)
    | .lie => (.ok target, s.position)
    | .offBy distance =>
        let landed := clampPosition (target + distance)
        (.ok landed, landed)
    | .fail cause => (.error cause, s.position)
  (result, { s with position }, host.record (.sought aim (.ofExcept result)))

/-- Report the position as the script says. -/
def tell (s : ScriptedCursor) (host : Host) : Except IoError Nat × ScriptedCursor × Host :=
  let (reply, tells) := nextReply .normal s.tells
  let result : Except IoError Nat :=
    match reply with
    | .normal => .ok s.position
    | .offBy distance => .ok (clampPosition (s.position + distance))
    | .fail cause => .error cause
  (result, { s with tells }, host.record (.told (.ofExcept result)))

/-- Read as the script says. -/
def read (s : ScriptedCursor) (host : Host) (length : Nat) :
    Except IoError (List UInt8) × ScriptedCursor × Host :=
  let (reply, reads) := nextReply (.deliver none 0) s.reads
  let s := { s with reads }
  match reply with
  | .deliver cap drift =>
      let piece := copyAt s.data s.position length (cap.orElse fun _ => s.chunk)
      let position := clampPosition (clampPosition (s.position + piece.length) + drift)
      (.ok piece, { s with position }, host.record (.read length (.count piece.length)))
  | .fail cause => (.error cause, s, host.record (.read length .failed))

instance : ByteCursor ScriptedCursor where
  read := read
  seek := seek
  tell := tell

end ScriptedCursor
end Scripted
end ByteWindow
