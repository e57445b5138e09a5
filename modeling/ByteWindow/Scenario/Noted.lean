import ByteWindow.Host

/-!
# Answers with their remarks

A scenario is a list of steps whose answers are written down.  Beside each answer stand
the events and the diagnostics of that step alone.
-/

namespace ByteWindow

/-- An answer, and what happened while it was found. -/
structure Noted (α : Type) where
  answer : α
  events : Array Event := #[]
  diagnostics : Array Diagnostic := #[]
  deriving Inhabited

namespace Noted

/-- Put an answer down with everything that the host remembers, and let the host forget
it. -/
def putDown {α : Type} (answer : α) (host : Host) : Noted α × Host :=
  ({ answer, events := host.events, diagnostics := host.diagnostics }, host.cleared)

end Noted

/-- The byte that fills buffers before they are read into. -/
def blankByte : UInt8 := 0xEE

/-- A buffer that was not read into yet. -/
def blankBuffer (length : Nat) : List UInt8 :=
  List.replicate length blankByte

end ByteWindow
