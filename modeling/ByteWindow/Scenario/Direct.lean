import ByteWindow.Scenario.Noted
import ByteWindow.Scenario.Race

/-!
# Scenarios without views

The steps of these scenarios go to a source directly.  No window checks them, so they
may be empty, lie past the end, or come after the release.
-/

namespace ByteWindow

/-- A step on a source. -/
inductive DirectStep
  | size
  | read (mode : Mode) (position length : Nat)
  | readByte (position : Nat)
  | release
  | race (reads : List (Nat × Nat)) (moves : List RaceMove)
  /-- Give a named file new contents. -/
  | store (name : String) (bytes : Array UInt8)
  /-- Remove the name of a file. -/
  | remove (name : String)
  deriving Inhabited

/-- The answer to a step on a source. -/
inductive DirectAnswer
  | done (result : Except Error Unit)
  | number (n : Nat)
  | count (result : Except Error (Option Nat)) (buffer : List UInt8)
  | byte (result : Except Error (Option UInt8))
  | raced (result : RaceResult)

namespace DirectScene

variable {σ : Type} [Source σ]

/-- Start the reads of a race in order. -/
def startAll (s : σ) (host : Host) : List (Nat × Nat) -> List Entrant × σ × Host
  | [] => ([], s, host)
  | (position, length) :: rest =>
      match Entrant.start s host position length (blankBuffer length) with
      | (entrant, s, host) =>
          match startAll s host rest with
          | (entrants, s, host) => (entrant :: entrants, s, host)

/-- Make the moves of a race in order; to close is to release the source. -/
def makeMoves (s : σ) (host : Host) (entrants : List Entrant) :
    List RaceMove -> List (Except Error Unit) × List Entrant × σ × Host
  | [] => ([], entrants, s, host)
  | .abandon read :: rest =>
      match Entrant.abandonAt entrants read s host with
      | (entrants, s, host) =>
          match makeMoves s host entrants rest with
          | (results, entrants, s, host) => (.ok () :: results, entrants, s, host)
  | .close :: rest =>
      match Releasable.release s host with
      | (result, s, host) =>
          match makeMoves s host entrants rest with
          | (results, entrants, s, host) => (result :: results, entrants, s, host)

/-- Run a race on a source. -/
def race (s : σ) (host : Host) (reads : List (Nat × Nat)) (moves : List RaceMove) :
    RaceResult × σ × Host :=
  match startAll s host reads with
  | (entrants, s, host) =>
      match makeMoves s host entrants moves with
      | (results, entrants, s, host) =>
          match Entrant.finishAll entrants s host with
          | (entrants, s, host) => ({ reads := entrants, moves := results }, s, host)

/-- Take a step. -/
def take (s : σ) (host : Host) : DirectStep -> DirectAnswer × σ × Host
  | .size => (.number (Source.size s), s, host)
  | .read mode position length =>
      let reading := Source.readVia mode s host position (blankBuffer length)
      (.count reading.outcome reading.buffer, reading.source, reading.host)
  | .readByte position =>
      match Source.readByteAt s host position with
      | (result, s, host) => (.byte result, s, host)
  | .release =>
      match Releasable.release s host with
      | (result, s, host) => (.done result, s, host)
  | .race reads moves =>
      match race s host reads moves with
      | (result, s, host) => (.raced result, s, host)
  | .store name bytes =>
      (.done (.ok ()), s, { host with disk := host.disk.store name bytes })
  | .remove name => (.done (.ok ()), s, { host with disk := host.disk.remove name })

/-- Take steps in order, and put the answers down in reverse order, each with what can be
seen of the source from outside. -/
def takeAll {α : Type} (look : σ -> α) (s : σ) (host : Host) (steps : List DirectStep)
    (answers : List (Noted (DirectAnswer × α))) : List (Noted (DirectAnswer × α)) :=
  match steps with
  | [] => answers.reverse
  | step :: rest =>
      let (answer, s, host) := take s host step
      let (noted, host) := Noted.putDown (answer, look s) host
      takeAll look s host rest (noted :: answers)

end DirectScene

/-- Run a scenario on a source, and look at the source after each step. -/
def runDirect {σ α : Type} [Source σ] (look : σ -> α) (source : σ) (host : Host)
    (steps : List DirectStep) : List (Noted (DirectAnswer × α)) :=
  DirectScene.takeAll look source host steps []

end ByteWindow
