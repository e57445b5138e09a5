import ByteWindow.Reader.Drain
import ByteWindow.Scenario.Noted
import ByteWindow.Scenario.Race
import ByteWindow.Scripted.Listener
import ByteWindow.Scripted.Sink

/-!
# Scenarios with views

A scenario opens a view of a source and takes steps on numbered views that all share the
source.  Views of views get the next number.  In the end the views that are still held
go out of use in the order of their numbers.
-/

namespace ByteWindow

open Scripted

/-!
## Steps of readers
-/

/-- A step of a reader. -/
inductive ReaderStep
  | position
  | available
  | mark
  | reset
  | skip (n : Nat)
  | readByte
  | read (length : Nat)
  | readExact (length : Nat)
  | readToEnd
  | seek (target : SeekTarget)
  | tell
  | rewind
  /-- Close the view that the reader borrows. -/
  | closeView
  deriving Inhabited

/-- The answer to a step of a reader. -/
inductive ReaderAnswer
  | done
  | number (n : Nat)
  | byte (result : Except ConsumerError (Option UInt8))
  | read (result : Except ConsumerError Nat) (buffer : List UInt8)
  | filled (result : Except ConsumerError Unit) (buffer : List UInt8)
  | gathered (result : Except ConsumerError Nat) (bytes : Array UInt8)
  | reached (result : Except ConsumerError Nat)
  | closed (result : Except Error Unit)
  /-- The reader owns its view, so nobody else can close it. -/
  | noView

/-- The answer to a step of a reader, and where the reader stands then. -/
structure Stand where
  answer : ReaderAnswer
  position : Nat

/-- A reader over a view at work. -/
structure ReaderScene (σ : Type) where
  reader : Reader := {}
  /-- Whether the reader owns its view. -/
  owning : Bool
  view : View
  shared : Shared σ ScriptedListener
  host : Host

namespace ReaderScene

variable {σ : Type} [Source σ]

/-- Take over what a step of the reader left behind. -/
def follow {α : Type} (scene : ReaderScene σ) (consumed : Consumed α σ) : ReaderScene σ :=
  { scene with
    reader := consumed.reader
    shared := { scene.shared with source := consumed.source }
    host := consumed.host }

/-- Move the reader. -/
def moveTo (scene : ReaderScene σ) (target : SeekTarget) :
    Except ConsumerError Nat × ReaderScene σ :=
  match scene.reader.seek scene.view target with
  | (result, reader) => (result, { scene with reader })

/-- Take a step. -/
def take (scene : ReaderScene σ) (step : ReaderStep) : ReaderAnswer × ReaderScene σ :=
  let reader := scene.reader
  let source := scene.shared.source
  match step with
  | .position => (.number reader.position, scene)
  | .available => (.number (reader.available scene.view), scene)
  | .mark => (.done, { scene with reader := reader.setMark })
  | .reset => (.done, { scene with reader := reader.reset })
  | .skip n =>
      match reader.skip scene.view n with
      | (skipped, reader) => (.number skipped, { scene with reader })
  | .readByte =>
      let consumed := reader.readByte scene.view source scene.host
      (.byte consumed.outcome, scene.follow consumed)
  | .read length =>
      match reader.read scene.view source scene.host (blankBuffer length) with
      | (consumed, buffer) => (.read consumed.outcome buffer, scene.follow consumed)
  | .readExact length =>
      match reader.readExact scene.view source scene.host (blankBuffer length) with
      | (consumed, buffer) => (.filled consumed.outcome buffer, scene.follow consumed)
  | .readToEnd =>
      match reader.readToEnd scene.view source scene.host with
      | (consumed, bytes) => (.gathered consumed.outcome bytes, scene.follow consumed)
  | .seek target =>
      match scene.moveTo target with
      | (result, scene) => (.reached result, scene)
  | .tell =>
      match scene.moveTo (.current 0) with
      | (result, scene) => (.reached result, scene)
  | .rewind => (.done, (scene.moveTo (.start 0)).2)
  | .closeView =>
      if scene.owning then
        (.noView, scene)
      else
        match scene.view.close scene.shared scene.host with
        | (result, view, shared, host) =>
            (.closed result, { scene with view, shared, host })

/-- Take steps in order, and put the answers down in reverse order. -/
def takeAll (scene : ReaderScene σ) (steps : List ReaderStep) (stands : List (Noted Stand)) :
    List (Noted Stand) × ReaderScene σ :=
  match steps with
  | [] => (stands.reverse, scene)
  | step :: rest =>
      let (answer, scene) := scene.take step
      let stand : Stand := { answer, position := scene.reader.position }
      let (noted, host) := Noted.putDown stand scene.host
      takeAll { scene with host } rest (noted :: stands)

end ReaderScene

/-!
## Steps on views
-/

/-- What a step does to a view. -/
inductive ViewStep
  | size
  | isOpen
  | describe
  | sub (position length : Nat)
  | subFrom (position : Nat)
  | read (mode : Mode) (length position offset max : Nat)
  | readFully (mode : Mode) (length position offset max : Nat)
  | readAt (length position : Nat)
  | readFrom (mode : Mode) (position max : Nat)
  | readAll (mode : Mode)
  | readByte (position : Nat)
  | transfer (mode : Mode) (bufferSize : Nat) (sink : ScriptedSink)
  | listen (listener : ScriptedListener)
  | close
  | drop
  /-- Read in sequence; the view stays where it is. -/
  | reader (steps : List ReaderStep)
  /-- Read in sequence with a reader that owns the view; the view comes back, or it goes
  out of use with the reader. -/
  | intoReader (steps : List ReaderStep) (dropped : Bool)
  | race (reads : List (Nat × Nat)) (moves : List RaceMove)
  /-- Give a named file new contents. -/
  | store (name : String) (bytes : Array UInt8)
  /-- Remove the name of a file. -/
  | remove (name : String)
  deriving Inhabited

/-- The answer to a step on a view. -/
inductive ViewAnswer
  /-- There is no view with the number of the step. -/
  | noView
  | done (result : Except Error Unit)
  | number (n : Nat)
  | flag (value : Bool)
  | text (shown : String)
  /-- A new view with its number and its size. -/
  | opened (result : Except Error (Nat × Nat))
  | count (result : Except Error (Option Nat)) (buffer : List UInt8)
  | bytes (result : Except Error (List UInt8))
  | byte (result : Except Error (Option UInt8))
  | transferred (result : Except Error Nat) (sink : ScriptedSink)
  | stands (answers : List (Noted Stand))
  | raced (result : RaceResult)

/-- The views of a source. -/
structure ViewScene (σ : Type) where
  /-- The views by number, as far as they are still held. -/
  views : Array (Option View)
  shared : Shared σ ScriptedListener
  host : Host

namespace ViewScene

variable {σ : Type} [Source σ]

/-- Open the first view of a source.  If that fails, the source is thrown away. -/
def openAt (source : σ) (host : Host) (offset : Nat) (length : Option Nat) :
    Except Error (ViewScene σ) × Host :=
  match View.select? (Source.size source) offset length with
  | .ok view => (.ok { views := #[some view], shared := Shared.new source, host }, host)
  | .error error => (.error error, Source.discard source host)

/-- The view with a number, if it is still held. -/
def view? (scene : ViewScene σ) (number : Nat) : Option View :=
  (scene.views[number]?).join

/-- Go on with the source and the host that a step left behind. -/
def follow (scene : ViewScene σ) (source : σ) (host : Host) : ViewScene σ :=
  { scene with shared := { scene.shared with source }, host }

/-- Give a view the next number. -/
def enroll (scene : ViewScene σ) (result : Except Error View)
    (shared : Shared σ ScriptedListener) : ViewAnswer × ViewScene σ :=
  match result with
  | .ok view =>
      (.opened (.ok (scene.views.size, view.size)),
        { scene with views := scene.views.push (some view), shared })
  | .error error => (.opened (.error error), { scene with shared })

/-- Let the view with a number go out of use. -/
def dropView (scene : ViewScene σ) (number : Nat) (view : View) : ViewScene σ :=
  match view.drop scene.shared scene.host with
  | (shared, host) =>
      { views := scene.views.setIfInBounds number none, shared, host }

/-!
### Races
-/

/-- Start the reads of a race in order. -/
def startAll (scene : ViewScene σ) (view : View) :
    List (Nat × Nat) -> List Entrant × ViewScene σ
  | [] => ([], scene)
  | (position, length) :: rest =>
      match Entrant.startIn view scene.shared.source scene.host position
          (blankBuffer length) with
      | (entrant, source, host) =>
          match (scene.follow source host).startAll view rest with
          | (entrants, scene) => (entrant :: entrants, scene)

/-- Make the moves of a race in order. -/
def makeMoves (scene : ViewScene σ) (number : Nat) (view : View) (entrants : List Entrant) :
    List RaceMove -> List (Except Error Unit) × List Entrant × ViewScene σ
  | [] => ([], entrants, scene)
  | .abandon read :: rest =>
      match Entrant.abandonAt entrants read scene.shared.source scene.host with
      | (entrants, source, host) =>
          match (scene.follow source host).makeMoves number view entrants rest with
          | (results, entrants, scene) => (.ok () :: results, entrants, scene)
  | .close :: rest =>
      match view.close scene.shared scene.host with
      | (result, view, shared, host) =>
          let scene : ViewScene σ :=
            { views := scene.views.setIfInBounds number (some view), shared, host }
          match scene.makeMoves number view entrants rest with
          | (results, entrants, scene) => (result :: results, entrants, scene)

/-- Run a race on a view. -/
def race (scene : ViewScene σ) (number : Nat) (view : View) (reads : List (Nat × Nat))
    (moves : List RaceMove) : RaceResult × ViewScene σ :=
  match scene.startAll view reads with
  | (entrants, scene) =>
      match scene.makeMoves number view entrants moves with
      | (results, entrants, scene) =>
          match Entrant.finishAll entrants scene.shared.source scene.host with
          | (entrants, source, host) =>
              ({ reads := entrants, moves := results }, scene.follow source host)

/-!
### Steps
-/

/-- Read in sequence through the view with a number. -/
def runReader (scene : ViewScene σ) (number : Nat) (view : View) (owning : Bool)
    (steps : List ReaderStep) : List (Noted Stand) × View × ViewScene σ :=
  let readerScene : ReaderScene σ :=
    { owning, view, shared := scene.shared, host := scene.host }
  match readerScene.takeAll steps [] with
  | (stands, readerScene) =>
      (stands, readerScene.view,
        { views := scene.views.setIfInBounds number (some readerScene.view)
          shared := readerScene.shared
          host := readerScene.host })

/-- Take a step on the view with a number. -/
def takeOn (scene : ViewScene σ) (number : Nat) (view : View) (step : ViewStep) :
    ViewAnswer × ViewScene σ :=
  let source := scene.shared.source
  let host := scene.host
  let counted (reading : Reading (Option Nat) σ) : ViewAnswer × ViewScene σ :=
    (.count reading.outcome reading.buffer, scene.follow reading.source reading.host)
  match step with
  | .size => (.number view.size, scene)
  | .isOpen => (.flag (view.isOpen scene.shared), scene)
  | .describe => (.text (view.describe scene.shared), scene)
  | .sub position length =>
      match view.section? scene.shared position length with
      | (result, shared) => scene.enroll result shared
  | .subFrom position =>
      match view.sectionFrom? scene.shared position with
      | (result, shared) => scene.enroll result shared
  | .read mode length position offset max =>
      counted (view.read mode source host (blankBuffer length) position offset max)
  | .readFully mode length position offset max =>
      counted (view.readFully mode source host (blankBuffer length) position offset max)
  | .readAt length position =>
      counted (view.readAt source host position (blankBuffer length))
  | .readFrom mode position max =>
      match view.readFrom mode source host position max with
      | (result, source, host) => (.bytes result, scene.follow source host)
  | .readAll mode =>
      match view.readAll mode source host with
      | (result, source, host) => (.bytes result, scene.follow source host)
  | .readByte position =>
      match view.readByteAt source host position with
      | (result, source, host) => (.byte result, scene.follow source host)
  | .transfer .blocking bufferSize sink =>
      let transferred := view.transfer .blocking sink source host bufferSize
      (.transferred transferred.outcome transferred.sink,
        scene.follow transferred.source transferred.host)
  | .transfer .awaited bufferSize sink =>
      let awaited : AwaitedSink := { scripted := sink }
      let transferred := view.transfer .awaited awaited source host bufferSize
      (.transferred transferred.outcome transferred.sink.scripted,
        scene.follow transferred.source transferred.host)
  | .listen listener =>
      match scene.shared.listen listener host with
      | (result, shared, host) => (.done result, { scene with shared, host })
  | .close =>
      match view.close scene.shared host with
      | (result, view, shared, host) =>
          (.done result,
            { views := scene.views.setIfInBounds number (some view), shared, host })
  | .drop => (.done (.ok ()), scene.dropView number view)
  | .reader steps =>
      match scene.runReader number view false steps with
      | (stands, _, scene) => (.stands stands, scene)
  | .intoReader steps dropped =>
      match scene.runReader number view true steps with
      | (stands, view, scene) =>
          (.stands stands, if dropped then scene.dropView number view else scene)
  | .race reads moves =>
      match scene.race number view reads moves with
      | (result, scene) => (.raced result, scene)
  | .store name bytes =>
      (.done (.ok ()), { scene with host := { host with disk := host.disk.store name bytes } })
  | .remove name =>
      (.done (.ok ()), { scene with host := { host with disk := host.disk.remove name } })

/-- Take a step.  Steps on views that are not held have no effect. -/
def take (scene : ViewScene σ) (number : Nat) (step : ViewStep) : ViewAnswer × ViewScene σ :=
  match scene.view? number with
  | some view => scene.takeOn number view step
  | none => (.noView, scene)

/-- Take steps in order, and put the answers down in reverse order. -/
def takeAll (scene : ViewScene σ) (steps : List (Nat × ViewStep))
    (answers : List (Noted ViewAnswer)) : List (Noted ViewAnswer) × ViewScene σ :=
  match steps with
  | [] => (answers.reverse, scene)
  | (number, step) :: rest =>
      let (answer, scene) := scene.take number step
      let (noted, host) := Noted.putDown answer scene.host
      takeAll { scene with host } rest (noted :: answers)

/-- Let all views go out of use that are still held, in the order of their numbers. -/
def dropAll (scene : ViewScene σ) : ViewScene σ :=
  (List.range scene.views.size).foldl
    (fun scene number =>
      match scene.view? number with
      | some view => scene.dropView number view
      | none => scene)
    scene

end ViewScene

/-- The answers of a scenario with views. -/
structure ViewReport where
  /-- The size of the first view. -/
  opened : Noted Nat
  steps : List (Noted ViewAnswer)
  ending : Noted Unit

/-- Run a scenario on a source: open the first view, take the steps, and let all views go
out of use. -/
def runViews {σ : Type} [Source σ] (source : σ) (host : Host) (offset : Nat)
    (length : Option Nat) (steps : List (Nat × ViewStep)) :
    Except (Noted Error) ViewReport :=
  match ViewScene.openAt source host offset length with
  | (.error error, host) => .error (Noted.putDown error host).1
  | (.ok scene, _) =>
      let size := ((scene.view? 0).map View.size).getD 0
      let (opened, host) := Noted.putDown size scene.host
      let (answers, scene) := ViewScene.takeAll { scene with host } steps []
      .ok
        { opened
          steps := answers
          ending := (Noted.putDown () scene.dropAll.host).1 }

end ByteWindow
