import ByteWindow.Scenario.Noted
import ByteWindow.Scripted.Listener

/-!
# Scenarios of shared ownership

The steps of these scenarios add and take away owners and register listeners.  After each
step it is written down how many owners there are.
-/

namespace ByteWindow

open Scripted

/-- The answer to a step, and the state of the ownership after it. -/
structure Ownership where
  answer : SharedAnswer
  count : Nat
  isOpen : Bool

namespace SharedScene

variable {σ : Type} [Releasable σ]

/-- Take a step. -/
def take (shared : Shared σ ScriptedListener) (host : Host) :
    SharedStep -> SharedAnswer × Shared σ ScriptedListener × Host
  | .retain =>
      match shared.retain with
      | (result, shared) => (.done result, shared, host)
  | .close =>
      match shared.close host with
      | (result, shared, host) => (.done result, shared, host)
  | .release =>
      match Releasable.release shared.source host with
      | (result, source, host) => (.done result, { shared with source }, host)
  | .describe => (.text shared.describe, shared, host)
  | .listen name failure inside =>
      match shared.listen { name, failure, inside } host with
      | (result, shared, host) => (.done result, shared, host)

/-- Take steps in order, and put the answers down in reverse order. -/
def takeAll (shared : Shared σ ScriptedListener) (host : Host) (steps : List SharedStep)
    (answers : List (Noted Ownership)) : List (Noted Ownership) :=
  match steps with
  | [] => answers.reverse
  | step :: rest =>
      let (answer, shared, host) := take shared host step
      let ownership : Ownership :=
        { answer, count := shared.count, isOpen := shared.isOpen }
      let (noted, host) := Noted.putDown ownership host
      takeAll shared host rest (noted :: answers)

end SharedScene

/-- Run a scenario on a source with its first owner. -/
def runSharing {σ : Type} [Releasable σ] (source : σ) (host : Host)
    (steps : List SharedStep) : List (Noted Ownership) :=
  SharedScene.takeAll (Shared.new source) host steps []

end ByteWindow
