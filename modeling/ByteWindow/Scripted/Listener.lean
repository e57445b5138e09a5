import ByteWindow.Shared

/-!
# Scripted listeners

Steps that can be taken on a shared source, and listeners that take such steps of their
own when they are told of the release.  By then the source has no owner and nobody can
join, so every step inside a listener meets a source that is already given up.
-/

namespace ByteWindow
namespace Scripted

/-- A step on a shared source. -/
inductive SharedStep
  | retain
  | close
  /-- Release the source itself, whoever owns it. -/
  | release
  | describe
  /-- Register a listener with a name, a failure and steps of its own. -/
  | listen (name : String) (failure : Option Error) (inside : List SharedStep)
  deriving Inhabited

/-- The answer to a step. -/
inductive SharedAnswer
  | done (result : Except Error Unit)
  | text (shown : String)

/-- A listener: its name, whether it fails, and what it does when it is told. -/
structure ScriptedListener where
  name : String
  failure : Option Error := none
  inside : List SharedStep := []
  deriving Inhabited

/-- An answer in short: only the name of an error is told. -/
def SharedAnswer.short : SharedAnswer -> String
  | .done (.ok ()) => "ok"
  | .done (.error error) => error.name
  | .text shown => shown

/-- Success, or the failure that was asked for. -/
def resultOf : Option Error -> Except Error Unit
  | none => .ok ()
  | some error => .error error

variable {σ : Type} [Releasable σ]

mutual

/-- Take a step on a source that is given up. -/
def stepAfterRelease (source : σ) (host : Host) : SharedStep -> SharedAnswer × σ × Host
  | .retain => (.done (.error .released), source, host)
  | .close => (.done (.error .released), source, host)
  | .release =>
      match Releasable.release source host with
      | (result, source, host) => (.done result, source, host)
  | .describe =>
      (.text (Shared.describe (σ := σ) (α := ScriptedListener)
        { count := 0, listeners := none, source }), source, host)
  | .listen name failure inside =>
      match stepsInside name source (host.record (.notified name none)) inside with
      | (source, host) => (.done (resultOf failure), source, host)

/-- Take the steps of a listener in order, and record the answers. -/
def stepsInside (name : String) (source : σ) (host : Host) : List SharedStep -> σ × Host
  | [] => (source, host)
  | step :: rest =>
      match stepAfterRelease source host step with
      | (answer, source, host) =>
          stepsInside name source (host.record (.answered name answer.short)) rest

end

instance : Listener ScriptedListener σ where
  notify listener cause source host :=
    match stepsInside listener.name source
        (host.record (.notified listener.name cause)) listener.inside with
    | (source, host) => (resultOf listener.failure, source, host)

end Scripted
end ByteWindow
