import ByteWindow.Proofs.Error.Leaves
import ByteWindow.Shared

/-!
# What listeners answer

When a source is given up, its listeners are told one after the other, whatever those before
them answered.  Each of them finds the source as the last one left it.  The close that gave the
source up reports the failure of the release and all failures of listeners, in this order.
-/

namespace ByteWindow
namespace Shared

open Error

variable {σ α : Type} [Listener α σ]

/-- The answers of listeners who are told one after the other. -/
def tellings (cause : Option Error) : List α -> σ -> Host -> List (Except Error Unit)
  | [], _, _ => []
  | listener :: rest, source, host =>
      let told := Listener.notify listener cause source host
      told.1 :: tellings cause rest told.2.1 told.2.2

theorem length_tellings (cause : Option Error) (listeners : List α) (source : σ)
    (host : Host) : (tellings cause listeners source host).length = listeners.length := by
  induction listeners generalizing source host with
  | nil => rfl
  | cons listener rest ih =>
      unfold tellings
      rw [List.length_cons, ih, List.length_cons]

theorem errors_notifyAll (cause : Option Error) (listeners : List α) (source : σ)
    (host : Host) :
    (notifyAll cause listeners source host).1 =
      (tellings cause listeners source host).filterMap failure? := by
  induction listeners generalizing source host with
  | nil => rfl
  | cons listener rest ih =>
      unfold notifyAll tellings
      cases htold : Listener.notify listener cause source host with
      | mk answer left =>
          cases answer with
          | ok done => exact ih left.1 left.2
          | error error => exact congrArg (error :: ·) (ih left.1 left.2)

variable [Releasable σ]

/-- The answers of the listeners when the source is given up. -/
def farewells (shared : Shared σ α) (host : Host) : List (Except Error Unit) :=
  let released := Releasable.release shared.source (host.note .releasing)
  tellings (failure? released.1) (shared.listeners.getD []) released.2.1 released.2.2

/-- Nothing that failed is lost when a source is given up. -/
theorem leavesOf_giveUp (shared : Shared σ α) (host : Host) :
    leavesOf (shared.giveUp host).1 =
      leavesOf (Releasable.release shared.source (host.note .releasing)).1 ++
        (shared.farewells host).flatMap leavesOf := by
  unfold giveUp farewells
  cases hreleased : Releasable.release shared.source (host.note .releasing) with
  | mk result left =>
      have herrors := errors_notifyAll (failure? result) (shared.listeners.getD [])
        left.1 left.2
      cases result with
      | ok done =>
          show leavesOf (aggregate (notifyAll none _ left.1 left.2).1) = _
          rw [leavesOf_aggregate, ← flatMap_leavesOf]
          exact congrArg (List.flatMap leaves) herrors
      | error cause =>
          show leavesOf (.error (cause.suppressAll (notifyAll (some cause) _ left.1 left.2).1)) =
            _
          rw [leavesOf_error, leavesOf_error, leaves_suppressAll, ← flatMap_leavesOf]
          exact congrArg (cause.leaves ++ ·) (congrArg (List.flatMap leaves) herrors)

end Shared
end ByteWindow
