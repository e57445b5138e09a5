import ByteWindow.Source

/-!
# Shared ownership

Several owners can share a source.  The count of owners starts at one; an owner who joins
adds one, and an owner who leaves takes one away.  When the last owner leaves, the source
is released and everybody who asked to hear of it is told, once and in order.  After that
nobody can join or leave.

A listener only ever runs when the source is already given up.  So it can still reach the
source, but it finds nobody to join.
-/

namespace ByteWindow

/-- Somebody who is told that a source was released. -/
class Listener (α σ : Type) where
  /-- Tell the listener, with the reason if the release failed. -/
  notify : α -> Option Error -> σ -> Host -> Except Error Unit × σ × Host

/-- A source with its owners and its listeners. -/
structure Shared (σ α : Type) where
  /-- How many owners there are. -/
  count : Nat
  /-- Who is to be told of the release; nobody can be added after it. -/
  listeners : Option (List α)
  source : σ

namespace Shared

variable {σ α : Type}

/-- A source with its first owner. -/
def new (source : σ) : Shared σ α :=
  { count := 1, listeners := some [], source }

/-- Whether anybody still owns the source. -/
def isOpen (shared : Shared σ α) : Bool :=
  0 < shared.count

/-- Add an owner, unless all are gone. -/
def retain (shared : Shared σ α) : Except Error Unit × Shared σ α :=
  if shared.count = 0 then
    (.error .released, shared)
  else
    (.ok (), { shared with count := shared.count + 1 })

variable [Listener α σ]

/-- Tell every listener in order, and collect their failures. -/
def notifyAll (cause : Option Error) : List α -> σ -> Host -> List Error × σ × Host
  | [], source, host => ([], source, host)
  | listener :: rest, source, host =>
      match Listener.notify listener cause source host with
      | (.ok (), source, host) => notifyAll cause rest source host
      | (.error error, source, host) =>
          match notifyAll cause rest source host with
          | (errors, source, host) => (error :: errors, source, host)

/-- Release the source and tell the listeners.  A failed release comes first in what is
reported, and the failures of listeners go under it. -/
def giveUp [Releasable σ] (shared : Shared σ α) (host : Host) :
    Except Error Unit × Shared σ α × Host :=
  let listeners := shared.listeners.getD []
  match Releasable.release shared.source (host.note .releasing) with
  | (.ok (), source, host) =>
      match notifyAll none listeners source host with
      | (errors, source, host) =>
          (Error.aggregate errors, { count := 0, listeners := none, source }, host)
  | (.error cause, source, host) =>
      match notifyAll (some cause) listeners source host with
      | (errors, source, host) =>
          (.error (cause.suppressAll errors), { count := 0, listeners := none, source }, host)

/-- Take an owner away.  When it was the last one, the source is given up. -/
def close [Releasable σ] (shared : Shared σ α) (host : Host) :
    Except Error Unit × Shared σ α × Host :=
  match shared.count with
  | 0 => (.error .released, shared, host)
  | 1 => shared.giveUp host
  | count + 2 => (.ok (), { shared with count := count + 1 }, host)

/-- Ask to be told of the release.  Who asks too late is told at once. -/
def listen (shared : Shared σ α) (listener : α) (host : Host) :
    Except Error Unit × Shared σ α × Host :=
  match shared.listeners with
  | some listeners =>
      (.ok (), { shared with listeners := some (listeners ++ [listener]) }, host)
  | none =>
      match Listener.notify listener none shared.source host with
      | (result, source, host) => (result, { shared with source }, host)

/-- The text shown for a shared source: the number of its owners. -/
def describe (shared : Shared σ α) : String :=
  s!"SharedResource \x7b count: {shared.count}, .. \x7d"

end Shared
end ByteWindow
