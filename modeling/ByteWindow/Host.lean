import ByteWindow.Host.Disk
import ByteWindow.Host.Journal

/-!
# The host

Sources live on a host.  The host holds the files that sources read, and it remembers
the events and the diagnostics that arise while they work.  Every operation takes the
host and hands it back.

Some operations are repeated for as long as they are interrupted.  A run of them that comes to
an end needs a bound, and the host has one.  Nothing rests on how large it is.
-/

namespace ByteWindow

/-- Files, and the record of what happened. -/
structure Host where
  disk : Disk := {}
  events : Array Event := #[]
  diagnostics : Array Diagnostic := #[]
  /-- How often an interrupted operation is repeated before it is given up. -/
  patience : Nat := 0x100000
  deriving Inhabited

namespace Host

/-- Record an event. -/
def record (host : Host) (event : Event) : Host :=
  { host with events := host.events.push event }

/-- Record several events in order. -/
def recordAll (host : Host) (events : List Event) : Host :=
  events.foldl record host

/-- Note a diagnostic. -/
def note (host : Host) (diagnostic : Diagnostic) : Host :=
  { host with diagnostics := host.diagnostics.push diagnostic }

/-- Forget what happened so far. -/
def cleared (host : Host) : Host :=
  { host with events := #[], diagnostics := #[] }

@[simp] theorem toList_events_record (host : Host) (event : Event) :
    (host.record event).events.toList = host.events.toList ++ [event] := by
  simp [record]

theorem toList_events_recordAll (host : Host) (events : List Event) :
    (host.recordAll events).events.toList = host.events.toList ++ events := by
  induction events generalizing host with
  | nil => simp [recordAll]
  | cons event rest ih =>
      have step := ih (host.record event)
      simp only [recordAll, List.foldl_cons] at step ⊢
      rw [step, toList_events_record, List.append_assoc]
      rfl

end Host
end ByteWindow
