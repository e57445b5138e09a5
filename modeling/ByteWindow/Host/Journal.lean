import ByteWindow.Error.Basic

/-!
# What happened, in order

Two kinds of entries are kept.  An event records a call into an object that was handed
to the library: a stream, a listener, a buffer.  A diagnostic is a remark that the
library makes about its own work, at one of three levels.
-/

namespace ByteWindow

/-- Where a seek is aimed at. -/
inductive SeekTarget
  | start (position : Nat)
  | fromEnd (distance : Int)
  | current (distance : Int)
  deriving DecidableEq, Inhabited

/-- The text of a seek target in events. -/
def SeekTarget.text : SeekTarget -> String
  | start position => s!"start {position}"
  | fromEnd distance => s!"end {distance}"
  | current distance => s!"cur {distance}"

/-- How a recorded call ended. -/
inductive Ending
  | count (n : Nat)
  | nothing
  | failed
  deriving DecidableEq, Inhabited

/-- The text of an ending in events. -/
def Ending.text : Ending -> String
  | count n => toString n
  | nothing => "none"
  | failed => "err"

/-- How a call that yields a number ended. -/
def Ending.ofExcept {ε : Type} : Except ε Nat -> Ending
  | .ok n => count n
  | .error _ => failed

/-- A recorded call. -/
inductive Event
  /-- The bytes of a buffer were freed. -/
  | bufferFreed
  /-- The memory of a buffer of this length was handed to its reclaimer. -/
  | reclaimed (length : Nat)
  /-- A resource attached to a buffer was freed. -/
  | resourceFreed (name : String)
  /-- A source was read at a position into a buffer of a given length. -/
  | readAt (position length : Nat) (ending : Ending)
  /-- A source was released. -/
  | released
  /-- A cursor was moved. -/
  | sought (target : SeekTarget) (ending : Ending)
  /-- A cursor was asked for its position. -/
  | told (ending : Ending)
  /-- A cursor was read into a buffer of a given length. -/
  | read (length : Nat) (ending : Ending)
  /-- A numbered stream was opened. -/
  | opened (stream : Nat)
  /-- The opening of a numbered stream failed. -/
  | openFailed (stream : Nat)
  /-- A numbered stream was told to seek. -/
  | streamSought (stream : Nat) (target : SeekTarget)
  /-- A numbered stream was told to skip bytes. -/
  | streamSkipped (stream wanted : Nat) (ending : Ending)
  /-- A numbered stream was read into a buffer of a given length. -/
  | streamRead (stream length : Nat) (ending : Ending)
  /-- A numbered stream was closed. -/
  | closed (stream : Nat)
  /-- The closing of a numbered stream failed. -/
  | closeFailed (stream : Nat)
  /-- A listener ran; it was told why the release failed, if it failed. -/
  | notified (listener : String) (cause : Option Error)
  /-- A listener took a step of its own and got an answer. -/
  | answered (listener answer : String)
  deriving Inhabited

/-- The text of an event. -/
def Event.text : Event -> String
  | bufferFreed => "buffer freed"
  | reclaimed length => s!"reclaim({length})"
  | resourceFreed name => s!"resource {name} freed"
  | readAt position length ending => s!"read_at({position},{length})={ending.text}"
  | released => "release"
  | sought target ending => s!"seek({target.text})={ending.text}"
  | told ending => s!"tell={ending.text}"
  | read length ending => s!"read({length})={ending.text}"
  | opened stream => s!"open#{stream}"
  | openFailed stream => s!"open#{stream}=err"
  | streamSought stream target => s!"seek#{stream}({target.text})"
  | streamSkipped stream wanted ending => s!"skip#{stream}({wanted})={ending.text}"
  | streamRead stream length ending => s!"read#{stream}({length})={ending.text}"
  | closed stream => s!"close#{stream}"
  | closeFailed stream => s!"close#{stream}=err"
  | notified listener none => s!"listener {listener}: none"
  | notified listener (some cause) => s!"listener {listener}: {cause.message}"
  | answered listener answer => s!"inside {listener}: \"{answer}\""

/-- A remark of the library about its own work. -/
inductive Diagnostic
  /-- A stream is opened because no parked stream can serve a read. -/
  | openingStream (position : Nat)
  /-- A parked stream is taken up again. -/
  | reusingStream (reached position : Nat)
  /-- A parked stream gives way because too many are parked. -/
  | evictingStream (reached : Nat)
  /-- The last owner of a source is gone. -/
  | releasing
  /-- A pending read was abandoned. -/
  | readCancelled
  /-- A stream of the pool failed to close. -/
  | closeFailed (reason : String)
  /-- A reclaimer refused the memory of a buffer. -/
  | reclaimFailed (length : Nat) (reason : String)
  /-- A view that went out of use could not release its source. -/
  | dropFailed (reason : String)
  deriving DecidableEq, Inhabited

/-- The line of a diagnostic, its level first. -/
def Diagnostic.text : Diagnostic -> String
  | openingStream position => s!"TRACE opening stream for read at {position}"
  | reusingStream reached position =>
      s!"TRACE reusing stream at {reached} for read at {position}"
  | evictingStream reached => s!"TRACE pool full, evicting stream at {reached}"
  | releasing => "DEBUG releasing shared resource"
  | readCancelled => "DEBUG async read cancelled, closing channel"
  | closeFailed reason => s!"WARN failed to close pooled stream: {reason}"
  | reclaimFailed length reason =>
      s!"WARN failed to reclaim native buffer of {length} bytes: {reason}"
  | dropFailed reason => s!"WARN failed to release data source on drop: {reason}"

end ByteWindow
