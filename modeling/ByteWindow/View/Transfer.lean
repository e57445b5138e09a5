import ByteWindow.View.Read

/-!
# Writing a view to a sink

A sink takes bytes, possibly fewer than it is offered.  A transfer reads piece after
piece into one buffer and writes each piece completely before it reads the next one.  It
flushes the sink once, after the last byte.

A transfer that blocks makes an interrupted write again.  One that waits for its sink does not:
every failed write ends it.
-/

namespace ByteWindow

/-- Something that takes bytes. -/
class Sink (κ : Type) where
  /-- Offer bytes, and learn how many of them were taken. -/
  write : κ -> List UInt8 -> Except IoError Nat × κ
  /-- Make sure that everything taken has arrived. -/
  flush : κ -> Except IoError Unit × κ

namespace Sink

variable {κ : Type} [Sink κ]

/-- A sink that takes nothing of what it is offered has failed. -/
def nothingTaken : Mode -> IoError
  | .blocking => { kind := .writeZero, text := "failed to write whole buffer" }
  | .awaited => { kind := .writeZero, text := "write zero" }

/-- Whether a failed write is made again. -/
def repeats : Mode -> IoError -> Bool
  | .blocking, cause => cause.isInterrupted
  | .awaited, _ => false

theorem repeats_iff {mode : Mode} {cause : IoError} :
    repeats mode cause = true <-> mode = .blocking ∧ cause.isInterrupted = true := by
  cases mode with
  | blocking => exact (and_iff_right rfl).symm
  | awaited => exact iff_of_false Bool.false_ne_true nofun

/-- Offer bytes until all of them are taken.  Interrupted writes are repeated, if the mode
allows it, until patience runs out. -/
def writeAllPatiently (mode : Mode) (sink : κ) (bytes : List UInt8) (patience : Nat) :
    Except IoError Unit × κ :=
  match bytes with
  | [] => (.ok (), sink)
  | byte :: rest =>
      match write sink (byte :: rest) with
      | (.ok 0, sink) => (.error (nothingTaken mode), sink)
      | (.ok (n + 1), sink) => writeAllPatiently mode sink (rest.drop n) patience
      | (.error cause, sink) =>
          match repeats mode cause, patience with
          | true, patience + 1 => writeAllPatiently mode sink (byte :: rest) patience
          | _, _ => (.error cause, sink)
termination_by (bytes.length, patience)
decreasing_by
  all_goals simp_wf
  · exact Prod.Lex.left _ _ (by omega)
  · exact Prod.Lex.right _ (by omega)

end Sink

/-- What a transfer leaves behind. -/
structure Transferred (κ σ : Type) where
  outcome : Except Error Nat
  sink : κ
  source : σ
  host : Host

namespace View

variable {κ σ : Type} [Sink κ] [Source σ]

/-- The smallest buffer that a transfer asks for. -/
def minTransferBuffer : Nat := 1024

/-- The size of the buffer of a transfer: no larger than the view. -/
def transferBufferLength (view : View) (bufferSize : Nat) : Nat :=
  min view.size (max bufferSize minTransferBuffer)

/-- Write the view from a position on.  The buffer is used again and again; `idle` reads
in a row delivered nothing so far. -/
def transferRemaining (mode : Mode) (patience : Nat) (view : View) (sink : κ) (s : σ)
    (host : Host) (buffer : List UInt8) (position idle : Nat) : Transferred κ σ :=
  if position < view.size then
    let reading := view.read mode s host buffer position 0 buffer.length
    let stop (error : Error) (sink : κ) : Transferred κ σ :=
      { outcome := .error error, sink, source := reading.source, host := reading.host }
    match reading.outcome with
    | .error error => stop error sink
    | .ok none => stop (view.unexpectedEof position) sink
    | .ok (some 0) =>
        if idle + 1 < maxIdleReads then
          transferRemaining mode patience view sink reading.source reading.host
            reading.buffer position (idle + 1)
        else
          stop (view.unexpectedEof position) sink
    | .ok (some (n + 1)) =>
        match Sink.writeAllPatiently mode sink (reading.buffer.take (n + 1)) patience with
        | (.error cause, sink) => stop (.io cause) sink
        | (.ok (), sink) =>
            transferRemaining mode patience view sink reading.source reading.host
              reading.buffer (position + (n + 1)) 0
  else
    match Sink.flush sink with
    | (.ok (), sink) => { outcome := .ok position, sink, source := s, host }
    | (.error cause, sink) => { outcome := .error (.io cause), sink, source := s, host }
termination_by (view.size - position, maxIdleReads - idle)
decreasing_by
  all_goals simp_wf
  · exact Prod.Lex.right _ (by omega)
  · exact Prod.Lex.left _ _ (by omega)

/-- Write the whole view to a sink, and count the bytes.  An empty view leaves the sink
alone. -/
def transfer (mode : Mode) (view : View) (sink : κ) (s : σ) (host : Host)
    (bufferSize : Nat) : Transferred κ σ :=
  if view.size = 0 then
    { outcome := if view.closed then .error .released else .ok 0
      sink, source := s, host }
  else
    view.transferRemaining mode host.patience sink s host
      (List.replicate (view.transferBufferLength bufferSize) 0) 0 0

end View
end ByteWindow
