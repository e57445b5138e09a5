import ByteWindow.Proofs.View.Confinement

/-!
# Views in the arithmetic of machine words

Sizes, positions and lengths are machine words.  Here every operation of a view is carried
out once more with arithmetic that may fail: an addition fails above the limit, a
subtraction fails below zero, and a piece of a buffer fails unless it lies within the
buffer.  None of them ever does, so the arithmetic of plain numbers is that of the machine.
-/

namespace ByteWindow

/-!
## Words
-/

namespace Word

/-- Words stay below this limit. -/
def limit : Nat := 0x10000000000000000

/-- The sum, unless it is too large. -/
def add? (a b : Nat) : Option Nat :=
  if a + b < limit then some (a + b) else none

/-- The difference, unless it is below zero. -/
def sub? (a b : Nat) : Option Nat :=
  if b ≤ a then some (a - b) else none

/-- The piece of a buffer between two places, unless they are out of range. -/
def part? (buffer : List UInt8) (start stop : Nat) : Option (List UInt8) :=
  if start ≤ stop ∧ stop ≤ buffer.length then some ((buffer.drop start).take (stop - start))
  else none

theorem add?_eq_some {a b : Nat} (h : a + b < limit) : add? a b = some (a + b) :=
  if_pos h

theorem sub?_eq_some {a b : Nat} (h : b ≤ a) : sub? a b = some (a - b) :=
  if_pos h

theorem part?_eq_some {buffer : List UInt8} {start length : Nat}
    (h : start + length ≤ buffer.length) :
    part? buffer start (start + length) = some ((buffer.drop start).take length) := by
  unfold part?
  rw [if_pos ⟨Nat.le_add_right _ _, h⟩, Nat.add_sub_cancel_left]

theorem part?_front {buffer : List UInt8} {length : Nat} (h : length ≤ buffer.length) :
    part? buffer 0 length = some (buffer.take length) :=
  if_pos ⟨Nat.zero_le _, h⟩

end Word

/-!
## Checked operations
-/

namespace Checked

open Word View

variable {κ σ α : Type}

def sectionOf (view : View) (shared : Shared σ α) (position length : Nat) :
    Option (Except Error View × Shared σ α) :=
  if view.closed then
    some (.error .released, shared)
  else
    match checkRegion view.size position length with
    | .error error => some (.error error, shared)
    | .ok () =>
        match shared.retain with
        | (.error error, shared) => some (.error error, shared)
        | (.ok (), shared) => do
            let offset ← add? view.offset position
            some (.ok { offset, size := length }, shared)

def sectionFrom (view : View) (shared : Shared σ α) (position : Nat) :
    Option (Except Error View × Shared σ α) :=
  if position ≤ view.size then do
    let length ← sub? view.size position
    sectionOf view shared position length
  else
    some (.error (.outOfBounds (.region view.size position 0)), shared)

def requestLength (view : View) (bufferLength position offset max : Nat) :
    Option (Except Error (Option Nat)) :=
  if bufferLength < offset then
    some (.error (.outOfBounds (.read position view.size offset bufferLength)))
  else do
    let room ← sub? bufferLength offset
    let wanted := min max room
    if wanted = 0 ∧ position ≤ view.size then some (.ok (some 0))
    else if view.size ≤ position then some (.ok none)
    else do
      let available ← sub? view.size position
      some (.ok (some (min available wanted)))

def availableLength (view : View) (position max : Nat) : Option (Except Error Nat) :=
  if view.size < position then
    some (.error (.outOfBounds (.read position view.size 0 max)))
  else do
    let available ← sub? view.size position
    some (.ok (min available max))

variable [Sink κ] [Source σ]

def read (mode : Mode) (view : View) (s : σ) (host : Host) (buffer : List UInt8)
    (position offset max : Nat) : Option (Reading (Option Nat) σ) :=
  if view.closed then
    some (.failed .released buffer s host)
  else do
    match ← requestLength view buffer.length position offset max with
    | .error error => some (.failed error buffer s host)
    | .ok none => some (.nothing buffer s host)
    | .ok (some 0) => some (.delivered [] buffer s host)
    | .ok (some length) => do
        let place ← add? view.offset position
        let stop ← add? offset length
        let piece ← part? buffer offset stop
        let reading := Source.readVia mode s host place piece
        some { reading with
          buffer := buffer.take offset ++ reading.buffer ++ buffer.drop stop }

def readByteAt (view : View) (s : σ) (host : Host) (position : Nat) :
    Option (Except Error (Option UInt8) × σ × Host) :=
  if view.closed then
    some (.error .released, s, host)
  else if view.size ≤ position then
    some (.ok none, s, host)
  else do
    let place ← add? view.offset position
    match Source.readByteAt s host place with
    | (.ok none, s, host) => some (.error (view.unexpectedEof position), s, host)
    | (result, s, host) => some (result, s, host)

/-- Fill a buffer of which the first `filled` bytes are there, `total` in all.  The first
byte goes to the position `start`. -/
def fillFrom (mode : Mode) (view : View) (s : σ) (host : Host) (buffer : List UInt8)
    (start total filled idle : Nat) : Option (Reading Unit σ) :=
  if filled < total then do
    let position ← add? start filled
    let place ← add? view.offset position
    let rest ← part? buffer filled total
    let reading := Source.readVia mode s host place rest
    let buffer := buffer.take filled ++ reading.buffer
    match reading.outcome with
    | .error error => some (.failed error buffer reading.source reading.host)
    | .ok none =>
        some (.failed (view.unexpectedEof position) buffer reading.source reading.host)
    | .ok (some 0) => do
        let _ ← add? idle 1
        if idle + 1 < maxIdleReads then
          fillFrom mode view reading.source reading.host buffer start total filled (idle + 1)
        else
          some (.failed (view.unexpectedEof position) buffer reading.source reading.host)
    | .ok (some (n + 1)) => do
        let _ ← add? filled (n + 1)
        fillFrom mode view reading.source reading.host buffer start total (filled + (n + 1)) 0
  else
    some { outcome := .ok (), buffer, source := s, host }
termination_by (total - filled, maxIdleReads - idle)
decreasing_by
  all_goals simp_wf
  · exact Prod.Lex.right _ (by omega)
  · exact Prod.Lex.left _ _ (by omega)

def readFully (mode : Mode) (view : View) (s : σ) (host : Host) (buffer : List UInt8)
    (position offset max : Nat) : Option (Reading (Option Nat) σ) :=
  if view.closed then
    some (.failed .released buffer s host)
  else do
    match ← requestLength view buffer.length position offset max with
    | .error error => some (.failed error buffer s host)
    | .ok none => some (.nothing buffer s host)
    | .ok (some 0) => some (.delivered [] buffer s host)
    | .ok (some length) => do
        let stop ← add? offset length
        let piece ← part? buffer offset stop
        let reading ← fillFrom mode view s host piece position piece.length 0 0
        some
          { outcome := reading.outcome.map fun _ => some length
            buffer := buffer.take offset ++ reading.buffer ++ buffer.drop stop
            source := reading.source
            host := reading.host }

def readFrom (mode : Mode) (view : View) (s : σ) (host : Host) (position max : Nat) :
    Option (Except Error (List UInt8) × σ × Host) :=
  if view.closed then
    some (.error .released, s, host)
  else do
    match ← availableLength view position max with
    | .error error => some (.error error, s, host)
    | .ok length => do
        let reading ←
          fillFrom mode view s host (List.replicate length 0) position length 0 0
        some (reading.outcome.map fun _ => reading.buffer, reading.source, reading.host)

def transferFrom (mode : Mode) (patience : Nat) (view : View) (sink : κ) (s : σ) (host : Host)
    (buffer : List UInt8) (position idle : Nat) : Option (Transferred κ σ) :=
  if position < view.size then do
    let reading ← read mode view s host buffer position 0 buffer.length
    let stop (error : Error) (sink : κ) : Transferred κ σ :=
      { outcome := .error error, sink, source := reading.source, host := reading.host }
    match reading.outcome with
    | .error error => some (stop error sink)
    | .ok none => some (stop (view.unexpectedEof position) sink)
    | .ok (some 0) => do
        let _ ← add? idle 1
        if idle + 1 < maxIdleReads then
          transferFrom mode patience view sink reading.source reading.host reading.buffer
            position (idle + 1)
        else
          some (stop (view.unexpectedEof position) sink)
    | .ok (some (n + 1)) => do
        let piece ← part? reading.buffer 0 (n + 1)
        match Sink.writeAllPatiently mode sink piece patience with
        | (.error cause, sink) => some (stop (.io cause) sink)
        | (.ok (), sink) => do
            let _ ← add? position (n + 1)
            transferFrom mode patience view sink reading.source reading.host reading.buffer
              (position + (n + 1)) 0
  else
    match Sink.flush sink with
    | (.ok (), sink) => some { outcome := .ok position, sink, source := s, host }
    | (.error cause, sink) => some { outcome := .error (.io cause), sink, source := s, host }
termination_by (view.size - position, maxIdleReads - idle)
decreasing_by
  all_goals simp_wf
  · exact Prod.Lex.right _ (by omega)
  · exact Prod.Lex.left _ _ (by omega)

def transfer (mode : Mode) (view : View) (sink : κ) (s : σ) (host : Host)
    (bufferSize : Nat) : Option (Transferred κ σ) :=
  if view.size = 0 then
    some
      { outcome := if view.closed then .error .released else .ok 0
        sink, source := s, host }
  else
    transferFrom mode host.patience view sink s host
      (List.replicate (view.transferBufferLength bufferSize) 0) 0 0

def readerSkip (reader : Reader) (view : View) (n : Nat) : Option (Nat × Reader) := do
  let step := min n (reader.available view)
  let position ← add? reader.position step
  some (step, { reader with position })

def readerReadByte (reader : Reader) (view : View) (s : σ) (host : Host) :
    Option (Consumed (Option UInt8) σ) := do
  match ← readByteAt view s host reader.position with
  | (.error error, source, host) =>
      some { outcome := .error (.ofError error), reader, source, host }
  | (.ok none, source, host) => some { outcome := .ok none, reader, source, host }
  | (.ok (some byte), source, host) => do
      let position ← add? reader.position 1
      some { outcome := .ok (some byte), reader := { reader with position }, source, host }

def readerRead (reader : Reader) (view : View) (s : σ) (host : Host)
    (buffer : List UInt8) : Option (Consumed Nat σ × List UInt8) :=
  let length := min buffer.length (reader.available view)
  if length = 0 then
    some ({ outcome := .ok 0, reader, source := s, host }, buffer)
  else do
    let reading ← read .blocking view s host buffer reader.position 0 length
    let finish (outcome : Except ConsumerError Nat) (reader : Reader) : Consumed Nat σ :=
      { outcome, reader, source := reading.source, host := reading.host }
    match reading.outcome with
    | .error error => some (finish (.error (.ofError error)) reader, reading.buffer)
    | .ok none =>
        some (finish (.error (.ofError (view.unexpectedEof reader.position))) reader,
          reading.buffer)
    | .ok (some n) => do
        let position ← add? reader.position n
        some (finish (.ok n) { reader with position }, reading.buffer)

/-- Ask a view, in the arithmetic of words. -/
def perform (view : View) (s : σ) (host : Host) :
    Operation κ -> Option (Answer κ × σ × Host)
  | .read mode buffer position offset max => do
      let reading ← read mode view s host buffer position offset max
      some (Answer.ofReading reading)
  | .readAt position buffer => do
      let reading ← read .blocking view s host buffer position 0 buffer.length
      some (Answer.ofReading reading)
  | .readFully mode buffer position offset max => do
      let reading ← readFully mode view s host buffer position offset max
      some (Answer.ofReading reading)
  | .readFrom mode position max => do
      let bytes ← readFrom mode view s host position max
      some (Answer.ofBytes bytes)
  | .readAll mode => do
      let bytes ← readFrom mode view s host 0 view.size
      some (Answer.ofBytes bytes)
  | .readByteAt position => do
      let byte ← readByteAt view s host position
      some (Answer.ofByte byte)
  | .transfer mode sink bufferSize => do
      let transferred ← transfer mode view sink s host bufferSize
      some (Answer.ofTransferred transferred)
  | .readerRead reader buffer => do
      let consumed ← readerRead reader view s host buffer
      some (Answer.ofConsumed consumed)
  | .readerReadByte reader => do
      let consumed ← readerReadByte reader view s host
      some (Answer.ofConsumedByte consumed)
  | .readerSkip reader n => do
      let (skipped, reader) ← readerSkip reader view n
      some (.skipped skipped reader, s, host)

end Checked
end ByteWindow
