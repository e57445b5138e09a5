import ByteWindow.Reader
import ByteWindow.View.Transfer

/-!
# What can be asked of a view

All that a view and a reader over it can be asked, in both modes, as one type.  A read goes
one of two ways: it is answered without the source, or the source is asked for a piece that
fits both the window and the buffer.
-/

namespace ByteWindow

/-- What can be asked of a view, by itself or through a reader. -/
inductive Operation (κ : Type)
  | read (mode : Mode) (buffer : List UInt8) (position offset max : Nat)
  | readAt (position : Nat) (buffer : List UInt8)
  | readFully (mode : Mode) (buffer : List UInt8) (position offset max : Nat)
  | readFrom (mode : Mode) (position max : Nat)
  | readAll (mode : Mode)
  | readByteAt (position : Nat)
  | transfer (mode : Mode) (sink : κ) (bufferSize : Nat)
  | readerRead (reader : Reader) (buffer : List UInt8)
  | readerReadByte (reader : Reader)
  | readerSkip (reader : Reader) (n : Nat)

/-- The answer of a view. -/
inductive Answer (κ : Type)
  | counted (result : Except Error (Option Nat)) (buffer : List UInt8)
  | bytes (result : Except Error (List UInt8))
  | byte (result : Except Error (Option UInt8))
  | transferred (result : Except Error Nat) (sink : κ)
  | consumed (result : Except ConsumerError Nat) (reader : Reader) (buffer : List UInt8)
  | consumedByte (result : Except ConsumerError (Option UInt8)) (reader : Reader)
  | skipped (n : Nat) (reader : Reader)

variable {κ σ : Type}

namespace Answer

/-!
Each answer carries what an operation reports, apart from the source and the host.
-/

def ofReading (reading : Reading (Option Nat) σ) : Answer κ × σ × Host :=
  (counted reading.outcome reading.buffer, reading.source, reading.host)

def ofBytes (read : Except Error (List UInt8) × σ × Host) : Answer κ × σ × Host :=
  (bytes read.1, read.2)

def ofByte (read : Except Error (Option UInt8) × σ × Host) : Answer κ × σ × Host :=
  (byte read.1, read.2)

def ofTransferred (left : Transferred κ σ) : Answer κ × σ × Host :=
  (transferred left.outcome left.sink, left.source, left.host)

def ofConsumed (read : Consumed Nat σ × List UInt8) : Answer κ × σ × Host :=
  (consumed read.1.outcome read.1.reader read.2, read.1.source, read.1.host)

def ofConsumedByte (read : Consumed (Option UInt8) σ) : Answer κ × σ × Host :=
  (consumedByte read.outcome read.reader, read.source, read.host)

end Answer

/-- Ask a view. -/
def Operation.perform [Sink κ] [Source σ] (view : View) (s : σ) (host : Host) :
    Operation κ -> Answer κ × σ × Host
  | read mode buffer position offset max =>
      Answer.ofReading (view.read mode s host buffer position offset max)
  | readAt position buffer => Answer.ofReading (view.readAt s host position buffer)
  | readFully mode buffer position offset max =>
      Answer.ofReading (view.readFully mode s host buffer position offset max)
  | readFrom mode position max => Answer.ofBytes (view.readFrom mode s host position max)
  | readAll mode => Answer.ofBytes (view.readAll mode s host)
  | readByteAt position => Answer.ofByte (view.readByteAt s host position)
  | transfer mode sink bufferSize =>
      Answer.ofTransferred (view.transfer mode sink s host bufferSize)
  | readerRead reader buffer => Answer.ofConsumed (reader.read view s host buffer)
  | readerReadByte reader => Answer.ofConsumedByte (reader.readByte view s host)
  | readerSkip reader n => (.skipped (reader.skip view n).1 (reader.skip view n).2, s, host)

namespace View

variable {view : View} {bufferLength position offset max length : Nat}

/-!
## Bounds of requests
-/

theorem checkRegion_ok {total start length : Nat}
    (h : checkRegion total start length = .ok ()) : start + length ≤ total := by
  unfold checkRegion at h
  split at h
  · assumption
  · cases h

/-- What is asked for fits the buffer and the window. -/
theorem requestLength_some
    (h : view.requestLength bufferLength position offset max = .ok (some length))
    (hlength : length ≠ 0) :
    length ≤ max ∧ offset + length ≤ bufferLength ∧ position + length ≤ view.size := by
  unfold requestLength at h
  split at h
  · cases h
  · dsimp only at h
    split at h
    · cases h
      exact absurd rfl hlength
    · split at h
      · cases h
      · cases h
        omega

/-- What there is fits the window. -/
theorem availableLength_ok (h : view.availableLength position max = .ok length) :
    length ≤ max ∧ position + length ≤ view.size := by
  unfold availableLength at h
  split at h
  · cases h
  · cases h
    omega

/-- A request that is refused does not fit the buffer. -/
theorem requestLength_error {error : Error}
    (h : view.requestLength bufferLength position offset max = .error error) :
    exists bounds, error = .outOfBounds bounds := by
  unfold requestLength at h
  split at h
  · cases h
    exact ⟨_, rfl⟩
  · dsimp only at h
    split at h
    · cases h
    · split at h <;> cases h

/-- A request that is refused lies behind the window. -/
theorem availableLength_error {error : Error}
    (h : view.availableLength position max = .error error) :
    exists bounds, error = .outOfBounds bounds := by
  unfold availableLength at h
  split at h
  · cases h
    exact ⟨_, rfl⟩
  · cases h

/-!
## The two ways of a read
-/

variable [Source σ]

/-- The two ways of a read: without the source, or by asking it for a piece that fits. -/
inductive AskCourse (mode : Mode) (view : View) (s : σ) (host : Host)
    (buffer : List UInt8) (position offset max : Nat) : Reading (Option Nat) σ -> Prop where
  | unasked {outcome : Except Error (Option Nat)} :
      (forall n, outcome = .ok (some n) -> n = 0) ->
      AskCourse mode view s host buffer position offset max
        { outcome, buffer, source := s, host }
  | asked {length : Nat} :
      length ≠ 0 -> length ≤ max -> offset + length ≤ buffer.length ->
      position + length ≤ view.size ->
      AskCourse mode view s host buffer position offset max
        (view.readInto mode s host buffer position offset length)

theorem askCourse (mode : Mode) (view : View) (s : σ) (host : Host) (buffer : List UInt8)
    (position offset max : Nat) :
    AskCourse mode view s host buffer position offset max
      (view.read mode s host buffer position offset max) := by
  unfold read
  split
  · exact .unasked fun n h => by cases h
  · split
    · exact .unasked fun n h => by cases h
    · exact .unasked fun n h => by cases h
    · refine .unasked fun n h => ?_
      cases h
      rfl
    · rename_i length hzero hrequest
      have hlength : length ≠ 0 := fun h => hzero (by rw [h])
      rcases requestLength_some hrequest hlength with ⟨hmax, hbuffer, hwindow⟩
      exact .asked hlength hmax hbuffer hwindow

/-- The piece of a buffer that a source is given. -/
theorem length_piece {buffer : List UInt8} (h : offset + length ≤ buffer.length) :
    ((buffer.drop offset).take length).length = length := by
  rw [List.length_take, List.length_drop]
  omega

/-!
## Closed views
-/

theorem read_closed (hclosed : view.closed = true) (mode : Mode) (s : σ) (host : Host)
    (buffer : List UInt8) :
    view.read mode s host buffer position offset max = .failed .released buffer s host := by
  unfold read
  rw [if_pos hclosed]

theorem readFrom_closed (hclosed : view.closed = true) (mode : Mode) (s : σ)
    (host : Host) : view.readFrom mode s host position max = (.error .released, s, host) := by
  unfold readFrom
  rw [if_pos hclosed]

theorem transfer_closed [Sink κ] (hclosed : view.closed = true) (mode : Mode) (sink : κ)
    (s : σ) (host : Host) (bufferSize : Nat) :
    view.transfer mode sink s host bufferSize =
      { outcome := .error .released, sink, source := s, host } := by
  unfold transfer
  by_cases hempty : view.size = 0
  · rw [if_pos hempty, if_pos hclosed]
  · rw [if_neg hempty]
    unfold transferRemaining
    rw [if_pos (Nat.pos_of_ne_zero hempty), read_closed hclosed]
    rfl

theorem reader_read_closed (hclosed : view.closed = true) (reader : Reader) (s : σ)
    (host : Host) (buffer : List UInt8) :
    (reader.read view s host buffer).1.source = s ∧
      (reader.read view s host buffer).1.host = host := by
  unfold Reader.read
  dsimp only
  rw [read_closed hclosed]
  split <;> exact ⟨rfl, rfl⟩

end View

/-- A closed view leaves the source alone. -/
theorem Operation.perform_closed [Sink κ] [Source σ] {view : View}
    (hclosed : view.closed = true) (s : σ) (host : Host) (operation : Operation κ) :
    (operation.perform view s host).2 = (s, host) := by
  cases operation with
  | read mode buffer position offset max =>
      simp only [perform, View.read_closed hclosed]
      rfl
  | readAt position buffer =>
      simp only [perform, View.readAt, View.read_closed hclosed]
      rfl
  | readFully mode buffer position offset max =>
      simp only [perform, View.readFully, hclosed, if_true]
      rfl
  | readFrom mode position max =>
      simp only [perform, View.readFrom_closed hclosed]
      rfl
  | readAll mode =>
      simp only [perform, View.readAll, View.readFrom_closed hclosed]
      rfl
  | readByteAt position =>
      simp only [perform, View.readByteAt, hclosed, if_true]
      rfl
  | transfer mode sink bufferSize =>
      simp only [perform, View.transfer_closed hclosed]
      rfl
  | readerRead reader buffer =>
      rcases View.reader_read_closed hclosed reader s host buffer with ⟨hsource, hhost⟩
      exact Prod.ext hsource hhost
  | readerReadByte reader =>
      simp only [perform, Reader.readByte, View.readByteAt, hclosed, if_true]
      rfl
  | readerSkip reader n => rfl

end ByteWindow
