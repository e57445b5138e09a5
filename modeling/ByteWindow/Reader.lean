import ByteWindow.Error.Consumer
import ByteWindow.View.Read

/-!
# Reading a view in sequence

A reader keeps a position within a view, and a mark to which it can go back.  It may
stand anywhere, also past the end, where it finds nothing.  Whatever fails leaves its
position alone.
-/

namespace ByteWindow

/-- A position within a view and a mark. -/
structure Reader where
  position : Nat := 0
  mark : Nat := 0
  deriving DecidableEq, Inhabited

/-- What a step of a reader leaves behind. -/
structure Consumed (α σ : Type) where
  outcome : Except ConsumerError α
  reader : Reader
  source : σ
  host : Host

namespace Reader

/-- Positions of readers stay below this limit. -/
def positionLimit : Nat := 0x10000000000000000

/-- How many bytes are left before the end of the view. -/
def available (reader : Reader) (view : View) : Nat :=
  view.size - reader.position

/-- Remember the position. -/
def setMark (reader : Reader) : Reader :=
  { reader with mark := reader.position }

/-- Go back to the mark. -/
def reset (reader : Reader) : Reader :=
  { reader with position := reader.mark }

/-- Go forward, but not past the end, and report by how much. -/
def skip (reader : Reader) (view : View) (n : Nat) : Nat × Reader :=
  let step := min n (reader.available view)
  (step, { reader with position := reader.position + step })

/-- A position before the start or past the limit was asked for. -/
def invalidSeek : IoError :=
  { kind := .invalidInput, text := "invalid seek to a negative or overflowing position" }

/-- Go to a position, and report it. -/
def seek (reader : Reader) (view : View) (target : SeekTarget) :
    Except ConsumerError Nat × Reader :=
  let goTo (position : Int) : Except ConsumerError Nat × Reader :=
    if 0 ≤ position ∧ position < positionLimit then
      (.ok position.toNat, { reader with position := position.toNat })
    else
      (.error (.plain invalidSeek), reader)
  match target with
  | .start position => (.ok position, { reader with position })
  | .fromEnd distance => goTo (view.size + distance)
  | .current distance => goTo (reader.position + distance)

variable {σ : Type} [Source σ]

/-- Read the next byte; there is none at the end. -/
def readByte (reader : Reader) (view : View) (s : σ) (host : Host) :
    Consumed (Option UInt8) σ :=
  match view.readByteAt s host reader.position with
  | (.error error, source, host) =>
      { outcome := .error (.ofError error), reader, source, host }
  | (.ok none, source, host) => { outcome := .ok none, reader, source, host }
  | (.ok (some byte), source, host) =>
      { outcome := .ok (some byte)
        reader := { reader with position := reader.position + 1 }, source, host }

/-- Read the next bytes into a buffer, and count them.  A source that ends before the
view does has failed. -/
def read (reader : Reader) (view : View) (s : σ) (host : Host) (buffer : List UInt8) :
    Consumed Nat σ × List UInt8 :=
  let length := min buffer.length (reader.available view)
  if length = 0 then
    ({ outcome := .ok 0, reader, source := s, host }, buffer)
  else
    let reading := view.read .blocking s host buffer reader.position 0 length
    let finish (outcome : Except ConsumerError Nat) (reader : Reader) : Consumed Nat σ :=
      { outcome, reader, source := reading.source, host := reading.host }
    match reading.outcome with
    | .error error => (finish (.error (.ofError error)) reader, reading.buffer)
    | .ok none =>
        (finish (.error (.ofError (view.unexpectedEof reader.position))) reader,
          reading.buffer)
    | .ok (some n) =>
        (finish (.ok n) { reader with position := reader.position + n }, reading.buffer)

/-- A read that delivers bytes leaves fewer of them. -/
theorem available_lt_of_read {reader : Reader} {view : View} {s : σ} {host : Host}
    {buffer : List UInt8} {n : Nat}
    (h : (reader.read view s host buffer).1.outcome = .ok (n + 1)) :
    (reader.read view s host buffer).1.reader.available view < reader.available view := by
  unfold read at h ⊢
  by_cases hlength : min buffer.length (reader.available view) = 0
  · simp [hlength] at h
  · simp only [hlength, if_false] at h ⊢
    split at h
    · cases h
    · cases h
    · simp only [Except.ok.injEq] at h
      subst h
      simp only [available] at hlength ⊢
      omega

end Reader
end ByteWindow
