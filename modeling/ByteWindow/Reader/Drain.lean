import ByteWindow.Reader

/-!
# Reading all of it

Two ways to read in sequence until a goal is reached: until a buffer is full, or until
the end.  Both repeat reads that were interrupted, as long as the patience of the host lasts.

Reading to the end asks for more and more at once.  It starts with a small probe, then
opens a window on the spare room of a store, up to a limit.  Requests are for the rest of
the window.  When it is nearly full the next window opens, and if the store is nearly full
as well it doubles first.  The limit doubles whenever a request that reached it was served
completely.
-/

namespace ByteWindow
namespace Reader

variable {σ : Type} [Source σ]

/-- Read the next bytes, and repeat the read while it is interrupted. -/
def readPatiently (reader : Reader) (view : View) (s : σ) (host : Host)
    (buffer : List UInt8) : Nat -> Consumed Nat σ × List UInt8
  | 0 => reader.read view s host buffer
  | patience + 1 =>
      let attempt := reader.read view s host buffer
      match attempt.1.outcome with
      | .ok _ => attempt
      | .error error =>
          if error.isInterrupted then
            readPatiently reader view attempt.1.source attempt.1.host attempt.2 patience
          else
            attempt

/-- A repeated read that delivers bytes leaves fewer of them. -/
theorem available_lt_of_readPatiently {reader : Reader} {view : View} {s : σ} {host : Host}
    {buffer : List UInt8} {patience n : Nat}
    (h : (reader.readPatiently view s host buffer patience).1.outcome = .ok (n + 1)) :
    (reader.readPatiently view s host buffer patience).1.reader.available view <
      reader.available view := by
  induction patience generalizing s host buffer with
  | zero => exact available_lt_of_read h
  | succ patience ih =>
      cases hread : (reader.read view s host buffer).1.outcome with
      | ok m =>
          simp only [readPatiently, hread] at h ⊢
          exact available_lt_of_read (hread.trans h)
      | error error =>
          by_cases hint : error.isInterrupted
          · simp only [readPatiently, hread, hint, if_true] at h ⊢
            exact ih h
          · simp only [readPatiently, hread, hint] at h
            simp [hread] at h

/-!
## Filling a buffer
-/

/-- The data ended before the buffer was full. -/
def notFilled : IoError :=
  { kind := .unexpectedEof, text := "failed to fill whole buffer" }

/-- Fill the rest of a buffer; the bytes that are already there stand in `done` in
reverse order. -/
def fillRest (reader : Reader) (view : View) (s : σ) (host : Host)
    (done rest : List UInt8) : Consumed Unit σ × List UInt8 :=
  let attempt := reader.readPatiently view s host rest host.patience
  let finish (outcome : Except ConsumerError Unit) : Consumed Unit σ × List UInt8 :=
    ({ outcome, reader := attempt.1.reader, source := attempt.1.source
       host := attempt.1.host },
      done.reverseAux attempt.2)
  match rest with
  | [] => ({ outcome := .ok (), reader, source := s, host }, done.reverse)
  | _ :: _ =>
      match _h : attempt.1.outcome with
      | .error error => finish (.error error)
      | .ok 0 => finish (.error (.plain notFilled))
      | .ok (n + 1) =>
          fillRest attempt.1.reader view attempt.1.source attempt.1.host
            ((attempt.2.take (n + 1)).reverseAux done) (attempt.2.drop (n + 1))
termination_by reader.available view
decreasing_by exact available_lt_of_readPatiently _h

/-- Fill a whole buffer, or fail if the data ends before. -/
def readExact (reader : Reader) (view : View) (s : σ) (host : Host)
    (buffer : List UInt8) : Consumed Unit σ × List UInt8 :=
  reader.fillRest view s host [] buffer

/-!
## Reading to the end
-/

/-- The length of the first request. -/
def probeLength : Nat := 32

/-- The limit of requests at the start. -/
def firstRequestLimit : Nat := 8192

/-- The smallest room of a store that is not empty. -/
def smallestRoom : Nat := 8

/-- The room for bytes that were read to the end. -/
structure Room where
  /-- How many bytes there is room for. -/
  capacity : Nat
  /-- How much of the spare room is opened at once at most. -/
  limit : Nat
  /-- How much of the room that was opened last is still to be filled. -/
  window : Nat

namespace Room

/-- The room that is made for the bytes of the probe. -/
def afterProbe (length : Nat) : Room :=
  { capacity := max smallestRoom length, limit := firstRequestLimit, window := 0 }

/-- Make more room if less is spare than another probe needs. -/
def grown (room : Room) (taken : Nat) : Room :=
  if room.capacity - taken < probeLength then
    { room with capacity := max (2 * room.capacity) (taken + probeLength) }
  else
    room

/-- Open a window on the spare room, within the limit, if less is left of the last one
than another probe needs. -/
def opened (room : Room) (taken : Nat) : Room :=
  if room.window < probeLength then
    let room := room.grown taken
    { room with window := min (room.capacity - taken) room.limit }
  else
    room

/-- Fill the window, and raise the limit if a request that reached it was served
completely. -/
def filled (room : Room) (delivered : Nat) : Room :=
  { room with
    limit :=
      if room.limit ≤ room.window ∧ delivered = room.window then 2 * room.limit
      else room.limit
    window := room.window - delivered }

end Room

/-- Read on to the end.  The bytes that are already there stand in `taken`. -/
def gather (reader : Reader) (view : View) (s : σ) (host : Host) (room : Room)
    (taken : Array UInt8) : Consumed Nat σ × Array UInt8 :=
  let room := room.opened taken.size
  let attempt :=
    reader.readPatiently view s host (List.replicate room.window 0) host.patience
  let finish (outcome : Except ConsumerError Nat) : Consumed Nat σ × Array UInt8 :=
    ({ outcome, reader := attempt.1.reader, source := attempt.1.source
       host := attempt.1.host }, taken)
  match _h : attempt.1.outcome with
  | .error error => finish (.error error)
  | .ok 0 => finish (.ok taken.size)
  | .ok (n + 1) =>
      gather attempt.1.reader view attempt.1.source attempt.1.host
        (room.filled (n + 1)) (taken ++ attempt.2.take (n + 1))
termination_by reader.available view
decreasing_by exact available_lt_of_readPatiently _h

/-- Read to the end and count the bytes.  Bytes that were read before a failure are
kept. -/
def readToEnd (reader : Reader) (view : View) (s : σ) (host : Host) :
    Consumed Nat σ × Array UInt8 :=
  let probe :=
    reader.readPatiently view s host (List.replicate probeLength 0) host.patience
  match probe.1.outcome with
  | .error _ => (probe.1, #[])
  | .ok 0 => (probe.1, #[])
  | .ok (n + 1) =>
      gather probe.1.reader view probe.1.source probe.1.host (Room.afterProbe (n + 1))
        (probe.2.take (n + 1)).toArray

end Reader
end ByteWindow
