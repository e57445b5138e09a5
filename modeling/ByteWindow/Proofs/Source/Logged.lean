import ByteWindow.Shared

/-!
# Sources that log the calls they get

Views speak to their source in few words: read, read a byte, release.  A logged source
answers as the source inside it does and writes down each call.  A read that is started and
finished later is written down when it is started.
-/

namespace ByteWindow

/-- A call to a source. -/
inductive SourceCall
  | read (position length : Nat)
  | readByte (position : Nat)
  | release
  deriving DecidableEq

/-- A source with the calls that it got so far. -/
structure Logged (σ : Type) where
  source : σ
  calls : List SourceCall := []

namespace Logged

variable {σ : Type}

/-- Write down a call that was answered. -/
def after (s : Logged σ) (source : σ) (call : SourceCall) : Logged σ :=
  { source, calls := s.calls ++ [call] }

/-- Write down a read that was carried out. -/
def reading (s : Logged σ) (position length : Nat) (reading : Reading (Option Nat) σ) :
    Reading (Option Nat) (Logged σ) :=
  { reading with source := s.after reading.source (.read position length) }

variable [Source σ]

instance : Source (Logged σ) where
  release s host :=
    match Releasable.release s.source host with
    | (result, source, host) => (result, s.after source .release, host)
  size s := Source.size s.source
  readAt s host position buffer :=
    s.reading position buffer.length (Source.readAt s.source host position buffer)
  readByteAt s host position :=
    match Source.readByteAt s.source host position with
    | (result, source, host) => (result, s.after source (.readByte position), host)
  startRead s host position buffer :=
    match Source.startRead s.source host position buffer with
    | .finished reading => .finished (s.reading position buffer.length reading)
    | .waiting task source host =>
        .waiting task (s.after source (.read position buffer.length)) host
  finishRead task s host buffer :=
    let reading := Source.finishRead task s.source host buffer
    { reading with source := { s with source := reading.source } }
  abandonRead s host :=
    match Source.abandonRead s.source host with
    | (source, host) => ({ s with source }, host)
  discard s host := Source.discard s.source host

/-- Listeners know nothing of the log. -/
instance {α : Type} [Listener α σ] : Listener α (Logged σ) where
  notify listener cause s host :=
    match Listener.notify listener cause s.source host with
    | (result, source, host) => (result, { s with source }, host)

/-- A read of a logged source is a read of the source inside, written down. -/
theorem readVia_eq (mode : Mode) (s : Logged σ) (host : Host) (position : Nat)
    (buffer : List UInt8) :
    Source.readVia mode s host position buffer =
      s.reading position buffer.length
        (Source.readVia mode s.source host position buffer) := by
  cases mode with
  | blocking => rfl
  | awaited =>
      simp only [Source.readVia_awaited]
      unfold Source.readAwaited
      simp only [Source.startRead]
      cases Source.startRead s.source host position buffer with
      | finished reading => rfl
      | waiting task source host' => rfl

theorem calls_readVia (mode : Mode) (s : Logged σ) (host : Host) (position : Nat)
    (buffer : List UInt8) :
    (Source.readVia mode s host position buffer).source.calls =
      s.calls ++ [.read position buffer.length] := by
  rw [readVia_eq]
  rfl

theorem calls_readByteAt (s : Logged σ) (host : Host) (position : Nat) :
    (Source.readByteAt s host position).2.1.calls = s.calls ++ [.readByte position] := rfl

theorem calls_release (s : Logged σ) (host : Host) :
    (Releasable.release s host).2.1.calls = s.calls ++ [.release] := rfl

end Logged

/-- A source whose reads fit their buffers: a read never counts more bytes than the buffer
has, and it leaves the buffer as long as it was. -/
structure FitsBuffers (σ : Type) [Source σ] : Prop where
  count {mode : Mode} {s : σ} {host : Host} {position n : Nat} {buffer : List UInt8} :
    (Source.readVia mode s host position buffer).outcome = .ok (some n) -> n ≤ buffer.length
  length (mode : Mode) (s : σ) (host : Host) (position : Nat) (buffer : List UInt8) :
    (Source.readVia mode s host position buffer).buffer.length = buffer.length

theorem FitsBuffers.logged {σ : Type} [Source σ] (h : FitsBuffers σ) :
    FitsBuffers (Logged σ) where
  count := by
    intro mode s host position n buffer hread
    rw [Logged.readVia_eq] at hread
    exact h.count hread
  length := by
    intro mode s host position buffer
    rw [Logged.readVia_eq]
    exact h.length mode s.source host position buffer

/-- Sources that write only into the buffer that they are handed, as long as they are kept in
order. -/
structure WritesWithin (σ : Type) [Source σ] (kept : σ -> Host -> Prop) : Prop where
  length (mode : Mode) {s : σ} {host : Host} (position : Nat) (buffer : List UInt8) :
    kept s host ->
    (Source.readVia mode s host position buffer).buffer.length = buffer.length
  keeps (mode : Mode) {s : σ} {host : Host} (position : Nat) (buffer : List UInt8) :
    kept s host ->
    kept (Source.readVia mode s host position buffer).source
      (Source.readVia mode s host position buffer).host

theorem FitsBuffers.writesWithin {σ : Type} [Source σ] (h : FitsBuffers σ) :
    WritesWithin σ fun _ _ => True where
  length := fun mode s host position buffer _ => h.length mode s host position buffer
  keeps := fun _ _ _ _ _ _ => trivial

end ByteWindow
