import ByteWindow.Proofs.Reader.EndOfData
import ByteWindow.Source.Channel

/-!
# Interruptions that never end

An interrupted read may be repeated, and sequential consumers repeat it until it is not
interrupted any more.  A reader reports a cancelled channel as an interruption.  But a
channel that was cancelled stays cancelled until it is released, and no read releases it.  So a
consumer that meets a cancelled channel repeats its read forever.  There is no other way to
that: every other channel answers a read with bytes, with the end, or with a failure that
is not repeated.
-/

namespace ByteWindow

/-!
## The states of a channel
-/

namespace Channel

/-- What can happen to a channel. -/
inductive Call
  | read (mode : Mode) (position : Nat) (buffer : List UInt8)
  | readByte (position : Nat)
  | start (position : Nat) (buffer : List UInt8)
  | finish (task : ReadTask) (buffer : List UInt8)
  | abandon
  | release

/-- The channel after a call. -/
def after (s : Channel) (host : Host) : Call -> Channel × Host
  | .read mode position buffer =>
      let reading := Source.readVia mode s host position buffer
      (reading.source, reading.host)
  | .readByte position => (Source.readByteAt s host position).2
  | .start position buffer =>
      match Source.startRead s host position buffer with
      | .finished reading => (reading.source, reading.host)
      | .waiting _ source host => (source, host)
  | .finish task buffer =>
      let reading := Source.finishRead task s host buffer
      (reading.source, reading.host)
  | .abandon => Source.abandonRead s host
  | .release => (Releasable.release s host).2

def afterAll (s : Channel) (host : Host) : List Call -> Channel × Host
  | [] => (s, host)
  | call :: rest => ((s.after host call).1).afterAll (s.after host call).2 rest

variable {s : Channel}

/-- A cancelled channel fails every read, and nothing changes. -/
theorem readVia_cancelled (h : s.state = .cancelled) (mode : Mode) (host : Host)
    (position : Nat) (buffer : List UInt8) :
    Source.readVia mode s host position buffer = .failed .cancelled buffer s host := by
  cases mode with
  | blocking =>
      simp only [Source.readVia_blocking, Source.readAt, readAt, h, ChannelState.file?]
  | awaited =>
      simp only [Source.readVia_awaited, Source.readAwaited, Source.startRead, startRead, h,
        ChannelState.file?]

/-- Only a release ends the cancelled state. -/
theorem after_cancelled (h : s.state = .cancelled) (host : Host) {call : Call}
    (hcall : call ≠ .release) : s.after host call = (s, host) := by
  cases call with
  | read mode position buffer =>
      simp only [after, readVia_cancelled h]
      rfl
  | readByte position =>
      simp only [after, Source.readByteAt, readAt, h, ChannelState.file?]
      rfl
  | start position buffer =>
      simp only [after, Source.startRead, startRead, h, ChannelState.file?]
      rfl
  | finish task buffer =>
      simp only [after, Source.finishRead, finishRead, h, ChannelState.file?]
      split <;> rfl
  | abandon =>
      simp only [after, Source.abandonRead, cancel, h]
  | release => exact absurd rfl hcall

theorem afterAll_cancelled (h : s.state = .cancelled) (host : Host) {calls : List Call}
    (hcalls : .release ∉ calls) : s.afterAll host calls = (s, host) := by
  induction calls with
  | nil => rfl
  | cons call rest ih =>
      have hcall : call ≠ .release := by
        intro hrelease
        exact hcalls (hrelease ▸ List.mem_cons_self)
      unfold afterAll
      rw [after_cancelled h host hcall]
      apply ih
      intro hrest
      exact hcalls (List.mem_cons_of_mem _ hrest)

/-- A channel fails as an interruption only if it was cancelled. -/
theorem readAt_interrupted {host : Host} {position : Nat} {buffer : List UInt8}
    {error : Error} (h : (s.readAt host position buffer).outcome = .error error)
    (hkind : (ConsumerError.ofError error).kind = .interrupted) : s.state = .cancelled := by
  unfold readAt at h
  cases hstate : s.state with
  | cancelled => rfl
  | released =>
      rw [hstate] at h
      cases h
      cases hkind
  | opened file =>
      rw [hstate] at h
      dsimp only [ChannelState.file?] at h
      unfold Disk.readAt at h
      split at h
      · cases h
      · rename_i cause hread
        split at hread
        · cases hread
        · cases hread
          cases h
          cases hkind

theorem abandoned_cancelled {file : FileId} (h : s.state = .opened file) (host : Host) :
    (s.after host .abandon).1.state = .cancelled := by
  simp only [after, Source.abandonRead, cancel, h]

end Channel

/-!
## Reads that are repeated
-/

namespace Reader

/-- A failure after which a read is repeated. -/
def Interrupted (outcome : Except ConsumerError Nat) : Prop :=
  exists error, outcome = .error error ∧ error.kind = .interrupted

/-- The outcomes of the first reads in a row, with nothing else in between. -/
def outcomes {σ : Type} [Source σ] (reader : Reader) (view : View) (s : σ) (host : Host)
    (buffer : List UInt8) : Nat -> List (Except ConsumerError Nat)
  | 0 => []
  | k + 1 =>
      let attempt := reader.read view s host buffer
      attempt.1.outcome ::
        attempt.1.reader.outcomes view attempt.1.source attempt.1.host attempt.2 k

variable {reader : Reader} {view : View} {s : Channel} {host : Host} {buffer : List UInt8}

theorem askedLength_ne_zero (hposition : reader.position < view.size) (hbuffer : buffer ≠ []) :
    reader.askedLength view buffer ≠ 0 := by
  intro hzero
  exact Nat.not_le_of_lt hposition ((askedLength_eq_zero _ _ hbuffer).mp hzero)

/-- A read from a cancelled channel is interrupted and leaves everything as it was. -/
theorem read_cancelled (hopen : view.closed = false) (hcancelled : s.state = .cancelled)
    (hposition : reader.position < view.size) (hbuffer : buffer ≠ []) :
    reader.read view s host buffer =
      ({ outcome := .error (.wrapped .cancelled), reader, source := s, host }, buffer) := by
  have hanswer : reader.answer view s host buffer =
      .failed .cancelled (buffer.take (reader.askedLength view buffer)) s host :=
    Channel.readVia_cancelled hcancelled .blocking host _ _
  rw [read_asked hopen (askedLength_ne_zero hposition hbuffer), hanswer]
  dsimp only [Reading.failed]
  rw [List.take_append_drop]
  rfl

theorem interrupted_of_cancelled (hopen : view.closed = false)
    (hcancelled : s.state = .cancelled) (hposition : reader.position < view.size)
    (hbuffer : buffer ≠ []) (k : Nat) :
    forall outcome, outcome ∈ reader.outcomes view s host buffer k -> Interrupted outcome := by
  induction k with
  | zero =>
      intro outcome houtcome
      cases houtcome
  | succ k ih =>
      intro outcome houtcome
      unfold outcomes at houtcome
      rw [read_cancelled hopen hcancelled hposition hbuffer] at houtcome
      rcases List.mem_cons.mp houtcome with rfl | hlater
      · exact ⟨_, rfl, rfl⟩
      · exact ih outcome hlater

/-- A reader passes an interruption on, and makes none of its own. -/
theorem interrupted_report {outcome : Except Error (Option Nat)}
    (h : Interrupted (reader.report view outcome)) :
    exists error, outcome = .error error ∧
      (ConsumerError.ofError error).kind = .interrupted := by
  rcases h with ⟨reported, hreport, hkind⟩
  cases outcome with
  | error error =>
      cases hreport
      exact ⟨error, rfl, hkind⟩
  | ok delivered =>
      cases delivered with
      | none =>
          cases hreport
          cases hkind
      | some n => cases hreport

theorem not_interrupted_of_closed (hclosed : view.closed = true)
    (hasked : reader.askedLength view buffer ≠ 0) :
    ¬ Interrupted (reader.read view s host buffer).1.outcome := by
  have hreleased : (reader.read view s host buffer).1.outcome =
      .error (.wrapped .released) := by
    unfold askedLength at hasked
    unfold read
    dsimp only
    rw [if_neg hasked, View.read_closed hclosed]
    rfl
  rw [hreleased]
  rintro ⟨error, herror, hkind⟩
  cases herror
  cases hkind

/-- Once a waiting read is abandoned, whatever else is asked of the channel before its
release, a reader is interrupted over and over. -/
theorem interrupted_after_abandoned {file : FileId} (hstate : s.state = .opened file)
    (hopen : view.closed = false) (hposition : reader.position < view.size)
    (hbuffer : buffer ≠ []) {calls : List Channel.Call} (hcalls : .release ∉ calls) (k : Nat) :
    let left := s.afterAll host (.abandon :: calls)
    forall outcome, outcome ∈ reader.outcomes view left.1 left.2 buffer k ->
      Interrupted outcome := by
  have hcancelled := s.abandoned_cancelled hstate host
  unfold Channel.afterAll
  dsimp only
  rw [Channel.afterAll_cancelled hcancelled _ hcalls]
  exact interrupted_of_cancelled hopen hcancelled hposition hbuffer k

/-- A reader is interrupted over and over exactly if its view is open and the channel was
cancelled. -/
theorem interrupted_forever_iff (hposition : reader.position < view.size)
    (hbuffer : buffer ≠ []) :
    (forall k outcome, outcome ∈ reader.outcomes view s host buffer k ->
      Interrupted outcome) <->
    view.closed = false ∧ s.state = .cancelled := by
  have hasked := askedLength_ne_zero hposition hbuffer
  constructor
  · intro hforever
    have hfirst : Interrupted (reader.read view s host buffer).1.outcome :=
      hforever 1 _ List.mem_cons_self
    cases hclosed : view.closed with
    | true => exact absurd hfirst (not_interrupted_of_closed hclosed hasked)
    | false =>
        rw [read_asked hclosed hasked] at hfirst
        rcases interrupted_report hfirst with ⟨error, herror, hkind⟩
        exact ⟨rfl, Channel.readAt_interrupted herror hkind⟩
  · rintro ⟨hopen, hcancelled⟩ k
    exact interrupted_of_cancelled hopen hcancelled hposition hbuffer k

/-- A disk with one file of three bytes. -/
def oneFile : Host :=
  { disk := { names := [("a", 0)], contents := #[#[1, 2, 3]] } }

/-- A channel that was not cancelled does not interrupt its readers forever. -/
theorem interrupted_forever_iff_oneFile :
    let channel := Channel.ofFile oneFile.disk 0
    let view : View := { offset := 0, size := 3 }
    let reader : Reader := {}
    reader.position < view.size ∧ [(0 : UInt8)] ≠ [] ∧
      ((forall k outcome, outcome ∈ reader.outcomes view channel oneFile [0] k ->
        Interrupted outcome) <->
      view.closed = false ∧ channel.state = .cancelled) := by
  intro channel view reader
  have hposition : reader.position < view.size := by decide
  have hbuffer : [(0 : UInt8)] ≠ [] := by decide
  exact ⟨hposition, hbuffer, interrupted_forever_iff hposition hbuffer⟩

/-- A read of the file is started and abandoned.  From then on a reader at the front of the
file is interrupted over and over. -/
theorem interrupted_forever_oneFile :
    let left := (Channel.ofFile oneFile.disk 0).afterAll oneFile [.start 0 [0, 0], .abandon]
    let view : View := { offset := 0, size := 3 }
    let reader : Reader := {}
    reader.position < view.size ∧
      forall k outcome, outcome ∈ reader.outcomes view left.1 left.2 [0] k ->
        Interrupted outcome := by
  intro left view reader
  have hposition : reader.position < view.size := by decide
  exact ⟨hposition, interrupted_of_cancelled rfl rfl hposition (by decide)⟩

end Reader
end ByteWindow
