import ByteWindow.Proofs.View.Answers

/-!
# Who waits gets what who blocks gets

A caller can block on a read, or start it and wait until it is finished.  Most sources carry a
read out when it is started, and then there is nothing to wait for.  A channel leaves the file
to somebody else and looks at its own state again before it hands the piece over.  As long as
no started read is abandoned the two ways come to the same, for a single read and for
everything that is built of reads: the same answer, the same calls to the source in the same
order, and the same source left behind.

Transfers also offer bytes to a sink.  A sink that takes no byte of an offer makes either
mode fail with a text of its own, and interruptions are a matter of whoever offers; so the
sink is supposed to take bytes or to fail for good.
-/

namespace ByteWindow

/-!
## Sources
-/

/-- A source that carries a read out when it is started, so that nothing is left to be
finished. -/
def FinishesAtOnce (σ : Type) [Source σ] : Prop :=
  forall (s : σ) (host : Host) (position : Nat) (buffer : List UInt8),
    Source.startRead s host position buffer =
      .finished (Source.readAt s host position buffer)

/-- A source whose answer is the same for callers who wait and for callers who block. -/
def AnswersAlike (σ : Type) [Source σ] : Prop :=
  forall (s : σ) (host : Host) (position : Nat) (buffer : List UInt8),
    Source.readAwaited s host position buffer = Source.readAt s host position buffer

variable {κ σ : Type}

theorem FinishesAtOnce.answersAlike [Source σ] (finishes : FinishesAtOnce σ) :
    AnswersAlike σ := by
  intro s host position buffer
  unfold Source.readAwaited
  rw [finishes]

theorem AnswersAlike.readVia_eq [Source σ] (alike : AnswersAlike σ) (s : σ) (host : Host)
    (position : Nat) (buffer : List UInt8) :
    Source.readVia .awaited s host position buffer =
      Source.readVia .blocking s host position buffer :=
  alike s host position buffer

theorem AnswersAlike.logged [Source σ] (alike : AnswersAlike σ) :
    AnswersAlike (Logged σ) := by
  intro s host position buffer
  have hawaited := Logged.readVia_eq .awaited s host position buffer
  rw [alike.readVia_eq] at hawaited
  exact hawaited

theorem Channel.answersAlike : AnswersAlike Channel := by
  intro s host position buffer
  simp only [Source.readAwaited, Source.startRead, Source.readAt, Channel.startRead,
    Channel.readAt]
  cases hstate : s.state.file? with
  | error error => rfl
  | ok file =>
      simp only [Source.finishRead, Channel.finishRead, hstate]
      cases host.disk.readAt file position buffer.length with
      | error cause => rfl
      | ok piece => rfl

/-!
## Reads
-/

namespace View

variable [Source σ]

theorem read_awaited (alike : AnswersAlike σ) (view : View) (s : σ) (host : Host)
    (buffer : List UInt8) (position offset max : Nat) :
    view.read .awaited s host buffer position offset max =
      view.read .blocking s host buffer position offset max := by
  unfold read readInto
  simp only [alike.readVia_eq]

theorem fillRemaining_awaited (alike : AnswersAlike σ) (view : View) (s : σ) (host : Host)
    (done rest : List UInt8) (position remaining idle : Nat) :
    view.fillRemaining .awaited s host done rest position remaining idle =
      view.fillRemaining .blocking s host done rest position remaining idle := by
  fun_induction View.fillRemaining .blocking view s host done rest position remaining idle with
  | case1 =>
      rw [fillRemaining, if_pos rfl]
  | case2 s host done rest position remaining idle hremaining reading error houtcome =>
      rw [fillRemaining, if_neg hremaining, alike.readVia_eq]
      dsimp only
      rw [houtcome]
  | case3 s host done rest position remaining idle hremaining reading houtcome =>
      rw [fillRemaining, if_neg hremaining, alike.readVia_eq]
      dsimp only
      rw [houtcome]
  | case4 s host done rest position remaining idle hremaining reading houtcome hmore ih =>
      rw [fillRemaining, if_neg hremaining, alike.readVia_eq]
      dsimp only
      rw [houtcome]
      dsimp only
      rw [if_pos hmore]
      exact ih
  | case5 s host done rest position remaining idle hremaining reading houtcome hmore =>
      rw [fillRemaining, if_neg hremaining, alike.readVia_eq]
      dsimp only
      rw [houtcome]
      dsimp only
      rw [if_neg hmore]
  | case6 s host done rest position remaining idle hremaining reading n houtcome ih =>
      rw [fillRemaining, if_neg hremaining, alike.readVia_eq]
      dsimp only
      rw [houtcome]
      exact ih

theorem fill_awaited (alike : AnswersAlike σ) (view : View) (s : σ) (host : Host)
    (position : Nat) (buffer : List UInt8) :
    view.fill .awaited s host position buffer = view.fill .blocking s host position buffer :=
  fillRemaining_awaited alike ..

theorem readFully_awaited (alike : AnswersAlike σ) (view : View) (s : σ) (host : Host)
    (buffer : List UInt8) (position offset max : Nat) :
    view.readFully .awaited s host buffer position offset max =
      view.readFully .blocking s host buffer position offset max := by
  unfold readFully
  simp only [fill_awaited alike]

theorem readFrom_awaited (alike : AnswersAlike σ) (view : View) (s : σ) (host : Host)
    (position max : Nat) :
    view.readFrom .awaited s host position max =
      view.readFrom .blocking s host position max := by
  unfold readFrom
  simp only [fill_awaited alike]

end View

/-!
## Sinks
-/

/-- Sinks that take at least one byte of what they are offered, or fail in a way that nobody
takes for an interruption. -/
structure TakesOrFails {κ : Type} [Sink κ] (willing : κ -> Prop) : Prop where
  taken {sink sink' : κ} {bytes : List UInt8} {n : Nat} : willing sink -> bytes ≠ [] ->
    Sink.write sink bytes = (.ok n, sink') -> 0 < n ∧ willing sink'
  failed {sink sink' : κ} {bytes : List UInt8} {cause : IoError} : willing sink ->
    bytes ≠ [] -> Sink.write sink bytes = (.error cause, sink') ->
    cause.isInterrupted = false

theorem TakesOrFails.writeAllPatiently_awaited [Sink κ] {willing : κ -> Prop}
    (takes : TakesOrFails willing) (sink : κ) (bytes : List UInt8) (patience : Nat)
    (hwilling : willing sink) :
    let written := Sink.writeAllPatiently .blocking sink bytes patience
    Sink.writeAllPatiently .awaited sink bytes patience = written ∧
      (written.1 = .ok () -> willing written.2) := by
  fun_induction Sink.writeAllPatiently .blocking sink bytes patience with
  | case1 sink patience =>
      rw [Sink.writeAllPatiently]
      exact ⟨rfl, fun _ => hwilling⟩
  | case2 sink patience byte rest sink' hwrite =>
      cases (takes.taken hwilling (List.cons_ne_nil byte rest) hwrite).1
  | case3 sink patience byte rest n sink' hwrite ih =>
      rw [Sink.writeAllPatiently, hwrite]
      exact ih (takes.taken hwilling (List.cons_ne_nil byte rest) hwrite).2
  | case4 sink byte rest cause sink' hwrite patience hinterrupted ih =>
      have hfailed := takes.failed hwilling (List.cons_ne_nil byte rest) hwrite
      cases hinterrupted.symm.trans hfailed
  | case5 sink patience byte rest cause sink' hwrite hbelieved =>
      rw [Sink.writeAllPatiently, hwrite]
      refine ⟨rfl, ?_⟩
      intro hdone
      cases hdone

/-!
## Transfers
-/

namespace View

variable [Sink κ] [Source σ]

theorem transferRemaining_awaited (alike : AnswersAlike σ) {willing : κ -> Prop}
    (takes : TakesOrFails willing) (patience : Nat) (view : View) (sink : κ) (s : σ)
    (host : Host) (buffer : List UInt8) (position idle : Nat) (hwilling : willing sink) :
    view.transferRemaining .awaited patience sink s host buffer position idle =
      view.transferRemaining .blocking patience sink s host buffer position idle := by
  fun_induction View.transferRemaining .blocking patience view sink s host buffer position idle
    with
  | case1 sink s host buffer position idle hmore reading stop error houtcome =>
      rw [transferRemaining, if_pos hmore, read_awaited alike]
      dsimp only
      rw [houtcome]
  | case2 sink s host buffer position idle hmore reading stop houtcome =>
      rw [transferRemaining, if_pos hmore, read_awaited alike]
      dsimp only
      rw [houtcome]
  | case3 sink s host buffer position idle hmore reading houtcome hagain ih =>
      rw [transferRemaining, if_pos hmore, read_awaited alike]
      dsimp only
      rw [houtcome]
      dsimp only
      rw [if_pos hagain]
      exact ih hwilling
  | case4 sink s host buffer position idle hmore reading stop houtcome hagain =>
      rw [transferRemaining, if_pos hmore, read_awaited alike]
      dsimp only
      rw [houtcome]
      dsimp only
      rw [if_neg hagain]
  | case5 sink s host buffer position idle hmore reading stop n houtcome cause sink' hwritten =>
      rw [transferRemaining, if_pos hmore, read_awaited alike]
      dsimp only
      rw [houtcome]
      dsimp only
      rw [(takes.writeAllPatiently_awaited sink _ patience hwilling).1, hwritten]
  | case6 sink s host buffer position idle hmore reading n houtcome sink' hwritten ih =>
      have hwrites := takes.writeAllPatiently_awaited sink (reading.buffer.take (n + 1)) patience
        hwilling
      rw [hwritten] at hwrites
      rw [transferRemaining, if_pos hmore, read_awaited alike]
      dsimp only
      rw [houtcome]
      dsimp only
      rw [hwrites.1]
      exact ih (hwrites.2 rfl)
  | case7 sink s host buffer position idle hdone sink' hflushed =>
      rw [transferRemaining, if_neg hdone, hflushed]
  | case8 sink s host buffer position idle hdone cause sink' hflushed =>
      rw [transferRemaining, if_neg hdone, hflushed]

theorem transfer_awaited (alike : AnswersAlike σ) {willing : κ -> Prop}
    (takes : TakesOrFails willing) (view : View) (sink : κ) (s : σ) (host : Host)
    (bufferSize : Nat) (hwilling : willing sink) :
    view.transfer .awaited sink s host bufferSize =
      view.transfer .blocking sink s host bufferSize := by
  unfold transfer
  rw [transferRemaining_awaited alike takes _ view sink s host _ 0 0 hwilling]

end View

/-!
## All operations
-/

namespace Operation

/-- An operation in a given mode.  What has no modes stays as it is. -/
def inMode (mode : Mode) : Operation κ -> Operation κ
  | read _ buffer position offset max => read mode buffer position offset max
  | readFully _ buffer position offset max => readFully mode buffer position offset max
  | readFrom _ position max => readFrom mode position max
  | readAll _ => readAll mode
  | transfer _ sink bufferSize => transfer mode sink bufferSize
  | operation => operation

/-- The sink of an operation, if it has one, is willing. -/
def OffersTo (willing : κ -> Prop) : Operation κ -> Prop
  | transfer _ sink _ => willing sink
  | _ => True

/-- An operation does the same in both modes: it gets the same answer, and it leaves the same
source and the same host behind. -/
def SameInBothModes (σ : Type) [Sink κ] [Source σ] (operation : Operation κ) : Prop :=
  forall (view : View) (s : σ) (host : Host),
    (operation.inMode .awaited).perform view s host =
      (operation.inMode .blocking).perform view s host

end Operation

theorem AnswersAlike.sameInBothModes [Sink κ] [Source σ] (alike : AnswersAlike σ)
    {willing : κ -> Prop} (takes : TakesOrFails willing) {operation : Operation κ}
    (hoffers : operation.OffersTo willing) : operation.SameInBothModes σ := by
  intro view s host
  cases operation with
  | read mode buffer position offset max =>
      exact congrArg Answer.ofReading (View.read_awaited alike ..)
  | readAt position buffer => rfl
  | readFully mode buffer position offset max =>
      exact congrArg Answer.ofReading (View.readFully_awaited alike ..)
  | readFrom mode position max =>
      exact congrArg Answer.ofBytes (View.readFrom_awaited alike ..)
  | readAll mode => exact congrArg Answer.ofBytes (View.readFrom_awaited alike ..)
  | readByteAt position => rfl
  | transfer mode sink bufferSize =>
      have hsame := View.transfer_awaited alike takes view sink s host bufferSize hoffers
      exact congrArg Answer.ofTransferred hsame
  | readerRead reader buffer => rfl
  | readerReadByte reader => rfl
  | readerSkip reader n => rfl

/-- Over a source that finishes reads at once, and over a channel in any state, every operation
does the same in both modes.  With the log of the source the calls are the same too. -/
theorem Operation.perform_inMode_eq [Sink κ] {willing : κ -> Prop}
    (takes : TakesOrFails willing) (operation : Operation κ)
    (hoffers : operation.OffersTo willing) :
    (forall (σ : Type) [Source σ], FinishesAtOnce σ ->
      operation.SameInBothModes σ ∧ operation.SameInBothModes (Logged σ)) ∧
    operation.SameInBothModes Channel ∧ operation.SameInBothModes (Logged Channel) := by
  have hsame {σ : Type} [Source σ] (alike : AnswersAlike σ) :
      operation.SameInBothModes σ ∧ operation.SameInBothModes (Logged σ) := by
    constructor
    · exact alike.sameInBothModes takes hoffers
    · exact alike.logged.sameInBothModes takes hoffers
  constructor
  · intro σ _ finishes
    exact hsame finishes.answersAlike
  · exact hsame Channel.answersAlike

theorem Memory.finishesAtOnce : FinishesAtOnce Memory := by
  intro s host position buffer
  rfl

namespace Scripted

/-- A sink that is never full, takes bytes at every write, and has no fault that counts as an
interruption. -/
structure ScriptedSink.Steady (s : ScriptedSink) : Prop where
  takesSome : s.limit ≠ some 0
  neverFull : s.fullAt = none
  failsForGood : forall fault, s.fault = some fault -> fault.cause.isInterrupted = false

theorem ScriptedSink.upTo_ne_nil {limit : Option Nat} {bytes : List UInt8}
    (hlimit : limit ≠ some 0) (hbytes : bytes ≠ []) : upTo limit bytes ≠ [] := by
  cases limit with
  | none => exact hbytes
  | some n =>
      intro hnil
      rcases List.take_eq_nil_iff.mp hnil with hzero | hempty
      · exact hlimit (congrArg some hzero)
      · exact hbytes hempty

theorem ScriptedSink.Steady.take {s s' : ScriptedSink} (steady : s.Steady)
    {bytes : List UInt8} {n : Nat} (hbytes : bytes ≠ []) (htake : s.take bytes = (.ok n, s')) :
    0 < n ∧ s'.Steady := by
  unfold ScriptedSink.take upTo at htake
  rw [steady.neverFull] at htake
  cases htake
  refine ⟨List.length_pos_iff.mpr hbytes, ?_⟩
  exact ⟨steady.takesSome, rfl, steady.failsForGood⟩

theorem ScriptedSink.steady_takesOrFails : TakesOrFails ScriptedSink.Steady where
  taken := by
    intro s s' bytes n steady hbytes hwrite
    have hoffered := upTo_ne_nil steady.takesSome hbytes
    simp only [Sink.write, ScriptedSink.write] at hwrite
    split at hwrite
    · exact steady.take hoffered hwrite
    · split at hwrite
      · cases hwrite
      · rename_i fault hfault hbefore
        apply steady.take ?_ hwrite
        intro hnil
        rcases List.take_eq_nil_iff.mp hnil with hzero | hempty
        · exact hbefore (Nat.le_of_sub_eq_zero hzero)
        · exact hoffered hempty
  failed := by
    intro s s' bytes cause steady hbytes hwrite
    simp only [Sink.write, ScriptedSink.write] at hwrite
    split at hwrite
    · cases hwrite
    · rename_i fault hfault
      split at hwrite
      · cases hwrite
        exact steady.failsForGood fault hfault
      · cases hwrite

end Scripted

/-- A sink that takes two bytes at once and breaks behind the third one. -/
theorem Operation.perform_inMode_eq_breaking :
    let fault : Scripted.Fault :=
      { position := 3, once := false, cause := IoError.ofCode 32 }
    let sink : Scripted.ScriptedSink := { limit := some 2, fault := some fault }
    let operation : Operation Scripted.ScriptedSink := .transfer .blocking sink 1
    TakesOrFails Scripted.ScriptedSink.Steady ∧ sink.Steady ∧ FinishesAtOnce Memory ∧
      operation.SameInBothModes Memory ∧ operation.SameInBothModes (Logged Channel) := by
  intro fault sink operation
  have hsteady : sink.Steady := by
    constructor
    · intro hzero
      cases hzero
    · rfl
    · intro other hother
      cases hother
      rfl
  have hsame := operation.perform_inMode_eq Scripted.ScriptedSink.steady_takesOrFails hsteady
  exact ⟨Scripted.ScriptedSink.steady_takesOrFails, hsteady, Memory.finishesAtOnce,
    (hsame.1 Memory Memory.finishesAtOnce).1, hsame.2.2⟩

end ByteWindow
