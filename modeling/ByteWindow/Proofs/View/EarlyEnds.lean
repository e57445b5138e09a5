import ByteWindow.Proofs.Error.Leaves
import ByteWindow.Proofs.Source.EarlyEnds
import ByteWindow.Proofs.View.Operation
import ByteWindow.Scripted.Sink
import ByteWindow.Scripted.Stream

/-!
# In whose positions an early end is told

A view that finds its source at an end tells where that is in its own positions, and it tells its
own size as what was expected.  An early end that the source raises itself goes through the view
as it is, so it is told in places of the source.

Hence all that a view reports of early ends comes from its own position and size, except for what
pools raise when a stream gets stuck while it is skipping.
-/

namespace ByteWindow

/-- The error that a consumer was handed. -/
def ConsumerError.error : ConsumerError -> Error
  | plain cause => .io cause
  | wrapped error => error

theorem ConsumerError.error_ofError (error : Error) : (ofError error).error = error := by
  cases error <;> rfl

variable {κ σ : Type}

/-- Why an operation failed, if it did. -/
def Answer.failure? : Answer κ -> Option Error
  | counted result _ => ByteWindow.failure? result
  | bytes result => ByteWindow.failure? result
  | byte result => ByteWindow.failure? result
  | transferred result _ => ByteWindow.failure? result
  | consumed result _ _ => (ByteWindow.failure? result).map ConsumerError.error
  | consumedByte result _ => (ByteWindow.failure? result).map ConsumerError.error
  | skipped _ _ => none

/-- The position of a view from which on an operation wants bytes. -/
def Operation.requested : Operation κ -> Nat
  | read _ _ position _ _ => position
  | readAt position _ => position
  | readFully _ _ position _ _ => position
  | readFrom _ position _ => position
  | readAll _ => 0
  | readByteAt position => position
  | transfer _ _ _ => 0
  | readerRead reader _ => reader.position
  | readerReadByte reader => reader.position
  | readerSkip reader _ => reader.position

/-- An early end at a position of the view or behind it, as it is told by the view or by a
source that was asked for bytes there. -/
inductive EarlyEnd (view : View) (raises : Nat -> Nat -> Nat -> Prop) (requested : Nat) :
    Nat -> Nat -> Prop where
  | seen {position : Nat} :
      requested ≤ position -> position < view.size ->
      EarlyEnd view raises requested position view.size
  | raised {position told expected : Nat} :
      requested ≤ position -> position < view.size ->
      raises (view.offset + position) told expected ->
      EarlyEnd view raises requested told expected

namespace EarlyEnd

variable {view : View} {raises : Nat -> Nat -> Nat -> Prop}
variable {position requested told expected : Nat}

theorem mono (h : EarlyEnd view raises position told expected) (hle : requested ≤ position) :
    EarlyEnd view raises requested told expected := by
  cases h with
  | seen hfrom hto => exact .seen (Nat.le_trans hle hfrom) hto
  | raised hfrom hto hraised => exact .raised (Nat.le_trans hle hfrom) hto hraised

/-- What the view says itself. -/
theorem of_unexpectedEof (hposition : position < view.size)
    (h : view.unexpectedEof position = .unexpectedEof told expected) :
    EarlyEnd view raises position told expected := by
  cases h
  exact .seen (Nat.le_refl _) hposition

theorem of_leavesEnds (h : EarlyEnd view (fun _ _ _ => False) requested told expected) :
    expected = view.size ∧ requested ≤ told ∧ told < view.size := by
  cases h with
  | seen hfrom hto => exact ⟨rfl, hfrom, hto⟩
  | raised _ _ hraised => exact hraised.elim

end EarlyEnd

theorem error_of_map {ε α β : Type} {f : α -> β} {result : Except ε α} {error : ε}
    (h : result.map f = .error error) : result = .error error := by
  cases result with
  | ok value => cases h
  | error error => exact congrArg Except.error (Except.error.inj h)

/-!
## Every operation in turn
-/

namespace RaisesOnly

variable [Source σ] {raises : Nat -> Nat -> Nat -> Prop} {s : σ} {host : Host} {view : View}
variable {told expected : Nat}

theorem viewRead (source : RaisesOnly σ raises) {mode : Mode} {buffer : List UInt8}
    {position offset max : Nat}
    (h : (view.read mode s host buffer position offset max).outcome =
      .error (.unexpectedEof told expected)) :
    EarlyEnd view raises position told expected := by
  unfold View.read at h
  split at h
  · cases h
  · split at h
    · rename_i error hrequest
      rcases View.requestLength_error hrequest with ⟨bounds, rfl⟩
      cases h
    · cases h
    · cases h
    · rename_i length hzero hrequest
      have hlength : length ≠ 0 := fun hnil => hzero (by rw [hnil])
      rcases View.requestLength_some hrequest hlength with ⟨_, _, hwindow⟩
      refine .raised (Nat.le_refl _) ?_ (source.read mode s host _ _ h)
      exact Nat.lt_of_lt_of_le (Nat.lt_add_of_pos_right (Nat.pos_of_ne_zero hlength)) hwindow

theorem fillRemaining (source : RaisesOnly σ raises) {mode : Mode} {done rest : List UInt8}
    {position remaining idle : Nat}
    (hwindow : 0 < remaining -> position + remaining ≤ view.size)
    (h : (view.fillRemaining mode s host done rest position remaining idle).outcome =
      .error (.unexpectedEof told expected)) :
    EarlyEnd view raises position told expected := by
  have hposition {position remaining : Nat} (hne : ¬ remaining = 0)
      (hwindow : 0 < remaining -> position + remaining ≤ view.size) : position < view.size := by
    have hpos := Nat.pos_of_ne_zero hne
    exact Nat.lt_of_lt_of_le (Nat.lt_add_of_pos_right hpos) (hwindow hpos)
  fun_induction View.fillRemaining mode view s host done rest position remaining idle with
  | case1 => cases h
  | case2 s host done rest position remaining idle hne reading error houtcome =>
      cases h
      exact .raised (Nat.le_refl _) (hposition hne hwindow) (source.read mode s host _ _ houtcome)
  | case3 s host done rest position remaining idle hne reading houtcome =>
      exact .of_unexpectedEof (hposition hne hwindow) (Except.error.inj h)
  | case4 s host done rest position remaining idle hne reading houtcome hidle ih =>
      exact ih hwindow h
  | case5 s host done rest position remaining idle hne reading houtcome hidle =>
      exact .of_unexpectedEof (hposition hne hwindow) (Except.error.inj h)
  | case6 s host done rest position remaining idle hne reading n houtcome ih =>
      refine (ih ?_ h).mono (Nat.le_add_right _ _)
      intro hpos
      have hinside := hwindow (Nat.pos_of_ne_zero hne)
      omega

theorem readFully (source : RaisesOnly σ raises) {mode : Mode} {buffer : List UInt8}
    {position offset max : Nat}
    (h : (view.readFully mode s host buffer position offset max).outcome =
      .error (.unexpectedEof told expected)) :
    EarlyEnd view raises position told expected := by
  unfold View.readFully at h
  split at h
  · cases h
  · split at h
    · rename_i error hrequest
      rcases View.requestLength_error hrequest with ⟨bounds, rfl⟩
      cases h
    · cases h
    · cases h
    · rename_i length hzero hrequest
      have hlength : length ≠ 0 := fun hnil => hzero (by rw [hnil])
      rcases View.requestLength_some hrequest hlength with ⟨_, hroom, hwindow⟩
      refine source.fillRemaining ?_ (error_of_map h)
      intro _
      rw [View.length_piece hroom]
      exact hwindow

theorem readFrom (source : RaisesOnly σ raises) {mode : Mode} {position max : Nat}
    (h : (view.readFrom mode s host position max).1 =
      .error (.unexpectedEof told expected)) :
    EarlyEnd view raises position told expected := by
  unfold View.readFrom at h
  split at h
  · cases h
  · split at h
    · rename_i error havailable
      rcases View.availableLength_error havailable with ⟨bounds, rfl⟩
      cases h
    · rename_i length havailable
      refine source.fillRemaining ?_ (error_of_map h)
      intro _
      rw [List.length_replicate]
      exact (View.availableLength_ok havailable).2

theorem viewReadByte (source : RaisesOnly σ raises) {position : Nat}
    (h : (view.readByteAt s host position).1 = .error (.unexpectedEof told expected)) :
    EarlyEnd view raises position told expected := by
  unfold View.readByteAt at h
  split at h
  · cases h
  · split at h
    · cases h
    · rename_i hinside
      have hposition := Nat.lt_of_not_le hinside
      split at h
      · exact .of_unexpectedEof hposition (Except.error.inj h)
      · rename_i result s' host' _ hread
        refine .raised (Nat.le_refl _) hposition (source.readByte s host _ ?_)
        rw [hread]
        exact h

theorem transferRemaining [Sink κ] (source : RaisesOnly σ raises) {mode : Mode} {patience : Nat}
    {sink : κ} {buffer : List UInt8} {position idle : Nat}
    (h : (view.transferRemaining mode patience sink s host buffer position idle).outcome =
      .error (.unexpectedEof told expected)) :
    EarlyEnd view raises position told expected := by
  fun_induction View.transferRemaining mode patience view sink s host buffer position idle with
  | case1 sink s host buffer position idle hposition reading stop error houtcome =>
      cases h
      exact source.viewRead houtcome
  | case2 sink s host buffer position idle hposition reading stop houtcome =>
      exact .of_unexpectedEof hposition (Except.error.inj h)
  | case3 sink s host buffer position idle hposition reading houtcome hidle ih => exact ih h
  | case4 sink s host buffer position idle hposition reading stop houtcome hidle =>
      exact .of_unexpectedEof hposition (Except.error.inj h)
  | case5 => cases h
  | case6 sink s host buffer position idle hposition reading n houtcome sink' hwrite ih =>
      exact (ih h).mono (Nat.le_add_right _ _)
  | case7 => cases h
  | case8 => cases h

theorem transfer [Sink κ] (source : RaisesOnly σ raises) {mode : Mode} {sink : κ}
    {bufferSize : Nat}
    (h : (view.transfer mode sink s host bufferSize).outcome =
      .error (.unexpectedEof told expected)) :
    EarlyEnd view raises 0 told expected := by
  unfold View.transfer at h
  split at h
  · dsimp only at h
    split at h <;> cases h
  · exact source.transferRemaining h

theorem readerRead (source : RaisesOnly σ raises) {reader : Reader} {buffer : List UInt8}
    {error : ConsumerError} (h : (reader.read view s host buffer).1.outcome = .error error)
    (hend : error.error = .unexpectedEof told expected) :
    EarlyEnd view raises reader.position told expected := by
  unfold Reader.read at h
  dsimp only at h
  split at h
  · cases h
  · rename_i hlength
    have hposition : reader.position < view.size := by
      unfold Reader.available at hlength
      omega
    split at h
    · rename_i cause houtcome
      cases h
      rw [ConsumerError.error_ofError] at hend
      subst hend
      exact source.viewRead houtcome
    · cases h
      exact .of_unexpectedEof hposition hend
    · cases h

theorem readerReadByte (source : RaisesOnly σ raises) {reader : Reader}
    {error : ConsumerError} (h : (reader.readByte view s host).outcome = .error error)
    (hend : error.error = .unexpectedEof told expected) :
    EarlyEnd view raises reader.position told expected := by
  unfold Reader.readByte at h
  split at h
  · rename_i cause s' host' hread
    cases h
    rw [ConsumerError.error_ofError] at hend
    subst hend
    exact source.viewReadByte (congrArg Prod.fst hread)
  · cases h
  · cases h

/-- Whatever a view is asked, an early end is one that it saw itself or that its source
raised. -/
theorem perform [Sink κ] (source : RaisesOnly σ raises) (operation : Operation κ)
    (h : (operation.perform view s host).1.failure? = some (.unexpectedEof told expected)) :
    EarlyEnd view raises operation.requested told expected := by
  cases operation with
  | read mode buffer position offset max => exact source.viewRead (eq_error_of_failure? h)
  | readAt position buffer => exact source.viewRead (eq_error_of_failure? h)
  | readFully mode buffer position offset max => exact source.readFully (eq_error_of_failure? h)
  | readFrom mode position max => exact source.readFrom (eq_error_of_failure? h)
  | readAll mode => exact source.readFrom (eq_error_of_failure? h)
  | readByteAt position => exact source.viewReadByte (eq_error_of_failure? h)
  | transfer mode sink bufferSize => exact source.transfer (eq_error_of_failure? h)
  | readerRead reader buffer =>
      rcases Option.map_eq_some_iff.mp h with ⟨error, hfailed, hend⟩
      exact source.readerRead (eq_error_of_failure? hfailed) hend
  | readerReadByte reader =>
      rcases Option.map_eq_some_iff.mp h with ⟨error, hfailed, hend⟩
      exact source.readerReadByte (eq_error_of_failure? hfailed) hend
  | readerSkip reader n => cases h

end RaisesOnly

/-!
## Early ends in positions of the view
-/

/-- All early ends that an operation fails with are told in positions of the view, from the
requested one on, and the size of the view is what was expected. -/
def Operation.EndsInView [Sink κ] [Source σ] (operation : Operation κ) (view : View) (s : σ)
    (host : Host) : Prop :=
  forall told expected,
    (operation.perform view s host).1.failure? = some (.unexpectedEof told expected) ->
    expected = view.size ∧ operation.requested ≤ told ∧ told < view.size

theorem LeavesEnds.endsInView [Sink κ] [Source σ] (source : LeavesEnds σ)
    (operation : Operation κ) (view : View) (s : σ) (host : Host) :
    operation.EndsInView view s host := by
  intro told expected h
  exact (RaisesOnly.perform source operation h).of_leavesEnds

/-- All sources but pools leave early ends to the view, and pools do if their streams never get
stuck.  Any other early end is raised by a pool: it tells a position of the source before the
place where bytes were asked for, and that place as what was expected. -/
theorem Operation.endsInView_unless [Sink κ] (operation : Operation κ) (view : View)
    (host : Host) :
    ((forall s : Memory, operation.EndsInView view s host) ∧
      (forall s : Buffer, operation.EndsInView view s host) ∧
      (forall s : Positional, operation.EndsInView view s host) ∧
      (forall s : Channel, operation.EndsInView view s host) ∧
      (forall s : Directory, operation.EndsInView view s host) ∧
      forall (ρ : Type) [ByteCursor ρ] (s : SeekThenRead ρ),
        operation.EndsInView view s host) ∧
    forall (φ τ : Type) [Stream τ] [StreamFactory φ τ] (pool : Pool φ τ),
      (Pool.NeverStuck τ -> operation.EndsInView view pool host) ∧
      forall told expected,
        (operation.perform view pool host).1.failure? =
          some (.unexpectedEof told expected) ->
        (expected = view.size ∧ operation.requested ≤ told ∧ told < view.size) ∨
          exists asked, operation.requested ≤ asked ∧ asked < view.size ∧
            expected = view.offset + asked ∧ told < expected := by
  refine ⟨⟨?_, ?_, ?_, ?_, ?_, ?_⟩, ?_⟩
  · exact fun s => Memory.leavesEnds.endsInView operation view s host
  · exact fun s => Buffer.leavesEnds.endsInView operation view s host
  · exact fun s => Positional.leavesEnds.endsInView operation view s host
  · exact fun s => Channel.leavesEnds.endsInView operation view s host
  · exact fun s => Directory.leavesEnds.endsInView operation view s host
  · exact fun ρ _ s => SeekThenRead.leavesEnds.endsInView operation view s host
  · intro φ τ _ _ pool
    constructor
    · exact fun hnever => (Pool.leavesEnds hnever).endsInView operation view pool host
    · intro told expected h
      cases Pool.raisesOnly_stuckBefore.perform operation h with
      | seen hfrom hto => exact .inl ⟨rfl, hfrom, hto⟩
      | raised hfrom hto hstuck =>
          rcases hstuck with ⟨rfl, hbefore⟩
          exact .inr ⟨_, hfrom, hto, rfl, hbefore⟩

open Scripted

/-- Readers of two bytes where ten were declared. -/
def shortReader (number : Nat) : NumberedReader where
  number := number
  data := #[1, 2]

def shortDiscarding : Pool (NumberingFactory (Discarding NumberedReader))
    (Discarding NumberedReader) where
  factory := { make := fun number => .ok { reader := shortReader number } }
  size := 10
  capacity := 1

def shortJumping : Pool (NumberingFactory (Jumping NumberedReader))
    (Jumping NumberedReader) where
  factory := { make := fun number => .ok { cursor := shortReader number } }
  size := 10
  capacity := 1

/-- A full read from position 3 of a view that starts at place 4. -/
def lateRead : Operation ScriptedSink :=
  .readFully .blocking [0, 0] 3 0 2

/-- The view expects 5 bytes, and it is told that 7 were expected and that they ended at 2, which
was not even asked for. -/
theorem failure_shortDiscarding :
    (lateRead.perform { offset := 4, size := 5 } shortDiscarding {}).1.failure? =
      some (.unexpectedEof 2 7) := by
  cbv

theorem endsInView_unless_shortDiscarding :
    (lateRead.perform { offset := 4, size := 5 } shortDiscarding {}).1.failure? =
      some (.unexpectedEof 2 7) ∧
    ((7 = 5 ∧ 3 ≤ 2 ∧ 2 < 5) ∨
      exists asked, 3 ≤ asked ∧ asked < 5 ∧ 7 = 4 + asked ∧ 2 < 7) := by
  constructor
  · exact failure_shortDiscarding
  · exact ((lateRead.endsInView_unless { offset := 4, size := 5 } {}).2 _ _ shortDiscarding).2
      2 7 failure_shortDiscarding

theorem shortDiscarding_not_endsInView :
    ¬ lateRead.EndsInView { offset := 4, size := 5 } shortDiscarding {} := by
  intro hends
  cases (hends 2 7 failure_shortDiscarding).1

/-- The same bytes are told to end in the view if the streams skip by moving. -/
example :
    (lateRead.perform { offset := 4, size := 5 } shortJumping {}).1.failure? =
      some (.unexpectedEof 3 5) := by
  cbv

end ByteWindow
