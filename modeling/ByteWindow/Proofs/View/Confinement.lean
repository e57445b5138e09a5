import ByteWindow.Proofs.Source.Logged
import ByteWindow.Proofs.View.Operation

/-!
# Views stay within their windows

Whatever a view is asked, its source hears only of positions within the window.  The bounds
are checked once, before the first call; a full read then relies on a source that never
counts more bytes than its buffer has, while its position moves on and the rest of the
buffer gets shorter.
-/

namespace ByteWindow

/-- A call for at least one byte, and for none outside of the window. -/
def View.Confines (view : View) : SourceCall -> Prop
  | .read position length =>
      0 < length ∧ view.offset ≤ position ∧ position + length ≤ view.offset + view.size
  | .readByte position => view.offset ≤ position ∧ position < view.offset + view.size
  | .release => False

/-- What a view may ask of its source: never a release, and nothing outside of the window
if the reads of the source fit their buffers. -/
def View.MayAsk (σ : Type) [Source σ] (view : View) (call : SourceCall) : Prop :=
  call ≠ .release ∧ (FitsBuffers σ -> view.Confines call)

namespace Logged

variable {σ : Type} {allowed : SourceCall -> Prop} {s s' s'' : Logged σ}

/-- The log grew by calls that are allowed. -/
def Grown (allowed : SourceCall -> Prop) (s s' : Logged σ) : Prop :=
  exists calls, s'.calls = s.calls ++ calls ∧ forall call, call ∈ calls -> allowed call

namespace Grown

theorem refl (s : Logged σ) : Grown allowed s s := by
  refine ⟨[], (List.append_nil _).symm, ?_⟩
  intro call hcall
  cases hcall

theorem trans (h : Grown allowed s s') (h' : Grown allowed s' s'') : Grown allowed s s'' := by
  rcases h with ⟨calls, hcalls, hallowed⟩
  rcases h' with ⟨later, hlater, hallowed'⟩
  refine ⟨calls ++ later, ?_, ?_⟩
  · rw [hlater, hcalls, List.append_assoc]
  · intro call hcall
    rcases List.mem_append.mp hcall with hearly | hlate
    · exact hallowed call hearly
    · exact hallowed' call hlate

theorem mono {allowed' : SourceCall -> Prop} (h : Grown allowed s s')
    (himp : forall call, allowed call -> allowed' call) : Grown allowed' s s' := by
  rcases h with ⟨calls, hcalls, hallowed⟩
  exact ⟨calls, hcalls, fun call hcall => himp call (hallowed call hcall)⟩

theorem single {call : SourceCall} (hcalls : s'.calls = s.calls ++ [call])
    (hallowed : allowed call) : Grown allowed s s' := by
  refine ⟨[call], hcalls, ?_⟩
  intro other hother
  rw [List.mem_singleton.mp hother]
  exact hallowed

theorem readVia [Source σ] {mode : Mode} {host : Host} {position : Nat}
    {buffer : List UInt8} (hallowed : allowed (.read position buffer.length)) :
    Grown allowed s (Source.readVia mode s host position buffer).source :=
  single (calls_readVia mode s host position buffer) hallowed

end Grown
end Logged

namespace View

open Logged

variable {κ σ : Type} [Sink κ] [Source σ]

theorem mayAsk_read {view : View} {position length : Nat}
    (h : FitsBuffers σ -> length ≠ 0 ∧ position + length ≤ view.size) :
    view.MayAsk σ (.read (view.offset + position) length) := by
  constructor
  · intro hrelease
    cases hrelease
  · intro hfits
    rcases h hfits with ⟨hlength, hwindow⟩
    refine ⟨Nat.pos_of_ne_zero hlength, Nat.le_add_right _ _, ?_⟩
    rw [Nat.add_assoc]
    exact Nat.add_le_add_left hwindow _

theorem grown_readInto {mode : Mode} {view : View} {s : Logged σ} {host : Host}
    {buffer : List UInt8} {position offset length : Nat} (hlength : length ≠ 0)
    (hbuffer : offset + length ≤ buffer.length) (hwindow : position + length ≤ view.size) :
    Grown (view.MayAsk σ) s
      (view.readInto mode s host buffer position offset length).source := by
  apply Grown.readVia
  apply mayAsk_read
  intro _
  rw [length_piece hbuffer]
  exact ⟨hlength, hwindow⟩

theorem grown_read (mode : Mode) (view : View) (s : Logged σ) (host : Host)
    (buffer : List UInt8) (position offset max : Nat) :
    Grown (view.MayAsk σ) s
      (view.read mode s host buffer position offset max).source := by
  have hcourse := askCourse mode view s host buffer position offset max
  generalize view.read mode s host buffer position offset max = reading at hcourse
  cases hcourse with
  | unasked houtcome => exact Grown.refl s
  | asked hlength _hmax hbuffer hwindow => exact grown_readInto hlength hbuffer hwindow

/-!
## Loops
-/

/-- The invariant of a full read: as many bytes remain as the rest of the buffer holds, and
they end within the window. -/
structure Room (view : View) (rest : List UInt8) (position remaining : Nat) : Prop where
  length_eq : rest.length = remaining
  inside : position + remaining ≤ view.size

/-- A read into the rest of the buffer leaves room for what is still to come. -/
theorem Room.advance (hfits : FitsBuffers σ) {view : View} {mode : Mode} {s : σ}
    {host : Host} {rest : List UInt8} {position remaining place n : Nat}
    (hroom : Room view rest position remaining)
    (hread : (Source.readVia mode s host place rest).outcome = .ok (some n)) :
    n ≤ remaining ∧
      Room view ((Source.readVia mode s host place rest).buffer.drop n) (position + n)
        (remaining - n) := by
  have hcount := hfits.count hread
  have hlength := hfits.length mode s host place rest
  have hinside := hroom.inside
  rw [hroom.length_eq] at hcount hlength
  refine ⟨hcount, ?_, by omega⟩
  rw [List.length_drop, hlength]

theorem grown_fillRemaining (mode : Mode) (view : View) (s : Logged σ) (host : Host)
    (done rest : List UInt8) (position remaining idle : Nat)
    (hroom : FitsBuffers σ -> Room view rest position remaining) :
    Grown (view.MayAsk σ) s
      (view.fillRemaining mode s host done rest position remaining idle).source := by
  -- Every turn of the loop asks for the bytes that remain, and they fit the window.
  have hcall (s : Logged σ) (host : Host) (rest : List UInt8) (position remaining : Nat)
      (hremaining : ¬ remaining = 0)
      (hroom : FitsBuffers σ -> Room view rest position remaining) :
      Grown (view.MayAsk σ) s
        (Source.readVia mode s host (view.offset + position) rest).source := by
    apply Grown.readVia
    apply mayAsk_read
    intro hfits
    rw [(hroom hfits).length_eq]
    exact ⟨hremaining, (hroom hfits).inside⟩
  fun_induction View.fillRemaining mode view s host done rest position remaining idle with
  | case1 => exact Grown.refl _
  | case2 s host done rest position remaining idle hremaining =>
      exact hcall s host rest position remaining hremaining hroom
  | case3 s host done rest position remaining idle hremaining =>
      exact hcall s host rest position remaining hremaining hroom
  | case4 s host done rest position remaining idle hremaining reading houtcome _ ih =>
      refine (hcall s host rest position remaining hremaining hroom).trans (ih ?_)
      intro hfits
      exact ((hroom hfits).advance hfits.logged houtcome).2
  | case5 s host done rest position remaining idle hremaining =>
      exact hcall s host rest position remaining hremaining hroom
  | case6 s host done rest position remaining idle hremaining reading n houtcome ih =>
      refine (hcall s host rest position remaining hremaining hroom).trans (ih ?_)
      intro hfits
      exact ((hroom hfits).advance hfits.logged houtcome).2

theorem grown_fill (mode : Mode) (view : View) (s : Logged σ) (host : Host)
    {position : Nat} {buffer : List UInt8} (hinside : position + buffer.length ≤ view.size) :
    Grown (view.MayAsk σ) s (view.fill mode s host position buffer).source :=
  grown_fillRemaining mode view s host [] buffer position buffer.length 0
    fun _ => ⟨rfl, hinside⟩

theorem grown_transferRemaining (mode : Mode) (patience : Nat) (view : View) (sink : κ)
    (s : Logged σ) (host : Host) (buffer : List UInt8) (position idle : Nat) :
    Grown (view.MayAsk σ) s
      (view.transferRemaining mode patience sink s host buffer position idle).source := by
  fun_induction View.transferRemaining mode patience view sink s host buffer position idle with
  | case1 => exact grown_read ..
  | case2 => exact grown_read ..
  | case3 sink s host buffer position idle _ reading _ _ ih =>
      exact (grown_read ..).trans ih
  | case4 => exact grown_read ..
  | case5 => exact grown_read ..
  | case6 sink s host buffer position idle _ reading n _ sink' _ ih =>
      exact (grown_read ..).trans ih
  | case7 => exact Grown.refl _
  | case8 => exact Grown.refl _

/-!
## All operations
-/

theorem grown_readFully (mode : Mode) (view : View) (s : Logged σ) (host : Host)
    (buffer : List UInt8) (position offset max : Nat) :
    Grown (view.MayAsk σ) s
      (view.readFully mode s host buffer position offset max).source := by
  unfold readFully
  split
  · exact Grown.refl s
  · split
    · exact Grown.refl s
    · exact Grown.refl s
    · exact Grown.refl s
    · rename_i length hzero hrequest
      have hlength : length ≠ 0 := fun h => hzero (by rw [h])
      rcases requestLength_some hrequest hlength with ⟨_hmax, hbuffer, hwindow⟩
      apply grown_fill
      rw [length_piece hbuffer]
      exact hwindow

theorem grown_readFrom (mode : Mode) (view : View) (s : Logged σ) (host : Host)
    (position max : Nat) :
    Grown (view.MayAsk σ) s (view.readFrom mode s host position max).2.1 := by
  unfold readFrom
  split
  · exact Grown.refl s
  · split
    · exact Grown.refl s
    · rename_i length havailable
      apply grown_fill
      rw [List.length_replicate]
      exact (availableLength_ok havailable).2

theorem grown_readByteAt (view : View) (s : Logged σ) (host : Host) (position : Nat) :
    Grown (view.MayAsk σ) s (view.readByteAt s host position).2.1 := by
  unfold readByteAt
  split
  · exact Grown.refl s
  · split
    · exact Grown.refl s
    · rename_i hinside
      have hcalls := calls_readByteAt s host (view.offset + position)
      have hcall : Grown (view.MayAsk σ) s
          (Source.readByteAt s host (view.offset + position)).2.1 := by
        refine Grown.single hcalls ⟨?_, fun _ => ?_⟩
        · intro hrelease
          cases hrelease
        · exact ⟨Nat.le_add_right _ _, Nat.add_lt_add_left (Nat.lt_of_not_le hinside) _⟩
      split
      · rename_i s' host' hread
        rw [hread] at hcall
        exact hcall
      · rename_i result s' host' _ hread
        rw [hread] at hcall
        exact hcall

theorem grown_transfer (mode : Mode) (view : View) (sink : κ) (s : Logged σ) (host : Host)
    (bufferSize : Nat) :
    Grown (view.MayAsk σ) s (view.transfer mode sink s host bufferSize).source := by
  unfold transfer
  split
  · exact Grown.refl s
  · exact grown_transferRemaining ..

theorem grown_readerRead (reader : Reader) (view : View) (s : Logged σ) (host : Host)
    (buffer : List UInt8) :
    Grown (view.MayAsk σ) s (reader.read view s host buffer).1.source := by
  unfold Reader.read
  dsimp only
  split
  · exact Grown.refl s
  · split <;> exact grown_read ..

theorem grown_readerReadByte (reader : Reader) (view : View) (s : Logged σ) (host : Host) :
    Grown (view.MayAsk σ) s (reader.readByte view s host).source := by
  have hread := grown_readByteAt view s host reader.position
  unfold Reader.readByte
  split
  · rename_i error source host' h
    rw [h] at hread
    exact hread
  · rename_i source host' h
    rw [h] at hread
    exact hread
  · rename_i byte source host' h
    rw [h] at hread
    exact hread

end View

/-- Whatever a view is asked, the log grows only by what it may ask. -/
theorem Operation.grown_perform {κ σ : Type} [Sink κ] [Source σ] (operation : Operation κ)
    (view : View) (s : Logged σ) (host : Host) :
    Logged.Grown (view.MayAsk σ) s (operation.perform view s host).2.1 := by
  cases operation with
  | read mode buffer position offset max => exact View.grown_read ..
  | readAt position buffer => exact View.grown_read ..
  | readFully mode buffer position offset max => exact View.grown_readFully ..
  | readFrom mode position max => exact View.grown_readFrom ..
  | readAll mode => exact View.grown_readFrom ..
  | readByteAt position => exact View.grown_readByteAt ..
  | transfer mode sink bufferSize => exact View.grown_transfer ..
  | readerRead reader buffer => exact View.grown_readerRead ..
  | readerReadByte reader => exact View.grown_readerReadByte ..
  | readerSkip reader n => exact Logged.Grown.refl s

end ByteWindow
