import ByteWindow.Proofs.Pool.Parking
import ByteWindow.Proofs.View.Awaiting
import ByteWindow.Source.Buffer
import ByteWindow.Source.Channel
import ByteWindow.Source.Directory
import ByteWindow.Source.Memory
import ByteWindow.Source.Positional
import ByteWindow.Source.SeekThenRead
import ByteWindow.Stream.FileCursor

/-!
# Early ends that sources raise themselves

That a source ended too early is for the view to say, which knows what was promised.  Most
sources leave it to the view: they deliver nothing at their end, and they fail for other reasons
only.

A pool does not leave it to the view.  A stream that is told to skip and achieves nothing, again
and again, has ended before the place where the read should begin.  The pool says so itself, and
it tells how far the stream came and which place it should have reached.
-/

namespace ByteWindow

/-- What is known of the early ends that a source raises: `raises place position expected` holds
of those that reads at a place fail with. -/
structure RaisesOnly (σ : Type) [Source σ] (raises : Nat -> Nat -> Nat -> Prop) : Prop where
  read (mode : Mode) (s : σ) (host : Host) (place : Nat) (buffer : List UInt8)
      {position expected : Nat} :
    (Source.readVia mode s host place buffer).outcome =
      .error (.unexpectedEof position expected) ->
    raises place position expected
  readByte (s : σ) (host : Host) (place : Nat) {position expected : Nat} :
    (Source.readByteAt s host place).1 = .error (.unexpectedEof position expected) ->
    raises place position expected

/-- Sources that raise no early ends. -/
def LeavesEnds (σ : Type) [Source σ] : Prop :=
  RaisesOnly σ fun _ _ _ => False

theorem Reading.outcome_of_singleByte {σ : Type} {reading : Reading (Option Nat) σ}
    {error : Error} (h : reading.singleByte.1 = .error error) :
    reading.outcome = .error error := by
  unfold singleByte at h
  split at h
  · cases h
  · cases h
  · rename_i houtcome
    cases h
    exact houtcome

theorem RaisesOnly.of_readAt {σ : Type} [Source σ] {raises : Nat -> Nat -> Nat -> Prop}
    (alike : AnswersAlike σ)
    (hread : forall (s : σ) (host : Host) (place : Nat) (buffer : List UInt8)
      (position expected : Nat),
      (Source.readAt s host place buffer).outcome =
        .error (.unexpectedEof position expected) ->
      raises place position expected)
    (hbyte : forall (s : σ) (host : Host) (place position expected : Nat),
      (Source.readByteAt s host place).1 = .error (.unexpectedEof position expected) ->
      raises place position expected) :
    RaisesOnly σ raises where
  read := by
    intro mode s host place buffer position expected h
    cases mode with
    | blocking => exact hread s host place buffer position expected h
    | awaited =>
        rw [alike.readVia_eq] at h
        exact hread s host place buffer position expected h
  readByte := by
    intro s host place position expected h
    exact hbyte s host place position expected h

/-- Sources that read a byte into a buffer of one byte. -/
theorem RaisesOnly.of_singleByte {σ : Type} [Source σ] {raises : Nat -> Nat -> Nat -> Prop}
    (alike : AnswersAlike σ)
    (hsingle : forall (s : σ) (host : Host) (place : Nat),
      Source.readByteAt s host place = (Source.readAt s host place [0]).singleByte)
    (hread : forall (s : σ) (host : Host) (place : Nat) (buffer : List UInt8)
      (position expected : Nat),
      (Source.readAt s host place buffer).outcome =
        .error (.unexpectedEof position expected) ->
      raises place position expected) :
    RaisesOnly σ raises := by
  apply RaisesOnly.of_readAt alike hread
  intro s host place position expected h
  rw [hsingle] at h
  exact hread s host place [0] position expected (Reading.outcome_of_singleByte h)

/-!
## Sources that leave it to the view
-/

theorem Memory.leavesEnds : LeavesEnds Memory := by
  apply RaisesOnly.of_readAt (fun _ _ _ _ => rfl)
  · intro s host place buffer position expected h
    simp only [Source.readAt] at h
    split at h <;> cases h
  · intro s host place position expected h
    cases h

theorem Directory.leavesEnds : LeavesEnds Directory := by
  apply RaisesOnly.of_singleByte (fun _ _ _ _ => rfl) (fun _ _ _ => rfl)
  intro s host place buffer position expected h
  cases h

theorem Positional.leavesEnds : LeavesEnds Positional := by
  apply RaisesOnly.of_singleByte (fun _ _ _ _ => rfl) (fun _ _ _ => rfl)
  intro s host place buffer position expected h
  simp only [Source.readAt] at h
  split at h
  · cases h
  · split at h <;> cases h

/-- A buffer without bytes was released. -/
theorem Buffer.bytes?_error {s : Buffer} {host : Host} {error : Error}
    (h : s.bytes? host = .error error) : error = .released := by
  unfold bytes? at h
  split at h
  · cases h
  · cases h
    rfl

theorem Buffer.leavesEnds : LeavesEnds Buffer := by
  apply RaisesOnly.of_readAt (fun _ _ _ _ => rfl)
  · intro s host place buffer position expected h
    simp only [Source.readAt] at h
    split at h
    · cases h
    · rename_i error hbytes
      cases Buffer.bytes?_error hbytes
      cases h
  · intro s host place position expected h
    simp only [Source.readByteAt] at h
    split at h
    · cases h
    · rename_i error hbytes
      cases Buffer.bytes?_error hbytes
      cases h

/-- A channel without a file was cancelled or released. -/
theorem ChannelState.file?_error {state : ChannelState} {error : Error}
    (h : state.file? = .error error) : error = .cancelled ∨ error = .released := by
  cases state with
  | opened file => cases h
  | cancelled =>
      cases h
      exact .inl rfl
  | released =>
      cases h
      exact .inr rfl

theorem Channel.leavesEnds : LeavesEnds Channel := by
  apply RaisesOnly.of_singleByte Channel.answersAlike (fun _ _ _ => rfl)
  intro s host place buffer position expected h
  simp only [Source.readAt, readAt] at h
  split at h
  · rename_i error hfile
    cases h
    rcases ChannelState.file?_error hfile with hcancelled | hreleased
    · cases hcancelled
    · cases hreleased
  · split at h <;> cases h

namespace SeekThenRead

variable {ρ : Type} [ByteCursor ρ]

theorem readSettled_not_unexpectedEof (place attempts : Nat) (cursor : ρ) (host : Host)
    (buffer : List UInt8) (position expected : Nat) :
    (readSettled place attempts cursor host buffer).outcome ≠
      .error (.unexpectedEof position expected) := by
  intro h
  fun_induction readSettled place attempts cursor host buffer with
  | case1 => cases h
  | case2 => cases h
  | case3 => cases h
  | case4 => cases h
  | case5 => cases h
  | case6 =>
      rename_i ih
      exact ih h

theorem readByteSettled_not_unexpectedEof (place : Nat) (cursor : ρ) (host : Host)
    (position expected : Nat) :
    (readByteSettled place cursor host).1 ≠ .error (.unexpectedEof position expected) := by
  intro h
  unfold readByteSettled at h
  split at h
  · cases h
  · split at h <;> cases h

theorem leavesEnds : LeavesEnds (SeekThenRead ρ) := by
  apply RaisesOnly.of_readAt (fun _ _ _ _ => rfl)
  · intro s host place buffer position expected h
    simp only [Source.readAt] at h
    split at h
    · cases h
    · exact readSettled_not_unexpectedEof _ _ _ _ _ _ _ h
  · intro s host place position expected h
    simp only [Source.readByteAt] at h
    split at h
    · cases h
    · exact readByteSettled_not_unexpectedEof _ _ _ _ _ h

end SeekThenRead

/-!
## Pools
-/

namespace Pool

variable {φ τ : Type} [Stream τ]

/-- A stream that should have reached a place came to a position before it. -/
def StuckBefore (place position expected : Nat) : Prop :=
  expected = place ∧ position < place

/-- Streams that always get further when they are told to skip. -/
def NeverStuck (τ : Type) [Stream τ] : Prop :=
  forall (stream : τ) (host : Host) (n : Nat), 0 < n ->
    (Stream.skip stream host n).1 ≠ .ok 0

theorem skipRemaining_stuckBefore {start total remaining idle position expected : Nat}
    {stream : τ} {host : Host} (hremaining : remaining ≤ total)
    (h : (skipRemaining start total stream host remaining idle).1 =
      .error (.unexpectedEof position expected)) :
    StuckBefore (start + total) position expected ∧ 0 < total := by
  fun_induction skipRemaining start total stream host remaining idle with
  | case1 => cases h
  | case2 => cases h
  | case3 _ _ _ _ _ _ _ _ _ ih => exact ih hremaining h
  | case4 stream host remaining idle hne stream' host' _ _ =>
      cases h
      have hpos := Nat.pos_of_ne_zero hne
      have htotal := Nat.lt_of_lt_of_le hpos hremaining
      exact ⟨⟨rfl, Nat.add_lt_add_left (Nat.sub_lt htotal hpos) _⟩, htotal⟩
  | case5 _ _ _ _ _ _ _ _ _ ih => exact ih (Nat.le_trans (Nat.sub_le _ _) hremaining) h

theorem skipRemaining_of_neverStuck (hnever : NeverStuck τ)
    {start total remaining idle position expected : Nat} {stream : τ} {host : Host} :
    (skipRemaining start total stream host remaining idle).1 ≠
      .error (.unexpectedEof position expected) := by
  intro h
  fun_induction skipRemaining start total stream host remaining idle with
  | case1 => cases h
  | case2 => cases h
  | case3 _ _ _ _ _ _ _ _ _ ih => exact ih h
  | case4 stream host remaining idle hne stream' host' hskip _ =>
      refine hnever stream host remaining (Nat.pos_of_ne_zero hne) ?_
      rw [hskip]
  | case5 _ _ _ _ _ _ _ _ _ ih => exact ih h

/-- An early end is raised by the skipping and not by the read behind it. -/
theorem skipFully_of_readCheckedOut {start place length position expected : Nat}
    {stream stream' : τ} {host host' : Host}
    (h : readCheckedOut start place length stream host =
      (.error (.unexpectedEof position expected), stream', host')) :
    (skipFully start (place - start) stream host).1 =
      .error (.unexpectedEof position expected) := by
  unfold readCheckedOut at h
  split at h
  · rename_i error stream₁ host₁ hskip
    cases h
    rw [hskip]
  · split at h <;> cases h

/-- If the close fails too, the early end is not the failure that is reported. -/
theorem eq_of_closeFailed {error : Error} {stream : τ} {host : Host}
    {position expected : Nat}
    (h : (closeFailed error stream host).1 = .unexpectedEof position expected) :
    error = .unexpectedEof position expected := by
  unfold closeFailed at h
  split at h
  · exact h
  · cases error <;> cases h

variable [StreamFactory φ τ]

/-- An early end of a read comes from a skip to the place of the read. -/
theorem skipFully_of_readAt {pool : Pool φ τ} {host : Host} {place : Nat}
    {buffer : List UInt8} {position expected : Nat}
    (h : (pool.readAt host place buffer).outcome =
      .error (.unexpectedEof position expected)) :
    exists start stream host', (skipFully start (place - start) (stream : τ) host').1 =
      .error (.unexpectedEof position expected) := by
  have hcourse := readCourse pool host place buffer
  generalize pool.readAt host place buffer = reading at h hcourse
  cases hcourse with
  | refused hcheck =>
      cases hcheck with
      | refused htake hopen => cases h
  | failed hcheck hread =>
      cases eq_of_closeFailed (Except.error.inj h)
      exact ⟨_, _, _, skipFully_of_readCheckedOut hread⟩
  | ended => cases h
  | finished => cases h
  | parked => cases h

theorem raisesOnly_stuckBefore : RaisesOnly (Pool φ τ) StuckBefore := by
  apply RaisesOnly.of_singleByte (fun _ _ _ _ => rfl) (fun _ _ _ => rfl)
  intro pool host place buffer position expected h
  rcases skipFully_of_readAt h with ⟨start, stream, host', hskip⟩
  rcases skipRemaining_stuckBefore (Nat.le_refl _) hskip with ⟨hstuck, htotal⟩
  have hreached : start + (place - start) = place :=
    Nat.add_sub_cancel' (Nat.le_of_lt (Nat.lt_of_sub_pos htotal))
  rw [hreached] at hstuck
  exact hstuck

/-- Pools of streams that always get further leave it to the view. -/
theorem leavesEnds (hnever : NeverStuck τ) : LeavesEnds (Pool φ τ) := by
  apply RaisesOnly.of_singleByte (fun _ _ _ _ => rfl) (fun _ _ _ => rfl)
  intro pool host place buffer position expected h
  rcases skipFully_of_readAt h with ⟨start, stream, host', hskip⟩
  exact skipRemaining_of_neverStuck hnever hskip

end Pool

/-- Open files that are moved always get further, also past their end. -/
theorem FileCursor.neverStuck : Pool.NeverStuck (Jumping FileCursor) := by
  intro stream host n hn h
  have hstep : 0 < min n Jumping.longestJump := Nat.lt_min.mpr ⟨hn, by decide⟩
  simp only [Stream.skip, Jumping.jump, ByteCursor.tell, ByteCursor.seek, seek, moveTo] at h
  split at h
  · cases h
  · rename_i reached cursor' host' hseek
    split at hseek
    · cases hseek
      have hstay := Except.ok.inj h
      omega
    · cases hseek

end ByteWindow
