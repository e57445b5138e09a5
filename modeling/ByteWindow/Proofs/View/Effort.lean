import ByteWindow.Proofs.Stream.Recorded
import ByteWindow.Proofs.View.Confinement
import ByteWindow.Scripted.Sink
import ByteWindow.Scripted.Source
import ByteWindow.Source.Pool

/-!
# At most three calls for each byte

Full reads, transfers and skips go on until nothing remains.  A call may achieve nothing, but
three such calls in a row end the loop, and any other call takes at least one byte off what
remains.  So the bytes that remain and the idle calls in a row together bound the calls that are
still to come: three for each byte, less those that were already made for the next one.
-/

namespace ByteWindow

/-!
## Lists that grow
-/

/-- A list grew at its end, by so many entries at most. -/
def GrowsWithin {α : Type} (earlier later : List α) (times : Nat) : Prop :=
  exists added, later = earlier ++ added ∧ added.length ≤ times

namespace GrowsWithin

variable {α : Type} {earlier later last : List α} {times times' : Nat}

theorem refl (earlier : List α) : GrowsWithin earlier earlier 0 :=
  ⟨[], (List.append_nil _).symm, Nat.le_refl 0⟩

theorem single {entry : α} (h : later = earlier ++ [entry]) : GrowsWithin earlier later 1 :=
  ⟨[entry], h, Nat.le_refl 1⟩

theorem trans (h : GrowsWithin earlier later times) (h' : GrowsWithin later last times') :
    GrowsWithin earlier last (times + times') := by
  rcases h with ⟨added, hadded, hle⟩
  rcases h' with ⟨more, hmore, hle'⟩
  refine ⟨added ++ more, ?_, ?_⟩
  · rw [hmore, hadded, List.append_assoc]
  · rw [List.length_append]
    exact Nat.add_le_add hle hle'

theorem mono (h : GrowsWithin earlier later times) (hle : times ≤ times') :
    GrowsWithin earlier later times' := by
  rcases h with ⟨added, hadded, hless⟩
  exact ⟨added, hadded, Nat.le_trans hless hle⟩

/-- Nothing need be added. -/
theorem same (earlier : List α) (times : Nat) : GrowsWithin earlier earlier times :=
  (refl earlier).mono (Nat.zero_le times)

theorem length_le (h : GrowsWithin [] later times) : later.length ≤ times := by
  rcases h with ⟨added, hadded, hle⟩
  rw [hadded]
  exact hle

end GrowsWithin

/-!
## The calls that are still to come
-/

/-- How many calls a loop can still make if it has so many bytes left and the last `idle` calls
achieved nothing. -/
def callsLeft (remaining idle : Nat) : Nat :=
  3 * remaining - idle

section CallsLeft

variable {remaining idle : Nat}

theorem callsLeft_pos (hremaining : remaining ≠ 0) (hidle : idle < 3) :
    1 ≤ callsLeft remaining idle := by
  unfold callsLeft
  omega

/-- A call that achieves nothing is one of them. -/
theorem callsLeft_idle (hremaining : remaining ≠ 0) (hagain : idle + 1 < 3) :
    1 + callsLeft remaining (idle + 1) ≤ callsLeft remaining idle := by
  unfold callsLeft
  omega

/-- A call that achieves something pays for all idle calls before it. -/
theorem callsLeft_progress (hremaining : remaining ≠ 0) (hidle : idle < 3) (n : Nat) :
    1 + callsLeft (remaining - (n + 1)) 0 ≤ callsLeft remaining idle := by
  unfold callsLeft
  omega

end CallsLeft

/-!
## Skips
-/

namespace Pool

variable {τ : Type} [Stream τ]

theorem skips_skipRemaining (start total : Nat) (s : Recorded τ) (host : Host)
    (remaining idle : Nat) (hidle : idle < 3) :
    GrowsWithin s.skips (skipRemaining start total s host remaining idle).2.1.skips
      (callsLeft remaining idle) := by
  have hcall {s s' : Recorded τ} {host host' : Host} {n : Nat} {result : Except IoError Nat}
      (hskip : Stream.skip s host n = (result, s', host')) :
      GrowsWithin s.skips s'.skips 1 := .single (Recorded.skips_of_skip hskip)
  fun_induction skipRemaining start total s host remaining idle with
  | case1 s => exact .same _ _
  | case2 s host remaining idle hremaining cause s' host' hskip =>
      exact (hcall hskip).mono (callsLeft_pos hremaining hidle)
  | case3 s host remaining idle hremaining s' host' hskip hagain ih =>
      exact ((hcall hskip).trans (ih hagain)).mono (callsLeft_idle hremaining hagain)
  | case4 s host remaining idle hremaining s' host' hskip =>
      exact (hcall hskip).mono (callsLeft_pos hremaining hidle)
  | case5 s host remaining idle hremaining skipped s' host' hskip ih =>
      have hrest := ih (by decide)
      exact ((hcall hskip).trans hrest).mono (callsLeft_progress hremaining hidle skipped)

end Pool

/-!
## Full reads and transfers
-/

namespace View

section Reads

variable {σ : Type} [Source σ]

theorem calls_readVia (mode : Mode) (s : Logged σ) (host : Host) (position : Nat)
    (buffer : List UInt8) :
    GrowsWithin s.calls (Source.readVia mode s host position buffer).source.calls 1 :=
  .single (Logged.calls_readVia mode s host position buffer)

/-- A plain read asks the source once at most. -/
theorem calls_read (mode : Mode) (view : View) (s : Logged σ) (host : Host)
    (buffer : List UInt8) (position offset max : Nat) :
    GrowsWithin s.calls
      (view.read mode s host buffer position offset max).source.calls 1 := by
  have hcourse := askCourse mode view s host buffer position offset max
  generalize view.read mode s host buffer position offset max = reading at hcourse
  cases hcourse with
  | unasked => exact .same _ _
  | asked => exact calls_readVia mode s host _ _

theorem calls_fillRemaining (mode : Mode) (view : View) (s : Logged σ) (host : Host)
    (done rest : List UInt8) (position remaining idle : Nat) (hidle : idle < 3) :
    GrowsWithin s.calls
      (view.fillRemaining mode s host done rest position remaining idle).source.calls
      (callsLeft remaining idle) := by
  have hcall (s : Logged σ) (host : Host) (rest : List UInt8) (position : Nat) :=
    calls_readVia mode s host (view.offset + position) rest
  fun_induction View.fillRemaining mode view s host done rest position remaining idle with
  | case1 s => exact .same _ _
  | case2 s host done rest position remaining idle hremaining =>
      exact (hcall s host rest position).mono (callsLeft_pos hremaining hidle)
  | case3 s host done rest position remaining idle hremaining =>
      exact (hcall s host rest position).mono (callsLeft_pos hremaining hidle)
  | case4 s host done rest position remaining idle hremaining reading _ hagain ih =>
      have hrest := ih hagain
      exact ((hcall s host rest position).trans hrest).mono
        (callsLeft_idle hremaining hagain)
  | case5 s host done rest position remaining idle hremaining =>
      exact (hcall s host rest position).mono (callsLeft_pos hremaining hidle)
  | case6 s host done rest position remaining idle hremaining reading n _ ih =>
      have hrest := ih (by decide)
      exact ((hcall s host rest position).trans hrest).mono
        (callsLeft_progress hremaining hidle n)

theorem calls_fill (mode : Mode) (view : View) (s : Logged σ) (host : Host) (position : Nat)
    (buffer : List UInt8) :
    GrowsWithin s.calls (view.fill mode s host position buffer).source.calls
      (3 * buffer.length) :=
  calls_fillRemaining mode view s host [] buffer position buffer.length 0 (by decide)

theorem calls_readFully (mode : Mode) (view : View) (s : Logged σ) (host : Host)
    (buffer : List UInt8) (position offset max : Nat) :
    GrowsWithin s.calls (view.readFully mode s host buffer position offset max).source.calls
      (3 * min (min max (buffer.length - offset)) (view.size - position)) := by
  unfold readFully
  split
  · exact .same _ _
  · split
    · exact .same _ _
    · exact .same _ _
    · exact .same _ _
    · rename_i length hzero hrequest
      have hlength : length ≠ 0 := fun h => hzero (by rw [h])
      rcases requestLength_some hrequest hlength with ⟨hmax, hbuffer, hwindow⟩
      have hfill := calls_fill mode view s host position ((buffer.drop offset).take length)
      rw [length_piece hbuffer] at hfill
      apply hfill.mono
      apply Nat.mul_le_mul_left
      exact Nat.le_min.mpr ⟨Nat.le_min.mpr ⟨hmax, Nat.le_sub_of_add_le' hbuffer⟩,
        Nat.le_sub_of_add_le' hwindow⟩

theorem calls_readFrom (mode : Mode) (view : View) (s : Logged σ) (host : Host)
    (position max : Nat) :
    GrowsWithin s.calls (view.readFrom mode s host position max).2.1.calls
      (3 * min max (view.size - position)) := by
  unfold readFrom
  split
  · exact .same _ _
  · split
    · exact .same _ _
    · rename_i length havailable
      rcases availableLength_ok havailable with ⟨hmax, hwindow⟩
      have hfill := calls_fill mode view s host position (List.replicate length 0)
      rw [List.length_replicate] at hfill
      apply hfill.mono
      apply Nat.mul_le_mul_left
      exact Nat.le_min.mpr ⟨hmax, Nat.le_sub_of_add_le' hwindow⟩

end Reads

variable {κ σ : Type} [Sink κ] [Source σ]

theorem calls_transferRemaining (mode : Mode) (patience : Nat) (view : View) (sink : κ)
    (s : Logged σ) (host : Host) (buffer : List UInt8) (position idle : Nat) (hidle : idle < 3) :
    GrowsWithin s.calls
      (view.transferRemaining mode patience sink s host buffer position idle).source.calls
      (callsLeft (view.size - position) idle) := by
  have hcall (s : Logged σ) (host : Host) (buffer : List UInt8) (position : Nat) :=
    calls_read mode view s host buffer position 0 buffer.length
  have hleft {position : Nat} (hmore : position < view.size) : view.size - position ≠ 0 :=
    Nat.sub_ne_zero_of_lt hmore
  fun_induction View.transferRemaining mode patience view sink s host buffer position idle with
  | case1 sink s host buffer position idle hmore =>
      exact (hcall s host buffer position).mono (callsLeft_pos (hleft hmore) hidle)
  | case2 sink s host buffer position idle hmore =>
      exact (hcall s host buffer position).mono (callsLeft_pos (hleft hmore) hidle)
  | case3 sink s host buffer position idle hmore reading _ hagain ih =>
      have hrest := ih hagain
      exact ((hcall s host buffer position).trans hrest).mono
        (callsLeft_idle (hleft hmore) hagain)
  | case4 sink s host buffer position idle hmore =>
      exact (hcall s host buffer position).mono (callsLeft_pos (hleft hmore) hidle)
  | case5 sink s host buffer position idle hmore =>
      exact (hcall s host buffer position).mono (callsLeft_pos (hleft hmore) hidle)
  | case6 sink s host buffer position idle hmore reading n _ sink' _ ih =>
      have hrest := ih (by decide)
      rw [Nat.sub_add_eq] at hrest
      exact ((hcall s host buffer position).trans hrest).mono
        (callsLeft_progress (hleft hmore) hidle n)
  | case7 sink s => exact .same _ _
  | case8 sink s => exact .same _ _

theorem calls_transfer (mode : Mode) (view : View) (sink : κ) (s : Logged σ) (host : Host)
    (bufferSize : Nat) :
    GrowsWithin s.calls (view.transfer mode sink s host bufferSize).source.calls
      (3 * view.size) := by
  unfold transfer
  split
  · exact .same _ _
  · exact calls_transferRemaining mode _ view sink s host _ 0 0 (by decide)

/-- Whatever a source answers, a full read calls it at most three times for each byte that fits
the request, the buffer and the window, and a transfer at most three times for each byte of the
view, in both modes.  Whatever a stream answers, it is told at most three times for each byte to
skip. -/
theorem threeCallsPerByte {τ : Type} [Stream τ] (host : Host) :
    (forall (mode : Mode) (view : View) (source : σ),
      (forall buffer position offset max,
        (view.readFully mode ({ source } : Logged σ) host buffer position offset
          max).source.calls.length ≤
          3 * min (min max (buffer.length - offset)) (view.size - position)) ∧
      (forall position max,
        (view.readFrom mode ({ source } : Logged σ) host position max).2.1.calls.length ≤
          3 * min max (view.size - position)) ∧
      forall (sink : κ) bufferSize,
        (view.transfer mode sink ({ source } : Logged σ) host bufferSize).source.calls.length ≤
          3 * view.size) ∧
    forall (stream : τ) start n,
      (Pool.skipFully start n ({ stream } : Recorded τ) host).2.1.skips.length ≤ 3 * n := by
  constructor
  · intro mode view source
    refine ⟨?_, ?_, ?_⟩
    · intro buffer position offset max
      exact (calls_readFully mode view _ host buffer position offset max).length_le
    · intro position max
      exact (calls_readFrom mode view _ host position max).length_le
    · intro sink bufferSize
      exact (calls_transfer mode view sink _ host bufferSize).length_le
  · intro stream start n
    exact (Pool.skips_skipRemaining start n _ host n 0 (by decide)).length_le

open Scripted

/-- A source that delivers nothing twice before every byte takes all the calls. -/
example :
    let source : ScriptedSource :=
      { data := #[1, 2], size := 2
        replies := [.empty, .empty, .atMost 1, .empty, .empty, .normal] }
    let view : View := { offset := 0, size := 2 }
    let read := view.readAll .blocking ({ source } : Logged ScriptedSource) {}
    read.1 = .ok [1, 2] ∧ read.2.1.calls.length = 6 := by
  constructor <;> cbv

end View
end ByteWindow
