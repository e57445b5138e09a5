import ByteWindow.Proofs.Idling
import ByteWindow.Proofs.View.Moments

/-!
# The calls of a transfer are in order

Sources deliver short pieces, or none, or fail; sinks take a part of what they are offered, or
fail as well.  Whatever they do, the bytes that the sink has taken are always the first ones of
those that the source has delivered, and they are all of them whenever the source is asked again.
The sink is flushed when it has the whole window, and at no other time.  The calls of a transfer
also tell how it ends.

An offer that is made again is no failure of a transfer.  A transfer that blocks repeats an
interrupted offer; one that waits for its sink repeats none, so every failed offer ends it.
-/

namespace ByteWindow
namespace TransferCall

/-- A call after which a transfer goes on: a piece arrived, some bytes were taken, or an offer
failed that is made again. -/
def GoesOn (mode : Mode) : TransferCall -> Prop
  | read answer => exists bytes, answer = .piece bytes
  | write _ (.ok n) => n ≠ 0
  | write _ (.error cause) => Sink.repeats mode cause = true
  | flush _ => False

theorem goesOn_piece (mode : Mode) (bytes : List UInt8) : (read (.piece bytes)).GoesOn mode :=
  ⟨bytes, rfl⟩

end TransferCall

open TransferCall

/-- Calls after which a transfer goes on, and never so many empty reads in a row that the source
is given up. -/
structure Underway (mode : Mode) (calls : List TransferCall) : Prop where
  goesOn : forall call, call ∈ calls -> call.GoesOn mode
  lively : ¬ List.replicate View.maxIdleReads emptyRead <:+: calls

/-- The source ended early: it said so, or it delivered nothing too often in a row. -/
def EndedEarly (calls : List TransferCall) : Prop :=
  .read .ended ∈ calls ∨ List.replicate View.maxIdleReads emptyRead <:+: calls

namespace Underway

variable {mode : Mode} {calls : List TransferCall}

theorem nil : Underway mode [] where
  goesOn := by
    intro call hcall
    cases hcall
  lively := by
    intro hidle
    cases List.infix_nil.mp hidle

theorem concat (underway : Underway mode calls) {call : TransferCall}
    (hcall : call.GoesOn mode) {idle : Nat}
    (idles : EndsIdle emptyRead idle (calls ++ [call])) (hpatient : idle < View.maxIdleReads) :
    Underway mode (calls ++ [call]) where
  goesOn := by
    intro other hother
    rcases List.mem_append.mp hother with hearlier | hlast
    · exact underway.goesOn other hearlier
    · rw [List.mem_singleton.mp hlast]
      exact hcall
  lively := idles.not_infix_concat underway.lively hpatient

theorem not_flush (underway : Underway mode calls) (result : Except IoError Unit) :
    .flush result ∉ calls :=
  underway.goesOn (.flush result)

theorem not_endedEarly (underway : Underway mode calls) : ¬ EndedEarly calls := by
  rintro (hended | hidle)
  · rcases underway.goesOn _ hended with ⟨bytes, hpiece⟩
    cases hpiece
  · exact underway.lively hidle

end Underway

/-!
## The law of the calls
-/

/-- At every moment the sink has a prefix of what the source delivered, and all of it before the
source is asked again.  The flush is the last call, after the last byte, and before it nothing
failed. -/
structure PrefixLaw (mode : Mode) (view : View) (calls : List TransferCall) : Prop where
  accepted_isPrefix : forall earlier, earlier <+: calls ->
    acceptedBy earlier <+: deliveredBy earlier
  completed_before_read : forall earlier answer, earlier ++ [.read answer] <+: calls ->
    acceptedBy earlier = deliveredBy earlier
  flush_last : forall earlier result, earlier ++ [.flush result] <+: calls ->
    calls = earlier ++ [.flush result] ∧ Underway mode earlier ∧
      (acceptedBy earlier).length = view.size

namespace PrefixLaw

variable {mode : Mode} {view : View} {calls : List TransferCall}

theorem nil : PrefixLaw mode view [] where
  accepted_isPrefix := by
    intro earlier hearlier
    rw [List.prefix_nil.mp hearlier]
    exact List.nil_prefix
  completed_before_read := by
    intro earlier answer hearlier
    cases List.append_ne_nil_of_right_ne_nil _ (List.cons_ne_nil _ _)
      (List.prefix_nil.mp hearlier)
  flush_last := by
    intro earlier result hearlier
    cases List.append_ne_nil_of_right_ne_nil _ (List.cons_ne_nil _ _)
      (List.prefix_nil.mp hearlier)

/-- One more call keeps the law. -/
theorem concat (law : PrefixLaw mode view calls) (underway : Underway mode calls)
    {call : TransferCall} (hfirst : acceptedBy (calls ++ [call]) <+: deliveredBy (calls ++ [call]))
    (hread : forall answer, call = .read answer -> acceptedBy calls = deliveredBy calls)
    (hflush : forall result, call = .flush result -> (acceptedBy calls).length = view.size) :
    PrefixLaw mode view (calls ++ [call]) where
  accepted_isPrefix := by
    intro earlier hearlier
    rcases List.prefix_concat_iff.mp hearlier with rfl | hbefore
    · exact hfirst
    · exact law.accepted_isPrefix earlier hbefore
  completed_before_read := by
    intro earlier answer hearlier
    rcases List.prefix_concat_iff.mp hearlier with hall | hbefore
    · rcases List.append_inj' hall rfl with ⟨rfl, hcall⟩
      exact hread answer (List.singleton_inj.mp hcall).symm
    · exact law.completed_before_read earlier answer hbefore
  flush_last := by
    intro earlier result hearlier
    rcases List.prefix_concat_iff.mp hearlier with hall | hbefore
    · rcases List.append_inj' hall rfl with ⟨rfl, hcall⟩
      exact ⟨hall.symm, underway, hflush result (List.singleton_inj.mp hcall).symm⟩
    · have hmem : .flush result ∈ calls :=
        hbefore.subset (List.mem_append_right _ (List.mem_singleton_self _))
      exact (underway.not_flush result hmem).elim

theorem read (law : PrefixLaw mode view calls) (underway : Underway mode calls)
    (hsettled : acceptedBy calls = deliveredBy calls) (answer : Delivery) :
    PrefixLaw mode view (calls ++ [.read answer]) := by
  apply law.concat underway
  · rw [acceptedBy_concat, deliveredBy_concat, accepted_read, List.append_nil, hsettled]
    exact List.prefix_append _ _
  · intro _ _
    exact hsettled
  · intro result hcall
    cases hcall

theorem write (law : PrefixLaw mode view calls) (underway : Underway mode calls) {rest : List UInt8}
    (hrest : deliveredBy calls = acceptedBy calls ++ rest) (result : Except IoError Nat) :
    PrefixLaw mode view (calls ++ [.write rest result]) := by
  apply law.concat underway
  · rw [acceptedBy_concat, deliveredBy_concat, delivered_write, List.append_nil, hrest]
    exact (List.prefix_append_right_inj _).mpr (accepted_isPrefix_offered rest result)
  · intro answer hcall
    cases hcall
  · intro result hcall
    cases hcall

theorem flush (law : PrefixLaw mode view calls) (underway : Underway mode calls)
    (hsettled : acceptedBy calls = deliveredBy calls)
    (hlength : (acceptedBy calls).length = view.size) (result : Except IoError Unit) :
    PrefixLaw mode view (calls ++ [.flush result]) := by
  apply law.concat underway
  · rw [acceptedBy_concat, deliveredBy_concat, accepted_flush, List.append_nil, hsettled]
    exact List.prefix_append _ _
  · intro answer hcall
    cases hcall
  · intro _ _
    exact hlength

/-- The only failures before a flush are writes that were made again. -/
theorem repeated_of_flush (law : PrefixLaw mode view calls) {earlier : List TransferCall}
    {result : Except IoError Unit} (hflush : earlier ++ [.flush result] <+: calls)
    {rest : List UInt8} {cause : IoError} (hwrite : .write rest (.error cause) ∈ earlier) :
    mode = .blocking ∧ cause.isInterrupted = true := by
  have underway := (law.flush_last earlier result hflush).2.1
  exact Sink.repeats_iff.mp (underway.goesOn _ hwrite)

end PrefixLaw

/-- How the calls of a transfer end it, and how it ends when patience runs out before a write that
was interrupted is made again. -/
inductive TransferEnd (mode : Mode) (patience : Nat) (view : View) :
    List TransferCall -> Except Error Nat -> Prop where
  | empty : view.size = 0 -> TransferEnd mode patience view [] (.ok 0)
  | readFailed {earlier : List TransferCall} {error : Error} :
      Underway mode earlier -> acceptedBy earlier = deliveredBy earlier ->
      TransferEnd mode patience view (earlier ++ [.read (.failed error)]) (.error error)
  | ended {earlier : List TransferCall} :
      Underway mode earlier -> acceptedBy earlier = deliveredBy earlier ->
      TransferEnd mode patience view (earlier ++ [.read .ended])
        (.error (view.unexpectedEof (acceptedBy earlier).length))
  | idle {earlier : List TransferCall} :
      Underway mode earlier -> acceptedBy earlier = deliveredBy earlier ->
      List.replicate View.maxIdleReads emptyRead <:+ earlier ++ [emptyRead] ->
      TransferEnd mode patience view (earlier ++ [emptyRead])
        (.error (view.unexpectedEof (acceptedBy earlier).length))
  | tookNothing {earlier : List TransferCall} {rest : List UInt8} :
      Underway mode earlier -> deliveredBy earlier = acceptedBy earlier ++ rest ->
      TransferEnd mode patience view (earlier ++ [.write rest (.ok 0)])
        (.error (.io (Sink.nothingTaken mode)))
  | writeFailed {earlier : List TransferCall} {rest : List UInt8} {cause : IoError} :
      Underway mode earlier -> deliveredBy earlier = acceptedBy earlier ++ rest ->
      Sink.repeats mode cause = false ->
      TransferEnd mode patience view (earlier ++ [.write rest (.error cause)]) (.error (.io cause))
  | givenUp {calls : List TransferCall} {rest : List UInt8} {position : Nat} {cause : IoError} :
      Underway mode calls -> deliveredBy calls = acceptedBy calls ++ rest ->
      TransferMoment.GivenUp mode patience cause (.write rest position) calls ->
      TransferEnd mode patience view calls (.error (.io cause))
  | flushFailed {earlier : List TransferCall} {cause : IoError} :
      Underway mode earlier -> acceptedBy earlier = deliveredBy earlier ->
      (acceptedBy earlier).length = view.size ->
      TransferEnd mode patience view (earlier ++ [.flush (.error cause)]) (.error (.io cause))
  | complete {earlier : List TransferCall} :
      Underway mode earlier -> acceptedBy earlier = deliveredBy earlier ->
      (acceptedBy earlier).length = view.size ->
      TransferEnd mode patience view (earlier ++ [.flush (.ok ())]) (.ok view.size)

namespace TransferEnd

variable {mode : Mode} {patience : Nat} {view : View} {calls : List TransferCall}
  {outcome : Except Error Nat}

/-- Success means that the sink has the whole window. -/
theorem accepted_of_ok (ends : TransferEnd mode patience view calls outcome) {n : Nat}
    (hok : outcome = .ok n) :
    n = view.size ∧ (acceptedBy calls).length = view.size ∧
      acceptedBy calls = deliveredBy calls := by
  cases ends with
  | empty hempty =>
      cases hok
      exact ⟨hempty.symm, hempty.symm, rfl⟩
  | complete _ hsettled hlength =>
      cases hok
      rw [acceptedBy_concat, deliveredBy_concat, accepted_flush, delivered, List.append_nil,
        List.append_nil]
      exact ⟨rfl, hlength, hsettled⟩
  | readFailed => cases hok
  | ended => cases hok
  | idle => cases hok
  | tookNothing => cases hok
  | writeFailed => cases hok
  | givenUp => cases hok
  | flushFailed => cases hok

/-- Only the last of the calls can tell that the source ended early. -/
theorem endedEarly_concat {earlier : List TransferCall} {call : TransferCall}
    (underway : Underway mode earlier) (hearly : EndedEarly (earlier ++ [call])) :
    call = .read .ended ∨ call = emptyRead := by
  rcases hearly with hended | hidle
  · rcases List.mem_append.mp hended with hbefore | hlast
    · exact absurd (.inl hbefore) underway.not_endedEarly
    · exact .inl (List.mem_singleton.mp hlast).symm
  · rcases List.infix_concat_iff.mp hidle with hlast | hbefore
    · exact .inr (replicate_suffix_concat_iff.mp hlast).1
    · exact absurd (.inr hbefore) underway.not_endedEarly

/-- A source that ends early is reported with the number of bytes that the sink has. -/
theorem error_of_endedEarly (ends : TransferEnd mode patience view calls outcome)
    (hearly : EndedEarly calls) :
    outcome = .error (view.unexpectedEof (acceptedBy calls).length) := by
  cases ends with
  | empty =>
      have underway : Underway mode [] := .nil
      exact absurd hearly underway.not_endedEarly
  | ended => rw [acceptedBy_concat, accepted_read, List.append_nil]
  | idle => rw [acceptedBy_concat, emptyRead, accepted_read, List.append_nil]
  | readFailed underway => rcases endedEarly_concat underway hearly with h | h <;> cases h
  | tookNothing underway => rcases endedEarly_concat underway hearly with h | h <;> cases h
  | givenUp underway => exact absurd hearly underway.not_endedEarly
  | writeFailed underway => rcases endedEarly_concat underway hearly with h | h <;> cases h
  | flushFailed underway => rcases endedEarly_concat underway hearly with h | h <;> cases h
  | complete underway => rcases endedEarly_concat underway hearly with h | h <;> cases h

end TransferEnd

/-!
## The order of the calls
-/

/-- What is to be done next agrees with the calls that were made. -/
inductive Orderly (mode : Mode) (patience : Nat) (view : View) :
    TransferTask -> List TransferCall -> Prop where
  | reading {calls : List TransferCall} {position idle : Nat} :
      Underway mode calls -> acceptedBy calls = deliveredBy calls ->
      position = (deliveredBy calls).length -> position < view.size ->
      EndsIdle emptyRead idle calls -> idle < View.maxIdleReads ->
      Orderly mode patience view (.read position idle) calls
  | writing {calls : List TransferCall} {rest : List UInt8} {position : Nat} :
      Underway mode calls -> deliveredBy calls = acceptedBy calls ++ rest ->
      position = (deliveredBy calls).length -> position ≤ view.size ->
      Orderly mode patience view (.write rest position) calls
  | flushing {calls : List TransferCall} {position : Nat} :
      Underway mode calls -> acceptedBy calls = deliveredBy calls ->
      position = (deliveredBy calls).length -> position = view.size ->
      Orderly mode patience view (.flush position) calls
  | stopped {calls : List TransferCall} {outcome : Except Error Nat} :
      TransferEnd mode patience view calls outcome ->
      Orderly mode patience view (.stop outcome) calls

namespace Orderly

variable {mode : Mode} {view : View} {calls : List TransferCall} {patience position idle : Nat}

theorem onward (underway : Underway mode calls) (hsettled : acceptedBy calls = deliveredBy calls)
    (hposition : position = (deliveredBy calls).length) (hle : position ≤ view.size)
    (idles : EndsIdle emptyRead 0 calls) :
    Orderly mode patience view (.onward view position 0) calls := by
  unfold TransferTask.onward
  by_cases hmore : position < view.size
  · rw [if_pos hmore]
    exact .reading underway hsettled hposition hmore idles (Nat.succ_pos _)
  · rw [if_neg hmore]
    exact .flushing underway hsettled hposition (Nat.le_antisymm hle (Nat.le_of_not_lt hmore))

theorem offer (underway : Underway mode calls) {rest : List UInt8}
    (hrest : deliveredBy calls = acceptedBy calls ++ rest)
    (hposition : position = (deliveredBy calls).length) (hle : position ≤ view.size)
    (idles : EndsIdle emptyRead 0 calls) :
    Orderly mode patience view (.offer view rest position) calls := by
  cases rest with
  | nil =>
      rw [List.append_nil] at hrest
      exact onward underway hrest.symm hposition hle idles
  | cons byte rest => exact .writing underway hrest hposition hle

/-- Every answer of the source is followed by what it asks for. -/
theorem afterRead {σ : Type} {reading : Reading (Option Nat) σ} {later : List UInt8}
    (underway : Underway mode calls) (hsettled : acceptedBy calls = deliveredBy calls)
    (hposition : position = (deliveredBy calls).length)
    (idles : EndsIdle emptyRead idle calls) (hmore : position < view.size)
    (hcount : forall n, reading.outcome = .ok (some n) ->
      n ≤ reading.buffer.length ∧ position + n ≤ view.size) :
    Orderly mode patience view
      (.afterRead view (reading.buffer ++ later) position idle reading.outcome)
      (calls ++ [.read (.ofReading reading)]) := by
  rcases reading with ⟨outcome, buffer, s, host⟩
  have hdone : position = (acceptedBy calls).length := by rw [hposition, hsettled]
  cases outcome with
  | error error => exact .stopped (.readFailed underway hsettled)
  | ok count =>
      cases count with
      | none =>
          dsimp only [TransferTask.afterRead]
          rw [hdone]
          exact .stopped (.ended underway hsettled)
      | some n =>
          cases n with
          | zero =>
              dsimp only [TransferTask.afterRead]
              change Orderly mode patience view _ (calls ++ [emptyRead])
              have idles' := idles.once_more
              by_cases hagain : idle + 1 < View.maxIdleReads
              · rw [if_pos hagain]
                have underway' := underway.concat (goesOn_piece mode []) idles' hagain
                refine .reading underway' ?_ ?_ hmore idles' hagain
                · rw [acceptedBy_concat, deliveredBy_concat, hsettled]
                  rfl
                · rw [deliveredBy_concat, hposition]
                  exact congrArg List.length (List.append_nil _).symm
              · rw [if_neg hagain, hdone]
                exact .stopped (.idle underway hsettled
                  ((idles' _).mpr (Nat.le_of_not_lt hagain)))
          | succ n =>
              rcases hcount (n + 1) rfl with ⟨hbuffer, hwindow⟩
              dsimp only at hbuffer
              dsimp only [TransferTask.afterRead]
              change Orderly mode patience view _ (calls ++ [.read (.piece (buffer.take (n + 1)))])
              have hlength : (buffer.take (n + 1)).length = n + 1 :=
                List.length_take_of_le hbuffer
              have hpiece : TransferCall.read (.piece (buffer.take (n + 1))) ≠ emptyRead := by
                intro hempty
                rw [Delivery.piece.inj (TransferCall.read.inj hempty)] at hlength
                cases hlength
              rw [List.take_append_of_le_length hbuffer]
              have idles' := EndsIdle.interrupted calls hpiece
              have underway' := underway.concat (goesOn_piece mode _) idles' (Nat.succ_pos _)
              apply offer underway' ?_ ?_ hwindow idles'
              · rw [deliveredBy_concat, acceptedBy_concat, hsettled, accepted_read,
                  List.append_nil]
                rfl
              · rw [deliveredBy_concat, List.length_append, ← hposition]
                exact congrArg (position + ·) hlength.symm

/-- Every answer of the sink is followed by what it asks for. -/
theorem afterWrite (underway : Underway mode calls) {rest : List UInt8}
    (hrest : deliveredBy calls = acceptedBy calls ++ rest)
    (hposition : position = (deliveredBy calls).length) (hle : position ≤ view.size)
    (result : Except IoError Nat) :
    Orderly mode patience view (.afterWrite mode view rest position result)
      (calls ++ [.write rest result]) := by
  have hcall : TransferCall.write rest result ≠ emptyRead := by
    intro hempty
    cases hempty
  have idles := EndsIdle.interrupted calls hcall
  have hposition' : position = (deliveredBy (calls ++ [.write rest result])).length := by
    rw [deliveredBy_concat, delivered_write, List.append_nil]
    exact hposition
  cases result with
  | error cause =>
      rw [TransferTask.afterWrite, TransferTask.afterFailedWrite]
      cases hrepeats : Sink.repeats mode cause with
      | true =>
          rw [if_pos rfl]
          refine .writing (underway.concat hrepeats idles (Nat.succ_pos _)) ?_ hposition' hle
          rw [deliveredBy_concat, acceptedBy_concat, accepted_failed, delivered_write,
            List.append_nil, List.append_nil]
          exact hrest
      | false =>
          rw [if_neg Bool.false_ne_true]
          exact .stopped (.writeFailed underway hrest hrepeats)
  | ok n =>
      cases n with
      | zero => exact .stopped (.tookNothing underway hrest)
      | succ n =>
          have hgoesOn : (TransferCall.write rest (.ok (n + 1))).GoesOn mode := Nat.succ_ne_zero n
          apply offer (underway.concat hgoesOn idles (Nat.succ_pos _)) ?_ hposition' hle idles
          rw [deliveredBy_concat, acceptedBy_concat, delivered_write, List.append_nil,
            List.append_assoc, hrest]
          exact congrArg (acceptedBy calls ++ ·) (List.take_append_drop (n + 1) rest).symm

theorem afterFlush (underway : Underway mode calls)
    (hsettled : acceptedBy calls = deliveredBy calls)
    (hposition : position = (deliveredBy calls).length) (hend : position = view.size)
    (result : Except IoError Unit) :
    Orderly mode patience view (.afterFlush position result) (calls ++ [.flush result]) := by
  have hlength : (acceptedBy calls).length = view.size := by
    rw [hsettled, ← hposition, hend]
  cases result with
  | error cause => exact .stopped (.flushFailed underway hsettled hlength)
  | ok done =>
      rw [hend]
      exact .stopped (.complete underway hsettled hlength)

/-- What a transfer leaves to be done tells how it ended. -/
theorem ends_of_leaves {task : TransferTask} {outcome : Except Error Nat}
    (orderly : Orderly mode patience view task calls)
    (leaves : TransferMoment.Leaves mode patience outcome task calls) :
    TransferEnd mode patience view calls outcome := by
  cases leaves with
  | stopped =>
      cases orderly with
      | stopped ends => exact ends
  | givenUp hgiven =>
      cases orderly with
      | writing underway hrest => exact .givenUp underway hrest hgiven
      | reading => cases hgiven
      | flushing => cases hgiven
      | stopped => cases hgiven

end Orderly

namespace TransferMoment

variable {κ σ : Type} [Sink κ] [Source σ] {mode : Mode} {patience : Nat} {view : View}

/-- A moment whose calls keep the law of transfers. -/
structure InOrder (mode : Mode) (patience : Nat) (view : View) (moment : TransferMoment κ σ) :
    Prop where
  orderly : Orderly mode patience view moment.task moment.calls
  law : PrefixLaw mode view moment.calls
  room : view.size ≠ 0 -> moment.buffer ≠ []

/-- Every call keeps the order. -/
theorem InOrder.next (hfits : FitsBuffers σ) {moment : TransferMoment κ σ}
    (inOrder : InOrder mode patience view moment) :
    InOrder mode patience view (moment.next mode view) := by
  rcases inOrder with ⟨orderly, law, room⟩
  rcases moment with ⟨task, sink, s, host, buffer, calls⟩
  dsimp only at orderly law room
  cases orderly with
  | @reading _ position idle underway hsettled hposition hmore idles hpatient =>
      have hlength := hfits.length mode s host (view.offset + position)
        (buffer.take (view.size - position))
      refine ⟨?_, law.read underway hsettled _, ?_⟩
      · apply Orderly.afterRead underway hsettled hposition idles hmore
        intro n hn
        have hcount := hfits.count hn
        refine ⟨hlength ▸ hcount, ?_⟩
        have hle := Nat.le_trans hcount (List.length_take_le _ _)
        omega
      · intro hsize
        apply List.ne_nil_of_length_pos
        dsimp only [TransferMoment.next, ask]
        rw [List.length_append, hlength, ← List.length_append, List.take_append_drop]
        exact List.length_pos_iff.mpr (room hsize)
  | writing underway hrest hposition hle =>
      exact ⟨.afterWrite underway hrest hposition hle _, law.write underway hrest _, room⟩
  | flushing underway hsettled hposition hend =>
      refine ⟨.afterFlush underway hsettled hposition hend _, ?_, room⟩
      apply law.flush underway hsettled
      rw [hsettled, ← hposition, hend]
  | stopped ends => exact ⟨.stopped ends, law, room⟩

end TransferMoment
end ByteWindow
