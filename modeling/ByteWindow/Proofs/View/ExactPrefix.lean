import ByteWindow.Proofs.View.FullRead
import ByteWindow.Proofs.View.Orderly
import ByteWindow.Scripted.Sink

/-!
# Transfers deliver an exact prefix

A transfer loses no byte, repeats none, and takes none from a place in its buffer that a short
read left alone.  It succeeds only when the sink has the whole window.  If the source ends early,
then the transfer fails with the number of bytes that the sink has.

Over a source that delivers no wrong byte, the sink has a prefix of the window at every moment,
and on success it has what a read of the whole view gives.
-/

namespace ByteWindow

open TransferCall

variable {κ σ : Type} [Sink κ] [Source σ]

/-- Sinks that keep the bytes that they took, and no others. -/
structure Keeps (contents : κ -> List UInt8) : Prop where
  write (sink : κ) (offered : List UInt8) :
    contents (Sink.write sink offered).2 =
      contents sink ++ (TransferCall.write offered (Sink.write sink offered).1).accepted
  flush (sink : κ) : contents (Sink.flush sink).2 = contents sink

/-- Sources that deliver no wrong byte, whatever else they do. -/
structure RightSources (data : Array UInt8) (fit : σ -> Host -> Prop) : Prop where
  read {s : σ} {host : Host} (position : Nat) {buffer : List UInt8} (mode : Mode) :
    fit s host -> buffer ≠ [] -> position + buffer.length ≤ data.size ->
    let reading := Source.readVia mode s host position buffer
    fit reading.source reading.host ∧
      forall n, reading.outcome = .ok (some n) -> reading.buffer.take n = slice data position n

variable {data : Array UInt8} {fit : σ -> Host -> Prop} {mode : Mode} {patience : Nat}
  {view : View}

/-!
## Right sources
-/

namespace RightSources

/-- The bytes of an answer are those from where the source was asked. -/
theorem bytes_ofReading (right : RightSources data fit) (hfits : FitsBuffers σ) {s : σ}
    {host : Host} {position : Nat} {buffer : List UInt8} (hfit : fit s host)
    (hbuffer : buffer ≠ []) (hinside : position + buffer.length ≤ data.size) (mode : Mode) :
    let answer := Delivery.ofReading (Source.readVia mode s host position buffer)
    answer.bytes.length ≤ buffer.length ∧
      answer.bytes = slice data position answer.bytes.length := by
  have hright := (right.read position mode hfit hbuffer hinside).2
  have hcount (n : Nat) :
      (Source.readVia mode s host position buffer).outcome = .ok (some n) ->
        n ≤ buffer.length := hfits.count
  have hlength := hfits.length mode s host position buffer
  dsimp only at hright ⊢
  generalize Source.readVia mode s host position buffer = reading at hright hcount hlength
  rcases reading with ⟨outcome, buffer', s', host'⟩
  dsimp only at hright hcount hlength
  cases outcome with
  | error error => exact ⟨Nat.zero_le _, (slice_zero position).symm⟩
  | ok count =>
      cases count with
      | none => exact ⟨Nat.zero_le _, (slice_zero position).symm⟩
      | some n =>
          have hn : (buffer'.take n).length = n :=
            List.length_take_of_le (hlength ▸ hcount n rfl)
          dsimp only [Delivery.ofReading, Delivery.bytes]
          rw [hn]
          exact ⟨hcount n rfl, hright n rfl⟩

omit [Sink κ] in
/-- There is nothing to be delivered to an empty buffer. -/
theorem bytesOf_answers_nil (hfits : FitsBuffers σ) (mode : Mode) (s : σ) (host : Host)
    (position k : Nat) :
    Delivery.bytesOf (Delivery.answers mode s host position [] k) = [] := by
  induction k generalizing s host position with
  | zero => rfl
  | succ k ih =>
      have hlength := hfits.length mode s host position []
      unfold Delivery.answers
      dsimp only
      generalize Source.readVia mode s host position [] = reading at hlength ⊢
      rcases reading with ⟨outcome, buffer, s', host'⟩
      cases List.eq_nil_of_length_eq_zero hlength
      have hnothing : (Delivery.ofReading (σ := σ) ⟨outcome, [], s', host'⟩).bytes = [] := by
        rcases outcome with error | none | n
        · rfl
        · rfl
        · exact List.take_nil
      unfold Delivery.bytesOf at ih ⊢
      rw [List.flatMap_cons, hnothing, List.drop_nil, ih]
      rfl

/-- However often a source is asked for the rest of a buffer, it delivers a prefix of the bytes
that were asked for. -/
theorem bytesOf_answers_isPrefix (right : RightSources data fit) (hfits : FitsBuffers σ)
    (mode : Mode) {s : σ} {host : Host} {position : Nat} {rest : List UInt8}
    (hfit : fit s host) (hinside : position + rest.length ≤ data.size) (k : Nat) :
    Delivery.bytesOf (Delivery.answers mode s host position rest k) <+:
      slice data position rest.length := by
  induction k generalizing s host position rest with
  | zero => exact List.nil_prefix
  | succ k ih =>
      by_cases hrest : rest = []
      · rw [hrest, bytesOf_answers_nil hfits]
        exact List.nil_prefix
      · have hlength := hfits.length mode s host position rest
        have hfit' := (right.read position mode hfit hrest hinside).1
        rcases right.bytes_ofReading hfits hfit hrest hinside mode with ⟨hle, hbytes⟩
        unfold Delivery.answers
        dsimp only at hfit' hle hbytes ⊢
        generalize Source.readVia mode s host position rest = reading at *
        generalize Delivery.ofReading reading = answer at *
        have hdrop : (reading.buffer.drop answer.bytes.length).length =
            rest.length - answer.bytes.length := by
          rw [List.length_drop, hlength]
        have hinside' : position + answer.bytes.length +
            (reading.buffer.drop answer.bytes.length).length ≤ data.size := by
          rw [hdrop]
          omega
        have hlater := ih hfit' hinside'
        have hsplit : slice data position (answer.bytes.length +
            (rest.length - answer.bytes.length)) = _ := slice_add _ _ _
        rw [hdrop] at hlater
        rw [Nat.add_sub_cancel' hle, ← hbytes] at hsplit
        unfold Delivery.bytesOf at hlater ⊢
        rw [List.flatMap_cons, hsplit]
        exact (List.prefix_append_right_inj _).mpr hlater

/-- A read of the whole view that succeeds gives the window. -/
theorem readAll_eq (right : RightSources data fit) (hfits : FitsBuffers σ)
    (hopen : view.closed = false) (hinside : view.offset + view.size ≤ data.size) {s : σ}
    {host : Host} (hfit : fit s host) (mode : Mode) {bytes : List UInt8}
    (hread : (view.readAll mode s host).1 = .ok bytes) : bytes = view.window data := by
  have hsize := View.length_window hinside
  rcases View.fullReads_followAnswers hfits hopen mode s host with ⟨_, _, hempty, hfull⟩
  by_cases hzero : view.size = 0
  · rw [hempty hzero] at hread
    cases hread
    exact (List.eq_nil_of_length_eq_zero (hsize.trans hzero)).symm
  · have hfollows := hfull hzero
    have hlength := hfollows.length_eq bytes hread
    rcases (hfollows.full bytes).mp hread with ⟨k, settles⟩
    have hasked : (List.replicate view.size (0 : UInt8)).length = view.size :=
      List.length_replicate
    have hinside' : view.offset + (List.replicate view.size (0 : UInt8)).length ≤
        data.size := by
      rw [hasked]
      exact hinside
    have hfirst := right.bytesOf_answers_isPrefix hfits mode hfit hinside' k
    rw [hasked] at hfirst
    generalize Delivery.answers mode s host view.offset (List.replicate view.size 0) k =
      answers at settles hfirst
    cases settles with
    | full leftOpen _ => exact hfirst.eq_of_length (hlength.trans hsize.symm)

end RightSources

/-!
## The contents of the sink
-/

namespace TransferMoment

variable {moment : TransferMoment κ σ}

/-- What is read and written adds to what the sink keeps just what it took. -/
theorem contents_next {contents : κ -> List UInt8} (keeps : Keeps contents)
    {before : List UInt8}
    (h : contents moment.sink = before ++ acceptedBy moment.calls) :
    contents (moment.next mode view).sink =
      before ++ acceptedBy (moment.next mode view).calls := by
  rcases moment with ⟨task, sink, s, host, buffer, calls⟩
  dsimp only at h
  cases task with
  | read position idle =>
      dsimp only [next]
      rw [acceptedBy_concat, accepted_read, List.append_nil]
      exact h
  | write rest position =>
      dsimp only [next]
      rw [keeps.write, h, acceptedBy_concat, List.append_assoc]
  | flush position =>
      dsimp only [next]
      rw [keeps.flush, acceptedBy_concat, accepted_flush, List.append_nil]
      exact h
  | stop outcome => exact h

/-- A moment up to which the source delivered the first bytes of the window. -/
structure Right (view : View) (data : Array UInt8) (fit : σ -> Host -> Prop)
    (moment : TransferMoment κ σ) : Prop where
  fit : fit moment.source moment.host
  delivered_isPrefix : deliveredBy moment.calls <+: view.window data

/-- A right source goes on where it was left. -/
theorem Right.next (hright : Right view data fit moment) (right : RightSources data fit)
    (hfits : FitsBuffers σ) (hinside : view.offset + view.size ≤ data.size)
    (inOrder : InOrder mode patience view moment) :
    Right view data fit (moment.next mode view) := by
  rcases hright with ⟨hfit, hdelivered⟩
  rcases inOrder with ⟨orderly, _, room⟩
  rcases moment with ⟨task, sink, s, host, buffer, calls⟩
  dsimp only at hfit hdelivered orderly room
  cases orderly with
  | @reading _ position idle _ _ hposition hmore _ _ =>
      have hbuffer := room (Nat.ne_zero_of_lt hmore)
      have hasked : buffer.take (view.size - position) ≠ [] := by
        intro hnil
        rcases List.take_eq_nil_iff.mp hnil with hzero | hnil
        · exact Nat.sub_ne_zero_of_lt hmore hzero
        · exact hbuffer hnil
      have hle : (buffer.take (view.size - position)).length ≤ view.size - position :=
        List.length_take_le _ _
      have hwithin : view.offset + position +
          (buffer.take (view.size - position)).length ≤ data.size := by omega
      have hfit' := (right.read (view.offset + position) mode hfit hasked hwithin).1
      refine ⟨hfit', ?_⟩
      rcases right.bytes_ofReading hfits hfit hasked hwithin mode with ⟨hcount, hbytes⟩
      dsimp only [TransferMoment.next, ask] at hcount hbytes ⊢
      generalize Delivery.ofReading (Source.readVia mode s host (view.offset + position)
        (buffer.take (view.size - position))) = answer at hcount hbytes ⊢
      rw [View.slice_window (by omega)] at hbytes
      rw [deliveredBy_concat, List.prefix_iff_eq_take.mp hdelivered, ← hposition]
      change _ ++ answer.bytes <+: _
      rw [hbytes, ← List.take_add]
      exact List.take_prefix _ _
  | writing =>
      refine ⟨hfit, ?_⟩
      dsimp only [TransferMoment.next]
      rw [deliveredBy_concat, delivered_write, List.append_nil]
      exact hdelivered
  | flushing =>
      refine ⟨hfit, ?_⟩
      dsimp only [TransferMoment.next]
      rw [deliveredBy_concat, delivered, List.append_nil]
      exact hdelivered
  | stopped => exact ⟨hfit, hdelivered⟩

omit [Sink κ] [Source σ] in
theorem start_inOrder (mode : Mode) (patience : Nat) (view : View) (sink : κ) (s : σ)
    (host : Host) (bufferSize : Nat) :
    InOrder mode patience view (start view sink s host bufferSize) where
  orderly := by
    unfold start
    dsimp only
    by_cases hempty : view.size = 0
    · rw [if_pos hempty]
      exact .stopped (.empty hempty)
    · rw [if_neg hempty]
      exact .reading .nil rfl rfl (Nat.pos_of_ne_zero hempty) (.nil _) (Nat.succ_pos _)
  law := .nil
  room := by
    intro hsize
    apply List.ne_nil_of_length_pos
    dsimp only [start]
    rw [List.length_replicate]
    unfold View.transferBufferLength View.minTransferBuffer
    omega

/-- A transfer is what its moments come to, as far as the patience of its host goes. -/
theorem start_precedes_leftAt (hfits : FitsBuffers σ) (hopen : view.closed = false)
    (mode : Mode) (sink : κ) (s : σ) (host : Host) (bufferSize : Nat) :
    let left := view.transfer mode sink s host bufferSize
    exists task buffer calls,
      Leaves mode host.patience left.outcome task calls ∧
      Precedes mode view (start view sink s host bufferSize) (leftAt left task buffer calls) := by
  have inOrder := start_inOrder mode host.patience view sink s host bufferSize
  by_cases hempty : view.size = 0
  · refine ⟨.stop (.ok 0), List.replicate (view.transferBufferLength bufferSize) 0, [], ?_⟩
    unfold start View.transfer leftAt
    rw [if_pos hempty, if_pos hempty, hopen]
    exact ⟨.stopped _ _, .refl _⟩
  · have hpos := Nat.pos_of_ne_zero hempty
    have hrest := precedes_transferRemaining hfits hopen mode host.patience sink s host _ 0 0
      (inOrder.room hempty) []
    unfold TransferTask.onward at hrest
    rw [if_pos hpos] at hrest
    unfold View.transfer
    rw [if_neg hempty]
    unfold start at hrest ⊢
    dsimp only at hrest ⊢
    rw [if_neg hempty]
    exact hrest

end TransferMoment

/-!
## Transfers
-/

/-- What a transfer comes to, told by the calls that it makes one after the other. -/
structure TransfersExactly (mode : Mode) (view : View) (sink : κ) (s : σ) (host : Host)
    (bufferSize : Nat) (left : Transferred κ σ) (calls : List TransferCall) : Prop where
  /-- Nothing is left to be done, or patience ran out before an interrupted write was made
  again. -/
  made : exists task buffer, TransferMoment.Leaves mode host.patience left.outcome task calls ∧
    TransferMoment.Precedes mode view (.start view sink s host bufferSize)
      (.leftAt left task buffer calls)
  law : PrefixLaw mode view calls
  /-- Nothing is flushed after a failed write, unless the transfer blocks and the write was
  interrupted. -/
  repeated : forall earlier result rest cause, earlier ++ [.flush result] <+: calls ->
    .write rest (.error cause) ∈ earlier -> mode = .blocking ∧ cause.isInterrupted = true
  ends : TransferEnd mode host.patience view calls left.outcome
  /-- Success means that the sink took the whole window. -/
  complete : forall n, left.outcome = .ok n ->
    n = view.size ∧ (acceptedBy calls).length = view.size
  /-- A source that ends early is reported with the number of bytes that the sink took. -/
  early : EndedEarly calls ->
    left.outcome = .error (.unexpectedEof (acceptedBy calls).length view.size)
  kept : forall contents, Keeps contents ->
    contents left.sink = contents sink ++ acceptedBy calls
  /-- No wrong byte reaches the sink if none was delivered. -/
  right : forall data fit, RightSources data fit -> fit s host ->
    view.offset + view.size ≤ data.size ->
    (forall earlier, earlier <+: calls -> acceptedBy earlier <+: view.window data) ∧
    (forall n, left.outcome = .ok n -> acceptedBy calls = view.window data) ∧
    (forall mode bytes, (view.readAll mode s host).1 = .ok bytes -> bytes = view.window data)
  /-- If the source always delivers and the sink is willing, then the transfer succeeds. -/
  whole : forall data prompt fit, FaithfulSources data prompt fit -> fit s host ->
    view.offset + view.size ≤ data.size ->
    (forall mode, (view.readAll mode s host).1 = .ok (view.window data)) ∧
    (forall willing contents, Collects willing contents -> willing sink ->
      left.outcome = .ok view.size ∧
        contents left.sink = contents sink ++ view.window data)

namespace View

/-- Every transfer through an open view delivers an exact prefix, whatever its source answers and
its sink takes, and however large the buffer is. -/
theorem transfer_transfersExactly (hfits : FitsBuffers σ) (hopen : view.closed = false)
    (mode : Mode) (sink : κ) (s : σ) (host : Host) (bufferSize : Nat) :
    exists calls, TransfersExactly mode view sink s host bufferSize
      (view.transfer mode sink s host bufferSize) calls := by
  rcases TransferMoment.start_precedes_leftAt hfits hopen mode sink s host bufferSize with
    ⟨task, buffer, calls, hleaves, hmade⟩
  have hstart := TransferMoment.start_inOrder mode host.patience view sink s host bufferSize
  have inOrder := hmade.keeps (TransferMoment.InOrder mode host.patience view)
    (fun _ => .next hfits) hstart
  have ends := inOrder.orderly.ends_of_leaves hleaves
  refine ⟨calls, ⟨task, buffer, hleaves, hmade⟩, inOrder.law, ?_, ends, ?_,
    ends.error_of_endedEarly, ?_, ?_, ?_⟩
  · intro earlier result rest cause hflush hwrite
    exact inOrder.law.repeated_of_flush hflush hwrite
  · intro n hok
    rcases ends.accepted_of_ok hok with ⟨hn, hlength, _⟩
    exact ⟨hn, hlength⟩
  · intro contents keeps
    exact hmade.keeps
      (fun moment => contents moment.sink = contents sink ++ acceptedBy moment.calls)
      (fun _ => TransferMoment.contents_next keeps) (List.append_nil _).symm
  · intro data fit right hfit hinside
    have hright := hmade.keeps
      (fun moment => moment.InOrder mode host.patience view ∧ moment.Right view data fit)
      (fun _ h => ⟨h.1.next hfits, h.2.next right hfits hinside h.1⟩)
      ⟨hstart, hfit, List.nil_prefix⟩
    have hwindow {earlier : List TransferCall} (hearlier : earlier <+: calls) :
        acceptedBy earlier <+: view.window data :=
      ((inOrder.law.accepted_isPrefix earlier hearlier).trans
        (hearlier.flatMap delivered)).trans hright.2.delivered_isPrefix
    refine ⟨fun _ => hwindow, ?_, ?_⟩
    · intro n hok
      have hlength := (ends.accepted_of_ok hok).2.1
      exact (hwindow (List.prefix_refl _)).eq_of_length
        (hlength.trans (length_window hinside).symm)
    · intro mode bytes hread
      exact right.readAll_eq hfits hopen hinside hfit mode hread
  · intro data prompt fit faithful hfit hinside
    constructor
    · intro mode
      exact (readAll_answers faithful hopen hinside hfit mode).1
    · exact (transfer_writes faithful hopen hinside hfit mode sink bufferSize).2

end View

/-!
## Scripted sources and sinks
-/

namespace Scripted
namespace ScriptedSink

theorem upTo_isPrefix (limit : Option Nat) (bytes : List UInt8) :
    upTo limit bytes <+: bytes := by
  cases limit with
  | none => exact List.prefix_refl _
  | some limit => exact List.take_prefix _ _

theorem received_take (s : ScriptedSink) {bytes offered : List UInt8}
    (hoffered : bytes <+: offered) :
    (s.take bytes).2.received.toList =
      s.received.toList ++ (TransferCall.write offered (s.take bytes).1).accepted := by
  have htaken := (upTo_isPrefix (s.fullAt.map fun position => position - s.received.size)
    bytes).trans hoffered
  unfold take TransferCall.accepted
  dsimp only
  rw [Array.toList_appendList, ← List.prefix_iff_eq_take.mp htaken]

theorem keeps : Keeps fun s : ScriptedSink => s.received.toList where
  flush := by
    intro s
    rfl
  write := by
    intro s offered
    have hlimit := upTo_isPrefix s.limit offered
    change (s.write offered).2.received.toList =
      s.received.toList ++ (TransferCall.write offered (s.write offered).1).accepted
    unfold write
    cases s.fault with
    | none => exact s.received_take hlimit
    | some fault =>
        dsimp only
        by_cases hfault : fault.position ≤ s.received.size
        · rw [if_pos hfault, accepted_failed, List.append_nil]
          cases fault.once <;> rfl
        · rw [if_neg hfault]
          exact s.received_take ((List.take_prefix _ _).trans hlimit)

end ScriptedSink

namespace ScriptedSource

theorem deliver_right (s : ScriptedSource) (host : Host) (position : Nat) (buffer : List UInt8)
    (cap : Option Nat) {n : Nat}
    (hn : (s.deliver host position buffer cap).outcome = .ok (some n)) :
    (s.deliver host position buffer cap).buffer.take n = slice s.data position n := by
  unfold deliver at hn ⊢
  by_cases hend : s.data.size ≤ position
  · rw [if_pos hend] at hn
    cases hn
  · rw [if_neg hend] at hn ⊢
    cases hn
    exact (take_overlay _ _).trans (slice_length_copyAt ..).symm

/-- Whatever is scripted, no byte is wrong. -/
theorem right (data : Array UInt8) :
    RightSources (σ := ScriptedSource) data fun s _ => s.data = data where
  read := by
    rintro s host position buffer mode rfl _ _
    have hanswer : (s.answer host position buffer).source.data = s.data ∧
        forall n, (s.answer host position buffer).outcome = .ok (some n) ->
          (s.answer host position buffer).buffer.take n = slice s.data position n := by
      unfold answer
      rcases nextReply SourceReply.normal s.replies with ⟨reply, replies⟩
      have hdeliver (cap : Option Nat) :
          (({ s with replies }).deliver host position buffer cap).source.data = s.data := by
        unfold deliver
        split <;> rfl
      cases reply with
      | normal => exact ⟨hdeliver _, fun _ => deliver_right { s with replies } _ _ _ _⟩
      | atMost n => exact ⟨hdeliver _, fun _ => deliver_right { s with replies } _ _ _ _⟩
      | nothing => exact ⟨rfl, fun _ hn => by cases hn⟩
      | fail error => exact ⟨rfl, fun _ hn => by cases hn⟩
      | empty =>
          refine ⟨rfl, ?_⟩
          intro n hn
          cases hn
          exact (slice_zero position).symm
    cases mode <;> exact hanswer

end ScriptedSource
end Scripted

namespace View

open Scripted

/-- The source delivers one byte, then twice none, then the rest; the sink takes two bytes at
once.  Neither is ever wrong about the bytes. -/
theorem transfer_transfersExactly_scripted :
    let source : ScriptedSource :=
      { data := #[1, 2, 3, 4, 5], size := 5, replies := [.atMost 1, .empty, .empty, .normal] }
    let sink : ScriptedSink := { limit := some 2 }
    let view : View := { offset := 1, size := 4 }
    view.closed = false ∧
    (Keeps fun sink : ScriptedSink => sink.received.toList) ∧
    (RightSources source.data fun (s : ScriptedSource) _ => s.data = source.data) ∧
    exists calls, TransfersExactly .blocking view sink source {} 1024
      (view.transfer .blocking sink source {} 1024) calls :=
  ⟨rfl, ScriptedSink.keeps, ScriptedSource.right _,
    transfer_transfersExactly ScriptedSource.fitsBuffers rfl .blocking _ _ {} 1024⟩

/-- A sink whose first write is interrupted is flushed nevertheless. -/
theorem transfer_flushes_afterFailedWrite :
    let interruption : IoError := { kind := .interrupted, text := "again" }
    let sink : ScriptedSink :=
      { fault := some { position := 0, once := true, cause := interruption } }
    let view : View := { offset := 0, size := 3 }
    let left := view.transfer .blocking sink (Memory.mk #[1, 2, 3]) {} 1024
    (exists buffer, TransferMoment.Precedes .blocking view
      (.start view sink (Memory.mk #[1, 2, 3]) {} 1024)
      (.leftAt left (.stop (.ok 3)) buffer
        [.read (.piece [1, 2, 3]), .write [1, 2, 3] (.error interruption),
          .write [1, 2, 3] (.ok 3), .flush (.ok ())])) ∧
    left.outcome = .ok 3 := by
  refine ⟨⟨[1, 2, 3], 4, ?_⟩, ?_⟩
  · cbv
  · cbv

end View
end ByteWindow
