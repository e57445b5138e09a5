import Mathlib.Data.List.Infix
import Mathlib.Data.List.Iterate
import ByteWindow.Proofs.Source.Deliveries
import ByteWindow.Proofs.Source.Logged
import ByteWindow.Proofs.View.Answers

/-!
# Transfers call by call

A transfer works on two objects in turn: it asks the source for a piece and offers the piece to
the sink.  What each of them has got so far can be told at any moment in between.  So a transfer
is taken apart into its calls: each moment knows what is to be done next, and makes exactly one
call to get to the next moment.  A transfer is what these moments come to in the end.

The moments know no patience: a write that is to be made again is made again, however often it
was interrupted.  A transfer that ran out of patience stands at a moment before the end, and more
writes were interrupted up to there than its patience allows for.
-/

namespace ByteWindow

/-- A call of a transfer, with its answer. -/
inductive TransferCall
  | read (answer : Delivery)
  | write (offered : List UInt8) (result : Except IoError Nat)
  | flush (result : Except IoError Unit)

namespace TransferCall

/-- The bytes that the source delivered. -/
def delivered : TransferCall -> List UInt8
  | read answer => answer.bytes
  | write _ _ | flush _ => []

/-- The bytes that the sink took. -/
def accepted : TransferCall -> List UInt8
  | write offered (.ok n) => offered.take n
  | _ => []

theorem accepted_read (answer : Delivery) : (read answer).accepted = [] := rfl

theorem accepted_failed (offered : List UInt8) (cause : IoError) :
    (write offered (.error cause)).accepted = [] := rfl

theorem accepted_flush (result : Except IoError Unit) : (flush result).accepted = [] := rfl

theorem delivered_write (offered : List UInt8) (result : Except IoError Nat) :
    (write offered result).delivered = [] := rfl

/-- A sink takes the first bytes of those that it is offered. -/
theorem accepted_isPrefix_offered (offered : List UInt8) (result : Except IoError Nat) :
    (write offered result).accepted <+: offered := by
  cases result with
  | error cause => exact List.nil_prefix
  | ok n => exact List.take_prefix n offered

def deliveredBy (calls : List TransferCall) : List UInt8 :=
  calls.flatMap delivered

def acceptedBy (calls : List TransferCall) : List UInt8 :=
  calls.flatMap accepted

theorem deliveredBy_concat (calls : List TransferCall) (call : TransferCall) :
    deliveredBy (calls ++ [call]) = deliveredBy calls ++ call.delivered := by
  unfold deliveredBy
  rw [List.flatMap_append, List.flatMap_singleton]

theorem acceptedBy_concat (calls : List TransferCall) (call : TransferCall) :
    acceptedBy (calls ++ [call]) = acceptedBy calls ++ call.accepted := by
  unfold acceptedBy
  rw [List.flatMap_append, List.flatMap_singleton]

/-- A write that was interrupted. -/
def interrupted : TransferCall -> Bool
  | write _ (.error cause) => cause.isInterrupted
  | _ => false

/-- How often writes were interrupted. -/
def interruptions (calls : List TransferCall) : Nat :=
  calls.countP interrupted

theorem interruptions_concat (calls : List TransferCall) (call : TransferCall) :
    interruptions (calls ++ [call]) =
      interruptions calls + if call.interrupted then 1 else 0 := by
  unfold interruptions
  rw [List.countP_append, List.countP_singleton]

theorem interruptions_repeated {mode : Mode} {cause : IoError}
    (hrepeats : Sink.repeats mode cause = true) (calls : List TransferCall)
    (rest : List UInt8) :
    interruptions (calls ++ [.write rest (.error cause)]) = interruptions calls + 1 := by
  rw [interruptions_concat, interrupted, (Sink.repeats_iff.mp hrepeats).2, if_pos rfl]

/-- A read that delivered no byte although there may be more. -/
def emptyRead : TransferCall := read (.piece [])

end TransferCall

/-!
## Moments
-/

/-- What a transfer does next. -/
inductive TransferTask
  /-- Read at a position; `idle` reads in a row delivered nothing so far. -/
  | read (position idle : Nat)
  /-- Offer the rest of a piece that ends at a position. -/
  | write (rest : List UInt8) (position : Nat)
  | flush (position : Nat)
  | stop (outcome : Except Error Nat)

namespace TransferTask

variable (mode : Mode) (view : View)

/-- Read on if there is more to come. -/
def onward (position idle : Nat) : TransferTask :=
  if position < view.size then .read position idle else .flush position

/-- Offer what is left of a piece, if anything is left. -/
def offer (rest : List UInt8) (position : Nat) : TransferTask :=
  match rest with
  | [] => onward view position 0
  | _ :: _ => .write rest position

def afterRead (buffer : List UInt8) (position idle : Nat) :
    Except Error (Option Nat) -> TransferTask
  | .error error => .stop (.error error)
  | .ok none => .stop (.error (view.unexpectedEof position))
  | .ok (some 0) =>
      if idle + 1 < View.maxIdleReads then .read position (idle + 1)
      else .stop (.error (view.unexpectedEof position))
  | .ok (some (n + 1)) =>
      offer view (buffer.take (n + 1)) (position + (n + 1))

/-- A failed offer is made again, if the mode allows it, or the failure ends the transfer. -/
def afterFailedWrite (rest : List UInt8) (position : Nat) (cause : IoError) : TransferTask :=
  if Sink.repeats mode cause then .write rest position else .stop (.error (.io cause))

def afterWrite (rest : List UInt8) (position : Nat) : Except IoError Nat -> TransferTask
  | .ok 0 => .stop (.error (.io (Sink.nothingTaken mode)))
  | .ok (n + 1) => offer view (rest.drop (n + 1)) position
  | .error cause => afterFailedWrite mode rest position cause

/-- What follows when a piece was offered completely, or as far as the sink went. -/
def afterPiece (position : Nat) : Except IoError Unit -> TransferTask
  | .ok () => onward view position 0
  | .error cause => .stop (.error (.io cause))

def afterFlush (position : Nat) : Except IoError Unit -> TransferTask
  | .ok () => .stop (.ok position)
  | .error cause => .stop (.error (.io cause))

end TransferTask

/-- A transfer between two calls. -/
structure TransferMoment (κ σ : Type) where
  task : TransferTask
  sink : κ
  source : σ
  host : Host
  buffer : List UInt8
  calls : List TransferCall

namespace TransferMoment

variable {κ σ : Type} [Sink κ] [Source σ]

/-- Ask the source for what the window has left, as far as it fits the buffer. -/
def ask (mode : Mode) (view : View) (moment : TransferMoment κ σ) (position : Nat) :
    Reading (Option Nat) σ :=
  Source.readVia mode moment.source moment.host (view.offset + position)
    (moment.buffer.take (view.size - position))

/-- Make one call. -/
def next (mode : Mode) (view : View) (moment : TransferMoment κ σ) : TransferMoment κ σ :=
  match moment.task with
  | .read position idle =>
      let reading := moment.ask mode view position
      let buffer := reading.buffer ++ moment.buffer.drop (view.size - position)
      { moment with
        task := .afterRead view buffer position idle reading.outcome
        source := reading.source
        host := reading.host
        buffer
        calls := moment.calls ++ [.read (.ofReading reading)] }
  | .write rest position =>
      let written := Sink.write moment.sink rest
      { moment with
        task := .afterWrite mode view rest position written.1
        sink := written.2
        calls := moment.calls ++ [.write rest written.1] }
  | .flush position =>
      let flushed := Sink.flush moment.sink
      { moment with
        task := .afterFlush position flushed.1
        sink := flushed.2
        calls := moment.calls ++ [.flush flushed.1] }
  | .stop _ => moment

/-- The moment before the first call.  An empty view needs no call at all. -/
def start (view : View) (sink : κ) (s : σ) (host : Host) (bufferSize : Nat) :
    TransferMoment κ σ :=
  { task := if view.size = 0 then .stop (.ok 0) else .read 0 0
    sink, source := s, host
    buffer := List.replicate (view.transferBufferLength bufferSize) 0
    calls := [] }

/-- A moment comes after another one. -/
def Precedes (mode : Mode) (view : View) (moment later : TransferMoment κ σ) : Prop :=
  exists k, (next mode view)^[k] moment = later

variable {mode : Mode} {view : View} {moment later last : TransferMoment κ σ}

namespace Precedes

theorem refl (moment : TransferMoment κ σ) : Precedes mode view moment moment :=
  ⟨0, rfl⟩

theorem head (h : Precedes mode view (moment.next mode view) later) :
    Precedes mode view moment later := by
  rcases h with ⟨k, hk⟩
  exact ⟨k + 1, hk⟩

theorem trans (h : Precedes mode view moment later) (h' : Precedes mode view later last) :
    Precedes mode view moment last := by
  rcases h with ⟨k, rfl⟩
  rcases h' with ⟨k', hk'⟩
  exact ⟨k' + k, (Function.iterate_add_apply _ k' k moment).trans hk'⟩

/-- What every call keeps holds at every later moment. -/
theorem keeps (invariant : TransferMoment κ σ -> Prop) (h : Precedes mode view moment later)
    (hkept : forall moment, invariant moment -> invariant (moment.next mode view))
    (hmoment : invariant moment) : invariant later := by
  rcases h with ⟨k, rfl⟩
  induction k generalizing moment with
  | zero => exact hmoment
  | succ k ih => exact ih (hkept moment hmoment)

end Precedes

/-!
## Patience
-/

/-- Patience ran out before a write that was interrupted was made again. -/
inductive GivenUp (mode : Mode) (patience : Nat) (cause : IoError) :
    TransferTask -> List TransferCall -> Prop where
  | interrupted {earlier : List TransferCall} {rest : List UInt8} {position : Nat} :
      Sink.repeats mode cause = true ->
      patience < TransferCall.interruptions (earlier ++ [.write rest (.error cause)]) ->
      GivenUp mode patience cause (.write rest position)
        (earlier ++ [.write rest (.error cause)])

theorem GivenUp.mono {patience less : Nat} {cause : IoError} {task : TransferTask}
    {calls : List TransferCall} (hle : less ≤ patience)
    (givenUp : GivenUp mode patience cause task calls) : GivenUp mode less cause task calls := by
  cases givenUp with
  | interrupted hrepeats hmany => exact .interrupted hrepeats (Nat.lt_of_le_of_lt hle hmany)

/-- What is left to be done when a transfer reports an outcome: nothing, or the write for which
it had no patience any more. -/
inductive Leaves (mode : Mode) (patience : Nat) :
    Except Error Nat -> TransferTask -> List TransferCall -> Prop where
  | stopped (outcome : Except Error Nat) (calls : List TransferCall) :
      Leaves mode patience outcome (.stop outcome) calls
  | givenUp {cause : IoError} {task : TransferTask} {calls : List TransferCall} :
      GivenUp mode patience cause task calls ->
      Leaves mode patience (.error (.io cause)) task calls

/-- The moment at which a transfer is left with something to be done. -/
def leftAt (left : Transferred κ σ) (task : TransferTask) (buffer : List UInt8)
    (calls : List TransferCall) : TransferMoment κ σ :=
  { task, sink := left.sink, source := left.source, host := left.host, buffer, calls }

/-!
## The moments of a transfer
-/

theorem precedes_write (mode : Mode) (view : View) {sink sink' : κ} {rest : List UInt8}
    {result : Except IoError Nat}
    (hwrite : Sink.write sink rest = (result, sink')) (position : Nat) (s : σ)
    (host : Host) (buffer : List UInt8) (calls : List TransferCall) :
    Precedes mode view
      { task := .write rest position, sink, source := s, host, buffer, calls }
      { task := .afterWrite mode view rest position result, sink := sink'
        source := s, host, buffer, calls := calls ++ [.write rest result] } := by
  refine .head ?_
  unfold next
  dsimp only
  rw [hwrite]
  exact .refl _

/-- What becomes of a piece that was offered with some patience: it was taken, or the sink failed,
or more offers were interrupted than there was patience for. -/
inductive Offered (mode : Mode) (view : View) (patience position : Nat) :
    Except IoError Unit -> TransferTask -> List TransferCall -> Prop where
  | settled (written : Except IoError Unit) (calls : List TransferCall) :
      Offered mode view patience position written (.afterPiece view position written) calls
  | givenUp {cause : IoError} {task : TransferTask} {calls : List TransferCall} :
      GivenUp mode patience cause task calls ->
      Offered mode view patience position (.error cause) task calls

/-- A piece is offered until it is taken, or the sink fails, or patience runs out. -/
theorem precedes_writeAllPatiently (mode : Mode) (view : View) (sink : κ)
    (bytes : List UInt8) (patience position : Nat) (s : σ) (host : Host)
    (buffer : List UInt8) (calls : List TransferCall) :
    let written := Sink.writeAllPatiently mode sink bytes patience
    exists task calls',
      Offered mode view (TransferCall.interruptions calls + patience) position written.1 task
        calls' ∧
      Precedes mode view
        { task := .offer view bytes position, sink, source := s, host, buffer, calls }
        { task, sink := written.2, source := s, host, buffer, calls := calls' } := by
  fun_induction Sink.writeAllPatiently mode sink bytes patience generalizing calls with
  | case1 sink patience => exact ⟨_, calls, .settled _ _, .refl _⟩
  | case2 sink patience byte rest sink' hwrite =>
      have hfailed := precedes_write mode view hwrite position s host buffer calls
      exact ⟨_, _, .settled _ _, hfailed⟩
  | case3 sink patience byte rest n sink' hwrite ih =>
      have htaken := precedes_write mode view hwrite position s host buffer calls
      rcases ih (calls ++ [.write (byte :: rest) (.ok (n + 1))]) with
        ⟨task, calls', hoffered, hrest⟩
      rw [TransferCall.interruptions_concat] at hoffered
      exact ⟨task, calls', hoffered, htaken.trans hrest⟩
  | case4 sink byte rest cause sink' hwrite patience hrepeats ih =>
      have hrepeated := precedes_write mode view hwrite position s host buffer calls
      rw [TransferTask.afterWrite, TransferTask.afterFailedWrite, if_pos hrepeats] at hrepeated
      rcases ih (calls ++ [.write (byte :: rest) (.error cause)]) with
        ⟨task, calls', hoffered, hrest⟩
      rw [TransferCall.interruptions_repeated hrepeats, Nat.add_right_comm] at hoffered
      exact ⟨task, calls', hoffered, hrepeated.trans hrest⟩
  | case5 sink patience byte rest cause sink' hwrite hbelieved =>
      have hfailed := precedes_write mode view hwrite position s host buffer calls
      rw [TransferTask.afterWrite, TransferTask.afterFailedWrite] at hfailed
      cases hrepeats : Sink.repeats mode cause with
      | false =>
          rw [if_neg (by rw [hrepeats]; exact Bool.false_ne_true)] at hfailed
          exact ⟨_, _, .settled _ _, hfailed⟩
      | true =>
          rw [if_pos hrepeats] at hfailed
          refine ⟨_, _, .givenUp (.interrupted hrepeats ?_), hfailed⟩
          cases patience with
          | succ less => exact (hbelieved less hrepeats rfl).elim
          | zero =>
              rw [TransferCall.interruptions_repeated hrepeats]
              exact Nat.lt_succ_self _

/-- A read through an open view asks the source. -/
theorem read_eq_ask (hopen : view.closed = false) (mode : Mode) (s : σ) (host : Host)
    {buffer : List UInt8} (hbuffer : buffer ≠ []) {position : Nat}
    (hmore : position < view.size) :
    view.read mode s host buffer position 0 buffer.length =
      let reading := Source.readVia mode s host (view.offset + position)
        (buffer.take (view.size - position))
      { reading with buffer := reading.buffer ++ buffer.drop (view.size - position) } := by
  have hpos := List.length_pos_iff.mpr hbuffer
  have hrequest : view.requestLength buffer.length position 0 buffer.length =
      .ok (some (min (view.size - position) buffer.length)) := by
    unfold View.requestLength
    rw [if_neg (Nat.not_lt_zero _), Nat.sub_zero, Nat.min_self]
    dsimp only
    rw [if_neg (fun h => Nat.ne_of_gt hpos h.1), if_neg (Nat.not_le_of_lt hmore)]
  have htake : buffer.take (min (view.size - position) buffer.length) =
      buffer.take (view.size - position) := List.take_eq_take_min.symm
  have hdrop : buffer.drop (min (view.size - position) buffer.length) =
      buffer.drop (view.size - position) := by
    rcases Nat.le_total (view.size - position) buffer.length with hle | hle
    · rw [Nat.min_eq_left hle]
    · rw [Nat.min_eq_right hle, List.drop_length, List.drop_eq_nil_of_le hle]
  have hasked : min (view.size - position) buffer.length ≠ 0 := by omega
  rw [View.read_eq_readInto hopen mode s host hrequest hasked]
  unfold View.readInto
  rw [List.drop_zero, Nat.zero_add, List.take_zero, htake, hdrop]
  rfl

theorem precedes_read (hopen : view.closed = false) (mode : Mode) (sink : κ) (s : σ)
    (host : Host) {buffer : List UInt8} (hbuffer : buffer ≠ []) {position : Nat}
    (hmore : position < view.size) (idle : Nat) (calls : List TransferCall) :
    let reading := view.read mode s host buffer position 0 buffer.length
    exists calls', Precedes mode view
      { task := .read position idle, sink, source := s, host, buffer, calls }
      { task := .afterRead view reading.buffer position idle reading.outcome, sink
        source := reading.source, host := reading.host, buffer := reading.buffer
        calls := calls' } := by
  rw [read_eq_ask hopen mode s host hbuffer hmore]
  exact ⟨_, .head (.refl _)⟩

theorem precedes_flush {sink sink' : κ} {result : Except IoError Unit}
    (hflush : Sink.flush sink = (result, sink')) (position : Nat) (s : σ) (host : Host)
    (buffer : List UInt8) (calls : List TransferCall) :
    Precedes mode view
      { task := .flush position, sink, source := s, host, buffer, calls }
      { task := .afterFlush position result, sink := sink', source := s, host, buffer
        calls := calls ++ [.flush result] } := by
  refine .head ?_
  unfold next
  dsimp only
  rw [hflush]
  exact .refl _

/-- A read leaves the buffer as long as it was. -/
theorem length_read (hfits : FitsBuffers σ) (hopen : view.closed = false) (mode : Mode)
    (s : σ) (host : Host) {buffer : List UInt8} (hbuffer : buffer ≠ []) {position : Nat}
    (hmore : position < view.size) :
    (view.read mode s host buffer position 0 buffer.length).buffer.length =
      buffer.length := by
  rw [read_eq_ask hopen mode s host hbuffer hmore, List.length_append, hfits.length,
    ← List.length_append, List.take_append_drop]

theorem read_ne_nil (hfits : FitsBuffers σ) (hopen : view.closed = false) (mode : Mode)
    (s : σ) (host : Host) {buffer : List UInt8} (hbuffer : buffer ≠ []) {position : Nat}
    (hmore : position < view.size) :
    (view.read mode s host buffer position 0 buffer.length).buffer ≠ [] := by
  apply List.ne_nil_of_length_pos
  rw [length_read hfits hopen mode s host hbuffer hmore]
  exact List.length_pos_iff.mpr hbuffer

/-- A transfer is what its moments come to, as far as its patience goes. -/
theorem precedes_transferRemaining (hfits : FitsBuffers σ) (hopen : view.closed = false)
    (mode : Mode) (patience : Nat) (sink : κ) (s : σ) (host : Host) (buffer : List UInt8)
    (position idle : Nat) (hbuffer : buffer ≠ []) (calls : List TransferCall) :
    let left := view.transferRemaining mode patience sink s host buffer position idle
    exists task buffer' calls',
      Leaves mode patience left.outcome task calls' ∧
      Precedes mode view
        { task := .onward view position idle, sink, source := s, host, buffer, calls }
        (leftAt left task buffer' calls') := by
  fun_induction View.transferRemaining mode patience view sink s host buffer position idle
    generalizing calls with
  | case1 sink s host buffer position idle hmore reading stop error houtcome =>
      rcases precedes_read hopen mode sink s host hbuffer hmore idle calls with ⟨read, hread⟩
      rw [houtcome] at hread
      rw [TransferTask.onward, if_pos hmore]
      exact ⟨_, _, read, .stopped _ _, hread⟩
  | case2 sink s host buffer position idle hmore reading stop houtcome =>
      rcases precedes_read hopen mode sink s host hbuffer hmore idle calls with ⟨read, hread⟩
      rw [houtcome] at hread
      rw [TransferTask.onward, if_pos hmore]
      exact ⟨_, _, read, .stopped _ _, hread⟩
  | case3 sink s host buffer position idle hmore reading houtcome hagain ih =>
      rcases precedes_read hopen mode sink s host hbuffer hmore idle calls with ⟨read, hread⟩
      rw [houtcome, TransferTask.afterRead, if_pos hagain] at hread
      rcases ih (read_ne_nil hfits hopen mode s host hbuffer hmore) read with
        ⟨task, buffer', later, hleaves, hrest⟩
      rw [TransferTask.onward, if_pos hmore] at hrest ⊢
      exact ⟨task, buffer', later, hleaves, hread.trans hrest⟩
  | case4 sink s host buffer position idle hmore reading stop houtcome hagain =>
      rcases precedes_read hopen mode sink s host hbuffer hmore idle calls with ⟨read, hread⟩
      rw [houtcome, TransferTask.afterRead, if_neg hagain] at hread
      rw [TransferTask.onward, if_pos hmore]
      exact ⟨_, _, read, .stopped _ _, hread⟩
  | case5 sink s host buffer position idle hmore reading stop n houtcome cause sink' hwritten =>
      rcases precedes_read hopen mode sink s host hbuffer hmore idle calls with ⟨read, hread⟩
      rw [houtcome, TransferTask.afterRead] at hread
      rcases precedes_writeAllPatiently mode view sink (reading.buffer.take (n + 1)) patience
        (position + (n + 1)) reading.source reading.host reading.buffer read with
        ⟨task, written, hoffered, hwrites⟩
      rw [hwritten] at hoffered hwrites
      rw [TransferTask.onward, if_pos hmore]
      cases hoffered with
      | settled => exact ⟨_, _, written, .stopped _ _, hread.trans hwrites⟩
      | givenUp hgiven =>
          have hgiven := hgiven.mono (Nat.le_add_left patience _)
          exact ⟨task, _, written, .givenUp hgiven, hread.trans hwrites⟩
  | case6 sink s host buffer position idle hmore reading n houtcome sink' hwritten ih =>
      rcases precedes_read hopen mode sink s host hbuffer hmore idle calls with ⟨read, hread⟩
      rw [houtcome, TransferTask.afterRead] at hread
      rcases precedes_writeAllPatiently mode view sink (reading.buffer.take (n + 1)) patience
        (position + (n + 1)) reading.source reading.host reading.buffer read with
        ⟨task, written, hoffered, hwrites⟩
      rw [hwritten] at hoffered hwrites
      cases hoffered with
      | settled =>
          rcases ih (read_ne_nil hfits hopen mode s host hbuffer hmore) written with
            ⟨task, buffer', later, hleaves, hrest⟩
          rw [TransferTask.onward, if_pos hmore]
          exact ⟨task, buffer', later, hleaves, (hread.trans hwrites).trans hrest⟩
  | case7 sink s host buffer position idle hdone sink' hflushed =>
      rw [TransferTask.onward, if_neg hdone]
      exact ⟨_, _, _, .stopped _ _, precedes_flush hflushed position s host buffer calls⟩
  | case8 sink s host buffer position idle hdone cause sink' hflushed =>
      rw [TransferTask.onward, if_neg hdone]
      exact ⟨_, _, _, .stopped _ _, precedes_flush hflushed position s host buffer calls⟩

end TransferMoment
end ByteWindow
