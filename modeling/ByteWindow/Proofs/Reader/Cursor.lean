import ByteWindow.Proofs.Reader.EndOfData
import ByteWindow.Proofs.Source.Sound
import ByteWindow.Proofs.View.Answers

/-!
# Readers are cursors

A cursor over some bytes is a position and a mark.  What it does can be told without views and
sources: it reads the bytes behind its position and moves behind them, it skips to the end at
most, and it can be sent anywhere below the limit of positions.  When something fails it stays
where it is.

A reader of a view does the same over the window of the view, for as long as its source is
sound.  It fails to read when its source fails it, and only then.  As a reader that failed has
not moved, no byte is lost and none is read twice: what was read altogether is what lies
between the first position and the last.
-/

namespace ByteWindow

/-- What a reader can be asked. -/
inductive ReaderCall
  | read (buffer : List UInt8)
  | readByte
  | skip (n : Nat)
  | seek (target : SeekTarget)
  | setMark
  | reset
  | position
  | available

/-- What a reader answers.  A read hands its buffer back. -/
inductive ReaderReply
  | read (outcome : Except ConsumerError Nat) (buffer : List UInt8)
  | byte (outcome : Except ConsumerError (Option UInt8))
  | sought (outcome : Except ConsumerError Nat)
  | number (n : Nat)
  | done

/-- What a reader was asked, whether its source failed it, and what it answered. -/
structure ReaderTurn where
  call : ReaderCall
  failed : Bool
  reply : ReaderReply

namespace ReaderCall

/-- Places that are told outright are below the limit of positions. -/
def InRange : ReaderCall -> Prop
  | seek (.start place) => place < Reader.positionLimit
  | _ => True

def Reads : ReaderCall -> Prop
  | read _ => True
  | readByte => True
  | _ => False

instance : DecidablePred InRange
  | seek (.start place) => inferInstanceAs (Decidable (place < Reader.positionLimit))
  | seek (.fromEnd _) | seek (.current _) => isTrue trivial
  | read _ | readByte | skip _ | setMark | reset | position | available => isTrue trivial

instance : DecidablePred Reads
  | read _ | readByte => isTrue trivial
  | skip _ | seek _ | setMark | reset | position | available => isFalse id

end ReaderCall

def ReaderReply.delivered : ReaderReply -> List UInt8
  | read (.ok n) buffer => buffer.take n
  | byte (.ok (some value)) => [value]
  | _ => []

namespace Reader

/-!
## Plain cursors
-/

/-- Where a seek is aimed at, which can be anywhere. -/
def aim (reader : Reader) (size : Nat) : SeekTarget -> Int
  | .start position => position
  | .fromEnd distance => size + distance
  | .current distance => reader.position + distance

/-- What a plain cursor over some bytes does and answers. -/
inductive CursorStep (window : List UInt8) (reader : Reader) :
    ReaderTurn -> Reader -> Prop where
  | read (buffer buffer' : List UInt8) (n : Nat) :
      n ≤ min buffer.length (window.length - reader.position) ->
      (n = 0 <-> buffer = [] ∨ window.length ≤ reader.position) ->
      buffer'.take n = (window.drop reader.position).take n ->
      CursorStep window reader ⟨.read buffer, false, .read (.ok n) buffer'⟩
        { reader with position := reader.position + n }
  | readFailed (buffer buffer' : List UInt8) (error : ConsumerError) :
      buffer ≠ [] -> reader.position < window.length ->
      CursorStep window reader ⟨.read buffer, true, .read (.error error) buffer'⟩ reader
  | readByte (byte : UInt8) :
      window[reader.position]? = some byte ->
      CursorStep window reader ⟨.readByte, false, .byte (.ok (some byte))⟩
        { reader with position := reader.position + 1 }
  | readByteEnded :
      window.length ≤ reader.position ->
      CursorStep window reader ⟨.readByte, false, .byte (.ok none)⟩ reader
  | readByteFailed (error : ConsumerError) :
      reader.position < window.length ->
      CursorStep window reader ⟨.readByte, true, .byte (.error error)⟩ reader
  | skip (n : Nat) :
      CursorStep window reader
        ⟨.skip n, false, .number (min n (window.length - reader.position))⟩
        { reader with position := reader.position + min n (window.length - reader.position) }
  | seek (target : SeekTarget) (place : Nat) :
      reader.aim window.length target = place -> place < positionLimit ->
      CursorStep window reader ⟨.seek target, false, .sought (.ok place)⟩
        { reader with position := place }
  | seekRefused (target : SeekTarget) (error : ConsumerError) :
      reader.aim window.length target < 0 ∨ positionLimit ≤ reader.aim window.length target ->
      error.kind = .invalidInput ->
      CursorStep window reader ⟨.seek target, false, .sought (.error error)⟩ reader
  | setMark :
      CursorStep window reader ⟨.setMark, false, .done⟩
        { reader with mark := reader.position }
  | reset :
      CursorStep window reader ⟨.reset, false, .done⟩
        { reader with position := reader.mark }
  | position :
      CursorStep window reader ⟨.position, false, .number reader.position⟩ reader
  | available :
      CursorStep window reader
        ⟨.available, false, .number (window.length - reader.position)⟩ reader

/-- What a plain cursor does when it is asked one thing after the other. -/
inductive CursorRun (window : List UInt8) : Reader -> List ReaderTurn -> Reader -> Prop where
  | nil (reader : Reader) : CursorRun window reader [] reader
  | cons {reader next last : Reader} {turn : ReaderTurn} {rest : List ReaderTurn} :
      CursorStep window reader turn next -> CursorRun window next rest last ->
      CursorRun window reader (turn :: rest) last

def deliveredIn (turns : List ReaderTurn) : List UInt8 :=
  turns.flatMap fun turn => turn.reply.delivered

variable {window : List UInt8} {reader next last : Reader} {turn : ReaderTurn}
  {turns : List ReaderTurn}

/-- A step that reads goes forward by what it delivers, and delivers what it goes past. -/
theorem CursorStep.delivered_eq (hstep : CursorStep window reader turn next)
    (hreads : turn.call.Reads) :
    exists n, next.position = reader.position + n ∧
      turn.reply.delivered = (window.drop reader.position).take n := by
  cases hstep with
  | read buffer buffer' n _ _ hbytes => exact ⟨n, rfl, hbytes⟩
  | readFailed _ _ _ _ _ => exact ⟨0, rfl, rfl⟩
  | readByte byte hbyte =>
      refine ⟨1, rfl, ?_⟩
      rw [List.take_one, List.head?_drop, hbyte]
      rfl
  | readByteEnded _ => exact ⟨0, rfl, rfl⟩
  | readByteFailed _ _ => exact ⟨0, rfl, rfl⟩
  | skip _ | seek _ _ _ _ | seekRefused _ _ _ _ | setMark | reset | position | available =>
      exact hreads.elim

/-- No byte is lost and none is read twice. -/
theorem CursorRun.delivered_eq (hrun : CursorRun window reader turns last)
    (hreads : forall turn, turn ∈ turns -> turn.call.Reads) :
    exists n, last.position = reader.position + n ∧
      deliveredIn turns = (window.drop reader.position).take n := by
  induction hrun with
  | nil reader => exact ⟨0, rfl, rfl⟩
  | @cons reader next last turn rest hstep hrest ih =>
      rcases hstep.delivered_eq (hreads turn List.mem_cons_self) with ⟨n, hnext, hfirst⟩
      rcases ih fun other hother => hreads other (List.mem_cons_of_mem _ hother) with
        ⟨m, hlast, hothers⟩
      refine ⟨n + m, by rw [hlast, hnext, Nat.add_assoc], ?_⟩
      have hcons : deliveredIn (turn :: rest) =
          turn.reply.delivered ++ deliveredIn rest := rfl
      rw [hcons, hfirst, hothers, hnext, List.take_add, List.drop_drop]

/-- Position and mark of a cursor stay below the limit of positions. -/
def BelowLimit (reader : Reader) : Prop :=
  reader.position < positionLimit ∧ reader.mark < positionLimit

theorem CursorStep.belowLimit (hstep : CursorStep window reader turn next)
    (hwindow : window.length < positionLimit) (hbelow : reader.BelowLimit) :
    next.BelowLimit := by
  rcases hbelow with ⟨hposition, hmark⟩
  cases hstep with
  | read buffer buffer' n hle _ _ =>
      refine ⟨?_, hmark⟩
      show reader.position + n < positionLimit
      omega
  | readFailed _ _ _ _ _ => exact ⟨hposition, hmark⟩
  | readByte byte hbyte =>
      have hinside := (List.getElem?_eq_some_iff.mp hbyte).1
      exact ⟨Nat.lt_of_le_of_lt hinside hwindow, hmark⟩
  | readByteEnded _ => exact ⟨hposition, hmark⟩
  | readByteFailed _ _ => exact ⟨hposition, hmark⟩
  | skip n =>
      refine ⟨?_, hmark⟩
      show reader.position + min n (window.length - reader.position) < positionLimit
      omega
  | seek target place _ hplace => exact ⟨hplace, hmark⟩
  | seekRefused _ _ _ _ => exact ⟨hposition, hmark⟩
  | setMark => exact ⟨hposition, hposition⟩
  | reset => exact ⟨hmark, hmark⟩
  | position => exact ⟨hposition, hmark⟩
  | available => exact ⟨hposition, hmark⟩

theorem CursorRun.belowLimit (hrun : CursorRun window reader turns last)
    (hwindow : window.length < positionLimit) (hbelow : reader.BelowLimit) :
    last.BelowLimit := by
  induction hrun with
  | nil reader => exact hbelow
  | cons hstep _ ih => exact ih (hstep.belowLimit hwindow hbelow)

/-!
## Readers at work
-/

section Readers

variable {σ : Type} [Source σ] {view : View} {data : Array UInt8} {fit : σ -> Host -> Prop}
  {s : σ} {host : Host} {buffer : List UInt8}

def perform (reader : Reader) (view : View) (s : σ) (host : Host) :
    ReaderCall -> ReaderReply × Reader × σ × Host
  | .read buffer =>
      let attempt := reader.read view s host buffer
      (.read attempt.1.outcome attempt.2, attempt.1.reader, attempt.1.source, attempt.1.host)
  | .readByte =>
      let consumed := reader.readByte view s host
      (.byte consumed.outcome, consumed.reader, consumed.source, consumed.host)
  | .skip n =>
      let skipped := reader.skip view n
      (.number skipped.1, skipped.2, s, host)
  | .seek target =>
      let sought := reader.seek view target
      (.sought sought.1, sought.2, s, host)
  | .setMark => (.done, reader.setMark, s, host)
  | .reset => (.done, reader.reset, s, host)
  | .position => (.number reader.position, reader, s, host)
  | .available => (.number (reader.available view), reader, s, host)

/-- Whether a source delivered anything. -/
def delivers {α : Type} : Except Error (Option α) -> Bool
  | .ok (some _) => true
  | _ => false

/-- Whether a reader that is asked for bytes asks its source in vain. -/
def sourceFails (reader : Reader) (view : View) (s : σ) (host : Host) : ReaderCall -> Bool
  | .read buffer =>
      reader.askedLength view buffer ≠ 0 &&
        !delivers (reader.answer view s host buffer).outcome
  | .readByte =>
      reader.position < view.size &&
        !delivers (Source.readByteAt s host (view.offset + reader.position)).1
  | _ => false

def performAll (reader : Reader) (view : View) (s : σ) (host : Host) :
    List ReaderCall -> List ReaderTurn × Reader × σ × Host
  | [] => ([], reader, s, host)
  | call :: rest =>
      let failed := reader.sourceFails view s host call
      let asked := reader.perform view s host call
      let others := performAll asked.2.1 view asked.2.2.1 asked.2.2.2 rest
      ({ call, failed, reply := asked.1 } :: others.1, others.2)

/-- A reader that is asked does what a plain cursor does, and its source stays fit. -/
structure Follows (window : List UInt8) (fit : σ -> Host -> Prop) (reader : Reader)
    (call : ReaderCall) (failed : Bool) (asked : ReaderReply × Reader × σ × Host) :
    Prop where
  step : CursorStep window reader { call, failed, reply := asked.1 } asked.2.1
  fit : fit asked.2.2.1 asked.2.2.2

theorem sourceFails_read (hasked : reader.askedLength view buffer ≠ 0) :
    reader.sourceFails view s host (.read buffer) =
      !delivers (reader.answer view s host buffer).outcome := by
  unfold sourceFails
  dsimp only
  rw [decide_eq_true hasked, Bool.true_and]

theorem sourceFails_readByte (hposition : reader.position < view.size) :
    reader.sourceFails view s host .readByte =
      !delivers (Source.readByteAt s host (view.offset + reader.position)).1 := by
  unfold sourceFails
  dsimp only
  rw [decide_eq_true hposition, Bool.true_and]

/-- Who asks for bytes asks for some, and for none past the end of the view. -/
theorem askedPiece (reader : Reader) (hasked : reader.askedLength view buffer ≠ 0) :
    buffer.take (reader.askedLength view buffer) ≠ [] ∧
      (buffer.take (reader.askedLength view buffer)).length = reader.askedLength view buffer ∧
      reader.position + reader.askedLength view buffer ≤ view.size := by
  have hlength : (buffer.take (reader.askedLength view buffer)).length =
      reader.askedLength view buffer := List.length_take_of_le (Nat.min_le_left _ _)
  refine ⟨?_, hlength, ?_⟩
  · apply List.ne_nil_of_length_pos
    rw [hlength]
    exact Nat.pos_of_ne_zero hasked
  · unfold askedLength available at hasked ⊢
    omega

theorem read_follows_asked (sound : SoundSources data fit) (hopen : view.closed = false)
    (hinside : view.offset + view.size ≤ data.size) (hfit : fit s host)
    (hasked : reader.askedLength view buffer ≠ 0) :
    Follows (view.window data) fit reader (.read buffer)
      (reader.sourceFails view s host (.read buffer))
      (reader.perform view s host (.read buffer)) := by
  have hsize := View.length_window hinside
  rcases askedPiece reader hasked with ⟨hpiece, hlength, hwithin⟩
  have hanswer : SoundReading data fit (view.offset + reader.position)
      (buffer.take (reader.askedLength view buffer))
      (reader.answer view s host buffer) := by
    apply sound.read _ hfit hpiece
    rw [hlength]
    omega
  have hbuffer : buffer ≠ [] := by
    intro hnil
    rw [hnil, List.take_nil] at hpiece
    exact hpiece rfl
  have hbefore : reader.position < (view.window data).length := by
    rw [hsize]
    exact Nat.lt_of_lt_of_le (Nat.lt_add_of_pos_right (Nat.pos_of_ne_zero hasked)) hwithin
  rw [sourceFails_read hasked]
  unfold perform
  dsimp only
  rw [read_asked hopen hasked]
  dsimp only
  cases houtcome : (reader.answer view s host buffer).outcome with
  | error error => exact ⟨.readFailed _ _ _ hbuffer hbefore, hanswer.fit⟩
  | ok delivered =>
      cases delivered with
      | none => exact ⟨.readFailed _ _ _ hbuffer hbefore, hanswer.fit⟩
      | some n =>
          rcases hanswer.bytes houtcome with ⟨hpos, hle, hbytes⟩
          rw [hlength] at hle
          rw [View.slice_window (by omega)] at hbytes
          refine ⟨.read buffer _ n ?_ ?_ ?_, hanswer.fit⟩
          · rw [hsize]
            exact hle
          · refine iff_of_false (Nat.ne_of_gt hpos) ?_
            intro hended
            rcases hended with hnil | hend
            · exact hbuffer hnil
            · exact absurd hbefore (Nat.not_lt_of_le hend)
          · have hshort : n ≤ (reader.answer view s host buffer).buffer.length := by
              have hcount := congrArg List.length hbytes
              rw [List.length_take, List.length_take, List.length_drop] at hcount
              omega
            rw [List.take_append_of_le_length hshort]
            exact hbytes

theorem read_follows (sound : SoundSources data fit) (hopen : view.closed = false)
    (hinside : view.offset + view.size ≤ data.size) (hfit : fit s host) (reader : Reader)
    (buffer : List UInt8) :
    Follows (view.window data) fit reader (.read buffer)
      (reader.sourceFails view s host (.read buffer))
      (reader.perform view s host (.read buffer)) := by
  by_cases hasked : reader.askedLength view buffer = 0
  · unfold sourceFails perform
    dsimp only
    rw [decide_eq_false (not_not_intro hasked), Bool.false_and]
    rw [read_unasked hasked]
    refine ⟨.read buffer buffer 0 (Nat.zero_le _) ?_ rfl, hfit⟩
    rw [View.length_window hinside]
    refine iff_of_true rfl ?_
    by_cases hbuffer : buffer = []
    · exact .inl hbuffer
    · exact .inr ((askedLength_eq_zero reader view hbuffer).mp hasked)
  · exact read_follows_asked sound hopen hinside hfit hasked

theorem readByte_follows (sound : SoundSources data fit) (hopen : view.closed = false)
    (hinside : view.offset + view.size ≤ data.size) (hfit : fit s host) (reader : Reader) :
    Follows (view.window data) fit reader .readByte
      (reader.sourceFails view s host .readByte)
      (reader.perform view s host .readByte) := by
  have hsize := View.length_window hinside
  by_cases hend : view.size ≤ reader.position
  · unfold sourceFails perform readByte View.readByteAt
    dsimp only
    rw [hopen, if_pos hend, decide_eq_false (Nat.not_lt_of_le hend), Bool.false_and]
    refine ⟨.readByteEnded ?_, hfit⟩
    rw [hsize]
    exact hend
  · have hposition := Nat.lt_of_not_le hend
    rw [sourceFails_readByte hposition]
    unfold perform readByte View.readByteAt
    rw [hopen, if_neg hend]
    have hbefore : reader.position < (view.window data).length := by
      rw [hsize]
      exact hposition
    rcases sound.byte (view.offset + reader.position) hfit (by omega) with ⟨hfit', hbyte⟩
    cases hread : Source.readByteAt s host (view.offset + reader.position) with
    | mk outcome left =>
        rw [hread] at hfit' hbyte
        cases outcome with
        | error error => exact ⟨.readByteFailed _ hbefore, hfit'⟩
        | ok delivered =>
            cases delivered with
            | none => exact ⟨.readByteFailed _ hbefore, hfit'⟩
            | some byte =>
                have hwindow := hbyte byte rfl
                rw [View.getElem?_window hposition] at hwindow
                exact ⟨.readByte byte hwindow, hfit'⟩

theorem seek_follows (hsize : view.size = window.length) {target : SeekTarget}
    (hrange : (ReaderCall.seek target).InRange) (reader : Reader) :
    CursorStep window reader ⟨.seek target, false, .sought (reader.seek view target).1⟩
      (reader.seek view target).2 := by
  -- From the end and from here the same place is computed and checked.
  have hgoTo (base : Nat) (distance : Int)
      (haim : reader.aim window.length target = base + distance)
      (hseek : reader.seek view target =
        if 0 ≤ (base + distance : Int) ∧ (base + distance : Int) < positionLimit then
          (.ok (base + distance : Int).toNat,
            { reader with position := (base + distance : Int).toNat })
        else (.error (.plain invalidSeek), reader)) :
      CursorStep window reader ⟨.seek target, false, .sought (reader.seek view target).1⟩
        (reader.seek view target).2 := by
    rw [hseek]
    by_cases hplace : 0 ≤ (base + distance : Int) ∧ (base + distance : Int) < positionLimit
    · rw [if_pos hplace]
      have hexact := Int.toNat_of_nonneg hplace.1
      refine .seek target _ (haim.trans hexact.symm) ?_
      omega
    · rw [if_neg hplace]
      refine .seekRefused target _ ?_ rfl
      rw [haim]
      omega
  cases target with
  | start place => exact .seek _ place rfl hrange
  | fromEnd distance =>
      refine hgoTo view.size distance ?_ rfl
      rw [hsize]
      rfl
  | current distance => exact hgoTo reader.position distance rfl rfl

/-- Whatever a reader of a sound source is asked, it does what a plain cursor does. -/
theorem follows_perform (sound : SoundSources data fit) (hopen : view.closed = false)
    (hinside : view.offset + view.size ≤ data.size) (hfit : fit s host) (reader : Reader)
    {call : ReaderCall} (hrange : call.InRange) :
    Follows (view.window data) fit reader call (reader.sourceFails view s host call)
      (reader.perform view s host call) := by
  have hsize := (View.length_window hinside).symm
  cases call with
  | read buffer => exact read_follows sound hopen hinside hfit reader buffer
  | readByte => exact readByte_follows sound hopen hinside hfit reader
  | skip n =>
      refine ⟨?_, hfit⟩
      unfold perform skip available
      rw [hsize]
      exact .skip n
  | seek target => exact ⟨seek_follows hsize hrange reader, hfit⟩
  | setMark => exact ⟨.setMark, hfit⟩
  | reset => exact ⟨.reset, hfit⟩
  | position => exact ⟨.position, hfit⟩
  | available =>
      refine ⟨?_, hfit⟩
      unfold perform available
      rw [hsize]
      exact .available

theorem cursorRun_performAll_from (sound : SoundSources data fit)
    (hopen : view.closed = false) (hinside : view.offset + view.size ≤ data.size)
    (hfit : fit s host) (reader : Reader) {calls : List ReaderCall}
    (hrange : forall call, call ∈ calls -> call.InRange) :
    let asked := reader.performAll view s host calls
    asked.1.map ReaderTurn.call = calls ∧
      CursorRun (view.window data) reader asked.1 asked.2.1 := by
  induction calls generalizing reader s host with
  | nil => exact ⟨rfl, .nil reader⟩
  | cons call rest ih =>
      have hstep := follows_perform sound hopen hinside hfit reader
        (hrange call List.mem_cons_self)
      have hrest := ih hstep.fit (reader.perform view s host call).2.1
        fun later hlater => hrange later (List.mem_cons_of_mem _ hlater)
      exact ⟨congrArg (call :: ·) hrest.1, .cons hstep.step hrest.2⟩

/-- A new reader of an open view does what a plain cursor over the window does, whatever it
is asked and whatever fails.  It stays below the limit of positions; and if it is only asked
to read, it has delivered the window up to where it stands. -/
theorem cursorRun_performAll (sound : SoundSources data fit) (hopen : view.closed = false)
    (hinside : view.offset + view.size ≤ data.size) (hsize : view.size < positionLimit)
    (hfit : fit s host) {calls : List ReaderCall}
    (hrange : forall call, call ∈ calls -> call.InRange) :
    let asked := ({} : Reader).performAll view s host calls
    asked.1.map ReaderTurn.call = calls ∧
      CursorRun (view.window data) {} asked.1 asked.2.1 ∧
      asked.2.1.BelowLimit ∧
      ((forall call, call ∈ calls -> call.Reads) ->
        deliveredIn asked.1 = (view.window data).take asked.2.1.position) := by
  intro asked
  rcases cursorRun_performAll_from sound hopen hinside hfit {} hrange with ⟨hcalls, hrun⟩
  refine ⟨hcalls, hrun, ?_, ?_⟩
  · refine hrun.belowLimit ?_ ⟨by decide, by decide⟩
    rw [View.length_window hinside]
    exact hsize
  · intro hreads
    have hturns : forall turn, turn ∈ asked.1 -> turn.call.Reads := by
      intro turn hturn
      apply hreads
      rw [← hcalls]
      exact List.mem_map_of_mem hturn
    rcases hrun.delivered_eq hturns with ⟨n, hlast, hbytes⟩
    have hposition : asked.2.1.position = n := hlast.trans (Nat.zero_add n)
    rw [hposition]
    exact hbytes

/-!
### A pool that fails on the way
-/

open Scripted Pool

/-- A pool of readers of six bytes.  The first reader fails behind its fourth byte, and the
second one cannot be opened. -/
def faultyPool : Pool (NumberingFactory (Discarding NumberedReader))
    (Discarding NumberedReader) :=
  { factory := faultyReaders, size := 6, capacity := 1 }

def innerView : View :=
  { offset := 1, size := 4 }

def retriedReads : List ReaderCall :=
  [.read [0, 0, 0], .read [0, 0], .readByte, .readByte, .read [0, 0], .readByte]

theorem cursorRun_performAll_faultyPool :
    let asked := ({} : Reader).performAll innerView faultyPool {} retriedReads
    CursorRun [20, 30, 40, 50] {} asked.1 asked.2.1 ∧
      deliveredIn asked.1 = [20, 30, 40, 50].take asked.2.1.position := by
  have sound := Pool.sound (NumberedReader.honestReaders _).discarding
    (NumberingFactory.opensAtFront #[10, 20, 30, 40, 50, 60])
  have haligned : Aligned (NumberingFactory.AtFront #[10, 20, 30, 40, 50, 60]) (fun _ => True)
      (fun stream => NumberedReader.StandsAt #[10, 20, 30, 40, 50, 60] stream.reader)
      faultyPool {} :=
    { trusted := faultyReaders_atFront
      calm := trivial
      ordered := List.Pairwise.nil
      stands := fun entry hentry => by cases hentry }
  have hrange : forall call, call ∈ retriedReads -> call.InRange := by decide
  have hreads : forall call, call ∈ retriedReads -> call.Reads := by decide
  have hopen : innerView.closed = false := rfl
  rcases cursorRun_performAll sound hopen (by decide) (by decide) haligned hrange with
    ⟨_, hrun, _, hdelivered⟩
  exact ⟨hrun, hdelivered hreads⟩

example :
    let asked := ({} : Reader).performAll innerView faultyPool {} retriedReads
    (asked.1.map fun turn => turn.reply.delivered) = [[20, 30], [40], [], [], [50], []] ∧
      (asked.1.map fun turn => turn.failed) = [false, false, true, true, false, false] ∧
      asked.2.1.position = 4 := by
  cbv

end Readers

end Reader
end ByteWindow
