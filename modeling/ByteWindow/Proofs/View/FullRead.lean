import ByteWindow.Proofs.Idling
import ByteWindow.Proofs.Source.Deliveries
import ByteWindow.Proofs.View.Confinement
import ByteWindow.Scripted.Source

/-!
# Full reads are exact or fail

A full read hands its source the rest of the buffer until the answers of the source settle
how it ends.  The loop counts the empty pieces in a row and starts to count anew with each
byte that arrives; so what it counts are the empty pieces at the end of the answers it got
so far.  It therefore stops at the very answer that settles the read, and reports what was
settled: all bytes, the position behind the last byte that arrived, or the failure of the
source.  It never reports fewer bytes than were asked for.
-/

namespace ByteWindow
namespace View

open Delivery

variable {σ : Type} [Source σ]

/-!
## The loop
-/

/-- A full read of `length` bytes that started at `start`, after some answers: they left the
read open, their bytes are done and the others have room, and `idle` empty pieces stand at
their end. -/
structure Filling (view : View) (start length : Nat) (answers : List Delivery)
    (done rest : List UInt8) (position remaining idle : Nat) : Prop where
  leftOpen : LeftOpen length answers
  done_eq : done.reverse = bytesOf answers
  position_eq : position = start + (bytesOf answers).length
  length_eq : (bytesOf answers).length + remaining = length
  room : Room view rest position remaining
  idle_lt : idle < maxIdleReads
  idle_suffix : List.replicate idle (.piece []) <:+ answers
  idle_most : ¬ List.replicate (idle + 1) (.piece []) <:+ answers

namespace Filling

variable {view : View} {start length : Nat} {answers : List Delivery}
variable {done rest : List UInt8} {position remaining idle : Nat}

theorem start_of_room {buffer : List UInt8} (hroom : Room view buffer start length)
    (hlength : length ≠ 0) : Filling view start length [] [] buffer start length 0 where
  leftOpen := by
    constructor
    · intro answer hanswer
      cases hanswer
    · exact Nat.pos_of_ne_zero hlength
    · intro hidle
      cases List.infix_nil.mp hidle
  done_eq := rfl
  position_eq := rfl
  length_eq := Nat.zero_add length
  room := hroom
  idle_lt := by decide
  idle_suffix := List.nil_suffix
  idle_most := by
    intro hidle
    cases List.suffix_nil.mp hidle

/-- One more piece leaves the read open if bytes are still missing and if it is not the
last of too many empty ones. -/
theorem leftOpen_concat (filling : Filling view start length answers done rest position
    remaining idle) {piece : List UInt8} (hshort : piece.length < remaining)
    (hlively : ¬ List.replicate maxIdleReads (.piece []) <:+ answers ++ [.piece piece]) :
    LeftOpen length (answers ++ [.piece piece]) where
  pieces := by
    intro answer hanswer
    rcases List.mem_append.mp hanswer with hearlier | hlast
    · exact filling.leftOpen.pieces answer hearlier
    · exact ⟨piece, List.mem_singleton.mp hlast⟩
  short := by
    rw [bytesOf_append, bytesOf_piece, List.length_append, ← filling.length_eq]
    exact Nat.add_lt_add_left hshort _
  lively := by
    intro hidle
    rcases List.infix_concat_iff.mp hidle with hlast | hearlier
    · exact hlively hlast
    · exact filling.leftOpen.lively hearlier

/-- The empty pieces at the end of the answers, when one more piece arrives. -/
theorem replicate_suffix_concat {n : Nat} {answers : List Delivery} {piece : List UInt8} :
    List.replicate (n + 1) (.piece []) <:+ answers ++ [.piece piece] <->
      piece = [] ∧ List.replicate n (.piece []) <:+ answers := by
  rw [replicate_suffix_concat_iff, Delivery.piece.injEq]

/-- An empty piece is counted. -/
theorem emptyPiece (filling : Filling view start length answers done rest position
    remaining idle) (hremaining : remaining ≠ 0) (hmore : idle + 1 < maxIdleReads)
    {rest' : List UInt8} (hroom : Room view rest' position remaining) :
    Filling view start length (answers ++ [.piece []]) done rest' position remaining
      (idle + 1) where
  leftOpen := by
    apply filling.leftOpen_concat
    · exact Nat.pos_of_ne_zero hremaining
    · intro hidle
      -- Too many at the end now would have been more than were counted before.
      apply filling.idle_most
      refine List.IsSuffix.trans ?_ (replicate_suffix_concat.mp hidle).2
      apply List.suffix_replicate_iff.mpr
      rw [List.length_replicate]
      exact ⟨Nat.le_of_lt_succ hmore, rfl⟩
  done_eq := by
    rw [bytesOf_append, bytesOf_piece, List.append_nil]
    exact filling.done_eq
  position_eq := by
    rw [bytesOf_append, bytesOf_piece, List.append_nil]
    exact filling.position_eq
  length_eq := by
    rw [bytesOf_append, bytesOf_piece, List.append_nil]
    exact filling.length_eq
  room := hroom
  idle_lt := hmore
  idle_suffix := replicate_suffix_concat.mpr ⟨rfl, filling.idle_suffix⟩
  idle_most := by
    intro hidle
    exact filling.idle_most (replicate_suffix_concat.mp hidle).2

/-- A piece that is not empty starts the count anew. -/
theorem morePiece (filling : Filling view start length answers done rest position
    remaining idle) {piece rest' : List UInt8} (hpiece : piece ≠ [])
    (hshort : piece.length < remaining)
    (hroom : Room view rest' (position + piece.length) (remaining - piece.length)) :
    Filling view start length (answers ++ [.piece piece]) (piece.reverseAux done) rest'
      (position + piece.length) (remaining - piece.length) 0 := by
  have hlast (n : Nat) :
      ¬ List.replicate (n + 1) (.piece []) <:+ answers ++ [.piece piece] := by
    intro hidle
    exact hpiece (replicate_suffix_concat.mp hidle).1
  have hcount : (bytesOf (answers ++ [.piece piece])).length =
      (bytesOf answers).length + piece.length := by
    rw [bytesOf_append, bytesOf_piece, List.length_append]
  constructor
  · exact filling.leftOpen_concat hshort (hlast 2)
  · rw [List.reverseAux_eq, List.reverse_append, List.reverse_reverse, filling.done_eq,
      bytesOf_append, bytesOf_piece]
  · rw [hcount, filling.position_eq, Nat.add_assoc]
  · rw [hcount, Nat.add_assoc, Nat.add_sub_cancel' (Nat.le_of_lt hshort)]
    exact filling.length_eq
  · exact hroom
  · decide
  · exact List.nil_suffix
  · exact hlast 0

end Filling

/-- The loop ends with the answer that settles the read, and reports it. -/
theorem fillRemaining_settles (hfits : FitsBuffers σ) (mode : Mode) (view : View) (s : σ)
    (host : Host) (start length : Nat) (answers : List Delivery) (done rest : List UInt8)
    (position remaining idle : Nat) (hremaining : remaining ≠ 0)
    (filling : Filling view start length answers done rest position remaining idle) :
    exists k verdict,
      Settles length
        (answers ++ Delivery.answers mode s host (view.offset + position) rest k) verdict ∧
      let reading := view.fillRemaining mode s host done rest position remaining idle
      (reading.outcome.map fun _ => reading.buffer) = verdict.report view start := by
  fun_induction View.fillRemaining mode view s host done rest position remaining idle
    generalizing answers with
  | case1 => exact absurd rfl hremaining
  | case2 s host done rest position remaining idle _ reading error houtcome =>
      refine ⟨1, .failed error, ?_, rfl⟩
      have hanswer : ofReading reading = .failed error := by
        unfold ofReading
        rw [houtcome]
      simp only [Delivery.answers]
      rw [hanswer]
      exact .failed filling.leftOpen
  | case3 s host done rest position remaining idle _ reading houtcome =>
      refine ⟨1, .early (bytesOf answers).length, ?_, ?_⟩
      · have hanswer : ofReading reading = .ended := by
          unfold ofReading
          rw [houtcome]
        simp only [Delivery.answers]
        rw [hanswer]
        exact .ended filling.leftOpen
      · simp only [filling.position_eq]
        rfl
  | case4 s host done rest position remaining idle _ reading houtcome hmore ih =>
      have hanswer : ofReading reading = .piece [] := by
        unfold ofReading
        rw [houtcome]
        rfl
      have hroom := (filling.room.advance hfits houtcome).2
      rcases ih _ hremaining (filling.emptyPiece hremaining hmore hroom) with
        ⟨k, verdict, hsettles, hreport⟩
      refine ⟨k + 1, verdict, ?_, hreport⟩
      rw [List.append_assoc] at hsettles
      simp only [Delivery.answers]
      rw [hanswer]
      exact hsettles
  | case5 s host done rest position remaining idle _ reading houtcome hmore =>
      have hanswer : ofReading reading = .piece [] := by
        unfold ofReading
        rw [houtcome]
        rfl
      have hidle : idle + 1 = maxIdleReads :=
        Nat.le_antisymm filling.idle_lt (Nat.le_of_not_lt hmore)
      refine ⟨1, .early (bytesOf answers).length, ?_, ?_⟩
      · simp only [Delivery.answers]
        rw [hanswer]
        apply Settles.idle filling.leftOpen
        rw [← hidle]
        exact Filling.replicate_suffix_concat.mpr ⟨rfl, filling.idle_suffix⟩
      · simp only [filling.position_eq]
        rfl
  | case6 s host done rest position remaining idle _ reading n houtcome ih =>
      rcases filling.room.advance hfits houtcome with ⟨hcount, hroom⟩
      have hlength : (reading.buffer.take (n + 1)).length = n + 1 := by
        apply List.length_take_of_le
        rw [hfits.length, filling.room.length_eq]
        exact hcount
      have hanswer : ofReading reading = .piece (reading.buffer.take (n + 1)) := by
        unfold ofReading
        rw [houtcome]
      rcases Nat.lt_or_eq_of_le (show n + 1 ≤ remaining from hcount) with hmissing | hall
      · have hpiece : reading.buffer.take (n + 1) ≠ [] :=
          List.ne_nil_of_length_eq_add_one hlength
        have hfilling := filling.morePiece hpiece (by rw [hlength]; exact hmissing)
          (by rw [hlength]; exact hroom)
        rw [hlength] at hfilling
        rcases ih _ (Nat.sub_ne_zero_of_lt hmissing) hfilling with
          ⟨k, verdict, hsettles, hreport⟩
        refine ⟨k + 1, verdict, ?_, hreport⟩
        rw [List.append_assoc] at hsettles
        simp only [Delivery.answers]
        rw [hanswer, bytes, hlength, Nat.add_assoc]
        exact hsettles
      · -- The last byte has arrived, and the next turn of the loop is the last one.
        have hnone : reading.buffer.drop (n + 1) = [] := by
          apply List.eq_nil_of_length_eq_zero
          rw [hroom.length_eq]
          exact Nat.sub_eq_zero_of_le (Nat.le_of_eq hall.symm)
        refine ⟨1, .full (bytesOf (answers ++ [.piece (reading.buffer.take (n + 1))])),
          ?_, ?_⟩
        · simp only [Delivery.answers]
          rw [hanswer]
          apply Settles.full filling.leftOpen
          rw [bytesOf_append, bytesOf_piece, List.length_append, hlength, hall]
          exact filling.length_eq
        · rw [hall, Nat.sub_self, fillRemaining, if_pos rfl, ← hall, hnone]
          have hbytes := filling.done_eq
          simp only [Except.map, Verdict.report, List.reverseAux_eq, List.append_nil,
            List.reverse_append, List.reverse_reverse, hbytes, bytesOf_append, bytesOf_piece]

theorem fill_followsAnswers (hfits : FitsBuffers σ) (mode : Mode) (view : View) (s : σ)
    (host : Host) (position : Nat) (buffer : List UInt8) (hbuffer : buffer.length ≠ 0)
    (hinside : position + buffer.length ≤ view.size) :
    FollowsAnswers view position buffer.length
      (Delivery.answers mode s host (view.offset + position) buffer)
      ((view.fill mode s host position buffer).outcome.map fun _ =>
        (view.fill mode s host position buffer).buffer) := by
  have hfilling := Filling.start_of_room ⟨rfl, hinside⟩ hbuffer
  rcases fillRemaining_settles hfits mode view s host position buffer.length [] [] buffer
    position buffer.length 0 hbuffer hfilling with ⟨k, verdict, hsettles, hreport⟩
  unfold fill
  rw [hreport]
  exact hsettles.followsAnswers (fun hle => answers_isPrefix mode s host _ buffer hle)

theorem length_fillRemaining {kept : σ -> Host -> Prop} (within : WritesWithin σ kept)
    (mode : Mode) (view : View) {s : σ} {host : Host} (hkept : kept s host)
    (done rest : List UInt8) (position remaining idle : Nat) :
    (view.fillRemaining mode s host done rest position remaining idle).buffer.length =
      done.length + rest.length := by
  have hlength (done piece : List UInt8) :
      (done.reverseAux piece).length = done.length + piece.length := by
    rw [List.reverseAux_eq, List.length_append, List.length_reverse]
  fun_induction View.fillRemaining mode view s host done rest position remaining idle with
  | case1 => exact hlength _ _
  | case2 => exact (hlength _ _).trans (congrArg _ (within.length _ _ _ hkept))
  | case3 => exact (hlength _ _).trans (congrArg _ (within.length _ _ _ hkept))
  | case4 s host done rest position remaining idle _ reading _ _ ih =>
      exact (ih (within.keeps _ _ _ hkept)).trans (congrArg _ (within.length _ _ _ hkept))
  | case5 => exact (hlength _ _).trans (congrArg _ (within.length _ _ _ hkept))
  | case6 s host done rest position remaining idle _ reading n _ ih =>
      -- What was taken off the front of the rest now stands in `done`.
      rw [ih (within.keeps _ _ _ hkept), hlength, Nat.add_right_comm, ← List.length_append,
        List.take_append_drop, Nat.add_comm]
      exact congrArg _ (within.length _ _ _ hkept)

theorem length_fill {kept : σ -> Host -> Prop} (within : WritesWithin σ kept) (mode : Mode)
    (view : View) {s : σ} {host : Host} (hkept : kept s host) (position : Nat)
    (buffer : List UInt8) :
    (view.fill mode s host position buffer).buffer.length = buffer.length :=
  (length_fillRemaining within mode view hkept [] buffer position buffer.length 0).trans
    (Nat.zero_add _)

theorem fill_nil (mode : Mode) (view : View) (s : σ) (host : Host) (position : Nat) :
    view.fill mode s host position [] =
      { outcome := .ok (), buffer := [], source := s, host } := by
  unfold fill fillRemaining
  rw [List.length_nil, if_pos rfl]
  rfl

/-!
## Full reads of a view
-/

/-- A full read into a buffer from `offset` on.  The bounds are checked in order; a read
within them follows the answers of the source, and only the bytes that were asked for
change. -/
structure ReadsExactly (mode : Mode) (view : View) (s : σ) (host : Host)
    (buffer : List UInt8) (position offset max : Nat) : Prop where
  misfit : buffer.length < offset ->
    view.readFully mode s host buffer position offset max =
      .failed (.outOfBounds (.read position view.size offset buffer.length)) buffer s host
  unwanted : offset ≤ buffer.length -> min max (buffer.length - offset) = 0 ->
    position ≤ view.size ->
    view.readFully mode s host buffer position offset max = .delivered [] buffer s host
  pastEnd : offset ≤ buffer.length ->
    ¬ (min max (buffer.length - offset) = 0 ∧ position ≤ view.size) ->
    view.size ≤ position ->
    view.readFully mode s host buffer position offset max = .nothing buffer s host
  within : offset ≤ buffer.length -> min max (buffer.length - offset) ≠ 0 ->
    position < view.size ->
    let length := min (view.size - position) (min max (buffer.length - offset))
    let reading := view.readFully mode s host buffer position offset max
    FollowsAnswers view position length
        (Delivery.answers mode s host (view.offset + position)
          ((buffer.drop offset).take length))
        (reading.outcome.map fun _ => (reading.buffer.drop offset).take length) ∧
      (forall n, reading.outcome = .ok n -> n = some length) ∧
      reading.buffer.take offset = buffer.take offset ∧
      reading.buffer.drop (offset + length) = buffer.drop (offset + length)

/-- A full read of `max` bytes into a new buffer, or of all bytes from the position on if
they are fewer. -/
structure ReadsFromExactly (mode : Mode) (view : View) (s : σ) (host : Host)
    (position max : Nat) : Prop where
  outside : view.size < position ->
    view.readFrom mode s host position max =
      (.error (.outOfBounds (.read position view.size 0 max)), s, host)
  unwanted : position ≤ view.size -> min (view.size - position) max = 0 ->
    view.readFrom mode s host position max = (.ok [], s, host)
  within : position ≤ view.size -> min (view.size - position) max ≠ 0 ->
    let length := min (view.size - position) max
    FollowsAnswers view position length
      (Delivery.answers mode s host (view.offset + position) (List.replicate length 0))
      (view.readFrom mode s host position max).1

variable {view : View}

theorem readFully_within {mode : Mode} {s : σ} {host : Host} {buffer : List UInt8}
    {position offset max length : Nat} (hopen : view.closed = false)
    (hrequest : view.requestLength buffer.length position offset max = .ok (some length))
    (hlength : length ≠ 0) :
    view.readFully mode s host buffer position offset max =
      let reading := view.fill mode s host position ((buffer.drop offset).take length)
      { outcome := reading.outcome.map fun _ => some length
        buffer := buffer.take offset ++ reading.buffer ++ buffer.drop (offset + length)
        source := reading.source
        host := reading.host } := by
  unfold readFully
  rw [hopen, hrequest]
  cases length with
  | zero => exact absurd rfl hlength
  | succ n => rfl

theorem readsExactly (hfits : FitsBuffers σ) (hopen : view.closed = false) (mode : Mode)
    (s : σ) (host : Host) (buffer : List UInt8) (position offset max : Nat) :
    ReadsExactly mode view s host buffer position offset max := by
  have hrequest (hbuffer : offset ≤ buffer.length) :
      view.requestLength buffer.length position offset max =
        if min max (buffer.length - offset) = 0 ∧ position ≤ view.size then .ok (some 0)
        else if view.size ≤ position then .ok none
        else .ok (some (min (view.size - position) (min max (buffer.length - offset)))) :=
    if_neg (Nat.not_lt_of_le hbuffer)
  constructor
  · intro hmisfit
    unfold readFully requestLength
    rw [hopen, if_pos hmisfit]
    rfl
  · intro hbuffer hwanted hposition
    have hnothing := hrequest hbuffer
    rw [if_pos ⟨hwanted, hposition⟩] at hnothing
    unfold readFully
    rw [hopen, hnothing]
    rfl
  · intro hbuffer hwanted hposition
    have hnone := hrequest hbuffer
    rw [if_neg hwanted, if_pos hposition] at hnone
    unfold readFully
    rw [hopen, hnone]
    rfl
  · intro hbuffer hwanted hposition
    have hsome := hrequest hbuffer
    rw [if_neg (fun h => hwanted h.1), if_neg (Nat.not_le_of_lt hposition)] at hsome
    have hlength : min (view.size - position) (min max (buffer.length - offset)) ≠ 0 := by
      omega
    rcases requestLength_some hsome hlength with ⟨_hmax, hroom, hinside⟩
    rw [readFully_within hopen hsome hlength]
    dsimp only
    generalize min (view.size - position) (min max (buffer.length - offset)) = length
      at hlength hroom hinside ⊢
    have hpiece := length_piece hroom
    generalize (buffer.drop offset).take length = asked at hpiece ⊢
    have hfollows := fill_followsAnswers hfits mode view s host position asked
      (by rw [hpiece]; exact hlength) (by rw [hpiece]; exact hinside)
    have hbytes : (view.fill mode s host position asked).buffer.length = length :=
      (length_fill hfits.writesWithin mode view trivial position asked).trans hpiece
    rw [hpiece] at hfollows
    generalize view.fill mode s host position asked = reading at hfollows hbytes
    have hfront : (buffer.take offset).length = offset := List.length_take_of_le hbuffer
    have hends : (buffer.take offset ++ reading.buffer).length = offset + length := by
      rw [List.length_append, hfront, hbytes]
    refine ⟨?_, ?_, ?_, ?_⟩
    · rw [List.append_assoc, List.drop_left' hfront, List.take_left' hbytes]
      cases houtcome : reading.outcome with
      | ok _ =>
          rw [houtcome] at hfollows
          exact hfollows
      | error error =>
          rw [houtcome] at hfollows
          exact hfollows
    · intro n hn
      cases houtcome : reading.outcome with
      | ok _ =>
          rw [houtcome] at hn
          cases hn
          rfl
      | error error =>
          rw [houtcome] at hn
          cases hn
    · rw [List.append_assoc, List.take_left' hfront]
    · exact List.drop_left' hends

theorem readsFromExactly (hfits : FitsBuffers σ) (hopen : view.closed = false) (mode : Mode)
    (s : σ) (host : Host) (position max : Nat) :
    ReadsFromExactly mode view s host position max := by
  have havailable (hposition : position ≤ view.size) :
      view.availableLength position max = .ok (min (view.size - position) max) :=
    if_neg (Nat.not_lt_of_le hposition)
  constructor
  · intro houtside
    unfold readFrom availableLength
    rw [hopen, if_pos houtside]
    rfl
  · intro hposition hnone
    unfold readFrom
    rw [hopen, havailable hposition, hnone]
    dsimp only [List.replicate_zero]
    rw [fill_nil]
    rfl
  · intro hposition hlength length
    have hbuffer : (List.replicate length (0 : UInt8)).length = length :=
      List.length_replicate
    have hfollows := fill_followsAnswers hfits mode view s host position
      (List.replicate length 0) (by rw [hbuffer]; exact hlength)
      (by rw [hbuffer]; exact (availableLength_ok (havailable hposition)).2)
    rw [hbuffer] at hfollows
    unfold readFrom
    rw [hopen, havailable hposition]
    exact hfollows

/-- Whatever its source answers, a full read of an open view reports what the answers settle,
and never fewer bytes than it asked for. -/
theorem fullReads_followAnswers (hfits : FitsBuffers σ) (hopen : view.closed = false)
    (mode : Mode) (s : σ) (host : Host) :
    (forall buffer position offset max,
      ReadsExactly mode view s host buffer position offset max) ∧
    (forall position max, ReadsFromExactly mode view s host position max) ∧
    (view.size = 0 -> view.readAll mode s host = (.ok [], s, host)) ∧
    (view.size ≠ 0 ->
      FollowsAnswers view 0 view.size
        (Delivery.answers mode s host view.offset (List.replicate view.size 0))
        (view.readAll mode s host).1) := by
  have hfrom := readsFromExactly hfits hopen mode s host 0 view.size
  have hall : min (view.size - 0) view.size = view.size := Nat.min_self view.size
  refine ⟨readsExactly hfits hopen mode s host, readsFromExactly hfits hopen mode s host,
    ?_, ?_⟩
  · intro hsize
    exact hfrom.unwanted (Nat.zero_le _) (hall.trans hsize)
  · intro hsize
    have hwithin := hfrom.within (Nat.zero_le _) (by rw [hall]; exact hsize)
    dsimp only at hwithin
    rw [hall] at hwithin
    exact hwithin

end View

/-!
## Scripted sources fit their buffers
-/

namespace Scripted

namespace ScriptedSource

/-- An answer is a failure, the end, or a piece that fits the buffer. -/
inductive AnswerCourse (buffer : List UInt8) :
    Reading (Option Nat) ScriptedSource -> Prop where
  | failed {error : Error} {s : ScriptedSource} {host : Host} :
      AnswerCourse buffer (.failed error buffer s host)
  | nothing {s : ScriptedSource} {host : Host} : AnswerCourse buffer (.nothing buffer s host)
  | delivered {piece : List UInt8} {s : ScriptedSource} {host : Host} :
      piece.length ≤ buffer.length -> AnswerCourse buffer (.delivered piece buffer s host)

theorem answerCourse (s : ScriptedSource) (host : Host) (position : Nat)
    (buffer : List UInt8) : AnswerCourse buffer (s.answer host position buffer) := by
  have hdeliver (s : ScriptedSource) (cap : Option Nat) :
      AnswerCourse buffer (s.deliver host position buffer cap) := by
    unfold deliver
    split
    · exact .nothing
    · exact .delivered (length_copyAt_le ..)
  unfold answer
  rcases nextReply SourceReply.normal s.replies with ⟨reply, replies⟩
  cases reply with
  | normal => exact hdeliver _ _
  | nothing => exact .nothing
  | empty => exact .delivered (Nat.zero_le _)
  | atMost n => exact hdeliver _ _
  | fail error => exact .failed

theorem fitsBuffers : FitsBuffers ScriptedSource where
  count := by
    intro mode s host position n buffer hread
    have hanswer : (s.answer host position buffer).outcome = .ok (some n) := by
      cases mode <;> exact hread
    have hcourse := answerCourse s host position buffer
    generalize s.answer host position buffer = reading at hanswer hcourse
    cases hcourse with
    | failed => cases hanswer
    | nothing => cases hanswer
    | delivered hfits =>
        cases hanswer
        exact hfits
  length := by
    intro mode s host position buffer
    have hlength : (s.answer host position buffer).buffer.length = buffer.length := by
      have hcourse := answerCourse s host position buffer
      generalize s.answer host position buffer = reading at hcourse ⊢
      cases hcourse with
      | failed => rfl
      | nothing => rfl
      | delivered hfits => exact length_overlay hfits
    cases mode <;> exact hlength

end ScriptedSource
end Scripted

namespace View

open Scripted

/-- A source that delivers two bytes, then none, then the rest. -/
theorem fullReads_followAnswers_scripted :
    let source : ScriptedSource :=
      { data := #[1, 2, 3, 4, 5], size := 5, replies := [.atMost 2, .empty, .normal] }
    let view : View := { offset := 1, size := 4 }
    view.closed = false ∧
    (forall buffer position offset max,
      ReadsExactly .blocking view source {} buffer position offset max) ∧
    (forall position max, ReadsFromExactly .blocking view source {} position max) ∧
    (view.size = 0 -> view.readAll .blocking source {} = (.ok [], source, {})) ∧
    (view.size ≠ 0 ->
      FollowsAnswers view 0 view.size
        (Delivery.answers .blocking source {} view.offset (List.replicate view.size 0))
        (view.readAll .blocking source {}).1) :=
  ⟨rfl, fullReads_followAnswers ScriptedSource.fitsBuffers rfl .blocking _ {}⟩

example :
    let source (replies : List SourceReply) : ScriptedSource :=
      { data := #[1, 2, 3, 4, 5], size := 5, replies }
    let view : View := { offset := 1, size := 4 }
    let read (replies : List SourceReply) : Except Error (List UInt8) :=
      (view.readAll .blocking (source replies) {}).1
    read [.atMost 2, .empty, .empty, .normal] = .ok [2, 3, 4, 5] ∧
      read [.atMost 2, .empty, .empty, .empty] = .error (.unexpectedEof 2 4) ∧
      read [.atMost 2, .nothing] = .error (.unexpectedEof 2 4) := by
  refine ⟨?_, ?_, ?_⟩ <;> cbv

end View
end ByteWindow
