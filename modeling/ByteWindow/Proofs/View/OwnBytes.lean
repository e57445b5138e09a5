import ByteWindow.Proofs.Source.Tidy
import ByteWindow.Proofs.View.FullRead
import ByteWindow.Proofs.View.Nesting

/-!
# Reads touch only their own bytes

A read into a buffer owns the bytes that it asks its source for, and it hands the source no
others.  So nothing else in the buffer changes, however the read ends, and nothing changes at all
if the source is not asked.  Refusals come from the view before it asks, unless the source
refuses itself; that may be after it has written.

Over tidy sources the bytes behind those that arrived stay as they were as well.
-/

namespace ByteWindow

/-!
## Parts of buffers
-/

/-- Two buffers of one length that differ at most within a range. -/
structure SameOutside (start stop : Nat) (before after : List UInt8) : Prop where
  length_eq : after.length = before.length
  getElem?_eq (i : Nat) : i < start ∨ stop ≤ i -> after[i]? = before[i]?

theorem SameOutside.refl (start stop : Nat) (buffer : List UInt8) :
    SameOutside start stop buffer buffer where
  length_eq := rfl
  getElem?_eq := fun _ _ => rfl

/-- A part of a buffer is put back, and behind some bytes it is what it was. -/
theorem sameOutside_part {buffer part : List UInt8} {offset length n : Nat}
    (hroom : offset + length ≤ buffer.length) (hpart : part.length = length)
    (hbehind : part.drop n = ((buffer.drop offset).take length).drop n) :
    SameOutside offset (offset + n) buffer
      (buffer.take offset ++ part ++ buffer.drop (offset + length)) := by
  have hfront : (buffer.take offset).length = offset := List.length_take_of_le (by omega)
  have hends : (buffer.take offset ++ part).length = offset + length := by
    rw [List.length_append, hfront, hpart]
  constructor
  · rw [List.length_append, hends, List.length_drop, Nat.add_sub_cancel' hroom]
  · rintro i (hbefore | hafter)
    · rw [List.append_assoc, List.getElem?_append_left (by omega),
        List.getElem?_take_of_lt hbefore]
    · rcases Nat.lt_or_ge i (offset + length) with hinside | hlater
      · rw [List.getElem?_append_left (by omega), List.getElem?_append_right (by omega), hfront]
        have hsame : (part.drop n)[i - offset - n]? = _ := congrArg (·[i - offset - n]?) hbehind
        rw [List.getElem?_drop, List.getElem?_drop, Nat.add_sub_cancel' (by omega),
          List.getElem?_take_of_lt (by omega), List.getElem?_drop,
          Nat.add_sub_cancel' (by omega)] at hsame
        exact hsame
      · rw [List.getElem?_append_right (by omega), hends, List.getElem?_drop,
          Nat.add_sub_cancel' hlater]

/-!
## Full reads of sources
-/

namespace Source

variable {σ : Type} [Source σ] {kept : σ -> Host -> Prop} {mode : Mode} {s : σ} {host : Host}
variable {done rest : List UInt8} {place remaining idle : Nat}

/-- A full read that ends early leaves the buffer alone behind the bytes that arrived. -/
theorem drop_fillAt_early (tidy : TidySources σ kept) (hkept : kept s host) {stop : Nat}
    (hearly : (fillAt mode s host done rest place remaining idle).ending = .early stop) :
    (fillAt mode s host done rest place remaining idle).buffer.drop
        (done.length + (stop - place)) = rest.drop (stop - place) := by
  have hskip (done piece : List UInt8) (n : Nat) :
      (done.reverseAux piece).drop (done.length + n) = piece.drop n := by
    rw [List.reverseAux_eq, List.drop_append, List.length_reverse, Nat.add_sub_cancel_left,
      List.drop_eq_nil_of_le (by rw [List.length_reverse]; omega), List.nil_append]
  fun_induction fillAt mode s host done rest place remaining idle with
  | case1 => cases hearly
  | case2 => cases hearly
  | case3 s host done rest place remaining idle _ reading _ houtcome =>
      have htidy : TidyAnswer rest reading.outcome reading.buffer := tidy.answer _ _ _ hkept
      rw [houtcome] at htidy
      cases hearly
      rw [hskip, htidy.eq_of_ended]
  | case4 s host done rest place remaining idle _ reading houtcome hmore ih =>
      have htidy : TidyAnswer rest reading.outcome reading.buffer := tidy.answer _ _ _ hkept
      rw [houtcome] at htidy
      rw [ih (tidy.keeps _ _ _ hkept) hearly]
      exact congrArg _ htidy.drop_eq
  | case5 s host done rest place remaining idle _ reading _ houtcome hmore =>
      have htidy : TidyAnswer rest reading.outcome reading.buffer := tidy.answer _ _ _ hkept
      rw [houtcome] at htidy
      cases hearly
      rw [hskip]
      exact congrArg _ htidy.drop_eq
  | case6 s host done rest place remaining idle _ reading n houtcome ih =>
      have htidy : TidyAnswer rest reading.outcome reading.buffer := tidy.answer _ _ _ hkept
      rw [houtcome] at htidy
      have hcount : (reading.buffer.take (n + 1)).length = n + 1 := by
        rw [List.length_take_of_le]
        rw [tidy.writesWithin.length _ _ _ hkept]
        exact htidy.le_length
      have hlength : ((reading.buffer.take (n + 1)).reverseAux done).length =
          done.length + (n + 1) := by
        rw [List.reverseAux_eq, List.length_append, List.length_reverse, hcount, Nat.add_comm]
      have hlater := ih (tidy.keeps _ _ _ hkept) hearly
      have hstop := le_of_fillAt_early hearly
      have hplace : n + 1 + (stop - (place + (n + 1))) = stop - place := by omega
      rw [hlength, Nat.add_assoc done.length, hplace] at hlater
      rw [hlater, htidy.drop_eq, List.drop_drop, hplace]

end Source

/-!
## Reads into a buffer
-/

/-- What can be read into a buffer. -/
inductive BufferRead
  | read (mode : Mode) (position offset max : Nat)
  | readAt (position : Nat)
  | readFully (mode : Mode) (position offset max : Nat)

namespace BufferRead

def position : BufferRead -> Nat
  | read _ position _ _ | readAt position | readFully _ position _ _ => position

def offset : BufferRead -> Nat
  | read _ _ offset _ | readFully _ _ offset _ => offset
  | readAt _ => 0

def max (buffer : List UInt8) : BufferRead -> Nat
  | read _ _ _ max | readFully _ _ _ max => max
  | readAt _ => buffer.length

/-- How many bytes of the buffer a call owns, from its offset on. -/
def own (view : View) (buffer : List UInt8) (call : BufferRead) : Nat :=
  min (view.size - call.position) (min (call.max buffer) (buffer.length - call.offset))

/-- The bytes of the buffer that a call owns. -/
def part (view : View) (buffer : List UInt8) (call : BufferRead) : List UInt8 :=
  (buffer.drop call.offset).take (call.own view buffer)

section Calls

variable {σ : Type} [Source σ]

def perform (view : View) (s : σ) (host : Host) (buffer : List UInt8) :
    BufferRead -> Reading (Option Nat) σ
  | read mode position offset max => view.read mode s host buffer position offset max
  | readAt position => view.readAt s host position buffer
  | readFully mode position offset max => view.readFully mode s host buffer position offset max

/-- The bytes that a call owns, filled from the source. -/
def filled (mode : Mode) (view : View) (s : σ) (host : Host) (buffer : List UInt8)
    (call : BufferRead) : Filled σ :=
  Source.fillAt mode s host [] (call.part view buffer) (view.offset + call.position)
    (call.part view buffer).length 0

/-- What the source is asked, and what it leaves of the bytes that the call owns. -/
def ask (view : View) (s : σ) (host : Host) (buffer : List UInt8) (call : BufferRead) :
    Reading (Option Nat) σ :=
  match call with
  | read mode position _ _ =>
      Source.readVia mode s host (view.offset + position) (call.part view buffer)
  | readAt position => Source.readAt s host (view.offset + position) (call.part view buffer)
  | readFully mode _ _ _ =>
      let filled := call.filled mode view s host buffer
      { outcome := (filled.ending.report view).map fun _ => some (call.own view buffer)
        buffer := filled.buffer
        source := filled.source
        host := filled.host }

/-- The source is asked, and it is the source that fails. -/
def SourceFails (view : View) (s : σ) (host : Host) (buffer : List UInt8) (error : Error)
    (call : BufferRead) : Prop :=
  view.closed = false ∧ call.own view buffer ≠ 0 ∧
    match call with
    | read _ _ _ _ | readAt _ => (call.ask view s host buffer).outcome = .error error
    | readFully mode _ _ _ => (call.filled mode view s host buffer).ending = .failed error

/-- A call that asks the source puts the bytes that it owns back where they belong. -/
def asked (view : View) (s : σ) (host : Host) (buffer : List UInt8) (call : BufferRead) :
    Reading (Option Nat) σ :=
  let reading := call.ask view s host buffer
  { reading with
    buffer := buffer.take call.offset ++ reading.buffer ++
      buffer.drop (call.offset + call.own view buffer) }

/-- The five courses of a read into a buffer.  Only the last one goes to the source. -/
inductive Course (view : View) (s : σ) (host : Host) (buffer : List UInt8)
    (call : BufferRead) : Reading (Option Nat) σ -> Prop where
  | closed :
      view.closed = true -> Course view s host buffer call (.failed .released buffer s host)
  | misfit :
      view.closed = false -> buffer.length < call.offset ->
      Course view s host buffer call
        (.failed (.outOfBounds (.read call.position view.size call.offset buffer.length)) buffer
          s host)
  | unwanted :
      view.closed = false -> call.offset ≤ buffer.length ->
      min (call.max buffer) (buffer.length - call.offset) = 0 -> call.position ≤ view.size ->
      Course view s host buffer call (.delivered [] buffer s host)
  | pastEnd :
      view.closed = false -> call.offset ≤ buffer.length ->
      ¬ (min (call.max buffer) (buffer.length - call.offset) = 0 ∧
        call.position ≤ view.size) ->
      view.size ≤ call.position -> Course view s host buffer call (.nothing buffer s host)
  | asked :
      view.closed = false -> call.own view buffer ≠ 0 ->
      call.offset + call.own view buffer ≤ buffer.length ->
      Course view s host buffer call (call.asked view s host buffer)

/-- Calls differ only in what they do when something is wanted. -/
theorem course_of_requested {view : View} {s : σ} {host : Host} {buffer : List UInt8}
    (call : BufferRead) (act : Nat -> Reading (Option Nat) σ)
    (hact : act (call.own view buffer) = call.asked view s host buffer) :
    Course view s host buffer call
      (if view.closed then
        .failed .released buffer s host
      else
        match view.requestLength buffer.length call.position call.offset (call.max buffer) with
        | .error error => .failed error buffer s host
        | .ok none => .nothing buffer s host
        | .ok (some 0) => .delivered [] buffer s host
        | .ok (some length) => act length) := by
  split
  · rename_i hclosed
    exact .closed hclosed
  · rename_i hopen
    have hopen := Bool.eq_false_of_not_eq_true hopen
    have hrequest := View.requestCourse view buffer call.position call.offset (call.max buffer)
    generalize view.requestLength buffer.length call.position call.offset (call.max buffer) =
      request at hrequest
    cases hrequest with
    | misfit hmisfit => exact .misfit hopen hmisfit
    | unwanted hbuffer hunwanted hposition => exact .unwanted hopen hbuffer hunwanted hposition
    | pastEnd hbuffer hwanted hposition => exact .pastEnd hopen hbuffer hwanted hposition
    | wanted hbuffer hlength hown =>
        rename_i length
        change length = call.own view buffer at hown
        have hroom : call.offset + call.own view buffer ≤ buffer.length := by
          unfold own
          omega
        rw [hown] at hlength
        cases length with
        | zero => exact absurd hown.symm hlength
        | succ n =>
            show Course view s host buffer call (act (n + 1))
            rw [hown, hact]
            exact .asked hopen hlength hroom

theorem course (view : View) (s : σ) (host : Host) (buffer : List UInt8) (call : BufferRead) :
    Course view s host buffer call (call.perform view s host buffer) := by
  cases call with
  | read mode position offset max =>
      exact course_of_requested (.read mode position offset max)
        (view.readInto mode s host buffer position offset) rfl
  | readAt position =>
      exact course_of_requested (.readAt position)
        (view.readInto .blocking s host buffer position 0) rfl
  | readFully mode position offset max =>
      refine course_of_requested (.readFully mode position offset max)
        (fun length =>
          let reading := view.fill mode s host position ((buffer.drop offset).take length)
          { outcome := reading.outcome.map fun _ => some length
            buffer := buffer.take offset ++ reading.buffer ++ buffer.drop (offset + length)
            source := reading.source
            host := reading.host }) ?_
      unfold View.fill
      dsimp only
      rw [View.fillRemaining_eq_fillAt]
      rfl

/-!
## What stays as it was
-/

/-- The errors by which views refuse. -/
inductive Refusal : Error -> Prop
  | released : Refusal .released
  | outOfBounds (bounds : Bounds) : Refusal (.outOfBounds bounds)

variable {view : View} {s : σ} {host : Host} {buffer : List UInt8} {call : BufferRead}
variable {kept : σ -> Host -> Prop}

omit [Source σ] in
theorem length_part (hroom : call.offset + call.own view buffer ≤ buffer.length) :
    (call.part view buffer).length = call.own view buffer :=
  View.length_piece hroom

theorem length_ask (within : WritesWithin σ kept) (hkept : kept s host)
    (hroom : call.offset + call.own view buffer ≤ buffer.length) :
    (call.ask view s host buffer).buffer.length = call.own view buffer := by
  rw [← length_part hroom]
  cases call with
  | read mode position offset max => exact within.length _ _ _ hkept
  | readAt position => exact within.length .blocking _ _ hkept
  | readFully mode position offset max =>
      have hlength := View.length_fill within mode view hkept position
        ((BufferRead.readFully mode position offset max).part view buffer)
      unfold View.fill at hlength
      rw [View.fillRemaining_eq_fillAt] at hlength
      exact hlength

/-- A view that has asked its source refuses nothing any more. -/
theorem sourceFails_of_refusal (hopen : view.closed = false) (hown : call.own view buffer ≠ 0)
    {error : Error} (hrefusal : Refusal error)
    (houtcome : (call.ask view s host buffer).outcome = .error error) :
    call.SourceFails view s host buffer error := by
  refine ⟨hopen, hown, ?_⟩
  cases call with
  | read mode position offset max => exact houtcome
  | readAt position => exact houtcome
  | readFully mode position offset max =>
      unfold ask at houtcome
      dsimp only at houtcome ⊢
      generalize filled mode view s host buffer _ = filled at houtcome ⊢
      cases hending : filled.ending with
      | complete =>
          rw [hending] at houtcome
          cases houtcome
      | early place =>
          rw [hending] at houtcome
          cases houtcome
          cases hrefusal
      | failed error' =>
          rw [hending] at houtcome
          exact congrArg FillEnd.failed (Except.error.inj houtcome)

theorem sameOutside_asked (within : WritesWithin σ kept) (hkept : kept s host)
    (hroom : call.offset + call.own view buffer ≤ buffer.length) {n : Nat}
    (hbehind : (call.ask view s host buffer).buffer.drop n = (call.part view buffer).drop n) :
    SameOutside call.offset (call.offset + n) buffer (call.asked view s host buffer).buffer :=
  sameOutside_part hroom (length_ask within hkept hroom) hbehind

/-- A read into a buffer changes nothing unless the source is asked, nothing if the view refuses,
and nothing but the bytes that it owns however it ends. -/
structure TouchesOwn (view : View) (s : σ) (host : Host) (buffer : List UInt8)
    (call : BufferRead) (reading : Reading (Option Nat) σ) : Prop where
  course : Course view s host buffer call reading
  refused (error : Error) : Refusal error -> reading.outcome = .error error ->
    ¬ call.SourceFails view s host buffer error -> reading.buffer = buffer
  outside :
    SameOutside call.offset (call.offset + call.own view buffer) buffer reading.buffer

theorem Course.touchesOwn {reading : Reading (Option Nat) σ}
    (hcourse : Course view s host buffer call reading) (within : WritesWithin σ kept)
    (hkept : kept s host) : TouchesOwn view s host buffer call reading := by
  refine ⟨hcourse, ?_, ?_⟩
  · intro error hrefusal houtcome hown
    cases hcourse with
    | closed => rfl
    | misfit => rfl
    | unwanted => rfl
    | pastEnd => rfl
    | asked hopen hlength hroom =>
        exact absurd (sourceFails_of_refusal hopen hlength hrefusal houtcome) hown
  · cases hcourse with
    | closed => exact .refl _ _ buffer
    | misfit => exact .refl _ _ buffer
    | unwanted => exact .refl _ _ buffer
    | pastEnd => exact .refl _ _ buffer
    | asked hopen hlength hroom =>
        refine sameOutside_asked within hkept hroom ?_
        rw [List.drop_eq_nil_of_le (Nat.le_of_eq (length_ask within hkept hroom)),
          List.drop_eq_nil_of_le (Nat.le_of_eq (length_part hroom))]

/-- A read into a buffer also leaves alone what it owns behind the bytes that arrived, if it
reports them or tells an early end. -/
structure LeavesRest (view : View) (s : σ) (host : Host) (buffer : List UInt8)
    (call : BufferRead) (reading : Reading (Option Nat) σ) : Prop
    extends TouchesOwn view s host buffer call reading where
  counted (n : Nat) : reading.outcome = .ok (some n) ->
    SameOutside call.offset (call.offset + n) buffer reading.buffer
  early (stop expected : Nat) :
    reading.outcome = .error (.unexpectedEof stop expected) ->
    ¬ call.SourceFails view s host buffer (.unexpectedEof stop expected) ->
    call.position ≤ stop ∧
      SameOutside call.offset (call.offset + (stop - call.position)) buffer reading.buffer

/-- The bytes that a call owns, behind those that it counts. -/
theorem drop_ask_counted (tidy : TidySources σ kept) (hkept : kept s host)
    (hroom : call.offset + call.own view buffer ≤ buffer.length) {n : Nat}
    (houtcome : (call.ask view s host buffer).outcome = .ok (some n)) :
    (call.ask view s host buffer).buffer.drop n = (call.part view buffer).drop n := by
  have hsingle (htidy : TidyAnswer (call.part view buffer)
      (call.ask view s host buffer).outcome (call.ask view s host buffer).buffer) :
      (call.ask view s host buffer).buffer.drop n = (call.part view buffer).drop n := by
    rw [houtcome] at htidy
    exact htidy.drop_eq
  cases call with
  | read mode position offset max => exact hsingle (tidy.answer mode _ _ hkept)
  | readAt position => exact hsingle (tidy.answer .blocking _ _ hkept)
  | readFully mode position offset max =>
      have hall : (BufferRead.readFully mode position offset max).own view buffer = n := by
        unfold ask at houtcome
        dsimp only at houtcome
        generalize (filled mode view s host buffer _).ending = ending at houtcome
        cases ending with
        | complete => exact Option.some.inj (Except.ok.inj houtcome)
        | early place => cases houtcome
        | failed error => cases houtcome
      rw [List.drop_eq_nil_of_le, List.drop_eq_nil_of_le]
      · exact Nat.le_of_eq ((length_part hroom).trans hall)
      · exact Nat.le_of_eq ((length_ask tidy.writesWithin hkept hroom).trans hall)

/-- The bytes that a call owns, behind those that arrived before an early end. -/
theorem drop_ask_early (tidy : TidySources σ kept) (hkept : kept s host)
    (hopen : view.closed = false) (hown : call.own view buffer ≠ 0) {stop expected : Nat}
    (houtcome : (call.ask view s host buffer).outcome = .error (.unexpectedEof stop expected))
    (hview : ¬ call.SourceFails view s host buffer (.unexpectedEof stop expected)) :
    call.position ≤ stop ∧
      (call.ask view s host buffer).buffer.drop (stop - call.position) =
        (call.part view buffer).drop (stop - call.position) := by
  cases call with
  | read mode position offset max => exact absurd ⟨hopen, hown, houtcome⟩ hview
  | readAt position => exact absurd ⟨hopen, hown, houtcome⟩ hview
  | readFully mode position offset max =>
      have htells : exists place, stop = place - view.offset ∧
          ((BufferRead.readFully mode position offset max).filled mode view s host buffer).ending =
            .early place := by
        unfold ask at houtcome
        dsimp only at houtcome
        cases hending : (filled mode view s host buffer _).ending with
        | complete =>
            rw [hending] at houtcome
            cases houtcome
        | early place =>
            rw [hending] at houtcome
            cases houtcome
            exact ⟨place, rfl, rfl⟩
        | failed error =>
            rw [hending] at houtcome
            cases houtcome
            exact absurd ⟨hopen, hown, hending⟩ hview
      rcases htells with ⟨place, rfl, hearly⟩
      have hstop : view.offset + position ≤ place := Source.le_of_fillAt_early hearly
      have hbehind := Source.drop_fillAt_early tidy hkept hearly
      rw [List.length_nil, Nat.zero_add] at hbehind
      refine ⟨Nat.le_sub_of_add_le (Nat.add_comm .. ▸ hstop), ?_⟩
      rw [Nat.sub_sub]
      exact hbehind

theorem Course.leavesRest {reading : Reading (Option Nat) σ}
    (hcourse : Course view s host buffer call reading) (tidy : TidySources σ kept)
    (hkept : kept s host) : LeavesRest view s host buffer call reading := by
  refine ⟨hcourse.touchesOwn tidy.writesWithin hkept, ?_, ?_⟩
  · intro n houtcome
    cases hcourse with
    | closed => cases houtcome
    | misfit => cases houtcome
    | unwanted => exact .refl _ _ buffer
    | pastEnd => cases houtcome
    | asked hopen hlength hroom =>
        exact sameOutside_asked tidy.writesWithin hkept hroom
          (drop_ask_counted tidy hkept hroom houtcome)
  · intro stop expected houtcome hview
    cases hcourse with
    | closed => cases houtcome
    | misfit => cases houtcome
    | unwanted => cases houtcome
    | pastEnd => cases houtcome
    | asked hopen hlength hroom =>
        rcases drop_ask_early tidy hkept hopen hlength houtcome hview with ⟨hstop, hbehind⟩
        exact ⟨hstop, sameOutside_asked tidy.writesWithin hkept hroom hbehind⟩

end Calls

/-- Whatever is read into a buffer, only bytes that the read owns can change, and over the sources
that come along only those that arrived. -/
theorem ownBytes (view : View) (host : Host) (buffer : List UInt8) (call : BufferRead) :
    (forall (σ : Type) [Source σ] (kept : σ -> Host -> Prop), WritesWithin σ kept ->
      forall s : σ, kept s host ->
        TouchesOwn view s host buffer call (call.perform view s host buffer)) ∧
    (forall s : Memory, LeavesRest view s host buffer call (call.perform view s host buffer)) ∧
    (forall s : Buffer, LeavesRest view s host buffer call (call.perform view s host buffer)) ∧
    (forall s : Positional,
      LeavesRest view s host buffer call (call.perform view s host buffer)) ∧
    (forall s : Channel, LeavesRest view s host buffer call (call.perform view s host buffer)) ∧
    (forall s : Directory,
      LeavesRest view s host buffer call (call.perform view s host buffer)) ∧
    (forall (φ τ : Type) [Stream τ] [StreamFactory φ τ], StreamsFit τ ->
      forall s : Pool φ τ,
        LeavesRest view s host buffer call (call.perform view s host buffer)) ∧
    (forall (ρ : Type) [ByteCursor ρ] (data : Array UInt8) (place : ρ -> Nat)
      (holds : ρ -> Host -> Prop), HonestCursors data place holds ->
      forall s : SeekThenRead ρ, s.Holds holds host ->
        LeavesRest view s host buffer call (call.perform view s host buffer)) := by
  have hrest {σ : Type} [Source σ] {kept : σ -> Host -> Prop} (tidy : TidySources σ kept) (s : σ)
      (hkept : kept s host) :
      LeavesRest view s host buffer call (call.perform view s host buffer) :=
    (course view s host buffer call).leavesRest tidy hkept
  refine ⟨?_, fun s => hrest Memory.tidy s trivial, fun s => hrest Buffer.tidy s trivial,
    fun s => hrest Positional.tidy s trivial, fun s => hrest Channel.tidy s trivial,
    fun s => hrest Directory.tidy s trivial, ?_, ?_⟩
  · intro σ _ kept within s hkept
    exact (course view s host buffer call).touchesOwn within hkept
  · intro φ τ _ _ hfit s
    exact hrest (Pool.tidy hfit) s trivial
  · intro ρ _ data place holds honest s hholds
    exact hrest (SeekThenRead.tidy honest) s hholds

open Scripted

/-- A source that delivers two of three bytes and then refuses, and a file that is shorter than
its source says. -/
theorem ownBytes_twoOfThree :
    let view : View := { offset := 0, size := 3 }
    let call : BufferRead := .readFully .blocking 0 1 3
    let buffer : List UInt8 := [238, 238, 238, 238, 238]
    let source : ScriptedSource :=
      { data := #[1, 2, 3], size := 3, replies := [.atMost 2, .fail .released] }
    let host : Host := { disk := { names := [("data", 0)], contents := #[#[1, 2]] } }
    let file : SeekThenRead FileCursor := { cursor := some { file := 0, position := 0 }, size := 3 }
    TouchesOwn view source host buffer call (call.perform view source host buffer) ∧
      LeavesRest view file host buffer call (call.perform view file host buffer) := by
  intro view call buffer source host file
  rcases ownBytes view host buffer call with ⟨hown, _, _, _, _, _, _, hcursors⟩
  have hholds : file.Holds
      (fun cursor host => cursor.file = 0 ∧ host.disk.bytes 0 = #[1, 2]) host := by
    intro cursor hcursor
    cases hcursor
    exact ⟨rfl, rfl⟩
  exact ⟨hown _ _ ScriptedSource.tidy.writesWithin source trivial,
    hcursors _ _ _ _ (FileCursor.honest 0 #[1, 2]) file hholds⟩

example :
    let file : SeekThenRead FileCursor := { cursor := some { file := 0, position := 0 }, size := 3 }
    let reading := (BufferRead.readFully .blocking 0 1 3).perform { offset := 0, size := 3 } file
      { disk := { names := [("data", 0)], contents := #[#[1, 2]] } } [238, 238, 238, 238, 238]
    reading.outcome = .error (.unexpectedEof 2 3) ∧
      reading.buffer = [238, 1, 2, 238, 238] := by
  refine ⟨?_, ?_⟩ <;> cbv

/-- A refusal of the source itself comes after it has written. -/
theorem readFully_refused_by_source :
    let view : View := { offset := 0, size := 3 }
    let call : BufferRead := .readFully .blocking 0 0 3
    let buffer : List UInt8 := [238, 238, 238]
    let source : ScriptedSource :=
      { data := #[1, 2, 3], size := 3, replies := [.atMost 2, .fail .released] }
    let reading := call.perform view source {} buffer
    WritesWithin ScriptedSource (fun _ _ => True) ∧ reading.outcome = .error .released ∧
      reading.buffer = [1, 2, 238] ∧ reading.buffer ≠ buffer := by
  intro view call buffer source reading
  have houtcome : reading.outcome = .error .released := by cbv
  have hbuffer : reading.buffer = [1, 2, 238] := by cbv
  refine ⟨ScriptedSource.tidy.writesWithin, houtcome, hbuffer, ?_⟩
  rw [hbuffer]
  decide

end BufferRead
end ByteWindow
