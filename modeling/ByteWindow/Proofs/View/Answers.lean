import ByteWindow.Proofs.Reader.EndOfData
import ByteWindow.Proofs.Source.Faithful

/-!
# What a window answers

What a view answers over a faithful source depends on nothing but the bytes of its window.
Only how many bytes a single read delivers is left to the source, and a request that a source
answers promptly leaves nothing open: it gets all that the window has.

The right answers are told by a relation between what a view is asked and what it answers.  It
mentions neither a source nor a host.  A full read answers like a single read of a source that
answers every request promptly.
-/

namespace ByteWindow

/-- Lay a piece into a buffer from `offset` on. -/
def inlay (buffer : List UInt8) (offset : Nat) (piece : List UInt8) : List UInt8 :=
  buffer.take offset ++ piece ++ buffer.drop (offset + piece.length)

/-!
## Right answers
-/

/-- The right answers to a read into a buffer.  Bounds are checked in order; a request for no
bytes at all is answered with the end only past the end. -/
inductive AnswersRead (window : List UInt8) (prompt : Nat -> Prop) (buffer : List UInt8)
    (position offset max : Nat) : Except Error (Option Nat) -> List UInt8 -> Prop where
  | misfit :
      buffer.length < offset ->
      AnswersRead window prompt buffer position offset max
        (.error (.outOfBounds (.read position window.length offset buffer.length))) buffer
  | unwanted :
      offset ≤ buffer.length -> min max (buffer.length - offset) = 0 ->
      position ≤ window.length ->
      AnswersRead window prompt buffer position offset max (.ok (some 0)) buffer
  | pastEnd :
      offset ≤ buffer.length ->
      ¬ (min max (buffer.length - offset) = 0 ∧ position ≤ window.length) ->
      window.length ≤ position ->
      AnswersRead window prompt buffer position offset max (.ok none) buffer
  | delivered {n : Nat} :
      offset ≤ buffer.length -> 0 < n ->
      n ≤ min (window.length - position) (min max (buffer.length - offset)) ->
      (prompt (min (window.length - position) (min max (buffer.length - offset))) ->
        n = min (window.length - position) (min max (buffer.length - offset))) ->
      AnswersRead window prompt buffer position offset max (.ok (some n))
        (inlay buffer offset ((window.drop position).take n))

/-- The right answer to a request for `max` bytes from a position on. -/
def answerFrom (window : List UInt8) (position max : Nat) : Except Error (List UInt8) :=
  if window.length < position then
    .error (.outOfBounds (.read position window.length 0 max))
  else
    .ok ((window.drop position).take max)

/-- Sinks that take at least one byte of what they are offered, and keep what they took. -/
structure Collects {κ : Type} [Sink κ] (willing : κ -> Prop) (contents : κ -> List UInt8) :
    Prop where
  write {sink : κ} {bytes : List UInt8} : willing sink -> bytes ≠ [] ->
    exists n, 0 < n ∧ n ≤ bytes.length ∧ (Sink.write sink bytes).1 = .ok n ∧
      willing (Sink.write sink bytes).2 ∧
      contents (Sink.write sink bytes).2 = contents sink ++ bytes.take n
  flush {sink : κ} : willing sink ->
    (Sink.flush sink).1 = .ok () ∧ contents (Sink.flush sink).2 = contents sink

/-- What is offered to a willing sink is taken completely. -/
theorem Collects.writeAllPatiently {κ : Type} [Sink κ] {willing : κ -> Prop}
    {contents : κ -> List UInt8} (collects : Collects willing contents) (mode : Mode)
    (sink : κ) (bytes : List UInt8) (patience : Nat) (hwilling : willing sink) :
    let written := Sink.writeAllPatiently mode sink bytes patience
    written.1 = .ok () ∧ willing written.2 ∧ contents written.2 = contents sink ++ bytes := by
  fun_induction Sink.writeAllPatiently mode sink bytes patience with
  | case1 sink patience => exact ⟨rfl, hwilling, (List.append_nil _).symm⟩
  | case2 sink patience byte rest sink' hwrite =>
      rcases collects.write hwilling (List.cons_ne_nil byte rest) with ⟨n, hpos, _, hok, _⟩
      rw [hwrite] at hok
      cases hok
      cases hpos
  | case3 sink patience byte rest n sink' hwrite ih =>
      rcases collects.write hwilling (List.cons_ne_nil byte rest) with
        ⟨count, _, _, hok, hwilling', hcontents⟩
      rw [hwrite] at hok hwilling' hcontents
      cases hok
      rcases ih hwilling' with ⟨hdone, hwilling'', hrest⟩
      refine ⟨hdone, hwilling'', ?_⟩
      rw [hrest, hcontents, List.append_assoc]
      exact congrArg _ (List.take_append_drop (n + 1) (byte :: rest))
  | case4 sink byte rest cause sink' hwrite =>
      rcases collects.write hwilling (List.cons_ne_nil byte rest) with ⟨n, _, _, hok, _⟩
      rw [hwrite] at hok
      cases hok
  | case5 sink patience byte rest cause sink' hwrite =>
      rcases collects.write hwilling (List.cons_ne_nil byte rest) with ⟨n, _, _, hok, _⟩
      rw [hwrite] at hok
      cases hok

/-- The right answers to what an open view is asked. -/
def Operation.AnsweredBy {κ : Type} [Sink κ] (window : List UInt8) (prompt : Nat -> Prop) :
    Operation κ -> Answer κ -> Prop
  | read _ buffer position offset max, answer => exists result buffer',
      answer = .counted result buffer' ∧
        AnswersRead window prompt buffer position offset max result buffer'
  | readAt position buffer, answer => exists result buffer',
      answer = .counted result buffer' ∧
        AnswersRead window prompt buffer position 0 buffer.length result buffer'
  | readFully _ buffer position offset max, answer => exists result buffer',
      answer = .counted result buffer' ∧
        AnswersRead window (fun _ => True) buffer position offset max result buffer'
  | readFrom _ position max, answer => answer = .bytes (answerFrom window position max)
  | readAll _, answer => answer = .bytes (.ok window)
  | readByteAt position, answer => answer = .byte (.ok window[position]?)
  | transfer _ sink _, answer => forall willing contents, Collects willing contents ->
      willing sink -> exists sink', answer = .transferred (.ok window.length) sink' ∧
        contents sink' = contents sink ++ window
  | readerRead reader buffer, answer => exists n,
      answer = .consumed (.ok n) { reader with position := reader.position + n }
          (inlay buffer 0 ((window.drop reader.position).take n)) ∧
        n ≤ min buffer.length (window.length - reader.position) ∧
        (n = 0 -> min buffer.length (window.length - reader.position) = 0) ∧
        (prompt (min buffer.length (window.length - reader.position)) ->
          n = min buffer.length (window.length - reader.position))
  | readerReadByte reader, answer =>
      answer = .consumedByte (.ok window[reader.position]?)
        { reader with
          position :=
            if reader.position < window.length then reader.position + 1 else reader.position }
  | readerSkip reader n, answer =>
      answer = .skipped (min n (window.length - reader.position))
        { reader with
          position := reader.position + min n (window.length - reader.position) }

namespace View

/-- The bytes of some data that a view shows. -/
def window (view : View) (data : Array UInt8) : List UInt8 :=
  slice data view.offset view.size

variable {view : View} {data : Array UInt8} {position n : Nat}

theorem length_window (hinside : view.offset + view.size ≤ data.size) :
    (view.window data).length = view.size :=
  slice_inside hinside

/-- Pieces of the data at places of the window are pieces of the window. -/
theorem slice_window (h : position + n ≤ view.size) :
    slice data (view.offset + position) n = ((view.window data).drop position).take n := by
  unfold window
  rw [slice_eq, slice_eq, List.drop_take, List.take_take, List.drop_drop,
    Nat.min_eq_left (Nat.le_sub_of_add_le (Nat.add_comm .. ▸ h))]

theorem getElem?_window (h : position < view.size) :
    data[view.offset + position]? = (view.window data)[position]? := by
  unfold window
  rw [slice_eq, List.getElem?_take_of_lt h, List.getElem?_drop, Array.getElem?_toList]

/-!
## Single reads
-/

/-- A piece that was laid over a part of a buffer is laid into the buffer. -/
theorem inlay_overlay (buffer : List UInt8) (offset : Nat) {piece : List UInt8}
    {length : Nat} (hpiece : piece.length ≤ length) :
    buffer.take offset ++ overlay piece ((buffer.drop offset).take length) ++
      buffer.drop (offset + length) = inlay buffer offset piece := by
  have hrest : ((buffer.drop offset).take length).drop piece.length ++
      buffer.drop (offset + length) = buffer.drop (offset + piece.length) := by
    rw [List.drop_take, List.drop_drop]
    have hlast : buffer.drop (offset + length) =
        (buffer.drop (offset + piece.length)).drop (length - piece.length) := by
      rw [List.drop_drop, Nat.add_assoc, Nat.add_sub_cancel' hpiece]
    rw [hlast, List.take_append_drop]
  unfold overlay inlay
  rw [List.append_assoc, List.append_assoc, hrest, List.append_assoc]

/-- The four ways of a request: it does not fit, it is for nothing, it starts past the end, or
something is wanted. -/
inductive RequestCourse (view : View) (buffer : List UInt8) (position offset max : Nat) :
    Except Error (Option Nat) -> Prop where
  | misfit :
      buffer.length < offset ->
      RequestCourse view buffer position offset max
        (.error (.outOfBounds (.read position view.size offset buffer.length)))
  | unwanted :
      offset ≤ buffer.length -> min max (buffer.length - offset) = 0 ->
      position ≤ view.size ->
      RequestCourse view buffer position offset max (.ok (some 0))
  | pastEnd :
      offset ≤ buffer.length ->
      ¬ (min max (buffer.length - offset) = 0 ∧ position ≤ view.size) ->
      view.size ≤ position ->
      RequestCourse view buffer position offset max (.ok none)
  | wanted {length : Nat} :
      offset ≤ buffer.length -> length ≠ 0 ->
      length = min (view.size - position) (min max (buffer.length - offset)) ->
      RequestCourse view buffer position offset max (.ok (some length))

theorem requestCourse (view : View) (buffer : List UInt8) (position offset max : Nat) :
    RequestCourse view buffer position offset max
      (view.requestLength buffer.length position offset max) := by
  unfold requestLength
  split
  · rename_i hmisfit
    exact .misfit hmisfit
  · rename_i hbuffer
    have hbuffer := Nat.le_of_not_lt hbuffer
    dsimp only
    split
    · rename_i hunwanted
      exact .unwanted hbuffer hunwanted.1 hunwanted.2
    · rename_i hwanted
      split
      · rename_i hend
        exact .pastEnd hbuffer hwanted hend
      · refine .wanted hbuffer ?_ rfl
        omega

section Faithful

variable {κ σ : Type} [Sink κ] [Source σ] {prompt : Nat -> Prop} {fit : σ -> Host -> Prop}
variable {s : σ} {host : Host} {buffer : List UInt8} {offset max length : Nat}

theorem readInto_delivers (faithful : FaithfulSources data prompt fit)
    (hinside : view.offset + view.size ≤ data.size) (hfit : fit s host) (mode : Mode)
    (hlength : length ≠ 0) (hbuffer : offset + length ≤ buffer.length)
    (hwindow : position + length ≤ view.size) :
    let reading := view.readInto mode s host buffer position offset length
    exists n, reading.outcome = .ok (some n) ∧ 0 < n ∧ n ≤ length ∧
      (prompt length -> n = length) ∧
      reading.buffer = inlay buffer offset (((view.window data).drop position).take n) ∧
      fit reading.source reading.host := by
  have hasked := length_piece hbuffer
  have hne : (buffer.drop offset).take length ≠ [] := by
    apply List.ne_nil_of_length_pos
    rw [hasked]
    exact Nat.pos_of_ne_zero hlength
  rcases faithful.read (view.offset + position) mode hfit hne
    (by rw [hasked]; omega) with ⟨n, hdelivers⟩
  have hle := hdelivers.le
  have hall := hdelivers.all
  rw [hasked] at hle hall
  have hpiece : position + n ≤ view.size := by omega
  refine ⟨n, hdelivers.outcome, hdelivers.pos, hle, hall, ?_, hdelivers.fit⟩
  unfold readInto
  dsimp only
  rw [hdelivers.bytes, slice_window hpiece, inlay_overlay]
  exact Nat.le_trans (List.length_take_le _ _) hle

omit [Source σ] in
/-- Reads into a buffer differ only in what they do when something is wanted. -/
theorem answersRead_of_requested {act : Nat -> Reading (Option Nat) σ}
    (hinside : view.offset + view.size ≤ data.size) (hfit : fit s host)
    (hact : forall length, length ≠ 0 -> offset + length ≤ buffer.length ->
      position + length ≤ view.size ->
      exists n, (act length).outcome = .ok (some n) ∧ 0 < n ∧ n ≤ length ∧
        (prompt length -> n = length) ∧
        (act length).buffer =
          inlay buffer offset (((view.window data).drop position).take n) ∧
        fit (act length).source (act length).host) :
    let reading : Reading (Option Nat) σ :=
      match view.requestLength buffer.length position offset max with
      | .error error => .failed error buffer s host
      | .ok none => .nothing buffer s host
      | .ok (some 0) => .delivered [] buffer s host
      | .ok (some length) => act length
    AnswersRead (view.window data) prompt buffer position offset max reading.outcome
        reading.buffer ∧
      fit reading.source reading.host := by
  have hsize := length_window hinside
  have hcourse := requestCourse view buffer position offset max
  generalize view.requestLength buffer.length position offset max = request at hcourse
  cases hcourse with
  | misfit hmisfit =>
      refine ⟨?_, hfit⟩
      rw [← hsize]
      exact .misfit hmisfit
  | unwanted hbuffer hwanted hposition =>
      rw [← hsize] at hposition
      exact ⟨.unwanted hbuffer hwanted hposition, hfit⟩
  | pastEnd hbuffer hwanted hend =>
      rw [← hsize] at hwanted hend
      exact ⟨.pastEnd hbuffer hwanted hend, hfit⟩
  | wanted hbuffer hlength heq =>
      rename_i length
      rcases hact length hlength (by omega) (by omega) with
        ⟨n, houtcome, hpos, hle, hall, hbytes, hfit'⟩
      have hread : AnswersRead (view.window data) prompt buffer position offset max
          (act length).outcome (act length).buffer := by
        rw [houtcome, hbytes]
        rw [← hsize] at heq
        rw [heq] at hle hall
        exact .delivered hbuffer hpos hle hall
      cases length with
      | zero => exact absurd rfl hlength
      | succ m => exact ⟨hread, hfit'⟩

theorem read_answers (faithful : FaithfulSources data prompt fit)
    (hopen : view.closed = false) (hinside : view.offset + view.size ≤ data.size)
    (hfit : fit s host) (mode : Mode) (buffer : List UInt8) (position offset max : Nat) :
    let reading := view.read mode s host buffer position offset max
    AnswersRead (view.window data) prompt buffer position offset max reading.outcome
        reading.buffer ∧
      fit reading.source reading.host := by
  unfold read
  rw [hopen]
  apply answersRead_of_requested hinside hfit
  intro length hlength hbuffer hwindow
  exact readInto_delivers faithful hinside hfit mode hlength hbuffer hwindow

/-!
## Full reads
-/

/-- Every turn of the loop gets further, until all bytes of the window are there. -/
theorem fillRemaining_fills (faithful : FaithfulSources data prompt fit)
    (hinside : view.offset + view.size ≤ data.size) (mode : Mode) (done rest : List UInt8)
    (position remaining idle : Nat) (hfit : fit s host)
    (hroom : Room view rest position remaining) :
    let reading := view.fillRemaining mode s host done rest position remaining idle
    reading.outcome = .ok () ∧
      reading.buffer = done.reverse ++ ((view.window data).drop position).take remaining ∧
      fit reading.source reading.host := by
  have hreads {s : σ} {host : Host} {rest : List UInt8} {position remaining : Nat}
      (hfit : fit s host) (hroom : Room view rest position remaining)
      (hremaining : ¬ remaining = 0) :
      exists n, Delivers data prompt fit (view.offset + position) rest
        (Source.readVia mode s host (view.offset + position) rest) n := by
    have hrest := hroom.length_eq
    have hwindow := hroom.inside
    apply faithful.read _ mode hfit
    · apply List.ne_nil_of_length_pos
      rw [hrest]
      exact Nat.pos_of_ne_zero hremaining
    · omega
  fun_induction View.fillRemaining mode view s host done rest position remaining idle with
  | case1 s host done rest position idle =>
      have hrest := List.eq_nil_of_length_eq_zero hroom.length_eq
      refine ⟨rfl, ?_, hfit⟩
      rw [hrest, List.reverseAux_eq, List.take_zero]
  | case2 s host done rest position remaining idle hremaining reading error houtcome =>
      rcases hreads hfit hroom hremaining with ⟨n, hdelivers⟩
      cases houtcome.symm.trans hdelivers.outcome
  | case3 s host done rest position remaining idle hremaining reading houtcome =>
      rcases hreads hfit hroom hremaining with ⟨n, hdelivers⟩
      cases houtcome.symm.trans hdelivers.outcome
  | case4 s host done rest position remaining idle hremaining reading houtcome =>
      rcases hreads hfit hroom hremaining with ⟨n, hdelivers⟩
      cases houtcome.symm.trans hdelivers.outcome
      cases hdelivers.pos
  | case5 s host done rest position remaining idle hremaining reading houtcome =>
      rcases hreads hfit hroom hremaining with ⟨n, hdelivers⟩
      cases houtcome.symm.trans hdelivers.outcome
      cases hdelivers.pos
  | case6 s host done rest position remaining idle hremaining reading n houtcome ih =>
      rcases hreads hfit hroom hremaining with ⟨count, hdelivers⟩
      cases houtcome.symm.trans hdelivers.outcome
      have hle : n + 1 ≤ remaining := by
        rw [← hroom.length_eq]
        exact hdelivers.le
      have hwindow := hroom.inside
      have hpiece : slice data (view.offset + position) (n + 1) =
          ((view.window data).drop position).take (n + 1) := slice_window (by omega)
      have hcount : (slice data (view.offset + position) (n + 1)).length = n + 1 :=
        slice_inside (by omega)
      have hfront := take_overlay (slice data (view.offset + position) (n + 1)) rest
      have hback := drop_overlay (slice data (view.offset + position) (n + 1)) rest
      rw [hcount, ← hdelivers.bytes] at hfront hback
      have hroom' : Room view (reading.buffer.drop (n + 1)) (position + (n + 1))
          (remaining - (n + 1)) := by
        refine ⟨?_, by omega⟩
        rw [hback, List.length_drop, hroom.length_eq]
      rcases ih hdelivers.fit hroom' with ⟨hok, hbytes, hfit'⟩
      refine ⟨hok, ?_, hfit'⟩
      rw [hbytes, hfront, List.reverseAux_eq, List.reverse_append, List.reverse_reverse,
        List.append_assoc, hpiece, ← List.drop_drop, ← List.take_add,
        Nat.add_sub_cancel' hle]

theorem fill_fills (faithful : FaithfulSources data prompt fit)
    (hinside : view.offset + view.size ≤ data.size) (hfit : fit s host) (mode : Mode)
    (position : Nat) (buffer : List UInt8) (hwindow : position + buffer.length ≤ view.size) :
    let reading := view.fill mode s host position buffer
    reading.outcome = .ok () ∧
      reading.buffer = ((view.window data).drop position).take buffer.length ∧
      fit reading.source reading.host :=
  fillRemaining_fills faithful hinside mode [] buffer position buffer.length 0 hfit
    ⟨rfl, hwindow⟩

theorem length_window_piece (hinside : view.offset + view.size ≤ data.size)
    (hpiece : position + n ≤ view.size) :
    (((view.window data).drop position).take n).length = n := by
  rw [List.length_take, List.length_drop, length_window hinside]
  omega

theorem readFully_answers (faithful : FaithfulSources data prompt fit)
    (hopen : view.closed = false) (hinside : view.offset + view.size ≤ data.size)
    (hfit : fit s host) (mode : Mode) (buffer : List UInt8) (position offset max : Nat) :
    let reading := view.readFully mode s host buffer position offset max
    AnswersRead (view.window data) (fun _ => True) buffer position offset max reading.outcome
        reading.buffer ∧
      fit reading.source reading.host := by
  unfold readFully
  rw [hopen]
  apply answersRead_of_requested hinside hfit
  intro length hlength hbuffer hwindow
  have hasked := length_piece hbuffer
  rcases fill_fills faithful hinside hfit mode position ((buffer.drop offset).take length)
    (by rw [hasked]; exact hwindow) with ⟨hok, hbytes, hfit'⟩
  rw [hasked] at hbytes
  refine ⟨length, ?_, Nat.pos_of_ne_zero hlength, Nat.le_refl _, fun _ => rfl, ?_, hfit'⟩
  · dsimp only
    rw [hok]
    rfl
  · dsimp only
    rw [hbytes]
    unfold inlay
    rw [length_window_piece hinside hwindow]

theorem readFrom_answers (faithful : FaithfulSources data prompt fit)
    (hopen : view.closed = false) (hinside : view.offset + view.size ≤ data.size)
    (hfit : fit s host) (mode : Mode) (position max : Nat) :
    let read := view.readFrom mode s host position max
    read.1 = answerFrom (view.window data) position max ∧ fit read.2.1 read.2.2 := by
  unfold readFrom availableLength answerFrom
  rw [hopen, length_window hinside]
  by_cases houtside : view.size < position
  · rw [if_pos houtside, if_pos houtside]
    exact ⟨rfl, hfit⟩
  · rw [if_neg houtside, if_neg houtside]
    have hlength : (List.replicate (min (view.size - position) max) (0 : UInt8)).length =
        min (view.size - position) max := List.length_replicate
    rcases fill_fills faithful hinside hfit mode position
      (List.replicate (min (view.size - position) max) 0) (by rw [hlength]; omega) with
      ⟨hok, hbytes, hfit'⟩
    refine ⟨?_, hfit'⟩
    dsimp only
    rw [hok, hbytes, hlength, List.take_eq_take_min (i := max), List.length_drop,
      length_window hinside, Nat.min_comm]
    rfl

theorem readAll_answers (faithful : FaithfulSources data prompt fit)
    (hopen : view.closed = false) (hinside : view.offset + view.size ≤ data.size)
    (hfit : fit s host) (mode : Mode) :
    let read := view.readAll mode s host
    read.1 = .ok (view.window data) ∧ fit read.2.1 read.2.2 := by
  have hsize := length_window hinside
  have hanswers := readFrom_answers faithful hopen hinside hfit mode 0 view.size
  unfold readAll
  refine ⟨hanswers.1.trans ?_, hanswers.2⟩
  unfold answerFrom
  rw [if_neg (Nat.not_lt_zero _), List.drop_zero, ← hsize, List.take_length]

theorem readByteAt_answers (faithful : FaithfulSources data prompt fit)
    (hopen : view.closed = false) (hinside : view.offset + view.size ≤ data.size)
    (hfit : fit s host) (position : Nat) :
    let read := view.readByteAt s host position
    read.1 = .ok (view.window data)[position]? ∧ fit read.2.1 read.2.2 := by
  have hsize := length_window hinside
  unfold readByteAt
  rw [hopen]
  by_cases hend : view.size ≤ position
  · rw [if_neg Bool.false_ne_true, if_pos hend, List.getElem?_eq_none (hsize ▸ hend)]
    exact ⟨rfl, hfit⟩
  · have hposition := Nat.lt_of_not_le hend
    rcases faithful.byte (view.offset + position) hfit (by omega) with
      ⟨hbyte, hfit'⟩
    rw [if_neg Bool.false_ne_true, if_neg hend]
    rw [getElem?_window hposition] at hbyte
    generalize Source.readByteAt s host (view.offset + position) = read at hbyte hfit'
    rcases read with ⟨outcome, s', host'⟩
    dsimp only at hbyte hfit'
    rw [hbyte, List.getElem?_eq_getElem (hsize ▸ hposition)]
    exact ⟨rfl, hfit'⟩

/-!
## Transfers
-/

/-- A read of the whole buffer within the window delivers at least one byte to its front. -/
theorem read_delivers (faithful : FaithfulSources data prompt fit)
    (hopen : view.closed = false) (hinside : view.offset + view.size ≤ data.size)
    (hfit : fit s host) (mode : Mode) (hbuffer : buffer ≠ [])
    (hposition : position < view.size) :
    let reading := view.read mode s host buffer position 0 buffer.length
    exists n, reading.outcome = .ok (some n) ∧ 0 < n ∧ position + n ≤ view.size ∧
      reading.buffer.take n = ((view.window data).drop position).take n ∧
      reading.buffer.length = buffer.length ∧ fit reading.source reading.host := by
  have hpos := List.length_pos_iff.mpr hbuffer
  have hsize := length_window hinside
  rcases read_answers faithful hopen hinside hfit mode buffer position 0 buffer.length with
    ⟨hanswers, hfit'⟩
  dsimp only at hanswers hfit' ⊢
  generalize view.read mode s host buffer position 0 buffer.length = reading
    at hanswers hfit' ⊢
  rcases reading with ⟨outcome, buffer', s', host'⟩
  dsimp only at hanswers ⊢
  cases hanswers with
  | misfit hmisfit => exact absurd hmisfit (Nat.not_lt_zero _)
  | unwanted _ hunwanted _ =>
      rw [Nat.sub_zero, Nat.min_self] at hunwanted
      exact absurd hunwanted (Nat.ne_of_gt hpos)
  | pastEnd _ _ hend =>
      rw [hsize] at hend
      exact absurd hposition (Nat.not_lt_of_le hend)
  | delivered _hbuffer hn hle _hall =>
      rename_i n
      rw [hsize] at hle
      have hwindow : position + n ≤ view.size := by omega
      have hpiece := length_window_piece hinside hwindow
      refine ⟨n, rfl, hn, hwindow, ?_, ?_, hfit'⟩
      · unfold inlay
        rw [List.take_zero, List.nil_append, List.take_left' hpiece]
      · unfold inlay
        rw [List.take_zero, List.nil_append, List.length_append, List.length_drop, hpiece]
        omega

/-- Every turn of the loop writes at least one byte, until the window is written. -/
theorem transferRemaining_writes (faithful : FaithfulSources data prompt fit)
    (hopen : view.closed = false) (hinside : view.offset + view.size ≤ data.size)
    (mode : Mode) (patience : Nat) (sink : κ) (buffer : List UInt8) (position idle : Nat)
    (hfit : fit s host) (hbuffer : buffer ≠ []) (hposition : position ≤ view.size) :
    let left := view.transferRemaining mode patience sink s host buffer position idle
    fit left.source left.host ∧
      forall willing contents, Collects willing contents -> willing sink ->
        left.outcome = .ok view.size ∧
          contents left.sink = contents sink ++ (view.window data).drop position := by
  fun_induction View.transferRemaining mode patience view sink s host buffer position idle with
  | case1 sink s host buffer position idle hmore reading stop error houtcome =>
      rcases read_delivers faithful hopen hinside hfit mode hbuffer hmore with ⟨n, hread, _⟩
      cases houtcome.symm.trans hread
  | case2 sink s host buffer position idle hmore reading stop houtcome =>
      rcases read_delivers faithful hopen hinside hfit mode hbuffer hmore with ⟨n, hread, _⟩
      cases houtcome.symm.trans hread
  | case3 sink s host buffer position idle hmore reading houtcome =>
      rcases read_delivers faithful hopen hinside hfit mode hbuffer hmore with
        ⟨n, hread, hpos, _⟩
      cases houtcome.symm.trans hread
      cases hpos
  | case4 sink s host buffer position idle hmore reading stop houtcome =>
      rcases read_delivers faithful hopen hinside hfit mode hbuffer hmore with
        ⟨n, hread, hpos, _⟩
      cases houtcome.symm.trans hread
      cases hpos
  | case5 sink s host buffer position idle hmore reading stop n houtcome cause sink' hwritten =>
      rcases read_delivers faithful hopen hinside hfit mode hbuffer hmore with
        ⟨count, _, _, _, _, _, hfit'⟩
      refine ⟨hfit', ?_⟩
      intro willing contents collects hwilling
      have hall := collects.writeAllPatiently mode sink (reading.buffer.take (n + 1))
        patience hwilling
      rw [hwritten] at hall
      cases hall.1
  | case6 sink s host buffer position idle hmore reading n houtcome sink' hwritten ih =>
      rcases read_delivers faithful hopen hinside hfit mode hbuffer hmore with
        ⟨count, hread, _, hwindow, hbytes, hlength, hfit'⟩
      cases houtcome.symm.trans hread
      have hbuffer' : reading.buffer ≠ [] := by
        intro hnil
        rw [hnil] at hlength
        exact hbuffer (List.eq_nil_of_length_eq_zero hlength.symm)
      rcases ih hfit' hbuffer' hwindow with ⟨hfit'', hrest⟩
      refine ⟨hfit'', ?_⟩
      intro willing contents collects hwilling
      have hall := collects.writeAllPatiently mode sink (reading.buffer.take (n + 1))
        patience hwilling
      rw [hwritten] at hall
      rcases hall with ⟨_, hwilling', hcontents⟩
      rcases hrest willing contents collects hwilling' with ⟨hok, hcontents'⟩
      refine ⟨hok, ?_⟩
      rw [hcontents', hcontents, hbytes, List.append_assoc, ← List.drop_drop,
        List.take_append_drop]
  | case7 sink s host buffer position idle hdone sink' hflushed =>
      have hend : position = view.size := Nat.le_antisymm hposition (Nat.le_of_not_lt hdone)
      refine ⟨hfit, ?_⟩
      intro willing contents collects hwilling
      have hflush := (collects.flush hwilling).2
      rw [hflushed] at hflush
      refine ⟨congrArg Except.ok hend, hflush.trans ?_⟩
      rw [List.drop_eq_nil_of_le (by rw [length_window hinside, hend]), List.append_nil]
  | case8 sink s host buffer position idle hdone cause sink' hflushed =>
      refine ⟨hfit, ?_⟩
      intro willing contents collects hwilling
      have hflush := (collects.flush hwilling).1
      rw [hflushed] at hflush
      cases hflush

theorem transfer_writes (faithful : FaithfulSources data prompt fit)
    (hopen : view.closed = false) (hinside : view.offset + view.size ≤ data.size)
    (hfit : fit s host) (mode : Mode) (sink : κ) (bufferSize : Nat) :
    let left := view.transfer mode sink s host bufferSize
    fit left.source left.host ∧
      forall willing contents, Collects willing contents -> willing sink ->
        left.outcome = .ok view.size ∧
          contents left.sink = contents sink ++ view.window data := by
  have hsize := length_window hinside
  unfold transfer
  by_cases hempty : view.size = 0
  · rw [if_pos hempty, hopen, if_neg Bool.false_ne_true]
    refine ⟨hfit, ?_⟩
    intro willing contents collects hwilling
    refine ⟨congrArg Except.ok hempty.symm, ?_⟩
    rw [List.eq_nil_of_length_eq_zero (hsize.trans hempty), List.append_nil]
  · rw [if_neg hempty]
    have hbuffer : List.replicate (view.transferBufferLength bufferSize) (0 : UInt8) ≠ [] := by
      apply List.ne_nil_of_length_pos
      rw [List.length_replicate]
      unfold transferBufferLength minTransferBuffer
      omega
    have hwrites := transferRemaining_writes faithful hopen hinside mode host.patience sink _ 0 0
      hfit hbuffer (Nat.zero_le _)
    rw [List.drop_zero] at hwrites
    exact hwrites

/-!
## Readers
-/

theorem readerRead_answers (faithful : FaithfulSources data prompt fit)
    (hopen : view.closed = false) (hinside : view.offset + view.size ≤ data.size)
    (hfit : fit s host) (reader : Reader) (buffer : List UInt8) :
    let read := reader.read view s host buffer
    (Operation.readerRead (κ := κ) reader buffer).AnsweredBy (view.window data) prompt
        (.consumed read.1.outcome read.1.reader read.2) ∧
      fit read.1.source read.1.host := by
  have hasked : reader.askedLength view buffer =
      min buffer.length ((view.window data).length - reader.position) := by
    rw [length_window hinside]
    rfl
  by_cases hzero : reader.askedLength view buffer = 0
  · rw [Reader.read_unasked hzero]
    refine ⟨⟨0, ?_, Nat.zero_le _, fun _ => hasked ▸ hzero, fun _ => (hasked ▸ hzero).symm⟩,
      hfit⟩
    unfold inlay
    rw [List.take_zero, List.take_zero]
    rfl
  · have hle : reader.askedLength view buffer ≤ buffer.length := Nat.min_le_left _ _
    have hroom : reader.position + reader.askedLength view buffer ≤ view.size := by
      unfold Reader.askedLength Reader.available at hzero ⊢
      omega
    have hlength := List.length_take_of_le hle
    have hne : buffer.take (reader.askedLength view buffer) ≠ [] := by
      apply List.ne_nil_of_length_pos
      rw [hlength]
      exact Nat.pos_of_ne_zero hzero
    rcases faithful.read (view.offset + reader.position) .blocking hfit hne
      (by rw [hlength]; omega) with ⟨n, hdelivers⟩
    have hcount := hdelivers.le
    have hall := hdelivers.all
    rw [hlength] at hcount hall
    have hwindow : reader.position + n ≤ view.size := by omega
    have hanswer : reader.answer view s host buffer =
        Source.readVia .blocking s host (view.offset + reader.position)
          (buffer.take (reader.askedLength view buffer)) := rfl
    rw [Reader.read_asked hopen hzero, hanswer]
    refine ⟨⟨n, ?_, hasked ▸ hcount, ?_, hasked ▸ hall⟩, hdelivers.fit⟩
    · dsimp only
      rw [hdelivers.outcome, hdelivers.bytes, slice_window hwindow]
      have hpiece : (((view.window data).drop reader.position).take n).length ≤
          reader.askedLength view buffer := Nat.le_trans (List.length_take_le _ _) hcount
      have hlaid := inlay_overlay buffer 0 hpiece
      rw [List.drop_zero, List.take_zero, List.nil_append, Nat.zero_add] at hlaid
      rw [hlaid]
      rfl
    · intro hnone
      exact absurd hnone (Nat.ne_of_gt hdelivers.pos)

theorem readerReadByte_answers (faithful : FaithfulSources data prompt fit)
    (hopen : view.closed = false) (hinside : view.offset + view.size ≤ data.size)
    (hfit : fit s host) (reader : Reader) :
    let read := reader.readByte view s host
    (Operation.readerReadByte (κ := κ) reader).AnsweredBy (view.window data) prompt
        (.consumedByte read.outcome read.reader) ∧
      fit read.source read.host := by
  rcases readByteAt_answers faithful hopen hinside hfit reader.position with ⟨hbyte, hfit'⟩
  unfold Reader.readByte
  dsimp only at hbyte hfit' ⊢
  generalize view.readByteAt s host reader.position = read at hbyte hfit' ⊢
  rcases read with ⟨outcome, s', host'⟩
  dsimp only at hbyte hfit'
  rw [hbyte]
  by_cases hposition : reader.position < (view.window data).length
  · rw [List.getElem?_eq_getElem hposition]
    refine ⟨?_, hfit'⟩
    dsimp only [Operation.AnsweredBy]
    rw [List.getElem?_eq_getElem hposition, if_pos hposition]
  · rw [List.getElem?_eq_none (Nat.le_of_not_lt hposition)]
    refine ⟨?_, hfit'⟩
    dsimp only [Operation.AnsweredBy]
    rw [List.getElem?_eq_none (Nat.le_of_not_lt hposition), if_neg hposition]

end Faithful
end View

/-- Whatever an open view over a faithful source is asked, its window tells the answer, and
the source stays fit. -/
theorem Operation.perform_answers {κ σ : Type} [Sink κ] [Source σ] {data : Array UInt8}
    {prompt : Nat -> Prop} {fit : σ -> Host -> Prop} (faithful : FaithfulSources data prompt fit)
    {view : View} (hopen : view.closed = false)
    (hinside : view.offset + view.size ≤ data.size) {s : σ} {host : Host}
    (hfit : fit s host) (operation : Operation κ) :
    operation.AnsweredBy (view.window data) prompt (operation.perform view s host).1 ∧
      fit (operation.perform view s host).2.1 (operation.perform view s host).2.2 := by
  cases operation with
  | read mode buffer position offset max =>
      rcases View.read_answers faithful hopen hinside hfit mode buffer position offset max with
        ⟨hanswers, hfit'⟩
      exact ⟨⟨_, _, rfl, hanswers⟩, hfit'⟩
  | readAt position buffer =>
      rcases View.read_answers faithful hopen hinside hfit .blocking buffer position 0
        buffer.length with ⟨hanswers, hfit'⟩
      exact ⟨⟨_, _, rfl, hanswers⟩, hfit'⟩
  | readFully mode buffer position offset max =>
      rcases View.readFully_answers faithful hopen hinside hfit mode buffer position offset
        max with ⟨hanswers, hfit'⟩
      exact ⟨⟨_, _, rfl, hanswers⟩, hfit'⟩
  | readFrom mode position max =>
      rcases View.readFrom_answers faithful hopen hinside hfit mode position max with
        ⟨hanswers, hfit'⟩
      exact ⟨congrArg Answer.bytes hanswers, hfit'⟩
  | readAll mode =>
      rcases View.readAll_answers faithful hopen hinside hfit mode with ⟨hanswers, hfit'⟩
      exact ⟨congrArg Answer.bytes hanswers, hfit'⟩
  | readByteAt position =>
      rcases View.readByteAt_answers faithful hopen hinside hfit position with
        ⟨hanswers, hfit'⟩
      exact ⟨congrArg Answer.byte hanswers, hfit'⟩
  | transfer mode sink bufferSize =>
      rcases View.transfer_writes faithful hopen hinside hfit mode sink bufferSize with
        ⟨hfit', hwrites⟩
      refine ⟨?_, hfit'⟩
      intro willing contents collects hwilling
      rcases hwrites willing contents collects hwilling with ⟨hok, hcontents⟩
      refine ⟨_, ?_, hcontents⟩
      rw [View.length_window hinside, ← hok]
      rfl
  | readerRead reader buffer =>
      exact View.readerRead_answers faithful hopen hinside hfit reader buffer
  | readerReadByte reader =>
      exact View.readerReadByte_answers faithful hopen hinside hfit reader
  | readerSkip reader n =>
      refine ⟨?_, hfit⟩
      dsimp only [Operation.AnsweredBy]
      rw [View.length_window hinside]
      rfl

end ByteWindow
