import Mathlib.Data.List.Permutation
import ByteWindow.Proofs.View.Bounds
import ByteWindow.Proofs.View.FullRead
import ByteWindow.Reader.Drain

/-!
# What a reader takes for the end

A reader counts no bytes at the end of its view.  It also counts none if its source answers
with an empty piece, and nobody can tell the one from the other.  Full reads ask such a
source again; a reader does not.  So who reads to the end can miss bytes without a failure.
Nothing is missed if the source never answers with an empty piece.
-/

namespace ByteWindow

/-- A source that never answers with an empty piece when it is asked for bytes. -/
def Lively (σ : Type) [Source σ] : Prop :=
  forall (s : σ) (host : Host) (position : Nat) (buffer : List UInt8), buffer ≠ [] ->
    (Source.readAt s host position buffer).outcome ≠ .ok (some 0)

namespace Reader

variable {σ : Type} [Source σ]

/-!
## One read
-/

/-- What a reader reports of an answer of its source. -/
def report (reader : Reader) (view : View) :
    Except Error (Option Nat) -> Except ConsumerError Nat
  | .error error => .error (.ofError error)
  | .ok none => .error (.ofError (view.unexpectedEof reader.position))
  | .ok (some n) => .ok n

/-- A reader moves behind the bytes that were delivered. -/
def moved (reader : Reader) : Except Error (Option Nat) -> Reader
  | .ok (some n) => { reader with position := reader.position + n }
  | _ => reader

/-- How many bytes a reader asks its source for. -/
def askedLength (reader : Reader) (view : View) (buffer : List UInt8) : Nat :=
  min buffer.length (reader.available view)

/-- The answer of the source when a reader asks for the next bytes. -/
def answer (reader : Reader) (view : View) (s : σ) (host : Host) (buffer : List UInt8) :
    Reading (Option Nat) σ :=
  Source.readAt s host (view.offset + reader.position)
    (buffer.take (reader.askedLength view buffer))

variable {reader : Reader} {view : View} {s : σ} {host : Host} {buffer : List UInt8}

theorem askedLength_eq_zero (reader : Reader) (view : View) (hbuffer : buffer ≠ []) :
    reader.askedLength view buffer = 0 <-> view.size ≤ reader.position := by
  have hlength := List.length_pos_iff.mpr hbuffer
  unfold askedLength available
  omega

theorem read_unasked (h : reader.askedLength view buffer = 0) :
    reader.read view s host buffer =
      ({ outcome := .ok 0, reader, source := s, host }, buffer) :=
  if_pos h

/-- A request for the bytes that a reader asks for passes the bounds. -/
theorem requestLength_askedLength (h : reader.askedLength view buffer ≠ 0) :
    view.requestLength buffer.length reader.position 0 (reader.askedLength view buffer) =
      .ok (some (reader.askedLength view buffer)) := by
  unfold askedLength available at h ⊢
  unfold View.requestLength
  rw [if_neg (Nat.not_lt_zero _)]
  dsimp only
  rw [if_neg (by omega), if_neg (by omega)]
  congr 2
  omega

theorem viewRead_asked (hopen : view.closed = false)
    (h : reader.askedLength view buffer ≠ 0) :
    view.read .blocking s host buffer reader.position 0 (reader.askedLength view buffer) =
      { reader.answer view s host buffer with
        buffer := (reader.answer view s host buffer).buffer ++
          buffer.drop (reader.askedLength view buffer) } := by
  rw [View.read_eq_readInto hopen .blocking s host (requestLength_askedLength h) h]
  unfold View.readInto answer
  rw [Nat.zero_add]
  rfl

theorem read_asked (hopen : view.closed = false) (h : reader.askedLength view buffer ≠ 0) :
    reader.read view s host buffer =
      let answer := reader.answer view s host buffer
      ({ outcome := reader.report view answer.outcome
         reader := reader.moved answer.outcome
         source := answer.source
         host := answer.host },
        answer.buffer ++ buffer.drop (reader.askedLength view buffer)) := by
  unfold read
  dsimp only
  rw [show min buffer.length (reader.available view) = reader.askedLength view buffer from rfl,
    if_neg h, viewRead_asked hopen h]
  dsimp only
  rcases (reader.answer view s host buffer).outcome with error | (none | n) <;> rfl

/-- A reader counts no bytes at the end of the view, and when its source answers with an
empty piece; and only then. -/
theorem read_eq_zero_iff (hopen : view.closed = false) (hbuffer : buffer ≠ []) :
    (reader.read view s host buffer).1.outcome = .ok 0 <->
      view.size ≤ reader.position ∨
        (reader.answer view s host buffer).outcome = .ok (some 0) := by
  rw [← askedLength_eq_zero reader view hbuffer]
  by_cases hasked : reader.askedLength view buffer = 0
  · rw [read_unasked hasked]
    simp only [hasked, true_or]
  · rw [read_asked hopen hasked]
    dsimp only
    constructor
    · intro hreport
      cases houtcome : (reader.answer view s host buffer).outcome with
      | error error =>
          rw [houtcome] at hreport
          cases hreport
      | ok delivered =>
          rw [houtcome] at hreport
          cases delivered with
          | none => cases hreport
          | some n =>
              cases hreport
              exact .inr rfl
    · intro hzero
      rcases hzero with hzero | hzero
      · exact absurd hzero hasked
      · rw [hzero]
        rfl

/-!
## Reading on until the end
-/

/-- A read that delivered `n` bytes to the front of a buffer.  It went forward by as many,
and it delivered none only at the end. -/
structure Advanced (reader : Reader) (view : View) (buffer : List UInt8)
    (attempt : Consumed Nat σ × List UInt8) (n : Nat) : Prop where
  within : n ≤ reader.available view
  fits : n ≤ buffer.length
  length_eq : attempt.2.length = buffer.length
  position_eq : attempt.1.reader.position = reader.position + n
  ended : n = 0 -> view.size ≤ reader.position

namespace Advanced

variable {attempt : Consumed Nat σ × List UInt8} {n : Nat}

omit [Source σ]

theorem length_take (advanced : Advanced reader view buffer attempt n) :
    (attempt.2.take n).length = n := by
  apply List.length_take_of_le
  rw [advanced.length_eq]
  exact advanced.fits

/-- What was delivered and what is left then are what was left before. -/
theorem add_available (advanced : Advanced reader view buffer attempt n) :
    n + attempt.1.reader.available view = reader.available view := by
  have hwithin := advanced.within
  unfold available at hwithin ⊢
  rw [advanced.position_eq, Nat.sub_add_eq, Nat.add_sub_cancel' hwithin]

theorem available_of_ended (advanced : Advanced reader view buffer attempt n)
    (hnone : n = 0) : reader.available view = 0 :=
  Nat.sub_eq_zero_of_le (advanced.ended hnone)

end Advanced

theorem length_read (hfits : FitsBuffers σ) (hopen : view.closed = false)
    (reader : Reader) (s : σ) (host : Host) (buffer : List UInt8) :
    (reader.read view s host buffer).2.length = buffer.length := by
  by_cases hasked : reader.askedLength view buffer = 0
  · rw [read_unasked hasked]
  · have hle : reader.askedLength view buffer ≤ buffer.length := Nat.min_le_left _ _
    have hanswer : (reader.answer view s host buffer).buffer.length =
        (buffer.take (reader.askedLength view buffer)).length :=
      hfits.length .blocking s host _ _
    rw [read_asked hopen hasked]
    dsimp only
    rw [List.length_append, hanswer, ← List.length_append, List.take_append_drop]

theorem advanced_read (hfits : FitsBuffers σ) (hlively : Lively σ)
    (hopen : view.closed = false) (hbuffer : buffer ≠ []) {n : Nat}
    (h : (reader.read view s host buffer).1.outcome = .ok n) :
    Advanced reader view buffer (reader.read view s host buffer) n := by
  have hlength := length_read hfits hopen reader s host buffer
  by_cases hasked : reader.askedLength view buffer = 0
  · rw [read_unasked hasked] at h hlength ⊢
    cases h
    exact ⟨Nat.zero_le _, Nat.zero_le _, hlength, rfl,
      fun _ => (askedLength_eq_zero reader view hbuffer).mp hasked⟩
  · have hpiece : buffer.take (reader.askedLength view buffer) ≠ [] := by
      intro hnil
      rcases List.take_eq_nil_iff.mp hnil with hzero | hnil
      · exact hasked hzero
      · exact hbuffer hnil
    rw [read_asked hopen hasked] at h hlength ⊢
    dsimp only at h hlength ⊢
    cases houtcome : (reader.answer view s host buffer).outcome with
    | error error =>
        rw [houtcome] at h
        cases h
    | ok delivered =>
        rw [houtcome] at h
        cases delivered with
        | none => cases h
        | some count =>
            cases h
            have hread : (Source.readVia .blocking s host (view.offset + reader.position)
                (buffer.take (reader.askedLength view buffer))).outcome = .ok (some n) :=
              houtcome
            have hcount := hfits.count hread
            rw [List.length_take] at hcount
            have hle : n ≤ reader.askedLength view buffer :=
              Nat.le_trans hcount (Nat.min_le_left _ _)
            refine ⟨Nat.le_trans hle (Nat.min_le_right _ _),
              Nat.le_trans hle (Nat.min_le_left _ _), hlength, rfl, ?_⟩
            intro hzero
            rw [hzero] at houtcome
            exact absurd houtcome (hlively _ _ _ _ hpiece)

/-- A repeated read is one of the reads that it makes. -/
theorem readPatiently_eq_read (hfits : FitsBuffers σ) (hopen : view.closed = false)
    (reader : Reader) (s : σ) (host : Host) (buffer : List UInt8) (patience : Nat) :
    exists (s' : σ) (host' : Host) (buffer' : List UInt8),
      buffer'.length = buffer.length ∧
      reader.readPatiently view s host buffer patience =
        reader.read view s' host' buffer' := by
  induction patience generalizing s host buffer with
  | zero => exact ⟨s, host, buffer, rfl, rfl⟩
  | succ patience ih =>
      have hlength := length_read hfits hopen reader s host buffer
      unfold readPatiently
      dsimp only
      split
      · exact ⟨s, host, buffer, rfl, rfl⟩
      · split
        · rcases ih (reader.read view s host buffer).1.source
            (reader.read view s host buffer).1.host (reader.read view s host buffer).2 with
            ⟨s', host', buffer', hbuffer', hread⟩
          exact ⟨s', host', buffer', hbuffer'.trans hlength, hread⟩
        · exact ⟨s, host, buffer, rfl, rfl⟩

theorem advanced_readPatiently (hfits : FitsBuffers σ) (hlively : Lively σ)
    (hopen : view.closed = false) (hbuffer : buffer ≠ []) {patience n : Nat}
    (h : (reader.readPatiently view s host buffer patience).1.outcome = .ok n) :
    Advanced reader view buffer (reader.readPatiently view s host buffer patience) n := by
  rcases readPatiently_eq_read hfits hopen reader s host buffer patience with
    ⟨s', host', buffer', hlength, hread⟩
  have hbuffer' : buffer' ≠ [] := by
    intro hnil
    rw [hnil] at hlength
    exact hbuffer (List.eq_nil_of_length_eq_zero hlength.symm)
  rw [hread] at h ⊢
  have hadvanced := advanced_read hfits hlively hopen hbuffer' h
  exact ⟨hadvanced.within, hlength ▸ hadvanced.fits, hadvanced.length_eq.trans hlength,
    hadvanced.position_eq, hadvanced.ended⟩

namespace Room

variable {room : Room}

theorem limit_opened (taken : Nat) : (room.opened taken).limit = room.limit := by
  unfold opened grown
  split
  · dsimp only
    split <;> rfl
  · rfl

theorem probeLength_le_spare (room : Room) (taken : Nat) :
    probeLength ≤ (room.grown taken).capacity - taken := by
  unfold grown
  split
  · apply Nat.le_sub_of_add_le
    rw [Nat.add_comm]
    exact Nat.le_max_right _ _
  · rename_i hspare
    exact Nat.le_of_not_lt hspare

/-- There is always room for one more byte. -/
theorem window_opened_pos (hlimit : 0 < room.limit) (taken : Nat) :
    0 < (room.opened taken).window := by
  unfold opened
  split
  · have hspare := probeLength_le_spare room taken
    have hkept : (room.grown taken).limit = room.limit := by
      unfold grown
      split <;> rfl
    dsimp only
    rw [hkept]
    exact Nat.lt_min.mpr ⟨Nat.lt_of_lt_of_le (by decide) hspare, hlimit⟩
  · rename_i hwindow
    exact Nat.lt_of_lt_of_le (by decide) (Nat.le_of_not_lt hwindow)

theorem window_ne_nil (hlimit : 0 < room.limit) (taken : Nat) :
    List.replicate (room.opened taken).window (0 : UInt8) ≠ [] := by
  apply List.ne_nil_of_length_pos
  rw [List.length_replicate]
  exact window_opened_pos hlimit taken

theorem limit_filled_pos (hlimit : 0 < room.limit) (delivered : Nat) :
    0 < (room.filled delivered).limit := by
  unfold filled
  dsimp only
  split
  · exact Nat.mul_pos Nat.two_pos hlimit
  · exact hlimit

end Room

theorem gather_complete (hfits : FitsBuffers σ) (hlively : Lively σ)
    (hopen : view.closed = false) {room : Room} (hlimit : 0 < room.limit)
    {taken : Array UInt8} {n : Nat}
    (h : (reader.gather view s host room taken).1.outcome = .ok n) :
    n = taken.size + reader.available view ∧
      (reader.gather view s host room taken).2.size = n := by
  fun_induction Reader.gather reader view s host room taken with
  | case1 => cases h
  | case2 reader s host room taken opened attempt finish houtcome =>
      have hadvanced := advanced_readPatiently hfits hlively hopen
        (Room.window_ne_nil hlimit taken.size) houtcome
      cases h
      rw [hadvanced.available_of_ended rfl]
      exact ⟨rfl, rfl⟩
  | case3 reader s host room taken opened attempt count houtcome ih =>
      have hadvanced := advanced_readPatiently hfits hlively hopen
        (Room.window_ne_nil hlimit taken.size) houtcome
      have hkept : 0 < opened.limit := by
        rw [Room.limit_opened]
        exact hlimit
      rcases ih (Room.limit_filled_pos hkept _) h with ⟨hcount, hsize⟩
      refine ⟨?_, hsize⟩
      rw [hcount, ← hadvanced.add_available, ← Array.length_toList,
        Array.toList_appendList, List.length_append, hadvanced.length_take,
        Array.length_toList, Nat.add_assoc]

/-- Who reads to the end without a failure has all bytes from the position of the reader on,
provided that the source never answers with an empty piece. -/
theorem readToEnd_complete (hfits : FitsBuffers σ) (hlively : Lively σ)
    (hopen : view.closed = false) {n : Nat}
    (h : (reader.readToEnd view s host).1.outcome = .ok n) :
    n = view.size - reader.position ∧ (reader.readToEnd view s host).2.size = n := by
  have hprobe : List.replicate probeLength (0 : UInt8) ≠ [] := by
    intro hnil
    cases hnil
  unfold readToEnd at h ⊢
  dsimp only at h ⊢
  split at h
  · rename_i error houtcome
    rw [houtcome] at h
    cases h
  · rename_i houtcome
    have hadvanced := advanced_readPatiently hfits hlively hopen hprobe houtcome
    rw [houtcome] at h
    cases h
    exact ⟨(hadvanced.available_of_ended rfl).symm, rfl⟩
  · rename_i count houtcome
    have hadvanced := advanced_readPatiently hfits hlively hopen hprobe houtcome
    have hlimit : 0 < (Room.afterProbe (count + 1)).limit := Nat.zero_lt_succ _
    have hgathered := gather_complete hfits hlively hopen hlimit h
    rw [List.size_toArray, hadvanced.length_take, hadvanced.add_available] at hgathered
    exact hgathered

/-- A reader reports the end of its view, and an empty piece as if it were the end. -/
theorem reports_end (hfits : FitsBuffers σ) (hopen : view.closed = false) (reader : Reader)
    (s : σ) (host : Host) :
    (forall buffer, buffer ≠ [] ->
      ((reader.read view s host buffer).1.outcome = .ok 0 <->
        view.size ≤ reader.position ∨
          (reader.answer view s host buffer).outcome = .ok (some 0))) ∧
    (Lively σ -> forall n, (reader.readToEnd view s host).1.outcome = .ok n ->
      n = view.size - reader.position ∧ (reader.readToEnd view s host).2.size = n) := by
  constructor
  · intro buffer hbuffer
    exact read_eq_zero_iff hopen hbuffer
  · intro hlively n hread
    exact readToEnd_complete hfits hlively hopen hread

/-!
## Sources with and without empty pieces
-/

open Scripted

/-- A source of three bytes whose first answer is an empty piece.  A full read asks again and
delivers the three bytes; a reader reports the end at the front. -/
theorem read_misses_bytes :
    let source : ScriptedSource := { data := #[1, 2, 3], size := 3, replies := [.empty] }
    let view : View := { offset := 0, size := 3 }
    let reader : Reader := {}
    (view.readAll .blocking source {}).1 = .ok [1, 2, 3] ∧
      (reader.read view source {} [0, 0]).1.outcome = .ok 0 ∧
      (reader.readToEnd view source {}).1.outcome = .ok 0 ∧
      ¬ view.size ≤ reader.position := by
  refine ⟨?_, ?_, ?_, ?_⟩
  · cbv
  · cbv
  · cbv
  · decide

end Reader

theorem Memory.lively : Lively Memory := by
  intro s host position buffer hbuffer hread
  simp only [Source.readAt] at hread
  split at hread
  · rename_i hposition
    have hzero : (slice s.bytes position buffer.length).length = 0 :=
      Option.some.inj (Except.ok.inj hread)
    rw [length_slice] at hzero
    have hlength := List.length_pos_iff.mpr hbuffer
    omega
  · cases hread

namespace Reader

theorem reports_end_memory :
    let source : Memory := { bytes := #[1, 2, 3, 4, 5] }
    let view : View := { offset := 1, size := 4 }
    let reader : Reader := { position := 1 }
    ((reader.read view source {} [0, 0]).1.outcome = .ok 0 <->
        view.size ≤ reader.position ∨
          (reader.answer view source {} [0, 0]).outcome = .ok (some 0)) ∧
      (reader.readToEnd view source {}).1.outcome = .ok 3 ∧
      3 = view.size - reader.position ∧ (reader.readToEnd view source {}).2.size = 3 := by
  intro source view reader
  have hreports := reports_end Memory.fitsBuffers (show view.closed = false from rfl) reader
    source {}
  have hread : (reader.readToEnd view source {}).1.outcome = .ok 3 := by
    cbv
  refine ⟨hreports.1 [0, 0] ?_, hread, hreports.2 Memory.lively 3 hread⟩
  intro hnil
  cases hnil

end Reader
end ByteWindow
