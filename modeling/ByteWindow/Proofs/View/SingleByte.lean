import ByteWindow.Proofs.Pool.Parking
import ByteWindow.Proofs.Source.Settling
import ByteWindow.Proofs.View.FullRead
import ByteWindow.Source.Buffer
import ByteWindow.Source.Channel
import ByteWindow.Source.Directory
import ByteWindow.Source.Memory
import ByteWindow.Source.Positional

/-!
# Single bytes and reads of one byte

There are two ways to get the byte at a position of a view: to ask for it, or to read one byte
from there.  They come to the same if the source answers a request for one byte with that byte,
with the end, or with a failure.  Most sources do.

A source that delivers nothing and yet is not at its end is asked again by a read, but not by
the request for a byte, which takes it for the end.  A cursor that is not where a byte left it is
moved back and read again by a read; the request for a byte does not look.
-/

namespace ByteWindow

/-- The answer to the request for a byte and the answer to a read of one byte. -/
structure SaysTheSame (byte : Except Error (Option UInt8)) (bytes : Except Error (List UInt8)) :
    Prop where
  ok : forall b, byte = .ok (some b) <-> bytes = .ok [b]
  error : forall e, byte = .error e <-> bytes = .error e

namespace SaysTheSame

theorem failure (error : Error) : SaysTheSame (.error error) (.error error) where
  ok := by
    intro b
    constructor
    · intro h
      cases h
    · intro h
      cases h
  error := by
    intro e
    rw [Except.error.injEq, Except.error.injEq]

theorem byte (b : UInt8) : SaysTheSame (.ok (some b)) (.ok [b]) where
  ok := by
    intro b'
    rw [Except.ok.injEq, Except.ok.injEq, Option.some.injEq, List.singleton_inj]
  error := by
    intro e
    constructor
    · intro h
      cases h
    · intro h
      cases h

end SaysTheSame

/-- An answer to a request for one byte that is a failure, the end, or a byte. -/
inductive ByteAnswer {σ : Type} : Reading (Option Nat) σ -> Prop
  | failed {error : Error} {buffer : List UInt8} {s : σ} {host : Host} :
      ByteAnswer (.failed error buffer s host)
  | nothing {buffer : List UInt8} {s : σ} {host : Host} : ByteAnswer (.nothing buffer s host)
  | byte {b : UInt8} {s : σ} {host : Host} : ByteAnswer (.delivered [b] [0] s host)

namespace ByteAnswer

variable {σ : Type} {s : σ} {host : Host} {piece : List UInt8}

theorem delivered (hpiece : piece ≠ []) (hle : piece.length ≤ 1) :
    ByteAnswer (.delivered piece [0] s host) := by
  match piece with
  | [b] => exact .byte
  | [] => exact absurd rfl hpiece

theorem deliveredOrEnd (hle : piece.length ≤ 1) :
    ByteAnswer (.deliveredOrEnd piece [0] s host) := by
  match piece with
  | [] => exact .nothing
  | [b] => exact .byte

/-- Only an answer that delivers nothing and is not the end is of another kind. -/
theorem of_fitsBuffers [Source σ] (hfits : FitsBuffers σ) {position : Nat}
    (h : (Source.readAt s host position [0]).outcome ≠ .ok (some 0)) :
    ByteAnswer (Source.readAt s host position [0]) := by
  have hcount (n : Nat) (hn : (Source.readAt s host position [0]).outcome = .ok (some n)) :
      n ≤ 1 :=
    hfits.count (show (Source.readVia .blocking s host position [0]).outcome = _ from hn)
  have hlength : (Source.readAt s host position [0]).buffer.length = 1 :=
    hfits.length .blocking s host position [0]
  generalize Source.readAt s host position [0] = reading at h hcount hlength ⊢
  rcases reading with ⟨outcome, buffer, s', host'⟩
  match outcome, h, hcount with
  | .error error, _, _ => exact .failed
  | .ok none, _, _ => exact .nothing
  | .ok (some 0), h, _ => exact absurd rfl h
  | .ok (some 1), _, _ =>
      rcases List.length_eq_one_iff.mp hlength with ⟨b, rfl⟩
      exact .byte
  | .ok (some (n + 2)), _, hcount => exact absurd (hcount (n + 2) rfl) (by omega)

end ByteAnswer

namespace View

variable {σ : Type} [Source σ] {view : View} {s : σ} {host : Host} {position : Nat}

/-- Both ways to get the byte at a position come to the same. -/
def ReadsAlike (view : View) (s : σ) (host : Host) (position : Nat) : Prop :=
  SaysTheSame (view.readByteAt s host position).1 (view.readFrom .blocking s host position 1).1

/-- The end within a view is a failure. -/
def byteOrEof (view : View) (position : Nat) :
    Except Error (Option UInt8) -> Except Error (Option UInt8)
  | .ok none => .error (view.unexpectedEof position)
  | answer => answer

/-- What a read of one byte comes to when it gets a piece. -/
def bytesOrEof (view : View) (position : Nat) : List UInt8 -> Except Error (List UInt8)
  | [] => .error (view.unexpectedEof position)
  | b :: _ => .ok [b]

theorem readByteAt_eq_byteOrEof (hopen : view.closed = false)
    (hposition : position < view.size) :
    (view.readByteAt s host position).1 =
      view.byteOrEof position (Source.readByteAt s host (view.offset + position)).1 := by
  unfold readByteAt
  rw [hopen, if_neg Bool.false_ne_true, if_neg (Nat.not_le_of_lt hposition)]
  rcases Source.readByteAt s host (view.offset + position) with ⟨error | none | b, s', host'⟩
  · rfl
  · rfl
  · rfl

section OneByte

variable (hopen : view.closed = false) (hposition : position < view.size)
include hopen hposition

theorem readFrom_one :
    (view.readFrom .blocking s host position 1).1 =
      let reading := view.fill .blocking s host position [0]
      reading.outcome.map fun _ => reading.buffer := by
  have hlength : view.availableLength position 1 = .ok 1 := by
    unfold availableLength
    rw [if_neg (by omega)]
    exact congrArg _ (by omega)
  unfold readFrom
  rw [hopen, hlength]
  rfl

/-- The first answer of the source decides, unless it delivers nothing. -/
theorem readFrom_one_failed {error : Error}
    (hfirst : (Source.readAt s host (view.offset + position) [0]).outcome = .error error) :
    (view.readFrom .blocking s host position 1).1 = .error error := by
  rw [readFrom_one hopen hposition]
  unfold fill fillRemaining
  rw [Source.readVia_blocking]
  dsimp only
  rw [hfirst]
  rfl

theorem readFrom_one_ended
    (hfirst : (Source.readAt s host (view.offset + position) [0]).outcome = .ok none) :
    (view.readFrom .blocking s host position 1).1 = .error (view.unexpectedEof position) := by
  rw [readFrom_one hopen hposition]
  unfold fill fillRemaining
  rw [Source.readVia_blocking]
  dsimp only
  rw [hfirst]
  rfl

theorem readFrom_one_delivered
    (hfirst : (Source.readAt s host (view.offset + position) [0]).outcome = .ok (some 1)) :
    (view.readFrom .blocking s host position 1).1 =
      .ok (Source.readAt s host (view.offset + position) [0]).buffer := by
  rw [readFrom_one hopen hposition]
  unfold fill fillRemaining
  rw [Source.readVia_blocking]
  dsimp only
  rw [hfirst]
  dsimp only
  unfold fillRemaining
  cases (Source.readAt s host (view.offset + position) [0]).buffer with
  | nil => rfl
  | cons b rest => rfl

end OneByte

/-- A source that is asked for a byte as it is asked to read one. -/
def AskedAlike (s : σ) (host : Host) (position : Nat) : Prop :=
  (Source.readByteAt s host position).1 = (Source.readAt s host position [0]).singleByte.1

theorem readsAlike_of_byteAnswer (hopen : view.closed = false) (hposition : position < view.size)
    (hasked : AskedAlike s host (view.offset + position))
    (hanswer : ByteAnswer (Source.readAt s host (view.offset + position) [0])) :
    view.ReadsAlike s host position := by
  have hfailed (error : Error)
      (h : (Source.readAt s host (view.offset + position) [0]).outcome = .error error) :=
    readFrom_one_failed hopen hposition h
  have hended (h : (Source.readAt s host (view.offset + position) [0]).outcome = .ok none) :=
    readFrom_one_ended hopen hposition h
  have hdelivered
      (h : (Source.readAt s host (view.offset + position) [0]).outcome = .ok (some 1)) :=
    readFrom_one_delivered hopen hposition h
  unfold AskedAlike at hasked
  unfold ReadsAlike
  rw [readByteAt_eq_byteOrEof hopen hposition, hasked]
  generalize Source.readAt s host (view.offset + position) [0] = reading at *
  cases hanswer with
  | @failed error =>
      rw [hfailed error rfl]
      exact .failure error
  | nothing =>
      rw [hended rfl]
      exact .failure _
  | @byte b =>
      rw [hdelivered rfl]
      exact .byte b

/-- A source that is read for a byte answers alike, unless its first answer delivers nothing:
then a read comes to the same only if it fails as if the source had ended. -/
theorem readsAlike_iff (hfits : FitsBuffers σ) (hopen : view.closed = false)
    (hposition : position < view.size) (hasked : AskedAlike s host (view.offset + position)) :
    view.ReadsAlike s host position <->
      (Source.readAt s host (view.offset + position) [0]).outcome ≠ .ok (some 0) ∨
        (view.readFrom .blocking s host position 1).1 =
          .error (view.unexpectedEof position) := by
  by_cases hempty : (Source.readAt s host (view.offset + position) [0]).outcome = .ok (some 0)
  · have hbyte : (view.readByteAt s host position).1 = .error (view.unexpectedEof position) := by
      unfold AskedAlike Reading.singleByte at hasked
      rw [readByteAt_eq_byteOrEof hopen hposition, hasked, hempty]
      rfl
    constructor
    · intro halike
      exact .inr ((halike.error _).mp hbyte)
    · rintro (hfilled | hended)
      · exact absurd hempty hfilled
      · unfold ReadsAlike
        rw [hbyte, hended]
        exact .failure _
  · constructor
    · intro _
      exact .inl hempty
    · intro _
      exact readsAlike_of_byteAnswer hopen hposition hasked (.of_fitsBuffers hfits hempty)

end View

/-!
## Sources that always answer alike
-/

/-- Sources over which both ways to get a byte come to the same, in every state and for every
view. -/
def AlwaysAlike (σ : Type) [Source σ] : Prop :=
  forall (s : σ) (host : Host) (view : View) (position : Nat), view.closed = false ->
    position < view.size -> view.ReadsAlike s host position

theorem AlwaysAlike.of_byteAnswer {σ : Type} [Source σ]
    (hasked : forall (s : σ) (host : Host) (position : Nat), View.AskedAlike s host position)
    (hanswer : forall (s : σ) (host : Host) (position : Nat),
      ByteAnswer (Source.readAt s host position [0])) : AlwaysAlike σ := by
  intro s host view position hopen hposition
  exact View.readsAlike_of_byteAnswer hopen hposition (hasked s host _) (hanswer s host _)

theorem length_slice_one_le (data : Array UInt8) (position : Nat) :
    (slice data position 1).length ≤ 1 := by
  rw [length_slice]
  exact Nat.min_le_left _ _

/-- The byte at a position is what a read of one byte delivers. -/
theorem getElem?_eq_head?_slice (data : Array UInt8) (position : Nat) :
    data[position]? = (slice data position 1).head? := by
  rw [slice_eq, List.head?_take, if_neg Nat.one_ne_zero, List.head?_drop, Array.getElem?_toList]

/-- A piece of at most one byte is read as its first byte. -/
theorem singleByte_deliveredOrEnd {σ : Type} {piece : List UInt8} (hle : piece.length ≤ 1)
    (s : σ) (host : Host) :
    (Reading.deliveredOrEnd piece [0] s host).singleByte.1 = .ok piece.head? := by
  match piece with
  | [] => rfl
  | [b] => rfl

theorem Memory.alwaysAlike : AlwaysAlike Memory := by
  have hread (s : Memory) (host : Host) (position : Nat) :
      Source.readAt s host position [0] =
        .deliveredOrEnd (slice s.bytes position 1) [0] s host := by
    dsimp only [Source.readAt]
    by_cases hposition : position < s.bytes.size
    · rw [if_pos hposition, deliveredOrEnd_inside Nat.one_pos hposition]
      rfl
    · rw [if_neg hposition, slice_of_size_le (Nat.le_of_not_lt hposition)]
      rfl
  apply AlwaysAlike.of_byteAnswer
  · intro s host position
    unfold View.AskedAlike
    rw [hread, singleByte_deliveredOrEnd (length_slice_one_le s.bytes position),
      ← getElem?_eq_head?_slice]
    rfl
  · intro s host position
    rw [hread]
    exact .deliveredOrEnd (length_slice_one_le s.bytes position)

theorem Buffer.alwaysAlike : AlwaysAlike Buffer := by
  apply AlwaysAlike.of_byteAnswer
  · intro s host position
    unfold View.AskedAlike
    dsimp only [Source.readByteAt, Source.readAt]
    cases s.bytes? host with
    | error error => rfl
    | ok bytes =>
        dsimp only [List.length_singleton]
        rw [singleByte_deliveredOrEnd (length_slice_one_le bytes position),
          ← getElem?_eq_head?_slice]
  · intro s host position
    dsimp only [Source.readAt]
    cases s.bytes? host with
    | error error => exact .failed
    | ok bytes => exact .deliveredOrEnd (length_slice_one_le bytes position)

/-- The system never reads more of a file than it was asked for. -/
theorem Disk.length_readAt_le {disk : Disk} {file : FileId} {position length : Nat}
    {piece : List UInt8} (h : disk.readAt file position length = .ok piece) :
    piece.length ≤ length := by
  unfold Disk.readAt at h
  split at h
  · cases h
    rw [length_slice]
    exact Nat.le_trans (Nat.min_le_left _ _) (Nat.min_le_left _ _)
  · cases h

theorem Positional.alwaysAlike : AlwaysAlike Positional := by
  apply AlwaysAlike.of_byteAnswer
  · intro s host position
    rfl
  · intro s host position
    dsimp only [Source.readAt]
    cases s.file with
    | none => exact .failed
    | some file =>
        dsimp only
        cases hpiece : host.disk.readAt file position 1 with
        | error cause => exact .failed
        | ok piece => exact .deliveredOrEnd (Disk.length_readAt_le hpiece)

theorem Channel.alwaysAlike : AlwaysAlike Channel := by
  apply AlwaysAlike.of_byteAnswer
  · intro s host position
    rfl
  · intro s host position
    dsimp only [Source.readAt, Channel.readAt]
    cases s.state.file? with
    | error error => exact .failed
    | ok file =>
        dsimp only
        cases hpiece : host.disk.readAt file position 1 with
        | error cause => exact .failed
        | ok piece => exact .deliveredOrEnd (Disk.length_readAt_le hpiece)

theorem Directory.alwaysAlike : AlwaysAlike Directory := by
  apply AlwaysAlike.of_byteAnswer
  · intro s host position
    rfl
  · intro s host position
    exact .failed

/-- Streams that never deliver more than they were asked for. -/
def StreamsFit (τ : Type) [Stream τ] : Prop :=
  forall (stream stream' : τ) (host host' : Host) (length : Nat) (piece : List UInt8),
    Stream.read stream host length = (.ok piece, stream', host') -> piece.length ≤ length

theorem Pool.length_readCheckedOut_le {τ : Type} [Stream τ] (hfit : StreamsFit τ)
    {start position length : Nat} {stream stream' : τ} {host host' : Host} {piece : List UInt8}
    (hread : readCheckedOut start position length stream host = (.ok piece, stream', host')) :
    piece.length ≤ length := by
  unfold readCheckedOut at hread
  generalize skipFully start (position - start) stream host = skipping at hread
  rcases skipping with ⟨error | done, skipped, host₁⟩
  · cases hread
  · dsimp only at hread
    cases hpiece : Stream.read skipped host₁ length with
    | mk result after =>
        rw [hpiece] at hread
        cases result with
        | error cause => cases hread
        | ok piece' =>
            cases hread
            exact hfit _ _ _ _ _ _ hpiece

theorem Pool.alwaysAlike {φ τ : Type} [Stream τ] [StreamFactory φ τ] (hfit : StreamsFit τ) :
    AlwaysAlike (Pool φ τ) := by
  apply AlwaysAlike.of_byteAnswer
  · intro pool host position
    rfl
  · intro pool host position
    have hcourse := Pool.readCourse pool host position [0]
    change ByteAnswer (pool.readAt host position [0])
    generalize pool.readAt host position [0] = reading at hcourse ⊢
    cases hcourse with
    | refused => exact .failed
    | failed => exact .failed
    | ended => exact .nothing
    | finished _ hread hpiece _ =>
        exact .delivered (fun hnil => hpiece ⟨hnil, List.cons_ne_nil 0 []⟩)
          (Pool.length_readCheckedOut_le hfit hread)
    | parked _ hread hpiece _ =>
        exact .delivered (fun hnil => hpiece ⟨hnil, List.cons_ne_nil 0 []⟩)
          (Pool.length_readCheckedOut_le hfit hread)

/-!
## Sources over a cursor
-/

namespace SeekThenRead

variable {ρ : Type} [ByteCursor ρ]

/-- The cursor gets to the position, and the first read of a byte there delivers a piece. -/
def FirstRead (s : SeekThenRead ρ) (host : Host) (position : Nat) (piece : List UInt8) (last : ρ)
    (host' : Host) : Prop :=
  exists cursor settled host₁, s.cursor = some cursor ∧
    settle position maxAttempts cursor host = (.ok (), settled, host₁) ∧
    ByteReader.read settled host₁ 1 = (.ok piece, last, host')

/-- After the first read the cursor tells that it stands right behind what was read. -/
def Steady (s : SeekThenRead ρ) (host : Host) (position : Nat) : Prop :=
  forall piece last host', s.FirstRead host position piece last host' ->
    piece.length ≤ 1 ∧ (ByteCursor.tell last host').1 = .ok (position + piece.length)

theorem FirstRead.unique {s : SeekThenRead ρ} {host host₁ host₂ : Host} {position : Nat}
    {piece piece' : List UInt8} {last last' : ρ}
    (h : s.FirstRead host position piece last host₁)
    (h' : s.FirstRead host position piece' last' host₂) :
    piece = piece' ∧ last = last' ∧ host₁ = host₂ := by
  rcases h with ⟨cursor, settled, _, hcursor, hsettle, hread⟩
  rcases h' with ⟨_, _, _, hcursor', hsettle', hread'⟩
  cases hcursor.symm.trans hcursor'
  cases hsettle.symm.trans hsettle'
  cases hread.symm.trans hread'
  exact ⟨rfl, rfl, rfl⟩

theorem FirstRead.readByteAt {s : SeekThenRead ρ} {host host' : Host} {position : Nat}
    {piece : List UInt8} {last : ρ} (h : s.FirstRead host position piece last host') :
    (Source.readByteAt s host position).1 = .ok piece.head? := by
  rcases h with ⟨cursor, settled, host₁, hcursor, hsettle, hread⟩
  dsimp only [Source.readByteAt]
  rw [hcursor]
  dsimp only
  rw [readByteSettled, hsettle]
  dsimp only
  rw [hread]

theorem byteAnswer_of_steady {s : SeekThenRead ρ} {host : Host} {position : Nat}
    (steady : s.Steady host position) :
    View.AskedAlike s host position ∧ ByteAnswer (Source.readAt s host position [0]) := by
  unfold View.AskedAlike
  dsimp only [Source.readByteAt, Source.readAt]
  rcases s with ⟨cursor | cursor, size⟩
  · exact ⟨rfl, .failed⟩
  · dsimp only
    unfold readByteSettled maxAttempts
    rw [readSettled]
    unfold maxAttempts
    rcases hsettle : settle position 3 cursor host with ⟨cause | done, settled, host₁⟩
    · exact ⟨rfl, .failed⟩
    · dsimp only [List.length_singleton]
      rcases hread : ByteReader.read settled host₁ 1 with ⟨cause | piece, last, host₂⟩
      · exact ⟨rfl, .failed⟩
      · rcases steady piece last host₂ ⟨cursor, settled, host₁, rfl, hsettle, hread⟩ with
          ⟨hle, htold⟩
        dsimp only
        generalize ByteCursor.tell last host₂ = telling at htold ⊢
        rcases telling with ⟨told, end', host₃⟩
        dsimp only at htold
        subst htold
        dsimp only
        rw [if_pos rfl]
        exact ⟨(singleByte_deliveredOrEnd hle _ _).symm, .deliveredOrEnd hle⟩

/-- Wherever the first read leaves the cursor, its piece decides what a request for a byte comes
to.  A read comes to the same if the cursor tells that it is right behind the piece, and otherwise
only if it gets the same out of a later attempt. -/
theorem readsAlike_iff_of_firstRead {s : SeekThenRead ρ} {host host' : Host} {view : View}
    (hopen : view.closed = false) {position : Nat} (hposition : position < view.size)
    {piece : List UInt8} {last : ρ} (hle : piece.length ≤ 1)
    (hfirst : s.FirstRead host (view.offset + position) piece last host') :
    view.ReadsAlike s host position <->
      (ByteCursor.tell last host').1 = .ok (view.offset + position + piece.length) ∨
        (view.readFrom .blocking s host position 1).1 = view.bytesOrEof position piece := by
  have hbyte : (view.readByteAt s host position).1 =
      view.byteOrEof position (.ok piece.head?) := by
    rw [View.readByteAt_eq_byteOrEof hopen hposition, hfirst.readByteAt]
  constructor
  · intro halike
    refine .inr ?_
    match piece, hle with
    | [], _ => exact (halike.error _).mp hbyte
    | [b], _ => exact (halike.ok b).mp hbyte
  · rintro (htold | hread)
    · have steady : s.Steady host (view.offset + position) := by
        intro piece' last' host'' hother
        rcases hfirst.unique hother with ⟨rfl, rfl, rfl⟩
        exact ⟨hle, htold⟩
      rcases byteAnswer_of_steady steady with ⟨hasked, hanswer⟩
      exact View.readsAlike_of_byteAnswer hopen hposition hasked hanswer
    · unfold View.ReadsAlike
      rw [hbyte, hread]
      match piece, hle with
      | [], _ => exact .failure _
      | [b], _ => exact .byte b

/-- A truthful cursor never gives two different bytes.  Where it is not steady, one of both ways
may fail, or see the end, and the other one not. -/
theorem sameByte {data : Array UInt8} {place : ρ -> Nat} {holds : ρ -> Host -> Prop}
    (truthful : TruthfulCursors data place holds) {s : SeekThenRead ρ} {host : Host}
    (hholds : s.Holds holds host) {view : View} (hopen : view.closed = false) {position : Nat}
    (hposition : position < view.size) {b b' : UInt8}
    (hbyte : (view.readByteAt s host position).1 = .ok (some b))
    (hread : (view.readFrom .blocking s host position 1).1 = .ok [b']) : b = b' := by
  have htrue := readByteAt_readsByteTruly truthful hholds (view.offset + position)
  have htrue' := readAt_readsTruly truthful hholds (view.offset + position)
    (List.cons_ne_nil (0 : UInt8) [])
  have hsource : (Source.readByteAt s host (view.offset + position)).1 = .ok (some b) := by
    rw [View.readByteAt_eq_byteOrEof hopen hposition] at hbyte
    generalize (Source.readByteAt s host (view.offset + position)).1 = answer at hbyte ⊢
    rcases answer with error | none | b''
    · cases hbyte
    · cases hbyte
    · exact hbyte
  have hfirst : (Source.readAt s host (view.offset + position) [0]).outcome = .ok (some 1) := by
    rcases houtcome : (Source.readAt s host (view.offset + position) [0]).outcome with
      error | none | n
    · cases (View.readFrom_one_failed hopen hposition houtcome).symm.trans hread
    · cases (View.readFrom_one_ended hopen hposition houtcome).symm.trans hread
    · rcases htrue'.some n houtcome with ⟨hpos, hle, _⟩
      rw [Nat.le_antisymm hle hpos]
      rfl
  rw [View.readFrom_one_delivered hopen hposition hfirst] at hread
  have hslice := (htrue'.some 1 hfirst).2.2.2
  rw [Except.ok.inj hread] at hslice
  have hhead : data[view.offset + position]? = some b' := by
    rw [getElem?_eq_head?_slice, ← hslice]
    rfl
  exact Option.some.inj ((htrue.some b hsource).symm.trans hhead)

end SeekThenRead

/-!
## When both ways come to the same
-/

namespace View

/-- Sources that read from memory, from a file or from streams answer alike in every state, and a
source over a cursor does if the cursor is steady; otherwise only a later attempt can come to the
same.  Any other source that is asked for a byte as it is asked to read one answers alike unless
its first answer delivers nothing. -/
theorem readsAlike_unless {view : View} {position : Nat} (hopen : view.closed = false)
    (hposition : position < view.size) (host : Host) :
    ((forall s : Memory, view.ReadsAlike s host position) ∧
      (forall s : Buffer, view.ReadsAlike s host position) ∧
      (forall s : Positional, view.ReadsAlike s host position) ∧
      (forall s : Channel, view.ReadsAlike s host position) ∧
      forall s : Directory, view.ReadsAlike s host position) ∧
    (forall (φ τ : Type) [Stream τ] [StreamFactory φ τ], StreamsFit τ ->
      forall pool : Pool φ τ, view.ReadsAlike pool host position) ∧
    (forall (ρ : Type) [ByteCursor ρ] (s : SeekThenRead ρ),
      (s.Steady host (view.offset + position) -> view.ReadsAlike s host position) ∧
      (forall piece last host', piece.length ≤ 1 ->
        s.FirstRead host (view.offset + position) piece last host' ->
        (view.ReadsAlike s host position <->
          (ByteCursor.tell last host').1 = .ok (view.offset + position + piece.length) ∨
            (view.readFrom .blocking s host position 1).1 = view.bytesOrEof position piece)) ∧
      forall data place holds, TruthfulCursors data place holds -> s.Holds holds host ->
        forall b b', (view.readByteAt s host position).1 = .ok (some b) ->
          (view.readFrom .blocking s host position 1).1 = .ok [b'] -> b = b') ∧
    (forall (σ : Type) [Source σ], FitsBuffers σ ->
      forall s : σ, AskedAlike s host (view.offset + position) ->
        (view.ReadsAlike s host position <->
          (Source.readAt s host (view.offset + position) [0]).outcome ≠ .ok (some 0) ∨
            (view.readFrom .blocking s host position 1).1 =
              .error (view.unexpectedEof position))) := by
  have halways {σ : Type} [Source σ] (always : AlwaysAlike σ) (s : σ) :
      view.ReadsAlike s host position := always s host view position hopen hposition
  refine ⟨⟨halways Memory.alwaysAlike, halways Buffer.alwaysAlike,
    halways Positional.alwaysAlike, halways Channel.alwaysAlike,
    halways Directory.alwaysAlike⟩, ?_, ?_, ?_⟩
  · intro φ τ _ _ hfit
    exact halways (Pool.alwaysAlike hfit)
  · intro ρ _ s
    refine ⟨?_, ?_, ?_⟩
    · intro steady
      rcases SeekThenRead.byteAnswer_of_steady steady with ⟨hasked, hanswer⟩
      exact readsAlike_of_byteAnswer hopen hposition hasked hanswer
    · intro piece last host' hle hfirst
      exact SeekThenRead.readsAlike_iff_of_firstRead hopen hposition hle hfirst
    · intro data place holds truthful hholds b b'
      exact SeekThenRead.sameByte truthful hholds hopen hposition
  · intro σ _ hfits s hasked
    exact readsAlike_iff hfits hopen hposition hasked

open Scripted

/-- A source whose first answer delivers a byte. -/
theorem readsAlike_unless_scripted :
    let source : ScriptedSource := { data := #[1, 2, 3], size := 3, replies := [.atMost 1] }
    let view : View := { offset := 0, size := 3 }
    view.closed = false ∧ 0 < view.size ∧ AskedAlike source {} (view.offset + 0) ∧
    (view.ReadsAlike source {} 0 <->
      (Source.readAt source {} (view.offset + 0) [0]).outcome ≠ .ok (some 0) ∨
        (view.readFrom .blocking source {} 0 1).1 = .error (view.unexpectedEof 0)) := by
  refine ⟨rfl, Nat.succ_pos 2, rfl, ?_⟩
  exact (readsAlike_unless rfl (Nat.succ_pos 2) {}).2.2.2 ScriptedSource
    ScriptedSource.fitsBuffers _ rfl

/-- A source whose first answer delivers nothing, and a cursor that drifts after every read. -/
theorem byte_differs_from_read :
    let source : ScriptedSource := { data := #[1, 2, 3], size := 3, replies := [.empty] }
    let cursor : ScriptedCursor :=
      { data := #[1, 2, 3], reads := [.deliver none 1, .deliver none 1, .deliver none 1] }
    let s : SeekThenRead ScriptedCursor := { cursor := some cursor, size := 3 }
    let view : View := { offset := 0, size := 3 }
    ((view.readByteAt source {} 0).1 = .error (.unexpectedEof 0 3) ∧
      (view.readFrom .blocking source {} 0 1).1 = .ok [1]) ∧
    ((view.readByteAt s {} 0).1 = .ok (some 1) ∧
      (view.readFrom .blocking s {} 0 1).1 = .error (.io (SeekThenRead.unstable 0))) := by
  refine ⟨⟨?_, ?_⟩, ?_, ?_⟩ <;> cbv

end View
end ByteWindow
