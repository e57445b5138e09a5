import ByteWindow.Proofs.Source.Settling
import ByteWindow.Proofs.View.Awaiting
import ByteWindow.Proofs.View.SingleByte
import ByteWindow.Stream.FileCursor

/-!
# What reads do to their buffers

A source is handed the part of a buffer that it may write to, and hands it back as long as it
was.  What it writes there is its own affair.

Most sources are tidier: what a read does not count it leaves alone, unless it fails.  A source
over a cursor is tidy if the cursor does not drift, for then the first attempt checks out.
-/

namespace ByteWindow

variable {σ : Type}

/-- Answers that leave a buffer alone behind the bytes that they count. -/
inductive TidyAnswer (buffer : List UInt8) :
    Except Error (Option Nat) -> List UInt8 -> Prop where
  | failed {error : Error} {buffer' : List UInt8} :
      buffer'.length = buffer.length -> TidyAnswer buffer (.error error) buffer'
  | ended : TidyAnswer buffer (.ok none) buffer
  | counted {piece : List UInt8} :
      piece.length ≤ buffer.length ->
      TidyAnswer buffer (.ok (some piece.length)) (overlay piece buffer)

namespace TidyAnswer

variable {buffer buffer' piece : List UInt8} {outcome : Except Error (Option Nat)} {n : Nat}

theorem refused (error : Error) (buffer : List UInt8) :
    TidyAnswer buffer (.error error) buffer :=
  .failed rfl

theorem countedOrEnded (hpiece : piece.length ≤ buffer.length) :
    TidyAnswer buffer (.ok (endIfNothing piece.length buffer.length)) (overlay piece buffer) := by
  unfold endIfNothing
  split
  · rename_i hnothing
    rw [List.eq_nil_of_length_eq_zero hnothing.1]
    exact .ended
  · exact .counted hpiece

theorem length_eq (tidy : TidyAnswer buffer outcome buffer') :
    buffer'.length = buffer.length := by
  cases tidy with
  | failed hlength => exact hlength
  | ended => rfl
  | counted hpiece => exact length_overlay hpiece

theorem le_length (tidy : TidyAnswer buffer (.ok (some n)) buffer') : n ≤ buffer.length := by
  generalize houtcome : (Except.ok (some n) : Except Error (Option Nat)) = outcome at tidy
  cases tidy with
  | failed => cases houtcome
  | ended => cases houtcome
  | counted hpiece =>
      cases houtcome
      exact hpiece

theorem drop_eq (tidy : TidyAnswer buffer (.ok (some n)) buffer') :
    buffer'.drop n = buffer.drop n := by
  generalize houtcome : (Except.ok (some n) : Except Error (Option Nat)) = outcome at tidy
  cases tidy with
  | failed => cases houtcome
  | ended => cases houtcome
  | counted =>
      cases houtcome
      exact drop_overlay _ _

theorem eq_of_ended (tidy : TidyAnswer buffer (.ok none) buffer') : buffer' = buffer := by
  cases tidy with
  | ended => rfl

end TidyAnswer

/-- Sources that leave a buffer alone behind the bytes that they count, as long as they are kept
in order. -/
structure TidySources (σ : Type) [Source σ] (kept : σ -> Host -> Prop) : Prop where
  answer (mode : Mode) {s : σ} {host : Host} (position : Nat) (buffer : List UInt8) :
    kept s host ->
    TidyAnswer buffer (Source.readVia mode s host position buffer).outcome
      (Source.readVia mode s host position buffer).buffer
  keeps (mode : Mode) {s : σ} {host : Host} (position : Nat) (buffer : List UInt8) :
    kept s host ->
    kept (Source.readVia mode s host position buffer).source
      (Source.readVia mode s host position buffer).host

namespace TidySources

variable [Source σ] {kept : σ -> Host -> Prop}

theorem writesWithin (tidy : TidySources σ kept) : WritesWithin σ kept where
  length := fun mode _ _ position buffer hkept =>
    (tidy.answer mode position buffer hkept).length_eq
  keeps := tidy.keeps

theorem of_readAt (alike : AnswersAlike σ)
    (hread : forall (s : σ) (host : Host) (position : Nat) (buffer : List UInt8), kept s host ->
      let reading := Source.readAt s host position buffer
      TidyAnswer buffer reading.outcome reading.buffer ∧ kept reading.source reading.host) :
    TidySources σ kept := by
  have hvia (mode : Mode) (s : σ) (host : Host) (position : Nat) (buffer : List UInt8) :
      Source.readVia mode s host position buffer = Source.readAt s host position buffer := by
    cases mode with
    | blocking => rfl
    | awaited => exact alike s host position buffer
  constructor
  · intro mode s host position buffer hkept
    rw [hvia]
    exact (hread s host position buffer hkept).1
  · intro mode s host position buffer hkept
    rw [hvia]
    exact (hread s host position buffer hkept).2

end TidySources

/-!
## Sources without anything below them
-/

theorem Memory.tidy : TidySources Memory fun _ _ => True := by
  refine .of_readAt (FinishesAtOnce.answersAlike fun _ _ _ _ => rfl) ?_
  intro s host position buffer _
  refine ⟨?_, trivial⟩
  dsimp only [Source.readAt]
  split
  · refine .counted ?_
    rw [length_slice]
    exact Nat.min_le_left _ _
  · exact .ended

theorem Buffer.tidy : TidySources Buffer fun _ _ => True := by
  refine .of_readAt (FinishesAtOnce.answersAlike fun _ _ _ _ => rfl) ?_
  intro s host position buffer _
  refine ⟨?_, trivial⟩
  dsimp only [Source.readAt]
  cases s.bytes? host with
  | error error => exact .refused error buffer
  | ok bytes =>
      refine .countedOrEnded ?_
      rw [length_slice]
      exact Nat.min_le_left _ _

theorem Positional.tidy : TidySources Positional fun _ _ => True := by
  refine .of_readAt (FinishesAtOnce.answersAlike fun _ _ _ _ => rfl) ?_
  intro s host position buffer _
  refine ⟨?_, trivial⟩
  dsimp only [Source.readAt]
  cases s.file with
  | none => exact .refused .released buffer
  | some file =>
      dsimp only
      cases hpiece : host.disk.readAt file position buffer.length with
      | error cause => exact .refused (.io cause) buffer
      | ok piece => exact .countedOrEnded (Disk.length_readAt_le hpiece)

theorem Channel.tidy : TidySources Channel fun _ _ => True := by
  refine .of_readAt Channel.answersAlike ?_
  intro s host position buffer _
  refine ⟨?_, trivial⟩
  dsimp only [Source.readAt, Channel.readAt]
  cases s.state.file? with
  | error error => exact .refused error buffer
  | ok file =>
      dsimp only
      cases hpiece : host.disk.readAt file position buffer.length with
      | error cause => exact .refused (.io cause) buffer
      | ok piece => exact .countedOrEnded (Disk.length_readAt_le hpiece)

theorem Directory.tidy : TidySources Directory fun _ _ => True := by
  refine .of_readAt (FinishesAtOnce.answersAlike fun _ _ _ _ => rfl) ?_
  intro s host position buffer _
  exact ⟨.refused _ buffer, trivial⟩

open Scripted in
theorem Scripted.ScriptedSource.tidy : TidySources ScriptedSource fun _ _ => True := by
  refine .of_readAt (FinishesAtOnce.answersAlike fun _ _ _ _ => rfl) ?_
  intro s host position buffer _
  refine ⟨?_, trivial⟩
  have hcourse := ScriptedSource.answerCourse s host position buffer
  change TidyAnswer buffer (s.answer host position buffer).outcome
    (s.answer host position buffer).buffer
  generalize s.answer host position buffer = reading at hcourse ⊢
  cases hcourse with
  | failed => exact .refused _ buffer
  | nothing => exact .ended
  | delivered hfits => exact .counted hfits

/-!
## Pools
-/

theorem Pool.tidy {φ τ : Type} [Stream τ] [StreamFactory φ τ] (hfit : StreamsFit τ) :
    TidySources (Pool φ τ) fun _ _ => True := by
  refine .of_readAt (FinishesAtOnce.answersAlike fun _ _ _ _ => rfl) ?_
  intro pool host position buffer _
  refine ⟨?_, trivial⟩
  have hcourse := Pool.readCourse pool host position buffer
  change TidyAnswer buffer (pool.readAt host position buffer).outcome
    (pool.readAt host position buffer).buffer
  generalize pool.readAt host position buffer = reading at hcourse ⊢
  cases hcourse with
  | refused => exact .refused _ buffer
  | failed => exact .refused _ buffer
  | ended => exact .ended
  | finished _ hread _ _ => exact .counted (Pool.length_readCheckedOut_le hfit hread)
  | parked _ hread _ _ => exact .counted (Pool.length_readCheckedOut_le hfit hread)

/-!
## Sources over a cursor
-/

/-- Truthful cursors that stay where they are when they are asked for their place, and that a
read moves by as much as it delivers. -/
structure HonestCursors {ρ : Type} [ByteCursor ρ] (data : Array UInt8) (place : ρ -> Nat)
    (holds : ρ -> Host -> Prop) : Prop extends TruthfulCursors data place holds where
  stays {cursor cursor' : ρ} {host host' : Host} {result : Except IoError Nat} :
    holds cursor host -> ByteCursor.tell cursor host = (result, cursor', host') ->
    place cursor' = place cursor
  advances {cursor cursor' : ρ} {host host' : Host} {length : Nat} {piece : List UInt8} :
    holds cursor host -> ByteReader.read cursor host length = (.ok piece, cursor', host') ->
    place cursor' = place cursor + piece.length

namespace SeekThenRead

variable {ρ : Type} [ByteCursor ρ] {data : Array UInt8} {place : ρ -> Nat}
variable {holds : ρ -> Host -> Prop}

/-- What is known of a cursor that was moved, also if nobody watched. -/
theorem settled_place (truthful : TruthfulCursors data place holds) (position attempts : Nat)
    {cursor cursor' : ρ} {host host' : Host} {result : Except IoError Unit}
    (hholds : holds cursor host)
    (hsettle : settle position attempts cursor host = (result, cursor', host')) :
    holds cursor' host' ∧ (result = .ok () -> place cursor' = position) := by
  have hcourse := settle_course truthful position attempts (w := { cursor }) hholds
  have hunwatched := unwatch_settle position attempts ({ cursor } : Watched ρ) host
  rw [hsettle] at hunwatched
  generalize settle position attempts ({ cursor } : Watched ρ) host = settled
    at hcourse hunwatched
  rcases settled with ⟨result', w, last⟩
  cases hunwatched
  exact ⟨hcourse.holds, hcourse.place_eq⟩

/-- With an honest cursor the first attempt is the only one. -/
theorem readSettled_tidy (honest : HonestCursors data place holds) (position attempts : Nat)
    {cursor : ρ} {host : Host} {buffer : List UInt8} (hholds : holds cursor host) :
    let reading := readSettled position (attempts + 1) cursor host buffer
    TidyAnswer buffer reading.outcome reading.buffer ∧ holds reading.source reading.host := by
  rw [readSettled]
  rcases hsettle : settle position maxAttempts cursor host with ⟨settled, cursor₁, host₁⟩
  rcases settled_place honest.toTruthfulCursors position maxAttempts hholds hsettle with
    ⟨hholds₁, hplace⟩
  cases settled with
  | error cause => exact ⟨.refused _ buffer, hholds₁⟩
  | ok done =>
      dsimp only
      rcases hread : ByteReader.read cursor₁ host₁ buffer.length with ⟨result, cursor₂, host₂⟩
      rcases honest.read hholds₁ hread with ⟨hholds₂, hpiece⟩
      cases result with
      | error cause => exact ⟨.refused _ buffer, hholds₂⟩
      | ok piece =>
          dsimp only
          have hle := (hpiece piece rfl).1
          rcases htell : ByteCursor.tell cursor₂ host₂ with ⟨told, cursor₃, host₃⟩
          rcases honest.tell hholds₂ htell with ⟨hholds₃, htold⟩
          cases told with
          | error cause => exact ⟨.failed (length_overlay hle), hholds₃⟩
          | ok actual =>
              have hactual : actual = position + piece.length := by
                rw [htold actual rfl, honest.stays hholds₂ htell, honest.advances hholds₁ hread,
                  hplace rfl]
              dsimp only
              rw [if_pos hactual]
              exact ⟨.countedOrEnded hle, hholds₃⟩

theorem tidy (honest : HonestCursors data place holds) :
    TidySources (SeekThenRead ρ) fun s host => s.Holds holds host := by
  refine .of_readAt (FinishesAtOnce.answersAlike fun _ _ _ _ => rfl) ?_
  intro s host position buffer hholds
  rcases s with ⟨cursor, size⟩
  cases cursor with
  | none => exact ⟨.refused .released buffer, hholds⟩
  | some cursor =>
      rcases readSettled_tidy honest position 2 (hholds cursor rfl) with ⟨htidy, hkept⟩
      refine ⟨htidy, ?_⟩
      intro last hlast
      cases hlast
      exact hkept

end SeekThenRead

/-- Open files do not drift. -/
theorem FileCursor.honest (file : FileId) (data : Array UInt8) :
    HonestCursors data FileCursor.position fun (cursor : FileCursor) host =>
      cursor.file = file ∧ host.disk.bytes file = data where
  seek := by
    intro cursor cursor' host host' aim result hholds hseek
    have hmoved (target : Int) (hmove : cursor.moveTo host target = (result, cursor', host')) :
        cursor'.file = file ∧ host'.disk.bytes file = data := by
      unfold moveTo at hmove
      split at hmove
      · cases hmove
        exact hholds
      · cases hmove
        exact hholds
    change cursor.seek host aim = _ at hseek
    unfold FileCursor.seek at hseek
    cases aim with
    | start position => exact hmoved _ hseek
    | fromEnd distance => exact hmoved _ hseek
    | current distance => exact hmoved _ hseek
  tell := by
    intro cursor cursor' host host' result hholds htell
    cases htell
    exact ⟨hholds, fun told htold => (Except.ok.inj htold).symm⟩
  read := by
    intro cursor cursor' host host' length result hholds hread
    change cursor.read host length = _ at hread
    unfold FileCursor.read at hread
    cases hpiece : host.disk.readAt cursor.file cursor.position length with
    | error cause =>
        rw [hpiece] at hread
        cases hread
        exact ⟨hholds, fun piece h => by cases h⟩
    | ok piece =>
        rw [hpiece] at hread
        cases hread
        refine ⟨hholds, ?_⟩
        intro piece' hpiece'
        cases hpiece'
        refine ⟨Disk.length_readAt_le hpiece, ?_⟩
        rcases hholds with ⟨rfl, rfl⟩
        unfold Disk.readAt at hpiece
        split at hpiece
        · cases hpiece
          exact (slice_length _ _).symm
        · cases hpiece
  stays := by
    intro cursor cursor' host host' result hholds htell
    cases htell
    rfl
  advances := by
    intro cursor cursor' host host' length piece hholds hread
    change cursor.read host length = _ at hread
    unfold FileCursor.read at hread
    cases hpiece : host.disk.readAt cursor.file cursor.position length with
    | error cause =>
        rw [hpiece] at hread
        cases hread
    | ok piece' =>
        rw [hpiece] at hread
        cases hread
        rfl

end ByteWindow
