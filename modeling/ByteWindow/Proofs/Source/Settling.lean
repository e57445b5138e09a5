import ByteWindow.Proofs.Source.Faithful
import ByteWindow.Proofs.Stream.Watched
import ByteWindow.Scripted.Cursor
import ByteWindow.Source.SeekThenRead

/-!
# Reads through a cursor that goes where it likes

A cursor may stay where it is when it is moved, land anywhere, report what it likes about the
move, and be anywhere after a read.  It is asked for only two things: it tells its place when it
is asked for it, and a read delivers the bytes from where it stands.  That is enough for a read
through it to be right if it succeeds: no byte comes from an attempt that did not check out.
-/

namespace ByteWindow

/-- Cursors over some data that tell their place and read from there.  Any call may fail. -/
structure TruthfulCursors {ρ : Type} [ByteCursor ρ] (data : Array UInt8) (place : ρ -> Nat)
    (holds : ρ -> Host -> Prop) : Prop where
  seek {cursor cursor' : ρ} {host host' : Host} {aim : SeekTarget}
    {result : Except IoError Nat} :
    holds cursor host -> ByteCursor.seek cursor host aim = (result, cursor', host') ->
    holds cursor' host'
  tell {cursor cursor' : ρ} {host host' : Host} {result : Except IoError Nat} :
    holds cursor host -> ByteCursor.tell cursor host = (result, cursor', host') ->
    holds cursor' host' ∧ forall told, result = .ok told -> told = place cursor'
  read {cursor cursor' : ρ} {host host' : Host} {length : Nat}
    {result : Except IoError (List UInt8)} :
    holds cursor host -> ByteReader.read cursor host length = (result, cursor', host') ->
    holds cursor' host' ∧
      forall piece, result = .ok piece ->
        piece.length ≤ length ∧ piece = slice data (place cursor) piece.length

/-- Something was wanted: no byte at all is the end, and any other number is what was read. -/
theorem endIfNothing_cases (read : Nat) {requested : Nat} (hrequested : 0 < requested) :
    (read = 0 ∧ endIfNothing read requested = none) ∨
      (0 < read ∧ endIfNothing read requested = some read) := by
  unfold endIfNothing
  rcases Nat.eq_zero_or_pos read with hnothing | hpos
  · exact .inl ⟨hnothing, if_pos ⟨hnothing, hrequested⟩⟩
  · exact .inr ⟨hpos, if_neg fun h => Nat.ne_of_gt hpos h.1⟩

/-- Watching a cursor does not make it less truthful. -/
theorem TruthfulCursors.watched {ρ : Type} [ByteCursor ρ] {data : Array UInt8}
    {place : ρ -> Nat} {holds : ρ -> Host -> Prop}
    (truthful : TruthfulCursors data place holds) :
    TruthfulCursors data (fun w : Watched ρ => place w.cursor)
      (fun w host => holds w.cursor host) where
  seek := by
    intro w w' host host' aim result hholds hseek
    exact truthful.seek hholds (congrArg Watched.unwatch hseek)
  tell := by
    intro w w' host host' result hholds htell
    exact truthful.tell hholds (congrArg Watched.unwatch htell)
  read := by
    intro w w' host host' length result hholds hread
    exact truthful.read hholds (congrArg Watched.unwatch hread)

namespace SeekThenRead

variable {ρ : Type} [ByteCursor ρ] {data : Array UInt8} {place : ρ -> Nat}
variable {holds : ρ -> Host -> Prop}

/-!
## Moves
-/

/-- What the attempts to move a cursor come to. -/
structure MoveCourse (place : ρ -> Nat) (holds : ρ -> Host -> Prop) (position attempts : Nat)
    (w : Watched ρ) (settled : Except IoError Unit × Watched ρ × Host) : Prop where
  spends : w.Spends settled.2.1 attempts 0
  holds : holds settled.2.1.cursor settled.2.2
  place_eq : settled.1 = .ok () -> place settled.2.1.cursor = position

/-- A move that succeeds gets the cursor to the position, wherever it went in between. -/
theorem settle_course (truthful : TruthfulCursors data place holds) (position attempts : Nat)
    {w : Watched ρ} {host : Host} (hholds : holds w.cursor host) :
    MoveCourse place holds position attempts w (settle position attempts w host) := by
  have watched := truthful.watched
  fun_induction settle position attempts w host with
  | case1 w host =>
      refine ⟨.refl w, hholds, ?_⟩
      intro hok
      cases hok
  | case2 attempts w host cause w' host' hseek =>
      have hspends :=
        (Watched.spends_seek hseek).mono (Nat.le_add_left 1 attempts) (Nat.le_refl 0)
      refine ⟨hspends, watched.seek hholds hseek, ?_⟩
      intro hok
      cases hok
  | case3 attempts w host w' host' cause w'' host'' htell hseek =>
      have hspends := (Watched.spends_seek hseek).trans (Watched.spends_tell htell)
      refine ⟨hspends.mono (Nat.le_add_left 1 attempts) (Nat.le_refl 0),
        (watched.tell (watched.seek hholds hseek) htell).1, ?_⟩
      intro hok
      cases hok
  | case4 attempts w host w' host' w'' host'' hseek htell =>
      have hspends := (Watched.spends_seek hseek).trans (Watched.spends_tell htell)
      rcases watched.tell (watched.seek hholds hseek) htell with ⟨hholds'', htold⟩
      exact ⟨hspends.mono (Nat.le_add_left 1 attempts) (Nat.le_refl 0), hholds'',
        fun _ => (htold position rfl).symm⟩
  | case5 attempts w host w' host' actual w'' host'' htell hactual hseek ih =>
      have hspends := (Watched.spends_seek hseek).trans (Watched.spends_tell htell)
      rcases ih (watched.tell (watched.seek hholds hseek) htell).1 with
        ⟨hlater, hholds', hplace⟩
      refine ⟨(hspends.trans hlater).mono ?_ (Nat.le_refl 0), hholds', hplace⟩
      exact Nat.le_of_eq (Nat.add_comm 1 attempts)
  | case6 attempts w host reported w' host' hseek hreported ih =>
      rcases ih (watched.seek hholds hseek) with ⟨hlater, hholds', hplace⟩
      have hspends := (Watched.spends_seek hseek).trans hlater
      refine ⟨hspends.mono ?_ (Nat.le_refl 0), hholds', hplace⟩
      exact Nat.le_of_eq (Nat.add_comm 1 attempts)

/-- Nobody has to watch a cursor for it to be moved. -/
theorem unwatch_settle (position attempts : Nat) (w : Watched ρ) (host : Host) :
    Watched.unwatch (settle position attempts w host) =
      settle position attempts w.cursor host := by
  fun_induction settle position attempts w host with
  | case1 w host => rfl
  | case2 attempts w host cause w' host' hseek =>
      rw [settle, ← Watched.unwatch_seek, hseek]
      rfl
  | case3 attempts w host w' host' cause w'' host'' htell hseek =>
      rw [settle, ← Watched.unwatch_seek, hseek]
      dsimp only [Watched.unwatch]
      rw [if_pos rfl, ← Watched.unwatch_tell, htell]
      rfl
  | case4 attempts w host w' host' w'' host'' hseek htell =>
      rw [settle, ← Watched.unwatch_seek, hseek]
      dsimp only [Watched.unwatch]
      rw [if_pos rfl, ← Watched.unwatch_tell, htell]
      dsimp only [Watched.unwatch]
      rw [if_pos rfl]
  | case5 attempts w host w' host' actual w'' host'' htell hactual hseek ih =>
      rw [ih, settle, ← Watched.unwatch_seek, hseek]
      dsimp only [Watched.unwatch]
      rw [if_pos rfl, ← Watched.unwatch_tell, htell]
      dsimp only [Watched.unwatch]
      rw [if_neg hactual]
  | case6 attempts w host reported w' host' hseek hreported ih =>
      rw [ih, settle, ← Watched.unwatch_seek, hseek]
      dsimp only [Watched.unwatch]
      rw [if_neg hreported]

/-!
## Reads
-/

/-- What the attempts to read come to. -/
structure ReadCourse (data : Array UInt8) (place : ρ -> Nat) (holds : ρ -> Host -> Prop)
    (position attempts : Nat) (w : Watched ρ) (buffer : List UInt8)
    (reading : Reading (Option Nat) (Watched ρ)) : Prop where
  spends : w.Spends reading.source (attempts * maxAttempts) attempts
  holds : holds reading.source.cursor reading.host
  length : reading.buffer.length = buffer.length
  some : forall n, reading.outcome = .ok (some n) ->
    0 < n ∧ n ≤ buffer.length ∧ reading.buffer.take n = slice data position n
  none : reading.outcome = .ok none ->
    exists before, .read before buffer.length (.ok []) ∈ reading.source.calls ∧
      place before = position

/-- A read through a cursor that was moved takes place at the position. -/
theorem read_course (truthful : TruthfulCursors data place holds) {position length : Nat}
    {w w' w'' : Watched ρ} {host host' host'' : Host} {result : Except IoError (List UInt8)}
    (hholds : holds w.cursor host)
    (hsettle : settle position maxAttempts w host = (.ok (), w', host'))
    (hread : ByteReader.read w' host' length = (result, w'', host'')) :
    w.Spends w'' maxAttempts 1 ∧ holds w''.cursor host'' ∧ place w'.cursor = position ∧
      forall piece, result = .ok piece ->
        piece.length ≤ length ∧ piece = slice data position piece.length := by
  have hcourse := settle_course truthful position maxAttempts hholds
  rw [hsettle] at hcourse
  have hplace := hcourse.place_eq rfl
  have hspends := hcourse.spends.trans (Watched.spends_read hread)
  rcases truthful.watched.read hcourse.holds hread with ⟨hholds'', hpiece⟩
  dsimp only at hplace hpiece
  rw [hplace] at hpiece
  exact ⟨hspends.mono (Nat.le_refl _) (Nat.le_refl 1), hholds'', hplace, hpiece⟩

omit [ByteCursor ρ] in
theorem ReadCourse.failed {position attempts seeks reads : Nat} {w w' : Watched ρ}
    {host : Host} {buffer buffer' : List UInt8} {error : Error}
    (hspends : w.Spends w' seeks reads) (hholds : holds w'.cursor host)
    (hlength : buffer'.length = buffer.length)
    (hseeks : seeks ≤ attempts * maxAttempts) (hreads : reads ≤ attempts) :
    ReadCourse data place holds position attempts w buffer (.failed error buffer' w' host) where
  spends := hspends.mono hseeks hreads
  holds := hholds
  length := hlength
  some := by
    intro n hn
    cases hn
  none := by
    intro hnone
    cases hnone

/-- A read that succeeds delivers the bytes at the position, whatever the attempts before it
left in the buffer. -/
theorem readSettled_course (truthful : TruthfulCursors data place holds)
    (position attempts : Nat) {w : Watched ρ} {host : Host} {buffer : List UInt8}
    (hbuffer : buffer ≠ []) (hholds : holds w.cursor host) :
    ReadCourse data place holds position attempts w buffer
      (readSettled position attempts w host buffer) := by
  have watched := truthful.watched
  have hpos := List.length_pos_iff.mpr hbuffer
  have honce (attempts : Nat) : maxAttempts ≤ (attempts + 1) * maxAttempts :=
    Nat.le_mul_of_pos_left _ (Nat.succ_pos attempts)
  fun_induction readSettled position attempts w host buffer with
  | case1 w host buffer =>
      exact .failed (.refl w) hholds rfl (Nat.zero_le _) (Nat.le_refl 0)
  | case2 attempts w host buffer cause w' host' hsettle =>
      have hcourse := settle_course truthful position maxAttempts hholds
      rw [hsettle] at hcourse
      exact .failed hcourse.spends hcourse.holds rfl (honce attempts) (Nat.zero_le _)
  | case3 attempts w host buffer w' host' hsettle cause w'' host'' hread =>
      rcases read_course truthful hholds hsettle hread with ⟨hspends, hholds'', _, _⟩
      exact .failed hspends hholds'' rfl (honce attempts) (Nat.le_add_left 1 attempts)
  | case4 attempts w host buffer w' host' hsettle piece w'' host'' hread cause last end' htell =>
      rcases read_course truthful hholds hsettle hread with ⟨hspends, hholds'', _, hpiece⟩
      exact .failed (hspends.trans (Watched.spends_tell htell)) (watched.tell hholds'' htell).1
        (length_overlay (hpiece piece rfl).1) (honce attempts) (Nat.le_add_left 1 attempts)
  | case5 attempts w host buffer w' host' hsettle piece w'' host'' hread last end' htell =>
      rcases read_course truthful hholds hsettle hread with ⟨hspends, hholds'', hplace, hpiece⟩
      rcases hpiece piece rfl with ⟨hle, hbytes⟩
      have hcalls := Watched.calls_after htell
      have hbefore : CursorCall.read w'.cursor buffer.length (.ok piece) ∈ last.calls := by
        rw [hcalls, Watched.calls_after hread]
        exact List.mem_append_left _ (List.mem_append_right _ (List.mem_singleton_self _))
      have hspends' := (hspends.trans (Watched.spends_tell htell)).mono (honce attempts)
        (Nat.le_add_left 1 attempts)
      refine ⟨hspends', (watched.tell hholds'' htell).1, length_overlay hle, ?_, ?_⟩
      · intro n hn
        rcases endIfNothing_cases piece.length hpos with
          ⟨_, hend⟩ | ⟨hsome, hcount⟩
        · cases hend.symm.trans (Except.ok.inj hn)
        · cases hcount.symm.trans (Except.ok.inj hn)
          exact ⟨hsome, hle, (take_overlay piece buffer).trans hbytes⟩
      · intro hnone
        rcases endIfNothing_cases piece.length hpos with
          ⟨hnothing, _⟩ | ⟨_, hcount⟩
        · rw [List.eq_nil_of_length_eq_zero hnothing] at hbefore
          exact ⟨w'.cursor, hbefore, hplace⟩
        · cases hcount.symm.trans (Except.ok.inj hnone)
  | case6 attempts w host buffer w' host' hsettle piece w'' host'' hread actual last end' htell
      hdrifted ih =>
      rcases read_course truthful hholds hsettle hread with ⟨hspends, hholds'', _, hpiece⟩
      have hlength := length_overlay (hpiece piece rfl).1
      have hbuffer' := List.ne_nil_of_length_pos (hlength ▸ hpos)
      have hlater := ih hbuffer' (watched.tell hholds'' htell).1 (hlength ▸ hpos)
      have hspends' := (hspends.trans (Watched.spends_tell htell)).trans hlater.spends
      refine ⟨hspends'.mono ?_ ?_, hlater.holds, hlater.length.trans hlength, ?_, ?_⟩
      · exact Nat.le_of_eq ((Nat.add_comm _ _).trans (Nat.succ_mul _ _).symm)
      · exact Nat.le_of_eq (Nat.add_comm 1 attempts)
      · rw [← hlength]
        exact hlater.some
      · rw [← hlength]
        exact hlater.none

/-- What is left of a reading when nobody watches. -/
def unwatchReading (reading : Reading (Option Nat) (Watched ρ)) : Reading (Option Nat) ρ :=
  { reading with source := reading.source.cursor }

/-- Nobody has to watch a cursor for it to be read. -/
theorem unwatch_readSettled (position attempts : Nat) (w : Watched ρ) (host : Host)
    (buffer : List UInt8) :
    unwatchReading (readSettled position attempts w host buffer) =
      readSettled position attempts w.cursor host buffer := by
  fun_induction readSettled position attempts w host buffer with
  | case1 w host buffer => rfl
  | case2 attempts w host buffer cause w' host' hsettle =>
      rw [readSettled, ← unwatch_settle, hsettle]
      rfl
  | case3 attempts w host buffer w' host' hsettle cause w'' host'' hread =>
      rw [readSettled, ← unwatch_settle, hsettle]
      dsimp only [Watched.unwatch]
      rw [← Watched.unwatch_read, hread]
      rfl
  | case4 attempts w host buffer w' host' hsettle piece w'' host'' hread cause last end' htell =>
      rw [readSettled, ← unwatch_settle, hsettle]
      dsimp only [Watched.unwatch]
      rw [← Watched.unwatch_read, hread]
      dsimp only [Watched.unwatch]
      rw [← Watched.unwatch_tell, htell]
      rfl
  | case5 attempts w host buffer w' host' hsettle piece w'' host'' hread last end' htell =>
      rw [readSettled, ← unwatch_settle, hsettle]
      dsimp only [Watched.unwatch]
      rw [← Watched.unwatch_read, hread]
      dsimp only [Watched.unwatch]
      rw [← Watched.unwatch_tell, htell]
      dsimp only [Watched.unwatch]
      rw [if_pos rfl]
      rfl
  | case6 attempts w host buffer w' host' hsettle piece w'' host'' hread actual last end' htell
      hdrifted ih =>
      rw [ih, readSettled, ← unwatch_settle, hsettle]
      dsimp only [Watched.unwatch]
      rw [← Watched.unwatch_read, hread]
      dsimp only [Watched.unwatch]
      rw [← Watched.unwatch_tell, htell]
      dsimp only [Watched.unwatch]
      rw [if_neg hdrifted]

/-!
## Single bytes
-/

omit [ByteCursor ρ] in
theorem head?_slice {position length : Nat} {byte : UInt8}
    (h : (slice data position length).head? = some byte) : data[position]? = some byte := by
  rw [slice_eq] at h
  cases length with
  | zero => cases h
  | succ n =>
      rw [List.head?_take, if_neg (Nat.succ_ne_zero n), List.head?_drop,
        Array.getElem?_toList] at h
      exact h

/-- What an attempt to read a byte comes to. -/
structure ByteCourse (data : Array UInt8) (holds : ρ -> Host -> Prop) (position : Nat)
    (w : Watched ρ) (read : Except Error (Option UInt8) × Watched ρ × Host) : Prop where
  spends : w.Spends read.2.1 maxAttempts 1
  holds : holds read.2.1.cursor read.2.2
  some : forall byte, read.1 = .ok (some byte) -> data[position]? = some byte

theorem readByteSettled_course (truthful : TruthfulCursors data place holds) (position : Nat)
    {w : Watched ρ} {host : Host} (hholds : holds w.cursor host) :
    ByteCourse data holds position w (readByteSettled position w host) := by
  have hcourse := settle_course truthful position maxAttempts hholds
  unfold readByteSettled
  rcases hsettle : settle position maxAttempts w host with ⟨settled, w', host'⟩
  rw [hsettle] at hcourse
  cases settled with
  | error cause =>
      refine ⟨hcourse.spends.mono (Nat.le_refl _) (Nat.zero_le 1), hcourse.holds, ?_⟩
      intro byte hbyte
      cases hbyte
  | ok done =>
      dsimp only
      rcases hread : ByteReader.read w' host' 1 with ⟨result, w'', host''⟩
      rcases read_course truthful hholds hsettle hread with ⟨hspends, hholds'', _, hpiece⟩
      cases result with
      | error cause =>
          refine ⟨hspends, hholds'', ?_⟩
          intro byte hbyte
          cases hbyte
      | ok piece =>
          refine ⟨hspends, hholds'', ?_⟩
          intro byte hbyte
          apply head?_slice
          rw [← (hpiece piece rfl).2]
          exact Except.ok.inj hbyte

theorem unwatch_readByteSettled (position : Nat) (w : Watched ρ) (host : Host) :
    Watched.unwatch (readByteSettled position w host) =
      readByteSettled position w.cursor host := by
  unfold readByteSettled
  rw [← unwatch_settle]
  rcases settle position maxAttempts w host with ⟨cause | done, w', host'⟩
  · rfl
  · dsimp only [Watched.unwatch]
    rw [← Watched.unwatch_read]
    rcases ByteReader.read w' host' 1 with ⟨cause | piece, w'', host''⟩
    · rfl
    · rfl

/-!
## Sources
-/

/-- The same source, with a cursor that is watched from now on. -/
def watched (s : SeekThenRead ρ) : SeekThenRead (Watched ρ) :=
  { s with cursor := s.cursor.map fun cursor => { cursor } }

def unwatched (s : SeekThenRead (Watched ρ)) : SeekThenRead ρ :=
  { s with cursor := s.cursor.map Watched.cursor }

/-- The calls to the cursor since it is watched. -/
def calls (s : SeekThenRead (Watched ρ)) : List (CursorCall ρ) :=
  s.cursor.elim [] Watched.calls

/-- If the source was not released, then its cursor holds the data. -/
def Holds (holds : ρ -> Host -> Prop) (s : SeekThenRead ρ) (host : Host) : Prop :=
  forall cursor, s.cursor = some cursor -> holds cursor host

/-- What a read of a source comes to.  The same read with a watched cursor tells which calls the
cursor gets. -/
structure ReadsTruly (data : Array UInt8) (place : ρ -> Nat) (holds : ρ -> Host -> Prop)
    (position : Nat) (buffer : List UInt8) (reading : Reading (Option Nat) (SeekThenRead ρ))
    (watched : Reading (Option Nat) (SeekThenRead (Watched ρ))) : Prop where
  same : reading = { watched with source := watched.source.unwatched }
  some : forall n, reading.outcome = .ok (some n) ->
    1 ≤ n ∧ n ≤ buffer.length ∧ position + n ≤ data.size ∧
      reading.buffer.take n = slice data position n
  none : reading.outcome = .ok none ->
    exists before, .read before buffer.length (.ok []) ∈ watched.source.calls ∧
      place before = position
  seeks : watched.source.calls.countP CursorCall.isSeek ≤ 9
  reads : watched.source.calls.countP CursorCall.isRead ≤ 3
  holds : reading.source.Holds holds reading.host

/-- What a read of a byte comes to. -/
structure ReadsByteTruly (data : Array UInt8) (holds : ρ -> Host -> Prop) (position : Nat)
    (read : Except Error (Option UInt8) × SeekThenRead ρ × Host)
    (watched : Except Error (Option UInt8) × SeekThenRead (Watched ρ) × Host) : Prop where
  same : read = (watched.1, watched.2.1.unwatched, watched.2.2)
  some : forall byte, read.1 = .ok (some byte) -> data[position]? = some byte
  seeks : watched.2.1.calls.countP CursorCall.isSeek ≤ 3
  reads : watched.2.1.calls.countP CursorCall.isRead ≤ 1
  holds : read.2.1.Holds holds read.2.2

/-- A source without a cursor refuses every read, and nothing else happens. -/
structure Retired (s : SeekThenRead ρ) : Prop where
  cursor_eq : s.cursor = none
  readAt_eq (host : Host) (position : Nat) (buffer : List UInt8) :
    Source.readAt s host position buffer = .failed .released buffer s host
  readByteAt_eq (host : Host) (position : Nat) :
    Source.readByteAt s host position = (.error .released, s, host)

/-- Watching the cursor does not change what is read. -/
theorem readAt_watched (s : SeekThenRead ρ) (host : Host) (position : Nat)
    (buffer : List UInt8) :
    let reading := Source.readAt s.watched host position buffer
    Source.readAt s host position buffer =
      { reading with source := reading.source.unwatched } := by
  rcases s with ⟨cursor | cursor, size⟩
  · rfl
  · dsimp only [Source.readAt, watched, Option.map]
    rw [← unwatch_readSettled position maxAttempts { cursor } host buffer]
    rfl

theorem readByteAt_watched (s : SeekThenRead ρ) (host : Host) (position : Nat) :
    let read := Source.readByteAt s.watched host position
    Source.readByteAt s host position = (read.1, read.2.1.unwatched, read.2.2) := by
  rcases s with ⟨cursor | cursor, size⟩
  · rfl
  · dsimp only [Source.readByteAt, watched, Option.map]
    rw [← unwatch_readByteSettled position { cursor } host]
    rfl

theorem readAt_readsTruly (truthful : TruthfulCursors data place holds) {s : SeekThenRead ρ}
    {host : Host} (hholds : s.Holds holds host) (position : Nat) {buffer : List UInt8}
    (hbuffer : buffer ≠ []) :
    ReadsTruly data place holds position buffer (Source.readAt s host position buffer)
      (Source.readAt s.watched host position buffer) := by
  rcases s with ⟨cursor | cursor, size⟩
  · constructor
    · rfl
    · intro n hn
      cases hn
    · intro hnone
      cases hnone
    · exact Nat.zero_le _
    · exact Nat.zero_le _
    · exact hholds
  · have hstart : holds (Watched.mk cursor []).cursor host := hholds cursor rfl
    have hcourse := readSettled_course truthful position maxAttempts hbuffer hstart
    rw [readAt_watched]
    dsimp only [Source.readAt, watched, Option.map, calls, Option.elim]
    generalize readSettled position maxAttempts (Watched.mk cursor []) host buffer = reading
      at hcourse ⊢
    rcases hcourse.spends.counts with ⟨hseeks, hreads⟩
    refine ⟨rfl, ?_, hcourse.none, hseeks, hreads, ?_⟩
    · intro n hn
      rcases hcourse.some n hn with ⟨hpos, hle, hbytes⟩
      have hlength : (reading.buffer.take n).length = n :=
        List.length_take_of_le (hcourse.length ▸ hle)
      rw [hbytes, length_slice] at hlength
      exact ⟨hpos, hle, by omega, hbytes⟩
    · rintro last ⟨⟩
      exact hcourse.holds

theorem readByteAt_readsByteTruly (truthful : TruthfulCursors data place holds)
    {s : SeekThenRead ρ} {host : Host} (hholds : s.Holds holds host) (position : Nat) :
    ReadsByteTruly data holds position (Source.readByteAt s host position)
      (Source.readByteAt s.watched host position) := by
  rcases s with ⟨cursor | cursor, size⟩
  · constructor
    · rfl
    · intro byte hbyte
      cases hbyte
    · exact Nat.zero_le _
    · exact Nat.zero_le _
    · exact hholds
  · have hstart : holds (Watched.mk cursor []).cursor host := hholds cursor rfl
    have hcourse := readByteSettled_course truthful position hstart
    rw [readByteAt_watched]
    dsimp only [Source.readByteAt, watched, Option.map, calls, Option.elim]
    generalize readByteSettled position (Watched.mk cursor []) host = read at hcourse ⊢
    rcases hcourse.spends.counts with ⟨hseeks, hreads⟩
    refine ⟨rfl, hcourse.some, hseeks, hreads, ?_⟩
    rintro last ⟨⟩
    exact hcourse.holds

/-- A source over a cursor that tells its place and reads from there never delivers a byte from
anywhere else, whatever the cursor does when it is moved and where it goes after a read.  It
gives up after few calls, and once it is released it has no cursor to call. -/
theorem reads_truly (truthful : TruthfulCursors data place holds) {s : SeekThenRead ρ}
    {host : Host} (hholds : s.Holds holds host) (position : Nat) :
    (forall buffer, buffer ≠ [] ->
      ReadsTruly data place holds position buffer (Source.readAt s host position buffer)
        (Source.readAt s.watched host position buffer)) ∧
    ReadsByteTruly data holds position (Source.readByteAt s host position)
      (Source.readByteAt s.watched host position) ∧
    (Releasable.release s host).2.1.Retired := by
  refine ⟨fun buffer hbuffer => readAt_readsTruly truthful hholds position hbuffer,
    readByteAt_readsByteTruly truthful hholds position, ?_⟩
  rcases s with ⟨cursor | cursor, size⟩
  · exact ⟨rfl, fun _ _ _ => rfl, fun _ _ => rfl⟩
  · exact ⟨rfl, fun _ _ _ => rfl, fun _ _ => rfl⟩

end SeekThenRead

/-!
## Scripted cursors
-/

namespace Scripted

/-- A cursor over some data that is never scripted to tell a wrong place. -/
structure ScriptedCursor.Honest (data : Array UInt8) (s : ScriptedCursor) : Prop where
  data_eq : s.data = data
  tells : forall distance, TellReply.offBy distance ∉ s.tells

/-- Its moves and drifts can be scripted at will. -/
theorem ScriptedCursor.truthful (data : Array UInt8) :
    TruthfulCursors data ScriptedCursor.position fun s _ => s.Honest data where
  seek := by
    intro s s' host host' aim result hholds hseek
    change s.seek host aim = _ at hseek
    unfold seek at hseek
    rcases nextReply SeekReply.normal s.seeks with ⟨reply, seeks⟩
    cases hseek
    exact ⟨hholds.data_eq, hholds.tells⟩
  tell := by
    intro s s' host host' result hholds htell
    change s.tell host = _ at htell
    unfold tell at htell
    have hnext := mem_of_nextReply TellReply.normal s.tells
    generalize nextReply TellReply.normal s.tells = next at htell hnext
    rcases next with ⟨reply, tells⟩
    rcases hnext with ⟨hreply, hrest⟩
    cases htell
    refine ⟨⟨hholds.data_eq, fun distance h => hholds.tells distance (hrest _ h)⟩, ?_⟩
    intro told htold
    cases reply with
    | normal => exact (Except.ok.inj htold).symm
    | fail cause => cases htold
    | offBy distance =>
        rcases hreply with hnormal | hscripted
        · cases hnormal
        · exact absurd hscripted (hholds.tells distance)
  read := by
    intro s s' host host' length result hholds hread
    change s.read host length = _ at hread
    unfold read at hread
    generalize nextReply (ReadReply.deliver none 0) s.reads = next at hread
    rcases next with ⟨reply, reads⟩
    cases reply with
    | fail cause =>
        cases hread
        refine ⟨⟨hholds.data_eq, hholds.tells⟩, ?_⟩
        intro piece hpiece
        cases hpiece
    | deliver cap drift =>
        cases hread
        refine ⟨⟨hholds.data_eq, hholds.tells⟩, ?_⟩
        rintro piece ⟨⟩
        rw [← hholds.data_eq]
        exact ⟨length_copyAt_le .., (slice_length_copyAt ..).symm⟩

end Scripted

namespace SeekThenRead

open Scripted

/-- Moves that are ignored, lie or miss, and a read after which the cursor is elsewhere. -/
theorem reads_truly_scripted :
    let cursor : ScriptedCursor :=
      { data := #[1, 2, 3, 4, 5], position := 4, seeks := [.ignore, .lie, .normal, .offBy 1]
        reads := [.deliver (some 2) 1] }
    let s : SeekThenRead ScriptedCursor := { cursor := some cursor, size := 5 }
    let holds (s : ScriptedCursor) (_ : Host) : Prop := s.Honest #[1, 2, 3, 4, 5]
    TruthfulCursors #[1, 2, 3, 4, 5] ScriptedCursor.position holds ∧ s.Holds holds {} ∧
    (forall buffer, buffer ≠ [] ->
      ReadsTruly #[1, 2, 3, 4, 5] ScriptedCursor.position holds 1 buffer
        (Source.readAt s {} 1 buffer) (Source.readAt s.watched {} 1 buffer)) ∧
    ReadsByteTruly #[1, 2, 3, 4, 5] holds 1 (Source.readByteAt s {} 1)
      (Source.readByteAt s.watched {} 1) ∧
    (Releasable.release s {}).2.1.Retired := by
  intro cursor s holds
  have hholds : s.Holds holds {} := by
    rintro _ ⟨⟩
    exact ⟨rfl, fun _ h => nomatch h⟩
  exact ⟨ScriptedCursor.truthful _, hholds,
    reads_truly (ScriptedCursor.truthful _) hholds 1⟩

/-- A cursor that moves only when it is told for the third time, and that drifts after every
read, takes all nine moves and all three reads. -/
example :
    let cursor : ScriptedCursor :=
      { data := #[1, 2, 3, 4, 5]
        seeks := [.ignore, .lie, .normal, .ignore, .lie, .normal, .ignore, .lie, .normal]
        reads := [.deliver none 1, .deliver none 1, .deliver none 1] }
    let s : SeekThenRead ScriptedCursor := { cursor := some cursor, size := 5 }
    let calls := (Source.readAt s.watched {} 2 [0, 0]).source.calls
    (Source.readAt s {} 2 [0, 0]).outcome = .error (.io (unstable 2)) ∧
      calls.countP CursorCall.isSeek = 9 ∧ calls.countP CursorCall.isRead = 3 := by
  refine ⟨?_, ?_, ?_⟩ <;> cbv

end SeekThenRead
end ByteWindow
