import ByteWindow.Proofs.Source.Faithful
import ByteWindow.Proofs.Stream.Numbered
import ByteWindow.Stream.FileCursor

/-!
# Reliable streams

A stream is reliable over some data if nothing that is asked of it within the data fails.  A
read delivers at least one byte from where the stream stands, and a skip gets at least one
byte further.  Nothing is said of what happens at the end of the data or past it.

Reliable readers are reliable streams when bytes are skipped by reading them, and reliable
cursors when they are skipped by moving.  Open files are reliable cursors and buffered files
are reliable readers, as long as their bytes stay the same.
-/

namespace ByteWindow

/-- A read that delivers the next bytes, at least one of them. -/
inductive Pulls {ρ : Type} (data : Array UInt8) (prompt : Nat -> Prop) (calm : Host -> Prop)
    (standsAt : ρ -> Nat -> Prop) (position length : Nat) :
    Except IoError (List UInt8) × ρ × Host -> Prop where
  | pulled {n : Nat} {reader : ρ} {host : Host} :
      0 < n -> n ≤ length -> (prompt length -> n = length) -> standsAt reader (position + n) ->
      calm host ->
      Pulls data prompt calm standsAt position length
        (.ok (slice data position n), reader, host)

/-- A call that reports a number and leaves a reader standing at a position. -/
inductive Reports {ρ : Type} (calm : Host -> Prop) (standsAt : ρ -> Nat -> Prop)
    (number position : Nat) : Except IoError Nat × ρ × Host -> Prop where
  | reported {reader : ρ} {host : Host} :
      standsAt reader position -> calm host ->
      Reports calm standsAt number position (.ok number, reader, host)

structure ReliableReaders {ρ : Type} [ByteReader ρ] (data : Array UInt8) (prompt : Nat -> Prop)
    (calm : Host -> Prop) (standsAt : ρ -> Nat -> Prop) : Prop where
  pulls {reader : ρ} {host : Host} {position length : Nat} :
    calm host -> standsAt reader position -> 0 < length -> position + length ≤ data.size ->
    Pulls data prompt calm standsAt position length (ByteReader.read reader host length)
  calm_note {host : Host} (diagnostic : Diagnostic) :
    calm host -> calm (host.note diagnostic)
  calm_discard {host : Host} (reader : ρ) :
    calm host -> calm (ByteReader.discard reader host)

structure ReliableCursors {ρ : Type} [ByteCursor ρ] (data : Array UInt8) (prompt : Nat -> Prop)
    (calm : Host -> Prop) (standsAt : ρ -> Nat -> Prop) : Prop
    extends ReliableReaders data prompt calm standsAt where
  tells {cursor : ρ} {host : Host} {position : Nat} :
    calm host -> standsAt cursor position ->
    Reports calm standsAt position position (ByteCursor.tell cursor host)
  seeks {cursor : ρ} {host : Host} {position target : Nat} :
    calm host -> standsAt cursor position -> target ≤ data.size ->
    Reports calm standsAt target target (ByteCursor.seek cursor host (.start target))
  advances {cursor : ρ} {host : Host} {position distance : Nat} :
    calm host -> standsAt cursor position -> position + distance ≤ data.size ->
    Reports calm standsAt (position + distance) (position + distance)
      (ByteCursor.seek cursor host (.current distance))
  ends {cursor : ρ} {host : Host} {position : Nat} :
    calm host -> standsAt cursor position ->
    Reports calm standsAt data.size data.size (ByteCursor.seek cursor host (.fromEnd 0))

structure ReliableStreams {τ : Type} [Stream τ] (data : Array UInt8) (calm : Host -> Prop)
    (standsAt : τ -> Nat -> Prop) : Prop extends ClosesCalmly τ calm where
  skips {stream : τ} {host : Host} {position n : Nat} :
    calm host -> standsAt stream position -> 0 < n -> position + n ≤ data.size ->
    exists step, 0 < step ∧ step ≤ n ∧
      Reports calm standsAt step (position + step) (Stream.skip stream host n)
  pulls {stream : τ} {host : Host} {position length : Nat} :
    calm host -> standsAt stream position -> 0 < length -> position + length ≤ data.size ->
    Pulls data (fun _ => False) calm standsAt position length (Stream.read stream host length)

/-- A factory that opens its streams at the front and never fails to. -/
structure ReliableFactories {φ τ : Type} [StreamFactory φ τ] (trusted : φ -> Prop)
    (calm : Host -> Prop) (standsAt : τ -> Nat -> Prop) : Prop where
  opens {factory : φ} {host : Host} :
    trusted factory -> calm host ->
    exists stream factory' host',
      StreamFactory.openStream factory host = (.ok stream, factory', host') ∧
      standsAt stream 0 ∧ trusted factory' ∧ calm host'

theorem ReliableFactories.opensAtFront {φ τ : Type} [StreamFactory φ τ]
    {trusted : φ -> Prop} {calm : Host -> Prop} {standsAt : τ -> Nat -> Prop}
    (reliable : ReliableFactories trusted calm standsAt) :
    OpensAtFront trusted calm standsAt where
  opened := by
    intro factory factory' stream host host' htrusted hcalm hopen
    rcases reliable.opens htrusted hcalm with ⟨_, _, _, hopen', hstands, _⟩
    rw [hopen] at hopen'
    cases hopen'
    exact hstands
  trusted_open := by
    intro factory host htrusted hcalm
    rcases reliable.opens htrusted hcalm with ⟨_, _, _, hopen, _, htrusted', _⟩
    rw [hopen]
    exact htrusted'
  calm_open := by
    intro factory host htrusted hcalm
    rcases reliable.opens htrusted hcalm with ⟨_, _, _, hopen, _, _, hcalm'⟩
    rw [hopen]
    exact hcalm'

variable {data : Array UInt8} {prompt : Nat -> Prop} {calm : Host -> Prop}

/-- What is known of the piece that a read delivers within the data. -/
theorem Pulls.piece {ρ : Type} {standsAt : ρ -> Nat -> Prop} {position length : Nat}
    {piece : List UInt8} {reader : ρ} {host : Host}
    (pulls : Pulls data prompt calm standsAt position length (.ok piece, reader, host))
    (hinside : position + length ≤ data.size) :
    0 < piece.length ∧ piece.length ≤ length ∧ (prompt length -> piece.length = length) ∧
      piece = slice data position piece.length ∧
      standsAt reader (position + piece.length) ∧ calm host := by
  generalize hresult : (Except.ok piece, reader, host) = result at pulls
  cases pulls with
  | pulled hpos hle hall hstands hcalm =>
      cases hresult
      rename_i n
      have hlength : (slice data position n).length = n :=
        slice_inside (Nat.le_trans (Nat.add_le_add_left hle _) hinside)
      rw [hlength]
      exact ⟨hpos, hle, hall, rfl, hstands, hcalm⟩

/-!
## Skipping by reading
-/

namespace ReliableReaders

variable {ρ : Type} [ByteReader ρ] {standsAt : ρ -> Nat -> Prop}

/-- Bytes within the data are thrown away to the last one. -/
theorem discardBytes (reliable : ReliableReaders data prompt calm standsAt)
    (skipped patience : Nat) {reader : ρ} {host : Host} {remaining position : Nat}
    (hcalm : calm host) (hstands : standsAt reader position)
    (hinside : position + remaining ≤ data.size) :
    Reports calm standsAt (skipped + remaining) (position + remaining)
      (Discarding.discardBytes reader host skipped remaining patience) := by
  have hfits {position remaining : Nat} (hinside : position + remaining ≤ data.size) :
      position + min remaining discardChunk ≤ data.size :=
    Nat.le_trans (Nat.add_le_add_left (Nat.min_le_left _ _) _) hinside
  have hpulls {reader : ρ} {host : Host} {position remaining : Nat} (hcalm : calm host)
      (hstands : standsAt reader position) (hinside : position + remaining ≤ data.size)
      (hremaining : ¬ remaining = 0) :
      Pulls data prompt calm standsAt position (min remaining discardChunk)
        (ByteReader.read reader host (min remaining discardChunk)) := by
    apply reliable.pulls hcalm hstands
    · exact Nat.lt_min.mpr ⟨Nat.pos_of_ne_zero hremaining, by decide⟩
    · exact hfits hinside
  fun_induction Discarding.discardBytes reader host skipped remaining patience
    generalizing position with
  | case1 reader host skipped patience => exact .reported hstands hcalm
  | case2 reader host skipped remaining patience hremaining reader' host' hread =>
      have hpulled := hpulls hcalm hstands hinside hremaining
      rw [hread] at hpulled
      exact absurd (hpulled.piece (hfits hinside)).1 (Nat.lt_irrefl 0)
  | case3 reader host skipped remaining patience hremaining byte rest reader' host' hread =>
      rename_i n ih
      have hpulled := hpulls hcalm hstands hinside hremaining
      rw [hread] at hpulled
      rcases hpulled.piece (hfits hinside) with ⟨_, hle, _, _, hstands', hcalm'⟩
      have hstep : n ≤ remaining := Nat.le_trans hle (Nat.min_le_left _ _)
      have hreached : position + n + (remaining - n) = position + remaining := by
        rw [Nat.add_assoc, Nat.add_sub_cancel' hstep]
      have hrest := ih hcalm' hstands' (Nat.le_trans (Nat.le_of_eq hreached) hinside)
      rw [hreached, Nat.add_assoc, Nat.add_sub_cancel' hstep] at hrest
      exact hrest
  | case4 reader host skipped remaining hremaining cause reader' host' hread =>
      have hpulled := hpulls hcalm hstands hinside hremaining
      rw [hread] at hpulled
      cases hpulled
  | case5 reader host skipped remaining patience hremaining cause reader' host' hread =>
      have hpulled := hpulls hcalm hstands hinside hremaining
      rw [hread] at hpulled
      cases hpulled

theorem discarding (reliable : ReliableReaders data prompt calm standsAt) :
    ReliableStreams (τ := Discarding ρ) data calm fun stream => standsAt stream.reader where
  calm_note := reliable.calm_note
  calm_close := by
    intro host stream hcalm
    exact reliable.calm_discard stream.reader hcalm
  skips := by
    intro stream host position n hcalm hstands hn hinside
    refine ⟨n, hn, Nat.le_refl _, ?_⟩
    have hdiscarded := reliable.discardBytes 0 host.patience hcalm hstands hinside
    rw [Nat.zero_add] at hdiscarded
    simp only [Stream.skip]
    generalize Discarding.discardBytes stream.reader host 0 n host.patience = result
      at hdiscarded
    cases hdiscarded with
    | reported hstands' hcalm' => exact .reported hstands' hcalm'
  pulls := by
    intro stream host position length hcalm hstands hlength hinside
    have hpulled := reliable.pulls hcalm hstands hlength hinside
    simp only [Stream.read]
    generalize ByteReader.read stream.reader host length = result at hpulled
    cases hpulled with
    | pulled hpos hle _hall hstands' hcalm' =>
        exact .pulled hpos hle False.elim hstands' hcalm'

end ReliableReaders

/-!
## Skipping by moving
-/

namespace ReliableCursors

variable {ρ : Type} [ByteCursor ρ] {standsAt : ρ -> Nat -> Prop}

theorem jumping (reliable : ReliableCursors data prompt calm standsAt) :
    ReliableStreams (τ := Jumping ρ) data calm fun stream => standsAt stream.cursor where
  calm_note := reliable.calm_note
  calm_close := by
    intro host stream hcalm
    exact reliable.calm_discard stream.cursor hcalm
  skips := by
    intro stream host position n hcalm hstands hn hinside
    have hjump : min n Jumping.longestJump ≤ n := Nat.min_le_left _ _
    refine ⟨min n Jumping.longestJump, Nat.lt_min.mpr ⟨hn, by decide⟩, hjump, ?_⟩
    have htold := reliable.tells hcalm hstands
    simp only [Stream.skip]
    unfold Jumping.jump
    generalize ByteCursor.tell stream.cursor host = result at htold
    cases htold with
    | reported hstands' hcalm' =>
        rename_i cursor' host'
        have hmoved := reliable.advances hcalm' hstands'
          (Nat.le_trans (Nat.add_le_add_left hjump _) hinside)
        have hcast : ((min n Jumping.longestJump : Nat) : Int) =
            min (n : Int) Jumping.longestJump := by
          omega
        rw [hcast] at hmoved
        dsimp only
        generalize ByteCursor.seek cursor' host' _ = result at hmoved
        cases hmoved with
        | reported hstands'' hcalm'' =>
            dsimp only
            rw [Nat.add_sub_cancel_left]
            exact .reported hstands'' hcalm''
  pulls := by
    intro stream host position length hcalm hstands hlength hinside
    have hpulled := reliable.pulls hcalm hstands hlength hinside
    simp only [Stream.read]
    generalize ByteReader.read stream.cursor host length = result at hpulled
    cases hpulled with
    | pulled hpos hle _hall hstands' hcalm' =>
        exact .pulled hpos hle False.elim hstands' hcalm'

end ReliableCursors

/-!
## Open files
-/

/-- A cursor over a file at a position. -/
structure FileCursor.StandsAt (file : FileId) (s : FileCursor) (position : Nat) : Prop where
  file_eq : s.file = file
  position_eq : s.position = position

/-- A read below the limit of positions delivers what the file has, as much as one read can. -/
theorem FileCursor.read_eq {disk : Disk} {file : FileId} {s : FileCursor} {host : Host}
    {position length : Nat} (hbytes : disk.bytes file = data) (hcalm : host.disk = disk)
    (hstands : StandsAt file s position) (hbelow : position + length < Disk.positionLimit) :
    let piece := slice data position (min length Disk.readLimit)
    s.read host length =
      (.ok piece, { file, position := position + piece.length }, host) := by
  rcases hstands with ⟨rfl, rfl⟩
  unfold FileCursor.read Disk.readAt
  rw [hcalm, if_pos hbelow, hbytes]

theorem FileCursor.reliable {disk : Disk} {file : FileId}
    (hbytes : disk.bytes file = data) (hlimit : data.size < Disk.positionLimit) :
    ReliableCursors data (fun length => length ≤ Disk.readLimit) (fun host => host.disk = disk)
      (FileCursor.StandsAt file) := by
  -- Every move within the data is a move to a position below the limit.
  have hmoves {s : FileCursor} {host : Host} {position target : Nat} (hcalm : host.disk = disk)
      (hstands : StandsAt file s position) (htarget : target ≤ data.size) :
      Reports (fun host => host.disk = disk) (StandsAt file) target target
        (s.moveTo host target) := by
    have hbelow : (target : Int) < Disk.positionLimit :=
      Int.ofNat_lt.mpr (Nat.lt_of_le_of_lt htarget hlimit)
    unfold moveTo
    split
    · exact .reported ⟨hstands.file_eq, rfl⟩ hcalm
    · rename_i hoff
      exact absurd ⟨Int.natCast_nonneg _, hbelow⟩ hoff
  constructor
  · constructor
    · intro s host position length hcalm hstands hlength hinside
      simp only [ByteReader.read]
      have hpiece : position + min length Disk.readLimit ≤ data.size :=
        Nat.le_trans (Nat.add_le_add_left (Nat.min_le_left _ _) _) hinside
      rw [read_eq hbytes hcalm hstands (Nat.lt_of_le_of_lt hinside hlimit),
        slice_inside hpiece]
      exact .pulled (Nat.lt_min.mpr ⟨hlength, Disk.readLimit_pos⟩) (Nat.min_le_left _ _)
        Nat.min_eq_left ⟨rfl, rfl⟩ hcalm
    · intro host diagnostic hcalm
      exact hcalm
    · intro host s hcalm
      exact hcalm
  · rintro s host position hcalm ⟨hfile, rfl⟩
    exact .reported ⟨hfile, rfl⟩ hcalm
  · intro s host position target hcalm hstands htarget
    simp only [ByteCursor.seek, seek]
    exact hmoves hcalm hstands htarget
  · intro s host position distance hcalm hstands htarget
    simp only [ByteCursor.seek, seek]
    rw [hstands.position_eq, ← Int.natCast_add]
    exact hmoves hcalm hstands htarget
  · intro s host position hcalm hstands
    have hend : host.disk.size s.file = data.size := by
      rw [hcalm, hstands.file_eq, ← hbytes]
      rfl
    simp only [ByteCursor.seek, seek]
    rw [Int.add_zero, hend]
    exact hmoves hcalm hstands (Nat.le_refl data.size)

/-- A buffered file: what was fetched and not yet handed out are the bytes at the position,
and they end where the cursor stands. -/
structure BufferedFile.StandsAt (data : Array UInt8) (file : FileId) (s : BufferedFile)
    (position : Nat) : Prop where
  cursor : FileCursor.StandsAt file s.cursor (position + s.pending.length)
  inside : position + s.pending.length ≤ data.size
  pending_eq : s.pending = slice data position s.pending.length

namespace BufferedFile

variable {disk : Disk} {file : FileId} {s : BufferedFile} {host : Host}
variable {position length : Nat}

/-- Fetched bytes are handed out, and the others stand behind them. -/
theorem pulls_handOut (hcalm : host.disk = disk) (hstands : StandsAt data file s position)
    (hpending : s.pending ≠ []) (hlength : 0 < length) :
    Pulls data (fun _ => False) (fun host => host.disk = disk) (StandsAt data file) position length
      (.ok (s.handOut length).1, (s.handOut length).2, host) := by
  have hpos := List.length_pos_iff.mpr hpending
  have hpiece : s.pending.take length = slice data position (min length s.pending.length) := by
    rw [hstands.pending_eq, take_slice, ← hstands.pending_eq]
  have hend : position + min length s.pending.length + (s.pending.drop length).length =
      position + s.pending.length := by
    rw [List.length_drop]
    omega
  unfold handOut
  dsimp only
  rw [hpiece]
  refine .pulled (Nat.lt_min.mpr ⟨hlength, hpos⟩) (Nat.min_le_left _ _) False.elim ?_ hcalm
  constructor
  · rw [hend]
    exact hstands.cursor
  · rw [hend]
    exact hstands.inside
  · dsimp only
    rw [List.length_drop]
    rcases Nat.le_total length s.pending.length with hle | hge
    · rw [Nat.min_eq_left hle, ← drop_slice, ← hstands.pending_eq]
    · rw [List.drop_eq_nil_of_le hge, Nat.sub_eq_zero_of_le hge]
      exact (slice_eq data _ 0).symm

theorem reliable (hbytes : disk.bytes file = data)
    (hlimit : data.size + capacity < Disk.positionLimit) :
    ReliableReaders data (fun _ => False) (fun host => host.disk = disk) (StandsAt data file) where
  calm_note := fun _ hcalm => hcalm
  calm_discard := fun _ hcalm => hcalm
  pulls := by
    intro s host position length hcalm hstands hlength hinside
    simp only [ByteReader.read]
    unfold BufferedFile.read
    split
    · rename_i byte rest hpending
      refine pulls_handOut hcalm hstands ?_ hlength
      rw [hpending]
      exact List.cons_ne_nil _ _
    · rename_i hpending
      have hcursor : FileCursor.StandsAt file s.cursor position := by
        have hcursor := hstands.cursor
        rw [hpending] at hcursor
        exact hcursor
      split
      · -- A large request goes straight to the file.
        have hbelow : position + length < Disk.positionLimit :=
          Nat.lt_of_le_of_lt hinside (Nat.lt_of_le_of_lt (Nat.le_add_right _ _) hlimit)
        have hpiece : position + min length Disk.readLimit ≤ data.size :=
          Nat.le_trans (Nat.add_le_add_left (Nat.min_le_left _ _) _) hinside
        rw [FileCursor.read_eq hbytes hcalm hcursor hbelow, hpending,
          slice_inside hpiece]
        refine .pulled (Nat.lt_min.mpr ⟨hlength, Disk.readLimit_pos⟩) (Nat.min_le_left _ _)
          False.elim ?_
          hcalm
        exact ⟨⟨rfl, rfl⟩, hpiece, (slice_eq data _ 0).symm⟩
      · have hbelow : position + capacity < Disk.positionLimit := by
          refine Nat.lt_of_le_of_lt (Nat.add_le_add_right ?_ _) hlimit
          exact Nat.le_trans (Nat.le_add_right _ _) hinside
        have hone : min capacity Disk.readLimit = capacity := by decide
        rw [FileCursor.read_eq hbytes hcalm hcursor hbelow, hone]
        have hfetched := length_slice data position capacity
        refine pulls_handOut hcalm ⟨⟨rfl, rfl⟩, ?_, ?_⟩ ?_ hlength
        · dsimp only
          omega
        · exact (slice_length position capacity).symm
        · apply List.ne_nil_of_length_pos
          have hcapacity : 0 < capacity := by decide
          dsimp only
          omega

end BufferedFile

/-!
## Factories
-/

/-- Files are opened by name at their front, as long as the name stays in use. -/
theorem NamedFile.reliable {disk : Disk} {name : String} {file : FileId}
    (hopen : disk.openFile name = .ok file) :
    ReliableFactories (fun factory : NamedFile => factory.name = name)
      (fun host => host.disk = disk)
      (fun stream => BufferedFile.StandsAt data file stream.reader) where
  opens := by
    rintro factory host rfl hcalm
    have hstands : BufferedFile.StandsAt data file { cursor := { file, position := 0 } } 0 :=
      ⟨⟨rfl, rfl⟩, Nat.zero_le _, (slice_eq data _ 0).symm⟩
    refine ⟨_, _, _, ?_, hstands, rfl, hcalm⟩
    simp only [StreamFactory.openStream]
    rw [hcalm, hopen]

/-- A factory that counts its streams, over streams that stand at the front. -/
theorem NumberingFactory.reliable {τ : Type} {calm : Host -> Prop}
    {standsAt : τ -> Nat -> Prop}
    (hrecord : forall (host : Host) (event : Event), calm host -> calm (host.record event)) :
    ReliableFactories
      (fun factory : Scripted.NumberingFactory τ =>
        forall number, exists stream, factory.make number = .ok stream ∧ standsAt stream 0)
      calm standsAt where
  opens := by
    intro factory host htrusted hcalm
    rcases htrusted factory.next with ⟨stream, hmake, hstands⟩
    refine ⟨stream, { factory with next := factory.next + 1 },
      host.record (.opened factory.next), ?_, hstands, htrusted, hrecord _ _ hcalm⟩
    simp only [StreamFactory.openStream, hmake]

end ByteWindow
