import ByteWindow.Source.Buffer
import ByteWindow.Source.Channel
import ByteWindow.Source.Memory
import ByteWindow.Source.Positional

/-!
# Faithful sources

A source is faithful to some data if it answers every read within the data with bytes from
where it was asked, and with at least one.  What a source needs for that is told by a relation
`fit` between the source and its host, and every answer has to keep it.  A source answers
requests of some lengths promptly: with all bytes that it was asked for.

Bytes in memory, buffers, and open files that are read by position or through a channel are
faithful, as long as a file keeps its bytes and ends below the limit of positions.  Memory and
buffers answer every request promptly, files those that one read of the system can serve.
-/

namespace ByteWindow

variable {σ : Type} {data : Array UInt8} {prompt : Nat -> Prop}

/-- A read at a position within the data that delivered `n` bytes. -/
structure Delivers (data : Array UInt8) (prompt : Nat -> Prop) (fit : σ -> Host -> Prop)
    (position : Nat) (buffer : List UInt8) (reading : Reading (Option Nat) σ) (n : Nat) :
    Prop where
  outcome : reading.outcome = .ok (some n)
  pos : 0 < n
  le : n ≤ buffer.length
  all : prompt buffer.length -> n = buffer.length
  bytes : reading.buffer = overlay (slice data position n) buffer
  fit : fit reading.source reading.host

/-- Sources that answer faithfully as long as they are fit. -/
structure FaithfulSources [Source σ] (data : Array UInt8) (prompt : Nat -> Prop)
    (fit : σ -> Host -> Prop) : Prop where
  size {s : σ} {host : Host} : fit s host -> Source.size s = data.size
  read {s : σ} {host : Host} (position : Nat) {buffer : List UInt8} (mode : Mode) :
    fit s host -> buffer ≠ [] -> position + buffer.length ≤ data.size ->
    exists n, Delivers data prompt fit position buffer
      (Source.readVia mode s host position buffer) n
  byte {s : σ} {host : Host} (position : Nat) :
    fit s host -> position < data.size ->
    (Source.readByteAt s host position).1 = .ok data[position]? ∧
      fit (Source.readByteAt s host position).2.1 (Source.readByteAt s host position).2.2

/-!
## Single bytes
-/

theorem slice_one {position : Nat} (h : position < data.size) :
    slice data position 1 = [data[position]] := by
  rw [slice_eq, List.drop_eq_getElem_cons (by simpa using h)]
  simp

/-- A read into a buffer of one byte delivers that byte. -/
theorem Delivers.singleByte {fit : σ -> Host -> Prop} {position : Nat}
    {reading : Reading (Option Nat) σ} {n : Nat}
    (delivers : Delivers data prompt fit position [0] reading n)
    (hposition : position < data.size) :
    reading.singleByte.1 = .ok data[position]? ∧
      fit reading.singleByte.2.1 reading.singleByte.2.2 := by
  have hone : n = 1 := Nat.le_antisymm delivers.le delivers.pos
  have hbytes := delivers.bytes
  rw [hone, slice_one hposition] at hbytes
  unfold Reading.singleByte
  rw [delivers.outcome, hone, hbytes]
  refine ⟨?_, delivers.fit⟩
  rw [Array.getElem?_eq_getElem hposition]
  rfl

/-- Sources that read a byte into a buffer of one byte are faithful if their reads are. -/
theorem FaithfulSources.of_reads [Source σ] {fit : σ -> Host -> Prop}
    (hbyte : forall (s : σ) (host : Host) (position : Nat),
      Source.readByteAt s host position = (Source.readAt s host position [0]).singleByte)
    (hsize : forall {s : σ} {host : Host}, fit s host -> Source.size s = data.size)
    (hread : forall {s : σ} {host : Host} (position : Nat) {buffer : List UInt8}
      (mode : Mode), fit s host -> buffer ≠ [] -> position + buffer.length ≤ data.size ->
      exists n, Delivers data prompt fit position buffer
        (Source.readVia mode s host position buffer) n) :
    FaithfulSources data prompt fit where
  size := hsize
  read := hread
  byte := by
    intro s host position hfit hposition
    rcases hread position .blocking hfit (List.cons_ne_nil (0 : UInt8) []) hposition with
      ⟨n, hdelivers⟩
    rw [hbyte]
    exact hdelivers.singleByte hposition

/-!
## Whole pieces
-/

theorem slice_inside {position length : Nat} (h : position + length ≤ data.size) :
    (slice data position length).length = length := by
  rw [length_slice]
  omega

/-- A source that delivers a piece of what was asked for. -/
theorem Delivers.piece {fit : σ -> Host -> Prop} {s : σ} {host : Host} {position : Nat}
    {piece buffer : List UInt8} (hfit : fit s host)
    (hpiece : piece = slice data position piece.length) (hpos : 0 < piece.length)
    (hle : piece.length ≤ buffer.length)
    (hall : prompt buffer.length -> piece.length = buffer.length) :
    Delivers data prompt fit position buffer (.delivered piece buffer s host)
      piece.length where
  outcome := rfl
  pos := hpos
  le := hle
  all := hall
  bytes := congrArg (fun piece => overlay piece buffer) hpiece
  fit := hfit

/-- A source that delivers all that was asked for, up to a limit. -/
theorem Delivers.upTo {fit : σ -> Host -> Prop} {s : σ} {host : Host} {position limit : Nat}
    {buffer : List UInt8} (hfit : fit s host) (hbuffer : buffer ≠ []) (hlimit : 0 < limit)
    (hprompt : prompt buffer.length -> buffer.length ≤ limit)
    (hinside : position + buffer.length ≤ data.size) :
    exists n, Delivers data prompt fit position buffer
      (.delivered (slice data position (min buffer.length limit)) buffer s host) n := by
  have hlength : (slice data position (min buffer.length limit)).length =
      min buffer.length limit :=
    slice_inside (Nat.le_trans (Nat.add_le_add_left (Nat.min_le_left _ _) _) hinside)
  refine ⟨_, .piece hfit ?_ ?_ ?_ ?_⟩
  · rw [hlength]
  · rw [hlength]
    exact Nat.lt_min.mpr ⟨List.length_pos_iff.mpr hbuffer, hlimit⟩
  · rw [hlength]
    exact Nat.min_le_left _ _
  · intro hall
    rw [hlength]
    exact Nat.min_eq_left (hprompt hall)

/-- A source that delivers all that was asked for. -/
theorem Delivers.whole {fit : σ -> Host -> Prop} {s : σ} {host : Host} {position : Nat}
    {buffer : List UInt8} (hfit : fit s host) (hbuffer : buffer ≠ [])
    (hinside : position + buffer.length ≤ data.size) :
    exists n, Delivers data prompt fit position buffer
      (.delivered (slice data position buffer.length) buffer s host) n := by
  rw [← Nat.min_self buffer.length]
  exact Delivers.upTo hfit hbuffer (List.length_pos_iff.mpr hbuffer)
    (fun _ => Nat.le_refl _) hinside

/-- No piece of the data is empty that has room for a byte. -/
theorem deliveredOrEnd_inside {s : σ} {host : Host} {position n : Nat} {buffer : List UInt8}
    (hpos : 0 < n) (hinside : position + n ≤ data.size) :
    Reading.deliveredOrEnd (slice data position n) buffer s host =
      .delivered (slice data position n) buffer s host := by
  unfold Reading.deliveredOrEnd Reading.delivered endIfNothing
  rw [slice_inside hinside, if_neg (fun h => Nat.ne_of_gt hpos h.1)]

theorem deliveredOrEnd_upTo {s : σ} {host : Host} {position limit : Nat} {buffer : List UInt8}
    (hbuffer : buffer ≠ []) (hlimit : 0 < limit)
    (hinside : position + buffer.length ≤ data.size) :
    Reading.deliveredOrEnd (slice data position (min buffer.length limit)) buffer s host =
      .delivered (slice data position (min buffer.length limit)) buffer s host := by
  apply deliveredOrEnd_inside
  · exact Nat.lt_min.mpr ⟨List.length_pos_iff.mpr hbuffer, hlimit⟩
  · exact Nat.le_trans (Nat.add_le_add_left (Nat.min_le_left _ _) _) hinside

/-!
## Bytes in memory
-/

theorem Memory.faithful (data : Array UInt8) :
    FaithfulSources (σ := Memory) data (fun _ => True) fun s _ => s.bytes = data where
  size := by
    rintro s host rfl
    rfl
  read := by
    rintro s host position buffer mode rfl hbuffer hinside
    have hpos := List.length_pos_iff.mpr hbuffer
    have hread : Source.readVia mode s host position buffer =
        .delivered (slice s.bytes position buffer.length) buffer s host := by
      cases mode <;> exact if_pos (by omega)
    rw [hread]
    exact Delivers.whole rfl hbuffer hinside
  byte := by
    rintro s host position rfl _
    exact ⟨rfl, rfl⟩

/-- A buffer that shows the data and was not released. -/
def Buffer.Shows (data : Array UInt8) (s : Buffer) (host : Host) : Prop :=
  s.bytes? host = .ok data ∧ s.size = data.size

theorem Buffer.faithful (data : Array UInt8) :
    FaithfulSources data (fun _ => True) (Buffer.Shows data) where
  size := fun hfit => hfit.2
  read := by
    intro s host position buffer mode hfit hbuffer hinside
    have hread : Source.readVia mode s host position buffer =
        .delivered (slice data position buffer.length) buffer s host := by
      rw [← deliveredOrEnd_inside (List.length_pos_iff.mpr hbuffer) hinside]
      cases mode with
      | blocking =>
          simp only [Source.readVia_blocking, Source.readAt, hfit.1]
      | awaited =>
          simp only [Source.readVia_awaited, Source.readAwaited, Source.startRead, hfit.1]
    rw [hread]
    exact Delivers.whole hfit hbuffer hinside
  byte := by
    intro s host position hfit _
    simp only [Source.readByteAt, hfit.1]
    exact ⟨trivial, hfit⟩

theorem Buffer.shows_ofBytes (data : Array UInt8) (host : Host) :
    Buffer.Shows data (Buffer.ofBytes data) host := by
  constructor <;> rfl

/-!
## Open files
-/

/-- A read of a file that ends within it, and below the limit of positions, delivers every
byte, as far as one read goes. -/
theorem Disk.readAt_inside {disk : Disk} {file : FileId} {position length : Nat}
    (hbytes : disk.bytes file = data) (hlimit : data.size < Disk.positionLimit)
    (hinside : position + length ≤ data.size) :
    disk.readAt file position length =
      .ok (slice data position (min length Disk.readLimit)) := by
  unfold Disk.readAt
  rw [if_pos (Nat.lt_of_le_of_lt hinside hlimit), hbytes]

theorem Buffer.shows_ofFile {host : Host} {file : FileId}
    (hbytes : host.disk.bytes file = data) :
    Buffer.Shows data (Buffer.ofFile host.disk file) host := by
  have hsize : host.disk.size file = data.size := congrArg Array.size hbytes
  unfold Buffer.ofFile
  rw [hsize]
  dsimp only
  by_cases hempty : data.size = 0
  · rw [if_pos hempty]
    refine ⟨?_, rfl⟩
    rw [Array.eq_empty_of_size_eq_zero hempty]
    rfl
  · rw [if_neg hempty]
    refine ⟨?_, rfl⟩
    dsimp only [Buffer.bytes?, Storage.bytes]
    rw [hbytes, if_pos rfl]

/-- A positional source over an open file that holds the data. -/
structure Positional.Reads (data : Array UInt8) (s : Positional) (host : Host) : Prop where
  opened : exists file, s.file = some file ∧ host.disk.bytes file = data
  size_eq : s.size = data.size

/-- A read within the file gets as far as one read of the system does. -/
theorem Positional.Reads.readVia_inside {s : Positional} {host : Host} {position : Nat}
    {buffer : List UInt8} (hfit : Positional.Reads data s host)
    (hlimit : data.size < Disk.positionLimit) (hbuffer : buffer ≠ [])
    (hinside : position + buffer.length ≤ data.size) (mode : Mode) :
    Source.readVia mode s host position buffer =
      .delivered (slice data position (min buffer.length Disk.readLimit)) buffer s host := by
  rcases hfit.opened with ⟨file, hfile, hbytes⟩
  have hpiece := Disk.readAt_inside hbytes hlimit hinside
  rw [← deliveredOrEnd_upTo hbuffer Disk.readLimit_pos hinside]
  cases mode with
  | blocking => simp only [Source.readVia_blocking, Source.readAt, hfile, hpiece]
  | awaited =>
      simp only [Source.readVia_awaited, Source.readAwaited, Source.startRead, hfile, hpiece]

theorem Positional.faithful (hlimit : data.size < Disk.positionLimit) :
    FaithfulSources data (fun length => length ≤ Disk.readLimit) (Positional.Reads data) := by
  apply FaithfulSources.of_reads
  · intro s host position
    rfl
  · intro s host hfit
    exact hfit.size_eq
  · intro s host position buffer mode hfit hbuffer hinside
    rw [hfit.readVia_inside hlimit hbuffer hinside]
    exact Delivers.upTo hfit hbuffer Disk.readLimit_pos id hinside

theorem Positional.reads_ofFile {host : Host} {file : FileId}
    (hbytes : host.disk.bytes file = data) :
    Positional.Reads data (Positional.ofFile host.disk file) host where
  opened := ⟨file, rfl, hbytes⟩
  size_eq := congrArg Array.size hbytes

/-- An open channel to a file that holds the data. -/
structure Channel.Reads (data : Array UInt8) (s : Channel) (host : Host) : Prop where
  opened : exists file, s.state = .opened file ∧ host.disk.bytes file = data
  size_eq : s.size = data.size

/-- A read within the file gets as far as one read of the system does. -/
theorem Channel.Reads.readVia_inside {s : Channel} {host : Host} {position : Nat}
    {buffer : List UInt8} (hfit : Channel.Reads data s host)
    (hlimit : data.size < Disk.positionLimit) (hbuffer : buffer ≠ [])
    (hinside : position + buffer.length ≤ data.size) (mode : Mode) :
    Source.readVia mode s host position buffer =
      .delivered (slice data position (min buffer.length Disk.readLimit)) buffer s host := by
  rcases hfit.opened with ⟨file, hfile, hbytes⟩
  have hpiece := Disk.readAt_inside hbytes hlimit hinside
  rw [← deliveredOrEnd_upTo hbuffer Disk.readLimit_pos hinside]
  cases mode with
  | blocking =>
      simp only [Source.readVia_blocking, Source.readAt, Channel.readAt, hfile,
        ChannelState.file?, hpiece]
  | awaited =>
      simp only [Source.readVia_awaited, Source.readAwaited, Source.startRead,
        Channel.startRead, Source.finishRead, Channel.finishRead, hfile,
        ChannelState.file?, hpiece]

theorem Channel.faithful (hlimit : data.size < Disk.positionLimit) :
    FaithfulSources data (fun length => length ≤ Disk.readLimit) (Channel.Reads data) := by
  apply FaithfulSources.of_reads
  · intro s host position
    rfl
  · intro s host hfit
    exact hfit.size_eq
  · intro s host position buffer mode hfit hbuffer hinside
    rw [hfit.readVia_inside hlimit hbuffer hinside]
    exact Delivers.upTo hfit hbuffer Disk.readLimit_pos id hinside

theorem Channel.reads_ofFile {host : Host} {file : FileId}
    (hbytes : host.disk.bytes file = data) :
    Channel.Reads data (Channel.ofFile host.disk file) host where
  opened := ⟨file, rfl, hbytes⟩
  size_eq := congrArg Array.size hbytes

end ByteWindow
