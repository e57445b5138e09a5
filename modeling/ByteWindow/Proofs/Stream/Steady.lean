import ByteWindow.Proofs.Stream.Reliable
import ByteWindow.Proofs.Stream.Tagged

/-!
# Steady streams

A reliable stream may deliver fewer bytes than it was asked for, and it may do so differently
each time.  A steady stream does not: what it delivers at a position depends on the position,
the length and its limit alone.  A steady cursor gives a steady stream either way, whether bytes
are skipped by reading them or by moving.

What is asked of a host is that its disk stays the same, so that streams stay steady when they
are tagged.
-/

namespace ByteWindow

open Scripted

/-- A read that delivers as much of the data as its limit allows. -/
structure Yields {ε ρ : Type} (data : Array UInt8) (limit : Option Nat) (disk : Disk)
    (standsAt : ρ -> Nat -> Prop) (position length : Nat)
    (read : Except ε (List UInt8) × ρ × Host) : Prop where
  piece : read.1 = .ok (copyAt data position length limit)
  stands : standsAt read.2.1 (position + (copyAt data position length limit).length)
  disk_eq : read.2.2.disk = disk

/-- Cursors that deliver the data in pieces up to a limit, and that move where they are told
to. -/
structure SteadyCursors {ρ : Type} [ByteCursor ρ] (data : Array UInt8) (limit : Option Nat)
    (disk : Disk) (standsAt : ρ -> Nat -> Prop) : Prop
    extends ReliableCursors data (fun _ => False) (fun host => host.disk = disk) standsAt where
  yields {reader : ρ} {host : Host} {position length : Nat} :
    host.disk = disk -> standsAt reader position -> position < data.size -> 0 < length ->
    Yields data limit disk standsAt position length (ByteReader.read reader host length)

structure SteadyStreams {τ : Type} [Stream τ] (data : Array UInt8) (limit : Option Nat)
    (disk : Disk) (standsAt : τ -> Nat -> Prop) : Prop
    extends ReliableStreams data (fun host => host.disk = disk) standsAt where
  yields {stream : τ} {host : Host} {position length : Nat} :
    host.disk = disk -> standsAt stream position -> position < data.size -> 0 < length ->
    Yields data limit disk standsAt position length (Stream.read stream host length)

variable {data : Array UInt8} {limit : Option Nat} {disk : Disk}

/-!
## Both ways to skip
-/

namespace SteadyCursors

variable {ρ : Type} [ByteCursor ρ] {standsAt : ρ -> Nat -> Prop}

theorem discarding (cursors : SteadyCursors data limit disk standsAt) :
    SteadyStreams (τ := Discarding ρ) data limit disk
      fun stream => standsAt stream.reader where
  toReliableStreams := cursors.toReliableReaders.discarding
  yields := by
    intro stream host position length hdisk hstands hposition hlength
    rcases cursors.yields hdisk hstands hposition hlength with ⟨hpiece, hstands', hdisk'⟩
    exact ⟨hpiece, hstands', hdisk'⟩

theorem jumping (cursors : SteadyCursors data limit disk standsAt) :
    SteadyStreams (τ := Jumping ρ) data limit disk
      fun stream => standsAt stream.cursor where
  toReliableStreams := cursors.toReliableCursors.jumping
  yields := by
    intro stream host position length hdisk hstands hposition hlength
    rcases cursors.yields hdisk hstands hposition hlength with ⟨hpiece, hstands', hdisk'⟩
    exact ⟨hpiece, hstands', hdisk'⟩

end SteadyCursors

/-!
## Tags
-/

theorem SteadyStreams.tagged {τ : Type} [Stream τ] {standsAt : τ -> Nat -> Prop}
    (streams : SteadyStreams data limit disk standsAt) :
    SteadyStreams (τ := Tagged τ) data limit disk fun s => standsAt s.stream where
  calm_note := streams.calm_note
  calm_close := by
    intro host s hdisk
    exact streams.calm_close s.stream hdisk
  skips := by
    intro s host position n hdisk hstands hn hinside
    rcases streams.skips hdisk hstands hn hinside with ⟨step, hpos, hle, hreports⟩
    refine ⟨step, hpos, hle, ?_⟩
    simp only [Stream.skip]
    generalize Stream.skip s.stream host n = result at hreports
    cases hreports with
    | reported hstands' hdisk' => exact .reported hstands' hdisk'
  pulls := by
    intro s host position length hdisk hstands hlength hinside
    have hpulled := streams.pulls hdisk hstands hlength hinside
    simp only [Stream.read]
    generalize Stream.read s.stream host length = result at hpulled
    cases hpulled with
    | pulled hpos hle hall hstands' hdisk' => exact .pulled hpos hle hall hstands' hdisk'
  yields := by
    intro s host position length hdisk hstands hposition hlength
    rcases streams.yields hdisk hstands hposition hlength with ⟨hpiece, hstands', hdisk'⟩
    exact ⟨hpiece, hstands', hdisk'⟩

/-- A factory that never fails gives the numbers out one after the other. -/
theorem ReliableFactories.tagging {φ τ : Type} [StreamFactory φ τ] {trusted : φ -> Prop}
    {standsAt : τ -> Nat -> Prop}
    (factories : ReliableFactories trusted (fun host => host.disk = disk) standsAt)
    {factory : Tagging φ} {host : Host} (htrusted : trusted factory.factory)
    (hdisk : host.disk = disk) :
    exists s factory' host',
      StreamFactory.openStream factory host = (.ok s, factory', host') ∧
      standsAt s.stream 0 ∧ s.number = factory.next ∧ trusted factory'.factory ∧
      factory'.next = factory.next + 1 ∧ host'.disk = disk := by
  rcases factories.opens htrusted hdisk with
    ⟨stream, inner, host', hopen, hstands, htrusted', hdisk'⟩
  refine ⟨{ number := factory.next, stream }, { factory := inner, next := factory.next + 1 },
    { host' with events := host.events }.record (.opened factory.next), ?_, hstands, rfl,
    htrusted', rfl, hdisk'⟩
  show factory.openStream host = _
  unfold Tagging.openStream
  rw [hopen]

theorem ReliableFactories.tagged {φ τ : Type} [StreamFactory φ τ] {trusted : φ -> Prop}
    {standsAt : τ -> Nat -> Prop}
    (factories : ReliableFactories trusted (fun host => host.disk = disk) standsAt) :
    ReliableFactories (fun factory : Tagging φ => trusted factory.factory)
      (fun host => host.disk = disk) (fun s : Tagged τ => standsAt s.stream) where
  opens := by
    intro factory host htrusted hdisk
    rcases factories.tagging htrusted hdisk with
      ⟨s, factory', host', hopen, hstands, _, htrusted', _, hdisk'⟩
    exact ⟨s, factory', host', hopen, hstands, htrusted', hdisk'⟩

/-!
## Numbered readers
-/

namespace Scripted

theorem length_copyAt_pos {position length : Nat} (hlimit : limit ≠ some 0)
    (hposition : position < data.size) (hlength : 0 < length) :
    0 < (copyAt data position length limit).length := by
  apply List.length_pos_iff.mpr
  intro hnil
  exact Nat.not_le_of_lt hposition (size_le_of_copyAt_nil hlength hlimit hnil)

/-- A numbered reader without faults that goes where it is told. -/
structure NumberedReader.Obeys (data : Array UInt8) (limit : Option Nat)
    (reader : NumberedReader) (position : Nat) : Prop where
  data_eq : reader.data = data
  chunk_eq : reader.chunk = limit
  faults_eq : reader.faults = []
  habit_eq : reader.habit = .obedient
  position_eq : reader.position = position

namespace NumberedReader

theorem read_of_obeys {reader : NumberedReader} {position : Nat}
    (hobeys : Obeys data limit reader position) (host : Host) (length : Nat) :
    reader.read host length =
      (.ok (copyAt data position length limit),
        { reader with
          position := position + (copyAt data position length limit).length }, host) := by
  cases reader
  rcases hobeys with ⟨rfl, rfl, rfl, rfl, rfl⟩
  rfl

theorem seek_of_obeys {reader : NumberedReader} {host : Host} {position reached : Nat}
    {aim : SeekTarget} (hobeys : Obeys data limit reader position)
    (hsize : data.size ≤ largestPosition) (hdisk : host.disk = disk)
    (haim : reader.target aim = reached) (hinside : reached ≤ data.size) :
    Reports (fun host => host.disk = disk) (Obeys data limit) reached reached
      (reader.seek host aim) := by
  have hrange : 0 ≤ (reached : Int) ∧ (reached : Int) ≤ largestPosition :=
    ⟨Int.natCast_nonneg reached, Int.ofNat_le.mpr (Nat.le_trans hinside hsize)⟩
  unfold seek
  rw [haim, if_pos hrange]
  cases reader
  rcases hobeys with ⟨rfl, rfl, rfl, rfl, rfl⟩
  exact .reported ⟨rfl, rfl, rfl, rfl, rfl⟩ hdisk

theorem steady (hlimit : limit ≠ some 0) (hsize : data.size ≤ largestPosition) :
    SteadyCursors data limit disk (Obeys data limit) := by
  have hyields {reader : NumberedReader} {host : Host} {position length : Nat}
      (hdisk : host.disk = disk) (hobeys : Obeys data limit reader position) :
      Yields data limit disk (Obeys data limit) position length
        (ByteReader.read reader host length) := by
    show Yields data limit disk (Obeys data limit) position length (reader.read host length)
    rw [read_of_obeys hobeys]
    exact ⟨rfl, ⟨hobeys.data_eq, hobeys.chunk_eq, hobeys.faults_eq, hobeys.habit_eq, rfl⟩,
      hdisk⟩
  constructor
  · constructor
    · constructor
      · intro reader host position length hdisk hobeys hlength hinside
        have hposition : position < data.size :=
          Nat.lt_of_lt_of_le (Nat.lt_add_of_pos_right hlength) hinside
        rcases hyields hdisk hobeys with ⟨hpiece, hstands', hdisk'⟩
        generalize ByteReader.read reader host length = result at hpiece hstands' hdisk'
        rcases result with ⟨outcome, reader', host'⟩
        cases hpiece
        rw [← slice_length_copyAt]
        exact .pulled (length_copyAt_pos hlimit hposition hlength)
          (length_copyAt_le data position length limit) False.elim hstands' hdisk'
      · intro host diagnostic hdisk
        exact hdisk
      · intro host reader hdisk
        exact hdisk
    · intro reader host position hdisk hobeys
      cases hobeys.position_eq
      exact .reported hobeys hdisk
    · intro reader host position reached hdisk hobeys hinside
      exact seek_of_obeys hobeys hsize hdisk rfl hinside
    · intro reader host position distance hdisk hobeys hinside
      cases hobeys.position_eq
      exact seek_of_obeys hobeys hsize hdisk rfl hinside
    · intro reader host position hdisk hobeys
      cases hobeys.data_eq
      exact seek_of_obeys hobeys hsize hdisk (Int.add_zero _) (Nat.le_refl _)
  · intro reader host position length hdisk hobeys hposition hlength
    exact hyields hdisk hobeys

end NumberedReader
end Scripted
end ByteWindow
