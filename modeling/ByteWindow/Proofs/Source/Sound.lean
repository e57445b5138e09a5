import ByteWindow.Proofs.Pool.Alignment
import ByteWindow.Proofs.Source.Faithful

/-!
# Sound sources

A source is sound about some data if it never delivers a wrong byte.  It can fail at any time,
or take a place within the data for the end; but if it delivers something, then it delivers at
least one byte, and the bytes are those from where it was asked.  Pools of honest streams are
sound, whatever fails in them.
-/

namespace ByteWindow

variable {σ : Type} {data : Array UInt8} {fit : σ -> Host -> Prop}

/-- A reading that delivers the bytes at a position, if it delivers any. -/
structure SoundReading (data : Array UInt8) (fit : σ -> Host -> Prop) (position : Nat)
    (buffer : List UInt8) (reading : Reading (Option Nat) σ) : Prop where
  fit : fit reading.source reading.host
  bytes {n : Nat} : reading.outcome = .ok (some n) ->
    0 < n ∧ n ≤ buffer.length ∧ reading.buffer.take n = slice data position n

/-- Sources that fail or deliver the right bytes as long as they are fit. -/
structure SoundSources [Source σ] (data : Array UInt8) (fit : σ -> Host -> Prop) :
    Prop where
  read {s : σ} {host : Host} (position : Nat) {buffer : List UInt8} :
    fit s host -> buffer ≠ [] -> position + buffer.length ≤ data.size ->
    SoundReading data fit position buffer (Source.readAt s host position buffer)
  byte {s : σ} {host : Host} (position : Nat) :
    fit s host -> position < data.size ->
    fit (Source.readByteAt s host position).2.1 (Source.readByteAt s host position).2.2 ∧
      forall byte, (Source.readByteAt s host position).1 = .ok (some byte) ->
        data[position]? = some byte

theorem SoundReading.singleByte {position : Nat} {reading : Reading (Option Nat) σ}
    (sound : SoundReading data fit position [0] reading) (hposition : position < data.size) :
    fit reading.singleByte.2.1 reading.singleByte.2.2 ∧
      forall byte, reading.singleByte.1 = .ok (some byte) -> data[position]? = some byte := by
  unfold Reading.singleByte
  split
  · rename_i hone
    refine ⟨sound.fit, ?_⟩
    intro byte hbyte
    have hbytes := (sound.bytes hone).2.2
    rw [slice_one hposition, List.take_one] at hbytes
    dsimp only at hbyte
    rw [Except.ok.inj hbyte] at hbytes
    rw [Array.getElem?_eq_getElem hposition]
    exact congrArg some (List.singleton_inj.mp hbytes).symm
  · refine ⟨sound.fit, ?_⟩
    intro byte hbyte
    cases hbyte
  · refine ⟨sound.fit, ?_⟩
    intro byte hbyte
    cases hbyte

/-- Sources that read a byte into a buffer of one byte are sound if their reads are. -/
theorem SoundSources.of_reads [Source σ]
    (hbyte : forall (s : σ) (host : Host) (position : Nat),
      Source.readByteAt s host position = (Source.readAt s host position [0]).singleByte)
    (hread : forall {s : σ} {host : Host} (position : Nat) {buffer : List UInt8},
      fit s host -> buffer ≠ [] -> position + buffer.length ≤ data.size ->
      SoundReading data fit position buffer (Source.readAt s host position buffer)) :
    SoundSources data fit where
  read := hread
  byte := by
    intro s host position hfit hposition
    rw [hbyte]
    exact (hread position hfit (List.cons_ne_nil (0 : UInt8) []) hposition).singleByte hposition

/-- A pool of honest streams delivers no wrong byte, whatever its streams fail to do. -/
theorem Pool.sound {φ τ : Type} [Stream τ] [StreamFactory φ τ] {trusted : φ -> Prop}
    {calm : Host -> Prop} {standsAt : τ -> Nat -> Prop}
    (honest : HonestStreams data.toList calm standsAt)
    (opens : OpensAtFront trusted calm standsAt) :
    SoundSources data (Aligned (φ := φ) trusted calm standsAt) := by
  apply SoundSources.of_reads
  · intro pool host position
    rfl
  · intro pool host position buffer haligned hbuffer hinside
    have hposition : position < data.toList.length := by
      have hlength := List.length_pos_iff.mpr hbuffer
      rw [Array.length_toList]
      omega
    rcases Aligned.readAt honest opens haligned hposition hbuffer with ⟨hanswer, haligned'⟩
    refine ⟨haligned', ?_⟩
    intro n hn
    have hright : AnswersRightly data.toList position buffer
        (Pool.readAt pool host position buffer) := hanswer
    unfold AnswersRightly at hright
    have hn' : (Pool.readAt pool host position buffer).outcome = .ok (some n) := hn
    rw [hn'] at hright
    rcases hright with ⟨hpos, hle, _, hbytes⟩
    refine ⟨hpos, hle, ?_⟩
    rw [slice_eq]
    exact hbytes

end ByteWindow
