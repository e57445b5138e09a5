import ByteWindow.Proofs.Stream.Honesty
import ByteWindow.Scripted.Stream

/-!
# Numbered readers are honest

A numbered reader delivers its data in order, up to its faults.  A fault leaves it where it
stands.  So a numbered reader is honest as long as it does not refuse to deliver anything at
once, and a numbering factory opens honest streams at the front if it makes its readers
there.
-/

namespace ByteWindow
namespace Scripted

/-- A numbered reader over `data` that stands at a position. -/
structure NumberedReader.StandsAt (data : Array UInt8) (reader : NumberedReader)
    (position : Nat) : Prop where
  data_eq : reader.data = data
  position_eq : reader.position = position
  chunk_ne : reader.chunk ≠ some 0

theorem copyAt_eq_take (data : Array UInt8) (position length : Nat) (cap : Option Nat) :
    copyAt data position length cap =
      (data.toList.drop position).take (copyAt data position length cap).length := by
  rw [copyAt, slice_eq]
  simp

theorem size_le_of_copyAt_nil {data : Array UInt8} {position length : Nat} {cap : Option Nat}
    (hlength : 0 < length) (hcap : cap ≠ some 0)
    (h : copyAt data position length cap = []) : data.size ≤ position := by
  have hcount := congrArg List.length h
  rw [copyAt, length_slice] at hcount
  have hroom : 0 < cap.getD length := by
    cases cap with
    | none => exact hlength
    | some cap => exact Nat.pos_of_ne_zero fun hzero => hcap (congrArg some hzero)
  simp only [List.length_nil] at hcount
  omega

namespace NumberedReader

theorem deliver_standsAt {data : Array UInt8} {reader reader' : NumberedReader}
    {host host' : Host} {position length : Nat} {cap : Option Nat} {piece : List UInt8}
    (hstands : StandsAt data reader position) (hlength : 0 < length) (hcap : cap ≠ some 0)
    (h : reader.deliver host length cap = (.ok piece, reader', host')) :
    piece.length ≤ length ∧ piece = (data.toList.drop position).take piece.length ∧
      (piece = [] -> data.toList.length ≤ position) ∧
      StandsAt data reader' (position + piece.length) := by
  rcases hstands with ⟨rfl, rfl, hchunk⟩
  cases h
  refine ⟨?_, copyAt_eq_take _ _ _ _, ?_, rfl, rfl, hchunk⟩
  · rw [copyAt, length_slice]
    omega
  · intro hnil
    rw [Array.length_toList]
    exact size_le_of_copyAt_nil hlength hcap hnil

theorem honestReaders (data : Array UInt8) :
    HonestReaders (ρ := NumberedReader) data.toList (fun _ => True) (StandsAt data) where
  delivered := by
    intro reader reader' host host' position length piece _ hstands hlength hread
    change reader.read host length = _ at hread
    unfold NumberedReader.read at hread
    split at hread
    · exact deliver_standsAt hstands hlength hstands.chunk_ne hread
    · split at hread
      · cases hread
      · rename_i fault rest hfaults hbefore
        refine deliver_standsAt hstands hlength ?_ hread
        have hroom : fault.position - reader.position ≠ 0 := by omega
        have hchunk := hstands.chunk_ne
        intro hzero
        have hmin := Option.some.inj hzero
        cases hcap : reader.chunk with
        | none =>
            rw [hcap, Option.getD_none, Nat.min_self] at hmin
            exact hroom hmin
        | some cap =>
            rw [hcap, Option.getD_some] at hmin
            rcases Nat.min_eq_zero_iff.mp hmin with hcap0 | hroom0
            · exact hchunk (by rw [hcap, hcap0])
            · exact hroom hroom0
  interrupted := by
    intro reader reader' host host' position length cause _ hstands _ hread
    rcases hstands with ⟨hdata, hposition, hchunk⟩
    change reader.read host length = _ at hread
    unfold NumberedReader.read at hread
    split at hread
    · cases hread
    · split at hread
      · cases hread
        split <;> exact ⟨hdata, hposition, hchunk⟩
      · cases hread
  calm_note := fun _ _ => trivial
  calm_read := fun _ _ _ => trivial
  calm_discard := fun _ _ => trivial

end NumberedReader

/-- A numbering factory that makes its readers at the front of the data. -/
def NumberingFactory.AtFront (data : Array UInt8)
    (factory : NumberingFactory (Discarding NumberedReader)) : Prop :=
  forall number stream, factory.make number = .ok stream ->
    NumberedReader.StandsAt data stream.reader 0

theorem NumberingFactory.opensAtFront (data : Array UInt8) :
    OpensAtFront (φ := NumberingFactory (Discarding NumberedReader)) (AtFront data)
      (fun _ => True) fun stream => NumberedReader.StandsAt data stream.reader where
  opened := by
    intro factory factory' stream host host' htrusted _ hopen
    cases hmake : factory.make factory.next with
    | ok made =>
        simp only [StreamFactory.openStream, hmake] at hopen
        cases hopen
        exact htrusted _ _ hmake
    | error cause =>
        simp only [StreamFactory.openStream, hmake] at hopen
        cases hopen
  trusted_open := by
    intro factory host htrusted _
    unfold StreamFactory.openStream
    simp only [instStreamFactoryNumberingFactory]
    split <;> exact htrusted
  calm_open := fun _ _ => trivial

/-!
## Numbered streams that are modest
-/

/-- A reply that tells how far the stream goes. -/
def SkipReply.Truthful : SkipReply -> Prop
  | .normal | .atMost _ | .fail _ => True
  | .over _ | .blind => False

/-- A numbered stream that stands within its data and tells the truth about its skips. -/
structure NumberedStream.SkipsFrom (stream : NumberedStream) (position : Nat) : Prop where
  position_eq : stream.position = position
  position_le : position ≤ stream.data.size
  size_le : stream.data.size ≤ largestPosition
  truthful : forall reply, reply ∈ stream.skips -> reply.Truthful

namespace NumberedStream

theorem skip_course {stream stream' : NumberedStream} {host host' : Host} {position n : Nat}
    {result : Except IoError Nat} (hstands : stream.SkipsFrom position)
    (hskip : Stream.skip stream host n = (result, stream', host')) :
    exists step, step ≤ n ∧ stream'.SkipsFrom (position + step) ∧
      forall reported, result = .ok reported -> reported = step := by
  rcases hstands with ⟨rfl, hposition, hsize, htruthful⟩
  cases hreply : nextReply .normal stream.skips with
  | mk reply rest =>
      have hreplies := mem_of_nextReply .normal stream.skips
      rw [hreply] at hreplies
      have htruth : reply.Truthful := by
        rcases hreplies.1 with hnormal | hmem
        · rw [show reply = .normal from hnormal]
          trivial
        · exact htruthful reply hmem
      have hrest : forall reply, reply ∈ rest -> reply.Truthful :=
        fun reply hmem => htruthful reply (hreplies.2 reply hmem)
      have hlands (step : Nat) (hstep : step ≤ stream.data.size - stream.position) :
          SkipsFrom
            { stream with skips := rest, position := clampPosition (stream.position + step) }
            (stream.position + step) :=
        { position_eq := by simp only [clampPosition]; omega
          position_le := by dsimp only; omega
          size_le := hsize
          truthful := hrest }
      change stream.skip host n = _ at hskip
      simp only [NumberedStream.skip, hreply] at hskip
      cases reply with
      | normal =>
          cases hskip
          exact ⟨_, Nat.min_le_left _ _, hlands _ (Nat.min_le_right _ _),
            fun _ h => (Except.ok.inj h).symm⟩
      | atMost m =>
          cases hskip
          have hroom := Nat.min_le_right n (stream.data.size - stream.position)
          exact ⟨_, Nat.le_trans (Nat.min_le_left _ _) (Nat.min_le_left _ _),
            hlands _ (Nat.le_trans (Nat.min_le_left _ _) hroom),
            fun _ h => (Except.ok.inj h).symm⟩
      | «over» extra => exact htruth.elim
      | blind => exact htruth.elim
      | fail cause =>
          cases hskip
          exact ⟨0, Nat.zero_le _, hlands 0 (Nat.zero_le _), fun _ h => by cases h⟩

theorem modestSkips : ModestSkips NumberedStream (fun _ => True) SkipsFrom where
  skipped := by
    intro stream stream' host host' position n step _ hstands hskip
    rcases skip_course hstands hskip with ⟨step', hle, hstands', hreported⟩
    rw [hreported step rfl]
    exact ⟨hle, hstands'⟩
  calm_skip := fun _ _ _ => trivial
  failed := by
    intro stream stream' host host' position n cause _ hstands hskip
    rcases skip_course hstands hskip with ⟨step, hle, hstands', _⟩
    exact ⟨step, hle, hstands'⟩

end NumberedStream

end Scripted
end ByteWindow
