import ByteWindow.Bytes
import ByteWindow.Stream

/-!
# Honest streams

A stream is honest about some data if it never claims more than it did.  Where a stream
stands is told by a relation `standsAt`.  A skip that succeeds reports by how much the
stream went forward, and a read that succeeds delivers the bytes from where the stream
stands; it delivers nothing only at the end.  Nothing is said of where a failure leaves a
stream.

Honesty is asked for only on hosts that are `calm`, which streams must not change: for
streams over a file, while the file is left alone.

A reader that is honest in the same sense is an honest stream when bytes are skipped by
reading them, as long as an interrupted read does not move it.
-/

namespace ByteWindow

structure HonestStreams {τ : Type} [Stream τ] (data : List UInt8) (calm : Host -> Prop)
    (standsAt : τ -> Nat -> Prop) : Prop where
  skipped {stream stream' : τ} {host host' : Host} {position n step : Nat} :
    calm host -> standsAt stream position ->
    Stream.skip stream host n = (.ok step, stream', host') ->
    step ≤ n ∧ (0 < step -> position + step ≤ data.length) ∧
      standsAt stream' (position + step)
  delivered {stream stream' : τ} {host host' : Host} {position length : Nat}
      {piece : List UInt8} :
    calm host -> standsAt stream position -> 0 < length ->
    Stream.read stream host length = (.ok piece, stream', host') ->
    piece.length ≤ length ∧ piece = (data.drop position).take piece.length ∧
      (piece = [] -> data.length ≤ position) ∧ standsAt stream' (position + piece.length)
  calm_note {host : Host} (diagnostic : Diagnostic) :
    calm host -> calm (host.note diagnostic)
  calm_skip {host : Host} (stream : τ) (n : Nat) :
    calm host -> calm (Stream.skip stream host n).2.2
  calm_read {host : Host} (stream : τ) (length : Nat) :
    calm host -> calm (Stream.read stream host length).2.2
  calm_close {host : Host} (stream : τ) :
    calm host -> calm (Stream.close stream host).2

/-- Streams that do what they report when they are told to skip. -/
structure HonestSkips (τ : Type) [Stream τ] (calm : Host -> Prop)
    (standsAt : τ -> Nat -> Prop) : Prop where
  skipped {stream stream' : τ} {host host' : Host} {position n step : Nat} :
    calm host -> standsAt stream position ->
    Stream.skip stream host n = (.ok step, stream', host') ->
    step ≤ n ∧ standsAt stream' (position + step)
  calm_skip {host : Host} (stream : τ) (n : Nat) :
    calm host -> calm (Stream.skip stream host n).2.2

theorem HonestStreams.honestSkips {τ : Type} [Stream τ] {data : List UInt8}
    {calm : Host -> Prop} {standsAt : τ -> Nat -> Prop}
    (honest : HonestStreams data calm standsAt) : HonestSkips τ calm standsAt where
  skipped := by
    intro stream stream' host host' position n step hcalm hstands hskip
    rcases honest.skipped hcalm hstands hskip with ⟨hstep, _, hstands'⟩
    exact ⟨hstep, hstands'⟩
  calm_skip := honest.calm_skip

/-- Honest skips that, also when they fail, go no further than they were told to. -/
structure ModestSkips (τ : Type) [Stream τ] (calm : Host -> Prop)
    (standsAt : τ -> Nat -> Prop) : Prop extends HonestSkips τ calm standsAt where
  failed {stream stream' : τ} {host host' : Host} {position n : Nat} {cause : IoError} :
    calm host -> standsAt stream position ->
    Stream.skip stream host n = (.error cause, stream', host') ->
    exists step, step ≤ n ∧ standsAt stream' (position + step)

/-- Streams that leave a calm host calm when they are closed and when that is noted. -/
structure ClosesCalmly (τ : Type) [Stream τ] (calm : Host -> Prop) : Prop where
  calm_note {host : Host} (diagnostic : Diagnostic) :
    calm host -> calm (host.note diagnostic)
  calm_close {host : Host} (stream : τ) :
    calm host -> calm (Stream.close stream host).2

theorem HonestStreams.closesCalmly {τ : Type} [Stream τ] {data : List UInt8}
    {calm : Host -> Prop} {standsAt : τ -> Nat -> Prop}
    (honest : HonestStreams data calm standsAt) : ClosesCalmly τ calm where
  calm_note := honest.calm_note
  calm_close := honest.calm_close

/-- A factory that opens its streams at the front of the data, if it opens them. -/
structure OpensAtFront {φ τ : Type} [StreamFactory φ τ] (trusted : φ -> Prop)
    (calm : Host -> Prop) (standsAt : τ -> Nat -> Prop) : Prop where
  opened {factory factory' : φ} {stream : τ} {host host' : Host} :
    trusted factory -> calm host ->
    StreamFactory.openStream factory host = (.ok stream, factory', host') ->
    standsAt stream 0
  trusted_open {factory : φ} {host : Host} :
    trusted factory -> calm host -> trusted (StreamFactory.openStream factory host).2.1
  calm_open {factory : φ} {host : Host} :
    trusted factory -> calm host -> calm (StreamFactory.openStream factory host).2.2

/-!
## Honest readers
-/

structure HonestReaders {ρ : Type} [ByteReader ρ] (data : List UInt8) (calm : Host -> Prop)
    (standsAt : ρ -> Nat -> Prop) : Prop where
  delivered {reader reader' : ρ} {host host' : Host} {position length : Nat}
      {piece : List UInt8} :
    calm host -> standsAt reader position -> 0 < length ->
    ByteReader.read reader host length = (.ok piece, reader', host') ->
    piece.length ≤ length ∧ piece = (data.drop position).take piece.length ∧
      (piece = [] -> data.length ≤ position) ∧ standsAt reader' (position + piece.length)
  interrupted {reader reader' : ρ} {host host' : Host} {position length : Nat}
      {cause : IoError} :
    calm host -> standsAt reader position -> cause.isInterrupted = true ->
    ByteReader.read reader host length = (.error cause, reader', host') ->
    standsAt reader' position
  calm_note {host : Host} (diagnostic : Diagnostic) :
    calm host -> calm (host.note diagnostic)
  calm_read {host : Host} (reader : ρ) (length : Nat) :
    calm host -> calm (ByteReader.read reader host length).2.2
  calm_discard {host : Host} (reader : ρ) :
    calm host -> calm (ByteReader.discard reader host)

namespace HonestReaders

variable {ρ : Type} [ByteReader ρ] {data : List UInt8} {calm : Host -> Prop}
variable {standsAt : ρ -> Nat -> Prop}

/-- The bytes that an honest reader delivers end within the data. -/
theorem end_le_of_take {piece : List UInt8} {position : Nat}
    (hpiece : piece = (data.drop position).take piece.length) (hpos : 0 < piece.length) :
    position + piece.length ≤ data.length := by
  have hcount := congrArg List.length hpiece
  rw [List.length_take, List.length_drop] at hcount
  omega

theorem calm_discardBytes (honest : HonestReaders data calm standsAt) {reader : ρ}
    {host : Host} {skipped remaining patience : Nat} (hcalm : calm host) :
    calm (Discarding.discardBytes reader host skipped remaining patience).2.2 := by
  fun_induction Discarding.discardBytes reader host skipped remaining patience with
  | case1 => exact hcalm
  | case2 reader host skipped remaining patience _ reader' host' hread =>
      simpa only [hread] using honest.calm_read reader (min remaining discardChunk) hcalm
  | case3 reader host skipped remaining patience _ byte rest reader' host' hread n ih =>
      apply ih
      simpa only [hread] using honest.calm_read reader (min remaining discardChunk) hcalm
  | case4 reader host skipped remaining _ cause reader' host' hread patience _ ih =>
      apply ih
      simpa only [hread] using honest.calm_read reader (min remaining discardChunk) hcalm
  | case5 reader host skipped remaining patience _ cause reader' host' hread =>
      simpa only [hread] using honest.calm_read reader (min remaining discardChunk) hcalm

/-- Bytes that are thrown away are counted once, however many reads it takes. -/
theorem discardBytes (honest : HonestReaders data calm standsAt) {reader : ρ} {host : Host}
    {skipped remaining patience position total : Nat} (hcalm : calm host)
    (hstands : standsAt reader position)
    (htotal : (Discarding.discardBytes reader host skipped remaining patience).1 = .ok total) :
    exists step, total = skipped + step ∧ step ≤ remaining ∧
      (0 < step -> position + step ≤ data.length) ∧
      standsAt (Discarding.discardBytes reader host skipped remaining patience).2.1
        (position + step) := by
  fun_induction Discarding.discardBytes reader host skipped remaining patience
    generalizing position with
  | case1 reader host skipped patience =>
      cases htotal
      exact ⟨0, rfl, Nat.le_refl _, by omega, hstands⟩
  | case2 reader host skipped remaining patience hremaining reader' host' hread =>
      cases htotal
      have hlength : 0 < min remaining discardChunk := by
        simp only [discardChunk]
        omega
      rcases honest.delivered hcalm hstands hlength hread with ⟨_, _, _, hstands'⟩
      exact ⟨0, rfl, Nat.zero_le _, by omega, hstands'⟩
  | case3 reader host skipped remaining patience hremaining byte rest reader' host' hread =>
      rename_i n ih
      have hlength : 0 < min remaining discardChunk := by
        simp only [discardChunk]
        omega
      rcases honest.delivered hcalm hstands hlength hread with
        ⟨hshort, hpiece, _, hstands'⟩
      have hend := end_le_of_take hpiece (Nat.succ_pos _)
      have hcalm' : calm host' := by
        simpa only [hread] using honest.calm_read reader (min remaining discardChunk) hcalm
      rcases ih hcalm' hstands' htotal with ⟨step, hstep, hle, hinside, hreached⟩
      refine ⟨(byte :: rest).length + step, ?_, by omega, ?_, ?_⟩
      · rw [hstep, Nat.add_assoc]
      · intro _
        rcases Nat.eq_zero_or_pos step with hzero | hpos
        · omega
        · have hfar := hinside hpos
          omega
      · rw [← Nat.add_assoc]
        exact hreached
  | case4 reader host skipped remaining hremaining cause reader' host' hread patience hint ih =>
      have hcalm' : calm host' := by
        simpa only [hread] using honest.calm_read reader (min remaining discardChunk) hcalm
      exact ih hcalm' (honest.interrupted hcalm hstands hint hread) htotal
  | case5 => cases htotal

/-- Honest readers that skip by reading are honest streams. -/
theorem discarding (honest : HonestReaders data calm standsAt) :
    HonestStreams (τ := Discarding ρ) data calm fun stream => standsAt stream.reader where
  skipped := by
    intro stream stream' host host' position n step hcalm hstands hskip
    have hdiscard := congrArg Prod.fst hskip
    have hstream := congrArg (fun result => result.2.1) hskip
    rcases honest.discardBytes hcalm hstands hdiscard with
      ⟨step', hstep, hle, hinside, hreached⟩
    rw [Nat.zero_add] at hstep
    rw [hstep, ← show _ = stream' from hstream]
    exact ⟨hle, hinside, hreached⟩
  delivered := by
    intro stream stream' host host' position length piece hcalm hstands hlength hread
    cases hdelivered : ByteReader.read stream.reader host length with
    | mk result rest =>
        rcases rest with ⟨reader, host₁⟩
        simp only [Stream.read, hdelivered] at hread
        cases hread
        exact honest.delivered hcalm hstands hlength hdelivered
  calm_note := honest.calm_note
  calm_skip := by
    intro host stream n hcalm
    exact honest.calm_discardBytes hcalm
  calm_read := by
    intro host stream length hcalm
    exact honest.calm_read stream.reader length hcalm
  calm_close := by
    intro host stream hcalm
    exact honest.calm_discard stream.reader hcalm

end HonestReaders
end ByteWindow
