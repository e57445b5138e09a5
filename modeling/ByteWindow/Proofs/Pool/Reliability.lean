import ByteWindow.Proofs.Pool.Alignment
import ByteWindow.Proofs.Stream.Reliable

/-!
# Pools of reliable streams

If streams never fail within the data and can always be opened, then no read of the pool
within the data fails, whichever stream it takes up and however far that one has to skip.  So
an aligned pool is faithful to the data.  It need not be prompt, for a stream may deliver
fewer bytes than it was asked for.
-/

namespace ByteWindow

/-!
## One stream at work
-/

namespace ReliableStreams

variable {τ : Type} [Stream τ] {data : Array UInt8} {calm : Host -> Prop}
variable {standsAt : τ -> Nat -> Prop}

/-- Every turn of the loop skips at least one byte, until nothing remains. -/
theorem skipRemaining (reliable : ReliableStreams data calm standsAt)
    (start total remaining idle : Nat) {position : Nat} {stream : τ} {host : Host}
    (hcalm : calm host) (hstands : standsAt stream position)
    (hinside : position + remaining ≤ data.size) :
    exists stream' host', Pool.skipRemaining start total stream host remaining idle =
        (.ok (), stream', host') ∧
      standsAt stream' (position + remaining) ∧ calm host' := by
  have hskips {stream : τ} {host : Host} {position remaining : Nat} (hcalm : calm host)
      (hstands : standsAt stream position) (hinside : position + remaining ≤ data.size)
      (hremaining : ¬ remaining = 0) :=
    reliable.skips hcalm hstands (Nat.pos_of_ne_zero hremaining) hinside
  fun_induction Pool.skipRemaining start total stream host remaining idle
    generalizing position with
  | case1 stream host idle => exact ⟨stream, host, rfl, hstands, hcalm⟩
  | case2 stream host remaining idle hremaining cause stream' host' hskip =>
      rcases hskips hcalm hstands hinside hremaining with ⟨step, _, _, hreports⟩
      rw [hskip] at hreports
      cases hreports
  | case3 stream host remaining idle hremaining stream' host' hskip =>
      rcases hskips hcalm hstands hinside hremaining with ⟨step, hpos, _, hreports⟩
      rw [hskip] at hreports
      cases hreports
      cases hpos
  | case4 stream host remaining idle hremaining stream' host' hskip =>
      rcases hskips hcalm hstands hinside hremaining with ⟨step, hpos, _, hreports⟩
      rw [hskip] at hreports
      cases hreports
      cases hpos
  | case5 stream host remaining idle hremaining skipped stream' host' hskip ih =>
      rcases hskips hcalm hstands hinside hremaining with ⟨step, _, hle, hreports⟩
      rw [hskip] at hreports
      cases hreports with
      | reported hstands' hcalm' =>
          have hreached : position + (skipped + 1) + (remaining - (skipped + 1)) =
              position + remaining := by
            rw [Nat.add_assoc, Nat.add_sub_cancel' hle]
          rcases ih hcalm' hstands' (Nat.le_trans (Nat.le_of_eq hreached) hinside) with
            ⟨stream'', host'', hrest, hstands'', hcalm''⟩
          rw [hreached] at hstands''
          exact ⟨stream'', host'', hrest, hstands'', hcalm''⟩

/-- A stream is brought to a position and delivers the bytes that are there. -/
theorem readCheckedOut (reliable : ReliableStreams data calm standsAt)
    {start position length : Nat} {stream : τ} {host : Host} (hcalm : calm host)
    (hstands : standsAt stream start) (hstart : start ≤ position) (hlength : 0 < length)
    (hinside : position + length ≤ data.size) :
    exists piece stream' host', Pool.readCheckedOut start position length stream host =
        (.ok piece, stream', host') ∧
      0 < piece.length ∧ piece.length ≤ length ∧
      piece = slice data position piece.length ∧
      standsAt stream' (position + piece.length) ∧ calm host' := by
  have hreached : start + (position - start) = position := Nat.add_sub_cancel' hstart
  rcases reliable.skipRemaining start (position - start) (position - start) 0 hcalm hstands
      (by omega) with ⟨stream₁, host₁, hskipped, hstands₁, hcalm₁⟩
  rw [hreached] at hstands₁
  have hpulled := reliable.pulls hcalm₁ hstands₁ hlength hinside
  unfold Pool.readCheckedOut Pool.skipFully
  rw [hskipped]
  dsimp only
  generalize Stream.read stream₁ host₁ length = result at hpulled
  rcases result with ⟨cause | piece, stream₂, host₂⟩
  · cases hpulled
  · rcases hpulled.piece hinside with ⟨hpos, hle, _, hpiece, hstands₂, hcalm₂⟩
    exact ⟨piece, stream₂, host₂, rfl, hpos, hle, hpiece, hstands₂, hcalm₂⟩

end ReliableStreams

/-!
## Reads of a pool
-/

namespace Pool

variable {φ τ : Type} [Stream τ] [StreamFactory φ τ]
variable {data : Array UInt8} {trusted : φ -> Prop} {calm : Host -> Prop}
variable {standsAt : τ -> Nat -> Prop}

/-- An aligned pool that declares the size of the data. -/
def Serves (data : Array UInt8) (trusted : φ -> Prop) (calm : Host -> Prop)
    (standsAt : τ -> Nat -> Prop) (pool : Pool φ τ) (host : Host) : Prop :=
  Aligned trusted calm standsAt pool host ∧ pool.size = data.size

omit [Stream τ] [StreamFactory φ τ] in
theorem serves_empty {factory : φ} {host : Host} (htrusted : trusted factory)
    (hcalm : calm host) (capacity : Nat) :
    Serves data trusted calm standsAt { factory, size := data.size, capacity } host := by
  refine ⟨⟨htrusted, hcalm, List.Pairwise.nil, ?_⟩, rfl⟩
  intro entry hentry
  cases hentry

/-- Whichever stream is taken up, the read succeeds. -/
theorem readCheckedOut_of_checkOut (streams : ReliableStreams data calm standsAt)
    (factories : ReliableFactories trusted calm standsAt) {pool pool' : Pool φ τ}
    {host host₁ host₂ : Host} {position start length : Nat} {stream stream' : τ}
    {result : Except Error (List UInt8)} (aligned : Aligned trusted calm standsAt pool host)
    (hlength : 0 < length) (hinside : position + length ≤ data.size)
    (hcheck : CheckOutCourse pool host position (.ok (start, stream), pool', host₁))
    (hread : readCheckedOut start position length stream host₁ = (result, stream', host₂)) :
    Aligned trusted calm standsAt pool' host₁ ∧ calm host₂ ∧
      exists piece, result = .ok piece ∧ 0 < piece.length ∧ piece.length ≤ length ∧
        piece = slice data position piece.length ∧
        standsAt stream' (position + piece.length) := by
  rcases aligned.checkOut streams.toClosesCalmly factories.opensAtFront hcheck with
    ⟨haligned, htaken⟩
  rcases htaken _ _ rfl with ⟨hstart, hstands⟩
  rcases streams.readCheckedOut haligned.calm hstands hstart hlength hinside with
    ⟨piece, _, _, hread', hpos, hle, hpiece, hstands', hcalm'⟩
  rw [hread] at hread'
  cases hread'
  exact ⟨haligned, hcalm', piece, rfl, hpos, hle, hpiece, hstands'⟩

theorem readAt_delivers (streams : ReliableStreams data calm standsAt)
    (factories : ReliableFactories trusted calm standsAt) {pool : Pool φ τ} {host : Host}
    {position : Nat} {buffer : List UInt8}
    (hserves : Serves data trusted calm standsAt pool host) (hbuffer : buffer ≠ [])
    (hinside : position + buffer.length ≤ data.size) :
    exists n, Delivers data (fun _ => False) (Serves data trusted calm standsAt) position buffer
      (pool.readAt host position buffer) n := by
  have hlength := List.length_pos_iff.mpr hbuffer
  have hcourse := readCourse pool host position buffer
  have hsize := hcourse.size_eq.1.trans hserves.2
  generalize pool.readAt host position buffer = reading at hcourse hsize
  cases hcourse with
  | refused hcheck =>
      cases hcheck with
      | refused _htake hopen =>
          have hnoted := streams.calm_note (.openingStream position) hserves.1.calm
          rcases factories.opens hserves.1.trusted hnoted with ⟨_, _, _, hopen', _⟩
          rw [hopen] at hopen'
          cases hopen'
  | failed hcheck hread =>
      rcases readCheckedOut_of_checkOut streams factories hserves.1 hlength hinside hcheck
        hread with ⟨_, _, piece, hpiece, _⟩
      cases hpiece
  | ended hcheck hread =>
      rcases readCheckedOut_of_checkOut streams factories hserves.1 hlength hinside hcheck
        hread with ⟨_, _, piece, hpiece, hpos, _⟩
      cases hpiece
      cases hpos
  | finished hcheck hread =>
      rcases readCheckedOut_of_checkOut streams factories hserves.1 hlength hinside hcheck
        hread with ⟨haligned, hcalm, piece, hpiece, hpos, hle, hbytes, _⟩
      cases hpiece
      refine ⟨_, .piece ⟨?_, hsize⟩ hbytes hpos hle False.elim⟩
      exact ⟨haligned.trusted, streams.toClosesCalmly.closeQuietly _ hcalm,
        haligned.ordered, haligned.stands⟩
  | parked hcheck hread =>
      rcases readCheckedOut_of_checkOut streams factories hserves.1 hlength hinside hcheck
        hread with ⟨haligned, hcalm, piece, hpiece, hpos, hle, hbytes, hstands⟩
      cases hpiece
      refine ⟨_, .piece ⟨?_, hsize⟩ hbytes hpos hle False.elim⟩
      exact Aligned.park streams.toClosesCalmly
        ⟨haligned.trusted, hcalm, haligned.ordered, haligned.stands⟩ hstands

theorem faithful (streams : ReliableStreams data calm standsAt)
    (factories : ReliableFactories trusted calm standsAt) :
    FaithfulSources data (fun _ => False) (Serves data trusted calm standsAt) := by
  apply FaithfulSources.of_reads
  · intro pool host position
    rfl
  · intro pool host hserves
    exact hserves.2
  · intro pool host position buffer mode hserves hbuffer hinside
    cases mode <;> exact readAt_delivers streams factories hserves hbuffer hinside

end Pool
end ByteWindow
