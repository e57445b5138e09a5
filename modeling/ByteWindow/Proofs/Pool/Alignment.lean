import Mathlib.Data.List.Forall2
import ByteWindow.Proofs.Pool.Parking
import ByteWindow.Proofs.Stream.Numbered

/-!
# Pooled reads deliver the right bytes

A pool is aligned if every parked stream stands where its position says.  If the streams are
honest about the data, alignment survives every read, whatever fails on the way: a stream
that failed is closed and never parked, and a stream that was skipped and read without a
failure stands right behind the bytes it delivered.  So a pool that starts out empty only
ever delivers the bytes at the requested position, and it never takes a position before the
end for the end.
-/

namespace ByteWindow

/-!
## One stream at work
-/

section Streams

variable {τ : Type} [Stream τ] {data : List UInt8} {calm : Host -> Prop}
variable {standsAt : τ -> Nat -> Prop}

theorem HonestSkips.skipRemaining (honest : HonestSkips τ calm standsAt)
    (start total remaining idle : Nat) {position : Nat} {stream : τ} {host : Host}
    (hcalm : calm host) (hstands : standsAt stream position) :
    calm (Pool.skipRemaining start total stream host remaining idle).2.2 ∧
      ((Pool.skipRemaining start total stream host remaining idle).1 = .ok () ->
        standsAt (Pool.skipRemaining start total stream host remaining idle).2.1
          (position + remaining)) := by
  fun_induction Pool.skipRemaining start total stream host remaining idle
    generalizing position with
  | case1 stream host idle =>
      exact ⟨hcalm, fun _ => hstands⟩
  | case2 stream host remaining idle hremaining cause stream' host' hskip =>
      have hcalm' := honest.calm_skip stream remaining hcalm
      rw [hskip] at hcalm'
      exact ⟨hcalm', fun h => by cases h⟩
  | case3 stream host remaining idle hremaining stream' host' hskip hidle ih =>
      have hcalm' := honest.calm_skip stream remaining hcalm
      rw [hskip] at hcalm'
      exact ih hcalm' (honest.skipped hcalm hstands hskip).2
  | case4 stream host remaining idle hremaining stream' host' hskip hidle =>
      have hcalm' := honest.calm_skip stream remaining hcalm
      rw [hskip] at hcalm'
      exact ⟨hcalm', fun h => by cases h⟩
  | case5 stream host remaining idle hremaining step stream' host' hskip ih =>
      have hcalm' := honest.calm_skip stream remaining hcalm
      rw [hskip] at hcalm'
      rcases honest.skipped hcalm hstands hskip with ⟨hstep, hstands'⟩
      have htarget : position + (step + 1) + (remaining - (step + 1)) =
          position + remaining := by
        omega
      rw [← htarget]
      exact ih hcalm' hstands'

/-- A stream that is brought to a position and read there delivers the bytes at that
position, and stands right behind them. -/
theorem HonestStreams.readCheckedOut (honest : HonestStreams data calm standsAt)
    {start position length : Nat} {stream stream' : τ} {host host' : Host}
    {result : Except Error (List UInt8)} (hcalm : calm host)
    (hstands : standsAt stream start) (hstart : start ≤ position) (hlength : 0 < length)
    (hread : Pool.readCheckedOut start position length stream host =
      (result, stream', host')) :
    calm host' ∧ forall piece, result = .ok piece ->
      piece.length ≤ length ∧ piece = (data.drop position).take piece.length ∧
        (piece = [] -> data.length ≤ position) ∧
        standsAt stream' (position + piece.length) := by
  have hskip := honest.honestSkips.skipRemaining start (position - start) (position - start) 0
    hcalm hstands
  rw [Nat.add_sub_cancel' hstart] at hskip
  unfold Pool.readCheckedOut Pool.skipFully at hread
  split at hread
  · rename_i error stream₁ host₁ hskipped
    rw [hskipped] at hskip
    cases hread
    exact ⟨hskip.1, fun piece h => by cases h⟩
  · rename_i stream₁ host₁ hskipped
    rw [hskipped] at hskip
    have hcalm₁ := honest.calm_read stream₁ length hskip.1
    split at hread
    · rename_i delivered stream₂ host₂ hdelivered
      rw [hdelivered] at hcalm₁
      cases hread
      refine ⟨hcalm₁, ?_⟩
      intro piece hpiece
      cases hpiece
      exact honest.delivered hskip.1 (hskip.2 rfl) hlength hdelivered
    · rename_i cause stream₂ host₂ hdelivered
      rw [hdelivered] at hcalm₁
      cases hread
      exact ⟨hcalm₁, fun piece h => by cases h⟩

namespace ClosesCalmly

/-!
Closing streams leaves the host calm, whether it succeeds or not.
-/

theorem closeQuietly (calmly : ClosesCalmly τ calm) {host : Host} (stream : τ)
    (hcalm : calm host) : calm (Pool.closeQuietly stream host) :=
  Pool.closeQuietly_of (calmly.calm_close stream hcalm)
    fun _ diagnostic => calmly.calm_note diagnostic

theorem closeFailed (calmly : ClosesCalmly τ calm) {host : Host}
    (error : Error) (stream : τ) (hcalm : calm host) :
    calm (Pool.closeFailed error stream host).2 := by
  rw [Pool.closeFailed_host]
  exact calmly.calm_close stream hcalm

theorem closeAllQuietly (calmly : ClosesCalmly τ calm) {host : Host}
    (streams : List τ) (hcalm : calm host) : calm (Pool.closeAllQuietly streams host) := by
  induction streams generalizing host with
  | nil => exact hcalm
  | cons stream rest ih => exact ih (calmly.closeQuietly stream hcalm)

theorem noteEvicted (calmly : ClosesCalmly τ calm) {host : Host}
    (entries : List (Nat × τ)) (hcalm : calm host) :
    calm (entries.foldl (fun host entry => host.note (.evictingStream entry.1)) host) :=
  Pool.noteEvicted_of entries hcalm fun _ diagnostic => calmly.calm_note diagnostic

end ClosesCalmly
end Streams

namespace Pool

open Scripted

variable {φ τ : Type} [Stream τ] [StreamFactory φ τ]
variable {data : List UInt8} {trusted : φ -> Prop} {calm : Host -> Prop}
variable {standsAt : τ -> Nat -> Prop}

/-!
## Aligned pools
-/

/-- A pool whose streams are in order and stand where their positions say, with a factory
to be trusted on a calm host. -/
structure Aligned (trusted : φ -> Prop) (calm : Host -> Prop)
    (standsAt : τ -> Nat -> Prop) (pool : Pool φ τ) (host : Host) : Prop where
  trusted : trusted pool.factory
  calm : calm host
  ordered : Ordered pool.parked
  stands : forall entry, entry ∈ pool.parked -> standsAt entry.2 entry.1

namespace Aligned

variable {pool pool' : Pool φ τ} {host host' : Host} {position : Nat}

theorem checkOut (calmly : ClosesCalmly τ calm)
    (opens : OpensAtFront trusted calm standsAt)
    (aligned : Aligned trusted calm standsAt pool host) {result : Except Error (Nat × τ)}
    (hcourse : CheckOutCourse pool host position (result, pool', host')) :
    Aligned trusted calm standsAt pool' host' ∧
      forall start stream, result = .ok (start, stream) ->
        start ≤ position ∧ standsAt stream start := by
  have hnoted := calmly.calm_note (.openingStream position) aligned.calm
  have htrusted := opens.trusted_open aligned.trusted hnoted
  have hcalm := opens.calm_open aligned.trusted hnoted
  cases hcourse with
  | reused htake =>
      rename_i reached stream rest
      rcases takeFloor_some htake aligned.ordered with
        ⟨before, after, hparked, hrest, hreached, _hbeyond⟩
      have hordered := aligned.ordered
      have hstands := aligned.stands
      rw [hparked] at hordered hstands
      refine ⟨⟨aligned.trusted, calmly.calm_note _ aligned.calm, ?_, ?_⟩, ?_⟩
      · rw [hrest]
        exact ordered_without hordered
      · intro entry hentry
        rw [hrest] at hentry
        apply hstands
        rcases List.mem_append.mp hentry with hbefore | hafter
        · exact List.mem_append_left _ hbefore
        · exact List.mem_append_right _ (List.mem_cons_of_mem _ hafter)
      · intro start taken htaken
        cases htaken
        exact ⟨hreached, hstands (reached, stream) (by simp)⟩
  | opened htake hopen =>
      rw [hopen] at htrusted hcalm
      refine ⟨⟨htrusted, hcalm, aligned.ordered, aligned.stands⟩, ?_⟩
      intro start taken htaken
      cases htaken
      exact ⟨Nat.zero_le _, opens.opened aligned.trusted hnoted hopen⟩
  | refused htake hopen =>
      rw [hopen] at htrusted hcalm
      exact ⟨⟨htrusted, hcalm, aligned.ordered, aligned.stands⟩,
        fun start taken h => by cases h⟩

omit [StreamFactory φ τ] in
theorem park (calmly : ClosesCalmly τ calm)
    (aligned : Aligned trusted calm standsAt pool host) {stream : τ}
    (hstands : standsAt stream position) :
    Aligned trusted calm standsAt (pool.park host position stream).1
      (pool.park host position stream).2 := by
  have hordered := ordered_putIn position stream aligned.ordered
  unfold Pool.park
  cases hput : putIn position stream pool.parked with
  | mk replaced parked =>
      rw [hput] at hordered
      rcases putIn_eq hput aligned.ordered with
        ⟨before, after, hparked, hresult, _hbefore, _hafter⟩
      refine ⟨aligned.trusted, ?_, hordered.sublist (List.take_sublist _ _), ?_⟩
      · exact calmly.closeAllQuietly _ (calmly.noteEvicted _ aligned.calm)
      · intro entry hentry
        have hmem := List.mem_of_mem_take hentry
        rw [hresult] at hmem
        rcases List.mem_append.mp hmem with hbefore | hafter
        · apply aligned.stands
          rw [hparked]
          exact List.mem_append_left _ (List.mem_append_left _ hbefore)
        · rcases List.mem_cons.mp hafter with rfl | hafter
          · exact hstands
          · apply aligned.stands
            rw [hparked]
            exact List.mem_append_right _ hafter

end Aligned

/-!
## Reading again and again
-/

/-- A read answers rightly if it fails, or if it delivers at least one byte and the bytes it
delivers are those of `data` at the position. -/
def AnswersRightly {σ : Type} (data : List UInt8) (position : Nat) (buffer : List UInt8)
    (reading : Reading (Option Nat) σ) : Prop :=
  match reading.outcome with
  | .error _ => True
  | .ok none => False
  | .ok (some n) =>
      0 < n ∧ n ≤ buffer.length ∧ position + n ≤ data.length ∧
        reading.buffer.take n = (data.drop position).take n

theorem answersRightly_delivered {σ : Type} {data piece buffer : List UInt8} {position : Nat}
    {source : σ} {host : Host} (hpiece : piece = (data.drop position).take piece.length)
    (hne : piece ≠ []) (hlength : piece.length ≤ buffer.length) :
    AnswersRightly data position buffer (.delivered piece buffer source host) := by
  have hinside : piece.length ≤ data.length - position := by
    have hcount := congrArg List.length hpiece
    rw [List.length_take, List.length_drop] at hcount
    omega
  have hpos := List.length_pos_iff.mpr hne
  refine ⟨hpos, hlength, by omega, ?_⟩
  show (overlay piece buffer).take piece.length = _
  rw [take_overlay]
  exact hpiece

theorem Aligned.readAt (honest : HonestStreams data calm standsAt)
    (opens : OpensAtFront trusted calm standsAt) {pool : Pool φ τ} {host : Host}
    {position : Nat} {buffer : List UInt8} (aligned : Aligned trusted calm standsAt pool host)
    (hposition : position < data.length) (hbuffer : buffer ≠ []) :
    AnswersRightly data position buffer (pool.readAt host position buffer) ∧
      Aligned trusted calm standsAt (pool.readAt host position buffer).source
        (pool.readAt host position buffer).host := by
  have hlength := List.length_pos_iff.mpr hbuffer
  have hcourse := readCourse pool host position buffer
  generalize pool.readAt host position buffer = reading at hcourse
  cases hcourse with
  | refused hcheck =>
      exact ⟨trivial, (aligned.checkOut honest.closesCalmly opens hcheck).1⟩
  | failed hcheck hread =>
      rcases aligned.checkOut honest.closesCalmly opens hcheck with ⟨haligned, htaken⟩
      rcases htaken _ _ rfl with ⟨hstart, hstands⟩
      have hcalm := (honest.readCheckedOut haligned.calm hstands hstart hlength hread).1
      exact ⟨trivial, haligned.trusted, honest.closesCalmly.closeFailed _ _ hcalm,
        haligned.ordered, haligned.stands⟩
  | ended hcheck hread =>
      rcases aligned.checkOut honest.closesCalmly opens hcheck with ⟨haligned, htaken⟩
      rcases htaken _ _ rfl with ⟨hstart, hstands⟩
      rcases honest.readCheckedOut haligned.calm hstands hstart hlength hread with
        ⟨_hcalm, hpieces⟩
      -- A stream before the end cannot deliver nothing.
      have hend := (hpieces [] rfl).2.2.1 rfl
      omega
  | finished hcheck hread hpiece =>
      rcases aligned.checkOut honest.closesCalmly opens hcheck with ⟨haligned, htaken⟩
      rcases htaken _ _ rfl with ⟨hstart, hstands⟩
      rcases honest.readCheckedOut haligned.calm hstands hstart hlength hread with
        ⟨hcalm, hpieces⟩
      rcases hpieces _ rfl with ⟨hshort, hbytes, _hend, _hstands'⟩
      refine ⟨answersRightly_delivered hbytes ?_ hshort, ?_⟩
      · exact fun hnil => hpiece ⟨hnil, hbuffer⟩
      · exact ⟨haligned.trusted, honest.closesCalmly.closeQuietly _ hcalm, haligned.ordered,
          haligned.stands⟩
  | parked hcheck hread hpiece =>
      rcases aligned.checkOut honest.closesCalmly opens hcheck with ⟨haligned, htaken⟩
      rcases htaken _ _ rfl with ⟨hstart, hstands⟩
      rcases honest.readCheckedOut haligned.calm hstands hstart hlength hread with
        ⟨hcalm, hpieces⟩
      rcases hpieces _ rfl with ⟨hshort, hbytes, _hend, hstands'⟩
      refine ⟨answersRightly_delivered hbytes ?_ hshort, ?_⟩
      · exact fun hnil => hpiece ⟨hnil, hbuffer⟩
      · exact Aligned.park honest.closesCalmly
          ⟨haligned.trusted, hcalm, haligned.ordered, haligned.stands⟩ hstands'

/-- The readings of a series of reads, each of the pool that the one before left behind. -/
def readings (pool : Pool φ τ) (host : Host) :
    List (Nat × List UInt8) -> List (Reading (Option Nat) (Pool φ τ))
  | [] => []
  | (position, buffer) :: rest =>
      let reading := pool.readAt host position buffer
      reading :: readings reading.source reading.host rest

theorem Aligned.readings (honest : HonestStreams data calm standsAt)
    (opens : OpensAtFront trusted calm standsAt) {pool : Pool φ τ} {host : Host}
    {requests : List (Nat × List UInt8)} (aligned : Aligned trusted calm standsAt pool host)
    (hrequests : forall request, request ∈ requests ->
      request.1 < data.length ∧ request.2 ≠ []) :
    List.Forall₂ (fun request => AnswersRightly data request.1 request.2) requests
      (pool.readings host requests) := by
  induction requests generalizing pool host with
  | nil => exact .nil
  | cons request rest ih =>
      rcases hrequests request List.mem_cons_self with ⟨hposition, hbuffer⟩
      rcases aligned.readAt honest opens hposition hbuffer with ⟨hanswer, haligned⟩
      exact .cons hanswer
        (ih haligned fun later hlater => hrequests later (List.mem_cons_of_mem _ hlater))

/-- Whatever was read before and whatever failed, a pool of honest streams that starts out
empty answers every read rightly, for any capacity. -/
theorem answersRightly_readings (honest : HonestStreams data calm standsAt)
    (opens : OpensAtFront trusted calm standsAt) (factory : φ) (htrusted : trusted factory)
    (host : Host) (hcalm : calm host) (capacity : Nat)
    (requests : List (Nat × List UInt8))
    (hrequests : forall request, request ∈ requests ->
      request.1 < data.length ∧ request.2 ≠ []) :
    List.Forall₂ (fun request => AnswersRightly data request.1 request.2) requests
      (Pool.readings { factory, size := data.length, capacity } host requests) := by
  have haligned :
      Aligned trusted calm standsAt { factory, size := data.length, capacity } host :=
    { trusted := htrusted
      calm := hcalm
      ordered := List.Pairwise.nil
      stands := fun entry hentry => by cases hentry }
  exact haligned.readings honest opens hrequests

/-- Readers of six bytes that deliver two at once; the first one fails behind its fourth
byte, and the second one cannot be opened. -/
def faultyReaders : NumberingFactory (Discarding NumberedReader) where
  make number :=
    if number = 1 then
      .error IoError.notFound
    else
      .ok
        { reader :=
            { number
              data := #[10, 20, 30, 40, 50, 60]
              chunk := some 2
              faults :=
                if number = 0 then
                  [{ position := 4, once := false, cause := IoError.invalidArgument }]
                else [] } }

theorem faultyReaders_atFront :
    NumberingFactory.AtFront #[10, 20, 30, 40, 50, 60] faultyReaders := by
  intro number stream hmake
  unfold faultyReaders at hmake
  dsimp only at hmake
  split at hmake
  · cases hmake
  · cases hmake
    exact ⟨rfl, rfl, by simp⟩

theorem answersRightly_readings_faultyReaders :
    List.Forall₂ (fun request => AnswersRightly [10, 20, 30, 40, 50, 60] request.1 request.2)
      [(2, [0, 0, 0]), (5, [0]), (1, [0]), (5, [0, 0]), (0, [0])]
      (Pool.readings { factory := faultyReaders, size := 6, capacity := 1 } {}
        [(2, [0, 0, 0]), (5, [0]), (1, [0]), (5, [0, 0]), (0, [0])]) :=
  answersRightly_readings (NumberedReader.honestReaders _).discarding
    (NumberingFactory.opensAtFront #[10, 20, 30, 40, 50, 60]) faultyReaders
    faultyReaders_atFront {} trivial 1 _ (by decide)

example :
    (Pool.readings { factory := faultyReaders, size := 6, capacity := 1 } {}
        [(2, [0, 0, 0]), (5, [0]), (1, [0]), (5, [0, 0]), (0, [0])]).map
      (fun reading => (reading.outcome.toOption, reading.buffer)) =
      [(some (some 2), [30, 40, 0]), (none, [0]), (none, [0]), (some (some 1), [60, 0]),
        (some (some 1), [10])] := by
  cbv

end Pool
end ByteWindow
