import ByteWindow.Proofs.Pool.Custody
import ByteWindow.Proofs.Pool.Reliability
import ByteWindow.Proofs.Stream.Steady

/-!
# The register of a pool

Which stream a read takes up, where it is parked and who has to leave for it is decided by
numbers alone: by the positions of the parked streams, the declared size, the capacity, and the
number of bytes that were delivered.  A register keeps the parked streams by their numbers, and
it reads as a pool does.

Steady streams deliver the same bytes at the same position.  So the register of a pool of steady
streams goes through the same states whatever the streams are, and streams that skip by reading
cannot be told from streams that skip by moving.
-/

namespace ByteWindow

open Scripted

/-!
## One steady stream at work
-/

theorem SteadyStreams.readCheckedOut {τ : Type} [Stream τ] {data : Array UInt8}
    {limit : Option Nat} {disk : Disk} {standsAt : τ -> Nat -> Prop}
    (streams : SteadyStreams data limit disk standsAt) {start position length : Nat}
    {stream : τ} {host : Host} (hdisk : host.disk = disk) (hstands : standsAt stream start)
    (hstart : start ≤ position) (hposition : position < data.size) (hlength : 0 < length) :
    Yields data limit disk standsAt position length
      (Pool.readCheckedOut start position length stream host) := by
  have hreached : start + (position - start) = position := Nat.add_sub_cancel' hstart
  have hinside : start + (position - start) ≤ data.size := by
    rw [hreached]
    exact Nat.le_of_lt hposition
  rcases streams.skipRemaining start (position - start) (position - start) 0 hdisk hstands
      hinside with ⟨stream₁, host₁, hskipped, hstands₁, hdisk₁⟩
  rw [hreached] at hstands₁
  rcases streams.yields hdisk₁ hstands₁ hposition hlength with ⟨hpiece, hstands₂, hdisk₂⟩
  unfold Pool.readCheckedOut Pool.skipFully
  rw [hskipped]
  dsimp only
  generalize Stream.read stream₁ host₁ length = result at hpiece hstands₂ hdisk₂
  rcases result with ⟨outcome, stream₂, host₂⟩
  cases hpiece
  exact ⟨rfl, hstands₂, hdisk₂⟩

namespace Pool

/-!
## Streams by their numbers
-/

section Renaming

variable {τ υ : Type}

theorem takeFloor_map (f : τ -> υ) (position : Nat) (parked : List (Nat × τ)) :
    takeFloor position (parked.map (Prod.map id f)) =
      ((takeFloor position parked).1.map (Prod.map id f),
        (takeFloor position parked).2.map (Prod.map id f)) := by
  induction parked with
  | nil => rfl
  | cons entry rest ih =>
      rcases entry with ⟨reached, stream⟩
      rw [List.map_cons]
      simp only [takeFloor, Prod.map, id]
      by_cases hreached : reached ≤ position
      · rw [if_pos hreached, if_pos hreached]
        change takeFloor position (rest.map (Prod.map id f)) = _ at ih
        generalize takeFloor position rest = taken at ih
        rcases taken with ⟨found, others⟩
        cases found with
        | none => simp [ih, Prod.map]
        | some found => simp [ih, Prod.map]
      · rw [if_neg hreached, if_neg hreached]
        rfl

theorem putIn_map (f : τ -> υ) (position : Nat) (stream : τ) (parked : List (Nat × τ)) :
    putIn position (f stream) (parked.map (Prod.map id f)) =
      ((putIn position stream parked).1.map f,
        (putIn position stream parked).2.map (Prod.map id f)) := by
  induction parked with
  | nil => rfl
  | cons entry rest ih =>
      rcases entry with ⟨reached, other⟩
      rw [List.map_cons]
      simp only [putIn, Prod.map, id]
      rcases Nat.lt_trichotomy reached position with hlt | heq | hgt
      · rw [if_pos hlt, if_pos hlt]
        simp [ih, Prod.map]
      · have hnot : ¬ reached < position := Nat.not_lt_of_le (Nat.le_of_eq heq.symm)
        rw [if_neg hnot, if_neg hnot, if_pos heq, if_pos heq]
        rfl
      · have hnot : ¬ reached < position := Nat.lt_asymm hgt
        have hne : ¬ reached = position := Nat.ne_of_gt hgt
        rw [if_neg hnot, if_neg hnot, if_neg hne, if_neg hne]
        rfl

end Renaming

/-- The parked streams of a pool by their numbers, the number that is free next, and which
streams were opened and closed so far. -/
structure Register where
  parked : List (Nat × Nat)
  next : Nat
  turns : List Turn

namespace Register

/-- Take up the parked stream closest before a position, or open the next one. -/
def takeUp (r : Register) (position : Nat) : Nat × Register :=
  match takeFloor position r.parked with
  | (some (_, number), parked) => (number, { r with parked })
  | (none, _) =>
      (r.next, { r with next := r.next + 1, turns := r.turns ++ [.opened r.next] })

/-- Park a stream, or close it at the declared end. -/
def letGo (r : Register) (size capacity position number : Nat) : Register :=
  if size ≤ position then
    { r with turns := r.turns ++ [.closed number] }
  else
    match putIn position number r.parked with
    | (replaced, parked) =>
        { r with
          parked := parked.take capacity
          turns := r.turns ++
            (replaced.toList ++ (parked.drop capacity).reverse.map Prod.snd).map .closed }

/-- A read that delivers `count` bytes. -/
def read (r : Register) (size capacity position count : Nat) : Register :=
  match r.takeUp position with
  | (number, r) => r.letGo size capacity (position + count) number

end Register

variable {φ τ : Type}

/-- An aligned pool of tagged streams, as long as the disk stays the same. -/
abbrev TagsAligned (disk : Disk) (trusted : φ -> Prop) (standsAt : τ -> Nat -> Prop) :
    Pool (Tagging φ) (Tagged τ) -> Host -> Prop :=
  Aligned (fun factory => trusted factory.factory) (fun host => host.disk = disk)
    fun s => standsAt s.stream

theorem tagsAligned_empty {disk : Disk} {trusted : φ -> Prop} {standsAt : τ -> Nat -> Prop}
    {factory : φ} {host : Host} (htrusted : trusted factory) (hdisk : host.disk = disk)
    (size capacity : Nat) :
    TagsAligned disk trusted standsAt { factory := { factory }, size, capacity } host where
  trusted := htrusted
  calm := hdisk
  ordered := List.Pairwise.nil
  stands := by
    intro entry hentry
    cases hentry

def register (pool : Pool (Tagging φ) (Tagged τ)) (host : Host) : Register where
  parked := pool.parked.map (Prod.map id Tagged.number)
  next := pool.factory.next
  turns := host.turns

theorem positions_of_register {φ' τ' : Type} {pool : Pool (Tagging φ) (Tagged τ)}
    {pool' : Pool (Tagging φ') (Tagged τ')} {host host' : Host}
    (h : register pool host = register pool' host') : pool.positions = pool'.positions := by
  have hfirst {α : Type} (parked : List (Nat × Tagged α)) :
      (parked.map (Prod.map id Tagged.number)).map Prod.fst = parked.map Prod.fst :=
    List.map_map
  have hparked := congrArg (fun r : Register => r.parked.map Prod.fst) h
  unfold positions
  rw [← hfirst, ← hfirst]
  exact hparked

/-!
## A read in the register
-/

variable [Stream τ] [StreamFactory φ τ] {data : Array UInt8} {limit : Option Nat}
variable {disk : Disk} {trusted : φ -> Prop} {standsAt : τ -> Nat -> Prop}
variable {pool pool' : Pool (Tagging φ) (Tagged τ)} {host host' : Host} {position : Nat}

theorem register_takeUp
    (factories : ReliableFactories trusted (fun host => host.disk = disk) standsAt)
    (htrusted : trusted pool.factory.factory) (hdisk : host.disk = disk) {start : Nat}
    {s : Tagged τ}
    (hcourse : CheckOutCourse pool host position (.ok (start, s), pool', host')) :
    (register pool host).takeUp position = (s.number, register pool' host') := by
  unfold Register.takeUp register
  rw [takeFloor_map]
  cases hcourse with
  | reused htake =>
      rw [htake]
      rfl
  | opened htake hopen =>
      have hnoted : (host.note (.openingStream position)).disk = disk := hdisk
      rcases factories.tagging htrusted hnoted with
        ⟨_, _, _, hopen', _, hnumber, _, hnext, _⟩
      rw [hopen] at hopen'
      cases hopen'
      have hturns := (Tagged.numbered.opened hopen).2.2
      rw [htake]
      dsimp only [Option.map]
      rw [hturns, hnext, hnumber]
      rfl

theorem register_park {s : Tagged τ} (hposition : position < pool.size) :
    register (pool.park host position s).1 (pool.park host position s).2 =
      (register pool host).letGo pool.size pool.capacity position s.number := by
  unfold Register.letGo
  rw [if_neg (Nat.not_le_of_lt hposition)]
  unfold register
  rw [turns_park Tagged.numbered, park_parked, putIn_map]
  unfold leaving
  -- Numbers may be told before the list is cut or after.
  simp only [List.map_take, List.map_drop, List.map_append, List.map_reverse, List.map_map]
  cases (putIn position s pool.parked).1 with
  | none => rfl
  | some replaced => rfl

theorem register_closeQuietly {s : Tagged τ} (hposition : pool.size ≤ position) :
    register pool (closeQuietly s host) =
      (register pool host).letGo pool.size pool.capacity position s.number := by
  unfold Register.letGo
  rw [if_pos hposition]
  unfold register
  rw [(Tagged.numbered (φ := φ)).closeQuietly]

/-- A read that delivers what a steady stream delivers, and that the register tells. -/
structure ReadsSteadily (data : Array UInt8) (limit : Option Nat) (disk : Disk)
    (trusted : φ -> Prop) (standsAt : τ -> Nat -> Prop) (pool : Pool (Tagging φ) (Tagged τ))
    (host : Host) (position : Nat) (buffer : List UInt8)
    (reading : Reading (Option Nat) (Pool (Tagging φ) (Tagged τ))) : Prop where
  outcome :
    reading.outcome = .ok (some (copyAt data position buffer.length limit).length)
  buffer_eq : reading.buffer = overlay (copyAt data position buffer.length limit) buffer
  register_eq :
    register reading.source reading.host =
      (register pool host).read pool.size pool.capacity position
        (copyAt data position buffer.length limit).length
  aligned : TagsAligned disk trusted standsAt reading.source reading.host
  size_eq : reading.source.size = pool.size ∧ reading.source.capacity = pool.capacity

/-- Whichever stream is taken up, it delivers what a steady stream delivers, and the register
tells who it is. -/
theorem readCheckedOut_steadily (streams : SteadyStreams data limit disk standsAt)
    (factories : ReliableFactories trusted (fun host => host.disk = disk) standsAt)
    {start length : Nat} {s s' : Tagged τ} {host₁ host₂ : Host}
    {result : Except Error (List UInt8)}
    (aligned : TagsAligned disk trusted standsAt pool host)
    (hposition : position < data.size) (hlength : 0 < length)
    (hcheck : CheckOutCourse pool host position (.ok (start, s), pool', host₁))
    (hread : readCheckedOut start position length s host₁ = (result, s', host₂)) :
    result = .ok (copyAt data position length limit) ∧
      (register pool host).takeUp position = (s'.number, register pool' host₂) ∧
      standsAt s'.stream (position + (copyAt data position length limit).length) ∧
      TagsAligned disk trusted standsAt pool' host₂ := by
  rcases aligned.checkOut streams.tagged.toClosesCalmly factories.tagged.opensAtFront hcheck
    with ⟨haligned, htaken⟩
  rcases htaken _ _ rfl with ⟨hstart, hstands⟩
  rcases streams.tagged.readCheckedOut haligned.calm hstands hstart hposition hlength with
    ⟨hpiece, hstands', hdisk'⟩
  rcases (Tagged.numbered (φ := φ)).readCheckedOut hread with ⟨hnumber, hturns⟩
  have htold := register_takeUp factories aligned.trusted aligned.calm hcheck
  rw [hread] at hpiece hstands' hdisk'
  refine ⟨hpiece, ?_, hstands', haligned.trusted, hdisk', haligned.ordered, haligned.stands⟩
  rw [htold, hnumber]
  unfold register
  rw [hturns]

theorem readAt_steadily (streams : SteadyStreams data limit disk standsAt)
    (factories : ReliableFactories trusted (fun host => host.disk = disk) standsAt)
    (hlimit : limit ≠ some 0) {buffer : List UInt8}
    (aligned : TagsAligned disk trusted standsAt pool host)
    (hposition : position < data.size) (hbuffer : buffer ≠ []) :
    ReadsSteadily data limit disk trusted standsAt pool host position buffer
      (pool.readAt host position buffer) := by
  have hlength := List.length_pos_iff.mpr hbuffer
  have hcourse := readCourse pool host position buffer
  have hsize := hcourse.size_eq
  generalize pool.readAt host position buffer = reading at hcourse hsize
  cases hcourse with
  | refused hcheck =>
      cases hcheck with
      | refused _htake hopen =>
          have hnoted : (host.note (.openingStream position)).disk = disk := aligned.calm
          rcases factories.tagging aligned.trusted hnoted with ⟨_, _, _, hopen', _⟩
          rw [hopen] at hopen'
          cases hopen'
  | failed hcheck hread =>
      cases (readCheckedOut_steadily streams factories aligned hposition hlength hcheck
        hread).1
  | ended hcheck hread =>
      have hpiece :=
        (readCheckedOut_steadily streams factories aligned hposition hlength hcheck hread).1
      have hpos := length_copyAt_pos hlimit hposition hlength
      rw [← Except.ok.inj hpiece] at hpos
      cases hpos
  | finished hcheck hread _hpiece hfinished =>
      rcases readCheckedOut_steadily streams factories aligned hposition hlength hcheck hread
        with ⟨hpiece, htold, _, haligned⟩
      cases hpiece
      refine ⟨rfl, rfl, ?_, ?_, hsize⟩
      · unfold Register.read
        rw [htold, ← hcheck.size_eq.1, ← hcheck.size_eq.2]
        exact register_closeQuietly (Nat.le_trans (Nat.le_of_eq hcheck.size_eq.1) hfinished)
      · exact ⟨haligned.trusted,
          streams.tagged.toClosesCalmly.closeQuietly _ haligned.calm, haligned.ordered,
          haligned.stands⟩
  | parked hcheck hread _hpiece hinside =>
      rcases readCheckedOut_steadily streams factories aligned hposition hlength hcheck hread
        with ⟨hpiece, htold, hstands, haligned⟩
      cases hpiece
      refine ⟨rfl, rfl, ?_, ?_, hsize⟩
      · unfold Register.read
        rw [htold, ← hcheck.size_eq.1, ← hcheck.size_eq.2]
        exact register_park (Nat.lt_of_lt_of_eq hinside hcheck.size_eq.1.symm)
      · exact Aligned.park streams.tagged.toClosesCalmly haligned hstands

/-!
## Two pools with one register
-/

/-- Two reads that deliver the same bytes and leave pools behind whose streams are parked at
the same positions and were opened and closed at the same times. -/
structure ReadAlike {φ₁ τ₁ φ₂ τ₂ : Type} (reading₁ : Reading (Option Nat) (Pool φ₁ τ₁))
    (reading₂ : Reading (Option Nat) (Pool φ₂ τ₂)) : Prop where
  counts :
    exists n, 0 < n ∧ reading₁.outcome = .ok (some n) ∧ reading₂.outcome = .ok (some n)
  bytes : reading₁.buffer = reading₂.buffer
  positions : reading₁.source.positions = reading₂.source.positions
  turns : reading₁.host.turns = reading₂.host.turns

section Pairs

variable {ψ υ : Type} [Stream υ] [StreamFactory ψ υ] {trusted' : ψ -> Prop}
variable {standsAt' : υ -> Nat -> Prop}

theorem readings_alike (streams : SteadyStreams data limit disk standsAt)
    (streams' : SteadyStreams data limit disk standsAt')
    (factories : ReliableFactories trusted (fun host => host.disk = disk) standsAt)
    (factories' : ReliableFactories trusted' (fun host => host.disk = disk) standsAt')
    (hlimit : limit ≠ some 0) {pool₁ : Pool (Tagging φ) (Tagged τ)}
    {pool₂ : Pool (Tagging ψ) (Tagged υ)} {host₁ host₂ : Host}
    (aligned₁ : TagsAligned disk trusted standsAt pool₁ host₁)
    (aligned₂ : TagsAligned disk trusted' standsAt' pool₂ host₂)
    (hregister : register pool₁ host₁ = register pool₂ host₂)
    (hsize : pool₁.size = pool₂.size) (hcapacity : pool₁.capacity = pool₂.capacity)
    (requests : List (Nat × List UInt8))
    (hrequests : forall request, request ∈ requests ->
      request.1 < data.size ∧ request.2 ≠ []) :
    List.Forall₂ ReadAlike (pool₁.readings host₁ requests)
      (pool₂.readings host₂ requests) := by
  induction requests generalizing pool₁ pool₂ host₁ host₂ with
  | nil => exact .nil
  | cons request rest ih =>
      rcases hrequests request List.mem_cons_self with ⟨hposition, hbuffer⟩
      have hread₁ := readAt_steadily streams factories hlimit aligned₁ hposition hbuffer
      have hread₂ := readAt_steadily streams' factories' hlimit aligned₂ hposition hbuffer
      have hpos := length_copyAt_pos hlimit hposition (List.length_pos_iff.mpr hbuffer)
      have hafter := hread₁.register_eq
      rw [hregister, hsize, hcapacity, ← hread₂.register_eq] at hafter
      constructor
      · constructor
        · exact ⟨_, hpos, hread₁.outcome, hread₂.outcome⟩
        · rw [hread₁.buffer_eq, hread₂.buffer_eq]
        · exact positions_of_register hafter
        · exact congrArg Register.turns hafter
      · apply ih hread₁.aligned hread₂.aligned hafter
        · rw [hread₁.size_eq.1, hread₂.size_eq.1, hsize]
        · rw [hread₁.size_eq.2, hread₂.size_eq.2, hcapacity]
        · exact fun later hlater => hrequests later (List.mem_cons_of_mem _ hlater)

end Pairs

/-!
## Skipping by reading and skipping by moving
-/

/-- The same cursors behind the same pool answer alike, whether the streams skip by reading
bytes or by moving. -/
theorem readAlike_discarding_jumping {ρ φ₁ φ₂ : Type} [ByteCursor ρ]
    [StreamFactory φ₁ (Discarding ρ)] [StreamFactory φ₂ (Jumping ρ)] {data : Array UInt8}
    {limit : Option Nat} {disk : Disk} {standsAt : ρ -> Nat -> Prop} {trusted₁ : φ₁ -> Prop}
    {trusted₂ : φ₂ -> Prop} (cursors : SteadyCursors data limit disk standsAt)
    (hlimit : limit ≠ some 0)
    (discarding : ReliableFactories trusted₁ (fun host => host.disk = disk)
      fun stream : Discarding ρ => standsAt stream.reader)
    (jumping : ReliableFactories trusted₂ (fun host => host.disk = disk)
      fun stream : Jumping ρ => standsAt stream.cursor)
    {factory₁ : φ₁} {factory₂ : φ₂} (htrusted₁ : trusted₁ factory₁)
    (htrusted₂ : trusted₂ factory₂) {host : Host} (hdisk : host.disk = disk) {size : Nat}
    (hsize : size ≤ data.size) (capacity : Nat) (requests : List (Nat × List UInt8))
    (hrequests : forall request, request ∈ requests -> request.1 < size ∧ request.2 ≠ []) :
    List.Forall₂ ReadAlike
      (Pool.readings { factory := ({ factory := factory₁ } : Tagging φ₁), size, capacity } host
        requests)
      (Pool.readings { factory := ({ factory := factory₂ } : Tagging φ₂), size, capacity } host
        requests) := by
  apply readings_alike cursors.discarding cursors.jumping discarding jumping hlimit
    (tagsAligned_empty htrusted₁ hdisk size capacity)
    (tagsAligned_empty htrusted₂ hdisk size capacity) rfl rfl rfl
  intro request hrequest
  rcases hrequests request hrequest with ⟨hposition, hbuffer⟩
  exact ⟨Nat.lt_of_lt_of_le hposition hsize, hbuffer⟩

/-- Readers of six bytes that deliver at most two at once. -/
def pairReader (number : Nat) : NumberedReader where
  number := number
  data := #[10, 20, 30, 40, 50, 60]
  chunk := some 2

def discardingPairs :
    Pool (Tagging (NumberingFactory (Discarding NumberedReader)))
      (Tagged (Discarding NumberedReader)) where
  factory := { factory := { make := fun number => .ok { reader := pairReader number } } }
  size := 5
  capacity := 2

def jumpingPairs :
    Pool (Tagging (NumberingFactory (Jumping NumberedReader)))
      (Tagged (Jumping NumberedReader)) where
  factory := { factory := { make := fun number => .ok { cursor := pairReader number } } }
  size := 5
  capacity := 2

theorem readAlike_pairs :
    List.Forall₂ ReadAlike
      (discardingPairs.readings {} [(3, [0, 0]), (1, [0]), (0, [0, 0]), (4, [0]), (2, [0])])
      (jumpingPairs.readings {} [(3, [0, 0]), (1, [0]), (0, [0, 0]), (4, [0]), (2, [0])]) := by
  have hobeys (number : Nat) : NumberedReader.Obeys #[10, 20, 30, 40, 50, 60] (some 2)
      (pairReader number) 0 := ⟨rfl, rfl, rfl, rfl, rfl⟩
  have hrecord (host : Host) (event : Event) (hdisk : host.disk = {}) :
      (host.record event).disk = {} := hdisk
  exact readAlike_discarding_jumping (NumberedReader.steady (by decide) (by decide)) (by decide)
    (NumberingFactory.reliable hrecord) (NumberingFactory.reliable hrecord)
    (fun number => ⟨_, rfl, hobeys number⟩) (fun number => ⟨_, rfl, hobeys number⟩) rfl
    (by decide) 2 _ (by decide)

example :
    (jumpingPairs.readings {} [(3, [0, 0]), (1, [0]), (0, [0, 0]), (4, [0]), (2, [0])]).map
      (fun reading => (reading.buffer, reading.source.positions)) =
      [([40, 50], []), ([20], [2]), ([10, 20], [2]), ([50], []), ([30], [3])] := by
  cbv

end Pool
end ByteWindow
