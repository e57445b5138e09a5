import ByteWindow.Proofs.Pool.Custody

/-!
# No pooled stream is lost, shared or closed twice

The custody of streams, told for every history of calls to a pool: what holds after each
call, what the next read does to the streams it does not take up, and what a release leaves
behind.  Streams and factories are arbitrary; they are tagged only to tell them apart.
-/

namespace ByteWindow
namespace Pool

variable {φ τ : Type} [Stream τ] [StreamFactory φ τ]

/-!
## What a read leaves alone
-/

/-- An entry stays parked, or it gave way because the pool is full, and those that stay are
all before it. -/
def StaysOrGivesWay (parked : List (Nat × τ)) (capacity : Nat) (entry : Nat × τ) : Prop :=
  entry ∈ parked ∨
    parked.length = capacity ∧ forall kept, kept ∈ parked -> kept.1 < entry.1

omit [Stream τ] in
theorem staysOrGivesWay_take {put : List (Nat × τ)} {capacity : Nat} {entry : Nat × τ}
    (hordered : Ordered put) (hentry : entry ∈ put) :
    StaysOrGivesWay (put.take capacity) capacity entry := by
  have hsplit := List.take_append_drop capacity put
  rw [← hsplit] at hentry
  rcases List.mem_append.mp hentry with hstays | hleaves
  · exact .inl hstays
  · have hlong : capacity < put.length := by
      have hpos := List.length_pos_of_mem hleaves
      rw [List.length_drop] at hpos
      omega
    refine .inr ⟨List.length_take_of_le (Nat.le_of_lt hlong), ?_⟩
    intro kept hkept
    unfold Ordered at hordered
    rw [← hsplit] at hordered
    exact (List.pairwise_append.mp hordered).2.2 kept hkept entry hleaves

/-- What a read at a position does to the parked streams.  `start` is where the stream that
it takes up stands: a parked position, or the front of a new stream. -/
structure LeavesOthersAlone (number : τ -> Nat) (pool : Pool φ τ) (host : Host)
    (position : Nat) (buffer : List UInt8) : Prop where
  /-- If no stream can be opened, nothing changes. -/
  refused : forall cause factory host',
    (forall entry, entry ∈ pool.parked -> position < entry.1) ->
    StreamFactory.openStream pool.factory (host.note (.openingStream position)) =
      (.error cause, factory, host') ->
    pool.readAt host position buffer =
        .failed (.io cause) buffer { pool with factory } host' ∧
      host'.turns = host.turns
  /-- If skipping or reading fails, the stream is closed and no other one is touched. -/
  failed : forall start stream pool' host₁ error stream' host₂,
    pool.checkOut host position = (.ok (start, stream), pool', host₁) ->
    readCheckedOut start position buffer.length stream host₁ =
      (.error error, stream', host₂) ->
    (pool.readAt host position buffer).outcome.toOption = none ∧
      (pool.readAt host position buffer).source.parked =
        pool.parked.filter (fun entry => entry.1 ≠ start) ∧
      Turn.closedIn (pool.readAt host position buffer).host.turns =
        Turn.closedIn host.turns ++ [number stream]
  /-- If the stream is parked again, the other ones stay, save for those that are too many
  and for one that stands where the stream has got to. -/
  parked : forall start stream pool' host₁ piece stream' host₂,
    pool.checkOut host position = (.ok (start, stream), pool', host₁) ->
    readCheckedOut start position buffer.length stream host₁ = (.ok piece, stream', host₂) ->
    (piece = [] -> buffer = []) ->
    position + piece.length < pool.size ->
    StaysOrGivesWay (pool.readAt host position buffer).source.parked pool.capacity
        (position + piece.length, stream') ∧
      number stream' = number stream ∧
      forall entry, entry ∈ pool.parked -> entry.1 ≠ start ->
        entry.1 ≠ position + piece.length ->
        StaysOrGivesWay (pool.readAt host position buffer).source.parked pool.capacity entry

section Read

variable {next : φ -> Nat} {number : τ -> Nat} {pool pool' : Pool φ τ}
variable {host host₁ host₂ : Host}
variable {position start : Nat} {buffer : List UInt8} {stream stream' : τ}

omit [Stream τ] in
theorem checkOut_refused {cause : IoError} {factory : φ} {host' : Host}
    (hbeyond : forall entry, entry ∈ pool.parked -> position < entry.1)
    (hopen : StreamFactory.openStream pool.factory (host.note (.openingStream position)) =
      (.error cause, factory, host')) :
    pool.checkOut host position = (.error (.io cause), { pool with factory }, host') := by
  unfold checkOut
  rw [takeFloor_eq_none hbeyond, hopen]

theorem closedIn_checkOut (numbered : Numbered next number)
    (hcheck : pool.checkOut host position = (.ok (start, stream), pool', host₁)) :
    Turn.closedIn host₁.turns = Turn.closedIn host.turns := by
  have hcourse := checkOutCourse pool host position
  rw [hcheck] at hcourse
  cases hcourse with
  | reused htake => rfl
  | opened htake hopen =>
      rw [(numbered.opened hopen).2.2, Turn.closedIn_append]
      exact List.append_nil _

theorem readAt_refused {error : Error}
    (hcheck : pool.checkOut host position = (.error error, pool', host₁)) :
    pool.readAt host position buffer = .failed error buffer pool' host₁ := by
  unfold readAt
  rw [hcheck]

theorem readAt_failed {error : Error}
    (hcheck : pool.checkOut host position = (.ok (start, stream), pool', host₁))
    (hread : readCheckedOut start position buffer.length stream host₁ =
      (.error error, stream', host₂)) :
    pool.readAt host position buffer =
      .failed (closeFailed error stream' host₂).1 buffer pool'
        (closeFailed error stream' host₂).2 := by
  unfold readAt
  rw [hcheck]
  dsimp only
  rw [hread]

theorem readAt_parked {piece : List UInt8}
    (hcheck : pool.checkOut host position = (.ok (start, stream), pool', host₁))
    (hread : readCheckedOut start position buffer.length stream host₁ =
      (.ok piece, stream', host₂))
    (hpiece : piece = [] -> buffer = []) (hinside : position + piece.length < pool'.size) :
    pool.readAt host position buffer =
      .delivered piece buffer (pool'.park host₂ (position + piece.length) stream').1
        (pool'.park host₂ (position + piece.length) stream').2 := by
  have hmore : ¬ (piece = [] ∧ buffer ≠ []) := fun hended => hended.2 (hpiece hended.1)
  unfold readAt
  rw [hcheck]
  dsimp only
  rw [hread]
  dsimp only
  rw [if_neg hmore, if_neg (Nat.not_le_of_lt hinside)]

theorem Custody.leavesOthersAlone (numbered : Numbered next number)
    (custody : Custody next number pool [] host) :
    LeavesOthersAlone number pool host position buffer where
  refused := by
    intro cause factory host' hbeyond hopen
    exact ⟨readAt_refused (checkOut_refused hbeyond hopen), (numbered.refused hopen).2⟩
  failed := by
    intro start stream pool' host₁ error stream' host₂ hcheck hread
    have hcourse := checkOutCourse pool host position
    rw [hcheck] at hcourse
    rcases numbered.readCheckedOut hread with ⟨hnumber, hturns⟩
    rw [readAt_failed hcheck hread]
    refine ⟨rfl, hcourse.parked_eq custody.ordered, ?_⟩
    show Turn.closedIn (closeFailed error stream' host₂).2.turns = _
    rw [numbered.closeFailed, Turn.closedIn_append, hturns, hnumber,
      closedIn_checkOut numbered hcheck]
    rfl
  parked := by
    intro start stream pool' host₁ piece stream' host₂ hcheck hread hpiece hinside
    have hcourse := checkOutCourse pool host position
    rw [hcheck] at hcourse
    rcases hcourse.size_eq with ⟨hsize, hcapacity⟩
    have hothers := hcourse.parked_eq custody.ordered
    have hordered : Ordered pool'.parked := by
      rw [hothers]
      exact List.Pairwise.filter _ custody.ordered
    rcases mem_putIn (position + piece.length) stream' hordered with ⟨hnew, hold⟩
    rw [← hsize] at hinside
    rw [readAt_parked hcheck hread hpiece hinside, ← hcapacity]
    refine ⟨?_, (numbered.readCheckedOut hread).1, ?_⟩
    · exact staysOrGivesWay_take (ordered_putIn _ _ hordered) hnew
    · intro entry hentry hstart hne
      refine staysOrGivesWay_take (ordered_putIn _ _ hordered) (hold entry ?_ hne)
      rw [hothers]
      exact List.mem_filter.mpr ⟨hentry, decide_eq_true hstart⟩

end Read

/-!
## Histories
-/

/-- A call to a pool. -/
inductive Call
  | readAt (position : Nat) (buffer : List UInt8)
  | release

/-- The pool and the host that a call leaves behind. -/
def Call.perform (pool : Pool φ τ) (host : Host) : Call -> Pool φ τ × Host
  | readAt position buffer =>
      let reading := pool.readAt host position buffer
      (reading.source, reading.host)
  | release =>
      let (_, pool, host) := pool.release host
      (pool, host)

/-- The pool and the host that a series of calls leaves behind. -/
def performAll (pool : Pool φ τ) (host : Host) : List Call -> Pool φ τ × Host
  | [] => (pool, host)
  | call :: rest =>
      let (pool, host) := call.perform pool host
      performAll pool host rest

section Histories

variable {next : φ -> Nat} {number : τ -> Nat} {pool : Pool φ τ} {host : Host}

theorem Custody.perform (numbered : Numbered next number)
    (custody : Custody next number pool [] host) (call : Call) :
    Custody next number (call.perform pool host).1 [] (call.perform pool host).2 := by
  cases call with
  | readAt position buffer => exact custody.readAt numbered position buffer
  | release => exact custody.release numbered

theorem Custody.performAll (numbered : Numbered next number)
    (custody : Custody next number pool [] host) (calls : List Call) :
    Custody next number (pool.performAll host calls).1 []
      (pool.performAll host calls).2 := by
  induction calls generalizing pool host with
  | nil => exact custody
  | cons call rest ih => exact ih (custody.perform numbered call)

theorem Call.perform_size (call : Call) (pool : Pool φ τ) (host : Host) :
    (call.perform pool host).1.size = pool.size ∧
      (call.perform pool host).1.capacity = pool.capacity := by
  cases call with
  | readAt position buffer => exact (readCourse pool host position buffer).size_eq
  | release => exact ⟨rfl, rfl⟩

theorem performAll_size (pool : Pool φ τ) (host : Host) (calls : List Call) :
    (pool.performAll host calls).1.size = pool.size ∧
      (pool.performAll host calls).1.capacity = pool.capacity := by
  induction calls generalizing pool host with
  | nil => exact ⟨rfl, rfl⟩
  | cons call rest ih =>
      rcases call.perform_size pool host with ⟨hsize, hcapacity⟩
      rcases ih (call.perform pool host).1 (call.perform pool host).2 with
        ⟨hsize', hcapacity'⟩
      exact ⟨hsize'.trans hsize, hcapacity'.trans hcapacity⟩

end Histories

/-- What holds of the streams of a pool after every call. -/
structure Safekeeping (number : τ -> Nat) (size capacity : Nat) (pool : Pool φ τ)
    (host : Host) : Prop where
  /-- A stream that was opened is parked, once, or was closed, once, and never both. -/
  once : forall stream, stream ∈ Turn.openedIn host.turns ->
    (pool.held number).count stream = 1 ∧ (Turn.closedIn host.turns).count stream = 0 ∨
      (pool.held number).count stream = 0 ∧ (Turn.closedIn host.turns).count stream = 1
  /-- No two streams have one number, and none is parked or closed that was not opened. -/
  genuine : (Turn.openedIn host.turns).Nodup ∧
    forall stream, stream ∈ pool.held number ∨ stream ∈ Turn.closedIn host.turns ->
      stream ∈ Turn.openedIn host.turns
  bounded : pool.parked.length ≤ capacity
  distinct : pool.positions.Nodup
  inside : forall position, position ∈ pool.positions -> position < size
  /-- At no time, calls under way included, are more streams open than one above the
  capacity. -/
  moments : forall past, past <+: host.turns ->
    (Turn.openAfter past).length ≤ capacity + 1

omit [Stream τ] [StreamFactory φ τ] in
theorem Custody.safekeeping {next : φ -> Nat} {number : τ -> Nat} {pool : Pool φ τ}
    {host : Host} (custody : Custody next number pool [] host) :
    Safekeeping number pool.size pool.capacity pool host where
  once := by
    intro stream hopened
    exact custody.balanced.once hopened
  genuine := by
    refine ⟨custody.balanced.distinct, ?_⟩
    intro stream hstream
    exact custody.balanced.accounted.mem_iff.mpr (List.mem_append.mpr hstream)
  bounded := custody.bounded
  distinct := by
    refine List.pairwise_map.mpr (custody.ordered.imp ?_)
    intro earlier later hlt
    exact Nat.ne_of_lt hlt
  inside := by
    intro position hposition
    rcases List.mem_map.mp hposition with ⟨entry, hentry, rfl⟩
    exact custody.inside entry hentry
  moments := custody.balanced.moments

/-- After a release nothing is parked, and every stream that was opened is closed. -/
theorem Custody.release_closes {next : φ -> Nat} {number : τ -> Nat} {pool : Pool φ τ}
    {host : Host} (numbered : Numbered next number)
    (custody : Custody next number pool [] host) :
    (pool.release host).2.1.parked = [] ∧
      forall stream, stream ∈ Turn.openedIn (pool.release host).2.2.turns ->
        (Turn.closedIn (pool.release host).2.2.turns).count stream = 1 := by
  refine ⟨rfl, ?_⟩
  intro stream hopened
  have hnone : (pool.release host).2.1.held number = [] := rfl
  rcases (custody.release numbered).safekeeping.once stream hopened with hheld | hclosed
  · rw [hnone, List.count_nil] at hheld
    cases hheld.1
  · exact hclosed.2

/-- Whatever streams and their factory do, and whatever was called before: each stream is
kept safe, the next read touches only the stream it takes up and those that have to give
way, and a release closes everything. -/
theorem safekeeping_performAll (factory : φ) (size capacity : Nat) (host : Host)
    (calls : List Call) :
    let start : Pool (Tagging φ) (Tagged τ) := { factory := { factory }, size, capacity }
    let (pool, host) := start.performAll host.cleared calls
    Safekeeping Tagged.number size capacity pool host ∧
      (forall position buffer,
        LeavesOthersAlone Tagged.number pool host position buffer) ∧
      (pool.release host).2.1.parked = [] ∧
      forall stream, stream ∈ Turn.openedIn (pool.release host).2.2.turns ->
        (Turn.closedIn (pool.release host).2.2.turns).count stream = 1 := by
  intro start
  have hstart : Custody Tagging.next Tagged.number start [] host.cleared :=
    Custody.empty _ size capacity rfl
  have hcustody := hstart.performAll Tagged.numbered calls
  have hsafe := hcustody.safekeeping
  rcases performAll_size start host.cleared calls with ⟨hsize, hcapacity⟩
  rw [hsize, hcapacity] at hsafe
  refine ⟨hsafe, ?_, hcustody.release_closes Tagged.numbered⟩
  intro position buffer
  exact hcustody.leavesOthersAlone Tagged.numbered

end Pool
end ByteWindow
