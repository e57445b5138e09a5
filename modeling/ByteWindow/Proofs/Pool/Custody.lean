import ByteWindow.Proofs.Stream.Tagged
import ByteWindow.Proofs.Pool.Parking

/-!
# Custody of pooled streams

A stream changes hands whenever a read takes it up, fails, ends or parks it.  Here every
stream is given a number, and the record of the host tells when it is opened and closed.
Whatever streams do, each one that was opened is parked or was closed, exactly once, and at
no moment is more than one stream open beyond the capacity of the pool.

The argument follows the streams in hand.  Each part of a read turns a balanced ledger into
a balanced one, for the parked streams together with the one that is taken up.
-/

namespace ByteWindow

/-!
## Numbered streams at work
-/

namespace Numbered

variable {φ τ : Type} [Stream τ] [StreamFactory φ τ] {next : φ -> Nat} {number : τ -> Nat}

theorem skipRemaining (numbered : Numbered next number) (start total : Nat) (stream : τ)
    (host : Host) (remaining idle : Nat) :
    number (Pool.skipRemaining start total stream host remaining idle).2.1 =
        number stream ∧
      (Pool.skipRemaining start total stream host remaining idle).2.2.turns =
        host.turns := by
  fun_induction Pool.skipRemaining start total stream host remaining idle with
  | case1 => exact ⟨rfl, rfl⟩
  | case2 stream host remaining idle _ cause stream' host' hskip =>
      have hstep := numbered.skip stream host remaining
      rw [hskip] at hstep
      exact hstep
  | case3 stream host remaining idle _ stream' host' hskip _ ih =>
      have hstep := numbered.skip stream host remaining
      rw [hskip] at hstep
      exact ⟨ih.1.trans hstep.1, ih.2.trans hstep.2⟩
  | case4 stream host remaining idle _ stream' host' hskip =>
      have hstep := numbered.skip stream host remaining
      rw [hskip] at hstep
      exact hstep
  | case5 stream host remaining idle _ step stream' host' hskip ih =>
      have hstep := numbered.skip stream host remaining
      rw [hskip] at hstep
      exact ⟨ih.1.trans hstep.1, ih.2.trans hstep.2⟩

theorem readCheckedOut (numbered : Numbered next number) {start position length : Nat}
    {stream stream' : τ} {host host' : Host} {result : Except Error (List UInt8)}
    (h : Pool.readCheckedOut start position length stream host = (result, stream', host')) :
    number stream' = number stream ∧ host'.turns = host.turns := by
  have hskip := numbered.skipRemaining start (position - start) stream host
    (position - start) 0
  unfold Pool.readCheckedOut Pool.skipFully at h
  split at h
  · rename_i error stream₁ host₁ hskipped
    rw [hskipped] at hskip
    cases h
    exact hskip
  · rename_i stream₁ host₁ hskipped
    rw [hskipped] at hskip
    have hread := numbered.read stream₁ host₁ length
    split at h
    · rename_i piece stream₂ host₂ hdelivered
      rw [hdelivered] at hread
      cases h
      exact ⟨hread.1.trans hskip.1, hread.2.trans hskip.2⟩
    · rename_i cause stream₂ host₂ hdelivered
      rw [hdelivered] at hread
      cases h
      exact ⟨hread.1.trans hskip.1, hread.2.trans hskip.2⟩

/-!
However a stream is closed, and whether that succeeds or not, it is closed once.
-/

theorem closeQuietly (numbered : Numbered next number) (stream : τ) (host : Host) :
    (Pool.closeQuietly stream host).turns = host.turns ++ [.closed (number stream)] :=
  Pool.closeQuietly_of
    (P := fun host' => host'.turns = host.turns ++ [Turn.closed (number stream)])
    (numbered.close stream host) fun _ _ h => h

theorem closeFailed (numbered : Numbered next number) (error : Error) (stream : τ)
    (host : Host) :
    (Pool.closeFailed error stream host).2.turns =
      host.turns ++ [.closed (number stream)] := by
  rw [Pool.closeFailed_host]
  exact numbered.close stream host

theorem closeAllQuietly (numbered : Numbered next number) (streams : List τ) (host : Host) :
    (Pool.closeAllQuietly streams host).turns =
      host.turns ++ (streams.map number).map .closed := by
  induction streams generalizing host with
  | nil => exact (List.append_nil _).symm
  | cons stream rest ih =>
      refine (ih (Pool.closeQuietly stream host)).trans ?_
      rw [numbered.closeQuietly, List.append_assoc]
      rfl

theorem closeAll (numbered : Numbered next number) (streams : List τ) (host : Host) :
    (Pool.closeAll streams host).2.turns =
      host.turns ++ (streams.map number).map .closed := by
  induction streams generalizing host with
  | nil => exact (List.append_nil _).symm
  | cons stream rest ih =>
      have hclose := numbered.close stream host
      unfold Pool.closeAll
      split
      · rename_i host' hclosed
        rw [hclosed] at hclose
        rw [ih, hclose, List.append_assoc]
        rfl
      · rename_i cause host' hclosed
        rw [hclosed] at hclose
        rw [ih, hclose, List.append_assoc]
        rfl

end Numbered

namespace Pool

variable {φ τ : Type}

/-- The numbers of the parked streams. -/
def held (number : τ -> Nat) (pool : Pool φ τ) : List Nat :=
  pool.parked.map fun entry => number entry.2

theorem held_length (number : τ -> Nat) (pool : Pool φ τ) :
    (pool.held number).length = pool.parked.length :=
  List.length_map _

theorem turns_noteEvicted (entries : List (Nat × τ)) (host : Host) :
    (entries.foldl (fun host entry => host.note (.evictingStream entry.1)) host).turns =
      host.turns :=
  noteEvicted_of (P := fun host' => host'.turns = host.turns) entries rfl fun _ _ h => h

/-!
## What parking keeps and what it evicts
-/

section Parking

variable [Stream τ] {pool : Pool φ τ} {position : Nat} {stream : τ}

theorem park_parked (pool : Pool φ τ) (host : Host) (position : Nat) (stream : τ) :
    (pool.park host position stream).1 =
      { pool with
        parked := (putIn position stream pool.parked).2.take pool.capacity } := rfl

/-- The streams that leave when another one is parked. -/
def leaving (pool : Pool φ τ) (position : Nat) (stream : τ) : List τ :=
  (putIn position stream pool.parked).1.toList ++
    ((putIn position stream pool.parked).2.drop pool.capacity).reverse.map Prod.snd

omit [Stream τ] in
theorem putIn_perm (number : τ -> Nat) {parked put : List (Nat × τ)} {replaced : Option τ}
    (hput : putIn position stream parked = (replaced, put)) (hordered : Ordered parked) :
    (number stream :: parked.map fun entry => number entry.2).Perm
      (replaced.toList.map number ++ put.map fun entry => number entry.2) := by
  rcases putIn_eq hput hordered with ⟨before, after, hparked, hresult, _hbefore, _hafter⟩
  have hplace : (fun entry : Nat × τ => number entry.2) ∘ (fun other => (position, other)) =
      number := rfl
  -- Both sides hold the same streams, so it is enough to count each of them.
  rw [List.perm_iff_count]
  intro other
  rw [hresult, hparked]
  simp only [List.count_cons, List.count_append, List.map_append, List.map_cons,
    List.map_map, hplace]
  omega

theorem perm_drop_take {α : Type} (entries : List α) (n : Nat) :
    entries.Perm ((entries.drop n).reverse ++ entries.take n) := by
  have hswap : (entries.take n ++ entries.drop n).Perm (entries.drop n ++ entries.take n) :=
    List.perm_append_comm
  rw [List.take_append_drop] at hswap
  exact hswap.trans ((List.reverse_perm _).symm.append_right _)

/-- The parked streams and the new one are those that leave and those that stay. -/
theorem park_perm (number : τ -> Nat) (host : Host) (hordered : Ordered pool.parked) :
    (number stream :: pool.held number).Perm
      ((leaving pool position stream).map number ++
        (pool.park host position stream).1.held number) := by
  cases hput : putIn position stream pool.parked with
  | mk replaced put =>
      have hin := putIn_perm number hput hordered
      have hout := (perm_drop_take put pool.capacity).map fun entry => number entry.2
      rw [List.map_append] at hout
      rw [park_parked]
      unfold leaving
      rw [hput, List.map_append, List.map_map, List.append_assoc]
      exact hin.trans (hout.append_left _)

/-- Those that leave are closed, and nobody else is. -/
theorem turns_park [StreamFactory φ τ] {next : φ -> Nat} {number : τ -> Nat}
    (numbered : Numbered next number) (host : Host) :
    (pool.park host position stream).2.turns =
      host.turns ++ ((leaving pool position stream).map number).map .closed := by
  unfold park leaving
  dsimp only
  rw [numbered.closeAllQuietly, turns_noteEvicted]

/-- A release closes all parked streams, even if closing some of them fails. -/
theorem turns_release [StreamFactory φ τ] {next : φ -> Nat} {number : τ -> Nat}
    (numbered : Numbered next number) (host : Host) :
    (pool.release host).2.2.turns =
      host.turns ++ (pool.held number).map .closed := by
  have hheld : (pool.parked.map Prod.snd).map number = pool.held number := List.map_map
  unfold release
  dsimp only
  rw [numbered.closeAll, hheld]

end Parking

/-!
## The invariant
-/

variable {next : φ -> Nat} {number : τ -> Nat}

/-- The ledger of the host is balanced against the parked streams and those in hand.  The
parked streams are in order, not too many, and none of them is past the end. -/
structure Custody (next : φ -> Nat) (number : τ -> Nat) (pool : Pool φ τ)
    (hand : List Nat) (host : Host) : Prop where
  balanced :
    Balanced (pool.capacity + 1) (next pool.factory) (hand ++ pool.held number) host.turns
  ordered : Ordered pool.parked
  bounded : pool.parked.length ≤ pool.capacity
  inside : forall entry, entry ∈ pool.parked -> entry.1 < pool.size

/-- The number of the stream that a check-out puts in hand. -/
def inHand (number : τ -> Nat) : Except Error (Nat × τ) -> List Nat
  | .ok (_, stream) => [number stream]
  | .error _ => []

namespace Custody

variable {pool pool' : Pool φ τ} {host host' : Host} {position : Nat}

theorem empty (factory : φ) (size capacity : Nat) (hturns : host.turns = []) :
    Custody next number { factory, size, capacity } [] host where
  balanced := by
    rw [hturns]
    exact Balanced.empty _ _
  ordered := List.Pairwise.nil
  bounded := Nat.zero_le _
  inside := by
    intro entry hentry
    cases hentry

variable [Stream τ] [StreamFactory φ τ]

/-- A stream that is taken up is in hand and not parked any more. -/
theorem checkOut (numbered : Numbered next number)
    (custody : Custody next number pool [] host) {result : Except Error (Nat × τ)}
    (hcourse : CheckOutCourse pool host position (result, pool', host')) :
    Custody next number pool' (inHand number result) host' := by
  have hbalanced := custody.balanced
  cases hcourse with
  | reused htake =>
      rename_i reached stream rest
      rcases takeFloor_some htake custody.ordered with
        ⟨before, after, hparked, hrest, _hreached, _hbeyond⟩
      have hordered := custody.ordered
      have hbounded := custody.bounded
      have hinside := custody.inside
      unfold held at hbalanced
      rw [hparked] at hordered hbounded hinside hbalanced
      subst hrest
      constructor
      · refine hbalanced.of_perm ?_
        rw [List.map_append, List.map_cons]
        refine List.perm_middle.trans ?_
        rw [← List.map_append]
        exact .refl _
      · exact ordered_without hordered
      · rw [List.length_append, List.length_cons] at hbounded
        rw [List.length_append]
        exact Nat.le_of_succ_le hbounded
      · intro entry hentry
        apply hinside
        rcases List.mem_append.mp hentry with hbefore | hafter
        · exact List.mem_append_left _ hbefore
        · exact List.mem_append_right _ (List.mem_cons_of_mem _ hafter)
  | opened htake hopen =>
      rcases numbered.opened hopen with ⟨hfresh, hnext, hturns⟩
      refine ⟨?_, custody.ordered, custody.bounded, custody.inside⟩
      rw [hturns]
      refine hbalanced.opened ?_ hfresh hnext
      rw [List.nil_append, held_length]
      exact Nat.lt_succ_of_le custody.bounded
  | refused htake hopen =>
      rcases numbered.refused hopen with ⟨hnext, hturns⟩
      refine ⟨?_, custody.ordered, custody.bounded, custody.inside⟩
      rw [hturns]
      exact hbalanced.of_le hnext

omit [Stream τ] [StreamFactory φ τ] in
/-- Closing the stream in hand empties the hand. -/
theorem closed {stream : Nat} (custody : Custody next number pool [stream] host)
    (hturns : host'.turns = host.turns ++ [.closed stream]) :
    Custody next number pool [] host' := by
  refine ⟨?_, custody.ordered, custody.bounded, custody.inside⟩
  rw [hturns]
  exact custody.balanced.closed

/-- Parking the stream in hand empties the hand, and those that leave are closed. -/
theorem park (numbered : Numbered next number) {stream : τ}
    (custody : Custody next number pool [number stream] host)
    (hposition : position < pool.size) :
    Custody next number (pool.park host position stream).1 []
      (pool.park host position stream).2 := by
  constructor
  · rw [turns_park numbered]
    exact (custody.balanced.of_perm (park_perm number host custody.ordered)).closedAll
  · exact (ordered_putIn position stream custody.ordered).sublist (List.take_sublist _ _)
  · exact List.length_take_le _ _
  · intro entry hentry
    have hput := List.mem_of_mem_take hentry
    rcases putIn_eq (show putIn position stream pool.parked = (_, _) from rfl)
      custody.ordered with ⟨before, after, hparked, hresult, _hbefore, _hafter⟩
    rw [hresult] at hput
    rcases List.mem_append.mp hput with hbefore | hafter
    · apply custody.inside
      rw [hparked]
      exact List.mem_append_left _ (List.mem_append_left _ hbefore)
    · rcases List.mem_cons.mp hafter with rfl | hafter
      · exact hposition
      · apply custody.inside
        rw [hparked]
        exact List.mem_append_right _ hafter

/-- Skipping and reading leave the stream in hand. -/
theorem readCheckedOut (numbered : Numbered next number) {start length : Nat}
    {stream stream' : τ} {result : Except Error (List UInt8)}
    (custody : Custody next number pool [number stream] host)
    (hread : Pool.readCheckedOut start position length stream host =
      (result, stream', host')) :
    Custody next number pool [number stream'] host' := by
  rcases numbered.readCheckedOut hread with ⟨hnumber, hturns⟩
  refine ⟨?_, custody.ordered, custody.bounded, custody.inside⟩
  rw [hnumber, hturns]
  exact custody.balanced

/-- Whatever course a read takes, in the end the hand is empty. -/
theorem readAt (numbered : Numbered next number)
    (custody : Custody next number pool [] host) (position : Nat) (buffer : List UInt8) :
    Custody next number (pool.readAt host position buffer).source []
      (pool.readAt host position buffer).host := by
  have hcourse := readCourse pool host position buffer
  generalize pool.readAt host position buffer = reading at hcourse
  -- Between taking a stream up and letting it go, exactly that stream is in hand.
  cases hcourse with
  | refused hcheck =>
      exact custody.checkOut numbered hcheck
  | failed hcheck hread =>
      have hhand := (custody.checkOut numbered hcheck).readCheckedOut numbered hread
      exact hhand.closed (numbered.closeFailed _ _ _)
  | ended hcheck hread =>
      have hhand := (custody.checkOut numbered hcheck).readCheckedOut numbered hread
      exact hhand.closed (numbered.closeQuietly _ _)
  | finished hcheck hread =>
      have hhand := (custody.checkOut numbered hcheck).readCheckedOut numbered hread
      exact hhand.closed (numbered.closeQuietly _ _)
  | parked hcheck hread _hpiece hinside =>
      have hhand := (custody.checkOut numbered hcheck).readCheckedOut numbered hread
      rw [← hcheck.size_eq.1] at hinside
      exact hhand.park numbered hinside

theorem release (numbered : Numbered next number)
    (custody : Custody next number pool [] host) :
    Custody next number (pool.release host).2.1 [] (pool.release host).2.2 := by
  constructor
  · have hnone : (pool.release host).2.1.held number = [] := rfl
    rw [turns_release numbered, hnone]
    refine Balanced.closedAll ?_
    rw [List.append_nil, List.append_nil]
    exact custody.balanced
  · exact List.Pairwise.nil
  · exact Nat.zero_le _
  · intro entry hentry
    cases hentry

end Custody
end Pool
end ByteWindow
