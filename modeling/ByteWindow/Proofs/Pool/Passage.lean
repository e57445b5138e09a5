import Mathlib.Data.List.Permutation
import ByteWindow.Proofs.Pool.Safekeeping
import ByteWindow.Scripted.Stream

/-!
# Passing over a pool from front to back

Somebody who reads from front to back never waits for a second stream.  A read that delivers
parks its stream where it ends.  That stream itself may have to give way at once; but then the
pool is full of streams that stand before it, and one of those serves the next read as well.
So after a read some stream is parked at or before the place that the pass has reached, and
only the first read of a pass can ask for a new stream.

Factories are made to count how often they are asked, whether they open a stream or not.
-/

namespace ByteWindow

/-- A factory that counts how often it is asked for a stream. -/
structure Counting (φ : Type) where
  factory : φ
  asked : Nat := 0

namespace Counting

variable {φ τ : Type} [StreamFactory φ τ]

def openStream (s : Counting φ) (host : Host) : Except IoError τ × Counting φ × Host :=
  match StreamFactory.openStream s.factory host with
  | (result, factory, host) => (result, { factory, asked := s.asked + 1 }, host)

instance : StreamFactory (Counting φ) τ where
  openStream := openStream

/-- A tagged factory asks the one inside it once for each stream. -/
theorem asked_openStream [Stream τ] (s : Tagging (Counting φ)) (host : Host) :
    (StreamFactory.openStream s host).2.1.factory.asked = s.factory.asked + 1 := by
  change (Tagging.openStream s host).2.1.factory.asked = _
  unfold Tagging.openStream
  split
  · rename_i stream factory host' hopen
    exact congrArg (fun opened => opened.2.1.asked) hopen.symm
  · rename_i cause factory host' hopen
    exact congrArg (fun opened => opened.2.1.asked) hopen.symm

end Counting

namespace Pool

variable {φ τ : Type}

/-!
## Streams that serve a read
-/

/-- A parked stream stands at or before a position. -/
def Offers (pool : Pool φ τ) (position : Nat) : Prop :=
  exists entry, entry ∈ pool.parked ∧ entry.1 ≤ position

theorem Offers.mono {pool : Pool φ τ} {position position' : Nat}
    (offers : pool.Offers position) (hle : position ≤ position') : pool.Offers position' := by
  rcases offers with ⟨entry, hentry, hreached⟩
  exact ⟨entry, hentry, Nat.le_trans hreached hle⟩

variable [Stream τ]

/-- Where a stream is parked, one serves from then on, be it that one or another. -/
theorem offers_park {pool : Pool φ τ} (hordered : Ordered pool.parked)
    (hcapacity : 1 ≤ pool.capacity) (host : Host) (position : Nat) (stream : τ) :
    (pool.park host position stream).1.Offers position := by
  have hput := ordered_putIn position stream hordered
  have hnew := (mem_putIn position stream hordered).1
  unfold Offers
  rw [park_parked]
  dsimp only
  cases hresult : (putIn position stream pool.parked).2 with
  | nil =>
      rw [hresult] at hnew
      cases hnew
  | cons front rest =>
      -- The stream in front stands before all others, and there is room for it.
      rw [hresult] at hput hnew
      refine ⟨front, ?_, ?_⟩
      · rw [List.take_cons hcapacity]
        exact List.mem_cons_self
      · rcases List.mem_cons.mp hnew with hfront | hrest
        · exact Nat.le_of_eq (congrArg Prod.fst hfront).symm
        · exact Nat.le_of_lt ((List.pairwise_cons.mp hput).1 _ hrest)

variable [StreamFactory φ τ]

/-- After a read that delivered and stayed before the end, a stream serves the next one. -/
theorem offers_readAt {pool : Pool φ τ} {host : Host} {position n : Nat}
    {buffer : List UInt8} (hordered : Ordered pool.parked) (hcapacity : 1 ≤ pool.capacity)
    (hread : (pool.readAt host position buffer).outcome = .ok (some n))
    (hmore : position + n < pool.size) :
    (pool.readAt host position buffer).source.Offers (position + n) := by
  have hcourse := readCourse pool host position buffer
  generalize pool.readAt host position buffer = reading at hcourse hread
  cases hcourse with
  | refused hcheck => cases hread
  | failed hcheck hstream => cases hread
  | ended hcheck hstream hbuffer => cases hread
  | finished hcheck hstream hpiece hend =>
      cases hread
      exact absurd hend (Nat.not_le_of_lt hmore)
  | parked hcheck hstream hpiece hinside =>
      cases hread
      rename_i start stream stream' pool' host₁ host₂ piece
      have hothers : Ordered pool'.parked := by
        rw [hcheck.parked_eq hordered]
        exact List.Pairwise.filter _ hordered
      rw [← hcheck.size_eq.2] at hcapacity
      exact offers_park hothers hcapacity host₂ (position + piece.length) stream'

/-!
## What a read asks of the factory
-/

variable {next : φ -> Nat} {number : τ -> Nat} {asked : φ -> Nat}

/-- A read takes up a parked stream and leaves the factory as it is, or it asks the factory
once.  Apart from that it only closes streams. -/
inductive TakesUp (asked : φ -> Nat) (pool : Pool φ τ) (host : Host) (position : Nat)
    (reading : Reading (Option Nat) (Pool φ τ)) : Prop where
  | parked (later : List Turn) :
      reading.source.factory = pool.factory ->
      reading.host.turns = host.turns ++ later -> Turn.openedIn later = [] ->
      TakesUp asked pool host position reading
  | new (later : List Turn) :
      ¬ pool.Offers position ->
      asked reading.source.factory = asked pool.factory + 1 ->
      reading.host.turns = host.turns ++ later -> (Turn.openedIn later).length ≤ 1 ->
      TakesUp asked pool host position reading

omit [Stream τ] [StreamFactory φ τ] in
theorem TakesUp.turns {pool : Pool φ τ} {host : Host} {position : Nat}
    {reading : Reading (Option Nat) (Pool φ τ)}
    (takesUp : TakesUp asked pool host position reading) :
    exists later, reading.host.turns = host.turns ++ later ∧
      (Turn.openedIn later).length ≤ 1 := by
  cases takesUp with
  | parked later _ hturns hopened =>
      refine ⟨later, hturns, ?_⟩
      rw [hopened]
      exact Nat.zero_le 1
  | new later _ _ hturns hopened => exact ⟨later, hturns, hopened⟩

theorem openedIn_closed_eq_nil (streams : List Nat) :
    Turn.openedIn (streams.map .closed) = [] := by
  unfold Turn.openedIn
  rw [List.filterMap_map]
  exact List.filterMap_eq_nil_iff.mpr fun _ _ => rfl

/-- Once a stream is taken up, a read only closes. -/
theorem closes_after_checkOut (numbered : Numbered next number) (pool : Pool φ τ)
    (host : Host) (position : Nat) (buffer : List UInt8) :
    let reading := pool.readAt host position buffer
    exists (result : Except Error (Nat × τ)) (pool' : Pool φ τ) (host' : Host)
        (streams : List Nat),
      CheckOutCourse pool host position (result, pool', host') ∧
        reading.source.factory = pool'.factory ∧
        reading.host.turns = host'.turns ++ streams.map .closed := by
  have hcourse := readCourse pool host position buffer
  generalize pool.readAt host position buffer = reading at hcourse
  cases hcourse with
  | refused hcheck => exact ⟨_, _, _, [], hcheck, rfl, (List.append_nil _).symm⟩
  | failed hcheck hstream =>
      rename_i stream stream' pool' host₁ host₂ error
      have hturns := (numbered.readCheckedOut hstream).2
      refine ⟨_, _, _, [number stream'], hcheck, rfl, ?_⟩
      rw [← hturns]
      exact numbered.closeFailed _ _ _
  | ended hcheck hstream =>
      rename_i stream stream' pool' host₁ host₂ hbuffer
      have hturns := (numbered.readCheckedOut hstream).2
      refine ⟨_, _, _, [number stream'], hcheck, rfl, ?_⟩
      rw [← hturns]
      exact numbered.closeQuietly _ _
  | finished hcheck hstream =>
      rename_i stream stream' pool' host₁ host₂ piece hpiece hend
      have hturns := (numbered.readCheckedOut hstream).2
      refine ⟨_, _, _, [number stream'], hcheck, rfl, ?_⟩
      rw [← hturns]
      exact numbered.closeQuietly _ _
  | parked hcheck hstream =>
      rename_i stream stream' pool' host₁ host₂ piece hpiece hinside
      have hturns := (numbered.readCheckedOut hstream).2
      refine ⟨_, _, _, (leaving pool' (position + piece.length) stream').map number, hcheck,
        rfl, ?_⟩
      rw [← hturns]
      exact turns_park numbered host₂

theorem takesUp_readAt (numbered : Numbered next number)
    (counts : forall (factory : φ) (host : Host),
      asked (StreamFactory.openStream factory host).2.1 = asked factory + 1)
    {pool : Pool φ τ} (hordered : Ordered pool.parked) (host : Host) (position : Nat)
    (buffer : List UInt8) :
    TakesUp asked pool host position (pool.readAt host position buffer) := by
  rcases closes_after_checkOut numbered pool host position buffer with
    ⟨result, pool', host', streams, hcheck, hfactory, hturns⟩
  have hnobody {rest : List (Nat × τ)} (htake : takeFloor position pool.parked = (none, rest)) :
      ¬ pool.Offers position := by
    rintro ⟨entry, hentry, hreached⟩
    have hbeyond := (takeFloor_none htake hordered).2 entry hentry
    exact absurd hreached (Nat.not_le_of_lt hbeyond)
  cases hcheck with
  | reused htake => exact .parked _ hfactory hturns (openedIn_closed_eq_nil streams)
  | opened htake hopen =>
      have hcount := counts pool.factory (host.note (.openingStream position))
      rw [hopen] at hcount
      rename_i stream factory
      rw [(numbered.opened hopen).2.2, List.append_assoc] at hturns
      refine .new _ (hnobody htake) ?_ hturns ?_
      · rw [hfactory]
        exact hcount
      · rw [Turn.openedIn_append, openedIn_closed_eq_nil]
        exact Nat.le_refl 1
  | refused htake hopen =>
      have hcount := counts pool.factory (host.note (.openingStream position))
      rw [hopen] at hcount
      rw [(numbered.refused hopen).2] at hturns
      refine .new _ (hnobody htake) ?_ hturns ?_
      · rw [hfactory]
        exact hcount
      · rw [openedIn_closed_eq_nil]
        exact Nat.zero_le 1

/-!
## Passes
-/

/-- The pool and the host that reads leave behind, each of them with its position and its
buffer. -/
def pass (pool : Pool φ τ) (host : Host) (reads : List (Nat × List UInt8)) :
    Pool φ τ × Host :=
  pool.performAll host (reads.map fun read => .readAt read.1 read.2)

/-- Reads that deliver one behind the other, the first one at `reached` or later.  All of them
stay before the end, save for the last one. -/
def FrontToBack (pool : Pool φ τ) (host : Host) (reached : Nat) :
    List (Nat × List UInt8) -> Prop
  | [] => True
  | (position, buffer) :: rest =>
      let reading := pool.readAt host position buffer
      reached ≤ position ∧
        exists n, reading.outcome = .ok (some n) ∧
          (rest ≠ [] -> position + n < pool.size) ∧
          FrontToBack reading.source reading.host (position + n) rest

theorem pass_cons (pool : Pool φ τ) (host : Host) (position : Nat) (buffer : List UInt8)
    (rest : List (Nat × List UInt8)) :
    pool.pass host ((position, buffer) :: rest) =
      (pool.readAt host position buffer).source.pass (pool.readAt host position buffer).host
        rest := rfl

/-- What was read first is a pass of its own. -/
theorem FrontToBack.of_prefix {pool : Pool φ τ} {host : Host} {reached : Nat}
    {past reads : List (Nat × List UInt8)} (hpass : pool.FrontToBack host reached reads)
    (hpast : past <+: reads) : pool.FrontToBack host reached past := by
  induction past generalizing pool host reached reads with
  | nil => trivial
  | cons read past ih =>
      rcases read with ⟨position, buffer⟩
      rcases hpast with ⟨after, rfl⟩
      rcases hpass with ⟨hreached, n, hread, hmore, hrest⟩
      refine ⟨hreached, n, hread, ?_, ih hrest (List.prefix_append past after)⟩
      intro hpast
      exact hmore (List.append_ne_nil_of_left_ne_nil hpast after)

variable {pool : Pool φ τ} {host : Host} {reached : Nat}

/-- Behind its first read a pass goes on, and a stream serves it. -/
theorem FrontToBack.tail (numbered : Numbered next number)
    (custody : Custody next number pool [] host) (hcapacity : 1 ≤ pool.capacity)
    {position : Nat} {buffer : List UInt8} {rest : List (Nat × List UInt8)}
    (hpass : pool.FrontToBack host reached ((position, buffer) :: rest)) :
    let reading := pool.readAt host position buffer
    Custody next number reading.source [] reading.host ∧ 1 ≤ reading.source.capacity ∧
      exists reached', reading.source.FrontToBack reading.host reached' rest ∧
        (rest ≠ [] -> reading.source.Offers reached') := by
  intro reading
  rcases hpass with ⟨hreached, n, hread, hmore, hrest⟩
  refine ⟨custody.readAt numbered position buffer, ?_, position + n, hrest, ?_⟩
  · rw [(readCourse pool host position buffer).size_eq.2]
    exact hcapacity
  · intro hnext
    exact offers_readAt custody.ordered hcapacity hread (hmore hnext)

/-- As long as a stream serves, a pass leaves the factory alone. -/
theorem pass_of_offers (numbered : Numbered next number)
    (counts : forall (factory : φ) (host : Host),
      asked (StreamFactory.openStream factory host).2.1 = asked factory + 1)
    (custody : Custody next number pool [] host) (hcapacity : 1 ≤ pool.capacity)
    {reads : List (Nat × List UInt8)} (hpass : pool.FrontToBack host reached reads)
    (hoffers : reads ≠ [] -> pool.Offers reached) :
    (pool.pass host reads).1.factory = pool.factory ∧
      exists later, (pool.pass host reads).2.turns = host.turns ++ later ∧
        Turn.openedIn later = [] := by
  induction reads generalizing pool host reached with
  | nil => exact ⟨rfl, [], (List.append_nil _).symm, rfl⟩
  | cons read rest ih =>
      rcases read with ⟨position, buffer⟩
      have hoffered := (hoffers (List.cons_ne_nil _ _)).mono hpass.1
      rw [pass_cons]
      cases takesUp_readAt numbered counts custody.ordered host position buffer with
      | new later hnobody => exact absurd hoffered hnobody
      | parked later hfactory hturns hopened =>
          rcases hpass.tail numbered custody hcapacity with
            ⟨hcustody, hroom, reached', hrest, hnext⟩
          rcases ih hcustody hroom hrest hnext with
            ⟨hfactory', later', hturns', hopened'⟩
          refine ⟨hfactory'.trans hfactory, later ++ later', ?_, ?_⟩
          · rw [hturns', hturns, List.append_assoc]
          · rw [Turn.openedIn_append, hopened, hopened']
            rfl

/-- What a pass does to the factory and to the streams. -/
structure OpensOnce (asked : φ -> Nat) (pool : Pool φ τ) (host : Host)
    (first : Nat × List UInt8) (rest : List (Nat × List UInt8)) : Prop where
  /-- The first read asks the factory once, if at all. -/
  atFirst : asked (pool.pass host [first]).1.factory ≤ asked pool.factory + 1
  /-- No later read asks it. -/
  later : forall past, past <+: rest ->
    (pool.pass host (first :: past)).1.factory = (pool.pass host [first]).1.factory
  /-- If nothing was parked before, then at every moment, reads under way included, at most
  one stream is open. -/
  single : pool.parked = [] -> forall past, host.turns <+: past ->
    past <+: (pool.pass host (first :: rest)).2.turns -> (Turn.openAfter past).length ≤ 1

theorem Custody.opensOnce (numbered : Numbered next number)
    (counts : forall (factory : φ) (host : Host),
      asked (StreamFactory.openStream factory host).2.1 = asked factory + 1)
    (custody : Custody next number pool [] host) (hcapacity : 1 ≤ pool.capacity)
    {first : Nat × List UInt8} {rest : List (Nat × List UInt8)}
    (hpass : pool.FrontToBack host reached (first :: rest)) :
    OpensOnce asked pool host first rest := by
  rcases first with ⟨position, buffer⟩
  have htakes := takesUp_readAt numbered counts custody.ordered host position buffer
  constructor
  · show asked (pool.readAt host position buffer).source.factory ≤ _
    cases htakes with
    | parked later hfactory =>
        rw [hfactory]
        exact Nat.le_succ _
    | new later hnobody hasked => exact Nat.le_of_eq hasked
  · intro past hpast
    have hearlier := hpass.of_prefix ((List.prefix_cons_inj (position, buffer)).mpr hpast)
    rcases hearlier.tail numbered custody hcapacity with
      ⟨hcustody, hroom, reached', hrest, hoffers⟩
    exact (pass_of_offers numbered counts hcustody hroom hrest hoffers).1
  · intro hempty past hstart hpast
    rcases hpass.tail numbered custody hcapacity with
      ⟨hcustody, hroom, reached', hrest, hoffers⟩
    rcases pass_of_offers numbered counts hcustody hroom hrest hoffers with
      ⟨_, later', hturns', hopened'⟩
    rcases htakes.turns with ⟨later, hturns, hopened⟩
    rcases hstart with ⟨earlier, rfl⟩
    rw [pass_cons, hturns', hturns, List.append_assoc, List.prefix_append_right_inj] at hpast
    have hcount : (Turn.openedIn earlier).length ≤ 1 := by
      rcases hpast with ⟨after, hafter⟩
      have hall := congrArg (fun turns => (Turn.openedIn turns).length) hafter
      simp only [Turn.openedIn_append, List.length_append, hopened', List.length_nil] at hall
      omega
    have hnone : (Turn.openAfter host.turns).length = 0 := by
      rw [custody.balanced.openAfter_perm.length_eq, List.nil_append, held_length, hempty]
      rfl
    have hmost := Turn.length_openAfter_append_le host.turns earlier
    omega

/-- Whatever streams and their factory do, and whatever was called before: a pass from front to
back asks the factory for one stream at most, and only with its first read. -/
theorem opensOnce_performAll (factory : φ) (size capacity : Nat) (hcapacity : 1 ≤ capacity)
    (host : Host) (calls : List Call) (first : Nat × List UInt8)
    (rest : List (Nat × List UInt8)) :
    let start : Pool (Tagging (Counting φ)) (Tagged τ) :=
      { factory := { factory := { factory } }, size, capacity }
    let (pool, host) := start.performAll host.cleared calls
    pool.FrontToBack host 0 (first :: rest) ->
      OpensOnce (fun factory => factory.factory.asked) pool host first rest := by
  intro start
  have hstart : Custody Tagging.next Tagged.number start [] host.cleared :=
    Custody.empty _ size capacity rfl
  have hcustody := hstart.performAll Tagged.numbered calls
  have hroom : 1 ≤ (start.performAll host.cleared calls).1.capacity := by
    rw [(performAll_size start host.cleared calls).2]
    exact hcapacity
  intro hpass
  exact hcustody.opensOnce Tagged.numbered Counting.asked_openStream hroom hpass

/-- Readers of six bytes. -/
def sixBytes : Scripted.NumberingFactory (Discarding Scripted.NumberedReader) where
  make number := .ok { reader := { number, data := #[10, 20, 30, 40, 50, 60] } }

/-- A pass over a pool of one stream, where a stream is parked behind the start of the pass.
That stream gives way at the first read. -/
theorem opensOnce_performAll_sixBytes :
    let start : Pool (Tagging (Counting _)) (Tagged (Discarding Scripted.NumberedReader)) :=
      { factory := { factory := { factory := sixBytes } }, size := 6, capacity := 1 }
    let (pool, host) := start.performAll (Host.cleared {}) [.readAt 3 [0]]
    pool.positions = [4] ∧ pool.FrontToBack host 0 [(1, [0, 0]), (3, [0]), (4, [0, 0])] ∧
      OpensOnce (fun factory => factory.factory.asked) pool host (1, [0, 0])
        [(3, [0]), (4, [0, 0])] := by
  intro start
  have hpass : FrontToBack (start.performAll (Host.cleared {}) [.readAt 3 [0]]).1
      (start.performAll (Host.cleared {}) [.readAt 3 [0]]).2 0
      [(1, [0, 0]), (3, [0]), (4, [0, 0])] := by
    refine ⟨by decide, 2, ?_, ?_, by decide, 1, ?_, ?_, by decide, 2, ?_, ?_, trivial⟩
    · cbv
    · intro _
      cbv
    · cbv
    · intro _
      cbv
    · cbv
    · intro hnext
      exact absurd rfl hnext
  refine ⟨by cbv, hpass, ?_⟩
  exact opensOnce_performAll sixBytes 6 1 (Nat.le_refl 1) {} [.readAt 3 [0]] (1, [0, 0])
    [(3, [0]), (4, [0, 0])] hpass

end Pool
end ByteWindow
