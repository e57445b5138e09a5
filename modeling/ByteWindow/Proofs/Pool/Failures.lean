import ByteWindow.Proofs.Pool.Safekeeping
import ByteWindow.Proofs.Shared.Telling
import ByteWindow.Scripted.Listener
import ByteWindow.Scripted.Stream

/-!
# Every failure of a pool is reported

A pool closes streams that can fail to close.  If a read fails, the stream that failed is
closed, and the failure to close it goes under that of the read.  If the last owner leaves,
every parked stream is closed and every listener is told, and all that fails on the way ends
up in the one answer that this owner gets.  The leaves of that answer are the failures of the
streams, by position, and then those of the listeners, in the order in which they asked.
-/

namespace ByteWindow
namespace Pool

open Error

variable {φ τ α : Type}

/-!
## Streams that fail to close
-/

section Closing

variable [Stream τ]

/-- How parked streams close, one after the other, each with its position. -/
def closings : List (Nat × τ) -> Host -> List (Nat × Except IoError Unit)
  | [], _ => []
  | (position, stream) :: rest, host =>
      let closed := Stream.close stream host
      (position, closed.1) :: closings rest closed.2

def closeFailure? (closing : Nat × Except IoError Unit) : Option (Nat × IoError) :=
  (failure? closing.2).map (closing.1, ·)

/-- The failures of parked streams to close, each with its position. -/
def closeFailures (parked : List (Nat × τ)) (host : Host) : List (Nat × IoError) :=
  (closings parked host).filterMap closeFailure?

theorem positions_closings (parked : List (Nat × τ)) (host : Host) :
    (closings parked host).map Prod.fst = parked.map Prod.fst := by
  induction parked generalizing host with
  | nil => rfl
  | cons entry rest ih =>
      unfold closings
      rw [List.map_cons, List.map_cons, ih]

theorem closeFailures_cons (position : Nat) (stream : τ) (rest : List (Nat × τ))
    (host : Host) :
    closeFailures ((position, stream) :: rest) host =
      ((failure? (Stream.close stream host).1).map (position, ·)).toList ++
        closeFailures rest (Stream.close stream host).2 := by
  have hcons : closings ((position, stream) :: rest) host =
      (position, (Stream.close stream host).1) ::
        closings rest (Stream.close stream host).2 := rfl
  unfold closeFailures
  rw [hcons, ← List.singleton_append, List.filterMap_append]
  cases (Stream.close stream host).1 with
  | ok done => rfl
  | error cause => rfl

/-- A failure counts at the position where its stream was parked. -/
theorem sublist_closeFailures (parked : List (Nat × τ)) (host : Host) :
    ((closeFailures parked host).map Prod.fst).Sublist (parked.map Prod.fst) := by
  induction parked generalizing host with
  | nil => exact List.Sublist.refl _
  | cons entry rest ih =>
      rw [closeFailures_cons, List.map_cons]
      cases (Stream.close entry.2 host).1 with
      | ok done => exact (ih _).cons _
      | error cause => exact (ih _).cons_cons _

theorem ascending_closeFailures {parked : List (Nat × τ)} (hordered : Ordered parked)
    (host : Host) :
    (closeFailures parked host).Pairwise fun earlier later => earlier.1 < later.1 := by
  have hpositions : (parked.map Prod.fst).Pairwise (· < ·) := List.pairwise_map.mpr hordered
  exact List.pairwise_map.mp (hpositions.sublist (sublist_closeFailures parked host))

theorem closeFailures_eq_nil_iff (parked : List (Nat × τ)) (host : Host) :
    closeFailures parked host = [] <->
      forall closing, closing ∈ closings parked host -> closing.2 = .ok () := by
  unfold closeFailures
  rw [List.filterMap_eq_nil_iff]
  refine forall_congr' fun closing => imp_congr_right fun _ => ?_
  unfold closeFailure?
  rw [Option.map_eq_none_iff, failure?_eq_none_iff]

/-- Closing everything collects the failures in the order of the streams. -/
theorem errors_closeAll (parked : List (Nat × τ)) (host : Host) :
    (closeAll (parked.map Prod.snd) host).1 =
      (closeFailures parked host).map fun failure => .io failure.2 := by
  induction parked generalizing host with
  | nil => rfl
  | cons entry rest ih =>
      rw [closeFailures_cons, List.map_cons]
      unfold closeAll
      cases hclosed : Stream.close entry.2 host with
      | mk result left =>
          cases result with
          | ok done => exact ih left
          | error cause => exact congrArg (Error.io cause :: ·) (ih left)

theorem leaves_closeFailures (failures : List (Nat × IoError)) :
    (failures.map fun failure => Error.io failure.2).flatMap leaves =
      failures.map fun failure => .io failure.2 := by
  induction failures with
  | nil => rfl
  | cons failure rest ih =>
      rw [List.map_cons, List.flatMap_cons, ih, leaves_io]
      rfl

end Closing

/-!
## The order of parked streams
-/

section Order

variable [Stream τ] [StreamFactory φ τ] {pool pool' : Pool φ τ} {host host' : Host}
  {position : Nat}

omit [Stream τ] in
theorem CheckOutCourse.ordered {result : Except Error (Nat × τ)}
    (hordered : Ordered pool.parked)
    (h : CheckOutCourse pool host position (result, pool', host')) : Ordered pool'.parked := by
  cases h with
  | reused htake =>
      rcases takeFloor_some htake hordered with ⟨before, after, hparked, hrest, _, _⟩
      rw [hparked] at hordered
      rw [hrest]
      exact ordered_without hordered
  | opened htake hopen => exact hordered
  | refused htake hopen => exact hordered

omit [StreamFactory φ τ] in
theorem ordered_park (hordered : Ordered pool.parked) (host : Host) (position : Nat)
    (stream : τ) : Ordered (pool.park host position stream).1.parked :=
  (ordered_putIn position stream hordered).sublist (List.take_sublist _ _)

theorem Call.ordered_perform (hordered : Ordered pool.parked) (host : Host) (call : Call) :
    Ordered (call.perform pool host).1.parked := by
  cases call with
  | readAt position buffer =>
      show Ordered (pool.readAt host position buffer).source.parked
      have hcourse := readCourse pool host position buffer
      generalize pool.readAt host position buffer = reading at hcourse ⊢
      cases hcourse with
      | refused hcheck => exact hcheck.ordered hordered
      | failed hcheck => exact hcheck.ordered hordered
      | ended hcheck => exact hcheck.ordered hordered
      | finished hcheck => exact hcheck.ordered hordered
      | @parked _ _ stream' _ _ host₂ _ hcheck =>
          exact ordered_park (hcheck.ordered hordered) host₂ _ stream'
  | release => exact List.Pairwise.nil

/-- Whatever was called before, the streams are parked in order. -/
theorem ordered_performAll (hordered : Ordered pool.parked) (host : Host)
    (calls : List Call) : Ordered (pool.performAll host calls).1.parked := by
  induction calls generalizing pool host with
  | nil => exact hordered
  | cons call rest ih => exact ih (call.ordered_perform hordered host) _

end Order

/-!
## What is reported
-/

section Reports

variable [Stream τ] [StreamFactory φ τ]

omit [StreamFactory φ τ] in
theorem leavesOf_release (pool : Pool φ τ) (host : Host) :
    leavesOf (pool.release host).1 =
      (closeFailures pool.parked host).map fun failure => .io failure.2 := by
  have hanswer : (pool.release host).1 =
      aggregate (closeAll (pool.parked.map Prod.snd) host).1 := rfl
  rw [hanswer, leavesOf_aggregate, errors_closeAll, leaves_closeFailures]

/-- The close of the last owner of a pool reports every failure once and in order. -/
structure ReportsAll [Listener α (Pool φ τ)] (shared : Shared (Pool φ τ) α) (host : Host) :
    Prop where
  /-- Every parked stream is closed in its turn, and every listener is told in its turn. -/
  everyStream :
    (closings shared.source.parked (host.note .releasing)).map Prod.fst =
      shared.source.positions
  everyListener : (shared.farewells host).length = (shared.listeners.getD []).length
  ok_iff :
    (shared.close host).1 = .ok () <->
      (forall closing, closing ∈ closings shared.source.parked (host.note .releasing) ->
        closing.2 = .ok ()) ∧
      forall answer, answer ∈ shared.farewells host -> answer = .ok ()
  leaves_eq :
    leavesOf (shared.close host).1 =
      (closeFailures shared.source.parked (host.note .releasing)).map
          (fun failure => .io failure.2) ++
        (shared.farewells host).flatMap leavesOf
  ascending :
    (closeFailures shared.source.parked (host.note .releasing)).Pairwise
      fun earlier later => earlier.1 < later.1

/-- A read that fails reports its failure and that of the stream to close. -/
def ReportsBoth (pool : Pool φ τ) (host : Host) (position : Nat) (buffer : List UInt8) :
    Prop :=
  forall start stream pool' host₁ error stream' host₂,
    pool.checkOut host position = (.ok (start, stream), pool', host₁) ->
    readCheckedOut start position buffer.length stream host₁ =
      (.error error, stream', host₂) ->
    exists reported,
      (pool.readAt host position buffer).outcome = .error reported ∧
        reported.leaves =
          error.leaves ++ (failure? (Stream.close stream' host₂).1).toList.map .io

omit [StreamFactory φ τ] in
theorem leaves_closeFailed (error : Error) (stream : τ) (host : Host) :
    (closeFailed error stream host).1.leaves =
      error.leaves ++ (failure? (Stream.close stream host).1).toList.map .io := by
  unfold closeFailed
  cases Stream.close stream host with
  | mk result left =>
      cases result with
      | ok done => exact (List.append_nil _).symm
      | error cause =>
          dsimp only
          rw [leaves_suppress, leaves_io]
          rfl

theorem reportsBoth (pool : Pool φ τ) (host : Host) (position : Nat) (buffer : List UInt8) :
    pool.ReportsBoth host position buffer := by
  intro start stream pool' host₁ error stream' host₂ hcheck hread
  refine ⟨_, ?_, leaves_closeFailed error stream' host₂⟩
  rw [readAt_failed hcheck hread]
  rfl

variable [Listener α (Pool φ τ)] {shared : Shared (Pool φ τ) α}

theorem leavesOf_close (hlast : shared.count = 1) (host : Host) :
    leavesOf (shared.close host).1 =
      (closeFailures shared.source.parked (host.note .releasing)).map
          (fun failure => .io failure.2) ++
        (shared.farewells host).flatMap leavesOf := by
  have hgiveUp : shared.close host = shared.giveUp host := by
    unfold Shared.close
    rw [hlast]
  rw [hgiveUp, Shared.leavesOf_giveUp]
  exact congrArg (· ++ _) (leavesOf_release shared.source (host.note .releasing))

theorem reportsAll (hlast : shared.count = 1) (hordered : Ordered shared.source.parked)
    (host : Host) : ReportsAll shared host := by
  constructor
  · exact positions_closings shared.source.parked _
  · exact Shared.length_tellings ..
  · rw [← leavesOf_eq_nil_iff, leavesOf_close hlast, List.append_eq_nil_iff,
      List.map_eq_nil_iff, closeFailures_eq_nil_iff, List.flatMap_eq_nil_iff]
    refine and_congr_right fun _ => ?_
    exact forall_congr' fun answer => imp_congr_right fun _ => leavesOf_eq_nil_iff
  · exact leavesOf_close hlast host
  · exact ascending_closeFailures hordered _

/-- However a pool was used before, its last owner hears of every failure. -/
theorem reportsAll_performAll (factory : φ) (size capacity : Nat) (host : Host)
    (calls : List Call) (listeners : Option (List α)) :
    let start : Pool φ τ := { factory, size, capacity }
    let used := start.performAll host calls
    ReportsAll { count := 1, listeners, source := used.1 } used.2 := by
  intro start used
  have hstart : Ordered start.parked := List.Pairwise.nil
  exact reportsAll rfl (ordered_performAll hstart host calls) used.2

/-- No failure is lost, doubled or moved: not by the close that gives a pool up, not by a read
that fails, and not where failures are put together. -/
theorem noFailureLost (hlast : shared.count = 1) (hordered : Ordered shared.source.parked)
    (host : Host) :
    ReportsAll shared host ∧
      (forall (pool : Pool φ τ) host position buffer, pool.ReportsBoth host position buffer) ∧
      (forall errors, leavesOf (aggregate errors) = errors.flatMap leaves) ∧
      forall error later : Error,
        (error.suppress later).leaves = error.leaves ++ later.leaves := by
  exact ⟨reportsAll hlast hordered host, reportsBoth, leavesOf_aggregate, leaves_suppress⟩

end Reports

/-!
## Two streams and two listeners
-/

open Scripted

/-- A stream that fails to read, and to close. -/
def brokenStream (number : Nat) : NumberedStream :=
  { number, data := #[], reads := [.fail (.ofCode 5)], closeError := some (.ofCode number) }

/-- A pool with two broken streams, and two listeners of whom one fails in two ways. -/
def failingPool : Shared (Pool (NumberingFactory NumberedStream) NumberedStream)
    ScriptedListener :=
  { count := 1
    listeners := some [
      { name := "calm" },
      { name := "torn", failure := some (.multiple .released [.cancelled]) }]
    source := {
      factory := { make := fun number => .ok (brokenStream number) }
      size := 8
      capacity := 2
      parked := [(2, brokenStream 28), (5, brokenStream 32)] } }

theorem noFailureLost_failingPool :
    leavesOf (failingPool.close {}).1 =
        [.io (.ofCode 28), .io (.ofCode 32), .released, .cancelled] ∧
      exists reported,
        (failingPool.source.readAt {} 2 [0]).outcome = .error reported ∧
          reported.leaves = [.io (.ofCode 5), .io (.ofCode 28)] := by
  have hordered : Ordered failingPool.source.parked := by
    unfold Ordered
    decide
  rcases noFailureLost rfl hordered {} with ⟨hclose, hread, _⟩
  constructor
  · rw [hclose.leaves_eq]
    rfl
  · have hfailed : readCheckedOut 2 2 1 (brokenStream 28)
        (({} : Host).note (.reusingStream 2 2)) =
          (.error (.io (.ofCode 5)), { brokenStream 28 with reads := [] },
            (({} : Host).note (.reusingStream 2 2)).record (.streamRead 28 1 .failed)) := by
      unfold readCheckedOut skipFully
      rw [Nat.sub_self, skipRemaining]
      rfl
    exact hread failingPool.source {} 2 [0] _ _ _ _ _ _ _ rfl hfailed

end Pool
end ByteWindow
