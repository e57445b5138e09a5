import ByteWindow.Error.Basic

/-!
# Every failure in an error

An error can hold others: a primary one, and those that were suppressed onto it.  Each of
these can hold others again.  The leaves of an error are the failures at the bottom, from the
primary one on.

Failures are put together in two ways.  A list of them becomes one error whose first failure
is primary, or they go under an error that is there already.  If that error is a collection,
it grows; if a later failure is a collection, it is kept as one.  The shape depends on the
order in which things failed, but the leaves do not: they are the leaves of all the parts, one
part after the other.
-/

namespace ByteWindow

/-- The error of something that failed. -/
def failure? {ε α : Type} : Except ε α -> Option ε
  | .ok _ => none
  | .error error => some error

theorem eq_error_of_failure? {ε α : Type} {result : Except ε α} {error : ε}
    (h : failure? result = some error) : result = .error error := by
  cases result with
  | ok value => cases h
  | error error => exact congrArg Except.error (Option.some.inj h)

theorem failure?_eq_none_iff {ε : Type} {result : Except ε Unit} :
    failure? result = none <-> result = .ok () := by
  cases result with
  | ok done =>
      cases done
      exact ⟨fun _ => rfl, fun _ => rfl⟩
  | error error =>
      constructor
      · intro h
        cases h
      · intro h
        cases h

namespace Error

mutual

/-- The failures at the bottom of an error, those of its primary error first. -/
def leaves : Error -> List Error
  | multiple primary suppressed => leaves primary ++ leavesOfAll suppressed
  | error => [error]

def leavesOfAll : List Error -> List Error
  | [] => []
  | error :: rest => leaves error ++ leavesOfAll rest

end

theorem leavesOfAll_eq_flatMap (errors : List Error) :
    leavesOfAll errors = errors.flatMap leaves := by
  induction errors with
  | nil => rfl
  | cons error rest ih =>
      unfold leavesOfAll
      rw [ih, List.flatMap_cons]

theorem leaves_multiple (primary : Error) (suppressed : List Error) :
    (multiple primary suppressed).leaves = primary.leaves ++ suppressed.flatMap leaves := by
  rw [leaves, leavesOfAll_eq_flatMap]

theorem leaves_io (cause : IoError) : (io cause).leaves = [io cause] := by
  unfold leaves
  rfl

/-- No error is empty. -/
theorem leaves_ne_nil : forall error : Error, error.leaves ≠ []
  | multiple primary suppressed => by
      rw [leaves_multiple]
      exact List.append_ne_nil_of_left_ne_nil (leaves_ne_nil primary) _
  | outOfBounds _ | unexpectedEof _ _ | io _ | overflow _ _ | released | cancelled => by
      unfold leaves
      exact List.cons_ne_nil _ _

/-- Whether a collection grows or a new one is made, the later failures come last. -/
theorem leaves_suppress (error later : Error) :
    (error.suppress later).leaves = error.leaves ++ later.leaves := by
  cases error with
  | multiple primary suppressed =>
      rw [suppress, leaves_multiple, leaves_multiple, List.flatMap_append,
        List.flatMap_singleton, List.append_assoc]
  | outOfBounds | unexpectedEof | io | overflow | released | cancelled =>
      unfold suppress
      rw [leaves_multiple, List.flatMap_singleton]

theorem leaves_suppressAll (first : Error) (later : List Error) :
    (first.suppressAll later).leaves = first.leaves ++ later.flatMap leaves := by
  induction later generalizing first with
  | nil => exact (List.append_nil _).symm
  | cons next rest ih =>
      rw [suppressAll_cons, ih, leaves_suppress, List.flatMap_cons, List.append_assoc]

/-- All failures of something that went well or did not. -/
def leavesOf (result : Except Error Unit) : List Error :=
  (failure? result).toList.flatMap leaves

theorem leavesOf_error (error : Error) : leavesOf (.error error) = error.leaves :=
  List.append_nil _

theorem leavesOf_eq_nil_iff {result : Except Error Unit} :
    leavesOf result = [] <-> result = .ok () := by
  cases result with
  | ok done =>
      cases done
      exact ⟨fun _ => rfl, fun _ => rfl⟩
  | error error =>
      rw [leavesOf_error]
      constructor
      · intro hnil
        exact absurd hnil (leaves_ne_nil error)
      · intro hok
        cases hok

/-- A list of failures becomes one error and loses none of them. -/
theorem leavesOf_aggregate (errors : List Error) :
    leavesOf (aggregate errors) = errors.flatMap leaves := by
  cases errors with
  | nil => rfl
  | cons first later =>
      rw [aggregate_cons, leavesOf_error, leaves_suppressAll, List.flatMap_cons]

/-- The failures among several results are the failures of each of them in turn. -/
theorem flatMap_leavesOf (results : List (Except Error Unit)) :
    (results.filterMap failure?).flatMap leaves = results.flatMap leavesOf := by
  induction results with
  | nil => rfl
  | cons result rest ih =>
      rw [List.flatMap_cons, ← ih]
      cases result with
      | ok done => rfl
      | error error =>
          have hfailed : failure? (Except.error error : Except Error Unit) = some error := rfl
          rw [leavesOf_error, List.filterMap_cons_some hfailed, List.flatMap_cons]

end Error
end ByteWindow
