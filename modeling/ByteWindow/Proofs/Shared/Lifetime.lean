import ByteWindow.Proofs.Shared.Chronicle
import ByteWindow.Scripted.Listener
import ByteWindow.Scripted.Source

/-!
# The two stages of a shared source

A run of a shared source is a list of turns.  Three things are kept by each turn: it is
answered by the owners that it meets, the count of owners is the number of those who joined
less those who left, and the source is in one of two stages.  Either it is owned, and nobody
was told of anything, or one turn has given it up, and that turn has told everybody who came
before it.
-/

namespace ByteWindow
namespace Shared

open Error

variable {σ α : Type}

inductive Stage (turns : List (OwnerTurn α)) (shared : Shared (Chronicled σ α) α) :
    Prop where
  | owned :
      shared.count ≠ 0 ->
      (forall turn, turn ∈ turns -> turn.owners ≠ 0) ->
      shared.listeners = some (turns.filterMap OwnerTurn.asked?) ->
      shared.source.happenings = [] ->
      Stage turns shared
  | givenUp (before after : List (OwnerTurn α)) (closing : OwnerTurn α)
      (result : Except Error Unit) (answers : List (Except Error Unit)) :
      turns = before ++ closing :: after ->
      (forall turn, turn ∈ before -> turn.owners ≠ 0) ->
      closing.step = .close ∧ closing.owners = 1 ->
      leavesOf closing.answer = leavesOf result ++ answers.flatMap leavesOf ->
      (forall turn, turn ∈ after -> turn.owners = 0) ->
      shared.count = 0 ∧ shared.listeners = none ->
      answers.length = (before.filterMap OwnerTurn.asked?).length ->
      shared.source.happenings =
        .released result ::
          (toldAll (failure? result) (before.filterMap OwnerTurn.asked?) answers ++
            after.filterMap OwnerTurn.toldAtOnce?) ->
      Stage turns shared

variable {shared shared' : Shared (Chronicled σ α) α} {host : Host}
  {turns : List (OwnerTurn α)} {turn : OwnerTurn α} {step : OwnerStep α}
  {answer : Except Error Unit}

theorem forall_mem_concat {P : OwnerTurn α -> Prop}
    (hbefore : forall other, other ∈ turns -> P other) (hturn : P turn) :
    forall other, other ∈ turns ++ [turn] -> P other := by
  intro other hother
  rcases List.mem_append.mp hother with hold | hnew
  · exact hbefore other hold
  · rw [List.mem_singleton.mp hnew]
    exact hturn

theorem filterMap_asked_concat (hnobody : turn.asked? = none) :
    (turns ++ [turn]).filterMap OwnerTurn.asked? = turns.filterMap OwnerTurn.asked? := by
  rw [List.filterMap_append, List.filterMap_cons_none hnobody, List.filterMap_nil,
    List.append_nil]

theorem stage_take_owned (hcount : shared.count ≠ 0)
    (howners : forall turn, turn ∈ turns -> turn.owners ≠ 0)
    (hlisteners : shared.listeners = some (turns.filterMap OwnerTurn.asked?))
    (hquiet : shared.source.happenings = [])
    (hcourse : TakeCourse shared host step answer shared') :
    Stage (turns ++ [{ step, owners := shared.count, answer }]) shared' := by
  have howners' : forall turn,
      turn ∈ turns ++ [({ step, owners := shared.count, answer } : OwnerTurn α)] ->
        turn.owners ≠ 0 := forall_mem_concat howners hcount
  cases hcourse with
  | joined _ =>
      refine .owned (Nat.succ_ne_zero _) howners' ?_ hquiet
      rw [filterMap_asked_concat rfl]
      exact hlisteners
  | left others hmany =>
      refine .owned (Nat.succ_ne_zero _) howners' ?_ hquiet
      rw [filterMap_asked_concat rfl]
      exact hlisteners
  | gaveUp _ source result answers hlast hlength htold hleaves =>
      rw [hlisteners] at hlength htold
      rw [hquiet] at htold
      refine .givenUp turns [] _ result answers rfl howners ⟨rfl, hlast⟩ hleaves ?_
        ⟨rfl, rfl⟩ hlength ?_
      · intro turn hnone
        cases hnone
      · rw [List.filterMap_nil, List.append_nil]
        exact htold
  | refused _ hnobody _ => exact absurd hnobody hcount
  | asked listener listeners hopen =>
      refine .owned hcount howners' ?_ hquiet
      rw [hlisteners] at hopen
      cases hopen
      rw [List.filterMap_append]
      rfl
  | told listener _ source hgone _ =>
      rw [hlisteners] at hgone
      cases hgone

/-- A turn keeps the stage, or it is the one that gives the source up. -/
theorem stage_take (hstage : Stage turns shared)
    (hcourse : TakeCourse shared host step answer shared') :
    Stage (turns ++ [{ step, owners := shared.count, answer }]) shared' := by
  cases hstage with
  | owned hcount howners hlisteners hquiet =>
      exact stage_take_owned hcount howners hlisteners hquiet hcourse
  | givenUp before after closing result answers hturns howners hclosing hleaves hnobody hgone
      hlength htold =>
      -- Whatever is done now comes after the turn that gave the source up.
      have hlater (shared' : Shared (Chronicled σ α) α)
          (hgone' : shared'.count = 0 ∧ shared'.listeners = none)
          (hadded : shared'.source.happenings = shared.source.happenings ++
            [({ step, owners := shared.count, answer } : OwnerTurn α)].filterMap
              OwnerTurn.toldAtOnce?) :
          Stage (turns ++ [{ step, owners := shared.count, answer }]) shared' := by
        refine .givenUp before (after ++ [{ step, owners := shared.count, answer }]) closing
          result answers ?_ howners hclosing hleaves ?_ hgone' hlength ?_
        · rw [hturns, List.append_assoc, List.cons_append]
        · exact forall_mem_concat hnobody hgone.1
        · rw [hadded, htold, List.filterMap_append, List.cons_append, List.append_assoc]
      cases hcourse with
      | joined hcount => exact absurd hgone.1 hcount
      | left others hmany => exact absurd (hgone.1.symm.trans hmany) (Nat.succ_ne_zero _).symm
      | gaveUp _ _ _ _ hlast _ _ _ =>
          exact absurd (hgone.1.symm.trans hlast) Nat.zero_ne_one
      | refused _ _ hstep =>
          refine hlater shared hgone ?_
          rcases hstep with rfl | rfl
          · exact (List.append_nil _).symm
          · exact (List.append_nil _).symm
      | asked listener listeners hopen =>
          rw [hgone.2] at hopen
          cases hopen
      | told listener _ source _ hadded => exact hlater _ hgone hadded

/-- The stage decides whether a listener can still wait. -/
theorem Stage.count_eq_zero_iff (hstage : Stage turns shared) :
    shared.listeners = none <-> shared.count = 0 := by
  cases hstage with
  | owned hcount _ hlisteners _ =>
      constructor
      · intro hnone
        rw [hlisteners] at hnone
        cases hnone
      · intro hnobody
        exact absurd hnobody hcount
  | givenUp _ _ _ _ _ _ _ _ _ _ hgone _ _ =>
      constructor
      · intro _
        exact hgone.1
      · intro _
        exact hgone.2

theorem answered_take (hstage : Stage turns shared)
    (hcourse : TakeCourse shared host step answer shared') :
    OwnerTurn.Answered { step, owners := shared.count, answer } := by
  cases hcourse with
  | joined hcount => exact (if_neg hcount).symm
  | left others hmany =>
      constructor
      · intro hnobody
        exact absurd (hmany.symm.trans hnobody) (Nat.succ_ne_zero _)
      · intro _
        rfl
  | gaveUp _ _ _ _ hlast _ _ _ =>
      constructor
      · intro hnobody
        exact absurd (hnobody.symm.trans hlast) Nat.zero_ne_one
      · intro hmany
        exact absurd hlast (Nat.ne_of_gt hmany)
  | refused _ hnobody hstep =>
      rcases hstep with rfl | rfl
      · exact (if_pos hnobody).symm
      · constructor
        · intro _
          rfl
        · intro hmany
          exact absurd (hnobody ▸ hmany) (Nat.not_lt_zero 1)
  | asked listener listeners hopen =>
      intro _
      rfl
  | told listener _ source hgone _ =>
      intro hcount
      exact absurd (hstage.count_eq_zero_iff.mp hgone) hcount

/-- Joining adds an owner, and leaving takes one away. -/
theorem count_take (hcourse : TakeCourse shared host step answer shared') :
    let turn : OwnerTurn α := { step, owners := shared.count, answer }
    shared'.count + [turn].countP OwnerTurn.leaves =
      shared.count + [turn].countP OwnerTurn.joins := by
  cases hcourse with
  | joined hcount => rfl
  | left others hmany =>
      dsimp only
      rw [hmany]
      rfl
  | gaveUp _ _ _ _ hlast _ _ _ =>
      dsimp only
      rw [hlast]
      cases answer <;> rfl
  | refused _ hnobody hstep =>
      dsimp only
      rw [hnobody]
      rcases hstep with rfl | rfl
      · rfl
      · rfl
  | asked listener listeners hopen => rfl
  | told listener _ source hgone _ => rfl

/-!
## Runs
-/

variable [Releasable σ] [Listener α σ]

theorem count_takeAll (shared : Shared (Chronicled σ α) α) (host : Host)
    (steps : List (OwnerStep α)) :
    let taken := shared.takeAll host steps
    taken.2.1.count + taken.1.countP OwnerTurn.leaves =
      shared.count + taken.1.countP OwnerTurn.joins := by
  induction steps generalizing shared host with
  | nil => rfl
  | cons step rest ih =>
      have hfirst := count_take (takeCourse shared host step)
      have hrest := ih (shared.take host step).2.1 (shared.take host step).2.2
      unfold takeAll
      dsimp only at hfirst hrest ⊢
      rw [List.countP_cons, List.countP_cons]
      rw [List.countP_singleton, List.countP_singleton] at hfirst
      omega

/-- What each turn meets is what the turns before it have left. -/
theorem owners_takeAll (shared : Shared (Chronicled σ α) α) (host : Host)
    (steps : List (OwnerStep α)) {before after : List (OwnerTurn α)}
    (hturns : (shared.takeAll host steps).1 = before ++ turn :: after) :
    turn.owners + before.countP OwnerTurn.leaves =
      shared.count + before.countP OwnerTurn.joins := by
  induction steps generalizing shared host before with
  | nil =>
      cases before with
      | nil => cases hturns
      | cons first before => cases hturns
  | cons step rest ih =>
      unfold takeAll at hturns
      cases before with
      | nil =>
          cases hturns
          rfl
      | cons first before =>
          have hfirst := count_take (takeCourse shared host step)
          rw [List.cons_append] at hturns
          rcases List.cons.inj hturns with ⟨rfl, hothers⟩
          have hrest := ih _ _ hothers
          dsimp only at hfirst
          rw [List.countP_cons, List.countP_cons]
          rw [List.countP_singleton, List.countP_singleton] at hfirst
          omega

theorem answered_takeAll (hstage : Stage turns shared) (host : Host)
    (steps : List (OwnerStep α)) :
    forall turn, turn ∈ (shared.takeAll host steps).1 -> turn.Answered := by
  induction steps generalizing shared host turns with
  | nil =>
      intro turn hnone
      cases hnone
  | cons step rest ih =>
      have hcourse := takeCourse shared host step
      intro turn hturn
      rcases List.mem_cons.mp hturn with rfl | hothers
      · exact answered_take hstage hcourse
      · exact ih (stage_take hstage hcourse) _ turn hothers

theorem stage_takeAll (hstage : Stage turns shared) (host : Host)
    (steps : List (OwnerStep α)) :
    Stage (turns ++ (shared.takeAll host steps).1) (shared.takeAll host steps).2.1 := by
  induction steps generalizing shared host turns with
  | nil =>
      unfold takeAll
      rw [List.append_nil]
      exact hstage
  | cons step rest ih =>
      have hrest := ih (stage_take hstage (takeCourse shared host step))
        (shared.take host step).2.2
      rw [List.append_assoc, List.singleton_append] at hrest
      exact hrest

/-- A run in which everybody is told once. -/
structure ToldOnce (turns : List (OwnerTurn α)) (shared : Shared (Chronicled σ α) α) :
    Prop where
  /-- One owner was there from the start. -/
  count_eq : shared.count + turns.countP OwnerTurn.leaves = 1 + turns.countP OwnerTurn.joins
  owners_eq (before : List (OwnerTurn α)) (turn : OwnerTurn α) (after : List (OwnerTurn α)) :
    turns = before ++ turn :: after ->
      turn.owners + before.countP OwnerTurn.leaves = 1 + before.countP OwnerTurn.joins
  answered : forall turn, turn ∈ turns -> turn.Answered
  stage : Stage turns shared

/-- Whatever the owners of a source do, and whatever fails, the source is released by the last
of them, and everybody who asks to be told of that is told once. -/
theorem toldOnce_takeAll (source : σ) (host : Host) (steps : List (OwnerStep α)) :
    let chronicled := (Shared.new { source } : Shared (Chronicled σ α) α)
    let taken := chronicled.takeAll host steps
    taken.1.map OwnerTurn.step = steps ∧ ToldOnce taken.1 taken.2.1 ∧
      (Shared.new source : Shared σ α).takeAll host steps =
        (taken.1, taken.2.1.forget, taken.2.2) := by
  intro chronicled taken
  have hstart : Stage [] chronicled := by
    refine .owned Nat.one_ne_zero ?_ rfl rfl
    intro turn hnone
    cases hnone
  refine ⟨step_takeAll chronicled host steps, ?_, takeAll_forget chronicled host steps⟩
  constructor
  · exact count_takeAll chronicled host steps
  · intro before turn after hturns
    exact owners_takeAll chronicled host steps hturns
  · exact answered_takeAll hstart host steps
  · exact stage_takeAll hstart host steps

open Scripted in
/-- The release fails, one of two listeners fails, and a third one comes late. -/
example :
    let source : Chronicled Releasing ScriptedListener :=
      { source := { releaseError := some .cancelled } }
    let first : ScriptedListener := { name := "first", failure := some .released }
    let second : ScriptedListener := { name := "second" }
    let late : ScriptedListener := { name := "late", failure := some .released }
    let taken := (Shared.new source).takeAll {}
      [.listen first, .retain, .close, .listen second, .close, .listen late, .close]
    taken.2.1.source.happenings =
        [.released (.error .cancelled), .told first (some .cancelled) (.error .released),
          .told second (some .cancelled) (.ok ()), .told late none (.error .released)] ∧
      (taken.1.map fun turn => turn.owners) = [1, 1, 2, 1, 1, 0, 0] := by
  constructor
  · cbv
  · cbv

end Shared
end ByteWindow
