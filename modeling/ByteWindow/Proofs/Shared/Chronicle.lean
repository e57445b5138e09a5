import ByteWindow.Proofs.Shared.Telling

/-!
# Everybody is told once

Owners join and leave a shared source, and listeners ask to be told of its end.  To see what
comes of it, the source keeps a chronicle: when it was released, and which listener was told
what and answered what.  The life of a shared source has two stages.  While there are owners
the chronicle is empty.  The close that takes the last owner away opens it with the release,
and with all listeners who had asked by then, in order.  From then on only a listener who asks
late gets into it, and nobody gets into it twice.
-/

namespace ByteWindow

/-!
## The chronicle of a source
-/

/-- What can happen to a source: it is released, or a listener is told of that. -/
inductive Happening (α : Type)
  | released (result : Except Error Unit)
  | told (listener : α) (cause : Option Error) (answer : Except Error Unit)

/-- A source with all that happened to it. -/
structure Chronicled (σ α : Type) where
  source : σ
  happenings : List (Happening α) := []

namespace Chronicled

variable {σ α : Type}

def after (s : Chronicled σ α) (source : σ) (happening : Happening α) : Chronicled σ α :=
  { source, happenings := s.happenings ++ [happening] }

instance [Releasable σ] : Releasable (Chronicled σ α) where
  release s host :=
    match Releasable.release s.source host with
    | (result, source, host) => (result, s.after source (.released result), host)

-- Listeners who can be told by any source are told by the source inside as well.
instance (priority := high) [Listener α σ] : Listener α (Chronicled σ α) where
  notify listener cause s host :=
    match Listener.notify listener cause s.source host with
    | (answer, source, host) => (answer, s.after source (.told listener cause answer), host)

end Chronicled

namespace Shared

variable {σ α : Type}

/-- The listeners that were told, with their answers. -/
def toldAll (cause : Option Error) (listeners : List α) (answers : List (Except Error Unit)) :
    List (Happening α) :=
  List.zipWith (fun listener answer => .told listener cause answer) listeners answers

def forget (shared : Shared (Chronicled σ α) α) : Shared σ α :=
  { shared with source := shared.source.source }

section Told

variable [Listener α σ]

theorem happenings_notifyAll (cause : Option Error) (listeners : List α)
    (s : Chronicled σ α) (host : Host) :
    (notifyAll cause listeners s host).2.1.happenings =
      s.happenings ++ toldAll cause listeners (tellings cause listeners s host) := by
  induction listeners generalizing s host with
  | nil => exact (List.append_nil _).symm
  | cons listener rest ih =>
      have htold : (Listener.notify listener cause s host).2.1.happenings =
          s.happenings ++
            [.told listener cause (Listener.notify listener cause s host).1] := rfl
      unfold notifyAll tellings
      cases hnotify : Listener.notify listener cause s host with
      | mk answer left =>
          rw [hnotify] at htold
          have hrest := ih left.1 left.2
          rw [htold, List.append_assoc] at hrest
          cases answer with
          | ok done => exact hrest
          | error error => exact hrest

/-- The chronicle makes no difference to the listeners. -/
theorem notifyAll_chronicled (cause : Option Error) (listeners : List α)
    (s : Chronicled σ α) (host : Host) :
    notifyAll cause listeners s.source host =
      let told := notifyAll cause listeners s host
      (told.1, told.2.1.source, told.2.2) := by
  induction listeners generalizing s host with
  | nil => rfl
  | cons listener rest ih =>
      unfold notifyAll
      have hplain : Listener.notify listener cause s.source host =
          let told := Listener.notify listener cause s host
          (told.1, told.2.1.source, told.2.2) := rfl
      rw [hplain]
      cases Listener.notify listener cause s host with
      | mk answer left =>
          have hrest := ih left.1 left.2
          cases answer with
          | ok done => exact hrest
          | error error =>
              dsimp only
              rw [hrest]

end Told

variable [Releasable σ] [Listener α σ]

theorem happenings_giveUp (shared : Shared (Chronicled σ α) α) (host : Host) :
    (shared.giveUp host).2.1.source.happenings =
      shared.source.happenings ++
        let result := (Releasable.release shared.source (host.note .releasing)).1
        .released result ::
          toldAll (failure? result) (shared.listeners.getD []) (shared.farewells host) := by
  have hreleased : (Releasable.release shared.source (host.note .releasing)).2.1.happenings =
      shared.source.happenings ++
        [.released (Releasable.release shared.source (host.note .releasing)).1] := rfl
  unfold giveUp farewells
  cases hrelease : Releasable.release shared.source (host.note .releasing) with
  | mk result left =>
      rw [hrelease] at hreleased
      have htold := happenings_notifyAll (failure? result) (shared.listeners.getD [])
        left.1 left.2
      rw [hreleased, List.append_assoc] at htold
      cases result with
      | ok done => exact htold
      | error error => exact htold

theorem giveUp_forget (shared : Shared (Chronicled σ α) α) (host : Host) :
    shared.forget.giveUp host =
      let left := shared.giveUp host
      (left.1, left.2.1.forget, left.2.2) := by
  have hplain : Releasable.release shared.forget.source (host.note .releasing) =
      let released := Releasable.release shared.source (host.note .releasing)
      (released.1, released.2.1.source, released.2.2) := rfl
  unfold giveUp
  rw [hplain]
  cases Releasable.release shared.source (host.note .releasing) with
  | mk result left =>
      cases result with
      | ok done =>
          dsimp only
          rw [notifyAll_chronicled]
          rfl
      | error error =>
          dsimp only
          rw [notifyAll_chronicled]
          rfl

end Shared

/-!
## Turns
-/

inductive OwnerStep (α : Type)
  | retain
  | close
  | listen (listener : α)

/-- A step that was taken: how many owners there were before it, and what it answered. -/
structure OwnerTurn (α : Type) where
  step : OwnerStep α
  owners : Nat
  answer : Except Error Unit

namespace OwnerTurn

variable {α : Type}

/-- Whether an owner was added. -/
def joins : OwnerTurn α -> Bool
  | { step := .retain, answer := .ok (), .. } => true
  | _ => false

/-- Whether an owner was taken away. -/
def leaves : OwnerTurn α -> Bool
  | { step := .close, owners := _ + 1, .. } => true
  | _ => false

/-- The listener who asked to be told. -/
def asked? (turn : OwnerTurn α) : Option α :=
  match turn.step with
  | .listen listener => some listener
  | _ => none

/-- The listener who is told at once, with its answer. -/
def toldAtOnce? (turn : OwnerTurn α) : Option (Happening α) :=
  turn.asked?.map fun listener => .told listener none turn.answer

/-- A turn is answered by the owners that it meets.  What the last owner hears depends on the
release, and a listener who comes late hears what it answered itself. -/
def Answered (turn : OwnerTurn α) : Prop :=
  match turn.step with
  | .retain => turn.answer = if turn.owners = 0 then .error .released else .ok ()
  | .close =>
      (turn.owners = 0 -> turn.answer = .error .released) ∧
        (1 < turn.owners -> turn.answer = .ok ())
  | .listen _ => turn.owners ≠ 0 -> turn.answer = .ok ()

end OwnerTurn

namespace Shared

variable {σ α : Type} [Releasable σ] [Listener α σ]

def take (shared : Shared σ α) (host : Host) :
    OwnerStep α -> Except Error Unit × Shared σ α × Host
  | .retain => (shared.retain.1, shared.retain.2, host)
  | .close => shared.close host
  | .listen listener => shared.listen listener host

def takeAll (shared : Shared σ α) (host : Host) :
    List (OwnerStep α) -> List (OwnerTurn α) × Shared σ α × Host
  | [] => ([], shared, host)
  | step :: rest =>
      let taken := shared.take host step
      let others := takeAll taken.2.1 taken.2.2 rest
      ({ step, owners := shared.count, answer := taken.1 } :: others.1, others.2)

theorem take_forget (shared : Shared (Chronicled σ α) α) (host : Host) (step : OwnerStep α) :
    shared.forget.take host step =
      let taken := shared.take host step
      (taken.1, taken.2.1.forget, taken.2.2) := by
  cases step with
  | retain =>
      unfold take retain
      by_cases hcount : shared.count = 0
      · have hcount' : shared.forget.count = 0 := hcount
        rw [if_pos hcount, if_pos hcount']
      · have hcount' : shared.forget.count ≠ 0 := hcount
        rw [if_neg hcount, if_neg hcount']
        rfl
  | close =>
      show shared.forget.close host = _
      unfold take close
      have hcount : shared.forget.count = shared.count := rfl
      rw [hcount]
      cases shared.count with
      | zero => rfl
      | succ n =>
          cases n with
          | zero => exact giveUp_forget shared host
          | succ n => rfl
  | listen listener =>
      show shared.forget.listen listener host = _
      unfold take listen
      have hlisteners : shared.forget.listeners = shared.listeners := rfl
      rw [hlisteners]
      cases shared.listeners with
      | none => rfl
      | some listeners => rfl

/-- The chronicle makes no difference to anything else. -/
theorem takeAll_forget (shared : Shared (Chronicled σ α) α) (host : Host)
    (steps : List (OwnerStep α)) :
    shared.forget.takeAll host steps =
      let taken := shared.takeAll host steps
      (taken.1, taken.2.1.forget, taken.2.2) := by
  induction steps generalizing shared host with
  | nil => rfl
  | cons step rest ih =>
      unfold takeAll
      rw [take_forget]
      dsimp only
      rw [ih]
      rfl

theorem step_takeAll (shared : Shared σ α) (host : Host) (steps : List (OwnerStep α)) :
    (shared.takeAll host steps).1.map OwnerTurn.step = steps := by
  induction steps generalizing shared host with
  | nil => rfl
  | cons step rest ih =>
      unfold takeAll
      rw [List.map_cons, ih]

/-!
## What a step can do
-/

/-- The six things that can come of a step. -/
inductive TakeCourse (shared : Shared (Chronicled σ α) α) (host : Host) :
    OwnerStep α -> Except Error Unit -> Shared (Chronicled σ α) α -> Prop where
  | joined :
      shared.count ≠ 0 ->
      TakeCourse shared host .retain (.ok ()) { shared with count := shared.count + 1 }
  | left (others : Nat) :
      shared.count = others + 2 ->
      TakeCourse shared host .close (.ok ()) { shared with count := others + 1 }
  /-- The last owner leaves. -/
  | gaveUp (answer : Except Error Unit) (source : Chronicled σ α)
      (result : Except Error Unit) (answers : List (Except Error Unit)) :
      shared.count = 1 ->
      answers.length = (shared.listeners.getD []).length ->
      source.happenings = shared.source.happenings ++
        .released result :: toldAll (failure? result) (shared.listeners.getD []) answers ->
      Error.leavesOf answer = Error.leavesOf result ++ answers.flatMap Error.leavesOf ->
      TakeCourse shared host .close answer { count := 0, listeners := none, source }
  /-- Nobody is there to be joined or to leave. -/
  | refused (step : OwnerStep α) :
      shared.count = 0 -> step = .retain ∨ step = .close ->
      TakeCourse shared host step (.error .released) shared
  | asked (listener : α) (listeners : List α) :
      shared.listeners = some listeners ->
      TakeCourse shared host (.listen listener) (.ok ())
        { shared with listeners := some (listeners ++ [listener]) }
  /-- A listener who asks too late is told at once. -/
  | told (listener : α) (answer : Except Error Unit) (source : Chronicled σ α) :
      shared.listeners = none ->
      source.happenings = shared.source.happenings ++ [.told listener none answer] ->
      TakeCourse shared host (.listen listener) answer { shared with source }

theorem giveUp_gone (shared : Shared σ α) (host : Host) :
    (shared.giveUp host).2.1 =
      { count := 0, listeners := none, source := (shared.giveUp host).2.1.source } := by
  unfold giveUp
  cases Releasable.release shared.source (host.note .releasing) with
  | mk result left =>
      cases result with
      | ok done => rfl
      | error error => rfl

theorem takeCourse (shared : Shared (Chronicled σ α) α) (host : Host) (step : OwnerStep α) :
    TakeCourse shared host step (shared.take host step).1 (shared.take host step).2.1 := by
  cases step with
  | retain =>
      show TakeCourse shared host .retain shared.retain.1 shared.retain.2
      unfold retain
      by_cases hcount : shared.count = 0
      · rw [if_pos hcount]
        exact .refused _ hcount (.inl rfl)
      · rw [if_neg hcount]
        exact .joined hcount
  | close =>
      show TakeCourse shared host .close (shared.close host).1 (shared.close host).2.1
      unfold close
      split
      · rename_i hnobody
        exact .refused _ hnobody (.inr rfl)
      · rename_i hlast
        rw [giveUp_gone]
        exact .gaveUp _ _ _ (shared.farewells host) hlast (length_tellings ..)
          (happenings_giveUp shared host) (leavesOf_giveUp shared host)
      · rename_i others hmany
        exact .left others hmany
  | listen listener =>
      show TakeCourse shared host (.listen listener) (shared.listen listener host).1
        (shared.listen listener host).2.1
      unfold listen
      split
      · rename_i listeners hopen
        exact .asked listener listeners hopen
      · rename_i hgone
        exact .told listener _ _ hgone rfl

end Shared
end ByteWindow
