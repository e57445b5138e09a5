import ByteWindow.Proofs.View.Family
import ByteWindow.Source.Memory

/-!
# Closed views are inert

A view that was closed stays closed, whatever is done with it and with the other views of its
family.  It refuses everything it is asked, in range or not: the source and the sink hear
nothing of it, buffers stay as they were, and nobody joins.

The reason is that the view is released.  Only one request is refused for another reason: the
rest of a view from a position behind its end is out of bounds before anybody looks whether
the view is closed.
-/

namespace ByteWindow

variable {κ σ α : Type}

/-!
## Refusals
-/

/-- The answer of a view that refuses an operation because it is released.  What is asked of a
reader is not asked of the view. -/
def Operation.refusal? : Operation κ -> Option (Answer κ)
  | read _ buffer _ _ _ | readAt _ buffer | readFully _ buffer _ _ _ =>
      some (.counted (.error .released) buffer)
  | readFrom _ _ _ | readAll _ => some (.bytes (.error .released))
  | readByteAt _ => some (.byte (.error .released))
  | transfer _ sink _ => some (.transferred (.error .released) sink)
  | readerRead _ _ | readerReadByte _ | readerSkip _ _ => none

/-- A closed view refuses, and the source and the host stay as they were. -/
theorem Operation.perform_of_refusal [Sink κ] [Source σ] {view : View}
    (hclosed : view.closed = true) (s : σ) (host : Host) {operation : Operation κ}
    {answer : Answer κ} (hrefusal : operation.refusal? = some answer) :
    operation.perform view s host = (answer, s, host) := by
  cases operation with
  | read mode buffer position offset max =>
      cases hrefusal
      simp only [perform, View.read_closed hclosed]
      rfl
  | readAt position buffer =>
      cases hrefusal
      simp only [perform, View.readAt, View.read_closed hclosed]
      rfl
  | readFully mode buffer position offset max =>
      cases hrefusal
      simp only [perform, View.readFully, hclosed, if_true]
      rfl
  | readFrom mode position max =>
      cases hrefusal
      simp only [perform, View.readFrom_closed hclosed]
      rfl
  | readAll mode =>
      cases hrefusal
      simp only [perform, View.readAll, View.readFrom_closed hclosed]
      rfl
  | readByteAt position =>
      cases hrefusal
      simp only [perform, View.readByteAt, hclosed, if_true]
      rfl
  | transfer mode sink bufferSize =>
      cases hrefusal
      simp only [perform, View.transfer_closed hclosed]
      rfl
  | readerRead reader buffer => cases hrefusal
  | readerReadByte reader => cases hrefusal
  | readerSkip reader n => cases hrefusal

namespace View

/-- A view that refuses all that it is asked, over every source, and changes nothing. -/
structure Inert (view : View) : Prop where
  sectionOf : forall (σ α : Type) (shared : Shared σ α) (position length : Nat),
    view.section? shared position length = (.error .released, shared)
  restWithin : forall (σ α : Type) (shared : Shared σ α) (position : Nat),
    position ≤ view.size -> view.sectionFrom? shared position = (.error .released, shared)
  restBehind : forall (σ α : Type) (shared : Shared σ α) (position : Nat),
    view.size < position ->
    view.sectionFrom? shared position =
      (.error (.outOfBounds (.region view.size position 0)), shared)
  perform : forall (κ σ : Type) [Sink κ] [Source σ] (s : σ) (host : Host)
    (operation : Operation κ) (answer : Answer κ), operation.refusal? = some answer ->
    operation.perform view s host = (answer, s, host)

theorem section?_closed {view : View} (hclosed : view.closed = true) (shared : Shared σ α)
    (position length : Nat) :
    view.section? shared position length = (.error .released, shared) := by
  unfold section?
  rw [if_pos hclosed]

theorem inert_of_closed {view : View} (hclosed : view.closed = true) : Inert view where
  sectionOf := by
    intro σ α shared position length
    exact section?_closed hclosed shared position length
  restWithin := by
    intro σ α shared position hposition
    unfold sectionFrom?
    rw [if_pos hposition, section?_closed hclosed]
  restBehind := by
    intro σ α shared position hposition
    unfold sectionFrom?
    rw [if_neg (Nat.not_le_of_lt hposition)]
  perform := by
    intro κ σ _ _ s host operation answer hrefusal
    exact Operation.perform_of_refusal hclosed s host hrefusal

theorem closed_close [Releasable σ] [Listener α σ] (view : View) (shared : Shared σ α)
    (host : Host) : (view.close shared host).2.1.closed = true := by
  cases hclosed : view.closed with
  | true =>
      rw [close_closed hclosed]
      exact hclosed
  | false => rw [close_open hclosed]

end View

/-!
## Closed views stay closed
-/

/-- A step that asks a view for a section or for bytes. -/
def FamilyStep.Asks : FamilyStep κ α -> Prop
  | takeSection _ _ | takeRest _ | ask _ => True
  | listen _ | close | drop => False

namespace Family

variable {family : Family σ α} {number : Nat} {view : View}

theorem isLive_eq_false_iff : isLive (some view) = false <-> view.closed = true := by
  simp [isLive]

/-- The view with a number was closed, or went out of use. -/
def Ended (family : Family σ α) (number : Nat) : Prop :=
  exists last, family.views[number]? = some last ∧ isLive last = false

theorem Ended.closed (ended : family.Ended number) (hview : family.view? number = some view) :
    view.closed = true := by
  rcases ended with ⟨last, hlast, hgone⟩
  rw [views_of_view? hview] at hlast
  cases hlast
  exact isLive_eq_false_iff.mp hgone

/-- Views that join stand behind the others. -/
theorem Ended.append {family' : Family σ α} {joined : List (Option View)}
    (ended : family.Ended number) (hviews : family'.views = family.views ++ joined) :
    family'.Ended number := by
  rcases ended with ⟨last, hlast, hgone⟩
  refine ⟨last, ?_, hgone⟩
  rw [hviews, List.getElem?_append_left (List.getElem?_eq_some_iff.mp hlast).1]
  exact hlast

/-- A view that is closed or dropped ends, and none that has ended comes back. -/
theorem Ended.set {family' : Family σ α} {other : Nat} {last : Option View}
    (ended : family.Ended number ∨ number = other ∧ number < family.views.length)
    (hviews : family'.views = family.views.set other last) (hlast : isLive last = false) :
    family'.Ended number := by
  unfold Ended
  rw [hviews, List.getElem?_set]
  rcases ended with ⟨entry, hentry, hgone⟩ | ⟨rfl, hbound⟩
  · by_cases hsame : other = number
    · have hbound := (List.getElem?_eq_some_iff.mp hentry).1
      rw [if_pos hsame, hsame, if_pos hbound]
      exact ⟨last, rfl, hlast⟩
    · rw [if_neg hsame]
      exact ⟨entry, hentry, hgone⟩
  · rw [if_pos rfl, if_pos hbound]
    exact ⟨last, rfl, hlast⟩

theorem Ended.join (ended : family.Ended number) (result : Except Error View × Shared σ α) :
    (family.join result).Ended number := by
  rcases result with ⟨error | view, shared⟩
  · exact ended
  · exact ended.append rfl

variable [Sink κ] [Source σ] [Listener α σ]

theorem Ended.take (ended : family.Ended number) (other : Nat) (step : FamilyStep κ α) :
    (family.take other step).Ended number := by
  unfold Family.take
  cases family.view? other with
  | none => exact ended
  | some view =>
      cases step with
      | takeSection position length => exact ended.join _
      | takeRest position => exact ended.join _
      | ask operation => exact ended
      | listen listener => exact ended
      | close =>
          refine Ended.set (.inl ended) rfl ?_
          exact isLive_eq_false_iff.mpr (view.closed_close family.shared family.host)
      | drop => exact Ended.set (.inl ended) rfl rfl

theorem Ended.takeAll (ended : family.Ended number) (steps : List (Nat × FamilyStep κ α)) :
    (family.takeAll steps).Ended number := by
  induction steps generalizing family with
  | nil => exact ended
  | cons step rest ih => exact ih (ended.take step.1 step.2)

theorem ended_close (hview : family.view? number = some view) :
    (family.take number (.close : FamilyStep κ α)).Ended number := by
  have hbound := (List.getElem?_eq_some_iff.mp (views_of_view? hview)).1
  unfold Family.take
  rw [hview]
  refine Ended.set (.inr ⟨rfl, hbound⟩) rfl ?_
  exact isLive_eq_false_iff.mpr (view.closed_close family.shared family.host)

/-- Asking a closed view leaves the family as it was: its views, the number of its owners, its
source and its host. -/
theorem take_closed (hview : family.view? number = some view) (hclosed : view.closed = true)
    {step : FamilyStep κ α} (hasks : step.Asks) : family.take number step = family := by
  have hinert := View.inert_of_closed hclosed
  unfold Family.take
  rw [hview]
  cases step with
  | takeSection position length =>
      dsimp only [takeOn]
      rw [hinert.sectionOf σ α]
      rfl
  | takeRest position =>
      dsimp only [takeOn]
      rcases Nat.lt_or_ge view.size position with hbehind | hwithin
      · rw [hinert.restBehind σ α _ _ hbehind]
        rfl
      · rw [hinert.restWithin σ α _ _ hwithin]
        rfl
  | ask operation =>
      have hsame := operation.perform_closed hclosed family.shared.source family.host
      simp only [takeOn, hsame]
  | listen listener => cases hasks
  | close => cases hasks
  | drop => cases hasks

/-- From the moment a view was closed it is inert, whatever is done with the family, and to ask
it changes nothing. -/
theorem inert_after_close (hview : family.view? number = some view)
    (steps : List (Nat × FamilyStep κ α)) :
    let later := (family.take number (.close : FamilyStep κ α)).takeAll steps
    forall view', later.view? number = some view' ->
      view'.Inert ∧
        forall step : FamilyStep κ α, step.Asks -> later.take number step = later := by
  intro later view' hview'
  have hended : later.Ended number := (ended_close (κ := κ) hview).takeAll steps
  have hclosed := hended.closed hview'
  refine ⟨View.inert_of_closed hclosed, ?_⟩
  intro step hasks
  exact take_closed hview' hclosed hasks

/-- The first of two views is closed, and then the other one is read and a section of the first
one is asked for. -/
theorem inert_after_close_sibling :
    let first : View := { offset := 0, size := 3 }
    let family : Family Memory Scripted.ScriptedListener :=
      (start { bytes := #[1, 2, 3] } {} first).take 0
        (.takeSection 1 2 : FamilyStep Scripted.ScriptedSink Scripted.ScriptedListener)
    let steps : List (Nat × FamilyStep Scripted.ScriptedSink Scripted.ScriptedListener) :=
      [(1, .ask (.readByteAt 0)), (0, .takeRest 1)]
    let later := (family.take 0 (.close : FamilyStep Scripted.ScriptedSink _)).takeAll steps
    family.view? 0 = some first ∧ later.live = 1 ∧
      later.view? 0 = some { first with closed := true } ∧
      View.Inert { first with closed := true } ∧
      forall step : FamilyStep Scripted.ScriptedSink Scripted.ScriptedListener,
        step.Asks -> later.take 0 step = later := by
  intro first family steps later
  have hview : family.view? 0 = some first := rfl
  have hlater : later.view? 0 = some { first with closed := true } := rfl
  exact ⟨hview, rfl, hlater, inert_after_close hview steps _ hlater⟩

end Family

/-- A closed view does not say that it is released if it is asked for the rest from behind its
end. -/
theorem View.rest_behind_end_unreleased :
    let bytes : Memory := { bytes := #[1, 2, 3] }
    let closing := View.close { offset := 0, size := 3 }
      (Shared.new bytes : Shared Memory Scripted.ScriptedListener) {}
    let view := closing.2.1
    let shared := closing.2.2.1
    view.closed = true ∧ (view.sectionFrom? shared 4).1 ≠ .error .released := by
  intro bytes closing view shared
  refine ⟨rfl, ?_⟩
  intro hreleased
  cases hreleased

end ByteWindow
