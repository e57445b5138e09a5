import ByteWindow.Proofs.View.Family
import ByteWindow.Source.Memory

/-!
# The last view releases the source

Whatever is done with the views of a family, and in whatever order: the number of owners is
the number of views that are neither closed nor gone, and the source is released once, by
the view that leaves last.  After that nobody asks it for anything.
-/

namespace ByteWindow
namespace Family

variable {κ σ α : Type}

/-!
## The invariant
-/

/-- The two counts agree, and the source was released if and only if nobody is left. -/
structure WellKept (family : Family (Logged σ) α) : Prop where
  count_eq : family.shared.count = family.live
  unreleased : family.live ≠ 0 -> .release ∉ family.calls
  released : family.live = 0 ->
    exists earlier, family.calls = earlier ++ [.release] ∧ .release ∉ earlier

namespace WellKept

variable {family family' : Family (Logged σ) α} {leaves : Prop}

theorem start (source : σ) (host : Host) {view : View} (hopen : view.closed = false) :
    WellKept (start ({ source } : Logged σ) host view : Family (Logged σ) α) := by
  have hlive := live_start (α := α) ({ source } : Logged σ) host hopen
  constructor
  · exact hlive.symm
  · intro _ hreleased
    cases hreleased
  · intro hnobody
    rw [hlive] at hnobody
    cases hnobody

/-- Every course of a step keeps the family in order. -/
theorem step (wellKept : WellKept family) (hcourse : TakeCourse family family' leaves) :
    WellKept family' := by
  have hcount := wellKept.count_eq
  cases hcourse with
  | stayed _hleaves hlive hcount' hgrown hnobody =>
      constructor
      · rw [hcount', hcount, hlive]
      · intro hsome hreleased
        rcases hgrown with ⟨later, hlater, hallowed⟩
        unfold calls at hreleased
        rw [hlater] at hreleased
        rw [hlive] at hsome
        -- A release in the log is an old one or a new one; neither is possible.
        rcases List.mem_append.mp hreleased with hearlier | hnow
        · exact wellKept.unreleased hsome hearlier
        · exact hallowed _ hnow rfl
      · intro hnone
        rw [hlive] at hnone
        rw [hnobody hnone]
        exact wellKept.released hnone
  | joined _hleaves hsome hlive hcount' hcalls =>
      constructor
      · rw [hcount', hcount, hlive]
      · intro _
        rw [hcalls]
        exact wellKept.unreleased hsome
      · intro hnone
        rw [hlive] at hnone
        cases hnone
  | left _hleaves hsome hlive hcount' hcalls =>
      -- The shared count tells the last view from the others.
      by_cases hlast : family.shared.count = 1
      · rw [if_pos hlast] at hcalls
        have hnone : family'.live = 0 := by omega
        constructor
        · rw [hcount', hcount, hlive]
        · intro hsome'
          exact absurd hnone hsome'
        · intro _
          exact ⟨family.calls, hcalls, wellKept.unreleased hsome⟩
      · rw [if_neg hlast] at hcalls
        constructor
        · rw [hcount', hcount, hlive]
        · intro _
          rw [hcalls]
          exact wellKept.unreleased hsome
        · intro hnone
          omega

variable [Sink κ] [Source σ] [Listener α σ]

theorem course (wellKept : WellKept family) (number : Nat) (step : FamilyStep κ α) :
    TakeCourse family (family.take number step) (family.Leaves number step) := by
  unfold take
  cases hview : family.view? number with
  | none =>
      refine .same ?_ rfl rfl rfl
      intro hleaves
      rcases hleaves.2 with ⟨view, hsome, _hopen⟩
      rw [hview] at hsome
      cases hsome
  | some view =>
      refine takeOn_course family hview ?_ step
      rw [wellKept.count_eq]
      exact id

theorem takeAll (wellKept : WellKept family) (steps : List (Nat × FamilyStep κ α)) :
    WellKept (family.takeAll steps) := by
  induction steps generalizing family with
  | nil => exact wellKept
  | cons step rest ih => exact ih (wellKept.step (wellKept.course step.1 step.2))

end WellKept

/-!
## What holds after every step
-/

/-- The state of a family.  The owners are the live views, a view can be used as long as it
is not closed, and the source is released exactly when no live view is left: once, and
nothing is asked of it afterwards. -/
structure InOrder (family : Family (Logged σ) α) : Prop where
  count_eq : family.shared.count = family.live
  isOpen : forall number view, family.view? number = some view ->
    view.isOpen family.shared = !view.closed
  released_iff : .release ∈ family.calls <-> family.live = 0
  releasedLast : .release ∈ family.calls ->
    exists earlier, family.calls = earlier ++ [.release] ∧ .release ∉ earlier

/-- The next step.  If it takes the last live view away, the source is released; otherwise
it is not. -/
structure NextInOrder [Sink κ] [Source σ] [Listener α σ] (family : Family (Logged σ) α)
    (number : Nat) (step : FamilyStep κ α) : Prop where
  last : family.Leaves number step -> family.live = 1 ->
    (family.take number step).calls = family.calls ++ [.release]
  other : ¬ (family.Leaves number step ∧ family.live = 1) ->
    exists later, (family.take number step).calls = family.calls ++ later ∧ .release ∉ later

/-- A view that is still in use.  Sections of an open view are not refused for a release,
and a refused section changes nothing.  A closed view stays closed: closing it again fails
and changes nothing, and so does letting it go out of use. -/
structure ViewInOrder [Source σ] [Listener α σ] (family : Family (Logged σ) α) (view : View) :
    Prop where
  sectionOf : forall position length error shared,
    view.section? family.shared position length = (.error error, shared) ->
    shared = family.shared ∧ (view.closed = false -> error ≠ .released)
  sectionFrom : forall position error shared,
    view.sectionFrom? family.shared position = (.error error, shared) ->
    shared = family.shared ∧ (view.closed = false -> error ≠ .released)
  closes : (view.close family.shared family.host).2.1.closed = true
  closedTwice : view.closed = true ->
    view.close family.shared family.host =
      (.error .released, view, family.shared, family.host)
  dropped : view.closed = true ->
    view.drop family.shared family.host = (family.shared, family.host)

namespace WellKept

variable {family : Family (Logged σ) α}

theorem inOrder (wellKept : WellKept family) : InOrder family where
  count_eq := wellKept.count_eq
  isOpen := by
    intro number view hview
    cases hclosed : view.closed with
    | true =>
        unfold View.isOpen
        rw [hclosed]
        rfl
    | false =>
        have hsome := live_pos hview hclosed
        rw [← wellKept.count_eq] at hsome
        unfold View.isOpen Shared.isOpen
        rw [hclosed, decide_eq_true hsome]
        rfl
  released_iff := by
    constructor
    · intro hreleased
      by_contra hsome
      exact wellKept.unreleased hsome hreleased
    · intro hnone
      rcases wellKept.released hnone with ⟨earlier, hcalls, _hearlier⟩
      rw [hcalls]
      exact List.mem_append_right _ List.mem_cons_self
  releasedLast := by
    intro hreleased
    apply wellKept.released
    by_contra hsome
    exact wellKept.unreleased hsome hreleased

variable [Sink κ] [Source σ] [Listener α σ]

theorem nextInOrder (wellKept : WellKept family) (number : Nat) (step : FamilyStep κ α) :
    NextInOrder family number step := by
  have hcount := wellKept.count_eq
  have hcourse := wellKept.course number step
  constructor
  · intro hleaves hlast
    rw [← hcount] at hlast
    cases hcourse with
    | stayed hstays => exact absurd hleaves hstays
    | joined hstays => exact absurd hleaves hstays
    | left _hleaves _hsome _hlive _hcount' hcalls =>
        rw [if_pos hlast] at hcalls
        exact hcalls
  · intro hother
    have hnothing : forall call : SourceCall, call ∉ [] := by
      intro call hcall
      cases hcall
    cases hcourse with
    | stayed _hstays _hlive _hcount' hgrown =>
        rcases hgrown with ⟨later, hlater, hallowed⟩
        refine ⟨later, hlater, ?_⟩
        intro hreleased
        exact hallowed _ hreleased rfl
    | joined _hstays _hsome _hlive _hcount' hcalls =>
        exact ⟨[], hcalls.trans (List.append_nil _).symm, hnothing _⟩
    | left hleaves _hsome _hlive _hcount' hcalls =>
        have hmany : family.shared.count ≠ 1 := by
          intro hlast
          rw [hcount] at hlast
          exact hother ⟨hleaves, hlast⟩
        rw [if_neg hmany] at hcalls
        exact ⟨[], hcalls.trans (List.append_nil _).symm, hnothing _⟩

omit [Source σ] [Sink κ] [Listener α σ] in
/-- Who refuses a section, and why. -/
theorem refused (wellKept : WellKept family) {number : Nat} {view : View}
    (hview : family.view? number = some view) {error : Error}
    {shared : Shared (Logged σ) α}
    (hcourse : View.SectionCourse view family.shared (.error error, shared)) :
    shared = family.shared ∧ (view.closed = false -> error ≠ .released) := by
  cases hcourse with
  | refused error hreason =>
      refine ⟨rfl, ?_⟩
      intro hopen
      apply hreason hopen
      rw [wellKept.count_eq]
      exact Nat.ne_of_gt (live_pos hview hopen)

omit [Sink κ] in
theorem viewInOrder (wellKept : WellKept family) {number : Nat} {view : View}
    (hview : family.view? number = some view) : ViewInOrder family view where
  sectionOf := by
    intro position length error shared hsection
    have hcourse := View.sectionCourse view family.shared position length
    rw [hsection] at hcourse
    exact wellKept.refused hview hcourse
  sectionFrom := by
    intro position error shared hsection
    have hcourse := View.sectionFromCourse view family.shared position
    rw [hsection] at hcourse
    exact wellKept.refused hview hcourse
  closes := by
    cases hclosed : view.closed with
    | true =>
        rw [View.close_closed hclosed]
        exact hclosed
    | false => rw [View.close_open hclosed]
  closedTwice := by
    intro hclosed
    exact View.close_closed hclosed _ _
  dropped := by
    intro hclosed
    exact View.drop_closed hclosed _ _

end WellKept

theorem select?_open {total offset : Nat} {length : Option Nat} {view : View}
    (h : View.select? total offset length = .ok view) : view.closed = false := by
  unfold View.select? at h
  split at h
  · split at h
    · cases h
      rfl
    · cases h
  · split at h
    · cases h
      rfl
    · cases h

/-- A source for which no view can be selected is thrown away unused.  From a view that was
selected on, every family stays in order, whatever steps are taken. -/
theorem inOrder_takeAll [Sink κ] [Source σ] [Listener α σ] (source : σ) (host : Host)
    (offset : Nat) (length : Option Nat) (steps : List (Nat × FamilyStep κ α)) :
    match View.select? (Source.size source) offset length with
    | .error error =>
        ViewScene.openAt source host offset length =
          (.error error, Source.discard source host)
    | .ok view =>
        let family : Family (Logged σ) α := (start { source } host view).takeAll steps
        InOrder family ∧
          (forall number (step : FamilyStep κ α), NextInOrder family number step) ∧
          forall number view, family.view? number = some view -> ViewInOrder family view := by
  cases hselect : View.select? (Source.size source) offset length with
  | error error =>
      unfold ViewScene.openAt
      rw [hselect]
  | ok view =>
      have hfirst := WellKept.start (α := α) source host (select?_open hselect)
      have hkept := hfirst.takeAll steps
      refine ⟨hkept.inOrder, hkept.nextInOrder, ?_⟩
      intro number other hview
      exact hkept.viewInOrder hview

example :
    let family : Family (Logged Memory) Scripted.ScriptedListener :=
      start { source := { bytes := #[1, 2, 3] } } {} { offset := 0, size := 3 }
    let steps : List (Nat × FamilyStep Scripted.ScriptedSink Scripted.ScriptedListener) :=
      [(0, .takeSection 1 2), (0, .close), (0, .close), (1, .ask (.readByteAt 1)),
        (1, .drop), (1, .ask (.readByteAt 1))]
    (family.takeAll steps).calls = [.readByte 2, .release] := by
  decide

end Family
end ByteWindow
