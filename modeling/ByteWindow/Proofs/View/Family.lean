import Mathlib.Data.List.Count
import ByteWindow.Proofs.View.Confinement
import ByteWindow.Scenario.Views

/-!
# The life of a shared source

All views that descend from one view of a source form a family.  Sections join it, and views
leave it when they are closed or go out of use.  Two things are counted apart: each view
knows whether it is closed, and the shared source knows how many owners it has.  The family
is kept in order as long as the two counts agree; then the source is released by the view
that leaves last, and never hears of anybody again.
-/

namespace ByteWindow

/-!
## Logged sources that are shared
-/

namespace Shared

variable {σ α : Type} [Listener α σ]

theorem calls_notifyAll (cause : Option Error) (listeners : List α) (s : Logged σ)
    (host : Host) : (notifyAll cause listeners s host).2.1.calls = s.calls := by
  induction listeners generalizing s host with
  | nil => rfl
  | cons listener rest ih =>
      have htold : (Listener.notify listener cause s host).2.1.calls = s.calls := rfl
      unfold notifyAll
      split
      · rename_i s' host' hnotify
        rw [hnotify] at htold
        exact (ih s' host').trans htold
      · rename_i error s' host' hnotify
        rw [hnotify] at htold
        exact (ih s' host').trans htold

theorem calls_listen (shared : Shared (Logged σ) α) (listener : α) (host : Host) :
    (shared.listen listener host).2.1.count = shared.count ∧
      (shared.listen listener host).2.1.source.calls = shared.source.calls := by
  unfold listen
  split
  · exact ⟨rfl, rfl⟩
  · exact ⟨rfl, rfl⟩

variable [Source σ]

/-- To give a source up is to release it once, whatever comes of it. -/
theorem calls_giveUp (shared : Shared (Logged σ) α) (host : Host) :
    (shared.giveUp host).2.1.count = 0 ∧
      (shared.giveUp host).2.1.source.calls = shared.source.calls ++ [.release] := by
  have hrelease := Logged.calls_release shared.source (host.note .releasing)
  unfold giveUp
  dsimp only
  split
  · rename_i s' host' hreleased
    rw [hreleased] at hrelease
    exact ⟨rfl, (calls_notifyAll none _ s' host').trans hrelease⟩
  · rename_i cause s' host' hreleased
    rw [hreleased] at hrelease
    exact ⟨rfl, (calls_notifyAll (some cause) _ s' host').trans hrelease⟩

/-- The owner who leaves is the last one, or one of several. -/
theorem calls_close (shared : Shared (Logged σ) α) (host : Host) (hcount : shared.count ≠ 0) :
    (shared.close host).2.1.count = shared.count - 1 ∧
      (shared.close host).2.1.source.calls =
        if shared.count = 1 then shared.source.calls ++ [.release]
        else shared.source.calls := by
  unfold close
  split
  · rename_i hzero
    exact absurd hzero hcount
  · rename_i hone
    rw [hone, if_pos rfl]
    exact calls_giveUp shared host
  · rename_i n hmany
    rw [hmany, if_neg (by omega)]
    exact ⟨rfl, rfl⟩

end Shared

namespace View

variable {σ α : Type} {view : View} {shared : Shared σ α} {position length : Nat}

/-- A section of a view: nothing happens, or an open view joins. -/
inductive SectionCourse (view : View) (shared : Shared σ α) :
    Except Error View × Shared σ α -> Prop where
  | refused (error : Error) :
      (view.closed = false -> shared.count ≠ 0 -> error ≠ .released) ->
      SectionCourse view shared (.error error, shared)
  | joined (offset size : Nat) :
      view.closed = false ->
      SectionCourse view shared
        (.ok { offset, size }, { shared with count := shared.count + 1 })

theorem sectionCourse (view : View) (shared : Shared σ α) (position length : Nat) :
    SectionCourse view shared (view.section? shared position length) := by
  unfold section?
  split
  · rename_i hclosed
    refine .refused _ ?_
    intro hopen
    rw [hopen] at hclosed
    cases hclosed
  · rename_i hclosed
    have hopen : view.closed = false := Bool.eq_false_iff.mpr hclosed
    split
    · rename_i error hregion
      refine .refused _ ?_
      intro _ _
      unfold checkRegion at hregion
      split at hregion
      · cases hregion
      · cases hregion
        intro hreleased
        cases hreleased
    · unfold Shared.retain
      by_cases hcount : shared.count = 0
      · rw [if_pos hcount]
        exact .refused _ fun _ hne => absurd hcount hne
      · rw [if_neg hcount]
        exact .joined _ _ hopen

theorem sectionFromCourse (view : View) (shared : Shared σ α) (position : Nat) :
    SectionCourse view shared (view.sectionFrom? shared position) := by
  unfold sectionFrom?
  split
  · exact sectionCourse view shared position _
  · refine .refused _ ?_
    intro _ _ hreleased
    cases hreleased

variable [Releasable σ] [Listener α σ]

theorem close_closed (hclosed : view.closed = true) (shared : Shared σ α) (host : Host) :
    view.close shared host = (.error .released, view, shared, host) := by
  unfold close
  rw [if_pos hclosed]

theorem drop_closed (hclosed : view.closed = true) (shared : Shared σ α) (host : Host) :
    view.drop shared host = (shared, host) := by
  unfold drop
  rw [close_closed hclosed]
  dsimp only
  rw [if_pos hclosed]

theorem close_open (hopen : view.closed = false) (shared : Shared σ α) (host : Host) :
    view.close shared host =
      ((shared.close host).1, { view with closed := true }, (shared.close host).2) := by
  unfold close
  rw [hopen]
  rfl

theorem drop_open (hopen : view.closed = false) (shared : Shared σ α) (host : Host) :
    (view.drop shared host).1 = (shared.close host).2.1 := by
  unfold drop
  rw [close_open hopen]
  rcases shared.close host with ⟨result, shared', host'⟩
  cases result <;> rfl

end View

/-!
## Families
-/

/-- The views of one source by number.  Those that went out of use are gone. -/
structure Family (σ α : Type) where
  views : List (Option View)
  shared : Shared σ α
  host : Host

/-- What can be done with a view of a family. -/
inductive FamilyStep (κ α : Type)
  | takeSection (position length : Nat)
  | takeRest (position : Nat)
  | ask (operation : Operation κ)
  | listen (listener : α)
  | close
  | drop

namespace Family

variable {κ σ α : Type}

/-- The family of the first view of a source. -/
def start (source : σ) (host : Host) (view : View) : Family σ α :=
  { views := [some view], shared := Shared.new source, host }

/-- The view with a number, if it is still in use. -/
def view? (family : Family σ α) (number : Nat) : Option View :=
  (family.views[number]?).join

/-- Whether a view is in use and not closed. -/
def isLive : Option View -> Bool
  | some view => !view.closed
  | none => false

/-- How many views are neither closed nor gone. -/
def live (family : Family σ α) : Nat :=
  family.views.countP isLive

/-- A section joins, unless it was refused. -/
def join (family : Family σ α) : Except Error View × Shared σ α -> Family σ α
  | (.ok view, shared) => { family with views := family.views ++ [some view], shared }
  | (.error _, shared) => { family with shared }

section Steps

variable [Sink κ] [Source σ] [Listener α σ]

/-- Take a step on the view with a number. -/
def takeOn (family : Family σ α) (number : Nat) (view : View) :
    FamilyStep κ α -> Family σ α
  | .takeSection position length =>
      family.join (view.section? family.shared position length)
  | .takeRest position => family.join (view.sectionFrom? family.shared position)
  | .ask operation =>
      let (_, source, host) := operation.perform view family.shared.source family.host
      { family with shared := { family.shared with source }, host }
  | .listen listener =>
      let (_, shared, host) := family.shared.listen listener family.host
      { family with shared, host }
  | .close =>
      let (_, view, shared, host) := view.close family.shared family.host
      { views := family.views.set number (some view), shared, host }
  | .drop =>
      let (shared, host) := view.drop family.shared family.host
      { views := family.views.set number none, shared, host }

/-- Take a step.  Nothing can be done with a view that is gone. -/
def take (family : Family σ α) (number : Nat) (step : FamilyStep κ α) : Family σ α :=
  match family.view? number with
  | some view => family.takeOn number view step
  | none => family

/-- Take steps in order. -/
def takeAll (family : Family σ α) : List (Nat × FamilyStep κ α) -> Family σ α
  | [] => family
  | (number, step) :: rest => (family.take number step).takeAll rest

end Steps

/-!
## The count of live views
-/

theorem live_start (source : σ) (host : Host) {view : View} (hopen : view.closed = false) :
    (start source host view : Family σ α).live = 1 := by
  simp only [live, start, List.countP_singleton, isLive, hopen]
  rfl

theorem live_append (family : Family σ α) (shared : Shared σ α) (view : View)
    (hopen : view.closed = false) :
    ({ family with views := family.views ++ [some view], shared } : Family σ α).live =
      family.live + 1 := by
  unfold live
  rw [List.countP_append, List.countP_singleton]
  simp only [isLive, hopen]
  rfl

theorem views_of_view? {family : Family σ α} {number : Nat} {view : View}
    (h : family.view? number = some view) : family.views[number]? = some (some view) := by
  unfold view? at h
  exact Option.join_eq_some_iff.mp h

theorem countP_set_not_live {views : List (Option View)} {number : Nat}
    {view view' : Option View}
    (h : views[number]? = some view) (hgone : isLive view' = false) :
    (views.set number view').countP isLive =
      views.countP isLive - if isLive view then 1 else 0 := by
  rcases List.getElem?_eq_some_iff.mp h with ⟨hbound, hview⟩
  rw [List.countP_set hbound, hview, hgone]
  rfl

/-- A view that is closed already can go without anybody noticing. -/
theorem countP_set_closed {family : Family σ α} {number : Nat} {view : View}
    (hview : family.view? number = some view) (hclosed : view.closed = true)
    {last : Option View} (hgone : isLive last = false) :
    (family.views.set number last).countP isLive = family.live := by
  rw [countP_set_not_live (views_of_view? hview) hgone, if_neg]
  · rfl
  · simp only [isLive, hclosed]
    exact Bool.false_ne_true

theorem countP_set_open {family : Family σ α} {number : Nat} {view : View}
    (hview : family.view? number = some view) (hopen : view.closed = false)
    {last : Option View} (hgone : isLive last = false) :
    (family.views.set number last).countP isLive = family.live - 1 := by
  rw [countP_set_not_live (views_of_view? hview) hgone, if_pos]
  · rfl
  · simp only [isLive, hopen]
    rfl

theorem live_pos {family : Family σ α} {number : Nat} {view : View}
    (h : family.view? number = some view) (hopen : view.closed = false) : 0 < family.live := by
  apply List.countP_pos_iff.mpr
  refine ⟨some view, List.mem_of_getElem? (views_of_view? h), ?_⟩
  simp only [isLive, hopen]
  rfl

/-!
## What a step can do
-/

/-- An open view is closed or goes out of use. -/
def Leaves (family : Family σ α) (number : Nat) (step : FamilyStep κ α) : Prop :=
  (step = .close ∨ step = .drop) ∧
    exists view, family.view? number = some view ∧ view.closed = false

/-- The calls that the source of a family got. -/
def calls (family : Family (Logged σ) α) : List SourceCall :=
  family.shared.source.calls

/-- The three things that a step can do to the count of live views and to the source. -/
inductive TakeCourse (family family' : Family (Logged σ) α) (leaves : Prop) : Prop where
  /-- All views stay, and the source is asked at most to read, by a live view. -/
  | stayed :
      ¬ leaves -> family'.live = family.live ->
      family'.shared.count = family.shared.count ->
      Logged.Grown (fun call => call ≠ .release) family.shared.source
        family'.shared.source ->
      (family.live = 0 -> family'.calls = family.calls) ->
      TakeCourse family family' leaves
  /-- A section joins a live view. -/
  | joined :
      ¬ leaves -> family.live ≠ 0 -> family'.live = family.live + 1 ->
      family'.shared.count = family.shared.count + 1 -> family'.calls = family.calls ->
      TakeCourse family family' leaves
  /-- A live view leaves, and the last one to leave releases the source. -/
  | left :
      leaves -> family.live ≠ 0 -> family'.live = family.live - 1 ->
      family'.shared.count = family.shared.count - 1 ->
      family'.calls =
        (if family.shared.count = 1 then family.calls ++ [.release] else family.calls) ->
      TakeCourse family family' leaves

theorem TakeCourse.same {family family' : Family (Logged σ) α} {leaves : Prop}
    (hleaves : ¬ leaves) (hlive : family'.live = family.live)
    (hcount : family'.shared.count = family.shared.count)
    (hsource : family'.calls = family.calls) : TakeCourse family family' leaves := by
  refine .stayed hleaves hlive hcount ?_ fun _ => hsource
  refine ⟨[], hsource.trans (List.append_nil _).symm, ?_⟩
  intro call hcall
  cases hcall

theorem TakeCourse.join {family : Family (Logged σ) α} {number : Nat} {view : View}
    (hview : family.view? number = some view) {leaves : Prop} (hleaves : ¬ leaves)
    {result : Except Error View × Shared (Logged σ) α}
    (hcourse : View.SectionCourse view family.shared result) :
    TakeCourse family (family.join result) leaves := by
  cases hcourse with
  | refused error herror => exact .same hleaves rfl rfl rfl
  | joined offset size hopen =>
      refine .joined hleaves ?_ ?_ rfl rfl
      · exact Nat.ne_of_gt (live_pos hview hopen)
      · exact live_append family _ _ rfl

theorem takeOn_gone {family : Family (Logged σ) α} {number : Nat} {view : View}
    (hview : family.view? number = some view) (hclosed : view.closed = true)
    (last : Option View) (hlast : isLive last = false) {leaves : Prop} (hleaves : ¬ leaves) :
    TakeCourse family { family with views := family.views.set number last } leaves := by
  exact .same hleaves (countP_set_closed hview hclosed hlast) rfl rfl

variable [Sink κ] [Source σ] [Listener α σ]

theorem takeOn_close {family : Family (Logged σ) α} {number : Nat} {view : View}
    (hview : family.view? number = some view) (hcount : family.shared.count ≠ 0)
    (last : Option View) (hlast : isLive last = false) (host : Host)
    (hopen : view.closed = false) {leaves : Prop} (hleaves : leaves) :
    TakeCourse family
      { views := family.views.set number last
        shared := (family.shared.close family.host).2.1, host } leaves := by
  rcases family.shared.calls_close family.host hcount with ⟨hcount', hcalls⟩
  refine .left hleaves (Nat.ne_of_gt (live_pos hview hopen)) ?_ hcount' hcalls
  exact countP_set_open hview hopen hlast

theorem takeOn_course (family : Family (Logged σ) α) {number : Nat} {view : View}
    (hview : family.view? number = some view)
    (hcount : family.live ≠ 0 -> family.shared.count ≠ 0)
    (step : FamilyStep κ α) :
    TakeCourse family (family.takeOn number view step) (family.Leaves number step) := by
  have hstays (step : FamilyStep κ α) (hclose : step ≠ .close) (hdrop : step ≠ .drop) :
      ¬ family.Leaves number step := by
    intro hleaves
    rcases hleaves.1 with h | h
    · exact hclose h
    · exact hdrop h
  have hkept (step : FamilyStep κ α) (hclosed : view.closed = true) :
      ¬ family.Leaves number step := by
    intro hleaves
    rcases hleaves.2 with ⟨other, hother, hopen⟩
    rw [hview] at hother
    cases hother
    rw [hclosed] at hopen
    cases hopen
  cases step with
  | takeSection position length =>
      exact TakeCourse.join hview (hstays _ (by intro h; cases h) (by intro h; cases h))
        (View.sectionCourse ..)
  | takeRest position =>
      exact TakeCourse.join hview (hstays _ (by intro h; cases h) (by intro h; cases h))
        (View.sectionFromCourse ..)
  | ask operation =>
      have hgrown := operation.grown_perform view family.shared.source family.host
      refine .stayed (hstays _ (by intro h; cases h) (by intro h; cases h)) rfl rfl ?_ ?_
      · exact hgrown.mono fun call hcall => hcall.1
      · intro hnobody
        -- The view is closed, for a live one would be counted.
        have hclosed : view.closed = true := by
          cases hopen : view.closed with
          | true => rfl
          | false => exact absurd hnobody (Nat.ne_of_gt (live_pos hview hopen))
        have hsame := operation.perform_closed hclosed family.shared.source family.host
        exact congrArg (fun rest => rest.1.calls) hsame
  | listen listener =>
      rcases family.shared.calls_listen listener family.host with ⟨hsame, hcalls⟩
      exact .same (hstays _ (by intro h; cases h) (by intro h; cases h)) rfl hsame hcalls
  | close =>
      unfold takeOn
      cases hopen : view.closed with
      | true =>
          dsimp only
          rw [View.close_closed hopen]
          refine takeOn_gone hview hopen (some view) ?_ (hkept _ hopen)
          simp only [isLive, hopen]
          rfl
      | false =>
          have hsome := hcount (Nat.ne_of_gt (live_pos hview hopen))
          dsimp only
          rw [View.close_open hopen]
          exact takeOn_close hview hsome _ rfl _ hopen ⟨.inl rfl, view, hview, hopen⟩
  | drop =>
      unfold takeOn
      cases hopen : view.closed with
      | true =>
          dsimp only
          rw [View.drop_closed hopen]
          exact takeOn_gone hview hopen none rfl (hkept _ hopen)
      | false =>
          have hsome := hcount (Nat.ne_of_gt (live_pos hview hopen))
          dsimp only
          rw [View.drop_open hopen]
          exact takeOn_close hview hsome none rfl _ hopen ⟨.inr rfl, view, hview, hopen⟩

end Family
end ByteWindow
