import ByteWindow.Proofs.Shared.Telling
import ByteWindow.Proofs.View.Interchange
import ByteWindow.Proofs.View.Keeping
import ByteWindow.Proofs.View.Lifecycle

/-!
# A buffer is freed once and in order

A buffer owns its bytes and the resources attached to it, and it may have a reclaimer.  As long
as any view of it is live nothing is freed.  When the last one leaves, the bytes are freed, then
the memory is offered to the reclaimer, and then the resources are freed in the order in which
they were attached; nothing of this is ever done twice.  What the reclaimer says changes nothing.
A buffer for which no view can be selected frees the same, but it offers nothing to a reclaimer.

Listeners are not told the buffer, so they cannot free what it owns.
-/

namespace ByteWindow

/-!
## The record of what was freed
-/

/-- Whether something that a buffer owns is given back. -/
def Event.isFreeing : Event -> Bool
  | .bufferFreed | .reclaimed _ | .resourceFreed _ => true
  | _ => false

namespace Host

/-- What was given back so far, in order. -/
def freeings (host : Host) : List Event :=
  host.events.toList.filter Event.isFreeing

theorem freeings_note (host : Host) (diagnostic : Diagnostic) :
    (host.note diagnostic).freeings = host.freeings := rfl

theorem freeings_record (host : Host) {event : Event} (h : event.isFreeing = true) :
    (host.record event).freeings = host.freeings ++ [event] := by
  unfold freeings
  rw [toList_events_record, List.filter_append, List.filter_cons_of_pos h]
  rfl

theorem freeings_record_other (host : Host) {event : Event} (h : event.isFreeing = false) :
    (host.record event).freeings = host.freeings := by
  unfold freeings
  rw [toList_events_record, List.filter_append,
    List.filter_cons_of_neg (Bool.eq_false_iff.mp h)]
  exact List.append_nil _

theorem freeings_recordAll (host : Host) {events : List Event}
    (h : forall event, event ∈ events -> event.isFreeing = true) :
    (host.recordAll events).freeings = host.freeings ++ events := by
  unfold freeings
  rw [toList_events_recordAll, List.filter_append, List.filter_eq_self.mpr h]

end Host

namespace Buffer

/-- The number of bytes that a storage shows. -/
def lengthOf : Storage -> Nat
  | .owned bytes => bytes.size
  | .mapped _ length => length

/-- A buffer over a storage, with all that was attached to it. -/
def assembled (storage : Storage) (reclaimer : Option Reclaimer) (resources : List String) :
    Buffer :=
  { storage := some storage, size := lengthOf storage, watched := true, reclaimer, resources }

/-- What is left of a buffer that was released. -/
def emptied (s : Buffer) : Buffer :=
  { s with storage := none, resources := [] }

/-- What a buffer gives back when it is released, in order: its bytes, all its memory to the
reclaimer if there is one, and its resources. -/
def belongings (s : Buffer) : List Event :=
  .bufferFreed :: s.reclaimer.toList.map (fun _ => .reclaimed s.size) ++
    s.resources.map .resourceFreed

theorem freeings_freeBytes {s : Buffer} (hwatched : s.watched = true)
    (hstorage : s.storage.isSome = true) (host : Host) :
    (s.freeBytes host).freeings = host.freeings ++ [.bufferFreed] := by
  unfold freeBytes
  rw [hwatched, hstorage]
  exact host.freeings_record rfl

theorem freeings_reclaim (s : Buffer) (host : Host) :
    (s.reclaim host).freeings =
      host.freeings ++ s.reclaimer.toList.map fun _ => .reclaimed s.size := by
  unfold reclaim
  split
  · rename_i hnone
    rw [hnone]
    exact (List.append_nil _).symm
  · rename_i haccepting
    rw [haccepting]
    exact host.freeings_record rfl
  · rename_i reason hrefusing
    rw [hrefusing, Host.freeings_note]
    exact host.freeings_record rfl

theorem freeings_freeResources (s : Buffer) (host : Host) :
    (s.freeResources host).freeings = host.freeings ++ s.resources.map .resourceFreed := by
  apply Host.freeings_recordAll
  intro event hevent
  rcases List.mem_map.mp hevent with ⟨name, _hname, rfl⟩
  rfl

variable (storage : Storage) (reclaimer : Option Reclaimer) (resources : List String)
variable (host : Host)

theorem freeings_release :
    ((assembled storage reclaimer resources).release host).2.2.freeings =
      host.freeings ++ (assembled storage reclaimer resources).belongings := by
  unfold release
  dsimp only
  rw [freeings_freeResources, freeings_reclaim, freeings_freeBytes rfl rfl, belongings,
    List.append_assoc, List.append_assoc]
  rfl

/-- A buffer that is thrown away unused offers nothing to its reclaimer. -/
theorem freeings_discard :
    (Source.discard (assembled storage reclaimer resources) host).freeings =
      host.freeings ++ .bufferFreed :: resources.map .resourceFreed := by
  simp only [Source.discard]
  rw [freeings_freeResources, freeings_freeBytes rfl rfl, List.append_assoc]
  rfl

theorem freeings_discard_emptied (s : Buffer) :
    (Source.discard s.emptied host).freeings = host.freeings := by
  have hnothing : (s.emptied.freeBytes host) = host := by
    unfold freeBytes emptied
    rw [Option.isSome_none, Bool.and_false, if_neg Bool.false_ne_true]
  simp only [Source.discard]
  rw [hnothing, freeings_freeResources]
  exact List.append_nil _

/-- Reading neither changes a buffer nor leaves a record. -/
theorem keptByReads (buffer : Buffer) (before : Host) :
    KeptByReads fun (s : Logged Buffer) host => s.source = buffer ∧ host = before where
  read := by
    rintro mode s host position rest ⟨rfl, rfl⟩
    rw [Logged.readVia_eq]
    have hsame (s : Buffer) : (Source.readAt s host position rest).source = s ∧
        (Source.readAt s host position rest).host = host := by
      simp only [Source.readAt]
      split
      · exact ⟨rfl, rfl⟩
      · exact ⟨rfl, rfl⟩
    cases mode with
    | blocking => exact hsame s.source
    | awaited => exact hsame s.source
  readByte := by
    rintro s host position ⟨rfl, rfl⟩
    simp only [Source.readByteAt]
    split
    · exact ⟨rfl, rfl⟩
    · exact ⟨rfl, rfl⟩

end Buffer

/-!
## Listeners
-/

/-- A listener that leaves the buffer alone. -/
def Harmless {α : Type} [Listener α Buffer] (listener : α) : Prop :=
  forall cause (s : Buffer) host,
    (Listener.notify listener cause s host).2.1 = s ∧
      (Listener.notify listener cause s host).2.2.freeings = host.freeings

/-- A listener that never fails. -/
def Content {α : Type} [Listener α Buffer] (listener : α) : Prop :=
  forall cause (s : Buffer) host, (Listener.notify listener cause s host).1 = .ok ()

namespace Shared

variable {α : Type} [Listener α Buffer]

/-- Telling harmless listeners frees nothing. -/
theorem freeings_notifyAll (cause : Option Error) {listeners : List α}
    (hharmless : forall listener, listener ∈ listeners -> Harmless listener)
    (s : Logged Buffer) (host : Host) :
    (notifyAll cause listeners s host).2.1.source = s.source ∧
      (notifyAll cause listeners s host).2.2.freeings = host.freeings := by
  induction listeners generalizing s host with
  | nil => exact ⟨rfl, rfl⟩
  | cons listener rest ih =>
      have hfirst := hharmless listener List.mem_cons_self
      have hrest (s : Logged Buffer) (host : Host) :=
        ih (fun later hlater => hharmless later (List.mem_cons_of_mem _ hlater)) s host
      have htold : (Listener.notify listener cause s host).2.1.source = s.source ∧
          (Listener.notify listener cause s host).2.2.freeings = host.freeings :=
        hfirst cause s.source host
      unfold notifyAll
      split
      · rename_i s' host' hnotify
        rw [hnotify] at htold
        exact ⟨(hrest s' host').1.trans htold.1, (hrest s' host').2.trans htold.2⟩
      · rename_i error s' host' hnotify
        rw [hnotify] at htold
        exact ⟨(hrest s' host').1.trans htold.1, (hrest s' host').2.trans htold.2⟩

theorem notifyAll_content (cause : Option Error) {listeners : List α}
    (hcontent : forall listener, listener ∈ listeners -> Content listener)
    (s : Logged Buffer) (host : Host) : (notifyAll cause listeners s host).1 = [] := by
  induction listeners generalizing s host with
  | nil => rfl
  | cons listener rest ih =>
      have hfirst : (Listener.notify listener cause s host).1 = .ok () :=
        hcontent listener List.mem_cons_self cause s.source host
      unfold notifyAll
      split
      · exact ih (fun later hlater => hcontent later (List.mem_cons_of_mem _ hlater)) _ _
      · rename_i error s' host' hnotify
        rw [hnotify] at hfirst
        cases hfirst

variable {shared : Shared (Logged Buffer) α}

/-- The release of a buffer succeeds, and then the listeners are told. -/
theorem giveUp_eq (shared : Shared (Logged Buffer) α) (host : Host) :
    shared.giveUp host =
      let told := notifyAll none (shared.listeners.getD [])
        (shared.source.after shared.source.source.emptied .release)
        (shared.source.source.release (host.note .releasing)).2.2
      (Error.aggregate told.1, { count := 0, listeners := none, source := told.2.1 },
        told.2.2) := rfl

/-- Whoever gives a buffer up frees all that it owns. -/
theorem freeings_giveUp {storage : Storage} {reclaimer : Option Reclaimer}
    {resources : List String}
    (hsource : shared.source.source = .assembled storage reclaimer resources)
    (hharmless : forall listener, listener ∈ shared.listeners.getD [] -> Harmless listener)
    (host : Host) :
    (shared.giveUp host).2.1.source.source =
        (Buffer.assembled storage reclaimer resources).emptied ∧
      (shared.giveUp host).2.2.freeings =
        host.freeings ++ (Buffer.assembled storage reclaimer resources).belongings := by
  have hreleased := Buffer.freeings_release storage reclaimer resources (host.note .releasing)
  rw [giveUp_eq, hsource]
  rcases freeings_notifyAll none hharmless
    (shared.source.after (Buffer.assembled storage reclaimer resources).emptied .release)
    ((Buffer.assembled storage reclaimer resources).release (host.note .releasing)).2.2 with
    ⟨hkept, hfreed⟩
  exact ⟨hkept, hfreed.trans hreleased⟩

/-- Only listeners can make a close fail. -/
theorem close_content
    (hcontent : forall listener, listener ∈ shared.listeners.getD [] -> Content listener)
    (hcount : shared.count ≠ 0) (host : Host) : (shared.close host).1 = .ok () := by
  by_cases hlast : shared.count = 1
  · unfold close
    rw [hlast]
    dsimp only
    rw [giveUp_eq]
    dsimp only
    rw [notifyAll_content none hcontent]
    rfl
  · rw [close_of_others hcount hlast]

end Shared

theorem View.freeings_drop {α : Type} [Listener α Buffer] {view : View}
    (hopen : view.closed = false) (shared : Shared (Logged Buffer) α) (host : Host) :
    (view.drop shared host).2.freeings = (shared.close host).2.2.freeings := by
  unfold drop
  rw [close_open hopen]
  rcases shared.close host with ⟨result, shared', host'⟩
  cases result with
  | ok done => rfl
  | error error =>
      dsimp only
      split
      · rfl
      · exact Host.freeings_note _ _

/-!
## Families of a buffer
-/

namespace Family

variable {κ α : Type}

/-- A step after which as many views are live, or one more that joined a live one. -/
theorem TakeCourse.live_eq_zero_iff {family family' : Family (Logged Buffer) α} {leaves : Prop}
    (hcourse : TakeCourse family family' leaves)
    (hstays : ¬ leaves) : family'.live = 0 <-> family.live = 0 := by
  cases hcourse with
  | stayed _ hlive => rw [hlive]
  | joined _ hsome hlive =>
      rw [hlive]
      exact ⟨fun h => absurd h (Nat.succ_ne_zero _), fun h => absurd h hsome⟩
  | left hleaves => exact absurd hleaves hstays

variable [Listener α Buffer]

/-- A family of a buffer: all is there as long as a view is live, and afterwards all is freed. -/
structure Keeps (storage : Storage) (reclaimer : Option Reclaimer) (resources : List String)
    (before : List Event) (family : Family (Logged Buffer) α) : Prop where
  harmless : forall listener, listener ∈ family.shared.listeners.getD [] -> Harmless listener
  whole : family.live ≠ 0 ->
    family.shared.source.source = .assembled storage reclaimer resources ∧
      family.host.freeings = before
  gone : family.live = 0 ->
    family.shared.source.source = (Buffer.assembled storage reclaimer resources).emptied ∧
      family.host.freeings =
        before ++ (Buffer.assembled storage reclaimer resources).belongings

namespace Keeps

variable {storage : Storage} {reclaimer : Option Reclaimer} {resources : List String}
variable {before : List Event} {family family' : Family (Logged Buffer) α}

/-- Nothing that matters here is changed. -/
theorem same (keeps : Keeps storage reclaimer resources before family)
    (hharmless : forall listener, listener ∈ family'.shared.listeners.getD [] ->
      Harmless listener)
    (hlive : family'.live = 0 <-> family.live = 0)
    (hsource : family'.shared.source.source = family.shared.source.source)
    (hfreeings : family'.host.freeings = family.host.freeings) :
    Keeps storage reclaimer resources before family' where
  harmless := hharmless
  whole := by
    intro hsome
    rw [hsource, hfreeings]
    exact keeps.whole fun hnone => hsome (hlive.mpr hnone)
  gone := by
    intro hnone
    rw [hsource, hfreeings]
    exact keeps.gone (hlive.mp hnone)

/-- A section changes nothing but the views and their count. -/
theorem join (keeps : Keeps storage reclaimer resources before family) {view : View}
    {result : Except Error View × Shared (Logged Buffer) α}
    (hcourse : View.SectionCourse view family.shared result)
    (hlive : (family.join result).live = 0 <-> family.live = 0) :
    Keeps storage reclaimer resources before (family.join result) := by
  cases hcourse with
  | refused => exact keeps.same keeps.harmless hlive rfl rfl
  | joined => exact keeps.same keeps.harmless hlive rfl rfl

theorem listen (keeps : Keeps storage reclaimer resources before family) {listener : α}
    (hlistener : Harmless listener) :
    Keeps storage reclaimer resources before
      { family with
        shared := (family.shared.listen listener family.host).2.1
        host := (family.shared.listen listener family.host).2.2 } := by
  unfold Shared.listen
  split
  · rename_i listeners hlisteners
    refine keeps.same ?_ Iff.rfl rfl rfl
    intro other hother
    rcases List.mem_append.mp hother with hearlier | hnew
    · apply keeps.harmless
      rw [hlisteners]
      exact hearlier
    · rw [List.mem_singleton.mp hnew]
      exact hlistener
  · have htold := hlistener none family.shared.source.source family.host
    exact keeps.same keeps.harmless Iff.rfl htold.1 htold.2

/-- A live view leaves.  The last one takes everything with it, the others take nothing. -/
theorem leave (keeps : Keeps storage reclaimer resources before family)
    (wellKept : WellKept family) (hsome : family.live ≠ 0) {views : List (Option View)}
    {host : Host} (hviews : views.countP isLive = family.live - 1)
    (hhost : host.freeings = (family.shared.close family.host).2.2.freeings) :
    Keeps storage reclaimer resources before
      { views, shared := (family.shared.close family.host).2.1, host } := by
  have hcount := wellKept.count_eq
  rcases keeps.whole hsome with ⟨hsource, hfreeings⟩
  by_cases hlast : family.shared.count = 1
  · have hclose : family.shared.close family.host = family.shared.giveUp family.host := by
      unfold Shared.close
      rw [hlast]
    have hnone : views.countP isLive = 0 := by omega
    rcases Shared.freeings_giveUp hsource keeps.harmless family.host with ⟨hgone, hfreed⟩
    rw [hclose] at hhost ⊢
    constructor
    · intro listener hlistener
      rw [Shared.giveUp_eq] at hlistener
      cases hlistener
    · intro hstill
      exact absurd hnone hstill
    · intro _
      rw [← hfreeings]
      exact ⟨hgone, hhost.trans hfreed⟩
  · rw [Shared.close_of_others (hcount ▸ hsome) hlast] at hhost ⊢
    have hothers : views.countP isLive ≠ 0 := by omega
    constructor
    · exact keeps.harmless
    · intro _
      exact ⟨hsource, hhost.trans hfreeings⟩
    · intro hnone
      exact absurd hnone hothers

variable [Sink κ]

theorem takeOn (keeps : Keeps storage reclaimer resources before family)
    (wellKept : WellKept family) {number : Nat} {view : View}
    (hview : family.view? number = some view) {step : FamilyStep κ α}
    (hstep : forall listener, step = .listen listener -> Harmless listener) :
    Keeps storage reclaimer resources before (family.takeOn number view step) := by
  have hcount (hsome : family.live ≠ 0) : family.shared.count ≠ 0 :=
    wellKept.count_eq ▸ hsome
  have hcourse := takeOn_course family hview hcount step
  cases step with
  | takeSection position length =>
      have hstays : ¬ family.Leaves number
          (FamilyStep.takeSection position length : FamilyStep κ α) := by
        rintro ⟨hstep | hstep, _⟩ <;> cases hstep
      exact keeps.join (View.sectionCourse ..) (hcourse.live_eq_zero_iff hstays)
  | takeRest position =>
      have hstays : ¬ family.Leaves number (FamilyStep.takeRest position : FamilyStep κ α) := by
        rintro ⟨hstep | hstep, _⟩ <;> cases hstep
      exact keeps.join (View.sectionFromCourse ..) (hcourse.live_eq_zero_iff hstays)
  | ask operation =>
      rcases (Buffer.keptByReads family.shared.source.source family.host).perform operation
        view ⟨rfl, rfl⟩ with ⟨hsource, hhost⟩
      exact keeps.same keeps.harmless Iff.rfl hsource (congrArg Host.freeings hhost)
  | listen listener => exact keeps.listen (hstep listener rfl)
  | close =>
      unfold Family.takeOn
      dsimp only
      cases hopen : view.closed with
      | true =>
          rw [View.close_closed hopen]
          have hdead : isLive (some view) = false := by simp [isLive, hopen]
          have hsame := countP_set_closed hview hopen hdead
          exact keeps.same keeps.harmless (by unfold live at hsame ⊢; rw [hsame]) rfl rfl
      | false =>
          rw [View.close_open hopen]
          exact keeps.leave wellKept (Nat.ne_of_gt (live_pos hview hopen))
            (countP_set_open hview hopen rfl) rfl
  | drop =>
      unfold Family.takeOn
      dsimp only
      cases hopen : view.closed with
      | true =>
          rw [View.drop_closed hopen]
          have hdead : isLive none = false := rfl
          have hsame := countP_set_closed hview hopen hdead
          exact keeps.same keeps.harmless (by unfold live at hsame ⊢; rw [hsame]) rfl rfl
      | false =>
          rw [View.drop_open hopen]
          exact keeps.leave wellKept (Nat.ne_of_gt (live_pos hview hopen))
            (countP_set_open hview hopen rfl) (View.freeings_drop hopen _ _)

theorem takeAll (keeps : Keeps storage reclaimer resources before family)
    (wellKept : WellKept family) {steps : List (Nat × FamilyStep κ α)}
    (hsteps : forall number listener, (number, FamilyStep.listen listener) ∈ steps ->
      Harmless listener) :
    Keeps storage reclaimer resources before (family.takeAll steps) := by
  induction steps generalizing family with
  | nil => exact keeps
  | cons step rest ih =>
      rcases step with ⟨number, step⟩
      have hstep : forall listener, step = .listen listener -> Harmless listener := by
        rintro listener rfl
        exact hsteps number listener List.mem_cons_self
      have hnext : Keeps storage reclaimer resources before (family.take number step) := by
        unfold take
        split
        · rename_i view hview
          exact keeps.takeOn wellKept hview hstep
        · exact keeps
      refine ih hnext (wellKept.step (wellKept.course number step)) ?_
      intro other listener hlistener
      exact hsteps other listener (List.mem_cons_of_mem _ hlistener)

end Keeps

/-- A buffer with its views.  While a view is live nothing was freed, and every close succeeds
unless a listener fails.  Once none is left, all that the buffer owns was freed, in order and
once, and there is nothing left to free. -/
structure FreedLast (buffer : Buffer) (before : List Event)
    (family : Family (Logged Buffer) α) : Prop where
  whole : family.live ≠ 0 -> family.host.freeings = before
  freed : family.live = 0 -> family.host.freeings = before ++ buffer.belongings
  nothingLeft : family.live = 0 ->
    (Source.discard family.shared.source family.host).freeings = family.host.freeings
  closes : forall number view, family.view? number = some view -> view.closed = false ->
    (forall listener, listener ∈ family.shared.listeners.getD [] -> Content listener) ->
    (view.close family.shared family.host).1 = .ok ()

theorem Keeps.freedLast {storage : Storage} {reclaimer : Option Reclaimer}
    {resources : List String} {before : List Event} {family : Family (Logged Buffer) α}
    (keeps : Keeps storage reclaimer resources before family) (wellKept : WellKept family) :
    FreedLast (.assembled storage reclaimer resources) before family where
  whole := fun hsome => (keeps.whole hsome).2
  freed := fun hnone => (keeps.gone hnone).2
  nothingLeft := by
    intro hnone
    show (Source.discard family.shared.source.source family.host).freeings = _
    rw [(keeps.gone hnone).1]
    exact Buffer.freeings_discard_emptied _ _
  closes := by
    intro number view hview hopen hcontent
    have hcount : family.shared.count ≠ 0 := by
      rw [wellKept.count_eq]
      exact Nat.ne_of_gt (live_pos hview hopen)
    rw [View.close_open hopen]
    exact Shared.close_content hcontent hcount family.host

/-- Whatever is done with the views of a buffer, and in whatever order: what it owns is freed
when the last of them leaves, once and in order, all of its memory being offered to the
reclaimer whatever the window was and whatever the reclaimer answers.  If there is no view to
begin with, the same is freed at once, and the reclaimer is not asked. -/
theorem freedLast_takeAll [Sink κ] (storage : Storage) (reclaimer : Option Reclaimer)
    (resources : List String) (host : Host) (offset : Nat) (length : Option Nat)
    (steps : List (Nat × FamilyStep κ α))
    (hsteps : forall number listener, (number, FamilyStep.listen listener) ∈ steps ->
      Harmless listener) :
    let buffer := Buffer.assembled storage reclaimer resources
    match View.select? (Source.size buffer) offset length with
    | .error error =>
        exists host', ViewScene.openAt buffer host offset length = (.error error, host') ∧
          host'.freeings = host.freeings ++ .bufferFreed :: resources.map .resourceFreed
    | .ok view =>
        FreedLast buffer host.freeings
          ((start { source := buffer } host view : Family (Logged Buffer) α).takeAll steps) := by
  dsimp only
  cases hselect : View.select?
      (Source.size (Buffer.assembled storage reclaimer resources)) offset length with
  | error error =>
      refine ⟨_, ?_, Buffer.freeings_discard storage reclaimer resources host⟩
      unfold ViewScene.openAt
      rw [hselect]
  | ok view =>
      have hopen := select?_open hselect
      have hfirst := WellKept.start (α := α)
        (Buffer.assembled storage reclaimer resources) host hopen
      have hlive := live_start (α := α)
        ({ source := .assembled storage reclaimer resources } : Logged Buffer) host hopen
      have hkeeps : Keeps storage reclaimer resources host.freeings
          (start { source := .assembled storage reclaimer resources } host view :
            Family (Logged Buffer) α) := by
        constructor
        · intro listener hlistener
          cases hlistener
        · intro _
          exact ⟨rfl, rfl⟩
        · intro hnone
          rw [hlive] at hnone
          cases hnone
      exact (hkeeps.takeAll hfirst hsteps).freedLast (hfirst.takeAll steps)

open Scripted

/-- A scripted listener with no steps of its own leaves the buffer alone. -/
theorem harmless_scripted {listener : ScriptedListener} (hinside : listener.inside = []) :
    Harmless listener := by
  intro cause s host
  simp only [Listener.notify, hinside]
  exact ⟨rfl, Host.freeings_record_other _ rfl⟩

/-- A buffer whose reclaimer refuses, and steps that end two views of it. -/
theorem freedLast_takeAll_refusing :
    let buffer := Buffer.assembled (.owned #[1, 2, 3]) (some (.refusing "in use")) ["a", "b"]
    let steps : List (Nat × FamilyStep ScriptedSink ScriptedListener) :=
      [(0, .takeSection 0 1), (0, .listen { name := "l" }), (0, .close), (0, .drop), (1, .drop)]
    (forall number listener, (number, FamilyStep.listen listener) ∈ steps ->
      Harmless listener) ∧
    FreedLast buffer []
      ((start { source := buffer } {} { offset := 1, size := 1 } :
        Family (Logged Buffer) ScriptedListener).takeAll steps) := by
  intro buffer steps
  have hsteps : forall number listener, (number, FamilyStep.listen listener) ∈ steps ->
      Harmless listener := by
    intro number listener hlistener
    have hsame : number = 0 ∧ listener = { name := "l" } := by
      simpa [steps] using hlistener
    rw [hsame.2]
    exact harmless_scripted rfl
  exact ⟨hsteps, freedLast_takeAll (.owned #[1, 2, 3]) (some (.refusing "in use")) ["a", "b"]
    {} 1 (some 1) steps hsteps⟩

example :
    let buffer := Buffer.assembled (.owned #[1, 2, 3]) (some (.refusing "in use")) ["a", "b"]
    let steps : List (Nat × FamilyStep ScriptedSink ScriptedListener) :=
      [(0, .takeSection 0 1), (0, .close), (1, .drop)]
    ((start { source := buffer } {} { offset := 1, size := 1 } :
      Family (Logged Buffer) ScriptedListener).takeAll steps).host.freeings =
      [.bufferFreed, .reclaimed 3, .resourceFreed "a", .resourceFreed "b"] := by
  cbv

end Family
end ByteWindow
