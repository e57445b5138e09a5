import ByteWindow.Proofs.Pool.Reliability
import ByteWindow.Proofs.Source.Seeking
import ByteWindow.Proofs.View.Answers
import ByteWindow.Proofs.View.Lifecycle

/-!
# Sources in each other's place

All sources that can be made of the same bytes can stand in each other's place.  They show the
same windows and refuse the others with the same error, and from the first view on every step
leaves the same views behind.  The answers of an open view are told by its window alone,
whatever was asked before, of it or of others.  They differ only in how many bytes a single read
delivers: bytes in memory answer every request in full, files those that one read of the system
can serve, and streams need not answer any.

A family keeps its source fit as long as it has an open view.  What becomes of the source after
its release is nobody's concern, for a closed view asks nothing of it.
-/

namespace ByteWindow

/-!
## Shared sources that are fit
-/

namespace Shared

variable {σ α : Type} {fit : σ -> Host -> Prop} {shared : Shared σ α} {host : Host}

/-- As long as anybody owns the source, it is fit, and anybody may ask to hear of its
release. -/
def InService (fit : σ -> Host -> Prop) (shared : Shared σ α) (host : Host) : Prop :=
  shared.count ≠ 0 -> fit shared.source host ∧ shared.listeners ≠ none

theorem inService_new {source : σ} (hfit : fit source host) :
    InService fit (new source : Shared σ α) host := by
  intro _
  refine ⟨hfit, ?_⟩
  intro hnone
  cases hnone

variable [Listener α σ]

theorem InService.listen (inService : InService fit shared host) (listener : α) :
    (shared.listen listener host).2.1.count = shared.count ∧
      InService fit (shared.listen listener host).2.1
        (shared.listen listener host).2.2 := by
  unfold Shared.listen
  split
  · refine ⟨rfl, ?_⟩
    intro hcount
    refine ⟨(inService hcount).1, ?_⟩
    intro hnone
    cases hnone
  · rename_i hnone
    refine ⟨rfl, ?_⟩
    intro hcount
    exact absurd hnone (inService hcount).2

variable [Releasable σ]

theorem count_giveUp (shared : Shared σ α) (host : Host) :
    (shared.giveUp host).2.1.count = 0 := by
  unfold giveUp
  dsimp only
  split <;> rfl

/-- An owner who leaves others behind changes nothing but the count. -/
theorem close_of_others (hcount : shared.count ≠ 0) (hothers : shared.count ≠ 1) :
    shared.close host = (.ok (), { shared with count := shared.count - 1 }, host) := by
  unfold close
  split
  · rename_i hnone
    exact absurd hnone hcount
  · rename_i hone
    exact absurd hone hothers
  · rename_i n hmany
    rw [hmany]
    rfl

/-- The host matters only if somebody still owns the source. -/
theorem InService.close (inService : InService fit shared host) (hcount : shared.count ≠ 0)
    {host' : Host} (hhost : shared.count ≠ 1 -> host' = host) :
    (shared.close host).2.1.count = shared.count - 1 ∧
      InService fit (shared.close host).2.1 host' := by
  by_cases hlast : shared.count = 1
  · have hgiven : (shared.close host).2.1.count = 0 := by
      unfold Shared.close
      rw [hlast]
      exact count_giveUp shared host
    refine ⟨?_, ?_⟩
    · rw [hgiven, hlast]
    · intro hsome
      exact absurd hgiven hsome
  · rw [close_of_others hcount hlast, hhost hlast]
    refine ⟨rfl, ?_⟩
    intro _
    exact inService hcount

end Shared

namespace View

variable {σ α : Type} {view : View} {position length : Nat}

/-- Nothing is noted of a view that leaves others behind. -/
theorem drop_of_others [Releasable σ] [Listener α σ] (hopen : view.closed = false)
    {shared : Shared σ α} {host : Host} (hcount : shared.count ≠ 0)
    (hothers : shared.count ≠ 1) : (view.drop shared host).2 = host := by
  unfold drop
  rw [close_open hopen, Shared.close_of_others hcount hothers]

/-!
## Views without a source
-/

/-- A section of a view, if the view is open and the section fits. -/
def part? (view : View) (position length : Nat) : Option View :=
  if view.closed = false ∧ position + length ≤ view.size then
    some { offset := view.offset + position, size := length }
  else
    none

theorem part?_inside {view' : View} (h : view.part? position length = some view') :
    view'.offset + view'.size ≤ view.offset + view.size := by
  unfold part? at h
  split at h
  · rename_i hfits
    cases h
    rw [Nat.add_assoc]
    exact Nat.add_le_add_left hfits.2 _
  · cases h

theorem part?_open {view' : View} (h : view.part? position length = some view') :
    view.closed = false ∧ view'.closed = false := by
  unfold part? at h
  split at h
  · rename_i hfits
    cases h
    exact ⟨hfits.1, rfl⟩
  · cases h

end View

variable {κ σ α : Type}

/-- What a step on a view leaves of the views of its family, whatever their source is. -/
def FamilyStep.viewsAfter (views : List (Option View)) (number : Nat) (view : View) :
    FamilyStep κ α -> List (Option View)
  | takeSection position length => views ++ (view.part? position length).toList.map some
  | takeRest position =>
      views ++ (view.part? position (view.size - position)).toList.map some
  | ask _ => views
  | listen _ => views
  | close => views.set number (some { view with closed := true })
  | drop => views.set number none

/-- The views after some steps. -/
def viewsAfter (views : List (Option View)) :
    List (Nat × FamilyStep κ α) -> List (Option View)
  | [] => views
  | (number, step) :: rest =>
      match (views[number]?).join with
      | some view => viewsAfter (step.viewsAfter views number view) rest
      | none => viewsAfter views rest

/-!
## Families in service
-/

namespace Family

variable {data : Array UInt8} {fit : σ -> Host -> Prop} {family : Family σ α}

/-- All views of a family lie within the data.  The owners of the source are the live views,
and it is fit as long as there are any. -/
structure InService (data : Array UInt8) (fit : σ -> Host -> Prop) (family : Family σ α) :
    Prop where
  count_eq : family.shared.count = family.live
  source : family.shared.InService fit family.host
  inside : forall view, some view ∈ family.views -> view.offset + view.size ≤ data.size

theorem mem_views_of_view? {number : Nat} {view : View}
    (h : family.view? number = some view) : some view ∈ family.views :=
  List.mem_of_getElem? (views_of_view? h)

namespace InService

theorem start {source : σ} {host : Host} {view : View} (hfit : fit source host)
    (hopen : view.closed = false) (hinside : view.offset + view.size ≤ data.size) :
    InService data fit (Family.start source host view : Family σ α) where
  count_eq := (live_start source host hopen).symm
  source := Shared.inService_new hfit
  inside := by
    intro other hother
    cases List.mem_singleton.mp hother
    exact hinside

theorem count_ne_zero (inService : InService data fit family) {number : Nat} {view : View}
    (hview : family.view? number = some view) (hopen : view.closed = false) :
    family.shared.count ≠ 0 := by
  rw [inService.count_eq]
  exact Nat.ne_of_gt (live_pos hview hopen)

/-- Whoever takes a section of a view joins exactly if the section is a part of the view. -/
theorem join_part (inService : InService data fit family) {number : Nat} {view : View}
    (hview : family.view? number = some view) (position length : Nat) :
    let joined := family.join (view.section? family.shared position length)
    joined.views = family.views ++ (view.part? position length).toList.map some ∧
      InService data fit joined := by
  cases hpart : view.part? position length with
  | none =>
      have hrefused : exists error,
          view.section? family.shared position length = (.error error, family.shared) := by
        unfold View.part? at hpart
        split at hpart
        · cases hpart
        · rename_i hmisfit
          unfold View.section? checkRegion
          cases hclosed : view.closed with
          | true => exact ⟨_, rfl⟩
          | false =>
              rw [if_neg fun hfits => hmisfit ⟨hclosed, hfits⟩]
              exact ⟨_, rfl⟩
      rcases hrefused with ⟨error, hrefused⟩
      rw [hrefused]
      exact ⟨(List.append_nil _).symm, inService⟩
  | some view' =>
      rcases View.part?_open hpart with ⟨hopen, hopen'⟩
      have hcount := inService.count_ne_zero hview hopen
      have hjoined : view.section? family.shared position length =
          (.ok view', { family.shared with count := family.shared.count + 1 }) := by
        unfold View.part? at hpart
        split at hpart
        · rename_i hfits
          cases hpart
          unfold View.section? checkRegion Shared.retain
          rw [hopen, if_neg Bool.false_ne_true, if_pos hfits.2, if_neg hcount]
        · cases hpart
      rw [hjoined]
      refine ⟨rfl, ?_, ?_, ?_⟩
      · refine Eq.trans ?_ (live_append family _ view' hopen').symm
        exact congrArg (· + 1) inService.count_eq
      · intro _
        exact inService.source hcount
      · intro other hother
        rcases List.mem_append.mp hother with hold | hnew
        · exact inService.inside other hold
        · cases List.mem_singleton.mp hnew
          refine Nat.le_trans (View.part?_inside hpart) ?_
          exact inService.inside view (mem_views_of_view? hview)

theorem join_rest (inService : InService data fit family) {number : Nat} {view : View}
    (hview : family.view? number = some view) (position : Nat) :
    let joined := family.join (view.sectionFrom? family.shared position)
    joined.views =
        family.views ++ (view.part? position (view.size - position)).toList.map some ∧
      InService data fit joined := by
  unfold View.sectionFrom?
  by_cases hfits : position ≤ view.size
  · rw [if_pos hfits]
    exact inService.join_part hview position (view.size - position)
  · have hnone : view.part? position (view.size - position) = none := by
      unfold View.part?
      rw [if_neg]
      rintro ⟨_, hle⟩
      exact hfits (Nat.le_trans (Nat.le_add_right _ _) hle)
    rw [if_neg hfits, hnone]
    exact ⟨(List.append_nil _).symm, inService⟩

/-- A view that is replaced by one that is closed or gone. -/
theorem replaced_inside (inService : InService data fit family) {number : Nat}
    {last : Option View}
    (hlast : forall view, last = some view -> view.offset + view.size ≤ data.size) :
    forall view, some view ∈ family.views.set number last ->
      view.offset + view.size ≤ data.size := by
  intro view hview
  rcases List.mem_or_eq_of_mem_set hview with hold | hnew
  · exact inService.inside view hold
  · exact hlast view hnew.symm

theorem replaceClosed (inService : InService data fit family) {number : Nat} {view : View}
    (hview : family.view? number = some view) (hclosed : view.closed = true)
    {last : Option View} (hgone : isLive last = false)
    (hlast : forall view, last = some view -> view.offset + view.size ≤ data.size) :
    InService data fit { family with views := family.views.set number last } where
  count_eq := inService.count_eq.trans (countP_set_closed hview hclosed hgone).symm
  source := inService.source
  inside := inService.replaced_inside hlast

theorem replaceOpen [Releasable σ] [Listener α σ] (inService : InService data fit family)
    {number : Nat} {view : View} (hview : family.view? number = some view)
    (hopen : view.closed = false) {last : Option View} (hgone : isLive last = false)
    (hlast : forall view, last = some view -> view.offset + view.size ≤ data.size)
    {host : Host} (hhost : family.shared.count ≠ 1 -> host = family.host) :
    InService data fit
      { views := family.views.set number last
        shared := (family.shared.close family.host).2.1, host } := by
  rcases inService.source.close (inService.count_ne_zero hview hopen) hhost with
    ⟨hcount, hsource⟩
  rw [inService.count_eq] at hcount
  refine ⟨?_, hsource, inService.replaced_inside hlast⟩
  exact hcount.trans (countP_set_open hview hopen hgone).symm

variable [Sink κ] [Source σ] [Listener α σ] {prompt : Nat -> Prop}

theorem ask (inService : InService data fit family) (faithful : FaithfulSources data prompt fit)
    {number : Nat} {view : View} (hview : family.view? number = some view)
    (operation : Operation κ) :
    InService data fit (family.takeOn number view (.ask operation : FamilyStep κ α)) := by
  refine ⟨inService.count_eq, ?_, inService.inside⟩
  intro hcount
  rcases inService.source hcount with ⟨hfit, hlisteners⟩
  refine ⟨?_, hlisteners⟩
  change fit (operation.perform view family.shared.source family.host).2.1
    (operation.perform view family.shared.source family.host).2.2
  cases hclosed : view.closed with
  | true =>
      rw [operation.perform_closed hclosed family.shared.source family.host]
      exact hfit
  | false =>
      have hinside := inService.inside view (mem_views_of_view? hview)
      exact (operation.perform_answers faithful hclosed hinside hfit).2

/-- What one step leaves behind. -/
theorem takeOn (inService : InService data fit family)
    (faithful : FaithfulSources data prompt fit) {number : Nat} {view : View}
    (hview : family.view? number = some view) (step : FamilyStep κ α) :
    (family.takeOn number view step).views = step.viewsAfter family.views number view ∧
      InService data fit (family.takeOn number view step) := by
  have hnone : forall view : View, none = some view ->
      view.offset + view.size ≤ data.size := by
    intro view hsome
    cases hsome
  have hsame : forall other : View, some { view with closed := true } = some other ->
      other.offset + other.size ≤ data.size := by
    intro other hother
    cases hother
    exact inService.inside view (mem_views_of_view? hview)
  cases step with
  | takeSection position length => exact inService.join_part hview position length
  | takeRest position => exact inService.join_rest hview position
  | ask operation => exact ⟨rfl, inService.ask faithful hview operation⟩
  | listen listener =>
      rcases inService.source.listen listener with ⟨hcount, hsource⟩
      exact ⟨rfl, hcount.trans inService.count_eq, hsource, inService.inside⟩
  | close =>
      unfold Family.takeOn
      cases hclosed : view.closed with
      | true =>
          have hview' : { view with closed := true } = view := by
            rw [← hclosed]
          rw [View.close_closed hclosed]
          refine ⟨congrArg (fun view => family.views.set number (some view)) hview'.symm, ?_⟩
          rw [hview'] at hsame
          refine inService.replaceClosed hview hclosed ?_ hsame
          simp only [isLive, hclosed]
          rfl
      | false =>
          rw [View.close_open hclosed]
          refine ⟨rfl, inService.replaceOpen hview hclosed rfl hsame ?_⟩
          intro hothers
          rw [Shared.close_of_others (inService.count_ne_zero hview hclosed) hothers]
  | drop =>
      unfold Family.takeOn
      dsimp only
      cases hclosed : view.closed with
      | true =>
          rw [View.drop_closed hclosed]
          exact ⟨rfl, inService.replaceClosed hview hclosed rfl hnone⟩
      | false =>
          rw [View.drop_open hclosed]
          refine ⟨rfl, inService.replaceOpen hview hclosed rfl hnone ?_⟩
          intro hothers
          exact View.drop_of_others hclosed (inService.count_ne_zero hview hclosed) hothers

/-- What a run leaves behind. -/
theorem takeAll (inService : InService data fit family)
    (faithful : FaithfulSources data prompt fit) (steps : List (Nat × FamilyStep κ α)) :
    (family.takeAll steps).views = viewsAfter family.views steps ∧
      InService data fit (family.takeAll steps) := by
  induction steps generalizing family with
  | nil => exact ⟨rfl, inService⟩
  | cons numbered rest ih =>
      rcases numbered with ⟨number, step⟩
      unfold Family.takeAll viewsAfter Family.take
      cases hview : family.view? number with
      | none =>
          rw [show (family.views[number]?).join = none from hview]
          exact ih inService
      | some view =>
          rw [show (family.views[number]?).join = some view from hview]
          rcases inService.takeOn faithful hview step with ⟨hviews, hnext⟩
          rcases ih hnext with ⟨hrest, hlast⟩
          rw [hviews] at hrest
          exact ⟨hrest, hlast⟩

end InService

/-- The views after some steps on a first view, and the answers of those that are open. -/
structure ShowsWindows [Sink κ] [Source σ] (data : Array UInt8) (prompt : Nat -> Prop)
    (first : View) (steps : List (Nat × FamilyStep κ α)) (family : Family σ α) : Prop where
  views_eq : family.views = viewsAfter [some first] steps
  answers : forall number view, family.view? number = some view -> view.closed = false ->
    view.offset + view.size ≤ data.size ∧
      forall operation : Operation κ,
        operation.AnsweredBy (view.window data) prompt
          (operation.perform view family.shared.source family.host).1

end Family

/-!
## Sources made of the same bytes
-/

/-- A source that was made stands for the data.  A window that does not fit is refused, and
from a window that fits on, all views show their windows after any steps. -/
def Represents [Source σ] (data : Array UInt8) (prompt : Nat -> Prop)
    (made : Except Error σ × Host) : Prop :=
  exists source host, made = (.ok source, host) ∧
    forall (offset : Nat) (length : Option Nat),
      (data.size < offset + length.getD 0 ->
        ViewScene.openAt source host offset length =
          (.error (.outOfBounds (.region data.size offset (length.getD 0))),
            Source.discard source host)) ∧
      (offset + length.getD 0 ≤ data.size ->
        let view : View := { offset, size := length.getD (data.size - offset) }
        ViewScene.openAt source host offset length =
            (.ok { views := #[some view], shared := Shared.new source, host }, host) ∧
          forall (κ α : Type) [Sink κ] [Listener α σ]
            (steps : List (Nat × FamilyStep κ α)),
            Family.ShowsWindows data prompt view steps
              ((Family.start source host view).takeAll steps))

theorem View.select?_eq (total offset : Nat) (length : Option Nat) :
    View.select? total offset length =
      if offset + length.getD 0 ≤ total then
        .ok { offset, size := length.getD (total - offset) }
      else
        .error (.outOfBounds (.region total offset (length.getD 0))) := by
  cases length with
  | none => rfl
  | some length =>
      unfold View.select? checkRegion
      dsimp only [Option.getD_some]
      by_cases hfits : offset + length ≤ total
      · rw [if_pos hfits, if_pos hfits]
      · rw [if_neg hfits, if_neg hfits]

theorem FaithfulSources.represents_of_fit [Source σ] {data : Array UInt8}
    {prompt : Nat -> Prop} {fit : σ -> Host -> Prop}
    (faithful : FaithfulSources data prompt fit) {source : σ} {host : Host}
    (hfit : fit source host) :
    Represents data prompt ((.ok source, host) : Except Error σ × Host) := by
  refine ⟨source, host, rfl, ?_⟩
  intro offset length
  have hselect := View.select?_eq data.size offset length
  unfold ViewScene.openAt
  rw [faithful.size hfit, hselect]
  refine ⟨?_, ?_⟩
  · intro hmisfit
    rw [if_neg (Nat.not_le_of_lt hmisfit)]
  · intro hfits
    rw [if_pos hfits] at hselect ⊢
    refine ⟨rfl, ?_⟩
    intro κ α _ _ steps
    have hfirst := Family.InService.start (α := α) hfit (Family.select?_open hselect)
      (View.select?_inside hselect)
    rcases hfirst.takeAll faithful steps with ⟨hviews, hlast⟩
    refine ⟨hviews, ?_⟩
    intro number view hview hopen
    have hinside := hlast.inside view (Family.mem_views_of_view? hview)
    refine ⟨hinside, ?_⟩
    intro operation
    have hfit' := (hlast.source (hlast.count_ne_zero hview hopen)).1
    exact (operation.perform_answers faithful hopen hinside hfit').1

/-- The ways to make a source of some data, and the requests that it answers in full: of bytes
in memory, of an open file that holds them, of a cursor, or of streams that are opened as they
are needed.  Cursors and streams are reliable within the data, and files end far enough below
the limit of positions that the system fails no read.  One read of a file delivers no more than
the system can; a seekable source delivers what one read of its cursor does. -/
inductive Constructed (data : Array UInt8) :
    {σ : Type} -> [Source σ] -> (Nat -> Prop) -> Except Error σ × Host -> Prop where
  | array (host : Host) :
      Constructed data (fun _ => True) (.ok ({ bytes := data } : Memory), host)
  | buffer (host : Host) : Constructed data (fun _ => True) (.ok (Buffer.ofBytes data), host)
  | mapped {host : Host} {file : FileId} :
      host.disk.bytes file = data ->
      Constructed data (fun _ => True) (.ok (Buffer.ofFile host.disk file), host)
  | file {host : Host} {file : FileId} :
      host.disk.bytes file = data -> data.size < Disk.positionLimit ->
      Constructed data (fun length => length ≤ Disk.readLimit)
        (.ok (Positional.ofFile host.disk file), host)
  | channel {host : Host} {file : FileId} :
      host.disk.bytes file = data -> data.size < Disk.positionLimit ->
      Constructed data (fun length => length ≤ Disk.readLimit)
        (.ok (Channel.ofFile host.disk file), host)
  | seekable {ρ : Type} [ByteCursor ρ] {prompt : Nat -> Prop} {calm : Host -> Prop}
      {standsAt : ρ -> Nat -> Prop} {cursor : ρ} {position : Nat} {host : Host} :
      ReliableCursors data prompt calm standsAt -> calm host -> standsAt cursor position ->
      Constructed data prompt (SeekThenRead.ofCursor cursor host)
  | plainStreams {φ ρ : Type} [ByteReader ρ] [StreamFactory φ (Discarding ρ)]
      {prompt : Nat -> Prop} {trusted : φ -> Prop} {calm : Host -> Prop}
      {standsAt : ρ -> Nat -> Prop} {factory : φ} {host : Host} (capacity : Nat) :
      ReliableReaders data prompt calm standsAt ->
      ReliableFactories trusted calm (fun stream : Discarding ρ => standsAt stream.reader) ->
      trusted factory -> calm host ->
      Constructed data (fun _ => False)
        (.ok ({ factory, size := data.size, capacity } : Pool φ (Discarding ρ)), host)
  | seekableStreams {φ ρ : Type} [ByteCursor ρ] [StreamFactory φ (Jumping ρ)]
      {prompt : Nat -> Prop} {trusted : φ -> Prop} {calm : Host -> Prop}
      {standsAt : ρ -> Nat -> Prop} {factory : φ} {host : Host} (capacity : Nat) :
      ReliableCursors data prompt calm standsAt ->
      ReliableFactories trusted calm (fun stream : Jumping ρ => standsAt stream.cursor) ->
      trusted factory -> calm host ->
      Constructed data (fun _ => False)
        (.ok ({ factory, size := data.size, capacity } : Pool φ (Jumping ρ)), host)
  | namedStreams {name : String} {host : Host} {file : FileId} (capacity : Nat) :
      host.disk.openFile name = .ok file -> host.disk.bytes file = data ->
      data.size + BufferedFile.capacity < Disk.positionLimit ->
      Constructed data (fun _ => False)
        (.ok
          ({ factory := { name }, size := host.disk.size file, capacity } :
            Pool NamedFile (Discarding BufferedFile)), host)

/-- However a source was made of the data, it stands for the data. -/
theorem Constructed.represents [Source σ] {data : Array UInt8} {prompt : Nat -> Prop}
    {made : Except Error σ × Host} (constructed : Constructed data prompt made) :
    Represents data prompt made := by
  cases constructed with
  | array host => exact (Memory.faithful data).represents_of_fit rfl
  | buffer host =>
      exact (Buffer.faithful data).represents_of_fit (Buffer.shows_ofBytes data host)
  | mapped hbytes =>
      exact (Buffer.faithful data).represents_of_fit (Buffer.shows_ofFile hbytes)
  | file hbytes hlimit =>
      exact (Positional.faithful hlimit).represents_of_fit (Positional.reads_ofFile hbytes)
  | channel hbytes hlimit =>
      exact (Channel.faithful hlimit).represents_of_fit (Channel.reads_ofFile hbytes)
  | seekable reliable hcalm hstands =>
      rcases SeekThenRead.ofCursor_reads reliable hcalm hstands with
        ⟨source, host', hmade, hreads⟩
      rw [hmade]
      exact (SeekThenRead.faithful reliable).represents_of_fit hreads
  | plainStreams capacity reliable factories htrusted hcalm =>
      exact (Pool.faithful reliable.discarding factories).represents_of_fit
        (Pool.serves_empty htrusted hcalm capacity)
  | seekableStreams capacity reliable factories htrusted hcalm =>
      exact (Pool.faithful reliable.jumping factories).represents_of_fit
        (Pool.serves_empty htrusted hcalm capacity)
  | namedStreams capacity hopen hbytes hlimit =>
      rename_i name host file
      have hsize : host.disk.size file = data.size := congrArg Array.size hbytes
      have hstreams := (BufferedFile.reliable hbytes hlimit).discarding
      rw [hsize]
      refine (Pool.faithful hstreams (NamedFile.reliable hopen)).represents_of_fit ?_
      apply Pool.serves_empty _ _ capacity
      · rfl
      · rfl

/-- Three bytes in memory, in a named file, and behind streams over that file. -/
theorem Constructed.represents_threeBytes :
    let data : Array UInt8 := #[1, 2, 3]
    let host : Host := { disk := { names := [("data", 0)], contents := #[data] } }
    let atEnd : FileCursor := { file := 0, position := 3 }
    let atFront : FileCursor := { file := 0, position := 0 }
    let plain : Pool (Scripted.NumberingFactory (Discarding FileCursor))
        (Discarding FileCursor) :=
      { factory := { make := fun _ => .ok { reader := atFront } }, size := 3, capacity := 2 }
    let seekable : Pool (Scripted.NumberingFactory (Jumping FileCursor))
        (Jumping FileCursor) :=
      { factory := { make := fun _ => .ok { cursor := atFront } }, size := 3, capacity := 1 }
    let named : Pool NamedFile (Discarding BufferedFile) :=
      { factory := { name := "data" }, size := host.disk.size 0, capacity := 0 }
    Represents data (fun _ => True) (.ok ({ bytes := data } : Memory), host) ∧
      Represents data (fun _ => True) (.ok (Buffer.ofBytes data), host) ∧
      Represents data (fun _ => True) (.ok (Buffer.ofFile host.disk 0), host) ∧
      Represents data (fun length => length ≤ Disk.readLimit)
        (.ok (Positional.ofFile host.disk 0), host) ∧
      Represents data (fun length => length ≤ Disk.readLimit)
        (.ok (Channel.ofFile host.disk 0), host) ∧
      Represents data (fun length => length ≤ Disk.readLimit)
        (SeekThenRead.ofCursor atEnd host) ∧
      Represents data (fun _ => False) (.ok plain, host) ∧
      Represents data (fun _ => False) (.ok seekable, host) ∧
      Represents data (fun _ => False) (.ok named, host) := by
  intro data host atEnd atFront plain seekable named
  have hbytes : host.disk.bytes 0 = data := rfl
  have hlimit : data.size + BufferedFile.capacity < Disk.positionLimit := by decide
  have hbelow : data.size < Disk.positionLimit := by decide
  have hcursors := FileCursor.reliable hbytes hbelow
  have hstands : FileCursor.StandsAt 0 atEnd 3 := ⟨rfl, rfl⟩
  refine ⟨Constructed.represents (.array host), Constructed.represents (.buffer host),
    Constructed.represents (.mapped hbytes), Constructed.represents (.file hbytes hbelow),
    Constructed.represents (.channel hbytes hbelow),
    Constructed.represents (.seekable hcursors rfl hstands),
    Constructed.represents
      (.plainStreams 2 hcursors.toReliableReaders (NumberingFactory.reliable ?_) ?_ rfl),
    Constructed.represents
      (.seekableStreams 1 hcursors (NumberingFactory.reliable ?_) ?_ rfl),
    Constructed.represents (.namedStreams 0 rfl hbytes hlimit)⟩
  · intro host event hcalm
    exact hcalm
  · intro number
    exact ⟨_, rfl, rfl, rfl⟩
  · intro host event hcalm
    exact hcalm
  · intro number
    exact ⟨_, rfl, rfl, rfl⟩

/-- A request for all of a file is answered in part if one read cannot deliver all of it. -/
theorem View.readAt_inPart {data : Array UInt8} {host : Host} {file : FileId}
    (hbytes : host.disk.bytes file = data) (hlimit : data.size < Disk.positionLimit)
    (hlong : Disk.readLimit < data.size) {buffer : List UInt8}
    (hbuffer : buffer.length = data.size) :
    let view : View := { offset := 0, size := data.size }
    (view.readAt (Positional.ofFile host.disk file) host 0 buffer).outcome =
      .ok (some Disk.readLimit) := by
  intro view
  have hpos : 0 < buffer.length := hbuffer ▸ Nat.lt_of_le_of_lt (Nat.zero_le _) hlong
  have hrequest : view.requestLength buffer.length 0 0 buffer.length =
      .ok (some buffer.length) := by
    have hsize : view.size = buffer.length := hbuffer.symm
    unfold View.requestLength
    rw [hsize, Nat.sub_zero, Nat.min_self, if_neg (Nat.not_lt_zero _)]
    dsimp only
    rw [if_neg (fun h => Nat.ne_of_gt hpos h.1), if_neg (Nat.not_le_of_lt hpos), Nat.min_self]
  have hinside : 0 + buffer.length ≤ data.size := by omega
  have hread := (Positional.reads_ofFile hbytes).readVia_inside hlimit
    (List.ne_nil_of_length_pos hpos) hinside .blocking
  have hpiece : (slice data 0 (min buffer.length Disk.readLimit)).length = Disk.readLimit := by
    rw [slice_inside (by omega)]
    omega
  unfold View.readAt
  rw [View.read_eq_readInto rfl .blocking _ host hrequest (Nat.ne_of_gt hpos)]
  unfold View.readInto
  rw [List.drop_zero, List.take_length, hread]
  exact congrArg (fun n => Except.ok (some n)) hpiece

/-- Not every request for nothing is answered with nothing, and not every request is answered
with a number: past the end there is no answer, and behind the buffer there is an error.  And
not every number is that of all bytes that the window has: a file delivers no more at once than
one read of the system does. -/
theorem View.read_fallsShort :
    let bytes : Memory := { bytes := #[1, 2, 3] }
    let view : View := { offset := 0, size := 3 }
    let long : Array UInt8 := Array.replicate (Disk.readLimit + 1) 0
    let host : Host := { disk := { contents := #[long] } }
    ¬ ((view.readAt bytes {} 4 []).outcome = .ok none <->
        view.size ≤ 4 ∧ ([] : List UInt8) ≠ []) ∧
      (¬ exists n, (view.read .blocking bytes {} [0] 0 2 1).outcome = .ok (some n)) ∧
      (View.readAt { offset := 0, size := long.size } (Positional.ofFile host.disk 0) host 0
        long.toList).outcome ≠ .ok (some long.size) := by
  intro bytes view long host
  refine ⟨?_, ?_, ?_⟩
  · intro hexactly
    exact (hexactly.mp rfl).2 rfl
  · rintro ⟨n, hanswer⟩
    cases hanswer
  · have hsize : long.size = Disk.readLimit + 1 := Array.size_replicate
    have hlimit : long.size < Disk.positionLimit := by
      rw [hsize]
      decide
    have hlong : Disk.readLimit < long.size := by
      rw [hsize]
      exact Nat.lt_succ_self _
    have hbytes : host.disk.bytes 0 = long := rfl
    rw [View.readAt_inPart hbytes hlimit hlong Array.length_toList]
    intro hall
    exact Nat.ne_of_lt hlong (Option.some.inj (Except.ok.inj hall))

end ByteWindow
