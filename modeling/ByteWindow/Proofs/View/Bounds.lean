import ByteWindow.Proofs.View.Arithmetic
import ByteWindow.Scripted.Sink
import ByteWindow.Source.Memory

/-!
# Windows within windows

A view is reached from a source by selecting a window and taking sections of sections.  All
windows that are reached in this way lie within the source.  So what was shown for one
window holds for all of them: the source is only asked for what the window shows, and
nothing overflows.
-/

namespace ByteWindow
namespace View

/-- The views that can be reached over a source of `total` bytes, open or closed, while the
source itself may be in any state. -/
inductive Reachable (total : Nat) : View -> Prop
  | select {offset : Nat} {length : Option Nat} {view : View} :
      select? total offset length = .ok view -> Reachable total view
  | sectionOf {σ α : Type} {shared shared' : Shared σ α} {view view' : View}
      {position length : Nat} :
      Reachable total view -> view.section? shared position length = (.ok view', shared') ->
      Reachable total view'
  | sectionFrom {σ α : Type} {shared shared' : Shared σ α} {view view' : View}
      {position : Nat} :
      Reachable total view -> view.sectionFrom? shared position = (.ok view', shared') ->
      Reachable total view'
  | closed {view : View} : Reachable total view -> Reachable total { view with closed := true }

theorem select?_inside {total offset : Nat} {length : Option Nat} {view : View}
    (h : select? total offset length = .ok view) : view.offset + view.size ≤ total := by
  unfold select? at h
  split at h
  · split at h
    · rename_i hregion
      cases h
      exact checkRegion_ok hregion
    · cases h
  · split at h
    · rename_i hinside
      cases h
      exact Nat.le_of_eq (Nat.add_sub_cancel' hinside)
    · cases h

variable {σ α : Type} {view view' : View} {shared shared' : Shared σ α}
variable {position length : Nat}

/-- A section lies within its view. -/
theorem section?_inside (h : view.section? shared position length = (.ok view', shared')) :
    view.offset ≤ view'.offset ∧ view'.offset + view'.size ≤ view.offset + view.size := by
  unfold section? at h
  split at h
  · cases h
  · split at h
    · cases h
    · rename_i hregion
      have hinside := checkRegion_ok hregion
      split at h
      · cases h
      · cases h
        constructor
        · exact Nat.le_add_right _ _
        · rw [Nat.add_assoc]
          exact Nat.add_le_add_left hinside _

theorem sectionFrom?_eq_section?
    (h : view.sectionFrom? shared position = (.ok view', shared')) :
    view.section? shared position (view.size - position) = (.ok view', shared') := by
  unfold sectionFrom? at h
  split at h
  · exact h
  · cases h

theorem Reachable.inside {total : Nat} (h : Reachable total view) :
    view.offset + view.size ≤ total := by
  induction h with
  | select hselect => exact select?_inside hselect
  | sectionOf _ hsection ih => exact Nat.le_trans (section?_inside hsection).2 ih
  | sectionFrom _ hsection ih =>
      exact Nat.le_trans (section?_inside (sectionFrom?_eq_section? hsection)).2 ih
  | closed _ ih => exact ih

end View

variable {κ σ : Type}

/-- All numbers of an operation are words, and so are the lengths of its buffers. -/
def Operation.InWords : Operation κ -> Prop
  | read _ buffer position offset max | readFully _ buffer position offset max =>
      buffer.length < Word.limit ∧ position < Word.limit ∧ offset < Word.limit ∧
        max < Word.limit
  | readAt position buffer => position < Word.limit ∧ buffer.length < Word.limit
  | readFrom _ position max => position < Word.limit ∧ max < Word.limit
  | readAll _ => True
  | readByteAt position => position < Word.limit
  | transfer _ _ bufferSize => bufferSize < Word.limit
  | readerRead reader buffer => reader.position < Word.limit ∧ buffer.length < Word.limit
  | readerReadByte reader => reader.position < Word.limit
  | readerSkip reader n => reader.position < Word.limit ∧ n < Word.limit

variable [Sink κ] [Source σ] {view : View}

theorem Checked.perform_eq (hfits : FitsBuffers σ)
    (hview : view.offset + view.size < Word.limit) (s : σ) (host : Host)
    (operation : Operation κ) (hwords : operation.InWords) :
    Checked.perform view s host operation = some (operation.perform view s host) := by
  cases operation with
  | read mode buffer position offset max =>
      simp only [Checked.perform, Checked.read_eq hview mode s host hwords.1]
      rfl
  | readAt position buffer =>
      simp only [Checked.perform, Checked.read_eq hview .blocking s host hwords.2]
      rfl
  | readFully mode buffer position offset max =>
      simp only [Checked.perform, Checked.readFully_eq hfits hview mode s host hwords.1]
      rfl
  | readFrom mode position max =>
      simp only [Checked.perform, Checked.readFrom_eq hfits hview]
      rfl
  | readAll mode =>
      simp only [Checked.perform, Checked.readFrom_eq hfits hview]
      rfl
  | readByteAt position =>
      simp only [Checked.perform, Checked.readByteAt_eq hview]
      rfl
  | transfer mode sink bufferSize =>
      simp only [Checked.perform, Checked.transfer_eq hfits hview]
      rfl
  | readerRead reader buffer =>
      simp only [Checked.perform, Checked.readerRead_eq hfits hview hwords.1 s host hwords.2]
      rfl
  | readerReadByte reader =>
      simp only [Checked.perform, Checked.readerReadByte_eq hview]
      rfl
  | readerSkip reader n =>
      simp only [Checked.perform, Checked.readerSkip_eq hview hwords.1]
      rfl

/-- Every view that can be reached lies within its source.  Whatever it is asked, it asks its
source for at least one byte and for none outside of the window, and neither that nor taking
a section overflows. -/
theorem Operation.confined_perform (hfits : FitsBuffers σ) {total : Nat}
    (htotal : total < Word.limit) (hview : view.Reachable total) (s : σ) (host : Host)
    (operation : Operation κ) (hwords : operation.InWords) :
    view.offset + view.size ≤ total ∧
      (forall call,
        call ∈ (operation.perform view { source := s : Logged σ } host).2.1.calls ->
        view.Confines call) ∧
      Checked.perform view s host operation = some (operation.perform view s host) ∧
      forall (α : Type) (shared : Shared σ α) (position length : Nat),
        Checked.sectionOf view shared position length =
            some (view.section? shared position length) ∧
          Checked.sectionFrom view shared position =
            some (view.sectionFrom? shared position) := by
  have hinside := hview.inside
  have hword := Nat.lt_of_le_of_lt hinside htotal
  refine ⟨hinside, ?_, Checked.perform_eq hfits hword s host operation hwords, ?_⟩
  · intro call hcall
    rcases operation.grown_perform view { source := s : Logged σ } host with
      ⟨calls, hcalls, hallowed⟩
    rw [hcalls] at hcall
    exact (hallowed call hcall).2 hfits
  · intro α shared position length
    exact ⟨Checked.sectionOf_eq hword shared position length,
      Checked.sectionFrom_eq hword shared position⟩

theorem Memory.fitsBuffers : FitsBuffers Memory where
  count := by
    intro mode s host position n buffer hread
    have hread' : (Source.readAt s host position buffer).outcome = .ok (some n) := by
      cases mode <;> exact hread
    simp only [Source.readAt] at hread'
    split at hread'
    · cases hread'
      rw [length_slice]
      exact Nat.min_le_left _ _
    · cases hread'
  length := by
    intro mode s host position buffer
    have hread : (Source.readAt s host position buffer).buffer.length = buffer.length := by
      simp only [Source.readAt]
      split
      · apply length_overlay
        rw [length_slice]
        exact Nat.min_le_left _ _
      · rfl
    cases mode <;> exact hread

/-- Nine bytes, of which the middle five are shown. -/
theorem Operation.confined_perform_memory :
    let bytes : Memory := { bytes := #[1, 2, 3, 4, 5, 6, 7, 8, 9] }
    let view : View := { offset := 2, size := 5 }
    let operation : Operation Scripted.ScriptedSink :=
      .readFully .blocking [0, 0, 0, 0, 0, 0] 1 1 9
    view.offset + view.size ≤ 9 ∧
      (forall call,
        call ∈ (operation.perform view { source := bytes : Logged Memory } {}).2.1.calls ->
        view.Confines call) ∧
      Checked.perform view bytes {} operation = some (operation.perform view bytes {}) ∧
      forall (α : Type) (shared : Shared Memory α) (position length : Nat),
        Checked.sectionOf view shared position length =
            some (view.section? shared position length) ∧
          Checked.sectionFrom view shared position =
            some (view.sectionFrom? shared position) := by
  intro bytes view operation
  have hselect : View.select? 9 0 none = .ok { offset := 0, size := 9 } := rfl
  have hsection : View.section? { offset := 0, size := 9 } (Shared.new (α := Unit) bytes) 2 5 =
      (.ok view, { Shared.new bytes with count := 2 }) := rfl
  have hwords : operation.InWords := by
    change 6 < Word.limit ∧ 1 < Word.limit ∧ 1 < Word.limit ∧ 9 < Word.limit
    decide
  exact Operation.confined_perform Memory.fitsBuffers (by decide)
    (.sectionOf (.select hselect) hsection) bytes {} operation hwords

end ByteWindow
