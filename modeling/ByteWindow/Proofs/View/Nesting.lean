import Mathlib.Algebra.GroupWithZero.Nat
import ByteWindow.Proofs.View.Family
import ByteWindow.Source.Memory

/-!
# Sections of sections

A section of a section is a section of the view it all began with: positions add up, and the
length is that of the last section.  A chain of sections goes on as long as each one fits the
one before, however deep it is.

Views only differ in how they name the places of their source.  A full read is carried out at
places of the source, whatever view it is asked of, and only its report is told in the
positions of the view.  So a section that is read as a whole and the same bytes read from the
view around it are one read with two reports.
-/

namespace ByteWindow

variable {κ σ α : Type}

/-!
## Chains of sections
-/

namespace View

/-- Take a section of a view, a section of that one, and so on.  The first section that is
refused ends the chain. -/
def sections? (view : View) (shared : Shared σ α) :
    List (Nat × Nat) -> Except Error View × Shared σ α
  | [] => (.ok view, shared)
  | (position, length) :: rest =>
      match view.section? shared position length with
      | (.error error, shared) => (.error error, shared)
      | (.ok inner, shared) => inner.sections? shared rest

theorem isOpen_iff {view : View} {shared : Shared σ α} :
    view.isOpen shared = true <-> view.closed = false ∧ shared.count ≠ 0 := by
  simp [isOpen, Shared.isOpen, Nat.pos_iff_ne_zero]

/-- An open view grants each section that fits and refuses the others. -/
theorem section?_open {view : View} {shared : Shared σ α} (hopen : view.isOpen shared = true)
    (position length : Nat) :
    view.section? shared position length =
      if position + length ≤ view.size then
        (.ok { offset := view.offset + position, size := length },
          { shared with count := shared.count + 1 })
      else
        (.error (.outOfBounds (.region view.size position length)), shared) := by
  rcases isOpen_iff.mp hopen with ⟨hclosed, hcount⟩
  unfold section? checkRegion Shared.retain
  rw [hclosed, if_neg hcount]
  by_cases hfits : position + length ≤ view.size
  · rw [if_pos hfits, if_pos hfits]
    rfl
  · rw [if_neg hfits, if_neg hfits]
    rfl

/-- Where a chain of sections leads: the view is open, it lies within the view that the chain
began with, and only the number of owners has grown. -/
structure LeadsTo (view : View) (shared : Shared σ α) (chain : List (Nat × Nat))
    (inner : View) (shared' : Shared σ α) : Prop where
  opened : inner.isOpen shared' = true
  offset_eq : inner.offset = view.offset + (chain.map Prod.fst).sum
  size_eq : inner.size = chain.foldl (fun _ part => part.2) view.size
  within : (chain.map Prod.fst).sum + inner.size ≤ view.size
  shared_eq : shared' = { shared with count := shared.count + chain.length }

theorem leadsTo_of_sections {view inner : View} {shared shared' : Shared σ α}
    {chain : List (Nat × Nat)} (hopen : view.isOpen shared = true)
    (hchain : view.sections? shared chain = (.ok inner, shared')) :
    LeadsTo view shared chain inner shared' := by
  induction chain generalizing view shared with
  | nil =>
      cases hchain
      exact ⟨hopen, rfl, rfl, Nat.le_of_eq (Nat.zero_add _), rfl⟩
  | cons part rest ih =>
      rcases part with ⟨position, length⟩
      rw [sections?, section?_open hopen] at hchain
      by_cases hfits : position + length ≤ view.size
      · rw [if_pos hfits] at hchain
        have hjoined : isOpen { offset := view.offset + position, size := length }
            { shared with count := shared.count + 1 } = true :=
          isOpen_iff.mpr ⟨rfl, Nat.succ_ne_zero _⟩
        rcases ih hjoined hchain with ⟨hopened, hoffset, hsize, hwithin, hshared⟩
        constructor
        · exact hopened
        · rw [hoffset, List.map_cons, List.sum_cons, Nat.add_assoc]
        · exact hsize
        · rw [List.map_cons, List.sum_cons, Nat.add_assoc]
          exact Nat.le_trans (Nat.add_le_add_left hwithin position) hfits
        · rw [hshared, List.length_cons, Nat.add_assoc, Nat.add_comm 1]
      · rw [if_neg hfits] at hchain
        cases hchain

theorem section?_of_sections {view inner : View} {shared shared' : Shared σ α}
    {chain : List (Nat × Nat)} {last : Nat × Nat} (hopen : view.isOpen shared = true)
    (hchain : view.sections? shared (chain ++ [last]) = (.ok inner, shared')) :
    view.section? shared ((chain ++ [last]).map Prod.fst).sum last.2 =
      (.ok inner, { shared with count := shared.count + 1 }) := by
  rcases leadsTo_of_sections hopen hchain with ⟨hopened, hoffset, hsize, hwithin, _⟩
  have hlast : inner.size = last.2 := by
    rw [hsize, List.foldl_append]
    rfl
  have hclosed := (isOpen_iff.mp hopened).1
  rw [section?_open hopen, ← hlast, if_pos hwithin, ← hoffset, ← hclosed]

end View

/-!
## Full reads at places of the source
-/

/-- How a full read ends, at a place of the source. -/
inductive FillEnd
  | complete
  /-- The source had nothing at this place, or it delivered nothing too often in a row. -/
  | early (place : Nat)
  /-- The source failed. -/
  | failed (error : Error)

/-- What a full read leaves behind. -/
structure Filled (σ : Type) where
  ending : FillEnd
  buffer : List UInt8
  source : σ
  host : Host

/-- Fill the rest of a buffer from a place of the source on, with no view in between. -/
def Source.fillAt [Source σ] (mode : Mode) (s : σ) (host : Host) (done rest : List UInt8)
    (place remaining idle : Nat) : Filled σ :=
  if remaining = 0 then
    { ending := .complete, buffer := done.reverseAux rest, source := s, host }
  else
    let reading := Source.readVia mode s host place rest
    let stop (ending : FillEnd) : Filled σ :=
      { ending
        buffer := done.reverseAux reading.buffer
        source := reading.source
        host := reading.host }
    match reading.outcome with
    | .error error => stop (.failed error)
    | .ok none => stop (.early place)
    | .ok (some 0) =>
        if idle + 1 < View.maxIdleReads then
          Source.fillAt mode reading.source reading.host done reading.buffer place remaining
            (idle + 1)
        else
          stop (.early place)
    | .ok (some (n + 1)) =>
        Source.fillAt mode reading.source reading.host
          ((reading.buffer.take (n + 1)).reverseAux done) (reading.buffer.drop (n + 1))
          (place + (n + 1)) (remaining - (n + 1)) 0
termination_by (remaining, View.maxIdleReads - idle)
decreasing_by
  all_goals simp_wf
  · exact Prod.Lex.right _ (by omega)
  · exact Prod.Lex.left _ _ (by omega)

/-- The report of a view on how a full read ended. -/
def FillEnd.report (view : View) : FillEnd -> Except Error Unit
  | complete => .ok ()
  | early place => .error (view.unexpectedEof (place - view.offset))
  | failed error => .error error

theorem FillEnd.report_early (view : View) (position : Nat) :
    (early (view.offset + position)).report view = .error (view.unexpectedEof position) := by
  dsimp only [report]
  rw [Nat.add_sub_cancel_left]

/-- A full read as a view tells it. -/
def Filled.toldBy (view : View) (filled : Filled σ) : Reading Unit σ :=
  { outcome := filled.ending.report view
    buffer := filled.buffer
    source := filled.source
    host := filled.host }

/-- A read that ends early ends behind the place where it started. -/
theorem Source.le_of_fillAt_early [Source σ] {mode : Mode} {s : σ} {host : Host}
    {done rest : List UInt8} {place remaining idle stop : Nat}
    (hearly : (fillAt mode s host done rest place remaining idle).ending = .early stop) :
    place ≤ stop := by
  fun_induction Source.fillAt mode s host done rest place remaining idle with
  | case1 => cases hearly
  | case2 => cases hearly
  | case3 =>
      cases hearly
      exact Nat.le_refl _
  | case4 s host done rest place remaining idle _ reading _ _ ih => exact ih hearly
  | case5 =>
      cases hearly
      exact Nat.le_refl _
  | case6 s host done rest place remaining idle _ reading n _ ih =>
      exact Nat.le_trans (Nat.le_add_right _ _) (ih hearly)

namespace View

variable [Source σ]

/-- The loop of a view is the loop at places of the source, as the view tells it. -/
theorem fillRemaining_eq_fillAt (mode : Mode) (view : View) (s : σ) (host : Host)
    (done rest : List UInt8) (position remaining idle : Nat) :
    view.fillRemaining mode s host done rest position remaining idle =
      (Source.fillAt mode s host done rest (view.offset + position) remaining idle).toldBy
        view := by
  -- A turn of either loop asks for the same bytes at the same place, so both take one branch.
  fun_induction View.fillRemaining mode view s host done rest position remaining idle with
  | case1 =>
      rw [Source.fillAt, if_pos rfl]
      rfl
  | case2 s host done rest position remaining idle hremaining reading error houtcome =>
      rw [Source.fillAt, if_neg hremaining]
      dsimp only
      rw [houtcome]
      rfl
  | case3 s host done rest position remaining idle hremaining reading houtcome =>
      rw [Source.fillAt, if_neg hremaining]
      dsimp only
      rw [houtcome]
      dsimp only [Filled.toldBy]
      rw [FillEnd.report_early]
      rfl
  | case4 s host done rest position remaining idle hremaining reading houtcome hmore ih =>
      rw [Source.fillAt, if_neg hremaining]
      dsimp only
      rw [houtcome]
      dsimp only
      rw [if_pos hmore]
      exact ih
  | case5 s host done rest position remaining idle hremaining reading houtcome hmore =>
      rw [Source.fillAt, if_neg hremaining]
      dsimp only
      rw [houtcome]
      dsimp only
      rw [if_neg hmore]
      dsimp only [Filled.toldBy]
      rw [FillEnd.report_early]
      rfl
  | case6 s host done rest position remaining idle hremaining reading n houtcome ih =>
      rw [Source.fillAt, if_neg hremaining]
      dsimp only
      rw [houtcome]
      dsimp only
      rw [Nat.add_assoc]
      exact ih

/-- The bytes of a view from a position on, all of which the view has. -/
theorem readFrom_eq_fillAt {view : View} {position length : Nat} (hopen : view.closed = false)
    (hinside : position + length ≤ view.size) (mode : Mode) (s : σ) (host : Host) :
    let filled := Source.fillAt mode s host [] (List.replicate length 0)
      (view.offset + position) length 0
    view.readFrom mode s host position length =
      ((filled.ending.report view).map fun _ => filled.buffer, filled.source, filled.host) := by
  intro filled
  have havailable : view.availableLength position length = .ok length := by
    unfold availableLength
    rw [if_neg (by omega), Nat.min_eq_right (by omega)]
  unfold readFrom
  rw [if_neg (by rw [hopen]; exact Bool.false_ne_true), havailable]
  dsimp only
  unfold fill
  rw [fillRemaining_eq_fillAt, List.length_replicate]
  rfl

/-!
## A section as a whole
-/

/-- Two reports of one read: of a section as a whole, and of the same bytes of the view that
the section was taken of. -/
inductive ReportedAlike (view : View) (position length : Nat) (filled : Filled σ) :
    Except Error (List UInt8) -> Except Error (List UInt8) -> Prop where
  | complete :
      filled.ending = .complete ->
      ReportedAlike view position length filled (.ok filled.buffer) (.ok filled.buffer)
  | early {delivered : Nat} :
      filled.ending = .early (view.offset + position + delivered) ->
      ReportedAlike view position length filled
        (.error (.unexpectedEof delivered length))
        (.error (.unexpectedEof (position + delivered) view.size))
  | failed {error : Error} :
      filled.ending = .failed error ->
      ReportedAlike view position length filled (.error error) (.error error)

/-- A section read as a whole and the same bytes read from the view around it are one read of
the source. -/
structure ReadAsOne (mode : Mode) (s : σ) (host : Host) (view inner : View)
    (position length : Nat) (filled : Filled σ) : Prop where
  whole : (inner.readAll mode s host).2 = (filled.source, filled.host)
  part : (view.readFrom mode s host position length).2 = (filled.source, filled.host)
  reported : ReportedAlike view position length filled (inner.readAll mode s host).1
    (view.readFrom mode s host position length).1

theorem readAsOne {view : View} {position length : Nat} (hopen : view.closed = false)
    (hinside : position + length ≤ view.size) (mode : Mode) (s : σ) (host : Host) :
    ReadAsOne mode s host view { offset := view.offset + position, size := length } position
      length
      (Source.fillAt mode s host [] (List.replicate length 0) (view.offset + position) length
        0) := by
  let inner : View := { offset := view.offset + position, size := length }
  have hopen' : inner.closed = false := rfl
  have hwhole : inner.readAll mode s host = _ :=
    readFrom_eq_fillAt hopen' (Nat.le_of_eq (Nat.zero_add length)) mode s host
  have hpart := readFrom_eq_fillAt hopen hinside mode s host
  rw [Nat.add_zero] at hwhole
  generalize hfilled : Source.fillAt mode s host [] (List.replicate length 0)
    (view.offset + position) length 0 = filled at hpart
  have hstarted {stop : Nat} (hearly : filled.ending = .early stop) :
      view.offset + position ≤ stop := by
    rw [← hfilled] at hearly
    exact Source.le_of_fillAt_early hearly
  constructor
  · rw [hwhole, hfilled]
  · rw [hpart]
  · rw [hwhole, hpart]
    dsimp only [inner]
    rw [hfilled]
    cases hending : filled.ending with
    | complete => exact .complete hending
    | failed error => exact .failed hending
    | early stop =>
        rcases Nat.exists_eq_add_of_le (hstarted hending) with ⟨delivered, rfl⟩
        have hinner := FillEnd.report_early inner delivered
        have houter := FillEnd.report_early view (position + delivered)
        rw [← Nat.add_assoc] at houter
        rw [hinner, houter]
        exact .early hending

/-!
## Sections of an open view
-/

/-- How the sections of an open view compose. -/
structure Composes (view : View) (shared : Shared (Logged σ) α) : Prop where
  /-- A section of the last view of a chain is granted exactly if it fits. -/
  granted : forall chain inner shared', view.sections? shared chain = (.ok inner, shared') ->
    forall position length,
      (exists next shared'', inner.section? shared' position length = (.ok next, shared'')) <->
        position + length ≤ inner.size
  refused : forall chain inner shared', view.sections? shared chain = (.ok inner, shared') ->
    forall position length, inner.size < position + length ->
      inner.section? shared' position length =
        (.error (.outOfBounds (.region inner.size position length)), shared')
  /-- A chain leads to the section of the first view at the sum of the positions. -/
  direct : forall chain last inner shared',
    view.sections? shared (chain ++ [last]) = (.ok inner, shared') ->
    view.section? shared ((chain ++ [last]).map Prod.fst).sum last.2 =
      (.ok inner, { shared with count := shared.count + 1 })
  /-- Whatever the two are asked, they ask the source alike and answer alike. -/
  asked : forall chain last inner single shared' shared'',
    view.sections? shared (chain ++ [last]) = (.ok inner, shared') ->
    view.section? shared ((chain ++ [last]).map Prod.fst).sum last.2 = (.ok single, shared'') ->
    forall (κ : Type) [Sink κ] (operation : Operation κ) (s : Logged σ) (host : Host),
      operation.perform inner s host = operation.perform single s host
  /-- A section as a whole is as good as its bytes in the view around it. -/
  whole : forall position length, position + length ≤ view.size ->
    exists inner shared', view.section? shared position length = (.ok inner, shared') ∧
      forall (mode : Mode) (s : Logged σ) (host : Host),
        ReadAsOne mode s host view inner position length
          (Source.fillAt mode s host [] (List.replicate length 0) (view.offset + position)
            length 0)

/-- Sections of an open view compose, over every source in every state. -/
theorem composes {view : View} {shared : Shared (Logged σ) α}
    (hopen : view.isOpen shared = true) : Composes view shared where
  granted := by
    intro chain inner shared' hchain position length
    rw [section?_open (leadsTo_of_sections hopen hchain).opened]
    constructor
    · rintro ⟨next, shared'', hnext⟩
      by_contra hmisfit
      rw [if_neg hmisfit] at hnext
      cases hnext
    · intro hfits
      rw [if_pos hfits]
      exact ⟨_, _, rfl⟩
  refused := by
    intro chain inner shared' hchain position length hmisfit
    rw [section?_open (leadsTo_of_sections hopen hchain).opened,
      if_neg (Nat.not_le_of_lt hmisfit)]
  direct := by
    intro chain last inner shared' hchain
    exact section?_of_sections hopen hchain
  asked := by
    intro chain last inner single shared' shared'' hchain hsingle κ _ operation s host
    rw [section?_of_sections hopen hchain] at hsingle
    cases hsingle
    rfl
  whole := by
    intro position length hinside
    rw [section?_open hopen, if_pos hinside]
    refine ⟨_, _, rfl, ?_⟩
    intro mode s host
    exact readAsOne (isOpen_iff.mp hopen).1 hinside mode s host

/-- Of the view of ten bytes, the six bytes from the second on, and of those the three in the
middle. -/
theorem composes_tenBytes :
    let source : Logged Memory := { source := { bytes := #[0, 1, 2, 3, 4, 5, 6, 7, 8, 9] } }
    let view : View := { offset := 0, size := 10 }
    let shared : Shared (Logged Memory) Scripted.ScriptedListener := Shared.new source
    view.isOpen shared = true ∧
      view.sections? shared [(2, 6), (1, 3)] =
        (.ok { offset := 3, size := 3 }, { shared with count := 3 }) ∧
      Composes view shared := by
  intro source view shared
  have hopen : view.isOpen shared = true := rfl
  exact ⟨hopen, rfl, composes hopen⟩

end View
end ByteWindow
