import Mathlib.Data.List.Nodup
import Mathlib.Data.List.Infix
import ByteWindow.Host

/-!
# The lives of numbered streams

The record of a host tells when numbered streams were opened and closed.  Read as a list of
turns it is a ledger: what was opened and not yet closed is still open.  A ledger is
balanced against the streams that somebody holds if every stream that was opened is either
held or closed, exactly once, and if never more than a limit of them were open at the same
time.
-/

namespace ByteWindow

/-- A numbered stream was opened or closed. -/
inductive Turn
  | opened (stream : Nat)
  | closed (stream : Nat)
  deriving DecidableEq

/-- The turn that an event tells of.  A stream that failed to close is closed. -/
def Event.turn? : Event -> Option Turn
  | .opened stream => some (.opened stream)
  | .closed stream => some (.closed stream)
  | .closeFailed stream => some (.closed stream)
  | _ => none

/-- The turns that a host recorded. -/
def Host.turns (host : Host) : List Turn :=
  host.events.toList.filterMap Event.turn?

namespace Turn

/-- The streams that were opened. -/
def openedIn (turns : List Turn) : List Nat :=
  turns.filterMap fun
    | opened stream => some stream
    | closed _ => none

/-- The streams that were closed. -/
def closedIn (turns : List Turn) : List Nat :=
  turns.filterMap fun
    | opened _ => none
    | closed stream => some stream

/-- The streams that are still open. -/
def openAfter (turns : List Turn) : List Nat :=
  (openedIn turns).filter fun stream => stream ∉ closedIn turns

@[simp] theorem openedIn_append (earlier later : List Turn) :
    openedIn (earlier ++ later) = openedIn earlier ++ openedIn later :=
  List.filterMap_append

@[simp] theorem closedIn_append (earlier later : List Turn) :
    closedIn (earlier ++ later) = closedIn earlier ++ closedIn later :=
  List.filterMap_append

@[simp] theorem openedIn_opened (stream : Nat) : openedIn [opened stream] = [stream] := rfl

@[simp] theorem openedIn_closed (stream : Nat) : openedIn [closed stream] = [] := rfl

@[simp] theorem closedIn_opened (stream : Nat) : closedIn [opened stream] = [] := rfl

@[simp] theorem closedIn_closed (stream : Nat) : closedIn [closed stream] = [stream] := rfl

theorem length_openAfter_closed_le (turns : List Turn) (stream : Nat) :
    (openAfter (turns ++ [closed stream])).length ≤ (openAfter turns).length := by
  unfold openAfter
  rw [openedIn_append, openedIn_closed, List.append_nil, closedIn_append, closedIn_closed]
  apply List.Sublist.length_le
  apply List.monotone_filter_right
  intro other hother
  simp only [List.mem_append, not_or, decide_eq_true_eq] at hother ⊢
  exact hother.1

/-- Turns leave at most those streams open that were open before and those that they open. -/
theorem length_openAfter_append_le (earlier later : List Turn) :
    (openAfter (earlier ++ later)).length ≤
      (openAfter earlier).length + (openedIn later).length := by
  unfold openAfter
  rw [openedIn_append, closedIn_append, List.filter_append, List.length_append]
  refine Nat.add_le_add (List.Sublist.length_le ?_) (List.length_filter_le _ _)
  apply List.monotone_filter_right
  intro stream hstream
  simp only [List.mem_append, not_or, decide_eq_true_eq] at hstream ⊢
  exact hstream.1

end Turn

/-!
## Balanced ledgers
-/

/-- The turns account for the streams that are held: each stream that was opened is held or
closed, once.  Numbers from `next` on are not in use yet, and at no time were more than
`limit` streams open. -/
structure Balanced (limit next : Nat) (held : List Nat) (turns : List Turn) : Prop where
  accounted : (Turn.openedIn turns).Perm (held ++ Turn.closedIn turns)
  distinct : (Turn.openedIn turns).Nodup
  known : forall stream, stream ∈ Turn.openedIn turns -> stream < next
  moments : forall past, past <+: turns -> (Turn.openAfter past).length ≤ limit

namespace Balanced

variable {limit next next' stream : Nat} {held held' : List Nat} {turns : List Turn}

theorem empty (limit next : Nat) : Balanced limit next [] [] where
  accounted := .nil
  distinct := .nil
  known := by
    intro stream hopened
    cases hopened
  moments := by
    intro past hpast
    rw [List.prefix_nil.mp hpast]
    exact Nat.zero_le _

theorem of_perm (h : Balanced limit next held turns) (hperm : held.Perm held') :
    Balanced limit next held' turns :=
  { h with accounted := h.accounted.trans (hperm.append_right _) }

theorem of_le (h : Balanced limit next held turns) (hle : next ≤ next') :
    Balanced limit next' held turns :=
  { h with known := fun stream hopened => Nat.lt_of_lt_of_le (h.known stream hopened) hle }

theorem nodup (h : Balanced limit next held turns) : (held ++ Turn.closedIn turns).Nodup :=
  h.accounted.nodup_iff.mp h.distinct

/-- What is held is what is still open. -/
theorem openAfter_perm (h : Balanced limit next held turns) :
    (Turn.openAfter turns).Perm held := by
  rcases List.nodup_append.mp h.nodup with ⟨_, _, hdisjoint⟩
  have hfilter := h.accounted.filter fun stream => decide (stream ∉ Turn.closedIn turns)
  have hheld : held.filter (fun stream => decide (stream ∉ Turn.closedIn turns)) = held := by
    apply List.filter_eq_self.mpr
    intro stream hstream
    exact decide_eq_true fun hclosed => hdisjoint stream hstream stream hclosed rfl
  have hclosed : (Turn.closedIn turns).filter
      (fun stream => decide (stream ∉ Turn.closedIn turns)) = [] := by
    apply List.filter_eq_nil_iff.mpr
    intro stream hstream
    simpa using hstream
  rw [List.filter_append, hheld, hclosed, List.append_nil] at hfilter
  exact hfilter

/-- A stream that was opened is held or closed, once, and never both. -/
theorem once (h : Balanced limit next held turns) (hopened : stream ∈ Turn.openedIn turns) :
    held.count stream = 1 ∧ (Turn.closedIn turns).count stream = 0 ∨
      held.count stream = 0 ∧ (Turn.closedIn turns).count stream = 1 := by
  have hone := List.count_eq_one_of_mem h.distinct hopened
  rw [h.accounted.count_eq, List.count_append] at hone
  omega

theorem opened (h : Balanced limit next held turns) (hroom : held.length < limit)
    (hfresh : next ≤ stream) (hnext : stream < next') :
    Balanced limit next' (stream :: held) (turns ++ [.opened stream]) where
  accounted := by
    simp only [Turn.openedIn_append, Turn.openedIn_opened, Turn.closedIn_append,
      Turn.closedIn_opened, List.append_nil]
    exact List.perm_append_singleton _ _ |>.trans (h.accounted.cons stream)
  distinct := by
    rw [Turn.openedIn_append, Turn.openedIn_opened]
    apply List.nodup_append.mpr
    refine ⟨h.distinct, List.nodup_singleton _, ?_⟩
    intro earlier hearlier later hlater
    have hknown := h.known earlier hearlier
    rw [List.mem_singleton] at hlater
    omega
  known := by
    intro other hother
    rw [Turn.openedIn_append, Turn.openedIn_opened] at hother
    rcases List.mem_append.mp hother with hearlier | hlater
    · have hknown := h.known other hearlier
      omega
    · rw [List.mem_singleton] at hlater
      omega
  moments := by
    intro past hpast
    -- Only now, with the new turn, can more streams be open than ever before.
    rcases List.prefix_concat_iff.mp hpast with rfl | hearlier
    · have hcount := h.openAfter_perm.length_eq
      have hone : (Turn.openAfter (turns ++ [.opened stream])).length ≤
          (Turn.openAfter turns).length + 1 := by
        unfold Turn.openAfter
        simp only [Turn.openedIn_append, Turn.openedIn_opened, Turn.closedIn_append,
          Turn.closedIn_opened, List.append_nil, List.filter_append, List.length_append]
        have hlast := List.length_filter_le
          (fun other => decide (other ∉ Turn.closedIn turns)) [stream]
        rw [List.length_singleton] at hlast
        omega
      omega
    · exact h.moments past hearlier

theorem closed (h : Balanced limit next (stream :: held) turns) :
    Balanced limit next held (turns ++ [.closed stream]) where
  accounted := by
    simp only [Turn.openedIn_append, Turn.openedIn_closed, List.append_nil,
      Turn.closedIn_append, Turn.closedIn_closed]
    refine h.accounted.trans ?_
    rw [← List.append_assoc]
    exact (List.perm_append_singleton _ _).symm
  distinct := by
    rw [Turn.openedIn_append, Turn.openedIn_closed, List.append_nil]
    exact h.distinct
  known := by
    intro other hother
    rw [Turn.openedIn_append, Turn.openedIn_closed, List.append_nil] at hother
    exact h.known other hother
  moments := by
    intro past hpast
    rcases List.prefix_concat_iff.mp hpast with rfl | hearlier
    · exact (Turn.length_openAfter_closed_le turns stream).trans
        (h.moments turns List.prefix_rfl)
    · exact h.moments past hearlier

theorem closedAll {streams : List Nat} (h : Balanced limit next (streams ++ held) turns) :
    Balanced limit next held (turns ++ streams.map .closed) := by
  induction streams generalizing turns with
  | nil =>
      rw [List.map_nil, List.append_nil]
      exact h
  | cons stream rest ih =>
      have hfirst := ih h.closed
      rw [List.append_assoc] at hfirst
      exact hfirst

end Balanced
end ByteWindow
