import Mathlib.Data.List.Infix

/-!
# Idle calls in a row

Full reads, transfers and skips give up when too many calls in a row achieve nothing.  They count
such calls and start anew with every other call, so what they count is the row of idle calls at
the end of all calls so far.
-/

namespace ByteWindow

variable {α : Type} {idle call : α} {calls : List α} {count most n : Nat}

/-- The idle calls at the end, when one more call is made. -/
theorem replicate_suffix_concat_iff :
    List.replicate (n + 1) idle <:+ calls ++ [call] <->
      call = idle ∧ List.replicate n idle <:+ calls := by
  rw [List.replicate_succ', List.suffix_concat_iff]
  constructor
  · rintro (hnil | ⟨earlier, hconcat, hsuffix⟩)
    · cases List.append_ne_nil_of_right_ne_nil _ (List.cons_ne_nil _ _) hnil
    · rcases List.append_inj' hconcat rfl with ⟨rfl, hcall⟩
      exact ⟨(List.singleton_inj.mp hcall).symm, hsuffix⟩
  · rintro ⟨rfl, hsuffix⟩
    exact .inr ⟨_, rfl, hsuffix⟩

/-- The calls end with so many idle ones in a row, and with no more. -/
def EndsIdle (idle : α) (count : Nat) (calls : List α) : Prop :=
  forall n, List.replicate n idle <:+ calls <-> n ≤ count

namespace EndsIdle

theorem nil (idle : α) : EndsIdle idle 0 [] := by
  intro n
  rw [List.suffix_nil, List.replicate_eq_nil_iff, Nat.le_zero]

theorem once_more (ends : EndsIdle idle count calls) :
    EndsIdle idle (count + 1) (calls ++ [idle]) := by
  intro n
  cases n with
  | zero => exact iff_of_true List.nil_suffix (Nat.zero_le _)
  | succ n =>
      rw [replicate_suffix_concat_iff, ends n, Nat.succ_le_succ_iff]
      exact and_iff_right rfl

/-- Any other call ends a row of idle ones. -/
theorem interrupted (calls : List α) (hcall : call ≠ idle) : EndsIdle idle 0 (calls ++ [call]) := by
  intro n
  cases n with
  | zero => exact iff_of_true List.nil_suffix (Nat.zero_le _)
  | succ n =>
      rw [replicate_suffix_concat_iff]
      exact iff_of_false (fun h => hcall h.1) (Nat.not_succ_le_zero n)

/-- One more call makes no row too long if it does not make the last one too long. -/
theorem not_infix_concat (hlively : ¬ List.replicate most idle <:+: calls)
    (ends : EndsIdle idle count (calls ++ [call])) (hcount : count < most) :
    ¬ List.replicate most idle <:+: calls ++ [call] := by
  intro hidle
  rcases List.infix_concat_iff.mp hidle with hlast | hearlier
  · exact Nat.not_le_of_lt hcount ((ends most).mp hlast)
  · exact hlively hearlier

end EndsIdle
end ByteWindow
