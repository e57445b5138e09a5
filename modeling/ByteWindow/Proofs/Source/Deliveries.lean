import Mathlib.Data.List.Infix
import ByteWindow.View.Read

/-!
# What the answers of a source decide

A source may answer each read as it likes: with a piece, with nothing more, or with a
failure.  A full read asks again and again for what is still missing, and one of the answers
settles how it ends.  The pieces add up to the length that was asked for, or something else
comes first: the end of the data, a third empty piece in a row, or a failure.

Only one answer can settle a read, for an answer that leaves it open is followed by others
and an answer that settles it is the last.
-/

namespace ByteWindow

/-- The answer of a source to a read. -/
inductive Delivery
  | piece (bytes : List UInt8)
  | ended
  | failed (error : Error)

namespace Delivery

variable {σ : Type}

def ofReading (reading : Reading (Option Nat) σ) : Delivery :=
  match reading.outcome with
  | .ok (some n) => piece (reading.buffer.take n)
  | .ok none => ended
  | .error error => failed error

def bytes : Delivery -> List UInt8
  | piece bytes => bytes
  | ended | failed _ => []

/-- The bytes of several answers together. -/
def bytesOf (answers : List Delivery) : List UInt8 :=
  answers.flatMap bytes

theorem bytesOf_append (earlier later : List Delivery) :
    bytesOf (earlier ++ later) = bytesOf earlier ++ bytesOf later :=
  List.flatMap_append

theorem bytesOf_piece (piece : List UInt8) : bytesOf [.piece piece] = piece :=
  List.append_nil piece

/-- The first answers of a source that is asked again and again for the rest of a buffer,
each time behind the bytes that it delivered so far. -/
def answers [Source σ] (mode : Mode) (s : σ) (host : Host) (place : Nat)
    (rest : List UInt8) : Nat -> List Delivery
  | 0 => []
  | k + 1 =>
      let reading := Source.readVia mode s host place rest
      let delivery := ofReading reading
      delivery :: answers mode reading.source reading.host
        (place + delivery.bytes.length) (reading.buffer.drop delivery.bytes.length) k

theorem answers_isPrefix [Source σ] (mode : Mode) (s : σ) (host : Host) (place : Nat)
    (rest : List UInt8) {j k : Nat} (hle : j ≤ k) :
    answers mode s host place rest j <+: answers mode s host place rest k := by
  induction j generalizing s host place rest k with
  | zero => exact List.nil_prefix
  | succ j ih =>
      cases k with
      | zero => cases hle
      | succ k =>
          apply List.cons_prefix_cons.mpr
          constructor
          · rfl
          · exact ih _ _ _ _ (Nat.le_of_succ_le_succ hle)

end Delivery

open Delivery

/-!
## Open reads
-/

/-- Answers that leave a read of `length` bytes open: pieces, too few bytes in all, and never
so many empty pieces in a row that the source is given up. -/
structure LeftOpen (length : Nat) (answers : List Delivery) : Prop where
  pieces : forall answer, answer ∈ answers -> exists bytes, answer = .piece bytes
  short : (bytesOf answers).length < length
  lively : ¬ List.replicate View.maxIdleReads (.piece []) <:+: answers

theorem LeftOpen.of_isPrefix {length : Nat} {earlier answers : List Delivery}
    (leftOpen : LeftOpen length answers) (hbefore : earlier <+: answers) :
    LeftOpen length earlier := by
  rcases hbefore with ⟨later, rfl⟩
  constructor
  · intro answer hanswer
    exact leftOpen.pieces answer (List.mem_append_left _ hanswer)
  · have hshort := leftOpen.short
    rw [bytesOf_append, List.length_append] at hshort
    exact Nat.lt_of_le_of_lt (Nat.le_add_right _ _) hshort
  · intro hidle
    exact leftOpen.lively (hidle.trans (List.prefix_append _ _).isInfix)

/-!
## Settled reads
-/

/-- How a full read ends. -/
inductive Verdict
  /-- All bytes are there. -/
  | full (bytes : List UInt8)
  /-- The source ended after it had delivered so many bytes. -/
  | early (delivered : Nat)
  | failed (error : Error)

/-- What is reported of a full read that started at a position. -/
def Verdict.report (view : View) (position : Nat) : Verdict -> Except Error (List UInt8)
  | full bytes => .ok bytes
  | early delivered => .error (view.unexpectedEof (position + delivered))
  | failed error => .error error

/-- The last answer settles a read of `length` bytes that the others left open. -/
inductive Settles (length : Nat) : List Delivery -> Verdict -> Prop
  | full {earlier : List Delivery} {piece : List UInt8} :
      LeftOpen length earlier ->
      (bytesOf (earlier ++ [.piece piece])).length = length ->
      Settles length (earlier ++ [.piece piece]) (.full (bytesOf (earlier ++ [.piece piece])))
  | ended {earlier : List Delivery} :
      LeftOpen length earlier ->
      Settles length (earlier ++ [.ended]) (.early (bytesOf earlier).length)
  | idle {earlier : List Delivery} :
      LeftOpen length earlier ->
      List.replicate View.maxIdleReads (.piece []) <:+ earlier ++ [.piece []] ->
      Settles length (earlier ++ [.piece []]) (.early (bytesOf earlier).length)
  | failed {earlier : List Delivery} {error : Error} :
      LeftOpen length earlier ->
      Settles length (earlier ++ [.failed error]) (.failed error)

namespace Settles

variable {length : Nat} {answers : List Delivery} {verdict verdict' : Verdict}

theorem last (settles : Settles length answers verdict) :
    exists earlier answer, answers = earlier ++ [answer] ∧ LeftOpen length earlier := by
  cases settles with
  | full leftOpen => exact ⟨_, _, rfl, leftOpen⟩
  | ended leftOpen => exact ⟨_, _, rfl, leftOpen⟩
  | idle leftOpen => exact ⟨_, _, rfl, leftOpen⟩
  | failed leftOpen => exact ⟨_, _, rfl, leftOpen⟩

theorem not_leftOpen (settles : Settles length answers verdict) :
    ¬ LeftOpen length answers := by
  intro leftOpen
  cases settles with
  | full _ hlength => exact Nat.ne_of_lt leftOpen.short hlength
  | ended _ =>
      rcases leftOpen.pieces .ended (by simp) with ⟨bytes, hpiece⟩
      cases hpiece
  | idle _ hidle => exact leftOpen.lively hidle.isInfix
  | failed _ =>
      rename_i earlier error _
      rcases leftOpen.pieces (.failed error) (by simp) with ⟨bytes, hpiece⟩
      cases hpiece

/-- The same answers settle a read in one way. -/
theorem eq_of_settles (settles : Settles length answers verdict)
    (settles' : Settles length answers verdict') : verdict = verdict' := by
  generalize hanswers : answers = answers' at settles'
  have hsame {earlier earlier' : List Delivery} {answer answer' : Delivery}
      (h : earlier ++ [answer] = earlier' ++ [answer']) :
      earlier = earlier' ∧ answer = answer' := by
    rcases List.append_inj' h rfl with ⟨hearlier, hanswer⟩
    exact ⟨hearlier, List.singleton_inj.mp hanswer⟩
  -- An empty piece adds nothing to bytes that were too few.
  have hempty {earlier : List Delivery} (leftOpen : LeftOpen length earlier)
      (hlength : (bytesOf (earlier ++ [.piece []])).length = length) : False := by
    rw [bytesOf_append, bytesOf_piece, List.append_nil] at hlength
    exact Nat.ne_of_lt leftOpen.short hlength
  cases settles with
  | full leftOpen hlength =>
      cases settles' with
      | full => rw [hanswers]
      | ended => cases (hsame hanswers).2
      | idle =>
          rcases hsame hanswers with ⟨rfl, hpiece⟩
          cases hpiece
          exact (hempty leftOpen hlength).elim
      | failed => cases (hsame hanswers).2
  | ended =>
      cases settles' with
      | full => cases (hsame hanswers).2
      | ended => rw [(hsame hanswers).1]
      | idle => cases (hsame hanswers).2
      | failed => cases (hsame hanswers).2
  | idle leftOpen =>
      cases settles' with
      | full _ hlength =>
          rcases hsame hanswers with ⟨rfl, hpiece⟩
          cases hpiece
          exact (hempty leftOpen hlength).elim
      | ended => cases (hsame hanswers).2
      | idle => rw [(hsame hanswers).1]
      | failed => cases (hsame hanswers).2
  | failed =>
      cases settles' with
      | full => cases (hsame hanswers).2
      | ended => cases (hsame hanswers).2
      | idle => cases (hsame hanswers).2
      | failed =>
          cases (hsame hanswers).2
          rfl

/-- Of answers that grow one by one, the first that settle a read are the only ones. -/
theorem unique {growing : Nat -> List Delivery}
    (hgrowing : forall {j k : Nat}, j ≤ k -> growing j <+: growing k) {j k : Nat}
    (settles : Settles length (growing j) verdict)
    (settles' : Settles length (growing k) verdict') : verdict = verdict' := by
  have hsame {a b : List Delivery} {one other : Verdict} (hbefore : a <+: b)
      (hone : Settles length a one) (hother : Settles length b other) : a = b := by
    rcases hother.last with ⟨earlier, answer, rfl, leftOpen⟩
    rcases List.prefix_concat_iff.mp hbefore with heq | hearlier
    · exact heq
    · exact absurd (leftOpen.of_isPrefix hearlier) hone.not_leftOpen
  rcases Nat.le_total j k with hle | hle
  · rw [← hsame (hgrowing hle) settles settles'] at settles'
    exact settles.eq_of_settles settles'
  · rw [← hsame (hgrowing hle) settles' settles] at settles
    exact settles.eq_of_settles settles'

end Settles

/-!
## What a full read reports
-/

/-- A full read of `length` bytes at a position reports what the answers of its source
settle, and these are all the ways in which it ends.  A source may fail with any error, so
an error alone does not tell who raised it. -/
structure FollowsAnswers (view : View) (position length : Nat)
    (growing : Nat -> List Delivery) (result : Except Error (List UInt8)) : Prop where
  full : forall bytes, result = .ok bytes <-> exists k, Settles length (growing k) (.full bytes)
  error : forall error, result = .error error <->
    (exists k delivered, Settles length (growing k) (.early delivered) ∧
      error = view.unexpectedEof (position + delivered)) ∨
    exists k, Settles length (growing k) (.failed error)
  length_eq : forall bytes, result = .ok bytes -> bytes.length = length

theorem Settles.followsAnswers {view : View} {position length k : Nat}
    {growing : Nat -> List Delivery} {verdict : Verdict}
    (hgrowing : forall {j k : Nat}, j ≤ k -> growing j <+: growing k)
    (settles : Settles length (growing k) verdict) :
    FollowsAnswers view position length growing (verdict.report view position) := by
  constructor
  · intro bytes
    constructor
    · intro hreport
      cases verdict with
      | full bytes' =>
          cases hreport
          exact ⟨k, settles⟩
      | early delivered => cases hreport
      | failed error => cases hreport
    · rintro ⟨k', settles'⟩
      rw [settles.unique hgrowing settles']
      rfl
  · intro error
    constructor
    · intro hreport
      cases verdict with
      | full bytes => cases hreport
      | early delivered =>
          cases hreport
          exact .inl ⟨k, delivered, settles, rfl⟩
      | failed error' =>
          cases hreport
          exact .inr ⟨k, settles⟩
    · rintro (⟨k', delivered, settles', rfl⟩ | ⟨k', settles'⟩)
      · rw [settles.unique hgrowing settles']
        rfl
      · rw [settles.unique hgrowing settles']
        rfl
  · intro bytes hreport
    generalize growing k = answers at settles
    cases settles with
    | full _ hlength =>
        cases hreport
        exact hlength
    | ended => cases hreport
    | idle => cases hreport
    | failed => cases hreport

end ByteWindow
