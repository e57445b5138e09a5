import ByteWindow.Stream

/-!
# Cursors that are watched

A watched cursor does what the cursor inside it does, and writes down every call.  Of a read it
also notes the cursor as it was before, for that tells where the read took place.
-/

namespace ByteWindow

/-- A call to a cursor, with its answer. -/
inductive CursorCall (ρ : Type)
  | seek (aim : SeekTarget) (result : Except IoError Nat)
  | tell (result : Except IoError Nat)
  | read (before : ρ) (length : Nat) (result : Except IoError (List UInt8))

namespace CursorCall

variable {ρ : Type}

def isSeek : CursorCall ρ -> Bool
  | seek _ _ => true
  | tell _ | read _ _ _ => false

def isRead : CursorCall ρ -> Bool
  | read _ _ _ => true
  | seek _ _ | tell _ => false

end CursorCall

/-- A cursor with the calls that it got so far. -/
structure Watched (ρ : Type) where
  cursor : ρ
  calls : List (CursorCall ρ) := []

namespace Watched

variable {ρ α : Type}

/-- Write down a call that was answered. -/
def after (w : Watched ρ) (call : α -> CursorCall ρ) :
    α × ρ × Host -> α × Watched ρ × Host
  | (result, cursor, host) => (result, { cursor, calls := w.calls ++ [call result] }, host)

/-- What is left of an answer when nobody watches. -/
def unwatch : α × Watched ρ × Host -> α × ρ × Host
  | (result, w, host) => (result, w.cursor, host)

theorem calls_after {w w' : Watched ρ} {call : α -> CursorCall ρ} {answer : α × ρ × Host}
    {result : α} {host : Host} (h : w.after call answer = (result, w', host)) :
    w'.calls = w.calls ++ [call result] := by
  rcases answer with ⟨result', cursor, host'⟩
  cases h
  rfl

/-- From one moment to another a cursor was moved and read at most so often. -/
def Spends (w later : Watched ρ) (seeks reads : Nat) : Prop :=
  exists calls, later.calls = w.calls ++ calls ∧ calls.countP CursorCall.isSeek ≤ seeks ∧
    calls.countP CursorCall.isRead ≤ reads

namespace Spends

variable {w w' w'' : Watched ρ} {seeks reads seeks' reads' : Nat}

theorem refl (w : Watched ρ) : Spends w w 0 0 :=
  ⟨[], (List.append_nil _).symm, Nat.le_refl 0, Nat.le_refl 0⟩

theorem trans (h : Spends w w' seeks reads) (h' : Spends w' w'' seeks' reads') :
    Spends w w'' (seeks + seeks') (reads + reads') := by
  rcases h with ⟨calls, hcalls, hseeks, hreads⟩
  rcases h' with ⟨calls', hcalls', hseeks', hreads'⟩
  refine ⟨calls ++ calls', ?_, ?_, ?_⟩
  · rw [hcalls', hcalls, List.append_assoc]
  · rw [List.countP_append]
    exact Nat.add_le_add hseeks hseeks'
  · rw [List.countP_append]
    exact Nat.add_le_add hreads hreads'

theorem mono (h : Spends w w' seeks reads) (hseeks : seeks ≤ seeks') (hreads : reads ≤ reads') :
    Spends w w' seeks' reads' := by
  rcases h with ⟨calls, hcalls, hle, hle'⟩
  exact ⟨calls, hcalls, Nat.le_trans hle hseeks, Nat.le_trans hle' hreads⟩

/-- What was spent since the watch began. -/
theorem counts {cursor : ρ} (h : Spends { cursor } w seeks reads) :
    w.calls.countP CursorCall.isSeek ≤ seeks ∧ w.calls.countP CursorCall.isRead ≤ reads := by
  rcases h with ⟨calls, hcalls, hle⟩
  rw [hcalls]
  exact hle

end Spends

/-!
## A watched cursor is a cursor
-/

variable [ByteCursor ρ]

instance : ByteCursor (Watched ρ) where
  read w host length :=
    w.after (.read w.cursor length) (ByteReader.read w.cursor host length)
  discard w host := ByteReader.discard w.cursor host
  seek w host aim := w.after (.seek aim) (ByteCursor.seek w.cursor host aim)
  tell w host := w.after .tell (ByteCursor.tell w.cursor host)

theorem unwatch_read (w : Watched ρ) (host : Host) (length : Nat) :
    unwatch (ByteReader.read w host length) = ByteReader.read w.cursor host length := rfl

theorem unwatch_seek (w : Watched ρ) (host : Host) (aim : SeekTarget) :
    unwatch (ByteCursor.seek w host aim) = ByteCursor.seek w.cursor host aim := rfl

theorem unwatch_tell (w : Watched ρ) (host : Host) :
    unwatch (ByteCursor.tell w host) = ByteCursor.tell w.cursor host := rfl

section Calls

variable {w w' : Watched ρ} {host host' : Host}

theorem spends_seek {aim : SeekTarget} {result : Except IoError Nat}
    (h : ByteCursor.seek w host aim = (result, w', host')) : Spends w w' 1 0 :=
  ⟨[.seek aim result], calls_after h, Nat.le_refl 1, Nat.le_refl 0⟩

theorem spends_tell {result : Except IoError Nat}
    (h : ByteCursor.tell w host = (result, w', host')) : Spends w w' 0 0 :=
  ⟨[.tell result], calls_after h, Nat.le_refl 0, Nat.le_refl 0⟩

theorem spends_read {length : Nat} {result : Except IoError (List UInt8)}
    (h : ByteReader.read w host length = (result, w', host')) : Spends w w' 0 1 :=
  ⟨[.read w.cursor length result], calls_after h, Nat.le_refl 0, Nat.le_refl 1⟩

end Calls
end Watched
end ByteWindow
