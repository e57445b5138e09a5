import ByteWindow.Bytes
import ByteWindow.Error.Io

/-!
# Scripts

A scripted object answers its calls from lists of replies written down beforehand.  Each
call takes the first reply that is left; when none is left, the object does its normal
work.  The data that it serves is an array of bytes.
-/

namespace ByteWindow
namespace Scripted

/-- The next reply of a script, and the replies after it. -/
def nextReply {α : Type} (normal : α) : List α -> α × List α
  | [] => (normal, [])
  | reply :: rest => (reply, rest)

/-- A reply comes from the script, unless the script is used up. -/
theorem mem_of_nextReply {α : Type} (normal : α) (replies : List α) :
    ((nextReply normal replies).1 = normal ∨ (nextReply normal replies).1 ∈ replies) ∧
      forall reply, reply ∈ (nextReply normal replies).2 -> reply ∈ replies := by
  cases replies with
  | nil => exact ⟨.inl rfl, fun _ h => h⟩
  | cons reply rest => exact ⟨.inr List.mem_cons_self, fun _ => List.mem_cons_of_mem _⟩

/-- The largest position of a scripted object. -/
def largestPosition : Nat := 0xffffffffffffffff

/-- A position that lies outside becomes the nearest one. -/
def clampPosition (position : Int) : Nat :=
  min position.toNat largestPosition

/-- The bytes of the data at a position, at most as many as asked for and as a cap
allows. -/
def copyAt (data : Array UInt8) (position length : Nat) (cap : Option Nat) : List UInt8 :=
  slice data position (min length (cap.getD length))

theorem length_copyAt_le (data : Array UInt8) (position length : Nat) (cap : Option Nat) :
    (copyAt data position length cap).length ≤ length := by
  rw [copyAt, length_slice]
  exact Nat.le_trans (Nat.min_le_left _ _) (Nat.min_le_left _ _)

theorem slice_length_copyAt (data : Array UInt8) (position length : Nat) (cap : Option Nat) :
    slice data position (copyAt data position length cap).length =
      copyAt data position length cap :=
  slice_length position _

/-- A failure at a position of the data, for good or once. -/
structure Fault where
  position : Nat
  once : Bool
  cause : IoError
  deriving Inhabited

end Scripted
end ByteWindow
