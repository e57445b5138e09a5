/-!
# Pieces of byte strings

Data at rest is an array of bytes, which gives up any slice of itself at once.  Bytes
on their way are lists.  A read lays the piece that it delivers over the front of the
caller's buffer and leaves the rest of the buffer alone.
-/

namespace ByteWindow

/-- At most `length` bytes of `data` from `position` on; none past the end. -/
def slice (data : Array UInt8) (position length : Nat) : List UInt8 :=
  (data.extract position (position + length)).toList

theorem slice_eq (data : Array UInt8) (position length : Nat) :
    slice data position length = (data.toList.drop position).take length := by
  simp [slice]

@[simp] theorem length_slice (data : Array UInt8) (position length : Nat) :
    (slice data position length).length = min length (data.size - position) := by
  simp [slice_eq]

theorem slice_of_size_le {data : Array UInt8} {position : Nat}
    (h : data.size ≤ position) (length : Nat) : slice data position length = [] := by
  rw [slice_eq, List.drop_eq_nil_of_le (by simpa using h), List.take_nil]

section Slices

variable {data : Array UInt8}

theorem slice_zero (position : Nat) : slice data position 0 = [] := by
  rw [slice_eq, List.take_zero]

theorem slice_add (position m n : Nat) :
    slice data position (m + n) = slice data position m ++ slice data (position + m) n := by
  rw [slice_eq, slice_eq, slice_eq, List.take_add, List.drop_drop]

theorem take_slice (position m n : Nat) :
    (slice data position m).take n = slice data position (min n m) := by
  rw [slice_eq, slice_eq, List.take_take]

theorem drop_slice (position m n : Nat) :
    (slice data position m).drop n = slice data (position + n) (m - n) := by
  rw [slice_eq, slice_eq, List.drop_take, List.drop_drop]

/-- A piece is as long as it says, also if it was cut short by the end of the data. -/
theorem slice_length (position n : Nat) :
    slice data position (slice data position n).length = slice data position n := by
  rw [slice_eq, slice_eq, List.length_take, ← List.take_eq_take_min]

end Slices

/-- Lay a piece over the front of a buffer. -/
def overlay (piece buffer : List UInt8) : List UInt8 :=
  piece ++ buffer.drop piece.length

theorem length_overlay {piece buffer : List UInt8} (h : piece.length ≤ buffer.length) :
    (overlay piece buffer).length = buffer.length := by
  simp only [overlay, List.length_append, List.length_drop]
  omega

@[simp] theorem take_overlay (piece buffer : List UInt8) :
    (overlay piece buffer).take piece.length = piece := by
  simp [overlay]

@[simp] theorem drop_overlay (piece buffer : List UInt8) :
    (overlay piece buffer).drop piece.length = buffer.drop piece.length := by
  simp [overlay]

end ByteWindow
