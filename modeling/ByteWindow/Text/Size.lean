import ByteWindow.Text.Rounding

/-!
# Sizes for people

A size below a kilobyte is shown as a number of bytes.  A larger one is shown in the
largest unit that it reaches, with two decimals.  It is taken as a number of 53 binary
digits first, so very large sizes lose their last digits.
-/

namespace ByteWindow
namespace SizeText

/-- The bytes of a kilobyte. -/
def kilobyte : Nat := 1024

/-- The bytes of a megabyte. -/
def megabyte : Nat := 1024 * kilobyte

/-- The bytes of a gigabyte. -/
def gigabyte : Nat := 1024 * megabyte

/-- The number of binary digits to which a size is taken. -/
def precision : Nat := 53

/-- A size in a unit, rounded to two decimals. -/
def inUnit (size unit : Nat) : String :=
  Rounding.twoDecimals (Rounding.keepDigits precision size) unit

/-- The text of a size. -/
def ofBytes (size : Nat) : String :=
  if gigabyte ≤ size then s!"{inUnit size gigabyte} GB"
  else if megabyte ≤ size then s!"{inUnit size megabyte} MB"
  else if kilobyte ≤ size then s!"{inUnit size kilobyte} KB"
  else s!"{size} bytes"

end SizeText
end ByteWindow
