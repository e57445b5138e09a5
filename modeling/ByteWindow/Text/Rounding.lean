/-!
# Rounding natural numbers

Quotients are rounded to the nearest whole number, or to the nearest hundredth; what lies
in the middle goes to the even neighbour.  The same rule cuts a number down to its leading
binary digits.
-/

namespace ByteWindow
namespace Rounding

/-- The whole number nearest to a quotient; a tie goes to the even one. -/
def divNearest (number divisor : Nat) : Nat :=
  let quotient := number / divisor
  let rest := number % divisor
  if 2 * rest < divisor then quotient
  else if divisor < 2 * rest then quotient + 1
  else quotient + quotient % 2

/-- A quotient with two decimals. -/
def twoDecimals (number divisor : Nat) : String :=
  let hundredths := divNearest (100 * number) divisor
  let cents := hundredths % 100
  let padding := if cents < 10 then "0" else ""
  s!"{hundredths / 100}.{padding}{cents}"

/-- The nearest number that has at most `digits` binary digits before its zeros. -/
def keepDigits (digits number : Nat) : Nat :=
  let dropped := number.log2 + 1 - digits
  divNearest number (Nat.pow 2 dropped) * Nat.pow 2 dropped

end Rounding
end ByteWindow
