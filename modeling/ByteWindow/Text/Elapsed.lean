import ByteWindow.Text.Rounding

/-!
# Elapsed time for people

A time is shown with two decimals in the largest unit that it reaches, from nanoseconds
to seconds.
-/

namespace ByteWindow
namespace ElapsedText

/-- The units above a nanosecond with their lengths in nanoseconds, the largest first. -/
def units : List (Nat × String) :=
  [(1000000000, "s"), (1000000, "ms"), (1000, "µs")]

/-- The text of a time in nanoseconds. -/
def ofNanoseconds (time : Nat) : String :=
  let (unit, name) := (units.find? fun unit => unit.1 ≤ time).getD (1, "ns")
  s!"{Rounding.twoDecimals time unit}{name}"

end ElapsedText
end ByteWindow
