/-!
# Hex dumps

A dump shows sixteen bytes to the line.  A line has three columns: the address in at
least eight hexadecimal digits, the bytes in hexadecimal with a blank between them, and
the bytes as characters between bars, where a dot stands for whatever cannot be shown.
The second column always has the width of sixteen bytes.
-/

namespace ByteWindow
namespace HexDump

/-- The number of bytes on a full line. -/
def width : Nat := 16

/-- The least number of digits of an address. -/
def addressDigits : Nat := 8

/-- The two hexadecimal digits of a byte. -/
def byteDigits (byte : UInt8) : List Char :=
  [Nat.digitChar (byte.toNat / 16), Nat.digitChar (byte.toNat % 16)]

/-- An address in hexadecimal, filled up with zeros. -/
def addressText (address : Nat) : List Char :=
  let digits := Nat.toDigits 16 address
  List.replicate (addressDigits - digits.length) '0' ++ digits

/-- Bytes in hexadecimal with a blank between them. -/
def hexText : List UInt8 -> List Char
  | [] => []
  | [byte] => byteDigits byte
  | byte :: rest => byteDigits byte ++ ' ' :: hexText rest

/-- Bytes in hexadecimal, filled up with blanks to the width of a full line. -/
def hexColumn (bytes : List UInt8) : List Char :=
  let digits := hexText bytes
  digits ++ List.replicate (3 * width - 1 - digits.length) ' '

/-- The character shown for a byte: itself if it is visible or a blank, else a dot. -/
def shownChar (byte : UInt8) : Char :=
  if 0x20 ≤ byte.toNat ∧ byte.toNat ≤ 0x7e then Char.ofNat byte.toNat else '.'

/-- The characters of a line of a dump. -/
def lineChars (address : Nat) (bytes : List UInt8) : List Char :=
  addressText address ++ [' ', ' '] ++ hexColumn bytes ++ [' ', ' ', '|'] ++
    bytes.map shownChar ++ ['|', '\n']

/-- A line of a dump. -/
def line (address : Nat) (bytes : List UInt8) : String :=
  String.ofList (lineChars address bytes)

/-!
## Whole dumps
-/

/-- Put the lines of a dump in front of other lines, the last line first. -/
def linesOnto (lines : List (List Char)) (address : Nat) (bytes : List UInt8) :
    List (List Char) :=
  match bytes with
  | [] => lines
  | byte :: rest =>
      linesOnto (lineChars address ((byte :: rest).take width) :: lines)
        (address + width) ((byte :: rest).drop width)
termination_by bytes.length
decreasing_by
  simp only [List.length_drop, List.length_cons, width]
  omega

/-- The characters of all lines of a dump, sixteen bytes to the line. -/
def dumpChars (address : Nat) (bytes : List UInt8) : List Char :=
  (linesOnto [] address bytes).reverse.flatten

theorem linesOnto_eq (lines : List (List Char)) (address : Nat) (bytes : List UInt8) :
    linesOnto lines address bytes = linesOnto [] address bytes ++ lines := by
  induction hlength : bytes.length using Nat.strongRecOn
    generalizing lines address bytes with
  | ind length ih =>
      cases bytes with
      | nil => simp [linesOnto]
      | cons byte rest =>
          have hshort : ((byte :: rest).drop width).length < length := by
            simp only [List.length_drop, List.length_cons, width] at hlength ⊢
            omega
          rw [linesOnto, linesOnto,
            ih _ hshort (lineChars address ((byte :: rest).take width) :: lines) _ _ rfl,
            ih _ hshort [lineChars address ((byte :: rest).take width)] _ _ rfl]
          simp

@[simp] theorem dumpChars_nil (address : Nat) : dumpChars address [] = [] := by
  simp [dumpChars, linesOnto]

theorem dumpChars_cons (address : Nat) (byte : UInt8) (rest : List UInt8) :
    dumpChars address (byte :: rest) =
      lineChars address ((byte :: rest).take width) ++
        dumpChars (address + width) ((byte :: rest).drop width) := by
  rw [dumpChars, linesOnto, linesOnto_eq]
  simp [dumpChars]

end HexDump
end ByteWindow
