import Mathlib.Logic.Function.Basic
import Mathlib.Tactic.IntervalCases
import ByteWindow.Proofs.Text.HexDump

/-!
# Hex dumps can be read back

The address ends where its digits end, and the bytes end where no digit follows the blank.  So
neither the number of digits nor the last column, which may look like anything, can mislead a
reader of a line.  Only the end of a line is a newline, so a dump comes apart into its lines.
-/

namespace ByteWindow
namespace HexDump

/-!
## Reading
-/

/-- The value of a hexadecimal digit. -/
def digitValue? (c : Char) : Option Nat :=
  if '0' ≤ c ∧ c ≤ '9' then some (c.toNat - '0'.toNat)
  else if 'a' ≤ c ∧ c ≤ 'f' then some (c.toNat - 'a'.toNat + 10)
  else none

def isDigit (c : Char) : Bool :=
  (digitValue? c).isSome

/-- The number that digits stand for. -/
def numberOf (digits : List Char) : Nat :=
  digits.foldl (fun number c => 16 * number + (digitValue? c).getD 0) 0

/-- Read pairs of digits, each with a blank behind it, as long as there are any. -/
def readBytes : List Char -> List UInt8
  | high :: low :: rest =>
      match digitValue? high, digitValue? low with
      | some high, some low => UInt8.ofNat (16 * high + low) :: readBytes (rest.drop 1)
      | _, _ => []
  | _ => []
termination_by chars => chars.length

/-- Read the address and the bytes from the characters of a line. -/
def readColumns (chars : List Char) : Nat × List UInt8 :=
  (numberOf (chars.takeWhile isDigit), readBytes ((chars.dropWhile isDigit).drop 2))

def readLine (text : String) : Nat × List UInt8 :=
  readColumns text.toList

/-- Read the bytes from all lines of a dump. -/
def readDump (chars : List Char) : List UInt8 :=
  (chars.splitOn '\n').flatMap fun line => (readColumns line).2

/-!
## Digits and numbers
-/

theorem digitValue?_digitChar {n : Nat} (hn : n < 16) :
    digitValue? (Nat.digitChar n) = some n := by
  interval_cases n <;> rfl

theorem isDigit_digitChar {n : Nat} (hn : n < 16) : isDigit (Nat.digitChar n) = true := by
  rw [isDigit, digitValue?_digitChar hn, Option.isSome_some]

theorem numberOf_concat (digits : List Char) {n : Nat} (hn : n < 16) :
    numberOf (digits ++ [Nat.digitChar n]) = 16 * numberOf digits + n := by
  rw [numberOf, List.foldl_append, List.foldl_cons, List.foldl_nil, digitValue?_digitChar hn,
    Option.getD_some, numberOf]

theorem numberOf_zeros (zeros : Nat) (digits : List Char) :
    numberOf (List.replicate zeros '0' ++ digits) = numberOf digits := by
  induction zeros with
  | zero => rfl
  | succ zeros ih =>
      rw [List.replicate_succ, List.cons_append]
      exact ih

theorem numberOf_toDigits (n : Nat) : numberOf (Nat.toDigits 16 n) = n := by
  induction n using Nat.strongRecOn with
  | ind n ih =>
      rw [Nat.toDigits_eq_if (by decide)]
      split
      · rename_i hsmall
        have hnumber := numberOf_concat [] hsmall
        rw [List.nil_append] at hnumber
        rw [hnumber]
        exact Nat.zero_add n
      · rw [numberOf_concat _ (Nat.mod_lt n (by decide)), ih (n / 16) (by omega)]
        omega

theorem isDigit_of_mem_toDigits (n : Nat) :
    forall c, c ∈ Nat.toDigits 16 n -> isDigit c = true := by
  induction n using Nat.strongRecOn with
  | ind n ih =>
      rw [Nat.toDigits_eq_if (by decide)]
      split
      · rename_i hsmall
        intro c hc
        rw [List.mem_singleton.mp hc]
        exact isDigit_digitChar hsmall
      · intro c hc
        rcases List.mem_append.mp hc with hfront | hlast
        · exact ih (n / 16) (by omega) c hfront
        · rw [List.mem_singleton.mp hlast]
          exact isDigit_digitChar (Nat.mod_lt n (by decide))

theorem numberOf_addressText (address : Nat) : numberOf (addressText address) = address := by
  rw [addressText, numberOf_zeros, numberOf_toDigits]

theorem isDigit_of_mem_addressText {address : Nat} {c : Char} (hc : c ∈ addressText address) :
    isDigit c = true := by
  rcases List.mem_append.mp hc with hzero | hdigit
  · rw [List.eq_of_mem_replicate hzero]
    rfl
  · exact isDigit_of_mem_toDigits address c hdigit

/-!
## Bytes
-/

theorem readBytes_byteDigits (byte : UInt8) (c : Char) (rest : List Char) :
    readBytes (byteDigits byte ++ c :: rest) = byte :: readBytes rest := by
  have hbyte : byte.toNat < 256 := byte.toNat_lt
  have hvalue : 16 * (byte.toNat / 16) + byte.toNat % 16 = byte.toNat := Nat.div_add_mod _ _
  have hhigh : byte.toNat / 16 < 16 := by omega
  have hlow : byte.toNat % 16 < 16 := Nat.mod_lt _ (by decide)
  rw [byteDigits, List.cons_append, List.cons_append, readBytes, digitValue?_digitChar hhigh,
    digitValue?_digitChar hlow]
  dsimp only
  rw [hvalue, UInt8.ofNat_toNat]
  rfl

theorem readBytes_nil : readBytes [] = [] := by
  rw [readBytes]
  simp

theorem readBytes_blank (rest : List Char) : readBytes (' ' :: rest) = [] := by
  cases rest with
  | nil => rw [readBytes]; simp
  | cons c rest => rw [readBytes]; rfl

/-- Two blanks behind the bytes tell that no more follow. -/
theorem readBytes_hexText (bytes : List UInt8) (rest : List Char) :
    readBytes (hexText bytes ++ ' ' :: ' ' :: rest) = bytes := by
  fun_induction hexText bytes with
  | case1 => exact readBytes_blank _
  | case2 byte =>
      rw [readBytes_byteDigits, readBytes_blank]
  | case3 byte others hothers ih =>
      rw [List.append_assoc, List.cons_append, readBytes_byteDigits, ih]

theorem replicate_append_blanks (n : Nat) (rest : List Char) :
    List.replicate n ' ' ++ ' ' :: ' ' :: rest = ' ' :: ' ' :: (List.replicate n ' ' ++ rest) := by
  induction n with
  | zero => rfl
  | succ n ih => rw [List.replicate_succ, List.cons_append, ih, List.cons_append]

/-!
## Lines
-/

/-- What stands between the address and the bytes as characters. -/
def gap (bytes : List UInt8) : List Char :=
  ' ' :: ' ' :: (hexColumn bytes ++ [' ', ' ', '|'])

/-- A line without its end. -/
def openLine (address : Nat) (bytes : List UInt8) : List Char :=
  addressText address ++ gap bytes ++ bytes.map shownChar ++ ['|']

theorem lineChars_eq (address : Nat) (bytes : List UInt8) :
    lineChars address bytes = openLine address bytes ++ ['\n'] := by
  simp [lineChars, openLine, gap]

theorem readColumns_of_gap (address : Nat) (bytes : List UInt8) (rest : List Char) :
    readColumns (addressText address ++ gap bytes ++ rest) = (address, bytes) := by
  have hdigits : forall c, c ∈ addressText address -> isDigit c = true :=
    fun _ => isDigit_of_mem_addressText
  have hgap : gap bytes ++ rest =
      ' ' :: ' ' :: (hexColumn bytes ++ ' ' :: ' ' :: ('|' :: rest)) := by
    simp [gap]
  rw [readColumns, List.append_assoc, List.takeWhile_append_of_pos hdigits,
    List.dropWhile_append_of_pos hdigits, hgap, List.takeWhile_cons_of_neg (by decide),
    List.append_nil, numberOf_addressText, List.dropWhile_cons_of_neg (by decide)]
  show (address, readBytes (hexColumn bytes ++ _)) = _
  rw [hexColumn, List.append_assoc, replicate_append_blanks, readBytes_hexText]

theorem readColumns_openLine (address : Nat) (bytes : List UInt8) :
    readColumns (openLine address bytes) = (address, bytes) := by
  rw [openLine, List.append_assoc _ (bytes.map shownChar), readColumns_of_gap]

theorem readLine_line (address : Nat) (bytes : List UInt8) :
    readLine (line address bytes) = (address, bytes) := by
  rw [readLine, line, String.toList_ofList, lineChars_eq, openLine, List.append_assoc,
    List.append_assoc, readColumns_of_gap]

theorem line_injective : Function.Injective2 line := by
  intro address address' bytes bytes' hline
  have hread := congrArg readLine hline
  rw [readLine_line, readLine_line] at hread
  exact Prod.mk.inj hread

/-!
## Ends of lines
-/

theorem newline_not_mem_hexText (bytes : List UInt8) : '\n' ∉ hexText bytes := by
  have hdigits (byte : UInt8) : '\n' ∉ byteDigits byte := by
    have hbyte : byte.toNat < 256 := byte.toNat_lt
    intro hmem
    rcases List.mem_cons.mp hmem with hhigh | hmem
    · have hdigit := isDigit_digitChar (n := byte.toNat / 16) (by omega)
      rw [← hhigh] at hdigit
      cases hdigit
    · have hdigit := isDigit_digitChar (Nat.mod_lt byte.toNat (by decide : 0 < 16))
      rw [← List.mem_singleton.mp hmem] at hdigit
      cases hdigit
  fun_induction hexText bytes with
  | case1 => exact List.not_mem_nil
  | case2 byte => exact hdigits byte
  | case3 byte others hothers ih => simp [hdigits byte, ih]

theorem shownChar_ne_newline (byte : UInt8) : shownChar byte ≠ '\n' := by
  unfold shownChar
  split
  · rename_i hshown
    intro hnewline
    have hcode := congrArg Char.toNat hnewline
    rw [Ascii.toNat_ofNat (Nat.le_succ_of_le hshown.2)] at hcode
    have hten : byte.toNat = 10 := hcode
    omega
  · decide

theorem newline_not_mem_openLine (address : Nat) (bytes : List UInt8) :
    '\n' ∉ openLine address bytes := by
  have haddress : '\n' ∉ addressText address := by
    intro hmem
    cases isDigit_of_mem_addressText hmem
  have hgap : '\n' ∉ gap bytes := by
    simp [gap, hexColumn, newline_not_mem_hexText, List.mem_replicate]
  have hshown : '\n' ∉ bytes.map shownChar := by
    intro hmem
    rcases List.mem_map.mp hmem with ⟨byte, _, hbyte⟩
    exact shownChar_ne_newline byte hbyte
  simp [openLine, haddress, hgap, hshown]

theorem length_hexText (bytes : List UInt8) :
    (hexText bytes).length = 3 * bytes.length - 1 := by
  fun_induction hexText bytes with
  | case1 => rfl
  | case2 byte => rfl
  | case3 byte others hothers ih =>
      have hlength : others.length ≠ 0 := by
        intro hzero
        exact hothers (List.length_eq_zero_iff.mp hzero)
      rw [List.length_append, List.length_cons, List.length_cons, ih, byteDigits]
      simp only [List.length_cons, List.length_nil]
      omega

/-- The bytes of a line that is not too long always take the same room. -/
theorem length_hexColumn {bytes : List UInt8} (hwidth : bytes.length ≤ width) :
    (hexColumn bytes).length = 47 := by
  have hlength := length_hexText bytes
  rw [hexColumn, List.length_append, List.length_replicate, hlength]
  unfold width at hwidth ⊢
  omega

theorem length_gap {bytes : List UInt8} (hwidth : bytes.length ≤ width) :
    (gap bytes).length = 52 := by
  rw [gap, List.length_cons, List.length_cons, List.length_append, length_hexColumn hwidth]
  rfl

/-- How a line of at most sixteen bytes is laid out: its columns stand where they are expected,
whatever the bytes, and only its end is a newline. -/
structure LaidOut (address : Nat) (bytes : List UInt8) : Prop where
  columns : (line address bytes).toList =
    addressText address ++ gap bytes ++ bytes.map shownChar ++ ['|', '\n']
  digits : addressText address ≠ [] ∧
    forall c, c ∈ addressText address -> isDigit c = true
  gap_eq : gap bytes = [' ', ' '] ++ hexColumn bytes ++ [' ', ' ', '|']
  column_length : (hexColumn bytes).length = 47
  gap_length : (gap bytes).length = 52
  newline : exists front, (line address bytes).toList = front ++ ['\n'] ∧ '\n' ∉ front

theorem laidOut (address : Nat) {bytes : List UInt8} (hwidth : bytes.length ≤ width) :
    LaidOut address bytes where
  columns := by
    rw [line, String.toList_ofList, lineChars_eq, openLine, List.append_assoc]
    rfl
  digits := by
    refine ⟨?_, fun _ => isDigit_of_mem_addressText⟩
    intro hnil
    exact Nat.toDigits_ne_nil (List.append_eq_nil_iff.mp hnil).2
  gap_eq := rfl
  column_length := length_hexColumn hwidth
  gap_length := length_gap hwidth
  newline :=
    ⟨openLine address bytes, by rw [line, String.toList_ofList, lineChars_eq],
      newline_not_mem_openLine address bytes⟩

/-!
## Whole dumps
-/

theorem readDump_line (address : Nat) (bytes : List UInt8) (rest : List Char) :
    readDump (lineChars address bytes ++ rest) = bytes ++ readDump rest := by
  rw [readDump, lineChars_eq, List.append_assoc, List.singleton_append,
    List.splitOn_append_cons_self_of_not_mem (newline_not_mem_openLine address bytes),
    List.flatMap_cons, readColumns_openLine, readDump]

theorem readDump_dumpChars (address : Nat) (bytes : List UInt8) :
    readDump (dumpChars address bytes) = bytes := by
  induction address, bytes using byLines with
  | nil address =>
      rw [dumpChars_nil, readDump, List.splitOn_nil, List.flatMap_singleton]
      exact readBytes_nil
  | line address byte rest ih =>
      rw [dumpChars_cons, readDump_line, ih, List.take_append_drop]

end HexDump
end ByteWindow
