import ByteWindow.Text.HexDump

/-!
# The lines of a hex dump

A dump is one text, put together from its lines.  Each line tells of the bytes from a multiple
of the width on, so bytes that are cut behind whole lines give the same lines in two dumps as
in one.  All characters of a dump are ASCII.
-/

namespace ByteWindow

/-- Characters that take one byte each. -/
def Ascii (chars : List Char) : Prop :=
  forall c, c ∈ chars -> c.toNat ≤ 127

namespace Ascii

variable {c : Char} {front back : List Char}

theorem nil : Ascii [] := by
  intro c hc
  cases hc

theorem append (hfront : Ascii front) (hback : Ascii back) : Ascii (front ++ back) := by
  intro c hc
  rcases List.mem_append.mp hc with hin | hin
  · exact hfront c hin
  · exact hback c hin

theorem cons (hc : c.toNat ≤ 127) (hback : Ascii back) : Ascii (c :: back) := by
  intro d hd
  rcases List.mem_cons.mp hd with rfl | hin
  · exact hc
  · exact hback d hin

theorem toNat_ofNat {n : Nat} (hn : n ≤ 127) : (Char.ofNat n).toNat = n := by
  have hvalid : n.isValidChar := .inl (by omega)
  rw [Char.ofNat, dif_pos hvalid]
  rfl

theorem replicate (hc : c.toNat ≤ 127) (n : Nat) : Ascii (List.replicate n c) := by
  intro d hd
  rw [List.eq_of_mem_replicate hd]
  exact hc

theorem digitChar (n : Nat) : n.digitChar.toNat ≤ 127 := by
  fun_cases Nat.digitChar n <;> decide

theorem toDigits {base : Nat} (hbase : 1 < base) (n : Nat) : Ascii (Nat.toDigits base n) := by
  induction n using Nat.strongRecOn with
  | ind n ih =>
      rw [Nat.toDigits_eq_if hbase]
      split
      · exact cons (digitChar n) nil
      · have hsmaller : n / base < n := Nat.div_lt_self (by omega) hbase
        exact append (ih _ hsmaller) (cons (digitChar _) nil)

end Ascii

namespace HexDump

/-!
## Characters
-/

theorem ascii_hexText (bytes : List UInt8) : Ascii (hexText bytes) := by
  have hdigits (byte : UInt8) : Ascii (byteDigits byte) :=
    .cons (Ascii.digitChar _) (.cons (Ascii.digitChar _) .nil)
  fun_induction hexText bytes with
  | case1 => exact .nil
  | case2 byte => exact hdigits byte
  | case3 byte rest hrest ih => exact (hdigits byte).append (.cons (by decide) ih)

theorem ascii_shownChar (byte : UInt8) : (shownChar byte).toNat ≤ 127 := by
  unfold shownChar
  split
  · rename_i hshown
    have hcode : byte.toNat ≤ 127 := Nat.le_succ_of_le hshown.2
    rw [Ascii.toNat_ofNat hcode]
    exact hcode
  · decide

theorem ascii_lineChars (address : Nat) (bytes : List UInt8) :
    Ascii (lineChars address bytes) := by
  have haddress : Ascii (addressText address) :=
    (Ascii.replicate (by decide) _).append (Ascii.toDigits (by decide) address)
  have hcolumn : Ascii (hexColumn bytes) :=
    (ascii_hexText bytes).append (Ascii.replicate (by decide) _)
  have hshown : Ascii (bytes.map shownChar) := by
    intro c hc
    rcases List.mem_map.mp hc with ⟨byte, _, rfl⟩
    exact ascii_shownChar byte
  have hgap : Ascii [' ', ' '] := .cons (by decide) (.cons (by decide) .nil)
  have hbar : Ascii [' ', ' ', '|'] := hgap.append (.cons (by decide) .nil)
  have hlast : Ascii ['|', '\n'] := .cons (by decide) (.cons (by decide) .nil)
  unfold lineChars
  exact (((haddress.append hgap).append hcolumn).append hbar |>.append hshown).append hlast

/-!
## Lines
-/

/-- The number of lines that so many bytes take. -/
def lineCount (n : Nat) : Nat :=
  (n + (width - 1)) / width

theorem lineCount_succ (n : Nat) : lineCount (n + 1) = lineCount (n + 1 - width) + 1 := by
  unfold lineCount width
  omega

/-- The line of a dump with a given number. -/
def lineAt (address : Nat) (bytes : List UInt8) (i : Nat) : String :=
  line (address + width * i) ((bytes.drop (width * i)).take width)

/-- All lines of a dump. -/
def lines (address : Nat) (bytes : List UInt8) : List String :=
  (List.range (lineCount bytes.length)).map (lineAt address bytes)

theorem lineAt_zero (address : Nat) (bytes : List UInt8) :
    lineAt address bytes 0 = line address (bytes.take width) := rfl

/-- Behind the first line come the lines of the other bytes. -/
theorem lineAt_succ (address : Nat) (bytes : List UInt8) (i : Nat) :
    lineAt address bytes (i + 1) = lineAt (address + width) (bytes.drop width) i := by
  unfold lineAt
  rw [List.drop_drop, Nat.mul_succ, Nat.add_comm (width * i), Nat.add_assoc]

theorem lines_cons (address : Nat) (byte : UInt8) (rest : List UInt8) :
    lines address (byte :: rest) =
      line address ((byte :: rest).take width) ::
        lines (address + width) ((byte :: rest).drop width) := by
  unfold lines
  rw [List.length_cons, lineCount_succ, List.range_succ_eq_map, List.map_cons, List.map_map,
    List.length_drop, List.length_cons, lineAt_zero]
  refine congrArg _ (List.map_congr_left ?_)
  intro i _
  exact lineAt_succ address (byte :: rest) i

/-- What holds of no bytes, and of bytes whenever it holds of those behind the first line,
holds of all bytes. -/
theorem byLines {P : Nat -> List UInt8 -> Prop} (nil : forall address, P address [])
    (line : forall address byte rest, P (address + width) ((byte :: rest).drop width) ->
      P address (byte :: rest))
    (address : Nat) (bytes : List UInt8) : P address bytes := by
  induction hlength : bytes.length using Nat.strongRecOn generalizing address bytes with
  | ind length ih =>
      cases bytes with
      | nil => exact nil address
      | cons byte rest =>
          have hshort : ((byte :: rest).drop width).length < length := by
            simp only [List.length_drop, List.length_cons, width] at hlength ⊢
            omega
          exact line address byte rest (ih _ hshort _ _ rfl)

/-- The text of a dump is that of its lines. -/
theorem ofList_dumpChars (address : Nat) (bytes : List UInt8) :
    String.ofList (dumpChars address bytes) = String.join (lines address bytes) := by
  induction address, bytes using byLines with
  | nil address => simp [lines, lineCount, width]
  | line address byte rest ih =>
      rw [dumpChars_cons, lines_cons, String.ofList_append, ih, String.join_cons]
      rfl

theorem ascii_dumpChars (address : Nat) (bytes : List UInt8) :
    Ascii (dumpChars address bytes) := by
  induction address, bytes using byLines with
  | nil address =>
      rw [dumpChars_nil]
      exact .nil
  | line address byte rest ih =>
      rw [dumpChars_cons]
      exact (ascii_lineChars _ _).append ih

/-- Behind whole lines a dump may be cut. -/
theorem dumpChars_append (address : Nat) (front back : List UInt8)
    (hwhole : width ∣ front.length) :
    dumpChars address (front ++ back) =
      dumpChars address front ++ dumpChars (address + front.length) back := by
  induction address, front using byLines with
  | nil address => simp
  | line address byte rest ih =>
      have hroom : width ≤ (byte :: rest).length := Nat.le_of_dvd (Nat.succ_pos _) hwhole
      have hothers : width ∣ ((byte :: rest).drop width).length := by
        rw [List.length_drop]
        exact Nat.dvd_sub hwhole (Nat.dvd_refl width)
      have hreached : address + width + ((byte :: rest).drop width).length =
          address + (byte :: rest).length := by
        rw [List.length_drop]
        omega
      have hcut := ih hothers
      rw [hreached] at hcut
      rw [List.cons_append, dumpChars_cons, dumpChars_cons address byte rest, List.append_assoc,
        ← hcut, ← List.cons_append, List.take_append_of_le_length hroom,
        List.drop_append_of_le_length hroom]

/-- A dump of bytes is that of whole lines of them and that of the others. -/
theorem dumpChars_take_append_drop (address : Nat) (bytes : List UInt8) {chunk : Nat}
    (hwhole : width ∣ chunk) :
    dumpChars address (bytes.take chunk) ++
        dumpChars (address + min bytes.length chunk) (bytes.drop (min bytes.length chunk)) =
      dumpChars address bytes := by
  rcases Nat.le_total chunk bytes.length with hmore | hlast
  · have hlength : (bytes.take chunk).length = chunk := List.length_take_of_le hmore
    have hcut := dumpChars_append address (bytes.take chunk) (bytes.drop chunk)
      (by rw [hlength]; exact hwhole)
    rw [hlength, List.take_append_drop] at hcut
    rw [Nat.min_eq_right hmore, hcut]
  · rw [Nat.min_eq_left hlast, List.take_of_length_le hlast, List.drop_length, dumpChars_nil,
      List.append_nil]

end HexDump
end ByteWindow
