import ByteWindow.Proofs.Command.Printing
import ByteWindow.Proofs.Text.Readback

/-!
# What the command prints can be read back

The bytes of a range are all there in its hex dump, so whoever reads the output of the command
has the range again.
-/

namespace ByteWindow
namespace Command

/-- Read the bytes that a hex dump shows from what was printed. -/
def readOutput (stdout : Array UInt8) : List UInt8 :=
  HexDump.readDump (stdout.toList.map fun byte => Char.ofNat byte.toNat)

theorem map_ofNat_asciiBytes {chars : List Char} (hascii : Ascii chars) :
    ((asciiBytes chars).map fun byte => Char.ofNat byte.toNat) = chars := by
  rw [asciiBytes, List.map_map]
  refine (List.map_congr_left ?_).trans (List.map_id chars)
  intro c hc
  have hcode : c.toNat.toUInt8.toNat = c.toNat :=
    Nat.mod_eq_of_lt (Nat.lt_of_le_of_lt (hascii c hc) (by decide))
  rw [Function.comp_apply, hcode, Char.ofNat_toNat, id]

theorem readOutput_printout {options : Options} (hstat : options.stat = false)
    (hhex : options.hex = true) (range : List UInt8) :
    readOutput (printout options range) = range := by
  have hascii := HexDump.ascii_dumpChars options.offset range
  rw [printout, if_neg (by rw [hstat]; decide), if_pos hhex, ← HexDump.ofList_dumpChars,
    utf8_of_ascii hascii, readOutput, map_ofNat_asciiBytes hascii, HexDump.readDump_dumpChars]

/-- Lines of a hex dump can be read back, they are laid out alike, and so the output of a run
that dumps a range tells the bytes of that range. -/
theorem dumps_readBack :
    (forall address bytes,
      HexDump.readLine (HexDump.line address bytes) = (address, bytes)) ∧
    Function.Injective2 HexDump.line ∧
    (forall address (bytes : List UInt8), bytes.length ≤ HexDump.width ->
      HexDump.LaidOut address bytes) ∧
    forall (disk : Disk) (arguments : List String) (options : Options) (name : String)
      (file : FileId), Options.parse arguments = .ok options ->
      disk.locate options.file = .ok (.file name) -> disk.openFile name = .ok file ->
      options.backend.ReadsSucceed (disk.size file) ->
      options.offset + options.length.getD 0 ≤ (disk.bytes file).size ->
      options.stat = false -> options.hex = true ->
      readOutput (run disk arguments).stdout = chosen options (disk.bytes file) := by
  refine ⟨HexDump.readLine_line, HexDump.line_injective, fun _ _ => HexDump.laidOut _, ?_⟩
  intro disk arguments options name file hparse hlocate hopen hsucceed hfits hstat hhex
  have hprints := (serveFile_printsRange hopen hsucceed).prints hfits
  rw [run, hparse]
  dsimp only
  rw [openAndServe, hlocate]
  dsimp only
  rw [hprints, readOutput_printout hstat hhex]

/-- The dump of three of five bytes, a bar among them, read back. -/
theorem dumps_readBack_fiveBytes :
    let disk : Disk := { names := [("data", 0)], contents := #[#[65, 124, 10, 0, 255]] }
    let arguments := ["-xbmmap", "-o1", "-n3", "data"]
    HexDump.readLine (HexDump.line 0x123456789 [124, 32, 97]) = (0x123456789, [124, 32, 97]) ∧
      HexDump.LaidOut 0x123456789 [124, 32, 97] ∧
      readOutput (run disk arguments).stdout = [124, 10, 0] := by
  intro disk arguments
  let options : Options :=
    { file := "data", backend := .mmap, offset := 1, length := some 3, hex := true }
  have hparse : Options.parse arguments = .ok options := rfl
  have hlocate : disk.locate options.file = .ok (.file "data") := by cbv
  have hopen : disk.openFile "data" = .ok 0 := rfl
  rcases dumps_readBack with ⟨hread, _, hlaidOut, hrun⟩
  exact ⟨hread _ _, hlaidOut _ _ (by decide),
    hrun disk arguments options "data" 0 hparse hlocate hopen trivial (by decide) rfl rfl⟩

end Command
end ByteWindow
