import Mathlib
import ByteWindow.Command.Run
import ByteWindow.Proofs.Text.HexDump
import ByteWindow.Proofs.View.Interchange

/-!
# What the command prints

The output of the command is told by the bytes of the file and by the range and the form that
were asked for.  Neither the backend nor the sizes of buffers and pools show in it: sources made
of the same file are faithful to the same bytes, a transfer writes the whole window whatever its
buffer, and a hex dump is read in pieces of whole lines.
-/

namespace ByteWindow

/-!
## Releases
-/

/-- Sources that can always be released. -/
def ReleasesAlways (σ : Type) [Releasable σ] : Prop :=
  forall (s : σ) (host : Host), (Releasable.release s host).1 = .ok ()

theorem Memory.releasesAlways : ReleasesAlways Memory := by
  intro s host
  rfl

theorem Buffer.releasesAlways : ReleasesAlways Buffer := by
  intro s host
  rfl

theorem Positional.releasesAlways : ReleasesAlways Positional := by
  intro s host
  rfl

theorem Channel.releasesAlways : ReleasesAlways Channel := by
  intro s host
  rfl

theorem SeekThenRead.releasesAlways {ρ : Type} [ByteCursor ρ] :
    ReleasesAlways (SeekThenRead ρ) := by
  intro s host
  simp only [Releasable.release]
  cases s.cursor with
  | none => rfl
  | some cursor => rfl

/-- Readers can always be closed, and so pools of them can be released. -/
theorem Pool.releasesAlways {φ ρ : Type} [ByteReader ρ] [StreamFactory φ (Discarding ρ)] :
    ReleasesAlways (Pool φ (Discarding ρ)) := by
  have hcloses (streams : List (Discarding ρ)) (host : Host) :
      (Pool.closeAll streams host).1 = [] := by
    induction streams generalizing host with
    | nil => rfl
    | cons stream rest ih => exact ih _
  intro pool host
  simp only [Releasable.release, Pool.release]
  rw [hcloses]
  rfl

theorem View.close_new {σ α : Type} [Releasable σ] [Listener α σ]
    (releases : ReleasesAlways σ) {view : View} (hopen : view.closed = false) (source : σ)
    (host : Host) : (view.close (Shared.new source : Shared σ α) host).1 = .ok () := by
  have hreleased := releases source (host.note .releasing)
  rw [View.close_open hopen]
  show ((Shared.new source : Shared σ α).giveUp host).1 = .ok ()
  simp only [Shared.giveUp, Shared.new]
  generalize Releasable.release source (host.note .releasing) = result at hreleased
  rcases result with ⟨outcome, source', host'⟩
  cases hreleased
  rfl

namespace Command

/-!
## Text and bytes
-/

/-- ASCII characters are written as the bytes of their text. -/
theorem utf8_of_ascii {chars : List Char} (hascii : Ascii chars) :
    (String.ofList chars).toUTF8.data = (asciiBytes chars).toArray := by
  have hencoded : chars.flatMap String.utf8EncodeChar = asciiBytes chars := by
    unfold asciiBytes
    rw [List.map_eq_flatMap]
    apply List.flatMap_congr
    intro c hc
    exact if_pos (hascii c hc)
  show (List.utf8Encode chars).data = _
  unfold List.utf8Encode
  rw [hencoded, List.data_toByteArray]

theorem utf8_decimalLine (n : Nat) :
    s!"{n}\n".toUTF8.data = (asciiBytes s!"{n}\n".toList).toArray := by
  have hascii : Ascii s!"{n}\n".toList := by
    show Ascii (n.repr ++ "\n").toList
    rw [String.toList_append, Nat.toList_repr]
    exact (Ascii.toDigits (by decide) n).append (.cons (by decide) .nil)
  have hwritten := utf8_of_ascii hascii
  rw [String.ofList_toList] at hwritten
  exact hwritten

theorem Collector.collects :
    Collects (fun _ : Collector => True) fun sink => sink.bytes.toList where
  write := by
    intro sink bytes _ hbytes
    refine ⟨bytes.length, List.length_pos_iff.mpr hbytes, Nat.le_refl _, rfl, trivial, ?_⟩
    rw [List.take_length]
    exact Array.toList_appendList
  flush := fun _ => ⟨rfl, rfl⟩

/-!
## Printing a range
-/

/-- What is printed of a range: its size, its hex dump, or its bytes. -/
def printout (options : Options) (range : List UInt8) : Array UInt8 :=
  if options.stat then
    s!"{range.length}\n".toUTF8.data
  else if options.hex then
    (String.join (HexDump.lines options.offset range)).toUTF8.data
  else
    range.toArray

section Print

variable {σ : Type} [Source σ] {data : Array UInt8} {prompt : Nat -> Prop}
variable {fit : σ -> Host -> Prop} {view : View} {s : σ} {host : Host}

theorem width_dvd_hexChunk (bufferSize : Nat) : HexDump.width ∣ hexChunk bufferSize :=
  Nat.dvd_mul_left _ _

/-- Each turn of the loop prints whole lines, until the window is printed. -/
theorem dumpRemaining_prints (faithful : FaithfulSources data prompt fit)
    (hopen : view.closed = false) (hinside : view.offset + view.size ≤ data.size)
    (hfit : fit s host) (options : Options) (printed : Array UInt8) {position : Nat}
    (hposition : position ≤ view.size) :
    let left := dumpRemaining options view s host printed position
    left.1 = .ok view.size ∧
      left.2.1.toList = printed.toList ++
        asciiBytes
          (HexDump.dumpChars (options.offset + position) ((view.window data).drop position)) := by
  have hsize := View.length_window hinside
  fun_induction dumpRemaining options view s host printed position with
  | case1 s host printed position hmore error s' host' hread =>
      have hanswers := (View.readFrom_answers faithful hopen hinside hfit .awaited position
        (hexChunk options.bufferSize)).1
      rw [hread] at hanswers
      unfold answerFrom at hanswers
      rw [hsize, if_neg (Nat.not_lt_of_le hposition)] at hanswers
      cases hanswers
  | case2 s host printed position hmore length bytes s' host' hread text ih =>
      have hanswers := View.readFrom_answers faithful hopen hinside hfit .awaited position
        (hexChunk options.bufferSize)
      rw [hread] at hanswers
      unfold answerFrom at hanswers
      rw [hsize, if_neg (Nat.not_lt_of_le hposition)] at hanswers
      rcases hanswers with ⟨hbytes, hfit'⟩
      cases hbytes
      have hlength : length = min ((view.window data).drop position).length
          (hexChunk options.bufferSize) := by
        rw [List.length_drop, hsize]
      have hmore' : position + length ≤ view.size := by
        rw [hlength, List.length_drop, hsize]
        omega
      rcases ih hfit' hmore' with ⟨hdone, hprinted⟩
      refine ⟨hdone, ?_⟩
      rw [hprinted, Array.toList_appendList, List.append_assoc]
      refine congrArg _ ?_
      rw [← HexDump.dumpChars_take_append_drop _ ((view.window data).drop position)
        (width_dvd_hexChunk options.bufferSize), ← hlength, List.drop_drop, Nat.add_assoc]
      exact List.map_append.symm
  | case3 s host printed position hdone =>
      have hend : position = view.size := Nat.le_antisymm hposition (Nat.le_of_not_lt hdone)
      refine ⟨congrArg Except.ok hend, ?_⟩
      rw [List.drop_eq_nil_of_le (by rw [hsize, hend]), HexDump.dumpChars_nil]
      exact (List.append_nil _).symm

theorem print_prints (faithful : FaithfulSources data prompt fit)
    (hopen : view.closed = false) (hinside : view.offset + view.size ≤ data.size)
    (hfit : fit s host) (options : Options) :
    let left := print options view s host
    left.1 = .ok view.size ∧ left.2.1 = printout options (view.window data) := by
  have hsize := View.length_window hinside
  unfold print printout
  by_cases hstat : options.stat = true
  · rw [if_pos hstat, if_pos hstat, hsize, utf8_decimalLine]
    exact ⟨rfl, rfl⟩
  · rw [if_neg hstat, if_neg hstat]
    by_cases hhex : options.hex = true
    · rw [if_pos hhex, if_pos hhex, ← HexDump.ofList_dumpChars,
        utf8_of_ascii (HexDump.ascii_dumpChars _ _)]
      have hprints := dumpRemaining_prints faithful hopen hinside hfit options #[]
        (Nat.zero_le view.size)
      refine ⟨hprints.1, Array.ext' hprints.2⟩
    · rw [if_neg hhex, if_neg hhex]
      rcases (View.transfer_writes faithful hopen hinside hfit .awaited (Collector.mk #[])
        options.bufferSize).2 _ _ Collector.collects trivial with ⟨hdone, hwritten⟩
      refine ⟨hdone, Array.ext' hwritten⟩

end Print

/-!
## Running the command
-/

/-- The range of the data that the options ask for. -/
def chosen (options : Options) (data : Array UInt8) : List UInt8 :=
  slice data options.offset (options.length.getD (data.size - options.offset))

/-- What a run leaves behind.  It succeeds if the range fits, and then it prints what was asked
for; otherwise it prints nothing. -/
structure PrintsRange (data : Array UInt8) (options : Options) (output : Output) : Prop where
  succeeds : output.exitCode = 0 <-> options.offset + options.length.getD 0 ≤ data.size
  prints : options.offset + options.length.getD 0 ≤ data.size ->
    output.stdout = printout options (chosen options data)
  silent : data.size < options.offset + options.length.getD 0 -> output.stdout = #[]

theorem serve_eq {σ : Type} [Source σ] (releases : ReleasesAlways σ) {source source' : σ}
    {host host' : Host} {options : Options} {view : View} {covered : Nat}
    {stdout : Array UInt8}
    (hselect : View.select? (Source.size source) options.offset options.length = .ok view)
    (hprint : print options view source host = (.ok covered, stdout, source', host')) :
    serve options source host =
      { exitCode := 0, stdout, stderr := summary options covered } := by
  have hclosed := View.close_new (α := Nobody) releases (Family.select?_open hselect) source'
    host'
  unfold serve
  rw [hselect]
  dsimp only
  rw [hprint]
  dsimp only
  generalize view.close (Shared.new source' : Shared σ Nobody) host' = closing at hclosed
  rcases closing with ⟨outcome, closing⟩
  cases hclosed
  rfl

theorem serve_printsRange {σ : Type} [Source σ] {data : Array UInt8} {prompt : Nat -> Prop}
    {fit : σ -> Host -> Prop} (faithful : FaithfulSources data prompt fit)
    (releases : ReleasesAlways σ) {source : σ} {host : Host} (hfit : fit source host)
    (options : Options) : PrintsRange data options (serve options source host) := by
  have hselect := View.select?_eq data.size options.offset options.length
  have hsource : View.select? (Source.size source) options.offset options.length = _ :=
    (congrArg (View.select? · options.offset options.length) (faithful.size hfit)).trans hselect
  by_cases hfits : options.offset + options.length.getD 0 ≤ data.size
  · rw [if_pos hfits] at hselect hsource
    rcases print_prints faithful (Family.select?_open hselect) (View.select?_inside hselect) hfit
      options with ⟨hdone, hstdout⟩
    rw [serve_eq releases hsource (Prod.ext hdone rfl)]
    constructor
    · exact iff_of_true rfl hfits
    · intro _
      exact hstdout
    · intro hmisfit
      exact absurd hfits (Nat.not_le_of_lt hmisfit)
  · rw [if_neg hfits] at hsource
    unfold serve
    rw [hsource]
    constructor
    · refine iff_of_false ?_ hfits
      intro hzero
      cases hzero
    · intro hfits'
      exact absurd hfits' hfits
    · intro _
      rfl

/-- The system fails no read of a file of this size.  It fails those that end at the limit of
positions or behind it, and buffered streams ask for a whole buffer at a time. -/
def Backend.ReadsSucceed (size : Nat) : Backend -> Prop
  | .array | .mmap => True
  | .file | .seekable | .asyncFile => size < Disk.positionLimit
  | .stream => size + BufferedFile.capacity < Disk.positionLimit

theorem serveFile_printsRange {disk : Disk} {options : Options} {name : String} {file : FileId}
    (hopen : disk.openFile name = .ok file)
    (hsucceed : options.backend.ReadsSucceed (disk.size file)) :
    PrintsRange (disk.bytes file) options (serveFile options disk name) := by
  let host : Host := { disk }
  have hbytes : host.disk.bytes file = disk.bytes file := rfl
  unfold serveFile
  rw [hopen]
  dsimp only
  generalize options.backend = backend at hsucceed ⊢
  cases backend with
  | array => exact serve_printsRange (Memory.faithful _) Memory.releasesAlways rfl options
  | mmap =>
      exact serve_printsRange (Buffer.faithful _) Buffer.releasesAlways
        (Buffer.shows_ofFile hbytes) options
  | file =>
      exact serve_printsRange (Positional.faithful hsucceed) Positional.releasesAlways
        (Positional.reads_ofFile hbytes) options
  | seekable =>
      have hcursors := FileCursor.reliable hbytes hsucceed
      have hcalm : host.disk = disk := rfl
      have hstands : FileCursor.StandsAt file { file, position := 0 } 0 := ⟨rfl, rfl⟩
      rcases SeekThenRead.ofCursor_reads hcursors hcalm hstands with
        ⟨source, host', hmade, hreads⟩
      rw [hmade]
      exact serve_printsRange (SeekThenRead.faithful hcursors) SeekThenRead.releasesAlways
        hreads options
  | asyncFile =>
      exact serve_printsRange (Channel.faithful hsucceed) Channel.releasesAlways
        (Channel.reads_ofFile hbytes) options
  | stream =>
      have hstreams := (BufferedFile.reliable hbytes hsucceed).discarding
      refine serve_printsRange (Pool.faithful hstreams (NamedFile.reliable hopen))
        Pool.releasesAlways ?_ options
      apply Pool.serves_empty _ _ options.poolSize
      · rfl
      · rfl

/-- Whatever the backend and the sizes of buffers and pools: a run on a regular file prints the
range that was asked for, in the form that was asked for, if it fits the file, and else it fails
and prints nothing. -/
theorem run_printsRange {disk : Disk} {arguments : List String} {options : Options}
    {name : String} {file : FileId} (hparse : Options.parse arguments = .ok options)
    (hlocate : disk.locate options.file = .ok (.file name))
    (hopen : disk.openFile name = .ok file)
    (hsucceed : options.backend.ReadsSucceed (disk.size file)) :
    PrintsRange (disk.bytes file) options (run disk arguments) := by
  unfold run
  rw [hparse]
  dsimp only
  unfold openAndServe
  rw [hlocate]
  exact serveFile_printsRange hopen hsucceed

/-- Three of five bytes, dumped through streams none of which stays parked. -/
theorem run_printsRange_fiveBytes :
    let data : Array UInt8 := #[65, 66, 10, 0, 255]
    let disk : Disk := { names := [("data", 0)], contents := #[data] }
    let arguments := ["-xbstream", "-o1", "-n3", "--pool-size=0", "--buffer-size=1", "data"]
    let options : Options :=
      { file := "data", backend := .stream, offset := 1, length := some 3, poolSize := 0,
        bufferSize := 1, hex := true }
    Options.parse arguments = .ok options ∧ disk.locate "data" = .ok (.file "data") ∧
      disk.openFile "data" = .ok 0 ∧
      options.backend.ReadsSucceed (disk.size 0) ∧
      PrintsRange data options (run disk arguments) := by
  intro data disk arguments options
  have hparse : Options.parse arguments = .ok options := rfl
  have hlocate : disk.locate "data" = .ok (.file "data") := by cbv
  have hopen : disk.openFile "data" = .ok 0 := rfl
  have hsucceed : options.backend.ReadsSucceed (disk.size 0) := by
    show disk.size 0 + BufferedFile.capacity < Disk.positionLimit
    decide
  exact ⟨hparse, hlocate, hopen, hsucceed, run_printsRange hparse hlocate hopen hsucceed⟩

example :
    (run { names := [("data", 0)], contents := #[#[65, 66, 10, 0, 255]] }
        ["-xbstream", "-o1", "-n3", "--pool-size=0", "--buffer-size=1", "data"]).stdout =
      "00000001  42 0a 00                                         |B..|\n".toUTF8.data := by
  cbv

end Command
end ByteWindow
