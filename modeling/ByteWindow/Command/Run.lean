import ByteWindow.Command.Options
import ByteWindow.Host.Path
import ByteWindow.Source.Directory
import ByteWindow.Source.Memory
import ByteWindow.Source.Buffer
import ByteWindow.Source.Positional
import ByteWindow.Source.Channel
import ByteWindow.Source.SeekThenRead
import ByteWindow.Source.Pool
import ByteWindow.Stream.FileCursor
import ByteWindow.View.Transfer
import ByteWindow.Text.HexDump
import ByteWindow.Text.Size

/-!
# Running the command

The command opens a file through the chosen backend, prints the chosen range of it, and
says how much that was.  It prints the bytes as they are, as a hex dump, or only their
number.
-/

namespace ByteWindow
namespace Command

/-- What a run of the command leaves behind.  How long the run took is known only after
it, so the messages are a function of the text of the elapsed time. -/
structure Output where
  exitCode : Nat
  stdout : Array UInt8 := #[]
  stderr : String -> String := fun _ => ""
  deriving Inhabited

/-- A sink that takes everything. -/
structure Collector where
  bytes : Array UInt8 := #[]
  deriving Inhabited

instance : Sink Collector where
  write sink bytes := (.ok bytes.length, { bytes := sink.bytes ++ bytes })
  flush sink := (.ok (), sink)

/-- Nobody listens to the sources of the command. -/
inductive Nobody

instance (σ : Type) : Listener Nobody σ where
  notify listener := nomatch listener

/-- The bytes of characters that are all ASCII. -/
def asciiBytes (chars : List Char) : List UInt8 :=
  chars.map fun c => c.toNat.toUInt8

/-!
## Failures
-/

/-- An error and what lies behind it. -/
def causes (error : Error) : List String :=
  error.message :: (error.cause?.map IoError.text).toList

/-- The causes of a failure below its headline; several causes are numbered. -/
def causesText : List String -> String
  | [] => ""
  | [cause] => s!"\n\nCaused by:\n    {cause}"
  | causes =>
      let numbered := causes.zipIdx.map fun (cause, i) => s!"\n    {i}: {cause}"
      s!"\n\nCaused by:{String.join numbered}"

/-- The report on a failure. -/
def failure (headline : String) (causes : List String) : Output :=
  { exitCode := 1, stderr := fun _ => s!"Error: {headline}{causesText causes}\n" }

/-- The report on a file that cannot be opened. -/
def cannotOpen (options : Options) (error : Error) : Output :=
  failure s!"cannot open {options.file}" (causes error)

/-!
## Printing a view
-/

variable {σ : Type} [Source σ]

/-- How much is read at once for a hex dump: whole lines, as the buffer allows. -/
def hexChunk (bufferSize : Nat) : Nat :=
  max bufferSize HexDump.width / HexDump.width * HexDump.width

theorem hexChunk_pos (bufferSize : Nat) : 0 < hexChunk bufferSize := by
  have hle : HexDump.width ≤ max bufferSize HexDump.width := Nat.le_max_right _ _
  have hpos : 0 < HexDump.width := by decide
  have hdiv : 0 < max bufferSize HexDump.width / HexDump.width := Nat.div_pos hle hpos
  exact Nat.mul_pos hdiv hpos

/-- Print a hex dump of the view from a position on.  Addresses count from the start of
the file. -/
def dumpRemaining (options : Options) (view : View) (s : σ) (host : Host)
    (printed : Array UInt8) (position : Nat) :
    Except Error Nat × Array UInt8 × σ × Host :=
  if position < view.size then
    let length := min (view.size - position) (hexChunk options.bufferSize)
    match view.readFrom .awaited s host position (hexChunk options.bufferSize) with
    | (.error error, s, host) => (.error error, printed, s, host)
    | (.ok bytes, s, host) =>
        let text := HexDump.dumpChars (options.offset + position) bytes
        dumpRemaining options view s host (printed ++ asciiBytes text) (position + length)
  else
    (.ok position, printed, s, host)
termination_by view.size - position
decreasing_by
  have hpos := hexChunk_pos options.bufferSize
  omega

/-- Print a view as the options ask for it, and count the bytes that were covered. -/
def print (options : Options) (view : View) (s : σ) (host : Host) :
    Except Error Nat × Array UInt8 × σ × Host :=
  if options.stat then
    (.ok view.size, (asciiBytes s!"{view.size}\n".toList).toArray, s, host)
  else if options.hex then
    dumpRemaining options view s host #[] 0
  else
    let transferred := view.transfer .awaited (Collector.mk #[]) s host options.bufferSize
    (transferred.outcome, transferred.sink.bytes, transferred.source, transferred.host)

/-- The closing message: how much was covered, how long it took, and how it was read. -/
def summary (options : Options) (covered : Nat) (elapsed : String) : String :=
  if options.quiet || options.stat then ""
  else s!"\n{SizeText.ofBytes covered} in {elapsed} via {options.backend.label} backend\n"

/-- Print the chosen range of a source and close it. -/
def serve (options : Options) (source : σ) (host : Host) : Output :=
  match View.select? (Source.size source) options.offset options.length with
  | .error error => cannotOpen options error
  | .ok view =>
      match print options view source host with
      | (result, stdout, source, host) =>
          let shared : Shared σ Nobody := Shared.new source
          match view.close shared host with
          | (.error error, _, _, _) =>
              { failure error.message (causes error).tail with stdout }
          | (.ok (), _, _, _) =>
              match result with
              | .error error => { failure error.message (causes error).tail with stdout }
              | .ok covered =>
                  { exitCode := 0, stdout, stderr := summary options covered }

/-- Open a named file through the chosen backend and print its range. -/
def serveFile (options : Options) (disk : Disk) (name : String) : Output :=
  let host : Host := { disk }
  match disk.openFile name with
  | .error cause => cannotOpen options (.io cause)
  | .ok file =>
      match options.backend with
      | .array => serve options (Memory.mk (disk.bytes file)) host
      | .mmap => serve options (Buffer.ofFile disk file) host
      | .file => serve options (Positional.ofFile disk file) host
      | .seekable =>
          let cursor : FileCursor := { file, position := 0 }
          match SeekThenRead.ofCursor cursor host with
          | (.error error, _) => cannotOpen options error
          | (.ok source, host) => serve options source host
      | .asyncFile => serve options (Channel.ofFile disk file) host
      | .stream =>
          let pool : Pool NamedFile (Discarding BufferedFile) :=
            { factory := { name }
              size := disk.size file
              capacity := options.poolSize }
          serve options pool host

/-- Treat a directory like a file.  Backends that touch its bytes at once do not open it;
the others fail when they read. -/
def serveDirectory (options : Options) (disk : Disk) : Output :=
  match options.backend with
  | .array => cannotOpen options (.io IoError.isDirectory)
  | .mmap => cannotOpen options (.io IoError.noDevice)
  | .seekable => cannotOpen options (.io IoError.invalidArgument)
  | .file | .asyncFile | .stream => serve options Directory.oneBlock { disk }

/-- Follow the path that the options name and print what it leads to. -/
def openAndServe (options : Options) (disk : Disk) : Output :=
  match disk.locate options.file with
  | .error cause => cannotOpen options (.io cause)
  | .ok (.directory _) => serveDirectory options disk
  | .ok (.file name) => serveFile options disk name

/-- The answer to a request for the version. -/
def versionText : String := "rad 0.1.0\n"

/-- The answer to a request for help. -/
def helpText : String :=
  "Read byte ranges of a file through a random-access backend\n\n" ++
  "Usage: rad [OPTIONS] <FILE>\n\n" ++
  "Options:\n" ++
  "  -b, --backend <BACKEND>          array, mmap, file, seekable, async-file or stream\n" ++
  "  -o, --offset <OFFSET>            start of the range\n" ++
  "  -n, --length <LENGTH>            length of the range\n" ++
  "      --pool-size <POOL_SIZE>      most streams to keep parked\n" ++
  "      --buffer-size <BUFFER_SIZE>  transfer buffer size in bytes\n" ++
  "  -x, --hex                        print a hex dump\n" ++
  "  -s, --stat                       only print the size of the range\n" ++
  "  -q                               no messages\n" ++
  "  -h, --help                       print help\n" ++
  "  -V, --version                    print version\n"

/-- The output of a command that does not run. -/
def refused : Refusal -> Output
  | .helpRequested => { exitCode := 0, stdout := helpText.toUTF8.data }
  | .versionRequested => { exitCode := 0, stdout := versionText.toUTF8.data }
  | refusal =>
      { exitCode := refusal.exitCode, stderr := fun _ => s!"error: {refusal.message}\n" }

/-- Run the command on a disk. -/
def run (disk : Disk) (arguments : List String) : Output :=
  match Options.parse arguments with
  | .error refusal => refused refusal
  | .ok options => openAndServe options disk

end Command
end ByteWindow
