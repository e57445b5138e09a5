/-!
# The command line

The command takes the name of a file and options.  Options have long names and most of
them a letter; letters can be run together behind one dash.  An option that takes a
value takes it from behind an equals sign, from the rest of its letters, or from the next
argument.  Two dashes end the options.

Arguments are read from left to right and the first fault counts.  A value from an
argument of its own is looked at only when something else follows it that is known, or
at the end.  So a fault in it gives way to an unknown argument right behind it.
-/

namespace ByteWindow
namespace Command

/-- How the file is accessed. -/
inductive Backend
  | array
  | mmap
  | file
  | seekable
  | asyncFile
  | stream
  deriving DecidableEq, Inhabited

namespace Backend

/-- The name of a backend on the command line. -/
def argument : Backend -> String
  | array => "array"
  | mmap => "mmap"
  | file => "file"
  | seekable => "seekable"
  | asyncFile => "async-file"
  | stream => "stream"

/-- The name of a backend in messages. -/
def label : Backend -> String
  | array => "Array"
  | mmap => "Mmap"
  | file => "File"
  | seekable => "Seekable"
  | asyncFile => "AsyncFile"
  | stream => "Stream"

/-- All backends. -/
def all : List Backend := [array, mmap, file, seekable, asyncFile, stream]

/-- The backend that an argument names. -/
def ofArgument? (argument : String) : Option Backend :=
  all.find? fun backend => backend.argument == argument

end Backend

/-- What the command was asked to do. -/
structure Options where
  file : String
  backend : Backend := .file
  /-- Where the range starts. -/
  offset : Nat := 0
  /-- The length of the range; without one it goes to the end. -/
  length : Option Nat := none
  /-- How many streams may stay parked. -/
  poolSize : Nat := 15
  /-- The size of the transfer buffer. -/
  bufferSize : Nat := 65536
  /-- Print a hex dump. -/
  hex : Bool := false
  /-- Print the size of the range only. -/
  stat : Bool := false
  /-- Print no messages. -/
  quiet : Bool := false
  deriving DecidableEq, Inhabited

/-- Why the command does not run. -/
inductive Refusal
  /-- The name of the file is missing. -/
  | missingFile
  /-- An argument has no meaning. -/
  | unknownArgument
  /-- A value is not a number of the right size. -/
  | malformedNumber
  /-- A value is missing, or it is not one of the values to choose from. -/
  | invalidValue
  /-- An option was given twice. -/
  | repeated
  /-- An option that takes no value was given one. -/
  | unexpectedValue
  /-- The user asked for help. -/
  | helpRequested
  /-- The user asked for the version. -/
  | versionRequested
  deriving DecidableEq, Inhabited

/-- The text shown when the command does not run. -/
def Refusal.message : Refusal -> String
  | missingFile => "the name of a file is missing"
  | unknownArgument => "unknown argument"
  | malformedNumber => "a value is not a number of the right size"
  | invalidValue => "a value is missing or not one of those to choose from"
  | repeated => "an option was given twice"
  | unexpectedValue => "an option that takes no value was given one"
  | helpRequested => "help was asked for"
  | versionRequested => "the version was asked for"

/-- The exit code for a command that does not run. -/
def Refusal.exitCode : Refusal -> Nat
  | helpRequested => 0
  | versionRequested => 0
  | _ => 2

/-!
## Options by name
-/

/-- The options that stand alone. -/
inductive Flag
  | hex
  | stat
  | quiet
  | help
  | version
  deriving DecidableEq

/-- The options that take a value. -/
inductive Setting
  | backend
  | offset
  | length
  | poolSize
  | bufferSize
  deriving DecidableEq

/-- An option of either sort. -/
inductive Switch
  | flag (flag : Flag)
  | setting (setting : Setting)

/-- The option with a long name. -/
def Switch.ofName? : String -> Option Switch
  | "backend" => some (setting .backend)
  | "offset" => some (setting .offset)
  | "length" => some (setting .length)
  | "pool-size" => some (setting .poolSize)
  | "buffer-size" => some (setting .bufferSize)
  | "hex" => some (flag .hex)
  | "stat" => some (flag .stat)
  | "help" => some (flag .help)
  | "version" => some (flag .version)
  | _ => none

/-- The option with a letter. -/
def Switch.ofLetter? : Char -> Option Switch
  | 'b' => some (setting .backend)
  | 'o' => some (setting .offset)
  | 'n' => some (setting .length)
  | 'x' => some (flag .hex)
  | 's' => some (flag .stat)
  | 'q' => some (flag .quiet)
  | 'h' => some (flag .help)
  | 'V' => some (flag .version)
  | _ => none

/-!
## Values
-/

/-- Numbers on the command line stay below this limit. -/
def numberLimit : Nat := 0x10000000000000000

/-- The number written in decimal digits. -/
def decimalValue? : List Char -> Option Nat
  | [] => none
  | digits =>
      if digits.all Char.isDigit then
        some (digits.foldl (fun value digit => 10 * value + (digit.toNat - '0'.toNat)) 0)
      else
        none

/-- A number: decimal digits, with a plus sign in front or without. -/
def number? (text : String) : Option Nat :=
  let digits :=
    match text.toList with
    | '+' :: digits => digits
    | digits => digits
  (decimalValue? digits).filter (· < numberLimit)

/-- A number that is wanted as a value. -/
def wantNumber (text : String) : Except Refusal Nat :=
  match number? text with
  | some n => .ok n
  | none => .error .malformedNumber

/-- A backend that is wanted as a value. -/
def wantBackend (text : String) : Except Refusal Backend :=
  match Backend.ofArgument? text with
  | some backend => .ok backend
  | none => .error .invalidValue

/-!
## Reading arguments
-/

/-- What has been read of the arguments so far. -/
structure Progress where
  file : Option String := none
  backend : Option Backend := none
  offset : Option Nat := none
  length : Option Nat := none
  poolSize : Option Nat := none
  bufferSize : Option Nat := none
  hex : Bool := false
  stat : Bool := false
  quiet : Bool := false
  /-- An option whose value comes from an argument of its own, and that value. -/
  waiting : Option (Setting × Option String) := none

namespace Progress

/-- Give a value to a setting that has none yet. -/
def fill {α : Type} (present : Option α) (value : Except Refusal α) :
    Except Refusal (Option α) :=
  if present.isSome then .error .repeated else value.map some

/-- Give a setting its value. -/
def assign (p : Progress) (setting : Setting) (text : String) : Except Refusal Progress :=
  match setting with
  | .backend => (fill p.backend (wantBackend text)).map ({ p with backend := · })
  | .offset => (fill p.offset (wantNumber text)).map ({ p with offset := · })
  | .length => (fill p.length (wantNumber text)).map ({ p with length := · })
  | .poolSize => (fill p.poolSize (wantNumber text)).map ({ p with poolSize := · })
  | .bufferSize => (fill p.bufferSize (wantNumber text)).map ({ p with bufferSize := · })

/-- Look at the value that waits, if there is one. -/
def settled (p : Progress) : Except Refusal Progress :=
  match p.waiting with
  | none => .ok p
  | some (_, none) => .error .invalidValue
  | some (setting, some text) => { p with waiting := none }.assign setting text

/-- Raise a flag that is not raised yet. -/
def raise (p : Progress) : Flag -> Except Refusal Progress
  | .hex => if p.hex then .error .repeated else .ok { p with hex := true }
  | .stat => if p.stat then .error .repeated else .ok { p with stat := true }
  | .quiet => if p.quiet then .error .repeated else .ok { p with quiet := true }
  | .help => .error .helpRequested
  | .version => .error .versionRequested

/-- Meet a flag. -/
def meetFlag (p : Progress) (flag : Flag) : Except Refusal Progress := do
  (← p.settled).raise flag

/-- Meet a setting, with its value or without. -/
def meetSetting (p : Progress) (setting : Setting) (value : Option String) :
    Except Refusal Progress := do
  let p ← p.settled
  match value with
  | some text => p.assign setting text
  | none => .ok { p with waiting := some (setting, none) }

/-- Meet an option by its long name. -/
def meetName (p : Progress) (name : String) (value : Option String) :
    Except Refusal Progress :=
  match Switch.ofName? name, value with
  | none, _ => .error .unknownArgument
  | some (.setting setting), value => p.meetSetting setting value
  | some (.flag _), some _ => .error .unexpectedValue
  | some (.flag flag), none => p.meetFlag flag

/-- Meet letters that were run together. -/
def meetLetters (p : Progress) : List Char -> Except Refusal Progress
  | [] => .ok p
  | letter :: rest =>
      match Switch.ofLetter? letter with
      | none => .error .unknownArgument
      | some (.flag flag) => do
          let p ← p.meetFlag flag
          p.meetLetters rest
      | some (.setting setting) =>
          match rest with
          | [] => p.meetSetting setting none
          | '=' :: value => p.meetSetting setting (some (String.ofList value))
          | value => p.meetSetting setting (some (String.ofList value))

/-- Meet the name of the file. -/
def meetFile (p : Progress) (name : String) : Except Refusal Progress :=
  if p.file.isSome then .error .unknownArgument
  else p.settled.map ({ · with file := some name })

/-- Meet an argument that is no option: the value that an option waits for, or a file. -/
def meetPlain (p : Progress) (text : String) : Except Refusal Progress :=
  match p.waiting with
  | some (setting, none) => .ok { p with waiting := some (setting, some text) }
  | _ => p.meetFile text

end Progress

/-- An argument by its form. -/
inductive Form
  /-- Two dashes. -/
  | endOfOptions
  /-- A long name, with the text behind an equals sign. -/
  | named (name : String) (value : Option String)
  /-- Letters behind one dash. -/
  | letters (letters : List Char)
  /-- Anything else, also a lone dash. -/
  | plain

/-- The text before the first equals sign, and the text behind it. -/
def splitAtEquals (text : List Char) : String × Option String :=
  match text.span (· != '=') with
  | (name, []) => (String.ofList name, none)
  | (name, _ :: value) => (String.ofList name, some (String.ofList value))

/-- The form of an argument. -/
def Form.of (argument : String) : Form :=
  match argument.toList with
  | ['-', '-'] => endOfOptions
  | '-' :: '-' :: rest =>
      let (name, value) := splitAtEquals rest
      named name value
  | '-' :: letter :: rest => letters (letter :: rest)
  | _ => plain

namespace Progress

/-- Read arguments behind the end of the options. -/
def readNames (p : Progress) : List String -> Except Refusal Progress
  | [] => p.settled
  | argument :: rest => do
      let p ← p.meetFile argument
      p.readNames rest

/-- Read arguments from left to right. -/
def readArguments (p : Progress) : List String -> Except Refusal Progress
  | [] => p.settled
  | argument :: rest =>
      match Form.of argument with
      | .endOfOptions => p.readNames rest
      | .named name value => do
          let p ← p.meetName name value
          p.readArguments rest
      | .letters letters => do
          let p ← p.meetLetters letters
          p.readArguments rest
      | .plain => do
          let p ← p.meetPlain argument
          p.readArguments rest

/-- The options, once all arguments are read. -/
def finish (p : Progress) : Except Refusal Options :=
  match p.file with
  | none => .error .missingFile
  | some file =>
      let defaults : Options := { file }
      .ok
        { file
          backend := p.backend.getD defaults.backend
          offset := p.offset.getD defaults.offset
          length := p.length
          poolSize := p.poolSize.getD defaults.poolSize
          bufferSize := p.bufferSize.getD defaults.bufferSize
          hex := p.hex
          stat := p.stat
          quiet := p.quiet }

end Progress

/-- Read the arguments of the command. -/
def Options.parse (arguments : List String) : Except Refusal Options := do
  let p ← Progress.readArguments {} arguments
  p.finish

end Command
end ByteWindow
