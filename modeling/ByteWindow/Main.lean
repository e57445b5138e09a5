import ByteWindow.Command.Run
import ByteWindow.Text.Elapsed

/-!
# The command as a program

Reads the named file, runs the command on it, and prints what it leaves behind.
-/

namespace ByteWindow
namespace Command

/-- The code of a failure of the system.  Some calls report it with its sign reversed. -/
def codeOfFailure? (error : IO.Error) : Option Nat :=
  let magnitude (code : UInt32) : Nat := code.toInt32.toInt.natAbs
  match error with
  | .noFileOrDirectory _ code _ => some (magnitude code)
  | .permissionDenied _ code _ => some (magnitude code)
  | .inappropriateType _ code _ => some (magnitude code)
  | .invalidArgument _ code _ => some (magnitude code)
  | .resourceExhausted _ code _ => some (magnitude code)
  | .hardwareFault code _ => some (magnitude code)
  | .otherError code _ => some (magnitude code)
  | _ => none

/-- A failure of the system as it is reported. -/
def reportedFailure (error : IO.Error) : IoError :=
  match codeOfFailure? error with
  | some code => IoError.ofCode code
  | none => { kind := .other, text := toString error }

/-- Run the command on the file system. -/
def runOnFile (arguments : List String) : IO Output := do
  match Options.parse arguments with
  | .error refusal => return refused refusal
  | .ok options =>
      match ← (IO.FS.readBinFile options.file).toBaseIO with
      | .ok content =>
          return serveFile options (Disk.store {} options.file content.data) options.file
      | .error error =>
          let failure := reportedFailure error
          if failure = IoError.isDirectory then
            return serveDirectory options {}
          else
            return cannotOpen options (.io failure)

end Command
end ByteWindow

open ByteWindow

def main (arguments : List String) : IO UInt32 := do
  let start ← IO.monoNanosNow
  let output ← Command.runOnFile arguments
  let stdout ← IO.getStdout
  stdout.write ⟨output.stdout⟩
  stdout.flush
  let finish ← IO.monoNanosNow
  (← IO.getStderr).putStr (output.stderr (ElapsedText.ofNanoseconds (finish - start)))
  return output.exitCode.toUInt32
