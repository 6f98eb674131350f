import PdfDisplay.CommandLine.Session
import PdfDisplay.Document.File

/-!
# The program

Reads the arguments and the file, runs the command, and prints what it leaves behind.
-/

namespace PdfDisplay.CommandLine

/-- The document in the file with a path. -/
def loadFile (path : String) : IO (Except LoadError PagedDocument) := do
  try
    let bytes ← IO.FS.readBinFile path
    return (Document.File.load bytes.toList).mapError .refused
  catch
    | .noFileOrDirectory .. => return .error .notFound
    | e => return .error (.unreadable (toString e))

/-- Prints what is said instead of running a command. -/
def refuse (e : UsageError) : IO UInt32 := do
  let stream ← if e.exitCode = 0 then IO.getStdout else IO.getStderr
  stream.putStrLn e.text
  return UInt32.ofNat e.exitCode

/-- Runs a command and prints what it leaves behind. -/
def execute (command : Command) : IO UInt32 := do
  let outcome := command.run (← loadFile command.request.file)
  for message in outcome.messages do
    IO.eprintln message
  IO.print outcome.output.text
  return UInt32.ofNat outcome.exitCode

end PdfDisplay.CommandLine

/-- Runs the program. -/
def main (arguments : List String) : IO UInt32 :=
  match PdfDisplay.CommandLine.Command.parse arguments with
  | .error e => PdfDisplay.CommandLine.refuse e
  | .ok command => PdfDisplay.CommandLine.execute command
