import Schemata.CommandLine.Run

/-!
# The program

The command line program reads definition files and writes the generated files. This module connects
a run with the files of the machine and with standard output, and decides nothing itself.
-/

namespace Schemata.CommandLine

/-- Computations on the files of the machine that know whether the run is verbose. -/
abbrev Console := ReaderT Bool IO

namespace Console

/-- The fault that a system error stands for. A wrong type has the code 20 or 21 and a long name the
code 36, which some operations report as a negative number. -/
def faultOf : IO.Error → FileFault
  | .noFileOrDirectory .. => .notFound
  | .alreadyExists .. => .alreadyExists
  | .inappropriateType _ code _ => if code = 21 ∨ code = -21 then .isDirectory else .notDirectory
  | .invalidArgument _ code _ => if code = 36 ∨ code = -36 then .nameTooLong else .nulInName
  | error => .other (toString error)

/-- Runs an operation and turns a system error into a fault. -/
def guarded {α : Type} (operation : IO α) : Console (Except FileFault α) := fun _ => do
  match ← operation.toBaseIO with
  | .ok result => pure (.ok result)
  | .error error => pure (.error (faultOf error))

/-- The path leads to a directory of the machine. -/
def isDirectory (path : String) : Console Bool := do
  match ← guarded (IO.FS.realPath path) with
  | .ok resolved => resolved.isDir
  | .error _ => pure false

/-- The path leads to a file of the machine. -/
def isFile (path : String) : Console Bool := do
  match ← guarded (do (← IO.FS.realPath path).metadata) with
  | .ok found => pure (found.type == .file)
  | .error _ => pure false

/-- The entries of a directory of the machine. -/
def entriesOf (path : String) : Console (Except FileFault (List Entry)) := do
  match ← guarded (do (← IO.FS.realPath path).readDir) with
  | .error fault => pure (.error fault)
  | .ok listed =>
    let entries ← listed.toList.mapM fun entry => do
      pure ⟨entry.fileName, ← isFile (Path.join path entry.fileName)⟩
    pure (.ok entries)

end Console

/-- The operations of a run on the files of the machine. -/
instance : Files Console where
  readText path := do
    match ← Console.guarded (IO.FS.readBinFile path) with
    | .error fault => pure (.error fault)
    | .ok content =>
      match String.fromUTF8? content with
      | some text => pure (.ok text)
      | none => pure (.error .notText)
  isDirectory := Console.isDirectory
  entries := Console.entriesOf
  makeDirectory path := Console.guarded (IO.FS.createDir path)
  writeText path text := Console.guarded (IO.FS.writeFile path text)
  report event := do
    IO.print (logText (← read) [event])

end Schemata.CommandLine

open Schemata.CommandLine in
/-- Runs the program. It ends with 0 after a successful run, with 1 after a failed one, and with 2
if the arguments are not valid. -/
def main (arguments : List String) : IO UInt32 := do
  match parseArguments arguments (← IO.getEnv "PGFORGE_CONFIG") with
  | none =>
    IO.eprintln "usage: [-v] generate INPUT [-o DIR] [-c FILE] [-n NAMESPACE]"
    pure 2
  | some request =>
    let program : ExceptT Failure Console Unit := run request
    match ← program.run request.verbose with
    | .ok _ => pure 0
    | .error failure =>
      IO.eprint failure.report
      pure 1
