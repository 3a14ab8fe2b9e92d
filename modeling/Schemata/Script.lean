import Schemata.Error
import Schemata.Text.Lines

/-!
# Scripts for indented text

A generated text is described by a script: lines, blank lines, fragments of several lines, and
blocks in braces whose bodies are scripts again. A `Writer` carries out a script. It knows the open
blocks and closes the innermost one first. A command can fail, and a failure ends every script
around it unless one of them drops it; blocks are closed all the same, so the braces of the output
always match.
-/

namespace Schemata

/-- How a block ends. -/
inductive Closer where
  /-- A brace, for a block of statements. -/
  | statement
  /-- A brace and a semicolon, for an initializer. -/
  | initializer
  deriving DecidableEq, Repr

/-- The line that closes a block. -/
def Closer.line : Closer → String
  | statement => "\x7d"
  | initializer => "\x7d;"

/-- One command of a script. -/
inductive Command where
  /-- One line at the current indentation. -/
  | line (text : String)
  /-- An empty line without indentation. -/
  | blank
  /-- The lines of a text, each at the current indentation, with `lead` in front of the first and
  `tail` behind the last. -/
  | aligned (lead text tail : String)
  /-- A header line and a body in braces, one level deeper. -/
  | block (header : String) (closer : Closer) (body : List Command)
  /-- A failure. -/
  | fail (cause : Error)
  /-- A command whose failure is dropped. -/
  | attempt (command : Command)

/-- A script is carried out command by command. -/
abbrev Script := List Command

namespace Script

/-- The script that a computation yields, or its failure. -/
def ofExcept : Except Error Script → Script
  | .ok script => script
  | .error cause => [.fail cause]

/-- The scripts one after the other with an empty line between any two of them. -/
def spaced (scripts : List Script) : Script :=
  (scripts.intersperse [.blank]).flatten

end Script

/-- A text being written: what was written so far, one level of indentation, and the closing lines
of the open blocks, innermost first. -/
structure Writer where
  output : String
  unit : String
  closers : List Closer
  deriving DecidableEq, Repr

namespace Writer

/-- A writer without output and without open blocks. -/
def ofUnit (unit : String) : Writer :=
  ⟨"", unit, []⟩

/-- The indentation of a line, one unit for each open block. -/
def indentation (writer : Writer) : String :=
  String.join (List.replicate writer.closers.length writer.unit)

/-- Writes one line at the current indentation. -/
def line (writer : Writer) (text : String) : Writer :=
  { writer with output := writer.output ++ writer.indentation ++ text ++ "\n" }

/-- Writes an empty line. -/
def blank (writer : Writer) : Writer :=
  { writer with output := writer.output ++ "\n" }

/-- Puts a text behind the last line. -/
def withTail (tail : String) : List String → List String
  | [] => []
  | [line] => [line ++ tail]
  | line :: next :: rest => line :: withTail tail (next :: rest)

/-- Puts one text in front of the first line and one behind the last. Without a line there is
neither. -/
def framed (lead tail : String) (lines : List String) : List String :=
  match withTail tail lines with
  | [] => []
  | first :: rest => (lead ++ first) :: rest

/-- Writes the lines of a text at the current indentation. -/
def aligned (writer : Writer) (lead text tail : String) : Writer :=
  (framed lead tail (Text.lines text)).foldl line writer

/-- Opens a block. -/
def openBlock (writer : Writer) (header : String) (closer : Closer) : Writer :=
  let opened := (writer.line header).line "\x7b"
  { opened with closers := closer :: opened.closers }

/-- Closes the innermost block, if one is open. -/
def closeBlock (writer : Writer) : Writer :=
  match writer.closers with
  | [] => writer
  | closer :: outer => { writer with closers := outer }.line closer.line

mutual

/-- Carries out one command. -/
def exec (writer : Writer) : Command → Writer × Except Error Unit
  | .line text => (writer.line text, .ok ())
  | .blank => (writer.blank, .ok ())
  | .aligned lead text tail => (writer.aligned lead text tail, .ok ())
  | .block header closer body =>
    let (written, outcome) := (writer.openBlock header closer).execAll body
    (written.closeBlock, outcome)
  | .fail cause => (writer, .error cause)
  | .attempt command => ((writer.exec command).1, .ok ())

/-- Carries out the commands of a script in order, up to the first that fails. -/
def execAll (writer : Writer) : List Command → Writer × Except Error Unit
  | [] => (writer, .ok ())
  | command :: rest =>
    match writer.exec command with
    | (written, .ok _) => written.execAll rest
    | (written, .error cause) => (written, .error cause)

end

/-- The text that is written when all blocks still open are closed. -/
def finish (writer : Writer) : String :=
  (writer.closers.foldl (fun written _ => written.closeBlock) writer).output

end Writer

/-- The text that a script writes at the given unit of indentation, or its failure. -/
def Script.render (unit : String) (script : Script) : Except Error String :=
  match (Writer.ofUnit unit).execAll script with
  | (written, .ok _) => .ok written.finish
  | (_, .error cause) => .error cause

end Schemata
