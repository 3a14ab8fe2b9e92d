import Schemata.Text.Control

/-!
# Events of a run

What a run reports while it works. An event has a level and a text; a run shows the informative
events, and a verbose run shows the details as well. Terminal controls are shown by their code in
the message of an event, but not in its named values.
-/

namespace Schemata

/-- Something that happened during a run. -/
inductive Event where
  | openingTable (table : String)
  | closingTable (table : String) (columns : Nat)
  | parsedInput (index tables : Nat)
  | generatedStatements (table : String)
  | generatedRecord (className : String)
  | generatedRepository (className : String)
  | generatedArtifacts (tables : Nat)
  | wroteFile (path : String)
  | finished (tables files : Nat) (output : String)
  deriving DecidableEq, Repr

namespace Event

/-- The event is shown only by a verbose run. -/
def isDetail : Event → Bool
  | generatedArtifacts _ | finished .. => false
  | _ => true

/-- The text of an event: a message and named values. -/
def text : Event → String
  | openingTable table => "opening table table=" ++ table
  | closingTable table columns =>
    "closing table table=" ++ table ++ " columns=" ++ toString columns
  | parsedInput index tables =>
    "parsed input input=" ++ toString index ++ " tables=" ++ toString tables
  | generatedStatements table => "generated sql table=" ++ table
  | generatedRecord className => "generated record class=" ++ className
  | generatedRepository className => "generated repository class=" ++ className
  | generatedArtifacts tables => "generated artifacts tables=" ++ toString tables
  | wroteFile path => "wrote file path=" ++ path
  | finished tables files output =>
    "Generated " ++ toString tables ++ " table(s) from " ++ toString files ++ " file(s) into "
      ++ Text.shown output

/-- The line that shows an event, with the level in five columns. -/
def line (event : Event) : String :=
  (if event.isDetail then "DEBUG " else " INFO ") ++ event.text

/-- The event is shown by a run of the given verbosity. -/
def isShown (verbose : Bool) (event : Event) : Bool :=
  verbose || !event.isDetail

end Event

/-- The log of the given verbosity, one event per line. -/
def logText (verbose : Bool) (events : List Event) : String :=
  String.join ((events.filter (·.isShown verbose)).map (·.line ++ "\n"))

end Schemata
