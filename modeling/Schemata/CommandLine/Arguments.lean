/-!
# Command line arguments

The program has one command, `generate`, with an input and three options that take a value. The
value of an option is the next argument, or it is attached: behind an equals sign, or for a
one-letter option right behind the letter. An argument that begins with a hyphen is never the value
of an option, unless it is a lone hyphen. Behind a double hyphen everything is an input. Nothing may
be given twice, and paths are not empty.
-/

namespace Schemata.CommandLine

/-- What a run is asked to do. -/
structure Request where
  verbose : Bool
  input : String
  output : String
  config : Option String
  /-- The namespace that replaces the one of the settings. -/
  classNamespace : Option String
  deriving DecidableEq, Repr

/-- The options of the command. -/
inductive Flag where
  | output
  | config
  | space
  deriving DecidableEq, Repr

/-- The option with a long name. -/
def Flag.ofName? (name : List Char) : Option Flag :=
  if name = "output".toList then some .output
  else if name = "config".toList then some .config
  else if name = "namespace".toList then some .space
  else none

/-- The option with a one-letter name. -/
def Flag.ofLetter? (letter : Char) : Option Flag :=
  if letter = 'o' then some .output
  else if letter = 'c' then some .config
  else if letter = 'n' then some .space
  else none

/-- What is expected next. -/
inductive Expect where
  /-- The command, or an option of the program itself. -/
  | command
  /-- An option of the command or its input. -/
  | option
  /-- The value of an option. -/
  | value (flag : Flag)
  /-- Only an input. -/
  | input
  deriving DecidableEq, Repr

/-- The arguments read so far. -/
structure Arguments where
  expect : Expect := .command
  verbose : Bool := false
  input : Option String := none
  output : Option String := none
  config : Option String := none
  space : Option String := none
  deriving DecidableEq, Repr

/-- A value given for the first time. -/
def once (earlier : Option String) (value : String) : Option (Option String) :=
  if earlier.isNone then some (some value) else none

/-- A path given for the first time, which must not be empty. -/
def oncePath (earlier : Option String) (value : String) : Option (Option String) :=
  if value.isEmpty then none else once earlier value

namespace Arguments

/-- Takes the value of an option. -/
def assign (arguments : Arguments) (flag : Flag) (value : String) : Option Arguments :=
  match flag with
  | .output =>
    (oncePath arguments.output value).map fun output => { arguments with output, expect := .option }
  | .config =>
    (oncePath arguments.config value).map fun config => { arguments with config, expect := .option }
  | .space =>
    (once arguments.space value).map fun space => { arguments with space, expect := .option }

/-- Takes the input. -/
def takeInput (arguments : Arguments) (value : String) : Option Arguments :=
  (oncePath arguments.input value).map fun input => { arguments with input }

/-- Takes an option by its long name, with its value behind an equals sign if there is one. -/
def takeLong (arguments : Arguments) (text : List Char) : Option Arguments := do
  let flag ← Flag.ofName? (text.takeWhile (· != '='))
  match text.dropWhile (· != '=') with
  | [] => some { arguments with expect := .value flag }
  | _ :: value => arguments.assign flag (String.ofList value)

/-- Takes an option by its letter, with the text behind the letter as its value if there is one. -/
def takeShort (arguments : Arguments) (letter : Char) (text : List Char) : Option Arguments := do
  let flag ← Flag.ofLetter? letter
  match text with
  | [] => some { arguments with expect := .value flag }
  | c :: value => arguments.assign flag (String.ofList (if c = '=' then value else text))

/-- Takes one argument. -/
def take (arguments : Arguments) (argument : String) : Option Arguments :=
  match arguments.expect, argument.toList with
  | .command, _ =>
    if argument = "generate" then some { arguments with expect := .option }
    else if (argument = "-v" ∨ argument = "--verbose") ∧ !arguments.verbose then
      some { arguments with verbose := true }
    else none
  | .option, ['-', '-'] => some { arguments with expect := .input }
  | .option, '-' :: '-' :: name => arguments.takeLong name
  | .option, '-' :: letter :: text => arguments.takeShort letter text
  | .option, _ => arguments.takeInput argument
  | .value _, '-' :: _ :: _ => none
  | .value flag, _ => arguments.assign flag argument
  | .input, _ => arguments.takeInput argument

/-- The request that all arguments make, where `config` is the settings file of the environment. -/
def request? (arguments : Arguments) (config : Option String) : Option Request := do
  let input ← arguments.input
  let config ← match arguments.config, config with
    | some path, _ => some (some path)
    | none, some path => if path.isEmpty then none else some (some path)
    | none, none => some none
  match arguments.expect with
  | .option | .input =>
    some
      { verbose := arguments.verbose
        input
        output := arguments.output.getD "."
        config
        classNamespace := arguments.space }
  | _ => none

end Arguments

/-- The request of a command line, if it is a valid one. -/
def parseArguments (arguments : List String) (config : Option String) : Option Request := do
  let parsed ← arguments.foldlM Arguments.take {}
  parsed.request? config

end Schemata.CommandLine
