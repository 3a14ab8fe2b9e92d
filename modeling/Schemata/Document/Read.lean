import Schemata.Document.Integer
import Schemata.Document.Mark
import Schemata.Document.Tree

/-!
# Reading a settings document

The reader goes through the marks of a document and builds its tree. A document is a sequence of
lines, each with a header in brackets or a key and its value. Of the values only texts, integers,
truth values, tables in braces and empty lists are read: no setting is of another kind, so a
document with any other value is refused here and not later. Inside braces line breaks have no
meaning, except that the names of one key stand on one line.
-/

namespace Schemata.Document

/-- Where in the document the reader is. Keys and headers are kept as far as they were read. -/
inductive Phase where
  /-- In front of a key or a header. -/
  | statement
  /-- In front of a name of a header. -/
  | header (path : Path)
  /-- Behind a name of a header. -/
  | headerName (path : Path)
  /-- In front of a name of a key. -/
  | key (path : Path)
  /-- Behind a name of a key. -/
  | keyName (path : Path)
  /-- Behind a whole key and a line break. -/
  | keyEnd (path : Path)
  /-- In front of a value. -/
  | value (path : Path)
  /-- Inside a list. -/
  | list (path : Path)
  /-- Behind a header or a value. -/
  | done
  deriving DecidableEq, Repr

/-- The state of the reader: the tree so far, the path of the last header, the paths of the open
tables in braces with the innermost first, and the phase. -/
structure State where
  tree : Tree := {}
  current : Path := []
  braces : List Path := []
  phase : Phase := .statement
  deriving DecidableEq, Repr

namespace State

/-- The table to which keys belong. -/
def base (state : State) : Path :=
  state.braces.headD state.current

/-- The state with another phase. -/
def enter (state : State) (phase : Phase) : State :=
  { state with phase }

/-- The state after a value was read. -/
def define (state : State) (key : Path) (item : Item) : Option State :=
  (state.tree.addKey state.base key item).map fun tree => { state with tree, phase := .done }

/-- The state after a table in braces was opened. -/
def openBraces (state : State) (key : Path) : Option State :=
  (state.tree.addKey state.base key (.table .braces)).map fun tree =>
    { state with tree, braces := (state.base ++ key) :: state.braces, phase := .statement }

/-- The state after the innermost table in braces was closed. -/
def closeBraces (state : State) : Option State :=
  match state.braces with
  | [] => none
  | _ :: outer => some { state with braces := outer, phase := .done }

/-- The state after a header was read. -/
def beginSection (state : State) (path : Path) : Option State :=
  (state.tree.addHeader [] path).map fun tree =>
    { state with tree, current := path, phase := .done }

end State

/-- The name that a mark stands for in a key. -/
def keyName? : Mark → Option String
  | .word text => if text.toList.all isKeyChar then some text else none
  | .quoted false text => some text
  | _ => none

/-- The value that a word stands for. -/
def wordItem? (text : String) : Option Item :=
  if text = "true" then some (.boolean true)
  else if text = "false" then some (.boolean false)
  else (integer? text.toList).map .integer

/-- One mark in front of a key or a header. Headers stand outside of tables in braces. -/
def stepStatement (state : State) (mark : Mark) : Option State :=
  match mark with
  | .newLine => some state
  | .openBracket => if state.braces.isEmpty then some (state.enter (.header [])) else none
  | .closeBrace => state.closeBraces
  | mark => (keyName? mark).map fun name => state.enter (.keyName [name])

/-- A line break where it has no meaning inside braces and is not allowed outside. -/
def stepBreak (state : State) (phase : Phase) : Option State :=
  if state.braces.isEmpty then none else some (state.enter phase)

/-- One mark behind a name of a key. A line break ends the key. -/
def stepKeyName (state : State) (key : Path) (mark : Mark) : Option State :=
  match mark with
  | .dot => some (state.enter (.key key))
  | .equals => some (state.enter (.value key))
  | .newLine => stepBreak state (.keyEnd key)
  | _ => none

/-- One mark in front of a value. -/
def stepValue (state : State) (key : Path) (mark : Mark) : Option State :=
  match mark with
  | .newLine => stepBreak state (.value key)
  | .quoted _ text => state.define key (.text text)
  | .word text => wordItem? text >>= state.define key
  | .openBracket => some (state.enter (.list key))
  | .openBrace => state.openBraces key
  | _ => none

/-- One mark behind a header or a value. Inside braces a comma is needed between two keys. -/
def stepDone (state : State) (mark : Mark) : Option State :=
  match mark with
  | .newLine => if state.braces.isEmpty then some (state.enter .statement) else some state
  | .comma => if state.braces.isEmpty then none else some (state.enter .statement)
  | .closeBrace => state.closeBraces
  | _ => none

/-- The state after one more mark. -/
def step (state : State) (mark : Mark) : Option State :=
  match state.phase with
  | .statement => stepStatement state mark
  | .header path => (keyName? mark).map fun name => state.enter (.headerName (path ++ [name]))
  | .headerName path =>
    match mark with
    | .dot => some (state.enter (.header path))
    | .closeBracket => state.beginSection path
    | _ => none
  | .key path => (keyName? mark).map fun name => state.enter (.keyName (path ++ [name]))
  | .keyName path => stepKeyName state path mark
  | .keyEnd path =>
    match mark with
    | .newLine => some state
    | .equals => some (state.enter (.value path))
    | _ => none
  | .value path => stepValue state path mark
  | .list path =>
    match mark with
    | .newLine => some state
    | .closeBracket => state.define path .emptyList
    | _ => none
  | .done => stepDone state mark

/-- The tree of a document that ends in the given state. -/
def State.conclude (state : State) : Option Tree :=
  match state.phase with
  | .statement | .done => if state.braces.isEmpty then some state.tree else none
  | _ => none

/-- The tree of a document. -/
def read? (text : String) : Option Tree := do
  let marks ← marks text
  let state ← marks.foldlM step {}
  state.conclude

end Schemata.Document
