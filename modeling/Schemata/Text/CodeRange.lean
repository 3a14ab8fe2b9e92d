/-!
# Ranges of code points

Properties of characters are stored as short lists of code point ranges. A `CodeRange` is a closed
interval; a `CodeRun` is a closed interval of which every `step`-th code point belongs, which suits
the scripts where upper-case and lower-case letters alternate. Where the ASCII part of a property is
one of the ASCII classes of `Char`, its table starts at U+0080.
-/

namespace Schemata.Text

/-- A closed interval of code points. -/
structure CodeRange where
  first : Nat
  last : Nat
  deriving DecidableEq, Repr

/-- The code point lies between the ends of the range. -/
def CodeRange.covers (range : CodeRange) (code : Nat) : Bool :=
  range.first ≤ code && code ≤ range.last

/-- Every `step`-th code point from `first` up to `last`. -/
structure CodeRun where
  first : Nat
  last : Nat
  step : Nat
  deriving DecidableEq, Repr

/-- The code point lies between the ends of the run and a whole number of steps from its start. -/
def CodeRun.covers (run : CodeRun) (code : Nat) : Bool :=
  run.first ≤ code && code ≤ run.last && (code - run.first) % run.step == 0

/-- The character is in one of the ranges. -/
def inRanges (ranges : List CodeRange) (c : Char) : Bool :=
  ranges.any (·.covers c.toNat)

/-- The character is in one of the runs. -/
def inRuns (runs : List CodeRun) (c : Char) : Bool :=
  runs.any (·.covers c.toNat)

/-- The character is one of the 128 ASCII characters. -/
def isAscii (c : Char) : Bool :=
  c.toNat < 0x80

end Schemata.Text
