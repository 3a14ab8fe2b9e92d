/-!
# Listings

Items that are written one per line with a separator between them, which stands at the end of every
line but the last.
-/

namespace Schemata.Text

/-- The items, each but the last followed by the separator. -/
def separated (separator : String) : List String → List String
  | [] => []
  | [item] => [item]
  | item :: next :: rest => (item ++ separator) :: separated separator (next :: rest)

end Schemata.Text
