/-!
# Written collections

The layouts in which a collection is shown once its members are texts: square brackets for a list, round
ones for a tuple, curly ones for a set or a dictionary, and `Name(a=1, b=2)` for a named record.
-/

namespace BoundQuery.Text

/-- Members parted by a comma and a blank. -/
def commaSeparated (items : List String) : String := ", ".intercalate items

/-- A list in square brackets. -/
def listText (items : List String) : String := "[" ++ commaSeparated items ++ "]"

/-- A tuple in round brackets; a single member keeps a comma. -/
def tupleText : List String → String
  | [] => "()"
  | [item] => "(" ++ item ++ ",)"
  | items => "(" ++ commaSeparated items ++ ")"

/-- Members in curly brackets. -/
def bracedText (items : List String) : String := "\x7b" ++ commaSeparated items ++ "\x7d"

/-- A named record with its fields. -/
def recordText (name : String) (fields : List String) : String :=
  name ++ "(" ++ commaSeparated fields ++ ")"

end BoundQuery.Text
