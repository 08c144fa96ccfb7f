/-!
# Patterns of text matches

A text match binds a pattern in which `%` stands for any run of characters. `escaped` marks the
characters of a search term that would otherwise stand for others, so that a pattern matches exactly
the texts with the term at the given end.
-/

namespace BoundQuery.Sql

/-- The character that makes the next one of a pattern stand for itself. -/
def escapeMark : Char := '!'

/-- The character that stands for any run of characters. -/
def anyRun : Char := '%'

/-- The character that stands for any one character. -/
def anyOne : Char := '_'

/-- One character of a search term inside a pattern. -/
def escapedChar (c : Char) : List Char :=
  if c == anyRun || c == anyOne || c == escapeMark then [escapeMark, c] else [c]

/-- A search term with every character standing for itself. -/
def escaped (term : String) : String := String.ofList (term.toList.flatMap escapedChar)

/-- The pattern of the texts that start with a term. -/
def startPattern (term : String) : String := (escaped term).push anyRun

/-- The pattern of the texts that end with a term. -/
def endPattern (term : String) : String := String.ofList (anyRun :: (escaped term).toList)

end BoundQuery.Sql
