/-!
# Why a clause is refused

A `Refusal` is what is wrong with an argument that a clause was given. Each belongs to one clause, but
for those that a fragment states itself.
-/

namespace BoundQuery

/-- The two clauses that bound the rows of a result. -/
inductive RowBound where
  | limit | offset
  deriving DecidableEq

namespace RowBound

/-- The word of the clause. -/
def keyword : RowBound → String
  | .limit => "LIMIT"
  | .offset => "OFFSET"

end RowBound

/-- What is wrong with the argument of a clause. Values appear in it by the text that shows them. -/
inductive Refusal where
  | tableName (shown : String)
  | joinTable (shown : String)
  | joinCondition (shown : String)
  | rowCount (bound : RowBound) (shown : String)
  | pageNumber (shown : String)
  | pageSize (shown : String)
  | unresolvedSource (shown : String)
  | notASingleTable (shown : String)
  | stated (text : String)
  deriving DecidableEq

namespace Refusal

/-- The wording of a refusal. -/
def message : Refusal → String
  | .tableName shown => "Table name must be a non-empty string, got " ++ shown ++ "."
  | .joinTable shown => "Join table must be a non-empty string, got " ++ shown ++ "."
  | .joinCondition shown => "Join condition must be a non-empty string, got " ++ shown ++ "."
  | .rowCount bound shown =>
      bound.keyword ++ " must be a non-negative integer, got " ++ shown ++ "."
  | .pageNumber shown => "Page number must be an integer >= 1, got " ++ shown ++ "."
  | .pageSize shown => "Page size must be an integer >= 1, got " ++ shown ++ "."
  | .unresolvedSource shown =>
      "Cannot resolve a table from " ++ shown ++ ": not a SQLAlchemy table or mapped class."
  | .notASingleTable shown => "Mapped class " ++ shown ++ " is not mapped to a single table."
  | .stated text => text

/-- The clause that a refusal belongs to. -/
def clause : Refusal → Option String
  | .tableName _ => some "FROM"
  | .joinTable _ => some "JOIN"
  | .joinCondition _ => some "JOIN"
  | .rowCount bound _ => some bound.keyword
  | .pageNumber _ => some RowBound.offset.keyword
  | .pageSize _ => some RowBound.limit.keyword
  | .unresolvedSource _ => some "FROM"
  | .notASingleTable _ => some "FROM"
  | .stated _ => none

end Refusal

end BoundQuery
