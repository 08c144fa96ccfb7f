import BoundQuery.Failure
import BoundQuery.Query.Descriptor
import BoundQuery.Sql.Predicate

/-!
# Statements

A descriptor is compiled to a statement: the SQL text, the values bound in it and the style of its
placeholders. The clauses stand in a fixed order, and absent ones are left out. Filter and having
clause share their bound values, so that placeholders are numbered through the whole statement.
-/

namespace BoundQuery.Sql

variable [Limits]

/-- A compiled statement. -/
structure Statement where
  sql : String
  values : Array Literal
  style : String

/-! ## 1. Clauses -/

/-- The projection. -/
def selectClause (projection : List String) : String :=
  if projection.isEmpty then "SELECT *" else "SELECT " ++ Text.commaSeparated projection

/-- One join. -/
def joinClause (join : Join) : String :=
  join.kind.keyword ++ " JOIN " ++ join.table ++ " ON " ++ join.condition

/-- The order, if there is one. -/
def orderClause (ordering : List OrderItem) : List String :=
  if ordering.isEmpty then []
  else
    ["ORDER BY " ++ Text.commaSeparated
      (ordering.map fun item => item.field ++ " " ++ item.direction.keyword)]

/-- A bound on rows, if there is one. -/
def boundClause (bound : RowBound) (count : Option Int) : Except Failure (List String) :=
  match count with
  | none => .ok []
  | some n => do return [bound.keyword ++ " " ++ (← Failure.written (decimal? n))]

/-- A clause of a predicate, if there is one. -/
def predicateClause (place : Nat → String) (keyword : String) (tree : Option Tree)
    (bound : Array Literal) : Except Failure (List String × Array Literal) :=
  match tree with
  | none => .ok ([], bound)
  | some t =>
      match writeOnto place (some keyword) t bound with
      | (.ok sql, bound) => .ok ([keyword ++ " " ++ sql], bound)
      | (.error e, _) => .error (.compile e)

/-- The clauses from the table up to the having clause, and the values bound in them. -/
def body (place : Nat → String) (d : Descriptor) :
    Except Failure (List String × Array Literal) := do
  let (filter, bound) ← predicateClause place "WHERE" d.filter #[]
  let (having, bound) ← predicateClause place "HAVING" d.having bound
  let group := (d.groupKey.map fun key => "GROUP BY " ++ key).toList
  return (["FROM " ++ d.table] ++ d.joins.map joinClause ++ filter ++ group ++ having, bound)

/-! ## 2. Statements -/

/-- The statement for the rows of a query. -/
def select (style : Style) (d : Descriptor) : Except Failure Statement := do
  let (clauses, bound) ← body style.place d
  let limit ← boundClause .limit d.limit
  let offset ← boundClause .offset d.offset
  let sql := " ".intercalate ([selectClause d.projection] ++ clauses ++ orderClause d.ordering
    ++ limit ++ offset)
  return ⟨sql, bound, style.reported⟩

/-- The statement for the number of rows of a query: projection, order and bounds play no part. -/
def count (style : Style) (d : Descriptor) : Except Failure Statement := do
  let (clauses, bound) ← body style.place d
  return ⟨" ".intercalate ("SELECT COUNT(*)" :: clauses), bound, style.reported⟩

/-- The style that a literal asks for. -/
def StyleBook.ask (book : StyleBook) (name : Literal) : Except Failure Style :=
  match name with
  | .str s =>
      match book.find? s with
      | some style => .ok style
      | none => unknown s
  | name => do unknown (← Failure.written name.shown?)
where
  /-- The failure to find a style. -/
  unknown (shown : String) : Except Failure Style :=
    .error (.compile ⟨.unknownStyle shown book.names, none⟩)

end BoundQuery.Sql
