import BoundQuery.Query.Call
import BoundQuery.Sql.Statement

/-!
# Sources of queries

A query can start from a table that is declared elsewhere: the table itself, or something that is
mapped to one table. `Source.tableName` resolves the name, with its schema if it has one.
-/

namespace BoundQuery

variable [Limits]

/-- A declared table. -/
structure DeclaredTable where
  name : String
  schema : Option String

namespace DeclaredTable

/-- The name of a table, after its schema if it has one that is not empty. -/
def qualifiedName (table : DeclaredTable) : String :=
  match table.schema with
  | some schema => if schema.isEmpty then table.name else schema ++ "." ++ table.name
  | none => table.name

end DeclaredTable

/-- Where a query can start from. `mapped` is anything that is mapped to one table, and `unmapped`
    something that is mapped, but not to one table. `withoutLibrary` is a value that is resolved while
    the library of mappings is not there. -/
inductive Source where
  | table (table : DeclaredTable)
  | mapped (table : DeclaredTable)
  | unmapped (shown : String)
  | column (table : DeclaredTable)
  | plain (shown : String)
  | value (value : Value)
  | withoutLibrary (value : Value)

namespace Source

/-- How the key column of a table is shown. -/
def shownColumn (table : DeclaredTable) : String :=
  "Column('id', Integer(), table=<" ++ table.name ++ ">, primary_key=True, nullable=False)"

/-- The failure when the library of mappings is not there. -/
def missingLibrary : Failure :=
  .absent .mappings
    ("SQLAlchemy is required for table_name_from_sqlalchemy(). "
      ++ "Install it with: pip install \"fluentql[sqlalchemy]\"")

/-- The name of the table of a source. A text is the name itself. -/
def tableName : Source → Except Failure String
  | .table t => .ok t.qualifiedName
  | .mapped t => .ok t.qualifiedName
  | .unmapped shown => .error (.refused (.notASingleTable shown))
  | .column t => .error (.refused (.notASingleTable (shownColumn t)))
  | .plain shown => .error (.refused (.unresolvedSource shown))
  | .value (.literal (.str s)) => .ok s
  | .value v => .error (.refusing v.shown? .unresolvedSource)
  | .withoutLibrary (.literal (.str s)) => .ok s
  | .withoutLibrary _ => .error missingLibrary

/-- The query over a source. -/
def start (source : Source) : Except Failure Descriptor := do
  Descriptor.start (.literal (.str (← source.tableName)))

/-- The name of a source and the statement of the query over it that is filtered by texts. -/
def resolve (source : Source) (filters : List String) : Except Failure (String × Sql.Statement) := do
  let name ← source.tableName
  let d ← filters.foldlM (fun d text => (Call.filterAlso .and (.text text)).apply d) (← source.start)
  let statement ← Sql.select Sql.Style.qmark d
  return (name, statement)

end Source

end BoundQuery
