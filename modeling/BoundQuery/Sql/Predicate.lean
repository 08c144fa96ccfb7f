import BoundQuery.Limits
import BoundQuery.Sql.Fault
import BoundQuery.Sql.Pattern
import BoundQuery.Sql.Placeholder
import BoundQuery.Tree.Basic

/-!
# Writing a predicate

`write` turns a tree into SQL. Every literal is appended to the bound values and stands in the text as
the placeholder of its position, so no literal ever becomes part of the text. A node is checked before
its parts, and parts are written from left to right; the values bound up to a fault stay bound. The parts
of a node are written by calls inside the one for the node: that of a comparison, a connective or a sign
lies two calls further down, the receiver of a call three and a value of a membership test five.
-/

namespace BoundQuery.Sql

variable [Limits]

/-! ## 1. The tables of operators -/

/-- The SQL of a comparison. -/
def comparisonSql? (operator : String) : Option String :=
  if operator = "==" then some "="
  else if operator = "!=" then some "!="
  else if operator = ">" then some ">"
  else if operator = "<" then some "<"
  else if operator = ">=" then some ">="
  else if operator = "<=" then some "<="
  else none

/-- The SQL of a connective. -/
def connectiveSql? (operator : String) : Option String :=
  if operator = "AND" then some "AND"
  else if operator = "OR" then some "OR"
  else none

/-- The SQL of a unary operator. -/
def unarySql? (operator : String) : Option String :=
  if operator = "not" then some "NOT" else none

/-- The pattern that a text match binds for a search term. -/
def matchPattern (m : Match) (term : String) : String :=
  match m with
  | .starts => startPattern term
  | .ends => endPattern term

/-! ## 2. Writing -/

/-- A piece of SQL in the making: it appends bound values, which stay when it fails. -/
abbrev Writing := ExceptT Fault (StateM (Array Literal))

/-- Bind a value and write its placeholder. -/
def bindValue (place : Nat → String) (value : Literal) : Writing String := do
  modify (·.push value)
  return place (← get).size

/-- Write a node with placeholders from `place`; `part calls` writes a part that lies `calls` calls below. -/
def writeNode (place : Nat → String) (part : Nat → Tree → Writing String) : Tree → Writing String
  | .member name => return name
  | .literal value => bindValue place value
  | .binary operator left right =>
      match comparisonSql? operator with
      | none => throw (.operator operator)
      | some sql => do
          let l ← part 1 left
          let r ← part 1 right
          return l ++ " " ++ sql ++ " " ++ r
  | .logical operator left right =>
      match connectiveSql? operator with
      | none => throw (.operator operator)
      | some sql => do
          let l ← part 1 left
          let r ← part 1 right
          return "(" ++ l ++ " " ++ sql ++ " " ++ r ++ ")"
  | .unary operator operand =>
      match unarySql? operator with
      | none => throw (.operator operator)
      | some sql => do
          let o ← part 1 operand
          return sql ++ " " ++ o
  | .call callee arguments =>
      match Method.ofSpelling? callee with
      | none => throw (.callee callee)
      | some .membership =>
          match arguments with
          | receiver :: first :: rest => do
              let r ← part 2 receiver
              let vs ← (first :: rest).mapM (part 4)
              return r ++ " IN (" ++ Text.commaSeparated vs ++ ")"
          | _ => throw (.membershipArguments callee)
      | some (.pattern m) =>
          match arguments with
          | [receiver, .literal (.str term)] => do
              let r ← part 2 receiver
              let p ← bindValue place (.str (matchPattern m term))
              return r ++ " LIKE " ++ p ++ " ESCAPE '" ++ String.ofList [escapeMark] ++ "'"
          | [_, _] => throw (.patternTerm callee)
          | _ => throw (.patternArguments callee)

/-- Write a tree with placeholders from `place`, where `room` calls may be nested. -/
def write (place : Nat → String) : Nat → Tree → Writing String :=
  within (fun _ => throw .tooDeep) (writeNode place)

/-- The outcome of writing: the text or the fault, and the values bound by then. -/
def writeOnto (place : Nat → String) (clause : Option String) (t : Tree) (bound : Array Literal) :
    Except CompileError String × Array Literal :=
  match (write place Limits.writing t).run.run bound with
  | (.ok sql, bound) => (.ok sql, bound)
  | (.error fault, bound) => (.error ⟨fault, clause⟩, bound)

end BoundQuery.Sql
