import BoundQuery.Failure
import BoundQuery.Fragment.Rejection
import BoundQuery.Schema.Node
import BoundQuery.Tree.Basic

/-!
# Values of recorded fragments

The body of a callable fragment runs once, on a record that stands in for a row. Fields of the record
and predicates over them are values beside the plain ones; operations on them build trees instead of
computing anything.

* `Value` – what a body can hold.
* `Value.shown?`, `Value.spelledOut?`, `Value.kindName` – the texts of a value.
* `Value.truth` – the truth of a value; a predicate and the record have none.
* `Value.asTree` – a value as a part of a tree.
-/

namespace BoundQuery

/-- What a body can hold. A generator has evaluated its items up to the failure that stops it, which
    shows only if they are asked for. The record that is the argument of the body is the same record
    wherever it appears; any other is a new one. -/
inductive Value where
  | literal (value : Literal)
  | bytes (value : List UInt8)
  | list (items : List Value)
  | tuple (items : List Value)
  | set (items : List Value)
  | dict (keys values : List Value)
  | generator (items : List Value) (stop : Option Failure)
  | record (isArgument : Bool)
  | field (name : String)
  | predicate (tree : Tree)
  | tree (tree : Tree)
  | method (owner : String) (method : Method)
  | kind (name shown : String)
  deriving Inhabited

namespace Value

/-! ## 1. Texts -/

/-- The name of the kind of a value, as messages give it. -/
def kindName : Value → String
  | .literal value => value.kindName
  | .bytes _ => "bytes"
  | .list _ => "list"
  | .tuple _ => "tuple"
  | .set _ => "set"
  | .dict .. => "dict"
  | .generator .. => "generator"
  | .record _ => "Record"
  | .field _ => "FieldRef"
  | .predicate _ => "Expr"
  | .tree t => t.kindName
  | .method .. => "method"
  | .kind .. => "type"

/-- The text of a field. -/
def shownField? (name : String) : Option String := do
  return "FieldRef(" ++ (← (Tree.member name).shown?) ++ ")"

mutual

/-- How a value is shown in messages, unless it holds an integer too long to be written. -/
def shown? : Value → Option String
  | .literal value => value.shown?
  | .bytes value => some (Text.quotedBytes value)
  | .list items => do return Text.listText (← shownAll? items)
  | .tuple items => do return Text.tupleText (← shownAll? items)
  | .set items => do
      let texts ← shownAll? items
      return if texts.isEmpty then "set()" else Text.bracedText texts
  | .dict keys values => do
      let keys ← shownAll? keys
      let values ← shownAll? values
      return Text.bracedText (keys.zipWith (fun k v => k ++ ": " ++ v) values)
  | .generator .. => some "<generator object>"
  | .record _ => some "Record()"
  | .field name => shownField? name
  | .predicate t => do return "Expr(" ++ (← t.shown?) ++ ")"
  | .tree t => t.shown?
  | .method owner m => do
      return "<bound method FieldRef." ++ m.spelling ++ " of " ++ (← shownField? owner) ++ ">"
  | .kind _ shown => some shown

/-- The texts of several values. -/
def shownAll? : List Value → Option (List String)
  | [] => some []
  | v :: vs => do
      let text ← shown? v
      return text :: (← shownAll? vs)

end

/-- The plain text of a value: a text is itself, a tree its fields, and all else as shown. -/
def spelledOut? : Value → Option String
  | .literal (.str s) => some s
  | .tree t => t.spelledOut?
  | v => v.shown?

/-! ## 2. Truth -/

/-- Whether a value counts as true. A predicate and the record have no truth value. -/
def truth : Value → Except Failure Bool
  | .literal value => .ok value.isTrue
  | .bytes value => .ok !value.isEmpty
  | .list items => .ok !items.isEmpty
  | .tuple items => .ok !items.isEmpty
  | .set items => .ok !items.isEmpty
  | .dict keys _ => .ok !keys.isEmpty
  | .generator .. => .ok true
  | .record _ => .error (.ofCause .recordTruth)
  | .field _ => .error (.ofCause .predicateTruth)
  | .predicate _ => .error (.ofCause .predicateTruth)
  | .tree _ => .ok true
  | .method .. => .ok true
  | .kind .. => .ok true

/-! ## 3. Trees -/

/-- The tree that a field or a predicate stands for. -/
def recorded? : Value → Option Tree
  | .field name => some (.member name)
  | .predicate t => some t
  | _ => none

/-- A value as a part of a tree. -/
def asTree : Value → Except Failure Tree
  | .field name => .ok (.member name)
  | .predicate t => .ok t
  | .tree t => .ok t
  | .literal value => .ok (.literal value)
  | .record _ => .error (.ofCause .recordValue)
  | v => .error (.showing v.shown? (.unsupportedLiteral v.kindName))

/-- The field that a value names: a field, or a tree that is one. -/
def fieldName? : Value → Option String
  | .field name => some name
  | .predicate (.member name) => some name
  | .tree (.member name) => some name
  | _ => none

/-- The fields of a tree's root, by name and in order. -/
def treeFields : Tree → List (String × Value)
  | .member name => [("type", text "member"), ("name", text name)]
  | .literal value => [("type", text "literal"), ("value", .literal value)]
  | .binary operator left right =>
      [("type", text "binary"), ("operator", text operator), ("left", .tree left),
        ("right", .tree right)]
  | .logical operator left right =>
      [("type", text "logical"), ("operator", text operator), ("left", .tree left),
        ("right", .tree right)]
  | .unary operator operand =>
      [("type", text "unary"), ("operator", text operator), ("operand", .tree operand)]
  | .call callee arguments =>
      [("type", text "call"), ("callee", text callee), ("arguments", .tuple (arguments.map .tree))]
where
  /-- A text as a value. -/
  text (s : String) : Value := .literal (.str s)

end Value

end BoundQuery
