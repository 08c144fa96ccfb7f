import BoundQuery.Number.Decimal
import BoundQuery.Text.Quoted

/-!
# Literal values

The values a predicate can hold and a statement can bind: nothing, a truth value, an integer, a float
or a text. The five kinds never stand in for each other, yet they compare across kinds: a truth value
counts as zero or one, and an integer and a float are equal when they are exactly the same number
(`Literal.same`).
-/

namespace BoundQuery

/-- A literal value. -/
inductive Literal where
  | null
  | bool (b : Bool)
  | int (n : Int)
  | float (x : Binary64)
  | str (s : String)
  deriving DecidableEq, Inhabited

namespace Literal

/-- The number a literal counts as, if it counts as one. -/
def quantity? : Literal → Option Quantity
  | .bool b => some (.ofInt (if b then 1 else 0))
  | .int n => some (.ofInt n)
  | .float x => some (.ofBinary64 x)
  | _ => none

/-- Equality of literals: numbers by their exact value whatever their kind, texts by their
    characters, and nothing only with nothing. -/
def same : Literal → Literal → Bool
  | .null, .null => true
  | .str s, .str t => s == t
  | a, b =>
      match a.quantity?, b.quantity? with
      | some x, some y => x.same y
      | _, _ => false

/-- How nothing is shown in messages. -/
def nullText : String := "None"

/-- How a literal is shown in messages, unless it is an integer too long to be written. -/
def shown? : Literal → Option String
  | .null => some nullText
  | .bool true => some "True"
  | .bool false => some "False"
  | .int n => decimal? n
  | .float x => some (x.text FloatFormat.literal)
  | .str s => some (Text.quoted s)

/-- The name of the kind of a literal, as messages give it. -/
def kindName : Literal → String
  | .null => "NoneType"
  | .bool _ => "bool"
  | .int _ => "int"
  | .float _ => "float"
  | .str _ => "str"

/-- Whether a literal counts as true when it is tested. -/
def isTrue : Literal → Bool
  | .null => false
  | .bool b => b
  | .int n => n != 0
  | .float x => !x.isZero
  | .str s => !s.isEmpty

end Literal

end BoundQuery
