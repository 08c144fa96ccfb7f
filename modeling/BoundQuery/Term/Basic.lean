import BoundQuery.Literal
import BoundQuery.Text.Identifier
import BoundQuery.Tree.Operator

/-!
# Terms: what a fragment's text says

A text fragment is an expression. A `Term` is such an expression once it has been read: the
forms a predicate, a key or a selector can be made of have constructors of their own, and all other
forms are kept as `Term.other` with the name of the form and their parts.
-/

namespace BoundQuery

/-- A constant of a term: a literal, or a constant that no predicate can hold. -/
inductive Constant where
  | literal (value : Literal)
  | bytes (value : List UInt8)
  | imaginary (value : Binary64)
  | ellipsis
  deriving DecidableEq

namespace Constant

/-- How an imaginary number is shown in messages. -/
def imaginaryText (x : Binary64) : String := x.text FloatFormat.imaginary ++ "j"

/-- How the ellipsis is shown in messages. -/
def ellipsisText : String := "Ellipsis"

/-- How a constant is shown in messages, unless it is an integer too long to be written. -/
def shown? : Constant → Option String
  | .literal value => value.shown?
  | .bytes value => some (Text.quotedBytes value)
  | .imaginary value => some (imaginaryText value)
  | .ellipsis => some ellipsisText

/-- The text that a constant is, if it is one. -/
def text? : Constant → Option String
  | .literal (.str s) => some s
  | _ => none

end Constant

/-- The relations that a comparison of terms may use. -/
inductive Relation where
  | compare (c : Comparison)
  | identical (negated : Bool)
  | member (negated : Bool)
  deriving DecidableEq

/-- The operators that stand before their operand. -/
inductive Sign where
  | not | minus | plus | invert
  deriving DecidableEq

namespace Sign

/-- The name of an operator, as messages give it. -/
def formName : Sign → String
  | .not => "Not"
  | .minus => "USub"
  | .plus => "UAdd"
  | .invert => "Invert"

end Sign

/-- The parameters of a lambda, by kind. -/
structure Parameters where
  positionalOnly : List Text.Identifier
  positional : List Text.Identifier
  rest : Option Text.Identifier
  keywordOnly : List Text.Identifier
  keywordRest : Option Text.Identifier

/-- The forms of a term that no fragment can use. -/
inductive Form where
  | arithmetic
  | named
  | listOf
  | setOf
  | dictOf
  | generator
  | await
  | yield
  | yieldFrom
  | interpolated
  | starred
  | slice
  | spread
  deriving DecidableEq

namespace Form

/-- The name of a form, as messages give it. A `spread` only marks an entry of a dictionary display
    that has no key. -/
def formName : Form → String
  | .arithmetic => "BinOp"
  | .named => "NamedExpr"
  | .listOf => "ListComp"
  | .setOf => "SetComp"
  | .dictOf => "DictComp"
  | .generator => "GeneratorExp"
  | .await => "Await"
  | .yield => "Yield"
  | .yieldFrom => "YieldFrom"
  | .interpolated => "JoinedStr"
  | .starred => "Starred"
  | .slice => "Slice"
  | .spread => "NoneType"

end Form

/-- A term. The operands of a connective are one or more. The comparisons of a chain are the relations
    `relations` between `left` and the `operands` in turn. A dictionary display has as many keys as
    values; an entry without a key has the key `other .spread []`. The `named` arguments of a call are
    the values of its keyword arguments. -/
inductive Term where
  | name (id : Text.Identifier)
  | access (base : Term) (field : Text.Identifier)
  | subscript (base index : Term)
  | constant (value : Constant)
  | connective (op : Connective) (first : Term) (rest : List Term)
  | signed (sign : Sign) (operand : Term)
  | compare (left : Term) (relations : List Relation) (operands : List Term)
  | call (callee : Term) (positional named : List Term)
  | list (items : List Term)
  | tuple (items : List Term)
  | set (items : List Term)
  | dict (keys values : List Term)
  | lambda (parameters : Parameters) (defaults keywordDefaults : List Term) (body : Term)
  | conditional (test yes no : Term)
  | other (form : Form) (parts : List Term)

namespace Term

/-- The name of the form of a term, as messages give it. -/
def formName : Term → String
  | .name _ => "Name"
  | .access .. => "Attribute"
  | .subscript .. => "Subscript"
  | .constant _ => "Constant"
  | .connective .. => "BoolOp"
  | .signed .. => "UnaryOp"
  | .compare .. => "Compare"
  | .call .. => "Call"
  | .list _ => "List"
  | .tuple _ => "Tuple"
  | .set _ => "Set"
  | .dict .. => "Dict"
  | .lambda .. => "Lambda"
  | .conditional .. => "IfExp"
  | .other form _ => form.formName

mutual

/-- How deep a term is nested. -/
def depth : Term → Nat
  | .name _ => 1
  | .access base _ => depth base + 1
  | .subscript base index => max (depth base) (depth index) + 1
  | .constant _ => 1
  | .connective _ first rest => max (depth first) (depthAll rest) + 1
  | .signed _ operand => depth operand + 1
  | .compare left _ operands => max (depth left) (depthAll operands) + 1
  | .call callee positional named =>
      max (depth callee) (max (depthAll positional) (depthAll named)) + 1
  | .list items => depthAll items + 1
  | .tuple items => depthAll items + 1
  | .set items => depthAll items + 1
  | .dict keys values => max (depthAll keys) (depthAll values) + 1
  | .lambda _ defaults keywordDefaults body =>
      max (depth body) (max (depthAll defaults) (depthAll keywordDefaults)) + 1
  | .conditional test yes no => max (depth test) (max (depth yes) (depth no)) + 1
  | .other _ parts => depthAll parts + 1

/-- The greatest depth of several terms. -/
def depthAll : List Term → Nat
  | [] => 0
  | t :: ts => max (depth t) (depthAll ts)

end

end Term

end BoundQuery
