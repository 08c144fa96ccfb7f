import BoundQuery.Literal
import BoundQuery.Text.Listing
import BoundQuery.Tree.Operator

/-!
# Predicate trees

A predicate is a tree over named fields and literal values: comparisons, connectives, negation and
calls. `Tree.same` is equality up to the equality of literals. `Tree.shown?` and `Tree.spelledOut?` are
the two texts of a tree; a tree that holds an integer too long to be written has none.
-/

namespace BoundQuery

/-- A predicate, or a part of one. Operators and callees are plain texts. -/
inductive Tree where
  | member (name : String)
  | literal (value : Literal)
  | binary (operator : String) (left right : Tree)
  | logical (operator : String) (left right : Tree)
  | unary (operator : String) (operand : Tree)
  | call (callee : String) (arguments : List Tree)
  deriving Inhabited

namespace Tree

/-! ## 1. Building trees -/

/-- A comparison of two trees. -/
def compare (c : Comparison) (left right : Tree) : Tree := .binary c.spelling left right

/-- Two trees joined by a connective. -/
def connect (c : Connective) (left right : Tree) : Tree := .logical c.spelling left right

/-- The negation of a tree. -/
def negate (t : Tree) : Tree := .unary negationSpelling t

/-- A membership test of a field against values. -/
def membership (name : String) (values : List Tree) : Tree :=
  .call membershipSpelling (.member name :: values)

/-- A text match of a field. -/
def pattern (m : Match) (name term : String) : Tree :=
  .call m.spelling [.member name, .literal (.str term)]

/-! ## 2. Kinds -/

/-- The tag of a tree's root. -/
def kind : Tree → String
  | .member _ => "member"
  | .literal _ => "literal"
  | .binary .. => "binary"
  | .logical .. => "logical"
  | .unary .. => "unary"
  | .call .. => "call"

/-- The name of the kind of a tree's root, as messages give it. -/
def kindName : Tree → String
  | .member _ => "MemberNode"
  | .literal _ => "LiteralNode"
  | .binary .. => "BinaryNode"
  | .logical .. => "LogicalNode"
  | .unary .. => "UnaryNode"
  | .call .. => "CallNode"

/-- Whether a tree is a single literal. -/
def isLiteral : Tree → Bool
  | .literal _ => true
  | _ => false

/-! ## 3. Equality -/

mutual

/-- Equality of trees: the same shape, names and operators, and equal literals. -/
def same : Tree → Tree → Bool
  | .member a, .member b => a == b
  | .literal a, .literal b => a.same b
  | .binary o l r, .binary o' l' r' => o == o' && same l l' && same r r'
  | .logical o l r, .logical o' l' r' => o == o' && same l l' && same r r'
  | .unary o t, .unary o' t' => o == o' && same t t'
  | .call c ts, .call c' ts' => c == c' && sameAll ts ts'
  | _, _ => false

/-- Equality of lists of trees, member by member. -/
def sameAll : List Tree → List Tree → Bool
  | [], [] => true
  | t :: ts, t' :: ts' => same t t' && sameAll ts ts'
  | _, _ => false

end

/-! ## 4. Texts -/

mutual

/-- The fields of a tree's root, each as `name=value`, if every literal can be written. -/
def shownFields? : Tree → Option (List String)
  | .member name => some ["type='member'", "name=" ++ Text.quoted name]
  | .literal value => do return ["type='literal'", "value=" ++ (← value.shown?)]
  | .binary operator left right => do
      let l ← shownFields? left
      let r ← shownFields? right
      return ["type='binary'", "operator=" ++ Text.quoted operator,
        "left=" ++ Text.recordText left.kindName l, "right=" ++ Text.recordText right.kindName r]
  | .logical operator left right => do
      let l ← shownFields? left
      let r ← shownFields? right
      return ["type='logical'", "operator=" ++ Text.quoted operator,
        "left=" ++ Text.recordText left.kindName l, "right=" ++ Text.recordText right.kindName r]
  | .unary operator operand => do
      let fields ← shownFields? operand
      return ["type='unary'", "operator=" ++ Text.quoted operator,
        "operand=" ++ Text.recordText operand.kindName fields]
  | .call callee arguments => do
      let texts ← shownAll? arguments
      return ["type='call'", "callee=" ++ Text.quoted callee, "arguments=" ++ Text.tupleText texts]

/-- The texts of several trees. -/
def shownAll? : List Tree → Option (List String)
  | [] => some []
  | t :: ts => do
      let fields ← shownFields? t
      return Text.recordText t.kindName fields :: (← shownAll? ts)

end

/-- The text of a tree, with the kind of every part. -/
def shown? (t : Tree) : Option String := t.shownFields?.map (Text.recordText t.kindName)

/-- The text of a tree as a plain text value: the fields of its root, parted by blanks. -/
def spelledOut? (t : Tree) : Option String := t.shownFields?.map " ".intercalate

end Tree

end BoundQuery
