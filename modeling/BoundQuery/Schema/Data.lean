import BoundQuery.Tree.Basic

/-!
# Plain data

Trees and descriptors can be given as plain data: scalars, lists, and objects with named entries in
order. Checking such data finds all that is wrong with it at once; an `Issue` says what is wrong and
where. `Tree.toData` gives a tree as data.
-/

namespace BoundQuery

/-- Plain data. -/
inductive Data where
  | scalar (value : Literal)
  | list (items : List Data)
  | object (entries : List (String × Data))
  deriving Inhabited

/-- What can be wrong with a place of the data. -/
inductive IssueKind where
  | missing
  | unknownField
  | notText
  | notTruthValue
  | notInteger
  | notFloat
  | wrongTag
  | notListed
  | notAList
  | notAnObject
  | notANode
  | noTag
  | unknownTag
  | fractional
  | infinite
  | unreadableInteger
  | tooLarge
  | tooDeep
  | frozen
  deriving DecidableEq

/-- Something wrong at a place, which is given by the names and positions that lead to it. -/
structure Issue where
  kind : IssueKind
  place : List String
  deriving DecidableEq

namespace Issue

/-- The issue as seen from one step further out. -/
def under (step : String) (issue : Issue) : Issue := { issue with place := step :: issue.place }

/-- The place as a text. -/
def placeText (issue : Issue) : String := ".".intercalate issue.place

end Issue

/-- A value read from data, or all that is wrong with the data. -/
abbrev Checked (α : Type) := Except (List Issue) α

namespace Checked

/-- One thing is wrong, here. -/
def fail {α : Type} (kind : IssueKind) : Checked α := .error [⟨kind, []⟩]

/-- A checked value as seen from one step further out. -/
def under {α : Type} (step : String) : Checked α → Checked α
  | .ok x => .ok x
  | .error issues => .error (issues.map (·.under step))

/-- Two values, with the issues of both. -/
def both {α β : Type} (a : Checked α) (b : Checked β) : Checked (α × β) :=
  match a, b with
  | .ok x, .ok y => .ok (x, y)
  | .ok _, .error issues => .error issues
  | .error issues, .ok _ => .error issues
  | .error issues, .error more => .error (issues ++ more)

/-- A checked value together with issues found elsewhere. -/
def withIssues {α : Type} (a : Checked α) (issues : List Issue) : Checked α :=
  match a with
  | .ok x => if issues.isEmpty then .ok x else .error issues
  | .error found => .error (found ++ issues)

/-- Checked members of a list from position `start` on, each under its position. -/
def members {α : Type} (start : Nat) : List (Checked α) → Checked (List α)
  | [] => .ok []
  | a :: as =>
      match both (a.under start.repr) (members (start + 1) as) with
      | .ok (x, xs) => .ok (x :: xs)
      | .error issues => .error issues

end Checked

namespace Tree

mutual

/-- A tree as plain data. -/
def toData : Tree → Data
  | .member name => .object [("type", text "member"), ("name", text name)]
  | .literal value => .object [("type", text "literal"), ("value", .scalar value)]
  | .binary operator left right =>
      .object [("type", text "binary"), ("operator", text operator), ("left", toData left),
        ("right", toData right)]
  | .logical operator left right =>
      .object [("type", text "logical"), ("operator", text operator), ("left", toData left),
        ("right", toData right)]
  | .unary operator operand =>
      .object [("type", text "unary"), ("operator", text operator), ("operand", toData operand)]
  | .call callee arguments =>
      .object [("type", text "call"), ("callee", text callee), ("arguments", .list (toDataAll arguments))]
where
  /-- A text as data. -/
  text (s : String) : Data := .scalar (.str s)

/-- Several trees as plain data. -/
def toDataAll : List Tree → List Data
  | [] => []
  | t :: ts => toData t :: toDataAll ts

end

end Tree

end BoundQuery
