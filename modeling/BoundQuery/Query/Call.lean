import BoundQuery.Fragment.Basic
import BoundQuery.Query.Descriptor

/-!
# Building a query

A query is built by calls, each of which sets or extends a clause. What a call does is settled by its
arguments alone: `Call.change` checks them and gives a `Change`, and `Change.apply` makes it in any
descriptor.
-/

namespace BoundQuery

variable [Limits]

/-- A call that builds on a query. -/
inductive Call where
  | filter (predicate : Fragment)
  | filterAlso (op : Connective) (predicate : Fragment)
  | project (selectors : List Fragment)
  | order (direction : Direction) (key : Fragment)
  | take (count : Value)
  | skip (count : Value)
  | page (number size : Value)
  | join (kind : JoinKind) (table condition : Value)
  | group (key : Fragment)
  | having (predicate : Fragment)

/-- A checked change of a query. -/
inductive Change where
  | filter (tree : Tree)
  | filterAlso (op : Connective) (tree : Tree)
  | project (names : List String)
  | order (item : OrderItem)
  | limit (count : Int)
  | offset (count : Int)
  | page (skipped size : Int)
  | join (entry : Join)
  | group (key : String)
  | having (tree : Tree)

namespace Change

/-- A filter joined with another one, or set if there is none. -/
def conjoin (op : Connective) (tree : Tree) : Option Tree → Tree
  | none => tree
  | some stored => .connect op stored tree

/-- Make a change. -/
def apply (d : Descriptor) : Change → Descriptor
  | .filter tree => { d with filter := some tree }
  | .filterAlso op tree => { d with filter := some (conjoin op tree d.filter) }
  | .project names => { d with projection := names }
  | .order item => { d with ordering := d.ordering ++ [item] }
  | .limit count => { d with limit := some count }
  | .offset count => { d with offset := some count }
  | .page skipped size => { d with offset := some skipped, limit := some size }
  | .join entry => { d with joins := d.joins ++ [entry] }
  | .group key => { d with groupKey := some key }
  | .having tree => { d with having := some tree }

end Change

/-- A text with something other than blanks in it. -/
def filledText? : Value → Option String
  | .literal (.str s) => if Text.isAllBlank s then none else some s
  | _ => none

/-- An integer that is not less than `least`. Truth values are no integers here. -/
def integerFrom? (least : Int) : Value → Option Int
  | .literal (.int n) => if n < least then none else some n
  | _ => none

namespace Descriptor

/-- The query over a table, which must be named by a text that is not blank. -/
def start (table : Value) : Except Failure Descriptor :=
  match filledText? table with
  | some name => .ok (.ofTable name)
  | none => .error (.refusing table.shown? .tableName)

end Descriptor

namespace Call

/-- A number of rows. -/
def rowCount (bound : RowBound) (count : Value) : Except Failure Int :=
  match integerFrom? 0 count with
  | some n => .ok n
  | none => .error (.refusing count.shown? (.rowCount bound))

/-- The change that a call makes, if its arguments are right. -/
def change : Call → Except Failure Change
  | .filter predicate => do return .filter (← predicate.predicate)
  | .filterAlso op predicate => do return .filterAlso op (← predicate.predicate)
  | .project selectors => do return .project (← Fragment.selectAll selectors)
  | .order direction key => do return .order ⟨← key.key, direction⟩
  | .take count => do return .limit (← rowCount .limit count)
  | .skip count => do return .offset (← rowCount .offset count)
  | .page number size =>
      match integerFrom? 1 number, integerFrom? 1 size with
      | some n, some s => .ok (.page ((n - 1) * s) s)
      | none, _ => .error (.refusing number.shown? .pageNumber)
      | some _, none => .error (.refusing size.shown? .pageSize)
  | .join kind table condition =>
      match filledText? table, filledText? condition with
      | some t, some c => .ok (.join ⟨kind, t, c⟩)
      | none, _ => .error (.refusing table.shown? .joinTable)
      | some _, none => .error (.refusing condition.shown? .joinCondition)
  | .group key => do return .group (← key.key)
  | .having predicate => do return .having (← predicate.predicate)

/-- Make a call on a query. -/
def apply (call : Call) (d : Descriptor) : Except Failure Descriptor := do
  return (← call.change).apply d

end Call

end BoundQuery
