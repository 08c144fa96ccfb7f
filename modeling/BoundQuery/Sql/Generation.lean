import BoundQuery.Fragment.Given
import BoundQuery.Sql.Predicate

/-!
# Writing single fragments

A `Generator` writes the predicates of fragments one at a time, onto values that are bound already or
onto none. A fragment may be taken raw, and then has to be a tree already.
-/

namespace BoundQuery.Sql

variable [Limits]

/-- A style and the clause that faults are reported for. -/
structure Generator where
  style : Style
  clause : Option String

namespace Generator

/-- The tree of a fragment. -/
def treeOf (g : Generator) (raw : Bool) (f : Fragment) : Except Failure Tree :=
  if raw then
    match f with
    | .value (.tree t) => .ok t
    | f => .error (.compile ⟨.notATree f.kindName, g.clause⟩)
  else f.predicate

/-- Write the predicate of a fragment onto the values bound so far. -/
def generate (g : Generator) (raw : Bool) (given : Given) (bound : Array Literal) :
    Except Failure String × Array Literal :=
  match given.fragment >>= g.treeOf raw with
  | .error failure => (.error failure, bound)
  | .ok t =>
      match writeOnto g.style.place g.clause t bound with
      | (.ok sql, bound) => (.ok sql, bound)
      | (.error e, bound) => (.error (.compile e), bound)

/-- Write several fragments one after the other. If `shared`, each continues the values bound by those
    before it, and else each starts with none. Gives each outcome with the values bound after it. -/
def generateAll (g : Generator) (shared : Bool) :
    List (Bool × Given) → Array Literal → List (Except Failure String × Array Literal)
  | [], _ => []
  | (raw, given) :: rest, bound =>
      let (outcome, after) := g.generate raw given bound
      (outcome, after) :: g.generateAll shared rest (if shared then after else #[])

end Generator

end BoundQuery.Sql
