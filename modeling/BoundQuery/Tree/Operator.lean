/-!
# The vocabulary of predicates

The comparisons, connectives and calls a fragment can be made of, and how a predicate tree spells
them. A tree stores operators and callees as plain texts, so that a tree built by hand may hold
others; which of them can be written as SQL is decided when a statement is made.
-/

namespace BoundQuery

/-- The six comparisons. -/
inductive Comparison where
  | eq | ne | gt | lt | ge | le
  deriving DecidableEq, Repr

namespace Comparison

/-- How a tree spells a comparison. -/
def spelling : Comparison → String
  | .eq => "=="
  | .ne => "!="
  | .gt => ">"
  | .lt => "<"
  | .ge => ">="
  | .le => "<="

/-- The comparison that holds of the swapped operands. -/
def flipped : Comparison → Comparison
  | .eq => .eq
  | .ne => .ne
  | .gt => .lt
  | .lt => .gt
  | .ge => .le
  | .le => .ge

@[simp] theorem flipped_flipped (c : Comparison) : c.flipped.flipped = c := by
  cases c <;> rfl

end Comparison

/-- The two connectives. -/
inductive Connective where
  | and | or
  deriving DecidableEq, Repr

namespace Connective

/-- How a tree spells a connective. -/
def spelling : Connective → String
  | .and => "AND"
  | .or => "OR"

end Connective

/-- How a tree spells negation. -/
def negationSpelling : String := "not"

/-- The two text matches: by the start and by the end of a text. -/
inductive Match where
  | starts | ends
  deriving DecidableEq, Repr

namespace Match

/-- How a tree and a fragment spell a text match. -/
def spelling : Match → String
  | .starts => "startswith"
  | .ends => "endswith"

end Match

/-- How a tree and a fragment spell the membership test. -/
def membershipSpelling : String := "in_"

/-- The calls a fragment may make on a field. -/
inductive Method where
  | membership
  | pattern (m : Match)
  deriving DecidableEq, Repr

namespace Method

/-- How a call is spelled. -/
def spelling : Method → String
  | .membership => membershipSpelling
  | .pattern m => m.spelling

/-- The call of a given spelling. -/
def ofSpelling? (s : String) : Option Method :=
  if s = membershipSpelling then some .membership
  else if s = Match.starts.spelling then some (.pattern .starts)
  else if s = Match.ends.spelling then some (.pattern .ends)
  else none

/-- Every call of the vocabulary, by spelling. -/
def all : List String := [Match.ends.spelling, membershipSpelling, Match.starts.spelling]

end Method

end BoundQuery
