import BoundQuery.Fragment.Rejection
import BoundQuery.Query.Refusal
import BoundQuery.Schema.Data
import BoundQuery.Sql.Fault

/-!
# Failures

All the ways in which making or compiling a query can fail. While the body of a callable fragment
runs, operations on values that have no such operation fail too (`Failure.misuse`), and so does looking
for something that is not there (`Failure.absent`). So does, anywhere, writing an integer that is too
long (`Failure.unwritable`). The body may also raise failures of its own, which
the library passes on as they are (`Failure.foreign`).
-/

namespace BoundQuery

/-- The three kinds of misuse of a value: an operation its kind does not have, an attribute it does
    not have, or an unfit value. -/
inductive MisuseKind where
  | operation | access | value
  deriving DecidableEq

/-- What can be missing: a position in a sequence, a key in a dictionary, a float or a size that is
    large enough, room for a result, or the library that knows how classes are mapped to tables. -/
inductive AbsentKind where
  | position | key | float | size | memory | mappings
  deriving DecidableEq

/-- A failure. -/
inductive Failure where
  | rejected (rejection : Rejection)
  | refused (refusal : Refusal)
  | compile (error : Sql.CompileError)
  | invalid (issues : List Issue)
  | misuse (kind : MisuseKind) (text : String)
  | absent (kind : AbsentKind) (text : String)
  | foreign (kind text : String)
  deriving DecidableEq

namespace Failure

/-- The failure of a cause whose fragment is not known yet. -/
def ofCause (cause : Cause) : Failure := .rejected ⟨cause, none⟩

/-- The outcome of a check that finds causes, as one that finds failures. -/
def lift {α : Type} (outcome : Except Cause α) : Except Failure α := outcome.mapError ofCause

/-- The failure to write an integer that is too long. -/
def unwritable : Failure :=
  .misuse .value ("Exceeds the limit (" ++ longestDecimal.repr ++ " digits) for integer string "
    ++ "conversion; use sys.set_int_max_str_digits() to increase the limit")

/-- The failure to read an integer from a text of so many digits. -/
def unreadable (digits : Nat) : Failure :=
  .misuse .value ("Exceeds the limit (" ++ longestDecimal.repr ++ " digits) for integer string "
    ++ "conversion: value has " ++ digits.repr
    ++ " digits; use sys.set_int_max_str_digits() to increase the limit")

/-- A text that has to be written, or the failure to write it. -/
def written : Option String → Except Failure String
  | some text => .ok text
  | none => .error unwritable

/-- The failure of a cause whose message shows a value. -/
def showing (text? : Option String) (cause : String → Cause) : Failure :=
  match text? with
  | some text => ofCause (cause text)
  | none => unwritable

/-- The failure of a refusal whose message shows a value. -/
def refusing (text? : Option String) (refusal : String → Refusal) : Failure :=
  match text? with
  | some text => .refused (refusal text)
  | none => unwritable

/-- A failure as it leaves the fragment in which it came up: rejections get the fragment, misuse and
    unfit arguments reject it, and all else passes unchanged. -/
def within (description : String) : Failure → Failure
  | .rejected rejection => .rejected { rejection with fragment := some description }
  | .misuse _ text => .rejected ⟨.construct text, some description⟩
  | .refused refusal => .rejected ⟨.construct refusal.message, some description⟩
  | .invalid _ => .rejected ⟨.construct "ValidationError", some description⟩
  | failure => failure

end Failure

end BoundQuery
