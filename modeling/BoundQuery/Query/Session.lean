import BoundQuery.Fragment.Given
import BoundQuery.Query.Call
import BoundQuery.Schema.Query
import BoundQuery.Sql.Statement

/-!
# Sessions

A session builds queries step by step. It keeps every query built so far, the placeholder styles that
can be asked for, and a log of what was compiled and rejected. A step works on a query by number or on
the newest one, and a step that fails leaves no new query.
-/

namespace BoundQuery

variable [Limits]

/-- What a fragment was read as. -/
inductive Role where
  | predicate | selector | key
  deriving DecidableEq

namespace Role

/-- The word for a role. -/
def word : Role → String
  | .predicate => "predicate"
  | .selector => "selector"
  | .key => "key"

end Role

/-- An entry of the log. -/
inductive Event where
  | rejected (role : Role) (rejection : Rejection)
  | compiled (statement : Sql.Statement)

namespace Event

/-- The wording of an entry. -/
def message : Event → String
  | .rejected role rejection =>
      "Rejected " ++ role.word ++ " fragment "
        ++ (match rejection.fragment with
          | some text => Text.quoted text
          | none => Literal.nullText)
        ++ ": " ++ rejection.cause.message
  | .compiled statement =>
      "Compiled " ++ statement.sql ++ " with " ++ statement.values.size.repr
        ++ " bound parameter(s)"

end Event

/-- A building step, with its arguments as they are given. -/
inductive Building where
  | filter (predicate : Given)
  | filterAlso (op : Connective) (predicate : Given)
  | project (selectors : List Given)
  | order (direction : Direction) (key : Given)
  | take (count : Body)
  | skip (count : Body)
  | page (number size : Body)
  | join (kind : JoinKind) (table condition : Body)
  | group (key : Given)
  | having (predicate : Given)

namespace Building

/-- The call of a building step, once its arguments are evaluated. -/
def call : Building → Except Failure Call
  | .filter predicate => do return .filter (← predicate.fragment)
  | .filterAlso op predicate => do return .filterAlso op (← predicate.fragment)
  | .project selectors => do return .project (← selectors.mapM (·.fragment))
  | .order direction key => do return .order direction (← key.fragment)
  | .take count => do return .take (← count.run)
  | .skip count => do return .skip (← count.run)
  | .page number size => do
      let number ← number.run
      return .page number (← size.run)
  | .join kind table condition => do
      let table ← table.run
      return .join kind table (← condition.run)
  | .group key => do return .group (← key.fragment)
  | .having predicate => do return .having (← predicate.fragment)

/-- What the fragments of a building step are read as. -/
def role? : Building → Option Role
  | .filter _ => some .predicate
  | .filterAlso .. => some .predicate
  | .project _ => some .selector
  | .order .. => some .key
  | .group _ => some .key
  | .having _ => some .predicate
  | _ => none

end Building

/-- The two statements of a query. -/
inductive Wanted where
  | rows | count

namespace Wanted

/-- The wanted statement of a query, in a style. -/
def statement (wanted : Wanted) (style : Sql.Style) (d : Descriptor) : Except Failure Sql.Statement :=
  match wanted with
  | .rows => Sql.select style d
  | .count => Sql.count style d

end Wanted

/-- One step of a session. -/
inductive Step where
  | build (building : Building)
  | compile (wanted : Wanted) (style : Literal)
  | register (name template reported : String)
  | styles
  | assign (clause : String)
  | equals (i j : Nat)
  | state
  | texts

/-- What a step answers. -/
inductive Answer where
  | query (d : Descriptor)
  | statement (statement : Sql.Statement)
  | styles (names : List String)
  | equal (same : Bool)
  | texts (shown spelledOut : String)
  | failed (failure : Failure)

/-- A session: the queries built so far, newest last, the styles and the log, newest first. -/
structure Session where
  queries : Array Descriptor
  styles : Sql.StyleBook
  log : List Event

namespace Session

/-- The session over one query. -/
def ofQuery (d : Descriptor) : Session := ⟨#[d], .standard, []⟩

/-- The log entry that a failed building step leaves. -/
def rejectionLog (role? : Option Role) : Failure → List Event
  | .rejected rejection => (role?.map fun role => Event.rejected role rejection).toList
  | _ => []

/-- A building step on a query. -/
def build (s : Session) (building : Building) (d : Descriptor) : Session × Answer :=
  match building.call with
  | .error failure => (s, .failed failure)
  | .ok call =>
      match call.apply d with
      | .ok d => ({ s with queries := s.queries.push d }, .query d)
      | .error failure =>
          ({ s with log := rejectionLog building.role? failure ++ s.log }, .failed failure)

/-- Compile a query. -/
def compile (s : Session) (wanted : Wanted) (style : Literal) (d : Descriptor) : Session × Answer :=
  match s.styles.ask style >>= (wanted.statement · d) with
  | .ok statement => ({ s with log := .compiled statement :: s.log }, .statement statement)
  | .error failure => (s, .failed failure)

/-- The query of a number, or the newest one. -/
def query? (s : Session) (on : Option Nat) : Option Descriptor :=
  match on with
  | some i => s.queries[i]?
  | none => s.queries.back?

/-- One step on a query. -/
def stepOn (s : Session) (d : Descriptor) : Step → Session × Answer
  | .build building => s.build building d
  | .compile wanted style => s.compile wanted style d
  | .register name template reported =>
      let styles := s.styles.register name (.ofTemplate template reported)
      ({ s with styles }, .styles styles.names)
  | .styles => (s, .styles s.styles.names)
  | .assign clause => (s, .failed (.invalid [⟨.frozen, [clause]⟩]))
  | .equals i j =>
      match s.queries[i]?, s.queries[j]? with
      | some d, some e => (s, .equal (d.same e))
      | _, _ => (s, .failed (.absent .position "list index out of range"))
  | .state => (s, .query d)
  | .texts =>
      match d.shown?, d.spelledOut? with
      | some shown, some spelledOut => (s, .texts shown spelledOut)
      | _, _ => (s, .failed .unwritable)

/-- One step on the query of a number or on the newest one. -/
def step (s : Session) (on : Option Nat) (step : Step) : Session × Answer :=
  match s.query? on with
  | some d => s.stepOn d step
  | none => (s, .failed (.absent .position "list index out of range"))

/-- The answers of several steps, one after the other, and the session after them. -/
def run (s : Session) (steps : List (Option Nat × Step)) : Session × List Answer :=
  steps.foldl
    (fun (s, answers) (on, next) =>
      let (s, answer) := s.step on next
      (s, answers ++ [answer]))
    (s, [])

end Session

end BoundQuery
