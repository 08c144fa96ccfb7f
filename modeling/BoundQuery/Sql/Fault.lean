import BoundQuery.Text.Listing
import BoundQuery.Text.Quoted

/-!
# Why a tree cannot be written as SQL

A `Fault` is what is wrong with a tree, or with the style that was asked for. A `CompileError` adds
the clause in which the fault was met, if it was met in one.
-/

namespace BoundQuery.Sql

/-- What stops a tree from being written. -/
inductive Fault where
  | operator (spelling : String)
  | callee (spelling : String)
  | membershipArguments (method : String)
  | patternArguments (method : String)
  | patternTerm (method : String)
  | tooDeep
  | notATree (kindName : String)
  | unknownStyle (shown : String) (known : List String)
  | stated (text : String)
  deriving DecidableEq

namespace Fault

/-- The wording of a fault. -/
def message : Fault → String
  | .operator spelling => "Unsupported operator '" ++ spelling ++ "'."
  | .callee spelling => "Unsupported method call '" ++ spelling ++ "'."
  | .membershipArguments method => method ++ "() needs a field and at least one value."
  | .patternArguments method => method ++ "() needs a field and one search term."
  | .patternTerm method => method ++ "() search term must be a string literal."
  | .tooDeep => "Expression tree is nested too deeply."
  | .notATree kindName => "Unknown expression node: " ++ kindName
  | .unknownStyle shown known =>
      "Unsupported paramstyle: '" ++ shown ++ "'. Registered paramstyles: "
        ++ Text.listText (known.map Text.quoted) ++ "."
  | .stated text => text

end Fault

/-- A fault and the clause it was met in. -/
structure CompileError where
  fault : Fault
  clause : Option String
  deriving DecidableEq

end BoundQuery.Sql
