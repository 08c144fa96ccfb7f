import BoundQuery.Text.Identifier
import BoundQuery.Text.Listing
import BoundQuery.Text.Quoted
import BoundQuery.Tree.Operator

/-!
# Why a fragment is rejected

A `Cause` is what is wrong with a fragment; `Cause.message` is its wording. A `Rejection` adds the
fragment, as far as it is known where the cause was found.
-/

namespace BoundQuery

/-- What is wrong with a fragment. Values appear in it by the text that shows them. -/
inductive Cause where
  -- the text as a whole
  | malformed
  | unreadable
  | tooDeep
  | lambdaParameters
  -- predicates in text
  | constantPredicate (shown : String)
  | unaryOperator (formName : String)
  | chainedComparison
  | relation (formName : String)
  | notAMethodCall
  | unknownMethod (name : String)
  | argumentCount (method : String)
  | patternArgument (method : String)
  | membershipShape
  | membershipEmpty (field : String)
  | membershipValue
  | conditional
  | form (formName : String)
  | unsupportedConstant (shown : String)
  -- fields in text
  | subscript
  | notAField (formName : String)
  | unresolvedName (name : String)
  | parameterAlone (name : String)
  -- selectors
  | selectorKeyForm
  | selectorKey (shown : String)
  | emptySelector
  | selectorEntry (keyShown shown : String)
  | selectorItem (shown : String)
  | selectorValue (shown : String)
  -- keys
  | expectedKey (kindName : String)
  | keyNotAField (shown : String)
  -- recorded fragments
  | expectedPredicate (kindName : String)
  | parameterCount (count : Nat)
  | construct (text : String)
  | recordValue
  | unsupportedLiteral (kindName shown : String)
  | predicateTruth
  | recordTruth
  | fieldName (shown : String)
  | membershipSource (shown : String)
  | membershipNoValues (field : String)
  | patternTerm (method shown : String)
  | stated (text : String)
  deriving DecidableEq

namespace Cause

/-- The wording of a cause. -/
def message : Cause → String
  | .malformed => "Invalid fragment syntax"
  | .unreadable => "Fragment cannot be parsed"
  | .tooDeep => "Fragment is nested too deeply."
  | .lambdaParameters => "A lambda fragment must take exactly one parameter."
  | .constantPredicate shown =>
      "A predicate must reference at least one field, got the constant " ++ shown ++ "."
  | .unaryOperator formName => "Unsupported unary operator: " ++ formName ++ "."
  | .chainedComparison => "Chained comparisons are not supported; combine them with 'and'."
  | .relation formName => "Unsupported comparison operator: " ++ formName ++ "."
  | .notAMethodCall => "Only method calls on a field are supported."
  | .unknownMethod name =>
      "Unsupported method call '" ++ name ++ "'. Allowed: "
        ++ Text.listText (Method.all.map Text.quoted) ++ "."
  | .argumentCount method => method ++ "() takes exactly one positional argument."
  | .patternArgument method => method ++ "() expects a string constant."
  | .membershipShape => "Membership tests need a literal list or tuple of values."
  | .membershipEmpty field => "Membership test on '" ++ field ++ "' needs at least one value."
  | .membershipValue => "Membership values must be literals."
  | .conditional => "Conditional expressions are not supported."
  | .form formName => "Unsupported syntax: " ++ formName ++ "."
  | .unsupportedConstant shown => "Unsupported literal: " ++ shown ++ "."
  | .subscript => "Only '<param>[\"field\"]' subscripts are supported."
  | .notAField formName => "Expected a field, got " ++ formName ++ "."
  | .unresolvedName name =>
      "Name '" ++ name ++ "' cannot be resolved inside a text fragment; "
        ++ "inline the value or use a callable fragment."
  | .parameterAlone name => "'" ++ name ++ "' alone is not a field."
  | .selectorKeyForm => "Selector keys must be string constants."
  | .selectorKey shown => "Selector keys must be plain identifiers, got " ++ shown ++ "."
  | .emptySelector => "A selector must name at least one field."
  | .selectorEntry keyShown shown =>
      "Selector entry " ++ keyShown ++ " must be a field, got " ++ shown ++ "."
  | .selectorItem shown => "Selector entries must be fields, got " ++ shown ++ "."
  | .selectorValue shown =>
      "A selector must return a field, a tuple of fields or a dict of fields, got " ++ shown ++ "."
  | .expectedKey kindName => "Expected a key, got " ++ kindName ++ "."
  | .keyNotAField shown => "A key must be a single field, got " ++ shown ++ "."
  | .expectedPredicate kindName => "Expected a predicate, got " ++ kindName ++ "."
  | .parameterCount count =>
      "A fragment must take exactly one parameter, got " ++ count.repr ++ "."
  | .construct text => "Unsupported construct in fragment: " ++ text
  | .recordValue => "The record itself is not a value; access one of its fields."
  | .unsupportedLiteral kindName shown =>
      "Unsupported literal of type " ++ kindName ++ ": " ++ shown ++ ". "
        ++ "Literals must be str, int, float, bool or None."
  | .predicateTruth =>
      "A predicate has no truth value while it is being recorded. "
        ++ "Use '&', '|' and '~' instead of 'and', 'or' and 'not', and avoid "
        ++ "chained comparisons and conditional expressions."
  | .recordTruth => "The record itself has no truth value; compare one of its fields."
  | .fieldName shown => "Field names must be non-empty strings, got " ++ shown ++ "."
  | .membershipSource shown => "in_() expects a sequence of values, got " ++ shown ++ "."
  | .membershipNoValues field => "in_() on '" ++ field ++ "' needs at least one value."
  | .patternTerm method shown => method ++ "() expects a string, got " ++ shown ++ "."
  | .stated text => text

end Cause

/-- A cause and the fragment it was found in, if that is known. -/
structure Rejection where
  cause : Cause
  fragment : Option String
  deriving DecidableEq

/-- The entry of a projection list for a field under a key: the field alone if the key is its last
    part, and else the field and its label. Only an identifier can be a label. -/
def labelled? (field key : String) : Option String :=
  if !Text.isIdentifier key then none
  else if key == field || field.endsWith ("." ++ key) then some field
  else some (field ++ " AS " ++ key)

end BoundQuery
