import BoundQuery.Failure
import BoundQuery.Limits
import BoundQuery.Term.Parser
import BoundQuery.Text.Blank
import BoundQuery.Tree.Basic

/-!
# Text fragments

A text fragment is a term over fields: either a bare term, whose names are fields, or a lambda of one
parameter, whose fields are reached from the parameter. From such a term a predicate, a list of
projected fields or a single key is made; anything else in it is a cause to reject it.

* `Term.toTree` turns a term into a tree.
* `TextFragment.predicate`, `TextFragment.selector` and `TextFragment.key` read a whole text.
-/

namespace BoundQuery

variable [Limits]

/-- What names stand for: fields, or, inside a lambda, its parameter. -/
abbrev Scope := Option Text.Identifier

namespace Term

/-! ## 1. Fields -/

/-- The name that a chain of attributes starts from, and the attributes followed by `parts`. -/
def path? : Term → List Text.Identifier → Option (Text.Identifier × List Text.Identifier)
  | .name id, parts => some (id, parts)
  | .access base field, parts => path? base (field :: parts)
  | _, _ => none

/-- The name of a field, from the parts of its path. -/
def joined (parts : List Text.Identifier) : String := ".".intercalate (parts.map (·.text))

/-- The field that a term names. -/
def fieldName (scope : Scope) : Term → Except Cause String
  | .subscript base index =>
      match scope, base, index with
      | some parameter, .name id, .constant (.literal (.str key)) =>
          if id = parameter && !key.isEmpty then .ok key else .error .subscript
      | _, _, _ => .error .subscript
  | t =>
      match t.path? [] with
      | none => .error (.notAField t.formName)
      | some (id, parts) =>
          match scope with
          | none => .ok (joined (id :: parts))
          | some parameter =>
              if id ≠ parameter then .error (.unresolvedName id.text)
              else if parts.isEmpty then .error (.parameterAlone parameter.text)
              else .ok (joined parts)

/-! ## 2. Predicates -/

/-- A constant as a literal. -/
def literalTree : Constant → Except Cause Tree
  | .literal value => .ok (.literal value)
  | .bytes value => .error (.unsupportedConstant (Text.quotedBytes value))
  | .imaginary value => .error (.unsupportedConstant (Constant.imaginaryText value))
  | .ellipsis => .error (.unsupportedConstant Constant.ellipsisText)

/-- A number with a sign as a literal, if the operand is a number. -/
def signedTree (sign : Sign) (operand : Term) : Except Cause Tree :=
  match sign, operand with
  | .minus, .constant (.literal (.int n)) => .ok (.literal (.int (-n)))
  | .minus, .constant (.literal (.float x)) => .ok (.literal (.float x.negate))
  | .plus, .constant (.literal (.int n)) => .ok (.literal (.int n))
  | .plus, .constant (.literal (.float x)) => .ok (.literal (.float x))
  | sign, _ => .error (.unaryOperator sign.formName)

/-- The values of a list, tuple or set display. -/
def displayed? : Term → Option (List Term)
  | .list items => some items
  | .tuple items => some items
  | .set items => some items
  | _ => none

/-- A membership test; `convert` turns the values into trees, and each must be a literal. -/
def membershipTree (scope : Scope) (convert : Term → Except Cause Tree) (receiver values : Term) :
    Except Cause Tree := do
  let name ← receiver.fieldName scope
  match values.displayed? with
  | none => .error .membershipShape
  | some [] => .error (.membershipEmpty name)
  | some items =>
      let literals ← items.mapM fun item => do
        let t ← convert item
        if t.isLiteral then pure t else .error .membershipValue
      return .membership name literals

/-- A method call on a field. -/
def callTree (scope : Scope) (convert : Term → Except Cause Tree) (callee : Term)
    (positional named : List Term) : Except Cause Tree :=
  match callee with
  | .access receiver method =>
      match Method.ofSpelling? method.text with
      | none => .error (.unknownMethod method.text)
      | some m =>
          match positional, named with
          | [argument], [] =>
              match m with
              | .membership => membershipTree scope convert receiver argument
              | .pattern m => do
                  let name ← receiver.fieldName scope
                  match argument with
                  | .constant (.literal (.str term)) => return .pattern m name term
                  | _ => .error (.patternArgument method.text)
          | _, _ => .error (.argumentCount method.text)
  | _ => .error .notAMethodCall

/-- The tree of a term; `part calls` turns a part that lies `calls` calls below into a tree. -/
def nodeTree (scope : Scope) (part : Nat → Term → Except Cause Tree) : Term → Except Cause Tree
  | .connective op first rest => do
      let first ← part 0 first
      rest.foldlM (fun left t => do return .connect op left (← part 0 t)) first
  | .signed .not operand => do return .negate (← part 1 operand)
  | .signed sign operand => signedTree sign operand
  | .compare left [relation] [right] =>
      match relation with
      | .member false => membershipTree scope (part 2) left right
      | .member true => do return .negate (← membershipTree scope (part 2) left right)
      | .identical negated => .error (.relation (if negated then "IsNot" else "Is"))
      | .compare c => do
          let l ← part 1 left
          let r ← part 1 right
          return .compare c l r
  | .compare .. => .error .chainedComparison
  | .call callee positional named => callTree scope (part 2) callee positional named
  | .name id => do return .member (← fieldName scope (.name id))
  | .access base field => do return .member (← fieldName scope (.access base field))
  | .subscript base index => do return .member (← fieldName scope (.subscript base index))
  | .constant value => literalTree value
  | .conditional .. => .error .conditional
  | t => .error (.form t.formName)

/-- The tree of a term, where `room` calls may be nested. -/
def toTree (scope : Scope) : Nat → Term → Except Cause Tree :=
  within (fun _ => .error .tooDeep) (nodeTree scope)

/-! ## 3. Whole terms -/

/-- The scope that a term opens and the term inside it: a lambda must have one plain parameter. -/
def opened : Term → Except Cause (Scope × Term)
  | .lambda parameters defaults _ body =>
      match parameters, defaults with
      | ⟨[], [parameter], none, [], none⟩, [] => .ok (some parameter, body)
      | _, _ => .error .lambdaParameters
  | t => .ok (none, t)

/-- A term as a predicate, which may not be a single literal. -/
def predicate (t : Term) : Except Failure Tree := do
  let (scope, body) ← Failure.lift t.opened
  match ← Failure.lift (body.toTree scope Limits.reading) with
  | .literal value => .error (.showing value.shown? .constantPredicate)
  | tree => return tree

/-- The entry of a projection list for a field under a constant. -/
def labelledBy (field : String) (key : Constant) : Except Failure String :=
  match key.text?.bind (labelled? field) with
  | some text => .ok text
  | none => .error (.showing key.shown? .selectorKey)

/-- The projected fields of a dictionary display. -/
def selectorEntries (scope : Scope) : List Term → List Term → Except Failure (List String)
  | key :: keys, value :: values =>
      match key with
      | .constant c => do
          let field ← Failure.lift (value.fieldName scope)
          let first ← labelledBy field c
          return first :: (← selectorEntries scope keys values)
      | _ => .error (.ofCause .selectorKeyForm)
  | _, _ => .ok []

/-- A term as a list of projected fields. -/
def selector (t : Term) : Except Failure (List String) := do
  let (scope, body) ← Failure.lift t.opened
  match body with
  | .dict keys values => selectorEntries scope keys values
  | .tuple items => Failure.lift (items.mapM (fieldName scope))
  | .list items => Failure.lift (items.mapM (fieldName scope))
  | body => return [← Failure.lift (body.fieldName scope)]

/-- A term as a single field. -/
def key (t : Term) : Except Failure String := do
  let (scope, body) ← Failure.lift t.opened
  Failure.lift (body.fieldName scope)

end Term

/-! ## 4. Texts -/

namespace TextFragment

/-- The term of a text, blanks around it apart. -/
def term (text : String) : Except Cause Term :=
  let cs := Text.trim text
  if cs.contains (Char.ofNat 0) then .error .unreadable
  else
    match Term.parse? cs with
    | none => .error .malformed
    | some t => if t.depth > Limits.parsing then .error .unreadable else .ok t

/-- A text as a predicate. -/
def predicate (text : String) : Except Failure Tree := do
  (← Failure.lift (term text)).predicate

/-- A text as a list of projected fields. -/
def selector (text : String) : Except Failure (List String) := do
  (← Failure.lift (term text)).selector

/-- A text as a single field. -/
def key (text : String) : Except Failure String := do (← Failure.lift (term text)).key

end TextFragment

end BoundQuery
