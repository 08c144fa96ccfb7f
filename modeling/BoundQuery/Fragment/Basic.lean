import BoundQuery.Fragment.Text
import BoundQuery.Recording.Body

/-!
# Fragments

A fragment stands where a predicate, a selector or a key is expected: a text, a callable that is run on
the record, or a value that is a tree already.

* `Fragment.predicate` – the tree of a predicate.
* `Fragment.selectAll` – the projected fields of several selectors, each name once.
* `Fragment.key` – the one field of a key.
-/

namespace BoundQuery

variable [Limits]

/-! ## 1. Kinds of fragment -/

/-- A callable fragment. `required` is how many parameters it must be given, if that can be found
    out. -/
structure Callable where
  kindName : String
  description : String
  required : Option Nat
  body : Body

/-- Anything given as a fragment. -/
inductive Fragment where
  | text (text : String)
  | callable (callable : Callable)
  | value (value : Value)

namespace Callable

/-- The value of a callable on the record. It must take exactly one parameter. -/
def call (c : Callable) : Except Failure Value :=
  match c.required with
  | some count =>
      if count = 1 then c.body.run.mapError (·.within c.description)
      else .error (.rejected ⟨.parameterCount count, some c.description⟩)
  | none => c.body.run.mapError (·.within c.description)

end Callable

namespace Fragment

/-- The fragment that a value is; a text is a text fragment. -/
def ofValue : Value → Fragment
  | .literal (.str s) => .text s
  | v => .value v

/-- How a fragment is described in rejections, if it can be written. -/
def description? : Fragment → Option String
  | .text s => some s
  | .callable c => some c.description
  | .value v => v.shown?

/-- How a fragment is shown among others, if it can be written. -/
def shown? : Fragment → Option String
  | .text s => some (Text.quoted s)
  | .callable c => some c.description
  | .value v => v.shown?

/-- The name of the kind of a fragment. -/
def kindName : Fragment → String
  | .text _ => "str"
  | .callable c => c.kindName
  | .value v => v.kindName

/-- The outcome of reading a fragment, with the fragment in the rejection. -/
def rejecting {α : Type} (f : Fragment) : Except Failure α → Except Failure α
  | .ok x => .ok x
  | .error (.rejected rejection) => do
      .error (.rejected { rejection with fragment := some (← Failure.written f.description?) })
  | .error failure => .error failure

/-! ## 2. Predicates -/

/-- What a callable returned, as a predicate; it may not be a single literal. -/
def returnedTree (v : Value) : Except Failure Tree := do
  match ← v.asTree with
  | .literal v => .error (.showing v.shown? .constantPredicate)
  | t => return t

/-- The tree of a predicate. Trees, fields and predicates are taken as they are. -/
def predicate (f : Fragment) : Except Failure Tree :=
  match f with
  | .text s => f.rejecting (TextFragment.predicate s)
  | .callable c => do f.rejecting (returnedTree (← c.call))
  | .value (.tree t) => .ok t
  | .value v =>
      match v.recorded? with
      | some t => .ok t
      | none => f.rejecting (.error (.ofCause (.expectedPredicate v.kindName)))

/-! ## 3. Keys -/

/-- The field of a value that must be one. -/
def keyOf (v : Value) : Except Failure String :=
  match v.fieldName? with
  | some name => .ok name
  | none => .error (.showing v.shown? .keyNotAField)

/-- The one field of a key. -/
def key (f : Fragment) : Except Failure String :=
  match f with
  | .text s => f.rejecting (TextFragment.key s)
  | .callable c => do f.rejecting (keyOf (← c.call))
  | .value (.tree t) => f.rejecting (keyOf (.tree t))
  | .value v =>
      if v.recorded?.isSome then f.rejecting (keyOf v)
      else f.rejecting (.error (.ofCause (.expectedKey v.kindName)))

/-! ## 4. Selectors -/

/-- The text that a value is, if it is one. -/
def textOf? : Value → Option String
  | .literal (.str s) => some s
  | _ => none

/-- The projected field of an entry of a dictionary. -/
def entryName (k v : Value) : Except Failure String :=
  match v.fieldName? with
  | none => do
      let key ← Failure.written k.shown?
      .error (.showing v.shown? (.selectorEntry key))
  | some field =>
      match (textOf? k).bind (labelled? field) with
      | some name => .ok name
      | none => .error (.showing k.shown? .selectorKey)

/-- The projected fields of the entries of a dictionary. -/
def entryNames : List Value → List Value → Except Failure (List String)
  | k :: ks, v :: vs => do
      let name ← entryName k v
      return name :: (← entryNames ks vs)
  | _, _ => .ok []

/-- The projected fields of the members of a list or tuple. -/
def itemNames : List Value → Except Failure (List String)
  | [] => .ok []
  | v :: vs =>
      match v.fieldName? with
      | none => .error (.showing v.shown? .selectorItem)
      | some name => do return name :: (← itemNames vs)

/-- The projected fields of a value: one field, or several in a dictionary, a list or a tuple. -/
def valueNames (v : Value) : Except Failure (List String) :=
  match v.fieldName? with
  | some name => .ok [name]
  | none =>
      match v with
      | .dict keys values => entryNames keys values
      | .tuple items => itemNames items
      | .list items => itemNames items
      | v => .error (.showing v.shown? .selectorValue)

/-- The projected fields of one selector. -/
def selector (f : Fragment) : Except Failure (List String) :=
  match f with
  | .text s => f.rejecting (TextFragment.selector s)
  | .callable c => do f.rejecting (valueNames (← c.call))
  | .value v => f.rejecting (valueNames v)

/-- Names added to a list, each only if it is not there yet. -/
def addNames (names : List String) (more : List String) : List String :=
  more.foldl (fun names name => if names.contains name then names else names ++ [name]) names

/-- The projected fields of several selectors in order, each name once. There must be one at least. -/
def selectAll (fs : List Fragment) : Except Failure (List String) := do
  let names ← fs.foldlM (fun names f => do return addNames names (← f.selector)) []
  if names.isEmpty then
    let texts ← fs.mapM fun f => Failure.written f.shown?
    .error (.rejected ⟨.emptySelector, some (Text.tupleText texts)⟩)
  else return names

end Fragment

end BoundQuery
