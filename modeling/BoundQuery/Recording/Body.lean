import BoundQuery.Recording.Operation

/-!
# Bodies of callable fragments

A `Body` is the expression that a callable fragment runs. `Body.run` runs it on the record; operands
are evaluated from left to right, and the first failure ends the run. A generator keeps a failure of
its items for whoever asks for them.
-/

namespace BoundQuery

/-- An expression over the record. -/
inductive Body where
  | argument
  | newRecord
  | literal (value : Literal)
  | bytes (value : List UInt8)
  | node (data : Data)
  | access (base : Body) (name : String)
  | item (base key : Body)
  | field (name : Body)
  | predicate (tree : Body)
  | asTree (value : Body)
  | list (items : List Body)
  | tuple (items : List Body)
  | set (member : Body)
  | dict (keys values : List Body)
  | generator (items : List Body)
  | compare (c : Comparison) (left right : Body)
  | connect (op : Connective) (left right : Body)
  | invert (operand : Body)
  | compute (op : Arithmetic) (left right : Body)
  | and (left right : Body)
  | or (left right : Body)
  | not (operand : Body)
  | conditional (test yes no : Body)
  | chain (first : Body) (c : Comparison) (middle : Body) (d : Comparison) (last : Body)
  | call (base : Body) (method : String) (arguments : List Body)
  | raise (failure : Failure)
  | kind (name shown : String)

namespace Body

/-- An integer given in decimal, if the text is one. A text of too many digits is read only to fail. -/
def ofDecimal? (text : String) : Option Body :=
  text.toInt?.map fun n =>
    let digits := (text.toList.filter Char.isDigit).length
    if digits ≤ longestDecimal then .literal (.int n) else .raise (.unreadable digits)

/-- The entries of a dictionary, one after the other, from the outcomes of their parts. -/
def buildDict : List (Except Failure Value) → List (Except Failure Value) →
    List Value × List Value → Except Failure Value
  | key :: keys, value :: values, (ks, vs) => do
      let k ← key
      let v ← value
      let k ← k.asKey
      buildDict keys values (k.insertEntry v ks vs)
  | _, _, (ks, vs) => .ok (.dict ks vs)

/-- The items before the first failure, and that failure. -/
def upToFailure : List (Except Failure Value) → List Value × Option Failure
  | [] => ([], none)
  | .ok v :: rest =>
      let (vs, stop) := upToFailure rest
      (v :: vs, stop)
  | .error failure :: _ => ([], some failure)

/-- All the values, or the first failure. -/
def allOf : List (Except Failure Value) → Except Failure (List Value)
  | [] => .ok []
  | outcome :: rest => do return (← outcome) :: (← allOf rest)

mutual

/-- The value of a body, run on the record. -/
def run : Body → Except Failure Value
  | .argument => .ok (.record true)
  | .newRecord => .ok (.record false)
  | .literal value => .ok (.literal value)
  | .bytes value => .ok (.bytes value)
  | .node data =>
      match data.toTree with
      | .ok t => .ok (.tree t)
      | .error issues => .error (.invalid issues)
  | .access base name => do (← run base).access name
  | .item base key => do
      let base ← run base
      base.item (← run key)
  | .field name => do Value.fieldNamed (← run name)
  | .predicate tree => do return .predicate (← (← run tree).asTree)
  | .asTree value => do return .tree (← (← run value).asTree)
  | .list items => do return .list (← allOf (runAll items))
  | .tuple items => do return .tuple (← allOf (runAll items))
  | .set member => do return .set [← (← run member).asKey]
  | .dict keys values => buildDict (runAll keys) (runAll values) ([], [])
  | .generator items =>
      let (values, stop) := upToFailure (runAll items)
      .ok (.generator values stop)
  | .compare c left right => do
      let left ← run left
      left.compare c (← run right)
  | .connect op left right => do
      let left ← run left
      left.connect op (← run right)
  | .invert operand => do (← run operand).invert
  | .compute op left right => do
      let left ← run left
      left.compute op (← run right)
  | .and left right => do
      let left ← run left
      if ← left.truth then run right else return left
  | .or left right => do
      let left ← run left
      if ← left.truth then return left else run right
  | .not operand => do
      let operand ← run operand
      return .literal (.bool !(← operand.truth))
  | .conditional test yes no => do
      let test ← run test
      if ← test.truth then run yes else run no
  | .chain first c middle d last => do
      let first ← run first
      let middle ← run middle
      let left ← first.compare c middle
      if ← left.truth then middle.compare d (← run last) else return left
  | .call base method arguments => do
      let callee ← (← run base).access method
      callee.invoke (← allOf (runAll arguments))
  | .raise failure => .error failure
  | .kind name shown => .ok (.kind name shown)

/-- The outcomes of several bodies. -/
def runAll : List Body → List (Except Failure Value)
  | [] => []
  | b :: bs => run b :: runAll bs

end

end Body

end BoundQuery
