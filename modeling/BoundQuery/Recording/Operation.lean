import BoundQuery.Number.Bits
import BoundQuery.Recording.Relation

/-!
# Operations on values

The connectives `&` and `|` and the negation `~` are recorded as trees as soon as a field or a predicate
takes part; plain numbers and sets have them too. Sums, differences and products exist for plain
values only. The record gives a field for every attribute and item asked of it, and a field has the
calls of the predicate vocabulary as its methods.
-/

namespace BoundQuery

/-- The operators of plain arithmetic. -/
inductive Arithmetic where
  | add | sub | mul
  deriving DecidableEq

namespace Arithmetic

/-- How an operator is written. -/
def spelling : Arithmetic → String
  | .add => "+"
  | .sub => "-"
  | .mul => "*"

end Arithmetic

namespace Value

/-- The failure of an operator that its operands do not have. -/
def noOperator {α : Type} (spelling : String) (a b : Value) : Except Failure α :=
  .error (.misuse .operation ("unsupported operand type(s) for " ++ spelling ++ ": '" ++ a.kindName
    ++ "' and '" ++ b.kindName ++ "'"))

/-! ## 1. Connectives -/

/-- The integer that a truth value or an integer counts as. -/
def integer? : Value → Option Int
  | .literal (.bool b) => some (if b then 1 else 0)
  | .literal (.int n) => some n
  | _ => none

/-- How a connective is written between values. -/
def operatorOf : Connective → String
  | .and => "&"
  | .or => "|"

/-- The common or the joint members of two sets. -/
def connectSets (op : Connective) (as bs : List Value) : List Value :=
  match op with
  | .and => as.filter fun a => bs.any a.sameKey
  | .or => as ++ bs.filter fun b => !as.any b.sameKey

/-- Put an entry into a dictionary: a known key keeps its place and gets the new value. -/
def insertEntry (key value : Value) : List Value → List Value → List Value × List Value
  | k :: ks, v :: vs =>
      if key.sameKey k then (k :: ks, value :: vs)
      else
        let (ks, vs) := insertEntry key value ks vs
        (k :: ks, v :: vs)
  | _, _ => ([key], [value])

/-- A connective between two plain values. -/
def connectPlain (op : Connective) (a b : Value) : Except Failure Value :=
  match a, b with
  | .literal (.bool x), .literal (.bool y) =>
      .ok (.literal (.bool (match op with
        | .and => x && y
        | .or => x || y)))
  | .set as, .set bs => .ok (.set (connectSets op as bs))
  | .dict ks vs, .dict ks' vs' =>
      match op with
      | .and => noOperator "&" a b
      | .or =>
          let (ks, vs) := (ks'.zip vs').foldl
            (fun (ks, vs) (k, v) => insertEntry k v ks vs) (ks, vs)
          .ok (.dict ks vs)
  | a, b =>
      match a.integer?, b.integer? with
      | some m, some n => .ok (.literal (.int (match op with
          | .and => bitAnd m n
          | .or => bitOr m n)))
      | _, _ => noOperator (operatorOf op) a b

/-- A connective between two values; operands keep their sides. -/
def connect (op : Connective) (a b : Value) : Except Failure Value :=
  if a.recorded?.isSome || b.recorded?.isSome then do
    let s ← a.asTree
    let t ← b.asTree
    return .predicate (.connect op s t)
  else connectPlain op a b

/-- The negation of a value. -/
def invert (v : Value) : Except Failure Value :=
  match v.recorded?, v.integer? with
  | some t, _ => .ok (.predicate (.negate t))
  | none, some n => .ok (.literal (.int (bitNot n)))
  | none, none =>
      .error (.misuse .operation ("bad operand type for unary ~: '" ++ v.kindName ++ "'"))

/-! ## 2. Arithmetic -/

/-- A number as a float. -/
def float? : Literal → Option (Except Failure Binary64)
  | .float x => some (.ok x)
  | .int n => some (ofInteger n)
  | .bool b => some (ofInteger (if b then 1 else 0))
  | _ => none
where
  /-- An integer as a float, unless it is too large. -/
  ofInteger (n : Int) : Except Failure Binary64 :=
    match Binary64.ofInt? n with
    | some x => .ok x
    | none => .error (.absent .float "int too large to convert to float")

/-- Arithmetic on floats. A result that is not a number is no literal. -/
def computeFloat (op : Arithmetic) (x y : Binary64) : Except Failure Value :=
  let result := match op with
    | .add => x.add? y
    | .sub => x.add? y.negate
    | .mul => x.mul? y
  match result with
  | some z => .ok (.literal (.float z))
  | none => .error (.misuse .value "result is not a number")

/-- The length of a sequence and the sequence so many times over, for lists, tuples, texts and
    bytes. -/
def sequence? : Value → Option (Nat × (Nat → Value))
  | .list items => some (items.length, fun n => .list (List.replicate n items).flatten)
  | .tuple items => some (items.length, fun n => .tuple (List.replicate n items).flatten)
  | .literal (.str s) =>
      some (s.length, fun n => .literal (.str (String.join (List.replicate n s))))
  | .bytes bs => some (bs.length, fun n => .bytes (List.replicate n bs).flatten)
  | _ => none

/-- Whether an integer can be a size or a position. -/
def isIndex (n : Int) : Bool := -(Nat.pow 2 63 : Int) ≤ n && n < Nat.pow 2 63

/-- The wording for an integer that can be neither. -/
def noIndex : String := "cannot fit 'int' into an index-sized integer"

/-- The length from which on there is no room for a repeated sequence. -/
def longestSequence : Nat := Nat.pow 2 31

/-- A sequence repeated. -/
def repeated (length : Nat) (build : Nat → Value) (count : Value) : Except Failure Value :=
  match count.integer? with
  | some n =>
      if !isIndex n then .error (.absent .size noIndex)
      else if length = 0 then .ok (build 0)
      else if length * n.toNat ≥ longestSequence then .error (.absent .memory "")
      else .ok (build n.toNat)
  | none =>
      .error (.misuse .operation
        ("can't multiply sequence by non-int of type '" ++ count.kindName ++ "'"))

/-- Arithmetic on values that are not both numbers. -/
def computeOther (op : Arithmetic) (a b : Value) : Except Failure Value :=
  match op, a, b with
  | .add, .literal (.str s), .literal (.str t) => .ok (.literal (.str (s ++ t)))
  | .add, .list as, .list bs => .ok (.list (as ++ bs))
  | .add, .tuple as, .tuple bs => .ok (.tuple (as ++ bs))
  | .add, .bytes as, .bytes bs => .ok (.bytes (as ++ bs))
  | .add, .bytes _, b =>
      .error (.misuse .operation ("can't concat " ++ b.kindName ++ " to bytes"))
  | .sub, .set as, .set bs => .ok (.set (as.filter fun a => !bs.any a.sameKey))
  | .add, a, b =>
      if a.sequence?.isSome then
        .error (.misuse .operation ("can only concatenate " ++ a.kindName ++ " (not \"" ++ b.kindName
          ++ "\") to " ++ a.kindName))
      else noOperator "+" a b
  | .mul, a, b =>
      match a.sequence?, b.sequence? with
      | some (length, build), _ => repeated length build b
      | none, some (length, build) => repeated length build a
      | none, none => noOperator "*" a b
  | op, a, b => noOperator op.spelling a b

/-- A sum, difference or product. -/
def compute (op : Arithmetic) (a b : Value) : Except Failure Value :=
  match a.integer?, b.integer?, a, b with
  | some m, some n, _, _ =>
      .ok (.literal (.int (match op with
        | .add => m + n
        | .sub => m - n
        | .mul => m * n)))
  | _, _, .literal x, .literal y =>
      match float? x, float? y with
      | some x, some y => do computeFloat op (← x) (← y)
      | _, _ => computeOther op a b
  | _, _, _, _ => computeOther op a b

/-! ## 3. Attributes and items -/

/-- The failure of an attribute that a value does not have. -/
def noAttribute {α : Type} (v : Value) (name : String) : Except Failure α :=
  .error (.misuse .access ("'" ++ v.kindName ++ "' object has no attribute '" ++ name ++ "'"))

/-- An attribute of a value. Every attribute of the record is a field, but for names that start with
    two underscores. -/
def access (v : Value) (name : String) : Except Failure Value :=
  match v with
  | .record _ =>
      if name.startsWith "__" then .error (.misuse .access name) else .ok (.field name)
  | .field owner =>
      if name = "node" then .ok (.tree (.member owner))
      else if name = "name" then .ok (.literal (.str owner))
      else
        match Method.ofSpelling? name with
        | some m => .ok (.method owner m)
        | none => noAttribute v name
  | .predicate t => if name = "node" then .ok (.tree t) else noAttribute v name
  | .tree t =>
      match (treeFields t).find? fun entry => entry.1 == name with
      | some entry => .ok entry.2
      | none => noAttribute v name
  | v => noAttribute v name

/-- The member of a sequence at a position, counted from the end if negative. -/
def memberAt {α : Type} (items : List α) (index : Int) : Option α :=
  let position := if index < 0 then index + items.length else index
  if position < 0 then none else items[position.toNat]?

/-- The failure of a position outside a sequence. -/
def outOfRange {α : Type} (what : String) : Except Failure α :=
  .error (.absent .position (what ++ "index out of range"))

/-- An item of a value. Every item of the record is a field, named by a text that is not empty. -/
def item (v key : Value) : Except Failure Value :=
  match v with
  | .record _ =>
      match key with
      | .literal (.str name) =>
          if name.isEmpty then .error (.showing key.shown? .fieldName) else .ok (.field name)
      | key => .error (.showing key.shown? .fieldName)
  | .list items => at? "list " "list indices must be integers or slices, not " "" items id
  | .tuple items => at? "tuple " "tuple indices must be integers or slices, not " "" items id
  | .literal (.str s) =>
      at? "string " "string indices must be integers, not '" "'" s.toList
        fun c => .literal (.str (String.ofList [c]))
  | .bytes bs =>
      at? "" "byte indices must be integers or slices, not " "" bs
        fun b => .literal (.int b.toNat)
  | .dict keys values => do
      let key ← key.asKey
      match lookUp key keys values with
      | some value => .ok value
      | none => do .error (.absent .key (← Failure.written key.shown?))
  | v => .error (.misuse .operation ("'" ++ v.kindName ++ "' object is not subscriptable"))
where
  /-- The member of a sequence at the position that the key gives. -/
  at? {α : Type} (what before after : String) (items : List α) (build : α → Value) :
      Except Failure Value :=
    match key.integer? with
    | none => .error (.misuse .operation (before ++ key.kindName ++ after))
    | some index =>
        if !isIndex index then .error (.absent .position noIndex)
        else
          match memberAt items index with
          | some x => .ok (build x)
          | none => outOfRange what

/-! ## 4. Calls -/

/-- What iterating a value gives: its members, and the failure that stops it. Texts, bytes, fields,
    predicates and the record give nothing. -/
def iterated? : Value → Option (List Value × Option Failure)
  | .list items => some (items, none)
  | .tuple items => some (items, none)
  | .set items => some (items, none)
  | .dict keys _ => some (keys, none)
  | .generator items stop => some (items, stop)
  | .tree t =>
      some ((treeFields t).map fun entry => .tuple [.literal (.str entry.1), entry.2], none)
  | _ => none

/-- The membership test of a field. -/
def membership (owner : String) (values : Value) : Except Failure Value :=
  match values.iterated? with
  | none => .error (.showing values.shown? .membershipSource)
  | some (items, stop) => do
      let trees ← items.mapM fun v => v.asTree
      match stop with
      | some failure => .error failure
      | none =>
          if trees.isEmpty then .error (.ofCause (.membershipNoValues owner))
          else return .predicate (.membership owner trees)

/-- The text match of a field. -/
def pattern (owner : String) (m : Match) (term : Value) : Except Failure Value :=
  match term with
  | .literal (.str s) => .ok (.predicate (.pattern m owner s))
  | term => .error (.showing term.shown? (.patternTerm m.spelling))

/-- The name of the one parameter of a method. -/
def parameterName : Method → String
  | .membership => "values"
  | .pattern .starts => "prefix"
  | .pattern .ends => "suffix"

/-- Call a value. -/
def invoke (callee : Value) (arguments : List Value) : Except Failure Value :=
  match callee with
  | .method owner m =>
      match arguments with
      | [argument] =>
          match m with
          | .membership => membership owner argument
          | .pattern p => pattern owner p argument
      | [] =>
          .error (.misuse .operation ("FieldRef." ++ m.spelling
            ++ "() missing 1 required positional argument: '" ++ parameterName m ++ "'"))
      | arguments =>
          .error (.misuse .operation ("FieldRef." ++ m.spelling
            ++ "() takes 2 positional arguments but " ++ (arguments.length + 1).repr
            ++ " were given"))
  | v => .error (.misuse .operation ("'" ++ v.kindName ++ "' object is not callable"))

/-- A field by its name; bytes name a field by their characters. -/
def fieldNamed (name : Value) : Except Failure Value :=
  match name with
  | .literal (.str s) => .ok (.field s)
  | .bytes bs => .ok (.field (String.ofList (bs.map fun b => Char.ofNat b.toNat)))
  | _ => .error (.invalid [⟨.notText, ["name"]⟩])

end Value

end BoundQuery
