import BoundQuery.Recording.Value

/-!
# Comparing values

A comparison with a field or a predicate is recorded as a tree. If such a value stands on the right
alone, or a field stands to the right of a predicate, the comparison is recorded the other way round.
Plain values compare by their contents: numbers by their exact value, texts and bytes by their
characters, lists and tuples member by member; other kinds are equal or not, but have no order.
-/

namespace BoundQuery.Value

/-! ## 1. Keys -/

mutual

/-- Equality of values that can be keys; no such value holds a field or a predicate. -/
def sameKey : Value → Value → Bool
  | .literal a, .literal b => a.same b
  | .bytes a, .bytes b => a == b
  | .tuple as, .tuple bs => sameKeys as bs
  | .tree s, .tree t => s.same t
  | .record true, .record true => true
  | .kind a _, .kind b _ => a == b
  | _, _ => false

/-- Equality of lists of keys, member by member. -/
def sameKeys : List Value → List Value → Bool
  | [], [] => true
  | a :: as, b :: bs => sameKey a b && sameKeys as bs
  | _, _ => false

end

mutual

/-- The kind of the part that keeps a value from being a key, if one does. -/
def unfitKey? : Value → Option String
  | .list _ => some "list"
  | .set _ => some "set"
  | .dict .. => some "dict"
  | .field _ => some "FieldRef"
  | .predicate _ => some "Expr"
  | .tuple items => unfitKeyAmong? items
  | _ => none

/-- The kind of the first part among several values that keeps one from being a key. -/
def unfitKeyAmong? : List Value → Option String
  | [] => none
  | v :: vs => (unfitKey? v).or (unfitKeyAmong? vs)

end

/-- A value that is to be a key. -/
def asKey (v : Value) : Except Failure Value :=
  match v.unfitKey? with
  | some name => .error (.misuse .operation ("unhashable type: '" ++ name ++ "'"))
  | none => .ok v

/-- The entry of a dictionary under a key. -/
def lookUp (key : Value) : List Value → List Value → Option Value
  | k :: ks, v :: vs => if key.sameKey k then some v else lookUp key ks vs
  | _, _ => none

/-! ## 2. Equality -/

/-- Equality of a pair of which one is a field or a predicate: recorded, and then asked for its truth,
    which it does not have. -/
def recordedEquality (a b : Value) : Except Failure Bool := do
  let _ ← a.asTree
  let _ ← b.asTree
  .error (.ofCause .predicateTruth)

mutual

/-- Whether two values are equal as members of a collection. -/
def equal : Value → Value → Except Failure Bool
  | .list as, .list bs => if as.length ≠ bs.length then .ok false else equalAll as bs
  | .tuple as, .tuple bs => equalAll as bs
  | .set as, .set bs => .ok (as.length = bs.length && as.all fun a => bs.any a.sameKey)
  | .dict ks vs, .dict ks' vs' =>
      if ks.length ≠ ks'.length then .ok false
      else equalFound vs (ks.map fun k => lookUp k ks' vs')
  | a, b =>
      if a.recorded?.isSome || b.recorded?.isSome then recordedEquality a b else .ok (a.sameKey b)

/-- Whether two lists of values are equal, member by member up to the first difference. -/
def equalAll : List Value → List Value → Except Failure Bool
  | [], [] => .ok true
  | a :: as, b :: bs => do if ← equal a b then equalAll as bs else return false
  | _, _ => .ok false

/-- Whether the values of a dictionary are equal to those found for their keys in another. -/
def equalFound : List Value → List (Option Value) → Except Failure Bool
  | v :: vs, some v' :: found => do if ← equal v v' then equalFound vs found else return false
  | _ :: _, none :: _ => .ok false
  | _, _ => .ok true

end

/-! ## 3. Order -/

/-- Whether a comparison holds, given whether the left side is less and whether the sides are
    equal. -/
def holds (c : Comparison) (less equal : Bool) : Bool :=
  match c with
  | .eq => equal
  | .ne => !equal
  | .lt => less
  | .le => less || equal
  | .gt => !less && !equal
  | .ge => !less

/-- The failure of a comparison between kinds that have no order. -/
def noOrder {α : Type} (c : Comparison) (a b : Value) : Except Failure α :=
  .error (.misuse .operation ("'" ++ c.spelling ++ "' not supported between instances of '"
    ++ a.kindName ++ "' and '" ++ b.kindName ++ "'"))

/-- The order of two literals. -/
def orderLiterals (c : Comparison) (a b : Literal) : Except Failure Bool :=
  match a.quantity?, b.quantity? with
  | some x, some y => .ok (holds c (x.before y) (x.same y))
  | _, _ =>
      match a, b with
      | .str s, .str t => .ok (holds c (s < t) (s == t))
      | _, _ => noOrder c (.literal a) (.literal b)

/-- Whether each member of a set is one of another. -/
def isSubset (as bs : List Value) : Bool := as.all fun a => bs.any a.sameKey

mutual

/-- The order of two plain values. -/
def order (c : Comparison) : Value → Value → Except Failure Bool
  | .literal a, .literal b => orderLiterals c a b
  | .bytes a, .bytes b => .ok (holds c (a < b) (a == b))
  | .list as, .list bs => orderAll c as bs
  | .tuple as, .tuple bs => orderAll c as bs
  | .set as, .set bs =>
      .ok <| match c with
        | .lt => isSubset as bs && !isSubset bs as
        | .le => isSubset as bs
        | .gt => isSubset bs as && !isSubset as bs
        | .ge => isSubset bs as
        | .eq => isSubset as bs && isSubset bs as
        | .ne => !(isSubset as bs && isSubset bs as)
  | a, b => noOrder c a b

/-- The order of two lists: that of the first members that differ, or else of the lengths. -/
def orderAll (c : Comparison) : List Value → List Value → Except Failure Bool
  | [], bs => .ok (holds c (!bs.isEmpty) bs.isEmpty)
  | _ :: _, [] => .ok (holds c false false)
  | a :: as, b :: bs => do if ← equal a b then orderAll c as bs else order c a b

end

/-! ## 4. Comparisons -/

/-- A comparison of two values. -/
def compare (c : Comparison) (a b : Value) : Except Failure Value :=
  match a, b with
  | .predicate s, .field name => .ok (.predicate (.compare c.flipped (.member name) s))
  | a, b =>
      match a.recorded?, b.recorded? with
      | some s, _ => do
          let t ← b.asTree
          return .predicate (.compare c s t)
      | none, some t => do
          let s ← a.asTree
          return .predicate (.compare c.flipped t s)
      | none, none =>
          match c with
          | .eq => do return .literal (.bool (← equal a b))
          | .ne => do return .literal (.bool !(← equal a b))
          | c => do return .literal (.bool (← order c a b))

end BoundQuery.Value
