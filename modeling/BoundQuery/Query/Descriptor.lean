import BoundQuery.Tree.Basic

/-!
# Query descriptors

A `Descriptor` holds the clauses of a query before it is compiled: each is a plain value and absent
until it is set.
-/

namespace BoundQuery

/-- The direction of a sort key. -/
inductive Direction where
  | ascending | descending
  deriving DecidableEq

namespace Direction

/-- The word of a direction. -/
def keyword : Direction → String
  | .ascending => "ASC"
  | .descending => "DESC"

/-- The direction of a word. -/
def ofKeyword? (s : String) : Option Direction :=
  if s = "ASC" then some .ascending else if s = "DESC" then some .descending else none

end Direction

/-- A sort key and its direction. -/
structure OrderItem where
  field : String
  direction : Direction
  deriving DecidableEq

/-- The four kinds of join. -/
inductive JoinKind where
  | inner | left | right | full
  deriving DecidableEq

namespace JoinKind

/-- The word of a join. -/
def keyword : JoinKind → String
  | .inner => "INNER"
  | .left => "LEFT"
  | .right => "RIGHT"
  | .full => "FULL"

/-- The join of a word. -/
def ofKeyword? (s : String) : Option JoinKind :=
  if s = "INNER" then some .inner
  else if s = "LEFT" then some .left
  else if s = "RIGHT" then some .right
  else if s = "FULL" then some .full
  else none

end JoinKind

/-- A joined table and the condition it is joined on, which is SQL as it stands. -/
structure Join where
  kind : JoinKind
  table : String
  condition : String
  deriving DecidableEq

/-- The clauses of a query. An empty projection stands for all fields. -/
structure Descriptor where
  table : String
  filter : Option Tree
  projection : List String
  ordering : List OrderItem
  joins : List Join
  groupKey : Option String
  having : Option Tree
  limit : Option Int
  offset : Option Int

namespace Descriptor

/-- The descriptor of a table with no other clause. -/
def ofTable (table : String) : Descriptor := ⟨table, none, [], [], [], none, none, none, none⟩

/-- Equality of clauses that may be absent. -/
def sameTree? : Option Tree → Option Tree → Bool
  | none, none => true
  | some s, some t => s.same t
  | _, _ => false

/-- Equality of descriptors: clause by clause, trees up to the equality of literals. -/
def same (d e : Descriptor) : Bool :=
  d.table == e.table && sameTree? d.filter e.filter && d.projection == e.projection
    && d.ordering == e.ordering && d.joins == e.joins && d.groupKey == e.groupKey
    && sameTree? d.having e.having && d.limit == e.limit && d.offset == e.offset

end Descriptor

/-! ## Texts -/

namespace OrderItem

/-- The fields of a sort key, each as `name=value`. -/
def shownFields (item : OrderItem) : List String :=
  ["field=" ++ Text.quoted item.field,
    "direction=<Direction." ++ item.direction.keyword ++ ": '" ++ item.direction.keyword ++ "'>"]

/-- The text of a sort key. -/
def shown (item : OrderItem) : String := Text.recordText "OrderByItem" item.shownFields

end OrderItem

namespace Join

/-- The fields of a join, each as `name=value`. -/
def shownFields (join : Join) : List String :=
  ["kind=<JoinKind." ++ join.kind.keyword ++ ": '" ++ join.kind.keyword ++ "'>",
    "table=" ++ Text.quoted join.table, "on=" ++ Text.quoted join.condition]

/-- The text of a join. -/
def shown (join : Join) : String := Text.recordText "JoinClause" join.shownFields

end Join

namespace Descriptor

/-- The text of a clause that may be absent. -/
def shownOption? {α : Type} (text? : α → Option String) : Option α → Option String
  | none => some Literal.nullText
  | some x => text? x

/-- The clauses of a descriptor, each as `name=value`, unless an integer is too long to be written. -/
def shownFields? (d : Descriptor) : Option (List String) := do
  let filter ← shownOption? Tree.shown? d.filter
  let having ← shownOption? Tree.shown? d.having
  let limit ← shownOption? decimal? d.limit
  let offset ← shownOption? decimal? d.offset
  return ["table=" ++ Text.quoted d.table,
    "filter_expr=" ++ filter,
    "projection=" ++ Text.tupleText (d.projection.map Text.quoted),
    "ordering=" ++ Text.tupleText (d.ordering.map OrderItem.shown),
    "joins=" ++ Text.tupleText (d.joins.map Join.shown),
    "group_key=" ++ (d.groupKey.map Text.quoted).getD Literal.nullText,
    "having_expr=" ++ having,
    "limit=" ++ limit,
    "offset=" ++ offset]

/-- The text of a descriptor. -/
def shown? (d : Descriptor) : Option String := d.shownFields?.map (Text.recordText "Query")

/-- The text of a descriptor as a plain text value. -/
def spelledOut? (d : Descriptor) : Option String := d.shownFields?.map " ".intercalate

end Descriptor

end BoundQuery
