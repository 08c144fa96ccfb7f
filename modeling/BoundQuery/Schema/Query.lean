import BoundQuery.Query.Descriptor
import BoundQuery.Schema.Integer
import BoundQuery.Schema.Node

/-!
# Descriptors from data

The clauses of a descriptor, its sort keys and its joins can be given as data too. All issues are
listed: those of the known fields in their order, and then one for each unknown field. A number of
rows may also be given as a truth value, as a whole float or as a decimal text.
-/

namespace BoundQuery

namespace Examined

/-! ## 1. Numbers of rows -/

/-- A number of rows, which may be absent. -/
def integer (e : Examined) : Checked (Option Int) :=
  match e.data with
  | .scalar .null => .ok none
  | .scalar (.bool b) => .ok (some (if b then 1 else 0))
  | .scalar (.int n) => .ok (some n)
  | .scalar (.float x) => found (integerOfFloat x)
  | .scalar (.str s) => found (integerOfText s)
  | _ => Checked.fail .notInteger
where
  /-- A number that was read. -/
  found : Except IssueKind Int → Checked (Option Int)
    | .ok n => .ok (some n)
    | .error kind => Checked.fail kind

/-! ## 2. Sort keys and joins -/

/-- A word out of a list. -/
def word {α : Type} (ofKeyword? : String → Option α) (e : Examined) : Checked α :=
  match e.data with
  | .scalar (.str s) =>
      match ofKeyword? s with
      | some x => .ok x
      | none => Checked.fail .notListed
  | _ => Checked.fail .notListed

/-- The entries of an object. -/
def entries (e : Examined) : Checked (List (String × Examined)) :=
  match e.data with
  | .object entries => .ok (Data.examineEntries nodeLimit entries)
  | _ => Checked.fail .notAnObject

/-- A sort key; without a direction it ascends. -/
def orderItem (e : Examined) : Checked OrderItem := do
  let entries ← e.entries
  Checked.withIssues
    ((Checked.both (required entries "field" text)
      (optional entries "direction" .ascending (word Direction.ofKeyword?))).map
        fun (field, direction) => ⟨field, direction⟩)
    (unknownEntries entries ["field", "direction"])

/-- A join; without a kind it is an inner one. -/
def join (e : Examined) : Checked Join := do
  let entries ← e.entries
  Checked.withIssues
    ((Checked.both (optional entries "kind" .inner (word JoinKind.ofKeyword?))
      (Checked.both (required entries "table" text) (required entries "on" text))).map
        fun (kind, table, condition) => ⟨kind, table, condition⟩)
    (unknownEntries entries ["kind", "table", "on"])

/-! ## 3. Descriptors -/

/-- The members of a list, each read by `read`. -/
def membersOf {α : Type} (read : Examined → Checked α) (e : Examined) : Checked (List α) :=
  match e.data with
  | .list items => Checked.members 0 ((Data.examineItems nodeLimit items).map read)
  | _ => Checked.fail .notAList

/-- Something that may be null. -/
def nullable {α : Type} (read : Examined → Checked α) (e : Examined) : Checked (Option α) :=
  match e.data with
  | .scalar .null => .ok none
  | _ => (read e).map some

/-- The names of the clauses. -/
def clauseNames : List String :=
  ["table", "filter_expr", "projection", "ordering", "joins", "group_key", "having_expr", "limit",
    "offset"]

/-- A descriptor. Only the table must be there. -/
def descriptor (e : Examined) : Checked Descriptor := do
  let entries ← e.entries
  Checked.withIssues
    ((Checked.both (required entries "table" text)
      (Checked.both (optional entries "filter_expr" none (nullable (·.tree)))
        (Checked.both (optional entries "projection" [] (membersOf text))
          (Checked.both (optional entries "ordering" [] (membersOf orderItem))
            (Checked.both (optional entries "joins" [] (membersOf join))
              (Checked.both (optional entries "group_key" none (nullable text))
                (Checked.both (optional entries "having_expr" none (nullable (·.tree)))
                  (Checked.both (optional entries "limit" none integer)
                    (optional entries "offset" none integer))))))))).map
        fun (table, filter, projection, ordering, joins, groupKey, having, limit, offset) =>
          ⟨table, filter, projection, ordering, joins, groupKey, having, limit, offset⟩)
    (unknownEntries entries clauseNames)

end Examined

namespace Data

/-- Data as a sort key. -/
def toOrderItem (d : Data) : Checked OrderItem := (d.examine nodeLimit).orderItem

/-- Data as a join. -/
def toJoin (d : Data) : Checked Join := (d.examine nodeLimit).join

/-- Data as a descriptor. -/
def toDescriptor (d : Data) : Checked Descriptor := (d.examine nodeLimit).descriptor

end Data

/-! ## 4. Data from descriptors -/

namespace OrderItem

/-- A sort key as plain data. -/
def toData (item : OrderItem) : Data :=
  .object [("field", .scalar (.str item.field)), ("direction", .scalar (.str item.direction.keyword))]

end OrderItem

namespace Join

/-- A join as plain data. -/
def toData (join : Join) : Data :=
  .object [("kind", .scalar (.str join.kind.keyword)), ("table", .scalar (.str join.table)),
    ("on", .scalar (.str join.condition))]

end Join

namespace Descriptor

/-- Something that may be absent, as plain data. -/
def dataOf {α : Type} (toData : α → Data) : Option α → Data
  | none => .scalar .null
  | some x => toData x

/-- A descriptor as plain data. -/
def toData (d : Descriptor) : Data :=
  .object [("table", .scalar (.str d.table)),
    ("filter_expr", dataOf Tree.toData d.filter),
    ("projection", .list (d.projection.map fun name => .scalar (.str name))),
    ("ordering", .list (d.ordering.map OrderItem.toData)),
    ("joins", .list (d.joins.map Join.toData)),
    ("group_key", dataOf (fun name => .scalar (.str name)) d.groupKey),
    ("having_expr", dataOf Tree.toData d.having),
    ("limit", dataOf (fun n => .scalar (.int n)) d.limit),
    ("offset", dataOf (fun n => .scalar (.int n)) d.offset)]

end Descriptor

end BoundQuery
