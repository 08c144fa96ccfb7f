import BoundQuery.Schema.Data

/-!
# Trees from data

An object is a tree when its `type` names one of the six kinds, it has the fields of that kind and no
others, and each field holds what it should. Where data of any kind of tree is expected, the tag leads
to the place of an issue (`binary.left.member.name`). Such data may be nested `nodeLimit` deep; what
lies deeper is not looked at.

* `Data.examine` looks at data once, from the inside out, and keeps what it would be as a tree and as a
  list of trees.
* `Data.toTree` is the check of data for a tree of any kind, `Data.toTreeOf` for one of a given kind.
-/

namespace BoundQuery

/-- The six kinds of tree. -/
inductive NodeKind where
  | member | literal | binary | logical | unary | call
  deriving DecidableEq

namespace NodeKind

/-- The tag of a kind. -/
def tag : NodeKind → String
  | .member => "member"
  | .literal => "literal"
  | .binary => "binary"
  | .logical => "logical"
  | .unary => "unary"
  | .call => "call"

/-- The kind of a tag. -/
def ofTag? (tag : String) : Option NodeKind :=
  [NodeKind.member, .literal, .binary, .logical, .unary, .call].find? (·.tag == tag)

/-- The names of the fields of a kind, the tag first. -/
def fieldNames : NodeKind → List String
  | .member => ["type", "name"]
  | .literal => ["type", "value"]
  | .binary => ["type", "operator", "left", "right"]
  | .logical => ["type", "operator", "left", "right"]
  | .unary => ["type", "operator", "operand"]
  | .call => ["type", "callee", "arguments"]

end NodeKind

/-- Data that has been looked at: itself, and what it is as a tree and as a list of trees. -/
structure Examined where
  data : Data
  tree : Checked Tree
  trees : Checked (List Tree)

namespace Examined

/-! ## 1. Fields -/

/-- The entry of a name. -/
def valueOf? {α : Type} (entries : List (String × α)) (name : String) : Option α :=
  (entries.find? fun e => e.1 == name).map (·.2)

/-- A field that must be there, read by `read`. -/
def required {α : Type} (entries : List (String × Examined)) (name : String)
    (read : Examined → Checked α) : Checked α :=
  (match valueOf? entries name with
    | some e => read e
    | none => Checked.fail .missing).under name

/-- A field that may be missing, read by `read`. -/
def optional {α : Type} (entries : List (String × Examined)) (name : String) (absent : α)
    (read : Examined → Checked α) : Checked α :=
  match valueOf? entries name with
  | some e => (read e).under name
  | none => .ok absent

/-- One issue for each entry whose name is not among the known ones. -/
def unknownEntries (entries : List (String × Examined)) (known : List String) : List Issue :=
  (entries.filter fun e => !known.contains e.1).map fun e => ⟨.unknownField, [e.1]⟩

/-- A text. -/
def text (e : Examined) : Checked String :=
  match e.data with
  | .scalar (.str s) => .ok s
  | _ => Checked.fail .notText

/-- A literal value; other data fails as each kind of literal in turn. -/
def literal (e : Examined) : Checked Literal :=
  match e.data with
  | .scalar value => .ok value
  | _ => .error [⟨.notText, ["str"]⟩, ⟨.notTruthValue, ["bool"]⟩, ⟨.notInteger, ["int"]⟩,
      ⟨.notFloat, ["float"]⟩]

/-- The tag of a given kind. -/
def exactTag (kind : NodeKind) (e : Examined) : Checked Unit :=
  match e.data with
  | .scalar (.str s) => if s = kind.tag then .ok () else Checked.fail .wrongTag
  | _ => Checked.fail .wrongTag

/-! ## 2. Nodes -/

/-- The fields of a tree of a given kind, in order, without its tag. -/
def fields (entries : List (String × Examined)) : NodeKind → Checked Tree
  | .member =>
      (required entries "name" text).map .member
  | .literal =>
      (required entries "value" literal).map .literal
  | .binary =>
      (Checked.both (required entries "operator" text)
        (Checked.both (required entries "left" (·.tree)) (required entries "right" (·.tree)))).map
          fun (operator, left, right) => .binary operator left right
  | .logical =>
      (Checked.both (required entries "operator" text)
        (Checked.both (required entries "left" (·.tree)) (required entries "right" (·.tree)))).map
          fun (operator, left, right) => .logical operator left right
  | .unary =>
      (Checked.both (required entries "operator" text) (required entries "operand" (·.tree))).map
        fun (operator, operand) => .unary operator operand
  | .call =>
      (Checked.both (required entries "callee" text) (optional entries "arguments" [] (·.trees))).map
        fun (callee, arguments) => .call callee arguments

/-- An object as a tree of a given kind; a missing tag is taken as the right one. -/
def node (entries : List (String × Examined)) (kind : NodeKind) : Checked Tree :=
  Checked.withIssues
    ((Checked.both (optional entries "type" () (exactTag kind)) (fields entries kind)).map (·.2))
    (unknownEntries entries kind.fieldNames)

/-- An object as a tree of the kind that its tag names; `read` reads it as one of that kind. -/
def tagged (entries : List (String × Data)) (read : NodeKind → Checked Tree) : Checked Tree :=
  match valueOf? entries "type" with
  | none => Checked.fail .noTag
  | some (.scalar (.str tag)) =>
      match NodeKind.ofTag? tag with
      | some kind => (read kind).under tag
      | none => Checked.fail .unknownTag
  | some _ => Checked.fail .unknownTag

end Examined

/-- How deep data of trees may be nested. -/
def nodeLimit : Nat := 254

namespace Data

mutual

/-- Look at data from the inside out; `room` is how deep trees may still be nested in it. -/
def examine (room : Nat) : Data → Examined
  | .scalar value => ⟨.scalar value, Checked.fail .notANode, Checked.fail .notAList⟩
  | .list items =>
      ⟨.list items, Checked.fail .notANode,
        Checked.members 0 ((examineItems room items).map (·.tree))⟩
  | .object entries =>
      ⟨.object entries,
        Examined.tagged entries fun kind =>
          if room = 0 then Checked.fail .tooDeep
          else Examined.node (examineEntries (room - 1) entries) kind,
        Checked.fail .notAList⟩

/-- Look at the items of a list. -/
def examineItems (room : Nat) : List Data → List Examined
  | [] => []
  | d :: ds => examine room d :: examineItems room ds

/-- Look at the entries of an object. -/
def examineEntries (room : Nat) : List (String × Data) → List (String × Examined)
  | [] => []
  | e :: es => examineEntry room e :: examineEntries room es

/-- Look at an entry of an object. -/
def examineEntry (room : Nat) : String × Data → String × Examined
  | (name, d) => (name, examine room d)

end

/-- Data as a tree of any kind. -/
def toTree (d : Data) : Checked Tree := (d.examine nodeLimit).tree

/-- Data as an object of a given kind of tree. The object itself does not count as nested. -/
def toTreeOf (kind : NodeKind) : Data → Checked Tree
  | .object entries => Examined.node (examineEntries nodeLimit entries) kind
  | _ => Checked.fail .notAnObject

end Data

end BoundQuery
