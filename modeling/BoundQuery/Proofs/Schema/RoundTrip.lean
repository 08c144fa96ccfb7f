import BoundQuery.Proofs.Tree.Formed
import BoundQuery.Schema.Node
import Mathlib.Data.List.Nodup

/-!
# Trees as data and back

A tree that is given as data is read back as itself, and data with one fault in it is not read as any tree:
it has exactly one issue, of the kind of the fault.

* `Data.Damaged` – data with one object damaged, at any depth: an entry more, an entry less or another tag;
* `Checked.Broken` – exactly one thing is wrong; it passes from a part of an object to the whole, because
  nothing is wrong with the other parts;
* `Data.examine_toData` and `Data.broken_examine` say what comes of data, and `Data.toTree_toData` of whole
  trees.
-/

namespace BoundQuery

/-! ## 1. Checked values -/

namespace Checked

variable {α β : Type} {kind : IssueKind}

/-- Exactly one thing is wrong, of a given kind. -/
def Broken (kind : IssueKind) (a : Checked α) : Prop := ∃ place, a = .error [⟨kind, place⟩]

theorem broken_fail (kind : IssueKind) : Broken kind (fail kind : Checked α) := ⟨[], rfl⟩

theorem Broken.under {a : Checked α} (h : Broken kind a) (step : String) : Broken kind (a.under step) := by
  obtain ⟨place, rfl⟩ := h
  exact ⟨step :: place, rfl⟩

theorem Broken.map {a : Checked α} (h : Broken kind a) (f : α → β) : Broken kind (a.map f) := by
  obtain ⟨place, rfl⟩ := h
  exact ⟨place, rfl⟩

theorem Broken.both_ok {a : Checked α} (h : Broken kind a) (y : β) : Broken kind (both a (.ok y)) := by
  obtain ⟨place, rfl⟩ := h
  exact ⟨place, rfl⟩

theorem Broken.ok_both {b : Checked β} (h : Broken kind b) (x : α) : Broken kind (both (.ok x) b) := by
  obtain ⟨place, rfl⟩ := h
  exact ⟨place, rfl⟩

theorem Broken.withIssues_nil {a : Checked α} (h : Broken kind a) : Broken kind (a.withIssues []) := by
  obtain ⟨place, rfl⟩ := h
  exact ⟨place, rfl⟩

theorem members_ok : ∀ (start : Nat) (xs : List α), members start (xs.map .ok) = .ok xs
  | _, [] => rfl
  | start, x :: xs => by
      rw [List.map_cons, members, members_ok (start + 1) xs]
      rfl

/-- Of several members, one that is broken breaks the list. -/
theorem Broken.members {a : Checked α} (h : Broken kind a) (after : List α) :
    ∀ (start : Nat) (before : List α),
      Broken kind (members start (before.map .ok ++ a :: after.map .ok))
  | start, [] => by
      obtain ⟨place, hfirst⟩ := (h.under start.repr).both_ok after
      rw [List.map_nil, List.nil_append, Checked.members, members_ok, hfirst]
      exact ⟨place, rfl⟩
  | start, x :: before => by
      obtain ⟨place, hrest⟩ := h.members after (start + 1) before
      rw [List.map_cons, List.cons_append, Checked.members, hrest]
      exact ⟨place, rfl⟩

end Checked

/-! ## 2. Entries -/

namespace Examined

variable {α β : Type}

theorem valueOf?_map (f : α → β) (entries : List (String × α)) (name : String) :
    valueOf? (entries.map fun e => (e.1, f e.2)) name = (valueOf? entries name).map f := by
  rw [valueOf?, valueOf?, List.find?_map, Option.map_map, Option.map_map]
  rfl

theorem valueOf?_eq_none {entries : List (String × α)} {name : String} (h : name ∉ entries.map (·.1)) :
    valueOf? entries name = none := by
  rw [valueOf?, Option.map_eq_none_iff, List.find?_eq_none]
  intro e he hname
  exact h (List.mem_map.mpr ⟨e, he, by simpa using hname⟩)

/-- Where no name stands twice, each entry is found by its name. -/
theorem valueOf?_of_mem {name : String} {x : α} : ∀ {entries : List (String × α)},
    (entries.map (·.1)).Nodup → (name, x) ∈ entries → valueOf? entries name = some x
  | e :: entries, hnodup, hmem => by
      obtain ⟨hfirst, hrest⟩ := List.nodup_cons.mp hnodup
      rcases List.mem_cons.mp hmem with rfl | hmem
      · simp [valueOf?]
      · have hne : e.1 ≠ name := fun h => hfirst (List.mem_map.mpr ⟨_, hmem, h.symm⟩)
        have ih := valueOf?_of_mem hrest hmem
        simpa [valueOf?, hne] using ih

/-- The issues of unknown entries, found before the entries are looked at. -/
theorem unknownEntries_map (f : α → Examined) (entries : List (String × α)) (known : List String) :
    unknownEntries (entries.map fun e => (e.1, f e.2)) known
      = (entries.filter fun e => !known.contains e.1).map fun e => ⟨.unknownField, [e.1]⟩ := by
  rw [unknownEntries, List.filter_map, List.map_map]
  rfl

end Examined

namespace Data

theorem examineItems_eq_map (room : Nat) : ∀ items : List Data,
    examineItems room items = items.map (examine room)
  | [] => rfl
  | d :: items => by rw [examineItems, examineItems_eq_map room items, List.map_cons]

theorem examineEntries_eq_map (room : Nat) : ∀ entries : List (String × Data),
    examineEntries room entries = entries.map fun e => (e.1, examine room e.2)
  | [] => rfl
  | (name, d) :: entries => by
      rw [examineEntries, examineEntries_eq_map room entries, examineEntry, List.map_cons]

theorem trees_examine (room : Nat) (items : List Data) :
    ((Data.list items).examine room).trees
      = Checked.members 0 (items.map fun d => (d.examine room).tree) := by
  rw [examine, examineItems_eq_map, List.map_map]
  rfl

theorem data_examine (room : Nat) (d : Data) : (d.examine room).data = d := by
  cases d <;> rfl

end Data

/-! ## 3. Trees as entries -/

theorem NodeKind.ofTag?_tag (kind : NodeKind) : ofTag? kind.tag = some kind := by
  cases kind <;> decide

theorem NodeKind.ofTag?_eq_none {tag : String} (h : ∀ kind : NodeKind, kind.tag ≠ tag) :
    ofTag? tag = none := by
  rw [ofTag?, List.find?_eq_none]
  intro kind _ htag
  exact h kind (by simpa using htag)

theorem NodeKind.nodup_fieldNames (kind : NodeKind) : kind.fieldNames.Nodup := by
  cases kind <;> decide

namespace Tree

/-- The kind of a tree's root. -/
def nodeKind : Tree → NodeKind
  | .member _ => .member
  | .literal _ => .literal
  | .binary .. => .binary
  | .logical .. => .logical
  | .unary .. => .unary
  | .call .. => .call

/-- The entries of a tree as data. -/
def entries : Tree → List (String × Data)
  | .member name => [("type", .scalar (.str "member")), ("name", .scalar (.str name))]
  | .literal value => [("type", .scalar (.str "literal")), ("value", .scalar value)]
  | .binary operator left right =>
      [("type", .scalar (.str "binary")), ("operator", .scalar (.str operator)), ("left", left.toData),
        ("right", right.toData)]
  | .logical operator left right =>
      [("type", .scalar (.str "logical")), ("operator", .scalar (.str operator)), ("left", left.toData),
        ("right", right.toData)]
  | .unary operator operand =>
      [("type", .scalar (.str "unary")), ("operator", .scalar (.str operator)),
        ("operand", operand.toData)]
  | .call callee arguments =>
      [("type", .scalar (.str "call")), ("callee", .scalar (.str callee)),
        ("arguments", .list (arguments.map toData))]

theorem toDataAll_eq_map : ∀ ts : List Tree, toDataAll ts = ts.map toData
  | [] => rfl
  | t :: ts => by rw [toDataAll, toDataAll_eq_map ts, List.map_cons]

theorem toData_eq (t : Tree) : t.toData = .object t.entries := by
  cases t with
  | call callee arguments =>
    rw [toData, toDataAll_eq_map]
    rfl
  | _ => rfl

theorem map_fst_entries (t : Tree) : t.entries.map (·.1) = t.nodeKind.fieldNames := by
  cases t <;> rfl

theorem tag_mem_entries (t : Tree) : ("type", .scalar (.str t.nodeKind.tag)) ∈ t.entries := by
  cases t <;> simp [entries, nodeKind, NodeKind.tag]

/-- The trees that a tree is made of at its root. -/
def children : Tree → List Tree
  | .member _ => []
  | .literal _ => []
  | .binary _ left right => [left, right]
  | .logical _ left right => [left, right]
  | .unary _ operand => [operand]
  | .call _ arguments => arguments

theorem height_le_iff {t : Tree} {room : Nat} :
    t.height ≤ room + 1 ↔ ∀ u ∈ t.children, u.height ≤ room := by
  cases t with
  | binary operator left right | logical operator left right =>
    rw [height, Nat.succ_le_succ_iff, Nat.max_le]
    simp [children]
  | call callee arguments => simp [height, children, heightAll_le_iff]
  | _ => simp [height, children]

/-- Induction over trees by the trees at their root. -/
theorem children_induct {motive : Tree → Prop} (h : ∀ t, (∀ u ∈ t.children, motive u) → motive t)
    (t : Tree) : motive t := by
  induction t using induct with
  | member name => exact h _ (by simp [children])
  | literal value => exact h _ (by simp [children])
  | binary operator left right hl hr => exact h _ (by simp [children, hl, hr])
  | logical operator left right hl hr => exact h _ (by simp [children, hl, hr])
  | unary operator operand ih => exact h _ (by simp [children, ih])
  | call callee arguments ih => exact h _ ih

end Tree

/-! ## 4. Fields -/

namespace Examined

open Checked

/-- What stands under a name breaks the object: nothing where something has to stand, a tree that is broken,
    or several of which one is. -/
inductive Breaks : IssueKind → String → Option Examined → Prop
  | missing {name : String} (hname : name ≠ "arguments") : Breaks .missing name none
  | tree {kind : IssueKind} {name : String} {e : Examined} (hname : name ∈ ["left", "right", "operand"])
      (h : Broken kind e.tree) : Breaks kind name (some e)
  | trees {kind : IssueKind} {e : Examined} (h : Broken kind e.trees) : Breaks kind "arguments" (some e)

variable {α : Type} {found : List (String × Examined)} {name key : String} {e : Examined}
  {kind : IssueKind} {t : Tree} {room : Nat}

theorem required_ok (read : Examined → Checked α) {x : α} (h : valueOf? found name = some e)
    (hread : read e = .ok x) : required found name read = .ok x := by
  rw [required, h]
  simp only [hread, Checked.under]

theorem optional_ok (absent : α) (read : Examined → Checked α) {x : α} (h : valueOf? found name = some e)
    (hread : read e = .ok x) : optional found name absent read = .ok x := by
  rw [optional, h]
  simp only [hread, Checked.under]

theorem Breaks.required_plain (h : Breaks kind name (valueOf? found name))
    (hname : name ∉ ["left", "right", "operand", "arguments"]) (read : Examined → Checked α) :
    Broken kind (required found name read) := by
  generalize hvalue : valueOf? found name = value at h
  cases h with
  | missing =>
    rw [required, hvalue]
    exact (broken_fail _).under name
  | tree htree => exact absurd (List.mem_append_left ["arguments"] htree) hname
  | trees => exact absurd (by decide) hname

theorem Breaks.required_tree (h : Breaks kind name (valueOf? found name)) (hname : name ≠ "arguments") :
    Broken kind (required found name (·.tree)) := by
  generalize hvalue : valueOf? found name = value at h
  rw [required, hvalue]
  cases h with
  | missing => exact (broken_fail _).under name
  | tree _ htree => exact htree.under name
  | trees => exact absurd rfl hname

theorem Breaks.optional_trees (h : Breaks kind "arguments" (valueOf? found "arguments")) :
    Broken kind (optional found "arguments" [] (·.trees)) := by
  generalize hvalue : valueOf? found "arguments" = value at h
  rw [optional, hvalue]
  cases h with
  | missing hname => exact absurd rfl hname
  | tree hname => exact absurd hname (by decide)
  | trees htrees => exact htrees.under "arguments"

theorem Breaks.ne_type (h : Breaks kind name (some e)) : name ≠ "type" := by
  generalize hvalue : some e = value at h
  cases h with
  | missing => cases hvalue
  | tree hname =>
    rintro rfl
    exact absurd hname (by decide)
  | trees => decide

/-- The entries that are found hold what a tree has as data. -/
def Holds (found : List (String × Examined)) (room : Nat) (entries : List (String × Data)) : Prop :=
  ∀ e ∈ entries, valueOf? found e.1 = some (e.2.examine room)

/-- Trees that are read back from their data. -/
def AllRead (room : Nat) (ts : List Tree) : Prop := ∀ u ∈ ts, (u.toData.examine room).tree = .ok u

theorem map_tree_ok {ts : List Tree} (h : AllRead room ts) :
    (ts.map Tree.toData).map (fun d => (d.examine room).tree) = ts.map .ok := by
  rw [List.map_map]
  exact List.map_congr_left h

theorem trees_ok {ts : List Tree} (h : AllRead room ts) :
    ((Data.list (ts.map Tree.toData)).examine room).trees = .ok ts := by
  rw [Data.trees_examine, map_tree_ok h, members_ok]

/-- **The fields of a tree are read back.** -/
theorem fields_ok (hchildren : AllRead room t.children)
    (hfound : Holds found room t.entries) : fields found t.nodeKind = .ok t := by
  cases t with
  | member name =>
    simp only [Holds, Tree.entries, List.forall_mem_cons] at hfound
    obtain ⟨_, hname, _⟩ := hfound
    rw [Tree.nodeKind, fields, required_ok text hname rfl]
    rfl
  | literal value =>
    simp only [Holds, Tree.entries, List.forall_mem_cons] at hfound
    obtain ⟨_, hvalue, _⟩ := hfound
    rw [Tree.nodeKind, fields, required_ok literal hvalue rfl]
    rfl
  | binary operator left right | logical operator left right =>
    simp only [Holds, Tree.entries, List.forall_mem_cons] at hfound
    obtain ⟨_, hoperator, hleft, hright, _⟩ := hfound
    simp only [AllRead, Tree.children, List.forall_mem_cons] at hchildren
    obtain ⟨hl, hr, _⟩ := hchildren
    rw [Tree.nodeKind, fields, required_ok text hoperator rfl, required_ok (·.tree) hleft hl,
      required_ok (·.tree) hright hr]
    rfl
  | unary operator operand =>
    simp only [Holds, Tree.entries, List.forall_mem_cons] at hfound
    obtain ⟨_, hoperator, hoperand, _⟩ := hfound
    simp only [AllRead, Tree.children, List.forall_mem_cons] at hchildren
    rw [Tree.nodeKind, fields, required_ok text hoperator rfl, required_ok (·.tree) hoperand hchildren.1]
    rfl
  | call callee arguments =>
    simp only [Holds, Tree.entries, List.forall_mem_cons] at hfound
    obtain ⟨_, hcallee, harguments, _⟩ := hfound
    rw [Tree.nodeKind, fields, required_ok text hcallee rfl,
      optional_ok [] (·.trees) harguments (trees_ok hchildren)]
    rfl

/-- **A field that is broken breaks the object, if the other fields are those of a tree.** -/
theorem broken_fields (hchildren : AllRead room t.children)
    (hkey : key ∈ t.nodeKind.fieldNames) (htype : key ≠ "type")
    (hothers : Holds found room (t.entries.filter (·.1 ≠ key)))
    (hbreaks : Breaks kind key (valueOf? found key)) : Broken kind (fields found t.nodeKind) := by
  cases t with
  | member name =>
    obtain rfl : key = "name" := by simpa [Tree.nodeKind, NodeKind.fieldNames, htype] using hkey
    rw [Tree.nodeKind, fields]
    exact (hbreaks.required_plain (by decide) _).map _
  | literal value =>
    obtain rfl : key = "value" := by simpa [Tree.nodeKind, NodeKind.fieldNames, htype] using hkey
    rw [Tree.nodeKind, fields]
    exact (hbreaks.required_plain (by decide) _).map _
  | binary operator left right | logical operator left right =>
    simp only [AllRead, Tree.children, List.forall_mem_cons] at hchildren
    obtain ⟨hl, hr, _⟩ := hchildren
    have hcases : key = "operator" ∨ key = "left" ∨ key = "right" := by
      simpa [Tree.nodeKind, NodeKind.fieldNames, htype] using hkey
    rcases hcases with rfl | rfl | rfl
    · have hleft := hothers ("left", left.toData) (by simp [Tree.entries])
      have hright := hothers ("right", right.toData) (by simp [Tree.entries])
      rw [Tree.nodeKind, fields, required_ok (·.tree) hleft hl, required_ok (·.tree) hright hr]
      exact ((hbreaks.required_plain (by decide) _).both_ok (left, right)).map _
    · have hoperator := hothers ("operator", .scalar (.str operator)) (by simp [Tree.entries])
      have hright := hothers ("right", right.toData) (by simp [Tree.entries])
      rw [Tree.nodeKind, fields, required_ok text hoperator rfl, required_ok (·.tree) hright hr]
      exact (((hbreaks.required_tree (by decide)).both_ok right).ok_both operator).map _
    · have hoperator := hothers ("operator", .scalar (.str operator)) (by simp [Tree.entries])
      have hleft := hothers ("left", left.toData) (by simp [Tree.entries])
      rw [Tree.nodeKind, fields, required_ok text hoperator rfl, required_ok (·.tree) hleft hl]
      exact (((hbreaks.required_tree (by decide)).ok_both left).ok_both operator).map _
  | unary operator operand =>
    simp only [AllRead, Tree.children, List.forall_mem_cons] at hchildren
    have hcases : key = "operator" ∨ key = "operand" := by
      simpa [Tree.nodeKind, NodeKind.fieldNames, htype] using hkey
    rcases hcases with rfl | rfl
    · have hoperand := hothers ("operand", operand.toData) (by simp [Tree.entries])
      rw [Tree.nodeKind, fields, required_ok (·.tree) hoperand hchildren.1]
      exact ((hbreaks.required_plain (by decide) _).both_ok operand).map _
    · have hoperator := hothers ("operator", .scalar (.str operator)) (by simp [Tree.entries])
      rw [Tree.nodeKind, fields, required_ok text hoperator rfl]
      exact ((hbreaks.required_tree (by decide)).ok_both operator).map _
  | call callee arguments =>
    have hcases : key = "callee" ∨ key = "arguments" := by
      simpa [Tree.nodeKind, NodeKind.fieldNames, htype] using hkey
    rcases hcases with rfl | rfl
    · have harguments := hothers ("arguments", .list (arguments.map Tree.toData)) (by simp [Tree.entries])
      rw [Tree.nodeKind, fields, optional_ok [] (·.trees) harguments (trees_ok hchildren)]
      exact ((hbreaks.required_plain (by decide) _).both_ok arguments).map _
    · have hcallee := hothers ("callee", .scalar (.str callee)) (by simp [Tree.entries])
      rw [Tree.nodeKind, fields, required_ok text hcallee rfl]
      exact (hbreaks.optional_trees.ok_both callee).map _

/-! ## 5. Objects -/

theorem exactTag_ok (kind : NodeKind) (room : Nat) :
    exactTag kind ((Data.scalar (.str kind.tag)).examine room) = .ok () := by
  rw [exactTag, Data.data_examine]
  simp only [if_true]

/-- An object with its tag is what its fields are, together with the unknown entries. -/
theorem node_of_tag {kind : NodeKind}
    (h : valueOf? found "type" = some ((Data.scalar (.str kind.tag)).examine room)) :
    node found kind = (fields found kind).withIssues (unknownEntries found kind.fieldNames) := by
  rw [node, optional_ok () (exactTag kind) h (exactTag_ok kind room)]
  cases fields found kind <;> rfl

end Examined

namespace Data

open Checked Examined

variable {t : Tree} {room : Nat} {entries : List (String × Data)}

/-- An object with the tag of a tree is read as its fields and unknown entries say. -/
theorem examine_of_tag (hnodup : (entries.map (·.1)).Nodup)
    (htag : ("type", .scalar (.str t.nodeKind.tag)) ∈ entries) :
    ((Data.object entries).examine (room + 1)).tree =
      ((fields (examineEntries room entries) t.nodeKind).withIssues
        ((entries.filter fun e => !t.nodeKind.fieldNames.contains e.1).map
          fun e => ⟨.unknownField, [e.1]⟩)).under t.nodeKind.tag := by
  have hfound := valueOf?_of_mem hnodup htag
  have htype : valueOf? (examineEntries room entries) "type"
      = some ((Data.scalar (.str t.nodeKind.tag)).examine room) := by
    rw [examineEntries_eq_map, valueOf?_map, hfound]
    rfl
  have hunknown := unknownEntries_map (examine room) entries t.nodeKind.fieldNames
  rw [← examineEntries_eq_map] at hunknown
  rw [examine, tagged, hfound]
  simp only [NodeKind.ofTag?_tag, Nat.add_one_ne_zero, if_false, Nat.add_sub_cancel]
  rw [node_of_tag htype, hunknown]

theorem filter_unknown_eq_nil {known : List String} (h : ∀ e ∈ entries, e.1 ∈ known) :
    (entries.filter fun e => !known.contains e.1) = [] := by
  rw [List.filter_eq_nil_iff]
  intro e he
  simpa using h e he

theorem known_of_mem {e : String × Data} (h : e ∈ t.entries) : e.1 ∈ t.nodeKind.fieldNames := by
  rw [← t.map_fst_entries]
  exact List.mem_map_of_mem h

theorem nodup_entries (t : Tree) : (t.entries.map (·.1)).Nodup := by
  rw [t.map_fst_entries]
  exact t.nodeKind.nodup_fieldNames

theorem holds_of_subset {part : List (String × Data)} (hnodup : (entries.map (·.1)).Nodup)
    (h : part ⊆ entries) : Holds (examineEntries room entries) room part := by
  intro e he
  rw [examineEntries_eq_map, valueOf?_map, valueOf?_of_mem hnodup (h he)]
  rfl

/-- **A tree is read back from its data, if there is room for it.** -/
theorem examine_toData (t : Tree) : ∀ room : Nat, t.height ≤ room → (t.toData.examine room).tree = .ok t := by
  induction t using Tree.children_induct with
  | h t ih =>
    intro room hroom
    obtain ⟨room, rfl⟩ := Nat.exists_eq_add_one_of_ne_zero (Nat.ne_of_gt (t.height_pos.trans_le hroom))
    have hchildren : AllRead room t.children := fun u hu =>
      ih u hu room (Tree.height_le_iff.mp hroom u hu)
    rw [t.toData_eq, examine_of_tag (nodup_entries t) t.tag_mem_entries,
      fields_ok hchildren (holds_of_subset (nodup_entries t) (List.Subset.refl _)),
      filter_unknown_eq_nil fun e he => known_of_mem he]
    rfl

/-! ## 6. Damage -/

/-- One object of the data is damaged: it has an unknown entry more, an entry less or a tag that is none. The
    kind of issue tells the damage. A call may do without its arguments. -/
inductive Damaged : IssueKind → Data → Data → Prop
  | added {before after : List (String × Data)} (key : String) (value : Data)
      (hkey : key ∉ (before ++ after).map (·.1)) :
      Damaged .unknownField (.object (before ++ after)) (.object (before ++ (key, value) :: after))
  | dropped {before after : List (String × Data)} {key : String} {value : Data} (htype : key ≠ "type")
      (hkey : key ≠ "arguments") :
      Damaged .missing (.object (before ++ (key, value) :: after)) (.object (before ++ after))
  | untagged {before after : List (String × Data)} {value : Data} :
      Damaged .noTag (.object (before ++ ("type", value) :: after)) (.object (before ++ after))
  | retagged {before after : List (String × Data)} {value : Data} {tag : String}
      (htag : ∀ kind : NodeKind, kind.tag ≠ tag) :
      Damaged .unknownTag (.object (before ++ ("type", value) :: after))
        (.object (before ++ ("type", .scalar (.str tag)) :: after))
  | entry {before after : List (String × Data)} {name : String} {kind : IssueKind} {d d' : Data}
      (h : Damaged kind d d') :
      Damaged kind (.object (before ++ (name, d) :: after)) (.object (before ++ (name, d') :: after))
  | item {before after : List Data} {kind : IssueKind} {d d' : Data} (h : Damaged kind d d') :
      Damaged kind (.list (before ++ d :: after)) (.list (before ++ d' :: after))

section Damaged

variable {kind : IssueKind} {d d' : Data} {key : String}

theorem not_damaged_scalar {value : Literal} : ¬ Damaged kind (.scalar value) d := by
  intro h
  cases h

/-- An object in which one field is broken and the others are those of a tree is broken. -/
theorem broken_of_breaks (hchildren : AllRead room t.children)
    (hnames : (entries.map (·.1)).Sublist (t.entries.map (·.1)))
    (hkey : key ∈ t.entries.map (·.1)) (htype : key ≠ "type")
    (hothers : t.entries.filter (·.1 ≠ key) ⊆ entries)
    (hbreaks : Breaks kind key (valueOf? (examineEntries room entries) key)) :
    Broken kind ((Data.object entries).examine (room + 1)).tree := by
  have hnodup := (nodup_entries t).sublist hnames
  have htag : ("type", .scalar (.str t.nodeKind.tag)) ∈ entries :=
    hothers (List.mem_filter.mpr ⟨t.tag_mem_entries, by simpa using htype.symm⟩)
  rw [t.map_fst_entries] at hkey hnames
  have hbroken := broken_fields hchildren hkey htype (holds_of_subset hnodup hothers) hbreaks
  rw [examine_of_tag hnodup htag,
    filter_unknown_eq_nil fun e he => hnames.subset (List.mem_map_of_mem he)]
  exact hbroken.withIssues_nil.under _

/-- A list of trees in which one is damaged is broken. -/
theorem broken_trees {ts : List Tree} (hok : AllRead room ts)
    (hbroken : ∀ u ∈ ts, ∀ d, Damaged kind u.toData d → Broken kind (d.examine room).tree)
    (h : Damaged kind (.list (ts.map Tree.toData)) d) : Broken kind (d.examine room).trees := by
  generalize hwhole : Data.list (ts.map Tree.toData) = whole at h
  cases h with
  | @item before after _ old new h =>
    obtain ⟨us, vs, rfl, rfl, hvs⟩ := List.map_eq_append_iff.mp (Data.list.inj hwhole)
    obtain ⟨u, vs, rfl, rfl, rfl⟩ := List.map_eq_cons_iff.mp hvs
    simp only [AllRead, List.forall_mem_append, List.forall_mem_cons] at hok hbroken
    obtain ⟨hus, _, hvs⟩ := hok
    obtain ⟨_, hu, _⟩ := hbroken
    rw [trees_examine, List.map_append, List.map_cons, map_tree_ok hus, map_tree_ok hvs]
    exact (hu new h).members vs 0 us
  | _ => cases hwhole

/-- A damaged entry of a tree breaks it: only trees can be damaged. -/
theorem breaks_of_damaged (hok : AllRead room t.children)
    (hbroken : ∀ u ∈ t.children, ∀ d, Damaged kind u.toData d → Broken kind (d.examine room).tree)
    (hmem : (key, d) ∈ t.entries) (h : Damaged kind d d') : Breaks kind key (some (d'.examine room)) := by
  cases t with
  | member name | literal value =>
    simp only [Tree.entries, List.mem_cons, Prod.mk.injEq, List.not_mem_nil, or_false] at hmem
    rcases hmem with ⟨_, rfl⟩ | ⟨_, rfl⟩
    · exact absurd h not_damaged_scalar
    · exact absurd h not_damaged_scalar
  | binary operator left right | logical operator left right =>
    simp only [Tree.entries, List.mem_cons, Prod.mk.injEq, List.not_mem_nil, or_false] at hmem
    rcases hmem with ⟨_, rfl⟩ | ⟨_, rfl⟩ | ⟨rfl, rfl⟩ | ⟨rfl, rfl⟩
    · exact absurd h not_damaged_scalar
    · exact absurd h not_damaged_scalar
    · exact .tree (by decide) (hbroken left (by simp [Tree.children]) d' h)
    · exact .tree (by decide) (hbroken right (by simp [Tree.children]) d' h)
  | unary operator operand =>
    simp only [Tree.entries, List.mem_cons, Prod.mk.injEq, List.not_mem_nil, or_false] at hmem
    rcases hmem with ⟨_, rfl⟩ | ⟨_, rfl⟩ | ⟨rfl, rfl⟩
    · exact absurd h not_damaged_scalar
    · exact absurd h not_damaged_scalar
    · exact .tree (by decide) (hbroken operand (by simp [Tree.children]) d' h)
  | call callee arguments =>
    simp only [Tree.entries, List.mem_cons, Prod.mk.injEq, List.not_mem_nil, or_false] at hmem
    rcases hmem with ⟨_, rfl⟩ | ⟨_, rfl⟩ | ⟨rfl, rfl⟩
    · exact absurd h not_damaged_scalar
    · exact absurd h not_damaged_scalar
    · exact .trees (broken_trees hok hbroken h)

theorem sublist_middle {α : Type} (before after : List α) (x : α) :
    (before ++ after).Sublist (before ++ x :: after) :=
  List.Sublist.append_left (List.sublist_cons_self x after) before

section Entries

variable {before after : List (String × Data)}

theorem nodup_map_fst_middle :
    ((before ++ (key, d) :: after).map (·.1)).Nodup ↔
      key ∉ (before ++ after).map (·.1) ∧ ((before ++ after).map (·.1)).Nodup := by
  rw [List.map_append, List.map_cons, List.nodup_middle, ← List.map_append, List.nodup_cons]

/-- The name of an entry of a tree is not that of another. -/
theorem notMem_others (h : t.entries = before ++ (key, d) :: after) :
    key ∉ (before ++ after).map (·.1) := by
  have hnodup := nodup_entries t
  rw [h, nodup_map_fst_middle] at hnodup
  exact hnodup.1

/-- The entries of a tree other than one are those around it. -/
theorem others_subset (h : t.entries = before ++ (key, d) :: after) :
    t.entries.filter (·.1 ≠ key) ⊆ before ++ after := by
  intro e he
  obtain ⟨hmem, hne⟩ := List.mem_filter.mp he
  rw [h, List.mem_append, List.mem_cons] at hmem
  rcases hmem with hmem | rfl | hmem
  · exact List.mem_append_left _ hmem
  · simp at hne
  · exact List.mem_append_right _ hmem

theorem broken_added (hchildren : AllRead room t.children)
    (h : t.entries = before ++ after) (hkey : key ∉ (before ++ after).map (·.1)) :
    Broken .unknownField ((Data.object (before ++ (key, d) :: after)).examine (room + 1)).tree := by
  have hknown : ∀ e ∈ before ++ after, e.1 ∈ t.nodeKind.fieldNames := by
    rw [← h]
    exact fun e he => known_of_mem he
  have hunknown : key ∉ t.nodeKind.fieldNames := by
    rwa [← h, t.map_fst_entries] at hkey
  have hsubset : t.entries ⊆ before ++ (key, d) :: after := by
    rw [h]
    exact (sublist_middle before after _).subset
  have hnodup : ((before ++ (key, d) :: after).map (·.1)).Nodup :=
    nodup_map_fst_middle.mpr ⟨hkey, h ▸ nodup_entries t⟩
  rw [examine_of_tag hnodup (hsubset t.tag_mem_entries), fields_ok hchildren (holds_of_subset hnodup hsubset),
    List.filter_append, List.filter_cons, if_pos (by simpa using hunknown),
    filter_unknown_eq_nil fun e he => hknown e (List.mem_append_left _ he),
    filter_unknown_eq_nil fun e he => hknown e (List.mem_append_right _ he)]
  exact ⟨[t.nodeKind.tag, key], rfl⟩

theorem broken_dropped (hchildren : AllRead room t.children)
    (h : t.entries = before ++ (key, d) :: after) (htype : key ≠ "type") (hkey : key ≠ "arguments") :
    Broken .missing ((Data.object (before ++ after)).examine (room + 1)).tree := by
  have hbreaks : Breaks .missing key (valueOf? (examineEntries room (before ++ after)) key) := by
    rw [examineEntries_eq_map, valueOf?_map, valueOf?_eq_none (notMem_others h)]
    exact .missing hkey
  refine broken_of_breaks hchildren ?_ ?_ htype (others_subset h) hbreaks
  · rw [h]
    exact (sublist_middle before after _).map _
  · simp [h]

theorem broken_untagged (h : t.entries = before ++ ("type", d) :: after) :
    Broken .noTag ((Data.object (before ++ after)).examine (room + 1)).tree := by
  rw [examine, tagged, valueOf?_eq_none (notMem_others h)]
  exact broken_fail _

/-- What is put in the place of an entry is found under its name. -/
theorem valueOf?_replaced (h : t.entries = before ++ (key, d) :: after) (new : Data) :
    valueOf? (before ++ (key, new) :: after) key = some new := by
  have hnodup := nodup_entries t
  rw [h, nodup_map_fst_middle] at hnodup
  exact valueOf?_of_mem (nodup_map_fst_middle.mpr hnodup) (List.mem_append_right _ List.mem_cons_self)

theorem broken_retagged {tag : String} (h : t.entries = before ++ ("type", d) :: after)
    (htag : ∀ kind : NodeKind, kind.tag ≠ tag) :
    Broken .unknownTag
      ((Data.object (before ++ ("type", .scalar (.str tag)) :: after)).examine (room + 1)).tree := by
  rw [examine, tagged, valueOf?_replaced h]
  simp only [NodeKind.ofTag?_eq_none htag]
  exact broken_fail _

theorem broken_entry (hchildren : AllRead room t.children)
    (h : t.entries = before ++ (key, d) :: after) (hbreaks : Breaks kind key (some (d'.examine room))) :
    Broken kind ((Data.object (before ++ (key, d') :: after)).examine (room + 1)).tree := by
  have hnames : (before ++ (key, d') :: after).map (·.1) = t.entries.map (·.1) := by simp [h]
  have hvalue : valueOf? (examineEntries room (before ++ (key, d') :: after)) key
      = some (d'.examine room) := by
    rw [examineEntries_eq_map, valueOf?_map, valueOf?_replaced h]
    rfl
  have hothers := List.Subset.trans (others_subset h) (sublist_middle before after (key, d')).subset
  exact broken_of_breaks hchildren (hnames ▸ List.Sublist.refl _) (by simp [h]) hbreaks.ne_type hothers
    (hvalue ▸ hbreaks)

end Entries

/-- **Data of a tree with one object damaged has exactly one issue, of the kind of the damage.** -/
theorem broken_examine (t : Tree) : ∀ (room : Nat) (kind : IssueKind) (d : Data), t.height ≤ room →
    Damaged kind t.toData d → Broken kind (d.examine room).tree := by
  induction t using Tree.children_induct with
  | h t ih =>
    intro room kind d hroom h
    obtain ⟨room, rfl⟩ := Nat.exists_eq_add_one_of_ne_zero (Nat.ne_of_gt (t.height_pos.trans_le hroom))
    have hheight := Tree.height_le_iff.mp hroom
    have hchildren : AllRead room t.children := fun u hu =>
      examine_toData u room (hheight u hu)
    rw [t.toData_eq] at h
    generalize hwhole : Data.object t.entries = whole at h
    cases h with
    | added key value hkey => exact broken_added hchildren (Data.object.inj hwhole) hkey
    | dropped htype hkey => exact broken_dropped hchildren (Data.object.inj hwhole) htype hkey
    | untagged => exact broken_untagged (Data.object.inj hwhole)
    | retagged htag => exact broken_retagged (Data.object.inj hwhole) htag
    | entry hdamaged =>
      have hentries := Data.object.inj hwhole
      refine broken_entry hchildren hentries (breaks_of_damaged hchildren ?_ (by simp [hentries]) hdamaged)
      exact fun u hu d hd => ih u hu room kind d (hheight u hu) hd
    | item => cases hwhole

/-- **A tree within the limit is read back from its data as itself, and data with one damage anywhere in it
    is not read: it has one issue, of the kind of the damage.** -/
theorem toTree_toData (t : Tree) (h : t.height ≤ nodeLimit) :
    t.toData.toTree = .ok t ∧
    ∀ (kind : IssueKind) (d : Data), Damaged kind t.toData d → ∃ place, d.toTree = .error [⟨kind, place⟩] :=
  ⟨examine_toData t nodeLimit h, fun kind d hd => broken_examine t nodeLimit kind d h hd⟩

/-- A call whose first argument is a text literal under some tag. -/
def taggedCall (tag : String) : Data :=
  .object [("type", .scalar (.str "call")), ("callee", .scalar (.str "among")),
    ("arguments", .list (.object [("type", .scalar (.str tag)), ("value", .scalar (.str "a"))] ::
      [Literal.null, .bool true, .int 1, .float (.finite false 1 0)].map fun value =>
        (Tree.literal value).toData))]

/-- A condition with a call in it. -/
def mixedData (call : Data) : Data :=
  .object [("type", .scalar (.str "logical")), ("operator", .scalar (.str "&&")),
    ("left", .object [("type", .scalar (.str "unary")), ("operator", .scalar (.str "!")), ("operand", call)]),
    ("right", (Tree.binary "==" (.member "b") (.literal (.int 0))).toData)]

/-- All six kinds of tree and all kinds of literal. -/
def mixedTree : Tree :=
  .logical "&&"
    (.unary "!" (.call "among" [.literal (.str "a"), .literal .null, .literal (.bool true), .literal (.int 1),
      .literal (.float (.finite false 1 0))]))
    (.binary "==" (.member "b") (.literal (.int 0)))

/-- The tag is damaged four trees deep. -/
theorem toTree_toData_mixed :
    (mixedData (taggedCall "literal")).toTree = .ok mixedTree ∧
    ∃ place, (mixedData (taggedCall "lit")).toTree = .error [⟨.unknownTag, place⟩] := by
  have hcall : Damaged .unknownTag (taggedCall "literal") (taggedCall "lit") :=
    @Damaged.entry [_, _] [] "arguments" _ _ _ (@Damaged.item [] _ _ _ _
      (@Damaged.retagged [] [_] _ "lit" fun kind => by cases kind <;> decide))
  have hdamaged : Damaged .unknownTag (mixedData (taggedCall "literal")) (mixedData (taggedCall "lit")) :=
    @Damaged.entry [_, _] [_] "left" _ _ _ (@Damaged.entry [_, _] [] "operand" _ _ _ hcall)
  have hread := toTree_toData mixedTree (by decide)
  exact ⟨hread.1, hread.2 _ _ hdamaged⟩

end Damaged

end Data

end BoundQuery
