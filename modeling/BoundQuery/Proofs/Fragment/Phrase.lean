import BoundQuery.Fragment.Basic
import BoundQuery.Proofs.Fragment.Reading
import BoundQuery.Proofs.Tree.Formed

/-!
# Phrases: what both texts and callables can say

A `Phrase` is a predicate that can be written as a text and as a callable. As a text it is the lambda
of `Phrase.term`, with the words `and`, `or`, `not`, `in` and `not in`; as a callable it is run as
`Phrase.body`, with the operators `&`, `|` and `~` and the call `in_`. What it says is the tree
`Phrase.tree`, and that is what its text is read as, if it is not nested too deeply
(`Phrase.toTree_term`).
-/

namespace BoundQuery

/-! ## 1. Phrases -/

/-- How a field is read from the record: as an attribute, which takes an identifier, or as an item. -/
inductive Phrase.Reading (name : String) where
  | attribute (id : Text.Identifier) (h : id.text = name)
  | item

/-- A field that can be read in a text and in a callable, in either way in each. -/
structure Phrase.Field where
  name : String
  nonempty : name.isEmpty = false
  plain : name.startsWith "__" = false
  written : Reading name
  recorded : Reading name

/-- A literal as it is written: by itself, or as a number behind a minus sign. -/
inductive Phrase.Written where
  | plain (value : Literal)
  | minusInt (n : Int)
  | minusFloat (x : Binary64)

/-- A predicate of the common language. A literal can only be an operand of a comparison, and of one
    side of it; a chain has two operands at least. -/
inductive Phrase where
  | field (f : Phrase.Field)
  | compare (c : Comparison) (left right : Phrase)
  | compareTo (c : Comparison) (left : Phrase) (value : Phrase.Written)
  | compareFrom (c : Comparison) (value : Phrase.Written) (right : Phrase)
  | chain (op : Connective) (first second : Phrase) (rest : List Phrase)
  | negation (operand : Phrase)
  | membership (negated : Bool) (f : Phrase.Field) (first : Phrase.Written) (rest : List Phrase.Written)
  | pattern (m : Match) (f : Phrase.Field) (term : String)

namespace Phrase

/-! ## 2. What a phrase says -/

/-- The literal that is written. -/
def Written.value : Written → Literal
  | .plain value => value
  | .minusInt n => .int (-n)
  | .minusFloat x => .float x.negate

mutual

/-- The tree of a phrase. -/
def tree : Phrase → Tree
  | .field f => .member f.name
  | .compare c left right => .compare c (tree left) (tree right)
  | .compareTo c left value => .compare c (tree left) (.literal value.value)
  | .compareFrom c value right => .compare c (.literal value.value) (tree right)
  | .chain op first second rest =>
      (treeAll rest).foldl (Tree.connect op) (.connect op (tree first) (tree second))
  | .negation operand => .negate (tree operand)
  | .membership negated f first rest =>
      let test := Tree.membership f.name (((first :: rest).map Written.value).map .literal)
      if negated then .negate test else test
  | .pattern m f term => .pattern m f.name term

/-- The trees of several phrases. -/
def treeAll : List Phrase → List Tree
  | [] => []
  | p :: ps => tree p :: treeAll ps

end

/-! ## 3. A phrase as a text -/

section Text

variable (u : Text.Identifier)

/-- The term of a field; `u` is the name of the record. -/
def Field.term (f : Field) : Term :=
  match f.written with
  | .attribute id _ => .access (.name u) id
  | .item => .subscript (.name u) (.constant (.literal (.str f.name)))

/-- The term of a literal. -/
def Written.term : Written → Term
  | .plain value => .constant (.literal value)
  | .minusInt n => .signed .minus (.constant (.literal (.int n)))
  | .minusFloat x => .signed .minus (.constant (.literal (.float x)))

theorem isIdentifier_spelling (m : Match) : Text.isIdentifier m.spelling = true := by
  cases m <;> decide

/-- The name of a text match as an identifier. -/
def methodName (m : Match) : Text.Identifier := ⟨m.spelling, isIdentifier_spelling m⟩

mutual

/-- The term of a phrase; `u` is the name of the record. -/
def term : Phrase → Term
  | .field f => f.term u
  | .compare c left right => .compare (term left) [.compare c] [term right]
  | .compareTo c left value => .compare (term left) [.compare c] [value.term]
  | .compareFrom c value right => .compare value.term [.compare c] [term right]
  | .chain op first second rest => .connective op (term first) (term second :: termAll rest)
  | .negation operand => .signed .not (term operand)
  | .membership negated f first rest =>
      .compare (f.term u) [.member negated] [.list ((first :: rest).map Written.term)]
  | .pattern m f s => .call (.access (f.term u) (methodName m)) [.constant (.literal (.str s))] []

/-- The terms of several phrases. -/
def termAll : List Phrase → List Term
  | [] => []
  | p :: ps => term p :: termAll ps

end

/-- A phrase as a lambda of the record. -/
def lambda (p : Phrase) : Term := .lambda ⟨[], [u], none, [], none⟩ [] [] (p.term u)

end Text

mutual

/-- How many calls are nested in reading the text of a phrase. -/
def depth : Phrase → Nat
  | .field _ => 1
  | .compare _ left right => max (depth left) (depth right) + 2
  | .compareTo _ left _ => max (depth left) 1 + 2
  | .compareFrom _ _ right => max 1 (depth right) + 2
  | .chain _ first second rest => max (depth first) (max (depth second) (depthAll rest)) + 1
  | .negation operand => depth operand + 2
  | .membership .. => 4
  | .pattern .. => 1

/-- The greatest number of calls of several phrases. -/
def depthAll : List Phrase → Nat
  | [] => 0
  | p :: ps => max (depth p) (depthAll ps)

end

theorem depth_pos (p : Phrase) : 0 < p.depth := by
  cases p <;> simp [depth]

/-! ## 4. Reading the text -/

/-- The outcome of what succeeds if it nests no more calls than there is room for. -/
def fitting {α : Type} (depth room : Nat) (a : α) : Except Cause α :=
  if depth ≤ room then .ok a else .error .tooDeep

section Fitting

variable {α β : Type} {d e room : Nat}

theorem fitting_zero (a : α) : fitting 0 room a = .ok a := if_pos (Nat.zero_le room)

theorem fitting_succ_succ (a : α) : fitting (d + 1) (room + 1) a = fitting d room a := by
  simp only [fitting, Nat.succ_le_succ_iff]

/-- There is room for what lies so many calls below if there is room for the whole. -/
theorem fitting_below (calls : Nat) (hd : 0 < d) (a : α) :
    fitting (d + (calls + 1)) (room + 1) a = fitting d (room - calls) a := by
  have hroom : d + (calls + 1) ≤ room + 1 ↔ d ≤ room - calls := by omega
  simp only [fitting, hroom]

theorem fitting_bind {a : α} {b : β} {f : α → Except Cause β} (h : f a = fitting e room b) :
    (fitting d room a >>= f) = fitting (max d e) room b := by
  by_cases hd : d ≤ room
  · have hmax : max d e ≤ room ↔ e ≤ room := by omega
    rw [fitting, if_pos hd]
    simp only [fitting, hmax] at h ⊢
    exact h
  · have hmax : ¬ max d e ≤ room := by omega
    rw [fitting, if_neg hd, fitting, if_neg hmax]
    rfl

theorem fitting_map (a : α) (g : α → β) :
    (fitting d room a >>= fun x => pure (g x)) = fitting d room (g a) := by
  have h : (pure (g a) : Except Cause β) = fitting 0 room (g a) := (fitting_zero (g a)).symm
  rw [fitting_bind (f := fun x => pure (g x)) h, Nat.max_zero]

end Fitting

variable {u : Text.Identifier}

theorem Field.fieldName_term (f : Field) : (f.term u).fieldName (some u) = .ok f.name := by
  unfold Field.term
  split
  · rename_i id hid _
    simp [Term.fieldName, Term.path?, Term.joined, hid]
  · simp [Term.fieldName, f.nonempty]

theorem Field.toTree_term (f : Field) (room : Nat) :
    (f.term u).toTree (some u) room = fitting 1 room (.member f.name) := by
  cases room with
  | zero => rfl
  | succ room =>
    have hname := f.fieldName_term (u := u)
    rw [fitting_succ_succ, fitting_zero]
    unfold Field.term at hname ⊢
    split
    all_goals
      rename_i hread
      simp only [hread] at hname
      rw [Term.toTree_succ, Term.nodeTree, hname]
      rfl

theorem Written.toTree_term (v : Written) (room : Nat) :
    v.term.toTree (some u) room = fitting 1 room (.literal v.value) := by
  cases room with
  | zero => rfl
  | succ room => cases v <;> rfl

/-- A value of a membership test is read as it is written, and passes for a literal. -/
theorem Written.checked_term (v : Written) (room : Nat) :
    (do
      let t ← v.term.toTree (some u) room
      if t.isLiteral then pure t else .error .membershipValue)
      = fitting 1 room (Tree.literal v.value) := by
  rw [v.toTree_term]
  refine fitting_bind (e := 0) ?_
  exact (fitting_zero _).symm

theorem mapM_checked_term (room : Nat) : ∀ vs : List Written, vs ≠ [] →
    ((vs.map Written.term).mapM fun item => do
      let t ← item.toTree (some u) room
      if t.isLiteral then pure t else .error .membershipValue)
      = fitting 1 room ((vs.map Written.value).map Tree.literal)
  | [], h => absurd rfl h
  | [v], _ => by
      rw [List.map_singleton, List.mapM_cons, List.mapM_nil, v.checked_term]
      refine fitting_bind (e := 0) ?_
      exact (fitting_zero _).symm
  | v :: w :: vs, _ => by
      have ih := mapM_checked_term room (w :: vs) (List.cons_ne_nil w vs)
      rw [List.map_cons, List.mapM_cons, ih, v.checked_term]
      refine fitting_bind (e := 1) ?_
      exact fitting_map _ _

theorem membershipTree_term (f : Field) (v : Written) (vs : List Written) (room : Nat) :
    Term.membershipTree (some u) (Term.toTree (some u) room) (f.term u)
        (.list ((v :: vs).map Written.term))
      = fitting 1 room (.membership f.name (((v :: vs).map Written.value).map .literal)) := by
  have hvalues := mapM_checked_term (u := u) room (v :: vs) (List.cons_ne_nil v vs)
  unfold Term.membershipTree
  rw [f.fieldName_term]
  refine (congrArg (· >>= fun literals => pure (Tree.membership f.name literals)) hvalues).trans ?_
  exact fitting_map _ _

mutual

/-- **The text of a phrase is read as the tree that the phrase says**, if there is room for it. -/
theorem toTree_term : ∀ (p : Phrase) (room : Nat),
    (p.term u).toTree (some u) room = fitting p.depth room p.tree
  | .field f, room => f.toTree_term room
  | .compare c left right, 0 => rfl
  | .compare c left right, room + 1 => by
      have hpos := left.depth_pos
      rw [term, Term.toTree_succ, Term.nodeTree, depth, fitting_below 1 (by omega)]
      rw [toTree_term left (room - 1), toTree_term right (room - 1)]
      refine fitting_bind ?_
      exact fitting_map _ _
  | .compareTo c left value, 0 => rfl
  | .compareTo c left value, room + 1 => by
      rw [term, Term.toTree_succ, Term.nodeTree, depth, fitting_below 1 (by omega)]
      rw [toTree_term left (room - 1), value.toTree_term (room - 1)]
      refine fitting_bind ?_
      exact fitting_map _ _
  | .compareFrom c value right, 0 => rfl
  | .compareFrom c value right, room + 1 => by
      rw [term, Term.toTree_succ, Term.nodeTree, depth, fitting_below 1 (by omega)]
      rw [toTree_term right (room - 1), value.toTree_term (room - 1)]
      refine fitting_bind ?_
      exact fitting_map _ _
  | .chain op first second rest, 0 => rfl
  | .chain op first second rest, room + 1 => by
      rw [term, Term.toTree_succ, Term.nodeTree, depth, fitting_succ_succ]
      simp only [List.foldlM_cons, Nat.sub_zero]
      rw [toTree_term first room, toTree_term second room]
      refine fitting_bind ?_
      simp only [bind_assoc, pure_bind]
      exact fitting_bind (foldlM_termAll op rest room _)
  | .negation operand, 0 => rfl
  | .negation operand, room + 1 => by
      rw [term, Term.toTree_succ, Term.nodeTree, depth, fitting_below 1 operand.depth_pos]
      rw [toTree_term operand (room - 1)]
      exact fitting_map _ _
  | .membership negated f first rest, 0 => rfl
  | .membership false f first rest, room + 1 => by
      rw [term, Term.toTree_succ, Term.nodeTree, depth, fitting_below 2 Nat.one_pos]
      exact membershipTree_term f first rest (room - 2)
  | .membership true f first rest, room + 1 => by
      rw [term, Term.toTree_succ, Term.nodeTree, depth, fitting_below 2 Nat.one_pos]
      rw [membershipTree_term f first rest (room - 2)]
      exact fitting_map _ _
  | .pattern m f s, 0 => rfl
  | .pattern m f s, room + 1 => by
      have hmethod : Method.ofSpelling? (methodName m).text = some (.pattern m) :=
        Method.ofSpelling?_spelling (.pattern m)
      rw [term, Term.toTree_succ, Term.nodeTree, depth, fitting_succ_succ, fitting_zero, Term.callTree]
      simp only [hmethod]
      rw [f.fieldName_term]
      rfl

theorem foldlM_termAll (op : Connective) : ∀ (ps : List Phrase) (room : Nat) (left : Tree),
    (termAll u ps).foldlM
        (fun left t => do return .connect op left (← Term.toTree (some u) room t)) left
      = fitting (depthAll ps) room ((treeAll ps).foldl (Tree.connect op) left)
  | [], room, left => by rw [depthAll, fitting_zero]; rfl
  | p :: ps, room, left => by
      rw [termAll, List.foldlM_cons, toTree_term p room, depthAll, treeAll, List.foldl_cons]
      simp only [bind_assoc, pure_bind]
      exact fitting_bind (foldlM_termAll op ps room _)

end

end Phrase

end BoundQuery
