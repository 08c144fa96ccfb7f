import BoundQuery.Proofs.Sql.Lexeme
import BoundQuery.Text.Identifier

/-!
# Formed trees and their grouping

A formed tree is made of the vocabulary of predicates, and its calls are tests of a field against
literals. Only a connective has parentheses in its text, so the text of a formed tree does not tell how
comparisons and negations are grouped. `Tree.regrouped` is the tree among those of one text that the
precedence of SQL picks: negations reach as far as they can and comparisons nest to the right.

* `Tree.lexemes_regrouped` – regrouping does not show in the text;
* `Tree.Formed.regrouped` and `Tree.grouped_regrouped` – a regrouped tree is formed and grouped.
-/

namespace BoundQuery

open BoundQuery.Sql

/-- The sign of a comparison. -/
def Comparison.sql : Comparison → String
  | .eq => "="
  | .ne => "!="
  | .gt => ">"
  | .lt => "<"
  | .ge => ">="
  | .le => "<="

theorem comparisonSql?_spelling (c : Comparison) : comparisonSql? c.spelling = some c.sql := by
  cases c <;> rfl

theorem connectiveSql?_spelling (c : Connective) : connectiveSql? c.spelling = some c.spelling := by
  cases c <;> rfl

theorem Method.ofSpelling?_spelling (m : Method) : Method.ofSpelling? m.spelling = some m := by
  cases m with
  | membership => rfl
  | pattern m => cases m <;> rfl

theorem exists_comparison {operator : String} (h : (comparisonSql? operator).isSome = true) :
    ∃ c : Comparison, operator = c.spelling := by
  unfold comparisonSql? at h
  split at h
  · exact ⟨.eq, by assumption⟩
  split at h
  · exact ⟨.ne, by assumption⟩
  split at h
  · exact ⟨.gt, by assumption⟩
  split at h
  · exact ⟨.lt, by assumption⟩
  split at h
  · exact ⟨.ge, by assumption⟩
  split at h
  · exact ⟨.le, by assumption⟩
  · cases h

theorem exists_connective {operator : String} (h : (connectiveSql? operator).isSome = true) :
    ∃ c : Connective, operator = c.spelling := by
  unfold connectiveSql? at h
  split at h
  · exact ⟨.and, by assumption⟩
  split at h
  · exact ⟨.or, by assumption⟩
  · cases h

theorem eq_negation {operator : String} (h : (unarySql? operator).isSome = true) :
    operator = negationSpelling := by
  unfold unarySql? at h
  split at h
  · assumption
  · cases h

theorem Method.spelling_of_ofSpelling? {callee : String} {m : Method}
    (h : Method.ofSpelling? callee = some m) : callee = m.spelling := by
  unfold Method.ofSpelling? at h
  split at h
  · cases h
    assumption
  split at h
  · cases h
    assumption
  split at h
  · cases h
    assumption
  · cases h

/-- A name of a field: one or more identifiers with dots between them. -/
def IsFieldName (name : String) : Prop :=
  ∃ (first : Text.Identifier) (rest : List Text.Identifier),
    name = ".".intercalate ((first :: rest).map (·.text))

namespace Tree

/-! ## 1. Formed trees -/

/-- A tree over the vocabulary of predicates whose fields have names that are `named`, and whose calls
    test a field against literals. -/
inductive Formed (named : String → Prop) : Tree → Prop
  | member {name : String} (hname : named name) : Formed named (.member name)
  | literal (value : Literal) : Formed named (.literal value)
  | compare (c : Comparison) {left right : Tree} (hl : Formed named left) (hr : Formed named right) :
      Formed named (.compare c left right)
  | connect (c : Connective) {left right : Tree} (hl : Formed named left) (hr : Formed named right) :
      Formed named (.connect c left right)
  | negate {operand : Tree} (h : Formed named operand) : Formed named operand.negate
  | membership {name : String} (hname : named name) (first : Literal) (rest : List Literal) :
      Formed named (.membership name ((first :: rest).map .literal))
  | pattern (m : Match) {name : String} (hname : named name) (term : String) :
      Formed named (.pattern m name term)

theorem exists_literals : ∀ {ts : List Tree}, ts.all isLiteral = true →
    ∃ vs : List Literal, ts = vs.map .literal
  | [], _ => ⟨[], rfl⟩
  | t :: ts, h => by
      rw [List.all_cons, Bool.and_eq_true] at h
      obtain ⟨vs, rfl⟩ := exists_literals h.2
      cases t with
      | literal v => exact ⟨v :: vs, rfl⟩
      | _ => cases h.1

theorem Formed.mono {named named' : String → Prop} (h : ∀ name, named name → named' name) {t : Tree}
    (ht : t.Formed named) : t.Formed named' := by
  induction ht with
  | member hname => exact .member (h _ hname)
  | literal value => exact .literal value
  | compare c _ _ hl hr => exact .compare c hl hr
  | connect c _ _ hl hr => exact .connect c hl hr
  | negate _ h => exact .negate h
  | membership hname first rest => exact .membership (h _ hname) first rest
  | pattern m hname term => exact .pattern m (h _ hname) term

mutual

/-- The names of the fields of a tree, from left to right. -/
def names : Tree → List String
  | .member name => [name]
  | .literal _ => []
  | .binary _ left right => names left ++ names right
  | .logical _ left right => names left ++ names right
  | .unary _ operand => names operand
  | .call _ arguments => namesAll arguments

/-- The names of the fields of several trees. -/
def namesAll : List Tree → List String
  | [] => []
  | t :: ts => names t ++ namesAll ts

end

/-- The names of a formed tree are those of its fields. -/
theorem Formed.and_names {named named' : String → Prop} {t : Tree} (ht : t.Formed named)
    (h : ∀ name ∈ t.names, named' name) : t.Formed fun name => named name ∧ named' name := by
  induction ht with
  | member hname => exact .member ⟨hname, h _ (by simp [names])⟩
  | literal value => exact .literal value
  | compare c _ _ ihl ihr =>
    exact .compare c (ihl fun name hn => h name (by simp [Tree.compare, names, hn]))
      (ihr fun name hn => h name (by simp [Tree.compare, names, hn]))
  | connect c _ _ ihl ihr =>
    exact .connect c (ihl fun name hn => h name (by simp [Tree.connect, names, hn]))
      (ihr fun name hn => h name (by simp [Tree.connect, names, hn]))
  | negate _ ih => exact .negate (ih fun name hn => h name (by simp [Tree.negate, names, hn]))
  | membership hname first rest =>
    exact .membership ⟨hname, h _ (by simp [Tree.membership, names, namesAll])⟩ first rest
  | pattern m hname term =>
    exact .pattern m ⟨hname, h _ (by simp [Tree.pattern, names, namesAll])⟩ term

/-! ## 2. Their lexemes -/

@[simp] theorem lexemes_compare (c : Comparison) (left right : Tree) :
    (Tree.compare c left right).lexemes
      = left.lexemes ++ [.blank, .sign c.sql, .blank] ++ right.lexemes := by
  rw [Tree.compare, lexemes, comparisonSql?_spelling]
  rfl

@[simp] theorem lexemes_connect (c : Connective) (left right : Tree) :
    (Tree.connect c left right).lexemes
      = .opening :: left.lexemes ++ [.blank, .word c.spelling, .blank] ++ right.lexemes
        ++ [.closing] := by
  rw [Tree.connect, lexemes, connectiveSql?_spelling]
  rfl

@[simp] theorem lexemes_negate (t : Tree) : t.negate.lexemes = .word "NOT" :: .blank :: t.lexemes := by
  rw [negate, lexemes]
  rfl

@[simp] theorem lexemes_membership_field (name : String) (values : List Literal) :
    (Tree.membership name (values.map .literal)).lexemes
      = [.plain name, .blank, .word "IN", .blank, .opening]
        ++ List.intercalate [.comma, .blank] (values.map fun v => [.value v]) ++ [.closing] := by
  rw [Tree.membership, lexemes_membership rfl, List.map_map]
  rfl

@[simp] theorem lexemes_pattern_field (m : Match) (name term : String) :
    (Tree.pattern m name term).lexemes
      = [.plain name, .blank, .word "LIKE", .blank, .value (.str (matchPattern m term)), .blank,
        .word "ESCAPE", .blank, .mark] := by
  have hm : Method.ofSpelling? m.spelling = some (.pattern m) :=
    Method.ofSpelling?_spelling (.pattern m)
  rw [Tree.pattern, lexemes_pattern hm]
  rfl

/-! ## 3. Regrouping -/

/-- Compare what stands rightmost in a tree with another tree. -/
def graft (operator : String) (right : Tree) : Tree → Tree
  | .binary o l r => .binary o l (graft operator right r)
  | .unary o t => .unary o (graft operator right t)
  | t => .binary operator t right

/-- The callee of a call, where a match by the end of nothing is one by the start. -/
def settledCallee (callee : String) : List Tree → String
  | [_, .literal (.str "")] => if callee = Match.ends.spelling then Match.starts.spelling else callee
  | _ => callee

/-- The tree of the same text that is grouped as SQL groups it. -/
def regrouped : Tree → Tree
  | .member name => .member name
  | .literal value => .literal value
  | .binary operator left right => graft operator (regrouped right) (regrouped left)
  | .logical operator left right => .logical operator (regrouped left) (regrouped right)
  | .unary operator operand => .unary operator (regrouped operand)
  | .call callee arguments => .call (settledCallee callee arguments) arguments

theorem lexemes_graft (operator : String) (right left : Tree) :
    (graft operator right left).lexemes
      = left.lexemes ++ [.blank, .sign ((comparisonSql? operator).getD ""), .blank]
        ++ right.lexemes := by
  induction left using induct with
  | binary o l r _ hr => simp [graft, lexemes, hr]
  | unary o t h => simp [graft, lexemes, h]
  | _ => rfl

theorem lexemes_settledCallee (callee : String) (arguments : List Tree) :
    (Tree.call (settledCallee callee arguments) arguments).lexemes
      = (Tree.call callee arguments).lexemes := by
  unfold settledCallee
  split
  · rename_i receiver
    split
    · rename_i hcallee
      have hpattern : matchPattern .starts "" = matchPattern .ends "" := rfl
      rw [hcallee, lexemes_pattern (m := .starts) rfl, lexemes_pattern (m := .ends) rfl, hpattern]
    · rfl
  · rfl

/-- **Regrouping does not show in the text.** -/
theorem lexemes_regrouped (t : Tree) : t.regrouped.lexemes = t.lexemes := by
  induction t using induct with
  | member name => rfl
  | literal value => rfl
  | binary operator left right hl hr => rw [regrouped, lexemes_graft, hl, hr, lexemes]
  | logical operator left right hl hr => rw [regrouped, lexemes, hl, hr, lexemes]
  | unary operator operand h => rw [regrouped, lexemes, h, lexemes]
  | call callee arguments _ => exact lexemes_settledCallee callee arguments

theorem Formed.graft {named : String → Prop} (c : Comparison) {left right : Tree}
    (hl : left.Formed named) (hr : right.Formed named) :
    (graft c.spelling right left).Formed named := by
  induction hl with
  | member hname => exact .compare c (.member hname) hr
  | literal value => exact .compare c (.literal value) hr
  | compare c' hl' _ _ ih => exact .compare c' hl' ih
  | connect c' hl' hr' _ _ => exact .compare c (.connect c' hl' hr') hr
  | negate _ ih => exact .negate ih
  | membership hname first rest => exact .compare c (.membership hname first rest) hr
  | pattern m hname term => exact .compare c (.pattern m hname term) hr

/-- A text match with its callee settled. -/
theorem settledCallee_pattern (m : Match) (name term : String) :
    settledCallee m.spelling [.member name, .literal (.str term)]
      = if term = "" then Match.starts.spelling else m.spelling := by
  unfold settledCallee
  split
  · rename_i heq
    simp only [List.cons.injEq, literal.injEq, Literal.str.injEq, and_true] at heq
    rw [if_pos heq.2]
    cases m <;> rfl
  · rename_i hne
    have hterm : term ≠ "" := fun h => hne (.member name) (by rw [h])
    rw [if_neg hterm]

theorem settledCallee_membership (name : String) (values : List Tree) :
    settledCallee membershipSpelling (.member name :: values) = membershipSpelling := by
  unfold settledCallee
  split <;> rfl

theorem regrouped_pattern (m : Match) (name term : String) :
    (Tree.pattern m name term).regrouped = .pattern (if term = "" then .starts else m) name term := by
  rw [Tree.pattern, regrouped, settledCallee_pattern]
  split <;> rfl

theorem regrouped_membership (name : String) (values : List Tree) :
    (Tree.membership name values).regrouped = .membership name values := by
  rw [Tree.membership, regrouped, settledCallee_membership]

theorem Formed.regrouped {named : String → Prop} {t : Tree} (ht : t.Formed named) :
    t.regrouped.Formed named := by
  induction ht with
  | member hname => exact .member hname
  | literal value => exact .literal value
  | compare c _ _ hl hr => exact hl.graft c hr
  | connect c _ _ hl hr => exact .connect c hl hr
  | negate _ h => exact .negate h
  | membership hname first rest =>
    rw [regrouped_membership]
    exact .membership hname first rest
  | pattern m hname term =>
    rw [regrouped_pattern]
    exact .pattern _ hname term

/-! ## 4. Grouped trees -/

/-- Whether a tree is a comparison or a negation, whose text has no parentheses around it. -/
def isCompound : Tree → Bool
  | .binary .. => true
  | .unary .. => true
  | _ => false

/-- A tree that SQL groups in the same way: nothing without parentheses stands left of a sign, and no
    match is by the end of nothing. -/
def Grouped : Tree → Prop
  | .member _ => True
  | .literal _ => True
  | .binary _ left right => left.isCompound = false ∧ left.Grouped ∧ right.Grouped
  | .logical _ left right => left.Grouped ∧ right.Grouped
  | .unary _ operand => operand.Grouped
  | .call callee arguments => settledCallee callee arguments = callee

theorem graft_of_not_isCompound {operator : String} {left right : Tree}
    (h : left.isCompound = false) : graft operator right left = .binary operator left right := by
  cases left with
  | binary => cases h
  | unary => cases h
  | _ => rfl

theorem grouped_pattern {m : Match} {name term : String} :
    (Tree.pattern m name term).Grouped ↔ (term = "" → m = .starts) := by
  rw [Tree.pattern, Grouped, settledCallee_pattern]
  by_cases hterm : term = ""
  · cases m <;> simp [hterm, Match.spelling]
  · simp [hterm]

theorem grouped_graft {operator : String} {right : Tree} (hr : right.Grouped) (left : Tree)
    (hl : left.Grouped) : (graft operator right left).Grouped := by
  induction left using induct with
  | binary o l r _ ih => exact ⟨hl.1, hl.2.1, ih hl.2.2⟩
  | unary o t ih => exact ih hl
  | _ => exact ⟨rfl, hl, hr⟩

/-- **A regrouped tree is grouped.** -/
theorem grouped_regrouped {named : String → Prop} {t : Tree} (ht : t.Formed named) :
    t.regrouped.Grouped := by
  induction ht with
  | member _ => trivial
  | literal value => trivial
  | compare c _ _ hl hr => exact grouped_graft hr _ hl
  | connect c _ _ hl hr => exact ⟨hl, hr⟩
  | negate _ h => exact h
  | membership hname first rest =>
    rw [regrouped_membership]
    exact settledCallee_membership _ _
  | pattern m hname term =>
    rw [regrouped_pattern, grouped_pattern]
    exact fun hterm => if_pos hterm

/-- A grouped tree is left as it is. -/
theorem regrouped_of_grouped {t : Tree} (h : t.Grouped) : t.regrouped = t := by
  induction t using induct with
  | member name => rfl
  | literal value => rfl
  | binary operator left right ihl ihr =>
    obtain ⟨hcompound, hl, hr⟩ := h
    rw [regrouped, ihl hl, ihr hr, graft_of_not_isCompound hcompound]
  | logical operator left right ihl ihr => rw [regrouped, ihl h.1, ihr h.2]
  | unary operator operand ih => rw [regrouped, ih h]
  | call callee arguments _ => rw [regrouped, h]

/-! ## 5. Depth -/

mutual

/-- How deep a tree is nested. -/
def height : Tree → Nat
  | .member _ => 1
  | .literal _ => 1
  | .binary _ left right => max (height left) (height right) + 1
  | .logical _ left right => max (height left) (height right) + 1
  | .unary _ operand => height operand + 1
  | .call _ arguments => heightAll arguments + 1

/-- The greatest depth of several trees. -/
def heightAll : List Tree → Nat
  | [] => 0
  | t :: ts => max (height t) (heightAll ts)

end

theorem heightAll_le_iff {n : Nat} : ∀ {ts : List Tree}, heightAll ts ≤ n ↔ ∀ t ∈ ts, t.height ≤ n
  | [] => by simp [heightAll]
  | t :: ts => by
      rw [heightAll, Nat.max_le, heightAll_le_iff]
      simp

theorem height_pos (t : Tree) : 0 < t.height := by
  cases t <;> simp [height]

@[simp] theorem height_member (name : String) : (Tree.member name).height = 1 := rfl

@[simp] theorem height_literal (value : Literal) : (Tree.literal value).height = 1 := rfl

@[simp] theorem height_compare (c : Comparison) (left right : Tree) :
    (Tree.compare c left right).height = max left.height right.height + 1 := rfl

@[simp] theorem height_connect (c : Connective) (left right : Tree) :
    (Tree.connect c left right).height = max left.height right.height + 1 := rfl

@[simp] theorem height_negate (t : Tree) : t.negate.height = t.height + 1 := rfl

@[simp] theorem height_membership (name : String) (values : List Literal) :
    (Tree.membership name (values.map .literal)).height = 2 := by
  have hvalues : heightAll (values.map .literal) ≤ 1 := by
    rw [heightAll_le_iff]
    intro t ht
    obtain ⟨v, _, rfl⟩ := List.mem_map.mp ht
    exact Nat.le_refl 1
  rw [Tree.membership, height, heightAll, height_member, Nat.max_eq_left hvalues]

@[simp] theorem height_pattern (m : Match) (name term : String) :
    (Tree.pattern m name term).height = 2 := rfl

end Tree

end BoundQuery
