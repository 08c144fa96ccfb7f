import BoundQuery.Proofs.Tree.Basic
import BoundQuery.Sql.Predicate
import Mathlib.Data.List.Chain

/-!
# Lexemes

The text of a predicate falls into lexemes: plain texts, bound values, signs, words and delimiters.
`Tree.lexemes` lists those of a tree from left to right, with the value itself where the text has a
placeholder, so that one list holds both what is written and what is bound:

* `spell` is the text of a list of lexemes for a way to write placeholders, after so many values;
* `values` are the values that the list binds, in order;
* `Follows` tells which lexemes may stand next to each other: whatever is not a delimiter ends at a
  blank, a comma or a closing parenthesis (`Tree.isChain_lexemes`).
-/

namespace BoundQuery.Sql

/-! ## 1. Lexemes and their text -/

/-- A part of a text. A `plain` text stands as it is, be it a field or a whole clause. -/
inductive Lexeme where
  | plain (text : String)
  | value (v : Literal)
  | sign (sql : String)
  | word (keyword : String)
  | opening
  | closing
  | comma
  | blank
  | mark
  deriving DecidableEq

namespace Lexeme

/-- The text of a lexeme after `n` values. -/
@[simp] def spelling (place : Nat → String) (n : Nat) : Lexeme → String
  | .plain text => text
  | .value _ => place (n + 1)
  | .sign sql => sql
  | .word keyword => keyword
  | .opening => "("
  | .closing => ")"
  | .comma => ","
  | .blank => " "
  | .mark => "'" ++ String.ofList [escapeMark] ++ "'"

/-- The value that a lexeme binds. -/
@[simp] def value? : Lexeme → Option Literal
  | .value v => some v
  | _ => none

/-- How many values a lexeme binds. -/
@[simp] def width : Lexeme → Nat
  | .value _ => 1
  | _ => 0

/-- Whether a lexeme is one of the four delimiters. -/
def isDelimiter : Lexeme → Bool
  | .opening => true
  | .closing => true
  | .comma => true
  | .blank => true
  | _ => false

/-- Whether what is not a delimiter may end at a lexeme. -/
def isBreak : Lexeme → Bool
  | .closing => true
  | .comma => true
  | .blank => true
  | _ => false

end Lexeme

/-- The text of lexemes after `n` values. -/
def spell (place : Nat → String) : Nat → List Lexeme → String
  | _, [] => ""
  | n, l :: ls => l.spelling place n ++ spell place (n + l.width) ls

/-- The values that lexemes bind, from left to right. -/
def values (ls : List Lexeme) : List Literal := ls.filterMap Lexeme.value?

@[simp] theorem spell_nil (place : Nat → String) (n : Nat) : spell place n [] = "" := rfl

@[simp] theorem spell_cons (place : Nat → String) (n : Nat) (l : Lexeme) (ls : List Lexeme) :
    spell place n (l :: ls) = l.spelling place n ++ spell place (n + l.width) ls := rfl

@[simp] theorem values_nil : values [] = [] := rfl

@[simp] theorem values_append (as bs : List Lexeme) : values (as ++ bs) = values as ++ values bs :=
  List.filterMap_append

@[simp] theorem values_cons (l : Lexeme) (ls : List Lexeme) : values (l :: ls) = l.value?.toList ++ values ls := by
  cases l <;> rfl

theorem length_values_cons (l : Lexeme) (ls : List Lexeme) :
    (values (l :: ls)).length = l.width + (values ls).length := by
  rw [values_cons, List.length_append]
  cases l <;> rfl

/-- **The text of one list after another: the second is numbered on.** -/
theorem spell_append (place : Nat → String) : ∀ (n : Nat) (as bs : List Lexeme),
    spell place n (as ++ bs) = spell place n as ++ spell place (n + (values as).length) bs
  | n, [], bs => by simp
  | n, l :: as, bs => by
      have ih := spell_append place (n + l.width) as bs
      rw [List.cons_append, spell_cons, spell_cons, ih, length_values_cons, String.append_assoc,
        Nat.add_assoc]

/-! ## 2. The lexemes of a tree -/

/-- The lexemes of a call, whose arguments have the lexemes `parts`. -/
def callLexemes (method : Option Method) (arguments : List Tree) (parts : List (List Lexeme)) :
    List Lexeme :=
  match method, arguments, parts with
  | some .membership, _, receiver :: values =>
      receiver ++ [.blank, .word "IN", .blank, .opening] ++ List.intercalate [.comma, .blank] values
        ++ [.closing]
  | some (.pattern m), [_, .literal (.str term)], receiver :: _ =>
      receiver ++ [.blank, .word "LIKE", .blank, .value (.str (matchPattern m term)), .blank,
        .word "ESCAPE", .blank, .mark]
  | _, _, _ => []

end BoundQuery.Sql

namespace BoundQuery.Tree

open BoundQuery.Sql

mutual

/-- The lexemes of a tree that can be written. -/
def lexemes : Tree → List Lexeme
  | .member name => [.plain name]
  | .literal value => [.value value]
  | .binary operator left right =>
      lexemes left ++ [.blank, .sign ((comparisonSql? operator).getD ""), .blank] ++ lexemes right
  | .logical operator left right =>
      .opening :: lexemes left ++ [.blank, .word ((connectiveSql? operator).getD ""), .blank]
        ++ lexemes right ++ [.closing]
  | .unary operator operand => .word ((unarySql? operator).getD "") :: .blank :: lexemes operand
  | .call callee arguments => callLexemes (Method.ofSpelling? callee) arguments (lexemesAll arguments)

/-- The lexemes of several trees, one list each. -/
def lexemesAll : List Tree → List (List Lexeme)
  | [] => []
  | t :: ts => lexemes t :: lexemesAll ts

end

theorem lexemesAll_eq_map : ∀ ts : List Tree, lexemesAll ts = ts.map lexemes
  | [] => rfl
  | t :: ts => by rw [lexemesAll, lexemesAll_eq_map ts, List.map_cons]

theorem lexemes_membership {callee : String} (h : Method.ofSpelling? callee = some .membership)
    (receiver : Tree) (values : List Tree) :
    (Tree.call callee (receiver :: values)).lexemes
      = receiver.lexemes ++ [.blank, .word "IN", .blank, .opening]
        ++ List.intercalate [.comma, .blank] (values.map lexemes) ++ [.closing] := by
  rw [lexemes, h, lexemesAll_eq_map, List.map_cons]
  rfl

theorem lexemes_pattern {callee : String} {m : Match}
    (h : Method.ofSpelling? callee = some (.pattern m)) (receiver : Tree) (term : String) :
    (Tree.call callee [receiver, .literal (.str term)]).lexemes
      = receiver.lexemes ++ [.blank, .word "LIKE", .blank, .value (.str (matchPattern m term)), .blank,
        .word "ESCAPE", .blank, .mark] := by
  rw [lexemes, h, lexemesAll_eq_map, List.map_cons]
  rfl

end BoundQuery.Tree

namespace BoundQuery.Sql

/-! ## 3. What may stand next to what -/

/-- Whether `b` may stand right after `a`. -/
def Follows (a b : Lexeme) : Prop := a.isDelimiter = false → b.isBreak = true

instance (a b : Lexeme) : Decidable (Follows a b) :=
  inferInstanceAs (Decidable (a.isDelimiter = false → b.isBreak = true))

/-- Lexemes that part two others: what stands before them ends there, and they end in a delimiter. -/
structure Parts (sep : List Lexeme) : Prop where
  chain : sep.IsChain Follows
  first : ∃ l ls, sep = l :: ls ∧ l.isBreak = true
  last : ∀ l ∈ sep.getLast?, l.isDelimiter = true

theorem parts_blank : Parts [.blank] where
  chain := .singleton _
  first := ⟨.blank, [], rfl, rfl⟩
  last := by simp [Lexeme.isDelimiter]

theorem parts_comma : Parts [.comma, .blank] where
  chain := by decide
  first := ⟨.comma, [.blank], rfl, rfl⟩
  last := by simp [Lexeme.isDelimiter]

theorem parts_sign (sql : String) : Parts [.blank, .sign sql, .blank] where
  chain := by simp [Follows, Lexeme.isDelimiter, Lexeme.isBreak]
  first := ⟨.blank, _, rfl, rfl⟩
  last := by simp [Lexeme.isDelimiter]

theorem parts_word (keyword : String) : Parts [.blank, .word keyword, .blank] where
  chain := by simp [Follows, Lexeme.isDelimiter, Lexeme.isBreak]
  first := ⟨.blank, _, rfl, rfl⟩
  last := by simp [Lexeme.isDelimiter]

theorem isChain_append_of_break {as bs : List Lexeme} (ha : as.IsChain Follows)
    (hb : bs.IsChain Follows) (hfirst : ∀ l ∈ bs.head?, l.isBreak = true) :
    (as ++ bs).IsChain Follows :=
  ha.append hb fun _ _ _ hy _ => hfirst _ hy

theorem Parts.isChain_between {sep : List Lexeme} (hsep : Parts sep) {as bs : List Lexeme}
    (ha : as.IsChain Follows) (hb : bs.IsChain Follows) : (as ++ sep ++ bs).IsChain Follows := by
  obtain ⟨l, ls, rfl, hl⟩ := hsep.first
  refine (isChain_append_of_break ha hsep.chain ?_).append hb ?_
  · intro m hm
    simp only [List.head?_cons, Option.mem_some_iff] at hm
    exact hm ▸ hl
  · intro x hx y _ hdelim
    rw [List.getLast?_append_cons] at hx
    rw [hsep.last x hx] at hdelim
    cases hdelim

theorem Parts.isChain_intercalate {sep : List Lexeme} (hsep : Parts sep) :
    ∀ parts : List (List Lexeme), (∀ ls ∈ parts, ls.IsChain Follows) →
      (sep.intercalate parts).IsChain Follows
  | [], _ => by simp
  | [ls], h => by simpa using h ls (by simp)
  | ls :: ms :: parts, h => by
      have ih := hsep.isChain_intercalate (ms :: parts) fun ns hns => h ns (List.mem_cons_of_mem _ hns)
      rw [List.intercalate_cons_cons]
      exact hsep.isChain_between (h ls (by simp)) ih

theorem isChain_callLexemes (method : Option Method) (arguments : List Tree)
    (parts : List (List Lexeme)) (h : ∀ ls ∈ parts, ls.IsChain Follows) :
    (callLexemes method arguments parts).IsChain Follows := by
  unfold callLexemes
  split
  · rename_i receiver values
    have hvalues := parts_comma.isChain_intercalate values fun ls hls => h ls (by simp [hls])
    have hreceiver : List.IsChain Follows (receiver ++ [.blank, .word "IN", .blank, .opening]) :=
      isChain_append_of_break (h receiver (by simp)) (by decide) (by simp [Lexeme.isBreak])
    refine isChain_append_of_break (hreceiver.append hvalues ?_) (.singleton _) (by simp [Lexeme.isBreak])
    intro x hx y _ hdelim
    rw [List.getLast?_append_cons] at hx
    cases hx
    cases hdelim
  · rename_i receiver _
    exact isChain_append_of_break (h receiver (by simp))
      (by simp [Follows, Lexeme.isDelimiter, Lexeme.isBreak]) (by simp [Lexeme.isBreak])
  · exact .nil

end BoundQuery.Sql

namespace BoundQuery.Tree

open BoundQuery.Sql

/-- **In the text of a tree, whatever is not a delimiter ends at a blank, a comma or a closing
    parenthesis.** -/
theorem isChain_lexemes (t : Tree) : t.lexemes.IsChain Follows := by
  induction t using induct with
  | member name => exact .singleton _
  | literal value => exact .singleton _
  | binary operator left right hl hr => exact (parts_sign _).isChain_between hl hr
  | logical operator left right hl hr =>
    have hboth := (parts_word ((connectiveSql? operator).getD "")).isChain_between hl hr
    refine isChain_append_of_break (.cons ?_ ?_) (.singleton _) (by simp [Lexeme.isBreak])
    · exact hboth
    · intro y _ hdelim
      cases hdelim
  | unary operator operand h =>
    refine .cons_cons ?_ (.cons h ?_)
    · intro _
      rfl
    · intro y _ hdelim
      cases hdelim
  | call callee arguments h =>
    rw [lexemes, lexemesAll_eq_map]
    refine isChain_callLexemes _ _ _ fun ls hls => ?_
    obtain ⟨t, ht, rfl⟩ := List.mem_map.mp hls
    exact h t ht

end BoundQuery.Tree
