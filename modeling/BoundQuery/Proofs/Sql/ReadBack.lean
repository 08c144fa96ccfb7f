import BoundQuery.Proofs.Sql.Reader
import BoundQuery.Proofs.Sql.WellFormed

/-!
# Written predicates are read back

The text and the values of a formed tree determine the tree up to its grouping: reading them gives the
regrouped tree (`readBack_spell`). The induction is on grouped trees, for which the grammar has one way
to go at every word.

* `Tree.core` – the lexemes of a tree without blanks, one equation for each form of tree;
* `ReadsPredicate` and `ReadsOperand` – what reading a tree means, wherever it may end;
* `Legible` holds of the styles known from the start (`legible_standard`), and `PlainWord` of field
  names (`plainWord_of_isFieldName`);
* `fault?_eq_none_iff_callDepth` – a formed tree is written unless it is nested too deeply.
-/

namespace BoundQuery

open BoundQuery.Sql

/-! ## 1. The lexemes of a formed tree -/

theorem Comparison.sql_mem_signs (c : Comparison) : c.sql ∈ signs := by cases c <;> decide

theorem Connective.spelling_mem_keywords (c : Connective) : c.spelling ∈ keywords := by
  cases c <;> decide

theorem Comparison.ofSql?_sql (c : Comparison) : Comparison.ofSql? c.sql = some c := by cases c <;> rfl

theorem Connective.ofWord?_spelling (c : Connective) : Connective.ofWord? c.spelling = some c := by
  cases c <;> rfl

namespace Sql

/-- The values of a membership test with commas between them. -/
def listed : List Literal → List Lexeme
  | [] => []
  | [v] => [.value v]
  | v :: vs => .value v :: .comma :: listed vs

theorem bare_intercalate_values : ∀ vs : List Literal,
    bare (List.intercalate [.comma, .blank] (vs.map fun v => [.value v])) = listed vs
  | [] => rfl
  | [v] => rfl
  | v :: w :: vs => by
      have ih := bare_intercalate_values (w :: vs)
      rw [List.map_cons] at ih
      rw [List.map_cons, List.map_cons, List.intercalate_cons_cons, bare_append, ih]
      rfl

theorem clear_listed : ∀ (vs : List Literal), ∀ l ∈ listed vs, l.Clear
  | [] => by simp [listed]
  | [v] => by simp [listed, Lexeme.Clear]
  | v :: w :: vs => by
      have ih := clear_listed (w :: vs)
      simp only [listed, List.forall_mem_cons]
      exact ⟨trivial, trivial, ih⟩

theorem clear_of_bare {ls : List Lexeme} (h : ∀ l ∈ bare ls, l.Clear) : ∀ l ∈ ls, l.Clear := by
  intro l hl
  by_cases hblank : l = .blank
  · rw [hblank]
    trivial
  · exact h l (List.mem_filter.mpr ⟨hl, by simpa using hblank⟩)

end Sql

namespace Tree

/-- The lexemes of a tree without the blanks between them. -/
def core (t : Tree) : List Lexeme := bare t.lexemes

@[simp] theorem core_member (name : String) : (Tree.member name).core = [.plain name] := rfl

@[simp] theorem core_literal (value : Literal) : (Tree.literal value).core = [.value value] := rfl

@[simp] theorem core_compare (c : Comparison) (left right : Tree) :
    (Tree.compare c left right).core = left.core ++ .sign c.sql :: right.core := by
  simp [core]

@[simp] theorem core_connect (c : Connective) (left right : Tree) :
    (Tree.connect c left right).core
      = .opening :: (left.core ++ .word c.spelling :: (right.core ++ [.closing])) := by
  simp [core]

@[simp] theorem core_negate (t : Tree) : t.negate.core = .word "NOT" :: t.core := by
  simp [core]

@[simp] theorem core_membership (name : String) (values : List Literal) :
    (Tree.membership name (values.map .literal)).core
      = .plain name :: .word "IN" :: .opening :: (listed values ++ [.closing]) := by
  simp [core, bare_intercalate_values]

@[simp] theorem core_pattern (m : Match) (name term : String) :
    (Tree.pattern m name term).core
      = [.plain name, .word "LIKE", .value (.str (matchPattern m term)), .word "ESCAPE", .mark] := by
  simp [core]

theorem Formed.clear_core {t : Tree} (ht : t.Formed PlainWord) : ∀ l ∈ t.core, l.Clear := by
  induction ht with
  | member hname => simpa [Lexeme.Clear] using hname
  | literal value => simp [Lexeme.Clear]
  | compare c _ _ hl hr =>
    rw [core_compare, List.forall_mem_append, List.forall_mem_cons]
    exact ⟨hl, c.sql_mem_signs, hr⟩
  | connect c _ _ hl hr =>
    simp only [core_connect, List.forall_mem_append, List.forall_mem_cons]
    exact ⟨trivial, hl, c.spelling_mem_keywords, hr, by simp [Lexeme.Clear]⟩
  | negate _ h =>
    have hword : "NOT" ∈ keywords := by decide
    rw [core_negate, List.forall_mem_cons]
    exact ⟨hword, h⟩
  | membership hname first rest =>
    have hword : "IN" ∈ keywords := by decide
    simp only [core_membership, List.forall_mem_append, List.forall_mem_cons]
    exact ⟨hname, hword, trivial, clear_listed _, by simp [Lexeme.Clear]⟩
  | pattern m hname term =>
    have hlike : "LIKE" ∈ keywords := by decide
    have hescape : "ESCAPE" ∈ keywords := by decide
    simpa [Lexeme.Clear] using ⟨hname, hlike, hescape⟩

/-- Formed trees are nested no deeper than they are long. -/
theorem Formed.height_le_length {named : String → Prop} {t : Tree} (ht : t.Formed named) :
    t.height ≤ t.core.length := by
  induction ht with
  | member _ => simp
  | literal value => simp
  | compare c _ _ hl hr =>
    simp only [core_compare, List.length_append, List.length_cons, height_compare]
    omega
  | connect c _ _ hl hr =>
    simp only [core_connect, List.length_append, List.length_cons, height_connect]
    omega
  | negate _ h =>
    simp only [core_negate, List.length_cons, height_negate]
    omega
  | membership hname first rest =>
    simp only [core_membership, List.length_append, List.length_cons, height_membership]
    omega
  | pattern m hname term => simp

end Tree

/-! ## 2. Reading the core of a grouped tree -/

namespace Sql

/-- What may follow an operand: nothing that makes it the field of a test. -/
def EndsOperand (rest : List Lexeme) : Prop :=
  rest.head? ≠ some (.word "IN") ∧ rest.head? ≠ some (.word "LIKE")

/-- What may follow a predicate: nothing that makes it longer. -/
def EndsPredicate (rest : List Lexeme) : Prop :=
  EndsOperand rest ∧ ∀ sql, rest.head? ≠ some (.sign sql)

theorem endsPredicate_nil : EndsPredicate [] := ⟨⟨by simp, by simp⟩, by simp⟩

theorem endsPredicate_closing (rest : List Lexeme) : EndsPredicate (.closing :: rest) :=
  ⟨⟨by simp, by simp⟩, by simp⟩

theorem endsPredicate_connective (c : Connective) (rest : List Lexeme) :
    EndsPredicate (.word c.spelling :: rest) := by
  cases c <;> exact ⟨⟨by simp [Connective.spelling], by simp [Connective.spelling]⟩, by simp⟩

theorem endsOperand_sign (sql : String) (rest : List Lexeme) : EndsOperand (.sign sql :: rest) :=
  ⟨by simp, by simp⟩

theorem readValues_listed (rest : List Lexeme) : ∀ (v : Literal) (vs : List Literal),
    readValues (listed (v :: vs) ++ .closing :: rest) = some ((v :: vs).map .literal, rest)
  | v, [] => rfl
  | v, w :: vs => by
      have ih := readValues_listed rest w vs
      simp [listed, readValues, ih]

theorem readField_member {name : String} {rest : List Lexeme} (h : EndsOperand rest) :
    readField name rest = some (.member name, rest) := by
  unfold readField
  split
  · exact absurd rfl h.1
  · exact absurd rfl h.2
  · rfl

theorem readComparison_end {predicate : List Lexeme → Option (Tree × List Lexeme)} {left : Tree}
    {rest : List Lexeme} (h : EndsPredicate rest) :
    readComparison predicate left rest = some (left, rest) := by
  unfold readComparison
  split
  · exact absurd rfl (h.2 _)
  · rfl

/-- A predicate that opens with an operand. -/
theorem readPredicate_of_operand {room : Nat} {ls rest : List Lexeme} {left : Tree}
    (h : readOperand (readPredicate room) ls = some (left, rest)) :
    readPredicate (room + 1) ls = readComparison (readPredicate room) left rest := by
  unfold readPredicate
  split
  · rename_i heq
    cases heq
  · cases h
  · rename_i heq _
    cases heq
    rw [h]
    rfl

/-- A tree is read as a predicate, wherever one may end. -/
def ReadsPredicate (t : Tree) : Prop :=
  ∀ (room : Nat) (rest : List Lexeme), t.height ≤ room → EndsPredicate rest →
    readPredicate room (t.core ++ rest) = some (t, rest)

/-- A tree is read as an operand, wherever one may end. -/
def ReadsOperand (t : Tree) : Prop :=
  ∀ (room : Nat) (rest : List Lexeme), t.height ≤ room + 1 → EndsOperand rest →
    readOperand (readPredicate room) (t.core ++ rest) = some (t, rest)

theorem ReadsOperand.predicate {t : Tree} (h : ReadsOperand t) : ReadsPredicate t := by
  intro room rest hroom hrest
  cases room with
  | zero => exact absurd hroom (Nat.not_le_of_lt t.height_pos)
  | succ room => rw [readPredicate_of_operand (h room rest hroom hrest.1), readComparison_end hrest]

theorem readsOperand_member (name : String) : ReadsOperand (.member name) := by
  intro room rest _ hrest
  exact readField_member hrest

theorem readsOperand_literal (value : Literal) : ReadsOperand (.literal value) := by
  intro room rest _ _
  rfl

theorem readsOperand_connect (c : Connective) {left right : Tree} (hl : ReadsPredicate left)
    (hr : ReadsPredicate right) : ReadsOperand (.connect c left right) := by
  intro room rest hroom _
  rw [Tree.height_connect] at hroom
  have hleft := hl room (.word c.spelling :: (right.core ++ .closing :: rest)) (by omega)
    (endsPredicate_connective c _)
  have hright := hr room (.closing :: rest) (by omega) (endsPredicate_closing rest)
  have hlexemes : (Tree.connect c left right).core ++ rest
      = .opening :: (left.core ++ .word c.spelling :: (right.core ++ .closing :: rest)) := by simp
  rw [hlexemes, readOperand, readJoined, hleft]
  simp [Connective.ofWord?_spelling, hright]

theorem readsOperand_membership (name : String) (first : Literal) (others : List Literal) :
    ReadsOperand (.membership name ((first :: others).map .literal)) := by
  intro room rest _ _
  have hlexemes : (Tree.membership name ((first :: others).map .literal)).core ++ rest
      = .plain name :: .word "IN" :: .opening :: (listed (first :: others) ++ .closing :: rest) := by
    rw [Tree.core_membership]
    simp
  rw [hlexemes, readOperand, readField, readMembership, readValues_listed]
  rfl

theorem readsOperand_pattern {m : Match} {name term : String} (h : term = "" → m = .starts) :
    ReadsOperand (.pattern m name term) := by
  intro room rest _ _
  rw [Tree.core_pattern]
  simp [readOperand, readField, readMatch, unpattern?_matchPattern h]

theorem readsPredicate_compare (c : Comparison) {left right : Tree} (hl : ReadsOperand left)
    (hr : ReadsPredicate right) : ReadsPredicate (.compare c left right) := by
  intro room rest hroom hrest
  rw [Tree.height_compare] at hroom
  cases room with
  | zero => omega
  | succ room =>
    have hleft := hl room (.sign c.sql :: (right.core ++ rest)) (by omega) (endsOperand_sign c.sql _)
    have hright := hr room rest (by omega) hrest
    rw [Tree.core_compare, List.append_assoc, List.cons_append, readPredicate_of_operand hleft]
    simp [readComparison, Comparison.ofSql?_sql, hright]

theorem readsPredicate_negate {t : Tree} (h : ReadsPredicate t) : ReadsPredicate t.negate := by
  intro room rest hroom hrest
  rw [Tree.height_negate] at hroom
  cases room with
  | zero => omega
  | succ room =>
    have hoperand := h room rest (by omega) hrest
    rw [Tree.core_negate, List.cons_append, readPredicate, hoperand]
    rfl

/-- **A grouped tree is read from its core.** -/
theorem reads_of_grouped {named : String → Prop} {t : Tree} (ht : t.Formed named) (hg : t.Grouped) :
    ReadsPredicate t ∧ (t.isCompound = false → ReadsOperand t) := by
  induction ht with
  | member _ => exact ⟨(readsOperand_member _).predicate, fun _ => readsOperand_member _⟩
  | literal value => exact ⟨(readsOperand_literal _).predicate, fun _ => readsOperand_literal _⟩
  | compare c _ _ ihl ihr =>
    obtain ⟨hcompound, hl, hr⟩ := hg
    exact ⟨readsPredicate_compare c ((ihl hl).2 hcompound) (ihr hr).1, fun h => by cases h⟩
  | connect c _ _ ihl ihr =>
    have hread := readsOperand_connect c (ihl hg.1).1 (ihr hg.2).1
    exact ⟨hread.predicate, fun _ => hread⟩
  | negate _ ih => exact ⟨readsPredicate_negate (ih hg).1, fun h => by cases h⟩
  | @membership name _ first rest =>
    have hread := readsOperand_membership name first rest
    exact ⟨hread.predicate, fun _ => hread⟩
  | @pattern m name _ term =>
    have hread : ReadsOperand (.pattern m name term) :=
      readsOperand_pattern (Tree.grouped_pattern.mp hg)
    exact ⟨hread.predicate, fun _ => hread⟩

/-- **The text and values of a formed tree are read as the regrouped tree.** -/
theorem readBack_spell {place : Nat → String} (hplace : Legible place) {t : Tree}
    (ht : t.Formed PlainWord) :
    readBack place (spell place 0 t.lexemes) (values t.lexemes).toArray = some t.regrouped := by
  have hclear := clear_of_bare ht.clear_core
  have hread := (reads_of_grouped ht.regrouped (Tree.grouped_regrouped ht)).1
    (t.regrouped.core.length + 1) [] (Nat.le_succ_of_le ht.regrouped.height_le_length)
    endsPredicate_nil
  have hcore : bare t.lexemes = t.regrouped.core := by rw [Tree.core, Tree.lexemes_regrouped]
  rw [List.append_nil] at hread
  rw [readBack, words_spell hplace 0 _ t.isChain_lexemes hclear]
  simp only [lexemesOf_wordsOf hplace 0 _ hclear, hcore, Option.bind_eq_bind, Option.bind_some, hread]

/-! ## 3. Placeholders and names that can be told apart -/

theorem legible_qmark : Legible Style.qmark.place := by
  have h : LegibleWord "?" := ⟨by decide, by decide, by decide, by decide⟩
  exact fun _ => h

theorem legible_format : Legible Style.format.place := by
  have h : LegibleWord "%s" := ⟨by decide, by decide, by decide, by decide⟩
  exact fun _ => h

theorem isDelimiterChar_of_isDigit {c : Char} (h : c.isDigit = true) : isDelimiterChar c = false := by
  cases hd : isDelimiterChar c with
  | false => rfl
  | true =>
    simp only [isDelimiterChar, Bool.or_eq_true, beq_iff_eq] at hd
    rcases hd with ((rfl | rfl) | rfl) | rfl <;> cases h

theorem legible_numeric : Legible Style.numeric.place := by
  intro k
  have hchars : (Style.numeric.place (k + 1)).toList = ':' :: Nat.toDigits 10 (k + 1) := by
    simp [Style.numeric, Nat.repr]
  have hhead : (Style.numeric.place (k + 1)).toList.head? = some ':' := by
    rw [hchars, List.head?_cons]
  have hdigits : (Nat.toDigits 10 (k + 1)).any isDelimiterChar = false := by
    rw [List.any_eq_false]
    intro c hc
    rw [isDelimiterChar_of_isDigit (Nat.isDigit_of_mem_toDigits (by decide) (by decide) hc)]
    exact Bool.false_ne_true
  refine ⟨?_, ?_, fun hsign => ?_, fun hmark => ?_⟩
  · rw [hchars, List.any_cons, hdigits]
    rfl
  · rw [hchars, List.any_cons]
    rfl
  · have hsigns : ∀ s ∈ signs, s.toList.head? ≠ some ':' := by decide
    exact hsigns _ hsign hhead
  · rw [hmark] at hhead
    cases hhead

/-- The styles known from the start are legible. -/
theorem legible_standard : ∀ entry ∈ StyleBook.standard.entries, Legible entry.2.place := by
  simp only [StyleBook.standard, List.forall_mem_cons]
  exact ⟨legible_format, legible_numeric, legible_qmark, by simp⟩

theorem isPunctuation_eq_false {c : Char} (h : c.toNat < 0x80 → c.isAlphanum = true ∨ c = '_') :
    isPunctuation c = false := by
  by_cases hascii : c.toNat < 0x80
  · rcases h hascii with halphanum | rfl
    · simp [isPunctuation, halphanum]
    · decide
  · simp [isPunctuation, hascii]

theorem isPunctuation_of_starts {c : Char} (h : Text.startsIdentifier c = true) :
    isPunctuation c = false := by
  refine isPunctuation_eq_false fun hascii => ?_
  rw [Text.startsIdentifier, if_pos hascii, Bool.or_eq_true, beq_iff_eq] at h
  exact h.imp_left fun halpha => by rw [Char.isAlphanum, halpha, Bool.true_or]

theorem isPunctuation_of_continues {c : Char} (h : Text.continuesIdentifier c = true) :
    isPunctuation c = false := by
  refine isPunctuation_eq_false fun hascii => ?_
  rw [Text.continuesIdentifier, if_pos hascii, Bool.or_eq_true, beq_iff_eq] at h
  exact h

theorem plain_identifier (id : Text.Identifier) :
    id.text.toList ≠ [] ∧ id.text.toList.any isPunctuation = false := by
  have h := id.valid
  unfold Text.isIdentifier Text.isIdentifierChars at h
  split at h
  · cases h
  · rename_i c cs hs
    rw [Bool.and_eq_true, List.all_eq_true] at h
    rw [hs]
    refine ⟨List.cons_ne_nil c cs, ?_⟩
    rw [List.any_cons, isPunctuation_of_starts h.1, Bool.false_or, List.any_eq_false]
    intro d hd
    rw [isPunctuation_of_continues (h.2 d hd)]
    exact Bool.false_ne_true

theorem plain_of_intercalate : ∀ parts : List String,
    (∀ part ∈ parts, part.toList.any isPunctuation = false) →
      (".".intercalate parts).toList.any isPunctuation = false
  | [], _ => rfl
  | [part], h => by simpa only [String.intercalate_singleton] using h part (by simp)
  | part :: next :: parts, h => by
      have ih := plain_of_intercalate (next :: parts) fun p hp => h p (List.mem_cons_of_mem _ hp)
      have hpart := h part (by simp)
      have hdot : ".".toList.any isPunctuation = false := by decide
      rw [String.intercalate_cons_cons, String.toList_append, String.toList_append, List.any_append,
        List.any_append, hpart, hdot, ih]
      rfl

theorem toList_ne_nil_of_isFieldName {name : String} (h : IsFieldName name) : name.toList ≠ [] := by
  obtain ⟨first, rest, rfl⟩ := h
  have hfirst := (plain_identifier first).1
  cases rest with
  | nil => simpa using hfirst
  | cons next rest => simp [String.intercalate_cons_cons, hfirst]

theorem plain_of_isFieldName {name : String} (h : IsFieldName name) :
    name.toList.any isPunctuation = false := by
  obtain ⟨first, rest, rfl⟩ := h
  refine plain_of_intercalate _ fun part hpart => ?_
  obtain ⟨id, _, rfl⟩ := List.mem_map.mp hpart
  exact (plain_identifier id).2

/-- **A field name that is no keyword is a plain word.** -/
theorem plainWord_of_isFieldName {name : String} (h : IsFieldName name) (hkeyword : name ∉ keywords) :
    PlainWord name :=
  ⟨toList_ne_nil_of_isFieldName h, plain_of_isFieldName h, hkeyword⟩

/-! ## 4. Formed trees are written -/

/-- **A formed tree is written unless it is nested too deeply.** -/
theorem fault?_eq_none_iff_callDepth {named : String → Prop} {t : Tree} (ht : t.Formed named) (room : Nat) :
    fault? room t = none ↔ t.callDepth ≤ room := by
  rw [ht.wellFormed.fault?_eq room]
  simp

end Sql

end BoundQuery
