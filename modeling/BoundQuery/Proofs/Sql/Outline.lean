import BoundQuery.Proofs.Sql.Writing
import BoundQuery.Query.Session

/-!
# Outlines of statements

A query has an outline, which no placeholder style plays a part in: the lexemes of its statement, or
what stops it from being compiled. Compiling in a style spells the outline in that style and binds the
values of the outline (`Wanted.statement_eq`), so that whatever holds of the outline holds of the
statement in every style.

* `Descriptor.fault?` – the first fault, of the filter before the having clause;
* `Descriptor.bodyParts` – the clauses from the table up to the having clause;
* `Wanted.outline` – the lexemes of a whole statement.
-/

namespace BoundQuery

open BoundQuery.Sql

namespace Sql

/-! ## 1. Lists of clauses -/

/-- Clauses that stand as they are. -/
def plainParts (texts : List String) : List (List Lexeme) := texts.map fun text => [.plain text]

theorem values_plainParts : ∀ texts : List String, values (plainParts texts).flatten = []
  | [] => rfl
  | text :: texts => by
      have ih := values_plainParts texts
      simpa [plainParts] using ih

theorem spellEach_plainParts (place : Nat → String) (n : Nat) :
    ∀ texts : List String, spellEach place n (plainParts texts) = texts
  | [] => rfl
  | text :: texts => by
      have ih := spellEach_plainParts place n texts
      simpa [plainParts, spellEach] using ih

theorem spellEach_append (place : Nat → String) : ∀ (n : Nat) (as bs : List (List Lexeme)),
    spellEach place n (as ++ bs)
      = spellEach place n as ++ spellEach place (n + (values as.flatten).length) bs
  | n, [], bs => by simp [spellEach]
  | n, ls :: as, bs => by
      have ih := spellEach_append place (n + (values ls).length) as bs
      simp [spellEach, ih, Nat.add_assoc]

/-! ## 2. Clauses of a predicate -/

/-- The clause of a predicate. -/
def predicatePart (keyword : String) (t : Tree) : List Lexeme := .word keyword :: .blank :: t.lexemes

/-- The clause of a predicate, if there is one. -/
def predicateParts (keyword : String) (tree : Option Tree) : List (List Lexeme) :=
  (tree.map (predicatePart keyword)).toList

/-- What stops a clause from being written. -/
def clauseFault? [Limits] (keyword : String) (tree : Option Tree) : Option CompileError :=
  (tree.bind (Sql.fault? Limits.writing)).map (⟨·, some keyword⟩)

theorem predicateClause_ok [Limits] {keyword : String} {tree : Option Tree}
    (h : clauseFault? keyword tree = none) (place : Nat → String) (bound : Array Literal) :
    predicateClause place keyword tree bound
      = .ok (spellEach place bound.size (predicateParts keyword tree),
          bound ++ (values (predicateParts keyword tree).flatten).toArray) := by
  cases tree with
  | none => simp [predicateClause, predicateParts, spellEach]
  | some t =>
    have hf : Sql.fault? Limits.writing t = none := by simpa [clauseFault?] using h
    rw [predicateClause, writeOnto_ok hf]
    simp [predicateParts, predicatePart, spellEach, String.append_assoc]

theorem predicateClause_error [Limits] {keyword : String} {tree : Option Tree} {e : CompileError}
    (h : clauseFault? keyword tree = some e) (place : Nat → String) (bound : Array Literal) :
    predicateClause place keyword tree bound = .error (.compile e) := by
  cases tree with
  | none => simp [clauseFault?] at h
  | some t =>
    obtain ⟨f, hf, rfl⟩ : ∃ f, Sql.fault? Limits.writing t = some f ∧ ⟨f, some keyword⟩ = e := by
      simpa [clauseFault?] using h
    obtain ⟨extra, hw⟩ := writeOnto_error hf place (some keyword)
    rw [predicateClause, hw bound]

end Sql

/-! ## 3. The body of a statement -/

namespace Descriptor

/-- What stops a query from being compiled. -/
def fault? [Limits] (d : Descriptor) : Option CompileError :=
  (clauseFault? "WHERE" d.filter).or (clauseFault? "HAVING" d.having)

/-- The clauses from the table up to the having clause. -/
def bodyParts (d : Descriptor) : List (List Lexeme) :=
  plainParts (["FROM " ++ d.table] ++ d.joins.map joinClause)
    ++ predicateParts "WHERE" d.filter
    ++ plainParts (d.groupKey.map fun key => "GROUP BY " ++ key).toList
    ++ predicateParts "HAVING" d.having

end Descriptor

namespace Sql

theorem body_error [Limits] {d : Descriptor} {e : CompileError} (h : d.fault? = some e)
    (place : Nat → String) : body place d = .error (.compile e) := by
  rw [body]
  cases hw : clauseFault? "WHERE" d.filter with
  | some e' =>
    rw [Descriptor.fault?, hw, Option.some_or, Option.some.injEq] at h
    rw [predicateClause_error hw, h]
    rfl
  | none =>
    rw [Descriptor.fault?, hw, Option.none_or] at h
    rw [predicateClause_ok hw]
    simp only [bind, Except.bind]
    rw [predicateClause_error h]

theorem body_ok [Limits] {d : Descriptor} (h : d.fault? = none) (place : Nat → String) :
    body place d = .ok (spellEach place 0 d.bodyParts, (values d.bodyParts.flatten).toArray) := by
  obtain ⟨hw, hh⟩ := Option.or_eq_none_iff.mp h
  rw [body, predicateClause_ok hw]
  simp only [bind, Except.bind, pure, Except.pure]
  rw [predicateClause_ok hh]
  simp [Descriptor.bodyParts, spellEach_append, spellEach_plainParts, values_plainParts]

/-! ## 4. Whole statements -/

/-- The statement with the given lexemes, in a style. -/
def Statement.ofLexemes (style : Style) (ls : List Lexeme) : Statement :=
  ⟨spell style.place 0 ls, (Sql.values ls).toArray, style.reported⟩

/-- Clauses that stand as they are, around others, make up one statement. -/
theorem ofLexemes_around (style : Style) (before after : List String) (parts : List (List Lexeme)) :
    Statement.ofLexemes style (List.intercalate [.blank] (plainParts before ++ parts ++ plainParts after))
      = ⟨" ".intercalate (before ++ spellEach style.place 0 parts ++ after),
          (values parts.flatten).toArray, style.reported⟩ := by
  have hspell (ps : List (List Lexeme)) : spell style.place 0 (List.intercalate [.blank] ps)
      = " ".intercalate (spellEach style.place 0 ps) :=
    spell_intercalate style.place rfl (fun _ => rfl) 0 ps
  rw [Statement.ofLexemes, hspell, values_intercalate rfl]
  simp [spellEach_append, spellEach_plainParts, values_plainParts]

end Sql

namespace Wanted

/-- All clauses of a statement. An integer too long to be written stops the clause it stands in. -/
def parts (wanted : Wanted) (d : Descriptor) : Except Failure (List (List Lexeme)) :=
  match wanted with
  | .rows => do
      let limit ← boundClause .limit d.limit
      let offset ← boundClause .offset d.offset
      return plainParts [selectClause d.projection] ++ d.bodyParts
        ++ plainParts (orderClause d.ordering ++ limit ++ offset)
  | .count => .ok (plainParts ["SELECT COUNT(*)"] ++ d.bodyParts ++ plainParts [])

/-- The lexemes of a statement, or what stops it. -/
def outline [Limits] (wanted : Wanted) (d : Descriptor) : Except Failure (List Lexeme) :=
  match d.fault? with
  | some e => .error (.compile e)
  | none => (wanted.parts d).map (List.intercalate [.blank])

theorem select_eq [Limits] {d : Descriptor} (h : d.fault? = none) (style : Style) :
    Sql.select style d = ((rows.parts d).map (List.intercalate [.blank])).map (.ofLexemes style) := by
  rw [Sql.select, body_ok h, parts]
  cases boundClause .limit d.limit with
  | error e => rfl
  | ok limit =>
    cases boundClause .offset d.offset with
    | error e => rfl
    | ok offset =>
      have hall := ofLexemes_around style [selectClause d.projection]
        (orderClause d.ordering ++ limit ++ offset) d.bodyParts
      show Except.ok _ = Except.ok _
      rw [hall]
      simp only [List.append_assoc]

theorem count_eq [Limits] {d : Descriptor} (h : d.fault? = none) (style : Style) :
    Sql.count style d = ((count.parts d).map (List.intercalate [.blank])).map (.ofLexemes style) := by
  have hall := ofLexemes_around style ["SELECT COUNT(*)"] [] d.bodyParts
  rw [Sql.count, body_ok h, parts]
  show Except.ok _ = Except.ok _
  rw [hall, List.append_nil]
  rfl

/-- **Compiling is spelling an outline that does not depend on the style.** -/
theorem statement_eq [Limits] (wanted : Wanted) (style : Style) (d : Descriptor) :
    wanted.statement style d = (wanted.outline d).map (.ofLexemes style) := by
  rw [outline]
  cases h : d.fault? with
  | some e =>
    cases wanted with
    | rows => rw [statement, Sql.select, body_error h]; rfl
    | count => rw [statement, Sql.count, body_error h]; rfl
  | none =>
    cases wanted with
    | rows => exact select_eq h style
    | count => exact count_eq h style

/-- The clauses of a statement are those of the body between others that stand as they are. -/
theorem exists_of_outline [Limits] {wanted : Wanted} {d : Descriptor} {ls : List Lexeme}
    (h : wanted.outline d = .ok ls) : d.fault? = none ∧ ∃ before after : List String,
      ls = List.intercalate [.blank] (plainParts before ++ d.bodyParts ++ plainParts after) := by
  rw [outline] at h
  cases hf : d.fault? with
  | some e => simp [hf] at h
  | none =>
    refine ⟨rfl, ?_⟩
    rw [hf] at h
    cases wanted with
    | count =>
      cases h
      exact ⟨["SELECT COUNT(*)"], [], rfl⟩
    | rows =>
      simp only [parts] at h
      cases hl : boundClause .limit d.limit with
      | error e => rw [hl] at h; cases h
      | ok limit =>
        cases ho : boundClause .offset d.offset with
        | error e => rw [hl, ho] at h; cases h
        | ok offset =>
          rw [hl, ho] at h
          cases h
          exact ⟨_, _, rfl⟩

end Wanted

/-! ## 5. Compiling in a session -/

namespace Session

/-- Compiling looks up the style and spells the outline in it. -/
theorem compile_answer [Limits] (s : Session) (wanted : Wanted) (name : Literal) (d : Descriptor) :
    (s.compile wanted name d).2
      = match s.styles.ask name, wanted.outline d with
        | .error failure, _ => .failed failure
        | .ok _, .error failure => .failed failure
        | .ok style, .ok ls => .statement (.ofLexemes style ls) := by
  rw [compile]
  cases hask : s.styles.ask name with
  | error e => rfl
  | ok style =>
    have hbind : (Except.ok style >>= fun style => wanted.statement style d)
        = (wanted.outline d).map (.ofLexemes style) := wanted.statement_eq style d
    rw [hbind]
    cases wanted.outline d with
    | error e => rfl
    | ok ls => rfl

/-- A query is compiled exactly if its style is known and nothing stops its outline. -/
theorem compile_eq_statement_iff [Limits] {s : Session} {wanted : Wanted} {name : Literal} {d : Descriptor}
    {answer : Sql.Statement} :
    (s.compile wanted name d).2 = .statement answer ↔
      ∃ style ls, s.styles.ask name = .ok style ∧ wanted.outline d = .ok ls ∧
        answer = .ofLexemes style ls := by
  rw [compile_answer]
  cases s.styles.ask name with
  | error e => simp
  | ok style => cases wanted.outline d <;> simp [eq_comm]

end Session

end BoundQuery
