import BoundQuery.Proofs.Sql.ReadBack

/-!
# Guarded trees are read back as they were

In a guarded tree nothing is compared but fields, literals and connectives, and calls test a field
against literals. Such a tree is grouped as SQL groups it (`Tree.grouped_of_guarded`), so that its text
and values determine it.
-/

namespace BoundQuery

open BoundQuery.Sql

/-! ## 1. Guarded trees -/

namespace Tree

/-- Whether a tree is a field, a literal or a connective. -/
def isGuardedOperand : Tree → Bool
  | .member _ => true
  | .literal _ => true
  | .logical .. => true
  | _ => false

/-- Whether a tree is over the operators and callees of SQL, compares only fields, literals and
    connectives, and calls only on fields and with literals. -/
def guarded : Tree → Bool
  | .member _ => true
  | .literal _ => true
  | .binary operator left right =>
      (comparisonSql? operator).isSome && left.isGuardedOperand && right.isGuardedOperand
        && guarded left && guarded right
  | .logical operator left right => (connectiveSql? operator).isSome && guarded left && guarded right
  | .unary operator operand => (unarySql? operator).isSome && guarded operand
  | .call callee arguments =>
      match Method.ofSpelling? callee, arguments with
      | some .membership, .member _ :: first :: rest => (first :: rest).all isLiteral
      | some (.pattern _), [.member _, .literal (.str _)] => true
      | _, _ => false

mutual

/-- The search terms of the text matches in a tree. -/
def terms : Tree → List String
  | .member _ => []
  | .literal _ => []
  | .binary _ left right => terms left ++ terms right
  | .logical _ left right => terms left ++ terms right
  | .unary _ operand => terms operand
  | .call callee arguments =>
      (match Method.ofSpelling? callee, arguments with
        | some (.pattern _), [_, .literal (.str term)] => [term]
        | _, _ => []) ++ termsAll arguments

/-- The search terms in several trees. -/
def termsAll : List Tree → List String
  | [] => []
  | t :: ts => terms t ++ termsAll ts

end

/-- A guarded tree whose names are those of fields and no keywords, and whose terms are not empty. -/
structure Readable (t : Tree) : Prop where
  guarded : t.guarded = true
  names : ∀ name ∈ t.names, IsFieldName name ∧ name ∉ keywords
  terms : ∀ term ∈ t.terms, term ≠ ""

/-- A guarded call is a membership test or a text match of a field. -/
theorem call_of_guarded {callee : String} {arguments : List Tree}
    (h : (Tree.call callee arguments).guarded = true) :
    (∃ name first rest, Tree.call callee arguments = .membership name ((first :: rest).map .literal)) ∨
      (∃ m name term, Tree.call callee arguments = .pattern m name term) := by
  unfold guarded at h
  split at h
  · rename_i name first rest hcallee
    obtain ⟨vs, hvs⟩ := exists_literals h
    cases vs with
    | nil => cases hvs
    | cons v vs =>
      rw [Method.spelling_of_ofSpelling? hcallee, hvs]
      exact .inl ⟨name, v, vs, rfl⟩
  · rename_i m name term hcallee
    rw [Method.spelling_of_ofSpelling? hcallee]
    exact .inr ⟨m, name, term, rfl⟩
  · cases h

theorem isCompound_of_isGuardedOperand {t : Tree} (h : t.isGuardedOperand = true) :
    t.isCompound = false := by
  cases t with
  | binary => cases h
  | unary => cases h
  | _ => rfl

theorem formed_of_guarded {t : Tree} (h : t.guarded = true) : t.Formed fun _ => True := by
  induction t using induct with
  | member name => exact .member trivial
  | literal value => exact .literal value
  | binary operator left right ihl ihr =>
    simp only [guarded, Bool.and_eq_true] at h
    obtain ⟨⟨⟨⟨hoperator, _⟩, _⟩, hl⟩, hr⟩ := h
    obtain ⟨c, rfl⟩ := exists_comparison hoperator
    exact .compare c (ihl hl) (ihr hr)
  | logical operator left right ihl ihr =>
    simp only [guarded, Bool.and_eq_true] at h
    obtain ⟨⟨hoperator, hl⟩, hr⟩ := h
    obtain ⟨c, rfl⟩ := exists_connective hoperator
    exact .connect c (ihl hl) (ihr hr)
  | unary operator operand ih =>
    simp only [guarded, Bool.and_eq_true] at h
    rw [eq_negation h.1]
    exact .negate (ih h.2)
  | call callee arguments _ =>
    rcases call_of_guarded h with ⟨name, first, rest, hcall⟩ | ⟨m, name, term, hcall⟩
    · rw [hcall]
      exact .membership trivial first rest
    · rw [hcall]
      exact .pattern m trivial term

theorem grouped_of_guarded {t : Tree} (h : t.guarded = true) (hterms : ∀ term ∈ t.terms, term ≠ "") :
    t.Grouped := by
  induction t using induct with
  | member name => trivial
  | literal value => trivial
  | binary operator left right ihl ihr =>
    simp only [guarded, Bool.and_eq_true] at h
    obtain ⟨⟨⟨⟨_, hoperand⟩, _⟩, hl⟩, hr⟩ := h
    exact ⟨isCompound_of_isGuardedOperand hoperand,
      ihl hl fun term ht => hterms term (by simp [terms, ht]),
      ihr hr fun term ht => hterms term (by simp [terms, ht])⟩
  | logical operator left right ihl ihr =>
    simp only [guarded, Bool.and_eq_true] at h
    exact ⟨ihl h.1.2 fun term ht => hterms term (by simp [terms, ht]),
      ihr h.2 fun term ht => hterms term (by simp [terms, ht])⟩
  | unary operator operand ih =>
    simp only [guarded, Bool.and_eq_true] at h
    exact ih h.2 fun term ht => hterms term (by simp [terms, ht])
  | call callee arguments _ =>
    rcases call_of_guarded h with ⟨name, first, rest, hcall⟩ | ⟨m, name, term, hcall⟩
    · rw [hcall]
      exact settledCallee_membership name _
    · rw [hcall] at hterms ⊢
      have hm : Method.ofSpelling? m.spelling = some (.pattern m) :=
        Method.ofSpelling?_spelling (.pattern m)
      have hterm : term ≠ "" := hterms term (by simp [Tree.pattern, terms, hm])
      exact grouped_pattern.mpr fun hempty => absurd hempty hterm

theorem Readable.formed {t : Tree} (h : t.Readable) : t.Formed PlainWord :=
  ((formed_of_guarded h.guarded).and_names h.names).mono
    fun _ hname => plainWord_of_isFieldName hname.2.1 hname.2.2

end Tree

/-! ## 2. Reading back -/

namespace Sql

/-- **The text and values of a guarded tree are read as the tree**, however deep it is. -/
theorem readBack_lexemes {place : Nat → String} (hplace : Legible place) {t : Tree} (ht : t.Readable) :
    readBack place (spell place 0 t.lexemes) (values t.lexemes).toArray = some t := by
  have hread := readBack_spell hplace ht.formed
  rwa [Tree.regrouped_of_grouped (Tree.grouped_of_guarded ht.guarded ht.terms)] at hread

theorem readBack_of_readable [Limits] {place : Nat → String} (hplace : Legible place)
    {clause : Option String} {t : Tree} (ht : t.Readable) {sql : String} {bound : Array Literal}
    (hwritten : writeOnto place clause t #[] = (.ok sql, bound)) : readBack place sql bound = some t := by
  obtain ⟨_, rfl, rfl⟩ := writeOnto_eq_ok_iff.mp hwritten
  simpa using readBack_lexemes hplace ht

/-- **A guarded tree is read back from its text and values.** It is written unless it is nested too
    deeply; what is written is read as the tree itself, so that no other guarded tree gives it; and
    every style known from the start has placeholders that can be read. -/
theorem readBack_guarded [Limits] (style : Style) (hstyle : Legible style.place) (clause : Option String)
    (t : Tree) (ht : t.Readable) :
    ((∃ sql bound, writeOnto style.place clause t #[] = (.ok sql, bound)) ↔ t.callDepth ≤ Limits.writing) ∧
    (∀ sql bound, writeOnto style.place clause t #[] = (.ok sql, bound) →
      readBack style.place sql bound = some t ∧
        ∀ t' : Tree, t'.Readable → writeOnto style.place clause t' #[] = (.ok sql, bound) → t' = t) ∧
    (∀ entry ∈ StyleBook.standard.entries, Legible entry.2.place) := by
  refine ⟨?_, fun sql bound hwritten => ?_, legible_standard⟩
  · rw [← fault?_eq_none_iff_callDepth ht.formed]
    constructor
    · rintro ⟨sql, bound, hwritten⟩
      exact (writeOnto_eq_ok_iff.mp hwritten).1
    · intro hfault
      exact ⟨_, _, writeOnto_ok hfault style.place clause #[]⟩
  · have hread := readBack_of_readable hstyle ht hwritten
    refine ⟨hread, fun t' ht' hwritten' => ?_⟩
    have hread' := readBack_of_readable hstyle ht' hwritten'
    exact Option.some.inj (hread'.symm.trans hread)

/-- A tree with every form of predicate, negated in part. -/
def guardedTree : Tree :=
  .negate (.connect .or
    (.compare .ne (.connect .and (.compare .ge (.member "u.age") (.literal (.int 18)))
      (.negate (.pattern .ends "u.name" "100%"))) (.literal (.bool true)))
    (.membership "city" [.literal (.str "Bonn"), .literal .null]))

theorem readable_guardedTree : guardedTree.Readable where
  guarded := by decide
  names := by
    have hage : IsFieldName "u.age" := ⟨⟨"u", by decide⟩, [⟨"age", by decide⟩], rfl⟩
    have hname : IsFieldName "u.name" := ⟨⟨"u", by decide⟩, [⟨"name", by decide⟩], rfl⟩
    have hcity : IsFieldName "city" := ⟨⟨"city", by decide⟩, [], rfl⟩
    simp only [guardedTree, Tree.names, Tree.namesAll, Tree.negate, Tree.connect, Tree.compare,
      Tree.pattern, Tree.membership, List.cons_append, List.nil_append, List.forall_mem_cons]
    exact ⟨⟨hage, by decide⟩, ⟨hname, by decide⟩, ⟨hcity, by decide⟩, by simp⟩
  terms := by decide

theorem readBack_guarded_numeric :
    guardedTree.Readable ∧
      writeOnto Style.numeric.place none guardedTree #[]
        = (.ok ("NOT ((u.age >= :1 AND NOT u.name LIKE :2 ESCAPE '!') != :3 OR city IN (:4, :5))"),
          #[.int 18, .str "%100!%", .bool true, .str "Bonn", .null]) ∧
      readBack Style.numeric.place
        "NOT ((u.age >= :1 AND NOT u.name LIKE :2 ESCAPE '!') != :3 OR city IN (:4, :5))"
        #[.int 18, .str "%100!%", .bool true, .str "Bonn", .null] = some guardedTree := by
  have hwritten : writeOnto Style.numeric.place none guardedTree #[]
      = (.ok ("NOT ((u.age >= :1 AND NOT u.name LIKE :2 ESCAPE '!') != :3 OR city IN (:4, :5))"),
        #[.int 18, .str "%100!%", .bool true, .str "Bonn", .null]) := rfl
  have hall := readBack_guarded Style.numeric legible_numeric none guardedTree readable_guardedTree
  exact ⟨readable_guardedTree, hwritten, (hall.2.1 _ _ hwritten).1⟩

end Sql

end BoundQuery
