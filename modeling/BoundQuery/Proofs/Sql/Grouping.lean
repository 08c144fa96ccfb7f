import BoundQuery.Proofs.Fragment.TextTree
import BoundQuery.Proofs.Sql.ReadBack

/-!
# What the text of a fragment keeps of its grouping

A text fragment may group comparisons and negations as it likes, and none of that grouping shows in the
SQL: `not a == 1` and `(not a) == 1` are different predicates with one text. This is all that is lost.
Two fragments have one text and bind the same values exactly if their trees are the same once regrouped,
and then their trees are the same, unless a comparison or a negation is compared from the left.

* `Tree.settled` – what is left of regrouping if nothing has to be grouped differently
  (`Tree.regrouped_eq_settled`);
* `TextFragment.Generates` – what a text fragment generates, which is read as its regrouped tree
  (`TextFragment.Generates.readBack`).
-/

namespace BoundQuery

open BoundQuery.Sql

/-! ## 1. Trees that need no regrouping -/

namespace Tree

/-- A tree in which every match by the end of nothing is one by the start of nothing. -/
def settled : Tree → Tree
  | .member name => .member name
  | .literal value => .literal value
  | .binary operator left right => .binary operator (settled left) (settled right)
  | .logical operator left right => .logical operator (settled left) (settled right)
  | .unary operator operand => .unary operator (settled operand)
  | .call callee arguments => .call (settledCallee callee arguments) arguments

/-- Whether neither a comparison nor a negation is the left operand of a comparison. -/
def leftOperandsSimple : Tree → Bool
  | .member _ => true
  | .literal _ => true
  | .binary _ left right => !left.isCompound && leftOperandsSimple left && leftOperandsSimple right
  | .logical _ left right => leftOperandsSimple left && leftOperandsSimple right
  | .unary _ operand => leftOperandsSimple operand
  | .call .. => true

theorem isCompound_settled (t : Tree) : t.settled.isCompound = t.isCompound := by
  cases t <;> rfl

/-- A tree whose left operands are simple is only settled. -/
theorem regrouped_eq_settled {t : Tree} (h : t.leftOperandsSimple = true) :
    t.regrouped = t.settled := by
  induction t using induct with
  | member name => rfl
  | literal value => rfl
  | binary operator left right ihl ihr =>
    simp only [leftOperandsSimple, Bool.and_eq_true, Bool.not_eq_true'] at h
    obtain ⟨⟨hleft, hl⟩, hr⟩ := h
    have hcompound : left.settled.isCompound = false := by rw [isCompound_settled, hleft]
    rw [regrouped, ihl hl, ihr hr, graft_of_not_isCompound hcompound, settled]
  | logical operator left right ihl ihr =>
    simp only [leftOperandsSimple, Bool.and_eq_true] at h
    rw [regrouped, ihl h.1, ihr h.2, settled]
  | unary operator operand ih => rw [regrouped, ih h, settled]
  | call callee arguments _ => rfl

end Tree

/-! ## 2. Generated predicates -/

namespace TextFragment

/-- A text without subscripts is read as the predicate `t`, whose fields are no keywords, and `t` is
    written as `sql` with the values `bound`. -/
structure Generates [Limits] (style : Style) (text : String) (t : Tree) (sql : String)
    (bound : Array Literal) : Prop where
  free : subscriptFree text = true
  read : (Fragment.text text).predicate = .ok t
  names : ∀ name ∈ t.names, name ∉ keywords
  written : writeOnto style.place none t #[] = (.ok sql, bound)

section Generates

variable [Limits] {style : Style} {text sql : String} {t : Tree} {bound : Array Literal}

theorem Generates.formed (h : Generates style text t sql bound) : t.Formed PlainWord :=
  ((Fragment.formed_of_predicate h.free h.read).and_names h.names).mono
    fun _ hname => plainWord_of_isFieldName hname.1 hname.2

/-- What is generated is the text and the values of the regrouped tree. -/
theorem Generates.eq_spell (h : Generates style text t sql bound) :
    sql = spell style.place 0 t.regrouped.lexemes ∧ bound = (values t.regrouped.lexemes).toArray := by
  obtain ⟨_, hsql, hbound⟩ := writeOnto_eq_ok_iff.mp h.written
  rw [Tree.lexemes_regrouped]
  exact ⟨by simpa using hsql, by simpa using hbound⟩

theorem Generates.readBack (hstyle : Legible style.place) (h : Generates style text t sql bound) :
    readBack style.place sql bound = some t.regrouped := by
  obtain ⟨rfl, rfl⟩ := h.eq_spell
  rw [Tree.lexemes_regrouped]
  exact readBack_spell hstyle h.formed

end Generates

/-- **All that the text of a predicate loses is how comparisons and negations are grouped.** Two text
    fragments generate the same exactly if their trees are the same once regrouped. If neither compares
    a comparison or a negation from the left, their trees are then the same, but for whether the start
    or the end of a text is matched against nothing. -/
theorem generated_eq_iff [Limits] (style : Style) (hstyle : Legible style.place) (text text' : String)
    (t t' : Tree) (sql sql' : String) (bound bound' : Array Literal)
    (h : Generates style text t sql bound) (h' : Generates style text' t' sql' bound') :
    ((sql = sql' ∧ bound = bound') ↔ t.regrouped = t'.regrouped) ∧
      (t.leftOperandsSimple = true → t'.leftOperandsSimple = true → sql = sql' → bound = bound' →
        t.settled = t'.settled) := by
  have hiff : (sql = sql' ∧ bound = bound') ↔ t.regrouped = t'.regrouped := by
    constructor
    · rintro ⟨rfl, rfl⟩
      exact Option.some.inj ((h.readBack hstyle).symm.trans (h'.readBack hstyle))
    · intro hsame
      rw [h.eq_spell.1, h.eq_spell.2, h'.eq_spell.1, h'.eq_spell.2, hsame]
      exact ⟨rfl, rfl⟩
  refine ⟨hiff, fun hsimple hsimple' hsql hbound => ?_⟩
  rw [← Tree.regrouped_eq_settled hsimple, ← Tree.regrouped_eq_settled hsimple']
  exact hiff.mp ⟨hsql, hbound⟩

/-- A negated comparison. -/
def negatedComparison : Tree := .negate (.compare .eq (.member "a") (.literal (.int 1)))

/-- A compared negation. -/
def comparedNegation : Tree := .compare .eq (.negate (.member "a")) (.literal (.int 1))

/-- Whether a text has no subscript in it and is read as the predicate `t`. -/
def readsAs [Limits] (text : String) (t : Tree) : Bool :=
  subscriptFree text && decide ((Fragment.text text).predicate = .ok t)

/-- What four fragments are read as, evaluated at once. -/
theorem readsAs_examples :
    (readsAs "not a == 1" negatedComparison ∧ readsAs "(not a) == 1" comparedNegation) ∧
      readsAs "a.startswith('')" (.pattern .starts "a" "") ∧
      readsAs "lambda u: u.a.endswith('')" (.pattern .ends "a" "") := by
  decide +kernel

theorem Generates.of_readsAs [Limits] {style : Style} {text sql : String} {t : Tree} {bound : Array Literal}
    (h : readsAs text t = true) (hnames : ∀ name ∈ t.names, name ∉ keywords)
    (hwritten : writeOnto style.place none t #[] = (.ok sql, bound)) :
    Generates style text t sql bound := by
  rw [readsAs, Bool.and_eq_true, decide_eq_true_iff] at h
  exact ⟨h.1, h.2, hnames, hwritten⟩

theorem generates_negatedComparison :
    Generates Style.qmark "not a == 1" negatedComparison "NOT a = ?" #[.int 1] :=
  .of_readsAs readsAs_examples.1.1 (by decide) rfl

theorem generates_comparedNegation :
    Generates Style.qmark "(not a) == 1" comparedNegation "NOT a = ?" #[.int 1] :=
  .of_readsAs readsAs_examples.1.2 (by decide) rfl

theorem generates_startOfNothing :
    Generates Style.qmark "a.startswith('')" (.pattern .starts "a" "") "a LIKE ? ESCAPE '!'"
      #[.str "%"] :=
  .of_readsAs readsAs_examples.2.1 (by decide) rfl

theorem generates_endOfNothing :
    Generates Style.qmark "lambda u: u.a.endswith('')" (.pattern .ends "a" "") "a LIKE ? ESCAPE '!'"
      #[.str "%"] :=
  .of_readsAs readsAs_examples.2.2 (by decide) rfl

theorem generated_eq_iff_examples :
    (Generates Style.qmark "not a == 1" negatedComparison "NOT a = ?" #[.int 1] ∧
      Generates Style.qmark "(not a) == 1" comparedNegation "NOT a = ?" #[.int 1] ∧
      negatedComparison.regrouped = comparedNegation.regrouped) ∧
    (Generates Style.qmark "a.startswith('')" (.pattern .starts "a" "") "a LIKE ? ESCAPE '!'"
        #[.str "%"] ∧
      Generates Style.qmark "lambda u: u.a.endswith('')" (.pattern .ends "a" "") "a LIKE ? ESCAPE '!'"
        #[.str "%"] ∧
      (Tree.pattern .starts "a" "").settled = (Tree.pattern .ends "a" "").settled) := by
  have hnegation := generated_eq_iff Style.qmark legible_qmark _ _ _ _ _ _ _ _
    generates_negatedComparison generates_comparedNegation
  have hnothing := generated_eq_iff Style.qmark legible_qmark _ _ _ _ _ _ _ _
    generates_startOfNothing generates_endOfNothing
  exact ⟨⟨generates_negatedComparison, generates_comparedNegation, hnegation.1.mp ⟨rfl, rfl⟩⟩,
    generates_startOfNothing, generates_endOfNothing, hnothing.2 rfl rfl rfl rfl⟩

/-- Grouping is lost: two fragments generate one text and the same values, and yet their trees differ
    in more than what is matched against nothing. -/
theorem grouping_lost :
    Generates Style.qmark "not a == 1" negatedComparison "NOT a = ?" #[.int 1] ∧
      Generates Style.qmark "(not a) == 1" comparedNegation "NOT a = ?" #[.int 1] ∧
      negatedComparison.settled ≠ comparedNegation.settled :=
  ⟨generates_negatedComparison, generates_comparedNegation, by decide⟩

end TextFragment

end BoundQuery
