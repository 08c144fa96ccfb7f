import BoundQuery.Proofs.Sql.Outline
import BoundQuery.Proofs.Sql.WellFormed
import Mathlib.Data.Int.Cast.Lemmas

/-!
# Which queries are compiled, and what is reported of the others

A query that is not nested too deeply is compiled exactly if its predicates are well formed and the
bounds on its rows can be written; the number of its rows does not even ask for the bounds. What is
reported otherwise is the fault of the first node that has one, of the filter before the having clause
and of both before the bounds.

* `Descriptor.WithinDepth` and `Descriptor.WellFormed` – the two predicates of a query, if there are
  any, are not nested too deeply, and are well formed;
* `Wanted.Writable` – the bounds that a statement shows have no more digits than can be written;
* `Tree.FirstFault` – a node is the first of a tree that has a fault of its own;
* `Descriptor.fault?_cutOff` – what stops a query under any limits is its first fault, or its depth.
-/

namespace BoundQuery

open BoundQuery.Sql

/-! ## 1. The first fault of a tree -/

namespace Tree

/-- `node` is the first node of `t` that has a fault of its own, and the fault is `f`. -/
def FirstFault (t node : Tree) (f : Fault) : Prop :=
  ∃ before after : List Tree, t.preorder = before ++ node :: after ∧
    (∀ u ∈ before, u.ownFault? = none) ∧ node.ownFault? = some f

theorem exists_of_firstFault?_eq_some {t : Tree} {f : Fault} (h : t.firstFault? = some f) :
    ∃ node, t.FirstFault node f := by
  obtain ⟨before, node, after, hsplit, hnode, hbefore⟩ := List.findSome?_eq_some_iff.mp h
  exact ⟨node, before, after, hsplit, hbefore, hnode⟩

end Tree

namespace Sql

/-- What stops a clause is the first fault of its predicate, or that there is no room for it. -/
theorem clauseFault?_cutOff [Limits] (keyword : String) (tree : Option Tree) :
    clauseFault? keyword tree = (tree.bind Tree.firstFault?).map (⟨·, some keyword⟩) ∨
      (∃ t ∈ tree, Limits.writing < t.callDepth) ∧
        clauseFault? keyword tree = some ⟨.tooDeep, some keyword⟩ := by
  cases tree with
  | none => exact .inl rfl
  | some t =>
    rw [clauseFault?, Option.bind_some, Option.bind_some]
    rcases fault?_cutOff Limits.writing t with hfirst | ⟨hdepth, hdeep⟩
    · exact .inl (by rw [hfirst])
    · exact .inr ⟨⟨t, rfl, hdepth⟩, by rw [hdeep, Option.map_some]⟩

/-- What stops a clause whose predicate is not nested too deeply is the first fault of the predicate. -/
theorem clauseFault?_eq_firstFault? [Limits] {tree : Option Tree}
    (h : ∀ t ∈ tree, t.callDepth ≤ Limits.writing) (keyword : String) :
    clauseFault? keyword tree = (tree.bind Tree.firstFault?).map (⟨·, some keyword⟩) :=
  (clauseFault?_cutOff keyword tree).resolve_right fun ⟨⟨t, ht, hdeep⟩, _⟩ =>
    Nat.not_le_of_lt hdeep (h t ht)

/-- Nothing stops a clause whose predicate is not nested too deeply exactly if it is well formed. -/
theorem clauseFault?_eq_none_iff [Limits] {tree : Option Tree}
    (h : ∀ t ∈ tree, t.callDepth ≤ Limits.writing) (keyword : String) :
    clauseFault? keyword tree = none ↔ ∀ t ∈ tree, t.WellFormed := by
  rw [clauseFault?_eq_firstFault? h, Option.map_eq_none_iff, Option.bind_eq_none_iff]
  exact forall₂_congr fun t _ => t.firstFault?_eq_none_iff

/-- A clause whose predicate is not well formed is stopped by the fault of a first node. -/
theorem exists_clauseFault? [Limits] {t : Tree} (hdepth : t.callDepth ≤ Limits.writing)
    (hill : ¬ t.WellFormed) (keyword : String) :
    ∃ node f, t.FirstFault node f ∧ clauseFault? keyword (some t) = some ⟨f, some keyword⟩ := by
  have hfault := clauseFault?_eq_firstFault? (fun u hu => Option.mem_some.mp hu ▸ hdepth) keyword
  cases hf : t.firstFault? with
  | none => exact absurd (t.firstFault?_eq_none_iff.mp hf) hill
  | some f =>
    obtain ⟨node, hnode⟩ := Tree.exists_of_firstFault?_eq_some hf
    refine ⟨node, f, hnode, ?_⟩
    rw [hfault, Option.bind_some, hf, Option.map_some]

/-! ## 2. Bounds that can be written -/

theorem boundClause_ok {count : Option Int} (h : ∀ n ∈ count, decimalLength n.natAbs ≤ longestDecimal)
    (bound : RowBound) :
    boundClause bound count = .ok (count.map fun n => bound.keyword ++ " " ++ n.repr).toList := by
  cases count with
  | none => rfl
  | some n =>
    have hn : decimal? n = some n.repr := if_pos (h n rfl)
    rw [boundClause, hn]
    rfl

theorem boundClause_error {count : Option Int}
    (h : ¬ ∀ n ∈ count, decimalLength n.natAbs ≤ longestDecimal) (bound : RowBound) :
    boundClause bound count = .error .unwritable := by
  cases count with
  | none => exact absurd (fun n hn => nomatch hn) h
  | some n =>
    have hlong : ¬ decimalLength n.natAbs ≤ longestDecimal := by simpa using h
    have hn : decimal? n = none := if_neg hlong
    rw [boundClause, hn]
    rfl

end Sql

namespace Wanted

/-- The bounds that a statement shows have no more digits than can be written. The statement for the
    number of rows shows none. -/
def Writable : Wanted → Descriptor → Prop
  | .rows, d => (∀ n ∈ d.limit, decimalLength n.natAbs ≤ longestDecimal) ∧
      ∀ n ∈ d.offset, decimalLength n.natAbs ≤ longestDecimal
  | .count, _ => True

theorem parts_ok {wanted : Wanted} {d : Descriptor} (h : wanted.Writable d) :
    ∃ parts, wanted.parts d = .ok parts := by
  cases wanted with
  | count => exact ⟨_, rfl⟩
  | rows =>
    rw [parts, boundClause_ok h.1, boundClause_ok h.2]
    exact ⟨_, rfl⟩

theorem parts_error {wanted : Wanted} {d : Descriptor} (h : ¬ wanted.Writable d) :
    wanted.parts d = .error .unwritable := by
  cases wanted with
  | count => exact absurd trivial h
  | rows =>
    rw [parts]
    by_cases hlimit : ∀ n ∈ d.limit, decimalLength n.natAbs ≤ longestDecimal
    · rw [boundClause_ok hlimit, boundClause_error (fun hoffset => h ⟨hlimit, hoffset⟩)]
      rfl
    · rw [boundClause_error hlimit]
      rfl

end Wanted

/-! ## 3. Whole queries -/

namespace Descriptor

/-- Neither predicate of a query is nested too deeply. -/
def WithinDepth [Limits] (d : Descriptor) : Prop :=
  (∀ t ∈ d.filter, t.callDepth ≤ Limits.writing) ∧ ∀ t ∈ d.having, t.callDepth ≤ Limits.writing

/-- Each predicate of a query is well formed. -/
def WellFormed (d : Descriptor) : Prop :=
  (∀ t ∈ d.filter, t.WellFormed) ∧ ∀ t ∈ d.having, t.WellFormed

/-- The first fault of a query, of the filter before the having clause. It is there whatever the limits
    are. -/
def firstFault? (d : Descriptor) : Option CompileError :=
  ((d.filter.bind Tree.firstFault?).map (⟨·, some "WHERE"⟩)).or
    ((d.having.bind Tree.firstFault?).map (⟨·, some "HAVING"⟩))

/-- **What stops a query is its first fault, or that it is nested too deeply.** -/
theorem fault?_cutOff [Limits] (d : Descriptor) :
    d.fault? = d.firstFault? ∨
      ¬ d.WithinDepth ∧ ∃ keyword, d.fault? = some ⟨.tooDeep, some keyword⟩ := by
  rw [fault?, firstFault?]
  rcases clauseFault?_cutOff "WHERE" d.filter with hfilter | ⟨⟨t, ht, hroom⟩, hdeep⟩
  · rw [hfilter]
    cases (d.filter.bind Tree.firstFault?).map fun f => (⟨f, some "WHERE"⟩ : CompileError) with
    | some e => exact .inl rfl
    | none =>
      rcases clauseFault?_cutOff "HAVING" d.having with hhaving | ⟨⟨t, ht, hroom⟩, hdeep⟩
      · exact .inl (by rw [hhaving])
      · exact .inr ⟨fun h => Nat.not_le_of_lt hroom (h.2 t ht), _, by rw [hdeep, Option.none_or]⟩
  · exact .inr ⟨fun h => Nat.not_le_of_lt hroom (h.1 t ht), _, by rw [hdeep, Option.some_or]⟩

theorem fault?_eq_none_iff [Limits] {d : Descriptor} (h : d.WithinDepth) :
    d.fault? = none ↔ d.WellFormed := by
  rw [fault?, Option.or_eq_none_iff, clauseFault?_eq_none_iff h.1, clauseFault?_eq_none_iff h.2,
    WellFormed]

end Descriptor

namespace Wanted

/-- A query that is not found to be nested too deeply has no fault but its first. -/
theorem fault?_eq_firstFault? [Limits] {wanted : Wanted} {style : Style} {d : Descriptor}
    (h : ∀ clause, wanted.statement style d ≠ .error (.compile ⟨.tooDeep, clause⟩)) :
    d.fault? = d.firstFault? := by
  refine d.fault?_cutOff.resolve_right fun ⟨_, keyword, hdeep⟩ => h (some keyword) ?_
  rw [statement_eq, outline, hdeep]
  rfl

/-- A query is outlined exactly if it has no fault and its bounds can be written. -/
theorem exists_outline_iff_fault? [Limits] {wanted : Wanted} {d : Descriptor} :
    (∃ ls, wanted.outline d = .ok ls) ↔ d.fault? = none ∧ wanted.Writable d := by
  rw [outline]
  cases d.fault? with
  | some e => simp
  | none =>
    by_cases hwritable : wanted.Writable d
    · obtain ⟨parts, hparts⟩ := parts_ok hwritable
      rw [hparts]
      exact ⟨fun _ => ⟨rfl, hwritable⟩, fun _ => ⟨_, rfl⟩⟩
    · rw [parts_error hwritable]
      constructor
      · rintro ⟨_, hls⟩
        cases hls
      · exact fun hboth => absurd hboth.2 hwritable

/-- A query is outlined exactly if it is well formed and its bounds can be written. -/
theorem exists_outline_iff [Limits] {wanted : Wanted} {d : Descriptor} (h : d.WithinDepth) :
    (∃ ls, wanted.outline d = .ok ls) ↔ d.WellFormed ∧ wanted.Writable d := by
  rw [exists_outline_iff_fault?, Descriptor.fault?_eq_none_iff h]

end Wanted

namespace Session

theorem compile_failed_of_outline [Limits] {s : Session} {wanted : Wanted} {name : Literal} {style : Style}
    {d : Descriptor} {failure : Failure} (hstyle : s.styles.ask name = .ok style)
    (h : wanted.outline d = .error failure) : (s.compile wanted name d).2 = .failed failure := by
  rw [compile_answer, hstyle, h]

/-- **A query is compiled exactly if its predicates are well formed and its bounds can be written, and
    the first fault is reported.** The filter is looked at before the having clause, and a node before
    its parts. -/
theorem compile_first_fault [Limits] (s : Session) (wanted : Wanted) (name : Literal) (style : Style)
    (hstyle : s.styles.ask name = .ok style) (d : Descriptor) (hdepth : d.WithinDepth) :
    ((∃ answer, (s.compile wanted name d).2 = .statement answer) ↔
      d.WellFormed ∧ wanted.Writable d) ∧
    (∀ t ∈ d.filter, ¬ t.WellFormed → ∃ node f, t.FirstFault node f ∧
      (s.compile wanted name d).2 = .failed (.compile ⟨f, some "WHERE"⟩)) ∧
    ((∀ t ∈ d.filter, t.WellFormed) → ∀ t ∈ d.having, ¬ t.WellFormed → ∃ node f,
      t.FirstFault node f ∧ (s.compile wanted name d).2 = .failed (.compile ⟨f, some "HAVING"⟩)) ∧
    (d.WellFormed → ¬ wanted.Writable d → (s.compile wanted name d).2 = .failed .unwritable) := by
  refine ⟨?_, ?_, ?_, ?_⟩
  · rw [← Wanted.exists_outline_iff hdepth]
    constructor
    · rintro ⟨answer, hanswer⟩
      obtain ⟨_, ls, _, hls, _⟩ := compile_eq_statement_iff.mp hanswer
      exact ⟨ls, hls⟩
    · rintro ⟨ls, hls⟩
      exact ⟨_, compile_eq_statement_iff.mpr ⟨style, ls, hstyle, hls, rfl⟩⟩
  · intro t ht hill
    obtain ⟨node, f, hnode, hclause⟩ := exists_clauseFault? (hdepth.1 t ht) hill "WHERE"
    refine ⟨node, f, hnode, compile_failed_of_outline hstyle ?_⟩
    rw [Wanted.outline, Descriptor.fault?, Option.mem_def.mp ht, hclause, Option.some_or]
  · intro hfilter t ht hill
    obtain ⟨node, f, hnode, hclause⟩ := exists_clauseFault? (hdepth.2 t ht) hill "HAVING"
    refine ⟨node, f, hnode, compile_failed_of_outline hstyle ?_⟩
    rw [Wanted.outline, Descriptor.fault?, (clauseFault?_eq_none_iff hdepth.1 "WHERE").mpr hfilter,
      Option.none_or, Option.mem_def.mp ht, hclause]
  · intro hformed hlong
    refine compile_failed_of_outline hstyle ?_
    rw [Wanted.outline, (Descriptor.fault?_eq_none_iff hdepth).mpr hformed, Wanted.parts_error hlong]
    rfl

/-- A predicate with two faults: a membership test without values, and in its right operand an operator
    that no table has. -/
def faultyTree : Tree :=
  .connect .and (.call "in_" [.member "city"])
    (.negate (.binary "~" (.member "name") (.literal (.str "a.*"))))

/-- A query with faults in both of its predicates, and a bound that is too long. -/
def faultyQuery : Descriptor :=
  { Descriptor.ofTable "users" with
    filter := some faultyTree
    having := some (.call "matches" [])
    limit := some (10 ^ 4300) }

theorem compile_first_fault_faulty :
    (faultyQuery.WithinDepth ∧ ¬ faultyTree.WellFormed) ∧
      ∃ node f, faultyTree.FirstFault node f ∧
        ((ofQuery faultyQuery).compile .rows (.str "numeric") faultyQuery).2
          = .failed (.compile ⟨f, some "WHERE"⟩) := by
  have hdepth : faultyQuery.WithinDepth := by
    constructor <;> rintro t ⟨⟩ <;> decide
  have hill : ¬ faultyTree.WellFormed := by decide
  exact ⟨⟨hdepth, hill⟩,
    (compile_first_fault _ .rows _ Style.numeric rfl _ hdepth).2.1 faultyTree rfl hill⟩

/-- A query that has no predicate at all, and a limit of one digit more than can be written. -/
def longQuery : Descriptor := { Descriptor.ofTable "users" with limit := some (10 ^ 4300) }

/-- Predicates that are well formed are not enough: a limit that is too long stops a query, too. -/
theorem long_limit_stops :
    longQuery.WithinDepth ∧ longQuery.WellFormed ∧
      ¬ ∃ answer, ((ofQuery longQuery).compile .rows (.str "qmark") longQuery).2
        = .statement answer := by
  have hlong : ¬ Wanted.rows.Writable longQuery := by
    intro h
    have hlimit : decimalLength ((10 : Int) ^ 4300).natAbs ≤ longestDecimal := h.1 _ rfl
    exact absurd hlimit (by decide +kernel)
  have hfailed : ((ofQuery longQuery).compile .rows (.str "qmark") longQuery).2
      = .failed .unwritable := by
    have hstyle : (ofQuery longQuery).styles.ask (.str "qmark") = .ok Style.qmark := rfl
    refine compile_failed_of_outline hstyle ?_
    rw [Wanted.outline, Wanted.parts_error hlong]
    rfl
  have hnone {p : Tree → Prop} : ∀ t, none = some t → p t := fun t ht => by cases ht
  refine ⟨⟨hnone, hnone⟩, ⟨hnone, hnone⟩, ?_⟩
  rintro ⟨answer, hanswer⟩
  rw [hfailed] at hanswer
  cases hanswer

end Session

end BoundQuery
