import BoundQuery.Proofs.Fragment.Constants
import BoundQuery.Proofs.Fragment.Nesting
import BoundQuery.Proofs.Fragment.Qualified
import BoundQuery.Proofs.Query.Counting

/-!
# Filters combined call by call

A filter can be built by several calls, each of which joins one more predicate to those before it. The
calls fold the trees of their predicates from the left (`AcceptedPredicate.combine`), and so does the reader
of a text over the operands of an `and` or an `or`; both are the same fold, and what it binds is bound by the
predicates one after the other.

* `AcceptedPredicate.applyAll_adding` – what the calls store;
* `AcceptedPredicate.fault?_combine_eq_none_iff`, `AcceptedPredicate.leaves_combine` – when what is stored
  can be written, and what it then binds;
* `AcceptedPredicate.toTree_chain` – what the text of a whole chain is read as.
-/

namespace BoundQuery

open BoundQuery.Sql

/-- A fragment that is accepted as a predicate, with its tree. -/
structure AcceptedPredicate [Limits] where
  fragment : Fragment
  tree : Tree
  accepted : fragment.predicate = .ok tree

namespace AcceptedPredicate

section Combine

variable [Limits]

/-! ## 1. What the calls store -/

/-- A tree and the predicates joined to it one by one, each by the connective before it. -/
def combine (t : Tree) (rest : List (Connective × AcceptedPredicate)) : Tree :=
  rest.foldl (fun left q => .connect q.1 left q.2.tree) t

/-- The call for the first predicate of a filter: one that sets the filter, or one that adds to it. -/
def opening (p : AcceptedPredicate) : Option Connective → Call
  | none => .filter p.fragment
  | some op => .filterAlso op p.fragment

/-- The calls that add predicates to a filter. -/
def adding (rest : List (Connective × AcceptedPredicate)) : List Call :=
  rest.map fun q => .filterAlso q.1 q.2.fragment

theorem apply_filterAlso (p : AcceptedPredicate) (op : Connective) (d : Descriptor) :
    (Call.filterAlso op p.fragment).apply d
      = .ok { d with filter := some (Change.conjoin op p.tree d.filter) } := by
  rw [Call.apply_eq_map, Call.change_eq_ok_iff.mpr (.filterAlso op p.accepted)]
  rfl

/-- With no filter stored, it makes no difference how the first predicate is added. -/
theorem apply_opening (p : AcceptedPredicate) (op? : Option Connective) {d : Descriptor}
    (hd : d.filter = none) : (p.opening op?).apply d = .ok { d with filter := some p.tree } := by
  cases op? with
  | none =>
    rw [opening, Call.apply_eq_map, Call.change_eq_ok_iff.mpr (.filter p.accepted)]
    rfl
  | some op =>
    rw [opening, apply_filterAlso, hd]
    rfl

/-- **Calls that add to a filter fold their predicates from the left.** -/
theorem applyAll_adding : ∀ (rest : List (Connective × AcceptedPredicate)) (t : Tree) (d : Descriptor),
    Call.applyAll (adding rest) { d with filter := some t }
      = .ok { d with filter := some (combine t rest) }
  | [], _, _ => rfl
  | (op, q) :: rest, t, d => by
      have ih := applyAll_adding rest (.connect op t q.tree) d
      have hfirst : (Call.filterAlso op q.fragment).apply { d with filter := some t }
          = .ok { d with filter := some (.connect op t q.tree) } := q.apply_filterAlso op _
      rw [adding, List.map_cons, Call.applyAll, List.foldlM_cons, hfirst]
      exact ih

/-! ## 2. What is bound -/

theorem leaves_combine : ∀ (rest : List (Connective × AcceptedPredicate)) (t : Tree),
    (combine t rest).leaves = t.leaves ++ (rest.map fun q => q.2.tree.leaves).flatten
  | [], t => by simp [combine]
  | (op, q) :: rest, t => by
      have ih := leaves_combine rest (.connect op t q.tree)
      rw [combine, List.foldl_cons]
      rw [combine, Tree.leaves_connect] at ih
      rw [ih, List.map_cons, List.flatten_cons, List.append_assoc]

theorem wellFormed_combine_iff : ∀ (rest : List (Connective × AcceptedPredicate)) (t : Tree),
    (combine t rest).WellFormed ↔ t.WellFormed ∧ ∀ q ∈ rest, q.2.tree.WellFormed
  | [], t => by simp [combine]
  | (op, q) :: rest, t => by
      have ih := wellFormed_combine_iff rest (.connect op t q.tree)
      rw [combine] at ih
      rw [combine, List.foldl_cons, ih, Tree.WellFormed.connect_iff, List.forall_mem_cons, and_assoc]

theorem callDepth_le_combine : ∀ (rest : List (Connective × AcceptedPredicate)) (t : Tree),
    t.callDepth ≤ (combine t rest).callDepth ∧ ∀ q ∈ rest, q.2.tree.callDepth ≤ (combine t rest).callDepth
  | [], t => ⟨Nat.le_refl _, by simp⟩
  | (op, q) :: rest, t => by
      obtain ⟨hleft, hrest⟩ := callDepth_le_combine rest (.connect op t q.tree)
      rw [Tree.callDepth_connect] at hleft
      have hboth : t.callDepth ≤ max t.callDepth q.tree.callDepth + 2 ∧
          q.tree.callDepth ≤ max t.callDepth q.tree.callDepth + 2 := by omega
      exact ⟨Nat.le_trans hboth.1 hleft,
        List.forall_mem_cons.mpr ⟨Nat.le_trans hboth.2 hleft, hrest⟩⟩

/-- **What is combined can be written exactly if each part can, and the whole is not nested too deeply.** -/
theorem fault?_combine_eq_none_iff {p : AcceptedPredicate}
    {rest : List (Connective × AcceptedPredicate)} :
    fault? Limits.writing (combine p.tree rest) = none ↔
      (combine p.tree rest).callDepth ≤ Limits.writing ∧
        ∀ q ∈ p :: rest.map (·.2), fault? Limits.writing q.tree = none := by
  obtain ⟨hfirst, hrest⟩ := callDepth_le_combine rest p.tree
  rw [List.forall_mem_cons, List.forall_mem_map]
  simp only [fault?_eq_none_iff_wellFormed, wellFormed_combine_iff]
  constructor
  · rintro ⟨⟨hp, hq⟩, hdepth⟩
    exact ⟨hdepth, ⟨hp, by omega⟩, fun q hmem => ⟨hq q hmem, Nat.le_trans (hrest q hmem) hdepth⟩⟩
  · rintro ⟨hdepth, hp, hq⟩
    exact ⟨⟨hp.1, fun q hmem => (hq q hmem).1⟩, hdepth⟩

/-- The values that a predicate binds if it is written by itself. -/
def Binds (style : Style) (q : AcceptedPredicate) (values : List Literal) : Prop :=
  ∃ sql, writeOnto style.place none q.tree #[] = (.ok sql, values.toArray)

theorem binds_iff {style : Style} {q : AcceptedPredicate} {values : List Literal} :
    q.Binds style values ↔ fault? Limits.writing q.tree = none ∧ values = q.tree.leaves := by
  simp only [Binds, writeOnto_eq_ok_iff, exists_and_left, exists_eq_left]
  refine and_congr_right fun hfault => ?_
  rw [q.tree.values_lexemes Limits.writing hfault]
  simp

theorem forall₂_binds_iff {style : Style} : ∀ {qs : List AcceptedPredicate} {lists : List (List Literal)},
    List.Forall₂ (Binds style) qs lists ↔
      (∀ q ∈ qs, fault? Limits.writing q.tree = none) ∧ lists = qs.map fun q => q.tree.leaves
  | [], lists => by simp
  | q :: qs, lists => by
      have ih (lists : List (List Literal)) : List.Forall₂ (Binds style) qs lists ↔
          (∀ q ∈ qs, fault? Limits.writing q.tree = none) ∧ lists = qs.map fun q => q.tree.leaves :=
        forall₂_binds_iff
      rw [List.forall₂_cons_left_iff, List.forall_mem_cons, List.map_cons]
      simp only [binds_iff, ih]
      constructor
      · rintro ⟨_, _, ⟨hq, rfl⟩, ⟨hqs, rfl⟩, rfl⟩
        exact ⟨⟨hq, hqs⟩, rfl⟩
      · rintro ⟨⟨hq, hqs⟩, rfl⟩
        exact ⟨_, _, ⟨hq, rfl⟩, ⟨hqs, rfl⟩, rfl⟩

theorem statement_combine_iff {d : Descriptor} (hd : d.filter = none) {p : AcceptedPredicate}
    {rest : List (Connective × AcceptedPredicate)} {wanted : Wanted} {style : Style}
    {values : List Literal} :
    (∃ answer, wanted.statement style { d with filter := some (combine p.tree rest) } = .ok answer ∧
        answer.values.toList = values) ↔
      (combine p.tree rest).callDepth ≤ Limits.writing ∧
        ∃ base lists, wanted.statement style d = .ok base ∧
          List.Forall₂ (Binds style) (p :: rest.map (·.2)) lists ∧
          values = lists.flatten ++ base.values.toList := by
  have hfault : ({ d with filter := some (combine p.tree rest) } : Descriptor).fault? = none ↔
      fault? Limits.writing (combine p.tree rest) = none ∧ d.fault? = none := by
    simp [Descriptor.fault?, clauseFault?, hd]
  have hwritable : wanted.Writable { d with filter := some (combine p.tree rest) } ↔
      wanted.Writable d := by
    cases wanted <;> exact Iff.rfl
  have hleaves : ({ d with filter := some (combine p.tree rest) } : Descriptor).leaves
      = ((p :: rest.map (·.2)).map fun q => q.tree.leaves).flatten ++ d.leaves := by
    simp [Descriptor.leaves, hd, leaves_combine, Function.comp_def]
  rw [Wanted.exists_statement_iff, hfault, hwritable, hleaves, fault?_combine_eq_none_iff]
  constructor
  · rintro ⟨⟨⟨hdepth, hparts⟩, hbase⟩, hlimits, rfl⟩
    obtain ⟨base, hbase, hvalues⟩ : ∃ base, wanted.statement style d = .ok base ∧
        base.values.toList = d.leaves := Wanted.exists_statement_iff.mpr ⟨hbase, hlimits, rfl⟩
    exact ⟨hdepth, base, _, hbase, forall₂_binds_iff.mpr ⟨hparts, rfl⟩, by rw [hvalues]⟩
  · rintro ⟨hdepth, base, lists, hbase, hbinds, rfl⟩
    obtain ⟨hparts, rfl⟩ := forall₂_binds_iff.mp hbinds
    obtain ⟨hfree, hlimits, hvalues⟩ := Wanted.exists_statement_iff.mp ⟨base, hbase, rfl⟩
    exact ⟨⟨⟨hdepth, hparts⟩, hfree⟩, hlimits, by rw [hvalues]⟩

/-! ## 3. What the text of a chain is read as -/

/-- The fragment is a bare text with the given term. -/
def Bare (q : AcceptedPredicate) (t : Term) : Prop :=
  ∃ text, q.fragment = .text text ∧ TextFragment.term text = .ok t ∧ t.isLambda = false

theorem Bare.toTree_eq {q : AcceptedPredicate} {t : Term} (h : q.Bare t) :
    t.toTree none Limits.reading = .ok q.tree ∧ q.tree.isLiteral = false := by
  obtain ⟨text, hfragment, hterm, hlambda⟩ := h
  have haccepted := q.accepted
  rw [hfragment] at haccepted
  have hpredicate : t.predicate = .ok q.tree := (Fragment.agree_predicate hterm _).mp haccepted
  exact (Term.predicate_eq_ok_iff (Term.opened_of_not_isLambda hlambda)).mp hpredicate

theorem mapM_toTree : ∀ {rest : List (Connective × AcceptedPredicate)} {others : List Term},
    List.Forall₂ (fun q t => q.2.Bare t) rest others →
      others.mapM (Term.toTree none Limits.reading) = .ok (rest.map fun q => q.2.tree)
  | _, _, .nil => rfl
  | _, _, .cons hq hrest => by
      rw [List.mapM_cons, hq.toTree_eq.1, mapM_toTree hrest]
      rfl

theorem combine_eq_foldl {op : Connective} : ∀ {rest : List (Connective × AcceptedPredicate)} {t : Tree},
    (∀ q ∈ rest, q.1 = op) → combine t rest = (rest.map fun q => q.2.tree).foldl (Tree.connect op) t
  | [], _, _ => rfl
  | (op', q) :: rest, t, h => by
      obtain ⟨rfl, hrest⟩ := List.forall_mem_cons.mp h
      have ih := combine_eq_foldl (t := .connect op' t q.tree) hrest
      rw [combine] at ih
      rw [combine, List.foldl_cons, List.map_cons, List.foldl_cons, ih]

theorem isLiteral_combine : ∀ (rest : List (Connective × AcceptedPredicate)) {t : Tree},
    t.isLiteral = false → (combine t rest).isLiteral = false
  | [], _, h => h
  | (op, q) :: rest, t, _ => isLiteral_combine rest (t := .connect op t q.tree) rfl

/-- Where there is room for every operand, the chain is read with room for one call more, as what the calls
    store. -/
theorem toTree_chain_succ {p : AcceptedPredicate} {rest : List (Connective × AcceptedPredicate)}
    {op : Connective} {first : Term} {others : List Term} (hop : ∀ q ∈ rest, q.1 = op)
    (hfirst : p.Bare first) (hothers : List.Forall₂ (fun q t => q.2.Bare t) rest others) :
    (Term.connective op first others).toTree none (Limits.reading + 1) = .ok (combine p.tree rest) := by
  rw [combine_eq_foldl hop]
  exact Term.toTree_succ_eq_ok_iff.mpr (.chain op hfirst.toTree_eq.1 (mapM_toTree hothers))

/-- **The text of a chain is read as what the calls store**, or it is nested too deeply. -/
theorem toTree_chain {p : AcceptedPredicate} {rest : List (Connective × AcceptedPredicate)}
    {op : Connective} {first : Term} {others : List Term} (hop : ∀ q ∈ rest, q.1 = op)
    (hfirst : p.Bare first) (hothers : List.Forall₂ (fun q t => q.2.Bare t) rest others) :
    CutOff (Limits.reading < (Term.connective op first others).callDepth)
      ((Term.connective op first others).toTree none Limits.reading) (.ok (combine p.tree rest)) := by
  rw [← toTree_chain_succ hop hfirst hothers]
  exact Term.cutOff_toTree none _ (Nat.le_succ _)

theorem predicate_of_tooDeep {text : String} {t : Term} (hterm : TextFragment.term text = .ok t)
    (hlambda : t.isLambda = false) (hdeep : t.toTree none Limits.reading = .error .tooDeep) :
    (Fragment.text text).predicate = .error (.rejected ⟨.tooDeep, some text⟩) := by
  rw [Fragment.predicate, TextFragment.predicate, hterm]
  show Fragment.rejecting _ t.predicate = _
  rw [Term.predicate, Term.opened_of_not_isLambda hlambda]
  show Fragment.rejecting _ (Failure.lift (t.toTree none Limits.reading) >>= _) = _
  rw [hdeep]
  rfl

/-- **Filters combined call by call are the chain of their predicates.** On a query without a filter, a
    first predicate, however it is added, and others added to it store the left fold of their trees. The
    query is compiled exactly if this is not nested too deeply, each predicate can be written and the query
    can be compiled without them; and it binds what they bind one after the other, before all else. If
    one connective joins bare texts, the text of their chain is read as what is stored, unless the chain is
    too deep to be read. -/
theorem combined_filters (d : Descriptor) (hd : d.filter = none) (p : AcceptedPredicate)
    (rest : List (Connective × AcceptedPredicate)) :
    (∀ op? : Option Connective, Call.applyAll (p.opening op? :: adding rest) d
      = .ok { d with filter := some (combine p.tree rest) }) ∧
    (∀ (wanted : Wanted) (style : Style) (values : List Literal),
      (∃ answer, wanted.statement style { d with filter := some (combine p.tree rest) } = .ok answer ∧
          answer.values.toList = values) ↔
        (combine p.tree rest).callDepth ≤ Limits.writing ∧
          ∃ base lists, wanted.statement style d = .ok base ∧
            List.Forall₂ (Binds style) (p :: rest.map (·.2)) lists ∧
            values = lists.flatten ++ base.values.toList) ∧
    (∀ (op : Connective) (first : Term) (others : List Term) (text : String), (∀ q ∈ rest, q.1 = op) →
      p.Bare first → List.Forall₂ (fun q t => q.2.Bare t) rest others →
      TextFragment.term text = .ok (.connective op first others) →
      (Fragment.text text).predicate = .ok (combine p.tree rest) ∨
        Limits.reading < (Term.connective op first others).callDepth ∧
          (Fragment.text text).predicate = .error (.rejected ⟨.tooDeep, some text⟩)) := by
  refine ⟨fun op? => ?_, fun wanted style values => statement_combine_iff hd, ?_⟩
  · rw [Call.applyAll, List.foldlM_cons, p.apply_opening op? hd]
    exact applyAll_adding rest p.tree d
  · intro op first others text hop hfirst hothers hterm
    rcases toTree_chain hop hfirst hothers with hread | ⟨hdeep, hcut⟩
    · have hliteral := isLiteral_combine rest hfirst.toTree_eq.2
      have hpredicate := (Term.predicate_eq_ok_iff (Term.opened_of_not_isLambda rfl)).mpr ⟨hread, hliteral⟩
      exact .inl ((Fragment.agree_predicate hterm _).mpr hpredicate)
    · exact .inr ⟨hdeep, predicate_of_tooDeep hterm rfl hcut⟩

end Combine

/-- A field compared with a number. -/
def countedTerm (name : Text.Identifier) (n : Int) : Term :=
  .compare (.name name) [.compare .eq] [.constant (.literal (.int n))]

/-- The predicate of such a comparison. -/
def countedTree (name : String) (n : Int) : Tree := .compare .eq (.member name) (.literal (.int n))

/-- A chain of its own. -/
def innerTerm : Term :=
  .connective .or (countedTerm ⟨"branch", by decide⟩ 2) [.signed .not (.name ⟨"shut", by decide⟩)]

/-- The predicate of the inner chain. -/
def innerTree : Tree := .connect .or (countedTree "branch" 2) (.negate (.member "shut"))

theorem reads_parts :
    Phrase.reads "settled == 1" (countedTerm ⟨"settled", by decide⟩ 1) ∧
    Phrase.reads "branch == 2 or not shut" innerTerm ∧
    Phrase.reads "colour == 3" (countedTerm ⟨"colour", by decide⟩ 3) ∧
    Phrase.reads "settled == 1 or (branch == 2 or not shut) or colour == 3"
      (.connective .or (countedTerm ⟨"settled", by decide⟩ 1)
        [innerTerm, countedTerm ⟨"colour", by decide⟩ 3]) := by
  decide +kernel

/-- The predicate of a text whose term is known. -/
def ofReads [Limits] {text : String} {t : Term} (tree : Tree) (hreads : Phrase.reads text t)
    (htree : t.predicate = .ok tree) : AcceptedPredicate :=
  ⟨.text text, tree, (Fragment.agree_predicate (Phrase.term_eq_of_reads hreads) _).mpr htree⟩

theorem bare_ofReads [Limits] {text : String} {t : Term} {tree : Tree} (hreads : Phrase.reads text t)
    (htree : t.predicate = .ok tree) (hlambda : t.isLambda = false) :
    (ofReads tree hreads htree).Bare t :=
  ⟨text, rfl, Phrase.term_eq_of_reads hreads, hlambda⟩

/-- Two predicates to be added, of which the first is a chain of its own. -/
def addedParts : List (Connective × AcceptedPredicate) :=
  [(.or, ofReads innerTree reads_parts.2.1 rfl),
    (.or, ofReads (countedTree "colour" 3) reads_parts.2.2.1 rfl)]

/-- A query with no filter and with a value bound after it. -/
def groupedSales : Descriptor :=
  ⟨"sales", none, [], [], [], some "branch", some (.compare .gt (.member "total") (.literal (.int 9))),
    none, none⟩

/-- The three predicates from the left. -/
def joinedTree : Tree :=
  .connect .or (.connect .or (countedTree "settled" 1) innerTree) (countedTree "colour" 3)

theorem combined_filters_inner_chain :
    Call.applyAll [.filterAlso .and (.text "settled == 1"),
        .filterAlso .or (.text "branch == 2 or not shut"), .filterAlso .or (.text "colour == 3")] groupedSales
      = .ok { groupedSales with filter := some joinedTree } ∧
    (∃ answer, Wanted.rows.statement .numeric { groupedSales with filter := some joinedTree } = .ok answer ∧
      answer.values.toList = [.int 1, .int 2, .int 3, .int 9]) ∧
    (Fragment.text "settled == 1 or (branch == 2 or not shut) or colour == 3").predicate
      = .ok joinedTree := by
  obtain ⟨hcalls, hbound, hchain⟩ := combined_filters groupedSales rfl
    (ofReads (countedTree "settled" 1) reads_parts.1 rfl) addedParts
  refine ⟨hcalls (some .and), ?_, ?_⟩
  · refine (hbound .rows .numeric _).mpr ⟨by decide, _, [[.int 1], [.int 2], [.int 3]], rfl, ?_, rfl⟩
    exact .cons ⟨_, rfl⟩ (.cons ⟨_, rfl⟩ (.cons ⟨_, rfl⟩ .nil))
  · obtain ⟨hfirst, hinner, hlast, hwhole⟩ := reads_parts
    have hread := hchain .or _ _ _ (by decide) (bare_ofReads hfirst rfl rfl)
      (.cons (bare_ofReads hinner rfl rfl) (.cons (bare_ofReads hlast rfl rfl) .nil))
      (Phrase.term_eq_of_reads hwhole)
    rcases hread with hread | ⟨hdeep, _⟩
    · exact hread
    · exact absurd hdeep (by decide)

end AcceptedPredicate

end BoundQuery
