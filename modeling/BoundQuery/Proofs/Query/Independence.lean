import BoundQuery.Proofs.Query.Checks
import BoundQuery.Query.Session

/-!
# Calls on different clauses are independent

Every change has a footprint: the clauses that it sets. It neither reads nor writes any other clause, so
what becomes of a clause is settled by the changes that touch it, in their order. Two sequences of calls
that agree on every clause in this sense build the same query.

* `Descriptor.only` – a query with one clause kept and all others blank, by which queries are compared
  clause by clause (`Descriptor.eq_of_only_eq`);
* `Change.only_apply` and `Change.only_apply_of_untouched` – what one change does to a clause;
* `Change.only_foldl` – what a sequence of changes does to a clause.
-/

namespace BoundQuery

/-- The clauses that calls build. -/
inductive Clause where
  | filter | projection | ordering | joins | groupKey | having | limit | offset
  deriving DecidableEq

/-! ## 1. One clause of a query -/

namespace Descriptor

/-- A query with one clause kept and all others blank. -/
def only (d : Descriptor) : Clause → Descriptor
  | .filter => { ofTable d.table with filter := d.filter }
  | .projection => { ofTable d.table with projection := d.projection }
  | .ordering => { ofTable d.table with ordering := d.ordering }
  | .joins => { ofTable d.table with joins := d.joins }
  | .groupKey => { ofTable d.table with groupKey := d.groupKey }
  | .having => { ofTable d.table with having := d.having }
  | .limit => { ofTable d.table with limit := d.limit }
  | .offset => { ofTable d.table with offset := d.offset }

/-- A query is made up of its clauses. -/
theorem eq_of_only_eq {d e : Descriptor} (h : ∀ c, d.only c = e.only c) : d = e := by
  have part {α : Type} (f : Descriptor → α) (c : Clause) : f (d.only c) = f (e.only c) :=
    congrArg f (h c)
  have htable : d.table = e.table := part table .filter
  have hfilter : d.filter = e.filter := part filter .filter
  have hprojection : d.projection = e.projection := part projection .projection
  have hordering : d.ordering = e.ordering := part ordering .ordering
  have hjoins : d.joins = e.joins := part joins .joins
  have hgroup : d.groupKey = e.groupKey := part groupKey .groupKey
  have hhaving : d.having = e.having := part having .having
  have hlimit : d.limit = e.limit := part limit .limit
  have hoffset : d.offset = e.offset := part offset .offset
  cases d
  cases e
  simp only at htable hfilter hprojection hordering hjoins hgroup hhaving hlimit hoffset
  simp only [htable, hfilter, hprojection, hordering, hjoins, hgroup, hhaving, hlimit, hoffset]

end Descriptor

/-! ## 2. What changes do to a clause -/

namespace Change

/-- The clauses that a change sets. -/
def footprint : Change → List Clause
  | .filter _ => [.filter]
  | .filterAlso .. => [.filter]
  | .project _ => [.projection]
  | .order _ => [.ordering]
  | .limit _ => [.limit]
  | .offset _ => [.offset]
  | .page .. => [.limit, .offset]
  | .join _ => [.joins]
  | .group _ => [.groupKey]
  | .having _ => [.having]

/-- A clause after a change depends on nothing but the clause before it. -/
theorem only_apply (change : Change) (c : Clause) (d : Descriptor) :
    (change.apply d).only c = (change.apply (d.only c)).only c := by
  cases change <;> cases c <;> rfl

/-- A change leaves alone what is not in its footprint. -/
theorem only_apply_of_untouched {change : Change} {c : Clause} (h : c ∉ change.footprint)
    (d : Descriptor) : (change.apply d).only c = d.only c := by
  revert h
  cases change <;> cases c <;> simp [footprint, apply, Descriptor.only, Descriptor.ofTable]

theorem only_foldl_congr {c : Clause} : ∀ (changes : List Change) {d e : Descriptor},
    d.only c = e.only c → (changes.foldl apply d).only c = (changes.foldl apply e).only c
  | [], _, _, h => h
  | change :: changes, d, e, h => by
      refine only_foldl_congr changes ?_
      rw [only_apply change c d, only_apply change c e, h]

/-- **What becomes of a clause is settled by the changes that touch it.** -/
theorem only_foldl (c : Clause) : ∀ (changes : List Change) (d : Descriptor),
    (changes.foldl apply d).only c
      = ((changes.filter fun change => c ∈ change.footprint).foldl apply d).only c
  | [], _ => rfl
  | change :: changes, d => by
      have ih := only_foldl c changes (change.apply d)
      rw [List.foldl_cons, ih]
      by_cases htouched : c ∈ change.footprint
      · rw [List.filter_cons_of_pos (by simpa using htouched), List.foldl_cons]
      · rw [List.filter_cons_of_neg (by simpa using htouched)]
        exact only_foldl_congr _ (only_apply_of_untouched htouched d)

end Change

/-! ## 3. Sequences of calls -/

namespace Call

/-- The clauses that a call touches. -/
def footprint : Call → List Clause
  | .filter _ => [.filter]
  | .filterAlso .. => [.filter]
  | .project _ => [.projection]
  | .order .. => [.ordering]
  | .take _ => [.limit]
  | .skip _ => [.offset]
  | .page .. => [.limit, .offset]
  | .join .. => [.joins]
  | .group _ => [.groupKey]
  | .having _ => [.having]

/-- The calls among several that touch a clause. -/
def touching (c : Clause) (calls : List Call) : List Call :=
  calls.filter fun call => c ∈ call.footprint

/-- The arguments of a call are right. -/
def Valid [Limits] (call : Call) : Prop := ∃ change, call.change = .ok change

/-- Make several calls, one after the other. -/
def applyAll [Limits] (calls : List Call) (d : Descriptor) : Except Failure Descriptor :=
  calls.foldlM (fun d call => call.apply d) d

/-- A call touches what its change sets. -/
theorem footprint_of_change [Limits] {call : Call} {change : Change} (h : call.change = .ok change) :
    change.footprint = call.footprint := by
  cases change_eq_ok_iff.mp h <;> rfl

/-- The changes of calls whose arguments are right. -/
def changes [Limits] (calls : List Call) : List Change := calls.filterMap fun call => call.change.toOption

theorem changes_cons [Limits] {call : Call} {change : Change} (h : call.change = .ok change)
    (calls : List Call) : changes (call :: calls) = change :: changes calls :=
  List.filterMap_cons_some (by rw [h]; rfl)

/-- Calls whose arguments are right make their changes in turn. -/
theorem applyAll_of_valid [Limits] : ∀ {calls : List Call}, (∀ call ∈ calls, call.Valid) →
    ∀ d : Descriptor, applyAll calls d = .ok ((changes calls).foldl Change.apply d)
  | [], _, _ => rfl
  | call :: calls, h, d => by
      obtain ⟨change, hchange⟩ := h call (by simp)
      have ih := applyAll_of_valid (fun other hother => h other (List.mem_cons_of_mem _ hother))
        (change.apply d)
      rw [changes_cons hchange, List.foldl_cons, ← ih, applyAll, List.foldlM_cons, apply_eq_map,
        hchange]
      rfl

/-- The changes on a clause are those of the calls that touch it. -/
theorem filter_changes [Limits] (c : Clause) : ∀ {calls : List Call}, (∀ call ∈ calls, call.Valid) →
    ((changes calls).filter fun change => c ∈ change.footprint) = changes (touching c calls)
  | [], _ => rfl
  | call :: calls, h => by
      obtain ⟨change, hchange⟩ := h call (by simp)
      have ih := filter_changes c fun other hother => h other (List.mem_cons_of_mem _ hother)
      rw [changes_cons hchange, touching]
      by_cases htouched : c ∈ call.footprint
      · rw [List.filter_cons_of_pos (by simpa [footprint_of_change hchange] using htouched),
          List.filter_cons_of_pos (by simpa using htouched), changes_cons hchange, ih]
        rfl
      · rw [List.filter_cons_of_neg (by simpa [footprint_of_change hchange] using htouched),
          List.filter_cons_of_neg (by simpa using htouched), ih]
        rfl

/-- Sequences with the same calls on every clause have the same calls. -/
theorem valid_of_touching [Limits] {calls calls' : List Call} (hvalid : ∀ call ∈ calls, call.Valid)
    (hsame : ∀ c, touching c calls = touching c calls') : ∀ call ∈ calls', call.Valid := by
  intro call hcall
  obtain ⟨c, hc⟩ : ∃ c, c ∈ call.footprint := by
    cases call <;> exact ⟨_, List.mem_cons_self⟩
  have htouching : call ∈ touching c calls' := List.mem_filter.mpr ⟨hcall, by simpa using hc⟩
  rw [← hsame c] at htouching
  exact hvalid call (List.mem_filter.mp htouching).1

/-- **Calls on different clauses are independent.** Two sequences of calls with right arguments that
    have the same calls on every clause build the same query, which is compiled to the same statements.
    And whether a call succeeds, and how it fails, does not depend on the query it is made on. -/
theorem independent_calls [Limits] (calls calls' : List Call) (d : Descriptor)
    (hvalid : ∀ call ∈ calls, call.Valid) (hsame : ∀ c, touching c calls = touching c calls') :
    (∃ e, applyAll calls d = .ok e ∧ applyAll calls' d = .ok e) ∧
    (∀ (wanted : Wanted) (style : Sql.Style),
      (applyAll calls d >>= wanted.statement style) = (applyAll calls' d >>= wanted.statement style)) ∧
    (∀ (call : Call) (e e' : Descriptor),
      ((∃ built, call.apply e = .ok built) ↔ ∃ built, call.apply e' = .ok built) ∧
      ∀ failure, call.apply e = .error failure ↔ call.apply e' = .error failure) := by
  have hvalid' := valid_of_touching hvalid hsame
  have hbuilt : (changes calls).foldl Change.apply d = (changes calls').foldl Change.apply d := by
    refine Descriptor.eq_of_only_eq fun c => ?_
    rw [Change.only_foldl, Change.only_foldl c (changes calls'), filter_changes c hvalid,
      filter_changes c hvalid', hsame c]
  have hall : applyAll calls d = applyAll calls' d := by
    rw [applyAll_of_valid hvalid, applyAll_of_valid hvalid', hbuilt]
  refine ⟨⟨_, applyAll_of_valid hvalid d, hall ▸ applyAll_of_valid hvalid d⟩, ?_, ?_⟩
  · intro wanted style
    rw [hall]
  · intro call e e'
    rw [apply_eq_map, apply_eq_map]
    cases call.change with
    | error failure => exact ⟨by simp [Except.map], by simp [Except.map]⟩
    | ok change => exact ⟨by simp [Except.map], by simp [Except.map]⟩

/-- A filter that is set and then widened, two bounds of which the second is for the limit alone, and
    two sort keys. -/
def callsByClause : List Call :=
  [.filter (.value (.field "active")), .filterAlso .or (.value (.field "admin")),
    .page (.literal (.int 3)) (.literal (.int 20)), .take (.literal (.int 5)),
    .order .descending (.value (.field "age")), .order .ascending (.value (.field "name"))]

/-- The same calls in another order. -/
def callsMixed : List Call :=
  [.order .descending (.value (.field "age")), .page (.literal (.int 3)) (.literal (.int 20)),
    .filter (.value (.field "active")), .order .ascending (.value (.field "name")),
    .take (.literal (.int 5)), .filterAlso .or (.value (.field "admin"))]

theorem independent_calls_mixed :
    ((∀ call ∈ callsByClause, call.Valid) ∧
      ∀ c, touching c callsByClause = touching c callsMixed) ∧
    ∃ e, applyAll callsByClause (.ofTable "users") = .ok e ∧
      applyAll callsMixed (.ofTable "users") = .ok e := by
  have hvalid : ∀ call ∈ callsByClause, call.Valid := by
    simp only [callsByClause, List.forall_mem_cons]
    exact ⟨⟨_, rfl⟩, ⟨_, rfl⟩, ⟨_, rfl⟩, ⟨_, rfl⟩, ⟨_, rfl⟩, ⟨_, rfl⟩, by simp⟩
  have hsame : ∀ c, touching c callsByClause = touching c callsMixed := by
    intro c
    cases c <;> rfl
  exact ⟨⟨hvalid, hsame⟩, (independent_calls _ _ (.ofTable "users") hvalid hsame).1⟩

end Call

end BoundQuery
