import BoundQuery.Proofs.Fragment.Selection
import BoundQuery.Proofs.Query.Checks

/-!
# What a query records of its calls

A query is changed without looking at it again, so what holds of all queries rests on what each call
checks of its own arguments. By cases on `Call.Checks` follows what one call does to each clause, and from
that what a query built on a table is: a record of the calls that succeeded (`Records`). One call keeps this
up (`Records.step`), and so do any calls in turn, whatever calls fail in between
(`Progress.records_foldl`).
-/

namespace BoundQuery

/-! ## 1. What one call does to each clause -/

namespace Call

/-- The limit that a call gives. -/
def limit? : Call → Option Int
  | .take (.literal (.int n)) => some n
  | .page _ (.literal (.int size)) => some size
  | _ => none

/-- The offset that a call gives. -/
def offset? : Call → Option Int
  | .skip (.literal (.int n)) => some n
  | .page (.literal (.int number)) (.literal (.int size)) => some ((number - 1) * size)
  | _ => none

/-- The direction that a call sorts in, and what its key is read as. -/
def sorting? [Limits] : Call → Option (Direction × Except Failure String)
  | .order direction key => some (direction, key.key)
  | _ => none

/-- The arguments of a call that joins. -/
def joining? : Call → Option (JoinKind × Value × Value)
  | .join kind table condition => some (kind, table, condition)
  | _ => none

section Checks

variable [Limits] {call : Call} {change : Change}

theorem Checks.table_apply (h : Checks call change) (d : Descriptor) :
    (change.apply d).table = d.table := by
  cases h <;> rfl

theorem Checks.limit_apply (h : Checks call change) (d : Descriptor) :
    (change.apply d).limit = call.limit?.or d.limit := by
  cases h <;> rfl

theorem Checks.offset_apply (h : Checks call change) (d : Descriptor) :
    (change.apply d).offset = call.offset?.or d.offset := by
  cases h <;> rfl

theorem Checks.limit_nonneg (h : Checks call change) : ∀ n ∈ call.limit?, 0 ≤ n := by
  cases h with
  | take h => simpa [limit?] using h
  | page hnumber hsize => simpa [limit?] using Int.le_trans (by decide) hsize
  | _ => simp [limit?]

theorem Checks.offset_nonneg (h : Checks call change) : ∀ n ∈ call.offset?, 0 ≤ n := by
  cases h with
  | skip h => simpa [offset?] using h
  | page hnumber hsize => simpa [offset?] using Int.mul_nonneg (by omega) (by omega)
  | _ => simp [offset?]

/-- A call that does not select leaves the projection alone, and one that does sets it to names without
    repetition. -/
theorem Checks.projection_apply (h : Checks call change) (d : Descriptor) :
    ((∀ fs, call ≠ .project fs) ∧ (change.apply d).projection = d.projection) ∨
      (∃ fs, call = .project fs) ∧ (change.apply d).projection ≠ [] ∧ (change.apply d).projection.Nodup := by
  cases h with
  | project h =>
    exact .inr ⟨⟨_, rfl⟩, Fragment.ne_nil_of_selectAll h, Fragment.nodup_of_selectAll h⟩
  | _ => exact .inl ⟨fun fs hfs => (by cases hfs), rfl⟩

theorem Checks.sorting_apply (h : Checks call change) (d : Descriptor) :
    (change.apply d).ordering.map (fun item => (item.direction, Except.ok item.field))
      = d.ordering.map (fun item => (item.direction, .ok item.field)) ++ call.sorting?.toList := by
  cases h with
  | order direction h => simp [Change.apply, sorting?, h]
  | _ => simp [Change.apply, sorting?]

theorem Checks.joining_apply (h : Checks call change) (d : Descriptor) :
    (change.apply d).joins.map
        (fun j => (j.kind, Value.literal (.str j.table), Value.literal (.str j.condition)))
      = d.joins.map (fun j => (j.kind, .literal (.str j.table), .literal (.str j.condition)))
        ++ call.joining?.toList := by
  cases h with
  | join kind htable hcondition => simp [Change.apply, joining?]
  | _ => simp [Change.apply, joining?]

theorem Checks.filled_apply (h : Checks call change) {d : Descriptor}
    (hd : ∀ j ∈ d.joins, Filled j.table ∧ Filled j.condition) :
    ∀ j ∈ (change.apply d).joins, Filled j.table ∧ Filled j.condition := by
  cases h with
  | join kind htable hcondition =>
    exact List.forall_mem_append.mpr ⟨hd, List.forall_mem_singleton.mpr ⟨htable, hcondition⟩⟩
  | _ => exact hd

end Checks

end Call

/-! ## 2. Whole runs -/

/-- What is true of a query on the table `source` after the successful calls `done`. -/
structure Records [Limits] (source : Value) (done : List Call) (d : Descriptor) : Prop where
  table : source = .literal (.str d.table) ∧ Filled d.table
  limit : d.limit = (done.filterMap Call.limit?).getLast?
  limit_nonneg : ∀ n ∈ d.limit, 0 ≤ n
  offset : d.offset = (done.filterMap Call.offset?).getLast?
  offset_nonneg : ∀ n ∈ d.offset, 0 ≤ n
  projection : d.projection = [] ↔ ∀ fs, Call.project fs ∉ done
  projection_nodup : d.projection.Nodup
  ordering : d.ordering.map (fun item => (item.direction, .ok item.field))
    = done.filterMap Call.sorting?
  joins : d.joins.map (fun j => (j.kind, .literal (.str j.table), .literal (.str j.condition)))
    = done.filterMap Call.joining?
  joins_filled : ∀ j ∈ d.joins, Filled j.table ∧ Filled j.condition

theorem records_start [Limits] {source : Value} {d : Descriptor} (h : Descriptor.start source = .ok d) :
    Records source [] d := by
  obtain ⟨name, rfl, hname, rfl⟩ := Descriptor.start_eq_ok_iff.mp h
  exact {
    table := ⟨rfl, hname⟩
    limit := rfl
    limit_nonneg := by simp [Descriptor.ofTable]
    offset := rfl
    offset_nonneg := by simp [Descriptor.ofTable]
    projection := by simp [Descriptor.ofTable]
    projection_nodup := .nil
    ordering := rfl
    joins := rfl
    joins_filled := by simp [Descriptor.ofTable] }

theorem filterMap_concat {α β : Type} (f : α → Option β) (as : List α) (a : α) :
    (as ++ [a]).filterMap f = as.filterMap f ++ (f a).toList := by
  rw [List.filterMap_append, List.filterMap_cons]
  cases f a <;> rfl

theorem getLast?_filterMap_concat {α β : Type} (f : α → Option β) (as : List α) (a : α) :
    ((as ++ [a]).filterMap f).getLast? = (f a).or (as.filterMap f).getLast? := by
  rw [filterMap_concat]
  cases f a <;> simp

theorem forall_mem_or {α : Type} {p : α → Prop} {x y : Option α} (hx : ∀ a ∈ x, p a)
    (hy : ∀ a ∈ y, p a) : ∀ a ∈ x.or y, p a := by
  cases x with
  | none => exact hy
  | some b => exact hx

/-- **A call that succeeds is recorded.** -/
theorem Records.step [Limits] {source : Value} {done : List Call} {d : Descriptor} {call : Call}
    {change : Change} (h : Records source done d) (hcall : call.Checks change) :
    Records source (done ++ [call]) (change.apply d) where
  table := by
    rw [hcall.table_apply]
    exact h.table
  limit := by rw [hcall.limit_apply, getLast?_filterMap_concat, h.limit]
  limit_nonneg := by
    rw [hcall.limit_apply]
    exact forall_mem_or hcall.limit_nonneg h.limit_nonneg
  offset := by rw [hcall.offset_apply, getLast?_filterMap_concat, h.offset]
  offset_nonneg := by
    rw [hcall.offset_apply]
    exact forall_mem_or hcall.offset_nonneg h.offset_nonneg
  projection := by
    rcases hcall.projection_apply d with ⟨hnot, hsame⟩ | ⟨⟨fs, rfl⟩, hne, _⟩
    · rw [hsame, h.projection]
      refine forall_congr' fun fs => ?_
      simp [(hnot fs).symm]
    · exact ⟨fun hnil => absurd hnil hne, fun hnone => absurd (by simp) (hnone fs)⟩
  projection_nodup := by
    rcases hcall.projection_apply d with ⟨_, hsame⟩ | ⟨_, _, hnodup⟩
    · rw [hsame]
      exact h.projection_nodup
    · exact hnodup
  ordering := by rw [hcall.sorting_apply, filterMap_concat, h.ordering]
  joins := by rw [hcall.joining_apply, filterMap_concat, h.joins]
  joins_filled := hcall.filled_apply h.joins_filled

/-- A query, and the calls that have succeeded on it. -/
structure Progress where
  done : List Call
  query : Descriptor

namespace Progress

/-- One more call, which is skipped if it fails. -/
def attempt [Limits] (p : Progress) (call : Call) : Progress :=
  match call.apply p.query with
  | .ok d => ⟨p.done ++ [call], d⟩
  | .error _ => p

/-- Several calls on a query, of which those that fail are skipped. -/
def ofCalls [Limits] (d : Descriptor) (calls : List Call) : Progress := calls.foldl attempt ⟨[], d⟩

theorem records_attempt [Limits] {source : Value} {p : Progress} (h : Records source p.done p.query)
    (call : Call) : Records source (p.attempt call).done (p.attempt call).query := by
  unfold attempt
  split
  · rename_i hcall
    obtain ⟨change, hchecks, rfl⟩ := Call.apply_eq_ok_iff.mp hcall
    exact h.step hchecks
  · exact h

theorem records_foldl [Limits] {source : Value} : ∀ (calls : List Call) {p : Progress},
    Records source p.done p.query →
      Records source (calls.foldl attempt p).done (calls.foldl attempt p).query
  | [], _, h => h
  | call :: calls, _, h => records_foldl calls (records_attempt h call)

/-- **A query is a record of the calls that succeeded.** On a table with a name that is not blank, after any
    calls of which those that fail are skipped, the limit and the offset are the last ones given and not
    negative; the projection names nothing twice, and is empty as long as no selection succeeded; the sort keys
    and the joins are those of the successful calls in their order, and no join has a blank table or
    condition. -/
theorem records_of_calls [Limits] (source : Value) (d : Descriptor) (h : Descriptor.start source = .ok d)
    (calls : List Call) : Records source (ofCalls d calls).done (ofCalls d calls).query :=
  records_foldl calls (records_start h)

/-- Calls of which every second one fails: a truth value as a limit, a blank table, no selector, a
    negative offset. -/
def mixedCalls : List Call :=
  [.page (.literal (.int 3)) (.literal (.int 20)), .take (.literal (.bool true)),
    .join .left (.literal (.str "t")) (.literal (.str "t.a = b")),
    .join .inner (.literal (.str " ")) (.literal (.str "x")),
    .project [.value (.field "a"), .value (.field "a")], .project [],
    .order .descending (.value (.field "age")), .skip (.literal (.int (-1)))]

theorem records_of_calls_mixed :
    Descriptor.start (.literal (.str "users")) = .ok (.ofTable "users") ∧
      (ofCalls (.ofTable "users") mixedCalls).done.length = 4 ∧
      (ofCalls (.ofTable "users") mixedCalls).query.offset = some 40 ∧
      Records (.literal (.str "users")) (ofCalls (.ofTable "users") mixedCalls).done
        (ofCalls (.ofTable "users") mixedCalls).query :=
  ⟨rfl, rfl, rfl, records_of_calls (.literal (.str "users")) (.ofTable "users") rfl mixedCalls⟩

end Progress

end BoundQuery
