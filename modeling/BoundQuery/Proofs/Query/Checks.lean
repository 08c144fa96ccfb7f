import BoundQuery.Proofs.Failure
import BoundQuery.Query.Call

/-!
# Calls that succeed

A call checks its arguments and then makes a change. `Call.Checks` lists all calls that succeed, each with
the change it makes, and `Call.change_eq_ok_iff` says that there are no others; so what holds of a change is
shown by cases on `Checks`, one for each kind of call.
-/

namespace BoundQuery

/-! ## 1. Arguments -/

/-- A text with a character that is not blank. -/
def Filled (s : String) : Prop := ∃ c ∈ s.toList, Text.isBlank c = false

theorem filled_iff {s : String} : Filled s ↔ Text.isAllBlank s = false := by
  simp [Filled, Text.isAllBlank, List.all_eq_false]

theorem filledText?_eq_some_iff {v : Value} {s : String} :
    filledText? v = some s ↔ v = .literal (.str s) ∧ Filled s := by
  rw [filled_iff]
  unfold filledText?
  split
  · simp only [Option.ite_none_left_eq_some, Option.some.injEq, Value.literal.injEq, Literal.str.injEq]
    constructor
    · rintro ⟨hblank, rfl⟩
      exact ⟨rfl, by simpa using hblank⟩
    · rintro ⟨rfl, hblank⟩
      exact ⟨by simp [hblank], rfl⟩
  · rename_i hstr
    exact ⟨fun h => (by cases h), fun h => absurd h.1 (hstr s)⟩

theorem integerFrom?_eq_some_iff {least : Int} {v : Value} {n : Int} :
    integerFrom? least v = some n ↔ v = .literal (.int n) ∧ least ≤ n := by
  unfold integerFrom?
  split
  · simp only [Option.ite_none_left_eq_some, Option.some.injEq, Value.literal.injEq, Literal.int.injEq]
    omega
  · rename_i hint
    exact ⟨fun h => (by cases h), fun h => absurd h.1 (hint n)⟩

/-! ## 2. Calls -/

namespace Call

/-- The calls that succeed, and the changes they make. -/
inductive Checks [Limits] : Call → Change → Prop
  | filter {f : Fragment} {t : Tree} (h : f.predicate = .ok t) : Checks (.filter f) (.filter t)
  | filterAlso (op : Connective) {f : Fragment} {t : Tree} (h : f.predicate = .ok t) :
      Checks (.filterAlso op f) (.filterAlso op t)
  | project {fs : List Fragment} {names : List String} (h : Fragment.selectAll fs = .ok names) :
      Checks (.project fs) (.project names)
  | order (direction : Direction) {f : Fragment} {name : String} (h : f.key = .ok name) :
      Checks (.order direction f) (.order ⟨name, direction⟩)
  | take {n : Int} (h : 0 ≤ n) : Checks (.take (.literal (.int n))) (.limit n)
  | skip {n : Int} (h : 0 ≤ n) : Checks (.skip (.literal (.int n))) (.offset n)
  | page {number size : Int} (hnumber : 1 ≤ number) (hsize : 1 ≤ size) :
      Checks (.page (.literal (.int number)) (.literal (.int size))) (.page ((number - 1) * size) size)
  | join (kind : JoinKind) {table condition : String} (htable : Filled table)
      (hcondition : Filled condition) :
      Checks (.join kind (.literal (.str table)) (.literal (.str condition)))
        (.join ⟨kind, table, condition⟩)
  | group {f : Fragment} {name : String} (h : f.key = .ok name) : Checks (.group f) (.group name)
  | having {f : Fragment} {t : Tree} (h : f.predicate = .ok t) : Checks (.having f) (.having t)

theorem rowCount_eq_ok_iff {bound : RowBound} {v : Value} {n : Int} :
    rowCount bound v = .ok n ↔ v = .literal (.int n) ∧ 0 ≤ n := by
  rw [← integerFrom?_eq_some_iff, rowCount]
  cases integerFrom? 0 v <;> simp

theorem checks_of_change [Limits] {call : Call} {change : Change} (h : call.change = .ok change) :
    Checks call change := by
  cases call with
  | filter f =>
    obtain ⟨t, ht, h⟩ := exists_of_bind_eq_ok h
    cases h
    exact .filter ht
  | filterAlso op f =>
    obtain ⟨t, ht, h⟩ := exists_of_bind_eq_ok h
    cases h
    exact .filterAlso op ht
  | project fs =>
    obtain ⟨names, hnames, h⟩ := exists_of_bind_eq_ok h
    cases h
    exact .project hnames
  | order direction f =>
    obtain ⟨name, hname, h⟩ := exists_of_bind_eq_ok h
    cases h
    exact .order direction hname
  | take v =>
    obtain ⟨n, hn, h⟩ := exists_of_bind_eq_ok h
    cases h
    obtain ⟨rfl, hle⟩ := rowCount_eq_ok_iff.mp hn
    exact .take hle
  | skip v =>
    obtain ⟨n, hn, h⟩ := exists_of_bind_eq_ok h
    cases h
    obtain ⟨rfl, hle⟩ := rowCount_eq_ok_iff.mp hn
    exact .skip hle
  | page number size =>
    simp only [Call.change] at h
    split at h
    · rename_i n s hn hs
      obtain ⟨rfl, hnumber⟩ := integerFrom?_eq_some_iff.mp hn
      obtain ⟨rfl, hsize⟩ := integerFrom?_eq_some_iff.mp hs
      cases h
      exact .page hnumber hsize
    · cases h
    · cases h
  | join kind table condition =>
    simp only [Call.change] at h
    split at h
    · rename_i t c ht hc
      obtain ⟨rfl, htable⟩ := filledText?_eq_some_iff.mp ht
      obtain ⟨rfl, hcondition⟩ := filledText?_eq_some_iff.mp hc
      cases h
      exact .join kind htable hcondition
    · cases h
    · cases h
  | group f =>
    obtain ⟨name, hname, h⟩ := exists_of_bind_eq_ok h
    cases h
    exact .group hname
  | having f =>
    obtain ⟨t, ht, h⟩ := exists_of_bind_eq_ok h
    cases h
    exact .having ht

/-- **A call succeeds with a change exactly if it checks.** -/
theorem change_eq_ok_iff [Limits] {call : Call} {change : Change} :
    call.change = .ok change ↔ Checks call change := by
  refine ⟨checks_of_change, fun h => ?_⟩
  cases h with
  | filter h => rw [Call.change, h]; rfl
  | filterAlso op h => rw [Call.change, h]; rfl
  | project h => rw [Call.change, h]; rfl
  | order direction h => rw [Call.change, h]; rfl
  | take h => rw [Call.change, rowCount_eq_ok_iff.mpr ⟨rfl, h⟩]; rfl
  | skip h => rw [Call.change, rowCount_eq_ok_iff.mpr ⟨rfl, h⟩]; rfl
  | page hnumber hsize =>
    rw [Call.change, integerFrom?_eq_some_iff.mpr ⟨rfl, hnumber⟩,
      integerFrom?_eq_some_iff.mpr ⟨rfl, hsize⟩]
  | join kind htable hcondition =>
    rw [Call.change, filledText?_eq_some_iff.mpr ⟨rfl, htable⟩,
      filledText?_eq_some_iff.mpr ⟨rfl, hcondition⟩]
  | group h => rw [Call.change, h]; rfl
  | having h => rw [Call.change, h]; rfl

/-- A call makes the change that its arguments stand for, whatever the query. -/
theorem apply_eq_map [Limits] (call : Call) (d : Descriptor) :
    call.apply d = call.change.map (·.apply d) := by
  rw [apply]
  cases call.change <;> rfl

theorem apply_eq_ok_iff [Limits] {call : Call} {d e : Descriptor} :
    call.apply d = .ok e ↔ ∃ change, Checks call change ∧ e = change.apply d := by
  rw [apply_eq_map]
  cases hchange : call.change with
  | error failure =>
    constructor
    · intro h
      cases h
    · rintro ⟨change, hchecks, _⟩
      rw [change_eq_ok_iff.mpr hchecks] at hchange
      cases hchange
  | ok change =>
    constructor
    · intro h
      cases h
      exact ⟨change, change_eq_ok_iff.mp hchange, rfl⟩
    · rintro ⟨change', hchecks, rfl⟩
      rw [change_eq_ok_iff.mpr hchecks] at hchange
      cases hchange
      rfl

end Call

theorem Descriptor.start_eq_ok_iff {source : Value} {d : Descriptor} :
    start source = .ok d ↔ ∃ name, source = .literal (.str name) ∧ Filled name ∧ d = ofTable name := by
  simp only [← and_assoc, ← filledText?_eq_some_iff, start]
  cases filledText? source <;> simp [eq_comm]

end BoundQuery
