import BoundQuery.Proofs.Query.Checks
import BoundQuery.Proofs.Query.Counting
import Mathlib

/-!
# Pages of a query

The bounds of a query are a window on its rows: so many are skipped, and of the rest at most so many are
kept. Both are the last words of a statement, so that the window can be read off its text
(`Sql.window?_append`). A page of a query has a window of its own in place of any bounds set before, and the
windows of all pages of one size tile the rows (`Sql.Window.flatMap_keep_ofPage`): each row is on one page
only (`Sql.Window.mem_keep_ofPage_iff`).
-/

namespace BoundQuery

open BoundQuery.Sql

namespace Sql

/-! ## 1. Windows -/

/-- A window on rows. -/
structure Window where
  limit : Nat
  offset : Nat
  deriving DecidableEq

namespace Window

/-- The rows in a window: the first `offset` are skipped, and at most `limit` are kept. -/
def keep {α : Type} (w : Window) (rows : List α) : List α := (rows.drop w.offset).take w.limit

/-- The window of a page; pages are numbered from one. -/
def ofPage (number size : Nat) : Window := ⟨size, (number - 1) * size⟩

variable {α : Type} {size : Nat}

/-- **Pages of one size tile the rows.** Each page goes on where the pages before it end. -/
theorem flatMap_keep_ofPage (size : Nat) (rows : List α) : ∀ count : Nat,
    ((List.range' 1 count).flatMap fun number => (ofPage number size).keep rows)
      = rows.take (count * size)
  | 0 => by simp
  | count + 1 => by
      -- The last page is split off, and begins where the pages before it end.
      have ih := flatMap_keep_ofPage size rows count
      have hlast : (ofPage (1 + count) size).keep rows = (rows.drop (count * size)).take size := by
        rw [ofPage, keep, Nat.add_sub_cancel_left]
      rw [List.range'_1_concat, List.flatMap_append, ih, List.flatMap_singleton, hlast, ← List.take_add,
        Nat.succ_mul]

/-- A row is on the page of its number, and on no other. -/
theorem mem_keep_ofPage_iff (hsize : 1 ≤ size) {number : Nat} (hnumber : 1 ≤ number)
    {count index : Nat} :
    index ∈ (ofPage number size).keep (List.range count) ↔
      index < count ∧ number = index / size + 1 := by
  obtain ⟨before, rfl⟩ := Nat.exists_eq_add_of_le' hnumber
  have hpage : before + 1 = index / size + 1 ↔ before * size ≤ index ∧ index < before * size + size := by
    rw [Nat.add_right_cancel_iff, eq_comm, Nat.div_eq_iff hsize]
    omega
  rw [hpage, ofPage, keep, Nat.add_sub_cancel, List.range_eq_range', List.drop_range',
    List.mem_take_iff_getElem]
  simp only [List.getElem_range', List.length_range']
  constructor
  · rintro ⟨i, hi, rfl⟩
    omega
  · rintro ⟨hcount, hfirst, hlast⟩
    exact ⟨index - before * size, by omega, by omega⟩

theorem keep_ofPage_of_le {rows : List α} {number : Nat} (h : rows.length ≤ (number - 1) * size) :
    (ofPage number size).keep rows = [] := by
  rw [ofPage, keep, List.drop_eq_nil_of_le h, List.take_nil]

end Window

/-! ## 2. Windows in texts -/

/-- The parts of a text between its blanks. -/
def betweenBlanks (text : String) : List String := (text.toList.splitOn ' ').map String.ofList

/-- The window that a text of SQL ends in. -/
def window? (sql : String) : Option Window :=
  match (betweenBlanks sql).reverse with
  | offset :: "OFFSET" :: limit :: "LIMIT" :: _ => do return ⟨← limit.toNat?, ← offset.toNat?⟩
  | _ => none

theorem betweenBlanks_append (front : String) {word : String} (h : ' ' ∉ word.toList) :
    betweenBlanks (front ++ (" " ++ word)) = betweenBlanks front ++ [word] := by
  have hword : word.toList.splitOnP (· == ' ') = [word.toList] :=
    List.splitOnP_eq_singleton fun c hc => beq_eq_false_iff_ne.mpr fun hblank => h (hblank ▸ hc)
  have hblank : (front ++ (" " ++ word)).toList = front.toList ++ ' ' :: word.toList := by simp
  rw [betweenBlanks, hblank, List.splitOn, List.splitOnP_append_cons _ _ rfl, hword, List.map_append]
  simp [betweenBlanks, List.splitOn]

theorem blank_notMem_repr (n : Nat) : ' ' ∉ n.repr.toList := by
  rw [Nat.toList_repr]
  intro h
  exact absurd (Nat.isDigit_of_mem_toDigits (by decide) (by decide) h) (by decide)

/-- **The window at the end of a text can be read off it**, whatever stands before. -/
theorem window?_append (front : String) (w : Window) :
    window? (front ++ (" LIMIT " ++ w.limit.repr) ++ (" OFFSET " ++ w.offset.repr)) = some w := by
  have hparted : front ++ (" LIMIT " ++ w.limit.repr) ++ (" OFFSET " ++ w.offset.repr)
      = front ++ (" " ++ "LIMIT") ++ (" " ++ w.limit.repr) ++ (" " ++ "OFFSET")
        ++ (" " ++ w.offset.repr) := by
    have hlimit : " LIMIT " = " " ++ "LIMIT" ++ " " := rfl
    have hoffset : " OFFSET " = " " ++ "OFFSET" ++ " " := rfl
    rw [hlimit, hoffset]
    simp only [String.append_assoc]
  rw [hparted, window?, betweenBlanks_append _ (blank_notMem_repr _), betweenBlanks_append _ (by decide),
    betweenBlanks_append _ (blank_notMem_repr _), betweenBlanks_append _ (by decide)]
  simp

end Sql

/-! ## 3. Pages -/

namespace Descriptor

/-- A query with the bounds of a window in place of its own. -/
def within (q : Descriptor) (w : Window) : Descriptor :=
  { q with limit := some w.limit, offset := some w.offset }

/-- A query without bounds. -/
def unbounded (q : Descriptor) : Descriptor := { q with limit := none, offset := none }

theorem windowText_within (q : Descriptor) (w : Window) : (q.within w).windowText
    = q.unbounded.windowText ++ (" LIMIT " ++ w.limit.repr) ++ (" OFFSET " ++ w.offset.repr) := by
  have hlimit : (w.limit : Int).repr = w.limit.repr := rfl
  have hoffset : (w.offset : Int).repr = w.offset.repr := rfl
  simp [windowText, within, unbounded, hlimit, hoffset]

end Descriptor

namespace Sql

theorem exists_select_iff [Limits] {d : Descriptor} {style : Style} :
    (∃ answer, Sql.select style d = .ok answer) ↔ d.fault? = none ∧ Wanted.rows.Writable d := by
  constructor
  · rintro ⟨answer, h⟩
    obtain ⟨hfault, hbounds, _⟩ := Wanted.rows.exists_statement_iff.mp ⟨answer, h, rfl⟩
    exact ⟨hfault, hbounds⟩
  · rintro ⟨hfault, hbounds⟩
    exact ⟨_, select_ok hfault hbounds style⟩

/-- A query can be compiled within a window exactly if it can be without bounds, and the window can be
    written. -/
theorem exists_select_within_iff [Limits] {q : Descriptor} {w : Window} {style : Style} :
    (∃ answer, Sql.select style (q.within w) = .ok answer) ↔
      (∃ base, Sql.select style q.unbounded = .ok base) ∧
        decimalLength w.limit ≤ longestDecimal ∧ decimalLength w.offset ≤ longestDecimal := by
  rw [exists_select_iff, exists_select_iff]
  have hbounds : Wanted.rows.Writable (q.within w) ↔
      decimalLength w.limit ≤ longestDecimal ∧ decimalLength w.offset ≤ longestDecimal := by
    simp [Wanted.Writable, Descriptor.within]
  have hnone : Wanted.rows.Writable q.unbounded := by simp [Wanted.Writable, Descriptor.unbounded]
  rw [hbounds]
  exact and_congr_left' ⟨fun h => ⟨h, hnone⟩, fun h => h.1⟩

/-- The window of a query can be read off its statement. -/
theorem window?_of_select [Limits] {q : Descriptor} {w : Window} {style : Style} {answer : Statement}
    (h : Sql.select style (q.within w) = .ok answer) : window? answer.sql = some w := by
  obtain ⟨hfault, hbounds⟩ := exists_select_iff.mp ⟨answer, h⟩
  rw [select_ok hfault hbounds] at h
  have hsql := congrArg Statement.sql (Except.ok.inj h)
  have hread := window?_append (selectClause (q.within w).projection ++ " "
    ++ (q.within w).bodyText style.place ++ q.unbounded.windowText) w
  rw [← hsql, Descriptor.windowText_within]
  simpa only [String.append_assoc] using hread

end Sql

namespace Call

/-- A page is always made, and has a window of its own. -/
theorem apply_page [Limits] (q : Descriptor) {number size : Nat} (hnumber : 1 ≤ number) (hsize : 1 ≤ size) :
    (Call.page (.literal (.int number)) (.literal (.int size))).apply q
      = .ok (q.within (.ofPage number size)) := by
  have hoffset : ((number : Int) - 1) * size = ((number - 1) * size : Nat) := by
    rw [Nat.cast_mul, Nat.cast_sub hnumber, Nat.cast_one]
  rw [apply_eq_map, change_eq_ok_iff.mpr (.page (by omega) (by omega)), hoffset]
  rfl

end Call

namespace Descriptor

/-- **Pages tile the rows.** On any query, whatever its bounds, the pages of a size can be made one by one.
    Each has a window on the rows, which is what its statement ends in, and is compiled exactly if the query
    is without its bounds and the window can be written. The rows in the windows of the first pages are the
    first rows, each row is on the page of its number only, and pages past the end are empty. -/
theorem pages_tile [Limits] {α : Type} (q : Descriptor) (rows : List α) (size : Nat) (hsize : 1 ≤ size) :
    ∃ (page : Nat → Descriptor) (window : Nat → Window),
      (∀ number : Nat, 1 ≤ number →
        (Call.page (.literal (.int number)) (.literal (.int size))).apply q = .ok (page number) ∧
        (page number).limit = some ↑(window number).limit ∧
        (page number).offset = some ↑(window number).offset ∧
        ∀ style : Style,
          (∀ answer, Sql.select style (page number) = .ok answer →
            window? answer.sql = some (window number)) ∧
          ((∃ answer, Sql.select style (page number) = .ok answer) ↔
            (∃ base, Sql.select style { q with limit := none, offset := none } = .ok base) ∧
              decimalLength size ≤ longestDecimal ∧
              decimalLength ((number - 1) * size) ≤ longestDecimal)) ∧
      (∀ count : Nat, ((List.range' 1 count).flatMap fun number => (window number).keep rows)
        = rows.take (count * size)) ∧
      (∀ index number : Nat, 1 ≤ number →
        (index ∈ (window number).keep (List.range rows.length) ↔
          index < rows.length ∧ number = index / size + 1)) ∧
      ∀ number : Nat, rows.length ≤ (number - 1) * size → (window number).keep rows = [] := by
  refine ⟨fun number => q.within (.ofPage number size), fun number => .ofPage number size, ?_,
    Window.flatMap_keep_ofPage size rows, ?_, fun number => Window.keep_ofPage_of_le⟩
  · intro number hnumber
    exact ⟨Call.apply_page q hnumber hsize, rfl, rfl, fun style =>
      ⟨fun answer => window?_of_select, exists_select_within_iff⟩⟩
  · intro index number hnumber
    exact Window.mem_keep_ofPage_iff hsize hnumber

/-- A query that has bounds already. -/
def boundedQuery : Descriptor := { Descriptor.ofTable "users" with limit := some 3, offset := some 100 }

theorem pages_tile_bounded :
    1 ≤ 2 ∧ ∃ (page : Nat → Descriptor) (window : Nat → Window),
      (Call.page (.literal (.int 3)) (.literal (.int 2))).apply boundedQuery = .ok (page 3) ∧
      (∃ answer, Sql.select .qmark (page 3) = .ok answer ∧ window? answer.sql = some (window 3)) ∧
      ((List.range' 1 3).flatMap fun number => (window number).keep ["a", "b", "c", "d", "e"])
        = ["a", "b", "c", "d", "e"] ∧
      4 ∈ (window 3).keep (List.range 5) ∧ (window 4).keep ["a", "b", "c", "d", "e"] = [] := by
  obtain ⟨page, window, hpages, htile, hindex, hempty⟩ :=
    pages_tile boundedQuery ["a", "b", "c", "d", "e"] 2 (by decide)
  obtain ⟨hcall, -, -, hcompiled⟩ := hpages 3 (by decide)
  obtain ⟨hread, hexists⟩ := hcompiled .qmark
  obtain ⟨answer, hanswer⟩ := hexists.mpr ⟨⟨_, rfl⟩, by decide, by decide⟩
  exact ⟨by decide, page, window, hcall, ⟨answer, hanswer, hread answer hanswer⟩, htile 3,
    (hindex 4 3 (by decide)).mpr (by decide), hempty 4 (by decide)⟩

end Descriptor

end BoundQuery
