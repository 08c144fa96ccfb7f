/-!
# Tables over characters

The properties of characters that this library needs are data of the character standard. They are
written as texts of hexadecimal numbers and read once:

* `RangeTable` is a set of characters, written as alternating lengths of runs outside and inside it;
* `KeyedTable` gives a row of numbers for a number, by binary search.
-/

namespace BoundQuery.Text

/-! ## 1. Numbers in a text -/

/-- The value of a hexadecimal digit of either case. -/
def hexDigit? (c : Char) : Option Nat :=
  if '0' ≤ c && c ≤ '9' then some (c.toNat - '0'.toNat)
  else if 'a' ≤ c && c ≤ 'f' then some (c.toNat - 'a'.toNat + 10)
  else if 'A' ≤ c && c ≤ 'F' then some (c.toNat - 'A'.toNat + 10)
  else none

/-- The number that digits denote in a radix of at most sixteen. -/
def radixValue (radix : Nat) (cs : List Char) : Nat :=
  cs.foldl (fun n c => n * radix + (hexDigit? c).getD 0) 0

/-- What has been read of a table: whole rows, the row begun, the number begun; rows and numbers are
    kept last first. -/
structure TableScan where
  rows : List (List Nat)
  row : List Nat
  number : Option Nat

namespace TableScan

/-- The number begun is whole. -/
def endNumber (s : TableScan) : TableScan :=
  match s.number with
  | some n => ⟨s.rows, n :: s.row, none⟩
  | none => s

/-- The row begun is whole. -/
def endRow (s : TableScan) : TableScan := ⟨s.endNumber.row.reverse :: s.rows, [], none⟩

/-- Read one character: a digit goes on with the number, `;` ends the row, all else ends the
    number. -/
def step (s : TableScan) (c : Char) : TableScan :=
  match hexDigit? c with
  | some d => { s with number := some (s.number.getD 0 * 16 + d) }
  | none => if c == ';' then s.endRow else s.endNumber

end TableScan

/-- The rows of a table text: hexadecimal numbers parted by blanks, rows parted by `;`. -/
def tableRows (text : String) : List (List Nat) :=
  (text.toList.foldl TableScan.step ⟨[], [], none⟩).endRow.rows.reverse

/-- The running sums of a list. -/
def runningSums (xs : List Nat) : List Nat :=
  (xs.foldl (fun (total, sums) x => (total + x, (total + x) :: sums)) ((0, []) : Nat × List Nat)).2.reverse

/-! ## 2. Search -/

/-- How many of the ascending keys from `lo` to below `hi` are at most `n`, counted with the `lo` keys
    before them. -/
def countUpTo (keys : Array Nat) (n lo hi : Nat) : Nat :=
  if h : lo < hi then
    let mid := (lo + hi) / 2
    if keys.getD mid 0 ≤ n then countUpTo keys n (mid + 1) hi else countUpTo keys n lo mid
  else lo
termination_by hi - lo

/-- A set of characters, as the ascending bounds of its runs: the first is where the first run begins,
    the second where it has ended, and so on. -/
structure RangeTable where
  bounds : Array Nat

namespace RangeTable

/-- The set written as alternating lengths of runs outside and inside it. -/
def ofGaps (text : String) : RangeTable := ⟨(runningSums (tableRows text).flatten).toArray⟩

/-- Whether a character belongs to the set: an odd number of bounds lies at or before it. -/
def contains (t : RangeTable) (n : Nat) : Bool := countUpTo t.bounds n 0 t.bounds.size % 2 == 1

end RangeTable

/-- Rows of numbers under ascending keys. -/
structure KeyedTable where
  keys : Array Nat
  rows : Array (List Nat)

namespace KeyedTable

/-- The table of rows whose first number is the distance of the key from the one before. -/
def ofRows (rows : List (List Nat)) : KeyedTable :=
  ⟨(runningSums (rows.map (·.headD 0))).toArray, (rows.map (·.drop 1)).toArray⟩

/-- The row under a key. -/
def find? (t : KeyedTable) (key : Nat) : Option (List Nat) :=
  match countUpTo t.keys key 0 t.keys.size with
  | 0 => none
  | i + 1 => if t.keys.getD i 0 == key then t.rows[i]? else none

end KeyedTable

end BoundQuery.Text
