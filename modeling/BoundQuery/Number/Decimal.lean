import BoundQuery.Number.Binary64

/-!
# Decimal text of numbers

* `decimal?` writes an integer, unless it has too many digits.
* `Binary64.ofDecimal` reads `digits · 10^power`, correctly rounded.
* `Binary64.shortest` gives the fewest decimal digits that read back as the number, and of those the
  ones nearest to it.
* `FloatFormat` holds the decisions of the written form; `FloatFormat.literal` is the one used for
  float literals: positional from `10^-4` up to below `10^16`, a whole number keeps `.0`, and an
  exponent has a sign and at least two digits.
* `Binary64.read?` reads such a text back.
-/

namespace BoundQuery

/-! ## 1. Reading digits -/

/-- The number of decimal digits of `n`; zero has one. -/
def decimalLength (n : Nat) : Nat := (Nat.toDigits 10 n).length

/-- The most decimal digits of an integer that is read from a text or written as one. -/
def longestDecimal : Nat := 4300

/-- An integer in decimal, if it is not too long to be written. -/
def decimal? (n : Int) : Option String :=
  if decimalLength n.natAbs ≤ longestDecimal then some n.repr else none

/-- The digits of a text, most significant first, as a natural number. Other characters are passed
    over, so that digit groups may be parted. -/
def digitsValue (cs : List Char) : Nat :=
  cs.foldl (fun n c => if c.isDigit then n * 10 + (c.toNat - '0'.toNat) else n) 0

namespace Binary64

/-- The number nearest to `± digits · 10^power`. Powers far outside the range are settled by the
    count of digits, so that no huge power of ten is formed. -/
def ofDecimal (negative : Bool) (digits : Nat) (power : Int) : Binary64 :=
  if digits = 0 then zero negative
  else
    let magnitude : Int := (decimalLength digits : Int) + power
    if magnitude > 310 then .infinite negative
    else if magnitude < -330 then zero negative
    else if power ≥ 0 then roundRatio negative (digits * Nat.pow 10 power.toNat) 1
    else roundRatio negative digits (Nat.pow 10 (-power).toNat)

/-! ## 2. The shortest digits -/

/-- The greatest `k` with `10^k ≤ num / den`, found from the guess `k` by at most `steps` steps
    up. -/
def tenPower (num den : Nat) : Nat → Int → Int
  | 0, k => k
  | steps + 1, k =>
      let next := k + 1
      let fits := if next ≥ 0 then den * Nat.pow 10 next.toNat ≤ num
        else den ≤ num * Nat.pow 10 (-next).toNat
      if fits then tenPower num den steps next else k

/-- The decimal exponent of `num / den`: the power of ten of its first digit. -/
def decimalExponent (num den : Nat) : Int :=
  let bits : Int := (num.log2 : Int) - (den.log2 : Int)
  tenPower num den 4 (Int.fdiv (bits * 30103) 100000 - 2)

/-- Of the two neighbours of `num / den` on the grid of step `10^scale`, the one that reads back as
    `x`; of two, the nearer, and the even one of two equally near. -/
def onGrid? (x : Binary64) (num den : Nat) (scale : Int) : Option Nat :=
  let n := if scale < 0 then num * Nat.pow 10 (-scale).toNat else num
  let d := if scale < 0 then den else den * Nat.pow 10 scale.toNat
  let low := n / d
  let rest := n % d
  let lowFits := low != 0 && ofDecimal false low scale == x
  let highFits := ofDecimal false (low + 1) scale == x
  if lowFits && highFits then some (nearestEven low rest d)
  else if lowFits then some low
  else if highFits then some (low + 1)
  else none

/-- The first grid of `digits`, `digits + 1`, … significant digits that holds a text of `x`, among
    at most `tries` of them. -/
def firstGrid (x : Binary64) (num den : Nat) (exponent : Int) : Nat → Nat → Nat × Int
  | 0, digits => (0, exponent - digits)
  | tries + 1, digits =>
      let scale := exponent - digits + 1
      match onGrid? x num den scale with
      | some n => (n, scale)
      | none => firstGrid x num den exponent tries (digits + 1)

/-- The digits of `n` without trailing zeros; a lone zero stays. -/
def significant (n : Nat) : List Char :=
  let ds := ((Nat.toDigits 10 n).reverse.dropWhile (· == '0')).reverse
  if ds.isEmpty then ['0'] else ds

/-- The shortest digits of the positive number `m · 2^e`, and the power of ten of the first one. -/
def shortest (m : Nat) (e : Int) : List Char × Int :=
  let num := if e < 0 then m else m * Nat.pow 2 e.toNat
  let den := if e < 0 then Nat.pow 2 (-e).toNat else 1
  let (n, scale) := firstGrid (roundRatio false num den) num den (decimalExponent num den) 17 1
  (significant n, (decimalLength n : Int) + scale - 1)

end Binary64

/-! ## 3. The written form -/

/-- The decisions of a written float: from which decimal exponent on, and below which, it is
    positional; whether a whole number keeps a fractional zero; the least width of an exponent. -/
structure FloatFormat where
  positionalFrom : Int
  positionalBelow : Int
  keepFraction : Bool
  exponentWidth : Nat

namespace FloatFormat

/-- Float literals: positional from `10^-4` to below `10^16`, `.0` kept, two exponent digits. -/
def literal : FloatFormat := ⟨-4, 16, true, 2⟩

/-- Imaginary parts: as float literals, without a fractional zero. -/
def imaginary : FloatFormat := ⟨-4, 16, false, 2⟩

end FloatFormat

namespace Binary64

/-- An exponent with its sign, padded with zeros to the least width. -/
def exponentText (width : Nat) (k : Int) : String :=
  let ds := (Nat.toDigits 10 k.natAbs)
  (if k < 0 then "e-" else "e+") ++ String.ofList (List.replicate (width - ds.length) '0' ++ ds)

/-- Significant digits `ds`, the first one at `10^k`, in the given notation. -/
def layout (style : FloatFormat) (ds : List Char) (k : Int) : String :=
  if style.positionalFrom ≤ k && k < style.positionalBelow then
    if k < 0 then
      String.ofList ('0' :: '.' :: (List.replicate (-k - 1).toNat '0' ++ ds))
    else
      let count := k.toNat + 1
      let whole := ds.take count ++ List.replicate (count - ds.length) '0'
      let fraction := ds.drop count
      if fraction.isEmpty then
        String.ofList whole ++ (if style.keepFraction then ".0" else "")
      else String.ofList (whole ++ '.' :: fraction)
  else
    match ds with
    | [] => ""
    | [d] => String.ofList [d] ++ exponentText style.exponentWidth k
    | d :: rest => String.ofList (d :: '.' :: rest) ++ exponentText style.exponentWidth k

/-- The text of a number in a notation. -/
def text (style : FloatFormat) : Binary64 → String
  | .infinite negative => if negative then "-inf" else "inf"
  | .finite negative m e =>
      let (ds, k) := if m = 0 then (['0'], 0) else shortest m e
      (if negative then "-" else "") ++ layout style ds k

/-! ## 4. Reading a text back -/

/-- An exponent part: empty, or `e` with an optional sign and digits. -/
def readExponent? : List Char → Option Int
  | [] => some 0
  | c :: rest =>
      if c != 'e' && c != 'E' then none
      else
        let (negative, ds) := match rest with
          | '-' :: ds => (true, ds)
          | '+' :: ds => (false, ds)
          | ds => (false, ds)
        if ds.isEmpty || !ds.all Char.isDigit then none
        else some (if negative then -(digitsValue ds : Int) else digitsValue ds)

/-- An unsigned decimal: digits, an optional fraction and an optional exponent. -/
def readUnsigned? (negative : Bool) (cs : List Char) : Option Binary64 :=
  let whole := cs.takeWhile Char.isDigit
  let (fraction, rest) := match cs.dropWhile Char.isDigit with
    | '.' :: rest => (rest.takeWhile Char.isDigit, rest.dropWhile Char.isDigit)
    | rest => ([], rest)
  if whole.isEmpty && fraction.isEmpty then none
  else (readExponent? rest).map fun k =>
    ofDecimal negative (digitsValue (whole ++ fraction)) (k - fraction.length)

/-- The number that a text denotes: a signed decimal, or `inf`. -/
def read? (s : String) : Option Binary64 :=
  let (negative, cs) := match s.toList with
    | '-' :: cs => (true, cs)
    | '+' :: cs => (false, cs)
    | cs => (false, cs)
  if cs == ['i', 'n', 'f'] then some (.infinite negative) else readUnsigned? negative cs

end Binary64

end BoundQuery
