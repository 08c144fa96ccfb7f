/-!
# Binary floating-point numbers of 64 bits, as exact data

A float literal is data of a query: it is read from text, bound as a parameter, compared with other
literals and printed back. This module fixes what such a number is, without the machine's floats:

* `Binary64` is a signed `m · 2^e` with a mantissa below `2^53`, or an infinity. "Not a number" is
  left out: no text reads as it, but a literal that is given as a value could hold it.
* `roundRatio` turns an exact quotient of naturals into the nearest such number, a tie going to the
  even mantissa. Reading a decimal and adding or multiplying two numbers go through it.
* `Quantity` is the exact value of an integer or of a float, so that the two kinds are compared
  without rounding either (`Quantity.same`, `Quantity.before`).
-/

namespace BoundQuery

/-- A floating-point number: `± mantissa · 2^exponent`, or an infinity of either sign. -/
inductive Binary64 where
  | finite (negative : Bool) (mantissa : Nat) (exponent : Int)
  | infinite (negative : Bool)
  deriving DecidableEq, Inhabited

namespace Binary64

/-! ## 1. Rounding an exact quotient -/

/-- The least exponent of the format: one unit of a subnormal number is `2^leastExponent`. -/
def leastExponent : Int := -1074

/-- The greatest exponent of a finite number. -/
def greatestExponent : Int := 971

/-- Zero of the given sign. -/
def zero (negative : Bool) : Binary64 := .finite negative 0 leastExponent

/-- The quotient of `num / den` by `2^e`, rounded down, with what is left over and the divisor it is
    left over from. -/
def scaledQuotient (num den : Nat) (e : Int) : Nat × Nat × Nat :=
  let n := if e < 0 then num * Nat.pow 2 (-e).toNat else num
  let d := if e < 0 then den else den * Nat.pow 2 e.toNat
  (n / d, n % d, d)

/-- Round half to even: `q` with remainder `r` of the divisor `d`, to the nearest whole number. -/
def nearestEven (q r d : Nat) : Nat :=
  if 2 * r > d then q + 1
  else if 2 * r = d && q % 2 = 1 then q + 1
  else q

/-- The exponent at which `num / den` has a mantissa of 53 bits, or the least one of the format. -/
def exponentOf (num den : Nat) : Int :=
  let e : Int := (num.log2 : Int) - (den.log2 : Int) - 52
  let e := if (scaledQuotient num den e).1 < Nat.pow 2 52 then e - 1 else e
  max e leastExponent

/-- The number nearest to `± num / den`, a tie going to the even mantissa. Values past the greatest
    finite number round to an infinity. -/
def roundRatio (negative : Bool) (num den : Nat) : Binary64 :=
  if num = 0 then zero negative
  else
    let e := exponentOf num den
    let (q, r, d) := scaledQuotient num den e
    let m := nearestEven q r d
    let (m, e) := if m = Nat.pow 2 53 then (Nat.pow 2 52, e + 1) else (m, e)
    if e > greatestExponent then .infinite negative else .finite negative m e

/-- The number nearest to `± m · 2^e`. -/
def roundScaled (negative : Bool) (m : Nat) (e : Int) : Binary64 :=
  if e < 0 then roundRatio negative m (Nat.pow 2 (-e).toNat)
  else roundRatio negative (m * Nat.pow 2 e.toNat) 1

/-- The float nearest to an integer, if it is within the finite range. -/
def ofInt? (n : Int) : Option Binary64 :=
  match roundRatio (n < 0) n.natAbs 1 with
  | .infinite _ => none
  | x => some x

/-! ## 2. Signs -/

/-- Whether the sign bit is set; a negative zero has it set too. -/
def isNegative : Binary64 → Bool
  | .finite negative _ _ => negative
  | .infinite negative => negative

/-- The number with its sign turned. -/
def negate : Binary64 → Binary64
  | .finite negative m e => .finite (!negative) m e
  | .infinite negative => .infinite (!negative)

@[simp] theorem negate_negate (x : Binary64) : x.negate.negate = x := by
  cases x <;> simp [negate]

/-- Whether the number is a zero of either sign. -/
def isZero : Binary64 → Bool
  | .finite _ m _ => m == 0
  | .infinite _ => false

end Binary64

/-! ## 3. Exact values -/

/-- The exact value of a number of any kind: `m · 2^e`, or beyond every finite number. -/
inductive Quantity where
  | dyadic (m e : Int)
  | above
  | below
  deriving DecidableEq

namespace Quantity

/-- The value of an integer. -/
def ofInt (n : Int) : Quantity := .dyadic n 0

/-- The value of a float. Both zeros have the value zero. -/
def ofBinary64 : Binary64 → Quantity
  | .finite true m e => .dyadic (-(m : Int)) e
  | .finite false m e => .dyadic m e
  | .infinite true => .below
  | .infinite false => .above

/-- Two mantissas brought to the smaller of their exponents. -/
def aligned (m₁ e₁ m₂ e₂ : Int) : Int × Int :=
  (m₁ * Nat.pow 2 (e₁ - min e₁ e₂).toNat, m₂ * Nat.pow 2 (e₂ - min e₁ e₂).toNat)

/-- Equality of exact values. -/
def same : Quantity → Quantity → Bool
  | .dyadic m₁ e₁, .dyadic m₂ e₂ => (aligned m₁ e₁ m₂ e₂).1 == (aligned m₁ e₁ m₂ e₂).2
  | .above, .above => true
  | .below, .below => true
  | _, _ => false

/-- Strict order of exact values. -/
def before : Quantity → Quantity → Bool
  | .dyadic m₁ e₁, .dyadic m₂ e₂ => (aligned m₁ e₁ m₂ e₂).1 < (aligned m₁ e₁ m₂ e₂).2
  | .below, .below => false
  | .below, _ => true
  | _, .above => true
  | _, _ => false

/-- The integer that a value is, if it is a whole number. -/
def whole? : Quantity → Option Int
  | .dyadic m e =>
      if e ≥ 0 then some (m * Nat.pow 2 e.toNat)
      else if m % Nat.pow 2 (-e).toNat = 0 then some (m / Nat.pow 2 (-e).toNat)
      else none
  | _ => none

end Quantity

/-! ## 4. Arithmetic -/

namespace Binary64

/-- The sum of two numbers, rounded once. `none` for infinities of opposite sign, whose sum is no
    number. A sum that is exactly zero is negative only if both operands are. -/
def add? : Binary64 → Binary64 → Option Binary64
  | .finite n₁ m₁ e₁, .finite n₂ m₂ e₂ =>
      let signed (n : Bool) (m : Nat) : Int := if n then -(m : Int) else m
      let (a, b) := Quantity.aligned (signed n₁ m₁) e₁ (signed n₂ m₂) e₂
      if a + b = 0 then some (zero (n₁ && n₂))
      else some (roundScaled (a + b < 0) (a + b).natAbs (min e₁ e₂))
  | .infinite n₁, .infinite n₂ => if n₁ = n₂ then some (.infinite n₁) else none
  | .infinite n, .finite .. => some (.infinite n)
  | .finite .., .infinite n => some (.infinite n)

/-- The product of two numbers, rounded once. `none` for zero times an infinity. -/
def mul? : Binary64 → Binary64 → Option Binary64
  | .finite n₁ m₁ e₁, .finite n₂ m₂ e₂ => some (roundScaled (n₁ != n₂) (m₁ * m₂) (e₁ + e₂))
  | x, y =>
      if x.isZero || y.isZero then none
      else some (.infinite (x.isNegative != y.isNegative))

end Binary64

end BoundQuery
