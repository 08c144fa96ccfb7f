/-!
# Bitwise operations on integers

An integer counts as its infinite two's complement digits: `-1 - n` has the digits of `n`, each
inverted.
-/

namespace BoundQuery

/-- The digits of `n` that are not digits of `m`. -/
def digitsWithout (n m : Nat) : Nat := n ^^^ (n &&& m)

/-- The common digits of two integers. -/
def bitAnd : Int → Int → Int
  | .ofNat m, .ofNat n => .ofNat (m &&& n)
  | .ofNat m, .negSucc n => .ofNat (digitsWithout m n)
  | .negSucc m, .ofNat n => .ofNat (digitsWithout n m)
  | .negSucc m, .negSucc n => .negSucc (m ||| n)

/-- The joint digits of two integers. -/
def bitOr : Int → Int → Int
  | .ofNat m, .ofNat n => .ofNat (m ||| n)
  | .ofNat m, .negSucc n => .negSucc (digitsWithout n m)
  | .negSucc m, .ofNat n => .negSucc (digitsWithout m n)
  | .negSucc m, .negSucc n => .negSucc (m &&& n)

/-- The inverted digits of an integer. -/
def bitNot (n : Int) : Int := -1 - n

end BoundQuery
