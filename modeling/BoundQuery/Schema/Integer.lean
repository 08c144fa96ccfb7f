import BoundQuery.Schema.Data
import BoundQuery.Text.Blank

/-!
# Integers from data

Where data should be an integer, a whole float and a decimal text are taken for one too.

* `plainInteger` reads a text in plain form: a minus sign or none, and digits without leading zeros.
* `cleaned?` brings a looser text into a form that may be plain: blanks around it, a plus sign, leading
  zeros, a tail of zeros after a point and single underscores fall away.
* `integerOfText` reads a text as it stands, and else what cleaning leaves of it.
* `integerOfFloat` takes a float that is whole and not too large.
-/

namespace BoundQuery

/-! ## 1. The plain form -/

/-- A natural number in plain form. Too many digits are too many, whatever follows them. -/
def plainNat (cs : List Char) : Except IssueKind Nat :=
  let digits := cs.takeWhile Char.isDigit
  match cs with
  | ['0'] => .ok 0
  | c :: _ =>
      if c == '0' || !c.isDigit then .error .unreadableInteger
      else if digits.length > longestDecimal then .error .tooLarge
      else if digits.length < cs.length then .error .unreadableInteger
      else .ok (digitsValue digits)
  | [] => .error .unreadableInteger

/-- An integer in plain form. -/
def plainInteger : List Char → Except IssueKind Int
  | '-' :: cs => (plainNat cs).map fun n => -Int.ofNat n
  | cs => (plainNat cs).map Int.ofNat

/-! ## 2. Cleaning -/

/-- What follows leading zeros and underscores: a number that may have a sign of its own, or a point
    and what stands after it. `last` is the character before; it is kept before a point and at the
    end. -/
def afterZeros? (last : Char) : List Char → Option (List Char)
  | [] => some [last]
  | c :: cs =>
      if c == '0' || c == '_' then afterZeros? c cs
      else if c.isDigit || c == '-' then some (c :: cs)
      else if c == '.' then some (last :: c :: cs)
      else none

/-- A number without its leading zeros. It starts with a digit. -/
def withoutZeros? : List Char → Option (List Char)
  | [] => none
  | c :: cs =>
      if c == '0' then afterZeros? c cs
      else if c.isDigit then some (c :: cs)
      else none

/-- A number without a point that only zeros follow, of which there is one at least. -/
def withoutTail (cs : List Char) : List Char :=
  let whole := cs.takeWhile (· != '.')
  let tail := (cs.drop whole.length).drop 1
  if !tail.isEmpty && tail.all (· == '0') then whole else cs

/-- Whether two underscores stand side by side. -/
def doublesUnderscore : List Char → Bool
  | '_' :: '_' :: _ => true
  | _ :: cs => doublesUnderscore cs
  | [] => false

/-- A number without its underscores, if they stand singly and neither first nor last. -/
def withoutUnderscores (cs : List Char) : List Char :=
  if cs.head? == some '_' || cs.getLast? == some '_' || doublesUnderscore cs then cs
  else cs.filter (· != '_')

/-- A number after its sign, cleaned. -/
def cleanedNumber? (cs : List Char) : Option (List Char) :=
  (withoutZeros? cs).map fun cs => withoutUnderscores (withoutTail cs)

/-- A text, cleaned. -/
def cleaned? (cs : List Char) : Option (List Char) :=
  match Text.trimBy Text.isWhiteSpace cs with
  | '+' :: cs => cleanedNumber? cs
  | '-' :: cs => (cleanedNumber? cs).map ('-' :: ·)
  | cs => cleanedNumber? cs

/-! ## 3. Texts and floats -/

/-- The integer of a text. Only a text in plain form is found too large; a text that has to be cleaned
    is unreadable then. -/
def integerOfText (s : String) : Except IssueKind Int :=
  match plainInteger s.toList with
  | .ok n => .ok n
  | .error .tooLarge => .error .tooLarge
  | .error _ =>
      match (cleaned? s.toList).map plainInteger with
      | some (.ok n) => .ok n
      | _ => .error .unreadableInteger

/-- The bound that a float stays within on both sides to be taken for an integer. -/
def wholeFloatBound : Int := Nat.pow 2 63

/-- The integer of a float. -/
def integerOfFloat (x : Binary64) : Except IssueKind Int :=
  match x with
  | .infinite _ => .error .infinite
  | x =>
      match (Quantity.ofBinary64 x).whole? with
      | none => .error .fractional
      | some n => if -wholeFloatBound < n && n < wholeFloatBound then .ok n else .error .tooLarge

end BoundQuery
