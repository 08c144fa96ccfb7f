import BoundQuery.Text.Composition
import BoundQuery.Text.Decomposition

/-!
# Compatibility normal form

Two spellings of one name, such as a ligature and its letters, are the same name. `normalForm` brings
a text to normal form KC: every character is replaced by its full compatibility decomposition, marks
are put in order of their combining class, and what composes is composed again.
-/

namespace BoundQuery.Text

/-! ## 1. Hangul syllables -/

/-- The first syllable of Hangul. -/
def syllableBase : Nat := 0xac00

/-- The number of syllables of Hangul: 19 leading consonants, 21 vowels, 28 endings. -/
def syllableCount : Nat := 19 * 21 * 28

/-- The letters of a syllable: a leading consonant, a vowel and, if there is one, an ending. -/
def syllableLetters? (n : Nat) : Option (List Nat) :=
  if syllableBase ≤ n && n < syllableBase + syllableCount then
    let i := n - syllableBase
    let ending := i % 28
    some ([0x1100 + i / (21 * 28), 0x1161 + i % (21 * 28) / 28]
      ++ (if ending = 0 then [] else [0x11a7 + ending]))
  else none

/-- The syllable of a leading consonant and a vowel, or of an open syllable and an ending. -/
def syllableOf? (a b : Nat) : Option Nat :=
  if 0x1100 ≤ a && a < 0x1100 + 19 && 0x1161 ≤ b && b < 0x1161 + 21 then
    some (syllableBase + ((a - 0x1100) * 21 + (b - 0x1161)) * 28)
  else if syllableBase ≤ a && a < syllableBase + syllableCount && (a - syllableBase) % 28 = 0
      && 0x11a7 < b && b < 0x11a7 + 28 then
    some (a + (b - 0x11a7))
  else none

/-! ## 2. Decomposition and order -/

/-- The full decomposition of one character. -/
def decompose (n : Nat) : List Nat :=
  match syllableLetters? n with
  | some letters => letters
  | none => (decompositions.find? n).getD [n]

/-- Put a mark before the marks of a higher class at the end of what came before, given last first.
    A character that is no mark is never passed. -/
def placeMark (mark markClass : Nat) : List Nat → List Nat
  | [] => [mark]
  | last :: rest =>
      if combiningClass last > markClass then last :: placeMark mark markClass rest
      else mark :: last :: rest

/-- The characters with every run of marks in order of combining class, equal ones kept in place. -/
def orderMarks (cs : List Nat) : List Nat :=
  (cs.foldl (fun done c =>
    let k := combiningClass c
    if k = 0 then c :: done else placeMark c k done) []).reverse

/-! ## 3. Composition -/

/-- What two characters compose to. -/
def compositeOf? (a b : Nat) : Option Nat :=
  match syllableOf? a b with
  | some s => some s
  | none => tabledComposite? a b

/-- Compose the characters `cs` with the last base character `base`; `marks` are the characters after
    it that did not compose, last first. A mark composes only if no mark of the same or a higher class
    stands between. -/
def composeFrom (base : Nat) (marks : List Nat) : List Nat → List Nat
  | [] => base :: marks.reverse
  | c :: rest =>
      let k := combiningClass c
      let free := match marks with
        | [] => true
        | last :: _ => combiningClass last < k
      match (if free then compositeOf? base c else none) with
      | some composite => composeFrom composite marks rest
      | none =>
          if k = 0 then base :: (marks.reverse ++ composeFrom c [] rest)
          else composeFrom base (c :: marks) rest

/-- Compose a list of characters; marks before the first base character stay as they are. -/
def compose : List Nat → List Nat
  | [] => []
  | c :: rest => if combiningClass c = 0 then composeFrom c [] rest else c :: compose rest

/-- The compatibility normal form of a text. -/
def normalForm (s : String) : String :=
  let parts := s.toList.flatMap fun c => decompose c.toNat
  String.ofList ((compose (orderMarks parts)).map Char.ofNat)

end BoundQuery.Text
