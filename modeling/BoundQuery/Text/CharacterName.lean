import BoundQuery.Text.CharacterName.Aliases
import BoundQuery.Text.CharacterName.Alphabets
import BoundQuery.Text.CharacterName.Ancient
import BoundQuery.Text.CharacterName.Forms
import BoundQuery.Text.CharacterName.Historic
import BoundQuery.Text.CharacterName.Mathematical
import BoundQuery.Text.CharacterName.Pictographs
import BoundQuery.Text.CharacterName.Syllabaries
import BoundQuery.Text.CharacterName.Symbols
import BoundQuery.Text.Codepoints

/-!
# Characters by name

The names that version 14 of the character standard gives to characters. Most are kept in tables, each
name as what it adds to the name before; the syllables of Hangul and the unified ideographs have names
by rule. Names in the tables are found whatever the case of their letters, names by rule only as the
standard writes them.

* `characterNamed?` – the character of a name.
-/

namespace BoundQuery.Text

namespace CharacterName

/-! ## 1. Tables

A row of a table starts with small letters, which say in base 26 how many characters of the name before
it keeps. Then follows, between plus signs and in hexadecimal, how far the character is from the one
before, unless that is one, and then the rest of the name, or a comma if there is none. A row ends
where the next one starts. -/

/-- A row: how much of the name before is kept, the distance from the character before, and the rest of
    the name. -/
structure Row where
  keep : Nat
  distance : Nat
  rest : List Char

/-- Whether a character belongs to the head of a row. -/
def isHead (c : Char) : Bool := 'a' ≤ c && c ≤ 'z'

/-- Whether a character belongs to a name. -/
def isNamePart (c : Char) : Bool := c.isUpper || c.isDigit || c == ' ' || c == '-'

/-- The number that small letters denote. -/
def headValue (cs : List Char) : Nat :=
  cs.foldl (fun n c => n * 26 + (c.toNat - 'a'.toNat)) 0

/-- The first row of a table and what follows it. -/
def row (cs : List Char) : Row × List Char :=
  let head := cs.takeWhile isHead
  let cs := cs.drop head.length
  let (distance, cs) := match cs with
    | '+' :: cs =>
        let digits := cs.takeWhile (· != '+')
        (radixValue 16 digits, cs.drop (digits.length + 1))
    | cs => (1, cs)
  let rest := cs.takeWhile isNamePart
  (⟨headValue head, distance, rest⟩, cs.drop rest.length)

/-- The code of a name in a table, after the rows up to the character `code` of the name `before`. What
    stands between rows is passed over; `fuel` bounds the number of characters. -/
def findFrom (name : List Char) : Nat → List Char → Nat → List Char → Option Nat
  | 0, _, _, _ => none
  | _ + 1, [], _, _ => none
  | fuel + 1, c :: cs, code, before =>
      if isHead c then
        let (row, rest) := row (c :: cs)
        let found := before.take row.keep ++ row.rest
        let code := code + row.distance
        if found == name then some code else findFrom name fuel rest code found
      else findFrom name fuel cs code before

/-- The code of a name in a table. -/
def find? (name : List Char) (table : String) : Option Nat :=
  let cs := table.toList
  findFrom name (cs.length + 1) cs 0 []

/-- All tables. -/
def tables : List String :=
  [letters, syllabaries, symbols, forms, ancient, historic, mathematical, pictographs, aliases]

/-! ## 2. Names by rule -/

/-- The sounds at the start of a Hangul syllable. -/
def leadingSounds : List String :=
  ["G", "GG", "N", "D", "DD", "R", "M", "B", "BB", "S", "SS", "", "J", "JJ", "C", "K", "T", "P", "H"]

/-- The vowels of a Hangul syllable. -/
def vowels : List String :=
  ["A", "AE", "YA", "YAE", "EO", "E", "YEO", "YE", "O", "WA", "WAE", "OE", "YO", "U", "WEO", "WE", "WI",
    "YU", "EU", "YI", "I"]

/-- The sounds at the end of a Hangul syllable. -/
def trailingSounds : List String :=
  ["", "G", "GG", "GS", "N", "NJ", "NH", "D", "L", "LG", "LM", "LB", "LS", "LT", "LP", "LH", "M", "B",
    "BS", "S", "SS", "NG", "J", "C", "K", "T", "P", "H"]

/-- The longest sound that a text starts with: its number and what follows it. -/
def sound? (sounds : List String) (cs : List Char) : Option (Nat × List Char) :=
  (sounds.zipIdx.foldl
    (fun best (sound, i) =>
      if sound.toList.isPrefixOf cs then
        match best with
        | some (_, length) => if length < sound.length then some (i, sound.length) else best
        | none => some (i, sound.length)
      else best)
    (none : Option (Nat × Nat))).map fun (i, length) => (i, cs.drop length)

/-- The code of a Hangul syllable by its sounds. -/
def syllable? (cs : List Char) : Option Nat := do
  let (l, cs) ← sound? leadingSounds cs
  let (v, cs) ← sound? vowels cs
  let (t, cs) ← sound? trailingSounds cs
  if cs.isEmpty then some (0xac00 + (l * 21 + v) * 28 + t) else none

/-- The unified ideographs. -/
def isIdeograph (n : Nat) : Bool :=
  (0x3400 ≤ n && n ≤ 0x4dbf) || (0x4e00 ≤ n && n ≤ 0x9fff) || (0x20000 ≤ n && n ≤ 0x2a6df)
    || (0x2a700 ≤ n && n ≤ 0x2b738) || (0x2b740 ≤ n && n ≤ 0x2b81d)
    || (0x2b820 ≤ n && n ≤ 0x2cea1) || (0x2ceb0 ≤ n && n ≤ 0x2ebe0)
    || (0x30000 ≤ n && n ≤ 0x3134a)

/-- The code of a unified ideograph by its digits. -/
def ideograph? (cs : List Char) : Option Nat :=
  if cs.length = 4 || cs.length = 5 then
    if cs.all (fun c => c.isDigit || ('A' ≤ c && c ≤ 'F')) then
      let n := radixValue 16 cs
      if isIdeograph n then some n else none
    else none
  else none

/-- The code of a name. -/
def code? (name : List Char) : Option Nat :=
  let hangul := "HANGUL SYLLABLE ".toList
  let unified := "CJK UNIFIED IDEOGRAPH-".toList
  if hangul.isPrefixOf name then syllable? (name.drop hangul.length)
  else if unified.isPrefixOf name then ideograph? (name.drop unified.length)
  else tables.findSome? (find? (name.map Char.toUpper))

end CharacterName

/-- The character of a name. -/
def characterNamed? (name : List Char) : Option Char := (CharacterName.code? name).map Char.ofNat

end BoundQuery.Text
