import BoundQuery.Text.CharacterName
import BoundQuery.Text.Codepoints

/-!
# Escapes in quoted constants

Inside the quotes of a text constant a backslash starts an escape: a line end is dropped, the letters
of the common controls stand for them, one to three octal digits or a fixed number of hexadecimal ones
give a character by number, and a name in braces gives it by name. An escape of any other character
is kept as it stands. Bytes know the same escapes but for the names and the longer numbers.
-/

namespace BoundQuery.Escape

/-- The characters that a single letter stands for after a backslash. -/
def controlEscape? (c : Char) : Option Char :=
  match c with
  | '\\' => some '\\'
  | '\'' => some '\''
  | '"' => some '"'
  | 'a' => some (Char.ofNat 0x07)
  | 'b' => some (Char.ofNat 0x08)
  | 'f' => some (Char.ofNat 0x0c)
  | 'n' => some '\n'
  | 'r' => some '\r'
  | 't' => some '\t'
  | 'v' => some (Char.ofNat 0x0b)
  | _ => none

/-- Whether a character is an octal digit. -/
def isOctal (c : Char) : Bool := '0' ≤ c && c ≤ '7'

/-- The number of exactly `count` hexadecimal digits, and what follows them. -/
def hexNumber? (count : Nat) (cs : List Char) : Option (Nat × List Char) :=
  let ds := cs.take count
  if ds.length = count && ds.all (fun c => (Text.hexDigit? c).isSome) then
    some (Text.radixValue 16 ds, cs.drop count)
  else none

/-- The characters that the inside of a text constant denotes, or nothing if an escape is broken.
    `fuel` bounds the number of characters. Lone surrogates are left out, since no string holds them:
    what is read for the escape of one is the null character of `Char.ofNat`. -/
def unescapeText : Nat → List Char → Option (List Char)
  | 0, _ => some []
  | _ + 1, [] => some []
  | fuel + 1, '\\' :: rest =>
      match rest with
      | [] => some ['\\']
      | '\n' :: rest => unescapeText fuel rest
      | c :: rest =>
          match controlEscape? c with
          | some control => (unescapeText fuel rest).map (control :: ·)
          | none =>
              if isOctal c then
                let more := (rest.take 2).takeWhile isOctal
                (unescapeText fuel (rest.drop more.length)).map
                  (Char.ofNat (Text.radixValue 8 (c :: more)) :: ·)
              else if c == 'x' || c == 'u' || c == 'U' then
                match hexNumber? (if c == 'x' then 2 else if c == 'u' then 4 else 8) rest with
                | none => none
                | some (n, rest) =>
                    if n > 0x10ffff then none
                    else (unescapeText fuel rest).map (Char.ofNat n :: ·)
              else if c == 'N' then
                match rest with
                | '\x7b' :: rest =>
                    let name := rest.takeWhile (· != '\x7d')
                    match rest.drop name.length, Text.characterNamed? name with
                    | _ :: rest, some named => (unescapeText fuel rest).map (named :: ·)
                    | _, _ => none
                | _ => none
              else (unescapeText fuel rest).map ('\\' :: c :: ·)
  | fuel + 1, c :: rest => (unescapeText fuel rest).map (c :: ·)

/-- The bytes that the inside of a bytes constant denotes, or nothing if an escape is broken or a
    character is no byte. -/
def unescapeBytes : Nat → List Char → Option (List UInt8)
  | 0, _ => some []
  | _ + 1, [] => some []
  | fuel + 1, '\\' :: rest =>
      match rest with
      | [] => some [92]
      | '\n' :: rest => unescapeBytes fuel rest
      | c :: rest =>
          match controlEscape? c with
          | some control => (unescapeBytes fuel rest).map (UInt8.ofNat control.toNat :: ·)
          | none =>
              if isOctal c then
                let more := (rest.take 2).takeWhile isOctal
                (unescapeBytes fuel (rest.drop more.length)).map
                  (UInt8.ofNat (Text.radixValue 8 (c :: more)) :: ·)
              else if c == 'x' then
                match hexNumber? 2 rest with
                | none => none
                | some (n, rest) => (unescapeBytes fuel rest).map (UInt8.ofNat n :: ·)
              else (unescapeBytes fuel rest).map (92 :: UInt8.ofNat c.toNat :: ·)
  | fuel + 1, c :: rest => (unescapeBytes fuel rest).map (UInt8.ofNat c.toNat :: ·)

/-- The text that the inside of a text constant denotes. -/
def textOf? (raw : Bool) (inside : List Char) : Option String :=
  if raw then some (String.ofList inside)
  else (unescapeText (inside.length + 1) inside).map String.ofList

/-- The bytes that the inside of a bytes constant denotes; only basic Latin characters may stand in
    it. -/
def bytesOf? (raw : Bool) (inside : List Char) : Option (List UInt8) :=
  if inside.any (fun c => c.toNat ≥ 0x80) then none
  else if raw then some (inside.map fun c => UInt8.ofNat c.toNat)
  else unescapeBytes (inside.length + 1) inside

end BoundQuery.Escape
