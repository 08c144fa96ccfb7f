import BoundQuery.Term.Escape

/-!
# The inside of interpolated texts

An interpolated text holds replacements in braces: an expression, then optionally an equals sign, a
conversion and a format, which may hold replacements in turn, one level down. `Interpolated.parts`
finds the texts of all the expressions, or that the inside is broken. Doubled braces stand for
themselves, but only outside formats.
-/

namespace BoundQuery.Interpolated

open BoundQuery.Escape

/-- How many brackets may be open inside one expression. -/
def bracketLimit : Nat := 200

/-- What closes a bracket. -/
def closingOf (c : Char) : Char :=
  if c == '(' then ')' else if c == '[' then ']' else '\x7d'

/-- Skip a quoted text, after its opening quote. -/
def skipQuoted? (quote : Char) (triple : Bool) : List Char → Option (List Char × List Char)
  | [] => none
  | c :: rest =>
      if c == '\\' then none
      else if c == quote && !triple then some ([c], rest)
      else if c == quote && [quote, quote].isPrefixOf rest then some ([c, c, c], rest.drop 2)
      else (skipQuoted? quote triple rest).map fun (cs, rest) => (c :: cs, rest)

/-- The text of an expression up to the mark that ends it, and what follows from that mark on.
    `opened` holds what closes the open brackets; `fuel` bounds the number of characters. -/
def expression? : Nat → List Char → List Char → Option (List Char × List Char)
  | 0, _, _ => none
  | _ + 1, _, [] => none
  | fuel + 1, opened, c :: rest =>
      let keep (cs : List Char) (opened rest : List Char) :=
        (expression? fuel opened rest).map fun (more, rest) => (cs ++ more, rest)
      if c == '\\' || c == '#' then none
      else if c == '\'' || c == '"' then
        let triple := [c, c].isPrefixOf rest
        let start := if triple then [c, c, c] else [c]
        match skipQuoted? c triple (if triple then rest.drop 2 else rest) with
        | some (inside, rest) => keep (start ++ inside) opened rest
        | none => none
      else if c == '(' || c == '[' || c == '\x7b' then
        if opened.length ≥ bracketLimit then none else keep [c] (closingOf c :: opened) rest
      else if opened.isEmpty && (c == '!' || c == ':' || c == '\x7d' || c == '=' || c == '<' || c == '>')
      then
        if c != ':' && c != '\x7d' && rest.head? == some '=' then keep [c, '='] opened (rest.drop 1)
        else if c == '<' || c == '>' then keep [c] opened rest
        else some ([], c :: rest)
      else if c == ')' || c == ']' || c == '\x7d' then
        match opened with
        | closing :: opened => if closing == c then keep [c] opened rest else none
        | [] => none
      else keep [c] opened rest

/-- Whether a text is empty but for blanks. -/
def isBlankText (cs : List Char) : Bool :=
  cs.all fun c => c == ' ' || c == '\t' || c == '\n' || c == '\x0c'

/-- Skip a conversion: `!s`, `!r` or `!a`. -/
def skipConversion? : List Char → Option (List Char)
  | '!' :: c :: rest => if c == 's' || c == 'r' || c == 'a' then some rest else none
  | '!' :: [] => none
  | cs => some cs

/-- Whether a character parts words in basic Latin. -/
def isSpace (c : Char) : Bool := c == ' ' || (9 ≤ c.toNat && c.toNat ≤ 13)

/-- Skip the equals sign that asks for the text of the expression too. -/
def skipEquals : List Char → List Char
  | '=' :: rest => rest.dropWhile isSpace
  | cs => cs

/-- The plain text up to the next replacement, the end of the format or the end; a doubled brace ends
    it too. Gives the text, whether a doubled brace ended it, and what follows. -/
def plain? (raw : Bool) (level : Nat) : Nat → List Char → Option (List Char × Bool × List Char)
  | 0, _ => none
  | _ + 1, [] => some ([], false, [])
  | fuel + 1, c :: rest =>
      let keep (cs rest : List Char) :=
        (plain? raw level fuel rest).map fun (more, doubled, rest) => (cs ++ more, doubled, rest)
      let brace (before : List Char) (c : Char) (rest : List Char) :=
        if level = 0 && rest.head? == some c then some (before ++ [c], true, rest.drop 1)
        else if level = 0 && c == '\x7d' then none
        else some (before, false, c :: rest)
      if c == '\\' && !raw then
        match rest with
        | 'N' :: '\x7b' :: rest =>
            let name := rest.takeWhile (· != '\x7d')
            keep (['\\', 'N', '\x7b'] ++ name ++ (rest.drop name.length).take 1)
              (rest.drop (name.length + 1))
        | e :: rest =>
            if e == '\x7b' || e == '\x7d' then brace ['\\'] e rest else keep ['\\', e] rest
        | [] => some (['\\'], false, [])
      else if c == '\x7b' || c == '\x7d' then brace [] c rest
      else keep [c] rest

/-- The expressions of an interpolated text from `cs` on, at a level of nesting, and what follows: the
    end at level zero, or the brace that ends the format. -/
def partsFrom (raw : Bool) : Nat → Nat → List Char → Option (List (List Char) × List Char)
  | 0, _, _ => none
  | fuel + 1, level, cs => do
      let (text, doubled, rest) ← plain? raw level (cs.length + 1) cs
      let _ ← textOf? raw text
      if doubled then partsFrom raw fuel level rest
      else
        match rest with
        | '\x7b' :: rest =>
            if level ≥ 2 then none
            else do
              let (expression, rest) ← expression? (rest.length + 1) [] rest
              if isBlankText expression then none
              let rest ← skipConversion? (skipEquals rest)
              let (inner, rest) ← match rest with
                | ':' :: rest => partsFrom raw fuel (level + 1) rest
                | rest => some ([], rest)
              match rest with
              | '\x7d' :: rest =>
                  let (more, rest) ← partsFrom raw fuel level rest
                  some (expression :: (inner ++ more), rest)
              | _ => none
        | rest => some ([], rest)

/-- The texts of all expressions inside an interpolated text, or nothing if it is broken. -/
def parts (raw : Bool) (inside : List Char) : Option (List (List Char)) :=
  match partsFrom raw (inside.length + 1) 0 inside with
  | some (expressions, []) => some expressions
  | _ => none

end BoundQuery.Interpolated
