import BoundQuery.Term.Escape
import BoundQuery.Term.Token
import BoundQuery.Text.Identifier
import BoundQuery.Text.Normal

/-!
# From characters to tokens

`Token.scan` cuts the text of a fragment into tokens, or finds that it is none. Blanks, comments and
line ends inside brackets part tokens and are dropped; a line end outside brackets is a token. At most
200 brackets may be open at once.
-/

namespace BoundQuery.Token

open BoundQuery.Escape

/-! ## 1. Names -/

/-- Characters outside basic Latin are taken into a name first and checked afterwards. -/
def isNameStart (c : Char) : Bool := c.isAlpha || c == '_' || c.toNat ≥ 0x80

/-- The characters a name runs over. -/
def isNameChar (c : Char) : Bool := isNameStart c || c.isDigit

/-- The token of a run of name characters: a reserved word as written, or a name in normal form. Name
    characters of basic Latin are an identifier, and so is the normal form of an identifier. -/
def ofName? (cs : List Char) : Option Token :=
  let s := String.ofList cs
  if reservedWords.contains s then some (.word s)
  else if cs.all (fun c => c.toNat < 0x80) then (Text.Identifier.ofText? s).map .name
  else if Text.isIdentifierChars cs then (Text.Identifier.ofText? (Text.normalForm s)).map .name
  else none

/-! ## 2. Numbers -/

/-- Whether a text begins with another. -/
def startsWith (start : String) (cs : List Char) : Bool := start.toList.isPrefixOf cs

/-- Whether a number may end before `cs`: no name character may follow, unless it starts a word that
    can follow a number. -/
def mayEndNumber (cs : List Char) : Bool :=
  match cs with
  | [] => true
  | c :: _ =>
      ["and", "else", "for", "if", "in", "is", "or", "not"].any (startsWith · cs) || !isNameChar c

/-- The digits that a text starts with, in which single underscores may part digits. -/
def digitRun? (isDigit : Char → Bool) : List Char → Option (List Char × List Char)
  | [] => some ([], [])
  | c :: rest =>
      if isDigit c then (digitRun? isDigit rest).map fun (ds, rest) => (c :: ds, rest)
      else if c == '_' then
        match rest with
        | d :: _ => if isDigit d then digitRun? isDigit rest else none
        | [] => none
      else some ([], c :: rest)

/-- An integer with a radix mark, after the mark. -/
def radixNumber? (radix : Nat) (isDigit : Char → Bool) (cs : List Char) :
    Option (Constant × List Char) :=
  match digitRun? isDigit cs with
  | some (ds, rest) =>
      if ds.isEmpty || !mayEndNumber rest then none
      else some (.literal (.int (Text.radixValue radix ds)), rest)
  | none => none

/-- The fraction of a number: a point, and then digits or nothing. -/
def fraction? : List Char → Option (Option (List Char) × List Char)
  | '.' :: rest =>
      match rest with
      | c :: _ =>
          if c.isDigit then (digitRun? Char.isDigit rest).map fun (ds, rest) => (some ds, rest)
          else some (some [], rest)
      | [] => some (some [], [])
  | cs => some (none, cs)

/-- The exponent of a number, if one follows. An `e` without digits is no exponent but may start a
    word. -/
def exponent? (cs : List Char) : Option (Option Int × List Char) :=
  match cs with
  | e :: rest =>
      if e != 'e' && e != 'E' then some (none, cs)
      else
        let (negative, signed, digits) := match rest with
          | '-' :: ds => (true, true, ds)
          | '+' :: ds => (false, true, ds)
          | ds => (false, false, ds)
        match digits with
        | d :: _ =>
            if d.isDigit then
              (digitRun? Char.isDigit digits).map fun (ds, rest) =>
                (some (if negative then -(digitsValue ds : Int) else digitsValue ds), rest)
            else if signed || !mayEndNumber cs then none
            else some (none, cs)
        | [] => none
  | [] => some (none, [])

/-- A decimal number: an integer, a float or an imaginary one. An integer may not have leading zeros,
    unless it is zero, nor too many digits. -/
def decimalNumber? (cs : List Char) : Option (Constant × List Char) := do
  let (whole, rest) ← digitRun? Char.isDigit cs
  let (fraction, rest) ← fraction? rest
  let (power, rest) ← exponent? rest
  let digits := whole ++ fraction.getD []
  let float := Binary64.ofDecimal false (digitsValue digits)
    (power.getD 0 - (fraction.getD []).length)
  match rest with
  | c :: after =>
      if c == 'j' || c == 'J' then
        if mayEndNumber after then some (.imaginary float, after) else none
      else if !mayEndNumber rest then none
      else number whole fraction power float rest
  | [] => number whole fraction power float rest
where
  /-- The constant once the end of the number is known. -/
  number (whole : List Char) (fraction : Option (List Char)) (power : Option Int)
      (float : Binary64) (rest : List Char) : Option (Constant × List Char) :=
    if fraction.isSome || power.isSome then some (.literal (.float float), rest)
    else if whole.head? == some '0' then
      if whole.all (· == '0') then some (.literal (.int 0), rest) else none
    else if whole.length > longestDecimal then none
    else some (.literal (.int (digitsValue whole)), rest)

/-- A number at the start of a text. -/
def number? (cs : List Char) : Option (Constant × List Char) :=
  match cs with
  | '0' :: c :: rest =>
      if c == 'x' || c == 'X' then radixNumber? 16 (fun d => (Text.hexDigit? d).isSome) rest
      else if c == 'o' || c == 'O' then radixNumber? 8 isOctal rest
      else if c == 'b' || c == 'B' then radixNumber? 2 (fun d => d == '0' || d == '1') rest
      else decimalNumber? cs
  | _ => decimalNumber? cs

/-! ## 3. Quoted constants -/

/-- What the letters before a quote say of the constant. -/
structure QuoteKind where
  raw : Bool
  bytes : Bool
  interpolated : Bool

/-- The letters before a quote. -/
def quoteKind? (letters : List Char) : Option QuoteKind :=
  match String.ofList (letters.map Char.toLower) with
  | "" => some ⟨false, false, false⟩
  | "u" => some ⟨false, false, false⟩
  | "r" => some ⟨true, false, false⟩
  | "b" => some ⟨false, true, false⟩
  | "f" => some ⟨false, false, true⟩
  | "br" => some ⟨true, true, false⟩
  | "rb" => some ⟨true, true, false⟩
  | "fr" => some ⟨true, false, true⟩
  | "rf" => some ⟨true, false, true⟩
  | _ => none

/-- The inside of a constant in single quotes, and what follows it. A backslash takes the next
    character with it. -/
def insideSingle? (quote : Char) : List Char → Option (List Char × List Char)
  | [] => none
  | '\\' :: c :: rest => (insideSingle? quote rest).map fun (cs, rest) => ('\\' :: c :: cs, rest)
  | c :: rest =>
      if c == quote then some ([], rest)
      else if c == '\n' then none
      else (insideSingle? quote rest).map fun (cs, rest) => (c :: cs, rest)

/-- The inside of a constant in triple quotes, and what follows it. -/
def insideTriple? (quote : Char) : List Char → Option (List Char × List Char)
  | [] => none
  | '\\' :: c :: rest => (insideTriple? quote rest).map fun (cs, rest) => ('\\' :: c :: cs, rest)
  | c :: rest =>
      if c == quote && [quote, quote].isPrefixOf rest then some ([], rest.drop 2)
      else (insideTriple? quote rest).map fun (cs, rest) => (c :: cs, rest)

/-- A quoted constant, from its quote on. -/
def quotation? (kind : QuoteKind) (cs : List Char) : Option (Token × List Char) := do
  let (inside, rest) ← match cs with
    | q :: rest =>
        if [q, q].isPrefixOf rest then insideTriple? q (rest.drop 2) else insideSingle? q rest
    | [] => none
  if kind.interpolated then some (.interpolated kind.raw inside, rest)
  else if kind.bytes then (bytesOf? kind.raw inside).map fun bs => (.bytes bs, rest)
  else (textOf? kind.raw inside).map fun s => (.text s, rest)

/-- Whether a character is a quote. -/
def isQuote (c : Char) : Bool := c == '"' || c == '\''

/-- A quoted constant at the start of a text: at most two letters and a quote. -/
def quoteAt? (cs : List Char) : Option (QuoteKind × List Char) :=
  let letters := (cs.take 2).takeWhile Char.isAlpha
  let rest := cs.drop letters.length
  match rest with
  | q :: _ => if isQuote q then (quoteKind? letters).map (·, rest) else none
  | [] => none

/-! ## 4. Lines -/

/-- The indentation of a line and what follows it. A line that is continued counts with the
    indentation of its first part, if that has one. -/
def indentation? (column continued : Nat) : List Char → Option (Nat × List Char)
  | ' ' :: rest => indentation? (column + 1) continued rest
  | '\t' :: rest => indentation? ((column / 8 + 1) * 8) continued rest
  | '\x0c' :: rest => indentation? 0 continued rest
  | '\\' :: '\n' :: rest =>
      if rest.isEmpty then none
      else indentation? column (if continued = 0 then column else continued) rest
  | '\\' :: _ => none
  | rest => some (if continued = 0 then column else continued, rest)

/-- The bracket that closes an opening one. -/
def closingOf? (symbol : String) : Option String :=
  if symbol == "(" then some ")"
  else if symbol == "[" then some "]"
  else if symbol == "\x7b" then some "\x7d"
  else none

/-- Whether a mark closes a bracket. -/
def isClosing (symbol : String) : Bool := symbol == ")" || symbol == "]" || symbol == "\x7d"

/-- How many brackets may be open at once. -/
def bracketLimit : Nat := 200

/-- The open brackets after a mark, each by the mark that closes it. -/
def bracketsAfter? (symbol : String) (opened : List String) : Option (List String) :=
  match closingOf? symbol with
  | some closing => if opened.length ≥ bracketLimit then none else some (closing :: opened)
  | none =>
      if isClosing symbol then
        match opened with
        | closing :: rest => if closing == symbol then some rest else none
        | [] => none
      else some opened

/-! ## 5. Scanning -/

/-- One token at the start of a text that is neither blank, comment nor line end. -/
def token? (cs : List Char) : Option (Token × List Char) :=
  match quoteAt? cs with
  | some (kind, rest) => quotation? kind rest
  | none =>
      match cs with
      | [] => none
      | c :: rest =>
          if isNameStart c then
            let name := cs.takeWhile isNameChar
            (ofName? name).map (·, cs.drop name.length)
          else if c.isDigit || (c == '.' && (rest.head?.map Char.isDigit).getD false) then
            (number? cs).map fun (value, rest) => (.number value, rest)
          else
            (marks.find? (·.isPrefixOf cs)).map fun m => (.mark (String.ofList m), cs.drop m.length)

/-- Cut a text into tokens. `opened` are the open brackets, `fresh` tells the start of a line, and the
    tokens found are kept last first; `fuel` bounds the number of characters. -/
def scanFrom : Nat → List String → Bool → List Char → List Token → Option (List Token)
  | 0, _, _, _, _ => none
  | fuel + 1, opened, fresh, cs, found =>
      if fresh && opened.isEmpty then
        match indentation? 0 0 cs with
        | none => none
        | some (column, rest) =>
            match rest with
            | [] => some found.reverse
            | '\n' :: rest => scanFrom fuel opened true rest found
            | '#' :: rest =>
                match rest.dropWhile (· != '\n') with
                | [] => some found.reverse
                | _ :: rest => scanFrom fuel opened true rest found
            | _ => if column = 0 then scanFrom fuel opened false rest found else none
      else
        match cs with
        | [] => if opened.isEmpty then some found.reverse else none
        | c :: rest =>
            if c == ' ' || c == '\t' || c == '\x0c' then scanFrom fuel opened false rest found
            else if c == '#' then scanFrom fuel opened false (rest.dropWhile (· != '\n')) found
            else if c == '\n' then
              if opened.isEmpty then scanFrom fuel opened true rest (.newline :: found)
              else scanFrom fuel opened false rest found
            else if c == '\\' then
              match rest with
              | '\n' :: rest => if rest.isEmpty then none else scanFrom fuel opened false rest found
              | _ => none
            else
              match token? cs with
              | none => none
              | some (token, rest) =>
                  match token with
                  | .mark symbol =>
                      match bracketsAfter? symbol opened with
                      | some opened => scanFrom fuel opened false rest (token :: found)
                      | none => none
                  | _ => scanFrom fuel opened false rest (token :: found)

/-- Line ends of every kind become one character. -/
def unifyLines : List Char → List Char
  | '\r' :: '\n' :: rest => '\n' :: unifyLines rest
  | '\r' :: rest => '\n' :: unifyLines rest
  | c :: rest => c :: unifyLines rest
  | [] => []

/-- The tokens of a text, or nothing if it has none. Each round but the first of a line takes a
    character away. -/
def scan (cs : List Char) : Option (List Token) :=
  let cs := unifyLines cs
  scanFrom (2 * cs.length + 2) [] true cs []

end BoundQuery.Token
