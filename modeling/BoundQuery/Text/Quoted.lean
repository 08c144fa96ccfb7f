import BoundQuery.Text.Printable

/-!
# Quoted texts

How a text, or a string of bytes, is shown inside a message. The quote is `'`, or `"` when the text
holds a `'` and no `"`. The quote in use and the backslash get a backslash, the three common controls
have their letters, and other characters that are not printable are written by number.
-/

namespace BoundQuery.Text

/-- The lower-case hexadecimal digits of `n`, padded with zeros to `width`. -/
def hexText (width n : Nat) : List Char :=
  let ds := Nat.toDigits 16 n
  List.replicate (width - ds.length) '0' ++ ds

/-- The quote for a text: double only if that spares an escape. -/
def quoteFor (cs : List Char) : Char :=
  if cs.contains '\'' && !cs.contains '"' then '"' else '\''

/-- One character inside a quoted text. -/
def quotedChar (quote c : Char) : List Char :=
  if c == quote || c == '\\' then ['\\', c]
  else if c == '\n' then ['\\', 'n']
  else if c == '\r' then ['\\', 'r']
  else if c == '\t' then ['\\', 't']
  else if isPrintable c then [c]
  else if c.toNat < 0x100 then '\\' :: 'x' :: hexText 2 c.toNat
  else if c.toNat < 0x10000 then '\\' :: 'u' :: hexText 4 c.toNat
  else '\\' :: 'U' :: hexText 8 c.toNat

/-- A text in quotes. -/
def quoted (s : String) : String :=
  let cs := s.toList
  let q := quoteFor cs
  String.ofList (q :: (cs.flatMap (quotedChar q) ++ [q]))

/-- One byte inside a quoted string of bytes. -/
def quotedByte (quote : Char) (b : UInt8) : List Char :=
  let c := Char.ofNat b.toNat
  if c == quote || c == '\\' then ['\\', c]
  else if c == '\n' then ['\\', 'n']
  else if c == '\r' then ['\\', 'r']
  else if c == '\t' then ['\\', 't']
  else if 0x20 ≤ b.toNat && b.toNat < 0x7f then [c]
  else '\\' :: 'x' :: hexText 2 b.toNat

/-- A string of bytes in quotes, marked with `b`. -/
def quotedBytes (bs : List UInt8) : String :=
  let q := quoteFor (bs.map fun b => Char.ofNat b.toNat)
  String.ofList ('b' :: q :: (bs.flatMap (quotedByte q) ++ [q]))

end BoundQuery.Text
