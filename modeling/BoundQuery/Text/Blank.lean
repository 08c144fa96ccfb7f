/-!
# Blank characters and trimming

A table name, a join condition and the text of a fragment are looked at without the blanks around
them. Blank are the white-space characters of the character standard and the four information
separators `U+001C` to `U+001F`; a zero-width space is not.
-/

namespace BoundQuery.Text

/-- The white-space characters of the character standard. -/
def isWhiteSpace (c : Char) : Bool :=
  let n := c.toNat
  (0x09 ≤ n && n ≤ 0x0d) || n == 0x20 || n == 0x85 || n == 0xa0 || n == 0x1680
    || (0x2000 ≤ n && n ≤ 0x200a) || n == 0x2028 || n == 0x2029 || n == 0x202f || n == 0x205f
    || n == 0x3000

/-- White space, or an information separator. -/
def isBlank (c : Char) : Bool := isWhiteSpace c || (0x1c ≤ c.toNat && c.toNat ≤ 0x1f)

/-- The characters between the first and the last one for which `p` fails. -/
def trimBy (p : Char → Bool) (cs : List Char) : List Char :=
  ((cs.dropWhile p).reverse.dropWhile p).reverse

/-- A text without the blanks at its two ends. -/
def trim (s : String) : List Char := trimBy isBlank s.toList

/-- Whether a text has no character but blanks. -/
def isAllBlank (s : String) : Bool := s.toList.all isBlank

end BoundQuery.Text
