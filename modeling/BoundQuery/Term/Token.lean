import BoundQuery.Term.Basic

/-!
# Tokens
-/

namespace BoundQuery

/-- A token of a fragment's text. Names are in normal form; the inside of an interpolated text is kept
    as written, as its parts are terms of their own. -/
inductive Token where
  | name (id : Text.Identifier)
  | word (reserved : String)
  | number (value : Constant)
  | text (value : String)
  | bytes (value : List UInt8)
  | interpolated (raw : Bool) (inside : List Char)
  | mark (symbol : String)
  | newline

namespace Token

/-- The reserved words. -/
def reservedWords : List String :=
  ["False", "None", "True", "and", "as", "assert", "async", "await", "break", "class", "continue",
    "def", "del", "elif", "else", "except", "finally", "for", "from", "global", "if", "import", "in",
    "is", "lambda", "nonlocal", "not", "or", "pass", "raise", "return", "try", "while", "with",
    "yield"]

/-- The marks of three, two and one characters, longest first. -/
def marks : List (List Char) :=
  ["**=", "//=", ">>=", "<<=", "...", "**", "//", "<<", ">>", "<=", ">=", "==", "!=", "->", "+=",
    "-=", "*=", "/=", "%=", "&=", "|=", "^=", "@=", ":=", "<>", "(", ")", "[", "]", "\x7b", "\x7d",
    ",", ":", ".", ";", "@", "=", "+", "-", "*", "/", "|", "&", "<", ">", "%", "^",
    "~"].map String.toList

end Token

end BoundQuery
