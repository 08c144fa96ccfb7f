import BoundQuery.Text.Listing
import BoundQuery.Text.Quoted

/-!
# Placeholder styles

A statement names each bound value by a placeholder. A style writes the placeholder of a position,
counted from one, and has the name under which a statement reports it. A `StyleBook` holds the styles
that can be asked for by name; a later entry of a name takes the place of an earlier one.
-/

namespace BoundQuery.Sql

/-- A way to write placeholders. -/
structure Style where
  reported : String
  place : Nat → String

namespace Style

/-- Every placeholder is a question mark. -/
def qmark : Style := ⟨"qmark", fun _ => "?"⟩

/-- Every placeholder is `%s`. -/
def format : Style := ⟨"format", fun _ => "%s"⟩

/-- A placeholder is a colon and its position. -/
def numeric : Style := ⟨"numeric", fun position => ":" ++ position.repr⟩

/-- The style that writes a text with the position in place of every `#`. -/
def ofTemplate (template reported : String) : Style :=
  ⟨reported, fun position =>
    String.ofList (template.toList.flatMap fun c =>
      if c == '#' then (Nat.toDigits 10 position) else [c])⟩

end Style

/-- The styles that can be asked for, each under a name, in order of name. -/
structure StyleBook where
  entries : List (String × Style)

namespace StyleBook

/-- The styles known from the start. -/
def standard : StyleBook :=
  ⟨[("format", Style.format), ("numeric", Style.numeric), ("qmark", Style.qmark)]⟩

/-- Insert an entry in order of name, in place of an entry of the same name. -/
def insert (name : String) (style : Style) : List (String × Style) → List (String × Style)
  | [] => [(name, style)]
  | entry :: rest =>
      if name = entry.1 then (name, style) :: rest
      else if name < entry.1 then (name, style) :: entry :: rest
      else entry :: insert name style rest

/-- The book with one more style. -/
def register (book : StyleBook) (name : String) (style : Style) : StyleBook :=
  ⟨insert name style book.entries⟩

/-- The names of the styles, in order. -/
def names (book : StyleBook) : List String := book.entries.map (·.1)

/-- The style under a name. -/
def find? (book : StyleBook) (name : String) : Option Style :=
  (book.entries.find? fun entry => entry.1 == name).map (·.2)

end StyleBook

end BoundQuery.Sql
