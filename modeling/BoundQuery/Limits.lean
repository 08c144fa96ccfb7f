/-!
# Limits to nesting

Trees and terms are gone through by functions that call each other, and only so many calls can be nested.
A part can lie several calls below its whole, and how many depends on the whole; so what is counted is calls
and not levels.

* `Limits` are the numbers of calls that a machine has room for. They are left open, so that what is proved
  here holds whatever they are.
* `within` is a recursion that may nest `room` calls; its step says what is done with a whole, given what is
  done with a part that lies so many calls below.
-/

namespace BoundQuery

/-- How deep a machine can nest what it is given. -/
class Limits where
  /-- How deep a term may be nested to be parsed. -/
  parsing : Nat
  /-- How many calls may be nested to turn a term into a tree. -/
  reading : Nat
  /-- How many calls may be nested to write a tree. -/
  writing : Nat
  /-- There is room to read a predicate that has no other in it. -/
  four_le_reading : 4 ≤ reading
  /-- There is room to write a predicate that has no other in it. -/
  six_le_writing : 6 ≤ writing
  /-- There is room to parse what there is room to read. -/
  reading_add_four_le_parsing : reading + 4 ≤ parsing

/-- The limits of a common machine. -/
instance Limits.standard : Limits := ⟨2900, 960, 960, by decide, by decide, by decide⟩

/-- What is done `calls` calls below where `room` calls are left: `step` says what is done with a whole,
    given what is done with its parts, and `spent` is done where no call is left. -/
def below {α : Type} (spent : α) (step : (Nat → α) → α) : Nat → Nat → α
  | 0, _ => spent
  | room + 1, 0 => step (below spent step room)
  | room + 1, calls + 1 => below spent step room calls

/-- What is done where `room` calls are left. -/
def within {α : Type} (spent : α) (step : (Nat → α) → α) (room : Nat) : α := below spent step room 0

end BoundQuery
