import BoundQuery.Term.Interpolated
import BoundQuery.Term.Lexer

/-!
# From tokens to terms

The grammar of expressions. A `Grammar` holds the readers that nested parts need; `Grammar.next`
gives the readers one level further out, each of which uses the inner ones only after a token of its
own, so that a grammar of as many levels as there are tokens reads every text (`Grammar.ofDepth`).

* `Term.parse?` reads the tokens of a whole text.
-/

namespace BoundQuery

/-- Reading from a list of tokens; there is no second try. -/
abbrev Reading := StateT (List Token) Option

namespace Reading

/-! ## 1. Single tokens -/

/-- Whether the next token is the mark `symbol`. -/
def atMark (symbol : String) : Reading Bool := do
  match ← get with
  | .mark s :: _ => return s == symbol
  | _ => return false

/-- Whether the next token is the reserved word `reserved`. -/
def atWord (reserved : String) : Reading Bool := do
  match ← get with
  | .word w :: _ => return w == reserved
  | _ => return false

/-- Pass over the next token. -/
def skip : Reading Unit := modify (·.drop 1)

/-- Take the mark `symbol` if it is next. -/
def takeMark (symbol : String) : Reading Bool := do
  if ← atMark symbol then skip; return true else return false

/-- Take the reserved word `reserved` if it is next. -/
def takeWord (reserved : String) : Reading Bool := do
  if ← atWord reserved then skip; return true else return false

/-- The mark `symbol`, which must be next. -/
def mark (symbol : String) : Reading Unit := do
  if ← takeMark symbol then return () else failure

/-- The reserved word `reserved`, which must be next. -/
def word (reserved : String) : Reading Unit := do
  if ← takeWord reserved then return () else failure

/-- A name, which must be next. -/
def name : Reading Text.Identifier := do
  match ← get with
  | .name id :: rest => set rest; return id
  | _ => failure

/-! ## 2. Repetition -/

/-- Read items as long as `more` takes what announces one, fewer than `fuel` of them. -/
def many {α : Type} (more : Reading Bool) (item : Reading α) : Nat → Reading (List α)
  | 0 => failure
  | fuel + 1 => do
      if ← more then
        let x ← item
        let xs ← many more item fuel
        return x :: xs
      else return []

/-- Extend a value as long as `step` finds something to extend it by, fewer than `fuel` times. -/
def extend {α : Type} (step : α → Reading (Option α)) : Nat → α → Reading α
  | 0, _ => failure
  | fuel + 1, x => do
      match ← step x with
      | some y => extend step fuel y
      | none => return x

/-- Items parted by commas, with an optional comma at the end, up to where `ends` holds. Tells whether
    there was a comma. -/
def commaList {α : Type} (ends : Reading Bool) (item : Reading α) (fuel : Nat) :
    Reading (List α × Bool) := do
  let first ← item
  let comma ← atMark ","
  let more := do
    if ← takeMark "," then return !(← ends) else return false
  return (first :: (← many more item fuel), comma)

end Reading

/-- The readers that the nested parts of a term need. `accepts` tells whether the inside of an
    interpolated text is right, and `size` is greater than the number of tokens, so that no loop over
    tokens takes as many rounds. -/
structure Grammar where
  size : Nat
  primary : Reading Term
  expression : Reading Term
  disjunction : Reading Term
  inversion : Reading Term
  operand : Reading Term
  factor : Reading Term
  accepts : Bool → List Char → Bool

namespace Grammar

open Reading

/-! ## 3. Parts in brackets -/

/-- Whether an expression that is given a name comes next. -/
def atNamed : Reading Bool := do
  match ← get with
  | .name _ :: .mark ":=" :: _ => return true
  | _ => return false

/-- An expression that may be given a name. -/
def named (g : Grammar) : Reading Term := do
  match ← get with
  | .name id :: .mark ":=" :: rest =>
      set rest
      return .other .named [.name id, ← g.expression]
  | _ => g.expression

/-- An item of a display: an expression that may be given a name, or a starred operand. -/
def item (g : Grammar) : Reading Term := do
  if ← takeMark "*" then return .other .starred [← g.operand] else g.named

/-- An expression or a starred operand. -/
def starredOr (g : Grammar) : Reading Term := do
  if ← takeMark "*" then return .other .starred [← g.operand] else g.expression

/-- Whether an item is starred. -/
def isStarred : Term → Bool
  | .other .starred _ => true
  | _ => false

mutual

/-- Whether a term can be assigned to. -/
def isTarget : Term → Bool
  | .name _ => true
  | .access .. => true
  | .subscript .. => true
  | .list items => areTargets items
  | .tuple items => areTargets items
  | _ => false

/-- Whether the items of a display can all be assigned to; each may be starred. -/
def areTargets : List Term → Bool
  | [] => true
  | .other .starred [t] :: ts => isTarget t && areTargets ts
  | t :: ts => isTarget t && areTargets ts

end

/-- Whether a clause of a comprehension follows. -/
def atClause : Reading Bool := do
  return (← atWord "for") || (← atWord "async")

/-- What the values of a comprehension are assigned to. -/
def targets (g : Grammar) : Reading (List Term) := do
  let target := do
    let starred ← takeMark "*"
    let t ← g.primary
    if !isTarget t then failure
    return if starred then .other .starred [t] else t
  return (← commaList (atWord "in") target g.size).1

/-- The clauses of a comprehension. -/
def clauses (g : Grammar) : Reading (List Term) := do
  let clause := do
    let _ ← takeWord "async"
    word "for"
    let targets ← g.targets
    word "in"
    let source ← g.disjunction
    let conditions ← many (takeWord "if") g.disjunction g.size
    return targets ++ source :: conditions
  return (← many atClause clause g.size).flatten

/-- What follows a `yield`. -/
def yielded (g : Grammar) : Reading Term := do
  if ← takeWord "from" then return .other .yieldFrom [← g.expression]
  else if ← atMark ")" then return .other .yield []
  else return .other .yield (← commaList (atMark ")") g.starredOr g.size).1

/-- The members of a display from its first one up to the closing mark, and whether there was a
    comma. -/
def membersUpTo {α : Type} (g : Grammar) (closing : String) (member : Reading α) (first : α) :
    Reading (List α × Bool) := do
  if ← takeMark closing then return ([first], false)
  mark ","
  if ← takeMark closing then return ([first], true)
  let (rest, _) ← commaList (atMark closing) member g.size
  mark closing
  return (first :: rest, true)

/-- The clauses of a comprehension up to the closing mark. -/
def clausesUpTo (g : Grammar) (closing : String) : Reading (List Term) := do
  let clauses ← g.clauses
  mark closing
  return clauses

/-- What follows an opening parenthesis: nothing, a term, a tuple or a generator. -/
def parenthesised (g : Grammar) : Reading Term := do
  if ← takeMark ")" then return .tuple []
  else if ← takeWord "yield" then
    let t ← g.yielded
    mark ")"
    return t
  else
    let first ← g.item
    if (← atClause) && !isStarred first then
      return .other .generator (first :: (← g.clausesUpTo ")"))
    let (items, comma) ← g.membersUpTo ")" g.item first
    if comma then return .tuple items
    else if isStarred first then failure
    else return first

/-- What follows an opening square bracket: a list or a comprehension. -/
def bracketed (g : Grammar) : Reading Term := do
  if ← takeMark "]" then return .list []
  else
    let first ← g.item
    if (← atClause) && !isStarred first then
      return .other .listOf (first :: (← g.clausesUpTo "]"))
    return .list (← g.membersUpTo "]" g.item first).1

/-- An entry of a dictionary display: a key and a value, or the entries of another dictionary. -/
def entry (g : Grammar) : Reading (Term × Term) := do
  if ← takeMark "**" then return (.other .spread [], ← g.operand)
  else
    let key ← g.expression
    mark ":"
    return (key, ← g.expression)

/-- The rest of a dictionary display after its first entry. -/
def dictionary (g : Grammar) (first : Term × Term) (spread : Bool) : Reading Term := do
  if (← atClause) && !spread then
    return .other .dictOf (first.1 :: first.2 :: (← g.clausesUpTo "\x7d"))
  let (entries, _) ← g.membersUpTo "\x7d" g.entry first
  return .dict (entries.map (·.1)) (entries.map (·.2))

/-- What follows an opening brace: a dictionary, a set or a comprehension of one of them. -/
def braced (g : Grammar) : Reading Term := do
  if ← takeMark "\x7d" then return .dict [] []
  else if ← atMark "**" then g.dictionary (← g.entry) true
  else
    let isNamed ← atNamed
    let first ← g.item
    if (← atMark ":") && !isStarred first && !isNamed then
      mark ":"
      g.dictionary (first, ← g.expression) false
    else if (← atClause) && !isStarred first then
      return .other .setOf (first :: (← g.clausesUpTo "\x7d"))
    else return .set (← g.membersUpTo "\x7d" g.item first).1

/-! ## 4. Calls and subscripts -/

/-- What a call has been given so far: after a named argument no plain one may follow, and after the
    entries of a dictionary no starred one. -/
inductive CallPhase where
  | plain | named | spread
  deriving DecidableEq

/-- One argument of a call, whether it is named, and the phase that follows. -/
def argument (g : Grammar) (phase : CallPhase) : Reading (Term × Bool × CallPhase) := do
  match ← get with
  | .name _ :: .mark "=" :: rest =>
      set rest
      let value ← g.expression
      return (value, true, if phase = .plain then .named else phase)
  | .mark "**" :: rest =>
      set rest
      return (← g.expression, true, .spread)
  | .mark "*" :: rest =>
      if phase = .spread then failure
      set rest
      return (.other .starred [← g.expression], false, phase)
  | _ =>
      if phase ≠ .plain then failure
      return (← g.named, false, phase)

/-- The arguments of a call up to its closing parenthesis, those without a name first. A generator
    that is the only argument needs no parentheses of its own. -/
def arguments (g : Grammar) :
    Nat → CallPhase → List Term → List Term → Reading (List Term × List Term)
  | 0, _, _, _ => failure
  | fuel + 1, phase, plain, keyed => do
      if ← takeMark ")" then return (plain.reverse, keyed.reverse)
      let (t, isKeyed, phase) ← g.argument phase
      if plain.isEmpty && keyed.isEmpty && !isKeyed && !isStarred t then
        if ← atClause then
          return ([.other .generator (t :: (← g.clausesUpTo ")"))], [])
      let plain := if isKeyed then plain else t :: plain
      let keyed := if isKeyed then t :: keyed else keyed
      if ← takeMark "," then g.arguments fuel phase plain keyed
      else
        mark ")"
        return (plain.reverse, keyed.reverse)

/-- A bound of a slice, if there is one. -/
def bound (g : Grammar) : Reading (List Term) := do
  if (← atMark ":") || (← atMark ",") || (← atMark "]") then return [] else return [← g.expression]

/-- The rest of a slice, from its first colon on. -/
def sliceFrom (g : Grammar) (lower : List Term) : Reading Term := do
  mark ":"
  let upper ← g.bound
  let step ← if ← takeMark ":" then g.bound else pure []
  return .other .slice (lower ++ upper ++ step)

/-- One part of a subscript: a term, a slice or a starred expression. -/
def subscriptPart (g : Grammar) : Reading Term := do
  if ← takeMark "*" then return .other .starred [← g.expression]
  else if ← atMark ":" then g.sliceFrom []
  else
    let isNamed ← atNamed
    let t ← g.named
    if (← atMark ":") && !isNamed then g.sliceFrom [t] else return t

/-- What follows the opening bracket of a subscript. Several parts are a tuple, and so is a starred
    one. -/
def subscriptIndex (g : Grammar) : Reading Term := do
  let (parts, comma) ← commaList (atMark "]") g.subscriptPart g.size
  mark "]"
  match parts with
  | [t] => return if comma || isStarred t then .tuple [t] else t
  | ts => return .tuple ts

/-- A term extended by one attribute, call or subscript, if one follows. -/
def trailer (g : Grammar) (t : Term) : Reading (Option Term) := do
  if ← takeMark "." then return some (.access t (← name))
  else if ← takeMark "(" then
    let (plain, keyed) ← g.arguments g.size .plain [] []
    return some (.call t plain keyed)
  else if ← takeMark "[" then return some (.subscript t (← g.subscriptIndex))
  else return none

/-! ## 5. Atoms -/

/-- Quoted constants that stand next to each other are one. -/
def quotations (g : Grammar) : Reading Term := do
  let isQuoted : Token → Bool
    | .text _ => true
    | .bytes _ => true
    | .interpolated .. => true
    | _ => false
  let tokens := (← get).takeWhile isQuoted
  modify (·.dropWhile isQuoted)
  let texts := tokens.filterMap fun
    | .text s => some s
    | _ => none
  let bytes := tokens.filterMap fun
    | .bytes bs => some bs
    | _ => none
  if bytes.length = tokens.length then return .constant (.bytes bytes.flatten)
  if !bytes.isEmpty then failure
  if texts.length = tokens.length then return .constant (.literal (.str (String.join texts)))
  let accepted : Token → Bool
    | .interpolated raw inside => g.accepts raw inside
    | _ => true
  if tokens.all accepted then return .other .interpolated [] else failure

/-- The smallest terms: names, constants and what stands in brackets. -/
def atom (g : Grammar) : Reading Term := do
  match ← get with
  | .name id :: rest => set rest; return .name id
  | .number value :: rest => set rest; return .constant value
  | .word "True" :: rest => set rest; return .constant (.literal (.bool true))
  | .word "False" :: rest => set rest; return .constant (.literal (.bool false))
  | .word "None" :: rest => set rest; return .constant (.literal .null)
  | .mark "..." :: rest => set rest; return .constant .ellipsis
  | .mark "(" :: rest => set rest; g.parenthesised
  | .mark "[" :: rest => set rest; g.bracketed
  | .mark "\x7b" :: rest => set rest; g.braced
  | .text _ :: _ => g.quotations
  | .bytes _ :: _ => g.quotations
  | .interpolated .. :: _ => g.quotations
  | _ => failure

/-- An atom and all that extends it. -/
def primaryFrom (g : Grammar) : Reading Term := do
  extend g.trailer g.size (← g.atom)

/-! ## 6. Operators -/

/-- A primary, possibly awaited, and possibly raised to a power. -/
def power (g : Grammar) (primary : Reading Term) : Reading Term := do
  let awaited ← takeWord "await"
  let t ← primary
  let base := if awaited then .other .await [t] else t
  if ← takeMark "**" then return .other .arithmetic [base, ← g.factor] else return base

/-- A signed factor or a power. -/
def factorFrom (g : Grammar) (primary : Reading Term) : Reading Term := do
  if ← takeMark "-" then return .signed .minus (← g.factor)
  else if ← takeMark "+" then return .signed .plus (← g.factor)
  else if ← takeMark "~" then return .signed .invert (← g.factor)
  else g.power primary

/-- The arithmetic operators, by level, the weakest first. -/
def arithmeticLevels : List (List String) :=
  [["|"], ["^"], ["&"], ["<<", ">>"], ["+", "-"], ["*", "/", "//", "%", "@"]]

/-- Operands joined by the operators of the given levels, from the left. -/
def arithmetic (size : Nat) (factor : Reading Term) : List (List String) → Reading Term
  | [] => factor
  | level :: levels => do
      let step (left : Term) : Reading (Option Term) := do
        match ← get with
        | .mark s :: rest =>
            if level.contains s then
              set rest
              let right ← arithmetic size factor levels
              return some (.other .arithmetic [left, right])
            else return none
        | _ => return none
      extend step size (← arithmetic size factor levels)

/-- The relation that comes next, if one does. -/
def relation : Reading (Option Relation) := do
  match ← get with
  | .mark "==" :: rest => set rest; return some (.compare .eq)
  | .mark "!=" :: rest => set rest; return some (.compare .ne)
  | .mark "<" :: rest => set rest; return some (.compare .lt)
  | .mark "<=" :: rest => set rest; return some (.compare .le)
  | .mark ">" :: rest => set rest; return some (.compare .gt)
  | .mark ">=" :: rest => set rest; return some (.compare .ge)
  | .word "in" :: rest => set rest; return some (.member false)
  | .word "not" :: .word "in" :: rest => set rest; return some (.member true)
  | .word "is" :: .word "not" :: rest => set rest; return some (.identical true)
  | .word "is" :: rest => set rest; return some (.identical false)
  | _ => return none

/-- Operands and the relations between them. -/
def comparison (size : Nat) (operand : Reading Term) : Reading Term := do
  let left ← operand
  let step (found : List Relation × List Term) : Reading (Option (List Relation × List Term)) := do
    match ← relation with
    | some r => return some (r :: found.1, (← operand) :: found.2)
    | none => return none
  let (relations, operands) ← extend step size ([], [])
  if relations.isEmpty then return left
  return .compare left relations.reverse operands.reverse

/-- A comparison, possibly negated. -/
def inversionFrom (g : Grammar) (operand : Reading Term) : Reading Term := do
  if ← takeWord "not" then return .signed .not (← g.inversion) else comparison g.size operand

/-- Operands joined by one connective. -/
def connected (size : Nat) (op : Connective) (reserved : String) (operand : Reading Term) : Reading Term := do
  let first ← operand
  let rest ← many (takeWord reserved) operand size
  if rest.isEmpty then return first else return .connective op first rest

/-! ## 7. Lambdas and conditionals -/

/-- Which parameters may follow: any, only those after a star (`needed` tells that one must), or
    none. -/
inductive ParameterPhase where
  | positional
  | keyword (needed : Bool)
  | closed

/-- The parameters of a lambda read so far. -/
structure ParameterList where
  parameters : Parameters
  defaults : List Term
  keywordDefaults : List Term

/-- One more parameter with a name and perhaps a default. A parameter without a default may not follow
    one with a default, unless it comes after the star. -/
def withParameter (l : ParameterList) (phase : ParameterPhase) (id : Text.Identifier) (default : Option Term) :
    Option ParameterList :=
  let p := l.parameters
  match phase with
  | .positional =>
      if default.isNone && !l.defaults.isEmpty then none
      else some { l with
        parameters := { p with positional := p.positional ++ [id] }
        defaults := l.defaults ++ default.toList }
  | .keyword _ =>
      some { l with
        parameters := { p with keywordOnly := p.keywordOnly ++ [id] }
        keywordDefaults := l.keywordDefaults ++ default.toList }
  | .closed => none

/-- One part of a parameter list and the phase that follows. -/
def parameter (g : Grammar) (l : ParameterList) (phase : ParameterPhase) :
    Reading (ParameterList × ParameterPhase) := do
  let p := l.parameters
  match phase, ← get with
  | .closed, _ => failure
  | _, .mark "**" :: rest =>
      if let .keyword true := phase then failure
      set rest
      let id ← name
      return ({ l with parameters := { p with keywordRest := some id } }, .closed)
  | .positional, .mark "*" :: rest =>
      set rest
      if ← atMark "," then return (l, .keyword true)
      let id ← name
      return ({ l with parameters := { p with rest := some id } }, .keyword false)
  | .positional, .mark "/" :: rest =>
      if p.positional.isEmpty || !p.positionalOnly.isEmpty then failure
      set rest
      return ({ l with parameters := { p with positionalOnly := p.positional, positional := [] } },
        .positional)
  | _, _ =>
      let id ← name
      let default ← if ← takeMark "=" then some <$> g.expression else pure none
      match withParameter l phase id default with
      | none => failure
      | some l =>
          let phase := match phase with
            | .keyword _ => ParameterPhase.keyword false
            | phase => phase
          return (l, phase)

/-- The parameters of a lambda up to its colon. -/
def parameters (g : Grammar) : Nat → ParameterList → ParameterPhase → Reading ParameterList
  | 0, _, _ => failure
  | fuel + 1, l, phase => do
      if ← takeMark ":" then
        match phase with
        | .keyword true => failure
        | _ => return l
      let (l, phase) ← g.parameter l phase
      if ← takeMark "," then g.parameters fuel l phase
      else
        mark ":"
        return l

/-- A lambda, after its word. -/
def lambda (g : Grammar) : Reading Term := do
  let l ← g.parameters g.size ⟨⟨[], [], none, [], none⟩, [], []⟩ .positional
  return .lambda l.parameters l.defaults l.keywordDefaults (← g.expression)

/-- A lambda, a conditional or a disjunction. -/
def expressionFrom (g : Grammar) (disjunction : Reading Term) : Reading Term := do
  if ← takeWord "lambda" then g.lambda
  else
    let yes ← disjunction
    if ← takeWord "if" then
      let test ← disjunction
      word "else"
      return .conditional test yes (← g.expression)
    else return yes

/-! ## 8. The whole grammar -/

/-- The readers one level further out. -/
def next (g : Grammar) : Grammar :=
  let primary := g.primaryFrom
  let factor := g.factorFrom primary
  let operand := arithmetic g.size factor arithmeticLevels
  let inversion := g.inversionFrom operand
  let disjunction := connected g.size .or "or" (connected g.size .and "and" inversion)
  { size := g.size
    primary
    expression := g.expressionFrom disjunction
    disjunction
    inversion
    operand
    factor
    accepts := g.accepts }

/-- The readers for terms of a given number of levels. -/
def ofDepth (size : Nat) (accepts : Bool → List Char → Bool) : Nat → Grammar
  | 0 => ⟨size, failure, failure, failure, failure, failure, failure, accepts⟩
  | n + 1 => (ofDepth size accepts n).next

/-- The readers for a text of so many tokens. -/
def ofSize (accepts : Bool → List Char → Bool) (tokens : Nat) : Grammar :=
  ofDepth (tokens + 1) accepts (tokens + 1)

end Grammar

namespace Term

open Reading

/-- Whether the inside of an interpolated text is right: each of its expressions is a term. `fuel`
    bounds how deep such texts are nested. -/
def acceptsInside : Nat → Bool → List Char → Bool
  | 0, _, _ => false
  | fuel + 1, raw, inside =>
      match Interpolated.parts raw inside with
      | none => false
      | some parts =>
          parts.all fun part =>
            match Token.scan ('(' :: part ++ [')']) with
            | none => false
            | some tokens =>
                match (Grammar.ofSize (acceptsInside fuel) tokens.length).expression tokens with
                | some (_, []) => true
                | _ => false

/-- Whether a token ends a line. -/
def isLineEnd : Token → Bool
  | .newline => true
  | _ => false

/-- Whether the terms of a text are at their end. -/
def atEnd : Reading Bool := do
  match ← get with
  | [] => return true
  | t :: _ => return isLineEnd t

/-- The term that the characters of a text denote, if they denote one: expressions, parted by commas
    if there are several, and nothing after them but line ends. -/
def parse? (cs : List Char) : Option Term := do
  let tokens ← Token.scan cs
  let g := Grammar.ofSize (acceptsInside (cs.length + 1)) tokens.length
  let ((terms, comma), rest) ← commaList atEnd g.expression g.size tokens
  if rest.any (!isLineEnd ·) then none
  match terms with
  | [t] => if comma then some (.tuple [t]) else some t
  | ts => some (.tuple ts)

end Term

end BoundQuery
