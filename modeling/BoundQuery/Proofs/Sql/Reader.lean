import BoundQuery.Proofs.Tree.Formed

/-!
# Reading predicates

A reader for the predicates that are written, which knows nothing of trees but how to build them. It
cuts a text into words, tells what each word is with the help of the bound values, and reads what it
has by the grammar of predicates:

* a predicate is a negated predicate, an operand, or an operand, a sign and a predicate, so that a
  comparison binds tighter than the negation before it;
* an operand is a value, a field, a membership test or text match of a field, or two predicates joined
  by a connective, which have their own parentheses.

`readBack` reads a whole text. The sections after it show that what is cut and told apart are the
lexemes of the text (`lexemesOf_wordsOf`).
-/

namespace BoundQuery

/-! ## 1. Words of a text -/

namespace Sql

/-- Whether a character stands between words. -/
def isDelimiterChar (c : Char) : Bool := c == ' ' || c == ',' || c == '(' || c == ')'

/-- A word from its characters, last one first, before others. An empty one is no word. -/
def flush (word : List Char) (ws : List String) : List String :=
  if word.isEmpty then ws else String.ofList word.reverse :: ws

/-- The words of a text, where `word` is what was read of the first one, last character first. A
    delimiter is a word too, unless it is a blank. -/
def words : List Char → List Char → List String
  | word, [] => flush word []
  | word, c :: cs =>
      if isDelimiterChar c then flush word ((if c = ' ' then [] else [c.toString]) ++ words [] cs)
      else words (c :: word) cs

/-! ## 2. What a word is -/

/-- The words that a predicate is written with. -/
def keywords : List String := ["AND", "OR", "NOT", "IN", "LIKE", "ESCAPE"]

/-- The signs of comparisons. -/
def signs : List String := ["=", "!=", ">", "<", ">=", "<="]

/-- What a word is that is no placeholder. -/
def fixedLexeme (w : String) : Lexeme :=
  if w = "(" then .opening
  else if w = ")" then .closing
  else if w = "," then .comma
  else if w ∈ signs then .sign w
  else if w ∈ keywords then .word w
  else if w = "'!'" then .mark
  else .plain w

/-- What the words are, given the values bound after the first `n`. The next placeholder stands for the
    next value, and there is one for each. -/
def lexemesOf (place : Nat → String) : Nat → List Literal → List String → Option (List Lexeme)
  | _, vs, [] => if vs.isEmpty then some [] else none
  | n, [], w :: ws => (lexemesOf place n [] ws).map (fixedLexeme w :: ·)
  | n, v :: vs, w :: ws =>
      if w = place (n + 1) then (lexemesOf place (n + 1) vs ws).map (.value v :: ·)
      else (lexemesOf place n (v :: vs) ws).map (fixedLexeme w :: ·)

/-! ## 3. Patterns -/

/-- A search term from its characters inside a pattern. -/
def unescaped : List Char → Option (List Char)
  | [] => some []
  | [c] => if c = escapeMark || c = anyRun || c = anyOne then none else some [c]
  | c :: d :: cs =>
      if c = escapeMark then (unescaped cs).map (d :: ·)
      else if c = anyRun || c = anyOne then none
      else (unescaped (d :: cs)).map (c :: ·)

/-- The text match of a pattern: by the end if the pattern opens with any run, and else by the start.
    The pattern that any text fits is read as a match by the start. -/
def unpattern? (pattern : String) : Option (Match × String) :=
  match pattern.toList with
  | [] => none
  | c :: cs =>
      if c = anyRun && !cs.isEmpty then (unescaped cs).map (.ends, String.ofList ·)
      else if (c :: cs).getLast? = some anyRun then
        (unescaped (c :: cs).dropLast).map (.starts, String.ofList ·)
      else none

end Sql

/-- The comparison of a sign. -/
def Comparison.ofSql? (sql : String) : Option Comparison :=
  [.eq, .ne, .gt, .lt, .ge, .le].find? fun c => c.sql == sql

/-- The connective of a word. -/
def Connective.ofWord? (word : String) : Option Connective :=
  [.and, .or].find? fun c => c.spelling == word

/-! ## 4. The grammar -/

namespace Sql

/-- The values of a membership test, up to the closing parenthesis. -/
def readValues : List Lexeme → Option (List Tree × List Lexeme)
  | .value v :: .comma :: ls => (readValues ls).map fun (ts, rest) => (.literal v :: ts, rest)
  | .value v :: .closing :: ls => some ([.literal v], ls)
  | _ => none

/-- The rest of a membership test of a field. -/
def readMembership (name : String) : List Lexeme → Option (Tree × List Lexeme)
  | .opening :: ls => (readValues ls).map fun (ts, rest) => (.membership name ts, rest)
  | _ => none

/-- The rest of a text match of a field. -/
def readMatch (name : String) : List Lexeme → Option (Tree × List Lexeme)
  | .value (.str p) :: .word "ESCAPE" :: .mark :: ls =>
      (unpattern? p).map fun (m, term) => (.pattern m name term, ls)
  | _ => none

/-- A field, or the test that it opens. -/
def readField (name : String) : List Lexeme → Option (Tree × List Lexeme)
  | .word "IN" :: ls => readMembership name ls
  | .word "LIKE" :: ls => readMatch name ls
  | ls => some (.member name, ls)

/-- Two predicates joined by a connective, up to the closing parenthesis. -/
def readJoined (predicate : List Lexeme → Option (Tree × List Lexeme)) (ls : List Lexeme) :
    Option (Tree × List Lexeme) := do
  let (left, rest) ← predicate ls
  match rest with
  | .word w :: rest => do
      let c ← Connective.ofWord? w
      let (right, rest) ← predicate rest
      match rest with
      | .closing :: rest => return (.connect c left right, rest)
      | _ => none
  | _ => none

/-- An operand, where `predicate` reads what stands in parentheses. -/
def readOperand (predicate : List Lexeme → Option (Tree × List Lexeme)) :
    List Lexeme → Option (Tree × List Lexeme)
  | .value v :: ls => some (.literal v, ls)
  | .plain name :: ls => readField name ls
  | .opening :: ls => readJoined predicate ls
  | _ => none

/-- What follows the operand that opens a comparison. -/
def readComparison (predicate : List Lexeme → Option (Tree × List Lexeme)) (left : Tree) :
    List Lexeme → Option (Tree × List Lexeme)
  | .sign sql :: ls => do
      let c ← Comparison.ofSql? sql
      let (right, rest) ← predicate ls
      return (.compare c left right, rest)
  | ls => some (left, ls)

/-- A predicate; `room` is how deep it may be nested. -/
def readPredicate : Nat → List Lexeme → Option (Tree × List Lexeme)
  | 0, _ => none
  | room + 1, .word "NOT" :: ls => (readPredicate room ls).map fun (t, rest) => (t.negate, rest)
  | room + 1, ls => do
      let (left, rest) ← readOperand (readPredicate room) ls
      readComparison (readPredicate room) left rest

/-- The predicate that a whole text is, given the values bound in it. -/
def readBack (place : Nat → String) (sql : String) (bound : Array Literal) : Option Tree := do
  let ls ← lexemesOf place 0 bound.toList (words [] sql.toList)
  match readPredicate (ls.length + 1) ls with
  | some (t, []) => some t
  | _ => none

/-! ## 5. The words of lexemes -/

/-- Whether a character is neither part of a name nor a dot between names. -/
def isPunctuation (c : Char) : Bool :=
  decide (c.toNat < 0x80) && !c.isAlphanum && c != '_' && c != '.'

/-- A word of name characters and dots that is no keyword. -/
structure PlainWord (s : String) : Prop where
  nonempty : s.toList ≠ []
  plain : s.toList.any isPunctuation = false
  notKeyword : s ∉ keywords

/-- A placeholder that can be told from everything else in a text: one word with punctuation in it,
    and neither a sign nor the mark. -/
structure LegibleWord (w : String) : Prop where
  whole : w.toList.any isDelimiterChar = false
  punctuated : w.toList.any isPunctuation = true
  notSign : w ∉ signs
  notMark : w ≠ "'!'"

/-- Placeholders that can be told from everything else. -/
def Legible (place : Nat → String) : Prop := ∀ k, LegibleWord (place (k + 1))

/-- A lexeme that can be told by its text. -/
def Lexeme.Clear : Lexeme → Prop
  | .plain text => PlainWord text
  | .sign sql => sql ∈ signs
  | .word keyword => keyword ∈ keywords
  | _ => True

theorem isPunctuation_of_isDelimiterChar {c : Char} (h : isDelimiterChar c = true) :
    isPunctuation c = true := by
  simp only [isDelimiterChar, Bool.or_eq_true, beq_iff_eq] at h
  rcases h with ((rfl | rfl) | rfl) | rfl <;> decide

theorem ne_of_any {f : Char → Bool} {s w : String} (hs : s.toList.any f = false)
    (hw : w.toList.any f = true) : s ≠ w := by
  rintro rfl
  rw [hs] at hw
  cases hw

theorem PlainWord.whole {s : String} (hs : PlainWord s) : s.toList.any isDelimiterChar = false := by
  rw [List.any_eq_false]
  intro c hc hdelimiter
  exact List.any_eq_false.mp hs.plain c hc (isPunctuation_of_isDelimiterChar hdelimiter)

theorem punctuated_of_mem_signs : ∀ s ∈ signs, s.toList.any isPunctuation = true := by decide

theorem plain_of_mem_keywords : ∀ w ∈ keywords, w.toList.any isPunctuation = false := by decide

/-- The words of lexemes after `n` values. -/
def wordsOf (place : Nat → String) : Nat → List Lexeme → List String
  | _, [] => []
  | n, .blank :: ls => wordsOf place n ls
  | n, l :: ls => l.spelling place n :: wordsOf place (n + l.width) ls

theorem wordsOf_cons {l : Lexeme} (h : l ≠ .blank) (place : Nat → String) (n : Nat) (ls : List Lexeme) :
    wordsOf place n (l :: ls) = l.spelling place n :: wordsOf place (n + l.width) ls := by
  cases l <;> simp_all [wordsOf]

theorem words_append : ∀ (w word cs : List Char), w.any isDelimiterChar = false →
    words word (w ++ cs) = words (w.reverse ++ word) cs
  | [], word, cs, _ => rfl
  | c :: w, word, cs, h => by
      rw [List.any_cons, Bool.or_eq_false_iff] at h
      have ih := words_append w (c :: word) cs h.2
      rw [List.cons_append, words, h.1]
      simpa using ih

/-- A word ends at the end of the text or at a delimiter. -/
theorem words_word {w cs : List Char} (hne : w ≠ []) (hw : w.any isDelimiterChar = false)
    (hcs : ∀ c ∈ cs.head?, isDelimiterChar c = true) :
    words [] (w ++ cs) = String.ofList w :: words [] cs := by
  have hflush : ∀ ws, flush w.reverse ws = String.ofList w :: ws := by
    intro ws
    simp [flush, hne]
  rw [words_append w [] cs hw, List.append_nil]
  cases cs with
  | nil => exact hflush []
  | cons c cs =>
    have hc : isDelimiterChar c = true := hcs c rfl
    simp only [words, hc, if_true, hflush]
    rfl

/-- The text of a lexeme that is not a delimiter is one word. -/
theorem spelling_solid {place : Nat → String} (hplace : Legible place) {l : Lexeme} (hclear : l.Clear)
    (hdelim : l.isDelimiter = false) (n : Nat) :
    (l.spelling place n).toList ≠ [] ∧ (l.spelling place n).toList.any isDelimiterChar = false := by
  cases l with
  | plain text => exact ⟨hclear.nonempty, hclear.whole⟩
  | value v =>
    obtain ⟨c, hc, _⟩ := List.any_eq_true.mp (hplace n).punctuated
    exact ⟨List.ne_nil_of_mem hc, (hplace n).whole⟩
  | sign sql =>
    have hall : ∀ s ∈ signs, s.toList ≠ [] ∧ s.toList.any isDelimiterChar = false := by decide
    exact hall sql hclear
  | word keyword =>
    have hall : ∀ s ∈ keywords, s.toList ≠ [] ∧ s.toList.any isDelimiterChar = false := by decide
    exact hall keyword hclear
  | mark =>
    have hmark : "'!'".toList ≠ [] ∧ "'!'".toList.any isDelimiterChar = false := by decide
    exact hmark
  | opening => cases hdelim
  | closing => cases hdelim
  | comma => cases hdelim
  | blank => cases hdelim

theorem head_spell_of_break {place : Nat → String} {l : Lexeme} (h : l.isBreak = true) (n : Nat)
    (ls : List Lexeme) : ∀ c ∈ (spell place n (l :: ls)).toList.head?, isDelimiterChar c = true := by
  cases l <;> simp_all [Lexeme.isBreak] <;> decide

/-- **Cutting the text of lexemes gives the words of the lexemes.** -/
theorem words_spell {place : Nat → String} (hplace : Legible place) : ∀ (n : Nat) (ls : List Lexeme),
    ls.IsChain Follows → (∀ l ∈ ls, l.Clear) →
      words [] (spell place n ls).toList = wordsOf place n ls
  | n, [], _, _ => rfl
  | n, l :: ls, hchain, hclear => by
      have ih := words_spell hplace (n + l.width) ls hchain.tail fun m hm =>
        hclear m (List.mem_cons_of_mem _ hm)
      rw [spell_cons, String.toList_append]
      cases hdelim : l.isDelimiter with
      | true =>
        cases l with
        | opening => simpa [wordsOf, words, isDelimiterChar, flush] using ih
        | closing => simpa [wordsOf, words, isDelimiterChar, flush] using ih
        | comma => simpa [wordsOf, words, isDelimiterChar, flush] using ih
        | blank => simpa [wordsOf, words, isDelimiterChar, flush] using ih
        | _ => cases hdelim
      | false =>
        have hnext : ∀ c ∈ (spell place (n + l.width) ls).toList.head?, isDelimiterChar c = true := by
          cases ls with
          | nil => simp
          | cons m ms => exact head_spell_of_break ((List.isChain_cons_cons.mp hchain).1 hdelim) _ _
        obtain ⟨hne, hsolid⟩ := spelling_solid hplace (hclear l (by simp)) hdelim n
        have hblank : l ≠ .blank := by
          rintro rfl
          cases hdelim
        rw [words_word hne hsolid hnext, ih, String.ofList_toList, wordsOf_cons hblank]

/-! ## 6. The lexemes of words -/

/-- Lexemes without the blanks between them. -/
def bare (ls : List Lexeme) : List Lexeme := ls.filter (· ≠ .blank)

@[simp] theorem bare_nil : bare [] = [] := rfl

@[simp] theorem bare_append (as bs : List Lexeme) : bare (as ++ bs) = bare as ++ bare bs :=
  List.filter_append ..

@[simp] theorem bare_blank (ls : List Lexeme) : bare (.blank :: ls) = bare ls := rfl

@[simp] theorem bare_cons {l : Lexeme} (h : l ≠ .blank) (ls : List Lexeme) :
    bare (l :: ls) = l :: bare ls := by
  rw [bare, List.filter_cons_of_pos (by simpa using h), bare]

/-- What a lexeme is can be told from its text. -/
theorem fixedLexeme_spelling {l : Lexeme} (hclear : l.Clear) (hvalue : l.value? = none)
    (hblank : l ≠ .blank) (place : Nat → String) (n : Nat) : fixedLexeme (l.spelling place n) = l := by
  cases l with
  | plain text =>
    have hsign : text ∉ signs := fun h => ne_of_any hclear.plain (punctuated_of_mem_signs text h) rfl
    have hopening : text ≠ "(" := ne_of_any hclear.plain (by decide)
    have hclosing : text ≠ ")" := ne_of_any hclear.plain (by decide)
    have hcomma : text ≠ "," := ne_of_any hclear.plain (by decide)
    have hmark : text ≠ "'!'" := ne_of_any hclear.plain (by decide)
    simp [fixedLexeme, hopening, hclosing, hcomma, hsign, hclear.notKeyword, hmark]
  | value v => cases hvalue
  | sign sql =>
    have hall : ∀ s ∈ signs, fixedLexeme s = .sign s := by decide
    exact hall sql hclear
  | word keyword =>
    have hall : ∀ w ∈ keywords, fixedLexeme w = .word w := by decide
    exact hall keyword hclear
  | mark => rfl
  | opening => rfl
  | closing => rfl
  | comma => rfl
  | blank => exact absurd rfl hblank

/-- No lexeme but a value is taken for a placeholder. -/
theorem spelling_ne_place {place : Nat → String} (hplace : Legible place) {l : Lexeme}
    (hclear : l.Clear) (hvalue : l.value? = none) (n : Nat) : l.spelling place n ≠ place (n + 1) := by
  have hdelimiter : ∀ w : String, w.toList.any isDelimiterChar = true → w ≠ place (n + 1) :=
    fun w hw => (ne_of_any (hplace n).whole hw).symm
  cases l with
  | plain text => exact ne_of_any hclear.plain (hplace n).punctuated
  | value v => cases hvalue
  | sign sql => exact fun h => (hplace n).notSign (h ▸ hclear)
  | word keyword => exact ne_of_any (plain_of_mem_keywords keyword hclear) (hplace n).punctuated
  | mark => exact fun h => (hplace n).notMark h.symm
  | opening => exact hdelimiter "(" (by decide)
  | closing => exact hdelimiter ")" (by decide)
  | comma => exact hdelimiter "," (by decide)
  | blank => exact hdelimiter " " (by decide)

/-- **The words of lexemes are told apart again.** -/
theorem lexemesOf_wordsOf {place : Nat → String} (hplace : Legible place) :
    ∀ (n : Nat) (ls : List Lexeme), (∀ l ∈ ls, l.Clear) →
      lexemesOf place n (values ls) (wordsOf place n ls) = some (bare ls)
  | n, [], _ => rfl
  | n, l :: ls, hclear => by
      have hl := hclear l (by simp)
      have ih := lexemesOf_wordsOf hplace (n + l.width) ls fun m hm =>
        hclear m (List.mem_cons_of_mem _ hm)
      by_cases hblank : l = .blank
      · subst hblank
        exact ih
      cases hvalue : l.value? with
      | some v =>
        obtain rfl : l = .value v := by cases l <;> simp_all
        rw [wordsOf_cons hblank, values_cons, hvalue, Option.toList_some, List.singleton_append,
          lexemesOf, Lexeme.spelling, if_pos rfl, bare_cons hblank]
        exact congrArg (Option.map _) ih
      | none =>
        have hwidth : l.width = 0 := by cases l <;> simp_all
        rw [hwidth, Nat.add_zero] at ih
        rw [wordsOf_cons hblank, hwidth, Nat.add_zero, values_cons, hvalue, Option.toList_none,
          List.nil_append, bare_cons hblank]
        have hfixed := fixedLexeme_spelling hl hvalue hblank place n
        cases hvs : values ls with
        | nil =>
          rw [hvs] at ih
          rw [lexemesOf, ih, hfixed]
          rfl
        | cons v vs =>
          rw [hvs] at ih
          rw [lexemesOf, if_neg (spelling_ne_place hplace hl hvalue n), ih, hfixed]
          rfl

/-! ## 7. The match of a pattern -/

/-- A character of a term is escaped, or it is none that has a meaning of its own. -/
theorem escapedChar_cases (c : Char) :
    (escapedChar c = [escapeMark, c] ∧ (c = anyRun ∨ c = anyOne ∨ c = escapeMark)) ∨
      (escapedChar c = [c] ∧ c ≠ anyRun ∧ c ≠ anyOne ∧ c ≠ escapeMark) := by
  unfold escapedChar
  split
  · rename_i h
    simp only [Bool.or_eq_true, beq_iff_eq, or_assoc] at h
    exact .inl ⟨rfl, h⟩
  · rename_i h
    simp only [Bool.or_eq_true, beq_iff_eq, not_or, and_assoc] at h
    exact .inr ⟨rfl, h⟩

theorem unescaped_escapedChar (c : Char) (cs : List Char) :
    unescaped (escapedChar c ++ cs) = (unescaped cs).map (c :: ·) := by
  rcases escapedChar_cases c with ⟨hescaped, _⟩ | ⟨hescaped, hplain⟩
  · rw [hescaped]
    simp [unescaped]
  · rw [hescaped]
    cases cs with
    | nil => simp [unescaped, hplain]
    | cons d cs => simp [unescaped, hplain]

theorem unescaped_flatMap : ∀ cs : List Char, unescaped (cs.flatMap escapedChar) = some cs
  | [] => rfl
  | c :: cs => by rw [List.flatMap_cons, unescaped_escapedChar, unescaped_flatMap cs]; rfl

/-- What is escaped is not taken for nothing, nor for any run. -/
theorem exists_escapedChar_eq_cons (c : Char) : ∃ d ds, escapedChar c = d :: ds ∧ d ≠ anyRun := by
  rcases escapedChar_cases c with ⟨hescaped, _⟩ | ⟨hescaped, hrun, _⟩
  · exact ⟨escapeMark, [c], hescaped, by decide⟩
  · exact ⟨c, [], hescaped, hrun⟩

theorem unpattern?_of_start {p : String} {cs : List Char} (hp : p.toList = cs ++ [anyRun])
    (hfirst : ∀ c ∈ cs.head?, c ≠ anyRun) :
    unpattern? p = (unescaped cs).map (.starts, String.ofList ·) := by
  rw [unpattern?, hp]
  cases cs with
  | nil => rfl
  | cons c cs =>
    have hc : c ≠ anyRun := hfirst c rfl
    simp only [List.cons_append, hc, decide_false, Bool.false_and, Bool.false_eq_true, if_false]
    rw [← List.cons_append, List.getLast?_concat, List.dropLast_concat, if_pos rfl]

theorem unpattern?_of_end {p : String} {cs : List Char} (hp : p.toList = anyRun :: cs) (hne : cs ≠ []) :
    unpattern? p = (unescaped cs).map (.ends, String.ofList ·) := by
  rw [unpattern?, hp]
  simp [hne]

theorem toList_startPattern (term : String) :
    (matchPattern .starts term).toList = term.toList.flatMap escapedChar ++ [anyRun] := by
  simp [matchPattern, startPattern, escaped]

theorem toList_endPattern (term : String) :
    (matchPattern .ends term).toList = anyRun :: term.toList.flatMap escapedChar := by
  simp [matchPattern, endPattern, escaped]

/-- **A pattern tells its match and its term,** but any text may be matched by its start or its end. -/
theorem unpattern?_matchPattern {m : Match} {term : String} (h : term = "" → m = .starts) :
    unpattern? (matchPattern m term) = some (m, term) := by
  have hterm : (unescaped (term.toList.flatMap escapedChar)).map (m, String.ofList ·)
      = some (m, term) := by
    rw [unescaped_flatMap, Option.map_some, String.ofList_toList]
  cases m with
  | starts =>
    rw [unpattern?_of_start (toList_startPattern term) ?_, hterm]
    intro c hc
    cases hcs : term.toList with
    | nil => simp [hcs] at hc
    | cons d ds =>
      obtain ⟨e, es, hes, hne⟩ := exists_escapedChar_eq_cons d
      rw [hcs, List.flatMap_cons, hes] at hc
      cases hc
      exact hne
  | ends =>
    rw [unpattern?_of_end (toList_endPattern term) ?_, hterm]
    intro hnil
    cases hcs : term.toList with
    | nil => exact absurd (h (String.toList_eq_nil_iff.mp hcs)) (by simp)
    | cons d ds =>
      obtain ⟨e, es, hes, _⟩ := exists_escapedChar_eq_cons d
      rw [hcs, List.flatMap_cons, hes] at hnil
      cases hnil

end Sql

end BoundQuery
