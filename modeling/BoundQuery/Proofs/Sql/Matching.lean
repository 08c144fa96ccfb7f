import BoundQuery.Proofs.Sql.Reader
import BoundQuery.Proofs.Sql.WellFormed
import Mathlib.Data.List.Infix

/-!
# What a bound pattern matches

The condition of a text match names its escape mark and binds a pattern. What the database makes of the
two is said here without the writer: `likes` is the meaning of a pattern under an escape mark, and
`wellEscaped` says that no mark of a pattern dangles or stands where none is needed.

* `likes_escaped` – an escaped term stands for itself, whatever pattern follows it;
* `likes_matchPattern` – the pattern of a text match finds the term at its end of a text and nowhere
  else;
* `wellEscaped_matchPattern` – and every mark in it is needed.
-/

namespace BoundQuery

/-- A text has a term at the end that a text match looks at. -/
def Match.Holds (m : Match) (term subject : String) : Prop :=
  match m with
  | .starts => term.toList <+: subject.toList
  | .ends => term.toList <:+ subject.toList

namespace Sql

/-! ## 1. The meaning of a pattern -/

/-- Whether a text matches a pattern: `mark` makes the next character of the pattern stand for itself, `%`
    stands for any run of characters, `_` for any one character, and every other character for itself. A
    mark with nothing after it matches nothing. -/
def likes (mark : Char) : List Char → List Char → Bool
  | [], subject => subject.isEmpty
  | c :: pattern, subject =>
      if c = mark then
        match pattern, subject with
        | d :: pattern, e :: rest => d == e && likes mark pattern rest
        | _, _ => false
      else if c = '%' then subject.tails.any (likes mark pattern)
      else
        match subject with
        | e :: rest => (c == '_' || c == e) && likes mark pattern rest
        | [] => false

/-- Whether every mark of a pattern stands before a character that would not stand for itself without
    it. -/
def wellEscaped (mark : Char) : List Char → Bool
  | [] => true
  | c :: pattern =>
      if c = mark then
        match pattern with
        | d :: pattern => (d == mark || d == '%' || d == '_') && wellEscaped mark pattern
        | [] => false
      else wellEscaped mark pattern

theorem exists_cons_eq_cons_iff {c e : Char} {rest : List Char} {p : List Char → Prop} :
    (∃ tail, e :: rest = c :: tail ∧ p tail) ↔ c = e ∧ p rest := by
  constructor
  · rintro ⟨_, ⟨⟩, h⟩
    exact ⟨rfl, h⟩
  · rintro ⟨rfl, h⟩
    exact ⟨rest, rfl, h⟩

/-- A marked character stands for itself. -/
theorem likes_marked (mark c : Char) (pattern subject : List Char) :
    likes mark (mark :: c :: pattern) subject = true ↔
      ∃ rest, subject = c :: rest ∧ likes mark pattern rest = true := by
  rw [likes.eq_def]
  cases subject with
  | nil => simp
  | cons e rest => simp only [if_true, Bool.and_eq_true, beq_iff_eq, exists_cons_eq_cons_iff]

/-- A character without a meaning of its own stands for itself. -/
theorem likes_plain {mark c : Char} (hmark : c ≠ mark) (hrun : c ≠ '%') (hone : c ≠ '_')
    (pattern subject : List Char) :
    likes mark (c :: pattern) subject = true ↔
      ∃ rest, subject = c :: rest ∧ likes mark pattern rest = true := by
  rw [likes.eq_def]
  cases subject with
  | nil => simp [hmark, hrun]
  | cons e rest =>
    have hnot : (c == '_') = false := by simpa using hone
    simp only [hmark, hrun, hnot, if_false, Bool.false_or, Bool.and_eq_true, beq_iff_eq,
      exists_cons_eq_cons_iff]

/-- **A run of any characters is tried at every tail of the text.** -/
theorem likes_run {mark : Char} (hmark : mark ≠ '%') (pattern subject : List Char) :
    likes mark ('%' :: pattern) subject = true ↔
      ∃ rest, rest <:+ subject ∧ likes mark pattern rest = true := by
  rw [likes.eq_def]
  simp only [if_neg hmark.symm, if_true, List.any_eq_true, List.mem_tails]

/-! ## 2. Escaped terms -/

theorem likes_escapedChar (c : Char) (pattern subject : List Char) :
    likes '!' (escapedChar c ++ pattern) subject = true ↔
      ∃ rest, subject = c :: rest ∧ likes '!' pattern rest = true := by
  rcases escapedChar_cases c with ⟨hescaped, _⟩ | ⟨hescaped, hrun, hone, hmark⟩
  · rw [hescaped]
    exact likes_marked '!' c pattern subject
  · rw [hescaped]
    exact likes_plain hmark hrun hone pattern subject

/-- **An escaped term stands for itself**, whatever pattern follows it. -/
theorem likes_escaped (pattern : List Char) : ∀ term subject : List Char,
    likes '!' (term.flatMap escapedChar ++ pattern) subject = true ↔
      ∃ rest, subject = term ++ rest ∧ likes '!' pattern rest = true
  | [], subject => by simp
  | c :: term, subject => by
      have ih := likes_escaped pattern term
      rw [List.flatMap_cons, List.append_assoc, likes_escapedChar]
      constructor
      · rintro ⟨tail, rfl, htail⟩
        obtain ⟨rest, rfl, hrest⟩ := (ih tail).mp htail
        exact ⟨rest, rfl, hrest⟩
      · rintro ⟨rest, rfl, hrest⟩
        exact ⟨term ++ rest, rfl, (ih (term ++ rest)).mpr ⟨rest, rfl, hrest⟩⟩

theorem wellEscaped_escapedChar (c : Char) (pattern : List Char) :
    wellEscaped '!' (escapedChar c ++ pattern) = wellEscaped '!' pattern := by
  rcases escapedChar_cases c with ⟨hescaped, hspecial⟩ | ⟨hescaped, _, _, hmark⟩
  · have hneeded : (c == '!' || c == '%' || c == '_') = true := by
      simp only [Bool.or_eq_true, beq_iff_eq]
      rcases hspecial with h | h | h
      · exact .inl (.inr h)
      · exact .inr h
      · exact .inl (.inl h)
    have hescaped : escapedChar c = ['!', c] := hescaped
    rw [hescaped]
    simp only [List.cons_append, List.nil_append, wellEscaped, if_true, hneeded, Bool.true_and]
  · have hmark : c ≠ '!' := hmark
    rw [hescaped, List.singleton_append, wellEscaped.eq_def]
    simp only [if_neg hmark]

theorem wellEscaped_escaped (pattern : List Char) : ∀ term : List Char,
    wellEscaped '!' (term.flatMap escapedChar ++ pattern) = wellEscaped '!' pattern
  | [] => rfl
  | c :: term => by
      rw [List.flatMap_cons, List.append_assoc, wellEscaped_escapedChar, wellEscaped_escaped pattern term]

/-! ## 3. The patterns of text matches -/

theorem wellEscaped_matchPattern (m : Match) (term : String) :
    wellEscaped '!' (matchPattern m term).toList = true := by
  cases m with
  | starts =>
    rw [toList_startPattern, wellEscaped_escaped]
    rfl
  | ends =>
    have hterm := wellEscaped_escaped [] term.toList
    rw [List.append_nil] at hterm
    have hrun : wellEscaped '!' ('%' :: term.toList.flatMap escapedChar)
        = wellEscaped '!' (term.toList.flatMap escapedChar) := by
      rw [wellEscaped.eq_def]
      rfl
    rw [toList_endPattern]
    exact hrun.trans hterm

/-- **The pattern of a text match finds the term at its end of a text and nowhere else.** -/
theorem likes_matchPattern (m : Match) (term subject : String) :
    likes '!' (matchPattern m term).toList subject.toList = true ↔ m.Holds term subject := by
  cases m with
  | starts =>
    -- After the term the pattern takes any text, so what is left of the subject does not matter.
    have hrest : ∀ rest : List Char, likes '!' ['%'] rest = true := fun rest =>
      (likes_run (by decide) [] rest).mpr ⟨[], List.nil_suffix, rfl⟩
    rw [toList_startPattern, likes_escaped, Match.Holds]
    constructor
    · rintro ⟨rest, hsubject, _⟩
      exact ⟨rest, hsubject.symm⟩
    · rintro ⟨rest, hsubject⟩
      exact ⟨rest, hsubject.symm, hrest rest⟩
  | ends =>
    -- Of the tails that are tried, only the one that is the term itself leaves nothing over.
    have hterm : ∀ tail : List Char,
        likes '!' (term.toList.flatMap escapedChar) tail = true ↔ tail = term.toList := by
      intro tail
      have h := likes_escaped [] term.toList tail
      rw [List.append_nil] at h
      rw [h]
      simp [likes]
    rw [toList_endPattern, Match.Holds]
    refine (likes_run (by decide) _ _).trans ?_
    simp only [hterm, exists_eq_right]

/-! ## 4. Writing text matches -/

/-- The condition of a text match and what it binds, if its receiver can be written. -/
theorem writeOnto_textMatch [Limits] {m : Match} {receiver : Tree} {term sql : String}
    {place : Nat → String} {clause : Option String} {bound after : Array Literal}
    (h : writeOnto place clause (.call m.spelling [receiver, .literal (.str term)]) bound
      = (.ok sql, after)) :
    sql = spell place bound.size receiver.lexemes ++ " LIKE " ++ place after.size ++ " ESCAPE '!'" ∧
      after.back? = some (.str (matchPattern m term)) := by
  have hcallee : Method.ofSpelling? m.spelling = some (.pattern m) :=
    Method.ofSpelling?_spelling (.pattern m)
  obtain ⟨_, hsql, hafter⟩ := writeOnto_eq_ok_iff.mp h
  rw [Tree.lexemes_pattern hcallee] at hsql hafter
  have hpushed : after
      = (bound ++ (values receiver.lexemes).toArray).push (.str (matchPattern m term)) := by
    rw [hafter]
    simp
  have hsize : after.size = bound.size + (values receiver.lexemes).length + 1 := by
    rw [hpushed]
    simp [Nat.add_assoc]
  constructor
  · have hmark : " ESCAPE '!'" = " " ++ ("ESCAPE" ++ (" " ++ ("'" ++ String.ofList [escapeMark] ++ "'"))) :=
      rfl
    have hlike : " LIKE " = " " ++ ("LIKE" ++ " ") := rfl
    rw [hsql, hsize, hmark, hlike, spell_append]
    simp only [spell_cons, spell_nil, Lexeme.spelling, Lexeme.width, Nat.add_zero, String.append_assoc,
      String.append_empty]
  · rw [hpushed, Array.back?_push]

/-- **A text match finds exactly the texts that have the term at the given end.** On a field it is always
    written. Whatever it is written on, its condition names `!` as the mark and binds last a pattern in which
    no mark dangles or is misplaced, and with that mark the pattern matches a text exactly if the text starts,
    or ends, with the term. -/
theorem textMatch_exact [Limits] (m : Match) (term : String) (place : Nat → String) (clause : Option String)
    (bound : Array Literal) :
    (∀ name, ∃ sql after, writeOnto place clause (.pattern m name term) bound = (.ok sql, after)) ∧
    ∀ (receiver : Tree) (sql : String) (after : Array Literal),
      writeOnto place clause (.call m.spelling [receiver, .literal (.str term)]) bound
        = (.ok sql, after) →
      ∃ receiverSql pattern : String,
        sql = receiverSql ++ " LIKE " ++ place after.size ++ " ESCAPE '!'" ∧
        after.back? = some (.str pattern) ∧
        wellEscaped '!' pattern.toList = true ∧
        ∀ subject : String, likes '!' pattern.toList subject.toList = true ↔ m.Holds term subject := by
  constructor
  · intro name
    have hwf : (Tree.pattern m name term).WellFormed := .pattern m (.member name) term
    have hroom : (Tree.pattern m name term).callDepth ≤ Limits.writing := by
      have hwriting := Limits.six_le_writing
      rw [Tree.callDepth_pattern]
      omega
    have hfault := hwf.fault?_eq Limits.writing
    rw [if_pos hroom] at hfault
    exact ⟨_, _, writeOnto_ok hfault place clause bound⟩
  · intro receiver sql after h
    obtain ⟨hsql, hback⟩ := writeOnto_textMatch h
    exact ⟨_, matchPattern m term, hsql, hback, wellEscaped_matchPattern m term,
      likes_matchPattern m term⟩

/-- A term that ends in the mark, next to the run that follows it. -/
theorem textMatch_exact_marks :
    writeOnto Style.numeric.place none (.pattern .starts "code" "5%_!") #[]
        = (.ok "code LIKE :1 ESCAPE '!'", #[.str "5!%!_!!%"]) ∧
      (likes '!' "5!%!_!!%".toList "5%_!?".toList = true ↔ Match.starts.Holds "5%_!" "5%_!?") := by
  have hwritten : writeOnto Style.numeric.place none (.pattern .starts "code" "5%_!") #[]
      = (.ok "code LIKE :1 ESCAPE '!'", #[.str "5!%!_!!%"]) := by decide +kernel
  refine ⟨hwritten, ?_⟩
  obtain ⟨_, pattern, _, hback, _, hlikes⟩ :=
    (textMatch_exact .starts "5%_!" Style.numeric.place none #[]).2 (.member "code") _ _ hwritten
  cases hback
  exact hlikes "5%_!?"

end Sql

end BoundQuery
