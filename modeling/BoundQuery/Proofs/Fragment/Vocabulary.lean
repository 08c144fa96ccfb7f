import BoundQuery.Proofs.Fragment.Qualified
import BoundQuery.Proofs.Sql.ReadBack

/-!
# What a text can bring into SQL

A text has strings of any content in it: operands, search terms, values of a display, keys of a
dictionary. In SQL they stand as placeholders or not at all. What a text without subscripts does bring into
SQL are paths of its own identifiers (`Term.IsPath`) and, as labels of a projection, single identifiers
(`IsEntry`).

* `Term.admits_paths` – the fields of a term are paths of its identifiers;
* `Sql.spells_of_formed` – the SQL of a formed tree falls into its fields, placeholders and texts of
  `Sql.vocabulary`;
* `Sql.IsToken.harmless` – of these, only the clause that names the escape mark has quotes in it.
-/

namespace BoundQuery

open BoundQuery.Sql

/-! ## 1. The identifiers of a term -/

namespace Term

/-- An identifier stands in a term, as a name or as an attribute. -/
inductive Occurs (id : Text.Identifier) : Term → Prop
  | name : Occurs id (.name id)
  | field (base : Term) : Occurs id (.access base id)
  | part {t u : Term} (hu : u ∈ t.parts) (h : Occurs id u) : Occurs id t

/-- One or more identifiers of a term with dots between them. -/
def IsPath (t : Term) (name : String) : Prop :=
  ∃ (first : Text.Identifier) (rest : List Text.Identifier),
    (∀ id ∈ first :: rest, Occurs id t) ∧ name = joined (first :: rest)

theorem IsPath.isFieldName {t : Term} {name : String} (h : t.IsPath name) : IsFieldName name := by
  obtain ⟨first, rest, _, hname⟩ := h
  exact ⟨first, rest, hname⟩

/-- A path is made up of the identifiers on the way and those it started with. -/
theorem occurs_of_path? {t : Term} {parts rest : List Text.Identifier} {first : Text.Identifier}
    (h : t.path? parts = some (first, rest)) : ∀ id ∈ first :: rest, Occurs id t ∨ id ∈ parts := by
  fun_induction path? t parts with
  | case1 id parts =>
    cases h
    exact List.forall_mem_cons.mpr ⟨.inl .name, fun id hid => .inr hid⟩
  | case2 base field parts ih =>
    intro id hid
    rcases ih h id hid with hbase | hparts
    · exact .inl (.part List.mem_cons_self hbase)
    · rcases List.mem_cons.mp hparts with rfl | hparts
      · exact .inl (.field base)
      · exact .inr hparts
  | case3 => cases h

/-- A term without subscripts whose identifiers are all of `t`. -/
def Within (t u : Term) : Prop := u.subscriptFree = true ∧ ∀ id, Occurs id u → Occurs id t

theorem Within.isPath_of_path? {t u : Term} {first : Text.Identifier} {rest : List Text.Identifier}
    (hu : Within t u) (h : u.path? [] = some (first, rest)) : ∀ id ∈ first :: rest, Occurs id t := by
  intro id hid
  rcases occurs_of_path? h id hid with hoccurs | hnil
  · exact hu.2 id hoccurs
  · cases hnil

/-- **The fields of a term without subscripts are paths of its identifiers.** -/
theorem admits_paths (t : Term) (scope : Scope) : Admits scope (Within t) t.IsPath where
  part hfits hpart :=
    ⟨subscriptFree_of_mem_parts hfits.1 hpart, fun id hid => hfits.2 id (.part hpart hid)⟩
  name hfits hname := by
    cases fieldName_eq_ok_iff.mp hname with
    | item u hkey => cases hfits.1
    | bare hpath => exact ⟨_, _, hfits.isPath_of_path? hpath, rfl⟩
    | path hpath =>
      exact ⟨_, _, fun id hid => hfits.isPath_of_path? hpath id (List.mem_cons_of_mem _ hid), rfl⟩

end Term

/-! ## 2. Keys and selectors -/

/-- An entry of a projection: a field, or a field and an identifier as its label. -/
inductive IsEntry (named : String → Prop) : String → Prop
  | field {name : String} (h : named name) : IsEntry named name
  | labelled {name label : String} (h : named name) (hlabel : Text.isIdentifier label = true) :
      IsEntry named (name ++ " AS " ++ label)

theorem isEntry_of_labelled? {named : String → Prop} {field key entry : String} (h : named field)
    (hentry : labelled? field key = some entry) : IsEntry named entry := by
  unfold labelled? at hentry
  split at hentry
  · cases hentry
  · rename_i hkey
    split at hentry
    · cases hentry
      exact .field h
    · cases hentry
      exact .labelled h (by simpa using hkey)

namespace Term

section Named

variable {scope : Scope} {fits : Term → Prop} {named : String → Prop}

theorem yields_fieldName (ha : Admits scope fits named) {t : Term} (hfits : fits t) :
    Yields named (t.fieldName scope) :=
  fun _ hname => ha.name hfits hname

theorem yields_labelledBy {field : String} (h : named field) (key : Constant) :
    Yields (IsEntry named) (labelledBy field key) := by
  unfold labelledBy
  split
  · rename_i hentry
    obtain ⟨text, _, hlabelled⟩ := Option.bind_eq_some_iff.mp hentry
    exact .ok (isEntry_of_labelled? h hlabelled)
  · exact .error _

theorem yields_selectorEntries (ha : Admits scope fits named) : ∀ keys values : List Term,
    (∀ value ∈ values, fits value) →
      Yields (fun names => ∀ name ∈ names, IsEntry named name) (selectorEntries scope keys values)
  | [], _, _ => .ok (by simp)
  | _ :: _, [], _ => .ok (by simp)
  | key :: keys, value :: values, hfits => by
      have ih := yields_selectorEntries ha keys values fun v hv => hfits v (List.mem_cons_of_mem _ hv)
      unfold selectorEntries
      split
      · refine (yields_fieldName ha (hfits value List.mem_cons_self)).lift.bind fun field hfield => ?_
        refine (yields_labelledBy hfield _).bind fun first hfirst => ?_
        exact ih.bind fun rest hrest => .ok (List.forall_mem_cons.mpr ⟨hfirst, hrest⟩)
      · exact .error _

theorem yields_key (ha : ∀ scope, Admits scope fits named) {t : Term} (hfits : fits t) :
    Yields named t.key := by
  intro name h
  obtain ⟨⟨scope, body⟩, hopened, h⟩ := exists_of_bind_eq_ok h
  exact (yields_fieldName (ha scope) (fits_of_opened (ha scope) hfits (Failure.eq_ok_of_lift hopened))).lift name h

theorem yields_selector (ha : ∀ scope, Admits scope fits named) {t : Term} (hfits : fits t) :
    Yields (fun names => ∀ name ∈ names, IsEntry named name) t.selector := by
  intro names h
  obtain ⟨⟨scope, body⟩, hopened, h⟩ := exists_of_bind_eq_ok h
  have hbody := fits_of_opened (ha scope) hfits (Failure.eq_ok_of_lift hopened)
  have hone {u : Term} (hu : fits u) : Yields (IsEntry named) (u.fieldName scope) :=
    fun name hname => .field (yields_fieldName (ha scope) hu name hname)
  cases body with
  | dict keys values =>
    exact yields_selectorEntries (ha scope) keys values
      (fun value hvalue => (ha scope).part hbody (List.mem_append_right _ hvalue)) names h
  | tuple items =>
    exact (Yields.mapM fun item hitem => hone ((ha scope).part hbody hitem)).lift names h
  | list items =>
    exact (Yields.mapM fun item hitem => hone ((ha scope).part hbody hitem)).lift names h
  | _ =>
    obtain ⟨name, hname, h⟩ := exists_of_bind_eq_ok h
    cases h
    exact List.forall_mem_singleton.mpr ((hone hbody).lift name hname)

end Named

end Term

/-! ## 3. The tokens of a predicate -/

namespace Sql

/-- The clause that names the escape mark of a pattern. -/
def escapeClause : String := "ESCAPE '!'"

/-- The texts in a predicate that are neither fields nor placeholders. -/
def vocabulary : List String :=
  ["=", "!=", ">", "<", ">=", "<=", "AND", "OR", "NOT", "IN", "LIKE", escapeClause, "(", ")", ",", " "]

/-- What the text of a predicate falls into. -/
inductive IsToken (named : String → Prop) (place : Nat → String) : String → Prop
  | field {name : String} (h : named name) : IsToken named place name
  | placeholder (k : Nat) : IsToken named place (place k)
  | fixed {w : String} (h : w ∈ vocabulary) : IsToken named place w

/-- A text that falls into tokens. -/
def Composed (token : String → Prop) (s : String) : Prop :=
  ∃ ws : List String, (∀ w ∈ ws, token w) ∧ s = String.join ws

section Composed

variable {token named : String → Prop} {place : Nat → String}

theorem composed_empty : Composed token "" := ⟨[], by simp, rfl⟩

theorem Composed.single {w : String} (h : token w) : Composed token w :=
  ⟨[w], List.forall_mem_singleton.mpr h, by simp⟩

theorem Composed.append {s s' : String} (h : Composed token s) (h' : Composed token s') :
    Composed token (s ++ s') := by
  obtain ⟨ws, hws, rfl⟩ := h
  obtain ⟨ws', hws', rfl⟩ := h'
  exact ⟨ws ++ ws', List.forall_mem_append.mpr ⟨hws, hws'⟩, String.join_append.symm⟩

end Composed

section Spells

variable {named : String → Prop} {place : Nat → String}

/-- The text of lexemes falls into tokens, after any number of values. -/
def Spells (named : String → Prop) (place : Nat → String) (ls : List Lexeme) : Prop :=
  ∀ n, Composed (IsToken named place) (spell place n ls)

theorem Spells.append {as bs : List Lexeme} (ha : Spells named place as) (hb : Spells named place bs) :
    Spells named place (as ++ bs) := by
  intro n
  rw [spell_append]
  exact (ha n).append (hb _)

/-- A lexeme that is a token by itself. The mark is part of one. -/
def Lexeme.Single (named : String → Prop) : Lexeme → Prop
  | .plain text => named text
  | .sign sql => sql ∈ vocabulary
  | .word keyword => keyword ∈ vocabulary
  | .mark => False
  | _ => True

theorem Lexeme.Single.isToken {l : Lexeme} (h : l.Single named) (n : Nat) :
    IsToken named place (l.spelling place n) := by
  cases l with
  | plain text => exact .field h
  | value v => exact .placeholder _
  | sign sql => exact .fixed h
  | word keyword => exact .fixed h
  | mark => cases h
  | opening => exact .fixed (by simp [vocabulary])
  | closing => exact .fixed (by simp [vocabulary])
  | comma => exact .fixed (by simp [vocabulary])
  | blank => exact .fixed (by simp [vocabulary])

theorem spells_of_single {ls : List Lexeme} (h : ∀ l ∈ ls, l.Single named) : Spells named place ls := by
  induction ls with
  | nil => exact fun n => composed_empty
  | cons l ls ih =>
    rw [List.forall_mem_cons] at h
    exact fun n => (Composed.single (h.1.isToken n)).append (ih h.2 _)

theorem single_of_mem_listed : ∀ vs : List Literal,
    ∀ l ∈ List.intercalate [.comma, .blank] (vs.map fun v => [Lexeme.value v]), l.Single named
  | [] => by simp
  | [v] => by simp [Lexeme.Single]
  | v :: w :: vs => by
      have ih := single_of_mem_listed (w :: vs)
      rw [List.map_cons, List.map_cons, List.intercalate_cons_cons, List.forall_mem_append,
        List.forall_mem_append]
      exact ⟨⟨by simp [Lexeme.Single], by simp [Lexeme.Single]⟩, ih⟩

/-- **The SQL of a formed tree falls into its fields, placeholders and texts of the vocabulary.** -/
theorem spells_of_formed {t : Tree} (ht : t.Formed named) : Spells named place t.lexemes := by
  induction ht with
  | member hname => exact spells_of_single (List.forall_mem_singleton.mpr hname)
  | literal value => exact spells_of_single (List.forall_mem_singleton.mpr trivial)
  | compare c _ _ hl hr =>
    have hsign : c.sql ∈ vocabulary := by cases c <;> decide
    rw [Tree.lexemes_compare]
    exact (hl.append (spells_of_single (by simpa [Lexeme.Single] using hsign))).append hr
  | connect c _ _ hl hr =>
    have hword : c.spelling ∈ vocabulary := by cases c <;> decide
    have hopening : Spells named place [.opening] := spells_of_single (by simp [Lexeme.Single])
    have hclosing : Spells named place [.closing] := spells_of_single (by simp [Lexeme.Single])
    have hbetween : Spells named place [.blank, .word c.spelling, .blank] :=
      spells_of_single (by simpa [Lexeme.Single] using hword)
    rw [Tree.lexemes_connect]
    exact (((hopening.append hl).append hbetween).append hr).append hclosing
  | negate _ h =>
    have hnot : Spells named place [.word "NOT", .blank] :=
      spells_of_single (by simp [Lexeme.Single, vocabulary])
    rw [Tree.lexemes_negate]
    exact hnot.append h
  | membership hname first rest =>
    have hin : "IN" ∈ vocabulary := by decide
    rw [Tree.lexemes_membership_field]
    refine spells_of_single ?_
    simp only [List.forall_mem_append]
    exact ⟨⟨by simpa [Lexeme.Single] using ⟨hname, hin⟩, single_of_mem_listed _⟩,
      by simp [Lexeme.Single]⟩
  | @pattern m name hname term =>
    -- The mark and its keyword are one token, so this list is cut in two.
    have hlike : "LIKE" ∈ vocabulary := by decide
    have hbefore : Spells named place [.plain name, .blank, .word "LIKE", .blank,
        .value (.str (matchPattern m term)), .blank] :=
      spells_of_single (by simpa [Lexeme.Single] using ⟨hname, hlike⟩)
    have hescape : Spells named place [.word "ESCAPE", .blank, .mark] := by
      intro n
      have hspell : spell place n [.word "ESCAPE", .blank, .mark] = escapeClause := rfl
      rw [hspell]
      exact .single (.fixed (by decide))
    rw [Tree.lexemes_pattern_field]
    exact hbefore.append hescape

end Spells

/-! ## 4. Harmless tokens -/

/-- Whether a character ends a statement, opens a comment or opens a quotation. -/
def isHarmful (c : Char) : Bool := c == ';' || c == '-' || c == '\'' || c == '"' || c == '`'

/-- A text without harmful characters. -/
def Harmless (s : String) : Prop := s.toList.any isHarmful = false

theorem isHarmful_eq_false {c : Char} (h : isPunctuation c = false) : isHarmful c = false := by
  cases hc : isHarmful c with
  | false => rfl
  | true =>
    simp only [isHarmful, Bool.or_eq_true, beq_iff_eq] at hc
    rcases hc with (((rfl | rfl) | rfl) | rfl) | rfl <;> cases h

theorem harmless_of_plain {s : String} (h : s.toList.any isPunctuation = false) : Harmless s := by
  rw [List.any_eq_false] at h
  rw [Harmless, List.any_eq_false]
  intro c hc
  simp [isHarmful_eq_false (by simpa using h c hc)]

theorem harmless_numeric (k : Nat) : Harmless (Style.numeric.place k) := by
  have hchars : (Style.numeric.place k).toList = ':' :: Nat.toDigits 10 k := by
    simp [Style.numeric, Nat.repr]
  have hcolon : isHarmful ':' = false := rfl
  rw [Harmless, hchars, List.any_cons, hcolon, Bool.false_or, List.any_eq_false]
  intro c hc
  have hdigit : c.isDigit = true := Nat.isDigit_of_mem_toDigits (by decide) (by decide) hc
  have hplain : isPunctuation c = false :=
    isPunctuation_eq_false fun _ => .inl (by rw [Char.isAlphanum, hdigit, Bool.or_true])
  simp [isHarmful_eq_false hplain]

/-- The placeholders of the styles known from the start are harmless. -/
theorem harmless_standard : ∀ entry ∈ StyleBook.standard.entries, ∀ k, Harmless (entry.2.place k) := by
  have hqmark : Harmless "?" := by rfl
  have hformat : Harmless "%s" := by rfl
  simp only [StyleBook.standard, List.forall_mem_cons]
  exact ⟨fun _ => hformat, harmless_numeric, fun _ => hqmark, by simp⟩

/-- **Only the clause that names the escape mark is not harmless.** -/
theorem IsToken.harmless {named : String → Prop} {place : Nat → String} {w : String}
    (h : IsToken named place w) (hnamed : ∀ name, named name → Harmless name)
    (hplace : ∀ k, Harmless (place k)) : w = escapeClause ∨ Harmless w := by
  cases h with
  | field hname => exact .inr (hnamed w hname)
  | placeholder k => exact .inr (hplace k)
  | fixed hfixed =>
    have hall : ∀ w ∈ vocabulary, w = escapeClause ∨ w.toList.any isHarmful = false := by decide
    exact hall w hfixed

/-- Of the harmful characters, only the quotes of the escape mark stand in a text of such tokens. -/
theorem not_mem_join {ws : List String} (h : ∀ w ∈ ws, w = escapeClause ∨ Harmless w) :
    ∀ c ∈ [';', '-', '"', '`'], c ∉ (String.join ws).toList := by
  have hall : [';', '-', '"', '`'].all
      (fun c => isHarmful c && !escapeClause.toList.contains c) = true := by decide
  intro c hc hmem
  have hc := List.all_eq_true.mp hall c hc
  rw [Bool.and_eq_true] at hc
  rw [String.toList_join, List.mem_flatMap] at hmem
  obtain ⟨w, hw, hmem⟩ := hmem
  rcases h w hw with rfl | hharmless
  · simp [hmem] at hc
  · exact List.any_eq_false.mp hharmless c hmem hc.1

end Sql

/-! ## 5. Texts -/

namespace TextFragment

/-- One or more identifiers of the term that a text is read as, with dots between them. -/
def IsPath [Limits] (text name : String) : Prop := ∃ t, term text = .ok t ∧ t.IsPath name

theorem within_of_term [Limits] {text : String} {t : Term} (hterm : term text = .ok t)
    (hfree : subscriptFree text = true) : t.Within t := by
  rw [subscriptFree, hterm] at hfree
  exact ⟨hfree, fun _ hid => hid⟩

theorem formed_isPath [Limits] {text : String} {tree : Tree} (hfree : subscriptFree text = true)
    (h : (Fragment.text text).predicate = .ok tree) : tree.Formed (IsPath text) := by
  obtain ⟨t, hterm, hpredicate⟩ := Fragment.exists_term_of_predicate h
  have hformed := Term.formed_of_predicate t.admits_paths (within_of_term hterm hfree) hpredicate
  exact hformed.mono fun name hname => ⟨t, hterm, hname⟩

theorem isPath_of_key [Limits] {text name : String} (hfree : subscriptFree text = true)
    (h : (Fragment.text text).key = .ok name) : IsPath text name := by
  obtain ⟨t, hterm, hkey⟩ := exists_of_bind_eq_ok (Fragment.eq_ok_of_rejecting h)
  have hterm := Failure.eq_ok_of_lift hterm
  exact ⟨t, hterm, Term.yields_key t.admits_paths (within_of_term hterm hfree) name hkey⟩

theorem isEntry_of_selector [Limits] {text : String} {names : List String}
    (hfree : subscriptFree text = true) (h : (Fragment.text text).selector = .ok names) : ∀ name ∈ names, IsEntry (IsPath text) name := by
  obtain ⟨t, hterm, hselector⟩ := exists_of_bind_eq_ok (Fragment.eq_ok_of_rejecting h)
  have hterm := Failure.eq_ok_of_lift hterm
  intro name hname
  cases Term.yields_selector t.admits_paths (within_of_term hterm hfree) names hselector name hname with
  | field hpath => exact .field ⟨t, hterm, hpath⟩
  | labelled hpath hlabel => exact .labelled ⟨t, hterm, hpath⟩ hlabel

theorem isEntry_of_selectAll [Limits] {text : String} {names : List String}
    (hfree : subscriptFree text = true) (h : Fragment.selectAll [.text text] = .ok names) :
    ∀ name ∈ names, IsEntry (IsPath text) name := by
  obtain ⟨lists, hlists, rfl, _⟩ := Fragment.selectAll_eq_ok_iff.mp h
  have hall : Yields (fun lists => ∀ names ∈ lists, ∀ name ∈ names, IsEntry (IsPath text) name)
      ([Fragment.text text].mapM Fragment.selector) :=
    Yields.mapM fun f hf names hnames => isEntry_of_selector hfree (List.mem_singleton.mp hf ▸ hnames)
  intro name hname
  rcases Fragment.mem_addNames.mp hname with hnil | hname
  · cases hnil
  · obtain ⟨names, hnames, hname⟩ := List.mem_flatten.mp hname
    exact hall lists hlists names hnames name hname

/-- **A text without subscripts cannot inject SQL.** Its predicate is written, unless it is nested too
    deeply, as a sequence of paths of its identifiers, placeholders and texts of the vocabulary, with no
    harmful character but the quotes of the escape mark; its key is such a path, and the entries of its
    selector are such paths with identifiers as labels. -/
theorem subscriptFree_cannot_inject [Limits] (text : String) (hfree : subscriptFree text = true) :
    (∀ tree, (Fragment.text text).predicate = .ok tree →
      ∀ entry ∈ StyleBook.standard.entries, ∀ (clause : Option String) (bound : Array Literal),
        ((∃ sql after, writeOnto entry.2.place clause tree bound = (.ok sql, after)) ↔
          tree.callDepth ≤ Limits.writing) ∧
        ∀ sql after, writeOnto entry.2.place clause tree bound = (.ok sql, after) →
          ∃ tokens : List String, sql = String.join tokens ∧
            (∀ w ∈ tokens, IsToken (IsPath text) entry.2.place w ∧ (w = escapeClause ∨ Harmless w)) ∧
            ∀ c ∈ [';', '-', '"', '`'], c ∉ sql.toList) ∧
    (∀ name, (Fragment.text text).key = .ok name → IsPath text name) ∧
    ∀ names, Fragment.selectAll [.text text] = .ok names →
      ∀ name ∈ names, IsEntry (IsPath text) name := by
  refine ⟨fun tree htree entry hentry clause bound => ⟨?_, fun sql after hsql => ?_⟩,
    fun name hkey => isPath_of_key hfree hkey, fun names hselect => isEntry_of_selectAll hfree hselect⟩
  · have hformed := formed_isPath hfree htree
    rw [← fault?_eq_none_iff_callDepth hformed]
    constructor
    · rintro ⟨sql, after, hsql⟩
      exact (writeOnto_eq_ok_iff.mp hsql).1
    · exact fun hfault => ⟨_, _, writeOnto_ok hfault _ _ _⟩
  · obtain ⟨_, rfl, _⟩ := writeOnto_eq_ok_iff.mp hsql
    obtain ⟨tokens, htokens, hjoin⟩ := spells_of_formed (formed_isPath hfree htree) bound.size
    have hharmless : ∀ w ∈ tokens, w = escapeClause ∨ Harmless w := fun w hw =>
      (htokens w hw).harmless (fun name ⟨t, _, hpath⟩ => harmless_of_plain (plain_of_isFieldName hpath.isFieldName))
        (harmless_standard entry hentry)
    refine ⟨tokens, hjoin, fun w hw => ⟨htokens w hw, hharmless w hw⟩, ?_⟩
    rw [hjoin]
    exact not_mem_join hharmless

/-- A comparison with a text that would end the statement, and a match of one that opens a comment. -/
def hostileTerm : Term :=
  .connective .and
    (.compare (.access (.name ⟨"note", by decide⟩) ⟨"text", by decide⟩) [.compare .ne]
      [.constant (.literal (.str "'; DROP TABLE t; --"))])
    [.call (.access (.name ⟨"code", by decide⟩) ⟨"endswith", by decide⟩)
      [.constant (.literal (.str "--"))] []]

theorem reads_hostile :
    Phrase.reads "note.text != \"'; DROP TABLE t; --\" and code.endswith('--')" hostileTerm := by
  decide +kernel

theorem subscriptFree_cannot_inject_hostile :
    (subscriptFree "note.text != \"'; DROP TABLE t; --\" and code.endswith('--')" = true ∧
      subscriptFree Term.displayText = true) ∧
    (∃ tree sql after tokens,
      (Fragment.text "note.text != \"'; DROP TABLE t; --\" and code.endswith('--')").predicate = .ok tree ∧
        writeOnto Style.numeric.place none tree #[] = (.ok sql, after) ∧ sql = String.join tokens ∧
        ∀ w ∈ tokens, w = escapeClause ∨ Harmless w) ∧
    IsEntry (IsPath Term.displayText) "order.total AS k" := by
  have hhostile := Phrase.term_eq_of_reads reads_hostile
  have hlabelled := Phrase.term_eq_of_reads Term.reads_bare.2.1
  have hfree : subscriptFree "note.text != \"'; DROP TABLE t; --\" and code.endswith('--')" = true := by
    rw [subscriptFree, hhostile]
    rfl
  have hfree' : subscriptFree Term.displayText = true := by
    rw [subscriptFree, hlabelled]
    rfl
  refine ⟨⟨hfree, hfree'⟩, ?_, ?_⟩
  · have htree : hostileTerm.predicate = .ok (.connect .and
        (.compare .ne (.member "note.text") (.literal (.str "'; DROP TABLE t; --")))
        (.pattern .ends "code" "--")) := rfl
    have htree := (Fragment.agree_predicate hhostile _).mpr htree
    have hnumeric : ("numeric", Style.numeric) ∈ StyleBook.standard.entries := by
      simp [StyleBook.standard]
    obtain ⟨hwritten, htokens⟩ :=
      (subscriptFree_cannot_inject _ hfree).1 _ htree _ hnumeric none #[]
    obtain ⟨sql, after, hsql⟩ := hwritten.mpr (by decide)
    obtain ⟨tokens, hjoin, hall, _⟩ := htokens sql after hsql
    exact ⟨_, sql, after, tokens, htree, hsql, hjoin, fun w hw => (hall w hw).2⟩
  · exact (subscriptFree_cannot_inject _ hfree').2.2 _ Term.selectAll_bareDisplay _ (by simp)

end TextFragment

end BoundQuery
