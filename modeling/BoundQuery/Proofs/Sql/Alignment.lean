import BoundQuery.Proofs.Sql.Outline

/-!
# Placeholders and bound values stay in step

A statement is a row of texts that no placeholder style plays a part in, with the placeholder of
position `k` between the texts `k - 1` and `k`. The values it binds are the leaves of its trees.

* `Tree.leaves` – the values of a tree from left to right, with the pattern of a text match in place of
  its term (`Tree.values_lexemes`);
* `segments` – lexemes cut at their values, and `interleave` – texts with placeholders between them
  (`spell_eq_interleave`);
* `OpensClear` – a text on which no placeholder before it can run on.
-/

namespace BoundQuery

open BoundQuery.Sql

/-! ## 1. The leaves of a tree -/

/-- The value that a text match of a term stands for. -/
def Match.leaf (term : String) : Match → Literal
  | .starts => .str (escaped term ++ "%")
  | .ends => .str ("%" ++ escaped term)

theorem Match.leaf_eq (term : String) (m : Match) : m.leaf term = .str (matchPattern m term) := by
  cases m with
  | starts =>
    have h : escaped term ++ "%" = (escaped term).push '%' := rfl
    rw [Match.leaf, h]
    rfl
  | ends =>
    have h : "%" ++ escaped term = String.ofList ('%' :: (escaped term).toList) :=
      String.toList_injective (by simp)
    rw [Match.leaf, h]
    rfl

namespace Tree

mutual

/-- The literals of a tree from left to right. The term of a text match counts as its pattern. -/
def leaves : Tree → List Literal
  | .member _ => []
  | .literal value => [value]
  | .binary _ left right => leaves left ++ leaves right
  | .logical _ left right => leaves left ++ leaves right
  | .unary _ operand => leaves operand
  | .call callee arguments =>
      match Method.ofSpelling? callee, arguments with
      | some (.pattern m), [receiver, .literal (.str term)] => leaves receiver ++ [m.leaf term]
      | _, arguments => leavesAll arguments

/-- The literals of several trees, one after the other. -/
def leavesAll : List Tree → List Literal
  | [] => []
  | t :: ts => leaves t ++ leavesAll ts

end

theorem leaves_membership {callee : String} (h : Method.ofSpelling? callee = some .membership)
    (arguments : List Tree) : (Tree.call callee arguments).leaves = leavesAll arguments := by
  unfold leaves
  rw [h]

theorem leaves_pattern {callee : String} {m : Match}
    (h : Method.ofSpelling? callee = some (.pattern m)) (receiver : Tree) (term : String) :
    (Tree.call callee [receiver, .literal (.str term)]).leaves = receiver.leaves ++ [m.leaf term] := by
  rw [leaves]
  exact h

theorem values_lexemesAll : ∀ ts : List Tree, (∀ t ∈ ts, values t.lexemes = t.leaves) →
    values (ts.map lexemes).flatten = leavesAll ts
  | [], _ => rfl
  | t :: ts, h => by
      have ih := values_lexemesAll ts fun u hu => h u (List.mem_cons_of_mem _ hu)
      rw [List.map_cons, List.flatten_cons, values_append, ih, h t (by simp), leavesAll]

/-- **What a tree without a fault binds are its leaves.** -/
theorem values_lexemes : ∀ (room : Nat) (t : Tree), Sql.fault? room t = none →
    values t.lexemes = t.leaves
  | 0, _, h => by cases h
  | room + 1, t, h => by
      obtain ⟨hown, hreached⟩ := fault?_eq_none_iff.mp h
      have ih : ∀ u ∈ t.visited, values u.lexemes = u.leaves := by
        intro u hu
        obtain ⟨calls, hmem⟩ := exists_mem_reached hu
        exact values_lexemes (room - calls) u (hreached _ hmem)
      cases t with
      | member name => rfl
      | literal value => rfl
      | binary operator left right =>
        simp [lexemes, leaves, ih left (by simp [visited]), ih right (by simp [visited])]
      | logical operator left right =>
        simp [lexemes, leaves, ih left (by simp [visited]), ih right (by simp [visited])]
      | unary operator operand => simp [lexemes, leaves, ih operand (by simp [visited])]
      | call callee arguments =>
        rcases call_of_ownFault?_eq_none hown with
          ⟨hcallee, receiver, first, rest, rfl⟩ | ⟨m, hcallee, receiver, term, rfl⟩
        · rw [visited_membership hcallee] at ih
          have hrest := values_lexemesAll (first :: rest) fun u hu => ih u (List.mem_cons_of_mem _ hu)
          rw [lexemes_membership hcallee, leaves_membership hcallee, leavesAll, ← hrest]
          simp [values_intercalate, ih receiver (by simp)]
        · rw [visited_pattern hcallee] at ih
          rw [lexemes_pattern hcallee, leaves_pattern hcallee, Match.leaf_eq]
          simp [ih receiver (by simp)]

end Tree

/-- The literals of a query: those of the filter, then those of the having clause. -/
def Descriptor.leaves (d : Descriptor) : List Literal :=
  d.filter.elim [] Tree.leaves ++ d.having.elim [] Tree.leaves

/-! ## 2. Texts between placeholders -/

namespace Sql

/-- Texts, each with a placeholder before it, from position `k` on. -/
def interleave (place : Nat → String) : Nat → List String → String
  | _, [] => ""
  | k, text :: texts => place k ++ text ++ interleave place (k + 1) texts

/-- Lexemes cut at their values: the text before the first value, and the text after each. -/
def segments : List Lexeme → String × List String
  | [] => ("", [])
  | .value _ :: ls => ("", (segments ls).1 :: (segments ls).2)
  | l :: ls => (l.spelling (fun _ => "") 0 ++ (segments ls).1, (segments ls).2)

/-- **The text of lexemes is that of their segments with placeholders between them.** -/
theorem spell_eq_interleave (place : Nat → String) : ∀ (n : Nat) (ls : List Lexeme),
    spell place n ls = (segments ls).1 ++ interleave place (n + 1) (segments ls).2
  | n, [] => rfl
  | n, l :: ls => by
      have ih := spell_eq_interleave place (n + l.width) ls
      rw [spell_cons, ih]
      cases l with
      | value v => simp [segments, interleave, String.append_assoc]
      | _ => simp [segments, String.append_assoc]

theorem length_segments : ∀ ls : List Lexeme, (segments ls).2.length = (values ls).length
  | [] => rfl
  | l :: ls => by
      have ih := length_segments ls
      cases l <;> simp [segments, ih]

/-- A text that is empty or opens with a blank, a comma or a closing parenthesis. -/
def OpensClear (text : String) : Prop := ∀ c ∈ text.toList.head?, c = ' ' ∨ c = ',' ∨ c = ')'

theorem opensClear_segments_fst {l : Lexeme} {ls : List Lexeme} (h : l.isBreak = true) :
    OpensClear (segments (l :: ls)).1 := by
  unfold OpensClear
  cases l <;> simp_all [Lexeme.isBreak, segments]

/-- **After a value the text opens clear.** -/
theorem opensClear_segments : ∀ {ls : List Lexeme}, ls.IsChain Follows →
    ∀ text ∈ (segments ls).2, OpensClear text
  | [], _, text, htext => by simp [segments] at htext
  | l :: ls, h, text, htext => by
      have ih := opensClear_segments h.tail
      cases l with
      | value v =>
        rcases List.mem_cons.mp htext with rfl | hrest
        · cases ls with
          | nil => simp [OpensClear, segments]
          | cons m ms => exact opensClear_segments_fst ((List.isChain_cons_cons.mp h).1 rfl)
        · exact ih text hrest
      | _ => exact ih text htext

/-! ## 3. Whole statements -/

theorem isChain_plainParts {texts : List String} : ∀ ls ∈ plainParts texts, ls.IsChain Follows := by
  intro ls hls
  obtain ⟨text, _, rfl⟩ := List.mem_map.mp hls
  exact .singleton _

theorem isChain_predicateParts {keyword : String} {tree : Option Tree} :
    ∀ ls ∈ predicateParts keyword tree, ls.IsChain Follows := by
  intro ls hls
  cases tree with
  | none => simp [predicateParts] at hls
  | some t =>
    obtain rfl : ls = predicatePart keyword t := by simpa [predicateParts] using hls
    refine .cons_cons (fun _ => rfl) (.cons t.isChain_lexemes ?_)
    intro y _ hdelim
    cases hdelim

theorem values_predicateParts [Limits] {keyword : String} {tree : Option Tree}
    (h : clauseFault? keyword tree = none) :
    values (predicateParts keyword tree).flatten = tree.elim [] Tree.leaves := by
  cases tree with
  | none => rfl
  | some t =>
    have hf : Sql.fault? Limits.writing t = none := by simpa [clauseFault?] using h
    simp [predicateParts, predicatePart, Tree.values_lexemes Limits.writing t hf]

end Sql

namespace Descriptor

theorem isChain_bodyParts (d : Descriptor) : ∀ ls ∈ d.bodyParts, ls.IsChain Follows := by
  simp only [bodyParts, List.mem_append]
  rintro ls (((h | h) | h) | h)
  · exact isChain_plainParts ls h
  · exact isChain_predicateParts ls h
  · exact isChain_plainParts ls h
  · exact isChain_predicateParts ls h

theorem values_bodyParts [Limits] {d : Descriptor} (h : d.fault? = none) :
    values d.bodyParts.flatten = d.leaves := by
  obtain ⟨hw, hh⟩ := Option.or_eq_none_iff.mp h
  simp [bodyParts, leaves, values_plainParts, values_predicateParts hw, values_predicateParts hh]

end Descriptor

namespace Wanted

theorem isChain_outline [Limits] {wanted : Wanted} {d : Descriptor} {ls : List Lexeme}
    (h : wanted.outline d = .ok ls) : ls.IsChain Follows := by
  obtain ⟨_, before, after, rfl⟩ := exists_of_outline h
  refine parts_blank.isChain_intercalate _ fun ls hls => ?_
  simp only [List.mem_append] at hls
  rcases hls with (hls | hls) | hls
  · exact isChain_plainParts ls hls
  · exact d.isChain_bodyParts ls hls
  · exact isChain_plainParts ls hls

theorem values_outline [Limits] {wanted : Wanted} {d : Descriptor} {ls : List Lexeme}
    (h : wanted.outline d = .ok ls) : values ls = d.leaves := by
  obtain ⟨hf, before, after, rfl⟩ := exists_of_outline h
  rw [values_intercalate rfl]
  simp [values_plainParts, Descriptor.values_bodyParts hf]

end Wanted

namespace Session

/-- **Placeholders and bound values stay in step.** A compiled query has texts, the same in every
    style, that stand around its placeholders; each text after a placeholder opens clear of it; and the
    values bound are the leaves of the query, one for each placeholder. -/
theorem compile_aligned [Limits] (s : Session) (wanted : Wanted) (name : Literal) (d : Descriptor)
    (answer : Sql.Statement) (h : (s.compile wanted name d).2 = .statement answer) :
    ∃ (first : String) (rest : List String),
      rest.length = d.leaves.length ∧ (∀ text ∈ rest, OpensClear text) ∧
        ∀ (s' : Session) (name' : Literal) (style : Style), s'.styles.ask name' = .ok style →
          (s'.compile wanted name' d).2
            = .statement ⟨first ++ interleave style.place 1 rest, d.leaves.toArray, style.reported⟩ := by
  obtain ⟨_, ls, _, hls, _⟩ := compile_eq_statement_iff.mp h
  refine ⟨(segments ls).1, (segments ls).2, ?_, opensClear_segments (Wanted.isChain_outline hls), ?_⟩
  · rw [length_segments, Wanted.values_outline hls]
  · intro s' name' style hstyle
    refine compile_eq_statement_iff.mpr ⟨style, ls, hstyle, hls, ?_⟩
    rw [Statement.ofLexemes, spell_eq_interleave, Wanted.values_outline hls]

/-- A query with placeholders in both clauses, and a term that its pattern has to escape. -/
def alignedQuery : Descriptor :=
  { Descriptor.ofTable "users" with
    filter := some (.connect .and (.compare .ge (.member "age") (.literal (.int 18)))
      (.pattern .ends "rate" "5%"))
    groupKey := some "city"
    having := some (.membership "city" [.literal (.str "Bonn"), .literal .null]) }

/-- What the query is compiled to with numbered placeholders. -/
def alignedStatement : Sql.Statement :=
  ⟨"SELECT * FROM users WHERE (age >= :1 AND rate LIKE :2 ESCAPE '!')"
      ++ " GROUP BY city HAVING city IN (:3, :4)",
    #[.int 18, .str "%5!%", .str "Bonn", .null], "numeric"⟩

theorem compile_aligned_numeric :
    ((ofQuery alignedQuery).compile .rows (.str "numeric") alignedQuery).2
        = .statement alignedStatement ∧
      ∃ (first : String) (rest : List String),
        rest.length = 4 ∧ (∀ text ∈ rest, OpensClear text) ∧
          ((ofQuery alignedQuery).compile .rows (.str "qmark") alignedQuery).2
            = .statement ⟨first ++ interleave Style.qmark.place 1 rest,
                #[.int 18, .str "%5!%", .str "Bonn", .null], "qmark"⟩ := by
  have hcompiled : ((ofQuery alignedQuery).compile .rows (.str "numeric") alignedQuery).2
      = .statement alignedStatement := by rfl
  obtain ⟨first, rest, hlength, hclear, hall⟩ := compile_aligned _ _ _ _ _ hcompiled
  exact ⟨hcompiled, first, rest, hlength, hclear,
    hall (ofQuery alignedQuery) (.str "qmark") Style.qmark (by rfl)⟩

end Session

end BoundQuery
