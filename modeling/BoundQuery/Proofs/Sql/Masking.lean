import BoundQuery.Proofs.Sql.Outline

/-!
# Literals never reach the text

`Tree.masked` blots out every literal of a tree, but keeps whether the term of a text match is a text.
Queries that look the same once their literals are blotted out compile alike in every style: they fail
for the same reason, or give the same text and bind equally many values.

* `fault?_masked` – a fault does not depend on literals;
* `Tree.map_masked_lexemes` – nor do the lexemes, but for the values that they bind;
* `Wanted.outline_masked` – nor does a whole outline.
-/

namespace BoundQuery

open BoundQuery.Sql

/-! ## 1. Masked trees -/

namespace Tree

mutual

/-- A tree with every literal blotted out. The term of a text match stays a text, if it is one. -/
def masked : Tree → Tree
  | .member name => .member name
  | .literal _ => .literal .null
  | .binary operator left right => .binary operator (masked left) (masked right)
  | .logical operator left right => .logical operator (masked left) (masked right)
  | .unary operator operand => .unary operator (masked operand)
  | .call callee arguments =>
      match Method.ofSpelling? callee, arguments with
      | some (.pattern _), [receiver, .literal (.str _)] =>
          .call callee [masked receiver, .literal (.str "")]
      | _, arguments => .call callee (maskedAll arguments)

/-- Several trees with every literal blotted out. -/
def maskedAll : List Tree → List Tree
  | [] => []
  | t :: ts => masked t :: maskedAll ts

end

theorem maskedAll_eq_map : ∀ ts : List Tree, maskedAll ts = ts.map masked
  | [] => rfl
  | t :: ts => by rw [maskedAll, maskedAll_eq_map ts, List.map_cons]

/-- A masked tree is never a text. -/
theorem masked_ne_str (t : Tree) (s : String) : t.masked ≠ .literal (.str s) := by
  cases t with
  | call callee arguments =>
    rw [masked.eq_def]
    intro h
    simp only at h
    split at h <;> cases h
  | _ => simp [masked]

theorem masked_pattern {callee : String} {m : Match}
    (h : Method.ofSpelling? callee = some (.pattern m)) (receiver : Tree) (term : String) :
    (Tree.call callee [receiver, .literal (.str term)]).masked
      = .call callee [receiver.masked, .literal (.str "")] := by
  rw [masked.eq_def]
  simp only [h]

/-- A call is a text match of a text, or it is masked argument by argument. -/
theorem masked_call_cases (callee : String) (arguments : List Tree) :
    (∃ m receiver term, Method.ofSpelling? callee = some (.pattern m) ∧
        arguments = [receiver, .literal (.str term)]) ∨
      (Tree.call callee arguments).masked = .call callee (arguments.map masked) ∧
        ∀ m, Method.ofSpelling? callee = some (.pattern m) →
          ∀ receiver term, arguments ≠ [receiver, .literal (.str term)] := by
  rw [← maskedAll_eq_map, masked.eq_def]
  simp only
  split
  · rename_i m receiver term hcallee
    exact .inl ⟨m, receiver, term, hcallee, rfl⟩
  · rename_i hother
    exact .inr ⟨rfl, fun m hcallee receiver term h => hother m receiver term hcallee h⟩

/-! ## 2. Faults do not depend on literals -/

theorem ownFault?_masked (t : Tree) : t.masked.ownFault? = t.ownFault? := by
  cases t with
  | member name => rfl
  | literal value => rfl
  | binary operator left right => rfl
  | logical operator left right => rfl
  | unary operator operand => rfl
  | call callee arguments =>
    rcases masked_call_cases callee arguments with ⟨m, receiver, term, hcallee, rfl⟩ | ⟨hmask, hother⟩
    · rw [masked_pattern hcallee]
      simp only [ownFault?, hcallee]
    · rw [hmask]
      cases hcallee : Method.ofSpelling? callee with
      | none => simp only [ownFault?, hcallee]
      | some method =>
        cases method with
        | membership =>
          simp only [ownFault?, hcallee]
          rcases arguments with _ | ⟨t, _ | ⟨u, ts⟩⟩ <;> rfl
        | pattern m =>
          by_cases hlength : arguments.length = 2
          · obtain ⟨receiver, term, rfl⟩ := List.length_eq_two.mp hlength
            rw [ownFault?_patternTerm hcallee fun s h => hother m hcallee receiver s (by rw [h])]
            exact ownFault?_patternTerm hcallee (masked_ne_str term)
          · rw [ownFault?_patternArguments hcallee hlength]
            exact ownFault?_patternArguments hcallee (by rwa [List.length_map])

theorem reached_masked (t : Tree) : t.masked.reached = t.reached.map fun p => (p.1, p.2.masked) := by
  cases t with
  | member name => rfl
  | literal value => rfl
  | binary operator left right => rfl
  | logical operator left right => rfl
  | unary operator operand => rfl
  | call callee arguments =>
    rcases masked_call_cases callee arguments with ⟨m, receiver, term, hcallee, rfl⟩ | ⟨hmask, _⟩
    · rw [masked_pattern hcallee, reached_pattern hcallee, reached_pattern hcallee]
      rfl
    · rw [hmask]
      rcases hcallee : Method.ofSpelling? callee with _ | _ | m
      all_goals cases arguments <;> simp [reached, hcallee]

end Tree

namespace Sql

/-- **A fault does not depend on literals.** -/
theorem fault?_masked : ∀ (room : Nat) (t : Tree), fault? room t.masked = fault? room t
  | 0, _ => rfl
  | room + 1, t => by
      rw [fault?_succ, fault?_succ, Tree.ownFault?_masked, Tree.reached_masked, List.findSome?_map]
      exact congrArg (t.ownFault?.or <| t.reached.findSome? ·)
        (funext fun p => fault?_masked (room - p.1) p.2)

/-! ## 3. Lexemes but for their values -/

/-- A lexeme with its value blotted out. -/
def Lexeme.masked : Lexeme → Lexeme
  | .value _ => .value .null
  | l => l

theorem spell_map_masked (place : Nat → String) : ∀ (n : Nat) (ls : List Lexeme),
    spell place n (ls.map Lexeme.masked) = spell place n ls
  | n, [] => rfl
  | n, l :: ls => by
      have ih := spell_map_masked place (n + l.width) ls
      rw [List.map_cons, spell_cons, spell_cons, ← ih]
      cases l <;> rfl

theorem length_values_map_masked : ∀ ls : List Lexeme,
    (values (ls.map Lexeme.masked)).length = (values ls).length
  | [] => rfl
  | l :: ls => by
      have ih := length_values_map_masked ls
      rw [List.map_cons, length_values_cons, length_values_cons, ih]
      cases l <;> rfl

theorem map_masked_intercalate (sep : List Lexeme) : ∀ parts : List (List Lexeme),
    (sep.intercalate parts).map Lexeme.masked
      = (sep.map Lexeme.masked).intercalate (parts.map (List.map Lexeme.masked))
  | [] => rfl
  | [ls] => by simp
  | ls :: ms :: parts => by
      have ih := map_masked_intercalate sep (ms :: parts)
      simp only [List.map_cons] at ih
      simp only [List.intercalate_cons_cons, List.map_append, List.map_cons, ih]

end Sql

namespace Tree

/-- A text match of anything but a text has no lexemes. -/
theorem callLexemes_of_ne_str {m : Match} {arguments : List Tree}
    (h : ∀ receiver term, arguments ≠ [receiver, .literal (.str term)]) (parts : List (List Lexeme)) :
    callLexemes (some (.pattern m)) arguments parts = [] := by
  unfold callLexemes
  split
  · rename_i heq
    cases heq
  · exact absurd rfl (h _ _)
  · rfl

theorem map_masked_callLexemes {method : Option Method} {arguments : List Tree}
    (hother : ∀ m, method = some (.pattern m) →
      ∀ receiver term, arguments ≠ [receiver, .literal (.str term)])
    (ih : ∀ t ∈ arguments, t.masked.lexemes.map Lexeme.masked = t.lexemes.map Lexeme.masked) :
    (callLexemes method (arguments.map masked) ((arguments.map masked).map lexemes)).map Lexeme.masked
      = (callLexemes method arguments (arguments.map lexemes)).map Lexeme.masked := by
  match method, arguments with
  | none, _ => rfl
  | some .membership, [] => rfl
  | some .membership, receiver :: values =>
    have hreceiver := ih receiver (by simp)
    have hvalues : ((values.map masked).map lexemes).map (List.map Lexeme.masked)
        = (values.map lexemes).map (List.map Lexeme.masked) := by
      simp only [List.map_map]
      exact List.map_congr_left fun t ht => ih t (List.mem_cons_of_mem _ ht)
    simp only [callLexemes, List.map_cons, List.map_append, map_masked_intercalate, hreceiver, hvalues]
  | some (.pattern m), arguments =>
    have hmasked : ∀ receiver term, arguments.map masked ≠ [receiver, .literal (.str term)] := by
      intro receiver term h
      obtain ⟨_, us, rfl, _, hus⟩ := List.map_eq_cons_iff.mp h
      obtain ⟨u, rfl, hu⟩ := List.map_eq_singleton_iff.mp hus
      exact masked_ne_str u term hu
    rw [callLexemes_of_ne_str hmasked, callLexemes_of_ne_str (hother m rfl)]

/-- **The lexemes of a tree do not depend on literals, but for the values they bind.** -/
theorem map_masked_lexemes (t : Tree) :
    t.masked.lexemes.map Lexeme.masked = t.lexemes.map Lexeme.masked := by
  induction t using induct with
  | member name => rfl
  | literal value => rfl
  | binary operator left right hl hr => simp [masked, lexemes, hl, hr]
  | logical operator left right hl hr => simp [masked, lexemes, hl, hr]
  | unary operator operand h => simp [masked, lexemes, h]
  | call callee arguments ih =>
    rcases masked_call_cases callee arguments with ⟨m, receiver, term, hcallee, rfl⟩ | ⟨hmask, hother⟩
    · rw [masked_pattern hcallee, lexemes_pattern hcallee, lexemes_pattern hcallee]
      simp [ih receiver, Lexeme.masked]
    · rw [hmask, lexemes, lexemes, lexemesAll_eq_map, lexemesAll_eq_map]
      exact map_masked_callLexemes hother ih

end Tree

/-! ## 4. Whole statements -/

namespace Sql

theorem clauseFault?_masked [Limits] (keyword : String) (tree : Option Tree) :
    clauseFault? keyword (tree.map Tree.masked) = clauseFault? keyword tree := by
  cases tree with
  | none => rfl
  | some t => simp only [clauseFault?, Option.map_some, Option.bind_some, fault?_masked]

theorem map_masked_predicateParts (keyword : String) (tree : Option Tree) :
    (predicateParts keyword (tree.map Tree.masked)).map (List.map Lexeme.masked)
      = (predicateParts keyword tree).map (List.map Lexeme.masked) := by
  cases tree with
  | none => rfl
  | some t => simp [predicateParts, predicatePart, t.map_masked_lexemes]

end Sql

namespace Descriptor

/-- A query with every literal blotted out. -/
def masked (d : Descriptor) : Descriptor :=
  { d with filter := d.filter.map Tree.masked, having := d.having.map Tree.masked }

theorem fault?_masked [Limits] (d : Descriptor) : d.masked.fault? = d.fault? := by
  simp only [fault?, masked, clauseFault?_masked]

theorem map_masked_bodyParts (d : Descriptor) :
    d.masked.bodyParts.map (List.map Lexeme.masked) = d.bodyParts.map (List.map Lexeme.masked) := by
  simp only [bodyParts, masked, List.map_append, map_masked_predicateParts]

end Descriptor

namespace Wanted

theorem map_masked_parts (wanted : Wanted) (d : Descriptor) :
    (wanted.parts d.masked).map (List.map (List.map Lexeme.masked))
      = (wanted.parts d).map (List.map (List.map Lexeme.masked)) := by
  cases wanted with
  | rows =>
    simp only [parts]
    have hlimit : d.masked.limit = d.limit := rfl
    have hoffset : d.masked.offset = d.offset := rfl
    rw [hlimit, hoffset]
    cases boundClause .limit d.limit with
    | error e => rfl
    | ok limit =>
      cases boundClause .offset d.offset with
      | error e => rfl
      | ok offset =>
        show Except.ok _ = Except.ok _
        simp only [List.map_append, d.map_masked_bodyParts]
        rfl
  | count =>
    show Except.ok _ = Except.ok _
    simp only [List.map_append, d.map_masked_bodyParts]

/-- **An outline does not depend on literals, but for the values it binds.** -/
theorem outline_masked [Limits] (wanted : Wanted) (d : Descriptor) :
    (wanted.outline d.masked).map (List.map Lexeme.masked)
      = (wanted.outline d).map (List.map Lexeme.masked) := by
  have hparts := map_masked_parts wanted d
  have hintercalate : ∀ parts : Except Failure (List (List Lexeme)),
      (parts.map (List.intercalate [.blank])).map (List.map Lexeme.masked)
        = (parts.map (List.map (List.map Lexeme.masked))).map (List.intercalate [.blank]) := by
    intro parts
    cases parts with
    | error e => rfl
    | ok parts => exact congrArg Except.ok (map_masked_intercalate [.blank] parts)
  rw [outline, outline, Descriptor.fault?_masked]
  cases d.fault? with
  | some e => rfl
  | none =>
    simp only
    rw [hintercalate, hintercalate, hparts]

/-- Queries that look the same once masked have the same fault, or lexemes that do. -/
theorem outline_alike [Limits] (wanted : Wanted) {d d' : Descriptor} (h : d.masked = d'.masked) :
    (∃ failure, wanted.outline d = .error failure ∧ wanted.outline d' = .error failure) ∨
    (∃ ls ls', wanted.outline d = .ok ls ∧ wanted.outline d' = .ok ls' ∧
      ls.map Lexeme.masked = ls'.map Lexeme.masked) := by
  have hmap : (wanted.outline d).map (List.map Lexeme.masked)
      = (wanted.outline d').map (List.map Lexeme.masked) := by
    rw [← wanted.outline_masked d, ← wanted.outline_masked d', h]
  cases hd : wanted.outline d with
  | error e =>
    cases hd' : wanted.outline d' with
    | error e' =>
      rw [hd, hd'] at hmap
      cases hmap
      exact .inl ⟨e, rfl, rfl⟩
    | ok ls' =>
      rw [hd, hd'] at hmap
      cases hmap
  | ok ls =>
    cases hd' : wanted.outline d' with
    | error e' =>
      rw [hd, hd'] at hmap
      cases hmap
    | ok ls' =>
      rw [hd, hd'] at hmap
      exact .inr ⟨ls, ls', rfl, rfl, Except.ok.inj hmap⟩

end Wanted

namespace Session

/-- **Literals never reach the text.** Two queries that are the same once their literals are blotted
    out fail alike, or have one text and bind equally many values. -/
theorem compile_blind_to_literals [Limits] (s : Session) (wanted : Wanted) (name : Literal)
    (d d' : Descriptor) (h : d.masked = d'.masked) :
    (∃ failure, (s.compile wanted name d).2 = .failed failure ∧
      (s.compile wanted name d').2 = .failed failure) ∨
    (∃ answer answer', (s.compile wanted name d).2 = .statement answer ∧
      (s.compile wanted name d').2 = .statement answer' ∧ answer.sql = answer'.sql ∧
      answer.style = answer'.style ∧ answer.values.size = answer'.values.size) := by
  rw [compile_answer, compile_answer]
  cases s.styles.ask name with
  | error e => exact .inl ⟨e, rfl, rfl⟩
  | ok style =>
    rcases wanted.outline_alike h with ⟨failure, hd, hd'⟩ | ⟨ls, ls', hd, hd', hls⟩
    · rw [hd, hd']
      exact .inl ⟨failure, rfl, rfl⟩
    · rw [hd, hd']
      refine .inr ⟨_, _, rfl, rfl, ?_, rfl, ?_⟩
      · show spell style.place 0 ls = spell style.place 0 ls'
        rw [← spell_map_masked, hls, spell_map_masked]
      · show (values ls).toArray.size = (values ls').toArray.size
        rw [List.size_toArray, List.size_toArray, ← length_values_map_masked, hls,
          length_values_map_masked]

/-- A query over the users whose name starts with a term and whose age is none of two values. -/
def maskedQuery (term : String) (first second : Literal) : Descriptor :=
  { Descriptor.ofTable "users" with
    filter := some (.connect .or (.pattern .starts "name" term)
      (.negate (.membership "age" [.literal first, .literal second]))) }

theorem compile_blind_to_hostile_term :
    (maskedQuery "'; DROP TABLE users --" .null (.int 7)).masked
        = (maskedQuery "" (.str "x") (.bool true)).masked ∧
      ∃ answer answer',
        ((ofQuery (.ofTable "users")).compile .rows (.str "numeric")
          (maskedQuery "'; DROP TABLE users --" .null (.int 7))).2 = .statement answer ∧
        ((ofQuery (.ofTable "users")).compile .rows (.str "numeric")
          (maskedQuery "" (.str "x") (.bool true))).2 = .statement answer' ∧
        answer.sql = answer'.sql ∧ answer.style = answer'.style ∧
        answer.values.size = answer'.values.size := by
  have hmask : (maskedQuery "'; DROP TABLE users --" .null (.int 7)).masked
      = (maskedQuery "" (.str "x") (.bool true)).masked := rfl
  refine ⟨hmask, ?_⟩
  rcases compile_blind_to_literals (ofQuery (.ofTable "users")) .rows (.str "numeric") _ _ hmask with
    ⟨failure, hfailed, _⟩ | hboth
  · cases hfailed
  · exact hboth

end Session

end BoundQuery
