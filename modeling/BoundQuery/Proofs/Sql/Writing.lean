import BoundQuery.Proofs.Limits
import BoundQuery.Proofs.Sql.Lexeme

/-!
# What writing a tree does

Writing a tree is settled before a single placeholder is known: `fault?` finds what stops it, and if
nothing does, the text is that of the tree's lexemes and the values are those of the lexemes.

* `Tree.ownFault?` is what is wrong with the root of a tree alone, `Tree.reached` the parts that are
  written after it with the calls in between, and `fault?` the first fault in that order;
* `writesOk_of_fault?_eq_none` and `failsWith_write` say what `write` does, whatever is bound already and
  however many calls may be nested;
* `writeOnto_eq_ok_iff` and `writeOnto_error` say the same of whole predicates.
-/

namespace BoundQuery

open BoundQuery.Sql

/-! ## 1. Faults -/

namespace Tree

/-- What is wrong with the root of a tree. -/
def ownFault? : Tree → Option Fault
  | .member _ => none
  | .literal _ => none
  | .binary operator _ _ => if (comparisonSql? operator).isSome then none else some (.operator operator)
  | .logical operator _ _ => if (connectiveSql? operator).isSome then none else some (.operator operator)
  | .unary operator _ => if (unarySql? operator).isSome then none else some (.operator operator)
  | .call callee arguments =>
      match Method.ofSpelling? callee with
      | none => some (.callee callee)
      | some .membership =>
          match arguments with
          | _ :: _ :: _ => none
          | _ => some (.membershipArguments callee)
      | some (.pattern _) =>
          match arguments with
          | [_, .literal (.str _)] => none
          | [_, _] => some (.patternTerm callee)
          | _ => some (.patternArguments callee)

/-- The parts of a tree that are written, in order, and how many calls each lies below. The term of a text
    match is not written: it is bound as a part of its pattern. -/
def reached : Tree → List (Nat × Tree)
  | .member _ => []
  | .literal _ => []
  | .binary _ left right => [(1, left), (1, right)]
  | .logical _ left right => [(1, left), (1, right)]
  | .unary _ operand => [(1, operand)]
  | .call callee arguments =>
      match Method.ofSpelling? callee, arguments with
      | _, [] => []
      | some (.pattern _), receiver :: _ => [(2, receiver)]
      | _, receiver :: values => (2, receiver) :: values.map (4, ·)

/-- The parts of a tree that are written, in order. -/
def visited : Tree → List Tree
  | .member _ => []
  | .literal _ => []
  | .binary _ left right => [left, right]
  | .logical _ left right => [left, right]
  | .unary _ operand => [operand]
  | .call callee arguments =>
      match Method.ofSpelling? callee with
      | some (.pattern _) => arguments.take 1
      | _ => arguments

/-- A call without a fault at its root is a membership test of at least one value, or a text match of
    a text. -/
theorem call_of_ownFault?_eq_none {callee : String} {arguments : List Tree}
    (h : (Tree.call callee arguments).ownFault? = none) :
    (Method.ofSpelling? callee = some .membership ∧
      ∃ receiver first rest, arguments = receiver :: first :: rest) ∨
    (∃ m, Method.ofSpelling? callee = some (.pattern m) ∧
      ∃ receiver term, arguments = [receiver, .literal (.str term)]) := by
  simp only [ownFault?] at h
  split at h
  · cases h
  · rename_i hcallee
    split at h
    · exact .inl ⟨hcallee, _, _, _, rfl⟩
    · cases h
  · rename_i m hcallee
    split at h
    · exact .inr ⟨m, hcallee, _, _, rfl⟩
    · cases h
    · cases h

theorem ownFault?_patternTerm {callee : String} {m : Match}
    (h : Method.ofSpelling? callee = some (.pattern m)) {receiver term : Tree}
    (hterm : ∀ s, term ≠ .literal (.str s)) :
    (Tree.call callee [receiver, term]).ownFault? = some (.patternTerm callee) := by
  simp only [ownFault?, h]

theorem ownFault?_patternArguments {callee : String} {m : Match}
    (h : Method.ofSpelling? callee = some (.pattern m)) {arguments : List Tree}
    (hlength : arguments.length ≠ 2) :
    (Tree.call callee arguments).ownFault? = some (.patternArguments callee) := by
  simp only [ownFault?, h]
  split
  · exact absurd rfl hlength
  · exact absurd rfl hlength
  · rfl

theorem visited_membership {callee : String} (h : Method.ofSpelling? callee = some .membership)
    (arguments : List Tree) : (Tree.call callee arguments).visited = arguments := by
  rw [visited, h]

theorem visited_pattern {callee : String} {m : Match}
    (h : Method.ofSpelling? callee = some (.pattern m)) (arguments : List Tree) :
    (Tree.call callee arguments).visited = arguments.take 1 := by
  rw [visited, h]

theorem reached_membership {callee : String} (h : Method.ofSpelling? callee = some .membership)
    (receiver : Tree) (values : List Tree) :
    (Tree.call callee (receiver :: values)).reached = (2, receiver) :: values.map (4, ·) := by
  simp only [reached, h]

theorem reached_pattern {callee : String} {m : Match}
    (h : Method.ofSpelling? callee = some (.pattern m)) (receiver : Tree) (arguments : List Tree) :
    (Tree.call callee (receiver :: arguments)).reached = [(2, receiver)] := by
  simp only [reached, h]

theorem map_snd_reached (t : Tree) : t.reached.map (·.2) = t.visited := by
  cases t with
  | call callee arguments =>
    rcases hcallee : Method.ofSpelling? callee with _ | _ | m
    all_goals cases arguments <;> simp [reached, visited, hcallee, Function.comp_def]
  | _ => rfl

theorem exists_mem_reached {t u : Tree} (h : u ∈ t.visited) : ∃ calls, (calls, u) ∈ t.reached := by
  rw [← map_snd_reached, List.mem_map] at h
  obtain ⟨⟨calls, _⟩, hmem, rfl⟩ := h
  exact ⟨calls, hmem⟩

end Tree

namespace Sql

/-- The first fault of a tree, a node before its parts, where `room` calls may be nested. -/
def fault? : Nat → Tree → Option Fault :=
  within (fun _ => some .tooDeep) fun part t =>
    t.ownFault?.or (t.reached.findSome? fun p => part p.1 p.2)

theorem fault?_zero (t : Tree) : fault? 0 t = some .tooDeep := rfl

theorem fault?_succ (room : Nat) (t : Tree) :
    fault? (room + 1) t = t.ownFault?.or (t.reached.findSome? fun p => fault? (room - p.1) p.2) :=
  congrFun (within_succ room) t

theorem fault?_eq_none_iff {room : Nat} {t : Tree} :
    fault? (room + 1) t = none ↔
      t.ownFault? = none ∧ ∀ p ∈ t.reached, fault? (room - p.1) p.2 = none := by
  rw [fault?_succ, Option.or_eq_none_iff, List.findSome?_eq_none_iff]

/-! ## 2. Steps of writing -/

section Steps

variable {α β : Type} {x : Writing α} {f : α → Writing β} {bound bound' : Array Literal}

theorem run_bind_ok {a : α} (h : x.run.run bound = (.ok a, bound')) :
    (x >>= f).run.run bound = (f a).run.run bound' := by
  rw [ExceptT.run_bind, StateT.run_bind, h]
  rfl

theorem run_bind_error {e : Fault} (h : x.run.run bound = (.error e, bound')) :
    (x >>= f).run.run bound = (.error e, bound') := by
  rw [ExceptT.run_bind, StateT.run_bind, h]
  rfl

theorem run_pure_ok (a : α) : (pure a : Writing α).run.run bound = (.ok a, bound) := rfl

theorem run_throw (e : Fault) : (throw e : Writing α).run.run bound = (.error e, bound) := rfl

end Steps

theorem run_bindValue (place : Nat → String) (value : Literal) (bound : Array Literal) :
    (bindValue place value).run.run bound = (.ok (place (bound.size + 1)), bound.push value) := by
  have h : (bindValue place value).run.run bound
      = (.ok (place (bound.push value).size), bound.push value) := rfl
  rw [h, Array.size_push]

/-! ## 3. Several parts -/

/-- The texts of several lists of lexemes, numbered through. -/
def spellEach (place : Nat → String) : Nat → List (List Lexeme) → List String
  | _, [] => []
  | n, ls :: parts => spell place n ls :: spellEach place (n + (values ls).length) parts

/-- The texts of several lists of lexemes, joined, are the text of the joined list. -/
theorem spell_intercalate (place : Nat → String) {sep : List Lexeme} {text : String}
    (hvalues : values sep = []) (htext : ∀ n, spell place n sep = text) :
    ∀ (n : Nat) (parts : List (List Lexeme)),
      spell place n (sep.intercalate parts) = text.intercalate (spellEach place n parts)
  | n, [] => by simp [spellEach]
  | n, [ls] => by simp [spellEach]
  | n, ls :: ms :: parts => by
      have ih := spell_intercalate place hvalues htext (n + (values ls).length) (ms :: parts)
      rw [List.intercalate_cons_cons, spell_append, spell_append, htext, values_append, hvalues,
        List.append_nil, ih]
      simp only [spellEach, String.intercalate_cons_cons]

theorem values_intercalate {sep : List Lexeme} (hvalues : values sep = []) :
    ∀ parts : List (List Lexeme), values (sep.intercalate parts) = values parts.flatten
  | [] => by simp
  | [ls] => by simp
  | ls :: ms :: parts => by
      have ih := values_intercalate hvalues (ms :: parts)
      rw [List.intercalate_cons_cons, values_append, values_append, hvalues, List.append_nil, ih,
        ← values_append]
      rfl

/-- What `write` does to a tree without a fault, whatever is bound already. -/
def WritesOk (place : Nat → String) (room : Nat) (t : Tree) : Prop :=
  ∀ bound : Array Literal, (write place room t).run.run bound
    = (.ok (spell place bound.size t.lexemes), bound ++ (values t.lexemes).toArray)

theorem run_mapM_ok (place : Nat → String) (room : Nat) : ∀ ts : List Tree,
    (∀ t ∈ ts, WritesOk place room t) → ∀ bound : Array Literal,
      (ts.mapM (write place room)).run.run bound
        = (.ok (spellEach place bound.size (Tree.lexemesAll ts)),
            bound ++ (values (Tree.lexemesAll ts).flatten).toArray)
  | [], _, bound => by
      rw [List.mapM_nil, run_pure_ok]
      simp [Tree.lexemesAll, spellEach]
  | t :: ts, h, bound => by
      have hfirst := h t (by simp) bound
      have hrest := run_mapM_ok place room ts (fun u hu => h u (by simp [hu]))
        (bound ++ (values t.lexemes).toArray)
      rw [List.mapM_cons, run_bind_ok hfirst, run_bind_ok hrest, run_pure_ok]
      simp [Tree.lexemesAll, spellEach]

/-! ## 4. Writing a tree -/

theorem write_succ (place : Nat → String) (room : Nat) (t : Tree) :
    write place (room + 1) t = writeNode place (fun calls => write place (room - calls)) t :=
  congrFun (within_succ room) t

theorem commaSeparated_spellEach (place : Nat → String) (n : Nat) (parts : List (List Lexeme)) :
    Text.commaSeparated (spellEach place n parts)
      = spell place n (List.intercalate [.comma, .blank] parts) :=
  (spell_intercalate place rfl (fun _ => rfl) n parts).symm

section WritesOk

variable {place : Nat → String} {room : Nat}

attribute [local simp] writeNode

theorem writesOk_member (name : String) : WritesOk place (room + 1) (.member name) := by
  intro bound
  rw [write_succ, writeNode, run_pure_ok]
  simp [Tree.lexemes]

theorem writesOk_literal (value : Literal) : WritesOk place (room + 1) (.literal value) := by
  intro bound
  rw [write_succ]
  simp [run_bindValue, Tree.lexemes]

theorem writesOk_binary {operator sql : String} {left right : Tree}
    (hsql : comparisonSql? operator = some sql) (hl : WritesOk place (room - 1) left)
    (hr : WritesOk place (room - 1) right) : WritesOk place (room + 1) (.binary operator left right) := by
  intro bound
  rw [write_succ, writeNode, hsql]
  simp only
  rw [run_bind_ok (hl bound), run_bind_ok (hr _), run_pure_ok]
  simp [Tree.lexemes, hsql, spell_append, String.append_assoc]

theorem writesOk_logical {operator sql : String} {left right : Tree}
    (hsql : connectiveSql? operator = some sql) (hl : WritesOk place (room - 1) left)
    (hr : WritesOk place (room - 1) right) : WritesOk place (room + 1) (.logical operator left right) := by
  intro bound
  rw [write_succ, writeNode, hsql]
  simp only
  rw [run_bind_ok (hl bound), run_bind_ok (hr _), run_pure_ok]
  simp [Tree.lexemes, hsql, spell_append, String.append_assoc]

theorem writesOk_unary {operator sql : String} {operand : Tree} (hsql : unarySql? operator = some sql)
    (h : WritesOk place (room - 1) operand) : WritesOk place (room + 1) (.unary operator operand) := by
  intro bound
  rw [write_succ, writeNode, hsql]
  simp only
  rw [run_bind_ok (h bound), run_pure_ok]
  simp [Tree.lexemes, hsql, String.append_assoc]

theorem writesOk_membership {callee : String} {receiver first : Tree} {rest : List Tree}
    (hcallee : Method.ofSpelling? callee = some .membership) (hr : WritesOk place (room - 2) receiver)
    (hvs : ∀ t ∈ first :: rest, WritesOk place (room - 4) t) :
    WritesOk place (room + 1) (.call callee (receiver :: first :: rest)) := by
  intro bound
  rw [write_succ, writeNode, hcallee]
  simp only
  rw [run_bind_ok (hr bound), run_bind_ok (run_mapM_ok place _ _ hvs _), run_pure_ok,
    commaSeparated_spellEach, Tree.lexemes_membership hcallee, Tree.lexemesAll_eq_map]
  have hin : " IN (" = " " ++ ("IN" ++ (" " ++ "(")) := rfl
  simp [-String.reduceAppend, hin, spell_append, String.append_assoc, values_intercalate]

theorem writesOk_pattern {callee term : String} {m : Match} {receiver : Tree}
    (hcallee : Method.ofSpelling? callee = some (.pattern m)) (hr : WritesOk place (room - 2) receiver) :
    WritesOk place (room + 1) (.call callee [receiver, .literal (.str term)]) := by
  intro bound
  rw [write_succ, writeNode, hcallee]
  simp only
  rw [run_bind_ok (hr bound), run_bind_ok (run_bindValue place _ _), run_pure_ok,
    Tree.lexemes_pattern hcallee, spell_append]
  simp only [spell_cons, Lexeme.spelling]
  generalize String.ofList [escapeMark] = mark
  have hlike : " LIKE " = " " ++ ("LIKE" ++ " ") := rfl
  have hescape : " ESCAPE '" = " " ++ ("ESCAPE" ++ (" " ++ "'")) := rfl
  simp [-String.reduceAppend, hlike, hescape, String.append_assoc]

theorem writesOk_of_fault?_eq_none (place : Nat → String) :
    ∀ (room : Nat) (t : Tree), fault? room t = none → WritesOk place room t
  | 0, _, h => by cases h
  | room + 1, t, h => by
      obtain ⟨hown, hreached⟩ := fault?_eq_none_iff.mp h
      have ih {calls : Nat} {u : Tree} (hu : (calls, u) ∈ t.reached) : WritesOk place (room - calls) u :=
        writesOk_of_fault?_eq_none place (room - calls) u (hreached _ hu)
      cases t with
      | member name => exact writesOk_member name
      | literal value => exact writesOk_literal value
      | binary operator left right =>
        obtain ⟨sql, hsql⟩ : ∃ sql, comparisonSql? operator = some sql := by
          simpa [Tree.ownFault?, Option.isSome_iff_exists] using hown
        exact writesOk_binary hsql (ih (by simp [Tree.reached])) (ih (by simp [Tree.reached]))
      | logical operator left right =>
        obtain ⟨sql, hsql⟩ : ∃ sql, connectiveSql? operator = some sql := by
          simpa [Tree.ownFault?, Option.isSome_iff_exists] using hown
        exact writesOk_logical hsql (ih (by simp [Tree.reached])) (ih (by simp [Tree.reached]))
      | unary operator operand =>
        obtain ⟨sql, hsql⟩ : ∃ sql, unarySql? operator = some sql := by
          simpa [Tree.ownFault?, Option.isSome_iff_exists] using hown
        exact writesOk_unary hsql (ih (by simp [Tree.reached]))
      | call callee arguments =>
        rcases Tree.call_of_ownFault?_eq_none hown with
          ⟨hcallee, receiver, first, rest, rfl⟩ | ⟨m, hcallee, receiver, term, rfl⟩
        · rw [Tree.reached_membership hcallee] at ih
          exact writesOk_membership hcallee (ih List.mem_cons_self)
            fun u hu => ih (List.mem_cons_of_mem _ (List.mem_map_of_mem hu))
        · rw [Tree.reached_pattern hcallee] at ih
          exact writesOk_pattern hcallee (ih List.mem_cons_self)

end WritesOk

/-! ## 5. Faults of writing -/

/-- A piece of writing fails with a fault, whatever is bound already, and what it has bound by then
    does not depend on that either. -/
def FailsWith {α : Type} (x : Writing α) (f : Fault) : Prop :=
  ∃ extra : Array Literal, ∀ bound : Array Literal, x.run.run bound = (.error f, bound ++ extra)

section FailsWith

variable {α β γ : Type} {f : Fault}

theorem failsWith_throw : FailsWith (throw f : Writing α) f :=
  ⟨#[], fun bound => by rw [run_throw, Array.append_empty]⟩

theorem FailsWith.bind {x : Writing α} (h : FailsWith x f) (g : α → Writing β) :
    FailsWith (x >>= g) f := by
  obtain ⟨extra, h⟩ := h
  exact ⟨extra, fun bound => run_bind_error (h bound)⟩

theorem FailsWith.after {x : Writing α} {more : Array Literal} {y : Writing β}
    (hx : ∀ bound : Array Literal, ∃ a, x.run.run bound = (.ok a, bound ++ more)) (h : FailsWith y f)
    (k : α → β → Writing γ) : FailsWith (x >>= fun a => y >>= k a) f := by
  obtain ⟨extra, h⟩ := h
  refine ⟨more ++ extra, fun bound => ?_⟩
  obtain ⟨a, ha⟩ := hx bound
  rw [run_bind_ok ha, run_bind_error (h _), Array.append_assoc]

variable {place : Nat → String} {room : Nat}

theorem WritesOk.exists_run {t : Tree} (h : WritesOk place room t) (bound : Array Literal) :
    ∃ sql, (write place room t).run.run bound = (.ok sql, bound ++ (values t.lexemes).toArray) :=
  ⟨_, h bound⟩

/-- Of two parts written one after the other, the first that has a fault decides. -/
theorem failsWith_pair {left right : Tree} (h : [left, right].findSome? (fault? room) = some f)
    (ih : ∀ t f, fault? room t = some f → FailsWith (write place room t) f)
    (k : String → String → Writing γ) :
    FailsWith (write place room left >>= fun l => write place room right >>= k l) f := by
  simp only [List.findSome?_cons, List.findSome?_nil] at h
  split at h
  · rename_i e hl
    cases h
    exact (ih left f hl).bind _
  · rename_i hl
    have hr : fault? room right = some f := by
      split at h
      · rename_i hr
        rw [hr, h]
      · cases h
    exact .after (writesOk_of_fault?_eq_none place room left hl).exists_run (ih right f hr) k

/-- Of several parts written one after the other, the first that has a fault decides. -/
theorem failsWith_mapM (ih : ∀ t f, fault? room t = some f → FailsWith (write place room t) f) :
    ∀ ts : List Tree, ts.findSome? (fault? room) = some f →
      FailsWith (ts.mapM (write place room)) f
  | [], h => by simp at h
  | t :: ts, h => by
      rw [List.findSome?_cons] at h
      rw [List.mapM_cons]
      split at h
      · rename_i e ht
        cases h
        exact (ih t f ht).bind _
      · rename_i ht
        exact .after (writesOk_of_fault?_eq_none place room t ht).exists_run (failsWith_mapM ih ts h) _

/-- A call with a fault at its root stops there. -/
theorem write_call_eq_throw {callee : String} {arguments : List Tree}
    (h : (Tree.call callee arguments).ownFault? = some f) :
    write place (room + 1) (.call callee arguments) = throw f := by
  rw [write_succ]
  unfold writeNode
  simp only [Tree.ownFault?] at h ⊢
  cases hcallee : Method.ofSpelling? callee with
  | none =>
    rw [hcallee] at h
    cases h
    rfl
  | some method =>
    rw [hcallee] at h
    cases method with
    | membership =>
      rcases arguments with _ | ⟨t, _ | ⟨u, ts⟩⟩
      · cases h
        rfl
      · cases h
        rfl
      · cases h
    | pattern m =>
      -- the second argument is looked at before the number of arguments is
      rcases arguments with _ | ⟨t, _ | ⟨u, us⟩⟩
      · cases h
        rfl
      · cases h
        rfl
      · cases u with
        | literal value => cases value <;> cases us <;> cases h <;> rfl
        | _ => cases us <;> cases h <;> rfl

/-- **A tree with a fault is not written, and the fault is the one that is reported.** -/
theorem failsWith_write (place : Nat → String) : ∀ (room : Nat) (t : Tree) (f : Fault),
    fault? room t = some f → FailsWith (write place room t) f
  | 0, t, f, h => by
      cases h
      exact failsWith_throw
  | room + 1, t, f, h => by
      have ih (calls : Nat) := failsWith_write place (room - calls)
      rw [fault?_succ] at h
      cases t with
      | member name => simp [Tree.ownFault?, Tree.reached] at h
      | literal value => simp [Tree.ownFault?, Tree.reached] at h
      | binary operator left right =>
        rw [write_succ, writeNode]
        cases hsql : comparisonSql? operator with
        | none =>
          simp only [Tree.ownFault?, hsql, Option.isSome_none, Bool.false_eq_true, if_false,
            Option.some_or, Option.some.injEq] at h
          exact h ▸ failsWith_throw
        | some sql =>
          simp only [Tree.ownFault?, hsql, Option.isSome_some, if_true, Option.none_or] at h
          exact failsWith_pair h (ih 1) _
      | logical operator left right =>
        rw [write_succ, writeNode]
        cases hsql : connectiveSql? operator with
        | none =>
          simp only [Tree.ownFault?, hsql, Option.isSome_none, Bool.false_eq_true, if_false,
            Option.some_or, Option.some.injEq] at h
          exact h ▸ failsWith_throw
        | some sql =>
          simp only [Tree.ownFault?, hsql, Option.isSome_some, if_true, Option.none_or] at h
          exact failsWith_pair h (ih 1) _
      | unary operator operand =>
        rw [write_succ, writeNode]
        cases hsql : unarySql? operator with
        | none =>
          simp only [Tree.ownFault?, hsql, Option.isSome_none, Bool.false_eq_true, if_false,
            Option.some_or, Option.some.injEq] at h
          exact h ▸ failsWith_throw
        | some sql =>
          simp only [Tree.ownFault?, hsql, Option.isSome_some, if_true, Option.none_or,
            Tree.reached, List.findSome?_singleton] at h
          exact (ih 1 operand f h).bind _
      | call callee arguments =>
        cases hown : (Tree.call callee arguments).ownFault? with
        | some e =>
          rw [hown, Option.some_or, Option.some.injEq] at h
          rw [write_call_eq_throw (h ▸ hown)]
          exact failsWith_throw
        | none =>
          rw [hown, Option.none_or] at h
          rcases Tree.call_of_ownFault?_eq_none hown with
            ⟨hcallee, receiver, first, rest, rfl⟩ | ⟨m, hcallee, receiver, term, rfl⟩
          · rw [Tree.reached_membership hcallee, List.findSome?_cons, List.findSome?_map] at h
            rw [write_succ, writeNode, hcallee]
            split at h
            · rename_i e hr
              cases h
              exact (ih 2 receiver f hr).bind _
            · rename_i hr
              exact .after (writesOk_of_fault?_eq_none place (room - 2) receiver hr).exists_run
                (failsWith_mapM (ih 4) _ h) _
          · rw [Tree.reached_pattern hcallee] at h
            have hr : fault? (room - 2) receiver = some f := by simpa using h
            rw [write_succ, writeNode, hcallee]
            exact (ih 2 receiver f hr).bind _

end FailsWith

/-! ## 6. Whole predicates -/

/-- What writing a whole predicate gives, if nothing is wrong with it. -/
theorem writeOnto_ok [Limits] {t : Tree} (h : fault? Limits.writing t = none) (place : Nat → String)
    (clause : Option String) (bound : Array Literal) :
    writeOnto place clause t bound
      = (.ok (spell place bound.size t.lexemes), bound ++ (values t.lexemes).toArray) := by
  rw [writeOnto, writesOk_of_fault?_eq_none place Limits.writing t h bound]

theorem writeOnto_error [Limits] {t : Tree} {f : Fault} (h : fault? Limits.writing t = some f)
    (place : Nat → String) (clause : Option String) :
    ∃ extra : Array Literal, ∀ bound : Array Literal,
      writeOnto place clause t bound = (.error ⟨f, clause⟩, bound ++ extra) := by
  obtain ⟨extra, h⟩ := failsWith_write place Limits.writing t f h
  refine ⟨extra, fun bound => ?_⟩
  rw [writeOnto, h bound]

/-- **A predicate is written exactly if it has no fault.** -/
theorem writeOnto_eq_ok_iff [Limits] {place : Nat → String} {clause : Option String} {t : Tree}
    {bound after : Array Literal} {sql : String} :
    writeOnto place clause t bound = (.ok sql, after) ↔
      fault? Limits.writing t = none ∧ sql = spell place bound.size t.lexemes ∧
        after = bound ++ (values t.lexemes).toArray := by
  cases hf : fault? Limits.writing t with
  | none =>
    rw [writeOnto_ok hf, Prod.mk.injEq, Except.ok.injEq]
    exact ⟨fun ⟨hsql, hafter⟩ => ⟨rfl, hsql.symm, hafter.symm⟩,
      fun ⟨_, hsql, hafter⟩ => ⟨hsql.symm, hafter.symm⟩⟩
  | some f =>
    obtain ⟨extra, h⟩ := writeOnto_error hf place clause
    rw [h bound]
    simp

end Sql

end BoundQuery
