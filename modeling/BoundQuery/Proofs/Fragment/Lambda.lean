import BoundQuery.Proofs.Fragment.TextTree
import BoundQuery.Term.Parser

/-!
# Lambdas as they are read

A text that opens a scope is the lambda of one parameter and nothing else (`TextFragment.eq_of_opened`), so
that what holds of a fragment can be said of its body or of its whole term. Opening a lambda looks at its
parameters and at the defaults before the star; that none is left after the star is due to the grammar,
which reads a default only with its parameter.

* `Reading.Gives` – whatever a reader gives has a property, through all ways to put readers together;
* `Term.Supplied` – each default after the star has a parameter;
* `Term.Parsed` – so it is in a lambda and in its body, and a chain of operands has more than the first. Of
  the readers of a level, only those for lambdas and for chains make any, and the others pass on what is in
  parentheses (`Grammar.gives_next`).
-/

namespace BoundQuery

/-! ## 1. What readers give -/

namespace Reading

variable {α β : Type} {p : α → Prop} {q : β → Prop}

/-- Whatever a reader gives has a property. -/
def Gives (p : α → Prop) (r : Reading α) : Prop := ∀ tokens a rest, r tokens = some (a, rest) → p a

theorem Gives.pure {a : α} (h : p a) : Gives p (Pure.pure a) := by
  intro tokens b rest hb
  cases hb
  exact h

theorem gives_failure : Gives p failure := by
  intro tokens a rest h
  cases h

theorem gives_anything (r : Reading α) : Gives (fun _ => True) r := fun _ _ _ _ => trivial

theorem Gives.bind {r : Reading α} {f : α → Reading β} (hr : Gives p r)
    (hf : ∀ a, p a → Gives q (f a)) : Gives q (r >>= f) := by
  intro tokens b rest h
  obtain ⟨⟨a, next⟩, ha, hb⟩ := Option.bind_eq_some_iff.mp h
  exact hf a (hr tokens a next ha) next b rest hb

theorem Gives.after {f : α → Reading β} (r : Reading α) (h : ∀ a, Gives q (f a)) : Gives q (r >>= f) :=
  (gives_anything r).bind fun a _ => h a

theorem Gives.ite {c : Prop} [Decidable c] {r s : Reading α} (hr : Gives p r) (hs : Gives p s) :
    Gives p (if c then r else s) := by
  split
  · exact hr
  · exact hs

theorem Gives.extend {step : α → Reading (Option α)}
    (hstep : ∀ x, p x → Gives (fun found => ∀ y ∈ found, p y) (step x)) :
    ∀ (fuel : Nat) {x : α}, p x → Gives p (extend step fuel x)
  | 0, _, _ => gives_failure
  | fuel + 1, x, hx => by
      unfold Reading.extend
      refine (hstep x hx).bind fun found hfound => ?_
      cases found with
      | some y => exact Gives.extend hstep fuel (hfound y rfl)
      | none => exact .pure hx

theorem Gives.many {more : Reading Bool} {item : Reading α} (hitem : Gives p item) :
    ∀ fuel : Nat, Gives (fun items => ∀ x ∈ items, p x) (many more item fuel)
  | 0 => gives_failure
  | fuel + 1 => by
      unfold Reading.many
      refine (gives_anything more).bind fun _ _ => .ite ?_ (.pure (by simp))
      exact hitem.bind fun x hx => (Gives.many hitem fuel).bind fun xs hxs =>
        .pure (List.forall_mem_cons.mpr ⟨hx, hxs⟩)

theorem Gives.commaList {ends : Reading Bool} {item : Reading α} (hitem : Gives p item) (fuel : Nat) :
    Gives (fun found => ∀ x ∈ found.1, p x) (commaList ends item fuel) := by
  unfold Reading.commaList
  exact hitem.bind fun x hx => (gives_anything _).bind fun _ _ => (hitem.many fuel).bind fun xs hxs =>
    .pure (List.forall_mem_cons.mpr ⟨hx, hxs⟩)

end Reading

namespace Term

/-- Each default after the star of a lambda has a parameter. -/
def Supplied : Term → Prop
  | .lambda parameters _ keywordDefaults _ => keywordDefaults.length ≤ parameters.keywordOnly.length
  | _ => True

/-- What the grammar sees to at the root of a term, and of the body if that is a lambda: a chain goes on
    after its first operand, and the defaults of a lambda have parameters. -/
def Parsed : Term → Prop
  | .connective _ _ rest => rest ≠ []
  | .lambda parameters defaults keywordDefaults body =>
      Supplied (.lambda parameters defaults keywordDefaults body) ∧ Parsed body
  | _ => True

end Term

namespace Grammar

open Reading Term

/-! ## 2. Terms that are no lambdas -/

section Inner

variable {g : Grammar}

theorem gives_named (h : Gives Parsed g.expression) : Gives Parsed g.named := by
  unfold named
  refine .after _ fun tokens => ?_
  split
  · exact .after _ fun _ => .after _ fun _ => .pure trivial
  · exact h

theorem gives_item (h : Gives Parsed g.expression) : Gives Parsed g.item := by
  unfold item
  exact .after _ fun _ => .ite (.after _ fun _ => .pure trivial) (gives_named h)

theorem gives_yielded : Gives Parsed g.yielded := by
  unfold yielded
  refine .after _ fun _ => .ite (.after _ fun _ => .pure trivial) ?_
  exact .after _ fun _ => .ite (.pure trivial) (.after _ fun _ => .pure trivial)

theorem gives_parenthesised (h : Gives Parsed g.expression) : Gives Parsed g.parenthesised := by
  unfold parenthesised
  refine .after _ fun _ => .ite (.pure trivial) (.after _ fun _ => .ite ?_ ?_)
  · exact gives_yielded.bind fun _ ht => .after _ fun _ => .pure ht
  · refine (gives_item h).bind fun first hfirst => .after _ fun _ => .ite ?_ ?_
    · exact .after _ fun _ => .pure trivial
    · exact .after _ fun _ => .ite (.pure trivial) (.ite gives_failure (.pure hfirst))

theorem gives_bracketed : Gives Parsed g.bracketed := by
  unfold bracketed
  refine .after _ fun _ => .ite (.pure trivial) (.after _ fun _ => .after _ fun _ => .ite ?_ ?_)
  · exact .after _ fun _ => .pure trivial
  · exact .after _ fun _ => .pure trivial

theorem gives_dictionary (first : Term × Term) (spread : Bool) :
    Gives Parsed (g.dictionary first spread) := by
  unfold dictionary
  refine .after _ fun _ => .ite ?_ ?_
  · exact .after _ fun _ => .pure trivial
  · exact .after _ fun _ => .pure trivial

theorem gives_braced : Gives Parsed g.braced := by
  unfold braced
  refine .after _ fun _ => .ite (.pure trivial) (.after _ fun _ => .ite ?_ ?_)
  · exact .after _ fun _ => gives_dictionary _ _
  · refine .after _ fun _ => .after _ fun _ => .after _ fun _ => .ite ?_ (.after _ fun _ => .ite ?_ ?_)
    · exact .after _ fun _ => .after _ fun _ => gives_dictionary _ _
    · exact .after _ fun _ => .pure trivial
    · exact .after _ fun _ => .pure trivial

theorem gives_trailer (t : Term) : Gives (fun found => ∀ u ∈ found, u.Parsed) (g.trailer t) := by
  unfold trailer
  refine .after _ fun _ => .ite ?_ (.after _ fun _ => .ite ?_ (.after _ fun _ => .ite ?_ ?_))
  · exact .after _ fun _ => .pure (by rintro u ⟨⟩; trivial)
  · exact .after _ fun _ => .pure (by rintro u ⟨⟩; trivial)
  · exact .after _ fun _ => .pure (by rintro u ⟨⟩; trivial)
  · exact .pure (by simp)

theorem gives_quotations : Gives Parsed g.quotations := by
  unfold quotations
  refine .after _ fun _ => .after _ fun _ => .ite (.pure trivial) (.ite gives_failure ?_)
  exact .ite (.pure trivial) (.ite (.pure trivial) gives_failure)

/-- Of the smallest terms, only one in parentheses can be a lambda or a chain. -/
theorem gives_atom (h : Gives Parsed g.expression) : Gives Parsed g.atom := by
  unfold atom
  refine .after _ fun tokens => ?_
  split
  · exact .after _ fun _ => .pure trivial
  · exact .after _ fun _ => .pure trivial
  · exact .after _ fun _ => .pure trivial
  · exact .after _ fun _ => .pure trivial
  · exact .after _ fun _ => .pure trivial
  · exact .after _ fun _ => .pure trivial
  · exact .after _ fun _ => gives_parenthesised h
  · exact .after _ fun _ => gives_bracketed
  · exact .after _ fun _ => gives_braced
  · exact gives_quotations
  · exact gives_quotations
  · exact gives_quotations
  · exact gives_failure

theorem gives_primaryFrom (h : Gives Parsed g.expression) : Gives Parsed g.primaryFrom := by
  unfold primaryFrom
  exact (gives_atom h).bind fun t ht => .extend (fun u _ => gives_trailer u) g.size ht

/-! ## 3. Operators -/

variable {inner : Reading Term}

theorem gives_power (h : Gives Parsed inner) : Gives Parsed (g.power inner) := by
  unfold power
  refine .after _ fun awaited => h.bind fun t ht => .after _ fun _ => .ite ?_ ?_
  · exact .after _ fun _ => .pure trivial
  · refine .pure ?_
    split
    · trivial
    · exact ht

theorem gives_factorFrom (h : Gives Parsed inner) : Gives Parsed (g.factorFrom inner) := by
  unfold factorFrom
  refine .after _ fun _ => .ite ?_ (.after _ fun _ => .ite ?_ (.after _ fun _ => .ite ?_ (gives_power h)))
  · exact .after _ fun _ => .pure trivial
  · exact .after _ fun _ => .pure trivial
  · exact .after _ fun _ => .pure trivial

theorem gives_arithmetic (h : Gives Parsed inner) (size : Nat) :
    ∀ levels : List (List String), Gives Parsed (arithmetic size inner levels)
  | [] => h
  | level :: levels => by
      unfold arithmetic
      refine (gives_arithmetic h size levels).bind fun t ht => .extend (fun left _ => ?_) size ht
      refine .after _ fun tokens => ?_
      split
      · refine .ite ?_ (.pure (by simp))
        exact .after _ fun _ => .after _ fun _ => .pure (by rintro u ⟨⟩; trivial)
      · exact .pure (by simp)

theorem gives_comparison (h : Gives Parsed inner) (size : Nat) :
    Gives Parsed (comparison size inner) := by
  unfold comparison
  refine h.bind fun left hleft => .after _ fun found => .ite (.pure hleft) (.pure trivial)

theorem gives_inversionFrom (h : Gives Parsed inner) : Gives Parsed (g.inversionFrom inner) := by
  unfold inversionFrom
  exact .after _ fun _ => .ite (.after _ fun _ => .pure trivial) (gives_comparison h g.size)

theorem gives_connected (h : Gives Parsed inner) (size : Nat) (op : Connective) (reserved : String) :
    Gives Parsed (connected size op reserved inner) := by
  unfold connected
  refine h.bind fun first hfirst => .after _ fun rest => ?_
  split
  · exact .pure hfirst
  · rename_i hrest
    exact .pure fun hnil => hrest (List.isEmpty_iff.mpr hnil)

/-! ## 4. Lambdas -/

/-- Each default after the star has a parameter so far. -/
def ParameterList.Supplied (l : ParameterList) : Prop :=
  l.keywordDefaults.length ≤ l.parameters.keywordOnly.length

theorem supplied_withParameter {l next : ParameterList} (hl : l.Supplied) {phase : ParameterPhase}
    {id : Text.Identifier} {default : Option Term} (h : withParameter l phase id default = some next) :
    next.Supplied := by
  unfold withParameter at h
  cases phase with
  | positional =>
    simp only at h
    split at h
    · cases h
    · cases h
      exact hl
  | keyword needed =>
    cases h
    have hdefault : default.toList.length ≤ 1 := by cases default <;> simp
    have hl : l.keywordDefaults.length ≤ l.parameters.keywordOnly.length := hl
    simp only [ParameterList.Supplied, List.length_append, List.length_singleton]
    omega
  | closed => cases h

theorem gives_parameter {l : ParameterList} (hl : l.Supplied) (phase : ParameterPhase) :
    Gives (fun next => next.1.Supplied) (g.parameter l phase) := by
  unfold parameter
  refine .after _ fun tokens => ?_
  split
  · exact gives_failure
  · dsimp only
    split
    · exact .after _ fun _ => .after _ fun _ => .after _ fun _ => .pure hl
    · exact .after _ fun _ => .after _ fun _ => .pure hl
  · exact .after _ fun _ => .after _ fun _ => .ite (.pure hl) (.after _ fun _ => .pure hl)
  · exact .ite (.after _ fun _ => .after _ fun _ => .pure hl) (.after _ fun _ => .pure hl)
  · refine .after _ fun id => .after _ fun _ =>
      .ite (.after _ fun default => ?_) (.after _ fun default => ?_)
    all_goals
      dsimp only
      cases hnext : withParameter l phase id default with
      | none => exact gives_failure
      | some next => exact .pure (supplied_withParameter hl hnext)

theorem gives_parameters : ∀ (fuel : Nat) {l : ParameterList}, l.Supplied → ∀ phase : ParameterPhase,
    Gives ParameterList.Supplied (g.parameters fuel l phase)
  | 0, _, _, _ => gives_failure
  | fuel + 1, l, hl, phase => by
      unfold parameters
      refine .after _ fun _ => .ite ?_ ?_
      · split
        · exact gives_failure
        · exact .pure hl
      · refine (gives_parameter hl phase).bind fun next hnext => .after _ fun _ => .ite ?_ ?_
        · exact gives_parameters fuel hnext next.2
        · exact .after _ fun _ => .pure hnext

theorem gives_lambda (h : Gives Parsed g.expression) : Gives Parsed g.lambda := by
  unfold lambda
  have hnone : ParameterList.Supplied ⟨⟨[], [], none, [], none⟩, [], []⟩ := Nat.le_refl 0
  exact (gives_parameters g.size hnone .positional).bind fun l hl => h.bind fun body hbody =>
    .pure ⟨hl, hbody⟩

theorem gives_expressionFrom (hbody : Gives Parsed g.expression) (h : Gives Parsed inner) :
    Gives Parsed (g.expressionFrom inner) := by
  unfold expressionFrom
  refine .after _ fun _ =>
    .ite (gives_lambda hbody) (h.bind fun yes hyes => .after _ fun _ => .ite ?_ (.pure hyes))
  exact .after _ fun _ => .after _ fun _ => .after _ fun _ => .pure trivial

end Inner

theorem gives_next {g : Grammar} (h : Gives Parsed g.expression) : Gives Parsed g.next.expression := by
  have hfactor := gives_factorFrom (g := g) (gives_primaryFrom h)
  have hinversion := gives_inversionFrom (g := g) (gives_arithmetic hfactor g.size arithmeticLevels)
  exact gives_expressionFrom h
    (gives_connected (gives_connected hinversion g.size .and "and") g.size .or "or")

theorem gives_ofDepth (size : Nat) (accepts : Bool → List Char → Bool) :
    ∀ n : Nat, Gives Parsed (ofDepth size accepts n).expression
  | 0 => gives_failure
  | n + 1 => gives_next (gives_ofDepth size accepts n)

end Grammar

/-! ## 5. Whole texts -/

namespace Term

/-- **Chains that are read go on after their first operand, and the defaults of lambdas have parameters.** -/
theorem parsed_of_parse? {cs : List Char} {t : Term} (h : parse? cs = some t) : t.Parsed := by
  unfold parse? at h
  obtain ⟨tokens, _, h⟩ := Option.bind_eq_some_iff.mp h
  obtain ⟨⟨⟨terms, comma⟩, rest⟩, hterms, h⟩ := Option.bind_eq_some_iff.mp h
  have hall := (Grammar.gives_ofDepth _ _ _).commaList _ _ _ _ hterms
  dsimp only at h hall
  split at h
  · cases h
  · split at h
    · split at h
      · cases h
        trivial
      · cases h
        exact hall t List.mem_cons_self
    · cases h
      trivial

/-- What a term opens is as it is read, if the term is. -/
theorem Parsed.of_opened {t body : Term} {scope : Scope} (ht : t.Parsed)
    (h : t.opened = .ok (scope, body)) : body.Parsed := by
  unfold opened at h
  split at h
  · split at h
    · cases h
      exact ht.2
    · cases h
  · cases h
    exact ht

end Term

namespace TextFragment

theorem parsed_of_term [Limits] {text : String} {t : Term} (h : term text = .ok t) : t.Parsed := by
  unfold term at h
  dsimp only at h
  split at h
  · cases h
  · split at h
    · cases h
    · rename_i hparse
      split at h
      · cases h
      · cases h
        exact Term.parsed_of_parse? hparse

/-- **A text that opens a scope is the lambda of one parameter.** -/
theorem eq_of_opened [Limits] {text : String} {t body : Term} {scope : Scope}
    (hterm : term text = .ok t) (h : t.opened = .ok (scope, body)) :
    scope = none ∧ t = body ∨ ∃ u, scope = some u ∧ t = Term.lambdaOf u body := by
  have hparsed := parsed_of_term hterm
  unfold Term.opened at h
  split at h
  · rename_i keywordDefaults _
    split at h
    · cases h
      obtain rfl : keywordDefaults = [] := List.length_eq_zero_iff.mp (Nat.le_zero.mp hparsed.1)
      exact .inr ⟨_, rfl, rfl⟩
    · cases h
  · cases h
    exact .inl ⟨rfl, rfl⟩

end TextFragment

/-- The predicate of a text is the tree of the whole text or of the body of a lambda. -/
theorem Fragment.exists_body_of_text [Limits] {text : String} {tree : Tree}
    (h : (Fragment.text text).predicate = .ok tree) :
    ∃ t scope body, TextFragment.term text = .ok t ∧ (t = body ∨ ∃ u, t = Term.lambdaOf u body) ∧
      body.toTree scope Limits.reading = .ok tree := by
  obtain ⟨t, hterm, hpredicate⟩ := exists_term_of_predicate h
  obtain ⟨scope, body, hopened, htree⟩ := Term.exists_toTree_of_predicate hpredicate
  refine ⟨t, scope, body, hterm, ?_, htree⟩
  rcases TextFragment.eq_of_opened hterm hopened with ⟨_, hbody⟩ | ⟨u, _, hlambda⟩
  · exact .inl hbody
  · exact .inr ⟨u, hlambda⟩

end BoundQuery
