import BoundQuery.Proofs.Fragment.Agreement
import BoundQuery.Proofs.Fragment.Selection

/-!
# Bare texts and lambdas

The names of a bare text are fields, and the fields of a lambda are reached from its parameter. A text
says the same in both forms: if every name `x` of a bare term is written `p.x` (`Term.qualified`), the
lambda of `p` over the outcome is accepted exactly if the bare term is, and as the same predicate, key or
selector. What is rejected may be so for different reasons: `f(1)` calls no method, while `p.f(1)` calls one
that is not known, and where it is known, `p` alone is no field. So terms are compared by what they give
(`Agree`), form by form.
-/

namespace BoundQuery

namespace Term

/-! ## 1. Qualified terms -/

mutual

/-- A term with every name `x` in it written as the attribute `p.x`. -/
def qualified (p : Text.Identifier) : Term → Term
  | .name id => .access (.name p) id
  | .access base field => .access (qualified p base) field
  | .subscript base index => .subscript (qualified p base) (qualified p index)
  | .constant value => .constant value
  | .connective op first rest => .connective op (qualified p first) (qualifiedAll p rest)
  | .signed sign operand => .signed sign (qualified p operand)
  | .compare left relations operands =>
      .compare (qualified p left) relations (qualifiedAll p operands)
  | .call callee positional named =>
      .call (qualified p callee) (qualifiedAll p positional) (qualifiedAll p named)
  | .list items => .list (qualifiedAll p items)
  | .tuple items => .tuple (qualifiedAll p items)
  | .set items => .set (qualifiedAll p items)
  | .dict keys values => .dict (qualifiedAll p keys) (qualifiedAll p values)
  | .lambda parameters defaults keywordDefaults body =>
      .lambda parameters (qualifiedAll p defaults) (qualifiedAll p keywordDefaults) (qualified p body)
  | .conditional test yes no => .conditional (qualified p test) (qualified p yes) (qualified p no)
  | .other form parts => .other form (qualifiedAll p parts)

/-- Several terms, each with its names qualified. -/
def qualifiedAll (p : Text.Identifier) : List Term → List Term
  | [] => []
  | t :: ts => qualified p t :: qualifiedAll p ts

end

/-- Whether a term is a lambda. -/
def isLambda : Term → Bool
  | .lambda .. => true
  | _ => false

variable (p : Text.Identifier)

theorem qualifiedAll_eq_map : ∀ ts : List Term, qualifiedAll p ts = ts.map (qualified p)
  | [] => rfl
  | t :: ts => by rw [qualifiedAll, qualifiedAll_eq_map ts, List.map_cons]

theorem isSubscript_qualified (t : Term) : (t.qualified p).isSubscript = t.isSubscript := by
  cases t <;> rfl

theorem displayed?_qualified (t : Term) :
    (t.qualified p).displayed? = t.displayed?.map (List.map (qualified p)) := by
  cases t <;> simp [qualified, displayed?, qualifiedAll_eq_map]

/-! ## 2. Fields -/

/-- A path gets the parameter as its new start. -/
theorem path?_qualified : ∀ (t : Term) (parts : List Text.Identifier),
    (t.qualified p).path? parts = (t.path? parts).map fun (id, rest) => (p, id :: rest)
  | .name _, _ => rfl
  | .access base field, parts => path?_qualified base (field :: parts)
  | .subscript .., _ => rfl
  | .constant _, _ => rfl
  | .connective .., _ => rfl
  | .signed .., _ => rfl
  | .compare .., _ => rfl
  | .call .., _ => rfl
  | .list _, _ => rfl
  | .tuple _, _ => rfl
  | .set _, _ => rfl
  | .dict .., _ => rfl
  | .lambda .., _ => rfl
  | .conditional .., _ => rfl
  | .other .., _ => rfl

/-- No subscript of a qualified term is one of the parameter itself. -/
theorem fieldName_subscript_qualified (base index : Term) :
    ((Term.subscript base index).qualified p).fieldName (some p) = .error .subscript := by
  cases base <;> rfl

/-- **A qualified term names the field that the bare term names.** -/
theorem agree_fieldName (t : Term) :
    Agree ((t.qualified p).fieldName (some p)) (t.fieldName none) := by
  cases hsub : t.isSubscript with
  | true =>
    cases t with
    | subscript base index =>
      rw [fieldName_subscript_qualified]
      exact Agree.errors _ _
    | _ => cases hsub
  | false =>
    have hqualified : (t.qualified p).isSubscript = false := by rw [isSubscript_qualified, hsub]
    rw [fieldName_eq hsub, fieldName_eq hqualified, path?_qualified]
    cases t.path? [] with
    | none => exact Agree.errors _ _
    | some path =>
      obtain ⟨id, parts⟩ := path
      simp only [Option.map_some, ne_eq, not_true_eq_false, if_false, List.isEmpty_cons]
      exact Agree.refl _

/-! ## 3. Predicates -/

theorem agree_membershipTree {convert convert' : Term → Except Cause Tree}
    (h : ∀ t, Agree (convert (t.qualified p)) (convert' t)) (receiver values : Term) :
    Agree (membershipTree (some p) convert (receiver.qualified p) (values.qualified p))
      (membershipTree none convert' receiver values) := by
  unfold membershipTree
  refine (agree_fieldName p receiver).bind fun name => ?_
  rw [displayed?_qualified]
  cases values.displayed? with
  | none => exact Agree.errors _ _
  | some items =>
    cases items with
    | nil => exact Agree.errors _ _
    | cons item items =>
      refine Agree.bind ?_ fun literals => Agree.refl _
      refine Agree.mapM_map fun t _ => ?_
      exact (h t).bind fun u => Agree.refl _

/-- The argument of a text match is not changed, and nothing else becomes one. -/
theorem agree_patternArgument (m : Match) (method name : String) (argument : Term) :
    Agree (ε := Cause)
      (match argument.qualified p with
        | .constant (.literal (.str term)) => return Tree.pattern m name term
        | _ => .error (.patternArgument method))
      (match argument with
        | .constant (.literal (.str term)) => return Tree.pattern m name term
        | _ => .error (.patternArgument method)) := by
  cases argument with
  | constant value => exact Agree.refl _
  | _ => exact Agree.errors _ _

/-- A call on the parameter alone is no predicate, whatever is called. -/
theorem exists_callTree_eq_error (convert : Term → Except Cause Tree) (id : Text.Identifier)
    (positional named : List Term) :
    ∃ cause, callTree (some p) convert (.access (.name p) id) positional named = .error cause := by
  have halone : (Term.name p).fieldName (some p) = .error (.parameterAlone p.text) := by
    simp [fieldName, path?]
  simp only [callTree]
  split
  · exact ⟨_, rfl⟩
  · split
    · split
      · unfold membershipTree
        rw [halone]
        exact ⟨_, rfl⟩
      · rw [halone]
        exact ⟨_, rfl⟩
    · exact ⟨_, rfl⟩

theorem agree_callTree {convert convert' : Term → Except Cause Tree}
    (h : ∀ t, Agree (convert (t.qualified p)) (convert' t)) (callee : Term)
    (positional named : List Term) :
    Agree (callTree (some p) convert (callee.qualified p) (qualifiedAll p positional)
        (qualifiedAll p named))
      (callTree none convert' callee positional named) := by
  cases callee with
  | name id =>
    obtain ⟨cause, herror⟩ :=
      exists_callTree_eq_error p convert id (qualifiedAll p positional) (qualifiedAll p named)
    rw [qualified, herror]
    exact Agree.errors _ _
  | access receiver method =>
    unfold callTree
    simp only [qualified]
    cases Method.ofSpelling? method.text with
    | none => exact Agree.errors _ _
    | some m =>
      -- Only one positional argument and no other is looked at.
      match positional, named with
      | [argument], [] =>
        cases m with
        | membership => exact agree_membershipTree p h receiver argument
        | pattern m =>
          refine (agree_fieldName p receiver).bind fun name => ?_
          exact agree_patternArgument p m method.text name argument
      | [], _ => exact Agree.errors _ _
      | [_], _ :: _ => exact Agree.errors _ _
      | _ :: _ :: _, _ => exact Agree.errors _ _
  | _ => exact Agree.errors _ _

theorem agree_signedTree (sign : Sign) (operand : Term) :
    Agree (signedTree sign (operand.qualified p)) (signedTree sign operand) := by
  cases operand with
  | constant value => exact Agree.refl _
  | _ => cases sign <;> exact Agree.errors _ _

/-- A step reads a qualified term as the bare term, if it reads the parts so. -/
theorem agree_nodeTree {part part' : Nat → Term → Except Cause Tree}
    (h : ∀ (calls : Nat) (t : Term), Agree (part calls (t.qualified p)) (part' calls t)) (t : Term) :
    Agree (nodeTree (some p) part (t.qualified p)) (nodeTree none part' t) := by
  have hmember (t : Term) :
      Agree (do return Tree.member (← (t.qualified p).fieldName (some p)))
        (do return Tree.member (← t.fieldName none)) :=
    (agree_fieldName p t).bind fun name => Agree.refl _
  cases t with
  | name id => exact hmember (.name id)
  | access base field => exact hmember (.access base field)
  | subscript base index => exact hmember (.subscript base index)
  | constant value => exact Agree.refl _
  | connective op first rest =>
    simp only [qualified, nodeTree, qualifiedAll_eq_map]
    refine (h 0 first).bind fun left => ?_
    refine Agree.foldlM_map (fun u _ left => ?_) left
    exact (h 0 u).bind fun right => Agree.refl _
  | signed sign operand =>
    cases sign with
    | not => exact (h 1 operand).bind fun u => Agree.refl _
    | minus => exact agree_signedTree p .minus operand
    | plus => exact agree_signedTree p .plus operand
    | invert => exact agree_signedTree p .invert operand
  | compare left relations operands =>
    match relations, operands with
    | [.compare c], [right] =>
      exact (h 1 left).bind fun l => (h 1 right).bind fun r => Agree.refl _
    | [.identical _], [right] => exact Agree.errors _ _
    | [.member false], [right] => exact agree_membershipTree p (h 2) left right
    | [.member true], [right] =>
      exact (agree_membershipTree p (h 2) left right).bind fun u => Agree.refl _
    | [], _ => exact Agree.errors _ _
    | [_], [] => exact Agree.errors _ _
    | [_], _ :: _ :: _ => exact Agree.errors _ _
    | _ :: _ :: _, _ => exact Agree.errors _ _
  | call callee positional named => exact agree_callTree p (h 2) callee positional named
  | _ => exact Agree.errors _ _

/-- **A qualified term is the predicate that the bare term is**, however many calls may be nested. -/
theorem agree_toTree : ∀ (room : Nat) (t : Term),
    Agree (toTree (some p) room (t.qualified p)) (toTree none room t)
  | 0, _ => Agree.errors _ _
  | room + 1, t => by
      rw [toTree_succ, toTree_succ]
      exact agree_nodeTree p (fun calls => agree_toTree (room - calls)) t

/-! ## 4. Whole terms -/

theorem opened_of_not_isLambda {e : Term} (h : e.isLambda = false) : e.opened = .ok (none, e) := by
  cases e with
  | lambda parameters defaults keywordDefaults body => cases h
  | _ => rfl

theorem agree_predicate [Limits] {e : Term} (h : e.isLambda = false) :
    Agree (lambdaOf p (e.qualified p)).predicate e.predicate := by
  have hopened : (lambdaOf p (e.qualified p)).opened = .ok (some p, e.qualified p) := rfl
  rw [predicate, predicate, hopened, opened_of_not_isLambda h]
  exact (agree_toTree p Limits.reading e).lift.bind fun tree => Agree.refl _

theorem agree_key {e : Term} (h : e.isLambda = false) :
    Agree (lambdaOf p (e.qualified p)).key e.key := by
  have hopened : (lambdaOf p (e.qualified p)).opened = .ok (some p, e.qualified p) := rfl
  rw [key, key, hopened, opened_of_not_isLambda h]
  exact (agree_fieldName p e).lift

theorem agree_selectorEntries : ∀ keys values : List Term,
    Agree (selectorEntries (some p) (qualifiedAll p keys) (qualifiedAll p values))
      (selectorEntries none keys values)
  | [], _ => Agree.refl _
  | _ :: _, [] => Agree.refl _
  | key :: keys, value :: values => by
      have ih := agree_selectorEntries keys values
      cases key with
      | constant c =>
        refine (agree_fieldName p value).lift.bind fun field => ?_
        refine (Agree.refl (labelledBy field c)).bind fun first => ?_
        exact ih.bind fun rest => Agree.refl _
      | _ => exact Agree.errors _ _

theorem agree_selector {e : Term} (h : e.isLambda = false) :
    Agree (lambdaOf p (e.qualified p)).selector e.selector := by
  have hopened : (lambdaOf p (e.qualified p)).opened = .ok (some p, e.qualified p) := rfl
  have hitems (items : List Term) :
      Agree ((qualifiedAll p items).mapM (fieldName (some p))) (items.mapM (fieldName none)) := by
    rw [qualifiedAll_eq_map]
    exact Agree.mapM_map fun t _ => agree_fieldName p t
  have hone : Agree (do return [← Failure.lift ((e.qualified p).fieldName (some p))])
      (do return [← Failure.lift (e.fieldName none)]) :=
    (agree_fieldName p e).lift.bind fun name => Agree.refl _
  rw [selector, selector, hopened, opened_of_not_isLambda h]
  cases e with
  | dict keys values => exact agree_selectorEntries p keys values
  | tuple items => exact (hitems items).lift
  | list items => exact (hitems items).lift
  | _ => exact hone

end Term

/-! ## 5. Texts -/

theorem Fragment.agree_selectAll [Limits] {f g : Fragment} (h : Agree f.selector g.selector) :
    Agree (selectAll [f]) (selectAll [g]) := by
  have hlists : Agree ([f].mapM selector) ([g].mapM selector) := by
    rw [List.mapM_cons, List.mapM_cons]
    exact h.bind fun names => Agree.refl _
  intro names
  rw [selectAll_eq_ok_iff, selectAll_eq_ok_iff]
  exact exists_congr fun lists => and_congr_left' (hlists lists)

/-- **A lambda and a bare text mean the same.** A term that is no lambda and the lambda of `p` over its
    qualified form are accepted as the same predicates, keys and selectors, and so are all texts that are
    read as the two. -/
theorem Term.lambda_agrees_with_bare [Limits] (e : Term) (p : Text.Identifier) (h : e.isLambda = false) :
    (Agree (lambdaOf p (e.qualified p)).predicate e.predicate ∧
      Agree (lambdaOf p (e.qualified p)).key e.key ∧
      Agree (lambdaOf p (e.qualified p)).selector e.selector) ∧
    ∀ text bare : String, TextFragment.term text = .ok (lambdaOf p (e.qualified p)) →
      TextFragment.term bare = .ok e →
      Agree (Fragment.text text).predicate (Fragment.text bare).predicate ∧
        Agree (Fragment.text text).key (Fragment.text bare).key ∧
        Agree (Fragment.selectAll [.text text]) (Fragment.selectAll [.text bare]) := by
  have hpredicate := agree_predicate p h
  have hkey := agree_key p h
  have hselector := agree_selector p h
  refine ⟨⟨hpredicate, hkey, hselector⟩, fun text bare htext hbare => ⟨fun t => ?_, fun name => ?_, ?_⟩⟩
  · exact (Fragment.agree_predicate htext t).trans
      ((hpredicate t).trans (Fragment.agree_predicate hbare t).symm)
  · exact (Fragment.agree_key htext name).trans
      ((hkey name).trans (Fragment.agree_key hbare name).symm)
  · refine Fragment.agree_selectAll fun names => ?_
    exact (Fragment.agree_selector htext names).trans
      ((hselector names).trans (Fragment.agree_selector hbare names).symm)

namespace Term

/-- A comparison of a field of two parts, and a text match. -/
def bareChain : Term :=
  .connective .and
    (.compare (.access (.name ⟨"order", by decide⟩) ⟨"total", by decide⟩) [.compare .gt]
      [.constant (.literal (.int 18))])
    [.call (.access (.name ⟨"label", by decide⟩) ⟨"startswith", by decide⟩)
      [.constant (.literal (.str "x"))] []]

/-- A field of two parts under a label. -/
def bareDisplay : Term :=
  .dict [.constant (.literal (.str "k"))] [.access (.name ⟨"order", by decide⟩) ⟨"total", by decide⟩]

/-- The text of `bareDisplay`. -/
def displayText : String := "\x7b'k': order.total\x7d"

/-- The text of the lambda over it. -/
def lambdaDisplayText : String := "lambda r: \x7b'k': r.order.total\x7d"

theorem reads_bare :
    (Phrase.reads "order.total > 18 and label.startswith('x')" bareChain ∧
      Phrase.reads "lambda r: r.order.total > 18 and r.label.startswith('x')"
        (lambdaOf ⟨"r", by decide⟩ (bareChain.qualified ⟨"r", by decide⟩))) ∧
    Phrase.reads displayText bareDisplay ∧
      Phrase.reads lambdaDisplayText
        (lambdaOf ⟨"r", by decide⟩ (bareDisplay.qualified ⟨"r", by decide⟩)) := by
  decide +kernel

theorem selectAll_bareDisplay : Fragment.selectAll [.text displayText] = .ok ["order.total AS k"] := by
  have hread : (Fragment.text displayText).selector = .ok ["order.total AS k"] := by
    rw [Fragment.agree_selector (Phrase.term_eq_of_reads reads_bare.2.1)]
    decide +kernel
  rw [Fragment.selectAll, List.foldlM_cons, hread]
  decide +kernel

theorem lambda_agrees_with_bare_chain_and_display :
    (bareChain.isLambda = false ∧ bareDisplay.isLambda = false) ∧
    (Fragment.text "lambda r: r.order.total > 18 and r.label.startswith('x')").predicate
      = .ok (.connect .and (.compare .gt (.member "order.total") (.literal (.int 18)))
        (.pattern .starts "label" "x")) ∧
    Fragment.selectAll [.text lambdaDisplayText] = .ok ["order.total AS k"] := by
  obtain ⟨⟨hchain, hchain'⟩, hdisplay, hdisplay'⟩ := reads_bare
  have hpredicate := ((lambda_agrees_with_bare bareChain ⟨"r", by decide⟩ rfl).2 _ _
    (Phrase.term_eq_of_reads hchain') (Phrase.term_eq_of_reads hchain)).1
  have hselector := ((lambda_agrees_with_bare bareDisplay ⟨"r", by decide⟩ rfl).2 _ _
    (Phrase.term_eq_of_reads hdisplay') (Phrase.term_eq_of_reads hdisplay)).2.2
  refine ⟨⟨rfl, rfl⟩, (hpredicate _).mpr ?_, (hselector _).mpr selectAll_bareDisplay⟩
  rw [Fragment.agree_predicate (Phrase.term_eq_of_reads hchain)]
  rfl

end Term

end BoundQuery
