import BoundQuery.Proofs.Fragment.Phrase
import BoundQuery.Proofs.Fragment.TextTree
import BoundQuery.Proofs.Sql.WellFormed
import BoundQuery.Proofs.Term.Identity

/-!
# Texts and callables agree

A phrase can be given as a text, which is read, and as a callable, which is run and records what its
operators are applied to. The operators of a callable cannot be told on which side of a comparison a
literal stood, and a field takes a comparison with any other predicate to itself; so some comparisons are
recorded the other way round. Up to these (`Tree.mirrored`) both give the same tree
(`Phrase.fragments_agree`).
-/

namespace BoundQuery

/-! ## 1. Mirrored comparisons -/

/-- The operator of a comparison whose operands trade places. -/
def mirroredOperator (operator : String) : String :=
  if operator = "<" then ">"
  else if operator = ">" then "<"
  else if operator = "<=" then ">="
  else if operator = ">=" then "<="
  else operator

theorem mirroredOperator_spelling (c : Comparison) :
    mirroredOperator c.spelling = c.flipped.spelling := by
  cases c <;> rfl

namespace Tree

/-- Whether a tree is a single field. -/
def isMember : Tree → Bool
  | .member _ => true
  | _ => false

/-- Whether a tree is a comparison that is recorded the other way round: with a literal on the left, or
    with a field on the right and none on the left. -/
def turnsOver : Tree → Bool
  | .binary _ left right => left.isLiteral || (!left.isMember && right.isMember)
  | _ => false

mutual

/-- A tree with exactly those comparisons mirrored that are recorded the other way round. -/
def mirrored : Tree → Tree
  | .member name => .member name
  | .literal value => .literal value
  | .binary operator left right =>
      if (Tree.binary operator left right).turnsOver then
        .binary (mirroredOperator operator) (mirrored right) (mirrored left)
      else .binary operator (mirrored left) (mirrored right)
  | .logical operator left right => .logical operator (mirrored left) (mirrored right)
  | .unary operator operand => .unary operator (mirrored operand)
  | .call callee arguments => .call callee (mirroredAll arguments)

/-- Several trees, mirrored. -/
def mirroredAll : List Tree → List Tree
  | [] => []
  | t :: ts => mirrored t :: mirroredAll ts

end

theorem mirrored_compare_of_turnsOver {c : Comparison} {left right : Tree}
    (h : (Tree.compare c left right).turnsOver = true) :
    (Tree.compare c left right).mirrored = .compare c.flipped right.mirrored left.mirrored := by
  unfold Tree.compare at h ⊢
  rw [mirrored, if_pos h, mirroredOperator_spelling]

theorem mirrored_compare_of_upright {c : Comparison} {left right : Tree}
    (h : (Tree.compare c left right).turnsOver = false) :
    (Tree.compare c left right).mirrored = .compare c left.mirrored right.mirrored := by
  unfold Tree.compare at h ⊢
  rw [mirrored, h]
  rfl

theorem mirrored_connect (op : Connective) (left right : Tree) :
    (Tree.connect op left right).mirrored = .connect op left.mirrored right.mirrored := by
  rw [Tree.connect, mirrored, Tree.connect]

theorem mirrored_foldl_connect (op : Connective) : ∀ (ts : List Tree) (left : Tree),
    (ts.foldl (Tree.connect op) left).mirrored
      = (mirroredAll ts).foldl (Tree.connect op) left.mirrored
  | [], left => by rw [mirroredAll, List.foldl_nil, List.foldl_nil]
  | t :: ts, left => by
      rw [List.foldl_cons, mirrored_foldl_connect op ts, mirroredAll, List.foldl_cons, mirrored_connect]

theorem mirrored_negate (t : Tree) : t.negate.mirrored = t.mirrored.negate := by
  rw [negate, mirrored, negate]

theorem mirroredAll_literals : ∀ vs : List Literal, mirroredAll (vs.map .literal) = vs.map .literal
  | [] => rfl
  | v :: vs => by rw [List.map_cons, mirroredAll, mirrored, mirroredAll_literals vs]

theorem mirrored_membership (name : String) (vs : List Literal) :
    (Tree.membership name (vs.map .literal)).mirrored = .membership name (vs.map .literal) := by
  rw [membership, mirrored, mirroredAll, mirrored, mirroredAll_literals]

theorem mirrored_pattern (m : Match) (name term : String) :
    (Tree.pattern m name term).mirrored = .pattern m name term := by
  simp only [pattern, mirrored, mirroredAll]

/-- **A tree in which nothing is recorded the other way round stays as it is.** -/
theorem Formed.mirrored_eq {named : String → Prop} {t : Tree} (ht : t.Formed named)
    (h : ∀ node ∈ t.preorder, node.turnsOver = false) : t.mirrored = t := by
  induction ht with
  | member _ => rfl
  | literal value => rfl
  | compare c _ _ ihl ihr =>
    simp only [Tree.compare, preorder, List.forall_mem_cons, List.forall_mem_append] at h
    rw [mirrored_compare_of_upright h.1, ihl h.2.1, ihr h.2.2]
  | connect op _ _ ihl ihr =>
    simp only [Tree.connect, preorder, List.forall_mem_cons, List.forall_mem_append] at h
    rw [mirrored_connect, ihl h.2.1, ihr h.2.2]
  | negate _ ih =>
    simp only [Tree.negate, preorder, List.forall_mem_cons] at h
    rw [mirrored_negate, ih h.2]
  | membership _ first rest => exact mirrored_membership _ (first :: rest)
  | pattern m _ term => exact mirrored_pattern m _ term

end Tree

/-! ## 2. Comparing what is recorded -/

namespace Value

theorem asTree_of_recorded? {v : Value} {t : Tree} (h : v.recorded? = some t) : v.asTree = .ok t := by
  cases v with
  | field name =>
    cases h
    rfl
  | predicate tree =>
    cases h
    rfl
  | _ => cases h

theorem compare_field (c : Comparison) (name : String) {v : Value} {t : Tree} (h : v.asTree = .ok t) :
    (Value.field name).compare c v = .ok (.predicate (.compare c (.member name) t)) := by
  have hstep : (Value.field name).compare c v
      = v.asTree >>= fun t => .ok (.predicate (.compare c (.member name) t)) := rfl
  rw [hstep, h]
  rfl

theorem compare_predicate_field (c : Comparison) (s : Tree) (name : String) :
    (Value.predicate s).compare c (.field name)
      = .ok (.predicate (.compare c.flipped (.member name) s)) := rfl

theorem compare_predicate (c : Comparison) (s : Tree) {v : Value} {t : Tree} (h : v.asTree = .ok t)
    (hfield : ∀ name, v ≠ .field name) :
    (Value.predicate s).compare c v = .ok (.predicate (.compare c s t)) := by
  have hstep : (Value.predicate s).compare c v
      = v.asTree >>= fun t => .ok (.predicate (.compare c s t)) := by
    cases v with
    | field name => exact absurd rfl (hfield name)
    | _ => rfl
  rw [hstep, h]
  rfl

theorem compare_literal (c : Comparison) (x : Literal) {v : Value} {t : Tree}
    (h : v.recorded? = some t) :
    (Value.literal x).compare c v = .ok (.predicate (.compare c.flipped t (.literal x))) := by
  cases v with
  | field name =>
    cases h
    rfl
  | predicate tree =>
    cases h
    rfl
  | _ => cases h

theorem connect_recorded (op : Connective) {a b : Value} {s t : Tree} (ha : a.recorded? = some s)
    (hb : b.recorded? = some t) : a.connect op b = .ok (.predicate (.connect op s t)) := by
  rw [connect, ha, asTree_of_recorded? ha, asTree_of_recorded? hb]
  rfl

theorem invert_recorded {v : Value} {t : Tree} (h : v.recorded? = some t) :
    v.invert = .ok (.predicate t.negate) := by
  rw [invert, h]

end Value

/-! ## 3. A phrase as a callable -/

theorem Body.run_attribute {name : String} (hplain : name.startsWith "__" = false) :
    (Body.access .argument name).run = .ok (.field name) := by
  have hrun : (Body.access .argument name).run = (Value.record true).access name := rfl
  rw [hrun, Value.access, hplain]
  rfl

theorem Body.run_item {name : String} (hnonempty : name.isEmpty = false) :
    (Body.item .argument (.literal (.str name))).run = .ok (.field name) := by
  have hrun : (Body.item .argument (.literal (.str name))).run
      = (Value.record true).item (.literal (.str name)) := rfl
  rw [hrun, Value.item]
  simp only [hnonempty]
  rfl

namespace Phrase

/-- The body of a field. -/
def Field.body (f : Field) : Body :=
  match f.recorded with
  | .attribute .. => .access .argument f.name
  | .item => .item .argument (.literal (.str f.name))

mutual

/-- The body of a phrase. -/
def body : Phrase → Body
  | .field f => f.body
  | .compare c left right => .compare c (body left) (body right)
  | .compareTo c left value => .compare c (body left) (.literal value.value)
  | .compareFrom c value right => .compare c (.literal value.value) (body right)
  | .chain op first second rest =>
      (bodyAll rest).foldl (Body.connect op) (.connect op (body first) (body second))
  | .negation operand => .invert (body operand)
  | .membership negated f first rest =>
      let test := Body.call f.body membershipSpelling
        [.list (((first :: rest).map Written.value).map .literal)]
      if negated then .invert test else test
  | .pattern m f term => .call f.body m.spelling [.literal (.str term)]

/-- The bodies of several phrases. -/
def bodyAll : List Phrase → List Body
  | [] => []
  | p :: ps => body p :: bodyAll ps

end

/-- What a phrase is recorded as. -/
def value : Phrase → Value
  | .field f => .field f.name
  | p => .predicate p.tree.mirrored

theorem recorded?_value (p : Phrase) : p.value.recorded? = some p.tree.mirrored := by
  cases p <;> simp only [value, Value.recorded?, tree, Tree.mirrored]

theorem foldl_connect_kind (op : Connective) : ∀ (ts : List Tree) (s t : Tree),
    (ts.foldl (Tree.connect op) (.connect op s t)).isLiteral = false ∧
      (ts.foldl (Tree.connect op) (.connect op s t)).isMember = false
  | [], _, _ => ⟨rfl, rfl⟩
  | t :: ts, _, _ => foldl_connect_kind op ts _ t

theorem isLiteral_tree (p : Phrase) : p.tree.isLiteral = false := by
  cases p with
  | chain op first second rest => exact (foldl_connect_kind op (treeAll rest) _ _).1
  | membership negated f first rest => cases negated <;> rfl
  | _ => rfl

/-- A phrase is a field, or it is recorded as a predicate and its tree is no field. -/
theorem field_or_predicate (p : Phrase) :
    (∃ f, p = .field f) ∨ (p.value = .predicate p.tree.mirrored ∧ p.tree.isMember = false) := by
  cases p with
  | field f => exact .inl ⟨f, rfl⟩
  | chain op first second rest => exact .inr ⟨rfl, (foldl_connect_kind op (treeAll rest) _ _).2⟩
  | membership negated f first rest => cases negated <;> exact .inr ⟨rfl, rfl⟩
  | _ => exact .inr ⟨rfl, rfl⟩

/-- **Comparing two phrases records their comparison, mirrored.** -/
theorem compare_value (c : Comparison) (p q : Phrase) :
    p.value.compare c q.value = .ok (.predicate (Tree.compare c p.tree q.tree).mirrored) := by
  have hq := Value.asTree_of_recorded? q.recorded?_value
  rcases p.field_or_predicate with ⟨f, rfl⟩ | ⟨hp, hmember⟩
  · have hupright : (Tree.compare c (Phrase.field f).tree q.tree).turnsOver = false := rfl
    rw [Tree.mirrored_compare_of_upright hupright]
    exact Value.compare_field c f.name hq
  · rw [hp]
    rcases q.field_or_predicate with ⟨g, rfl⟩ | ⟨hvalue, hother⟩
    · have hright : (Phrase.field g).tree.isMember = true := rfl
      have hturns : (Tree.compare c p.tree (Phrase.field g).tree).turnsOver = true := by
        simp [Tree.compare, Tree.turnsOver, hmember, hright]
      rw [Tree.mirrored_compare_of_turnsOver hturns]
      exact Value.compare_predicate_field c p.tree.mirrored g.name
    · have hupright : (Tree.compare c p.tree q.tree).turnsOver = false := by
        simp [Tree.compare, Tree.turnsOver, p.isLiteral_tree, hother]
      rw [Tree.mirrored_compare_of_upright hupright]
      exact Value.compare_predicate c p.tree.mirrored hq (by simp [hvalue])

theorem compare_value_literal (c : Comparison) (p : Phrase) (x : Literal) :
    p.value.compare c (.literal x)
      = .ok (.predicate (Tree.compare c p.tree (.literal x)).mirrored) := by
  have hupright : (Tree.compare c p.tree (.literal x)).turnsOver = false := by
    simp [Tree.compare, Tree.turnsOver, p.isLiteral_tree, Tree.isMember]
  rw [Tree.mirrored_compare_of_upright hupright]
  rcases p.field_or_predicate with ⟨f, rfl⟩ | ⟨hp, _⟩
  · exact Value.compare_field c f.name rfl
  · rw [hp]
    exact Value.compare_predicate c p.tree.mirrored rfl (by simp)

theorem compare_literal_value (c : Comparison) (x : Literal) (p : Phrase) :
    (Value.literal x).compare c p.value
      = .ok (.predicate (Tree.compare c (.literal x) p.tree).mirrored) := by
  have hturns : (Tree.compare c (.literal x) p.tree).turnsOver = true := rfl
  rw [Tree.mirrored_compare_of_turnsOver hturns]
  exact Value.compare_literal c x p.recorded?_value

theorem Field.run_body (f : Field) : f.body.run = .ok (.field f.name) := by
  unfold Field.body
  split
  · exact Body.run_attribute f.plain
  · exact Body.run_item f.nonempty

theorem allOf_literals : ∀ vs : List Literal,
    Body.allOf (Body.runAll (vs.map .literal)) = .ok (vs.map .literal)
  | [] => rfl
  | v :: vs => by
      rw [List.map_cons, Body.runAll, Body.run, Body.allOf, allOf_literals vs]
      rfl

theorem mapM_asTree_literals : ∀ vs : List Literal,
    (vs.map Value.literal).mapM (fun v => v.asTree) = .ok (vs.map .literal)
  | [] => rfl
  | v :: vs => by
      rw [List.map_cons, List.mapM_cons, mapM_asTree_literals vs]
      rfl

theorem access_spelling (owner : String) (m : Method) :
    (Value.field owner).access m.spelling = .ok (.method owner m) := by
  rcases m with _ | m
  · rfl
  · cases m <;> rfl

theorem run_call {b : Body} {owner : String} {arguments : List Body} {vs : List Value}
    (hb : b.run = .ok (.field owner)) (m : Method)
    (hvs : Body.allOf (Body.runAll arguments) = .ok vs) :
    (Body.call b m.spelling arguments).run = (Value.method owner m).invoke vs := by
  rw [Body.run, hb, hvs]
  exact congrArg (· >>= fun callee => callee.invoke vs) (access_spelling owner m)

theorem Field.run_membership (f : Field) (v : Literal) (vs : List Literal) :
    (Body.call f.body membershipSpelling [.list ((v :: vs).map .literal)]).run
      = .ok (.predicate (.membership f.name ((v :: vs).map .literal))) := by
  have hvalues : Body.allOf (Body.runAll [.list ((v :: vs).map .literal)])
      = .ok [.list ((v :: vs).map .literal)] := by
    rw [Body.runAll, Body.runAll, Body.run, allOf_literals]
    rfl
  have htest : Value.membership f.name (.list ((v :: vs).map .literal))
      = .ok (.predicate (.membership f.name ((v :: vs).map .literal))) := by
    rw [Value.membership]
    simp only [Value.iterated?]
    rw [mapM_asTree_literals]
    rfl
  exact (run_call f.run_body .membership hvalues).trans htest

theorem Field.run_pattern (f : Field) (m : Match) (s : String) :
    (Body.call f.body m.spelling [.literal (.str s)]).run
      = .ok (.predicate (.pattern m f.name s)) := by
  have hterm : Body.allOf (Body.runAll [.literal (.str s)]) = .ok [.literal (.str s)] := rfl
  exact run_call f.run_body (.pattern m) hterm

mutual

/-- **Running the body of a phrase records the tree that the phrase says, mirrored.** -/
theorem run_body : ∀ p : Phrase, p.body.run = .ok p.value
  | .field f => f.run_body
  | .compare c left right => by
      rw [body, Body.run, run_body left, run_body right]
      exact compare_value c left right
  | .compareTo c left v => by
      rw [body, Body.run, run_body left, Body.run]
      exact compare_value_literal c left v.value
  | .compareFrom c v right => by
      rw [body, Body.run, run_body right, Body.run]
      exact compare_literal_value c v.value right
  | .chain op first second rest => by
      have hfirst : (Body.connect op first.body second.body).run
          = .ok (.predicate (.connect op first.tree.mirrored second.tree.mirrored)) := by
        rw [Body.run, run_body first, run_body second]
        exact Value.connect_recorded op first.recorded?_value second.recorded?_value
      change _ = Except.ok (Value.predicate (Phrase.chain op first second rest).tree.mirrored)
      rw [body, run_foldl_bodyAll op rest hfirst, tree, Tree.mirrored_foldl_connect,
        Tree.mirrored_connect]
  | .negation operand => by
      change _ = Except.ok (Value.predicate (Phrase.negation operand).tree.mirrored)
      rw [body, Body.run, run_body operand, tree, Tree.mirrored_negate]
      exact Value.invert_recorded operand.recorded?_value
  | .membership negated f first rest => by
      have htest := f.run_membership first.value (rest.map Written.value)
      change _ = Except.ok (Value.predicate (Phrase.membership negated f first rest).tree.mirrored)
      rw [body, tree]
      cases negated with
      | false =>
        change _ = Except.ok (Value.predicate (Tree.membership f.name _).mirrored)
        rw [Tree.mirrored_membership]
        exact htest
      | true =>
        change (Body.invert _).run = Except.ok (Value.predicate (Tree.membership f.name _).negate.mirrored)
        rw [Tree.mirrored_negate, Tree.mirrored_membership, Body.run]
        exact congrArg (· >>= Value.invert) htest
  | .pattern m f s => by
      change _ = Except.ok (Value.predicate (Phrase.pattern m f s).tree.mirrored)
      rw [body, f.run_pattern, tree, Tree.mirrored_pattern]

theorem run_foldl_bodyAll (op : Connective) : ∀ (ps : List Phrase) {b : Body} {s : Tree},
    b.run = .ok (.predicate s) →
      ((bodyAll ps).foldl (Body.connect op) b).run
        = .ok (.predicate ((Tree.mirroredAll (treeAll ps)).foldl (Tree.connect op) s))
  | [], _, _, h => h
  | p :: ps, b, s, h => by
      rw [bodyAll, List.foldl_cons, treeAll, Tree.mirroredAll, List.foldl_cons]
      refine run_foldl_bodyAll op ps ?_
      rw [Body.run, h, run_body p]
      exact Value.connect_recorded op (a := .predicate s) rfl p.recorded?_value

end

/-! ## 4. Whole fragments -/

theorem isLiteral_mirrored {t : Tree} (h : t.isLiteral = false) : t.mirrored.isLiteral = false := by
  cases t with
  | literal value => cases h
  | binary operator left right =>
    rw [Tree.mirrored]
    split <;> rfl
  | _ => rfl

/-- The term of a phrase is no single literal, and so it is a predicate. -/
theorem predicate_lambda [Limits] (p : Phrase) (u : Text.Identifier) :
    (p.lambda u).predicate =
      if p.depth ≤ Limits.reading then .ok p.tree else .error (.ofCause .tooDeep) := by
  have hopened : (p.lambda u).opened = .ok (some u, p.term u) := rfl
  have hliteral := p.isLiteral_tree
  rw [Term.predicate, hopened]
  change Failure.lift ((p.term u).toTree (some u) Limits.reading) >>= _ = _
  rw [p.toTree_term]
  unfold fitting
  split
  · generalize p.tree = t at hliteral
    cases t with
    | literal value => cases hliteral
    | _ => rfl
  · rfl

/-- A text that is read as a phrase has the tree that the phrase says, unless it is nested too deeply. -/
theorem predicate_text [Limits] {p : Phrase} {u : Text.Identifier} {text : String}
    (htext : TextFragment.term text = .ok (p.lambda u)) :
    (Fragment.text text).predicate =
      if p.depth ≤ Limits.reading then .ok p.tree
      else .error (.rejected ⟨.tooDeep, some text⟩) := by
  have hpredicate : TextFragment.predicate text = (p.lambda u).predicate := by
    rw [TextFragment.predicate, htext]
    rfl
  rw [Fragment.predicate, hpredicate, predicate_lambda]
  split <;> rfl

/-- A callable that runs as a phrase has the tree that the phrase says, mirrored. -/
theorem predicate_callable [Limits] {p : Phrase} {c : Callable} (hbody : c.body = p.body)
    (hrequired : ∀ count ∈ c.required, count = 1) :
    (Fragment.callable c).predicate = .ok p.tree.mirrored := by
  have hrun : c.body.run = .ok p.value := by rw [hbody, p.run_body]
  have hcall : c.call = .ok p.value := Callable.call_eq_ok hrun hrequired
  have hreturned : Fragment.returnedTree p.value = .ok p.tree.mirrored := by
    have hliteral := isLiteral_mirrored p.isLiteral_tree
    rw [Fragment.returnedTree, Value.asTree_of_recorded? p.recorded?_value]
    generalize p.tree.mirrored = t at hliteral
    cases t with
    | literal value => cases hliteral
    | _ => rfl
  rw [Fragment.predicate, hcall]
  change Fragment.rejecting _ (Fragment.returnedTree p.value) = _
  rw [hreturned]
  rfl

/-- **Texts and callables agree.** A phrase that is not nested too deeply is read from any text that
    writes it, and a callable that records it has the tree of the text with exactly those comparisons
    mirrored that are recorded the other way round. Where there are none, both trees are one and the
    same. -/
theorem fragments_agree [Limits] (p : Phrase) (u : Text.Identifier) (text : String) (c : Callable)
    (htext : TextFragment.term text = .ok (p.lambda u)) (hbody : c.body = p.body)
    (hrequired : ∀ count ∈ c.required, count = 1) :
    (p.depth ≤ Limits.reading → (Fragment.text text).predicate = .ok p.tree) ∧
    ∀ t, (Fragment.text text).predicate = .ok t →
      (Fragment.callable c).predicate = .ok t.mirrored ∧
      ((∀ node ∈ t.preorder, node.turnsOver = false) → (Fragment.callable c).predicate = .ok t) := by
  have hread := predicate_text htext
  have hrecorded := predicate_callable hbody hrequired
  refine ⟨fun hdepth => by rw [hread, if_pos hdepth], fun t ht => ?_⟩
  have htree : t = p.tree := by
    rw [hread] at ht
    split at ht
    · cases ht
      rfl
    · cases ht
  subst htree
  refine ⟨hrecorded, fun hnodes => ?_⟩
  rw [hrecorded, (Fragment.formed_of_text ht).mirrored_eq hnodes]

/-- Whether a text is read as the term `t`. -/
def reads [Limits] (text : String) (t : Term) : Bool :=
  match TextFragment.term text with
  | .ok s => s.identical t
  | .error _ => false

theorem term_eq_of_reads [Limits] {text : String} {t : Term} (h : reads text t = true) :
    TextFragment.term text = .ok t := by
  unfold reads at h
  split at h
  · rename_i s hs
    rw [hs, Term.eq_of_identical_each.1 s t h]
  · cases h

/-- A field read as an attribute in texts and as an item in callables. -/
def attributeField (id : Text.Identifier) (hnonempty : id.text.isEmpty = false)
    (hplain : id.text.startsWith "__" = false) : Field :=
  ⟨id.text, hnonempty, hplain, .attribute id rfl, .item⟩

/-- A phrase with two comparisons that are recorded the other way round, and one that is not. -/
def turnedPhrase : Phrase :=
  .chain .or
    (.chain .and
      (.compareFrom .lt (.minusInt 3) (.field (attributeField ⟨"a", by decide⟩ rfl (by decide +kernel))))
      (.compare .ge
        (.compareTo .gt (.field ⟨"b c", rfl, by decide +kernel, .item, .item⟩) (.plain (.int 1)))
        (.field (attributeField ⟨"d", by decide⟩ rfl (by decide +kernel)))) [])
    (.negation (.pattern .starts (attributeField ⟨"e", by decide⟩ rfl (by decide +kernel)) "x"))
    [.membership true (attributeField ⟨"f", by decide⟩ rfl (by decide +kernel)) (.plain .null)
      [.plain (.str "y")]]

def turnedText : String :=
  "lambda r: -3 < r.a and (r['b c'] > 1) >= r.d or not r.e.startswith('x') or r.f not in [None, 'y']"

theorem reads_turnedText : reads turnedText (turnedPhrase.lambda ⟨"r", by decide⟩) = true := by
  decide +kernel

theorem fragments_agree_turned :
    TextFragment.term turnedText = .ok (turnedPhrase.lambda ⟨"r", by decide⟩) ∧
    (Fragment.text turnedText).predicate = .ok turnedPhrase.tree ∧
    (Fragment.callable ⟨"function", "<lambda>", some 1, turnedPhrase.body⟩).predicate
      = .ok (.connect .or
          (.connect .or
            (.connect .and
              (.compare .gt (.member "a") (.literal (.int (-3))))
              (.compare .le (.member "d") (.compare .gt (.member "b c") (.literal (.int 1)))))
            (.negate (.pattern .starts "e" "x")))
          (.negate (.membership "f" [.literal .null, .literal (.str "y")]))) := by
  have hterm := term_eq_of_reads reads_turnedText
  have h := fragments_agree turnedPhrase ⟨"r", by decide⟩ turnedText
    ⟨"function", "<lambda>", some 1, turnedPhrase.body⟩ hterm rfl (by simp)
  have hread := h.1 (by decide)
  exact ⟨hterm, hread, (h.2 _ hread).1⟩

end Phrase

end BoundQuery
