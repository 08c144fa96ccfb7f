import BoundQuery.Proofs.Sql.Alignment
import BoundQuery.Proofs.Sql.Masking
import BoundQuery.Proofs.Tree.Equality

/-!
# Equal queries compile alike

Equal trees look the same once their literals are blotted out (`Tree.masked_eq_of_same`), although equal
literals need not be of one kind: only a text is equal to a text, so that the term of a text match stays
one. Their leaves are equal in pairs (`Tree.leaves_of_same`). So equal queries fail for the same reason, or
have one text and bind values that are equal in pairs.
-/

namespace BoundQuery

open BoundQuery.Sql

/-! ## 1. Trees -/

namespace Tree

theorem leaves_call {callee : String} {arguments : List Tree}
    (hother : ∀ m, Method.ofSpelling? callee = some (.pattern m) →
      ∀ receiver term, arguments ≠ [receiver, .literal (.str term)]) :
    (Tree.call callee arguments).leaves = leavesAll arguments := by
  rw [leaves.eq_def]
  simp only
  split
  · rename_i m receiver term hcallee
    exact absurd rfl (hother m hcallee receiver term)
  · rfl

/-- Arguments equal to those of a text match of a text are those of a match of the same text. -/
theorem forall₂_same_pattern {receiver : Tree} {term : String} {us : List Tree}
    (h : List.Forall₂ (fun t u => t.same u = true) [receiver, .literal (.str term)] us) :
    ∃ receiver', receiver.same receiver' = true ∧ us = [receiver', .literal (.str term)] := by
  rcases h with _ | ⟨hreceiver, _ | ⟨hterm, _ | _⟩⟩
  cases same_iff.mp hterm with
  | literal hvalue =>
    obtain rfl := Literal.same_str_iff.mp hvalue
    exact ⟨_, hreceiver, rfl⟩

/-- Calls with equal arguments match the same text, or neither matches a text. -/
theorem call_cases_of_same (callee : String) {ts us : List Tree}
    (h : List.Forall₂ (fun t u => t.same u = true) ts us) :
    (∃ m receiver receiver' term, Method.ofSpelling? callee = some (.pattern m) ∧
        receiver.same receiver' = true ∧ ts = [receiver, .literal (.str term)] ∧
        us = [receiver', .literal (.str term)]) ∨
      ((Tree.call callee ts).masked = .call callee (ts.map masked) ∧
        (Tree.call callee us).masked = .call callee (us.map masked) ∧
        (Tree.call callee ts).leaves = leavesAll ts ∧ (Tree.call callee us).leaves = leavesAll us) := by
  have hturned : List.Forall₂ (fun t u => t.same u = true) us ts := (h.imp fun _ _ => same_symm).flip
  rcases masked_call_cases callee ts with ⟨m, receiver, term, hcallee, rfl⟩ | ⟨hts, hother⟩
  · obtain ⟨receiver', hreceiver, rfl⟩ := forall₂_same_pattern h
    exact .inl ⟨m, receiver, receiver', term, hcallee, hreceiver, rfl, rfl⟩
  · rcases masked_call_cases callee us with ⟨m, receiver, term, hcallee, rfl⟩ | ⟨hus, hother'⟩
    -- Equality goes both ways, so that a text matched on the right is matched on the left.
    · obtain ⟨receiver', _, rfl⟩ := forall₂_same_pattern hturned
      exact absurd rfl (hother m hcallee receiver' term)
    · exact .inr ⟨hts, hus, leaves_call hother, leaves_call hother'⟩

/-- **Equal trees look the same once masked.** -/
theorem masked_eq_of_same {t u : Tree} (h : t.same u = true) : t.masked = u.masked := by
  induction t using induct generalizing u with
  | member name =>
    cases same_iff.mp h
    rfl
  | literal value =>
    cases same_iff.mp h
    rfl
  | binary operator left right ihl ihr =>
    cases same_iff.mp h with
    | binary _ hleft hright => rw [masked, masked, ihl hleft, ihr hright]
  | logical operator left right ihl ihr =>
    cases same_iff.mp h with
    | logical _ hleft hright => rw [masked, masked, ihl hleft, ihr hright]
  | unary operator operand ih =>
    cases same_iff.mp h with
    | unary _ hoperand => rw [masked, masked, ih hoperand]
  | call callee arguments ih =>
    cases same_iff.mp h with
    | call _ harguments =>
      rcases call_cases_of_same callee harguments with
        ⟨m, receiver, receiver', term, hcallee, hreceiver, rfl, rfl⟩ | ⟨hts, hus, _⟩
      · rw [masked_pattern hcallee, masked_pattern hcallee, ih receiver (by simp) hreceiver]
      · have hmasked : List.Forall₂ (· = ·) (arguments.map masked) (List.map masked _) :=
          List.forall₂_map_left_iff.mpr <| List.forall₂_map_right_iff.mpr <|
            forall₂_imp_of_mem harguments fun t ht u => ih t ht
        rw [List.forall₂_eq_eq_eq] at hmasked
        rw [hts, hus, hmasked]

theorem leavesAll_of_forall₂ : ∀ {ts us : List Tree},
    List.Forall₂ (fun t u => List.Forall₂ (fun a b => a.same b = true) t.leaves u.leaves) ts us →
      List.Forall₂ (fun a b => a.same b = true) (leavesAll ts) (leavesAll us)
  | _, _, .nil => .nil
  | _, _, .cons hfirst hrest => List.rel_append hfirst (leavesAll_of_forall₂ hrest)

/-- **The leaves of equal trees are equal in pairs.** -/
theorem leaves_of_same {t u : Tree} (h : t.same u = true) :
    List.Forall₂ (fun a b => a.same b = true) t.leaves u.leaves := by
  induction t using induct generalizing u with
  | member name =>
    cases same_iff.mp h
    exact .nil
  | literal value =>
    cases same_iff.mp h with
    | literal h => exact .cons h .nil
  | binary operator left right ihl ihr =>
    cases same_iff.mp h with
    | binary _ hleft hright => exact List.rel_append (ihl hleft) (ihr hright)
  | logical operator left right ihl ihr =>
    cases same_iff.mp h with
    | logical _ hleft hright => exact List.rel_append (ihl hleft) (ihr hright)
  | unary operator operand ih =>
    cases same_iff.mp h with
    | unary _ hoperand =>
      rw [leaves, leaves]
      exact ih hoperand
  | call callee arguments ih =>
    cases same_iff.mp h with
    | call _ harguments =>
      rcases call_cases_of_same callee harguments with
        ⟨m, receiver, receiver', term, hcallee, hreceiver, rfl, rfl⟩ | ⟨_, _, hts, hus⟩
      · rw [leaves_pattern hcallee, leaves_pattern hcallee]
        exact List.rel_append (ih receiver (by simp) hreceiver) (.cons (Literal.same_refl _) .nil)
      · rw [hts, hus]
        exact leavesAll_of_forall₂ (forall₂_imp_of_mem harguments fun t ht u => ih t ht)

end Tree

/-! ## 2. Queries -/

namespace Descriptor

/-- Equal clauses are both absent or hold equal trees. -/
theorem sameTree?_iff {tree tree' : Option Tree} :
    sameTree? tree tree' = true ↔ Option.Rel (fun t u => t.same u = true) tree tree' := by
  cases tree <;> cases tree' <;> simp [sameTree?]

theorem map_masked_of_sameTree? {tree tree' : Option Tree} (h : sameTree? tree tree' = true) :
    tree.map Tree.masked = tree'.map Tree.masked := by
  cases sameTree?_iff.mp h with
  | some h => rw [Option.map_some, Option.map_some, Tree.masked_eq_of_same h]
  | none => rfl

theorem leaves_of_sameTree? {tree tree' : Option Tree} (h : sameTree? tree tree' = true) :
    List.Forall₂ (fun a b => a.same b = true) (tree.elim [] Tree.leaves) (tree'.elim [] Tree.leaves) := by
  cases sameTree?_iff.mp h with
  | some h => exact Tree.leaves_of_same h
  | none => exact .nil

theorem masked_eq_of_same {d e : Descriptor} (h : d.same e = true) : d.masked = e.masked := by
  obtain ⟨table, filter, projection, ordering, joins, groupKey, having', limit, offset⟩ := d
  obtain ⟨table', filter', projection', ordering', joins', groupKey', having'', limit', offset'⟩ := e
  simp only [same, Bool.and_eq_true, beq_iff_eq] at h
  obtain ⟨⟨⟨⟨⟨⟨⟨⟨rfl, hfilter⟩, rfl⟩, rfl⟩, rfl⟩, rfl⟩, hhaving⟩, rfl⟩, rfl⟩ := h
  simp only [masked, map_masked_of_sameTree? hfilter, map_masked_of_sameTree? hhaving]

theorem leaves_of_same {d e : Descriptor} (h : d.same e = true) :
    List.Forall₂ (fun a b => a.same b = true) d.leaves e.leaves := by
  simp only [same, Bool.and_eq_true] at h
  obtain ⟨⟨⟨⟨⟨⟨⟨⟨_, hfilter⟩, _⟩, _⟩, _⟩, _⟩, hhaving⟩, _⟩, _⟩ := h
  exact List.rel_append (leaves_of_sameTree? hfilter) (leaves_of_sameTree? hhaving)

end Descriptor

/-! ## 3. Statements -/

namespace Session

/-- **Equal queries compile alike.** Equality of trees is an equivalence, in which literals are equal if they
    are worth the same. In every style two equal queries fail for the same reason, or have one text and
    bind values that are equal in pairs. -/
theorem compile_of_same [Limits] :
    (Equivalence fun t u : Tree => t.same u = true) ∧
    (∀ a b : Literal, (Tree.literal a).same (.literal b) = true ↔ a.worth = b.worth) ∧
    ∀ (s : Session) (wanted : Wanted) (name : Literal) (d e : Descriptor), d.same e = true →
      (∃ failure, (s.compile wanted name d).2 = .failed failure ∧
        (s.compile wanted name e).2 = .failed failure) ∨
      (∃ answer answer', (s.compile wanted name d).2 = .statement answer ∧
        (s.compile wanted name e).2 = .statement answer' ∧ answer.sql = answer'.sql ∧
        answer.style = answer'.style ∧
        List.Forall₂ (fun a b => a.same b = true) answer.values.toList answer'.values.toList) := by
  refine ⟨Tree.equivalence_same, Literal.same_iff, ?_⟩
  intro s wanted name d e h
  rw [compile_answer, compile_answer]
  cases s.styles.ask name with
  | error failure => exact .inl ⟨failure, rfl, rfl⟩
  | ok style =>
    rcases wanted.outline_alike (Descriptor.masked_eq_of_same h) with
      ⟨failure, hd, he⟩ | ⟨ls, ls', hd, he, hls⟩
    · rw [hd, he]
      exact .inl ⟨failure, rfl, rfl⟩
    · have hvalues : List.Forall₂ (fun a b => a.same b = true) (values ls) (values ls') := by
        rw [Wanted.values_outline hd, Wanted.values_outline he]
        exact Descriptor.leaves_of_same h
      rw [hd, he]
      refine .inr ⟨_, _, rfl, rfl, ?_, rfl, hvalues⟩
      show spell style.place 0 ls = spell style.place 0 ls'
      rw [← spell_map_masked, hls, spell_map_masked]

/-- A query over the users of an age whose name starts with a letter, if one of two scores is theirs. -/
def scoredQuery (age first second : Literal) : Descriptor :=
  { Descriptor.ofTable "users" with
    filter := some (.connect .and (.pattern .starts "name" "J") (.binary "==" (.member "age") (.literal age)))
    having := some (.membership "score" [.literal first, .literal second]) }

theorem compile_of_same_kinds :
    (scoredQuery (.bool true) (.float (.zero false)) (.int 3)).same
        (scoredQuery (.int 1) (.float (.zero true)) (.float (.finite false 6 (-1)))) = true ∧
      ∃ answer answer',
        ((ofQuery (.ofTable "users")).compile .rows (.str "numeric")
          (scoredQuery (.bool true) (.float (.zero false)) (.int 3))).2 = .statement answer ∧
        ((ofQuery (.ofTable "users")).compile .rows (.str "numeric")
          (scoredQuery (.int 1) (.float (.zero true)) (.float (.finite false 6 (-1))))).2
            = .statement answer' ∧
        answer.sql = answer'.sql ∧ answer.style = answer'.style ∧
        List.Forall₂ (fun a b => a.same b = true) answer.values.toList answer'.values.toList := by
  have hsame : (scoredQuery (.bool true) (.float (.zero false)) (.int 3)).same
      (scoredQuery (.int 1) (.float (.zero true)) (.float (.finite false 6 (-1)))) = true := by decide
  refine ⟨hsame, ?_⟩
  rcases compile_of_same.2.2 (ofQuery (.ofTable "users")) .rows (.str "numeric") _ _ hsame with
    ⟨failure, hfailed, _⟩ | hboth
  · cases hfailed
  · exact hboth

end Session

end BoundQuery
