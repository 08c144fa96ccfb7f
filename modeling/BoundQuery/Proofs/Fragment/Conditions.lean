import BoundQuery.Proofs.Fragment.Referring

/-!
# No condition is lost in a callable

The words `and`, `or`, `not` and `if` and chains of comparisons ask a value for its truth before they go on,
and what they do not go on to is never run. A field and all that is recorded of it have no truth value,
so that a callable which asks for one fails instead of leaving a condition out.

* `Body.asksTruth` – whether a truth value is asked for in a body, and `Body.references` – the fields that a
  body refers to;
* `Value.Carries` – a value is recorded exactly if its body refers to a field, and then its tree has the
  fields referred to; every operation that records keeps this up (`Value.carries_compare`,
  `Value.carries_connect`, `Value.carries_invert`);
* `Body.Conditional.keeps` – so it is with whole bodies, unless they fail.
-/

namespace BoundQuery

/-! ## 1. Bodies of conditions -/

namespace Body

/-- The fields that a body refers to, from left to right. -/
def references : Body → List String
  | .access .argument name => [name]
  | .item .argument (.literal (.str name)) => [name]
  | .field (.literal (.str name)) => [name]
  | .compare _ left right => references left ++ references right
  | .connect _ left right => references left ++ references right
  | .invert operand => references operand
  | .and left right => references left ++ references right
  | .or left right => references left ++ references right
  | .not operand => references operand
  | .conditional test yes no => references test ++ references yes ++ references no
  | .chain first _ middle _ last => references first ++ references middle ++ references last
  | _ => []

/-- Whether a truth value is asked for in a body: by `and`, `or`, `not`, a conditional or a chain of
    comparisons. -/
def asksTruth : Body → Bool
  | .and .. => true
  | .or .. => true
  | .not _ => true
  | .conditional .. => true
  | .chain .. => true
  | .compare _ left right => asksTruth left || asksTruth right
  | .connect _ left right => asksTruth left || asksTruth right
  | .invert operand => asksTruth operand
  | _ => false

/-- The bodies of conditions: fields and literals, and what is made of such by comparisons and the
    operators `&`, `|` and `~`, but also by `and`, `or`, `not`, conditionals and chains, as long as what
    they test refers to a field. What is run after a test may be any body; so a chain of more than two
    comparisons is here as the conjunction of its first comparison and the others. -/
inductive Conditional : Body → Prop
  | access (name : String) : Conditional (.access .argument name)
  | item (name : String) : Conditional (.item .argument (.literal (.str name)))
  | field (name : String) : Conditional (.field (.literal (.str name)))
  | literal (value : Literal) : Conditional (.literal value)
  | bytes (value : List UInt8) : Conditional (.bytes value)
  | compare (c : Comparison) {left right : Body} (hl : Conditional left) (hr : Conditional right) :
      Conditional (.compare c left right)
  | connect (op : Connective) {left right : Body} (hl : Conditional left) (hr : Conditional right) :
      Conditional (.connect op left right)
  | invert {operand : Body} (h : Conditional operand) : Conditional (.invert operand)
  | and {left : Body} (h : Conditional left) (hfield : left.references ≠ []) (right : Body) :
      Conditional (.and left right)
  | or {left : Body} (h : Conditional left) (hfield : left.references ≠ []) (right : Body) :
      Conditional (.or left right)
  | not {operand : Body} (h : Conditional operand) (hfield : operand.references ≠ []) :
      Conditional (.not operand)
  | conditional {test : Body} (h : Conditional test) (hfield : test.references ≠ []) (yes no : Body) :
      Conditional (.conditional test yes no)
  | chain {first middle : Body} (c d : Comparison) (hf : Conditional first) (hm : Conditional middle)
      (hfield : first.references ++ middle.references ≠ []) (last : Body) :
      Conditional (.chain first c middle d last)

end Body

/-! ## 2. What values carry -/

namespace Value

/-- A value that is recorded exactly if there are names to carry, and whose tree has these names. -/
structure Carries (v : Value) (names : List String) : Prop where
  tree : ∀ {t : Tree}, v.asTree = .ok t → t.names.Perm names
  recorded : (∃ t, v.recorded? = some t) ↔ names ≠ []

theorem carries_predicate {t : Tree} {names : List String} (h : t.names.Perm names) (hne : names ≠ []) :
    (Value.predicate t).Carries names where
  tree := by
    intro u hu
    cases hu
    exact h
  recorded := ⟨fun _ => hne, fun _ => ⟨t, rfl⟩⟩

theorem carries_field (name : String) : (Value.field name).Carries [name] where
  tree := by
    intro t ht
    cases ht
    exact .refl _
  recorded := ⟨fun _ => List.cons_ne_nil _ _, fun _ => ⟨.member name, rfl⟩⟩

theorem carries_literal (value : Literal) : (Value.literal value).Carries [] where
  tree := by
    intro t ht
    cases ht
    exact .refl _
  recorded := ⟨fun ⟨_, h⟩ => (by cases h), fun h => absurd rfl h⟩

/-- A value that cannot be a part of a tree carries nothing. -/
theorem carries_of_error {v : Value} {failure : Failure} (h : v.asTree = .error failure) :
    v.Carries [] where
  tree := by
    intro t ht
    rw [h] at ht
    cases ht
  recorded := by
    refine ⟨fun ⟨t, ht⟩ => ?_, fun hne => absurd rfl hne⟩
    rw [asTree_of_recorded? ht] at h
    cases h

section Carries

variable {v a b : Value} {names as bs : List String}

theorem Carries.eq_nil (h : v.Carries names) (hv : v.recorded? = none) : names = [] := by
  by_contra hne
  obtain ⟨t, ht⟩ := h.recorded.mpr hne
  rw [hv] at ht
  cases ht

theorem Carries.of_recorded (h : v.Carries names) {t : Tree} (ht : v.recorded? = some t) :
    t.names.Perm names ∧ names ≠ [] :=
  ⟨h.tree (asTree_of_recorded? ht), h.recorded.mp ⟨t, ht⟩⟩

/-- **What carries a name has no truth value.** -/
theorem Carries.truth_eq (h : v.Carries names) (hne : names ≠ []) :
    v.truth = .error (.ofCause .predicateTruth) := by
  obtain ⟨t, ht⟩ := h.recorded.mpr hne
  cases v with
  | field name => rfl
  | predicate tree => rfl
  | _ => cases ht

theorem carries_compare (c : Comparison) (ha : a.Carries as) (hb : b.Carries bs) :
    Yields (Carries · (as ++ bs)) (a.compare c b) := by
  unfold compare
  split
  · -- a field takes the comparison over from the predicate on its left
    rename_i s name
    obtain ⟨hs, hne⟩ := ha.of_recorded (t := s) rfl
    have hname : [name].Perm bs := hb.tree rfl
    refine .ok (carries_predicate ?_ (by simp [hne]))
    rw [Tree.names_compare]
    exact (hname.append hs).trans List.perm_append_comm
  · split
    · rename_i s hs
      obtain ⟨hperm, hne⟩ := ha.of_recorded hs
      intro v hv
      obtain ⟨t, ht, hv⟩ := exists_of_bind_eq_ok hv
      cases hv
      refine carries_predicate ?_ (by simp [hne])
      rw [Tree.names_compare]
      exact hperm.append (hb.tree ht)
    · rename_i t _ ht
      obtain ⟨hperm, hne⟩ := hb.of_recorded ht
      intro v hv
      obtain ⟨s, hs, hv⟩ := exists_of_bind_eq_ok hv
      cases hv
      refine carries_predicate ?_ (by simp [hne])
      rw [Tree.names_compare]
      exact (hperm.append (ha.tree hs)).trans List.perm_append_comm
    · rename_i has hbs
      rw [ha.eq_nil has, hb.eq_nil hbs]
      split
      · exact (yields_anything _).bind fun _ _ => .ok (carries_literal _)
      · exact (yields_anything _).bind fun _ _ => .ok (carries_literal _)
      · exact (yields_anything _).bind fun _ _ => .ok (carries_literal _)

theorem carries_connectPlain (op : Connective) (a b : Value) :
    Yields (Carries · []) (connectPlain op a b) := by
  unfold connectPlain
  split
  · exact .ok (carries_literal _)
  · exact .ok (carries_of_error rfl)
  · split
    · exact .error _
    · exact .ok (carries_of_error rfl)
  · split
    · exact .ok (carries_literal _)
    · exact .error _

theorem carries_connect (op : Connective) (ha : a.Carries as) (hb : b.Carries bs) :
    Yields (Carries · (as ++ bs)) (a.connect op b) := by
  unfold connect
  split
  · rename_i hrecorded
    have hne : as ++ bs ≠ [] := by
      rw [Bool.or_eq_true, Option.isSome_iff_exists, Option.isSome_iff_exists, ha.recorded,
        hb.recorded] at hrecorded
      rcases hrecorded with hne | hne
      · simp [hne]
      · simp [hne]
    intro v hv
    obtain ⟨s, hs, hv⟩ := exists_of_bind_eq_ok hv
    obtain ⟨t, ht, hv⟩ := exists_of_bind_eq_ok hv
    cases hv
    refine carries_predicate ?_ hne
    rw [Tree.names_connect]
    exact (ha.tree hs).append (hb.tree ht)
  · rename_i hplain
    rw [Bool.or_eq_true, not_or, Bool.not_eq_true, Bool.not_eq_true, Option.isSome_eq_false_iff,
      Option.isSome_eq_false_iff, Option.isNone_iff_eq_none, Option.isNone_iff_eq_none] at hplain
    rw [ha.eq_nil hplain.1, hb.eq_nil hplain.2]
    exact carries_connectPlain op a b

theorem carries_invert (h : v.Carries names) : Yields (Carries · names) v.invert := by
  unfold invert
  split
  · rename_i t ht
    obtain ⟨hperm, hne⟩ := h.of_recorded ht
    exact .ok (carries_predicate (by rwa [Tree.names_negate]) hne)
  · rename_i hnone _
    rw [h.eq_nil hnone]
    exact .ok (carries_literal _)
  · exact .error _

end Carries

end Value

/-! ## 3. Running conditions -/

namespace Body

open Value

/-- A body gives only values that carry its references, and then asks for no truth value. -/
def Keeps (b : Body) : Prop := Yields (fun v => b.asksTruth = false ∧ v.Carries b.references) b.run

theorem keeps_access (name : String) : (Body.access .argument name).Keeps := by
  have hrun : (Body.access .argument name).run = (Value.record true).access name := rfl
  unfold Keeps
  rw [hrun, Value.access]
  split
  · exact .error _
  · exact .ok ⟨rfl, carries_field name⟩

theorem keeps_item (name : String) : (Body.item .argument (.literal (.str name))).Keeps := by
  have hrun : (Body.item .argument (.literal (.str name))).run
      = (Value.record true).item (.literal (.str name)) := rfl
  unfold Keeps
  rw [hrun, Value.item]
  split
  · exact .error _
  · exact .ok ⟨rfl, carries_field name⟩

/-- **What is tested and refers to a field stops the run**, whatever is to come after it. -/
theorem Keeps.test {b : Body} (h : b.Keeps) (hfield : b.references ≠ []) {p : Value → Prop}
    (next : Value → Bool → Except Failure Value) :
    Yields p (b.run >>= fun v => v.truth >>= next v) := by
  refine Yields.bind h fun v hv => ?_
  rw [hv.2.truth_eq hfield]
  exact .error _

theorem Keeps.compare {left right : Body} (hl : left.Keeps) (hr : right.Keeps) (c : Comparison) :
    (Body.compare c left right).Keeps := by
  unfold Keeps
  rw [run]
  refine Yields.bind hl fun a ha => Yields.bind hr fun b hb => ?_
  intro v hv
  refine ⟨?_, carries_compare c ha.2 hb.2 v hv⟩
  rw [asksTruth, ha.1, hb.1]
  rfl

theorem Keeps.connect {left right : Body} (hl : left.Keeps) (hr : right.Keeps) (op : Connective) :
    (Body.connect op left right).Keeps := by
  unfold Keeps
  rw [run]
  refine Yields.bind hl fun a ha => Yields.bind hr fun b hb => ?_
  intro v hv
  refine ⟨?_, carries_connect op ha.2 hb.2 v hv⟩
  rw [asksTruth, ha.1, hb.1]
  rfl

theorem Keeps.invert {operand : Body} (h : operand.Keeps) : (Body.invert operand).Keeps := by
  unfold Keeps
  rw [run]
  refine Yields.bind h fun a ha => ?_
  intro v hv
  exact ⟨by rw [asksTruth, ha.1], carries_invert ha.2 v hv⟩

/-- The first comparison of a chain that refers to a field stops it. -/
theorem Keeps.chain {first middle : Body} (hf : first.Keeps) (hm : middle.Keeps)
    (hfield : first.references ++ middle.references ≠ []) (c d : Comparison) (last : Body) :
    (Body.chain first c middle d last).Keeps := by
  unfold Keeps
  rw [run]
  refine Yields.bind hf fun a ha => Yields.bind hm fun b hb => ?_
  refine Yields.bind (carries_compare c ha.2 hb.2) fun v hv => ?_
  rw [hv.truth_eq hfield]
  exact .error _

/-- **A condition is kept whole, or its body fails.** -/
theorem Conditional.keeps {b : Body} (h : b.Conditional) : b.Keeps := by
  induction h with
  | access name => exact keeps_access name
  | item name => exact keeps_item name
  | field name => exact .ok ⟨rfl, carries_field name⟩
  | literal value => exact .ok ⟨rfl, carries_literal value⟩
  | bytes value => exact .ok ⟨rfl, carries_of_error rfl⟩
  | compare c _ _ ihl ihr => exact ihl.compare ihr c
  | connect op _ _ ihl ihr => exact ihl.connect ihr op
  | invert _ ih => exact ih.invert
  | and _ hfield right ih =>
    unfold Keeps
    rw [run]
    exact ih.test hfield fun left true? => if true? then right.run else pure left
  | or _ hfield right ih =>
    unfold Keeps
    rw [run]
    exact ih.test hfield fun left true? => if true? then pure left else right.run
  | not _ hfield ih =>
    unfold Keeps
    rw [run]
    exact ih.test hfield fun _ true? => pure (.literal (.bool !true?))
  | conditional _ hfield yes no ih =>
    unfold Keeps
    rw [run]
    exact ih.test hfield fun _ true? => if true? then yes.run else no.run
  | chain c d _ _ hfield last ihf ihm => exact ihf.chain ihm hfield c d last

end Body

/-! ## 4. Callables -/

namespace Fragment

/-- **A callable never loses a condition silently.** If a callable is accepted as a predicate, and all that
    its body tests refers to a field, then its body asks for no truth value at all, and the tree has every
    field that the body refers to, as often as it does. -/
theorem callable_keeps_conditions [Limits] (c : Callable) (hbody : c.body.Conditional) (tree : Tree)
    (h : (Fragment.callable c).predicate = .ok tree) :
    c.body.asksTruth = false ∧ tree.names.Perm c.body.references := by
  obtain ⟨v, hv, h⟩ := exists_of_bind_eq_ok h
  obtain ⟨hasks, hcarries⟩ := yields_call hbody.keeps v hv
  obtain ⟨t, ht, h⟩ := exists_of_bind_eq_ok (eq_ok_of_rejecting h)
  refine ⟨hasks, ?_⟩
  split at h
  · cases h
  · cases h
    exact hcarries.tree ht

/-- A body with one field in two places, and two comparisons that are recorded the other way round. -/
def keptBody : Body :=
  .connect .or (.compare .lt (.literal (.int 1)) (.access .argument "a"))
    (.invert (.compare .gt
      (.compare .eq (.item .argument (.literal (.str "b c"))) (.access .argument "a"))
      (.field (.literal (.str "d")))))

theorem callable_keeps_conditions_turned :
    keptBody.Conditional ∧
    (Fragment.callable ⟨"function", "<lambda>", some 1, keptBody⟩).predicate
      = .ok (.connect .or (.compare .gt (.member "a") (.literal (.int 1)))
          (.negate (.compare .lt (.member "d") (.compare .eq (.member "b c") (.member "a"))))) ∧
    keptBody.asksTruth = false ∧ ["a", "d", "b c", "a"].Perm ["a", "b c", "a", "d"] := by
  have hbody : keptBody.Conditional :=
    .connect .or (.compare .lt (.literal _) (.access "a"))
      (.invert (.compare .gt (.compare .eq (.item "b c") (.access "a")) (.field "d")))
  have hread : (Fragment.callable ⟨"function", "<lambda>", some 1, keptBody⟩).predicate
      = .ok (.connect .or (.compare .gt (.member "a") (.literal (.int 1)))
          (.negate (.compare .lt (.member "d") (.compare .eq (.member "b c") (.member "a"))))) := rfl
  exact ⟨hbody, hread, callable_keeps_conditions ⟨"function", "<lambda>", some 1, keptBody⟩ hbody _ hread⟩

/-- A chain of comparisons is rejected at its first one, before the field on the right is reached. -/
example : (Fragment.callable ⟨"function", "<lambda>", some 1,
    .chain (.literal (.int 1)) .lt (.access .argument "a") .lt (.access .argument "b")⟩).predicate
      = .error (.rejected ⟨.predicateTruth, some "<lambda>"⟩) := rfl

end Fragment

end BoundQuery
