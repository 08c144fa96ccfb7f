import BoundQuery.Proofs.Fragment.Lambda
import BoundQuery.Proofs.Fragment.Vocabulary

/-!
# Which predicates refer to a field

A single literal is not accepted as a predicate. For a callable this is enough: its comparisons and
connectives are recorded only where a field takes part, so all that is recorded refers to one
(`Value.Referring`). A text is not run but read, and what it is read as has a field exactly if a name
stands in the text (`Term.names_ne_nil_of_named`, `Term.names_eq_nil_of_not_named`); literals that are
compared or negated are accepted without any.
-/

namespace BoundQuery

/-! ## 1. The fields of a tree -/

namespace Tree

@[simp] theorem names_compare (c : Comparison) (left right : Tree) :
    (compare c left right).names = left.names ++ right.names := by rw [compare, names]

@[simp] theorem names_connect (op : Connective) (left right : Tree) :
    (connect op left right).names = left.names ++ right.names := by rw [connect, names]

@[simp] theorem names_negate (t : Tree) : t.negate.names = t.names := by rw [negate, names]

@[simp] theorem names_membership (name : String) (values : List Tree) :
    (membership name values).names = name :: namesAll values := by
  rw [membership, names, namesAll, names, List.singleton_append]

@[simp] theorem names_pattern (m : Match) (name term : String) : (pattern m name term).names = [name] := by
  simp [pattern, names, namesAll]

theorem names_foldl_connect (op : Connective) : ∀ (rs : List Tree) (l : Tree),
    (rs.foldl (connect op) l).names = l.names ++ rs.flatMap names
  | [], l => by simp
  | r :: rs, l => by
      rw [List.foldl_cons, names_foldl_connect op rs, List.flatMap_cons, names_connect, List.append_assoc]

/-- A formed tree whose fields have no name has no field. -/
theorem Formed.names_eq_nil {t : Tree} (h : t.Formed fun _ => False) : t.names = [] := by
  induction h with
  | literal value => rfl
  | compare c _ _ ihl ihr => rw [names_compare, ihl, ihr, List.append_nil]
  | connect op _ _ ihl ihr => rw [names_connect, ihl, ihr, List.append_nil]
  | negate _ ih => rw [names_negate, ih]
  | member hname | membership hname | pattern _ hname => exact hname.elim

end Tree

/-! ## 2. Texts -/

namespace Term

/-- A name or an attribute stands in a term. -/
def Named (t : Term) : Prop := ∃ id, Occurs id t

theorem Named.of_part {t u : Term} (hu : u ∈ t.parts) : u.Named → t.Named := by
  rintro ⟨id, hid⟩
  exact ⟨id, .part hu hid⟩

theorem named_lambdaOf_iff {u : Text.Identifier} {body : Term} :
    (lambdaOf u body).Named ↔ body.Named := by
  constructor
  · rintro ⟨id, h⟩
    cases h with
    | part hu hoccurs =>
      obtain rfl := List.mem_singleton.mp hu
      exact ⟨id, hoccurs⟩
  · exact Named.of_part List.mem_cons_self

theorem not_named_constant (value : Constant) : ¬ (Term.constant value).Named := by
  rintro ⟨id, h⟩
  cases h with
  | part hu _ => cases hu

/-- A name stands in a term that names a field. -/
theorem named_of_fieldName {scope : Scope} {t : Term} {name : String}
    (h : t.fieldName scope = .ok name) : t.Named := by
  cases fieldName_eq_ok_iff.mp h with
  | item u hkey => exact ⟨u, .part List.mem_cons_self .name⟩
  | bare hpath =>
    rcases occurs_of_path? hpath _ List.mem_cons_self with hoccurs | hnil
    · exact ⟨_, hoccurs⟩
    · cases hnil
  | path hpath =>
    rcases occurs_of_path? hpath _ List.mem_cons_self with hoccurs | hnil
    · exact ⟨_, hoccurs⟩
    · cases hnil

theorem admits_unnamed (scope : Scope) : Admits scope (fun t => ¬ t.Named) fun _ => False where
  part hfits hu hnamed := hfits (hnamed.of_part hu)
  name hfits hname := hfits (named_of_fieldName hname)

/-- The tree of a term without names has no field. -/
theorem names_eq_nil_of_not_named {scope : Scope} {room : Nat} {t : Term} {tree : Tree} (ht : ¬ t.Named)
    (h : toTree scope room t = .ok tree) : tree.names = [] :=
  (formed_of_toTree (admits_unnamed scope) ht h).names_eq_nil

theorem names_ne_nil_of_tests {scope : Scope} {convert : Term → Except Cause Tree}
    {receiver values : Term} {tree : Tree} (h : Tests scope convert receiver values tree) :
    tree.names ≠ [] := by
  cases h with
  | membership => simp

/-- **The tree of a term in which a name stands has a field.** -/
theorem names_ne_nil_of_named {scope : Scope} {room : Nat} {t : Term} {tree : Tree} (ht : t.Named)
    (h : toTree scope room t = .ok tree) : tree.names ≠ [] := by
  revert ht
  refine toTree_induct (motive := fun t tree => t.Named → tree.names ≠ []) ?_ h
  rintro part t tree ih hread ⟨id, hid⟩
  have hpart {calls : Nat} {u : Term} {s : Tree} (hu : Occurs id u) (hs : part calls u = .ok s) :
      s.names ≠ [] := ih calls u s hs ⟨id, hu⟩
  cases hread with
  | member hname => simp [Tree.names]
  | literal value => exact absurd ⟨id, hid⟩ (not_named_constant _)
  | number hsigned =>
    obtain ⟨constant, _, rfl, _⟩ := exists_literal_of_signedTree hsigned
    cases hid with
    | part hu hoccurs =>
      obtain rfl := List.mem_singleton.mp hu
      exact absurd ⟨id, hoccurs⟩ (not_named_constant constant)
  | compare c hl hr =>
    cases hid with
    | part hu hoccurs =>
      simp only [parts, List.mem_cons, List.not_mem_nil, or_false] at hu
      rcases hu with rfl | rfl
      · simp [hpart hoccurs hl]
      · simp [hpart hoccurs hr]
  | chain op hfirst hrest =>
    rw [Tree.names_foldl_connect]
    cases hid with
    | part hu hoccurs =>
      rcases List.mem_cons.mp hu with rfl | hu
      · simp [hpart hoccurs hfirst]
      · obtain ⟨r, hr, hread⟩ := exists_mem_of_mapM hrest _ hu
        have hnames := hpart hoccurs hread
        intro hnil
        exact hnames (List.flatMap_eq_nil_iff.mp (List.append_eq_nil_iff.mp hnil).2 r hr)
  | negation hoperand =>
    cases hid with
    | part hu hoccurs =>
      obtain rfl := List.mem_singleton.mp hu
      rw [Tree.names_negate]
      exact hpart hoccurs hoperand
  | test htest => exact names_ne_nil_of_tests htest
  | negatedTest htest =>
    rw [Tree.names_negate]
    exact names_ne_nil_of_tests htest
  | testCall _ htest => exact names_ne_nil_of_tests htest
  | pattern _ _ => simp

end Term

/-- **The predicate of a text has a field exactly if a name stands in the text.** -/
theorem Fragment.names_of_text [Limits] {text : String} {tree : Tree}
    (h : (Fragment.text text).predicate = .ok tree) :
    ∃ t, TextFragment.term text = .ok t ∧ (tree.names ≠ [] ↔ t.Named) := by
  obtain ⟨t, scope, body, hterm, hbody, htree⟩ := exists_body_of_text h
  refine ⟨t, hterm, ?_⟩
  have hnamed : t.Named ↔ body.Named := by
    rcases hbody with rfl | ⟨u, rfl⟩
    · rfl
    · exact Term.named_lambdaOf_iff
  rw [hnamed]
  constructor
  · intro hnames
    by_contra hunnamed
    exact hnames (Term.names_eq_nil_of_not_named hunnamed htree)
  · intro hname
    exact Term.names_ne_nil_of_named hname htree

/-! ## 3. Callables -/

namespace Value

/-- A value that brings a field into every tree it is a part of, unless it is a literal. -/
def Referring (v : Value) : Prop := ∀ t, v.asTree = .ok t → t.names ≠ [] ∨ ∃ value, v = .literal value

theorem referring_literal (value : Literal) : Referring (.literal value) := fun _ _ => .inr ⟨value, rfl⟩

theorem referring_predicate {t : Tree} (h : t.names ≠ []) : Referring (.predicate t) := by
  intro u hu
  cases hu
  exact .inl h

theorem referring_field (name : String) : Referring (.field name) := by
  intro t ht
  cases ht
  exact .inl (by simp [Tree.names])

/-- A value that cannot be a part of a tree. -/
theorem referring_of_error {v : Value} {failure : Failure} (h : v.asTree = .error failure) :
    Referring v := by
  intro t ht
  rw [h] at ht
  cases ht

theorem Referring.names_ne_nil {v : Value} {t : Tree} (h : v.Referring) (ht : v.recorded? = some t) :
    t.names ≠ [] := by
  rcases h t (asTree_of_recorded? ht) with hnames | ⟨value, rfl⟩
  · exact hnames
  · cases ht

theorem referring_access (isArgument : Bool) (name : String) :
    Yields Referring (access (.record isArgument) name) := by
  unfold access
  dsimp only
  split
  · exact .error _
  · exact .ok (referring_field name)

theorem referring_item (isArgument : Bool) (key : Value) :
    Yields Referring (item (.record isArgument) key) := by
  unfold item
  dsimp only
  split
  · split
    · exact .error _
    · exact .ok (referring_field _)
  · exact .error _

theorem referring_compare (c : Comparison) {a b : Value} (ha : a.Referring) (hb : b.Referring) :
    Yields Referring (a.compare c b) := by
  unfold compare
  split
  · exact .ok (referring_predicate (by simp [Tree.names]))
  · split
    · rename_i s hs
      exact (yields_anything _).bind fun t _ => .ok (referring_predicate (by simp [ha.names_ne_nil hs]))
    · rename_i t _ ht
      exact (yields_anything _).bind fun s _ => .ok (referring_predicate (by simp [hb.names_ne_nil ht]))
    · split
      · exact (yields_anything _).bind fun _ _ => .ok (referring_literal _)
      · exact (yields_anything _).bind fun _ _ => .ok (referring_literal _)
      · exact (yields_anything _).bind fun _ _ => .ok (referring_literal _)

theorem referring_connectPlain (op : Connective) (a b : Value) : Yields Referring (connectPlain op a b) := by
  unfold connectPlain
  split
  · exact .ok (referring_literal _)
  · exact .ok (referring_of_error rfl)
  · split
    · exact .error _
    · exact .ok (referring_of_error rfl)
  · split
    · exact .ok (referring_literal _)
    · exact .error _

theorem referring_connect (op : Connective) {a b : Value} (ha : a.Referring) (hb : b.Referring) :
    Yields Referring (a.connect op b) := by
  unfold connect
  split
  · rename_i hrecorded
    intro v hv
    obtain ⟨s, hs, hv⟩ := exists_of_bind_eq_ok hv
    obtain ⟨t, ht, hv⟩ := exists_of_bind_eq_ok hv
    cases hv
    refine referring_predicate ?_
    rw [Tree.names_connect]
    rcases ha s hs with hnames | ⟨x, rfl⟩
    · simp [hnames]
    · -- Two literals are not recorded.
      rcases hb t ht with hnames | ⟨y, rfl⟩
      · simp [hnames]
      · simp [recorded?] at hrecorded
  · exact referring_connectPlain op a b

theorem referring_invert {v : Value} (h : v.Referring) : Yields Referring v.invert := by
  unfold invert
  split
  · rename_i t ht
    exact .ok (referring_predicate (by simpa using h.names_ne_nil ht))
  · exact .ok (referring_literal _)
  · exact .error _

/-- A call that succeeds tests a field. -/
theorem referring_invoke (callee : Value) (arguments : List Value) :
    Yields Referring (callee.invoke arguments) := by
  unfold invoke
  split
  · split
    · split
      · unfold membership
        split
        · exact .error _
        · refine (yields_anything _).bind fun trees _ => ?_
          split
          · exact .error _
          · split
            · exact .error _
            · exact .ok (referring_predicate (by simp))
      · unfold pattern
        split
        · exact .ok (referring_predicate (by simp))
        · exact .error _
    · exact .error _
    · exact .error _
  · exact .error _

end Value

namespace Body

open Value

/-- The bodies of predicates: fields of the record, literals, displays, and what is made of such by
    comparisons, connectives, negation and calls. -/
inductive Predicative : Body → Prop
  | argument : Predicative .argument
  | access (name : String) : Predicative (.access .argument name)
  | item (key : Body) : Predicative (.item .argument key)
  | literal (value : Literal) : Predicative (.literal value)
  | list (items : List Body) : Predicative (.list items)
  | tuple (items : List Body) : Predicative (.tuple items)
  | set (member : Body) : Predicative (.set member)
  | generator (items : List Body) : Predicative (.generator items)
  | compare (c : Comparison) {left right : Body} (hl : Predicative left) (hr : Predicative right) :
      Predicative (.compare c left right)
  | connect (op : Connective) {left right : Body} (hl : Predicative left) (hr : Predicative right) :
      Predicative (.connect op left right)
  | invert {operand : Body} (h : Predicative operand) : Predicative (.invert operand)
  | call (base : Body) (method : String) (arguments : List Body) :
      Predicative (.call base method arguments)

/-- **What the body of a predicate gives is a literal or refers to a field.** -/
theorem referring_run {b : Body} (h : b.Predicative) : Yields Referring b.run := by
  induction h with
  | argument => exact .ok (referring_of_error rfl)
  | access name =>
    rw [run, run]
    exact referring_access true name
  | item key =>
    rw [run, run]
    exact (yields_anything key.run).bind fun k _ => referring_item true k
  | literal value => exact .ok (referring_literal value)
  | list items =>
    rw [run]
    exact (yields_anything _).bind fun _ _ => .ok (referring_of_error rfl)
  | tuple items =>
    rw [run]
    exact (yields_anything _).bind fun _ _ => .ok (referring_of_error rfl)
  | set member =>
    rw [run]
    exact (yields_anything _).bind fun _ _ => (yields_anything _).bind fun _ _ =>
      .ok (referring_of_error rfl)
  | generator items =>
    rw [run]
    exact .ok (referring_of_error rfl)
  | compare c _ _ ihl ihr =>
    rw [run]
    exact ihl.bind fun a ha => ihr.bind fun b hb => referring_compare c ha hb
  | connect op _ _ ihl ihr =>
    rw [run]
    exact ihl.bind fun a ha => ihr.bind fun b hb => referring_connect op ha hb
  | invert _ ih =>
    rw [run]
    exact ih.bind fun v hv => referring_invert hv
  | call base method arguments =>
    rw [run]
    exact (yields_anything _).bind fun _ _ => (yields_anything _).bind fun callee _ =>
      (yields_anything _).bind fun vs _ => referring_invoke callee vs

end Body

/-! ## 4. Fragments -/

namespace Fragment

theorem names_ne_nil_of_returnedTree {v : Value} {tree : Tree} (hv : v.Referring)
    (h : returnedTree v = .ok tree) : tree.names ≠ [] := by
  obtain ⟨t, ht, h⟩ := exists_of_bind_eq_ok h
  rcases hv t ht with hnames | ⟨value, rfl⟩
  · split at h
    · cases h
    · cases h
      exact hnames
  · cases ht
    cases h

/-- A text, or a callable whose body is one of a predicate. -/
inductive Predicative : Fragment → Prop
  | text (text : String) : Predicative (.text text)
  | callable {c : Callable} (h : c.body.Predicative) : Predicative (.callable c)

/-- A fragment that stands for a single literal. -/
inductive StandsFor [Limits] : Fragment → Literal → Prop
  | text {text : String} {t body : Term} {scope : Scope} {value : Literal}
      (hterm : TextFragment.term text = .ok t) (hopened : t.opened = .ok (scope, body))
      (hbody : body.toTree scope Limits.reading = .ok (.literal value)) : StandsFor (.text text) value
  | callable {c : Callable} {value : Literal} (h : c.call = .ok (.literal value)) :
      StandsFor (.callable c) value

theorem rejecting_showing {α : Type} {f : Fragment} {text? : Option String} {shown description : String}
    (hshown : text? = some shown) (hdescription : f.description? = some description)
    (cause : String → Cause) :
    f.rejecting (.error (.showing text? cause) : Except Failure α)
      = .error (.rejected ⟨cause shown, some description⟩) := by
  rw [hshown]
  show (Failure.written f.description? >>= fun text => .error (.rejected ⟨cause shown, some text⟩)) = _
  rw [hdescription]
  rfl

/-- A single literal is no predicate. -/
theorem predicate_of_standsFor [Limits] {f : Fragment} {value : Literal} {shown description : String}
    (h : f.StandsFor value) (hshown : value.shown? = some shown)
    (hdescription : f.description? = some description) :
    f.predicate = .error (.rejected ⟨.constantPredicate shown, some description⟩) := by
  rw [← rejecting_showing hshown hdescription]
  cases h with
  | text hterm hopened hbody =>
    rw [predicate, TextFragment.predicate, hterm]
    show rejecting _ (Term.predicate _) = _
    rw [Term.predicate, hopened]
    show rejecting _ (Failure.lift (Term.toTree _ _ _) >>= _) = _
    rw [hbody]
    rfl
  | callable hcall =>
    rw [predicate, hcall]
    rfl

/-- **An accepted predicate refers to a field, unless it is a text in which no name stands.** Then it has
    no field at all. What stands for a single literal is rejected as a constant. -/
theorem accepted_refers [Limits] (f : Fragment) (hf : f.Predicative) :
    (∀ tree, f.predicate = .ok tree → tree.names ≠ [] ∨
      ∃ text t, f = .text text ∧ TextFragment.term text = .ok t ∧ ¬ t.Named ∧ tree.names = []) ∧
    (∀ value shown description, f.StandsFor value → value.shown? = some shown →
      f.description? = some description →
      f.predicate = .error (.rejected ⟨.constantPredicate shown, some description⟩)) := by
  refine ⟨fun tree h => ?_, fun value shown description => predicate_of_standsFor⟩
  cases hf with
  | text text =>
    obtain ⟨t, hterm, hnames⟩ := names_of_text h
    by_cases hnamed : t.Named
    · exact .inl (hnames.mpr hnamed)
    · exact .inr ⟨text, t, rfl, hterm, hnamed, by simpa [hnamed] using hnames⟩
  | callable hbody =>
    obtain ⟨v, hv, h⟩ := exists_of_bind_eq_ok h
    have hv := yields_call (Body.referring_run hbody) v hv
    exact .inl (names_ne_nil_of_returnedTree hv (eq_ok_of_rejecting h))

/-- The literal on the left of a comparison, and the constant beside it, do not keep a body from
    referring to a field. -/
def turnedBody : Body :=
  .invert (.connect .or (.compare .eq (.literal (.int 1)) (.item .argument (.literal (.str "age"))))
    (.literal (.bool true)))

theorem accepted_refers_turned :
    (Fragment.callable ⟨"function", "<lambda>", some 1, turnedBody⟩).Predicative ∧
      ∃ tree, (Fragment.callable ⟨"function", "<lambda>", some 1, turnedBody⟩).predicate = .ok tree ∧
        tree.names ≠ [] := by
  have hf : (Fragment.callable ⟨"function", "<lambda>", some 1, turnedBody⟩).Predicative :=
    .callable (.invert (.connect .or (.compare .eq (.literal _) (.item _)) (.literal _)))
  have hread : (Fragment.callable ⟨"function", "<lambda>", some 1, turnedBody⟩).predicate
      = .ok (.negate (.connect .or (.compare .eq (.member "age") (.literal (.int 1)))
          (.literal (.bool true)))) := rfl
  rcases (accepted_refers _ hf).1 _ hread with hnames | ⟨text, t, htext, _⟩
  · exact ⟨hf, _, hread, hnames⟩
  · cases htext

theorem reads_constantComparison :
    Phrase.reads "1 == 1" (.compare (.constant (.literal (.int 1))) [.compare .eq]
      [.constant (.literal (.int 1))]) := by decide +kernel

/-- Two literals that are compared are accepted as a text. -/
theorem constant_comparison_accepted :
    ∃ tree, (Fragment.text "1 == 1").predicate = .ok tree ∧ tree.names = [] :=
  ⟨.compare .eq (.literal (.int 1)) (.literal (.int 1)),
    (agree_predicate (Phrase.term_eq_of_reads reads_constantComparison) _).mpr rfl, rfl⟩

end Fragment

end BoundQuery
