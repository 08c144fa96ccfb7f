import BoundQuery.Fragment.Text
import BoundQuery.Proofs.Failure
import BoundQuery.Proofs.Limits

/-!
# One step of reading a term

Reading a term as a tree goes down the term one form at a time. `Term.Reads` lists all that one step can do,
with the reading of the parts left open (`Term.nodeTree_eq_ok_iff`), and `Term.toTree_succ_eq_ok_iff` says
that this is what `toTree` does. What holds of all trees that are read is then shown by cases on `Reads`
(`Term.toTree_induct`), and that a tree can be read by giving the step for it. Fields are at the bottom, and
`Term.Names` lists all ways to name one.
-/

namespace BoundQuery.Term

/-! ## 1. Fields -/

/-- Whether a term is a subscript. -/
def isSubscript : Term → Bool
  | .subscript .. => true
  | _ => false

/-- The field of a term that is no subscript is settled by its path. -/
theorem fieldName_eq {t : Term} (h : t.isSubscript = false) (scope : Scope) :
    t.fieldName scope =
      match t.path? [] with
      | none => .error (.notAField t.formName)
      | some (id, parts) =>
          match scope with
          | none => .ok (joined (id :: parts))
          | some parameter =>
              if id ≠ parameter then .error (.unresolvedName id.text)
              else if parts.isEmpty then .error (.parameterAlone parameter.text)
              else .ok (joined parts) := by
  cases t with
  | subscript base index => cases h
  | _ => rfl

/-- The ways to name a field: by an item of the parameter, by a path of names, or by a path of
    attributes of the parameter. -/
inductive Names : Scope → Term → String → Prop
  | item (u : Text.Identifier) {key : String} (hkey : key ≠ "") :
      Names (some u) (.subscript (.name u) (.constant (.literal (.str key)))) key
  | bare {t : Term} {id : Text.Identifier} {parts : List Text.Identifier}
      (hpath : t.path? [] = some (id, parts)) : Names none t (joined (id :: parts))
  | path {t : Term} {u first : Text.Identifier} {rest : List Text.Identifier}
      (hpath : t.path? [] = some (u, first :: rest)) : Names (some u) t (joined (first :: rest))

theorem isSubscript_of_path? {t : Term} {parts : List Text.Identifier}
    {path : Text.Identifier × List Text.Identifier} (h : t.path? parts = some path) :
    t.isSubscript = false := by
  cases t with
  | subscript base index => cases h
  | _ => rfl

theorem names_of_fieldName {scope : Scope} {t : Term} {name : String}
    (h : t.fieldName scope = .ok name) : Names scope t name := by
  cases hsub : t.isSubscript with
  | true =>
    cases t with
    | subscript base index =>
      simp only [fieldName] at h
      split at h
      · rename_i parameter id key
        split at h
        · rename_i hkey
          cases h
          simp only [Bool.and_eq_true, decide_eq_true_eq, Bool.not_eq_true'] at hkey
          obtain ⟨rfl, hkey⟩ := hkey
          exact .item id fun hempty => by simp [hempty] at hkey
        · cases h
      · cases h
    | _ => cases hsub
  | false =>
    rw [fieldName_eq hsub] at h
    cases hpath : t.path? [] with
    | none =>
      rw [hpath] at h
      cases h
    | some path =>
      obtain ⟨id, parts⟩ := path
      rw [hpath] at h
      cases scope with
      | none =>
        cases h
        exact .bare hpath
      | some u =>
        simp only at h
        split at h
        · cases h
        · rename_i hid
          split at h
          · cases h
          · cases h
            obtain rfl := Decidable.of_not_not hid
            cases parts with
            | nil => rename_i hparts; exact absurd rfl hparts
            | cons first rest => exact .path hpath

/-- **A term names a field in one of three ways.** -/
theorem fieldName_eq_ok_iff {scope : Scope} {t : Term} {name : String} :
    t.fieldName scope = .ok name ↔ Names scope t name := by
  refine ⟨names_of_fieldName, fun h => ?_⟩
  cases h with
  | item u hkey => simp [fieldName, hkey]
  | bare hpath => rw [fieldName_eq (isSubscript_of_path? hpath), hpath]
  | path hpath => simp [fieldName_eq (isSubscript_of_path? hpath), hpath]

/-! ## 2. Steps -/

/-- A membership test of the field `receiver` against the displayed `values`. -/
inductive Tests (scope : Scope) (convert : Term → Except Cause Tree) (receiver values : Term) :
    Tree → Prop
  | membership {name : String} {items : List Term} {first : Literal} {rest : List Literal}
      (hname : receiver.fieldName scope = .ok name) (hitems : values.displayed? = some items)
      (hvalues : items.mapM convert = .ok ((first :: rest).map .literal)) :
      Tests scope convert receiver values (.membership name ((first :: rest).map .literal))

/-- What a term is read as, if `part calls` reads a part that lies `calls` calls below. -/
inductive Reads (scope : Scope) (part : Nat → Term → Except Cause Tree) : Term → Tree → Prop
  | member {t : Term} {name : String} (hname : t.fieldName scope = .ok name) :
      Reads scope part t (.member name)
  | literal (value : Literal) : Reads scope part (.constant (.literal value)) (.literal value)
  | number {sign : Sign} {operand : Term} {value : Literal}
      (h : signedTree sign operand = .ok (.literal value)) :
      Reads scope part (.signed sign operand) (.literal value)
  | compare (c : Comparison) {left right : Term} {l r : Tree} (hl : part 1 left = .ok l)
      (hr : part 1 right = .ok r) :
      Reads scope part (.compare left [.compare c] [right]) (.compare c l r)
  | chain (op : Connective) {first : Term} {rest : List Term} {l : Tree} {rs : List Tree}
      (hfirst : part 0 first = .ok l) (hrest : rest.mapM (part 0) = .ok rs) :
      Reads scope part (.connective op first rest) (rs.foldl (Tree.connect op) l)
  | negation {operand : Term} {t : Tree} (h : part 1 operand = .ok t) :
      Reads scope part (.signed .not operand) t.negate
  | test {receiver values : Term} {t : Tree} (h : Tests scope (part 2) receiver values t) :
      Reads scope part (.compare receiver [.member false] [values]) t
  | negatedTest {receiver values : Term} {t : Tree} (h : Tests scope (part 2) receiver values t) :
      Reads scope part (.compare receiver [.member true] [values]) t.negate
  | testCall {receiver values : Term} {method : Text.Identifier} {t : Tree}
      (hmethod : Method.ofSpelling? method.text = some .membership)
      (h : Tests scope (part 2) receiver values t) :
      Reads scope part (.call (.access receiver method) [values] []) t
  | pattern {receiver : Term} {method : Text.Identifier} {m : Match} {name term : String}
      (hmethod : Method.ofSpelling? method.text = some (.pattern m))
      (hname : receiver.fieldName scope = .ok name) :
      Reads scope part
        (.call (.access receiver method) [.constant (.literal (.str term))] []) (.pattern m name term)

/-! ## 3. The parts of a step -/

section Parts

variable {scope : Scope} {convert : Term → Except Cause Tree}

/-- The operands of a chain are read one by one and joined from the left. -/
theorem foldlM_connect_eq_ok_iff {op : Connective} : ∀ {rest : List Term} {l t : Tree},
    rest.foldlM (fun left u => do return Tree.connect op left (← convert u)) l = .ok t ↔
      ∃ rs, rest.mapM convert = .ok rs ∧ t = rs.foldl (Tree.connect op) l
  | [], l, t => by
      constructor
      · intro h
        cases h
        exact ⟨[], rfl, rfl⟩
      · rintro ⟨rs, hrs, rfl⟩
        cases hrs
        rfl
  | u :: rest, l, t => by
      rw [List.foldlM_cons, List.mapM_cons]
      constructor
      · intro h
        obtain ⟨next, hnext, h⟩ := exists_of_bind_eq_ok h
        obtain ⟨r, hr, hnext⟩ := exists_of_bind_eq_ok hnext
        cases hnext
        obtain ⟨rs, hrs, rfl⟩ := foldlM_connect_eq_ok_iff.mp h
        refine ⟨r :: rs, ?_, rfl⟩
        rw [hr, hrs]
        rfl
      · rintro ⟨rs, hrs, rfl⟩
        obtain ⟨r, hr, hrs⟩ := exists_of_bind_eq_ok hrs
        obtain ⟨rest', hrest', hrs⟩ := exists_of_bind_eq_ok hrs
        cases hrs
        rw [hr]
        exact foldlM_connect_eq_ok_iff.mpr ⟨rest', hrest', rfl⟩

/-- The values of a membership test are read one by one, and each is a literal. -/
theorem mapM_checked_eq_ok_iff : ∀ {items : List Term} {ts : List Tree},
    (items.mapM fun item => do
      let t ← convert item
      if t.isLiteral then pure t else .error .membershipValue) = .ok ts ↔
      items.mapM convert = .ok ts ∧ ∃ vs : List Literal, ts = vs.map .literal
  | [], ts => by
      constructor
      · intro h
        cases h
        exact ⟨rfl, [], rfl⟩
      · intro h
        exact h.1
  | item :: items, ts => by
      rw [List.mapM_cons, List.mapM_cons]
      constructor
      · intro h
        obtain ⟨t, ht, h⟩ := exists_of_bind_eq_ok h
        obtain ⟨us, hus, h⟩ := exists_of_bind_eq_ok h
        cases h
        obtain ⟨hconverted, vs, rfl⟩ := mapM_checked_eq_ok_iff.mp hus
        obtain ⟨u, hu, ht⟩ := exists_of_bind_eq_ok ht
        cases u with
        | literal v =>
          cases ht
          rw [hu, hconverted]
          exact ⟨rfl, v :: vs, rfl⟩
        | _ => cases ht
      · rintro ⟨h, vs, rfl⟩
        obtain ⟨t, ht, h⟩ := exists_of_bind_eq_ok h
        obtain ⟨us, hus, h⟩ := exists_of_bind_eq_ok h
        cases vs with
        | nil => cases h
        | cons v vs =>
          cases h
          rw [ht, mapM_checked_eq_ok_iff.mpr ⟨hus, vs, rfl⟩]
          rfl

theorem membershipTree_eq_ok_iff {receiver values : Term} {t : Tree} :
    membershipTree scope convert receiver values = .ok t ↔ Tests scope convert receiver values t := by
  unfold membershipTree
  constructor
  · intro h
    obtain ⟨name, hname, h⟩ := exists_of_bind_eq_ok h
    split at h
    · cases h
    · cases h
    · rename_i items hne hitems
      obtain ⟨ts, hts, h⟩ := exists_of_bind_eq_ok h
      cases h
      obtain ⟨hconverted, vs, rfl⟩ := mapM_checked_eq_ok_iff.mp hts
      cases vs with
      | cons first rest => exact .membership hname hitems hconverted
      | nil =>
        cases items with
        | nil => exact absurd rfl hne
        | cons item items =>
          rw [List.mapM_cons] at hconverted
          obtain ⟨_, _, hconverted⟩ := exists_of_bind_eq_ok hconverted
          obtain ⟨_, _, hconverted⟩ := exists_of_bind_eq_ok hconverted
          cases hconverted
  · intro h
    cases h with
    | membership hname hitems hvalues =>
      rename_i name items first rest
      cases items with
      | nil => cases hvalues
      | cons item items =>
        rw [hname, hitems]
        have hchecked := mapM_checked_eq_ok_iff.mpr ⟨hvalues, first :: rest, rfl⟩
        exact congrArg (· >>= fun ts => Except.ok (Tree.membership name ts)) hchecked

theorem callTree_eq_ok_iff {part : Nat → Term → Except Cause Tree} {callee : Term}
    {positional named : List Term} {t : Tree} :
    callTree scope (part 2) callee positional named = .ok t ↔
      Reads scope part (.call callee positional named) t := by
  constructor
  · intro h
    unfold callTree at h
    split at h
    · split at h
      · cases h
      · rename_i m hmethod
        split at h
        · split at h
          · exact .testCall hmethod (membershipTree_eq_ok_iff.mp h)
          · obtain ⟨name, hname, h⟩ := exists_of_bind_eq_ok h
            split at h
            · cases h
              exact .pattern hmethod hname
            · cases h
        · cases h
    · cases h
  · intro h
    cases h with
    | member hname => cases hname
    | testCall hmethod h =>
      simp only [callTree, hmethod]
      exact membershipTree_eq_ok_iff.mpr h
    | pattern hmethod hname =>
      simp only [callTree, hmethod]
      rw [hname]
      rfl

/-- A sign stands before a constant, and makes a literal of it. -/
theorem exists_literal_of_signedTree {sign : Sign} {operand : Term} {t : Tree}
    (h : signedTree sign operand = .ok t) :
    ∃ constant value, operand = .constant constant ∧ t = .literal value := by
  unfold signedTree at h
  split at h
  · exact ⟨_, _, rfl, (Except.ok.inj h).symm⟩
  · exact ⟨_, _, rfl, (Except.ok.inj h).symm⟩
  · exact ⟨_, _, rfl, (Except.ok.inj h).symm⟩
  · exact ⟨_, _, rfl, (Except.ok.inj h).symm⟩
  · cases h

end Parts

/-! ## 4. Reading a term -/

/-- What one step of reading does. -/
theorem nodeTree_eq_ok_iff {scope : Scope} {part : Nat → Term → Except Cause Tree} {t : Term}
    {tree : Tree} : nodeTree scope part t = .ok tree ↔ Reads scope part t tree := by
  constructor
  · intro h
    unfold nodeTree at h
    split at h
    · obtain ⟨l, hl, h⟩ := exists_of_bind_eq_ok h
      obtain ⟨rs, hrs, rfl⟩ := foldlM_connect_eq_ok_iff.mp h
      exact .chain _ hl hrs
    · obtain ⟨u, hu, h⟩ := exists_of_bind_eq_ok h
      cases h
      exact .negation hu
    · obtain ⟨_, _, _, rfl⟩ := exists_literal_of_signedTree h
      exact .number h
    · split at h
      · exact .test (membershipTree_eq_ok_iff.mp h)
      · obtain ⟨u, hu, h⟩ := exists_of_bind_eq_ok h
        cases h
        exact .negatedTest (membershipTree_eq_ok_iff.mp hu)
      · cases h
      · obtain ⟨l, hl, h⟩ := exists_of_bind_eq_ok h
        obtain ⟨r, hr, h⟩ := exists_of_bind_eq_ok h
        cases h
        exact .compare _ hl hr
    · cases h
    · exact callTree_eq_ok_iff.mp h
    · obtain ⟨name, hname, h⟩ := exists_of_bind_eq_ok h
      cases h
      exact .member hname
    · obtain ⟨name, hname, h⟩ := exists_of_bind_eq_ok h
      cases h
      exact .member hname
    · obtain ⟨name, hname, h⟩ := exists_of_bind_eq_ok h
      cases h
      exact .member hname
    · rename_i value
      cases value with
      | literal v =>
        cases h
        exact .literal v
      | _ => cases h
    · cases h
    · cases h
  · intro h
    cases h with
    | member hname =>
      -- Only a name, an attribute or a subscript names a field.
      cases t with
      | name id =>
        rw [nodeTree, hname]
        rfl
      | access base field =>
        rw [nodeTree, hname]
        rfl
      | subscript base index =>
        rw [nodeTree, hname]
        rfl
      | _ => cases hname
    | literal value => rfl
    | number h =>
      rename_i sign operand value
      cases sign with
      | not => cases h
      | minus => exact h
      | plus => exact h
      | invert => exact h
    | compare c hl hr =>
      rw [nodeTree, hl, hr]
      rfl
    | chain op hfirst hrest =>
      rw [nodeTree, hfirst]
      exact foldlM_connect_eq_ok_iff.mpr ⟨_, hrest, rfl⟩
    | negation h =>
      rw [nodeTree, h]
      rfl
    | test h => exact membershipTree_eq_ok_iff.mpr h
    | negatedTest h =>
      rw [nodeTree, membershipTree_eq_ok_iff.mpr h]
      rfl
    | testCall hmethod h => exact callTree_eq_ok_iff.mpr (.testCall hmethod h)
    | pattern hmethod hname => exact callTree_eq_ok_iff.mpr (.pattern hmethod hname)

theorem toTree_succ (scope : Scope) (room : Nat) (t : Term) :
    toTree scope (room + 1) t = nodeTree scope (fun calls => toTree scope (room - calls)) t :=
  congrFun (within_succ room) t

/-- **Reading goes down one step at a time.** -/
theorem toTree_succ_eq_ok_iff {scope : Scope} {room : Nat} {t : Term} {tree : Tree} :
    toTree scope (room + 1) t = .ok tree ↔
      Reads scope (fun calls => toTree scope (room - calls)) t tree := by
  rw [toTree_succ, nodeTree_eq_ok_iff]

/-- **What every step passes on from the parts holds of all that is read.** -/
theorem toTree_induct {scope : Scope} {motive : Term → Tree → Prop}
    (step : ∀ (part : Nat → Term → Except Cause Tree) (t : Term) (tree : Tree),
      (∀ (calls : Nat) (u : Term), Yields (motive u) (part calls u)) → Reads scope part t tree →
        motive t tree) :
    ∀ {room : Nat} {t : Term} {tree : Tree}, toTree scope room t = .ok tree → motive t tree
  | 0, _, _, h => by cases h
  | room + 1, t, tree, h =>
      step (fun calls => toTree scope (room - calls)) t tree
        (fun _ _ _ hu => toTree_induct step hu) (toTree_succ_eq_ok_iff.mp h)

end BoundQuery.Term
