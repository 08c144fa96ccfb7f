import BoundQuery.Fragment.Basic
import BoundQuery.Proofs.Fragment.Reading
import BoundQuery.Proofs.Tree.Formed

/-!
# The trees of text fragments

The tree that a text fragment is read as is formed (`Fragment.formed_of_text`), and its fields have names
of identifiers and dots, as long as no subscript names a field by a text of its own
(`Fragment.formed_of_predicate`). The induction is one for both, over terms of any kind that passes to
their parts (`Term.Admits`).
-/

namespace BoundQuery

/-! ## 1. Terms without subscripts -/

namespace Term

mutual

/-- Whether a term has no subscript in it. -/
def subscriptFree : Term → Bool
  | .name _ => true
  | .access base _ => subscriptFree base
  | .subscript .. => false
  | .constant _ => true
  | .connective _ first rest => subscriptFree first && subscriptFreeAll rest
  | .signed _ operand => subscriptFree operand
  | .compare left _ operands => subscriptFree left && subscriptFreeAll operands
  | .call callee positional named =>
      subscriptFree callee && subscriptFreeAll positional && subscriptFreeAll named
  | .list items => subscriptFreeAll items
  | .tuple items => subscriptFreeAll items
  | .set items => subscriptFreeAll items
  | .dict keys values => subscriptFreeAll keys && subscriptFreeAll values
  | .lambda _ defaults keywordDefaults body =>
      subscriptFreeAll defaults && subscriptFreeAll keywordDefaults && subscriptFree body
  | .conditional test yes no => subscriptFree test && subscriptFree yes && subscriptFree no
  | .other _ parts => subscriptFreeAll parts

/-- Whether several terms have no subscript in them. -/
def subscriptFreeAll : List Term → Bool
  | [] => true
  | t :: ts => subscriptFree t && subscriptFreeAll ts

end

theorem subscriptFree_of_mem : ∀ {ts : List Term}, subscriptFreeAll ts = true →
    ∀ t ∈ ts, t.subscriptFree = true
  | t :: ts, h, u, hu => by
      rw [subscriptFreeAll, Bool.and_eq_true] at h
      rcases List.mem_cons.mp hu with rfl | hu
      · exact h.1
      · exact subscriptFree_of_mem h.2 u hu

end Term

/-- Whether no subscript is in a text that can be read. -/
def TextFragment.subscriptFree [Limits] (text : String) : Bool :=
  match TextFragment.term text with
  | .ok t => t.subscriptFree
  | .error _ => true

/-! ## 2. The trees of terms -/

namespace Term

theorem isFieldName_of_fieldName {scope : Scope} {t : Term} {name : String}
    (hfree : t.subscriptFree = true) (h : t.fieldName scope = .ok name) : IsFieldName name := by
  cases fieldName_eq_ok_iff.mp h with
  | item u hkey => cases hfree
  | bare hpath => exact ⟨_, _, rfl⟩
  | path hpath => exact ⟨_, _, rfl⟩

/-- The terms that a term is directly made of. -/
def parts : Term → List Term
  | .name _ => []
  | .access base _ => [base]
  | .subscript base index => [base, index]
  | .constant _ => []
  | .connective _ first rest => first :: rest
  | .signed _ operand => [operand]
  | .compare left _ operands => left :: operands
  | .call callee positional named => callee :: (positional ++ named)
  | .list items => items
  | .tuple items => items
  | .set items => items
  | .dict keys values => keys ++ values
  | .lambda _ defaults keywordDefaults body => body :: (defaults ++ keywordDefaults)
  | .conditional test yes no => [test, yes, no]
  | .other _ parts => parts

theorem subscriptFree_of_mem_parts {t u : Term} (h : t.subscriptFree = true) (hu : u ∈ t.parts) :
    u.subscriptFree = true := by
  cases t with
  | name id => cases hu
  | access base field =>
    obtain rfl := List.mem_singleton.mp hu
    simpa only [subscriptFree] using h
  | subscript base index => cases h
  | constant value => cases hu
  | connective op first rest =>
    simp only [subscriptFree, Bool.and_eq_true] at h
    rcases List.mem_cons.mp hu with rfl | hu
    · exact h.1
    · exact subscriptFree_of_mem h.2 u hu
  | signed sign operand =>
    obtain rfl := List.mem_singleton.mp hu
    simpa only [subscriptFree] using h
  | compare left relations operands =>
    simp only [subscriptFree, Bool.and_eq_true] at h
    rcases List.mem_cons.mp hu with rfl | hu
    · exact h.1
    · exact subscriptFree_of_mem h.2 u hu
  | call callee positional named =>
    simp only [subscriptFree, Bool.and_eq_true] at h
    rcases List.mem_cons.mp hu with rfl | hu
    · exact h.1.1
    · rcases List.mem_append.mp hu with hu | hu
      · exact subscriptFree_of_mem h.1.2 u hu
      · exact subscriptFree_of_mem h.2 u hu
  | list items => exact subscriptFree_of_mem (by simpa only [subscriptFree, parts] using h) u hu
  | tuple items => exact subscriptFree_of_mem (by simpa only [subscriptFree, parts] using h) u hu
  | set items => exact subscriptFree_of_mem (by simpa only [subscriptFree, parts] using h) u hu
  | dict keys values =>
    simp only [subscriptFree, Bool.and_eq_true] at h
    rcases List.mem_append.mp hu with hu | hu
    · exact subscriptFree_of_mem h.1 u hu
    · exact subscriptFree_of_mem h.2 u hu
  | lambda parameters defaults keywordDefaults body =>
    simp only [subscriptFree, Bool.and_eq_true] at h
    rcases List.mem_cons.mp hu with rfl | hu
    · exact h.2
    · rcases List.mem_append.mp hu with hu | hu
      · exact subscriptFree_of_mem h.1.1 u hu
      · exact subscriptFree_of_mem h.1.2 u hu
  | conditional test yes no =>
    simp only [subscriptFree, Bool.and_eq_true] at h
    simp only [parts, List.mem_cons, List.not_mem_nil, or_false] at hu
    rcases hu with rfl | rfl | rfl
    · exact h.1.1
    · exact h.1.2
    · exact h.2
  | other form terms => exact subscriptFree_of_mem (by simpa only [subscriptFree, parts] using h) u hu

/-- A term that fits passes this on to its parts, and a field that fits has a name that is `named`. -/
structure Admits (scope : Scope) (fits : Term → Prop) (named : String → Prop) : Prop where
  part : ∀ {t u : Term}, fits t → u ∈ t.parts → fits u
  name : ∀ {t : Term} {name : String}, fits t → t.fieldName scope = .ok name → named name

theorem admits_subscriptFree (scope : Scope) :
    Admits scope (fun t => t.subscriptFree = true) IsFieldName :=
  ⟨subscriptFree_of_mem_parts, isFieldName_of_fieldName⟩

theorem admits_all (scope : Scope) : Admits scope (fun _ => True) fun _ => True :=
  ⟨fun _ _ => trivial, fun _ _ => trivial⟩

section Formed

variable {scope : Scope} {fits : Term → Prop} {named : String → Prop}

theorem formed_of_tests (ha : Admits scope fits named) {convert : Term → Except Cause Tree}
    {receiver values : Term} {tree : Tree} (hfits : fits receiver)
    (h : Tests scope convert receiver values tree) : tree.Formed named := by
  cases h with
  | membership hname _ _ => exact .membership (ha.name hfits hname) _ _

theorem formed_foldl_connect (op : Connective) : ∀ {rs : List Tree} {l : Tree}, l.Formed named →
    (∀ r ∈ rs, r.Formed named) → (rs.foldl (Tree.connect op) l).Formed named
  | [], _, hl, _ => hl
  | r :: rs, l, hl, hrs => by
      have hconnect : (Tree.connect op l r).Formed named := .connect op hl (hrs r List.mem_cons_self)
      rw [List.foldl_cons]
      exact formed_foldl_connect op hconnect fun s hs => hrs s (List.mem_cons_of_mem _ hs)

/-- **The tree of a term is formed.** -/
theorem formed_of_toTree (ha : Admits scope fits named) {room : Nat} {t : Term} {tree : Tree}
    (hfits : fits t) (h : toTree scope room t = .ok tree) : tree.Formed named := by
  revert hfits
  refine toTree_induct (motive := fun t tree => fits t → tree.Formed named) ?_ h
  intro part t tree ih hread hfits
  have hpart {calls : Nat} {u : Term} (hu : u ∈ t.parts) : Yields (Tree.Formed named) (part calls u) :=
    fun s hs => ih calls u s hs (ha.part hfits hu)
  cases hread with
  | member hname => exact .member (ha.name hfits hname)
  | literal value => exact .literal value
  | number _ => exact .literal _
  | compare c hl hr =>
    exact .compare c (hpart (by simp [parts]) _ hl) (hpart (by simp [parts]) _ hr)
  | chain op hfirst hrest =>
    have hall := Yields.mapM (fun u hu => hpart (List.mem_cons_of_mem _ hu)) _ hrest
    exact formed_foldl_connect op (hpart List.mem_cons_self _ hfirst) hall
  | negation hu => exact .negate (hpart List.mem_cons_self _ hu)
  | test htest => exact formed_of_tests ha (ha.part hfits (by simp [parts])) htest
  | negatedTest htest =>
    exact .negate (formed_of_tests ha (ha.part hfits (by simp [parts])) htest)
  | testCall _ htest =>
    have hcallee := ha.part hfits List.mem_cons_self
    exact formed_of_tests ha (ha.part hcallee List.mem_cons_self) htest
  | pattern _ hname =>
    have hcallee := ha.part hfits List.mem_cons_self
    exact .pattern _ (ha.name (ha.part hcallee List.mem_cons_self) hname) _

/-- The predicate of a term is the tree of what the term opens, if that is no single literal. -/
theorem predicate_eq_ok_iff [Limits] {t body : Term} {tree : Tree}
    (hopened : t.opened = .ok (scope, body)) :
    t.predicate = .ok tree ↔ body.toTree scope Limits.reading = .ok tree ∧ tree.isLiteral = false := by
  rw [predicate, hopened]
  change Failure.lift (body.toTree scope Limits.reading) >>= _ = _ ↔ _
  cases body.toTree scope Limits.reading with
  | error cause =>
    constructor
    · intro h
      cases h
    · intro h
      cases h.1
  | ok s =>
    constructor
    · intro h
      cases s with
      | literal value => cases h
      | _ =>
        cases h
        exact ⟨rfl, rfl⟩
    · rintro ⟨h, hliteral⟩
      cases h
      cases tree with
      | literal value => cases hliteral
      | _ => rfl

theorem exists_toTree_of_predicate [Limits] {t : Term} {tree : Tree} (h : t.predicate = .ok tree) :
    ∃ scope body, t.opened = .ok (scope, body) ∧ body.toTree scope Limits.reading = .ok tree := by
  obtain ⟨⟨scope, body⟩, hopened, _⟩ := exists_of_bind_eq_ok h
  have hopened := Failure.eq_ok_of_lift hopened
  exact ⟨scope, body, hopened, ((predicate_eq_ok_iff hopened).mp h).1⟩

/-- What a term opens fits if the term does. -/
theorem fits_of_opened (ha : Admits scope fits named) {t body : Term} (hfits : fits t)
    (h : t.opened = .ok (scope, body)) : fits body := by
  unfold opened at h
  split at h
  · split at h
    · cases h
      exact ha.part hfits (by simp [parts])
    · cases h
  · cases h
    exact hfits

theorem formed_of_predicate [Limits] (ha : ∀ scope, Admits scope fits named) {t : Term} {tree : Tree}
    (hfits : fits t) (h : t.predicate = .ok tree) : tree.Formed named := by
  obtain ⟨scope, body, hopened, htree⟩ := exists_toTree_of_predicate h
  exact formed_of_toTree (ha scope) (fits_of_opened (ha scope) hfits hopened) htree

end Formed

end Term

/-! ## 3. Whole fragments -/

/-- The lambda of one parameter. -/
def Term.lambdaOf (u : Text.Identifier) (body : Term) : Term :=
  .lambda ⟨[], [u], none, [], none⟩ [] [] body

theorem Fragment.eq_ok_of_rejecting {α : Type} {f : Fragment} {outcome : Except Failure α} {a : α}
    (h : f.rejecting outcome = .ok a) : outcome = .ok a := by
  unfold rejecting at h
  split at h
  · exact h
  · obtain ⟨_, _, h⟩ := exists_of_bind_eq_ok h
    cases h
  · cases h

theorem Fragment.agree_rejecting {α : Type} (f : Fragment) (outcome : Except Failure α) :
    Agree (f.rejecting outcome) outcome := by
  intro a
  constructor
  · exact eq_ok_of_rejecting
  · intro h
    rw [h]
    rfl

/-- A callable of one parameter gives what its body gives. -/
theorem Callable.call_eq_ok {c : Callable} {v : Value} (hrun : c.body.run = .ok v)
    (hrequired : ∀ count ∈ c.required, count = 1) : c.call = .ok v := by
  unfold call
  rw [hrun]
  split
  · rename_i count hcount
    rw [if_pos (hrequired count hcount)]
    rfl
  · rfl

/-- A callable gives only what its body gives. -/
theorem Fragment.yields_call {p : Value → Prop} {c : Callable} (h : Yields p c.body.run) :
    Yields p c.call := by
  have hrun : Yields p (c.body.run.mapError (·.within c.description)) :=
    fun v hv => h v (eq_ok_of_mapError hv)
  unfold Callable.call
  split
  · split
    · exact hrun
    · exact .error _
  · exact hrun

section TextAgrees

variable [Limits] {text : String} {t : Term}

/-- A text is accepted as what the term is accepted as that is read from it. -/
theorem Fragment.agree_predicate (h : TextFragment.term text = .ok t) :
    Agree (Fragment.text text).predicate t.predicate := by
  have hread : TextFragment.predicate text = t.predicate := by
    rw [TextFragment.predicate, h]
    rfl
  rw [← hread]
  exact agree_rejecting _ _

theorem Fragment.agree_key (h : TextFragment.term text = .ok t) :
    Agree (Fragment.text text).key t.key := by
  have hread : TextFragment.key text = t.key := by
    rw [TextFragment.key, h]
    rfl
  rw [← hread]
  exact agree_rejecting _ _

theorem Fragment.agree_selector (h : TextFragment.term text = .ok t) :
    Agree (Fragment.text text).selector t.selector := by
  have hread : TextFragment.selector text = t.selector := by
    rw [TextFragment.selector, h]
    rfl
  rw [← hread]
  exact agree_rejecting _ _

end TextAgrees

/-- The tree of a text fragment is that of the term that is read from it. -/
theorem Fragment.exists_term_of_predicate [Limits] {text : String} {tree : Tree}
    (h : (Fragment.text text).predicate = .ok tree) :
    ∃ t, TextFragment.term text = .ok t ∧ t.predicate = .ok tree := by
  have hpredicate : TextFragment.predicate text = .ok tree := eq_ok_of_rejecting h
  obtain ⟨t, ht, hpredicate⟩ := exists_of_bind_eq_ok hpredicate
  exact ⟨t, Failure.eq_ok_of_lift ht, hpredicate⟩

/-- **The tree of a text fragment without subscripts is formed, and its fields have names of
    identifiers and dots.** -/
theorem Fragment.formed_of_predicate [Limits] {text : String} {tree : Tree}
    (hfree : TextFragment.subscriptFree text = true) (h : (Fragment.text text).predicate = .ok tree) :
    tree.Formed IsFieldName := by
  obtain ⟨t, hterm, hpredicate⟩ := exists_term_of_predicate h
  rw [TextFragment.subscriptFree, hterm] at hfree
  exact Term.formed_of_predicate Term.admits_subscriptFree hfree hpredicate

/-- **The tree of any text fragment is formed.** -/
theorem Fragment.formed_of_text [Limits] {text : String} {tree : Tree}
    (h : (Fragment.text text).predicate = .ok tree) : tree.Formed fun _ => True := by
  obtain ⟨t, _, hpredicate⟩ := exists_term_of_predicate h
  exact Term.formed_of_predicate Term.admits_all trivial hpredicate

end BoundQuery
