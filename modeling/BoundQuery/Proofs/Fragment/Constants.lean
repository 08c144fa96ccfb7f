import BoundQuery.Proofs.Fragment.Accepted
import BoundQuery.Proofs.Fragment.Agreement
import BoundQuery.Proofs.Fragment.Lambda
import BoundQuery.Proofs.Sql.Alignment

/-!
# Bound values follow the text

The values that a text binds are its constants, from left to right. `Term.constants` collects them from a
term without regard to whether it is a predicate: it goes through all parts of all forms in the order they
are written. That reading a term keeps them all and in order (`Term.leaves_of_toTree`) is shown by cases on
one step of reading; what is bound are then the leaves of the tree.

* `Constant.signed` – a constant after a sign;
* `Constant.matched` – a constant as the argument of a text match;
* `Term.constants` – the constants of a term as they are to be bound.
-/

namespace BoundQuery

open BoundQuery.Sql

/-! ## 1. The constants of a term -/

namespace Constant

/-- A constant after a sign, which is applied to a number. -/
def signed : Sign → Constant → Constant
  | .minus, .literal (.int n) => .literal (.int (-n))
  | .minus, .literal (.float x) => .literal (.float x.negate)
  | _, value => value

/-- A constant as the argument of a text match, which binds the pattern for a text. -/
def matched (m : Match) : Constant → Constant
  | .literal (.str term) => .literal (m.leaf term)
  | value => value

end Constant

namespace Term

/-- The text match that a term names as a method, if it does. -/
def match? : Term → Option Match
  | .access _ method =>
      match Method.ofSpelling? method.text with
      | some (.pattern m) => some m
      | _ => none
  | _ => none

mutual

/-- The constants of a term from left to right. The key of a subscript is no value. -/
def constants : Term → List Constant
  | .name _ => []
  | .access base _ => constants base
  | .subscript base (.constant (.literal (.str _))) => constants base
  | .subscript base index => constants base ++ constants index
  | .constant value => [value]
  | .connective _ first rest => constants first ++ (constantsEach rest).flatten
  | .signed sign (.constant value) => [value.signed sign]
  | .signed _ operand => constants operand
  | .compare left _ operands => constants left ++ (constantsEach operands).flatten
  | .call callee positional named =>
      constants callee ++ (constantsEach positional).flatten.map (callee.match?.elim id Constant.matched)
        ++ (constantsEach named).flatten
  | .list items => (constantsEach items).flatten
  | .tuple items => (constantsEach items).flatten
  | .set items => (constantsEach items).flatten
  | .dict keys values => (List.zipWith (· ++ ·) (constantsEach keys) (constantsEach values)).flatten
  | .lambda _ defaults keywordDefaults body =>
      (constantsEach defaults).flatten ++ (constantsEach keywordDefaults).flatten ++ constants body
  | .conditional test yes no => constants yes ++ constants test ++ constants no
  | .other _ parts => (constantsEach parts).flatten

/-- The constants of each of several terms. -/
def constantsEach : List Term → List (List Constant)
  | [] => []
  | t :: ts => constants t :: constantsEach ts

end

theorem constants_not (operand : Term) : (Term.signed .not operand).constants = operand.constants := by
  cases operand with
  | constant value =>
    rw [constants, constants]
    rfl
  | _ => rfl

theorem constants_of_displayed? {t : Term} {items : List Term} (h : t.displayed? = some items) :
    t.constants = (constantsEach items).flatten := by
  cases t with
  | list items' | tuple items' | set items' =>
    cases h
    rw [constants]
  | _ => cases h

theorem constants_of_path? (t : Term) {parts : List Text.Identifier}
    {path : Text.Identifier × List Text.Identifier} (h : t.path? parts = some path) :
    t.constants = [] := by
  cases t with
  | name id => rfl
  | access base field =>
    rw [constants]
    exact constants_of_path? base h
  | _ => cases h

/-- No constant of a term that names a field is a value. -/
theorem constants_of_fieldName {scope : Scope} {t : Term} {name : String}
    (h : t.fieldName scope = .ok name) : t.constants = [] := by
  cases fieldName_eq_ok_iff.mp h with
  | item u hkey => rfl
  | bare hpath => exact constants_of_path? t hpath
  | path hpath => exact constants_of_path? t hpath

theorem constants_of_signedTree {sign : Sign} {operand : Term} {value : Literal}
    (h : signedTree sign operand = .ok (.literal value)) :
    (Term.signed sign operand).constants = [.literal value] := by
  unfold signedTree at h
  split at h
  · cases h
    rfl
  · cases h
    rfl
  · cases h
    rfl
  · cases h
    rfl
  · cases h

end Term

/-! ## 2. The leaves of built trees -/

namespace Tree

@[simp] theorem leaves_compare (c : Comparison) (left right : Tree) :
    (compare c left right).leaves = left.leaves ++ right.leaves := by rw [compare, leaves]

@[simp] theorem leaves_connect (op : Connective) (left right : Tree) :
    (connect op left right).leaves = left.leaves ++ right.leaves := by rw [connect, leaves]

@[simp] theorem leaves_negate (t : Tree) : t.negate.leaves = t.leaves := by rw [negate, leaves]

theorem leaves_foldl_connect (op : Connective) : ∀ (rs : List Tree) (l : Tree),
    (rs.foldl (connect op) l).leaves = l.leaves ++ rs.flatMap leaves
  | [], l => by simp
  | r :: rs, l => by
      rw [List.foldl_cons, leaves_foldl_connect op rs, List.flatMap_cons, leaves_connect,
        List.append_assoc]

theorem flatMap_leaves_literals (vs : List Literal) : (vs.map Tree.literal).flatMap leaves = vs := by
  rw [List.flatMap_map]
  simp [leaves]

theorem leavesAll_eq_flatMap : ∀ ts : List Tree, leavesAll ts = ts.flatMap leaves
  | [] => rfl
  | t :: ts => by rw [leavesAll, leavesAll_eq_flatMap ts, List.flatMap_cons]

theorem leaves_membership_literals (name : String) (vs : List Literal) :
    (membership name (vs.map .literal)).leaves = vs := by
  have hcallee : Method.ofSpelling? membershipSpelling = some .membership :=
    Method.ofSpelling?_spelling .membership
  rw [membership, leaves_membership hcallee, leavesAll, leavesAll_eq_flatMap, flatMap_leaves_literals,
    leaves, List.nil_append]

theorem leaves_pattern_member (m : Match) (name term : String) :
    (pattern m name term).leaves = [m.leaf term] := by
  have hcallee : Method.ofSpelling? m.spelling = some (.pattern m) :=
    Method.ofSpelling?_spelling (.pattern m)
  rw [pattern, leaves_pattern hcallee, leaves, List.nil_append]

end Tree

/-! ## 3. Reading a term -/

namespace Term

section Steps

variable {scope : Scope} {convert : Term → Except Cause Tree}

theorem leaves_of_mapM : ∀ {ts : List Term} {rs : List Tree},
    (∀ t ∈ ts, ∀ r, convert t = .ok r → r.leaves.map .literal = t.constants) →
    ts.mapM convert = .ok rs →
      (rs.flatMap Tree.leaves).map .literal = (constantsEach ts).flatten
  | [], _, _, h => by
      cases h
      rfl
  | t :: ts, _, hread, h => by
      rw [List.mapM_cons] at h
      obtain ⟨r, hr, h⟩ := exists_of_bind_eq_ok h
      obtain ⟨rs, hrs, h⟩ := exists_of_bind_eq_ok h
      cases h
      have ih := leaves_of_mapM (fun u hu => hread u (List.mem_cons_of_mem _ hu)) hrs
      rw [List.flatMap_cons, List.map_append, ih, hread t List.mem_cons_self r hr, constantsEach,
        List.flatten_cons]

/-- The leaves of a membership test are its values. -/
theorem leaves_of_tests {receiver values : Term} {tree : Tree}
    (hread : ∀ t r, convert t = .ok r → r.leaves.map .literal = t.constants)
    (h : Tests scope convert receiver values tree) :
    receiver.constants = [] ∧ tree.leaves.map .literal = values.constants := by
  cases h with
  | membership hname hitems hvalues =>
    have hleaves := leaves_of_mapM (fun t _ => hread t) hvalues
    rw [Tree.flatMap_leaves_literals] at hleaves
    exact ⟨constants_of_fieldName hname,
      by rw [Tree.leaves_membership_literals, hleaves, constants_of_displayed? hitems]⟩

end Steps

/-- **Reading a term keeps its constants, in their order.** -/
theorem leaves_of_toTree {scope : Scope} {room : Nat} {t : Term} {tree : Tree}
    (h : toTree scope room t = .ok tree) : tree.leaves.map .literal = t.constants := by
  refine toTree_induct (motive := fun t tree => tree.leaves.map .literal = t.constants) ?_ h
  intro part t tree ih hread
  cases hread with
  | member hname => rw [constants_of_fieldName hname, Tree.leaves, List.map_nil]
  | literal value => rfl
  | number hsigned => rw [constants_of_signedTree hsigned, Tree.leaves, List.map_singleton]
  | compare c hl hr =>
    rw [Tree.leaves_compare, List.map_append, ih _ _ _ hl, ih _ _ _ hr, constants]
    simp [constantsEach]
  | chain op hfirst hrest =>
    rw [Tree.leaves_foldl_connect, List.map_append, ih _ _ _ hfirst,
      leaves_of_mapM (fun u _ => ih 0 u) hrest, constants]
  | negation hoperand => rw [Tree.leaves_negate, ih _ _ _ hoperand, constants_not]
  | test htest =>
    obtain ⟨hreceiver, hvalues⟩ := leaves_of_tests (ih 2) htest
    rw [hvalues, constants, hreceiver]
    simp [constantsEach]
  | negatedTest htest =>
    obtain ⟨hreceiver, hvalues⟩ := leaves_of_tests (ih 2) htest
    rw [Tree.leaves_negate, hvalues, constants, hreceiver]
    simp [constantsEach]
  | testCall hmethod htest =>
    obtain ⟨hreceiver, hvalues⟩ := leaves_of_tests (ih 2) htest
    rw [hvalues, constants, constants, hreceiver]
    simp [constantsEach, match?, hmethod]
  | pattern hmethod hname =>
    rw [Tree.leaves_pattern_member, constants, constants, constants_of_fieldName hname]
    simp [constantsEach, constants, match?, hmethod, Constant.matched]

end Term

/-! ## 4. Whole texts -/

/-- **The leaves of a text's predicate are its constants.** -/
theorem Fragment.leaves_of_text [Limits] {text : String} {tree : Tree}
    (h : (Fragment.text text).predicate = .ok tree) :
    ∃ t, TextFragment.term text = .ok t ∧ tree.leaves.map .literal = t.constants := by
  obtain ⟨t, scope, body, hterm, hbody, htree⟩ := exists_body_of_text h
  refine ⟨t, hterm, ?_⟩
  rw [Term.leaves_of_toTree htree]
  rcases hbody with rfl | ⟨u, rfl⟩
  · rfl
  · rw [Term.lambdaOf, Term.constants]
    rfl

namespace Sql.Generator

theorem generate_text [Limits] (g : Generator) {text : String} {tree : Tree}
    (h : (Fragment.text text).predicate = .ok tree) (bound : Array Literal) :
    g.generate false (.text text) bound =
      ((writeOnto g.style.place g.clause tree bound).1.mapError .compile,
        (writeOnto g.style.place g.clause tree bound).2) :=
  have hgiven : (Given.text text).fragment >>= Fragment.predicate = .ok tree := h
  generate_of_predicate g hgiven bound

theorem generate_text_eq_ok [Limits] {g : Generator} {text sql : String} {bound after : Array Literal}
    (h : g.generate false (.text text) bound = (.ok sql, after)) :
    ∃ tree, (Fragment.text text).predicate = .ok tree ∧ fault? Limits.writing tree = none := by
  cases hread : (Fragment.text text).predicate with
  | error failure =>
    have hgiven : (Given.text text).fragment >>= g.treeOf false = .error failure := hread
    rw [generate, hgiven] at h
    cases h
  | ok tree =>
    rw [generate_text g hread] at h
    refine ⟨tree, rfl, ?_⟩
    cases hfault : fault? Limits.writing tree with
    | none => rfl
    | some f =>
      obtain ⟨extra, hwritten⟩ := writeOnto_error hfault g.style.place g.clause
      rw [hwritten bound] at h
      cases h

/-- **The values that a text binds are its constants, from left to right, and each has one placeholder.**
    The texts around the placeholders are the same in every style and after any values bound before. -/
theorem generate_constants [Limits] (g : Generator) (text sql : String) (bound after : Array Literal)
    (h : g.generate false (.text text) bound = (.ok sql, after)) :
    ∃ (t : Term) (constants : List Literal) (first : String) (rest : List String),
      TextFragment.term text = .ok t ∧ t.constants = constants.map .literal ∧
      rest.length = constants.length ∧
      ∀ (g' : Generator) (bound' : Array Literal),
        g'.generate false (.text text) bound'
          = (.ok (first ++ interleave g'.style.place (bound'.size + 1) rest),
              bound' ++ constants.toArray) := by
  obtain ⟨tree, hread, hfault⟩ := generate_text_eq_ok h
  obtain ⟨t, hterm, hleaves⟩ := Fragment.leaves_of_text hread
  have hvalues : values tree.lexemes = tree.leaves := tree.values_lexemes Limits.writing hfault
  refine ⟨t, tree.leaves, (segments tree.lexemes).1, (segments tree.lexemes).2, hterm, hleaves.symm, ?_,
    ?_⟩
  · rw [length_segments, hvalues]
  · intro g' bound'
    rw [generate_text g' hread, writeOnto_ok hfault, spell_eq_interleave, hvalues]
    rfl

/-- A key, two signs, a constant on the left and a term that its pattern has to escape. -/
def scatteredText : String :=
  "lambda row: row['k'] in (+1, -2, None) and not (True == row.paid) and row.tag.endswith('5%')"

/-- The parameter of the text. -/
def scatteredRow : Text.Identifier := ⟨"row", by decide⟩

/-- The term of the text. -/
def scatteredTerm : Term :=
  .lambdaOf scatteredRow (.connective .and
    (.compare (.subscript (.name scatteredRow) (.constant (.literal (.str "k")))) [.member false]
      [.tuple [.signed .plus (.constant (.literal (.int 1))),
        .signed .minus (.constant (.literal (.int 2))), .constant (.literal .null)]])
    [.signed .not (.compare (.constant (.literal (.bool true))) [.compare .eq]
        [.access (.name scatteredRow) ⟨"paid", by decide⟩]),
      .call (.access (.access (.name scatteredRow) ⟨"tag", by decide⟩)
        (Phrase.methodName .ends))
        [.constant (.literal (.str "5%"))] []])

theorem reads_scattered : Phrase.reads scatteredText scatteredTerm := by decide +kernel

/-- The predicate of the text. -/
def scatteredTree : Tree :=
  .connect .and
    (.connect .and (.membership "k" [.literal (.int 1), .literal (.int (-2)), .literal .null])
      (.negate (.compare .eq (.literal (.bool true)) (.member "paid"))))
    (.pattern .ends "tag" "5%")

theorem generate_constants_scattered :
    generate ⟨Style.numeric, none⟩ false (.text scatteredText) #[.int 7]
        = (.ok "((k IN (:2, :3, :4) AND NOT :5 = paid) AND tag LIKE :6 ESCAPE '!')",
            #[.int 7, .int 1, .int (-2), .null, .bool true, .str "%5!%"]) ∧
      ∃ (t : Term) (constants : List Literal) (first : String) (rest : List String),
        TextFragment.term scatteredText = .ok t ∧ t.constants = constants.map .literal ∧
        rest.length = constants.length ∧
        generate ⟨Style.qmark, none⟩ false (.text scatteredText) #[]
          = (.ok (first ++ interleave Style.qmark.place 1 rest), #[] ++ constants.toArray) := by
  have hterm := Phrase.term_eq_of_reads reads_scattered
  have htree : scatteredTerm.predicate = .ok scatteredTree := rfl
  have hread : (Fragment.text scatteredText).predicate = .ok scatteredTree :=
    (Fragment.agree_predicate hterm _).mpr htree
  have hwritten : generate ⟨Style.numeric, none⟩ false (.text scatteredText) #[.int 7]
      = (.ok "((k IN (:2, :3, :4) AND NOT :5 = paid) AND tag LIKE :6 ESCAPE '!')",
          #[.int 7, .int 1, .int (-2), .null, .bool true, .str "%5!%"]) := by
    rw [generate_text _ hread]
    decide +kernel
  obtain ⟨t, constants, first, rest, ht, hconstants, hlength, hall⟩ :=
    generate_constants _ _ _ _ _ hwritten
  exact ⟨hwritten, t, constants, first, rest, ht, hconstants, hlength, hall ⟨Style.qmark, none⟩ #[]⟩

end Sql.Generator

end BoundQuery
