import BoundQuery.Proofs.Fragment.Phrase
import BoundQuery.Proofs.Fragment.TextTree
import BoundQuery.Proofs.Sql.ReadBack

/-!
# The trees that lambdas are read as

The predicate of a lambda is a formed tree that is no single literal, and whose fields have names that are not
empty. These are all conditions: every such tree is what some lambda is read as, unless it is nested too
deeply (`Term.image_of_lambdas`).

* `Tree.readingDepth` – how many calls must be nested to read a term as a tree, which is how many need be:
  a chain of one connective is read in one step, and so are a membership test and its negation;
* `Term.readingDepth_le` – no term is read as a tree that takes more room than there is;
* `Term.Writes` – a term that is read as a tree as soon as there is room, with one lemma for each form of
  tree and `Term.exists_writes` for all of them.
-/

namespace BoundQuery

/-! ## 1. How deep a tree is to read -/

namespace Tree

/-- Whether a tree is made of two others by the connective `operator`. -/
def joinedBy (operator : String) : Tree → Bool
  | .logical o _ _ => o == operator
  | _ => false

/-- Whether a tree is a membership test. -/
def isMembership : Tree → Bool
  | .call callee _ => callee == membershipSpelling
  | _ => false

/-- How many calls are nested in reading a term as a tree, at the least. What a chain goes on with and what
    `not in` negates is read in the same step. -/
def readingDepth : Tree → Nat
  | .member _ => 1
  | .literal _ => 1
  | .binary _ left right => max (readingDepth left) (readingDepth right) + 2
  | .logical operator left right =>
      max (readingDepth left - if left.joinedBy operator then 1 else 0) (readingDepth right) + 1
  | .unary _ operand => (readingDepth operand - if operand.isMembership then 2 else 0) + 2
  | .call callee _ => if callee = membershipSpelling then 4 else 1

theorem readingDepth_pos (t : Tree) : 0 < t.readingDepth := by
  cases t with
  | call callee arguments =>
    rw [readingDepth]
    split <;> omega
  | _ => simp [readingDepth]

@[simp] theorem readingDepth_member (name : String) : (Tree.member name).readingDepth = 1 := rfl

@[simp] theorem readingDepth_literal (value : Literal) : (Tree.literal value).readingDepth = 1 := rfl

@[simp] theorem readingDepth_compare (c : Comparison) (left right : Tree) :
    (Tree.compare c left right).readingDepth
      = max left.readingDepth right.readingDepth + 2 := rfl

@[simp] theorem readingDepth_connect (op : Connective) (left right : Tree) :
    (Tree.connect op left right).readingDepth
      = max (left.readingDepth - if left.joinedBy op.spelling then 1 else 0) right.readingDepth + 1 :=
  rfl

@[simp] theorem readingDepth_negate (t : Tree) :
    t.negate.readingDepth = (t.readingDepth - if t.isMembership then 2 else 0) + 2 := rfl

@[simp] theorem readingDepth_membership (name : String) (values : List Tree) :
    (Tree.membership name values).readingDepth = 4 := if_pos rfl

@[simp] theorem readingDepth_pattern (m : Match) (name term : String) :
    (Tree.pattern m name term).readingDepth = 1 := by
  cases m <;> rfl

@[simp] theorem joinedBy_connect (op : Connective) (left right : Tree) :
    (Tree.connect op left right).joinedBy op.spelling = true := beq_self_eq_true _

/-- A tree that can be a whole predicate of a text: it is formed, its fields have names that are not empty,
    and it is no single literal. -/
def IsPredicate (t : Tree) : Prop := (t.Formed fun name => name ≠ "") ∧ t.isLiteral = false

/-- A chain takes one call more than its operands. -/
theorem readingDepth_foldl_connect (op : Connective) {room : Nat} : ∀ {rs : List Tree} {l : Tree},
    (l.readingDepth - if l.joinedBy op.spelling then 1 else 0) ≤ room →
    (∀ r ∈ rs, r.readingDepth ≤ room) → (rs.foldl (connect op) l).readingDepth ≤ room + 1
  | [], l, hl, _ => by
      rw [List.foldl_nil]
      split at hl <;> omega
  | r :: rs, l, hl, hrs => by
      have hr : r.readingDepth ≤ room := hrs r List.mem_cons_self
      rw [List.foldl_cons]
      refine readingDepth_foldl_connect op ?_ fun s hs => hrs s (List.mem_cons_of_mem _ hs)
      rw [joinedBy_connect, if_pos rfl, readingDepth_connect, Nat.add_sub_cancel]
      exact Nat.max_le.mpr ⟨hl, hr⟩

end Tree

/-! ## 2. What a term is read as -/

namespace Term

section Sound

variable {scope : Scope}

theorem fieldName_ne_empty {t : Term} {name : String} (h : t.fieldName scope = .ok name) :
    name ≠ "" := by
  have hjoined (first : Text.Identifier) (rest : List Text.Identifier) :
      joined (first :: rest) ≠ "" := by
    have hname : IsFieldName (joined (first :: rest)) := ⟨first, rest, rfl⟩
    intro hempty
    rw [hempty] at hname
    exact Sql.toList_ne_nil_of_isFieldName hname rfl
  cases fieldName_eq_ok_iff.mp h with
  | item u hkey => exact hkey
  | bare hpath => exact hjoined _ _
  | path hpath => exact hjoined _ _

theorem admits_nonempty (scope : Scope) : Admits scope (fun _ => True) fun name => name ≠ "" :=
  ⟨fun _ _ => trivial, fun _ => fieldName_ne_empty⟩

/-- A membership test has a value at least, which takes room to be read. -/
theorem Tests.room_pos {room : Nat} {receiver values : Term} {t : Tree}
    (h : Tests scope (toTree scope room) receiver values t) :
    0 < room ∧ t.isMembership = true ∧ t.readingDepth = 4 := by
  cases h with
  | membership hname hitems hvalues =>
    rename_i name items first rest
    refine ⟨Nat.pos_of_ne_zero fun hroom => ?_, rfl, rfl⟩
    subst hroom
    cases items with
    | nil => cases hvalues
    | cons item items =>
      rw [List.mapM_cons] at hvalues
      cases hvalues

/-- **No term is read as a tree that takes more room than there is.** -/
theorem readingDepth_le : ∀ {room : Nat} {t : Term} {tree : Tree},
    toTree scope room t = .ok tree → tree.readingDepth ≤ room
  | 0, _, _, h => by cases h
  | room + 1, t, tree, h => by
      have ih (calls : Nat) (u : Term) :
          Yields (fun tree : Tree => tree.readingDepth + calls ≤ room) (toTree scope (room - calls) u) := by
        intro tree hu
        have hdepth := readingDepth_le hu
        have hpos := tree.readingDepth_pos
        omega
      cases toTree_succ_eq_ok_iff.mp h with
      | member hname => simp
      | literal value => simp
      | number h => simp
      | compare c hl hr =>
        have hleft := ih 1 _ _ hl
        have hright := ih 1 _ _ hr
        rw [Tree.readingDepth_compare]
        omega
      | chain op hfirst hrest =>
        have hall := Yields.mapM (fun u _ => ih 0 u) _ hrest
        have hleft := ih 0 _ _ hfirst
        refine Tree.readingDepth_foldl_connect op ?_ hall
        omega
      | negation hu =>
        have hoperand := ih 1 _ _ hu
        rw [Tree.readingDepth_negate]
        omega
      | test htest =>
        obtain ⟨hroom, -, hdepth⟩ := htest.room_pos
        omega
      | negatedTest htest =>
        obtain ⟨hroom, hmembership, hdepth⟩ := htest.room_pos
        rw [Tree.readingDepth_negate, hmembership, if_pos rfl, hdepth]
        omega
      | testCall _ htest =>
        obtain ⟨hroom, -, hdepth⟩ := htest.room_pos
        omega
      | pattern _ hname => simp

end Sound

/-! ## 3. Terms that texts have -/

mutual

/-- Whether a term is as a text is read: a number has no sign but the one before it, a chain has two
    operands at least, a comparison has an operand for each relation and one relation at least, and a
    dictionary display has a value for each key. -/
def regular : Term → Bool
  | .name _ => true
  | .access base _ => regular base
  | .subscript base index => regular base && regular index
  | .constant (.literal (.int n)) => decide (0 ≤ n)
  | .constant (.literal (.float x)) => !x.isNegative
  | .constant (.imaginary x) => !x.isNegative
  | .constant _ => true
  | .connective _ first rest => !rest.isEmpty && regular first && regularAll rest
  | .signed _ operand => regular operand
  | .compare left relations operands =>
      !relations.isEmpty && relations.length == operands.length && regular left && regularAll operands
  | .call callee positional named => regular callee && regularAll positional && regularAll named
  | .list items => regularAll items
  | .tuple items => regularAll items
  | .set items => regularAll items
  | .dict keys values => keys.length == values.length && regularAll keys && regularAll values
  | .lambda _ defaults keywordDefaults body =>
      regularAll defaults && regularAll keywordDefaults && regular body
  | .conditional test yes no => regular test && regular yes && regular no
  | .other _ parts => regularAll parts

/-- Whether several terms are as texts are read. -/
def regularAll : List Term → Bool
  | [] => true
  | t :: ts => regular t && regularAll ts

end

theorem regularAll_eq_all : ∀ ts : List Term, regularAll ts = ts.all regular
  | [] => rfl
  | t :: ts => by rw [regularAll, regularAll_eq_all ts, List.all_cons]

theorem depthAll_append : ∀ as bs : List Term, depthAll (as ++ bs) = max (depthAll as) (depthAll bs)
  | [], bs => by simp [depthAll]
  | a :: as, bs => by rw [List.cons_append, depthAll, depthAll_append as bs, depthAll, Nat.max_assoc]

/-! ## 4. Terms for trees -/

/-- The term of a literal: a negative number is a positive one behind a minus sign. -/
def ofLiteral : Literal → Term
  | .int n =>
      if n < 0 then .signed .minus (.constant (.literal (.int (-n)))) else .constant (.literal (.int n))
  | .float x =>
      if x.isNegative then .signed .minus (.constant (.literal (.float x.negate)))
      else .constant (.literal (.float x))
  | value => .constant (.literal value)

theorem regular_ofLiteral (value : Literal) : (ofLiteral value).regular = true := by
  cases value with
  | int n =>
    simp only [ofLiteral]
    split <;> simp only [regular, decide_eq_true_eq] <;> omega
  | float x =>
    simp only [ofLiteral]
    split
    · rename_i hnegative
      cases x <;> simp_all [regular, Binary64.isNegative, Binary64.negate]
    · rename_i hpositive
      simpa [regular] using hpositive
  | _ => rfl

theorem depth_ofLiteral (value : Literal) : (ofLiteral value).depth ≤ 2 := by
  cases value with
  | int n =>
    simp only [ofLiteral]
    split <;> simp [depth]
  | float x =>
    simp only [ofLiteral]
    split <;> simp [depth]
  | _ => simp [ofLiteral, depth]

theorem regularAll_ofLiteral (vs : List Literal) : regularAll (vs.map ofLiteral) = true := by
  rw [regularAll_eq_all, List.all_map, List.all_eq_true]
  exact fun v _ => regular_ofLiteral v

theorem depthAll_ofLiteral : ∀ vs : List Literal, depthAll (vs.map ofLiteral) ≤ 2
  | [] => by simp [depthAll]
  | v :: vs => by
      rw [List.map_cons, depthAll]
      exact Nat.max_le.mpr ⟨depth_ofLiteral v, depthAll_ofLiteral vs⟩

/-- A term that is read as a tree as soon as there is room, and is not nested much deeper than that. A
    chain and a membership test are written so that they can be gone on with and negated in one step. -/
structure Writes (u : Text.Identifier) (e : Term) (t : Tree) : Prop where
  read : ∀ room, t.readingDepth ≤ room → e.toTree (some u) room = .ok t
  chain : ∀ op : Connective, t.joinedBy op.spelling = true → ∃ first rest, e = .connective op first rest
  test : t.isMembership = true → ∃ receiver values, e = .compare receiver [.member false] [values]
  regular : e.regular = true
  depth : e.depth ≤ t.readingDepth + 3

section Writes

variable {u : Text.Identifier}

/-- What there is room for is read, if it is read whenever there is room for its first step. -/
theorem read_of_step {e : Term} {t : Tree}
    (h : ∀ room, t.readingDepth ≤ room + 1 → e.toTree (some u) (room + 1) = .ok t) (room : Nat)
    (hroom : t.readingDepth ≤ room) : e.toTree (some u) room = .ok t := by
  cases room with
  | zero => exact absurd hroom (Nat.not_le_of_lt t.readingDepth_pos)
  | succ room => exact h room hroom

/-- The item of a field. -/
def item (u : Text.Identifier) (name : String) : Term :=
  .subscript (.name u) (.constant (.literal (.str name)))

theorem fieldName_item {name : String} (hname : name ≠ "") :
    (item u name).fieldName (some u) = .ok name := fieldName_eq_ok_iff.mpr (.item u hname)

theorem writes_member {name : String} (hname : name ≠ "") : Writes u (item u name) (.member name) where
  read := read_of_step fun _ _ => toTree_succ_eq_ok_iff.mpr (.member (fieldName_item hname))
  chain _ h := by cases h
  test h := by cases h
  regular := rfl
  depth := by simp [item, Term.depth]

theorem writes_literal (value : Literal) : Writes u (ofLiteral value) (.literal value) where
  read := by
    refine read_of_step fun _ _ => toTree_succ_eq_ok_iff.mpr ?_
    cases value with
    | int n =>
      simp only [ofLiteral]
      split
      · exact .number (by simp [signedTree])
      · exact .literal _
    | float x =>
      simp only [ofLiteral]
      split
      · exact .number (by simp [signedTree])
      · exact .literal _
    | _ => exact .literal _
  chain _ h := by cases h
  test h := by cases h
  regular := regular_ofLiteral value
  depth := by
    have hdepth := depth_ofLiteral value
    rw [Tree.readingDepth_literal]
    omega

theorem Writes.compare (c : Comparison) {e e' : Term} {left right : Tree} (hl : Writes u e left)
    (hr : Writes u e' right) :
    Writes u (.compare e [.compare c] [e']) (.compare c left right) where
  read := by
    refine read_of_step fun room hroom => toTree_succ_eq_ok_iff.mpr ?_
    rw [Tree.readingDepth_compare] at hroom
    exact .compare c (hl.read (room - 1) (by omega)) (hr.read (room - 1) (by omega))
  chain _ h := by cases h
  test h := by cases h
  regular := by simp [Term.regular, regularAll, hl.regular, hr.regular]
  depth := by
    have hleft := hl.depth
    have hright := hr.depth
    simp only [Term.depth, depthAll, Tree.readingDepth_compare]
    omega

theorem eq_of_joinedBy_connect {op op' : Connective} {left right : Tree}
    (h : (Tree.connect op left right).joinedBy op'.spelling = true) : op' = op := by
  cases op <;> cases op' <;> first | rfl | cases h

/-- One more operand of a chain is read in the same step. -/
theorem toTree_snoc {scope : Scope} {room : Nat} {op : Connective} {first : Term} {rest : List Term}
    {e : Term} {l r : Tree} (hl : toTree scope (room + 1) (.connective op first rest) = .ok l)
    (hr : toTree scope room e = .ok r) :
    toTree scope (room + 1) (.connective op first (rest ++ [e])) = .ok (.connect op l r) := by
  cases toTree_succ_eq_ok_iff.mp hl with
  | member hname => cases hname
  | chain _ hfirst hrest =>
    rename_i l rs
    have hall : (rest ++ [e]).mapM (toTree scope (room - 0)) = .ok (rs ++ [r]) := by
      rw [List.mapM_append, hrest, List.mapM_cons, Nat.sub_zero, hr]
      rfl
    have hchain : Reads scope (fun calls => toTree scope (room - calls))
        (.connective op first (rest ++ [e])) _ := .chain op hfirst hall
    rw [List.foldl_append] at hchain
    exact toTree_succ_eq_ok_iff.mpr hchain

/-- A chain of the same connective goes on, and anything else starts a chain. -/
theorem Writes.connect (op : Connective) {e e' : Term} {left right : Tree} (hl : Writes u e left)
    (hr : Writes u e' right) : ∃ e'', Writes u e'' (.connect op left right) := by
  have hdepth := hl.depth
  have hdepth' := hr.depth
  cases hjoined : left.joinedBy op.spelling with
  | true =>
    obtain ⟨first, rest, rfl⟩ := hl.chain op hjoined
    refine ⟨.connective op first (rest ++ [e']), ?_, ?_, fun h => (by cases h), ?_, ?_⟩
    · refine read_of_step fun room hroom => ?_
      rw [Tree.readingDepth_connect, hjoined, if_pos rfl] at hroom
      exact toTree_snoc (hl.read (room + 1) (by omega)) (hr.read room (by omega))
    · intro op' h
      obtain rfl := eq_of_joinedBy_connect h
      exact ⟨first, rest ++ [e'], rfl⟩
    · have hregular := hl.regular
      simp only [Term.regular, regularAll_eq_all, Bool.and_eq_true, List.all_append] at hregular ⊢
      simp [hregular.1.2, hregular.2, hr.regular]
    · rw [Tree.readingDepth_connect, hjoined, if_pos rfl]
      simp only [Term.depth, depthAll_append, depthAll] at hdepth ⊢
      omega
  | false =>
    refine ⟨.connective op e [e'], ?_, ?_, fun h => (by cases h), ?_, ?_⟩
    · refine read_of_step fun room hroom => toTree_succ_eq_ok_iff.mpr ?_
      rw [Tree.readingDepth_connect, hjoined] at hroom
      have hright : [e'].mapM (toTree (some u) (room - 0)) = .ok [right] := by
        rw [List.mapM_cons, hr.read (room - 0) (by omega)]
        rfl
      have hchain : Reads (some u) (fun calls => toTree (some u) (room - calls))
          (.connective op e [e']) _ :=
        .chain op (hl.read (room - 0) (by simp at hroom; omega)) hright
      exact hchain
    · intro op' h
      obtain rfl := eq_of_joinedBy_connect h
      exact ⟨e, [e'], rfl⟩
    · simp [Term.regular, regularAll, hl.regular, hr.regular]
    · simp only [Tree.readingDepth_connect, hjoined, Term.depth, depthAll]
      simp
      omega

/-- A membership test is negated in the same step, and anything else in one more. -/
theorem Writes.negate {e : Term} {t : Tree} (h : Writes u e t) : ∃ e', Writes u e' t.negate := by
  have hdepth := h.depth
  cases hmembership : t.isMembership with
  | true =>
    obtain ⟨receiver, values, rfl⟩ := h.test hmembership
    refine ⟨.compare receiver [.member true] [values], ?_, fun _ h => (by cases h),
      fun h => (by cases h), ?_, ?_⟩
    · refine read_of_step fun room hroom => toTree_succ_eq_ok_iff.mpr ?_
      rw [Tree.readingDepth_negate, hmembership, if_pos rfl] at hroom
      cases toTree_succ_eq_ok_iff.mp (h.read (room + 1) (by omega)) with
      | member hname => cases hname
      | test htest => exact .negatedTest htest
    · exact h.regular
    · rw [Tree.readingDepth_negate, hmembership, if_pos rfl]
      simp only [Term.depth] at hdepth ⊢
      omega
  | false =>
    refine ⟨.signed .not e, ?_, fun _ h => (by cases h), fun h => (by cases h), h.regular, ?_⟩
    · refine read_of_step fun room hroom => toTree_succ_eq_ok_iff.mpr ?_
      rw [Tree.readingDepth_negate, hmembership] at hroom
      exact .negation (h.read (room - 1) (by simp at hroom; omega))
    · simp only [Tree.readingDepth_negate, hmembership, Term.depth]
      simp
      omega

theorem mapM_ofLiteral {room : Nat} (hroom : 0 < room) : ∀ vs : List Literal,
    (vs.map ofLiteral).mapM (toTree (some u) room) = .ok (vs.map .literal)
  | [] => rfl
  | v :: vs => by
      have hv : (ofLiteral v).toTree (some u) room = .ok (.literal v) := (writes_literal v).read room hroom
      rw [List.map_cons, List.mapM_cons, hv, mapM_ofLiteral hroom vs]
      rfl

theorem writes_membership {name : String} (hname : name ≠ "") (first : Literal) (rest : List Literal) :
    Writes u (.compare (item u name) [.member false] [.list ((first :: rest).map ofLiteral)])
      (.membership name ((first :: rest).map .literal)) where
  read := by
    refine read_of_step fun room hroom => toTree_succ_eq_ok_iff.mpr (.test ?_)
    rw [Tree.readingDepth_membership] at hroom
    exact .membership (fieldName_item hname) rfl (mapM_ofLiteral (by omega) (first :: rest))
  chain _ h := by cases h
  test _ := ⟨_, _, rfl⟩
  regular := by
    simp only [Term.regular, regularAll, regularAll_ofLiteral]
    rfl
  depth := by
    have hvalues := depthAll_ofLiteral (first :: rest)
    simp only [Term.depth, depthAll, item, Tree.readingDepth_membership]
    omega

theorem writes_pattern (m : Match) {name : String} (hname : name ≠ "") (term : String) :
    Writes u (.call (.access (item u name) (Phrase.methodName m)) [.constant (.literal (.str term))] [])
      (.pattern m name term) where
  read := by
    have hmethod : Method.ofSpelling? (Phrase.methodName m).text = some (.pattern m) :=
      Method.ofSpelling?_spelling (.pattern m)
    refine read_of_step fun room _ => toTree_succ_eq_ok_iff.mpr ?_
    exact .pattern hmethod (fieldName_item hname)
  chain _ h := by cases h
  test h := by cases m <;> cases h
  regular := rfl
  depth := by simp [Term.depth, depthAll, item]

/-- **Every formed tree is written by a term.** -/
theorem exists_writes (u : Text.Identifier) {t : Tree} (ht : t.Formed fun name => name ≠ "") :
    ∃ e, Writes u e t := by
  induction ht with
  | member hname => exact ⟨_, writes_member hname⟩
  | literal value => exact ⟨_, writes_literal value⟩
  | compare c _ _ ihl ihr =>
    obtain ⟨e, he⟩ := ihl
    obtain ⟨e', he'⟩ := ihr
    exact ⟨_, he.compare c he'⟩
  | connect op _ _ ihl ihr =>
    obtain ⟨e, he⟩ := ihl
    obtain ⟨e', he'⟩ := ihr
    exact he.connect op he'
  | negate _ ih =>
    obtain ⟨e, he⟩ := ih
    exact he.negate
  | membership hname first rest => exact ⟨_, writes_membership hname first rest⟩
  | pattern m hname term => exact ⟨_, writes_pattern m hname term⟩

end Writes

/-! ## 5. The image -/

/-- The lambda over a term is the predicate that the term is, if that is no single literal. -/
theorem predicate_lambdaOf_eq_ok_iff [Limits] {u : Text.Identifier} {body : Term} {t : Tree} :
    (lambdaOf u body).predicate = .ok t ↔
      body.toTree (some u) Limits.reading = .ok t ∧ t.isLiteral = false :=
  predicate_eq_ok_iff rfl

/-- **What terms are read as under a parameter**, with as much room as there is. -/
theorem exists_toTree_iff (u : Text.Identifier) (room : Nat) (t : Tree) :
    (∃ body : Term, body.toTree (some u) room = .ok t) ↔
      (t.Formed fun name => name ≠ "") ∧ t.readingDepth ≤ room := by
  constructor
  · rintro ⟨body, hbody⟩
    exact ⟨formed_of_toTree (admits_nonempty _) trivial hbody, readingDepth_le hbody⟩
  · rintro ⟨hformed, hroom⟩
    obtain ⟨body, hwrites⟩ := exists_writes u hformed
    exact ⟨body, hwrites.read room hroom⟩

/-- **The predicates of lambdas are exactly the formed trees that are no single literal.** Without a limit
    to nesting these are all of them, and with it those that do not take more room to read. What a text of
    a lambda is accepted as is among them; and there is a term for each of them that is as texts are read,
    within the limits, and any text of the lambda over it is accepted as the tree. -/
theorem image_of_lambdas [Limits] (u : Text.Identifier) (t : Tree) :
    ((∃ room, ∃ body : Term, body.toTree (some u) room = .ok t ∧ t.isLiteral = false) ↔
      t.IsPredicate) ∧
    ((∃ body, (lambdaOf u body).predicate = .ok t) ↔
      t.IsPredicate ∧ t.readingDepth ≤ Limits.reading) ∧
    (∀ (text : String) (body : Term), TextFragment.term text = .ok (lambdaOf u body) →
      (Fragment.text text).predicate = .ok t → t.IsPredicate ∧ t.readingDepth ≤ Limits.reading) ∧
    (t.IsPredicate → t.readingDepth ≤ Limits.reading →
      ∃ body, (lambdaOf u body).regular = true ∧ (lambdaOf u body).depth ≤ Limits.parsing ∧
        ∀ text : String, TextFragment.term text = .ok (lambdaOf u body) →
          (Fragment.text text).predicate = .ok t) := by
  have himage : (∃ body, (lambdaOf u body).predicate = .ok t) ↔
      t.IsPredicate ∧ t.readingDepth ≤ Limits.reading := by
    simp only [predicate_lambdaOf_eq_ok_iff, exists_and_right, exists_toTree_iff, Tree.IsPredicate]
    exact and_right_comm
  refine ⟨?_, himage, ?_, ?_⟩
  · constructor
    · rintro ⟨room, body, hbody, hliteral⟩
      exact ⟨((exists_toTree_iff u room t).mp ⟨body, hbody⟩).1, hliteral⟩
    · rintro ⟨hformed, hliteral⟩
      obtain ⟨body, hbody⟩ := (exists_toTree_iff u t.readingDepth t).mpr ⟨hformed, Nat.le_refl _⟩
      exact ⟨_, body, hbody, hliteral⟩
  · intro text body htext haccepted
    exact himage.mp ⟨body, (Fragment.agree_predicate htext t).mp haccepted⟩
  · rintro ⟨hformed, hliteral⟩ hroom
    obtain ⟨body, hwrites⟩ := exists_writes u hformed
    refine ⟨body, ?_, ?_, fun text htext => ?_⟩
    · simp [lambdaOf, regular, regularAll, hwrites.regular]
    · have hdepth := hwrites.depth
      have hparsing := Limits.reading_add_four_le_parsing
      simp only [lambdaOf, depth, depthAll]
      omega
    · have hread := predicate_lambdaOf_eq_ok_iff.mpr ⟨hwrites.read Limits.reading hroom, hliteral⟩
      exact (Fragment.agree_predicate htext t).mpr hread

end Term

end BoundQuery
