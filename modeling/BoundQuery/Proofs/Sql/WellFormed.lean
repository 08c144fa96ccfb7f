import BoundQuery.Proofs.Sql.Writing
import BoundQuery.Proofs.Tree.Formed

/-!
# Well-formed trees

A tree is well formed if SQL knows each of its operators and callees and each of its calls has the
arguments it needs. This says nothing about the order in which a tree is looked at; the nodes that are
met are listed in that order by `Tree.preorder`, and the first of them with a fault of its own decides:

* `Tree.firstFault?_eq_none_iff` – no node has a fault of its own exactly if the tree is well formed;
* `Tree.callDepth` – how many calls are nested in writing a tree;
* `fault?_cutOff` – a tree has the fault of the first node that has one, or there is no room for it;
* `Tree.WellFormed.fault?_eq` – a well-formed tree has no fault if there is room for it.
-/

namespace BoundQuery

open BoundQuery.Sql

namespace Tree

/-! ## 1. Well-formed trees -/

/-- A tree whose operators and callees all have a place in the tables, whose membership tests have a
    field and at least one value, and whose text matches have a field and one text. -/
inductive WellFormed : Tree → Prop
  | member (name : String) : WellFormed (.member name)
  | literal (value : Literal) : WellFormed (.literal value)
  | binary {operator : String} {left right : Tree} (hknown : (comparisonSql? operator).isSome = true)
      (hl : WellFormed left) (hr : WellFormed right) : WellFormed (.binary operator left right)
  | logical {operator : String} {left right : Tree} (hknown : (connectiveSql? operator).isSome = true)
      (hl : WellFormed left) (hr : WellFormed right) : WellFormed (.logical operator left right)
  | unary {operator : String} {operand : Tree} (hknown : (unarySql? operator).isSome = true)
      (h : WellFormed operand) : WellFormed (.unary operator operand)
  | membership {arguments : List Tree} (hlength : 2 ≤ arguments.length)
      (h : ∀ t ∈ arguments, WellFormed t) : WellFormed (.call membershipSpelling arguments)
  | pattern (m : Match) {receiver : Tree} (h : WellFormed receiver) (term : String) :
      WellFormed (.call m.spelling [receiver, .literal (.str term)])

/-- A call is well formed exactly if nothing is wrong at its root and the parts that are written are
    well formed. -/
theorem wellFormed_call_iff {callee : String} {arguments : List Tree} :
    (Tree.call callee arguments).WellFormed ↔
      (Tree.call callee arguments).ownFault? = none ∧
        ∀ u ∈ (Tree.call callee arguments).visited, u.WellFormed := by
  constructor
  · intro h
    cases h with
    | membership hlength h =>
      have hcallee : Method.ofSpelling? membershipSpelling = some .membership := rfl
      rw [visited_membership hcallee]
      refine ⟨?_, h⟩
      rcases arguments with _ | ⟨t, _ | ⟨u, ts⟩⟩
      · cases hlength
      · exact absurd hlength (by simp)
      · simp only [ownFault?, hcallee]
    | @pattern m receiver h term =>
      have hcallee : Method.ofSpelling? m.spelling = some (.pattern m) :=
        Method.ofSpelling?_spelling (.pattern m)
      rw [visited_pattern hcallee]
      refine ⟨by simp only [ownFault?, hcallee], fun u hu => ?_⟩
      obtain rfl : u = receiver := by simpa using hu
      exact h
  · rintro ⟨hown, hvisited⟩
    rcases call_of_ownFault?_eq_none hown with
      ⟨hcallee, receiver, first, rest, rfl⟩ | ⟨m, hcallee, receiver, term, rfl⟩
    · rw [visited_membership hcallee] at hvisited
      obtain rfl : callee = membershipSpelling := Method.spelling_of_ofSpelling? hcallee
      exact .membership (by simp) hvisited
    · rw [visited_pattern hcallee] at hvisited
      obtain rfl : callee = m.spelling := Method.spelling_of_ofSpelling? hcallee
      exact .pattern m (hvisited receiver (by simp)) term

/-- **A tree is well formed exactly if nothing is wrong at its root and its parts are well formed.** -/
theorem wellFormed_iff {t : Tree} :
    t.WellFormed ↔ t.ownFault? = none ∧ ∀ u ∈ t.visited, u.WellFormed := by
  cases t with
  | member name => exact ⟨fun _ => ⟨rfl, by simp [visited]⟩, fun _ => .member name⟩
  | literal value => exact ⟨fun _ => ⟨rfl, by simp [visited]⟩, fun _ => .literal value⟩
  | binary operator left right =>
    simp only [ownFault?, visited, List.forall_mem_cons, ite_eq_left_iff, reduceCtorEq, imp_false,
      not_not]
    constructor
    · intro h
      cases h with
      | binary hknown hl hr => exact ⟨hknown, hl, hr, by simp⟩
    · rintro ⟨hknown, hl, hr, -⟩
      exact .binary hknown hl hr
  | logical operator left right =>
    simp only [ownFault?, visited, List.forall_mem_cons, ite_eq_left_iff, reduceCtorEq, imp_false,
      not_not]
    constructor
    · intro h
      cases h with
      | logical hknown hl hr => exact ⟨hknown, hl, hr, by simp⟩
    · rintro ⟨hknown, hl, hr, -⟩
      exact .logical hknown hl hr
  | unary operator operand =>
    simp only [ownFault?, visited, List.forall_mem_cons, ite_eq_left_iff, reduceCtorEq, imp_false,
      not_not]
    constructor
    · intro h
      cases h with
      | unary hknown h => exact ⟨hknown, h, by simp⟩
    · rintro ⟨hknown, h, -⟩
      exact .unary hknown h
  | call callee arguments => exact wellFormed_call_iff

/-! ## 2. The order in which nodes are met -/

mutual

/-- The nodes that are met in writing a tree, a node before its parts and parts from left to right. The
    term of a text match is not met. -/
def preorder : Tree → List Tree
  | .member name => [.member name]
  | .literal value => [.literal value]
  | .binary operator left right => .binary operator left right :: (preorder left ++ preorder right)
  | .logical operator left right => .logical operator left right :: (preorder left ++ preorder right)
  | .unary operator operand => .unary operator operand :: preorder operand
  | .call callee arguments =>
      .call callee arguments :: (match Method.ofSpelling? callee with
        | some (.pattern _) => ((preorderEach arguments).take 1).flatten
        | _ => (preorderEach arguments).flatten)

/-- The nodes that are met in writing several trees, one list each. -/
def preorderEach : List Tree → List (List Tree)
  | [] => []
  | t :: ts => preorder t :: preorderEach ts

end

theorem preorderEach_eq_map : ∀ ts : List Tree, preorderEach ts = ts.map preorder
  | [] => rfl
  | t :: ts => by rw [preorderEach, preorderEach_eq_map ts, List.map_cons]

/-- After a node come the nodes of its parts. -/
theorem preorder_eq (t : Tree) : t.preorder = t :: t.visited.flatMap preorder := by
  cases t with
  | member name => rfl
  | literal value => rfl
  | binary operator left right => simp [preorder, visited]
  | logical operator left right => simp [preorder, visited]
  | unary operator operand => simp [preorder, visited]
  | call callee arguments =>
    rw [preorder, preorderEach_eq_map, visited]
    cases Method.ofSpelling? callee with
    | none => rfl
    | some method =>
      cases method with
      | membership => rfl
      | pattern m =>
        simp only
        rw [← List.map_take, List.flatMap_def]

/-- The fault of the first node that has one. -/
def firstFault? (t : Tree) : Option Fault := t.preorder.findSome? ownFault?

theorem findSome?_flatMap_preorder : ∀ ts : List Tree,
    (ts.flatMap preorder).findSome? ownFault? = ts.findSome? firstFault?
  | [] => rfl
  | t :: ts => by
      have ih := findSome?_flatMap_preorder ts
      rw [List.flatMap_cons, List.findSome?_append, ih, List.findSome?_cons, firstFault?]
      cases t.preorder.findSome? ownFault? <;> rfl

theorem firstFault?_eq (t : Tree) :
    t.firstFault? = t.ownFault?.or (t.visited.findSome? firstFault?) := by
  rw [firstFault?, preorder_eq, List.findSome?_cons, findSome?_flatMap_preorder]
  cases t.ownFault? <;> rfl

/-! ## 3. Induction over what is written -/

theorem height_lt_of_mem_visited {t u : Tree} (h : u ∈ t.visited) : u.height < t.height := by
  cases t with
  | member name => cases h
  | literal value => cases h
  | binary operator left right =>
    simp only [visited, List.mem_cons, List.not_mem_nil, or_false] at h
    rcases h with rfl | rfl
    · exact Nat.lt_succ_of_le (Nat.le_max_left _ _)
    · exact Nat.lt_succ_of_le (Nat.le_max_right _ _)
  | logical operator left right =>
    simp only [visited, List.mem_cons, List.not_mem_nil, or_false] at h
    rcases h with rfl | rfl
    · exact Nat.lt_succ_of_le (Nat.le_max_left _ _)
    · exact Nat.lt_succ_of_le (Nat.le_max_right _ _)
  | unary operator operand =>
    obtain rfl : u = operand := by simpa [visited] using h
    exact Nat.lt_succ_self _
  | call callee arguments =>
    have hmem : u ∈ arguments := by
      rw [visited] at h
      split at h
      · exact List.mem_of_mem_take h
      · exact h
    exact Nat.lt_succ_of_le (heightAll_le_iff.mp (Nat.le_refl _) u hmem)

/-- Induction over trees by the parts that are written. -/
@[elab_as_elim]
theorem visited_induct {motive : Tree → Prop}
    (step : ∀ t : Tree, (∀ u ∈ t.visited, motive u) → motive t) (t : Tree) : motive t := by
  have hall : ∀ (n : Nat) (t : Tree), t.height ≤ n → motive t := by
    intro n
    induction n with
    | zero => exact fun t ht => absurd t.height_pos (by omega)
    | succ n ih =>
      intro t ht
      refine step t fun u hu => ih u ?_
      have := height_lt_of_mem_visited hu
      omega
  exact hall t.height t (Nat.le_refl _)

/-- **No node has a fault of its own exactly if the tree is well formed.** -/
theorem firstFault?_eq_none_iff (t : Tree) : t.firstFault? = none ↔ t.WellFormed := by
  induction t using visited_induct with
  | step t ih =>
    rw [firstFault?_eq, wellFormed_iff, Option.or_eq_none_iff, List.findSome?_eq_none_iff]
    exact and_congr_right fun _ => forall₂_congr ih

instance : DecidablePred WellFormed := fun t => decidable_of_iff _ t.firstFault?_eq_none_iff

/-! ## 4. How deep calls are nested -/

mutual

/-- How many calls are nested in writing a tree. -/
def callDepth : Tree → Nat
  | .member _ => 1
  | .literal _ => 1
  | .binary _ left right => max (callDepth left) (callDepth right) + 2
  | .logical _ left right => max (callDepth left) (callDepth right) + 2
  | .unary _ operand => callDepth operand + 2
  | .call callee arguments =>
      match Method.ofSpelling? callee, arguments with
      | _, [] => 1
      | some (.pattern _), receiver :: _ => callDepth receiver + 3
      | _, receiver :: values => max (callDepth receiver + 3) (callDepthAll 5 values)

/-- How many calls are nested in writing several trees, each `calls` calls further down. -/
def callDepthAll (calls : Nat) : List Tree → Nat
  | [] => 0
  | t :: ts => max (callDepth t + calls) (callDepthAll calls ts)

end

theorem callDepthAll_le_iff {calls n : Nat} : ∀ {ts : List Tree},
    callDepthAll calls ts ≤ n ↔ ∀ t ∈ ts, t.callDepth + calls ≤ n
  | [] => by simp [callDepthAll]
  | t :: ts => by rw [callDepthAll, Nat.max_le, callDepthAll_le_iff, List.forall_mem_cons]

theorem callDepth_pos (t : Tree) : 0 < t.callDepth := by
  cases t with
  | call callee arguments =>
    rw [callDepth.eq_def]
    simp only
    split <;> omega
  | _ => simp [callDepth]

theorem callDepth_connect (op : Connective) (left right : Tree) :
    (Tree.connect op left right).callDepth = max left.callDepth right.callDepth + 2 := by
  rw [Tree.connect, callDepth]

theorem callDepth_pattern (m : Match) (name term : String) :
    (Tree.pattern m name term).callDepth = 4 := by
  cases m <;> rfl

theorem callDepthAll_le_succ_iff {calls room : Nat} {ts : List Tree} :
    callDepthAll (calls + 1) ts ≤ room + 1 ↔
      ∀ p ∈ ts.map (calls, ·), p.2.callDepth ≤ room - p.1 := by
  rw [callDepthAll_le_iff, List.forall_mem_map]
  refine forall₂_congr fun t _ => ?_
  have hpos := t.callDepth_pos
  simp only
  omega

/-- **There is room for a tree if there is room for the parts that are written**, as far down as they
    lie. -/
theorem callDepth_le_succ_iff {t : Tree} {room : Nat} :
    t.callDepth ≤ room + 1 ↔ ∀ p ∈ t.reached, p.2.callDepth ≤ room - p.1 := by
  cases t with
  | member name => simp [callDepth, reached]
  | literal value => simp [callDepth, reached]
  | binary operator left right | logical operator left right =>
    have hl := left.callDepth_pos
    have hr := right.callDepth_pos
    simp only [callDepth, reached, List.forall_mem_cons, List.not_mem_nil, false_implies, implies_true,
      and_true]
    omega
  | unary operator operand =>
    have h := operand.callDepth_pos
    simp only [callDepth, reached, List.forall_mem_cons, List.not_mem_nil, false_implies, implies_true,
      and_true]
    omega
  | call callee arguments =>
    cases arguments with
    | nil => simp [callDepth, reached]
    | cons receiver values =>
      have h := receiver.callDepth_pos
      rcases hcallee : Method.ofSpelling? callee with _ | _ | m
      all_goals
        rw [callDepth.eq_def]
        simp only [reached, hcallee, List.forall_mem_cons, List.not_mem_nil, false_implies,
          implies_true, and_true, ← callDepthAll_le_succ_iff, Nat.reduceAdd]
        omega

end Tree

namespace Sql

/-! ## 5. Faults where there is room -/

/-- If each of several faults is as expected or else, and then because something is `deep`, that a tree is
    too deep, so is the first of them. -/
theorem findSome?_cutOff {α : Type} {deep : Prop} {f g : α → Option Fault} :
    ∀ {as : List α}, (∀ a ∈ as, f a = g a ∨ deep ∧ f a = some .tooDeep) →
      as.findSome? f = as.findSome? g ∨ deep ∧ as.findSome? f = some .tooDeep
  | [], _ => .inl rfl
  | a :: as, h => by
      obtain ⟨hfirst, hrest⟩ := List.forall_mem_cons.mp h
      rw [List.findSome?_cons, List.findSome?_cons]
      rcases hfirst with heq | ⟨hdeep, heq⟩
      · rw [heq]
        cases g a with
        | none => exact findSome?_cutOff hrest
        | some fault => exact .inl rfl
      · rw [heq]
        exact .inr ⟨hdeep, rfl⟩

/-- **A tree has the fault of the first node that has one, or it is too deep**, and then there is no room
    for it. So the room decides only whether that first fault is found. -/
theorem fault?_cutOff : ∀ (room : Nat) (t : Tree),
    fault? room t = t.firstFault? ∨ room < t.callDepth ∧ fault? room t = some .tooDeep
  | 0, t => .inr ⟨t.callDepth_pos, fault?_zero t⟩
  | room + 1, t => by
      have ih : ∀ p ∈ t.reached, fault? (room - p.1) p.2 = p.2.firstFault? ∨
          room + 1 < t.callDepth ∧ fault? (room - p.1) p.2 = some .tooDeep := by
        intro p hp
        refine (fault?_cutOff (room - p.1) p.2).imp_right fun ⟨hroom, hfault⟩ => ⟨?_, hfault⟩
        refine Nat.lt_of_not_le fun hdepth => ?_
        exact Nat.not_le_of_lt hroom (Tree.callDepth_le_succ_iff.mp hdepth p hp)
      have hvisited : t.visited.findSome? Tree.firstFault?
          = t.reached.findSome? fun p => p.2.firstFault? := by
        rw [← Tree.map_snd_reached, List.findSome?_map]
        rfl
      rw [fault?_succ, Tree.firstFault?_eq, hvisited]
      cases t.ownFault? with
      | some fault => exact .inl rfl
      | none => exact findSome?_cutOff ih

theorem fault?_eq_firstFault? (room : Nat) (t : Tree) (h : t.callDepth ≤ room) :
    fault? room t = t.firstFault? :=
  (fault?_cutOff room t).resolve_right fun hdeep => Nat.not_le_of_lt hdeep.1 h

theorem callDepth_le_of_fault? : ∀ {room : Nat} {t : Tree}, fault? room t = none → t.callDepth ≤ room
  | 0, _, h => by cases h
  | room + 1, t, h => by
      obtain ⟨_, hreached⟩ := fault?_eq_none_iff.mp h
      exact Tree.callDepth_le_succ_iff.mpr fun p hp => callDepth_le_of_fault? (hreached p hp)

/-- **A tree has no fault exactly if it is well formed and there is room for it.** -/
theorem fault?_eq_none_iff_wellFormed {room : Nat} {t : Tree} :
    fault? room t = none ↔ t.WellFormed ∧ t.callDepth ≤ room := by
  rw [← t.firstFault?_eq_none_iff]
  constructor
  · intro h
    have hdepth : t.callDepth ≤ room := callDepth_le_of_fault? h
    exact ⟨(fault?_eq_firstFault? room t hdepth).symm.trans h, hdepth⟩
  · rintro ⟨hfirst, hdepth⟩
    rw [fault?_eq_firstFault? room t hdepth, hfirst]

end Sql

/-- **A well-formed tree has no fault if there is room for it**, and else it is too deep. -/
theorem Tree.WellFormed.fault?_eq (room : Nat) {t : Tree} (ht : t.WellFormed) :
    fault? room t = if t.callDepth ≤ room then none else some .tooDeep := by
  by_cases hdepth : t.callDepth ≤ room
  · rw [if_pos hdepth, fault?_eq_none_iff_wellFormed.mpr ⟨ht, hdepth⟩]
  · rw [if_neg hdepth]
    rcases fault?_cutOff room t with hfault | hdeep
    · rw [t.firstFault?_eq_none_iff.mpr ht] at hfault
      exact absurd (callDepth_le_of_fault? hfault) hdepth
    · exact hdeep.2

namespace Tree

/-- A formed tree is well formed. -/
theorem Formed.wellFormed {named : String → Prop} {t : Tree} (ht : t.Formed named) :
    t.WellFormed := by
  induction ht with
  | member _ => exact .member _
  | literal value => exact .literal value
  | compare c _ _ ihl ihr => exact .binary (by rw [comparisonSql?_spelling]; rfl) ihl ihr
  | connect c _ _ ihl ihr => exact .logical (by rw [connectiveSql?_spelling]; rfl) ihl ihr
  | negate _ ih => exact .unary rfl ih
  | @membership name _ first rest =>
    refine .membership (by simp) fun t ht => ?_
    simp only [List.map_cons, List.mem_cons, List.mem_map] at ht
    rcases ht with rfl | rfl | ⟨v, _, rfl⟩
    · exact .member name
    · exact .literal first
    · exact .literal v
  | pattern m _ term => exact .pattern m (.member _) term

end Tree

end BoundQuery
