import BoundQuery.Proofs.Fragment.TextTree
import BoundQuery.Proofs.Recording.Sound
import BoundQuery.Sql.Generation

/-!
# Accepted fragments can be written

A text has a formed tree and a body without trees given as data has a sound value, so whatever way a
fragment is given, its predicate is well formed (`Given.wellFormed_of_predicate`). Writing a well-formed
tree can only fail for its depth, and so a predicate that is accepted is written in every style
(`Generator.generate_accepted`).
-/

namespace BoundQuery

open BoundQuery.Sql

/-! ## 1. Predicates of fragments -/

namespace Fragment

/-- A fragment that brings no tree but well-formed ones. -/
inductive Sound : Fragment → Prop
  | text (s : String) : Sound (.text s)
  | callable {c : Callable} (h : c.body.nodeFree = true) : Sound (.callable c)
  | value {v : Value} (h : v.Sound) : Sound (.value v)

theorem sound_ofValue {v : Value} (h : v.Sound) : (ofValue v).Sound := by
  unfold ofValue
  split
  · exact .text _
  · exact .value h

theorem yields_rejecting {α : Type} {p : α → Prop} (f : Fragment) {outcome : Except Failure α}
    (h : Yields p outcome) : Yields p (f.rejecting outcome) :=
  fun a ha => h a (eq_ok_of_rejecting ha)

theorem yields_returnedTree {v : Value} (h : v.Sound) : Yields Tree.WellFormed (returnedTree v) := by
  refine (Value.yields_asTree h).bind fun t ht => ?_
  split
  · exact .error _
  · exact .ok ht

theorem Sound.yields_predicate [Limits] {f : Fragment} (h : f.Sound) :
    Yields Tree.WellFormed f.predicate := by
  cases h with
  | text s => exact fun t ht => (formed_of_text ht).wellFormed
  | callable hfree =>
    exact (yields_call (Body.yields_run hfree)).bind fun v hv =>
      yields_rejecting _ (yields_returnedTree hv)
  | value hv =>
    unfold predicate
    split
    · rename_i heq
      cases heq
    · rename_i heq
      cases heq
    · rename_i heq
      cases heq
      cases hv with
      | tree ht => exact .ok ht
    · rename_i heq
      cases heq
      split
      · rename_i ht
        exact .ok (Value.wellFormed_of_recorded? hv ht)
      · exact yields_rejecting _ (.error _)

end Fragment

/-! ## 2. Fragments as they are given -/

namespace Given

/-- Whether no tree is given as data. -/
def nodeFree : Given → Bool
  | .text _ => true
  | .node _ => false
  | .value body => body.nodeFree
  | .callable c => c.body.nodeFree

theorem yields_fragment {given : Given} (h : given.nodeFree = true) :
    Yields Fragment.Sound given.fragment := by
  cases given with
  | text s => exact .ok (.text s)
  | node data => cases h
  | value body => exact (Body.yields_run h).bind fun v hv => .ok (Fragment.sound_ofValue hv)
  | callable c => exact .ok (.callable h)

/-- **The predicate of a fragment is well formed**, unless trees are given as data. -/
theorem wellFormed_of_predicate [Limits] {given : Given} {t : Tree} (hfree : given.nodeFree = true)
    (h : given.fragment >>= Fragment.predicate = .ok t) : t.WellFormed :=
  (yields_fragment hfree).bind (fun _ hf => hf.yields_predicate) t h

end Given

/-! ## 3. Writing them -/

namespace Sql.Generator

theorem generate_of_treeOf [Limits] (g : Generator) (raw : Bool) {given : Given} {t : Tree}
    (h : given.fragment >>= g.treeOf raw = .ok t) (bound : Array Literal) :
    g.generate raw given bound =
      ((writeOnto g.style.place g.clause t bound).1.mapError .compile,
        (writeOnto g.style.place g.clause t bound).2) := by
  unfold generate
  rw [h]
  simp only
  rcases writeOnto g.style.place g.clause t bound with ⟨_ | _, _⟩ <;> rfl

theorem generate_of_predicate [Limits] (g : Generator) {given : Given} {t : Tree}
    (h : given.fragment >>= Fragment.predicate = .ok t) (bound : Array Literal) :
    g.generate false given bound =
      ((writeOnto g.style.place g.clause t bound).1.mapError .compile,
        (writeOnto g.style.place g.clause t bound).2) := g.generate_of_treeOf false h bound

/-- **Whatever is accepted as a predicate can be written**, in every style and onto any values, and then
    it is the text of its tree that is written. Only a tree that is nested too deeply is not. -/
theorem generate_accepted [Limits] (g : Generator) (given : Given) (t : Tree) (bound : Array Literal)
    (hfree : given.nodeFree = true) (haccepted : given.fragment >>= Fragment.predicate = .ok t) :
    (t.callDepth ≤ Limits.writing →
      g.generate false given bound =
        (.ok (spell g.style.place bound.size t.lexemes), bound ++ (values t.lexemes).toArray)) ∧
    (Limits.writing < t.callDepth →
      ∃ after, g.generate false given bound = (.error (.compile ⟨.tooDeep, g.clause⟩), after)) := by
  have hfault := (Given.wellFormed_of_predicate hfree haccepted).fault?_eq Limits.writing
  rw [generate_of_predicate g haccepted bound]
  constructor
  · intro hheight
    rw [if_pos hheight] at hfault
    rw [writeOnto_ok hfault]
    rfl
  · intro hheight
    rw [if_neg (Nat.not_le_of_lt hheight)] at hfault
    obtain ⟨extra, hwritten⟩ := writeOnto_error hfault g.style.place g.clause
    rw [hwritten bound]
    exact ⟨bound ++ extra, rfl⟩

/-- A membership test over a field and a number that a generator gives, and a negation. -/
def recordedMembership : Given :=
  .callable ⟨"function", "<lambda>", some 1,
    .connect .and
      (.call (.access .argument "a") "in_" [.generator [.access .argument "b", .literal (.int 7)]])
      (.invert (.compare .lt (.literal (.int 3)) (.item .argument (.literal (.str "c")))))⟩

theorem generate_accepted_membership :
    recordedMembership.nodeFree = true ∧
    generate ⟨Style.numeric, some "WHERE"⟩ false recordedMembership #[.str "x"]
      = (.ok "(a IN (b, :2) AND NOT c > :3)", #[.str "x", .int 7, .int 3]) := by
  refine ⟨rfl, ?_⟩
  have haccepted : recordedMembership.fragment >>= Fragment.predicate =
      .ok (.connect .and (.membership "a" [.member "b", .literal (.int 7)])
        (.negate (.compare .gt (.member "c") (.literal (.int 3))))) := rfl
  have h := (generate_accepted ⟨Style.numeric, some "WHERE"⟩ recordedMembership _ #[.str "x"] rfl
    haccepted).1 (by decide)
  rw [h]
  decide +kernel

end Sql.Generator

end BoundQuery
