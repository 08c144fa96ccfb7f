import BoundQuery.Tree.Basic

/-!
# Induction over trees and their identity

Trees are nested in lists, so that they need an induction of their own. With it, two trees can be told
apart by looking at them, part by part.
-/

namespace BoundQuery.Tree

/-- Induction over trees, where the arguments of a call come as members of one list. -/
@[elab_as_elim]
theorem induct {motive : Tree → Prop} (member : ∀ name, motive (.member name))
    (literal : ∀ value, motive (.literal value))
    (binary : ∀ operator left right, motive left → motive right → motive (.binary operator left right))
    (logical : ∀ operator left right, motive left → motive right → motive (.logical operator left right))
    (unary : ∀ operator operand, motive operand → motive (.unary operator operand))
    (call : ∀ callee arguments, (∀ t ∈ arguments, motive t) → motive (.call callee arguments)) :
    ∀ t : Tree, motive t :=
  @Tree.rec motive (fun ts => ∀ t ∈ ts, motive t) member literal binary logical unary call
    (fun t ht => absurd ht List.not_mem_nil)
    (fun _ _ hfirst hrest t ht => by
      rcases List.mem_cons.mp ht with rfl | ht
      · exact hfirst
      · exact hrest t ht)

mutual

/-- Whether two trees are one and the same. -/
def identical : Tree → Tree → Bool
  | .member a, .member b => a == b
  | .literal a, .literal b => a == b
  | .binary o l r, .binary o' l' r' => o == o' && identical l l' && identical r r'
  | .logical o l r, .logical o' l' r' => o == o' && identical l l' && identical r r'
  | .unary o t, .unary o' t' => o == o' && identical t t'
  | .call c ts, .call c' ts' => c == c' && identicalAll ts ts'
  | _, _ => false

/-- Whether two lists of trees are one and the same. -/
def identicalAll : List Tree → List Tree → Bool
  | [], [] => true
  | t :: ts, t' :: ts' => identical t t' && identicalAll ts ts'
  | _, _ => false

end

theorem identicalAll_iff : ∀ {ts us : List Tree},
    (∀ t ∈ ts, ∀ u, identical t u = true ↔ t = u) → (identicalAll ts us = true ↔ ts = us)
  | [], [], _ => by simp [identicalAll]
  | [], _ :: _, _ => by simp [identicalAll]
  | _ :: _, [], _ => by simp [identicalAll]
  | t :: ts, u :: us, h => by
      have hrest : identicalAll ts us = true ↔ ts = us :=
        identicalAll_iff fun v hv => h v (List.mem_cons_of_mem _ hv)
      rw [identicalAll, Bool.and_eq_true, h t (by simp), hrest, List.cons.injEq]

theorem identical_iff (t : Tree) : ∀ u, identical t u = true ↔ t = u := by
  induction t using induct with
  | member name => intro u; cases u <;> simp [identical]
  | literal value => intro u; cases u <;> simp [identical]
  | binary operator left right hl hr => intro u; cases u <;> simp [identical, hl, hr, and_assoc]
  | logical operator left right hl hr => intro u; cases u <;> simp [identical, hl, hr, and_assoc]
  | unary operator operand h => intro u; cases u <;> simp [identical, h]
  | call callee arguments h => intro u; cases u <;> simp [identical, identicalAll_iff h]

instance : DecidableEq Tree := fun t u => decidable_of_iff _ (identical_iff t u)

end BoundQuery.Tree
