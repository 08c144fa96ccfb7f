import BoundQuery.Term.Basic

/-!
# The identity of terms

Two terms can be told apart by looking at them, part by part; so it can be decided what a text is read
as.
-/

namespace BoundQuery

deriving instance DecidableEq for Parameters

namespace Term

mutual

/-- Whether two terms are one and the same. -/
def identical : Term → Term → Bool
  | .name a, .name b => a == b
  | .access s a, .access t b => identical s t && a == b
  | .subscript s i, .subscript t j => identical s t && identical i j
  | .constant a, .constant b => a == b
  | .connective o s ss, .connective o' t ts => o == o' && identical s t && identicalAll ss ts
  | .signed a s, .signed b t => a == b && identical s t
  | .compare s rs ss, .compare t rs' ts => identical s t && rs == rs' && identicalAll ss ts
  | .call s ps ns, .call t ps' ns' => identical s t && identicalAll ps ps' && identicalAll ns ns'
  | .list ss, .list ts => identicalAll ss ts
  | .tuple ss, .tuple ts => identicalAll ss ts
  | .set ss, .set ts => identicalAll ss ts
  | .dict ks vs, .dict ks' vs' => identicalAll ks ks' && identicalAll vs vs'
  | .lambda p ds ks s, .lambda p' ds' ks' t =>
      p == p' && identicalAll ds ds' && identicalAll ks ks' && identical s t
  | .conditional a b c, .conditional a' b' c' => identical a a' && identical b b' && identical c c'
  | .other f ss, .other f' ts => f == f' && identicalAll ss ts
  | _, _ => false

/-- Whether two lists of terms are one and the same. -/
def identicalAll : List Term → List Term → Bool
  | [], [] => true
  | s :: ss, t :: ts => identical s t && identicalAll ss ts
  | _, _ => false

end

theorem eq_of_identical_each :
    (∀ s t, identical s t = true → s = t) ∧ ∀ ss ts, identicalAll ss ts = true → ss = ts := by
  apply identical.mutual_induct
  all_goals
    intros
    simp_all only [identical, identicalAll, Bool.and_eq_true, beq_iff_eq, reduceCtorEq]

end Term

end BoundQuery
