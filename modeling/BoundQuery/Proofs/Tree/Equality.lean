import BoundQuery.Proofs.Tree.Basic
import Mathlib.Algebra.Order.Field.Rat
import Mathlib.Data.Int.Cast.Lemmas
import Mathlib.Data.List.Forall2

/-!
# Equality of literals and trees

Equality of trees merges the kinds of their literals: a truth value, an integer and a float are equal if
they are one number. So it is no identity, and that it can be reasoned with as if it were has to be shown.

* `Quantity.same_iff` – exact values are compared as rational numbers, without rounding;
* `Literal.same_iff` – literals are equal if they are worth the same;
* `Tree.same_iff` – equal trees have equal roots and, part by part, equal parts;
* `Tree.equivalence_same` – equality of trees is an equivalence.
-/

namespace BoundQuery

/-! ## 1. Numbers -/

namespace Quantity

/-- The number that an exact value is. -/
def value : Quantity → WithBot (WithTop ℚ)
  | .dyadic m e => ((m * 2 ^ e : ℚ) : WithTop ℚ)
  | .above => ((⊤ : WithTop ℚ) : WithBot (WithTop ℚ))
  | .below => ⊥

/-- Bringing a mantissa down to a smaller exponent keeps the number. -/
theorem mul_two_pow_sub {e least : Int} (h : least ≤ e) (m : Int) :
    ((m * Nat.pow 2 (e - least).toNat : Int) : ℚ) * 2 ^ least = m * 2 ^ e := by
  have hexponent : ((e - least).toNat : Int) + least = e := by omega
  have hpower : (2 : ℚ) ^ e = 2 ^ (e - least).toNat * 2 ^ least := by
    rw [← zpow_natCast, ← zpow_add₀ two_ne_zero, hexponent]
  rw [hpower, ← mul_assoc, Int.cast_mul, Int.cast_natCast, Nat.pow_eq, Nat.cast_pow, Nat.cast_ofNat]

theorem value_dyadic_ne (m e : Int) :
    (dyadic m e).value ≠ above.value ∧ (dyadic m e).value ≠ below.value :=
  ⟨fun h => WithTop.coe_ne_top (WithBot.coe_inj.mp h), WithBot.coe_ne_bot⟩

/-- **Exact values are equal if they are the same number.** -/
theorem same_iff (x y : Quantity) : x.same y = true ↔ x.value = y.value := by
  cases x with
  | dyadic m₁ e₁ =>
    cases y with
    | dyadic m₂ e₂ =>
      have hpositive : (0 : ℚ) < 2 ^ min e₁ e₂ := zpow_pos two_pos _
      have h₁ := mul_two_pow_sub (min_le_left e₁ e₂) m₁
      have h₂ := mul_two_pow_sub (min_le_right e₁ e₂) m₂
      rw [same, aligned, beq_iff_eq, value, value, WithBot.coe_inj, WithTop.coe_inj, ← h₁, ← h₂,
        mul_left_inj' hpositive.ne', Int.cast_inj]
    | above => exact iff_of_false Bool.false_ne_true (value_dyadic_ne m₁ e₁).1
    | below => exact iff_of_false Bool.false_ne_true (value_dyadic_ne m₁ e₁).2
  | above =>
    cases y with
    | dyadic m e => exact iff_of_false Bool.false_ne_true (value_dyadic_ne m e).1.symm
    | above => exact iff_of_true rfl rfl
    | below => exact iff_of_false Bool.false_ne_true WithBot.coe_ne_bot
  | below =>
    cases y with
    | dyadic m e => exact iff_of_false Bool.false_ne_true (value_dyadic_ne m e).2.symm
    | above => exact iff_of_false Bool.false_ne_true WithBot.bot_ne_coe
    | below => exact iff_of_true rfl rfl

end Quantity

/-! ## 2. Literals -/

namespace Literal

/-- What a literal is worth: nothing, a text or a number. -/
def worth : Literal → Option (String ⊕ WithBot (WithTop ℚ))
  | .null => none
  | .str s => some (.inl s)
  | .bool b => some (.inr (Quantity.ofInt (if b then 1 else 0)).value)
  | .int n => some (.inr (Quantity.ofInt n).value)
  | .float x => some (.inr (Quantity.ofBinary64 x).value)

/-- **Literals are equal if they are worth the same**, whatever their kinds. -/
theorem same_iff (a b : Literal) : a.same b = true ↔ a.worth = b.worth := by
  cases a <;> cases b <;> simp [same, worth, quantity?, Quantity.same_iff]

-- The integer is the first that no float is equal to; rounded to a float it would be equal to this one.
example : (Literal.int 9007199254740993).same (.float (.finite false 4503599627370496 1)) = false := by
  decide

theorem same_refl (a : Literal) : a.same a = true := (same_iff a a).mpr rfl

theorem same_symm {a b : Literal} (h : a.same b = true) : b.same a = true :=
  (same_iff b a).mpr ((same_iff a b).mp h).symm

theorem same_trans {a b c : Literal} (hab : a.same b = true) (hbc : b.same c = true) :
    a.same c = true :=
  (same_iff a c).mpr (((same_iff a b).mp hab).trans ((same_iff b c).mp hbc))

/-- A text is equal to itself only. -/
theorem same_str_iff {s : String} {b : Literal} : (Literal.str s).same b = true ↔ b = .str s := by
  rw [same_iff]
  cases b with
  | str t => simp [worth, eq_comm (a := t)]
  | _ => simp [worth]

end Literal

/-! ## 3. Trees -/

namespace Tree

/-- Trees with the same root, whose parts are in a relation. The literals at two leaves are equal. -/
inductive SameRoot (R : Tree → Tree → Prop) : Tree → Tree → Prop
  | member (name : String) : SameRoot R (.member name) (.member name)
  | literal {a b : Literal} (h : a.same b = true) : SameRoot R (.literal a) (.literal b)
  | binary (operator : String) {left left' right right' : Tree} (hleft : R left left')
      (hright : R right right') :
      SameRoot R (.binary operator left right) (.binary operator left' right')
  | logical (operator : String) {left left' right right' : Tree} (hleft : R left left')
      (hright : R right right') :
      SameRoot R (.logical operator left right) (.logical operator left' right')
  | unary (operator : String) {operand operand' : Tree} (h : R operand operand') :
      SameRoot R (.unary operator operand) (.unary operator operand')
  | call (callee : String) {arguments arguments' : List Tree} (h : List.Forall₂ R arguments arguments') :
      SameRoot R (.call callee arguments) (.call callee arguments')

theorem sameAll_iff : ∀ {ts us : List Tree},
    sameAll ts us = true ↔ List.Forall₂ (fun t u => t.same u = true) ts us
  | [], [] => by simp [sameAll]
  | [], _ :: _ => by simp [sameAll]
  | _ :: _, [] => by simp [sameAll]
  | t :: ts, u :: us => by
      rw [sameAll, Bool.and_eq_true, sameAll_iff, List.forall₂_cons]

/-- **Equal trees have the same root and equal parts.** -/
theorem same_iff {t u : Tree} : t.same u = true ↔ SameRoot (fun t u => t.same u = true) t u := by
  constructor
  · intro h
    cases t <;> cases u <;> simp only [same, Bool.and_eq_true, beq_iff_eq, Bool.false_eq_true] at h
    case member name _ =>
      subst h
      exact .member name
    case literal => exact .literal h
    case binary.binary =>
      obtain ⟨⟨rfl, hleft⟩, hright⟩ := h
      exact .binary _ hleft hright
    case logical.logical =>
      obtain ⟨⟨rfl, hleft⟩, hright⟩ := h
      exact .logical _ hleft hright
    case unary.unary =>
      obtain ⟨rfl, h⟩ := h
      exact .unary _ h
    case call.call =>
      obtain ⟨rfl, h⟩ := h
      exact .call _ (sameAll_iff.mp h)
  · rintro (name | h | ⟨operator, hleft, hright⟩ | ⟨operator, hleft, hright⟩ | ⟨operator, h⟩ | ⟨callee, h⟩)
    · simp [same]
    · exact h
    · simp [same, hleft, hright]
    · simp [same, hleft, hright]
    · simp [same, h]
    · simp [same, sameAll_iff.mpr h]

/-- Pairs may be weakened one by one, knowing that each begins with a member of the first list. -/
theorem forall₂_imp_of_mem {R S : Tree → Tree → Prop} {ts us : List Tree} (hpairs : List.Forall₂ R ts us)
    (h : ∀ t ∈ ts, ∀ u, R t u → S t u) : List.Forall₂ S ts us :=
  ((List.forall₂_and_left ts us).mpr ⟨h, hpairs⟩).imp fun _ u hboth => hboth.1 u hboth.2

theorem same_refl (t : Tree) : t.same t = true := by
  induction t using induct with
  | member name => exact same_iff.mpr (.member name)
  | literal value => exact same_iff.mpr (.literal value.same_refl)
  | binary operator left right hl hr => exact same_iff.mpr (.binary operator hl hr)
  | logical operator left right hl hr => exact same_iff.mpr (.logical operator hl hr)
  | unary operator operand h => exact same_iff.mpr (.unary operator h)
  | call callee arguments ih => exact same_iff.mpr (.call callee (List.forall₂_same.mpr ih))

theorem same_symm {t u : Tree} (h : t.same u = true) : u.same t = true := by
  induction t using induct generalizing u with
  | member name =>
    cases same_iff.mp h
    exact same_refl _
  | literal value =>
    cases same_iff.mp h with
    | literal h => exact same_iff.mpr (.literal (Literal.same_symm h))
  | binary operator left right ihl ihr =>
    cases same_iff.mp h with
    | binary _ hleft hright => exact same_iff.mpr (.binary operator (ihl hleft) (ihr hright))
  | logical operator left right ihl ihr =>
    cases same_iff.mp h with
    | logical _ hleft hright => exact same_iff.mpr (.logical operator (ihl hleft) (ihr hright))
  | unary operator operand ih =>
    cases same_iff.mp h with
    | unary _ hoperand => exact same_iff.mpr (.unary operator (ih hoperand))
  | call callee arguments ih =>
    cases same_iff.mp h with
    | call _ harguments =>
      have hturned := forall₂_imp_of_mem harguments fun t ht u => ih t ht
      exact same_iff.mpr (.call callee hturned.flip)

theorem forall₂_comp {R S T : Tree → Tree → Prop} (h : ∀ t u v, R t u → S u v → T t v) :
    ∀ {ts us vs : List Tree}, List.Forall₂ R ts us → List.Forall₂ S us vs → List.Forall₂ T ts vs
  | _, _, _, .nil, .nil => .nil
  | _, _, _, .cons hr hrs, .cons hs hss => .cons (h _ _ _ hr hs) (forall₂_comp h hrs hss)

theorem same_trans {t u v : Tree} (htu : t.same u = true) (huv : u.same v = true) :
    t.same v = true := by
  induction t using induct generalizing u v with
  | member name =>
    cases same_iff.mp htu
    exact huv
  | literal value =>
    cases same_iff.mp htu with
    | literal h =>
      cases same_iff.mp huv with
      | literal h' => exact same_iff.mpr (.literal (Literal.same_trans h h'))
  | binary operator left right ihl ihr =>
    cases same_iff.mp htu with
    | binary _ hleft hright =>
      cases same_iff.mp huv with
      | binary _ hleft' hright' =>
        exact same_iff.mpr (.binary operator (ihl hleft hleft') (ihr hright hright'))
  | logical operator left right ihl ihr =>
    cases same_iff.mp htu with
    | logical _ hleft hright =>
      cases same_iff.mp huv with
      | logical _ hleft' hright' =>
        exact same_iff.mpr (.logical operator (ihl hleft hleft') (ihr hright hright'))
  | unary operator operand ih =>
    cases same_iff.mp htu with
    | unary _ h =>
      cases same_iff.mp huv with
      | unary _ h' => exact same_iff.mpr (.unary operator (ih h h'))
  | call callee arguments ih =>
    cases same_iff.mp htu with
    | call _ h =>
      cases same_iff.mp huv with
      | call _ h' =>
        have hfirst := (List.forall₂_and_left _ _).mpr ⟨ih, h⟩
        exact same_iff.mpr (.call callee (forall₂_comp (fun _ _ _ ht hu => ht.1 ht.2 hu) hfirst h'))

/-- **Equality of trees is an equivalence.** -/
theorem equivalence_same : Equivalence fun t u : Tree => t.same u = true :=
  ⟨same_refl, same_symm, same_trans⟩

end Tree

end BoundQuery
