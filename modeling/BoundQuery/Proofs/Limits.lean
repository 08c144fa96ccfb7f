import BoundQuery.Limits

/-!
# Recursion within a limit, step by step

What is done where `room + 1` calls are left is one step, with what is done further down left over for its
parts (`within_succ`). All that is proved of such a recursion goes by this step.
-/

namespace BoundQuery

section Within

variable {α : Type} {spent : α} {step : (Nat → α) → α}

theorem below_eq_within : ∀ room calls : Nat, below spent step room calls = within spent step (room - calls)
  | 0, calls => by rw [Nat.zero_sub, within, below, below]
  | room + 1, 0 => rfl
  | room + 1, calls + 1 => by rw [below, below_eq_within room calls, Nat.succ_sub_succ]

/-- A whole takes one call, and its parts what is left below it. -/
theorem within_succ (room : Nat) :
    within spent step (room + 1) = step fun calls => within spent step (room - calls) := by
  rw [within, below]
  exact congrArg step (funext (below_eq_within room))

end Within

end BoundQuery
