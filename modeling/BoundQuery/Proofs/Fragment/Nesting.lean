import BoundQuery.Proofs.Fragment.Reading

/-!
# What a term is read as with less room

A term is read with room for so many nested calls. With less room it is read as the same tree or rejected
for the same cause, unless it does not fit any more (`Term.cutOff_toTree`), which takes a term that nests more
calls than there is room for. So the room decides only whether a term is read, never as what.
-/

namespace BoundQuery

/-! ## 1. Steps with less room -/

/-- A step that does what another does, or else finds, and then because something is `deep`, that it is
    nested too deeply. -/
def CutOff {α : Type} (deep : Prop) (x y : Except Cause α) : Prop :=
  x = y ∨ deep ∧ x = .error .tooDeep

section CutOff

variable {α β : Type} {deep deeper : Prop}

theorem CutOff.refl (x : Except Cause α) : CutOff deep x x := .inl rfl

theorem CutOff.mono {x y : Except Cause α} (h : CutOff deep x y) (hdeep : deep → deeper) :
    CutOff deeper x y := by
  rcases h with heq | ⟨hd, hx⟩
  · exact .inl heq
  · exact .inr ⟨hdeep hd, hx⟩

theorem CutOff.bind {x y : Except Cause α} {f g : α → Except Cause β} (h : CutOff deep x y)
    (hf : ∀ a, CutOff deep (f a) (g a)) : CutOff deep (x >>= f) (y >>= g) := by
  rcases h with rfl | ⟨hd, hx⟩
  · cases x with
    | error cause => exact .refl _
    | ok a => exact hf a
  · rw [hx]
    exact .inr ⟨hd, rfl⟩

theorem CutOff.mapM {f g : α → Except Cause β} : ∀ {as : List α}, (∀ a ∈ as, CutOff deep (f a) (g a)) →
    CutOff deep (as.mapM f) (as.mapM g)
  | [], _ => .refl _
  | a :: as, h => by
      have ih := CutOff.mapM fun b hb => h b (List.mem_cons_of_mem _ hb)
      rw [List.mapM_cons, List.mapM_cons]
      exact (h a List.mem_cons_self).bind fun _ => ih.bind fun _ => .refl _

theorem CutOff.foldlM {f g : β → α → Except Cause β} : ∀ {as : List α},
    (∀ a ∈ as, ∀ b, CutOff deep (f b a) (g b a)) → ∀ b, CutOff deep (as.foldlM f b) (as.foldlM g b)
  | [], _, _ => .refl _
  | a :: as, h, b => by
      have ih := CutOff.foldlM fun a' ha' => h a' (List.mem_cons_of_mem _ ha')
      rw [List.foldlM_cons, List.foldlM_cons]
      exact (h a List.mem_cons_self b).bind ih

end CutOff

/-! ## 2. Terms -/

namespace Term

mutual

/-- How many calls are nested in reading a term, at the most. -/
def callDepth : Term → Nat
  | .connective _ first rest => max (callDepth first) (callDepthAll rest) + 1
  | .signed _ operand => callDepth operand + 2
  | .compare left _ operands => max (callDepth left) (callDepthAll operands) + 2
  | .call _ positional _ => callDepthAll positional + 2
  | .list items => callDepthAll items + 1
  | .tuple items => callDepthAll items + 1
  | .set items => callDepthAll items + 1
  | _ => 1

/-- The greatest number of calls of several terms. -/
def callDepthAll : List Term → Nat
  | [] => 0
  | t :: ts => max (callDepth t) (callDepthAll ts)

end

theorem callDepth_pos (t : Term) : 0 < t.callDepth := by
  cases t <;> simp [callDepth]

theorem callDepth_le_callDepthAll : ∀ {ts : List Term} {t : Term}, t ∈ ts →
    t.callDepth ≤ callDepthAll ts
  | u :: us, t, ht => by
      rw [callDepthAll]
      rcases List.mem_cons.mp ht with rfl | ht
      · exact Nat.le_max_left _ _
      · exact Nat.le_trans (callDepth_le_callDepthAll ht) (Nat.le_max_right _ _)

theorem callDepth_lt_of_displayed? {t item : Term} {items : List Term} (h : t.displayed? = some items)
    (hitem : item ∈ items) : item.callDepth < t.callDepth := by
  cases t with
  | list items' | tuple items' | set items' =>
    cases h
    rw [callDepth]
    exact Nat.lt_succ_of_le (callDepth_le_callDepthAll hitem)
  | _ => cases h

section Steps

variable {scope : Scope} {deep : Prop} {f g : Term → Except Cause Tree}

theorem cutOff_membershipTree {receiver values : Term}
    (h : ∀ items, values.displayed? = some items → ∀ item ∈ items, CutOff deep (f item) (g item)) :
    CutOff deep (membershipTree scope f receiver values) (membershipTree scope g receiver values) := by
  unfold membershipTree
  refine (CutOff.refl _).bind fun name => ?_
  split
  · exact .refl _
  · exact .refl _
  · rename_i items _ hitems
    refine (CutOff.mapM fun item hitem => ?_).bind fun _ => .refl _
    exact (h items hitems item hitem).bind fun _ => .refl _

theorem cutOff_callTree {callee : Term} {positional named : List Term}
    (h : ∀ argument ∈ positional, ∀ items, argument.displayed? = some items →
      ∀ item ∈ items, CutOff deep (f item) (g item)) :
    CutOff deep (callTree scope f callee positional named) (callTree scope g callee positional named) := by
  unfold callTree
  split
  · split
    · exact .refl _
    · split
      · split
        · exact cutOff_membershipTree (h _ List.mem_cons_self)
        · exact .refl _
      · exact .refl _
  · exact .refl _

end Steps

/-- **With less room a term is read as before, or it is nested too deeply**, and then it nests more calls
    than there is room for. -/
theorem cutOff_toTree (scope : Scope) : ∀ {room room' : Nat} (t : Term), room ≤ room' →
    CutOff (room < t.callDepth) (toTree scope room t) (toTree scope room' t)
  | 0, _, t, _ => .inr ⟨t.callDepth_pos, rfl⟩
  | room + 1, room' + 1, t, hle => by
      -- a part that lies so many calls below leaves that much of the room
      have ih {u : Term} (calls : Nat) (hu : u.callDepth + calls < t.callDepth) :
          CutOff (room + 1 < t.callDepth) (toTree scope (room - calls) u)
            (toTree scope (room' - calls) u) :=
        (cutOff_toTree scope u (by omega)).mono fun hroom => by omega
      have hvalues {values : Term} (hv : values.callDepth + 2 ≤ t.callDepth) (items : List Term)
          (hitems : values.displayed? = some items) (item : Term) (hitem : item ∈ items) :
          CutOff (room + 1 < t.callDepth) (toTree scope (room - 2) item)
            (toTree scope (room' - 2) item) := by
        have hdisplayed := callDepth_lt_of_displayed? hitems hitem
        exact ih 2 (by omega)
      rw [toTree_succ, toTree_succ]
      cases t with
      | connective op first rest =>
        have hfirst : first.callDepth < (Term.connective op first rest).callDepth := by
          rw [callDepth]
          omega
        have hrest : callDepthAll rest < (Term.connective op first rest).callDepth := by
          rw [callDepth]
          omega
        refine (ih 0 hfirst).bind (CutOff.foldlM fun u hu left => ?_)
        exact (ih 0 (Nat.lt_of_le_of_lt (callDepth_le_callDepthAll hu) hrest)).bind fun _ => .refl _
      | signed sign operand =>
        have hoperand : operand.callDepth + 1 < (Term.signed sign operand).callDepth := by
          rw [callDepth]
          omega
        cases sign with
        | not => exact (ih 1 hoperand).bind fun _ => .refl _
        | _ => exact .refl _
      | compare left relations operands =>
        have hleft : left.callDepth + 1 < (Term.compare left relations operands).callDepth := by
          rw [callDepth]
          omega
        have hright {right : Term} (hr : right ∈ operands) :
            right.callDepth + 2 ≤ (Term.compare left relations operands).callDepth := by
          have hall := callDepth_le_callDepthAll hr
          rw [callDepth]
          omega
        -- only one relation between two operands is read any further
        rcases relations with _ | ⟨relation, _ | ⟨_, _⟩⟩
        · exact .refl _
        · rcases operands with _ | ⟨right, _ | ⟨_, _⟩⟩
          · exact .refl _
          · have hr := hright List.mem_cons_self
            cases relation with
            | compare c => exact (ih 1 hleft).bind fun _ => (ih 1 hr).bind fun _ => .refl _
            | identical negated => exact .refl _
            | member negated =>
              cases negated with
              | false => exact cutOff_membershipTree (hvalues hr)
              | true => exact (cutOff_membershipTree (hvalues hr)).bind fun _ => .refl _
          · exact .refl _
        · exact .refl _
      | call callee positional named =>
        refine cutOff_callTree fun argument hargument => hvalues ?_
        have hall := callDepth_le_callDepthAll hargument
        rw [callDepth]
        omega
      | _ => exact .refl _

end Term

end BoundQuery
