import BoundQuery.Failure

/-!
# Outcomes of steps

What follows from the success of a step that may fail, and of the steps after it. `Yields` says of a
step that whatever it gives has a property, and `Agree` of two steps that they give the same; both pass
through sequences of steps, so that a function made of steps is gone through once, step by step.
-/

namespace BoundQuery

/-- What a step and the steps after it give, if they give something. -/
theorem exists_of_bind_eq_ok {ε α β : Type} {x : Except ε α} {f : α → Except ε β} {b : β}
    (h : x >>= f = .ok b) : ∃ a, x = .ok a ∧ f a = .ok b := by
  cases x with
  | error e => cases h
  | ok a => exact ⟨a, rfl, h⟩

/-- If all of several steps succeed, what each of them gives is among the results. -/
theorem exists_mem_of_mapM {ε α β : Type} {f : α → Except ε β} : ∀ {as : List α} {bs : List β},
    as.mapM f = .ok bs → ∀ a ∈ as, ∃ b ∈ bs, f a = .ok b
  | [], _, _, _, ha => by cases ha
  | a :: as, bs, h, a', ha' => by
      rw [List.mapM_cons] at h
      obtain ⟨b, hb, h⟩ := exists_of_bind_eq_ok h
      obtain ⟨rest, hrest, h⟩ := exists_of_bind_eq_ok h
      cases h
      rcases List.mem_cons.mp ha' with rfl | ha'
      · exact ⟨b, List.mem_cons_self, hb⟩
      · obtain ⟨b', hb', hf⟩ := exists_mem_of_mapM hrest a' ha'
        exact ⟨b', List.mem_cons_of_mem _ hb', hf⟩

theorem eq_ok_of_mapError {ε ε' α : Type} {f : ε → ε'} {outcome : Except ε α} {a : α}
    (h : outcome.mapError f = .ok a) : outcome = .ok a := by
  cases outcome with
  | error e => cases h
  | ok b => exact congrArg Except.ok (Except.ok.inj h)

theorem Failure.eq_ok_of_lift {α : Type} {outcome : Except Cause α} {a : α}
    (h : Failure.lift outcome = .ok a) : outcome = .ok a := eq_ok_of_mapError h

/-- Whatever a step gives has a property. -/
def Yields {ε α : Type} (p : α → Prop) (x : Except ε α) : Prop := ∀ a, x = .ok a → p a

section Yields

variable {ε α β : Type} {p : α → Prop} {q : β → Prop}

theorem Yields.ok {a : α} (h : p a) : Yields p (.ok a : Except ε α) := by
  intro b hb
  cases hb
  exact h

theorem Yields.error (e : ε) : Yields p (.error e : Except ε α) := by
  intro a ha
  cases ha

theorem yields_anything (x : Except ε α) : Yields (fun _ => True) x := fun _ _ => trivial

theorem Yields.bind {x : Except ε α} {f : α → Except ε β} (hx : Yields p x)
    (hf : ∀ a, p a → Yields q (f a)) : Yields q (x >>= f) := by
  intro b hb
  obtain ⟨a, ha, hb⟩ := exists_of_bind_eq_ok hb
  exact hf a (hx a ha) b hb

theorem Yields.mapM {f : α → Except ε β} : ∀ {as : List α}, (∀ a ∈ as, Yields q (f a)) →
    Yields (fun bs => ∀ b ∈ bs, q b) (as.mapM f)
  | [], _ => by
      rw [List.mapM_nil]
      exact .ok (by simp)
  | a :: as, h => by
      rw [List.mapM_cons]
      refine (h a (by simp)).bind fun b hb => ?_
      refine (Yields.mapM fun c hc => h c (List.mem_cons_of_mem _ hc)).bind fun bs hbs => ?_
      exact .ok (List.forall_mem_cons.mpr ⟨hb, hbs⟩)

theorem Yields.lift {x : Except Cause α} (h : Yields p x) : Yields p (Failure.lift x) :=
  fun a ha => h a (Failure.eq_ok_of_lift ha)

end Yields

/-- Two steps give the same, if they give something. They may fail for different reasons. -/
def Agree {ε α : Type} (x y : Except ε α) : Prop := ∀ a, x = .ok a ↔ y = .ok a

section Agree

variable {ε α β γ : Type}

theorem Agree.refl (x : Except ε α) : Agree x x := fun _ => Iff.rfl

theorem Agree.errors (e e' : ε) : Agree (.error e : Except ε α) (.error e') := by
  intro a
  constructor <;> intro h <;> cases h

theorem Agree.bind {x y : Except ε α} {f g : α → Except ε β} (hx : Agree x y)
    (hf : ∀ a, Agree (f a) (g a)) : Agree (x >>= f) (y >>= g) := by
  intro b
  constructor
  · intro h
    obtain ⟨a, ha, hb⟩ := exists_of_bind_eq_ok h
    rw [(hx a).mp ha]
    exact (hf a b).mp hb
  · intro h
    obtain ⟨a, ha, hb⟩ := exists_of_bind_eq_ok h
    rw [(hx a).mpr ha]
    exact (hf a b).mpr hb

theorem Agree.mapM_map {r : α → β} {f : β → Except ε γ} {g : α → Except ε γ} :
    ∀ {as : List α}, (∀ a ∈ as, Agree (f (r a)) (g a)) → Agree ((as.map r).mapM f) (as.mapM g)
  | [], _ => Agree.refl _
  | a :: as, h => by
      have ih := Agree.mapM_map fun b hb => h b (List.mem_cons_of_mem _ hb)
      rw [List.map_cons, List.mapM_cons, List.mapM_cons]
      exact (h a List.mem_cons_self).bind fun _ => ih.bind fun _ => Agree.refl _

theorem Agree.foldlM_map {r : α → β} {f : γ → β → Except ε γ} {g : γ → α → Except ε γ} :
    ∀ {as : List α}, (∀ a ∈ as, ∀ c, Agree (f c (r a)) (g c a)) →
      ∀ c, Agree ((as.map r).foldlM f c) (as.foldlM g c)
  | [], _, _ => Agree.refl _
  | a :: as, h, c => by
      have ih := Agree.foldlM_map fun b hb => h b (List.mem_cons_of_mem _ hb)
      rw [List.map_cons, List.foldlM_cons, List.foldlM_cons]
      exact (h a List.mem_cons_self c).bind ih

theorem Agree.lift {x y : Except Cause α} (h : Agree x y) : Agree (Failure.lift x) (Failure.lift y) := by
  intro a
  constructor
  · intro ha
    rw [(h a).mp (Failure.eq_ok_of_lift ha)]
    rfl
  · intro ha
    rw [(h a).mpr (Failure.eq_ok_of_lift ha)]
    rfl

end Agree

end BoundQuery
