import BoundQuery.Proofs.Query.Combining
import BoundQuery.Sql.Generation

/-!
# Higher limits

What goes through under some limits goes through alike under higher ones: a text has the same tree, calls
build the same query and a query is compiled to the same statement (`Call.upheld_compiled`). Limits that do
not find a query too deep find the same fault in it (`Wanted.statement_agree`). So the limits decide only
whether there is an answer, and every answer is one that all limits high enough give.

* `Upheld` – what one step gives, another gives as well;
* `Sql.Generator.generate_of_le` – a predicate accepted and written once is written alike from there on;
* `AcceptedPredicate.predicate_chain` – where the operands of a chain are read, the chain is read with room
  for one call more.
-/

namespace BoundQuery

open BoundQuery.Sql

/-- Limits are compared one by one. -/
instance : LE Limits where
  le l l' := l.parsing ≤ l'.parsing ∧ l.reading ≤ l'.reading ∧ l.writing ≤ l'.writing

/-! ## 1. Steps that go through alike -/

/-- What one step gives, another gives as well. -/
def Upheld {ε α : Type} (x y : Except ε α) : Prop := ∀ a, x = .ok a → y = .ok a

section Upheld

variable {ε α β : Type}

theorem Upheld.refl (x : Except ε α) : Upheld x x := fun _ h => h

theorem Upheld.bind {x y : Except ε α} {f g : α → Except ε β} (hx : Upheld x y)
    (hf : ∀ a, Upheld (f a) (g a)) : Upheld (x >>= f) (y >>= g) := by
  intro b hb
  obtain ⟨a, ha, hb⟩ := exists_of_bind_eq_ok hb
  rw [hx a ha]
  exact hf a b hb

theorem Upheld.foldlM {f g : β → α → Except ε β} (h : ∀ b a, Upheld (f b a) (g b a)) :
    ∀ (as : List α) (b : β), Upheld (as.foldlM f b) (as.foldlM g b)
  | [], _ => .refl _
  | a :: as, b => by
      rw [List.foldlM_cons, List.foldlM_cons]
      exact (h b a).bind (Upheld.foldlM h as)

theorem Upheld.lift {x y : Except Cause α} (h : Upheld x y) :
    Upheld (Failure.lift x) (Failure.lift y) := by
  intro a ha
  rw [h a (Failure.eq_ok_of_lift ha)]
  rfl

theorem Upheld.rejecting {x y : Except Failure α} (f : Fragment) (h : Upheld x y) :
    Upheld (f.rejecting x) (f.rejecting y) := by
  intro a ha
  rw [h a (Fragment.eq_ok_of_rejecting ha)]
  rfl

end Upheld

section Limits

variable {l l' : Limits}

/-! ## 2. Reading fragments -/

theorem Term.upheld_toTree (scope : Scope) {room room' : Nat} (hle : room ≤ room') (t : Term) :
    Upheld (t.toTree scope room) (t.toTree scope room') := by
  intro tree htree
  rcases t.cutOff_toTree scope hle with heq | ⟨_, hdeep⟩
  · rw [← heq, htree]
  · rw [hdeep] at htree
    cases htree

theorem Term.upheld_predicate (hle : l ≤ l') (t : Term) :
    Upheld (@Term.predicate l t) (@Term.predicate l' t) :=
  (Upheld.refl _).bind fun (scope, body) =>
    (body.upheld_toTree scope hle.2.1).lift.bind fun _ => .refl _

theorem TextFragment.upheld_term (hle : l ≤ l') (text : String) :
    Upheld (@TextFragment.term l text) (@TextFragment.term l' text) := by
  intro t ht
  simp only [TextFragment.term] at ht ⊢
  split at ht
  · cases ht
  · rename_i hnull
    rw [if_neg hnull]
    split at ht
    · cases ht
    · rename_i u _
      split at ht
      · cases ht
      · rename_i hdepth
        have hroom : ¬ u.depth > l'.parsing := fun hdeep => hdepth (Nat.lt_of_le_of_lt hle.1 hdeep)
        rw [if_neg hroom]
        exact ht

/-- **A predicate that is accepted is accepted under higher limits**, with the same tree. -/
theorem Fragment.upheld_predicate (hle : l ≤ l') (f : Fragment) :
    Upheld (@Fragment.predicate l f) (@Fragment.predicate l' f) := by
  cases f with
  | text s => exact ((TextFragment.upheld_term hle s).lift.bind (Term.upheld_predicate hle)).rejecting _
  | callable c => exact .refl _
  | value v => cases v <;> exact .refl _

theorem Fragment.upheld_key (hle : l ≤ l') (f : Fragment) :
    Upheld (@Fragment.key l f) (@Fragment.key l' f) := by
  cases f with
  | text s => exact ((TextFragment.upheld_term hle s).lift.bind fun _ => .refl _).rejecting _
  | callable c => exact .refl _
  | value v => cases v <;> exact .refl _

theorem Fragment.upheld_selector (hle : l ≤ l') (f : Fragment) :
    Upheld (@Fragment.selector l f) (@Fragment.selector l' f) := by
  cases f with
  | text s => exact ((TextFragment.upheld_term hle s).lift.bind fun _ => .refl _).rejecting _
  | callable c => exact .refl _
  | value v => exact .refl _

theorem Fragment.upheld_selectAll (hle : l ≤ l') (fs : List Fragment) :
    Upheld (@Fragment.selectAll l fs) (@Fragment.selectAll l' fs) :=
  (Upheld.foldlM (fun _ f => (f.upheld_selector hle).bind fun _ => .refl _) fs _).bind fun _ => .refl _

/-! ## 3. Making calls -/

namespace Call

theorem upheld_change (hle : l ≤ l') (call : Call) : Upheld (@change l call) (@change l' call) := by
  cases call with
  | filter f | filterAlso op f | having f => exact (f.upheld_predicate hle).bind fun _ => .refl _
  | project fs => exact (Fragment.upheld_selectAll hle fs).bind fun _ => .refl _
  | order direction f | group f => exact (f.upheld_key hle).bind fun _ => .refl _
  | take count | skip count | page number size | join kind table condition => exact .refl _

theorem upheld_applyAll (hle : l ≤ l') (calls : List Call) (d : Descriptor) :
    Upheld (@applyAll l calls d) (@applyAll l' calls d) :=
  Upheld.foldlM (fun _ call => (call.upheld_change hle).bind fun _ => .refl _) calls d

end Call

/-! ## 4. Writing trees -/

namespace Sql

theorem fault?_of_le (hle : l ≤ l') {t : Tree} (h : fault? l.writing t = none) :
    fault? l'.writing t = none := by
  obtain ⟨hformed, hdepth⟩ := fault?_eq_none_iff_wellFormed.mp h
  exact fault?_eq_none_iff_wellFormed.mpr ⟨hformed, Nat.le_trans hdepth hle.2.2⟩

theorem writeOnto_of_le (hle : l ≤ l') {place : Nat → String} {clause : Option String} {t : Tree}
    {bound after : Array Literal} {sql : String}
    (h : @writeOnto l place clause t bound = (.ok sql, after)) :
    @writeOnto l' place clause t bound = (.ok sql, after) := by
  obtain ⟨hfault, hwritten⟩ := (@writeOnto_eq_ok_iff l ..).mp h
  exact writeOnto_eq_ok_iff.mpr ⟨fault?_of_le hle hfault, hwritten⟩

/-- **A predicate that is accepted and written once is written alike under higher limits.** -/
theorem Generator.generate_of_le (hle : l ≤ l') (g : Generator) (raw : Bool) {given : Given}
    {bound after : Array Literal} {sql : String}
    (h : @Generator.generate l g raw given bound = (.ok sql, after)) :
    @Generator.generate l' g raw given bound = (.ok sql, after) := by
  have htreeOf : Upheld (given.fragment >>= @Generator.treeOf l g raw)
      (given.fragment >>= @Generator.treeOf l' g raw) := by
    refine (Upheld.refl _).bind fun f => ?_
    cases raw with
    | true => exact .refl _
    | false => exact f.upheld_predicate hle
  unfold Generator.generate at h ⊢
  split at h
  · cases h
  · rename_i t ht
    rw [htreeOf t ht]
    split at h
    · rename_i hwritten
      cases h
      simp only [writeOnto_of_le hle hwritten]
    · cases h

end Sql

/-! ## 5. Compiling queries -/

theorem Descriptor.fault?_of_le (hle : l ≤ l') {d : Descriptor} (h : @Descriptor.fault? l d = none) :
    @Descriptor.fault? l' d = none := by
  have hclause {keyword : String} {tree : Option Tree} (hl : @clauseFault? l keyword tree = none) :
      @clauseFault? l' keyword tree = none := by
    unfold clauseFault? at hl ⊢
    rw [Option.map_eq_none_iff, Option.bind_eq_none_iff] at hl ⊢
    exact fun t ht => Sql.fault?_of_le hle (hl t ht)
  obtain ⟨hfilter, hhaving⟩ := Option.or_eq_none_iff.mp h
  exact Option.or_eq_none_iff.mpr ⟨hclause hfilter, hclause hhaving⟩

namespace Wanted

theorem upheld_statement (hle : l ≤ l') (wanted : Wanted) (style : Style) (d : Descriptor) :
    Upheld (@statement l wanted style d) (@statement l' wanted style d) := by
  intro answer h
  rw [@statement_eq l] at h
  rw [@statement_eq l', ← h]
  unfold outline at h ⊢
  cases hfault : @Descriptor.fault? l d with
  | some e =>
    rw [hfault] at h
    cases h
  | none => rw [Descriptor.fault?_of_le hle hfault]

/-- **Limits that do not find a query too deep compile it alike**, or find the same fault in it. -/
theorem statement_agree {wanted : Wanted} {style : Style} {d : Descriptor}
    (h : ∀ clause, @statement l wanted style d ≠ .error (.compile ⟨.tooDeep, clause⟩))
    (h' : ∀ clause, @statement l' wanted style d ≠ .error (.compile ⟨.tooDeep, clause⟩)) :
    @statement l wanted style d = @statement l' wanted style d := by
  rw [@statement_eq l, @statement_eq l']
  unfold outline
  rw [@fault?_eq_firstFault? l _ _ _ h, @fault?_eq_firstFault? l' _ _ _ h']

end Wanted

/-- **What calls build and a style spells is the same under higher limits.** -/
theorem Call.upheld_compiled (hle : l ≤ l') (calls : List Call) (d : Descriptor) (wanted : Wanted)
    (style : Style) :
    Upheld (@applyAll l calls d >>= @Wanted.statement l wanted style)
      (@applyAll l' calls d >>= @Wanted.statement l' wanted style) :=
  (upheld_applyAll hle calls d).bind (wanted.upheld_statement hle style)

end Limits

/-! ## 6. Chains -/

/-- **Where the operands of a chain are accepted, the chain is**, under limits that leave room for one call
    more. -/
theorem AcceptedPredicate.predicate_chain {higher : Limits} [Limits] (hlt : Limits.reading < higher.reading)
    {p : AcceptedPredicate} {rest : List (Connective × AcceptedPredicate)} {op : Connective}
    {first : Term} {others : List Term} (hop : ∀ q ∈ rest, q.1 = op) (hfirst : p.Bare first)
    (hothers : List.Forall₂ (fun q t => q.2.Bare t) rest others) {text : String}
    (hterm : @TextFragment.term higher text = .ok (.connective op first others)) :
    @Fragment.predicate higher (.text text) = .ok (combine p.tree rest) := by
  have hread := Term.upheld_toTree none hlt _ _ (toTree_chain_succ hop hfirst hothers)
  have hliteral := isLiteral_combine rest hfirst.toTree_eq.2
  have hpredicate := (@Term.predicate_eq_ok_iff _ higher _ _ _ (Term.opened_of_not_isLambda rfl)).mpr
    ⟨hread, hliteral⟩
  exact (@Fragment.agree_predicate higher _ _ hterm _).mpr hpredicate

end BoundQuery
