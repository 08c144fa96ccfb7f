import BoundQuery.Proofs.Fragment.Accepted
import BoundQuery.Proofs.Sql.Alignment

/-!
# Writing onto bound values

Whatever is bound already, writing a tree only appends to it. What it appends and whether it succeeds do
not depend on the values before, and the text is the one that is written onto nothing, with its
placeholders counted from the position after them.

* `Beside` – two pieces of writing that do the same, one of them with more values before its own; it passes
  through sequences of steps, and `beside_write` goes through `write` once, for every relation of texts that
  passes from the parts of a text to the whole (`Compositional`);
* `writeOnto_onto` is the case of equal texts, and `writeOnto_blind` the case of texts that have nothing in
  common, so that the way to write placeholders plays no part;
* `Generator.generateAll_shared` says what this comes to when several trees share their bound values.
-/

namespace BoundQuery.Sql

/-! ## 1. Two pieces of writing beside each other -/

/-- Placeholders counted from the position after `count`. -/
def shifted (place : Nat → String) (count : Nat) : Nat → String := fun position => place (position + count)

/-- A relation of texts that passes from the parts of a text to the whole. -/
structure Compositional (R : String → String → Prop) : Prop where
  refl : ∀ s, R s s
  append : ∀ {s t s' t'}, R s t → R s' t' → R (s ++ s') (t ++ t')

theorem compositional_eq : Compositional (· = ·) where
  refl _ := rfl
  append hs ht := by rw [hs, ht]

theorem compositional_true : Compositional fun _ _ => True where
  refl _ := trivial
  append _ _ := trivial

theorem Compositional.commaSeparated {R : String → String → Prop} (hR : Compositional R) :
    ∀ {ss ts : List String}, List.Forall₂ R ss ts → R (Text.commaSeparated ss) (Text.commaSeparated ts)
  | [], [], .nil => hR.refl _
  | [s], [t], .cons h .nil => by
      rw [Text.commaSeparated, Text.commaSeparated, String.intercalate_singleton,
        String.intercalate_singleton]
      exact h
  | s :: s' :: ss, t :: t' :: ts, .cons h hrest => by
      have ih := hR.commaSeparated hrest
      rw [Text.commaSeparated, Text.commaSeparated, String.intercalate_cons_cons,
        String.intercalate_cons_cons]
      exact hR.append (hR.append h (hR.refl ", ")) ih

/-- After `base`, the first piece of writing does what the second does without it: both fail alike or give
    related results, and `base` stands before what is bound. -/
def Beside {α β : Type} (base : Array Literal) (R : α → β → Prop) (x : Writing α) (y : Writing β) : Prop :=
  ∀ bound : Array Literal, ∃ after : Array Literal,
    (∃ a b, R a b ∧ x.run.run (base ++ bound) = (.ok a, base ++ after) ∧
      y.run.run bound = (.ok b, after)) ∨
    ∃ f, x.run.run (base ++ bound) = (.error f, base ++ after) ∧ y.run.run bound = (.error f, after)

namespace Beside

variable {α β γ δ : Type} {base : Array Literal} {R : α → β → Prop} {S : γ → δ → Prop}

theorem pure {a : α} {b : β} (h : R a b) : Beside base R (Pure.pure a) (Pure.pure b) :=
  fun bound => ⟨bound, .inl ⟨a, b, h, run_pure_ok a, run_pure_ok b⟩⟩

theorem throw (f : Fault) : Beside base R (MonadExcept.throw f) (MonadExcept.throw f) :=
  fun bound => ⟨bound, .inr ⟨f, run_throw f, run_throw f⟩⟩

theorem bind {x : Writing α} {y : Writing β} {g : α → Writing γ} {h : β → Writing δ}
    (hxy : Beside base R x y) (hgh : ∀ a b, R a b → Beside base S (g a) (h b)) :
    Beside base S (x >>= g) (y >>= h) := by
  intro bound
  obtain ⟨after, ⟨a, b, hab, hx, hy⟩ | ⟨f, hx, hy⟩⟩ := hxy bound
  · rw [run_bind_ok hx, run_bind_ok hy]
    exact hgh a b hab after
  · exact ⟨after, .inr ⟨f, run_bind_error hx, run_bind_error hy⟩⟩

theorem mapM {ι : Type} {x : ι → Writing α} {y : ι → Writing β} :
    ∀ {is : List ι}, (∀ i ∈ is, Beside base R (x i) (y i)) →
      Beside base (List.Forall₂ R) (is.mapM x) (is.mapM y)
  | [], _ => by
      rw [List.mapM_nil, List.mapM_nil]
      exact .pure .nil
  | i :: is, h => by
      rw [List.mapM_cons, List.mapM_cons]
      refine (h i (by simp)).bind fun a b hab => ?_
      refine (Beside.mapM fun j hj => h j (List.mem_cons_of_mem _ hj)).bind fun as bs has => ?_
      exact .pure (.cons hab has)

end Beside

section Write

variable {R : String → String → Prop} {base : Array Literal} {place place' : Nat → String}

theorem beside_bindValue (hplace : ∀ i, R (place (i + base.size)) (place' i)) (value : Literal) :
    Beside base R (bindValue place value) (bindValue place' value) := by
  intro bound
  have hposition : bound.size + 1 + base.size = (base ++ bound).size + 1 := by
    rw [Array.size_append]
    omega
  refine ⟨bound.push value, .inl ⟨_, _, hplace (bound.size + 1), ?_, run_bindValue place' value bound⟩⟩
  rw [hposition, run_bindValue, Array.append_push]

/-- **After other values a tree is written as without them**, up to a relation that holds between the
    placeholders of each position. -/
theorem beside_write (hR : Compositional R) (hplace : ∀ i, R (place (i + base.size)) (place' i)) :
    ∀ (room : Nat) (t : Tree), Beside base R (write place room t) (write place' room t)
  | 0, _ => .throw _
  | room + 1, t => by
      have ih (calls : Nat) := beside_write hR hplace (room - calls)
      cases t with
      | member name => exact .pure (hR.refl name)
      | literal value => exact beside_bindValue hplace value
      | binary operator left right =>
        rw [write_succ, write_succ, writeNode, writeNode]
        cases comparisonSql? operator with
        | none => exact .throw _
        | some sql =>
          refine (ih 1 left).bind fun l l' hl => (ih 1 right).bind fun r r' hr => .pure ?_
          exact hR.append (hR.append (hR.append (hR.append hl (hR.refl _)) (hR.refl _)) (hR.refl _)) hr
      | logical operator left right =>
        rw [write_succ, write_succ, writeNode, writeNode]
        cases connectiveSql? operator with
        | none => exact .throw _
        | some sql =>
          refine (ih 1 left).bind fun l l' hl => (ih 1 right).bind fun r r' hr => .pure ?_
          refine hR.append (hR.append ?_ hr) (hR.refl _)
          exact hR.append (hR.append (hR.append (hR.append (hR.refl _) hl) (hR.refl _)) (hR.refl _))
            (hR.refl _)
      | unary operator operand =>
        rw [write_succ, write_succ, writeNode, writeNode]
        cases unarySql? operator with
        | none => exact .throw _
        | some sql => exact (ih 1 operand).bind fun o o' ho => .pure (hR.append (hR.refl _) ho)
      | call callee arguments =>
        cases hown : (Tree.call callee arguments).ownFault? with
        | some f =>
          rw [write_call_eq_throw hown, write_call_eq_throw hown]
          exact .throw f
        | none =>
          rcases Tree.call_of_ownFault?_eq_none hown with
            ⟨hcallee, receiver, first, rest, rfl⟩ | ⟨m, hcallee, receiver, term, rfl⟩
          · rw [write_succ, write_succ, writeNode, writeNode, hcallee]
            refine (ih 2 receiver).bind fun r r' hr => ?_
            refine (Beside.mapM fun u _ => ih 4 u).bind fun vs vs' hvs => .pure ?_
            exact hR.append (hR.append (hR.append hr (hR.refl _)) (hR.commaSeparated hvs)) (hR.refl _)
          · rw [write_succ, write_succ, writeNode, writeNode, hcallee]
            refine (ih 2 receiver).bind fun r r' hr => ?_
            refine (beside_bindValue hplace _).bind fun p p' hp => .pure ?_
            refine hR.append (hR.append ?_ (hR.refl _)) (hR.refl _)
            exact hR.append (hR.append (hR.append hr (hR.refl _)) hp) (hR.refl _)

end Write

/-! ## 2. Whole predicates -/

section WriteOnto

variable (place place' : Nat → String) (clause : Option String) (t : Tree) (bound : Array Literal)

/-- What is written onto bound values is what is written onto nothing, with shifted placeholders. -/
theorem writeOnto_onto [Limits] :
    writeOnto place clause t bound =
      ((writeOnto (shifted place bound.size) clause t #[]).1,
        bound ++ (writeOnto (shifted place bound.size) clause t #[]).2) := by
  have hplace : ∀ i, place (i + bound.size) = shifted place bound.size i := fun _ => rfl
  have hbeside := beside_write compositional_eq hplace Limits.writing t #[]
  rw [Array.append_empty] at hbeside
  obtain ⟨after, ⟨a, b, hab, hx, hy⟩ | ⟨f, hx, hy⟩⟩ := hbeside
  · rw [writeOnto, writeOnto, hx, hy, hab]
  · rw [writeOnto, writeOnto, hx, hy]

/-- What is bound, and what goes wrong, does not depend on the placeholders. -/
theorem writeOnto_blind [Limits] :
    (writeOnto place clause t #[]).2 = (writeOnto place' clause t #[]).2 ∧
      (writeOnto place clause t #[]).1.isOk = (writeOnto place' clause t #[]).1.isOk := by
  have hbeside : Beside #[] (fun _ _ => True) (write place Limits.writing t)
      (write place' Limits.writing t) :=
    beside_write compositional_true (fun _ => trivial) Limits.writing t
  have hbeside := hbeside #[]
  simp only [Array.empty_append] at hbeside
  obtain ⟨after, ⟨a, b, _, hx, hy⟩ | ⟨f, hx, hy⟩⟩ := hbeside
  · rw [writeOnto, writeOnto, hx, hy]
    exact ⟨rfl, rfl⟩
  · rw [writeOnto, writeOnto, hx, hy]
    exact ⟨rfl, rfl⟩

end WriteOnto

/-- Texts between shifted placeholders are texts between later ones. -/
theorem interleave_shifted (place : Nat → String) (count : Nat) :
    ∀ (k : Nat) (texts : List String),
      interleave (shifted place count) k texts = interleave place (k + count) texts
  | _, [] => rfl
  | k, text :: texts => by
      have ih := interleave_shifted place count (k + 1) texts
      have hnext : k + 1 + count = k + count + 1 := by omega
      rw [interleave, interleave, ih, hnext, shifted]

/-- A tree that is written has its segments around placeholders from the first on, one for each value. -/
theorem writeOnto_segments [Limits] {place : Nat → String} {clause : Option String} {t : Tree}
    {sql : String} (h : (writeOnto place clause t #[]).1 = .ok sql) :
    sql = (segments t.lexemes).1 ++ interleave place 1 (segments t.lexemes).2 ∧
      (segments t.lexemes).2.length = (writeOnto place clause t #[]).2.size := by
  have hwritten : writeOnto place clause t #[] = (.ok sql, (writeOnto place clause t #[]).2) := by
    rw [← h]
  obtain ⟨_, hsql, hvalues⟩ := writeOnto_eq_ok_iff.mp hwritten
  constructor
  · rw [hsql, spell_eq_interleave]
    rfl
  · rw [hvalues, length_segments]
    simp

/-! ## 3. Several trees onto shared values -/

namespace Generator

variable (g : Generator)

/-- What trees bind, each written onto nothing, one after the other. -/
def bindings [Limits] (ts : List Tree) : List Literal :=
  ts.flatMap fun t => (writeOnto g.style.place g.clause t #[]).2.toList

theorem toArray_bindings_cons [Limits] (t : Tree) (ts : List Tree) :
    (g.bindings (t :: ts)).toArray
      = (writeOnto g.style.place g.clause t #[]).2 ++ (g.bindings ts).toArray := by
  simp [bindings]

theorem length_bindings_cons [Limits] (t : Tree) (ts : List Tree) :
    (g.bindings (t :: ts)).length
      = (writeOnto g.style.place g.clause t #[]).2.size + (g.bindings ts).length := by
  simp [bindings]

theorem length_bindings_take_succ [Limits] {ts : List Tree} {i : Nat} {t : Tree} (hi : ts[i]? = some t) :
    (g.bindings (ts.take (i + 1))).length
      = (g.bindings (ts.take i)).length + (writeOnto g.style.place g.clause t #[]).2.size := by
  rw [List.take_add_one, hi]
  simp [bindings]

/-- A step that gives a tree. -/
def Takes [Limits] (step : Bool × Given) (t : Tree) : Prop := step.2.fragment >>= g.treeOf step.1 = .ok t

/-- Written onto bound values, a tree gives the text with shifted placeholders and appends its own values. -/
theorem writeOnto_shared [Limits] (t : Tree) (bound : Array Literal) :
    writeOnto g.style.place g.clause t bound =
      ((writeOnto (shifted g.style.place bound.size) g.clause t #[]).1,
        bound ++ (writeOnto g.style.place g.clause t #[]).2) := by
  rw [writeOnto_onto, (writeOnto_blind (shifted g.style.place bound.size) g.style.place g.clause t).1]

/-- **Each of several trees that share their values is written after the values of those before it.** -/
theorem getElem?_generateAll [Limits] {steps : List (Bool × Given)} {ts : List Tree}
    (h : List.Forall₂ g.Takes steps ts) : ∀ (bound : Array Literal) (i : Nat) (t : Tree), ts[i]? = some t →
      (g.generateAll true steps bound)[i]? = some
        ((writeOnto (shifted g.style.place (bound.size + (g.bindings (ts.take i)).length)) g.clause t
            #[]).1.mapError .compile,
          bound ++ (g.bindings (ts.take (i + 1))).toArray) := by
  induction h with
  | nil =>
    intro bound i t hi
    simp at hi
  | @cons step u steps ts hstep _ ih =>
    intro bound i t hi
    have hgenerated := g.generate_of_treeOf step.1 hstep bound
    rw [writeOnto_shared] at hgenerated
    rw [generateAll, hgenerated]
    cases i with
    | zero =>
      obtain rfl : u = t := by simpa using hi
      simp [bindings]
    | succ i =>
      have hrest := ih (bound ++ (writeOnto g.style.place g.clause u #[]).2) i t (by simpa using hi)
      simp only [if_true, List.getElem?_cons_succ, hrest, List.take_succ_cons, toArray_bindings_cons,
        length_bindings_cons, Array.size_append, Array.append_assoc, Nat.add_assoc]

/-- **Writing appends to shared values.** Onto bound values, a tree gives the outcome that it gives onto
    none with placeholders shifted by their number, appends the values that it appends to none, and fails
    exactly if it does so there. So each of several trees that share their values has the placeholders from
    the position after the values before it up to the last of its own. -/
theorem generateAll_shared [Limits] (g : Generator) (bound : Array Literal) :
    (∀ t : Tree,
      writeOnto g.style.place g.clause t bound =
        ((writeOnto (shifted g.style.place bound.size) g.clause t #[]).1,
          bound ++ (writeOnto g.style.place g.clause t #[]).2) ∧
      (writeOnto g.style.place g.clause t bound).1.isOk
        = (writeOnto g.style.place g.clause t #[]).1.isOk) ∧
    ∀ (steps : List (Bool × Given)) (ts : List Tree), List.Forall₂ g.Takes steps ts →
      ∀ (i : Nat) (t : Tree), ts[i]? = some t →
        ∃ before outcome after,
          before = bound ++ (g.bindings (ts.take i)).toArray ∧
          after = bound ++ (g.bindings (ts.take (i + 1))).toArray ∧
          (g.generateAll true steps bound)[i]? = some (outcome, after) ∧
          outcome = (writeOnto (shifted g.style.place before.size) g.clause t #[]).1.mapError .compile ∧
          ∀ sql, outcome = .ok sql →
            sql = (segments t.lexemes).1 ++ interleave g.style.place (before.size + 1) (segments t.lexemes).2 ∧
              before.size + (segments t.lexemes).2.length = after.size := by
  constructor
  · intro t
    have hblind := (writeOnto_blind (shifted g.style.place bound.size) g.style.place g.clause t).2
    exact ⟨g.writeOnto_shared t bound, by rw [writeOnto_shared, hblind]⟩
  · intro steps ts hsteps i t hi
    have hsize (values : List Literal) : (bound ++ values.toArray).size = bound.size + values.length := by
      simp
    refine ⟨_, _, _, rfl, rfl, ?_, rfl, ?_⟩
    · rw [hsize]
      exact g.getElem?_generateAll hsteps bound i t hi
    · intro sql hsql
      obtain ⟨htext, hcount⟩ := writeOnto_segments (eq_ok_of_mapError hsql)
      have hvalues := (writeOnto_blind
        (shifted g.style.place (bound ++ (g.bindings (ts.take i)).toArray).size) g.style.place g.clause t).1
      constructor
      · rw [htext, interleave_shifted, Nat.add_comm 1]
      · rw [hcount, hvalues, hsize, hsize, g.length_bindings_take_succ hi, Nat.add_assoc]

/-- A comparison, a conjunction that fails after its first half, and a membership test. -/
def sharedTrees : List Tree :=
  [.compare .ge (.member "age") (.literal (.int 18)),
    .connect .and (.compare .eq (.member "city") (.literal (.str "Bonn")))
      (.binary "~" (.member "a") (.literal .null)),
    .membership "rank" [.literal (.int 1), .literal (.bool true)]]

/-- The trees, each given as data. -/
def sharedSteps : List (Bool × Given) := sharedTrees.map fun t => (true, .node t.toData)

/-- A generator that numbers its placeholders. -/
def numbering : Generator := ⟨Style.numeric, some "HAVING"⟩

theorem generateAll_shared_numeric :
    List.Forall₂ numbering.Takes sharedSteps sharedTrees ∧
      (numbering.generateAll true sharedSteps #[.str "x"])[2]?
        = some (.ok "rank IN (:4, :5)", #[.str "x", .int 18, .str "Bonn", .int 1, .bool true]) ∧
      "rank IN (:4, :5)" = "rank IN (" ++ interleave Style.numeric.place (3 + 1) [", ", ")"] := by
  have hsteps : List.Forall₂ numbering.Takes sharedSteps sharedTrees :=
    .cons rfl (.cons rfl (.cons rfl .nil))
  obtain ⟨before, outcome, after, rfl, rfl, hanswer, rfl, htext⟩ :=
    (generateAll_shared numbering #[.str "x"]).2 _ _ hsteps 2 _ rfl
  exact ⟨hsteps, hanswer, (htext "rank IN (:4, :5)" rfl).1⟩

end Generator

end BoundQuery.Sql
