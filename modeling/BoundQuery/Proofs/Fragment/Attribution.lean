import BoundQuery.Proofs.Fragment.Referring
import BoundQuery.Proofs.Fragment.Splitting

/-!
# Rejections and the texts they are about

A text that is rejected stands in its rejection as it was given. `Fragment.text_failures` says this of keys
without exception. A predicate and a selector fail in another way where the message would show an integer
that is too long to be written, and a selector that names nothing is rejected with all selectors in its
place, also where there is only one.

* `Fragment.Carried` – a failure to read a text is a rejection with that text;
* `Explained` – before the text is known: what fails has a cause, or shows what cannot be written. It passes
  through sequences of steps, so each reader is gone through once.
* `Fragment.LongConstant`, `Fragment.LongKey` and `Fragment.SelectsNothing` – the texts that make the
  difference.
-/

namespace BoundQuery

/-! ## 1. Failures of steps -/

/-- A step or one after it fails. -/
theorem bind_eq_error_iff {ε α β : Type} {x : Except ε α} {f : α → Except ε β} {e : ε} :
    x >>= f = .error e ↔ x = .error e ∨ ∃ a, x = .ok a ∧ f a = .error e := by
  cases x with
  | error e' =>
    constructor
    · intro h
      cases h
      exact .inl rfl
    · rintro (h | ⟨a, ha, _⟩)
      · cases h
        rfl
      · cases ha
  | ok a =>
    constructor
    · intro h
      exact .inr ⟨a, rfl, h⟩
    · rintro (h | ⟨b, hb, h⟩)
      · cases h
      · cases hb
        exact h

theorem Failure.lift_ne_unwritable {α : Type} (x : Except Cause α) : lift x ≠ .error .unwritable := by
  cases x with
  | error cause =>
    intro h
    cases h
  | ok a =>
    intro h
    cases h

theorem Failure.lift_bind_eq_unwritable_iff {α β : Type} {x : Except Cause α} {f : α → Except Failure β} :
    lift x >>= f = .error .unwritable ↔ ∃ a, x = .ok a ∧ f a = .error .unwritable := by
  rw [bind_eq_error_iff, or_iff_right (lift_ne_unwritable x)]
  constructor
  · rintro ⟨a, ha, h⟩
    exact ⟨a, eq_ok_of_lift ha, h⟩
  · rintro ⟨a, rfl, h⟩
    exact ⟨a, rfl, h⟩

theorem Failure.lift_bind_eq_ok_iff {α β : Type} {x : Except Cause α} {f : α → Except Failure β} {b : β} :
    lift x >>= f = .ok b ↔ ∃ a, x = .ok a ∧ f a = .ok b := by
  constructor
  · intro h
    obtain ⟨a, ha, h⟩ := exists_of_bind_eq_ok h
    exact ⟨a, eq_ok_of_lift ha, h⟩
  · rintro ⟨a, rfl, h⟩
    exact h

theorem Failure.showing_eq_unwritable_iff {text? : Option String} {cause : String → Cause} :
    showing text? cause = .unwritable ↔ text? = none := by
  cases text? with
  | none => exact ⟨fun _ => rfl, fun _ => rfl⟩
  | some text =>
    constructor
    · intro h
      cases h
    · intro h
      cases h

/-- What fails has a cause, or shows an integer that cannot be written. -/
def Explained {α : Type} (x : Except Failure α) : Prop :=
  ∀ failure, x = .error failure → failure = .unwritable ∨ ∃ cause, failure = .ofCause cause

section Explained

variable {α β : Type}

theorem Explained.ok (a : α) : Explained (.ok a) := by
  intro failure h
  cases h

theorem explained_ofCause (cause : Cause) : Explained (.error (.ofCause cause) : Except Failure α) := by
  intro failure h
  cases h
  exact .inr ⟨cause, rfl⟩

theorem explained_showing (text? : Option String) (cause : String → Cause) :
    Explained (.error (.showing text? cause) : Except Failure α) := by
  intro failure h
  cases h
  cases text? with
  | none => exact .inl rfl
  | some text => exact .inr ⟨cause text, rfl⟩

theorem explained_lift (x : Except Cause α) : Explained (Failure.lift x) := by
  cases x with
  | ok a => exact .ok a
  | error cause => exact explained_ofCause cause

theorem Explained.bind {x : Except Failure α} {f : α → Except Failure β} (hx : Explained x)
    (hf : ∀ a, Explained (f a)) : Explained (x >>= f) := by
  intro failure h
  rcases bind_eq_error_iff.mp h with h | ⟨a, _, h⟩
  · exact hx failure h
  · exact hf a failure h

end Explained

/-! ## 2. Terms -/

/-- Only an integer may be too long to be shown. -/
theorem Literal.shown?_eq_none_iff {value : Literal} :
    value.shown? = none ↔ ∃ n, value = .int n ∧ decimal? n = none := by
  cases value with
  | int n => simp [shown?]
  | bool b => cases b <;> simp [shown?]
  | _ => simp [shown?]

theorem Constant.shown?_eq_none_iff {key : Constant} :
    key.shown? = none ↔ ∃ n, key = .literal (.int n) ∧ decimal? n = none := by
  cases key with
  | literal value => simp [shown?, Literal.shown?_eq_none_iff]
  | _ => simp [shown?]

namespace Term

theorem explained_key (t : Term) : Explained t.key :=
  (explained_lift _).bind fun _ => explained_lift _

theorem explained_predicate [Limits] (t : Term) : Explained t.predicate := by
  refine (explained_lift _).bind fun _ => (explained_lift _).bind fun tree => ?_
  split
  · exact explained_showing _ _
  · exact .ok _

/-- The projected fields of the body of a term. -/
def selected (scope : Scope) : Term → Except Failure (List String)
  | .dict keys values => selectorEntries scope keys values
  | .tuple items => Failure.lift (items.mapM (fieldName scope))
  | .list items => Failure.lift (items.mapM (fieldName scope))
  | body => do return [← Failure.lift (body.fieldName scope)]

theorem selector_eq (t : Term) :
    t.selector = Failure.lift t.opened >>= fun opened => opened.2.selected opened.1 := rfl

theorem explained_labelledBy (field : String) (key : Constant) : Explained (labelledBy field key) := by
  unfold labelledBy
  split
  · exact .ok _
  · exact explained_showing _ _

theorem explained_selectorEntries (scope : Scope) : ∀ keys values : List Term,
    Explained (selectorEntries scope keys values)
  | [], _ => .ok []
  | _ :: _, [] => .ok []
  | key :: keys, value :: values => by
      unfold selectorEntries
      split
      · exact (explained_lift _).bind fun field => (explained_labelledBy field _).bind fun _ =>
          (explained_selectorEntries scope keys values).bind fun _ => .ok _
      · exact explained_ofCause _

theorem explained_selected (scope : Scope) (body : Term) : Explained (body.selected scope) := by
  unfold selected
  split
  · exact explained_selectorEntries _ _ _
  · exact explained_lift _
  · exact explained_lift _
  · exact (explained_lift _).bind fun _ => .ok _

theorem explained_selector (t : Term) : Explained t.selector := by
  rw [selector_eq]
  exact (explained_lift _).bind fun opened => explained_selected opened.1 opened.2

/-- A predicate shows what cannot be written exactly if it is a single integer that is too long. -/
theorem predicate_eq_unwritable_iff [Limits] {t : Term} : t.predicate = .error .unwritable ↔
    ∃ scope body n, t.opened = .ok (scope, body) ∧
      body.toTree scope Limits.reading = .ok (.literal (.int n)) ∧ decimal? n = none := by
  constructor
  · intro h
    obtain ⟨⟨scope, body⟩, hopened, h⟩ := Failure.lift_bind_eq_unwritable_iff.mp h
    obtain ⟨tree, htree, h⟩ := Failure.lift_bind_eq_unwritable_iff.mp h
    split at h
    · have hshown := Failure.showing_eq_unwritable_iff.mp (Except.error.inj h)
      obtain ⟨n, rfl, hn⟩ := Literal.shown?_eq_none_iff.mp hshown
      exact ⟨scope, body, n, hopened, htree, hn⟩
    · cases h
  · rintro ⟨scope, body, n, hopened, htree, hn⟩
    refine Failure.lift_bind_eq_unwritable_iff.mpr ⟨(scope, body), hopened, ?_⟩
    refine Failure.lift_bind_eq_unwritable_iff.mpr ⟨.literal (.int n), htree, ?_⟩
    exact congrArg Except.error (Failure.showing_eq_unwritable_iff.mpr hn)

/-- A key of a dictionary display is an integer that is too long, and the entries before it are accepted. -/
inductive LongKey (scope : Scope) : List Term → List Term → Prop
  | here {n : Int} {keys values : List Term} {value : Term} {field : String}
      (hfield : value.fieldName scope = .ok field) (hlong : decimal? n = none) :
      LongKey scope (.constant (.literal (.int n)) :: keys) (value :: values)
  | later {key : Constant} {keys values : List Term} {value : Term} {field label : String}
      (hfield : value.fieldName scope = .ok field) (hlabel : labelledBy field key = .ok label)
      (h : LongKey scope keys values) : LongKey scope (.constant key :: keys) (value :: values)

/-- A display without any entry. -/
inductive EmptyDisplay : Term → Prop
  | dict {keys values : List Term} (h : keys.zip values = []) : EmptyDisplay (.dict keys values)
  | tuple : EmptyDisplay (.tuple [])
  | list : EmptyDisplay (.list [])

theorem labelledBy_eq_unwritable_iff {field : String} {key : Constant} :
    labelledBy field key = .error .unwritable ↔ ∃ n, key = .literal (.int n) ∧ decimal? n = none := by
  constructor
  · intro h
    unfold labelledBy at h
    split at h
    · cases h
    · exact Constant.shown?_eq_none_iff.mp (Failure.showing_eq_unwritable_iff.mp (Except.error.inj h))
  · rintro ⟨n, rfl, hn⟩
    exact congrArg Except.error (Failure.showing_eq_unwritable_iff.mpr hn)

/-- **A dictionary display shows what cannot be written exactly if it comes to a key that is too long.** -/
theorem selectorEntries_eq_unwritable_iff {scope : Scope} : ∀ {keys values : List Term},
    selectorEntries scope keys values = .error .unwritable ↔ LongKey scope keys values
  | [], values => by
      constructor
      · intro h
        cases h
      · intro h
        cases h
  | key :: keys, [] => by
      constructor
      · intro h
        cases h
      · intro h
        cases h
  | key :: keys, value :: values => by
      have ih : selectorEntries scope keys values = .error .unwritable ↔ LongKey scope keys values :=
        selectorEntries_eq_unwritable_iff
      constructor
      · intro h
        unfold selectorEntries at h
        split at h
        · obtain ⟨field, hfield, h⟩ := Failure.lift_bind_eq_unwritable_iff.mp h
          rcases bind_eq_error_iff.mp h with h | ⟨label, hlabel, h⟩
          · obtain ⟨n, rfl, hn⟩ := labelledBy_eq_unwritable_iff.mp h
            exact .here hfield hn
          · rcases bind_eq_error_iff.mp h with h | ⟨rest, _, h⟩
            · exact .later hfield hlabel (ih.mp h)
            · cases h
        · cases h
      · intro h
        cases h with
        | here hfield hlong =>
          refine Failure.lift_bind_eq_unwritable_iff.mpr ⟨_, hfield, ?_⟩
          exact bind_eq_error_iff.mpr (.inl (labelledBy_eq_unwritable_iff.mpr ⟨_, rfl, hlong⟩))
        | later hfield hlabel h =>
          refine Failure.lift_bind_eq_unwritable_iff.mpr ⟨_, hfield, ?_⟩
          refine bind_eq_error_iff.mpr (.inr ⟨_, hlabel, ?_⟩)
          exact bind_eq_error_iff.mpr (.inl (ih.mpr h))

theorem selectorEntries_eq_nil_iff {scope : Scope} {keys values : List Term} :
    selectorEntries scope keys values = .ok [] ↔ keys.zip values = [] := by
  rcases keys with _ | ⟨key, keys⟩
  · simp [selectorEntries]
  rcases values with _ | ⟨value, values⟩
  · simp [selectorEntries]
  -- An entry that is accepted gives a name.
  simp only [List.zip_cons_cons, reduceCtorEq, iff_false]
  intro h
  unfold selectorEntries at h
  split at h
  · obtain ⟨field, _, h⟩ := exists_of_bind_eq_ok h
    obtain ⟨label, _, h⟩ := exists_of_bind_eq_ok h
    obtain ⟨rest, _, h⟩ := exists_of_bind_eq_ok h
    cases h
  · cases h

theorem lift_fieldNames_eq_nil_iff {scope : Scope} {items : List Term} :
    Failure.lift (items.mapM (fieldName scope)) = .ok [] ↔ items = [] := by
  constructor
  · intro h
    cases items with
    | nil => rfl
    | cons item items =>
      have h := Failure.eq_ok_of_lift h
      rw [List.mapM_cons] at h
      obtain ⟨name, _, h⟩ := exists_of_bind_eq_ok h
      obtain ⟨names, _, h⟩ := exists_of_bind_eq_ok h
      cases h
  · rintro rfl
    rw [List.mapM_nil]
    rfl

theorem selected_eq_unwritable_iff {scope : Scope} {body : Term} :
    body.selected scope = .error .unwritable ↔
      ∃ keys values, body = .dict keys values ∧ LongKey scope keys values := by
  constructor
  · intro h
    unfold selected at h
    split at h
    · exact ⟨_, _, rfl, selectorEntries_eq_unwritable_iff.mp h⟩
    · exact absurd h (Failure.lift_ne_unwritable _)
    · exact absurd h (Failure.lift_ne_unwritable _)
    · obtain ⟨name, _, h⟩ := Failure.lift_bind_eq_unwritable_iff.mp h
      cases h
  · rintro ⟨keys, values, rfl, h⟩
    exact selectorEntries_eq_unwritable_iff.mpr h

theorem selected_eq_nil_iff {scope : Scope} {body : Term} : body.selected scope = .ok [] ↔ body.EmptyDisplay := by
  constructor
  · intro h
    unfold selected at h
    split at h
    · exact .dict (selectorEntries_eq_nil_iff.mp h)
    · obtain rfl := lift_fieldNames_eq_nil_iff.mp h
      exact .tuple
    · obtain rfl := lift_fieldNames_eq_nil_iff.mp h
      exact .list
    · obtain ⟨name, _, h⟩ := exists_of_bind_eq_ok h
      cases h
  · intro h
    cases h with
    | dict h => exact selectorEntries_eq_nil_iff.mpr h
    | tuple => exact lift_fieldNames_eq_nil_iff.mpr rfl
    | list => exact lift_fieldNames_eq_nil_iff.mpr rfl

end Term

/-! ## 3. Texts -/

namespace Fragment

/-- A text that fails is rejected, and the rejection has the text as it was given. -/
def Carried {α : Type} (text : String) (outcome : Except Failure α) : Prop :=
  ∀ failure, outcome = .error failure → ∃ cause, failure = .rejected ⟨cause, some text⟩

/-- A text is read as a term, and a scope and a body are what the term opens. -/
def Opens [Limits] (text : String) (scope : Scope) (body : Term) : Prop :=
  ∃ t, TextFragment.term text = .ok t ∧ t.opened = .ok (scope, body)

/-- A text stands for a single integer that is too long to be written. -/
def LongConstant [Limits] (text : String) : Prop :=
  ∃ n : Int, (Fragment.text text).StandsFor (.int n) ∧ decimal? n = none

/-- A text is a dictionary display that comes to a key that is too long to be written. -/
def LongKey [Limits] (text : String) : Prop :=
  ∃ scope keys values, Opens text scope (.dict keys values) ∧ Term.LongKey scope keys values

/-- A text is a display without any entry. -/
def SelectsNothing [Limits] (text : String) : Prop :=
  ∃ scope body, Opens text scope body ∧ body.EmptyDisplay

/-- All selectors together as a rejection shows them, where a text is the only one. -/
def aloneShown (text : String) : String := Text.tupleText [Text.quoted text]

end Fragment

namespace TextFragment

variable [Limits] {text : String}

theorem explained_key (text : String) : Explained (key text) :=
  (explained_lift _).bind Term.explained_key

theorem explained_predicate (text : String) : Explained (predicate text) :=
  (explained_lift _).bind Term.explained_predicate

theorem explained_selector (text : String) : Explained (selector text) :=
  (explained_lift _).bind Term.explained_selector

theorem key_ne_unwritable (text : String) : key text ≠ .error .unwritable := by
  intro h
  obtain ⟨t, _, h⟩ := Failure.lift_bind_eq_unwritable_iff.mp h
  obtain ⟨opened, _, h⟩ := Failure.lift_bind_eq_unwritable_iff.mp h
  exact Failure.lift_ne_unwritable _ h

theorem predicate_eq_unwritable_iff : predicate text = .error .unwritable ↔ Fragment.LongConstant text := by
  constructor
  · intro h
    obtain ⟨t, hterm, h⟩ := Failure.lift_bind_eq_unwritable_iff.mp h
    obtain ⟨scope, body, n, hopened, htree, hn⟩ := Term.predicate_eq_unwritable_iff.mp h
    exact ⟨n, .text hterm hopened htree, hn⟩
  · rintro ⟨n, h, hn⟩
    cases h with
    | text hterm hopened hbody =>
      refine Failure.lift_bind_eq_unwritable_iff.mpr ⟨_, hterm, ?_⟩
      exact Term.predicate_eq_unwritable_iff.mpr ⟨_, _, n, hopened, hbody, hn⟩

theorem selector_eq_unwritable_iff : selector text = .error .unwritable ↔ Fragment.LongKey text := by
  constructor
  · intro h
    obtain ⟨t, hterm, h⟩ := Failure.lift_bind_eq_unwritable_iff.mp h
    rw [Term.selector_eq] at h
    obtain ⟨⟨scope, body⟩, hopened, h⟩ := Failure.lift_bind_eq_unwritable_iff.mp h
    obtain ⟨keys, values, rfl, h⟩ := Term.selected_eq_unwritable_iff.mp h
    exact ⟨scope, keys, values, ⟨t, hterm, hopened⟩, h⟩
  · rintro ⟨scope, keys, values, ⟨t, hterm, hopened⟩, h⟩
    refine Failure.lift_bind_eq_unwritable_iff.mpr ⟨t, hterm, ?_⟩
    rw [Term.selector_eq]
    refine Failure.lift_bind_eq_unwritable_iff.mpr ⟨_, hopened, ?_⟩
    exact Term.selected_eq_unwritable_iff.mpr ⟨keys, values, rfl, h⟩

theorem selector_eq_nil_iff : selector text = .ok [] ↔ Fragment.SelectsNothing text := by
  constructor
  · intro h
    obtain ⟨t, hterm, h⟩ := Failure.lift_bind_eq_ok_iff.mp h
    rw [Term.selector_eq] at h
    obtain ⟨⟨scope, body⟩, hopened, h⟩ := Failure.lift_bind_eq_ok_iff.mp h
    exact ⟨scope, body, ⟨t, hterm, hopened⟩, Term.selected_eq_nil_iff.mp h⟩
  · rintro ⟨scope, body, ⟨t, hterm, hopened⟩, h⟩
    refine Failure.lift_bind_eq_ok_iff.mpr ⟨t, hterm, ?_⟩
    rw [Term.selector_eq]
    exact Failure.lift_bind_eq_ok_iff.mpr ⟨_, hopened, Term.selected_eq_nil_iff.mpr h⟩

end TextFragment

/-! ## 4. Fragments -/

namespace Fragment

variable {α : Type} {text : String} {outcome : Except Failure α}

theorem carried_ok (text : String) (a : α) : Carried text (.ok a : Except Failure α) := by
  intro failure h
  cases h

theorem not_carried_unwritable : ¬ Carried text (.error .unwritable : Except Failure α) := by
  intro h
  obtain ⟨cause, hcause⟩ := h _ rfl
  cases hcause

theorem rejecting_eq_unwritable_iff :
    (Fragment.text text).rejecting outcome = .error .unwritable ↔ outcome = .error .unwritable := by
  cases outcome with
  | ok a => simp [rejecting]
  | error failure =>
    cases failure with
    | rejected rejection =>
      constructor
      · intro h
        cases h
      · intro h
        cases h
    | _ => exact Iff.rfl

/-- A text is in the rejection of a reader that explains its failures, unless something cannot be written. -/
theorem carried_rejecting_iff (h : Explained outcome) :
    Carried text ((Fragment.text text).rejecting outcome) ↔ outcome ≠ .error .unwritable := by
  constructor
  · rintro hcarried rfl
    exact not_carried_unwritable hcarried
  · intro hne
    cases outcome with
    | ok a => exact carried_ok text a
    | error failure =>
      rcases h failure rfl with rfl | ⟨cause, rfl⟩
      · exact absurd rfl hne
      · intro failure hfailure
        cases hfailure
        exact ⟨cause, rfl⟩

theorem selector_eq_unwritable_iff [Limits] :
    (Fragment.text text).selector = .error .unwritable ↔ LongKey text :=
  rejecting_eq_unwritable_iff.trans TextFragment.selector_eq_unwritable_iff

theorem selector_eq_nil_iff [Limits] : (Fragment.text text).selector = .ok [] ↔ SelectsNothing text :=
  (agree_rejecting _ _ []).trans TextFragment.selector_eq_nil_iff

theorem carried_selector_iff [Limits] : Carried text (Fragment.text text).selector ↔ ¬ LongKey text :=
  (carried_rejecting_iff (TextFragment.explained_selector text)).trans
    TextFragment.selector_eq_unwritable_iff.not

/-! ## 5. One selector -/

theorem length_le_flatMap_quotedChar (quote : Char) : ∀ cs : List Char,
    cs.length ≤ (cs.flatMap (Text.quotedChar quote)).length
  | [] => Nat.le_refl 0
  | c :: cs => by
      have ih := length_le_flatMap_quotedChar quote cs
      have hchar : 0 < (Text.quotedChar quote c).length := by
        unfold Text.quotedChar
        split_ifs <;> simp
      rw [List.flatMap_cons, List.length_append, List.length_cons]
      omega

theorem length_lt_quoted (text : String) : text.toList.length < (Text.quoted text).toList.length := by
  have hle := length_le_flatMap_quotedChar (Text.quoteFor text.toList) text.toList
  simp only [Text.quoted, String.toList_ofList, List.length_cons, List.length_append]
  omega

/-- A text is not what stands for all selectors if it is the only one: that is longer. -/
theorem aloneShown_ne (text : String) : aloneShown text ≠ text := by
  intro h
  have hshown : (aloneShown text).toList = '(' :: ((Text.quoted text).toList ++ [',', ')']) := by
    simp [aloneShown, Text.tupleText]
  have hlength := congrArg List.length hshown
  rw [h, List.length_cons, List.length_append] at hlength
  have hquoted := length_lt_quoted text
  omega

theorem not_carried_aloneShown :
    ¬ Carried text (.error (.rejected ⟨.emptySelector, some (aloneShown text)⟩) : Except Failure α) := by
  intro h
  obtain ⟨cause, hcause⟩ := h _ rfl
  simp only [Failure.rejected.injEq, Rejection.mk.injEq, Option.some.injEq] at hcause
  exact aloneShown_ne text hcause.2

/-- What comes of the only selector: it fails, names nothing or names something. -/
theorem selectAll_alone [Limits] (text : String) :
    (∃ failure, (Fragment.text text).selector = .error failure ∧ selectAll [.text text] = .error failure) ∨
    ((Fragment.text text).selector = .ok [] ∧
      selectAll [.text text] = .error (.rejected ⟨.emptySelector, some (aloneShown text)⟩)) ∨
    (∃ names, (Fragment.text text).selector = .ok names ∧ names ≠ [] ∧
      selectAll [.text text] = .ok names.eraseDups) := by
  cases h : (Fragment.text text).selector with
  | error failure =>
    refine .inl ⟨failure, rfl, selectAll_of_error ?_⟩
    rw [List.mapM_cons, h]
    rfl
  | ok names =>
    by_cases hnil : names = []
    · subst hnil
      refine .inr (.inl ⟨rfl, ?_⟩)
      rw [selectAll, foldlM_addNames, List.mapM_cons, h]
      rfl
    · exact .inr (.inr ⟨names, rfl, hnil, selectAll_singleton_eq_ok_iff.mpr ⟨names, h, rfl, hnil⟩⟩)

theorem selectAll_alone_eq_unwritable_iff [Limits] :
    selectAll [.text text] = .error .unwritable ↔ LongKey text := by
  rw [← selector_eq_unwritable_iff]
  rcases selectAll_alone text with ⟨failure, hselector, h⟩ | ⟨hselector, h⟩ | ⟨names, hselector, _, h⟩
  · rw [hselector, h]
  · simp [hselector, h, Failure.unwritable]
  · simp [hselector, h]

theorem carried_selectAll_alone_iff [Limits] :
    Carried text (selectAll [.text text]) ↔ ¬ LongKey text ∧ ¬ SelectsNothing text := by
  rw [← carried_selector_iff, ← selector_eq_nil_iff]
  rcases selectAll_alone text with ⟨failure, hselector, h⟩ | ⟨hselector, h⟩ | ⟨names, hselector, hne, h⟩
  · simp [hselector, h]
  · simp [hselector, h, not_carried_aloneShown]
  · simp [hselector, h, hne, carried_ok]

theorem selectAll_alone_eq_empty_iff [Limits] :
    selectAll [.text text] = .error (.rejected ⟨.emptySelector, some (aloneShown text)⟩) ↔
      SelectsNothing text := by
  constructor
  · intro h
    -- Of the two ways to fail otherwise, neither is this one.
    have hlong : ¬ LongKey text := by
      rw [← selectAll_alone_eq_unwritable_iff, h]
      simp [Failure.unwritable]
    by_contra hsome
    have hcarried := carried_selectAll_alone_iff.mpr ⟨hlong, hsome⟩
    rw [h] at hcarried
    exact not_carried_aloneShown hcarried
  · intro h
    have hnil := selector_eq_nil_iff.mpr h
    rcases selectAll_alone text with ⟨failure, hselector, _⟩ | ⟨_, h⟩ | ⟨names, hselector, hne, _⟩
    · rw [hnil] at hselector
      cases hselector
    · exact h
    · rw [hnil] at hselector
      exact absurd (Except.ok.inj hselector).symm hne

/-- **What comes of a text that is read as a key, a predicate or the only selector.** A failure is a rejection
    with the text as it was given, except that a constant or a label may be too long for the message, and
    that a selector which names nothing is rejected as a list of selectors. -/
theorem text_failures [Limits] (text : String) :
    Carried text (Fragment.text text).key ∧
    (Carried text (Fragment.text text).predicate ↔ ¬ LongConstant text) ∧
    ((Fragment.text text).predicate = .error .unwritable ↔ LongConstant text) ∧
    (Carried text (selectAll [.text text]) ↔ ¬ LongKey text ∧ ¬ SelectsNothing text) ∧
    (selectAll [.text text] = .error .unwritable ↔ LongKey text) ∧
    (selectAll [.text text] = .error (.rejected ⟨.emptySelector, some (aloneShown text)⟩) ↔
      SelectsNothing text) := by
  refine ⟨?_, ?_, ?_, carried_selectAll_alone_iff, selectAll_alone_eq_unwritable_iff,
    selectAll_alone_eq_empty_iff⟩
  · exact (carried_rejecting_iff (TextFragment.explained_key text)).mpr (TextFragment.key_ne_unwritable text)
  · exact (carried_rejecting_iff (TextFragment.explained_predicate text)).trans
      TextFragment.predicate_eq_unwritable_iff.not
  · exact rejecting_eq_unwritable_iff.trans TextFragment.predicate_eq_unwritable_iff

theorem reads_emptyDisplay : Phrase.reads "\x7b\x7d" (.dict [] []) := by decide +kernel

/-- An empty display is not in its rejection as it was given. -/
theorem emptyDisplay_rejected :
    selectAll [.text "\x7b\x7d"] = .error (.rejected ⟨.emptySelector, some "('\x7b\x7d',)"⟩) ∧
    ¬ Carried "\x7b\x7d" (selectAll [.text "\x7b\x7d"]) := by
  have hnothing : SelectsNothing "\x7b\x7d" :=
    ⟨none, .dict [] [], ⟨_, Phrase.term_eq_of_reads reads_emptyDisplay, rfl⟩, .dict rfl⟩
  have hshown : aloneShown "\x7b\x7d" = "('\x7b\x7d',)" := by decide +kernel
  rw [← hshown]
  exact ⟨selectAll_alone_eq_empty_iff.mpr hnothing, fun h => (carried_selectAll_alone_iff.mp h).2 hnothing⟩

end Fragment

end BoundQuery
