import BoundQuery.Proofs.Fragment.Lambda
import BoundQuery.Proofs.Fragment.Agreement
import BoundQuery.Proofs.Fragment.Selection

/-!
# One notion of a field

A fragment is read as a key, as a predicate or as a selector, and each of the three has its own way through
texts, callables and values. All of them mean the same by a single field: `Fragment.NamesField` says which
field a fragment names, if it names one, and

* `Fragment.key_eq_ok_iff` – this is the key of the fragment;
* `Fragment.predicate_eq_member_iff` – it is the predicate if that is a field and nothing else;
* `Fragment.NamesField.selector_eq` – it is all that the fragment selects.

A predicate could only be a field by other means if a chain of one operand stood for its operand, and no text
has such a chain (`Term.Parsed`).
-/

namespace BoundQuery

/-! ## 1. Terms -/

/-- Operands that are joined are no field. -/
theorem Tree.foldl_connect_ne_member (op : Connective) (name : String) : ∀ (rs : List Tree) (l : Tree),
    rs ≠ [] → rs.foldl (connect op) l ≠ .member name
  | [], _, hne => absurd rfl hne
  | [r], l, _ => by
      intro h
      cases h
  | r :: s :: rs, l, _ => foldl_connect_ne_member op name (s :: rs) (.connect op l r) (by simp)

namespace Term

variable {scope : Scope} {t body : Term} {name : String}

/-- **Of the terms that are read, only the name of a field is read as a field.** -/
theorem toTree_eq_member_iff (ht : t.Parsed) {room : Nat} (hroom : 0 < room) :
    toTree scope room t = .ok (.member name) ↔ t.fieldName scope = .ok name := by
  obtain ⟨room, rfl⟩ := Nat.exists_eq_add_one_of_ne_zero hroom.ne'
  rw [toTree_succ_eq_ok_iff]
  constructor
  · intro h
    generalize htree : Tree.member name = tree at h
    cases h with
    | member hname =>
      cases htree
      exact hname
    | chain op hfirst hrest =>
      rename_i first rest l rs
      have hrs : rs ≠ [] := by
        rintro rfl
        cases rest with
        | nil => exact ht rfl
        | cons u rest =>
          obtain ⟨_, hmem, _⟩ := exists_mem_of_mapM hrest u List.mem_cons_self
          cases hmem
      exact absurd htree.symm (Tree.foldl_connect_ne_member op name rs l hrs)
    | test htest | testCall _ htest =>
      cases htest
      cases htree
    | _ => cases htree
  · exact .member

theorem key_eq_ok_iff (hopened : t.opened = .ok (scope, body)) :
    t.key = .ok name ↔ body.fieldName scope = .ok name := by
  have hkey : t.key = Failure.lift (body.fieldName scope) := by
    rw [key, hopened]
    rfl
  rw [hkey]
  refine ⟨Failure.eq_ok_of_lift, fun hname => ?_⟩
  rw [hname]
  rfl

theorem predicate_eq_member_iff [Limits] (ht : t.Parsed) (hopened : t.opened = .ok (scope, body)) :
    t.predicate = .ok (.member name) ↔ body.fieldName scope = .ok name := by
  have hroom : 0 < Limits.reading := Nat.lt_of_lt_of_le (by decide) Limits.four_le_reading
  rw [predicate_eq_ok_iff hopened, toTree_eq_member_iff (ht.of_opened hopened) hroom]
  exact and_iff_left rfl

/-- A term that names a field is no display, so that it selects this field. -/
theorem selector_of_fieldName (hopened : t.opened = .ok (scope, body))
    (hname : body.fieldName scope = .ok name) : t.selector = .ok [name] := by
  rw [selector, hopened]
  simp only [Failure.lift, Except.mapError, bind, Except.bind]
  split
  · cases hname
  · cases hname
  · cases hname
  · rw [hname]
    rfl

end Term

/-! ## 2. Values -/

/-- A value stands for a field in a tree exactly if it names one. -/
theorem Value.asTree_eq_member_iff {v : Value} {name : String} :
    v.asTree = .ok (.member name) ↔ v.fieldName? = some name := by
  cases v with
  | field field => simp [asTree, fieldName?]
  | predicate tree | tree tree => cases tree <;> simp [asTree, fieldName?]
  | _ => simp [asTree, fieldName?]

namespace Fragment

section Values

variable {v : Value} {name : String}

theorem rejecting_eq_ok_iff {α : Type} {f : Fragment} {outcome : Except Failure α} {a : α} :
    f.rejecting outcome = .ok a ↔ outcome = .ok a := agree_rejecting f outcome a

theorem keyOf_eq_ok_iff : keyOf v = .ok name ↔ v.fieldName? = some name := by
  unfold keyOf
  cases v.fieldName? <;> simp

theorem returnedTree_eq_member_iff :
    returnedTree v = .ok (.member name) ↔ v.fieldName? = some name := by
  rw [← Value.asTree_eq_member_iff, returnedTree]
  constructor
  · intro h
    obtain ⟨tree, htree, h⟩ := exists_of_bind_eq_ok h
    cases tree with
    | member field =>
      cases h
      exact htree
    | _ => cases h
  · intro h
    rw [h]
    rfl

theorem valueNames_of_fieldName? (h : v.fieldName? = some name) : valueNames v = .ok [name] := by
  simp only [valueNames, h]

/-- A value is taken as a predicate if it is a tree or was recorded, and else it names no field. -/
theorem predicate_value_eq_member_iff [Limits] :
    (Fragment.value v).predicate = .ok (.member name) ↔ v.fieldName? = some name := by
  cases v with
  | tree tree | predicate tree => cases tree <;> simp [predicate, Value.recorded?, Value.fieldName?]
  | field field => simp [predicate, Value.recorded?, Value.fieldName?]
  | _ => simp [predicate, Value.recorded?, Value.fieldName?, rejecting_eq_ok_iff]

theorem key_value_eq_ok_iff [Limits] : (Fragment.value v).key = .ok name ↔ v.fieldName? = some name := by
  cases v with
  | tree tree => rw [key, rejecting_eq_ok_iff, keyOf_eq_ok_iff]
  | field field | predicate tree =>
    simp only [key, Value.recorded?, Option.isSome_some, if_true, rejecting_eq_ok_iff, keyOf_eq_ok_iff]
  | _ => simp [key, Value.recorded?, Value.fieldName?, rejecting_eq_ok_iff]

end Values

/-! ## 3. Fragments -/

/-- The field that a fragment names: as a text by the term it opens, as a callable by what it returns, and
    as a value by itself. -/
inductive NamesField [Limits] : Fragment → String → Prop
  | text {text name : String} {t body : Term} {scope : Scope} (hterm : TextFragment.term text = .ok t)
      (hopened : t.opened = .ok (scope, body)) (hname : body.fieldName scope = .ok name) :
      NamesField (.text text) name
  | callable {c : Callable} {v : Value} {name : String} (hcall : c.call = .ok v)
      (hname : v.fieldName? = some name) : NamesField (.callable c) name
  | value {v : Value} {name : String} (hname : v.fieldName? = some name) : NamesField (.value v) name

variable {f : Fragment} {name : String}

/-- **The key of a fragment is the field it names.** -/
theorem key_eq_ok_iff [Limits] : f.key = .ok name ↔ f.NamesField name := by
  cases f with
  | text text =>
    constructor
    · intro h
      obtain ⟨t, hterm, hkey⟩ := exists_of_bind_eq_ok (eq_ok_of_rejecting h)
      obtain ⟨⟨scope, body⟩, hopened, hname⟩ := exists_of_bind_eq_ok hkey
      exact .text (Failure.eq_ok_of_lift hterm) (Failure.eq_ok_of_lift hopened)
        (Failure.eq_ok_of_lift hname)
    · rintro (⟨hterm, hopened, hname⟩ | _ | _)
      exact (agree_key hterm name).mpr ((Term.key_eq_ok_iff hopened).mpr hname)
  | callable c =>
    constructor
    · intro h
      obtain ⟨v, hcall, h⟩ := exists_of_bind_eq_ok h
      exact .callable hcall (keyOf_eq_ok_iff.mp (eq_ok_of_rejecting h))
    · rintro (_ | ⟨hcall, hname⟩ | _)
      rw [key, hcall]
      exact (agree_rejecting _ _ name).mpr (keyOf_eq_ok_iff.mpr hname)
  | value v =>
    rw [key_value_eq_ok_iff]
    constructor
    · exact .value
    · rintro (_ | _ | hname)
      exact hname

/-- **A fragment is the predicate of a single field exactly if it names this field.** -/
theorem predicate_eq_member_iff [Limits] : f.predicate = .ok (.member name) ↔ f.NamesField name := by
  cases f with
  | text text =>
    constructor
    · intro h
      obtain ⟨t, hterm, hpredicate⟩ := exists_term_of_predicate h
      obtain ⟨scope, body, hopened, _⟩ := Term.exists_toTree_of_predicate hpredicate
      have hparsed := TextFragment.parsed_of_term hterm
      exact .text hterm hopened ((Term.predicate_eq_member_iff hparsed hopened).mp hpredicate)
    · rintro (⟨hterm, hopened, hname⟩ | _ | _)
      have hparsed := TextFragment.parsed_of_term hterm
      exact (agree_predicate hterm _).mpr ((Term.predicate_eq_member_iff hparsed hopened).mpr hname)
  | callable c =>
    constructor
    · intro h
      obtain ⟨v, hcall, h⟩ := exists_of_bind_eq_ok h
      exact .callable hcall (returnedTree_eq_member_iff.mp (eq_ok_of_rejecting h))
    · rintro (_ | ⟨hcall, hname⟩ | _)
      rw [predicate, hcall]
      exact (agree_rejecting _ _ _).mpr (returnedTree_eq_member_iff.mpr hname)
  | value v =>
    rw [predicate_value_eq_member_iff]
    constructor
    · exact .value
    · rintro (_ | _ | hname)
      exact hname

/-- **A fragment that names a field selects this field and no other.** -/
theorem NamesField.selector_eq [Limits] (h : f.NamesField name) : f.selector = .ok [name] := by
  cases h with
  | text hterm hopened hname =>
    exact (agree_selector hterm _).mpr (Term.selector_of_fieldName hopened hname)
  | callable hcall hname =>
    rw [selector, hcall]
    exact (agree_rejecting _ _ _).mpr (valueNames_of_fieldName? hname)
  | value hname => exact (agree_rejecting _ _ _).mpr (valueNames_of_fieldName? hname)

/-- **Keys, predicates and selectors agree on what a field is.** Whatever a fragment is, its key is a field
    exactly if its predicate is this field alone, and then the field is all that it selects. -/
theorem entries_agree_on_fields [Limits] (f : Fragment) (name : String) :
    (f.key = .ok name ↔ f.predicate = .ok (.member name)) ∧
      (f.key = .ok name → selectAll [f] = .ok [name]) := by
  refine ⟨key_eq_ok_iff.trans predicate_eq_member_iff.symm, fun h => ?_⟩
  have hselector := (key_eq_ok_iff.mp h).selector_eq
  exact selectAll_singleton_eq_ok_iff.mpr ⟨[name], hselector, rfl, by simp⟩

/-- A field that only an item can name. -/
def pricedText : String := "lambda parcel: parcel['unit price']"

/-- The term of this text. -/
def pricedTerm : Term :=
  .lambdaOf ⟨"parcel", by decide⟩
    (.subscript (.name ⟨"parcel", by decide⟩) (.constant (.literal (.str "unit price"))))

theorem reads_priced : Phrase.reads pricedText pricedTerm := by decide +kernel

theorem entries_agree_on_fields_item :
    (Fragment.text pricedText).key = .ok "unit price" ∧
      (Fragment.text pricedText).predicate = .ok (.member "unit price") ∧
      selectAll [.text pricedText] = .ok ["unit price"] := by
  have hkey : (Fragment.text pricedText).key = .ok "unit price" :=
    (agree_key (Phrase.term_eq_of_reads reads_priced) _).mpr rfl
  obtain ⟨hpredicate, hselected⟩ := entries_agree_on_fields (.text pricedText) "unit price"
  exact ⟨hkey, hpredicate.mp hkey, hselected hkey⟩

end Fragment

end BoundQuery
