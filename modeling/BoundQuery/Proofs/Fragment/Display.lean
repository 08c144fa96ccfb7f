import Mathlib.Data.List.Nodup
import BoundQuery.Proofs.Fragment.Columns

/-!
# Displays: selectors as texts and as callables

A `Display` is a selector that can be written as a text and as a callable: one field, several in a tuple or in
a list, or fields under labels in a dictionary. A text selects what is written in it, entry by entry
(`Display.selector_text`). A callable builds its dictionary first, in which a repeated label keeps its first
place and gets its last field (`Display.merged`), and selects what is left (`Display.selector_callable`).
Both agree exactly as long as no label stands for two fields (`Display.columns_eraseDups_eq_iff`).
-/

namespace BoundQuery

/-! ## 1. Displays -/

/-- A field as it is read from the record: as an attribute, or as an item. -/
inductive Display.Field where
  | access (id : Text.Identifier) (plain : id.text.startsWith "__" = false)
  | item (name : String) (nonempty : name.isEmpty = false)

/-- A selector that can be written as a text and as a callable. -/
inductive Display where
  | field (f : Display.Field)
  | tuple (fs : List Display.Field)
  | list (fs : List Display.Field)
  | dict (entries : List (String × Display.Field))

namespace Display

/-- The name of a field. -/
def Field.name : Field → String
  | .access id _ => id.text
  | .item name _ => name

/-- The term of a field; `u` is the name of the record. -/
def Field.term (u : Text.Identifier) : Field → Term
  | .access id _ => .access (.name u) id
  | .item name _ => .subscript (.name u) (.constant (.literal (.str name)))

/-- The body of a field. -/
def Field.body : Field → Body
  | .access id _ => .access .argument id.text
  | .item name _ => .item .argument (.literal (.str name))

/-- The term of a display; `u` is the name of the record. -/
def term (u : Text.Identifier) : Display → Term
  | .field f => f.term u
  | .tuple fs => .tuple (fs.map (Field.term u))
  | .list fs => .list (fs.map (Field.term u))
  | .dict entries =>
      .dict (entries.map fun e => .constant (.literal (.str e.1))) (entries.map fun e => e.2.term u)

/-- The body of a display. -/
def body : Display → Body
  | .field f => f.body
  | .tuple fs => .tuple (fs.map Field.body)
  | .list fs => .list (fs.map Field.body)
  | .dict entries =>
      .dict (entries.map fun e => .literal (.str e.1)) (entries.map fun e => e.2.body)

/-- The column that an entry of a dictionary asks for. -/
def column (e : String × Field) : Column := ⟨e.2.name, e.1⟩

/-- The columns that the entries of a dictionary ask for. -/
def columns (entries : List (String × Field)) : List Column := entries.map column

/-- The names that a display selects, entry by entry. -/
def Selects : Display → List String → Prop
  | .field f, names => names = [f.name]
  | .tuple fs, names => names = fs.map Field.name
  | .list fs, names => names = fs.map Field.name
  | .dict entries, names => (∀ c ∈ columns entries, Text.isIdentifier c.label = true) ∧
      names = (columns entries).map Column.entry

/-- The entries of a dictionary with each label once: in its first place, and with its last field. -/
def merge (entries : List (String × Field)) : List (String × Field) :=
  (entries.map (·.1)).eraseDups.filterMap fun key => entries.reverse.find? fun e => e.1 == key

/-- The display with each label once. -/
def merged : Display → Display
  | .dict entries => .dict (merge entries)
  | display => display

/-- No label stands for two fields. -/
def Consistent : Display → Prop
  | .dict entries => ∀ e ∈ entries, ∀ e' ∈ entries, e.1 = e'.1 → e.2.name = e'.2.name
  | _ => True

instance : DecidablePred Consistent
  | .dict entries =>
      inferInstanceAs (Decidable (∀ e ∈ entries, ∀ e' ∈ entries, e.1 = e'.1 → e.2.name = e'.2.name))
  | .field _ => isTrue trivial
  | .tuple _ => isTrue trivial
  | .list _ => isTrue trivial

/-! ## 2. Texts -/

theorem ok_eq_ok_iff {list names : List String} :
    (.ok list : Except Failure (List String)) = .ok names ↔ names = list := by
  rw [Except.ok.injEq, eq_comm]

theorem Field.fieldName_term (u : Text.Identifier) (f : Field) :
    (f.term u).fieldName (some u) = .ok f.name := by
  cases f with
  | access id _ => simp [Field.term, Field.name, Term.fieldName, Term.path?, Term.joined]
  | item name nonempty => simp [Field.term, Field.name, Term.fieldName, nonempty]

theorem mapM_fieldName (u : Text.Identifier) : ∀ fs : List Field,
    (fs.map (Field.term u)).mapM (Term.fieldName (some u)) = .ok (fs.map Field.name)
  | [] => rfl
  | f :: fs => by
      rw [List.map_cons, List.mapM_cons, f.fieldName_term, mapM_fieldName u fs]
      rfl

theorem zipWith_column? (u : Text.Identifier) : ∀ entries : List (String × Field),
    List.zipWith (Term.column? (some u)) (entries.map fun e => .constant (.literal (.str e.1)))
        (entries.map fun e => e.2.term u)
      = (columns entries).map some
  | [] => rfl
  | (key, f) :: entries => by
      have hcolumn : Term.column? (some u) (.constant (.literal (.str key))) (f.term u)
          = some ⟨f.name, key⟩ := by
        simp only [Term.column?, f.fieldName_term]
        rfl
      rw [List.map_cons, List.map_cons, List.zipWith_cons_cons, zipWith_column? u entries, hcolumn]
      rfl

/-- **A text selects what its display selects.** -/
theorem selector_text [Limits] {display : Display} {u : Text.Identifier} {text : String}
    {names : List String} (hterm : TextFragment.term text = .ok (Term.lambdaOf u (display.term u))) :
    (Fragment.text text).selector = .ok names ↔ display.Selects names := by
  cases display with
  | field f =>
    have hselector : (Term.lambdaOf u (f.term u)).selector
        = do return [← Failure.lift ((f.term u).fieldName (some u))] := by
      cases f <;> rfl
    rw [Fragment.agree_selector hterm, term, hselector, f.fieldName_term]
    exact ok_eq_ok_iff
  | tuple fs =>
    have hselector : (Term.lambdaOf u (.tuple (fs.map (Field.term u)))).selector
        = Failure.lift ((fs.map (Field.term u)).mapM (Term.fieldName (some u))) := rfl
    rw [Fragment.agree_selector hterm, term, hselector, mapM_fieldName]
    exact ok_eq_ok_iff
  | list fs =>
    have hselector : (Term.lambdaOf u (.list (fs.map (Field.term u)))).selector
        = Failure.lift ((fs.map (Field.term u)).mapM (Term.fieldName (some u))) := rfl
    rw [Fragment.agree_selector hterm, term, hselector, mapM_fieldName]
    exact ok_eq_ok_iff
  | dict entries =>
    rw [(Fragment.Displays.text hterm rfl).selector_eq_ok_iff, zipWith_column?, listed_map_some_iff]
    rfl

/-! ## 3. Callables -/

theorem Field.run_body (f : Field) : f.body.run = .ok (.field f.name) := by
  cases f with
  | access id plain => exact Body.run_attribute plain
  | item name nonempty => exact Body.run_item nonempty

/-- An entry put among others: in place of the one with its key, or behind all. -/
def put (entry : String × Field) : List (String × Field) → List (String × Field)
  | [] => [entry]
  | old :: entries => if entry.1 = old.1 then entry :: entries else old :: put entry entries

/-- The keys of a dictionary with the given entries. -/
def keysOf (entries : List (String × Field)) : List Value := entries.map fun e => .literal (.str e.1)

/-- The values of a dictionary with the given entries. -/
def valuesOf (entries : List (String × Field)) : List Value := entries.map fun e => .field e.2.name

theorem insertEntry_eq (key : String) (f : Field) : ∀ kept : List (String × Field),
    (Value.literal (.str key)).insertEntry (.field f.name) (keysOf kept) (valuesOf kept)
      = (keysOf (put (key, f) kept), valuesOf (put (key, f) kept))
  | [] => rfl
  | (old, g) :: kept => by
      have ih := insertEntry_eq key f kept
      have hsame : (Value.literal (.str key)).sameKey (.literal (.str old)) = (key == old) := rfl
      rw [keysOf, valuesOf, List.map_cons, List.map_cons, Value.insertEntry, hsame, put]
      rw [keysOf, valuesOf] at ih
      by_cases hkey : key = old
      · rw [if_pos (beq_iff_eq.mpr hkey), if_pos hkey, hkey]
        rfl
      · rw [if_neg (by simpa using hkey), if_neg hkey, ih]
        rfl

theorem buildDict_eq : ∀ entries kept : List (String × Field),
    Body.buildDict (Body.runAll (entries.map fun e => .literal (.str e.1)))
        (Body.runAll (entries.map fun e => e.2.body)) (keysOf kept, valuesOf kept)
      = .ok (.dict (keysOf (entries.foldl (fun kept e => put e kept) kept))
          (valuesOf (entries.foldl (fun kept e => put e kept) kept)))
  | [], _ => rfl
  | (key, f) :: entries, kept => by
      have ih := buildDict_eq entries (put (key, f) kept)
      rw [← insertEntry_eq] at ih
      rw [List.map_cons, List.map_cons, Body.runAll, Body.runAll, Body.buildDict, f.run_body]
      exact ih

/-- Putting an entry among others, of which each key has one. -/
theorem put_filterMap (entry : String × Field) {last : String → Option (String × Field)} :
    ∀ {keys : List String}, keys.Nodup → (∀ key ∈ keys, ∃ f, last key = some (key, f)) →
      put entry (keys.filterMap last)
        = (if entry.1 ∈ keys then keys else keys ++ [entry.1]).filterMap
            (Function.update last entry.1 (some entry))
  | [], _, _ => by simp [put]
  | key :: keys, hnodup, hlast => by
      obtain ⟨hfresh, hnodup⟩ := List.nodup_cons.mp hnodup
      obtain ⟨⟨f, hf⟩, hlast⟩ := List.forall_mem_cons.mp hlast
      have ih := put_filterMap entry hnodup hlast
      rw [List.filterMap_cons_some hf, put]
      by_cases hkey : entry.1 = key
      · -- the key is found, and it is not among the others
        subst hkey
        have hothers : keys.filterMap (Function.update last entry.1 (some entry)) = keys.filterMap last :=
          List.filterMap_congr fun other hother =>
            Function.update_of_ne (ne_of_mem_of_not_mem hother hfresh) _ _
        rw [if_pos rfl, if_pos List.mem_cons_self, List.filterMap_cons_some (Function.update_self _ _ _),
          hothers]
      · have hkept : Function.update last entry.1 (some entry) key = some (key, f) := by
          rw [Function.update_of_ne (Ne.symm hkey), hf]
        have hkeys : (if entry.1 ∈ key :: keys then key :: keys else key :: keys ++ [entry.1])
            = key :: (if entry.1 ∈ keys then keys else keys ++ [entry.1]) := by
          by_cases hmem : entry.1 ∈ keys
          · rw [if_pos hmem, if_pos (List.mem_cons_of_mem _ hmem)]
          · rw [if_neg hmem, if_neg (by simp [hkey, hmem]), List.cons_append]
        rw [if_neg hkey, hkeys, List.filterMap_cons_some hkept, ih]

theorem nodup_eraseDups (keys : List String) : keys.eraseDups.Nodup := by
  rw [← Fragment.addNames_nil_eq]
  exact Fragment.nodup_addNames .nil

theorem eraseDups_concat (keys : List String) (key : String) :
    (keys ++ [key]).eraseDups = if key ∈ keys.eraseDups then keys.eraseDups else keys.eraseDups ++ [key] := by
  have hsplit : Fragment.addNames [] (keys ++ [key])
      = Fragment.addNames (Fragment.addNames [] keys) [key] := List.foldl_append
  rw [← Fragment.addNames_nil_eq, hsplit, Fragment.addNames_cons, Fragment.addNames_nil_eq]
  rfl

/-- Every key of a dictionary has a last entry. -/
theorem exists_last {entries : List (String × Field)} {key : String} (h : key ∈ entries.map (·.1)) :
    ∃ f, entries.reverse.find? (fun e => e.1 == key) = some (key, f) := by
  obtain ⟨e, he, rfl⟩ := List.mem_map.mp h
  cases hfind : entries.reverse.find? (fun e' => e'.1 == e.1) with
  | none =>
    have hnone := List.find?_eq_none.mp hfind e (List.mem_reverse.mpr he)
    simp at hnone
  | some found =>
    have hfound := List.find?_some hfind
    exact ⟨found.2, by rw [← beq_iff_eq.mp hfound]⟩

/-- **What is put in entry by entry has each key in its first place and with its last field.** -/
theorem foldl_put_eq_merge (entries : List (String × Field)) :
    entries.foldl (fun kept e => put e kept) [] = merge entries := by
  -- from the last entry, since this is the one that counts for its key
  induction entries using List.reverseRecOn with
  | nil => rfl
  | append_singleton entries entry ih =>
    have hlast : (fun key => (entries ++ [entry]).reverse.find? fun e => e.1 == key)
        = Function.update (fun key => entries.reverse.find? fun e => e.1 == key) entry.1 (some entry) := by
      funext key
      rw [List.reverse_append, List.reverse_singleton, List.singleton_append, List.find?_cons]
      by_cases hkey : key = entry.1
      · rw [hkey, Function.update_self, beq_self_eq_true]
      · rw [Function.update_of_ne hkey, beq_false_of_ne (Ne.symm hkey)]
    have hput := put_filterMap entry (nodup_eraseDups (entries.map (·.1)))
      fun key hkey => exists_last (List.mem_eraseDups.mp hkey)
    rw [List.foldl_append, List.foldl_cons, List.foldl_nil, ih, merge, hput, merge, List.map_append,
      List.map_singleton, eraseDups_concat, hlast]

theorem runAll_fields : ∀ fs : List Field,
    Body.allOf (Body.runAll (fs.map Field.body)) = .ok (fs.map fun f => .field f.name)
  | [] => rfl
  | f :: fs => by
      rw [List.map_cons, Body.runAll, Body.allOf, f.run_body, runAll_fields fs]
      rfl

theorem itemNames_fields : ∀ fs : List Field,
    Fragment.itemNames (fs.map fun f => .field f.name) = .ok (fs.map Field.name)
  | [] => rfl
  | f :: fs => by
      have ih := itemNames_fields fs
      rw [List.map_cons, Fragment.itemNames, ih]
      rfl

/-- The value of a display. -/
def value : Display → Value
  | .field f => .field f.name
  | .tuple fs => .tuple (fs.map fun f => .field f.name)
  | .list fs => .list (fs.map fun f => .field f.name)
  | .dict entries => .dict (keysOf (merge entries)) (valuesOf (merge entries))

theorem run_body (display : Display) : display.body.run = .ok display.value := by
  cases display with
  | field f => exact f.run_body
  | tuple fs =>
    rw [body, Body.run, runAll_fields]
    rfl
  | list fs =>
    rw [body, Body.run, runAll_fields]
    rfl
  | dict entries =>
    have hbuilt := buildDict_eq entries []
    rw [foldl_put_eq_merge] at hbuilt
    exact hbuilt

theorem zipWith_value_column? (entries : List (String × Field)) :
    List.zipWith Value.column? (keysOf entries) (valuesOf entries) = (columns entries).map some := by
  rw [keysOf, valuesOf, List.zipWith_map, List.zipWith_self, columns, List.map_map]
  rfl

/-- **A callable selects what its display selects with each label once.** -/
theorem selector_callable [Limits] {display : Display} {c : Callable} {names : List String}
    (hbody : c.body = display.body) (hrequired : ∀ count ∈ c.required, count = 1) :
    (Fragment.callable c).selector = .ok names ↔ display.merged.Selects names := by
  have hcall : c.call = .ok display.value :=
    Callable.call_eq_ok (by rw [hbody, display.run_body]) hrequired
  have hselector : (Fragment.callable c).selector
      = (Fragment.callable c).rejecting (Fragment.valueNames display.value) := by
    rw [Fragment.selector, hcall]
    rfl
  cases display with
  | field f =>
    rw [hselector]
    exact ok_eq_ok_iff
  | tuple fs =>
    rw [hselector, Fragment.agree_rejecting, value, Fragment.valueNames]
    show Fragment.itemNames _ = _ ↔ _
    rw [itemNames_fields]
    exact ok_eq_ok_iff
  | list fs =>
    rw [hselector, Fragment.agree_rejecting, value, Fragment.valueNames]
    show Fragment.itemNames _ = _ ↔ _
    rw [itemNames_fields]
    exact ok_eq_ok_iff
  | dict entries =>
    rw [(Fragment.Displays.callable hcall).selector_eq_ok_iff, zipWith_value_column?, listed_map_some_iff]
    rfl

/-! ## 4. Texts beside callables -/

theorem map_label_columns (entries : List (String × Field)) :
    (columns entries).map (·.label) = entries.map (·.1) := by
  rw [columns, List.map_map]
  rfl

theorem map_fst_merge (entries : List (String × Field)) :
    (merge entries).map (·.1) = (entries.map (·.1)).eraseDups := by
  have hkey : ∀ key ∈ (entries.map (·.1)).eraseDups,
      (entries.reverse.find? fun e => e.1 == key).map (·.1) = some key := by
    intro key hmem
    obtain ⟨f, hf⟩ := exists_last (List.mem_eraseDups.mp hmem)
    rw [hf]
    rfl
  rw [merge, List.map_filterMap, List.filterMap_congr hkey, List.filterMap_some]

theorem eraseDups_eq_self {α : Type} [DecidableEq α] : ∀ {as : List α}, as.Nodup → as.eraseDups = as
  | [], _ => rfl
  | a :: as, h => by
      obtain ⟨ha, h⟩ := List.nodup_cons.mp h
      have hfilter : (as.filter fun b => !b == a) = as :=
        List.filter_eq_self.mpr fun b hb => by simpa using ne_of_mem_of_not_mem hb ha
      rw [List.eraseDups_cons, hfilter, eraseDups_eq_self h]

/-- Each label of the merged entries is there once. -/
theorem nodup_map_label_merge (entries : List (String × Field)) :
    ((columns (merge entries)).map (·.label)).Nodup := by
  rw [map_label_columns, map_fst_merge]
  exact nodup_eraseDups _

/-- Without a label for two fields, merging entries is dropping repeated columns. -/
theorem columns_merge_of_consistent {entries : List (String × Field)} (h : (dict entries).Consistent) :
    columns (merge entries) = (columns entries).eraseDups := by
  have hinjective : ∀ c ∈ columns entries, ∀ d ∈ columns entries, c.label = d.label → c = d := by
    intro c hc d hd hlabel
    obtain ⟨e, he, rfl⟩ := List.mem_map.mp hc
    obtain ⟨e', he', rfl⟩ := List.mem_map.mp hd
    exact congrArg₂ Column.mk (h e he e' he' hlabel) hlabel
  have hlast : ∀ c ∈ (columns entries).eraseDups,
      (entries.reverse.find? fun e => e.1 == c.label).map column = some c := by
    intro c hc
    have hmem := List.mem_eraseDups.mp hc
    have hkey : c.label ∈ entries.map (·.1) := by
      rw [← map_label_columns]
      exact List.mem_map_of_mem hmem
    obtain ⟨f, hf⟩ := exists_last hkey
    have hentry := List.mem_reverse.mp (List.mem_of_find?_eq_some hf)
    rw [hf]
    exact congrArg some (hinjective _ (List.mem_map_of_mem (f := column) hentry) c hmem rfl)
  have hmerged : columns (merge entries) = (entries.map (·.1)).eraseDups.filterMap
      fun key => (entries.reverse.find? fun e => e.1 == key).map column := List.map_filterMap
  rw [hmerged, ← map_label_columns, Fragment.eraseDups_map hinjective, List.filterMap_map]
  exact (List.filterMap_congr hlast).trans List.filterMap_some

/-- **Merging entries is dropping repeated columns exactly if no label stands for two fields.** -/
theorem columns_eraseDups_eq_iff {entries : List (String × Field)} :
    (columns entries).eraseDups = (columns (merge entries)).eraseDups ↔ (dict entries).Consistent := by
  have hnodup := nodup_map_label_merge entries
  constructor
  · intro h e he e' he' hkey
    have hmem : ∀ e ∈ entries, column e ∈ columns (merge entries) := by
      intro e he
      rw [← List.mem_eraseDups, ← h, List.mem_eraseDups]
      exact List.mem_map_of_mem (f := column) he
    have hsame : column e = column e' :=
      List.inj_on_of_nodup_map hnodup (hmem e he) (hmem e' he') hkey
    exact congrArg Column.source hsame
  · intro h
    rw [eraseDups_eq_self (List.Nodup.of_map _ hnodup), columns_merge_of_consistent h]

/-- A display is accepted exactly if it is accepted with each label once. -/
theorem exists_selects_iff (display : Display) :
    (∃ names, display.Selects names ∧ names ≠ []) ↔ ∃ names, display.merged.Selects names ∧ names ≠ [] := by
  cases display with
  | dict entries =>
    have hlabels (entries : List (String × Field)) :
        (∃ names, (dict entries).Selects names ∧ names ≠ []) ↔
          (∀ key ∈ entries.map (·.1), Text.isIdentifier key = true) ∧ entries.map (·.1) ≠ [] := by
      rw [← map_label_columns, List.forall_mem_map, ne_eq, List.map_eq_nil_iff]
      constructor
      · rintro ⟨names, ⟨hidentifiers, rfl⟩, hne⟩
        exact ⟨hidentifiers, fun hnil => hne (List.map_eq_nil_iff.mpr hnil)⟩
      · rintro ⟨hidentifiers, hne⟩
        exact ⟨_, ⟨hidentifiers, rfl⟩, fun hnil => hne (List.map_eq_nil_iff.mp hnil)⟩
    rw [hlabels, merged, hlabels, map_fst_merge, ne_eq, ne_eq, Fragment.eraseDups_eq_nil_iff]
    simp only [List.mem_eraseDups]
  | _ => exact Iff.rfl

/-- Columns under identifiers are repeated exactly if their entries are. -/
theorem eraseDups_map_entry {columns : List Column}
    (h : ∀ c ∈ columns, Text.isIdentifier c.label = true) :
    (columns.map Column.entry).eraseDups = columns.eraseDups.map Column.entry := by
  refine Fragment.eraseDups_map fun c hc d hd hsame => ?_
  rw [← Column.ofEntry_entry (h c hc), hsame, Column.ofEntry_entry (h d hd)]

theorem map_ofEntry_entry {columns : List Column} (h : ∀ c ∈ columns, Text.isIdentifier c.label = true) :
    (columns.eraseDups.map Column.entry).map Column.ofEntry = columns.eraseDups := by
  have hread : ∀ c ∈ columns.eraseDups, (Column.ofEntry ∘ Column.entry) c = id c := by
    intro c hc
    exact Column.ofEntry_entry (h c (List.mem_eraseDups.mp hc))
  rw [List.map_map, List.map_congr_left hread, List.map_id]

/-- **A display selects the same as it is and with each label once exactly if it is consistent.** -/
theorem eraseDups_eq_iff {display : Display} {names names' : List String} (h : display.Selects names)
    (h' : display.merged.Selects names') : names.eraseDups = names'.eraseDups ↔ display.Consistent := by
  cases display with
  | dict entries =>
    obtain ⟨hlabels, rfl⟩ := h
    obtain ⟨hlabels', rfl⟩ := h'
    rw [eraseDups_map_entry hlabels, eraseDups_map_entry hlabels', ← columns_eraseDups_eq_iff]
    constructor
    · intro hsame
      have hread := congrArg (List.map Column.ofEntry) hsame
      rwa [map_ofEntry_entry hlabels, map_ofEntry_entry hlabels'] at hread
    · exact congrArg (List.map Column.entry)
  | _ => exact ⟨fun _ => trivial, fun _ => congrArg List.eraseDups (Eq.trans h (Eq.symm h'))⟩

/-- **Texts beside callables.** A display is accepted as a text exactly if it is accepted as a callable. Then
    both select the same exactly if no label stands for two fields; and in any case the callable selects what a
    text does in which each label stands once, in its first place and with its last field. -/
theorem text_beside_callable [Limits] (display : Display) (u : Text.Identifier) (text : String)
    (c : Callable) (hterm : TextFragment.term text = .ok (Term.lambdaOf u (display.term u)))
    (hbody : c.body = display.body) (hrequired : ∀ count ∈ c.required, count = 1) :
    ((∃ names, Fragment.selectAll [.text text] = .ok names) ↔
      ∃ names, Fragment.selectAll [.callable c] = .ok names) ∧
    (∀ names, Fragment.selectAll [.text text] = .ok names →
      (Fragment.selectAll [.callable c] = .ok names ↔ display.Consistent)) ∧
    ∀ (v : Text.Identifier) (text' : String),
      TextFragment.term text' = .ok (Term.lambdaOf v (display.merged.term v)) →
      Agree (Fragment.selectAll [.text text']) (Fragment.selectAll [.callable c]) := by
  have hwritten (names : List String) : Fragment.selectAll [.text text] = .ok names ↔
      ∃ list, display.Selects list ∧ names = list.eraseDups ∧ list ≠ [] := by
    simp only [Fragment.selectAll_singleton_eq_ok_iff, selector_text hterm]
  have hcalled (names : List String) : Fragment.selectAll [.callable c] = .ok names ↔
      ∃ list, display.merged.Selects list ∧ names = list.eraseDups ∧ list ≠ [] := by
    simp only [Fragment.selectAll_singleton_eq_ok_iff, selector_callable hbody hrequired]
  refine ⟨?_, ?_, ?_⟩
  · have hboth := display.exists_selects_iff
    constructor
    · rintro ⟨names, hnames⟩
      obtain ⟨list, hlist, _, hne⟩ := (hwritten names).mp hnames
      obtain ⟨list', hlist', hne'⟩ := hboth.mp ⟨list, hlist, hne⟩
      exact ⟨_, (hcalled _).mpr ⟨list', hlist', rfl, hne'⟩⟩
    · rintro ⟨names, hnames⟩
      obtain ⟨list, hlist, _, hne⟩ := (hcalled names).mp hnames
      obtain ⟨list', hlist', hne'⟩ := hboth.mpr ⟨list, hlist, hne⟩
      exact ⟨_, (hwritten _).mpr ⟨list', hlist', rfl, hne'⟩⟩
  · intro names hnames
    obtain ⟨list, hlist, rfl, hne⟩ := (hwritten names).mp hnames
    rw [hcalled]
    constructor
    · rintro ⟨list', hlist', hsame, _⟩
      exact (eraseDups_eq_iff hlist hlist').mp hsame
    · intro hconsistent
      obtain ⟨list', hlist', hne'⟩ := display.exists_selects_iff.mp ⟨list, hlist, hne⟩
      exact ⟨list', hlist', (eraseDups_eq_iff hlist hlist').mpr hconsistent, hne'⟩
  · intro v text' hterm' names
    rw [hcalled]
    simp only [Fragment.selectAll_singleton_eq_ok_iff, selector_text hterm']

/-- One field twice under one label, in both ways to read it, and another in between. -/
def repeatedDisplay : Display :=
  .dict [("gain", .access ⟨"profit", by decide⟩ (by decide +kernel)), ("seen", .item "on shelf" (by decide)),
    ("gain", .item "profit" (by decide))]

/-- The text of the display. -/
def repeatedText : String :=
  "lambda shop: \x7b'gain': shop.profit, 'seen': shop['on shelf'], 'gain': shop['profit']\x7d"

theorem reads_repeated :
    Phrase.reads repeatedText
      (Term.lambdaOf ⟨"shop", by decide⟩ (repeatedDisplay.term ⟨"shop", by decide⟩)) := by
  decide +kernel

theorem text_beside_callable_repeated :
    repeatedDisplay.Consistent ∧
    Fragment.selectAll [.text repeatedText] = .ok ["profit AS gain", "on shelf AS seen"] ∧
    Fragment.selectAll [.callable ⟨"function", "<lambda>", some 1, repeatedDisplay.body⟩]
      = .ok ["profit AS gain", "on shelf AS seen"] := by
  have hterm := Phrase.term_eq_of_reads reads_repeated
  have hconsistent : repeatedDisplay.Consistent := by decide
  have hread : (Fragment.text repeatedText).selector
      = .ok ["profit AS gain", "on shelf AS seen", "profit AS gain"] := by
    rw [Fragment.agree_selector hterm]
    decide +kernel
  have hselected : Fragment.selectAll [.text repeatedText] = .ok ["profit AS gain", "on shelf AS seen"] :=
    Fragment.selectAll_singleton_eq_ok_iff.mpr ⟨_, hread, by decide +kernel, by decide⟩
  obtain ⟨_, hsame, _⟩ := text_beside_callable repeatedDisplay _ repeatedText
    ⟨"function", "<lambda>", some 1, repeatedDisplay.body⟩ hterm rfl (by decide)
  exact ⟨hconsistent, hselected, (hsame _ hselected).mpr hconsistent⟩

/-- Two fields under one label. -/
def ambiguousDisplay : Display :=
  .dict [("a", .access ⟨"x", by decide⟩ (by decide +kernel)),
    ("a", .access ⟨"y", by decide⟩ (by decide +kernel))]

theorem reads_ambiguous :
    Phrase.reads "lambda u: \x7b'a': u.x, 'a': u.y\x7d"
      (Term.lambdaOf ⟨"u", by decide⟩ (ambiguousDisplay.term ⟨"u", by decide⟩)) := by
  decide +kernel

/-- A text keeps both fields of a label, and a callable keeps the last one. -/
theorem label_of_two_fields :
    Fragment.selectAll [.text "lambda u: \x7b'a': u.x, 'a': u.y\x7d"] = .ok ["x AS a", "y AS a"] ∧
    Fragment.selectAll [.callable ⟨"function", "<lambda>", some 1, ambiguousDisplay.body⟩]
      = .ok ["y AS a"] := by
  have hread : (Fragment.text "lambda u: \x7b'a': u.x, 'a': u.y\x7d").selector = .ok ["x AS a", "y AS a"] := by
    rw [Fragment.agree_selector (Phrase.term_eq_of_reads reads_ambiguous)]
    decide +kernel
  refine ⟨Fragment.selectAll_singleton_eq_ok_iff.mpr ⟨_, hread, by decide +kernel, by decide⟩, ?_⟩
  decide +kernel

end Display

end BoundQuery
