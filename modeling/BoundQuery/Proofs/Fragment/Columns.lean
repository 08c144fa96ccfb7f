import Mathlib.Data.List.DropRight
import BoundQuery.Proofs.Fragment.Agreement
import BoundQuery.Proofs.Fragment.Selection

/-!
# Columns of a projection

A dictionary as a selector asks for columns: fields, each under a label of its own. A column is written as an
entry of the projection, with its label only where the field does not end in it; and from the entry the column
can be read back, whatever the name of the field is.

* `Column.ofEntry_entry` – reading an entry gives back the column;
* `Fragment.Displays.selector_eq_ok_iff` – what a dictionary of either kind selects;
* `Fragment.eraseDups_map` – dropping repeated entries is dropping repeated columns.
-/

namespace BoundQuery

/-- A field of a projection and the name that its values get. -/
structure Column where
  source : String
  label : String
  deriving DecidableEq

namespace Column

/-! ## 1. Entries -/

/-- The entry of a projection for a column: the field alone if it ends in the label, and else both. -/
def entry (c : Column) : String :=
  if c.label == c.source || c.source.endsWith ("." ++ c.label) then c.source
  else c.source ++ " AS " ++ c.label

theorem labelled?_eq (source label : String) :
    labelled? source label =
      if Text.isIdentifier label then some (entry ⟨source, label⟩) else none := by
  unfold labelled?
  cases Text.isIdentifier label with
  | false => rfl
  | true => exact (apply_ite some _ _ _).symm

/-- The characters of a label: all but the dot and the blank. -/
def inLabel (c : Char) : Bool := c != '.' && c != ' '

/-- What stands between a field and its label. -/
def mark : List Char := [' ', 'A', 'S', ' ']

/-- The column of an entry. The label is what follows the last dot or blank. The field is what precedes the
    mark before the label, and without a mark it is the whole entry. -/
def ofEntry (entry : String) : Column :=
  let label := String.ofList (entry.toList.rtakeWhile inLabel)
  match mark.isSuffixOf? (entry.toList.rdropWhile inLabel) with
  | some source => ⟨String.ofList source, label⟩
  | none => ⟨entry, label⟩

/-! ## 2. Reading an entry -/

theorem inLabel_of {p : Char → Bool} (hdot : p '.' = false) (hblank : p ' ' = false) {c : Char}
    (h : p c = true) : inLabel c = true := by
  rw [inLabel, Bool.and_eq_true, bne_iff_ne, bne_iff_ne]
  constructor
  · rintro rfl
    rw [hdot] at h
    cases h
  · rintro rfl
    rw [hblank] at h
    cases h

theorem inLabel_of_isIdentifier {label : String} (h : Text.isIdentifier label = true) :
    ∀ c ∈ label.toList, inLabel c = true := by
  unfold Text.isIdentifier Text.isIdentifierChars at h
  split at h
  · cases h
  · rename_i first rest hchars
    rw [Bool.and_eq_true, List.all_eq_true] at h
    rw [hchars]
    intro c hc
    rcases List.mem_cons.mp hc with rfl | hc
    · exact inLabel_of (p := Text.startsIdentifier) (by decide) (by decide) h.1
    · exact inLabel_of (p := Text.continuesIdentifier) (by decide) (by decide) (h.2 c hc)

section Split

variable {front label : List Char} (hlabel : ∀ c ∈ label, inLabel c = true)
  (hfront : ∀ h : front ≠ [], inLabel (front.getLast h) = false)

include hlabel hfront

theorem rtakeWhile_inLabel : (front ++ label).rtakeWhile inLabel = label := by
  have hnone : front.rtakeWhile inLabel = [] :=
    List.rtakeWhile_eq_nil_iff.mpr fun h => by simp [hfront h]
  rw [List.rtakeWhile, List.reverse_append,
    List.takeWhile_append_of_pos fun c hc => hlabel c (List.mem_reverse.mp hc), List.reverse_append,
    List.reverse_reverse]
  rw [List.rtakeWhile] at hnone
  rw [hnone, List.nil_append]

theorem rdropWhile_inLabel : (front ++ label).rdropWhile inLabel = front := by
  have hall : front.rdropWhile inLabel = front :=
    List.rdropWhile_eq_self_iff.mpr fun h => by simp [hfront h]
  rw [List.rdropWhile, List.reverse_append,
    List.dropWhile_append_of_pos fun c hc => hlabel c (List.mem_reverse.mp hc)]
  rw [List.rdropWhile] at hall
  exact hall

end Split

/-- The mark and the dot do not end alike. -/
theorem isSuffixOf?_mark_dot (before : List Char) : mark.isSuffixOf? (before ++ ['.']) = none := by
  rw [Option.eq_none_iff_forall_ne_some]
  intro source hsource
  have hends : source ++ mark = before ++ ['.'] := List.isSuffixOf?_eq_some_iff_append_eq.mp hsource
  have hlast := congrArg List.getLast? hends
  simp [mark] at hlast

/-- The entry of a field that ends in its label. -/
theorem ofEntry_bare {source label : String} (h : Text.isIdentifier label = true)
    (hbare : label = source ∨ source.endsWith ("." ++ label) = true) :
    ofEntry source = ⟨source, label⟩ := by
  have hlabel := inLabel_of_isIdentifier h
  rcases hbare with rfl | hends
  · have hfront : ∀ h : ([] : List Char) ≠ [], inLabel (([] : List Char).getLast h) = false :=
      fun h => absurd rfl h
    have htake := rtakeWhile_inLabel hlabel hfront
    have hdrop := rdropWhile_inLabel hlabel hfront
    rw [List.nil_append] at htake hdrop
    rw [ofEntry, htake, hdrop, String.ofList_toList]
    rfl
  · rw [String.endsWith_eq_endsWith_toSlice, String.Slice.endsWith_string_iff] at hends
    obtain ⟨before, hbefore⟩ := hends
    have hsource : source.toList = (before ++ ['.']) ++ label.toList := by
      simpa using hbefore.symm
    have hfront : ∀ h : before ++ ['.'] ≠ [], inLabel ((before ++ ['.']).getLast h) = false := by
      intro h
      rw [List.getLast_concat]
      rfl
    rw [ofEntry, hsource, rtakeWhile_inLabel hlabel hfront, rdropWhile_inLabel hlabel hfront,
      isSuffixOf?_mark_dot, String.ofList_toList]

/-- The entry of a field with its label behind it. -/
theorem ofEntry_labelled (source : String) {label : String} (h : Text.isIdentifier label = true) :
    ofEntry (source ++ " AS " ++ label) = ⟨source, label⟩ := by
  have hlabel := inLabel_of_isIdentifier h
  have hentry : (source ++ " AS " ++ label).toList = (source.toList ++ mark) ++ label.toList := by
    rw [String.toList_append, String.toList_append]
    rfl
  have hfront : ∀ h : source.toList ++ mark ≠ [], inLabel ((source.toList ++ mark).getLast h) = false := by
    intro h
    rw [List.getLast_append_of_ne_nil h (by decide)]
    rfl
  have hmark : mark.isSuffixOf? (source.toList ++ mark) = some source.toList :=
    List.isSuffixOf?_eq_some_iff_append_eq.mpr rfl
  rw [ofEntry, hentry, rtakeWhile_inLabel hlabel hfront, rdropWhile_inLabel hlabel hfront, hmark,
    String.ofList_toList]
  exact congrArg (fun s => (⟨s, label⟩ : Column)) String.ofList_toList

/-- **From its entry a column can be read back**, if its label is an identifier. -/
theorem ofEntry_entry {c : Column} (h : Text.isIdentifier c.label = true) : ofEntry c.entry = c := by
  unfold entry
  split
  · rename_i hbare
    rw [Bool.or_eq_true, beq_iff_eq] at hbare
    exact ofEntry_bare h hbare
  · exact ofEntry_labelled c.source h

/-- A name of parts with dots between them is the column of its last part. -/
theorem ofEntry_joined (parts : List Text.Identifier) (last : Text.Identifier) :
    ofEntry (Term.joined (parts ++ [last])) = ⟨Term.joined (parts ++ [last]), last.text⟩ := by
  refine ofEntry_bare last.valid ?_
  by_cases hparts : parts = []
  · left
    rw [hparts]
    exact String.intercalate_singleton.symm
  · right
    have hjoined : Term.joined (parts ++ [last]) = Term.joined parts ++ ("." ++ last.text) := by
      have hmapped : parts.map (·.text) ≠ [] := fun hnil => hparts (List.map_eq_nil_iff.mp hnil)
      rw [Term.joined, Term.joined, List.map_append, List.map_singleton,
        String.intercalate_append_of_ne_nil hmapped (List.cons_ne_nil _ _), String.intercalate_singleton,
        String.append_assoc]
    rw [hjoined, String.endsWith_eq_endsWith_toSlice, String.Slice.endsWith_string_iff]
    exact ⟨(Term.joined parts).toList, by simp⟩

end Column

/-! ## 3. Dictionaries -/

/-- The column that an entry of a dictionary display asks for: a field under a text. -/
def Term.column? (scope : Scope) (key value : Term) : Option Column :=
  match key, value.fieldName scope with
  | .constant c, .ok source => c.text?.map (Column.mk source)
  | _, _ => none

/-- The column that an entry of a dictionary asks for: a field under a text. -/
def Value.column? (key value : Value) : Option Column :=
  match value.fieldName? with
  | some source => (Fragment.textOf? key).map (Column.mk source)
  | none => none

/-- The names that are listed for what the entries of a dictionary ask for. -/
inductive Listed : List (Option Column) → List String → Prop
  | nil : Listed [] []
  | cons {c : Column} {asked : List (Option Column)} {names : List String}
      (h : Text.isIdentifier c.label = true) (rest : Listed asked names) :
      Listed (some c :: asked) (c.entry :: names)

theorem listed_cons_iff {column : Option Column} {asked : List (Option Column)} {names : List String} :
    Listed (column :: asked) names ↔ ∃ c rest, column = some c ∧ Text.isIdentifier c.label = true ∧
      Listed asked rest ∧ names = c.entry :: rest := by
  constructor
  · intro h
    cases h with
    | cons hlabel hrest => exact ⟨_, _, rfl, hlabel, hrest, rfl⟩
  · rintro ⟨c, rest, rfl, hlabel, hrest, rfl⟩
    exact .cons hlabel hrest

/-- The columns that entries ask for can be read back from the names. -/
theorem Listed.asked_eq {asked : List (Option Column)} {names : List String} (h : Listed asked names) :
    asked = (names.map Column.ofEntry).map some := by
  induction h with
  | nil => rfl
  | cons hlabel _ ih => rw [List.map_cons, List.map_cons, Column.ofEntry_entry hlabel, ← ih]

theorem Listed.entry_ofEntry {asked : List (Option Column)} {names : List String} (h : Listed asked names) :
    ∀ name ∈ names, (Column.ofEntry name).entry = name := by
  induction h with
  | nil => simp
  | cons hlabel _ ih =>
    refine List.forall_mem_cons.mpr ⟨?_, ih⟩
    rw [Column.ofEntry_entry hlabel]

/-- Columns are listed exactly if all their labels are identifiers. -/
theorem listed_map_some_iff : ∀ {columns : List Column} {names : List String},
    Listed (columns.map some) names ↔
      (∀ c ∈ columns, Text.isIdentifier c.label = true) ∧ names = columns.map Column.entry
  | [], names => by
      constructor
      · rintro ⟨⟩
        exact ⟨by simp, rfl⟩
      · rintro ⟨_, rfl⟩
        exact .nil
  | c :: columns, names => by
      rw [List.map_cons, listed_cons_iff, List.forall_mem_cons]
      constructor
      · rintro ⟨d, rest, hd, hlabel, hrest, rfl⟩
        cases hd
        obtain ⟨hlabels, rfl⟩ := listed_map_some_iff.mp hrest
        exact ⟨⟨hlabel, hlabels⟩, rfl⟩
      · rintro ⟨⟨hlabel, hlabels⟩, rfl⟩
        exact ⟨c, _, rfl, hlabel, listed_map_some_iff.mpr ⟨hlabels, rfl⟩, rfl⟩

/-- A field is labelled by a text exactly if that is an identifier. -/
theorem bind_labelled?_eq_some_iff {text? : Option String} {source name : String} :
    text?.bind (labelled? source) = some name ↔
      ∃ c, text?.map (Column.mk source) = some c ∧ Text.isIdentifier c.label = true ∧ name = c.entry := by
  cases text? with
  | none => simp
  | some label =>
    rw [Option.bind_some, Column.labelled?_eq]
    cases hlabel : Text.isIdentifier label with
    | false => simp [hlabel]
    | true =>
      constructor
      · intro h
        exact ⟨⟨source, label⟩, rfl, hlabel, (Option.some.inj h).symm⟩
      · rintro ⟨c, hc, _, rfl⟩
        exact congrArg (fun d => some (Column.entry d)) (Option.some.inj hc)

/-- A list is put together from its first entry and the others. -/
theorem cons_eq_ok_iff {first : Except Failure String} {others : Except Failure (List String)}
    {names : List String} :
    (do return (← first) :: (← others) : Except Failure (List String)) = .ok names ↔
      ∃ name rest, first = .ok name ∧ others = .ok rest ∧ names = name :: rest := by
  constructor
  · intro h
    obtain ⟨name, hname, h⟩ := exists_of_bind_eq_ok h
    obtain ⟨rest, hrest, h⟩ := exists_of_bind_eq_ok h
    cases h
    exact ⟨name, rest, hname, hrest, rfl⟩
  · rintro ⟨name, rest, rfl, rfl, rfl⟩
    rfl

theorem ok_nil_iff_listed {names : List String} :
    (.ok [] : Except Failure (List String)) = .ok names ↔ Listed [] names := by
  constructor
  · rintro ⟨⟩
    exact .nil
  · rintro ⟨⟩
    rfl

theorem error_iff_listed (failure : Failure) {asked : List (Option Column)} {names : List String} :
    (.error failure : Except Failure (List String)) = .ok names ↔ Listed (none :: asked) names := by
  constructor
  · intro h
    cases h
  · intro h
    cases h

/-- Entries are listed one by one, each as its column asks. -/
theorem listed_step {column : Option Column} {asked : List (Option Column)}
    {first : Except Failure String} {others : Except Failure (List String)} {names : List String}
    (hfirst : ∀ name, first = .ok name ↔
      ∃ c, column = some c ∧ Text.isIdentifier c.label = true ∧ name = c.entry)
    (hothers : ∀ rest, others = .ok rest ↔ Listed asked rest) :
    (do return (← first) :: (← others) : Except Failure (List String)) = .ok names ↔
      Listed (column :: asked) names := by
  rw [cons_eq_ok_iff, listed_cons_iff]
  constructor
  · rintro ⟨name, rest, hname, hrest, rfl⟩
    obtain ⟨c, hc, hlabel, rfl⟩ := (hfirst name).mp hname
    exact ⟨c, rest, hc, hlabel, (hothers rest).mp hrest, rfl⟩
  · rintro ⟨c, rest, hc, hlabel, hrest, rfl⟩
    exact ⟨c.entry, rest, (hfirst _).mpr ⟨c, hc, hlabel, rfl⟩, (hothers rest).mpr hrest, rfl⟩

theorem Term.labelledBy_eq_ok_iff {field name : String} {key : Constant} :
    labelledBy field key = .ok name ↔ key.text?.bind (labelled? field) = some name := by
  rw [labelledBy]
  cases key.text?.bind (labelled? field) <;> simp

/-- **What a dictionary display in a text selects.** -/
theorem Term.selectorEntries_eq_ok_iff {scope : Scope} :
    ∀ {keys values : List Term} {names : List String},
      selectorEntries scope keys values = .ok names ↔
        Listed (List.zipWith (column? scope) keys values) names
  | [], _, _ => ok_nil_iff_listed
  | _ :: _, [], _ => ok_nil_iff_listed
  | key :: keys, value :: values, names => by
      have ih (rest : List String) : selectorEntries scope keys values = .ok rest ↔
          Listed (List.zipWith (column? scope) keys values) rest := selectorEntries_eq_ok_iff
      cases key with
      | constant c =>
        cases hfield : value.fieldName scope with
        | error cause =>
          have hstep : selectorEntries scope (.constant c :: keys) (value :: values)
              = .error (.ofCause cause) := by
            rw [selectorEntries, hfield]
            rfl
          have hcolumn : column? scope (.constant c) value = none := by simp only [column?, hfield]
          rw [hstep, List.zipWith_cons_cons, hcolumn]
          exact error_iff_listed _
        | ok source =>
          have hstep : selectorEntries scope (.constant c :: keys) (value :: values)
              = do return (← labelledBy source c) :: (← selectorEntries scope keys values) := by
            rw [selectorEntries, hfield]
            rfl
          have hcolumn : column? scope (.constant c) value = c.text?.map (Column.mk source) := by
            simp only [column?, hfield]
          rw [hstep, List.zipWith_cons_cons, hcolumn]
          exact listed_step (fun name => labelledBy_eq_ok_iff.trans bind_labelled?_eq_some_iff) ih
      | _ => exact error_iff_listed _

namespace Fragment

theorem entryName_eq_ok_iff {k v : Value} {name : String} :
    entryName k v = .ok name ↔
      ∃ c, k.column? v = some c ∧ Text.isIdentifier c.label = true ∧ name = c.entry := by
  rw [entryName, Value.column?]
  cases v.fieldName? with
  | none =>
    constructor
    · intro h
      obtain ⟨key, _, herror⟩ := exists_of_bind_eq_ok h
      cases hshown : v.shown? <;> rw [hshown] at herror <;> cases herror
    · rintro ⟨_, hc, _⟩
      cases hc
  | some source =>
    refine Iff.trans ?_ bind_labelled?_eq_some_iff
    cases hname : (textOf? k).bind (labelled? source) with
    | none => cases k.shown? <;> simp [hname]
    | some name' => simp [hname]

/-- **What a dictionary selects.** -/
theorem entryNames_eq_ok_iff : ∀ {ks vs : List Value} {names : List String},
    entryNames ks vs = .ok names ↔ Listed (List.zipWith Value.column? ks vs) names
  | [], _, _ => ok_nil_iff_listed
  | _ :: _, [], _ => ok_nil_iff_listed
  | _ :: _, _ :: _, _ => listed_step (fun _ => entryName_eq_ok_iff) fun _ => entryNames_eq_ok_iff

/-- The fragment is a dictionary, and its entries ask for the given columns. -/
inductive Displays [Limits] : Fragment → List (Option Column) → Prop
  | text {s : String} {t : Term} {scope : Scope} {keys values : List Term}
      (hterm : TextFragment.term s = .ok t) (hopened : t.opened = .ok (scope, .dict keys values)) :
      Displays (.text s) (List.zipWith (Term.column? scope) keys values)
  | callable {c : Callable} {ks vs : List Value} (hcall : c.call = .ok (.dict ks vs)) :
      Displays (.callable c) (List.zipWith Value.column? ks vs)
  | value (ks vs : List Value) : Displays (.value (.dict ks vs)) (List.zipWith Value.column? ks vs)

/-- **What a dictionary of either kind selects.** -/
theorem Displays.selector_eq_ok_iff [Limits] {f : Fragment} {asked : List (Option Column)}
    {names : List String} (h : Displays f asked) : f.selector = .ok names ↔ Listed asked names := by
  cases h with
  | @text s t scope keys values hterm hopened =>
    have hselector : t.selector = Term.selectorEntries scope keys values := by
      rw [Term.selector, hopened]
      rfl
    rw [agree_selector hterm, hselector, Term.selectorEntries_eq_ok_iff]
  | @callable c ks vs hcall =>
    rw [selector, hcall, ← entryNames_eq_ok_iff]
    exact agree_rejecting _ _ names
  | value ks vs =>
    rw [selector, ← entryNames_eq_ok_iff]
    exact agree_rejecting _ _ names

/-! ## 4. Several dictionaries -/

/-- A map that tells all members apart keeps which of them are repeated. -/
theorem eraseDups_map {α β : Type} [DecidableEq α] [DecidableEq β] {f : α → β} :
    ∀ {as : List α}, (∀ a ∈ as, ∀ b ∈ as, f a = f b → a = b) →
      (as.map f).eraseDups = as.eraseDups.map f
  | [], _ => rfl
  | a :: as, h => by
      have hfilter : (as.map f).filter (fun b => !b == f a) = (as.filter fun b => !b == a).map f := by
        rw [List.filter_map]
        refine congrArg (List.map f) (List.filter_congr fun b hb => ?_)
        rw [Bool.eq_iff_iff]
        simpa using not_congr ⟨h b (List.mem_cons_of_mem a hb) a List.mem_cons_self, congrArg f⟩
      have hothers : ∀ b ∈ as.filter fun b => !b == a, ∀ c ∈ as.filter fun b => !b == a,
          f b = f c → b = c := fun b hb c hc =>
        h b (List.mem_cons_of_mem a (List.mem_of_mem_filter hb)) c
          (List.mem_cons_of_mem a (List.mem_of_mem_filter hc))
      have ih := eraseDups_map hothers
      rw [List.map_cons, List.eraseDups_cons, List.eraseDups_cons, List.map_cons, hfilter, ih]
termination_by as => as.length
decreasing_by
  exact Nat.lt_succ_of_le (List.length_filter_le _ _)

theorem listed_of_mapM [Limits] {fs : List Fragment} {asked : List (List (Option Column))}
    (hdict : List.Forall₂ Displays fs asked) : ∀ {lists : List (List String)},
      fs.mapM selector = .ok lists → List.Forall₂ Listed asked lists := by
  induction hdict with
  | nil =>
    intro lists h
    cases h
    exact .nil
  | cons hf _ ih =>
    intro lists h
    rw [List.mapM_cons] at h
    obtain ⟨list, hlist, h⟩ := exists_of_bind_eq_ok h
    obtain ⟨rest, hrest, h⟩ := exists_of_bind_eq_ok h
    cases h
    exact .cons (hf.selector_eq_ok_iff.mp hlist) (ih hrest)

theorem asked_eq_of_listed {asked : List (List (Option Column))} {lists : List (List String)}
    (h : List.Forall₂ Listed asked lists) :
    asked = (lists.map fun list => list.map Column.ofEntry).map fun columns => columns.map some := by
  induction h with
  | nil => rfl
  | cons hlist _ ih => rw [List.map_cons, List.map_cons, ← hlist.asked_eq, ← ih]

theorem entry_ofEntry_of_listed {asked : List (List (Option Column))} {lists : List (List String)}
    (h : List.Forall₂ Listed asked lists) : ∀ name ∈ lists.flatten, (Column.ofEntry name).entry = name := by
  induction h with
  | nil => simp
  | cons hlist _ ih =>
    intro name hname
    rcases List.mem_append.mp hname with hname | hname
    · exact hlist.entry_ofEntry name hname
    · exact ih name hname

/-- **Dictionaries name their columns after their keys and lose none.** The entries of dictionaries that are
    accepted are fields under labels; each name that is listed for them stands for its field and label, and of
    all columns exactly the repeated ones are dropped. A name stands for a column in one of two ways: by the
    label behind the mark, or by the last of its own parts. -/
theorem columns_of_dictionaries [Limits] (fs : List Fragment) (asked : List (List (Option Column)))
    (names : List String) (hdict : List.Forall₂ Displays fs asked) (h : selectAll fs = .ok names) :
    (∃ (columns : List (List Column)) (lists : List (List String)),
      asked = columns.map (fun list => list.map some) ∧ fs.mapM selector = .ok lists ∧
      lists.map (fun list => list.map Column.ofEntry) = columns ∧
      names.map Column.ofEntry = columns.flatten.eraseDups) ∧
    (∀ source label : String, Text.isIdentifier label = true →
      Column.ofEntry (source ++ " AS " ++ label) = ⟨source, label⟩) ∧
    ∀ (parts : List Text.Identifier) (last : Text.Identifier),
      Column.ofEntry (Term.joined (parts ++ [last])) = ⟨Term.joined (parts ++ [last]), last.text⟩ := by
  refine ⟨?_, fun source _ => Column.ofEntry_labelled source, Column.ofEntry_joined⟩
  obtain ⟨lists, hlists, rfl, _⟩ := selectAll_eq_ok_iff.mp h
  have hlisted := listed_of_mapM hdict hlists
  refine ⟨_, lists, asked_eq_of_listed hlisted, hlists, rfl, ?_⟩
  have hback := entry_ofEntry_of_listed hlisted
  have hinjective : ∀ a ∈ lists.flatten, ∀ b ∈ lists.flatten, Column.ofEntry a = Column.ofEntry b → a = b := by
    intro a ha b hb hab
    rw [← hback a ha, ← hback b hb, hab]
  rw [addNames_nil_eq, ← eraseDups_map hinjective, List.map_flatten]

/-- One field under two labels, of which the first is its own last part. -/
def twiceText : String := "lambda sale: \x7b'worth': sale.deal.worth, 'gain': sale.deal.worth\x7d"

/-- The field of the text. -/
def dealTerm : Term :=
  .access (.access (.name ⟨"sale", by decide⟩) ⟨"deal", by decide⟩) ⟨"worth", by decide⟩

/-- The term of the text. -/
def twiceTerm : Term :=
  .lambdaOf ⟨"sale", by decide⟩
    (.dict [.constant (.literal (.str "worth")), .constant (.literal (.str "gain"))] [dealTerm, dealTerm])

theorem reads_twice : Phrase.reads twiceText twiceTerm := by decide +kernel

/-- A dictionary whose first column is the last one of the text. -/
def gainCallable : Callable :=
  ⟨"function", "<lambda>", some 1,
    .dict [.literal (.str "gain"), .literal (.str "place")]
      [.item .argument (.literal (.str "deal.worth")), .field (.literal (.str "town"))]⟩

theorem columns_of_dictionaries_twice :
    selectAll [.text twiceText, .callable gainCallable]
        = .ok ["deal.worth", "deal.worth AS gain", "town AS place"] ∧
      ∃ (columns : List (List Column)) (lists : List (List String)),
        [[some ⟨"deal.worth", "worth"⟩, some ⟨"deal.worth", "gain"⟩],
            [some ⟨"deal.worth", "gain"⟩, some ⟨"town", "place"⟩]]
          = columns.map (fun list => list.map some) ∧
        List.mapM selector [.text twiceText, .callable gainCallable] = .ok lists ∧
        lists.map (fun list => list.map Column.ofEntry) = columns ∧
        ["deal.worth", "deal.worth AS gain", "town AS place"].map Column.ofEntry
          = columns.flatten.eraseDups := by
  have hterm := Phrase.term_eq_of_reads reads_twice
  have hread : (Fragment.text twiceText).selector = .ok ["deal.worth", "deal.worth AS gain"] := by
    rw [agree_selector hterm]
    decide +kernel
  have hselected : selectAll [.text twiceText, .callable gainCallable]
      = .ok ["deal.worth", "deal.worth AS gain", "town AS place"] := by
    rw [selectAll, List.foldlM_cons, hread]
    decide +kernel
  have hcall : gainCallable.call
      = .ok (.dict [.literal (.str "gain"), .literal (.str "place")] [.field "deal.worth", .field "town"]) := rfl
  have hdict : List.Forall₂ Displays [.text twiceText, .callable gainCallable]
      [[some ⟨"deal.worth", "worth"⟩, some ⟨"deal.worth", "gain"⟩],
        [some ⟨"deal.worth", "gain"⟩, some ⟨"town", "place"⟩]] :=
    .cons (.text hterm rfl) (.cons (.callable hcall) .nil)
  exact ⟨hselected, (columns_of_dictionaries _ _ _ hdict hselected).1⟩

end Fragment

end BoundQuery
