import BoundQuery.Proofs.Fragment.SingleField

/-!
# Selectors split and joined

Names are selected one selector after another, into one list in which each name stands once. The list does
not depend on where one selector ends and the next begins: adding names is associative
(`Fragment.addNames_assoc`), so that several selectors may be split anywhere and their names put together
afterwards, and a display of fields may be taken apart into its members.

* `Fragment.selectAll_of_lists` and `Fragment.selectAll_of_error` – the outcome, from the names of each
  selector or from the first that fails;
* `Fragment.selectAll_append` – two halves that select something select it together;
* `Fragment.selectAll_items` – the members of a display select what the display selects.
-/

namespace BoundQuery

namespace Fragment

/-! ## 1. Names added in turn -/

theorem addNames_append (names more others : List String) :
    addNames names (more ++ others) = addNames (addNames names more) others := List.foldl_append

/-- **Adding names is associative.** A name that is added twice is passed over the second time, no matter to
    which of the lists it has been added. -/
theorem addNames_assoc : ∀ (others names more : List String),
    addNames names (addNames more others) = addNames (addNames names more) others
  | [], _, _ => rfl
  | other :: others, names, more => by
      have ih := addNames_assoc others names
      rw [addNames_cons, addNames_cons, ih]
      congr 1
      by_cases hmore : other ∈ more
      · rw [if_pos hmore, if_pos (mem_addNames.mpr (.inr hmore))]
      · rw [if_neg hmore, addNames_append, addNames_cons]
        rfl

/-- Of two lists, the same names are left whether they are put together before or after each is freed of
    repetitions. -/
theorem eraseDups_append_eraseDups (names more : List String) :
    (names.eraseDups ++ more.eraseDups).eraseDups = (names ++ more).eraseDups := by
  simp only [← addNames_nil_eq]
  have hself : addNames [] (addNames [] names) = addNames [] names := addNames_assoc names [] []
  calc addNames [] (addNames [] names ++ addNames [] more)
      = addNames (addNames [] (addNames [] names)) (addNames [] more) := addNames_append _ _ _
    _ = addNames (addNames [] names) (addNames [] more) := by rw [hself]
    _ = addNames (addNames [] names) more := addNames_assoc more _ []
    _ = addNames [] (names ++ more) := (addNames_append _ _ _).symm

end Fragment

/-! ## 2. Steps in turn -/

section Steps

variable {ε α β : Type} {f : α → Except ε β}

/-- Steps in turn succeed exactly if each of them does. -/
theorem mapM_eq_ok_iff_forall₂ : ∀ {as : List α} {bs : List β},
    as.mapM f = .ok bs ↔ List.Forall₂ (fun a b => f a = .ok b) as bs
  | [], bs => by
      rw [List.mapM_nil, List.forall₂_nil_left_iff]
      exact ⟨fun h => (Except.ok.inj h).symm, fun h => h ▸ rfl⟩
  | a :: as, bs => by
      rw [List.mapM_cons, List.forall₂_cons_left_iff]
      constructor
      · intro h
        obtain ⟨b, hb, h⟩ := exists_of_bind_eq_ok h
        obtain ⟨rest, hrest, h⟩ := exists_of_bind_eq_ok h
        cases h
        exact ⟨b, rest, hb, mapM_eq_ok_iff_forall₂.mp hrest, rfl⟩
      · rintro ⟨b, rest, hb, hrest, rfl⟩
        rw [hb, mapM_eq_ok_iff_forall₂.mpr hrest]
        rfl

/-- Steps in turn fail as the first one that fails. -/
theorem mapM_eq_error_of_first {a : α} {after : List α} {e : ε} (ha : f a = .error e) :
    ∀ {before : List α}, (∀ b ∈ before, ∃ c, f b = .ok c) → (before ++ a :: after).mapM f = .error e
  | [], _ => by
      rw [List.nil_append, List.mapM_cons, ha]
      rfl
  | b :: before, h => by
      obtain ⟨⟨c, hc⟩, hbefore⟩ := List.forall_mem_cons.mp h
      rw [List.cons_append, List.mapM_cons, hc, mapM_eq_error_of_first ha hbefore]
      rfl

end Steps

namespace Fragment

/-! ## 3. The outcome of several selectors -/

variable {fs : List Fragment} {lists : List (List String)}

/-- The selector of each fragment gives the list beside it. -/
abbrev Select [Limits] (fs : List Fragment) (lists : List (List String)) : Prop :=
  List.Forall₂ (fun f names => f.selector = .ok names) fs lists

theorem selectAll_of_lists [Limits] (h : Select fs lists) (hne : lists.flatten ≠ []) :
    selectAll fs = .ok lists.flatten.eraseDups := by
  refine selectAll_eq_ok_iff.mpr ⟨lists, mapM_eq_ok_iff_forall₂.mpr h, (addNames_nil_eq _).symm, ?_⟩
  exact fun hnil => hne (eraseDups_eq_nil_iff.mp hnil)

/-- Selectors that name nothing are rejected. -/
theorem exists_error_iff [Limits] (h : Select fs lists) :
    (∃ failure, selectAll fs = .error failure) ↔ lists.flatten = [] := by
  constructor
  · rintro ⟨failure, hfailure⟩
    by_contra hne
    rw [selectAll_of_lists h hne] at hfailure
    cases hfailure
  · intro hnil
    cases houtcome : selectAll fs with
    | error failure => exact ⟨failure, rfl⟩
    | ok names =>
      obtain ⟨lists', hlists', rfl, hne⟩ := selectAll_eq_ok_iff.mp houtcome
      rw [mapM_eq_ok_iff_forall₂.mpr h] at hlists'
      cases hlists'
      rw [hnil] at hne
      exact absurd rfl hne

theorem selectAll_of_error [Limits] {failure : Failure} (h : fs.mapM selector = .error failure) :
    selectAll fs = .error failure := by
  rw [selectAll, foldlM_addNames, h]
  rfl

/-- Two halves that select something select it together, each name once. -/
theorem selectAll_append [Limits] {gs : List Fragment} {names more : List String}
    (h : selectAll fs = .ok names) (h' : selectAll gs = .ok more) :
    selectAll (fs ++ gs) = .ok (names ++ more).eraseDups := by
  obtain ⟨lists, hlists, rfl, hne⟩ := selectAll_eq_ok_iff.mp h
  obtain ⟨lists', hlists', rfl, -⟩ := selectAll_eq_ok_iff.mp h'
  rw [addNames_nil_eq] at hne ⊢
  rw [addNames_nil_eq, eraseDups_append_eraseDups, ← List.flatten_append]
  refine selectAll_of_lists ?_ ?_
  · exact List.rel_append (mapM_eq_ok_iff_forall₂.mp hlists) (mapM_eq_ok_iff_forall₂.mp hlists')
  · intro hnil
    obtain ⟨hflat, -⟩ := List.append_eq_nil_iff.mp (List.flatten_append ▸ hnil)
    exact hne (eraseDups_eq_nil_iff.mpr hflat)

/-! ## 4. Displays and their members -/

/-- A text is a display of several terms: a tuple or a list, without a lambda around it. -/
def IsDisplay [Limits] (text : String) (items : List Term) : Prop :=
  TextFragment.term text = .ok (.tuple items) ∨ TextFragment.term text = .ok (.list items)

theorem IsDisplay.selector_eq_ok_iff [Limits] {text : String} {items : List Term} {names : List String}
    (h : IsDisplay text items) : (Fragment.text text).selector = .ok names ↔
      List.Forall₂ (fun item name => item.fieldName none = .ok name) items names := by
  have hlift : Failure.lift (items.mapM (Term.fieldName none)) = .ok names ↔
      items.mapM (Term.fieldName none) = .ok names := by
    refine ⟨Failure.eq_ok_of_lift, fun hnames => ?_⟩
    rw [hnames]
    rfl
  rw [← mapM_eq_ok_iff_forall₂, ← hlift]
  rcases h with hterm | hterm
  · exact agree_selector hterm names
  · exact agree_selector hterm names

/-- A term that names a field by itself opens no scope. -/
theorem opened_of_fieldName {t : Term} {name : String} (h : t.fieldName none = .ok name) :
    t.opened = .ok (none, t) := by
  cases t with
  | lambda parameters defaults keywordDefaults body => cases h
  | _ => rfl

/-- Fields given by texts of their own are selected one by one. -/
theorem select_of_fields [Limits] {texts : List String} {items : List Term}
    (hterms : List.Forall₂ (fun text item => TextFragment.term text = .ok item) texts items) :
    ∀ {names : List String},
      List.Forall₂ (fun item name => item.fieldName none = .ok name) items names →
      Select (texts.map .text) (names.map fun name => [name]) := by
  induction hterms with
  | nil =>
    intro names hnames
    cases hnames
    exact .nil
  | cons hterm _ ih =>
    intro names hnames
    cases hnames with
    | cons hname hnames =>
      exact .cons (NamesField.text hterm (opened_of_fieldName hname) hname).selector_eq (ih hnames)

/-- The members of a display that is accepted select what the display selects. -/
theorem selectAll_items [Limits] {text : String} {items : List Term} {texts names : List String}
    (hdisplay : IsDisplay text items)
    (hterms : List.Forall₂ (fun text item => TextFragment.term text = .ok item) texts items)
    (h : selectAll [.text text] = .ok names) : selectAll (texts.map .text) = .ok names := by
  obtain ⟨list, hlist, rfl, hne⟩ := selectAll_singleton_eq_ok_iff.mp h
  have hselect := select_of_fields hterms (hdisplay.selector_eq_ok_iff.mp hlist)
  have hflatten : (list.map fun name => [name]).flatten = list := by
    rw [← List.flatMap_def, List.flatMap_singleton']
  have hall := selectAll_of_lists hselect (by rwa [hflatten])
  rwa [hflatten] at hall

/-- **It does not matter how selectors are split.** If every selector gives its names, all of them select
    these names in order, each in its first place, and are rejected exactly if there is none; otherwise they
    fail as the first one that fails. So no name is selected twice, two halves that select something select it
    together, and a display that is accepted may be replaced by its members. -/
theorem selectors_split [Limits] (fs : List Fragment) :
    (∀ lists : List (List String), List.Forall₂ (fun f names => f.selector = .ok names) fs lists →
      ((∃ failure, selectAll fs = .error failure) ↔ lists.flatten = []) ∧
      (lists.flatten ≠ [] → selectAll fs = .ok lists.flatten.eraseDups)) ∧
    (∀ (before after : List Fragment) (f : Fragment) (failure : Failure), fs = before ++ f :: after →
      (∀ g ∈ before, ∃ names, g.selector = .ok names) → f.selector = .error failure →
      selectAll fs = .error failure) ∧
    (∀ names, selectAll fs = .ok names → names.Nodup) ∧
    (∀ (gs : List Fragment) (names more : List String), selectAll fs = .ok names →
      selectAll gs = .ok more → selectAll (fs ++ gs) = .ok (names ++ more).eraseDups) ∧
    (∀ (text : String) (items : List Term) (texts names : List String), IsDisplay text items →
      fs = texts.map .text →
      List.Forall₂ (fun text item => TextFragment.term text = .ok item) texts items →
      selectAll [.text text] = .ok names → selectAll fs = .ok names) := by
  refine ⟨fun lists h => ⟨exists_error_iff h, selectAll_of_lists h⟩, ?_, fun names => nodup_of_selectAll,
    fun gs names more => selectAll_append, ?_⟩
  · rintro before after f failure rfl hbefore hf
    exact selectAll_of_error (mapM_eq_error_of_first hf hbefore)
  · rintro text items texts names hdisplay rfl hterms h
    exact selectAll_items hdisplay hterms h

/-- The size of a depot. -/
def depotSize : Term := .access (.name ⟨"depot", by decide⟩) ⟨"size", by decide⟩

/-- A weight. -/
def weightTerm : Term := .name ⟨"weight", by decide⟩

theorem reads_depot :
    Phrase.reads "depot.size, weight, depot.size" (.tuple [depotSize, weightTerm, depotSize]) ∧
      Phrase.reads "depot.size" depotSize ∧ Phrase.reads "weight" weightTerm := by
  decide +kernel

theorem selectors_split_depot :
    selectAll [.text "depot.size, weight, depot.size"] = .ok ["depot.size", "weight"] ∧
      selectAll [.text "depot.size", .text "weight", .text "depot.size"]
        = .ok ["depot.size", "weight"] ∧
      selectAll ([.text "depot.size, weight, depot.size"]
          ++ [.value (.field "maker"), .value (.field "weight")])
        = .ok ["depot.size", "weight", "maker"] := by
  obtain ⟨hdisplay, hsize, hweight⟩ := reads_depot
  have hdisplay := Phrase.term_eq_of_reads hdisplay
  have hsize := Phrase.term_eq_of_reads hsize
  have hweight := Phrase.term_eq_of_reads hweight
  have hnames : (Fragment.text "depot.size, weight, depot.size").selector
      = .ok ["depot.size", "weight", "depot.size"] := (agree_selector hdisplay _).mpr rfl
  have hwhole : selectAll [.text "depot.size, weight, depot.size"] = .ok ["depot.size", "weight"] :=
    ((selectors_split [.text "depot.size, weight, depot.size"]).1 _ (.cons hnames .nil)).2 (by decide)
  refine ⟨hwhole, ?_, ?_⟩
  · exact (selectors_split _).2.2.2.2 _ _ ["depot.size", "weight", "depot.size"] _ (.inl hdisplay) rfl
      (.cons hsize (.cons hweight (.cons hsize .nil))) hwhole
  · exact (selectors_split _).2.2.2.1 _ _ ["maker", "weight"] hwhole rfl

end Fragment

end BoundQuery
