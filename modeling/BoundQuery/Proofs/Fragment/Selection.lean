import BoundQuery.Fragment.Basic
import BoundQuery.Proofs.Failure

/-!
# Selected names

Several selectors are read one after another, and the names of each are added to those before it.
`Fragment.selectAll_eq_ok_iff` says what comes of it: the names of all selectors in order, each name once
(`Fragment.nodup_addNames`, `Fragment.addNames_nil_eq`), and one name at least.
-/

namespace BoundQuery.Fragment

theorem addNames_cons (names : List String) (first : String) (more : List String) :
    addNames names (first :: more)
      = addNames (if first ∈ names then names else names ++ [first]) more := by
  have hstep : addNames names (first :: more)
      = addNames (if names.contains first then names else names ++ [first]) more := rfl
  simpa only [List.contains_iff_mem] using hstep

theorem mem_addNames {name : String} : ∀ {more names : List String},
    name ∈ addNames names more ↔ name ∈ names ∨ name ∈ more
  | [], names => by simp [addNames]
  | first :: more, names => by
      rw [addNames_cons, mem_addNames, List.mem_cons, ← or_assoc]
      refine or_congr_left ?_
      split
      · rename_i hfirst
        exact (or_iff_left_of_imp fun hname => hname ▸ hfirst).symm
      · rw [List.mem_append, List.mem_singleton]

/-- **Added names keep a list free of repetitions.** -/
theorem nodup_addNames : ∀ {more names : List String}, names.Nodup → (addNames names more).Nodup
  | [], _, h => h
  | first :: more, names, h => by
      rw [addNames_cons]
      refine nodup_addNames ?_
      split
      · exact h
      · rename_i hfirst
        rw [List.nodup_append]
        exact ⟨h, by simp, fun a ha b hb hab => hfirst (List.mem_singleton.mp hb ▸ hab ▸ ha)⟩

/-- Of the names that are added, each new one is kept in its first place. -/
theorem addNames_eq : ∀ more names : List String,
    addNames names more = names ++ (more.filter (· ∉ names)).eraseDups
  | [], names => by simp [addNames]
  | first :: more, names => by
      have ih := addNames_eq more
      rw [addNames_cons, List.filter_cons]
      by_cases hfirst : first ∈ names
      · rw [if_pos hfirst, if_neg (by simpa using hfirst), ih]
      · have hlater : more.filter (· ∉ names ++ [first])
            = (more.filter (· ∉ names)).filter fun name => !name == first := by
          rw [List.filter_filter]
          refine List.filter_congr fun name _ => ?_
          rw [Bool.eq_iff_iff]
          simp [and_comm]
        rw [if_neg hfirst, if_pos (by simpa using hfirst), ih, List.eraseDups_cons, hlater,
          List.append_assoc, List.singleton_append]

theorem addNames_nil_eq (names : List String) : addNames [] names = names.eraseDups := by
  rw [addNames_eq, List.nil_append, List.filter_eq_self.mpr (by simp)]

/-- Adding the names of one selector after another is adding those of all. -/
theorem foldlM_addNames [Limits] : ∀ (fs : List Fragment) (names : List String),
    fs.foldlM (fun names f => do return addNames names (← f.selector)) names
      = do return addNames names (← fs.mapM selector).flatten
  | [], names => by
      rw [List.foldlM_nil, List.mapM_nil]
      rfl
  | f :: fs, names => by
      rw [List.foldlM_cons, List.mapM_cons]
      cases f.selector with
      | error failure => rfl
      | ok more =>
        have ih := foldlM_addNames fs (addNames names more)
        have hstep : (do return addNames names (← (.ok more : Except Failure (List String)))) >>=
              (fun names => fs.foldlM (fun names f => do return addNames names (← f.selector)) names)
            = fs.foldlM (fun names f => do return addNames names (← f.selector)) (addNames names more) := rfl
        rw [hstep, ih]
        cases fs.mapM selector with
        | error failure => rfl
        | ok lists => exact congrArg Except.ok List.foldl_append.symm

/-- **What several selectors select: the names of all in order, each once, and one at least.** -/
theorem selectAll_eq_ok_iff [Limits] {fs : List Fragment} {names : List String} :
    selectAll fs = .ok names ↔
      ∃ lists, fs.mapM selector = .ok lists ∧ names = addNames [] lists.flatten ∧ names ≠ [] := by
  rw [selectAll, foldlM_addNames]
  cases fs.mapM selector with
  | error failure =>
    constructor
    · intro h
      cases h
    · rintro ⟨lists, h, _⟩
      cases h
  | ok lists =>
    constructor
    · intro h
      obtain ⟨all, hall, h⟩ := exists_of_bind_eq_ok h
      cases hall
      split at h
      · obtain ⟨texts, _, herror⟩ := exists_of_bind_eq_ok h
        cases herror
      · rename_i hempty
        cases h
        exact ⟨lists, rfl, rfl, fun hnil => hempty (List.isEmpty_iff.mpr hnil)⟩
    · rintro ⟨lists', h, rfl, hne⟩
      cases h
      have hempty : ¬(addNames [] lists.flatten).isEmpty = true := by simpa using hne
      exact if_neg hempty

theorem eraseDups_eq_nil_iff {names : List String} : names.eraseDups = [] ↔ names = [] := by
  cases names <;> simp [List.eraseDups_cons]

theorem selectAll_singleton_eq_ok_iff [Limits] {f : Fragment} {names : List String} :
    selectAll [f] = .ok names ↔
      ∃ list, f.selector = .ok list ∧ names = list.eraseDups ∧ list ≠ [] := by
  rw [selectAll_eq_ok_iff, List.mapM_cons, List.mapM_nil]
  constructor
  · rintro ⟨lists, hlists, rfl, hne⟩
    obtain ⟨list, hlist, hlists⟩ := exists_of_bind_eq_ok hlists
    cases hlists
    rw [addNames_nil_eq, List.flatten_singleton] at hne ⊢
    exact ⟨list, hlist, rfl, fun hnil => hne (eraseDups_eq_nil_iff.mpr hnil)⟩
  · rintro ⟨list, hlist, rfl, hne⟩
    rw [hlist]
    refine ⟨[list], rfl, ?_, fun hnil => hne (eraseDups_eq_nil_iff.mp hnil)⟩
    rw [addNames_nil_eq, List.flatten_singleton]

theorem nodup_of_selectAll [Limits] {fs : List Fragment} {names : List String}
    (h : selectAll fs = .ok names) : names.Nodup := by
  obtain ⟨lists, _, rfl, _⟩ := selectAll_eq_ok_iff.mp h
  exact nodup_addNames .nil

theorem ne_nil_of_selectAll [Limits] {fs : List Fragment} {names : List String}
    (h : selectAll fs = .ok names) : names ≠ [] := by
  obtain ⟨_, _, _, hne⟩ := selectAll_eq_ok_iff.mp h
  exact hne

end BoundQuery.Fragment
