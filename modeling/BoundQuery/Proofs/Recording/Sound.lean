import BoundQuery.Proofs.Failure
import BoundQuery.Proofs.Sql.WellFormed
import BoundQuery.Recording.Body

/-!
# What callable fragments record is well formed

A value is sound if every tree in it is well formed. Fields, predicates and the values made of them are
sound from the start, and no operation leads out of the sound values, be it recorded or plain; so a body
in which no tree is given as data has a sound value (`Body.yields_run`).

* `Value.yields_compare`, `Value.yields_connect`, `Value.yields_invert`, `Value.yields_invoke` – the
  operations that record;
* `Value.yields_access`, `Value.yields_item`, `Value.yields_compute` – those that take values apart and
  put plain values together.
-/

namespace BoundQuery

open BoundQuery.Sql

/-! ## 1. Sound values -/

namespace Tree.WellFormed

theorem compare (c : Comparison) {left right : Tree} (hl : left.WellFormed) (hr : right.WellFormed) :
    (Tree.compare c left right).WellFormed :=
  .binary (by rw [comparisonSql?_spelling]; rfl) hl hr

theorem connect (op : Connective) {left right : Tree} (hl : left.WellFormed) (hr : right.WellFormed) :
    (Tree.connect op left right).WellFormed :=
  .logical (by rw [connectiveSql?_spelling]; rfl) hl hr

theorem connect_iff {op : Connective} {left right : Tree} :
    (Tree.connect op left right).WellFormed ↔ left.WellFormed ∧ right.WellFormed := by
  constructor
  · intro h
    cases h with
    | logical _ hl hr => exact ⟨hl, hr⟩
  · rintro ⟨hl, hr⟩
    exact .connect op hl hr

theorem negate {t : Tree} (h : t.WellFormed) : t.negate.WellFormed := .unary rfl h

/-- Every argument of a well-formed call is well formed, the term of a text match too. -/
theorem of_mem_arguments {callee : String} {arguments : List Tree}
    (h : (Tree.call callee arguments).WellFormed) : ∀ t ∈ arguments, t.WellFormed := by
  cases h with
  | membership _ h => exact h
  | pattern m h term =>
    intro t ht
    simp only [List.mem_cons, List.not_mem_nil, or_false] at ht
    rcases ht with rfl | rfl
    · exact h
    · exact .literal _

end Tree.WellFormed

namespace Value

/-- A value in which every tree is well formed. -/
inductive Sound : Value → Prop
  | literal (value : Literal) : Sound (.literal value)
  | bytes (value : List UInt8) : Sound (.bytes value)
  | list {items : List Value} (h : ∀ v ∈ items, Sound v) : Sound (.list items)
  | tuple {items : List Value} (h : ∀ v ∈ items, Sound v) : Sound (.tuple items)
  | set {items : List Value} (h : ∀ v ∈ items, Sound v) : Sound (.set items)
  | dict {keys values : List Value} (hk : ∀ v ∈ keys, Sound v) (hv : ∀ v ∈ values, Sound v) :
      Sound (.dict keys values)
  | generator {items : List Value} (h : ∀ v ∈ items, Sound v) (stop : Option Failure) :
      Sound (.generator items stop)
  | record (isArgument : Bool) : Sound (.record isArgument)
  | field (name : String) : Sound (.field name)
  | predicate {tree : Tree} (h : tree.WellFormed) : Sound (.predicate tree)
  | tree {tree : Tree} (h : tree.WellFormed) : Sound (.tree tree)
  | method (owner : String) (m : Method) : Sound (.method owner m)
  | kind (name shown : String) : Sound (.kind name shown)

/-! ## 2. Trees of values -/

theorem wellFormed_of_recorded? {v : Value} {t : Tree} (h : v.Sound) (ht : v.recorded? = some t) :
    t.WellFormed := by
  cases h with
  | field name =>
    cases ht
    exact .member name
  | predicate hwf =>
    cases ht
    exact hwf
  | _ => cases ht

theorem yields_asTree {v : Value} (h : v.Sound) : Yields Tree.WellFormed v.asTree := by
  cases h with
  | field name => exact .ok (.member name)
  | predicate hwf => exact .ok hwf
  | tree hwf => exact .ok hwf
  | literal value => exact .ok (.literal value)
  | _ => exact .error _

/-- The fields of a well-formed tree are sound. -/
theorem sound_treeFields {t : Tree} (h : t.WellFormed) : ∀ entry ∈ treeFields t, entry.2.Sound := by
  intro entry hentry
  cases t with
  | member name =>
    simp only [treeFields, List.mem_cons, List.not_mem_nil, or_false] at hentry
    rcases hentry with rfl | rfl <;> exact .literal _
  | literal value =>
    simp only [treeFields, List.mem_cons, List.not_mem_nil, or_false] at hentry
    rcases hentry with rfl | rfl <;> exact .literal _
  | binary operator left right =>
    cases h with
    | binary _ hl hr =>
      simp only [treeFields, List.mem_cons, List.not_mem_nil, or_false] at hentry
      rcases hentry with rfl | rfl | rfl | rfl
      · exact .literal _
      · exact .literal _
      · exact .tree hl
      · exact .tree hr
  | logical operator left right =>
    cases h with
    | logical _ hl hr =>
      simp only [treeFields, List.mem_cons, List.not_mem_nil, or_false] at hentry
      rcases hentry with rfl | rfl | rfl | rfl
      · exact .literal _
      · exact .literal _
      · exact .tree hl
      · exact .tree hr
  | unary operator operand =>
    cases h with
    | unary _ hoperand =>
      simp only [treeFields, List.mem_cons, List.not_mem_nil, or_false] at hentry
      rcases hentry with rfl | rfl | rfl
      · exact .literal _
      · exact .literal _
      · exact .tree hoperand
  | call callee arguments =>
    simp only [treeFields, List.mem_cons, List.not_mem_nil, or_false] at hentry
    rcases hentry with rfl | rfl | rfl
    · exact .literal _
    · exact .literal _
    · refine .tuple fun v hv => ?_
      obtain ⟨t, ht, rfl⟩ := List.mem_map.mp hv
      exact .tree (h.of_mem_arguments t ht)

/-! ## 3. Attributes and items -/

theorem yields_access {v : Value} (h : v.Sound) (name : String) : Yields Sound (v.access name) := by
  unfold access
  split
  · split
    · exact .error _
    · exact .ok (.field _)
  · split
    · exact .ok (.tree (.member _))
    · split
      · exact .ok (.literal _)
      · split
        · exact .ok (.method _ _)
        · exact .error _
  · split
    · cases h with
      | predicate hwf => exact .ok (.tree hwf)
    · exact .error _
  · split
    · rename_i entry hentry
      cases h with
      | tree hwf => exact .ok (sound_treeFields hwf entry (List.mem_of_find?_eq_some hentry))
    · exact .error _
  · exact .error _

theorem mem_of_memberAt {α : Type} {items : List α} {index : Int} {x : α}
    (h : memberAt items index = some x) : x ∈ items := by
  unfold memberAt at h
  generalize (if index < 0 then index + (items.length : Int) else index) = position at h
  dsimp only at h
  split at h
  · cases h
  · exact List.mem_of_getElem? h

theorem mem_of_lookUp {key value : Value} : ∀ {keys values : List Value},
    lookUp key keys values = some value → value ∈ values
  | [], _, h => by simp [lookUp] at h
  | _ :: _, [], h => by simp [lookUp] at h
  | k :: ks, v :: vs, h => by
      unfold lookUp at h
      split at h
      · cases h
        exact List.mem_cons_self
      · exact List.mem_cons_of_mem _ (mem_of_lookUp h)

theorem yields_at? {α : Type} (key : Value) (what before after : String) {items : List α}
    {build : α → Value} (h : ∀ x ∈ items, (build x).Sound) :
    Yields Sound (item.at? key what before after items build) := by
  unfold item.at?
  split
  · exact .error _
  · split
    · exact .error _
    · split
      · rename_i x hx
        exact .ok (h x (mem_of_memberAt hx))
      · exact .error _

theorem yields_item {v : Value} (h : v.Sound) (key : Value) : Yields Sound (v.item key) := by
  unfold item
  split
  · split
    · split
      · exact .error _
      · exact .ok (.field _)
    · exact .error _
  · cases h with
    | list hitems => exact yields_at? _ _ _ _ hitems
  · cases h with
    | tuple hitems => exact yields_at? _ _ _ _ hitems
  · exact yields_at? _ _ _ _ fun _ _ => .literal _
  · exact yields_at? _ _ _ _ fun _ _ => .literal _
  · cases h with
    | dict _ hvalues =>
      refine (yields_anything _).bind fun k _ => ?_
      split
      · rename_i value hvalue
        exact .ok (hvalues value (mem_of_lookUp hvalue))
      · exact (yields_anything _).bind fun _ _ => .error _
  · exact .error _

theorem yields_fieldNamed (name : Value) : Yields Sound (fieldNamed name) := by
  unfold fieldNamed
  split
  · exact .ok (.field _)
  · exact .ok (.field _)
  · exact .error _

/-! ## 4. Comparisons, connectives and negation -/

theorem yields_compare (c : Comparison) {a b : Value} (ha : a.Sound) (hb : b.Sound) :
    Yields Sound (a.compare c b) := by
  unfold compare
  split
  · rename_i s name
    exact .ok (.predicate (.compare _ (.member name) (wellFormed_of_recorded? ha rfl)))
  · split
    · rename_i s hs
      exact (yields_asTree hb).bind fun t ht =>
        .ok (.predicate (.compare _ (wellFormed_of_recorded? ha hs) ht))
    · rename_i t _ ht
      exact (yields_asTree ha).bind fun s hs =>
        .ok (.predicate (.compare _ (wellFormed_of_recorded? hb ht) hs))
    · split
      · exact (yields_anything _).bind fun _ _ => .ok (.literal _)
      · exact (yields_anything _).bind fun _ _ => .ok (.literal _)
      · exact (yields_anything _).bind fun _ _ => .ok (.literal _)

/-- Sound keys and values of a dictionary. -/
def SoundEntries (entries : List Value × List Value) : Prop :=
  (∀ k ∈ entries.1, k.Sound) ∧ ∀ v ∈ entries.2, v.Sound

theorem soundEntries_insertEntry {key value : Value} (hkey : key.Sound) (hvalue : value.Sound) :
    ∀ {keys values : List Value}, SoundEntries (keys, values) →
      SoundEntries (insertEntry key value keys values)
  | [], _, _ => by simp [insertEntry, SoundEntries, hkey, hvalue]
  | _ :: _, [], _ => by simp [insertEntry, SoundEntries, hkey, hvalue]
  | k :: ks, v :: vs, h => by
      obtain ⟨hk, hks⟩ := List.forall_mem_cons.mp h.1
      obtain ⟨hv, hvs⟩ := List.forall_mem_cons.mp h.2
      have hrest : SoundEntries (ks, vs) := ⟨hks, hvs⟩
      have ih := soundEntries_insertEntry hkey hvalue hrest
      unfold insertEntry
      split
      · exact ⟨h.1, List.forall_mem_cons.mpr ⟨hvalue, hvs⟩⟩
      · exact ⟨List.forall_mem_cons.mpr ⟨hk, ih.1⟩, List.forall_mem_cons.mpr ⟨hv, ih.2⟩⟩

theorem soundEntries_foldl : ∀ {more : List (Value × Value)} {entries : List Value × List Value},
    (∀ entry ∈ more, entry.1.Sound ∧ entry.2.Sound) → SoundEntries entries →
      SoundEntries (more.foldl (fun (ks, vs) (k, v) => insertEntry k v ks vs) entries)
  | [], _, _, h => h
  | entry :: more, _, hmore, h => by
      obtain ⟨hentry, hrest⟩ := List.forall_mem_cons.mp hmore
      rw [List.foldl_cons]
      exact soundEntries_foldl hrest (soundEntries_insertEntry hentry.1 hentry.2 h)

theorem sound_connectSets (op : Connective) {as bs : List Value} (ha : ∀ v ∈ as, v.Sound)
    (hb : ∀ v ∈ bs, v.Sound) : ∀ v ∈ connectSets op as bs, v.Sound := by
  intro v hv
  unfold connectSets at hv
  split at hv
  · exact ha v (List.mem_filter.mp hv).1
  · rcases List.mem_append.mp hv with hv | hv
    · exact ha v hv
    · exact hb v (List.mem_filter.mp hv).1

theorem yields_connectPlain (op : Connective) {a b : Value} (ha : a.Sound) (hb : b.Sound) :
    Yields Sound (connectPlain op a b) := by
  unfold connectPlain
  split
  · exact .ok (.literal _)
  · cases ha with
    | set has =>
      cases hb with
      | set hbs => exact .ok (.set (sound_connectSets op has hbs))
  · rename_i ks vs ks' vs'
    split
    · exact .error _
    · cases ha with
      | dict hks hvs =>
        cases hb with
        | dict hks' hvs' =>
          have hmore : ∀ entry ∈ ks'.zip vs', entry.1.Sound ∧ entry.2.Sound := fun entry hentry =>
            ⟨hks' _ (List.of_mem_zip hentry).1, hvs' _ (List.of_mem_zip hentry).2⟩
          have hfirst : SoundEntries (ks, vs) := ⟨hks, hvs⟩
          have hall := soundEntries_foldl hmore hfirst
          exact .ok (.dict hall.1 hall.2)
  · split
    · exact .ok (.literal _)
    · exact .error _

theorem yields_connect (op : Connective) {a b : Value} (ha : a.Sound) (hb : b.Sound) :
    Yields Sound (a.connect op b) := by
  unfold connect
  split
  · exact (yields_asTree ha).bind fun s hs => (yields_asTree hb).bind fun t ht =>
      .ok (.predicate (.connect op hs ht))
  · exact yields_connectPlain op ha hb

theorem yields_invert {v : Value} (h : v.Sound) : Yields Sound v.invert := by
  unfold invert
  split
  · rename_i t ht
    exact .ok (.predicate (wellFormed_of_recorded? h ht).negate)
  · exact .ok (.literal _)
  · exact .error _

/-! ## 5. Arithmetic -/

theorem sound_flatten_replicate {items : List Value} (h : ∀ v ∈ items, v.Sound) (n : Nat) :
    ∀ v ∈ (List.replicate n items).flatten, v.Sound := by
  intro v hv
  obtain ⟨l, hl, hv⟩ := List.mem_flatten.mp hv
  rw [List.eq_of_mem_replicate hl] at hv
  exact h v hv

/-- A sound sequence is sound however often it is repeated. -/
theorem sound_of_sequence? {v : Value} {length : Nat} {build : Nat → Value} (h : v.Sound)
    (hs : v.sequence? = some (length, build)) (n : Nat) : (build n).Sound := by
  unfold sequence? at hs
  split at hs
  · cases hs
    cases h with
    | list hitems => exact .list (sound_flatten_replicate hitems n)
  · cases hs
    cases h with
    | tuple hitems => exact .tuple (sound_flatten_replicate hitems n)
  · cases hs
    exact .literal _
  · cases hs
    exact .bytes _
  · cases hs

theorem yields_repeated {length : Nat} {build : Nat → Value} (h : ∀ n, (build n).Sound)
    (count : Value) : Yields Sound (repeated length build count) := by
  unfold repeated
  split
  · split
    · exact .error _
    · split
      · exact .ok (h 0)
      · split
        · exact .error _
        · exact .ok (h _)
  · exact .error _

theorem yields_computeOther (op : Arithmetic) {a b : Value} (ha : a.Sound) (hb : b.Sound) :
    Yields Sound (computeOther op a b) := by
  unfold computeOther
  split
  · exact .ok (.literal _)
  · cases ha with
    | list has =>
      cases hb with
      | list hbs => exact .ok (.list (List.forall_mem_append.mpr ⟨has, hbs⟩))
  · cases ha with
    | tuple has =>
      cases hb with
      | tuple hbs => exact .ok (.tuple (List.forall_mem_append.mpr ⟨has, hbs⟩))
  · exact .ok (.bytes _)
  · exact .error _
  · cases ha with
    | set has => exact .ok (.set fun v hv => has v (List.mem_filter.mp hv).1)
  · split
    · exact .error _
    · exact .error _
  · split
    · rename_i hs
      exact yields_repeated (sound_of_sequence? ha hs) _
    · rename_i hs
      exact yields_repeated (sound_of_sequence? hb hs) _
    · exact .error _
  · exact .error _

theorem yields_computeFloat (op : Arithmetic) (x y : Binary64) : Yields Sound (computeFloat op x y) := by
  unfold computeFloat
  simp only
  split
  · exact .ok (.literal _)
  · exact .error _

theorem yields_compute (op : Arithmetic) {a b : Value} (ha : a.Sound) (hb : b.Sound) :
    Yields Sound (a.compute op b) := by
  unfold compute
  split
  · exact .ok (.literal _)
  · split
    · exact (yields_anything _).bind fun _ _ => (yields_anything _).bind fun _ _ =>
        yields_computeFloat op _ _
    · exact yields_computeOther op ha hb
  · exact yields_computeOther op ha hb

/-! ## 6. Calls -/

/-- What is found by iterating a sound value is sound. -/
theorem sound_of_iterated? {v : Value} {items : List Value} {stop : Option Failure} (h : v.Sound)
    (hi : v.iterated? = some (items, stop)) : ∀ u ∈ items, u.Sound := by
  unfold iterated? at hi
  split at hi
  · cases hi
    cases h with
    | list hitems => exact hitems
  · cases hi
    cases h with
    | tuple hitems => exact hitems
  · cases hi
    cases h with
    | set hitems => exact hitems
  · cases hi
    cases h with
    | dict hkeys _ => exact hkeys
  · cases hi
    cases h with
    | generator hitems _ => exact hitems
  · cases hi
    cases h with
    | tree hwf =>
      intro u hu
      obtain ⟨entry, hentry, rfl⟩ := List.mem_map.mp hu
      refine .tuple fun w hw => ?_
      simp only [List.mem_cons, List.not_mem_nil, or_false] at hw
      rcases hw with rfl | rfl
      · exact .literal _
      · exact sound_treeFields hwf entry hentry
  · cases hi

theorem yields_membership (owner : String) {values : Value} (h : values.Sound) :
    Yields Sound (membership owner values) := by
  unfold membership
  split
  · exact .error _
  · rename_i items stop hitems
    have hsound := sound_of_iterated? h hitems
    refine (Yields.mapM fun v hv => yields_asTree (hsound v hv)).bind fun trees htrees => ?_
    split
    · exact .error _
    · split
      · exact .error _
      · rename_i hne
        refine .ok (.predicate (.membership ?_ (List.forall_mem_cons.mpr ⟨.member owner, htrees⟩)))
        cases trees with
        | nil => exact absurd rfl hne
        | cons t ts => simp

theorem yields_pattern (owner : String) (m : Match) (term : Value) :
    Yields Sound (pattern owner m term) := by
  unfold pattern
  split
  · exact .ok (.predicate (.pattern m (.member owner) _))
  · exact .error _

theorem yields_invoke (callee : Value) {arguments : List Value} (h : ∀ v ∈ arguments, v.Sound) :
    Yields Sound (callee.invoke arguments) := by
  unfold invoke
  split
  · split
    · rename_i argument
      split
      · exact yields_membership _ (h argument (by simp))
      · exact yields_pattern _ _ _
    · exact .error _
    · exact .error _
  · exact .error _

end Value

/-! ## 7. Bodies -/

namespace Body

open Value

mutual

/-- Whether no tree is given as data in a body. -/
def nodeFree : Body → Bool
  | .argument => true
  | .newRecord => true
  | .literal _ => true
  | .bytes _ => true
  | .node _ => false
  | .access base _ => nodeFree base
  | .item base key => nodeFree base && nodeFree key
  | .field name => nodeFree name
  | .predicate inner => nodeFree inner
  | .asTree value => nodeFree value
  | .list items => nodeFreeAll items
  | .tuple items => nodeFreeAll items
  | .set member => nodeFree member
  | .dict keys values => nodeFreeAll keys && nodeFreeAll values
  | .generator items => nodeFreeAll items
  | .compare _ left right => nodeFree left && nodeFree right
  | .connect _ left right => nodeFree left && nodeFree right
  | .invert operand => nodeFree operand
  | .compute _ left right => nodeFree left && nodeFree right
  | .and left right => nodeFree left && nodeFree right
  | .or left right => nodeFree left && nodeFree right
  | .not operand => nodeFree operand
  | .conditional test yes no => nodeFree test && nodeFree yes && nodeFree no
  | .chain first _ middle _ last => nodeFree first && nodeFree middle && nodeFree last
  | .call base _ arguments => nodeFree base && nodeFreeAll arguments
  | .raise _ => true
  | .kind .. => true

/-- Whether no tree is given as data in several bodies. -/
def nodeFreeAll : List Body → Bool
  | [] => true
  | b :: bs => nodeFree b && nodeFreeAll bs

end

theorem yields_asKey {v : Value} (h : v.Sound) : Yields Sound v.asKey := by
  unfold asKey
  split
  · exact .error _
  · exact .ok h

theorem yields_allOf : ∀ {outcomes : List (Except Failure Value)},
    (∀ x ∈ outcomes, Yields Sound x) → Yields (fun vs => ∀ v ∈ vs, v.Sound) (allOf outcomes)
  | [], _ => .ok (by simp)
  | x :: outcomes, h => by
      obtain ⟨hx, hrest⟩ := List.forall_mem_cons.mp h
      exact hx.bind fun v hv => (yields_allOf hrest).bind fun vs hvs =>
        .ok (List.forall_mem_cons.mpr ⟨hv, hvs⟩)

theorem sound_upToFailure : ∀ {outcomes : List (Except Failure Value)},
    (∀ x ∈ outcomes, Yields Sound x) → ∀ v ∈ (upToFailure outcomes).1, v.Sound
  | [], _ => by simp [upToFailure]
  | .error _ :: _, _ => by simp [upToFailure]
  | .ok v :: outcomes, h => by
      obtain ⟨hv, hrest⟩ := List.forall_mem_cons.mp h
      exact List.forall_mem_cons.mpr ⟨hv v rfl, sound_upToFailure hrest⟩

theorem yields_buildDict : ∀ {keys values : List (Except Failure Value)}
    {entries : List Value × List Value}, (∀ x ∈ keys, Yields Sound x) → (∀ x ∈ values, Yields Sound x) →
      SoundEntries entries → Yields Sound (buildDict keys values entries)
  | [], _, (_, _), _, _, h => .ok (.dict h.1 h.2)
  | _ :: _, [], (_, _), _, _, h => .ok (.dict h.1 h.2)
  | key :: keys, value :: values, (_, _), hkeys, hvalues, h => by
      obtain ⟨hkey, hkeys⟩ := List.forall_mem_cons.mp hkeys
      obtain ⟨hvalue, hvalues⟩ := List.forall_mem_cons.mp hvalues
      exact hkey.bind fun k hk => hvalue.bind fun v hv => (yields_asKey hk).bind fun k hk =>
        yields_buildDict hkeys hvalues (soundEntries_insertEntry hk hv h)

mutual

/-- **The value of a body in which no tree is given as data is sound.** -/
theorem yields_run : ∀ {b : Body}, b.nodeFree = true → Yields Sound b.run
  | .argument, _ => .ok (.record true)
  | .newRecord, _ => .ok (.record false)
  | .literal value, _ => .ok (.literal value)
  | .bytes value, _ => .ok (.bytes value)
  | .access base name, h => by
      rw [nodeFree] at h
      rw [run]
      exact (yields_run h).bind fun v hv => yields_access hv name
  | .item base key, h => by
      rw [nodeFree, Bool.and_eq_true] at h
      rw [run]
      exact (yields_run h.1).bind fun v hv => (yields_run h.2).bind fun k _ => yields_item hv k
  | .field name, h => by
      rw [nodeFree] at h
      rw [run]
      exact (yields_run h).bind fun v _ => yields_fieldNamed v
  | .predicate inner, h => by
      rw [nodeFree] at h
      rw [run]
      exact (yields_run h).bind fun v hv => (yields_asTree hv).bind fun t ht => .ok (.predicate ht)
  | .asTree value, h => by
      rw [nodeFree] at h
      rw [run]
      exact (yields_run h).bind fun v hv => (yields_asTree hv).bind fun t ht => .ok (.tree ht)
  | .list items, h => by
      rw [nodeFree] at h
      rw [run]
      exact (yields_allOf (yields_runAll h)).bind fun vs hvs => .ok (.list hvs)
  | .tuple items, h => by
      rw [nodeFree] at h
      rw [run]
      exact (yields_allOf (yields_runAll h)).bind fun vs hvs => .ok (.tuple hvs)
  | .set member, h => by
      rw [nodeFree] at h
      rw [run]
      exact (yields_run h).bind fun v hv => (yields_asKey hv).bind fun k hk =>
        .ok (.set (by simpa using hk))
  | .dict keys values, h => by
      rw [nodeFree, Bool.and_eq_true] at h
      rw [run]
      exact yields_buildDict (yields_runAll h.1) (yields_runAll h.2) ⟨by simp, by simp⟩
  | .generator items, h => by
      rw [nodeFree] at h
      rw [run]
      exact .ok (.generator (sound_upToFailure (yields_runAll h)) _)
  | .compare c left right, h => by
      rw [nodeFree, Bool.and_eq_true] at h
      rw [run]
      exact (yields_run h.1).bind fun a ha => (yields_run h.2).bind fun b hb => yields_compare c ha hb
  | .connect op left right, h => by
      rw [nodeFree, Bool.and_eq_true] at h
      rw [run]
      exact (yields_run h.1).bind fun a ha => (yields_run h.2).bind fun b hb => yields_connect op ha hb
  | .invert operand, h => by
      rw [nodeFree] at h
      rw [run]
      exact (yields_run h).bind fun v hv => yields_invert hv
  | .compute op left right, h => by
      rw [nodeFree, Bool.and_eq_true] at h
      rw [run]
      exact (yields_run h.1).bind fun a ha => (yields_run h.2).bind fun b hb => yields_compute op ha hb
  | .and left right, h => by
      rw [nodeFree, Bool.and_eq_true] at h
      rw [run]
      refine (yields_run h.1).bind fun a ha => (yields_anything _).bind fun test _ => ?_
      cases test
      · exact .ok ha
      · exact yields_run h.2
  | .or left right, h => by
      rw [nodeFree, Bool.and_eq_true] at h
      rw [run]
      refine (yields_run h.1).bind fun a ha => (yields_anything _).bind fun test _ => ?_
      cases test
      · exact yields_run h.2
      · exact .ok ha
  | .not operand, h => by
      rw [nodeFree] at h
      rw [run]
      exact (yields_run h).bind fun _ _ => (yields_anything _).bind fun _ _ => .ok (.literal _)
  | .conditional test yes no, h => by
      simp only [nodeFree, Bool.and_eq_true] at h
      rw [run]
      refine (yields_run h.1.1).bind fun _ _ => (yields_anything _).bind fun test _ => ?_
      cases test
      · exact yields_run h.2
      · exact yields_run h.1.2
  | .chain first c middle d last, h => by
      simp only [nodeFree, Bool.and_eq_true] at h
      rw [run]
      refine (yields_run h.1.1).bind fun f hf => (yields_run h.1.2).bind fun m hm => ?_
      refine (yields_compare c hf hm).bind fun l hl => (yields_anything _).bind fun test _ => ?_
      cases test
      · exact .ok hl
      · exact (yields_run h.2).bind fun r hr => yields_compare d hm hr
  | .call base name arguments, h => by
      rw [nodeFree, Bool.and_eq_true] at h
      rw [run]
      exact (yields_run h.1).bind fun v hv => (yields_access hv name).bind fun callee _ =>
        (yields_allOf (yields_runAll h.2)).bind fun vs hvs => yields_invoke callee hvs
  | .raise failure, _ => .error failure
  | .kind name shown, _ => .ok (.kind name shown)

theorem yields_runAll : ∀ {bs : List Body}, nodeFreeAll bs = true → ∀ x ∈ runAll bs, Yields Sound x
  | [], _ => by simp [runAll]
  | b :: bs, h => by
      rw [nodeFreeAll, Bool.and_eq_true] at h
      rw [runAll]
      exact List.forall_mem_cons.mpr ⟨yields_run h.1, yields_runAll h.2⟩

end

end Body

end BoundQuery
