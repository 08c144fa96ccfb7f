import BoundQuery.Proofs.Query.Independence
import BoundQuery.Proofs.Sql.Alignment
import BoundQuery.Proofs.Sql.FirstFault

/-!
# Rows and their number

A query is compiled to a statement for its rows and to one for their number. Both hold the same text from
the table up to the having clause (`Descriptor.bodyText`), with the same values; around it the one has the
projection, the order and the bounds, and the other nothing of a query. So whatever builds on these four
leaves the number as it is.

* `Sql.count_ok` and `Sql.select_ok` – the two statements around one body;
* `Descriptor.SameBody` – two queries that agree on every clause of the body;
* `Call.map_applyAll_onBody` – of a chain of calls, only those on the body count.
-/

namespace BoundQuery

open BoundQuery.Sql

/-! ## 1. One body in two statements -/

namespace Sql

/-- Texts, each after a blank. -/
def spaced (texts : List String) : String := String.join (texts.map (" " ++ ·))

theorem spaced_cons (text : String) (texts : List String) :
    spaced (text :: texts) = " " ++ text ++ spaced texts := by
  simp [spaced, String.join_cons]

theorem spaced_append (texts texts' : List String) :
    spaced (texts ++ texts') = spaced texts ++ spaced texts' := by
  rw [spaced, List.map_append, String.join_append]
  rfl

theorem intercalate_cons_eq_spaced (text : String) : ∀ texts : List String,
    " ".intercalate (text :: texts) = text ++ spaced texts
  | [] => by simp [spaced]
  | next :: texts => by
      have ih := intercalate_cons_eq_spaced next texts
      rw [String.intercalate_cons_cons, ih, spaced_cons]
      simp only [String.append_assoc]

/-- A clause that may be absent, after a blank. -/
theorem spaced_toList {α : Type} (x : Option α) (text : α → String) :
    spaced (x.map text).toList = x.elim "" fun a => " " ++ text a := by
  cases x with
  | none => rfl
  | some a => simp [spaced]

theorem spaced_predicateParts (place : Nat → String) (n : Nat) (keyword : String) (tree : Option Tree) :
    spaced (spellEach place n (predicateParts keyword tree))
      = tree.elim "" fun t => " " ++ keyword ++ " " ++ spell place n t.lexemes := by
  cases tree with
  | none => rfl
  | some t => simp [predicateParts, predicatePart, spellEach, spaced, String.append_assoc]

end Sql

namespace Descriptor

/-- The text of a query from the table up to the having clause. -/
def bodyText (place : Nat → String) (d : Descriptor) : String :=
  "FROM " ++ d.table ++ spaced (d.joins.map joinClause)
    ++ d.filter.elim "" (fun t => " WHERE " ++ spell place 0 t.lexemes)
    ++ d.groupKey.elim "" (fun key => " GROUP BY " ++ key)
    ++ d.having.elim "" (fun t => " HAVING " ++ spell place (d.filter.elim [] Tree.leaves).length t.lexemes)

/-- The text of a query behind the having clause: the order and the bounds. -/
def windowText (d : Descriptor) : String :=
  (if d.ordering.isEmpty then ""
    else " ORDER BY " ++ Text.commaSeparated
      (d.ordering.map fun item => item.field ++ " " ++ item.direction.keyword))
    ++ d.limit.elim "" (fun n => " LIMIT " ++ n.repr)
    ++ d.offset.elim "" (fun n => " OFFSET " ++ n.repr)

theorem spaced_bodyParts [Limits] {d : Descriptor} (h : d.fault? = none) (place : Nat → String) :
    spaced (spellEach place 0 d.bodyParts) = " " ++ d.bodyText place := by
  obtain ⟨hfilter, _⟩ := Option.or_eq_none_iff.mp h
  have hgroup := spaced_toList d.groupKey fun key => "GROUP BY " ++ key
  simp only [bodyParts, spellEach_append, spellEach_plainParts, spaced_append, spaced_predicateParts,
    List.flatten_append, values_append, values_plainParts, values_predicateParts hfilter, hgroup,
    List.singleton_append, spaced_cons, List.length_append, List.length_nil, Nat.zero_add, Nat.add_zero]
  simp [bodyText, ← String.append_assoc]

theorem spaced_window (d : Descriptor) :
    spaced (orderClause d.ordering ++ (d.limit.map fun n => RowBound.limit.keyword ++ " " ++ n.repr).toList
      ++ (d.offset.map fun n => RowBound.offset.keyword ++ " " ++ n.repr).toList) = d.windowText := by
  have horder : spaced (orderClause d.ordering) = if d.ordering.isEmpty then ""
      else " ORDER BY " ++ Text.commaSeparated
        (d.ordering.map fun item => item.field ++ " " ++ item.direction.keyword) := by
    rw [orderClause]
    split
    · rfl
    · simp [spaced, ← String.append_assoc]
  rw [spaced_append, spaced_append, horder, spaced_toList, spaced_toList]
  simp [windowText, RowBound.keyword, ← String.append_assoc]

end Descriptor

namespace Sql

/-- The statement for the number of rows is the body alone. -/
theorem count_ok [Limits] {d : Descriptor} (h : d.fault? = none) (style : Style) :
    Sql.count style d
      = .ok ⟨"SELECT COUNT(*) " ++ d.bodyText style.place, d.leaves.toArray, style.reported⟩ := by
  rw [Sql.count, body_ok h]
  show Except.ok _ = _
  rw [intercalate_cons_eq_spaced, Descriptor.spaced_bodyParts h, Descriptor.values_bodyParts h,
    ← String.append_assoc]
  rfl

/-- The statement for the rows is the same body between the projection and the window. -/
theorem select_ok [Limits] {d : Descriptor} (h : d.fault? = none) (hbounds : Wanted.rows.Writable d)
    (style : Style) :
    Sql.select style d = .ok ⟨selectClause d.projection ++ " " ++ d.bodyText style.place ++ d.windowText,
      d.leaves.toArray, style.reported⟩ := by
  rw [Sql.select, body_ok h, boundClause_ok hbounds.1, boundClause_ok hbounds.2]
  show Except.ok _ = _
  rw [List.append_assoc, List.append_assoc, ← List.append_assoc (orderClause d.ordering),
    List.append_assoc, List.singleton_append, intercalate_cons_eq_spaced, spaced_append,
    Descriptor.spaced_window, Descriptor.spaced_bodyParts h, Descriptor.values_bodyParts h]
  simp only [String.append_assoc]

theorem select_unwritable [Limits] {d : Descriptor} (h : d.fault? = none)
    (hbounds : ¬ Wanted.rows.Writable d) (style : Style) : Sql.select style d = .error .unwritable := by
  have hrows := Wanted.rows.statement_eq style d
  rw [Wanted.outline, h, Wanted.parts_error hbounds] at hrows
  exact hrows

end Sql

/-- A query is compiled exactly if it has no fault and its bounds can be written, and binds its leaves. -/
theorem Wanted.exists_statement_iff [Limits] {wanted : Wanted} {style : Style} {d : Descriptor}
    {values : List Literal} :
    (∃ answer, wanted.statement style d = .ok answer ∧ answer.values.toList = values) ↔
      d.fault? = none ∧ wanted.Writable d ∧ values = d.leaves := by
  rw [← and_assoc, ← exists_outline_iff_fault?, wanted.statement_eq]
  constructor
  · rintro ⟨answer, hanswer, rfl⟩
    cases hls : wanted.outline d with
    | error failure =>
      rw [hls] at hanswer
      cases hanswer
    | ok ls =>
      rw [hls] at hanswer
      cases hanswer
      exact ⟨⟨ls, rfl⟩, values_outline hls⟩
  · rintro ⟨⟨ls, hls⟩, rfl⟩
    rw [hls]
    exact ⟨_, rfl, values_outline hls⟩

/-! ## 2. Calls beside the body -/

/-- The clauses that the body is made from. -/
def Clause.inBody : Clause → Bool
  | .filter | .joins | .groupKey | .having => true
  | .projection | .ordering | .limit | .offset => false

namespace Descriptor

/-- Two queries agree on every clause of the body. -/
def SameBody (d e : Descriptor) : Prop := ∀ c : Clause, c.inBody = true → d.only c = e.only c

theorem SameBody.count_eq [Limits] {d e : Descriptor} (h : SameBody d e) (style : Style) :
    Sql.count style d = Sql.count style e := by
  have part {α : Type} (f : Descriptor → α) (c : Clause) (hc : c.inBody = true) :
      f (d.only c) = f (e.only c) := congrArg f (h c hc)
  have htable : d.table = e.table := part table .filter rfl
  have hfilter : d.filter = e.filter := part filter .filter rfl
  have hjoins : d.joins = e.joins := part joins .joins rfl
  have hgroup : d.groupKey = e.groupKey := part groupKey .groupKey rfl
  have hhaving : d.having = e.having := part having .having rfl
  simp only [Sql.count, body, htable, hfilter, hjoins, hgroup, hhaving]

/-- The same change on the same body makes the same body. -/
theorem SameBody.apply {d e : Descriptor} (h : SameBody d e) (change : Change) :
    SameBody (change.apply d) (change.apply e) := by
  intro c hc
  rw [change.only_apply c d, change.only_apply c e, h c hc]

/-- A change beside the body leaves it alone. -/
theorem SameBody.apply_of_beside {d e : Descriptor} (h : SameBody d e) {change : Change}
    (hbeside : ∀ c ∈ change.footprint, c.inBody = false) : SameBody (change.apply d) e := by
  intro c hc
  have huntouched : c ∉ change.footprint := fun hmem => by simp [hbeside c hmem] at hc
  rw [Change.only_apply_of_untouched huntouched, h c hc]

end Descriptor

namespace Call

/-- A call that builds the body: all but the projection, the sort keys and the bounds on rows do. -/
def onBody : Call → Bool
  | .filter _ | .filterAlso .. | .join .. | .group _ | .having _ => true
  | .project _ | .order .. | .take _ | .skip _ | .page .. => false

theorem inBody_of_footprint {call : Call} (h : call.onBody = false) :
    ∀ c ∈ call.footprint, c.inBody = false := by
  cases call with
  | filter | filterAlso | join | group | having => cases h
  | project | order | take | skip | page => simp [footprint, Clause.inBody]

theorem map_applyAll_cons [Limits] {α : Type} (f : Descriptor → α) (call : Call) (calls : List Call)
    (d : Descriptor) :
    (applyAll (call :: calls) d).map f
      = call.change.bind fun change => (applyAll calls (change.apply d)).map f := by
  rw [applyAll, List.foldlM_cons, apply_eq_map]
  cases call.change <;> rfl

/-- **Of a chain of calls, only those on the body count** for what is made from the body alone. If one of
    them fails, both chains fail, and with the same failure. -/
theorem map_applyAll_onBody [Limits] {α : Type} {f : Descriptor → α}
    (hf : ∀ {d e : Descriptor}, d.SameBody e → f d = f e) :
    ∀ {calls : List Call}, (∀ call ∈ calls, call.onBody = false → call.Valid) →
      ∀ {d e : Descriptor}, d.SameBody e →
        (applyAll calls d).map f = (applyAll (calls.filter onBody) e).map f
  | [], _, _, _, hsame => congrArg Except.ok (hf hsame)
  | call :: calls, hvalid, d, e, hsame => by
      have ih {d e : Descriptor} := map_applyAll_onBody hf (d := d) (e := e)
        fun other hother => hvalid other (List.mem_cons_of_mem _ hother)
      rw [map_applyAll_cons]
      cases hbody : call.onBody with
      | true =>
        rw [List.filter_cons_of_pos hbody, map_applyAll_cons]
        cases call.change with
        | error failure => rfl
        | ok change => exact ih (hsame.apply change)
      | false =>
        obtain ⟨change, hchange⟩ := hvalid call (by simp) hbody
        have hbeside : ∀ c ∈ change.footprint, c.inBody = false := by
          rw [footprint_of_change hchange]
          exact inBody_of_footprint hbody
        rw [List.filter_cons_of_neg (by simp [hbody]), hchange]
        exact ih (hsame.apply_of_beside hbeside)

end Call

/-! ## 3. Rows and their number -/

namespace Session

theorem compile_of_ask [Limits] {s : Session} {name : Literal} {style : Style}
    (h : s.styles.ask name = .ok style) (wanted : Wanted) (d : Descriptor) :
    (s.compile wanted name d).2
      = match wanted.statement style d with
        | .ok statement => .statement statement
        | .error failure => .failed failure := by
  have hbind : (s.styles.ask name >>= fun style => wanted.statement style d)
      = wanted.statement style d := by rw [h]; rfl
  rw [compile, hbind]
  cases wanted.statement style d <;> rfl

theorem compile_of_unknown [Limits] {s : Session} {name : Literal} {failure : Failure}
    (h : s.styles.ask name = .error failure) (wanted : Wanted) (d : Descriptor) :
    (s.compile wanted name d).2 = .failed failure := by
  rw [compile, h]
  rfl

theorem count_of_sameBody [Limits] (s : Session) (name : Literal) {d e : Descriptor} (h : d.SameBody e) :
    (s.compile .count name d).2 = (s.compile .count name e).2 := by
  cases hask : s.styles.ask name with
  | error failure => rw [compile_of_unknown hask, compile_of_unknown hask]
  | ok style =>
    rw [compile_of_ask hask, compile_of_ask hask, Wanted.statement, Wanted.statement, h.count_eq style]

/-- **Rows and their number are compiled around one body, with the same values.** Either both fail in the
    same way, or the number is compiled, and so are the rows unless a bound on them is too long. And calls
    with right arguments on the projection, the order or the bounds may stand anywhere in a chain, or not
    at all: the number is the same. -/
theorem count_beside_rows [Limits] (s : Session) (name : Literal) (d : Descriptor) :
    ((∃ failure, ∀ wanted, (s.compile wanted name d).2 = .failed failure) ∨
      ∃ style, s.styles.ask name = .ok style ∧
        (s.compile .count name d).2 = .statement
          ⟨"SELECT COUNT(*) " ++ d.bodyText style.place, d.leaves.toArray, style.reported⟩ ∧
        (Wanted.rows.Writable d → (s.compile .rows name d).2 = .statement
          ⟨selectClause d.projection ++ " " ++ d.bodyText style.place ++ d.windowText,
            d.leaves.toArray, style.reported⟩) ∧
        (¬ Wanted.rows.Writable d → (s.compile .rows name d).2 = .failed .unwritable)) ∧
    ∀ calls calls' : List Call, (∀ call ∈ calls ++ calls', call.onBody = false → call.Valid) →
      calls.filter Call.onBody = calls'.filter Call.onBody →
      (Call.applyAll calls d).map (fun e => (s.compile .count name e).2)
        = (Call.applyAll calls' d).map (fun e => (s.compile .count name e).2) := by
  constructor
  · cases hask : s.styles.ask name with
    | error failure => exact .inl ⟨failure, fun wanted => compile_of_unknown hask wanted d⟩
    | ok style =>
      cases hfault : d.fault? with
      | some e =>
        refine .inl ⟨.compile e, fun wanted => compile_failed_of_outline hask ?_⟩
        rw [Wanted.outline, hfault]
      | none =>
        refine .inr ⟨style, rfl, ?_, ?_, ?_⟩
        · rw [compile_of_ask hask, Wanted.statement, count_ok hfault]
        · intro hbounds
          rw [compile_of_ask hask, Wanted.statement, select_ok hfault hbounds]
        · intro hbounds
          rw [compile_of_ask hask, Wanted.statement, select_unwritable hfault hbounds]
  · intro calls calls' hvalid hsame
    have hcount {e e' : Descriptor} : e.SameBody e' → _ := s.count_of_sameBody name
    have hleft := Call.map_applyAll_onBody hcount
      (fun call hcall => hvalid call (List.mem_append_left _ hcall)) (d := d) (e := d) fun _ _ => rfl
    have hright := Call.map_applyAll_onBody hcount
      (fun call hcall => hvalid call (List.mem_append_right _ hcall)) (d := d) (e := d) fun _ _ => rfl
    rw [hleft, hright, hsame]

/-- A filter among a page, a sort key and a limit. -/
def pagedCalls : List Call :=
  [.page (.literal (.int 3)) (.literal (.int 20)), .filter (.value (.field "active")),
    .order .descending (.value (.field "age")), .take (.literal (.int 5))]

/-- The filter alone. -/
def unpagedCalls : List Call := [.filter (.value (.field "active"))]

theorem count_beside_rows_paged :
    ((∀ call ∈ pagedCalls ++ unpagedCalls, call.onBody = false → call.Valid) ∧
      pagedCalls.filter Call.onBody = unpagedCalls.filter Call.onBody) ∧
    (Call.applyAll pagedCalls (.ofTable "users")).map
        (fun e => ((ofQuery e).compile .count (.str "numeric") e).2)
      = (Call.applyAll unpagedCalls (.ofTable "users")).map
        (fun e => ((ofQuery e).compile .count (.str "numeric") e).2) := by
  have hvalid : ∀ call ∈ pagedCalls ++ unpagedCalls, call.onBody = false → call.Valid := by
    simp only [pagedCalls, unpagedCalls, List.cons_append, List.nil_append, List.forall_mem_cons]
    exact ⟨fun _ => ⟨_, rfl⟩, fun _ => ⟨_, rfl⟩, fun _ => ⟨_, rfl⟩, fun _ => ⟨_, rfl⟩, fun _ => ⟨_, rfl⟩,
      by simp⟩
  exact ⟨⟨hvalid, rfl⟩,
    (count_beside_rows (ofQuery (.ofTable "users")) (.str "numeric") (.ofTable "users")).2 _ _ hvalid rfl⟩

/-- A query that skips rows by a number of one digit more than can be written. -/
def farQuery : Descriptor := { Descriptor.ofTable "users" with offset := some (10 ^ 4300) }

/-- The number of rows is compiled where the rows are not. -/
theorem far_offset_counted :
    (∃ counted, ((ofQuery farQuery).compile .count (.str "qmark") farQuery).2 = .statement counted) ∧
      ((ofQuery farQuery).compile .rows (.str "qmark") farQuery).2 = .failed .unwritable := by
  have hfar : ¬ Wanted.rows.Writable farQuery := by
    intro h
    have hoffset : decimalLength ((10 : Int) ^ 4300).natAbs ≤ longestDecimal := h.2 _ rfl
    exact absurd hoffset (by decide +kernel)
  have hask : (ofQuery farQuery).styles.ask (.str "qmark") = .ok Style.qmark := rfl
  rw [compile_of_ask hask, compile_of_ask hask, Wanted.statement, Wanted.statement, count_ok rfl,
    select_unwritable rfl hfar]
  exact ⟨⟨_, rfl⟩, rfl⟩

end Session

end BoundQuery
