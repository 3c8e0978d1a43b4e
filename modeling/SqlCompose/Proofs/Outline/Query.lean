import Mathlib
import SqlCompose.Proofs.Outline.Fragment
import SqlCompose.Proofs.Supplied.Fragment

/-!
# Outlines of written descriptions

A description that refuses nothing is written as a fragment of the same outline as its own outline
is. The induction goes along the description; every clause of a query and every kind of condition
keeps the outline of what it is made of.
-/

namespace SqlCompose

open Fragment

/-! ### Parts without values -/

@[simp] lemma outline_expr (e : Expression) :
    Fragment.outline (expr e.outline) = Fragment.outline (expr e) := by
  simp [expr, Expression.outline]

lemma length_outlinePairs (pairs : List (String × Operand)) :
    (outlinePairs pairs).length = pairs.length := by
  induction pairs with
  | nil => rfl
  | cons pair pairs ih => rw [outlinePairs, List.length_cons, List.length_cons, ih]

/-- Whether a condition needs parentheses does not depend on its values. -/
lemma needsBrackets_outline (conjunction : Bool) (c : Condition) :
    needsBrackets conjunction c.outline = needsBrackets conjunction c := by
  match c with
  | .hash pairs => simp [Condition.outline, needsBrackets, length_outlinePairs]
  | .within _ (.list _) _ | .within _ (.rows _) _ | .within _ (.query _) _ => rfl
  | .and _ | .or _ | .not _ | .between .. | .like .. | .exist .. | .compare .. | .raw .. | .expr _
  | .lookup .. => rfl

lemma outline_orderBy (d : Dialect) (items : List OrderItem) :
    Fragment.outline (orderBy d (items.map OrderItem.outline)) =
      Fragment.outline (orderBy d items) := by
  have hitem (item : OrderItem) :
      Fragment.outline (orderItem d item.outline) = Fragment.outline (orderItem d item) := by
    cases item with
    | expr e => exact outline_expr e
    | column | random => rfl
  unfold orderBy
  rw [List.isEmpty_map]
  split
  · rfl
  · simp only [outline_after, outline_join, List.map_map]
    congr 2
    exact List.map_congr_left fun item _ => hitem item

/-- The table of a join or of a FROM clause, with the name it goes by. -/
lemma outline_tableRef {d : Dialect} {source : TableSource} {label : Option String}
    (h : error? (TableRef.fragment d ⟨source, label⟩) = none)
    (hsource : error? (source.fragment d) = none →
      Fragment.outline (source.outline.fragment d) = Fragment.outline (source.fragment d)) :
    Fragment.outline (TableRef.fragment d ⟨source.outline, label⟩) =
      Fragment.outline (TableRef.fragment d ⟨source, label⟩) := by
  cases label with
  | none => exact hsource h
  | some label =>
    rw [TableRef.fragment, error?_append, Option.or_eq_none_iff] at h
    rw [TableRef.fragment, TableRef.fragment, outline_append, outline_append, hsource h.1]

/-- A SELECT list is empty for two lists of the same outline, or for neither. -/
lemma outline_selectList {d : Dialect} {items : List SelectItem}
    (h : (selectFragments d (outlineSelect items)).map Fragment.outline =
      (selectFragments d items).map Fragment.outline) :
    Fragment.outline (selectList d (outlineSelect items)) =
      Fragment.outline (selectList d items) := by
  cases items with
  | nil => rfl
  | cons item items =>
    obtain ⟨item, label⟩ := item
    rw [selectList, selectList, if_neg (by simp [outlineSelect]), if_neg (by simp),
      outline_text_cons, outline_text_cons, outline_join, outline_join, h]

/-- A union is put together from the clauses and the further members alone. -/
lemma outline_withUnions {d : Dialect} {q r : Query}
    (hclauses : (q.clauses d).map Fragment.outline = (r.clauses d).map Fragment.outline)
    (hunions : (unionFragments d q.unions).map Fragment.outline =
      (unionFragments d r.unions).map Fragment.outline) :
    Fragment.outline (q.withUnions d) = Fragment.outline (r.withUnions d) := by
  have hsimple : Fragment.outline (q.simple d) = Fragment.outline (r.simple d) := by
    rw [Query.simple, Query.simple, outline_joinNonBlank, outline_joinNonBlank, hclauses]
  have hempty : q.unions.isEmpty = r.unions.isEmpty := by
    have hlength (unions : List UnionMember) :
        (unionFragments d unions).isEmpty = unions.isEmpty := by
      cases unions with
      | nil => rfl
      | cons member unions => obtain ⟨q, all⟩ := member; rfl
    rw [← hlength, ← hlength r.unions, ← List.isEmpty_map, hunions, List.isEmpty_map]
  rw [Query.withUnions, Query.withUnions, hempty]
  split
  · exact hsimple
  · rw [outline_append, outline_append, outline_text_cons, outline_text_cons, outline_join,
      outline_join, hunions, apply_ite Fragment.outline, apply_ite Fragment.outline,
      outline_bracket, outline_bracket, hsimple]

/-! ### Conditions and queries -/

mutual
/-- Without its values a condition is written alike, unless it is refused. -/
lemma Condition.outline_fragment {d : Dialect} (c : Condition)
    (h : error? (c.fragment d) = none) :
    Fragment.outline (c.outline.fragment d) = Fragment.outline (c.fragment d) := by
  match c with
  | .hash pairs =>
    rw [Condition.fragment, error?_joinNonBlank] at h
    rw [Condition.outline, Condition.fragment, Condition.fragment, outline_joinNonBlank,
      outline_joinNonBlank, outline_hashFragments pairs h]
  | .and items =>
    rw [Condition.fragment, error?_group] at h
    rw [Condition.outline, Condition.fragment, Condition.fragment, outline_group, outline_group,
      outline_memberFragments items h]
  | .or items =>
    rw [Condition.fragment, error?_group] at h
    rw [Condition.outline, Condition.fragment, Condition.fragment, outline_group, outline_group,
      outline_memberFragments items h]
  | .not item =>
    have hitem : error? (item.fragment d) = none := by
      rw [Condition.fragment] at h
      split at h
      · exact h
      · simpa using h
    have ih := item.outline_fragment hitem
    have hblank : (item.outline.fragment d).isBlank = (item.fragment d).isBlank := by
      rw [← isBlank_outline, ih, isBlank_outline]
    rw [Condition.outline, Condition.fragment, Condition.fragment, hblank]
    split
    · exact ih
    · simp [ih]
  | .between .. => simp [Condition.outline, Condition.fragment]
  | .within columns (.query q) _ =>
    rw [Condition.fragment] at h
    rw [Condition.outline, Condition.fragment, Condition.fragment]
    split at h
    · simp at h
    · rename_i hcolumns
      rw [error?_text_cons, error?_bracket] at h
      rw [if_neg hcolumns, if_neg hcolumns, outline_text_cons, outline_text_cons, outline_bracket,
        outline_bracket, q.outline_fragment h]
  | .within columns (.list values) _ =>
    rw [Condition.outline]
    match columns with
    | [] => rfl
    | [column] => exact outline_inList ..
    | _ :: _ :: _ => rfl
  | .within columns (.rows rows) _ =>
    rw [Condition.outline, Condition.fragment, Condition.fragment]
    split
    · rfl
    · exact outline_inRows ..
  | .like .. =>
    rw [Condition.outline, Condition.fragment, Condition.fragment]
    exact outline_like ..
  | .exist q _ =>
    rw [Condition.fragment, error?_text_cons, error?_bracket] at h
    rw [Condition.outline, Condition.fragment, Condition.fragment, outline_text_cons,
      outline_text_cons, outline_bracket, outline_bracket, q.outline_fragment h]
  | .compare _ _ (.value v) =>
    rw [Condition.outline, Operand.outline, Condition.fragment, Condition.fragment,
      Value.isNull_outline]
    split <;> rfl
  | .compare _ _ (.query q) =>
    rw [Condition.fragment, error?_text_cons, error?_bracket] at h
    rw [Condition.outline, Operand.outline, Condition.fragment, Condition.fragment,
      outline_text_cons, outline_text_cons, outline_bracket, outline_bracket, q.outline_fragment h]
  | .compare _ _ (.expr e) =>
    rw [Condition.outline, Operand.outline, Condition.fragment, Condition.fragment,
      outline_text_cons, outline_text_cons, outline_expr]
  | .compare _ _ (.list _) => rfl
  | .raw .. => simp [Condition.outline, Condition.fragment]
  | .expr e => simp [Condition.outline, Condition.fragment, Expression.outline]
  | .lookup field lookup (.query q) =>
    by_cases hl : lookup = .within
    · subst hl
      rw [Condition.fragment, error?_text_cons, error?_bracket] at h
      rw [Condition.outline, if_neg (by decide), Operand.outline, Condition.fragment,
        Condition.fragment, outline_text_cons, outline_text_cons, outline_bracket, outline_bracket,
        q.outline_fragment h]
    · rw [Condition.fragment_lookup fun _ h' => absurd h' hl] at h ⊢
      rw [Condition.outline, Condition.fragment_lookup fun _ h' => absurd h' hl]
      exact outline_lookup h
  | .lookup field lookup (.value _) | .lookup field lookup (.list _)
  | .lookup field lookup (.expr _) =>
    rw [Condition.fragment_lookup (by simp)] at h ⊢
    rw [Condition.outline, Condition.fragment_lookup
      fun _ _ => by split <;> simp [Operand.truth, Operand.outline]]
    exact outline_lookup h

lemma outline_hashFragments {d : Dialect} (pairs : List (String × Operand))
    (h : ∀ f ∈ hashFragments d pairs, error? f = none) :
    (hashFragments d (outlinePairs pairs)).map Fragment.outline =
      (hashFragments d pairs).map Fragment.outline := by
  match pairs with
  | [] => rfl
  | (column, .value v) :: pairs =>
    rw [hashFragments, List.forall_mem_cons] at h
    rw [outlinePairs, Operand.outline, hashFragments, hashFragments, List.map_cons, List.map_cons,
      outline_hashFragments pairs h.2, Value.isNull_outline]
    split <;> rfl
  | (column, .list values) :: pairs =>
    rw [hashFragments, List.forall_mem_cons] at h
    rw [outlinePairs, Operand.outline, hashFragments, hashFragments, List.map_cons, List.map_cons,
      outline_hashFragments pairs h.2, outline_inList]
  | (column, .query q) :: pairs =>
    rw [hashFragments, List.forall_mem_cons, error?_text_cons, error?_bracket] at h
    rw [outlinePairs, Operand.outline, hashFragments, hashFragments, List.map_cons, List.map_cons,
      outline_hashFragments pairs h.2, outline_text_cons, outline_text_cons, outline_bracket,
      outline_bracket, q.outline_fragment h.1]
  | (column, .expr e) :: pairs =>
    rw [hashFragments, List.forall_mem_cons] at h
    rw [outlinePairs, Operand.outline, hashFragments, hashFragments, List.map_cons, List.map_cons,
      outline_hashFragments pairs h.2, outline_text_cons, outline_text_cons, outline_expr]

lemma outline_memberFragments {d : Dialect} {conjunction : Bool} (items : List Condition)
    (h : ∀ m ∈ memberFragments d conjunction items, error? m.2 = none) :
    (memberFragments d conjunction (outlineConditions items)).map
        (fun m => (m.1, Fragment.outline m.2)) =
      (memberFragments d conjunction items).map fun m => (m.1, Fragment.outline m.2) := by
  match items with
  | [] => rfl
  | item :: items =>
    rw [memberFragments, List.forall_mem_cons] at h
    rw [outlineConditions, memberFragments, memberFragments, List.map_cons, List.map_cons,
      outline_memberFragments items h.2, item.outline_fragment h.1, needsBrackets_outline]

lemma outline_filterFragment {d : Dialect} (filter : Option Condition)
    (h : error? (filterFragment d filter) = none) :
    Fragment.outline (filterFragment d (outlineFilter filter)) =
      Fragment.outline (filterFragment d filter) := by
  match filter with
  | none => rfl
  | some c => exact c.outline_fragment h

lemma Selectable.outline_fragment {d : Dialect} (item : Selectable)
    (h : error? (item.fragment d) = none) :
    Fragment.outline (item.outline.fragment d) = Fragment.outline (item.fragment d) := by
  match item with
  | .column _ => rfl
  | .expr e => exact outline_expr e
  | .query q =>
    rw [Selectable.fragment, error?_bracket] at h
    rw [Selectable.outline, Selectable.fragment, Selectable.fragment, outline_bracket,
      outline_bracket, q.outline_fragment h]

lemma outline_groupingFragments {d : Dialect} (items : List Selectable)
    (h : ∀ f ∈ groupingFragments d items, error? f = none) :
    (groupingFragments d (outlineGrouping items)).map Fragment.outline =
      (groupingFragments d items).map Fragment.outline := by
  match items with
  | [] => rfl
  | item :: items =>
    rw [groupingFragments, List.forall_mem_cons] at h
    rw [outlineGrouping, groupingFragments, groupingFragments, List.map_cons, List.map_cons,
      outline_groupingFragments items h.2, item.outline_fragment h.1]

lemma outline_selectFragments {d : Dialect} (items : List SelectItem)
    (h : ∀ f ∈ selectFragments d items, error? f = none) :
    (selectFragments d (outlineSelect items)).map Fragment.outline =
      (selectFragments d items).map Fragment.outline := by
  match items with
  | [] => rfl
  | ⟨item, none⟩ :: items =>
    rw [selectFragments, List.forall_mem_cons] at h
    rw [outlineSelect, selectFragments, selectFragments, List.map_cons, List.map_cons,
      outline_selectFragments items h.2, item.outline_fragment h.1]
  | ⟨item, some label⟩ :: items =>
    rw [selectFragments, List.forall_mem_cons, error?_append, Option.or_eq_none_iff] at h
    rw [outlineSelect, selectFragments, selectFragments, List.map_cons, List.map_cons,
      outline_selectFragments items h.2, outline_append, outline_append,
      item.outline_fragment h.1.1]

lemma TableSource.outline_fragment {d : Dialect} (source : TableSource)
    (h : error? (source.fragment d) = none) :
    Fragment.outline (source.outline.fragment d) = Fragment.outline (source.fragment d) := by
  match source with
  | .table _ => rfl
  | .expr e => exact outline_expr e
  | .query q =>
    rw [TableSource.fragment, error?_bracket] at h
    rw [TableSource.outline, TableSource.fragment, TableSource.fragment, outline_bracket,
      outline_bracket, q.outline_fragment h]

lemma outline_tableFragments {d : Dialect} (tables : List TableRef)
    (h : ∀ f ∈ tableFragments d tables, error? f = none) :
    (tableFragments d (outlineTables tables)).map Fragment.outline =
      (tableFragments d tables).map Fragment.outline := by
  match tables with
  | [] => rfl
  | ⟨source, label⟩ :: tables =>
    rw [tableFragments, List.forall_mem_cons] at h
    rw [outlineTables, tableFragments, tableFragments, List.map_cons, List.map_cons,
      outline_tableFragments tables h.2, outline_tableRef h.1 source.outline_fragment]

lemma outline_joinFragments {d : Dialect} (joins : List Join)
    (h : ∀ f ∈ joinFragments d joins, error? f = none) :
    (joinFragments d (outlineJoins joins)).map Fragment.outline =
      (joinFragments d joins).map Fragment.outline := by
  match joins with
  | [] => rfl
  | ⟨kind, ⟨source, label⟩, on⟩ :: joins =>
    simp only [joinFragments_cons, List.forall_mem_cons, error?_append, error?_text_cons,
      Option.or_eq_none_iff, error?_clause] at h
    obtain ⟨⟨-, htable, hon⟩, hjoins⟩ := h
    rw [outlineJoins, joinFragments_cons, joinFragments_cons, List.map_cons, List.map_cons,
      outline_joinFragments joins hjoins]
    simp only [outline_append, outline_text_cons, outline_clause,
      outline_tableRef htable source.outline_fragment, outline_filterFragment on hon]

lemma outline_unionFragments {d : Dialect} (unions : List UnionMember)
    (h : ∀ f ∈ unionFragments d unions, error? f = none) :
    (unionFragments d (outlineUnions unions)).map Fragment.outline =
      (unionFragments d unions).map Fragment.outline := by
  match unions with
  | [] => rfl
  | ⟨q, all⟩ :: unions =>
    rw [unionFragments, List.forall_mem_cons] at h
    have hq : error? (q.fragment d) = none := by
      have := h.1
      rw [error?_after] at this
      split at this <;> simpa using this
    rw [outlineUnions, unionFragments, unionFragments, List.map_cons, List.map_cons,
      outline_unionFragments unions h.2, outline_after, outline_after, apply_ite Fragment.outline,
      apply_ite Fragment.outline, outline_bracket, outline_bracket, q.outline_fragment hq]

/-- Without its values a query is written alike, unless it is refused. -/
lemma Query.outline_fragment {d : Dialect} (q : Query) (h : error? (q.fragment d) = none) :
    Fragment.outline (q.outline.fragment d) = Fragment.outline (q.fragment d) := by
  match q with
  | ⟨select, option, distinct, tables, joins, filter, groupBy, having, orderBy, unions, _, _, _,
      params⟩ =>
    rw [Query.fragment_eq, error?_supply_cons, error?_trimEnd,
      error?_eq_none_of_effects (effects_withUnions d _), List.forall_mem_append] at h
    obtain ⟨hclauses, hunions⟩ := h
    simp only [Query.clauses, List.forall_mem_cons, error?_append, Option.or_eq_none_iff,
      error?_text_cons, error?_listClause, error?_join, error?_clause] at hclauses
    obtain ⟨⟨-, hselect⟩, htables, hjoins, hfilter, hgrouping, hhaving, -⟩ := hclauses
    have hlist : Fragment.outline (selectList d (outlineSelect select)) =
        Fragment.outline (selectList d select) :=
      outline_selectList (outline_selectFragments select (error?_selectList.mp hselect))
    rw [Query.outline, Query.fragment_eq, Query.fragment_eq, outline_supply_cons,
      outline_supply_cons, outline_trimEnd, outline_trimEnd, Params.outline_outline]
    refine congrArg (_ :: trimEnd ·) (outline_withUnions ?_ (outline_unionFragments unions hunions))
    simp only [Query.clauses, List.map_cons, List.map_nil, outline_append, outline_text_cons,
      outline_listClause, outline_join, outline_clause, hlist, outline_orderBy,
      outline_tableFragments tables htables, outline_joinFragments joins hjoins,
      outline_filterFragment filter hfilter, outline_filterFragment having hhaving,
      outline_groupingFragments groupBy hgrouping]
end

end SqlCompose
