import Mathlib
import SqlCompose.Proofs.Bound.Fragment
import SqlCompose.Proofs.Refusal.Query

/-!
# What a written description binds

A description without a null in a row that is looked for binds the same in every dialect that writes
it: its values and its maps, in order, under hints of the same letters and digits.
-/

namespace SqlCompose

open Fragment

variable {d : Dialect}

/-! ### Conditions and queries -/

lemma bound_tableRef {source : TableSource} {label : Option String} :
    bound (TableRef.fragment d ⟨source, label⟩) = bound (source.fragment d) := by
  cases label <;> simp [TableRef.fragment]

mutual
/-- A condition binds what its parts bind, in order, if no row of a membership has a null. -/
lemma Condition.bound_fragment (c : Condition) (h : error? (c.fragment d) = none)
    (hc : ¬(Part.condition c).HasNullRow) (hnull : ∀ p ∈ c.inside, ¬p.HasNullRow) :
    bound (c.fragment d) = c.bindables.map (Bindable.piece d) := by
  match c with
  | .hash pairs =>
    rw [Condition.fragment, error?_joinNonBlank] at h
    rw [Condition.inside] at hnull
    rw [Condition.fragment, bound_joinNonBlank, bound_hashFragments pairs h hnull,
      Condition.bindables]
  | .and items =>
    rw [Condition.fragment, error?_group] at h
    rw [Condition.inside] at hnull
    rw [Condition.fragment, bound_group, bound_memberFragments items h hnull, Condition.bindables]
  | .or items =>
    rw [Condition.fragment, error?_group] at h
    rw [Condition.inside] at hnull
    rw [Condition.fragment, bound_group, bound_memberFragments items h hnull, Condition.bindables]
  | .not item =>
    have hitem : error? (item.fragment d) = none := by
      rw [Condition.fragment] at h
      split at h
      · exact h
      · simpa using h
    rw [Condition.inside, List.forall_mem_cons] at hnull
    rw [Condition.fragment, Condition.bindables, ← item.bound_fragment hitem hnull.1 hnull.2]
    split <;> simp
  | .between .. => rfl
  | .within columns (.query q) _ =>
    rw [Condition.inside] at hnull
    rw [Condition.fragment] at h ⊢
    split at h
    · simp at h
    · rename_i hcolumns
      rw [error?_text_cons, error?_bracket] at h
      rw [if_neg hcolumns, bound_text_cons, bound_bracket, q.bound_fragment h hnull,
        Condition.bindables]
  | .within columns (.list values) _ =>
    match columns with
    | [] => simp [Condition.fragment] at h
    | [column] =>
      rw [Condition.fragment, bound_inList, Condition.bindables, List.flatMap_singleton]
    | _ :: _ :: _ => simp [Condition.fragment] at h
  | .within columns (.rows rows) negated =>
    have hrows : ∀ row ∈ rows, .null ∉ row :=
      fun row hrow hmem => hc (.mk columns negated hrow hmem)
    rw [Condition.fragment] at h ⊢
    split at h
    · simp at h
    · rename_i hcolumns
      rw [if_neg hcolumns, bound_inRows h hrows, Condition.bindables]
  | .like .. =>
    rw [Condition.fragment] at h ⊢
    rw [bound_like h, Condition.bindables]
  | .exist q _ =>
    rw [Condition.inside] at hnull
    rw [Condition.fragment, error?_text_cons, error?_bracket] at h
    rw [Condition.fragment, bound_text_cons, bound_bracket, q.bound_fragment h hnull,
      Condition.bindables]
  | .compare column _ (.value v) =>
    rw [Condition.fragment, Condition.bindables, map_piece_nonNull]
    cases v <;> rfl
  | .compare _ _ (.query q) =>
    rw [Condition.inside, Operand.parts] at hnull
    rw [Condition.fragment, error?_text_cons, error?_bracket] at h
    rw [Condition.fragment, bound_text_cons, bound_bracket, q.bound_fragment h hnull,
      Condition.bindables]
  | .compare _ _ (.expr e) => rfl
  | .compare _ _ (.list _) => simp [Condition.fragment] at h
  | .raw .. => rfl
  | .expr e => rfl
  | .lookup field lookup (.query q) =>
    by_cases hl : lookup = .within
    · subst hl
      rw [Condition.inside, Operand.parts] at hnull
      rw [Condition.fragment, error?_text_cons, error?_bracket] at h
      rw [Condition.fragment, bound_text_cons, bound_bracket, q.bound_fragment h hnull,
        Condition.bindables]
    · rw [Condition.fragment_lookup fun _ h' => absurd h' hl] at h
      cases lookup <;> simp [Lookup.fragment, ofPattern, ofScalar, refuseLookup] at h
  | .lookup field lookup (.value _) | .lookup field lookup (.list _)
  | .lookup field lookup (.expr _) =>
    rw [Condition.fragment_lookup (by simp)] at h ⊢
    rw [bound_lookup h, map_piece_bindables_quoteColumn, Condition.bindables]
    simp

lemma bound_hashFragments (pairs : List (String × Operand))
    (h : ∀ f ∈ hashFragments d pairs, error? f = none)
    (hnull : ∀ p ∈ partsOfPairs pairs, ¬p.HasNullRow) :
    (hashFragments d pairs).flatMap bound = (bindablesOfPairs pairs).map (Bindable.piece d) := by
  match pairs with
  | [] => rfl
  | (column, .value v) :: pairs =>
    rw [partsOfPairs, List.forall_mem_append] at hnull
    rw [hashFragments, List.forall_mem_cons] at h
    rw [hashFragments, List.flatMap_cons, bound_hashFragments pairs h.2 hnull.2, bindablesOfPairs,
      List.map_append, map_piece_nonNull]
    cases v <;> rfl
  | (column, .list values) :: pairs =>
    rw [partsOfPairs, List.forall_mem_append] at hnull
    rw [hashFragments, List.forall_mem_cons] at h
    rw [hashFragments, List.flatMap_cons, bound_hashFragments pairs h.2 hnull.2, bindablesOfPairs,
      List.map_append, bound_inList]
  | (column, .query q) :: pairs =>
    rw [partsOfPairs, List.forall_mem_append, Operand.parts] at hnull
    rw [hashFragments, List.forall_mem_cons, error?_text_cons, error?_bracket] at h
    rw [hashFragments, List.flatMap_cons, bound_hashFragments pairs h.2 hnull.2, bindablesOfPairs,
      List.map_append, bound_text_cons, bound_bracket, q.bound_fragment h.1 hnull.1]
  | (column, .expr e) :: pairs =>
    rw [partsOfPairs, List.forall_mem_append] at hnull
    rw [hashFragments, List.forall_mem_cons] at h
    rw [hashFragments, List.flatMap_cons, bound_hashFragments pairs h.2 hnull.2, bindablesOfPairs]
    rfl

lemma bound_memberFragments {conjunction : Bool} (items : List Condition)
    (h : ∀ m ∈ memberFragments d conjunction items, error? m.2 = none)
    (hnull : ∀ p ∈ partsOfConditions items, ¬p.HasNullRow) :
    ((memberFragments d conjunction items).flatMap fun m => bound m.2) =
      (bindablesOfConditions items).map (Bindable.piece d) := by
  match items with
  | [] => rfl
  | item :: items =>
    rw [partsOfConditions, List.forall_mem_cons, List.forall_mem_append] at hnull
    rw [memberFragments, List.forall_mem_cons] at h
    rw [memberFragments, List.flatMap_cons, item.bound_fragment h.1 hnull.1 hnull.2.1,
      bound_memberFragments items h.2 hnull.2.2, bindablesOfConditions, List.map_append]

lemma bound_filterFragment (filter : Option Condition)
    (h : error? (filterFragment d filter) = none)
    (hnull : ∀ p ∈ partsOfFilter filter, ¬p.HasNullRow) :
    bound (filterFragment d filter) = (bindablesOfFilter filter).map (Bindable.piece d) := by
  match filter with
  | none => rfl
  | some c =>
    rw [partsOfFilter, List.forall_mem_cons] at hnull
    exact c.bound_fragment h hnull.1 hnull.2

lemma Selectable.bound_fragment (item : Selectable) (h : error? (item.fragment d) = none)
    (hnull : ∀ p ∈ item.parts, ¬p.HasNullRow) :
    bound (item.fragment d) = item.bindables.map (Bindable.piece d) := by
  match item with
  | .column _ => rfl
  | .expr e => rfl
  | .query q =>
    rw [Selectable.parts] at hnull
    rw [Selectable.fragment, error?_bracket] at h
    rw [Selectable.fragment, bound_bracket, q.bound_fragment h hnull, Selectable.bindables]

lemma bound_groupingFragments (items : List Selectable)
    (h : ∀ f ∈ groupingFragments d items, error? f = none)
    (hnull : ∀ p ∈ partsOfGrouping items, ¬p.HasNullRow) :
    (groupingFragments d items).flatMap bound =
      (bindablesOfGrouping items).map (Bindable.piece d) := by
  match items with
  | [] => rfl
  | item :: items =>
    rw [partsOfGrouping, List.forall_mem_append] at hnull
    rw [groupingFragments, List.forall_mem_cons] at h
    rw [groupingFragments, List.flatMap_cons, item.bound_fragment h.1 hnull.1,
      bound_groupingFragments items h.2 hnull.2, bindablesOfGrouping, List.map_append]

lemma bound_selectFragments (items : List SelectItem)
    (h : ∀ f ∈ selectFragments d items, error? f = none)
    (hnull : ∀ p ∈ partsOfSelect items, ¬p.HasNullRow) :
    (selectFragments d items).flatMap bound = (bindablesOfSelect items).map (Bindable.piece d) := by
  match items with
  | [] => rfl
  | ⟨item, none⟩ :: items =>
    rw [partsOfSelect, List.forall_mem_append] at hnull
    rw [selectFragments, List.forall_mem_cons] at h
    rw [selectFragments, List.flatMap_cons, item.bound_fragment h.1 hnull.1,
      bound_selectFragments items h.2 hnull.2, bindablesOfSelect, List.map_append]
  | ⟨item, some label⟩ :: items =>
    rw [partsOfSelect, List.forall_mem_append] at hnull
    rw [selectFragments, List.forall_mem_cons, error?_append, Option.or_eq_none_iff] at h
    rw [selectFragments, List.flatMap_cons, bound_append, item.bound_fragment h.1.1 hnull.1,
      bound_selectFragments items h.2 hnull.2, bindablesOfSelect, List.map_append, bound_text_cons,
      bound_nil, List.append_nil]

lemma TableSource.bound_fragment (source : TableSource) (h : error? (source.fragment d) = none)
    (hnull : ∀ p ∈ source.parts, ¬p.HasNullRow) :
    bound (source.fragment d) = source.bindables.map (Bindable.piece d) := by
  match source with
  | .table _ => rfl
  | .expr e => rfl
  | .query q =>
    rw [TableSource.parts] at hnull
    rw [TableSource.fragment, error?_bracket] at h
    rw [TableSource.fragment, bound_bracket, q.bound_fragment h hnull, TableSource.bindables]

lemma bound_tableFragments (tables : List TableRef)
    (h : ∀ f ∈ tableFragments d tables, error? f = none)
    (hnull : ∀ p ∈ partsOfTables tables, ¬p.HasNullRow) :
    (tableFragments d tables).flatMap bound =
      (bindablesOfTables tables).map (Bindable.piece d) := by
  match tables with
  | [] => rfl
  | ⟨source, label⟩ :: tables =>
    rw [partsOfTables, List.forall_mem_append] at hnull
    rw [tableFragments, List.forall_mem_cons, error?_tableRef] at h
    rw [tableFragments, List.flatMap_cons, bound_tableRef, source.bound_fragment h.1 hnull.1,
      bound_tableFragments tables h.2 hnull.2, bindablesOfTables, List.map_append]

lemma bound_joinFragments (joins : List Join)
    (h : ∀ f ∈ joinFragments d joins, error? f = none)
    (hnull : ∀ p ∈ partsOfJoins joins, ¬p.HasNullRow) :
    (joinFragments d joins).flatMap bound = (bindablesOfJoins joins).map (Bindable.piece d) := by
  match joins with
  | [] => rfl
  | ⟨kind, ⟨source, label⟩, on⟩ :: joins =>
    simp only [partsOfJoins, List.forall_mem_cons, List.forall_mem_append] at hnull
    obtain ⟨-, ⟨hsourceNull, honNull⟩, hjoinsNull⟩ := hnull
    simp only [joinFragments_cons, List.forall_mem_cons, error?_append, error?_text_cons,
      Option.or_eq_none_iff, error?_clause, error?_tableRef] at h
    obtain ⟨⟨hkind, hsource, hon⟩, hjoins⟩ := h
    simp only [joinFragments_cons, List.flatMap_cons, bound_append, bound_text_cons, bound_clause,
      bound_checkJoin hkind, bound_tableRef, source.bound_fragment hsource hsourceNull,
      bound_filterFragment on hon honNull, bound_joinFragments joins hjoins hjoinsNull,
      bindablesOfJoins, List.map_append, List.nil_append]

lemma bound_unionFragments (unions : List UnionMember)
    (h : ∀ f ∈ unionFragments d unions, error? f = none)
    (hnull : ∀ p ∈ partsOfUnions unions, ¬p.HasNullRow) :
    (unionFragments d unions).flatMap bound =
      (bindablesOfUnions unions).map (Bindable.piece d) := by
  match unions with
  | [] => rfl
  | ⟨q, all⟩ :: unions =>
    rw [partsOfUnions, List.forall_mem_append] at hnull
    rw [unionFragments, List.forall_mem_cons, error?_after] at h
    have hq : error? (q.fragment d) = none := by
      have := h.1
      split at this <;> simpa using this
    rw [unionFragments, List.flatMap_cons, bound_unionFragments unions h.2 hnull.2,
      bindablesOfUnions, List.map_append, ← q.bound_fragment hq hnull.1, bound_after]
    split <;> simp

/-- A query binds what its clauses bind, in the order of the text. -/
lemma Query.bound_fragment (q : Query) (h : error? (q.fragment d) = none)
    (hnull : ∀ p ∈ q.parts, ¬p.HasNullRow) :
    bound (q.fragment d) = q.bindables.map (Bindable.piece d) := by
  match q with
  | ⟨select, option, distinct, tables, joins, filter, groupBy, having, orderBy, unions, _, _, _,
      params⟩ =>
    simp only [Query.parts, List.forall_mem_cons, List.forall_mem_append] at hnull
    obtain ⟨-, ⟨⟨⟨⟨⟨hselectNull, htablesNull⟩, hjoinsNull⟩, hfilterNull⟩, hgroupingNull⟩,
      hhavingNull⟩, hunionsNull⟩ := hnull
    rw [Query.fragment_eq, error?_supply_cons, error?_trimEnd,
      error?_eq_none_of_effects (effects_withUnions d _), List.forall_mem_append] at h
    obtain ⟨hclauses, hunions⟩ := h
    simp only [Query.clauses, List.forall_mem_cons, error?_append, Option.or_eq_none_iff,
      error?_text_cons, error?_listClause, error?_join, error?_clause,
      error?_selectList] at hclauses
    obtain ⟨⟨⟨hdistinct, -⟩, hselect⟩, htables, hjoins, hfilter, hgrouping, hhaving, -⟩ := hclauses
    rw [Query.fragment_eq, bound_supply_cons, bound_trimEnd,
      bound_of_effects (effects_withUnions d _), List.flatMap_append,
      bound_unionFragments unions hunions hunionsNull, Query.bindables]
    simp only [Query.clauses, List.flatMap_cons, bound_append, bound_text_cons,
      bound_distinct hdistinct, bound_selectModifier, bound_listClause, bound_join, bound_clause,
      bound_orderBy, bound_tableFragments tables htables htablesNull,
      bound_joinFragments joins hjoins hjoinsNull, bound_filterFragment filter hfilter hfilterNull,
      bound_groupingFragments groupBy hgrouping hgroupingNull,
      bound_filterFragment having hhaving hhavingNull, bound_selectList,
      bound_selectFragments select hselect hselectNull, List.map_cons, List.map_append]
    simp [Bindable.piece]
end

end SqlCompose
